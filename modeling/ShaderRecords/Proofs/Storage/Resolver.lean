/-
ShaderRecords.Proofs.Storage.Resolver — what a resolver knows about one type does not concern another.

All types of a source share one resolver, and a type that has a problem leaves in it what was remembered
before the problem. `Concerns name` says of a step that it neither notices what a resolver holds for types of
other names nor remembers anything for them: it extends the resolver in front (`grows`), and behind any part
of a resolver that is silent about the name it does what it does without that part (`frame`). The property
goes along chains of steps, and `concerns_resolveAll` says that resolving the members of a type has it.

`Maintains I x Q` says of a step that it keeps an invariant of the resolver and gives what has a property, and
`Keeps P x Q` is the case of a property of all remembered layouts. Resolving the members of a type keeps what
resolving each request keeps, and gives a layout for each of them (`maintains_resolveAll`). Whether a layout
is remembered or made, it has every property of the layouts that are made of requests (`keeps_resolveAll`).
`Steady x` says that a step does not break down; resolving does not if making layouts of the requests does not
(`steady_resolveAll`).
-/
import ShaderRecords.Product.TypeProduct
import ShaderRecords.Proofs.Storage.Resolution

namespace ShaderRecords

/-! ## Runs of steps -/

namespace Resolving

variable {α β : Type}

/-- What a step gives, and the resolver that it leaves. -/
def outcome (x : Resolving α) (r : Resolver) : Except (Failure DirectiveError) α × Resolver :=
  x.run.run r

@[simp] theorem outcome_pure (a : α) (r : Resolver) :
    outcome (pure a) r = (.ok a, r) := rfl

theorem outcome_bind (x : Resolving α) (f : α → Resolving β) (r : Resolver) :
    outcome (x >>= f) r =
      match outcome x r with
      | (.ok a, r') => outcome (f a) r'
      | (.error e, r') => (.error e, r') := by
  unfold outcome
  rw [ExceptT.run_bind, StateT.run_bind]
  show (match x.run.run r with | (res, r') => StateT.run _ r') = _
  rcases x.run.run r with ⟨_ | a, r'⟩ <;> rfl

end Resolving

/-! ## Steps for one type -/

/-- Whether a resolver remembers nothing for types of a name. -/
def Resolver.IsSilentOn (r : Resolver) (name : Value) : Prop :=
  ∀ e ∈ r.known, e.1.type.same name = false

/-- A resolver in front of another one. -/
def Resolver.before (r other : Resolver) : Resolver :=
  ⟨r.known ++ other.known⟩

/-- A step that works for types of one name only. -/
structure Concerns {α : Type} (name : Value) (x : Resolving α) : Prop where
  /-- What is remembered is remembered under the name. -/
  grows : ∀ r, ∃ made : Resolver, (x.outcome r).2 = made.before r ∧ ∀ e ∈ made.known, e.1.type = name
  /-- What is remembered for other names is not noticed. -/
  frame : ∀ r other : Resolver, other.IsSilentOn name →
    x.outcome (r.before other) = ((x.outcome r).1, (x.outcome r).2.before other)

namespace Concerns

variable {α β : Type} {name : Value}

theorem of_outcome {x : Resolving α} {res : Except (Failure DirectiveError) α}
    (h : ∀ r, x.outcome r = (res, r)) : Concerns name x where
  grows r := ⟨{}, by rw [h]; rfl, by simp⟩
  frame r other _ := by rw [h, h]

theorem pure (a : α) : Concerns name (Pure.pure a) :=
  of_outcome fun _ => rfl

theorem throw (e : Failure DirectiveError) : Concerns name (MonadExcept.throw e : Resolving α) :=
  of_outcome fun _ => rfl

theorem lift (x : Except (Failure DirectiveError) α) : Concerns name (ExceptT.mk (Pure.pure x)) :=
  of_outcome fun _ => rfl

theorem bind {x : Resolving α} {f : α → Resolving β} (hx : Concerns name x)
    (hf : ∀ a, Concerns name (f a)) : Concerns name (x >>= f) where
  grows r := by
    obtain ⟨made, hmade, htype⟩ := hx.grows r
    rw [Resolving.outcome_bind]
    rcases h : x.outcome r with ⟨_ | a, r'⟩
    · exact ⟨made, by rw [← hmade, h], htype⟩
    · obtain rfl : r' = made.before r := by rw [← hmade, h]
      obtain ⟨more, hmore, htype'⟩ := (hf a).grows (made.before r)
      refine ⟨more.before made, ?_, ?_⟩
      · exact hmore.trans (by simp [Resolver.before])
      · intro e he
        rcases List.mem_append.mp he with he | he
        · exact htype' e he
        · exact htype e he
  frame r other hother := by
    rw [Resolving.outcome_bind, Resolving.outcome_bind, hx.frame r other hother]
    rcases x.outcome r with ⟨_ | a, r'⟩
    · rfl
    · exact (hf a).frame r' other hother

theorem map {x : Resolving α} (f : α → β) (hx : Concerns name x) : Concerns name (f <$> x) :=
  hx.bind fun a => pure (f a)

theorem mapM {γ : Type} {f : γ → Resolving α} {xs : List γ} (h : ∀ x ∈ xs, Concerns name (f x)) :
    Concerns name (xs.mapM f) :=
  mapM_of_bind (P := fun x => Concerns name x) pure bind h

end Concerns

/-- A key of a type is not found in a resolver that is silent about the type. -/
theorem Resolver.find?_before {r other : Resolver} {key : LayoutKey} (h : other.IsSilentOn key.type) :
    (r.before other).find? key = r.find? key := by
  have hnone : other.known.find? (fun entry => entry.1.same key) = none := by
    refine List.find?_eq_none.mpr fun e he => ?_
    simp [LayoutKey.same, h e he]
  simp [Resolver.find?, Resolver.before, List.find?_append, hnone]

/-- The layout remembered under a key, or else one that is made and remembered. -/
def lookupOrMake (key : LayoutKey) (made : Except (Failure DirectiveError) (Layout Number)) :
    Resolving (Layout Number) := do
  match (← get).find? key with
  | some l => return l
  | none =>
    let l ← ExceptT.mk (pure made)
    modify (·.remember key l)
    return l

theorem resolve_eq (typeName : Value) (m : Member) (d : Directive) (position : Int) :
    resolve typeName m d position = (do
      let _ ← ExceptT.mk (pure (orBreak typeName.asKey))
      let _ ← ExceptT.mk (pure (orBreak m.name.asKey))
      lookupOrMake ⟨typeName, m.name, position⟩ (Layout.ofDirective typeName m d)) := rfl

theorem outcome_lookupOrMake (key : LayoutKey) (made : Except (Failure DirectiveError) (Layout Number))
    (r : Resolver) :
    (lookupOrMake key made).outcome r =
      match r.find? key, made with
      | some l, _ => (.ok l, r)
      | none, .ok l => (.ok l, r.remember key l)
      | none, .error e => (.error e, r) := by
  have hget : Resolving.outcome (get : Resolving Resolver) r = (.ok r, r) := rfl
  rw [lookupOrMake, Resolving.outcome_bind, hget]
  cases hfound : r.find? key with
  | some l => simp [hfound]
  | none => cases made <;> simp only [hfound] <;> rfl

theorem concerns_lookupOrMake (key : LayoutKey) (made : Except (Failure DirectiveError) (Layout Number)) :
    Concerns key.type (lookupOrMake key made) where
  grows r := by
    rw [outcome_lookupOrMake]
    cases r.find? key with
    | some l => exact ⟨{}, rfl, by simp⟩
    | none =>
      cases made with
      | ok l => exact ⟨⟨[(key, l)]⟩, rfl, by simp⟩
      | error e => exact ⟨{}, rfl, by simp⟩
  frame r other hother := by
    rw [outcome_lookupOrMake, outcome_lookupOrMake, Resolver.find?_before hother]
    cases r.find? key with
    | some l => rfl
    | none => cases made <;> rfl

theorem concerns_resolve (typeName : Value) (m : Member) (d : Directive) (position : Int) :
    Concerns typeName (resolve typeName m d position) := by
  rw [resolve_eq]
  exact (Concerns.lift _).bind fun _ => (Concerns.lift _).bind fun _ =>
    concerns_lookupOrMake ⟨typeName, m.name, position⟩ _

/-- Resolving a member is about the type of the member. -/
theorem concerns_resolveMember (typeName : Value) (m : Member) :
    Concerns typeName (resolveMember typeName m) := by
  unfold resolveMember
  split
  · exact (Concerns.throw _).bind fun _ => Concerns.mapM fun e _ => concerns_resolve _ _ _ _
  · exact Concerns.mapM fun e _ => concerns_resolve _ _ _ _

theorem concerns_resolveAll (t : TypeDef) (members : List Member) :
    Concerns t.name (TypeProduct.resolveAll t members) :=
  (Concerns.mapM fun m _ => concerns_resolveMember t.name m).bind fun _ => Concerns.pure _

/-! ## Invariants -/

/-- Whether a step keeps an invariant of the resolver, and gives what has a property. -/
def Maintains {α : Type} (I : Resolver → Prop) (x : Resolving α) (Q : α → Prop) : Prop :=
  ∀ r : Resolver, I r → I (x.outcome r).2 ∧ ∀ a, (x.outcome r).1 = .ok a → Q a

namespace Maintains

variable {α β : Type} {I : Resolver → Prop}

theorem lift {x : Except (Failure DirectiveError) α} {Q : α → Prop} (h : ∀ a, x = .ok a → Q a) :
    Maintains I (ExceptT.mk (Pure.pure x)) Q :=
  fun _ hr => ⟨hr, h⟩

theorem pure {a : α} {Q : α → Prop} (h : Q a) : Maintains I (Pure.pure a) Q :=
  lift (x := .ok a) fun _ ha => Except.ok.inj ha ▸ h

theorem bind {x : Resolving α} {f : α → Resolving β} {Q : α → Prop} {R : β → Prop} (hx : Maintains I x Q)
    (hf : ∀ a, Q a → Maintains I (f a) R) : Maintains I (x >>= f) R := by
  intro r hr
  obtain ⟨hkept, hgiven⟩ := hx r hr
  rw [Resolving.outcome_bind]
  rcases h : x.outcome r with ⟨_ | a, r'⟩
  · rw [h] at hkept
    exact ⟨hkept, by simp⟩
  · rw [h] at hkept hgiven
    exact hf a (hgiven a rfl) r' hkept

/-- Several steps give one after another what has the property of each. -/
theorem mapM {γ : Type} {f : γ → Resolving α} {Q : γ → α → Prop} {xs : List γ}
    (h : ∀ x ∈ xs, Maintains I (f x) (Q x)) : Maintains I (xs.mapM f) (List.Forall₂ Q xs) := by
  induction xs with
  | nil => exact pure .nil
  | cons x xs ih =>
    rw [List.mapM_cons]
    refine (h x (by simp)).bind fun y hy => ?_
    exact (ih fun z hz => h z (List.mem_cons_of_mem _ hz)).bind fun ys hys => pure (.cons hy hys)

theorem imp {x : Resolving α} {Q R : α → Prop} (hx : Maintains I x Q) (h : ∀ a, Q a → R a) :
    Maintains I x R :=
  fun r hr => ⟨(hx r hr).1, fun a ha => h a ((hx r hr).2 a ha)⟩

end Maintains

theorem maintains_resolve {I : Resolver → Prop} {Q : Layout Number → Prop} {typeName : Value} {m : Member}
    {d : Directive} {position : Int}
    (h : Maintains I (lookupOrMake ⟨typeName, m.name, position⟩ (Layout.ofDirective typeName m d)) Q) :
    Maintains I (resolve typeName m d position) Q := by
  rw [resolve_eq]
  refine (Maintains.lift (Q := fun _ => True) fun _ _ => trivial).bind fun _ _ => ?_
  exact (Maintains.lift (Q := fun _ => True) fun _ _ => trivial).bind fun _ _ => h

/-- Resolving a member gives a layout for each of its requests, in their order. -/
theorem maintains_resolveMember {I : Resolver → Prop} {typeName : Value} {m : Member}
    {Q : Directive × Nat → Layout Number → Prop}
    (h : ∀ p ∈ m.packing.zipIdx, Maintains I (resolve typeName m p.1 (p.2 : Int)) (Q p)) :
    Maintains I (resolveMember typeName m) (List.Forall₂ Q m.packing.zipIdx) := by
  unfold resolveMember
  split
  · exact (Maintains.lift (x := .error _) (Q := fun _ => True) (by simp)).bind fun _ _ =>
      Maintains.mapM h
  · exact Maintains.mapM h

/-- Resolving the members of a type gives a layout for each request of each of them, and nothing else. -/
theorem maintains_resolveAll {I : Resolver → Prop} {Q : Member → Directive × Nat → Layout Number → Prop}
    {t : TypeDef} {members : List Member}
    (h : ∀ m ∈ members, ∀ p ∈ m.packing.zipIdx, Maintains I (resolve t.name m p.1 (p.2 : Int)) (Q m p)) :
    Maintains I (TypeProduct.resolveAll t members) fun ls =>
      (∀ l ∈ ls, ∃ m ∈ members, ∃ p ∈ m.packing.zipIdx, Q m p l)
        ∧ ∀ m ∈ members, ∀ p ∈ m.packing.zipIdx, ∃ l ∈ ls, Q m p l := by
  have hmember : ∀ m ∈ members,
      Maintains I (resolveMember t.name m) (List.Forall₂ (Q m) m.packing.zipIdx) :=
    fun m hm => maintains_resolveMember (h m hm)
  refine (Maintains.mapM hmember).bind fun lists hlists => Maintains.pure ⟨fun l hl => ?_, fun m hm p hp => ?_⟩
  · obtain ⟨ls, hls, hl⟩ := List.mem_flatten.mp hl
    obtain ⟨m, hm, hrequests⟩ := exists_mem_of_forall₂ hlists hls
    obtain ⟨p, hp, hQ⟩ := exists_mem_of_forall₂ hrequests hl
    exact ⟨m, hm, p, hp, hQ⟩
  · obtain ⟨ls, hls, hrequests⟩ := exists_mem_of_forall₂ hlists.flip hm
    obtain ⟨l, hl, hQ⟩ := exists_mem_of_forall₂ hrequests.flip hp
    exact ⟨l, List.mem_flatten.mpr ⟨ls, hls, hl⟩, hQ⟩

/-! ## Properties of layouts -/

/-- Whether a step keeps a property of all remembered layouts, and gives what has another property. -/
def Keeps {α : Type} (P : Layout Number → Prop) (x : Resolving α) (Q : α → Prop) : Prop :=
  Maintains (fun r => ∀ e ∈ r.known, P e.2) x Q

theorem keeps_lookupOrMake {P : Layout Number → Prop} (key : LayoutKey)
    {made : Except (Failure DirectiveError) (Layout Number)} (h : ∀ l, made = .ok l → P l) :
    Keeps P (lookupOrMake key made) P := by
  intro r hr
  rw [outcome_lookupOrMake]
  cases hfound : r.find? key with
  | some l =>
    obtain ⟨e, he, rfl⟩ := Option.map_eq_some_iff.mp hfound
    exact ⟨hr, fun l hl => Except.ok.inj hl ▸ hr e (List.mem_of_find?_eq_some he)⟩
  | none =>
    cases made with
    | error e => exact ⟨hr, by simp⟩
    | ok l =>
      refine ⟨List.forall_mem_cons.mpr ⟨h l rfl, hr⟩, fun l' hl => Except.ok.inj hl ▸ h l rfl⟩

/-- What is resolved for a request has every property that a layout of the request has. -/
theorem keeps_resolve {P : Layout Number → Prop} {typeName : Value} {m : Member}
    (h : ∀ d ∈ m.packing, ∀ l, Layout.ofDirective typeName m d = .ok l → P l) :
    ∀ p ∈ m.packing.zipIdx, Keeps P (resolve typeName m p.1 (p.2 : Int)) P :=
  fun p hp => maintains_resolve (keeps_lookupOrMake _
    (h p.1 (List.mem_of_getElem? (List.mem_zipIdx_iff_getElem?.mp hp))))

/-- What resolving a member gives has every property that layouts of its requests have. -/
theorem keeps_resolveMember {P : Layout Number → Prop} {typeName : Value} {m : Member}
    (h : ∀ d ∈ m.packing, ∀ l, Layout.ofDirective typeName m d = .ok l → P l) :
    Keeps P (resolveMember typeName m) fun ls => ∀ l ∈ ls, P l := by
  refine (maintains_resolveMember (keeps_resolve h)).imp fun ls hls l hl => ?_
  obtain ⟨-, -, hP⟩ := exists_mem_of_forall₂ hls hl
  exact hP

/-- What resolving gives has every property that layouts of the requests have. -/
theorem keeps_resolveAll {P : Layout Number → Prop} {t : TypeDef} {members : List Member}
    (h : ∀ m ∈ members, ∀ d ∈ m.packing, ∀ l, Layout.ofDirective t.name m d = .ok l → P l) :
    Keeps P (TypeProduct.resolveAll t members) fun ls => ∀ l ∈ ls, P l := by
  refine (maintains_resolveAll fun m hm => keeps_resolve (h m hm)).imp fun ls hls l hl => ?_
  obtain ⟨-, -, -, -, hP⟩ := hls.1 l hl
  exact hP

/-! ## Steps that do not break down -/

/-- Whether a step does not break down, whatever is remembered. -/
def Steady {α : Type} (x : Resolving α) : Prop :=
  ∀ r : Resolver, Unbroken (x.outcome r).1

namespace Steady

variable {α β : Type}

theorem lift {x : Except (Failure DirectiveError) α} (h : Unbroken x) : Steady (ExceptT.mk (Pure.pure x)) :=
  fun _ => h

theorem pure (a : α) : Steady (Pure.pure a) :=
  lift (unbroken_ok a)

theorem bind {x : Resolving α} {f : α → Resolving β} (hx : Steady x) (hf : ∀ a, Steady (f a)) :
    Steady (x >>= f) := by
  intro r
  have hfirst := hx r
  rw [Resolving.outcome_bind]
  rcases h : x.outcome r with ⟨_ | a, r'⟩
  · rw [h] at hfirst
    exact fun b hb => hfirst b (congrArg _ (Except.error.inj hb))
  · exact hf a r'

theorem mapM {γ : Type} {f : γ → Resolving α} {xs : List γ} (h : ∀ x ∈ xs, Steady (f x)) :
    Steady (xs.mapM f) :=
  mapM_of_bind (P := fun x => Steady x) pure bind h

end Steady

theorem steady_lookupOrMake (key : LayoutKey) {made : Except (Failure DirectiveError) (Layout Number)}
    (h : Unbroken made) : Steady (lookupOrMake key made) := by
  intro r
  rw [outcome_lookupOrMake]
  cases r.find? key with
  | some l => exact unbroken_ok l
  | none =>
    cases made with
    | ok l => exact unbroken_ok l
    | error e => exact fun b hb => h b (congrArg _ (Except.error.inj hb))

/-- Resolving does not break down if the names can stand as keys and making layouts does not break down. -/
theorem steady_resolveAll {t : TypeDef} {members : List Member} (htype : t.name.isKey = true)
    (hmembers : ∀ m ∈ members, m.name.isKey = true)
    (h : ∀ m ∈ members, ∀ d ∈ m.packing, Unbroken (Layout.ofDirective t.name m d)) :
    Steady (TypeProduct.resolveAll t members) := by
  have hkey : ∀ {v : Value}, v.isKey = true →
      Unbroken (orBreak v.asKey : Except (Failure DirectiveError) Value) := by
    intro v hv
    simp [Value.asKey, hv]
  have hmember : ∀ m ∈ members, Steady (resolveMember t.name m) := by
    intro m hm
    have hrequests : Steady (m.packing.zipIdx.mapM fun p => resolve t.name m p.1 (p.2 : Int)) := by
      refine Steady.mapM fun p hp => ?_
      rw [resolve_eq]
      refine (Steady.lift (hkey htype)).bind fun _ => (Steady.lift (hkey (hmembers m hm))).bind fun _ => ?_
      exact steady_lookupOrMake _ (h m hm p.1 (List.mem_of_getElem? (List.mem_zipIdx_iff_getElem?.mp hp)))
    unfold resolveMember
    split
    · exact (Steady.lift (x := .error _) (unbroken_issue _)).bind fun _ => hrequests
    · exact hrequests
  exact (Steady.mapM hmember).bind fun _ => Steady.pure _

/-! ## Layouts of requests -/

/-- A layout made of a request has a value type. -/
theorem Layout.isSome_valueType?_of_ofDirective {typeName : Value} {m : Member} {d : Directive}
    {l : Layout Number} (h : Layout.ofDirective typeName m d = .ok l) : l.valueType?.isSome = true := by
  obtain ⟨scheme, bits, range, -, -, htype, -, rfl⟩ := Layout.ofDirective_eq_ok_iff.mp h
  cases scheme with
  | packedFloat | packedUint | smallFloats => rfl
  | noPacking =>
    show (nativeTypes.lookup m.type).isSome = true
    by_contra hnone
    simp [checkStorageType, Option.not_isSome_iff_eq_none.mp hnone] at htype

end ShaderRecords
