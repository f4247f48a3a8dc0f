/-
ShaderRecords.Proofs.Storage.Transparency — a resolver gives what a new one would give.

A resolver is asked for the layout of one request of a member, with the place of the request or without it, or for
the layouts of all requests. What it remembers it hands out without a look at the request; it may have been made of
another request, found equal to this one but spelled otherwise, or in a call that failed later on. Nobody can tell.
The point is what stands at a place: requests that are asked for under one place of a member have one essence, since
the place is that of the request itself or of the first one that is equal to it (`Member.holds_of_mem_requests`).
So a remembered layout suits whoever asks for it (`Resolver.IsSoundFor.exists_layoutOf`), a call on a sound resolver
gives what it gives on a new one (`isLikeNew_perform`), and calls leave a sound resolver sound (`sound_after`).

What is compared are the essences of layouts, for a remembered layout may spell its bits otherwise. That a member goes
by its name is a condition: of two members of one name the second one would get the layouts of the first one.
-/
import ShaderRecords.Proofs.Storage.Essence
import ShaderRecords.Proofs.Storage.Resolver

namespace ShaderRecords

/-! ## Calls -/

/-- What a resolver can be asked for. -/
inductive ResolverCall where
  /-- The layout for one request of a member, asked for with the place of the request or without it. -/
  | request (type : Value) (m : Member) (i : Fin m.packing.length) (isPlaced : Bool)
  /-- The layouts for all requests of a member. -/
  | member (type : Value) (m : Member)

/-- The place that the layout for a request of a member is remembered under: the request's own place if it is given,
or else that of the first request that is equal to it. -/
def Member.placeFor (m : Member) (i : Fin m.packing.length) (isPlaced : Bool) : Int :=
  if isPlaced then (i : Nat) else m.position m.packing[i] (some i)

namespace ResolverCall

/-- The name of the type that a call is about. -/
def type : ResolverCall → Value
  | request type _ _ _ => type
  | member type _ => type

/-- The member that a call is about. -/
def subject : ResolverCall → Member
  | request _ m _ _ => m
  | member _ m => m

/-- The requests of a call, each with the place that its layout is remembered under. -/
def requests : ResolverCall → List (Directive × Int)
  | request _ m i isPlaced => [(m.packing[i], m.placeFor i isPlaced)]
  | member _ m => m.packing.zipIdx.map fun p => (p.1, (p.2 : Int))

/-- Whether a call is for a member that asks for ordinary accessors as well. -/
def isRefused : ResolverCall → Bool
  | request _ _ _ _ => false
  | member _ m => !m.packing.isEmpty && m.accessors.isPresent

/-- What a resolver does when it is called. -/
def perform : ResolverCall → Resolving (List (Layout Number))
  | request type m i isPlaced => do
    let l ← resolve type m m.packing[i] (m.placeFor i isPlaced)
    return [l]
  | member type m => resolveMember type m

/-- What the layout for a request is remembered under. -/
def keyOf (c : ResolverCall) (p : Directive × Int) : LayoutKey :=
  ⟨c.type, c.subject.name, p.2⟩

/-- The layout that is made for a request of a call. -/
def layoutOf (c : ResolverCall) (p : Directive × Int) : Except (Failure DirectiveError) (Layout Number) :=
  Layout.ofDirective c.type c.subject p.1

/-- The keys that a call resolves: those of its requests before the first one that gets no layout. -/
def resolved (c : ResolverCall) : List LayoutKey :=
  if c.isRefused then [] else (c.requests.takeWhile fun p => (c.layoutOf p).isOk).map c.keyOf

end ResolverCall

/-- A resolver after it has been called several times, some of the calls failing perhaps. -/
def Resolver.after (r : Resolver) (calls : List ResolverCall) : Resolver :=
  calls.foldl (fun r c => (c.perform.outcome r).2) r

/-- Whether calls name their types and members by texts, and always mean the same member by the same names. -/
structure AreConsistent (calls : List ResolverCall) : Prop where
  type : ∀ c ∈ calls, c.type.IsText
  name : ∀ c ∈ calls, c.subject.name.IsText
  subject : ∀ c ∈ calls, ∀ c' ∈ calls, c.type = c'.type → c.subject.name = c'.subject.name →
    c.subject = c'.subject

/-! ## Places of requests -/

/-- Whether a request like this one stands at a place of a member. -/
def Member.Holds (m : Member) (d : Directive) (place : Int) : Prop :=
  ∃ i : Nat, place = i ∧ ∃ e, m.packing[i]? = some e ∧ e.essence = d.essence

namespace Member

variable {m : Member} {d d' : Directive} {place : Int}

/-- What stands at one place has one essence. -/
theorem Holds.essence_eq (h : m.Holds d place) (h' : m.Holds d' place) : d.essence = d'.essence := by
  obtain ⟨i, rfl, e, he, hd⟩ := h
  obtain ⟨j, hij, e', he', hd'⟩ := h'
  obtain rfl : i = j := by exact_mod_cast hij
  obtain rfl : e = e' := Option.some.inj (he.symm.trans he')
  exact hd.symm.trans hd'

theorem holds_own (i : Fin m.packing.length) : m.Holds m.packing[i] (i : Nat) :=
  ⟨i, rfl, _, List.getElem?_eq_getElem i.isLt, rfl⟩

/-- The place that is found for a request is its own or that of an equal one. -/
theorem holds_position (i : Fin m.packing.length) : m.Holds m.packing[i] (m.position m.packing[i] (some i)) := by
  unfold Member.position
  split
  next e j hfound =>
    have hj : m.packing[j]? = some e := List.mem_zipIdx_iff_getElem?.mp (List.mem_of_find?_eq_some hfound)
    have heither : (i : Nat) = j ∨ e.same m.packing[i] = true := by simpa using List.find?_some hfound
    refine ⟨j, rfl, e, hj, ?_⟩
    rcases heither with rfl | hsame
    · exact congrArg Directive.essence (Option.some.inj (hj.symm.trans (List.getElem?_eq_getElem i.isLt)))
    · exact Directive.essence_eq_of_same hsame
  next hnone =>
    have hmem : (m.packing[i], (i : Nat)) ∈ m.packing.zipIdx :=
      List.mem_zipIdx_iff_getElem?.mpr (List.getElem?_eq_getElem i.isLt)
    simpa using List.find?_eq_none.mp hnone _ hmem

/-- The requests of a call stand at the places that their layouts are remembered under. -/
theorem holds_of_mem_requests {c : ResolverCall} {p : Directive × Int} (hp : p ∈ c.requests) :
    c.subject.Holds p.1 p.2 := by
  cases c with
  | request type m i isPlaced =>
    obtain rfl := List.mem_singleton.mp hp
    cases isPlaced with
    | true => exact holds_own i
    | false => exact holds_position i
  | member type m =>
    obtain ⟨⟨d, i⟩, hmem, rfl⟩ := List.mem_map.mp hp
    exact ⟨i, rfl, d, List.mem_zipIdx_iff_getElem?.mp hmem, rfl⟩

end Member

/-! ## Keys -/

/-- Whether the names of a key are texts. -/
def LayoutKey.HasTexts (key : LayoutKey) : Prop :=
  key.type.IsText ∧ key.member.IsText

theorem Value.eq_of_same {v w : Value} (h : v.same w = true) (htext : v.IsText ∨ w.IsText) : v = w := by
  have htexts := Value.text?_eq_of_same h
  rcases htext with ⟨s, rfl⟩ | ⟨s, rfl⟩
  · exact (Value.eq_text_of_text? htexts.symm).symm
  · exact Value.eq_text_of_text? htexts

/-- Keys of texts count as the same only if they are. -/
theorem LayoutKey.eq_of_same {a b : LayoutKey} (h : a.same b = true) (htexts : a.HasTexts ∨ b.HasTexts) :
    a = b := by
  obtain ⟨hnames, hindex⟩ := Bool.and_eq_true_iff.mp h
  obtain ⟨htype, hmember⟩ := Bool.and_eq_true_iff.mp hnames
  cases a
  cases b
  obtain rfl := Value.eq_of_same htype (htexts.imp And.left And.left)
  obtain rfl := Value.eq_of_same hmember (htexts.imp And.right And.right)
  obtain rfl := eq_of_beq hindex
  rfl

theorem LayoutKey.HasTexts.same_self {key : LayoutKey} (h : key.HasTexts) : key.same key = true := by
  obtain ⟨type, member, index⟩ := key
  obtain ⟨⟨s, rfl⟩, ⟨t, rfl⟩⟩ := h
  simp [LayoutKey.same, Value.same]

namespace Resolver

variable {r : Resolver} {key key' : LayoutKey} {l l' : Layout Number}

/-- The keys that a resolver remembers layouts under. -/
def keys (r : Resolver) : List LayoutKey :=
  r.known.map (·.1)

@[simp] theorem keys_remember : (r.remember key l).keys = key :: r.keys := rfl

theorem find?_remember :
    (r.remember key l).find? key' = if key.same key' then some l else r.find? key' := by
  unfold Resolver.find? Resolver.remember
  rw [List.find?_cons]
  cases key.same key' <;> rfl

theorem mem_known_of_find? (htexts : key.HasTexts) (h : r.find? key = some l) : (key, l) ∈ r.known := by
  obtain ⟨⟨key', l'⟩, hfound, rfl⟩ := Option.map_eq_some_iff.mp h
  have hsame : key'.same key = true := by simpa using List.find?_some hfound
  obtain rfl := LayoutKey.eq_of_same hsame (.inr htexts)
  exact List.mem_of_find?_eq_some hfound

theorem not_mem_keys_of_find? (htexts : key.HasTexts) (h : r.find? key = none) : key ∉ r.keys := by
  intro hmem
  obtain ⟨e, he, rfl⟩ := List.mem_map.mp hmem
  exact List.find?_eq_none.mp (Option.map_eq_none_iff.mp h) e he htexts.same_self

/-- What was remembered before is found as before. -/
theorem find?_remember_of_find? (htexts : key.HasTexts) (hnone : r.find? key = none)
    (h : r.find? key' = some l') : (r.remember key l).find? key' = some l' := by
  rw [find?_remember, if_neg, h]
  intro hsame
  obtain rfl := LayoutKey.eq_of_same hsame (.inl htexts)
  rw [hnone] at h
  simp at h

/-- Whether all that a resolver remembers was made of requests that stand where calls ask for them, and under
keys that differ. -/
structure IsSoundFor (calls : List ResolverCall) (r : Resolver) : Prop where
  made : ∀ e ∈ r.known, ∃ c ∈ calls, ∃ p, e.1 = c.keyOf p ∧ c.subject.Holds p.1 p.2 ∧ c.layoutOf p = .ok e.2
  nodup : r.keys.Nodup

theorem isSoundFor_empty (calls : List ResolverCall) : ({} : Resolver).IsSoundFor calls :=
  ⟨by simp, List.nodup_nil⟩

end Resolver

/-! ## Steps -/

/-- Whether a step on a resolver, told by its outcome, gives what is expected of it, up to spelling, keeps what is
remembered, and remembers layouts under some more keys. -/
structure IsLikeNew {α β : Type} (calls : List ResolverCall) (essence : α → β)
    (expected : Except (Failure DirectiveError) α) (keys : List LayoutKey) (r : Resolver)
    (out : Except (Failure DirectiveError) α × Resolver) : Prop where
  sound : out.2.IsSoundFor calls
  result : essence <$> out.1 = essence <$> expected
  keeps : ∀ key l, r.find? key = some l → out.2.find? key = some l
  keys : ∀ key, key ∈ out.2.keys ↔ key ∈ r.keys ∨ key ∈ keys

section
variable {α β γ : Type} {calls : List ResolverCall} {c : ResolverCall} {r : Resolver} {p : Directive × Int}

theorem AreConsistent.hasTexts (h : AreConsistent calls) (hc : c ∈ calls) (p : Directive × Int) :
    (c.keyOf p).HasTexts :=
  ⟨h.type c hc, h.name c hc⟩

/-- What is remembered for a place suits every request that is asked for under that place. -/
theorem Resolver.IsSoundFor.exists_layoutOf {l : Layout Number} (hr : r.IsSoundFor calls)
    (hcalls : AreConsistent calls) (hc : c ∈ calls) (hp : c.subject.Holds p.1 p.2)
    (hfound : (c.keyOf p, l) ∈ r.known) : ∃ l', c.layoutOf p = .ok l' ∧ l.essence = l'.essence := by
  obtain ⟨c', hc', p', hkey, hp', hl⟩ := hr.made _ hfound
  obtain ⟨htype, hname, hplace⟩ := LayoutKey.mk.inj hkey
  have hsubject : c.subject = c'.subject := hcalls.subject c hc c' hc' htype hname
  -- The layout may have been made of another request, but of one that stands at the same place.
  have hessence : p'.1.essence = p.1.essence :=
    hp'.essence_eq (show c'.subject.Holds p.1 p'.2 from hsubject ▸ hplace ▸ hp)
  obtain ⟨l', hl', heq⟩ := Layout.exists_of_essence_eq hessence hl
  exact ⟨l', by rw [ResolverCall.layoutOf, hsubject, htype]; exact hl', heq⟩

/-- Resolving a request of a call gives the layout that is made of the request. -/
theorem isLikeNew_resolve (hcalls : AreConsistent calls) (hc : c ∈ calls) (hp : c.subject.Holds p.1 p.2)
    (hr : r.IsSoundFor calls) :
    IsLikeNew calls Layout.essence (c.layoutOf p) (if (c.layoutOf p).isOk then [c.keyOf p] else []) r
      ((resolve c.type c.subject p.1 p.2).outcome r) := by
  have htexts := hcalls.hasTexts hc p
  have hstep : (resolve c.type c.subject p.1 p.2).outcome r
      = (lookupOrMake (c.keyOf p) (c.layoutOf p)).outcome r := by
    obtain ⟨_, htype, rfl⟩ := (hcalls.type c hc).gives_asKey
    obtain ⟨_, hname, rfl⟩ := (hcalls.name c hc).gives_asKey
    rw [resolve_eq, htype, hname]
    rfl
  rw [hstep, outcome_lookupOrMake]
  cases hfound : r.find? (c.keyOf p) with
  | some l =>
    have hmem := Resolver.mem_known_of_find? htexts hfound
    obtain ⟨l', hl', heq⟩ := hr.exists_layoutOf hcalls hc hp hmem
    have hkey : c.keyOf p ∈ r.keys := List.mem_map.mpr ⟨_, hmem, rfl⟩
    refine ⟨hr, ?_, fun _ _ h => h, fun key => ?_⟩
    · rw [hl', map_ok, map_ok, heq]
    · rw [hl']
      simpa [Except.isOk, Except.toBool] using fun h : key = c.keyOf p => h ▸ hkey
  | none =>
    cases hmade : c.layoutOf p with
    | error e => exact ⟨hr, rfl, fun _ _ h => h, fun key => by simp [Except.isOk, Except.toBool]⟩
    | ok l =>
      have hnew := Resolver.not_mem_keys_of_find? htexts hfound
      refine ⟨⟨?_, ?_⟩, rfl, fun _ _ => Resolver.find?_remember_of_find? htexts hfound, fun key => ?_⟩
      · exact List.forall_mem_cons.mpr ⟨⟨c, hc, p, rfl, hp, hmade⟩, hr.made⟩
      · exact List.nodup_cons.mpr ⟨hnew, hr.nodup⟩
      · simp [Except.isOk, Except.toBool, or_comm]

namespace IsLikeNew

variable {δ : Type} {essence : α → β} {expected : Except (Failure DirectiveError) α}

theorem of_outcome_eq {out : Except (Failure DirectiveError) α} (hr : r.IsSoundFor calls)
    (h : essence <$> out = essence <$> expected) : IsLikeNew calls essence expected [] r (out, r) :=
  ⟨hr, h, fun _ _ hfound => hfound, by simp⟩

theorem imp_keys {keys keys' : List LayoutKey} {out : Except (Failure DirectiveError) α × Resolver}
    (h : IsLikeNew calls essence expected keys r out) (hkeys : ∀ key, key ∈ keys ↔ key ∈ keys') :
    IsLikeNew calls essence expected keys' r out :=
  ⟨h.sound, h.result, h.keeps, fun key => by rw [h.keys, hkeys]⟩

/-- One step after another. The second one is not tried if the first one fails. -/
theorem bind {essence' : γ → δ} {x : Resolving α} {f : α → Resolving γ} {g : α → Except (Failure DirectiveError) γ}
    {keys keys' : List LayoutKey} (hx : IsLikeNew calls essence expected keys r (x.outcome r))
    (hf : ∀ a b, essence a = essence b → ∀ r' : Resolver, r'.IsSoundFor calls →
      IsLikeNew calls essence' (g b) keys' r' ((f a).outcome r')) :
    IsLikeNew calls essence' (expected >>= g) (if expected.isOk then keys ++ keys' else keys) r
      ((x >>= f).outcome r) := by
  rw [Resolving.outcome_bind]
  generalize x.outcome r = out at hx ⊢
  -- Since the results are equal up to spelling, the step fails just where it is expected to fail.
  rcases out with ⟨e | a, r'⟩ <;> rcases expected with e' | b
  · exact ⟨hx.sound, by simpa using hx.result, hx.keeps, hx.keys⟩
  · exact absurd hx.result (by simp)
  · exact absurd hx.result (by simp)
  · have hsame : essence a = essence b := by simpa using hx.result
    have hrest := hf a b hsame r' hx.sound
    refine ⟨hrest.sound, hrest.result, fun key l h => hrest.keeps key l (hx.keeps key l h), fun key => ?_⟩
    rw [hrest.keys, hx.keys, or_assoc]
    simp [Except.isOk, Except.toBool]

/-- Several steps one after another, up to the first one that fails. -/
theorem mapM {step : γ → Resolving α} {made : γ → Except (Failure DirectiveError) α} {key : γ → LayoutKey}
    {xs : List γ}
    (h : ∀ x ∈ xs, ∀ r : Resolver, r.IsSoundFor calls →
      IsLikeNew calls essence (made x) (if (made x).isOk then [key x] else []) r ((step x).outcome r))
    (hr : r.IsSoundFor calls) :
    IsLikeNew calls (List.map essence) (xs.mapM made) ((xs.takeWhile fun x => (made x).isOk).map key) r
      ((xs.mapM step).outcome r) := by
  induction xs generalizing r with
  | nil => exact of_outcome_eq hr rfl
  | cons x xs ih =>
    have hnil : ∀ a b, essence a = essence b → ∀ as bs, as.map essence = bs.map essence → ∀ r' : Resolver,
        r'.IsSoundFor calls → IsLikeNew calls (List.map essence) (.ok (b :: bs)) [] r' (.ok (a :: as), r') := by
      intro a b hab as bs habs r' hr'
      refine of_outcome_eq hr' ?_
      rw [map_ok, map_ok, List.map_cons, List.map_cons, hab, habs]
    have hrest : ∀ a b, essence a = essence b → ∀ r' : Resolver, r'.IsSoundFor calls →
        IsLikeNew calls (List.map essence) (xs.mapM made >>= fun bs => pure (b :: bs))
          ((xs.takeWhile fun x => (made x).isOk).map key) r'
          (Resolving.outcome (xs.mapM step >>= fun as => pure (a :: as)) r') := by
      intro a b hab r' hr'
      exact ((ih (fun z hz => h z (List.mem_cons_of_mem _ hz)) hr').bind (hnil a b hab)).imp_keys (by simp)
    rw [List.mapM_cons, List.mapM_cons, List.takeWhile_cons]
    refine ((h x (by simp) r hr).bind hrest).imp_keys fun k => ?_
    cases made x <;> simp [Except.isOk, Except.toBool]

end IsLikeNew

/-- What a call gives when nothing is remembered. -/
def ResolverCall.expected (c : ResolverCall) : Except (Failure DirectiveError) (List (Layout Number)) :=
  if c.isRefused then refuse (.accessorConflict ⟨c.type, c.subject.name⟩) else c.requests.mapM c.layoutOf

/-- A call resolves its requests one after another, if it is not refused. -/
theorem ResolverCall.outcome_perform (c : ResolverCall) (r : Resolver) :
    c.perform.outcome r =
      if c.isRefused then (refuse (.accessorConflict ⟨c.type, c.subject.name⟩), r)
      else (c.requests.mapM fun p => resolve c.type c.subject p.1 p.2).outcome r := by
  cases c with
  | request type m i isPlaced =>
    simp only [perform, isRefused, requests, List.mapM_cons, List.mapM_nil, pure_bind]
    rfl
  | member type m =>
    have hrequests : ((member type m).requests.mapM fun p => resolve type m p.1 p.2)
        = m.packing.zipIdx.mapM fun p => resolve type m p.1 (p.2 : Int) := by
      rw [requests, List.mapM_map]
      rfl
    show (resolveMember type m).outcome r = _
    by_cases hrefused : (!m.packing.isEmpty && m.accessors.isPresent) = true
    · rw [resolveMember, if_pos hrefused, if_pos (show (member type m).isRefused = true from hrefused)]
      rfl
    · rw [resolveMember, if_neg hrefused, if_neg (show ¬(member type m).isRefused = true from hrefused)]
      exact congrArg (Resolving.outcome · r) hrequests.symm

/-- A call on a sound resolver gives what it gives when nothing is remembered. -/
theorem isLikeNew_perform (hcalls : AreConsistent calls) (hc : c ∈ calls) (hr : r.IsSoundFor calls) :
    IsLikeNew calls (List.map Layout.essence) c.expected c.resolved r (c.perform.outcome r) := by
  rw [ResolverCall.outcome_perform, ResolverCall.expected, ResolverCall.resolved]
  cases c.isRefused with
  | true => exact IsLikeNew.of_outcome_eq hr rfl
  | false =>
    exact IsLikeNew.mapM (fun p hp r hr => isLikeNew_resolve hcalls hc (Member.holds_of_mem_requests hp) hr) hr

/-- After several calls all that is remembered was made for them, under the keys that they resolve. -/
theorem sound_after {done : List ResolverCall} (hcalls : AreConsistent calls) (hdone : ∀ c ∈ done, c ∈ calls)
    (hr : r.IsSoundFor calls) :
    (r.after done).IsSoundFor calls
      ∧ ∀ key, key ∈ (r.after done).keys ↔ key ∈ r.keys ∨ ∃ c ∈ done, key ∈ c.resolved := by
  induction done generalizing r with
  | nil => exact ⟨hr, by simp [Resolver.after]⟩
  | cons c done ih =>
    have hstep := isLikeNew_perform hcalls (hdone c (by simp)) hr
    obtain ⟨hsound, hkeys⟩ := ih (fun c' hc' => hdone c' (List.mem_cons_of_mem _ hc')) hstep.sound
    refine ⟨hsound, fun key => (hkeys key).trans ?_⟩
    rw [hstep.keys, or_assoc]
    simp

end

/-- A call gives, up to spelling, what it gives on a new resolver, or fails as it fails there, whatever calls came
before it and whether they failed. Nothing that is remembered is lost or replaced, also if the call fails; and there
is one remembered layout for each key that has been resolved so far. -/
theorem outcome_perform_after {done : List ResolverCall} {c : ResolverCall} (h : AreConsistent (done ++ [c])) :
    let r := ({} : Resolver).after done
    List.map Layout.essence <$> (c.perform.outcome r).1 = List.map Layout.essence <$> (c.perform.outcome {}).1
      ∧ (∀ key l, r.find? key = some l → (c.perform.outcome r).2.find? key = some l)
      ∧ (c.perform.outcome r).2.size = {key | ∃ c' ∈ done ++ [c], key ∈ c'.resolved}.ncard := by
  intro r
  have hc : c ∈ done ++ [c] := by simp
  have hempty := Resolver.isSoundFor_empty (done ++ [c])
  obtain ⟨hsound, hkeys⟩ := sound_after h (fun c' hc' => List.mem_append_left _ hc') hempty
  have hcall := isLikeNew_perform h hc hsound
  have hnew := isLikeNew_perform h hc hempty
  refine ⟨hcall.result.trans hnew.result.symm, hcall.keeps, ?_⟩
  have hset : {key | ∃ c' ∈ done ++ [c], key ∈ c'.resolved} = {key | key ∈ (c.perform.outcome r).2.keys} := by
    ext key
    rw [Set.mem_ofPred_eq, Set.mem_ofPred_eq, hcall.keys, hkeys]
    simp [Resolver.keys, or_and_right, exists_or]
  classical
  rw [hset, ← List.coe_toFinset, Set.ncard_coe_finset, List.toFinset_card_of_nodup hcall.sound.nodup]
  exact (List.length_map _).symm

/-- The layouts of all requests are asked for, and the third one is refused; then that of the second one, which is
equal to the first one. There are two layouts, and the second call gives the first of them. -/
theorem outcome_perform_after_refused_third :
    let request (offset width : Whole) : Directive :=
      { scheme := .text "PackedUint", offset := offset, width := some width }
    let m : Member :=
      { name := .text "flags", type := "uint", packing := [request 1 4, request (.flag true) 4, request 1 40] }
    let all := ResolverCall.member (.text "Surface") m
    let second := ResolverCall.request (.text "Surface") m ⟨1, by decide⟩ false
    let r := ({} : Resolver).after [all]
    AreConsistent [all, second] ∧ r.keys.map (·.index) = [1, 0] ∧ second.requests.map (·.2) = [0]
      ∧ List.map Layout.essence <$> (second.perform.outcome r).1
        = List.map Layout.essence <$> (second.perform.outcome {}).1
      ∧ {key | ∃ c ∈ [all, second], key ∈ c.resolved}.ncard = 2 := by
  intro request m all second r
  have hsubject : ∀ c ∈ [all, second], c.subject = m := by simp [all, second, ResolverCall.subject]
  have hcalls : AreConsistent [all, second] := by
    refine ⟨by simp [all, second, ResolverCall.type, Value.IsText], fun c hc => ?_, fun c hc c' hc' _ _ => ?_⟩
    · exact hsubject c hc ▸ ⟨_, rfl⟩
    · rw [hsubject c hc, hsubject c' hc']
  obtain ⟨hsame, -, hsize⟩ := @outcome_perform_after [all] second hcalls
  exact ⟨hcalls, rfl, rfl, hsame, hsize.symm.trans rfl⟩

end ShaderRecords
