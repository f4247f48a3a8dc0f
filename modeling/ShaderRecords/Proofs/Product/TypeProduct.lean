/-
ShaderRecords.Proofs.Product.TypeProduct — what a type gives does not depend on the types beside it.

All types of a source share one resolver, and each has a number that its pieces carry. `TypeProduct.alone` is
what a type gives with a resolver of its own and the number zero. A type that stands beside types of other
names gives the same, save that its pieces carry its number (`run_build`), and so several types of different
names give what each of them gives alone (`run_buildAll`). A type with a problem gives no pieces
(`sound_of_alone`).
-/
import ShaderRecords.Proofs.Extraction.Members
import ShaderRecords.Proofs.Include.Record
import ShaderRecords.Proofs.Record.Packing

namespace ShaderRecords.TypeProduct

/-- A product as that of a type with a number. -/
def ownedBy (owner : Int) (p : TypeProduct) : TypeProduct :=
  { p with fragments := p.fragments.map (Fragment.ownedBy owner) }

/-- A product without pieces is the same whatever the number of the type is. -/
theorem ownedBy_of_fragments_eq_nil {p : TypeProduct} (h : p.fragments = []) (owner : Int) :
    p.ownedBy owner = p := by
  cases p
  simp_all [ownedBy]

/-- A product without pieces, if the type has a problem, and without bindings. -/
structure Sound (p : TypeProduct) : Prop where
  fragments_eq_nil : p.isFine = false → p.fragments = []
  kind_ne_binding : ∀ f ∈ p.fragments, f.kind ≠ .binding

section Building

variable {registry : Registry} {settings : Settings} {render : Bool} {t : TypeDef} {p : TypeProduct}

/-! ## Pieces -/

/-- The view of a record that its pieces are written from, for a name that is a text. -/
def view (p : TypeProduct) (packingInclude : Value) (name : String) : RecordView :=
  ⟨p.typeDef, name, p.extracted, p.registers, p.layouts, packingInclude⟩

/-- The pieces of a product are those of its view. -/
theorem exists_fragments_of_withFragments {q : TypeProduct} {packingInclude : Value} {owner : Int}
    (h : p.withFragments packingInclude owner = .ok q) :
    ∃ name fs told, p.typeDef.name.textParts = .ok name
      ∧ ((p.view packingInclude name).fragments owner).run.run [] = (.ok fs, told)
      ∧ q = { p with
          fragments := fs, issues := ((p.view packingInclude name).untypedErrors told).map .directive } := by
  unfold withFragments RecordView.of? at h
  obtain ⟨v, hv, h⟩ := bind_eq_ok_iff.mp h
  obtain ⟨name, hname, hv⟩ := bind_eq_ok_iff.mp hv
  obtain rfl := Except.ok.inj hv
  obtain ⟨fs, hfs, h⟩ := bind_eq_ok_iff.mp h
  exact ⟨name, fs, _, hname, Prod.ext hfs rfl, (Except.ok.inj h).symm⟩

/-- Adding pieces to a product whose layouts have value types tells no problem. -/
theorem exists_withFragments (packingInclude : Value)
    (htypes : ∀ l ∈ p.layouts, l.valueType?.isSome = true) :
    ∃ r : Except Breakdown (List Fragment),
      (p.typeDef.name.IsText → (∀ name, (p.view packingInclude name).Usable) → Gives r fun _ => True)
      ∧ (∀ fs, r = .ok fs → ∀ f ∈ fs, f.kind ≠ .binding)
      ∧ ∀ owner, p.withFragments packingInclude owner
        = (fun fs => ownedBy owner { p with fragments := fs, issues := [] }) <$> r := by
  unfold withFragments RecordView.of?
  cases hname : p.typeDef.name.textParts with
  | error b =>
    refine ⟨.error b, fun htext _ => ?_, by simp, fun owner => rfl⟩
    obtain ⟨name, hn, -⟩ := htext.gives_textParts
    simp [hname] at hn
  | ok name =>
    obtain ⟨r, hgives, hkinds, hr⟩ :=
      RecordView.exists_fragments (v := p.view packingInclude name) htypes
    refine ⟨r, fun _ husable => hgives (husable name), hkinds, fun owner => ?_⟩
    show (do return { p with
        fragments := ← (((p.view packingInclude name).fragments owner).run.run []).1
        issues := ((p.view packingInclude name).untypedErrors
          (((p.view packingInclude name).fragments owner).run.run []).2).map .directive }) = _
    rw [hr owner]
    cases r <;> rfl

/-! ## Layouts -/

/-- What becomes of a product when the layouts of its packed values have been resolved. -/
def withResolved (settings : Settings) (owner : Int) (render : Bool) (p : TypeProduct) :
    Except (Failure DirectiveError) (List (Layout Number)) → Except Breakdown TypeProduct
  | .error (.breakdown b) => .error b
  | .error (.issue e) => .ok { p with issues := [.directive e] }
  | .ok layouts =>
    if render then { p with layouts := layouts }.withFragments settings.packingInclude owner
    else .ok { p with layouts := layouts }

theorem withResolved_cases {layouts : Except (Failure DirectiveError) (List (Layout Number))} {q : TypeProduct}
    {owner : Int} (h : withResolved settings owner render p layouts = .ok q) :
    (∃ e, layouts = .error (.issue e) ∧ q = { p with issues := [.directive e] })
      ∨ ∃ ls, layouts = .ok ls
        ∧ ((render = false ∧ q = { p with layouts := ls })
          ∨ render = true ∧ { p with layouts := ls }.withFragments settings.packingInclude owner = .ok q) := by
  unfold withResolved at h
  split at h
  · cases h
  next e => exact .inl ⟨e, rfl, (Except.ok.inj h).symm⟩
  next ls =>
    refine .inr ⟨ls, rfl, ?_⟩
    cases render with
    | false => exact .inl ⟨rfl, (Except.ok.inj h).symm⟩
    | true => exact .inr ⟨rfl, h⟩

theorem run_withLayouts (owner : Int) (r : Resolver) :
    (withLayouts settings owner render p).run r
      = (fun q => (q, ((resolveAll p.typeDef p.extracted.packedMembers).outcome r).2))
        <$> withResolved settings owner render p
          ((resolveAll p.typeDef p.extracted.packedMembers).outcome r).1 := by
  show (match (resolveAll p.typeDef p.extracted.packedMembers).outcome r with
    | (layouts, resolver) =>
      (match layouts with
      | .error (.breakdown b) => throw b
      | .error (.issue e) => pure { p with issues := [.directive e] }
      | .ok layouts =>
        if render then
          liftM (TypeProduct.withFragments { p with layouts := layouts } settings.packingInclude owner)
        else pure { p with layouts := layouts }
        : StateT Resolver (Except Breakdown) TypeProduct).run resolver) = _
  generalize (resolveAll p.typeDef p.extracted.packedMembers).outcome r = outcome
  rcases outcome with ⟨(e | b) | layouts, resolver⟩
  · rfl
  · rfl
  · cases render with
    | false => rfl
    | true =>
      simp only [withResolved, if_true]
      cases TypeProduct.withFragments { p with layouts := layouts } settings.packingInclude owner <;> rfl

variable (settings render) in
/-- What becomes of a product does not depend on the number of its type. -/
theorem exists_withResolved {layouts : Except (Failure DirectiveError) (List (Layout Number))}
    (hfragments : p.fragments = [])
    (htypes : ∀ ls, layouts = .ok ls → ∀ l ∈ ls, l.valueType?.isSome = true) :
    ∃ y : Except Breakdown TypeProduct, (∀ q, y = .ok q → q.Sound ∧ q.typeDef = p.typeDef)
      ∧ (Unbroken layouts → p.typeDef.name.IsText
        → (∀ ls, layouts = .ok ls → ∀ name,
          ({ p with layouts := ls }.view settings.packingInclude name).Usable) → Gives y fun _ => True)
      ∧ ∀ owner, withResolved settings owner render p layouts = ownedBy owner <$> y := by
  match layouts with
  | .error (.breakdown b) =>
    exact ⟨.error b, by simp, fun h => absurd rfl (h b), fun owner => rfl⟩
  | .error (.issue e) =>
    refine ⟨.ok { p with issues := [.directive e] }, ?_, fun _ _ _ => gives_ok trivial, fun owner => ?_⟩
    · rintro q hq
      obtain rfl := Except.ok.inj hq
      exact ⟨⟨fun _ => hfragments, by simp [hfragments]⟩, rfl⟩
    · exact (congrArg Except.ok (ownedBy_of_fragments_eq_nil (by exact hfragments) owner)).symm
  | .ok ls =>
    cases render with
    | false =>
      refine ⟨.ok { p with layouts := ls }, ?_, fun _ _ _ => gives_ok trivial, fun owner => ?_⟩
      · rintro q hq
        obtain rfl := Except.ok.inj hq
        exact ⟨⟨fun _ => hfragments, by simp [hfragments]⟩, rfl⟩
      · exact (congrArg Except.ok (ownedBy_of_fragments_eq_nil (by exact hfragments) owner)).symm
    | true =>
      obtain ⟨r, hgives, hkinds, hr⟩ := exists_withFragments (p := { p with layouts := ls })
        settings.packingInclude (htypes ls rfl)
      refine ⟨(fun fs => { p with layouts := ls, fragments := fs, issues := [] }) <$> r, ?_, ?_,
        fun owner => ?_⟩
      · intro q hq
        obtain ⟨fs, hfs, rfl⟩ := exists_of_map_eq_ok hq
        exact ⟨⟨fun h => by simp [isFine] at h, hkinds fs hfs⟩, rfl⟩
      · intro _ hname husable
        exact (hgives hname (husable ls rfl)).map fun _ _ => trivial
      · show TypeProduct.withFragments { p with layouts := ls } settings.packingInclude owner = _
        rw [hr owner]
        cases r <;> rfl

/-! ## One type -/

/-- What a type gives before its layouts are resolved, and whether a problem has ended the work on it. -/
def prepared (registry : Registry) (settings : Settings) (t : TypeDef) :
    Except Breakdown (TypeProduct × Bool) := do
  let extracted ← t.extract registry settings.debugStart
  let p : TypeProduct := { typeDef := t, extracted := extracted }
  if !extracted.errors.isEmpty then
    return ({ p with issues := extracted.errors.map .extraction }, true)
  match pack t.rules extracted.fields with
  | .error (.breakdown b) => .error b
  | .error (.issue e) => return ({ p with issues := [.packing e] }, true)
  | .ok registers => return ({ p with registers := registers }, false)

/-- A type is prepared, and unless a problem has ended the work its layouts are resolved. -/
theorem run_build_eq (owner : Int) (r : Resolver) :
    (build registry settings owner render t).run r = prepared registry settings t >>= fun (p, ended) =>
      if ended then .ok (p, r) else (withLayouts settings owner render p).run r := by
  unfold build prepared
  cases t.extract registry settings.debugStart with
  | error b => rfl
  | ok extracted =>
    simp only [ok_bind]
    show (if !extracted.errors.isEmpty then _ else _ : StateT Resolver (Except Breakdown) TypeProduct).run r
      = _
    cases extracted.errors.isEmpty with
    | false => rfl
    | true => rcases pack t.rules extracted.fields with (e | b) | registers <;> rfl

/-- A type is prepared in one of three ways: its members have problems, its fields cannot be packed, or neither. -/
theorem prepared_cases {ended : Bool} (h : prepared registry settings t = .ok (p, ended)) :
    ∃ extracted, t.extract registry settings.debugStart = .ok extracted
      ∧ ((extracted.errors ≠ [] ∧ ended = true
          ∧ p = { typeDef := t, extracted := extracted, issues := extracted.errors.map .extraction })
        ∨ (extracted.errors = [] ∧ ended = true ∧ ∃ e, pack t.rules extracted.fields = .error (.issue e)
          ∧ p = { typeDef := t, extracted := extracted, issues := [.packing e] })
        ∨ (extracted.errors = [] ∧ ended = false ∧ ∃ registers, pack t.rules extracted.fields = .ok registers
          ∧ p = { typeDef := t, extracted := extracted, registers := registers })) := by
  unfold prepared at h
  obtain ⟨extracted, hextract, h⟩ := bind_eq_ok_iff.mp h
  refine ⟨extracted, hextract, ?_⟩
  dsimp only at h
  split at h
  next herrors =>
    obtain ⟨rfl, rfl⟩ := Prod.mk.inj (Except.ok.inj h)
    exact .inl ⟨by simpa using herrors, rfl, rfl⟩
  next herrors =>
    have hnone : extracted.errors = [] := by simpa using herrors
    split at h
    · simp at h
    next e hpack =>
      obtain ⟨rfl, rfl⟩ := Prod.mk.inj (Except.ok.inj h)
      exact .inr (.inl ⟨hnone, rfl, e, hpack, rfl⟩)
    next registers hpack =>
      obtain ⟨rfl, rfl⟩ := Prod.mk.inj (Except.ok.inj h)
      exact .inr (.inr ⟨hnone, rfl, registers, hpack, rfl⟩)

/-- The parts of a prepared product. -/
structure IsPrepared (registry : Registry) (settings : Settings) (t : TypeDef) (p : TypeProduct)
    (ended : Bool) : Prop where
  typeDef_eq : p.typeDef = t
  extract_eq : t.extract registry settings.debugStart = .ok p.extracted
  fragments_eq_nil : p.fragments = []
  isFine_eq : p.isFine = !ended
  pack_eq : ended = false → pack t.rules p.extracted.fields = .ok p.registers

theorem isPrepared_of_prepared {ended : Bool} (h : prepared registry settings t = .ok (p, ended)) :
    IsPrepared registry settings t p ended := by
  obtain ⟨extracted, hextract, hcases⟩ := prepared_cases h
  rcases hcases with ⟨herrors, rfl, rfl⟩ | ⟨-, rfl, e, -, rfl⟩ | ⟨-, rfl, registers, hpack, rfl⟩
  · exact ⟨rfl, hextract, rfl, by simpa [isFine] using herrors, by simp⟩
  · exact ⟨rfl, hextract, rfl, rfl, by simp⟩
  · exact ⟨rfl, hextract, rfl, rfl, fun _ => hpack⟩

/-- What a type gives has been prepared: a problem has ended the work then, or its layouts have been resolved. -/
theorem run_build_eq_ok_iff {owner : Int} {r r' : Resolver} :
    (build registry settings owner render t).run r = .ok (p, r')
      ↔ (prepared registry settings t = .ok (p, true) ∧ r' = r)
        ∨ ∃ q, prepared registry settings t = .ok (q, false)
          ∧ withResolved settings owner render q ((resolveAll t q.extracted.packedMembers).outcome r).1 = .ok p
          ∧ r' = ((resolveAll t q.extracted.packedMembers).outcome r).2 := by
  rw [run_build_eq, bind_eq_ok_iff]
  constructor
  · rintro ⟨⟨q, ended⟩, hprepared, h⟩
    cases ended with
    | true =>
      obtain ⟨rfl, rfl⟩ := Prod.mk.inj (Except.ok.inj h)
      exact .inl ⟨hprepared, rfl⟩
    | false =>
      dsimp only at h
      rw [if_neg (by simp), run_withLayouts, (isPrepared_of_prepared hprepared).typeDef_eq] at h
      obtain ⟨p', hp', h⟩ := exists_of_map_eq_ok h
      obtain ⟨rfl, rfl⟩ := Prod.mk.inj h
      exact .inr ⟨q, hprepared, hp', rfl⟩
  · rintro (⟨hprepared, rfl⟩ | ⟨q, hprepared, hp, rfl⟩)
    · exact ⟨(p, true), hprepared, rfl⟩
    · refine ⟨(q, false), hprepared, ?_⟩
      dsimp only
      rw [if_neg (by simp), run_withLayouts, (isPrepared_of_prepared hprepared).typeDef_eq, hp]
      rfl

/-- Types are built one after another, and each has the number behind that of the one before. -/
theorem run_buildAll_cons_eq_ok_iff {owner : Int} {r r' : Resolver} {ts : List TypeDef} {ps : List TypeProduct} :
    (buildAll registry settings render owner (t :: ts)).run r = .ok (ps, r')
      ↔ ∃ p s rest, (build registry settings owner render t).run r = .ok (p, s)
        ∧ (buildAll registry settings render (owner + 1) ts).run s = .ok (rest, r') ∧ ps = p :: rest := by
  rw [buildAll, StateT.run_bind, bind_eq_ok_iff]
  simp only [StateT.run_bind, bind_eq_ok_iff]
  constructor
  · rintro ⟨⟨p, s⟩, hp, ⟨rest, s'⟩, hrest, h⟩
    obtain ⟨rfl, rfl⟩ := Prod.mk.inj (Except.ok.inj h)
    exact ⟨p, s, rest, hp, hrest, rfl⟩
  · rintro ⟨p, s, rest, hp, hrest, rfl⟩
    exact ⟨(p, s), hp, (rest, r'), hrest, rfl⟩

/-- A prepared product that no problem has ended is extracted without one. -/
theorem errors_eq_nil_of_prepared (h : prepared registry settings t = .ok (p, false)) :
    p.extracted.errors = [] := by
  obtain ⟨extracted, -, hcases⟩ := prepared_cases h
  rcases hcases with ⟨-, hended, -⟩ | ⟨-, hended, -⟩ | ⟨herrors, -, registers, -, rfl⟩
  · cases hended
  · cases hended
  · exact herrors

/-- The parts of the product of a type without a problem, `r` being the resolver before it and `r'` the one
after it. -/
structure IsAccepted (registry : Registry) (settings : Settings) (owner : Int) (render : Bool) (t : TypeDef)
    (r r' : Resolver) (p : TypeProduct) : Prop where
  typeDef_eq : p.typeDef = t
  extract_eq : t.extract registry settings.debugStart = .ok p.extracted
  errors_eq_nil : p.extracted.errors = []
  pack_eq : pack t.rules p.extracted.fields = .ok p.registers
  resolveAll_eq : (resolveAll t p.extracted.packedMembers).outcome r = (.ok p.layouts, r')
  fragments_eq : render = true → ∃ name told, p.typeDef.name = .text name
    ∧ ((p.view settings.packingInclude name).fragments owner).run.run [] = (.ok p.fragments, told)

/-- A type without a problem goes through all steps. -/
theorem isAccepted_of_run_build {owner : Int} {r r' : Resolver}
    (h : (build registry settings owner render t).run r = .ok (p, r')) (hfine : p.isFine = true) :
    IsAccepted registry settings owner render t r r' p := by
  rcases run_build_eq_ok_iff.mp h with ⟨hprepared, -⟩ | ⟨q, hprepared, hp, rfl⟩
  · simp [(isPrepared_of_prepared hprepared).isFine_eq] at hfine
  · have hq := isPrepared_of_prepared hprepared
    have herrors := errors_eq_nil_of_prepared hprepared
    obtain ⟨e, -, rfl⟩ | ⟨layouts, hlayouts, hp⟩ := withResolved_cases hp
    · simp [isFine] at hfine
    · have hresolved : (resolveAll t q.extracted.packedMembers).outcome r = (.ok layouts, _) :=
        Prod.ext hlayouts rfl
      obtain ⟨rfl, rfl⟩ | ⟨-, hp⟩ := hp
      · exact ⟨hq.typeDef_eq, hq.extract_eq, herrors, hq.pack_eq rfl, hresolved, by simp⟩
      · obtain ⟨name, fs, told, hname, hfs, rfl⟩ := exists_fragments_of_withFragments hp
        exact ⟨hq.typeDef_eq, hq.extract_eq, herrors, hq.pack_eq rfl, hresolved,
          fun _ => ⟨name, told, Value.eq_text_of_textParts hname, hfs⟩⟩

/-- A type without a problem has the fields of its members, grouped into registers. -/
theorem IsAccepted.grouping {owner : Int} {r r' : Resolver}
    (h : IsAccepted registry settings owner render t r r' p) :
    Grouping p.extracted.fields p.registers ∧ ∀ f ∈ p.extracted.fields, ∃ m ∈ t.members, f.IsOf m := by
  have hof := TypeDef.of_extract h.extract_eq
  exact ⟨grouping_of_pack (fun f hf => (hof.fields f hf).elim fun m hm => hm.2.sized) h.pack_eq, hof.fields⟩

/-- A type without a problem is extracted and packed, and its pieces are written from what that gives. -/
theorem exists_of_run_build {owner : Int} {r r' : Resolver}
    (h : (build registry settings owner true t).run r = .ok (p, r')) (hfine : p.isFine = true) :
    p.typeDef = t ∧ t.extract registry settings.debugStart = .ok p.extracted
      ∧ pack t.rules p.extracted.fields = .ok p.registers
      ∧ ∃ name told, ((p.view settings.packingInclude name).fragments owner).run.run []
        = (.ok p.fragments, told) := by
  obtain ⟨htype, hextract, -, hpack, -, hfragments⟩ := isAccepted_of_run_build h hfine
  obtain ⟨name, told, -, hfragments⟩ := hfragments rfl
  exact ⟨htype, hextract, hpack, name, told, hfragments⟩

/-- What a type gives with a resolver of its own. -/
def alone (registry : Registry) (settings : Settings) (render : Bool) (t : TypeDef) :
    Except Breakdown TypeProduct :=
  (·.1) <$> (build registry settings 0 render t).run {}

/-- What resolving the layouts of a product gives with a resolver of its own. -/
def ownLayouts (p : TypeProduct) : Except (Failure DirectiveError) (List (Layout Number)) :=
  ((resolveAll p.typeDef p.extracted.packedMembers).outcome {}).1

theorem isSome_valueType?_of_ownLayouts {ls : List (Layout Number)} (h : p.ownLayouts = .ok ls) :
    ∀ l ∈ ls, l.valueType?.isSome = true :=
  (keeps_resolveAll (P := fun l => l.valueType?.isSome = true)
    (fun _ _ _ _ _ => Layout.isSome_valueType?_of_ofDirective) {} (by simp)).2 ls h

theorem alone_eq : alone registry settings render t = prepared registry settings t >>= fun (p, ended) =>
    if ended then .ok p else withResolved settings 0 render p p.ownLayouts := by
  unfold alone
  rw [run_build_eq]
  match prepared registry settings t with
  | .error b => rfl
  | .ok (p, true) => rfl
  | .ok (p, false) =>
    simp only [ok_bind, run_withLayouts]
    show _ = withResolved settings 0 render p p.ownLayouts
    rw [← ownLayouts]
    cases withResolved settings 0 render p p.ownLayouts <;> rfl

variable (registry settings render) in
/-- Beside types of other names a type gives what it gives alone, and what is remembered is its own. -/
theorem run_build {r : Resolver} (hr : r.IsSilentOn t.name) (owner : Int) :
    ∃ made : Resolver, (∀ e ∈ made.known, e.1.type = t.name)
      ∧ (build registry settings owner render t).run r
        = (fun p => (p.ownedBy owner, made.before r)) <$> alone registry settings render t := by
  rw [run_build_eq, alone_eq]
  match hprepared : prepared registry settings t with
  | .error b => exact ⟨{}, by simp, rfl⟩
  | .ok (p, true) =>
    have hempty := (isPrepared_of_prepared hprepared).fragments_eq_nil
    exact ⟨{}, by simp, by simp [ownedBy_of_fragments_eq_nil hempty, Resolver.before]⟩
  | .ok (p, false) =>
    obtain ⟨rfl, -, hempty, -, -⟩ := isPrepared_of_prepared hprepared
    have hconcerns := concerns_resolveAll p.typeDef p.extracted.packedMembers
    obtain ⟨made, hmade, htype⟩ := hconcerns.grows {}
    have hframe := hconcerns.frame {} r hr
    obtain ⟨y, -, -, hy⟩ := exists_withResolved settings render (p := p) hempty
      fun ls => isSome_valueType?_of_ownLayouts
    have hmade' : made.before {} = made := by simp [Resolver.before]
    have hr' : Resolver.before {} r = r := rfl
    rw [hmade'] at hmade
    rw [hr', hmade] at hframe
    refine ⟨made, htype, ?_⟩
    simp only [ok_bind, run_withLayouts, hframe]
    rw [← ownLayouts, hy owner, if_neg (by simp), if_neg (by simp), hy 0]
    cases y with
    | error b => rfl
    | ok q => simp [ownedBy, Fragment.ownedBy, Function.comp_def]

/-- What a type gives has no pieces if the type has a problem, and no bindings. -/
theorem sound_of_alone (h : alone registry settings render t = .ok p) : p.Sound ∧ p.typeDef = t := by
  rw [alone_eq] at h
  obtain ⟨⟨q, ended⟩, hprepared, h⟩ := bind_eq_ok_iff.mp h
  obtain ⟨rfl, -, hempty, -, -⟩ := isPrepared_of_prepared hprepared
  cases ended with
  | true =>
    obtain rfl := Except.ok.inj h
    exact ⟨⟨fun _ => hempty, by simp [hempty]⟩, rfl⟩
  | false =>
    obtain ⟨y, hsound, -, hy⟩ := exists_withResolved settings render (p := q) hempty
      fun ls => isSome_valueType?_of_ownLayouts
    dsimp only at h
    rw [if_neg (by simp), hy 0] at h
    obtain ⟨q', hq', rfl⟩ := exists_of_map_eq_ok h
    obtain ⟨⟨hnone, hkinds⟩, htype⟩ := hsound q' hq'
    refine ⟨⟨fun hfine => ?_, fun f hf => ?_⟩, htype⟩
    · simp [ownedBy, hnone hfine]
    · obtain ⟨f', hf', rfl⟩ := List.mem_map.mp hf
      exact hkinds f' hf'

/-! ## Several types -/

/-- Products as those of types that are numbered one after another. -/
def numbered (owner : Int) : List TypeProduct → List TypeProduct
  | [] => []
  | p :: ps => p.ownedBy owner :: numbered (owner + 1) ps

/-- What does not depend on the number of a type is the same for numbered types. -/
theorem map_filter_numbered {β : Type} {f : TypeProduct → β} {keep : TypeProduct → Bool}
    (hf : ∀ p o, f (ownedBy o p) = f p) (hkeep : ∀ p o, keep (ownedBy o p) = keep p) (owner : Int)
    (ps : List TypeProduct) : ((numbered owner ps).filter keep).map f = (ps.filter keep).map f := by
  induction ps generalizing owner with
  | nil => rfl
  | cons p ps ih =>
    rw [numbered, List.filter_cons, List.filter_cons, hkeep]
    split
    · rw [List.map_cons, List.map_cons, ih, hf]
    · exact ih (owner + 1)

variable (registry settings render) in
/-- Types of different names give what each of them gives alone. -/
theorem run_buildAll {ts : List TypeDef} {r : Resolver} (owner : Int)
    (hdiffer : ts.Pairwise fun a b => a.name.same b.name = false) (hr : ∀ t ∈ ts, r.IsSilentOn t.name) :
    (·.1) <$> (buildAll registry settings render owner ts).run r
      = numbered owner <$> ts.mapM (alone registry settings render) := by
  induction ts generalizing owner r with
  | nil => rfl
  | cons t ts ih =>
    obtain ⟨made, htype, hbuild⟩ := run_build registry settings render
      (hr t (by simp)) owner
    obtain ⟨hfirst, hrest⟩ := List.pairwise_cons.mp hdiffer
    have hsilent : ∀ t' ∈ ts, (made.before r).IsSilentOn t'.name := by
      intro t' ht' e he
      rcases List.mem_append.mp he with he | he
      · exact htype e he ▸ hfirst t' ht'
      · exact hr t' (List.mem_cons_of_mem _ ht') e he
    rw [buildAll, StateT.run_bind, hbuild, List.mapM_cons]
    cases alone registry settings render t with
    | error b => rfl
    | ok p =>
      have hothers := ih (owner + 1) hrest hsilent
      simp only [map_ok, ok_bind, StateT.run_bind, StateT.run_pure]
      cases hall : (buildAll registry settings render (owner + 1) ts).run (made.before r) with
      | error b =>
        rw [hall] at hothers
        cases hmap : ts.mapM (alone registry settings render) with
        | error b' => simpa [hmap] using hothers
        | ok ps => simp [hmap] at hothers
      | ok given =>
        rw [hall] at hothers
        cases hmap : ts.mapM (alone registry settings render) with
        | error b' => simp [hmap] at hothers
        | ok ps =>
          rw [hmap] at hothers
          simpa [numbered] using hothers

end Building

end ShaderRecords.TypeProduct
