/-
ShaderRecords.Proofs.Product.Families — every field has functions of one kind, and none is left out.

A type writes two families of functions for each purpose: those of ordinary fields, which go over the registers and
leave out the names of packed values, and those of packed values, which go over the layouts. Nothing in them goes over
the members of the type. That the members are divided between the two nevertheless (`functions_divide_members`) has
three parts. The fields of the registers are those that extraction gives, in their order
(`Grouping.map_fst_placedFields`). The names that are left out are those of members with requests
(`any_packedNames_eq`), because every layout belongs to the member whose request it was resolved for. And the layouts
are those of the requests of all members that are stored, in their order (`IsAccepted.forall₂_requests`).
-/
import ShaderRecords.Proofs.Product.FunctionNames
import ShaderRecords.Proofs.Storage.Filing

namespace ShaderRecords

/-! ## Requests of a type -/

/-- Whether a member is an array of no given size, which is not stored. -/
def Member.isUnsized (m : Member) : Bool :=
  match m.element, m.arraySize with
  | .null, none => "[]".toList.isSuffixOf m.type.toList
  | _, _ => false

/-- Whether a member has a place in the record. -/
def Member.isStored (m : Member) : Bool :=
  !m.isStatic && !m.isUnsized

/-- The requests of the members of a type that are stored, each with its member, in their order. -/
def TypeDef.requests (t : TypeDef) : List (Member × Directive) :=
  requestsOf (t.members.filter (·.isStored))

/-- Whether a field is that of a member with requests. -/
def TypeDef.packs (t : TypeDef) (f : Field) : Bool :=
  t.members.any fun m => !m.packing.isEmpty && m.name.same f.name

/-- The fields of the members without requests. -/
def TypeProduct.unpackedFields (p : TypeProduct) : List Field :=
  p.extracted.fields.filter fun f => !p.typeDef.packs f

/-- Texts that differ do not count as the same. -/
theorem Value.same_eq_false {v w : Value} (htext : v.IsText) (hne : v ≠ w) : v.same w = false := by
  by_contra hsame
  exact hne (Value.eq_of_same (by simpa using hsame) (.inl htext))

theorem TypeDef.packs_iff {t : TypeDef} {f : Field} (htexts : ∀ m ∈ t.members, m.name.IsText) :
    t.packs f = true ↔ ∃ m ∈ t.members, m.packing ≠ [] ∧ m.name = f.name := by
  have hsame : ∀ m ∈ t.members, (m.name.same f.name = true ↔ m.name = f.name) := by
    intro m hm
    obtain ⟨s, hs⟩ := htexts m hm
    constructor
    · exact fun h => Value.eq_of_same h (.inl ⟨s, hs⟩)
    · rintro h
      rw [← h, hs]
      exact beq_self_eq_true s
  simp only [packs, List.any_eq_true, Bool.and_eq_true, Bool.not_eq_true', List.isEmpty_eq_false_iff]
  constructor
  · rintro ⟨m, hm, hpacking, h⟩
    exact ⟨m, hm, hpacking, (hsame m hm).mp h⟩
  · rintro ⟨m, hm, hpacking, h⟩
    exact ⟨m, hm, hpacking, (hsame m hm).mpr h⟩

section Members

variable {registry : Registry} {t : TypeDef} {m : Member}

theorem elementType_eq_none_iff : elementType t m = .ok none ↔ m.isUnsized = true := by
  unfold elementType Member.isUnsized
  cases m.element with
  | null => cases m.arraySize <;> simp
  | _ =>
    cases m.arraySize with
    | none => simp
    | some size =>
      dsimp only
      split <;> simp

/-- The members that are noted as storing packed values are those that are stored and have requests. -/
theorem flatMap_packedMember {members : List Member} {ys : List MemberYield}
    (h : List.Forall₂ (fun m y => ∃ next, m.Yields registry t next y) members ys) :
    (ys.flatMap fun y => y.packedMember.toList) = members.filter fun m => m.isStored && !m.packing.isEmpty := by
  induction h with
  | nil => rfl
  | @cons m y members ys hfirst _ ih =>
    obtain ⟨next, hyields⟩ := hfirst
    rw [List.flatMap_cons, ih]
    cases hyields with
    | unsized helement =>
      rw [List.filter_cons_of_neg (by simp [Member.isStored, elementType_eq_none_iff.mp helement])]
      rfl
    | static hstatic hconstant =>
      obtain ⟨_, rfl⟩ := exists_constants_of_staticYield hconstant
      rw [List.filter_cons_of_neg (by simp [Member.isStored, hstatic])]
      rfl
    | ordinary helement hstatic _ _ =>
      have hstored : m.isStored = true := by
        have hsized : m.isUnsized ≠ true := by
          rw [ne_eq, ← elementType_eq_none_iff (t := t), helement]
          simp
        simp [Member.isStored, hstatic, hsized]
      rw [List.filter_cons, hstored]
      cases m.packing <;> simp

/-- Members without requests can be left out where requests are listed. -/
theorem requestsOf_filter (stored : Member → Bool) (members : List Member) :
    requestsOf (members.filter fun m => stored m && !m.packing.isEmpty) = requestsOf (members.filter stored) := by
  induction members with
  | nil => rfl
  | cons m members ih =>
    unfold requestsOf at ih ⊢
    rw [List.filter_cons, List.filter_cons]
    cases hstored : stored m with
    | false => simpa using ih
    | true => cases hpacking : m.packing <;> simp [hpacking, ih]

section Extracted

variable {start : Value} {out : TypeFields} (h : t.extract registry start = .ok out) (herrors : out.errors = [])
  (hrecord : t.isEnum = false)

include h herrors hrecord

theorem packedMembers_of_extract :
    out.packedMembers = t.members.filter fun m => m.isStored && !m.packing.isEmpty := by
  obtain ⟨ys, hys, rfl⟩ := exists_yields_of_extract h herrors hrecord
  exact flatMap_packedMember hys

/-- A field has a member that is not static, and is noted if it stores packed values. -/
theorem exists_member_of_extract {f : Field} (hf : f ∈ out.fields) :
    ∃ m ∈ t.members, m.isStatic = false ∧ f.name = m.name ∧ (m.packing ≠ [] → m ∈ out.packedMembers) := by
  obtain ⟨ys, hys, rfl⟩ := exists_yields_of_extract h herrors hrecord
  obtain ⟨y, hy, hf⟩ := List.mem_flatMap.mp hf
  obtain ⟨m, hm, next, hyields⟩ := exists_mem_of_forall₂ hys hy
  cases hyields with
  | unsized => simp at hf
  | static _ hconstant =>
    obtain ⟨_, rfl⟩ := exists_constants_of_staticYield hconstant
    simp at hf
  | @ordinary field _ _ _ hstatic hfield _ =>
    refine ⟨m, hm, hstatic, ?_, fun hpacking => List.mem_flatMap.mpr ⟨_, hy, by simp [hpacking]⟩⟩
    cases field with
    | none => simp [Member.noted] at hf
    | some plain =>
      have hname : plain.name = m.name := (isOf_fieldOf Member.isText_storageType hfield).name
      obtain rfl : f = { plain with storesBits := !m.packing.isEmpty } := by simpa [Member.noted] using hf
      exact hname

end Extracted

end Members

/-! ## The names of packed values -/

namespace TypeProduct

variable {registry : Registry} {settings : Settings} {owner : Int} {t : TypeDef} {r r' : Resolver}
  {p : TypeProduct}

section Accepted

variable (h : IsAccepted registry settings owner true t r r' p) (hrecord : t.isEnum = false)
  (hnames : (t.members.map (·.name)).Nodup) (htexts : ∀ m ∈ t.members, m.name.IsText) (hr : r.IsFiled)

include h

theorem IsAccepted.mem_members {m : Member} (hm : m ∈ p.extracted.packedMembers) : m ∈ t.members :=
  (TypeDef.of_extract h.extract_eq).packedMembers m hm

include htexts hr

/-- The layouts of a type are those of the members whose requests they are for, in their order. -/
theorem IsAccepted.fields_of_layouts :
    List.Forall₂ (fun q l => l.field = q.1.name) (requestsOf p.extracted.packedMembers) p.layouts := by
  have hpacked : ∀ m ∈ p.extracted.packedMembers, m.name.IsText := fun m hm => htexts m (h.mem_members hm)
  exact (maintains_resolveAll_isFiled (t := t) hpacked r hr).2 p.layouts (by rw [h.resolveAll_eq])

include hrecord hnames

/-- The names that are left out among ordinary fields are those of the members with requests. -/
theorem IsAccepted.any_packedNames_eq {f : Field} (hf : f ∈ p.extracted.fields) :
    (p.record.packedNames.any fun name => name.same f.name) = t.packs f := by
  obtain ⟨m, hm, -, hname, hpacked⟩ := exists_member_of_extract h.extract_eq h.errors_eq_nil hrecord hf
  obtain ⟨s, htext⟩ : f.name.IsText := hname ▸ htexts m hm
  have hrecorded : p.record.packedNames = p.extracted.packedMembers.map (·.name) ++ p.layouts.map (·.field) := rfl
  -- A member that is noted has a request, so this holds of all names that are left out.
  have hnoted : ∀ m ∈ p.extracted.packedMembers, m.name = f.name →
      ∃ m ∈ t.members, m.packing ≠ [] ∧ m.name = f.name := by
    intro m hm heq
    obtain ⟨_, _, -, hpacking⟩ := exists_ordinaryIn_of_packedMember h.extract_eq h.errors_eq_nil hm
    exact ⟨m, h.mem_members hm, hpacking, heq⟩
  rw [Bool.eq_iff_iff, TypeDef.packs_iff htexts, List.any_eq_true, hrecorded]
  constructor
  · rintro ⟨name, hmem, hsame⟩
    obtain rfl := Value.eq_of_same hsame (.inr ⟨s, htext⟩)
    obtain hmem | hmem := List.mem_append.mp hmem
    · obtain ⟨m', hm', heq⟩ := List.mem_map.mp hmem
      exact hnoted m' hm' heq
    · obtain ⟨l, hl, heq⟩ := List.mem_map.mp hmem
      obtain ⟨q, hq, hfield⟩ := exists_mem_of_forall₂ (h.fields_of_layouts htexts hr) hl
      exact hnoted q.1 (mem_requestsOf_iff.mp hq).1 (hfield.symm.trans heq)
  · rintro ⟨m', hm', hpacking, heq⟩
    obtain rfl : m' = m := List.inj_on_of_nodup_map hnames hm' hm (heq.trans hname)
    refine ⟨f.name, List.mem_append_left _ ?_, ?_⟩
    · exact List.mem_map.mpr ⟨m', hpacked hpacking, heq⟩
    · rw [htext]
      exact beq_self_eq_true s

/-- The fields that get ordinary functions for a purpose are those of the members without requests, if the type asks
for such functions. -/
theorem IsAccepted.map_fst_ordinaryPlaces (purpose : Purpose) :
    (p.ordinaryPlaces purpose).map (·.1) = if purpose.isAskedBy t then p.unpackedFields else [] := by
  have hplaced := h.grouping.1.map_fst_placedFields
  have hkept : ((placedFields p.registers).filter
      fun q => !p.record.packedNames.any fun name => name.same q.1.name).map (·.1) = p.unpackedFields := by
    rw [unpackedFields, h.typeDef_eq, ← hplaced, List.filter_map]
    refine congrArg (List.map _) (List.filter_congr fun q hq => ?_)
    rw [h.any_packedNames_eq hrecord hnames htexts hr (hplaced ▸ List.mem_map.mpr ⟨q, hq, rfl⟩)]
    rfl
  unfold ordinaryPlaces
  rw [h.typeDef_eq]
  cases purpose.isAskedBy t with
  | false => rfl
  | true =>
    cases hfields : p.extracted.hasFields with
    | true => exact hkept
    | false =>
      have hnone : p.extracted.fields = [] := by simpa [TypeFields.hasFields] using hfields
      simp [unpackedFields, hnone]

/-- The layouts of a type are those of the requests of all members that are stored, in their order. Each is of the
member, and of the request if what is remembered for the type is made of its requests. -/
theorem IsAccepted.forall₂_requests :
    List.Forall₂ (fun q l => l.field = q.1.name
      ∧ (r.MadeFor t.name p.extracted.packedMembers → Layout.ofDirective t.name q.1 q.2 = .ok l)) t.requests
      p.layouts := by
  have hpacked := packedMembers_of_extract h.extract_eq h.errors_eq_nil hrecord
  have hrequests : requestsOf p.extracted.packedMembers = t.requests := by
    rw [hpacked]
    exact requestsOf_filter _ _
  rw [← hrequests]
  by_cases hmade : r.MadeFor t.name p.extracted.packedMembers
  · have hdistinct : p.extracted.packedMembers.Pairwise Member.Apart := by
      have hdiffer : (p.extracted.packedMembers.map (·.name)).Nodup :=
        hnames.sublist (hpacked ▸ List.filter_sublist.map _)
      refine (List.pairwise_map.mp hdiffer).imp_of_mem fun {a b} ha hb hne => ⟨?_, ?_⟩
      · exact Value.same_eq_false (htexts a (h.mem_members ha)) hne
      · exact Value.same_eq_false (htexts b (h.mem_members hb)) hne.symm
    refine (forall₂_ofDirective_of_resolveAll hmade (by rw [h.resolveAll_eq]) hdistinct).imp fun q l hl => ?_
    exact ⟨Layout.field_of_ofDirective hl, fun _ => hl⟩
  · exact (h.fields_of_layouts htexts hr).imp fun q l hl => ⟨hl, fun hmade' => absurd hmade' hmade⟩

end Accepted

/-- Building a type leaves a resolver filed. -/
theorem isFiled_of_run_build {render : Bool} (h : (build registry settings owner render t).run r = .ok (p, r'))
    (htexts : ∀ m ∈ t.members, m.name.IsText) (hr : r.IsFiled) : r'.IsFiled := by
  rcases run_build_eq_ok_iff.mp h with ⟨-, rfl⟩ | ⟨q, hprepared, -, rfl⟩
  · exact hr
  · have hmembers := (TypeDef.of_extract (isPrepared_of_prepared hprepared).extract_eq).packedMembers
    exact (maintains_resolveAll_isFiled (fun m hm => htexts m (hmembers m hm)) r hr).1

/-- In a type that asks for functions of its fields and whose members go by different names, each field has functions
of one kind. Those of ordinary fields are those of the fields whose members have no requests, each once and in their
order: the functions that read always, and those that write if the type asks for them. Those of packed values are those
of the requests of all members that are neither static nor arrays of no given size, one for each request and in their
order. -/
theorem functions_divide_members (h : (build registry settings owner true t).run r = .ok (p, r'))
    (hfine : p.isFine = true) (hrecord : t.isEnum = false) (hasked : t.needsAccessors = true)
    (hnames : (t.members.map (·.name)).Nodup) (htexts : ∀ m ∈ t.members, m.name.IsText) (hr : r.IsFiled) :
    (p.unpackedFields.map (·.name)).Sublist (t.members.map (·.name))
      ∧ (∀ f ∈ p.extracted.fields, ∃ m ∈ t.members, m.isStatic = false ∧ f.name = m.name
        ∧ (f ∈ p.unpackedFields ↔ m.packing = []))
      ∧ (∀ m ∈ t.members, m.packing ≠ [] → ∀ f ∈ p.unpackedFields, f.name ≠ m.name)
      ∧ ∀ purpose : Purpose, ∃ ordinary packed, p.record.Writes p.fragments purpose ordinary packed
        ∧ List.Forall₂ (fun f g => ∃ a, (f, a) ∈ placedFields p.registers
            ∧ ordinaryFunction purpose p.record.name f a = .ok g)
          (if purpose = .read ∨ t.needsSetters = true then p.unpackedFields else []) ordinary
        ∧ List.Forall₂ (fun q g => ∃ l ∈ p.layouts, (l.field = q.1.name
            ∧ (r.MadeFor t.name p.extracted.packedMembers → Layout.ofDirective t.name q.1 q.2 = .ok l))
            ∧ packedFunction p.record.names l purpose = .ok (some g)) t.requests packed := by
  have haccepted := isAccepted_of_run_build h hfine
  have hpacks {f : Field} (hf : f ∈ p.extracted.fields) : f ∈ p.unpackedFields ↔ ¬t.packs f = true := by
    rw [unpackedFields, haccepted.typeDef_eq, List.mem_filter, and_iff_right hf]
    simp
  refine ⟨?sublist, fun f hf => ?own, fun m hm hpacking f hf heq => ?apart, fun purpose => ?functions⟩
  case sublist =>
    exact (List.filter_sublist.map _).trans
      (sublist_names_of_extract haccepted.extract_eq haccepted.errors_eq_nil)
  case own =>
    obtain ⟨m, hm, hstatic, hname, -⟩ :=
      exists_member_of_extract haccepted.extract_eq haccepted.errors_eq_nil hrecord hf
    refine ⟨m, hm, hstatic, hname, ?_⟩
    rw [hpacks hf, TypeDef.packs_iff htexts]
    constructor
    · intro hno
      by_contra hpacking
      exact hno ⟨m, hm, hpacking, hname.symm⟩
    · rintro hnone ⟨m', hm', hpacking, heq⟩
      obtain rfl : m' = m := List.inj_on_of_nodup_map hnames hm' hm (heq.trans hname)
      exact hpacking hnone
  case apart =>
    refine (hpacks (List.mem_of_mem_filter hf)).mp hf ?_
    exact (TypeDef.packs_iff htexts).mpr ⟨m, hm, hpacking, heq.symm⟩
  case functions =>
    obtain ⟨ordinary, packed, hwrites⟩ := (haccepted.isWritten hr.isMade).functions purpose
    refine ⟨ordinary, packed, hwrites, ?_,
      forall₂_comp (haccepted.forall₂_requests hrecord hnames htexts hr) hwrites.arePacked⟩
    have hplaces := haccepted.map_fst_ordinaryPlaces hrecord hnames htexts hr purpose
    have hpurpose : (purpose.isAskedBy t = true) ↔ purpose = .read ∨ t.needsSetters = true := by
      cases purpose <;> simp [Purpose.isAskedBy, hasked]
    simp only [hpurpose] at hplaces
    rw [← hplaces]
    have hplaced : ∀ q ∈ p.ordinaryPlaces purpose, q ∈ placedFields p.registers := by
      intro q hq
      unfold ordinaryPlaces at hq
      split at hq
      · exact List.mem_of_mem_filter hq
      · simp at hq
    have hall := (List.forall₂_and_left _ _).mpr ⟨hplaced, forall₂_of_ordinaryFunctions hwrites.ordinary_eq⟩
    refine List.forall₂_map_left_iff.mpr (hall.imp fun q g hq => ?_)
    exact ⟨q.2, hq.1, hq.2⟩

/-- A weight and a color that share a register, two values in the bits of a word, and a constant. -/
def sharedAndPacked : TypeDef where
  name := "Probe"
  fullName := "Probe"
  packingRules := .text "aggressive"
  needsSetters := true
  members := [{ name := "weight", type := "float" }, { name := "color", type := "Vector3" },
    { name := "flags", type := "uint",
      packing := [{ scheme := "PackedUint", width := some 8, labels := ["Low"] },
        { scheme := "PackedUint", offset := 8, width := some 8, labels := ["High"] }] },
    { name := "limit", type := "uint", isStatic := true, value := .int 4 }]

/-- For each purpose the weight and the color have functions of their own, and so have the two values. -/
theorem functions_divide_members_of_sharedAndPacked :
    sharedAndPacked.isEnum = false ∧ sharedAndPacked.needsAccessors = true
      ∧ (sharedAndPacked.members.map (·.name)).Nodup ∧ (∀ m ∈ sharedAndPacked.members, m.name.IsText)
      ∧ ({} : Resolver).IsFiled
      ∧ ∃ p s', (build ⟨[], []⟩ plainSettings 0 true sharedAndPacked).run {} = .ok (p, s') ∧ p.isFine = true
        ∧ p.registers.length = 2 ∧ p.unpackedFields.map (·.name.display) = ["weight", "color"]
        ∧ ∀ purpose : Purpose, ∃ ordinary packed, p.record.Writes p.fragments purpose ordinary packed
          ∧ ordinary.length = 2 ∧ packed.length = 2 := by
  have hcomputed : (fun q => (q.1.isFine, q.1.registers.length, q.1.unpackedFields.map (·.name.display)))
      <$> (build ⟨[], []⟩ plainSettings 0 true sharedAndPacked).run {} = .ok (true, 2, ["weight", "color"]) := by
    decide +kernel
  obtain ⟨⟨p, s'⟩, hbuild, hgiven⟩ := exists_of_map_eq_ok hcomputed
  simp only [Prod.mk.injEq] at hgiven
  obtain ⟨hfine, hregisters, hunpacked⟩ := hgiven
  have hnames : (sharedAndPacked.members.map (·.name)).Nodup := by simp [sharedAndPacked]
  have htexts : ∀ m ∈ sharedAndPacked.members, m.name.IsText := by simp [sharedAndPacked, Value.IsText]
  refine ⟨rfl, rfl, hnames, htexts, Resolver.isFiled_empty, p, s', hbuild, hfine, hregisters, hunpacked,
    fun purpose => ?_⟩
  obtain ⟨ordinary, packed, hwrites, hordinary, hpacked⟩ :=
    (functions_divide_members hbuild hfine rfl rfl hnames htexts Resolver.isFiled_empty).2.2.2 purpose
  refine ⟨ordinary, packed, hwrites, hordinary.length_eq.symm.trans ?_, hpacked.length_eq.symm⟩
  rw [if_pos (.inr rfl), ← List.length_map (f := fun f => f.name.display), hunpacked]
  rfl

end TypeProduct

end ShaderRecords
