/-
ShaderRecords.Proofs.Extraction.Yields — what a type without a problem has from each of its members.

`Member.Yields` says in three cases what a member gives: nothing for an array of no given size, at most a
constant for a static member, and for an ordinary member its field, its debug entries and itself if it stores
packed values. It holds of whatever the step for a member gives (`yields_of_memberYield`). A type that is
extracted without a problem has from its members exactly what they give, in their order
(`exists_yields_of_extract`).
-/
import ShaderRecords.Proofs.Extraction.Members

namespace ShaderRecords

/-! ## Members -/

/-- The type in which a member is stored: that of its elements if it gives one, or else its own. -/
def Member.storageType (m : Member) : Value :=
  match m.element with
  | .null => .text m.type
  | element => element

/-- The size of the array in which a member is stored, zero for none. -/
def Member.storageSize (m : Member) : Whole :=
  m.arraySize.getD 0

theorem Member.isText_storageType {m : Member} (h : m.element.IsTextOrNull) : m.storageType.IsText := by
  unfold storageType
  rcases h with hnull | ⟨s, hs⟩
  · rw [hnull]
    exact ⟨_, rfl⟩
  · rw [hs]
    exact ⟨_, rfl⟩

section Members

variable {registry : Registry} {t : TypeDef} {m : Member} {next : Value}

/-- What a member with a size is stored in. -/
theorem storage_of_elementType {declared : Value} {size : Whole}
    (h : elementType t m = .ok (some (declared, size))) : declared = m.storageType ∧ size = m.storageSize := by
  unfold Member.storageType Member.storageSize
  obtain ⟨hnull, hnone, helements⟩ | ⟨hnonnull, size', hsize, helements⟩ := elementType_cases h
  · split at helements
    · cases helements
    · obtain ⟨rfl, rfl⟩ := Prod.mk.inj (Option.some.inj helements)
      simp [hnull, hnone]
  · obtain ⟨rfl, rfl⟩ := Prod.mk.inj (Option.some.inj helements)
    split
    next hnull => exact absurd hnull hnonnull
    next => simp [hsize]

/-- A member of a size that gives no type of elements is no array. -/
theorem arraySize_of_elementType {declared : Value} {size : Whole}
    (h : elementType t m = .ok (some (declared, size))) (helement : m.element = .null) :
    m.arraySize = none := by
  obtain ⟨-, hnone, -⟩ | ⟨hnonnull, -⟩ := elementType_cases h
  · exact hnone
  · exact absurd helement hnonnull

variable (registry t) in
/-- What a member gives, `next` being the number of the next debug entry. -/
inductive Member.Yields (next : Value) (m : Member) : MemberYield → Prop
  | unsized (helement : elementType t m = .ok none) : Yields next m { next := next }
  | static {y : MemberYield} (hstatic : m.isStatic = true)
      (hconstant : staticYield next m m.storageType = .ok y) : Yields next m y
  | ordinary {field : Option Field} {debugFields : List DebugField} {last : Value}
      (helement : elementType t m = .ok (some (m.storageType, m.storageSize))) (hstatic : m.isStatic = false)
      (hfield : fieldOf registry t m m.storageType m.storageSize (floatKind (m.surface.getD {}).precision)
        (m.surface.getD {}).guard = .ok field)
      (hdebug : memberDebug t next m (m.noted field) = .ok (debugFields, last)) :
      Yields next m {
        field := m.noted field
        constants := debugFields.map fun d => (d.define, d.id.display)
        debugFields := debugFields
        packedMember := if m.packing.isEmpty then none else some m
        next := last }

theorem yields_of_memberYield {y : MemberYield} (h : memberYield registry t next m = .ok y) :
    m.Yields registry t next y := by
  obtain ⟨part, hpart, h⟩ := memberYield_eq_ok_iff.mp h
  cases hasPart_of_part hpart with
  | unsized helement =>
    obtain rfl := Except.ok.inj h
    exact .unsized helement
  | static helement hstatic =>
    obtain ⟨rfl, rfl⟩ := storage_of_elementType helement
    exact .static hstatic h
  | ordinary helement hstatic hfield =>
    obtain ⟨rfl, rfl⟩ := storage_of_elementType helement
    obtain ⟨⟨debugFields, last⟩, hdebug, h⟩ := bind_eq_ok_iff.mp h
    obtain rfl := Except.ok.inj h
    exact .ordinary helement hstatic hfield hdebug

/-! ## Types -/

/-- What several members give together. -/
def TypeFields.ofYields (ys : List MemberYield) : TypeFields where
  fields := ys.flatMap fun y => y.field.toList
  constants := (ys.flatMap (·.constants)).foldl (fun cs (name, value) => cs.put name value) []
  debugFields := ys.flatMap (·.debugFields)
  packedMembers := ys.flatMap fun y => y.packedMember.toList

theorem TypeFields.ofYields_concat (ys : List MemberYield) (y : MemberYield) :
    ofYields (ys ++ [y]) = (ofYields ys).add y := by
  simp [ofYields, add]

/-- The walk ends without a problem only if it began so and every member gives something. -/
theorem exists_yields_of_extractMembers {members : List Member} (before : List MemberYield)
    {out : TypeFields} (h : extractMembers registry t next (.ofYields before) members = .ok out)
    (herrors : out.errors = []) :
    ∃ ys, List.Forall₂ (fun m y => ∃ next, m.Yields registry t next y) members ys
      ∧ out = .ofYields (before ++ ys) := by
  induction members generalizing next before with
  | nil =>
    obtain rfl := Except.ok.inj h
    exact ⟨[], .nil, by simp⟩
  | cons m ms ih =>
    rw [extractMembers] at h
    split at h
    next y hy =>
      rw [← TypeFields.ofYields_concat] at h
      obtain ⟨ys, hys, rfl⟩ := ih _ h
      exact ⟨y :: ys, .cons ⟨next, yields_of_memberYield hy⟩ hys, by simp⟩
    next e _ =>
      have hkept := extractMembers_induction (P := fun out => out.errors ≠ []) (fun _ _ _ _ _ h => h)
        (fun _ _ _ => by simp) (by simp) h
      exact absurd herrors hkept
    next => simp at h

/-- A record without a problem has what its members give. -/
theorem exists_yields_of_extract {start : Value} {out : TypeFields}
    (h : t.extract registry start = .ok out) (herrors : out.errors = []) (hrecord : t.isEnum = false) :
    ∃ ys, List.Forall₂ (fun m y => ∃ next, m.Yields registry t next y) t.members ys
      ∧ out = .ofYields ys := by
  rw [TypeDef.extract_of_record hrecord] at h
  exact exists_yields_of_extractMembers [] h herrors

/-! ## Ordinary members -/

variable (registry t) in
/-- What an ordinary member gives, as a part of what its type gives. -/
structure Member.OrdinaryIn (out : TypeFields) (m : Member) (field : Option Field)
    (debugFields : List DebugField) : Prop where
  member : m ∈ t.members
  element_eq : elementType t m = .ok (some (m.storageType, m.storageSize))
  field_eq : fieldOf registry t m m.storageType m.storageSize (floatKind (m.surface.getD {}).precision)
    (m.surface.getD {}).guard = .ok field
  debug_eq : ∃ next last, memberDebug t next m (m.noted field) = .ok (debugFields, last)
  field_mem : ∀ f ∈ m.noted field, f ∈ out.fields
  debug_mem : ∀ e ∈ debugFields, e ∈ out.debugFields
  packed_mem : m.packing ≠ [] → m ∈ out.packedMembers

variable (registry t) in
/-- Whether a yield holds at most a constant, or is that of an ordinary member. -/
def MemberYield.IsPartOf (out : TypeFields) (y : MemberYield) : Prop :=
  (y.field = none ∧ y.packedMember = none ∧ y.debugFields = [])
    ∨ ∃ (m : Member) (field : Option Field), m.OrdinaryIn registry t out field y.debugFields
      ∧ y.field = m.noted field ∧ y.packedMember = if m.packing.isEmpty then none else some m

theorem isPartOf_of_yields {ys : List MemberYield}
    (h : List.Forall₂ (fun m y => ∃ next, m.Yields registry t next y) t.members ys) :
    ∀ y ∈ ys, y.IsPartOf registry t (.ofYields ys) := by
  intro y hy
  obtain ⟨m, hm, next, hyields⟩ := exists_mem_of_forall₂ h hy
  cases hyields with
  | unsized => exact Or.inl ⟨rfl, rfl, rfl⟩
  | static _ hconstant =>
    obtain ⟨_, rfl⟩ := exists_constants_of_staticYield hconstant
    exact Or.inl ⟨rfl, rfl, rfl⟩
  | @ordinary field debugFields last helement _ hfield hdebug =>
    refine Or.inr ⟨m, field, ⟨hm, helement, hfield, ⟨next, last, hdebug⟩, ?_, ?_, ?_⟩, rfl, rfl⟩
    · exact fun f hf => List.mem_flatMap.mpr ⟨_, hy, by simpa using hf⟩
    · exact fun e he => List.mem_flatMap.mpr ⟨_, hy, he⟩
    · exact fun hpacking => List.mem_flatMap.mpr ⟨_, hy, by simp [hpacking]⟩

/-- The field of an ordinary member is its own. -/
theorem Member.OrdinaryIn.isOf {out : TypeFields} {field : Option Field} {debugFields : List DebugField}
    (h : m.OrdinaryIn registry t out field debugFields) {f : Field} (hf : field = some f) : f.IsOf m :=
  isOf_fieldOf Member.isText_storageType (hf ▸ h.field_eq)

section Extracted

variable {start : Value} {out : TypeFields} (h : t.extract registry start = .ok out) (herrors : out.errors = [])

include h herrors

/-- What a type without a problem has is what its members give. An enumeration has constants only. -/
theorem exists_parts_of_extract :
    ∃ ys : List MemberYield, (∀ y ∈ ys, y.IsPartOf registry t out)
      ∧ out.fields = ys.flatMap (fun y => y.field.toList) ∧ out.debugFields = ys.flatMap (·.debugFields)
      ∧ out.packedMembers = ys.flatMap fun y => y.packedMember.toList := by
  cases hrecord : t.isEnum with
  | true =>
    obtain ⟨constants, -, rfl⟩ := TypeDef.exists_constants_of_extract hrecord h
    exact ⟨[], by simp, rfl, rfl, rfl⟩
  | false =>
    obtain ⟨ys, hys, rfl⟩ := exists_yields_of_extract h herrors hrecord
    exact ⟨ys, isPartOf_of_yields hys, rfl, rfl, rfl⟩

theorem exists_ordinaryIn_of_field {f : Field} (hf : f ∈ out.fields) :
    ∃ m field debugFields, Member.OrdinaryIn registry t out m field debugFields ∧ m.noted field = some f := by
  obtain ⟨ys, hys, hfields, -, -⟩ := exists_parts_of_extract h herrors
  obtain ⟨y, hy, hf⟩ := List.mem_flatMap.mp (hfields ▸ hf)
  rcases hys y hy with ⟨hnone, -, -⟩ | ⟨m, field, hm, hfield, -⟩
  · simp [hnone] at hf
  · exact ⟨m, field, _, hm, hfield ▸ Option.mem_toList.mp hf⟩

theorem exists_ordinaryIn_of_debugField {e : DebugField} (he : e ∈ out.debugFields) :
    ∃ m field debugFields, Member.OrdinaryIn registry t out m field debugFields ∧ e ∈ debugFields := by
  obtain ⟨ys, hys, -, hdebug, -⟩ := exists_parts_of_extract h herrors
  obtain ⟨y, hy, he⟩ := List.mem_flatMap.mp (hdebug ▸ he)
  rcases hys y hy with ⟨-, -, hnone⟩ | ⟨m, field, hm, -, -⟩
  · simp [hnone] at he
  · exact ⟨m, field, _, hm, he⟩

theorem exists_ordinaryIn_of_packedMember {m : Member} (hm : m ∈ out.packedMembers) :
    ∃ field debugFields, m.OrdinaryIn registry t out field debugFields ∧ m.packing ≠ [] := by
  obtain ⟨ys, hys, -, -, hpacked⟩ := exists_parts_of_extract h herrors
  obtain ⟨y, hy, hm⟩ := List.mem_flatMap.mp (hpacked ▸ hm)
  rcases hys y hy with ⟨-, hnone, -⟩ | ⟨m', field, hm', -, hpacking⟩
  · simp [hnone] at hm
  · rw [hpacking] at hm
    split at hm
    · simp at hm
    next hne =>
      obtain rfl : m = m' := by simpa using hm
      exact ⟨field, _, hm', by simpa using hne⟩

end Extracted

end Members

end ShaderRecords
