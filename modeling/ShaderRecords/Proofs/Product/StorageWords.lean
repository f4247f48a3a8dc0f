/-
ShaderRecords.Proofs.Product.StorageWords — which packed values have a declared word to be stored in.

The functions for a packed value read and write one word of the record, under the name of the member. So the
record should declare a word of that name, in a register of its own (`Layout.HasWord`). The resolver looks at
the type of the member for that, the extractor at the type of its elements, where it gives one. A member
stores a word (`Member.StoresWord`) if what the extractor looks at is a word and no array, and this is what
counts: `packed_words` says that the declared word is there exactly for such members. The two agree for members
that give no elements.
-/
import ShaderRecords.Proofs.Extraction.Yields
import ShaderRecords.Proofs.Product.Guards
import ShaderRecords.Proofs.Storage.Origin

namespace ShaderRecords

/-! ## Words -/

/-- Whether values of a type are stored as words: the built-in type is, and a compound of one such field. -/
def Registry.IsWord (registry : Registry) (type : Value) : Prop :=
  type = .text "uint"
    ∨ type.text?.bind Shape.ofName? = none ∧ registry.findType? type = none
      ∧ ∃ c, registry.findCompound? type = some c ∧ (c.fields.filter (!·.isStatic)).map (·.type) = ["uint"]

/-- Whether a member is stored as a word. -/
def Member.StoresWord (registry : Registry) (m : Member) : Prop :=
  registry.IsWord m.storageType ∧ m.storageSize.toInt ≤ 0

/-- Whether a field is declared as a word and no array. -/
structure Field.IsWord (f : Field) : Prop where
  kind : f.kind = .uint
  rows_le : f.rows.toInt ≤ 1
  arraySize_le : f.arraySize.toInt ≤ 0

/-- Whether the word that the functions for a layout read and write is declared: in a register that holds the
packed field of that name and no other. -/
def Layout.HasWord {α : Type} (l : Layout α) (registers : List Register) : Prop :=
  ∃ r ∈ registers, ∃ f, r.members = [f] ∧ f.storesBits = true ∧ f.name = l.field ∧ r.name = l.field
    ∧ r.kind = .uint ∧ r.declaration = "uint " ++ l.field.display

/-! ## Declarations -/

theorem length_toString_pos {n : Int} (h : 0 ≤ n) : 0 < (toString n).length := by
  match n with
  | .ofNat _ => exact Nat.length_repr_pos

/-- Rows and the size of an array make a declaration longer than that of a word. -/
theorem Field.declaration_eq_iff {f : Field} (hkind : f.kind = .uint) :
    f.declaration = "uint " ++ f.name.display ↔ f.rows.toInt ≤ 1 ∧ f.arraySize.toInt ≤ 0 := by
  have hspelling : f.typeSpelling.display = "uint" ++ if f.rows.toInt > 1 then
      toString f.rows.toInt ++ (if f.cols.toInt > 1 then "x" ++ toString f.cols.toInt else "") else "" := by
    unfold typeSpelling Primitive.spelling
    rw [hkind, if_neg (by decide)]
    split <;> simp [Value.display, Primitive.keyword, String.append_assoc]
  unfold declaration
  rw [hspelling]
  constructor
  · intro h
    have hlength := congrArg String.length h
    have huint : "uint".length = 4 := rfl
    have hword : "uint ".length = 5 := rfl
    have hblank : " ".length = 1 := rfl
    simp only [String.length_append, huint, hword, hblank] at hlength
    constructor
    · by_contra hrows
      have hdigits := length_toString_pos (n := f.rows.toInt) (by omega)
      rw [if_pos (by omega), String.length_append] at hlength
      omega
    · by_contra hsize
      have hbracket : "[".length = 1 := rfl
      rw [if_pos (c := f.arraySize.toInt > 0) (by omega), String.length_append, String.length_append,
        hbracket] at hlength
      omega
  · rintro ⟨hrows, hsize⟩
    rw [if_neg (by omega), if_neg (by omega)]
    simp only [String.append_empty]
    rfl

/-! ## Types -/

/-- Of the built-in types only one is a word. -/
theorem Shape.isWord_iff_of_ofName? {name : String} {shape : Shape} (h : Shape.ofName? name = some shape) :
    shape.kind = .uint ∧ shape.rows ≤ 1 ↔ name = "uint" := by
  have htable : ∀ e ∈ Shape.table, (e.2.kind = .uint ∧ e.2.rows ≤ 1 ↔ e.1 = "uint") := by decide
  obtain ⟨before, after, heq, -⟩ := List.lookup_eq_some_iff.mp h
  exact htable (name, shape) (by rw [Shape.table] at heq ⊢; rw [heq]; simp)

theorem scalarKind?_eq_uint_iff {name : String} : scalarKind? name = some .uint ↔ name = "uint" := by
  constructor
  · intro h
    unfold scalarKind? at h
    split at h
    next hscalar =>
      have htable : ∀ s ∈ scalarTypes, (Shape.ofName? s).map (·.kind) = some .uint → s = "uint" := by decide
      exact htable name (by simpa using hscalar) h
    next => simp at h
  · rintro rfl
    decide

section Fields

variable {registry : Registry} {t : TypeDef} {m : Member}

/-- The scalars of a compound are its fields that are not static. -/
theorem forall₂_of_compoundScalars {c : Compound} {fields : List Member}
    {found scalars : List (Primitive × Value)} (h : compoundScalars t c m found fields = .ok scalars) :
    ∃ more, scalars = found ++ more
      ∧ List.Forall₂ (fun f s => scalarKind? f.type = some s.1) (fields.filter (!·.isStatic)) more := by
  induction fields generalizing found with
  | nil =>
    obtain rfl := Except.ok.inj h
    exact ⟨[], by simp, .nil⟩
  | cons f fs ih =>
    unfold compoundScalars at h
    split at h
    next hstatic =>
      obtain ⟨more, rfl, hmore⟩ := ih h
      exact ⟨more, rfl, by simpa [hstatic] using hmore⟩
    next hstatic =>
      split at h
      · simp at h
      next kind hkind =>
        split at h
        · simp at h
        · obtain ⟨more, rfl, hmore⟩ := ih h
          refine ⟨(kind, f.name) :: more, by simp, ?_⟩
          rw [List.filter_cons_of_pos (by simpa using hstatic)]
          exact .cons hkind hmore

/-- A compound becomes a word exactly if it has one field that is a word. -/
theorem isWord_iff_of_flatten {c : Compound} {size : Whole} {guard : String} {field : Option Field}
    (h : flatten t c m size guard = .ok field) :
    (∃ f, field = some f ∧ f.IsWord)
      ↔ (c.fields.filter (!·.isStatic)).map (·.type) = ["uint"] ∧ size.toInt ≤ 0 := by
  unfold flatten at h
  obtain ⟨scalars, hscalars, h⟩ := bind_eq_ok_iff.mp h
  obtain ⟨more, rfl, hmore⟩ := forall₂_of_compoundScalars hscalars
  generalize c.fields.filter (!·.isStatic) = fields at hmore
  cases hmore with
  | nil =>
    obtain rfl := Except.ok.inj h
    simp
  | @cons f scalar fields rest hkind hrest =>
    dsimp only at h
    split at h
    · simp at h
    · obtain rfl := Except.ok.inj h
      constructor
      · rintro ⟨_, hf, hword, hrows, hsize⟩
        obtain rfl := Option.some.inj hf
        have hrows' : (rest.length : Int) + 1 ≤ 1 := hrows
        obtain rfl : rest = [] := List.length_eq_zero_iff.mp (by omega)
        cases hrest
        have hscalar : f.type = "uint" := scalarKind?_eq_uint_iff.mp (hkind.trans (congrArg some hword))
        exact ⟨by simp [hscalar], hsize⟩
      · rintro ⟨htypes, hsize⟩
        obtain ⟨htype, hnil⟩ := List.cons.inj htypes
        obtain rfl := List.map_eq_nil_iff.mp hnil
        cases hrest
        rw [scalarKind?_eq_uint_iff.mpr htype] at hkind
        exact ⟨_, rfl, (Option.some.inj hkind).symm, Int.le_refl 1, hsize⟩

theorem isFloat_floatKind (precision : String) : (floatKind precision).isFloat = true := by
  unfold floatKind
  split
  · rfl
  · split <;> rfl

/-- Words stay words whatever floating-point numbers are stored as. -/
theorem kind_eq_uint_iff (kind : Primitive) (precision : String) :
    (if kind.isFloat then floatKind precision else kind) = .uint ↔ kind = .uint := by
  split
  next hfloat =>
    constructor
    · intro hword
      exact absurd (isFloat_floatKind precision) (by rw [hword]; decide)
    · intro hword
      exact absurd hfloat (by rw [hword]; decide)
  next => rfl

/-- A member becomes a word exactly if its type is stored as words and it is no array. -/
theorem isWord_iff_of_fieldOf {declared : Value} {size : Whole} {precision guard : String}
    {field : Option Field} (h : fieldOf registry t m declared size (floatKind precision) guard = .ok field) :
    (∃ f, field = some f ∧ f.IsWord) ↔ registry.IsWord declared ∧ size.toInt ≤ 0 := by
  unfold Registry.IsWord
  rcases fieldOf_cases h with ⟨name, shape, rfl, hbuiltin, rfl⟩ | ⟨hnone, hcases⟩
  · have hshape : (Value.text name).text?.bind Shape.ofName? = some shape := hbuiltin
    have hkind := kind_eq_uint_iff shape.kind precision
    have hword : Value.text name = .text "uint" ↔ shape.kind = .uint ∧ shape.rows ≤ 1 := by
      rw [Value.text.injEq, Shape.isWord_iff_of_ofName? hbuiltin]
    rw [hshape, hword]
    constructor
    · rintro ⟨_, hf, hkind', hrows, hsize⟩
      obtain rfl := Option.some.inj hf
      exact ⟨Or.inl ⟨hkind.mp hkind', hrows⟩, hsize⟩
    · rintro ⟨⟨hkind', hrows⟩ | ⟨hnone, -⟩, hsize⟩
      · exact ⟨_, rfl, hkind.mpr hkind', hrows, hsize⟩
      · simp at hnone
  · have hbuiltin : declared ≠ .text "uint" := by
      rintro rfl
      exact absurd hnone (by decide)
    rcases hcases with ⟨nested, hnested, hf⟩ | ⟨c, hnested, hc, hflatten⟩
    · have hnoword : ¬∃ f, field = some f ∧ f.IsWord := by
        rintro ⟨f, rfl, hkind, -⟩
        obtain rfl := Option.some.inj hf
        split at hkind <;> cases hkind
      simp [hnoword, hbuiltin, hnested]
    · rw [isWord_iff_of_flatten hflatten]
      simp [hbuiltin, hnone, hnested, hc]

end Fields

/-! ## Registers -/

theorem Register.Formed.eq_ofField {r : Register} {f : Field} (h : r.Formed) (hmembers : r.members = [f]) :
    r = Register.ofField f := by
  obtain ⟨name, g, gs, hname, rfl, -⟩ := h.exists_eq_ofGroup
  obtain ⟨rfl, rfl⟩ := List.cons.inj hmembers
  obtain rfl : g.name = name := Option.some.inj hname
  exact Register.ofGroup_singleton g

/-- A field that may not share has a register of its own. -/
theorem Grouping.ofField_mem {fields : List Field} {registers : List Register} (h : Grouping fields registers)
    {f : Field} (hf : f ∈ fields) (halone : f.isShareable = false) : Register.ofField f ∈ registers := by
  rw [← h.members] at hf
  obtain ⟨r, hr, hf⟩ := List.mem_flatMap.mp hf
  obtain ⟨name, g, gs, hname, rfl, hshare⟩ := (h.formed r hr).exists_eq_ofGroup
  have hgs : gs = [] := by
    by_contra hne
    simp [(hshare hne).shareable f hf] at halone
  subst hgs
  obtain rfl : f = g := by simpa using hf
  rwa [← (h.formed _ hr).eq_ofField rfl]

namespace TypeProduct

variable {registry : Registry} {settings : Settings} {owner : Int} {render : Bool} {t : TypeDef}
  {r r' : Resolver} {p : TypeProduct} {l : Layout Number}

/-- The word for a layout is declared exactly if a packed member of its name is stored as a word. -/
theorem IsAccepted.hasWord_iff (h : IsAccepted registry settings owner render t r r' p) :
    l.HasWord p.registers
      ↔ ∃ m ∈ p.extracted.packedMembers, m.name = l.field ∧ m.StoresWord registry := by
  obtain ⟨hgrouping, -⟩ := h.grouping
  constructor
  · rintro ⟨register, hregister, f, hmembers, hstores, hname, -, hkind, hdeclaration⟩
    obtain rfl := (hgrouping.formed register hregister).eq_ofField hmembers
    obtain ⟨hrows, hsize⟩ := (Field.declaration_eq_iff hkind).mp (hname ▸ hdeclaration)
    have hf : f ∈ p.extracted.fields := by
      rw [← hgrouping.members]
      exact List.mem_flatMap.mpr ⟨_, hregister, List.mem_singleton_self f⟩
    obtain ⟨m, field, debugFields, hm, hnoted⟩ := exists_ordinaryIn_of_field h.extract_eq h.errors_eq_nil hf
    obtain ⟨f', rfl, rfl⟩ := Option.map_eq_some_iff.mp hnoted
    have hpacking : m.packing ≠ [] := by simpa using hstores
    have hword : registry.IsWord m.storageType ∧ m.storageSize.toInt ≤ 0 :=
      (isWord_iff_of_fieldOf hm.field_eq).mp ⟨f', rfl, hkind, hrows, hsize⟩
    exact ⟨m, hm.packed_mem hpacking, (hm.isOf rfl).name.symm.trans hname, hword⟩
  · rintro ⟨m, hm, hname, hword⟩
    obtain ⟨field, debugFields, hm, hpacking⟩ :=
      exists_ordinaryIn_of_packedMember h.extract_eq h.errors_eq_nil hm
    obtain ⟨f, rfl, hkind, hrows, hsize⟩ := (isWord_iff_of_fieldOf hm.field_eq).mpr hword
    have hstores : (!m.packing.isEmpty) = true := by simpa using hpacking
    have hf := hm.field_mem { f with storesBits := !m.packing.isEmpty } rfl
    have hfield : f.name = l.field := (hm.isOf rfl).name.trans hname
    refine ⟨_, hgrouping.ofField_mem hf (by simp [Field.isShareable, hstores]), _, rfl, hstores, hfield, hfield,
      hkind, ?_⟩
    rw [← hfield]
    exact (Field.declaration_eq_iff hkind).mpr ⟨hrows, hsize⟩

/-- In a type without a problem every packed value that takes bits of a word belongs to a member whose type is
that of words. The word itself is declared, under that name and in a register of its own, exactly if a packed
member of the name is stored as one; a member that gives no type of elements is. -/
theorem packed_words (h : (build registry settings owner render t).run r = .ok (p, r'))
    (hfine : p.isFine = true) (hr : r.MadeFor t.name p.extracted.packedMembers) (hl : l ∈ p.layouts)
    (hscheme : l.scheme ≠ some .noPacking) :
    (∃ m ∈ p.extracted.packedMembers, m.name = l.field ∧ m.type = "uint"
        ∧ (m.element = .null → l.HasWord p.registers))
      ∧ (l.HasWord p.registers
        ↔ ∃ m ∈ p.extracted.packedMembers, m.name = l.field ∧ m.StoresWord registry) := by
  have haccepted := isAccepted_of_run_build h hfine
  have hlayouts : ((resolveAll t p.extracted.packedMembers).outcome r).1 = .ok p.layouts := by
    rw [haccepted.resolveAll_eq]
  obtain ⟨m, hm, d, -, hmade⟩ := exists_request_of_resolveAll hr hlayouts l hl
  obtain ⟨scheme, bits, range, -, -, htype, -, rfl⟩ := Layout.ofDirective_eq_ok_iff.mp hmade
  have hword : m.type = "uint" := by
    have hpacks : scheme ≠ .noPacking := fun heq => hscheme (congrArg some heq)
    by_contra hother
    simp [checkStorageType, hpacks, hother] at htype
  refine ⟨⟨m, hm, rfl, hword, fun helement => haccepted.hasWord_iff.mpr ⟨m, hm, rfl, ?_⟩⟩,
    haccepted.hasWord_iff⟩
  obtain ⟨field, debugFields, hordinary, -⟩ :=
    exists_ordinaryIn_of_packedMember haccepted.extract_eq haccepted.errors_eq_nil hm
  have hsize := arraySize_of_elementType hordinary.element_eq helement
  exact ⟨Or.inl (by simp [Member.storageType, helement, hword]), by rw [Member.storageSize, hsize]; decide⟩

/-- A number beside a member that stores some bits, whose elements may be of another type. -/
def flagsBeside (element : Value) (size : Option Whole) : TypeDef where
  name := "Probe"
  fullName := "Probe"
  packingRules := "aggressive"
  members := [
    { name := "flags", type := "uint", element := element, arraySize := size,
      packing := [{ scheme := "PackedUint", width := some 8 }] },
    { name := "count", type := "uint" }]

/-- Elements of the member that stores bits, and what is declared for it and the number. -/
def declaredFlags : List ((Value × Option Whole) × List String) :=
  [((.null, none), ["uint flags", "uint count"]), (("float", some 4), ["float flags[4]", "uint count"])]

theorem build_flagsBeside : ∀ sample ∈ declaredFlags,
    (fun q => (q.1.isFine, q.1.layouts.map (·.scheme), q.1.registers.map (·.declaration)))
        <$> (build ⟨[], []⟩ plainSettings 0 true (flagsBeside sample.1.1 sample.1.2)).run {}
      = .ok (true, [some .packedUint], sample.2) := by
  decide +kernel

/-- The product of a member that stores bits beside a number. -/
theorem exists_build_flagsBeside (element : Value) (size : Option Whole) (declarations : List String)
    (h : ((element, size), declarations) ∈ declaredFlags) :
    ∃ p s' l, (build ⟨[], []⟩ plainSettings 0 true (flagsBeside element size)).run {} = .ok (p, s')
      ∧ p.isFine = true ∧ p.layouts = [l] ∧ l.scheme = some .packedUint
      ∧ p.registers.map (·.declaration) = declarations := by
  obtain ⟨⟨p, s'⟩, hbuild, hgiven⟩ := exists_of_map_eq_ok (build_flagsBeside _ h)
  simp only [Prod.mk.injEq, List.map_eq_cons_iff, List.map_eq_nil_iff] at hgiven
  obtain ⟨hfine, ⟨l, _, hlayouts, hscheme, rfl⟩, hdeclarations⟩ := hgiven
  exact ⟨p, s', l, hbuild, hfine, hlayouts, hscheme, hdeclarations⟩

/-- A member that stores bits has its word beside a number, with which it does not share. -/
theorem packed_words_beside_number :
    ∃ p s' l, (build ⟨[], []⟩ plainSettings 0 true (flagsBeside .null none)).run {} = .ok (p, s')
      ∧ p.isFine = true ∧ p.layouts = [l] ∧ p.registers.map (·.declaration) = ["uint flags", "uint count"]
      ∧ l.HasWord p.registers := by
  obtain ⟨p, s', l, hbuild, hfine, hlayouts, hscheme, hdeclarations⟩ :=
    exists_build_flagsBeside .null none ["uint flags", "uint count"] (.head _)
  refine ⟨p, s', l, hbuild, hfine, hlayouts, hdeclarations, ?_⟩
  obtain ⟨⟨m, hm, -, -, hword⟩, -⟩ := packed_words hbuild hfine (fun e he => by simp at he)
    (hlayouts ▸ List.mem_singleton_self l) (by simp [hscheme])
  have hmember := (TypeDef.of_extract (isAccepted_of_run_build hbuild hfine).extract_eq).packedMembers m hm
  refine hword ?_
  simp only [flagsBeside, List.mem_cons, List.not_mem_nil, or_false] at hmember
  rcases hmember with rfl | rfl <;> rfl

/-- A member whose elements are numbers of another kind is declared as an array of those, although it is read
and written as a word. -/
theorem packed_words_missing_for_elements :
    ∃ p s' l, (build ⟨[], []⟩ plainSettings 0 true (flagsBeside "float" (some 4))).run {} = .ok (p, s')
      ∧ p.isFine = true ∧ p.layouts = [l] ∧ l.scheme = some .packedUint
      ∧ p.registers.map (·.declaration) = ["float flags[4]", "uint count"] ∧ ¬l.HasWord p.registers := by
  obtain ⟨p, s', l, hbuild, hfine, hlayouts, hscheme, hdeclarations⟩ :=
    exists_build_flagsBeside "float" (some 4) ["float flags[4]", "uint count"] (.tail _ (.head _))
  refine ⟨p, s', l, hbuild, hfine, hlayouts, hscheme, hdeclarations, fun hword => ?_⟩
  have haccepted := isAccepted_of_run_build hbuild hfine
  obtain ⟨m, hm, -, -, hsize⟩ := haccepted.hasWord_iff.mp hword
  obtain ⟨_, _, hordinary, hpacking⟩ :=
    exists_ordinaryIn_of_packedMember haccepted.extract_eq haccepted.errors_eq_nil hm
  have hmember := hordinary.member
  simp only [flagsBeside, List.mem_cons, List.not_mem_nil, or_false] at hmember
  rcases hmember with rfl | rfl
  · exact absurd hsize (by decide)
  · exact hpacking rfl

end TypeProduct

end ShaderRecords
