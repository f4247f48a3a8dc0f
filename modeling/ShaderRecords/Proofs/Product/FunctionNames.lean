/-
ShaderRecords.Proofs.Product.FunctionNames — when the functions of a type have different names.

For one purpose a type has functions for its ordinary fields and functions for its packed values, and all of
them end up in one file. The name of a function is the word for the purpose and behind it the name of the field
with its first letter in upper case, or the label of the value as it is. Nothing compares the names. So they
differ exactly if no two fields get the same name by the change of the first letter and no field gets the label
of a value by it (`functionNames_nodup_iff`).
-/
import ShaderRecords.Proofs.Extraction.Yields
import ShaderRecords.Proofs.Include.ShaderFunctions
import ShaderRecords.Proofs.Product.Guards
import ShaderRecords.Proofs.Record.Placement
import ShaderRecords.Proofs.Storage.Neighbours

namespace ShaderRecords

/-! ## Names of fields -/

section Fields

variable {registry : Registry} {t : TypeDef} {m : Member}

/-- A member gives at most one field, and that goes by the name of the member. -/
theorem sublist_names_of_yields {next : Value} {y : MemberYield} (h : m.Yields registry t next y) :
    (y.field.toList.map (·.name)).Sublist [m.name] := by
  cases h with
  | unsized => exact List.nil_sublist _
  | static _ hconstant =>
    obtain ⟨_, rfl⟩ := exists_constants_of_staticYield hconstant
    exact List.nil_sublist _
  | @ordinary field _ _ _ _ hfield =>
    cases field with
    | none => exact List.nil_sublist _
    | some f =>
      have hname : f.name = m.name := (isOf_fieldOf Member.isText_storageType hfield).name
      simp [Member.noted, hname]

theorem sublist_names_of_forall₂ {members : List Member} {ys : List MemberYield}
    (h : List.Forall₂ (fun m y => ∃ next, m.Yields registry t next y) members ys) :
    ((ys.flatMap fun y => y.field.toList).map (·.name)).Sublist (members.map (·.name)) := by
  induction h with
  | nil => exact List.Sublist.refl _
  | cons hfirst _ ih =>
    obtain ⟨next, hyields⟩ := hfirst
    rw [List.flatMap_cons, List.map_append, List.map_cons]
    exact (sublist_names_of_yields hyields).append ih

/-- The names of the fields of a type are names of its members, in their order. -/
theorem sublist_names_of_extract {start : Value} {out : TypeFields}
    (h : t.extract registry start = .ok out) (herrors : out.errors = []) :
    (out.fields.map (·.name)).Sublist (t.members.map (·.name)) := by
  cases hrecord : t.isEnum with
  | true =>
    obtain ⟨constants, -, rfl⟩ := TypeDef.exists_constants_of_extract hrecord h
    exact List.nil_sublist _
  | false =>
    obtain ⟨ys, hys, rfl⟩ := exists_yields_of_extract h herrors hrecord
    exact sublist_names_of_forall₂ hys

/-- The fields of a grouping are placed in their order. -/
theorem Grouping.map_fst_placedFields {fields : List Field} {registers : List Register}
    (h : Grouping fields registers) : (placedFields registers).map (·.1) = fields := by
  rw [← h.map_field_locatedFields, ← map_locatedFields, List.map_map]
  rfl

end Fields

/-! ## Names that differ -/

/-- Names behind one word differ exactly if the names do, the changed ones and those that stay as they are. -/
theorem nodup_prefixed_iff {names labels : List String} (hnames : names.Nodup) (hlabels : labels.Nodup)
    (change : String → String) (word : String) :
    (names.map (fun name => word ++ change name) ++ labels.map (word ++ ·)).Nodup
      ↔ (∀ a ∈ names, ∀ b ∈ names, change a = change b → a = b)
        ∧ ∀ a ∈ names, ∀ label ∈ labels, change a ≠ label := by
  rw [List.nodup_append, List.nodup_map_iff_inj_on hnames, List.nodup_map_iff_inj_on hlabels]
  simp only [String.append_right_inj, List.mem_map, forall_exists_index, and_imp, forall_apply_eq_imp_iff₂,
    ne_eq]
  tauto

namespace TypeProduct

/-- A product as a record, the pieces of which do not depend on the include path of the packing library but for
the line that includes it. -/
def record (p : TypeProduct) : RecordView :=
  p.view .null p.typeDef.name.display

/-- The fields that get ordinary functions for a purpose, with their places. -/
def ordinaryPlaces (p : TypeProduct) (purpose : Purpose) : List (Field × Accessor) :=
  if purpose.isAskedBy p.typeDef && p.extracted.hasFields then
    (placedFields p.registers).filter fun q => !p.record.packedNames.any fun name => name.same q.1.name
  else []

/-- The names of the fields that get ordinary functions for a purpose. -/
def ordinaryNames (p : TypeProduct) (purpose : Purpose) : List String :=
  (p.ordinaryPlaces purpose).map fun q => q.1.name.display

section Fine

variable {registry : Registry} {settings : Settings} {owner : Int} {t : TypeDef} {r r' : Resolver}
  {p : TypeProduct}

/-- The layouts of a type without a problem have value types if all that was remembered was made of
requests. -/
theorem IsAccepted.isSome_valueType? {render : Bool} (h : IsAccepted registry settings owner render t r r' p)
    (hr : r.IsMade) : ∀ l ∈ p.layouts, l.valueType?.isSome = true := by
  intro l hl
  have hkept : Keeps Layout.IsMade (resolveAll t p.extracted.packedMembers) fun ls => ∀ l ∈ ls, l.IsMade :=
    keeps_resolveAll fun m _ d _ l hl => ⟨t.name, m, d, hl⟩
  have hlayouts : ((resolveAll t p.extracted.packedMembers).outcome r).1 = .ok p.layouts := by
    rw [h.resolveAll_eq]
  obtain ⟨_, _, _, hmade⟩ := (hkept r hr).2 _ hlayouts l hl
  exact Layout.isSome_valueType?_of_ofDirective hmade

/-- The pieces of a type without a problem are written as the type says if its layouts have value types. -/
theorem IsAccepted.isWritten_of_valueTypes (h : IsAccepted registry settings owner true t r r' p)
    (htypes : ∀ l ∈ p.layouts, l.valueType?.isSome = true) : p.record.IsWritten p.fragments := by
  obtain ⟨name, told, hname, hfragments⟩ := h.fragments_eq rfl
  have hwritten := RecordView.isWritten_of_fragments htypes hfragments
  have hrecord : p.record = p.view .null name := by rw [record, hname]; rfl
  rw [hrecord]
  exact ⟨fun purpose => (hwritten.functions purpose).imp fun _ => Exists.imp fun _ h => ⟨h.1, h.2, h.3, h.4⟩,
    hwritten.debug⟩

/-- The pieces of a type without a problem are written as the type says. -/
theorem IsAccepted.isWritten (h : IsAccepted registry settings owner true t r r' p) (hr : r.IsMade) :
    p.record.IsWritten p.fragments :=
  h.isWritten_of_valueTypes (h.isSome_valueType? hr)

/-- The functions of ordinary fields are those of the fields that get one. -/
theorem forall₂_of_ordinaryFunctions {purpose : Purpose} {functions : List ShaderFunction}
    (h : p.record.ordinaryFunctions purpose = .ok functions) :
    List.Forall₂ (fun q f => ordinaryFunction purpose p.record.name q.1 q.2 = .ok f) (p.ordinaryPlaces purpose)
      functions := by
  unfold RecordView.ordinaryFunctions at h
  unfold ordinaryPlaces
  have hasked : (purpose.isAskedBy p.record.typeDef && p.record.extracted.hasFields)
      = (purpose.isAskedBy p.typeDef && p.extracted.hasFields) := rfl
  rw [hasked] at h
  cases hcase : purpose.isAskedBy p.typeDef && p.extracted.hasFields with
  | false =>
    rw [hcase] at h
    obtain rfl := Except.ok.inj h
    exact .nil
  | true =>
    rw [hcase] at h
    obtain ⟨fields, hfields, h⟩ := bind_eq_ok_iff.mp h
    obtain ⟨_, -, hfields⟩ := bind_eq_ok_iff.mp hfields
    obtain ⟨_, -, hfields⟩ := bind_eq_ok_iff.mp hfields
    obtain rfl := Except.ok.inj hfields
    exact mapM_eq_ok_iff.mp h

/-- The functions of ordinary fields have the names of these fields, which are texts. -/
theorem names_of_ordinaryFunctions {purpose : Purpose} {functions : List ShaderFunction}
    (h : p.record.ordinaryFunctions purpose = .ok functions) :
    functions.map (·.name) = (p.ordinaryNames purpose).map (purpose.verb ++ Identifier.capitalized ·)
      ∧ ((p.ordinaryNames purpose).map Value.text).Sublist ((placedFields p.registers).map (·.1.name)) := by
  have hall := (forall₂_of_ordinaryFunctions h).imp fun _ _ => spec_of_ordinaryFunction
  unfold ordinaryNames
  constructor
  · rw [List.map_map]
    exact (map_eq_map_of_forall₂ (hall.imp fun _ _ hspec => hspec.2.1.symm)).symm
  · have htexts : ∀ q ∈ p.ordinaryPlaces purpose, Value.text q.1.name.display = q.1.name := by
      intro q hq
      obtain ⟨f, -, hspec⟩ := exists_mem_of_forall₂ hall.flip hq
      exact hspec.1.symm
    rw [List.map_map, List.map_congr_left (g := fun q => q.1.name) htexts]
    unfold ordinaryPlaces
    split
    · exact List.filter_sublist.map _
    · exact List.nil_sublist _

/-- The functions of a type without a problem for a purpose are those of its ordinary fields and those of its
layouts. -/
theorem IsAccepted.exists_functions (h : IsAccepted registry settings owner true t r r' p) (hr : r.IsMade)
    (purpose : Purpose) :
    ∃ ordinary packed, p.record.Writes p.fragments purpose ordinary packed
      ∧ ordinary.map (·.name) = (p.ordinaryNames purpose).map (purpose.verb ++ Identifier.capitalized ·)
      ∧ packed.map (·.name) = p.layouts.map (purpose.verb ++ ·.label.display)
      ∧ ((p.ordinaryNames purpose).map Value.text).Sublist (t.members.map (·.name)) := by
  obtain ⟨ordinary, packed, hwrites⟩ := (h.isWritten hr).functions purpose
  obtain ⟨hordinary, hfields⟩ := names_of_ordinaryFunctions hwrites.ordinary_eq
  have hpacked : packed.map (·.name) = p.layouts.map (purpose.verb ++ ·.label.display) :=
    (map_eq_map_of_forall₂ (hwrites.arePacked.imp fun _ _ hl => (spec_of_packedFunction hl).1.symm)).symm
  have hplaced : (placedFields p.registers).map (·.1.name) = p.extracted.fields.map (·.name) := by
    rw [← h.grouping.1.map_fst_placedFields, List.map_map]
    rfl
  have hextracted := sublist_names_of_extract h.extract_eq h.errors_eq_nil
  exact ⟨ordinary, packed, hwrites, hordinary, hpacked, hfields.trans (hplaced ▸ hextracted)⟩

/-- The functions of a type without a problem for a purpose are those of its ordinary fields and those of its
layouts. If its members have different names and its layouts different labels then the names of the functions
differ exactly if no two of the fields and no field and a label come together when the first letters of the
names of fields are made capital. -/
theorem functionNames_nodup_iff (h : (build registry settings owner true t).run r = .ok (p, r'))
    (hfine : p.isFine = true) (hr : r.IsMade) (hmembers : (t.members.map (·.name)).Nodup)
    (hlabels : (p.layouts.map (·.label.display)).Nodup) (purpose : Purpose) :
    ∃ ordinary packed, p.record.Writes p.fragments purpose ordinary packed
      ∧ ordinary.map (·.name) = (p.ordinaryNames purpose).map (purpose.verb ++ Identifier.capitalized ·)
      ∧ packed.map (·.name) = p.layouts.map (purpose.verb ++ ·.label.display)
      ∧ (((ordinary ++ packed).map (·.name)).Nodup
        ↔ (∀ a ∈ p.ordinaryNames purpose, ∀ b ∈ p.ordinaryNames purpose,
            Identifier.capitalized a = Identifier.capitalized b → a = b)
          ∧ ∀ a ∈ p.ordinaryNames purpose, ∀ l ∈ p.layouts, Identifier.capitalized a ≠ l.label.display) := by
  obtain ⟨ordinary, packed, hwrites, hordinary, hpacked, hnames⟩ :=
    (isAccepted_of_run_build h hfine).exists_functions hr purpose
  refine ⟨ordinary, packed, hwrites, hordinary, hpacked, ?_⟩
  have hiff := nodup_prefixed_iff ((hmembers.sublist hnames).of_map _) hlabels Identifier.capitalized purpose.verb
  rw [List.map_map] at hiff
  rw [List.map_append, hordinary, hpacked]
  simpa [Function.comp_def] using hiff

end Fine

/-- Two numbers, and some bits of a word under a label. -/
def labelledTriple (first second label : String) : TypeDef where
  name := "Probe"
  fullName := "Probe"
  members := [{ name := first, type := "float" }, { name := second, type := "float" },
    { name := "flags", type := "uint",
      packing := [{ scheme := "PackedUint", width := some 8, labels := [label] }] }]

/-- The names of two numbers and the label of some bits: all apart, or two of them close to each other. -/
def triples : List (String × String × String) :=
  [("color", "weight", "Low"), ("color", "Color", "Low"), ("color", "weight", "Color")]

theorem build_labelledTriple : ∀ names ∈ triples,
    (fun q => (q.1.isFine, q.1.ordinaryNames .read, q.1.layouts.map (·.label.display)))
        <$> (build ⟨[], []⟩ plainSettings 0 true (labelledTriple names.1 names.2.1 names.2.2)).run {}
      = .ok (true, [names.1, names.2.1], [names.2.2]) := by
  decide +kernel

/-- The functions that read two numbers and some bits. -/
theorem exists_functions_of_labelledTriple (first second label : String) (h : (first, second, label) ∈ triples)
    (hdiffer : ((labelledTriple first second label).members.map (·.name)).Nodup) :
    ∃ p s' ordinary packed,
      (build ⟨[], []⟩ plainSettings 0 true (labelledTriple first second label)).run {} = .ok (p, s')
      ∧ p.isFine = true ∧ ((labelledTriple first second label).members.map (·.name)).Nodup
      ∧ p.ordinaryNames .read = [first, second] ∧ p.layouts.map (·.label.display) = [label]
      ∧ p.record.Writes p.fragments .read ordinary packed
      ∧ (ordinary ++ packed).map (·.name)
        = ["Get" ++ Identifier.capitalized first, "Get" ++ Identifier.capitalized second, "Get" ++ label] := by
  obtain ⟨⟨p, s'⟩, hbuild, hgiven⟩ := exists_of_map_eq_ok (build_labelledTriple _ h)
  obtain ⟨hfine, hnames⟩ := Prod.mk.inj hgiven
  obtain ⟨hnames, hlabels⟩ := Prod.mk.inj hnames
  obtain ⟨ordinary, packed, hwrites, hordinary, hpacked, -⟩ :=
    (isAccepted_of_run_build hbuild hfine).exists_functions Resolver.isMade_empty .read
  refine ⟨p, s', ordinary, packed, hbuild, hfine, hdiffer, hnames, hlabels, hwrites, ?_⟩
  have hlabelled : packed.map (·.name) = ["Get" ++ label] := by
    rw [hpacked, show ["Get" ++ label] = [label].map ("Get" ++ ·) from rfl, ← hlabels, List.map_map]
    rfl
  rw [List.map_append, hordinary, hnames, hlabelled]
  rfl

/-- Functions of a colour, a weight and some low bits have different names. -/
theorem functionNames_nodup_of_color_weight_low :
    ∃ p s', (build ⟨[], []⟩ plainSettings 0 true (labelledTriple "color" "weight" "Low")).run {} = .ok (p, s')
      ∧ p.isFine = true ∧ p.ordinaryNames .read = ["color", "weight"] ∧ p.layouts.map (·.label.display) = ["Low"]
      ∧ ∃ ordinary packed, p.record.Writes p.fragments .read ordinary packed
        ∧ ((ordinary ++ packed).map (·.name)).Nodup := by
  obtain ⟨p, s', -, -, hbuild, hfine, hdiffer, hnames, hlabels, -⟩ :=
    exists_functions_of_labelledTriple "color" "weight" "Low" (by decide) (by simp [labelledTriple])
  obtain ⟨ordinary, packed, hwrites, -, -, hiff⟩ :=
    functionNames_nodup_iff hbuild hfine Resolver.isMade_empty hdiffer (by simp [hlabels]) .read
  refine ⟨p, s', hbuild, hfine, hnames, hlabels, ordinary, packed, hwrites, hiff.mpr ⟨?_, fun a ha l hl => ?_⟩⟩
  · rw [hnames]
    decide
  · have hlabel : l.label.display ∈ ["Low"] := hlabels ▸ List.mem_map.mpr ⟨l, hl, rfl⟩
    rw [List.mem_singleton.mp hlabel]
    revert a
    rw [hnames]
    decide

/-- Two members whose names differ in the case of the first letter only get functions of one name, and so do a
member and a value that is labelled as the member's name with a capital letter. -/
theorem functionNames_meet_of_first_letters :
    (∃ p s' ordinary packed,
      (build ⟨[], []⟩ plainSettings 0 true (labelledTriple "color" "Color" "Low")).run {} = .ok (p, s')
      ∧ p.isFine = true ∧ ((labelledTriple "color" "Color" "Low").members.map (·.name)).Nodup
      ∧ p.layouts.map (·.label.display) = ["Low"] ∧ p.record.Writes p.fragments .read ordinary packed
      ∧ (ordinary ++ packed).map (·.name) = ["GetColor", "GetColor", "GetLow"])
    ∧ ∃ p s' ordinary packed,
      (build ⟨[], []⟩ plainSettings 0 true (labelledTriple "color" "weight" "Color")).run {} = .ok (p, s')
      ∧ p.isFine = true ∧ ((labelledTriple "color" "weight" "Color").members.map (·.name)).Nodup
      ∧ p.layouts.map (·.label.display) = ["Color"] ∧ p.record.Writes p.fragments .read ordinary packed
      ∧ (ordinary ++ packed).map (·.name) = ["GetColor", "GetWeight", "GetColor"] := by
  constructor
  · obtain ⟨p, s', ordinary, packed, hbuild, hfine, hdiffer, -, hlabels, hwrites, hnames⟩ :=
      exists_functions_of_labelledTriple "color" "Color" "Low" (by decide) (by simp [labelledTriple])
    exact ⟨p, s', ordinary, packed, hbuild, hfine, hdiffer, hlabels, hwrites, hnames.trans (by decide)⟩
  · obtain ⟨p, s', ordinary, packed, hbuild, hfine, hdiffer, -, hlabels, hwrites, hnames⟩ :=
      exists_functions_of_labelledTriple "color" "weight" "Color" (by decide) (by simp [labelledTriple])
    exact ⟨p, s', ordinary, packed, hbuild, hfine, hdiffer, hlabels, hwrites, hnames.trans (by decide)⟩

end TypeProduct

end ShaderRecords
