/-
ShaderRecords.Proofs.Record.Names — which registers of a record may have the same name.

A register of one field has the name of the field, a shared one the names of its fields joined by underscores
(`Register.Named`). Fields of different names may so give registers of one name: `a` and `b` share a register
`a_b`, and another field is called `a_b`. Then an accessor names a register that does not hold its field. The
main statement says when that is impossible: registers have different names exactly if every accessor denotes
the register of its field, and they have if each field keeps a register of its own, or if no name of a field
has an underscore in it. In every case two registers of one name are not both of one field.
-/
import Mathlib.Data.List.Nodup
import ShaderRecords.Proofs.Record.Placement

namespace ShaderRecords

/-! ## Joined names -/

/-- Texts without underscores are found again in what they are joined to. -/
theorem splitOn_intercalate_underscore {names : List String} (h : ∀ s ∈ names, '_' ∉ s.toList)
    (hne : names ≠ []) : ("_".intercalate names).toList.splitOn '_' = names.map String.toList := by
  rw [String.toList_intercalate]
  exact List.splitOn_intercalate '_' (by simpa using h) (by simpa using hne)

/-- Texts without underscores that are joined to the same text are the same. -/
theorem intercalate_underscore_inj {names others : List String} (hnames : ∀ s ∈ names, '_' ∉ s.toList)
    (hothers : ∀ s ∈ others, '_' ∉ s.toList) (hne : names ≠ []) (hne' : others ≠ [])
    (h : "_".intercalate names = "_".intercalate others) : names = others := by
  have hlists : names.map String.toList = others.map String.toList := by
    rw [← splitOn_intercalate_underscore hnames hne, h, splitOn_intercalate_underscore hothers hne']
  exact List.map_injective_iff.mpr (fun _ _ heq => String.toList_injective heq) hlists

theorem map_name_of_groupTexts? {group : List Field} {names : List String}
    (h : groupTexts? group = some names) : group.map (·.name) = names.map Value.text := by
  induction group generalizing names with
  | nil =>
    obtain rfl := Option.some.inj h
    rfl
  | cons f group ih =>
    rw [groupTexts?_cons, Option.bind_eq_some_iff] at h
    obtain ⟨name, hname, h⟩ := h
    obtain ⟨rest, hrest, rfl⟩ := Option.map_eq_some_iff.mp h
    have hf : f.name = .text name := by
      cases hv : f.name with
      | text s =>
        rw [hv] at hname
        exact congrArg Value.text (Option.some.inj hname)
      | null | bool _ | int _ | float _ | list _ | map _ =>
        rw [hv] at hname
        simp [Value.text?] at hname
    rw [List.map_cons, List.map_cons, hf, ih hrest]

/-! ## Names of registers -/

namespace Register

/-- A register with the name of its fields, each of which starts somewhere in it. -/
structure Named (r : Register) : Prop where
  members_ne_nil : r.members ≠ []
  groupName_eq : groupName? r.members = some r.name
  length_offsets : r.offsets.length = r.members.length

variable {r r' : Register} {f : Field}

theorem named_ofField (f : Field) : (ofField f).Named where
  members_ne_nil := by simp [ofField]
  groupName_eq := rfl
  length_offsets := rfl

/-- A field that joins a register adds its name. -/
theorem Named.merge (h : r.Named) (hmerge : r.merge f = .ok r') : r'.Named := by
  obtain ⟨-, -, name, hname, rfl⟩ := merge_eq_ok_iff.mp hmerge
  refine ⟨by simp, ?_, by simp [h.length_offsets]⟩
  exact (groupName?_append_singleton h.members_ne_nil h.groupName_eq f name).mpr hname

/-- A register that is not shared has the name of its field. -/
theorem Named.exists_field (h : r.Named) (hsingle : r.isMerged = false) :
    ∃ f, r.members = [f] ∧ r.name = f.name := by
  obtain ⟨hne, hname, -⟩ := h
  match hmembers : r.members with
  | [] => exact absurd hmembers hne
  | [f] =>
    rw [hmembers] at hname
    exact ⟨f, rfl, (Option.some.inj hname).symm⟩
  | f :: g :: rest => simp [isMerged, hmembers] at hsingle

/-- The name of a register, if it is a text, joins the names of its fields. -/
theorem Named.exists_texts (h : r.Named) {s : String} (hs : r.name = .text s) :
    ∃ names, names ≠ [] ∧ r.members.map (·.name) = names.map Value.text ∧ s = "_".intercalate names := by
  have htext := text?_groupName h.members_ne_nil h.groupName_eq
  rw [hs] at htext
  obtain ⟨names, hnames, rfl⟩ := Option.map_eq_some_iff.mp htext.symm
  exact ⟨names, ne_nil_of_groupTexts? h.members_ne_nil hnames, map_name_of_groupTexts? hnames, rfl⟩

theorem Named.isMerged_eq_false (h : r.Named) (hname : ∀ s, r.name ≠ .text s) : r.isMerged = false := by
  obtain ⟨hne, hgroup, -⟩ := h
  match hmembers : r.members with
  | [] => exact absurd hmembers hne
  | [f] => simp [isMerged, hmembers]
  | f :: g :: rest =>
    rw [hmembers] at hgroup
    obtain ⟨names, -, hjoined⟩ := Option.map_eq_some_iff.mp hgroup
    exact absurd hjoined.symm (hname _)

/-- Registers of one field each have different names if their fields have. -/
theorem Named.name_ne_of_single (h : r.Named) (h' : r'.Named) (hsingle : r.isMerged = false)
    (hsingle' : r'.isMerged = false)
    (hdisjoint : (r.members.map (·.name)).Disjoint (r'.members.map (·.name))) : r.name ≠ r'.name := by
  obtain ⟨f, hf, hname⟩ := h.exists_field hsingle
  obtain ⟨f', hf', hname'⟩ := h'.exists_field hsingle'
  intro heq
  refine hdisjoint (a := f.name) (by simp [hf]) ?_
  rw [← hname, heq, hname', hf']
  simp

end Register

/-- Whether the name of a field, if it is a text, has no underscore in it. -/
def Field.HasPlainName (f : Field) : Prop :=
  ∀ s, f.name = .text s → '_' ∉ s.toList

/-- Registers whose fields have different names, all of them without underscores, have different names. -/
theorem Register.Named.name_ne_of_plain {r r' : Register} (h : r.Named) (h' : r'.Named)
    (hplain : ∀ f ∈ r.members, f.HasPlainName) (hplain' : ∀ f ∈ r'.members, f.HasPlainName)
    (hdisjoint : (r.members.map (·.name)).Disjoint (r'.members.map (·.name))) : r.name ≠ r'.name := by
  intro heq
  have hunderscore : ∀ {group : List Field} {names : List String}, (∀ f ∈ group, f.HasPlainName) →
      group.map (·.name) = names.map Value.text → ∀ s ∈ names, '_' ∉ s.toList := by
    intro group names hgroup hnames s hs
    have hmem : Value.text s ∈ group.map (·.name) := hnames ▸ List.mem_map_of_mem hs
    obtain ⟨f, hf, hname⟩ := List.mem_map.mp hmem
    exact hgroup f hf s hname
  by_cases htext : ∃ s, r.name = .text s
  · obtain ⟨s, hs⟩ := htext
    obtain ⟨names, hne, hnames, hjoined⟩ := h.exists_texts hs
    obtain ⟨others, hne', hothers, hjoined'⟩ := h'.exists_texts (heq ▸ hs)
    obtain rfl := intercalate_underscore_inj (hunderscore hplain hnames) (hunderscore hplain' hothers) hne hne'
      (hjoined.symm.trans hjoined')
    obtain ⟨name, rest, rfl⟩ := List.exists_cons_of_ne_nil hne
    exact hdisjoint (a := .text name) (by simp [hnames]) (by simp [hothers])
  · rw [not_exists] at htext
    have htext' : ∀ s, r'.name ≠ .text s := fun s hs => htext s (heq.trans hs)
    exact h.name_ne_of_single h' (h.isMerged_eq_false htext) (h'.isMerged_eq_false htext') hdisjoint heq

/-! ## Names after packing -/

/-- Both rules of packing name registers after their fields, and keep the fields in their order. -/
theorem named_of_pack {rules : PackingRules} {fields : List Field} {registers : List Register}
    (h : pack rules fields = .ok registers) :
    (∀ r ∈ registers, r.Named) ∧ registers.flatMap (·.members) = fields := by
  refine ⟨?_, flatMap_members_of_pack h⟩
  exact forall_mem_of_pack (fun f _ => Register.named_ofField f) (fun r r' f _ hr hmerge => hr.merge hmerge) h

/-- Registers of fields of different names have no name of a field in common. -/
theorem pairwise_disjoint_names {registers : List Register}
    (h : ((registers.flatMap (·.members)).map (·.name)).Nodup) :
    registers.Pairwise fun r r' => (r.members.map (·.name)).Disjoint (r'.members.map (·.name)) := by
  rw [List.map_flatMap, List.nodup_flatMap] at h
  exact h.2

/-! ## What accessors denote -/

/-- Whether the name that an accessor gives is that of no register but the one that holds the field. -/
def LocatedField.Denotes (registers : List Register) (p : LocatedField) : Prop :=
  ∀ (i : Nat) r, registers[i]? = some r → r.name = p.accessor.register → i = p.position

theorem register_of_mem_placedFields {r : Register} {f : Field} {a : Accessor}
    (h : (f, a) ∈ r.placedFields) : a.register = r.name := by
  have ha := (List.of_mem_zip h).2
  rw [Register.accessors, ← List.map_uncurry_zip_eq_zipWith] at ha
  obtain ⟨_, -, rfl⟩ := List.mem_map.mp ha
  rfl

/-- Every register holds a field. -/
theorem Register.Named.exists_mem_placedFields {r : Register} (h : r.Named) :
    ∃ f a, (f, a) ∈ r.placedFields := by
  obtain ⟨hne, -, hlength⟩ := h
  have hplaced : r.placedFields.length = r.members.length := by
    simp [placedFields, accessors, hlength]
  obtain ⟨⟨f, a⟩, rest, hcons⟩ : ∃ p rest, r.placedFields = p :: rest := by
    refine List.exists_cons_of_ne_nil fun hnil => hne ?_
    rw [hnil] at hplaced
    exact List.length_eq_zero_iff.mp hplaced.symm
  exact ⟨f, a, by simp [hcons]⟩

/-- Registers have different names exactly if every accessor denotes the register of its field. -/
theorem nodup_names_iff_denotes {registers : List Register} (hnamed : ∀ r ∈ registers, r.Named) :
    (registers.map (·.name)).Nodup ↔ ∀ p ∈ locatedFields registers, p.Denotes registers := by
  constructor
  · intro hnodup p hp i r hi hname
    obtain ⟨r', hr', hplaced⟩ := mem_locatedFields_iff.mp hp
    have hlt : i < (registers.map (·.name)).length := by
      rw [List.length_map]
      exact (List.getElem?_eq_some_iff.mp hi).1
    refine (List.getElem?_inj hlt hnodup).mp ?_
    rw [List.getElem?_map, List.getElem?_map, hi, hr', Option.map_some, Option.map_some, hname,
      register_of_mem_placedFields hplaced]
  · intro hdenotes
    refine List.nodup_iff_getElem?_ne_getElem?.mpr fun i j hij hj heq => ?_
    rw [List.length_map] at hj
    obtain ⟨r', hr'⟩ : ∃ r', registers[j]? = some r' := ⟨_, List.getElem?_eq_getElem hj⟩
    obtain ⟨r, hr⟩ : ∃ r, registers[i]? = some r := ⟨_, List.getElem?_eq_getElem (hij.trans hj)⟩
    obtain ⟨f, a, hplaced⟩ := (hnamed r' (List.mem_of_getElem? hr')).exists_mem_placedFields
    have hp : (⟨j, f, a⟩ : LocatedField) ∈ locatedFields registers :=
      mem_locatedFields_iff.mpr ⟨r', hr', hplaced⟩
    have hname : r.name = a.register := by
      rw [List.getElem?_map, List.getElem?_map, hr, hr'] at heq
      rw [register_of_mem_placedFields hplaced]
      exact Option.some.inj heq
    exact absurd (hdenotes _ hp i r hr hname) (Nat.ne_of_lt hij)

/-! ## The main statement -/

/-- The registers of fields of different names have different names exactly if every accessor denotes the
register that holds its field. They have if packing is exact, and if no field has an underscore in its name;
and one of two registers of the same name is always a shared one. -/
theorem register_names_nodup_iff {rules : PackingRules} {fields : List Field} {registers : List Register}
    (hdistinct : (fields.map (·.name)).Nodup) (hpack : pack rules fields = .ok registers) :
    ((registers.map (·.name)).Nodup ↔ ∀ p ∈ locatedFields registers, p.Denotes registers)
      ∧ (rules = .exact → (registers.map (·.name)).Nodup)
      ∧ ((∀ f ∈ fields, f.HasPlainName) → (registers.map (·.name)).Nodup)
      ∧ registers.Pairwise fun r r' => r.name = r'.name → r.isMerged = true ∨ r'.isMerged = true := by
  obtain ⟨hnamed, hfields⟩ := named_of_pack hpack
  have hdisjoint := pairwise_disjoint_names (hfields ▸ hdistinct)
  refine ⟨nodup_names_iff_denotes hnamed, ?_, ?_, ?_⟩
  · rintro rfl
    obtain rfl : fields.map .ofField = registers := Except.ok.inj hpack
    rw [List.map_map]
    exact hdistinct
  · intro hplain
    have hmember : ∀ r ∈ registers, ∀ f ∈ r.members, f.HasPlainName := fun r hr f hf =>
      hplain f (hfields ▸ List.mem_flatMap.mpr ⟨r, hr, hf⟩)
    refine List.pairwise_map.mpr (hdisjoint.imp_of_mem fun {r r'} hr hr' h => ?_)
    exact (hnamed r hr).name_ne_of_plain (hnamed r' hr') (hmember r hr) (hmember r' hr') h
  · refine hdisjoint.imp_of_mem fun {r r'} hr hr' h heq => ?_
    by_contra hsingle
    rw [not_or, Bool.not_eq_true, Bool.not_eq_true] at hsingle
    exact (hnamed r hr).name_ne_of_single (hnamed r' hr') hsingle.1 hsingle.2 h heq

/-- Four numbers without underscores in their names, of which the first two share a register. -/
theorem register_names_nodup_of_plain_names :
    let field (name : String) (rows : Whole) : Field := { name := name, kind := .float, rows := rows }
    let fields := [field "uv" 2, field "size" 2, field "color" 4]
    ∃ registers, pack .aggressive fields = .ok registers ∧ (fields.map (·.name)).Nodup
      ∧ registers.map (·.name) = ["uv_size", "color"] ∧ (registers.map (·.name)).Nodup
      ∧ ∀ p ∈ locatedFields registers, p.Denotes registers := by
  intro field fields
  have hdistinct : (fields.map (·.name)).Nodup := by simp [fields, field]
  have hpacked : pack .aggressive fields = .ok _ := rfl
  obtain ⟨hdenotes, -, hplain, -⟩ := register_names_nodup_iff hdistinct hpacked
  have hnodup := hplain fun f hf s hs => by
    simp only [fields, field, List.mem_cons, List.not_mem_nil, or_false] at hf
    rcases hf with rfl | rfl | rfl <;> obtain rfl := Value.text.inj hs <;> decide
  exact ⟨_, rfl, hdistinct, rfl, hnodup, hdenotes.mp hnodup⟩

/-- A field may have the name of the register that two others share, and then its accessor does not denote its
register. -/
theorem register_names_repeat_of_underscore :
    let field (name : String) (rows : Whole) : Field := { name := name, kind := .float, rows := rows }
    let fields := [field "a" 2, field "b" 2, field "a_b" 4]
    ∃ registers, (fields.map (·.name)).Nodup ∧ pack .aggressive fields = .ok registers
      ∧ registers.map (·.name) = ["a_b", "a_b"] ∧ ¬(registers.map (·.name)).Nodup
      ∧ ∃ p ∈ locatedFields registers, ¬p.Denotes registers := by
  intro field fields
  have hdistinct : (fields.map (·.name)).Nodup := by simp [fields, field]
  have hrepeat : ¬(["a_b", "a_b"] : List Value).Nodup := by simp
  refine ⟨_, hdistinct, rfl, rfl, hrepeat, ?_⟩
  refine ⟨⟨1, field "a_b" 4, _⟩, mem_locatedFields_iff.mpr ⟨_, rfl, List.mem_singleton.mpr rfl⟩, ?_⟩
  intro h
  exact absurd (h 0 _ rfl rfl) (by decide)

end ShaderRecords
