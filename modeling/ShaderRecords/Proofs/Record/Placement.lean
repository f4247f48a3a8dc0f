/-
ShaderRecords.Proofs.Record.Placement — where the fields of a record lie, and that no two overlap.

`locatedFields` adds to the fields and accessors of a record (`placedFields`) the position of the register
that each field lies in. A field that shares its register takes the components from `Accessor.offset` on, as
many as it has; a field with a register of its own takes all of it.

* `LocatedField.WellPlaced` — an accessor names the components of its field, all of them and in its
  register.
* `LocatedField.Apart` — two fields lie in different registers or in different components of one.

All facts are about a `Grouping` and so hold for both rules of packing. A register's fields are taken by
their index: the field at index `k` starts where the first `k` fields end (`getElem?_placedFields`).
-/
import ShaderRecords.Proofs.Record.Packing

namespace ShaderRecords

/-! ## Definitions -/

/-- A field with the position of its register in the record and its place in that register. -/
structure LocatedField where
  position : Nat
  field : Field
  accessor : Accessor

/-- The fields of a record in their order, with the positions of their registers. -/
def locatedFields (registers : List Register) : List LocatedField :=
  registers.zipIdx.flatMap fun (r, i) => r.placedFields.map fun (f, a) => ⟨i, f, a⟩

/-- The component that a letter stands for. -/
def componentIndex (c : Char) : Nat :=
  componentLetters.idxOf c

/-- The components that an accessor names by letters. -/
def Accessor.selection (a : Accessor) : List Nat :=
  a.letters.map componentIndex

namespace LocatedField

/-- Whether a field that shares its register takes a component of it. -/
def Covers (p : LocatedField) (component : Int) : Prop :=
  p.accessor.offset ≤ component ∧ component < p.accessor.offset + p.accessor.components

/-- Whether two fields lie in different registers or in different components of one. -/
def Apart (p q : LocatedField) : Prop :=
  p.position ≠ q.position ∨ ∀ component, ¬(p.Covers component ∧ q.Covers component)

/-- Whether the accessor of a field fits the register that the field lies in. In a shared register it has
one letter for each component of the field, each the letter of a row of the register, and no element is
chosen; in a register of its own it has no letters. -/
structure WellPlaced (p : LocatedField) (r : Register) : Prop where
  register : p.accessor.register = r.name
  letters : r.isMerged = true → (p.accessor.letters.length : Int) = p.field.components
  swizzle : p.accessor.swizzle =
    if r.isMerged then String.ofList ('.' :: p.accessor.letters) else ""
  inside : r.isMerged = true → ∀ c ∈ p.accessor.letters, (componentIndex c : Int) < r.rows.toInt
  noArray : r.isMerged = true → p.accessor.arraySize.toInt = 0

end LocatedField

theorem LocatedField.Apart.symm {p q : LocatedField} (h : p.Apart q) : q.Apart p := by
  rcases h with h | h
  · exact Or.inl (Ne.symm h)
  · exact Or.inr fun x hx => h x ⟨hx.2, hx.1⟩

/-! ## The rows of a group -/

theorem rowSum_take_succ {group : List Field} {k : Nat} {f : Field} (h : group[k]? = some f) :
    rowSum (group.take (k + 1)) = rowSum (group.take k) + f.rows.toInt := by
  rw [List.take_add_one, h, rowSum_append]
  simp

/-- The fields up to an index have no more rows than those up to a later one. -/
theorem rowSum_take_le {group : List Field} (h : ∀ f ∈ group, f.Sized) {i j : Nat} (hij : i ≤ j) :
    rowSum (group.take i) ≤ rowSum (group.take j) := by
  induction j, hij using Nat.le_induction with
  | base => exact Int.le_refl _
  | succ j _ ih =>
    cases hj : group[j]? with
    | none =>
      have hlen := List.getElem?_eq_none_iff.mp hj
      rw [List.take_of_length_le hlen] at ih
      rwa [List.take_of_length_le (Nat.le_succ_of_le hlen)]
    | some f =>
      have hrows := (h f (List.mem_of_getElem? hj)).one_le_rows
      rw [rowSum_take_succ hj]
      omega

/-- Every row of a group is a row of one of its fields. -/
theorem exists_field_of_row {group : List Field} {x : Int} (h0 : 0 ≤ x) (h : x < rowSum group) :
    ∃ k f, group[k]? = some f ∧ rowSum (group.take k) ≤ x
      ∧ x < rowSum (group.take k) + f.rows.toInt := by
  induction group generalizing x with
  | nil =>
    rw [rowSum_nil] at h
    omega
  | cons f group ih =>
    rw [rowSum_cons] at h
    by_cases hx : x < f.rows.toInt
    · exact ⟨0, f, rfl, by simpa using h0, by simpa using hx⟩
    · obtain ⟨k, g, hk, hle, hlt⟩ := ih (x := x - f.rows.toInt) (by omega) (by omega)
      refine ⟨k + 1, g, hk, ?_, ?_⟩
      · rw [List.take_succ_cons, rowSum_cons]
        omega
      · rw [List.take_succ_cons, rowSum_cons]
        omega

/-! ## The letters of a run of components -/

theorem Accessor.selection_eq {a : Accessor} (hs : a.shares = true) {o n : Nat} (ho : a.offset = o)
    (hn : a.components = n) (h : o + n ≤ 4) : a.selection = List.range' o n := by
  have hslice : a.letters = (componentLetters.take (o + n)).drop o := by
    have hlen : componentLetters.length = 4 := rfl
    simp only [letters, hs, if_true, slice, slicePlace, ho, hn, hlen]
    rw [if_neg (by omega), if_neg (by omega), Int.toNat_natCast, Int.toNat_add (by omega) (by omega)]
    simp only [Int.toNat_natCast]
    rw [Nat.min_eq_left (by omega), Nat.min_eq_left (by omega)]
  have htable : ∀ o < 5, ∀ n < 5, o + n ≤ 4 →
      ((componentLetters.take (o + n)).drop o).map componentIndex = List.range' o n := by decide
  rw [selection, hslice]
  exact htable o (by omega) n (by omega) h

/-! ## The fields of one register -/

namespace Register

variable {r : Register}

theorem Formed.toInt_rows (h : r.Formed) : r.rows.toInt = rowSum r.members := by
  obtain ⟨name, f, fs, -, rfl, -⟩ := h.exists_eq_ofGroup
  exact toInt_rows_ofGroup name f fs

/-- The field at an index starts where the fields before it end. -/
theorem Formed.getElem?_placedFields (h : r.Formed) (k : Nat) :
    r.placedFields[k]? =
      r.members[k]?.map fun f => (f, r.accessor f (rowSum (r.members.take k))) := by
  obtain ⟨name, f, fs, -, rfl, -⟩ := h.exists_eq_ofGroup
  have hoffsets : (ofGroup name f fs).offsets = groupOffsets (ofGroup name f fs).members := rfl
  rw [placedFields, accessors, hoffsets, List.zip, List.getElem?_zipWith, List.getElem?_zipWith]
  cases hk : (ofGroup name f fs).members[k]? with
  | none => rfl
  | some g =>
    obtain ⟨hlt, -⟩ := List.getElem?_eq_some_iff.mp hk
    rw [getElem?_groupOffsets hlt]
    rfl

theorem Formed.mem_placedFields_iff (h : r.Formed) {f : Field} {a : Accessor} :
    (f, a) ∈ r.placedFields ↔
      ∃ k, r.members[k]? = some f ∧ a = r.accessor f (rowSum (r.members.take k)) := by
  rw [List.mem_iff_getElem?]
  refine exists_congr fun k => ?_
  rw [h.getElem?_placedFields, Option.map_eq_some_iff]
  constructor
  · rintro ⟨g, hk, heq⟩
    obtain ⟨rfl, rfl⟩ := Prod.mk.inj heq
    exact ⟨hk, rfl⟩
  · rintro ⟨hk, rfl⟩
    exact ⟨f, hk, rfl⟩

theorem Formed.map_fst_placedFields (h : r.Formed) : r.placedFields.map (·.1) = r.members := by
  refine List.ext_getElem? fun k => ?_
  rw [List.getElem?_map, h.getElem?_placedFields]
  cases r.members[k]? <;> rfl

/-- The fields of a register lie in it one behind the other. -/
theorem Formed.pairwise_placedFields (h : r.Formed) (hsized : ∀ f ∈ r.members, f.Sized) :
    r.placedFields.Pairwise fun x y =>
      r.isMerged = true ∧ x.2.offset + x.2.components ≤ y.2.offset := by
  rw [List.pairwise_iff_getElem]
  intro i j hi hj hij
  obtain ⟨f, hf, hx⟩ := Option.map_eq_some_iff.mp
    ((h.getElem?_placedFields i).symm.trans (List.getElem?_eq_getElem hi))
  obtain ⟨g, hg, hy⟩ := Option.map_eq_some_iff.mp
    ((h.getElem?_placedFields j).symm.trans (List.getElem?_eq_getElem hj))
  rw [← hx, ← hy]
  have hmerged : r.isMerged = true := by
    obtain ⟨hlt, -⟩ := List.getElem?_eq_some_iff.mp hg
    simp only [isMerged, decide_eq_true_eq]
    omega
  have hcols := (h.shared hmerged).oneColumn f (List.mem_of_getElem? hf)
  have hle := rowSum_take_le hsized (Nat.succ_le_of_lt hij)
  rw [Nat.succ_eq_add_one, rowSum_take_succ hf] at hle
  refine ⟨hmerged, ?_⟩
  simpa [accessor, Field.components, hcols] using hle

/-- The accessor of a field in a shared register names a run of components inside the register. -/
theorem Formed.selection_of_isMerged (h : r.Formed) (hsized : ∀ f ∈ r.members, f.Sized)
    (hmerged : r.isMerged = true) {k : Nat} {f : Field} (hk : r.members[k]? = some f) :
    ∃ o n : Nat, rowSum (r.members.take k) = o ∧ f.components = n ∧ (o + n : Int) ≤ r.rows.toInt
      ∧ (r.accessor f (rowSum (r.members.take k))).selection = List.range' o n := by
  have hshare := h.shared hmerged
  have hf := hsized f (List.mem_of_getElem? hk)
  have hstart := rowSum_take_le hsized (Nat.zero_le k)
  have hend := rowSum_take_le hsized (Nat.succ_le_of_lt (List.getElem?_eq_some_iff.mp hk).1)
  have hrows := hshare.rows_le
  have hone := hf.one_le_rows
  rw [Nat.succ_eq_add_one, rowSum_take_succ hk, List.take_length] at hend
  rw [List.take_zero, rowSum_nil] at hstart
  have hcomponents : f.components = f.rows.toInt := by
    rw [Field.components, hshare.oneColumn f (List.mem_of_getElem? hk), Int.mul_one]
  simp only [registerWidth] at hrows
  refine ⟨(rowSum (r.members.take k)).toNat, f.rows.toInt.toNat, by omega, by omega, ?_, ?_⟩
  · rw [h.toInt_rows]
    omega
  · refine Accessor.selection_eq hmerged ?_ ?_ (by omega)
    · exact (Int.toNat_of_nonneg hstart).symm
    · exact hcomponents.trans (Int.toNat_of_nonneg (by omega)).symm

end Register

/-! ## The fields of a record -/

theorem mem_locatedFields_iff {registers : List Register} {p : LocatedField} :
    p ∈ locatedFields registers ↔
      ∃ r, registers[p.position]? = some r ∧ (p.field, p.accessor) ∈ r.placedFields := by
  obtain ⟨i, f, a⟩ := p
  simp only [locatedFields, List.mem_flatMap, Prod.exists, List.mem_map, List.mem_zipIdx_iff_getElem?,
    LocatedField.mk.injEq]
  constructor
  · rintro ⟨r, j, hr, g, b, hmem, rfl, rfl, rfl⟩
    exact ⟨r, hr, hmem⟩
  · rintro ⟨r, hr, hmem⟩
    exact ⟨r, i, hr, f, a, hmem, rfl, rfl, rfl⟩

theorem map_locatedFields (registers : List Register) :
    (locatedFields registers).map (fun p => (p.field, p.accessor)) = placedFields registers := by
  calc (locatedFields registers).map (fun p => (p.field, p.accessor))
      = registers.zipIdx.flatMap (fun x => x.1.placedFields) := by
        simp [locatedFields, List.map_flatMap, Function.comp_def]
    _ = (registers.zipIdx.map Prod.fst).flatMap (·.placedFields) := by rw [List.flatMap_map]
    _ = placedFields registers := by rw [List.zipIdx_map_fst, placedFields]

namespace Grouping

variable {fields : List Field} {registers : List Register} {p : LocatedField}

theorem map_field_locatedFields (h : Grouping fields registers) :
    (locatedFields registers).map (·.field) = fields := by
  have hfields : (locatedFields registers).map (·.field)
      = ((locatedFields registers).map fun p => (p.field, p.accessor)).map (·.1) := by
    rw [List.map_map]
    rfl
  rw [hfields, map_locatedFields, placedFields, List.map_flatMap, ← h.members]
  exact List.flatMap_congr fun r hr => (h.formed r hr).map_fst_placedFields

/-- Every field lies at an index of a formed register. -/
theorem exists_index (h : Grouping fields registers) (hp : p ∈ locatedFields registers) :
    ∃ r k, registers[p.position]? = some r ∧ r.Formed ∧ r.members[k]? = some p.field
      ∧ p.accessor = r.accessor p.field (rowSum (r.members.take k)) := by
  obtain ⟨r, hr, hmem⟩ := mem_locatedFields_iff.mp hp
  have hformed := h.formed r (List.mem_of_getElem? hr)
  obtain ⟨k, hk, ha⟩ := hformed.mem_placedFields_iff.mp hmem
  exact ⟨r, k, hr, hformed, hk, ha⟩

theorem sized_members (h : Grouping fields registers) (hsized : ∀ f ∈ fields, f.Sized) {r : Register}
    (hr : r ∈ registers) : ∀ f ∈ r.members, f.Sized := by
  intro f hf
  refine hsized f ?_
  rw [← h.members]
  exact List.mem_flatMap.mpr ⟨r, hr, hf⟩

theorem wellPlaced (h : Grouping fields registers) (hsized : ∀ f ∈ fields, f.Sized)
    (hp : p ∈ locatedFields registers) {r : Register} (hr : registers[p.position]? = some r) :
    p.WellPlaced r := by
  obtain ⟨r', k, hr', hformed, hk, ha⟩ := h.exists_index hp
  obtain rfl : r' = r := Option.some.inj (hr'.symm.trans hr)
  have hmembers := h.sized_members hsized (List.mem_of_getElem? hr)
  refine ⟨by rw [ha]; rfl, fun hmerged => ?_, by rw [ha]; rfl, fun hmerged c hc => ?_, fun hmerged => ?_⟩
  · obtain ⟨o, n, -, hn, -, hsel⟩ := hformed.selection_of_isMerged hmembers hmerged hk
    have hlen := congrArg List.length hsel
    rw [Accessor.selection, List.length_map, List.length_range', ← ha] at hlen
    rw [hlen, hn]
  · obtain ⟨o, n, -, -, hle, hsel⟩ := hformed.selection_of_isMerged hmembers hmerged hk
    have hmem : componentIndex c ∈ p.accessor.selection := List.mem_map.mpr ⟨c, hc, rfl⟩
    rw [ha, hsel, List.mem_range'_1] at hmem
    omega
  · rw [ha]
    exact Field.arraySize_of_isShareable ((hformed.shared hmerged).shareable _ (List.mem_of_getElem? hk))

theorem pairwise_apart (h : Grouping fields registers) (hsized : ∀ f ∈ fields, f.Sized) :
    (locatedFields registers).Pairwise LocatedField.Apart := by
  rw [locatedFields, List.pairwise_flatMap]
  constructor
  · rintro ⟨r, i⟩ hri
    have hr : r ∈ registers := List.mem_of_getElem? (List.mem_zipIdx_iff_getElem?.mp hri)
    rw [List.pairwise_map]
    refine ((h.formed r hr).pairwise_placedFields (h.sized_members hsized hr)).imp ?_
    rintro ⟨f, a⟩ ⟨g, b⟩ ⟨-, hle⟩
    refine Or.inr fun x hx => ?_
    obtain ⟨⟨-, hx⟩, ⟨hx', -⟩⟩ := hx
    exact absurd (Int.lt_of_lt_of_le hx (Int.le_trans hle hx')) (Int.lt_irrefl x)
  · rw [List.pairwise_iff_getElem]
    intro i j hi hj hij p hp q hq
    simp only [List.getElem_zipIdx, List.mem_map, Prod.exists] at hp hq
    obtain ⟨f, a, -, rfl⟩ := hp
    obtain ⟨g, b, -, rfl⟩ := hq
    refine Or.inl ?_
    show 0 + i ≠ 0 + j
    omega

/-- Fields at different places of the list are apart. -/
theorem apart_of_ne (h : Grouping fields registers) (hsized : ∀ f ∈ fields, f.Sized) {k l : Nat}
    {q : LocatedField} (hp : (locatedFields registers)[k]? = some p)
    (hq : (locatedFields registers)[l]? = some q) (hne : l ≠ k) : p.Apart q := by
  have hpairwise := List.pairwise_iff_getElem.mp (h.pairwise_apart hsized)
  obtain ⟨hk, rfl⟩ := List.getElem?_eq_some_iff.mp hp
  obtain ⟨hl, rfl⟩ := List.getElem?_eq_some_iff.mp hq
  rcases Nat.lt_or_gt_of_ne hne with hlt | hgt
  · exact (hpairwise l k hl hk hlt).symm
  · exact hpairwise k l hk hl hgt

/-- The fields of a shared register take all of its components. -/
theorem exists_covers_iff (h : Grouping fields registers) (hsized : ∀ f ∈ fields, f.Sized) {i : Nat}
    {r : Register} (hr : registers[i]? = some r) (hmerged : r.isMerged = true) (x : Int) :
    (∃ p ∈ locatedFields registers, p.position = i ∧ p.Covers x) ↔ 0 ≤ x ∧ x < r.rows.toInt := by
  have hformed := h.formed r (List.mem_of_getElem? hr)
  have hmembers := h.sized_members hsized (List.mem_of_getElem? hr)
  constructor
  · rintro ⟨p, hp, rfl, hle, hlt⟩
    obtain ⟨r', k, hr', -, hk, ha⟩ := h.exists_index hp
    obtain rfl : r' = r := Option.some.inj (hr'.symm.trans hr)
    obtain ⟨o, n, ho, hn, hend, -⟩ := hformed.selection_of_isMerged hmembers hmerged hk
    have ho' : p.accessor.offset = o := by rw [ha]; exact ho
    have hn' : p.accessor.components = n := by rw [ha]; exact hn
    omega
  · rintro ⟨h0, hlt⟩
    rw [hformed.toInt_rows] at hlt
    obtain ⟨k, f, hk, hle, hlt⟩ := exists_field_of_row h0 hlt
    refine ⟨⟨i, f, r.accessor f (rowSum (r.members.take k))⟩, ?_, rfl, hle, ?_⟩
    · exact mem_locatedFields_iff.mpr ⟨r, hr, hformed.mem_placedFields_iff.mpr ⟨k, hk, rfl⟩⟩
    · have hcols := (hformed.shared hmerged).oneColumn f (List.mem_of_getElem? hk)
      simpa [Register.accessor, Field.components, hcols] using hlt

end Grouping

end ShaderRecords
