/-
ShaderRecords.Proofs.Record.Grouping — what it means that fields are put into registers.

A GROUP is a row of neighbouring fields that go into one register. This module says, without the functions
that pack, which register a group makes (`Register.ofGroup?`), which groups may share a register
(`MayShare`) and where one register may end and the next begin (`Register.ClosesBefore`). From these it
builds two properties of a list of registers:

* `Grouping fields registers` — the registers hold exactly these fields in their order, each register is
  the one that its group makes, and every group of several fields may share. Both rules of packing give
  groupings.
* `Segmentation fields registers` — a grouping that ends its registers only where aggressive packing may
  end one.

Names and record types are values of documents, so "the same record type" is `Value.same`, always with the
later field on the left and the first field of the group on the right, and names are joined only where they
are texts. For texts both are what one expects.
-/
import Mathlib.Algebra.Ring.Int.Defs
import Mathlib.Data.List.Chain
import Mathlib.Data.List.Flatten
import ShaderRecords.Record.Packing

namespace ShaderRecords

/-! ## Fields and groups -/

/-- A field of one row and one column at least, as every type of the shader language has. -/
structure Field.Sized (f : Field) : Prop where
  one_le_rows : 1 ≤ f.rows.toInt
  one_le_cols : 1 ≤ f.cols.toInt

instance (f : Field) : Decidable f.Sized :=
  decidable_of_iff (1 ≤ f.rows.toInt ∧ 1 ≤ f.cols.toInt) ⟨fun h => ⟨h.1, h.2⟩, fun h => ⟨h.1, h.2⟩⟩

/-- Whether a field has the kind and the record type of another. -/
def Field.SameType (f g : Field) : Prop :=
  f.kind = g.kind ∧ f.typeName.same g.typeName = true

/-- The rows of all fields of a group together. -/
def rowSum (group : List Field) : Int :=
  (group.map (·.rows.toInt)).sum

@[simp] theorem rowSum_nil : rowSum [] = 0 := rfl

@[simp] theorem rowSum_cons (f : Field) (group : List Field) :
    rowSum (f :: group) = f.rows.toInt + rowSum group := by
  simp [rowSum]

@[simp] theorem rowSum_append (a b : List Field) : rowSum (a ++ b) = rowSum a + rowSum b := by
  simp [rowSum]

/-- Sized fields have at least as many rows as there are fields. -/
theorem length_le_rowSum {group : List Field} (h : ∀ f ∈ group, f.Sized) :
    (group.length : Int) ≤ rowSum group := by
  induction group with
  | nil => simp
  | cons f group ih =>
    have hf := (h f (by simp)).one_le_rows
    have hrest := ih fun g hg => h g (by simp [hg])
    rw [rowSum_cons, List.length_cons]
    omega

/-! ## The register of a group -/

/-- The names of a group's fields, if all of them are texts. -/
def groupTexts? (group : List Field) : Option (List String) :=
  group.mapM fun f => f.name.text?

/-- The name of a group: that of its only field, or the names of its fields, which have to be texts, joined
by underscores. -/
def groupName? : List Field → Option Value
  | [f] => some f.name
  | group => (groupTexts? group).map fun names => .text ("_".intercalate names)

/-- The rows of a group: those of its only field, as they are spelled, or the rows of its fields
together. -/
def groupRows : List Field → Whole
  | [f] => f.rows
  | group => .number (rowSum group)

/-- The component at which each field of a group starts: behind the rows of the fields before it. -/
def groupOffsets (group : List Field) : List Int :=
  (List.range group.length).map fun i => rowSum (group.take i)

/-- The register of a first field and those that follow it, under a name. What a register does not take
from all of its fields it takes from the first one. -/
def Register.ofGroup (name : Value) (f : Field) (fs : List Field) : Register where
  name := name
  kind := f.kind
  rows := groupRows (f :: fs)
  cols := f.cols
  arraySize := f.arraySize
  typeName := f.typeName
  comment := f.comment
  guard := f.guard
  members := f :: fs
  offsets := groupOffsets (f :: fs)

/-- The register of a group, unless the group is empty or its names cannot be joined. -/
def Register.ofGroup? : List Field → Option Register
  | [] => none
  | f :: fs => (groupName? (f :: fs)).map fun name => Register.ofGroup name f fs

/-- Fields that may share a register: none keeps one of its own, all have the type of the first one, none
has a second column, and a register has components for all of them. -/
structure MayShare (group : List Field) : Prop where
  shareable : ∀ f ∈ group, f.isShareable = true
  sameType : ∀ f ∈ group.head?, ∀ g ∈ group.tail, g.SameType f
  oneColumn : ∀ f ∈ group, f.cols.toInt = 1
  rows_le : rowSum group ≤ registerWidth

/-- A register as packing makes it: the register of its members, which may share it if they are several. -/
structure Register.Formed (r : Register) : Prop where
  group_eq : Register.ofGroup? r.members = some r
  shared : r.isMerged = true → MayShare r.members

/-- The fields in their order in registers that packing makes. -/
structure Grouping (fields : List Field) (registers : List Register) : Prop where
  /-- No field is lost, doubled or moved. -/
  members : registers.flatMap (·.members) = fields
  formed : ∀ r ∈ registers, r.Formed

/-! ## Where registers end -/

/-- Whether a field has the type of a register and neither has a second column. -/
def Register.Suits (r : Register) (f : Field) : Prop :=
  (f.kind = r.kind ∧ f.typeName.same r.typeName = true) ∧ f.cols.toInt ≤ 1 ∧ r.cols.toInt ≤ 1

/-- Whether a register may end before a field: it is full, or the field suits it and one of the two keeps a
register of its own. -/
def Register.ClosesBefore (r : Register) (f : Field) : Prop :=
  r.isFull = true ∨ r.Suits f ∧ ¬(r.isShareable = true ∧ f.isShareable = true)

/-- A grouping whose registers end only where they may. -/
structure Segmentation (fields : List Field) (registers : List Register) : Prop
    extends Grouping fields registers where
  boundaries : registers.IsChain fun l r => ∀ f ∈ r.members.head?, l.ClosesBefore f

/-! ## Groups that grow at their end -/

theorem toInt_groupRows (group : List Field) : (groupRows group).toInt = rowSum group := by
  match group with
  | [] => rfl
  | [f] => simp [groupRows]
  | f :: g :: rest => rfl

theorem groupRows_append_singleton {group : List Field} (h : group ≠ []) (f : Field) :
    groupRows (group ++ [f]) = .number (rowSum group + f.rows.toInt) := by
  match group with
  | [] => exact absurd rfl h
  | [g] => simp [groupRows]
  | g :: g' :: rest => simp [groupRows, Int.add_assoc]

theorem groupOffsets_append_singleton (group : List Field) (f : Field) :
    groupOffsets (group ++ [f]) = groupOffsets group ++ [rowSum group] := by
  have hbefore : ∀ i ∈ List.range group.length,
      rowSum ((group ++ [f]).take i) = rowSum (group.take i) := by
    intro i hi
    rw [List.take_append_of_le_length (Nat.le_of_lt (List.mem_range.mp hi))]
  rw [groupOffsets, List.length_append, List.length_singleton, List.range_succ, List.map_append,
    List.map_congr_left hbefore]
  simp [groupOffsets]

theorem getElem?_groupOffsets {group : List Field} {k : Nat} (h : k < group.length) :
    (groupOffsets group)[k]? = some (rowSum (group.take k)) := by
  simp [groupOffsets, List.getElem?_range h]

theorem groupTexts?_cons (f : Field) (group : List Field) :
    groupTexts? (f :: group) =
      f.name.text?.bind fun name => (groupTexts? group).map fun names => name :: names := by
  simp only [groupTexts?, List.mapM_cons]
  cases f.name.text? with
  | none => rfl
  | some name => exact (Option.map_eq_bind ..).symm

theorem groupTexts?_append_singleton (group : List Field) (f : Field) :
    groupTexts? (group ++ [f]) =
      (groupTexts? group).bind fun names => f.name.text?.map fun name => names ++ [name] := by
  simp only [groupTexts?, List.mapM_append]
  cases hlast : f.name.text? <;> simp [hlast]

theorem ne_nil_of_groupTexts? {group : List Field} {names : List String} (hne : group ≠ [])
    (h : groupTexts? group = some names) : names ≠ [] := by
  cases group with
  | nil => exact absurd rfl hne
  | cons f rest =>
    rw [groupTexts?_cons, Option.bind_eq_some_iff] at h
    obtain ⟨name, -, h⟩ := h
    obtain ⟨others, -, rfl⟩ := Option.map_eq_some_iff.mp h
    simp

/-- The text of a group's name is that of its fields' names, joined. -/
theorem text?_groupName {group : List Field} {name : Value} (hne : group ≠ [])
    (h : groupName? group = some name) :
    name.text? = (groupTexts? group).map ("_".intercalate ·) := by
  match group with
  | [] => exact absurd rfl hne
  | [f] =>
    obtain rfl : f.name = name := by simpa [groupName?] using h
    cases ht : f.name.text? <;> simp [groupTexts?, ht]
  | f :: g :: rest =>
    obtain ⟨names, hnames, rfl⟩ := Option.map_eq_some_iff.mp h
    rw [hnames]
    rfl

/-- Names are joined where both are texts. -/
theorem joinNames_eq_ok_iff {a b name : Value} :
    joinNames a b = .ok name ↔
      ∃ s t, a.text? = some s ∧ b.text? = some t ∧ name = .text (s ++ "_" ++ t) := by
  cases a <;> cases b <;> simp [joinNames, Value.text?, eq_comm]

/-- A further field's name is joined to the name of the group before it. -/
theorem groupName?_append_singleton {group : List Field} {held : Value} (hne : group ≠ [])
    (h : groupName? group = some held) (f : Field) (name : Value) :
    groupName? (group ++ [f]) = some name ↔ joinNames held f.name = .ok name := by
  have hjoined : groupName? (group ++ [f])
      = (groupTexts? (group ++ [f])).map fun names => .text ("_".intercalate names) := by
    match group with
    | [] => exact absurd rfl hne
    | [g] => rfl
    | g :: g' :: rest => rfl
  rw [hjoined, groupTexts?_append_singleton, joinNames_eq_ok_iff, text?_groupName hne h]
  cases hnames : groupTexts? group with
  | none => simp
  | some names =>
    cases ht : f.name.text? with
    | none => simp
    | some t =>
      have hsplit := String.intercalate_append_of_ne_nil (s := "_")
        (ne_nil_of_groupTexts? hne hnames) (List.cons_ne_nil t [])
      simp [hsplit, eq_comm]

/-- The first fields of a group that has a name have one. -/
theorem groupName?_of_append {a b : List Field} {name : Value} (hne : a ≠ [])
    (h : groupName? (a ++ b) = some name) : ∃ name', groupName? a = some name' := by
  match a with
  | [] => exact absurd rfl hne
  | [f] => exact ⟨f.name, rfl⟩
  | f :: g :: rest =>
    obtain ⟨names, hnames, -⟩ := Option.map_eq_some_iff.mp h
    have htexts : groupTexts? ((f :: g :: rest) ++ b) = some names := hnames
    rw [groupTexts?, List.mapM_append, Option.bind_eq_bind, Option.bind_eq_some_iff] at htexts
    obtain ⟨first, hfirst, -⟩ := htexts
    exact ⟨_, Option.map_eq_some_iff.mpr ⟨first, hfirst, rfl⟩⟩

/-! ## Groups that may share -/

theorem Field.arraySize_of_isShareable {f : Field} (h : f.isShareable = true) :
    f.arraySize.toInt = 0 := by
  simp only [Field.isShareable, Bool.and_eq_true, beq_iff_eq] at h
  exact h.1.2

/-- The first fields of a group that may share may share. -/
theorem MayShare.of_append {a b : List Field} (h : MayShare (a ++ b)) (hb : ∀ f ∈ b, f.Sized) :
    MayShare a where
  shareable f hf := h.shareable f (List.mem_append_left _ hf)
  sameType f hf g hg := by
    cases a with
    | nil => simp at hf
    | cons f' a => exact h.sameType f hf g (List.mem_append_left _ hg)
  oneColumn f hf := h.oneColumn f (List.mem_append_left _ hf)
  rows_le := by
    have hsum := h.rows_le
    have hlen := length_le_rowSum hb
    rw [rowSum_append] at hsum
    omega

namespace Register

@[simp] theorem members_ofGroup (name : Value) (f : Field) (fs : List Field) :
    (ofGroup name f fs).members = f :: fs := rfl

theorem ofGroup_singleton (f : Field) : ofGroup f.name f [] = ofField f := by
  simp [ofGroup, ofField, groupRows, groupOffsets, List.range_succ]

/-- The rows of a register are the rows of its fields. -/
theorem toInt_rows_ofGroup (name : Value) (f : Field) (fs : List Field) :
    (ofGroup name f fs).rows.toInt = rowSum (f :: fs) :=
  toInt_groupRows (f :: fs)

/-- Fields of one column that are no arrays have as many components as rows. -/
theorem elementCount_ofGroup {f : Field} (hs : f.isShareable = true) (hc : f.cols.toInt = 1)
    (name : Value) (fs : List Field) :
    (ofGroup name f fs).elementCount = rowSum (f :: fs) := by
  have hmax : max (0 : Int) 1 = 1 := rfl
  rw [elementCount, toInt_rows_ofGroup]
  simp only [ofGroup, hc, Field.arraySize_of_isShareable hs, hmax, mul_one]

theorem isMerged_ofGroup (name : Value) (f : Field) (fs : List Field) :
    (ofGroup name f fs).isMerged = true ↔ fs ≠ [] := by
  cases fs <;> simp [isMerged]

variable {r r' : Register}

theorem members_of_ofGroup? {group : List Field} (h : ofGroup? group = some r) :
    r.members = group := by
  cases group with
  | nil => simp [ofGroup?] at h
  | cons f fs =>
    obtain ⟨name, -, rfl⟩ := Option.map_eq_some_iff.mp h
    rfl

/-- The first fields of a group that makes a register make one. -/
theorem ofGroup?_of_append {a b : List Field} (hne : a ≠ []) (h : ofGroup? (a ++ b) = some r) :
    ∃ r', ofGroup? a = some r' := by
  cases a with
  | nil => exact absurd rfl hne
  | cons f fs =>
    obtain ⟨name, hname, -⟩ := Option.map_eq_some_iff.mp h
    obtain ⟨name', hname'⟩ := groupName?_of_append hne hname
    exact ⟨_, Option.map_eq_some_iff.mpr ⟨name', hname', rfl⟩⟩

/-! ## Formed registers -/

theorem formed_of_ofGroup? {group : List Field} (h : ofGroup? group = some r)
    (hshare : MayShare group) : r.Formed := by
  have hm := members_of_ofGroup? h
  exact ⟨by rw [hm, h], fun _ => by rwa [hm]⟩

theorem formed_ofGroup {name : Value} {f : Field} {fs : List Field}
    (hname : groupName? (f :: fs) = some name) (hshare : fs ≠ [] → MayShare (f :: fs)) :
    (ofGroup name f fs).Formed where
  group_eq := by simp [ofGroup?, hname]
  shared h := hshare ((isMerged_ofGroup name f fs).mp h)

theorem formed_ofField (f : Field) : (ofField f).Formed := by
  rw [← ofGroup_singleton]
  exact formed_ofGroup rfl fun h => absurd rfl h

/-- A formed register in terms of its fields. -/
theorem Formed.exists_eq_ofGroup (h : r.Formed) :
    ∃ name f fs, groupName? (f :: fs) = some name ∧ r = Register.ofGroup name f fs
      ∧ (fs ≠ [] → MayShare (f :: fs)) := by
  obtain ⟨hgroup, hshared⟩ := h
  cases hm : r.members with
  | nil => simp [hm, ofGroup?] at hgroup
  | cons f fs =>
    rw [hm, ofGroup?] at hgroup
    obtain ⟨name, hname, heq⟩ := Option.map_eq_some_iff.mp hgroup
    refine ⟨name, f, fs, hname, heq.symm, fun hne => ?_⟩
    rw [← hm]
    exact hshared (by rw [← heq]; exact (isMerged_ofGroup name f fs).mpr hne)

theorem Formed.members_ne_nil (h : r.Formed) : r.members ≠ [] := by
  obtain ⟨name, f, fs, -, rfl, -⟩ := h.exists_eq_ofGroup
  simp

/-- A formed register is determined by its fields. -/
theorem Formed.eq_of_members_eq (h : r.Formed) (h' : r'.Formed) (hm : r.members = r'.members) :
    r = r' := by
  have hgroup := h.group_eq
  rw [hm, h'.group_eq] at hgroup
  exact (Option.some.inj hgroup).symm

/-- A register of one column whose fields leave room is not full. -/
theorem Formed.isFull_eq_false_of_rows (h : r.Formed) (hsized : ∀ g ∈ r.members, g.Sized)
    (hshare : r.isShareable = true) (hcols : ∀ g ∈ r.members, g.cols.toInt = 1)
    (hrows : rowSum r.members < registerWidth) : r.isFull = false := by
  obtain ⟨name, g, gs, -, rfl, -⟩ := h.exists_eq_ofGroup
  have hlen : ((g :: gs).length : Int) ≤ rowSum (g :: gs) := length_le_rowSum hsized
  have hcount := elementCount_ofGroup (List.all_eq_true.mp hshare g (by simp)) (hcols g (by simp)) name gs
  simp only [members_ofGroup, List.length_cons, registerWidth] at hrows hlen hcount
  simp only [isFull, registerWidth, beq_eq_false_iff_ne]
  omega

/-- A register to which another field may still be added is not full. -/
theorem Formed.isFull_eq_false (h : r.Formed) {f : Field} (hsized : ∀ g ∈ r.members ++ [f], g.Sized)
    (hshare : MayShare (r.members ++ [f])) : r.isFull = false := by
  have hlast := (hsized f (by simp)).one_le_rows
  have hrows := hshare.rows_le
  simp only [rowSum_append, rowSum_cons, rowSum_nil] at hrows
  refine h.isFull_eq_false_of_rows (fun g hg => hsized g (List.mem_append_left _ hg)) ?_ ?_ (by omega)
  · exact List.all_eq_true.mpr fun g hg => hshare.shareable g (List.mem_append_left _ hg)
  · exact fun g hg => hshare.oneColumn g (List.mem_append_left _ hg)

end Register

end ShaderRecords
