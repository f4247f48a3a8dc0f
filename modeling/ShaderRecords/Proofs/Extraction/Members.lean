/-
ShaderRecords.Proofs.Extraction.Members — what the members of a type become.

Two things are said about the walk through the members of a type. Whatever it gives, its fields are those of
members (`Field.IsOf`: they keep the name and the guard and have a shape), and the members that store packed
values are members of the type (`TypeFields.Of`). And for the members of checked documents it gives
something: it may meet problems of members, which are collected, but it does not break down
(`TypeDef.gives_extract`).

The one thing that checked documents leave open is how large the numbers of debug entries get.
`Value.Counts v k` says that `k` entries can be numbered from `v` on. Each step of the walk takes what it
needs of such a supply and leaves the rest to the steps behind it.
-/
import Mathlib.Algebra.GroupWithZero.Nat
import ShaderRecords.Proofs.Description.Reading
import ShaderRecords.Proofs.Extraction.Parts
import ShaderRecords.Proofs.Record.Grouping

namespace ShaderRecords

/-! ## Fields and their members -/

/-- Whether a field is one that a member can become. -/
structure Field.IsOf (m : Member) (f : Field) : Prop where
  name : f.name = m.name
  guard : f.guard = .text (m.surface.getD {}).guard
  sized : f.Sized
  comment : m.element.IsTextOrNull → f.comment.IsText

/-- Whether what extraction gives comes from the members of a type. -/
structure TypeFields.Of (members : List Member) (out : TypeFields) : Prop where
  fields : ∀ f ∈ out.fields, ∃ m ∈ members, f.IsOf m
  packedMembers : ∀ m ∈ out.packedMembers, m ∈ members

/-- Built-in types have rows and columns. -/
theorem Shape.one_le_of_ofName? {name : String} {shape : Shape} (h : Shape.ofName? name = some shape) :
    1 ≤ shape.rows ∧ 1 ≤ shape.cols := by
  have htable : ∀ e ∈ Shape.table, 1 ≤ e.2.rows ∧ 1 ≤ e.2.cols := by decide
  obtain ⟨before, after, heq, -⟩ := List.lookup_eq_some_iff.mp h
  exact htable (name, shape) (by rw [Shape.table] at heq ⊢; rw [heq]; simp)

section Members

variable {registry : Registry} {t : TypeDef} {m : Member} {next : Value}

/-- A member that is no array is of its own type, unless that is one of arrays; an array of a size is of the type that
it declares for its elements. -/
theorem elementType_cases {element : Option (Value × Whole)} (h : elementType t m = .ok element) :
    (m.element = .null ∧ m.arraySize = none
        ∧ element = if "[]".toList.isSuffixOf m.type.toList then none else some (.text m.type, 0))
      ∨ m.element ≠ .null ∧ ∃ size, m.arraySize = some size ∧ element = some (m.element, size) := by
  unfold elementType at h
  split at h
  next hnull hnone => exact .inl ⟨hnull, hnone, (Except.ok.inj h).symm⟩
  · simp at h
  · simp at h
  next hsome hnonnull =>
    split at h
    · simp at h
    · exact .inr ⟨hnonnull, _, hsome, (Except.ok.inj h).symm⟩

/-- The type of a member's elements is the member's own or the one that it declares for elements. -/
theorem isText_of_elementType {declared : Value} {size : Whole}
    (h : elementType t m = .ok (some (declared, size))) (helement : m.element.IsTextOrNull) :
    declared.IsText := by
  obtain ⟨-, -, helements⟩ | ⟨hnonnull, _, -, helements⟩ := elementType_cases h
  · split at helements
    · cases helements
    · obtain ⟨rfl, -⟩ := Prod.mk.inj (Option.some.inj helements)
      exact ⟨m.type, rfl⟩
  · obtain ⟨rfl, -⟩ := Prod.mk.inj (Option.some.inj helements)
    exact helement.resolve_left hnonnull

/-- The field of a compound has one row for each scalar, and says which is which unless the member has a
comment. -/
theorem isOf_flatten {c : Compound} {size : Whole} {f : Field}
    (h : flatten t c m size (m.surface.getD {}).guard = .ok (some f)) : f.IsOf m := by
  unfold flatten at h
  obtain ⟨scalars, -, h⟩ := bind_eq_ok_iff.mp h
  match scalars with
  | [] => simp at h
  | (kind, name) :: rest =>
    dsimp only at h
    split at h
    · simp at h
    · obtain rfl := Option.some.inj (Except.ok.inj h)
      refine ⟨rfl, rfl, ⟨?_, Int.le_refl 1⟩, fun _ => ?_⟩
      · show (1 : Int) ≤ rest.length + 1
        omega
      · dsimp only
        split
        · exact ⟨_, rfl⟩
        · exact ⟨_, rfl⟩

/-- A member has the field of a built-in type, of a type of the registry, or of a compound. -/
theorem fieldOf_cases {declared : Value} {size : Whole} {floats : Primitive} {guard : String}
    {field : Option Field} (h : fieldOf registry t m declared size floats guard = .ok field) :
    (∃ name shape, declared = .text name ∧ Shape.ofName? name = some shape
      ∧ field = some {
          name := m.name, kind := if shape.kind.isFloat then floats else shape.kind, rows := .number shape.rows,
          cols := .number shape.cols, arraySize := size, comment := m.comment, guard := guard })
    ∨ declared.text?.bind Shape.ofName? = none
      ∧ ((∃ nested, registry.findType? declared = some nested
          ∧ field = some (
            if nested.isEnum then {
              name := m.name, kind := .int, arraySize := size, guard := guard,
              comment := if m.comment = "" then declared else .text m.comment }
            else {
              name := m.name, kind := .struct, arraySize := size, typeName := nested.name, comment := m.comment,
              guard := guard }))
        ∨ ∃ c, registry.findType? declared = none ∧ registry.findCompound? declared = some c
          ∧ flatten t c m size guard = .ok field) := by
  unfold fieldOf at h
  obtain ⟨key, hkey, h⟩ := bind_eq_ok_iff.mp h
  obtain rfl := Value.eq_of_asKey (orBreak_eq_ok_iff.mp hkey)
  dsimp only at h
  split at h
  next shape hshape =>
    obtain ⟨name, hname, hbuiltin⟩ := Option.bind_eq_some_iff.mp hshape
    exact .inl ⟨name, shape, Value.eq_text_of_text? hname, hbuiltin, (Except.ok.inj h).symm⟩
  next hshape =>
    refine .inr ⟨hshape, ?_⟩
    split at h
    next nested hnested =>
      refine .inl ⟨nested, hnested, ?_⟩
      split at h
      next henum => rw [if_pos henum, ← Except.ok.inj h]
      next henum => rw [if_neg henum, ← Except.ok.inj h]
    next hnested =>
      split at h
      next c hc => exact .inr ⟨c, hnested, hc, h⟩
      next => simp at h

theorem isOf_fieldOf {declared : Value} {size : Whole} {floats : Primitive} {f : Field}
    (hdeclared : m.element.IsTextOrNull → declared.IsText)
    (h : fieldOf registry t m declared size floats (m.surface.getD {}).guard = .ok (some f)) :
    f.IsOf m := by
  rcases fieldOf_cases h with ⟨name, shape, -, hname, hf⟩ | ⟨-, ⟨nested, -, hf⟩ | ⟨c, -, -, hflatten⟩⟩
  · obtain rfl := Option.some.inj hf
    obtain ⟨hrows, hcols⟩ := Shape.one_le_of_ofName? hname
    exact ⟨rfl, rfl, ⟨hrows, hcols⟩, fun _ => ⟨_, rfl⟩⟩
  · obtain rfl := Option.some.inj hf
    split
    · refine ⟨rfl, rfl, ⟨Int.le_refl 1, Int.le_refl 1⟩, fun helement => ?_⟩
      dsimp only
      split
      · exact hdeclared helement
      · exact ⟨_, rfl⟩
    · exact ⟨rfl, rfl, ⟨Int.le_refl 1, Int.le_refl 1⟩, fun _ => ⟨_, rfl⟩⟩
  · exact isOf_flatten hflatten

/-- A static member gives at most a constant. -/
theorem exists_constants_of_staticYield {declared : Value} {y : MemberYield}
    (h : staticYield next m declared = .ok y) : ∃ constants, y = { constants := constants, next := next } := by
  unfold staticYield at h
  split at h
  · exact ⟨[], (Except.ok.inj h).symm⟩
  · split at h
    · obtain ⟨define, -, h⟩ := bind_eq_ok_iff.mp h
      exact ⟨_, (Except.ok.inj h).symm⟩
    · exact ⟨[], (Except.ok.inj h).symm⟩

/-- The field of a member is its own, and only the member itself can be noted as storing packed values. -/
theorem isOf_memberYield {y : MemberYield} (h : memberYield registry t next m = .ok y) :
    (∀ f ∈ y.field, f.IsOf m) ∧ ∀ m' ∈ y.packedMember, m' = m := by
  obtain ⟨part, hpart, h⟩ := memberYield_eq_ok_iff.mp h
  cases hasPart_of_part hpart with
  | unsized =>
    obtain rfl := Except.ok.inj h
    simp
  | static =>
    obtain ⟨_, rfl⟩ := exists_constants_of_staticYield h
    simp
  | ordinary helement _ hfield =>
    obtain ⟨⟨debugFields, last⟩, -, h⟩ := bind_eq_ok_iff.mp h
    obtain rfl := Except.ok.inj h
    constructor
    · intro f hf
      obtain ⟨f', rfl, rfl⟩ := Option.map_eq_some_iff.mp hf
      obtain ⟨hname, hguard, hsized, hcomment⟩ := isOf_fieldOf (isText_of_elementType helement) hfield
      exact ⟨hname, hguard, ⟨hsized.one_le_rows, hsized.one_le_cols⟩, hcomment⟩
    · intro m' hm'
      dsimp only at hm'
      split at hm'
      · simp at hm'
      · exact (Option.some.inj hm').symm

/-! ## The walk through the members -/

/-- What adding the yield of a member keeps, and noting a problem keeps, the walk keeps. -/
theorem extractMembers_induction {P : TypeFields → Prop} {members : List Member} {out out' : TypeFields}
    (hadd : ∀ out y, ∀ m ∈ members, (∃ next, memberYield registry t next m = .ok y) → P out → P (out.add y))
    (htell : ∀ out e, P out → P { out with errors := out.errors ++ [e] }) (hout : P out)
    (h : extractMembers registry t next out members = .ok out') : P out' := by
  induction members generalizing next out with
  | nil =>
    obtain rfl := Except.ok.inj h
    exact hout
  | cons m ms ih =>
    have hrest : ∀ out y, ∀ m ∈ ms, (∃ next, memberYield registry t next m = .ok y) → P out → P (out.add y) :=
      fun out y m hm => hadd out y m (List.mem_cons_of_mem _ hm)
    rw [extractMembers] at h
    split at h
    next y hy => exact ih hrest (hadd out y m (by simp) ⟨next, hy⟩ hout) h
    next e _ => exact ih hrest (htell out e hout) h
    next => simp at h

/-- The fields of a type are those of its members. -/
theorem TypeDef.of_extract {start : Value} {out : TypeFields} (h : t.extract registry start = .ok out) :
    out.Of t.members := by
  unfold TypeDef.extract at h
  split at h
  · obtain ⟨constants, -, h⟩ := bind_eq_ok_iff.mp h
    obtain rfl := Except.ok.inj h
    exact ⟨by simp, by simp⟩
  · refine extractMembers_induction (P := TypeFields.Of t.members) ?_ ?_ ⟨by simp, by simp⟩ h
    · rintro out y m hm ⟨next, hy⟩ ⟨hfields, hpacked⟩
      obtain ⟨hfield, hstores⟩ := isOf_memberYield hy
      constructor
      · intro f hf
        rcases List.mem_append.mp hf with hf | hf
        · exact hfields f hf
        · exact ⟨m, hm, hfield f (Option.mem_toList.mp hf)⟩
      · intro m' hm'
        rcases List.mem_append.mp hm' with hm' | hm'
        · exact hpacked m' hm'
        · exact hstores m' (Option.mem_toList.mp hm') ▸ hm
    · exact fun out e hout => ⟨hout.fields, hout.packedMembers⟩

end Members

/-! ## Numbers of debug entries -/

/-- Whether so many debug entries can be numbered from a value on: it is a number, and where it is a whole
one the numbers can be written. -/
def Value.Counts (v : Value) (count : Nat) : Prop :=
  ∃ x, v.number? = some x ∧ ∀ n, x = .int n → ∀ i < count, ShaderRecords.isWritable (n + i) = true

namespace Value.Counts

variable {v : Value} {k l : Nat}

theorem mono (h : v.Counts l) (hle : k ≤ l) : v.Counts k := by
  obtain ⟨x, hx, hwritable⟩ := h
  exact ⟨x, hx, fun n hn i hi => hwritable n hn i (by omega)⟩

/-- One entry takes one number of the supply. -/
theorem gives_nextId (h : v.Counts (k + 1)) : Gives (nextId v) (Counts · k) := by
  obtain ⟨x, hx, hwritable⟩ := h
  have hafter : ∀ n : Int, x = .int n → ∀ i < k, ShaderRecords.isWritable (n + 1 + i) = true := by
    intro n hn i hi
    have := hwritable n hn (i + 1) (by omega)
    rwa [show n + 1 + (i : Int) = n + ((i + 1 : Nat) : Int) by omega]
  match v with
  | .int n =>
    obtain rfl := Option.some.inj hx
    exact gives_ok ⟨.int (n + 1), rfl, fun m hm => Number.int.inj hm ▸ hafter n rfl⟩
  | .float y => exact gives_ok ⟨.float (y + 1), rfl, by simp⟩
  | .bool b =>
    obtain rfl := Option.some.inj hx
    refine gives_ok ⟨_, rfl, fun m hm => Number.int.inj hm ▸ ?_⟩
    cases b
    · exact hafter 0 rfl
    · exact hafter 1 rfl

theorem gives_idText (h : v.Counts (k + 1)) : Gives (idText v) fun _ => True := by
  obtain ⟨x, hx, hwritable⟩ := h
  match v with
  | .int n =>
    obtain rfl := Option.some.inj hx
    have hn := hwritable n rfl 0 (by omega)
    rw [Int.natCast_zero, Int.add_zero] at hn
    rw [idText, wholeText, if_pos hn]
    exact gives_ok trivial
  | .float _ | .bool _ => exact gives_ok trivial

end Value.Counts

/-- The number of debug entries that a member of a type gets at most. -/
def TypeDef.entryCount (t : TypeDef) (m : Member) : Nat :=
  if !t.needsDebug then 0
  else if m.packing.isEmpty then m.debugLabels.length
  else (m.packing.map fun d => (d.names m.name).length).sum

/-- The number of the first debug entry of a type. -/
def TypeDef.firstId (t : TypeDef) (start : Value) : Value :=
  match t.debugStart with
  | some n => n.toValue
  | none => start

/-- A record gives what the walk through its members gives. -/
theorem TypeDef.extract_of_record {registry : Registry} {t : TypeDef} {start : Value} (hrecord : t.isEnum = false) :
    t.extract registry start = extractMembers registry t (t.firstId start) {} t.members := by
  unfold TypeDef.extract
  rw [hrecord, if_neg (by simp)]
  rfl

/-- An enumeration gives the constants of its values. -/
theorem TypeDef.exists_constants_of_extract {registry : Registry} {t : TypeDef} {start : Value} {out : TypeFields}
    (henum : t.isEnum = true) (h : t.extract registry start = .ok out) :
    ∃ constants, enumConstants t [] t.values = .ok constants ∧ out = { constants := constants } := by
  unfold TypeDef.extract at h
  rw [henum, if_pos rfl] at h
  obtain ⟨constants, hconstants, h⟩ := bind_eq_ok_iff.mp h
  exact ⟨constants, hconstants, (Except.ok.inj h).symm⟩

/-! ## Members of checked documents -/

/-- A scheme that is a text or missing is looked up. -/
theorem Directive.Checked.gives_scheme {d : Directive} (h : d.Checked) :
    Gives (Scheme.ofValue? d.scheme) fun _ => True := by
  unfold Scheme.ofValue?
  rcases h.scheme with hnull | htext
  · rw [hnull]
    exact gives_ok trivial
  · split
    · exact htext.gives_textParts.bind fun _ _ => gives_ok trivial
    · exact gives_ok trivial

section Checked

variable {registry : Registry} {t : TypeDef} {m : Member} {next : Value} {k : Nat}

theorem isText_names {d : Directive} (h : m.Checked) : ∀ label ∈ d.names m.name, label.IsText := by
  unfold Directive.names
  intro label hlabel
  dsimp only at hlabel
  split at hlabel
  · obtain rfl := List.mem_singleton.mp hlabel
    exact h.name
  · obtain ⟨s, -, rfl⟩ := List.mem_map.mp hlabel
    exact ⟨s, rfl⟩

theorem isText_debugLabels (h : m.Checked) : ∀ label ∈ m.debugLabels, label.IsText := by
  unfold Member.debugLabels
  intro label hlabel
  split at hlabel
  · split at hlabel
    · obtain rfl := List.mem_singleton.mp hlabel
      exact h.name
    · obtain ⟨s, -, rfl⟩ := List.mem_map.mp hlabel
      exact ⟨s, rfl⟩
  · obtain rfl := List.mem_singleton.mp hlabel
    exact h.name

theorem gives_debugEntries {make : String → Value → DebugField} {labels : List Value}
    (hfull : t.fullName.IsText) (hlabels : ∀ label ∈ labels, label.IsText)
    (hnext : next.Counts (labels.length + k)) :
    Gives (debugEntries t next make labels) fun given => given.2.Counts k := by
  induction labels generalizing next with
  | nil => exact gives_ok (hnext.mono (by simp))
  | cons label labels ih =>
    have hsupply : next.Counts (labels.length + k + 1) := hnext.mono (by rw [List.length_cons]; omega)
    refine hfull.gives_textParts.bind fun _ _ => ?_
    refine (hlabels label (by simp)).gives_textParts.bind fun _ _ => ?_
    refine hsupply.gives_nextId.bind fun following hfollowing => ?_
    refine hsupply.gives_idText.bind fun _ _ => ?_
    exact (ih (fun l hl => hlabels l (List.mem_cons_of_mem _ hl)) hfollowing).bind fun given hgiven =>
      gives_ok hgiven

theorem gives_packedDebug {f : Option Field} {ds : List Directive} (hfull : t.fullName.IsText)
    (hm : m.Checked) (hds : ∀ d ∈ ds, d.Checked)
    (hnext : next.Counts ((ds.map fun d => (d.names m.name).length).sum + k)) :
    Gives (packedDebug t m f next ds) fun given => given.2.Counts k := by
  induction ds generalizing next with
  | nil => exact gives_ok (hnext.mono (by simp))
  | cons d ds ih =>
    have hsupply : next.Counts
        ((d.names m.name).length + ((ds.map fun d => (d.names m.name).length).sum + k)) :=
      hnext.mono (by rw [List.map_cons, List.sum_cons]; omega)
    refine (hds d (by simp)).gives_scheme.bind fun scheme _ => ?_
    refine (gives_debugEntries hfull (isText_names hm) hsupply).bind fun given hgiven => ?_
    exact (ih (fun d hd => hds d (List.mem_cons_of_mem _ hd)) hgiven).bind fun rest hrest => gives_ok hrest

theorem gives_memberDebug {f : Option Field} (hfull : t.fullName.IsText) (hm : m.Checked)
    (hnext : next.Counts (t.entryCount m + k)) :
    Gives (memberDebug t next m f) fun given => given.2.Counts k := by
  unfold memberDebug
  unfold TypeDef.entryCount at hnext
  split
  · exact gives_ok (hnext.mono (by omega))
  next hdebug =>
    rw [if_neg hdebug] at hnext
    split
    next hpacking =>
      rw [if_neg (by simpa using hpacking)] at hnext
      exact gives_packedDebug hfull hm hm.packing hnext
    next hpacking =>
      rw [if_pos (by simpa using hpacking)] at hnext
      split
      · exact gives_debugEntries hfull (isText_debugLabels hm) hnext
      · exact gives_ok (hnext.mono (by omega))

theorem unbroken_elementType : Unbroken (elementType t m) := by
  unfold elementType
  split
  · simp
  · simp
  · simp
  · split <;> simp

theorem unbroken_compoundScalars {c : Compound} {found : List (Primitive × Value)} {fs : List Member} :
    Unbroken (compoundScalars t c m found fs) := by
  induction fs generalizing found with
  | nil => exact unbroken_ok found
  | cons f fs ih =>
    unfold compoundScalars
    split
    · exact ih
    · split
      · simp
      · split
        · simp
        · exact ih

theorem unbroken_flatten {c : Compound} {size : Whole} {guard : String} :
    Unbroken (flatten t c m size guard) := by
  refine unbroken_compoundScalars.bind fun scalars _ => ?_
  match scalars with
  | [] => simp
  | (kind, name) :: rest =>
    dsimp only
    split <;> simp

variable (registry t m) in
theorem unbroken_fieldOf {declared : Value} {size : Whole} {floats : Primitive} {guard : String}
    (hdeclared : declared.IsText) : Unbroken (fieldOf registry t m declared size floats guard) := by
  refine hdeclared.gives_asKey.orBreak.unbroken.bind fun key _ => ?_
  dsimp only
  split
  · simp
  · split
    · split <;> simp
    · split
      · exact unbroken_flatten
      · simp

theorem gives_staticYield {declared : Value} (hm : m.Checked) :
    Gives (staticYield next m declared) fun y => y.next = next := by
  unfold staticYield
  split
  · exact gives_ok rfl
  · split
    · exact hm.name.gives_asText.bind fun _ _ => gives_ok rfl
    · exact gives_ok rfl

variable (registry t) in
/-- The part of a member of a checked document is found, or the member has a problem that is told. -/
theorem unbroken_part (hm : m.Checked) : Unbroken (m.part registry t) := by
  refine unbroken_elementType.bind fun element helement => ?_
  match element with
  | none => exact unbroken_ok _
  | some (declared, size) =>
    dsimp only
    split
    · exact unbroken_ok _
    · exact (unbroken_fieldOf registry t m (isText_of_elementType helement hm.element)).bind fun _ _ => unbroken_ok _

/-- A member of a checked document gives something if it has a part, and leaves the rest of the supply of numbers. -/
theorem gives_yield (hfull : t.fullName.IsText) (hm : m.Checked) (hnext : next.Counts (t.entryCount m + k))
    (part : MemberPart) : Gives (part.yield t next m) (·.next.Counts k) := by
  have hrest : next.Counts k := hnext.mono (by omega)
  cases part with
  | unsized => exact gives_ok hrest
  | static declared => exact (gives_staticYield hm).imp fun y hy => hy ▸ hrest
  | ordinary field => exact (gives_memberDebug hfull hm hnext).bind fun given hgiven => gives_ok hgiven

variable (registry) in
/-- A member of a checked document gives something and leaves the rest of the supply of numbers, or has a
problem that is told. -/
theorem memberYield_of_checked (hfull : t.fullName.IsText) (hm : m.Checked)
    (hnext : next.Counts (t.entryCount m + k)) :
    Gives (memberYield registry t next m) (·.next.Counts k)
      ∨ ∃ e, memberYield registry t next m = .error (.issue e) := by
  rw [memberYield_eq]
  rcases (unbroken_part registry t hm).ok_or_issue with ⟨part, hpart⟩ | ⟨e, he⟩
  · rw [hpart, ok_bind]
    exact Or.inl (gives_yield hfull hm hnext part).orBreak
  · exact Or.inr ⟨e, by rw [he, error_bind]⟩

theorem gives_extractMembers {out : TypeFields} {members : List Member} (hfull : t.fullName.IsText)
    (hmembers : ∀ m ∈ members, m.Checked) (hnext : next.Counts (members.map t.entryCount).sum) :
    Gives (extractMembers registry t next out members) fun _ => True := by
  induction members generalizing next out with
  | nil => exact gives_ok trivial
  | cons m ms ih =>
    have hms : ∀ m ∈ ms, m.Checked := fun m hm => hmembers m (List.mem_cons_of_mem _ hm)
    rw [List.map_cons, List.sum_cons] at hnext
    rw [extractMembers]
    rcases memberYield_of_checked registry hfull (hmembers m (by simp)) hnext with
      ⟨y, hy, hrest⟩ | ⟨e, he⟩
    · rw [hy]
      exact ih hms hrest
    · rw [he]
      exact ih hms (hnext.mono (by omega))

theorem gives_enumConstants {constants : Constants} {values : List (Value × Value)} (hname : t.name.IsText)
    (hvalues : ∀ e ∈ values, e.1.IsText) : Gives (enumConstants t constants values) fun _ => True := by
  induction values generalizing constants with
  | nil => exact gives_ok trivial
  | cons e values ih =>
    refine hname.gives_asText.bind fun _ _ => ?_
    refine (hvalues e (by simp)).gives_asText.bind fun _ _ => ?_
    exact ih fun e he => hvalues e (List.mem_cons_of_mem _ he)

/-- The members of a type of a checked document are extracted if its debug entries can be numbered. -/
theorem TypeDef.gives_extract {start : Value} (ht : t.Checked)
    (hstart : (t.firstId start).Counts (t.members.map t.entryCount).sum) :
    Gives (t.extract registry start) (TypeFields.Of t.members) := by
  have hgives : Gives (t.extract registry start) fun _ => True := by
    unfold TypeDef.extract
    split
    · exact (gives_enumConstants ht.name ht.values).bind fun _ _ => gives_ok trivial
    · exact gives_extractMembers ht.fullName ht.members hstart
  obtain ⟨out, hout, -⟩ := hgives
  exact ⟨out, hout, TypeDef.of_extract hout⟩

end Checked

end ShaderRecords
