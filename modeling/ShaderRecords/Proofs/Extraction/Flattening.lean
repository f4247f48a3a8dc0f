/-
ShaderRecords.Proofs.Extraction.Flattening — which compounds become a field of one register.

Only the fields of a compound that are not static count; they are its parts (`Compound.parts`). They are walked
one by one: a part that is no scalar ends the walk, and so does a fifth part. Whether the parts are of one kind is
seen behind the walk. So three things can be wrong, and which of them is told depends on where it is found
(`Compound.HasOtherPart`, `Compound.HasFifthPart`, `Compound.MixesKinds`). If none of them is, the compound fits
into a register (`Compound.cases`), and this is when it is accepted (`flatten_accepts_iff_fits`).
-/
import ShaderRecords.Extraction.Members
import ShaderRecords.Proofs.Failure

namespace ShaderRecords

/-! ## Scalars -/

/-- Whether a field is of a built-in type of one component. -/
def Member.IsScalar (m : Member) : Prop :=
  m.type ∈ scalarTypes

instance (m : Member) : Decidable m.IsScalar :=
  inferInstanceAs (Decidable (_ ∈ _))

theorem Member.isSome_scalarKind?_iff {m : Member} : (scalarKind? m.type).isSome = true ↔ m.IsScalar := by
  have htable : ∀ s ∈ scalarTypes, ((Shape.ofName? s).map (·.kind)).isSome = true := by decide
  unfold scalarKind? IsScalar
  constructor
  · intro h
    split at h
    next hmem => simpa using hmem
    next => simp at h
  · intro h
    rw [if_pos (by simpa using h)]
    exact htable _ h

theorem Member.scalarKind?_eq_none_iff {m : Member} : scalarKind? m.type = none ↔ ¬m.IsScalar := by
  rw [← isSome_scalarKind?_iff, Option.not_isSome_iff_eq_none]

theorem Member.IsScalar.exists_kind {m : Member} (h : m.IsScalar) : ∃ kind, scalarKind? m.type = some kind :=
  Option.isSome_iff_exists.mp (isSome_scalarKind?_iff.mpr h)

theorem Member.isScalar_of_scalarKind? {m : Member} {kind : Primitive} (h : scalarKind? m.type = some kind) :
    m.IsScalar :=
  isSome_scalarKind?_iff.mp (Option.isSome_of_eq_some h)

/-! ## Parts -/

namespace Compound

/-- The fields of a compound that take a component of a register. -/
def parts (c : Compound) : List Member :=
  c.fields.filter (!·.isStatic)

/-- Whether a part is one of the first five and no scalar, and those before it are scalars. -/
def HasOtherPart (c : Compound) (f : Member) : Prop :=
  ∃ before after, c.parts = before ++ f :: after ∧ before.length < 5 ∧ (∀ g ∈ before, g.IsScalar) ∧ ¬f.IsScalar

/-- Whether there is a fifth part, and the first five are scalars. -/
structure HasFifthPart (c : Compound) : Prop where
  le_length : 5 ≤ c.parts.length
  isScalar : ∀ f ∈ c.parts.take 5, f.IsScalar

/-- Whether there are four parts at most, all of them scalars, and two of different kinds. -/
structure MixesKinds (c : Compound) : Prop where
  length_le : c.parts.length ≤ 4
  isScalar : ∀ f ∈ c.parts, f.IsScalar
  differ : ∃ f ∈ c.parts, ∃ g ∈ c.parts, scalarKind? f.type ≠ scalarKind? g.type

/-- Whether there are four parts at most, all of them scalars of one kind. -/
structure Fits (c : Compound) (kind : Primitive) : Prop where
  length_le : c.parts.length ≤ 4
  kind_eq : ∀ f ∈ c.parts, scalarKind? f.type = some kind

/-- Whether a text says for every part of a compound which component it has. -/
def LabelsComponents (c : Compound) (comment : String) : Prop :=
  ∃ labels : List String, comment = " ".intercalate labels ∧ labels.length = c.parts.length
    ∧ ∀ (i : Nat) (f : Member), c.parts[i]? = some f → ∃ letter, componentLetters[i]? = some letter
      ∧ labels[i]? = some (String.singleton letter ++ ": " ++ f.name.display)

variable {c : Compound}

/-- Of parts that are not all scalars one is the first that is none. -/
theorem exists_first_other {parts : List Member} (h : ∃ f ∈ parts, ¬f.IsScalar) :
    ∃ before f after, parts = before ++ f :: after ∧ (∀ g ∈ before, g.IsScalar) ∧ ¬f.IsScalar := by
  have hsome : (parts.find? fun f => !decide f.IsScalar).isSome = true := by simpa using h
  obtain ⟨f, hfound⟩ := Option.isSome_iff_exists.mp hsome
  obtain ⟨hother, before, after, hparts, hbefore⟩ := List.find?_eq_some_iff_append.mp hfound
  exact ⟨before, f, after, hparts, by simpa using hbefore, by simpa using hother⟩

/-- A compound that has nothing wrong fits into a register. -/
protected theorem cases (c : Compound) :
    (∃ f, c.HasOtherPart f) ∨ c.HasFifthPart ∨ c.MixesKinds ∨ ∃ kind, c.Fits kind := by
  by_cases hother : ∃ f ∈ c.parts.take 5, ¬f.IsScalar
  · obtain ⟨before, f, after, htake, hbefore, hother⟩ := exists_first_other hother
    have hlength := congrArg List.length htake
    rw [List.length_take, List.length_append, List.length_cons] at hlength
    refine .inl ⟨f, before, after ++ c.parts.drop 5, ?_, by omega, hbefore, hother⟩
    rw [← List.cons_append, ← List.append_assoc, ← htake, List.take_append_drop]
  · have hscalar : ∀ f ∈ c.parts.take 5, f.IsScalar := by
      intro f hf
      by_contra hno
      exact hother ⟨f, hf, hno⟩
    by_cases hlength : 5 ≤ c.parts.length
    · exact .inr (.inl ⟨hlength, hscalar⟩)
    · rw [List.take_of_length_le (by omega)] at hscalar
      by_cases hdiffer : ∃ f ∈ c.parts, ∃ g ∈ c.parts, scalarKind? f.type ≠ scalarKind? g.type
      · exact .inr (.inr (.inl ⟨by omega, hscalar, hdiffer⟩))
      · refine .inr (.inr (.inr ?_))
        cases hparts : c.parts with
        | nil => exact ⟨.float, by simp [hparts], by simp [hparts]⟩
        | cons first rest =>
          have hfirst : first ∈ c.parts := by simp [hparts]
          obtain ⟨kind, hkind⟩ := (hscalar first hfirst).exists_kind
          refine ⟨kind, by omega, fun f hf => ?_⟩
          by_contra hne
          exact hdiffer ⟨f, hf, first, hfirst, by rwa [hkind]⟩

end Compound

/-! ## The walk -/

section Walk

variable {t : TypeDef} {c : Compound} {m : Member} {found : List (Primitive × Value)}

theorem compoundScalars_step {f : Member} {fields : List Member} : compoundScalars t c m found (f :: fields)
    = if f.isStatic then compoundScalars t c m found fields
      else
        match scalarKind? f.type with
        | none => refuse ⟨t.site m, .nonPrimitive c.name f.type⟩
        | some kind =>
          if (found.length : Int) = registerWidth then refuse ⟨t.site m, .tooMany c.name⟩
          else compoundScalars t c m (found ++ [(kind, f.name)]) fields := rfl

variable (t c m found) in
/-- The walk passes over static fields. -/
theorem compoundScalars_filter (fields : List Member) :
    compoundScalars t c m found (fields.filter (!·.isStatic)) = compoundScalars t c m found fields := by
  induction fields generalizing found with
  | nil => rfl
  | cons f fields ih =>
    cases hstatic : f.isStatic with
    | true => rw [List.filter_cons_of_neg (by simp [hstatic]), ih, compoundScalars_step, hstatic, if_pos rfl]
    | false =>
      rw [List.filter_cons_of_pos (by simp [hstatic]), compoundScalars_step, compoundScalars_step, hstatic]
      simp only [ih]

/-- The walk goes on behind a scalar for which there is room. -/
theorem compoundScalars_cons {f : Member} {fields : List Member} {kind : Primitive} (hstatic : f.isStatic = false)
    (hkind : scalarKind? f.type = some kind) (hroom : found.length < 4) :
    compoundScalars t c m found (f :: fields) = compoundScalars t c m (found ++ [(kind, f.name)]) fields := by
  have hlength : ¬(found.length : Int) = registerWidth := by
    unfold registerWidth
    omega
  rw [compoundScalars_step, hstatic, if_neg (by simp), hkind]
  dsimp only
  rw [if_neg hlength]

/-- The walk ends at a part that is no scalar, whether there is room for it or not. -/
theorem compoundScalars_of_other {before after : List Member} {f : Member}
    (hbefore : ∀ g ∈ before, g.isStatic = false ∧ g.IsScalar) (hlength : found.length + before.length < 5)
    (hstatic : f.isStatic = false) (hother : ¬f.IsScalar) :
    compoundScalars t c m found (before ++ f :: after) = refuse ⟨t.site m, .nonPrimitive c.name f.type⟩ := by
  induction before generalizing found with
  | nil =>
    rw [List.nil_append, compoundScalars_step, hstatic, if_neg (by simp),
      Member.scalarKind?_eq_none_iff.mpr hother]
  | cons first before ih =>
    obtain ⟨⟨hfirst, hscalar⟩, hbefore⟩ := List.forall_mem_cons.mp hbefore
    obtain ⟨kind, hkind⟩ := hscalar.exists_kind
    rw [List.length_cons] at hlength
    rw [List.cons_append, compoundScalars_cons hfirst hkind (by omega)]
    refine ih hbefore ?_
    rw [List.length_append, List.length_singleton]
    omega

variable (found) in
/-- The walk ends at a part for which there is no room. -/
theorem compoundScalars_of_fifth {parts : List Member} (hparts : ∀ f ∈ parts, f.isStatic = false)
    (hfound : found.length ≤ 4) (hlength : 5 ≤ found.length + parts.length)
    (hscalar : ∀ f ∈ parts.take (5 - found.length), f.IsScalar) :
    compoundScalars t c m found parts = refuse ⟨t.site m, .tooMany c.name⟩ := by
  induction parts generalizing found with
  | nil =>
    rw [List.length_nil] at hlength
    omega
  | cons first parts ih =>
    have hfirst := hparts first (by simp)
    obtain ⟨room, hroom⟩ : ∃ room, 5 - found.length = room + 1 := ⟨4 - found.length, by omega⟩
    rw [hroom, List.take_succ_cons] at hscalar
    obtain ⟨kind, hkind⟩ := (hscalar first (by simp)).exists_kind
    by_cases hfull : found.length = 4
    · have hwidth : (found.length : Int) = registerWidth := by rw [hfull]; rfl
      rw [compoundScalars_step, hfirst, if_neg (by simp), hkind]
      dsimp only
      rw [if_pos hwidth]
    · rw [compoundScalars_cons hfirst hkind (by omega)]
      rw [List.length_cons] at hlength
      refine ih _ (fun g hg => hparts g (List.mem_cons_of_mem _ hg)) ?_ ?_ ?_
      · rw [List.length_append, List.length_singleton]
        omega
      · rw [List.length_append, List.length_singleton]
        omega
      · rw [List.length_append, List.length_singleton, show 5 - (found.length + 1) = room by omega]
        exact fun g hg => hscalar g (List.mem_cons_of_mem _ hg)

variable (found) in
/-- Up to four scalars are found with their kinds and names. -/
theorem compoundScalars_of_fits {parts : List Member} (hparts : ∀ f ∈ parts, f.isStatic = false)
    (hlength : found.length + parts.length ≤ 4) (hscalar : ∀ f ∈ parts, f.IsScalar) :
    ∃ scalars, compoundScalars t c m found parts = .ok (found ++ scalars)
      ∧ List.Forall₂ (fun f scalar => scalarKind? f.type = some scalar.1 ∧ scalar.2 = f.name) parts scalars := by
  induction parts generalizing found with
  | nil => exact ⟨[], by rw [List.append_nil]; rfl, .nil⟩
  | cons first parts ih =>
    rw [List.length_cons] at hlength
    obtain ⟨kind, hkind⟩ := (hscalar first (by simp)).exists_kind
    obtain ⟨scalars, hscalars, hall⟩ := ih (found ++ [(kind, first.name)])
      (fun g hg => hparts g (List.mem_cons_of_mem _ hg))
      (by rw [List.length_append, List.length_singleton]; omega)
      (fun g hg => hscalar g (List.mem_cons_of_mem _ hg))
    refine ⟨(kind, first.name) :: scalars, ?_, .cons ⟨hkind, rfl⟩ hall⟩
    rw [compoundScalars_cons (hparts first (by simp)) hkind (by omega), hscalars, List.append_assoc]
    rfl

end Walk

/-! ## Fields -/

/-- Whether a field has one component for each part of a compound of a kind. -/
structure Field.IsMadeOf (f : Field) (c : Compound) (kind : Primitive) (m : Member) (size : Whole)
    (guard : String) : Prop where
  name_eq : f.name = m.name
  kind_eq : f.kind = kind
  rows_eq : f.rows.toInt = c.parts.length
  cols_eq : f.cols.toInt = 1
  arraySize_eq : f.arraySize = size
  guard_eq : f.guard = guard
  comment_eq : m.comment ≠ "" ∨ kind ≠ .float → f.comment = .text m.comment
  labels : m.comment = "" → kind = .float → ∃ comment, f.comment = .text comment ∧ c.LabelsComponents comment

/-- Whether a name stands for a compound: neither a built-in type nor a type of the document has it. -/
structure Registry.NamesCompound (registry : Registry) (name : Value) (c : Compound) : Prop where
  isKey : name.isKey = true
  shape_eq_none : name.text?.bind Shape.ofName? = none
  type_eq_none : registry.findType? name = none
  compound_eq : registry.findCompound? name = some c

section Fields

variable {t : TypeDef} {c : Compound} {m : Member} {size : Whole} {guard : String}

theorem Compound.isStatic_of_mem_parts {f : Member} (h : f ∈ c.parts) : f.isStatic = false := by
  simpa using (List.mem_filter.mp h).2

theorem flatten_of_other {f : Member} (h : c.HasOtherPart f) :
    flatten t c m size guard = refuse ⟨t.site m, .nonPrimitive c.name f.type⟩ := by
  obtain ⟨before, after, hparts, hlength, hscalar, hother⟩ := h
  have hstatic : ∀ g ∈ before ++ f :: after, g.isStatic = false := fun g hg =>
    Compound.isStatic_of_mem_parts (hparts ▸ hg)
  have hwalk := compoundScalars_filter t c m [] c.fields
  rw [← Compound.parts, hparts, compoundScalars_of_other
    (fun g hg => ⟨hstatic g (List.mem_append_left _ hg), hscalar g hg⟩) (by simpa using hlength)
    (hstatic f (by simp)) hother] at hwalk
  rw [flatten, ← hwalk]
  rfl

theorem flatten_of_fifth (h : c.HasFifthPart) :
    flatten t c m size guard = refuse ⟨t.site m, .tooMany c.name⟩ := by
  have hwalk := compoundScalars_filter t c m [] c.fields
  rw [← Compound.parts, compoundScalars_of_fifth [] (fun f => Compound.isStatic_of_mem_parts) (by simp)
    (by simpa using h.le_length) h.isScalar] at hwalk
  rw [flatten, ← hwalk]
  rfl

/-- Where all parts are scalars and there are four at most, what is found says what is given. -/
theorem exists_scalars (hlength : c.parts.length ≤ 4) (hscalar : ∀ f ∈ c.parts, f.IsScalar) :
    ∃ scalars, compoundScalars t c m [] c.fields = .ok scalars
      ∧ List.Forall₂ (fun f scalar => scalarKind? f.type = some scalar.1 ∧ scalar.2 = f.name) c.parts scalars := by
  obtain ⟨scalars, hscalars, hall⟩ := compoundScalars_of_fits (t := t) (c := c) (m := m) []
    (fun f => Compound.isStatic_of_mem_parts) (by simpa using hlength) hscalar
  refine ⟨scalars, ?_, hall⟩
  rw [← compoundScalars_filter, ← Compound.parts, hscalars, List.nil_append]

/-- The scalars that are found have the kind of the first one exactly if all parts have it. -/
theorem any_ne_kind_eq_false_iff {parts : List Member} {kind : Primitive} {name : Value}
    {rest : List (Primitive × Value)}
    (h : List.Forall₂ (fun f scalar => scalarKind? f.type = some scalar.1 ∧ scalar.2 = f.name) parts
      ((kind, name) :: rest)) :
    (rest.any fun scalar => scalar.1 ≠ kind) = false ↔ ∀ f ∈ parts, scalarKind? f.type = some kind := by
  obtain ⟨first, others, hfirst, hrest, rfl⟩ := List.forall₂_cons_right_iff.mp h
  rw [List.forall_mem_cons, and_iff_right hfirst.1]
  clear h hfirst
  induction hrest with
  | nil => simp
  | cons hscalar _ ih =>
    rw [List.any_cons, Bool.or_eq_false_iff, ih, List.forall_mem_cons, hscalar.1]
    simp

theorem flatten_of_mixes (h : c.MixesKinds) :
    flatten t c m size guard = refuse ⟨t.site m, .mixedKinds c.name⟩ := by
  obtain ⟨scalars, hscalars, hall⟩ := exists_scalars (t := t) (m := m) h.length_le h.isScalar
  obtain ⟨f, hf, g, hg, hdiffer⟩ := h.differ
  rw [flatten, hscalars]
  cases scalars with
  | nil =>
    rw [List.forall₂_nil_right_iff.mp hall] at hf
    simp at hf
  | cons scalar rest =>
    obtain ⟨kind, name⟩ := scalar
    have hmixed : (rest.any fun scalar => scalar.1 ≠ kind) = true := by
      by_contra hsame
      have hkind := (any_ne_kind_eq_false_iff hall).mp (by simpa using hsame)
      exact hdiffer ((hkind f hf).trans (hkind g hg).symm)
    rw [ok_bind]
    dsimp only
    rw [if_pos hmixed]

/-- The comment on the names of up to four parts says for each of them which component it has. -/
theorem labelsComponents_componentComment (h : c.parts.length ≤ 4) :
    c.LabelsComponents (componentComment (c.parts.map (·.name))) := by
  have hletters : componentLetters.length = 4 := rfl
  refine ⟨_, rfl, ?_, fun i f hi => ?_⟩
  · rw [List.length_zipWith, List.length_map, hletters]
    omega
  · have hlt : i < componentLetters.length := by
      have := (List.getElem?_eq_some_iff.mp hi).1
      omega
    refine ⟨componentLetters[i], List.getElem?_eq_getElem hlt, ?_⟩
    rw [List.getElem?_zipWith, List.getElem?_eq_getElem hlt, List.getElem?_map, hi]
    rfl

variable (t m size guard) in
/-- A compound that fits into a register gives no field if it has no parts, and one with a component for each
part otherwise. -/
theorem flatten_of_fits {kind : Primitive} (h : c.Fits kind) :
    (c.parts = [] ∧ flatten t c m size guard = .ok none)
      ∨ c.parts ≠ [] ∧ ∃ f, flatten t c m size guard = .ok (some f) ∧ f.IsMadeOf c kind m size guard := by
  obtain ⟨scalars, hscalars, hall⟩ := exists_scalars (t := t) (m := m) h.length_le
    fun f hf => Member.isScalar_of_scalarKind? (h.kind_eq f hf)
  rw [flatten, hscalars]
  cases scalars with
  | nil => exact .inl ⟨List.forall₂_nil_right_iff.mp hall, rfl⟩
  | cons scalar rest =>
    obtain ⟨first, name⟩ := scalar
    obtain ⟨part, parts, ⟨hkind, -⟩, -, hparts⟩ := List.forall₂_cons_right_iff.mp hall
    obtain rfl : first = kind := Option.some.inj (hkind.symm.trans (h.kind_eq part (by simp [hparts])))
    have hnames : c.parts.map (·.name) = ((first, name) :: rest).map (·.2) :=
      map_eq_map_of_forall₂ (hall.imp fun _ _ hscalar => hscalar.2.symm)
    have hlength : c.parts.length = rest.length + 1 := hall.length_eq
    rw [ok_bind]
    dsimp only
    rw [(any_ne_kind_eq_false_iff hall).mpr h.kind_eq, if_neg (by simp)]
    refine .inr ⟨by simp [hparts], _, rfl, rfl, rfl, ?_, rfl, rfl, rfl, fun hown => ?_, fun hnone hfloat => ?_⟩
    · rw [hlength]
      rfl
    · have hno : ¬(first = .float ∧ m.comment = "") := by tauto
      dsimp only
      rw [if_neg hno]
    · refine ⟨_, rfl, ?_⟩
      have hlabels := labelsComponents_componentComment h.length_le
      rw [hnames] at hlabels
      rw [if_pos ⟨hfloat, hnone⟩]
      exact hlabels

/-- What is told of a compound that is not accepted. -/
theorem flatten_eq_refuse_iff {e : ExtractionError} :
    flatten t c m size guard = refuse e
      ↔ (∃ f, c.HasOtherPart f ∧ e = ⟨t.site m, .nonPrimitive c.name f.type⟩)
        ∨ (c.HasFifthPart ∧ e = ⟨t.site m, .tooMany c.name⟩)
        ∨ c.MixesKinds ∧ e = ⟨t.site m, .mixedKinds c.name⟩ := by
  constructor
  · intro hrefuse
    have eq_of_refuse {e' : ExtractionError} (hgives : flatten t c m size guard = refuse e') : e = e' :=
      Failure.issue.inj (Except.error.inj (hrefuse.symm.trans hgives))
    obtain ⟨f, hother⟩ | hfifth | hmixes | ⟨kind, hfits⟩ := c.cases
    · exact .inl ⟨f, hother, eq_of_refuse (flatten_of_other hother)⟩
    · exact .inr (.inl ⟨hfifth, eq_of_refuse (flatten_of_fifth hfifth)⟩)
    · exact .inr (.inr ⟨hmixes, eq_of_refuse (flatten_of_mixes hmixes)⟩)
    · obtain ⟨-, hok⟩ | ⟨-, f, hok, -⟩ := flatten_of_fits t m size guard hfits
      all_goals exact absurd (hok.symm.trans hrefuse) nofun
  · rintro (⟨f, hother, rfl⟩ | ⟨hfifth, rfl⟩ | ⟨hmixes, rfl⟩)
    · exact flatten_of_other hother
    · exact flatten_of_fifth hfifth
    · exact flatten_of_mixes hmixes

/-- A compound that is not refused fits into a register. -/
theorem exists_fits_of_flatten_eq_ok {field : Option Field} (h : flatten t c m size guard = .ok field) :
    ∃ kind, c.Fits kind := by
  obtain ⟨f, hother⟩ | hfifth | hmixes | hfits := c.cases
  · exact absurd (h.symm.trans (flatten_of_other hother)) nofun
  · exact absurd (h.symm.trans (flatten_of_fifth hfifth)) nofun
  · exact absurd (h.symm.trans (flatten_of_mixes hmixes)) nofun
  · exact hfits

/-- A compound without parts gives no field. -/
theorem flatten_eq_ok_none_iff : flatten t c m size guard = .ok none ↔ c.parts = [] := by
  constructor
  · intro h
    obtain ⟨kind, hfits⟩ := exists_fits_of_flatten_eq_ok h
    obtain ⟨hempty, -⟩ | ⟨-, f, hok, -⟩ := flatten_of_fits t m size guard hfits
    · exact hempty
    · exact absurd (h.symm.trans hok) nofun
  · intro hempty
    have hfits : c.Fits .float := ⟨by simp [hempty], by simp [hempty]⟩
    obtain ⟨-, hok⟩ | ⟨hparts, -⟩ := flatten_of_fits t m size guard hfits
    · exact hok
    · exact absurd hempty hparts

/-- A member of a type that is a compound is flattened. -/
theorem fieldOf_of_namesCompound {registry : Registry} {name : Value} {floats : Primitive}
    (h : registry.NamesCompound name c) :
    fieldOf registry t m name size floats guard = flatten t c m size guard := by
  have hkey : name.asKey = .ok name := if_pos h.isKey
  rw [fieldOf, hkey, orBreak_ok, ok_bind]
  dsimp only
  rw [h.shape_eq_none, h.type_eq_none]
  dsimp only
  rw [h.compound_eq]

/-- A compound is accepted exactly if its parts fit into a register: they are four at most, and scalars of one
kind. Where several things are wrong, that one is told which comes first on the walk over the parts. -/
theorem flatten_accepts_iff_fits (t : TypeDef) (c : Compound) (m : Member) (size : Whole) (guard : String) :
    (∀ e, flatten t c m size guard = refuse e ∧ e.code = "E_NON_PRIMITIVE_SUBFIELD"
        ↔ ∃ f, c.HasOtherPart f ∧ e = ⟨t.site m, .nonPrimitive c.name f.type⟩)
      ∧ (∀ e, flatten t c m size guard = refuse e ∧ e.code = "E_TOO_MANY_SUBFIELDS"
        ↔ c.HasFifthPart ∧ e = ⟨t.site m, .tooMany c.name⟩)
      ∧ (∀ e, flatten t c m size guard = refuse e ∧ e.code = "E_MIXED_KINDS"
        ↔ c.MixesKinds ∧ e = ⟨t.site m, .mixedKinds c.name⟩)
      ∧ ((∃ field, flatten t c m size guard = .ok field) ↔ ∃ kind, c.Fits kind)
      ∧ (flatten t c m size guard = .ok none ↔ c.parts = [])
      ∧ (∀ kind, c.Fits kind → c.parts ≠ [] →
        ∃ f, flatten t c m size guard = .ok (some f) ∧ f.IsMadeOf c kind m size guard)
      ∧ ∀ (registry : Registry) (name : Value) (floats : Primitive), registry.NamesCompound name c →
        fieldOf registry t m name size floats guard = flatten t c m size guard := by
  refine ⟨fun e => ?other, fun e => ?fifth, fun e => ?mixes, ⟨?fits, ?accepted⟩, flatten_eq_ok_none_iff, ?made,
    fun registry name floats => fieldOf_of_namesCompound⟩
  case other =>
    rw [flatten_eq_refuse_iff]
    constructor
    · rintro ⟨hother | ⟨-, rfl⟩ | ⟨-, rfl⟩, hcode⟩
      · exact hother
      · exact absurd hcode (by simp [ExtractionError.code])
      · exact absurd hcode (by simp [ExtractionError.code])
    · rintro ⟨f, hother, rfl⟩
      exact ⟨.inl ⟨f, hother, rfl⟩, rfl⟩
  case fifth =>
    rw [flatten_eq_refuse_iff]
    constructor
    · rintro ⟨⟨f, -, rfl⟩ | hfifth | ⟨-, rfl⟩, hcode⟩
      · exact absurd hcode (by simp [ExtractionError.code])
      · exact hfifth
      · exact absurd hcode (by simp [ExtractionError.code])
    · rintro ⟨hfifth, rfl⟩
      exact ⟨.inr (.inl ⟨hfifth, rfl⟩), rfl⟩
  case mixes =>
    rw [flatten_eq_refuse_iff]
    constructor
    · rintro ⟨⟨f, -, rfl⟩ | ⟨-, rfl⟩ | hmixes, hcode⟩
      · exact absurd hcode (by simp [ExtractionError.code])
      · exact absurd hcode (by simp [ExtractionError.code])
      · exact hmixes
    · rintro ⟨hmixes, rfl⟩
      exact ⟨.inr (.inr ⟨hmixes, rfl⟩), rfl⟩
  case fits =>
    rintro ⟨field, hok⟩
    exact exists_fits_of_flatten_eq_ok hok
  case accepted =>
    rintro ⟨kind, hfits⟩
    obtain ⟨-, hok⟩ | ⟨-, f, hok, -⟩ := flatten_of_fits t m size guard hfits
    · exact ⟨none, hok⟩
    · exact ⟨some f, hok⟩
  case made =>
    intro kind hfits hparts
    obtain ⟨hempty, -⟩ | ⟨-, hmade⟩ := flatten_of_fits t m size guard hfits
    · exact absurd hempty hparts
    · exact hmade

/-- A compound of a static field and two numbers, for which the theorem says which field it gives, and the same
compound with a vector among six numbers, where the vector is what is told. -/
theorem flatten_range_eq_ok :
    let number (name : String) : Member := { type := "float", name := name }
    let range : Compound :=
      { name := "Range", fields := [{ type := "Vector4", name := "unit", isStatic := true }, number "low", number "high"] }
    let wide : Compound :=
      { name := "Range"
        fields := [number "a", number "b", { type := "Vector2", name := "c" }, number "d", number "e", number "f"] }
    let m : Member := { type := "Range", name := "range" }
    let t : TypeDef := { name := "Light", fullName := "Light" }
    range.Fits .float ∧ range.parts ≠ []
      ∧ (∃ f, flatten t range m 3 "" = .ok (some f) ∧ f.IsMadeOf range .float m 3 "")
      ∧ ∃ e, flatten t wide m 3 "" = refuse e ∧ e.code = "E_NON_PRIMITIVE_SUBFIELD" := by
  intro number range wide m t
  have hfits : range.Fits .float := ⟨by decide, by decide⟩
  have hparts : range.parts ≠ [] := by simp [range, Compound.parts, number]
  refine ⟨hfits, hparts, (flatten_accepts_iff_fits t range m 3 "").2.2.2.2.2.1 _ hfits hparts, ?_⟩
  have hother : wide.HasOtherPart { type := "Vector2", name := "c" } :=
    ⟨[number "a", number "b"], [number "d", number "e", number "f"], rfl, by decide, by decide, by decide⟩
  exact ⟨_, ((flatten_accepts_iff_fits t wide m 3 "").1 _).mpr ⟨_, hother, rfl⟩⟩

end Fields

end ShaderRecords
