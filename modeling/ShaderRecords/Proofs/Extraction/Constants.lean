/-
ShaderRecords.Proofs.Extraction.Constants — whether each declared name of a type gets a constant of its own.

The constants of a type stand under their defines, and of several constants under one define only the last one
is left. What is declared therefore gets a constant each exactly if no two of the declared names become the same
define (`TypeDef.constants_kept_iff`), which is so if they are written in one of the usual ways
(`Identifier.IsCased`).
-/
import ShaderRecords.Proofs.Extraction.DebugEntries
import ShaderRecords.Proofs.Identifier.Casing

namespace ShaderRecords

/-! ## Entries put one after another -/

namespace Ordered

variable {α : Type}

/-- Puts entries one after another. -/
def putAll (cs : Ordered α) (es : List (String × α)) : Ordered α :=
  es.foldl (fun cs (name, value) => cs.put name value) cs

theorem put_of_notMem {cs : Ordered α} {name : String} (h : name ∉ names cs) (v : α) :
    cs.put name v = cs ++ [(name, v)] := by
  induction cs with
  | nil => rfl
  | cons c cs ih =>
    obtain ⟨k, old⟩ := c
    rw [names_cons, List.mem_cons, not_or] at h
    rw [put, if_neg (Ne.symm h.1), ih h.2]
    rfl

theorem length_put_of_mem {cs : Ordered α} {name : String} (h : name ∈ names cs) (v : α) :
    (cs.put name v).length = cs.length := by
  have hnames := congrArg List.length (names_put cs name v)
  rw [if_pos h] at hnames
  simpa [names] using hnames

theorem length_putAll_le (cs : Ordered α) (es : List (String × α)) :
    (cs.putAll es).length ≤ cs.length + es.length := by
  induction es generalizing cs with
  | nil => exact Nat.le_refl _
  | cons e es ih =>
    obtain ⟨name, v⟩ := e
    have hrest := ih (cs.put name v)
    have hput : (cs.put name v).length ≤ cs.length + 1 := by
      by_cases h : name ∈ names cs
      · rw [length_put_of_mem h]
        omega
      · rw [put_of_notMem h]
        simp
    show (putAll (cs.put name v) es).length ≤ _
    rw [List.length_cons]
    omega

/-- Entries under different names stay as they are. -/
theorem putAll_of_nodup {cs : Ordered α} {es : List (String × α)} (h : (names cs ++ names es).Nodup) :
    cs.putAll es = cs ++ es := by
  induction es generalizing cs with
  | nil => simp [putAll]
  | cons e es ih =>
    obtain ⟨name, v⟩ := e
    have hnew : name ∉ names cs := by
      intro hmem
      exact (List.nodup_append.mp h).2.2 name hmem name (by simp) rfl
    show putAll (cs.put name v) es = _
    rw [put_of_notMem hnew, ih (by simpa [names] using h)]
    simp

/-- No entry is lost exactly if all of them stand under different names. -/
theorem length_putAll_eq_iff {cs : Ordered α} {es : List (String × α)} (hcs : (names cs).Nodup) :
    (cs.putAll es).length = cs.length + es.length ↔ (names cs ++ names es).Nodup := by
  refine ⟨fun h => ?_, fun h => by rw [putAll_of_nodup h, List.length_append]⟩
  induction es generalizing cs with
  | nil => simpa [names] using hcs
  | cons e es ih =>
    obtain ⟨name, v⟩ := e
    have hlength : (putAll (cs.put name v) es).length = cs.length + (es.length + 1) := h
    by_cases hmem : name ∈ names cs
    · have hle := length_putAll_le (cs.put name v) es
      rw [length_put_of_mem hmem] at hle
      omega
    · rw [put_of_notMem hmem] at hlength
      have hnames : (names (cs ++ [(name, v)])).Nodup := by
        have hconcat := List.Nodup.concat hmem hcs
        simpa [names] using hconcat
      have hrest := ih hnames (by rw [hlength, List.length_append, List.length_singleton]; omega)
      simpa [names] using hrest

theorem putAll_nil_of_nodup {es : List (String × α)} (h : (names es).Nodup) : putAll [] es = es :=
  (putAll_of_nodup (by simpa [names] using h)).trans (List.nil_append es)

theorem length_putAll_nil_iff (es : List (String × α)) :
    (putAll [] es).length = es.length ↔ (names es).Nodup := by
  have hall := @length_putAll_eq_iff α [] es .nil
  rwa [List.length_nil, Nat.zero_add] at hall

/-- An entry is found if no other one stands under its name. -/
theorem find?_of_mem {cs : Ordered α} {name : String} {v : α} (hcs : (names cs).Nodup) (h : (name, v) ∈ cs) :
    find? cs name = some v := by
  induction cs with
  | nil => simp at h
  | cons c cs ih =>
    obtain ⟨k, w⟩ := c
    rw [names_cons, List.nodup_cons] at hcs
    rw [find?_cons]
    rcases List.mem_cons.mp h with heq | hmem
    · obtain ⟨rfl, rfl⟩ := Prod.mk.inj heq
      rw [if_pos rfl]
    · have hne : name ≠ k := by
        rintro rfl
        exact hcs.1 (List.mem_map.mpr ⟨_, hmem, rfl⟩)
      rw [if_neg hne, ih hcs.2 hmem]

end Ordered

/-! ## Declared names -/

/-- Whether a member is a constant: a static scalar with a value. -/
def Member.isConstant (m : Member) : Bool :=
  match m.value with
  | .null => false
  | _ => m.isStatic && scalarTypes.any fun name => m.storageType.same (.text name)

/-- The define of a member that is a constant. -/
def Member.constantDefine (m : Member) : String :=
  Identifier.ofConstant m.name.display

/-- The labels under which a member may be shown. -/
def Member.labels (m : Member) : List Value :=
  m.debugLabels ++ m.packing.flatMap fun d => d.names m.name

namespace TypeDef

/-- The define of a value of an enumeration. -/
def valueDefine (t : TypeDef) (name : Value) : String :=
  Identifier.ofEnumValue t.name.display name.display

/-- The define of a debug entry under a label. -/
def labelDefine (t : TypeDef) (label : String) : String :=
  Identifier.ofDebugEntry t.fullName.display label

/-- The members of a type that are constants. -/
def constantMembers (t : TypeDef) : List Member :=
  t.members.filter (·.isConstant)

/-- The defines of a record whose members are shown under some labels. -/
def recordDefines (t : TypeDef) (labels : List String) : List String :=
  t.constantMembers.map (·.constantDefine) ++ labels.map t.labelDefine

/-- Whether an entry of the debug view shows a member under a label. -/
structure ShowsUnder (t : TypeDef) (label : String) (e : DebugField) : Prop where
  define_eq : e.define = t.labelDefine label
  exists_member : ∃ m ∈ t.members, e.field = m.name ∧ Value.text label ∈ m.labels

/-- The values of an enumeration have different defines if their names are written in one way and differ. -/
theorem nodup_valueDefines_of_cased {t : TypeDef} {capital : Bool}
    (hcased : ∀ v ∈ t.values, Identifier.IsCased capital v.1.display)
    (hnames : (t.values.map (·.1.display)).Nodup) : (t.values.map fun v => t.valueDefine v.1).Nodup := by
  rw [List.Nodup, List.pairwise_map] at hnames ⊢
  exact hnames.imp_of_mem fun ha hb hne heq =>
    hne (Identifier.ofEnumValue_inj (hcased _ ha) (hcased _ hb) heq)

/-- Whether the names of a type's constants differ and are written in one way, and so the labels of its members. -/
structure IsCased (t : TypeDef) (capital capitalLabel : Bool) (labels : List String) : Prop where
  names_cased : ∀ m ∈ t.constantMembers, Identifier.IsCased capital m.name.display
  unmarked : ∀ m ∈ t.constantMembers, Identifier.IsUnmarked m.name.display
  names_nodup : (t.constantMembers.map (·.name.display)).Nodup
  labels_cased : ∀ label ∈ labels, Identifier.IsCased capitalLabel label
  labels_nodup : labels.Nodup

theorem IsCased.nodup_recordDefines {t : TypeDef} {capital capitalLabel : Bool} {labels : List String}
    (h : t.IsCased capital capitalLabel labels) : (t.recordDefines labels).Nodup := by
  have hconstants : (t.constantMembers.map (·.constantDefine)).Nodup := by
    have hnames := h.names_nodup
    rw [List.Nodup, List.pairwise_map] at hnames ⊢
    exact hnames.imp_of_mem fun ha hb hne heq => hne
      (Identifier.ofConstant_inj (h.names_cased _ ha) (h.names_cased _ hb) (h.unmarked _ ha) (h.unmarked _ hb) heq)
  have hentries : (labels.map t.labelDefine).Nodup := by
    rw [List.Nodup, List.pairwise_map]
    exact h.labels_nodup.imp_of_mem fun ha hb hne heq =>
      hne (Identifier.ofDebugEntry_inj (h.labels_cased _ ha) (h.labels_cased _ hb) heq)
  refine List.nodup_append.mpr ⟨hconstants, hentries, fun define hdefine other hother => ?_⟩
  obtain ⟨m, hm, rfl⟩ := List.mem_map.mp hdefine
  obtain ⟨label, -, rfl⟩ := List.mem_map.mp hother
  exact Identifier.ofConstant_ne_ofDebugEntry (h.unmarked m hm) _ _

end TypeDef

/-! ## Constants of a type -/

section Extracted

variable {registry : Registry} {t : TypeDef} {m : Member} {next : Value}

/-- A static member gives a constant exactly if it is one. -/
theorem names_of_staticYield {y : MemberYield} (hstatic : m.isStatic = true)
    (h : staticYield next m m.storageType = .ok y) :
    Ordered.names y.constants = if m.isConstant then [m.constantDefine] else [] := by
  unfold staticYield at h
  split at h
  next hvalue =>
    obtain rfl := Except.ok.inj h
    simp [Member.isConstant, hvalue, Ordered.names]
  next hvalue =>
    have hconstant : m.isConstant = scalarTypes.any fun name => m.storageType.same (.text name) := by
      unfold Member.isConstant
      split
      next hnull => exact absurd hnull hvalue
      next => rw [hstatic, Bool.true_and]
    rw [hconstant]
    split at h
    next hscalar =>
      obtain ⟨name, hname, h⟩ := bind_eq_ok_iff.mp h
      obtain rfl := Except.ok.inj h
      rw [if_pos hscalar, Member.constantDefine, Value.display_of_asText hname]
      rfl
    next hscalar =>
      obtain rfl := Except.ok.inj h
      rw [if_neg hscalar]
      rfl

/-- An array of no given size is no constant. -/
theorem isConstant_of_elementType (h : elementType t m = .ok none) : m.isConstant = false := by
  obtain ⟨helement, -, hnone⟩ | ⟨-, _, -, hnone⟩ := elementType_cases h
  · have hsuffix : "[]".toList.isSuffixOf m.type.toList = true := by
      by_contra hother
      rw [if_neg hother] at hnone
      cases hnone
    have hscalar : ∀ name ∈ scalarTypes, Value.same (.text m.type) (.text name) = false := by
      intro name hname
      refine Bool.eq_false_iff.mpr fun hsame => ?_
      have heq : m.type = name := by simpa [Value.same] using hsame
      have hopen : ∀ name ∈ scalarTypes, "[]".toList.isSuffixOf name.toList = false := by decide
      rw [heq, hopen name hname] at hsuffix
      cases hsuffix
    unfold Member.isConstant Member.storageType
    rw [helement, List.any_eq_false.mpr fun name hname => by simp [hscalar name hname], Bool.and_false]
    split <;> rfl
  · cases hnone

/-- The constants that a member gives stand under its define, if it is a constant, and those of its debug
entries. -/
theorem Member.Yields.names_constants {y : MemberYield} (h : m.Yields registry t next y) :
    Ordered.names y.constants
      = (if m.isConstant then [m.constantDefine] else []) ++ y.debugFields.map (·.define) := by
  cases h with
  | unsized helement => simp [isConstant_of_elementType helement, Ordered.names]
  | static hstatic hconstant =>
    rw [names_of_staticYield hstatic hconstant]
    obtain ⟨_, rfl⟩ := exists_constants_of_staticYield hconstant
    simp
  | ordinary _ hstatic =>
    have hconstant : m.isConstant = false := by
      unfold Member.isConstant
      split <;> simp [hstatic]
    simp [hconstant, Ordered.names, Function.comp_def]

/-- Up to their order the constants of members stand under the defines of those that are constants and of all
debug entries. -/
theorem perm_names_constants {members : List Member} {ys : List MemberYield}
    (h : List.Forall₂ (fun m y => ∃ next, m.Yields registry t next y) members ys) :
    (Ordered.names (ys.flatMap (·.constants))).Perm
      ((members.filter (·.isConstant)).map (·.constantDefine)
        ++ (ys.flatMap (·.debugFields)).map (·.define)) := by
  induction h with
  | nil => exact .nil
  | @cons m y members ys hyields _ ih =>
    obtain ⟨next, hyields⟩ := hyields
    have hfirst : (if m.isConstant then [m.constantDefine] else [])
        = ([m].filter (·.isConstant)).map (·.constantDefine) := by
      cases hconstant : m.isConstant <;> simp [hconstant]
    have hfilter : (m :: members).filter (·.isConstant)
        = [m].filter (·.isConstant) ++ members.filter (·.isConstant) := List.filter_append [m] members
    rw [List.flatMap_cons, Ordered.names, List.map_append, List.flatMap_cons, List.map_append, hfilter,
      List.map_append, ← hfirst]
    have hnames := hyields.names_constants
    rw [Ordered.names] at hnames ih
    rw [hnames, List.append_assoc, List.append_assoc]
    exact .append_left _ ((ih.append_left _).trans (List.perm_append_comm_assoc _ _ _))

theorem enumConstants_eq {cs out : Constants} {values : List (Value × Value)}
    (h : enumConstants t cs values = .ok out) :
    out = cs.putAll (values.map fun v => (t.valueDefine v.1, v.2.display)) := by
  induction values generalizing cs with
  | nil => exact (Except.ok.inj h).symm
  | cons v values ih =>
    obtain ⟨name, value⟩ := v
    obtain ⟨typeName, htype, h⟩ := bind_eq_ok_iff.mp h
    obtain ⟨valueName, hname, h⟩ := bind_eq_ok_iff.mp h
    have hdefine : t.valueDefine name = Identifier.ofEnumValue typeName valueName := by
      rw [TypeDef.valueDefine, Value.display_of_asText htype, Value.display_of_asText hname]
    rw [ih h, List.map_cons, hdefine]
    rfl

/-- The constants of an enumeration are those of its values, put one after another. -/
theorem constants_of_extract_enum {start : Value} {out : TypeFields} (henum : t.isEnum = true)
    (h : t.extract registry start = .ok out) :
    out.constants = Ordered.putAll [] (t.values.map fun v => (t.valueDefine v.1, v.2.display)) := by
  obtain ⟨constants, hconstants, rfl⟩ := TypeDef.exists_constants_of_extract henum h
  exact enumConstants_eq hconstants

/-- Every debug entry of a member has its number as a constant. -/
theorem Member.Yields.constant_mem {y : MemberYield} (h : m.Yields registry t next y) {e : DebugField}
    (he : e ∈ y.debugFields) : (e.define, e.id.display) ∈ y.constants := by
  cases h with
  | unsized => simp at he
  | static _ hconstant =>
    obtain ⟨_, rfl⟩ := exists_constants_of_staticYield hconstant
    simp at he
  | ordinary => exact List.mem_map.mpr ⟨e, he, rfl⟩

theorem exists_label_of_isEntryFor {make : String → Value → DebugField} {label : Value} {e : DebugField}
    (h : t.IsEntryFor make label e) (hm : m ∈ t.members) (hlabel : label ∈ m.labels)
    (hmake : ∀ define id, (make define id).define = define ∧ (make define id).field = m.name) :
    ∃ shown, t.ShowsUnder shown e := by
  obtain ⟨full, shown, id, hfull, hshown, rfl⟩ := h
  obtain ⟨hdefine, hfield⟩ := hmake (Identifier.ofDebugEntry full shown) id
  refine ⟨shown, ?_, m, hm, hfield, Value.eq_text_of_textParts hshown ▸ hlabel⟩
  rw [hdefine, TypeDef.labelDefine, Value.eq_text_of_textParts hfull]
  rfl

/-- Every debug entry of a member shows it under one of its labels. -/
theorem Member.Shows.exists_label {f : Option Field} {es : List DebugField} (h : m.Shows t f es)
    (hm : m ∈ t.members) {e : DebugField} (he : e ∈ es) : ∃ label, t.ShowsUnder label e := by
  cases h with
  | packed _ hshown =>
    obtain ⟨p, hp, scheme, -, hentry⟩ := exists_mem_of_forall₂ hshown he
    obtain ⟨d, hd, hp⟩ := List.mem_flatMap.mp hp
    obtain ⟨label, hlabel, rfl⟩ := List.mem_map.mp hp
    have hmem : label ∈ m.labels := List.mem_append_right _ (List.mem_flatMap.mpr ⟨d, hd, hlabel⟩)
    exact exists_label_of_isEntryFor hentry hm hmem fun _ _ => ⟨rfl, rfl⟩
  | ordinary _ hshown =>
    obtain ⟨label, hlabel, hentry⟩ := exists_mem_of_forall₂ hshown he
    exact exists_label_of_isEntryFor hentry hm (List.mem_append_left _ hlabel) fun _ _ => ⟨rfl, rfl⟩
  | nothing => simp at he

section Types

variable {start : Value} {out : TypeFields} (h : t.extract registry start = .ok out) (herrors : out.errors = [])

include h herrors

/-- Every debug entry shows a member under one of its labels. -/
theorem exists_label_of_debugField {e : DebugField} (he : e ∈ out.debugFields) :
    ∃ label, t.ShowsUnder label e := by
  obtain ⟨m, field, es, hm, he⟩ := exists_ordinaryIn_of_debugField h herrors he
  obtain ⟨next, last, hentries⟩ := hm.debug_eq
  exact (shows_of_memberDebug (needsDebug_of_memberDebug hentries he) hentries).exists_label hm.member he

/-- The names that a type declares get a constant each exactly if their defines differ, and then every debug entry
is found under its own define. They do differ if the names do and are written in one of the usual ways. -/
theorem TypeDef.constants_kept_iff :
    (t.isEnum = true →
      (out.constants.length = t.values.length ↔ (t.values.map fun v => t.valueDefine v.1).Nodup)
        ∧ ∀ capital, (∀ v ∈ t.values, Identifier.IsCased capital v.1.display) →
          (t.values.map (·.1.display)).Nodup → out.constants.length = t.values.length)
      ∧ (t.isEnum = false → ∃ labels, List.Forall₂ t.ShowsUnder labels out.debugFields
        ∧ (out.constants.length = t.constantMembers.length + out.debugFields.length
          ↔ (t.recordDefines labels).Nodup)
        ∧ ((t.recordDefines labels).Nodup →
          ∀ e ∈ out.debugFields, out.constants.find? e.define = some e.id.display)
        ∧ ∀ capital capitalLabel, t.IsCased capital capitalLabel labels → (t.recordDefines labels).Nodup) := by
  constructor
  · intro henum
    have hiff : out.constants.length = t.values.length ↔ (t.values.map fun v => t.valueDefine v.1).Nodup := by
      rw [constants_of_extract_enum henum h]
      have hall := Ordered.length_putAll_nil_iff (t.values.map fun v => (t.valueDefine v.1, v.2.display))
      simpa [Ordered.names, Function.comp_def] using hall
    exact ⟨hiff, fun _ hcased hnames => hiff.mpr (nodup_valueDefines_of_cased hcased hnames)⟩
  · intro hrecord
    choose! label hlabel using fun e he => exists_label_of_debugField h herrors (e := e) he
    obtain ⟨ys, hys, rfl⟩ := exists_yields_of_extract h herrors hrecord
    have hdefines : ((ys.flatMap (·.debugFields)).map label).map t.labelDefine
        = (ys.flatMap (·.debugFields)).map (·.define) := by
      rw [List.map_map]
      exact List.map_congr_left fun e he => (hlabel e he).define_eq.symm
    have hperm : (Ordered.names (ys.flatMap (·.constants))).Perm
        (t.recordDefines ((ys.flatMap (·.debugFields)).map label)) := by
      rw [TypeDef.recordDefines, hdefines]
      exact perm_names_constants hys
    have hlength : (ys.flatMap (·.constants)).length
        = t.constantMembers.length + (ys.flatMap (·.debugFields)).length := by
      simpa only [Ordered.names, TypeDef.recordDefines, List.length_map, List.length_append]
        using hperm.length_eq
    refine ⟨_, List.forall₂_map_left_iff.mpr (List.forall₂_same.mpr hlabel), ?_, ?_,
      fun _ _ hcased => hcased.nodup_recordDefines⟩
    · have hall := Ordered.length_putAll_nil_iff (ys.flatMap (·.constants))
      rw [hlength] at hall
      exact hall.trans hperm.nodup_iff
    · intro hnodup e he
      obtain ⟨y, hy, hmem⟩ := List.mem_flatMap.mp he
      obtain ⟨m, -, next, hyields⟩ := exists_mem_of_forall₂ hys hy
      have hconstants : (TypeFields.ofYields ys).constants = ys.flatMap (·.constants) :=
        Ordered.putAll_nil_of_nodup (hperm.nodup_iff.mpr hnodup)
      rw [hconstants]
      exact Ordered.find?_of_mem (hperm.nodup_iff.mpr hnodup)
        (List.mem_flatMap.mpr ⟨y, hy, hyields.constant_mem hmem⟩)

end Types

end Extracted

/-- A limit and a distance that the debug view shows from both of its ends. -/
def lightRange : TypeDef where
  name := "Light"
  fullName := "Light"
  needsDebug := true
  members := [
    { name := "limit", type := "int", isStatic := true, value := .int 4 },
    { name := "range", type := "float", surface := some { labels := ["near", "far"] } }]

/-- A limit and two entries of the debug view have a constant each. -/
theorem constants_kept_for_lightRange :
    ∃ out, lightRange.extract ⟨[], []⟩ (.int 1) = .ok out ∧ out.errors = [] ∧ lightRange.isEnum = false
      ∧ out.constants.length = 3 ∧ out.debugFields.length = 2
      ∧ ∀ e ∈ out.debugFields, out.constants.find? e.define = some e.id.display := by
  have hcomputed : (fun out => (out.errors.isEmpty, out.constants.length, out.debugFields.length))
      <$> lightRange.extract ⟨[], []⟩ (.int 1) = .ok (true, 3, 2) := by
    decide +kernel
  obtain ⟨out, hextract, hgiven⟩ := exists_of_map_eq_ok hcomputed
  simp only [Prod.mk.injEq, List.isEmpty_iff] at hgiven
  obtain ⟨herrors, hconstants, hentries⟩ := hgiven
  have hmembers : lightRange.constantMembers.length = 1 := by decide
  obtain ⟨labels, -, hkept, hfound, -⟩ := (TypeDef.constants_kept_iff hextract herrors).2 (by decide)
  have hdifferent := hkept.mp (by rw [hconstants, hmembers, hentries])
  exact ⟨out, hextract, herrors, by decide, hconstants, hentries, hfound hdifferent⟩

/-- Two kinds whose names differ in the case of a letter only. -/
def twoKinds : TypeDef where
  name := "Kind"
  fullName := "Kind"
  kind := "enum"
  values := [("color", .int 0), ("Color", .int 1)]

/-- Of two values whose names differ in the case of a letter only the second one has a constant. -/
theorem constants_lost_for_twoKinds :
    ∃ out, twoKinds.extract ⟨[], []⟩ (.int 1) = .ok out ∧ out.errors = [] ∧ twoKinds.isEnum = true
      ∧ (twoKinds.values.map (·.1.display)).Nodup ∧ twoKinds.values.length = 2
      ∧ out.constants = [("KIND_COLOR", "1")] := by
  have hcomputed : (fun out => (out.errors.isEmpty, out.constants))
      <$> twoKinds.extract ⟨[], []⟩ (.int 1) = .ok (true, [("KIND_COLOR", "1")]) := by
    decide
  obtain ⟨out, hextract, hgiven⟩ := exists_of_map_eq_ok hcomputed
  simp only [Prod.mk.injEq, List.isEmpty_iff] at hgiven
  exact ⟨out, hextract, hgiven.1, by decide, by decide, rfl, hgiven.2⟩

end ShaderRecords
