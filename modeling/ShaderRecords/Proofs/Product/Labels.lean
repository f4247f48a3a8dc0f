/-
ShaderRecords.Proofs.Product.Labels — what blanks in the labels of packed values do.

A label of a packed value goes into many names: those of the functions that read, set and initialize the value,
that of a parameter, that of the function that the debug view calls, and a define. Only the define has underscores
for blanks, the others have the label as it is. `labelled_names_valid_iff` says of a type whose names are
identifiers, and whose labels are identifiers but for blanks, which of all these names are identifiers: the define
always, the others exactly if there is no blank in the label, apart from the parameter for the record, which has
the name of the type.
-/
import ShaderRecords.Proofs.Identifier.Validity
import ShaderRecords.Proofs.Product.DebugGetters
import ShaderRecords.Proofs.Product.FunctionNames

namespace ShaderRecords

open Identifier (IsValid IsLabel IsQualified IsDefinable)

/-! ## Names of a type -/

/-- Whether the names of a type and of its members are identifiers, and the labels of its packed values but for
blanks. -/
structure TypeDef.IsNamed (t : TypeDef) : Prop where
  name : ∃ s, t.name = .text s ∧ IsValid s
  fullName : ∃ s, t.fullName = .text s ∧ IsQualified s
  members : ∀ m ∈ t.members, ∃ s, m.name = .text s ∧ IsValid s
  labels : ∀ m ∈ t.members, ∀ d ∈ m.packing, ∀ label ∈ d.labels, IsLabel label

/-- The label that the functions of a request are named after. -/
def Member.labelOf (m : Member) (d : Directive) : Value :=
  (d.names m.name).headD m.name

theorem Layout.label_eq_of_ofDirective {typeName : Value} {m : Member} {d : Directive} {l : Layout Number}
    (h : Layout.ofDirective typeName m d = .ok l) : l.label = m.labelOf d := by
  obtain ⟨scheme, bits, range, -, -, -, -, rfl⟩ := Layout.ofDirective_eq_ok_iff.mp h
  rfl

section Named

variable {t : TypeDef} {m : Member} {d : Directive} (h : t.IsNamed) (hm : m ∈ t.members) (hd : d ∈ m.packing)

include h hm hd

/-- A packed value is shown under labels that were given, or under the name of its member. -/
theorem TypeDef.IsNamed.exists_label {label : Value} (hlabel : label ∈ d.names m.name) :
    ∃ shown, label = .text shown ∧ IsLabel shown := by
  unfold Directive.names at hlabel
  dsimp only at hlabel
  split at hlabel
  · obtain ⟨s, hs, hvalid⟩ := h.members m hm
    exact ⟨s, (List.mem_singleton.mp hlabel).trans hs, hvalid.isLabel⟩
  · obtain ⟨shown, hshown, rfl⟩ := List.mem_map.mp hlabel
    exact ⟨shown, rfl, h.labels m hm d hd shown (List.mem_of_mem_filter hshown)⟩

theorem TypeDef.IsNamed.isLabel_labelOf : IsLabel (m.labelOf d).display := by
  have hmem : m.labelOf d ∈ d.names m.name := by
    unfold Member.labelOf
    cases hnames : d.names m.name with
    | nil => exact absurd hnames (d.names_ne_nil m.name)
    | cons label labels => exact List.mem_cons_self
  obtain ⟨shown, heq, hshown⟩ := h.exists_label hm hd hmem
  rw [heq]
  exact hshown

end Named

/-! ## Names in the debug view -/

section Entries

variable {t : TypeDef} {m : Member} {d : Directive} {label : Value} {e : DebugField}

/-- Whether the define of an entry is an identifier depends on the label that the entry is made for. -/
theorem TypeDef.IsNamed.isValid_define_iff (h : t.IsNamed) {make : String → Value → DebugField}
    (hmake : ∀ define id, (make define id).define = define) (hentry : t.IsEntryFor make label e) :
    ∃ shown, label = .text shown ∧ (IsValid e.define ↔ IsDefinable shown) := by
  obtain ⟨full, shown, id, hfull, hshown, rfl⟩ := hentry
  obtain ⟨full', hfull', hqualified⟩ := h.fullName
  obtain rfl := Value.text.inj ((Value.eq_text_of_textParts hfull).symm.trans hfull')
  rw [hmake]
  exact ⟨shown, Value.eq_text_of_textParts hshown, Identifier.isValid_ofDebugEntry_iff hqualified shown⟩

/-- The entry of a packed value has an identifier as its define, and a function that is named after the request. -/
theorem TypeDef.IsNamed.names_of_packedEntry (h : t.IsNamed) (hm : m ∈ t.members) (hd : d ∈ m.packing)
    (hlabel : label ∈ d.names m.name) {f : Option Field} (hentry : t.IsPackedEntryFor m f (d, label) e) :
    IsValid e.define ∧ e.getter = "Get" ++ (m.labelOf d).display := by
  obtain ⟨scheme, -, hentry⟩ := hentry
  obtain ⟨shown, hshown, hiff⟩ := h.isValid_define_iff (fun _ _ => rfl) hentry
  obtain ⟨shown', heq, hfits⟩ := h.exists_label hm hd hlabel
  obtain rfl := Value.text.inj (hshown.symm.trans heq)
  obtain ⟨_, _, id, -, -, rfl⟩ := hentry
  exact ⟨hiff.mpr hfits.isDefinable, rfl⟩

end Entries

/-! ## Names in functions -/

/-- A parameter of a function. -/
structure Parameter where
  /-- The type, with the word for the direction in front of it. -/
  type : String
  name : String
deriving Repr, DecidableEq

/-- Parameters as they stand in the signature of a function. -/
def parametersText (parameters : List Parameter) : String :=
  ", ".intercalate (parameters.map fun q => q.type ++ " " ++ q.name)

namespace Layout

/-- The parameters of the function for a purpose and a packed value. -/
def parameters (l : Layout Number) (n : RecordNames) : Purpose → List Parameter
  | .read => [⟨"in " ++ n.typeName, n.source⟩]
  | .write _ => [⟨l.valueType?.getD "", "new" ++ l.label.display⟩, ⟨"inout " ++ n.typeName, n.source⟩]

/-- The names that the function for a purpose and a packed value declares: its own and those of its parameters. -/
def declaredNames (l : Layout Number) (n : RecordNames) (purpose : Purpose) : List String :=
  (purpose.verb ++ l.label.display) :: (l.parameters n purpose).map (·.name)

/-- Whether a function declares these names. -/
structure IsDeclaredBy (l : Layout Number) (n : RecordNames) (purpose : Purpose) (f : ShaderFunction) : Prop where
  name_eq : f.name = purpose.verb ++ l.label.display
  parameters_eq : f.parameters = parametersText (l.parameters n purpose)

variable {l : Layout Number} {n : RecordNames} {purpose : Purpose}

theorem isDeclaredBy_of_packedFunction {f : ShaderFunction} (h : packedFunction n l purpose = .ok (some f)) :
    l.IsDeclaredBy n purpose f := by
  refine ⟨(spec_of_packedFunction h).1, ?_⟩
  cases purpose with
  | read =>
    obtain ⟨e, -, h⟩ := bind_eq_ok_iff.mp h
    split at h
    · obtain ⟨body, -, h⟩ := bind_eq_ok_iff.mp h
      obtain rfl := Option.some.inj (Except.ok.inj h)
      simp [parametersText, parameters]
    · simp at h
  | write mode =>
    unfold packedFunction at h
    dsimp only at h
    split at h
    next valueType hvalue =>
      obtain ⟨name, hname, h⟩ := bind_eq_ok_iff.mp h
      obtain ⟨store, -, h⟩ := bind_eq_ok_iff.mp h
      obtain ⟨statement, -, h⟩ := bind_eq_ok_iff.mp h
      obtain rfl := Option.some.inj (Except.ok.inj h)
      have hfirst : " new" = " " ++ "new" := by decide
      have hsecond : ", inout " = ", " ++ "inout " := by decide
      simp only [hfirst, hsecond, parametersText, parameters, hvalue, Value.display_of_asText hname,
        Option.getD_some, List.map_cons, List.map_nil, String.intercalate_cons_cons, String.intercalate_singleton,
        String.append_assoc]
    · simp at h

/-- A name that a function declares is an identifier exactly if it is that of the record or the label has no blank. -/
theorem isValid_declaredNames_iff (hsource : IsValid n.source) (hlabel : IsLabel l.label.display) :
    ∀ s ∈ l.declaredNames n purpose, IsValid s ↔ s = n.source ∨ ' ' ∉ l.label.display.toList := by
  have hlabelled : ∀ {front : String}, IsValid front →
      (IsValid (front ++ l.label.display)
        ↔ front ++ l.label.display = n.source ∨ ' ' ∉ l.label.display.toList) := by
    intro front hfront
    rw [← IsLabel.isValid_append_iff hfront hlabel]
    exact (or_iff_right_of_imp fun heq => heq ▸ hsource).symm
  have hrecord : IsValid n.source ↔ n.source = n.source ∨ ' ' ∉ l.label.display.toList :=
    iff_of_true hsource (Or.inl rfl)
  have hverb : IsValid purpose.verb := by
    obtain _ | (_ | _) := purpose <;> decide
  have hnew : IsValid "new" := by decide
  intro s hs
  rcases List.mem_cons.mp hs with rfl | hs
  · exact hlabelled hverb
  · cases purpose with
    | read =>
      rw [parameters, List.map_singleton, List.mem_singleton] at hs
      exact hs ▸ hrecord
    | write mode =>
      rw [parameters, List.map_cons, List.map_singleton, List.mem_pair] at hs
      rcases hs with rfl | rfl
      · exact hlabelled hnew
      · exact hrecord

end Layout

/-! ## Names in products -/

namespace TypeProduct

section Named

variable {registry : Registry} {settings : Settings} {owner : Int} {t : TypeDef} {r r' : Resolver}
  {p : TypeProduct}

/-- The layouts of a type without a problem are made of requests of its members. -/
theorem IsAccepted.exists_request {render : Bool} (h : IsAccepted registry settings owner render t r r' p)
    (hr : r.MadeFor t.name p.extracted.packedMembers) {l : Layout Number} (hl : l ∈ p.layouts) :
    ∃ m ∈ t.members, ∃ d ∈ m.packing, Layout.ofDirective t.name m d = .ok l := by
  have hlayouts : ((resolveAll t p.extracted.packedMembers).outcome r).1 = .ok p.layouts := by
    rw [h.resolveAll_eq]
  obtain ⟨m, hm, hrequest⟩ := exists_request_of_resolveAll hr hlayouts l hl
  exact ⟨m, (TypeDef.of_extract h.extract_eq).packedMembers m hm, hrequest⟩

theorem IsAccepted.isSome_valueType?_of_madeFor {render : Bool}
    (h : IsAccepted registry settings owner render t r r' p)
    (hr : r.MadeFor t.name p.extracted.packedMembers) : ∀ l ∈ p.layouts, l.valueType?.isSome = true := by
  intro l hl
  obtain ⟨_, -, _, -, hmade⟩ := h.exists_request hr hl
  exact Layout.isSome_valueType?_of_ofDirective hmade

theorem IsAccepted.isLabel_label {render : Bool} (h : IsAccepted registry settings owner render t r r' p)
    (hr : r.MadeFor t.name p.extracted.packedMembers) (hnamed : t.IsNamed) :
    ∀ l ∈ p.layouts, IsLabel l.label.display := by
  intro l hl
  obtain ⟨m, hm, d, hd, hmade⟩ := h.exists_request hr hl
  rw [Layout.label_eq_of_ofDirective hmade]
  exact hnamed.isLabel_labelOf hm hd

/-- The parameter for the record has the name of the type in lower case. -/
theorem IsAccepted.isValid_source {render : Bool} (h : IsAccepted registry settings owner render t r r' p)
    (hnamed : t.IsNamed) : IsValid p.record.names.source := by
  obtain ⟨s, hs, hvalid⟩ := hnamed.name
  have hname : p.record.names.source = Text.lower s := by
    show Text.lower p.typeDef.name.display = Text.lower s
    rw [h.typeDef_eq, hs]
    rfl
  rw [hname]
  exact hvalid.lower

/-- An entry of the debug view of a type without a problem is made for a label of a request, or for a label of a
member without requests. -/
theorem IsAccepted.packed_or_ordinary {render : Bool} (h : IsAccepted registry settings owner render t r r' p)
    {e : DebugField} (he : e ∈ p.extracted.debugFields) :
    (∃ m ∈ t.members, ∃ f, ∃ d ∈ m.packing, ∃ label ∈ d.names m.name, t.IsPackedEntryFor m f (d, label) e)
      ∨ ∃ m ∈ t.members, ∃ f, ∃ label ∈ m.debugLabels, t.IsEntryFor (ordinaryEntry m f) label e := by
  obtain ⟨m, field, debugFields, hm, he⟩ :=
    exists_ordinaryIn_of_debugField h.extract_eq h.errors_eq_nil he
  obtain ⟨next, last, hentries⟩ := hm.debug_eq
  have hshows := shows_of_memberDebug (needsDebug_of_memberDebug hentries he) hentries
  exact (hshows.packed_or_ordinary he).imp (fun hpacked => ⟨m, hm.member, _, hpacked⟩)
    fun hordinary => ⟨m, hm.member, hordinary⟩

/-- In a type whose names are identifiers, and whose labels are identifiers but for blanks, the functions for packed
values declare names that are identifiers exactly if the labels have no blanks, but for that of the record, which
always is one. In the debug view the defines of packed values are identifiers, and the functions that are called are
so exactly if the labels have no blanks. The define of an ordinary member is one exactly if its label has a place in
a define. -/
theorem labelled_names_valid_iff (h : (build registry settings owner true t).run r = .ok (p, r'))
    (hfine : p.isFine = true) (hr : r.MadeFor t.name p.extracted.packedMembers) (hnamed : t.IsNamed) :
    (∀ purpose, ∃ ordinary packed, p.record.Writes p.fragments purpose ordinary packed
      ∧ List.Forall₂ (fun l f => l.IsDeclaredBy p.record.names purpose f
        ∧ ∀ s ∈ l.declaredNames p.record.names purpose,
          IsValid s ↔ s = p.record.names.source ∨ ' ' ∉ l.label.display.toList) p.layouts packed)
    ∧ ∀ e ∈ p.extracted.debugFields,
      (e.getter ≠ "" → IsValid e.define ∧ ∃ m ∈ t.members, ∃ d ∈ m.packing,
        e.getter = "Get" ++ (m.labelOf d).display
          ∧ (IsValid e.getter ↔ ' ' ∉ (m.labelOf d).display.toList))
      ∧ (e.getter = "" → ∃ m ∈ t.members, ∃ label, Value.text label ∈ m.debugLabels
          ∧ (IsValid e.define ↔ IsDefinable label)) := by
  have haccepted := isAccepted_of_run_build h hfine
  constructor
  · intro purpose
    have hwritten := haccepted.isWritten_of_valueTypes (haccepted.isSome_valueType?_of_madeFor hr)
    obtain ⟨ordinary, packed, hwrites⟩ := hwritten.functions purpose
    have hdeclared := hwrites.arePacked.imp fun _ _ => Layout.isDeclaredBy_of_packedFunction
    have hlabelled := (List.forall₂_and_left _ _).mpr ⟨haccepted.isLabel_label hr hnamed, hdeclared⟩
    refine ⟨ordinary, packed, hwrites, hlabelled.imp fun l f ⟨hlabel, hf⟩ => ⟨hf, ?_⟩⟩
    exact Layout.isValid_declaredNames_iff (haccepted.isValid_source hnamed) hlabel
  · intro e he
    rcases haccepted.packed_or_ordinary he with ⟨m, hm, f, d, hd, label, hlabel, hentry⟩
      | ⟨m, hm, f, label, hlabel, hentry⟩
    · obtain ⟨hdefine, hgetter⟩ := hnamed.names_of_packedEntry hm hd hlabel hentry
      have hget : IsValid "Get" := by decide
      have hiff := IsLabel.isValid_append_iff hget (hnamed.isLabel_labelOf hm hd)
      refine ⟨fun _ => ⟨hdefine, m, hm, d, hd, hgetter, hgetter ▸ hiff⟩, fun hempty => ?_⟩
      rw [hgetter, String.append_eq_empty_iff] at hempty
      exact absurd hempty.1 (by decide)
    · refine ⟨fun hgetter => absurd hentry.getter_eq_empty hgetter, fun _ => ?_⟩
      obtain ⟨shown, rfl, hiff⟩ := hnamed.isValid_define_iff (fun _ _ => rfl) hentry
      exact ⟨m, hm, shown, hlabel, hiff⟩

end Named

/-- Some bits of a word under a label, shown in the debug view. -/
def shownBits (label : String) : TypeDef where
  name := "GBuffer"
  fullName := "Deferred.GBuffer"
  needsDebug := true
  members := [
    { name := "normal", type := "uint",
      packing := [{ scheme := "PackedUint", width := some 8, labels := [label] }] }]

theorem isNamed_shownBits {label : String} (h : IsLabel label) : (shownBits label).IsNamed where
  name := ⟨"GBuffer", rfl, by decide⟩
  fullName := ⟨"Deferred.GBuffer", rfl, by decide⟩
  members := by
    simp only [shownBits, List.mem_singleton, forall_eq]
    exact ⟨"normal", rfl, by decide⟩
  labels := by
    simp only [shownBits, List.mem_singleton, forall_eq]
    exact h

/-- What a type of some bits gives, as far as their label goes into it. -/
structure IsOfShownBits (label : String) (p : TypeProduct) : Prop where
  isFine : p.isFine = true
  isNamed : (shownBits label).IsNamed
  labels_eq : p.layouts.map (·.label.display) = [label]

/-- Labels without blanks and with them, and the defines of the entries that show them. -/
def shownLabels : List (String × String) :=
  [("Normal", "DEBUGVIEW_GBUFFER_NORMAL"), ("Normal View Space", "DEBUGVIEW_GBUFFER_NORMAL_VIEW_SPACE")]

theorem build_shownBits : ∀ shown ∈ shownLabels,
    (fun q => (q.1.isFine, q.1.layouts.map (·.label.display),
          q.1.extracted.debugFields.map fun e => (e.define, e.getter)))
        <$> (build ⟨[], []⟩ plainSettings 0 true (shownBits shown.1)).run {}
      = .ok (true, [shown.1], [(shown.2, "Get" ++ shown.1)]) := by
  decide +kernel

theorem exists_of_shownBits (label define : String) (h : (label, define) ∈ shownLabels) (hlabel : IsLabel label) :
    ∃ p r', (build ⟨[], []⟩ plainSettings 0 true (shownBits label)).run {} = .ok (p, r') ∧ IsOfShownBits label p
      ∧ p.extracted.debugFields.map (fun e => (e.define, e.getter)) = [(define, "Get" ++ label)] := by
  obtain ⟨⟨p, r'⟩, hbuild, hgiven⟩ := exists_of_map_eq_ok (build_shownBits _ h)
  simp only [Prod.mk.injEq] at hgiven
  obtain ⟨hfine, hlabels, hdebug⟩ := hgiven
  exact ⟨p, r', hbuild, ⟨hfine, isNamed_shownBits hlabel, hlabels⟩, hdebug⟩

/-- All names for bits under the label of a normal are identifiers. -/
theorem labelled_names_valid_of_normal :
    ∃ p r', (build ⟨[], []⟩ plainSettings 0 true (shownBits "Normal")).run {} = .ok (p, r')
      ∧ IsOfShownBits "Normal" p
      ∧ p.extracted.debugFields.map (fun e => (e.define, e.getter)) = [("DEBUGVIEW_GBUFFER_NORMAL", "GetNormal")]
      ∧ (∀ purpose, ∃ ordinary packed, p.record.Writes p.fragments purpose ordinary packed
        ∧ packed.length = 1 ∧ ∀ f ∈ packed, IsValid f.name)
      ∧ ∀ e ∈ p.extracted.debugFields, IsValid e.define ∧ IsValid e.getter := by
  obtain ⟨p, r', hbuild, hof, hdebug⟩ :=
    exists_of_shownBits "Normal" "DEBUGVIEW_GBUFFER_NORMAL" (by decide) (by decide)
  obtain ⟨hfunctions, hentries⟩ :=
    labelled_names_valid_iff hbuild hof.isFine (fun e he => by simp at he) hof.isNamed
  refine ⟨p, r', hbuild, hof, hdebug, fun purpose => ?_, fun e he => ?_⟩
  · obtain ⟨ordinary, packed, hwrites, hall⟩ := hfunctions purpose
    have hlength : p.layouts.length = 1 := by simpa using congrArg List.length hof.labels_eq
    refine ⟨ordinary, packed, hwrites, hall.length_eq.symm.trans hlength, fun f hf => ?_⟩
    obtain ⟨l, hl, hdeclared, hvalid⟩ := exists_mem_of_forall₂ hall hf
    have hlabel : l.label.display ∈ ["Normal"] := hof.labels_eq ▸ List.mem_map.mpr ⟨l, hl, rfl⟩
    rw [hdeclared.name_eq, hvalid _ List.mem_cons_self, List.mem_singleton.mp hlabel]
    exact Or.inr (by decide)
  · have hnames : (e.define, e.getter) ∈ [("DEBUGVIEW_GBUFFER_NORMAL", "GetNormal")] :=
      hdebug ▸ List.mem_map.mpr ⟨e, he, rfl⟩
    obtain ⟨-, hgetter⟩ := Prod.mk.inj (List.mem_singleton.mp hnames)
    obtain ⟨hdefine, m, -, d, -, hlabel, hiff⟩ := (hentries e he).1 (by rw [hgetter]; decide)
    have hnormal : (m.labelOf d).display = "Normal" :=
      (String.append_right_inj "Get").mp (hlabel.symm.trans hgetter)
    exact ⟨hdefine, hiff.mpr (by rw [hnormal]; decide)⟩

/-- The functions for bits under a label with blanks have blanks in their names, and so has the function that the debug
view calls, while the define has none. -/
theorem labelled_names_keep_blanks :
    ∃ p r', (build ⟨[], []⟩ plainSettings 0 true (shownBits "Normal View Space")).run {} = .ok (p, r')
      ∧ IsOfShownBits "Normal View Space" p ∧ IsLabel "Normal View Space"
      ∧ p.extracted.debugFields.map (fun e => (e.define, e.getter))
        = [("DEBUGVIEW_GBUFFER_NORMAL_VIEW_SPACE", "GetNormal View Space")]
      ∧ (∀ purpose, ∃ ordinary packed, p.record.Writes p.fragments purpose ordinary packed
        ∧ packed.map (·.name) = [purpose.verb ++ "Normal View Space"])
      ∧ ¬ IsValid "GetNormal View Space" ∧ ¬ IsValid "SetNormal View Space" ∧ ¬ IsValid "InitNormal View Space" := by
  have hblanks : IsLabel "Normal View Space" := by decide
  obtain ⟨p, r', hbuild, hof, hdebug⟩ :=
    exists_of_shownBits "Normal View Space" "DEBUGVIEW_GBUFFER_NORMAL_VIEW_SPACE" (by decide) hblanks
  refine ⟨p, r', hbuild, hof, hblanks, hdebug, fun purpose => ?_, by decide, by decide, by decide⟩
  obtain ⟨ordinary, packed, hwrites, -, hnames, -⟩ :=
    (isAccepted_of_run_build hbuild hof.isFine).exists_functions Resolver.isMade_empty purpose
  refine ⟨ordinary, packed, hwrites, hnames.trans ?_⟩
  have hlabelled := congrArg (List.map (purpose.verb ++ ·)) hof.labels_eq
  rwa [List.map_map] at hlabelled

end TypeProduct

end ShaderRecords
