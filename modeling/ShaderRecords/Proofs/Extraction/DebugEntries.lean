/-
ShaderRecords.Proofs.Extraction.DebugEntries — which entries of the debug view a member gets.

A member gets one entry for each label under which it is shown, in the order of the labels
(`forall₂_of_memberDebug`): an ordinary member for the labels of its surface, a member that stores packed values
for the labels of each of its requests.
-/
import ShaderRecords.Proofs.Extraction.Yields
import ShaderRecords.Proofs.Storage.Resolution

namespace ShaderRecords

section Entries

variable {t : TypeDef} {m : Member} {next last : Value} {es : List DebugField}

/-- Whether an entry is made for a label. -/
def TypeDef.IsEntryFor (t : TypeDef) (make : String → Value → DebugField) (label : Value) (e : DebugField) :
    Prop :=
  ∃ full shown id, t.fullName.textParts = .ok full ∧ label.textParts = .ok shown
    ∧ e = make (Identifier.ofDebugEntry full shown) id

/-- The first label gets the number that is given, and the others the numbers behind it. -/
theorem exists_of_debugEntries_cons {make : String → Value → DebugField} {label : Value} {labels : List Value}
    (h : debugEntries t next make (label :: labels) = .ok (es, last)) :
    ∃ full shown following rest, t.fullName.textParts = .ok full ∧ label.textParts = .ok shown
      ∧ nextId next = .ok following ∧ debugEntries t following make labels = .ok (rest, last)
      ∧ es = make (Identifier.ofDebugEntry full shown) next :: rest := by
  obtain ⟨full, hfull, h⟩ := bind_eq_ok_iff.mp h
  obtain ⟨shown, hshown, h⟩ := bind_eq_ok_iff.mp h
  obtain ⟨following, hfollowing, h⟩ := bind_eq_ok_iff.mp h
  obtain ⟨_, -, h⟩ := bind_eq_ok_iff.mp h
  obtain ⟨⟨rest, last'⟩, hrest, h⟩ := bind_eq_ok_iff.mp h
  obtain ⟨rfl, rfl⟩ := Prod.mk.inj (Except.ok.inj h)
  exact ⟨full, shown, following, rest, hfull, hshown, hfollowing, hrest, rfl⟩

theorem forall₂_of_debugEntries {make : String → Value → DebugField} {labels : List Value}
    (h : debugEntries t next make labels = .ok (es, last)) : List.Forall₂ (t.IsEntryFor make) labels es := by
  induction labels generalizing next es with
  | nil =>
    obtain ⟨rfl, -⟩ := Prod.mk.inj (Except.ok.inj h)
    exact .nil
  | cons label labels ih =>
    obtain ⟨full, shown, following, rest, hfull, hshown, -, hrest, rfl⟩ := exists_of_debugEntries_cons h
    exact .cons ⟨full, shown, next, hfull, hshown, rfl⟩ (ih hrest)

/-- The entry of an ordinary member. -/
def ordinaryEntry (m : Member) (f : Field) (define : String) (id : Value) : DebugField where
  define := define
  id := id
  field := m.name
  category := .ofShape f.kind f.rows.toInt f.cols.toInt
  isDirection := (m.surface.getD {}).isDirection
  srgb := (m.surface.getD {}).srgb
  checkNormalized := (m.surface.getD {}).checkNormalized
  guard := (m.surface.getD {}).guard

/-- The entry of a packed value. -/
def packedEntry (m : Member) (f : Option Field) (scheme : Option Scheme) (d : Directive) (define : String)
    (id : Value) : DebugField where
  define := define
  id := id
  field := m.name
  category := packedCategory scheme d f
  getter := "Get" ++ ((d.names m.name).headD m.name).display
  isDirection := d.isDirection
  srgb := d.srgb
  checkNormalized := d.checkNormalized
  guard := d.guard

/-- The labels of a member's packed values, each with its request. -/
def Member.packedLabels (m : Member) (ds : List Directive) : List (Directive × Value) :=
  ds.flatMap fun d => (d.names m.name).map fun label => (d, label)

/-- Whether an entry is that of a packed value, made for one of its labels. -/
def TypeDef.IsPackedEntryFor (t : TypeDef) (m : Member) (f : Option Field) (p : Directive × Value)
    (e : DebugField) : Prop :=
  ∃ scheme, Scheme.ofValue? p.1.scheme = .ok scheme ∧ t.IsEntryFor (packedEntry m f scheme p.1) p.2 e

/-- The labels of the first request get the numbers from the given one on, and those of the others the numbers
behind them. -/
theorem exists_of_packedDebug_cons {f : Option Field} {d : Directive} {ds : List Directive}
    (h : packedDebug t m f next (d :: ds) = .ok (es, last)) :
    ∃ scheme entries following rest, Scheme.ofValue? d.scheme = .ok scheme
      ∧ debugEntries t next (packedEntry m f scheme d) (d.names m.name) = .ok (entries, following)
      ∧ packedDebug t m f following ds = .ok (rest, last) ∧ es = entries ++ rest := by
  obtain ⟨scheme, hscheme, h⟩ := bind_eq_ok_iff.mp h
  obtain ⟨⟨entries, following⟩, hentries, h⟩ := bind_eq_ok_iff.mp h
  obtain ⟨⟨rest, last'⟩, hrest, h⟩ := bind_eq_ok_iff.mp h
  obtain ⟨rfl, rfl⟩ := Prod.mk.inj (Except.ok.inj h)
  exact ⟨scheme, entries, following, rest, hscheme, hentries, hrest, rfl⟩

theorem forall₂_of_packedDebug {f : Option Field} {ds : List Directive}
    (h : packedDebug t m f next ds = .ok (es, last)) :
    List.Forall₂ (t.IsPackedEntryFor m f) (m.packedLabels ds) es := by
  induction ds generalizing next es with
  | nil =>
    obtain ⟨rfl, -⟩ := Prod.mk.inj (Except.ok.inj h)
    exact .nil
  | cons d ds ih =>
    obtain ⟨scheme, entries, following, rest, hscheme, hentries, hrest, rfl⟩ := exists_of_packedDebug_cons h
    have hfirst : List.Forall₂ (t.IsPackedEntryFor m f) ((d.names m.name).map fun label => (d, label)) entries :=
      List.forall₂_map_left_iff.mpr
        ((forall₂_of_debugEntries hentries).imp fun _ _ hentry => ⟨scheme, hscheme, hentry⟩)
    exact List.rel_append hfirst (ih hrest)

/-- The entries of a member of a type with a debug view. -/
inductive Member.Shows (t : TypeDef) (m : Member) : Option Field → List DebugField → Prop
  | packed {f : Option Field} {es : List DebugField} (hpacking : m.packing ≠ [])
      (hentries : List.Forall₂ (t.IsPackedEntryFor m f) (m.packedLabels m.packing) es) : Shows t m f es
  | ordinary {f : Field} {es : List DebugField} (hpacking : m.packing = [])
      (hentries : List.Forall₂ (t.IsEntryFor (ordinaryEntry m f)) m.debugLabels es) : Shows t m (some f) es
  | nothing (hpacking : m.packing = []) : Shows t m none []

/-- A member has entries only in a type with a debug view: those of its requests or, if it has none, of its field. -/
theorem memberDebug_cases {f : Option Field} (h : memberDebug t next m f = .ok (es, last)) :
    (t.needsDebug = true ∧ m.packing ≠ [] ∧ packedDebug t m f next m.packing = .ok (es, last))
      ∨ (t.needsDebug = true ∧ m.packing = []
        ∧ ∃ field, f = some field ∧ ordinaryDebug t next m field = .ok (es, last))
      ∨ (t.needsDebug = false ∨ m.packing = [] ∧ f = none) ∧ es = [] ∧ last = next := by
  have hnothing (h : Except.ok ([], next) = Except.ok (ε := Breakdown) (es, last)) : es = [] ∧ last = next :=
    (Prod.mk.inj (Except.ok.inj h)).imp Eq.symm Eq.symm
  unfold memberDebug at h
  split at h
  next hnone => exact .inr (.inr ⟨.inl (by simpa using hnone), hnothing h⟩)
  next hdebug =>
    have hdebug : t.needsDebug = true := by simpa using hdebug
    split at h
    next hpacking => exact .inl ⟨hdebug, by simpa using hpacking, h⟩
    next hpacking =>
      have hnil : m.packing = [] := by simpa using hpacking
      split at h
      next field => exact .inr (.inl ⟨hdebug, hnil, field, rfl, h⟩)
      next => exact .inr (.inr ⟨.inr ⟨hnil, rfl⟩, hnothing h⟩)

theorem shows_of_memberDebug {f : Option Field} (hdebug : t.needsDebug = true)
    (h : memberDebug t next m f = .ok (es, last)) : m.Shows t f es := by
  obtain ⟨-, hpacking, hentries⟩ | ⟨-, hnil, field, rfl, hentries⟩ | ⟨hnone | ⟨hnil, rfl⟩, rfl, -⟩ :=
    memberDebug_cases h
  · exact .packed hpacking (forall₂_of_packedDebug hentries)
  · exact .ordinary hnil (forall₂_of_debugEntries hentries)
  · cases hnone.symm.trans hdebug
  · exact .nothing hnil

/-- Only the members of a type with a debug view have entries. -/
theorem needsDebug_of_memberDebug {f : Option Field} (h : memberDebug t next m f = .ok (es, last))
    {e : DebugField} (he : e ∈ es) : t.needsDebug = true := by
  obtain ⟨hdebug, -⟩ | ⟨hdebug, -⟩ | ⟨-, rfl, -⟩ := memberDebug_cases h
  · exact hdebug
  · exact hdebug
  · simp at he

/-- An entry is made for a label of a request of its member, or for a label of a member without requests. -/
theorem Member.Shows.packed_or_ordinary {f : Option Field} (h : m.Shows t f es) {e : DebugField} (he : e ∈ es) :
    (∃ d ∈ m.packing, ∃ label ∈ d.names m.name, t.IsPackedEntryFor m f (d, label) e)
      ∨ ∃ field, ∃ label ∈ m.debugLabels, t.IsEntryFor (ordinaryEntry m field) label e := by
  cases h with
  | packed _ hentries =>
    obtain ⟨⟨d, label⟩, hlabel, hentry⟩ := exists_mem_of_forall₂ hentries he
    obtain ⟨d, hd, hlabel⟩ := List.mem_flatMap.mp hlabel
    obtain ⟨label, hname, heq⟩ := List.mem_map.mp hlabel
    exact Or.inl ⟨d, hd, label, hname, heq ▸ hentry⟩
  | ordinary _ hentries =>
    obtain ⟨label, hlabel, hentry⟩ := exists_mem_of_forall₂ hentries he
    exact Or.inr ⟨_, label, hlabel, hentry⟩
  | nothing => simp at he

/-- The entry of an ordinary member names no function. -/
theorem TypeDef.IsEntryFor.getter_eq_empty {field : Field} {label : Value} {e : DebugField}
    (h : t.IsEntryFor (ordinaryEntry m field) label e) : e.getter = "" := by
  obtain ⟨full, shown, id, -, -, rfl⟩ := h
  rfl

/-- An entry that names a function is made for a request of its member. -/
theorem Member.Shows.exists_request {f : Option Field} (h : m.Shows t f es) {e : DebugField} (he : e ∈ es)
    (hgetter : e.getter ≠ "") : ∃ d ∈ m.packing, ∃ label, t.IsPackedEntryFor m f (d, label) e := by
  rcases h.packed_or_ordinary he with ⟨d, hd, label, -, hentry⟩ | ⟨field, label, -, hentry⟩
  · exact ⟨d, hd, label, hentry⟩
  · exact absurd hentry.getter_eq_empty hgetter

end Entries

end ShaderRecords
