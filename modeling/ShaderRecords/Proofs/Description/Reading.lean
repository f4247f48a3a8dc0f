/-
ShaderRecords.Proofs.Description.Reading — what is read from documents that follow the schema.

Reading is lenient and keeps many parts as values of the document, so that later steps could meet a value of
any kind. This module says which kinds are left when the document follows the schema: `Member.Checked`,
`TypeDef.Checked` and the like say of a part that its names are texts and that what later steps use as a
text is one or is missing. `Description.gives_ofValue` says that such a document is read, that all of its
parts are checked, and that its types are called as they are in the document.

Ends of ranges are the one part that the schema does not settle: a whole number may be too large for a
floating-point number. `Value.RangesConvert` says of a document that none is.
-/
import ShaderRecords.Description.Reader
import ShaderRecords.Proofs.Schema.Acceptance
import ShaderRecords.Schema.Document

namespace ShaderRecords

/-! ## Parts of documents -/

namespace Value

/-- Whether a value is a text. -/
def IsText (v : Value) : Prop :=
  ∃ t, v = .text t

/-- Whether a value is a text or missing. -/
def IsTextOrNull (v : Value) : Prop :=
  v = .null ∨ v.IsText

/-- The value under a key of a map; `null` where there is none. -/
def part (key : String) : Value → Value
  | .map es => Entries.get es key
  | _ => .null

/-- The items of the list under a key of a map. -/
def itemsUnder (key : String) (v : Value) : List Value :=
  (v.part key).asItems

/-- The ends of all ranges of a member. -/
def rangeEnds (member : Value) : List Value :=
  (member.itemsUnder "packing").flatMap (itemsUnder "range")

/-- The types of a document. -/
def typesOf (doc : Value) : List Value :=
  (doc.itemsUnder "sources").flatMap (itemsUnder "types")

/-- The members of the compounds and types of a document. -/
def membersOf (doc : Value) : List Value :=
  (doc.itemsUnder "compounds").flatMap (itemsUnder "fields")
    ++ doc.typesOf.flatMap (itemsUnder "members")

/-- The names of the types of a document. -/
def typeNames (doc : Value) : List Value :=
  doc.typesOf.map (part "name")

/-- Whether a value is no whole number that is too large for a floating-point number. -/
def Converts (v : Value) : Prop :=
  ∀ n, v = .int n → ∃ x, Number.floatOfInt n = .ok x

/-- Whether no end of a range of a document is too large for a floating-point number. -/
def RangesConvert (doc : Value) : Prop :=
  ∀ member ∈ doc.membersOf, ∀ v ∈ member.rangeEnds, v.Converts

end Value

/-! ## Values used as texts -/

namespace Value.IsText

variable {v : Value}

theorem gives_asText (h : v.IsText) : Gives v.asText fun _ => True := by
  obtain ⟨s, rfl⟩ := h
  exact gives_ok trivial

theorem gives_textParts (h : v.IsText) : Gives v.textParts fun _ => True := by
  obtain ⟨s, rfl⟩ := h
  exact gives_ok trivial

theorem gives_asKey (h : v.IsText) : Gives v.asKey (· = v) := by
  obtain ⟨s, rfl⟩ := h
  exact gives_ok rfl

end Value.IsText

theorem Value.eq_text_of_text? {v : Value} {s : String} (h : v.text? = some s) : v = .text s := by
  cases v with
  | text _ => exact congrArg text (Option.some.inj h)
  | null | bool _ | int _ | float _ | list _ | map _ => simp [text?] at h

theorem Value.eq_text_of_textParts {v : Value} {s : String} (h : v.textParts = .ok s) : v = .text s := by
  cases v with
  | text _ => exact congrArg text (Except.ok.inj h)
  | null | bool _ | int _ | float _ | list _ | map _ => simp [textParts] at h

theorem Value.eq_text_of_asText {v : Value} {s : String} (h : v.asText = .ok s) : v = .text s := by
  cases v with
  | text _ => exact congrArg text (Except.ok.inj h)
  | null | bool _ | int _ | float _ | list _ | map _ => simp [asText] at h

theorem Value.display_of_asText {v : Value} {s : String} (h : v.asText = .ok s) : v.display = s := by
  cases v with
  | text _ => exact Except.ok.inj h
  | null | bool _ | int _ | float _ | list _ | map _ => simp [asText] at h

/-- A value that can stand as a key stands there itself. -/
theorem Value.eq_of_asKey {v key : Value} (h : v.asKey = .ok key) : v = key := by
  unfold asKey at h
  split at h
  · exact Except.ok.inj h
  · simp at h

/-! ## Entries that follow a schema -/

namespace Schema

variable {v : Value}

theorem accepts_text : text.accepts v = true ↔ v.IsText := by
  rw [text, accepts_ofKind, holds_string, Value.IsText]

theorem isText_of_accepts_someText (h : someText.accepts v = true) : v.IsText := by
  rw [someText, accepts_cons, Rule.admits_kinds_singleton, holds_string] at h
  exact h.1

theorem accepts_whole_of_wholeFrom {n : Int} (h : (wholeFrom n).accepts v = true) :
    whole.accepts v = true := by
  rw [wholeFrom, accepts_cons] at h
  rw [whole, ofKind, accepts_singleton]
  exact h.1

namespace Fits

variable {required : List String} {known : List (String × Schema)} {es : Entries} (key : String)
  {s : Schema}

/-- What stands under a known key follows the schema of the key, if something stands there. -/
theorem get_or_null (h : Fits required known es) (hknown : (key, s) ∈ known) :
    es.get key = .null ∨ s.accepts (es.get key) = true := by
  rw [Entries.get, Ordered.find?]
  cases hfound : List.lookup key es with
  | none => exact Or.inl rfl
  | some w => exact Or.inr (h.known (key, s) hknown w hfound)

theorem get (h : Fits required known es) (hrequired : key ∈ required) (hknown : (key, s) ∈ known) :
    s.accepts (es.get key) = true := by
  obtain ⟨w, hw⟩ := h.required key hrequired
  rw [Entries.get, Ordered.find?, hw]
  exact h.known (key, s) hknown w hw

variable {key} in
theorem isTextOrNull (h : Fits required known es) (hknown : (key, text) ∈ known) :
    (es.get key).IsTextOrNull :=
  (h.get_or_null key hknown).imp_right accepts_text.mp

/-- A list under a known key has items that follow the schema of items, and taking them one by one does not
break down. -/
theorem elements (h : Fits required known es) (hknown : (key, listOf s) ∈ known) :
    (es.get key).elementsIfAny = .ok (es.get key).asItems
      ∧ ∀ w ∈ (es.get key).asItems, s.accepts w = true := by
  rcases h.get_or_null key hknown with hnull | hlist
  · rw [hnull]
    exact ⟨rfl, by simp [Value.asItems]⟩
  · obtain ⟨items, hitems, hall⟩ := accepts_listOf.mp hlist
    rw [hitems]
    refine ⟨?_, hall⟩
    cases items <;> rfl

/-- The items under a known key are read if each of them is. -/
theorem gives_readItems {α : Type} {read : Value → Except Breakdown α} {P : Value → α → Prop}
    (h : Fits required known es) (hknown : (key, listOf s) ∈ known)
    (hread : ∀ w ∈ (es.get key).asItems, s.accepts w = true → Gives (read w) (P w)) :
    Gives (es.readItems key read) (List.Forall₂ P (es.get key).asItems) := by
  obtain ⟨helements, hall⟩ := h.elements key hknown
  rw [Entries.readItems, helements, ok_bind]
  exact Gives.forall₂ fun w hw => hread w hw (hall w hw)

theorem gives_readAll {α : Type} {read : Value → Except Breakdown α} {P : α → Prop}
    (h : Fits required known es) (hknown : (key, listOf s) ∈ known)
    (hread : ∀ w ∈ (es.get key).asItems, s.accepts w = true → Gives (read w) P) :
    Gives (es.readItems key read) fun xs => ∀ x ∈ xs, P x := by
  refine (h.gives_readItems key (P := fun _ => P) hknown hread).imp fun xs hxs x hx => ?_
  obtain ⟨w, -, hP⟩ := exists_mem_of_forall₂ hxs hx
  exact hP

end Fits

end Schema

/-! ## Whole numbers and ranges -/

/-- A whole number of the schema is read as one. -/
theorem gives_toWhole? {v : Value} (h : v = .null ∨ Schema.whole.accepts v = true) :
    Gives v.toWhole? fun _ => True := by
  rcases h with rfl | h
  · exact gives_ok trivial
  rw [Schema.whole, Schema.accepts_ofKind] at h
  match v with
  | .int n => exact gives_ok trivial
  | .float x =>
    have hwhole : ValueKind.isWhole x = true := h
    unfold ValueKind.isWhole at hwhole
    cases hx : Binary64.ofFloat x with
    | finite negative m e =>
      rw [Value.toWhole?, Number.truncate, hx]
      exact gives_ok trivial
    | nan => simp [hx, Binary64.rat?] at hwhole
    | infinite negative => simp [hx, Binary64.rat?] at hwhole

/-- A value that counts as equal to a whole number is read as one. -/
theorem gives_toWhole?_of_equalTo {n : Int} {v : Value} (h : (Value.int n).equalTo v = true) :
    Gives v.toWhole? fun _ => True := by
  match v with
  | .null | .int _ | .bool _ | .text _ | .list _ | .map _ => exact gives_ok trivial
  | .float x =>
    have hsame : Number.compareInt n x = some .eq := by
      simpa [Value.equalTo, Value.same, Value.number?, Number.same] using h
    unfold Number.compareInt at hsame
    cases hx : Binary64.ofFloat x with
    | finite negative m e =>
      rw [Value.toWhole?, Number.truncate, hx]
      exact gives_ok trivial
    | nan => simp [hx] at hsame
    | infinite negative => cases negative <;> simp [hx] at hsame

/-- The ends of a range are numbers, which are read unless they are too large. -/
theorem gives_readRange? {v : Value} (h : v = .null ∨ Schema.range.accepts v = true)
    (hends : ∀ w ∈ v.asItems, w.Converts) : Gives (readRange? v) fun _ => True := by
  rcases h with rfl | h
  · exact gives_ok trivial
  rw [Schema.range, Schema.accepts_cons, Schema.accepts_cons, Rule.admits_kinds_singleton,
    Schema.holds_array] at h
  obtain ⟨⟨items, rfl⟩, hitems, -⟩ := h
  have hfloats : ∀ w ∈ items, Gives w.toFloat fun _ => True := by
    intro w hw
    have hnumber := Schema.accepts_ofKind.mp (Rule.admits_items.mp hitems w hw)
    match w with
    | .int n =>
      obtain ⟨x, hx⟩ := hends _ hw n rfl
      refine ⟨x, ?_, trivial⟩
      simp only [Value.toFloat, Value.toNumber, Value.number?, ok_bind, Number.toFloat, hx]
    | .float x => exact gives_ok trivial
  exact (Gives.mapM hfloats).bind fun ends _ => gives_ok trivial

/-! ## Parts that are read -/

/-- A request whose scheme can be looked up. -/
structure Directive.Checked (d : Directive) : Prop where
  scheme : d.scheme.IsTextOrNull

/-- A member with a name that is a text, whose other parts can be used as texts. -/
structure Member.Checked (m : Member) : Prop where
  name : m.name.IsText
  element : m.element.IsTextOrNull
  packing : ∀ d ∈ m.packing, d.Checked

/-- A compound with a name that is a text. -/
structure Compound.Checked (c : Compound) : Prop where
  name : c.name.IsText

/-- A type with names that are texts and members that are checked. -/
structure TypeDef.Checked (t : TypeDef) : Prop where
  name : t.name.IsText
  fullName : t.fullName.IsText
  members : ∀ m ∈ t.members, m.Checked
  values : ∀ e ∈ t.values, e.1.IsText

/-- A binding whose names are texts. -/
structure Binding.Checked (b : Binding) : Prop where
  name : b.name.IsText
  target : b.target.IsTextOrNull
  innerType : b.innerType.IsTextOrNull

structure KeywordValue.Checked (k : KeywordValue) : Prop where
  name : k.name.IsText
  target : k.target.IsTextOrNull

structure Keyword.Checked (k : Keyword) : Prop where
  name : k.name.IsText
  target : k.target.IsTextOrNull
  values : ∀ v ∈ k.values, v.Checked

structure Kernel.Checked (k : Kernel) : Prop where
  name : k.name.IsText
  target : k.target.IsTextOrNull

/-- A source whose parts are checked. -/
structure Source.Checked (s : Source) : Prop where
  types : ∀ t ∈ s.types, t.Checked
  bindings : ∀ b ∈ s.bindings, b.Checked
  keywords : ∀ k ∈ s.keywords, k.Checked
  kernels : ∀ k ∈ s.kernels, k.Checked

theorem gives_entries {es : Entries} : Gives (Value.map es).entries (· = es) :=
  gives_ok rfl

theorem Directive.gives_ofValue {v : Value} (h : Schema.packing.accepts v = true)
    (hends : ∀ w ∈ v.itemsUnder "range", w.Converts) : Gives (Directive.ofValue v) Checked := by
  obtain ⟨es, rfl, hfits⟩ := Schema.accepts_record.mp h
  have hoffset := (hfits.get_or_null "offset" (s := Schema.wholeFrom 0) (by simp)).imp_right
    Schema.accepts_whole_of_wholeFrom
  have hwidth := hfits.get_or_null "width" (s := Schema.whole) (by simp)
  have hrange := hfits.get_or_null "range" (s := Schema.range) (by simp)
  refine gives_entries.bind ?_
  rintro _ rfl
  refine (gives_toWhole? hoffset).bind fun offset _ => ?_
  refine (gives_toWhole? hwidth).bind fun width _ => ?_
  refine (gives_readRange? hrange hends).bind fun range _ => gives_ok ⟨?_⟩
  exact hfits.isTextOrNull (by simp)

/-- How a member is shown is read from any map. -/
theorem Surface.gives_ofValue? {v : Value} (h : v = .null ∨ Schema.surface.accepts v = true) :
    Gives (Surface.ofValue? v) fun _ => True := by
  rcases h with rfl | h
  · exact gives_ok trivial
  · obtain ⟨es, rfl, -⟩ := Schema.accepts_record.mp h
    exact gives_ok trivial

theorem Member.gives_ofValue {v : Value} (h : Schema.member.accepts v = true)
    (hends : ∀ w ∈ v.rangeEnds, w.Converts) : Gives (Member.ofValue v) Checked := by
  obtain ⟨es, rfl, hfits⟩ := Schema.accepts_record.mp h
  have hsize := (hfits.get_or_null "array_size" (s := Schema.wholeFrom 1) (by simp)).imp_right
    Schema.accepts_whole_of_wholeFrom
  have hsurface := hfits.get_or_null "surface" (s := Schema.surface) (by simp)
  have hname := hfits.get "name" (s := Schema.someText) (by simp) (by simp)
  obtain ⟨-, hpacking⟩ := hfits.elements "packing" (s := Schema.packing) (by simp)
  refine gives_entries.bind ?_
  rintro _ rfl
  refine (gives_toWhole? hsize).bind fun arraySize _ => ?_
  refine (Surface.gives_ofValue? hsurface).bind fun surface _ => ?_
  refine (Gives.mapM (P := Directive.Checked) fun w hw => ?_).bind fun packing hchecked => gives_ok ?_
  · refine Directive.gives_ofValue (hpacking w hw) fun x hx => hends x ?_
    exact List.mem_flatMap.mpr ⟨w, hw, hx⟩
  · exact ⟨Schema.isText_of_accepts_someText hname, hfits.isTextOrNull (by simp), hchecked⟩

theorem Compound.gives_ofValue {v : Value} (h : Schema.compound.accepts v = true)
    (hends : ∀ member ∈ v.itemsUnder "fields", ∀ w ∈ member.rangeEnds, w.Converts) :
    Gives (Compound.ofValue v) Checked := by
  obtain ⟨es, rfl, hfits⟩ := Schema.accepts_record.mp h
  have hname := hfits.get "name" (s := Schema.text) (by simp) (by simp)
  refine gives_entries.bind ?_
  rintro _ rfl
  refine (hfits.gives_readAll "fields" (s := Schema.member) (P := Member.Checked) (by simp)
    fun w hw hmember => Member.gives_ofValue hmember (hends w hw)).bind fun fields _ => gives_ok ⟨?_⟩
  exact Schema.accepts_text.mp hname

/-- The values of an enumeration are read under their names. -/
theorem gives_readPairs {v : Value}
    (h : v = .null ∨ Schema.accepts [.kinds [.object], .additional [] Schema.whole] v = true) :
    Gives (readPairs v) fun pairs => ∀ e ∈ pairs, e.1.IsText := by
  rcases h with rfl | h
  · exact gives_ok (by simp)
  · rw [Schema.accepts_cons, Rule.admits_kinds_singleton, Schema.holds_object] at h
    obtain ⟨⟨es, rfl⟩, -⟩ := h
    cases es with
    | nil => exact gives_ok (by simp)
    | cons e es =>
      refine gives_ok fun pair hpair => ?_
      obtain ⟨⟨k, w⟩, -, rfl⟩ := List.mem_map.mp hpair
      exact ⟨k, rfl⟩

theorem isText_of_accepts_name {v : Value}
    (h : Schema.accepts [.kinds [.string], .pattern .name] v = true) : v.IsText := by
  rw [Schema.accepts_cons, Rule.admits_kinds_singleton, Schema.holds_string] at h
  exact h.1

/-- A value that gives way to a text is followed by a text. -/
theorem isText_orElse {v w : Value} (hv : v.IsTextOrNull) (hw : w.IsText) : (v.orElse w).IsText := by
  rw [Value.orElse]
  split
  next hpresent =>
    rcases hv with rfl | hv
    · simp [Value.isPresent] at hpresent
    · exact hv
  next => exact hw

theorem TypeDef.gives_ofValue {v : Value} (h : Schema.typeDef.accepts v = true)
    (hends : ∀ member ∈ v.itemsUnder "members", ∀ w ∈ member.rangeEnds, w.Converts) :
    Gives (TypeDef.ofValue v) fun t => t.Checked ∧ t.name = v.part "name" := by
  obtain ⟨es, rfl, hfits⟩ := Schema.accepts_record.mp h
  have hstart := hfits.get_or_null "param_defines_start" (s := Schema.whole) (by simp)
  have hregister := hfits.get_or_null "constant_register" (s := Schema.whole) (by simp)
  have hvalues := hfits.get_or_null "values"
    (s := [.kinds [.object], .additional [] Schema.whole]) (by simp)
  have hname := isText_of_accepts_name (hfits.get "name"
    (s := [.kinds [.string], .pattern .name]) (by simp) (by simp))
  have hfullName : (es.get "full_name").IsTextOrNull := hfits.isTextOrNull (by simp)
  have hfull := isText_orElse hfullName hname
  refine gives_entries.bind ?_
  rintro _ rfl
  refine (gives_toWhole? hstart).bind fun start _ => ?_
  refine (gives_toWhole? hregister).bind fun register _ => ?_
  refine (hfits.gives_readAll "members" (s := Schema.member) (P := Member.Checked) (by simp)
    fun w hw hmember => Member.gives_ofValue hmember (hends w hw)).bind fun members hmembers => ?_
  refine (gives_readPairs hvalues).bind fun values hpairs => gives_ok ?_
  exact ⟨⟨hname, hfull, hmembers, hpairs⟩, rfl⟩

theorem Binding.gives_ofValue {v : Value} (h : Schema.binding.accepts v = true) :
    Gives (Binding.ofValue v) Checked := by
  obtain ⟨es, rfl, hfits⟩ := Schema.accepts_record.mp h
  have hsize := (hfits.get_or_null "array_size" (s := Schema.wholeFrom 0) (by simp)).imp_right
    Schema.accepts_whole_of_wholeFrom
  have hname := hfits.get "name" (s := Schema.text) (by simp) (by simp)
  have hdimension : Gives (es.whole? "tex_dimension") fun _ => True := by
    rcases hfits.get_or_null "tex_dimension" (s := Schema.among [.int 1, .int 2, .int 3])
      (by simp) with hnull | hamong
    · exact gives_toWhole? (Or.inl hnull)
    · obtain ⟨w, hw, hequal⟩ := Rule.admits_among.mp (Schema.accepts_singleton.mp hamong)
      have hint : ∃ n, w = .int n := by
        simp only [List.mem_cons, List.not_mem_nil, or_false] at hw
        rcases hw with rfl | rfl | rfl <;> exact ⟨_, rfl⟩
      obtain ⟨n, rfl⟩ := hint
      exact gives_toWhole?_of_equalTo hequal
  refine gives_entries.bind ?_
  rintro _ rfl
  refine (gives_toWhole? hsize).bind fun arraySize _ => ?_
  refine hdimension.bind fun dimension _ => gives_ok ?_
  exact ⟨Schema.accepts_text.mp hname, hfits.isTextOrNull (by simp), hfits.isTextOrNull (by simp)⟩

/-- A value of a keyword is a text or has a name that is one. -/
theorem KeywordValue.checked_ofValue {v : Value}
    (h : Schema.accepts [.oneOf [Schema.text, Schema.named]] v = true) :
    (KeywordValue.ofValue v).Checked := by
  obtain ⟨s, hs, haccepts⟩ := Rule.admits_oneOf.mp (Schema.accepts_singleton.mp h)
  simp only [List.mem_cons, List.not_mem_nil, or_false] at hs
  rcases hs with rfl | rfl
  · obtain ⟨t, rfl⟩ := Schema.accepts_text.mp haccepts
    exact ⟨⟨t, rfl⟩, Or.inl rfl⟩
  · obtain ⟨es, rfl, hfits⟩ := Schema.accepts_record.mp haccepts
    have hname := hfits.get "name" (s := Schema.text) (by simp) (by simp)
    exact ⟨Schema.accepts_text.mp hname, hfits.isTextOrNull (by simp)⟩

theorem Keyword.gives_ofValue {v : Value} (h : Schema.keyword.accepts v = true) :
    Gives (Keyword.ofValue v) Checked := by
  obtain ⟨es, rfl, hfits⟩ := Schema.accepts_record.mp h
  have hname := hfits.get "name" (s := Schema.text) (by simp) (by simp)
  obtain ⟨-, hvalues⟩ := hfits.elements "values"
    (s := [.oneOf [Schema.text, Schema.named]]) (by simp)
  refine gives_entries.bind ?_
  rintro _ rfl
  refine gives_ok ⟨Schema.accepts_text.mp hname, hfits.isTextOrNull (by simp), ?_⟩
  intro value hvalue
  obtain ⟨w, hw, rfl⟩ := List.mem_map.mp hvalue
  exact KeywordValue.checked_ofValue (hvalues w hw)

theorem Kernel.gives_ofValue {v : Value} (h : Schema.named.accepts v = true) :
    Gives (Kernel.ofValue v) Checked := by
  obtain ⟨es, rfl, hfits⟩ := Schema.accepts_record.mp h
  have hname := hfits.get "name" (s := Schema.text) (by simp) (by simp)
  refine gives_entries.bind ?_
  rintro _ rfl
  exact gives_ok ⟨Schema.accepts_text.mp hname, hfits.isTextOrNull (by simp)⟩

theorem isPresent_of_accepts_someText {v : Value} (h : Schema.someText.accepts v = true) :
    v.isPresent = true := by
  rw [Schema.someText, Schema.accepts_cons, Rule.admits_kinds_singleton, Schema.holds_string,
    Schema.accepts_singleton] at h
  obtain ⟨⟨t, rfl⟩, hlength⟩ := h
  have hlong := Rule.admits_minLength.mp hlength
  have hne : t ≠ "" := by
    rintro rfl
    simp at hlong
  simpa [Value.isPresent] using hne

/-- A source is read with all of its types under the names that they have in the document. -/
theorem Source.gives_ofValue {v : Value} (h : Schema.source.accepts v = true)
    (hends : ∀ type ∈ v.itemsUnder "types", ∀ member ∈ type.itemsUnder "members",
      ∀ w ∈ member.rangeEnds, w.Converts) :
    Gives (Source.ofValue v) fun s =>
      s.Checked ∧ s.types.map (·.name) = (v.itemsUnder "types").map (Value.part "name") := by
  obtain ⟨es, rfl, hfits⟩ := Schema.accepts_record.mp h
  have hpath := isPresent_of_accepts_someText
    (hfits.get "path" (s := Schema.someText) (by simp) (by simp))
  unfold Source.ofValue
  refine gives_entries.orBreak.bind ?_
  rintro _ rfl
  simp only [hpath, Bool.not_true, Bool.false_eq_true, if_false]
  refine (hfits.gives_readItems "types" (s := Schema.typeDef)
    (P := fun w t => t.Checked ∧ t.name = w.part "name") (by simp) fun w hw htype =>
      TypeDef.gives_ofValue htype (hends w hw)).orBreak.bind fun types htypes => ?_
  refine (hfits.gives_readAll "bindings" (s := Schema.binding) (P := Binding.Checked) (by simp)
    fun _ _ => Binding.gives_ofValue).orBreak.bind fun bindings hbindings => ?_
  refine (hfits.gives_readAll "keywords" (s := Schema.keyword) (P := Keyword.Checked) (by simp)
    fun _ _ => Keyword.gives_ofValue).orBreak.bind fun keywords hkeywords => ?_
  refine (hfits.gives_readAll "kernels" (s := Schema.named) (P := Kernel.Checked) (by simp)
    fun _ _ => Kernel.gives_ofValue).orBreak.bind fun kernels hkernels => gives_ok ?_
  refine ⟨⟨fun t ht => ?_, hbindings, hkeywords, hkernels⟩, ?_⟩
  · obtain ⟨w, -, hchecked, -⟩ := exists_mem_of_forall₂ htypes ht
    exact hchecked
  · exact (map_eq_map_of_forall₂ (htypes.imp fun w t h => h.2.symm)).symm

/-! ## Names that types share -/

theorem same_text_iff {v : Value} (h : v.IsText) {t : String} :
    v.same (.text t) = true ↔ v = .text t := by
  obtain ⟨s, rfl⟩ := h
  simp [Value.same]

/-- Types with names that are texts pass the check when no two of them share a name; otherwise the first
type that has the name of an earlier one is told. -/
theorem checkTypeNames_of_isText {types : List (String × TypeDef)} (seen : List (Value × String))
    (htypes : ∀ e ∈ types, e.2.name.IsText) (hseen : ∀ e ∈ seen, e.1.IsText)
    (hdistinct : (seen.map (·.1)).Nodup) :
    ((seen.map (·.1) ++ types.map (·.2.name)).Nodup → checkTypeNames seen types = .ok ())
      ∧ (¬(seen.map (·.1) ++ types.map (·.2.name)).Nodup → ∃ name first second,
        checkTypeNames seen types = .error (.issue (.duplicateType name first second))) := by
  induction types generalizing seen with
  | nil => simpa [checkTypeNames] using hdistinct
  | cons e types ih =>
    obtain ⟨path, t⟩ := e
    obtain ⟨name, hname⟩ := htypes (path, t) (by simp)
    have hkey : liftM t.name.asKey = (.ok t.name : Except (Failure DocumentError) Value) := by
      rw [hname]
      rfl
    have hmoved : (seen.map (·.1) ++ ((path, t) :: types).map (·.2.name)).Nodup
        ↔ (((t.name, path) :: seen).map (·.1) ++ types.map (·.2.name)).Nodup :=
      List.perm_middle.nodup_iff
    rw [checkTypeNames, hkey, ok_bind, hmoved]
    cases hfound : seen.find? fun entry => entry.1.same t.name with
    | some entry =>
      obtain ⟨known, first⟩ := entry
      have hmem := List.mem_of_find?_eq_some hfound
      have hsame := List.find?_some hfound
      rw [hname, same_text_iff (hseen _ hmem), ← hname] at hsame
      have hin : t.name ∈ seen.map (·.1) := List.mem_map.mpr ⟨_, hmem, hsame⟩
      have hnot : ¬(((t.name, path) :: seen).map (·.1) ++ types.map (·.2.name)).Nodup := by
        intro h
        exact (List.nodup_cons.mp h).1 (List.mem_append_left _ hin)
      exact ⟨fun h => absurd h hnot, fun _ => ⟨t.name, first, path, rfl⟩⟩
    | none =>
      have hnotIn : t.name ∉ seen.map (·.1) := by
        intro hin
        obtain ⟨entry, hentry, heq⟩ := List.mem_map.mp hin
        have hdiffers := List.find?_eq_none.mp hfound entry hentry
        rw [hname, same_text_iff (hseen _ hentry), heq] at hdiffers
        exact hdiffers hname
      exact ih ((t.name, path) :: seen) (fun e he => htypes e (List.mem_cons_of_mem _ he))
        (List.forall_mem_cons.mpr ⟨⟨name, hname⟩, hseen⟩) (List.nodup_cons.mpr ⟨hnotIn, hdistinct⟩)

/-! ## Descriptions -/

theorem Value.eq_map_of_entries {v : Value} {es : Entries} (h : v.entries = .ok es) : v = .map es := by
  cases v with
  | map es' => rw [Except.ok.inj h]
  | _ => cases h

/-- A description is read from a map part by part, and the names of its types are checked. -/
theorem Description.ofValue_eq_ok_iff {doc : Value} {d : Description} : Description.ofValue doc = .ok d ↔
    ∃ (es : Entries) (items : List Value), doc = .map es ∧ Meta.ofValue (es.get "meta") = .ok d.info
      ∧ Defaults.ofValue (es.get "defaults") = .ok d.defaults
      ∧ es.readItems "compounds" Compound.ofValue = .ok d.compounds
      ∧ (es.get "sources").elementsIfAny = .ok items ∧ items.mapM Source.ofValue = .ok d.sources
      ∧ checkTypeNames [] (declaredTypes d.sources) = .ok () := by
  unfold Description.ofValue
  simp only [liftM_eq_orBreak, bind_eq_ok_iff, orBreak_eq_ok_iff, pure_eq_ok]
  constructor
  · rintro ⟨es, hes, info, hinfo, defaults, hdefaults, compounds, hcompounds, items, hitems, sources, hsources,
      ⟨⟩, hnames, hd⟩
    obtain rfl := Except.ok.inj hd
    exact ⟨es, items, Value.eq_map_of_entries hes, hinfo, hdefaults, hcompounds, hitems, hsources, hnames⟩
  · rintro ⟨es, items, rfl, hinfo, hdefaults, hcompounds, hitems, hsources, hnames⟩
    exact ⟨es, rfl, _, hinfo, _, hdefaults, _, hcompounds, items, hitems, _, hsources, (), hnames, rfl⟩

/-- Settings of a document whose number of a first debug entry can be counted on. -/
def Value.IsCount (v : Value) : Prop :=
  ∃ x, v.number? = some x

/-- A description whose parts are checked. -/
structure Description.Checked (d : Description) : Prop where
  debugStart : d.defaults.debugStart.IsCount
  compounds : ∀ c ∈ d.compounds, c.Checked
  sources : ∀ s ∈ d.sources, s.Checked

/-- What may be missing or a map with known keys gives entries that follow the schemas of their keys. -/
theorem gives_entriesAmong {required : List String} {known : List (String × Schema)} {v : Value}
    (h : v = .null ∨ (Schema.record required known).accepts v = true) :
    Gives (entriesAmong (known.map (·.1)) v) fun es =>
      ∀ e ∈ known, ∀ w, List.lookup e.1 es = some w → e.2.accepts w = true := by
  rcases h with rfl | h
  · exact gives_ok (by simp)
  · obtain ⟨es, rfl, hfits⟩ := Schema.accepts_record.mp h
    have hentries : Value.orElse (.map es) (.map []) = .map es := by
      cases es <;> rfl
    have hall : es.all (fun e => (known.map (·.1)).contains e.1) = true :=
      List.all_eq_true.mpr fun e he => List.contains_iff_mem.mpr (hfits.closed e he)
    rw [entriesAmong, hentries]
    simp only [hall, if_true]
    exact gives_ok hfits.known

theorem Defaults.gives_ofValue {v : Value} (h : v = .null ∨ Schema.defaults.accepts v = true) :
    Gives (Defaults.ofValue v) fun d => d.debugStart.IsCount := by
  refine (gives_entriesAmong h).bind fun es hes => gives_ok ?_
  cases hfound : Ordered.find? es "param_defines_start" with
  | none => exact ⟨.int 1, rfl⟩
  | some w =>
    have hwhole := hes ("param_defines_start", Schema.whole) (by simp) w hfound
    rw [Schema.whole, Schema.accepts_ofKind] at hwhole
    simp only [Option.getD_some]
    match w with
    | .int n => exact ⟨.int n, rfl⟩
    | .float x => exact ⟨.float x, rfl⟩

theorem Meta.gives_ofValue {v : Value} (h : v = .null ∨ Schema.info.accepts v = true) :
    Gives (Meta.ofValue v) fun _ => True :=
  (gives_entriesAmong h).bind fun _ _ => gives_ok trivial

/-- What is read before names are compared: all compounds and sources, checked, with the types under the
names that they have in the document. -/
theorem Description.ofValue_eq {doc : Value} (h : Schema.document.accepts doc = true)
    (hranges : doc.RangesConvert) :
    ∃ d : Description, d.Checked
      ∧ (d.sources.flatMap (·.types)).map (·.name) = doc.typeNames
      ∧ Description.ofValue doc = (checkTypeNames [] (declaredTypes d.sources) >>= fun _ => .ok d) := by
  obtain ⟨es, rfl, hfits⟩ := Schema.accepts_record.mp h
  obtain ⟨info, hinfo, -⟩ := Meta.gives_ofValue (hfits.get_or_null "meta" (by simp))
  obtain ⟨defaults, hdefaults, hcount⟩ :=
    Defaults.gives_ofValue (hfits.get_or_null "defaults" (by simp))
  obtain ⟨compounds, hcompounds, hcheckedCompounds⟩ :
      Gives (es.readItems "compounds" Compound.ofValue) fun cs => ∀ c ∈ cs, c.Checked :=
    hfits.gives_readAll "compounds" (s := Schema.compound) (by simp) fun w hw hcompound =>
      Compound.gives_ofValue hcompound fun m hm =>
        hranges m (List.mem_append_left _ (List.mem_flatMap.mpr ⟨w, hw, hm⟩))
  obtain ⟨helements, hall⟩ := hfits.elements "sources" (s := Schema.source) (by simp)
  obtain ⟨sources, hsources, hchecked⟩ := Gives.forall₂
    (f := Source.ofValue)
    (P := fun w s => s.Checked ∧ s.types.map (·.name) = (w.itemsUnder "types").map (Value.part "name"))
    fun w hw => Source.gives_ofValue (hall w hw) fun type htype m hm =>
      hranges m (List.mem_append_right _ (List.mem_flatMap.mpr
        ⟨type, List.mem_flatMap.mpr ⟨w, hw, htype⟩, hm⟩))
  refine ⟨⟨info, defaults, compounds, sources⟩, ⟨hcount, hcheckedCompounds, fun s hs => ?_⟩, ?_, ?_⟩
  · obtain ⟨w, -, hs, -⟩ := exists_mem_of_forall₂ hchecked hs
    exact hs
  · have hnames := map_eq_map_of_forall₂ (hchecked.imp fun w s h => h.2.symm)
    rw [Value.typeNames, Value.typesOf, List.map_flatMap, List.map_flatMap, List.flatMap_def,
      List.flatMap_def]
    exact congrArg List.flatten hnames.symm
  · simp only [Description.ofValue, Value.entries, liftM_eq_orBreak, orBreak_ok, ok_bind, hinfo, hdefaults,
      hcompounds, helements, hsources, pure_eq_ok]

/-- A document that follows the schema is read as a description, unless two of its types share a name: then
one of them is told. -/
theorem Description.ofValue_of_accepts {doc : Value} (h : Schema.document.accepts doc = true)
    (hranges : doc.RangesConvert) :
    (doc.typeNames.Nodup → ∃ d, Description.ofValue doc = .ok d)
      ∧ (¬doc.typeNames.Nodup → ∃ name first second,
        Description.ofValue doc = .error (.issue (.duplicateType name first second)))
      ∧ ∀ d, Description.ofValue doc = .ok d → d.Checked := by
  obtain ⟨d, hchecked, hnames, heq⟩ := Description.ofValue_eq h hranges
  have hdeclared : (declaredTypes d.sources).map (·.2.name) = doc.typeNames := by
    rw [← hnames, declaredTypes, List.map_flatMap, List.map_flatMap]
    simp only [List.map_map, Function.comp_def]
  have htexts : ∀ e ∈ declaredTypes d.sources, e.2.name.IsText := by
    intro e he
    obtain ⟨s, hs, he⟩ := List.mem_flatMap.mp he
    obtain ⟨t, ht, rfl⟩ := List.mem_map.mp he
    exact ((hchecked.sources s hs).types t ht).name
  obtain ⟨hfine, htold⟩ := checkTypeNames_of_isText [] htexts (by simp) (by simp)
  rw [List.map_nil, List.nil_append, hdeclared] at hfine htold
  refine ⟨fun hnodup => ⟨d, ?_⟩, fun hshared => ?_, fun d' hd' => ?_⟩
  · rw [heq, hfine hnodup, ok_bind]
  · obtain ⟨name, first, second, hname⟩ := htold hshared
    exact ⟨name, first, second, by rw [heq, hname, error_bind]⟩
  · obtain ⟨-, -, hd⟩ := bind_eq_ok_iff.mp (heq ▸ hd')
    exact Except.ok.inj hd ▸ hchecked

end ShaderRecords
