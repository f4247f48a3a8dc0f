/-
ShaderRecords.Proofs.Schema.Acceptance — what follows when a value follows a schema.

A value follows a schema when every rule of the schema admits it. Each kind of rule gets one equivalence
that says what it admits, and the common schemas (`Schema.ofKind`, `Schema.listOf`, `Schema.record`) get
one that says which values follow them. With these a document that follows the schema of documents is taken
apart part by part, without opening how problems are found.

`Schema.check_eq_ok_iff` says that the check of a document lets exactly the documents pass that follow the
schema: a problem is told whenever one is found.
-/
import ShaderRecords.Proofs.Failure
import ShaderRecords.Schema.Choice

namespace ShaderRecords

namespace Rule

/-- Whether a rule finds nothing wrong with a value. -/
def Admits (r : Rule) (v : Value) : Prop :=
  r.violations false v = []

/-- Whether a rule has schemas in it. -/
def isNested : Rule → Bool
  | properties _ | additional _ _ | items _ | oneOf _ => true
  | _ => false

/-! What rules find, one equation for each kind of rule that has schemas in it and one for all others. A proof takes the
one that it needs; the equations of the whole recursion are many and are never asked for. -/

theorem violations_properties (fits : Bool) (es : Entries) (known : List (String × List Rule)) :
    (properties known).violations fits (.map es) = violationsUnder es known := rfl

theorem violations_items (fits : Bool) (vs : List Value) (rules : List Rule) :
    (Rule.items rules).violations fits (.list vs) = vs.zipIdx.flatMap fun (w, i) =>
      (violationsAll (Schema.namesKind rules w) w rules).map (·.under (.index i)) := rfl

theorem violations_oneOf (fits : Bool) (v : Value) (alternatives : List (List Rule)) :
    (oneOf alternatives).violations fits v = match violationsOfAlternatives v alternatives with
      | some context =>
        [⟨[], v.literal ++ " is not valid under any of the given schemas", true, fits, context⟩]
      | none => [] := rfl

theorem violations_of_not_nested {r : Rule} (h : r.isNested = false) (fits : Bool) (v : Value) :
    r.violations fits v = (complaints v r).map fun message => ⟨[], message, false, fits, []⟩ := by
  cases r with
  | properties | additional | items | oneOf => cases h
  | _ => rfl

theorem violationsAll_cons (fits : Bool) (v : Value) (r : Rule) (rs : List Rule) :
    violationsAll fits v (r :: rs) = r.violations fits v ++ violationsAll fits v rs := rfl

theorem violationsUnder_cons (es : Entries) (key : String) (rules : List Rule) (known : List (String × List Rule)) :
    violationsUnder es ((key, rules) :: known) = (match es.lookup key with
      | some w => (violationsAll (Schema.namesKind rules w) w rules).map (·.under (.key key))
      | none => []) ++ violationsUnder es known := rfl

theorem violationsOfAlternatives_cons (v : Value) (rules : List Rule) (alternatives : List (List Rule)) :
    violationsOfAlternatives v (rules :: alternatives) = match violationsAll (Schema.namesKind rules v) v rules with
      | [] => none
      | found => (violationsOfAlternatives v alternatives).map (found ++ ·) := rfl

/-- A rule without schemas in it admits what it has no complaints about. -/
theorem admits_iff_complaints {r : Rule} (h : r.isNested = false) {v : Value} : r.Admits v ↔ complaints v r = [] := by
  rw [Admits, violations_of_not_nested h, List.map_eq_nil_iff]

/-- Whether anything is wrong does not depend on the kinds that the schema of the rule names. -/
theorem violations_eq_nil_iff {r : Rule} {fits : Bool} {v : Value} :
    r.violations fits v = [] ↔ r.Admits v := by
  cases hnested : r.isNested with
  | false => rw [admits_iff_complaints hnested, violations_of_not_nested hnested, List.map_eq_nil_iff]
  | true =>
    cases r with
    | properties | additional | items => exact Iff.rfl
    | oneOf alternatives =>
      rw [Admits, violations_oneOf, violations_oneOf]
      cases violationsOfAlternatives v alternatives <;> simp
    | _ => cases hnested

theorem violationsAll_eq_nil_iff {rs : List Rule} {fits : Bool} {v : Value} :
    violationsAll fits v rs = [] ↔ ∀ r ∈ rs, r.Admits v := by
  induction rs with
  | nil => exact iff_of_true rfl (List.forall_mem_nil _)
  | cons r rs ih => rw [violationsAll_cons, List.append_eq_nil_iff, violations_eq_nil_iff, ih, List.forall_mem_cons]

end Rule

namespace Schema

theorem accepts_iff {s : Schema} {v : Value} : s.accepts v = true ↔ ∀ r ∈ s, r.Admits v := by
  rw [accepts, violations, List.isEmpty_iff, Rule.violationsAll_eq_nil_iff]

theorem accepts_nil {v : Value} : accepts [] v = true := rfl

theorem accepts_cons {r : Rule} {s : Schema} {v : Value} :
    accepts (r :: s) v = true ↔ r.Admits v ∧ s.accepts v = true := by
  simp only [accepts_iff, List.forall_mem_cons]

theorem accepts_singleton {r : Rule} {v : Value} : accepts [r] v = true ↔ r.Admits v := by
  rw [accepts_cons, and_iff_left accepts_nil]

end Schema

namespace Rule

variable {v : Value} {es : Entries}

theorem admits_kinds {ks : List ValueKind} : (kinds ks).Admits v ↔ ∃ k ∈ ks, k.holds v = true := by
  rw [admits_iff_complaints rfl]
  unfold complaints
  simp

theorem admits_kinds_singleton {k : ValueKind} : (kinds [k]).Admits v ↔ k.holds v = true := by
  simp [admits_kinds]

theorem admits_required {keys : List String} :
    (required keys).Admits (.map es) ↔ ∀ key ∈ keys, ∃ w, es.lookup key = some w := by
  rw [admits_iff_complaints rfl]
  unfold complaints
  simp only [List.map_eq_nil_iff, List.filter_eq_nil_iff, Bool.not_eq_true, Option.isNone_eq_false_iff,
    Option.isSome_iff_exists]

theorem admits_closed {known : List String} :
    (closed known).Admits (.map es) ↔ ∀ e ∈ es, e.1 ∈ known := by
  have hunknown : (unknownKeys known es).isEmpty = true ↔ ∀ e ∈ es, e.1 ∈ known := by
    simp [unknownKeys]
  rw [← hunknown, admits_iff_complaints rfl]
  unfold complaints
  dsimp only
  cases (unknownKeys known es).isEmpty <;> simp

theorem violationsUnder_eq_nil_iff {known : List (String × List Rule)} :
    violationsUnder es known = [] ↔
      ∀ e ∈ known, ∀ w, es.lookup e.1 = some w → Schema.accepts e.2 w = true := by
  induction known with
  | nil => exact iff_of_true rfl (List.forall_mem_nil _)
  | cons e known ih =>
    obtain ⟨key, rules⟩ := e
    rw [violationsUnder_cons, List.append_eq_nil_iff, ih, List.forall_mem_cons]
    cases es.lookup key <;> simp [Schema.accepts_iff, violationsAll_eq_nil_iff]

theorem admits_properties {known : List (String × Schema)} :
    (properties known).Admits (.map es) ↔
      ∀ e ∈ known, ∀ w, es.lookup e.1 = some w → e.2.accepts w = true := by
  rw [Admits, violations_properties, violationsUnder_eq_nil_iff]

theorem admits_items {s : Schema} {items : List Value} :
    (Rule.items s).Admits (.list items) ↔ ∀ w ∈ items, s.accepts w = true := by
  simp only [Admits, violations_items, List.flatMap_eq_nil_iff, List.map_eq_nil_iff, violationsAll_eq_nil_iff,
    Schema.accepts_iff]
  constructor
  · intro h w hw
    obtain ⟨i, hi⟩ := List.mem_iff_getElem?.mp hw
    exact h (w, i) (List.mem_zipIdx_iff_getElem?.mpr hi)
  · rintro h ⟨w, i⟩ hw
    exact h w (List.mem_of_getElem? (List.mem_zipIdx_iff_getElem?.mp hw))

theorem violationsOfAlternatives_eq_none_iff {alternatives : List (List Rule)} :
    violationsOfAlternatives v alternatives = none ↔ ∃ s ∈ alternatives, Schema.accepts s v = true := by
  induction alternatives with
  | nil => exact iff_of_false nofun (by simp)
  | cons s alternatives ih =>
    rw [violationsOfAlternatives_cons]
    split
    next hnone =>
      have hs : Schema.accepts s v = true := Schema.accepts_iff.mpr (violationsAll_eq_nil_iff.mp hnone)
      simp [hs]
    next hsome =>
      have hs : ¬Schema.accepts s v = true := fun h =>
        hsome (violationsAll_eq_nil_iff.mpr (Schema.accepts_iff.mp h))
      simp only [Option.map_eq_none_iff, ih, List.mem_cons, exists_eq_or_imp, hs, Bool.false_eq_true,
        false_or]

theorem admits_oneOf {alternatives : List Schema} :
    (oneOf alternatives).Admits v ↔ ∃ s ∈ alternatives, s.accepts v = true := by
  rw [← violationsOfAlternatives_eq_none_iff, Admits, violations_oneOf]
  cases violationsOfAlternatives v alternatives <;> simp

theorem admits_minLength {n : Nat} {t : String} : (minLength n).Admits (.text t) ↔ n ≤ t.length := by
  rw [admits_iff_complaints rfl]
  unfold complaints
  simp

theorem admits_among {values : List Value} :
    (among values).Admits v ↔ ∃ w ∈ values, w.equalTo v = true := by
  rw [admits_iff_complaints rfl]
  unfold complaints
  simp

end Rule

namespace Schema

variable {s : Schema} {v : Value}

theorem accepts_ofKind {k : ValueKind} : (ofKind k).accepts v = true ↔ k.holds v = true := by
  rw [ofKind, accepts_singleton, Rule.admits_kinds_singleton]

theorem holds_object : ValueKind.object.holds v = true ↔ ∃ es : Entries, v = .map es := by
  cases v <;> simp [ValueKind.holds]

theorem holds_array : ValueKind.array.holds v = true ↔ ∃ items, v = .list items := by
  cases v <;> simp [ValueKind.holds]

theorem holds_string : ValueKind.string.holds v = true ↔ ∃ t, v = .text t := by
  cases v <;> simp [ValueKind.holds]

theorem accepts_listOf :
    (listOf s).accepts v = true ↔ ∃ items, v = .list items ∧ ∀ w ∈ items, s.accepts w = true := by
  rw [listOf, accepts_cons, accepts_singleton, Rule.admits_kinds_singleton, holds_array]
  constructor
  · rintro ⟨⟨items, rfl⟩, hitems⟩
    exact ⟨items, rfl, Rule.admits_items.mp hitems⟩
  · rintro ⟨items, rfl, hitems⟩
    exact ⟨⟨items, rfl⟩, Rule.admits_items.mpr hitems⟩

/-- Entries that follow the schema of a record. -/
structure Fits (required : List String) (known : List (String × Schema)) (es : Entries) : Prop where
  required : ∀ key ∈ required, ∃ w, List.lookup key es = some w
  closed : ∀ e ∈ es, e.1 ∈ known.map (·.1)
  known : ∀ e ∈ known, ∀ w, List.lookup e.1 es = some w → e.2.accepts w = true

/-- A map follows the schema of a record when it has the required keys, no unknown ones, and under each
known key a value that follows the schema of that key. -/
theorem accepts_record {required : List String} {known : List (String × Schema)} :
    (record required known).accepts v = true ↔
      ∃ es : Entries, v = .map es ∧ Fits required known es := by
  rw [record, accepts_cons, accepts_cons, accepts_cons, accepts_singleton, Rule.admits_kinds_singleton,
    holds_object]
  constructor
  · rintro ⟨⟨es, rfl⟩, hrequired, hclosed, hknown⟩
    exact ⟨es, rfl, Rule.admits_required.mp hrequired, Rule.admits_closed.mp hclosed,
      Rule.admits_properties.mp hknown⟩
  · rintro ⟨es, rfl, hfits⟩
    exact ⟨⟨es, rfl⟩, Rule.admits_required.mpr hfits.required, Rule.admits_closed.mpr hfits.closed,
      Rule.admits_properties.mpr hfits.known⟩

/-! ## The check of a document -/

theorem toldAll_eq_nil_iff {found : List Violation} : Violation.toldAll found = [] ↔ found = [] := by
  cases found <;> simp [Violation.toldAll]

/-- A document passes the check exactly when it follows the schema. -/
theorem check_eq_ok_iff {doc : Value} : s.check doc = .ok () ↔ s.accepts doc = true := by
  rw [accepts, List.isEmpty_iff, ← toldAll_eq_nil_iff, check, problem?]
  cases Violation.toldAll (s.violations doc) <;> simp

theorem unbroken_check {doc : Value} : Unbroken (s.check doc) := by
  unfold check
  split <;> simp

end Schema

end ShaderRecords
