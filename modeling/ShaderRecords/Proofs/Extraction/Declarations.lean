/-
ShaderRecords.Proofs.Extraction.Declarations — which declaration a name refers to.

Types and compounds are declared in two lists, and a name is looked up among the types first. Of several
declarations of one name in a list the last one is found. So a declaration is what its own name refers to exactly
if no later one in its list has that name and, where it is a compound, no type has it (`isFound_type_iff`,
`isFound_compound_iff`).

Reading a description compares the names of types with each other, and those of compounds with nothing. So all
types are found, and all compounds exactly if their names differ from each other and from those of the types
(`Description.declarations_found_iff`).
-/
import ShaderRecords.Proofs.Number.Equality
import ShaderRecords.Proofs.Product.Siblings

namespace ShaderRecords

/-! ## Names -/

namespace Value

variable {v w : Value}

/-- What can stand as a key counts as equal to itself. -/
theorem same_self (h : v.isKey = true) : v.same v = true := by
  cases v with
  | float x => simpa [same] using (Binary64.beq_or_isNaN_iff x x).mpr rfl
  | null | bool | int | text => simp [same, number?, Number.same]
  | list | map => cases h

theorem isKey_of_asKey {key : Value} (h : v.asKey = .ok key) : v.isKey = true := by
  unfold asKey at h
  split at h
  next hkey => exact hkey
  next => cases h

theorem same_comm (hv : v.isKey = true) (hw : w.isKey = true) : v.same w = w.same v := by
  cases v with
  | list | map => cases hv
  | null | bool | int | float | text =>
    cases w with
    | list | map => cases hw
    | null | bool | int | float | text =>
      simp [same, number?, Number.same, Binary64.beq_comm, Bool.and_comm, Bool.beq_comm]

end Value

theorem isKey_of_checkTypeNames {seen : List (Value × String)} {types : List (String × TypeDef)}
    (h : checkTypeNames seen types = .ok ()) : ∀ e ∈ types, e.2.name.isKey = true := by
  induction types generalizing seen with
  | nil => simp
  | cons e types ih =>
    rw [checkTypeNames] at h
    obtain ⟨name, hname, h⟩ := bind_eq_ok_iff.mp h
    rw [liftM_eq_orBreak, orBreak_eq_ok_iff] at hname
    split at h
    · simp at h
    · exact List.forall_mem_cons.mpr ⟨Value.isKey_of_asKey hname, ih h⟩

/-! ## Looking up -/

namespace Registry

section Lists

variable {α : Type} (nameOf : α → Value) (name : Value)

/-- The last place in a list at which something of a name stands. -/
def lastPlace? : List α → Option Nat
  | [] => none
  | x :: xs =>
    match lastPlace? xs with
    | some k => some (k + 1)
    | none => if (nameOf x).same name then some 0 else none

variable {nameOf name} {x : α} {xs : List α} {k : Nat}

theorem lastPlace?_cons : lastPlace? nameOf name (x :: xs)
    = match lastPlace? nameOf name xs with
      | some k => some (k + 1)
      | none => if (nameOf x).same name then some 0 else none := rfl

theorem lastPlace?_eq_none_iff : lastPlace? nameOf name xs = none ↔ ∀ x ∈ xs, (nameOf x).same name = false := by
  induction xs with
  | nil => exact iff_of_true rfl (List.forall_mem_nil _)
  | cons x xs ih =>
    rw [lastPlace?_cons, List.forall_mem_cons, ← ih]
    cases lastPlace? nameOf name xs <;> simp

theorem exists_of_lastPlace? (h : lastPlace? nameOf name xs = some k) : ∃ x, xs[k]? = some x := by
  induction xs generalizing k with
  | nil => cases h
  | cons first xs ih =>
    rw [lastPlace?_cons] at h
    split at h
    next j hj =>
      obtain rfl := Option.some.inj h
      exact ih hj
    next =>
      split at h
      · obtain rfl := Option.some.inj h
        exact ⟨first, rfl⟩
      · cases h

/-- Something stands at the last place of a name if it has the name and nothing behind it has. -/
theorem lastPlace?_eq_some_iff (hx : xs[k]? = some x) : lastPlace? nameOf name xs = some k
    ↔ (nameOf x).same name = true ∧ ∀ y ∈ xs.drop (k + 1), (nameOf y).same name = false := by
  induction xs generalizing k with
  | nil => simp at hx
  | cons first xs ih =>
    rw [lastPlace?_cons, List.drop_succ_cons]
    cases k with
    | zero =>
      obtain rfl := Option.some.inj hx
      rw [List.drop_zero, ← lastPlace?_eq_none_iff]
      cases lastPlace? nameOf name xs <;> simp
    | succ k =>
      rw [List.getElem?_cons_succ] at hx
      rw [← ih hx]
      cases lastPlace? nameOf name xs with
      | some j => simp
      | none => cases (nameOf first).same name <;> simp

/-- The last one of a name is what stands at its last place. -/
theorem find?_reverse_eq (nameOf : α → Value) (name : Value) (xs : List α) :
    xs.reverse.find? (fun x => (nameOf x).same name) = (lastPlace? nameOf name xs).bind (xs[·]?) := by
  induction xs with
  | nil => rfl
  | cons x xs ih =>
    rw [List.reverse_cons, List.find?_append, ih, lastPlace?_cons]
    cases hlast : lastPlace? nameOf name xs with
    | some k =>
      obtain ⟨y, hy⟩ := exists_of_lastPlace? hlast
      simp [hy]
    | none => cases hsame : (nameOf x).same name <;> simp [hsame]

end Lists

/-- A declaration that a name can refer to. -/
inductive Declaration where
  | type (t : TypeDef)
  | compound (c : Compound)

/-- The name under which something is declared. -/
def Declaration.name : Declaration → Value
  | type t => t.name
  | compound c => c.name

/-- The place of a declaration, in the list of types or in that of compounds. -/
inductive Place where
  | type (k : Nat)
  | compound (k : Nat)
deriving DecidableEq

variable (r : Registry)

/-- What is declared at a place. -/
def at? : Place → Option Declaration
  | .type k => r.generated[k]?.map .type
  | .compound k => r.compounds[k]?.map .compound

/-- What a name refers to: the type of that name, or else the compound. -/
def find? (name : Value) : Option Declaration :=
  match r.findType? name with
  | some t => some (.type t)
  | none => (r.findCompound? name).map .compound

/-- Where the declaration stands that a name refers to. -/
def place? (name : Value) : Option Place :=
  match lastPlace? TypeDef.name name r.generated with
  | some k => some (.type k)
  | none => (lastPlace? Compound.name name r.compounds).map .compound

theorem find?_eq (name : Value) : r.find? name = (r.place? name).bind r.at? := by
  unfold find? place? findType? findCompound?
  rw [find?_reverse_eq TypeDef.name, find?_reverse_eq Compound.name]
  cases htype : lastPlace? TypeDef.name name r.generated with
  | some k =>
    obtain ⟨t, ht⟩ := exists_of_lastPlace? htype
    simp [at?, ht]
  | none => cases lastPlace? Compound.name name r.compounds <;> simp [at?]

/-- Whether the name of a declaration refers to it, where it stands. -/
structure IsFound (place : Place) (e : Declaration) : Prop where
  find?_eq : r.find? e.name = some e
  place?_eq : r.place? e.name = some place

variable {r} {place : Place} {e : Declaration} {k : Nat} {t : TypeDef} {c : Compound}

theorem isFound_iff (h : r.at? place = some e) : r.IsFound place e ↔ r.place? e.name = some place := by
  refine ⟨IsFound.place?_eq, fun hplace => ⟨?_, hplace⟩⟩
  rw [Registry.find?_eq, hplace, Option.bind_some, h]

/-- A type is found exactly if no type behind it has its name. -/
theorem isFound_type_iff (h : r.generated[k]? = some t) (hkey : t.name.isKey = true) :
    r.IsFound (.type k) (.type t) ↔ ∀ u ∈ r.generated.drop (k + 1), u.name.same t.name = false := by
  have hat : r.at? (.type k) = some (.type t) := by rw [at?, h, Option.map_some]
  have hlast : lastPlace? TypeDef.name t.name r.generated = some k ↔ _ := lastPlace?_eq_some_iff h
  rw [Value.same_self hkey] at hlast
  simp only [true_and] at hlast
  rw [isFound_iff hat, ← hlast, place?, Declaration.name]
  cases lastPlace? TypeDef.name t.name r.generated <;> simp

/-- A compound is found exactly if no compound behind it and no type has its name. -/
theorem isFound_compound_iff (h : r.compounds[k]? = some c) (hkey : c.name.isKey = true) :
    r.IsFound (.compound k) (.compound c) ↔ (∀ d ∈ r.compounds.drop (k + 1), d.name.same c.name = false)
      ∧ ∀ t ∈ r.generated, t.name.same c.name = false := by
  have hat : r.at? (.compound k) = some (.compound c) := by rw [at?, h, Option.map_some]
  have hlast : lastPlace? Compound.name c.name r.compounds = some k ↔ _ := lastPlace?_eq_some_iff h
  rw [Value.same_self hkey] at hlast
  simp only [true_and] at hlast
  rw [isFound_iff hat, ← hlast, ← lastPlace?_eq_none_iff, place?, Declaration.name]
  cases lastPlace? TypeDef.name c.name r.generated <;> simp

/-- The registry of a description can be made exactly if the names in it can stand as keys. -/
theorem ofDescription_eq_ok_iff {d : Description} : ofDescription d = .ok r
    ↔ ((∀ c ∈ d.compounds, c.name.isKey = true) ∧ ∀ t ∈ d.sources.flatMap (·.types), t.name.isKey = true)
      ∧ r = ⟨d.compounds, d.sources.flatMap (·.types)⟩ := by
  have hkeys : ∀ {α : Type} (nameOf : α → Value) (xs : List α),
      (∃ keys, xs.mapM (fun x => (nameOf x).asKey) = .ok keys) ↔ ∀ x ∈ xs, (nameOf x).isKey = true := by
    intro α nameOf xs
    constructor
    · rintro ⟨keys, hkeys⟩ x hx
      obtain ⟨key, -, hkey⟩ := exists_mem_of_forall₂ (mapM_eq_ok_iff.mp hkeys).flip hx
      exact Value.isKey_of_asKey hkey
    · intro hall
      obtain ⟨keys, hkeys, -⟩ := Gives.forall₂ (f := fun x => (nameOf x).asKey) (P := fun _ _ => True)
        fun x hx => ⟨nameOf x, if_pos (hall x hx), trivial⟩
      exact ⟨keys, hkeys⟩
  constructor
  · intro h
    obtain ⟨_, hcompounds, h⟩ := bind_eq_ok_iff.mp h
    obtain ⟨_, htypes, h⟩ := bind_eq_ok_iff.mp h
    exact ⟨⟨(hkeys _ _).mp ⟨_, hcompounds⟩, (hkeys _ _).mp ⟨_, htypes⟩⟩, (Except.ok.inj h).symm⟩
  · rintro ⟨⟨hcompounds, htypes⟩, rfl⟩
    obtain ⟨_, hcompounds⟩ := (hkeys Compound.name _).mpr hcompounds
    obtain ⟨_, htypes⟩ := (hkeys TypeDef.name _).mpr htypes
    unfold ofDescription
    rw [hcompounds, ok_bind, htypes]
    rfl

end Registry

/-! ## Descriptions -/

theorem pairwise_iff_drop {α : Type} {R : α → α → Prop} {xs : List α} :
    xs.Pairwise R ↔ ∀ (k : Nat) x, xs[k]? = some x → ∀ y ∈ xs.drop (k + 1), R x y := by
  induction xs with
  | nil => simp
  | cons first xs ih =>
    rw [List.pairwise_cons, ih]
    constructor
    · rintro ⟨hfirst, hrest⟩ (_ | k) x hx
      · obtain rfl := Option.some.inj hx
        exact hfirst
      · exact hrest k x hx
    · exact fun h => ⟨h 0 first rfl, fun k x hx => h (k + 1) x hx⟩

/-- The types of a description are what their names refer to. Its compounds are, too, exactly if their names can
stand as keys and differ from each other and from the names of the types, which reading a description does not
ask for. -/
theorem Description.declarations_found_iff {doc : Value} {d : Description} (h : Description.ofValue doc = .ok d) :
    (∀ r, Registry.ofDescription d = .ok r → ∀ (k : Nat) t, r.at? (.type k) = some (.type t) →
        r.IsFound (.type k) (.type t))
      ∧ ((∃ r, Registry.ofDescription d = .ok r ∧ ∀ place e, r.at? place = some e → r.IsFound place e)
        ↔ (∀ c ∈ d.compounds, c.name.isKey = true)
          ∧ (d.compounds.Pairwise fun a b => a.name.same b.name = false)
          ∧ ∀ c ∈ d.compounds, ∀ t ∈ d.sources.flatMap (·.types), t.name.same c.name = false) := by
  have hchecked := checkTypeNames_of_ofValue h
  have hdeclared : d.sources.flatMap (·.types) = (declaredTypes d.sources).map (·.2) := by
    simp [declaredTypes, List.map_flatMap]
  have hkeys : ∀ t ∈ d.sources.flatMap (·.types), t.name.isKey = true := by
    rw [hdeclared]
    exact List.forall_mem_map.mpr (isKey_of_checkTypeNames hchecked)
  have htypes : ∀ (k : Nat) t, (d.sources.flatMap (·.types))[k]? = some t →
      ∀ u ∈ (d.sources.flatMap (·.types)).drop (k + 1), u.name.same t.name = false := by
    have hdiffer : (d.sources.flatMap (·.types)).Pairwise fun t u => t.name.same u.name = false := by
      rw [hdeclared]
      exact List.pairwise_map.mpr (differ_of_checkTypeNames hchecked).1
    intro k t ht u hu
    rw [Value.same_comm (hkeys u (List.mem_of_mem_drop hu)) (hkeys t (List.mem_of_getElem? ht))]
    exact pairwise_iff_drop.mp hdiffer k t ht u hu
  have htypeFound : ∀ r, Registry.ofDescription d = .ok r → ∀ (k : Nat) t, r.at? (.type k) = some (.type t) →
      r.IsFound (.type k) (.type t) := by
    intro r hr k t hat
    obtain ⟨-, rfl⟩ := Registry.ofDescription_eq_ok_iff.mp hr
    have ht : (d.sources.flatMap (·.types))[k]? = some t := by simpa [Registry.at?] using hat
    exact (Registry.isFound_type_iff ht (hkeys t (List.mem_of_getElem? ht))).mpr (htypes k t ht)
  refine ⟨htypeFound, ?_, ?_⟩
  · rintro ⟨r, hr, hfound⟩
    obtain ⟨⟨hcompoundKeys, -⟩, rfl⟩ := Registry.ofDescription_eq_ok_iff.mp hr
    have hcompounds : ∀ (k : Nat) c, d.compounds[k]? = some c → _ := fun k c hc =>
      (Registry.isFound_compound_iff hc (hcompoundKeys c (List.mem_of_getElem? hc))).mp
        (hfound (.compound k) (.compound c) (by simp [Registry.at?, hc]))
    refine ⟨hcompoundKeys, pairwise_iff_drop.mpr fun k c hc b hb => ?_, fun c hc => ?_⟩
    · rw [Value.same_comm (hcompoundKeys c (List.mem_of_getElem? hc))
        (hcompoundKeys b (List.mem_of_mem_drop hb))]
      exact (hcompounds k c hc).1 b hb
    · obtain ⟨k, hk⟩ := List.mem_iff_getElem?.mp hc
      exact (hcompounds k c hk).2
  · rintro ⟨hcompoundKeys, hdiffer, hapart⟩
    have hr := Registry.ofDescription_eq_ok_iff.mpr ⟨⟨hcompoundKeys, hkeys⟩, rfl⟩
    refine ⟨_, hr, fun place e hat => ?_⟩
    cases place with
    | type k =>
      obtain ⟨t, -, rfl⟩ := Option.map_eq_some_iff.mp hat
      exact htypeFound _ hr k t hat
    | compound k =>
      obtain ⟨c, hc, rfl⟩ := Option.map_eq_some_iff.mp hat
      have hkey := hcompoundKeys c (List.mem_of_getElem? hc)
      refine (Registry.isFound_compound_iff hc hkey).mpr ⟨fun b hb => ?_, hapart c (List.mem_of_getElem? hc)⟩
      rw [Value.same_comm (hcompoundKeys b (List.mem_of_mem_drop hb)) hkey]
      exact pairwise_iff_drop.mp hdiffer k c hc b hb

/-- A compound of numbers. -/
def rangeCompound (fields : List String) : Value :=
  .map [("name", "Range"),
    ("fields", .list (fields.map fun field => .map [("name", .text field), ("type", "float")]))]

/-- A document with compounds, an enumeration, and a record with a member that a compound is meant for. -/
def rangeDocument (compounds : List Value) (enumeration : String) : Value :=
  .map [("meta", .map [("version", "1.0.0")]), ("compounds", .list compounds),
    ("sources", .list [.map [("path", "Lights"), ("types", .list [
      .map [("name", .text enumeration), ("kind", "enum"), ("values", .map [("Near", .int 0)])],
      .map [("name", "Light"), ("members", .list [.map [("name", "range"), ("type", "Range")]])]])]])]

/-- A compound and two types of different names are all found. -/
theorem declarations_found_of_three_names :
    ∃ d, Description.ofValue (rangeDocument [rangeCompound ["near", "far"]] "Side") = .ok d
      ∧ ∃ r, Registry.ofDescription d = .ok r ∧ r.compounds.length = 1 ∧ r.generated.length = 2
      ∧ ∀ place e, r.at? place = some e → r.IsFound place e := by
  have hdescribed : Description.ofValue (rangeDocument [rangeCompound ["near", "far"]] "Side") = .ok _ := rfl
  refine ⟨_, hdescribed, ?_⟩
  obtain ⟨r, hr, hfound⟩ := (Description.declarations_found_iff hdescribed).2.mpr
    ⟨by decide, by simp, by decide⟩
  obtain ⟨-, rfl⟩ := Registry.ofDescription_eq_ok_iff.mp hr
  exact ⟨_, hr, rfl, rfl, hfound⟩

/-- Documents that follow the schema and are described, with a compound that its own name does not refer to: in one
an enumeration has the name, so that the member is a number of it and no range, in the other another compound. -/
theorem compounds_hidden_by_names :
    (Schema.document.accepts (rangeDocument [rangeCompound ["near", "far"]] "Range") = true
      ∧ ∃ d r c t, Description.ofValue (rangeDocument [rangeCompound ["near", "far"]] "Range") = .ok d
        ∧ Registry.ofDescription d = .ok r ∧ r.at? (.compound 0) = some (.compound c) ∧ c.name = "Range"
        ∧ r.find? "Range" = some (.type t) ∧ t.isEnum = true ∧ ¬r.IsFound (.compound 0) (.compound c))
    ∧ Schema.document.accepts
        (rangeDocument [rangeCompound ["near", "far"], rangeCompound ["depth"]] "Side") = true
      ∧ ∃ d r c c', Description.ofValue
          (rangeDocument [rangeCompound ["near", "far"], rangeCompound ["depth"]] "Side") = .ok d
        ∧ Registry.ofDescription d = .ok r ∧ r.at? (.compound 0) = some (.compound c) ∧ c.name = "Range"
        ∧ r.find? "Range" = some (.compound c') ∧ c'.fields.length = 1 ∧ ¬r.IsFound (.compound 0) (.compound c) := by
  refine ⟨⟨by decide, _, _, _, _, rfl, rfl, rfl, rfl, rfl, rfl, fun hfound => ?_⟩, by decide,
    _, _, _, _, rfl, rfl, rfl, rfl, rfl, rfl, fun hfound => ?_⟩
  · cases hfound.place?_eq
  · cases hfound.place?_eq

end ShaderRecords
