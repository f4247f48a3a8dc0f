/-
ShaderRecords.Proofs.Description.Normalization — which documents have a normal form.

Normalization walks through a document before anybody has checked it. It passes over members of any shape,
but it asks compounds, sources and types for their entries. `Value.IsWalkable` says of a document that what
stands where these are expected is a list of maps, or does not count as present, and that the members in them
can be taken one by one. `normalize_succeedsIff` says that exactly these documents have a normal form, and
that all others break normalization down.

`rangesConvert_normalize` says that normalization leaves the ranges of a document alone.
-/
import ShaderRecords.Description.Normalization
import ShaderRecords.Proofs.Description.Reading

namespace ShaderRecords

/-! ## Steps with a condition -/

/-- Whether a step succeeds exactly under a condition, and otherwise breaks down on the kind of a value. -/
structure SucceedsIff {α : Type} (x : Except Breakdown α) (p : Prop) : Prop where
  ok : p → ∃ a, x = .ok a
  broken : ¬p → x = .error .wrongKind ∨ x = .error .missingPart

namespace SucceedsIff

variable {α β : Type} {x : Except Breakdown α} {p q : Prop}

theorem pure (a : α) : SucceedsIff (.ok a) True :=
  ⟨fun _ => ⟨a, rfl⟩, fun h => absurd trivial h⟩

theorem congr (h : SucceedsIff x p) (hpq : p ↔ q) : SucceedsIff x q :=
  propext hpq ▸ h

/-- A chain succeeds under the conditions of both of its steps. -/
theorem bind {f : α → Except Breakdown β} (hx : SucceedsIff x p)
    (hf : ∀ a, x = .ok a → SucceedsIff (f a) q) : SucceedsIff (x >>= f) (p ∧ q) := by
  by_cases hp : p
  · obtain ⟨a, rfl⟩ := hx.ok hp
    exact (hf a rfl).congr (and_iff_right hp).symm
  · refine ⟨fun h => absurd h.1 hp, fun _ => ?_⟩
    rcases hx.broken hp with h | h
    · exact Or.inl (by rw [h, error_bind])
    · exact Or.inr (by rw [h, error_bind])

/-- What is done with the result does not matter where it cannot fail. -/
theorem map (f : α → β) (hx : SucceedsIff x p) : SucceedsIff (f <$> x) p :=
  (hx.bind (f := fun a => .ok (f a)) fun a _ => pure (f a)).congr (and_iff_left trivial)

/-- Steps on several things succeed under the conditions of all of them. -/
theorem mapM {f : α → Except Breakdown β} {p : α → Prop} {xs : List α}
    (h : ∀ x ∈ xs, SucceedsIff (f x) (p x)) : SucceedsIff (xs.mapM f) (∀ x ∈ xs, p x) := by
  induction xs with
  | nil => exact (pure []).congr (by simp)
  | cons x xs ih =>
    rw [List.mapM_cons]
    refine ((h x (by simp)).bind fun y _ => ?_).congr List.forall_mem_cons.symm
    exact (ih fun z hz => h z (List.mem_cons_of_mem _ hz)).map (y :: ·)

end SucceedsIff

/-! ## Documents that can be walked through -/

namespace Value

/-- Whether the items of a value can be taken one by one: it is a list, a map or a text, or does not count as
present. -/
def IsIterable (v : Value) : Prop :=
  v.isPresent = false ∨ (∃ items, v = .list items) ∨ (∃ es, v = .map es) ∨ v.IsText

/-- Whether a value is a list of maps with a property, or does not count as present. -/
def IsListOfMaps (p : Entries → Prop) (v : Value) : Prop :=
  v.isPresent = false ∨ ∃ items, v = .list items ∧ ∀ w ∈ items, ∃ es, w = .map es ∧ p es

/-- Whether a document can be walked through: compounds, sources and their types are maps in lists, and the
members of compounds and types can be taken one by one. -/
def IsWalkable (doc : Value) : Prop :=
  ∃ es, doc = .map es
    ∧ (Entries.get es "compounds").IsListOfMaps (fun c => (Entries.get c "fields").IsIterable)
    ∧ (Entries.get es "sources").IsListOfMaps fun s =>
      (Entries.get s "types").IsListOfMaps fun t => (Entries.get t "members").IsIterable

/-- What is done with the entries of a value is done if it is a map. -/
theorem succeedsIff_entries_bind {α : Type} (v : Value) {f : Entries → Except Breakdown α} {p : Entries → Prop}
    (hf : ∀ es, SucceedsIff (f es) (p es)) : SucceedsIff (v.entries >>= f) (∃ es, v = .map es ∧ p es) := by
  cases v with
  | map es => exact (hf es).congr (by simp)
  | _ =>
    refine ⟨?_, fun _ => .inr rfl⟩
    rintro ⟨es, h, -⟩
    cases h

theorem elementsIfAny_list (vs : List Value) : (list vs).elementsIfAny = .ok vs := by
  cases vs <;> rfl

theorem succeedsIff_elementsIfAny (v : Value) : SucceedsIff v.elementsIfAny v.IsIterable := by
  unfold elementsIfAny IsIterable
  split
  next hpresent =>
    rw [hpresent]
    cases v with
    | list _ | map _ | text _ => exact (SucceedsIff.pure _).congr (by simp [IsText])
    | _ => exact ⟨by simp [IsText], fun _ => Or.inl rfl⟩
  next hpresent => exact (SucceedsIff.pure []).congr (by simp [hpresent])

theorem IsListOfMaps.isIterable {p : Entries → Prop} {v : Value} (h : v.IsListOfMaps p) : v.IsIterable := by
  rcases h with h | ⟨items, h, -⟩
  · exact Or.inl h
  · exact Or.inr (Or.inl ⟨items, h⟩)

/-- The items that are taken one by one are maps only in a list, or where there are none: the keys of a map
and the characters of a text are no maps. -/
theorem isListOfMaps_iff {p : Entries → Prop} {v : Value} {items : List Value}
    (h : v.elementsIfAny = .ok items) :
    v.IsListOfMaps p ↔ ∀ w ∈ items, ∃ es, w = .map es ∧ p es := by
  unfold elementsIfAny at h
  split at h
  next hpresent =>
    rw [IsListOfMaps, hpresent]
    cases v with
    | list vs =>
      obtain rfl : vs = items := Except.ok.inj h
      simp
    | map es =>
      obtain rfl : es.map (fun e => text e.1) = items := Except.ok.inj h
      cases es <;> simp [isPresent] at hpresent ⊢
    | text t =>
      obtain rfl : t.toList.map (fun c => text (String.singleton c)) = items := Except.ok.inj h
      have hne : t.toList ≠ [] := by simpa [isPresent] using hpresent
      obtain ⟨c, hc⟩ := List.exists_mem_of_ne_nil _ hne
      simp only [Bool.true_eq_false, reduceCtorEq, false_and, exists_const, or_self, false_iff]
      intro hall
      obtain ⟨es, hes, -⟩ := hall _ (List.mem_map_of_mem hc)
      cases hes
    | _ => cases h
  next hpresent =>
    obtain rfl : [] = items := Except.ok.inj h
    simp [IsListOfMaps, hpresent]

end Value

/-! ## Normalization step by step -/

namespace Ordered

/-- Changing the value under a key changes what is found there and nothing else. -/
theorem find?_modify (es : Entries) (key other : String) (f : Value → Value) :
    find? (Entries.modify es key f) other
      = if other = key then (find? es other).map f else find? es other := by
  induction es with
  | nil => simp [Entries.modify]
  | cons e es ih =>
    obtain ⟨k, v⟩ := e
    have hcons : Entries.modify ((k, v) :: es) key f
        = (if k = key then (k, f v) else (k, v)) :: Entries.modify es key f := rfl
    rw [hcons]
    by_cases hk : k = key
    · subst hk
      rw [if_pos rfl, find?_cons, find?_cons, ih]
      by_cases ho : other = k <;> simp [ho]
    · rw [if_neg hk, find?_cons, find?_cons, ih]
      by_cases ho : other = k
      · subst ho
        simp [hk]
      · simp [ho]

end Ordered

namespace Entries

theorem get_modify_of_ne (es : Entries) {key other : String} (h : other ≠ key) (f : Value → Value) :
    (es.modify key f).get other = es.get other := by
  rw [get, get, Ordered.find?_modify, if_neg h]

/-- What is found under a changed key is what was there, changed; a change that adds nothing to nothing may
as well be made where the key is missing. -/
theorem asItems_get_modify (es : Entries) (key : String) {f : Value → Value}
    (hf : (f .null).asItems = []) : ((es.modify key f).get key).asItems = (f (es.get key)).asItems := by
  rw [get, get, Ordered.find?_modify, if_pos rfl]
  cases Ordered.find? es key with
  | none => exact hf.symm
  | some v => rfl

end Entries

namespace Normalization

theorem succeedsIff_checkItems (es : Entries) (key : String) :
    SucceedsIff (checkItems es key) (es.get key).IsIterable := by
  refine ((es.get key).succeedsIff_elementsIfAny.bind (q := True) fun _ _ => .pure ()).congr ?_
  exact and_iff_left trivial

theorem succeedsIff_compound (v : Value) :
    SucceedsIff (compound v) (∃ es : Entries, v = .map es ∧ (es.get "fields").IsIterable) :=
  v.succeedsIff_entries_bind fun es => (succeedsIff_checkItems es "fields").map fun _ => _

theorem succeedsIff_typeDef (v : Value) :
    SucceedsIff (typeDef v) (∃ es : Entries, v = .map es ∧ (es.get "members").IsIterable) := by
  refine v.succeedsIff_entries_bind fun es => ?_
  have hmembers : ((es.modify "kind" Value.lowered).modify "packing_rules" Value.lowered).get "members"
      = es.get "members" := by
    rw [Entries.get_modify_of_ne _ (by decide), Entries.get_modify_of_ne _ (by decide)]
  rw [← hmembers]
  exact (succeedsIff_checkItems _ "members").map fun _ => _

/-- What stands where a list of maps is expected has a normal form if it is one. -/
theorem succeedsIff_each {f : Value → Except Breakdown Value} {p : Entries → Prop}
    (hf : ∀ w, SucceedsIff (f w) (∃ es : Entries, w = .map es ∧ p es)) (v : Value) :
    SucceedsIff (each f v) (v.IsListOfMaps p) := by
  refine (v.succeedsIff_elementsIfAny.bind fun items hitems => ?_).congr
    (and_iff_right_of_imp Value.IsListOfMaps.isIterable)
  refine (SucceedsIff.mapM fun w _ => hf w).map _ |>.congr (Value.isListOfMaps_iff hitems).symm

theorem succeedsIff_under (key : String) {f : Value → Except Breakdown Value} {p : Value → Prop}
    (hf : ∀ v, SucceedsIff (f v) (p v)) (es : Entries) : SucceedsIff (under key f es) (p (es.get key)) :=
  (hf (es.get key)).map fun v => es.modify key fun _ => v

theorem get_under_of_ne {key other : String} (hne : other ≠ key) {f : Value → Except Breakdown Value}
    {es es' : Entries} (h : under key f es = .ok es') : es'.get other = es.get other := by
  obtain ⟨v, -, h⟩ := bind_eq_ok_iff.mp h
  rw [← Except.ok.inj h, Entries.get_modify_of_ne _ hne]

theorem succeedsIff_source (v : Value) :
    SucceedsIff (source v) (∃ es : Entries, v = .map es
      ∧ (es.get "types").IsListOfMaps fun t => (t.get "members").IsIterable) :=
  v.succeedsIff_entries_bind fun es =>
    (succeedsIff_under "types" (succeedsIff_each succeedsIff_typeDef) es).map Value.map

end Normalization

/-- A document has a normal form exactly if it can be walked through. -/
theorem normalize_succeedsIff (doc : Value) : SucceedsIff (normalize doc) doc.IsWalkable := by
  refine doc.succeedsIff_entries_bind fun es => ?_
  refine (Normalization.succeedsIff_under "compounds"
    (Normalization.succeedsIff_each Normalization.succeedsIff_compound) es).bind fun es' hes' => ?_
  have hsame : es'.get "sources" = es.get "sources" := Normalization.get_under_of_ne (by decide) hes'
  rw [← hsame]
  exact (Normalization.succeedsIff_under "sources"
    (Normalization.succeedsIff_each Normalization.succeedsIff_source) es').map Value.map

/-! ## Ranges -/

namespace Normalization

theorem itemsUnder_range_directive (w : Value) :
    (w.mapEntries directive).itemsUnder "range" = w.itemsUnder "range" := by
  cases w with
  | map es =>
    exact congrArg Value.asItems (Entries.get_modify_of_ne es (by decide) Value.listed)
  | _ => rfl

/-- The normal form of a member has the ranges of the member. -/
theorem rangeEnds_member (w : Value) : (w.mapEntries member).rangeEnds = w.rangeEnds := by
  cases w with
  | map es =>
    have hpacking : (Value.map (member es)).itemsUnder "packing"
        = ((Value.map es).itemsUnder "packing").map (Value.mapEntries directive) := by
      refine (Entries.asItems_get_modify _ "packing" rfl).trans ?_
      rw [Entries.get_modify_of_ne es (by decide)]
      rfl
    simp only [Value.mapEntries, Value.rangeEnds] at hpacking ⊢
    rw [hpacking, List.flatMap_map]
    simp only [itemsUnder_range_directive]
  | _ => rfl

theorem rangeEnds_members (v : Value) :
    (members v).asItems.flatMap Value.rangeEnds = v.asItems.flatMap Value.rangeEnds := by
  cases v with
  | list items =>
    have hitems : (members (.list items)).asItems = items.map (Value.mapEntries member) := rfl
    rw [hitems, List.flatMap_map]
    simp only [rangeEnds_member]
    rfl
  | _ => rfl

/-- The ranges of the members under a key. -/
def endsUnder (key : String) (v : Value) : List Value :=
  (v.itemsUnder key).flatMap Value.rangeEnds

theorem endsUnder_modify (es : Entries) (key : String) :
    endsUnder key (.map (es.modify key members)) = endsUnder key (.map es) := by
  refine (congrArg (List.flatMap Value.rangeEnds) (Entries.asItems_get_modify es key rfl)).trans ?_
  exact rangeEnds_members (es.get key)

theorem endsUnder_compound {w w' : Value} (h : compound w = .ok w') :
    endsUnder "fields" w' = endsUnder "fields" w := by
  obtain ⟨es, hes, hrest⟩ := bind_eq_ok_iff.mp h
  obtain ⟨-, -, hw'⟩ := bind_eq_ok_iff.mp hrest
  rw [Value.eq_map_of_entries hes, ← Except.ok.inj hw', endsUnder_modify]

theorem endsUnder_typeDef {w w' : Value} (h : typeDef w = .ok w') :
    endsUnder "members" w' = endsUnder "members" w := by
  obtain ⟨es, hes, hrest⟩ := bind_eq_ok_iff.mp h
  obtain ⟨-, -, hw'⟩ := bind_eq_ok_iff.mp hrest
  rw [Value.eq_map_of_entries hes, ← Except.ok.inj hw', endsUnder_modify]
  simp only [endsUnder, Value.itemsUnder, Value.part]
  rw [Entries.get_modify_of_ne _ (by decide), Entries.get_modify_of_ne _ (by decide)]

/-- What has been given item by item is a list, or what was there. -/
theorem each_cases {f : Value → Except Breakdown Value} {v v' : Value} (h : each f v = .ok v') :
    (∃ vs normal, v = .list vs ∧ v' = .list normal ∧ List.Forall₂ (fun w w' => f w = .ok w') vs normal)
      ∨ v' = v ∧ ∀ vs, v ≠ .list vs := by
  obtain ⟨items, hitems, h⟩ := bind_eq_ok_iff.mp h
  obtain ⟨normal, hnormal, h⟩ := bind_eq_ok_iff.mp h
  cases v with
  | list vs =>
    obtain rfl := Except.ok.inj h
    obtain rfl := Except.ok.inj ((Value.elementsIfAny_list vs).symm.trans hitems)
    exact .inl ⟨vs, normal, rfl, rfl, mapM_eq_ok_iff.mp hnormal⟩
  | _ => exact .inr ⟨(Except.ok.inj h).symm, nofun⟩

/-- What is gathered from the items of a list is gathered from their normal forms, if it is so for each
item. -/
theorem flatMap_each {f : Value → Except Breakdown Value} {g : Value → List Value}
    (hf : ∀ w w', f w = .ok w' → g w' = g w) {v v' : Value} (h : each f v = .ok v') :
    v'.asItems.flatMap g = v.asItems.flatMap g := by
  rcases each_cases h with ⟨vs, normal, rfl, rfl, hall⟩ | ⟨rfl, -⟩
  · have hsame := map_eq_map_of_forall₂ (hall.imp fun w w' hw => (hf w w' hw).symm)
    show normal.flatMap g = vs.flatMap g
    rw [List.flatMap_def, List.flatMap_def, hsame]
  · rfl

theorem flatMap_under {key : String} {f : Value → Except Breakdown Value} {g : Value → List Value}
    (hf : ∀ v v', f v = .ok v' → v'.asItems.flatMap g = v.asItems.flatMap g) {es es' : Entries}
    (h : under key f es = .ok es') :
    (es'.get key).asItems.flatMap g = (es.get key).asItems.flatMap g := by
  obtain ⟨v, hv, h⟩ := bind_eq_ok_iff.mp h
  have hfound : es'.get key = ((es.find? key).map fun _ => v).getD .null := by
    rw [← Except.ok.inj h, Entries.get, Ordered.find?_modify, if_pos rfl]
  rw [hfound, Entries.get]
  cases hkey : Ordered.find? es key with
  | none => rfl
  | some w =>
    rw [hkey] at hv
    exact hf _ _ hv

theorem endsUnder_source {w w' : Value} (h : source w = .ok w') :
    (w'.itemsUnder "types").flatMap (endsUnder "members")
      = (w.itemsUnder "types").flatMap (endsUnder "members") := by
  obtain ⟨es, hes, hrest⟩ := bind_eq_ok_iff.mp h
  obtain ⟨es', hunder, hw'⟩ := bind_eq_ok_iff.mp hrest
  rw [Value.eq_map_of_entries hes, ← Except.ok.inj hw']
  exact flatMap_under (fun v v' => flatMap_each fun w w' => endsUnder_typeDef) hunder

end Normalization

/-- The normal form of a document has the ranges of the document. -/
theorem rangesConvert_normalize {doc doc' : Value} (h : normalize doc = .ok doc')
    (hranges : doc.RangesConvert) : doc'.RangesConvert := by
  have hends : doc'.membersOf.flatMap Value.rangeEnds = doc.membersOf.flatMap Value.rangeEnds := by
    obtain ⟨es, hes, h⟩ := bind_eq_ok_iff.mp h
    obtain ⟨es₁, hcompounds, h⟩ := bind_eq_ok_iff.mp h
    obtain ⟨es₂, hsources, h⟩ := bind_eq_ok_iff.mp h
    rw [Value.eq_map_of_entries hes, ← Except.ok.inj h]
    simp only [Value.membersOf, Value.typesOf, List.flatMap_append, List.flatMap_assoc]
    have hfields := Normalization.flatMap_under (g := Normalization.endsUnder "fields")
      (fun v v' => Normalization.flatMap_each fun w w' => Normalization.endsUnder_compound) hcompounds
    have hmembers := Normalization.flatMap_under
      (g := fun s => (s.itemsUnder "types").flatMap (Normalization.endsUnder "members"))
      (fun v v' => Normalization.flatMap_each fun w w' => Normalization.endsUnder_source) hsources
    rw [← Normalization.get_under_of_ne (by decide) hsources] at hfields
    rw [Normalization.get_under_of_ne (by decide) hcompounds] at hmembers
    exact congrArg₂ (· ++ ·) hfields hmembers
  intro member hmember v hv
  have hin : v ∈ doc.membersOf.flatMap Value.rangeEnds :=
    hends ▸ List.mem_flatMap.mpr ⟨member, hmember, hv⟩
  obtain ⟨member', hmember', hv'⟩ := List.mem_flatMap.mp hin
  exact hranges member' hmember' v hv'

end ShaderRecords
