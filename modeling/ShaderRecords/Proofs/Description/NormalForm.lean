/-
ShaderRecords.Proofs.Description.NormalForm — normalization reaches a form that it leaves alone.

`Value.normalForm` changes every document, also one that cannot be walked through. Where maps have distinct keys,
as they have in documents (`Value.KeysDiffer`), normalization gives exactly this form wherever it succeeds
(`normalize_eq_ok_iff`).

Three facts about it follow its structure, level by level from surfaces up to documents. It changes nothing a
second time (`IsTidy`). It changes nothing but the documented parts of a document: `Value.AgreesBut` relates maps
that have the same keys in the same order, with other values under some of them only (`agreesBut_normalForm`). And
it keeps what follows the schema of documents, which asks for all of the parts in the form that they have in a
normal form (`IsKeptBy`).
-/
import Mathlib.Data.List.Forall2
import ShaderRecords.Proofs.Description.Lowering
import ShaderRecords.Proofs.Text.LowerCase

namespace ShaderRecords

/-! ## Maps with distinct keys -/

namespace Value

/-- Whether no map in a value has a key twice. -/
inductive KeysDiffer : Value → Prop
  | scalar {v : Value} (h : v.isKey = true) : KeysDiffer v
  | list {items : List Value} (hitems : ∀ w ∈ items, KeysDiffer w) : KeysDiffer (.list items)
  | map {es : Entries} (hnames : es.names.Nodup) (hvalues : ∀ e ∈ es, KeysDiffer e.2) : KeysDiffer (.map es)

@[simp] theorem keysDiffer_text (s : String) : (Value.text s).KeysDiffer := .scalar rfl

@[simp] theorem keysDiffer_int (n : Int) : (Value.int n).KeysDiffer := .scalar rfl

@[simp] theorem keysDiffer_list {items : List Value} :
    (Value.list items).KeysDiffer ↔ ∀ w ∈ items, w.KeysDiffer := by
  refine ⟨fun h => ?_, .list⟩
  cases h with
  | scalar h => cases h
  | list hitems => exact hitems

@[simp] theorem keysDiffer_map {es : Entries} :
    (Value.map es).KeysDiffer ↔ es.names.Nodup ∧ ∀ e ∈ es, e.2.KeysDiffer := by
  refine ⟨fun h => ?_, fun h => .map h.1 h.2⟩
  cases h with
  | scalar h => cases h
  | map hnames hvalues => exact ⟨hnames, hvalues⟩

theorem KeysDiffer.asItems {v : Value} (h : v.KeysDiffer) : ∀ w ∈ v.asItems, w.KeysDiffer := by
  cases v with
  | null => exact nofun
  | list items => exact keysDiffer_list.mp h
  | _ => exact List.forall_mem_singleton.mpr h

end Value

namespace Ordered

/-- Under distinct names, what an entry holds is what is found under its name. -/
theorem find?_eq_some_of_mem {es : Entries} (hnames : es.names.Nodup) {e : String × Value} (he : e ∈ es) :
    find? es e.1 = some e.2 := by
  induction es with
  | nil => cases he
  | cons e' es ih =>
    obtain ⟨k, v⟩ := e'
    rw [names_cons, List.nodup_cons] at hnames
    rw [find?_cons]
    rcases List.mem_cons.mp he with rfl | he
    · rw [if_pos rfl]
    · have hne : e.1 ≠ k := fun h => hnames.1 (h ▸ List.mem_map_of_mem he)
      rw [if_neg hne, ih hnames.2 he]

end Ordered

/-! ## Values changed by key -/

namespace Entries

/-- Changes the value under each key. -/
def mapValues (f : String → Value → Value) (es : Entries) : Entries :=
  es.map fun e => (e.1, f e.1 e.2)

variable {f : String → Value → Value}

@[simp] theorem names_mapValues (es : Entries) : Ordered.names (es.mapValues f) = Ordered.names es := by
  simp [mapValues, Ordered.names]

theorem modify_eq_mapValues (es : Entries) (key : String) (g : Value → Value) :
    es.modify key g = es.mapValues fun k v => if k = key then g v else v := by
  refine List.map_congr_left fun e _ => ?_
  dsimp only
  split <;> rfl

theorem mapValues_mapValues (es : Entries) (g : String → Value → Value) :
    (es.mapValues f).mapValues g = es.mapValues fun k v => g k (f k v) := by
  simp [mapValues]

/-- Values changed by key can be changed before under a key that is left alone. -/
theorem mapValues_modify (es : Entries) {key : String} (g : Value → Value) (hf : ∀ v, f key v = v) :
    (es.modify key g).mapValues f = es.mapValues fun k v => if k = key then g v else f k v := by
  rw [modify_eq_mapValues, mapValues_mapValues]
  congr 1
  funext k v
  split
  next h => rw [h, hf]
  next => rfl

theorem mapValues_eq_self {es : Entries} (h : ∀ e ∈ es, f e.1 e.2 = e.2) : es.mapValues f = es := by
  refine (List.map_congr_left fun e he => ?_).trans (List.map_id es)
  rw [h e he]
  rfl

theorem get_mapValues (es : Entries) {key : String} (hf : f key .null = .null) :
    (es.mapValues f).get key = f key (es.get key) := by
  rw [get, get]
  induction es with
  | nil => exact hf.symm
  | cons e es ih =>
    obtain ⟨k, v⟩ := e
    have hcons : mapValues f ((k, v) :: es) = (k, f k v) :: mapValues f es := rfl
    rw [hcons, Ordered.find?_cons, Ordered.find?_cons]
    split
    next h => rw [h]; rfl
    next => exact ih

end Entries

/-! ## The normal form -/

namespace Normalization

/-- The normal form of what stands under a key of a surface. -/
def surfaceValue (key : String) (v : Value) : Value :=
  if key = "display_names" then v.listed else if key = "precision" then v.lowered else v

/-- The normal form of what stands under a key of a packing request. -/
def directiveValue (key : String) (v : Value) : Value :=
  if key = "display_names" then v.listed else v

/-- The normal form of what stands under a key of a member. -/
def memberValue (key : String) (v : Value) : Value :=
  if key = "surface" then v.mapEntries (Entries.mapValues surfaceValue)
  else if key = "packing" then v.listed.mapItems (Value.mapEntries (Entries.mapValues directiveValue))
  else v

/-- The normal form of what stands where maps of one kind are expected, by the values under their keys. -/
def listValue (f : String → Value → Value) (v : Value) : Value :=
  v.mapItems (Value.mapEntries (Entries.mapValues f))

/-- The normal form of what stands under a key of a compound. -/
def compoundValue (key : String) (v : Value) : Value :=
  if key = "fields" then listValue memberValue v else v

/-- The normal form of what stands under a key of a type. -/
def typeValue (key : String) (v : Value) : Value :=
  if key = "kind" then v.lowered else if key = "packing_rules" then v.lowered
  else if key = "members" then listValue memberValue v else v

/-- The normal form of what stands under a key of a source. -/
def sourceValue (key : String) (v : Value) : Value :=
  if key = "types" then listValue typeValue v else v

/-- The normal form of what stands under a key of a document. -/
def documentValue (key : String) (v : Value) : Value :=
  if key = "compounds" then listValue compoundValue v
  else if key = "sources" then listValue sourceValue v else v

end Normalization

/-- The normal form of a document, whether or not it can be walked through. -/
def Value.normalForm (doc : Value) : Value :=
  doc.mapEntries (Entries.mapValues Normalization.documentValue)

/-! ## What normalization gives -/

namespace Normalization

theorem surface_eq_mapValues : surface = Entries.mapValues surfaceValue := by
  funext es
  rw [surface, Entries.modify_eq_mapValues, Entries.mapValues_modify _ _ fun _ => if_neg (by decide)]
  rfl

theorem directive_eq_mapValues : directive = Entries.mapValues directiveValue :=
  funext fun es => es.modify_eq_mapValues "display_names" Value.listed

theorem member_eq_mapValues : member = Entries.mapValues memberValue := by
  funext es
  rw [member, surface_eq_mapValues, directive_eq_mapValues, Entries.modify_eq_mapValues,
    Entries.mapValues_modify _ _ fun _ => if_neg (by decide)]
  rfl

theorem members_eq_listValue : members = listValue memberValue := by
  funext v
  rw [members, member_eq_mapValues, listValue]

theorem compound_eq_ok {v w : Value} (h : compound v = .ok w) :
    w = v.mapEntries (Entries.mapValues compoundValue) := by
  obtain ⟨es, hes, h⟩ := bind_eq_ok_iff.mp h
  obtain ⟨-, -, h⟩ := bind_eq_ok_iff.mp h
  rw [Value.eq_map_of_entries hes, ← Except.ok.inj h, members_eq_listValue, Entries.modify_eq_mapValues]
  rfl

theorem typeDef_eq_ok {v w : Value} (h : typeDef v = .ok w) :
    w = v.mapEntries (Entries.mapValues typeValue) := by
  obtain ⟨es, hes, h⟩ := bind_eq_ok_iff.mp h
  obtain ⟨-, -, h⟩ := bind_eq_ok_iff.mp h
  rw [Value.eq_map_of_entries hes, ← Except.ok.inj h, members_eq_listValue, Entries.modify_eq_mapValues,
    Entries.mapValues_modify _ _ fun _ => if_neg (by decide),
    Entries.mapValues_modify _ _ fun _ => (if_neg (by decide)).trans (if_neg (by decide))]
  rfl

/-- The items of a list are given one by one. -/
theorem each_eq_ok {f : Value → Except Breakdown Value} {g : Value → Value} {v v' : Value}
    (hf : ∀ w w', w.KeysDiffer → f w = .ok w' → w' = g w) (hkeys : v.KeysDiffer) (h : each f v = .ok v') :
    v' = v.mapItems g := by
  rcases each_cases h with ⟨vs, normal, rfl, rfl, hall⟩ | ⟨rfl, hnot⟩
  · have hboth := (List.forall₂_and_left _ _).mpr ⟨Value.keysDiffer_list.mp hkeys, hall⟩
    have hsame : vs.map g = normal.map id :=
      map_eq_map_of_forall₂ (hboth.imp fun w w' hw => (hf w w' hw.1 hw.2).symm)
    rw [Value.mapItems, hsame, List.map_id]
  · cases v' with
    | list vs => exact absurd rfl (hnot vs)
    | _ => rfl

/-- Under distinct keys there is one value to give under a key. -/
theorem under_eq_ok {key : String} {f : Value → Except Breakdown Value} {g : Value → Value} {es es' : Entries}
    (hf : ∀ v v', v.KeysDiffer → f v = .ok v' → v' = g v) (hkeys : (Value.map es).KeysDiffer)
    (h : under key f es = .ok es') : es' = es.modify key g := by
  obtain ⟨hnames, hvalues⟩ := Value.keysDiffer_map.mp hkeys
  obtain ⟨v', hv', h⟩ := bind_eq_ok_iff.mp h
  rw [← Except.ok.inj h]
  refine List.map_congr_left fun e he => ?_
  dsimp only
  split
  next hkey =>
    rw [← hkey, Ordered.find?_eq_some_of_mem hnames he] at hv'
    rw [hf _ _ (hvalues e he) hv']
  next => rfl

theorem source_eq_ok {v w : Value} (hkeys : v.KeysDiffer) (h : source v = .ok w) :
    w = v.mapEntries (Entries.mapValues sourceValue) := by
  obtain ⟨es, hes, hrest⟩ := bind_eq_ok_iff.mp h
  obtain ⟨es', hunder, hw⟩ := bind_eq_ok_iff.mp hrest
  obtain rfl := Value.eq_map_of_entries hes
  rw [← Except.ok.inj hw, under_eq_ok (fun v v' => each_eq_ok fun w w' _ => typeDef_eq_ok) hkeys hunder,
    Entries.modify_eq_mapValues]
  rfl

end Normalization

/-! ## Values that a change settles -/

/-- A change that changes nothing a second time and keeps the keys of maps distinct. -/
structure IsTidy (f : Value → Value) : Prop where
  idem : ∀ v, f (f v) = f v
  keysDiffer : ∀ v : Value, v.KeysDiffer → (f v).KeysDiffer

namespace IsTidy

variable {f : Value → Value}

theorem same : IsTidy fun v => v :=
  ⟨fun _ => rfl, fun _ h => h⟩

theorem lowered : IsTidy Value.lowered where
  idem v := by
    cases v with
    | text s => exact congrArg Value.text (Text.lower_lower s)
    | _ => rfl
  keysDiffer v h := by
    cases v with
    | text s => exact .scalar rfl
    | _ => exact h

theorem mapItems (h : IsTidy f) : IsTidy (Value.mapItems f) where
  idem v := by
    cases v with
    | list items => simp [Value.mapItems, h.idem]
    | _ => rfl
  keysDiffer v hv := by
    cases v with
    | list items =>
      simp only [Value.mapItems, Value.keysDiffer_list, List.forall_mem_map] at hv ⊢
      exact fun w hw => h.keysDiffer w (hv w hw)
    | _ => exact hv

/-- A value becomes a list once. -/
theorem listedItems (h : IsTidy f) : IsTidy fun v => v.listed.mapItems f where
  idem _ := h.mapItems.idem (Value.list _)
  keysDiffer _ hv := h.mapItems.keysDiffer _ (.list hv.asItems)

theorem listed : IsTidy Value.listed where
  idem _ := rfl
  keysDiffer _ hv := .list hv.asItems

theorem mapValues {f : String → Value → Value} (h : ∀ key, IsTidy (f key)) :
    IsTidy (Value.mapEntries (Entries.mapValues f)) where
  idem v := by
    cases v with
    | map es => simp [Value.mapEntries, Entries.mapValues_mapValues, (h _).idem]
    | _ => rfl
  keysDiffer v hv := by
    cases v with
    | map es =>
      obtain ⟨hnames, hvalues⟩ := Value.keysDiffer_map.mp hv
      refine .map (by rwa [Entries.names_mapValues]) fun e he => ?_
      obtain ⟨e', he', rfl⟩ := List.mem_map.mp he
      exact (h e'.1).keysDiffer _ (hvalues e' he')
    | _ => exact hv

/-- A change that is made under one key and leaves others to another one. -/
theorem ite {p : Prop} [Decidable p] {g : Value → Value} (hf : IsTidy f) (hg : IsTidy g) :
    IsTidy fun v => if p then f v else g v := by
  by_cases h : p
  · simpa [h] using hf
  · simpa [h] using hg

end IsTidy

namespace Normalization

theorem isTidy_listValue {f : String → Value → Value} (h : ∀ key, IsTidy (f key)) : IsTidy (listValue f) :=
  (IsTidy.mapValues h).mapItems

theorem isTidy_memberValue (key : String) : IsTidy (memberValue key) := by
  have hsurface : ∀ key, IsTidy (surfaceValue key) := fun key => .ite .listed (.ite .lowered .same)
  have hdirective : ∀ key, IsTidy (directiveValue key) := fun key => .ite .listed .same
  exact .ite (.mapValues hsurface) (.ite (.listedItems (.mapValues hdirective)) .same)

theorem isTidy_compounds : IsTidy (listValue compoundValue) :=
  isTidy_listValue fun _ => .ite (isTidy_listValue isTidy_memberValue) .same

theorem isTidy_documentValue (key : String) : IsTidy (documentValue key) := by
  have hmembers : IsTidy (listValue memberValue) := isTidy_listValue isTidy_memberValue
  have htype : ∀ key, IsTidy (typeValue key) := fun key => .ite .lowered (.ite .lowered (.ite hmembers .same))
  have hsource : ∀ key, IsTidy (sourceValue key) := fun key => .ite (isTidy_listValue htype) .same
  exact .ite isTidy_compounds (.ite (isTidy_listValue hsource) .same)

end Normalization

theorem Value.normalForm_normalForm (doc : Value) : doc.normalForm.normalForm = doc.normalForm :=
  (IsTidy.mapValues Normalization.isTidy_documentValue).idem doc

theorem Value.KeysDiffer.normalForm {doc : Value} (h : doc.KeysDiffer) : doc.normalForm.KeysDiffer :=
  (IsTidy.mapValues Normalization.isTidy_documentValue).keysDiffer doc h

/-! ## Success -/

theorem SucceedsIff.of_eq_ok {α : Type} {x : Except Breakdown α} {p : Prop} (h : SucceedsIff x p) {a : α}
    (hx : x = .ok a) : p := by
  by_contra hp
  rcases h.broken hp with hbroken | hbroken <;> exact absurd (hx.symm.trans hbroken) nofun

namespace Value

theorem IsIterable.mapItems {v : Value} (h : v.IsIterable) (f : Value → Value) : (v.mapItems f).IsIterable := by
  cases v with
  | list items => exact Or.inr (Or.inl ⟨_, rfl⟩)
  | _ => exact h

/-- Maps in a list stay maps. -/
theorem IsListOfMaps.listValue {p q : Entries → Prop} {v : Value} {f : String → Value → Value}
    (h : v.IsListOfMaps p) (hf : ∀ es, p es → q (es.mapValues f)) :
    (Normalization.listValue f v).IsListOfMaps q := by
  rcases h with habsent | ⟨items, rfl, hall⟩
  · left
    cases v with
    | list items =>
      obtain rfl : items = [] := by simpa [isPresent] using habsent
      rfl
    | _ => exact habsent
  · refine Or.inr ⟨_, rfl, List.forall_mem_map.mpr fun w hw => ?_⟩
    obtain ⟨es, rfl, hes⟩ := hall w hw
    exact ⟨Entries.mapValues f es, rfl, hf es hes⟩

/-- What can be walked through can be walked through in its normal form. -/
theorem IsWalkable.normalForm {doc : Value} (h : doc.IsWalkable) : doc.normalForm.IsWalkable := by
  obtain ⟨es, rfl, hcompounds, hsources⟩ := h
  refine ⟨Entries.mapValues Normalization.documentValue es, rfl, ?_, ?_⟩
  · rw [Entries.get_mapValues es rfl]
    refine hcompounds.listValue fun c hc => ?_
    rw [Entries.get_mapValues c rfl]
    exact hc.mapItems _
  · rw [Entries.get_mapValues es rfl]
    refine hsources.listValue fun s hs => ?_
    rw [Entries.get_mapValues s rfl]
    refine hs.listValue fun t ht => ?_
    rw [Entries.get_mapValues t rfl]
    exact ht.mapItems _

end Value

/-- What normalization gives is the normal form. -/
theorem eq_normalForm_of_normalize {doc doc' : Value} (hkeys : doc.KeysDiffer) (h : normalize doc = .ok doc') :
    doc' = doc.normalForm := by
  obtain ⟨es, hes, hrest⟩ := bind_eq_ok_iff.mp h
  obtain ⟨es₁, hcompounds, hrest⟩ := bind_eq_ok_iff.mp hrest
  obtain ⟨es₂, hsources, hdoc'⟩ := bind_eq_ok_iff.mp hrest
  obtain rfl := Value.eq_map_of_entries hes
  have h₁ : es₁ = Entries.modify es "compounds" (Normalization.listValue Normalization.compoundValue) :=
    Normalization.under_eq_ok (fun v v' => Normalization.each_eq_ok fun w w' _ => Normalization.compound_eq_ok)
      hkeys hcompounds
  -- The sources are looked up in what has the compounds in their form.
  have hkeys₁ : (Value.map es₁).KeysDiffer := by
    rw [h₁, Entries.modify_eq_mapValues]
    exact (IsTidy.mapValues fun key => .ite Normalization.isTidy_compounds .same).keysDiffer _ hkeys
  have h₂ : es₂ = Entries.modify es₁ "sources" (Normalization.listValue Normalization.sourceValue) :=
    Normalization.under_eq_ok (fun v v' => Normalization.each_eq_ok fun w w' => Normalization.source_eq_ok)
      hkeys₁ hsources
  rw [← Except.ok.inj hdoc', h₂, h₁, Entries.modify_eq_mapValues,
    Entries.mapValues_modify _ _ fun _ => if_neg (by decide)]
  rfl

/-- Normalization succeeds on documents that can be walked through, and gives their normal form. -/
theorem normalize_eq_ok_iff {doc doc' : Value} (hkeys : doc.KeysDiffer) :
    normalize doc = .ok doc' ↔ doc.IsWalkable ∧ doc' = doc.normalForm := by
  constructor
  · intro h
    exact ⟨(normalize_succeedsIff doc).of_eq_ok h, eq_normalForm_of_normalize hkeys h⟩
  · rintro ⟨hwalkable, rfl⟩
    obtain ⟨doc', h⟩ := (normalize_succeedsIff doc).ok hwalkable
    rw [h, eq_normalForm_of_normalize hkeys h]

/-- Normalization gives a document that it gives back. -/
theorem normalize_of_normalize {doc doc' : Value} (hkeys : doc.KeysDiffer) (h : normalize doc = .ok doc') :
    normalize doc' = .ok doc' := by
  obtain ⟨hwalkable, rfl⟩ := (normalize_eq_ok_iff hkeys).mp h
  exact (normalize_eq_ok_iff hkeys.normalForm).mpr ⟨hwalkable.normalForm, doc.normalForm_normalForm.symm⟩

/-! ## What else changes -/

namespace Value

/-- Whether two values are the same but for what stands under the keys of a map: the keys are the same in the same
order, and where their values are not the same, they differ in an allowed way. -/
def AgreesBut (differs : String → Value → Value → Prop) : Value → Value → Prop
  | .map es, .map es' =>
    List.Forall₂ (fun e e' => e.1 = e'.1 ∧ (e.2 = e'.2 ∨ differs e.1 e.2 e'.2)) es es'
  | v, w => v = w

/-- Whether two values are the same but for the items of a list, which agree one by one. -/
def ItemsAgreeBut (differs : String → Value → Value → Prop) : Value → Value → Prop
  | .list items, .list items' => List.Forall₂ (AgreesBut differs) items items'
  | v, w => v = w

variable {differs : String → Value → Value → Prop} {f : String → Value → Value}

theorem agreesBut_mapValues (h : ∀ key v, f key v = v ∨ differs key v (f key v)) (v : Value) :
    v.AgreesBut differs (v.mapEntries (Entries.mapValues f)) := by
  cases v with
  | map es =>
    refine List.forall₂_map_right_iff.mpr (List.forall₂_same.mpr fun e _ => ⟨rfl, ?_⟩)
    exact (h e.1 e.2).imp_left Eq.symm
  | _ => rfl

theorem itemsAgreeBut_listValue (h : ∀ key v, f key v = v ∨ differs key v (f key v)) (v : Value) :
    v.ItemsAgreeBut differs (Normalization.listValue f v) := by
  cases v with
  | list items => exact List.forall₂_map_right_iff.mpr (List.forall₂_same.mpr fun w _ => agreesBut_mapValues h w)
  | _ => rfl

end Value

namespace Normalization

/-- The parts of a surface that have a form of their own. -/
def SurfaceDiffers (key : String) (v w : Value) : Prop :=
  key = "precision" ∧ w = v.lowered ∨ key = "display_names" ∧ w = v.listed

/-- The parts of a packing request that have a form of their own. -/
def DirectiveDiffers (key : String) (v w : Value) : Prop :=
  key = "display_names" ∧ w = v.listed

/-- The parts of a member that have a form of their own: its surface, and its packing requests, which are put into
a list. -/
def MemberDiffers (key : String) (v w : Value) : Prop :=
  key = "surface" ∧ v.AgreesBut SurfaceDiffers w
    ∨ key = "packing" ∧ (Value.list v.asItems).ItemsAgreeBut DirectiveDiffers w

/-- The parts of a compound that have a form of their own. -/
def CompoundDiffers (key : String) (v w : Value) : Prop :=
  key = "fields" ∧ v.ItemsAgreeBut MemberDiffers w

/-- The parts of a type that have a form of their own. -/
def TypeDiffers (key : String) (v w : Value) : Prop :=
  (key = "kind" ∨ key = "packing_rules") ∧ w = v.lowered ∨ key = "members" ∧ v.ItemsAgreeBut MemberDiffers w

/-- The parts of a source that have a form of their own. -/
def SourceDiffers (key : String) (v w : Value) : Prop :=
  key = "types" ∧ v.ItemsAgreeBut TypeDiffers w

/-- The parts of a document that have a form of their own. -/
def DocumentDiffers (key : String) (v w : Value) : Prop :=
  key = "compounds" ∧ v.ItemsAgreeBut CompoundDiffers w ∨ key = "sources" ∧ v.ItemsAgreeBut SourceDiffers w

/-- Where one key is singled out, what stands under it may differ. -/
theorem ite_eq_or {p : Prop} [Decidable p] {v w x : Value} {q : Value → Prop} (hw : p → w = v ∨ q w)
    (hx : x = v ∨ q x) : (if p then w else x) = v ∨ q (if p then w else x) := by
  split
  next h => exact hw h
  next => exact hx

theorem memberValue_eq_or_differs (key : String) (v : Value) :
    memberValue key v = v ∨ MemberDiffers key v (memberValue key v) := by
  have hsurface : ∀ key v, surfaceValue key v = v ∨ SurfaceDiffers key v (surfaceValue key v) := fun key v =>
    ite_eq_or (fun h => .inr (.inr ⟨h, rfl⟩)) (ite_eq_or (fun h => .inr (.inl ⟨h, rfl⟩)) (.inl rfl))
  have hdirective : ∀ key v, directiveValue key v = v ∨ DirectiveDiffers key v (directiveValue key v) :=
    fun key v => ite_eq_or (fun h => .inr ⟨h, rfl⟩) (.inl rfl)
  exact ite_eq_or (fun h => .inr (.inl ⟨h, Value.agreesBut_mapValues hsurface v⟩))
    (ite_eq_or (fun h => .inr (.inr ⟨h, Value.itemsAgreeBut_listValue hdirective v.listed⟩)) (.inl rfl))

theorem documentValue_eq_or_differs (key : String) (v : Value) :
    documentValue key v = v ∨ DocumentDiffers key v (documentValue key v) := by
  have hmembers := Value.itemsAgreeBut_listValue memberValue_eq_or_differs
  have hcompound : ∀ key v, compoundValue key v = v ∨ CompoundDiffers key v (compoundValue key v) := fun key v =>
    ite_eq_or (fun h => .inr ⟨h, hmembers v⟩) (.inl rfl)
  have htype : ∀ key v, typeValue key v = v ∨ TypeDiffers key v (typeValue key v) := fun key v =>
    ite_eq_or (fun h => .inr (.inl ⟨.inl h, rfl⟩)) (ite_eq_or (fun h => .inr (.inl ⟨.inr h, rfl⟩))
      (ite_eq_or (fun h => .inr (.inr ⟨h, hmembers v⟩)) (.inl rfl)))
  have hsource : ∀ key v, sourceValue key v = v ∨ SourceDiffers key v (sourceValue key v) := fun key v =>
    ite_eq_or (fun h => .inr ⟨h, Value.itemsAgreeBut_listValue htype v⟩) (.inl rfl)
  exact ite_eq_or (fun h => .inr (.inl ⟨h, Value.itemsAgreeBut_listValue hcompound v⟩))
    (ite_eq_or (fun h => .inr (.inr ⟨h, Value.itemsAgreeBut_listValue hsource v⟩)) (.inl rfl))

end Normalization

/-- Nothing changes but the parts of a document that have a form of their own. -/
theorem Value.agreesBut_normalForm (doc : Value) : doc.AgreesBut Normalization.DocumentDiffers doc.normalForm :=
  agreesBut_mapValues Normalization.documentValue_eq_or_differs doc

/-! ## Documents that follow the schema -/

/-- Whether a change keeps the values that follow a schema. -/
def IsKeptBy (f : Value → Value) (s : Schema) : Prop :=
  ∀ v : Value, v.KeysDiffer → s.accepts v = true → f v = v

namespace IsKeptBy

variable {f : Value → Value} {s : Schema}

theorem same : IsKeptBy (fun v => v) s :=
  fun _ _ _ => rfl

theorem mapItems (h : IsKeptBy f s) : IsKeptBy (Value.mapItems f) (Schema.listOf s) := by
  intro v hkeys hv
  obtain ⟨items, rfl, hitems⟩ := Schema.accepts_listOf.mp hv
  have hall := Value.keysDiffer_list.mp hkeys
  refine congrArg Value.list ((List.map_congr_left fun w hw => ?_).trans (List.map_id items))
  exact h w (hall w hw) (hitems w hw)

/-- Lists are lists already. -/
theorem of_listed (h : IsKeptBy (Value.mapItems f) (Schema.listOf s)) :
    IsKeptBy (fun v => v.listed.mapItems f) (Schema.listOf s) := by
  intro v hkeys hv
  obtain ⟨items, rfl, -⟩ := Schema.accepts_listOf.mp hv
  exact h _ hkeys hv

theorem listed : IsKeptBy Value.listed (Schema.listOf s) := by
  intro v hkeys hv
  obtain ⟨items, rfl, -⟩ := Schema.accepts_listOf.mp hv
  rfl

/-- A record is kept if what stands under each of its keys is. -/
theorem record {f : String → Value → Value} {required : List String} {known : List (String × Schema)}
    (h : ∀ e ∈ known, IsKeptBy (f e.1) e.2) :
    IsKeptBy (Value.mapEntries (Entries.mapValues f)) (Schema.record required known) := by
  intro v hkeys hv
  obtain ⟨es, rfl, hfits⟩ := Schema.accepts_record.mp hv
  obtain ⟨hnames, hvalues⟩ := Value.keysDiffer_map.mp hkeys
  refine congrArg Value.map (Entries.mapValues_eq_self fun e he => ?_)
  obtain ⟨e', he', hname⟩ := List.mem_map.mp (hfits.closed e he)
  have hfound : List.lookup e'.1 es = some e.2 := by
    rw [hname]
    exact Ordered.find?_eq_some_of_mem hnames he
  rw [← hname]
  exact h e' he' e.2 (hvalues e he) (hfits.known e' he' e.2 hfound)

/-- Texts to choose from are in lower case. -/
theorem lowered_among (texts : List String) (h : ∀ t ∈ texts, Text.lower t = t) :
    IsKeptBy Value.lowered (Schema.among (texts.map .text)) := by
  intro v _ hv
  obtain ⟨w, hw, hequal⟩ := Rule.admits_among.mp (Schema.accepts_singleton.mp hv)
  obtain ⟨t, ht, rfl⟩ := List.mem_map.mp hw
  cases v with
  | text s =>
    obtain rfl : t = s := by simpa [Value.equalTo, Value.same] using hequal
    exact congrArg Value.text (h t ht)
  | _ => rfl

end IsKeptBy

namespace Normalization

theorem isKeptBy_surface : IsKeptBy (Value.mapEntries (Entries.mapValues surfaceValue)) Schema.surface := by
  have hprecision : IsKeptBy Value.lowered (Schema.among ["standard", "half", "real"]) :=
    .lowered_among ["standard", "half", "real"] (by decide)
  refine .record ?_
  simp only [List.forall_mem_cons]
  exact ⟨.listed, .same, .same, .same, hprecision, .same, nofun⟩

theorem isKeptBy_directive : IsKeptBy (Value.mapEntries (Entries.mapValues directiveValue)) Schema.packing := by
  refine .record ?_
  simp only [List.forall_mem_cons]
  exact ⟨.listed, .same, .same, .same, .same, .same, .same, .same, .same, nofun⟩

theorem isKeptBy_members : IsKeptBy (listValue memberValue) (Schema.listOf Schema.member) := by
  refine .mapItems (.record ?_)
  simp only [List.forall_mem_cons]
  exact ⟨.same, .same, .same, .same, .same, .same, .same, isKeptBy_surface, isKeptBy_directive.mapItems.of_listed,
    .same, nofun⟩

theorem isKeptBy_compounds : IsKeptBy (listValue compoundValue) (Schema.listOf Schema.compound) := by
  refine .mapItems (.record ?_)
  simp only [List.forall_mem_cons]
  exact ⟨.same, isKeptBy_members, nofun⟩

theorem isKeptBy_types : IsKeptBy (listValue typeValue) (Schema.listOf Schema.typeDef) := by
  have hkind : IsKeptBy Value.lowered (Schema.among ["struct", "enum"]) :=
    .lowered_among ["struct", "enum"] (by decide)
  have hrules : IsKeptBy Value.lowered (Schema.among ["exact", "aggressive"]) :=
    .lowered_among ["exact", "aggressive"] (by decide)
  refine .mapItems (.record ?_)
  simp only [List.forall_mem_cons]
  exact ⟨.same, .same, hkind, hrules, .same, .same, .same, .same, .same, .same, .same, isKeptBy_members, .same,
    nofun⟩

theorem isKeptBy_sources : IsKeptBy (listValue sourceValue) (Schema.listOf Schema.source) := by
  refine .mapItems (.record ?_)
  simp only [List.forall_mem_cons]
  exact ⟨.same, isKeptBy_types, .same, .same, .same, nofun⟩

end Normalization

theorem Value.normalForm_isKeptBy_document : IsKeptBy Value.normalForm Schema.document := by
  refine .record ?_
  simp only [List.forall_mem_cons]
  exact ⟨.same, .same, Normalization.isKeptBy_compounds, Normalization.isKeptBy_sources, nofun⟩

/-! Whatever follows the schema can be walked through. -/

namespace Schema.Fits

variable {required : List String} {known : List (String × Schema)} {es : Entries} (key : String) (s : Schema)

theorem isIterable (h : Fits required known es) (hknown : (key, listOf s) ∈ known) : (es.get key).IsIterable :=
  (Value.succeedsIff_elementsIfAny _).of_eq_ok (h.elements key hknown).1

theorem isListOfMaps {p : Entries → Prop} (h : Fits required known es) (hknown : (key, listOf s) ∈ known)
    (hp : ∀ w, s.accepts w = true → ∃ es : Entries, w = .map es ∧ p es) : (es.get key).IsListOfMaps p := by
  obtain ⟨helements, hall⟩ := h.elements key hknown
  exact (Value.isListOfMaps_iff helements).mpr fun w hw => hp w (hall w hw)

end Schema.Fits

theorem Value.isWalkable_of_accepts {doc : Value} (h : Schema.document.accepts doc = true) : doc.IsWalkable := by
  obtain ⟨es, rfl, hfits⟩ := Schema.accepts_record.mp h
  refine ⟨es, rfl, hfits.isListOfMaps "compounds" Schema.compound (by simp) fun w hw => ?_,
    hfits.isListOfMaps "sources" Schema.source (by simp) fun w hw => ?_⟩
  · obtain ⟨c, rfl, hc⟩ := Schema.accepts_record.mp hw
    exact ⟨c, rfl, hc.isIterable "fields" Schema.member (by simp)⟩
  · obtain ⟨s, rfl, hs⟩ := Schema.accepts_record.mp hw
    refine ⟨s, rfl, hs.isListOfMaps "types" Schema.typeDef (by simp) fun w hw => ?_⟩
    obtain ⟨t, rfl, ht⟩ := Schema.accepts_record.mp hw
    exact ⟨t, rfl, ht.isIterable "members" Schema.member (by simp)⟩

/-! ## Normalization -/

/-- **Normalization settles a document.** What it gives it gives back; that has other values than the document
under the documented keys only, with all keys in their places. A document that follows the schema it leaves as it
is. -/
theorem normalize_settles {doc : Value} (hkeys : doc.KeysDiffer) :
    (∀ doc', normalize doc = .ok doc' →
      normalize doc' = .ok doc' ∧ doc.AgreesBut Normalization.DocumentDiffers doc')
    ∧ (Schema.document.accepts doc = true → normalize doc = .ok doc) := by
  refine ⟨fun doc' h => ⟨normalize_of_normalize hkeys h, ?_⟩, fun h => ?_⟩
  · obtain ⟨-, rfl⟩ := (normalize_eq_ok_iff hkeys).mp h
    exact doc.agreesBut_normalForm
  · refine (normalize_eq_ok_iff hkeys).mpr ⟨Value.isWalkable_of_accepts h, ?_⟩
    exact (Value.normalForm_isKeptBy_document doc hkeys h).symm

/-- The mixed document with all of it in the form of the schema. -/
def plainDocument : Value :=
  .map [("meta", .map [("version", "1.0.0")]), ("sources", .list [.map [("path", "Lights.cs"),
    ("types", .list [.map [("name", "Light"), ("kind", "struct"), ("packing_rules", "aggressive"),
      ("members", .list [.map [("name", "range"), ("type", "float"),
        ("surface", .map [("display_names", .list ["Range"]), ("precision", "half")]),
        ("packing", .list [.map [("scheme", "PackedFloat"), ("width", .int 8)]])]])]])]])]

/-- The one document is changed once, the other one never. -/
theorem normalize_settles_mixedDocument :
    (∃ doc', normalize mixedDocument = .ok doc' ∧ doc'.typesOf ≠ mixedDocument.typesOf
      ∧ normalize doc' = .ok doc' ∧ mixedDocument.AgreesBut Normalization.DocumentDiffers doc')
    ∧ normalize plainDocument = .ok plainDocument := by
  have hmixed : mixedDocument.KeysDiffer := by simp [mixedDocument, Ordered.names]
  have hplain : plainDocument.KeysDiffer := by simp [plainDocument, Ordered.names]
  refine ⟨⟨_, rfl, ?_, (normalize_settles hmixed).1 _ rfl⟩, (normalize_settles hplain).2 (by decide)⟩
  intro h
  have hkinds := congrArg (List.map fun t : Value => (t.part "kind").display) h
  revert hkinds
  decide

end ShaderRecords
