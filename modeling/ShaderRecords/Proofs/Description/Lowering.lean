/-
ShaderRecords.Proofs.Description.Lowering — what normalization does to a description.

A document and its normal form are read into descriptions that differ in the spelling of kinds, packing rules
and precisions and in nothing else. `Description.lowered` is the description with all of them in lower case. It
is what the normal form describes if every precision is given as a text; a precision that is given as something
else, such as `true`, is shown as it is spelled in both descriptions, which `Description.loweredIn` takes into
account. `Description.ofValue_normalize` says that whatever is described has a normal form and that this is what
the normal form describes.
-/
import ShaderRecords.Proofs.Description.Normalization

namespace ShaderRecords

/-! ## Descriptions in lower case -/

/-- The surface with its precision in lower case. -/
def Surface.lowered (s : Surface) : Surface :=
  { s with precision := Text.lower s.precision }

/-- The member with its precision in lower case. -/
def Member.lowered (m : Member) : Member :=
  { m with surface := m.surface.map Surface.lowered }

/-- The compound with the precisions of its fields in lower case. -/
def Compound.lowered (c : Compound) : Compound :=
  { c with fields := c.fields.map Member.lowered }

/-- The type with its kind, its packing rules and the precisions of its members in lower case, as far as they
are texts. -/
def TypeDef.lowered (t : TypeDef) : TypeDef :=
  { t with
    kind := t.kind.lowered
    packingRules := t.packingRules.lowered
    members := t.members.map Member.lowered }

/-- The source with its types in lower case. -/
def Source.lowered (s : Source) : Source :=
  { s with types := s.types.map TypeDef.lowered }

/-- The description with its kinds, packing rules and precisions in lower case. -/
def Description.lowered (d : Description) : Description :=
  { d with
    compounds := d.compounds.map Compound.lowered
    sources := d.sources.map Source.lowered }

/-! The same, but for precisions that a document gives as something else than a text. -/

/-- The surface that a value describes, with its precision in lower case unless that is given as something else
than a text. -/
def Surface.loweredIn (v : Value) (s : Surface) : Surface :=
  match v.part "precision" with
  | .null | .text _ => s.lowered
  | _ => s

/-- The member that a value describes, with its precision in lower case. -/
def Member.loweredIn (v : Value) (m : Member) : Member :=
  { m with surface := m.surface.map (Surface.loweredIn (v.part "surface")) }

/-- The compound that a value describes, with the precisions of its fields in lower case. -/
def Compound.loweredIn (v : Value) (c : Compound) : Compound :=
  { c with fields := List.zipWith Member.loweredIn (v.itemsUnder "fields") c.fields }

/-- The type that a value describes, in lower case. -/
def TypeDef.loweredIn (v : Value) (t : TypeDef) : TypeDef :=
  { t with
    kind := t.kind.lowered
    packingRules := t.packingRules.lowered
    members := List.zipWith Member.loweredIn (v.itemsUnder "members") t.members }

/-- The source that a value describes, with its types in lower case. -/
def Source.loweredIn (v : Value) (s : Source) : Source :=
  { s with types := List.zipWith TypeDef.loweredIn (v.itemsUnder "types") s.types }

/-- The description that a document stands for, in lower case. -/
def Description.loweredIn (doc : Value) (d : Description) : Description :=
  { d with
    compounds := List.zipWith Compound.loweredIn (doc.itemsUnder "compounds") d.compounds
    sources := List.zipWith Source.loweredIn (doc.itemsUnder "sources") d.sources }

/-! ## Texts in lower case -/

namespace Text

theorem lowerImage_ne_nil (c : Char) : lowerImage c ≠ [] := by
  have hexpansions : ∀ e ∈ lowerExpansions.toList, e.2 ≠ [] := by decide
  unfold lowerImage
  split
  · simp
  split
  · simp
  unfold caseImage
  split
  next _ image hfound =>
    have hmem := Array.mem_toList_iff.mpr (Array.mem_of_find?_eq_some hfound)
    simpa using hexpansions _ hmem
  next => split <;> simp

/-- Nothing but the empty text is empty in lower case. -/
theorem lower_eq_empty_iff {s : String} : lower s = "" ↔ s = "" := by
  have hnil : ∀ cs : List Char, lowerFrom [] cs = [] ↔ cs = [] := by
    intro cs
    cases cs with
    | nil => simp [lowerFrom]
    | cons c cs =>
      simp only [lowerFrom, List.append_eq_nil_iff, reduceCtorEq, iff_false, not_and]
      intro h
      split at h
      · split at h <;> cases h
      · exact absurd h (lowerImage_ne_nil c)
  rw [lower, ← String.toList_inj, String.toList_ofList, ← String.toList_inj]
  exact hnil s.toList

end Text

namespace Value

theorem isPresent_lowered (v : Value) : v.lowered.isPresent = v.isPresent := by
  cases v with
  | text s =>
    rw [Bool.eq_iff_iff]
    simp [lowered, isPresent, Text.lower_eq_empty_iff]
  | _ => rfl

/-- A default that is in lower case already may as well take the place of a value before it is lowered. -/
theorem orElse_lowered (v : Value) {s : String} (h : Text.lower s = s) :
    v.lowered.orElse (.text s) = (v.orElse (.text s)).lowered := by
  rw [orElse, orElse, isPresent_lowered]
  split
  · rfl
  · rw [lowered, h]

end Value

/-! ## Values under changed keys -/

namespace Entries

variable {es : Entries} {key : String} {f : Value → Value}

/-- What is found under a changed key is what was there, changed, if the change leaves what is missing. -/
theorem get_modify_self (es : Entries) (key : String) (hf : f .null = .null) :
    (es.modify key f).get key = f (es.get key) := by
  rw [get, get, Ordered.find?_modify, if_pos rfl]
  cases Ordered.find? es key with
  | none => exact hf.symm
  | some v => rfl

theorem flag_modify_of_ne (es : Entries) {other : String} (h : other ≠ key) (default : Bool) :
    (es.modify key f).flag other default = es.flag other default := by
  rw [flag, flag, Ordered.find?_modify, if_neg h]

/-- Labels are read from a list and from what stands for one alike. -/
theorem texts_modify_listed (es : Entries) (key : String) :
    (es.modify key Value.listed).texts key = es.texts key := by
  rw [texts, asItems_get_modify es key rfl]
  rfl

end Entries

/-! ## Members -/

theorem Text.lower_standard : Text.lower "standard" = "standard" := by
  decide

theorem Text.lower_struct : Text.lower "struct" = "struct" := by
  decide

theorem Text.lower_exact : Text.lower "exact" = "exact" := by
  decide

/-- A precision is shown in lower case if it is a text or left to the default, and as it is spelled otherwise. -/
theorem Value.display_lowered_orElse (v : Value) :
    (v.lowered.orElse (.text "standard")).display =
      match v with
      | .null | .text _ => Text.lower (v.orElse (.text "standard")).display
      | v => (v.orElse (.text "standard")).display := by
  rw [Value.orElse_lowered v Text.lower_standard]
  cases v with
  | null => rfl
  | text s => unfold orElse; split <;> rfl
  | _ =>
    dsimp only
    unfold orElse
    split
    · rfl
    · rw [lowered, Text.lower_standard]

/-- A surface is read from its normal form with its precision in lower case. -/
theorem Surface.ofEntries_normal (es : Entries) :
    Surface.ofEntries (Normalization.surface es) = (Surface.ofEntries es).loweredIn (.map es) := by
  have hlabels : (Normalization.surface es).texts "display_names" = es.texts "display_names" := by
    rw [Normalization.surface, Entries.texts, Entries.get_modify_of_ne _ (by decide)]
    exact es.texts_modify_listed "display_names"
  have hflag : ∀ key : String, key ≠ "display_names" → key ≠ "precision" →
      (Normalization.surface es).flag key = es.flag key := by
    intro key hlabels hprecision
    rw [Normalization.surface, Entries.flag_modify_of_ne _ hprecision, Entries.flag_modify_of_ne _ hlabels]
  have hguard : (Normalization.surface es).textOr "preprocessor" = es.textOr "preprocessor" := by
    rw [Normalization.surface, Entries.textOr, Entries.get_modify_of_ne _ (by decide),
      Entries.get_modify_of_ne _ (by decide)]
    rfl
  have hprecision : (Normalization.surface es).textOr "precision" "standard"
      = (((es.get "precision").lowered).orElse (.text "standard")).display := by
    rw [Normalization.surface, Entries.textOr, Entries.get_modify_self _ _ rfl,
      Entries.get_modify_of_ne _ (by decide)]
  rw [ofEntries, hlabels, hflag _ (by decide) (by decide), hflag _ (by decide) (by decide),
    hflag _ (by decide) (by decide), hprecision, hguard, Value.display_lowered_orElse, loweredIn, Value.part]
  split <;> simp_all [ofEntries, lowered, Entries.textOr]

theorem Surface.ofValue?_normal (v : Value) :
    Surface.ofValue? (v.mapEntries Normalization.surface)
      = Option.map (Surface.loweredIn v) <$> Surface.ofValue? v := by
  cases v with
  | map es => exact congrArg (fun s => Except.ok (some s)) (Surface.ofEntries_normal es)
  | _ => rfl

/-- A packing request is read from its normal form as it is. -/
theorem Directive.ofValue_normal (v : Value) :
    Directive.ofValue (v.mapEntries Normalization.directive) = Directive.ofValue v := by
  have hmap : ∀ es : Entries,
      Directive.ofValue (.map (Normalization.directive es)) = Directive.ofValue (.map es) := by
    intro es
    have hget : ∀ key : String, key ≠ "display_names" → (Normalization.directive es).get key = es.get key :=
      fun key h => Entries.get_modify_of_ne es h _
    have hflag : ∀ key : String, key ≠ "display_names" → (Normalization.directive es).flag key = es.flag key :=
      fun key h => Entries.flag_modify_of_ne es h _
    have hlabels : (Normalization.directive es).texts "display_names" = es.texts "display_names" :=
      es.texts_modify_listed "display_names"
    simp (disch := decide) only [Directive.ofValue, Value.entries, ok_bind, Entries.whole?, Entries.textOr, hlabels,
      hget, hflag]
  cases v with
  | map es => exact hmap es
  | _ => rfl

/-- A member is read from its normal form with its precision in lower case. -/
theorem Member.ofValue_normal (v : Value) :
    Member.ofValue (v.mapEntries Normalization.member) = Member.loweredIn v <$> Member.ofValue v := by
  have hmap : ∀ es : Entries, Member.ofValue (.map (Normalization.member es))
      = Member.loweredIn (.map es) <$> Member.ofValue (.map es) := by
    intro es
    have hget : ∀ key : String, key ≠ "surface" ∧ key ≠ "packing" →
        (Normalization.member es).get key = es.get key := by
      rintro key ⟨hsurface, hpacking⟩
      rw [Normalization.member, Entries.get_modify_of_ne _ hpacking, Entries.get_modify_of_ne _ hsurface]
    have hflag : ∀ key : String, key ≠ "surface" ∧ key ≠ "packing" →
        (Normalization.member es).flag key = es.flag key := by
      rintro key ⟨hsurface, hpacking⟩
      rw [Normalization.member, Entries.flag_modify_of_ne _ hpacking, Entries.flag_modify_of_ne _ hsurface]
    have hsurface : (Normalization.member es).get "surface"
        = (es.get "surface").mapEntries Normalization.surface := by
      rw [Normalization.member, Entries.get_modify_of_ne _ (by decide), Entries.get_modify_self _ _ rfl]
    have hpacking : ((Normalization.member es).get "packing").asItems.mapM Directive.ofValue
        = (es.get "packing").asItems.mapM Directive.ofValue := by
      rw [Normalization.member, Entries.asItems_get_modify _ _ rfl, Entries.get_modify_of_ne _ (by decide)]
      show (((es.get "packing").asItems.map (Value.mapEntries Normalization.directive)).mapM Directive.ofValue) = _
      rw [List.mapM_map]
      exact congrArg (fun read => List.mapM read _) (funext Directive.ofValue_normal)
    simp (disch := decide) only [Member.ofValue, Value.entries, ok_bind, Entries.whole?, Entries.textOr, hget, hflag,
      hsurface, hpacking, Surface.ofValue?_normal]
    cases (es.get "array_size").toWhole? with
    | error => rfl
    | ok =>
      cases Surface.ofValue? (es.get "surface") with
      | error => rfl
      | ok =>
        cases (es.get "packing").asItems.mapM Directive.ofValue <;> rfl
  cases v with
  | map es => exact hmap es
  | _ => rfl

/-! ## Lists of maps -/

namespace Normalization

variable {ε α : Type} {read : Value → Except ε α} {v : Value} {items : List Value} {as : List α}

/-- What is read by something that reads maps only is read from the items of a list, or there is nothing to read
and nothing to change. -/
theorem read_cases (hread : ∀ w a, read w = .ok a → ∃ es, w = .map es) (hitems : v.elementsIfAny = .ok items)
    (has : items.mapM read = .ok as) :
    (∃ vs, v = .list vs ∧ List.Forall₂ (fun w a => read w = .ok a) vs as)
      ∨ as = [] ∧ v.elementsIfAny = .ok [] ∧ ∀ f, each f v = .ok v := by
  have hall := mapM_eq_ok_iff.mp has
  have hmaps : v.IsListOfMaps fun _ => True := by
    refine (Value.isListOfMaps_iff hitems).mpr fun w hw => ?_
    obtain ⟨a, -, ha⟩ := exists_mem_of_forall₂ hall.flip hw
    obtain ⟨es, hes⟩ := hread w a ha
    exact ⟨es, hes, trivial⟩
  rcases hmaps with habsent | ⟨vs, rfl, -⟩
  · have hnone : v.elementsIfAny = .ok [] := by simp [Value.elementsIfAny, habsent]
    obtain rfl := Except.ok.inj (hitems.symm.trans hnone)
    refine Or.inr ⟨List.forall₂_nil_left_iff.mp hall, hnone, fun f => ?_⟩
    cases v with
    | list vs =>
      obtain rfl : vs = [] := by simpa [Value.isPresent] using habsent
      rfl
    | _ => rw [each, hnone]; rfl
  · obtain rfl := Except.ok.inj ((Value.elementsIfAny_list vs).symm.trans hitems)
    exact Or.inl ⟨vs, rfl, hall⟩

/-- If whatever is read from a map is read from its normal form with a change, then so it is for the maps of a
list. -/
theorem exists_each {f : Value → Except Breakdown Value} {change : Value → α → α}
    (hread : ∀ w a, read w = .ok a → ∃ es, w = .map es)
    (hf : ∀ w a, read w = .ok a → ∃ w', f w = .ok w' ∧ read w' = .ok (change w a))
    (hitems : v.elementsIfAny = .ok items) (has : items.mapM read = .ok as) :
    ∃ v', each f v = .ok v' ∧ ∃ items', v'.elementsIfAny = .ok items'
      ∧ items'.mapM read = .ok (List.zipWith change v.asItems as) := by
  rcases read_cases hread hitems has with ⟨vs, rfl, hall⟩ | ⟨rfl, hnone, hsame⟩
  · have hnormal : ∃ ws, List.Forall₂ (fun w w' => f w = .ok w') vs ws
        ∧ List.Forall₂ (fun w' a => read w' = .ok a) ws (List.zipWith change vs as) := by
      clear hitems has
      induction hall with
      | nil => exact ⟨[], .nil, .nil⟩
      | cons ha _ ih =>
        obtain ⟨w', hw', hread'⟩ := hf _ _ ha
        obtain ⟨ws, hws, hreads⟩ := ih
        exact ⟨w' :: ws, .cons hw' hws, .cons hread' hreads⟩
    obtain ⟨ws, hws, hreads⟩ := hnormal
    refine ⟨.list ws, ?_, ws, Value.elementsIfAny_list ws, mapM_eq_ok_iff.mpr hreads⟩
    rw [each, Value.elementsIfAny_list, ok_bind, mapM_eq_ok_iff.mpr hws]
    rfl
  · exact ⟨v, hsame f, [], hnone, by rw [List.zipWith_nil_right]; rfl⟩

/-- Taking members one by one changes each of them. -/
theorem each_mapEntries {f : Entries → Entries} (hitems : v.elementsIfAny = .ok items) :
    each (fun w => .ok (w.mapEntries f)) v = .ok (v.mapItems (Value.mapEntries f)) := by
  have hnormal : items.mapM (fun w => (.ok (w.mapEntries f) : Except Breakdown Value))
      = .ok (items.map (Value.mapEntries f)) :=
    mapM_eq_ok_iff.mpr (by simp [List.forall₂_map_right_iff, List.forall₂_same])
  rw [each, hitems, ok_bind, hnormal]
  cases v with
  | list vs =>
    obtain rfl := Except.ok.inj ((Value.elementsIfAny_list vs).symm.trans hitems)
    rfl
  | _ => rfl

/-- What is told of something that is read with a change is told of each item alone. -/
theorem map_zipWith_asItems {β : Type} {change : Value → α → α} {g h : α → β}
    (hread : ∀ w a, read w = .ok a → ∃ es, w = .map es)
    (hsame : ∀ w ∈ v.asItems, ∀ a, read w = .ok a → g (change w a) = h a)
    (hitems : v.elementsIfAny = .ok items) (has : items.mapM read = .ok as) :
    (List.zipWith change v.asItems as).map g = as.map h := by
  rcases read_cases hread hitems has with ⟨vs, rfl, hall⟩ | ⟨rfl, -⟩
  · rw [Value.asItems] at hsame ⊢
    clear hitems has
    induction hall with
    | nil => rfl
    | cons ha _ ih =>
      rw [List.zipWith_cons_cons, List.map_cons, List.map_cons, hsame _ (by simp) _ ha,
        ih fun w hw => hsame w (List.mem_cons_of_mem _ hw)]
  · rw [List.zipWith_nil_right]
    rfl

/-- Where the value under a key has a normal form, that is what stands under the key afterwards. -/
theorem exists_under {f : Value → Except Breakdown Value} {es : Entries} {key : String} {v' : Value}
    (h : each f (es.get key) = .ok v') : ∃ es', under key (each f) es = .ok es' ∧ es'.get key = v' := by
  refine ⟨es.modify key fun _ => v', ?_, ?_⟩
  · change (each f (es.get key) >>= _) = _
    rw [h]
    rfl
  · rw [Entries.get, Ordered.find?_modify, if_pos rfl]
    rw [Entries.get] at h
    cases hfound : Ordered.find? es key with
    | none =>
      rw [hfound] at h
      exact Except.ok.inj h
    | some w => rfl

end Normalization

/-! ## Compounds, types and sources -/

theorem Member.exists_map_of_ofValue {v : Value} {m : Member} (h : Member.ofValue v = .ok m) :
    ∃ es, v = .map es := by
  obtain ⟨es, hes, -⟩ := bind_eq_ok_iff.mp h
  exact ⟨es, Value.eq_map_of_entries hes⟩

/-- The members under a key are read from their normal forms with their precisions in lower case. -/
theorem Entries.readItems_members {es : Entries} {key : String} {ms : List Member}
    (h : es.readItems key Member.ofValue = .ok ms) :
    Normalization.checkItems es key = .ok ()
      ∧ (es.modify key Normalization.members).readItems key Member.ofValue
        = .ok (List.zipWith Member.loweredIn (es.get key).asItems ms) := by
  obtain ⟨items, hitems, hms⟩ := bind_eq_ok_iff.mp h
  have hnormal : ∀ w m, Member.ofValue w = .ok m →
      ∃ w', (.ok (w.mapEntries Normalization.member) : Except Breakdown Value) = .ok w'
        ∧ Member.ofValue w' = .ok (m.loweredIn w) := by
    intro w m hm
    refine ⟨_, rfl, ?_⟩
    rw [Member.ofValue_normal, hm]
    rfl
  obtain ⟨v', hv', items', hitems', hread⟩ :=
    Normalization.exists_each (fun _ _ => Member.exists_map_of_ofValue) hnormal hitems hms
  obtain rfl := Except.ok.inj (hv'.symm.trans (Normalization.each_mapEntries hitems))
  constructor
  · rw [Normalization.checkItems]
    change ((es.get key).elementsIfAny >>= _) = _
    rw [hitems]
    rfl
  · rw [readItems, get_modify_self _ _ rfl]
    exact bind_eq_ok_iff.mpr ⟨items', hitems', hread⟩

/-- A compound is read from a map, and its fields are the members there. -/
theorem Compound.exists_fields {v : Value} {c : Compound} (h : Compound.ofValue v = .ok c) :
    ∃ es : Entries, v = .map es ∧ es.readItems "fields" Member.ofValue = .ok c.fields := by
  obtain ⟨es, hes, h⟩ := bind_eq_ok_iff.mp h
  obtain ⟨fields, hfields, hc⟩ := bind_eq_ok_iff.mp h
  obtain rfl := Except.ok.inj hc
  exact ⟨es, Value.eq_map_of_entries hes, hfields⟩

theorem Compound.exists_map_of_ofValue {v : Value} {c : Compound} (h : Compound.ofValue v = .ok c) :
    ∃ es, v = .map es :=
  (Compound.exists_fields h).imp fun _ h => h.1

/-- A compound is read from its normal form with the precisions of its fields in lower case. -/
theorem Compound.ofValue_normal {v : Value} {c : Compound} (h : Compound.ofValue v = .ok c) :
    ∃ v', Normalization.compound v = .ok v' ∧ Compound.ofValue v' = .ok (c.loweredIn v) := by
  obtain ⟨es, hes, h⟩ := bind_eq_ok_iff.mp h
  obtain ⟨fields, hfields, hc⟩ := bind_eq_ok_iff.mp h
  obtain rfl := Value.eq_map_of_entries hes
  obtain rfl := Except.ok.inj hc
  obtain ⟨hcheck, hread⟩ := Entries.readItems_members hfields
  refine ⟨.map (Entries.modify es "fields" Normalization.members), ?_, ?_⟩
  · rw [Normalization.compound, hes, ok_bind, hcheck]
    rfl
  · rw [Compound.ofValue, Value.entries, ok_bind, hread, Entries.get_modify_of_ne _ (by decide)]
    rfl

/-- A type is read from a map, with the members there. -/
theorem TypeDef.exists_members {v : Value} {t : TypeDef} (h : TypeDef.ofValue v = .ok t) :
    ∃ es : Entries, v = .map es ∧ es.readItems "members" Member.ofValue = .ok t.members := by
  obtain ⟨es, hes, h⟩ := bind_eq_ok_iff.mp h
  obtain ⟨_, -, h⟩ := bind_eq_ok_iff.mp h
  obtain ⟨_, -, h⟩ := bind_eq_ok_iff.mp h
  obtain ⟨members, hmembers, h⟩ := bind_eq_ok_iff.mp h
  obtain ⟨_, -, ht⟩ := bind_eq_ok_iff.mp h
  obtain rfl := Except.ok.inj ht
  exact ⟨es, Value.eq_map_of_entries hes, hmembers⟩

theorem TypeDef.exists_map_of_ofValue {v : Value} {t : TypeDef} (h : TypeDef.ofValue v = .ok t) :
    ∃ es, v = .map es :=
  (TypeDef.exists_members h).imp fun _ h => h.1

/-- A type is read from its normal form in lower case. -/
theorem TypeDef.ofValue_normal {v : Value} {t : TypeDef} (h : TypeDef.ofValue v = .ok t) :
    ∃ v', Normalization.typeDef v = .ok v' ∧ TypeDef.ofValue v' = .ok (t.loweredIn v) := by
  obtain ⟨es, hes, h⟩ := bind_eq_ok_iff.mp h
  obtain ⟨debugStart, hstart, h⟩ := bind_eq_ok_iff.mp h
  obtain ⟨register, hregister, h⟩ := bind_eq_ok_iff.mp h
  obtain ⟨members, hmembers, h⟩ := bind_eq_ok_iff.mp h
  obtain ⟨values, hvalues, ht⟩ := bind_eq_ok_iff.mp h
  obtain rfl := Value.eq_map_of_entries hes
  obtain rfl := Except.ok.inj ht
  let shell := (Entries.modify es "kind" Value.lowered).modify "packing_rules" Value.lowered
  have hkept : shell.get "members" = Entries.get es "members" := by
    rw [Entries.get_modify_of_ne _ (by decide), Entries.get_modify_of_ne _ (by decide)]
  rw [Entries.readItems, ← hkept, ← Entries.readItems] at hmembers
  obtain ⟨hcheck, hread⟩ := Entries.readItems_members hmembers
  rw [hkept] at hread
  refine ⟨.map (shell.modify "members" Normalization.members), ?_, ?_⟩
  · change (Normalization.checkItems shell "members" >>= _) = _
    rw [hcheck]
    rfl
  · have hget : ∀ key, key ≠ "members" ∧ key ≠ "kind" ∧ key ≠ "packing_rules" →
        (shell.modify "members" Normalization.members).get key = Entries.get es key := by
      rintro key ⟨hmembers, hkind, hrules⟩
      rw [Entries.get_modify_of_ne _ hmembers, Entries.get_modify_of_ne _ hrules,
        Entries.get_modify_of_ne _ hkind]
    have hflag : ∀ key, key ≠ "members" ∧ key ≠ "kind" ∧ key ≠ "packing_rules" → ∀ default,
        (shell.modify "members" Normalization.members).flag key default = Entries.flag es key default := by
      rintro key ⟨hmembers, hkind, hrules⟩ default
      rw [Entries.flag_modify_of_ne _ hmembers, Entries.flag_modify_of_ne _ hrules,
        Entries.flag_modify_of_ne _ hkind]
    have hkind : (shell.modify "members" Normalization.members).get "kind" = (Entries.get es "kind").lowered := by
      rw [Entries.get_modify_of_ne _ (by decide), Entries.get_modify_of_ne _ (by decide),
        Entries.get_modify_self _ _ rfl]
    have hrules : (shell.modify "members" Normalization.members).get "packing_rules"
        = (Entries.get es "packing_rules").lowered := by
      rw [Entries.get_modify_of_ne _ (by decide), Entries.get_modify_self _ _ rfl,
        Entries.get_modify_of_ne _ (by decide)]
    rw [Entries.whole?] at hstart hregister
    simp (disch := decide) only [TypeDef.ofValue, Value.entries, ok_bind, hread, Entries.whole?, hget, hflag, hkind,
      hrules, hstart, hregister, hvalues, Value.orElse_lowered _ Text.lower_struct,
      Value.orElse_lowered _ Text.lower_exact]
    rfl

/-- A source is read from a map that gives a path, with the types there. -/
theorem Source.exists_types {v : Value} {s : Source} (h : Source.ofValue v = .ok s) :
    ∃ es : Entries, v = .map es ∧ (es.get "path").isPresent = true
      ∧ es.readItems "types" TypeDef.ofValue = .ok s.types := by
  obtain ⟨es, hes, h⟩ := bind_eq_ok_iff.mp h
  have hpath : (es.get "path").isPresent = true := by
    by_contra habsent
    rw [Bool.not_eq_true] at habsent
    simp [habsent] at h
  simp only [hpath, Bool.not_true, Bool.false_eq_true, if_false] at h
  obtain ⟨types, htypes, h⟩ := bind_eq_ok_iff.mp h
  obtain ⟨_, -, h⟩ := bind_eq_ok_iff.mp h
  obtain ⟨_, -, h⟩ := bind_eq_ok_iff.mp h
  obtain ⟨_, -, hs⟩ := bind_eq_ok_iff.mp h
  obtain rfl := Except.ok.inj hs
  exact ⟨es, Value.eq_map_of_entries (orBreak_eq_ok_iff.mp hes), hpath, orBreak_eq_ok_iff.mp htypes⟩

theorem Source.exists_map_of_ofValue {v : Value} {s : Source} (h : Source.ofValue v = .ok s) :
    ∃ es, v = .map es :=
  (Source.exists_types h).imp fun _ h => h.1

/-- A source is read from its normal form with its types in lower case, and these keep their names. -/
theorem Source.ofValue_normal {v : Value} {s : Source} (h : Source.ofValue v = .ok s) :
    (∃ v', Normalization.source v = .ok v' ∧ Source.ofValue v' = .ok (s.loweredIn v))
      ∧ (s.loweredIn v).types.map (·.name) = s.types.map (·.name) := by
  obtain ⟨es, rfl, hpath, -⟩ := Source.exists_types h
  simp only [Source.ofValue, Value.entries, liftM_eq_orBreak, orBreak_ok, ok_bind, hpath, Bool.not_true,
    Bool.false_eq_true, if_false, pure_eq_ok, bind_eq_ok_iff, orBreak_eq_ok_iff] at h
  obtain ⟨types, htypes, bindings, hbindings, keywords, hkeywords, kernels, hkernels, hs⟩ := h
  obtain rfl := Except.ok.inj hs
  obtain ⟨items, hitems, htypes⟩ := bind_eq_ok_iff.mp htypes
  refine ⟨?_, Normalization.map_zipWith_asItems (fun _ _ => TypeDef.exists_map_of_ofValue)
    (fun _ _ _ _ => rfl) hitems htypes⟩
  obtain ⟨v', heach, items', hitems', hread⟩ := Normalization.exists_each
    (fun _ _ => TypeDef.exists_map_of_ofValue) (fun _ _ => TypeDef.ofValue_normal) hitems htypes
  obtain ⟨es', hunder, hfound⟩ := Normalization.exists_under heach
  refine ⟨.map es', ?_, ?_⟩
  · rw [Normalization.source, Value.entries, ok_bind, hunder]
    rfl
  · have hget : ∀ key, key ≠ "types" → es'.get key = Entries.get es key :=
      fun key hne => Normalization.get_under_of_ne hne hunder
    rw [Entries.readItems] at hbindings hkeywords hkernels
    simp (disch := decide) only [Source.ofValue, Value.entries, liftM_eq_orBreak, orBreak_ok, ok_bind, hget, hpath,
      Bool.not_true, Bool.false_eq_true, if_false, Entries.readItems, hfound, hitems', hread, hbindings, hkeywords,
      hkernels, pure_eq_ok]
    rfl

/-! ## Descriptions -/

/-- The check of names looks at the names of types and the paths of their sources only. -/
theorem checkTypeNames_congr {types types' : List (String × TypeDef)}
    (h : types.map (fun e => (e.1, e.2.name)) = types'.map (fun e => (e.1, e.2.name)))
    (seen : List (Value × String)) : checkTypeNames seen types = checkTypeNames seen types' := by
  induction types generalizing types' seen with
  | nil =>
    obtain rfl : types' = [] := by simpa using h.symm
    rfl
  | cons e types ih =>
    cases types' with
    | nil => simp at h
    | cons e' types' =>
      obtain ⟨path, t⟩ := e
      obtain ⟨path', t'⟩ := e'
      simp only [List.map_cons, List.cons.injEq, Prod.mk.injEq] at h
      obtain ⟨⟨rfl, hname⟩, hrest⟩ := h
      simp only [checkTypeNames, hname, ih hrest]

theorem map_names_declaredTypes (sources : List Source) :
    (declaredTypes sources).map (fun e => (e.1, e.2.name))
      = (sources.map fun s => s.types.map fun t => (s.path, t.name)).flatten := by
  rw [declaredTypes, List.map_flatMap, List.flatMap_def]
  simp only [List.map_map, Function.comp_def]

/-- What is described is described by the normal form as well, in lower case. -/
theorem Description.ofValue_normal {doc : Value} {d : Description} (h : Description.ofValue doc = .ok d) :
    ∃ doc', normalize doc = .ok doc' ∧ Description.ofValue doc' = .ok (d.loweredIn doc) := by
  obtain ⟨es, items, rfl, hinfo, hdefaults, hcompounds, hitems, hsources, hnames⟩ :=
    Description.ofValue_eq_ok_iff.mp h
  obtain ⟨fields, hfields, hcompounds⟩ := bind_eq_ok_iff.mp hcompounds
  obtain ⟨v, heachCompound, fields', hfields', hreadCompounds⟩ := Normalization.exists_each
    (fun _ _ => Compound.exists_map_of_ofValue) (fun _ _ => Compound.ofValue_normal) hfields hcompounds
  obtain ⟨es₁, hunderCompounds, hfoundCompounds⟩ :=
    Normalization.exists_under heachCompound
  obtain ⟨v₂, heachSource, items', hitems', hreadSources⟩ := Normalization.exists_each
    (fun _ _ => Source.exists_map_of_ofValue) (fun _ _ hs => (Source.ofValue_normal hs).1) hitems hsources
  have hother : "sources" ≠ "compounds" := by decide
  rw [← Normalization.get_under_of_ne hother hunderCompounds] at heachSource
  obtain ⟨es₂, hunderSources, hfoundSources⟩ :=
    Normalization.exists_under heachSource
  refine ⟨.map es₂, ?_, ?_⟩
  · rw [normalize, Value.entries, ok_bind, hunderCompounds, ok_bind, hunderSources]
    rfl
  · have hget : ∀ key, key ≠ "compounds" ∧ key ≠ "sources" → es₂.get key = es.get key := by
      rintro key ⟨hcompounds, hsources⟩
      rw [Normalization.get_under_of_ne hsources hunderSources,
        Normalization.get_under_of_ne hcompounds hunderCompounds]
    rw [← Normalization.get_under_of_ne hother.symm hunderSources] at hfoundCompounds
    have hnames' : checkTypeNames [] (declaredTypes
        (List.zipWith Source.loweredIn (es.get "sources").asItems d.sources)) = .ok () := by
      rw [← hnames]
      refine checkTypeNames_congr ?_ []
      rw [map_names_declaredTypes, map_names_declaredTypes]
      refine congrArg List.flatten (Normalization.map_zipWith_asItems
        (fun _ _ => Source.exists_map_of_ofValue) (fun w _ s hs => ?_) hitems hsources)
      have htypes := congrArg (List.map (Prod.mk s.path)) (Source.ofValue_normal hs).2
      rwa [List.map_map, List.map_map] at htypes
    refine Description.ofValue_eq_ok_iff.mpr ⟨es₂, items', rfl, ?_, ?_, ?_, ?_, hreadSources, hnames'⟩
    · rw [hget "meta" (by decide)]
      exact hinfo
    · rw [hget "defaults" (by decide)]
      exact hdefaults
    · rw [Entries.readItems, hfoundCompounds, hfields', ok_bind]
      exact hreadCompounds
    · rw [hfoundSources]
      exact hitems'

/-! ## Precisions that are texts -/

/-- Whether a member gives its precision as a text or leaves it to the default. -/
def Value.SpellsPrecision (member : Value) : Prop :=
  ((member.part "surface").part "precision").IsTextOrNull

theorem Member.loweredIn_eq_lowered {v : Value} (h : v.SpellsPrecision) (m : Member) :
    m.loweredIn v = m.lowered := by
  have hsurface : Surface.loweredIn (v.part "surface") = Surface.lowered := by
    funext s
    rcases h with h | ⟨t, h⟩ <;> rw [Surface.loweredIn, h]
  rw [loweredIn, lowered, hsurface]

/-- The members under a key are put in lower case if all their precisions are texts. -/
theorem Entries.zipWith_loweredIn_members {es : Entries} {key : String} {ms : List Member}
    (h : es.readItems key Member.ofValue = .ok ms) (hspelled : ∀ w ∈ (es.get key).asItems, w.SpellsPrecision) :
    List.zipWith Member.loweredIn (es.get key).asItems ms = ms.map Member.lowered := by
  obtain ⟨items, hitems, hms⟩ := bind_eq_ok_iff.mp h
  have hsame := Normalization.map_zipWith_asItems (g := id) (fun _ _ => Member.exists_map_of_ofValue)
    (fun w hw m _ => Member.loweredIn_eq_lowered (hspelled w hw) m) hitems hms
  rwa [List.map_id] at hsame

theorem Compound.loweredIn_eq_lowered {v : Value} {c : Compound} (h : Compound.ofValue v = .ok c)
    (hspelled : ∀ w ∈ v.itemsUnder "fields", w.SpellsPrecision) : c.loweredIn v = c.lowered := by
  obtain ⟨es, rfl, hfields⟩ := Compound.exists_fields h
  have hsame := Entries.zipWith_loweredIn_members hfields hspelled
  rw [loweredIn, lowered, ← hsame]
  rfl

theorem TypeDef.loweredIn_eq_lowered {v : Value} {t : TypeDef} (h : TypeDef.ofValue v = .ok t)
    (hspelled : ∀ w ∈ v.itemsUnder "members", w.SpellsPrecision) : t.loweredIn v = t.lowered := by
  obtain ⟨es, rfl, hmembers⟩ := TypeDef.exists_members h
  have hsame := Entries.zipWith_loweredIn_members hmembers hspelled
  rw [loweredIn, lowered, ← hsame]
  rfl

theorem Source.loweredIn_eq_lowered {v : Value} {s : Source} (h : Source.ofValue v = .ok s)
    (hspelled : ∀ w ∈ (v.itemsUnder "types").flatMap (Value.itemsUnder "members"), w.SpellsPrecision) :
    s.loweredIn v = s.lowered := by
  obtain ⟨es, rfl, -, htypes⟩ := Source.exists_types h
  obtain ⟨items, hitems, htypes⟩ := bind_eq_ok_iff.mp htypes
  have hsame := Normalization.map_zipWith_asItems (g := id) (h := TypeDef.lowered)
    (fun _ _ => TypeDef.exists_map_of_ofValue)
    (fun w hw t ht => TypeDef.loweredIn_eq_lowered ht fun m hm => hspelled m (List.mem_flatMap.mpr ⟨w, hw, hm⟩))
    hitems htypes
  rw [List.map_id] at hsame
  rw [loweredIn, lowered, ← hsame]
  rfl

/-- The precisions of a description are put in lower case if the document gives all of them as texts. -/
theorem Description.loweredIn_eq_lowered {doc : Value} {d : Description} (h : Description.ofValue doc = .ok d)
    (hspelled : ∀ w ∈ doc.membersOf, w.SpellsPrecision) : d.loweredIn doc = d.lowered := by
  obtain ⟨es, items, rfl, -, -, hcompounds, hitems, hsources, -⟩ := Description.ofValue_eq_ok_iff.mp h
  obtain ⟨fields, hfields, hcompounds⟩ := bind_eq_ok_iff.mp hcompounds
  have hsameCompounds := Normalization.map_zipWith_asItems (g := id) (h := Compound.lowered)
    (fun _ _ => Compound.exists_map_of_ofValue)
    (fun w hw c hc => Compound.loweredIn_eq_lowered hc fun m hm =>
      hspelled m (List.mem_append_left _ (List.mem_flatMap.mpr ⟨w, hw, hm⟩)))
    hfields hcompounds
  have hsameSources := Normalization.map_zipWith_asItems (g := id) (h := Source.lowered)
    (fun _ _ => Source.exists_map_of_ofValue)
    (fun w hw s hs => Source.loweredIn_eq_lowered hs fun m hm => by
      obtain ⟨t, ht, hm⟩ := List.mem_flatMap.mp hm
      exact hspelled m (List.mem_append_right _
        (List.mem_flatMap.mpr ⟨t, List.mem_flatMap.mpr ⟨w, hw, ht⟩, hm⟩)))
    hitems hsources
  rw [List.map_id] at hsameCompounds hsameSources
  rw [loweredIn, lowered, ← hsameCompounds, ← hsameSources]
  rfl

/-! ## Documents and their normal forms -/

/-- Whatever is described has a normal form, which describes the same in lower case: all kinds, packing rules and
precisions, if the document gives the precisions as texts, and all but the precisions that it gives as something
else. -/
theorem Description.ofValue_normalize {doc : Value} {d : Description} (h : Description.ofValue doc = .ok d) :
    ∃ doc', normalize doc = .ok doc' ∧ Description.ofValue doc' = .ok (d.loweredIn doc)
      ∧ ((∀ w ∈ doc.membersOf, w.SpellsPrecision) → d.loweredIn doc = d.lowered) := by
  obtain ⟨doc', hnormal, hread⟩ := Description.ofValue_normal h
  exact ⟨doc', hnormal, hread, Description.loweredIn_eq_lowered h⟩

/-- A document with a kind, packing rules and a precision in mixed case, with a label and a packing request outside
of lists. -/
def mixedDocument : Value :=
  .map [("sources", .list [.map [("path", "Lights.cs"),
    ("types", .list [.map [("name", "Light"), ("kind", "Struct"), ("packing_rules", "Aggressive"),
      ("members", .list [.map [("name", "range"), ("type", "float"),
        ("surface", .map [("display_names", "Range"), ("precision", "Half")]),
        ("packing", .map [("scheme", "PackedFloat"), ("width", .int 8)])]])]])]])]

/-- What it describes. -/
def mixedDescription : Description where
  sources := [{
    path := "Lights.cs"
    types := [{
      name := "Light"
      fullName := "Light"
      kind := "Struct"
      packingRules := "Aggressive"
      members := [{
        name := "range"
        type := "float"
        surface := some { labels := ["Range"], precision := "Half" }
        packing := [{ scheme := "PackedFloat", width := some 8 }] }] }] }]

/-- The document has a normal form, which describes the same in lower case. -/
theorem Description.ofValue_normalize_mixedDocument :
    ∃ doc', normalize mixedDocument = .ok doc' ∧ Description.ofValue doc' = .ok mixedDescription.lowered := by
  have hread : Description.ofValue mixedDocument = .ok mixedDescription := rfl
  obtain ⟨doc', hnormal, hlowered, hsame⟩ := Description.ofValue_normalize hread
  refine ⟨doc', hnormal, ?_⟩
  rw [hlowered, hsame]
  intro w hw
  obtain rfl := List.mem_singleton.mp hw
  exact Or.inr ⟨"Half", rfl⟩

/-- A document that gives `true` as a precision. -/
def flaggedDocument : Value :=
  .map [("sources", .list [.map [("path", "Lights.cs"),
    ("types", .list [.map [("name", "Light"),
      ("members", .list [.map [("name", "range"), ("type", "float"),
        ("surface", .map [("precision", .bool true)])]])]])]])]

/-- A precision that is no text is shown as it is spelled, in the normal form as well: it is not put in lower
case. -/
theorem Description.ofValue_normalize_flaggedDocument :
    ∃ d doc', Description.ofValue flaggedDocument = .ok d ∧ normalize flaggedDocument = .ok doc'
      ∧ Description.ofValue doc' = .ok d ∧ Description.ofValue doc' ≠ .ok d.lowered := by
  refine ⟨_, _, rfl, rfl, rfl, ?_⟩
  intro h
  have hprecisions := congrArg
    (fun d : Description => d.sources.map fun s => s.types.map fun t => t.members.map fun m =>
      m.surface.map (·.precision)) (Except.ok.inj h)
  revert hprecisions
  decide

end ShaderRecords
