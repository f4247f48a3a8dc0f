/-
ShaderRecords.Proofs.Binding.Declaration — bindings, keywords and kernels are declared or told.

The spelling of a binding follows names: a texture or buffer leads to the type of its items, which the binding
may give as another name, and a buffer that names its items leads to these. `Binding.Ends` says that this does
not go round in circles: if the name of the binding's type leads to the items that the binding gives, then
these do not lead there again. Then no more than four names are followed (`unbroken_spell`), one for each of
a buffer, a texture, a buffer and its items, and the declaration of a checked binding does not break down
(`Binding.unbroken_text`).
-/
import ShaderRecords.Binding.Declaration
import ShaderRecords.Product.SourceProduct
import ShaderRecords.Proofs.Description.Reading
import ShaderRecords.Proofs.Identifier.Validity

namespace ShaderRecords

/-! ## Names that lead to the items of a binding -/

/-- Whether the items of a texture or buffer of a name are given by the binding. -/
def TypeName.asksForItems (name : String) : Prop :=
  TypeName.isTexture name = true ∨ TypeName.isBuffer name = true

/-- Whether a name leads to the items that the binding gives: it asks for them, or it is a buffer that names
a texture or buffer as its items. -/
def TypeName.leadsToItems (name : String) : Prop :=
  asksForItems name ∨ ∃ buffer, BufferOf.ofName? name = some buffer ∧ asksForItems buffer.item

namespace BufferOf

set_option maxRecDepth 2048 in
/-- The opening bracket does not stand in names of items. -/
theorem isItemChar_lt : isItemChar '<' = false := by
  simp only [isItemChar, Text.isWord, Text.isLetter, Text.inSpans_eq]
  decide

theorem eq_append_of_after? {front s rest : List Char} (h : after? front s = some rest) :
    s = front ++ rest := by
  unfold after? at h
  split at h
  next hfront =>
    obtain ⟨tail, rfl⟩ := List.isPrefixOf_iff_prefix.mp hfront
    simpa using h
  next => simp at h

/-- The items of a buffer are read off an end of its name, behind an opening bracket. -/
theorem exists_readItem?_of_ofName? {name : String} {buffer : BufferOf} (h : ofName? name = some buffer) :
    '<' ∈ name.toList ∧ ∃ s, s <:+ name.toList ∧ readItem? s = some buffer.item := by
  have hitem : ∀ {s rest : List Char} {isWritable : Bool}, after? "StructuredBuffer<".toList s = some rest →
      (readItem? rest >>= fun item => some (⟨isWritable, item⟩ : BufferOf)) = some buffer →
      '<' ∈ s ∧ rest <:+ s ∧ readItem? rest = some buffer.item := by
    intro s rest isWritable hafter hread
    rw [eq_append_of_after? hafter]
    refine ⟨List.mem_append_left _ (by decide), List.suffix_append _ _, ?_⟩
    obtain ⟨item, hitem, hbuffer⟩ := Option.bind_eq_some_iff.mp hread
    obtain rfl := Option.some.inj hbuffer
    exact hitem
  unfold ofName? at h
  dsimp only at h
  split at h
  next rest hfront =>
    obtain ⟨s, hafter, hread⟩ := Option.bind_eq_some_iff.mp h
    obtain ⟨hmem, hsuffix, hread⟩ := hitem hafter hread
    rw [eq_append_of_after? hfront]
    exact ⟨List.mem_append_right _ hmem, s, hsuffix.trans (List.suffix_append _ _), hread⟩
  next =>
    obtain ⟨s, hafter, hread⟩ := Option.bind_eq_some_iff.mp h
    obtain ⟨hmem, hsuffix, hread⟩ := hitem hafter hread
    exact ⟨hmem, s, hsuffix, hread⟩

/-- The name of a buffer that names its items has an opening bracket, and the items have none. -/
theorem lt_mem_of_ofName? {name : String} {buffer : BufferOf} (h : ofName? name = some buffer) :
    '<' ∈ name.toList ∧ '<' ∉ buffer.item.toList := by
  obtain ⟨hmem, s, -, hitem⟩ := exists_readItem?_of_ofName? h
  refine ⟨hmem, fun hlt => ?_⟩
  unfold readItem? at hitem
  dsimp only at hitem
  split at hitem
  · rw [← Option.some.inj hitem, String.toList_ofList] at hlt
    have hchar := List.all_eq_true.mp List.all_takeWhile _ hlt
    simp [isItemChar_lt] at hchar
  · simp at hitem

/-- The items that a name holds are no buffer that names items in turn. -/
theorem ofName?_item {name : String} {buffer : BufferOf} (h : ofName? name = some buffer) :
    ofName? buffer.item = none := by
  by_contra hsome
  obtain ⟨inner, hinner⟩ := Option.ne_none_iff_exists'.mp hsome
  exact (lt_mem_of_ofName? h).2 (lt_mem_of_ofName? hinner).1

end BufferOf

/-- The name on the shader side of something with a name that is a text is a text. -/
theorem gives_shaderName {name target : Value} (hname : name.IsText) (htarget : target.IsTextOrNull) :
    Gives (shaderName name target) Value.IsText := by
  unfold shaderName
  split
  next hpresent =>
    rcases htarget with hnull | htext
    · simp [hnull, Value.isPresent] at hpresent
    · exact gives_ok htext
  next => exact hname.gives_textParts.bind fun _ _ => gives_ok ⟨_, rfl⟩

namespace Binding

variable {b : Binding} {declared : List String} {name : String} {steps : Nat}

/-- Whether the spelling of a binding's type comes to an end: the items that it gives do not lead to
themselves. -/
def Ends (b : Binding) : Prop :=
  b.hlslType.isPresent = false → TypeName.leadsToItems b.type →
    ∀ items, b.innerType = .text items → ¬TypeName.leadsToItems items

/-- One step of spelling. -/
theorem spellWithin_succ : b.spellWithin declared (steps + 1) name
    = if let some spelling := TypeName.plainSpelling? name then .ok spelling
      else if let some spelling := TypeName.floatSpelling? b.half name then .ok spelling
      else if TypeName.isTexture name then
        if b.innerType.isPresent then
          withItems b.textureForm <$> (do b.spellWithin declared steps (← b.innerType.asText))
        else .ok "Texture2D<float4>"
      else if TypeName.isBuffer name then
        if b.innerType.isPresent then
          withItems (bufferForm b.isWritable) <$> (do b.spellWithin declared steps (← b.innerType.asText))
        else b.fail (.noInnerType name)
      else if let some buffer := BufferOf.ofName? name then
        withItems (bufferForm (b.isWrittenAs buffer)) <$>
          (do b.spellWithin declared steps (← (Value.text buffer.item).asText))
      else if declared.contains name then .ok name
      else b.fail (.unrecognized name) := rfl

/-- A name is spelled or told if the names that it leads to are. -/
theorem unbroken_spellWithin_succ
    (hgiven : TypeName.asksForItems name → b.innerType.isPresent = true →
      Unbroken (do b.spellWithin declared steps (← b.innerType.asText)))
    (hnamed : ¬TypeName.asksForItems name → ∀ buffer, BufferOf.ofName? name = some buffer →
      Unbroken (b.spellWithin declared steps buffer.item)) :
    Unbroken (b.spellWithin declared (steps + 1) name) := by
  have hwith : ∀ form {x : Except (Failure BindingError) String}, Unbroken x →
      Unbroken (withItems form <$> x) := fun form x hx => hx.bind fun _ _ => unbroken_ok _
  rw [spellWithin_succ]
  split
  · simp
  split
  · simp
  split
  next htexture =>
    split
    next hpresent => exact hwith _ (hgiven (Or.inl htexture) hpresent)
    next => simp
  next htexture =>
    split
    next hbuffer =>
      split
      next hpresent => exact hwith _ (hgiven (Or.inr hbuffer) hpresent)
      next => simp [fail]
    next hbuffer =>
      have hasks : ¬TypeName.asksForItems name := not_or_intro htexture hbuffer
      split
      next buffer hname => exact hwith _ (hnamed hasks buffer hname)
      next =>
        split
        · simp
        · simp [fail]

/-- A name that does not lead to the items of the binding is spelled in two steps. -/
theorem unbroken_spellWithin_of_not_leads (steps : Nat) (h : ¬TypeName.leadsToItems name) :
    Unbroken (b.spellWithin declared (steps + 2) name) := by
  obtain ⟨hasks, hitems⟩ := not_or.mp h
  refine unbroken_spellWithin_succ (fun hgiven => absurd hgiven hasks) fun _ buffer hname => ?_
  have hitem : ¬TypeName.asksForItems buffer.item := fun hitem => hitems ⟨buffer, hname, hitem⟩
  refine unbroken_spellWithin_succ (fun hgiven => absurd hgiven hitem) fun _ inner hinner => ?_
  simp [BufferOf.ofName?_item hname] at hinner

/-- A texture or buffer whose items do not lead to themselves is spelled in three steps. -/
theorem unbroken_spellWithin_of_asks (steps : Nat) (hinner : b.innerType.IsTextOrNull)
    (hasks : TypeName.asksForItems name)
    (hends : ∀ items, b.innerType = .text items → ¬TypeName.leadsToItems items) :
    Unbroken (b.spellWithin declared (steps + 3) name) := by
  refine unbroken_spellWithin_succ (fun _ hpresent => ?_) fun hnot => absurd hasks hnot
  rcases hinner with hnull | ⟨items, hitems⟩
  · simp [hnull, Value.isPresent] at hpresent
  · rw [hitems]
    exact unbroken_spellWithin_of_not_leads steps (hends items hitems)

/-- The longest chain of names that ends is long enough for every name of a type whose spelling ends. -/
theorem unbroken_spell (hb : b.Checked) (hends : b.Ends) (hnone : b.hlslType.isPresent = false) :
    Unbroken (b.spell declared b.type) := by
  by_cases hleads : TypeName.leadsToItems b.type
  · have hinner := hends hnone hleads
    by_cases hasks : TypeName.asksForItems b.type
    · exact unbroken_spellWithin_of_asks 1 hb.innerType hasks hinner
    · obtain ⟨buffer, hname, hitem⟩ := hleads.resolve_left hasks
      refine unbroken_spellWithin_succ (fun hgiven => absurd hgiven hasks) fun _ buffer' hname' => ?_
      obtain rfl := Option.some.inj (hname.symm.trans hname')
      exact unbroken_spellWithin_of_asks 0 hb.innerType hitem hinner
  · exact unbroken_spellWithin_of_not_leads 2 hleads

/-! ## Declarations -/

theorem unbroken_declaration (hb : b.Checked) (hends : b.Ends) (name : String) :
    Unbroken (b.declaration declared name) := by
  have hspelling : Unbroken (b.spelling declared) := by
    unfold spelling
    split
    · simp
    next hnone =>
      exact (unbroken_spell hb hends (by simpa using hnone)).bind fun _ _ => unbroken_ok _
  have hsuffix : Unbroken b.arraySuffix := by
    unfold arraySuffix
    split
    · simp
    · split <;> simp [fail]
  exact hspelling.bind fun _ _ => hsuffix.bind fun _ _ => unbroken_ok _

/-- A checked binding is declared or told. -/
theorem unbroken_text (hb : b.Checked) (hends : b.Ends) : Unbroken (b.text declared) := by
  have hwritable : b.writable.Checked := ⟨hb.name, hb.target, hb.innerType⟩
  unfold text
  obtain ⟨name, hname, htext⟩ := gives_shaderName hb.name hb.target
  rw [hname]
  refine (unbroken_declaration hb hends _).bind fun line _ => ?_
  split
  · simp
  · exact htext.gives_asText.orBreak.unbroken.bind fun _ _ =>
      (unbroken_declaration hwritable hends _).bind fun _ _ => unbroken_ok _

end Binding

theorem Keyword.gives_text {k : Keyword} (hk : k.Checked) : Gives k.text fun _ => True := by
  have halternatives : Gives k.alternatives fun _ => True := by
    unfold alternatives
    split
    · exact (gives_shaderName hk.name hk.target).bind fun _ _ => gives_ok trivial
    · refine (Gives.mapM fun v hv =>
        gives_shaderName (hk.values v hv).name (hk.values v hv).target).bind fun names hnames => ?_
      exact (Gives.mapM fun name hname => (hnames name hname).gives_asText).bind fun _ _ => gives_ok trivial
  exact halternatives.bind fun _ _ => gives_ok trivial

theorem Kernel.gives_text {k : Kernel} (hk : k.Checked) : Gives k.text fun _ => True :=
  (gives_shaderName hk.name hk.target).bind fun _ _ => gives_ok trivial

/-- The lines of checked keywords and kernels are written. -/
theorem SourceProduct.gives_pragmaLines {s : Source} (hs : s.Checked) :
    Gives (pragmaLines s) fun _ => True := by
  refine (Gives.mapM fun k hk => Keyword.gives_text (hs.keywords k hk)).bind fun keywords _ => ?_
  exact (Gives.mapM fun k hk => Kernel.gives_text (hs.kernels k hk)).bind fun kernels _ => gives_ok trivial

end ShaderRecords
