/-
ShaderRecords.Proofs.Binding.Twin — what the second declaration of a resource adds to the first.

A binding that asks for it is declared a second time, as writable and under its name with `RW` behind it. The
spelling of a texture or buffer is a form with the items in brackets (`exists_form`), and what being
writable changes in the form is an `RW` in front of it. It does so only where the type has a writable form at all
(`hasWritableForm`): a texture needs items for that, and a buffer that names its items needs the `RW` in its name.
The items are spelled by the same rules, so the two spellings have the same items exactly if these have no
writable form in turn (`spelled_alike_iff`).
-/
import ShaderRecords.Proofs.Binding.Declaration

namespace ShaderRecords

theorem endsWith_iff_suffix (s ending : String) : s.endsWith ending = true ↔ ending.toList <:+ s.toList := by
  rw [String.endsWith_eq_endsWith_toSlice, String.Slice.endsWith_string_iff, String.copy_toSlice]

theorem BufferOf.endsWith_of_ofName? {name : String} {buffer : BufferOf} (h : ofName? name = some buffer) :
    name.endsWith "[]" = false := by
  obtain ⟨-, s, hsuffix, hitem⟩ := exists_readItem?_of_ofName? h
  unfold readItem? at hitem
  dsimp only at hitem
  split at hitem
  next hread =>
    have hrest : ((s.dropWhile Text.isBlank).dropWhile isItemChar).dropWhile Text.isBlank <:+ name.toList :=
      (List.dropWhile_suffix _).trans <| (List.dropWhile_suffix _).trans <| (List.dropWhile_suffix _).trans hsuffix
    rw [Bool.eq_false_iff]
    intro hends
    rw [endsWith_iff_suffix] at hends
    have hlast : ∀ {xs ys : List Char}, xs <:+ ys → xs ≠ [] → ys.getLast? = xs.getLast? := by
      rintro xs ys ⟨front, rfl⟩ hxs
      exact List.getLast?_append_of_ne_nil _ hxs
    have hbracket := hlast hends (by decide)
    rcases hread.2 with hrest' | hrest' <;> rw [hrest'] at hrest <;>
      rw [hlast hrest (by simp)] at hbracket <;> exact absurd hbracket (by decide)
  next => cases hitem

/-- The classes of characters in a name, in a form that is evaluated fast. -/
theorem BufferOf.isItemChar_eq : isItemChar = fun c =>
    (c == '_' || (Text.letterSpans.toList.any fun s => s.first ≤ c.toNat && c.toNat ≤ s.last)
      || (Text.numericSpans.toList.any fun s => s.first ≤ c.toNat && c.toNat ≤ s.last)) || c == '[' || c == ']' := by
  funext c
  simp only [isItemChar, Text.isWord, Text.isLetter, Text.inSpans_eq]

namespace TypeName

/-- Whether a type name is that of a texture or a buffer. -/
def IsResource (name : String) : Prop :=
  asksForItems name ∨ ∃ buffer, BufferOf.ofName? name = some buffer

/-- The names of textures and buffers that leave it to the binding what they hold. -/
def askingNames : List String :=
  ["Texture", "Texture2D", "Texture3D", "RenderTexture", "ComputeBuffer", "GraphicsBuffer"]

/-- The names of numbers, vectors and matrices. -/
def numberNames : List String :=
  ["int", "uint", "bool", "Vector3Int", "Vector2Int", "float", "float[]", "Vector2", "Vector3", "Vector4",
    "Vector4[]", "Matrix4x4", "Matrix4x4[]"]

theorem mem_askingNames {name : String} (h : asksForItems name) : name ∈ askingNames := by
  simp only [asksForItems, isTexture, isBuffer, List.contains_eq_mem, decide_eq_true_eq] at h
  exact List.mem_append.mpr h

theorem not_asksForItems_of_ofName? {name : String} {buffer : BufferOf}
    (h : BufferOf.ofName? name = some buffer) : ¬asksForItems name := by
  have hnone : ∀ name ∈ askingNames, '<' ∉ name.toList := by decide
  exact fun hasks => hnone name (mem_askingNames hasks) (BufferOf.lt_mem_of_ofName? h).1

theorem IsResource.endsWith {name : String} (h : IsResource name) : name.endsWith "[]" = false := by
  rcases h with hasks | ⟨buffer, hbuffer⟩
  · have hall : ∀ name ∈ askingNames, ¬"[]".toList <:+ name.toList := by decide
    rw [Bool.eq_false_iff, ne_eq, endsWith_iff_suffix]
    exact hall name (mem_askingNames hasks)
  · exact BufferOf.endsWith_of_ofName? hbuffer

/-- Numbers, vectors and matrices are no textures or buffers. -/
theorem IsResource.spelling?_eq_none {name : String} (h : IsResource name) (half : Bool) :
    plainSpelling? name = none ∧ floatSpelling? half name = none := by
  have hnames : ∀ name ∈ numberNames, name ∉ askingNames ∧ '<' ∉ name.toList := by decide
  have hnot : name ∉ numberNames := by
    intro hname
    obtain ⟨hother, hlt⟩ := hnames name hname
    rcases h with hasks | ⟨buffer, hbuffer⟩
    · exact hother (mem_askingNames hasks)
    · exact hlt (BufferOf.lt_mem_of_ofName? hbuffer).1
  constructor
  · fun_cases plainSpelling? name
    case case6 => rfl
    all_goals exact absurd (by decide) hnot
  · rw [floatSpelling?, Option.map_eq_none_iff]
    fun_cases floatSuffix? name
    case case9 => rfl
    all_goals exact absurd (by decide) hnot

end TypeName

namespace Binding

variable {b : Binding} {declared : List String} {name item s t : String} {items : Value} {steps : Nat}

/-- The items that a type name leads to: those of the binding, or those that a buffer names itself. -/
def items? (b : Binding) (name : String) : Option Value :=
  if TypeName.isTexture name || TypeName.isBuffer name then
    if b.innerType.isPresent then some b.innerType else none
  else (BufferOf.ofName? name).map fun buffer => .text buffer.item

/-- Whether being writable makes a difference to a type name itself. -/
def hasWritableForm (b : Binding) (name : String) : Bool :=
  if TypeName.isTexture name || TypeName.isBuffer name then b.innerType.isPresent
  else (BufferOf.ofName? name).any BufferOf.isWritable

/-- What stands before the items of a texture or buffer that may only be read. -/
def readForm (b : Binding) (name : String) : String :=
  if TypeName.isTexture name then { b with isWritable := false }.textureForm else bufferForm false

/-- What stands before the items of a texture or buffer. -/
def form (b : Binding) (name : String) : String :=
  (if b.isWritable && b.hasWritableForm name then "RW" else "") ++ b.readForm name

@[simp] theorem isWritable_writable : b.writable.isWritable = true := rfl

@[simp] theorem items?_writable : b.writable.items? name = b.items? name := rfl

@[simp] theorem hasWritableForm_writable : b.writable.hasWritableForm name = b.hasWritableForm name := rfl

@[simp] theorem readForm_writable : b.writable.readForm name = b.readForm name := rfl

/-- A name with items is that of a texture, that of a buffer, or that of a buffer that names its items. -/
theorem items?_cases (h : b.items? name = some items) :
    (TypeName.isTexture name = true ∧ b.innerType.isPresent = true ∧ items = b.innerType)
      ∨ (TypeName.isTexture name = false ∧ TypeName.isBuffer name = true ∧ b.innerType.isPresent = true
        ∧ items = b.innerType)
      ∨ (TypeName.isTexture name = false ∧ TypeName.isBuffer name = false
        ∧ ∃ buffer, BufferOf.ofName? name = some buffer ∧ items = .text buffer.item) := by
  unfold items? at h
  cases htexture : TypeName.isTexture name with
  | true =>
    obtain ⟨hpresent, rfl⟩ : b.innerType.isPresent = true ∧ b.innerType = items := by simpa [htexture] using h
    exact .inl ⟨rfl, hpresent, rfl⟩
  | false =>
    cases hbuffer : TypeName.isBuffer name with
    | true =>
      obtain ⟨hpresent, rfl⟩ : b.innerType.isPresent = true ∧ b.innerType = items := by
        simpa [htexture, hbuffer] using h
      exact .inr (.inl ⟨rfl, rfl, hpresent, rfl⟩)
    | false =>
      obtain ⟨buffer, hname, hitem⟩ : ∃ buffer, BufferOf.ofName? name = some buffer ∧ .text buffer.item = items := by
        simpa [htexture, hbuffer] using h
      exact .inr (.inr ⟨rfl, rfl, buffer, hname, hitem.symm⟩)

theorem items?_eq_some (h : b.items? name = some items) :
    (TypeName.asksForItems name ∧ items = b.innerType ∧ b.hasWritableForm name = true)
      ∨ ∃ buffer, BufferOf.ofName? name = some buffer ∧ items = .text buffer.item := by
  obtain ⟨htexture, hpresent, rfl⟩ | ⟨htexture, hbuffer, hpresent, rfl⟩ | ⟨-, -, hnamed⟩ := items?_cases h
  · exact .inl ⟨.inl htexture, rfl, by simpa [hasWritableForm, htexture] using hpresent⟩
  · exact .inl ⟨.inr hbuffer, rfl, by simpa [hasWritableForm, hbuffer] using hpresent⟩
  · exact .inr hnamed

theorem items?_of_ofName? {buffer : BufferOf} (h : BufferOf.ofName? name = some buffer) :
    b.items? name = some (.text buffer.item) ∧ b.hasWritableForm name = buffer.isWritable := by
  have hnot : (TypeName.isTexture name || TypeName.isBuffer name) ≠ true := by
    simpa [TypeName.asksForItems] using TypeName.not_asksForItems_of_ofName? h
  rw [items?, hasWritableForm, if_neg hnot, if_neg hnot, h]
  exact ⟨rfl, rfl⟩

theorem isPresent_of_items? (h : b.items? name = none) (hasks : TypeName.asksForItems name) :
    b.innerType.isPresent = false := by
  have hasks' : (TypeName.isTexture name || TypeName.isBuffer name) = true := by
    simpa [TypeName.asksForItems] using hasks
  simpa [items?, hasks'] using h

theorem ofName?_of_items? (h : b.items? name = none) : BufferOf.ofName? name = none := by
  refine Option.eq_none_iff_forall_ne_some.mpr fun buffer hname => ?_
  cases h.symm.trans (items?_of_ofName? hname).1

theorem isResource_of_items? (h : b.items? name = some items) : TypeName.IsResource name :=
  (items?_eq_some h).imp And.left fun ⟨buffer, hbuffer, _⟩ => ⟨buffer, hbuffer⟩

theorem exists_items_of_hasWritableForm (h : b.hasWritableForm name = true) :
    ∃ items, b.items? name = some items := by
  unfold hasWritableForm at h
  unfold items?
  split at h
  next hasks => exact ⟨_, by rw [if_pos hasks, if_pos h]⟩
  next hasks =>
    obtain ⟨buffer, hbuffer, -⟩ := (Option.any_eq_true _ _).mp h
    exact ⟨_, by rw [if_neg hasks, hbuffer, Option.map_some]⟩

/-! ## One step -/

/-- A name that leads to items is spelled with these in brackets, whatever they are. What stands before the brackets
is known for a binding that is declared twice. -/
theorem exists_form (h : b.items? name = some items) (declared : List String) :
    ∃ form, (b.addWritable = true → form = b.form name) ∧ ∀ steps, b.spellWithin declared (steps + 1) name
      = withItems form <$> (do b.spellWithin declared steps (← items.asText)) := by
  obtain ⟨hplain, hfloat⟩ := (isResource_of_items? h).spelling?_eq_none b.half
  obtain ⟨htexture, hpresent, rfl⟩ | ⟨htexture, hbuffer, hpresent, rfl⟩ | ⟨htexture, hbuffer, buffer, hname, rfl⟩ :=
    items?_cases h
  · refine ⟨b.textureForm, fun _ => ?_, fun steps => ?_⟩
    · simp [form, hasWritableForm, readForm, textureForm, htexture, hpresent, String.append_assoc]
    · rw [spellWithin_succ, hplain, hfloat]
      simp [htexture, hpresent]
  · refine ⟨bufferForm b.isWritable, fun _ => ?_, fun steps => ?_⟩
    · simp [form, hasWritableForm, readForm, bufferForm, htexture, hbuffer, hpresent]
    · rw [spellWithin_succ, hplain, hfloat]
      simp [htexture, hbuffer, hpresent]
  · refine ⟨bufferForm (b.isWrittenAs buffer), fun hadd => ?_, fun steps => ?_⟩
    · simp [form, hasWritableForm, readForm, bufferForm, isWrittenAs, htexture, hbuffer, hname, hadd, Bool.and_comm]
    · rw [spellWithin_succ, hplain, hfloat]
      simp [htexture, hbuffer, hname]

theorem spellWithin_of_items (hadd : b.addWritable = true) (h : b.items? name = some items) :
    b.spellWithin declared (steps + 1) name
      = withItems (b.form name) <$> (do b.spellWithin declared steps (← items.asText)) := by
  obtain ⟨_, hform, hsteps⟩ := exists_form h declared
  rw [hsteps, hform hadd]

theorem spellWithin_of_item (hadd : b.addWritable = true) (h : b.items? name = some (.text item)) :
    b.spellWithin declared (steps + 1) name = withItems (b.form name) <$> b.spellWithin declared steps item := by
  rw [spellWithin_of_items hadd h]
  rfl

/-- Being writable makes no difference to a name that leads to no items. -/
theorem spellWithin_writable (h : b.items? name = none) :
    b.writable.spellWithin declared (steps + 1) name = b.spellWithin declared (steps + 1) name := by
  rw [spellWithin_succ, spellWithin_succ]
  simp only [writable]
  split
  · rfl
  split
  · rfl
  split
  next htexture => simp [isPresent_of_items? h (.inl htexture)]
  next =>
    split
    next hbuffer => simp [isPresent_of_items? h (.inr hbuffer), fail]
    next => simp [ofName?_of_items? h, fail]

theorem exists_of_spellWithin (hadd : b.addWritable = true) (hitems : b.items? name = some items)
    (h : b.spellWithin declared steps name = .ok s) : ∃ fewer item t, steps = fewer + 1 ∧ items = .text item
      ∧ b.spellWithin declared fewer item = .ok t ∧ s = withItems (b.form name) t := by
  cases steps with
  | zero => cases h
  | succ fewer =>
    rw [spellWithin_of_items hadd hitems] at h
    obtain ⟨t, ht, rfl⟩ := exists_of_map_eq_ok h
    obtain ⟨item, hitem, ht⟩ := bind_eq_ok_iff.mp ht
    rw [liftM_eq_orBreak, orBreak_eq_ok_iff] at hitem
    exact ⟨fewer, item, t, rfl, Value.eq_text_of_asText hitem, ht, rfl⟩

/-- Names that lead to each other are never spelled. -/
theorem spellWithin_ne_ok_of_cycle (hadd : b.addWritable = true) (hname : b.items? name = some (.text item))
    (hitem : b.items? item = some (.text name)) : b.spellWithin declared steps name ≠ .ok s := by
  induction steps generalizing name item s with
  | zero => exact nofun
  | succ steps ih =>
    intro h
    obtain ⟨_, _, t, hsteps, htext, ht, -⟩ := exists_of_spellWithin hadd hname h
    obtain rfl := Nat.succ.inj hsteps
    obtain rfl := Value.text.inj htext
    exact ih hitem hname ht

/-! ## The `RW` in front -/

theorem readForm_head (b : Binding) (name : String) : ¬"RW".toList <+: (b.readForm name ++ t).toList := by
  unfold readForm textureForm bufferForm
  split <;> simp [String.toList_append]

/-- The spelling of a type name that leads to items starts with `RW` exactly if the binding may be written and
the name has a writable form. -/
theorem withItems_form_head (b : Binding) (name items : String) :
    "RW".toList <+: (withItems (b.form name) items).toList
      ↔ b.isWritable = true ∧ b.hasWritableForm name = true := by
  have hread : ¬"RW".toList <+: (b.readForm name ++ ("<" ++ (items ++ ">"))).toList := b.readForm_head name
  cases hform : b.isWritable && b.hasWritableForm name with
  | true =>
    rw [withItems, form, hform, ← Bool.and_eq_true, hform]
    simp [String.toList_append]
  | false =>
    rw [withItems, form, hform, ← Bool.and_eq_true, hform]
    simpa [String.append_assoc] using hread

/-! ## Two spellings -/

theorem spelled_alike (h : b.items? name = none) (hs : b.spellWithin declared steps name = .ok s)
    (ht : b.writable.spellWithin declared steps name = .ok t) : t = s := by
  cases steps with
  | zero => cases hs
  | succ steps =>
    rw [spellWithin_writable h, hs] at ht
    exact (Except.ok.inj ht).symm

/-- The items of a binding are spelled alike, written or read, exactly if they have no writable form. -/
theorem spelled_alike_iff (hadd : b.addWritable = true) (hread : b.isWritable = false)
    (hname : b.items? name = some (.text item)) (hs : b.spellWithin declared steps item = .ok s)
    (ht : b.writable.spellWithin declared steps item = .ok t) :
    t = s ↔ b.hasWritableForm item = false := by
  cases hform : b.hasWritableForm item with
  | true =>
    obtain ⟨items, hitems⟩ := exists_items_of_hasWritableForm hform
    obtain ⟨_, _, s', -, -, -, rfl⟩ := exists_of_spellWithin hadd hitems hs
    obtain ⟨_, _, t', -, -, -, rfl⟩ := exists_of_spellWithin (b := b.writable) hadd hitems ht
    refine iff_of_false (fun heq => ?_) nofun
    have hhead := (withItems_form_head b.writable item t').mpr ⟨rfl, hform⟩
    rw [heq, withItems_form_head, hread] at hhead
    cases hhead.1
  | false =>
    refine iff_of_true ?_ rfl
    cases hitems : b.items? item with
    | none => exact spelled_alike hitems hs ht
    | some items =>
      -- The items are a buffer that is only read, so the binding itself gives them, and what the buffer names
      -- in turn leads nowhere: otherwise it would lead to the binding's items again.
      obtain ⟨_, inner, s', rfl, rfl, hs', rfl⟩ := exists_of_spellWithin hadd hitems hs
      obtain ⟨_, _, t', hsteps, hinner, ht', rfl⟩ := exists_of_spellWithin (b := b.writable) hadd hitems ht
      obtain rfl := Nat.succ.inj hsteps
      obtain rfl := Value.text.inj hinner
      obtain ⟨-, -, hwritable⟩ | ⟨buffer, hbuffer, heq⟩ := items?_eq_some hitems
      · cases hform.symm.trans hwritable
      obtain rfl := Value.text.inj heq
      obtain ⟨-, hgiven, -⟩ | ⟨outer, houter, heq⟩ := items?_eq_some hname
      · have hends : b.items? buffer.item = none := by
          by_contra hsome
          obtain ⟨items, hitems'⟩ := Option.ne_none_iff_exists'.mp hsome
          obtain ⟨-, rfl, -⟩ | ⟨inner, hinner, -⟩ := items?_eq_some hitems'
          · rw [← hgiven] at hitems'
            exact spellWithin_ne_ok_of_cycle hadd hitems' hitems hs'
          · cases (BufferOf.ofName?_item hbuffer).symm.trans hinner
        rw [spelled_alike hends hs' ht', form, form, hasWritableForm_writable, hform, Bool.and_false,
          Bool.and_false, readForm_writable]
      · obtain rfl := Value.text.inj heq
        cases (BufferOf.ofName?_item houter).symm.trans hbuffer

/-- A texture or buffer without items is spelled as a texture of colors. -/
theorem eq_of_spellWithin_of_no_items (hresource : TypeName.IsResource name) (h : b.items? name = none)
    (hs : b.spellWithin declared steps name = .ok s) :
    s = "Texture2D<float4>" ∧ b.hasWritableForm name = false := by
  cases steps with
  | zero => cases hs
  | succ steps =>
    obtain ⟨hplain, hfloat⟩ := hresource.spelling?_eq_none b.half
    rw [spellWithin_succ, hplain, hfloat] at hs
    obtain hasks | ⟨buffer, hbuffer⟩ := hresource
    · have hasks' : (TypeName.isTexture name || TypeName.isBuffer name) = true := by
        simpa [TypeName.asksForItems] using hasks
      have hgiven := isPresent_of_items? h hasks
      rw [hasWritableForm, if_pos hasks']
      refine ⟨?_, hgiven⟩
      by_cases htexture : TypeName.isTexture name = true
      · simpa [htexture, hgiven, eq_comm] using hs
      · have hbuffer : TypeName.isBuffer name = true := by simpa [htexture] using hasks'
        simp [htexture, hbuffer, hgiven, fail] at hs
    · cases hbuffer.symm.trans (ofName?_of_items? h)

/-- Which of the two spellings of a texture or buffer start with `RW`, and when nothing else sets them apart. -/
theorem two_spellings (hadd : b.addWritable = true) (hresource : TypeName.IsResource name)
    (hs : b.spellWithin declared steps name = .ok s) (ht : b.writable.spellWithin declared steps name = .ok t) :
    ("RW".toList <+: t.toList ↔ b.hasWritableForm name = true)
      ∧ ("RW".toList <+: s.toList ↔ b.isWritable = true ∧ b.hasWritableForm name = true)
      ∧ (b.isWritable = false → (t = (if b.hasWritableForm name then "RW" else "") ++ s
        ↔ ∀ item, b.items? name = some (.text item) → b.hasWritableForm item = false)) := by
  cases hitems : b.items? name with
  | none =>
    obtain ⟨rfl, hform⟩ := eq_of_spellWithin_of_no_items hresource hitems hs
    obtain rfl := spelled_alike hitems hs ht
    simp [hform]
  | some items =>
    obtain ⟨_, item, s', rfl, rfl, hs', rfl⟩ := exists_of_spellWithin hadd hitems hs
    obtain ⟨_, _, t', hsteps, hitem, ht', rfl⟩ := exists_of_spellWithin (b := b.writable) hadd hitems ht
    obtain rfl := Nat.succ.inj hsteps
    obtain rfl := Value.text.inj hitem
    refine ⟨by simpa using withItems_form_head b.writable name t', withItems_form_head .., fun hread => ?_⟩
    have hfront : withItems (b.writable.form name) t'
        = (if b.hasWritableForm name then "RW" else "") ++ withItems (b.form name) t' := by
      simp [form, withItems, hread, String.append_assoc]
    rw [hfront, String.append_right_inj]
    calc withItems (b.form name) t' = withItems (b.form name) s'
      _ ↔ t' = s' := by simp [withItems]
      _ ↔ b.hasWritableForm item = false := spelled_alike_iff hadd hread hitems hs' ht'
      _ ↔ _ := by simp

/-! ## Two declarations -/

/-- The line that declares something of a type under a name, without an array size. -/
def line (b : Binding) (spelling name : String) : String :=
  (if b.globallyCoherent && b.isWritable then "globallycoherent " else "") ++ spelling ++ " " ++ name ++ ";\n"

theorem declaration_eq (hnone : b.hlslType.isPresent = false) (hresource : TypeName.IsResource b.type) :
    b.declaration declared name = (b.line · name) <$> b.spell declared b.type := by
  unfold declaration spelling arraySuffix
  rw [hnone, hresource.endsWith]
  cases b.spell declared b.type with
  | error => rfl
  | ok s =>
    simp only [Bool.false_eq_true, if_false, Bool.not_false, if_true, map_ok, ok_bind, String.append_empty]
    rfl

theorem text_of_spell {s t : String} (hadd : b.addWritable = true) (hnone : b.hlslType.isPresent = false)
    (hresource : TypeName.IsResource b.type) (hname : shaderName b.name b.target = .ok (.text name))
    (hs : b.spell declared b.type = .ok s) (ht : b.writable.spell declared b.type = .ok t) :
    b.text declared = .ok (b.line s name ++ b.writable.line t (name ++ "RW")) := by
  have hlines : ∀ name, b.declaration declared name = .ok (b.line s name)
      ∧ b.writable.declaration declared name = .ok (b.writable.line t name) := by
    intro name
    rw [declaration_eq hnone hresource, declaration_eq (b := b.writable) hnone hresource, hs]
    exact ⟨rfl, congrArg _ ht⟩
  unfold text
  rw [hname]
  simp [hlines, hadd, Value.asText]
  rfl

/-- A texture or buffer that asks for a second declaration has two lines, one under its name and one under the
name with `RW` behind it. The second type starts with `RW` exactly if the type has a writable form, and the first
one if the binding may be written, too. Where the binding may only be read, an `RW` at most is what the second
type adds to the first, exactly if the items have no writable form. -/
theorem writable_twin {text : String} (hadd : b.addWritable = true) (hnone : b.hlslType.isPresent = false)
    (hresource : TypeName.IsResource b.type) (h : b.text declared = .ok text) :
    ∃ name first second, shaderName b.name b.target = .ok (.text name)
      ∧ b.spell declared b.type = .ok first ∧ b.writable.spell declared b.type = .ok second
      ∧ text = b.line first name ++ b.writable.line second (name ++ "RW")
      ∧ ("RW".toList <+: second.toList ↔ b.hasWritableForm b.type = true)
      ∧ ("RW".toList <+: first.toList ↔ b.isWritable = true ∧ b.hasWritableForm b.type = true)
      ∧ (b.isWritable = false →
        (second = (if b.hasWritableForm b.type then "RW" else "") ++ first
          ↔ ∀ item, b.items? b.type = some (.text item) → b.hasWritableForm item = false)) := by
  obtain ⟨value, hvalue, h⟩ := bind_eq_ok_iff.mp h
  obtain ⟨line₁, hline₁, h⟩ := bind_eq_ok_iff.mp h
  simp only [hadd, Bool.not_true] at h
  obtain ⟨name, hname, h⟩ := bind_eq_ok_iff.mp h
  obtain ⟨line₂, hline₂, h⟩ := bind_eq_ok_iff.mp h
  rw [liftM_eq_orBreak, orBreak_eq_ok_iff] at hvalue hname
  obtain rfl := Value.eq_text_of_asText hname
  rw [declaration_eq hnone hresource] at hline₁
  rw [declaration_eq (b := b.writable) hnone hresource] at hline₂
  obtain ⟨first, hfirst, rfl⟩ := exists_of_map_eq_ok hline₁
  obtain ⟨second, hsecond, rfl⟩ := exists_of_map_eq_ok hline₂
  obtain rfl := Except.ok.inj h
  exact ⟨name, first, second, hvalue, hfirst, hsecond, rfl, two_spellings hadd hresource hfirst hsecond⟩

/-- A buffer of a declared type that may be written, and that is declared to be read first. -/
def lights : Binding :=
  { name := "lights", type := "RWStructuredBuffer<LightData>", addWritable := true }

/-- A texture of colors. -/
def layers : Binding :=
  { name := "layers", type := "Texture", addWritable := true }

/-- A buffer of numbers without `RW` in its name. -/
def cells : Binding :=
  { name := "cells", type := "StructuredBuffer<float>", addWritable := true }

/-- A buffer of buffers that may be written. -/
def tiles : Binding :=
  { name := "tiles", type := "ComputeBuffer", innerType := "RWStructuredBuffer<LightData>", addWritable := true }

set_option maxRecDepth 2048 in
/-- What the names of the first two buffers say. -/
theorem ofName?_lights_cells :
    BufferOf.ofName? "RWStructuredBuffer<LightData>" = some ⟨true, "LightData"⟩
      ∧ BufferOf.ofName? "StructuredBuffer<float>" = some ⟨false, "float"⟩ := by
  unfold BufferOf.ofName? BufferOf.readItem?
  rw [BufferOf.isItemChar_eq, Text.isBlank_eq]
  decide

/-- Both declarations of a buffer, which differ in the `RW` alone. -/
theorem lights_have_writable_twin :
    lights.addWritable = true ∧ lights.hlslType.isPresent = false ∧ TypeName.IsResource lights.type
      ∧ lights.text ["LightData"]
        = .ok "StructuredBuffer<LightData> lights;\nRWStructuredBuffer<LightData> lightsRW;\n"
      ∧ ∃ first second, lights.spell ["LightData"] lights.type = .ok first
        ∧ lights.writable.spell ["LightData"] lights.type = .ok second
        ∧ "RW".toList <+: second.toList ∧ ¬"RW".toList <+: first.toList ∧ second = "RW" ++ first := by
  have hresource : TypeName.IsResource lights.type := Or.inr ⟨_, ofName?_lights_cells.1⟩
  obtain ⟨hitem, hform⟩ : lights.items? lights.type = some (.text "LightData")
      ∧ lights.hasWritableForm lights.type = true := items?_of_ofName? ofName?_lights_cells.1
  have hread : lights.spell ["LightData"] lights.type = .ok "StructuredBuffer<LightData>" := by
    rw [spell, longestChain, spellWithin_of_item rfl hitem, form, hform]
    exact eq_ok_of_toOption (by decide)
  have hwritten : lights.writable.spell ["LightData"] lights.type = .ok "RWStructuredBuffer<LightData>" := by
    rw [spell, longestChain, spellWithin_of_item (b := lights.writable) rfl hitem, form,
      hasWritableForm_writable, hform]
    exact eq_ok_of_toOption (by decide)
  have htext : lights.text ["LightData"]
      = .ok "StructuredBuffer<LightData> lights;\nRWStructuredBuffer<LightData> lightsRW;\n" := by
    rw [text_of_spell rfl rfl hresource rfl hread hwritten]
    exact congrArg Except.ok (by decide)
  obtain ⟨_, first, second, -, hfirst, hsecond, -, hhead, hhead', htwin⟩ := writable_twin rfl rfl hresource htext
  rw [hform] at htwin
  refine ⟨rfl, rfl, hresource, htext, first, second, hfirst, hsecond, hhead.mpr hform,
    fun hfront => absurd (hhead'.mp hfront).1 (by decide), (htwin rfl).mpr fun item hitem' => ?_⟩
  obtain rfl : "LightData" = item := Value.text.inj (Option.some.inj (hitem.symm.trans hitem'))
  decide

/-- Bindings whose second declaration is not the writable form of the first: a texture of colors and a buffer
without `RW` in its name are declared the same twice, and of a buffer of buffers both become writable. -/
theorem twins_without_writable_form :
    layers.text [] = .ok "Texture2D<float4> layers;\nTexture2D<float4> layersRW;\n"
      ∧ cells.text [] = .ok "StructuredBuffer<float> cells;\nStructuredBuffer<float> cellsRW;\n"
      ∧ tiles.text ["LightData"] = .ok ("StructuredBuffer<StructuredBuffer<LightData>> tiles;\n"
        ++ "RWStructuredBuffer<RWStructuredBuffer<LightData>> tilesRW;\n") := by
  obtain ⟨hcell, hcells⟩ : cells.items? cells.type = some (.text "float")
      ∧ cells.hasWritableForm cells.type = false := items?_of_ofName? ofName?_lights_cells.2
  have hcellsRead : cells.spell [] cells.type = .ok "StructuredBuffer<float>" := by
    rw [spell, longestChain, spellWithin_of_item rfl hcell, form, hcells]
    exact eq_ok_of_toOption (by decide)
  have hcellsWritten : cells.writable.spell [] cells.type = .ok "StructuredBuffer<float>" := by
    rw [spell, longestChain, spellWithin_of_item (b := cells.writable) rfl hcell, form,
      hasWritableForm_writable, hcells]
    exact eq_ok_of_toOption (by decide)
  have htile : tiles.items? tiles.type = some (.text "RWStructuredBuffer<LightData>") := rfl
  obtain ⟨hinner, hform⟩ : tiles.items? "RWStructuredBuffer<LightData>" = some (.text "LightData")
      ∧ tiles.hasWritableForm "RWStructuredBuffer<LightData>" = true := items?_of_ofName? ofName?_lights_cells.1
  have htilesRead : tiles.spell ["LightData"] tiles.type
      = .ok "StructuredBuffer<StructuredBuffer<LightData>>" := by
    rw [spell, longestChain, spellWithin_of_item rfl htile, spellWithin_of_item rfl hinner, form, form,
      hform]
    exact eq_ok_of_toOption (by decide)
  have htilesWritten : tiles.writable.spell ["LightData"] tiles.type
      = .ok "RWStructuredBuffer<RWStructuredBuffer<LightData>>" := by
    rw [spell, longestChain, spellWithin_of_item (b := tiles.writable) rfl htile,
      spellWithin_of_item (b := tiles.writable) rfl hinner, form, form, hasWritableForm_writable,
      hasWritableForm_writable, hform]
    exact eq_ok_of_toOption (by decide)
  have hcellsResource : TypeName.IsResource cells.type := Or.inr ⟨_, ofName?_lights_cells.2⟩
  have htilesResource : TypeName.IsResource tiles.type := Or.inl (Or.inr (by decide))
  refine ⟨eq_ok_of_toOption (by decide +kernel), ?_, ?_⟩
  · rw [text_of_spell rfl rfl hcellsResource rfl hcellsRead hcellsWritten]
    exact congrArg Except.ok (by decide)
  · rw [text_of_spell rfl rfl htilesResource rfl htilesRead htilesWritten]
    exact congrArg Except.ok (by decide)

end Binding

end ShaderRecords
