/-
ShaderRecords.Proofs.Binding.Chain — how far the names of types are followed.

To spell a type name is to follow a chain of names: a texture or buffer leads to the items that the binding gives,
and a buffer that names its items leads to these (`Binding.LeadsTo`). One step of spelling is spelled out once, in
`spellWithin_cases`; by induction spelling runs out of steps exactly if as many names can be followed
(`spellWithin_eq_endless_iff`), and what is spelled with some steps is spelled alike with more of them.

The items that a buffer's own name gives are no such buffer again, so of two names of a chain one asks for the items
of the binding. That is why a chain ends after four names, unless it comes to a name that leads to the items of the
binding and these lead to themselves (`Binding.Circles`); then it never ends. `spelling_ends_iff` says so of the
chain, of the number of steps, and of what is spelled or told.
-/
import Mathlib.Data.List.Chain
import ShaderRecords.Proofs.Binding.Twin

namespace ShaderRecords

namespace Binding

variable {b : Binding} {declared : List String} {name item : String} {names : List String} {items : Value}
  {steps : Nat}

/-- Whether a type name leads to another one, which is spelled inside its brackets. -/
def LeadsTo (b : Binding) (name item : String) : Prop :=
  b.items? name = some (.text item)

/-- Whether names are a chain behind a first one: each of them is the one that the name before it leads to. -/
def Follows (b : Binding) (name : String) (names : List String) : Prop :=
  List.IsChain b.LeadsTo (name :: names)

/-- Whether following names from a type name goes round in circles: the name leads to the items that the binding
gives, and these lead to themselves. -/
def Circles (b : Binding) (name : String) : Prop :=
  TypeName.leadsToItems name ∧ ∃ items, b.innerType = .text items ∧ TypeName.leadsToItems items

/-! ## One step -/

/-- Items that are no text are those of the binding. -/
theorem isText_of_items? (hinner : b.innerType.IsTextOrNull) (h : b.items? name = some items) :
    items.IsText := by
  have hgiven : b.innerType.isPresent = true → b.innerType.IsText := by
    intro hpresent
    refine hinner.resolve_left fun hnull => ?_
    rw [hnull] at hpresent
    cases hpresent
  obtain ⟨-, hpresent, rfl⟩ | ⟨-, -, hpresent, rfl⟩ | ⟨-, -, _, -, rfl⟩ := items?_cases h
  · exact hgiven hpresent
  · exact hgiven hpresent
  · exact ⟨_, rfl⟩

/-- A name without items is spelled in one step, or a problem is told. -/
theorem exists_unbroken (h : b.items? name = none) (declared : List String) :
    ∃ r, Unbroken r ∧ ∀ steps, b.spellWithin declared (steps + 1) name = r := by
  have hnamed := ofName?_of_items? h
  refine ⟨b.spellWithin declared 1 name, ?_, fun steps => ?_⟩
  · refine unbroken_spellWithin_succ (fun hasks hpresent => ?_) fun _ buffer hname => ?_
    · cases hpresent.symm.trans (isPresent_of_items? h hasks)
    · cases hname.symm.trans hnamed
  · rw [spellWithin_succ, spellWithin_succ]
    by_cases htexture : TypeName.isTexture name = true
    · simp [htexture, isPresent_of_items? h (.inl htexture)]
    · by_cases hbuffer : TypeName.isBuffer name = true
      · simp [htexture, hbuffer, isPresent_of_items? h (.inr hbuffer)]
      · simp [htexture, hbuffer, hnamed]

/-- The spelling of a name follows the name that this leads to, or it ends within one step. -/
theorem spellWithin_cases (b : Binding) (declared : List String) (name : String) :
    (∃ item form, b.LeadsTo name item ∧ ∀ steps,
        b.spellWithin declared (steps + 1) name = withItems form <$> b.spellWithin declared steps item)
      ∨ (∀ item, ¬b.LeadsTo name item) ∧ ∃ r, r ≠ .error (.breakdown .endless)
        ∧ (b.innerType.IsTextOrNull → Unbroken r) ∧ ∀ steps, b.spellWithin declared (steps + 1) name = r := by
  cases hitems : b.items? name with
  | none =>
    obtain ⟨r, hr, hsteps⟩ := exists_unbroken hitems declared
    refine .inr ⟨fun item hleads => ?_, r, hr _, fun _ => hr, hsteps⟩
    cases hitems.symm.trans hleads
  | some items =>
    obtain ⟨form, -, hform⟩ := exists_form hitems declared
    by_cases htext : items.IsText
    · obtain ⟨item, rfl⟩ := htext
      exact .inl ⟨item, form, hitems, hform⟩
    · have hbroken : items.asText = .error .wrongKind := by
        cases items with
        | text item => exact absurd ⟨item, rfl⟩ htext
        | _ => rfl
      refine .inr ⟨fun item hleads => ?_, .error (.breakdown .wrongKind), by simp,
        fun hinner => absurd (isText_of_items? hinner hitems) htext, fun steps => ?_⟩
      · exact htext ⟨item, Option.some.inj (hitems.symm.trans hleads)⟩
      · rw [hform, hbroken]
        rfl

/-! ## Chains of names -/

@[simp] theorem follows_nil : b.Follows name [] :=
  List.isChain_singleton name

theorem follows_cons : b.Follows name (item :: names) ↔ b.LeadsTo name item ∧ b.Follows item names :=
  List.isChain_cons_cons

/-- A name leads to one name at most. -/
theorem LeadsTo.unique {other : String} (h : b.LeadsTo name item) (h' : b.LeadsTo name other) : item = other :=
  Value.text.inj (Option.some.inj (h.symm.trans h'))

/-- Spelling runs out of steps exactly if as many names can be followed. -/
theorem spellWithin_eq_endless_iff :
    b.spellWithin declared steps name = .error (.breakdown .endless)
      ↔ ∃ names, names.length = steps ∧ b.Follows name names := by
  induction steps generalizing name with
  | zero => exact iff_of_true rfl ⟨[], rfl, follows_nil⟩
  | succ steps ih =>
    obtain ⟨item, form, hleads, hstep⟩ | ⟨hends, r, hr, -, hstep⟩ := spellWithin_cases b declared name
    · rw [hstep]
      calc withItems form <$> b.spellWithin declared steps item = .error (.breakdown .endless)
        _ ↔ b.spellWithin declared steps item = .error (.breakdown .endless) := by
          cases b.spellWithin declared steps item <;> simp
        _ ↔ ∃ names, names.length = steps ∧ b.Follows item names := ih
        _ ↔ ∃ names, names.length = steps + 1 ∧ b.Follows name names := by
          constructor
          · rintro ⟨names, rfl, hfollows⟩
            exact ⟨item :: names, rfl, follows_cons.mpr ⟨hleads, hfollows⟩⟩
          · rintro ⟨_ | ⟨next, names⟩, hlength, hfollows⟩
            · cases hlength
            · obtain ⟨hnext, hrest⟩ := follows_cons.mp hfollows
              obtain rfl := hleads.unique hnext
              exact ⟨names, Nat.succ.inj hlength, hrest⟩
    · rw [hstep]
      refine iff_of_false hr ?_
      rintro ⟨_ | ⟨next, names⟩, hlength, hfollows⟩
      · cases hlength
      · exact hends next (follows_cons.mp hfollows).1

/-- What is spelled with some steps is spelled alike with more of them. -/
theorem spellWithin_add (h : b.spellWithin declared steps name ≠ .error (.breakdown .endless)) (more : Nat) :
    b.spellWithin declared (steps + more) name = b.spellWithin declared steps name := by
  induction steps generalizing name with
  | zero => exact absurd rfl h
  | succ steps ih =>
    rw [Nat.succ_add]
    obtain ⟨item, form, -, hstep⟩ | ⟨-, r, -, -, hstep⟩ := spellWithin_cases b declared name
    · rw [hstep] at h
      have hitem : b.spellWithin declared steps item ≠ .error (.breakdown .endless) := by
        intro hendless
        rw [hendless] at h
        exact h rfl
      rw [hstep, hstep, ih hitem]
    · rw [hstep, hstep]

/-- Spelling that does not run out of steps does not break down if the items of the binding are a text. -/
theorem unbroken_spellWithin (hinner : b.innerType.IsTextOrNull)
    (h : b.spellWithin declared steps name ≠ .error (.breakdown .endless)) :
    Unbroken (b.spellWithin declared steps name) := by
  induction steps generalizing name with
  | zero => exact absurd rfl h
  | succ steps ih =>
    obtain ⟨item, form, -, hstep⟩ | ⟨-, r, -, hr, hstep⟩ := spellWithin_cases b declared name
    · rw [hstep] at h ⊢
      refine Unbroken.bind (ih fun hendless => h ?_) fun _ _ => unbroken_ok _
      rw [hendless]
      rfl
    · rw [hstep]
      exact hr hinner

/-! ## Where chains end -/

theorem leadsTo_cases (h : b.LeadsTo name item) :
    (TypeName.asksForItems name ∧ b.innerType = .text item)
      ∨ ∃ buffer, BufferOf.ofName? name = some buffer ∧ buffer.item = item := by
  obtain ⟨hasks, hinner, -⟩ | ⟨buffer, hname, hitem⟩ := items?_eq_some h
  · exact .inl ⟨hasks, hinner.symm⟩
  · exact .inr ⟨buffer, hname, (Value.text.inj hitem).symm⟩

/-- A buffer that names its items is followed by a name that asks for those of the binding. -/
theorem asksForItems_of_leadsTo {buffer : BufferOf} (hname : BufferOf.ofName? name = some buffer)
    (h : b.LeadsTo buffer.item item) : TypeName.asksForItems buffer.item ∧ b.innerType = .text item := by
  obtain hasks | ⟨inner, hinner, -⟩ := leadsTo_cases h
  · exact hasks
  · cases (BufferOf.ofName?_item hname).symm.trans hinner

/-- A name from which two names can be followed leads to the items of the binding. -/
theorem leadsToItems_of_follows {next : String} (h : b.LeadsTo name item) (h' : b.LeadsTo item next) :
    TypeName.leadsToItems name := by
  obtain ⟨hasks, -⟩ | ⟨buffer, hname, rfl⟩ := leadsTo_cases h
  · exact .inl hasks
  · exact .inr ⟨buffer, hname, (asksForItems_of_leadsTo hname h').1⟩

/-- Where four names can be followed, names go round in circles. -/
theorem circles_of_follows {first second third fourth : String}
    (h : b.Follows name (first :: second :: third :: fourth :: names)) : b.Circles name := by
  simp only [follows_cons] at h
  obtain ⟨h₁, h₂, h₃, h₄, -⟩ := h
  refine ⟨leadsToItems_of_follows h₁ h₂, ?_⟩
  obtain ⟨-, hinner⟩ | ⟨buffer, hname, rfl⟩ := leadsTo_cases h₁
  · exact ⟨first, hinner, leadsToItems_of_follows h₂ h₃⟩
  · exact ⟨second, (asksForItems_of_leadsTo hname h₂).2, leadsToItems_of_follows h₃ h₄⟩

theorem length_lt_of_follows (hends : ¬b.Circles name) (h : b.Follows name names) :
    names.length < longestChain := by
  match names with
  | [] | [_] | [_, _] | [_, _, _] => simp [longestChain]
  | first :: second :: third :: fourth :: names => exact absurd (circles_of_follows h) hends

/-- Names that go round in circles lead to such names again. -/
theorem Circles.exists_leadsTo (h : b.Circles name) : ∃ item, b.LeadsTo name item ∧ b.Circles item := by
  obtain ⟨hleads, items, hinner, hitems⟩ := h
  obtain hasks | ⟨buffer, hname, hasks⟩ := hleads
  · have hpresent : b.innerType.isPresent = true := by
      have hne : items ≠ "" := by
        rintro rfl
        obtain hasks | ⟨buffer, hname, -⟩ := hitems
        · exact absurd (TypeName.mem_askingNames hasks) (by decide)
        · exact absurd (BufferOf.lt_mem_of_ofName? hname).1 (by decide)
      simpa [hinner, Value.isPresent] using hne
    have hasks' : (TypeName.isTexture name || TypeName.isBuffer name) = true := by
      simpa [TypeName.asksForItems] using hasks
    refine ⟨items, ?_, hitems, items, hinner, hitems⟩
    rw [LeadsTo, items?, if_pos hasks', if_pos hpresent, hinner]
  · exact ⟨buffer.item, (items?_of_ofName? hname).1, .inl hasks, items, hinner, hitems⟩

theorem Circles.exists_follows (h : b.Circles name) (n : Nat) :
    ∃ names, names.length = n ∧ b.Follows name names := by
  induction n generalizing name with
  | zero => exact ⟨[], rfl, follows_nil⟩
  | succ n ih =>
    obtain ⟨item, hleads, hitem⟩ := h.exists_leadsTo
    obtain ⟨names, hlength, hfollows⟩ := ih hitem
    exact ⟨item :: names, congrArg Nat.succ hlength, follows_cons.mpr ⟨hleads, hfollows⟩⟩

theorem spell_eq_endless_iff : b.spell declared name = .error (.breakdown .endless) ↔ b.Circles name := by
  constructor
  · intro hendless
    obtain ⟨names, hlength, hfollows⟩ := spellWithin_eq_endless_iff.mp hendless
    by_contra hends
    exact absurd (length_lt_of_follows hends hfollows) (by simp [hlength])
  · exact fun hcircles => spellWithin_eq_endless_iff.mpr (hcircles.exists_follows longestChain)

/-- Following names comes to an end with the fourth name, and what is spelled or told then is the same with any more
steps, unless both the type name and the items that the binding gives lead to these items. Then names can be followed
without end, and no number of steps is enough to spell the type name. Hence the type of a binding that asks for no
spelling of its own has one, or a problem is told, exactly if following its name does not go round in circles. -/
theorem spelling_ends_iff (b : Binding) (declared : List String) (name : String) :
    (¬b.Circles name →
      (∀ names, b.Follows name names → names.length < longestChain)
        ∧ (∀ more, b.spellWithin declared (longestChain + more) name = b.spell declared name)
        ∧ b.spell declared name ≠ .error (.breakdown .endless)
        ∧ (b.innerType.IsTextOrNull → Unbroken (b.spell declared name)))
      ∧ (b.Circles name →
        (∀ n, ∃ names, names.length = n ∧ b.Follows name names)
          ∧ ∀ steps, b.spellWithin declared steps name = .error (.breakdown .endless))
      ∧ (b.hlslType.isPresent = false → b.innerType.IsTextOrNull →
        (Unbroken (b.spelling declared) ↔ ¬b.Circles b.type)) := by
  refine ⟨fun hends => ?_, fun hcircles => ?_, fun hnone hinner => ?_⟩
  · have hspelled : b.spell declared name ≠ .error (.breakdown .endless) := mt spell_eq_endless_iff.mp hends
    exact ⟨fun names => length_lt_of_follows hends, spellWithin_add hspelled, hspelled,
      fun hinner => unbroken_spellWithin hinner hspelled⟩
  · exact ⟨hcircles.exists_follows, fun steps => spellWithin_eq_endless_iff.mpr (hcircles.exists_follows steps)⟩
  · have hspelling : b.spelling declared = .text <$> b.spell declared b.type := by
      rw [spelling, hnone]
      rfl
    rw [hspelling]
    constructor
    · intro hunbroken hcircles
      rw [spell_eq_endless_iff.mpr hcircles] at hunbroken
      exact hunbroken .endless rfl
    · intro hends
      have hspelled : b.spell declared b.type ≠ .error (.breakdown .endless) := mt spell_eq_endless_iff.mp hends
      exact (unbroken_spellWithin hinner hspelled).bind fun _ _ => unbroken_ok _

/-- A buffer of textures of buffers of numbers. -/
def grids : Binding :=
  { name := "grids", type := "RWStructuredBuffer<Texture>", innerType := "StructuredBuffer<float>",
    addWritable := true }

/-- A texture of buffers of textures. -/
def mirrors : Binding :=
  { name := "mirrors", type := "Texture", innerType := "StructuredBuffer<Texture>" }

set_option maxRecDepth 2048 in
/-- What the names of the buffers with textures in them say. -/
theorem ofName?_of_textures :
    BufferOf.ofName? "RWStructuredBuffer<Texture>" = some ⟨true, "Texture"⟩
      ∧ BufferOf.ofName? "StructuredBuffer<Texture>" = some ⟨false, "Texture"⟩ := by
  unfold BufferOf.ofName? BufferOf.readItem?
  rw [BufferOf.isItemChar_eq, Text.isBlank_eq]
  decide

/-- The longest chain that ends has four names, so that three steps are not enough for it; where the items of a
texture lead to textures again, no number of steps is. -/
theorem spelling_ends_of_grids_not_of_mirrors :
    ¬grids.Circles grids.type
      ∧ grids.Follows grids.type ["Texture", "StructuredBuffer<float>", "float"]
      ∧ grids.spellWithin [] 3 grids.type = .error (.breakdown .endless)
      ∧ (∀ more, grids.spellWithin [] (4 + more) grids.type
        = .ok "StructuredBuffer<Texture2D<StructuredBuffer<float>>>")
      ∧ Unbroken (grids.spelling [])
      ∧ mirrors.Circles mirrors.type
      ∧ (∀ steps, mirrors.spellWithin [] steps mirrors.type = .error (.breakdown .endless))
      ∧ ¬Unbroken (mirrors.spelling []) := by
  have hbuffer : grids.items? grids.type = some (.text "Texture")
      ∧ grids.hasWritableForm grids.type = true := items?_of_ofName? ofName?_of_textures.1
  have htexture : grids.items? "Texture" = some (.text "StructuredBuffer<float>") := rfl
  have hcells : grids.items? "StructuredBuffer<float>" = some (.text "float")
      ∧ grids.hasWritableForm "StructuredBuffer<float>" = false := items?_of_ofName? ofName?_lights_cells.2
  have hfollows : grids.Follows grids.type ["Texture", "StructuredBuffer<float>", "float"] :=
    follows_cons.mpr ⟨hbuffer.1, follows_cons.mpr ⟨htexture, follows_cons.mpr ⟨hcells.1, follows_nil⟩⟩⟩
  have hends : ¬grids.Circles grids.type := by
    rintro ⟨-, items, hinner, hitems⟩
    obtain rfl : "StructuredBuffer<float>" = items := Value.text.inj hinner
    obtain hasks | ⟨buffer, hname, hasks⟩ := hitems
    · exact absurd (TypeName.mem_askingNames hasks) (by decide)
    · obtain rfl := Option.some.inj (ofName?_lights_cells.2.symm.trans hname)
      exact absurd (TypeName.mem_askingNames hasks) (by decide)
  have hcircles : mirrors.Circles mirrors.type :=
    ⟨.inl (.inl (by decide)), _, rfl, .inr ⟨_, ofName?_of_textures.2, .inl (by decide)⟩⟩
  have hspelled : grids.spell [] grids.type = .ok "StructuredBuffer<Texture2D<StructuredBuffer<float>>>" := by
    rw [spell, longestChain, spellWithin_of_item rfl hbuffer.1, spellWithin_of_item rfl htexture,
      spellWithin_of_item rfl hcells.1, form, form, form, hbuffer.2, hcells.2]
    exact eq_ok_of_toOption (by decide)
  obtain ⟨hgrids, -, hgridsType⟩ := spelling_ends_iff grids [] grids.type
  obtain ⟨-, hmirrors, hmirrorsType⟩ := spelling_ends_iff mirrors [] mirrors.type
  refine ⟨hends, hfollows, spellWithin_eq_endless_iff.mpr ⟨_, rfl, hfollows⟩, fun more => ?_,
    (hgridsType rfl (.inr ⟨_, rfl⟩)).mpr hends, hcircles, (hmirrors hcircles).2, fun hunbroken => ?_⟩
  · exact ((hgrids hends).2.1 more).trans hspelled
  · exact (hmirrorsType rfl (.inr ⟨_, rfl⟩)).mp hunbroken hcircles

end Binding

end ShaderRecords
