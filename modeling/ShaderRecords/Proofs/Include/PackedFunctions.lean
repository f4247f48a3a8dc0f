/-
ShaderRecords.Proofs.Include.PackedFunctions — the functions for packed values are written.

Writing the functions of a layout can tell a problem: the layout has no value type. And it can break down: a
name is no text, the ends of a range are no proper ends, a width is no width. `Emits x p` says that a step
tells nothing and, under the condition `p`, does not break down either. It goes along chains, so that the
two questions are answered by one proof. A layout that is made of a request has a value type
(`Layout.isSome_valueType?_of_ofDirective`) and, in checked documents, all that its functions need
(`Layout.Usable`).

Expressions are trees, and they can be written if their constants can (`Formula.Writable`).
-/
import ShaderRecords.Include.PackedFunctions
import ShaderRecords.Proofs.Description.Reading
import ShaderRecords.Proofs.Number.Difference
import ShaderRecords.Proofs.Storage.BitField
import ShaderRecords.Proofs.Storage.Resolver

namespace ShaderRecords

/-! ## Steps that tell nothing -/

/-- A chain succeeds when its first step does and the rest does with what that step gives. -/
theorem run_bind_eq_ok_iff {α β : Type} {x : Emitting α} {f : α → Emitting β} {s told : Untyped} {b : β} :
    (x >>= f).run.run s = (.ok b, told)
      ↔ ∃ a s', x.run.run s = (.ok a, s') ∧ (f a).run.run s' = (.ok b, told) := by
  rw [ExceptT.run_bind, StateT.run_bind]
  generalize x.run.run s = outcome
  obtain ⟨e | a, s'⟩ : Except Breakdown α × Untyped := outcome
  · constructor
    · intro h
      exact absurd (Prod.mk.inj h).1 (by simp)
    · rintro ⟨a, s'', h, -⟩
      exact absurd (Prod.mk.inj h).1 (by simp)
  · constructor
    · intro h
      exact ⟨a, s', rfl, h⟩
    · rintro ⟨a', s'', h, hf⟩
      obtain ⟨ha, rfl⟩ := Prod.mk.inj h
      obtain rfl := Except.ok.inj ha
      exact hf

theorem run_emitted_eq_ok_iff {α : Type} {x : Except Breakdown α} {s told : Untyped} {a : α} :
    (emitted x).run.run s = (.ok a, told) ↔ x = .ok a ∧ told = s := by
  show (x, s) = (Except.ok a, told) ↔ _
  rw [Prod.mk.injEq]
  exact and_congr_right fun _ => eq_comm

theorem run_pure_eq_ok_iff {α : Type} {s told : Untyped} {a b : α} :
    (pure a : Emitting α).run.run s = (.ok b, told) ↔ a = b ∧ told = s := by
  show (Except.ok a, s) = (Except.ok b, told) ↔ _
  rw [Prod.mk.injEq, Except.ok.injEq]
  exact and_congr_right fun _ => eq_comm

/-- A step that tells nothing and, under a condition, does not break down. -/
def Emits {α : Type} (x : Emitting α) (p : Prop) : Prop :=
  ∃ r, x = emitted r ∧ (p → Gives r fun _ => True)

namespace Emits

variable {α β : Type} {p : Prop}

theorem emitted {r : Except Breakdown α} (h : p → Gives r fun _ => True) :
    Emits (ShaderRecords.emitted r) p :=
  ⟨r, rfl, h⟩

theorem pure (a : α) : Emits (Pure.pure a) p :=
  ⟨.ok a, rfl, fun _ => gives_ok trivial⟩

theorem imp {q : Prop} {x : Emitting α} (hx : Emits x p) (h : q → p) : Emits x q := by
  obtain ⟨r, rfl, hr⟩ := hx
  exact ⟨r, rfl, fun hq => hr (h hq)⟩

theorem bind {x : Emitting α} {f : α → Emitting β} (hx : Emits x p) (hf : ∀ a, Emits (f a) p) :
    Emits (x >>= f) p := by
  obtain ⟨r, rfl, hr⟩ := hx
  match r with
  | .ok a => exact hf a
  | .error b =>
    refine ⟨.error b, rfl, fun hp => ?_⟩
    obtain ⟨a, ha, -⟩ := hr hp
    simp at ha

theorem mapM {f : α → Emitting β} {xs : List α} (h : ∀ x ∈ xs, Emits (f x) p) : Emits (xs.mapM f) p :=
  mapM_of_bind (P := fun x => Emits x p) pure bind h

end Emits

/-! ## Expressions -/

/-- Whole numbers below the number of words can be written. -/
theorem isWritable_of_natAbs_lt {n : Int} (h : n.natAbs < 2 ^ 32) : isWritable n = true := by
  have hword : 2 ^ 32 ≤ 10 ^ maxDigits :=
    Nat.le_trans (m := 10 ^ 10) (by decide) (Nat.pow_le_pow_right (by decide) (by decide))
  exact decide_eq_true (Nat.lt_of_lt_of_le h hword)

theorem gives_wholeText {n : Int} (h : isWritable n = true) : Gives (wholeText n) fun _ => True := by
  rw [wholeText, if_pos h]
  exact gives_ok trivial

namespace Formula

/-- Whether the constants of an expression can be written. -/
def Writable : Formula Number → Prop
  | .stored | .argument | .whole _ => True
  | .constant x => ∃ y, x = .float y
  | .wholeFloat n | .wholeUint n => isWritable n = true
  | .call _ x | .group x | .toUint x => x.Writable
  | .call3 _ x y z => x.Writable ∧ y.Writable ∧ z.Writable
  | .binary _ x y => x.Writable ∧ y.Writable

theorem gives_render {e : Formula Number} (h : e.Writable) (stored argument : String) :
    Gives (e.render stored argument) fun _ => True := by
  induction e with
  | stored | argument | whole _ => exact gives_ok trivial
  | constant x =>
    obtain ⟨y, rfl⟩ := h
    exact gives_ok trivial
  | wholeFloat n | wholeUint n => exact (gives_wholeText h).bind fun _ _ => gives_ok trivial
  | call _ x ih | group x ih | toUint x ih => exact (ih h).bind fun _ _ => gives_ok trivial
  | call3 _ x y z ihx ihy ihz =>
    exact (ihx h.1).bind fun _ _ => (ihy h.2.1).bind fun _ _ => (ihz h.2.2).bind fun _ _ => gives_ok trivial
  | binary _ x y ihx ihy => exact (ihx h.1).bind fun _ _ => (ihy h.2).bind fun _ _ => gives_ok trivial

end Formula

theorem Store.gives_render {s : Store Number} {e : Formula Number} (hs : s = .assign e ∨ s = .orAssign e)
    (h : e.Writable) (stored argument : String) : Gives (s.render stored argument) fun _ => True := by
  rcases hs with rfl | rfl <;> exact (Formula.gives_render h stored argument).bind fun _ _ => gives_ok trivial

/-! ## Layouts of checked requests -/

namespace Layout

variable {l : Layout Number}

/-- A layout with all that its functions need: a name, two different ends and, for a scheme for bits, bits of
the word. -/
structure Usable (l : Layout Number) : Prop where
  field : l.field.IsText
  label : l.label.IsText
  ends : ∃ lo hi : Float, l.range = (.float lo, .float hi) ∧ (lo == hi) = false
  bits : (∃ s, l.scheme = some s ∧ s.isBitField = true) → l.IsBitField

/-- The largest code can be written. -/
theorem IsBitField.isWritable_mask (h : l.IsBitField) : isWritable ((2 ^ l.bits - 1 : Nat) : Int) = true := by
  have hbits := h.two_pow_bits_le
  have hpos : 0 < 2 ^ l.bits := Nat.two_pow_pos l.bits
  refine isWritable_of_natAbs_lt ?_
  rw [Int.natAbs_natCast]
  omega

theorem magnitude_float (x : Float) : ∃ y, Arithmetic.magnitude (Number.float x) = .float y := by
  unfold Arithmetic.magnitude
  split
  · exact ⟨-x, rfl⟩
  · exact ⟨x, rfl⟩

theorem Usable.gives_decoded (h : l.Usable) {e : Formula Number} (he : e.Writable) :
    Gives (l.decoded e) Formula.Writable := by
  obtain ⟨lo, hi, hrange, -⟩ := h.ends
  obtain ⟨y, hy⟩ := magnitude_float lo
  unfold decoded
  split
  · exact gives_ok he
  · rw [hrange]
    refine (gives_ok (P := (· = .float (hi - lo))) rfl).bind ?_
    rintro _ rfl
    dsimp only
    split
    · exact gives_ok ⟨he, _, rfl⟩
    · exact gives_ok ⟨⟨he, _, rfl⟩, y, hy⟩

theorem Usable.gives_placed (h : l.Usable) : Gives l.placed Formula.Writable := by
  obtain ⟨lo, hi, hrange, hne⟩ := h.ends
  have hwidth : (hi - lo == 0) = false := Binary64.sub_ne_zero_of_ne (Binary64.beq_comm lo hi ▸ hne)
  have hinverse : Arithmetic.div Arithmetic.one (Number.float (hi - lo)) = .ok (.float (1 / (hi - lo))) := by
    show (if hi - lo == 0 then _ else _) = _
    rw [hwidth]
    rfl
  unfold placed
  split
  · exact gives_ok trivial
  · rw [hrange]
    refine (gives_ok (P := (· = .float (hi - lo))) rfl).bind ?_
    rintro _ rfl
    rw [hinverse, ok_bind]
    refine (gives_ok (P := (· = Number.float (lo * (1 / (hi - lo))))) rfl).bind ?_
    rintro _ rfl
    obtain ⟨y, hy⟩ := magnitude_float (lo * (1 / (hi - lo)))
    dsimp only
    split
    · exact gives_ok ⟨trivial, _, rfl⟩
    · exact gives_ok ⟨⟨trivial, _, rfl⟩, y, hy⟩

theorem writable_shifted {e : Formula Number} (he : e.Writable) : (l.shifted e).Writable := by
  unfold shifted
  split
  · exact he
  · exact ⟨he, trivial⟩

theorem Usable.gives_quantized (h : l.Usable) (hbits : l.IsBitField) :
    Gives l.quantized Formula.Writable := by
  unfold quantized
  rw [hbits.mask_eq]
  split
  · refine h.gives_placed.bind fun place hplace => gives_ok ?_
    exact ⟨hplace, hbits.isWritable_mask⟩
  · exact gives_ok ⟨trivial, hbits.isWritable_mask⟩

/-- A layout with a value type has an expression that reads its value. -/
theorem exists_getter? {e : Option (Formula Number)} (htype : l.valueType?.isSome = true)
    (h : l.getter? = .ok e) : ∃ formula, e = some formula := by
  have hnone : l.valueType?.isNone = false := by simpa using htype
  unfold getter? at h
  rw [hnone, if_neg (by simp)] at h
  split at h
  · obtain ⟨f, -, rfl⟩ := exists_of_map_eq_ok h
    exact ⟨f, rfl⟩
  · dsimp only at h
    split at h
    · obtain ⟨n, -, h⟩ := bind_eq_ok_iff.mp h
      obtain ⟨f, -, rfl⟩ := exists_of_map_eq_ok h
      exact ⟨f, rfl⟩
    · exact ⟨_, (Except.ok.inj h).symm⟩
  · obtain ⟨f, -, rfl⟩ := exists_of_map_eq_ok h
    exact ⟨f, rfl⟩
  · exact ⟨_, (Except.ok.inj h).symm⟩

theorem Usable.gives_getter? (h : l.Usable) :
    Gives l.getter? fun e => ∀ formula, e = some formula → formula.Writable := by
  have hsome : ∀ {x : Except Breakdown (Formula Number)}, Gives x Formula.Writable →
      Gives (some <$> x) fun e => ∀ formula, e = some formula → formula.Writable :=
    fun hx => hx.map fun f hf _ heq => Option.some.inj heq ▸ hf
  unfold getter?
  split
  · exact gives_ok (by simp)
  · split
    · exact hsome (h.gives_decoded ⟨trivial, trivial, trivial⟩)
    next hscheme =>
      dsimp only
      split
      · have hbits := h.bits ⟨_, hscheme, rfl⟩
        rw [hbits.mask_eq, ok_bind]
        exact hsome (h.gives_decoded ⟨⟨trivial, trivial, trivial⟩, hbits.isWritable_mask⟩)
      · exact gives_ok fun _ heq => Option.some.inj heq ▸ ⟨trivial, trivial, trivial⟩
    · exact hsome (h.gives_decoded trivial)
    · exact gives_ok fun _ heq => Option.some.inj heq ▸ trivial

theorem Usable.gives_store (h : l.Usable) (htype : l.valueType?.isSome = true) (mode : WriteMode) :
    Gives (l.store mode) fun s => ∃ e, (s = .assign e ∨ s = .orAssign e) ∧ e.Writable := by
  unfold store
  split
  · exact h.gives_placed.bind fun place hplace => gives_ok ⟨_, Or.inl rfl, hplace⟩
  · exact gives_ok ⟨_, Or.inl rfl, trivial⟩
  next hsmall hplain =>
    have hscheme : ∃ s, l.scheme = some s ∧ s.isBitField = true := by
      match hs : l.scheme with
      | some .packedFloat | some .packedUint => exact ⟨_, rfl, rfl⟩
      | some .smallFloats => exact absurd hs hsmall
      | some .noPacking => exact absurd hs hplain
      | none => simp [valueType?, hs] at htype
    have hbits := h.bits hscheme
    refine (h.gives_quantized hbits).bind fun code hcode => ?_
    cases mode with
    | fill => exact gives_ok ⟨_, Or.inr rfl, writable_shifted hcode⟩
    | set =>
      dsimp only
      rw [hbits.mask_eq, ok_bind]
      refine gives_ok ⟨_, Or.inl rfl, ?_, writable_shifted hcode, trivial⟩
      exact writable_shifted hbits.isWritable_mask

/-- The layout of a checked request has all that its functions need. -/
theorem usable_of_ofDirective {typeName : Value} {m : Member} {d : Directive} (hm : m.Checked)
    (h : Layout.ofDirective typeName m d = .ok l) : l.Usable where
  field := by
    obtain ⟨scheme, bits, range, -, -, -, -, rfl⟩ := Layout.ofDirective_eq_ok_iff.mp h
    exact hm.name
  label := by
    obtain ⟨scheme, bits, range, -, -, -, -, rfl⟩ := Layout.ofDirective_eq_ok_iff.mp h
    show ((d.names m.name).headD m.name).IsText
    unfold Directive.names
    dsimp only
    split
    · exact hm.name
    next given =>
      cases hnames : d.labels.filter fun label => !label.isEmpty with
      | nil => exact hm.name
      | cons s _ => exact ⟨s, rfl⟩
  ends := by
    obtain ⟨scheme, bits, range, -, -, -, hends, rfl⟩ := Layout.ofDirective_eq_ok_iff.mp h
    exact Directive.exists_of_ends_eq_ok hends
  bits := isBitField_of_ofDirective h

end Layout

/-! ## Functions -/

variable {n : RecordNames} {l : Layout Number} {layouts : List (Layout Number)}

theorem emits_packedGetter (htype : l.valueType?.isSome = true) : Emits (packedGetter n l) l.Usable := by
  unfold packedGetter
  match hgetter : l.getter? with
  | .error b =>
    refine ⟨.error b, rfl, fun h => ?_⟩
    obtain ⟨e, he, -⟩ := h.gives_getter?
    simp [hgetter] at he
  | .ok e =>
    obtain ⟨formula, rfl⟩ := Layout.exists_getter? htype hgetter
    obtain ⟨valueType, hvalue⟩ := Option.isSome_iff_exists.mp htype
    rw [hvalue]
    show Emits (emitted (formula.render (n.stored l) "") >>= _) l.Usable
    refine (Emits.emitted fun h => ?_).bind fun text => Emits.pure _
    obtain ⟨e, he, hwritable⟩ := h.gives_getter?
    obtain rfl := Except.ok.inj (hgetter.symm.trans he)
    exact Formula.gives_render (hwritable formula rfl) _ _

theorem emits_packedSetter (mode : WriteMode) (htype : l.valueType?.isSome = true) :
    Emits (packedSetter mode n l) l.Usable := by
  obtain ⟨valueType, hvalue⟩ := Option.isSome_iff_exists.mp htype
  unfold packedSetter
  rw [hvalue]
  refine (Emits.emitted fun h => h.label.gives_asText).bind fun name => ?_
  refine (Emits.emitted fun h => ?_).bind fun statement => Emits.pure _
  exact (h.gives_store htype mode).bind fun s ⟨e, hs, he⟩ => Store.gives_render hs he _ _

theorem emits_packedGetters (htypes : ∀ l ∈ layouts, l.valueType?.isSome = true) :
    Emits (packedGetters n layouts) (∀ l ∈ layouts, l.Usable) := by
  unfold packedGetters
  split
  · exact Emits.pure ""
  · refine (Emits.mapM fun l hl => ?_).bind fun functions => Emits.pure _
    exact (emits_packedGetter (htypes l hl)).imp fun h => h l hl

theorem emits_packedSetters (mode : WriteMode) (htypes : ∀ l ∈ layouts, l.valueType?.isSome = true) :
    Emits (packedSetters mode n layouts) (∀ l ∈ layouts, l.Usable) := by
  unfold packedSetters
  split
  · exact Emits.pure ""
  · refine (Emits.mapM fun l hl => ?_).bind fun functions => Emits.pure _
    exact (emits_packedSetter mode (htypes l hl)).imp fun h => h l hl

end ShaderRecords
