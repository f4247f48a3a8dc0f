/-
ShaderRecords.Proofs.Storage.Essence — requests that count as equal ask for layouts that count as equal.

Requests and layouts are compared by value: a flag counts as the number that it stands for, a zero as a zero
whatever its sign, and what is not a number as itself. So equal requests need not be spelled alike, and neither
need their layouts. The essence of a request or a layout is what is left when the spelling is dropped. Requests
that are found equal have one essence (`Directive.essence_eq_of_same`), and if one of two requests of one essence
gets a layout, so does the other one, and the layouts have one essence (`Layout.exists_of_essence_eq`). What is
told of requests that get no layout does show the spelling.
-/
import ShaderRecords.Proofs.Description.Reading
import ShaderRecords.Proofs.Number.Equality
import ShaderRecords.Proofs.Storage.Resolution

namespace ShaderRecords

open Float.Model (UnpackedFloat)

/-! ## What is compared -/

/-- What a number of a range is compared by. -/
def Number.essence : Number → Int ⊕ UnpackedFloat
  | .int n => .inl n
  | .float x => .inr (Binary64.essence x)

/-- What layouts are compared by: all that they hold, with their numbers by value. -/
def Layout.essence (l : Layout Number) : Layout (Int ⊕ UnpackedFloat) :=
  { l.mapRange Number.essence with offset := .number l.offset.toInt, width := .number l.width.toInt }

/-- What requests are compared by. -/
structure Directive.Essence where
  labels : List String
  /-- The name of the scheme, if it is a text; nothing else names one. -/
  scheme : Option String
  offset : Int
  width : Option Int
  range : Option (List UnpackedFloat)
  isDirection : Bool
  srgb : Bool
  checkNormalized : Bool
  guard : String

namespace Directive

/-- What a request is compared by. -/
def essence (d : Directive) : Essence where
  labels := d.labels
  scheme := d.scheme.text?
  offset := d.offset.toInt
  width := d.width.map Whole.toInt
  range := d.range.map (·.map Binary64.essence)
  isDirection := d.isDirection
  srgb := d.srgb
  checkNormalized := d.checkNormalized
  guard := d.guard

end Directive

theorem Value.text?_eq_of_same {v w : Value} (h : v.same w = true) : v.text? = w.text? := by
  cases v <;> cases w <;> simp [Value.same, Value.text?, Value.number?] at h ⊢
  exact h

namespace Directive

variable {a b : Directive} {site : Site} {scheme : Scheme} {bits : Whole × Whole} {range : Number × Number}

/-- Ends of ranges that count as equal are compared by the same numbers. -/
theorem map_essence_of_sameEnds {x y : Option (List Float)} (h : same.sameEnds x y = true) :
    x.map (·.map Binary64.essence) = y.map (·.map Binary64.essence) := by
  cases x with
  | none => cases y with
    | none => rfl
    | some ys => simp [same.sameEnds] at h
  | some xs => cases y with
    | none => simp [same.sameEnds] at h
    | some ys =>
      obtain ⟨hlength, hall⟩ := Bool.and_eq_true_iff.mp h
      have hends : List.Forall₂ (fun p q => Binary64.essence p = Binary64.essence q) xs ys := by
        refine List.forall₂_iff_zip.mpr ⟨eq_of_beq hlength, fun {p q} hmem => ?_⟩
        exact (Binary64.beq_or_isNaN_iff p q).mp (List.all_eq_true.mp hall (p, q) hmem)
      exact congrArg some (map_eq_map_of_forall₂ hends)

/-- Requests that are found equal have one essence. -/
theorem essence_eq_of_same (h : a.same b = true) : a.essence = b.essence := by
  unfold same at h
  obtain ⟨h, hguard⟩ := Bool.and_eq_true_iff.mp h
  obtain ⟨h, hnormalized⟩ := Bool.and_eq_true_iff.mp h
  obtain ⟨h, hsrgb⟩ := Bool.and_eq_true_iff.mp h
  obtain ⟨h, hdirection⟩ := Bool.and_eq_true_iff.mp h
  obtain ⟨h, hrange⟩ := Bool.and_eq_true_iff.mp h
  obtain ⟨h, hwidth⟩ := Bool.and_eq_true_iff.mp h
  obtain ⟨h, hoffset⟩ := Bool.and_eq_true_iff.mp h
  obtain ⟨h, hscheme⟩ := Bool.and_eq_true_iff.mp h
  obtain ⟨-, hlabels⟩ := Bool.and_eq_true_iff.mp h
  rw [essence, essence, eq_of_beq hlabels, Value.text?_eq_of_same hscheme, eq_of_beq hoffset, eq_of_beq hwidth,
    map_essence_of_sameEnds hrange, eq_of_beq hdirection, eq_of_beq hsrgb, eq_of_beq hnormalized, eq_of_beq hguard]

/-! ## From requests to layouts -/

/-- Only a text asks for a scheme. -/
theorem exists_text_of_ofValue? {v : Value} (h : Scheme.ofValue? v = .ok (some scheme)) :
    ∃ s, v = .text s := by
  unfold Scheme.ofValue? at h
  split at h
  · obtain ⟨s, hs, -⟩ := bind_eq_ok_iff.mp h
    exact ⟨s, Value.eq_text_of_textParts hs⟩
  · simp at h

/-- Requests of one essence ask for the same scheme. -/
theorem ofValue?_of_essence_eq (h : a.essence = b.essence)
    (hscheme : Scheme.ofValue? a.scheme = .ok (some scheme)) :
    Scheme.ofValue? b.scheme = .ok (some scheme) := by
  obtain ⟨s, hs⟩ := exists_text_of_ofValue? hscheme
  have htext : a.scheme.text? = b.scheme.text? := congrArg Essence.scheme h
  rw [hs] at htext
  rw [Value.eq_text_of_text? htext.symm, ← hs, hscheme]

/-- Requests of one essence take the same bits. -/
theorem exists_bits_of_essence_eq (h : a.essence = b.essence) (hbits : a.bits site scheme = .ok bits) :
    ∃ bits', b.bits site scheme = .ok bits' ∧ bits.1.toInt = bits'.1.toInt ∧ bits.2.toInt = bits'.2.toInt := by
  have hoffset : a.offset.toInt = b.offset.toInt := congrArg Essence.offset h
  have hwidth : (a.width.getD 0).toInt = (b.width.getD 0).toInt := by
    have hmap : ∀ w : Option Whole, (w.getD 0).toInt = (w.map Whole.toInt).getD 0 := fun w => by cases w <;> rfl
    rw [hmap, hmap]
    exact congrArg (Option.getD · 0) (congrArg Essence.width h)
  cases hscheme : scheme.isBitField with
  | true =>
    obtain ⟨hrange, hplace, rfl⟩ := (bits_eq_ok_iff hscheme).mp hbits
    rw [hwidth] at hrange hplace
    rw [hoffset] at hplace
    exact ⟨_, (bits_eq_ok_iff hscheme).mpr ⟨hrange, hplace, rfl⟩, hoffset, hwidth⟩
  | false =>
    have hword : ∀ d : Directive,
        d.bits site scheme = .ok (0, if scheme = .noPacking then 0 else .number wordBits) := fun d => by
      rw [Directive.bits, hscheme, if_neg (by simp)]
    rw [hword] at hbits
    obtain rfl := Except.ok.inj hbits
    exact ⟨_, hword b, rfl, rfl⟩

/-- Requests of one essence have the same ends. -/
theorem exists_ends_of_essence_eq (h : a.essence = b.essence) (hends : a.ends site = .ok range) :
    ∃ range', b.ends site = .ok range' ∧ range.1.essence = range'.1.essence
      ∧ range.2.essence = range'.2.essence := by
  have hdefault : ∀ r : Option (List Float), (r.getD [0, 1]).map Binary64.essence
      = (r.map (·.map Binary64.essence)).getD ([0, 1].map Binary64.essence) := fun r => by cases r <;> rfl
  have hgiven : (a.range.getD [0, 1]).map Binary64.essence = (b.range.getD [0, 1]).map Binary64.essence := by
    rw [hdefault, hdefault]
    exact congrArg (Option.getD · _) (congrArg Essence.range h)
  obtain ⟨lo, hi, hpair, hne, rfl⟩ := ends_eq_ok_iff.mp hends
  rw [hpair] at hgiven
  obtain ⟨lo', hi', hpair', hlo, hhi⟩ : ∃ lo' hi', b.range.getD [0, 1] = [lo', hi']
      ∧ Binary64.essence lo = Binary64.essence lo' ∧ Binary64.essence hi = Binary64.essence hi' := by
    match hb : b.range.getD [0, 1] with
    | [lo', hi'] =>
      rw [hb] at hgiven
      simp only [List.map_cons, List.cons.injEq] at hgiven
      exact ⟨lo', hi', rfl, hgiven.1, hgiven.2.1⟩
    | [] | [_] | _ :: _ :: _ :: _ => simp [hb] at hgiven
  refine ⟨_, ends_eq_ok_iff.mpr ⟨lo', hi', hpair', ?_, rfl⟩, congrArg Sum.inr hlo, congrArg Sum.inr hhi⟩
  rwa [← Bool.not_eq_true, Binary64.beq_iff, ← hlo, ← hhi, ← Binary64.beq_iff, Bool.not_eq_true]

end Directive

/-- If one of two requests of one essence gets a layout, the other one gets a layout of the same essence. -/
theorem Layout.exists_of_essence_eq {a b : Directive} (h : a.essence = b.essence) {typeName : Value} {m : Member}
    {l : Layout Number} (hl : Layout.ofDirective typeName m a = .ok l) :
    ∃ l', Layout.ofDirective typeName m b = .ok l' ∧ l.essence = l'.essence := by
  obtain ⟨scheme, bits, range, hscheme, hbits, htype, hends, rfl⟩ := Layout.ofDirective_eq_ok_iff.mp hl
  obtain ⟨bits', hbits', hoffset, hwidth⟩ := Directive.exists_bits_of_essence_eq h hbits
  obtain ⟨range', hends', hlow, hhigh⟩ := Directive.exists_ends_of_essence_eq h hends
  refine ⟨_, Layout.ofDirective_eq_ok_iff.mpr ⟨scheme, bits', range', Directive.ofValue?_of_essence_eq h hscheme,
    hbits', htype, hends', rfl⟩, ?_⟩
  obtain ⟨hlabels, -, -, -, hrange, hdirection, hsrgb, hnormalized, hguard⟩ := Directive.Essence.mk.inj h
  have hgiven : a.range.isSome = b.range.isSome := by simpa using congrArg Option.isSome hrange
  simp [Layout.essence, Layout.mapRange, Directive.layout, Directive.names, hlabels, hoffset, hwidth, hlow, hhigh,
    hgiven, hdirection, hsrgb, hnormalized, hguard]

end ShaderRecords
