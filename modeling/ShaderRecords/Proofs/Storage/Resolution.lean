/-
ShaderRecords.Proofs.Storage.Resolution — when a request for storage gets a layout, and which.

A request passes four checks, one after another: its scheme is known, it takes bits of the word, the type of
the member suits the scheme, and the ends of its range differ. `Layout.ofDirective_eq_ok_iff` says that it
gets a layout exactly when all of them pass, and that the layout is the one made of what the checks give
(`Directive.layout`).
-/
import ShaderRecords.Proofs.Failure
import ShaderRecords.Storage.Resolution

namespace ShaderRecords

namespace Directive

variable {d : Directive} {site : Site} {scheme : Scheme} {bits : Whole × Whole}

/-- The layout of a request, with the bits and the range that the checks give. -/
def layout (d : Directive) (m : Member) (scheme : Scheme) (bits : Whole × Whole)
    (range : Number × Number) : Layout Number where
  field := m.name
  fieldType := m.type
  scheme := some scheme
  offset := bits.1
  width := bits.2
  range := range
  labels := d.names m.name
  isDirection := d.isDirection
  srgb := d.srgb
  checkNormalized := d.checkNormalized
  normalized := d.range.isSome || scheme ≠ .packedUint
  guard := d.guard

/-- A scheme for bits gets the bits that are asked for, if they are bits of the word. -/
theorem bits_eq_ok_iff (hscheme : scheme.isBitField = true) :
    d.bits site scheme = .ok bits
      ↔ (1 ≤ (d.width.getD 0).toInt ∧ (d.width.getD 0).toInt ≤ wordBits)
        ∧ (0 ≤ d.offset.toInt ∧ d.offset.toInt + (d.width.getD 0).toInt ≤ wordBits)
        ∧ bits = (d.offset, d.width.getD 0) := by
  unfold Directive.bits
  rw [if_pos hscheme]
  dsimp only
  by_cases hwidth : 1 ≤ (d.width.getD 0).toInt ∧ (d.width.getD 0).toInt ≤ wordBits
  · rw [if_neg (not_not_intro hwidth)]
    by_cases hplace : d.offset.toInt < 0 ∨ d.offset.toInt + (d.width.getD 0).toInt > wordBits
    · rw [if_pos hplace, bind_eq_ok_iff]
      constructor
      · rintro ⟨-, -, h⟩
        simp at h
      · rintro ⟨-, hinside, -⟩
        omega
    · rw [if_neg hplace, Except.ok.injEq]
      constructor
      · intro h
        exact ⟨hwidth, by omega, h.symm⟩
      · rintro ⟨-, -, h⟩
        exact h.symm
  · rw [if_pos hwidth]
    constructor
    · intro h
      simp at h
    · rintro ⟨h, -⟩
      exact absurd h hwidth

/-- A request gets the two ends that it asks for, zero and one if it asks for none, if they differ. -/
theorem ends_eq_ok_iff {range : Number × Number} :
    d.ends site = .ok range
      ↔ ∃ lo hi, d.range.getD [0, 1] = [lo, hi] ∧ (lo == hi) = false ∧ range = (.float lo, .float hi) := by
  unfold Directive.ends
  constructor
  · intro h
    split at h
    next lo hi hgiven =>
      split at h
      · simp at h
      next hne => exact ⟨lo, hi, hgiven, by simpa using hne, (Except.ok.inj h).symm⟩
    next => simp at h
  · rintro ⟨lo, hi, hgiven, hne, rfl⟩
    simp [hgiven, hne]

/-- The ends that a request gets are floating-point numbers, and they differ. -/
theorem exists_of_ends_eq_ok {range : Number × Number} (h : d.ends site = .ok range) :
    ∃ lo hi, range = (.float lo, .float hi) ∧ (lo == hi) = false := by
  obtain ⟨lo, hi, -, hne, hrange⟩ := ends_eq_ok_iff.mp h
  exact ⟨lo, hi, hrange, hne⟩

theorem names_ne_nil (d : Directive) (member : Value) : d.names member ≠ [] := by
  unfold Directive.names
  dsimp only
  split
  · simp
  next hgiven => simpa using hgiven

theorem isPresent_of_mem_names {member : Value} (hmember : member.isPresent = true) :
    ∀ label ∈ d.names member, label.isPresent = true := by
  unfold Directive.names
  dsimp only
  split
  · simpa using hmember
  next hgiven =>
    intro label hlabel
    obtain ⟨s, hs, rfl⟩ := List.mem_map.mp hlabel
    simpa [Value.isPresent] using (List.mem_filter.mp hs).2

end Directive

/-- A request gets a layout exactly when it passes all checks. -/
theorem Layout.ofDirective_eq_ok_iff {typeName : Value} {m : Member} {d : Directive}
    {l : Layout Number} :
    Layout.ofDirective typeName m d = .ok l
      ↔ ∃ scheme bits range, Scheme.ofValue? d.scheme = .ok (some scheme)
        ∧ d.bits ⟨typeName, m.name⟩ scheme = .ok bits
        ∧ checkStorageType ⟨typeName, m.name⟩ scheme m.type = .ok ()
        ∧ d.ends ⟨typeName, m.name⟩ = .ok range
        ∧ l = d.layout m scheme bits range := by
  unfold Layout.ofDirective
  constructor
  · intro h
    obtain ⟨scheme?, hscheme, h⟩ := bind_eq_ok_iff.mp h
    cases scheme? with
    | none => simp at h
    | some scheme =>
      obtain ⟨bits, hbits, h⟩ := bind_eq_ok_iff.mp h
      obtain ⟨_, htype, h⟩ := bind_eq_ok_iff.mp h
      obtain ⟨range, hends, h⟩ := bind_eq_ok_iff.mp h
      exact ⟨scheme, bits, range, orBreak_eq_ok_iff.mp hscheme, hbits, htype, hends,
        (Except.ok.inj h).symm⟩
  · rintro ⟨scheme, bits, range, hscheme, hbits, htype, hends, rfl⟩
    rw [hscheme]
    show (d.bits ⟨typeName, m.name⟩ scheme >>= _) = _
    rw [hbits, ok_bind, htype, hends]
    rfl

end ShaderRecords
