/-
ShaderRecords.Proofs.Text.LowerCase — a text in lower case stays as it is in lower case.

Lower case replaces characters by those that the runs of a table send them to. No image of a run is a code point of
any run (`CaseRun.avoids`, checked for each two runs of the table by their ends and steps), so images are characters
that lower case leaves alone (`lowerImage_of_mem`). The one character that is treated by its surroundings, the
capital sigma, is no image, so that nothing is left to do for a second time (`lower_lower`).
-/
import ShaderRecords.Proofs.Identifier.Validity

namespace ShaderRecords.Text

/-! ## Runs -/

/-- What a run sends one of its code points to. -/
def CaseRun.imageOf (r : CaseRun) (code : Nat) : Nat :=
  ((code : Int) + r.shift).toNat

/-- Whether no image of a run is a code point of another one: the images lie outside of its ends, or between the
code points that it takes. -/
def CaseRun.avoids (r s : CaseRun) : Bool :=
  Nat.blt (r.imageOf r.last) s.first || Nat.blt s.last (r.imageOf r.first)
    || (Nat.beq s.step 2 && (Nat.beq r.step 2 || Nat.beq r.first r.last)
      && Nat.blt 0 (r.imageOf r.first) && Nat.beq ((r.imageOf r.first + s.first) % 2) 1)

theorem CaseRun.image?_eq_some_iff {r : CaseRun} {code image : Nat} :
    r.image? code = some image
      ↔ (r.first ≤ code ∧ code ≤ r.last ∧ (code - r.first) % r.step = 0) ∧ r.imageOf code = image := by
  rw [CaseRun.image?, Option.ite_none_right_eq_some, Option.some.injEq, imageOf]

theorem CaseRun.image?_eq_none_of_avoids {r s : CaseRun} (h : r.avoids s = true) {code image : Nat}
    (himage : r.image? code = some image) : s.image? image = none := by
  obtain ⟨⟨hfirst, hlast, hstep⟩, rfl⟩ := image?_eq_some_iff.mp himage
  refine if_neg ?_
  rintro ⟨hfirst', hlast', hstep'⟩
  simp only [avoids, Bool.or_eq_true, Bool.and_eq_true, Nat.blt_eq, Nat.beq_eq] at h
  unfold imageOf at h hfirst' hlast' hstep'
  rcases h with (hbelow | habove) | ⟨⟨⟨htwo, hsteps⟩, hpos⟩, hodd⟩
  · omega
  · omega
  · rw [htwo] at hstep'
    rcases hsteps with hsteps | hsingle
    · rw [hsteps] at hstep
      omega
    · omega

/-- The images of the table are no code points of its runs, and neither is the character that has an image of
two characters among them. -/
theorem lowerRuns_avoid {r : CaseRun} (hr : r ∈ lowerRuns) :
    (∀ s ∈ lowerRuns, r.avoids s = true) ∧ r.avoids ⟨0x130, 0x130, 1, 0⟩ = true := by
  have hall : lowerRuns.toList.all (fun r => lowerRuns.toList.all (fun s => r.avoids s)
      && r.avoids ⟨0x130, 0x130, 1, 0⟩) = true := by
    decide +kernel
  have hone := List.all_eq_true.mp hall r (Array.mem_toList_iff.mpr hr)
  rw [Bool.and_eq_true, List.all_eq_true] at hone
  exact ⟨fun s hs => hone.1 s (Array.mem_toList_iff.mpr hs), hone.2⟩

/-! ## Characters -/

/-- The capital letters of ASCII are a run of the table. -/
theorem capitals_mem_lowerRuns : (⟨0x41, 0x5A, 1, 32⟩ : CaseRun) ∈ lowerRuns :=
  Array.mem_toList_iff.mp List.mem_cons_self

theorem image?_capitals {c : Char} (h : 'A' ≤ c ∧ c ≤ 'Z') :
    (⟨0x41, 0x5A, 1, 32⟩ : CaseRun).image? c.toNat = some (c.toNat + 32) := by
  obtain ⟨hfirst, hlast⟩ : 0x41 ≤ c.toNat ∧ c.toNat ≤ 0x5A := h
  refine CaseRun.image?_eq_some_iff.mpr ⟨⟨hfirst, hlast, Nat.mod_one _⟩, ?_⟩
  simp only [CaseRun.imageOf]
  omega

/-- A character that the table says nothing of stays as it is. -/
theorem lowerImage_eq_self {c : Char} (hruns : ∀ s ∈ lowerRuns, s.image? c.toNat = none)
    (hsingle : c.toNat ≠ 0x130) : lowerImage c = [c] := by
  have hcapital : ¬('A' ≤ c ∧ c ≤ 'Z') := by
    intro h
    have hnone := hruns _ capitals_mem_lowerRuns
    rw [image?_capitals h] at hnone
    cases hnone
  have hexpansion : lowerExpansions.find? (·.1 == c.toNat) = none := by
    refine Array.find?_eq_none.mpr fun e he => ?_
    obtain rfl : e = (0x130, [0x69, 0x307]) := by simpa [lowerExpansions] using he
    simpa using hsingle.symm
  have hrun : lowerRuns.findSome? (·.image? c.toNat) = none := Array.findSome?_eq_none_iff.mpr hruns
  rw [lowerImage, if_neg hcapital]
  split
  · rfl
  · rw [caseImage, hexpansion, hrun]

/-- What a run of the table sends a code point to is in lower case. -/
theorem lowerImage_ofNat_image {r : CaseRun} (hr : r ∈ lowerRuns) {code image : Nat}
    (himage : r.image? code = some image) : lowerImage (Char.ofNat image) = [Char.ofNat image] := by
  obtain ⟨hruns, hexpanded⟩ := lowerRuns_avoid hr
  by_cases hvalid : image.isValidChar
  · have hcode : (Char.ofNat image).toNat = image := by
      rw [Char.ofNat, dif_pos hvalid]
      rfl
    refine lowerImage_eq_self (fun s hs => ?_) fun h => ?_
    · rw [hcode]
      exact CaseRun.image?_eq_none_of_avoids (hruns s hs) himage
    · have hnone := CaseRun.image?_eq_none_of_avoids hexpanded himage
      rw [← hcode, h] at hnone
      cases hnone
  · rw [Char.ofNat, dif_neg hvalid]
    rfl

/-- The combining dot and the sigma at the end of a word, which no run leads to, are in lower case as well. -/
theorem lowerImage_eq_self_of_code {c : Char} (h : c.toNat = 0x307 ∨ c.toNat = 0x3C2) : lowerImage c = [c] := by
  have hall : lowerRuns.toList.all (fun s => (s.image? 0x307).isNone && (s.image? 0x3C2).isNone) = true := by
    decide
  refine lowerImage_eq_self (fun s hs => ?_) (by omega)
  have hnone := List.all_eq_true.mp hall s (Array.mem_toList_iff.mpr hs)
  rw [Bool.and_eq_true, Option.isNone_iff_eq_none, Option.isNone_iff_eq_none] at hnone
  rcases h with h | h
  · rw [h, hnone.1]
  · rw [h, hnone.2]

set_option maxRecDepth 2048 in
theorem lowerImage_capitalSigma : lowerImage 'Σ' = ['σ'] := by
  decide

/-- The characters that another one becomes are in lower case. -/
theorem lowerImage_of_mem {c d : Char} (h : d ∈ lowerImage c) : lowerImage d = [d] := by
  unfold lowerImage at h
  split at h
  next hcapital =>
    obtain rfl := List.mem_singleton.mp h
    exact lowerImage_ofNat_image capitals_mem_lowerRuns (image?_capitals hcapital)
  next hcapital =>
    split at h
    next hascii =>
      obtain rfl := List.mem_singleton.mp h
      rw [lowerImage, if_neg hcapital, if_pos hascii]
    next hascii =>
      unfold caseImage at h
      split at h
      next _ image hfound =>
        have hmem := Array.mem_of_find?_eq_some hfound
        obtain ⟨-, rfl⟩ : _ ∧ image = [0x69, 0x307] := by simpa [lowerExpansions] using hmem
        obtain rfl | rfl : d = 'i' ∨ d = Char.ofNat 0x307 := by simpa using h
        · rfl
        · exact lowerImage_eq_self_of_code (.inl rfl)
      next hnone =>
        split at h
        next code hfound =>
          obtain rfl := List.mem_singleton.mp h
          obtain ⟨r, hr, himage⟩ := Array.exists_of_findSome?_eq_some hfound
          exact lowerImage_ofNat_image hr himage
        next hrun =>
          obtain rfl := List.mem_singleton.mp h
          rw [lowerImage, if_neg hcapital, if_neg hascii, caseImage, hnone, hrun]

/-! ## Texts -/

/-- Lower case makes characters of a text that are in lower case, with no capital sigma among them. -/
theorem lowerImage_of_mem_lowerFrom {d : Char} {before s : List Char} (h : d ∈ lowerFrom before s) :
    lowerImage d = [d] ∧ d ≠ 'Σ' := by
  have hsigma : ∀ {d : Char}, lowerImage d = [d] → d ≠ 'Σ' := by
    rintro d hd rfl
    rw [lowerImage_capitalSigma] at hd
    exact absurd hd (by decide)
  induction s generalizing before with
  | nil => cases h
  | cons c s ih =>
    rw [lowerFrom, List.mem_append] at h
    rcases h with h | h
    · have himage : lowerImage d = [d] := by
        split at h
        · split at h
          · obtain rfl := List.mem_singleton.mp h
            exact lowerImage_eq_self_of_code (.inr rfl)
          · exact lowerImage_of_mem (lowerImage_capitalSigma ▸ h)
        · exact lowerImage_of_mem h
      exact ⟨himage, hsigma himage⟩
    · exact ih h

theorem lower_lower (s : String) : lower (lower s) = lower s := by
  have hmem : ∀ d ∈ (lower s).toList, lowerImage d = [d] ∧ d ≠ 'Σ' := by
    intro d hd
    rw [lower, String.toList_ofList] at hd
    exact lowerImage_of_mem_lowerFrom hd
  have hfixed : (lower s).toList.flatMap lowerImage = (lower s).toList := by
    rw [List.flatMap_congr fun d hd => (hmem d hd).1, List.flatMap_singleton']
  rw [lower, Identifier.lowerFrom_eq_flatMap fun h => (hmem _ h).2 rfl, hfixed, String.ofList_toList]

end ShaderRecords.Text
