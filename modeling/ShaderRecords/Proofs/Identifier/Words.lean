/-
ShaderRecords.Proofs.Identifier.Words — the underscores between the words of a name.

A word of a name ends with a small ASCII letter in front of a capital one (`Identifier.wordEnds`, the places of those
small letters). Separating words puts one underscore behind each of these places and none anywhere else
(`separate_eq_insertBehind`). A place is one of the text without underscores, so `insertBehind` goes from the last
place to the first, and `eraseBehind` takes the characters out again from the first to the last.

An underscore is neither a small letter nor a capital. So no word ends in the result (`wordEnds_separate`), and there
is nothing left to separate in it. `separateWords_parts_words` says all of this about names.
-/
import Mathlib.Data.List.Chain
import ShaderRecords.Identifier

namespace ShaderRecords.Identifier

/-! ## Characters behind places -/

/-- A text with a character put behind each of some places, which are given in ascending order. -/
def insertBehind (x : Char) (places : List Nat) (s : List Char) : List Char :=
  places.foldr (fun i r => r.insertIdx (i + 1) x) s

/-- A text without the characters that were put behind some places, which are given in ascending order. -/
def eraseBehind (places : List Nat) (s : List Char) : List Char :=
  places.foldl (fun r i => r.eraseIdx (i + 1)) s

theorem insertBehind_cons (x : Char) (i : Nat) (places : List Nat) (s : List Char) :
    insertBehind x (i :: places) s = (insertBehind x places s).insertIdx (i + 1) x := rfl

theorem eraseBehind_cons (i : Nat) (places : List Nat) (s : List Char) :
    eraseBehind (i :: places) s = eraseBehind places (s.eraseIdx (i + 1)) := rfl

/-- The character in front of a text is in front of it afterwards as well, if its own place is not among those. -/
theorem insertBehind_map_succ (x c : Char) (places : List Nat) (s : List Char) :
    insertBehind x (places.map Nat.succ) (c :: s) = c :: insertBehind x places s := by
  induction places with
  | nil => rfl
  | cons i places ih => rw [List.map_cons, insertBehind_cons, ih, insertBehind_cons, List.insertIdx_succ_cons]

theorem eraseBehind_insertBehind (x : Char) (places : List Nat) (s : List Char) :
    eraseBehind places (insertBehind x places s) = s := by
  induction places with
  | nil => rfl
  | cons i places ih => rw [insertBehind_cons, eraseBehind_cons, List.eraseIdx_insertIdx_self, ih]

theorem length_insertBehind (x : Char) {places : List Nat} {s : List Char} (h : ∀ i ∈ places, i < s.length) :
    (insertBehind x places s).length = s.length + places.length := by
  induction places with
  | nil => rfl
  | cons i places ih =>
    obtain ⟨hi, hplaces⟩ := List.forall_mem_cons.mp h
    have hlength := ih hplaces
    rw [insertBehind_cons, List.length_insertIdx_of_le_length (by omega), hlength, List.length_cons, Nat.add_assoc]

/-! ## The ends of words -/

theorem isSmall_eq : isSmall = Char.isLower := rfl

theorem isCapital_eq : isCapital = Char.isUpper :=
  funext fun _ => (Bool.decide_and _ _).symm

/-- The places in a text where a small ASCII letter stands in front of a capital one, in ascending order. -/
def wordEnds (s : List Char) : List Nat :=
  (List.range s.length).filter fun i => s[i]?.any Char.isLower && s[i + 1]?.any Char.isUpper

theorem lt_length_of_mem_wordEnds {s : List Char} {i : Nat} (h : i ∈ wordEnds s) : i < s.length :=
  List.mem_range.mp (List.mem_filter.mp h).1

/-- A word ends with the first character of a text, or at the places behind it. -/
theorem wordEnds_cons (c : Char) (s : List Char) :
    wordEnds (c :: s)
      = (if c.isLower && s.head?.any Char.isUpper then [0] else []) ++ (wordEnds s).map Nat.succ := by
  have hrest : (fun i => (c :: s)[i]?.any Char.isLower && (c :: s)[i + 1]?.any Char.isUpper) ∘ Nat.succ
      = fun i => s[i]?.any Char.isLower && s[i + 1]?.any Char.isUpper := rfl
  rw [wordEnds, List.length_cons, List.range_succ_eq_map, List.filter_cons, List.filter_map, hrest, ← wordEnds,
    List.head?_eq_getElem?]
  cases hend : c.isLower && s[0]?.any Char.isUpper with
  | true => simp [hend]
  | false => simp [hend]

/-- No word ends in a text exactly if no small letter stands in front of a capital. -/
theorem wordEnds_eq_nil_iff {s : List Char} :
    wordEnds s = [] ↔ s.IsChain fun c d => ¬(c.isLower = true ∧ d.isUpper = true) := by
  induction s with
  | nil => exact iff_of_true rfl .nil
  | cons c s ih =>
    rw [wordEnds_cons, List.append_eq_nil_iff, List.map_eq_nil_iff, ih, List.isChain_cons]
    refine and_congr_left fun _ => ?_
    cases s with
    | nil => simp
    | cons d s => simp

/-! ## Words and underscores -/

theorem separate_cons (c : Char) (s : List Char) :
    separate (c :: s)
      = if c.isLower && s.head?.any Char.isUpper then c :: '_' :: separate s else c :: separate s := by
  rw [← isSmall_eq, ← isCapital_eq]
  cases s with
  | nil =>
    rw [List.head?_nil, Option.any_none, Bool.and_false, if_neg (by simp)]
    rfl
  | cons d s => rfl

/-- Separating words leaves the first character where it is. -/
theorem head?_separate (s : List Char) : (separate s).head? = s.head? := by
  cases s with
  | nil => rfl
  | cons c s =>
    rw [separate_cons]
    split
    · rfl
    · rfl

/-- **One underscore is put behind each end of a word.** -/
theorem separate_eq_insertBehind (s : List Char) : separate s = insertBehind '_' (wordEnds s) s := by
  induction s with
  | nil => rfl
  | cons c s ih =>
    have hbehind : insertBehind '_' ((wordEnds s).map Nat.succ) (c :: s) = c :: separate s := by
      rw [insertBehind_map_succ, ih]
    rw [separate_cons, wordEnds_cons]
    split
    · -- The underscore goes between the first character and all that has been put in behind it.
      rw [List.singleton_append, insertBehind_cons, hbehind]
      rfl
    · rw [List.nil_append, hbehind]

/-- An underscore ends no word and begins none. -/
theorem wordEnds_separate (s : List Char) : wordEnds (separate s) = [] := by
  have hsmall : Char.isLower '_' = false := by decide
  have hcapital : Char.isUpper '_' = false := by decide
  rw [wordEnds_eq_nil_iff]
  induction s with
  | nil => exact .nil
  | cons c s ih =>
    rw [separate_cons]
    split
    · rw [List.isChain_cons_cons, List.isChain_cons]
      exact ⟨by simp [hcapital], by simp [hsmall], ih⟩
    next hnone =>
      rw [List.isChain_cons, head?_separate]
      refine ⟨fun d hd hends => hnone ?_, ih⟩
      rw [hends.1, Option.mem_def.mp hd, Option.any_some, hends.2]
      rfl

theorem separate_separate (s : List Char) : separate (separate s) = separate s := by
  rw [separate_eq_insertBehind (separate s), wordEnds_separate]
  rfl

/-- **Underscores part the words of a name.** In the result no small ASCII letter stands in front of a capital one. It
is the name with one underscore behind every small letter in front of a capital: without these it is the name again,
and it is longer by one character for each of them. A second time nothing changes. -/
theorem separateWords_parts_words (name : String) :
    ((separateWords name).toList.IsChain fun c d => ¬(c.isLower = true ∧ d.isUpper = true))
      ∧ (separateWords name).toList = insertBehind '_' (wordEnds name.toList) name.toList
      ∧ eraseBehind (wordEnds name.toList) (separateWords name).toList = name.toList
      ∧ (separateWords name).length = name.length + (wordEnds name.toList).length
      ∧ separateWords (separateWords name) = separateWords name := by
  have htext : (separateWords name).toList = separate name.toList := String.toList_ofList
  have hinserted := htext.trans (separate_eq_insertBehind name.toList)
  refine ⟨?parted, hinserted, ?erased, ?length, ?again⟩
  case parted =>
    rw [htext]
    exact wordEnds_eq_nil_iff.mp (wordEnds_separate name.toList)
  case erased =>
    rw [hinserted, eraseBehind_insertBehind]
  case length =>
    rw [← String.length_toList, hinserted, length_insertBehind _ fun i hi => lt_length_of_mem_wordEnds hi,
      String.length_toList]
  case again =>
    rw [separateWords, htext, separate_separate]
    rfl

example : separateWords "aBcDéFG" = "a_Bc_DéFG" := by decide

end ShaderRecords.Identifier
