/-
ShaderRecords.Proofs.Identifier.Validity — which names are identifiers of the shader language.

An identifier begins with an ASCII letter or an underscore and goes on with ASCII letters, digits and underscores
(`Identifier.IsValid`). A label may have blanks as well (`Identifier.IsLabel`), and blanks are all that keeps it
from being an identifier (`IsLabel.isValid_iff`), also behind an identifier (`IsLabel.isValid_append_iff`).

Two changes make names of other names. Lower case keeps identifiers (`IsValid.lower`). The define of a debug entry
is an identifier exactly if every character of the label is a blank or has characters of identifiers in upper case
(`isValid_ofDebugEntry_iff`), as those of labels are.
-/
import Mathlib.Data.List.TakeWhile
import ShaderRecords.Proofs.Identifier.Casing

namespace ShaderRecords

namespace Text

/-- Spans as a list, which is evaluated where an array is not. -/
theorem inSpans_eq (spans : Array Span) (code : Nat) :
    inSpans spans code = spans.toList.any fun s => s.first ≤ code && code ≤ s.last :=
  Array.any_toList.symm

theorem isBlank_eq : isBlank = fun c => blankSpans.toList.any fun s => s.first ≤ c.toNat && c.toNat ≤ s.last := by
  funext c
  rw [isBlank, inSpans_eq]

end Text

namespace Identifier

/-- The characters of identifiers, one by one: a list is evaluated faster than a text is taken apart. -/
def wordCharacters : List Char :=
  ['_', 'a', 'b', 'c', 'd', 'e', 'f', 'g', 'h', 'i', 'j', 'k', 'l',
    'm', 'n', 'o', 'p', 'q', 'r', 's', 't', 'u', 'v', 'w', 'x', 'y', 'z',
    'A', 'B', 'C', 'D', 'E', 'F', 'G', 'H', 'I', 'J', 'K', 'L', 'M',
    'N', 'O', 'P', 'Q', 'R', 'S', 'T', 'U', 'V', 'W', 'X', 'Y', 'Z',
    '0', '1', '2', '3', '4', '5', '6', '7', '8', '9']

/-- Whether a name is not empty, does not begin with a digit, and consists of given characters and of those of
identifiers. -/
structure IsMadeOf (others : List Char) (name : String) : Prop where
  first : ∃ c ∈ name.toList.head?, c ∈ wordCharacters ∧ c.isDigit = false
  characters : ∀ c ∈ name.toList, c ∈ others ++ wordCharacters

-- There is an instance for properties of all characters as well, and that one goes through all of Unicode.
theorem isMadeOf_iff_all {others : List Char} {name : String} :
    IsMadeOf others name
      ↔ name.toList.head?.any (fun c => c ∈ wordCharacters && !c.isDigit) = true
        ∧ name.toList.all (· ∈ others ++ wordCharacters) = true := by
  simp only [Option.any_eq_true, Bool.and_eq_true, Bool.not_eq_true', List.all_eq_true, decide_eq_true_eq]
  exact ⟨fun h => ⟨h.first, h.characters⟩, fun h => ⟨h.1, h.2⟩⟩

instance (others : List Char) (name : String) : Decidable (IsMadeOf others name) :=
  decidable_of_iff' _ isMadeOf_iff_all

/-- Whether a name is an identifier. -/
abbrev IsValid (name : String) : Prop :=
  IsMadeOf [] name

/-- Whether a name is an identifier but for blanks in it. -/
abbrev IsLabel (name : String) : Prop :=
  IsMadeOf [' '] name

/-- Whether a name consists of identifiers and of the signs that stand between the names of nested types. -/
def IsQualified (name : String) : Prop :=
  ∀ c ∈ name.toList, c ∈ ['.', '+'] ++ wordCharacters

instance (name : String) : Decidable (IsQualified name) :=
  decidable_of_iff (name.toList.all (· ∈ ['.', '+'] ++ wordCharacters) = true)
    (by simp only [IsQualified, List.all_eq_true, decide_eq_true_eq])

/-- Whether a character is one of identifiers in upper case, or several of them. -/
def HasWordImage (c : Char) : Prop :=
  ∀ d ∈ Text.upperImage c, d ∈ wordCharacters

/-- Whether the characters of a label have a place in a define: they are blanks, or characters of identifiers in
upper case. -/
def IsDefinable (label : String) : Prop :=
  ∀ c ∈ label.toList, c = ' ' ∨ HasWordImage c

/-! ## Names put together -/

theorem IsLabel.isValid_iff {label : String} (h : IsLabel label) : IsValid label ↔ ' ' ∉ label.toList := by
  constructor
  · intro hvalid hblank
    exact absurd (hvalid.characters ' ' hblank) (by decide)
  · intro hblank
    refine ⟨h.first, fun c hc => ?_⟩
    rcases List.mem_cons.mp (h.characters c hc) with rfl | hword
    · exact absurd hc hblank
    · exact hword

theorem IsValid.isLabel {name : String} (h : IsValid name) : IsLabel name :=
  ⟨h.first, fun c hc => List.mem_append_right _ (h.characters c hc)⟩

/-- What follows an identifier may begin with a digit. -/
theorem IsMadeOf.append {others : List Char} {front name : String} (hfront : IsMadeOf others front)
    (hname : ∀ c ∈ name.toList, c ∈ others ++ wordCharacters) : IsMadeOf others (front ++ name) := by
  obtain ⟨⟨c, hc, hfirst⟩, hcharacters⟩ := hfront
  refine ⟨⟨c, ?_, hfirst⟩, fun d hd => ?_⟩
  · rw [String.toList_append]
    exact List.mem_head?_append_of_mem_head? hc
  · rw [String.toList_append, List.mem_append] at hd
    exact hd.elim (hcharacters d) (hname d)

/-- Blanks are all that can keep a label behind an identifier from giving an identifier. -/
theorem IsLabel.isValid_append_iff {front label : String} (hfront : IsValid front) (h : IsLabel label) :
    IsValid (front ++ label) ↔ ' ' ∉ label.toList := by
  have hjoined : IsLabel (front ++ label) := IsMadeOf.append hfront.isLabel h.characters
  have hnone : ' ' ∉ front.toList := hfront.isLabel.isValid_iff.mp hfront
  rw [hjoined.isValid_iff, String.toList_append, List.mem_append, not_or, and_iff_right hnone]

/-! ## Lower case -/

/-- The surroundings of a character matter for a capital sigma only. -/
theorem lowerFrom_eq_flatMap {s : List Char} (h : 'Σ' ∉ s) (before : List Char) :
    Text.lowerFrom before s = s.flatMap Text.lowerImage := by
  induction s generalizing before with
  | nil => rfl
  | cons c s ih =>
    rw [List.mem_cons, not_or] at h
    rw [Text.lowerFrom, if_neg (Ne.symm h.1), ih h.2, List.flatMap_cons]

/-- Lower case keeps the characters of identifiers, and makes digits of digits only. -/
theorem exists_lowerImage_eq {c : Char} (hc : c ∈ wordCharacters) :
    ∃ d, Text.lowerImage c = [d] ∧ d ∈ wordCharacters ∧ d.isDigit = c.isDigit := by
  have hall : wordCharacters.all (fun c => (Text.lowerImage c).length = 1
      ∧ (Text.lowerImage c).all fun d => d ∈ wordCharacters ∧ d.isDigit = c.isDigit) = true := by
    decide
  obtain ⟨hone, himage⟩ := of_decide_eq_true (List.all_eq_true.mp hall c hc)
  obtain ⟨d, hd⟩ := List.length_eq_one_iff.mp hone
  have hmem : d ∈ Text.lowerImage c := by
    rw [hd]
    exact List.mem_singleton_self d
  exact ⟨d, hd, of_decide_eq_true (List.all_eq_true.mp himage d hmem)⟩

theorem IsValid.lower {name : String} (h : IsValid name) : IsValid (Text.lower name) := by
  have hsigma : 'Σ' ∉ name.toList := fun hmem => absurd (h.characters _ hmem) (by decide)
  have htext : (Text.lower name).toList = name.toList.flatMap Text.lowerImage := by
    rw [Text.lower, String.toList_ofList, lowerFrom_eq_flatMap hsigma]
  obtain ⟨⟨c, hc, hword, hdigit⟩, hcharacters⟩ := h
  obtain ⟨rest, hrest⟩ := List.head?_eq_some_iff.mp hc
  constructor
  · obtain ⟨d, himage, hd, hsame⟩ := exists_lowerImage_eq hword
    refine ⟨d, ?_, hd, hsame.trans hdigit⟩
    rw [htext, hrest, List.flatMap_cons, himage]
    rfl
  · intro d hd
    obtain ⟨e, he, hd⟩ := List.mem_flatMap.mp (htext ▸ hd)
    obtain ⟨d', himage, hd', -⟩ := exists_lowerImage_eq (hcharacters e he)
    rw [himage, List.mem_singleton] at hd
    exact hd ▸ hd'

/-! ## Defines -/

theorem hasWordImage_of_mem {c : Char} (hc : c ∈ wordCharacters) : HasWordImage c := by
  have hall : wordCharacters.all (fun c => (Text.upperImage c).all (· ∈ wordCharacters)) = true := by
    decide
  have himage := List.all_eq_true.mp (List.all_eq_true.mp hall c hc)
  exact fun d hd => of_decide_eq_true (himage d hd)

/-- A text has characters of identifiers in upper case if each of its characters has. -/
theorem forall_mem_upper_iff {name : String} :
    (∀ d ∈ (Text.upper name).toList, d ∈ wordCharacters) ↔ ∀ c ∈ name.toList, HasWordImage c := by
  simp only [HasWordImage, Text.upper, String.toList_ofList, List.mem_flatMap, forall_exists_index, and_imp]
  exact ⟨fun h c hc d hd => h d c hc hd, fun h d c hc hd => h c hc d hd⟩

/-- Underscores are all that is put between words. -/
theorem mem_separate_iff {c : Char} (hc : c ≠ '_') (s : List Char) : c ∈ separate s ↔ c ∈ s := by
  fun_induction separate s with
  | case1 d e rest _ ih | case2 d e rest _ ih => simp [ih, hc]
  | case3 s => rfl

/-- The own name of a type is made of the characters of identifiers. -/
theorem forall_mem_unqualified {full : String} (h : IsQualified full) :
    ∀ c ∈ (unqualified full).toList, c ∈ wordCharacters := by
  intro c hc
  rw [unqualified, String.toList_ofList] at hc
  obtain ⟨d, hd, rfl⟩ := List.mem_map.mp hc
  have hlast := List.mem_reverse.mp hd
  have hpoint : d ≠ '.' := by simpa using List.mem_takeWhile_imp hlast
  have hmem := h d (List.mem_reverse.mp ((List.takeWhile_sublist _).mem hlast))
  split
  · decide
  next hplus => simpa [hpoint, hplus] using hmem

theorem hasWordImage_underscore : HasWordImage '_' :=
  hasWordImage_of_mem (by decide)

theorem forall_mem_separate_iff {s : List Char} :
    (∀ c ∈ separate s, HasWordImage c) ↔ ∀ c ∈ s, HasWordImage c := by
  refine forall_congr' fun c => ?_
  rcases eq_or_ne c '_' with rfl | hne
  · exact iff_of_true (fun _ => hasWordImage_underscore) fun _ => hasWordImage_underscore
  · rw [mem_separate_iff hne]

/-- The define of a debug entry is an identifier exactly if the characters of the label have a place in it. -/
theorem isValid_ofDebugEntry_iff {full : String} (hfull : IsQualified full) (label : String) :
    IsValid (ofDebugEntry full label) ↔ IsDefinable label := by
  have howner : ∀ d ∈ (Text.upper (unqualified full ++ "_")).toList, d ∈ wordCharacters := by
    refine forall_mem_upper_iff.mpr fun c hc => hasWordImage_of_mem ?_
    rw [String.toList_append, List.mem_append] at hc
    rcases hc with hc | hc
    · exact forall_mem_unqualified hfull c hc
    · rw [List.mem_singleton.mp hc]
      decide
  have hlabel : (∀ d ∈ (Text.upper (separateWords
      (String.ofList (label.toList.map fun c => if c = ' ' then '_' else c)))).toList, d ∈ wordCharacters)
        ↔ IsDefinable label := by
    refine forall_mem_upper_iff.trans ?_
    rw [separateWords, String.toList_ofList, String.toList_ofList]
    refine forall_mem_separate_iff.trans (List.forall_mem_map.trans (forall₂_congr fun c _ => ?_))
    split
    next hblank => exact iff_of_true hasWordImage_underscore (Or.inl hblank)
    next hblank => exact (or_iff_right hblank).symm
  have hfront : IsValid "DEBUGVIEW_" := by decide
  rw [ofDebugEntry_eq, ← hlabel]
  constructor
  · intro h d hd
    exact h.characters d (by simp only [String.toList_append, List.mem_append]; exact Or.inr (Or.inr hd))
  · intro h
    refine hfront.append fun d hd => ?_
    rw [String.toList_append, List.mem_append] at hd
    exact hd.elim (howner d) (h d)

/-- Labels have a place in defines. -/
theorem IsLabel.isDefinable {label : String} (h : IsLabel label) : IsDefinable label := by
  intro c hc
  exact (List.mem_cons.mp (h.characters c hc)).imp_right hasWordImage_of_mem

end Identifier

end ShaderRecords
