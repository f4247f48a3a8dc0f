/-
ShaderRecords.Proofs.Include.ReadBack — what is read back from the declaration of a record.

`readBack` reads a text line by line, each line in front of its remark and without the blanks around, and passes
over lines with nothing in them. If the fields of a record have identifiers for names, no guards, and texts for
comments, then the lines that declare its registers are read back as the declarations of the registers, all of them
and in order. But a comment is written as it is, and a remark ends with its line: what stands in the other lines of
a comment is read back as well, behind the declaration that it belongs to (`readBack_declarationText`). So nothing
but the declarations is read back exactly if comments have only remarks and blanks behind their first lines.
-/
import ShaderRecords.Proofs.Identifier.Validity
import ShaderRecords.Proofs.Include.ShaderFunctions
import ShaderRecords.Proofs.Record.Online

namespace ShaderRecords

/-! ## Reading lines -/

/-- The characters of a line in front of a remark. -/
def beforeRemark : List Char → List Char
  | [] => []
  | '/' :: '/' :: _ => []
  | c :: rest => c :: beforeRemark rest

/-- What is left of a line in front of a remark, without the blanks around. -/
def plainLine (line : String) : String :=
  String.ofList (Text.trimBy Text.isBlank (beforeRemark line.toList))

/-- What is left of lines, but for those of which nothing is. -/
def plainLines (lines : List String) : List String :=
  (lines.map plainLine).filter (· ≠ "")

/-- What is read from a text, line by line. -/
def readBack (text : String) : List String :=
  plainLines (textLines text)

/-! ## Remarks -/

/-- Two slashes open a remark and nothing else does. -/
theorem beforeRemark_cons {c : Char} {rest : List Char} (h : ¬(c = '/' ∧ rest.head? = some '/')) :
    beforeRemark (c :: rest) = c :: beforeRemark rest := by
  rw [beforeRemark]
  rintro rest' rfl rfl
  exact h ⟨rfl, rfl⟩

theorem beforeRemark_append_of_not_mem {front : List Char} (h : '/' ∉ front) (rest : List Char) :
    beforeRemark (front ++ rest) = front ++ beforeRemark rest := by
  induction front with
  | nil => rfl
  | cons c front ih =>
    rw [List.mem_cons, not_or] at h
    rw [List.cons_append, beforeRemark_cons fun hc => h.1 hc.1.symm, ih h.2, List.cons_append]

theorem beforeRemark_eq_self {s : List Char} (h : '/' ∉ s) : beforeRemark s = s := by
  have hsame := beforeRemark_append_of_not_mem h []
  rwa [List.append_nil, beforeRemark, List.append_nil] at hsame

/-- What has no remark in it has none either where something else than a slash follows. -/
theorem beforeRemark_append {front rest : List Char} (hfront : beforeRemark front = front)
    (hrest : rest.head? ≠ some '/') : beforeRemark (front ++ rest) = front ++ beforeRemark rest := by
  induction front with
  | nil => rfl
  | cons c front ih =>
    have hopens : ¬(c = '/' ∧ front.head? = some '/') := by
      rintro ⟨rfl, hhead⟩
      obtain ⟨front, rfl⟩ := List.head?_eq_some_iff.mp hhead
      cases hfront
    have hopens' : ¬(c = '/' ∧ (front ++ rest).head? = some '/') := by
      cases front with
      | nil => exact fun h => hrest h.2
      | cons d front => exact hopens
    rw [beforeRemark_cons hopens, List.cons.injEq, and_iff_right rfl] at hfront
    rw [List.cons_append, beforeRemark_cons hopens', ih hfront, List.cons_append]

/-! ## Blanks around -/

/-- Blanks around a text that neither begins nor ends with one are cut off. -/
theorem Text.trimBy_eq {outer : Char → Bool} {front s back : List Char} (hfront : ∀ c ∈ front, outer c = true)
    (hback : ∀ c ∈ back, outer c = true) (hfirst : ∃ c ∈ s.head?, outer c = false)
    (hlast : ∃ c ∈ s.getLast?, outer c = false) : trimBy outer (front ++ s ++ back) = s := by
  have hkeep : ∀ {t rest : List Char}, (∃ c ∈ t.head?, outer c = false) →
      (t ++ rest).dropWhile outer = t ++ rest := by
    rintro t rest ⟨c, hc, houter⟩
    obtain ⟨t, rfl⟩ := List.head?_eq_some_iff.mp hc
    simp [houter]
  have hfirst' : ∃ c ∈ s.reverse.head?, outer c = false := by
    rwa [List.head?_reverse]
  rw [trimBy, List.append_assoc, List.dropWhile_append_of_pos hfront, hkeep hfirst, List.reverse_append,
    List.dropWhile_append_of_pos (by simpa using hback), ← List.append_nil s.reverse, hkeep hfirst']
  simp

/-! ## Legible lines -/

/-- Whether a text is read back as the line that it is: it is no more than one line, has no remark in it and
neither begins nor ends with a blank. -/
structure IsLegible (s : String) : Prop where
  whole : '\n' ∉ s.toList
  noRemark : beforeRemark s.toList = s.toList
  first : ∃ c ∈ s.toList.head?, Text.isBlank c = false
  last : ∃ c ∈ s.toList.getLast?, Text.isBlank c = false

theorem isBlank_space : Text.isBlank ' ' = true := by
  rw [Text.isBlank_eq]
  decide

/-- A legible text is read back from behind an indentation, and in front of a remark as well. -/
theorem IsLegible.plainLine_eq {s : String} (h : IsLegible s) {remark : String}
    (hremark : remark = "" ∨ ∃ rest, remark = " //" ++ rest) : plainLine (indent ++ s ++ remark) = s := by
  have hback : ∃ back : List Char, (∀ c ∈ back, Text.isBlank c = true) ∧ remark.toList.head? ≠ some '/'
      ∧ beforeRemark remark.toList = back := by
    rcases hremark with rfl | ⟨rest, rfl⟩
    · exact ⟨[], by simp, by simp, rfl⟩
    · refine ⟨[' '], by simpa using isBlank_space, by simp [String.toList_append], ?_⟩
      simp [String.toList_append, beforeRemark]
  obtain ⟨back, hblank, hhead, hback⟩ := hback
  have hcut : beforeRemark (indent ++ s ++ remark).toList = indent.toList ++ s.toList ++ back := by
    rw [String.toList_append, String.toList_append, List.append_assoc,
      beforeRemark_append_of_not_mem (by decide), beforeRemark_append h.noRemark hhead, hback, List.append_assoc]
  rw [plainLine, hcut, Text.trimBy_eq _ hblank h.first h.last, String.ofList_toList]
  intro c hc
  obtain rfl : c = ' ' := by simpa [indent] using hc
  exact isBlank_space

/-- What has no slash and no line end in it may follow, if its last character is no blank. -/
theorem IsLegible.append {s rest : String} (h : IsLegible s)
    (hrest : ∀ c ∈ rest.toList, c ≠ '/' ∧ c ≠ '\n') (hlast : ∃ c ∈ rest.toList.getLast?, Text.isBlank c = false) :
    IsLegible (s ++ rest) := by
  have hslash : '/' ∉ rest.toList := fun h => (hrest _ h).1 rfl
  have hhead : rest.toList.head? ≠ some '/' := fun h => hslash (List.mem_of_head? h)
  constructor
  · rw [String.toList_append, List.mem_append, not_or]
    exact ⟨h.whole, fun hend => (hrest _ hend).2 rfl⟩
  · rw [String.toList_append, beforeRemark_append h.noRemark hhead, beforeRemark_eq_self hslash]
  · obtain ⟨c, hc, hblank⟩ := h.first
    rw [String.toList_append]
    exact ⟨c, List.mem_head?_append_of_mem_head? hc, hblank⟩
  · obtain ⟨c, hc, hblank⟩ := hlast
    rw [String.toList_append]
    exact ⟨c, List.mem_getLast?_append_of_mem_getLast? hc, hblank⟩

/-! ## Identifiers and numbers -/

namespace Identifier

theorem legible_of_mem_wordCharacters {c : Char} (h : c ∈ wordCharacters) :
    c ≠ '/' ∧ c ≠ '\n' ∧ Text.isBlank c = false := by
  have hall : wordCharacters.all (fun c => c != '/' && c != '\n' && !Text.isBlank c) = true := by
    rw [Text.isBlank_eq]
    decide
  have hone := List.all_eq_true.mp hall c h
  simpa [and_assoc] using hone

theorem IsValid.isLegible {name : String} (h : IsValid name) : IsLegible name := by
  have hslash : '/' ∉ name.toList := fun hc => (legible_of_mem_wordCharacters (h.characters _ hc)).1 rfl
  obtain ⟨c, hc, hword, -⟩ := h.first
  have hne : name.toList ≠ [] := by
    rintro hnil
    rw [hnil] at hc
    cases hc
  refine ⟨fun hend => ?_, beforeRemark_eq_self hslash,
    ⟨c, hc, (legible_of_mem_wordCharacters hword).2.2⟩, ?_⟩
  · exact (legible_of_mem_wordCharacters (h.characters _ hend)).2.1 rfl
  · refine ⟨name.toList.getLast hne, List.getLast?_eq_some_getLast hne, ?_⟩
    exact (legible_of_mem_wordCharacters (h.characters _ (List.getLast_mem hne))).2.2

theorem mem_wordCharacters_of_isDigit {c : Char} (h : c.isDigit = true) : c ∈ wordCharacters := by
  have hall : ∀ n < 58, 48 ≤ n → Char.ofNat n ∈ wordCharacters := by
    decide
  obtain ⟨hfirst, hlast⟩ : 48 ≤ c.toNat ∧ c.toNat ≤ 57 := Char.isDigit_iff_toNat.mp h
  rw [← Char.ofNat_toNat c]
  exact hall c.toNat (by omega) hfirst

/-- A number that is not negative is written in digits. -/
theorem mem_wordCharacters_of_mem_toString {n : Int} (h : 0 ≤ n) {c : Char} (hc : c ∈ (toString n).toList) :
    c ∈ wordCharacters := by
  rw [Int.toString_eq_repr, Int.repr_eq_if, if_pos h, Nat.toList_repr] at hc
  exact mem_wordCharacters_of_isDigit (Nat.isDigit_of_mem_toDigits (by decide) (by decide) hc)

theorem mem_wordCharacters_of_mem_display {w : Whole} (h : 0 < w.toInt) {c : Char}
    (hc : c ∈ w.display.toList) : c ∈ wordCharacters := by
  cases w with
  | number n => exact mem_wordCharacters_of_mem_toString (Int.le_of_lt h) hc
  | flag b =>
    cases b with
    | false => cases h
    | true =>
      obtain rfl | rfl | rfl | rfl : c = 'T' ∨ c = 'r' ∨ c = 'u' ∨ c = 'e' := by
        simpa using (show c ∈ ['T', 'r', 'u', 'e'] from hc)
      all_goals decide

end Identifier

/-! ## Lines of texts -/

theorem textLines_ne_nil (s : String) : textLines s ≠ [] := by
  rw [textLines, Ne, List.map_eq_nil_iff]
  exact List.splitOnP_ne_nil _ _

theorem textLines_lineEnd (a b : String) : textLines (a ++ "\n" ++ b) = textLines a ++ textLines b := by
  have hchars : (a ++ "\n" ++ b).toList = a.toList ++ '\n' :: b.toList := by
    simp [String.toList_append]
  rw [textLines, hchars, List.splitOn, List.splitOnP_append_cons _ _ (by simp), List.map_append]
  rfl

/-- What has no line end in it stands at the beginning of the first line of what follows. -/
theorem textLines_append {front s first : String} {later : List String} (hfront : '\n' ∉ front.toList)
    (hs : textLines s = first :: later) : textLines (front ++ s) = (front ++ first) :: later := by
  obtain ⟨x, xs, hsplit, rfl, rfl⟩ := List.map_eq_cons_iff.mp hs
  have hjoined : (front.toList ++ s.toList).splitOn '\n' = (front.toList ++ x) :: xs := by
    generalize front.toList = cs at hfront
    induction cs with
    | nil => exact hsplit
    | cons c cs ih =>
      rw [List.mem_cons, not_or] at hfront
      rw [List.splitOn] at ih ⊢
      rw [List.cons_append, List.splitOnP_cons_eq_if_modifyHead, if_neg (by simpa using Ne.symm hfront.1),
        ih hfront.2]
      rfl
  rw [textLines, String.toList_append, hjoined, List.map_cons, String.ofList_append, String.ofList_toList]

theorem textLines_eq_singleton {s : String} (h : '\n' ∉ s.toList) : textLines s = [s] := by
  have hempty : textLines "" = [""] := rfl
  simpa using textLines_append h hempty

theorem plainLines_append (xs ys : List String) : plainLines (xs ++ ys) = plainLines xs ++ plainLines ys := by
  simp [plainLines]

/-- Lines are read back one by one, also if they are several lines each. -/
theorem readBack_unlines (lines : List String) : readBack (unlines lines) = lines.flatMap readBack := by
  induction lines with
  | nil => decide
  | cons line lines ih =>
    rw [unlines_cons, readBack, textLines_lineEnd, plainLines_append, List.flatMap_cons, ← ih]
    rfl

/-! ## Members -/

/-- Whether the declaration of a field is legible: an identifier is its name, the name of a record type is legible,
it has no guard, and its comment is a text. -/
structure Field.IsPlain (f : Field) : Prop where
  name : ∃ n, f.name = .text n ∧ Identifier.IsValid n
  typeName : f.kind = .struct → ∃ n, f.typeName = .text n ∧ IsLegible n
  guard : f.guard.isPresent = false
  comment : f.comment.IsText

namespace Field

variable {f : Field}

/-- A type is written as an identifier, or as the name of a record type. -/
theorem IsPlain.isLegible_typeSpelling (h : f.IsPlain) : IsLegible f.typeSpelling.display := by
  by_cases hkind : f.kind = .struct
  · obtain ⟨n, hn, hlegible⟩ := h.typeName hkind
    rw [typeSpelling, Primitive.spelling, if_pos hkind, hn]
    exact hlegible
  · have hkeyword : Identifier.IsValid f.kind.keyword := by
      cases f.kind <;> decide
    rw [typeSpelling, Primitive.spelling, if_neg hkind]
    refine Identifier.IsValid.isLegible ?_
    split
    next hrows =>
      refine (hkeyword.append fun c hc => ?_).append fun c hc => ?_
      · exact Identifier.mem_wordCharacters_of_mem_toString (by omega) hc
      · split at hc
        next hcols =>
          rw [String.toList_append, List.mem_append] at hc
          rcases hc with hc | hc
          · obtain rfl : c = 'x' := by simpa using hc
            decide
          · exact Identifier.mem_wordCharacters_of_mem_toString (by omega) hc
        next => cases hc
    next => exact hkeyword

theorem IsPlain.isLegible (h : f.IsPlain) : IsLegible (f.declaration ++ ";") := by
  obtain ⟨n, hn, hvalid⟩ := h.name
  have hword : ∀ {c : Char}, c ∈ Identifier.wordCharacters → c ≠ '/' ∧ c ≠ '\n' := fun hc =>
    ⟨(Identifier.legible_of_mem_wordCharacters hc).1, (Identifier.legible_of_mem_wordCharacters hc).2.1⟩
  have hname : ∀ c ∈ n.toList, c ≠ '/' ∧ c ≠ '\n' := fun c hc => hword (hvalid.characters c hc)
  have harray : 0 < f.arraySize.toInt → ∀ c ∈ f.arraySize.display.toList, c ≠ '/' ∧ c ≠ '\n' :=
    fun hpos c hc => hword (Identifier.mem_wordCharacters_of_mem_display hpos hc)
  have hsplit : f.declaration ++ ";" = f.typeSpelling.display ++ (" " ++ n
      ++ (if f.arraySize.toInt > 0 then "[" ++ f.arraySize.display ++ "]" else "") ++ ";") := by
    simp only [declaration, hn, Value.display, String.append_assoc]
  rw [hsplit]
  refine h.isLegible_typeSpelling.append ?_ ⟨';', ?_, by rw [Text.isBlank_eq]; decide⟩
  · simp only [String.toList_append, List.forall_mem_append]
    refine ⟨⟨⟨by simp, hname⟩, ?_⟩, by simp⟩
    split
    next hpos =>
      simp only [String.toList_append, List.forall_mem_append]
      exact ⟨⟨by simp, harray hpos⟩, by simp⟩
    next => simp
  · rw [String.toList_append]
    exact List.getLast?_concat

/-- The line of a declaration is read back as the declaration, with a remark behind it or none. -/
theorem IsPlain.plainLines_cons (h : f.IsPlain) {remark first : String}
    (hremark : remark = "" ∨ remark = " // " ++ first) (later : List String) :
    plainLines ((indent ++ (f.declaration ++ ";") ++ remark) :: later)
      = (f.declaration ++ ";") :: plainLines later := by
  have hne : f.declaration ++ ";" ≠ "" := by
    intro hempty
    obtain ⟨_, hfirst, -⟩ := h.isLegible.first
    rw [hempty] at hfirst
    cases hfirst
  have hline : plainLine (indent ++ (f.declaration ++ ";") ++ remark) = f.declaration ++ ";" := by
    refine h.isLegible.plainLine_eq (hremark.imp_right fun hremark => ⟨" " ++ first, ?_⟩)
    rw [hremark, ← String.append_assoc]
    rfl
  rw [plainLines, List.map_cons, hline, List.filter_cons, if_pos (decide_eq_true hne)]
  rfl

theorem IsPlain.memberLines_eq (h : f.IsPlain) {c : String} (hc : f.comment = .text c) :
    memberLines f = .ok [indent ++ (f.declaration ++ ";" ++ if c = "" then "" else " // " ++ c)] := by
  rw [memberLines, hc, h.guard]
  by_cases hempty : c = ""
  · subst hempty
    rfl
  · have hpresent : (Value.text c).isPresent = true := by
      simpa [Value.isPresent] using hempty
    rw [if_pos hpresent, if_neg hempty]
    rfl

/-- The line that declares a member is read back as the declaration, and so are the later lines of its comment. -/
theorem IsPlain.readBack_memberLines (h : f.IsPlain) :
    ∃ line, memberLines f = .ok [line]
      ∧ readBack line = (f.declaration ++ ";") :: plainLines (textLines f.comment.display).tail := by
  obtain ⟨c, hc⟩ := h.comment
  obtain ⟨first, later, hlines⟩ := List.exists_cons_of_ne_nil (textLines_ne_nil c)
  have hwhole : '\n' ∉ (indent ++ (f.declaration ++ ";")).toList := by
    rw [String.toList_append, List.mem_append, not_or]
    exact ⟨by decide, h.isLegible.whole⟩
  -- The remark begins in the line of the declaration, whether or not there is one.
  have hremark : ∃ remark, textLines (if c = "" then "" else " // " ++ c) = remark :: later
      ∧ (remark = "" ∨ remark = " // " ++ first) := by
    split
    next hempty =>
      subst hempty
      obtain ⟨-, rfl⟩ : "" = first ∧ [] = later := List.cons.inj hlines
      exact ⟨"", rfl, .inl rfl⟩
    next => exact ⟨" // " ++ first, textLines_append (by decide) hlines, .inr rfl⟩
  obtain ⟨remark, hsplit, hfirst⟩ := hremark
  refine ⟨_, h.memberLines_eq hc, ?_⟩
  rw [readBack, ← String.append_assoc, textLines_append hwhole hsplit, h.plainLines_cons hfirst, hc]
  exact congrArg (fun ls => _ :: plainLines ls.tail) hlines.symm

end Field

/-! ## Registers -/

/-- A register that a field joins has a longer name and else declares what it has declared before. -/
theorem Register.isPlain_merge {r r' : Register} {f : Field} (hr : r.toField.IsPlain) (hf : f.IsPlain)
    (h : r.merge f = .ok r') : r'.toField.IsPlain ∧ r'.comment = r.comment := by
  obtain ⟨-, -, name, hname, rfl⟩ := merge_eq_ok_iff.mp h
  obtain ⟨a, ha, hvalid⟩ := hr.name
  obtain ⟨b, hb, hvalid'⟩ := hf.name
  rw [show r.name = .text a from ha, hb] at hname
  obtain rfl := Except.ok.inj hname
  have hjoined : Identifier.IsValid (a ++ "_" ++ b) := by
    refine (hvalid.append fun c hc => ?_).append hvalid'.characters
    obtain rfl : c = '_' := by simpa using hc
    decide
  exact ⟨⟨⟨_, rfl, hjoined⟩, hr.typeName, hr.guard, hr.comment⟩, rfl⟩

/-- The registers of fields whose declarations are legible have legible declarations, and comments of fields. -/
theorem isPlain_of_pack {rules : PackingRules} {fields : List Field} {registers : List Register}
    (hplain : ∀ f ∈ fields, f.IsPlain) (h : pack rules fields = .ok registers) :
    ∀ r ∈ registers, r.toField.IsPlain ∧ ∃ f ∈ fields, r.comment = f.comment := by
  refine forall_mem_of_pack (fun f hf => ?_) (fun r r' f hf hr hmerge => ?_) h
  · obtain ⟨hname, htype, hguard, hcomment⟩ := hplain f hf
    exact ⟨⟨hname, htype, hguard, hcomment⟩, f, hf, rfl⟩
  · obtain ⟨hplain', hcomment⟩ := Register.isPlain_merge hr.1 (hplain f hf) hmerge
    exact ⟨hplain', hcomment ▸ hr.2⟩

/-- Each register is read back as its declaration, with what stands in the lines of its comment behind the first
one. -/
theorem readBack_bodyLines {registers : List Register} (h : ∀ r ∈ registers, r.toField.IsPlain) :
    ∃ lines, bodyLines registers = .ok lines ∧ readBack (unlines lines) = registers.flatMap fun r =>
      (r.declaration ++ ";") :: plainLines (textLines r.comment.display).tail := by
  have hmembers : ∃ members, registers.mapM (fun r => memberLines r.toField) = .ok members
      ∧ members.flatten.flatMap readBack = registers.flatMap fun r =>
        (r.declaration ++ ";") :: plainLines (textLines r.comment.display).tail := by
    induction registers with
    | nil => exact ⟨[], rfl, rfl⟩
    | cons r registers ih =>
      obtain ⟨hr, hrest⟩ := List.forall_mem_cons.mp h
      obtain ⟨line, hline, hread⟩ := hr.readBack_memberLines
      obtain ⟨members, hmembers, hreads⟩ := ih hrest
      refine ⟨[line] :: members, ?_, ?_⟩
      · rw [List.mapM_cons, hline, ok_bind, hmembers]
        rfl
      · rw [List.flatten_cons, List.flatMap_append, hreads, List.flatMap_cons, List.flatMap_nil, List.append_nil,
          hread]
        rfl
  obtain ⟨members, hmembers, hreads⟩ := hmembers
  refine ⟨members.flatten, ?_, by rw [readBack_unlines, hreads]⟩
  rw [bodyLines, hmembers]
  rfl

/-! ## Declarations -/

/-- A list with a list behind each of its items is the list itself if there is nothing in the others. -/
theorem flatMap_cons_eq_map_iff {α β : Type} (f : α → β) (g : α → List β) (xs : List α) :
    xs.flatMap (fun x => f x :: g x) = xs.map f ↔ ∀ x ∈ xs, g x = [] := by
  have hlong : ∀ xs : List α, xs.length ≤ (xs.flatMap fun x => f x :: g x).length := by
    intro xs
    induction xs with
    | nil => simp
    | cons x xs ih =>
      simp only [List.flatMap_cons, List.length_append, List.length_cons]
      omega
  induction xs with
  | nil => simp
  | cons x xs ih =>
    rw [List.flatMap_cons, List.cons_append, List.map_cons, List.cons.injEq, and_iff_right rfl,
      List.forall_mem_cons]
    constructor
    · intro h
      have hlength := congrArg List.length h
      rw [List.length_append, List.length_map] at hlength
      have hnil : g x = [] := List.eq_nil_of_length_eq_zero (by have := hlong xs; omega)
      exact ⟨hnil, ih.mp (by rwa [hnil] at h)⟩
    · rintro ⟨hnil, h⟩
      rw [hnil, ih.mpr h, List.nil_append]

/-- **What a declaration is read back as.** If a record of fields with identifiers for names, without guards and
with any texts for comments is packed, then its registers are declared one after another between the opening and
the closing of the declaration. They are read back as their declarations, each with the later lines of its comment
behind it; so nothing but the declarations is read back exactly if there are only blanks and remarks in those
lines, and in particular if no comment has a line end in it. -/
theorem readBack_declarationText {rules : PackingRules} {fields : List Field} {registers : List Register}
    (hplain : ∀ f ∈ fields, f.IsPlain) (hpack : pack rules fields = .ok registers) (t : TypeDef) :
    ∃ body : String,
      declarationText t registers = .ok (unlines (["// Generated from " ++ t.fullName.display,
        "// PackingRules = " ++ rulesName t] ++ openingLines t) ++ body ++ unlines (closingLines t ++ [""]))
      ∧ readBack body = registers.flatMap (fun r =>
        (r.declaration ++ ";") :: plainLines (textLines r.comment.display).tail)
      ∧ (readBack body = registers.map (fun r => r.declaration ++ ";")
        ↔ ∀ r ∈ registers, plainLines (textLines r.comment.display).tail = [])
      ∧ ((∀ f ∈ fields, '\n' ∉ f.comment.display.toList) →
        readBack body = registers.map fun r => r.declaration ++ ";") := by
  have hregisters := isPlain_of_pack hplain hpack
  obtain ⟨lines, hlines, hread⟩ := readBack_bodyLines fun r hr => (hregisters r hr).1
  have hiff : readBack (unlines lines) = registers.map (fun r => r.declaration ++ ";")
      ↔ ∀ r ∈ registers, plainLines (textLines r.comment.display).tail = [] := by
    rw [hread]
    exact flatMap_cons_eq_map_iff _ _ _
  refine ⟨unlines lines, ?_, hread, hiff, fun hwhole => hiff.mpr fun r hr => ?_⟩
  · rw [declarationText, declarationLines, hlines, ok_bind]
    simp only [pure_eq_ok, map_ok, unlines_append, String.append_assoc]
  · obtain ⟨-, f, hf, hcomment⟩ := hregisters r hr
    rw [hcomment, textLines_eq_singleton (hwhole f hf)]
    rfl

/-- Two fields that share a register, the first one with slashes in its comment. -/
def remarkedFields : List Field :=
  [{ name := "near", kind := .float, comment := "near // end" }, { name := "far", kind := .float, rows := 2 }]

/-- The register is read back as its declaration. -/
theorem readBack_declarationText_of_remarkedFields :
    ∃ registers body, pack .aggressive remarkedFields = .ok registers
      ∧ declarationText { name := "Range", fullName := "Range" } registers
        = .ok (unlines ["// Generated from Range", "// PackingRules = Exact", "struct Range", "\x7b"] ++ body
          ++ unlines ["\x7d;", ""])
      ∧ readBack body = ["float3 near_far;"] := by
  have hplain : ∀ f ∈ remarkedFields, f.IsPlain := by
    simp only [remarkedFields, List.forall_mem_cons]
    exact ⟨⟨⟨_, rfl, by decide⟩, nofun, rfl, _, rfl⟩,
      ⟨⟨_, rfl, by decide⟩, nofun, rfl, _, rfl⟩, List.forall_mem_nil _⟩
  have hpack : pack .aggressive remarkedFields = .ok _ := rfl
  obtain ⟨body, htext, -, -, hread⟩ :=
    readBack_declarationText hplain hpack { name := "Range", fullName := "Range" }
  refine ⟨_, body, hpack, htext, hread fun f hf => ?_⟩
  rcases List.mem_pair.mp hf with rfl | rfl <;> decide

/-- Two fields, the first one with a comment of two lines. -/
def twoLinedFields : List Field :=
  [{ name := "a", kind := .float, comment := "first\nfloat extra;" }, { name := "b", kind := .float }]

/-- The second line of the comment is read back as a member. -/
theorem readBack_adds_member :
    (∀ f ∈ twoLinedFields, f.IsPlain) ∧ ∃ registers lines, pack .exact twoLinedFields = .ok registers
      ∧ bodyLines registers = .ok lines ∧ registers.map (fun r => r.declaration ++ ";") = ["float a;", "float b;"]
      ∧ readBack (unlines lines) = ["float a;", "float extra;", "float b;"] := by
  refine ⟨?_, _, _, rfl, rfl, by decide +kernel, by decide +kernel⟩
  simp only [twoLinedFields, List.forall_mem_cons]
  exact ⟨⟨⟨_, rfl, by decide⟩, nofun, rfl, _, rfl⟩,
    ⟨⟨_, rfl, by decide⟩, nofun, rfl, _, rfl⟩, List.forall_mem_nil _⟩

end ShaderRecords
