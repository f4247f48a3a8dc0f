/-
ShaderRecords.Proofs.Include.Conditions — what a declaration declares when its conditions are resolved.

A register with a guard is declared between the lines `#if` and `#endif`. `Condition.resolve` reads a text
line by line, as a compiler of the include file would, and leaves those lines that stand under conditions
that hold. So that registers which look alike are told apart, the lines of a declaration carry the number of
the register that they declare (`numberedLines`; they are the lines of the text, `lines_declarationText`).

If all lines but the conditions are plain then a register is declared exactly where its own guard is empty
or holds (`mem_resolve_numberedLines_iff`).
-/
import ShaderRecords.Include.Declaration
import ShaderRecords.Proofs.Failure

namespace ShaderRecords

/-! ## Lines -/

/-- The lines of a text, with what follows the last line end. -/
def textLines (text : String) : List String :=
  (text.toList.splitOn '\n').map String.ofList

theorem toList_unlines_cons (line : String) (lines : List String) :
    (unlines (line :: lines)).toList = line.toList ++ '\n' :: (unlines lines).toList := by
  simp [unlines, String.toList_append]

theorem unlines_ne_empty {lines : List String} (h : lines ≠ []) : unlines lines ≠ "" := by
  cases lines with
  | nil => exact absurd rfl h
  | cons line lines =>
    intro hempty
    have hchars := toList_unlines_cons line lines
    simp [hempty] at hchars

/-- Lines without line ends are the lines of the text that is made of them. -/
theorem textLines_unlines {lines : List String} (h : ∀ line ∈ lines, '\n' ∉ line.toList) :
    textLines (unlines lines) = lines ++ [""] := by
  induction lines with
  | nil => rfl
  | cons line lines ih =>
    have hrest := ih fun l hl => h l (List.mem_cons_of_mem _ hl)
    have hline : ∀ c ∈ line.toList, (c == '\n') = false := by
      intro c hc
      refine beq_false_of_ne fun heq => h line (by simp) ?_
      rwa [← heq]
    unfold textLines at hrest ⊢
    rw [toList_unlines_cons, List.splitOn, List.splitOnP_append_cons_of_forall_mem hline _ (by simp)]
    rw [List.splitOn] at hrest
    simp [hrest]

/-! ## Conditions -/

/-- A line that opens or closes a condition. -/
inductive Condition where
  | opens (guard : String)
  | closes

/-- Whether a line is whole and gives the preprocessor nothing to do. -/
structure IsPlain (line : String) : Prop where
  whole : '\n' ∉ line.toList
  first : (line.toList.dropWhile (· = ' ')).head? ≠ some '#'

instance (line : String) : Decidable (IsPlain line) :=
  decidable_of_iff (_ ∧ _) ⟨fun ⟨h, h'⟩ => ⟨h, h'⟩, fun h => ⟨h.whole, h.first⟩⟩

namespace Condition

/-- The condition that a line opens or closes. -/
def ofLine? (line : String) : Option Condition :=
  match line.toList.dropWhile (· = ' ') with
  | '#' :: 'i' :: 'f' :: ' ' :: guard => some (.opens (String.ofList guard))
  | ['#', 'e', 'n', 'd', 'i', 'f'] => some .closes
  | _ => none

/-- What is left of lines if `holds` says which guards hold, and `opened` whether those of the conditions
around the lines do. -/
def resolve {α : Type} (holds : String → Bool) (text : α → String) (opened : List Bool) : List α → List α
  | [] => []
  | line :: lines =>
    match ofLine? (text line) with
    | some (.opens guard) => resolve holds text (holds guard :: opened) lines
    | some .closes => resolve holds text opened.tail lines
    | none =>
      if opened.all id then line :: resolve holds text opened lines
      else resolve holds text opened lines

theorem ofLine?_of_isPlain {line : String} (h : IsPlain line) : ofLine? line = none := by
  unfold ofLine?
  have hfirst := h.first
  split
  next guard heq => simp [heq] at hfirst
  next heq => simp [heq] at hfirst
  next => rfl

theorem ofLine?_opening (guard : String) : ofLine? (indent ++ "#if " ++ guard) = some (.opens guard) := by
  have htext : (indent ++ "#if " ++ guard).toList.dropWhile (· = ' ')
      = '#' :: 'i' :: 'f' :: ' ' :: guard.toList := by
    simp [indent, String.toList_append]
  rw [ofLine?, htext]
  exact congrArg (fun s => some (opens s)) String.ofList_toList

theorem ofLine?_closing : ofLine? (indent ++ "#endif") = some .closes := by
  have htext : (indent ++ "#endif").toList.dropWhile (· = ' ') = ['#', 'e', 'n', 'd', 'i', 'f'] := by
    decide
  rw [ofLine?, htext]
  rfl

section Resolve

variable {α : Type} (holds : String → Bool) {text : α → String}

@[simp] theorem resolve_nil {opened : List Bool} : resolve holds text opened [] = [] := rfl

theorem resolve_cons {opened : List Bool} (line : α) (lines : List α) : resolve holds text opened (line :: lines)
    = match ofLine? (text line) with
      | some (.opens guard) => resolve holds text (holds guard :: opened) lines
      | some .closes => resolve holds text opened.tail lines
      | none =>
        if opened.all id then line :: resolve holds text opened lines
        else resolve holds text opened lines := rfl

/-- Plain lines under no condition are left. -/
theorem resolve_append {plain : List α} (h : ∀ line ∈ plain, IsPlain (text line)) (rest : List α) :
    resolve holds text [] (plain ++ rest) = plain ++ resolve holds text [] rest := by
  induction plain with
  | nil => rfl
  | cons line plain ih =>
    rw [List.cons_append, resolve_cons, ofLine?_of_isPlain (h line (by simp))]
    simp [ih fun l hl => h l (List.mem_cons_of_mem _ hl)]

end Resolve

end Condition

/-! ## Members -/

/-- Whether a field is there: it has no guard or the guard holds. -/
def Field.IsThere (holds : String → Bool) (f : Field) : Prop :=
  f.guard.isPresent = true → holds f.guard.display = true

/-- A field without its guard. -/
def Field.unguarded (f : Field) : Field :=
  { f with guard := "" }

/-- A member is declared by one line, which stands under the guard. -/
theorem memberLines_eq_ok_iff {f : Field} {lines : List String} :
    memberLines f = .ok lines ↔ ∃ line, memberLines f.unguarded = .ok [line]
      ∧ lines = if f.guard.isPresent then [indent ++ "#if " ++ f.guard.display, line, indent ++ "#endif"]
        else [line] := by
  have hdeclaration : f.unguarded.declaration = f.declaration := rfl
  have hcomment : f.unguarded.comment = f.comment := rfl
  have hguard : f.unguarded.guard.isPresent = false := rfl
  unfold memberLines
  rw [hdeclaration, hcomment, hguard]
  cases f.comment.isPresent with
  | false => cases f.guard.isPresent <;> simp [eq_comm]
  | true =>
    cases f.comment.asText with
    | error b => simp
    | ok comment => cases f.guard.isPresent <;> simp [eq_comm]

/-- Of the lines of a member that stand under no other condition, the line that declares it is left if the
member is there. -/
theorem resolve_memberLines {α : Type} (holds : String → Bool) {f : Field} {lines : List String}
    (h : memberLines f = .ok lines) (hplain : ∀ line, memberLines f.unguarded = .ok [line] → IsPlain line)
    (mark : α) (rest : List (String × α)) :
    ∃ line, (f.IsThere holds → Condition.resolve holds (·.1) [] (lines.map (·, mark) ++ rest)
        = (line, mark) :: Condition.resolve holds (·.1) [] rest)
      ∧ (¬f.IsThere holds → Condition.resolve holds (·.1) [] (lines.map (·, mark) ++ rest)
        = Condition.resolve holds (·.1) [] rest) := by
  obtain ⟨line, hline, rfl⟩ := memberLines_eq_ok_iff.mp h
  have hnone := Condition.ofLine?_of_isPlain (hplain line hline)
  refine ⟨line, ?_⟩
  unfold Field.IsThere
  cases hguard : f.guard.isPresent with
  | false => simp [Condition.resolve_cons, hnone]
  | true =>
    cases hholds : holds f.guard.display with
    | false =>
      simp [Condition.resolve_cons, Condition.ofLine?_opening, Condition.ofLine?_closing, hnone, hholds]
    | true =>
      simp [Condition.resolve_cons, Condition.ofLine?_opening, Condition.ofLine?_closing, hnone, hholds]

/-! ## Declarations -/

/-- The lines in front of the members of a type. -/
def headerLines (t : TypeDef) : List String :=
  ["// Generated from " ++ t.fullName.display, "// PackingRules = " ++ rulesName t] ++ openingLines t

/-- The lines of the members, each with the number of its register. -/
def numberedBody (n : Nat) (blocks : List (List String)) : List (String × Option Nat) :=
  (blocks.zipIdx n).flatMap fun (lines, k) => lines.map (·, some k)

/-- The lines of the declaration of a type. Those of the members carry the number of their register. -/
def numberedLines (t : TypeDef) (registers : List Register) :
    Except Breakdown (List (String × Option Nat)) := do
  let blocks ← registers.mapM fun r => memberLines r.toField
  return (headerLines t).map (·, none) ++ numberedBody 0 blocks ++ (closingLines t ++ [""]).map (·, none)

theorem map_fst_numberedBody (n : Nat) (blocks : List (List String)) :
    (numberedBody n blocks).map (·.1) = blocks.flatten := by
  induction blocks generalizing n with
  | nil => rfl
  | cons lines blocks ih =>
    have hrest := ih (n + 1)
    unfold numberedBody at hrest ⊢
    simp [hrest, Function.comp_def]

/-- But for the numbers the lines are those of the declaration. -/
theorem map_numberedLines (t : TypeDef) (registers : List Register) :
    List.map (·.1) <$> numberedLines t registers = declarationLines t registers := by
  unfold numberedLines declarationLines bodyLines
  cases registers.mapM fun r => memberLines r.toField with
  | error b => rfl
  | ok blocks => simp [map_fst_numberedBody, headerLines, Function.comp_def]

/-- Whether the guards are the only thing in a declaration that the preprocessor has to do with: all other
lines are plain. -/
structure DeclaresPlainly (t : TypeDef) (registers : List Register) : Prop where
  header : ∀ line ∈ headerLines t, IsPlain line
  members : ∀ r ∈ registers, ∀ lines ∈ (memberLines r.toField.unguarded).toOption,
    ∀ line ∈ lines, IsPlain line

instance (t : TypeDef) (registers : List Register) : Decidable (DeclaresPlainly t registers) :=
  decidable_of_iff (_ ∧ _) ⟨fun ⟨h, h'⟩ => ⟨h, h'⟩, fun h => ⟨h.header, h.members⟩⟩

theorem DeclaresPlainly.isPlain {t : TypeDef} {registers : List Register} (h : DeclaresPlainly t registers)
    {r : Register} (hr : r ∈ registers) {line : String}
    (hline : memberLines r.toField.unguarded = .ok [line]) : IsPlain line :=
  h.members r hr [line] (by simp [hline, Except.toOption]) line (by simp)

theorem isPlain_closingLines (t : TypeDef) : ∀ line ∈ closingLines t ++ [""], IsPlain line := by
  unfold closingLines
  split
  · decide
  · split <;> decide

section Declarations

variable {t : TypeDef} {registers : List Register} {lines : List (String × Option Nat)}

/-- Among the members of a declaration the line of a register is left if the register is there. -/
theorem mem_resolve_numberedBody_iff {blocks : List (List String)} (holds : String → Bool)
    (hblocks : List.Forall₂ (fun r lines => memberLines (Register.toField r) = .ok lines) registers blocks)
    (hplain : ∀ r ∈ registers, ∀ line, memberLines r.toField.unguarded = .ok [line] → IsPlain line)
    (n : Nat) (rest : List (String × Option Nat)) (k : Nat) :
    some k ∈ (Condition.resolve holds (·.1) [] (numberedBody n blocks ++ rest)).map (·.2)
      ↔ (∃ j r, k = n + j ∧ registers[j]? = some r ∧ r.toField.IsThere holds)
        ∨ some k ∈ (Condition.resolve holds (·.1) [] rest).map (·.2) := by
  induction hblocks generalizing n with
  | nil => simp [numberedBody]
  | @cons r lines registers blocks hlines _ ih =>
    have hsplit : numberedBody n (lines :: blocks) ++ rest
        = lines.map (·, some n) ++ (numberedBody (n + 1) blocks ++ rest) := by
      simp [numberedBody]
    have hnext := ih (fun s hs => hplain s (List.mem_cons_of_mem _ hs)) (n + 1)
    -- The first register has the number `n`, and those behind it count on from `n + 1`.
    have hfirst : (∃ j s, k = n + j ∧ (r :: registers)[j]? = some s ∧ s.toField.IsThere holds)
        ↔ (k = n ∧ r.toField.IsThere holds)
          ∨ ∃ j s, k = n + 1 + j ∧ registers[j]? = some s ∧ s.toField.IsThere holds := by
      constructor
      · rintro ⟨j, s, hk, hs, hthere⟩
        cases j with
        | zero =>
          obtain rfl := Option.some.inj hs
          exact Or.inl ⟨hk, hthere⟩
        | succ j => exact Or.inr ⟨j, s, by omega, hs, hthere⟩
      · rintro (⟨rfl, hthere⟩ | ⟨j, s, hk, hs, hthere⟩)
        · exact ⟨0, r, rfl, rfl, hthere⟩
        · exact ⟨j + 1, s, by omega, hs, hthere⟩
    obtain ⟨line, hleft, hskipped⟩ :=
      resolve_memberLines holds hlines (hplain r (by simp)) (some n) (numberedBody (n + 1) blocks ++ rest)
    rw [hsplit, hfirst]
    by_cases hthere : r.toField.IsThere holds
    · rw [hleft hthere]
      simp [hnext, hthere, or_assoc]
    · rw [hskipped hthere, hnext]
      simp [hthere]

/-- A declaration declares a register exactly where the guard of the register is empty or holds. -/
theorem mem_resolve_numberedLines_iff (holds : String → Bool) (hplain : DeclaresPlainly t registers)
    (h : numberedLines t registers = .ok lines) (k : Nat) :
    some k ∈ (Condition.resolve holds (·.1) [] lines).map (·.2)
      ↔ ∃ r, registers[k]? = some r ∧ r.toField.IsThere holds := by
  unfold numberedLines at h
  obtain ⟨blocks, hblocks, h⟩ := bind_eq_ok_iff.mp h
  obtain rfl := Except.ok.inj h
  have hmembers : ∀ r ∈ registers, ∀ line, memberLines r.toField.unguarded = .ok [line] → IsPlain line :=
    fun r hr line => hplain.isPlain hr
  have hheader : ∀ line ∈ (headerLines t).map (·, (none : Option Nat)), IsPlain line.1 := by
    intro line hline
    obtain ⟨text, htext, rfl⟩ := List.mem_map.mp hline
    exact hplain.header text htext
  have hclosing : ∀ line ∈ (closingLines t ++ [""]).map (·, (none : Option Nat)), IsPlain line.1 := by
    intro line hline
    obtain ⟨text, htext, rfl⟩ := List.mem_map.mp hline
    exact isPlain_closingLines t text htext
  have hend := Condition.resolve_append holds hclosing []
  rw [List.append_nil] at hend
  rw [List.append_assoc, Condition.resolve_append holds hheader, List.map_append, List.mem_append,
    mem_resolve_numberedBody_iff holds (mapM_eq_ok_iff.mp hblocks) hmembers, hend]
  simp

theorem ne_empty_of_declarationText {text : String} (h : declarationText t registers = .ok text) :
    text ≠ "" := by
  obtain ⟨texts, htexts, rfl⟩ := exists_of_map_eq_ok h
  unfold declarationLines at htexts
  obtain ⟨body, -, htexts⟩ := bind_eq_ok_iff.mp htexts
  obtain rfl := Except.ok.inj htexts
  exact unlines_ne_empty (by simp)

/-- A line of a declaration is plain, or it opens or closes the condition of a register. -/
theorem cases_of_mem_declarationLines {texts : List String} (hplain : DeclaresPlainly t registers)
    (h : declarationLines t registers = .ok texts) {line : String} (hline : line ∈ texts) :
    IsPlain line ∨ (∃ r ∈ registers, line = indent ++ "#if " ++ r.guard.display)
      ∨ line = indent ++ "#endif" := by
  unfold declarationLines bodyLines at h
  obtain ⟨body, hbody, h⟩ := bind_eq_ok_iff.mp h
  obtain ⟨blocks, hblocks, hbody⟩ := bind_eq_ok_iff.mp hbody
  obtain rfl := Except.ok.inj hbody
  obtain rfl := Except.ok.inj h
  rw [← headerLines, List.append_assoc] at hline
  rcases List.mem_append.mp hline with hline | hclosing
  · rcases List.mem_append.mp hline with hheader | hmember
    · exact .inl (hplain.header line hheader)
    · obtain ⟨block, hblock, hline⟩ := List.mem_flatten.mp hmember
      obtain ⟨r, hr, hlines⟩ := exists_mem_of_forall₂ (mapM_eq_ok_iff.mp hblocks) hblock
      obtain ⟨own, hown, rfl⟩ := memberLines_eq_ok_iff.mp hlines
      split at hline
      · simp only [List.mem_cons, List.not_mem_nil, or_false] at hline
        rcases hline with rfl | rfl | rfl
        · exact .inr (.inl ⟨r, hr, rfl⟩)
        · exact .inl (hplain.isPlain hr hown)
        · exact .inr (.inr rfl)
      · obtain rfl := List.mem_singleton.mp hline
        exact .inl (hplain.isPlain hr hown)
  · exact .inl (isPlain_closingLines t line hclosing)

/-- No line of a declaration has a line end in it if no guard has. -/
theorem lineEnd_notMem_declarationLines {texts : List String} (hplain : DeclaresPlainly t registers)
    (hguards : ∀ r ∈ registers, '\n' ∉ r.guard.display.toList)
    (h : declarationLines t registers = .ok texts) : ∀ line ∈ texts, '\n' ∉ line.toList := by
  intro line hline
  rcases cases_of_mem_declarationLines hplain h hline with hplain | ⟨r, hr, rfl⟩ | rfl
  · exact hplain.whole
  · simp only [String.toList_append, List.mem_append, not_or]
    exact ⟨by decide, hguards r hr⟩
  · decide

/-- The lines of a declaration are the lines of its text if no guard has a line end in it. -/
theorem textLines_of_declarationText {text : String} (hplain : DeclaresPlainly t registers)
    (hguards : ∀ r ∈ registers, '\n' ∉ r.guard.display.toList) (h : declarationText t registers = .ok text) :
    ∃ lines, numberedLines t registers = .ok lines ∧ textLines text = lines.map (·.1) ++ [""] := by
  obtain ⟨texts, htexts, rfl⟩ := exists_of_map_eq_ok h
  have hlines := textLines_unlines (lineEnd_notMem_declarationLines hplain hguards htexts)
  rw [← map_numberedLines] at htexts
  obtain ⟨lines, hnumbered, rfl⟩ := exists_of_map_eq_ok htexts
  exact ⟨lines, hnumbered, hlines⟩

end Declarations

end ShaderRecords
