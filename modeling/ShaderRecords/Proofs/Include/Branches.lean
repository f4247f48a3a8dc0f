/-
ShaderRecords.Proofs.Include.Branches — which members are named in the branches that hold.

The cases of the debug view stand between `#if`, `#else` and `#endif`. `Branch.resolve` reads lines as
`Condition.resolve` does and knows the branch behind `#else` as well. On lines without `#else` both are the same
(`Branch.resolve_eq`), and so they are on declarations (`Branch.resolve_numberedLines`).

Lines that read or write a member of the record are marked with its name (`MarkedLines`), which does stand in
them (`NamesMember`). Plain lines all are left (`Branch.resolve_append`), and the case of a guarded entry is left
where the guard holds (`DebugField.some_mem_resolve_markedEntries_iff`).
-/
import ShaderRecords.Proofs.Include.ShaderFunctions

namespace ShaderRecords

/-! ## Branches -/

/-- A line that opens a condition, goes on to its other branch or closes it. -/
inductive Branch where
  | opens (guard : String)
  | turns
  | closes
deriving DecidableEq

namespace Branch

/-- What a line does to the condition around it. -/
def ofLine? (line : String) : Option Branch :=
  if line.toList.dropWhile (· = ' ') = ['#', 'e', 'l', 's', 'e'] then some .turns
  else
    match Condition.ofLine? line with
    | some (.opens guard) => some (.opens guard)
    | some .closes => some .closes
    | none => none

/-- What is left of lines if `holds` says which guards hold, and `opened` whether the branches around the lines
do, the innermost first. -/
def resolve {α : Type} (holds : String → Bool) (text : α → String) (opened : List Bool) : List α → List α
  | [] => []
  | line :: lines =>
    match ofLine? (text line) with
    | some (.opens guard) => resolve holds text (holds guard :: opened) lines
    | some .turns => resolve holds text ((opened.head?.map (!·)).toList ++ opened.tail) lines
    | some .closes => resolve holds text opened.tail lines
    | none =>
      if opened.all id then line :: resolve holds text opened lines
      else resolve holds text opened lines

theorem ofLine?_of_isPlain {line : String} (h : IsPlain line) : ofLine? line = none := by
  have helse : line.toList.dropWhile (· = ' ') ≠ ['#', 'e', 'l', 's', 'e'] := by
    intro heq
    exact h.first (by rw [heq]; rfl)
  rw [ofLine?, if_neg helse, Condition.ofLine?_of_isPlain h]

/-- A line that opens or closes a condition is not `#else`. -/
theorem ofLine?_ne_turns {line : String} {c : Condition} (h : Condition.ofLine? line = some c) :
    ofLine? line ≠ some .turns := by
  have helse : line.toList.dropWhile (· = ' ') ≠ ['#', 'e', 'l', 's', 'e'] := by
    intro heq
    simp [Condition.ofLine?, heq] at h
  rw [ofLine?, if_neg helse, h]
  cases c <;> simp

theorem ofLine?_opening (guard : String) : ofLine? ("#if " ++ guard) = some (.opens guard) := by
  have htext : ("#if " ++ guard).toList.dropWhile (· = ' ') = '#' :: 'i' :: 'f' :: ' ' :: guard.toList := by
    simp [String.toList_append]
  have hcondition : Condition.ofLine? ("#if " ++ guard) = some (.opens guard) := by
    rw [Condition.ofLine?, htext]
    exact congrArg (fun s => some (Condition.opens s)) String.ofList_toList
  rw [ofLine?, htext, if_neg (by simp), hcondition]

theorem ofLine?_turning : ofLine? "#else" = some .turns := by
  decide

theorem ofLine?_closing : ofLine? "#endif" = some .closes := by
  rfl

section Resolve

variable {α : Type} (holds : String → Bool) {text : α → String} {opened : List Bool}

@[simp] theorem resolve_nil : resolve holds text opened [] = [] := rfl

theorem resolve_cons (line : α) (lines : List α) : resolve holds text opened (line :: lines)
    = match ofLine? (text line) with
      | some (.opens guard) => resolve holds text (holds guard :: opened) lines
      | some .turns => resolve holds text ((opened.head?.map (!·)).toList ++ opened.tail) lines
      | some .closes => resolve holds text opened.tail lines
      | none =>
        if opened.all id then line :: resolve holds text opened lines
        else resolve holds text opened lines := rfl

/-- Lines without `#else` are resolved as the lines of a declaration are. -/
theorem resolve_eq {lines : List α} (h : ∀ line ∈ lines, ofLine? (text line) ≠ some .turns) :
    resolve holds text opened lines = Condition.resolve holds text opened lines := by
  induction lines generalizing opened with
  | nil => rfl
  | cons line lines ih =>
    have hrest : ∀ opened, resolve holds text opened lines = Condition.resolve holds text opened lines :=
      fun _ => ih fun l hl => h l (List.mem_cons_of_mem _ hl)
    have hline := h line (by simp)
    rw [resolve_cons, Condition.resolve_cons, hrest, hrest]
    unfold ofLine? at hline ⊢
    split at hline
    · exact absurd rfl hline
    next helse =>
      rw [if_neg helse]
      split at hline <;> simp [*]

/-- Of plain lines all are left if the branches around them hold, and none otherwise. -/
theorem resolve_append {plain : List α} (h : ∀ line ∈ plain, IsPlain (text line)) (rest : List α) :
    resolve holds text opened (plain ++ rest)
      = (if opened.all id then plain else []) ++ resolve holds text opened rest := by
  induction plain with
  | nil => simp
  | cons line plain ih =>
    rw [List.cons_append, resolve_cons, ofLine?_of_isPlain (h line (by simp)),
      ih fun l hl => h l (List.mem_cons_of_mem _ hl)]
    dsimp only
    split <;> simp

theorem mem_of_mem_resolve {lines : List α} {line : α} (h : line ∈ resolve holds text opened lines) :
    line ∈ lines := by
  induction lines generalizing opened with
  | nil => exact h
  | cons first lines ih =>
    rw [resolve_cons] at h
    split at h
    · exact List.mem_cons_of_mem _ (ih h)
    · exact List.mem_cons_of_mem _ (ih h)
    · exact List.mem_cons_of_mem _ (ih h)
    · split at h
      · rcases List.mem_cons.mp h with rfl | h
        · exact List.mem_cons_self
        · exact List.mem_cons_of_mem _ (ih h)
      · exact List.mem_cons_of_mem _ (ih h)

/-- Plain lines under no condition all are left. -/
theorem resolve_of_isPlain {plain : List α} (h : ∀ line ∈ plain, IsPlain (text line)) :
    resolve holds text [] plain = plain := by
  have hall : resolve holds text [] (plain ++ []) = _ := resolve_append holds h []
  simpa using hall

end Resolve

end Branch

/-- The lines of a declaration are resolved to the same lines by both. -/
theorem Branch.resolve_numberedLines {t : TypeDef} {registers : List Register}
    {lines : List (String × Option Nat)} (hplain : DeclaresPlainly t registers)
    (h : numberedLines t registers = .ok lines) (holds : String → Bool) :
    Branch.resolve holds (·.1) [] lines = Condition.resolve holds (·.1) [] lines := by
  have htexts : declarationLines t registers = .ok (lines.map (·.1)) := by
    rw [← map_numberedLines, h]
    rfl
  refine resolve_eq holds fun line hline => ?_
  rcases cases_of_mem_declarationLines hplain htexts (List.mem_map.mpr ⟨line, hline, rfl⟩) with
    hplain | ⟨r, -, heq⟩ | heq
  · simp [ofLine?_of_isPlain hplain]
  · exact heq ▸ ofLine?_ne_turns (Condition.ofLine?_opening _)
  · exact heq ▸ ofLine?_ne_turns Condition.ofLine?_closing

/-! ## Marked lines -/

/-- Lines, each with the name of the member of the record that it reads or writes if it does. -/
abbrev MarkedLines := List (String × Option String)

/-- Whether a name stands in a line behind a point, as the name of a member does. -/
def NamesMember (line name : String) : Prop :=
  ∃ before source after, line = before ++ (source ++ "." ++ name) ++ after

/-- Lines with one mark. -/
def marked (mark : Option String) (lines : List String) : MarkedLines :=
  lines.map (·, mark)

@[simp] theorem map_fst_marked (mark : Option String) (lines : List String) :
    (marked mark lines).map (·.1) = lines := by
  simp [marked, Function.comp_def]

/-- Lines without a member name none. -/
theorem some_notMem_map_snd_marked (name : String) (lines : List String) :
    some name ∉ (marked none lines).map (·.2) := by
  simp [marked]

theorem isPlain_of_mem_marked {mark : Option String} {lines : List String} (h : ∀ line ∈ lines, IsPlain line) :
    ∀ line ∈ marked mark lines, IsPlain line.1 := by
  intro line hline
  obtain ⟨text, htext, rfl⟩ := List.mem_map.mp hline
  exact h text htext

/-- The lines of a function, its statement with the member that it names. -/
def ShaderFunction.markedLines (f : ShaderFunction) : MarkedLines :=
  marked none (f.remarks ++ [f.result ++ " " ++ f.name ++ "(" ++ f.parameters ++ ")", "\x7b"])
    ++ marked (some f.member) [indent ++ f.statement] ++ marked none ["\x7d"]

theorem ShaderFunction.map_fst_markedLines (f : ShaderFunction) : f.markedLines.map (·.1) = f.lines := by
  simp [ShaderFunction.markedLines, lines]

theorem ShaderFunction.some_mem_map_snd_markedLines_iff (f : ShaderFunction) (name : String) :
    some name ∈ f.markedLines.map (·.2) ↔ f.member = name := by
  simp [ShaderFunction.markedLines, marked, eq_comm]

/-- The lines of functions between a comment and an ending, with the members that they name. -/
def markedFunctions (remarks : List String) (functions : List ShaderFunction) (ending : List String) :
    MarkedLines :=
  if functions.isEmpty then []
  else marked none (bannerLines remarks) ++ functions.flatMap (·.markedLines) ++ marked none ending

theorem map_fst_markedFunctions (remarks : List String) (functions : List ShaderFunction)
    (ending : List String) :
    (markedFunctions remarks functions ending).map (·.1) = functionsLines remarks functions ending := by
  unfold markedFunctions functionsLines
  split <;> simp [List.map_flatMap, ShaderFunction.map_fst_markedLines]

theorem some_mem_map_snd_markedFunctions_iff {remarks ending : List String} {functions : List ShaderFunction}
    {name : String} :
    some name ∈ (markedFunctions remarks functions ending).map (·.2) ↔ ∃ f ∈ functions, f.member = name := by
  unfold markedFunctions
  split
  next hnone => simp [List.isEmpty_iff.mp hnone]
  next =>
    simp only [List.map_append, List.map_flatMap, List.mem_append, List.mem_flatMap, some_notMem_map_snd_marked,
      ShaderFunction.some_mem_map_snd_markedLines_iff, false_or, or_false]

/-- Plain functions name their members whatever holds. -/
theorem some_mem_resolve_markedFunctions_iff (holds : String → Bool) {remarks ending : List String}
    {functions : List ShaderFunction} (hplain : ∀ line ∈ functionsLines remarks functions ending, IsPlain line)
    (name : String) :
    some name ∈ (Branch.resolve holds (·.1) [] (markedFunctions remarks functions ending)).map (·.2)
      ↔ ∃ f ∈ functions, f.member = name := by
  have hlines : ∀ line ∈ markedFunctions remarks functions ending, IsPlain line.1 := by
    intro line hline
    refine hplain line.1 ?_
    rw [← map_fst_markedFunctions]
    exact List.mem_map.mpr ⟨line, hline, rfl⟩
  rw [Branch.resolve_of_isPlain holds hlines, some_mem_map_snd_markedFunctions_iff]

/-- The members that functions name stand in their lines. -/
theorem namesMember_of_mem_markedFunctions {remarks ending : List String} {functions : List ShaderFunction}
    (hnames : ∀ f ∈ functions, f.NamesMember) {line name : String}
    (h : (line, some name) ∈ markedFunctions remarks functions ending) : NamesMember line name := by
  unfold markedFunctions at h
  split at h
  · simp at h
  · simp only [marked, ShaderFunction.markedLines, List.mem_append, List.mem_map, List.mem_flatMap, Prod.mk.injEq,
      reduceCtorEq, and_false, exists_false, false_or, or_false, Option.some.injEq, List.mem_singleton] at h
    obtain ⟨f, hf, _, rfl, rfl, rfl⟩ := h
    obtain ⟨before, after, hstatement⟩ := hnames f hf
    exact ⟨indent ++ before, f.source, after, by rw [hstatement]; simp only [String.append_assoc]⟩

namespace DebugField

variable (f : DebugField) (source : String) (accessors : List Accessor)

/-- The member that an entry reads itself, none for an entry that calls a function. -/
def member? : Option String :=
  if f.getter ≠ "" then none
  else
    match findAccessor? accessors f.field with
    | some a => some a.register.display
    | none => some f.field.display

/-- The lines of the case that shows an entry, its result with the member that is read. -/
def markedCase : MarkedLines :=
  marked none ["        case " ++ f.define ++ ":"]
    ++ marked (f.member? accessors) ["            result = " ++ f.color (f.value source accessors) ++ ";"]
    ++ marked none ((if f.srgb then ["            needLinearToSRGB = true;"] else []) ++ ["            break;"])

/-- The lines of an entry. -/
def markedLines : MarkedLines :=
  if f.guard = "" then f.markedCase source accessors
  else marked none ["#if " ++ f.guard] ++ f.markedCase source accessors ++ marked none ["#else"]
    ++ marked none f.hiddenCase ++ marked none ["#endif"]

theorem map_fst_markedCase :
    (f.markedCase source accessors).map (·.1) = f.shownCase (f.value source accessors) := by
  simp [markedCase, shownCase]

theorem map_fst_markedLines :
    (f.markedLines source accessors).map (·.1) = f.caseLines (f.value source accessors) := by
  unfold markedLines caseLines
  split <;> simp [map_fst_markedCase]

theorem some_mem_map_snd_markedCase_iff (name : String) :
    some name ∈ (f.markedCase source accessors).map (·.2) ↔ f.member? accessors = some name := by
  unfold markedCase
  simp only [List.map_append, List.mem_append, some_notMem_map_snd_marked, false_or, or_false]
  simp only [marked, List.map_cons, List.map_nil, List.mem_singleton]
  exact eq_comm

variable {f source accessors}

theorem exists_value_eq {name : String} (h : f.member? accessors = some name) :
    ∃ after, f.value source accessors = source ++ "." ++ name ++ after := by
  unfold member? at h
  unfold value
  split at h
  · simp at h
  next hgetter =>
    rw [if_neg hgetter]
    cases hfound : findAccessor? accessors f.field with
    | some a =>
      rw [hfound] at h
      obtain rfl := Option.some.inj h
      exact exists_expression_eq a source "0"
    | none =>
      rw [hfound] at h
      obtain rfl := Option.some.inj h
      exact ⟨"", String.append_empty.symm⟩

theorem exists_color_eq (f : DebugField) (e : String) : ∃ before after, f.color e = before ++ e ++ after := by
  unfold color
  split
  · split
    · exact ⟨"", ".xxx * 0.5 + 0.5", by simp⟩
    · exact ⟨"", ".xxx", by simp⟩
  · exact ⟨"float3(", ", 0.0)", rfl⟩
  · split
    · refine ⟨"IsNormalized(", ")? " ++ e ++ " * 0.5 + 0.5 : float3(1.0, 0.0, 0.0)", ?_⟩
      simp only [String.append_assoc]
    · split
      · exact ⟨"", " * 0.5 + 0.5", by simp⟩
      · exact ⟨"", "", by simp⟩
  · exact ⟨"", ".xyz", by simp⟩
  · exact ⟨"(", ") ? float3(1.0, 1.0, 1.0) : float3(0.0, 0.0, 0.0)", rfl⟩
  · exact ⟨"GetIndexColor(", ")", rfl⟩

/-- The member that an entry reads stands in the line of its result. -/
theorem namesMember_of_mem_markedLines {line name : String}
    (h : (line, some name) ∈ f.markedLines source accessors) : NamesMember line name := by
  have hcase : (line, some name) ∈ f.markedCase source accessors := by
    unfold markedLines at h
    split at h
    · exact h
    · simpa [marked] using h
  simp only [markedCase, marked, List.map_cons, List.map_nil, List.mem_append, List.mem_singleton, List.mem_map,
    Prod.mk.injEq, reduceCtorEq, and_false, exists_false, false_or, or_false] at hcase
  obtain ⟨rfl, hmember⟩ := hcase
  obtain ⟨after, hvalue⟩ : ∃ after, f.value source accessors = source ++ "." ++ name ++ after :=
    exists_value_eq hmember.symm
  obtain ⟨before, behind, hcolor⟩ := f.exists_color_eq (f.value source accessors)
  refine ⟨"            result = " ++ before, source, after ++ behind ++ ";", ?_⟩
  rw [hcolor, hvalue]
  simp only [String.append_assoc]

/-- The case that hides an entry is plain if the one that shows it is. -/
theorem isPlain_hiddenCase {e : String} (h : ∀ line ∈ f.shownCase e, IsPlain line) :
    ∀ line ∈ f.hiddenCase, IsPlain line := by
  intro line hline
  simp only [hiddenCase, List.mem_cons, List.not_mem_nil, or_false] at hline
  rcases hline with rfl | rfl | rfl
  · exact h _ (by simp [shownCase])
  · decide
  · decide

section Steps

variable (holds : String → Bool) (mark : Option String) (opened : List Bool) (rest : MarkedLines)

theorem resolve_opening (guard : String) :
    Branch.resolve holds (·.1) opened (marked mark ["#if " ++ guard] ++ rest)
      = Branch.resolve holds (·.1) (holds guard :: opened) rest := by
  simp [marked, Branch.resolve_cons, Branch.ofLine?_opening]

theorem resolve_turning (branch : Bool) :
    Branch.resolve holds (·.1) (branch :: opened) (marked mark ["#else"] ++ rest)
      = Branch.resolve holds (·.1) ((!branch) :: opened) rest := by
  simp [marked, Branch.resolve_cons, Branch.ofLine?_turning]

theorem resolve_closing (branch : Bool) :
    Branch.resolve holds (·.1) (branch :: opened) (marked mark ["#endif"] ++ rest)
      = Branch.resolve holds (·.1) opened rest := by
  simp [marked, Branch.resolve_cons, Branch.ofLine?_closing]

end Steps

/-- The lines of an entry name its member where its guard is empty or holds, and what follows is not
concerned. -/
theorem some_mem_resolve_markedLines_iff (holds : String → Bool)
    (hplain : ∀ line ∈ f.shownCase (f.value source accessors), IsPlain line) (rest : MarkedLines)
    (name : String) :
    some name ∈ (Branch.resolve holds (·.1) [] (f.markedLines source accessors ++ rest)).map (·.2)
      ↔ (f.member? accessors = some name ∧ (f.guard = "" ∨ holds f.guard = true))
        ∨ some name ∈ (Branch.resolve holds (·.1) [] rest).map (·.2) := by
  have hshown : ∀ line ∈ f.markedCase source accessors, IsPlain line.1 := by
    intro line hline
    refine hplain line.1 ?_
    rw [← map_fst_markedCase]
    exact List.mem_map.mpr ⟨line, hline, rfl⟩
  have hhidden : ∀ line ∈ marked none f.hiddenCase, IsPlain line.1 :=
    isPlain_of_mem_marked (isPlain_hiddenCase hplain)
  unfold markedLines
  by_cases hguard : f.guard = ""
  · rw [if_pos hguard, Branch.resolve_append holds hshown, if_pos (by simp), List.map_append, List.mem_append,
      some_mem_map_snd_markedCase_iff]
    simp only [hguard, true_or, and_true]
  · rw [if_neg hguard]
    simp only [List.append_assoc]
    -- The case that shows the entry stands where its guard holds, the one that hides it where it does not.
    rw [resolve_opening, Branch.resolve_append holds hshown, resolve_turning,
      Branch.resolve_append holds hhidden, resolve_closing]
    cases hholds : holds f.guard with
    | false =>
      rw [if_neg (by simp), if_pos (by simp), List.nil_append, List.map_append, List.mem_append]
      simp only [some_notMem_map_snd_marked, hguard, Bool.false_eq_true, or_self, and_false]
    | true =>
      rw [if_pos (by simp), if_neg (by simp), List.nil_append, List.map_append, List.mem_append,
        some_mem_map_snd_markedCase_iff]
      simp only [or_true, and_true]

/-- The lines of entries name the members of those whose guards are empty or hold. -/
theorem some_mem_resolve_markedEntries_iff (holds : String → Bool) {fields : List DebugField}
    (hplain : ∀ f ∈ fields, ∀ line ∈ f.shownCase (f.value source accessors), IsPlain line) (rest : MarkedLines)
    (name : String) :
    some name ∈ (Branch.resolve holds (·.1) []
        (fields.flatMap (·.markedLines source accessors) ++ rest)).map (·.2)
      ↔ (∃ f ∈ fields, f.member? accessors = some name ∧ (f.guard = "" ∨ holds f.guard = true))
        ∨ some name ∈ (Branch.resolve holds (·.1) [] rest).map (·.2) := by
  induction fields with
  | nil => simp
  | cons f fields ih =>
    rw [List.flatMap_cons, List.append_assoc, some_mem_resolve_markedLines_iff holds (hplain f (by simp)),
      ih fun g hg => hplain g (List.mem_cons_of_mem _ hg)]
    simp [or_assoc]

end DebugField

/-! ## The debug view -/

/-- The lines in front of the entries of the debug view. -/
def debugHeader (typeName : String) : List String :=
  ["//", "// Debug functions", "//",
    "void " ++ debugFunctionName typeName ++ "(uint paramId, " ++ typeName ++ " " ++ Text.lower typeName
      ++ ", inout float3 result, inout bool needLinearToSRGB)",
    "\x7b", "    switch (paramId)", "    \x7b"]

/-- The lines behind the entries of the debug view. -/
def debugFooter : List String :=
  ["    \x7d", "\x7d", ""]

/-- The lines of the debug view, with the members that its entries read. -/
def markedDebug (typeName : String) (fields : List DebugField) (accessors : List Accessor) : MarkedLines :=
  marked none (debugHeader typeName) ++ fields.flatMap (·.markedLines (Text.lower typeName) accessors)
    ++ marked none debugFooter

theorem map_fst_markedDebug (typeName : String) (fields : List DebugField) (accessors : List Accessor) :
    (markedDebug typeName fields accessors).map (·.1) = debugFunctionLines typeName fields accessors ++ [""] := by
  simp [markedDebug, debugFunctionLines, debugHeader, debugFooter, List.map_flatMap,
    DebugField.map_fst_markedLines]

/-- Whether the guards are the only thing in the debug view that the preprocessor has to do with. -/
structure ShowsPlainly (typeName : String) (fields : List DebugField) (accessors : List Accessor) : Prop where
  header : ∀ line ∈ debugHeader typeName, IsPlain line
  entries : ∀ f ∈ fields, ∀ line ∈ f.shownCase (f.value (Text.lower typeName) accessors), IsPlain line

instance (typeName : String) (fields : List DebugField) (accessors : List Accessor) :
    Decidable (ShowsPlainly typeName fields accessors) :=
  decidable_of_iff (_ ∧ _) ⟨fun ⟨h, h'⟩ => ⟨h, h'⟩, fun h => ⟨h.header, h.entries⟩⟩

/-- A debug view in which nothing else is conditional names the members of those entries whose guards are empty
or hold. -/
theorem some_mem_resolve_markedDebug_iff (holds : String → Bool) {typeName : String} {fields : List DebugField}
    {accessors : List Accessor} (hplain : ShowsPlainly typeName fields accessors) (name : String) :
    some name ∈ (Branch.resolve holds (·.1) [] (markedDebug typeName fields accessors)).map (·.2)
      ↔ ∃ f ∈ fields, f.member? accessors = some name ∧ (f.guard = "" ∨ holds f.guard = true) := by
  have hfooter : ∀ line ∈ marked none debugFooter, IsPlain line.1 := isPlain_of_mem_marked (by decide)
  rw [markedDebug, List.append_assoc, Branch.resolve_append holds (isPlain_of_mem_marked hplain.header),
    if_pos (by simp), List.map_append, List.mem_append,
    DebugField.some_mem_resolve_markedEntries_iff holds hplain.entries, Branch.resolve_of_isPlain holds hfooter]
  simp only [some_notMem_map_snd_marked, false_or, or_false]

/-- The members that the debug view names stand in its lines. -/
theorem namesMember_of_mem_markedDebug {typeName : String} {fields : List DebugField}
    {accessors : List Accessor} {line name : String}
    (h : (line, some name) ∈ markedDebug typeName fields accessors) : NamesMember line name := by
  simp only [markedDebug, List.mem_append, List.mem_flatMap] at h
  rcases h with (hheader | ⟨f, -, hentry⟩) | hfooter
  · simp [marked] at hheader
  · exact DebugField.namesMember_of_mem_markedLines hentry
  · simp [marked] at hfooter

/-- No line of an entry has a line end in it if its guard has none. -/
theorem DebugField.lineEnd_notMem_caseLines {f : DebugField} {e : String}
    (hplain : ∀ line ∈ f.shownCase e, IsPlain line) (hguard : '\n' ∉ f.guard.toList) :
    ∀ line ∈ f.caseLines e, '\n' ∉ line.toList := by
  intro line hline
  unfold caseLines at hline
  split at hline
  · exact (hplain line hline).whole
  · simp only [List.mem_append, List.mem_singleton] at hline
    rcases hline with (((rfl | hshown) | rfl) | hhidden) | rfl
    · rw [String.toList_append, List.mem_append, not_or]
      exact ⟨by decide, hguard⟩
    · exact (hplain line hshown).whole
    · decide
    · exact (isPlain_hiddenCase hplain line hhidden).whole
    · decide

/-- No line of the debug view has a line end in it if no guard has. -/
theorem lineEnd_notMem_markedDebug {typeName : String} {fields : List DebugField} {accessors : List Accessor}
    (hplain : ShowsPlainly typeName fields accessors) (hguards : ∀ f ∈ fields, '\n' ∉ f.guard.toList) :
    ∀ line ∈ (markedDebug typeName fields accessors).map (·.1), '\n' ∉ line.toList := by
  intro line hline
  rw [markedDebug, List.map_append, List.map_append, map_fst_marked, map_fst_marked, List.map_flatMap,
    List.mem_append, List.mem_append] at hline
  rcases hline with (hheader | hentry) | hfooter
  · exact (hplain.header line hheader).whole
  · obtain ⟨f, hf, hline⟩ := List.mem_flatMap.mp hentry
    rw [DebugField.map_fst_markedLines] at hline
    exact DebugField.lineEnd_notMem_caseLines (hplain.entries f hf) (hguards f hf) line hline
  · exact (show ∀ line ∈ debugFooter, '\n' ∉ line.toList by decide) line hfooter

end ShaderRecords
