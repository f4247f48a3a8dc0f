/-
ShaderRecords.Proofs.Include.ShaderFunctions — the functions that the pieces of a type consist of.

A type has functions for three purposes: they read, set or initialize a part of a record. For each purpose
there are two pieces, one with the functions of ordinary fields and one with those of packed values. A function
is taken apart here into its name, its signature and its one statement, which names one member of the record
(`ShaderFunction`), and a piece is a comment with functions below it (`functionsLines`).

`RecordView.IsWritten` says of the pieces of a type what their texts are, and those of a type whose layouts have
value types are as it says (`RecordView.isWritten_of_fragments`). What a function is noted to name does stand in
its statement, behind the name of the record (`namesMember_of_ordinaryFunction`,
`namesMember_of_packedFunction`).
-/
import ShaderRecords.Proofs.Include.Conditions
import ShaderRecords.Proofs.Include.Functions

namespace ShaderRecords

/-! ## Functions -/

/-- What a function does with the record that it is given: it reads a part of it, or writes into it. -/
inductive Purpose where
  | read
  | write (mode : WriteMode)
deriving Repr, DecidableEq

namespace Purpose

/-- All purposes. -/
def all : List Purpose := [read, write .set, write .fill]

theorem mem_all (purpose : Purpose) : purpose ∈ all := by
  obtain _ | (_ | _) := purpose <;> decide

/-- The first word of the names of the functions. -/
def verb : Purpose → String
  | read => "Get"
  | write mode => mode.verb

/-- The kind of the piece for ordinary fields. -/
def ordinaryKind : Purpose → FragmentKind
  | read => .accessors
  | write .set => .setters
  | write .fill => .initializers

/-- The kind of the piece for packed values. -/
def packedKind : Purpose → FragmentKind
  | read => .packedGetters
  | write .set => .packedSetters
  | write .fill => .packedInitializers

/-- The comment above the functions of ordinary fields. -/
def ordinaryRemarks (t : TypeDef) : Purpose → List String
  | read => ["Accessors for " ++ t.fullName.display]
  | write mode => [mode.plural ++ " for " ++ t.fullName.display]

/-- The comment above the functions of packed values. -/
def packedRemarks : Purpose → List String
  | read => ["Accessors for packed fields"]
  | write .set => ["Setters for packed fields"]
  | write .fill =>
    ["Init functions for packed fields.",
      "Important: Init functions assume the field is filled with 0s, use setters otherwise."]

/-- What follows the functions of packed values. -/
def packedEnding : Purpose → List String
  | write .fill => [""]
  | _ => []

/-- Whether a type asks for functions of its ordinary fields. -/
def isAskedBy (t : TypeDef) : Purpose → Bool
  | read => t.needsAccessors
  | write _ => t.needsAccessors && t.needsSetters

end Purpose

/-- A function of one statement. -/
structure ShaderFunction where
  /-- The comments above the function. -/
  remarks : List String := []
  result : String
  name : String
  parameters : String
  /-- The name of the parameter that is the record. -/
  source : String
  /-- The name of the member of the record that the statement reads or writes. -/
  member : String
  statement : String
deriving Repr, DecidableEq

namespace ShaderFunction

variable (f : ShaderFunction)

/-- The lines of a function. -/
def lines : List String :=
  f.remarks ++ [f.result ++ " " ++ f.name ++ "(" ++ f.parameters ++ ")", "\x7b", indent ++ f.statement, "\x7d"]

/-- The text of a function. -/
def text : String :=
  unlines f.lines

/-- Whether the member that is noted stands in the statement, behind the name of the record. -/
def NamesMember : Prop :=
  ∃ before after, f.statement = before ++ (f.source ++ "." ++ f.member) ++ after

end ShaderFunction

/-- The lines of a comment that stands out. -/
def bannerLines (lines : List String) : List String :=
  "//" :: lines.map ("// " ++ ·) ++ ["//"]

/-- The lines of functions between a comment and an ending; none if there are no functions. -/
def functionsLines (remarks : List String) (functions : List ShaderFunction) (ending : List String) :
    List String :=
  if functions.isEmpty then [] else bannerLines remarks ++ functions.flatMap (·.lines) ++ ending

/-- The function for a purpose and an ordinary field. -/
def ordinaryFunction (purpose : Purpose) (typeName : String) (f : Field) (a : Accessor) :
    Except Breakdown ShaderFunction := do
  let name := purpose.verb ++ Identifier.capitalized (← f.name.asText)
  let isArray := a.arraySize.toInt > 0
  let element := if isArray then a.expression "value" "index" else a.expression "value"
  let index := if isArray then ", int index" else ""
  match purpose with
  | .read =>
    return {
      result := f.typeSpelling.display
      name := name
      parameters := typeName ++ " value" ++ index
      source := "value"
      member := a.register.display
      statement := "return " ++ element ++ ";" }
  | .write mode =>
    return {
      remarks := if mode = .fill then ["// Valid only on zero-initialized storage."] else []
      result := "void"
      name := name
      parameters := f.typeSpelling.display ++ " newValue, inout " ++ typeName ++ " value" ++ index
      source := "value"
      member := a.register.display
      statement := element ++ " = newValue;" }

/-- The function for a purpose and a packed value; none for a layout without a value type. -/
def packedFunction (n : RecordNames) (l : Layout Number) :
    Purpose → Except Breakdown (Option ShaderFunction)
  | .read => do
    match l.valueType?, ← l.getter? with
    | some valueType, some e =>
      let body ← e.render (n.stored l) ""
      return some {
        result := valueType
        name := "Get" ++ l.label.display
        parameters := "in " ++ n.typeName ++ " " ++ n.source
        source := n.source
        member := l.field.display
        statement := "return " ++ body ++ ";" }
    | _, _ => return none
  | .write mode => do
    match l.valueType? with
    | some valueType =>
      let name ← l.label.asText
      let statement ← (← l.store mode).render (n.stored l) ("new" ++ name)
      return some {
        result := "void"
        name := mode.verb ++ name
        parameters := valueType ++ " new" ++ name ++ ", inout " ++ n.typeName ++ " " ++ n.source
        source := n.source
        member := l.field.display
        statement := statement }
    | none => return none

/-- The text of the pieces of a kind. -/
def Fragment.textOf (kind : FragmentKind) (fs : List Fragment) : String :=
  String.join ((fs.filter (·.kind = kind)).map (·.text))

namespace RecordView

variable (v : RecordView)

/-- The functions of a type for a purpose and its ordinary fields. -/
def ordinaryFunctions (purpose : Purpose) : Except Breakdown (List ShaderFunction) := do
  if !(purpose.isAskedBy v.typeDef && v.extracted.hasFields) then return []
  (← ordinaryFields v.registers v.packedNames).mapM fun p => ordinaryFunction purpose v.name p.1 p.2

/-- Whether functions are those of a type for a purpose and its packed values, one for each layout. -/
def ArePacked (purpose : Purpose) (functions : List ShaderFunction) : Prop :=
  List.Forall₂ (fun l f => packedFunction v.names l purpose = .ok (some f)) v.layouts functions

/-- The kind of the piece with the debug view. -/
def debugKind : FragmentKind :=
  if v.layouts.isEmpty then .debug else .packedDebug

/-- Whether the two pieces of a type for a purpose consist of given functions. -/
structure Writes (fs : List Fragment) (purpose : Purpose) (ordinary packed : List ShaderFunction) : Prop where
  ordinary_eq : v.ordinaryFunctions purpose = .ok ordinary
  ordinaryText_eq : Fragment.textOf purpose.ordinaryKind fs
    = unlines (functionsLines (purpose.ordinaryRemarks v.typeDef) ordinary [])
  arePacked : v.ArePacked purpose packed
  packedText_eq : Fragment.textOf purpose.packedKind fs
    = unlines (functionsLines purpose.packedRemarks packed purpose.packedEnding)

/-- Whether the texts of pieces are those of a type. -/
structure IsWritten (fs : List Fragment) : Prop where
  functions : ∀ purpose, ∃ ordinary packed, v.Writes fs purpose ordinary packed
  debug : v.debug = .ok (Fragment.textOf v.debugKind fs)

end RecordView

/-! ## Texts -/

theorem unlines_append (xs ys : List String) : unlines (xs ++ ys) = unlines xs ++ unlines ys := by
  simp [unlines]

theorem unlines_cons (x : String) (xs : List String) : unlines (x :: xs) = x ++ "\n" ++ unlines xs := by
  simp [unlines]

theorem unlines_flatMap {α : Type} (f : α → List String) (xs : List α) :
    unlines (xs.flatMap f) = String.join (xs.map fun x => unlines (f x)) := by
  induction xs with
  | nil => rfl
  | cons x xs ih => rw [List.flatMap_cons, unlines_append, ih, List.map_cons, String.join_cons]

theorem functionText_eq (signature statement : String) :
    functionText signature statement = unlines [signature, "\x7b", indent ++ statement, "\x7d"] := by
  have hopening : "\n\x7b\n" = "\n" ++ ("\x7b" ++ "\n") := by decide
  have hclosing : "\n\x7d\n" = "\n" ++ ("\x7d" ++ "\n") := by decide
  simp only [functionText, unlines, hopening, hclosing, String.append_assoc, List.map_cons, List.map_nil,
    String.join_cons, String.join_nil, String.append_empty]

theorem banner_eq (lines : List String) : banner lines = unlines (bannerLines lines) := by
  have hmark : "//\n" = "//" ++ "\n" := by decide
  simp [banner, bannerLines, unlines, hmark, String.append_assoc, Function.comp_def]

/-- A piece with functions. -/
theorem banner_functions_eq (remarks ending : List String) {functions : List ShaderFunction}
    (h : functions.isEmpty = false) :
    banner remarks ++ String.join (functions.map (·.text)) ++ unlines ending
      = unlines (functionsLines remarks functions ending) := by
  have htexts : String.join (functions.map (·.text)) = unlines (functions.flatMap (·.lines)) :=
    (unlines_flatMap _ _).symm
  rw [functionsLines, h, if_neg (by simp), unlines_append, unlines_append, banner_eq, htexts]

theorem getterText_eq (typeName : String) (f : Field) (a : Accessor) :
    getterText typeName f a = ShaderFunction.text <$> ordinaryFunction .read typeName f a := by
  unfold getterText ordinaryFunction
  cases f.name.asText with
  | error b => rfl
  | ok name =>
    by_cases harray : a.arraySize.toInt > 0
    · simp [harray, functionText_eq, ShaderFunction.text, ShaderFunction.lines, Purpose.verb, String.append_assoc]
    · simp [harray, functionText_eq, ShaderFunction.text, ShaderFunction.lines, Purpose.verb, String.append_assoc]

theorem setterText_eq (mode : WriteMode) (typeName : String) (f : Field) (a : Accessor) :
    setterText mode typeName f a = ShaderFunction.text <$> ordinaryFunction (.write mode) typeName f a := by
  unfold setterText ordinaryFunction
  cases f.name.asText with
  | error b => rfl
  | ok name =>
    cases mode with
    | set =>
      simp [functionText_eq, ShaderFunction.text, ShaderFunction.lines, Purpose.verb]
    | fill =>
      have hremark : "// Valid only on zero-initialized storage.\n"
          = "// Valid only on zero-initialized storage." ++ "\n" := by decide
      simp [functionText_eq, ShaderFunction.text, ShaderFunction.lines, Purpose.verb, unlines_cons, hremark]

/-! ## Members -/

/-- The expression for a field begins with the member that the field is a part of. -/
theorem exists_expression_eq (a : Accessor) (source index : String) :
    ∃ after, a.expression source index = source ++ "." ++ a.register.display ++ after := by
  unfold Accessor.expression
  exact ⟨_, by rw [String.append_assoc]⟩

/-- The function for an ordinary field has the name of the field, and its statement names the member that the
field is a part of. -/
theorem spec_of_ordinaryFunction {purpose : Purpose} {typeName : String} {f : Field} {a : Accessor}
    {g : ShaderFunction} (h : ordinaryFunction purpose typeName f a = .ok g) :
    f.name = .text f.name.display ∧ g.name = purpose.verb ++ Identifier.capitalized f.name.display
      ∧ g.member = a.register.display ∧ g.NamesMember := by
  unfold ordinaryFunction at h
  obtain ⟨name, hname, h⟩ := bind_eq_ok_iff.mp h
  have helement : ∃ after, (if a.arraySize.toInt > 0 then a.expression "value" "index" else a.expression "value")
      = "value" ++ "." ++ a.register.display ++ after := by
    split <;> exact exists_expression_eq a _ _
  obtain ⟨after, helement⟩ := helement
  have hdisplay : name = f.name.display := (Value.display_of_asText hname).symm
  subst hdisplay
  cases purpose with
  | read =>
    obtain rfl := Except.ok.inj h
    refine ⟨Value.eq_text_of_asText hname, rfl, rfl, "return ", after ++ ";", ?_⟩
    simp only [helement, String.append_assoc]
  | write mode =>
    obtain rfl := Except.ok.inj h
    refine ⟨Value.eq_text_of_asText hname, rfl, rfl, "", after ++ " = newValue;", ?_⟩
    simp only [helement, String.append_assoc, String.empty_append]

/-- Whether the storage word is read in an expression, which then is its first operand or in that one. -/
def Formula.ReadsStored {α : Type} : Formula α → Prop
  | .stored => True
  | .call _ x | .call3 _ x _ _ | .binary _ x _ | .group x | .toUint x => x.ReadsStored
  | .argument | .constant _ | .whole _ | .wholeFloat _ | .wholeUint _ => False

/-- What stands for the storage word stands in the text of an expression that reads it. -/
theorem Formula.ReadsStored.exists_render_eq {e : Formula Number} (h : e.ReadsStored) {stored argument : String}
    {text : String} (htext : e.render stored argument = .ok text) :
    ∃ before after, text = before ++ stored ++ after := by
  induction e generalizing text with
  | stored =>
    obtain rfl := Except.ok.inj htext
    exact ⟨"", "", by simp⟩
  | argument | constant _ | whole _ | wholeFloat _ | wholeUint _ => exact h.elim
  | call f x ih =>
    obtain ⟨inner, hinner, htext⟩ := bind_eq_ok_iff.mp htext
    obtain rfl := Except.ok.inj htext
    obtain ⟨before, after, rfl⟩ := ih h hinner
    exact ⟨f.name ++ "(" ++ before, after ++ ")", by simp only [String.append_assoc]⟩
  | call3 f x y z ih =>
    obtain ⟨inner, hinner, htext⟩ := bind_eq_ok_iff.mp htext
    obtain ⟨second, -, htext⟩ := bind_eq_ok_iff.mp htext
    obtain ⟨third, -, htext⟩ := bind_eq_ok_iff.mp htext
    obtain rfl := Except.ok.inj htext
    obtain ⟨before, after, rfl⟩ := ih h hinner
    exact ⟨f.name ++ "(" ++ before, after ++ ", " ++ second ++ ", " ++ third ++ ")",
      by simp only [String.append_assoc]⟩
  | binary op x y ih =>
    obtain ⟨inner, hinner, htext⟩ := bind_eq_ok_iff.mp htext
    obtain ⟨second, -, htext⟩ := bind_eq_ok_iff.mp htext
    obtain rfl := Except.ok.inj htext
    obtain ⟨before, after, rfl⟩ := ih h hinner
    exact ⟨before, after ++ " " ++ op.sign ++ " " ++ second, by simp only [String.append_assoc]⟩
  | group x ih =>
    obtain ⟨inner, hinner, htext⟩ := bind_eq_ok_iff.mp htext
    obtain rfl := Except.ok.inj htext
    obtain ⟨before, after, rfl⟩ := ih h hinner
    exact ⟨"(" ++ before, after ++ ")", by simp only [String.append_assoc]⟩
  | toUint x ih =>
    obtain ⟨inner, hinner, htext⟩ := bind_eq_ok_iff.mp htext
    obtain rfl := Except.ok.inj htext
    obtain ⟨before, after, rfl⟩ := ih h hinner
    exact ⟨"(uint)" ++ before, after, by simp only [String.append_assoc]⟩

namespace Layout

variable {l : Layout Number}

theorem readsStored_of_decoded {e e' : Formula Number} (he : e.ReadsStored) (h : l.decoded e = .ok e') :
    e'.ReadsStored := by
  unfold decoded at h
  split at h
  · exact Except.ok.inj h ▸ he
  · obtain ⟨length, -, h⟩ := bind_eq_ok_iff.mp h
    dsimp only at h
    split at h
    · exact Except.ok.inj h ▸ he
    · exact Except.ok.inj h ▸ he

/-- The expression that reads a value reads the storage word. -/
theorem readsStored_of_getter? {e : Formula Number} (h : l.getter? = .ok (some e)) : e.ReadsStored := by
  have hdecoded : ∀ {e'}, Formula.ReadsStored e' → some <$> l.decoded e' = .ok (some e) → e.ReadsStored := by
    intro e' he' h
    obtain ⟨e'', hdecoded, heq⟩ := exists_of_map_eq_ok h
    exact Option.some.inj heq ▸ readsStored_of_decoded he' hdecoded
  unfold getter? at h
  split at h
  · simp at h
  · split at h
    · exact hdecoded (by trivial) h
    · dsimp only at h
      split at h
      · obtain ⟨mask, -, h⟩ := bind_eq_ok_iff.mp h
        exact hdecoded (by trivial) h
      · exact Option.some.inj (Except.ok.inj h) ▸ trivial
    · exact hdecoded (by trivial) h
    · exact Option.some.inj (Except.ok.inj h) ▸ trivial

end Layout

/-- A statement that writes begins with the storage word. -/
theorem Store.exists_render_eq {store : Store Number} {stored argument text : String}
    (h : store.render stored argument = .ok text) : ∃ after, text = stored ++ after := by
  cases store with
  | assign x =>
    obtain ⟨value, -, h⟩ := bind_eq_ok_iff.mp h
    obtain rfl := Except.ok.inj h
    exact ⟨" = " ++ value ++ ";", by simp only [String.append_assoc]⟩
  | orAssign x =>
    obtain ⟨value, -, h⟩ := bind_eq_ok_iff.mp h
    obtain rfl := Except.ok.inj h
    exact ⟨" |= " ++ value ++ ";", by simp only [String.append_assoc]⟩

/-- The function for a packed value has the name of the value, and its statement names the member that stores
the value. -/
theorem spec_of_packedFunction {n : RecordNames} {l : Layout Number} {purpose : Purpose} {g : ShaderFunction}
    (h : packedFunction n l purpose = .ok (some g)) :
    g.name = purpose.verb ++ l.label.display ∧ g.member = l.field.display ∧ g.NamesMember := by
  cases purpose with
  | read =>
    obtain ⟨e, he, h⟩ := bind_eq_ok_iff.mp h
    split at h
    next valueType formula _ =>
      obtain ⟨body, hbody, h⟩ := bind_eq_ok_iff.mp h
      obtain rfl := Option.some.inj (Except.ok.inj h)
      obtain ⟨before, after, rfl⟩ := (Layout.readsStored_of_getter? he).exists_render_eq hbody
      refine ⟨rfl, rfl, "return " ++ before, after ++ ";", ?_⟩
      simp only [RecordNames.stored, String.append_assoc]
    · simp at h
  | write mode =>
    unfold packedFunction at h
    dsimp only at h
    split at h
    next valueType _ =>
      obtain ⟨name, hname, h⟩ := bind_eq_ok_iff.mp h
      obtain ⟨store, -, h⟩ := bind_eq_ok_iff.mp h
      obtain ⟨statement, hstatement, h⟩ := bind_eq_ok_iff.mp h
      obtain rfl := Option.some.inj (Except.ok.inj h)
      obtain ⟨after, rfl⟩ := Store.exists_render_eq hstatement
      refine ⟨by rw [Value.display_of_asText hname]; rfl, rfl, "", after, ?_⟩
      simp only [RecordNames.stored, String.append_assoc, String.empty_append]
    · simp at h

/-! ## Pieces -/

theorem mapM_map_ok {α β γ : Type} (f : α → Except Breakdown β) (g : β → γ) (xs : List α) :
    (xs.mapM fun x => g <$> f x) = List.map g <$> xs.mapM f := by
  induction xs with
  | nil => rfl
  | cons x xs ih =>
    rw [List.mapM_cons, List.mapM_cons, ih]
    cases f x with
    | error b => rfl
    | ok y => cases xs.mapM f <;> rfl

namespace RecordView

variable {v : RecordView}

/-- The functions of ordinary fields behind their comment. -/
theorem ordinaryText_eq (purpose : Purpose) {write : Field × Accessor → Except Breakdown String}
    (hwrite : ∀ p, write p = ShaderFunction.text <$> ordinaryFunction purpose v.name p.1 p.2)
    (fields : List (Field × Accessor)) :
    (do
      if fields.isEmpty then return ""
      let functions ← fields.mapM write
      return banner (purpose.ordinaryRemarks v.typeDef) ++ String.join functions)
      = (fun functions => unlines (functionsLines (purpose.ordinaryRemarks v.typeDef) functions []))
        <$> fields.mapM fun p => ordinaryFunction purpose v.name p.1 p.2 := by
  rw [funext hwrite, mapM_map_ok]
  cases hfunctions : fields.mapM fun p => ordinaryFunction purpose v.name p.1 p.2 with
  | error b =>
    cases fields with
    | nil => simp at hfunctions
    | cons p fields => rfl
  | ok functions =>
    have hlength := (mapM_eq_ok_iff.mp hfunctions).length_eq
    cases fields with
    | nil =>
      obtain rfl := List.length_eq_zero_iff.mp hlength.symm
      rfl
    | cons p fields =>
      have hsome : functions.isEmpty = false := by
        cases functions <;> simp at hlength ⊢
      have htext := banner_functions_eq (purpose.ordinaryRemarks v.typeDef) [] hsome
      simp only [unlines, List.map_nil, String.join_nil, String.append_empty] at htext
      exact congrArg Except.ok htext

theorem getters_eq : v.getters = (fun functions => unlines (functionsLines
    (Purpose.read.ordinaryRemarks v.typeDef) functions [])) <$> v.ordinaryFunctions .read := by
  unfold getters gettersText ordinaryFunctions
  rw [Purpose.isAskedBy]
  split
  · rfl
  · cases ordinaryFields v.registers v.packedNames with
    | error b => rfl
    | ok fields => exact ordinaryText_eq .read (fun p => getterText_eq v.name p.1 p.2) fields

theorem setters_eq (mode : WriteMode) : v.setters mode = (fun functions => unlines (functionsLines
    ((Purpose.write mode).ordinaryRemarks v.typeDef) functions [])) <$> v.ordinaryFunctions (.write mode) := by
  unfold setters settersText ordinaryFunctions
  rw [Purpose.isAskedBy]
  split
  · rfl
  · cases ordinaryFields v.registers v.packedNames with
    | error b => rfl
    | ok fields => exact ordinaryText_eq (.write mode) (fun p => setterText_eq mode v.name p.1 p.2) fields

section Packed

variable {n : RecordNames} {l : Layout Number} {layouts : List (Layout Number)} {s told : Untyped}
  {text : String}

theorem packedFunction_of_packedGetter (htype : l.valueType?.isSome = true)
    (h : (packedGetter n l).run.run s = (.ok text, told)) :
    ∃ f, packedFunction n l .read = .ok (some f) ∧ text = f.text := by
  obtain ⟨valueType, e, body, hvalue, hgetter, hbody, rfl⟩ := exists_of_packedGetter htype h
  refine ⟨_, by simp [packedFunction, hvalue, hgetter, hbody]; rfl, ?_⟩
  have hname : " Get" = " " ++ "Get" := by decide
  have hparameter : "(in " = "(" ++ "in " := by decide
  simp only [functionText_eq, ShaderFunction.text, ShaderFunction.lines, hname, hparameter, String.append_assoc,
    List.nil_append]

theorem packedFunction_of_packedSetter {mode : WriteMode} (htype : l.valueType?.isSome = true)
    (h : (packedSetter mode n l).run.run s = (.ok text, told)) :
    ∃ f, packedFunction n l (.write mode) = .ok (some f) ∧ text = f.text := by
  obtain ⟨valueType, name, store, statement, hvalue, hname, hstore, hrender, rfl⟩ := exists_of_packedSetter htype h
  refine ⟨_, by simp [packedFunction, hvalue, hname, hstore, hrender]; rfl, ?_⟩
  have hvoid : "void " = "void" ++ " " := by decide
  have hnew : " new" = " " ++ "new" := by decide
  simp only [functionText_eq, ShaderFunction.text, ShaderFunction.lines, hvoid, hnew, String.append_assoc,
    List.nil_append]

theorem ArePacked.isEmpty_eq {purpose : Purpose} {functions : List ShaderFunction}
    (h : v.ArePacked purpose functions) : functions.isEmpty = v.layouts.isEmpty := by
  have hlength : v.layouts.length = functions.length := h.length_eq
  cases functions <;> cases hlayouts : v.layouts <;> simp [hlayouts] at hlength ⊢

/-- What is written for layouts one by one is written by functions for each of them. -/
theorem exists_functions_of_mapM (purpose : Purpose) {write : Layout Number → Emitting String}
    (hwrite : ∀ l ∈ v.layouts, ∀ s told text, (write l).run.run s = (.ok text, told) →
      ∃ f, packedFunction v.names l purpose = .ok (some f) ∧ text = f.text)
    {texts : List String} (h : (v.layouts.mapM write).run.run s = (.ok texts, told)) :
    ∃ functions, v.ArePacked purpose functions ∧ texts = functions.map (·.text) := by
  have hall := forall₂_of_run_mapM hwrite h
  clear h hwrite
  unfold ArePacked
  generalize v.layouts = layouts at hall ⊢
  induction hall with
  | nil => exact ⟨[], .nil, rfl⟩
  | cons hfirst _ ih =>
    obtain ⟨f, hf, rfl⟩ := hfirst
    obtain ⟨functions, hfunctions, rfl⟩ := ih
    exact ⟨f :: functions, .cons hf hfunctions, rfl⟩

variable (htypes : ∀ l ∈ v.layouts, l.valueType?.isSome = true) (hlayouts : v.layouts.isEmpty = false)

include htypes hlayouts

theorem exists_functions_of_packedGetters (h : (packedGetters v.names v.layouts).run.run s = (.ok text, told)) :
    ∃ functions, v.ArePacked .read functions
      ∧ text = unlines (functionsLines Purpose.read.packedRemarks functions Purpose.read.packedEnding) := by
  obtain ⟨texts, htexts, rfl⟩ := exists_of_packedGetters hlayouts h
  obtain ⟨functions, hfunctions, rfl⟩ := exists_functions_of_mapM .read
    (fun l hl _ _ _ => packedFunction_of_packedGetter (htypes l hl)) htexts
  refine ⟨functions, hfunctions, ?_⟩
  rw [← banner_functions_eq _ _ (hfunctions.isEmpty_eq.trans hlayouts)]
  exact (String.append_empty).symm

theorem exists_functions_of_packedSetters {mode : WriteMode}
    (h : (packedSetters mode v.names v.layouts).run.run s = (.ok text, told)) :
    ∃ functions, v.ArePacked (.write mode) functions
      ∧ text = unlines (functionsLines (Purpose.write mode).packedRemarks functions
        (Purpose.write mode).packedEnding) := by
  obtain ⟨texts, htexts, rfl⟩ := exists_of_packedSetters hlayouts h
  obtain ⟨functions, hfunctions, rfl⟩ := exists_functions_of_mapM (.write mode)
    (fun l hl _ _ _ => packedFunction_of_packedSetter (htypes l hl)) htexts
  refine ⟨functions, hfunctions, ?_⟩
  rw [← banner_functions_eq _ _ (hfunctions.isEmpty_eq.trans hlayouts)]
  cases mode <;> rfl

end Packed

/-! ## All pieces -/

@[simp] theorem textOf_append (kind : FragmentKind) (fs gs : List Fragment) :
    Fragment.textOf kind (fs ++ gs) = Fragment.textOf kind fs ++ Fragment.textOf kind gs := by
  simp [Fragment.textOf]

@[simp] theorem textOf_piece (kind other : FragmentKind) (owner : Int) (text : String) :
    Fragment.textOf kind (piece owner other text) = if other = kind then text else "" := by
  unfold piece Fragment.textOf
  by_cases hkind : other = kind <;> by_cases htext : text = "" <;> simp [hkind, htext]

/-- The texts of the pieces for packed values, and of the debug view. -/
theorem exists_texts_of_packedPieces {owner : Int} {s told : Untyped} {fs : List Fragment}
    (htypes : ∀ l ∈ v.layouts, l.valueType?.isSome = true)
    (h : (v.packedPieces owner).run.run s = (.ok fs, told)) :
    (∀ purpose : Purpose, ∃ functions, v.ArePacked purpose functions ∧ Fragment.textOf purpose.packedKind fs
        = unlines (functionsLines purpose.packedRemarks functions purpose.packedEnding))
      ∧ v.debug = .ok (Fragment.textOf v.debugKind fs)
      ∧ ∀ purpose : Purpose, Fragment.textOf purpose.ordinaryKind fs = "" := by
  cases hlayouts : v.layouts.isEmpty with
  | true =>
    obtain ⟨debug, hdebug, rfl⟩ := exists_of_packedPieces_of_isEmpty hlayouts h
    refine ⟨fun purpose => ⟨[], ?_, ?_⟩, ?_, fun purpose => ?_⟩
    · rw [ArePacked, List.isEmpty_iff.mp hlayouts]
      exact .nil
    · obtain _ | (_ | _) := purpose <;> simp [Purpose.packedKind, functionsLines, unlines]
    · simp [debugKind, hlayouts, hdebug]
    · obtain _ | (_ | _) := purpose <;> simp [Purpose.ordinaryKind]
  | false =>
    obtain ⟨_, _, _, _, _, _, _, hgetters, hsetters, hinitializers, hdebug, rfl⟩ :=
      exists_of_packedPieces hlayouts h
    refine ⟨fun purpose => ?_, ?_, fun purpose => ?_⟩
    · obtain _ | (_ | _) := purpose
      · simpa [Purpose.packedKind] using exists_functions_of_packedGetters htypes hlayouts hgetters
      · simpa [Purpose.packedKind] using exists_functions_of_packedSetters htypes hlayouts hsetters
      · simpa [Purpose.packedKind] using exists_functions_of_packedSetters htypes hlayouts hinitializers
    · simp [debugKind, hlayouts, hdebug]
    · obtain _ | (_ | _) := purpose <;> simp [Purpose.ordinaryKind]

/-- The pieces of a type whose layouts have value types are written as the type says. -/
theorem isWritten_of_fragments {owner : Int} {s told : Untyped} {fs : List Fragment}
    (htypes : ∀ l ∈ v.layouts, l.valueType?.isSome = true)
    (h : (v.fragments owner).run.run s = (.ok fs, told)) : v.IsWritten fs := by
  obtain ⟨_, _, _, _, _, -, hgetters, hsetters, hinitializers, hpacked, rfl⟩ := exists_of_fragments h
  obtain ⟨hfunctions, hdebug, hnone⟩ := exists_texts_of_packedPieces htypes hpacked
  refine ⟨fun purpose => ?_, ?_⟩
  · obtain ⟨functions, harePacked, htext⟩ := hfunctions purpose
    have hrest := hnone purpose
    obtain _ | (_ | _) := purpose
    · obtain ⟨ordinary, hread, rfl⟩ := exists_of_map_eq_ok (getters_eq ▸ hgetters)
      exact ⟨ordinary, functions, hread, by simpa [Purpose.ordinaryKind] using hrest, harePacked,
        by simpa [Purpose.packedKind] using htext⟩
    · obtain ⟨ordinary, hset, rfl⟩ := exists_of_map_eq_ok (setters_eq .set ▸ hsetters)
      exact ⟨ordinary, functions, hset, by simpa [Purpose.ordinaryKind] using hrest, harePacked,
        by simpa [Purpose.packedKind] using htext⟩
    · obtain ⟨ordinary, hfill, rfl⟩ := exists_of_map_eq_ok (setters_eq .fill ▸ hinitializers)
      exact ⟨ordinary, functions, hfill, by simpa [Purpose.ordinaryKind] using hrest, harePacked,
        by simpa [Purpose.packedKind] using htext⟩
  · rw [hdebug]
    unfold debugKind
    split <;> simp

end RecordView

end ShaderRecords
