/-
ShaderRecords.Proofs.Run.Loading — what becomes of the documents that are loaded.

A run of `Running.load` reads a document, normalizes it, checks it and reads a description from it. Once the
document is normalized everything else that is wrong with it is told: the check of the schema never breaks
down, and a document that passes it is read (`unbroken_describe`). So it is normalization that decides.
`load_succeedsIff` says that a document that can be walked through gives a description or a problem that is
told, whatever stands in it, and that any other document breaks loading down; `load_breaks_at_number` is a run
of the second kind.

`Running.result` answers the commands of a run from a table of answers, so these are facts about whole runs.
-/
import ShaderRecords.Proofs.Description.Normalization
import ShaderRecords.Proofs.Files.Answers
import ShaderRecords.Run.Loading

namespace ShaderRecords

/-! ## Runs with answered commands -/

namespace Running

variable {α β : Type} (files : (c : FileCommand) → c.Answer)

/-- What a run gives and what it has shown then, with the answers that files give to its commands. -/
def result (x : Running α) (console : Console) : Except Breakdown α × Console :=
  (x.run.run console).runWith (m := Id) files

@[simp] theorem result_tell (f : Console → Console) (console : Console) :
    result files (tell f) console = (.ok (), f console) := rfl

@[simp] theorem result_lift (x : Except Breakdown α) (console : Console) :
    result files (lift x) console = (x, console) := rfl

/-- A run after another begins with what has been shown then, unless the other one has broken down. -/
theorem run_bind (x : Running α) (f : α → Running β) (console : Console) :
    (x >>= f).run.run console = (x.run.run console).andThen fun
      | (.ok a, shown) => (f a).run.run shown
      | (.error b, shown) => .done (.error b, shown) := by
  show FileProgram.andThen (x.run.run console) _ = _
  congr 1
  funext ⟨r, shown⟩
  cases r <;> rfl

theorem result_bind (x : Running α) (f : α → Running β) (console : Console) :
    result files (x >>= f) console =
      match result files x console with
      | (.ok a, shown) => result files (f a) shown
      | (.error b, shown) => (.error b, shown) := by
  unfold result
  rw [run_bind, FileProgram.runWith_andThen]
  show FileProgram.runWith _ _ = _
  cases FileProgram.runWith (m := Id) files (x.run.run console) with
  | mk r shown => cases r <;> rfl

@[simp] theorem result_onFiles (x : Filing α) (console : Console) :
    result files (onFiles x) console = (Filing.result files x, console) := by
  have hrun : (onFiles x).run.run console = x.run.andThen fun r => .done (r, console) := rfl
  rw [result, hrun, FileProgram.runWith_andThen]
  rfl

end Running

/-! ## Documents that are described -/

/-- The version of a document that follows the schema is looked up in a map. -/
theorem unbroken_checkVersion {doc : Value} (h : Schema.document.accepts doc = true) :
    Unbroken (checkVersion doc) := by
  obtain ⟨es, rfl, hfits⟩ := Schema.accepts_record.mp h
  obtain ⟨info, hinfo, -⟩ := Schema.accepts_record.mp
    (hfits.get "meta" (s := Schema.info) (by simp) (by simp))
  have hversion : ∃ v, documentVersion (.map es) = .ok v := by
    refine ⟨Entries.get info "version", ?_⟩
    rw [documentVersion, Value.entries, ok_bind, hinfo]
    cases info <;> rfl
  obtain ⟨v, hv⟩ := hversion
  rw [checkVersion, hv, orBreak_ok, ok_bind]
  split
  · split <;> simp
  · simp

/-- A document whose ranges can be read is described, or a problem with it is told. -/
theorem unbroken_describe {doc : Value} (hranges : doc.RangesConvert) :
    Unbroken (describe Schema.document doc) := by
  refine Schema.unbroken_check.bind fun _ hchecked => ?_
  have haccepts := Schema.check_eq_ok_iff.mp hchecked
  refine (unbroken_checkVersion haccepts).bind fun _ _ => ?_
  obtain ⟨hread, htold, -⟩ := Description.ofValue_of_accepts haccepts hranges
  by_cases hnodup : doc.typeNames.Nodup
  · obtain ⟨d, hd⟩ := hread hnodup
    rw [hd]
    exact unbroken_ok d
  · obtain ⟨name, first, second, he⟩ := htold hnodup
    rw [he]
    exact unbroken_issue _

/-! ## Loading -/

namespace Running

variable {files : (c : FileCommand) → c.Answer} {env : Environment} {input : Path}
  {schema : Option String} {doc : Value}

/-- What is loaded from a document that has been read, with the schema that the tool comes with. -/
theorem result_load (hread : ∀ console, result files (readDocument input) console = (.ok (.ok doc), console))
    (hschema : Filing.result files (SchemaOrigin.find schema (some input.display)) = .ok .standard)
    (console : Console) :
    (result files (load env input schema) console).1 = normalize doc >>= fun doc =>
      match describe Schema.document doc with
      | .ok d => .ok (.ok d)
      | .error (.issue e) => .ok (.error e)
      | .error (.breakdown b) => .error b := by
  have hload : Filing.result files SchemaOrigin.standard.load = .ok Schema.document := rfl
  simp only [load, log, result_bind, result_tell, hread, result_onFiles, hschema, result_lift]
  cases hnormal : normalize doc with
  | error b => simp
  | ok doc' =>
    simp only [hload, ok_bind]
    generalize describe Schema.document doc' = outcome
    rcases outcome with (e | b) | d <;> rfl

/-- Loading a document whose ranges can be read gives a description or a problem that is told exactly if the
document can be walked through; if it cannot, loading breaks down on the kind of a value. -/
theorem load_succeedsIff
    (hread : ∀ console, result files (readDocument input) console = (.ok (.ok doc), console))
    (hschema : Filing.result files (SchemaOrigin.find schema (some input.display)) = .ok .standard)
    (hranges : doc.RangesConvert) (console : Console) :
    SucceedsIff (result files (load env input schema) console).1 doc.IsWalkable := by
  rw [result_load hread hschema]
  refine ((normalize_succeedsIff doc).bind (q := True) fun doc' hdoc' => ?_).congr (and_iff_left trivial)
  have hunbroken := unbroken_describe (rangesConvert_normalize hdoc' hranges)
  refine ⟨fun _ => ?_, fun h => absurd trivial h⟩
  rcases hunbroken.ok_or_issue with ⟨d, hd⟩ | ⟨e, he⟩
  · exact ⟨.ok d, by rw [hd]⟩
  · exact ⟨.error e, by rw [he]⟩

/-! ## Runs on one file -/

/-- The answers of files of which only one is there, with a text in it. -/
def onlyFile (p : Path) (text : String) : (c : FileCommand) → c.Answer
  | .read q => if q = p then .ok text.toUTF8 else .error .notFound
  | .status q => if q = p then .ok ⟨false, true⟩ else .error .notFound
  | .makeDirectory _ | .clear _ | .append .. | .rename .. | .remove _ => .error .accessDenied

/-- The document in the only file is the one that its text stands for. -/
theorem result_readDocument_onlyFile {p : Path} (chars : List Char) {d : Value}
    (hpath : p.display.toList.contains '\x00' = false) (hlines : Filing.lineFeeds chars = chars)
    (hdoc : Yaml.read (String.ofList chars) = .ok (some d)) (hmap : d.isMap = true) (console : Console) :
    result (onlyFile p (String.ofList chars)) (readDocument p) console = (.ok (.ok d), console) := by
  have htext : Filing.textOf (String.ofList chars).toUTF8 = .ok (String.ofList chars) := by
    rw [Filing.textOf_toUTF8, String.toList_ofList, hlines]
  have hread : Filing.result (onlyFile p (String.ofList chars)) (Filing.attempt (.read p))
      = .ok (.ok (String.ofList chars).toUTF8) := by
    have hanswer : onlyFile p (String.ofList chars) (.read p) = .ok (String.ofList chars).toUTF8 := by
      simp [onlyFile]
    rw [Filing.attempt, if_neg (by simpa [FileCommand.path] using hpath)]
    exact congrArg Except.ok hanswer
  simp only [readDocument, result_bind, result_onFiles, hread, result_lift, htext, hdoc, hmap]
  rfl

/-- The path of a document in the working directory. -/
def documentPath : Path := ⟨"", ["types.yaml"]⟩

/-- No schema lies next to a document that is the only file. -/
theorem result_find_onlyFile (text : String) :
    Filing.result (onlyFile documentPath text)
      (SchemaOrigin.find none (some documentPath.display)) = .ok .standard := rfl

/-- A document that has nothing in it can be walked through; what is wrong with it is told. -/
theorem load_succeedsIff_of_empty :
    ∃ loaded, (result (onlyFile documentPath (String.ofList ['\x7b', '\x7d']))
      (load { home := "/tool", here := [] } documentPath none) { style := .silent }).1 = .ok loaded := by
  have hread := result_readDocument_onlyFile (p := documentPath) (d := .map []) ['\x7b', '\x7d']
    (by decide) (by decide) rfl rfl
  have hranges : (Value.map []).RangesConvert := by
    intro member hmember
    cases hmember
  have hwalkable : (Value.map []).IsWalkable := ⟨[], rfl, Or.inl rfl, Or.inl rfl⟩
  exact (load_succeedsIff hread (result_find_onlyFile _) hranges _).ok hwalkable

/-- The characters of a document with a number in the place of its sources. -/
def numberForSources : List Char :=
  ['\x7b', '"', 'm', 'e', 't', 'a', '"', ':', '\x7b', '"', 'v', 'e', 'r', 's', 'i', 'o', 'n', '"', ':', '"',
    '1', '.', '0', '.', '0', '"', '\x7d', ',', '"', 's', 'o', 'u', 'r', 'c', 'e', 's', '"', ':', '5', '\x7d']

/-- The document that they stand for. -/
theorem read_numberForSources :
    Yaml.read (String.ofList numberForSources)
      = .ok (some (.map [("meta", .map [("version", "1.0.0")]), ("sources", .int 5)])) := by
  have hdeep : Yaml.isTooDeep numberForSources = false := by decide
  have hseparator : Yaml.hasSeparator numberForSources = false := by decide
  have hchars : Yaml.jsonChars? numberForSources = some numberForSources := by decide
  have hblank : (numberForSources.all fun c => c = ' ' ∨ Yaml.isLineBreak c) = false := by decide
  have htokens : Json.Lexer.tokens? numberForSources
      = some [.openMap, .scalar "meta", .colon, .openMap, .scalar "version", .colon, .scalar "1.0.0",
        .closeMap, .comma, .scalar "sources", .colon, .scalar (.int 5), .closeMap] := rfl
  have hmark : Yaml.dropByteOrderMark numberForSources = numberForSources := rfl
  have hdoc : Json.read? (String.ofList numberForSources)
      = some (.map [("meta", .map [("version", "1.0.0")]), ("sources", .int 5)]) := by
    rw [Json.read?, String.toList_ofList, htokens]
    rfl
  have hwritable :
      Value.isWritable (.map [("meta", .map [("version", "1.0.0")]), ("sources", .int 5)]) = true := by
    decide +kernel
  simp only [Yaml.read, String.toList_ofList, hmark, hblank, hdeep, hseparator, hchars, Option.bind, hdoc,
    hwritable]
  rfl

/-- A number in the place of the sources is not told: it breaks loading down before the schema is checked. -/
theorem load_breaks_at_number :
    (result (onlyFile documentPath (String.ofList numberForSources))
      (load { home := "/tool", here := [] } documentPath none) { style := .silent }).1
      = .error .wrongKind := by
  have hread := result_readDocument_onlyFile (p := documentPath) _ (by decide) (by decide)
    read_numberForSources rfl
  rw [result_load hread (result_find_onlyFile _)]
  rfl

end Running

end ShaderRecords
