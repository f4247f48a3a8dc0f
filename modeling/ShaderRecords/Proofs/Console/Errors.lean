/-
ShaderRecords.Proofs.Console.Errors — what a console does to the errors it has told.

`Console.Tells` relates a console to a later one: the errors that have been told since, in the order in which they
were told, and nothing else about errors. Everything a console can be asked to do tells no error, save a log record
of the level of errors, which tells exactly one (`Console.tells_logError`), whatever the style of the console is.
-/
import ShaderRecords.Console.Log
import ShaderRecords.Console.Task

namespace ShaderRecords

namespace Console

variable {c c' c'' : Console} {es es' : List ShownError}

/-- Whether a later console has told errors since, and drops the same log records. -/
structure Tells (c : Console) (es : List ShownError) (c' : Console) : Prop where
  errors_eq : c'.errors = c.errors ++ es
  threshold_eq : c'.threshold = c.threshold

namespace Tells

theorem refl (c : Console) : c.Tells [] c where
  errors_eq := (List.append_nil _).symm
  threshold_eq := rfl

theorem trans (h : c.Tells es c') (h' : c'.Tells es' c'') : c.Tells (es ++ es') c'' where
  errors_eq := by rw [h'.errors_eq, h.errors_eq, List.append_assoc]
  threshold_eq := h'.threshold_eq.trans h.threshold_eq

/-- Where nothing has been told yet, the errors are those that are told then. -/
theorem after (h : c.Tells [] c') (h' : c'.Tells es c'') : c.Tells es c'' :=
  h.trans h'

theorem errorCount_eq (h : c.Tells es c') : c'.errorCount = c.errorCount + es.length := by
  rw [errorCount, errorCount, h.errors_eq, List.length_append]

end Tells

/-! ## What tells no error -/

theorem tells_showPieces (c : Console) (pieces : List ShownPiece) : c.Tells [] (c.showPieces pieces) := by
  unfold showPieces
  split
  · exact .refl c
  · exact ⟨(List.append_nil _).symm, rfl⟩

theorem tells_showLine (c : Console) (colorCode label message : String) :
    c.Tells [] (c.showLine colorCode label message) :=
  c.tells_showPieces _

theorem tells_heading (c : Console) (title : String) : c.Tells [] (c.heading title) := by
  unfold heading
  split <;> exact c.tells_showPieces _

/-- A log record below the level of errors tells none. -/
theorem tells_log {level : LogLevel} (h : level ≠ .error) (c : Console) (message : String) :
    c.Tells [] (c.log level message) := by
  unfold log logAt
  split
  · exact .refl c
  · cases level with
    | debug =>
      show c.Tells [] (c.verbose message 1)
      unfold verbose
      split
      · exact .refl c
      · exact c.tells_showLine ..
    | info => exact c.tells_showLine ..
    | warning => exact c.tells_showLine ..
    | error => exact absurd rfl h

theorem tells_putTask (c : Console) (id : String) (t : ConsoleTask) : c.Tells [] (c.putTask id t) :=
  ⟨(List.append_nil _).symm, rfl⟩

theorem tells_startTask (c : Console) (id name : String) (total : Value) :
    c.Tells [] (c.startTask id name total) := by
  have hput := c.tells_putTask id { name := name, total := total }
  unfold startTask
  dsimp only
  split
  · exact hput.after (tells_heading _ name)
  · exact hput

theorem tells_advance (c : Console) (id : String) (step : Int) (facts : Entries) :
    c.Tells [] (c.advance id step facts) := by
  unfold advance
  split
  · exact .refl c
  next t _ =>
    have hput := c.tells_putTask id
      { t with completed := t.completed + step, facts := t.facts.update facts }
    dsimp only
    split
    · exact hput.after (tells_showPieces ..)
    · exact hput

theorem tells_endTask (c : Console) (id : String) (status : TaskStatus) (facts : Entries) :
    c.Tells [] (c.endTask id status facts) := by
  have hdrop : c.Tells [] (c.dropTask id) := ⟨(List.append_nil _).symm, rfl⟩
  unfold endTask
  split
  · exact .refl c
  · exact hdrop.after (tells_showPieces ..)

/-! ## What tells an error -/

/-- A console whose log is configured drops no record of the level of errors. -/
theorem threshold_configureLog (c : Console) (verbosity : Int) :
    (c.configureLog verbosity).threshold ≤ LogLevel.error.number := by
  show (if verbosity ≥ 1 then LogLevel.debug.number else LogLevel.info.number) ≤ _
  split <;> decide

/-- A record of an error with a code tells it once. -/
theorem tells_logError {code : String} (hthreshold : c.threshold ≤ LogLevel.error.number) (hcode : code ≠ "")
    (message : String) : c.Tells [⟨some code, message⟩] (c.log .error message (.text code)) := by
  have hpresent : (Value.text code).isPresent = true := by simpa [Value.isPresent] using hcode
  have hlog : c.log .error message (.text code) = c.error message (.text code) := by
    unfold log logAt
    rw [if_neg (Int.not_lt.mpr hthreshold), if_pos (Int.le_refl _)]
  have hline := c.tells_showLine "31" "ERROR" (code ++ ": " ++ message)
  rw [hlog, error, if_pos hpresent]
  exact ⟨rfl, hline.threshold_eq⟩

end Console

end ShaderRecords
