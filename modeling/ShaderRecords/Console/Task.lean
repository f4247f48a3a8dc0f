/-
ShaderRecords.Console.Task — tasks that are shown while they are under way.
-/
import ShaderRecords.Console.Basic

namespace ShaderRecords

namespace Console

variable (c : Console)

/-- The task under way with an identifier. -/
def task? (id : String) : Option ConsoleTask :=
  c.tasks.lookup id

/-- The console without a task. -/
def dropTask (id : String) : Console :=
  { c with tasks := c.tasks.filter fun entry => entry.1 ≠ id }

/-- The console with a task, in the place of one with the same identifier. -/
def putTask (id : String) (t : ConsoleTask) : Console :=
  { c with tasks := (id, t) :: (c.dropTask id).tasks }

/-- Begins a task. On a console with rules, a task without a count shows a heading. -/
def startTask (id name : String) (total : Value := .null) (facts : Entries := []) : Console :=
  let c := c.putTask id { name := name, total := total, facts := facts }
  match c.style, total with
  | .ruled _, .null => c.heading name
  | _, _ => c

/-- The item that a step is about: the one that is named, or else the number of items done. -/
def stepItem (facts : Entries) (completed : Int) : String :=
  match (facts.lookup "current_item").getD .null with
  | .null => "item#" ++ toString completed
  | v => v.display

/-- The line that shows a step of a task. -/
def stepLine (t : ConsoleTask) (facts : Entries) : String :=
  let total := match t.total with
    | .null => "?"
    | n => n.display
  "   · " ++ t.name ++ ": " ++ stepItem facts t.completed ++ " (" ++ toString t.completed ++ "/" ++ total
    ++ ")\n"

/-- Notes that items of a task are done. -/
def advance (id : String) (step : Int := 1) (facts : Entries := []) : Console :=
  match c.task? id with
  | none => c
  | some t =>
    let t := { t with completed := t.completed + step, facts := t.facts.update facts }
    let c := c.putTask id t
    match c.style with
    | .plain _ => c.showText (stepLine t facts)
    | _ => c

/-- Ends a task. -/
def endTask (id : String) (status : TaskStatus) (facts : Entries := []) : Console :=
  match c.task? id with
  | none => c
  | some t =>
    let t := { t with facts := t.facts.update facts }
    let mark := match c.style with
      | .plain _ => " " ++ status.icon?.getD "?"
      | _ => status.icon?.getD ""
    (c.dropTask id).showPieces [.text (c.lineText (mark ++ " ") t.name ++ t.countText ++ " ("), .duration,
      .text (c.lineText ")" t.factsText ++ "\n")]

/-- Ends a task that has run to its end: it has failed if it counts errors. -/
def closeTask (id : String) (facts : Entries) : Console :=
  let errors := (facts.lookup "errors").getD .null
  c.endTask id (if errors.isPresent then .failed else .success) facts

/-- All that has been shown, with a text for the time that tasks have taken. -/
def text (duration : String) : String :=
  String.join (c.transcript.map fun
    | .text s => s
    | .duration => duration)

end Console

end ShaderRecords
