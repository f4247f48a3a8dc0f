/-
ShaderRecords.Schema.Choice — the one problem that is told when a schema finds several.

The problem closest to the root is told, of several as close the one at the greatest place
(`Rank.before`), and the first of equal ones. Where alternatives are all refused and one of their
problems ranks below all others, that one is told in place of the refusal.
-/
import ShaderRecords.Description.Error
import ShaderRecords.Schema.Violation

namespace ShaderRecords

/-- What decides which problem is told. -/
structure Rank where
  place : List PlaceStep
  isChoice : Bool
  kindFits : Bool
deriving Repr, DecidableEq

namespace PlaceStep

/-- Whether a step comes before another. -/
def before : PlaceStep → PlaceStep → Bool
  | key a, key b => a < b
  | index m, index n => m < n
  | key _, index _ => true
  | index _, key _ => false

end PlaceStep

/-- Whether a way of steps comes before another, at the first step where they differ. -/
def placeBefore : List PlaceStep → List PlaceStep → Bool
  | [], [] => false
  | [], _ :: _ => true
  | _ :: _, [] => false
  | s :: ss, t :: ts => if s = t then placeBefore ss ts else s.before t

namespace Rank

/-- The rank of a problem. -/
def ofViolation (e : Violation) : Rank :=
  ⟨e.place, e.isChoice, e.kindFits⟩

/-- Whether a rank is below another: by depth, deep ones first, then by place, then refused
alternatives before other problems, then problems of a value whose kind fits before others. -/
def before (a b : Rank) : Bool :=
  if a.place.length ≠ b.place.length then b.place.length < a.place.length
  else if a.place ≠ b.place then placeBefore a.place b.place
  else if a.isChoice ≠ b.isChoice then a.isChoice
  else a.kindFits && !b.kindFits

end Rank

/-- A problem that may be told, with a rank. -/
abbrev Ranked := Rank × Violation

namespace Ranked

/-- The first of the highest ones among a problem and others. -/
def highest (e : Ranked) (others : List Ranked) : Ranked :=
  others.foldl (fun best e => if best.1.before e.1 then e else best) e

/-- The first of the lowest ones among a problem and others. -/
def lowest (e : Ranked) (others : List Ranked) : Ranked :=
  others.foldl (fun best e => if e.1.before best.1 then e else best) e

/-- The lowest one, unless two have the lowest rank. -/
def onlyLowest? : List Ranked → Option Ranked
  | [] => none
  | e :: others =>
    let best := lowest e others
    if ((e :: others).filter fun other => other.1 = best.1).length = 1 then some best else none

end Ranked

namespace Violation

mutual

/-- The problem that is told in place of a problem: itself, or one of the alternatives' problems. -/
def told : Violation → Violation
  | ⟨place, message, isChoice, kindFits, context⟩ =>
    match Ranked.onlyLowest? (toldAll context) with
    | some e => e.2
    | none => ⟨place, message, isChoice, kindFits, context⟩

/-- The problems that are told in place of problems, each under the rank of the one that it stands
for. -/
def toldAll : List Violation → List Ranked
  | [] => []
  | e :: es => (Rank.ofViolation e, told e) :: toldAll es

end

end Violation

namespace Schema

/-- The problem that is told about a value that does not follow a schema. -/
def problem? (s : Schema) (v : Value) : Option Violation :=
  match Violation.toldAll (s.violations v) with
  | [] => none
  | e :: es => some (Ranked.highest e es).2

/-- A place as it is told. -/
def placeText (place : List PlaceStep) : String :=
  if place.isEmpty then "(root)" else "->".intercalate (place.map PlaceStep.display)

/-- Fails at a document that does not follow a schema. -/
def check (s : Schema) (doc : Value) : Except (Failure DocumentError) Unit :=
  match s.problem? doc with
  | none => .ok ()
  | some e => refuse (.invalid (placeText e.place) e.message)

end Schema

end ShaderRecords
