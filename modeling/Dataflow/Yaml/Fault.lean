/-
What is wrong with a YAML text, and where.
-/
import Dataflow.Decimal.Text

namespace Dataflow
namespace Yaml

/-- A place in a text, with lines and columns counted from 0. -/
structure Place where
  line : Nat := 0
  column : Nat := 0
  deriving DecidableEq, Repr, Inhabited

namespace Place

/-- The place as messages give it, counted from 1. -/
def text (p : Place) : String :=
  "line " ++ Decimal.natText (p.line + 1) ++ " column " ++ Decimal.natText (p.column + 1)

/-- The mention of a place behind something.  The very beginning is not worth one. -/
def mention (p : Place) : String := if p = {} then "" else " at " ++ p.text

end Place

/-- A problem at a place, and what was being read when it was met. -/
structure Fault where
  problem : String
  place : Place := {}
  context? : Option (String × Place) := none
  deriving DecidableEq, Repr, Inhabited

/-- The message; the place of the context is given where it is another one. -/
def Fault.text (f : Fault) : String :=
  f.problem ++ f.place.mention ++
    match f.context? with
    | none => ""
    | some (context, place) => ", " ++ context ++ (if place = f.place then "" else place.mention)

end Yaml
end Dataflow
