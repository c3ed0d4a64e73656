/-
The shared state of a pipeline run.

A context maps keys to JSON values and travels with the data from node to node.
A key that was deleted stays absent until some node sets it again.
-/
import Dataflow.Data

namespace Dataflow

/-- The key-value state threaded through a pipeline run. -/
abbrev Context := KeyMap Json

inductive ContextError where
  | missingKey (key : String)
  deriving DecidableEq, Inhabited

def ContextError.message : ContextError → String
  | missingKey key => "context key '" ++ key ++ "' does not exist"

namespace Context

/-- Moves the value under `old` to `new`, replacing what `new` held.  Renaming a key to itself
changes nothing. -/
def rename (context : Context) (old new : String) : Except ContextError Context :=
  match context.get? old with
  | none => .error (.missingKey old)
  | some value => .ok ((context.erase old).insert new value)

/-- Equality of contexts with floats compared as numbers. -/
def same (a b : Context) : Bool := Json.sameFields a.entries b.entries

end Context

/-- The unit passed between nodes. -/
structure Payload where
  data : TypedData := .empty
  context : Context := .empty
  deriving Inhabited

end Dataflow
