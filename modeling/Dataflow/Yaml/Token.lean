/-
The tokens of a YAML stream.

Indentation has become explicit in the tokens: a block collection starts with a
token of its own and ends with `blockEnd`.
-/
import Dataflow.Yaml.Fault

namespace Dataflow
namespace Yaml

/-- A tag as written: the handle and what follows it.  A tag in angle brackets has no handle. -/
structure TagText where
  handle : String
  suffix : String
  deriving DecidableEq, Repr, Inhabited

inductive ScalarStyle where
  /-- Without quotes and not as a block. -/
  | plain
  | quoted
  /-- As a block whose lines stay lines. -/
  | literal
  /-- As a block whose lines flow together. -/
  | folded
  deriving DecidableEq, Repr, Inhabited

inductive Token where
  | versionDirective (major minor : Nat)
  | tagDirective (handle expansion : String)
  | documentStart
  | documentEnd
  | blockSequenceStart
  | blockMappingStart
  | blockEnd
  | flowSequenceStart
  | flowSequenceEnd
  | flowMappingStart
  | flowMappingEnd
  | blockEntry
  | flowEntry
  | key
  | value
  | aliasOf (name : String)
  | anchor (name : String)
  | tag (text : TagText)
  | scalar (value : String) (style : ScalarStyle)
  | streamEnd
  deriving DecidableEq, Repr, Inhabited

structure PlacedToken where
  token : Token
  place : Place
  deriving Inhabited

/-- The tokens of a text.  If the text has a fault they end in front of it. -/
structure Tokens where
  tokens : List PlacedToken
  fault? : Option Fault := none

end Yaml
end Dataflow
