/-
Settings in TOML.

A record is a table, or an array that gives all parts in order.
-/
import Dataflow.Config.Settings
import Dataflow.Toml.Document

namespace Dataflow
namespace Toml

/-- The known entries of a table; a table has no key twice. -/
def knownEntries (names : List String) (entries : List (Tree × Tree)) : List (String × Tree) :=
  entries.filterMap fun
    | (.str name, value) => if name ∈ names then some (name, value) else none
    | _ => none

def record (names : List String) : Tree → Option (List (String × Tree))
  | .map entries => some (knownEntries names entries)
  | .seq items => if items.length < names.length then none else some (names.zip items)
  | _ => none

/-- TOML has no spelling for nothing. -/
def number : Tree → Option (Option Nat)
  | .int (.ofNat n) => some (some n)
  | _ => none

/-- An executor is named by a text, or by the only key of a table with nothing behind it. -/
def executor : Tree → Option ExecutorKind
  | .str name => ExecutorKind.ofName? name
  | .map [(.str name, .map [])] => ExecutorKind.ofName? name
  | .map [(.str name, .seq [])] => ExecutorKind.ofName? name
  | _ => none

def settingsSpelling : Settings.Spelling Option Tree where
  record := record
  number := number
  executor := executor
  pipeline := fun tree => (PipelineSpec.ofTree? tree).map some

def settings? (text : String) : Option Settings := do
  let tree ← parse? text
  Settings.read settingsSpelling tree

end Toml
end Dataflow
