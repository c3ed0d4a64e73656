/-
Resolved processor arguments and where each of them came from.
-/
import Dataflow.Json.Writer
import Dataflow.Processor.Error

namespace Dataflow

/-! ## Arguments -/

/-- The arguments of one processor call. -/
abbrev Parameters := KeyMap Json

namespace Parameters

def value (params : Parameters) (name : String) : Except ProcessorError Json :=
  match params.get? name with
  | some v => .ok v
  | none => .error (.missingParameter name)

/-- An argument read as something more specific; a wrong one is reported with its JSON text. -/
def read {α : Type} (params : Parameters) (name expected : String) (f : Json → Option α) :
    Except ProcessorError α := do
  let v ← params.value name
  match f v with
  | some a => .ok a
  | none => .error (.invalidParameter name expected v.compact)

def float (params : Parameters) (name : String) : Except ProcessorError Float :=
  params.read name "a number" Json.asFloat?

def integer (params : Parameters) (name : String) : Except ProcessorError Int :=
  params.read name "an integer" Json.asInt64?

def natural (params : Parameters) (name : String) : Except ProcessorError Nat :=
  params.read name "a non-negative integer" Json.asNat?

def text (params : Parameters) (name : String) : Except ProcessorError String :=
  params.read name "a string" Json.asStr?

end Parameters

/-! ## Sources -/

/-- Where a resolved argument came from.  A context key carries the node that
last wrote it, or nothing when the caller supplied it. -/
inductive ParameterSource where
  | config
  | context (origin : Option Nat)
  | default
  deriving DecidableEq, Inhabited

def ParameterSource.toJson : ParameterSource → Json
  | config => .obj [("source", .str "config")]
  | context origin => .obj [("source", .str "context"), ("origin", .ofOption .ofNat origin)]
  | default => .obj [("source", .str "default")]

/-- For every context key of a run, the node that last wrote it, or nothing for
a key that the caller supplied. -/
abbrev KeyOrigins := KeyMap (Option Nat)

namespace KeyOrigins

def ofContext (context : Context) : KeyOrigins := context.map (fun _ => none)

/-- Attributes a key to a node, replacing an earlier producer. -/
def record (origins : KeyOrigins) (key : String) (index : Nat) : KeyOrigins :=
  origins.insert key (some index)

def forget (origins : KeyOrigins) (key : String) : KeyOrigins := origins.erase key

/-- The producer of a key; an untracked key has none. -/
def producer? (origins : KeyOrigins) (key : String) : Option Nat := (origins.get? key).join

end KeyOrigins
end Dataflow
