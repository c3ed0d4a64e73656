/-
Reading the expected type out of incoming data.
-/
import Dataflow.Processor

namespace Dataflow
namespace Processor

/-- Data of the wrong type reached a processor that was called without a node's check. -/
def wrongInput (processor : String) (expected : DataType) (data : TypedData) : ProcessorError :=
  .failed (processor ++ " expects " ++ expected.name ++ " data, got " ++ data.type.name)

def floatInput (processor : String) (data : TypedData) : Except ProcessorError Float :=
  match data.asFloat? with
  | some value => .ok value
  | none => .error (wrongInput processor .float data)

def textInput (processor : String) (data : TypedData) : Except ProcessorError String :=
  match data.asText? with
  | some value => .ok value
  | none => .error (wrongInput processor .text data)

/-- A float result, which must be finite. -/
def floatResult (value : Float) : Except ProcessorError TypedData :=
  (TypedData.float value).mapError .validation

end Processor
end Dataflow
