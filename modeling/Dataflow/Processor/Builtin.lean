/-
The processors that come with the library.
-/
import Dataflow.Processor.Arithmetic
import Dataflow.Processor.Reporting
import Dataflow.Processor.Source
import Dataflow.Processor.Wording
import Dataflow.Reference

namespace Dataflow
namespace Processor

/-- The built-in processors, in the order in which they are listed. -/
def builtins : List Processor :=
  [.operation floatMultiply, .operation floatAdd, .operation floatDivide, .operation floatToText,
    .operation changeTextCase, .operation affixAdder,
    .probe floatValueProbe, .probe dataTypeProbe,
    .source floatSource, .payloadSource floatPayloadSource,
    .sink floatLogSink, .payloadSink payloadLogSink]

def builtinNames : List String := builtins.map name

def builtin (name : String) : Except ReferenceError Processor :=
  match builtins.find? (fun p => p.name == name) with
  | some p => .ok p
  | none => .error (.unknown name)

end Processor
end Dataflow
