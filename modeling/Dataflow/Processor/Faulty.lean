/-
Processors that misbehave, and one that records, for exercising pipelines.
-/
import Dataflow.Registry

namespace Dataflow
namespace Processor

def failing : Operation where
  name := "failing"
  input := .any
  output := .any
  process _ _ := .error (.failed "simulated processor failure")

/-- Declares a float and produces text. -/
def wrongOutput : Operation where
  name := "wrong_output"
  input := .any
  output := .float
  process _ _ := .ok (.text "not a float")

/-- Always crashes. -/
def panicking : Operation where
  name := "panicking"
  input := .any
  output := .any
  process _ _ := .crash (some "simulated processor panic")

/-- Computes `value * gain + offset`; other data counts as zero. -/
def paramEcho : Operation where
  name := "param_echo"
  parameters := [.required "gain", .optional "offset" (.float 1)]
  input := .float
  output := .float
  process data params := do
    let value := data.asFloat?.getD 0
    let gain ← params.float "gain"
    let offset ← params.float "offset"
    floatResult (value * gain + offset)

/-- Records every float it consumes. -/
def recordingSink : Sink where
  name := "recording_sink"
  input := .float
  consume _ data _ := .ok (data.asFloat?.toList.map .recorded)

def faulty : List Processor :=
  [.operation failing, .operation wrongOutput, .operation panicking, .operation paramEcho,
    .sink recordingSink]

end Processor

/-- The built-in processors and the misbehaving ones. -/
def Registry.withFaulty : Registry := Registry.builtin.registerAll Processor.faulty

end Dataflow
