/-
Probes and sinks: they look at what passes and leave it as it is.
-/
import Dataflow.Processor.Input

namespace Dataflow
namespace Processor

def floatValueProbe : Probe where
  name := "float_value_probe"
  input := .float
  probe data _ := do
    let value ← floatInput "float_value_probe" data
    return .ofFloat value

/-- Reports the name of the type of any value. -/
def dataTypeProbe : Probe where
  name := "data_type_probe"
  input := .any
  probe data _ := return .str data.type.name

/-- Logs each float under a label.  The label is only looked at when the event is wanted. -/
def floatLogSink : Sink where
  name := "float_log_sink"
  parameters := [.optional "label" (.str "value")]
  input := .float
  consume filter data params := do
    let value ← floatInput "float_log_sink" data
    if filter.admits .info then
      let label ← params.text "label"
      return [.logged ⟨.info, "float sink", [("label", .text label), ("value", .float value)]⟩]
    else return []

/-- Logs the data type and the context keys of any payload. -/
def payloadLogSink : PayloadSink where
  name := "payload_log_sink"
  input := .any
  consume filter payload _ :=
    if filter.admits .info then
      return [.logged ⟨.info, "payload sink",
        [("data_type", .text payload.data.type.name),
          ("context_keys", .text (Text.quotedList payload.context.keys))]⟩]
    else return []

end Processor
end Dataflow
