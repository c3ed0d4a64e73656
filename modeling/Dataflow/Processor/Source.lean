/-
Sources: where the data of a pipeline comes from when the caller brings none.
-/
import Dataflow.Processor.Input

namespace Dataflow
namespace Processor

/-- Emits a constant. -/
def floatSource : Source where
  name := "float_source"
  parameters := [.optional "value" (.float 0)]
  output := .float
  produce params := do
    let value ← params.float "value"
    floatResult value

/-- Emits a constant together with a context entry that names this source. -/
def floatPayloadSource : PayloadSource where
  name := "float_payload_source"
  parameters := [.required "value", .optional "origin_key" (.str "origin")]
  output := .float
  produce params := do
    let value ← params.float "value"
    let data ← floatResult value
    let key ← params.text "origin_key"
    return { data, context := KeyMap.empty.insert key (.str "float_payload_source") }

end Processor
end Dataflow
