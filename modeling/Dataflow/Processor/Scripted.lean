/-
Processors whose behaviour is given as data.

A scripted processor answers a fixed result, or a default that shows what it was
given.  It makes it possible to build a registry for any declared types, keys and
parameters without writing a processor.
-/
import Dataflow.Processor

namespace Dataflow

/-- What a scripted processor does, by kind. -/
inductive Script where
  /-- Answers the result, or its input if there is none.  An invalid result is a failure. -/
  | operation (input output : DataType) (result : Option (Except ValidationError TypedData))
  /-- Answers the result, or an object of all its arguments. -/
  | probe (input : DataType) (result : Option Json)
  /-- Performs the calls up to the first that is refused. -/
  | context (required created suppressed : List String) (calls : List GateCall)
  /-- Answers a payload. -/
  | payloadSource (output : DataType) (result : Payload)

def scriptedResult (input : TypedData) :
    Option (Except ValidationError TypedData) → Answer TypedData
  | none => .ok input
  | some (.ok value) => .ok value
  | some (.error e) => .error (.failed e.message)

/-- The processor with a given name and parameters that follows a script. -/
def Processor.scripted (name : String) (parameters : List ParameterSpec) : Script → Processor
  | .operation input output result =>
    let process := fun data _ => scriptedResult data result
    .operation { name, parameters, input, output, process }
  | .probe input result =>
    let probe := fun _ params => .ok (result.getD (.ofKeyMap params))
    .probe { name, parameters, input, probe }
  | .context requiredKeys createdKeys suppressedKeys calls =>
    let edit := fun _ => .ofCalls calls
    .context { name, parameters, requiredKeys, createdKeys, suppressedKeys, edit }
  | .payloadSource output result =>
    let produce := fun _ => .ok result
    .payloadSource { name, parameters, output, produce }

end Dataflow
