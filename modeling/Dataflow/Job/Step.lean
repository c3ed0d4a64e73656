/-
Steps of the components around a broker.

A component changes itself and the broker in one step and tells what happened.
-/
import Dataflow.Channel.Broker
import Dataflow.Log.Job
import Dataflow.Pipeline.Run

namespace Dataflow

/-- Something that can be observed while jobs are processed. -/
inductive JobEvent where
  | message (m : JobMessage)
  /-- It happened in the run of a job's pipeline. -/
  | run (e : RunEvent)

namespace JobEvent

def message? : JobEvent → Option JobMessage
  | message m => some m
  | run _ => none

/-- The float that a sink handed out, if it is one. -/
def recorded? : JobEvent → Option Float
  | message _ => none
  | run e => e.recorded?

end JobEvent

/-- A component and the broker after a step, and what happened in it. -/
structure Moved (σ : Type) where
  state : σ
  broker : Broker
  events : List JobEvent := []

/-- A step of a component. -/
abbrev Move (σ : Type) := σ → Broker → Moved σ

namespace Move

variable {σ : Type}

/-- Nothing changes. -/
def stay : Move σ := fun state broker => { state, broker }

/-- One step after another. -/
def andThen (first second : Move σ) : Move σ := fun state broker =>
  let a := first state broker
  let b := second a.state a.broker
  { b with events := a.events ++ b.events }

end Move
end Dataflow
