/-
The unit exchanged over channels.
-/
import Dataflow.Context

namespace Dataflow

/-- What is said about a payload beside it. -/
abbrev Metadata := KeyMap Json

structure Message where
  channel : String
  payload : Payload
  metadata : Metadata
  /-- Whoever delivered the message counts its acknowledgement, which has not been given yet. -/
  awaitsAck : Bool := false
  deriving Inhabited

namespace Message

/-- Nothing waits for an acknowledgement, be it that it was given or never asked for. -/
def isAcked (m : Message) : Bool := !m.awaitsAck

/-- Acknowledges delivery.  Doing so again changes nothing. -/
def ack (m : Message) : Message := { m with awaitsAck := false }

/-- The metadata under a key, if it is text. -/
def metadataText? (m : Message) (key : String) : Option String := do
  (← m.metadata.get? key).asStr?

end Message
end Dataflow
