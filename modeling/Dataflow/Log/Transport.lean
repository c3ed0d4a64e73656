/-
What is logged while messages travel.
-/
import Dataflow.Decimal.Text
import Dataflow.Log

namespace Dataflow

/-- An event at a message broker. -/
inductive TransportMessage where
  | connected (transport : String) (connections : Nat)
  | closed (transport : String) (connections : Nat)
  | published (channel : String) (sequence : Nat)
  | delivered (channel pattern : String)
  deriving DecidableEq, Inhabited

def TransportMessage.record : TransportMessage → LogRecord
  | connected transport connections =>
    { level := .debug
      text := "Connected to " ++ transport ++ " transport (" ++ Decimal.natText connections ++
        " active connections)"
      fields := [("transport", .text transport), ("connections", .nat connections)]
      spanKind := "transport_connected" }
  | closed transport connections =>
    { level := .debug
      text := "Closed " ++ transport ++ " transport connection (" ++
        Decimal.natText connections ++ " remaining)"
      fields := [("transport", .text transport), ("connections", .nat connections)]
      spanKind := "transport_closed" }
  | published channel sequence =>
    { level := .trace
      text := "Published message #" ++ Decimal.natText sequence ++ " on '" ++ channel ++ "'"
      fields := [("channel", .text channel), ("sequence", .nat sequence)]
      spanKind := "message_published" }
  | delivered channel pattern =>
    { level := .trace
      text := "Delivered message from '" ++ channel ++ "' to subscription '" ++ pattern ++ "'"
      fields := [("channel", .text channel), ("pattern", .text pattern)]
      spanKind := "message_delivered" }

end Dataflow
