/-
Failures at a message broker.
-/
namespace Dataflow

inductive TransportError where
  | notConnected (text : String)
  /-- A channel name or a subscription pattern is not well formed. -/
  | invalidPattern (pattern reason : String)
  | backend (text : String)
  deriving DecidableEq, Repr, Inhabited

def TransportError.message : TransportError → String
  | notConnected text => "transport is not connected: " ++ text
  | invalidPattern pattern reason => "invalid channel pattern '" ++ pattern ++ "': " ++ reason
  | backend text => "transport backend error: " ++ text

end Dataflow
