/-
A message broker that keeps messages in memory.

Every channel has a queue, and an accepted message gets the next sequence number.
A subscription hands out the oldest message of all channels that its pattern
selects, so messages leave in the order in which they were published.  A message
leaves its queue when it is handed out; acknowledging it is only counted.

Connections are counted too: several components may share a broker, and it works
while any of them is connected.  Queued messages survive a time without
connections.
-/
import Dataflow.Channel.Message
import Dataflow.Channel.Pattern
import Dataflow.Job.Future
import Dataflow.Log.Transport

namespace Dataflow

structure Queued where
  sequence : Nat
  message : Message
  deriving Inhabited

structure Broker where
  connections : Nat := 0
  /-- The queues by channel; none of them is empty. -/
  channels : KeyMap (List Queued) := .empty
  nextSequence : Nat := 0
  acknowledged : Nat := 0
  deriving Inhabited

namespace Broker

/-- The name of this kind of broker. -/
def name : String := "in_memory"

/-! ## Connections -/

def isConnected (b : Broker) : Bool := 0 < b.connections

def connect (b : Broker) : Broker := { b with connections := b.connections + 1 }

/-- Gives up a connection.  Without connections nothing happens. -/
def close (b : Broker) : Broker := { b with connections := b.connections - 1 }

/-- Only a connected broker performs an operation. -/
def whileConnected {α : Type} (b : Broker) (operation : String) (value : Except TransportError α) :
    Except TransportError α :=
  if b.isConnected then value
  else .error (.notConnected ("cannot " ++ operation ++ " on a closed in-memory transport"))

/-! ## Publishing -/

/-- The messages of a channel, oldest first. -/
def queue (b : Broker) (channel : String) : List Queued := (b.channels.get? channel).getD []

/-- Puts a message at the end of the queue of its channel. -/
def accept (b : Broker) (m : Message) : Broker :=
  let queued : Queued := { sequence := b.nextSequence, message := { m with awaitsAck := true } }
  { b with
    channels := b.channels.insert m.channel (b.queue m.channel ++ [queued])
    nextSequence := b.nextSequence + 1 }

def publish (b : Broker) (m : Message) : Except TransportError Broker :=
  b.whileConnected "publish" <|
    if Channel.isName m.channel then .ok (b.accept m)
    else .error (.invalidPattern m.channel
      "channel names need non-empty dot-separated segments")

/-- What a publisher who asked for it gets to know when a message is stored for good.  Accepting it
is all that storing it takes here. -/
def receipt (wanted : Bool) : Option (Future Unit) := if wanted then some (.completed ()) else none

/-! ## Delivery -/

/-- The channels that a pattern selects, each with the number of its oldest message. -/
def fronts (pattern : ChannelPattern) (table : List (String × List Queued)) :
    List (String × Nat) :=
  table.filterMap fun (channel, queue) =>
    if pattern.selects channel then queue.head?.map (fun q => (channel, q.sequence)) else none

/-- The entry with the least number. -/
def oldest? (fronts : List (String × Nat)) : Option (String × Nat) :=
  fronts.foldl
    (fun best? front =>
      match best? with
      | none => some front
      | some best => if front.2 < best.2 then some front else some best)
    none

/-- Drops the oldest message of a channel; an emptied queue leaves the table. -/
def dropFront (b : Broker) (channel : String) : Broker :=
  match b.queue channel with
  | _ :: next :: rest => { b with channels := b.channels.insert channel (next :: rest) }
  | _ => { b with channels := b.channels.erase channel }

/-- Takes the oldest message that a pattern selects, where `table` lists the channels in some
order. -/
def takeFrom? (b : Broker) (table : List (String × List Queued)) (pattern : ChannelPattern) :
    Option (Message × Broker) := do
  let (channel, _) ← oldest? (fronts pattern table)
  let front ← (b.queue channel).head?
  return (front.message, b.dropFront channel)

/-- Takes the oldest message that a pattern selects. -/
def take? (b : Broker) (pattern : ChannelPattern) : Option (Message × Broker) :=
  b.takeFrom? b.channels.entries pattern

/-- How many messages are queued. -/
def size (b : Broker) : Nat := (b.channels.entries.flatMap (·.2)).length

/-- Acknowledges a delivered message.  Only the first time counts. -/
def acknowledge (b : Broker) (m : Message) : Message × Broker :=
  (m.ack, if m.awaitsAck then { b with acknowledged := b.acknowledged + 1 } else b)

end Broker

/-! ## Subscriptions -/

/-- A way to take messages.  A closed one takes none. -/
structure Subscription where
  pattern : ChannelPattern
  closed : Bool := false

def Broker.subscribe (b : Broker) (pattern : String) : Except TransportError Subscription :=
  b.whileConnected "subscribe" ((ChannelPattern.parse pattern).map fun p => { pattern := p })

namespace Subscription

def close (s : Subscription) : Subscription := { s with closed := true }

/-- Takes the next message, where `table` lists the channels in some order. -/
def nextFrom? (s : Subscription) (b : Broker) (table : List (String × List Queued)) :
    Option (Message × Broker) :=
  if s.closed then none else b.takeFrom? table s.pattern

def next? (s : Subscription) (b : Broker) : Option (Message × Broker) :=
  s.nextFrom? b b.channels.entries

def take (s : Subscription) : (count : Nat) → Broker → List Message × Broker
  | 0, b => ([], b)
  | count + 1, b =>
    match s.next? b with
    | none => ([], b)
    | some (message, b) =>
      let (messages, b) := s.take count b
      (message :: messages, b)

def drain (s : Subscription) (b : Broker) : List Message × Broker := s.take b.size b

end Subscription

/-! ## Log messages -/

namespace Broker

def connectedMessage (after : Broker) : TransportMessage := .connected name after.connections

/-- What is logged about `close`, unless there was nothing to give up. -/
def closedMessage? (before : Broker) : Option TransportMessage :=
  if before.isConnected then some (.closed name before.close.connections) else none

/-- What is logged about an accepted message. -/
def publishedMessage (before : Broker) (channel : String) : TransportMessage :=
  .published channel before.nextSequence

end Broker

/-- What is logged when a message is handed out. -/
def Subscription.deliveredMessage (s : Subscription) (m : Message) : TransportMessage :=
  .delivered m.channel s.pattern.text

end Dataflow
