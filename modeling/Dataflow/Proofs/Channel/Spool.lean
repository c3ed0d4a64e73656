/-
A broker behaves as one list of messages.

Clients know a broker by its answers.  `Transport` is what they can ask for, and a
`Session` is what any number of them do one call after another, with everything
they were answered.  `Broker.transport` is the broker; its channel table may be
listed in any order, and in another one at every call.  `Spool.transport` is one
list in the order of publication beside three counters; it has readers of its own,
each with a pattern and either open or not.

`Session.broker_refines_spool` says that no client can tell the two apart, and what
follows for delivery: on every channel the messages handed out so far, followed by
those that wait, are the messages published on it, and a subscription that was
closed takes nothing any more.
-/
import Dataflow.Proofs.Channel.Name
import Dataflow.Proofs.Channel.Order

namespace Dataflow

/-! ## Clients -/

/-- What clients can ask of a transport with states in `σ` and subscriptions in `τ`. -/
structure Transport (σ τ : Type) where
  connect : σ → σ
  close : σ → σ
  /-- Publishes a message and tells its number. -/
  publish : Message → σ → Except TransportError (Nat × σ)
  subscribe : String → σ → Except TransportError τ
  next? : τ → σ → Option (Message × σ)
  closeSubscription : τ → τ
  acknowledge : Message → σ → Message × σ

/-- A call of a client.  Subscriptions and messages handed out are numbered over all clients. -/
inductive ClientCall where
  | connect
  | close
  | publish (m : Message)
  | subscribe (pattern : String)
  | next (subscription : Nat)
  | closeSubscription (subscription : Nat)
  | acknowledge (message : Nat)

inductive ClientAnswer where
  | done
  | published (number : Except TransportError Nat)
  | subscribed (number : Except TransportError Nat)
  | taken (message? : Option Message)

/-- A transport, what its clients hold, and what they were answered. -/
structure Session (σ τ : Type) where
  state : σ
  subscriptions : List τ := []
  /-- The messages that were handed out, oldest first. -/
  delivered : List Message := []
  /-- The messages that were accepted, oldest first. -/
  published : List Message := []
  answers : List ClientAnswer := []

namespace Session

variable {σ τ κ : Type}

def answer (s : Session σ τ) (a : ClientAnswer) : Session σ τ :=
  { s with answers := s.answers ++ [a] }

/-- One call. -/
def perform (t : Transport σ τ) (s : Session σ τ) : ClientCall → Session σ τ
  | .connect => { s with state := t.connect s.state }.answer .done
  | .close => { s with state := t.close s.state }.answer .done
  | .publish m =>
    match t.publish m s.state with
    | .ok (number, state) =>
      { s with state, published := s.published ++ [m] }.answer (.published (.ok number))
    | .error e => s.answer (.published (.error e))
  | .subscribe pattern =>
    match t.subscribe pattern s.state with
    | .ok subscription =>
      { s with subscriptions := s.subscriptions ++ [subscription] }.answer
        (.subscribed (.ok s.subscriptions.length))
    | .error e => s.answer (.subscribed (.error e))
  | .next i =>
    match s.subscriptions[i]? with
    | none => s.answer (.taken none)
    | some subscription =>
      match t.next? subscription s.state with
      | none => s.answer (.taken none)
      | some (m, state) =>
        { s with state, delivered := s.delivered ++ [m] }.answer (.taken (some m))
  | .closeSubscription i =>
    { s with subscriptions := s.subscriptions.modify i t.closeSubscription }.answer .done
  | .acknowledge i =>
    match s.delivered[i]? with
    | none => s.answer .done
    | some m =>
      let (m, state) := t.acknowledge m s.state
      { s with state, delivered := s.delivered.set i m }.answer .done

/-- Calls one after another, each with the transport that its key names. -/
def run (t : κ → Transport σ τ) (calls : List (κ × ClientCall)) (s : Session σ τ) :
    Session σ τ :=
  calls.foldl (fun s call => s.perform (t call.1) call.2) s

theorem run_append (t : κ → Transport σ τ) (calls later : List (κ × ClientCall))
    (s : Session σ τ) : s.run t (calls ++ later) = (s.run t calls).run t later :=
  List.foldl_append

end Session

/-! ## The broker -/

/-- An order in which the channels of a table may be listed. -/
structure Enumeration where
  list : List (String × List Queued) → List (String × List Queued)
  perm : ∀ table, (list table).Perm table

/-- The last entry of a table comes first. -/
def Enumeration.backwards : Enumeration := ⟨List.reverse, List.reverse_perm⟩

/-- A broker whose channel table is listed in a given order. -/
def Broker.transport (order : Enumeration) : Transport Broker Subscription where
  connect := Broker.connect
  close := Broker.close
  publish m b := (b.publish m).map fun b' => (b.nextSequence, b')
  subscribe pattern b := b.subscribe pattern
  next? s b := s.nextFrom? b (order.list b.channels.entries)
  closeSubscription := Subscription.close
  acknowledge m b := b.acknowledge m

/-! ## The list -/

/-- One list of messages in the order of their publication. -/
structure Spool where
  connections : Nat := 0
  /-- The messages that wait, oldest first. -/
  messages : List Message := []
  /-- How many messages were accepted. -/
  accepted : Nat := 0
  acknowledged : Nat := 0

/-- A message in the form in which it is handed out: its acknowledgement is awaited. -/
def Message.awaiting (m : Message) : Message := { m with awaitsAck := true }

namespace Spool

/-- Who takes the messages that a pattern selects, as long as it is open. -/
structure Reader where
  pattern : ChannelPattern
  isOpen : Bool := true

def Reader.stop (reader : Reader) : Reader := { reader with isOpen := false }

/-- Whether a segment between the points of a text is empty. -/
def HasEmptySegment (text : String) : Prop := [] ∈ text.toList.splitOn '.'

instance (text : String) : Decidable (HasEmptySegment text) :=
  inferInstanceAs (Decidable ([] ∈ text.toList.splitOn '.'))

theorem isName_of_not_hasEmptySegment {text : String} (h : ¬ HasEmptySegment text) :
    Channel.isName text = true := Channel.isName_iff.mpr h

def publish (m : Message) (s : Spool) : Except TransportError (Nat × Spool) :=
  if s.connections = 0 then
    .error (.notConnected "cannot publish on a closed in-memory transport")
  else if HasEmptySegment m.channel then
    .error (.invalidPattern m.channel "channel names need non-empty dot-separated segments")
  else .ok (s.accepted,
    { s with messages := s.messages ++ [m.awaiting], accepted := s.accepted + 1 })

def subscribe (pattern : String) (s : Spool) : Except TransportError Reader :=
  if s.connections = 0 then
    .error (.notConnected "cannot subscribe on a closed in-memory transport")
  else if h : HasEmptySegment pattern then
    .error (.invalidPattern pattern
      (if pattern = "" then "pattern is empty" else "pattern contains an empty segment"))
  else .ok { pattern := ⟨pattern, isName_of_not_hasEmptySegment h⟩ }

/-- The first message whose channel a reader's pattern selects. -/
def next? (reader : Reader) (s : Spool) : Option (Message × Spool) :=
  if reader.isOpen then
    (s.messages.find? (reader.pattern.selects ·.channel)).map fun m =>
      (m, { s with messages := s.messages.eraseP (reader.pattern.selects ·.channel) })
  else none

def transport : Transport Spool Reader where
  connect s := { s with connections := s.connections + 1 }
  close s := { s with connections := s.connections - 1 }
  publish := publish
  subscribe := subscribe
  next? := next?
  closeSubscription := Reader.stop
  acknowledge m s :=
    ({ m with awaitsAck := false },
      if m.awaitsAck then { s with acknowledged := s.acknowledged + 1 } else s)

theorem acknowledge_snd (s : Spool) (m : Message) :
    (transport.acknowledge m s).2.messages = s.messages ∧
      (transport.acknowledge m s).2.accepted = s.accepted ∧
      (transport.acknowledge m s).2.acknowledged =
        s.acknowledged + if m.awaitsAck then 1 else 0 := by
  by_cases hm : m.awaitsAck = true
  · simp [transport, hm]
  · simp [transport, hm]

/-! ## Agreement -/

/-- What stands for a reader at a broker. -/
def Reader.subscription (reader : Reader) : Subscription :=
  { pattern := reader.pattern, closed := !reader.isOpen }

theorem Reader.stop_subscription (reader : Reader) :
    reader.stop.subscription = reader.subscription.close := rfl

theorem subscriptions_stop (readers : List Reader) (i : Nat) :
    (readers.modify i Reader.stop).map Reader.subscription =
      (readers.map Reader.subscription).modify i Subscription.close := by
  refine List.ext_getElem? fun j => ?_
  rw [List.getElem?_map, List.getElem?_modify, List.getElem?_modify, List.getElem?_map]
  cases readers[j]? with
  | none => rfl
  | some reader =>
    by_cases hij : i = j
    · simp [hij, Reader.stop_subscription]
    · simp [hij]

/-- The queues of the broker hold the messages of the list, and the counters agree. -/
structure Describes (s : Spool) (b : Broker) : Prop where
  connections : b.connections = s.connections
  accepted : b.nextSequence = s.accepted
  acknowledged : b.acknowledged = s.acknowledged
  messages : ∃ l, b.Holds l ∧ s.messages = l.map (·.message)

theorem Describes.connect {s : Spool} {b : Broker} (h : s.Describes b) :
    (transport.connect s).Describes b.connect where
  connections := congrArg (· + 1) h.connections
  accepted := h.accepted
  acknowledged := h.acknowledged
  messages := by
    obtain ⟨l, hl, hmessages⟩ := h.messages
    exact ⟨l, hl.connect, hmessages⟩

theorem Describes.close {s : Spool} {b : Broker} (h : s.Describes b) :
    (transport.close s).Describes b.close where
  connections := congrArg (· - 1) h.connections
  accepted := h.accepted
  acknowledged := h.acknowledged
  messages := by
    obtain ⟨l, hl, hmessages⟩ := h.messages
    exact ⟨l, hl.close, hmessages⟩

theorem isConnected_iff {s : Spool} {b : Broker} (h : s.Describes b) :
    b.isConnected = true ↔ s.connections ≠ 0 := by
  rw [Broker.isConnected, h.connections, decide_eq_true_eq]
  exact Nat.pos_iff_ne_zero

theorem isName_eq_false {text : String} (h : HasEmptySegment text) :
    Channel.isName text = false := by
  rw [← Bool.not_eq_true, Channel.isName_iff]
  exact fun hnot => hnot h

theorem whileConnected_eq {α : Type} {s : Spool} {b : Broker} (h : s.Describes b)
    (operation : String) (value : Except TransportError α) :
    b.whileConnected operation value =
      if s.connections = 0 then
        .error (.notConnected ("cannot " ++ operation ++ " on a closed in-memory transport"))
      else value := by
  unfold Broker.whileConnected
  by_cases hc : s.connections = 0
  · have hb : ¬ b.isConnected = true := fun hb => (isConnected_iff h).mp hb hc
    rw [if_neg hb, if_pos hc]
  · rw [if_pos ((isConnected_iff h).mpr hc), if_neg hc]

/-- Both accept a message, and under the same number, or refuse it with the same error. -/
theorem Describes.publish {s : Spool} {b : Broker} (h : s.Describes b) (m : Message) :
    (∃ s' b', s.publish m = .ok (b.nextSequence, s') ∧ b.publish m = .ok b' ∧ s'.Describes b') ∨
      ∃ e, s.publish m = .error e ∧ b.publish m = .error e := by
  unfold Spool.publish Broker.publish
  rw [whileConnected_eq h]
  by_cases hc : s.connections = 0
  · rw [if_pos hc, if_pos hc]
    exact .inr ⟨_, rfl, rfl⟩
  rw [if_neg hc, if_neg hc]
  by_cases hname : HasEmptySegment m.channel
  · rw [if_pos hname, isName_eq_false hname]
    exact .inr ⟨_, rfl, rfl⟩
  · rw [if_neg hname, isName_of_not_hasEmptySegment hname, h.accepted]
    obtain ⟨l, hl, hmessages⟩ := h.messages
    refine .inl ⟨_, b.accept m, rfl, rfl, ?_⟩
    constructor
    · exact h.connections
    · exact congrArg (· + 1) h.accepted
    · exact h.acknowledged
    · refine ⟨l ++ [b.queued m], hl.accept m, ?_⟩
      rw [List.map_append, ← hmessages]
      rfl

theorem Describes.subscribe {s : Spool} {b : Broker} (h : s.Describes b) (pattern : String) :
    b.subscribe pattern = (s.subscribe pattern).map Reader.subscription := by
  unfold Spool.subscribe Broker.subscribe
  rw [whileConnected_eq h]
  by_cases hc : s.connections = 0
  · rw [if_pos hc, if_pos hc]
    rfl
  rw [if_neg hc, if_neg hc]
  unfold ChannelPattern.parse
  by_cases hname : HasEmptySegment pattern
  · rw [dif_pos hname]
    by_cases hempty : pattern = ""
    · subst hempty
      rfl
    · have hpattern : pattern.isEmpty = false := by simpa using hempty
      rw [hpattern, dif_neg (by simp [isName_eq_false hname]), if_neg hempty]
      rfl
  · have hpattern : pattern.isEmpty = false := by
      rw [← Bool.not_eq_true, String.isEmpty_iff]
      rintro rfl
      exact hname (List.mem_singleton.mpr rfl)
    rw [dif_neg hname, hpattern, dif_pos (isName_of_not_hasEmptySegment hname)]
    rfl

theorem next?_of_closed {reader : Reader} (h : reader.isOpen = false) (s : Spool) :
    s.next? reader = none := by
  simp [next?, h]

theorem next?_of_open {reader : Reader} (h : reader.isOpen = true) (s : Spool) :
    s.next? reader =
      (s.messages.find? (reader.pattern.selects ·.channel)).map fun m =>
        (m, { s with messages := s.messages.eraseP (reader.pattern.selects ·.channel) }) := by
  simp [next?, h]

/-- Both hand out the same message, however the channels of the broker are listed. -/
theorem Describes.next? {s : Spool} {b : Broker} (h : s.Describes b) (order : Enumeration)
    (reader : Reader) :
    (∃ m s' b', s.next? reader = some (m, s') ∧
        (Broker.transport order).next? reader.subscription b = some (m, b') ∧ s'.Describes b') ∨
      s.next? reader = none ∧ (Broker.transport order).next? reader.subscription b = none := by
  obtain ⟨l, hl, hmessages⟩ := h.messages
  have hstep : (Broker.transport order).next? reader.subscription b =
      if !reader.isOpen then none
      else b.takeFrom? (order.list b.channels.entries) reader.pattern := rfl
  cases hopen : reader.isOpen with
  | false =>
    rw [hstep, hopen]
    exact .inr ⟨next?_of_closed hopen s, rfl⟩
  | true =>
    have hfind : s.messages.find? (reader.pattern.selects ·.channel) =
        (l.find? (reader.pattern.selects ·.message.channel)).map (·.message) := by
      rw [hmessages, List.find?_map]
      rfl
    rw [hstep, hopen, next?_of_open hopen, hfind]
    rcases hl.takeFrom?_eq (order.perm _) reader.pattern with
      ⟨q, b', hq, htake, hconnections, hnext, hacknowledged, hb'⟩ | ⟨hq, htake⟩
    · rw [hq]
      refine .inl ⟨q.message, _, b', rfl, htake, ?_⟩
      constructor
      · exact hconnections.trans h.connections
      · exact hnext.trans h.accepted
      · exact hacknowledged.trans h.acknowledged
      · refine ⟨_, hb', ?_⟩
        show s.messages.eraseP _ = _
        rw [hmessages, List.eraseP_map]
        rfl
    · rw [hq]
      exact .inr ⟨rfl, htake⟩

theorem Describes.acknowledge {s : Spool} {b : Broker} (h : s.Describes b) (m : Message) :
    (transport.acknowledge m s).1 = (b.acknowledge m).1 ∧
      (transport.acknowledge m s).2.Describes (b.acknowledge m).2 := by
  obtain ⟨l, hl, hmessages⟩ := h.messages
  refine ⟨rfl, ?_⟩
  have hholds := hl.acknowledge m
  unfold Broker.acknowledge at hholds ⊢
  by_cases hm : m.awaitsAck = true
  · simp only [transport, hm, if_true] at hholds ⊢
    exact ⟨h.connections, h.accepted, congrArg (· + 1) h.acknowledged, l, hholds, hmessages⟩
  · simpa [transport, hm] using h

/-- The queue of a channel is what the list has on it. -/
theorem Describes.queue_eq {s : Spool} {b : Broker} (h : s.Describes b) (channel : String) :
    (b.queue channel).map (·.message) = s.messages.filter (·.channel = channel) := by
  obtain ⟨l, hl, hmessages⟩ := h.messages
  rw [hmessages, hl.queue_eq, List.filter_map]
  rfl

/-- Draining hands out all that a pattern selects in the order of publication. -/
theorem Describes.drain_eq {s : Spool} {b : Broker} (h : s.Describes b)
    {subscription : Subscription} (hopen : subscription.closed = false) :
    (subscription.drain b).1 =
      s.messages.filter (fun m => subscription.pattern.selects m.channel) := by
  obtain ⟨l, hl, hmessages⟩ := h.messages
  rw [(hl.drain_eq hopen).1, hmessages, List.filter_map]
  rfl

end Spool

namespace Session

/-! ## No client can tell -/

/-- The clients of a broker and those of a list hold the same and were answered the same. -/
structure Agrees (real : Session Broker Subscription) (ideal : Session Spool Spool.Reader) :
    Prop where
  state : ideal.state.Describes real.state
  subscriptions : real.subscriptions = ideal.subscriptions.map Spool.Reader.subscription
  delivered : real.delivered = ideal.delivered
  published : real.published = ideal.published
  answers : real.answers = ideal.answers

variable {real : Session Broker Subscription} {ideal : Session Spool Spool.Reader}

theorem Agrees.perform (h : real.Agrees ideal) (order : Enumeration) (call : ClientCall) :
    (real.perform (Broker.transport order) call).Agrees (ideal.perform Spool.transport call) := by
  obtain ⟨b, subscriptions, delivered, published, answers⟩ := real
  obtain ⟨s, readers, _, _, _⟩ := ideal
  obtain ⟨hstate, hsubscriptions, rfl, rfl, rfl⟩ := h
  replace hstate : s.Describes b := hstate
  obtain rfl : subscriptions = readers.map Spool.Reader.subscription := hsubscriptions
  cases call with
  | connect => exact ⟨hstate.connect, rfl, rfl, rfl, rfl⟩
  | close => exact ⟨hstate.close, rfl, rfl, rfl, rfl⟩
  | publish m =>
    have hreal : (Broker.transport order).publish m b =
        (b.publish m).map fun b' => (b.nextSequence, b') := rfl
    have hideal : Spool.transport.publish m s = s.publish m := rfl
    rcases hstate.publish m with ⟨s', b', hs, hb, hstate'⟩ | ⟨e, hs, hb⟩
    · simp only [Session.perform, hreal, hideal, hs, hb, Except.map]
      exact ⟨hstate', rfl, rfl, rfl, rfl⟩
    · simp only [Session.perform, hreal, hideal, hs, hb, Except.map]
      exact ⟨hstate, rfl, rfl, rfl, rfl⟩
  | subscribe pattern =>
    have hreal : (Broker.transport order).subscribe pattern b =
        (s.subscribe pattern).map Spool.Reader.subscription := hstate.subscribe pattern
    have hideal : Spool.transport.subscribe pattern s = s.subscribe pattern := rfl
    simp only [Session.perform, hreal, hideal]
    cases s.subscribe pattern with
    | ok reader =>
      simp only [Except.map, List.length_map]
      refine ⟨hstate, ?_, rfl, rfl, rfl⟩
      show _ = (readers ++ [reader]).map Spool.Reader.subscription
      rw [List.map_append]
      rfl
    | error e => exact ⟨hstate, rfl, rfl, rfl, rfl⟩
  | next i =>
    simp only [Session.perform, List.getElem?_map]
    cases readers[i]? with
    | none => exact ⟨hstate, rfl, rfl, rfl, rfl⟩
    | some reader =>
      have hideal : Spool.transport.next? reader s = s.next? reader := rfl
      simp only [Option.map_some]
      rcases hstate.next? order reader with ⟨m, s', b', hs, hb, hstate'⟩ | ⟨hs, hb⟩
      · simp only [hideal, hs, hb]
        exact ⟨hstate', rfl, rfl, rfl, rfl⟩
      · simp only [hideal, hs, hb]
        exact ⟨hstate, rfl, rfl, rfl, rfl⟩
  | closeSubscription i =>
    exact ⟨hstate, (Spool.subscriptions_stop readers i).symm, rfl, rfl, rfl⟩
  | acknowledge i =>
    simp only [Session.perform]
    cases delivered[i]? with
    | none => exact ⟨hstate, rfl, rfl, rfl, rfl⟩
    | some m => exact ⟨(hstate.acknowledge m).2, rfl, rfl, rfl, rfl⟩

/-- What any clients of a new broker do, listing its channels in any order. -/
def ofBroker (calls : List (Enumeration × ClientCall)) : Session Broker Subscription :=
  run Broker.transport calls { state := {} }

/-- The same calls on a list. -/
def ofSpool (calls : List (Enumeration × ClientCall)) : Session Spool Spool.Reader :=
  run (fun _ => Spool.transport) calls { state := {} }

theorem Agrees.run (h : real.Agrees ideal) (calls : List (Enumeration × ClientCall)) :
    (real.run Broker.transport calls).Agrees (ideal.run (fun _ => Spool.transport) calls) := by
  induction calls generalizing real ideal with
  | nil => exact h
  | cons call rest ih => exact ih (h.perform call.1 call.2)

theorem ofBroker_agrees (calls : List (Enumeration × ClientCall)) :
    (ofBroker calls).Agrees (ofSpool calls) :=
  Agrees.run ⟨⟨rfl, rfl, rfl, [], Broker.holds_empty, rfl⟩, rfl, rfl, rfl, rfl⟩ calls

/-! ## Closed subscriptions -/

/-- A call keeps what is subscribed, adds a subscription behind the others, or closes one. -/
theorem perform_subscriptions (t : Transport σ τ) (s : Session σ τ) (call : ClientCall) :
    (s.perform t call).subscriptions = s.subscriptions ∨
      (∃ subscription, (s.perform t call).subscriptions = s.subscriptions ++ [subscription]) ∨
      ∃ i, (s.perform t call).subscriptions = s.subscriptions.modify i t.closeSubscription := by
  cases call with
  | connect => exact .inl rfl
  | close => exact .inl rfl
  | publish m =>
    simp only [Session.perform]
    cases t.publish m s.state with
    | ok accepted => exact .inl rfl
    | error e => exact .inl rfl
  | subscribe pattern =>
    simp only [Session.perform]
    cases t.subscribe pattern s.state with
    | ok subscription => exact .inr (.inl ⟨subscription, rfl⟩)
    | error e => exact .inl rfl
  | next i =>
    simp only [Session.perform]
    cases s.subscriptions[i]? with
    | none => exact .inl rfl
    | some subscription =>
      dsimp only
      cases t.next? subscription s.state with
      | none => exact .inl rfl
      | some taken => exact .inl rfl
  | closeSubscription i => exact .inr (.inr ⟨i, rfl⟩)
  | acknowledge i =>
    simp only [Session.perform]
    cases s.delivered[i]? with
    | none => exact .inl rfl
    | some m => exact .inl rfl

/-- The subscription with the number `i` was closed. -/
def HasClosed (real : Session Broker Subscription) (i : Nat) : Prop :=
  ∃ subscription, real.subscriptions[i]? = some subscription ∧ subscription.closed = true

variable {i : Nat}

theorem hasClosed_closeSubscription (order : Enumeration) (hi : i < real.subscriptions.length) :
    (real.perform (Broker.transport order) (.closeSubscription i)).HasClosed i := by
  refine ⟨real.subscriptions[i].close, ?_, rfl⟩
  show (real.subscriptions.modify i Subscription.close)[i]? = _
  rw [List.getElem?_modify, List.getElem?_eq_getElem hi]
  simp

/-- Nothing opens a subscription again. -/
theorem HasClosed.perform (h : real.HasClosed i) (order : Enumeration) (call : ClientCall) :
    (real.perform (Broker.transport order) call).HasClosed i := by
  obtain ⟨subscription, hi, hclosed⟩ := h
  rcases perform_subscriptions (Broker.transport order) real call with hs | ⟨new, hs⟩ | ⟨j, hs⟩
  · exact ⟨subscription, by rw [hs, hi], hclosed⟩
  · have hlt : i < real.subscriptions.length := (List.getElem?_eq_some_iff.mp hi).1
    exact ⟨subscription, by rw [hs, List.getElem?_append_left hlt, hi], hclosed⟩
  · rw [HasClosed, hs, List.getElem?_modify, hi]
    by_cases hij : j = i
    · exact ⟨subscription.close, by simp [hij, Broker.transport], rfl⟩
    · exact ⟨subscription, by simp [hij], hclosed⟩

theorem HasClosed.run (h : real.HasClosed i) (calls : List (Enumeration × ClientCall)) :
    (real.run Broker.transport calls).HasClosed i := by
  induction calls generalizing real with
  | nil => exact h
  | cons call rest ih => exact ih (h.perform call.1 call.2)

theorem HasClosed.next (h : real.HasClosed i) (order : Enumeration) :
    real.perform (Broker.transport order) (.next i) = real.answer (.taken none) := by
  obtain ⟨subscription, hi, hclosed⟩ := h
  have hnone : (Broker.transport order).next? subscription real.state = none := by
    show (if subscription.closed then none else _) = none
    rw [if_pos hclosed]
  simp only [Session.perform, hi, hnone]

/-! ## Delivery -/

/-- What is true of the messages of a list at any time. -/
structure Ordered (s : Session Spool Spool.Reader) : Prop where
  /-- On a channel, what was handed out and then what waits is what was published. -/
  fifo : ∀ channel,
    ((s.delivered ++ s.state.messages).filter (·.channel = channel)).map Message.awaiting =
      (s.published.filter (·.channel = channel)).map Message.awaiting
  waiting : s.state.messages.Sublist (s.published.map Message.awaiting)
  awaiting : ∀ m ∈ s.state.messages, m.awaitsAck = true
  accepted : s.state.accepted = s.published.length
  /-- An acknowledgement counts once for each message. -/
  acknowledged : s.state.acknowledged = s.delivered.countP Message.isAcked

theorem awaiting_ack (m : Message) : m.ack.awaiting = m.awaiting := rfl

/-- Moving the first selected message in front of the others keeps the order of every channel. -/
theorem filter_channel_move {p : ChannelPattern} {messages : List Message} {m : Message}
    (h : messages.find? (fun x => p.selects x.channel) = some m) (channel : String) :
    (m :: messages.eraseP (fun x => p.selects x.channel)).filter (·.channel = channel) =
      messages.filter (·.channel = channel) := by
  obtain ⟨hm, before, after, rfl, hbefore⟩ := List.find?_eq_some_iff_append.mp h
  have hbefore : ∀ x ∈ before, ¬ p.selects x.channel = true := by simpa using hbefore
  rw [List.eraseP_append_right _ hbefore]
  simp only [List.eraseP_cons_of_pos, hm, List.filter_cons, List.filter_append]
  by_cases hc : m.channel = channel
  · have hnone : before.filter (·.channel = channel) = [] := by
      refine List.filter_eq_nil_iff.mpr fun x hx => ?_
      have hne : x.channel ≠ channel := fun hx' => hbefore x hx (by rw [hx', ← hc]; exact hm)
      simpa using hne
    simp [hc, hnone]
  · simp [hc]

theorem map_set_of_getElem? {α β : Type} {f : α → β} {l : List α} {i : Nat} {x y : α}
    (h : l[i]? = some x) (hf : f y = f x) : (l.set i y).map f = l.map f := by
  obtain ⟨hi, rfl⟩ := List.getElem?_eq_some_iff.mp h
  have hi' : i < (l.map f).length := by rwa [List.length_map]
  rw [List.map_set, hf, ← List.getElem_map f (h := hi'), List.set_getElem_self]

/-- Of a message, only the first acknowledgement changes how many are acknowledged. -/
theorem countP_isAcked_set {l : List Message} {i : Nat} {m : Message} (h : l[i]? = some m) :
    (l.set i m.ack).countP Message.isAcked =
      l.countP Message.isAcked + if m.awaitsAck then 1 else 0 := by
  obtain ⟨hi, rfl⟩ := List.getElem?_eq_some_iff.mp h
  have hack : l[i].ack.isAcked = true := rfl
  rw [List.countP_set hi, hack, if_pos rfl]
  by_cases hm : l[i].awaitsAck = true
  · have hnot : ¬ l[i].isAcked = true := by simp [Message.isAcked, hm]
    rw [if_pos hm, if_neg hnot]
    rfl
  · have hyes : l[i].isAcked = true := by simp [Message.isAcked, hm]
    have hpos : 0 < l.countP Message.isAcked :=
      List.countP_pos_iff.mpr ⟨l[i], List.getElem_mem hi, hyes⟩
    rw [if_neg hm, if_pos hyes]
    omega

theorem map_awaiting_filter (l : List Message) (channel : String) :
    (l.filter (·.channel = channel)).map Message.awaiting =
      (l.map Message.awaiting).filter (·.channel = channel) := by
  rw [List.filter_map]
  rfl

theorem Ordered.publish {s : Session Spool Spool.Reader} (h : s.Ordered) (m : Message) :
    (s.perform Spool.transport (.publish m)).Ordered := by
  have hideal : Spool.transport.publish m s.state = s.state.publish m := rfl
  simp only [Session.perform, hideal, Spool.publish]
  by_cases hc : s.state.connections = 0
  · simpa only [if_pos hc] using ⟨h.fifo, h.waiting, h.awaiting, h.accepted, h.acknowledged⟩
  by_cases hname : Spool.HasEmptySegment m.channel
  · simpa only [if_neg hc, if_pos hname] using
      ⟨h.fifo, h.waiting, h.awaiting, h.accepted, h.acknowledged⟩
  simp only [if_neg hc, if_neg hname]
  constructor
  · intro channel
    show ((s.delivered ++ (s.state.messages ++ [m.awaiting])).filter _).map _ =
      ((s.published ++ [m]).filter _).map _
    rw [← List.append_assoc, List.filter_append, List.map_append, h.fifo channel,
      List.filter_append, List.map_append, map_awaiting_filter [m],
      map_awaiting_filter [m.awaiting]]
    rfl
  · show (s.state.messages ++ [m.awaiting]).Sublist ((s.published ++ [m]).map Message.awaiting)
    rw [List.map_append]
    exact h.waiting.append (List.Sublist.refl [m.awaiting])
  · intro x hx
    rcases List.mem_append.mp hx with hx | hx
    · exact h.awaiting x hx
    · rw [List.mem_singleton.mp hx]
      rfl
  · show s.state.accepted + 1 = (s.published ++ [m]).length
    rw [List.length_append, h.accepted]
    rfl
  · exact h.acknowledged

theorem Ordered.next {s : Session Spool Spool.Reader} (h : s.Ordered) (i : Nat) :
    (s.perform Spool.transport (.next i)).Ordered := by
  simp only [Session.perform]
  cases s.subscriptions[i]? with
  | none => exact ⟨h.fifo, h.waiting, h.awaiting, h.accepted, h.acknowledged⟩
  | some reader =>
    have hideal : Spool.transport.next? reader s.state = s.state.next? reader := rfl
    simp only [hideal]
    cases hopen : reader.isOpen with
    | false =>
      rw [Spool.next?_of_closed hopen]
      exact ⟨h.fifo, h.waiting, h.awaiting, h.accepted, h.acknowledged⟩
    | true =>
      rw [Spool.next?_of_open hopen]
      cases hfind : s.state.messages.find? (reader.pattern.selects ·.channel) with
      | none => exact ⟨h.fifo, h.waiting, h.awaiting, h.accepted, h.acknowledged⟩
      | some m =>
        have hsub : (s.state.messages.eraseP
            (reader.pattern.selects ·.channel)).Sublist s.state.messages :=
          List.eraseP_sublist
        constructor
        · intro channel
          show (((s.delivered ++ [m]) ++ s.state.messages.eraseP _).filter _).map _ = _
          rw [List.append_assoc, List.filter_append, List.singleton_append,
            filter_channel_move hfind channel, ← List.filter_append]
          exact h.fifo channel
        · exact hsub.trans h.waiting
        · exact fun x hx => h.awaiting x (hsub.subset hx)
        · exact h.accepted
        · have hm : m.isAcked = false := by
            simp [Message.isAcked, h.awaiting m (List.mem_of_find?_eq_some hfind)]
          show s.state.acknowledged = (s.delivered ++ [m]).countP Message.isAcked
          rw [List.countP_append, List.countP_singleton, hm, h.acknowledged]
          rfl

theorem Ordered.acknowledge {s : Session Spool Spool.Reader} (h : s.Ordered) (i : Nat) :
    (s.perform Spool.transport (.acknowledge i)).Ordered := by
  simp only [Session.perform]
  cases hm : s.delivered[i]? with
  | none => exact ⟨h.fifo, h.waiting, h.awaiting, h.accepted, h.acknowledged⟩
  | some m =>
    obtain ⟨hmessages, haccepted, hacknowledged⟩ := Spool.acknowledge_snd s.state m
    constructor
    · intro channel
      show ((s.delivered.set i m.ack ++ (Spool.transport.acknowledge m s.state).2.messages).filter
        _).map _ = _
      rw [map_awaiting_filter, List.map_append, map_set_of_getElem? hm (awaiting_ack m),
        ← List.map_append, ← map_awaiting_filter, hmessages]
      exact h.fifo channel
    · exact hmessages ▸ h.waiting
    · exact hmessages ▸ h.awaiting
    · exact haccepted.trans h.accepted
    · show _ = (s.delivered.set i m.ack).countP Message.isAcked
      rw [countP_isAcked_set hm, ← h.acknowledged]
      exact hacknowledged

theorem Ordered.perform {s : Session Spool Spool.Reader} (h : s.Ordered) (call : ClientCall) :
    (s.perform Spool.transport call).Ordered := by
  cases call with
  | connect => exact ⟨h.fifo, h.waiting, h.awaiting, h.accepted, h.acknowledged⟩
  | close => exact ⟨h.fifo, h.waiting, h.awaiting, h.accepted, h.acknowledged⟩
  | publish m => exact h.publish m
  | subscribe pattern =>
    simp only [Session.perform]
    cases Spool.transport.subscribe pattern s.state with
    | ok subscription => exact ⟨h.fifo, h.waiting, h.awaiting, h.accepted, h.acknowledged⟩
    | error e => exact ⟨h.fifo, h.waiting, h.awaiting, h.accepted, h.acknowledged⟩
  | next i => exact h.next i
  | closeSubscription i => exact ⟨h.fifo, h.waiting, h.awaiting, h.accepted, h.acknowledged⟩
  | acknowledge i => exact h.acknowledge i

theorem Ordered.run {s : Session Spool Spool.Reader} (h : s.Ordered)
    (calls : List (Enumeration × ClientCall)) :
    (s.run (fun _ => Spool.transport) calls).Ordered := by
  induction calls generalizing s with
  | nil => exact h
  | cons call rest ih => exact ih (h.perform call.2)

theorem ofSpool_ordered (calls : List (Enumeration × ClientCall)) : (ofSpool calls).Ordered := by
  refine Ordered.run ?_ calls
  constructor
  · exact fun _ => rfl
  · exact List.Sublist.refl []
  · exact fun m hm => absurd hm List.not_mem_nil
  · rfl
  · rfl

/-- A broker is one list of messages in the order of publication: its clients are answered as by
such a list, and every channel is delivered in order, each message once.  Whoever closed a
subscription and still asks is told that there is nothing, and nothing changes. -/
theorem broker_refines_spool (calls : List (Enumeration × ClientCall)) :
    (ofBroker calls).Agrees (ofSpool calls) ∧
      (∀ channel, ((ofBroker calls).state.queue channel).map (·.message) =
        (ofSpool calls).state.messages.filter (·.channel = channel)) ∧
      (∀ channel, ((((ofBroker calls).delivered ++ (ofSpool calls).state.messages).filter
          (·.channel = channel)).map Message.awaiting) =
        ((ofBroker calls).published.filter (·.channel = channel)).map Message.awaiting) ∧
      (ofSpool calls).state.messages.Sublist ((ofBroker calls).published.map Message.awaiting) ∧
      (∀ pattern : ChannelPattern,
        (Subscription.drain { pattern } (ofBroker calls).state).1 =
          (ofSpool calls).state.messages.filter (fun m => pattern.selects m.channel)) ∧
      (ofBroker calls).state.nextSequence = (ofBroker calls).published.length ∧
      (ofBroker calls).state.acknowledged =
        (ofBroker calls).delivered.countP Message.isAcked ∧
      ∀ before order i later, calls = before ++ (order, .closeSubscription i) :: later →
        i < (ofBroker before).subscriptions.length → ∀ order',
          (ofBroker calls).perform (Broker.transport order') (.next i) =
            (ofBroker calls).answer (.taken none) := by
  have hagrees := ofBroker_agrees calls
  have hordered := ofSpool_ordered calls
  have hstate := hagrees.state
  refine ⟨hagrees, hstate.queue_eq, ?_, ?_, ?_, ?_, ?_, ?_⟩
  · intro channel
    rw [hagrees.delivered, hagrees.published]
    exact hordered.fifo channel
  · rw [hagrees.published]
    exact hordered.waiting
  · exact fun pattern => hstate.drain_eq rfl
  · rw [hagrees.published, ← hordered.accepted]
    exact hstate.accepted
  · rw [hagrees.delivered, ← hordered.acknowledged]
    exact hstate.acknowledged
  · rintro before order i later rfl hi order'
    have hclosed := (hasClosed_closeSubscription order hi).run later
    rw [ofBroker, run_append]
    exact hclosed.next order'

/-- Two clients subscribe to the same channels, and the first closes its subscription. -/
def closingOne : List (Enumeration × ClientCall) :=
  let message (channel : String) : Message := { channel, payload := {}, metadata := .empty }
  [.connect, .subscribe "jobs.*.cfg", .subscribe "jobs.*.cfg", .publish (message "jobs.b.cfg"),
    .publish (message "jobs.a.cfg"), .closeSubscription 0].map (Enumeration.backwards, ·)

/-- The first client is told that there is nothing, and the second is handed the older of the two
messages that wait. -/
theorem broker_refines_spool_of_closed :
    (ofBroker closingOne).perform (Broker.transport .backwards) (.next 0) =
        (ofBroker closingOne).answer (.taken none) ∧
      (ofBroker closingOne).state.size = 2 ∧
      (ofBroker (closingOne ++ [(.backwards, .next 0), (.backwards, .next 1)])).delivered.map
        (·.channel) = ["jobs.b.cfg"] := by
  obtain ⟨-, -, -, -, -, -, -, hclosed⟩ := broker_refines_spool closingOne
  refine ⟨hclosed (closingOne.take 5) .backwards 0 [] rfl ?_ .backwards, ?_, ?_⟩
  · decide +kernel
  · decide +kernel
  · decide +kernel

end Session
end Dataflow
