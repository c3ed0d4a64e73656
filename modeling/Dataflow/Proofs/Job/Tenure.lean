/-
Nobody gives up a connection that is another's.

The broker counts connections and does not know whose they are.  `Cluster.call?` says
which call a step makes, and `ClusterAction.party` whose step it is.  Whatever the order
of the steps, a component has closed as often as it has connected, but for the
connections that it still holds; and as long as clients close only what they opened, the
broker counts what all of them hold.

An orchestrator holds a connection in one of three ways: it is noted, its run has not
noted it yet or has taken the note back, or a stop call has taken the note.  The note is
up only while a run is there that will ask for it (`Orchestrator.Sound`), so a stop that
finds no note, because the run has connected and not noted so yet, leaves the connection
to the run.
-/
import Dataflow.Proofs.Job.Backlog
import Dataflow.Proofs.Job.Conservation
import Dataflow.Proofs.Job.Service

namespace Dataflow

/-! ## Calls -/

/-- What is asked of a broker about its connections. -/
inductive ConnectionCall where
  | connect
  | close
  deriving DecidableEq

namespace ConnectionCall

def opened (call? : Option ConnectionCall) : Nat := if call? = some connect then 1 else 0

def closed (call? : Option ConnectionCall) : Nat := if call? = some close then 1 else 0

@[simp] theorem opened_none : opened none = 0 := rfl

@[simp] theorem opened_connect : opened (some connect) = 1 := rfl

@[simp] theorem opened_close : opened (some close) = 0 := rfl

@[simp] theorem closed_none : closed none = 0 := rfl

@[simp] theorem closed_connect : closed (some connect) = 0 := rfl

@[simp] theorem closed_close : closed (some close) = 1 := rfl

end ConnectionCall

open ConnectionCall (opened closed)

/-- Who asks. -/
inductive Party where
  | orchestrator (i : Nat)
  | worker (i : Nat)
  /-- All clients that are no components. -/
  | clients
  deriving DecidableEq

namespace Broker

/-- The broker after a call, if there is one. -/
def after (b : Broker) : Option ConnectionCall → Broker
  | none => b
  | some .connect => b.connect
  | some .close => b.close

/-- A call counts for what it is if there is something to close. -/
theorem connections_after (b : Broker) (call? : Option ConnectionCall)
    (h : closed call? ≤ b.connections) :
    (b.after call?).connections + closed call? = b.connections + opened call? := by
  cases call? with
  | none => rfl
  | some call =>
    cases call with
    | connect => rfl
    | close => exact Nat.sub_add_cancel h

end Broker

namespace ClusterAction

/-- Whose step it is. -/
def party : ClusterAction → Party
  | enqueue i _ _ => .orchestrator i
  | dispatch i => .orchestrator i
  | collect i => .orchestrator i
  | handle w => .worker w
  | beginRun i => .orchestrator i
  | noteConnection i => .orchestrator i
  | leaveLoop i => .orchestrator i
  | releaseRun i => .orchestrator i
  | signalStop i => .orchestrator i
  | beginStop i => .orchestrator i
  | releaseStop i _ => .orchestrator i
  | beginWork w => .worker w
  | leaveWork w _ => .worker w
  | endWork w => .worker w
  | signalWorker w => .worker w
  | connect => .clients
  | close => .clients
  | publish _ => .clients

/-- The call that a client makes. -/
def call? : ClusterAction → Option ConnectionCall
  | connect => some .connect
  | close => some .close
  | _ => none

end ClusterAction

/-! ## What components hold -/

/-- The call that a release makes next. -/
def Release.call? : Release → Option ConnectionCall
  | taking => none
  | closing => some .close

/-- Whether a run holds a connection for which there is no note: it has not noted it yet, or it has
taken the note. -/
def OrchestratorRun.holds : OrchestratorRun → Bool
  | joining => true
  | releasing .closing => true
  | _ => false

/-- Whether a run will still ask for the note. -/
def OrchestratorRun.willAsk : OrchestratorRun → Bool
  | looping => true
  | releasing .taking => true
  | _ => false

namespace Orchestrator

/-- The call that an orchestrator makes when it is its turn. -/
def call? (o : Orchestrator) : ClusterAction → Option ConnectionCall
  | .beginRun _ =>
    match o.run with
    | .idle => some .connect
    | _ => none
  | .releaseRun _ =>
    match o.run with
    | .releasing release => release.call?
    | _ => none
  | .releaseStop _ call => o.stopCalls[call]?.bind Release.call?
  | _ => none

/-- How many connections an orchestrator holds. -/
def held (o : Orchestrator) : Nat :=
  o.connected.toNat + o.run.holds.toNat + o.stopCalls.count .closing

/-- The note is up only while a run is there that will ask for it. -/
def Sound (o : Orchestrator) : Prop := o.connected = true → o.run.willAsk = true

/-- Neither a run nor a stop call is in progress. -/
def AtRest (o : Orchestrator) : Prop := o.run = .idle ∧ o.stopCalls = []

instance (o : Orchestrator) : Decidable o.AtRest := inferInstanceAs (Decidable (_ ∧ _))

theorem Sound.connected_eq_false {o : Orchestrator} (h : o.Sound) (hrun : o.run.willAsk = false) :
    o.connected = false :=
  Bool.eq_false_iff.mpr fun hconnected => Bool.eq_false_iff.mp hrun (h hconnected)

theorem held_of_atRest {o : Orchestrator} (h : o.Sound) (hrest : o.AtRest) : o.held = 0 := by
  obtain ⟨hidle, hcalls⟩ := hrest
  have hconnected := h.connected_eq_false (by rw [hidle]; rfl)
  rw [held, hconnected, hidle, hcalls]
  rfl

end Orchestrator

namespace Worker

/-- The call that a worker makes when it is its turn. -/
def call? (w : Worker) : ClusterAction → Option ConnectionCall
  | .beginWork _ =>
    match w.run with
    | .idle => some .connect
    | _ => none
  | .endWork _ =>
    match w.run with
    | .closing _ => some .close
    | _ => none
  | _ => none

/-- Whether the run of a worker has connected and not closed yet. -/
def isRunning (w : Worker) : Bool :=
  match w.run with
  | .looping => true
  | .closing _ => true
  | _ => false

/-- How many connections a worker holds. -/
def held (w : Worker) : Nat := if w.isRunning then 1 else 0

theorem held_of_result? {w : Worker} (h : w.result?.isSome = true) : w.held = 0 := by
  unfold result? at h
  split at h
  · rename_i hrun
    simp [held, isRunning, hrun]
  · cases h

end Worker

/-! ## One component among others -/

/-- What stands in a list before one of its elements and behind it stays if that is exchanged or
taken out. -/
theorem exists_split {α : Type} {xs : List α} {i : Nat} {x : α} (h : xs[i]? = some x) :
    ∃ before after, xs = before ++ x :: after ∧ (∀ y, xs.set i y = before ++ y :: after) ∧
      xs.eraseIdx i = before ++ after := by
  obtain ⟨hi, rfl⟩ := List.getElem?_eq_some_iff.mp h
  refine ⟨xs.take i, xs.drop (i + 1), ?_, fun y => ?_, List.eraseIdx_eq_take_drop_succ xs i⟩
  · rw [← List.drop_eq_getElem_cons hi, List.take_append_drop]
  · rw [List.set_eq_take_append_cons_drop, if_pos hi]

section

variable {σ : Type} {states : List σ} {i : Nat} {s : σ}

def heldAt (held : σ → Nat) (states : List σ) (i : Nat) : Nat := (states[i]?.map held).getD 0

theorem heldAt_eq (held : σ → Nat) (h : states[i]? = some s) : heldAt held states i = held s := by
  rw [heldAt, h, Option.map_some, Option.getD_some]

theorem heldAt_set_self (held : σ → Nat) (h : states[i]? = some s) (s' : σ) :
    heldAt held (states.set i s') i = held s' :=
  heldAt_eq held (List.getElem?_set_self (List.getElem?_eq_some_iff.mp h).1)

theorem heldAt_set_ne (held : σ → Nat) {j : Nat} (h : i ≠ j) (s' : σ) :
    heldAt held (states.set i s') j = heldAt held states j := by
  rw [heldAt, heldAt, List.getElem?_set_ne h]

theorem sum_map_set (held : σ → Nat) (h : states[i]? = some s) (s' : σ) :
    ((states.set i s').map held).sum + held s = (states.map held).sum + held s' := by
  obtain ⟨before, after, hsplit, hset, -⟩ := exists_split h
  rw [hset, hsplit]
  simp only [List.map_append, List.map_cons, List.sum_append, List.sum_cons]
  omega

theorem heldAt_le_sum (held : σ → Nat) (states : List σ) (i : Nat) :
    heldAt held states i ≤ (states.map held).sum := by
  cases h : states[i]? with
  | none =>
    rw [heldAt, h]
    exact Nat.zero_le _
  | some s =>
    obtain ⟨before, after, hsplit, -, -⟩ := exists_split h
    rw [heldAt_eq held h, hsplit, List.map_append, List.map_cons, List.sum_append, List.sum_cons]
    omega

end

/-! ## Steps of components -/

/-- A step keeps a component sound, and it changes what the broker counts and what the component
holds by a call, if there is one. -/
structure Moved.Balanced {σ : Type} (sound : σ → Prop) (held : σ → Nat)
    (call? : Option ConnectionCall) (s : σ) (b : Broker) (m : Moved σ) : Prop where
  connections : m.broker.connections = (b.after call?).connections
  keeps : sound s → sound m.state
  balance : sound s → held m.state + closed call? = held s + opened call?

theorem Moved.balanced_stay {σ : Type} {sound : σ → Prop} {held : σ → Nat} (s : σ) (b : Broker) :
    Balanced sound held none s b (Move.stay s b) where
  connections := rfl
  keeps hsound := hsound
  balance _ := rfl

namespace Orchestrator

variable {o : Orchestrator} {b : Broker}

abbrev Balanced (a : ClusterAction) (o : Orchestrator) (b : Broker) (m : Moved Orchestrator) :
    Prop :=
  m.Balanced Sound held (o.call? a) o b

/-- A step that only concerns jobs makes no call. -/
theorem balanced_of_jobs {a : ClusterAction} {m : Moved Orchestrator} (hcall : o.call? a = none)
    (hrun : m.state.run = o.run) (hconnected : m.state.connected = o.connected)
    (hcalls : m.state.stopCalls = o.stopCalls)
    (hconnections : m.broker.connections = b.connections) : Balanced a o b m where
  connections := by
    rw [hcall, hconnections]
    rfl
  keeps hsound := by
    unfold Sound
    rw [hrun, hconnected]
    exact hsound
  balance _ := by
    rw [hcall, held, hrun, hconnected, hcalls]
    rfl

theorem balanced_dispatch (i : Nat) : Balanced (.dispatch i) o b (dispatch o b) := by
  unfold dispatch
  split
  · exact Moved.balanced_stay o b
  · dsimp only
    split
    · rename_i hpublish
      obtain ⟨-, rfl⟩ := Broker.publish_eq_ok_iff.mp hpublish
      exact balanced_of_jobs rfl rfl rfl rfl rfl
    · exact balanced_of_jobs rfl rfl rfl rfl rfl

theorem balanced_collect (i : Nat) : Balanced (.collect i) o b (collect o b) := by
  cases hconnected : b.isConnected with
  | false =>
    rw [Ledger.collect_of_not_connected hconnected]
    exact Moved.balanced_stay o b
  | true =>
    rw [Ledger.collect_of_connected hconnected]
    cases htake : b.take? Job.reports with
    | none => exact Moved.balanced_stay o b
    | some taken =>
      obtain ⟨status, b'⟩ := taken
      obtain ⟨futures, hstate⟩ := o.correlate_state status
      have hconnections : (b'.acknowledge status).2.connections = b.connections :=
        (Broker.acknowledge_connections b' status).trans (Broker.take?_connections htake)
      dsimp only
      rw [hstate]
      exact balanced_of_jobs rfl rfl rfl rfl hconnections

theorem balanced_beginRun (i : Nat) : Balanced (.beginRun i) o b (beginRun o b) := by
  unfold Balanced beginRun call?
  cases hrun : o.run with
  | idle =>
    constructor
    · rfl
    · intro hsound hconnected
      have hnone := hsound.connected_eq_false (by rw [hrun]; rfl)
      exact absurd (hnone.symm.trans hconnected) nofun
    · intro _
      simp [held, hrun, OrchestratorRun.holds, Nat.add_right_comm]
  | _ => exact Moved.balanced_stay o b

theorem balanced_noteConnection (i : Nat) :
    Balanced (.noteConnection i) o b (noteConnection o b) := by
  unfold noteConnection
  cases hrun : o.run with
  | joining =>
    constructor
    · rfl
    · exact fun _ _ => rfl
    · intro hsound
      have hnone := hsound.connected_eq_false (by rw [hrun]; rfl)
      simp [held, hrun, hnone, OrchestratorRun.holds, call?]
  | _ => exact Moved.balanced_stay o b

theorem balanced_leaveLoop (i : Nat) : Balanced (.leaveLoop i) o b (leaveLoop o b) := by
  unfold leaveLoop
  split
  · rename_i hleaves
    constructor
    · rfl
    · exact fun _ _ => rfl
    · intro _
      simp [held, hleaves.1, OrchestratorRun.holds, call?]
  · exact Moved.balanced_stay o b

theorem balanced_releaseRun (i : Nat) : Balanced (.releaseRun i) o b (releaseRun o b) := by
  unfold Balanced releaseRun call?
  cases hrun : o.run with
  | releasing release =>
    cases release with
    | taking =>
      dsimp only
      split
      · rename_i hconnected
        constructor
        · rfl
        · exact fun _ => nofun
        · intro _
          simp [held, hrun, hconnected, OrchestratorRun.holds, Release.call?]
      · rename_i hconnected
        constructor
        · rfl
        · exact fun _ h => absurd h hconnected
        · intro _
          simp [held, endRun, hrun, hconnected, OrchestratorRun.holds, Release.call?]
    | closing =>
      constructor
      · rfl
      · intro hsound hconnected
        have hnone := hsound.connected_eq_false (by rw [hrun]; rfl)
        exact absurd (hnone.symm.trans hconnected) nofun
      · intro _
        simp [held, endRun, hrun, OrchestratorRun.holds, Release.call?, Nat.add_right_comm]
  | _ => exact Moved.balanced_stay o b

theorem balanced_releaseStop (i call : Nat) :
    Balanced (.releaseStop i call) o b (releaseStop call o b) := by
  unfold Balanced releaseStop
  dsimp only [call?]
  cases hcall : o.stopCalls[call]? with
  | none => exact Moved.balanced_stay o b
  | some release =>
    obtain ⟨before, after, hsplit, hset, herase⟩ := exists_split hcall
    cases release with
    | taking =>
      dsimp only
      split
      · rename_i hconnected
        have hcount : (o.stopCalls.set call .closing).count .closing =
            o.stopCalls.count .closing + 1 := by
          rw [hset, hsplit]
          simp [Nat.add_assoc]
        constructor
        · rfl
        · exact fun _ => nofun
        · intro _
          simp only [held, hcount, hconnected, Bool.toNat_true, Bool.toNat_false, Option.bind_some,
            Release.call?, ConnectionCall.opened_none, ConnectionCall.closed_none]
          omega
      · have hcount : (o.stopCalls.eraseIdx call).count .closing =
            o.stopCalls.count .closing := by
          rw [herase, hsplit]
          simp
        constructor
        · rfl
        · exact id
        · intro _
          simp [held, hcount, Release.call?]
    | closing =>
      have hcount : (o.stopCalls.eraseIdx call).count .closing + 1 =
          o.stopCalls.count .closing := by
        rw [herase, hsplit]
        simp [Nat.add_assoc]
      constructor
      · rfl
      · exact id
      · intro _
        simp [held, ← hcount, Release.call?, Nat.add_assoc]

theorem balanced_signalStop (i : Nat) :
    Balanced (.signalStop i) o b { state := o.signalStop, broker := b } :=
  balanced_of_jobs rfl rfl rfl rfl rfl

/-- A stop call that begins holds nothing. -/
theorem balanced_beginStop (i : Nat) :
    Balanced (.beginStop i) o b { state := o.beginStop, broker := b } where
  connections := rfl
  keeps hsound := hsound
  balance _ := by simp [held, beginStop, signalStop, call?]

end Orchestrator

namespace Worker

variable {w : Worker} {b : Broker}

/-- Nothing has to be asked of a worker for its account to balance. -/
abbrev Balanced (a : ClusterAction) (w : Worker) (b : Broker) (m : Moved Worker) : Prop :=
  m.Balanced (fun _ => True) held (w.call? a) w b

theorem balanced_handle (i : Nat) (bench : Workbench) :
    Balanced (.handle i) w b (Cluster.handleNext bench w b) := by
  obtain ⟨hrun, -, hconnections⟩ := handleNext_frame bench w b
  constructor
  · exact hconnections
  · exact fun _ => trivial
  · intro _
    show held _ + 0 = held w + 0
    rw [held, held, isRunning, isRunning, hrun]

theorem balanced_beginRun (i : Nat) : Balanced (.beginWork i) w b (beginRun w b) := by
  unfold Balanced beginRun call?
  cases hrun : w.run with
  | idle =>
    constructor
    · rfl
    · exact fun _ => trivial
    · intro _
      simp [held, isRunning, hrun]
  | _ => exact Moved.balanced_stay w b

theorem balanced_signalStop (i : Nat) :
    Balanced (.signalWorker i) w b { state := w.signalStop, broker := b } where
  connections := rfl
  keeps _ := trivial
  balance _ := rfl

theorem balanced_leaveLoop (i : Nat) (result : Except JobError Unit) :
    Balanced (.leaveWork i result) w b (leaveLoop result w b) := by
  unfold leaveLoop
  cases hrun : w.run with
  | looping =>
    constructor
    · rfl
    · exact fun _ => trivial
    · intro _
      simp [held, isRunning, hrun, call?]
  | _ => exact Moved.balanced_stay w b

theorem balanced_endRun (i : Nat) : Balanced (.endWork i) w b (endRun w b) := by
  unfold Balanced endRun call?
  cases hrun : w.run with
  | closing result =>
    constructor
    · rfl
    · exact fun _ => trivial
    · intro _
      simp [held, isRunning, hrun]
  | _ => exact Moved.balanced_stay w b

end Worker

/-! ## Steps of a cluster -/

namespace Cluster

/-- The call that an action makes. -/
def call? (c : Cluster) (a : ClusterAction) : Option ConnectionCall :=
  match a.party with
  | .orchestrator i => c.orchestrators[i]?.bind (·.call? a)
  | .worker w => c.workers[w]?.bind (·.call? a)
  | .clients => a.call?

/-- How many connections a component holds, if there is one with its number. -/
def heldBy (c : Cluster) : Party → Nat
  | .orchestrator i => heldAt Orchestrator.held c.orchestrators i
  | .worker w => heldAt Worker.held c.workers w
  | .clients => 0

/-- How many connections all components hold. -/
def held (c : Cluster) : Nat :=
  (c.orchestrators.map Orchestrator.held).sum + (c.workers.map Worker.held).sum

theorem heldBy_le_held (c : Cluster) (p : Party) : c.heldBy p ≤ c.held := by
  cases p with
  | orchestrator i =>
    exact Nat.le_trans (heldAt_le_sum Orchestrator.held _ i) (Nat.le_add_right _ _)
  | worker w => exact Nat.le_trans (heldAt_le_sum Worker.held _ w) (Nat.le_add_left _ _)
  | clients => exact Nat.zero_le _

def Sound (c : Cluster) : Prop := ∀ o ∈ c.orchestrators, o.Sound

/-- What a step of a party, with the call that it makes, does to who holds connections. -/
structure Shift (c : Cluster) (p : Party) (call? : Option ConnectionCall) (c' : Cluster) :
    Prop where
  connections : c'.broker.connections = (c.broker.after call?).connections
  keeps : c.Sound → c'.Sound
  own : c.Sound → p ≠ .clients → c'.heldBy p + closed call? = c.heldBy p + opened call?
  others : ∀ q, q ≠ p → c'.heldBy q = c.heldBy q
  /-- All components together hold as much more or less as the party does. -/
  total : c'.held + c.heldBy p = c.held + c'.heldBy p

theorem Shift.refl (c : Cluster) (p : Party) : Shift c p none c where
  connections := rfl
  keeps := id
  own _ _ := rfl
  others _ _ := rfl
  total := rfl

theorem Shift.of_orchestrator {c c' : Cluster} {i : Nat} {o : Orchestrator} {a : ClusterAction}
    {m : Moved Orchestrator} (ho : c.orchestrators[i]? = some o)
    (hm : Orchestrator.Balanced a o c.broker m)
    (hstates : c'.orchestrators = c.orchestrators.set i m.state) (hworkers : c'.workers = c.workers)
    (hbroker : c'.broker = m.broker) : Shift c (.orchestrator i) (o.call? a) c' := by
  have hbefore : c.heldBy (.orchestrator i) = o.held := heldAt_eq Orchestrator.held ho
  have hafter : c'.heldBy (.orchestrator i) = m.state.held := by
    rw [heldBy, hstates, heldAt_set_self Orchestrator.held ho]
  constructor
  · rw [hbroker]
    exact hm.connections
  · intro hsound x hx
    rw [hstates] at hx
    rcases List.mem_or_eq_of_mem_set hx with hx | rfl
    · exact hsound x hx
    · exact hm.keeps (hsound o (List.mem_of_getElem? ho))
  · intro hsound _
    rw [hbefore, hafter]
    exact hm.balance (hsound o (List.mem_of_getElem? ho))
  · intro q hq
    cases q with
    | orchestrator j =>
      have hj : i ≠ j := fun heq => hq (heq ▸ rfl)
      rw [heldBy, heldBy, hstates, heldAt_set_ne Orchestrator.held hj]
    | worker w => rw [heldBy, heldBy, hworkers]
    | clients => rfl
  · have hsum := sum_map_set Orchestrator.held ho m.state
    rw [hbefore, hafter, held, held, hstates, hworkers]
    omega

theorem Shift.of_worker {c c' : Cluster} {i : Nat} {w : Worker} {a : ClusterAction}
    {m : Moved Worker} (hw : c.workers[i]? = some w) (hm : Worker.Balanced a w c.broker m)
    (hstates : c'.workers = c.workers.set i m.state)
    (horchestrators : c'.orchestrators = c.orchestrators)
    (hbroker : c'.broker = m.broker) : Shift c (.worker i) (w.call? a) c' := by
  have hbefore : c.heldBy (.worker i) = w.held := heldAt_eq Worker.held hw
  have hafter : c'.heldBy (.worker i) = m.state.held := by
    rw [heldBy, hstates, heldAt_set_self Worker.held hw]
  constructor
  · rw [hbroker]
    exact hm.connections
  · intro hsound
    unfold Sound
    rw [horchestrators]
    exact hsound
  · intro _ _
    rw [hbefore, hafter]
    exact hm.balance trivial
  · intro q hq
    cases q with
    | orchestrator j => rw [heldBy, heldBy, horchestrators]
    | worker j =>
      have hj : i ≠ j := fun heq => hq (heq ▸ rfl)
      rw [heldBy, heldBy, hstates, heldAt_set_ne Worker.held hj]
    | clients => rfl
  · have hsum := sum_map_set Worker.held hw m.state
    rw [hbefore, hafter, held, held, hstates, horchestrators]
    omega

theorem shift_atOrchestrator (c : Cluster) (i : Nat) {a : ClusterAction}
    {move : Move Orchestrator} (hmove : ∀ o b, Orchestrator.Balanced a o b (move o b)) :
    Shift c (.orchestrator i) (c.orchestrators[i]?.bind (·.call? a)) (c.atOrchestrator i move) := by
  unfold atOrchestrator
  cases ho : c.orchestrators[i]? with
  | none => exact .refl c _
  | some o => exact .of_orchestrator ho (hmove o c.broker) rfl rfl rfl

theorem shift_atWorker (c : Cluster) (i : Nat) {a : ClusterAction} {move : Move Worker}
    (hmove : ∀ w b, Worker.Balanced a w b (move w b)) :
    Shift c (.worker i) (c.workers[i]?.bind (·.call? a)) (c.atWorker i move) := by
  unfold atWorker
  cases hw : c.workers[i]? with
  | none => exact .refl c _
  | some w => exact .of_worker hw (hmove w c.broker) rfl rfl rfl

/-- A signal is a step, too, of which nothing is logged. -/
theorem modify_orchestrator (c : Cluster) (i : Nat) (f : Orchestrator → Orchestrator) :
    { c with orchestrators := c.orchestrators.modify i f } =
      c.atOrchestrator i fun o b => { state := f o, broker := b } := by
  unfold atOrchestrator
  rw [List.modify_eq_set_getElem?]
  cases c.orchestrators[i]? with
  | none => rfl
  | some o => simp

theorem modify_worker (c : Cluster) (i : Nat) (f : Worker → Worker) :
    { c with workers := c.workers.modify i f } =
      c.atWorker i fun w b => { state := f w, broker := b } := by
  unfold atWorker
  rw [List.modify_eq_set_getElem?]
  cases c.workers[i]? with
  | none => rfl
  | some w => simp

/-- Whatever a step does, it is a step of one party. -/
theorem shift_act (bench : Workbench) (a : ClusterAction) (c : Cluster) :
    Shift c a.party (c.call? a) (act bench a c) := by
  cases a with
  | enqueue i job wantFuture =>
    have hnone : c.call? (.enqueue i job wantFuture) = none := by
      show c.orchestrators[i]?.bind _ = none
      cases c.orchestrators[i]? <;> rfl
    rw [act]
    split
    · rename_i ticket c' henqueue
      obtain ⟨o, o', ho, hok, rfl⟩ := enqueue_eq_ok henqueue
      have hbalanced : Orchestrator.Balanced (.enqueue i job wantFuture) o c.broker
          { state := o', broker := c.broker } := by
        rcases Orchestrator.enqueue_eq_ok hok with ⟨-, -, rfl⟩ | ⟨-, -, rfl⟩
        · exact Orchestrator.balanced_of_jobs rfl rfl rfl rfl rfl
        · exact Orchestrator.balanced_of_jobs rfl rfl rfl rfl rfl
      rw [hnone]
      exact .of_orchestrator ho hbalanced rfl rfl rfl
    · rw [hnone]
      exact .refl c _
  | dispatch i => exact c.shift_atOrchestrator i fun _ _ => Orchestrator.balanced_dispatch i
  | collect i => exact c.shift_atOrchestrator i fun _ _ => Orchestrator.balanced_collect i
  | beginRun i => exact c.shift_atOrchestrator i fun _ _ => Orchestrator.balanced_beginRun i
  | noteConnection i =>
    exact c.shift_atOrchestrator i fun _ _ => Orchestrator.balanced_noteConnection i
  | leaveLoop i => exact c.shift_atOrchestrator i fun _ _ => Orchestrator.balanced_leaveLoop i
  | releaseRun i => exact c.shift_atOrchestrator i fun _ _ => Orchestrator.balanced_releaseRun i
  | releaseStop i call =>
    exact c.shift_atOrchestrator i fun _ _ => Orchestrator.balanced_releaseStop i call
  | handle i => exact c.shift_atWorker i fun _ _ => Worker.balanced_handle i bench
  | beginWork i => exact c.shift_atWorker i fun _ _ => Worker.balanced_beginRun i
  | leaveWork i result => exact c.shift_atWorker i fun _ _ => Worker.balanced_leaveLoop i result
  | endWork i => exact c.shift_atWorker i fun _ _ => Worker.balanced_endRun i
  | signalStop i =>
    rw [act, modify_orchestrator]
    exact c.shift_atOrchestrator i fun _ _ => Orchestrator.balanced_signalStop i
  | beginStop i =>
    rw [act, modify_orchestrator]
    exact c.shift_atOrchestrator i fun _ _ => Orchestrator.balanced_beginStop i
  | signalWorker i =>
    rw [act, modify_worker]
    exact c.shift_atWorker i fun _ _ => Worker.balanced_signalStop i
  | connect => exact ⟨rfl, id, fun _ h => absurd rfl h, fun _ _ => rfl, rfl⟩
  | close => exact ⟨rfl, id, fun _ h => absurd rfl h, fun _ _ => rfl, rfl⟩
  | publish m =>
    rw [act]
    split
    · rename_i b hpublish
      obtain ⟨-, rfl⟩ := Broker.publish_eq_ok_iff.mp hpublish
      exact ⟨rfl, id, fun _ h => absurd rfl h, fun _ _ => rfl, rfl⟩
    · exact .refl c _

/-- If no orchestrator runs or is being stopped, only running workers hold connections. -/
theorem held_of_atRest {c : Cluster} (hsound : c.Sound) (hrest : ∀ o ∈ c.orchestrators, o.AtRest) :
    c.held = c.workers.countP (·.isRunning) := by
  have horchestrators : (c.orchestrators.map Orchestrator.held).sum = 0 := by
    refine List.sum_eq_zero_iff_forall_eq_nat.mpr fun n hn => ?_
    obtain ⟨o, ho, rfl⟩ := List.mem_map.mp hn
    exact Orchestrator.held_of_atRest (hsound o ho) (hrest o ho)
  rw [held, horchestrators, Nat.zero_add]
  induction c.workers with
  | nil => rfl
  | cons w rest ih =>
    rw [List.map_cons, List.sum_cons, List.countP_cons, ih, Nat.add_comm]
    rfl

/-! ## Runs -/

/-- The call that an action makes, and who makes it. -/
def signedCall? (c : Cluster) (a : ClusterAction) : Option (Party × ConnectionCall) :=
  (c.call? a).map (a.party, ·)

/-- How often a party has connected, and how often it has closed. -/
def opens (calls : List (Party × ConnectionCall)) (p : Party) : Nat := calls.count (p, .connect)

def closes (calls : List (Party × ConnectionCall)) (p : Party) : Nat := calls.count (p, .close)

theorem count_append_signed (calls : List (Party × ConnectionCall))
    (call? : Option ConnectionCall) (p q : Party) (call : ConnectionCall) :
    (calls ++ (call?.map (p, ·)).toList).count (q, call) =
      calls.count (q, call) + if q = p then if call? = some call then 1 else 0 else 0 := by
  rw [List.count_append, ← ite_and]
  congr 1
  cases call? with
  | none => simp
  | some made =>
    rw [Option.map_some, Option.toList_some, List.count_singleton]
    simp [@eq_comm _ p q]

theorem opens_append (calls : List (Party × ConnectionCall)) (call? : Option ConnectionCall)
    (p q : Party) : opens (calls ++ (call?.map (p, ·)).toList) q =
      opens calls q + if q = p then opened call? else 0 :=
  count_append_signed calls call? p q .connect

theorem closes_append (calls : List (Party × ConnectionCall)) (call? : Option ConnectionCall)
    (p q : Party) : closes (calls ++ (call?.map (p, ·)).toList) q =
      closes calls q + if q = p then closed call? else 0 :=
  count_append_signed calls call? p q .close

/-- What the calls that were made tell of the connections that a cluster holds. -/
structure Tenure (calls : List (Party × ConnectionCall)) (c : Cluster) : Prop where
  sound : c.Sound
  balance : ∀ p, p ≠ .clients → opens calls p = closes calls p + c.heldBy p

/-- The count of the broker is what all components and all clients hold. -/
def Counted (calls : List (Party × ConnectionCall)) (c : Cluster) : Prop :=
  c.broker.connections + closes calls .clients = c.held + opens calls .clients

variable {calls : List (Party × ConnectionCall)} {c c' : Cluster} {p : Party}
  {call? : Option ConnectionCall}

theorem Tenure.step (h : Tenure calls c) (hshift : Shift c p call? c') :
    Tenure (calls ++ (call?.map (p, ·)).toList) c' where
  sound := hshift.keeps h.sound
  balance q hq := by
    have hbalance := h.balance q hq
    rw [opens_append, closes_append]
    by_cases hqp : q = p
    · subst hqp
      have hown := hshift.own h.sound hq
      rw [if_pos rfl, if_pos rfl]
      omega
    · rw [if_neg hqp, if_neg hqp, hshift.others q hqp]
      exact hbalance

/-- As nobody closes what is not theirs, there is something to close whenever somebody does. -/
theorem Counted.step (hcounted : Counted calls c) (h : Tenure calls c)
    (hshift : Shift c p call? c')
    (hfair : closes (calls ++ (call?.map (p, ·)).toList) .clients ≤
      opens (calls ++ (call?.map (p, ·)).toList) .clients) :
    Counted (calls ++ (call?.map (p, ·)).toList) c' := by
  unfold Counted at hcounted ⊢
  rw [opens_append, closes_append] at hfair ⊢
  have htotal := hshift.total
  have honce : opened call? + closed call? ≤ 1 := by rcases call? with _ | _ | _ <;> decide
  by_cases hp : p = .clients
  · subst hp
    rw [if_pos rfl, if_pos rfl] at hfair ⊢
    have hheld : c'.held = c.held := htotal
    have hafter := c.broker.connections_after call? (by omega)
    have hconnections := hshift.connections
    omega
  · rw [if_neg (Ne.symm hp), if_neg (Ne.symm hp)] at hfair ⊢
    have hown := hshift.own h.sound hp
    have hafter := c.broker.connections_after call? (by omega)
    have hconnections := hshift.connections
    omega

theorem heldBy_fresh (settings : List OrchestratorSettings) (crew : List (String × ExecutorKind))
    (p : Party) : (fresh settings crew).heldBy p = 0 := by
  cases p with
  | orchestrator i =>
    rw [heldBy, heldAt, fresh, List.getElem?_map]
    cases settings[i]? <;> rfl
  | worker w =>
    rw [heldBy, heldAt, fresh, List.getElem?_map]
    cases crew[w]? <;> rfl
  | clients => rfl

theorem tenure_fresh (settings : List OrchestratorSettings) (crew : List (String × ExecutorKind)) :
    Tenure [] (fresh settings crew) where
  sound o ho := by
    obtain ⟨s, -, rfl⟩ := List.mem_map.mp ho
    exact nofun
  balance p _ := by
    rw [heldBy_fresh]
    rfl

theorem counted_fresh (settings : List OrchestratorSettings) (crew : List (String × ExecutorKind)) :
    Counted [] (fresh settings crew) := by
  have hrest : ∀ o ∈ (fresh settings crew).orchestrators, o.AtRest := by
    intro o ho
    obtain ⟨s, -, rfl⟩ := List.mem_map.mp ho
    exact ⟨rfl, rfl⟩
  have hidle : (fresh settings crew).workers.countP (·.isRunning) = 0 := by
    refine List.countP_eq_zero.mpr fun w hw => ?_
    obtain ⟨s, -, rfl⟩ := List.mem_map.mp hw
    exact nofun
  rw [Counted, held_of_atRest (tenure_fresh settings crew).sound hrest, hidle]
  rfl

section

variable (settings : List OrchestratorSettings) (crew : List (String × ExecutorKind))
  (steps : List (Workbench × ClusterAction))

theorem tenure_moment (t : Nat) : Tenure ((fresh settings crew).record signedCall? steps t)
    ((fresh settings crew).moment steps t) := by
  induction t with
  | zero => exact tenure_fresh settings crew
  | succ t ih =>
    rw [record]
    cases hs : steps[t]? with
    | none =>
      rw [moment_of_none hs, Option.bind_none, Option.toList_none, List.append_nil]
      exact ih
    | some s =>
      rw [moment_of_some hs]
      exact ih.step (shift_act s.1 s.2 _)

theorem counted_moment (t : Nat)
    (hfair : ∀ u ≤ t, closes ((fresh settings crew).record signedCall? steps u) .clients ≤
      opens ((fresh settings crew).record signedCall? steps u) .clients) :
    Counted ((fresh settings crew).record signedCall? steps t)
      ((fresh settings crew).moment steps t) := by
  induction t with
  | zero => exact counted_fresh settings crew
  | succ t ih =>
    have hlast := hfair (t + 1) (Nat.le_refl _)
    have hcounted := ih fun u hu => hfair u (Nat.le_succ_of_le hu)
    rw [record] at hlast ⊢
    cases hs : steps[t]? with
    | none =>
      rw [moment_of_none hs, Option.bind_none, Option.toList_none, List.append_nil]
      exact hcounted
    | some s =>
      rw [hs] at hlast
      rw [moment_of_some hs]
      exact hcounted.step (tenure_moment settings crew steps t) (shift_act s.1 s.2 _) hlast

/-- Whoever holds a connection finds the broker connected, whoever else has closed theirs. -/
theorem isConnected_of_held (t : Nat)
    (hfair : ∀ u ≤ t, closes ((fresh settings crew).record signedCall? steps u) .clients ≤
      opens ((fresh settings crew).record signedCall? steps u) .clients)
    (hheld : 0 < ((fresh settings crew).moment steps t).heldBy p) :
    ((fresh settings crew).moment steps t).broker.isConnected = true := by
  have hcounted := counted_moment settings crew steps t hfair
  have hclients := hfair t (Nat.le_refl _)
  have hall := heldBy_le_held ((fresh settings crew).moment steps t) p
  rw [Counted] at hcounted
  refine decide_eq_true ?_
  omega

end

/-- In whatever order orchestrators and workers run, stop and share their broker: the calls that
they make are what they do to its connections, no component ever closes more often than it
connected, and it has closed as often when its run has returned or when neither a run nor a stop
call is in progress.  Then, if clients close only what they opened, the connections of the broker
are those of the running workers and of the clients. -/
theorem nobody_closes_what_is_not_theirs (settings : List OrchestratorSettings)
    (crew : List (String × ExecutorKind)) (steps : List (Workbench × ClusterAction)) :
    (∀ (bench : Workbench) (a : ClusterAction) (c : Cluster) (b : Broker),
      (act bench a { c with broker := b }).broker.connections =
        (b.after (c.call? a)).connections) ∧
    ∀ t,
      let c := (fresh settings crew).moment steps t
      let calls := (fresh settings crew).record signedCall? steps t
      (∀ p, p ≠ .clients → closes calls p ≤ opens calls p) ∧
      (∀ i w, c.workers[i]? = some w →
        (w.isRunning = true → opens calls (.worker i) = closes calls (.worker i) + 1) ∧
        (w.result?.isSome = true → closes calls (.worker i) = opens calls (.worker i))) ∧
      (∀ i o, c.orchestrators[i]? = some o → o.AtRest →
        closes calls (.orchestrator i) = opens calls (.orchestrator i)) ∧
      ((∀ u ≤ t, closes ((fresh settings crew).record signedCall? steps u) .clients ≤
          opens ((fresh settings crew).record signedCall? steps u) .clients) →
        (∀ o ∈ c.orchestrators, o.AtRest) →
        c.broker.connections + closes calls .clients =
          c.workers.countP (·.isRunning) + opens calls .clients) := by
  refine ⟨fun bench a c b => (shift_act bench a { c with broker := b }).connections, ?_⟩
  intro t c calls
  have htenure : Tenure calls c := tenure_moment settings crew steps t
  refine ⟨?_, ?_, ?_, ?_⟩
  · intro p hp
    have hbalance := htenure.balance p hp
    omega
  · intro i w hw
    have hbalance := htenure.balance (.worker i) nofun
    rw [heldBy, heldAt_eq Worker.held hw] at hbalance
    refine ⟨fun hrunning => ?_, fun hreturned => ?_⟩
    · rw [hbalance, Worker.held, if_pos hrunning]
    · rw [hbalance, Worker.held_of_result? hreturned, Nat.add_zero]
  · intro i o ho hrest
    have hbalance := htenure.balance (.orchestrator i) nofun
    have hsound := htenure.sound o (List.mem_of_getElem? ho)
    rw [heldBy, heldAt_eq Orchestrator.held ho,
      Orchestrator.held_of_atRest hsound hrest] at hbalance
    exact hbalance.symm
  · intro hfair hrest
    have hcounted : Counted calls c := counted_moment settings crew steps t hfair
    rw [Counted, held_of_atRest htenure.sound hrest] at hcounted
    exact hcounted

/-- A run is stopped between its call to connect and its note, and a worker fails. -/
def earlyStop : List (Workbench × ClusterAction) :=
  [.connect, .beginWork 0, .beginWork 1, .beginRun 0, .beginStop 0, .releaseStop 0 0, .connect,
    .leaveWork 1 (.error (.transport (.notConnected "subscribe"))), .noteConnection 0, .close,
    .leaveLoop 0, .endWork 1, .releaseRun 0, .releaseRun 0].map (bareBench, ·)

/-- An orchestrator and two workers after the first of those steps. -/
def stoppedEarly (t : Nat) : Cluster :=
  (fresh [{}] [("first", .sequential), ("second", .sequential)]).moment earlyStop t

def earlyCalls (t : Nat) : List (Party × ConnectionCall) :=
  (fresh [{}] [("first", .sequential), ("second", .sequential)]).record signedCall? earlyStop t

theorem nobody_closes_what_is_not_theirs_of_earlyStop :
    (∀ u ≤ 14, closes (earlyCalls u) .clients ≤ opens (earlyCalls u) .clients) ∧
      (∀ o ∈ (stoppedEarly 14).orchestrators, o.AtRest) ∧
      opens (earlyCalls 14) (.orchestrator 0) = 1 ∧
      closes (earlyCalls 14) (.orchestrator 0) = 1 ∧
      closes (earlyCalls 14) (.worker 1) = 1 ∧ (stoppedEarly 14).broker.connections = 2 := by
  obtain ⟨-, hall⟩ := nobody_closes_what_is_not_theirs [{}]
    [("first", .sequential), ("second", .sequential)] earlyStop
  obtain ⟨-, hworkers, horchestrators, hcount⟩ := hall 14
  have hfair : ∀ u ≤ 14, closes (earlyCalls u) .clients ≤ opens (earlyCalls u) .clients := by
    decide +kernel
  have hrest : ∀ o ∈ (stoppedEarly 14).orchestrators, o.AtRest := by decide +kernel
  have horchestrator : opens (earlyCalls 14) (.orchestrator 0) = 1 := by decide +kernel
  have hworker : opens (earlyCalls 14) (.worker 1) = 1 := by decide +kernel
  have hclients : opens (earlyCalls 14) .clients = 2 ∧ closes (earlyCalls 14) .clients = 1 := by
    decide +kernel
  have hrunning : (stoppedEarly 14).workers.countP (·.isRunning) = 1 := by decide +kernel
  obtain ⟨o, ho⟩ : ∃ o, (stoppedEarly 14).orchestrators[0]? = some o :=
    Option.isSome_iff_exists.mp (by decide +kernel)
  obtain ⟨result, hresult⟩ :
      ∃ result, (stoppedEarly 14).workers[1]?.bind (·.result?) = some result :=
    Option.isSome_iff_exists.mp (by decide +kernel)
  obtain ⟨w, hw, hreturned⟩ := Option.bind_eq_some_iff.mp hresult
  have hconnections := hcount hfair hrest
  rw [← earlyCalls, ← stoppedEarly, hrunning, hclients.1, hclients.2] at hconnections
  refine ⟨hfair, hrest, horchestrator, ?_, ?_, Nat.add_right_cancel hconnections⟩
  · exact (horchestrators 0 o ho (hrest o (List.mem_of_getElem? ho))).trans horchestrator
  · exact ((hworkers 1 w hw).2 (Option.isSome_of_eq_some hreturned)).trans hworker

end Cluster
end Dataflow
