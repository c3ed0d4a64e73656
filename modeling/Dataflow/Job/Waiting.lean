/-
Waiting for a future for a limited time.

Time is counted in ticks of a millisecond and passes only while somebody waits
or sleeps.  A waiter gives up at its deadline, the first tick that lies its whole
timeout ahead.  A value that is written at that very tick still reaches it.
-/
import Dataflow.Job.Future

namespace Dataflow

/-- A future on a time line, with those who wait for it beside the main thread. -/
structure Waiting (α : Type) where
  future : Future α
  /-- The present tick. -/
  now : Nat := 0
  /-- The tick at which the value was written. -/
  writtenAt : Nat := 0
  /-- For each waiter how long it waits and the tick of its deadline. -/
  waiters : List (Duration × Nat) := []

namespace Waiting

variable {α : Type}

/-- How many ticks a span of time takes. -/
def ticks (d : Duration) : Nat := (d.nanos + 999999) / 1000000

def deadline (w : Waiting α) (timeout : Duration) : Nat := w.now + ticks timeout

/-- Writes the value now. -/
def resolve (w : Waiting α) (value : α) : Except JobError (Waiting α) := do
  let future ← w.future.resolve value
  return { w with future, writtenAt := w.now }

/-- The main thread sleeps. -/
def sleep (w : Waiting α) (d : Duration) : Waiting α := { w with now := w.deadline d }

/-- The main thread waits.  Nobody else writes, so a value that is not there will not come. -/
def wait (w : Waiting α) (timeout : Duration) : Except JobError α × Waiting α :=
  (w.future.waited timeout, if w.future.isResolved then w else w.sleep timeout)

/-- Another waiter begins to wait. -/
def spawn (w : Waiting α) (timeout : Duration) : Waiting α :=
  { w with waiters := w.waiters ++ [(timeout, w.deadline timeout)] }

/-- What a waiter gets in the end: the value, if it was written by its deadline. -/
def outcome (w : Waiting α) : Duration × Nat → Except JobError α
  | (timeout, deadline) =>
    match w.future.value? with
    | some value => if w.writtenAt ≤ deadline then .ok value else .error (.timeout timeout)
    | none => .error (.timeout timeout)

/-- Waits until every waiter has its answer. -/
def join (w : Waiting α) : List (Except JobError α) × Waiting α :=
  let last := (w.waiters.map Prod.snd).foldl max w.now
  (w.waiters.map w.outcome,
    { w with waiters := [], now := if w.future.isResolved then w.now else last })

end Waiting
end Dataflow
