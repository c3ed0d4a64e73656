/-
Values that are still to come.

A future is written once.  Whoever holds it can look at it at any time; a second
write is refused and does not change it.
-/
import Dataflow.Job.Error

namespace Dataflow

structure Future (α : Type) where
  value? : Option α := none
  deriving DecidableEq, Inhabited

namespace Future

variable {α : Type}

/-- A future without a value. -/
def new : Future α := {}

def completed (value : α) : Future α := { value? := some value }

def isResolved (f : Future α) : Bool := f.value?.isSome

def resolve (f : Future α) (value : α) : Except JobError (Future α) :=
  match f.value? with
  | some _ => .error .alreadyResolved
  | none => .ok (.completed value)

/-- What a caller gets who waits while nothing writes the value any more. -/
def waited (f : Future α) (timeout : Duration) : Except JobError α :=
  match f.value? with
  | some value => .ok value
  | none => .error (.timeout timeout)

def description (f : Future α) : String :=
  "ResultHandle \x7b resolved: " ++ (if f.isResolved then "true" else "false") ++ " \x7d"

@[simp] theorem resolve_new (value : α) : (new : Future α).resolve value = .ok (.completed value) :=
  rfl

@[simp] theorem resolve_completed (value other : α) :
    (completed value).resolve other = .error .alreadyResolved := rfl

end Future
end Dataflow
