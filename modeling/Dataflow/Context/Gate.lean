/-
The write gate between a context processor and the context.

Reading is free.  A write must target a key that the processor declares to
create, a deletion a key that it declares to suppress, and the gate records
which keys were in the end created and which deleted.

A context processor does not get the gate itself.  It is an `Edit`, a program over
the four operations, so that whatever it does goes through `Gate.run`.
-/
import Dataflow.Outcome
import Dataflow.Processor.Error

namespace Dataflow

/-- A context with the declared keys of the processor that works on it, and what it changed. -/
structure Gate where
  context : Context
  processor : String
  /-- Keys that may be written. -/
  writable : List String
  /-- Keys that may be deleted. -/
  deletable : List String
  /-- Keys written and not deleted afterwards, in the order of their first such write. -/
  created : List String := []
  /-- Keys deleted and not written afterwards, in the same way. -/
  deleted : List String := []
  deriving Inhabited

/-- Adds a key at the end unless it is there. -/
def addKey (key : String) (keys : List String) : List String :=
  if key ∈ keys then keys else keys ++ [key]

def dropKey (key : String) (keys : List String) : List String := keys.filter (· ≠ key)

namespace Gate

def new (context : Context) (processor : String) (writable deletable : List String) : Gate :=
  { context, processor, writable, deletable }

def check (gate : Gate) (allowed : List String) (key : String) : Except ProcessorError Unit :=
  if key ∈ allowed then .ok () else .error (.undeclaredContextKey gate.processor key)

def recordCreated (gate : Gate) (key : String) : Gate :=
  { gate with deleted := dropKey key gate.deleted, created := addKey key gate.created }

def recordDeleted (gate : Gate) (key : String) : Gate :=
  { gate with created := dropKey key gate.created, deleted := addKey key gate.deleted }

def get? (gate : Gate) (key : String) : Option Json := gate.context.get? key

def set (gate : Gate) (key : String) (value : Json) : Except ProcessorError Gate := do
  gate.check gate.writable key
  return { gate with context := gate.context.insert key value }.recordCreated key

/-- Deletes a key and answers the value it held.  An absent key is recorded as deleted too. -/
def delete (gate : Gate) (key : String) : Except ProcessorError (Option Json × Gate) := do
  gate.check gate.deletable key
  return (gate.context.get? key,
    { gate with context := gate.context.erase key }.recordDeleted key)

/-- Moves a value.  The old key is checked first, then the new one, then its presence. -/
def rename (gate : Gate) (old new : String) : Except ProcessorError Gate := do
  gate.check gate.deletable old
  gate.check gate.writable new
  let context ← (gate.context.rename old new).mapError ProcessorError.context
  return ({ gate with context := context }.recordDeleted old).recordCreated new

end Gate

inductive GateCall where
  | get (key : String)
  | set (key : String) (value : Json)
  | delete (key : String)
  | rename (old new : String)

namespace Gate

/-- Performs an operation, if it is allowed, and answers the value it found. -/
def answer (gate : Gate) : GateCall → Except ProcessorError (Option Json × Gate)
  | .get key => .ok (gate.get? key, gate)
  | .set key value => (gate.set key value).map (fun gate' => (none, gate'))
  | .delete key => gate.delete key
  | .rename old new => (gate.rename old new).map (fun gate' => (none, gate'))

/-- Performs an operation; a refused one leaves the gate as it was. -/
def perform (gate : Gate) (call : GateCall) : Except ProcessorError (Option Json) × Gate :=
  match gate.answer call with
  | .ok (found, gate') => (.ok found, gate')
  | .error e => (.error e, gate)

end Gate

/-- What a context processor does: operations on the gate, each followed by what
it does with the gate's answer. -/
inductive Edit where
  | finish (result : Outcome ProcessorError Unit)
  | call (c : GateCall) (next : Except ProcessorError (Option Json) → Edit)

namespace Edit

def done : Edit := finish (.ok ())

/-- Performs an operation, stops if it is refused, and goes on with what it found. -/
def andThen (c : GateCall) (next : Option Json → Edit) : Edit :=
  call c fun
    | .ok found => next found
    | .error e => finish (.error e)

/-- Performs operations in order up to the first that is refused. -/
def ofCalls : List GateCall → Edit
  | [] => done
  | c :: rest => andThen c (fun _ => ofCalls rest)

end Edit

/-- Runs an edit to its end. -/
def Gate.run : Edit → Gate → Outcome ProcessorError Unit × Gate
  | .finish result, gate => (result, gate)
  | .call c next, gate =>
    let (found, gate') := gate.perform c
    run (next found) gate'

end Dataflow
