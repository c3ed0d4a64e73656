/-
Values with their type written beside them.

`TypedData.toTagged` writes an object with the fields `type` and `value`, the
empty value without `value`.  `TypedData.ofTagged` reads that form and also an
array of type and value.  Reading validates, so a value that came from elsewhere
obeys the same rules as one built here.

`serialized` is the form that a serializer builds, with sorted fields; `Payload.ofTagged` reads
that of a payload and insists on both parts, where `Payload.ofJson` makes do without.
-/
import Dataflow.Context
import Dataflow.Json.Serializer

namespace Dataflow

/-- Why a tagged value could not be read. -/
inductive TaggedError where
  /-- It is not a tagged value at all. -/
  | shape
  /-- It is one, and it breaks a validation rule. -/
  | invalid (fault : ValidationError)
  deriving DecidableEq, Inhabited

namespace TypedData

/-- The tagged form of a value. -/
def toTagged (d : TypedData) : Json :=
  let tag : Json := .str d.type.tag
  match d.data with
  | .empty => .obj [("type", tag)]
  | _ => .obj [("type", tag), ("value", d.toJson)]

/-- The tagged form as a serializer builds it. -/
def serialized (d : TypedData) : Json :=
  .ofRecord [("type", some (.str d.type.tag)),
    ("value", if d.isEmpty then none else some d.toJson.serialized)]

/-- A tag is a text, or an object whose single field names the type and holds `null`. -/
def typeOfTag? : Json → Option DataType
  | .str tag => DataType.ofTag? tag
  | .obj [(tag, .null)] => DataType.ofTag? tag
  | _ => none

/-- The value of a given type that JSON content stands for.  A float may be
written as an integer, an integer not as a float. -/
def rawOfContent? : DataType → Json → Option Data
  | .empty, .null => some .empty
  | .float, content => content.asFloat?.map .float
  | .integer, content => content.asInt64?.map (fun n => .integer (Int64.ofInt n))
  | .text, content => content.asStr?.map .text
  | .floatVector, .arr items => (items.mapM Json.asFloat?).map .floatVector
  | .record, .obj fields => some (.record (KeyMap.ofList fields))
  | _, _ => none

/-- The raw value of a tagged form. -/
def rawOfTagged? : Json → Option Data
  | .arr [tag, content] => do
    let type ← typeOfTag? tag
    rawOfContent? type content
  | .obj fields => do
    let type ← typeOfTag? (← Entries.get? "type" fields)
    match Entries.get? "value" fields with
    | some content => rawOfContent? type content
    | none => if type = .empty then some .empty else none
  | _ => none

/-- Reads a tagged value and validates it. -/
def ofTagged (v : Json) : Except TaggedError TypedData :=
  match rawOfTagged? v with
  | none => .error .shape
  | some data => (new data).mapError .invalid

end TypedData

namespace Payload

/-- The data in tagged form beside the context. -/
def toJson (p : Payload) : Json :=
  .obj [("data", p.data.toTagged), ("context", .ofKeyMap p.context)]

/-- Reads a payload.  Both fields may be absent, and stand for nothing then. -/
def ofJson (v : Json) : Except TaggedError Payload := do
  let fields ← match v.asObj? with
    | some fields => .ok fields
    | none => .error .shape
  let data ← match Entries.get? "data" fields with
    | some data => TypedData.ofTagged data
    | none => .ok .empty
  let context ← match Entries.get? "context" fields with
    | some (.obj entries) => .ok (KeyMap.ofList entries)
    | some _ => .error .shape
    | none => .ok .empty
  return { data, context }

def serialized (p : Payload) : Json :=
  .ofRecord [("data", some p.data.serialized),
    ("context", some (Json.ofKeyMap p.context).serialized)]

def contextOfJson : Json → Except TaggedError Context
  | .obj entries => .ok (.ofList entries)
  | _ => .error .shape

/-- Reads a payload with both parts there: as an object, whose fields come in increasing order, or
as an array of data and context. -/
def ofTagged : Json → Except TaggedError Payload
  | .obj fields => do
    let context? ← (Entries.get? "context" fields).mapM contextOfJson
    let data? ← (Entries.get? "data" fields).mapM TypedData.ofTagged
    match data?, context? with
    | some data, some context => return { data, context }
    | _, _ => .error .shape
  | .arr (data :: rest) => do
    let data ← TypedData.ofTagged data
    match rest with
    | [context] => return { data, context := ← contextOfJson context }
    | _ => .error .shape
  | _ => .error .shape

end Payload
end Dataflow
