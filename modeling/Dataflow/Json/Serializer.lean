/-
JSON values as a serializer builds them.

A serializer is told the parts of a value one after another.  A record is begun as an empty
object, and its fields are inserted as they come, in the order of their declaration; a field that
is skipped never comes.  A JSON value is a value like others: it is built anew from its parts,
and a float that is not finite comes out as `null`.
-/
import Dataflow.Json

namespace Dataflow
namespace Json

mutual

def serialized : Json → Json
  | .null => .null
  | .bool value => .bool value
  | .int value => .int value
  | .float value => .ofFloat value
  | .str value => .str value
  | .arr items => .arr (serializedItems items)
  | .obj fields => .obj (Entries.ofList (serializedFields fields))

def serializedItems : List Json → List Json
  | [] => []
  | item :: rest => serialized item :: serializedItems rest

def serializedFields : List (String × Json) → List (String × Json)
  | [] => []
  | (name, value) :: rest => (name, serialized value) :: serializedFields rest

end

/-- A record with the fields in the order of their declaration; one without a value is skipped. -/
def ofRecord (fields : List (String × Option Json)) : Json :=
  .obj (Entries.ofList (fields.filterMap fun (name, value?) => value?.map ((name, ·))))

end Json
end Dataflow
