/-
The values that flow between pipeline nodes.

`Data` is a raw value of one of six types; `TypedData` is a value that passed
the validation rules, and there is no other way to build one: every float is
finite and no field of a record has an empty name.  `DataType` also has `any`,
which only occurs in declarations: a node whose input is `any` takes every value.
-/
import Dataflow.Decimal.Text
import Dataflow.Json

namespace Dataflow

/-! ## Types -/

/-- The type tag of a value, or `any` in a declaration. -/
inductive DataType where
  | any
  | empty
  | float
  | integer
  | text
  | floatVector
  | record
  deriving DecidableEq, Repr, Inhabited

namespace DataType

/-- The name used in messages. -/
def name : DataType → String
  | any => "Any"
  | empty => "Empty"
  | float => "Float"
  | integer => "Integer"
  | text => "Text"
  | floatVector => "FloatVector"
  | record => "Record"

/-- The name used in serialized values. -/
def tag : DataType → String
  | any => "any"
  | empty => "empty"
  | float => "float"
  | integer => "integer"
  | text => "text"
  | floatVector => "float_vector"
  | record => "record"

def all : List DataType := [any, empty, float, integer, text, floatVector, record]

/-- The type with the given serialized name. -/
def ofTag? (s : String) : Option DataType := all.find? (fun t => t.tag == s)

/-- A value of type `actual` may be fed into something that declares this type. -/
def accepts (declared actual : DataType) : Bool := declared == any || declared == actual

/-- Something that declares this output may stand before something that declares `input`: an
undetermined output is left to the check at run time. -/
def compatibleWith (output input : DataType) : Bool :=
  input == any || output == any || output == input

end DataType

/-! ## Values -/

/-- A raw value, not yet validated. -/
inductive Data where
  | empty
  | float (value : Float)
  | integer (value : Int64)
  | text (value : String)
  | floatVector (values : List Float)
  | record (fields : KeyMap Json)
  deriving Inhabited

/-- A value broke a validation rule. -/
inductive ValidationError where
  | nonFinite (type : DataType) (value : Float)
  | nonFiniteElement (type : DataType) (index : Nat) (value : Float)
  | emptyRecordField
  deriving DecidableEq, Inhabited

def ValidationError.message : ValidationError → String
  | nonFinite type value => type.name ++ " value must be finite, got " ++ Decimal.plain value
  | nonFiniteElement type index value =>
    type.name ++ " element " ++ Decimal.natText index ++ " must be finite, got " ++
      Decimal.plain value
  | emptyRecordField => "record field names must not be empty"

namespace Data

def type : Data → DataType
  | empty => .empty
  | float _ => .float
  | integer _ => .integer
  | text _ => .text
  | floatVector _ => .floatVector
  | record _ => .record

/-- The first element that is not finite, with its position counted from `index`. -/
def firstNonFinite? (index : Nat) : List Float → Option (Nat × Float)
  | [] => none
  | v :: rest => if v.isFinite then firstNonFinite? (index + 1) rest else some (index, v)

/-- The validation rule that a value breaks, if it breaks one. -/
def fault? : Data → Option ValidationError
  | float value => if value.isFinite then none else some (.nonFinite .float value)
  | floatVector values =>
    (firstNonFinite? 0 values).map fun (index, value) =>
      .nonFiniteElement .floatVector index value
  | record fields => if fields.contains "" then some .emptyRecordField else none
  | _ => none

end Data

/-- A value that passed the validation rules. -/
structure TypedData where
  data : Data
  valid : data.fault? = none

namespace TypedData

/-- Validates a raw value. -/
def new (data : Data) : Except ValidationError TypedData :=
  match h : data.fault? with
  | none => .ok ⟨data, h⟩
  | some fault => .error fault

def empty : TypedData := ⟨.empty, rfl⟩

instance : Inhabited TypedData := ⟨empty⟩

def float (value : Float) : Except ValidationError TypedData := new (.float value)

def integer (value : Int64) : TypedData := ⟨.integer value, rfl⟩

def text (value : String) : TypedData := ⟨.text value, rfl⟩

def floatVector (values : List Float) : Except ValidationError TypedData :=
  new (.floatVector values)

def type (d : TypedData) : DataType := d.data.type

def asFloat? (d : TypedData) : Option Float :=
  match d.data with
  | .float value => some value
  | _ => none

def asText? (d : TypedData) : Option String :=
  match d.data with
  | .text value => some value
  | _ => none

/-- The value as plain JSON, without its type. -/
def toJson (d : TypedData) : Json :=
  match d.data with
  | .empty => .null
  | .float value => .ofFloat value
  | .integer value => .int value.toInt
  | .text value => .str value
  | .floatVector values => .arr (values.map .ofFloat)
  | .record fields => .ofKeyMap fields

/-- Whether this is the empty value, which stands for absent data. -/
def isEmpty (d : TypedData) : Bool :=
  match d.data with
  | .empty => true
  | _ => false

@[ext] theorem ext {a b : TypedData} (h : a.data = b.data) : a = b := by
  cases a
  cases b
  simp_all

end TypedData
end Dataflow
