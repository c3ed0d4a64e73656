/-
JSON values, with integers and floats kept apart.

`1` and `1.0` are different values here: a number written without a fraction or
an exponent stays an integer as long as it fits a signed or an unsigned 64-bit
word, and every other number is a double.  The fields of an object are an entry
list in increasing key order, which is what the reader builds and what
`Json.ofKeyMap` gives; the one writer that needs another order lists the fields
itself.
-/
import Dataflow.KeyMap

namespace Dataflow

inductive Json where
  | null
  | bool (value : Bool)
  | int (value : Int)
  | float (value : Float)
  | str (value : String)
  | arr (items : List Json)
  | obj (fields : List (String × Json))
  deriving Inhabited

namespace Json

/-! ## Building values -/

/-- JSON has no text for a number that is not finite: such a float becomes `null`. -/
def ofFloat (value : Float) : Json := if value.isFinite then .float value else .null

def ofNat (value : Nat) : Json := .int value

def ofKeyMap (m : KeyMap Json) : Json := .obj m.entries

def ofStrings (items : List String) : Json := .arr (items.map .str)

/-- Absent becomes `null`. -/
def ofOption {α : Type} (f : α → Json) : Option α → Json
  | none => .null
  | some a => f a

/-! ## Reading values -/

def minInt64 : Int := -(Nat.pow 2 63)
def maxInt64 : Int := Nat.pow 2 63 - 1
def maxUInt64 : Int := Nat.pow 2 64 - 1

/-- The double nearest to an integer that fits a 64-bit word. -/
def floatOfInt (value : Int) : Float :=
  if value < 0 then -(value.natAbs.toUInt64.toFloat) else value.toNat.toUInt64.toFloat

/-- Any number as a double. -/
def asFloat? : Json → Option Float
  | .float value => some value
  | .int value => some (floatOfInt value)
  | _ => none

/-- An integer that fits a signed 64-bit word. -/
def asInt64? : Json → Option Int
  | .int value => if minInt64 ≤ value ∧ value ≤ maxInt64 then some value else none
  | _ => none

/-- A non-negative integer. -/
def asNat? : Json → Option Nat
  | .int value => if 0 ≤ value then some value.toNat else none
  | _ => none

def asStr? : Json → Option String
  | .str value => some value
  | _ => none

def asObj? : Json → Option (List (String × Json))
  | .obj fields => some fields
  | _ => none

/-- The field of an object, or nothing for another value. -/
def field? (name : String) : Json → Option Json
  | .obj fields => Entries.get? name fields
  | _ => none

/-! ## Comparing values -/

mutual

/-- Equality with floats compared as numbers, so that the two zeros agree; an
integer never equals a float. -/
def same : Json → Json → Bool
  | .null, .null => true
  | .bool a, .bool b => a == b
  | .int a, .int b => a == b
  | .float a, .float b => a == b
  | .str a, .str b => a == b
  | .arr as, .arr bs => sameItems as bs
  | .obj as, .obj bs => sameFields as bs
  | _, _ => false

def sameItems : List Json → List Json → Bool
  | [], [] => true
  | a :: as, b :: bs => same a b && sameItems as bs
  | _, _ => false

def sameFields : List (String × Json) → List (String × Json) → Bool
  | [], [] => true
  | (k, a) :: as, (l, b) :: bs => k == l && same a b && sameFields as bs
  | _, _ => false

end

end Json
end Dataflow
