/-
What a YAML scalar stands for.

A plain scalar without a tag may be nothing, a truth value, an integer or a
float, tried in this order; everything else is text.  The four standard tags for
these types force the type.  Digits behind a leading zero are text, unless one of
the markers for another base makes them a number, and so is a float beyond the
largest double.
-/
import Dataflow.Config.Tree
import Dataflow.Decimal.Reader
import Dataflow.Yaml.Token

namespace Dataflow
namespace Yaml

/-! ## Spellings -/

def isNull (s : String) : Bool := ["null", "Null", "NULL", "~"].contains s

def bool? (s : String) : Option Bool :=
  if ["true", "True", "TRUE"].contains s then some true
  else if ["false", "False", "FALSE"].contains s then some false
  else none

def digit? (base : Nat) (c : Char) : Option Nat :=
  let value? :=
    if c.isDigit then some (c.toNat - '0'.toNat)
    else if 'a' ≤ c ∧ c ≤ 'z' then some (c.toNat - 'a'.toNat + 10)
    else if 'A' ≤ c ∧ c ≤ 'Z' then some (c.toNat - 'A'.toNat + 10)
    else none
  value?.filter (· < base)

/-- The value of a non-empty string of digits. -/
def magnitude? (base : Nat) (s : List Char) : Option Nat :=
  if s.isEmpty then none else s.foldlM (fun n c => (digit? base c).map (n * base + ·)) 0

/-- Several digits of which the first is zero, behind an optional sign. -/
def isZeroPadded (s : List Char) : Bool :=
  let digits := (Decimal.takeSign s).2
  1 < digits.length && digits.head? = some '0' && digits.all Char.isDigit

/-- The value of digits behind a marker for their base, or else of decimal digits. -/
def based? (s : List Char) : Option Nat :=
  match s with
  | '0' :: 'x' :: rest => magnitude? 16 rest
  | '0' :: 'o' :: rest => magnitude? 8 rest
  | '0' :: 'b' :: rest => magnitude? 2 rest
  | _ => if isZeroPadded s then none else magnitude? 10 s

def integer? (s : String) : Option Int :=
  match s.toList with
  | '-' :: rest => (based? rest).map fun n => -(n : Int)
  | '+' :: rest => (based? rest).map Int.ofNat
  | rest => (based? rest).map Int.ofNat

/-- A float: a finite decimal, or one of the words with a leading point. -/
def float? (s : String) : Option Float :=
  if [".inf", ".Inf", ".INF", "+.inf", "+.Inf", "+.INF"].contains s then some (1 / 0)
  else if ["-.inf", "-.Inf", "-.INF"].contains s then some (-1 / 0)
  else if [".nan", ".NaN", ".NAN"].contains s then some (0 / 0)
  else (Decimal.parse? s).filter Float.isFinite

/-- The integers that a scalar can spell without being a float or text. -/
def fitsWide (n : Int) : Bool := -(Nat.pow 2 127) ≤ n && n < Nat.pow 2 128

/-- The integers that a value can hold. -/
def fits (n : Int) : Bool := Json.minInt64 ≤ n && n ≤ Json.maxUInt64

/-- An integer that a value can hold, no integer at all, or one that no value can hold. -/
inductive Integer where
  | value (n : Int)
  | tooWide
  | other

def Integer.of (s : String) : Integer :=
  match integer? s with
  | some n => if fits n then .value n else if fitsWide n then .tooWide else .other
  | none => .other

/-! ## Values -/

/-- The value of a plain scalar without a tag.  An integer that a value cannot hold is refused. -/
def plainValue? (s : String) : Option Tree :=
  if s.isEmpty || isNull s then some .null
  else match bool? s with
    | some b => some (.bool b)
    | none =>
      match Integer.of s with
      | .value n => some (.int n)
      | .tooWide => none
      | .other =>
        if isZeroPadded s.toList then some (.str s)
        else match float? s with
          | some x => some (.float x)
          | none => some (.str s)

def standardTag (name : String) : String := "tag:yaml.org,2002:" ++ name

/-- The value of a scalar under a tag that does not name a type of its own. -/
def taggedValue? (tag s : String) : Option Tree :=
  if tag = standardTag "bool" then (bool? s).map .bool
  else if tag = standardTag "int" then
    match Integer.of s with
    | .value n => some (.int n)
    | _ => none
  else if tag = standardTag "float" then (float? s).map .float
  else if tag = standardTag "null" then (if isNull s then some .null else none)
  else some (.str s)

/-- Whether a tag names a type of the document's own. -/
def isLocalTag (tag : String) : Bool := tag.toList.head? = some '!'

/-- The value of a scalar; a local tag is refused. -/
def scalarValue? (value : String) (style : ScalarStyle) (tag? : Option String) : Option Tree :=
  match tag? with
  | some tag => if isLocalTag tag then none else taggedValue? tag value
  | none => if style = .plain then plainValue? value else some (.str value)

end Yaml
end Dataflow
