/-
Doubles from decimal text.

A sign, digits around an optional point with at least one digit, and an optional
exponent; or one of the words for infinity and for no number, in any case.  The
result is the double nearest to the written value.
-/
import Dataflow.Decimal.Binary

namespace Dataflow
namespace Decimal

def digitsValue (ds : List Char) : Nat :=
  ds.foldl (fun n c => n * 10 + (c.toNat - '0'.toNat)) 0

/-- Whether a sign is negative, and what follows it; without a sign it is not. -/
def takeSign : List Char → Bool × List Char
  | '-' :: rest => (true, rest)
  | '+' :: rest => (false, rest)
  | rest => (false, rest)

/-- An exponent that makes up the rest of a text; no text at all is the exponent 0. -/
def exponent? : List Char → Option Int
  | [] => some 0
  | c :: rest =>
    if c = 'e' ∨ c = 'E' then
      let (negative, digits) := takeSign rest
      if digits.isEmpty ∨ !digits.all Char.isDigit then none
      else
        let n : Int := digitsValue digits
        some (if negative then -n else n)
    else none

/-- A number without its sign. -/
def number? (negative : Bool) (s : List Char) : Option Float := do
  let (whole, rest) := s.span Char.isDigit
  let (fraction, rest) := match rest with
    | '.' :: rest => rest.span Char.isDigit
    | rest => ([], rest)
  if whole.isEmpty ∧ fraction.isEmpty then none
  else
    let exponent ← exponent? rest
    return toFloat negative (digitsValue (whole ++ fraction)) (exponent - fraction.length)

def infinity (negative : Bool) : Float := if negative then -1 / 0 else 1 / 0

/-- The double that a text stands for. -/
def parse? (s : String) : Option Float :=
  let (negative, rest) := takeSign s.toList
  match String.ofList (rest.map Char.toLower) with
  | "inf" | "infinity" => some (infinity negative)
  | "nan" => some (0 / 0)
  | _ => number? negative rest

end Decimal
end Dataflow
