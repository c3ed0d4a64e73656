/-
Numbers of TOML.

Single underscores may stand between digits.  Decimal integers have no leading
zeros; integers in another base have no sign.  Every integer must fit a signed
64-bit word, and no float may round to positive infinity unless it is written
as such.
-/
import Dataflow.Decimal.Reader
import Dataflow.Json
import Dataflow.Toml.Text

namespace Dataflow
namespace Toml

/-- Further digits, each with an underscore before it or not. -/
def moreDigits (isDigit : Char → Bool) : List Char → List Char × List Char
  | '_' :: d :: rest =>
    if isDigit d then
      let (ds, rest) := moreDigits isDigit rest
      (d :: ds, rest)
    else ([], '_' :: d :: rest)
  | d :: rest =>
    if isDigit d then
      let (ds, rest) := moreDigits isDigit rest
      (d :: ds, rest)
    else ([], d :: rest)
  | [] => ([], [])

/-- Digits, the first without an underscore. -/
def digits? (isDigit : Char → Bool) : Reader (List Char)
  | d :: rest =>
    if isDigit d then
      let (ds, rest) := moreDigits isDigit rest
      some (d :: ds, rest)
    else none
  | [] => none

/-- Decimal digits without leading zeros. -/
def wholeDigits? : Reader (List Char)
  | '0' :: rest => some (['0'], rest)
  | s => digits? Char.isDigit s

/-- An optional sign: whether it is negative. -/
def sign (s : List Char) : Bool × List Char := Decimal.takeSign s

/-- An integer in a base other than ten, behind its marker. -/
def basedInteger? (base : Nat) (s : List Char) : Option (Int × List Char) := do
  let isDigit (c : Char) : Bool := (hexValue? c).any (· < base)
  let (ds, rest) ← digits? isDigit s
  let n := ds.foldl (fun n c => n * base + (hexValue? c).getD 0) 0
  if (n : Int) ≤ Json.maxInt64 then some (n, rest) else none

def integer? (s : List Char) : Option (Int × List Char) :=
  match s with
  | '0' :: 'x' :: rest => basedInteger? 16 rest
  | '0' :: 'o' :: rest => basedInteger? 8 rest
  | '0' :: 'b' :: rest => basedInteger? 2 rest
  | _ => do
    let (negative, rest) := sign s
    let (ds, rest) ← wholeDigits? rest
    let n : Int := Decimal.digitsValue ds
    let n := if negative then -n else n
    if Json.minInt64 ≤ n ∧ n ≤ Json.maxInt64 then some (n, rest) else none

/-- The digits behind a decimal point, if there is one. -/
def fractionDigits? (s : List Char) : Option (Option (List Char) × List Char) :=
  match s with
  | '.' :: rest => (digits? Char.isDigit rest).map (fun (ds, rest) => (some ds, rest))
  | _ => some (none, s)

def exponent? (s : List Char) : Option (Option Int × List Char) :=
  match s with
  | 'e' :: rest | 'E' :: rest => do
    let (negative, rest) := sign rest
    let (ds, rest) ← digits? Char.isDigit rest
    let n : Int := Decimal.digitsValue ds
    some (some (if negative then -n else n), rest)
  | _ => some (none, s)

/-- A float that is written with a word. -/
def specialFloat? (negative : Bool) : Reader Float
  | 'i' :: 'n' :: 'f' :: rest => some (Decimal.infinity negative, rest)
  | 'n' :: 'a' :: 'n' :: rest => some (0 / 0, rest)
  | _ => none

/-- A float: with a fraction, an exponent or both, or a word. -/
def float? (s : List Char) : Option (Float × List Char) := do
  let (negative, rest) := sign s
  match wholeDigits? rest with
  | none => specialFloat? negative rest
  | some (whole, rest) =>
    let (fraction, rest) ← fractionDigits? rest
    let (exponent, rest) ← exponent? rest
    if fraction.isNone ∧ exponent.isNone then none
    else
      let ds := fraction.getD []
      let value := Decimal.toFloat negative (Decimal.digitsValue (whole ++ ds))
        (exponent.getD 0 - ds.length)
      if value.isInf && !negative then none else some (value, rest)

end Toml
end Dataflow
