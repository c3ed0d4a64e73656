/-
The texts of doubles.

Three layouts are used.  `json` writes the shortest digits with at least one
decimal, and in scientific form outside the exponents from -5 to 15.  `plain`
writes the shortest digits positionally, whatever their size.  `fixed` writes a
given number of decimals of the exact binary value.  All three keep the sign of
zero.
-/
import Dataflow.Decimal.Shortest

namespace Dataflow
namespace Decimal

def zeros (n : Nat) : String := String.ofList (List.replicate n '0')

/-- The decimal digits of a natural. -/
def natText (n : Nat) : String := String.ofList (Nat.toDigits 10 n)

def intText (n : Int) : String :=
  if n < 0 then "-" ++ natText n.natAbs else natText n.toNat

/-- How a double is laid out. -/
structure Layout where
  /-- Decimal exponents of the first digit from `first` to `last` are written positionally. -/
  first : Option Int
  last : Option Int
  /-- A whole number is followed by `.0`. -/
  keepsFraction : Bool
  tie : Tie

def Layout.positional (l : Layout) (e : Int) : Bool :=
  l.first.all (· ≤ e) && l.last.all (e ≤ ·)

/-- The layout of numbers in JSON text. -/
def jsonLayout : Layout := ⟨some (-5), some 15, true, .toEven⟩

/-- The layout of numbers in messages. -/
def plainLayout : Layout := ⟨none, none, false, .up⟩

/-- Digits around a decimal point; `e` is the decimal exponent of the first digit. -/
def positionalText (digits : List Char) (e : Int) (keepsFraction : Bool) : String :=
  let count : Int := digits.length
  if e < 0 then "0." ++ zeros (-e - 1).toNat ++ String.ofList digits
  else if count ≤ e + 1 then
    String.ofList digits ++ zeros (e + 1 - count).toNat ++ (if keepsFraction then ".0" else "")
  else
    let whole := (e + 1).toNat
    String.ofList (digits.take whole) ++ "." ++ String.ofList (digits.drop whole)

/-- One digit, the other digits, and the exponent with a sign in front. -/
def scientificText (digits : List Char) (e : Int) : String :=
  let rest := digits.drop 1
  String.ofList (digits.take 1) ++ (if rest.isEmpty then "" else "." ++ String.ofList rest) ++
    "e" ++ (if e < 0 then "-" else "+") ++ natText e.natAbs

def Layout.text (l : Layout) (value : Float) : String :=
  let sign := if isNegative value then "-" else ""
  if value.isNaN then "NaN"
  else if value.isInf then sign ++ "inf"
  else
    let f := Fraction.ofFloat value
    if f.mantissa = 0 then sign ++ (if l.keepsFraction then "0.0" else "0")
    else
      let d := shortest f l.tie
      let digits := Nat.toDigits 10 d.digits
      let e := d.exponent + digits.length - 1
      if l.positional e then sign ++ positionalText digits e l.keepsFraction
      else sign ++ scientificText digits e

/-- The text of a double inside JSON. -/
def json (value : Float) : String := jsonLayout.text value

/-- The text of a double in messages. -/
def plain (value : Float) : String := plainLayout.text value

/-- A float with a given number of decimals.  The exact binary value is rounded once, a tie going to
the even digit. -/
def fixed (value : Float) (places : Nat) : String :=
  let sign := if isNegative value then "-" else ""
  if value.isNaN then "NaN"
  else if value.isInf then sign ++ "inf"
  else
    let f := Fraction.ofFloat value
    let scaled := f.mantissa * Nat.pow 10 places
    let units :=
      if f.exponent < 0 then roundQuotient scaled (Nat.pow 2 f.exponent.natAbs)
      else scaled * Nat.pow 2 f.exponent.toNat
    if places = 0 then sign ++ natText units
    else
      let digits := Nat.toDigits 10 units
      let padded := List.replicate (places + 1 - digits.length) '0' ++ digits
      let whole := padded.length - places
      sign ++ String.ofList (padded.take whole) ++ "." ++ String.ofList (padded.drop whole)

end Decimal
end Dataflow
