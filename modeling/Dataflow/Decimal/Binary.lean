/-
Doubles as exact binary fractions, and the double nearest to a fraction.

A finite double is `mantissa * 2 ^ exponent` up to its sign.  Everything about
decimal text is decided in exact arithmetic on such pairs: `Fraction.ofFloat`
takes a double apart, `nearestBits` puts the double nearest to a quotient of
naturals together, with a tie going to the even mantissa, and the texts of
`Dataflow.Decimal.Text` are computed in between without rounding.
-/
namespace Dataflow
namespace Decimal

/-- The size of a finite double as `mantissa * 2 ^ exponent`. -/
structure Fraction where
  mantissa : Nat
  exponent : Int
  /-- The double below is half as far away as the double above: true at the powers of two,
  where the spacing changes. -/
  closerBelow : Bool

/-- The exponent of the smallest positive double. -/
def minExponent : Int := -1074

def fractionField (bits : Nat) : Nat := bits % Nat.pow 2 52

def exponentField (bits : Nat) : Nat := bits / Nat.pow 2 52 % Nat.pow 2 11

def isNegative (value : Float) : Bool := value.toBits.toNat / Nat.pow 2 63 == 1

/-- The fraction of a finite double, without its sign. -/
def Fraction.ofFloat (value : Float) : Fraction :=
  let bits := value.toBits.toNat
  let fraction := fractionField bits
  let field := exponentField bits
  if field = 0 then ⟨fraction, minExponent, false⟩
  else ⟨fraction + Nat.pow 2 52, minExponent + (field - 1 : Nat), fraction = 0 && field > 1⟩

/-- The quotient rounded to the nearest natural, a tie going to the even one. -/
def roundQuotient (num den : Nat) : Nat :=
  let quotient := num / den
  let twice := 2 * (num % den)
  if twice < den then quotient
  else if den < twice then quotient + 1
  else quotient + quotient % 2

/-- The quotient of `num` and `den` divided by `2 ^ q`, as numerator and denominator. -/
def scaleBinary (num den : Nat) (q : Int) : Nat × Nat :=
  if q < 0 then (num * Nat.pow 2 q.natAbs, den) else (num, den * Nat.pow 2 q.toNat)

def infinityBits : Nat := 2047 * Nat.pow 2 52

/-- The bits of the double nearest to `num / den`.  The mantissa is rounded at
the exponent that leaves it fifty-three bits, or at the smallest exponent; a
mantissa that rounds up to the next power of two carries into the exponent field
by itself. -/
def nearestBits (num den : Nat) : Nat :=
  if num = 0 then 0
  else
    let size : Int := (num.log2 : Int) - (den.log2 : Int)
    let low := max (size - 53) minExponent
    let (n, d) := scaleBinary num den low
    let q := if n / d ≥ Nat.pow 2 53 then low + 1 else low
    let (n, d) := scaleBinary num den q
    let bits := (q - minExponent).toNat * Nat.pow 2 52 + roundQuotient n d
    min bits infinityBits

/-- How many decimal digits a natural has; zero has one. -/
def digitCount (n : Nat) : Nat := (Nat.toDigits 10 n).length

/-- The double nearest to `digits * 10 ^ exponent`, with the sign given apart so
that a negative zero can be written.  The two guards only spare the work on
powers that are out of range either way. -/
def toFloat (negative : Bool) (digits : Nat) (exponent : Int) : Float :=
  let size : Int := exponent + digitCount digits
  let bits :=
    if digits = 0 then 0
    else if 310 < size then infinityBits
    else if size < -330 then 0
    else if exponent < 0 then nearestBits digits (Nat.pow 10 exponent.natAbs)
    else nearestBits (digits * Nat.pow 10 exponent.toNat) 1
  Float.ofBits (UInt64.ofNat (if negative then bits + Nat.pow 2 63 else bits))

end Decimal
end Dataflow
