/-
The shortest decimal that reads back as a given double.

`shortest` tries one digit, then two, and so on up to seventeen.  For each count
it looks at the two neighbours of the value on the grid of decimals with that
many digits and accepts one that lies in the interval of reals rounding to the
value; of two accepted neighbours the nearer wins, and an exact tie is decided
by the caller.  If any point of a grid lies in the interval then so does one of
the two neighbours, so the first grid with a hit gives the fewest digits.
-/
import Dataflow.Decimal.Binary

namespace Dataflow
namespace Decimal

/-- Which of two equally near decimals is taken. -/
inductive Tie where
  | toEven
  | up
  deriving DecidableEq, Repr

/-- A positive decimal `digits * 10 ^ exponent`. -/
structure Digits where
  digits : Nat
  exponent : Int
  deriving DecidableEq, Repr

/-- The decimal exponent of the first digit of `num / den`, found from the binary sizes up to one
step and corrected by comparison. -/
def magnitude (num den : Nat) : Int :=
  let size : Int := (num.log2 : Int) - (den.log2 : Int)
  let guess := size * 30103 / 100000
  let reaches (k : Int) : Bool :=
    if k < 0 then den ≤ num * Nat.pow 10 k.natAbs else den * Nat.pow 10 k.toNat ≤ num
  if reaches (guess + 1) then guess + 1
  else if reaches guess then guess
  else guess - 1

/-- The value with its rounding interval, all three over one denominator. -/
structure Interval where
  low : Nat
  value : Nat
  high : Nat
  den : Nat
  /-- The ends round to the value as well. -/
  closed : Bool

/-- The reals that round to a positive double.  The numerators count quarters of
the spacing, because the lower half-gap at a power of two is a quarter of it. -/
def Interval.ofFraction (f : Fraction) : Interval :=
  let value := 4 * f.mantissa
  let low := value - (if f.closerBelow then 1 else 2)
  let high := value + 2
  let q := f.exponent - 2
  let closed := f.mantissa % 2 == 0
  if q < 0 then ⟨low, value, high, Nat.pow 2 q.natAbs, closed⟩
  else
    let unit := Nat.pow 2 q.toNat
    ⟨low * unit, value * unit, high * unit, 1, closed⟩

def Interval.scale (i : Interval) (s : Int) : Interval :=
  if s < 0 then { i with den := i.den * Nat.pow 10 s.natAbs }
  else
    let unit := Nat.pow 10 s.toNat
    { i with low := i.low * unit, value := i.value * unit, high := i.high * unit }

/-- A natural of the scaled interval that is next to the value. -/
def Interval.neighbour? (i : Interval) (tie : Tie) : Option Nat :=
  let below := i.value / i.den
  let above := below + 1
  let belowOk : Bool :=
    if i.closed then decide (i.low ≤ below * i.den) else decide (i.low < below * i.den)
  let aboveOk : Bool :=
    if i.closed then decide (above * i.den ≤ i.high) else decide (above * i.den < i.high)
  let twice := 2 * (i.value % i.den)
  match belowOk, aboveOk with
  | false, false => none
  | true, false => some below
  | false, true => some above
  | true, true =>
    if twice < i.den then some below
    else if i.den < twice then some above
    else match tie with
      | .up => some above
      | .toEven => some (below + below % 2)

/-- Tries `count` digits and then more, `fuel` counts in all. -/
def shortestFrom (i : Interval) (size : Int) (tie : Tie) : (fuel count : Nat) → Digits
  | 0, count =>
    let s := (count : Int) - 1 - size
    let scaled := i.scale s
    ⟨scaled.value / scaled.den, -s⟩
  | fuel + 1, count =>
    let s := (count : Int) - 1 - size
    match (i.scale s).neighbour? tie with
    | some digits => ⟨digits, -s⟩
    | none => shortestFrom i size tie fuel (count + 1)

/-- Moves trailing zeros into the exponent. -/
def Digits.strip (d : Digits) : (fuel : Nat) → Digits
  | 0 => d
  | fuel + 1 =>
    if d.digits ≠ 0 ∧ d.digits % 10 = 0 then Digits.strip ⟨d.digits / 10, d.exponent + 1⟩ fuel
    else d

/-- The shortest decimal that reads back as the positive double `f`.  Seventeen
digits are always enough. -/
def shortest (f : Fraction) (tie : Tie) : Digits :=
  let i := Interval.ofFraction f
  (shortestFrom i (magnitude i.value i.den) tie 17 1).strip 18

end Decimal
end Dataflow
