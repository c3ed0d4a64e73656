/-
Spans of time, counted in whole nanoseconds.

The text of a duration uses the largest of the units second, millisecond,
microsecond and nanosecond that has a non-zero whole part, and writes the rest
as decimals without trailing zeros.
-/
import Dataflow.Decimal.Text

namespace Dataflow

/-- A span of time. -/
structure Duration where
  nanos : Nat
  deriving DecidableEq, Repr, Inhabited

namespace Duration

def ofMillis (ms : Nat) : Duration := ⟨ms * 1000000⟩

def nanosPerSecond : Nat := 1000000000

/-- A span of whole seconds and further nanoseconds. -/
def ofParts (secs nanos : Nat) : Duration := ⟨secs * nanosPerSecond + nanos⟩

/-- The whole seconds. -/
def secs (d : Duration) : Nat := d.nanos / nanosPerSecond

/-- The nanoseconds beside the whole seconds. -/
def subsecNanos (d : Duration) : Nat := d.nanos % nanosPerSecond

/-- How many values a 64-bit field of a log event can hold. -/
def wordSize : Nat := Nat.pow 2 64

/-- Whole milliseconds, as a 64-bit field. -/
def millisField (d : Duration) : Nat := d.nanos / 1000000 % wordSize

/-- Whole microseconds, as a 64-bit field. -/
def microsField (d : Duration) : Nat := d.nanos / 1000 % wordSize

/-- The decimals of `rest / 10 ^ places`: without trailing zeros, and with the point in front if
any are left. -/
def decimals (rest places : Nat) : String :=
  let digits := Nat.toDigits 10 rest
  let padded := List.replicate (places - digits.length) '0' ++ digits
  let kept := (padded.reverse.dropWhile (· = '0')).reverse
  if kept.isEmpty then "" else "." ++ String.ofList kept

/-- A count of `10 ^ places` nanoseconds each. -/
def inUnit (d : Duration) (places : Nat) (unit : String) : String :=
  let size := Nat.pow 10 places
  Decimal.natText (d.nanos / size) ++ decimals (d.nanos % size) places ++ unit

def text (d : Duration) : String :=
  if Nat.pow 10 9 ≤ d.nanos then d.inUnit 9 "s"
  else if Nat.pow 10 6 ≤ d.nanos then d.inUnit 6 "ms"
  else if Nat.pow 10 3 ≤ d.nanos then d.inUnit 3 "µs"
  else d.inUnit 0 "ns"

end Duration
end Dataflow
