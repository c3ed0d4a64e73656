/-
Operations on floats.
-/
import Dataflow.Decimal.Text
import Dataflow.Processor.Input

namespace Dataflow
namespace Processor

def floatMultiply : Operation where
  name := "float_multiply"
  parameters := [.required "factor"]
  input := .float
  output := .float
  process data params := do
    let value ← floatInput "float_multiply" data
    let factor ← params.float "factor"
    floatResult (value * factor)

/-- Adds `addend`. -/
def floatAdd : Operation where
  name := "float_add"
  parameters := [.required "addend"]
  input := .float
  output := .float
  process data params := do
    let value ← floatInput "float_add" data
    let addend ← params.float "addend"
    floatResult (value + addend)

/-- Divides by `divisor`, which must not be a zero of either sign. -/
def floatDivide : Operation where
  name := "float_divide"
  parameters := [.required "divisor"]
  input := .float
  output := .float
  process data params := do
    let value ← floatInput "float_divide" data
    let divisor ← params.float "divisor"
    if divisor == 0 then .error (.failed "division by zero")
    else floatResult (value / divisor)

/-- The largest number of decimals that `float_to_text` writes. -/
def maxPrecision : Nat := 64

/-- Writes a float with `precision` decimals. -/
def floatToText : Operation where
  name := "float_to_text"
  parameters := [.optional "precision" (.int 3)]
  input := .float
  output := .text
  process data params := do
    let value ← floatInput "float_to_text" data
    let precision ← params.natural "precision"
    if maxPrecision < precision then
      .error (.invalidParameter "precision" "integer in 0..=64" (Decimal.natText precision))
    else return .text (Decimal.fixed value precision)

end Processor
end Dataflow
