/-
Sets of characters given by ranges of code points.
-/
namespace Dataflow
namespace Text

/-- Increasing ranges of code points, both ends included. -/
abbrev Ranges := List (Nat × Nat)

/-- Whether a character lies in one of the ranges.  The search stops at the
first range that ends at or beyond it. -/
def Ranges.has (ranges : Ranges) (c : Char) : Bool :=
  match ranges with
  | [] => false
  | (first, last) :: rest =>
    if c.toNat ≤ last then first ≤ c.toNat else Ranges.has rest c

end Text
end Dataflow
