/-
Identifiers of jobs.

An identifier has 32 hexadecimal digits, which are written in five groups with
hyphens between them.  Two of the digits are not free: one names the version of
the scheme, which is the random one, and another one has two fixed bits.  All
other digits are drawn at random.
-/
namespace Dataflow

structure JobId where
  digits : Vector (Fin 16) 32
  deriving DecidableEq

namespace JobId

/-- The version of the scheme that draws the digits at random. -/
def randomVersion : Fin 16 := 4

/-- The place of the digit that names the version. -/
def versionPlace : Fin 32 := 12

/-- The place of the digit with the fixed bits. -/
def variantPlace : Fin 32 := 16

/-- The digit of a number at a place; the last place counts the ones. -/
def digitAt (n : Nat) (place : Fin 32) : Fin 16 := Fin.ofNat 16 (n / Nat.pow 16 (31 - place.val))

/-- The identifier made from a random number of 128 bits. -/
def ofRandom (n : Nat) : JobId where
  digits := Vector.ofFn fun place =>
    if place = versionPlace then randomVersion
    else if place = variantPlace then 8 + Fin.ofNat 16 ((digitAt n place).val % 4)
    else digitAt n place

instance : Inhabited JobId := ⟨ofRandom 0⟩

/-- The version that an identifier names. -/
def version (id : JobId) : Nat := id.digits[versionPlace].val

def hexDigit (d : Fin 16) : Char := Nat.digitChar d.val

/-- The digits as characters, with hyphens behind the places where a group ends. -/
def chars (id : JobId) : List Char :=
  let digits := id.digits.toList.map hexDigit
  let hyphen := ['-']
  digits.take 8 ++ hyphen ++ (digits.drop 8).take 4 ++ hyphen ++ (digits.drop 12).take 4 ++
    hyphen ++ (digits.drop 16).take 4 ++ hyphen ++ digits.drop 20

def text (id : JobId) : String := String.ofList id.chars

end JobId
end Dataflow
