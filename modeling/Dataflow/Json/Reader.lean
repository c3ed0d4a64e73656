/-
JSON values from JSON text.

`Json.parse?` accepts one value with blanks around it and nothing else.  A
number without fraction and exponent becomes an integer when it fits a 64-bit
word, signed or unsigned; every other number becomes the nearest double, `-0`
among them, and a number beyond the largest double is refused.  Of two fields
with one name the later counts.  The reader recurses on a fuel that the length
of the text bounds, since every value takes at least one character.
-/
import Dataflow.Decimal.Binary
import Dataflow.Json

namespace Dataflow
namespace Json
namespace Reader

def isBlank (c : Char) : Bool := c = ' ' || c = '\t' || c = '\n' || c = '\r'

def skipBlanks (s : List Char) : List Char := s.dropWhile isBlank

def hexValue? (c : Char) : Option Nat :=
  if c.isDigit then some (c.toNat - '0'.toNat)
  else if 'a' ≤ c ∧ c ≤ 'f' then some (c.toNat - 'a'.toNat + 10)
  else if 'A' ≤ c ∧ c ≤ 'F' then some (c.toNat - 'A'.toNat + 10)
  else none

/-- Four hexadecimal digits. -/
def hex4? : List Char → Option (Nat × List Char)
  | a :: b :: c :: d :: rest => do
    let a ← hexValue? a
    let b ← hexValue? b
    let c ← hexValue? c
    let d ← hexValue? d
    pure (((a * 16 + b) * 16 + c) * 16 + d, rest)
  | _ => none

def isHighSurrogate (n : Nat) : Bool := 0xD800 ≤ n && n < 0xDC00
def isLowSurrogate (n : Nat) : Bool := 0xDC00 ≤ n && n < 0xE000

/-- The character that an escape stands for, after its backslash. -/
def escape? : List Char → Option (Char × List Char)
  | '"' :: rest => some ('"', rest)
  | '\\' :: rest => some ('\\', rest)
  | '/' :: rest => some ('/', rest)
  | 'b' :: rest => some (Char.ofNat 8, rest)
  | 'f' :: rest => some (Char.ofNat 12, rest)
  | 'n' :: rest => some ('\n', rest)
  | 'r' :: rest => some ('\r', rest)
  | 't' :: rest => some ('\t', rest)
  | 'u' :: rest => do
    let (high, rest) ← hex4? rest
    if isLowSurrogate high then none
    else if isHighSurrogate high then
      match rest with
      | '\\' :: 'u' :: rest => do
        let (low, rest) ← hex4? rest
        if isLowSurrogate low then
          pure (Char.ofNat (0x10000 + (high - 0xD800) * 0x400 + (low - 0xDC00)), rest)
        else none
      | _ => none
    else pure (Char.ofNat high, rest)
  | _ => none

/-- The characters of a string up to its closing quote. -/
def stringBody? : (fuel : Nat) → List Char → List Char → Option (String × List Char)
  | 0, _, _ => none
  | _ + 1, _, [] => none
  | _ + 1, acc, '"' :: rest => some (String.ofList acc.reverse, rest)
  | fuel + 1, acc, '\\' :: rest => do
    let (c, rest) ← escape? rest
    stringBody? fuel (c :: acc) rest
  | fuel + 1, acc, c :: rest => if c.toNat < 32 then none else stringBody? fuel (c :: acc) rest

/-- The digits at the front of a text. -/
def digits (s : List Char) : List Char × List Char := s.span Char.isDigit

def digitsValue (ds : List Char) : Nat :=
  ds.foldl (fun n c => n * 10 + (c.toNat - '0'.toNat)) 0

/-- An exponent part, if there is one: its value and the rest. -/
def exponent? : List Char → Option (Option Int × List Char)
  | c :: rest =>
    if c = 'e' ∨ c = 'E' then
      let (negative, rest) := match rest with
        | '-' :: rest => (true, rest)
        | '+' :: rest => (false, rest)
        | rest => (false, rest)
      let (ds, rest) := digits rest
      if ds.isEmpty then none
      else
        let n : Int := digitsValue ds
        some (some (if negative then -n else n), rest)
    else some (none, c :: rest)
  | [] => some (none, [])

/-- A number; `negative` says whether a minus sign was already taken. -/
def number? (negative : Bool) (s : List Char) : Option (Json × List Char) := do
  let (whole, rest) := digits s
  if whole.isEmpty then none
  else if whole.length > 1 ∧ whole.head? = some '0' then none
  else
    let (fraction, rest) ← match rest with
      | '.' :: rest =>
        let (ds, rest) := digits rest
        if ds.isEmpty then none else some (some ds, rest)
      | rest => some (none, rest)
    let (exponent, rest) ← exponent? rest
    let n := digitsValue whole
    let signed : Int := if negative then -n else n
    let isInteger := fraction.isNone && exponent.isNone && !(negative && n == 0)
    if isInteger ∧ minInt64 ≤ signed ∧ signed ≤ maxUInt64 then pure (.int signed, rest)
    else
      let ds := fraction.getD []
      let value := Decimal.toFloat negative (digitsValue (whole ++ ds))
        (exponent.getD 0 - ds.length)
      if value.isFinite then pure (.float value, rest) else none

def literal? (name : List Char) (value : Json) (s : List Char) : Option (Json × List Char) :=
  if name.isPrefixOf s then some (value, s.drop name.length) else none

mutual

/-- One value at the front of a text without leading blanks. -/
def value? : (fuel : Nat) → List Char → Option (Json × List Char)
  | 0, _ => none
  | _ + 1, '"' :: rest => do
    let (s, rest) ← stringBody? (rest.length + 1) [] rest
    pure (.str s, rest)
  | fuel + 1, '[' :: rest =>
    match skipBlanks rest with
    | ']' :: rest => some (.arr [], rest)
    | rest => do
      let (items, rest) ← items? fuel rest
      pure (.arr items, rest)
  | fuel + 1, '\x7b' :: rest =>
    match skipBlanks rest with
    | '\x7d' :: rest => some (.obj [], rest)
    | rest => do
      let (fields, rest) ← fields? fuel [] rest
      pure (.obj fields, rest)
  | _ + 1, '-' :: rest => number? true rest
  | _ + 1, s =>
    (literal? ['n', 'u', 'l', 'l'] .null s).orElse fun _ =>
    (literal? ['t', 'r', 'u', 'e'] (.bool true) s).orElse fun _ =>
    (literal? ['f', 'a', 'l', 's', 'e'] (.bool false) s).orElse fun _ =>
    number? false s

/-- The items of an array up to its closing bracket. -/
def items? : (fuel : Nat) → List Char → Option (List Json × List Char)
  | 0, _ => none
  | fuel + 1, s => do
    let (item, rest) ← value? fuel s
    match skipBlanks rest with
    | ',' :: rest => do
      let (items, rest) ← items? fuel (skipBlanks rest)
      pure (item :: items, rest)
    | ']' :: rest => pure ([item], rest)
    | _ => none

/-- The fields of an object up to its closing brace, added to those read before. -/
def fields? : (fuel : Nat) → List (String × Json) → List Char →
    Option (List (String × Json) × List Char)
  | 0, _, _ => none
  | fuel + 1, acc, '"' :: rest => do
    let (key, rest) ← stringBody? (rest.length + 1) [] rest
    match skipBlanks rest with
    | ':' :: rest => do
      let (value, rest) ← value? fuel (skipBlanks rest)
      let acc := Entries.insert key value acc
      match skipBlanks rest with
      | ',' :: rest => fields? fuel acc (skipBlanks rest)
      | '\x7d' :: rest => pure (acc, rest)
      | _ => none
    | _ => none
  | _ + 1, _, _ => none

end

end Reader

/-- The value that a JSON text stands for. -/
def parse? (text : String) : Option Json :=
  let s := Reader.skipBlanks text.toList
  match Reader.value? (s.length + 1) s with
  | some (value, rest) => if (Reader.skipBlanks rest).isEmpty then some value else none
  | none => none

end Json
end Dataflow
