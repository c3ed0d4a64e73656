/-
JSON text from JSON values.

Compact text has no blanks.  Pretty text puts every item and every field on a
line of its own, two blanks deeper than its container; an empty container stays
on one line in both.  In a string only the quote, the backslash and the control
characters below the blank are escaped, everything else is written as it is.
-/
import Dataflow.Decimal.Text
import Dataflow.Json

namespace Dataflow
namespace Json

def hexDigit (n : Nat) : Char := Nat.digitChar n

/-- One character inside a quoted JSON string. -/
def escapeChar (c : Char) : List Char :=
  if c = '"' then ['\\', '"']
  else if c = '\\' then ['\\', '\\']
  else if c = '\n' then ['\\', 'n']
  else if c = '\r' then ['\\', 'r']
  else if c = '\t' then ['\\', 't']
  else if c.toNat = 8 then ['\\', 'b']
  else if c.toNat = 12 then ['\\', 'f']
  else if c.toNat < 32 then
    ['\\', 'u', '0', '0', hexDigit (c.toNat / 16), hexDigit (c.toNat % 16)]
  else [c]

def quote (s : String) : String :=
  "\"" ++ String.ofList (s.toList.flatMap escapeChar) ++ "\""

def scalarText : Json → String
  | .null => "null"
  | .bool true => "true"
  | .bool false => "false"
  | .int value => Decimal.intText value
  | .float value => Decimal.json value
  | .str value => quote value
  | .arr _ => "[]"
  | .obj _ => "\x7b\x7d"

mutual

def compact : Json → String
  | .arr items => "[" ++ compactItems items ++ "]"
  | .obj fields => "\x7b" ++ compactFields fields ++ "\x7d"
  | value => scalarText value

def compactItems : List Json → String
  | [] => ""
  | [item] => compact item
  | item :: rest => compact item ++ "," ++ compactItems rest

def compactFields : List (String × Json) → String
  | [] => ""
  | [(key, value)] => quote key ++ ":" ++ compact value
  | (key, value) :: rest => quote key ++ ":" ++ compact value ++ "," ++ compactFields rest

end

/-- A line break followed by the indentation of `depth` containers. -/
def lineStart (depth : Nat) : String := "\n" ++ String.ofList (List.replicate (2 * depth) ' ')

mutual

/-- Pretty text of a value inside `depth` containers. -/
def prettyAt (depth : Nat) : Json → String
  | .arr [] => "[]"
  | .arr (item :: rest) =>
    "[" ++ lineStart (depth + 1) ++ prettyAt (depth + 1) item ++ prettyItems depth rest ++
      lineStart depth ++ "]"
  | .obj [] => "\x7b\x7d"
  | .obj ((key, value) :: rest) =>
    "\x7b" ++ lineStart (depth + 1) ++ quote key ++ ": " ++ prettyAt (depth + 1) value ++
      prettyFields depth rest ++ lineStart depth ++ "\x7d"
  | value => scalarText value

def prettyItems (depth : Nat) : List Json → String
  | [] => ""
  | item :: rest =>
    "," ++ lineStart (depth + 1) ++ prettyAt (depth + 1) item ++ prettyItems depth rest

def prettyFields (depth : Nat) : List (String × Json) → String
  | [] => ""
  | (key, value) :: rest =>
    "," ++ lineStart (depth + 1) ++ quote key ++ ": " ++ prettyAt (depth + 1) value ++
      prettyFields depth rest

end

def pretty (value : Json) : String := prettyAt 0 value

end Json
end Dataflow
