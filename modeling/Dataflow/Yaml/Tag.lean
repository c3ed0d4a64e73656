/-
Reading tags, handles and directives.
-/
import Dataflow.Yaml.Cursor
import Dataflow.Yaml.Token

namespace Dataflow
namespace Yaml

def hexValue? (c : Char) : Option Nat :=
  if c.isDigit then some (c.toNat - '0'.toNat)
  else if 'a' ≤ c ∧ c ≤ 'f' then some (c.toNat - 'a'.toNat + 10)
  else if 'A' ≤ c ∧ c ≤ 'F' then some (c.toNat - 'A'.toNat + 10)
  else none

/-- The value of exactly `count` hexadecimal digits. -/
def hexNumber? (count : Nat) (s : List Char) : Option Nat :=
  if (s.take count).length < count then none
  else (s.take count).foldlM (fun n c => (hexValue? c).map (n * 16 + ·)) 0

/-- An octet written as a percent sign and two digits. -/
def escapedOctet? : List Char → Option Nat
  | '%' :: rest => hexNumber? 2 rest
  | _ => none

/-- Further octets of a character in UTF-8, added to the value read so far. -/
def trailingOctets? : (count : Nat) → Nat → List Char → Option Nat
  | 0, n, _ => some n
  | count + 1, n, s => do
    let octet ← escapedOctet? s
    if octet / 0x40 = 2 then trailingOctets? count (n * 0x40 + octet % 0x40) (s.drop 3) else none

/-- A character written as escaped octets, and how many octets it has. -/
def escapedChar? (s : List Char) : Option (Char × Nat) := do
  let octet ← escapedOctet? s
  let (count, first) ←
    if octet < 0x80 then some (1, octet)
    else if octet / 0x20 = 6 then some (2, octet % 0x20)
    else if octet / 0x10 = 14 then some (3, octet % 0x10)
    else if octet / 0x08 = 30 then some (4, octet % 0x08)
    else none
  let n ← trailingOctets? (count - 1) first (s.drop 3)
  pure (Char.ofNat n, count)

/-- The characters of a tag.  Brackets and commas are only allowed where nothing else can follow. -/
def isTagChar (wide : Bool) (c : Char) : Bool :=
  isWord c || ";/?:@&=+$.%!~*'()".toList.contains c || (wide && (c = ',' || c = '[' || c = ']'))

/-- Reads tag characters behind those already read, which are given in reverse. -/
def tagChars? (wide : Bool) : (fuel : Nat) → List Char → Cursor → Option (List Char × Cursor)
  | 0, acc, c => some (acc.reverse, c)
  | fuel + 1, acc, c =>
    match c.rest with
    | [] => some (acc.reverse, c)
    | d :: _ =>
      if !isTagChar wide d then some (acc.reverse, c)
      else if d = '%' then do
        let (e, count) ← escapedChar? c.rest
        tagChars? wide fuel (e :: acc) (c.skipMany (3 * count))
      else tagChars? wide fuel (d :: acc) c.skip

/-- Reads a tag text behind a beginning that is already known; together they must not be empty. -/
def tagText? (wide : Bool) (start : List Char) (c : Cursor) : Option (String × Cursor) := do
  let (chars, c') ← tagChars? wide c.rest.length [] c
  if start.isEmpty ∧ chars.isEmpty then none else some (String.ofList (start ++ chars), c')

/-- Reads a handle: an exclamation mark, a word, and another mark if there is one. -/
def handle? (c : Cursor) : Option (List Char × Cursor) :=
  match c.rest with
  | '!' :: _ =>
    let (word, c) := c.skip.span isWord
    match c.rest with
    | '!' :: _ => some ('!' :: word ++ ['!'], c.skip)
    | _ => some ('!' :: word, c)
  | _ => none

/-- A complete handle ends with a mark of its own. -/
def isCompleteHandle (handle : List Char) : Bool :=
  1 < handle.length && handle.getLast? = some '!'

/-- Reads a tag.  In a flow collection a comma may follow it directly. -/
def tag? (flow : Bool) (c : Cursor) : Option (TagText × Cursor) := do
  let (tag, c) ← match c.rest with
    | '!' :: '<' :: _ => do
      let (suffix, c) ← tagText? true [] c.skip.skip
      match c.rest with
      | '>' :: _ => some (⟨"", suffix⟩, c.skip)
      | _ => none
    | _ => do
      let (handle, c) ← handle? c
      if isCompleteHandle handle then
        let (suffix, c) ← tagText? false [] c
        some (⟨String.ofList handle, suffix⟩, c)
      else
        -- A lone mark is the tag itself; behind a longer handle the rest is its suffix.
        let (chars, c) ← tagChars? false c.rest.length [] c
        let suffix := String.ofList (handle.drop 1 ++ chars)
        if suffix.isEmpty then some (⟨"", "!"⟩, c) else some (⟨"!", suffix⟩, c)
  if atBlankOrEnd c.rest || (flow && c.rest.head? = some ',') then some (tag, c) else none

/-- Reads a version number of at most nine digits. -/
def versionNumber? (c : Cursor) : Option (Nat × Cursor) :=
  let (digits, c) := c.span Char.isDigit
  if digits.isEmpty ∨ 9 < digits.length then none
  else some (digits.foldl (fun n d => n * 10 + (d.toNat - '0'.toNat)) 0, c)

def versionDirective? (c : Cursor) : Option (Token × Cursor) := do
  let (major, c) ← versionNumber? c.skipBlanks
  match c.rest with
  | '.' :: _ => do
    let (minor, c) ← versionNumber? c.skip
    some (.versionDirective major minor, c)
  | _ => none

def tagDirective? (c : Cursor) : Option (Token × Cursor) := do
  let (handle, c) ← handle? c.skipBlanks
  if handle ≠ ['!'] ∧ !isCompleteHandle handle then none
  else if !(c.rest.head?.any isBlank) then none
  else
    let (expansion, c) ← tagText? true [] c.skipBlanks
    if atBlankOrEnd c.rest then some (.tagDirective (String.ofList handle) expansion, c) else none

/-- Reads a directive with the rest of its line. -/
def directive? (c : Cursor) : Option (Token × Cursor) := do
  let (name, c) := c.skip.span isWord
  if !atBlankOrEnd c.rest then none
  else
    let (token, c) ← match String.ofList name with
      | "YAML" => versionDirective? c
      | "TAG" => tagDirective? c
      | _ => none
    return (token, ← c.finishLine?)

def anchorName? (c : Cursor) : Option (String × Cursor) :=
  let (name, c) := c.skip.span isWord
  let enders := "?:,]\x7d%@".toList ++ [Char.ofNat 0x60]
  let closed := atBlankOrEnd c.rest || c.rest.head?.any enders.contains
  if name.isEmpty ∨ !closed then none else some (String.ofList name, c)

end Yaml
end Dataflow
