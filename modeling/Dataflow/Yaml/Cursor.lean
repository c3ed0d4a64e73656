/-
A position in YAML text, and the character classes that the grammar uses.

A cursor is the text that is still to be read together with its line and column.
Every movement goes through `Cursor.skip`, `Cursor.skipLine` or `Cursor.span`.
Five characters break a line; three of them and the pair of carriage return and
line feed count as one plain line feed in the value of a scalar.
-/
import Dataflow.Yaml.Fault

namespace Dataflow
namespace Yaml

/-! ## Character classes -/

def isBlank (c : Char) : Bool := c = ' ' || c = '\t'

def nextLine : Char := Char.ofNat 0x85
def lineSeparator : Char := Char.ofNat 0x2028
def paragraphSeparator : Char := Char.ofNat 0x2029
def byteOrderMark : Char := Char.ofNat 0xFEFF

def isBreak (c : Char) : Bool :=
  c = '\n' || c = '\r' || c = nextLine || c = lineSeparator || c = paragraphSeparator

/-- Letters, digits, the underscore and the hyphen. -/
def isWord (c : Char) : Bool := c.isAlphanum || c = '_' || c = '-'

/-- The characters that may occur in a stream at all. -/
def isAllowed (c : Char) : Bool :=
  let n := c.toNat
  n = 0x9 || n = 0xA || n = 0xD || (0x20 ≤ n && n ≤ 0x7E) || n = 0x85 ||
    (0xA0 ≤ n && n ≤ 0xD7FF) || (0xE000 ≤ n && n ≤ 0xFFFD) || 0x10000 ≤ n

/-- Whether a text is at its end, at a blank or at a line break. -/
def atBlankOrEnd : List Char → Bool
  | [] => true
  | c :: _ => isBlank c || isBreak c

/-- Whether a text is at its end or at a line break. -/
def atLineEnd : List Char → Bool
  | [] => true
  | c :: _ => isBreak c

/-! ## Cursors -/

structure Cursor where
  rest : List Char
  /-- How many characters were read. -/
  index : Nat := 0
  line : Nat := 0
  column : Nat := 0

namespace Cursor

def place (c : Cursor) : Place := { line := c.line, column := c.column }

/-- Moves past a character within a line. -/
def skip (c : Cursor) : Cursor :=
  { c with rest := c.rest.drop 1, index := c.index + 1, column := c.column + 1 }

/-- Moves past several characters within a line. -/
def skipMany (c : Cursor) (count : Nat) : Cursor :=
  { c with rest := c.rest.drop count, index := c.index + count, column := c.column + count }

/-- Moves past the line break at the cursor, if there is one, and answers what it stands for. -/
def takeLine (c : Cursor) : List Char × Cursor :=
  let next (count : Nat) : Cursor :=
    { rest := c.rest.drop count, index := c.index + count, line := c.line + 1, column := 0 }
  match c.rest with
  | '\r' :: '\n' :: _ => (['\n'], next 2)
  | b :: _ =>
    if b = '\n' || b = '\r' || b = nextLine then (['\n'], next 1)
    else if isBreak b then ([b], next 1)
    else ([], c)
  | [] => ([], c)

def skipLine (c : Cursor) : Cursor := c.takeLine.2

/-- The characters up to the first that fails the test, which must fail at line breaks. -/
def span (c : Cursor) (p : Char → Bool) : List Char × Cursor :=
  let taken := c.rest.takeWhile p
  (taken, c.skipMany taken.length)

def skipWhile (c : Cursor) (p : Char → Bool) : Cursor := (c.span p).2

def skipBlanks (c : Cursor) : Cursor := c.skipWhile isBlank

/-- Moves past a comment, if the cursor is at one. -/
def skipComment (c : Cursor) : Cursor :=
  if c.rest.head? = some '#' then c.skipWhile (fun d => !isBreak d) else c

/-- Moves past blanks and a comment to the next line; nothing else may be on the line. -/
def finishLine? (c : Cursor) : Option Cursor :=
  let c := c.skipBlanks.skipComment
  if atLineEnd c.rest then some c.skipLine else none

/-- Whether the cursor is at a document marker: three equal characters at the start of a line. -/
def atMarker (c : Cursor) (mark : Char) : Bool :=
  c.column = 0 && c.rest.take 3 = [mark, mark, mark] && atBlankOrEnd (c.rest.drop 3)

def atDocumentMarker (c : Cursor) : Bool := c.atMarker '-' || c.atMarker '.'

end Cursor
end Yaml
end Dataflow
