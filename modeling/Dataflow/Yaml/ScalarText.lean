/-
Reading the text of scalars.

In plain and quoted scalars a stretch of blanks and line breaks between two
pieces of text is a `Gap`: on one line it is kept, a single break becomes a
blank, and of more breaks all but the first are kept.  Block scalars keep their
breaks, or fold them where neither of the two lines is more indented.
-/
import Dataflow.Yaml.Tag

namespace Dataflow
namespace Yaml

/-! ## Gaps -/

/-- Blanks and line breaks between two pieces of text. -/
structure Gap where
  /-- The blanks, as long as no line ended. -/
  blanks : List Char := []
  /-- What the first line break stands for; nothing if that break was escaped. -/
  first : List Char := []
  /-- What the further line breaks stand for. -/
  more : List Char := []
  crossed : Bool := false

namespace Gap

/-- What a gap stands for between two pieces of text. -/
def text (g : Gap) : List Char :=
  if !g.crossed then g.blanks
  else if g.first = ['\n'] then (if g.more.isEmpty then [' '] else g.more)
  else g.first ++ g.more

/-- Reads a gap.  On a further line a tab left of `indent` is refused. -/
def read? (indent : Nat) : (fuel : Nat) → Gap → Cursor → Option (Gap × Cursor)
  | 0, g, c => some (g, c)
  | fuel + 1, g, c =>
    match c.rest with
    | [] => some (g, c)
    | d :: _ =>
      if isBlank d then
        if g.crossed then
          if d = '\t' ∧ c.column < indent then none else read? indent fuel g c.skip
        else read? indent fuel { g with blanks := g.blanks ++ [d] } c.skip
      else if isBreak d then
        let (b, c) := c.takeLine
        if g.crossed then read? indent fuel { g with more := g.more ++ b } c
        else read? indent fuel { g with first := b, crossed := true } c
      else some (g, c)

end Gap

/-! ## Plain scalars -/

/-- The text of a plain scalar up to a blank, a break or an indicator that ends it.  In a flow
collection a colon in front of a flow indicator is refused. -/
def plainPiece? (flow : Bool) : List Char → Option (List Char)
  | [] => some []
  | c :: rest =>
    if isBlank c || isBreak c then some []
    else if flow && c = ':' && rest.head?.any ",?[]\x7b\x7d".toList.contains then none
    else if (c = ':' && atBlankOrEnd rest) || (flow && ",[]\x7b\x7d".toList.contains c) then some []
    else (plainPiece? flow rest).map (c :: ·)

/-- What was read of a plain scalar. -/
structure PlainText where
  value : List Char
  /-- The gap behind it reaches into another line. -/
  crossed : Bool
  cursor : Cursor

/-- Reads a plain scalar behind the text in `acc` and the gap `g`.  It ends at a comment, a
document marker, an indicator, or a line that is not indented enough. -/
def plainText? (flow : Bool) (indent : Nat) :
    (fuel : Nat) → List Char → Gap → Cursor → Option PlainText
  | 0, acc, g, c => some ⟨acc, g.crossed, c⟩
  | fuel + 1, acc, g, c => do
    if c.atDocumentMarker || c.rest.head? = some '#' then some ⟨acc, g.crossed, c⟩
    else
      let piece ← plainPiece? flow c.rest
      let (acc, g) := if piece.isEmpty then (acc, g) else (acc ++ g.text ++ piece, {})
      let c := c.skipMany piece.length
      match c.rest with
      | [] => some ⟨acc, g.crossed, c⟩
      | d :: _ =>
        if isBlank d || isBreak d then
          let (g, c) ← Gap.read? indent (c.rest.length + 1) g c
          if !flow ∧ c.column < indent then some ⟨acc, g.crossed, c⟩
          else plainText? flow indent fuel acc g c
        else some ⟨acc, g.crossed, c⟩

/-! ## Quoted scalars -/

/-- What an escape that takes no digits stands for. -/
def simpleEscape? (c : Char) : Option Char :=
  match c with
  | '0' => some (Char.ofNat 0)
  | 'a' => some (Char.ofNat 7)
  | 'b' => some (Char.ofNat 8)
  | 't' => some '\t'
  | '\t' => some '\t'
  | 'n' => some '\n'
  | 'v' => some (Char.ofNat 11)
  | 'f' => some (Char.ofNat 12)
  | 'r' => some '\r'
  | 'e' => some (Char.ofNat 27)
  | ' ' => some ' '
  | '"' => some '"'
  | '/' => some '/'
  | '\\' => some '\\'
  | 'N' => some nextLine
  | '_' => some (Char.ofNat 0xA0)
  | 'L' => some lineSeparator
  | 'P' => some paragraphSeparator
  | _ => none

def escapeDigits? (c : Char) : Option Nat :=
  match c with
  | 'x' => some 2
  | 'u' => some 4
  | 'U' => some 8
  | _ => none

/-- The character behind a backslash, and how long its escape is. -/
def escape? : List Char → Option (Char × Nat)
  | [] => none
  | c :: rest =>
    match simpleEscape? c with
    | some d => some (d, 1)
    | none => do
      let count ← escapeDigits? c
      let n ← hexNumber? count rest
      if n.isValidChar then some (Char.ofNat n, count + 1) else none

/-- How a piece of a quoted scalar ends: at something else, or at an escaped line break. -/
structure QuotedPiece where
  value : List Char
  escapedBreak : Bool
  cursor : Cursor

/-- The text of a quoted scalar up to a blank, a break or the closing quote. -/
def quotedPiece? (single : Bool) : (fuel : Nat) → List Char → Cursor → Option QuotedPiece
  | 0, acc, c => some ⟨acc.reverse, false, c⟩
  | fuel + 1, acc, c =>
    match c.rest with
    | [] => some ⟨acc.reverse, false, c⟩
    | '\'' :: rest =>
      if single then
        if rest.head? = some '\'' then quotedPiece? single fuel ('\'' :: acc) (c.skipMany 2)
        else some ⟨acc.reverse, false, c⟩
      else quotedPiece? single fuel ('\'' :: acc) c.skip
    | '"' :: _ =>
      if single then quotedPiece? single fuel ('"' :: acc) c.skip
      else some ⟨acc.reverse, false, c⟩
    | '\\' :: rest =>
      if single then quotedPiece? single fuel ('\\' :: acc) c.skip
      else if rest.head?.any isBreak then some ⟨acc.reverse, true, c.skip.skipLine⟩
      else do
        let (e, count) ← escape? rest
        quotedPiece? single fuel (e :: acc) (c.skipMany (count + 1))
    | d :: _ =>
      if isBlank d || isBreak d then some ⟨acc.reverse, false, c⟩
      else quotedPiece? single fuel (d :: acc) c.skip

/-- Reads a quoted scalar behind its opening quote; the text in `acc` is already read. -/
def quotedText? (single : Bool) : (fuel : Nat) → List Char → Cursor → Option (List Char × Cursor)
  | 0, _, _ => none
  | fuel + 1, acc, c => do
    if c.atDocumentMarker then none
    else
      let piece ← quotedPiece? single (c.rest.length + 1) [] c
      let acc := acc ++ piece.value
      let c := piece.cursor
      match c.rest with
      | [] => none
      | d :: _ =>
        if d = (if single then '\'' else '"') then some (acc, c.skip)
        else
          let start : Gap := { crossed := piece.escapedBreak }
          let (g, c) ← Gap.read? 0 (c.rest.length + 1) start c
          quotedText? single fuel (acc ++ g.text) c

/-! ## Block scalars -/

/-- What happens to the line breaks at the end of a block scalar. -/
inductive Chomping where
  | strip
  | clip
  | keep
  deriving DecidableEq, Repr

def chomping? : Char → Option Chomping
  | '+' => some .keep
  | '-' => some .strip
  | _ => none

/-- An indentation indicator; zero is refused. -/
def increment? (c : Cursor) : Option (Nat × Cursor) :=
  match c.rest with
  | d :: _ =>
    if d = '0' then none
    else if d.isDigit then some (d.toNat - '0'.toNat, c.skip)
    else some (0, c)
  | [] => some (0, c)

/-- The header of a block scalar: chomping and indentation in either order. -/
def blockHeader? (c : Cursor) : Option (Chomping × Nat × Cursor) :=
  match c.rest.head?.bind chomping? with
  | some chomping => do
    let (increment, c) ← increment? c.skip
    some (chomping, increment, c)
  | none => do
    let (increment, c) ← increment? c
    if increment = 0 then some (.clip, 0, c)
    else match c.rest.head?.bind chomping? with
      | some chomping => some (chomping, increment, c.skip)
      | none => some (.clip, increment, c)

/-- Reads the indentation and the blank lines in front of a line of a block scalar.  With no
indentation known yet (`indent = 0`) every blank at the front of a line counts; the result is the
breaks, the widest column reached and the cursor. -/
def blockBreaks? (indent : Nat) :
    (fuel : Nat) → List Char → (widest : Nat) → Cursor → Option (List Char × Nat × Cursor)
  | 0, acc, widest, c => some (acc, widest, c)
  | fuel + 1, acc, widest, c =>
    let leading := (c.rest.takeWhile (· = ' ')).length
    let taken := if indent = 0 then leading else min leading (indent - c.column)
    let c := c.skipMany taken
    let widest := max widest c.column
    match c.rest with
    | [] => some (acc, widest, c)
    | d :: _ =>
      if d = '\t' ∧ (indent = 0 ∨ c.column < indent) then none
      else if isBreak d then
        let (b, c) := c.takeLine
        blockBreaks? indent fuel (acc ++ b) widest c
      else some (acc, widest, c)

def startsBlank (s : List Char) : Bool := s.head?.any isBlank

/-- Reads the lines of a block scalar.  `break_` is the break behind the last line, `more` are the
blank lines behind that. -/
def blockLines? (literal : Bool) (indent : Nat) :
    (fuel : Nat) → (acc break_ more : List Char) → (wasBlank : Bool) → Cursor →
      Option (List Char × List Char × List Char × Cursor)
  | 0, acc, break_, more, _, c => some (acc, break_, more, c)
  | fuel + 1, acc, break_, more, wasBlank, c => do
    if c.column ≠ indent ∨ c.rest.isEmpty then some (acc, break_, more, c)
    else
      let blank := startsBlank c.rest
      let folds := !literal && break_ = ['\n'] && !wasBlank && !blank
      let joint := if folds then (if more.isEmpty then [' '] else more) else break_ ++ more
      let (line, c) := c.span (fun d => !isBreak d)
      let (b, c) := c.takeLine
      let (breaks, _, c) ← blockBreaks? indent (c.rest.length + 1) [] 0 c
      blockLines? literal indent fuel (acc ++ joint ++ line) b breaks blank c

/-- Reads a block scalar behind its indicator, inside a collection indented by `parent`, which is
negative outside of any. -/
def blockText? (literal : Bool) (parent : Int) (c : Cursor) : Option (List Char × Cursor) := do
  let (chomping, increment, c) ← blockHeader? c
  let c ← c.finishLine?
  let known := if increment = 0 then 0 else parent.toNat + increment
  let (breaks, widest, c) ← blockBreaks? known (c.rest.length + 1) [] 0 c
  let indent := if known = 0 then max widest (max (parent + 1).toNat 1) else known
  let (value, last, more, c) ← blockLines? literal indent (c.rest.length + 1) [] [] breaks false c
  match chomping with
  | .strip => some (value, c)
  | .clip => some (value ++ last, c)
  | .keep => some (value ++ last ++ more, c)

end Yaml
end Dataflow
