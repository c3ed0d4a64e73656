/-
From YAML text to tokens.

The lexer keeps the open block collections as a stack of columns and writes their
starts and ends into the tokens.  A key without the question mark is recognised
only at its colon: until then the place where it began is remembered as a
candidate, one for each level of flow collections, and the colon inserts the key
token there.  A candidate ends with its line, or 1024 characters behind its
start; one that stands where only a key can stand is an error then.
-/
import Dataflow.Yaml.ScalarText

namespace Dataflow
namespace Yaml

/-- A place where a key may have begun. -/
structure Candidate where
  /-- Nothing but a key may stand here. -/
  required : Bool
  /-- How many tokens stand before it. -/
  position : Nat
  index : Nat
  place : Place

/-- How far from its start the colon of a key may be. -/
def maxKeyLength : Nat := 1024

structure Lexer where
  cursor : Cursor
  tokens : Array PlacedToken := #[]
  /-- The column of the innermost block collection, or -1. -/
  indent : Int := -1
  /-- The columns of the collections around it. -/
  outer : List Int := []
  /-- A key may begin here without a question mark. -/
  keyAllowed : Bool := true
  /-- The candidate of the innermost level, and those of the levels around it. -/
  candidate : Option Candidate := none
  outerCandidates : List (Option Candidate) := []

namespace Lexer

def inFlow (l : Lexer) : Bool := !l.outerCandidates.isEmpty

/-- Adds a token that starts at the cursor. -/
def push (l : Lexer) (t : Token) : Lexer :=
  { l with tokens := l.tokens.push ⟨t, l.cursor.place⟩ }

def insertAt (l : Lexer) (position : Nat) (t : PlacedToken) : Lexer :=
  { l with tokens := l.tokens.insertIdxIfInBounds position t }

/-! ## Block collections -/

/-- Opens a block collection at a column that is deeper than the innermost one. -/
def openBlock (l : Lexer) (position : Nat) (start : PlacedToken) : Lexer :=
  if l.inFlow then l
  else if l.indent < start.place.column then
    { l.insertAt position start with indent := start.place.column, outer := l.indent :: l.outer }
  else l

/-- Closes the block collections that are deeper than a column. -/
def closeBlocksFrom (column : Int) : (outer : List Int) → Lexer → Lexer
  | [], l => l
  | i :: rest, l =>
    if column < l.indent then
      closeBlocksFrom column rest { l.push .blockEnd with indent := i, outer := rest }
    else l

def closeBlocks (l : Lexer) (column : Int) : Lexer :=
  if l.inFlow then l else closeBlocksFrom column l.outer l

/-! ## Key candidates -/

/-- Gives the candidate of the innermost level up. -/
def dropCandidate? (l : Lexer) : Option Lexer :=
  match l.candidate with
  | some c => if c.required then none else some { l with candidate := none }
  | none => some l

/-- Remembers the cursor as the start of a key, if a key may begin here. -/
def saveCandidate? (l : Lexer) : Option Lexer :=
  if l.keyAllowed then do
    let c := l.cursor
    let l ← l.dropCandidate?
    let candidate : Candidate :=
      { required := !l.inFlow && l.indent == c.column
        position := l.tokens.size
        index := c.index
        place := c.place }
    return { l with candidate := some candidate }
  else some l

/-- Whether the colon of a key can no longer follow. -/
def isStale (c : Cursor) (k : Candidate) : Bool :=
  k.place.line < c.line || k.index + maxKeyLength < c.index

def dropStale? (c : Cursor) : Option Candidate → Option (Option Candidate)
  | none => some none
  | some k =>
    if isStale c k then (if k.required then none else some none) else some (some k)

def dropAllStale? (l : Lexer) : Option Lexer := do
  let candidate ← dropStale? l.cursor l.candidate
  let outerCandidates ← l.outerCandidates.mapM (dropStale? l.cursor)
  return { l with candidate, outerCandidates }

/-! ## Blanks and comments -/

/-- Moves to the next token.  A line that ends outside of flow collections makes a key possible, and
where a key is possible a tab is not skipped. -/
def toNextToken : (fuel : Nat) → Lexer → Lexer
  | 0, l => l
  | fuel + 1, l =>
    let c := l.cursor
    let c := if c.column = 0 && c.rest.head? = some byteOrderMark then c.skip else c
    let tabs := l.inFlow || !l.keyAllowed
    let c := (c.skipWhile fun d => d = ' ' || (tabs && d = '\t')).skipComment
    if c.rest.head?.any isBreak then
      toNextToken fuel
        { l with cursor := c.skipLine, keyAllowed := l.keyAllowed || !l.inFlow }
    else { l with cursor := c }

/-! ## Tokens -/

/-- A token of a given length that may begin or end something. -/
def indicator (l : Lexer) (length : Nat) (keyAllowed : Bool) (t : Token) : Lexer :=
  { l.push t with cursor := l.cursor.skipMany length, keyAllowed }

def readDirective? (l : Lexer) : Option Lexer := do
  let l ← (l.closeBlocks (-1)).dropCandidate?
  let (t, cursor) ← directive? l.cursor
  return { l.push t with cursor, keyAllowed := false }

def readMarker? (l : Lexer) (t : Token) : Option Lexer := do
  let l ← (l.closeBlocks (-1)).dropCandidate?
  return l.indicator 3 false t

def openFlow? (l : Lexer) (t : Token) : Option Lexer := do
  let l ← l.saveCandidate?
  let l := l.indicator 1 true t
  return { l with candidate := none, outerCandidates := l.candidate :: l.outerCandidates }

def closeFlow? (l : Lexer) (t : Token) : Option Lexer := do
  let l ← l.dropCandidate?
  let l := l.indicator 1 false t
  match l.outerCandidates with
  | c :: rest => return { l with candidate := c, outerCandidates := rest }
  | [] => return l

def readFlowEntry? (l : Lexer) : Option Lexer := do
  let l ← l.dropCandidate?
  return l.indicator 1 true .flowEntry

/-- Opens a block collection at the cursor, which must be where a key may begin. -/
def openBlockHere? (l : Lexer) (start : Token) : Option Lexer :=
  if l.inFlow then some l
  else if l.keyAllowed then some (l.openBlock l.tokens.size ⟨start, l.cursor.place⟩)
  else none

def readBlockEntry? (l : Lexer) : Option Lexer := do
  let l ← l.openBlockHere? .blockSequenceStart
  let l ← l.dropCandidate?
  return l.indicator 1 true .blockEntry

def readKey? (l : Lexer) : Option Lexer := do
  let l ← l.openBlockHere? .blockMappingStart
  let l ← l.dropCandidate?
  return l.indicator 1 (!l.inFlow) .key

/-- A colon.  If a key candidate is open, it was a key. -/
def readValue? (l : Lexer) : Option Lexer :=
  match l.candidate with
  | some k =>
    let l := l.insertAt k.position ⟨.key, k.place⟩
    let l := l.openBlock k.position ⟨.blockMappingStart, k.place⟩
    some ({ l with candidate := none }.indicator 1 false .value)
  | none => do
    let l ← l.openBlockHere? .blockMappingStart
    return l.indicator 1 (!l.inFlow) .value

def readAnchor? (l : Lexer) (make : String → Token) : Option Lexer := do
  let l ← l.saveCandidate?
  let (name, cursor) ← anchorName? l.cursor
  return { l.push (make name) with cursor, keyAllowed := false }

def readTag? (l : Lexer) : Option Lexer := do
  let l ← l.saveCandidate?
  let (t, cursor) ← tag? l.inFlow l.cursor
  return { l.push (.tag t) with cursor, keyAllowed := false }

def readBlockScalar? (l : Lexer) (literal : Bool) : Option Lexer := do
  let l ← l.dropCandidate?
  let (value, cursor) ← blockText? literal l.indent l.cursor.skip
  let style := if literal then .literal else .folded
  return { l.push (.scalar (String.ofList value) style) with cursor, keyAllowed := true }

def readQuoted? (l : Lexer) (single : Bool) : Option Lexer := do
  let l ← l.saveCandidate?
  let c := l.cursor.skip
  let (value, cursor) ← quotedText? single (c.rest.length + 1) [] c
  return { l.push (.scalar (String.ofList value) .quoted) with cursor, keyAllowed := false }

/-- A plain scalar; if it reaches into another line a key may begin behind it. -/
def readPlain? (l : Lexer) : Option Lexer := do
  let l ← l.saveCandidate?
  let c := l.cursor
  let text ← plainText? l.inFlow (l.indent + 1).toNat (c.rest.length + 1) [] {} c
  return { l.push (.scalar (String.ofList text.value) .plain) with
    cursor := text.cursor, keyAllowed := text.crossed }

/-- The characters that cannot begin a plain scalar. -/
def indicators : List Char := "-?:,[]\x7b\x7d#&*!|>'\"%@".toList ++ [Char.ofNat 0x60]

/-- Whether a plain scalar begins with `c` in front of `rest`. -/
def beginsPlain (flow : Bool) (c : Char) (rest : List Char) : Bool :=
  (!(isBlank c || isBreak c) && !indicators.contains c) ||
    (c = '-' && !(rest.head?.any isBlank)) ||
    (!flow && (c = '?' || c = ':') && !atBlankOrEnd rest)

/-- Reads the token at the cursor, which begins with `c`. -/
def readToken? (l : Lexer) (c : Char) (rest : List Char) : Option Lexer :=
  let apart := l.inFlow || atBlankOrEnd rest
  if l.cursor.column = 0 ∧ c = '%' then l.readDirective?
  else if l.cursor.atMarker '-' then l.readMarker? .documentStart
  else if l.cursor.atMarker '.' then l.readMarker? .documentEnd
  else if c = '[' then l.openFlow? .flowSequenceStart
  else if c = '\x7b' then l.openFlow? .flowMappingStart
  else if c = ']' then l.closeFlow? .flowSequenceEnd
  else if c = '\x7d' then l.closeFlow? .flowMappingEnd
  else if c = ',' then l.readFlowEntry?
  else if c = '-' ∧ atBlankOrEnd rest then l.readBlockEntry?
  else if c = '?' ∧ apart then l.readKey?
  else if c = ':' ∧ apart then l.readValue?
  else if c = '*' then l.readAnchor? .aliasOf
  else if c = '&' then l.readAnchor? .anchor
  else if c = '!' then l.readTag?
  else if c = '|' ∧ !l.inFlow then l.readBlockScalar? true
  else if c = '>' ∧ !l.inFlow then l.readBlockScalar? false
  else if c = '\'' then l.readQuoted? true
  else if c = '"' then l.readQuoted? false
  else if beginsPlain l.inFlow c rest then l.readPlain?
  else none

/-- The tokens so far, in front of something that is no token. -/
def broken (l : Lexer) : Tokens where
  tokens := l.tokens.toList
  fault? := some { problem := "found no token", place := l.cursor.place }

/-- Closes everything at the end of the text, which ends the last line. -/
def finish (l : Lexer) : Tokens :=
  let c := l.cursor
  let c := if c.column = 0 then c else { c with line := c.line + 1, column := 0 }
  let l := { l with cursor := c }
  match (l.closeBlocks (-1)).dropCandidate? with
  | some l => { tokens := (l.push .streamEnd).tokens.toList }
  | none => l.broken

/-- Reads tokens to the end of the text. -/
def run : (fuel : Nat) → Lexer → Tokens
  | 0, l => l.broken
  | fuel + 1, l =>
    match (l.toNextToken (l.cursor.rest.length + 1)).dropAllStale? with
    | none => l.broken
    | some l =>
      let l := l.closeBlocks l.cursor.column
      match l.cursor.rest with
      | [] => l.finish
      | c :: rest =>
        match l.readToken? c rest with
        | none => l.broken
        | some l => run fuel l

end Lexer

/-- The tokens of a text.  A byte order mark in front of everything is no part of it. -/
def Tokens.scan (text : String) : Tokens :=
  let chars := match text.toList with
    | c :: rest => if c = byteOrderMark then rest else c :: rest
    | [] => []
  if chars.all isAllowed then Lexer.run (2 * chars.length + 2) { cursor := { rest := chars } }
  else { tokens := [], fault? := some { problem := "control characters are not allowed" } }

end Yaml
end Dataflow
