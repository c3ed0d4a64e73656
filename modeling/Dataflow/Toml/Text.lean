/-
Blanks, comments, keys and strings of TOML.

Every reader takes a text and answers what it read together with the rest, or
nothing if the text does not start with what it looks for.  A line ends with a
line feed, with or without a carriage return before it.
-/
namespace Dataflow
namespace Toml

/-- Reads the front of a text. -/
abbrev Reader (α : Type) := List Char → Option (α × List Char)

def isBlank (c : Char) : Bool := c = ' ' || c = '\t'

def skipBlanks (s : List Char) : List Char := s.dropWhile isBlank

/-- What may stand in a comment. -/
def isCommentChar (c : Char) : Bool := c = '\t' || 0x20 ≤ c.toNat

def skipComment : List Char → List Char
  | '#' :: rest => rest.dropWhile isCommentChar
  | s => s

/-- The text behind a line break. -/
def newline? : List Char → Option (List Char)
  | '\n' :: rest => some rest
  | '\r' :: '\n' :: rest => some rest
  | _ => none

/-- The text behind the end of a line, which may be the end of everything. -/
def lineEnd? (s : List Char) : Option (List Char) := if s.isEmpty then some [] else newline? s

/-- The text behind blanks, a comment and the end of the line. -/
def restOfLine? (s : List Char) : Option (List Char) := lineEnd? (skipComment (skipBlanks s))

/-- Skips blanks, comments and line breaks.  A comment must be followed by a line break. -/
def skipLines : (fuel : Nat) → List Char → List Char
  | 0, s => s
  | fuel + 1, s =>
    let s := skipBlanks s
    match newline? (skipComment s) with
    | some rest => skipLines fuel rest
    | none => s

/-! ## Strings -/

/-- What may stand in a one-line string between single quotes, besides other characters than the
quote itself. -/
def isTextChar (c : Char) : Bool := c = '\t' || (0x20 ≤ c.toNat && c.toNat ≠ 0x7F)

def hexValue? (c : Char) : Option Nat :=
  if c.isDigit then some (c.toNat - '0'.toNat)
  else if 'a' ≤ c ∧ c ≤ 'f' then some (c.toNat - 'a'.toNat + 10)
  else if 'A' ≤ c ∧ c ≤ 'F' then some (c.toNat - 'A'.toNat + 10)
  else none

/-- A character given by exactly `count` hexadecimal digits. -/
def codePoint? (count : Nat) (s : List Char) : Option (Char × List Char) := do
  if (s.take count).length < count then none
  else
    let n ← (s.take count).foldlM (fun n c => (hexValue? c).map (n * 16 + ·)) 0
    if n.isValidChar then some (Char.ofNat n, s.drop count) else none

/-- The character that an escape stands for, behind its backslash. -/
def escape? : Reader Char
  | 'b' :: rest => some (Char.ofNat 8, rest)
  | 't' :: rest => some ('\t', rest)
  | 'n' :: rest => some ('\n', rest)
  | 'f' :: rest => some (Char.ofNat 12, rest)
  | 'r' :: rest => some ('\r', rest)
  | '"' :: rest => some ('"', rest)
  | '\\' :: rest => some ('\\', rest)
  | 'u' :: rest => codePoint? 4 rest
  | 'U' :: rest => codePoint? 8 rest
  | _ => none

/-- A string between double quotes, behind the first of them; `acc` is what was read, in reverse. -/
def basicString? : (fuel : Nat) → List Char → Reader String
  | 0, _, _ => none
  | _ + 1, acc, '"' :: rest => some (String.ofList acc.reverse, rest)
  | fuel + 1, acc, '\\' :: rest => do
    let (c, rest) ← escape? rest
    basicString? fuel (c :: acc) rest
  | fuel + 1, acc, c :: rest => if isTextChar c then basicString? fuel (c :: acc) rest else none
  | _ + 1, _, [] => none

/-- A string between single quotes, behind the first of them. -/
def literalString? (s : List Char) : Option (String × List Char) :=
  let (text, rest) := s.span (fun c => isTextChar c && c ≠ '\'')
  match rest with
  | '\'' :: rest => some (String.ofList text, rest)
  | _ => none

/-- The end of a string between triple quotes: up to two quotes in front of the closing three
belong to the string.  Answers them, or nothing where the string goes on. -/
def closing? (quote : Char) (s : List Char) : Option (List Char × List Char) :=
  let count := (s.takeWhile (· = quote)).length
  if count < 3 then none
  else
    let extra := min (count - 3) 2
    some (List.replicate extra quote, s.drop (extra + 3))

/-- Skips blanks and line breaks. -/
def skipSpace : (fuel : Nat) → List Char → List Char
  | 0, s => s
  | fuel + 1, s =>
    match newline? (skipBlanks s) with
    | some rest => skipSpace fuel rest
    | none => skipBlanks s

/-- A string between triple quotes, behind the first three of them.  Only between double quotes a
backslash escapes, and at the end of a line it joins the lines. -/
def longString? (quote : Char) : (fuel : Nat) → List Char → Reader String
  | 0, _, _ => none
  | fuel + 1, acc, s =>
    match closing? quote s with
    | some (extra, rest) => some (String.ofList (acc.reverse ++ extra), rest)
    | none =>
      match newline? s with
      | some rest => longString? quote fuel ('\n' :: acc) rest
      | none =>
        match s with
        | [] => none
        | c :: rest =>
          if c = '\\' ∧ quote = '"' then
            match newline? (skipBlanks rest) with
            | some rest => longString? quote fuel acc (skipSpace (rest.length + 1) rest)
            | none => do
              let (e, rest) ← escape? rest
              longString? quote fuel (e :: acc) rest
          else if isTextChar c then longString? quote fuel (c :: acc) rest
          else none

def string? (s : List Char) : Option (String × List Char) :=
  let long (quote : Char) (rest : List Char) : Option (String × List Char) :=
    longString? quote (rest.length + 1) [] ((newline? rest).getD rest)
  match s with
  | '"' :: '"' :: '"' :: rest => long '"' rest
  | '\'' :: '\'' :: '\'' :: rest => long '\'' rest
  | '"' :: rest => basicString? (rest.length + 1) [] rest
  | '\'' :: rest => literalString? rest
  | _ => none

/-! ## Keys -/

def isKeyChar (c : Char) : Bool := c.isAlphanum || c = '_' || c = '-'

/-- One part of a key: a bare word or a one-line string. -/
def keyPart? (s : List Char) : Option (String × List Char) :=
  match s with
  | '"' :: rest => basicString? (rest.length + 1) [] rest
  | '\'' :: rest => literalString? rest
  | _ =>
    let (word, rest) := s.span isKeyChar
    if word.isEmpty then none else some (String.ofList word, rest)

/-- A key: parts with points between them, and blanks around each. -/
def keyParts? : (fuel : Nat) → Reader (List String)
  | 0, _ => none
  | fuel + 1, s => do
    let (part, rest) ← keyPart? (skipBlanks s)
    match skipBlanks rest with
    | '.' :: rest => do
      let (parts, rest) ← keyParts? fuel rest
      some (part :: parts, rest)
    | rest => some ([part], rest)

/-- How deep keys and values may be nested. -/
def maxDepth : Nat := 80

/-- A key, as the parts that lead to its table and the last part. -/
def key? (s : List Char) : Option ((List String × String) × List Char) := do
  let (parts, rest) ← keyParts? (s.length + 1) s
  if maxDepth ≤ parts.length then none
  else
    let last ← parts.getLast?
    some ((parts.dropLast, last), rest)

end Toml
end Dataflow
