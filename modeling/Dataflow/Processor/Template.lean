/-
Templates that render context values into a context key.

A format is literal text with placeholders in single braces; a brace that is
text is doubled.  `Template.parse` refuses a format with an unclosed, nested or
empty placeholder or a lone closing brace, and `Segment.format` writes segments
back as a format.
-/
import Dataflow.Processor
import Dataflow.Reference

namespace Dataflow

/-- A part of a format. -/
inductive Segment where
  | literal (text : String)
  | key (name : String)
  deriving DecidableEq, Repr, Inhabited

namespace Segment

def openBrace : Char := '\x7b'
def closeBrace : Char := '\x7d'

/-- A character of literal text as a format writes it. -/
def formatChar (c : Char) : List Char :=
  if c = openBrace ∨ c = closeBrace then [c, c] else [c]

def format : Segment → List Char
  | literal text => text.toList.flatMap formatChar
  | key name => openBrace :: name.toList ++ [closeBrace]

/-- Puts the literal text read so far, given in reverse, in front of the segments behind it. -/
def flush (literal : List Char) (rest : List Segment) : List Segment :=
  if literal.isEmpty then rest else .literal (String.ofList literal.reverse) :: rest

mutual

/-- Reads literal text; what was read of it so far is given in reverse. -/
def readText (literal : List Char) : List Char → Except String (List Segment)
  | [] => .ok (flush literal [])
  | '\x7b' :: '\x7b' :: rest => readText ('\x7b' :: literal) rest
  | '\x7d' :: '\x7d' :: rest => readText ('\x7d' :: literal) rest
  | '\x7b' :: rest => readKey literal [] rest
  | '\x7d' :: _ => .error "unmatched '\x7d'"
  | c :: rest => readText (c :: literal) rest

/-- Reads a placeholder behind its opening brace. -/
def readKey (literal name : List Char) : List Char → Except String (List Segment)
  | [] => .error "unclosed placeholder"
  | '\x7d' :: rest =>
    if name.isEmpty then .error "empty placeholder"
    else do
      let segments ← readText [] rest
      return flush literal (.key (String.ofList name.reverse) :: segments)
  | '\x7b' :: _ => .error "unclosed placeholder"
  | c :: rest => readKey literal (c :: name) rest

end

end Segment

structure Template where
  /-- The reference that names the template among the processors. -/
  reference : String
  segments : List Segment
  /-- The context key that receives the rendered text. -/
  output : String
  deriving DecidableEq, Repr, Inhabited

namespace Template

def parse (format output : String) : Except ReferenceError Template :=
  let reference := "template:" ++ format ++ ":" ++ output
  match Segment.readText [] format.toList with
  | .ok segments => .ok { reference, segments, output }
  | .error reason => .error (.malformed reference reason)

/-- The keys of the placeholders, each once, in order of first use. -/
def placeholders : List Segment → List String :=
  List.foldl (fun keys segment =>
    match segment with
    | .literal _ => keys
    | .key name => addKey name keys) []

/-- A context value inside rendered text: a string as it is, anything else as JSON. -/
def insertText : Json → String
  | .str s => s
  | value => value.compact

/-- Renders the segments behind `rendered` and stores the result. -/
def render (output : String) (rendered : String) : List Segment → Edit
  | [] => .andThen (.set output (.str rendered)) (fun _ => .done)
  | .literal text :: rest => render output (rendered ++ text) rest
  | .key name :: rest => .andThen (.get name) fun
    | some value => render output (rendered ++ insertText value) rest
    | none => .finish (.error (.context (.missingKey name)))

def toProcessor (t : Template) : ContextProcessor where
  name := t.reference
  requiredKeys := placeholders t.segments
  createdKeys := [t.output]
  edit _ := render t.output "" t.segments

end Template
end Dataflow
