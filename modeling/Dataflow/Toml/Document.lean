/-
Reading TOML documents.

`Toml.parse?` answers the value of a whole document as one tree.  Dates and times
become a map of one entry, whose key marks them as such.
-/
import Dataflow.Toml.Moment
import Dataflow.Toml.Number
import Dataflow.Toml.Table

namespace Dataflow
namespace Toml

/-- The key under which the text of a date or a time stands. -/
def momentKey : String := "$__toml_private_datetime"

/-- A value without parts that starts with a digit, a sign or a letter. -/
def atom? (s : List Char) : Option (Tree × List Char) :=
  match s with
  | 't' :: 'r' :: 'u' :: 'e' :: rest => some (.bool true, rest)
  | 'f' :: 'a' :: 'l' :: 's' :: 'e' :: rest => some (.bool false, rest)
  | _ =>
    match moment? s with
    | some (text, rest) => some (.map [(.str momentKey, .str text)], rest)
    | none =>
      match float? s with
      | some (value, rest) => some (.float value, rest)
      | none => (integer? s).map (fun (n, rest) => (.int n, rest))

mutual

/-- Reads a value; `depth` more levels of arrays and inline tables may follow. -/
def value? (depth : Nat) : (fuel : Nat) → Reader Tree
  | 0, _ => none
  | fuel + 1, '[' :: rest =>
    match depth with
    | 0 => none
    | depth + 1 => (items? depth fuel rest).map (fun (items, rest) => (.seq items, rest))
  | fuel + 1, '\x7b' :: rest =>
    match depth with
    | 0 => none
    | depth + 1 =>
      match skipBlanks rest with
      | '\x7d' :: rest => some (.map [], rest)
      | rest => (pairs? depth fuel [] rest).map
          (fun (items, rest) => (.map (Item.entriesToTree items), rest))
  | _ + 1, s =>
    match string? s with
    | some (text, rest) => some (.str text, rest)
    | none => atom? s

/-- Reads the items of an array up to its closing bracket. -/
def items? (depth : Nat) : (fuel : Nat) → Reader (List Tree)
  | 0, _ => none
  | fuel + 1, s =>
    match skipLines (s.length + 1) s with
    | ']' :: rest => some ([], rest)
    | s => do
      let (item, rest) ← value? depth fuel s
      match skipLines (rest.length + 1) rest with
      | ',' :: rest => do
        let (items, rest) ← items? depth fuel rest
        some (item :: items, rest)
      | ']' :: rest => some ([item], rest)
      | _ => none

/-- Reads the pairs of an inline table up to its closing brace, on top of those before. -/
def pairs? (depth : Nat) : (fuel : Nat) → Items → Reader Items
  | 0, _, _ => none
  | fuel + 1, items, s => do
    let ((path, key), rest) ← key? s
    match rest with
    | '=' :: rest => do
      let (tree, rest) ← value? depth fuel (skipBlanks rest)
      let items ← items.addValue key tree path
      match skipBlanks rest with
      | ',' :: rest => pairs? depth fuel items rest
      | '\x7d' :: rest => some (items, rest)
      | _ => none
    | _ => none

end

/-- A document while it is read: its tables, and the path of the table that values go to. -/
structure State where
  items : Items := []
  current : List String := []

def header? (closing s : List Char) : Option ((List String × String) × List Char) := do
  let (key, rest) ← key? s
  if closing.isPrefixOf rest then some (key, rest.drop closing.length) else none

/-- Reads what a line starts with, and the line to its end. -/
def line? (state : State) (s : List Char) : Option (State × List Char) :=
  match s with
  | '[' :: '[' :: rest => do
    let ((path, key), rest) ← header? [']', ']'] rest
    let rest ← restOfLine? rest
    let items ← state.items.within (Items.append key) path
    some ({ items, current := path ++ [key] }, rest)
  | '[' :: rest => do
    let ((path, key), rest) ← header? [']'] rest
    let rest ← restOfLine? rest
    let items ← state.items.within (Items.define key) path
    some ({ items, current := path ++ [key] }, rest)
  | _ => do
    let ((path, key), rest) ← key? s
    match rest with
    | '=' :: rest => do
      let rest := skipBlanks rest
      let (tree, rest) ← value? (maxDepth - 1) (rest.length + 1) rest
      let rest ← restOfLine? rest
      let items ← state.items.within (Items.addValue key tree path) state.current
      some ({ state with items }, rest)
    | _ => none

def lines? : (fuel : Nat) → State → List Char → Option State
  | 0, _, _ => none
  | fuel + 1, state, s =>
    match skipBlanks s with
    | [] => some state
    | s =>
      match lineEnd? (skipComment s) with
      | some rest => lines? fuel state rest
      | none => do
        let (state, rest) ← line? state s
        lines? fuel state rest

/-- The value of a document.  A byte order mark in front is no part of it. -/
def parse? (text : String) : Option Tree := do
  let s := match text.toList with
    | c :: rest => if c.toNat = 0xFEFF then rest else c :: rest
    | [] => []
  let state ← lines? (s.length + 2) {} s
  return .map (Item.entriesToTree state.items)

end Toml
end Dataflow
