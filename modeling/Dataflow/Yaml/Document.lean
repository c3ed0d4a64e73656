/-
From YAML tokens to the nodes of a document.

A stream must hold at most one document.  Tags are resolved against the handles
that the document declares, and every alias against the anchors before it.  An
alias refers to an anchor by a number: the count of distinct anchor names at the
place where the anchor was set.  Setting a name again can therefore make two
anchors share a number, and the later of them counts for both.
-/
import Dataflow.Yaml.Token

namespace Dataflow
namespace Yaml

inductive Node where
  | scalar (value : String) (style : ScalarStyle) (tag? : Option String)
  | sequence (tag? : Option String) (items : List Node)
  | mapping (tag? : Option String) (entries : List (Node × Node))
  | aliasOf (number : Nat)
  deriving Inhabited

namespace Node

/-- What stands where a node was left out. -/
def absent : Node := .scalar "" .plain none

mutual

/-- How many events a node consists of: one for a scalar or an alias, a start and an end for a
collection. -/
def size : Node → Nat
  | scalar .. => 1
  | aliasOf _ => 1
  | sequence _ items => sizeOfItems items + 2
  | mapping _ entries => sizeOfEntries entries + 2

def sizeOfItems : List Node → Nat
  | [] => 0
  | item :: rest => size item + sizeOfItems rest

def sizeOfEntries : List (Node × Node) → Nat
  | [] => 0
  | (key, value) :: rest => size key + size value + sizeOfEntries rest

end

end Node

/-! ## Anchors -/

structure Anchors where
  /-- The number that each name stands for. -/
  numbers : List (String × Nat) := []
  /-- The anchor that each number stands for, latest first; anchors are counted from 0. -/
  starts : List (Nat × Nat) := []
  count : Nat := 0
  /-- The nodes behind the anchors. -/
  nodes : List (Nat × Node) := []
  deriving Inhabited

namespace Anchors

def number? (a : Anchors) (name : String) : Option Nat := a.numbers.lookup name

/-- Sets an anchor in front of a node that is still to be read. -/
def start (a : Anchors) (name : String) : Anchors :=
  let number := a.numbers.length
  { a with
    numbers := (name, number) :: a.numbers.filter (·.1 ≠ name)
    starts := (number, a.count) :: a.starts
    count := a.count + 1 }

def finish (a : Anchors) (anchor : Nat) (node : Node) : Anchors :=
  { a with nodes := (anchor, node) :: a.nodes }

/-- The node that a number stands for in the end. -/
def node? (a : Anchors) (number : Nat) : Option Node := do
  let anchor ← a.starts.lookup number
  a.nodes.lookup anchor

end Anchors

/-! ## Reading nodes -/

/-- What is left to be read, with what the document declared so far. -/
structure Source where
  tokens : List PlacedToken
  /-- What is wrong behind the tokens, if something is. -/
  fault? : Option Fault := none
  anchors : Anchors := {}
  /-- What the tag handles stand for. -/
  handles : List (String × String) := []

/-- Reads from the tokens, or fails. -/
abbrev Read := StateT Source (Except Fault)

namespace Read

/-- The next token; behind the tokens there is only a fault. -/
def next : Read PlacedToken := do
  let source ← get
  match source.tokens with
  | t :: _ => return t
  | [] => throw (source.fault?.getD { problem := "found no token" })

def peek : Read Token := do return (← next).token

/-- Reports a problem with the next token. -/
def refuse {α : Type} (problem : String) (context? : Option (String × Place) := none) :
    Read α := do
  throw { problem, place := (← next).place, context? }

/-- The fuel of a reader is enough for all tokens. -/
def exhausted {α : Type} : Read α := refuse "found too many tokens"

def skip : Read Unit := modify fun s => { s with tokens := s.tokens.drop 1 }

def skipIf (t : Token) : Read Bool := do
  if (← peek) = t then
    skip
    return true
  else return false

def anchor? : Read (Option String) := do
  match ← peek with
  | .anchor name =>
    skip
    return some name
  | _ => return none

/-- The full text of a tag at a place, in a node that starts at another one. -/
def resolveTag (start : Place) (t : TagText) (place : Place) : Read String := do
  if t.handle = "" then return t.suffix
  else match (← get).handles.lookup t.handle with
    | some expansion => return expansion ++ t.suffix
    | none =>
      let fault : Fault :=
        { problem := "found undefined tag handle"
          place
          context? := some ("while parsing a node", start) }
      throw fault

def tag? : Read (Option (TagText × Place)) := do
  let t ← next
  match t.token with
  | .tag text =>
    skip
    return some (text, t.place)
  | _ => return none

/-- An anchor and a tag in either order. -/
def properties : Read (Option String × Option String) := do
  let start := (← next).place
  let first? ← anchor?
  let tag? ← tag?
  let name? ← match first? with
    | some name => pure (some name)
    | none => match tag? with
      | some _ => anchor?
      | none => pure none
  let tag? ← match tag? with
    | some (t, place) => do pure (some (← resolveTag start t place))
    | none => pure none
  return (name?, tag?)

/-- Sets the anchor, reads the node and attaches it. -/
def anchored (name? : Option String) (read : Read Node) : Read Node := do
  match name? with
  | none => read
  | some name =>
    let anchor := (← get).anchors.count
    modify fun s => { s with anchors := s.anchors.start name }
    let node ← read
    modify fun s => { s with anchors := s.anchors.finish anchor node }
    return node

/-- Whether a token ends an entry of a block mapping that has no node. -/
def endsEntry : Token → Bool
  | .key | .value | .blockEnd => true
  | _ => false

/-- A scalar with the lone mark as its tag is as good as untagged. -/
def scalarTag (tag? : Option String) : Option String := if tag? = some "!" then none else tag?

mutual

/-- Reads a node.  Block collections are only read where `block` holds, and a sequence without
indentation of its own only where `indentless` holds. -/
def node (block indentless : Bool) : (fuel : Nat) → Read Node
  | 0 => exhausted
  | fuel + 1 => do
    match ← peek with
    | .aliasOf name =>
      match (← get).anchors.number? name with
      | some number =>
        skip
        return .aliasOf number
      | none => refuse "unknown anchor"
    | _ =>
      let (name?, tag?) ← properties
      match ← peek with
      | .scalar value style =>
        skip
        anchored name? (return .scalar value style (scalarTag tag?))
      | .flowSequenceStart =>
        let start := (← next).place
        skip
        anchored name? (do return .sequence tag? (← flowItems start true fuel))
      | .flowMappingStart =>
        let start := (← next).place
        skip
        anchored name? (do return .mapping tag? (← flowEntries start true fuel))
      | .blockSequenceStart =>
        if block then
          let start := (← next).place
          skip
          anchored name? (do return .sequence tag? (← blockItems start fuel))
        else missing block name? tag?
      | .blockMappingStart =>
        if block then
          let start := (← next).place
          skip
          anchored name? (do return .mapping tag? (← blockEntries start fuel))
        else missing block name? tag?
      | .blockEntry =>
        if indentless then anchored name? (do return .sequence tag? (← indentlessItems fuel))
        else missing block name? tag?
      | _ => missing block name? tag?

/-- A node that consists of properties only; there must be some. -/
def missing (block : Bool) (name? tag? : Option String) : Read Node := do
  if name?.isNone ∧ tag?.isNone then
    let context := if block then "while parsing a block node" else "while parsing a flow node"
    refuse "did not find expected node content" (some (context, (← next).place))
  else anchored name? (return .scalar "" .plain tag?)

/-- The entries of a block sequence that started at a place, up to its end. -/
def blockItems (start : Place) : (fuel : Nat) → Read (List Node)
  | 0 => exhausted
  | fuel + 1 => do
    if ← skipIf .blockEnd then return []
    else if ← skipIf .blockEntry then
      let item ← match ← peek with
        | .blockEntry | .blockEnd => pure .absent
        | _ => node true false fuel
      return item :: (← blockItems start fuel)
    else
      refuse "did not find expected '-' indicator" (some ("while parsing a block collection", start))

/-- The entries of a sequence that is not indented below its key. -/
def indentlessItems : (fuel : Nat) → Read (List Node)
  | 0 => exhausted
  | fuel + 1 => do
    if ← skipIf .blockEntry then
      let next ← peek
      let item ← if next = .blockEntry ∨ endsEntry next then pure .absent else node true false fuel
      return item :: (← indentlessItems fuel)
    else return []

/-- A key or a value of a block mapping. -/
def entryPart : (fuel : Nat) → Read Node
  | 0 => exhausted
  | fuel + 1 => do
    if endsEntry (← peek) then return .absent else node true true fuel

/-- The entries of a block mapping that started at a place, up to its end. -/
def blockEntries (start : Place) : (fuel : Nat) → Read (List (Node × Node))
  | 0 => exhausted
  | fuel + 1 => do
    if ← skipIf .blockEnd then return []
    else if ← skipIf .key then
      let key ← entryPart fuel
      let value ← if ← skipIf .value then entryPart fuel else pure .absent
      return (key, value) :: (← blockEntries start fuel)
    else refuse "did not find expected key" (some ("while parsing a block mapping", start))

/-- The items of a flow sequence that started at a place, up to its end. -/
def flowItems (start : Place) (first : Bool) : (fuel : Nat) → Read (List Node)
  | 0 => exhausted
  | fuel + 1 => do
    if ← skipIf .flowSequenceEnd then return []
    else
      if !first then
        if !(← skipIf .flowEntry) then
          refuse "did not find expected ',' or ']'" (some ("while parsing a flow sequence", start))
      if ← skipIf .flowSequenceEnd then return []
      else
        let item ← if ← skipIf .key then flowPair fuel else node false false fuel
        return item :: (← flowItems start false fuel)

/-- A mapping of one entry inside a flow sequence, behind its key token.  Where the key is left out
the token in its place is skipped with it. -/
def flowPair : (fuel : Nat) → Read Node
  | 0 => exhausted
  | fuel + 1 => do
    let key ← match ← peek with
      | .value | .flowEntry | .flowSequenceEnd => do
        skip
        pure .absent
      | _ => node false false fuel
    let value ← if ← skipIf .value then
        match ← peek with
        | .flowEntry | .flowSequenceEnd => pure .absent
        | _ => node false false fuel
      else pure .absent
    return .mapping none [(key, value)]

/-- The entries of a flow mapping that started at a place, up to its end. -/
def flowEntries (start : Place) (first : Bool) : (fuel : Nat) → Read (List (Node × Node))
  | 0 => exhausted
  | fuel + 1 => do
    if ← skipIf .flowMappingEnd then return []
    else
      if !first then
        if !(← skipIf .flowEntry) then
          refuse "did not find expected ',' or '\x7d'"
            (some ("while parsing a flow mapping", start))
      if ← skipIf .flowMappingEnd then return []
      else
        let entry ← if ← skipIf .key then do
            let key ← match ← peek with
              | .value | .flowEntry | .flowMappingEnd => pure .absent
              | _ => node false false fuel
            let value ← if ← skipIf .value then
                match ← peek with
                | .flowEntry | .flowMappingEnd => pure .absent
                | _ => node false false fuel
              else pure .absent
            pure (key, value)
          else do pure (← node false false fuel, .absent)
        return entry :: (← flowEntries start false fuel)

end

/-! ## Documents -/

/-- Reads directives.  There may be one version, of 1.1 or 1.2, and one meaning for each handle. -/
def directives (versioned : Bool) : (fuel : Nat) → Read Unit
  | 0 => exhausted
  | fuel + 1 => do
    match ← peek with
    | .versionDirective major minor =>
      if versioned then refuse "found duplicate %YAML directive"
      else if major ≠ 1 ∨ (minor ≠ 1 ∧ minor ≠ 2) then refuse "found incompatible YAML document"
      else
        skip
        directives true fuel
    | .tagDirective handle expansion =>
      if ((← get).handles.lookup handle).isSome then refuse "found duplicate %TAG directive"
      else
        skip
        modify fun s => { s with handles := (handle, expansion) :: s.handles }
        directives versioned fuel
    | _ => return ()

/-- The handles that every document knows; its own declarations come before them. -/
def defaultHandles : List (String × String) := [("!", "!"), ("!!", "tag:yaml.org,2002:")]

def addDefaultHandles : Read Unit :=
  modify fun s => { s with handles := s.handles ++ defaultHandles }

/-- The root of the only document, or nothing for an empty stream. -/
def root (fuel : Nat) : Read (Option Node) := do
  match ← peek with
  | .streamEnd => return none
  | .versionDirective .. | .tagDirective .. | .documentStart =>
    directives false fuel
    addDefaultHandles
    if ← skipIf .documentStart then
      match ← peek with
      | .versionDirective .. | .tagDirective .. | .documentStart | .documentEnd | .streamEnd =>
        return some .absent
      | _ => return some (← node true false fuel)
    else refuse "did not find expected <document start>"
  | _ =>
    addDefaultHandles
    return some (← node true false fuel)

end Read

/-- A document: its root, unless the stream was empty, and its anchors. -/
structure Document where
  root? : Option Node
  anchors : Anchors

namespace Document

/-- Reads the only document of a stream; nothing but end markers may follow it. -/
def ofTokens (t : Tokens) : Except Fault Document := do
  let fuel := 4 * t.tokens.length + 8
  let (root?, source) ← (Read.root fuel).run { tokens := t.tokens, fault? := t.fault? }
  match source.tokens.dropWhile (fun t => t.token = .documentEnd), source.fault? with
  | [⟨.streamEnd, _⟩], _ => return { root?, anchors := source.anchors }
  | [], some fault => .error fault
  | _, _ =>
    .error {
      problem := "deserializing from YAML containing more than one document is not supported" }

end Document
end Yaml
end Dataflow
