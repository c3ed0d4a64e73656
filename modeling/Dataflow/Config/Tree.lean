/-
Configuration values as files spell them.

A tree keeps what a file says before anything is made of it: a map may repeat a
key, and its keys may be any value.  `Tree.toJson?` turns a tree into JSON,
which needs text keys and lets the later of two equal keys count; the node
configurations of a file are read from trees too, in object or in array form.
-/
import Dataflow.Config.Node

namespace Dataflow

inductive Tree where
  | null
  | bool (value : Bool)
  | int (value : Int)
  | float (value : Float)
  | str (value : String)
  | seq (items : List Tree)
  | map (entries : List (Tree × Tree))
  deriving Inhabited

namespace Tree

mutual

/-- The JSON value of a tree.  A number that is not finite becomes `null`. -/
def toJson? : Tree → Option Json
  | null => some .null
  | bool value => some (.bool value)
  | int value => some (.int value)
  | float value => some (.ofFloat value)
  | str value => some (.str value)
  | seq items => (itemsToJson? items).map .arr
  | map entries => (entriesToJson? [] entries).map .obj

def itemsToJson? : List Tree → Option (List Json)
  | [] => some []
  | item :: rest => do
    let item ← toJson? item
    let rest ← itemsToJson? rest
    return item :: rest

/-- The fields of a map, put on top of those before. -/
def entriesToJson? (fields : List (String × Json)) :
    List (Tree × Tree) → Option (List (String × Json))
  | [] => some fields
  | (.str key, value) :: rest => do
    let value ← toJson? value
    entriesToJson? (Entries.insert key value fields) rest
  | _ :: _ => none

end

def asText? : Tree → Option String
  | str s => some s
  | _ => none

def asSeq? : Tree → Option (List Tree)
  | seq items => some items
  | _ => none

/-- A map with text keys as JSON values by key. -/
def asParameters? : Tree → Option (KeyMap Json)
  | map entries => (entriesToJson? [] entries).map KeyMap.ofList
  | _ => none

/-- Text, or nothing where `null` stands. -/
def asKeyword? : Tree → Option (Option String)
  | null => some none
  | str s => some (some s)
  | _ => none

/-- The value of one field among the entries of a record: a field can be named, or numbered by its
place among `names`.  The result tells whether the key names a field at all. -/
def fieldOf? (names : List String) : Tree → Option (Option String)
  | str s => some (if s ∈ names then some s else none)
  | int n => if 0 ≤ n then some names[n.toNat]? else none
  | _ => none

/-- Sorts the entries of a record by field.  A repeated field is refused; a key that names no field
is refused if `strict` holds and skipped otherwise. -/
def fields? (strict : Bool) (names : List String) :
    List (Tree × Tree) → Option (List (String × Tree))
  | [] => some []
  | (key, value) :: rest => do
    let later ← fields? strict names rest
    match ← fieldOf? names key with
    | some name => if (later.lookup name).isSome then none else some ((name, value) :: later)
    | none => if strict then none else some later

end Tree

namespace NodeConfig

def fieldNames : List String := ["processor", "parameters", "context_keyword"]

/-- Reads an optional part, with a default where it is left out. -/
def partOr {α : Type} (read : Tree → Option α) (default : α) : Option Tree → Option α
  | some part => read part
  | none => some default

/-- A node configuration from its three parts. -/
def ofParts? (processor? parameters? keyword? : Option Tree) : Option NodeConfig := do
  let processor ← (← processor?).asText?
  let parameters ← partOr Tree.asParameters? .empty parameters?
  let contextKeyword? ← partOr Tree.asKeyword? none keyword?
  return { processor, parameters, contextKeyword? }

/-- Reads the object or the array form. -/
def ofTree? : Tree → Option NodeConfig
  | .map entries => do
    let fields ← Tree.fields? true fieldNames entries
    ofParts? (fields.lookup "processor") (fields.lookup "parameters")
      (fields.lookup "context_keyword")
  | .seq items =>
    if 3 < items.length then none else ofParts? items[0]? items[1]? items[2]?
  | _ => none

def listOfTree? (tree : Tree) : Option (List NodeConfig) := do
  let items ← tree.asSeq?
  items.mapM ofTree?

/-- Reads a pipeline file: a bare list of nodes, or a map with the list under `pipeline`. -/
def documentOfTree? : Tree → Option (List NodeConfig)
  | .map entries => do
    let fields ← Tree.fields? false ["pipeline"] entries
    listOfTree? (← fields.lookup "pipeline")
  | tree => listOfTree? tree

end NodeConfig

namespace PipelineSpec

def ofTree? : Tree → Option PipelineSpec
  | .str p => some (.path p)
  | tree => (NodeConfig.listOfTree? tree).map .nodes

end PipelineSpec
end Dataflow
