/-
From the nodes of a YAML document to configuration values.

Aliases are replaced by what they stand for.  Two limits keep this finite:
collections may be nested 128 deep, and the number of aliases that are followed
may be at most a hundred times the size of the document.  The second is counted
down across a whole document.
-/
import Dataflow.Yaml.Document
import Dataflow.Yaml.Scalar
import Dataflow.Yaml.Token.Lexer

namespace Dataflow
namespace Yaml

/-- How deep collections may be nested. -/
def maxDepth : Nat := 128

/-- How many aliases may be followed for each event of the document. -/
def aliasesPerEvent : Nat := 100

/-- Builds a value while counting down the aliases that may still be followed. -/
abbrev Build := StateT Nat Option

namespace Build

/-- Follows an alias.  What it stands for is never an alias itself. -/
def follow (anchors : Anchors) (number : Nat) : Build Node := do
  match ← get with
  | 0 => failure
  | left + 1 =>
    set left
    match anchors.node? number with
    | some node => return node
    | none => failure

/-- The node itself, or what it stands for. -/
def resolve (anchors : Anchors) : Node → Build Node
  | .aliasOf number => follow anchors number
  | node => return node

def noLocalTag (tag? : Option String) : Build Unit :=
  if tag?.any isLocalTag then failure else return ()

/-- The value of a node under `depth` more levels of collections. -/
def value (anchors : Anchors) : (depth : Nat) → Node → Build Tree
  | depth, node => do
    match ← resolve anchors node, depth with
    | .scalar text style tag?, _ =>
      match scalarValue? text style tag? with
      | some tree => return tree
      | none => failure
    | .sequence tag? items, depth + 1 =>
      noLocalTag tag?
      return .seq (← items.mapM (value anchors depth))
    | .mapping tag? entries, depth + 1 =>
      noLocalTag tag?
      return .map (← entries.mapM fun (key, entry) => do
        let key ← value anchors depth key
        return (key, ← value anchors depth entry))
    | _, _ => failure

end Build

namespace Document

/-- How many aliases may be followed in a document. -/
def aliasLimit (d : Document) : Nat := aliasesPerEvent * (d.root?.map Node.size).getD 1

def build {α : Type} (d : Document) (b : Build α) : Option α :=
  (b.run d.aliasLimit).map Prod.fst

/-- The value of a whole document; there must be one. -/
def value? (d : Document) : Option Tree := do
  let root ← d.root?
  d.build (Build.value d.anchors maxDepth root)

def parse (text : String) : Except Fault Document := ofTokens (Tokens.scan text)

end Document
end Yaml
end Dataflow
