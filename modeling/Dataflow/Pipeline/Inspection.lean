/-
What can be said about a pipeline before it runs.

For every parameter the inspection tells where its argument will come from: the
configuration, a key that an earlier node is declared to create, or the default.
Anything else must be in the initial context, and is listed as required there.
-/
import Dataflow.Pipeline.Node

namespace Dataflow

/-- The static description of one node. -/
structure NodeInspection where
  node : Node
  parameters : KeyMap ParameterSource

structure Inspection where
  nodes : List NodeInspection
  /-- The keys that the initial context must hold. -/
  requiredInitialKeys : KeyMap Unit

namespace Inspection

/-- For every key, the last node so far that is declared to create it and did not lose it to a
deletion since. -/
abbrev Producers := KeyMap Nat

/-- The keys available behind a node: what it deletes is taken away, what it creates is added. -/
def updateProducers (producers : Producers) (node : Node) : Producers :=
  let kept := node.suppressedKeys.foldl (fun m key => m.erase key) producers
  node.createdKeys.foldl (fun m key => m.insert key node.index) kept

/-- Where an argument will come from, as far as that is known. -/
def sourceOf (producers : Producers) (node : Node) (spec : ParameterSpec) : ParameterSource :=
  if node.isConfigured spec.name then .config
  else match producers.get? spec.name with
    | some origin => .context (some origin)
    | none => if spec.default?.isSome then .default else .context none

def ofNode (producers : Producers) (node : Node) : NodeInspection :=
  { node
    parameters := node.processor.parameters.foldl
      (fun m spec => m.insert spec.name (sourceOf producers node spec)) .empty }

/-- The required keys of a node that no earlier node provides. -/
def addRequired (producers : Producers) (node : Node) (required : KeyMap Unit) : KeyMap Unit :=
  node.requiredContextKeys.foldl
    (fun m key => if producers.contains key then m else m.insert key ()) required

/-- Inspects the nodes behind those that made `producers` available. -/
def inspectFrom (producers : Producers) (required : KeyMap Unit) : List Node → Inspection
  | [] => { nodes := [], requiredInitialKeys := required }
  | node :: rest =>
    let later := inspectFrom (updateProducers producers node)
      (addRequired producers node required) rest
    { later with nodes := ofNode producers node :: later.nodes }

def ofNodes (nodes : List Node) : Inspection := inspectFrom .empty .empty nodes

end Inspection

def NodeInspection.toJson (i : NodeInspection) : Json :=
  let node := i.node
  .obj <|
    [("index", .ofNat node.index), ("label", .str node.label), ("processor", .str node.name),
      ("kind", .str node.processor.kind.tag), ("role", .str node.role.tag),
      ("input_type", .str node.inputType.tag), ("output_type", .str node.outputType.tag)] ++
    (node.config.contextKeyword?.toList.map fun keyword => ("context_keyword", .str keyword)) ++
    [("required_keys", .ofStrings node.requiredContextKeys),
      ("created_keys", .ofStrings node.createdKeys),
      ("suppressed_keys", .ofStrings node.suppressedKeys),
      ("parameters", .ofKeyMap (i.parameters.map ParameterSource.toJson))]

/-- The inspection as JSON, with the fields in the order of the description. -/
def Inspection.toJson (i : Inspection) : Json :=
  .obj [("nodes", .arr (i.nodes.map NodeInspection.toJson)),
    ("required_initial_keys", .ofStrings i.requiredInitialKeys.keys)]

end Dataflow
