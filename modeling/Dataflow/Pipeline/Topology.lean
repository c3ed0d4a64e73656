/-
The checks that a list of nodes must pass before anything runs.

References are resolved and nodes bound in order.  Then every node that reads
data must accept what the most recent data-producing node emits, and no node may
require a context key that an earlier one deletes and none in between creates
again.
-/
import Dataflow.Pipeline.Node
import Dataflow.Registry

namespace Dataflow
namespace Topology

/-- A failed look-up as a failure of the node at `index`. -/
def ofReferenceError (index : Nat) : ReferenceError → TopologyError
  | .unknown reference => .unknownProcessor index reference
  | .malformed reference reason => .malformedReference index reference reason

def bindNode (registry : Registry) (index : Nat) (config : NodeConfig) :
    Except TopologyError Node := do
  let processor ← (registry.resolve config.processor).mapError (ofReferenceError index)
  Node.bind index config processor

/-- Resolves and binds nodes, the first of which has the given index. -/
def bindFrom (registry : Registry) (index : Nat) :
    List NodeConfig → Except TopologyError (List Node)
  | [] => .ok []
  | config :: rest => do
    let node ← bindNode registry index config
    let nodes ← bindFrom registry (index + 1) rest
    return node :: nodes

/-- Whether the output of `producer` may be fed into `node`. -/
def checkPair (producer node : Node) : Except TopologyError Unit :=
  if producer.outputType.compatibleWith node.inputType then .ok ()
  else .error (.typeMismatch producer.index producer.name node.index node.name node.inputType
    producer.outputType)

/-- Checks the data types along the list behind the most recent producer. -/
def checkAdjacency (producer? : Option Node) : List Node → Except TopologyError Unit
  | [] => .ok ()
  | node :: rest => do
    if node.readsData then
      match producer? with
      | some producer => checkPair producer node
      | none => .ok ()
    checkAdjacency (if node.producesData then some node else producer?) rest

/-- The first required key that is deleted, with the node that deletes it. -/
def deletedKey? (deleters : KeyMap Node) : List String → Option (String × Node)
  | [] => none
  | key :: rest =>
    match deleters.get? key with
    | some deleter => some (key, deleter)
    | none => deletedKey? deleters rest

/-- The deleted keys behind a node: what it deletes is added, what it creates is taken away. -/
def updateDeleters (deleters : KeyMap Node) (node : Node) : KeyMap Node :=
  let added := node.suppressedKeys.foldl (fun m key => m.insert key node) deleters
  node.createdKeys.foldl (fun m key => m.erase key) added

/-- Checks the required keys along the list; `deleters` holds the keys deleted so far. -/
def checkDeletedFrom (deleters : KeyMap Node) : List Node → Except TopologyError Unit
  | [] => .ok ()
  | node :: rest =>
    match deletedKey? deleters node.requiredContextKeys with
    | some (key, deleter) =>
      .error (.deletedKeyRequired node.index node.name key deleter.index deleter.name)
    | none => checkDeletedFrom (updateDeleters deleters node) rest

def checkDeletedKeys (nodes : List Node) : Except TopologyError Unit :=
  checkDeletedFrom .empty nodes

/-- Binds and checks a list of nodes. -/
def build (registry : Registry) (configs : List NodeConfig) : Except TopologyError (List Node) := do
  let nodes ← bindFrom registry 0 configs
  checkAdjacency none nodes
  checkDeletedKeys nodes
  return nodes

end Topology
end Dataflow
