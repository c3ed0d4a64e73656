/-
Settings in YAML.

The nodes of the document are read directly, because what is expected of a part
decides what its scalar means.  A record is a mapping, or nothing at all; parts
that are not known are skipped unread.
-/
import Dataflow.Config.Settings
import Dataflow.Yaml.Value

namespace Dataflow
namespace Yaml

namespace Build

/-- A scalar without a tag of its own that stands for nothing. -/
def isNothing (text : String) : Bool := text.isEmpty || isNull text

def key (anchors : Anchors) (node : Node) : Build String := do
  match ← resolve anchors node with
  | .scalar text _ _ => return text
  | _ => failure

/-- The entries of a mapping whose keys are known, each at most once. -/
def knownEntries (anchors : Anchors) (names : List String) :
    List (Node × Node) → Build (List (String × Node))
  | [] => return []
  | (name, entry) :: rest => do
    let name ← key anchors name
    let others ← knownEntries anchors names rest
    if name ∉ names then return others
    else if (others.lookup name).isSome then failure
    else return (name, entry) :: others

/-- The parts of a record.  A place that was left empty is a record without parts. -/
def record (anchors : Anchors) (names : List String) (node : Node) :
    Build (List (String × Node)) := do
  match ← resolve anchors node with
  | .mapping _ entries => knownEntries anchors names entries
  | .scalar "" .plain _ => return []
  | _ => failure

/-- Reads something that may be nothing.  Only a plain scalar can say so, and a tag other than that
of nothing says that there is something. -/
def optional {α : Type} (anchors : Anchors) (read : Node → Build α) (node : Node) :
    Build (Option α) := do
  let node ← resolve anchors node
  match node with
  | .scalar text .plain none =>
    if isNothing text then return none else return some (← read node)
  | .scalar text .plain (some tag) =>
    if tag ≠ standardTag "null" then return some (← read node)
    else if isNull text then return none
    else failure
  | _ => return some (← read node)

/-- Whether a scalar may spell a number: a plain one, or a literal block under the tag of integers. -/
def spellsNumber (style : ScalarStyle) (tag? : Option String) : Bool :=
  style = .plain || style = .literal && tag? = some (standardTag "int")

/-- The number that a scalar spells; it must fit a 64-bit word.  A minus sign is refused even in
front of zero. -/
def number : Node → Build Nat
  | .scalar text style tag? => do
    guard (spellsNumber style tag?)
    match integer? text with
    | some (.ofNat n) =>
      if text.toList.head? = some '-' ∨ Json.maxUInt64 < n then failure else return n
    | _ => failure
  | _ => failure

/-- An executor is named by a scalar, or by a tag of the document's own in front of nothing. -/
def executor (anchors : Anchors) (node : Node) : Build ExecutorKind := do
  let name ← match ← resolve anchors node with
    | .scalar text style (some tag) =>
      if !isLocalTag tag then pure text
      else if style = .plain && isNothing text then pure (String.ofList (tag.toList.drop 1))
      else failure
    | .scalar text _ none => pure text
    | _ => failure
  match ExecutorKind.ofName? name with
  | some kind => return kind
  | none => failure

/-- A pipeline one level below the root. -/
def pipeline (anchors : Anchors) (node : Node) : Build PipelineSpec := do
  match PipelineSpec.ofTree? (← value anchors (maxDepth - 1) node) with
  | some spec => return spec
  | none => failure

def settingsSpelling (anchors : Anchors) : Settings.Spelling Build Node where
  record := record anchors
  number := optional anchors number
  executor := executor anchors
  pipeline := optional anchors (pipeline anchors)

end Build

/-- The settings of a document; an empty document has none. -/
def settings (text : String) : Except Fault Settings := do
  let document ← Document.parse text
  match document.root? with
  | none => return {}
  | some root =>
    match document.build (Settings.read (Build.settingsSpelling document.anchors) root) with
    | some settings => return settings
    | none => throw { problem := "the values do not form settings" }

end Yaml
end Dataflow
