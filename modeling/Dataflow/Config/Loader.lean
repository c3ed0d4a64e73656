/-
Loading pipeline files.

A reader answers the text of a file or why there is none.  It may be a snapshot
or the file system itself, so what is built on it works in any monad.
-/
import Dataflow.Config.FileTree
import Dataflow.Yaml.Value

namespace Dataflow

/-- The node list of a pipeline file; `origin` names the file in an error. -/
def NodeConfig.parseYaml (content origin : String) : Except ConfigError (List NodeConfig) :=
  match Yaml.Document.parse content with
  | .error fault => .error (.yaml origin fault.text)
  | .ok document =>
    match document.value?.bind NodeConfig.documentOfTree? with
    | some configs => .ok configs
    | none => .error (.yaml origin
      "data did not match any variant of untagged enum PipelineDocument")

abbrev FileReader (m : Type → Type) := String → m (Except ReadFailure String)

namespace Loader

variable {m : Type → Type} [Monad m]

/-- Reads a file and makes something of its text. -/
def withFile {α : Type} (read : FileReader m) (path : String)
    (make : String → Except ConfigError α) : m (Except ConfigError α) := do
  match ← read path with
  | .ok content => return make content
  | .error cause => return .error (.read path cause)

/-- Loads a pipeline file.  A relative reference is taken from the base directory, if there is
one. -/
def load (read : FileReader m) (base? : Option String) (reference : String) :
    m (Except ConfigError (List NodeConfig)) :=
  let path := match base? with
    | some base => Path.join base reference
    | none => reference
  withFile read path (fun content => NodeConfig.parseYaml content path)

end Loader

def FileTree.reader (tree : FileTree) : FileReader Id := tree.read

end Dataflow
