/-
Loading settings from a file.

The extension of its name tells the format of the file.
-/
import Dataflow.Config.Loader
import Dataflow.Toml.Settings
import Dataflow.Yaml.Settings

namespace Dataflow
namespace Settings

/-- Reads settings in the format that the path stands for: TOML for `.toml`, and else YAML. -/
def parse (path content : String) : Except ConfigError Settings :=
  if Path.extension? path = some "toml" then
    match Toml.settings? content with
    | some settings => .ok settings
    | none => .error (.toml path "the document does not form settings")
  else (Yaml.settings content).mapError fun fault => .yaml path fault.text

def load {m : Type → Type} [Monad m] (read : FileReader m) (path : String) :
    m (Except ConfigError Settings) :=
  Loader.withFile read path (parse path)

end Settings
end Dataflow
