/-
The configuration of pipeline nodes, and how a job names its pipeline.

A node configuration is an object with the fields `processor`, `parameters` and
`context_keyword`, of which only the first must be there, or an array of the
three in this order.  A pipeline specification is a list of node configurations
or the path of a pipeline file.  `PipelineSpec.toJson` writes the form that
travels in job metadata, and `PipelineSpec.ofJson` reads it back; the metadata
form has no nodes in array form, `PipelineSpec.ofUntagged?` admits them.  The form
that a serializer makes of a specification is `PipelineSpec.serialized`.
-/
import Dataflow.Config.Error
import Dataflow.Json.Serializer
import Dataflow.Json.Writer
import Dataflow.Text.Quoted

namespace Dataflow

structure NodeConfig where
  /-- A registered name or a context shorthand. -/
  processor : String
  /-- Explicit arguments; they win over context keys. -/
  parameters : KeyMap Json := .empty
  /-- The context key that a probe writes its value to. -/
  contextKeyword? : Option String := none
  deriving Inhabited

namespace NodeConfig

/-- The object form; absent parts are left out. -/
def toJson (config : NodeConfig) : Json :=
  .obj <|
    (config.contextKeyword?.toList.map fun keyword => ("context_keyword", .str keyword)) ++
    (if config.parameters.isEmpty then []
      else [("parameters", .ofKeyMap config.parameters)]) ++
    [("processor", .str config.processor)]

/-- What a serializer makes of the configuration; empty parameters and an absent keyword are
skipped. -/
def serialized (config : NodeConfig) : Json :=
  .ofRecord
    [("processor", some (.str config.processor)),
      ("parameters",
        if config.parameters.isEmpty then none
        else some (Json.ofKeyMap config.parameters).serialized),
      ("context_keyword", config.contextKeyword?.map .str)]

/-- A value as messages about its type name it. -/
def describe : Json → String
  | .null => "null"
  | .bool b => "boolean `" ++ (Json.bool b).compact ++ "`"
  | .int n => "integer `" ++ (Json.int n).compact ++ "`"
  | .float x => "floating point `" ++ (Json.float x).compact ++ "`"
  | .str s => "string " ++ Text.quoted s
  | .arr _ => "sequence"
  | .obj _ => "map"

def invalidType {α : Type} (value : Json) (expected : String) : Except String α :=
  .error ("invalid type: " ++ describe value ++ ", expected " ++ expected)

def readText : Json → Except String String
  | .str s => .ok s
  | value => invalidType value "a string"

def readParameters : Json → Except String (KeyMap Json)
  | .obj fields => .ok (.ofList fields)
  | value => invalidType value "a map"

def readKeyword : Json → Except String (Option String)
  | .null => .ok none
  | value => (readText value).map some

/-- What the fields read so far have given. -/
structure Found where
  processor? : Option String := none
  parameters : KeyMap Json := .empty
  contextKeyword? : Option String := none

/-- Reads one field of the object form. -/
def readField (found : Found) (name : String) (value : Json) : Except String Found :=
  match name with
  | "processor" => do return { found with processor? := some (← readText value) }
  | "parameters" => do return { found with parameters := ← readParameters value }
  | "context_keyword" => do return { found with contextKeyword? := ← readKeyword value }
  | _ => .error ("unknown field `" ++ name ++
      "`, expected one of `processor`, `parameters`, `context_keyword`")

/-- Reads the object form.  The first bad field in order is reported, and a missing processor only
when all fields are good. -/
def ofFields (fields : List (String × Json)) : Except String NodeConfig := do
  let found ← fields.foldlM (fun found (name, value) => readField found name value) {}
  match found.processor? with
  | some processor =>
    return { processor, parameters := found.parameters, contextKeyword? := found.contextKeyword? }
  | none => .error "missing field `processor`"

/-- Reads the array form. -/
def ofItems (items : List Json) : Except String NodeConfig := do
  let processor ← match items with
    | [] => .error "invalid length 0, expected struct NodeConfig with 3 elements"
    | value :: _ => readText value
  let parameters ← match items[1]? with
    | some value => readParameters value
    | none => .ok .empty
  let contextKeyword? ← match items[2]? with
    | some value => readKeyword value
    | none => .ok none
  if 3 < items.length then
    .error ("invalid length " ++ Decimal.natText items.length ++
      ", expected fewer elements in array")
  else return { processor, parameters, contextKeyword? }

/-- Reads either form. -/
def ofJson : Json → Except String NodeConfig
  | .obj fields => ofFields fields
  | .arr items => ofItems items
  | value => invalidType value "struct NodeConfig"

end NodeConfig

/-- How a job names its pipeline. -/
inductive PipelineSpec where
  | nodes (configs : List NodeConfig)
  | path (path : String)
  deriving Inhabited

namespace PipelineSpec

/-- The form that travels in job metadata. -/
def toJson : PipelineSpec → Json
  | nodes configs => .arr (configs.map NodeConfig.toJson)
  | path p => .str p

/-- What a serializer makes of the specification: nothing but its content tells the two apart. -/
def serialized : PipelineSpec → Json
  | nodes configs => .arr (configs.map NodeConfig.serialized)
  | path p => .str p

/-- Reads the entries of a node list, the first of which has the given index. -/
def readEntries (index : Nat) : List Json → Except ConfigError (List NodeConfig)
  | [] => .ok []
  | .obj fields :: rest =>
    match NodeConfig.ofFields fields with
    | .ok config => do
      let configs ← readEntries (index + 1) rest
      return config :: configs
    | .error text =>
      .error (.invalid ("pipeline entry " ++ Decimal.natText index ++ ": " ++ text))
  | _ :: _ =>
    .error (.invalid ("pipeline entry " ++ Decimal.natText index ++
      " is not a node configuration map"))

/-- Reads the metadata form. -/
def ofJson : Json → Except ConfigError PipelineSpec
  | .str p => .ok (.path p)
  | .arr entries => (readEntries 0 entries).map .nodes
  | value => .error (.invalid
      ("pipeline must be a list of node configurations or a path, got " ++ value.compact))

/-- Reads a list whose nodes may be in array form, or a path. -/
def ofUntagged? : Json → Option PipelineSpec
  | .arr entries => (entries.mapM (fun entry => (NodeConfig.ofJson entry).toOption)).map .nodes
  | .str p => some (.path p)
  | _ => none

end PipelineSpec
end Dataflow
