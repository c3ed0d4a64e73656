/-
The command line.

There are two commands: one runs a job for each of some numbers and prints the
results, the other one prints what is known of a pipeline before it runs.  What a
command prints and how it exits is a report; reading files is left to a reader in
any monad, and the identifiers of the jobs are given.
-/
import Dataflow.Config.SettingsFile
import Dataflow.Data.Tagged
import Dataflow.Job.Cluster

namespace Dataflow
namespace CommandLine

/-- What a command prints and how it exits. -/
structure Report where
  exitCode : Nat := 0
  stdout : List String := []
  stderr : List String := []

/-- Why a command failed, with what is behind it. -/
structure Failure where
  message : String
  causes : List String := []

namespace Failure

/-- A failure about a file has what is wrong with the file as its cause. -/
def ofConfig (e : ConfigError) : Failure :=
  { message := e.message
    causes := match e with
      | .read _ cause => [cause.message]
      | .yaml _ fault => [fault]
      | .toml _ fault => [fault]
      | .invalid _ => [] }

/-- A text with an indentation in front of every line. -/
def indented (text : String) : String :=
  "    " ++ ("\n    ".intercalate (text.splitOn "\n"))

def lines (f : Failure) : List String :=
  ("Error: " ++ f.message) ::
    (if f.causes.isEmpty then [] else "" :: "Caused by:" :: f.causes.map indented)

def report (f : Failure) (stdout : List String := []) : Report :=
  { exitCode := 1, stdout, stderr := f.lines }

end Failure

/-- A command fails or prints something. -/
def reportOf : Except Failure Report → Report
  | .ok report => report
  | .error failure => failure.report

def usage (program : String) : List String :=
  ["Usage: " ++ program ++ " <runtime.yaml> <value> [value ...]",
    "       " ++ program ++ " --inspect <pipeline.yaml>",
    "Example: " ++ program ++ " configs/runtime.yaml 7 1.5",
    "Example: " ++ program ++ " --inspect configs/pipelines/scale-and-probe.yaml"]

/-! ## Inspecting a pipeline -/

def inspectConfigs (path : String) (configs : List NodeConfig) : Except Failure Report :=
  match Pipeline.new .builtin configs with
  | .ok pipeline => .ok { stdout := [pipeline.inspect.toJson.pretty] }
  | .error e => .error
    { message := "pipeline " ++ path ++ " failed its construction checks", causes := [e.message] }

/-! ## Running jobs -/

def parseValue (raw : String) : Except Failure Float :=
  match Decimal.parse? raw with
  | some value => .ok value
  | none => .error
    { message := "'" ++ raw ++ "' is not a number"
      causes := [if raw.isEmpty then "cannot parse float from empty string"
        else "invalid float literal"] }

/-- Queues a job for each of some numbers, the first of which has the given place. -/
def enqueueAll (spec : PipelineSpec) (ids : Nat → JobId) (place : Nat) :
    List Float → Cluster → Except Failure (List (Float × Ticket) × Cluster)
  | [], c => .ok ([], c)
  | value :: rest, c => do
    let data ← (TypedData.new (.float value)).mapError fun e => { message := e.message }
    let job : Job := { id := ids place, pipeline := spec, payload := { data } }
    let (ticket, c) ← (c.enqueue 0 job true).mapError fun e => { message := e.message }
    let (tickets, c) ← enqueueAll spec ids (place + 1) rest c
    return ((value, ticket) :: tickets, c)

/-- The result of one job as it is printed, and whether there was one. -/
def resultLines (settings : Settings) (c : Cluster) (value : Float) (ticket : Ticket) :
    List String × Bool :=
  let future := (c.future? 0 ticket).getD .new
  match future.waited settings.resultTimeout with
  | .ok result =>
    (["✅ " ++ Decimal.plain value ++ " -> " ++ result.data.toTagged.compact,
      "   context: " ++ (Json.ofKeyMap result.context).compact], true)
  | .error e =>
    (["❌ " ++ Decimal.plain value ++ " (job " ++ ticket.id.text ++ "): " ++ e.message], false)

def header (path : String) (settings : Settings) : List String :=
  ["🚀 The Conduit",
    "═══════════════════════════════════",
    "Runtime: " ++ path,
    "Workers: " ++ Decimal.natText settings.worker.count ++ " (" ++ settings.executor.title ++
      " executor)",
    ""]

/-- Runs one job per number on a cluster of its own. -/
def runJobs (path : String) (settings : Settings) (spec : PipelineSpec) (load : PipelineLoader)
    (ids : Nat → JobId) (values : List Float) : Except Failure Report := do
  let bench : Workbench := { registry := .builtin, load }
  -- A pipeline that cannot be built would let every job run into its timeout.
  let _ ← (Pipeline.ofSpec bench.registry load spec).mapError fun e =>
    { message := "pipeline failed its construction checks", causes := [e.message] : Failure }
  let orchestrator : Orchestrator := { settings := settings.orchestrator }
  let (tickets, c) ← enqueueAll spec ids 0 values { orchestrators := [orchestrator] }
  let c := c.startWorkers bench settings.executor settings.worker.count
  let c := c.startOrchestrator bench 0
  let results := tickets.map fun (value, ticket) => resultLines settings c value ticket
  let stdout := header path settings ++ results.flatMap Prod.fst
  let failed := (results.filter fun r => !r.2).length
  if failed = 0 then return { stdout }
  else
    let failure : Failure :=
      { message := Decimal.natText failed ++ " of " ++ Decimal.natText values.length ++
          " jobs did not complete" }
    return failure.report stdout

variable {m : Type → Type} [Monad m]

/-- The loader for the one pipeline of a command.  Its file is read once; a relative path is taken
from the directory of the settings. -/
def loaderFor (read : FileReader m) (path : String) : PipelineSpec → m PipelineLoader
  | .nodes configs => pure fun _ => .ok configs
  | .path reference => do
    let loaded ← Loader.load read (some (Path.parent path)) reference
    return fun _ => loaded

def runCommand (read : FileReader m) (ids : Nat → JobId) (path : String) (raw : List String) :
    m Report := do
  match raw.mapM parseValue with
  | .error failure => return failure.report
  | .ok values =>
    match ← Settings.load read path with
    | .error e => return (Failure.ofConfig e).report
    | .ok settings =>
      match settings.pipeline? with
      | none => return { message := path ++ " does not name a pipeline" : Failure }.report
      | some spec =>
        let load ← loaderFor read path spec
        return reportOf (runJobs path settings spec load ids values)

def inspectCommand (read : FileReader m) (path : String) : m Report := do
  match ← Loader.load read none path with
  | .error e => return (Failure.ofConfig e).report
  | .ok configs => return reportOf (inspectConfigs path configs)

/-- Runs the command that the arguments behind the program's name stand for. -/
def run (read : FileReader m) (ids : Nat → JobId) (program : String) (args : List String) :
    m Report :=
  match args with
  | ["--inspect", path] => inspectCommand read path
  | path :: value :: values =>
    if "--".isPrefixOf path then return { exitCode := 1, stderr := usage program }
    else runCommand read ids path (value :: values)
  | _ => return { exitCode := 1, stderr := usage program }

end CommandLine
end Dataflow
