/-
Jobs, and how they travel.

A job is published as a message on a channel of its own: the payload is that of
the job, and the metadata say which job it is and which pipeline to run.  Its
result comes back on a second channel.  `Job.metadata` writes the metadata and
`JobDescriptor.ofMetadata` reads them.
-/
import Dataflow.Channel.Message
import Dataflow.Config.Node
import Dataflow.Job.Error
import Dataflow.Job.Id

namespace Dataflow

/-- A unit of work. -/
structure Job where
  id : JobId
  pipeline : PipelineSpec
  payload : Payload

namespace Job

/-! ## Names -/

/-- The metadata key of the identifier; the context of a result has it under the same key. -/
def idKey : String := "job_id"

def pipelineKey : String := "pipeline"

/-- The channel that a job is published on. -/
def channel (id : String) : String := "jobs." ++ id ++ ".cfg"

/-- The channel that the result of a job is published on. -/
def statusChannel (id : String) : String := "jobs." ++ id ++ ".status"

/-- Selects the channels of all jobs. -/
def pattern : String := "jobs.*.cfg"

/-- Selects the channels of all results. -/
def statusPattern : String := "jobs.*.status"

/-! ## Messages -/

def metadata (job : Job) : Metadata :=
  ((KeyMap.empty : Metadata).insert idKey (.str job.id.text)).insert pipelineKey job.pipeline.toJson

/-- The message that asks for a job to be done. -/
def message (job : Job) : Message :=
  { channel := channel job.id.text, payload := job.payload, metadata := job.metadata }

/-- The message that carries the result of a job.  Whatever the result had under the key of the
identifier is replaced. -/
def status (id : String) (result : Payload) : Message :=
  { channel := statusChannel id
    payload := { result with context := result.context.insert idKey (.str id) }
    metadata := (KeyMap.empty : Metadata).insert idKey (.str id) }

end Job

/-- What a worker gets to know about a job. -/
structure JobDescriptor where
  id : String
  pipeline : PipelineSpec
  deriving Inhabited

namespace JobDescriptor

def idOfMetadata (metadata : Metadata) : Except JobError String :=
  match metadata.get? Job.idKey with
  | some (.str id) =>
    if id.isEmpty then refused (.str id) else .ok id
  | some other => refused other
  | none => .error (.invalidDescriptor ("missing '" ++ Job.idKey ++ "'"))
where
  refused (value : Json) : Except JobError String :=
    .error (.invalidDescriptor
      ("'" ++ Job.idKey ++ "' must be a non-empty string, got " ++ value.compact))

def pipelineOfMetadata (metadata : Metadata) : Except JobError PipelineSpec :=
  match metadata.get? Job.pipelineKey with
  | some value => (PipelineSpec.ofJson value).mapError fun e => .invalidDescriptor e.message
  | none => .error (.invalidDescriptor ("missing '" ++ Job.pipelineKey ++ "'"))

def ofMetadata (metadata : Metadata) : Except JobError JobDescriptor := do
  let id ← idOfMetadata metadata
  let pipeline ← pipelineOfMetadata metadata
  return { id, pipeline }

end JobDescriptor
end Dataflow
