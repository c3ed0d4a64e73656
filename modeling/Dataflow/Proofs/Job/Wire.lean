/-
A pipeline specification survives its way through job metadata.

What is written of a specification is read back (`PipelineSpec.ofJson_toJson`), and
`JobDescriptor.ofMetadata_metadata` is what a worker relies on: it reads the identifier
and the specification of the very job that was published.  The form that travels is
written by hand, with its fields sorted already; a serializer that is given the fields as
they are declared makes the same of a specification.
-/
import Dataflow.Job.Worker
import Dataflow.Proofs.Config.Specification
import Dataflow.Proofs.Job.Name

namespace Dataflow

namespace JobDescriptor

/-- What is read from the metadata of a job is its identifier and its specification. -/
theorem ofMetadata_metadata (job : Job) :
    ofMetadata job.metadata = .ok { id := job.id.text, pipeline := job.pipeline } := by
  have hkey : Job.pipelineKey ≠ Job.idKey := by decide
  have hid : idOfMetadata job.metadata = .ok job.id.text := by
    unfold idOfMetadata Job.metadata
    rw [KeyMap.get?_insert_ne _ hkey, KeyMap.get?_insert_self]
    simp only [job.id.text_ne_empty]
    rfl
  have hpipeline : pipelineOfMetadata job.metadata = .ok job.pipeline := by
    unfold pipelineOfMetadata Job.metadata
    rw [KeyMap.get?_insert_self]
    simp only [PipelineSpec.ofJson_toJson]
    rfl
  rw [ofMetadata, hid, hpipeline]
  rfl

end JobDescriptor

/-! ## Serializers -/

/-- All arguments are canonical. -/
def NodeConfig.Canonical (config : NodeConfig) : Prop := (Json.ofKeyMap config.parameters).Canonical

def PipelineSpec.Canonical : PipelineSpec → Prop
  | .nodes configs => ∀ config ∈ configs, config.Canonical
  | .path _ => True

/-- Whichever fields there are, inserting them in order gives the sorted list that is written by
hand. -/
theorem NodeConfig.serialized_eq_toJson {config : NodeConfig} (h : config.Canonical) :
    config.serialized = config.toJson := by
  have hparameters : "parameters" < "processor" := by decide
  have hkeyword : "context_keyword" < "parameters" := by decide
  have hkeyword' : "context_keyword" < "processor" := by decide
  unfold serialized toJson
  rw [Json.serialized_of_canonical h]
  cases config.parameters.isEmpty with
  | true =>
    cases config.contextKeyword? with
    | none => rfl
    | some keyword => simp [Json.ofRecord, Entries.ofList, Entries.insert, hkeyword']
  | false =>
    cases config.contextKeyword? with
    | none => simp [Json.ofRecord, Entries.ofList, Entries.insert, hparameters]
    | some keyword => simp [Json.ofRecord, Entries.ofList, Entries.insert, hparameters, hkeyword]

theorem PipelineSpec.serialized_eq_toJson {spec : PipelineSpec} (h : spec.Canonical) :
    spec.serialized = spec.toJson := by
  cases spec with
  | path path => rfl
  | nodes configs =>
    exact congrArg Json.arr (List.map_congr_left fun config hconfig =>
      NodeConfig.serialized_eq_toJson (h config hconfig))

/-! ## Workers -/

namespace Workbench

variable (bench : Workbench) (executor : ExecutorKind) (job : Job)

/-- The worker executes the specification of the job that was published. -/
theorem status_of_metadata {request : Message} (h : request.metadata = job.metadata) :
    bench.status executor request =
      ((bench.execute executor job.pipeline request.payload).1.map (Job.status job.id.text),
        (bench.execute executor job.pipeline request.payload).2) := by
  unfold status
  rw [h, JobDescriptor.ofMetadata_metadata]

theorem execute_of_error {spec : PipelineSpec} {e : PipelineError}
    (h : Pipeline.ofSpec bench.registry bench.load spec = .error e) (payload : Payload) :
    bench.execute executor spec payload = (.error (.pipeline e), []) := by
  unfold execute
  rw [h]

theorem execute_of_ok {spec : PipelineSpec} {p : Pipeline}
    (h : Pipeline.ofSpec bench.registry bench.load spec = .ok p) (payload : Payload) :
    bench.execute executor spec payload =
      ((p.process bench.filter bench.watch payload).1.result.contain.mapError .pipeline,
        (p.process bench.filter bench.watch payload).1.events) := by
  unfold execute
  simp only [h, ExecutorKind.settle_eq]
  rfl

variable {bench executor}

theorem execute_eq_ok_iff {spec : PipelineSpec} {payload result : Payload} :
    (bench.execute executor spec payload).1 = .ok result ↔
      ∃ p, Pipeline.ofSpec bench.registry bench.load spec = .ok p ∧
        (p.process bench.filter bench.watch payload).1.result = .ok result := by
  cases hspec : Pipeline.ofSpec bench.registry bench.load spec with
  | error e => simp [bench.execute_of_error executor hspec]
  | ok p =>
    rw [bench.execute_of_ok executor hspec]
    cases hresult : (p.process bench.filter bench.watch payload).1.result with
    | ok value => simp [Outcome.contain, Except.mapError, hresult]
    | error e => simp [Outcome.contain, Except.mapError, hresult]
    | crash text => simp [Outcome.contain, Except.mapError, hresult]

end Workbench

/-- The pipeline of a job survives the wire: every specification is read back from the form in
which it travels, which is also what a serializer makes of it, and a worker reads the job that was
published.  So the worker refuses its pipeline for the very reason for which it is refused where
the job comes from, or else runs the very pipeline that is built there. -/
theorem Job.pipeline_survives_the_wire :
    (∀ spec : PipelineSpec, PipelineSpec.ofJson spec.toJson = .ok spec ∧
      (spec.Canonical → spec.serialized = spec.toJson)) ∧
    ∀ job : Job,
      JobDescriptor.ofMetadata job.metadata = .ok { id := job.id.text, pipeline := job.pipeline } ∧
      ∀ (bench : Workbench) (executor : ExecutorKind) (awaitsAck : Bool),
        let request : Message := { job.message with awaitsAck }
        (∀ e, Pipeline.ofSpec bench.registry bench.load job.pipeline = .error e →
          bench.status executor request = (.error (.pipeline e), [])) ∧
        (∀ p, Pipeline.ofSpec bench.registry bench.load job.pipeline = .ok p →
          let run := (p.process bench.filter bench.watch job.payload).1
          bench.status executor request =
            ((run.result.contain.mapError .pipeline).map (Job.status job.id.text),
              run.events)) := by
  refine ⟨fun spec => ⟨spec.ofJson_toJson, spec.serialized_eq_toJson⟩, fun job =>
    ⟨JobDescriptor.ofMetadata_metadata job, fun bench executor awaitsAck => ?_⟩⟩
  intro request
  have hstatus := bench.status_of_metadata executor job
    (show request.metadata = job.metadata from rfl)
  refine ⟨fun e he => ?_, fun p hp => ?_⟩
  · rw [hstatus, bench.execute_of_error executor he]
    rfl
  · intro run
    rw [hstatus, bench.execute_of_ok executor hp]
    rfl

/-- A node whose argument is nested and whose keyword is empty is refused on both sides if nothing
has its name, and one that is accepted runs. -/
theorem Job.pipeline_survives_the_wire_of_nested :
    let nested : Json := .arr [.null, .obj [("a", .int 1), ("b", .arr [])]]
    let config : NodeConfig :=
      { processor := "p", parameters := KeyMap.empty.insert "x" nested, contextKeyword? := some "" }
    let bench : Workbench := { registry := .builtin, load := fun path => .error (.invalid path) }
    let refused : Job := { id := default, pipeline := .nodes [config], payload := {} }
    let accepted : Job := { refused with pipeline := .nodes [{ processor := "delete:k" }] }
    PipelineSpec.ofJson refused.pipeline.toJson = .ok refused.pipeline ∧
      refused.pipeline.serialized = refused.pipeline.toJson ∧
      bench.status .sequential refused.message =
        (.error (.pipeline (.topology (.unknownProcessor 0 "p"))), []) ∧
      ∃ p, Pipeline.ofSpec bench.registry bench.load accepted.pipeline = .ok p ∧
        (bench.status .sequential accepted.message).1 = .ok (Job.status accepted.id.text {}) := by
  have hresolve : Registry.builtin.resolve "p" = .error (.unknown "p") := rfl
  obtain ⟨p, hp, hresult⟩ : ∃ p, Pipeline.new .builtin [{ processor := "delete:k" }] = .ok p ∧
      (p.process .off .stopped {}).1.result = .ok {} := ⟨_, rfl, rfl⟩
  intro nested config bench refused accepted
  obtain ⟨hspec, hjob⟩ := Job.pipeline_survives_the_wire
  have hsorted : Entries.Sorted [("a", Json.int 1), ("b", .arr [])] :=
    List.pairwise_pair.mpr (by decide)
  have hnested : nested.Canonical := ⟨trivial, ⟨hsorted, trivial, trivial, trivial⟩, trivial⟩
  have hcanonical : refused.pipeline.Canonical := by
    intro node hnode
    rw [List.mem_singleton.mp hnode]
    exact ⟨List.pairwise_singleton _ _, hnested, trivial⟩
  refine ⟨(hspec _).1, (hspec _).2 hcanonical, ?_, p, ?_, ?_⟩
  · refine ((hjob refused).2 bench .sequential false).1 _ ?_
    show (Pipeline.new .builtin [config]).mapError PipelineError.topology = _
    rw [Pipeline.new, Topology.build, Topology.bindFrom, Topology.bindNode, hresolve]
    rfl
  · exact congrArg (Except.mapError PipelineError.topology) hp
  · have hstatus := ((hjob accepted).2 bench .sequential false).2 p
      (congrArg (Except.mapError PipelineError.topology) hp)
    rw [show accepted.message = { accepted.message with awaitsAck := false } from rfl, hstatus]
    show (Except.mapError JobError.pipeline
      (p.process .off .stopped {}).1.result.contain).map _ = _
    rw [hresult]
    rfl

end Dataflow
