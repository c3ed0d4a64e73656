/-
The key origins as one table that the nodes of a run change in place.

`Node.execute` answers with new origins, so a node that fails has no way to spoil the old ones.
`Node.executeInPlace` is the same node as a script over a table that is handed from node to node:
each key is recorded and forgotten when its turn comes, and nothing is undone on a failure.
`Node.executeInPlace_eq` says that the two agree, since every change comes behind the last thing
that can fail.
-/
import Dataflow.Proofs.Pipeline.Passage

namespace Dataflow

/-- Something that reads and changes a table of key origins, and may fail or crash on the way. -/
def OriginScript (α : Type) : Type := KeyOrigins → Outcome PipelineError α × KeyOrigins

namespace OriginScript

variable {α β : Type}

def bind (x : OriginScript α) (f : α → OriginScript β) : OriginScript β := fun origins =>
  match x origins with
  | (.ok a, origins') => f a origins'
  | (.error e, origins') => (.error e, origins')
  | (.crash m, origins') => (.crash m, origins')

instance : Monad OriginScript where
  pure a := fun origins => (.ok a, origins)
  bind := bind

/-- Something that does not change the table. -/
def reading (x : KeyOrigins → Outcome PipelineError α) : OriginScript α := fun origins =>
  (x origins, origins)

def record (key : String) (node : Nat) : OriginScript Unit := fun origins =>
  (.ok (), origins.record key node)

def forget (key : String) : OriginScript Unit := fun origins => (.ok (), origins.forget key)

theorem bind_apply (x : OriginScript α) (f : α → OriginScript β) (origins : KeyOrigins) :
    (x >>= f) origins =
      match x origins with
      | (.ok a, origins') => f a origins'
      | (.error e, origins') => (.error e, origins')
      | (.crash m, origins') => (.crash m, origins') := rfl

theorem reading_bind (x : KeyOrigins → Outcome PipelineError α) (f : α → OriginScript β)
    (origins : KeyOrigins) :
    (reading x >>= f) origins =
      match x origins with
      | .ok a => f a origins
      | .error e => (.error e, origins)
      | .crash m => (.crash m, origins) := by
  rw [bind_apply, reading]
  cases x origins <;> rfl

theorem forM_forget (keys : List String) (origins : KeyOrigins) :
    keys.forM forget origins = (.ok ⟨⟩, keys.foldl (fun o key => o.forget key) origins) := by
  induction keys generalizing origins with
  | nil => rfl
  | cons key rest ih => exact ih (origins.forget key)

theorem forM_record (keys : List String) (node : Nat) (origins : KeyOrigins) :
    keys.forM (record · node) origins =
      (.ok ⟨⟩, keys.foldl (fun o key => o.record key node) origins) := by
  induction keys generalizing origins with
  | nil => rfl
  | cons key rest ih => exact ih (origins.record key node)

/-- Writes entries to a context one by one, each with its origin. -/
def writeAll (node : Nat) (entries : List (String × Json)) (context : Context) :
    OriginScript Context :=
  entries.foldlM (fun context (key, value) => do
    record key node
    return context.insert key value) context

theorem writeAll_eq (node : Nat) (entries : List (String × Json)) (context : Context)
    (origins : KeyOrigins) :
    writeAll node entries context origins =
      (.ok (entries.foldl (fun c (key, value) => c.insert key value) context),
        entries.foldl (fun o (key, _) => o.record key node) origins) := by
  induction entries generalizing context origins with
  | nil => rfl
  | cons e rest ih => exact ih (context.insert e.1 e.2) (origins.record e.1 node)

end OriginScript

namespace Node

variable (node : Node) (filter : LogFilter)

/-- Calls the processor, and records and forgets keys as it goes on. -/
def applyInPlace (params : Parameters) (payload : Payload) : OriginScript Effect :=
  let called {α : Type} (answer : Answer α) : OriginScript α :=
    .reading fun _ => answer.mapError (.processor node.index node.name)
  let finish (payload : Payload) (probeValue? : Option Json) (emissions : List Emission) :
      OriginScript Effect :=
    .reading fun origins => .ok { payload, origins, probeValue?, emissions }
  match node.processor with
  | .operation p => do
    let data ← called (p.process payload.data params)
    finish { payload with data } none []
  | .probe p => do
    let value ← called (p.probe payload.data params)
    match node.config.contextKeyword? with
    | some keyword => do
      .record keyword node.index
      finish { payload with context := payload.context.insert keyword value } (some value) []
    | none => finish payload (some value) []
  | .context p => do
    let (result, gate) :=
      Gate.run (p.edit params) (.new payload.context p.name p.createdKeys p.suppressedKeys)
    called result
    gate.deleted.forM .forget
    gate.created.forM (.record · node.index)
    finish { payload with context := gate.context } none []
  | .source p => do
    let data ← called (p.produce params)
    finish { payload with data } none []
  | .sink p => do
    let emissions ← called (p.consume filter payload.data params)
    finish payload none emissions
  | .payloadSource p => do
    let produced ← called (p.produce params)
    let context ← .writeAll node.index produced.context.entries payload.context
    finish { data := produced.data, context } none []
  | .payloadSink p => do
    let emissions ← called (p.consume filter payload params)
    finish payload none emissions

/-- Runs the node on a table of origins. -/
def executeInPlace (payload : Payload) : OriginScript NodeOutcome := do
  .reading fun _ => liftM (node.checkInput payload.data)
  let (params, sources) ← .reading fun origins => liftM (node.resolve payload.context origins)
  let effect ← node.applyInPlace filter params payload
  return { effect with sources }

theorem applyInPlace_eq (params : Parameters) (payload : Payload) (origins : KeyOrigins) :
    node.applyInPlace filter params payload origins =
      ((node.apply filter params payload origins).mapError (.processor node.index node.name),
        match node.apply filter params payload origins with
        | .ok effect => effect.origins
        | _ => origins) := by
  unfold applyInPlace apply
  cases node.processor with
  | operation p =>
    simp only [OriginScript.reading_bind]
    cases p.process payload.data params <;> rfl
  | probe p =>
    simp only [OriginScript.reading_bind]
    cases p.probe payload.data params with
    | ok value => cases node.config.contextKeyword? <;> rfl
    | error e => rfl
    | crash m => rfl
  | context p =>
    simp only [OriginScript.reading_bind]
    generalize Gate.run _ _ = ran
    obtain ⟨result, gate⟩ := ran
    cases result with
    | ok u =>
      simp only [OriginScript.bind_apply, OriginScript.forM_forget, OriginScript.forM_record]
      rfl
    | error e => rfl
    | crash m => rfl
  | source p =>
    simp only [OriginScript.reading_bind]
    cases p.produce params <;> rfl
  | sink p =>
    simp only [OriginScript.reading_bind]
    cases p.consume filter payload.data params <;> rfl
  | payloadSource p =>
    simp only [OriginScript.reading_bind]
    cases p.produce params with
    | ok produced =>
      simp only [OriginScript.bind_apply, OriginScript.writeAll_eq]
      rfl
    | error e => rfl
    | crash m => rfl
  | payloadSink p =>
    simp only [OriginScript.reading_bind]
    cases p.consume filter payload params <;> rfl

/-- Changing the origins in place comes to what the node answers with, and a node that fails or
crashes has changed nothing. -/
theorem executeInPlace_eq (payload : Payload) (origins : KeyOrigins) :
    node.executeInPlace filter payload origins =
      (node.execute filter payload origins,
        match node.execute filter payload origins with
        | .ok outcome => outcome.origins
        | _ => origins) := by
  unfold executeInPlace execute
  rw [OriginScript.reading_bind]
  cases node.checkInput payload.data with
  | error e => rfl
  | ok u =>
    simp only [Outcome.lift_ok, Outcome.ok_bind, OriginScript.reading_bind]
    cases node.resolve payload.context origins with
    | error e => rfl
    | ok resolved =>
      obtain ⟨params, sources⟩ := resolved
      simp only [Outcome.lift_ok, Outcome.ok_bind, OriginScript.bind_apply, applyInPlace_eq]
      cases node.apply filter params payload origins <;> rfl

end Node
end Dataflow
