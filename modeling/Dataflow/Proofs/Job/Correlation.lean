/-
A future gets the result of its own job, or none.

The result of a job travels as a message through two wildcard subscriptions, and its
future is found by a key of the context that the pipeline could have written itself.
The history of the run shows that it cannot go astray: a result in the ledger was
yielded by the pipeline of that very entry, and the answer to a future is the result
of the entry that has the future.
-/
import Dataflow.Proofs.Job.History

namespace Dataflow

namespace Ledger

variable {l l' : Ledger} {c : Cluster} {bench : Workbench} {a : ClusterAction}

theorem exchange_result {before after : Ledger} {e x : Entry} {stage : Stage} {q : Payload}
    (hx : x ∈ before ++ e.at_ stage :: after) (hq : x.stage.result? = some q) :
    (x.job = e.job ∧ stage.result? = some q) ∨
      ∃ y ∈ before ++ e :: after, y.job = x.job ∧ y.stage.result? = some q := by
  rcases mem_exchange.mp hx with rfl | hx
  · exact .inl ⟨rfl, hq⟩
  · exact .inr ⟨x, mem_exchange.mpr (.inr hx), rfl, hq⟩

/-- A result is in the ledger already, or a worker has just run the pipeline of the job. -/
theorem Advance.result (h : Advance bench c a l l') {x : Entry} (hx : x ∈ l') {q : Payload}
    (hq : x.stage.result? = some q) :
    (∃ y ∈ l, y.job = x.job ∧ y.stage.result? = some q) ∨
      ∃ w, a = .handle w ∧ bench.Yields x.job q := by
  cases h with
  | enqueue l i job wantFuture ticket c' _ =>
    rcases List.mem_append.mp hx with hx | hx
    · exact .inl ⟨x, hx, rfl, hq⟩
    · rw [List.mem_singleton.mp hx] at hq
      cases hq
  | reject before after e error hstage _ =>
    rcases exchange_result hx hq with ⟨-, hresult⟩ | hold
    · cases hresult
    · exact .inl hold
  | request before after e b hstage _ =>
    rcases exchange_result hx hq with ⟨-, hresult⟩ | hold
    · cases hresult
    · exact .inl hold
  | fail before after e w b hstage _ =>
    rcases exchange_result hx hq with ⟨-, hresult⟩ | hold
    · cases hresult
    · exact .inl hold
  | report before after e w p b hstage _ hyields =>
    rcases exchange_result hx hq with ⟨hjob, hresult⟩ | hold
    · cases hresult
      rw [hjob]
      exact .inr ⟨w, rfl, hyields⟩
    · exact .inl hold
  | collect before after e w p i b hstage _ =>
    rcases exchange_result hx hq with ⟨hjob, hresult⟩ | hold
    · refine .inl ⟨e, mem_exchange.mpr (.inl rfl), hjob.symm, ?_⟩
      rw [hstage]
      exact hresult
    · exact .inl hold

theorem Describes.future?_eq (h : l.Describes c) {e : Entry} (he : e ∈ l) {ticket : Ticket}
    (hfuture : e.future? = ticket.future?) (hsome : ticket.future?.isSome = true) :
    c.future? e.orchestrator ticket = some { value? := e.answer? } := by
  obtain ⟨n, hn⟩ := Option.isSome_iff_exists.mp hsome
  have hlt := h.orchestrator e he
  have ho := List.getElem?_eq_getElem hlt
  have hanswer := (h.intake e.orchestrator _ ho).tickets.answers e he rfl n (hfuture.trans hn)
  rw [Cluster.future?, ho]
  show Orchestrator.future? _ ticket = _
  rw [Orchestrator.future?, hn]
  exact hanswer

end Ledger

theorem Cluster.enqueue_future? {c c' : Cluster} {i : Nat} {job : Job} {wantFuture : Bool}
    {ticket : Ticket} (h : c.enqueue i job wantFuture = .ok (ticket, c')) :
    ticket.future?.isSome = wantFuture := by
  obtain ⟨o, o', -, hintake, -⟩ := enqueue_eq_ok h
  rcases Orchestrator.enqueue_eq_ok hintake with ⟨rfl, rfl, -⟩ | ⟨rfl, rfl, -⟩
  · rfl
  · rfl

namespace History

variable {c : Cluster} {steps : List (Workbench × ClusterAction)} {history : Nat → Ledger}

/-- Every result in the ledger was yielded by the pipeline of its job on some worker's bench. -/
theorem yielded (h : History c steps history) {t : Nat} (ht : t ≤ steps.length) {e : Entry}
    (he : e ∈ history t) {q : Payload} (hq : e.stage.result? = some q) :
    ∃ s < t, ∃ bench w, steps[s]? = some (bench, .handle w) ∧ bench.Yields e.job q := by
  induction t generalizing e with
  | zero =>
    rw [h.start] at he
    cases he
  | succ t ih =>
    have hlater : ∀ job, (∃ s < t, ∃ bench w, steps[s]? = some (bench, .handle w) ∧
        bench.Yields job q) → ∃ s < t + 1, ∃ bench w, steps[s]? = some (bench, .handle w) ∧
          bench.Yields job q :=
      fun job ⟨s, hs, hrest⟩ => ⟨s, Nat.lt_succ_of_lt hs, hrest⟩
    have hs := List.getElem?_eq_getElem ht
    have hstep := h.step t steps[t] hs
    cases hadvance : (c.moment steps t).advances steps[t].2 with
    | false =>
      rw [hstep.rest hadvance] at he
      exact hlater _ (ih (Nat.le_of_succ_le ht) he hq)
    | true =>
      rcases (hstep.advance hadvance).result he hq with ⟨y, hy, hjob, hyq⟩ | ⟨w, ha, hyields⟩
      · rw [← hjob]
        exact hlater _ (ih (Nat.le_of_succ_le ht) hy hyq)
      · refine ⟨t, Nat.lt_succ_self t, steps[t].1, w, ?_, hyields⟩
        rw [hs, ← ha]

theorem enqueued (h : History c steps history) {t : Nat} {bench : Workbench} {i : Nat} {job : Job}
    {wantFuture : Bool} (hstep : steps[t]? = some (bench, .enqueue i job wantFuture))
    {ticket : Ticket} {c' : Cluster}
    (henqueue : (c.moment steps t).enqueue i job wantFuture = .ok (ticket, c')) :
    (history (t + 1))[(history t).length]? = some ⟨i, job, ticket.future?, .waiting⟩ := by
  have hadvance : (c.moment steps t).advances (.enqueue i job wantFuture) = true := by
    simp [Cluster.advances, henqueue, Except.toBool]
  have hnext := (h.step t _ hstep).advance hadvance
  generalize history (t + 1) = later at hnext ⊢
  generalize hearlier : history t = earlier at hnext ⊢
  cases hnext with
  | enqueue _ _ _ _ ticket' c'' h' =>
    rw [henqueue] at h'
    cases h'
    rw [List.getElem?_append_right (Nat.le_refl _), Nat.sub_self]
    rfl

section Ticket

variable {start : Nat} {bench : Workbench} {i : Nat} {job : Job} {wantFuture : Bool}
  {ticket : Ticket} {c' : Cluster}

/-- The entry of a job keeps its place, so it is there at every later moment. -/
theorem kept (h : History c steps history)
    (hstep : steps[start]? = some (bench, .enqueue i job wantFuture))
    (henqueue : (c.moment steps start).enqueue i job wantFuture = .ok (ticket, c')) {t : Nat}
    (hlt : start < t) (ht : t ≤ steps.length) :
    ∃ e, (history t)[(history start).length]? = some e ∧
      Entry.Precedes ⟨i, job, ticket.future?, .waiting⟩ e :=
  h.precedes hlt ht (h.enqueued hstep henqueue)

theorem future?_eq (h : History c steps history)
    (hstep : steps[start]? = some (bench, .enqueue i job true))
    (henqueue : (c.moment steps start).enqueue i job true = .ok (ticket, c')) {t : Nat}
    (hlt : start < t) (ht : t ≤ steps.length) :
    (c.moment steps t).future? i ticket =
      some ⟨(history t)[(history start).length]?.bind Entry.answer?⟩ := by
  obtain ⟨e, he, hprecedes⟩ := h.kept hstep henqueue hlt ht
  have hfuture := (h.describes t ht).future?_eq (List.mem_of_getElem? he) hprecedes.future?
    (Cluster.enqueue_future? henqueue)
  rw [hprecedes.orchestrator] at hfuture
  rw [hfuture, he]
  rfl

end Ticket

end History

/-- Whatever the components do in whatever order: the future of a job is unresolved at first, it
is resolved at most once, and then with the result that the pipeline of this job yielded to a
worker, under whose context key for the identifier stands the identifier of the job. -/
theorem Cluster.future_is_of_its_job (settings : List OrchestratorSettings)
    (crew : List (String × ExecutorKind)) {steps : List (Workbench × ClusterAction)}
    (hclosed : Closed steps) {start : Nat} {bench : Workbench} {i : Nat} {job : Job}
    (hstep : steps[start]? = some (bench, .enqueue i job true)) {ticket : Ticket} {c' : Cluster}
    (henqueue : ((fresh settings crew).moment steps start).enqueue i job true =
      .ok (ticket, c')) :
    ∃ value? : Nat → Option Payload,
      (∀ t, start < t → t ≤ steps.length →
        ((fresh settings crew).moment steps t).future? i ticket = some ⟨value? t⟩) ∧
      value? (start + 1) = none ∧
      (∀ t u r, start < t → t ≤ u → u ≤ steps.length → value? t = some r → value? u = some r) ∧
      ∀ t r, start < t → t ≤ steps.length → value? t = some r →
        ∃ s < t, ∃ bench w p q, steps[s]? = some (bench, .handle w) ∧
          Pipeline.ofSpec bench.registry bench.load job.pipeline = .ok p ∧
          (p.process bench.filter bench.watch job.payload).1.result = .ok q ∧
          r.data = q.data ∧ r.context = q.context.insert Job.idKey (.str job.id.text) := by
  obtain ⟨history, h⟩ := exists_history settings crew hclosed
  refine ⟨fun t => (history t)[(history start).length]?.bind Entry.answer?, ?_, ?_, ?_, ?_⟩
  · intro t hlt ht
    exact h.future?_eq hstep henqueue hlt ht
  · show (history (start + 1))[(history start).length]?.bind Entry.answer? = none
    rw [h.enqueued hstep henqueue]
    rfl
  · intro t u r hlt htu hu hr
    obtain ⟨e, he, hanswer⟩ := Option.bind_eq_some_iff.mp hr
    obtain ⟨e', he', hprecedes⟩ := h.precedes htu hu he
    show (history u)[(history start).length]?.bind Entry.answer? = some r
    rw [he']
    exact hprecedes.answer? hanswer
  · intro t r hlt ht hr
    obtain ⟨e, he, hanswer⟩ := Option.bind_eq_some_iff.mp hr
    obtain ⟨e', he', hprecedes⟩ := h.kept hstep henqueue hlt ht
    rw [he] at he'
    cases he'
    obtain ⟨q, hq, rfl⟩ := Entry.answer?_eq_some hanswer
    obtain ⟨s, hs, bench', w, hhandle, p, hspec, hprocess⟩ :=
      h.yielded ht (List.mem_of_getElem? he) hq
    rw [hprecedes.job] at hspec hprocess
    refine ⟨s, hs, bench', w, p, q, hhandle, hspec, hprocess, rfl, ?_⟩
    rw [Entry.report, hprecedes.job]
    rfl

namespace Cluster

set_option maxRecDepth 4000 in
theorem future?_errand :
    ((fresh [{}] [("worker", .sequential)]).moment errandSteps 5).future? 0
        ⟨errand.id, some 0⟩ =
      some ⟨some (Job.status errand.id.text errand.payload).payload⟩ := by
  rfl

theorem future_is_of_its_job_of_errand :
    let c := fresh [{}] [("worker", .sequential)]
    let result := (Job.status errand.id.text errand.payload).payload
    Closed errandSteps ∧ errandSteps[1]? = some (bareBench, .enqueue 0 errand true) ∧
      (∃ c', (c.moment errandSteps 1).enqueue 0 errand true =
        .ok (⟨errand.id, some 0⟩, c')) ∧
      (c.moment errandSteps 5).future? 0 ⟨errand.id, some 0⟩ = some ⟨some result⟩ ∧
      ∃ s < 5, ∃ bench w p q, errandSteps[s]? = some (bench, .handle w) ∧
        Pipeline.ofSpec bench.registry bench.load errand.pipeline = .ok p ∧
        (p.process bench.filter bench.watch errand.payload).1.result = .ok q ∧
        result.data = q.data ∧
        result.context = q.context.insert Job.idKey (.str errand.id.text) := by
  intro c result
  have hstep : errandSteps[1]? = some (bareBench, .enqueue 0 errand true) := rfl
  have henqueue : ∃ c', (c.moment errandSteps 1).enqueue 0 errand true =
      .ok (⟨errand.id, some 0⟩, c') := ⟨_, rfl⟩
  obtain ⟨c', hc'⟩ := henqueue
  obtain ⟨value?, hvalue, -, -, hresult⟩ :=
    future_is_of_its_job [{}] [("worker", .sequential)] closed_errandSteps hstep hc'
  have hr : value? 5 = some result := by
    have heq := (hvalue 5 (by decide) (by decide)).symm.trans future?_errand
    exact congrArg Future.value? (Option.some.inj heq)
  exact ⟨closed_errandSteps, hstep, ⟨c', hc'⟩, future?_errand,
    hresult 5 result (by decide) (by decide) hr⟩

end Cluster
end Dataflow
