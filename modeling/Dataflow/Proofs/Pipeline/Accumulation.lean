/-
What the calls of a pipeline add up to.

A pipeline keeps time accounts and collected values, to which every completed node adds, and the
records of its latest run.  The journal of some calls lists the records of all completed nodes in
order; the accounts and the values are folds over it.  The nodes of a run complete in order from
the first, so a call leaves at most one record of a node, at the position of the node, and a failed
call leaves records of the nodes in front of the failure only.  `Pipeline.recordsAt` picks those of
one node, and everything that is kept of the node is read off them: the count is their number, the
collected values are theirs.  The values are kept under labels, which is as good as under positions
since different positions have different labels.
-/
import Dataflow.Proofs.Pipeline.Reliable

namespace Dataflow

/-! ## Labels -/

theorem Decimal.natText_toList (n : Nat) : (natText n).toList = Nat.toDigits 10 n :=
  String.toList_ofList

/-- A label is read back up to its slash, which is not a digit. -/
theorem Node.index_of_label {a b : Node} (h : a.label = b.label) : a.index = b.index := by
  have hdigits : ∀ (n : Nat) (rest : List Char),
      (Nat.toDigits 10 n ++ '/' :: rest).takeWhile Char.isDigit = Nat.toDigits 10 n := by
    intro n rest
    rw [List.takeWhile_append_of_pos fun c hc =>
      Nat.isDigit_of_mem_toDigits (by omega) (by omega) hc, List.takeWhile_cons_of_neg (by decide),
      List.append_nil]
  have hchars : Nat.toDigits 10 a.index ++ '/' :: a.name.toList =
      Nat.toDigits 10 b.index ++ '/' :: b.name.toList := by
    have hlabels := congrArg String.toList h
    simp only [label, String.toList_append, Decimal.natText_toList, List.append_assoc] at hlabels
    exact List.append_cancel_left hlabels
  have hsame := congrArg (List.takeWhile Char.isDigit) hchars
  rw [hdigits, hdigits] at hsame
  have hnumbers := congrArg (Nat.ofDigitChars 10 · 0) hsame
  simpa only [Nat.ofDigitChars_ten_toDigits] using hnumbers

/-! ## The journal -/

/-- The records of a list are those of the nodes from a position on, in order. -/
theorem filter_position {records : List NodeRun} {first : Nat}
    (h : ∀ (t : Nat) (r : NodeRun), records[t]? = some r → r.node.index = first + t) (j : Nat) :
    records.filter (·.node.index = first + j) = records[j]?.toList := by
  induction records generalizing first j with
  | nil => rfl
  | cons r rest ih =>
    have hr : r.node.index = first := h 0 r rfl
    have hrest : ∀ (t : Nat) (r : NodeRun), rest[t]? = some r → r.node.index = first + 1 + t := by
      intro t r' hr'
      have := h (t + 1) r' hr'
      omega
    cases j with
    | zero =>
      have hnone : rest.filter (·.node.index = first + 0) = [] := by
        rw [List.filter_eq_nil_iff]
        intro r' hr'
        obtain ⟨t, ht⟩ := List.mem_iff_getElem?.mp hr'
        have := hrest t r' ht
        simp only [decide_eq_true_eq]
        omega
      rw [List.filter_cons_of_pos (by simp [hr]), hnone]
      rfl
    | succ j =>
      have hne : ¬ r.node.index = first + (j + 1) := by omega
      have hshift : first + (j + 1) = first + 1 + j := by omega
      rw [List.filter_cons_of_neg (by simp [hne]), hshift, ih hrest]
      rfl

namespace Pipeline

variable {p : Pipeline}

def runOf (p : Pipeline) (call : ProcessCall) : Run :=
  Run.of call.filter call.watch p.nodes call.payload

/-- The records of all nodes that completed in some calls. -/
def journal (p : Pipeline) (calls : List ProcessCall) : List NodeRun :=
  calls.flatMap fun call => (p.runOf call).completed

/-- The records of the node at a position in some calls. -/
def recordsAt (p : Pipeline) (calls : List ProcessCall) (j : Nat) : List NodeRun :=
  calls.filterMap fun call => (p.runOf call).completed[j]?

theorem processAll_sums (p : Pipeline) (calls : List ProcessCall) :
    (p.processAll calls).timings = (p.journal calls).foldl addTiming p.timings ∧
      (p.processAll calls).probeResults =
        (p.journal calls).foldl addCollected p.probeResults := by
  induction calls generalizing p with
  | nil => exact ⟨rfl, rfl⟩
  | cons call rest ih =>
    obtain ⟨htimings, hresults⟩ := ih (p.process call.filter call.watch call.payload).2
    rw [journal, List.flatMap_cons, List.foldl_append, List.foldl_append]
    exact ⟨htimings, hresults⟩

theorem completed_eq (p : Pipeline) (call : ProcessCall) :
    (p.runOf call).completed =
      (passages call.filter p.nodes (.start call.payload)).map (·.record call.watch) :=
  (Run.ofNodes_eq call.filter call.watch p.nodes (.start call.payload)).1

/-- The record at a position of a run is of the node at that position. -/
theorem node_of_completed {call : ProcessCall} {j : Nat} {r : NodeRun}
    (h : (p.runOf call).completed[j]? = some r) : p.nodes[j]? = some r.node := by
  rw [completed_eq, List.getElem?_map] at h
  obtain ⟨passage, hpassage, rfl⟩ := Option.map_eq_some_iff.mp h
  exact (passages_linked call.filter p.nodes (.start call.payload)).node j passage hpassage

/-- Every node knows its position. -/
def Positioned (p : Pipeline) : Prop :=
  ∀ (t : Nat) (node : Node), p.nodes[t]? = some node → node.index = t

theorem Positioned.completed_filter (hp : p.Positioned) (call : ProcessCall) (j : Nat) :
    (p.runOf call).completed.filter (·.node.index = j) = (p.runOf call).completed[j]?.toList := by
  have hposition : ∀ (t : Nat) (r : NodeRun), (p.runOf call).completed[t]? = some r →
      r.node.index = 0 + t := by
    intro t r hr
    rw [Nat.zero_add]
    exact hp t r.node (node_of_completed hr)
  have h := filter_position hposition j
  rw [Nat.zero_add] at h
  exact h

theorem Positioned.journal_filter (hp : p.Positioned) (calls : List ProcessCall) (j : Nat) :
    (p.journal calls).filter (·.node.index = j) = p.recordsAt calls j := by
  rw [journal, List.filter_flatMap, recordsAt, List.filterMap_eq_flatMap_toList]
  simp only [hp.completed_filter]

/-- Whether the node at a position completes in a call. -/
def completes (p : Pipeline) (j : Nat) (call : ProcessCall) : Bool :=
  (p.runOf call).completed.any (·.node.index = j)

theorem Positioned.completes_iff (hp : p.Positioned) (j : Nat) (call : ProcessCall) :
    p.completes j call = true ↔ j < (p.runOf call).completed.length := by
  have hfilter := hp.completed_filter call j
  rw [completes, List.any_eq_true]
  constructor
  · rintro ⟨r, hr, hindex⟩
    have hmem : r ∈ (p.runOf call).completed[j]?.toList :=
      hfilter ▸ List.mem_filter.mpr ⟨hr, hindex⟩
    exact (List.getElem?_eq_some_iff.mp (Option.mem_toList.mp hmem)).1
  · intro hj
    have hnode := node_of_completed (List.getElem?_eq_getElem hj)
    exact ⟨_, List.getElem_mem hj, decide_eq_true (hp j _ hnode)⟩

theorem Positioned.length_recordsAt (hp : p.Positioned) (calls : List ProcessCall) (j : Nat) :
    (p.recordsAt calls j).length = calls.countP (p.completes j) := by
  rw [recordsAt, List.length_filterMap_eq_countP]
  refine List.countP_congr fun call _ => ?_
  rw [hp.completes_iff, Option.isSome_iff_ne_none, Ne, List.getElem?_eq_none_iff, Nat.not_le]

end Pipeline

/-! ## Time accounts -/

namespace NodeTiming

/-- The account of a node behind one more record of it. -/
def after (timing : NodeTiming) (record : NodeRun) : NodeTiming :=
  { timing with
    calls := timing.calls + 1
    total := ⟨timing.total.nanos + record.duration.nanos⟩ }

theorem foldl_after (records : List NodeRun) (timing : NodeTiming) :
    (records.foldl after timing).label = timing.label ∧
      (records.foldl after timing).calls = timing.calls + records.length := by
  induction records generalizing timing with
  | nil => exact ⟨rfl, rfl⟩
  | cons r rest ih =>
    obtain ⟨hlabel, hcalls⟩ := ih (timing.after r)
    exact ⟨hlabel, hcalls.trans (Nat.add_right_comm timing.calls 1 rest.length)⟩

end NodeTiming

namespace Pipeline

variable {p : Pipeline}

/-- The records of a node are added to its account, and to no other. -/
theorem getElem?_foldl_addTiming (records : List NodeRun) (timings : List NodeTiming) (j : Nat) :
    (records.foldl addTiming timings)[j]? =
      timings[j]?.map fun timing =>
        (records.filter (·.node.index = j)).foldl NodeTiming.after timing := by
  induction records generalizing timings with
  | nil => simp
  | cons r rest ih =>
    rw [List.foldl_cons, ih, addTiming, List.getElem?_modify]
    cases timings[j]? with
    | none => rfl
    | some timing =>
      by_cases hr : r.node.index = j
      · simp [hr, NodeTiming.after]
      · simp [hr]

theorem length_foldl_addTiming (records : List NodeRun) (timings : List NodeTiming) :
    (records.foldl addTiming timings).length = timings.length := by
  induction records generalizing timings with
  | nil => rfl
  | cons r rest ih => rw [List.foldl_cons, ih, addTiming, List.length_modify]

/-- Behind some calls the account of a node counts the calls in which the node completed. -/
theorem Positioned.timing (hp : p.Positioned)
    (hfresh : p.timings = p.nodes.map fun node => { label := node.label })
    (calls : List ProcessCall) (j : Nat) :
    (p.processAll calls).timings[j]?.map (fun t => (t.label, t.calls)) =
      p.nodes[j]?.map fun node => (node.label, calls.countP (p.completes j)) := by
  rw [(p.processAll_sums calls).1, getElem?_foldl_addTiming, hp.journal_filter, hfresh,
    List.getElem?_map]
  cases p.nodes[j]? with
  | none => rfl
  | some node => simp [NodeTiming.foldl_after, hp.length_recordsAt]

/-! ## Collected values -/

/-- What a record adds to the values under a label. -/
def valueUnder? (label : String) (r : NodeRun) : Option Json :=
  if r.node.label = label then r.collected? else none

theorem get?_addCollected (results : KeyMap (List Json)) (r : NodeRun) (label : String) :
    (addCollected results r).get? label =
      match valueUnder? label r with
      | some value => some ((results.get? label).getD [] ++ [value])
      | none => results.get? label := by
  unfold addCollected valueUnder?
  cases r.collected? with
  | none => simp
  | some value =>
    by_cases hlabel : r.node.label = label
    · subst hlabel
      simp
    · simp [hlabel, KeyMap.get?_insert_ne]

theorem get?_foldl_addCollected (records : List NodeRun) (results : KeyMap (List Json))
    (label : String) :
    (records.foldl addCollected results).get? label =
      if records.filterMap (valueUnder? label) = [] then results.get? label
      else some ((results.get? label).getD [] ++ records.filterMap (valueUnder? label)) := by
  induction records generalizing results with
  | nil => rfl
  | cons r rest ih =>
    rw [List.foldl_cons, ih, get?_addCollected, List.filterMap_cons]
    cases valueUnder? label r with
    | none => rfl
    | some value =>
      by_cases hrest : rest.filterMap (valueUnder? label) = []
      · simp [hrest]
      · simp [hrest]

/-- A record of the journal is of the node at its position. -/
theorem Positioned.node_of_journal (hp : p.Positioned) {calls : List ProcessCall} {r : NodeRun}
    (h : r ∈ p.journal calls) : p.nodes[r.node.index]? = some r.node ∧
      ∃ call ∈ calls, r ∈ (p.runOf call).completed := by
  obtain ⟨call, hcall, hr⟩ := List.mem_flatMap.mp h
  obtain ⟨t, ht⟩ := List.mem_iff_getElem?.mp hr
  have hnode := node_of_completed ht
  rw [hp t r.node hnode]
  exact ⟨hnode, call, hcall, hr⟩

/-- The values under the label of a node are those of its records. -/
theorem Positioned.valuesUnder (hp : p.Positioned) (calls : List ProcessCall) {j : Nat}
    {node : Node} (hnode : p.nodes[j]? = some node) :
    (p.journal calls).filterMap (valueUnder? node.label) =
      (p.recordsAt calls j).filterMap (·.collected?) := by
  rw [← hp.journal_filter, List.filterMap_filter]
  refine List.filterMap_congr fun r hr => ?_
  obtain ⟨hposition, -⟩ := hp.node_of_journal hr
  have hsame : r.node.label = node.label ↔ r.node.index = j := by
    constructor
    · intro hlabel
      rw [Node.index_of_label hlabel]
      exact hp j node hnode
    · intro hindex
      rw [hindex, hnode] at hposition
      rw [Option.some.inj hposition]
  simp only [valueUnder?, hsame, decide_eq_true_eq]

end Pipeline

/-- What the probe of the node answers to what it is called on; nothing if there is no probe. -/
def Passage.probeAnswer? (p : Passage) : Option Json :=
  match p.node.processor with
  | .probe probe =>
    match probe.probe p.before.payload.data p.params with
    | .ok value => some value
    | _ => none
  | _ => none

/-- Only a result collector has a collected value, which is the answer of its probe. -/
theorem Passage.collected_record {filter : LogFilter} {p : Passage}
    (h : p.node.execute filter p.before.payload p.before.origins = .ok p.outcome)
    (watch : Stopwatch) (hrole : p.node.role = .resultCollector) :
    ∃ value, p.probeAnswer? = some value ∧ (p.record watch).collected? = some value := by
  have happlied := Node.applied (p.apply_of_execute h)
  have hrecord : (p.record watch).collected? = p.outcome.probeValue? := if_pos hrole
  unfold Node.role at hrole
  generalize p.outcome.toEffect = effect at happlied hrecord
  cases happlied with
  | @probe probe value hp hprobe =>
    refine ⟨value, ?_, ?_⟩
    · unfold probeAnswer?
      simp only [hp, hprobe]
    · rw [hrecord]
      cases p.node.config.contextKeyword? <;> rfl
  | operation hp | context hp | source hp | sink hp | payloadSource hp | payloadSink hp =>
    simp [hp] at hrole

theorem Passage.role_of_collected {p : Passage} {watch : Stopwatch} {value : Json}
    (h : (p.record watch).collected? = some value) : p.node.role = .resultCollector := by
  by_contra hrole
  rw [show (p.record watch).collected? = none from if_neg hrole] at h
  cases h

namespace Pipeline

variable {p : Pipeline}

/-- What the probe at a position answered in those of some calls in which it completed. -/
def probeAnswers (p : Pipeline) (calls : List ProcessCall) (j : Nat) : List Json :=
  calls.filterMap fun call =>
    (passages call.filter p.nodes (.start call.payload))[j]?.bind Passage.probeAnswer?

theorem collected_recordsAt (calls : List ProcessCall) {j : Nat} {node : Node}
    (hnode : p.nodes[j]? = some node) (hrole : node.role = .resultCollector) :
    (p.recordsAt calls j).filterMap (·.collected?) = p.probeAnswers calls j ∧
      (p.probeAnswers calls j).length = (p.recordsAt calls j).length := by
  have hcall : ∀ call : ProcessCall, ∀ passage,
      (passages call.filter p.nodes (.start call.payload))[j]? = some passage →
      ∃ value, passage.probeAnswer? = some value ∧
        (passage.record call.watch).collected? = some value := by
    intro call passage hpassage
    have hlinked := passages_linked call.filter p.nodes (.start call.payload)
    have hsame : some passage.node = some node := (hlinked.node j passage hpassage).symm.trans hnode
    refine passage.collected_record (hlinked.execute j passage hpassage) call.watch ?_
    rw [Option.some.inj hsame]
    exact hrole
  have hvalue : ∀ call : ProcessCall,
      (p.runOf call).completed[j]?.bind (·.collected?) =
          (passages call.filter p.nodes (.start call.payload))[j]?.bind Passage.probeAnswer? ∧
        ((passages call.filter p.nodes (.start call.payload))[j]?.bind
          Passage.probeAnswer?).isSome = (p.runOf call).completed[j]?.isSome := by
    intro call
    rw [completed_eq, List.getElem?_map]
    cases hpassage : (passages call.filter p.nodes (.start call.payload))[j]? with
    | none => exact ⟨rfl, rfl⟩
    | some passage =>
      obtain ⟨value, hanswer, hcollected⟩ := hcall call passage hpassage
      simp [hanswer, hcollected]
  constructor
  · rw [recordsAt, List.filterMap_filterMap, probeAnswers]
    exact List.filterMap_congr fun call _ => (hvalue call).1
  · rw [probeAnswers, recordsAt, List.length_filterMap_eq_countP, List.length_filterMap_eq_countP]
    exact List.countP_congr fun call _ => by rw [(hvalue call).2]

/-- A label has values if it is that of a result collector that completed in some call. -/
theorem Positioned.get?_probeResults (hp : p.Positioned) (hfresh : p.probeResults = .empty)
    (calls : List ProcessCall) (label : String) (values : List Json) :
    (p.processAll calls).probeResults.get? label = some values ↔
      ∃ (j : Nat) (node : Node), p.nodes[j]? = some node ∧ node.label = label ∧
        node.role = .resultCollector ∧ (∃ call ∈ calls, p.completes j call = true) ∧
        values = p.probeAnswers calls j := by
  have hget : (p.processAll calls).probeResults.get? label =
      if (p.journal calls).filterMap (valueUnder? label) = [] then none
      else some ((p.journal calls).filterMap (valueUnder? label)) := by
    rw [(p.processAll_sums calls).2, get?_foldl_addCollected, hfresh]
    rfl
  rw [hget]
  constructor
  -- A value under the label was left by a record, and only collectors leave values.
  · intro h
    split at h
    · cases h
    · rename_i hvalues
      obtain ⟨value, hvalue⟩ := List.exists_mem_of_ne_nil _ hvalues
      obtain ⟨r, hr, hunder⟩ := List.mem_filterMap.mp hvalue
      unfold valueUnder? at hunder
      split at hunder
      · rename_i hlabel
        obtain ⟨hnode, call, hcall, hcompleted⟩ := hp.node_of_journal hr
        have hrole : r.node.role = .resultCollector := by
          rw [completed_eq] at hcompleted
          obtain ⟨passage, -, rfl⟩ := List.mem_map.mp hcompleted
          exact passage.role_of_collected hunder
        refine ⟨r.node.index, r.node, hnode, hlabel, hrole, ⟨call, hcall, ?_⟩, ?_⟩
        · exact List.any_eq_true.mpr ⟨r, hcompleted, decide_eq_true rfl⟩
        · rw [← Option.some.inj h, ← hlabel, hp.valuesUnder calls hnode]
          exact (collected_recordsAt calls hnode hrole).1
      · cases hunder
  -- A collector leaves a value whenever it completes, so there is one.
  · rintro ⟨j, node, hnode, rfl, hrole, ⟨call, hcall, hcompletes⟩, rfl⟩
    obtain ⟨hcollected, hlength⟩ := collected_recordsAt calls hnode hrole
    rw [hp.valuesUnder calls hnode, hcollected]
    refine if_neg fun hnone => ?_
    have hcount : 0 < calls.countP (p.completes j) :=
      List.countP_pos_iff.mpr ⟨call, hcall, hcompletes⟩
    rw [← hp.length_recordsAt, ← hlength, hnone] at hcount
    exact Nat.lt_irrefl 0 hcount

end Pipeline

/-! ## Registries of processors that do not crash -/

def Registry.Steady (registry : Registry) : Prop :=
  ∀ name p, registry.get? name = some p → p.Steady

theorem Registry.builtin_steady : Registry.builtin.Steady := fun _ _ h =>
  (Processor.reliable_of_mem_builtins (mem_builtins_of_get? h)).steady

theorem Registry.Steady.resolve {registry : Registry} (h : registry.Steady) {reference : String}
    {p : Processor} (hresolve : registry.resolve reference = .ok p) : p.Steady := by
  rcases resolve_cases hresolve with hshorthand | hget
  · obtain ⟨c, rfl, hdutiful⟩ := Processor.dutiful_of_shorthand hshorthand
    exact hdutiful.steady
  · exact h reference p hget

/-! ## Every history -/

namespace Pipeline

variable {p : Pipeline}

/-- What a pipeline `p` without calls behind it keeps of some calls when it has become `q`. -/
structure Accounts (p : Pipeline) (calls : List ProcessCall) (q : Pipeline) : Prop where
  length : q.timings.length = p.nodes.length
  /-- Every node has an account, which counts the calls in which the node completed. -/
  timing : ∀ (j : Nat) (node : Node), p.nodes[j]? = some node → ∃ timing,
    q.timings[j]? = some timing ∧ timing.label = node.label ∧
      timing.calls = calls.countP (p.completes j)
  /-- The counts never increase along the nodes. -/
  descending : ∀ (i j : Nat) (earlier later : NodeTiming), i ≤ j →
    q.timings[i]? = some earlier → q.timings[j]? = some later → later.calls ≤ earlier.calls
  labels : (p.nodes.map Node.label).Nodup
  /-- There are values under the labels of the result collectors that completed in some call, and
  under no others: those that the probe answered, in the order of the calls. -/
  collected : ∀ (label : String) (values : List Json), q.probeResults.get? label = some values ↔
    ∃ (j : Nat) (node : Node), p.nodes[j]? = some node ∧ node.label = label ∧
      node.role = .resultCollector ∧ (∃ call ∈ calls, p.completes j call = true) ∧
      values = p.probeAnswers calls j
  /-- There are as many values under a label as its account counts. -/
  aligned : ∀ (j : Nat) (timing : NodeTiming) (values : List Json), q.timings[j]? = some timing →
    q.probeResults.get? timing.label = some values → values.length = timing.calls
  latest : q.lastRun = (calls.getLast?.map fun call => (p.runOf call).completed).getD []
  /-- The next call does what it would do without the others. -/
  independent : ∀ call : ProcessCall,
    (q.process call.filter call.watch call.payload).1 =
        (p.process call.filter call.watch call.payload).1 ∧
      (q.process call.filter call.watch call.payload).2.lastRun =
        (p.process call.filter call.watch call.payload).2.lastRun

theorem Positioned.completes_of_le (hp : p.Positioned) {i j : Nat} (hij : i ≤ j)
    {call : ProcessCall} (h : p.completes j call = true) : p.completes i call = true :=
  (hp.completes_iff i call).mpr (Nat.lt_of_le_of_lt hij ((hp.completes_iff j call).mp h))

theorem Positioned.nodup_labels (hp : p.Positioned) : (p.nodes.map Node.label).Nodup := by
  rw [List.Nodup, List.pairwise_map, List.pairwise_iff_getElem]
  intro i j hi hj hlt hlabel
  have hindex := Node.index_of_label hlabel
  rw [hp i _ (List.getElem?_eq_getElem hi), hp j _ (List.getElem?_eq_getElem hj)] at hindex
  omega

theorem lastRun_processAll (hsteady : ∀ node ∈ p.nodes, node.processor.Steady)
    (hfresh : p.lastRun = []) (calls : List ProcessCall) :
    (p.processAll calls).lastRun =
      (calls.getLast?.map fun call => (p.runOf call).completed).getD [] := by
  induction calls using List.reverseRecOn with
  | nil => exact hfresh
  | append_singleton before call _ =>
    rw [processAll, List.foldl_append, List.getLast?_concat]
    exact (lastRun_of_steady hsteady before _ _ _).trans (p.completed_eq call).symm

/-- The accounts of a pipeline are consistent behind any calls, be they successful or not, over any
registry of processors that do not crash. -/
theorem accounts_are_consistent {registry : Registry} {configs : List NodeConfig}
    (hp : Pipeline.new registry configs = .ok p) (hregistry : registry.Steady)
    (calls : List ProcessCall) : p.Accounts calls (p.processAll calls) := by
  obtain ⟨nodes, hbuild, rfl⟩ := new_eq_ok_iff.mp hp
  have hpositioned : (ofNodes nodes).Positioned := fun _ _ => Topology.build_index hbuild
  have hsteady : ∀ node ∈ (ofNodes nodes).nodes, node.processor.Steady := by
    intro node hnode
    have hbind := (Topology.build_eq_ok_iff.mp hbuild).1
    exact hregistry.resolve (Topology.resolve_of_mem_bindFrom hbind node hnode)
  have htimings := hpositioned.timing rfl calls
  have htiming : ∀ (j : Nat) (timing : NodeTiming),
      ((ofNodes nodes).processAll calls).timings[j]? = some timing → ∃ node, nodes[j]? = some node ∧
        timing.label = node.label ∧ timing.calls = calls.countP ((ofNodes nodes).completes j) := by
    intro j timing htiming
    have hj := htimings j
    rw [htiming] at hj
    obtain ⟨node, hnode, hpair⟩ := Option.map_eq_some_iff.mp hj.symm
    obtain ⟨hlabel, hcount⟩ := Prod.mk.inj hpair
    exact ⟨node, hnode, hlabel.symm, hcount.symm⟩
  have hcollected := hpositioned.get?_probeResults rfl calls
  constructor
  case length =>
    rw [((ofNodes nodes).processAll_sums calls).1, length_foldl_addTiming]
    exact List.length_map _
  case timing =>
    intro j node hnode
    have hj := htimings j
    rw [show (ofNodes nodes).nodes[j]? = some node from hnode] at hj
    obtain ⟨timing, htiming, hpair⟩ := Option.map_eq_some_iff.mp hj
    obtain ⟨hlabel, hcount⟩ := Prod.mk.inj hpair
    exact ⟨timing, htiming, hlabel, hcount⟩
  case descending =>
    intro i j earlier later hij hearlier hlater
    obtain ⟨-, -, -, hcount⟩ := htiming i earlier hearlier
    obtain ⟨-, -, -, hcount'⟩ := htiming j later hlater
    rw [hcount, hcount']
    exact List.countP_mono_left fun call _ => hpositioned.completes_of_le hij
  case labels => exact hpositioned.nodup_labels
  case collected => exact hcollected
  case aligned =>
    intro j timing values htime hvalues
    obtain ⟨node, hnode, hlabel, hcount⟩ := htiming j timing htime
    obtain ⟨k, other, hother, hsame, hrole, -, rfl⟩ := (hcollected _ _).mp hvalues
    have hposition : k = j := by
      rw [← hpositioned k other hother, ← hpositioned j node hnode]
      exact Node.index_of_label (hsame.trans hlabel)
    subst hposition
    rw [(collected_recordsAt calls hother hrole).2, hpositioned.length_recordsAt, hcount]
  case latest => exact lastRun_processAll hsteady rfl calls
  case independent =>
    intro call
    refine ⟨(ofNodes nodes).process_processAll calls call.filter call.watch call.payload, ?_⟩
    rw [lastRun_of_steady hsteady calls]
    exact (lastRun_of_steady hsteady [] _ _ _).symm

/-- A probe collects a value of a call that fails behind it as well. -/
theorem accounts_are_consistent_of_mismatch :
    let calls : List ProcessCall :=
      [⟨.all, .stopped, { data := .text "a" }⟩, ⟨.all, .stopped, {}⟩]
    ∃ p, Pipeline.new .builtin
        [{ processor := "data_type_probe" }, { processor := "change_text_case" }] = .ok p ∧
      Registry.builtin.Steady ∧ p.Accounts calls (p.processAll calls) ∧
      calls.countP (p.completes 0) = 2 ∧ calls.countP (p.completes 1) = 1 ∧
      p.probeAnswers calls 0 = [.str "Text", .str "Empty"] := by
  intro calls
  obtain ⟨p, hp, hfirst, hsecond, hanswers⟩ : ∃ p, Pipeline.new .builtin
        [{ processor := "data_type_probe" }, { processor := "change_text_case" }] = .ok p ∧
      calls.countP (p.completes 0) = 2 ∧ calls.countP (p.completes 1) = 1 ∧
      p.probeAnswers calls 0 = [.str "Text", .str "Empty"] := ⟨_, rfl, rfl, rfl, rfl⟩
  exact ⟨p, hp, Registry.builtin_steady, accounts_are_consistent hp Registry.builtin_steady calls,
    hfirst, hsecond, hanswers⟩

end Pipeline
end Dataflow
