/-
Nodes that read the same data and do not agree on its type.

No data suits two nodes that declare different types for it, so a list with two such readers can
never run to its end.  The type check compares a reader with the most recent producer, not with
another reader.  It finds the disagreement if that producer declares a definite type, since one of
the two readers then is a mismatch, and otherwise leaves it to the run, which stops at the second
reader at the latest.
-/
import Dataflow.Proofs.Pipeline.Abort
import Dataflow.Proofs.Pipeline.Construction
import Dataflow.Proofs.Pipeline.Footprint

namespace Dataflow

/-- The nodes at the positions `i` and `j` read the same data: nothing replaces it from the one to
the other. -/
structure SharedData (nodes : List Node) (i j : Nat) (first second : Node) : Prop where
  before : i < j
  at_first : nodes[i]? = some first
  at_second : nodes[j]? = some second
  first_reads : first.readsData = true
  second_reads : second.readsData = true
  passes : ∀ t node, i ≤ t → t < j → nodes[t]? = some node → node.producesData = false

namespace SharedData

variable {nodes : List Node} {i j : Nat} {first second producer : Node}

/-- A reader that hands on its data shares it with the next node. -/
theorem of_adjacent (hfirst : nodes[i]? = some first) (hsecond : nodes[i + 1]? = some second)
    (hreads : first.readsData = true) (hreads' : second.readsData = true)
    (hpasses : first.producesData = false) : SharedData nodes i (i + 1) first second where
  before := Nat.lt_succ_self i
  at_first := hfirst
  at_second := hsecond
  first_reads := hreads
  second_reads := hreads'
  passes t node hle hlt hnode := by
    obtain rfl : t = i := by omega
    cases hfirst.symm.trans hnode
    exact hpasses

/-- Both have the same producer. -/
theorem producedBy (h : SharedData nodes i j first second)
    (hproducer : Topology.ProducedBy (nodes.take i) producer) :
    Topology.ProducedBy (nodes.take j) producer := by
  obtain ⟨earlier, later, hsplit, hproduces, hlater⟩ := hproducer
  have htake : nodes.take j = nodes.take i ++ (nodes.drop i).take (j - i) := by
    rw [← List.take_add, Nat.add_sub_of_le (Nat.le_of_lt h.before)]
  refine ⟨earlier, later ++ (nodes.drop i).take (j - i), ?_, hproduces, fun node hnode => ?_⟩
  · rw [htake, hsplit, List.append_assoc, List.cons_append]
  · rcases List.mem_append.mp hnode with hnode | hnode
    · exact hlater node hnode
    · obtain ⟨t, ht⟩ := List.mem_iff_getElem?.mp hnode
      rw [List.getElem?_take, Option.ite_none_right_eq_some, List.getElem?_drop] at ht
      exact h.passes (i + t) node (Nat.le_add_right i t) (by omega) ht.2

/-- A producer of definite type does not suit two readers that disagree. -/
theorem exists_mismatch (h : SharedData nodes i j first second)
    (hproducer : Topology.ProducedBy (nodes.take i) producer)
    (hdefinite : producer.outputType ≠ .any)
    (hclash : first.inputType.Clash second.inputType) :
    ∃ t node, Topology.Mismatch nodes t node producer ∧ t ≤ j := by
  obtain ⟨hfirst, hsecond, hne⟩ := hclash
  by_cases hsame : producer.outputType = first.inputType
  · have hother : producer.outputType.Clash second.inputType :=
      ⟨hdefinite, hsecond, hsame ▸ hne⟩
    exact ⟨j, second, ⟨h.at_second, h.second_reads, h.producedBy hproducer, hother⟩, Nat.le_refl j⟩
  · exact ⟨i, first, ⟨h.at_first, h.first_reads, hproducer, hdefinite, hfirst, hsame⟩,
      Nat.le_of_lt h.before⟩

/-- In a list that passes the check, both readers declare what a producer of definite type makes. -/
theorem inputType_eq (h : SharedData nodes i j first second)
    (hcheck : Topology.checkAdjacency none nodes = .ok ())
    (hproducer : Topology.ProducedBy (nodes.take i) producer)
    (hdefinite : producer.outputType ≠ .any) (hfirst : first.inputType ≠ .any)
    (hsecond : second.inputType ≠ .any) :
    first.inputType = producer.outputType ∧ second.inputType = producer.outputType := by
  have hnone := Topology.checkAdjacency_eq_ok_iff_no_mismatch.mp hcheck
  constructor
  · by_contra hne
    exact hnone i first producer
      ⟨h.at_first, h.first_reads, hproducer, hdefinite, hfirst, Ne.symm hne⟩
  · by_contra hne
    exact hnone j second producer
      ⟨h.at_second, h.second_reads, h.producedBy hproducer, hdefinite, hsecond, Ne.symm hne⟩

/-- The data in front of the second reader is what the first one accepted. -/
theorem type_of_data (h : SharedData nodes i j first second) {filter : LogFilter}
    {start : Checkpoint} {passed : List Passage} (hlinked : Linked filter nodes start passed)
    (hj : j ≤ passed.length) (hdefinite : first.inputType ≠ .any) :
    (checkpointAt start passed j).payload.data.type = first.inputType := by
  have hlt : i < passed.length := Nat.lt_of_lt_of_le h.before hj
  obtain ⟨p, hp⟩ : ∃ p, passed[i]? = some p := ⟨_, List.getElem?_eq_getElem hlt⟩
  have hnode : p.node = first := Option.some.inj ((hlinked.node i p hp).symm.trans h.at_first)
  have hdata := hlinked.data_between (Nat.le_of_lt h.before) hj h.passes
  have hbefore : p.before = checkpointAt start passed i := hlinked.before i p hp
  obtain ⟨hinput, -⟩ := Node.execute_eq_ok_iff.mp (hlinked.execute i p hp)
  have haccepts := Node.checkInput_eq_ok_iff.mp hinput (hnode ▸ h.first_reads)
  rw [hnode, hbefore, DataType.accepts, Bool.or_eq_true, beq_iff_eq, beq_iff_eq] at haccepts
  rw [hdata]
  exact (haccepts.resolve_left hdefinite).symm

/-- The second reader refuses what the first one accepted. -/
theorem refuses (h : SharedData nodes i j first second) {filter : LogFilter} {start : Checkpoint}
    {passed : List Passage} (hlinked : Linked filter nodes start passed) (hj : j ≤ passed.length)
    (hclash : first.inputType.Clash second.inputType) :
    second.execute filter (checkpointAt start passed j).payload
        (checkpointAt start passed j).origins =
      .error (.typeMismatch second.index second.name second.inputType first.inputType) := by
  obtain ⟨hfirst, hsecond, hne⟩ := hclash
  have htype := h.type_of_data hlinked hj hfirst
  have hrefused : second.inputType.accepts first.inputType = false := by
    simp [DataType.accepts, hsecond, Ne.symm hne]
  rw [← htype] at hrefused ⊢
  exact Node.execute_eq_error_iff.mpr (.input h.second_reads hrefused)

/-- A run stops at the second reader at the latest. -/
theorem length_le (h : SharedData nodes i j first second)
    (hclash : first.inputType.Clash second.inputType) {filter : LogFilter} {start : Checkpoint}
    {passed : List Passage} (hlinked : Linked filter nodes start passed) : passed.length ≤ j := by
  by_contra hgt
  have hj : j < passed.length := Nat.lt_of_not_le hgt
  obtain ⟨p, hp⟩ : ∃ p, passed[j]? = some p := ⟨_, List.getElem?_eq_getElem hj⟩
  have hnode : p.node = second :=
    Option.some.inj ((hlinked.node j p hp).symm.trans h.at_second)
  have hexecute := hlinked.execute j p hp
  rw [hnode, hlinked.before j p hp, ← checkpointAt,
    h.refuses hlinked (Nat.le_of_lt hj) hclash] at hexecute
  cases hexecute

/-- A run that gets to the second reader fails there by a mismatch, and none gets further. -/
theorem run_fails (h : SharedData nodes i j first second)
    (hclash : first.inputType.Clash second.inputType) (hindex : second.index = j)
    (filter : LogFilter) (watch : Stopwatch) (payload : Payload) :
    let run := Run.of filter watch nodes payload
    run.completed.length ≤ j ∧
      (run.completed.length = j → run.result =
        .error (.typeMismatch j second.name second.inputType first.inputType)) ∧
      ∀ final, run.result ≠ .ok final := by
  intro run
  let passed := passages filter nodes (.start payload)
  have hlinked : Linked filter nodes (.start payload) passed :=
    passages_linked filter nodes (.start payload)
  have hlength : run.completed.length = passed.length := by
    have hcompleted : run.completed = passed.map (·.record watch) :=
      (Run.ofNodes_eq filter watch nodes (.start payload)).1
    rw [hcompleted, List.length_map]
  have hle : passed.length ≤ j := h.length_le hclash hlinked
  rw [hlength]
  refine ⟨hle, fun hj => ?_, fun final hfinal => ?_⟩
  · have hlast : checkpointAt (.start payload) passed j = behind (.start payload) passed := by
      rw [← hj, checkpointAt_length]
    have hrefuses := h.refuses hlinked (Nat.le_of_eq hj.symm) hclash
    rw [hlast, hindex] at hrefuses
    exact Run.error_of_execute watch (hj ▸ h.at_second) hrefuses
  · have hshort : passed.length < nodes.length :=
      Nat.lt_of_le_of_lt hle (List.getElem?_eq_some_iff.mp h.at_second).1
    exact absurd (Run.completes_of_ok hfinal).1 (Nat.ne_of_lt hshort)

end SharedData

/-- Two readers of the same data that declare different definite types.  If the producer in front of
them declares a definite type, the list is refused for a mismatch at the second reader or earlier,
so that in a list that is not refused both declare the type of that producer.  A list that
is not refused has no run to the end, on any payload: it completes at most the nodes in front of the
second reader, and if it completes those, it fails there with a mismatch between the two types. -/
theorem Pipeline.clashing_readers_never_both_complete (registry : Registry)
    (configs : List NodeConfig) :
    (∀ nodes, Topology.Bound registry configs nodes → ∀ i j first second,
      SharedData nodes i j first second → first.inputType.Clash second.inputType →
      ∀ producer, Topology.ProducedBy (nodes.take i) producer → producer.outputType ≠ .any →
        ∃ t node other, Topology.FirstMismatch nodes t node other ∧ t ≤ j ∧
          Pipeline.new registry configs = .error (.typeMismatch other.index other.name t node.name
            node.inputType other.outputType)) ∧
    ∀ p, Pipeline.new registry configs = .ok p → ∀ i j first second,
      SharedData p.nodes i j first second →
      (∀ producer, Topology.ProducedBy (p.nodes.take i) producer → producer.outputType ≠ .any →
        first.inputType ≠ .any → second.inputType ≠ .any →
        first.inputType = producer.outputType ∧ second.inputType = producer.outputType) ∧
      (first.inputType.Clash second.inputType →
        ∀ (history : List ProcessCall) (call : ProcessCall),
        let run := ((p.processAll history).process call.filter call.watch call.payload).1
        run.completed.length ≤ j ∧
          (run.completed.length = j → run.result =
            .error (.typeMismatch j second.name second.inputType first.inputType)) ∧
          ∀ final, run.result ≠ .ok final) := by
  constructor
  · intro nodes hbound i j first second hshared hclash producer hproducer hdefinite
    obtain ⟨s, n, hmismatch, hs⟩ := hshared.exists_mismatch hproducer hdefinite hclash
    obtain ⟨t, node, other, hfirst⟩ := Topology.exists_firstMismatch hmismatch
    refine ⟨t, node, other, hfirst, Nat.le_trans (hfirst.first_node _ _ _ hmismatch) hs, ?_⟩
    rw [Pipeline.new_eq_error_iff, Topology.build_eq_error_iff_firstFault]
    exact .mismatch hbound hfirst
  · intro p hp i j first second hshared
    have hcheck := (Topology.build_eq_ok_iff.mp (Pipeline.nodes_of_new hp)).2.1
    refine ⟨fun producer => hshared.inputType_eq hcheck, fun hclash history call => ?_⟩
    have hindex : second.index = j :=
      Topology.build_index (Pipeline.nodes_of_new hp) hshared.at_second
    rw [p.process_processAll history call.filter call.watch call.payload]
    exact hshared.run_fails hclash hindex call.filter call.watch call.payload

/-- A text operation behind a float probe is refused if a float source stands in front of the two.
If not, it stops every run that gets to it. -/
theorem Pipeline.clashing_readers_never_both_complete_of_text :
    let sourced : List NodeConfig := [{ processor := "float_source" },
      { processor := "float_value_probe" }, { processor := "change_text_case" }]
    let unsourced : List NodeConfig := [{ processor := "float_value_probe" },
      { processor := "change_text_case" }]
    (∃ nodes first second producer, Topology.Bound .builtin sourced nodes ∧
      SharedData nodes 1 2 first second ∧ first.inputType.Clash second.inputType ∧
      Topology.ProducedBy (nodes.take 1) producer ∧ producer.outputType ≠ .any ∧
      ∃ e, Pipeline.new .builtin sourced = .error e) ∧
    ∃ p first second, Pipeline.new .builtin unsourced = .ok p ∧
      SharedData p.nodes 0 1 first second ∧ first.inputType.Clash second.inputType ∧
      ∀ payload final, (p.process .all .stopped payload).1.result ≠ .ok final := by
  intro sourced unsourced
  constructor
  · obtain ⟨source, first, second, hbind, houtput, hinputs, hflags⟩ :
        ∃ source first second, Topology.bindFrom .builtin 0 sourced = .ok [source, first, second] ∧
          source.outputType = .float ∧ (first.inputType, second.inputType) = (.float, .text) ∧
          (source.producesData, first.readsData, first.producesData, second.readsData) =
            (true, true, false, true) := ⟨_, _, _, rfl, rfl, rfl, rfl⟩
    obtain ⟨hfirst, hsecond⟩ := Prod.mk.inj hinputs
    simp only [Prod.mk.injEq] at hflags
    obtain ⟨hproduces, hreads, hpasses, hreads'⟩ := hflags
    have hbound := Topology.bound_iff.mp hbind
    have hshared : SharedData [source, first, second] 1 2 first second :=
      .of_adjacent rfl rfl hreads hreads' hpasses
    have hclash : first.inputType.Clash second.inputType := by
      rw [hfirst, hsecond]
      decide
    have hproducer : Topology.ProducedBy [source] source := ⟨[], [], rfl, hproduces, nofun⟩
    have hdefinite : source.outputType ≠ .any := by
      rw [houtput]
      decide
    obtain ⟨hrefused, -⟩ := Pipeline.clashing_readers_never_both_complete .builtin sourced
    obtain ⟨t, node, other, -, -, herror⟩ :=
      hrefused _ hbound 1 2 first second hshared hclash source hproducer hdefinite
    exact ⟨_, first, second, source, hbound, hshared, hclash, hproducer, hdefinite, _, herror⟩
  · obtain ⟨p, first, second, hp, hnodes, hinputs, hflags⟩ :
        ∃ p first second, Pipeline.new .builtin unsourced = .ok p ∧ p.nodes = [first, second] ∧
          (first.inputType, second.inputType) = (.float, .text) ∧
          (first.readsData, first.producesData, second.readsData) = (true, false, true) :=
      ⟨_, _, _, rfl, rfl, rfl, rfl⟩
    obtain ⟨hfirst, hsecond⟩ := Prod.mk.inj hinputs
    simp only [Prod.mk.injEq] at hflags
    obtain ⟨hreads, hpasses, hreads'⟩ := hflags
    have hshared : SharedData p.nodes 0 1 first second := by
      rw [hnodes]
      exact .of_adjacent rfl rfl hreads hreads' hpasses
    have hclash : first.inputType.Clash second.inputType := by
      rw [hfirst, hsecond]
      decide
    obtain ⟨-, hruns⟩ := Pipeline.clashing_readers_never_both_complete .builtin unsourced
    have hfails := (hruns p hp 0 1 first second hshared).2 hclash
    exact ⟨p, first, second, hp, hshared, hclash,
      fun payload => (hfails [] ⟨.all, .stopped, payload⟩).2.2⟩

/-- Two readers that disagree are not refused if there is no producer in front of them, and a run
need not get so far as to tell: here the first node fails for want of its key. -/
theorem Pipeline.clashing_readers_accepted :
    (∃ p first second, Pipeline.new .builtin
        [{ processor := "float_value_probe" }, { processor := "change_text_case" }] = .ok p ∧
      SharedData p.nodes 0 1 first second ∧
      first.inputType = .float ∧ second.inputType = .text) ∧
    ∃ p first second, Pipeline.new .builtin
        [{ processor := "rename:a:b" }, { processor := "float_value_probe" },
          { processor := "change_text_case" }] = .ok p ∧
      SharedData p.nodes 1 2 first second ∧
      first.inputType = .float ∧ second.inputType = .text ∧
      (p.process .all .stopped {}).1.result =
        .error (.processor 0 "rename:a:b" (.context (.missingKey "a"))) :=
  ⟨⟨_, _, _, rfl, .of_adjacent rfl rfl rfl rfl rfl, rfl, rfl⟩,
    ⟨_, _, _, rfl, .of_adjacent rfl rfl rfl rfl rfl, rfl, rfl, rfl⟩⟩

end Dataflow
