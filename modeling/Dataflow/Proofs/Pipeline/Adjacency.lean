/-
The type check rejects exactly the lists with a mismatch, and names the first.

The check goes over the nodes once and remembers the most recent producer.  `ProducedBy` says
without that memory which producer made the data in front of a node, and a `Mismatch` is a
node that reads data and the producer of it with definite types that differ.  Nodes that pass the
data through are no part of this, so leaving them out changes no mismatch
(`exists_mismatch_filter_iff`).
-/
import Dataflow.Proofs.Pipeline.Typing

namespace Dataflow

namespace DataType

/-- Data of the one type is never accepted where the other is declared. -/
def Clash (output input : DataType) : Prop := output ≠ .any ∧ input ≠ .any ∧ output ≠ input

instance (output input : DataType) : Decidable (output.Clash input) :=
  inferInstanceAs (Decidable (_ ∧ _ ∧ _))

theorem compatibleWith_eq_false_iff {output input : DataType} :
    output.compatibleWith input = false ↔ output.Clash input := by
  simp only [compatibleWith, Clash, Bool.or_eq_false_iff, beq_eq_false_iff_ne, and_assoc]
  exact and_left_comm

end DataType

/-- Who produces data is a matter of the kind. -/
theorem Node.producesData_eq_false_iff {node : Node} :
    node.producesData = false ↔ node.processor.kind ∈
      [ProcessorKind.dataProbe, .contextProcessor, .dataSink, .payloadSink] := by
  unfold producesData Processor.producesData
  cases node.processor.kind <;> decide

namespace Topology

/-- The last of the nodes that replaces the data. -/
def ProducedBy (nodes : List Node) (producer : Node) : Prop :=
  ∃ earlier later, nodes = earlier ++ producer :: later ∧ producer.producesData = true ∧
    ∀ node ∈ later, node.producesData = false

/-- The node at position `t` reads data, and what it declares to read is not what the most recent
producer in front of it declares to make. -/
structure Mismatch (nodes : List Node) (t : Nat) (node producer : Node) : Prop where
  at_position : nodes[t]? = some node
  reads : node.readsData = true
  produced : ProducedBy (nodes.take t) producer
  clash : producer.outputType.Clash node.inputType

/-- The mismatch of the first node that has one. -/
structure FirstMismatch (nodes : List Node) (t : Nat) (node producer : Node) : Prop
    extends Mismatch nodes t node producer where
  first_node : ∀ s n p, Mismatch nodes s n p → t ≤ s

variable {nodes : List Node} {node producer : Node} {t : Nat}

/-! ## The most recent producer -/

theorem producedBy_concat_iff :
    ProducedBy (nodes ++ [node]) producer ↔
      if node.producesData then node = producer else ProducedBy nodes producer := by
  have hconcat : ProducedBy (nodes ++ [node]) producer ↔
      node = producer ∧ producer.producesData = true ∨
        node.producesData = false ∧ ProducedBy nodes producer :=
    exists_last_concat_iff (P := fun n : Node => n.producesData = true)
      (Q := fun n : Node => n.producesData = false)
  rw [hconcat]
  constructor
  · rintro (⟨rfl, hproduces⟩ | ⟨hpasses, h⟩)
    · rw [if_pos hproduces]
    · rwa [if_neg (by simp [hpasses])]
  · intro h
    split at h
    · rename_i hproduces
      exact .inl ⟨h, h ▸ hproduces⟩
    · rename_i hpasses
      exact .inr ⟨by simpa using hpasses, h⟩

theorem lastProducer?_eq_some_iff :
    lastProducer? none nodes = some producer ↔ ProducedBy nodes producer := by
  induction nodes using List.reverseRecOn with
  | nil =>
    constructor
    · intro h
      cases h
    · rintro ⟨earlier, later, hsplit, -⟩
      simp at hsplit
  | append_singleton nodes node ih =>
    rw [lastProducer?_concat, producedBy_concat_iff, ← ih]
    split
    · exact Option.some_inj
    · rfl

theorem ProducedBy.unique {other : Node} (h : ProducedBy nodes producer)
    (hother : ProducedBy nodes other) : producer = other :=
  Option.some.inj
    ((lastProducer?_eq_some_iff.mpr h).symm.trans (lastProducer?_eq_some_iff.mpr hother))

/-- Nodes that pass the data through have no part in who produced it. -/
theorem producedBy_filter_iff {keep : Node → Bool}
    (hkeep : ∀ node, node.producesData = true → keep node = true) :
    ProducedBy (nodes.filter keep) producer ↔ ProducedBy nodes producer := by
  induction nodes using List.reverseRecOn with
  | nil => rfl
  | append_singleton nodes node ih =>
    rw [List.filter_append, producedBy_concat_iff]
    cases hnode : keep node with
    | true =>
      rw [List.filter_cons_of_pos hnode, List.filter_nil, producedBy_concat_iff, ih]
    | false =>
      have hpasses : ¬ node.producesData = true := fun h => by simp [hkeep node h] at hnode
      rw [List.filter_cons_of_neg (by simp [hnode]), List.filter_nil, List.append_nil,
        if_neg hpasses, ih]

/-! ## Mismatches -/

theorem mismatch_take_iff {s : Nat} :
    Mismatch (nodes.take t) s node producer ↔ s < t ∧ Mismatch nodes s node producer := by
  constructor
  · rintro ⟨hnode, hreads, hproduced, hclash⟩
    rw [List.getElem?_take, Option.ite_none_right_eq_some] at hnode
    obtain ⟨hs, hnode⟩ := hnode
    rw [List.take_take, Nat.min_eq_left (Nat.le_of_lt hs)] at hproduced
    exact ⟨hs, hnode, hreads, hproduced, hclash⟩
  · rintro ⟨hs, hnode, hreads, hproduced, hclash⟩
    refine ⟨by rwa [List.getElem?_take_of_lt hs], hreads, ?_, hclash⟩
    rwa [List.take_take, Nat.min_eq_left (Nat.le_of_lt hs)]

/-- A mismatch without the position. -/
theorem exists_mismatch_iff :
    (∃ t, Mismatch nodes t node producer) ↔
      node.readsData = true ∧ producer.outputType.Clash node.inputType ∧
        ∃ before after, nodes = before ++ node :: after ∧ ProducedBy before producer := by
  constructor
  · rintro ⟨t, hnode, hreads, hproduced, hclash⟩
    obtain ⟨ht, hget⟩ := List.getElem?_eq_some_iff.mp hnode
    refine ⟨hreads, hclash, nodes.take t, nodes.drop (t + 1), ?_, hproduced⟩
    rw [← hget, List.getElem_cons_drop, List.take_append_drop]
  · rintro ⟨hreads, hclash, before, after, rfl, hproduced⟩
    refine ⟨before.length, ?_, hreads, ?_, hclash⟩
    · rw [List.getElem?_append_right (Nat.le_refl _), Nat.sub_self]
      rfl
    · rwa [List.take_left]

/-- Of what stands behind a producer and produces no data, nothing has influence on a mismatch with
that producer. -/
theorem mismatch_behind_iff {before between after : List Node} {other : Node}
    (hproducer : producer.producesData = true)
    (hbetween : ∀ n ∈ between, n.producesData = false) :
    Mismatch (before ++ producer :: between ++ node :: after)
        (before.length + 1 + between.length) node other ↔
      other = producer ∧ node.readsData = true ∧ producer.outputType.Clash node.inputType := by
  have hlength : before.length + 1 + between.length = (before ++ producer :: between).length := by
    rw [List.length_append, List.length_cons]
    omega
  have hproduced : ProducedBy (before ++ producer :: between) producer :=
    ⟨before, between, rfl, hproducer, hbetween⟩
  rw [hlength]
  constructor
  · rintro ⟨-, hreads, hother, hclash⟩
    rw [List.take_left] at hother
    cases hother.unique hproduced
    exact ⟨rfl, hreads, hclash⟩
  · rintro ⟨rfl, hreads, hclash⟩
    refine ⟨?_, hreads, ?_, hclash⟩
    · rw [List.getElem?_append_right (Nat.le_refl _), Nat.sub_self]
      rfl
    · rwa [List.take_left]

/-- Leaving out nodes that pass the data through changes no mismatch of a node that stays. -/
theorem exists_mismatch_filter_iff {keep : Node → Bool}
    (hkeep : ∀ node, node.producesData = true → keep node = true) :
    (∃ t, Mismatch (nodes.filter keep) t node producer) ↔
      keep node = true ∧ ∃ t, Mismatch nodes t node producer := by
  rw [exists_mismatch_iff, exists_mismatch_iff]
  constructor
  · rintro ⟨hreads, hclash, before, after, hsplit, hproduced⟩
    obtain ⟨first, last, rfl, rfl, hlast⟩ := List.filter_eq_append_iff.mp hsplit
    obtain ⟨skipped, rest, rfl, hskipped, hnode, rfl⟩ := List.filter_eq_cons_iff.mp hlast
    have hnone : skipped.filter keep = [] := List.filter_eq_nil_iff.mpr hskipped
    refine ⟨hnode, hreads, hclash, first ++ skipped, rest, by simp, ?_⟩
    rwa [← producedBy_filter_iff hkeep, List.filter_append, hnone, List.append_nil]
  · rintro ⟨hnode, hreads, hclash, before, after, rfl, hproduced⟩
    refine ⟨hreads, hclash, before.filter keep, after.filter keep, ?_, ?_⟩
    · rw [List.filter_append, List.filter_cons_of_pos hnode]
    · exact (producedBy_filter_iff hkeep).mpr hproduced

/-! ## The check -/

theorem checkPair_eq_error_iff {e : TopologyError} :
    checkPair producer node = .error e ↔ producer.outputType.Clash node.inputType ∧
      e = .typeMismatch producer.index producer.name node.index node.name node.inputType
        producer.outputType := by
  rw [← DataType.compatibleWith_eq_false_iff]
  unfold checkPair
  split
  · rename_i hcompatible
    simp [hcompatible]
  · rename_i hclash
    simp [hclash, eq_comm]

theorem checkAdjacency_cons_eq_error_iff {producer? : Option Node} {rest : List Node}
    {e : TopologyError} :
    checkAdjacency producer? (node :: rest) = .error e ↔
      (node.readsData = true ∧ ∃ producer, producer? = some producer ∧
        checkPair producer node = .error e) ∨
      (node.readsData = true → ∀ producer, producer? = some producer →
        producer.outputType.compatibleWith node.inputType = true) ∧
        checkAdjacency (if node.producesData then some node else producer?) rest = .error e := by
  cases producer? with
  | none =>
    rw [checkAdjacency]
    split <;> simp [Except.bind_eq_error_iff]
  | some producer =>
    rw [checkAdjacency]
    split
    · rename_i hreads
      cases hpair : producer.outputType.compatibleWith node.inputType with
      | true => simp [checkPair, hpair, Except.bind_eq_error_iff]
      | false => simp [checkPair, hpair, hreads, Except.bind_eq_error_iff]
    · rename_i hskips
      simp [hskips]

/-- The check stops at the first node that may not stand behind the most recent producer, whatever
follows it. -/
theorem checkAdjacency_eq_error_iff_take {producer? : Option Node} {e : TopologyError} :
    checkAdjacency producer? nodes = .error e ↔ ∃ t node producer, nodes[t]? = some node ∧
      checkAdjacency producer? (nodes.take t) = .ok () ∧ node.readsData = true ∧
      lastProducer? producer? (nodes.take t) = some producer ∧
      checkPair producer node = .error e := by
  induction nodes generalizing producer? with
  | nil =>
    constructor
    · intro h
      cases h
    · rintro ⟨t, node, producer, hnode, -⟩
      simp at hnode
  | cons head rest ih =>
    rw [checkAdjacency_cons_eq_error_iff, ih]
    constructor
    · rintro (⟨hreads, producer, hproducer, hpair⟩ |
        ⟨hhead, t, node, producer, hnode, hok, hreads, hproducer, hpair⟩)
      · exact ⟨0, head, producer, rfl, rfl, hreads, hproducer, hpair⟩
      · refine ⟨t + 1, node, producer, hnode, ?_, hreads, hproducer, hpair⟩
        exact checkAdjacency_cons.mpr ⟨hhead, hok⟩
    · rintro ⟨t, node, producer, hnode, hok, hreads, hproducer, hpair⟩
      cases t with
      | zero =>
        cases hnode
        exact .inl ⟨hreads, producer, hproducer, hpair⟩
      | succ t =>
        obtain ⟨hhead, hok⟩ := checkAdjacency_cons.mp hok
        exact .inr ⟨hhead, t, node, producer, hnode, hok, hreads, hproducer, hpair⟩

theorem checkAdjacency_eq_ok_iff_no_mismatch :
    checkAdjacency none nodes = .ok () ↔ ∀ t node producer, ¬ Mismatch nodes t node producer := by
  rw [checkAdjacency_eq_ok_iff]
  constructor
  · rintro h t node producer ⟨hnode, hreads, hproduced, hclash⟩
    have hcompatible := h t node hnode hreads producer (lastProducer?_eq_some_iff.mpr hproduced)
    rw [← DataType.compatibleWith_eq_false_iff, hcompatible] at hclash
    cases hclash
  · intro h t node hnode hreads producer hproducer
    by_contra hclash
    rw [Bool.not_eq_true, DataType.compatibleWith_eq_false_iff] at hclash
    exact h t node producer ⟨hnode, hreads, lastProducer?_eq_some_iff.mp hproducer, hclash⟩

theorem checkAdjacency_eq_error_iff {e : TopologyError} :
    checkAdjacency none nodes = .error e ↔ ∃ t node producer,
      FirstMismatch nodes t node producer ∧
        e = .typeMismatch producer.index producer.name node.index node.name node.inputType
          producer.outputType := by
  refine checkAdjacency_eq_error_iff_take.trans (exists₃_congr fun t node producer => ?_)
  rw [checkAdjacency_eq_ok_iff_no_mismatch, lastProducer?_eq_some_iff, checkPair_eq_error_iff]
  constructor
  · rintro ⟨hnode, hpasses, hreads, hproduced, hclash, he⟩
    refine ⟨⟨⟨hnode, hreads, hproduced, hclash⟩, fun s n p hmismatch => ?_⟩, he⟩
    by_contra hs
    exact hpasses s n p (mismatch_take_iff.mpr ⟨Nat.lt_of_not_le hs, hmismatch⟩)
  · rintro ⟨⟨⟨hnode, hreads, hproduced, hclash⟩, hfirst⟩, he⟩
    refine ⟨hnode, fun s n p hmismatch => ?_, hreads, hproduced, hclash, he⟩
    obtain ⟨hs, hmismatch⟩ := mismatch_take_iff.mp hmismatch
    exact Nat.not_le_of_lt hs (hfirst s n p hmismatch)

theorem exists_firstMismatch (h : Mismatch nodes t node producer) :
    ∃ s n p, FirstMismatch nodes s n p := by
  cases hcheck : checkAdjacency none nodes with
  | ok u => exact absurd h (checkAdjacency_eq_ok_iff_no_mismatch.mp hcheck t node producer)
  | error e =>
    obtain ⟨s, n, p, hfirst, -⟩ := checkAdjacency_eq_error_iff.mp hcheck
    exact ⟨s, n, p, hfirst⟩

theorem index_of_mismatch {registry : Registry} {configs : List NodeConfig}
    (hbound : bindFrom registry 0 configs = .ok nodes) (h : Mismatch nodes t node producer) :
    node.index = t ∧ producer.index < t ∧ nodes[producer.index]? = some producer := by
  obtain ⟨hnode, -, ⟨earlier, later, hsplit, -⟩, -⟩ := h
  have hmem : producer ∈ nodes.take t := hsplit ▸ by simp
  exact ⟨by simpa using bindFrom_index hbound t node hnode, index_of_mem_take hbound hmem⟩

end Topology
end Dataflow
