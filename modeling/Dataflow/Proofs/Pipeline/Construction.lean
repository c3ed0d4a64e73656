/-
Which error a list of configurations is refused with.

Three passes go over a list, and each stops where it first finds a fault.  Binding stops at a
configuration that cannot be bound, for one of three reasons (`Unbindable`); the type check and the
deletion guard only see lists that were bound as a whole (`Bound`).  `FirstFault` puts the three
together, without the passes, and construction fails with exactly the fault that it tells.
-/
import Dataflow.Proofs.Pipeline.Adjacency
import Dataflow.Proofs.Pipeline.Deletion
import Dataflow.Proofs.Text.ByteOrder

namespace Dataflow

/-! ## Least keys -/

theorem KeyMap.pairwise_keys {α : Type} (m : KeyMap α) : m.keys.Pairwise (· < ·) :=
  List.pairwise_map.mpr m.sorted

/-- A search through the keys finds the least. -/
theorem KeyMap.find?_keys_eq_some_iff {α : Type} {m : KeyMap α} {p : String → Bool}
    {key : String} :
    m.keys.find? p = some key ↔
      (m.contains key = true ∧ p key = true) ∧
        ∀ other, m.contains other = true → p other = true → key ≤ other := by
  have hleast : ∀ {found : String}, m.keys.find? p = some found →
      ∀ other, m.contains other = true → p other = true → found ≤ other := by
    intro found hfound other hother hp
    obtain ⟨-, before, after, hkeys, hbefore⟩ := List.find?_eq_some_iff_append.mp hfound
    have hsorted := m.pairwise_keys
    have hmem := m.mem_keys_iff.mpr hother
    rw [hkeys] at hsorted hmem
    rcases List.mem_append.mp hmem with hmem | hmem
    · have hnot : p other = false := by simpa using hbefore other hmem
      cases hp.symm.trans hnot
    · rcases List.mem_cons.mp hmem with rfl | hmem
      · exact String.le_refl _
      · have hlt := (List.pairwise_cons.mp (List.pairwise_append.mp hsorted).2.1).1 other hmem
        exact String.not_lt.mp (String.lt_asymm hlt)
  constructor
  · intro h
    exact ⟨⟨m.mem_keys_iff.mp (List.mem_of_find?_eq_some h), List.find?_some h⟩, hleast h⟩
  · rintro ⟨⟨hkey, hp⟩, hbelow⟩
    cases hfound : m.keys.find? p with
    | none => exact absurd hp (List.find?_eq_none.mp hfound key (m.mem_keys_iff.mpr hkey))
    | some found =>
      have hmem := m.mem_keys_iff.mp (List.mem_of_find?_eq_some hfound)
      have hfirst : found ≤ key := hleast hfound key hkey hp
      have hlast : key ≤ found := hbelow found hmem (List.find?_some hfound)
      rw [String.le_antisymm hfirst hlast]

namespace Node

/-- The configuration sets a parameter that the processor does not declare. -/
def Undeclared (config : NodeConfig) (processor : Processor) (name : String) : Prop :=
  config.parameters.contains name = true ∧ ∀ spec ∈ processor.parameters, spec.name ≠ name

/-- The first of the undeclared parameters in the order of their bytes. -/
structure LeastUndeclared (config : NodeConfig) (processor : Processor) (name : String) :
    Prop where
  undeclared : Undeclared config processor name
  least : ∀ other, Undeclared config processor other → Text.bytes name ≤ Text.bytes other

variable {config : NodeConfig} {processor : Processor} {name : String}

theorem undeclared?_eq_some_iff :
    undeclared? config processor = some name ↔ LeastUndeclared config processor name := by
  have hundeclared : ∀ key : String,
      processor.parameters.all (fun spec => decide (spec.name ≠ key)) = true ↔
        ∀ spec ∈ processor.parameters, spec.name ≠ key := by simp
  rw [undeclared?, KeyMap.find?_keys_eq_some_iff]
  simp only [hundeclared, ← Text.bytes_le_iff]
  constructor
  · rintro ⟨hname, hleast⟩
    exact ⟨hname, fun other hother => hleast other hother.1 hother.2⟩
  · rintro ⟨hname, hleast⟩
    exact ⟨hname, fun other hset hother => hleast other ⟨hset, hother⟩⟩

theorem undeclared?_eq_none_iff :
    undeclared? config processor = none ↔ ∀ name, ¬ Undeclared config processor name := by
  simp [undeclared?, Undeclared, KeyMap.mem_keys_iff]

theorem bind_eq_error_iff {index : Nat} {e : TopologyError} :
    Node.bind index config processor = .error e ↔
      (config.contextKeyword?.isSome ∧ processor.kind ≠ .dataProbe) ∧
          e = .contextKeywordOnNonProbe index processor.name ∨
      ¬ (config.contextKeyword?.isSome ∧ processor.kind ≠ .dataProbe) ∧
        ∃ name, LeastUndeclared config processor name ∧
          e = .unknownParameter index processor.name name := by
  simp only [← undeclared?_eq_some_iff]
  unfold Node.bind
  split
  · rename_i hkeyword
    constructor
    · intro h
      cases h
      exact .inl ⟨hkeyword, rfl⟩
    · rintro (⟨-, rfl⟩ | ⟨hnot, -⟩)
      · rfl
      · exact absurd hkeyword hnot
  · rename_i hkeyword
    cases undeclared? config processor with
    | none => simp [hkeyword]
    | some found =>
      constructor
      · intro h
        cases h
        exact .inr ⟨hkeyword, found, rfl, rfl⟩
      · rintro (⟨hnot, -⟩ | ⟨-, name, hname, rfl⟩)
        · exact absurd hnot hkeyword
        · cases hname
          rfl

end Node

theorem Pipeline.new_eq_error_iff {registry : Registry} {configs : List NodeConfig}
    {e : TopologyError} :
    Pipeline.new registry configs = .error e ↔ Topology.build registry configs = .error e := by
  unfold Pipeline.new
  cases Topology.build registry configs <;> simp [Except.map]

namespace Topology

/-! ## Binding -/

/-- Why a configuration cannot be bound at a position.  A later reason only counts if there is no
earlier one. -/
inductive Unbindable (registry : Registry) (index : Nat) (config : NodeConfig) :
    TopologyError → Prop
  | reference {e : ReferenceError} (hresolve : registry.resolve config.processor = .error e) :
      Unbindable registry index config (ofReferenceError index e)
  | keyword {processor : Processor} (hresolve : registry.resolve config.processor = .ok processor)
      (hkeyword : config.contextKeyword?.isSome) (hkind : processor.kind ≠ .dataProbe) :
      Unbindable registry index config (.contextKeywordOnNonProbe index processor.name)
  | parameter {processor : Processor} {name : String}
      (hresolve : registry.resolve config.processor = .ok processor)
      (hkeyword : ¬ (config.contextKeyword?.isSome ∧ processor.kind ≠ .dataProbe))
      (hname : Node.LeastUndeclared config processor name) :
      Unbindable registry index config (.unknownParameter index processor.name name)

/-- The first configuration of a list that cannot be bound. -/
structure FirstUnbindable (registry : Registry) (configs : List NodeConfig) (t : Nat)
    (e : TopologyError) : Prop where
  unbindable : ∃ config, configs[t]? = some config ∧ Unbindable registry t config e
  first : ∀ s config e', configs[s]? = some config → Unbindable registry s config e' → t ≤ s

/-- The nodes of configurations that can all be bound, each at its position. -/
structure Bound (registry : Registry) (configs : List NodeConfig) (nodes : List Node) : Prop where
  length : nodes.length = configs.length
  node : ∀ (t : Nat) (config : NodeConfig), configs[t]? = some config → ∃ processor,
    registry.resolve config.processor = .ok processor ∧ nodes[t]? = some ⟨t, config, processor⟩
  bindable : ∀ t config, configs[t]? = some config → ∀ e, ¬ Unbindable registry t config e

variable {registry : Registry} {configs : List NodeConfig} {nodes : List Node}
  {e : TopologyError}

theorem bindNode_eq_error_iff {index : Nat} {config : NodeConfig} :
    bindNode registry index config = .error e ↔ Unbindable registry index config e := by
  rw [bindNode, Except.bind_eq_error_iff]
  simp only [Except.mapError_eq_error_iff, Except.mapError_eq_ok_iff, Node.bind_eq_error_iff]
  constructor
  · rintro (⟨cause, hresolve, rfl⟩ |
      ⟨processor, hresolve, ⟨⟨hkeyword, hkind⟩, rfl⟩ | ⟨hkeyword, name, hname, rfl⟩⟩)
    · exact .reference hresolve
    · exact .keyword hresolve hkeyword hkind
    · exact .parameter hresolve hkeyword hname
  · intro h
    cases h with
    | reference hresolve => exact .inl ⟨_, hresolve, rfl⟩
    | keyword hresolve hkeyword hkind =>
      exact .inr ⟨_, hresolve, .inl ⟨⟨hkeyword, hkind⟩, rfl⟩⟩
    | parameter hresolve hkeyword hname =>
      exact .inr ⟨_, hresolve, .inr ⟨hkeyword, _, hname, rfl⟩⟩

/-- Binding stops at the first configuration that cannot be bound, whatever follows it. -/
theorem bindFrom_eq_error_iff {first : Nat} :
    bindFrom registry first configs = .error e ↔ ∃ t config, configs[t]? = some config ∧
      bindNode registry (first + t) config = .error e ∧
      ∃ nodes, bindFrom registry first (configs.take t) = .ok nodes := by
  induction configs generalizing first with
  | nil =>
    constructor
    · intro h
      cases h
    · rintro ⟨t, config, hconfig, -⟩
      simp at hconfig
  | cons head rest ih =>
    have hcons : bindFrom registry first (head :: rest) = .error e ↔
        bindNode registry first head = .error e ∨
          ∃ node, bindNode registry first head = .ok node ∧
            bindFrom registry (first + 1) rest = .error e := by
      simp only [bindFrom, Except.bind_eq_error_iff]
      simp [pure, Except.pure]
    rw [hcons, ih]
    constructor
    · rintro (hhead | ⟨node, hhead, t, config, hconfig, hbind, nodes, hnodes⟩)
      · exact ⟨0, head, rfl, hhead, [], rfl⟩
      · refine ⟨t + 1, config, hconfig, ?_, node :: nodes, ?_⟩
        · rwa [Nat.add_right_comm] at hbind
        · exact bindFrom_cons_eq_ok_iff.mpr ⟨node, nodes, hhead, hnodes, rfl⟩
    · rintro ⟨t, config, hconfig, hbind, nodes, hnodes⟩
      cases t with
      | zero =>
        cases hconfig
        exact .inl hbind
      | succ t =>
        obtain ⟨node, tail, hhead, htail, -⟩ := bindFrom_cons_eq_ok_iff.mp hnodes
        refine .inr ⟨node, hhead, t, config, hconfig, ?_, tail, htail⟩
        rwa [Nat.add_right_comm]

theorem bindFrom_eq_ok_iff {first : Nat} :
    bindFrom registry first configs = .ok nodes ↔ nodes.length = configs.length ∧
      ∀ t config, configs[t]? = some config → ∃ node,
        bindNode registry (first + t) config = .ok node ∧ nodes[t]? = some node := by
  induction configs generalizing first nodes with
  | nil =>
    constructor
    · intro h
      cases h
      exact ⟨rfl, nofun⟩
    · rintro ⟨hlength, -⟩
      rw [List.eq_nil_of_length_eq_zero hlength]
      rfl
  | cons head rest ih =>
    rw [bindFrom_cons_eq_ok_iff]
    constructor
    · rintro ⟨node, tail, hhead, htail, rfl⟩
      obtain ⟨hlength, hrest⟩ := ih.mp htail
      refine ⟨congrArg (· + 1) hlength, fun t config hconfig => ?_⟩
      cases t with
      | zero =>
        cases hconfig
        exact ⟨node, hhead, rfl⟩
      | succ t =>
        obtain ⟨n, hbind, hn⟩ := hrest t config hconfig
        exact ⟨n, by rwa [Nat.add_right_comm] at hbind, hn⟩
    · rintro ⟨hlength, hnodes⟩
      obtain ⟨node, hhead, hnode⟩ := hnodes 0 head rfl
      cases nodes with
      | nil => cases hnode
      | cons n tail =>
        cases hnode
        refine ⟨node, tail, hhead, ih.mpr ⟨Nat.succ.inj hlength, fun t config hconfig => ?_⟩, rfl⟩
        obtain ⟨m, hbind, hm⟩ := hnodes (t + 1) config hconfig
        exact ⟨m, by rwa [Nat.add_right_comm], hm⟩

theorem unbindable_iff {index : Nat} {config : NodeConfig} :
    (∀ e, ¬ Unbindable registry index config e) ↔
      ∃ node, bindNode registry index config = .ok node := by
  simp only [← bindNode_eq_error_iff]
  cases bindNode registry index config <;> simp

theorem bound_iff : bindFrom registry 0 configs = .ok nodes ↔ Bound registry configs nodes := by
  rw [bindFrom_eq_ok_iff]
  simp only [Nat.zero_add]
  constructor
  · rintro ⟨hlength, hnodes⟩
    refine ⟨hlength, fun t config hconfig => ?_, fun t config hconfig => ?_⟩
    · obtain ⟨node, hbind, hnode⟩ := hnodes t config hconfig
      obtain ⟨processor, hresolve, -, -, rfl⟩ := bindNode_eq_ok_iff.mp hbind
      exact ⟨processor, hresolve, hnode⟩
    · obtain ⟨node, hbind, -⟩ := hnodes t config hconfig
      exact unbindable_iff.mpr ⟨node, hbind⟩
  · rintro ⟨hlength, hnode, hbindable⟩
    refine ⟨hlength, fun t config hconfig => ?_⟩
    obtain ⟨node, hbind⟩ := unbindable_iff.mp (hbindable t config hconfig)
    obtain ⟨processor, hresolve, -, -, rfl⟩ := bindNode_eq_ok_iff.mp hbind
    obtain ⟨processor', hresolve', hposition⟩ := hnode t config hconfig
    cases hresolve.symm.trans hresolve'
    exact ⟨_, hbind, hposition⟩

theorem exists_bound_iff :
    (∃ nodes, Bound registry configs nodes) ↔
      ∀ t config, configs[t]? = some config → ∀ e, ¬ Unbindable registry t config e := by
  constructor
  · rintro ⟨nodes, hbound⟩
    exact hbound.bindable
  · intro hbindable
    cases hbind : bindFrom registry 0 configs with
    | ok nodes => exact ⟨nodes, bound_iff.mp hbind⟩
    | error e =>
      obtain ⟨t, config, hconfig, hfault, -⟩ := bindFrom_eq_error_iff.mp hbind
      rw [Nat.zero_add, bindNode_eq_error_iff] at hfault
      exact absurd hfault (hbindable t config hconfig e)

theorem firstUnbindable_iff :
    bindFrom registry 0 configs = .error e ↔ ∃ t, FirstUnbindable registry configs t e := by
  rw [bindFrom_eq_error_iff]
  refine exists_congr fun t => ?_
  simp only [Nat.zero_add, bindNode_eq_error_iff, bound_iff, exists_bound_iff]
  constructor
  · rintro ⟨config, hconfig, hfault, hbefore⟩
    refine ⟨⟨config, hconfig, hfault⟩, fun s c e' hc hfault' => ?_⟩
    by_contra hs
    have hc' : (configs.take t)[s]? = some c := by
      rwa [List.getElem?_take_of_lt (Nat.lt_of_not_le hs)]
    exact hbefore s c hc' e' hfault'
  · rintro ⟨⟨config, hconfig, hfault⟩, hfirst⟩
    refine ⟨config, hconfig, hfault, fun s c hc e' hfault' => ?_⟩
    rw [List.getElem?_take, Option.ite_none_right_eq_some] at hc
    exact Nat.not_le_of_lt hc.1 (hfirst s c e' hc.2 hfault')

/-! ## All passes -/

/-- The error that a list of configurations is refused with.  A mismatch only counts if every
configuration can be bound, and a deleted key only if there is no mismatch. -/
inductive FirstFault (registry : Registry) (configs : List NodeConfig) : TopologyError → Prop
  | binding {t : Nat} {e : TopologyError} (hfirst : FirstUnbindable registry configs t e) :
      FirstFault registry configs e
  | mismatch {nodes : List Node} {t : Nat} {node producer : Node}
      (hbound : Bound registry configs nodes) (hfirst : FirstMismatch nodes t node producer) :
      FirstFault registry configs (.typeMismatch producer.index producer.name t node.name
        node.inputType producer.outputType)
  | deletion {nodes : List Node} {t : Nat} {node deleter : Node} {key : String}
      (hbound : Bound registry configs nodes) (hmatch : ∀ t n p, ¬ Mismatch nodes t n p)
      (hfirst : FirstOffence nodes t node key deleter) :
      FirstFault registry configs (.deletedKeyRequired t node.name key deleter.index deleter.name)

theorem build_eq_error_iff :
    build registry configs = .error e ↔ bindFrom registry 0 configs = .error e ∨
      ∃ nodes, bindFrom registry 0 configs = .ok nodes ∧
        (checkAdjacency none nodes = .error e ∨
          checkAdjacency none nodes = .ok () ∧ checkDeletedKeys nodes = .error e) := by
  simp only [build, Except.bind_eq_error_iff]
  constructor
  · rintro (hbind | ⟨nodes, hbind, hadjacency | ⟨⟨⟩, hadjacency, hdeleted | ⟨-, -, h⟩⟩⟩)
    · exact .inl hbind
    · exact .inr ⟨nodes, hbind, .inl hadjacency⟩
    · exact .inr ⟨nodes, hbind, .inr ⟨hadjacency, hdeleted⟩⟩
    · cases h
  · rintro (hbind | ⟨nodes, hbind, hadjacency | ⟨hadjacency, hdeleted⟩⟩)
    · exact .inl hbind
    · exact .inr ⟨nodes, hbind, .inl hadjacency⟩
    · exact .inr ⟨nodes, hbind, .inr ⟨(), hadjacency, .inl hdeleted⟩⟩

theorem build_eq_error_iff_firstFault :
    build registry configs = .error e ↔ FirstFault registry configs e := by
  rw [build_eq_error_iff, firstUnbindable_iff]
  simp only [checkAdjacency_eq_error_iff, checkAdjacency_eq_ok_iff_no_mismatch,
    checkDeletedKeys_eq_error_iff]
  constructor
  · rintro (⟨t, hfirst⟩ | ⟨nodes, hbind, ⟨t, node, producer, hfirst, rfl⟩ |
      ⟨hmatch, t, node, key, deleter, hfirst, rfl⟩⟩)
    · exact .binding hfirst
    · rw [(index_of_mismatch hbind hfirst.toMismatch).1]
      exact .mismatch (bound_iff.mp hbind) hfirst
    · rw [(index_of_offence hbind hfirst.toOffence).1]
      exact .deletion (bound_iff.mp hbind) hmatch hfirst
  · intro h
    cases h with
    | binding hfirst => exact .inl ⟨_, hfirst⟩
    | mismatch hbound hfirst =>
      have hbind := bound_iff.mpr hbound
      have hindex := (index_of_mismatch hbind hfirst.toMismatch).1
      exact .inr ⟨_, hbind, .inl ⟨_, _, _, hfirst, by rw [hindex]⟩⟩
    | deletion hbound hmatch hfirst =>
      have hbind := bound_iff.mpr hbound
      have hindex := (index_of_offence hbind hfirst.toOffence).1
      exact .inr ⟨_, hbind, .inr ⟨hmatch, _, _, _, _, hfirst, by rw [hindex]⟩⟩

/-- A list is refused if and only if there is something to refuse it for. -/
theorem exists_build_error_iff :
    (∃ e, build registry configs = .error e) ↔
      (∃ t config e, configs[t]? = some config ∧ Unbindable registry t config e) ∨
      ∃ nodes, Bound registry configs nodes ∧
        ((∃ t node producer, Mismatch nodes t node producer) ∨
          ∃ t node key deleter, Offence nodes t node key deleter) := by
  constructor
  · rintro ⟨e, he⟩
    cases build_eq_error_iff_firstFault.mp he with
    | binding hfirst =>
      obtain ⟨config, hconfig, hfault⟩ := hfirst.unbindable
      exact .inl ⟨_, config, _, hconfig, hfault⟩
    | mismatch hbound hfirst => exact .inr ⟨_, hbound, .inl ⟨_, _, _, hfirst.toMismatch⟩⟩
    | deletion hbound hmatch hfirst =>
      exact .inr ⟨_, hbound, .inr ⟨_, _, _, _, hfirst.toOffence⟩⟩
  · intro hfault
    cases hbuild : build registry configs with
    | error e => exact ⟨e, rfl⟩
    | ok nodes =>
      obtain ⟨hbind, hadjacency, hdeleted⟩ := build_eq_ok_iff.mp hbuild
      have hbound := bound_iff.mp hbind
      rcases hfault with ⟨t, config, e, hconfig, hfault⟩ | ⟨nodes', hbound', hfault⟩
      · exact absurd hfault (hbound.bindable t config hconfig e)
      · have hsame : nodes' = nodes := Except.ok.inj ((bound_iff.mpr hbound').symm.trans hbind)
        subst hsame
        rcases hfault with ⟨t, node, producer, hmismatch⟩ | ⟨t, node, key, deleter, hoffence⟩
        · exact absurd hmismatch (checkAdjacency_eq_ok_iff_no_mismatch.mp hadjacency _ _ _)
        · exact absurd hoffence (checkDeletedKeys_eq_ok_iff_no_offence.mp hdeleted _ _ _ _)

/-- Construction fails exactly where there is a fault, and tells the first: that of the first
configuration that cannot be bound; if all can be bound, that of the first node that reads data of
another type than the most recent producer makes; otherwise that of the deletion guard.  Both nodes
of a mismatch are named by their positions, the producer first.  What stands between the two and
produces no data, which is what probes, sinks and context processors do, has no influence on their
mismatch, and leaving such nodes out changes no mismatch of the others. -/
theorem construction_errors_are_exact (registry : Registry) (configs : List NodeConfig) :
    (∀ e, Pipeline.new registry configs = .error e ↔ FirstFault registry configs e) ∧
    ((∃ e, Pipeline.new registry configs = .error e) ↔
      (∃ t config e, configs[t]? = some config ∧ Unbindable registry t config e) ∨
      ∃ nodes, Bound registry configs nodes ∧
        ((∃ t node producer, Mismatch nodes t node producer) ∨
          ∃ t node key deleter, Offence nodes t node key deleter)) ∧
    (∀ nodes, Bound registry configs nodes → ∀ t node producer,
      Mismatch nodes t node producer →
        node.index = t ∧ producer.index < t ∧ nodes[producer.index]? = some producer) ∧
    (∀ node : Node, node.producesData = false ↔ node.processor.kind ∈
      [ProcessorKind.dataProbe, .contextProcessor, .dataSink, .payloadSink]) ∧
    (∀ (before between after : List Node) (producer node other : Node),
      producer.producesData = true → (∀ n ∈ between, n.producesData = false) →
      (Mismatch (before ++ producer :: between ++ node :: after)
          (before.length + 1 + between.length) node other ↔
        other = producer ∧ node.readsData = true ∧
          producer.outputType.Clash node.inputType)) ∧
    ∀ (nodes : List Node) (keep : Node → Bool),
      (∀ node, node.producesData = true → keep node = true) → ∀ node producer,
        ((∃ t, Mismatch (nodes.filter keep) t node producer) ↔
          keep node = true ∧ ∃ t, Mismatch nodes t node producer) := by
  simp only [Pipeline.new_eq_error_iff]
  exact ⟨fun e => build_eq_error_iff_firstFault, exists_build_error_iff,
    fun nodes hbound t node producer => index_of_mismatch (bound_iff.mpr hbound),
    fun node => Node.producesData_eq_false_iff,
    fun before between after producer node other => mismatch_behind_iff,
    fun nodes keep hkeep node producer => exists_mismatch_filter_iff hkeep⟩

/-- The probe and the deletion in between are no part of the mismatch, which counts before the key
that the last node lacks.  Of two undeclared parameters the lesser is told. -/
theorem construction_errors_are_exact_of_probe :
    let clashing : List NodeConfig := [{ processor := "float_source" },
      { processor := "float_value_probe" }, { processor := "delete:k" },
      { processor := "change_text_case" }, { processor := "template:{k}:out" }]
    let undeclared : List NodeConfig := [{ processor := "delete:k" },
      { processor := "float_source", parameters := .ofList [("b", .null), ("a", .null)] }]
    (∃ nodes node producer, Bound .builtin clashing nodes ∧
      FirstMismatch nodes 3 node producer ∧ nodes[0]? = some producer ∧
      Pipeline.new .builtin clashing = .error
        (.typeMismatch 0 "float_source" 3 "change_text_case" .text .float)) ∧
    ∃ config processor, undeclared[1]? = some config ∧ Node.LeastUndeclared config processor "a" ∧
      Pipeline.new .builtin undeclared = .error (.unknownParameter 1 "float_source" "a") := by
  intro clashing undeclared
  constructor
  · obtain ⟨nodes, hbind, hcheck⟩ : ∃ nodes, bindFrom .builtin 0 clashing = .ok nodes ∧
        checkAdjacency none nodes = .error
          (.typeMismatch 0 "float_source" 3 "change_text_case" .text .float) := ⟨_, rfl, rfl⟩
    have hbound : Bound .builtin clashing nodes := bound_iff.mp hbind
    obtain ⟨t, node, producer, hfirst, he⟩ := checkAdjacency_eq_error_iff.mp hcheck
    obtain ⟨herror, -, hindex, -⟩ := construction_errors_are_exact .builtin clashing
    obtain ⟨ht, -, hproducer⟩ := hindex nodes hbound t node producer hfirst.toMismatch
    obtain ⟨h0, hp, h3, hn, hexpected, hactual⟩ := TopologyError.typeMismatch.inj he
    rw [← h3] at ht
    subst ht
    rw [← h0] at hproducer
    refine ⟨nodes, node, producer, hbound, hfirst, hproducer, ?_⟩
    rw [h0, hp, hn, hexpected, hactual]
    exact (herror _).mpr (.mismatch hbound hfirst)
  · obtain ⟨config, processor, hconfig, hresolve, hname, hleast⟩ : ∃ config processor,
        undeclared[1]? = some config ∧
        Registry.builtin.resolve config.processor = .ok processor ∧
        processor.name = "float_source" ∧ Node.undeclared? config processor = some "a" :=
      ⟨_, _, rfl, rfl, rfl, rfl⟩
    rw [Node.undeclared?_eq_some_iff] at hleast
    have hdeclared : ∀ e, ¬ Unbindable .builtin 0 { processor := "delete:k" } e :=
      unbindable_iff.mpr ⟨_, rfl⟩
    have hfirst : FirstUnbindable .builtin undeclared 1
        (.unknownParameter 1 "float_source" "a") := by
      refine ⟨⟨config, hconfig, hname ▸ .parameter hresolve ?_ hleast⟩, fun s c e' hc hfault => ?_⟩
      · cases hconfig
        simp
      · cases s with
        | zero =>
          cases hc
          exact absurd hfault (hdeclared e')
        | succ s => exact Nat.succ_le_succ (Nat.zero_le s)
    exact ⟨config, processor, hconfig, hleast,
      ((construction_errors_are_exact .builtin undeclared).1 _).mpr (.binding hfirst)⟩

end Topology
end Dataflow
