/-
What the inspection reports, in terms of the declarations alone.

The inspection and the deletion guard go over the nodes separately, each with a table of its own:
the inspection knows of a key who creates it, the guard who deletes it.  `CreatedLast` and
`Untouched` say without the tables what the nodes in front of a position declare of a key.  In a
list that passed the guard, a key that is required at a position and not created there was never
touched in front of it (`untouched_of_required`), which is where the two analyses meet.
-/
import Dataflow.Proofs.Pipeline.Deletion
import Mathlib.Data.List.Nodup

namespace Dataflow

/-- No node in front of the position is declared to create or to suppress the key. -/
def Untouched (nodes : List Node) (n : Nat) (key : String) : Prop :=
  ∀ t node, t < n → nodes[t]? = some node → key ∉ node.createdKeys ∧ key ∉ node.suppressedKeys

/-- Of the nodes in front of position `n` that are declared to create or to suppress the key, the
last is at position `i`, and it creates the key. -/
structure CreatedLast (nodes : List Node) (n i : Nat) (key : String) : Prop where
  before : i < n
  creates : ∃ node, nodes[i]? = some node ∧ key ∈ node.createdKeys
  last : ∀ t node, i < t → t < n → nodes[t]? = some node →
    key ∉ node.createdKeys ∧ key ∉ node.suppressedKeys

/-- Where the argument for a parameter will come from, for all that is declared. -/
inductive Foreseen (nodes : List Node) (n : Nat) (node : Node) (spec : ParameterSpec) :
    ParameterSource → Prop
  | config (hconfigured : node.isConfigured spec.name = true) : Foreseen nodes n node spec .config
  | created {i : Nat} (hconfigured : node.isConfigured spec.name = false)
      (hcreated : CreatedLast nodes n i spec.name) :
      Foreseen nodes n node spec (.context (some i))
  | default (hconfigured : node.isConfigured spec.name = false)
      (hcreated : ∀ i, ¬ CreatedLast nodes n i spec.name)
      (hdefault : spec.default?.isSome = true) : Foreseen nodes n node spec .default
  | initial (hconfigured : node.isConfigured spec.name = false)
      (hcreated : ∀ i, ¬ CreatedLast nodes n i spec.name)
      (hdefault : spec.default? = none) : Foreseen nodes n node spec (.context none)

/-- The node at position `n` requires a key that no node in front of it is declared to create. -/
structure Unprovided (nodes : List Node) (n : Nat) (key : String) : Prop where
  requires : ∃ node, nodes[n]? = some node ∧ key ∈ node.requiredContextKeys
  uncreated : ∀ t node, t < n → nodes[t]? = some node → key ∉ node.createdKeys

variable {nodes : List Node} {n i : Nat} {key : String}

/-! ## Declarations in front of a position -/

theorem createdLast_succ_iff {node : Node} (hnode : nodes[n]? = some node) :
    CreatedLast nodes (n + 1) i key ↔
      if key ∈ node.createdKeys then i = n
      else key ∉ node.suppressedKeys ∧ CreatedLast nodes n i key := by
  constructor
  · rintro ⟨hbefore, ⟨creator, hcreator, hcreates⟩, hlast⟩
    rcases Nat.lt_succ_iff_lt_or_eq.mp hbefore with hlt | rfl
    · obtain ⟨hcreated, hsuppressed⟩ := hlast n node hlt (Nat.lt_succ_self n) hnode
      rw [if_neg hcreated]
      exact ⟨hsuppressed, hlt, ⟨creator, hcreator, hcreates⟩,
        fun t m hit htn => hlast t m hit (Nat.lt_succ_of_lt htn)⟩
    · cases hnode.symm.trans hcreator
      rw [if_pos hcreates]
  · intro h
    split at h
    · rename_i hcreates
      subst h
      exact ⟨Nat.lt_succ_self i, ⟨node, hnode, hcreates⟩, fun t m hit hti => by omega⟩
    · rename_i hcreated
      obtain ⟨hsuppressed, hbefore, hcreates, hlast⟩ := h
      refine ⟨Nat.lt_succ_of_lt hbefore, hcreates, fun t m hit htn hm => ?_⟩
      rcases Nat.lt_succ_iff_lt_or_eq.mp htn with hlt | rfl
      · exact hlast t m hit hlt hm
      · cases hnode.symm.trans hm
        exact ⟨hcreated, hsuppressed⟩

theorem free_declaredBy_take_iff :
    Touch.Free key (declaredBy (nodes.take n)) ↔ Untouched nodes n key := by
  rw [free_declaredBy_iff]
  constructor
  · intro h t node htn hnode
    exact h node (List.mem_of_getElem? ((List.getElem?_take_of_lt htn).trans hnode))
  · intro h node hmem
    obtain ⟨t, ht⟩ := List.mem_iff_getElem?.mp hmem
    rw [List.getElem?_take, Option.ite_none_right_eq_some] at ht
    exact h t node ht.1 ht.2

/-- Where the guard lets the list pass, a required key that nobody created last was never touched:
its last touch would be a deletion. -/
theorem untouched_of_required (hguard : Topology.checkDeletedKeys nodes = .ok ()) {node : Node}
    (hnode : nodes[n]? = some node) (hkey : key ∈ node.requiredContextKeys)
    (hcreated : (Inspection.producersOf (nodes.take n)).get? key = none) :
    Untouched nodes n key := by
  have hdeleted := Topology.checkDeletedKeys_eq_ok_iff.mp hguard n node hnode key hkey
  rw [Inspection.get?_producersOf] at hcreated
  rw [← free_declaredBy_take_iff, ← Touch.last?_eq_none_iff]
  match Touch.last? key (declaredBy (nodes.take n)), hcreated, hdeleted with
  | none, _, _ => rfl
  | some ⟨_, _, .write⟩, hcreated, _ => cases hcreated
  | some ⟨_, _, .deletion⟩, _, hdeleted => cases hdeleted

section Indexed

variable (hindex : ∀ (t : Nat) (node : Node), nodes[t]? = some node → node.index = t)
include hindex

/-- The producers of the inspection name the last creator of a key. -/
theorem get?_producersOf_take_iff (hn : n ≤ nodes.length) :
    (Inspection.producersOf (nodes.take n)).get? key = some i ↔ CreatedLast nodes n i key := by
  induction n with
  | zero => exact ⟨nofun, fun h => absurd h.before (Nat.not_lt_zero i)⟩
  | succ n ih =>
    obtain ⟨node, hnode⟩ : ∃ node, nodes[n]? = some node := ⟨_, List.getElem?_eq_getElem hn⟩
    have htake : nodes.take (n + 1) = nodes.take n ++ [node] := by
      rw [List.take_add_one, hnode]
      rfl
    have hstep : Inspection.producersOf (nodes.take n ++ [node]) =
        Inspection.updateProducers (Inspection.producersOf (nodes.take n)) node := by
      simp [Inspection.producersOf]
    rw [htake, hstep, Inspection.get?_updateProducers, createdLast_succ_iff hnode,
      ← ih (Nat.le_of_succ_le hn), hindex n node hnode]
    by_cases hcreated : key ∈ node.createdKeys
    · simp [hcreated, eq_comm]
    · by_cases hsuppressed : key ∈ node.suppressedKeys
      · simp [hcreated, hsuppressed]
      · simp [hcreated, hsuppressed]

theorem get?_producersOf_eq_none_iff (hn : n ≤ nodes.length) :
    (Inspection.producersOf (nodes.take n)).get? key = none ↔ ∀ i, ¬ CreatedLast nodes n i key := by
  simp only [← get?_producersOf_take_iff hindex hn, Option.eq_none_iff_forall_ne_some]

theorem get?_producersOf_eq_none_of_uncreated (hn : n ≤ nodes.length)
    (h : ∀ t node, t < n → nodes[t]? = some node → key ∉ node.createdKeys) :
    (Inspection.producersOf (nodes.take n)).get? key = none :=
  (get?_producersOf_eq_none_iff hindex hn).mpr fun i hcreated => by
    obtain ⟨node, hnode, hcreates⟩ := hcreated.creates
    exact h i node hcreated.before hnode hcreates

/-- The guard leaves no key that is provided and then taken away again for a node to miss. -/
theorem unprovided_iff (hguard : Topology.checkDeletedKeys nodes = .ok ()) :
    Unprovided nodes n key ↔ ∃ node, nodes[n]? = some node ∧ key ∈ node.requiredContextKeys ∧
      (Inspection.producersOf (nodes.take n)).contains key = false := by
  constructor
  · rintro ⟨⟨node, hnode, hkey⟩, huncreated⟩
    have hn := Nat.le_of_lt (List.getElem?_eq_some_iff.mp hnode).1
    exact ⟨node, hnode, hkey, (KeyMap.contains_eq_false_iff _).mpr
      (get?_producersOf_eq_none_of_uncreated hindex hn huncreated)⟩
  · rintro ⟨node, hnode, hkey, hnone⟩
    have huntouched := untouched_of_required hguard hnode hkey
      ((KeyMap.contains_eq_false_iff _).mp hnone)
    exact ⟨⟨node, hnode, hkey⟩, fun t m htn hm => (huntouched t m htn hm).1⟩

theorem Unprovided.untouched (hguard : Topology.checkDeletedKeys nodes = .ok ())
    (h : Unprovided nodes n key) : Untouched nodes n key := by
  obtain ⟨node, hnode, hkey, hnone⟩ := (unprovided_iff hindex hguard).mp h
  exact untouched_of_required hguard hnode hkey ((KeyMap.contains_eq_false_iff _).mp hnone)

theorem mem_requiredInitialKeys_iff (hguard : Topology.checkDeletedKeys nodes = .ok ()) :
    key ∈ (Inspection.ofNodes nodes).requiredInitialKeys.keys ↔ ∃ n, Unprovided nodes n key := by
  rw [KeyMap.mem_keys_iff, Inspection.ofNodes, Inspection.contains_requiredInitialKeys]
  refine (or_iff_right (by simp [KeyMap.contains])).trans (exists_congr fun n => ?_)
  exact (unprovided_iff hindex hguard).symm

/-! ## Where an argument is foreseen to come from -/

variable {node : Node} {spec : ParameterSpec} {source : ParameterSource}

/-- The inspection foresees for a parameter what the declarations in front of its node say. -/
theorem sourceOf_eq_iff (hn : n ≤ nodes.length) :
    Inspection.sourceOf (Inspection.producersOf (nodes.take n)) node spec = source ↔
      Foreseen nodes n node spec source := by
  constructor
  · rintro rfl
    unfold Inspection.sourceOf
    cases hconfigured : node.isConfigured spec.name with
    | true => exact .config hconfigured
    | false =>
      rw [if_neg Bool.false_ne_true]
      cases hproducer : (Inspection.producersOf (nodes.take n)).get? spec.name with
      | some i => exact .created hconfigured ((get?_producersOf_take_iff hindex hn).mp hproducer)
      | none =>
        have hcreated := (get?_producersOf_eq_none_iff hindex hn).mp hproducer
        cases hdefault : spec.default? with
        | some value => exact .default hconfigured hcreated (by rw [hdefault]; rfl)
        | none => exact .initial hconfigured hcreated hdefault
  · intro h
    unfold Inspection.sourceOf
    cases h with
    | config hconfigured => rw [if_pos hconfigured]
    | created hconfigured hcreated =>
      rw [hconfigured, (get?_producersOf_take_iff hindex hn).mpr hcreated]
      rfl
    | default hconfigured hcreated hdefault =>
      rw [hconfigured, (get?_producersOf_eq_none_iff hindex hn).mpr hcreated, hdefault]
      rfl
    | initial hconfigured hcreated hdefault =>
      rw [hconfigured, (get?_producersOf_eq_none_iff hindex hn).mpr hcreated, hdefault]
      rfl

/-- Nothing in front of a node touches a parameter that is foreseen in the initial context. -/
theorem Foreseen.untouched (hguard : Topology.checkDeletedKeys nodes = .ok ())
    (hnode : nodes[n]? = some node) (hspec : spec ∈ node.processor.parameters)
    (h : Foreseen nodes n node spec (.context none)) : Untouched nodes n spec.name := by
  have hn := Nat.le_of_lt (List.getElem?_eq_some_iff.mp hnode).1
  cases h with
  | initial hconfigured hcreated hdefault =>
    exact untouched_of_required hguard hnode
      (Node.mem_requiredContextKeys.mpr
        (.inl ⟨spec, hspec, Option.isNone_iff_eq_none.mpr hdefault, hconfigured, rfl⟩))
      ((get?_producersOf_eq_none_iff hindex hn).mpr hcreated)

end Indexed

variable {node : Node} {spec : ParameterSpec} {source : ParameterSource}

/-- The inspected parameters of a node are the declared ones. -/
theorem mem_keys_ofNode {producers : Inspection.Producers} :
    key ∈ (Inspection.ofNode producers node).parameters.keys ↔
      ∃ spec ∈ node.processor.parameters, spec.name = key := by
  rw [KeyMap.mem_keys_iff, KeyMap.contains, Inspection.ofNode, KeyMap.get?_foldl_insert]
  simp [List.find?_isSome]

/-- If the parameters have distinct names, none hides the source of another. -/
theorem get?_ofNode_eq_some_iff {producers : Inspection.Producers}
    (hdistinct : (node.processor.parameters.map ParameterSpec.name).Nodup)
    (hspec : spec ∈ node.processor.parameters) :
    (Inspection.ofNode producers node).parameters.get? spec.name = some source ↔
      Inspection.sourceOf producers node spec = source := by
  obtain ⟨last, hmem, hname, hlast⟩ := ParameterSpec.exists_last hspec
  cases List.inj_on_of_nodup_map hdistinct hmem hspec hname
  rw [Inspection.ofNode, KeyMap.get?_foldl_insert, hlast]
  exact Option.some_inj

/-- The inspection of a pipeline in any state reports what its nodes declare, and never
contradicts the deletion guard.  A parameter comes from the configuration if it is configured
there; otherwise from the last node in front that creates or suppresses its key, if that one
creates it; otherwise from its default; and otherwise from the initial context, and then no node
in front creates or suppresses the key.  The required initial keys are those that some node
requires and no node in front of it creates, and no node in front of it suppresses them. -/
theorem Pipeline.inspection_reports_declarations {registry : Registry}
    {configs : List NodeConfig} {p : Pipeline} (hp : Pipeline.new registry configs = .ok p)
    (history : List ProcessCall) :
    let report := (p.processAll history).inspect
    report.nodes.map NodeInspection.node = p.nodes ∧
    (∀ (n : Nat) (inspected : NodeInspection), report.nodes[n]? = some inspected →
      (inspected.node.processor.parameters.map ParameterSpec.name).Nodup →
      (∀ key, key ∈ inspected.parameters.keys ↔
        ∃ spec ∈ inspected.node.processor.parameters, spec.name = key) ∧
      ∀ spec ∈ inspected.node.processor.parameters,
        (∀ source, inspected.parameters.get? spec.name = some source ↔
          Foreseen p.nodes n inspected.node spec source) ∧
        (inspected.parameters.get? spec.name = some (.context none) →
          Untouched p.nodes n spec.name)) ∧
    (∀ key, key ∈ report.requiredInitialKeys.keys ↔ ∃ n, Unprovided p.nodes n key) ∧
    ∀ n key, Unprovided p.nodes n key →
      ∀ t node, t < n → p.nodes[t]? = some node → key ∉ node.suppressedKeys := by
  intro report
  have hbuild := Pipeline.nodes_of_new hp
  have hguard := (Topology.build_eq_ok_iff.mp hbuild).2.2
  have hindex : ∀ (t : Nat) (node : Node), p.nodes[t]? = some node → node.index = t :=
    fun t node => Topology.build_index hbuild
  have hreport : report = Inspection.ofNodes p.nodes :=
    congrArg Inspection.ofNodes (p.processAll_nodes history)
  have hentry : ∀ n : Nat, report.nodes[n]? =
      p.nodes[n]?.map (Inspection.ofNode (Inspection.producersOf (p.nodes.take n))) := by
    intro n
    rw [hreport, Inspection.ofNodes, Inspection.getElem?_inspectFrom]
    rfl
  refine ⟨?_, ?_, ?_, ?_⟩
  · refine List.ext_getElem? fun n => ?_
    rw [List.getElem?_map, hentry]
    cases p.nodes[n]? with
    | none => rfl
    | some node => rfl
  · intro n inspected hinspected hdistinct
    rw [hentry, Option.map_eq_some_iff] at hinspected
    obtain ⟨node, hnode, rfl⟩ := hinspected
    have hn := Nat.le_of_lt (List.getElem?_eq_some_iff.mp hnode).1
    refine ⟨fun key => mem_keys_ofNode, fun spec hspec => ?_⟩
    have hsource : ∀ source, (Inspection.ofNode (Inspection.producersOf (p.nodes.take n))
        node).parameters.get? spec.name = some source ↔ Foreseen p.nodes n node spec source :=
      fun source => (get?_ofNode_eq_some_iff hdistinct hspec).trans (sourceOf_eq_iff hindex hn)
    exact ⟨hsource, fun h => ((hsource _).mp h).untouched hindex hguard hnode hspec⟩
  · intro key
    rw [hreport]
    exact mem_requiredInitialKeys_iff hindex hguard
  · exact fun n key h t node htn hnode => (h.untouched hindex hguard t node htn hnode).2

/-- A factor that was renamed into being is known to come from the renaming, and what was renamed
is all that is required: the factor is required by two nodes, but created in front of both. -/
theorem Pipeline.inspection_reports_declarations_of_factor :
    ∃ p inspected, Pipeline.new .builtin
        [{ processor := "rename:gain:factor" }, { processor := "float_multiply" },
          { processor := "rename:factor:gain" }] = .ok p ∧
      p.inspect.requiredInitialKeys.keys = ["gain"] ∧
      p.inspect.nodes[1]? = some inspected ∧
      inspected.parameters.entries = [("factor", .context (some 0))] ∧
      CreatedLast p.nodes 1 0 "factor" ∧ (∃ n, Unprovided p.nodes n "gain") ∧
      ∀ n, ¬ Unprovided p.nodes n "factor" := by
  obtain ⟨p, inspected, hp, hkeys, hinspected, hnames, hentries⟩ : ∃ p inspected,
      Pipeline.new .builtin
        [{ processor := "rename:gain:factor" }, { processor := "float_multiply" },
          { processor := "rename:factor:gain" }] = .ok p ∧
      p.inspect.requiredInitialKeys.keys = ["gain"] ∧
      p.inspect.nodes[1]? = some inspected ∧
      inspected.node.processor.parameters.map ParameterSpec.name = ["factor"] ∧
      inspected.parameters.entries = [("factor", .context (some 0))] :=
    ⟨_, _, rfl, rfl, rfl, rfl, rfl⟩
  obtain ⟨-, hreported, hrequired, -⟩ := Pipeline.inspection_reports_declarations hp []
  have hkey : ∀ key, key ∈ ["gain"] ↔ ∃ n, Unprovided p.nodes n key := hkeys ▸ hrequired
  refine ⟨p, inspected, hp, hkeys, hinspected, hentries, ?_, (hkey "gain").mp (by decide), ?_⟩
  · obtain ⟨spec, hspecs, hname⟩ := List.map_eq_singleton_iff.mp hnames
    obtain ⟨-, hsource⟩ := hreported 1 inspected hinspected (by simp [hspecs])
    have hget : inspected.parameters.get? spec.name = some (.context (some 0)) :=
      (KeyMap.mem_entries_iff _).mp (by simp [hentries, hname])
    cases ((hsource spec (by simp [hspecs])).1 _).mp hget with
    | created hconfigured hcreated => exact hname ▸ hcreated
  · exact fun n h => absurd ((hkey "factor").mpr ⟨n, h⟩) (by decide)

end Dataflow
