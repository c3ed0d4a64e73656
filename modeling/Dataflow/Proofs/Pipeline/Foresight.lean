/-
The inspection foresees where a run takes its arguments from.

The inspection only knows the declared keys; a run follows the keys through the gates of
its nodes.  Without payload sources both tell the same of every argument, save for the
keys that the caller brings: a default gives way to a key of the same name in the initial
context, if no node in front suppresses it.  Both sides are functions of the last touch
of the key, which is a declared one (`Linked.touches_eq`), so that the agreement is a case split on
this touch (`Linked.foresees`).
-/
import Dataflow.Proofs.Pipeline.Reliable

namespace Dataflow

/-- The foreseen source of an argument against the actual one; `inherited` says that the caller
gave the key and that it is not suppressed on the way. -/
structure ParameterSource.Foresees (inherited : Prop) (foreseen actual : ParameterSource) :
    Prop where
  config : foreseen = .config ↔ actual = .config
  produced : ∀ i, foreseen = .context (some i) → actual = .context (some i)
  initial : foreseen = .context none → actual = .context none
  default : foreseen = .default →
    (actual = .default ∧ ¬ inherited) ∨ (actual = .context none ∧ inherited)

namespace ParameterSource

variable {inherited : Prop}

theorem foresees_config : Foresees inherited .config .config :=
  ⟨Iff.rfl, fun _ h => h, fun h => h, nofun⟩

theorem foresees_produced (i : Nat) :
    Foresees inherited (.context (some i)) (.context (some i)) :=
  ⟨⟨nofun, nofun⟩, fun _ h => h, fun h => h, nofun⟩

theorem foresees_initial : Foresees inherited (.context none) (.context none) :=
  ⟨⟨nofun, nofun⟩, fun _ h => h, fun h => h, nofun⟩

theorem foresees_inherited (h : inherited) : Foresees inherited .default (.context none) :=
  ⟨⟨nofun, nofun⟩, nofun, nofun, fun _ => .inr ⟨rfl, h⟩⟩

theorem foresees_default (h : ¬ inherited) : Foresees inherited .default .default :=
  ⟨⟨nofun, nofun⟩, nofun, nofun, fun _ => .inl ⟨rfl, h⟩⟩

end ParameterSource

section Run

variable {filter : LogFilter} {nodes : List Node} {payload : Payload} {passed : List Passage}

/-- The caller gave the key, and none of the first `t` nodes suppresses it. -/
def Inherited (nodes : List Node) (payload : Payload) (t : Nat) (key : String) : Prop :=
  payload.context.contains key = true ∧ ∀ node ∈ nodes.take t, key ∉ node.suppressedKeys

/-- At any node, the source that is foreseen for an argument agrees with the one that resolution
finds, if it finds one. -/
theorem Linked.foresees (hlinked : Linked filter nodes (.start payload) passed)
    (hnodes : Vetted nodes) (hrole : ∀ node ∈ nodes, node.role ≠ .payloadSource) {t : Nat}
    (ht : t ≤ passed.length) (node : Node) {spec : ParameterSpec}
    (hvalue : (node.value? (checkpointAt (.start payload) passed t).context spec).isSome = true) :
    ParameterSource.Foresees (Inherited nodes payload t spec.name)
      (Inspection.sourceOf (Inspection.producersOf (nodes.take t)) node spec)
      (node.sourceAt (checkpointAt (.start payload) passed t).context
        (checkpointAt (.start payload) passed t).origins spec) := by
  have htouches := hlinked.touches_eq hnodes.reliable hrole t ht
  have hproducers := Inspection.get?_producersOf (nodes.take t) spec.name
  unfold Inspection.sourceOf Node.sourceAt
  by_cases hconfigured : node.isConfigured spec.name = true
  · rw [if_pos hconfigured, if_pos hconfigured]
    exact ParameterSource.foresees_config
  rw [if_neg hconfigured, if_neg hconfigured]
  have hdefault : (checkpointAt (.start payload) passed t).context.contains spec.name = false →
      spec.default?.isSome = true := by
    intro hcontext
    cases hspec : spec.default? with
    | some value => rfl
    | none =>
      have hrequired : spec.isRequired = true := by simp [ParameterSpec.isRequired, hspec]
      rw [(Node.value?_eq_none_iff node _).mpr ⟨hrequired, by simpa using hconfigured, hcontext⟩]
        at hvalue
      cases hvalue
  rcases hlinked.origin_cases hnodes.index ht spec.name with
    ⟨hfree, hcontext, horigins⟩ | ⟨i, -, hwritten, -, hsome, horigins⟩ |
      ⟨i, htouch, hcontext, -⟩
  · -- Nothing touched the key: it is the caller's, if it is there at all.
    rw [htouches] at hfree
    rw [Touch.last?_eq_none_iff.mpr hfree] at hproducers
    rw [hproducers, KeyMap.contains, hcontext, KeyOrigins.producer?, horigins]
    cases hget : payload.context.get? spec.name with
    | some value =>
      have hinherited : Inherited nodes payload t spec.name := by
        refine ⟨?_, not_suppressed_of_free hfree⟩
        rw [KeyMap.contains, hget]
        rfl
      cases spec.default? with
      | some value => exact ParameterSource.foresees_inherited hinherited
      | none => exact ParameterSource.foresees_initial
    | none =>
      rw [KeyMap.contains_eq_false_iff, hcontext] at hdefault
      dsimp only [Option.bind_none]
      rw [hdefault hget]
      refine ParameterSource.foresees_default fun hinherited => ?_
      rw [Inherited, KeyMap.contains, hget] at hinherited
      cases hinherited.1
  · rw [htouches, Touch.writtenLast_iff] at hwritten
    rw [hwritten] at hproducers
    rw [hproducers, KeyMap.contains, hsome, KeyOrigins.producer?, horigins]
    exact ParameterSource.foresees_produced i
  · rw [htouches] at htouch
    rw [htouch] at hproducers
    have hgone := (KeyMap.contains_eq_false_iff _).mpr hcontext
    rw [hproducers, hgone]
    dsimp only [Option.bind_some, Touch.writer?]
    rw [hdefault hgone]
    refine ParameterSource.foresees_default fun hinherited => ?_
    obtain ⟨node, hnode, hkey⟩ := mem_declaredBy_deletion (Touch.mem_of_last? htouch)
    exact hinherited.2 node hnode hkey

/-- The sources that a node recorded agree with those that were foreseen for it. -/
theorem Linked.sources_foreseen (hlinked : Linked filter nodes (.start payload) passed)
    (hnodes : Vetted nodes) (hrole : ∀ node ∈ nodes, node.role ≠ .payloadSource) {t : Nat}
    {passage : Passage} (hpassage : passed[t]? = some passage) {spec : ParameterSpec}
    (hspec : spec ∈ passage.node.processor.parameters) :
    ∃ foreseen actual,
      (Inspection.ofNode (Inspection.producersOf (nodes.take t)) passage.node).parameters.get?
          spec.name = some foreseen ∧
        passage.outcome.sources.get? spec.name = some actual ∧
        ParameterSource.Foresees (Inherited nodes payload t spec.name) foreseen actual := by
  have ht : t ≤ passed.length := Nat.le_of_lt (List.getElem?_eq_some_iff.mp hpassage).1
  obtain ⟨hvalues, -, hsources⟩ :=
    Node.resolve_eq_ok (Passage.resolve_of_execute (hlinked.execute t passage hpassage))
  rw [show passage.before = checkpointAt (.start payload) passed t from
    hlinked.before t passage hpassage] at hvalues hsources
  obtain ⟨last, hmem, hname, hlast⟩ := ParameterSpec.exists_last hspec
  have hforesees := hlinked.foresees hnodes hrole ht passage.node (hvalues last hmem)
  rw [hname] at hforesees
  refine ⟨_, _, ?_, ?_, hforesees⟩
  · rw [Inspection.ofNode, KeyMap.get?_foldl_insert, hlast]
    rfl
  · rw [hsources, KeyMap.get?_foldl_insert, hlast]
    rfl

end Run

/-- Static and actual provenance agree, for every pipeline over the built-in registry without
payload sources, in any state: whether a call succeeds or fails, the sources of every node in the
latest run are the ones that the inspection foresees. -/
theorem Pipeline.inspection_foresees_run {configs : List NodeConfig} {p : Pipeline}
    (hp : Pipeline.new .builtin configs = .ok p)
    (hrole : ∀ node ∈ p.nodes, node.role ≠ .payloadSource) (history : List ProcessCall)
    (call : ProcessCall) :
    let q := p.processAll history
    let after := (q.process call.filter call.watch call.payload).2
    ∀ (n : Nat) (record : NodeRun), after.lastRun[n]? = some record →
      record.node.index = n ∧
      ∃ inspected, q.inspect.nodes[n]? = some inspected ∧ inspected.node = record.node ∧
        ∀ spec ∈ record.node.processor.parameters, ∃ foreseen actual,
          inspected.parameters.get? spec.name = some foreseen ∧
          record.sources.get? spec.name = some actual ∧
          ParameterSource.Foresees (Inherited p.nodes call.payload n spec.name)
            foreseen actual := by
  intro q after n record hrecord
  have hnodes : Vetted p.nodes := Pipeline.vetted_of_builtin hp
  have hlinked := passages_linked call.filter p.nodes (.start call.payload)
  have hlast : after.lastRun = (passages call.filter p.nodes (.start call.payload)).map
      (·.record call.watch) :=
    Pipeline.lastRun_of_steady hnodes.steady history call.filter call.watch call.payload
  rw [hlast, List.getElem?_map, Option.map_eq_some_iff] at hrecord
  obtain ⟨passage, hpassage, rfl⟩ := hrecord
  have hnode := hlinked.node n passage hpassage
  have hinspected : q.inspect.nodes[n]? =
      some (Inspection.ofNode (Inspection.producersOf (p.nodes.take n)) passage.node) := by
    have hq : q.inspect = Inspection.ofNodes p.nodes :=
      congrArg Inspection.ofNodes (p.processAll_nodes history)
    rw [hq, Inspection.ofNodes, Inspection.getElem?_inspectFrom, hnode]
    rfl
  exact ⟨hnodes.index n passage.node hnode, _, hinspected, rfl,
    fun spec hspec => hlinked.sources_foreseen hnodes hrole hpassage hspec⟩

/-- A default that was foreseen gives way to the caller's key of the same name, and a renamed key
is foreseen as it is found. -/
theorem Pipeline.inspection_foresees_run_of_affix :
    let payload : Payload :=
      { data := .text "c"
        context := (KeyMap.empty.insert "name" (.str "n")).insert "prefix" (.str "p") }
    ∃ p record inspected,
      Pipeline.new .builtin
        [{ processor := "rename:name:suffix" }, { processor := "prefix_suffix_adder" }] = .ok p ∧
      (p.process .all .stopped payload).2.lastRun[1]? = some record ∧
      p.inspect.nodes[1]? = some inspected ∧
      inspected.parameters.entries = [("prefix", .default), ("suffix", .context (some 0))] ∧
      record.sources.entries = [("prefix", .context none), ("suffix", .context (some 0))] ∧
      ParameterSource.Foresees (Inherited p.nodes payload 1 "prefix") .default (.context none) := by
  intro payload
  obtain ⟨p, record, inspected, hp, hrecord, hinspected, hroles, hspecs, hforeseen, hactual⟩ :
      ∃ p record inspected,
        Pipeline.new .builtin
          [{ processor := "rename:name:suffix" }, { processor := "prefix_suffix_adder" }] = .ok p ∧
        (p.process .all .stopped payload).2.lastRun[1]? = some record ∧
        p.inspect.nodes[1]? = some inspected ∧
        p.nodes.map Node.role = [.contextMutator, .operation] ∧
        record.node.processor.parameters =
          [.optional "prefix" (.str ""), .optional "suffix" (.str "")] ∧
        inspected.parameters.entries = [("prefix", .default), ("suffix", .context (some 0))] ∧
        record.sources.entries = [("prefix", .context none), ("suffix", .context (some 0))] :=
    ⟨_, _, _, rfl, rfl, rfl, rfl, rfl, rfl, rfl⟩
  obtain ⟨-, found, hfound, -, hsources⟩ := Pipeline.inspection_foresees_run hp
    (Node.role_ne_of_map hroles (by decide)) [] ⟨.all, .stopped, payload⟩ 1 record hrecord
  obtain ⟨foreseen, actual, hf, ha, hforesees⟩ :=
    hsources (.optional "prefix" (.str "")) (hspecs ▸ List.mem_cons_self)
  rw [Option.some.inj (hfound.symm.trans hinspected), KeyMap.get?, hforeseen] at hf
  rw [KeyMap.get?, hactual] at ha
  cases hf
  cases ha
  exact ⟨p, record, inspected, hp, hrecord, hinspected, hforeseen, hactual, hforesees⟩

end Dataflow
