/-
The recorded origin of a context key is the node that last wrote it.

Keys are written by probes with a keyword, by context processors and by payload
sources, and deleted by context processors.  `Passage.touches` lists what a completed
node does to the keys, in order.  The key origins do not keep this list; they are
updated by each node, from what its gate recorded or from what it wrote.
`trueOrigins` says that they nevertheless tell the last touch of every key behind any
number of nodes, and that the context still holds the value which that touch left.
-/
import Dataflow.Proofs.Context.Touch
import Dataflow.Proofs.Pipeline.Passage
import Dataflow.Proofs.Pipeline.Resolution

namespace Dataflow

/-! ## What one node does to the keys -/

/-- What a completed call of a node does to the keys, in order. -/
def Node.touches (node : Node) (params : Parameters) (payload : Payload) : List Touch :=
  match node.processor with
  | .probe _ => node.config.contextKeyword?.toList.map (⟨node.index, ·, .write⟩)
  | .context p =>
    (p.edit params).touches node.index
      (.new payload.context p.name p.createdKeys p.suppressedKeys)
  | .payloadSource p =>
    match p.produce params with
    | .ok produced => produced.context.keys.map (⟨node.index, ·, .write⟩)
    | _ => []
  | _ => []

def Passage.touches (p : Passage) : List Touch := p.node.touches p.params p.before.payload

/-- What the nodes of a run do to the keys, in order. -/
def touchesOf (passed : List Passage) : List Touch := passed.flatMap Passage.touches

namespace Checkpoint

/-- A checkpoint tells of a key what the last touch since an earlier checkpoint tells. -/
def Shows (before after : Checkpoint) (key : String) : Option Touch → Prop
  | none =>
    after.context.get? key = before.context.get? key ∧
      after.origins.get? key = before.origins.get? key
  | some ⟨node, _, .write⟩ =>
    (after.context.get? key).isSome ∧ after.origins.get? key = some (some node)
  | some ⟨_, _, .deletion⟩ =>
    after.context.get? key = none ∧ after.origins.get? key = none

variable {before after : Checkpoint} {key : String}

def write (c : Checkpoint) (node : Nat) (key : String) (value : Json) : Checkpoint :=
  { payload := { c.payload with context := c.payload.context.insert key value }
    origins := c.origins.record key node }

theorem Shows.congr {after' : Checkpoint} {touch? : Option Touch}
    (h : before.Shows after key touch?)
    (hcontext : after'.context.get? key = after.context.get? key)
    (horigins : after'.origins.get? key = after.origins.get? key) :
    before.Shows after' key touch? := by
  match touch?, h with
  | none, h => exact ⟨hcontext.trans h.1, horigins.trans h.2⟩
  | some ⟨_, _, .write⟩, h => exact ⟨hcontext ▸ h.1, horigins.trans h.2⟩
  | some ⟨_, _, .deletion⟩, h => exact ⟨hcontext.trans h.1, horigins.trans h.2⟩

theorem Shows.write {touches : List Touch} (h : before.Shows after key (Touch.last? key touches))
    (node : Nat) (k : String) (value : Json) :
    before.Shows (after.write node k value) key
      (Touch.last? key (touches ++ [⟨node, k, .write⟩])) := by
  rw [Touch.last?_concat]
  by_cases hk : k = key
  · subst hk
    rw [if_pos rfl]
    constructor
    · show ((after.payload.context.insert k value).get? k).isSome = true
      rw [KeyMap.get?_insert_self]
      rfl
    · exact KeyMap.get?_insert_self _ _ _
  · rw [if_neg hk]
    exact h.congr (KeyMap.get?_insert_ne _ hk value) (KeyMap.get?_insert_ne _ hk _)

theorem Shows.writeAll {touches : List Touch}
    (h : before.Shows after key (Touch.last? key touches)) (node : Nat)
    (entries : List (String × Json)) :
    before.Shows (entries.foldl (fun c e => c.write node e.1 e.2) after) key
      (Touch.last? key (touches ++ entries.map fun e => ⟨node, e.1, .write⟩)) := by
  induction entries generalizing after touches with
  | nil => simpa using h
  | cons e rest ih =>
    have hrest := ih (h.write node e.1 e.2)
    rw [List.append_assoc] at hrest
    exact hrest

theorem shows_self (c : Checkpoint) (key : String) : c.Shows c key (Touch.last? key []) :=
  ⟨rfl, rfl⟩

end Checkpoint

namespace Effect

/-- The checkpoint that an effect makes. -/
def checkpoint (e : Effect) : Checkpoint := ⟨e.payload, e.origins⟩

variable {payload : Payload} {origins : KeyOrigins} {key : String}

theorem ofProbe_shows (node : Nat) (keyword? : Option String) (value : Json) :
    (Checkpoint.mk payload origins).Shows (ofProbe node keyword? payload origins value).checkpoint
      key (Touch.last? key (keyword?.toList.map (⟨node, ·, .write⟩))) := by
  cases keyword? with
  | none => exact Checkpoint.shows_self _ key
  | some keyword => exact (Checkpoint.shows_self _ key).write node keyword value

/-- The gate forgets the deleted keys first, so that a key written again counts as written. -/
theorem ofGate_shows {gate : Gate} {touches : List Touch} (node : Nat)
    (hnode : ∀ touch ∈ touches, touch.node = node)
    (h : gate.Shows (payload.context.get? key) key (Touch.last? key touches)) :
    (Checkpoint.mk payload origins).Shows (ofGate node payload.data origins gate).checkpoint key
      (Touch.last? key touches) := by
  have horigins : (ofGate node payload.data origins gate).checkpoint.origins.get? key =
      if key ∈ gate.created then some (some node)
      else if key ∈ gate.deleted then none else origins.get? key := by
    show (gate.created.foldl (fun o k => o.insert k (some node))
      (gate.deleted.foldl (fun o k => o.erase k) origins)).get? key = _
    rw [KeyMap.get?_foldl_insert_const, KeyMap.get?_foldl_erase]
  match htouch : Touch.last? key touches, h with
  | none, ⟨hget, hcreated, hdeleted⟩ =>
    rw [if_neg hcreated, if_neg hdeleted] at horigins
    exact ⟨hget, horigins⟩
  | some ⟨n, _, .write⟩, ⟨hget, hcreated, _⟩ =>
    have hn : n = node := hnode _ (Touch.mem_of_last? htouch)
    rw [if_pos hcreated] at horigins
    subst hn
    exact ⟨hget, horigins⟩
  | some ⟨_, _, .deletion⟩, ⟨hget, hcreated, hdeleted⟩ =>
    rw [if_neg hcreated, if_pos hdeleted] at horigins
    exact ⟨hget, horigins⟩

theorem ofProduced_eq (node : Nat) (produced : Payload) (context : Context)
    (origins : KeyOrigins) :
    (ofProduced node context origins produced).checkpoint =
      produced.context.entries.foldl (fun c e => c.write node e.1 e.2)
        ⟨{ data := produced.data, context }, origins⟩ := by
  unfold ofProduced checkpoint
  simp only
  generalize produced.context.entries = entries
  induction entries generalizing context origins with
  | nil => rfl
  | cons e rest ih => exact ih (context.insert e.1 e.2) (origins.record e.1 node)

theorem ofProduced_shows (node : Nat) (produced : Payload) :
    (Checkpoint.mk payload origins).Shows
      (ofProduced node payload.context origins produced).checkpoint key
      (Touch.last? key (produced.context.keys.map (⟨node, ·, .write⟩))) := by
  have hstart : (Checkpoint.mk payload origins).Shows
      ⟨{ data := produced.data, context := payload.context }, origins⟩ key (Touch.last? key []) :=
    ⟨rfl, rfl⟩
  rw [ofProduced_eq, KeyMap.keys, List.map_map]
  exact hstart.writeAll node produced.context.entries

end Effect

/-- A completed call leaves every key as the last touch of the node says. -/
theorem Node.apply_shows {node : Node} {filter : LogFilter} {params : Parameters}
    {before : Checkpoint} {effect : Effect}
    (h : node.apply filter params before.payload before.origins = .ok effect) (key : String) :
    before.Shows effect.checkpoint key (Touch.last? key (node.touches params before.payload)) := by
  unfold Node.touches
  cases Node.applied h with
  | probe hp =>
    simp only [hp]
    exact Effect.ofProbe_shows node.index node.config.contextKeyword? _
  | @context p gate hp hcall =>
    have hshows := Gate.run_shows before.context p.name p.createdKeys p.suppressedKeys
      node.index (p.edit params) key
    simp only [hp]
    unfold Checkpoint.context at hshows
    rw [hcall] at hshows
    exact Effect.ofGate_shows node.index (fun _ => Edit.node_of_mem_touches) hshows
  | @payloadSource p produced hp hcall =>
    simp only [hp, hcall]
    exact Effect.ofProduced_shows node.index produced
  | operation hp | source hp | sink hp | payloadSink hp =>
    simp only [hp]
    exact ⟨rfl, rfl⟩

theorem Node.node_of_mem_touches {node : Node} {params : Parameters} {payload : Payload}
    {touch : Touch} (h : touch ∈ node.touches params payload) : touch.node = node.index := by
  unfold Node.touches at h
  cases hp : node.processor with
  | probe p =>
    simp only [hp, List.mem_map] at h
    obtain ⟨keyword, -, rfl⟩ := h
    rfl
  | context p =>
    simp only [hp] at h
    exact Edit.node_of_mem_touches h
  | payloadSource p =>
    simp only [hp] at h
    split at h
    · obtain ⟨key, -, rfl⟩ := List.mem_map.mp h
      rfl
    · cases h
  | _ => simp [hp] at h

/-! ## What a run does to the keys -/

theorem Checkpoint.Shows.of_some {before after : Checkpoint} {key : String} {touch : Touch}
    (h : before.Shows after key (some touch)) (start : Checkpoint) :
    start.Shows after key (some touch) := by
  match touch, h with
  | ⟨_, _, .write⟩, h => exact h
  | ⟨_, _, .deletion⟩, h => exact h

theorem Passage.shows {filter : LogFilter} {p : Passage}
    (h : p.node.execute filter p.before.payload p.before.origins = .ok p.outcome) (key : String) :
    p.before.Shows p.after key (Touch.last? key p.touches) :=
  Node.apply_shows (p.apply_of_execute h) key

section Run

variable {filter : LogFilter} {nodes : List Node} {start : Checkpoint} {passed : List Passage}

theorem checkpointAt_succ {t : Nat} {p : Passage} (h : passed[t]? = some p) :
    checkpointAt start passed (t + 1) = p.after := by
  rw [checkpointAt, List.take_add_one, h]
  exact behind_concat start (passed.take t) p

theorem touchesOf_take_succ {t : Nat} {p : Passage} (h : passed[t]? = some p) :
    touchesOf (passed.take (t + 1)) = touchesOf (passed.take t) ++ p.touches := by
  rw [List.take_add_one, h, touchesOf, List.flatMap_append]
  simp [touchesOf]

/-- Behind every node the last touch of a key tells its origin and its value. -/
theorem Linked.shows (hlinked : Linked filter nodes start passed)
    (hindex : ∀ (t : Nat) (node : Node), nodes[t]? = some node → node.index = t) (key : String) :
    ∀ t, t ≤ passed.length →
      start.Shows (checkpointAt start passed t) key
          (Touch.last? key (touchesOf (passed.take t))) ∧
        ∀ i, Touch.last? key (touchesOf (passed.take t)) = some ⟨i, key, .write⟩ →
          i < t ∧ (checkpointAt start passed t).context.get? key =
            (checkpointAt start passed (i + 1)).context.get? key := by
  refine passage_induction ⟨⟨rfl, rfl⟩, fun i h => nomatch h⟩ fun t p hp ih => ?_
  obtain ⟨hshows, hvalue⟩ := ih
  have hpassage := Passage.shows (hlinked.execute t p hp) key
  have hbefore : p.before = checkpointAt start passed t := hlinked.before t p hp
  rw [touchesOf_take_succ hp, Touch.last?_append, checkpointAt_succ hp]
  cases htouch : Touch.last? key p.touches with
  | none =>
    rw [htouch, hbefore] at hpassage
    obtain ⟨hcontext, horigins⟩ := hpassage
    refine ⟨hshows.congr hcontext horigins, fun i hi => ?_⟩
    obtain ⟨hlt, heq⟩ := hvalue i hi
    exact ⟨Nat.lt_succ_of_lt hlt, hcontext.trans heq⟩
  | some touch =>
    rw [htouch] at hpassage
    refine ⟨hpassage.of_some start, fun i hi => ?_⟩
    have hnode : touch.node = t := by
      rw [Node.node_of_mem_touches (Touch.mem_of_last? htouch)]
      exact hindex t p.node (hlinked.node t p hp)
    have hi : i = t := by
      cases hi
      exact hnode
    subst hi
    exact ⟨Nat.lt_succ_self i, congrArg (·.context.get? key) (checkpointAt_succ hp).symm⟩

end Run

/-! ## Origins -/

/-- The key origins behind the first `t` nodes tell the truth about every key. -/
structure TrueOrigins (start : Checkpoint) (passed : List Passage) (t : Nat) : Prop where
  /-- Exactly the keys of the context are tracked. -/
  tracked : ∀ key, (checkpointAt start passed t).origins.contains key =
    (checkpointAt start passed t).context.contains key
  /-- A key is the caller's if it was there and no node touched it; it still has its value. -/
  initial : ∀ key, (checkpointAt start passed t).origins.get? key = some none ↔
    start.context.contains key = true ∧ Touch.Free key (touchesOf (passed.take t))
  initial_value : ∀ key, (checkpointAt start passed t).origins.get? key = some none →
    (checkpointAt start passed t).context.get? key = start.context.get? key
  /-- A key is a node's if that node touched it last, and wrote it; it has the value it had
  behind that node. -/
  produced : ∀ key i, (checkpointAt start passed t).origins.get? key = some (some i) ↔
    i < t ∧ Touch.WrittenLast i key (touchesOf (passed.take t))
  produced_value : ∀ key i, (checkpointAt start passed t).origins.get? key = some (some i) →
    (checkpointAt start passed t).context.get? key =
      (checkpointAt start passed (i + 1)).context.get? key

/-- What the last touch of a key says about its origin and its value, in one of three ways. -/
theorem Linked.origin_cases {filter : LogFilter} {nodes : List Node} {payload : Payload}
    {passed : List Passage} (hlinked : Linked filter nodes (.start payload) passed)
    (hindex : ∀ (t : Nat) (node : Node), nodes[t]? = some node → node.index = t)
    {t : Nat} (ht : t ≤ passed.length) (key : String) :
    let here := checkpointAt (.start payload) passed t
    let touches := touchesOf (passed.take t)
    (Touch.Free key touches ∧ here.context.get? key = payload.context.get? key ∧
        here.origins.get? key = (payload.context.get? key).map fun _ => none) ∨
      (∃ i, i < t ∧ Touch.WrittenLast i key touches ∧
        here.context.get? key =
          (checkpointAt (.start payload) passed (i + 1)).context.get? key ∧
        (here.context.get? key).isSome ∧ here.origins.get? key = some (some i)) ∨
      (∃ i, Touch.last? key touches = some ⟨i, key, .deletion⟩ ∧
        here.context.get? key = none ∧ here.origins.get? key = none) := by
  intro here touches
  obtain ⟨hshows, hvalue⟩ := hlinked.shows hindex key t ht
  match htouch : Touch.last? key touches with
  | none =>
    rw [htouch] at hshows
    obtain ⟨hcontext, horigins⟩ := hshows
    refine .inl ⟨Touch.last?_eq_none_iff.mp htouch, hcontext, horigins.trans ?_⟩
    exact KeyMap.get?_map _ payload.context key
  | some ⟨i, k, .write⟩ =>
    have hk : k = key := Touch.key_of_last? htouch
    subst hk
    obtain ⟨hlt, heq⟩ := hvalue i htouch
    rw [htouch] at hshows
    exact .inr (.inl ⟨i, hlt, Touch.writtenLast_iff.mpr htouch, heq, hshows.1, hshows.2⟩)
  | some ⟨i, k, .deletion⟩ =>
    have hk : k = key := Touch.key_of_last? htouch
    subst hk
    rw [htouch] at hshows
    exact .inr (.inr ⟨i, rfl, hshows.1, hshows.2⟩)

theorem Touch.Free.not_writtenLast {key : String} {touches : List Touch}
    (h : Touch.Free key touches) (i : Nat) : ¬ Touch.WrittenLast i key touches := by
  rw [Touch.writtenLast_iff, Touch.last?_eq_none_iff.mpr h]
  exact nofun

theorem Touch.WrittenLast.not_free {key : String} {touches : List Touch} {i : Nat}
    (h : Touch.WrittenLast i key touches) : ¬ Touch.Free key touches :=
  fun hfree => hfree.not_writtenLast i h

theorem Touch.WrittenLast.unique {key : String} {touches : List Touch} {i j : Nat}
    (hi : Touch.WrittenLast i key touches) (hj : Touch.WrittenLast j key touches) : i = j := by
  rw [Touch.writtenLast_iff] at hi hj
  have heq := hi.symm.trans hj
  cases heq
  rfl

theorem Linked.trueOrigins {filter : LogFilter} {nodes : List Node} {payload : Payload}
    {passed : List Passage} (hlinked : Linked filter nodes (.start payload) passed)
    (hindex : ∀ (t : Nat) (node : Node), nodes[t]? = some node → node.index = t)
    {t : Nat} (ht : t ≤ passed.length) : TrueOrigins (.start payload) passed t where
  tracked key := by
    rcases hlinked.origin_cases hindex ht key with
      ⟨-, hcontext, horigins⟩ | ⟨i, -, -, -, hsome, horigins⟩ | ⟨i, -, hcontext, horigins⟩
    · rw [KeyMap.contains, KeyMap.contains, horigins, hcontext, Option.isSome_map]
    · rw [KeyMap.contains, KeyMap.contains, horigins, hsome]
      rfl
    · rw [KeyMap.contains, KeyMap.contains, horigins, hcontext]
      rfl
  initial key := by
    rcases hlinked.origin_cases hindex ht key with
      ⟨hfree, -, horigins⟩ | ⟨i, -, hwritten, -, -, horigins⟩ | ⟨i, htouch, -, horigins⟩
    · rw [horigins]
      show _ ↔ (payload.context.get? key).isSome = true ∧ _
      cases payload.context.get? key with
      | none => simp
      | some value => simp [hfree]
    · rw [horigins]
      refine ⟨fun h => ?_, fun h => absurd h.2 hwritten.not_free⟩
      cases h
    · rw [horigins]
      refine ⟨fun h => ?_, fun h => by simp [Touch.last?_eq_none_iff.mpr h.2] at htouch⟩
      cases h
  initial_value key h := by
    rcases hlinked.origin_cases hindex ht key with
      ⟨-, hcontext, -⟩ | ⟨i, -, -, -, -, horigins⟩ | ⟨i, -, -, horigins⟩
    · exact hcontext
    · simp [h] at horigins
    · simp [h] at horigins
  produced key i := by
    rcases hlinked.origin_cases hindex ht key with
      ⟨hfree, -, horigins⟩ | ⟨j, hlt, hwritten, -, -, horigins⟩ | ⟨j, htouch, -, horigins⟩
    · rw [horigins]
      refine ⟨fun h => ?_, fun h => absurd h.2 (hfree.not_writtenLast i)⟩
      cases hget : payload.context.get? key <;> simp [hget] at h
    · rw [horigins]
      constructor
      · intro h
        cases h
        exact ⟨hlt, hwritten⟩
      · intro h
        rw [hwritten.unique h.2]
    · rw [horigins]
      refine ⟨fun h => ?_, fun h => by simp [Touch.writtenLast_iff.mp h.2] at htouch⟩
      cases h
  produced_value key i h := by
    rcases hlinked.origin_cases hindex ht key with
      ⟨-, -, horigins⟩ | ⟨j, -, -, hvalue, -, horigins⟩ | ⟨j, -, -, horigins⟩
    · rw [h] at horigins
      cases hget : payload.context.get? key <;> simp [hget] at horigins
    · rw [h] at horigins
      cases horigins
      exact hvalue
    · simp [h] at horigins

/-! ## Arguments -/

namespace Node

variable {node : Node} {context : Context} {origins : KeyOrigins}

/-- An argument that is recorded as taken from the context is the value that the context has. -/
def FromContext (context : Context) (origins : KeyOrigins) (params : Parameters)
    (sources : KeyMap ParameterSource) : Prop :=
  ∀ name origin, sources.get? name = some (.context origin) →
    origin = origins.producer? name ∧ (context.get? name).isSome ∧
      params.get? name = context.get? name

theorem resolve_fromContext {params : Parameters} {sources : KeyMap ParameterSource}
    (h : node.resolve context origins = .ok (params, sources)) :
    FromContext context origins params sources := by
  obtain ⟨-, rfl, rfl⟩ := resolve_eq_ok h
  intro name origin hname
  rw [KeyMap.get?_foldl_insert] at hname
  rw [KeyMap.get?_foldl_insert]
  cases hlast : node.processor.parameters.reverse.find? (·.name = name) with
  | none => simp [hlast] at hname
  | some spec =>
    rw [hlast] at hname
    have hspec : spec.name = name := by simpa using List.find?_some hlast
    subst hspec
    obtain ⟨hconfigured, hcontext, rfl⟩ := sourceAt_eq_context (Option.some.inj hname)
    obtain ⟨value, hget⟩ := Option.isSome_iff_exists.mp hcontext
    refine ⟨rfl, hcontext, ?_⟩
    show some ((node.value? context spec).getD .null) = context.get? spec.name
    rw [value?_of_context hconfigured hget, hget]
    rfl

end Node

/-- Behind the nodes before it, a completed node took every argument that it recorded as taken
from the context from the most recent producer of the key: from the caller, if it names no node. -/
structure TrueSources (start : Checkpoint) (passed : List Passage) (t : Nat) (p : Passage) :
    Prop where
  initial : ∀ name, p.outcome.sources.get? name = some (.context none) →
    Touch.Free name (touchesOf (passed.take t)) ∧
      ∃ value, p.params.get? name = some value ∧ start.context.get? name = some value
  produced : ∀ name i, p.outcome.sources.get? name = some (.context (some i)) →
    i < t ∧ Touch.WrittenLast i name (touchesOf (passed.take t)) ∧
      ∃ value, p.params.get? name = some value ∧
        (checkpointAt start passed (i + 1)).context.get? name = some value

theorem TrueOrigins.trueSources {start : Checkpoint} {passed : List Passage} {t : Nat}
    {p : Passage} (h : TrueOrigins start passed t)
    (hbefore : p.before = checkpointAt start passed t)
    (hresolve : p.node.resolve p.before.context p.before.origins =
      .ok (p.params, p.outcome.sources)) : TrueSources start passed t p := by
  have hfrom := Node.resolve_fromContext hresolve
  rw [hbefore] at hfrom
  have horigin : ∀ name origin, p.outcome.sources.get? name = some (.context origin) →
      (checkpointAt start passed t).origins.get? name = some origin := by
    intro name origin hname
    obtain ⟨horigin, hsome, -⟩ := hfrom name origin hname
    have htracked := h.tracked name
    rw [KeyMap.contains, KeyMap.contains, hsome] at htracked
    obtain ⟨o, ho⟩ := Option.isSome_iff_exists.mp htracked
    rw [horigin, KeyOrigins.producer?, ho]
    rfl
  have hvalue : ∀ name origin, p.outcome.sources.get? name = some (.context origin) →
      ∃ value, p.params.get? name = some value ∧
        (checkpointAt start passed t).context.get? name = some value := by
    intro name origin hname
    obtain ⟨-, hsome, heq⟩ := hfrom name origin hname
    obtain ⟨value, hget⟩ := Option.isSome_iff_exists.mp hsome
    exact ⟨value, heq.trans hget, hget⟩
  constructor
  · intro name hname
    have ho := horigin name none hname
    obtain ⟨value, hparam, hget⟩ := hvalue name none hname
    exact ⟨((h.initial name).mp ho).2, value, hparam, (h.initial_value name ho).symm.trans hget⟩
  · intro name i hname
    have ho := horigin name (some i) hname
    obtain ⟨value, hparam, hget⟩ := hvalue name (some i) hname
    obtain ⟨hlt, hwritten⟩ := (h.produced name i).mp ho
    exact ⟨hlt, hwritten, value, hparam, (h.produced_value name i ho).symm.trans hget⟩

/-! ## Every call of every pipeline -/

/-- Key provenance is true: whatever calls a pipeline has behind it, in its next call the origins
behind any number of nodes name the last writer of every key, and the recorded sources name where
the arguments came from.  The records are kept as the latest run unless the call crashes. -/
theorem Pipeline.provenance_is_true {registry : Registry} {configs : List NodeConfig}
    {p : Pipeline} (hp : Pipeline.new registry configs = .ok p) (history : List ProcessCall)
    (call : ProcessCall) :
    let q := p.processAll history
    let run := (q.process call.filter call.watch call.payload).1
    let start := Checkpoint.start call.payload
    let passed := passages call.filter q.nodes start
    (run.completed = passed.map (·.record call.watch) ∧
      run.origins = (checkpointAt start passed passed.length).origins ∧
      (∀ payload, run.result = .ok payload →
        payload = (checkpointAt start passed passed.length).payload)) ∧
    (∀ t, t ≤ passed.length → TrueOrigins start passed t) ∧
    (∀ (t : Nat) (node : Passage), passed[t]? = some node → p.nodes[t]? = some node.node ∧
      node.before = checkpointAt start passed t ∧ node.after = checkpointAt start passed (t + 1) ∧
      node.node.apply call.filter node.params node.before.payload node.before.origins =
        .ok node.outcome.toEffect ∧
      TrueSources start passed t node) ∧
    ((q.process call.filter call.watch call.payload).2.lastRun = run.completed ∨
      ∃ m, run.result = .crash m ∧
        (q.process call.filter call.watch call.payload).2.lastRun = q.lastRun) := by
  intro q run start passed
  have hlinked : Linked call.filter q.nodes start passed :=
    passages_linked call.filter q.nodes start
  have hindex : ∀ (t : Nat) (node : Node), q.nodes[t]? = some node → node.index = t := by
    intro t node hnode
    rw [Pipeline.processAll_nodes] at hnode
    exact Topology.build_index (Pipeline.nodes_of_new hp) hnode
  refine ⟨?_, fun t ht => hlinked.trueOrigins hindex ht, ?_, q.process_lastRun _ _ _⟩
  · rw [checkpointAt_length]
    exact Run.ofNodes_eq call.filter call.watch q.nodes start
  · intro t node hnode
    have hexecute := hlinked.execute t node hnode
    have ht : t ≤ passed.length := Nat.le_of_lt (List.getElem?_eq_some_iff.mp hnode).1
    have hbefore := hlinked.before t node hnode
    have hposition : p.nodes[t]? = some node.node := by
      rw [← Pipeline.processAll_nodes p history]
      exact hlinked.node t node hnode
    exact ⟨hposition, hbefore, (checkpointAt_succ hnode).symm, Passage.apply_of_execute hexecute,
      (hlinked.trueOrigins hindex ht).trueSources hbefore (Passage.resolve_of_execute hexecute)⟩

theorem Pipeline.provenance_is_true_of_rename :
    let p := Pipeline.ofNodes
      [⟨0, { processor := "rename:a:b" }, .context (Processor.renameKey "a" "b")⟩]
    let payload : Payload := { context := KeyMap.empty.insert "a" (.int 1) }
    let passed := passages .all p.nodes (.start payload)
    Pipeline.new .empty [{ processor := "rename:a:b" }] = .ok p ∧ passed.length = 1 ∧
      (checkpointAt (.start payload) passed 1).origins.entries = [("b", some 0)] ∧
      TrueOrigins (.start payload) passed 1 := by
  intro p payload passed
  have hp : Pipeline.new .empty [{ processor := "rename:a:b" }] = .ok p := rfl
  have hlength : passed.length = 1 := rfl
  refine ⟨hp, hlength, by decide, ?_⟩
  exact (Pipeline.provenance_is_true hp [] ⟨.all, .stopped, payload⟩).2.1 1
    (Nat.le_of_eq hlength.symm)

end Dataflow
