/-
What the nodes of a pipeline declare to do to the context keys.

`Node.declared` lists the declarations of a node as touches: the keys that it deletes, then
the keys that it creates.  Two tables are computed from these declarations before anything
runs, the producers of the inspection and the deleters of the deletion guard.  Neither keeps
a history, but of every key both say what the last declared touch of it says
(`get?_producersOf`, `get?_deletersOf`).  With that the inspection and the guard are stated
position by position, without their tables: `getElem?_inspectFrom`,
`contains_requiredInitialKeys` and `Topology.checkDeletedKeys_eq_ok_iff`.
-/
import Dataflow.Pipeline.Inspection
import Dataflow.Pipeline.Topology
import Dataflow.Proofs.Context.Touch
import Mathlib.Data.List.Induction

namespace Dataflow

namespace Touch

def writer? : Touch → Option Nat
  | ⟨node, _, .write⟩ => some node
  | ⟨_, _, .deletion⟩ => none

def deleter? : Touch → Option Nat
  | ⟨_, _, .write⟩ => none
  | ⟨node, _, .deletion⟩ => some node

theorem last?_map (node : Nat) (kind : TouchKind) (keys : List String) (key : String) :
    last? key (keys.map (⟨node, ·, kind⟩)) =
      if key ∈ keys then some ⟨node, key, kind⟩ else none := by
  induction keys using List.reverseRecOn with
  | nil => rfl
  | append_singleton keys k ih =>
    rw [List.map_append, List.map_singleton, last?_concat, ih]
    by_cases h : k = key
    · simp [h]
    · simp [h, Ne.symm h]

end Touch

/-! ## Declarations -/

namespace Node

/-- The declared deletions and writes of a node.  A key that is both deleted and created counts as
created, so the deletions come first. -/
def declared (node : Node) : List Touch :=
  node.suppressedKeys.map (⟨node.index, ·, .deletion⟩) ++
    node.createdKeys.map (⟨node.index, ·, .write⟩)

theorem last?_declared (node : Node) (key : String) :
    Touch.last? key node.declared =
      if key ∈ node.createdKeys then some ⟨node.index, key, .write⟩
      else if key ∈ node.suppressedKeys then some ⟨node.index, key, .deletion⟩
      else none := by
  rw [declared, Touch.last?_append, Touch.last?_map, Touch.last?_map]
  by_cases h : key ∈ node.createdKeys
  · rw [if_pos h, if_pos h]
    rfl
  · rw [if_neg h, if_neg h]
    rfl

theorem free_declared_iff {node : Node} {key : String} :
    Touch.Free key node.declared ↔ key ∉ node.createdKeys ∧ key ∉ node.suppressedKeys := by
  rw [← Touch.last?_eq_none_iff, last?_declared]
  by_cases hcreated : key ∈ node.createdKeys
  · simp [hcreated]
  · by_cases hsuppressed : key ∈ node.suppressedKeys
    · simp [hcreated, hsuppressed]
    · simp [hcreated, hsuppressed]

end Node

/-- What some nodes declare to do to the keys, in order. -/
def declaredBy (nodes : List Node) : List Touch := nodes.flatMap Node.declared

theorem declaredBy_append (before after : List Node) :
    declaredBy (before ++ after) = declaredBy before ++ declaredBy after :=
  List.flatMap_append

theorem declaredBy_concat (nodes : List Node) (node : Node) :
    declaredBy (nodes ++ [node]) = declaredBy nodes ++ node.declared := by
  rw [declaredBy_append]
  simp [declaredBy]

theorem free_declaredBy_iff {nodes : List Node} {key : String} :
    Touch.Free key (declaredBy nodes) ↔
      ∀ node ∈ nodes, key ∉ node.createdKeys ∧ key ∉ node.suppressedKeys := by
  simp only [declaredBy, Touch.free_flatMap, Node.free_declared_iff]

theorem mem_declaredBy_deletion {nodes : List Node} {i : Nat} {key : String}
    (h : (⟨i, key, .deletion⟩ : Touch) ∈ declaredBy nodes) :
    ∃ node ∈ nodes, key ∈ node.suppressedKeys := by
  obtain ⟨node, hnode, htouch⟩ := List.mem_flatMap.mp h
  refine ⟨node, hnode, ?_⟩
  rcases List.mem_append.mp htouch with h | h
  · obtain ⟨k, hk, heq⟩ := List.mem_map.mp h
    cases heq
    exact hk
  · obtain ⟨k, -, heq⟩ := List.mem_map.mp h
    cases heq

theorem not_suppressed_of_free {nodes : List Node} {key : String}
    (h : Touch.Free key (declaredBy nodes)) : ∀ node ∈ nodes, key ∉ node.suppressedKeys :=
  fun node hnode => (free_declaredBy_iff.mp h node hnode).2

/-! ## The inspection -/

namespace Inspection

/-- The producers behind some nodes. -/
def producersOf (nodes : List Node) : Producers := nodes.foldl updateProducers .empty

theorem get?_updateProducers (producers : Producers) (node : Node) (key : String) :
    (updateProducers producers node).get? key =
      if key ∈ node.createdKeys then some node.index
      else if key ∈ node.suppressedKeys then none
      else producers.get? key := by
  rw [updateProducers, KeyMap.get?_foldl_insert_const, KeyMap.get?_foldl_erase]

/-- The producers name the node that is the last to touch a key, if it writes it. -/
theorem get?_producersOf (nodes : List Node) (key : String) :
    (producersOf nodes).get? key = (Touch.last? key (declaredBy nodes)).bind Touch.writer? := by
  induction nodes using List.reverseRecOn with
  | nil => rfl
  | append_singleton nodes node ih =>
    have hstep : producersOf (nodes ++ [node]) = updateProducers (producersOf nodes) node := by
      simp [producersOf]
    rw [hstep, get?_updateProducers, ih, declaredBy_concat, Touch.last?_append,
      Node.last?_declared]
    by_cases hcreated : key ∈ node.createdKeys
    · simp [hcreated, Touch.writer?]
    · by_cases hsuppressed : key ∈ node.suppressedKeys
      · simp [hcreated, hsuppressed, Touch.writer?]
      · simp [hcreated, hsuppressed]

theorem getElem?_inspectFrom (nodes : List Node) (producers : Producers) (required : KeyMap Unit)
    (t : Nat) :
    (inspectFrom producers required nodes).nodes[t]? =
      nodes[t]?.map (ofNode ((nodes.take t).foldl updateProducers producers)) := by
  induction nodes generalizing producers required t with
  | nil => rfl
  | cons node rest ih =>
    cases t with
    | zero => rfl
    | succ t => exact ih (updateProducers producers node) _ t

theorem contains_addRequired (producers : Producers) (node : Node) (required : KeyMap Unit)
    (key : String) :
    (addRequired producers node required).contains key = true ↔
      required.contains key = true ∨
        key ∈ node.requiredContextKeys ∧ producers.contains key = false := by
  unfold addRequired
  generalize node.requiredContextKeys = keys
  induction keys generalizing required with
  | nil => simp
  | cons k rest ih =>
    rw [List.foldl_cons, ih]
    by_cases hk : producers.contains k = true
    · rw [if_pos hk]
      by_cases heq : key = k
      · simp [heq, hk]
      · simp [heq]
    · rw [if_neg hk, KeyMap.contains, KeyMap.get?_insert]
      by_cases heq : k = key
      · subst heq
        simp [hk]
      · simp [heq, Ne.symm heq, KeyMap.contains]

/-- A key is required initially if some node requires it that no earlier node provides it for. -/
theorem contains_requiredInitialKeys (nodes : List Node) (producers : Producers)
    (required : KeyMap Unit) (key : String) :
    (inspectFrom producers required nodes).requiredInitialKeys.contains key = true ↔
      required.contains key = true ∨
        ∃ (t : Nat) (node : Node), nodes[t]? = some node ∧ key ∈ node.requiredContextKeys ∧
          ((nodes.take t).foldl updateProducers producers).contains key = false := by
  induction nodes generalizing producers required with
  | nil => simp [inspectFrom]
  | cons node rest ih =>
    show (inspectFrom _ _ rest).requiredInitialKeys.contains key = true ↔ _
    rw [ih, contains_addRequired, or_assoc]
    refine or_congr_right ⟨?_, ?_⟩
    · rintro (⟨hkey, hnone⟩ | ⟨t, n, hn, hkey, hnone⟩)
      · exact ⟨0, node, rfl, hkey, hnone⟩
      · exact ⟨t + 1, n, hn, hkey, hnone⟩
    · rintro ⟨t, n, hn, hkey, hnone⟩
      cases t with
      | zero =>
        cases hn
        exact .inl ⟨hkey, hnone⟩
      | succ t => exact .inr ⟨t, n, hn, hkey, hnone⟩

end Inspection

/-! ## The deletion guard -/

namespace Topology

/-- The deleters behind some nodes. -/
def deletersOf (nodes : List Node) : KeyMap Node := nodes.foldl updateDeleters .empty

theorem deletersOf_concat (nodes : List Node) (node : Node) :
    deletersOf (nodes ++ [node]) = updateDeleters (deletersOf nodes) node := by
  simp [deletersOf]

theorem get?_updateDeleters (deleters : KeyMap Node) (node : Node) (key : String) :
    (updateDeleters deleters node).get? key =
      if key ∈ node.createdKeys then none
      else if key ∈ node.suppressedKeys then some node
      else deleters.get? key := by
  rw [updateDeleters, KeyMap.get?_foldl_erase, KeyMap.get?_foldl_insert_const]

/-- The deleters name the node that is the last to touch a key, if it deletes it. -/
theorem get?_deletersOf (nodes : List Node) (key : String) :
    ((deletersOf nodes).get? key).map Node.index =
      (Touch.last? key (declaredBy nodes)).bind Touch.deleter? := by
  induction nodes using List.reverseRecOn with
  | nil => rfl
  | append_singleton nodes node ih =>
    rw [deletersOf_concat, get?_updateDeleters, declaredBy_concat, Touch.last?_append,
      Node.last?_declared]
    by_cases hcreated : key ∈ node.createdKeys
    · simp [hcreated, Touch.deleter?]
    · by_cases hsuppressed : key ∈ node.suppressedKeys
      · simp [hcreated, hsuppressed, Touch.deleter?]
      · simpa [hcreated, hsuppressed] using ih

theorem deletedKey?_eq_none_iff {deleters : KeyMap Node} {keys : List String} :
    deletedKey? deleters keys = none ↔ ∀ key ∈ keys, deleters.get? key = none := by
  induction keys with
  | nil => simp [deletedKey?]
  | cons key rest ih =>
    unfold deletedKey?
    cases h : deleters.get? key with
    | some deleter => simp [h]
    | none => simpa [h] using ih

theorem checkDeletedFrom_cons {deleters : KeyMap Node} {node : Node} {rest : List Node} :
    checkDeletedFrom deleters (node :: rest) = .ok () ↔
      (∀ key ∈ node.requiredContextKeys, deleters.get? key = none) ∧
        checkDeletedFrom (updateDeleters deleters node) rest = .ok () := by
  rw [checkDeletedFrom, ← deletedKey?_eq_none_iff]
  cases deletedKey? deleters node.requiredContextKeys with
  | none => simp
  | some found => simp

theorem checkDeletedFrom_eq_ok_iff {deleters : KeyMap Node} {nodes : List Node} :
    checkDeletedFrom deleters nodes = .ok () ↔
      ∀ (t : Nat) (node : Node), nodes[t]? = some node → ∀ key ∈ node.requiredContextKeys,
        ((nodes.take t).foldl updateDeleters deleters).get? key = none := by
  induction nodes generalizing deleters with
  | nil => simp [checkDeletedFrom]
  | cons node rest ih =>
    rw [checkDeletedFrom_cons, ih]
    constructor
    · rintro ⟨hnode, hrest⟩ t n hn
      cases t with
      | zero =>
        cases hn
        exact hnode
      | succ t => exact hrest t n hn
    · exact fun h => ⟨h 0 node rfl, fun t n hn => h (t + 1) n hn⟩

/-- The guard lets a list pass if no node requires a key whose last declared touch in front of it
is a deletion. -/
theorem checkDeletedKeys_eq_ok_iff {nodes : List Node} :
    checkDeletedKeys nodes = .ok () ↔
      ∀ (t : Nat) (node : Node), nodes[t]? = some node → ∀ key ∈ node.requiredContextKeys,
        (Touch.last? key (declaredBy (nodes.take t))).bind Touch.deleter? = none := by
  refine checkDeletedFrom_eq_ok_iff.trans (forall₂_congr fun t node => forall_congr' fun _ =>
    forall₂_congr fun key _ => ?_)
  rw [← get?_deletersOf, Option.map_eq_none_iff]
  rfl

end Topology
end Dataflow
