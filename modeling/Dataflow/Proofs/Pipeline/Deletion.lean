/-
The deletion guard rejects exactly the lists that are statically broken.

The guard goes over the nodes once and keeps a table of deleters.  `DeletedBy` says without
the table what a list of nodes leaves deleted: the last node that deletes or creates the key
deletes it.  What one more node does to the table (`get?_updateDeleters`) is what it does to this
property (`deletedBy_concat_iff`), so the two agree behind every list
(`get?_deletersOf_eq_some_iff`), and the node, the key and the deleter that the guard reports are
the first offence of the list.
-/
import Dataflow.Proofs.Pipeline.Declared
import Dataflow.Proofs.Pipeline.Passage
import Dataflow.Proofs.Pipeline.Resolution

namespace Dataflow
namespace Topology

/-- The last of the nodes that deletes or creates the key deletes it and does not create it. -/
def DeletedBy (nodes : List Node) (key : String) (deleter : Node) : Prop :=
  ∃ earlier later, nodes = earlier ++ deleter :: later ∧
    key ∈ deleter.suppressedKeys ∧ key ∉ deleter.createdKeys ∧
    ∀ node ∈ later, key ∉ node.suppressedKeys ∧ key ∉ node.createdKeys

/-- The node at position `t` requires a key that the nodes in front of it leave deleted. -/
structure Offence (nodes : List Node) (t : Nat) (node : Node) (key : String) (deleter : Node) :
    Prop where
  at_position : nodes[t]? = some node
  requires : key ∈ node.requiredContextKeys
  deleted : DeletedBy (nodes.take t) key deleter

/-- The offence of the first node that offends, through the first of its required keys that is
deleted. -/
structure FirstOffence (nodes : List Node) (t : Nat) (node : Node) (key : String)
    (deleter : Node) : Prop extends Offence nodes t node key deleter where
  first_node : ∀ s n k d, Offence nodes s n k d → t ≤ s
  first_key : ∃ before after, node.requiredContextKeys = before ++ key :: after ∧
    ∀ k ∈ before, ∀ d, ¬ DeletedBy (nodes.take t) k d

variable {nodes : List Node} {node deleter : Node} {key : String} {t : Nat}

theorem deletedBy_concat_iff :
    DeletedBy (nodes ++ [node]) key deleter ↔
      if key ∈ node.createdKeys then False
      else if key ∈ node.suppressedKeys then node = deleter
      else DeletedBy nodes key deleter := by
  have hconcat : DeletedBy (nodes ++ [node]) key deleter ↔
      node = deleter ∧ key ∈ deleter.suppressedKeys ∧ key ∉ deleter.createdKeys ∨
        key ∉ node.suppressedKeys ∧ key ∉ node.createdKeys ∧ DeletedBy nodes key deleter := by
    have hlast := exists_last_concat_iff (l := nodes) (x := deleter) (y := node)
      (P := fun n => key ∈ n.suppressedKeys ∧ key ∉ n.createdKeys)
      (Q := fun n => key ∉ n.suppressedKeys ∧ key ∉ n.createdKeys)
    simp only [and_assoc] at hlast
    exact hlast
  rw [hconcat]
  constructor
  · rintro (⟨rfl, hsuppressed, hcreated⟩ | ⟨hsuppressed, hcreated, h⟩)
    · rw [if_neg hcreated, if_pos hsuppressed]
    · rwa [if_neg hcreated, if_neg hsuppressed]
  · intro h
    split at h
    · exact h.elim
    · rename_i hcreated
      split at h
      · rename_i hsuppressed
        subst h
        exact .inl ⟨rfl, hsuppressed, hcreated⟩
      · rename_i hsuppressed
        exact .inr ⟨hsuppressed, hcreated, h⟩

theorem get?_deletersOf_eq_some_iff :
    (deletersOf nodes).get? key = some deleter ↔ DeletedBy nodes key deleter := by
  induction nodes using List.reverseRecOn with
  | nil =>
    constructor
    · intro h
      cases h
    · rintro ⟨earlier, later, hsplit, -⟩
      simp at hsplit
  | append_singleton nodes node ih =>
    rw [deletersOf_concat, get?_updateDeleters, deletedBy_concat_iff, ← ih]
    split
    · simp
    · split
      · exact Option.some_inj
      · rfl

theorem get?_deletersOf_eq_none_iff :
    (deletersOf nodes).get? key = none ↔ ∀ deleter, ¬ DeletedBy nodes key deleter := by
  simp only [← get?_deletersOf_eq_some_iff, Option.eq_none_iff_forall_ne_some]

theorem deletedKey?_eq_some_iff {deleters : KeyMap Node} {keys : List String} :
    deletedKey? deleters keys = some (key, deleter) ↔
      ∃ before after, keys = before ++ key :: after ∧
        (∀ k ∈ before, deleters.get? k = none) ∧ deleters.get? key = some deleter := by
  induction keys with
  | nil =>
    constructor
    · intro h
      cases h
    · rintro ⟨before, after, hsplit, -⟩
      simp at hsplit
  | cons k rest ih =>
    rw [deletedKey?]
    cases hk : deleters.get? k with
    | some d =>
      constructor
      · intro h
        cases h
        exact ⟨[], rest, rfl, by simp, hk⟩
      · rintro ⟨before, after, hsplit, hbefore, hkey⟩
        cases before with
        | nil =>
          cases hsplit
          cases hk.symm.trans hkey
          rfl
        | cons first before =>
          cases hsplit
          cases hk.symm.trans (hbefore _ List.mem_cons_self)
    | none =>
      refine ih.trans ⟨?_, ?_⟩
      · rintro ⟨before, after, rfl, hbefore, hkey⟩
        exact ⟨k :: before, after, rfl, List.forall_mem_cons.mpr ⟨hk, hbefore⟩, hkey⟩
      · rintro ⟨before, after, hsplit, hbefore, hkey⟩
        cases before with
        | nil =>
          cases hsplit
          cases hk.symm.trans hkey
        | cons first before =>
          cases hsplit
          exact ⟨before, after, rfl, fun x hx => hbefore x (List.mem_cons_of_mem _ hx), hkey⟩

/-- The guard stops at the first node that requires a deleted key, whatever follows it. -/
theorem checkDeletedFrom_eq_error_iff {deleters : KeyMap Node} {e : TopologyError} :
    checkDeletedFrom deleters nodes = .error e ↔
      ∃ t node key deleter, nodes[t]? = some node ∧
        checkDeletedFrom deleters (nodes.take t) = .ok () ∧
        deletedKey? ((nodes.take t).foldl updateDeleters deleters) node.requiredContextKeys =
          some (key, deleter) ∧
        e = .deletedKeyRequired node.index node.name key deleter.index deleter.name := by
  induction nodes generalizing deleters with
  | nil =>
    constructor
    · intro h
      cases h
    · rintro ⟨t, node, key, deleter, hnode, -⟩
      simp at hnode
  | cons head rest ih =>
    cases hhead : deletedKey? deleters head.requiredContextKeys with
    | some found =>
      obtain ⟨key, deleter⟩ := found
      rw [checkDeletedFrom, hhead]
      constructor
      · intro h
        cases h
        exact ⟨0, head, key, deleter, rfl, rfl, hhead, rfl⟩
      · rintro ⟨t, node, k, d, hnode, hok, hfound, rfl⟩
        cases t with
        | zero =>
          cases hnode
          cases hhead.symm.trans hfound
          rfl
        | succ t =>
          rw [List.take_succ_cons, checkDeletedFrom, hhead] at hok
          cases hok
    | none =>
      rw [checkDeletedFrom, hhead]
      refine ih.trans ⟨?_, ?_⟩
      · rintro ⟨t, node, key, deleter, hnode, hok, hfound, he⟩
        refine ⟨t + 1, node, key, deleter, hnode, ?_, hfound, he⟩
        rw [List.take_succ_cons, checkDeletedFrom, hhead]
        exact hok
      · rintro ⟨t, node, key, deleter, hnode, hok, hfound, he⟩
        cases t with
        | zero =>
          cases hnode
          cases hhead.symm.trans hfound
        | succ t =>
          rw [List.take_succ_cons, checkDeletedFrom, hhead] at hok
          exact ⟨t, node, key, deleter, hnode, hok, hfound, he⟩

theorem checkDeletedKeys_eq_ok_iff_no_offence :
    checkDeletedKeys nodes = .ok () ↔ ∀ t node key deleter, ¬ Offence nodes t node key deleter := by
  refine checkDeletedFrom_eq_ok_iff.trans ⟨?_, ?_⟩
  · rintro h t node key deleter ⟨hnode, hkey, hdeleted⟩
    exact get?_deletersOf_eq_none_iff.mp (h t node hnode key hkey) deleter hdeleted
  · intro h t node hnode key hkey
    exact get?_deletersOf_eq_none_iff.mpr fun deleter hdeleted =>
      h t node key deleter ⟨hnode, hkey, hdeleted⟩

theorem offence_take_iff {s : Nat} :
    Offence (nodes.take t) s node key deleter ↔ s < t ∧ Offence nodes s node key deleter := by
  constructor
  · rintro ⟨hnode, hkey, hdeleted⟩
    rw [List.getElem?_take, Option.ite_none_right_eq_some] at hnode
    obtain ⟨hs, hnode⟩ := hnode
    rw [List.take_take, Nat.min_eq_left (Nat.le_of_lt hs)] at hdeleted
    exact ⟨hs, hnode, hkey, hdeleted⟩
  · rintro ⟨hs, hnode, hkey, hdeleted⟩
    refine ⟨by rwa [List.getElem?_take_of_lt hs], hkey, ?_⟩
    rwa [List.take_take, Nat.min_eq_left (Nat.le_of_lt hs)]

theorem checkDeletedKeys_eq_error_iff {e : TopologyError} :
    checkDeletedKeys nodes = .error e ↔ ∃ t node key deleter,
      FirstOffence nodes t node key deleter ∧
        e = .deletedKeyRequired node.index node.name key deleter.index deleter.name := by
  refine checkDeletedFrom_eq_error_iff.trans (exists₄_congr fun t node key deleter => ?_)
  have hfound : deletedKey? (deletersOf (nodes.take t)) node.requiredContextKeys =
      some (key, deleter) ↔ ∃ before after, node.requiredContextKeys = before ++ key :: after ∧
        (∀ k ∈ before, ∀ d, ¬ DeletedBy (nodes.take t) k d) ∧
          DeletedBy (nodes.take t) key deleter := by
    simp only [deletedKey?_eq_some_iff, get?_deletersOf_eq_none_iff, get?_deletersOf_eq_some_iff]
  rw [show checkDeletedFrom .empty (nodes.take t) = checkDeletedKeys (nodes.take t) from rfl,
    checkDeletedKeys_eq_ok_iff_no_offence, ← deletersOf, hfound]
  constructor
  · rintro ⟨hnode, hpasses, ⟨before, after, hkeys, hbefore, hdeleted⟩, he⟩
    have hkey : key ∈ node.requiredContextKeys := hkeys ▸ by simp
    refine ⟨⟨⟨hnode, hkey, hdeleted⟩, fun s n k d hoffence => ?_, before, after, hkeys, hbefore⟩,
      he⟩
    by_contra hs
    exact hpasses s n k d (offence_take_iff.mpr ⟨Nat.lt_of_not_le hs, hoffence⟩)
  · rintro ⟨⟨⟨hnode, -, hdeleted⟩, hfirst, before, after, hkeys, hbefore⟩, he⟩
    refine ⟨hnode, fun s n k d hoffence => ?_, ⟨before, after, hkeys, hbefore, hdeleted⟩, he⟩
    obtain ⟨hs, hoffence⟩ := offence_take_iff.mp hoffence
    exact Nat.not_le_of_lt hs (hfirst s n k d hoffence)

theorem index_of_offence {registry : Registry} {configs : List NodeConfig}
    (hbound : bindFrom registry 0 configs = .ok nodes) (h : Offence nodes t node key deleter) :
    node.index = t ∧ deleter.index < t ∧ nodes[deleter.index]? = some deleter := by
  obtain ⟨hnode, -, earlier, later, hsplit, -⟩ := h
  have hmem : deleter ∈ nodes.take t := hsplit ▸ by simp
  exact ⟨by simpa using bindFrom_index hbound t node hnode, index_of_mem_take hbound hmem⟩

/-- The deletion guard is exact.  It fails if and only if some node requires a key such that the
last node in front that deletes or creates it deletes it, and it reports the first such node, the
first such key in the order in which the node requires them, and the last deleter.  A parameter is
such a key only if it has neither a configured value nor a default, unless the processor reads the
key from the context itself.  Nodes that were bound from a list are reported by their positions. -/
theorem deletion_guard_is_exact (nodes : List Node) :
    ((∃ e, checkDeletedKeys nodes = .error e) ↔
      ∃ t node key deleter, Offence nodes t node key deleter) ∧
    (∀ e, checkDeletedKeys nodes = .error e ↔ ∃ t node key deleter,
      FirstOffence nodes t node key deleter ∧
        e = .deletedKeyRequired node.index node.name key deleter.index deleter.name) ∧
    (∀ t node key deleter, Offence nodes t node key deleter →
      (∃ spec ∈ node.processor.parameters, spec.isRequired = true ∧
        node.isConfigured spec.name = false ∧ spec.name = key) ∨
      key ∈ node.processor.requiredKeys) ∧
    ∀ registry configs, bindFrom registry 0 configs = .ok nodes →
      ∀ t node key deleter, Offence nodes t node key deleter →
        node.index = t ∧ deleter.index < t ∧ nodes[deleter.index]? = some deleter := by
  refine ⟨⟨?_, ?_⟩, fun e => checkDeletedKeys_eq_error_iff, ?_, ?_⟩
  · rintro ⟨e, h⟩
    obtain ⟨t, node, key, deleter, hfirst, -⟩ := checkDeletedKeys_eq_error_iff.mp h
    exact ⟨t, node, key, deleter, hfirst.toOffence⟩
  · rintro ⟨t, node, key, deleter, hoffence⟩
    cases h : checkDeletedKeys nodes with
    | ok u => exact absurd hoffence (checkDeletedKeys_eq_ok_iff_no_offence.mp h _ _ _ _)
    | error e => exact ⟨e, rfl⟩
  · exact fun t node key deleter h => Node.mem_requiredContextKeys.mp h.requires
  · exact fun registry configs hbound t node key deleter => index_of_offence hbound

/-- Of two deleted keys the first in the order of the requirements is reported, with the last of its
deleters and not the one before it was created anew; a key that stays created is no offence. -/
theorem deletion_guard_is_exact_of_template :
    let broken : List NodeConfig := [{ processor := "delete:a" }, { processor := "delete:k" },
      { processor := "rename:x:k" }, { processor := "delete:k" },
      { processor := "template:{k}{a}:out" }]
    let sound : List NodeConfig := [{ processor := "delete:k" }, { processor := "rename:x:k" },
      { processor := "template:{k}:out" }]
    (∃ nodes, bindFrom .builtin 0 broken = .ok nodes ∧
      checkDeletedKeys nodes = .error
        (.deletedKeyRequired 4 "template:{k}{a}:out" "k" 3 "delete:k") ∧
      ∃ node deleter, FirstOffence nodes 4 node "k" deleter ∧ nodes[3]? = some deleter) ∧
    ∃ nodes, bindFrom .builtin 0 sound = .ok nodes ∧
      ∀ t node key deleter, ¬ Offence nodes t node key deleter := by
  intro broken sound
  constructor
  · obtain ⟨nodes, hbound, hcheck⟩ : ∃ nodes, bindFrom .builtin 0 broken = .ok nodes ∧
        checkDeletedKeys nodes = .error
          (.deletedKeyRequired 4 "template:{k}{a}:out" "k" 3 "delete:k") := ⟨_, rfl, rfl⟩
    obtain ⟨-, herror, -, hindex⟩ := deletion_guard_is_exact nodes
    obtain ⟨t, node, key, deleter, hfirst, he⟩ := (herror _).mp hcheck
    obtain ⟨ht, -, hdeleter⟩ := hindex _ _ hbound t node key deleter hfirst.toOffence
    obtain ⟨hnode, -, rfl, hposition, -⟩ := TopologyError.deletedKeyRequired.inj he
    rw [← hnode] at ht
    rw [← hposition] at hdeleter
    exact ⟨nodes, hbound, hcheck, node, deleter, ht ▸ hfirst, hdeleter⟩
  · obtain ⟨nodes, hbound, hcheck⟩ : ∃ nodes, bindFrom .builtin 0 sound = .ok nodes ∧
        checkDeletedKeys nodes = .ok () := ⟨_, rfl, rfl⟩
    refine ⟨nodes, hbound, fun t node key deleter hoffence => ?_⟩
    obtain ⟨e, he⟩ := (deletion_guard_is_exact nodes).1.mpr ⟨t, node, key, deleter, hoffence⟩
    cases hcheck.symm.trans he

end Topology
end Dataflow
