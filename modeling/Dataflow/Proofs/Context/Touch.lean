/-
What a context processor does to the keys, and what the gate records of it.

A `Touch` is one write or one deletion of a key by a node.  `Edit.touches` lists the
touches of an edit in order: a refused operation has none, and a renaming has two.
The gate keeps no such list.  It keeps the keys that were written and those that
were deleted, and `Gate.run_shows` says that these are the keys whose last touch is
a write, and those whose last touch is a deletion.
-/
import Dataflow.Context.Gate

namespace Dataflow

/-! ## Touches -/

inductive TouchKind where
  | write
  | deletion
  deriving DecidableEq

/-- A write or a deletion of a key by a node. -/
structure Touch where
  node : Nat
  key : String
  kind : TouchKind
  deriving DecidableEq

namespace Touch

/-- No touch is on the key. -/
def Free (key : String) (touches : List Touch) : Prop := ∀ touch ∈ touches, touch.key ≠ key

/-- The node wrote the key, and nothing touched the key after that. -/
def WrittenLast (node : Nat) (key : String) (touches : List Touch) : Prop :=
  ∃ before after, touches = before ++ ⟨node, key, .write⟩ :: after ∧ Free key after

theorem free_flatMap {α : Type} {key : String} {f : α → List Touch} {items : List α} :
    Free key (items.flatMap f) ↔ ∀ x ∈ items, Free key (f x) := by
  simp only [Free, List.mem_flatMap]
  constructor
  · intro h x hx touch htouch
    exact h touch ⟨x, hx, htouch⟩
  · rintro h touch ⟨x, hx, htouch⟩
    exact h x hx touch htouch

def last? (key : String) (touches : List Touch) : Option Touch :=
  touches.reverse.find? (·.key = key)

theorem last?_append (key : String) (before after : List Touch) :
    last? key (before ++ after) = (last? key after).or (last? key before) := by
  rw [last?, List.reverse_append, List.find?_append]
  rfl

theorem last?_concat (key : String) (touches : List Touch) (touch : Touch) :
    last? key (touches ++ [touch]) =
      if touch.key = key then some touch else last? key touches := by
  rw [last?_append]
  by_cases h : touch.key = key
  · simp [last?, h]
  · simp [last?, h]

theorem last?_eq_none_iff {key : String} {touches : List Touch} :
    last? key touches = none ↔ Free key touches := by
  simp [last?, Free]

theorem key_of_last? {key : String} {touches : List Touch} {touch : Touch}
    (h : last? key touches = some touch) : touch.key = key := by
  simpa using List.find?_some h

theorem mem_of_last? {key : String} {touches : List Touch} {touch : Touch}
    (h : last? key touches = some touch) : touch ∈ touches :=
  List.mem_reverse.mp (List.mem_of_find?_eq_some h)

theorem writtenLast_iff {node : Nat} {key : String} {touches : List Touch} :
    WrittenLast node key touches ↔ last? key touches = some ⟨node, key, .write⟩ := by
  constructor
  · rintro ⟨before, after, rfl, hfree⟩
    have hafter : last? key after = none := last?_eq_none_iff.mpr hfree
    rw [List.append_cons, last?_append, hafter, last?_concat, if_pos rfl]
    rfl
  · intro h
    obtain ⟨-, after, before, hsplit, hfree⟩ := List.find?_eq_some_iff_append.mp h
    refine ⟨before.reverse, after.reverse, ?_, ?_⟩
    · rw [← List.reverse_reverse touches, hsplit, List.reverse_append, List.reverse_cons,
        List.append_assoc]
      rfl
    · intro touch htouch
      simpa using hfree touch (List.mem_reverse.mp htouch)

end Touch

/-- What a permitted operation does to the keys. -/
def GateCall.touches (node : Nat) : GateCall → List Touch
  | .get _ => []
  | .set key _ => [⟨node, key, .write⟩]
  | .delete key => [⟨node, key, .deletion⟩]
  | .rename old new => [⟨node, old, .deletion⟩, ⟨node, new, .write⟩]

/-- What an edit does to the keys, in order. -/
def Edit.touches (node : Nat) : Edit → Gate → List Touch
  | .finish _, _ => []
  | .call c next, gate =>
    let (found, gate') := gate.perform c
    (match found with
      | .ok _ => c.touches node
      | .error _ => []) ++ touches node (next found) gate'

theorem Edit.node_of_mem_touches {node : Nat} {edit : Edit} {gate : Gate} {touch : Touch}
    (h : touch ∈ edit.touches node gate) : touch.node = node := by
  induction edit generalizing gate with
  | finish result => cases h
  | call c next ih =>
    rcases List.mem_append.mp h with h | h
    · split at h
      · cases c with
        | get k => cases h
        | set k value => rw [List.mem_singleton.mp h]
        | delete k => rw [List.mem_singleton.mp h]
        | rename old new =>
          rcases List.mem_cons.mp h with h | h
          · rw [h]
          · rw [List.mem_singleton.mp h]
      · cases h
    · exact ih _ h

/-! ## What the gate records -/

theorem mem_addKey {key k : String} {keys : List String} :
    k ∈ addKey key keys ↔ k = key ∨ k ∈ keys := by
  unfold addKey
  split
  · rename_i hmem
    exact ⟨.inr, fun h => h.elim (fun h => h ▸ hmem) id⟩
  · simp [or_comm]

/-- A fold that adds elements to a list adds those of its items. -/
theorem mem_foldl_iff {α β : Type} {f : List α → β → List α} {a : α} {adds : β → Prop}
    (hf : ∀ l x, a ∈ f l x ↔ a ∈ l ∨ adds x) {items : List β} {l : List α} :
    a ∈ items.foldl f l ↔ a ∈ l ∨ ∃ x ∈ items, adds x := by
  induction items generalizing l with
  | nil => simp
  | cons x rest ih =>
    rw [List.foldl_cons, ih, hf, or_assoc]
    simp

theorem mem_dropKey {key k : String} {keys : List String} :
    k ∈ dropKey key keys ↔ k ∈ keys ∧ k ≠ key := by
  simp [dropKey]

namespace Gate

/-- Writes a key, permitted or not. -/
def write (gate : Gate) (key : String) (value : Json) : Gate :=
  { gate with context := gate.context.insert key value }.recordCreated key

/-- Deletes a key, permitted or not. -/
def remove (gate : Gate) (key : String) : Gate :=
  { gate with context := gate.context.erase key }.recordDeleted key

/-- The gate tells of a key what its last touch tells; `before` is what the context first had. -/
def Shows (gate : Gate) (before : Option Json) (key : String) : Option Touch → Prop
  | none => gate.get? key = before ∧ key ∉ gate.created ∧ key ∉ gate.deleted
  | some ⟨_, _, .write⟩ => (gate.get? key).isSome ∧ key ∈ gate.created ∧ key ∉ gate.deleted
  | some ⟨_, _, .deletion⟩ => gate.get? key = none ∧ key ∉ gate.created ∧ key ∈ gate.deleted

variable {gate : Gate} {before : Option Json} {key : String}

theorem shows_write (node : Nat) (gate : Gate) (before : Option Json) (key : String)
    (value : Json) : (gate.write key value).Shows before key (some ⟨node, key, .write⟩) := by
  refine ⟨?_, mem_addKey.mpr (.inl rfl), fun h => (mem_dropKey.mp h).2 rfl⟩
  show ((gate.context.insert key value).get? key).isSome = true
  rw [KeyMap.get?_insert_self]
  rfl

theorem shows_remove (node : Nat) (gate : Gate) (before : Option Json) (key : String) :
    (gate.remove key).Shows before key (some ⟨node, key, .deletion⟩) :=
  ⟨KeyMap.get?_erase_self gate.context key, fun h => (mem_dropKey.mp h).2 rfl,
    mem_addKey.mpr (.inl rfl)⟩

/-- What a gate shows of a key depends only on the value and the records of that key. -/
theorem Shows.congr {gate' : Gate} {touch? : Option Touch} (h : gate.Shows before key touch?)
    (hget : gate'.get? key = gate.get? key) (hcreated : key ∈ gate'.created ↔ key ∈ gate.created)
    (hdeleted : key ∈ gate'.deleted ↔ key ∈ gate.deleted) : gate'.Shows before key touch? := by
  match touch?, h with
  | none, h =>
    exact ⟨hget.trans h.1, fun hk => h.2.1 (hcreated.mp hk), fun hk => h.2.2 (hdeleted.mp hk)⟩
  | some ⟨_, _, .write⟩, h =>
    exact ⟨hget ▸ h.1, hcreated.mpr h.2.1, fun hk => h.2.2 (hdeleted.mp hk)⟩
  | some ⟨_, _, .deletion⟩, h =>
    exact ⟨hget.trans h.1, fun hk => h.2.1 (hcreated.mp hk), hdeleted.mpr h.2.2⟩

theorem Shows.write {touches : List Touch} (h : gate.Shows before key (Touch.last? key touches))
    (node : Nat) (k : String) (value : Json) :
    (gate.write k value).Shows before key (Touch.last? key (touches ++ [⟨node, k, .write⟩])) := by
  rw [Touch.last?_concat]
  by_cases hk : k = key
  · subst hk
    rw [if_pos rfl]
    exact shows_write node gate before k value
  · rw [if_neg hk]
    have hne : key ≠ k := Ne.symm hk
    refine h.congr (KeyMap.get?_insert_ne gate.context hk value) ?_ ?_
    · exact mem_addKey.trans (by simp [hne])
    · exact mem_dropKey.trans (by simp [hne])

theorem Shows.remove {touches : List Touch} (h : gate.Shows before key (Touch.last? key touches))
    (node : Nat) (k : String) :
    (gate.remove k).Shows before key (Touch.last? key (touches ++ [⟨node, k, .deletion⟩])) := by
  rw [Touch.last?_concat]
  by_cases hk : k = key
  · subst hk
    rw [if_pos rfl]
    exact shows_remove node gate before k
  · rw [if_neg hk]
    have hne : key ≠ k := Ne.symm hk
    refine h.congr (KeyMap.get?_erase_ne gate.context hk) ?_ ?_
    · exact mem_dropKey.trans (by simp [hne])
    · exact mem_addKey.trans (by simp [hne])

theorem check_ok {allowed : List String} {key : String} (h : key ∈ allowed) (gate : Gate) :
    gate.check allowed key = .ok () := if_pos h

theorem check_error {allowed : List String} {key : String} (h : key ∉ allowed) (gate : Gate) :
    gate.check allowed key = .error (.undeclaredContextKey gate.processor key) := if_neg h

theorem set_eq (gate : Gate) (key : String) (value : Json) :
    gate.set key value =
      if key ∈ gate.writable then .ok (gate.write key value)
      else .error (.undeclaredContextKey gate.processor key) := by
  unfold set
  by_cases h : key ∈ gate.writable
  · rw [check_ok h, if_pos h]
    rfl
  · rw [check_error h, if_neg h]
    rfl

theorem delete_eq (gate : Gate) (key : String) :
    gate.delete key =
      if key ∈ gate.deletable then .ok (gate.get? key, gate.remove key)
      else .error (.undeclaredContextKey gate.processor key) := by
  unfold delete
  by_cases h : key ∈ gate.deletable
  · rw [check_ok h, if_pos h]
    rfl
  · rw [check_error h, if_neg h]
    rfl

/-- A renaming is a deletion and a write of what was deleted. -/
theorem rename_eq (gate : Gate) (old new : String) :
    gate.rename old new =
      if old ∉ gate.deletable then .error (.undeclaredContextKey gate.processor old)
      else if new ∉ gate.writable then .error (.undeclaredContextKey gate.processor new)
      else match gate.get? old with
        | none => .error (.context (.missingKey old))
        | some value => .ok ((gate.remove old).write new value) := by
  unfold rename
  by_cases hold : old ∈ gate.deletable
  · rw [check_ok hold, if_neg (not_not_intro hold)]
    by_cases hnew : new ∈ gate.writable
    · rw [check_ok hnew, if_neg (not_not_intro hnew)]
      have hcontext : gate.context.rename old new =
          match gate.get? old with
          | none => .error (.missingKey old)
          | some value => .ok ((gate.context.erase old).insert new value) := rfl
      rw [hcontext]
      cases gate.get? old with
      | none => rfl
      | some value => rfl
    · rw [check_error hnew, if_pos hnew]
      rfl
  · rw [check_error hold, if_pos hold]
    rfl

/-- One operation keeps what the gate shows in step with the touches. -/
theorem Shows.perform {touches : List Touch}
    (h : gate.Shows before key (Touch.last? key touches)) (node : Nat) (c : GateCall) :
    (gate.perform c).2.Shows before key (Touch.last? key (touches ++
      match (gate.perform c).1 with
      | .ok _ => c.touches node
      | .error _ => [])) := by
  cases c with
  | get k => simpa [Gate.perform, answer, GateCall.touches] using h
  | set k value =>
    simp only [Gate.perform, answer, set_eq]
    by_cases hk : k ∈ gate.writable
    · rw [if_pos hk]
      exact h.write node k value
    · rw [if_neg hk]
      simpa [Except.map] using h
  | delete k =>
    simp only [Gate.perform, answer, delete_eq]
    by_cases hk : k ∈ gate.deletable
    · rw [if_pos hk]
      exact h.remove node k
    · rw [if_neg hk]
      simpa using h
  | rename old new =>
    simp only [Gate.perform, answer, rename_eq]
    by_cases hold : old ∈ gate.deletable
    · rw [if_neg (not_not_intro hold)]
      by_cases hnew : new ∈ gate.writable
      · rw [if_neg (not_not_intro hnew)]
        cases gate.get? old with
        | none => simpa [Except.map] using h
        | some value =>
          have hboth := (h.remove node old).write node new value
          rw [List.append_assoc] at hboth
          exact hboth
      · rw [if_pos hnew]
        simpa [Except.map] using h
    · rw [if_pos hold]
      simpa [Except.map] using h

theorem Shows.run {touches : List Touch}
    (h : gate.Shows before key (Touch.last? key touches)) (node : Nat) (edit : Edit) :
    (run edit gate).2.Shows before key (Touch.last? key (touches ++ edit.touches node gate)) := by
  induction edit generalizing gate touches with
  | finish result => simpa [Gate.run, Edit.touches] using h
  | call c next ih =>
    have hnext := ih (gate.perform c).1 (h.perform node c)
    rw [List.append_assoc] at hnext
    exact hnext

/-- Behind any edit a new gate shows of every key what its last touch tells. -/
theorem run_shows (context : Context) (processor : String) (writable deletable : List String)
    (node : Nat) (edit : Edit) (key : String) :
    (run edit (.new context processor writable deletable)).2.Shows (context.get? key) key
      (Touch.last? key (edit.touches node (.new context processor writable deletable))) :=
  have hnew : (Gate.new context processor writable deletable).Shows (context.get? key) key
      (Touch.last? key []) := ⟨rfl, List.not_mem_nil, List.not_mem_nil⟩
  hnew.run node edit

end Gate
end Dataflow
