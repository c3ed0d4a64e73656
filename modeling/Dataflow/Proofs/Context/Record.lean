/-
The gate records exactly what happened to the context.

`Gate.Records` is what the two lists of a gate tell of the context it was opened on: which keys are
there now, which are gone, and that nothing else changed.  Every operation keeps it, and so does
every sequence of operations.  An operation is refused for the reasons that `GateCall.Refused`
lists, in that order.

That a refused operation changes nothing is no matter of how the gate is written down:
`GateCall.inPlace` performs an operation change by change, so that a late refusal would leave the
earlier changes behind, and it comes to the same (`Gate.inPlace_eq_perform`).
-/
import Dataflow.Proofs.Context.Touch
import Mathlib.Data.List.Nodup

namespace Dataflow

/-- An entry that is not there can be erased. -/
theorem KeyMap.erase_of_get?_eq_none {α : Type} {m : KeyMap α} {key : String}
    (h : m.get? key = none) : m.erase key = m := by
  refine ext_get? fun k => ?_
  rw [get?_erase]
  split
  · rename_i hk
    exact hk ▸ h.symm
  · rfl

theorem nodup_addKey {keys : List String} (h : keys.Nodup) (key : String) :
    (addKey key keys).Nodup := by
  unfold addKey
  split
  · exact h
  · rename_i hkey
    rw [← List.concat_eq_append]
    exact h.concat hkey

theorem nodup_dropKey {keys : List String} (h : keys.Nodup) (key : String) :
    (dropKey key keys).Nodup := h.filter _

/-- Why an operation is refused on a context, with the keys that may be written and deleted. -/
inductive GateCall.Refused (processor : String) (writable deletable : List String)
    (context : Context) : GateCall → ProcessorError → Prop
  | set {key : String} {value : Json} (hkey : key ∉ writable) :
      Refused processor writable deletable context (.set key value)
        (.undeclaredContextKey processor key)
  | delete {key : String} (hkey : key ∉ deletable) :
      Refused processor writable deletable context (.delete key)
        (.undeclaredContextKey processor key)
  | renameOld {old new : String} (hold : old ∉ deletable) :
      Refused processor writable deletable context (.rename old new)
        (.undeclaredContextKey processor old)
  | renameNew {old new : String} (hold : old ∈ deletable) (hnew : new ∉ writable) :
      Refused processor writable deletable context (.rename old new)
        (.undeclaredContextKey processor new)
  | missing {old new : String} (hold : old ∈ deletable) (hnew : new ∈ writable)
      (hmissing : context.get? old = none) :
      Refused processor writable deletable context (.rename old new) (.context (.missingKey old))

namespace Gate

variable {gate : Gate}

/-- What a call can do to a gate. -/
inductive Performed (gate : Gate) : GateCall → Except ProcessorError (Option Json) × Gate → Prop
  | got (key : String) : Performed gate (.get key) (.ok (gate.get? key), gate)
  | wrote {key : String} (hkey : key ∈ gate.writable) (value : Json) :
      Performed gate (.set key value) (.ok none, gate.write key value)
  | removed {key : String} (hkey : key ∈ gate.deletable) :
      Performed gate (.delete key) (.ok (gate.get? key), gate.remove key)
  | renamed {old new : String} {value : Json} (hold : old ∈ gate.deletable)
      (hnew : new ∈ gate.writable) (hvalue : gate.get? old = some value) :
      Performed gate (.rename old new) (.ok none, (gate.remove old).write new value)
  | refused {c : GateCall} {e : ProcessorError}
      (h : c.Refused gate.processor gate.writable gate.deletable gate.context e) :
      Performed gate c (.error e, gate)

theorem performed (gate : Gate) (c : GateCall) : gate.Performed c (gate.perform c) := by
  cases c with
  | get key => exact .got key
  | set key value =>
    simp only [Gate.perform, answer, set_eq]
    by_cases hkey : key ∈ gate.writable
    · rw [if_pos hkey]
      exact .wrote hkey value
    · rw [if_neg hkey]
      exact .refused (.set hkey)
  | delete key =>
    simp only [Gate.perform, answer, delete_eq]
    by_cases hkey : key ∈ gate.deletable
    · rw [if_pos hkey]
      exact .removed hkey
    · rw [if_neg hkey]
      exact .refused (.delete hkey)
  | rename old new =>
    simp only [Gate.perform, answer, rename_eq]
    by_cases hold : old ∈ gate.deletable
    · rw [if_neg (not_not_intro hold)]
      by_cases hnew : new ∈ gate.writable
      · rw [if_neg (not_not_intro hnew)]
        cases hvalue : gate.get? old with
        | none => exact .refused (.missing hold hnew hvalue)
        | some value => exact .renamed hold hnew hvalue
      · rw [if_pos hnew]
        exact .refused (.renameNew hold hnew)
    · rw [if_pos hold]
      exact .refused (.renameOld hold)

theorem perform_of_refused {c : GateCall} {e : ProcessorError}
    (h : c.Refused gate.processor gate.writable gate.deletable gate.context e) :
    gate.perform c = (.error e, gate) := by
  cases h with
  | set hkey => rw [Gate.perform, answer, set_eq, if_neg hkey]; rfl
  | delete hkey => rw [Gate.perform, answer, delete_eq, if_neg hkey]
  | renameOld hold => rw [Gate.perform, answer, rename_eq, if_pos hold]; rfl
  | renameNew hold hnew =>
    rw [Gate.perform, answer, rename_eq, if_neg (not_not_intro hold), if_pos hnew]
    rfl
  | missing hold hnew hmissing =>
    rw [Gate.perform, answer, rename_eq, if_neg (not_not_intro hold), if_neg (not_not_intro hnew),
      show gate.get? _ = none from hmissing]
    rfl

theorem perform_eq_error_iff (c : GateCall) (e : ProcessorError) :
    (gate.perform c).1 = .error e ↔
      c.Refused gate.processor gate.writable gate.deletable gate.context e := by
  refine ⟨fun h => ?_, fun h => by rw [perform_of_refused h]⟩
  have hperformed := gate.performed c
  generalize gate.perform c = result at h hperformed
  cases hperformed with
  | refused hrefused =>
    cases h
    exact hrefused
  | _ => cases h

/-! ## What the record says -/

/-- The two lists tell how the context of the gate differs from the one it was opened on, and keep
to the keys that may be written and deleted. -/
structure Records (gate : Gate) (context : Context) (writable deletable : List String) : Prop where
  nodup_created : gate.created.Nodup
  nodup_deleted : gate.deleted.Nodup
  disjoint : ∀ key ∈ gate.created, key ∉ gate.deleted
  writable : ∀ key ∈ gate.created, key ∈ writable
  deletable : ∀ key ∈ gate.deleted, key ∈ deletable
  present : ∀ key ∈ gate.created, ∃ value, gate.context.get? key = some value
  absent : ∀ key ∈ gate.deleted, gate.context.get? key = none
  unchanged : ∀ key, key ∉ gate.created → key ∉ gate.deleted →
    gate.context.get? key = context.get? key

namespace Records

variable {context : Context} {writable deletable : List String}

theorem new (context : Context) (processor : String) (writable deletable : List String) :
    (Gate.new context processor writable deletable).Records context writable deletable where
  nodup_created := List.nodup_nil
  nodup_deleted := List.nodup_nil
  disjoint := nofun
  writable := nofun
  deletable := nofun
  present := nofun
  absent := nofun
  unchanged _ _ _ := rfl

theorem write (h : gate.Records context writable deletable) {key : String} (hkey : key ∈ writable)
    (value : Json) : (gate.write key value).Records context writable deletable where
  nodup_created := nodup_addKey h.nodup_created key
  nodup_deleted := nodup_dropKey h.nodup_deleted key
  disjoint k hk hdeleted := by
    obtain ⟨hdeleted, hne⟩ := mem_dropKey.mp hdeleted
    exact h.disjoint k ((mem_addKey.mp hk).resolve_left hne) hdeleted
  writable k hk := (mem_addKey.mp hk).elim (fun hk => hk ▸ hkey) (h.writable k)
  deletable k hk := h.deletable k (mem_dropKey.mp hk).1
  present k hk := by
    show ∃ found, (gate.context.insert key value).get? k = some found
    rw [KeyMap.get?_insert]
    split
    · exact ⟨value, rfl⟩
    · rename_i hne
      exact h.present k ((mem_addKey.mp hk).resolve_left (Ne.symm hne))
  absent k hk := by
    obtain ⟨hk, hne⟩ := mem_dropKey.mp hk
    exact (KeyMap.get?_insert_ne gate.context hne.symm value).trans (h.absent k hk)
  unchanged k hcreated hdeleted := by
    obtain ⟨hne, hcreated⟩ := not_or.mp (mt mem_addKey.mpr hcreated)
    refine (KeyMap.get?_insert_ne gate.context (Ne.symm hne) value).trans
      (h.unchanged k hcreated fun hk => hdeleted (mem_dropKey.mpr ⟨hk, hne⟩))

theorem remove (h : gate.Records context writable deletable) {key : String}
    (hkey : key ∈ deletable) : (gate.remove key).Records context writable deletable where
  nodup_created := nodup_dropKey h.nodup_created key
  nodup_deleted := nodup_addKey h.nodup_deleted key
  disjoint k hk hdeleted := by
    obtain ⟨hk, hne⟩ := mem_dropKey.mp hk
    exact h.disjoint k hk ((mem_addKey.mp hdeleted).resolve_left hne)
  writable k hk := h.writable k (mem_dropKey.mp hk).1
  deletable k hk := (mem_addKey.mp hk).elim (fun hk => hk ▸ hkey) (h.deletable k)
  present k hk := by
    obtain ⟨hk, hne⟩ := mem_dropKey.mp hk
    obtain ⟨value, hvalue⟩ := h.present k hk
    exact ⟨value, (KeyMap.get?_erase_ne gate.context hne.symm).trans hvalue⟩
  absent k hk := by
    show (gate.context.erase key).get? k = none
    rw [KeyMap.get?_erase]
    split
    · rfl
    · rename_i hne
      exact h.absent k ((mem_addKey.mp hk).resolve_left (Ne.symm hne))
  unchanged k hcreated hdeleted := by
    obtain ⟨hne, hdeleted⟩ := not_or.mp (mt mem_addKey.mpr hdeleted)
    refine (KeyMap.get?_erase_ne gate.context (Ne.symm hne)).trans
      (h.unchanged k (fun hk => hcreated (mem_dropKey.mpr ⟨hk, hne⟩)) hdeleted)

theorem perform (h : gate.Records context gate.writable gate.deletable) (c : GateCall) :
    (gate.perform c).2.Records context gate.writable gate.deletable := by
  have hperformed := gate.performed c
  generalize gate.perform c = result at hperformed
  cases hperformed with
  | got key => exact h
  | wrote hkey value => exact h.write hkey value
  | removed hkey => exact h.remove hkey
  | renamed hold hnew hvalue => exact (h.remove hold).write hnew _
  | refused => exact h

end Records

/-! ## Operations in sequence -/

/-- No operation changes whose gate it is and what it permits. -/
theorem perform_permits (gate : Gate) (c : GateCall) :
    (gate.perform c).2.processor = gate.processor ∧ (gate.perform c).2.writable = gate.writable ∧
      (gate.perform c).2.deletable = gate.deletable := by
  have hperformed := gate.performed c
  generalize gate.perform c = result at hperformed
  cases hperformed <;> exact ⟨rfl, rfl, rfl⟩

/-- The gate behind operations one after another, refused or not. -/
def performAll (gate : Gate) (calls : List GateCall) : Gate :=
  calls.foldl (fun gate c => (gate.perform c).2) gate

theorem performAll_permits (gate : Gate) (calls : List GateCall) :
    (gate.performAll calls).processor = gate.processor ∧
      (gate.performAll calls).writable = gate.writable ∧
      (gate.performAll calls).deletable = gate.deletable := by
  induction calls generalizing gate with
  | nil => exact ⟨rfl, rfl, rfl⟩
  | cons c rest ih =>
    obtain ⟨hprocessor, hwritable, hdeletable⟩ := gate.perform_permits c
    rw [← hprocessor, ← hwritable, ← hdeletable]
    exact ih (gate.perform c).2

theorem Records.performAll {context : Context}
    (h : gate.Records context gate.writable gate.deletable) (calls : List GateCall) :
    (gate.performAll calls).Records context gate.writable gate.deletable := by
  induction calls generalizing gate with
  | nil => exact h
  | cons c rest ih =>
    obtain ⟨-, hwritable, hdeletable⟩ := gate.perform_permits c
    have hnext := h.perform c
    rw [← hwritable, ← hdeletable] at hnext ⊢
    exact ih hnext

end Gate

/-- The operations of an edit, each chosen by the answers to those before. -/
def Edit.calls : Edit → Gate → List GateCall
  | .finish _, _ => []
  | .call c next, gate => c :: calls (next (gate.perform c).1) (gate.perform c).2

theorem Gate.run_eq_performAll (edit : Edit) (gate : Gate) :
    (run edit gate).2 = gate.performAll (edit.calls gate) := by
  induction edit generalizing gate with
  | finish result => rfl
  | call c next ih => exact ih (gate.perform c).1 (gate.perform c).2

/-! ## Operations change by change -/

/-- Changes to a gate, made one after another.  A refusal does not undo those made before it. -/
abbrev GateScript := ExceptT ProcessorError (StateM Gate)

namespace GateScript

def permit (allowed : Gate → List String) (key : String) : GateScript Unit := do
  let gate ← get
  if key ∈ allowed gate then pure ()
  else throw (.undeclaredContextKey gate.processor key)

def insert (key : String) (value : Json) : GateScript Unit :=
  modify fun gate => { gate with context := gate.context.insert key value }

/-- Takes a value out of the context. -/
def take (key : String) : GateScript (Option Json) := do
  let gate ← get
  set { gate with context := gate.context.erase key }
  return gate.context.get? key

/-- An operation change by change: a renaming takes the value out before it finds that there is
none. -/
def ofCall : GateCall → GateScript (Option Json)
  | .get key => return (← get).get? key
  | .set key value => do
    permit Gate.writable key
    insert key value
    modify (Gate.recordCreated · key)
    return none
  | .delete key => do
    permit Gate.deletable key
    let value? ← take key
    modify (Gate.recordDeleted · key)
    return value?
  | .rename old new => do
    permit Gate.deletable old
    permit Gate.writable new
    let some value ← take old | throw (.context (.missingKey old))
    insert new value
    modify (Gate.recordDeleted · old)
    modify (Gate.recordCreated · new)
    return none

theorem permit_bind {α : Type} (allowed : Gate → List String) (key : String)
    (next : Unit → GateScript α) (gate : Gate) :
    (permit allowed key >>= next).run.run gate =
      if key ∈ allowed gate then (next ()).run.run gate
      else (.error (.undeclaredContextKey gate.processor key), gate) := by
  show ((if key ∈ allowed gate then pure ()
    else throw (.undeclaredContextKey gate.processor key) : GateScript Unit) >>= next).run.run gate
      = _
  by_cases hkey : key ∈ allowed gate
  · rw [if_pos hkey, if_pos hkey]
    rfl
  · rw [if_neg hkey, if_neg hkey]
    rfl

theorem take_bind {α : Type} (key : String) (next : Option Json → GateScript α) (gate : Gate) :
    (take key >>= next).run.run gate =
      (next (gate.get? key)).run.run { gate with context := gate.context.erase key } := rfl

/-- Performing an operation in one go, all or nothing, comes to performing it change by change. -/
theorem run_ofCall (c : GateCall) (gate : Gate) : (ofCall c).run.run gate = gate.perform c := by
  cases c with
  | get key => rfl
  | set key value =>
    simp only [Gate.perform, Gate.answer, Gate.set_eq, ofCall, permit_bind]
    split <;> rfl
  | delete key =>
    simp only [Gate.perform, Gate.answer, Gate.delete_eq, ofCall, permit_bind]
    split <;> rfl
  | rename old new =>
    simp only [Gate.perform, Gate.answer, Gate.rename_eq, ofCall, permit_bind, take_bind]
    by_cases hold : old ∈ gate.deletable
    · rw [if_pos hold, if_neg (not_not_intro hold)]
      by_cases hnew : new ∈ gate.writable
      · rw [if_pos hnew, if_neg (not_not_intro hnew)]
        cases hvalue : gate.get? old with
        | none =>
          -- The value was taken out before it was missed, which took out nothing.
          show (_, { gate with context := gate.context.erase old }) = (_, gate)
          rw [KeyMap.erase_of_get?_eq_none hvalue]
        | some value => rfl
      · rw [if_neg hnew, if_pos hnew]
        rfl
    · rw [if_neg hold, if_pos hold]
      rfl

end GateScript

/-- Behind any operations on a fresh gate, refused or not, the two lists tell what became of the
context.  The next operation is refused for the listed reasons only, and changes nothing then,
though it is performed change by change.  The same record is what an edit leaves, which chooses its
operations by the answers it gets. -/
theorem Gate.records_what_happened (context : Context) (processor : String)
    (writable deletable : List String) :
    let fresh := Gate.new context processor writable deletable
    (∀ calls : List GateCall,
      let gate := fresh.performAll calls
      gate.Records context writable deletable ∧
        ∀ c : GateCall, (GateScript.ofCall c).run.run gate = gate.perform c ∧
          ∀ e, ((gate.perform c).1 = .error e ↔
              c.Refused processor writable deletable gate.context e) ∧
            ((gate.perform c).1 = .error e → (gate.perform c).2 = gate)) ∧
      ∀ edit : Edit, (Gate.run edit fresh).2.Records context writable deletable := by
  intro fresh
  have hrecords : ∀ calls, (fresh.performAll calls).Records context writable deletable :=
    (Records.new context processor writable deletable).performAll
  refine ⟨fun calls => ⟨hrecords calls, fun c => ⟨GateScript.run_ofCall c _, fun e => ?_⟩⟩,
    fun edit => ?_⟩
  · obtain ⟨hprocessor, hwritable, hdeletable⟩ := fresh.performAll_permits calls
    refine ⟨?_, fun h => ?_⟩
    · have hrefused := (fresh.performAll calls).perform_eq_error_iff c e
      rwa [hprocessor, hwritable, hdeletable] at hrefused
    · rw [perform_of_refused ((perform_eq_error_iff c e).mp h)]
  · rw [Gate.run_eq_performAll]
    exact hrecords _

end Dataflow
