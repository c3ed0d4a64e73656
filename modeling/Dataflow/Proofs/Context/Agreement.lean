/-
What an edit of the context can learn from it.

Two contexts may differ under some keys.  `Edit.ReadsOnly` says, along the operations of
an edit, that no key outside a set has to be there and no answer about such a key is looked at.
A deletion answers the value it removed, so an edit may delete any key as long as it goes on in
the same way whatever was there.  `Gate.Agree.run` is what follows: on two contexts that agree on
the set, such an edit ends alike and touches the same keys, and behind it the contexts also
agree on the keys that it touched.
-/
import Dataflow.Proofs.Processor.Shorthand

namespace Dataflow

/-- The maps have the same values under the keys. -/
def KeyMap.AgreeOn {α : Type} (on : String → Prop) (a b : KeyMap α) : Prop :=
  ∀ key, on key → a.get? key = b.get? key

/-! ## Edits -/

/-- The key whose value an operation answers. -/
def GateCall.answered? : GateCall → Option String
  | .get key => some key
  | .delete key => some key
  | _ => none

/-- The key without which an operation is refused. -/
def GateCall.needed? : GateCall → Option String
  | .rename old _ => some old
  | _ => none

namespace Edit

/-- What the edit does next never depends on a key outside the set. -/
def ReadsOnly (on : String → Prop) : Edit → Prop
  | .finish _ => True
  | .call c next =>
    (∀ key ∈ c.needed?, on key) ∧
      ((∀ key ∈ c.answered?, on key) ∨ ∀ found found', next (.ok found) = next (.ok found')) ∧
      ∀ found, (next found).ReadsOnly on

variable {on : String → Prop}

theorem readsOnly_andThen {c : GateCall} {next : Option Json → Edit}
    (hneeded : ∀ key ∈ c.needed?, on key)
    (hanswered : (∀ key ∈ c.answered?, on key) ∨ ∀ found found', next found = next found')
    (hnext : ∀ found, (next found).ReadsOnly on) : (andThen c next).ReadsOnly on := by
  refine ⟨hneeded, hanswered, fun found => ?_⟩
  cases found with
  | ok found => exact hnext found
  | error e => trivial

end Edit

/-! ## Gates -/

namespace Gate

/-- The gates record the same, and their contexts agree on the set and on the recorded keys. -/
structure Agree (on : String → Prop) (gate gate' : Gate) : Prop where
  processor : gate.processor = gate'.processor
  writable : gate.writable = gate'.writable
  deletable : gate.deletable = gate'.deletable
  created : gate.created = gate'.created
  deleted : gate.deleted = gate'.deleted
  context : gate.context.AgreeOn (fun key => on key ∨ key ∈ gate.created ∨ key ∈ gate.deleted)
    gate'.context

variable {on : String → Prop} {gate gate' : Gate}

theorem agree_new {context context' : Context} (h : context.AgreeOn on context')
    (processor : String) (writable deletable : List String) :
    (new context processor writable deletable).Agree on
      (new context' processor writable deletable) where
  processor := rfl
  writable := rfl
  deletable := rfl
  created := rfl
  deleted := rfl
  context key hkey := by
    rcases hkey with hkey | hkey | hkey
    · exact h key hkey
    · cases hkey
    · cases hkey

namespace Agree

theorem write (h : gate.Agree on gate') (key : String) (value : Json) :
    (gate.write key value).Agree on (gate'.write key value) where
  processor := h.processor
  writable := h.writable
  deletable := h.deletable
  created := congrArg (addKey key) h.created
  deleted := congrArg (dropKey key) h.deleted
  context k hk := by
    show (gate.context.insert key value).get? k = (gate'.context.insert key value).get? k
    rw [KeyMap.get?_insert, KeyMap.get?_insert]
    by_cases hkey : key = k
    · rw [if_pos hkey, if_pos hkey]
    · rw [if_neg hkey, if_neg hkey]
      refine h.context k (hk.imp_right (Or.imp ?_ ?_))
      · exact fun hmem => (mem_addKey.mp hmem).resolve_left (Ne.symm hkey)
      · exact fun hmem => (mem_dropKey.mp hmem).1

theorem remove (h : gate.Agree on gate') (key : String) :
    (gate.remove key).Agree on (gate'.remove key) where
  processor := h.processor
  writable := h.writable
  deletable := h.deletable
  created := congrArg (dropKey key) h.created
  deleted := congrArg (addKey key) h.deleted
  context k hk := by
    show (gate.context.erase key).get? k = (gate'.context.erase key).get? k
    by_cases hkey : key = k
    · subst hkey
      rw [KeyMap.get?_erase_self, KeyMap.get?_erase_self]
    · rw [KeyMap.get?_erase_ne _ hkey, KeyMap.get?_erase_ne _ hkey]
      refine h.context k (hk.imp_right (Or.imp ?_ ?_))
      · exact fun hmem => (mem_dropKey.mp hmem).1
      · exact fun hmem => (mem_addKey.mp hmem).resolve_left (Ne.symm hkey)

/-- Gates that agree refuse the same operations, and agree behind the others. -/
theorem answer (h : gate.Agree on gate') {c : GateCall} (hneeded : ∀ key ∈ c.needed?, on key) :
    (∃ e, gate.answer c = .error e ∧ gate'.answer c = .error e) ∨
      ∃ found found' after after', gate.answer c = .ok (found, after) ∧
        gate'.answer c = .ok (found', after') ∧ after.Agree on after' ∧
        ((∀ key ∈ c.answered?, on key) → found = found') := by
  cases c with
  | get key =>
    exact .inr ⟨_, _, _, _, rfl, rfl, h, fun hkey => h.context key (.inl (hkey key rfl))⟩
  | set key value =>
    have hwritable := h.writable
    by_cases hkey : key ∈ gate.writable
    · rw [answer_set hkey, answer_set (hwritable ▸ hkey)]
      exact .inr ⟨_, _, _, _, rfl, rfl, h.write key value, fun _ => rfl⟩
    · refine .inl ⟨.undeclaredContextKey gate.processor key, ?_, ?_⟩
      · rw [Gate.answer, set_eq, if_neg hkey]
        rfl
      · rw [Gate.answer, set_eq, if_neg (hwritable ▸ hkey), h.processor]
        rfl
  | delete key =>
    have hdeletable := h.deletable
    by_cases hkey : key ∈ gate.deletable
    · rw [answer_delete hkey, answer_delete (hdeletable ▸ hkey)]
      exact .inr ⟨_, _, _, _, rfl, rfl, h.remove key,
        fun hon => h.context key (.inl (hon key rfl))⟩
    · refine .inl ⟨.undeclaredContextKey gate.processor key, ?_, ?_⟩
      · rw [Gate.answer, delete_eq, if_neg hkey]
      · rw [Gate.answer, delete_eq, if_neg (hdeletable ▸ hkey), h.processor]
  | rename old new =>
    have hget : gate'.get? old = gate.get? old := (h.context old (.inl (hneeded old rfl))).symm
    simp only [Gate.answer, rename_eq, ← h.writable, ← h.deletable, ← h.processor, hget]
    by_cases hold : old ∈ gate.deletable
    · by_cases hnew : new ∈ gate.writable
      · simp only [if_neg (not_not_intro hold), if_neg (not_not_intro hnew)]
        cases gate.get? old with
        | none => exact .inl ⟨_, rfl, rfl⟩
        | some value =>
          exact .inr ⟨_, _, _, _, rfl, rfl, (h.remove old).write new value, fun _ => rfl⟩
      · simp only [if_neg (not_not_intro hold), if_pos hnew]
        exact .inl ⟨_, rfl, rfl⟩
    · simp only [if_pos hold]
      exact .inl ⟨_, rfl, rfl⟩

/-- An edit that reads nothing outside the set ends alike at gates that agree on it. -/
theorem run (h : gate.Agree on gate') {edit : Edit} (hedit : edit.ReadsOnly on) :
    (Gate.run edit gate).1 = (Gate.run edit gate').1 ∧
      (Gate.run edit gate).2.Agree on (Gate.run edit gate').2 ∧
      ∀ node, edit.touches node gate = edit.touches node gate' := by
  induction edit generalizing gate gate' with
  | finish result => exact ⟨rfl, h, fun _ => rfl⟩
  | call c next ih =>
    obtain ⟨hneeded, hanswered, hnext⟩ := hedit
    rcases h.answer hneeded with
      ⟨e, he, he'⟩ | ⟨found, found', after, after', hok, hok', hafter, hfound⟩
    · simp only [Gate.run, Edit.touches, perform, he, he']
      obtain ⟨hresult, hagree, htouches⟩ := ih (.error e) h (hnext _)
      exact ⟨hresult, hagree, htouches⟩
    -- The gates may answer differently only where the edit goes on in the same way.
    · have hsame : next (.ok found') = next (.ok found) := by
        rcases hanswered with hon | hblind
        · rw [hfound hon]
        · exact hblind found' found
      simp only [Gate.run, Edit.touches, perform, hok, hok', hsame]
      obtain ⟨hresult, hagree, htouches⟩ := ih (.ok found) hafter (hnext _)
      exact ⟨hresult, hagree, fun node => congrArg (c.touches node ++ ·) (htouches node)⟩

end Agree

/-- A gate records every key that the edit touched. -/
theorem recorded_of_touched {context : Context} {processor : String}
    {writable deletable : List String} {node : Nat} {edit : Edit} {key : String}
    (h : ¬ Touch.Free key (edit.touches node (.new context processor writable deletable))) :
    let gate := (run edit (.new context processor writable deletable)).2
    key ∈ gate.created ∨ key ∈ gate.deleted := by
  intro gate
  have hshows := run_shows context processor writable deletable node edit key
  match hlast : Touch.last? key (edit.touches node (.new context processor writable deletable)) with
  | none => exact absurd (Touch.last?_eq_none_iff.mp hlast) h
  | some ⟨_, _, .write⟩ =>
    rw [hlast] at hshows
    exact .inl hshows.2.1
  | some ⟨_, _, .deletion⟩ =>
    rw [hlast] at hshows
    exact .inr hshows.2.2

end Gate

/-! ## The shorthands -/

/-- Whatever its arguments, the processor reads no other keys than it requires. -/
def ContextProcessor.Discreet (p : ContextProcessor) : Prop :=
  ∀ params, (p.edit params).ReadsOnly (· ∈ p.requiredKeys)

theorem Edit.ReadsOnly.mono {on on' : String → Prop} {edit : Edit} (h : edit.ReadsOnly on)
    (hon : ∀ key, on key → on' key) : edit.ReadsOnly on' := by
  induction edit with
  | finish result => trivial
  | call c next ih =>
    obtain ⟨hneeded, hanswered, hnext⟩ := h
    refine ⟨fun key hkey => hon key (hneeded key hkey), ?_, fun found => ih found (hnext found)⟩
    exact hanswered.imp_left fun hkeys key hkey => hon key (hkeys key hkey)

namespace Processor

theorem renameKey_discreet (old new : String) : (renameKey old new).Discreet := by
  intro params
  refine Edit.readsOnly_andThen ?_ (.inr fun _ _ => rfl) fun _ => trivial
  rintro key ⟨⟩
  exact List.mem_cons_self

theorem deleteKey_discreet (key : String) : (deleteKey key).Discreet := fun _ =>
  Edit.readsOnly_andThen (fun _ h => nomatch h) (.inr fun _ _ => rfl) fun _ => trivial

end Processor

namespace Template

theorem readsOnly_render {on : String → Prop} (output : String) (segments : List Segment)
    (rendered : String) (h : ∀ name, .key name ∈ segments → on name) :
    (render output rendered segments).ReadsOnly on := by
  induction segments generalizing rendered with
  | nil =>
    exact Edit.readsOnly_andThen (fun _ h => nomatch h) (.inr fun _ _ => rfl) fun _ => trivial
  | cons segment rest ih =>
    have hrest : ∀ name, .key name ∈ rest → on name :=
      fun name hname => h name (List.mem_cons_of_mem _ hname)
    cases segment with
    | literal text => exact ih _ hrest
    | key name =>
      refine Edit.readsOnly_andThen (fun _ h => nomatch h) (.inl ?_) fun found => ?_
      · rintro key ⟨⟩
        exact h name List.mem_cons_self
      · cases found with
        | none => trivial
        | some value => exact ih _ hrest

theorem toProcessor_discreet (t : Template) : t.toProcessor.Discreet := fun _ =>
  readsOnly_render t.output t.segments "" fun _ hname => mem_placeholders.mpr hname

end Template

namespace Processor

theorem discreet_of_shorthand {reference : String} {p : ContextProcessor}
    (h : ofShorthand? reference = some (.ok (.context p))) : p.Discreet := by
  rcases eq_of_ofShorthand? h with ⟨old, new, hp⟩ | ⟨key, hp⟩ | ⟨t, hp⟩
  · cases hp
    exact renameKey_discreet old new
  · cases hp
    exact deleteKey_discreet key
  · cases hp
    exact t.toProcessor_discreet

end Processor
end Dataflow
