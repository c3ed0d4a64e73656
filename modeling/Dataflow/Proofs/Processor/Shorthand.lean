/-
What the context processors do that references spell out.

A context processor is `Dutiful` if it runs to its end exactly when the keys that it requires
are there, and then deletes and writes just the keys that it declares.  Renaming, deleting
and rendering a template are dutiful, and a reference spells out nothing else
(`Processor.dutiful_of_shorthand`).
-/
import Dataflow.Processor.Shorthand
import Dataflow.Proofs.Context.Touch

namespace Dataflow

/-! ## Operations one after another -/

namespace Gate

variable {gate gate' : Gate} {c : GateCall} {found : Option Json} {next : Option Json → Edit}

theorem answer_set {key : String} (h : key ∈ gate.writable) (value : Json) :
    gate.answer (.set key value) = .ok (none, gate.write key value) := by
  rw [answer, set_eq, if_pos h]
  rfl

theorem answer_delete {key : String} (h : key ∈ gate.deletable) :
    gate.answer (.delete key) = .ok (gate.get? key, gate.remove key) := by
  rw [answer, delete_eq, if_pos h]

theorem answer_rename {old new : String} (hold : old ∈ gate.deletable)
    (hnew : new ∈ gate.writable) :
    gate.answer (.rename old new) =
      match gate.get? old with
      | none => .error (.context (.missingKey old))
      | some value => .ok (none, (gate.remove old).write new value) := by
  rw [answer, rename_eq, if_neg (not_not_intro hold), if_neg (not_not_intro hnew)]
  cases gate.get? old with
  | none => rfl
  | some value => rfl

theorem run_andThen_ok (h : gate.answer c = .ok (found, gate')) :
    run (.andThen c next) gate = run (next found) gate' := by
  simp only [Edit.andThen, run, perform, h]

theorem run_andThen_error {e : ProcessorError} (h : gate.answer c = .error e) :
    run (.andThen c next) gate = (.error e, gate) := by
  simp only [Edit.andThen, run, perform, h]

theorem touches_andThen_ok (node : Nat) (h : gate.answer c = .ok (found, gate')) :
    (Edit.andThen c next).touches node gate =
      c.touches node ++ (next found).touches node gate' := by
  simp only [Edit.andThen, Edit.touches, perform, h]

end Gate

/-! ## Dutiful processors -/

namespace ContextProcessor

variable (p : ContextProcessor)

/-- The gate that a node puts in front of the context for the processor. -/
def gate (context : Context) : Gate := .new context p.name p.createdKeys p.suppressedKeys

/-- What the processor declares to do to the keys, as a node. -/
def declared (node : Nat) : List Touch :=
  p.suppressedKeys.map (⟨node, ·, .deletion⟩) ++ p.createdKeys.map (⟨node, ·, .write⟩)

/-- The context has every key that the processor requires. -/
def Served (context : Context) : Prop := ∀ key ∈ p.requiredKeys, context.contains key = true

structure Dutiful : Prop where
  completes : ∀ params context, p.Served context →
    (Gate.run (p.edit params) (p.gate context)).1 = .ok () ∧
      ∀ node, (p.edit params).touches node (p.gate context) = p.declared node
  refuses : ∀ params context, ¬ p.Served context →
    ∃ key, (Gate.run (p.edit params) (p.gate context)).1 = .error (.context (.missingKey key))

variable {p} {params : Parameters} {context : Context}

end ContextProcessor

/-! ## Renaming and deleting -/

namespace Processor

theorem renameKey_answer (old new : String) (context : Context) :
    ((renameKey old new).gate context).answer (.rename old new) =
      match context.get? old with
      | none => .error (.context (.missingKey old))
      | some value => .ok (none, (((renameKey old new).gate context).remove old).write new value) :=
  Gate.answer_rename List.mem_cons_self List.mem_cons_self

theorem renameKey_dutiful (old new : String) : (renameKey old new).Dutiful where
  completes params context hserved := by
    obtain ⟨value, hvalue⟩ := Option.isSome_iff_exists.mp (hserved old List.mem_cons_self)
    have hanswer : ((renameKey old new).gate context).answer (.rename old new) =
        .ok (none, (((renameKey old new).gate context).remove old).write new value) := by
      rw [renameKey_answer, hvalue]
    exact ⟨congrArg Prod.fst (Gate.run_andThen_ok hanswer),
      fun node => Gate.touches_andThen_ok node hanswer⟩
  refuses params context hserved := by
    have hnone : context.get? old = none := by
      simpa [ContextProcessor.Served, renameKey, KeyMap.contains] using hserved
    have hanswer : ((renameKey old new).gate context).answer (.rename old new) =
        .error (.context (.missingKey old)) := by
      rw [renameKey_answer, hnone]
    exact ⟨old, congrArg Prod.fst (Gate.run_andThen_error hanswer)⟩

theorem deleteKey_dutiful (key : String) : (deleteKey key).Dutiful where
  completes params context _ := by
    have hanswer : ((deleteKey key).gate context).answer (.delete key) =
        .ok (context.get? key, ((deleteKey key).gate context).remove key) :=
      Gate.answer_delete List.mem_cons_self
    exact ⟨congrArg Prod.fst (Gate.run_andThen_ok hanswer),
      fun node => Gate.touches_andThen_ok node hanswer⟩
  refuses params context hserved := absurd (fun _ h => nomatch h) hserved

end Processor

/-! ## Templates -/

/-- The name of a placeholder; literal text has none. -/
def Segment.key? : Segment → Option String
  | literal _ => none
  | key name => some name

namespace Template

theorem mem_placeholders {name : String} {segments : List Segment} :
    name ∈ placeholders segments ↔ .key name ∈ segments := by
  have hempty : name ∈ placeholders segments ↔ name ∈ [] ∨ ∃ x ∈ segments, x = .key name := by
    refine mem_foldl_iff fun keys segment => ?_
    cases segment with
    | literal text => simp
    | key k =>
      rw [Segment.key.injEq]
      exact mem_addKey.trans (or_comm.trans (or_congr_right eq_comm))
  simpa using hempty

variable {output : String}

/-- The first placeholder that the context has no value for. -/
def missing? (context : Context) (segments : List Segment) : Option String :=
  (segments.filterMap Segment.key?).find? fun name => !context.contains name

/-- What a segment stands for in a context: a placeholder for a string as it is, and for any other
value as compact JSON.  A placeholder without a value is never rendered. -/
def textOf (context : Context) : Segment → String
  | .literal text => text
  | .key name =>
    match context.get? name with
    | some (.str text) => text
    | some value => value.compact
    | none => ""

variable {context : Context} {name : String}

theorem textOf_key {value : Json} (h : context.get? name = some value) :
    textOf context (.key name) = insertText value := by
  rw [textOf, h]
  cases value <;> rfl

theorem missing?_literal (text : String) (segments : List Segment) :
    missing? context (.literal text :: segments) = missing? context segments := rfl

theorem missing?_key (segments : List Segment) :
    missing? context (.key name :: segments) =
      if context.contains name then missing? context segments else some name := by
  cases h : context.contains name <;> simp [missing?, Segment.key?, h]

theorem missing?_eq_none_iff {segments : List Segment} :
    missing? context segments = none ↔
      ∀ name, .key name ∈ segments → context.contains name = true := by
  induction segments with
  | nil => simp [missing?]
  | cons segment rest ih =>
    cases segment with
    | literal text => simp [missing?_literal, ih]
    | key k =>
      rw [missing?_key]
      cases h : context.contains k with
      | true => simp [h, ih]
      | false => simp [h]

/-- Rendering stops at the first placeholder without a value, and otherwise writes the output once,
with the values that the context had until then. -/
theorem run_render (gate : Gate) (hwritable : output ∈ gate.writable) (segments : List Segment)
    (rendered : String) :
    Gate.run (render output rendered segments) gate =
      match missing? gate.context segments with
      | some name => (.error (.context (.missingKey name)), gate)
      | none => (.ok (), gate.write output
          (.str (rendered ++ String.join (segments.map (textOf gate.context))))) := by
  induction segments generalizing rendered with
  | nil =>
    rw [render, Gate.run_andThen_ok (Gate.answer_set hwritable (.str rendered))]
    simp [missing?, Edit.done, Gate.run]
  | cons segment rest ih =>
    cases segment with
    | literal text =>
      rw [render, ih, missing?_literal]
      simp [textOf, String.append_assoc]
    | key name =>
      have hanswer : gate.answer (.get name) = .ok (gate.context.get? name, gate) := rfl
      rw [render, Gate.run_andThen_ok hanswer, missing?_key, KeyMap.contains]
      cases hvalue : gate.context.get? name with
      | none => rfl
      | some value =>
        show Gate.run (render output (rendered ++ insertText value) rest) gate = _
        rw [ih]
        simp [textOf_key hvalue, String.append_assoc]

/-- The only touch of a template that has all its values is that of the output. -/
theorem touches_render (gate : Gate) (hwritable : output ∈ gate.writable) (segments : List Segment)
    (rendered : String) (h : missing? gate.context segments = none) (node : Nat) :
    (render output rendered segments).touches node gate = [⟨node, output, .write⟩] := by
  induction segments generalizing rendered with
  | nil =>
    rw [render, Gate.touches_andThen_ok node (Gate.answer_set hwritable (.str rendered))]
    rfl
  | cons segment rest ih =>
    cases segment with
    | literal text => exact ih _ h
    | key name =>
      have hanswer : gate.answer (.get name) = .ok (gate.context.get? name, gate) := rfl
      rw [missing?_key, KeyMap.contains] at h
      rw [render, Gate.touches_andThen_ok node hanswer]
      cases hvalue : gate.context.get? name with
      | none =>
        rw [hvalue] at h
        cases h
      | some value =>
        rw [hvalue] at h
        exact ih _ h

/-- Running a template is rendering its segments. -/
theorem run_edit (t : Template) (params : Parameters) (context : Context) :
    Gate.run (t.toProcessor.edit params) (t.toProcessor.gate context) =
      match missing? context t.segments with
      | some name => (.error (.context (.missingKey name)), t.toProcessor.gate context)
      | none => (.ok (), (t.toProcessor.gate context).write t.output
          (.str (String.join (t.segments.map (textOf context))))) := by
  have hrun := run_render (t.toProcessor.gate context) List.mem_cons_self t.segments ""
  rwa [String.empty_append] at hrun

theorem missing?_eq_none_iff_served (t : Template) (context : Context) :
    missing? context t.segments = none ↔ t.toProcessor.Served context := by
  rw [missing?_eq_none_iff]
  exact forall_congr' fun name => imp_congr_left mem_placeholders.symm

theorem toProcessor_dutiful (t : Template) : t.toProcessor.Dutiful where
  completes params context hserved := by
    have hmissing := (t.missing?_eq_none_iff_served context).mpr hserved
    refine ⟨?_, touches_render _ List.mem_cons_self t.segments "" hmissing⟩
    rw [run_edit, hmissing]
  refuses params context hserved := by
    cases hmissing : missing? context t.segments with
    | none => exact absurd ((t.missing?_eq_none_iff_served context).mp hmissing) hserved
    | some name =>
      refine ⟨name, ?_⟩
      rw [run_edit, hmissing]

end Template

/-! ## References -/

namespace Processor

theorem eq_of_renameOf? {rest : List Char} {p : ContextProcessor} (h : renameOf? rest = some p) :
    ∃ old new, p = renameKey old new := by
  unfold renameOf? at h
  simp only [Option.bind_eq_bind, Option.bind_eq_some_iff] at h
  obtain ⟨⟨old, new⟩, -, h⟩ := h
  split at h
  · cases h
  · cases h
    exact ⟨_, _, rfl⟩

theorem eq_of_deleteOf? {rest : List Char} {p : ContextProcessor} (h : deleteOf? rest = some p) :
    ∃ key, p = deleteKey key := by
  unfold deleteOf? at h
  split at h
  · cases h
  · cases h
    exact ⟨_, rfl⟩

/-- A shorthand is a renaming, a deletion or a template. -/
theorem eq_of_ofShorthand? {reference : String} {processor : Processor}
    (h : ofShorthand? reference = some (.ok processor)) :
    (∃ old new, processor = .context (renameKey old new)) ∨
      (∃ key, processor = .context (deleteKey key)) ∨
      ∃ t : Template, processor = .context t.toProcessor := by
  unfold ofShorthand? at h
  simp only [Option.bind_eq_bind, Option.bind_eq_some_iff] at h
  obtain ⟨⟨word, rest⟩, -, h⟩ := h
  split at h
  · cases hrename : renameOf? rest with
    | none =>
      rw [hrename] at h
      cases h
    | some p =>
      rw [hrename] at h
      cases h
      obtain ⟨old, new, rfl⟩ := eq_of_renameOf? hrename
      exact .inl ⟨old, new, rfl⟩
  · cases hdelete : deleteOf? rest with
    | none =>
      rw [hdelete] at h
      cases h
    | some p =>
      rw [hdelete] at h
      cases h
      obtain ⟨key, rfl⟩ := eq_of_deleteOf? hdelete
      exact .inr (.inl ⟨key, rfl⟩)
  · split at h
    · rename_i template _
      cases h
      exact .inr (.inr ⟨template, rfl⟩)
    · cases h
    · cases h
  · cases h

theorem dutiful_of_shorthand {reference : String} {processor : Processor}
    (h : ofShorthand? reference = some (.ok processor)) :
    ∃ p : ContextProcessor, processor = .context p ∧ p.Dutiful := by
  rcases eq_of_ofShorthand? h with ⟨old, new, rfl⟩ | ⟨key, rfl⟩ | ⟨t, rfl⟩
  · exact ⟨_, rfl, renameKey_dutiful old new⟩
  · exact ⟨_, rfl, deleteKey_dutiful key⟩
  · exact ⟨_, rfl, t.toProcessor_dutiful⟩

end Processor
end Dataflow
