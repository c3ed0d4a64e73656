/-
What the built-in processors promise.

A call of a built-in processor never crashes, gives data of the declared type, and reports
something missing only if an argument is missing that the processor declares.  `Answer.Meets` is
that promise for one call; it is passed on by every step of a call, so that a processor is
checked step by step along its code.  `Processor.Reliable` is the promise for all calls
of a processor, and `Registry.reliable_of_builtin` gives it for everything that a reference
to the built-in registry can stand for.
-/
import Dataflow.Proofs.Processor.Shorthand
import Dataflow.Registry

namespace Dataflow

/-- The error reports an argument or a context key that is not there. -/
def ProcessorError.isMissing : ProcessorError → Bool
  | missingParameter _ => true
  | context (.missingKey _) => true
  | _ => false

/-- An argument of a declared parameter is not there. -/
def Parameters.Lack (params : Parameters) (specs : List ParameterSpec) : Prop :=
  ∃ spec ∈ specs, params.contains spec.name = false

/-! ## One call -/

namespace Answer

variable {α β : Type} {absent : Prop} {P : α → Prop} {Q : β → Prop}

/-- A call that gives values with a property, reports something missing only if it is, and does
not crash. -/
def Meets (absent : Prop) (P : α → Prop) : Answer α → Prop
  | .ok a => P a
  | .error e => e.isMissing = true → absent
  | .crash _ => False

theorem meets_bind {x : Answer α} {f : α → Answer β} (hx : Meets absent P x)
    (hf : ∀ a, P a → Meets absent Q (f a)) : Meets absent Q (x >>= f) := by
  cases x with
  | ok a => exact hf a hx
  | error e => exact hx
  | crash m => exact hx

theorem meets_pure {a : α} (h : P a) : Meets absent P (pure a : Answer α) := h

theorem meets_error {e : ProcessorError} (h : e.isMissing = false) :
    Meets absent P (.error e : Answer α) := fun he => by simp [h] at he

theorem Meets.ok {a : α} {x : Answer α} (h : Meets absent P x) (hx : x = .ok a) : P a := by
  subst hx
  exact h

theorem Meets.not_missing {e : ProcessorError} {x : Answer α} (h : Meets absent P x)
    (habsent : ¬ absent) (hx : x = .error e) : e.isMissing = false := by
  subst hx
  cases hmissing : e.isMissing with
  | false => rfl
  | true => exact absurd (h hmissing) habsent

theorem Meets.ne_crash {x : Answer α} (h : Meets absent P x) (m : Option String) :
    x ≠ .crash m := by
  rintro rfl
  exact h

theorem meets_floatInput (processor : String) (data : TypedData) :
    Meets absent (fun _ => True) (liftM (Processor.floatInput processor data) : Answer Float) := by
  unfold Processor.floatInput
  split
  · trivial
  · exact meets_error rfl

theorem meets_textInput (processor : String) (data : TypedData) :
    Meets absent (fun _ => True) (liftM (Processor.textInput processor data) : Answer String) := by
  unfold Processor.textInput
  split
  · trivial
  · exact meets_error rfl

theorem meets_floatResult (value : Float) :
    Meets absent (·.type = .float) (liftM (Processor.floatResult value) : Answer TypedData) := by
  unfold Processor.floatResult TypedData.float TypedData.new
  split
  · rfl
  · exact meets_error rfl

theorem meets_recased (form input : String) :
    Meets absent (fun _ => True) (liftM (Processor.recased form input) : Answer String) := by
  unfold Processor.recased
  split
  · trivial
  · trivial
  · trivial
  · trivial
  · exact meets_error rfl

/-- Reading an argument reports it missing only if it is. -/
theorem meets_read {params : Parameters} {name : String}
    (h : params.contains name = false → absent) (expected : String) (f : Json → Option α) :
    Meets absent (fun _ => True) (liftM (params.read name expected f) : Answer α) := by
  unfold Parameters.read Parameters.value
  cases hget : params.get? name with
  | none => exact fun _ => h ((KeyMap.contains_eq_false_iff params).mpr hget)
  | some v =>
    cases hf : f v with
    | some a =>
      simp only [bind, Except.bind, hf]
      trivial
    | none =>
      simp only [bind, Except.bind, hf]
      exact meets_error rfl

end Answer

/-! ## All calls -/

namespace Processor

/-- Every call of the processor keeps the promise of `Answer.Meets`; a context processor is
dutiful. -/
def Reliable : Processor → Prop
  | operation p => ∀ data params,
    Answer.Meets (params.Lack p.parameters) (·.type = p.output) (p.process data params)
  | probe p => ∀ data params,
    Answer.Meets (params.Lack p.parameters) (fun _ => True) (p.probe data params)
  | context p => p.Dutiful
  | source p => ∀ params,
    Answer.Meets (params.Lack p.parameters) (·.type = p.output) (p.produce params)
  | sink p => ∀ filter data params,
    Answer.Meets (params.Lack p.parameters) (fun _ => True) (p.consume filter data params)
  | payloadSource p => ∀ params,
    Answer.Meets (params.Lack p.parameters) (·.data.type = p.output) (p.produce params)
  | payloadSink p => ∀ filter payload params,
    Answer.Meets (params.Lack p.parameters) (fun _ => True) (p.consume filter payload params)

open Answer

theorem lack_head {params : Parameters} {spec : ParameterSpec} {specs : List ParameterSpec}
    (h : params.contains spec.name = false) : params.Lack (spec :: specs) :=
  ⟨spec, List.mem_cons_self, h⟩

theorem lack_tail {params : Parameters} {spec : ParameterSpec} {specs : List ParameterSpec}
    (h : params.Lack specs) : params.Lack (spec :: specs) := by
  obtain ⟨other, hmem, hother⟩ := h
  exact ⟨other, List.mem_cons_of_mem _ hmem, hother⟩

theorem floatMultiply_reliable : (operation floatMultiply).Reliable := fun data _ =>
  meets_bind (meets_floatInput _ data) fun value _ =>
    meets_bind (meets_read lack_head _ _) fun factor _ => meets_floatResult (value * factor)

theorem floatAdd_reliable : (operation floatAdd).Reliable := fun data _ =>
  meets_bind (meets_floatInput _ data) fun value _ =>
    meets_bind (meets_read lack_head _ _) fun addend _ => meets_floatResult (value + addend)

theorem floatDivide_reliable : (operation floatDivide).Reliable := by
  intro data params
  refine meets_bind (meets_floatInput _ data) fun value _ =>
    meets_bind (meets_read lack_head _ _) fun divisor _ => ?_
  split
  · exact meets_error rfl
  · exact meets_floatResult (value / divisor)

theorem floatToText_reliable : (operation floatToText).Reliable := by
  intro data params
  refine meets_bind (meets_floatInput _ data) fun value _ =>
    meets_bind (meets_read lack_head _ _) fun precision _ => ?_
  split
  · exact meets_error rfl
  · exact meets_pure rfl

theorem changeTextCase_reliable : (operation changeTextCase).Reliable := fun data _ =>
  meets_bind (meets_textInput _ data) fun input _ =>
    meets_bind (meets_read lack_head _ _) fun form _ =>
      meets_bind (meets_recased form input) fun _ _ => meets_pure rfl

theorem affixAdder_reliable : (operation affixAdder).Reliable := fun data _ =>
  meets_bind (meets_textInput _ data) fun _ _ =>
    meets_bind (meets_read lack_head _ _) fun _ _ =>
      meets_bind (meets_read (fun h => lack_tail (lack_head h)) _ _) fun _ _ => meets_pure rfl

theorem floatValueProbe_reliable : (probe floatValueProbe).Reliable := fun data _ =>
  meets_bind (meets_floatInput _ data) fun _ _ => meets_pure trivial

theorem dataTypeProbe_reliable : (probe dataTypeProbe).Reliable := fun _ _ => meets_pure trivial

theorem floatSource_reliable : (source floatSource).Reliable := fun _ =>
  meets_bind (meets_read lack_head _ _) fun value _ => meets_floatResult value

theorem floatPayloadSource_reliable : (payloadSource floatPayloadSource).Reliable := fun _ =>
  meets_bind (meets_read lack_head _ _) fun value _ =>
    meets_bind (meets_floatResult value) fun _ htype =>
      meets_bind (meets_read (fun h => lack_tail (lack_head h)) _ _) fun _ _ => meets_pure htype

theorem floatLogSink_reliable : (sink floatLogSink).Reliable := by
  intro filter data params
  refine meets_bind (meets_floatInput _ data) fun value _ => ?_
  split
  · exact meets_bind (meets_read lack_head _ _) fun _ _ => meets_pure trivial
  · exact meets_pure trivial

theorem payloadLogSink_reliable : (payloadSink payloadLogSink).Reliable := by
  intro filter payload params
  unfold payloadLogSink
  dsimp only
  split
  · exact meets_pure trivial
  · exact meets_pure trivial

theorem reliable_of_mem_builtins {p : Processor} (h : p ∈ builtins) : p.Reliable := by
  simp only [builtins, List.mem_cons, List.not_mem_nil, or_false] at h
  rcases h with rfl | rfl | rfl | rfl | rfl | rfl | rfl | rfl | rfl | rfl | rfl | rfl
  · exact floatMultiply_reliable
  · exact floatAdd_reliable
  · exact floatDivide_reliable
  · exact floatToText_reliable
  · exact changeTextCase_reliable
  · exact affixAdder_reliable
  · exact floatValueProbe_reliable
  · exact dataTypeProbe_reliable
  · exact floatSource_reliable
  · exact floatPayloadSource_reliable
  · exact floatLogSink_reliable
  · exact payloadLogSink_reliable

end Processor

/-! ## Registries -/

namespace Registry

theorem mem_of_get?_registerAll {processors : List Processor} {registry : Registry}
    {name : String} {p : Processor} (h : (registerAll registry processors).get? name = some p) :
    p ∈ processors ∨ registry.get? name = some p := by
  have hfold : (registerAll registry processors).get? name =
      ((processors.reverse.find? (·.name = name)).map id).or (registry.get? name) :=
    KeyMap.get?_foldl_insert Processor.name id processors registry name
  rw [hfold] at h
  rcases Option.or_eq_some_iff.mp h with h | ⟨-, h⟩
  · obtain ⟨q, hfind, rfl⟩ := Option.map_eq_some_iff.mp h
    exact .inl (List.mem_reverse.mp (List.mem_of_find?_eq_some hfind))
  · exact .inr h

/-- A reference stands for what it spells out, or for what is registered. -/
theorem resolve_cases {registry : Registry} {reference : String} {p : Processor}
    (h : registry.resolve reference = .ok p) :
    Processor.ofShorthand? reference = some (.ok p) ∨ registry.get? reference = some p := by
  unfold resolve at h
  split at h
  · rename_i parsed hparsed
    exact .inl (h ▸ hparsed)
  · split at h
    · rename_i q hget
      cases h
      exact .inr hget
    · cases h

theorem mem_builtins_of_get? {name : String} {p : Processor} (h : builtin.get? name = some p) :
    p ∈ Processor.builtins := by
  rcases mem_of_get?_registerAll h with h | h
  · exact h
  · simp at h

theorem reliable_of_builtin {reference : String} {p : Processor}
    (h : builtin.resolve reference = .ok p) : p.Reliable := by
  rcases resolve_cases h with h | h
  · obtain ⟨c, rfl, hdutiful⟩ := Processor.dutiful_of_shorthand h
    exact hdutiful
  · exact Processor.reliable_of_mem_builtins (mem_builtins_of_get? h)

end Registry
end Dataflow
