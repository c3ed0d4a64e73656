/-
What the processors compute before anything is validated.

Data can only be held once it passed the validation rules, so that data is valid says nothing about
a processor.  `Processor.Computes` is what a processor makes of its input as a raw value, on which
no rule was checked yet; `Processor.Reckons` are the floats that come up on the way.
`Processor.Validates` then says of a processor that it delivers nothing but the raw value, and that
a call fails with a validation error exactly when the raw value breaks the rule, for this rule.
No float that is not finite is lost on the way: a sum is not finite if one of its terms is not.
-/
import Dataflow.Processor.Faulty
import Dataflow.Proofs.Data.Tagged
import Dataflow.Proofs.Processor.Builtin

namespace Dataflow

/-! ## Floats that are not finite -/

section NotFinite

open Float.Model

/-- A packed float with the largest exponent is not finite. -/
theorem isFinite_unpack_eq_false {spec : Format} {bits : BitVec spec.numBits}
    (h : UnpackedFloat.unpackExponent bits = -1#_) :
    (UnpackedFloat.unpack spec bits).isFinite = false := by
  unfold UnpackedFloat.unpack
  rw [if_pos h]
  split <;> rfl

theorem isFinite_pack_eq_false {f : UnpackedFloat} (h : f.isFinite = false) :
    (Float.Model.pack f).isFinite = false := by
  refine isFinite_unpack_eq_false ?_
  cases f with
  | notANumber => exact UnpackedFloat.unpackExponent_packComponents
  | infinity sign => exact UnpackedFloat.unpackExponent_packComponents
  | zero sign => cases h
  | finite sign mantissa exponent hpos => cases h

theorem isFinite_add_eq_false {a b : Float} (h : a.isFinite = false) :
    (a + b).isFinite = false := by
  have ha : a.toModel.unpack.isFinite = false := h
  refine isFinite_pack_eq_false ?_
  generalize a.toModel.unpack = a at ha
  cases a with
  | notANumber => rfl
  | infinity sign =>
    cases b.toModel.unpack with
    | infinity other =>
      unfold UnpackedFloat.add
      dsimp only
      split <;> rfl
    | _ => rfl
  | zero sign => cases ha
  | finite sign mantissa exponent hpos => cases ha

end NotFinite

/-! ## Raw values -/

/-- The processors that produce data, built-in or misbehaving. -/
inductive Producer where
  | multiply
  | add
  | divide
  | toText
  | recase
  | affix
  | constant
  | named
  | misdeclare
  | echo
  deriving DecidableEq

namespace Producer

open Processor in
def processor : Producer → Processor
  | multiply => .operation floatMultiply
  | add => .operation floatAdd
  | divide => .operation floatDivide
  | toText => .operation floatToText
  | recase => .operation changeTextCase
  | affix => .operation affixAdder
  | constant => .source floatSource
  | named => .payloadSource floatPayloadSource
  | misdeclare => .operation wrongOutput
  | echo => .operation paramEcho

/-- The raw value that a producer makes of raw data, before it is validated. -/
inductive Computes (params : Parameters) : Producer → Data → Data → Prop
  | multiply {value factor : Float} (hfactor : params.float "factor" = .ok factor) :
      Computes params multiply (.float value) (.float (value * factor))
  | add {value addend : Float} (haddend : params.float "addend" = .ok addend) :
      Computes params add (.float value) (.float (value + addend))
  /-- Nothing is divided by a zero; the processor refuses that before. -/
  | divide {value divisor : Float} (hdivisor : params.float "divisor" = .ok divisor)
      (hzero : (divisor == 0) = false) :
      Computes params divide (.float value) (.float (value / divisor))
  | toText {value : Float} {precision : Nat}
      (hprecision : params.natural "precision" = .ok precision)
      (hmax : precision ≤ Processor.maxPrecision) :
      Computes params toText (.float value) (.text (Decimal.fixed value precision))
  | recase {input form output : String} (hform : params.text "case" = .ok form)
      (houtput : Processor.recased form input = .ok output) :
      Computes params recase (.text input) (.text output)
  | affix {input before after : String} (hbefore : params.text "prefix" = .ok before)
      (hafter : params.text "suffix" = .ok after) :
      Computes params affix (.text input) (.text (before ++ input ++ after))
  | constant {data : Data} {value : Float} (hvalue : params.float "value" = .ok value) :
      Computes params constant data (.float value)
  | named {data : Data} {value : Float} (hvalue : params.float "value" = .ok value) :
      Computes params named data (.float value)
  | misdeclare {data : Data} : Computes params misdeclare data (.text "not a float")
  | echo {value gain offset : Float} (hgain : params.float "gain" = .ok gain)
      (hoffset : params.float "offset" = .ok offset) :
      Computes params echo (.float value) (.float (value * gain + offset))

/-- The results of the float operations that a producer carries out. -/
inductive Reckons (params : Parameters) : Producer → Data → Float → Prop
  | multiply {value factor : Float} (hfactor : params.float "factor" = .ok factor) :
      Reckons params multiply (.float value) (value * factor)
  | add {value addend : Float} (haddend : params.float "addend" = .ok addend) :
      Reckons params add (.float value) (value + addend)
  | divide {value divisor : Float} (hdivisor : params.float "divisor" = .ok divisor)
      (hzero : (divisor == 0) = false) :
      Reckons params divide (.float value) (value / divisor)
  | scale {value gain offset : Float} (hgain : params.float "gain" = .ok gain)
      (hoffset : params.float "offset" = .ok offset) :
      Reckons params echo (.float value) (value * gain)
  | shift {value gain offset : Float} (hgain : params.float "gain" = .ok gain)
      (hoffset : params.float "offset" = .ok offset) :
      Reckons params echo (.float value) (value * gain + offset)

/-- If anything that a producer reckons is not finite, neither is the raw value. -/
theorem Reckons.not_finite {params : Parameters} {k : Producer} {data : Data} {x : Float}
    (h : Reckons params k data x) (hx : x.isFinite = false) :
    ∃ value, Computes params k data (.float value) ∧ value.isFinite = false := by
  cases h with
  | multiply hfactor => exact ⟨_, .multiply hfactor, hx⟩
  | add haddend => exact ⟨_, .add haddend, hx⟩
  | divide hdivisor hzero => exact ⟨_, .divide hdivisor hzero, hx⟩
  | scale hgain hoffset => exact ⟨_, .echo hgain hoffset, isFinite_add_eq_false hx⟩
  | shift hgain hoffset => exact ⟨_, .echo hgain hoffset, hx⟩

/-- A producer is known by its name. -/
theorem processor_injective {k k' : Producer} (h : k.processor = k'.processor) : k = k' := by
  have hname : k.processor.name = k'.processor.name := congrArg Processor.name h
  cases k <;> cases k' <;> first | rfl | exact absurd hname (by decide)

end Producer

/-- The raw value that a processor makes of raw data. -/
def Processor.Computes (params : Parameters) (p : Processor) (data raw : Data) : Prop :=
  ∃ k : Producer, k.processor = p ∧ k.Computes params data raw

theorem Producer.computes_processor_iff {params : Parameters} {k : Producer} {data raw : Data} :
    k.processor.Computes params data raw ↔ k.Computes params data raw := by
  constructor
  · rintro ⟨k', hk, h⟩
    rwa [← processor_injective hk]
  · exact fun h => ⟨k, rfl, h⟩

/-! ## Validated values -/

/-- The error reports a broken validation rule. -/
def ProcessorError.isInvalid : ProcessorError → Bool
  | validation _ => true
  | _ => false

theorem Processor.floatInput_eq_ok_iff {name : String} {data : TypedData} {value : Float} :
    floatInput name data = .ok value ↔ data.data = .float value := by
  unfold floatInput TypedData.asFloat?
  cases data.data <;> simp

theorem Processor.textInput_eq_ok_iff {name : String} {data : TypedData} {value : String} :
    textInput name data = .ok value ↔ data.data = .text value := by
  unfold textInput TypedData.asText?
  cases data.data <;> simp

namespace Answer

variable {α β : Type}

/-- The call does not report a broken validation rule. -/
def Unjudging (x : Answer α) : Prop := ∀ e, x = .error e → e.isInvalid = false

/-- A call delivers no data but the raw value, and reports a broken rule exactly if the raw value
breaks it. -/
structure Validated (raw : Data → Prop) (x : Answer TypedData) : Prop where
  ok : ∀ d, x = .ok d → raw d.data
  invalid : ∀ fault, x = .error (.validation fault) ↔ ∃ r, raw r ∧ r.Breaks fault

theorem unjudging_ok (a : α) : Unjudging (.ok a : Answer α) := nofun

theorem unjudging_error {e : ProcessorError} (h : e.isInvalid = false) :
    Unjudging (.error e : Answer α) := fun e' he => by cases he; exact h

theorem Unjudging.bind {x : Answer α} {f : α → Answer β} (hx : Unjudging x)
    (hf : ∀ a, x = .ok a → Unjudging (f a)) : Unjudging (x >>= f) := by
  intro e h
  rcases Outcome.bind_eq_error_iff.mp h with h | ⟨a, ha, h⟩
  · exact hx e h
  · exact hf a ha e h

theorem unjudging_floatInput (name : String) (data : TypedData) :
    Unjudging (liftM (Processor.floatInput name data) : Answer Float) := by
  unfold Processor.floatInput
  split
  · exact unjudging_ok _
  · exact unjudging_error rfl

theorem unjudging_recased (form input : String) :
    Unjudging (liftM (Processor.recased form input) : Answer String) := by
  unfold Processor.recased
  split
  all_goals first | exact unjudging_ok _ | exact unjudging_error rfl

theorem unjudging_read (params : Parameters) (name expected : String) (f : Json → Option α) :
    Unjudging (liftM (params.read name expected f) : Answer α) := by
  unfold Parameters.read Parameters.value
  cases params.get? name with
  | none => exact unjudging_error rfl
  | some v =>
    simp only [bind, Except.bind]
    cases f v with
    | some a => exact unjudging_ok a
    | none => exact unjudging_error rfl

/-! ### Steps of a computation -/

section Steps

variable {raw : Data → Prop} {params : Parameters} {data : TypedData}

theorem Validated.congr {raw' : Data → Prop} {x : Answer TypedData} (h : Validated raw' x)
    (hraw : ∀ r, raw r ↔ raw' r) : Validated raw x where
  ok d hd := (hraw d.data).mpr (h.ok d hd)
  invalid fault := by simp only [hraw, h.invalid]

/-- There is a raw value only behind a step that succeeds. -/
theorem Validated.bind {x : Except ProcessorError α} {f : α → Answer TypedData}
    {raw : α → Data → Prop} (hx : Unjudging (liftM x : Answer α))
    (hf : ∀ a, Validated (raw a) (f a)) :
    Validated (fun r => ∃ a, x = .ok a ∧ raw a r) (liftM x >>= f) := by
  cases x with
  | ok a => exact (hf a).congr fun r => by simp
  | error e =>
    refine ⟨nofun, fun fault => ⟨fun h => ?_, fun ⟨r, ⟨a, ha, _⟩, _⟩ => nomatch ha⟩⟩
    cases h
    exact Bool.noConfusion (hx _ rfl)

theorem Validated.read {f : α → Answer TypedData} {raw : α → Data → Prop} {name expected : String}
    {g : Json → Option α} (hf : ∀ a, Validated (raw a) (f a)) :
    Validated (fun r => ∃ a, params.read name expected g = .ok a ∧ raw a r)
      (liftM (params.read name expected g) >>= f) :=
  .bind (unjudging_read params name expected g) hf

theorem Validated.floatInput {name : String} {value : Float} {f : Float → Answer TypedData}
    (hdata : data.data = .float value) (hf : Validated raw (f value)) :
    Validated raw (liftM (Processor.floatInput name data) >>= f) := by
  rw [Processor.floatInput_eq_ok_iff.mpr hdata]
  exact hf

theorem Validated.textInput {name text : String} {f : String → Answer TypedData}
    (hdata : data.data = .text text) (hf : Validated raw (f text)) :
    Validated raw (liftM (Processor.textInput name data) >>= f) := by
  rw [Processor.textInput_eq_ok_iff.mpr hdata]
  exact hf

theorem validated_floatResult (value : Float) :
    Validated (· = .float value) (liftM (Processor.floatResult value) : Answer TypedData) := by
  constructor
  · intro d h
    have hnew := Except.mapError_eq_ok_iff.mp (Outcome.lift_eq_ok_iff.mp h)
    exact TypedData.new_eq_ok_iff.mp hnew
  · intro fault
    simp only [exists_eq_left, Outcome.lift_eq_error_iff, Processor.floatResult,
      Except.mapError_eq_error_iff, TypedData.float, TypedData.new_eq_error_iff,
      Data.fault?_eq_some_iff, ProcessorError.validation.injEq, exists_eq_right']

theorem validated_text (text : String) : Validated (· = .text text) (.ok (.text text)) := by
  refine ⟨fun d h => by cases h; rfl, fun fault => ⟨nofun, ?_⟩⟩
  rintro ⟨r, rfl, hbreaks⟩
  cases hbreaks

theorem Validated.of_not_raw {x : Answer TypedData} (hraw : ∀ r, ¬ raw r)
    (hok : ∀ d, x ≠ .ok d) (hx : Unjudging x) : Validated raw x := by
  refine ⟨fun d h => absurd h (hok d), fun fault => ⟨fun h => ?_, fun ⟨r, hr, _⟩ => ?_⟩⟩
  · exact Bool.noConfusion (hx _ h)
  · exact absurd hr (hraw r)

/-- What comes behind the data may fail, but does not change it. -/
theorem Validated.andThen {x : Answer TypedData} {f : TypedData → Answer TypedData}
    (hx : Validated raw x) (hf : ∀ d, Unjudging (f d)) (hsame : ∀ d d', f d = .ok d' → d' = d) :
    Validated raw (x >>= f) := by
  constructor
  · intro d h
    obtain ⟨d', hd', h⟩ := Outcome.bind_eq_ok_iff.mp h
    rw [hsame d' d h]
    exact hx.ok d' hd'
  · intro fault
    rw [← hx.invalid fault, Outcome.bind_eq_error_iff]
    refine or_iff_left fun ⟨d, _, h⟩ => ?_
    exact Bool.noConfusion (hf d _ h)

end Steps

end Answer

namespace Processor

/-! ## Processors that validate -/

open Answer

/-- What a processor makes of data that it accepts is its raw value, if that is valid; only for a
raw value that is not does it report a broken rule. -/
def Validates : Processor → Prop
  | operation p => ∀ data params, p.input.accepts data.type = true →
    Validated ((operation p).Computes params data.data) (p.process data params)
  | source p => ∀ data params, Validated ((source p).Computes params data) (p.produce params)
  | payloadSource p => ∀ data params,
    Validated ((payloadSource p).Computes params data)
      (p.produce params >>= fun produced => .ok produced.data)
  | probe p => ∀ data params, Unjudging (p.probe data params)
  | sink p => ∀ filter data params, Unjudging (p.consume filter data params)
  | payloadSink p => ∀ filter payload params, Unjudging (p.consume filter payload params)
  | context p => ∀ params context, Unjudging (Gate.run (p.edit params) (p.gate context)).1

theorem float_of_accepts {data : TypedData} (h : DataType.float.accepts data.type = true) :
    ∃ value, data.data = .float value := by
  unfold TypedData.type at h
  cases hdata : data.data with
  | float value => exact ⟨value, rfl⟩
  | _ => simp [hdata, DataType.accepts, Data.type] at h

theorem text_of_accepts {data : TypedData} (h : DataType.text.accepts data.type = true) :
    ∃ text, data.data = .text text := by
  unfold TypedData.type at h
  cases hdata : data.data with
  | text text => exact ⟨text, rfl⟩
  | _ => simp [hdata, DataType.accepts, Data.type] at h

/-- What a producer computes, from what its constructor of `Producer.Computes` says. -/
theorem computes_iff {params : Parameters} {data : TypedData} {raw : Data} {Q : Data → Prop}
    (k : Producer) (hdata : data.data = raw) (hQ : ∀ r, k.Computes params raw r ↔ Q r) (r : Data) :
    k.processor.Computes params data.data r ↔ Q r := by
  rw [Producer.computes_processor_iff, hdata]
  exact hQ r

theorem floatMultiply_validates : (operation floatMultiply).Validates := by
  intro data params haccepts
  obtain ⟨value, hdata⟩ := float_of_accepts haccepts
  refine Validated.congr (.floatInput hdata (.read fun factor =>
    validated_floatResult (value * factor)))
    (computes_iff .multiply hdata fun r => ⟨fun h => ?_, ?_⟩)
  · cases h with
    | multiply hfactor => exact ⟨_, hfactor, rfl⟩
  · rintro ⟨factor, hfactor, rfl⟩
    exact .multiply hfactor

theorem floatAdd_validates : (operation floatAdd).Validates := by
  intro data params haccepts
  obtain ⟨value, hdata⟩ := float_of_accepts haccepts
  refine Validated.congr (.floatInput hdata (.read fun addend =>
    validated_floatResult (value + addend))) (computes_iff .add hdata fun r => ⟨fun h => ?_, ?_⟩)
  · cases h with
    | add haddend => exact ⟨_, haddend, rfl⟩
  · rintro ⟨addend, haddend, rfl⟩
    exact .add haddend

theorem floatDivide_validates : (operation floatDivide).Validates := by
  intro data params haccepts
  obtain ⟨value, hdata⟩ := float_of_accepts haccepts
  have hquotient : ∀ divisor : Float, Validated
      (fun r => (divisor == 0) = false ∧ r = .float (value / divisor))
      (if divisor == 0 then .error (.failed "division by zero")
        else liftM (floatResult (value / divisor))) := by
    intro divisor
    cases hzero : divisor == 0 with
    | true => exact .of_not_raw (by simp) nofun (unjudging_error rfl)
    | false => exact (validated_floatResult _).congr (by simp)
  refine Validated.congr (.floatInput hdata (.read hquotient))
    (computes_iff .divide hdata fun r => ⟨fun h => ?_, ?_⟩)
  · cases h with
    | divide hdivisor hzero => exact ⟨_, hdivisor, hzero, rfl⟩
  · rintro ⟨divisor, hdivisor, hzero, rfl⟩
    exact .divide hdivisor hzero

theorem floatToText_validates : (operation floatToText).Validates := by
  intro data params haccepts
  obtain ⟨value, hdata⟩ := float_of_accepts haccepts
  have hdigits : ∀ precision : Nat, Validated
      (fun r => precision ≤ maxPrecision ∧ r = .text (Decimal.fixed value precision))
      (if maxPrecision < precision then
          .error (.invalidParameter "precision" "integer in 0..=64" (Decimal.natText precision))
        else .ok (.text (Decimal.fixed value precision))) := by
    intro precision
    split
    · rename_i hmax
      exact .of_not_raw (fun r h => absurd h.1 (Nat.not_le.mpr hmax)) nofun (unjudging_error rfl)
    · rename_i hmax
      exact (validated_text _).congr fun r => and_iff_right (Nat.not_lt.mp hmax)
  refine Validated.congr (.floatInput hdata (.read hdigits))
    (computes_iff .toText hdata fun r => ⟨fun h => ?_, ?_⟩)
  · cases h with
    | toText hprecision hmax => exact ⟨_, hprecision, hmax, rfl⟩
  · rintro ⟨precision, hprecision, hmax, rfl⟩
    exact .toText hprecision hmax

theorem changeTextCase_validates : (operation changeTextCase).Validates := by
  intro data params haccepts
  obtain ⟨input, hdata⟩ := text_of_accepts haccepts
  refine Validated.congr (.textInput hdata (.read fun form =>
    .bind (unjudging_recased form input) validated_text))
    (computes_iff .recase hdata fun r => ⟨fun h => ?_, ?_⟩)
  · cases h with
    | recase hform houtput => exact ⟨_, hform, _, houtput, rfl⟩
  · rintro ⟨form, hform, output, houtput, rfl⟩
    exact .recase hform houtput

theorem affixAdder_validates : (operation affixAdder).Validates := by
  intro data params haccepts
  obtain ⟨input, hdata⟩ := text_of_accepts haccepts
  refine Validated.congr (.textInput hdata (.read fun before => .read fun after =>
    validated_text (before ++ input ++ after)))
    (computes_iff .affix hdata fun r => ⟨fun h => ?_, ?_⟩)
  · cases h with
    | affix hbefore hafter => exact ⟨_, hbefore, _, hafter, rfl⟩
  · rintro ⟨before, hbefore, after, hafter, rfl⟩
    exact .affix hbefore hafter

theorem floatSource_validates : (source floatSource).Validates := by
  intro data params
  refine Validated.congr (.read validated_floatResult) fun r =>
    Producer.computes_processor_iff (k := .constant).trans ⟨fun h => ?_, ?_⟩
  · cases h with
    | constant hvalue => exact ⟨_, hvalue, rfl⟩
  · rintro ⟨value, hvalue, rfl⟩
    exact .constant hvalue

/-- The value is validated before the key is looked at. -/
theorem floatPayloadSource_validates : (payloadSource floatPayloadSource).Validates := by
  intro data params
  unfold floatPayloadSource
  simp only [bind_assoc]
  refine Validated.congr
    (.read fun value => .andThen (validated_floatResult value) (fun d => ?_) ?_)
    fun r => Producer.computes_processor_iff (k := .named).trans ⟨fun h => ?_, ?_⟩
  · exact (unjudging_read params _ _ _).bind fun key _ => unjudging_ok d
  · intro d d' h
    obtain ⟨key, -, h⟩ := Outcome.bind_eq_ok_iff.mp h
    cases h
    rfl
  · cases h with
    | named hvalue => exact ⟨_, hvalue, rfl⟩
  · rintro ⟨value, hvalue, rfl⟩
    exact .named hvalue

theorem wrongOutput_validates : (operation wrongOutput).Validates := by
  intro data params _
  refine (validated_text "not a float").congr
    (computes_iff .misdeclare rfl fun r => ⟨fun h => ?_, ?_⟩)
  · cases h
    rfl
  · rintro rfl
    exact .misdeclare

theorem paramEcho_validates : (operation paramEcho).Validates := by
  intro data params haccepts
  obtain ⟨value, hdata⟩ := float_of_accepts haccepts
  have hvalue : data.asFloat?.getD 0 = value := by rw [TypedData.asFloat?, hdata]; rfl
  unfold paramEcho
  dsimp only
  rw [hvalue]
  refine Validated.congr (.read fun gain => .read fun offset =>
    validated_floatResult (value * gain + offset))
    (computes_iff .echo hdata fun r => ⟨fun h => ?_, ?_⟩)
  · cases h with
    | echo hgain hoffset => exact ⟨_, hgain, _, hoffset, rfl⟩
  · rintro ⟨gain, hgain, offset, hoffset, rfl⟩
    exact .echo hgain hoffset

theorem not_computes_of_name {params : Parameters} {p : Processor}
    (h : ∀ k : Producer, k.processor.name ≠ p.name) (data raw : Data) :
    ¬ p.Computes params data raw := by
  rintro ⟨k, rfl, -⟩
  exact h k rfl

theorem failing_validates : (operation failing).Validates := fun data params _ =>
  .of_not_raw (not_computes_of_name (fun k => by cases k <;> decide) data.data) nofun
    (unjudging_error rfl)

theorem panicking_validates : (operation panicking).Validates := fun data params _ =>
  .of_not_raw (not_computes_of_name (fun k => by cases k <;> decide) data.data) nofun nofun

theorem floatValueProbe_validates : (probe floatValueProbe).Validates := fun data _ =>
  (unjudging_floatInput _ data).bind fun _ _ => unjudging_ok _

theorem dataTypeProbe_validates : (probe dataTypeProbe).Validates := fun _ _ => unjudging_ok _

theorem floatLogSink_validates : (sink floatLogSink).Validates := by
  intro filter data params
  refine (unjudging_floatInput _ data).bind fun value _ => ?_
  split
  · exact (unjudging_read params _ _ _).bind fun _ _ => unjudging_ok _
  · exact unjudging_ok _

theorem payloadLogSink_validates : (payloadSink payloadLogSink).Validates := by
  intro filter payload params
  unfold payloadLogSink
  dsimp only
  split
  · exact unjudging_ok _
  · exact unjudging_ok _

theorem recordingSink_validates : (sink recordingSink).Validates := fun _ _ _ => unjudging_ok _

theorem dutiful_validates {p : ContextProcessor} (h : p.Dutiful) :
    (context p).Validates := by
  intro params context e he
  by_cases hserved : p.Served context
  · cases (h.completes params context hserved).1.symm.trans he
  · obtain ⟨key, herror⟩ := h.refuses params context hserved
    cases herror.symm.trans he
    rfl

theorem validates_of_mem_builtins {p : Processor} (h : p ∈ builtins) : p.Validates := by
  simp only [builtins, List.mem_cons, List.not_mem_nil, or_false] at h
  rcases h with rfl | rfl | rfl | rfl | rfl | rfl | rfl | rfl | rfl | rfl | rfl | rfl
  · exact floatMultiply_validates
  · exact floatAdd_validates
  · exact floatDivide_validates
  · exact floatToText_validates
  · exact changeTextCase_validates
  · exact affixAdder_validates
  · exact floatValueProbe_validates
  · exact dataTypeProbe_validates
  · exact floatSource_validates
  · exact floatPayloadSource_validates
  · exact floatLogSink_validates
  · exact payloadLogSink_validates

theorem validates_of_mem_faulty {p : Processor} (h : p ∈ faulty) : p.Validates := by
  simp only [faulty, List.mem_cons, List.not_mem_nil, or_false] at h
  rcases h with rfl | rfl | rfl | rfl | rfl
  · exact failing_validates
  · exact wrongOutput_validates
  · exact panicking_validates
  · exact paramEcho_validates
  · exact recordingSink_validates

end Processor

namespace Registry

/-- Everything that a reference can stand for validates, whether or not the misbehaving processors
are registered too. -/
theorem validates_of_resolve {registry : Registry}
    (hregistry : registry = builtin ∨ registry = withFaulty) {reference : String} {p : Processor}
    (h : registry.resolve reference = .ok p) : p.Validates := by
  rcases resolve_cases h with h | h
  · obtain ⟨c, rfl, hdutiful⟩ := Processor.dutiful_of_shorthand h
    exact Processor.dutiful_validates hdutiful
  · rcases hregistry with rfl | rfl
    · exact Processor.validates_of_mem_builtins (mem_builtins_of_get? h)
    · rcases mem_of_get?_registerAll h with h | h
      · exact Processor.validates_of_mem_faulty h
      · exact Processor.validates_of_mem_builtins (mem_builtins_of_get? h)

end Registry
end Dataflow
