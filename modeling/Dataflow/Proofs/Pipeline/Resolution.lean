/-
Which argument every parameter of a node gets.

Resolution goes through the parameters in order and adds to two bags.  `Node.value?` and
`Node.sourceAt` say of a single parameter what it gets and where from, without the bags.
`Node.resolveFrom_eq` is the whole resolution in these terms: it fails at the first
parameter that gets no value, and those are required parameters that neither the
configuration nor the context supplies.
-/
import Dataflow.Pipeline.Node
import Dataflow.Proofs.Context.Touch

namespace Dataflow

/-- Of several parameters of one name the last decides. -/
theorem ParameterSpec.exists_last {specs : List ParameterSpec} {spec : ParameterSpec}
    (h : spec ∈ specs) : ∃ last ∈ specs, last.name = spec.name ∧
      specs.reverse.find? (·.name = spec.name) = some last := by
  have hfind : (specs.reverse.find? (·.name = spec.name)).isSome := by
    rw [List.find?_isSome]
    exact ⟨spec, List.mem_reverse.mpr h, by simp⟩
  obtain ⟨last, hlast⟩ := Option.isSome_iff_exists.mp hfind
  exact ⟨last, List.mem_reverse.mp (List.mem_of_find?_eq_some hlast),
    by simpa using List.find?_some hlast, hlast⟩

namespace Node

variable (node : Node) (context : Context) (origins : KeyOrigins)

theorem mem_requiredContextKeys {node : Node} {key : String} :
    key ∈ node.requiredContextKeys ↔
      (∃ spec ∈ node.processor.parameters, spec.isRequired = true ∧
        node.isConfigured spec.name = false ∧ spec.name = key) ∨
      key ∈ node.processor.requiredKeys := by
  have hadd : ∀ (keys : List String) (k : String), key ∈ addKey k keys ↔ key ∈ keys ∨ key = k :=
    fun _ _ => mem_addKey.trans or_comm
  rw [requiredContextKeys, mem_foldl_iff hadd]
  simp [and_assoc]

/-! ## One parameter -/

/-- The value of a parameter: the configured one, else that of the context, else the default. -/
def value? (spec : ParameterSpec) : Option Json :=
  (node.config.parameters.get? spec.name).or ((context.get? spec.name).or spec.default?)

def sourceAt (spec : ParameterSpec) : ParameterSource :=
  if node.isConfigured spec.name then .config
  else if context.contains spec.name then .context (origins.producer? spec.name)
  else .default

theorem argument_eq (spec : ParameterSpec) :
    node.argument context origins spec =
      match node.value? context spec with
      | some value => .ok (value, node.sourceAt context origins spec)
      | none => .error (.missingParameter node.index node.name spec.name) := by
  unfold argument value? sourceAt isConfigured KeyMap.contains
  cases node.config.parameters.get? spec.name with
  | some value => rfl
  | none =>
    cases context.get? spec.name with
    | some value => rfl
    | none => cases spec.default? <;> rfl

theorem value?_eq_none_iff {spec : ParameterSpec} :
    node.value? context spec = none ↔
      spec.isRequired = true ∧ node.isConfigured spec.name = false ∧
        context.contains spec.name = false := by
  simp only [value?, Option.or_eq_none_iff, isConfigured, KeyMap.contains_eq_false_iff,
    ParameterSpec.isRequired, Option.isNone_iff_eq_none]
  exact ⟨fun ⟨hconfig, hcontext, hdefault⟩ => ⟨hdefault, hconfig, hcontext⟩,
    fun ⟨hdefault, hconfig, hcontext⟩ => ⟨hconfig, hcontext, hdefault⟩⟩

variable {node context origins} in
theorem value?_of_context {spec : ParameterSpec} {value : Json}
    (hconfigured : node.isConfigured spec.name = false)
    (hget : context.get? spec.name = some value) :
    node.value? context spec = some value := by
  rw [isConfigured, KeyMap.contains_eq_false_iff] at hconfigured
  rw [value?, hconfigured, hget]
  rfl

variable {node context origins} in
theorem sourceAt_eq_context {spec : ParameterSpec} {origin : Option Nat}
    (h : node.sourceAt context origins spec = .context origin) :
    node.isConfigured spec.name = false ∧ context.contains spec.name = true ∧
      origin = origins.producer? spec.name := by
  unfold sourceAt at h
  split at h
  · cases h
  · rename_i hconfigured
    split at h
    · rename_i hcontext
      cases h
      exact ⟨by simpa using hconfigured, hcontext, rfl⟩
    · cases h

/-! ## All parameters -/

theorem resolveFrom_eq (specs : List ParameterSpec) (params : Parameters)
    (sources : KeyMap ParameterSource) :
    node.resolveFrom context origins specs params sources =
      match specs.find? fun spec => (node.value? context spec).isNone with
      | some spec => .error (.missingParameter node.index node.name spec.name)
      | none =>
        .ok (specs.foldl
            (fun m spec => m.insert spec.name ((node.value? context spec).getD .null)) params,
          specs.foldl
            (fun m spec => m.insert spec.name (node.sourceAt context origins spec)) sources) := by
  induction specs generalizing params sources with
  | nil => rfl
  | cons spec rest ih =>
    rw [resolveFrom, argument_eq, List.find?_cons]
    cases hvalue : node.value? context spec with
    | none => rfl
    | some value =>
      show node.resolveFrom context origins rest _ _ = _
      rw [ih, List.foldl_cons, List.foldl_cons, hvalue]
      rfl

/-- The first parameter that gets no value. -/
def unresolved? (node : Node) (context : Context) : Option ParameterSpec :=
  node.processor.parameters.find? fun spec => (node.value? context spec).isNone

variable {node context origins}

theorem resolve_eq_error_iff {e : PipelineError} :
    node.resolve context origins = .error e ↔ ∃ spec, node.unresolved? context = some spec ∧
      e = .missingParameter node.index node.name spec.name := by
  rw [resolve, resolveFrom_eq, unresolved?]
  cases node.processor.parameters.find? fun spec => (node.value? context spec).isNone with
  | none => simp
  | some spec => simp [eq_comm]

/-- Resolution only fails for a required key that the context does not have. -/
theorem resolve_eq_error {e : PipelineError} (h : node.resolve context origins = .error e) :
    ∃ key ∈ node.requiredContextKeys, context.contains key = false ∧
      e = .missingParameter node.index node.name key := by
  obtain ⟨spec, hfirst, rfl⟩ := resolve_eq_error_iff.mp h
  have hnone : node.value? context spec = none := by
    simpa using List.find?_some hfirst
  have hspec : spec ∈ node.processor.parameters := List.mem_of_find?_eq_some hfirst
  obtain ⟨hrequired, hconfigured, hcontext⟩ := (value?_eq_none_iff node context).mp hnone
  exact ⟨spec.name,
    mem_requiredContextKeys.mpr (.inl ⟨spec, hspec, hrequired, hconfigured, rfl⟩), hcontext, rfl⟩

section Agreement

variable {context' : Context} {origins' : KeyOrigins}

/-- Of context and origins an argument depends on what they have under the name of its parameter,
and only if the parameter is not configured. -/
theorem argument_congr {spec : ParameterSpec}
    (h : node.isConfigured spec.name = false →
      context.get? spec.name = context'.get? spec.name ∧
        origins.get? spec.name = origins'.get? spec.name) :
    node.argument context origins spec = node.argument context' origins' spec := by
  unfold argument KeyOrigins.producer?
  cases hconfig : node.config.parameters.get? spec.name with
  | some value => rfl
  | none =>
    have hconfigured : node.isConfigured spec.name = false := by
      rw [isConfigured, KeyMap.contains, hconfig]
      rfl
    obtain ⟨hcontext, horigins⟩ := h hconfigured
    rw [hcontext, horigins]

theorem resolve_congr
    (h : ∀ spec ∈ node.processor.parameters, node.isConfigured spec.name = false →
      context.get? spec.name = context'.get? spec.name ∧
        origins.get? spec.name = origins'.get? spec.name) :
    node.resolve context origins = node.resolve context' origins' := by
  have hfrom : ∀ (specs : List ParameterSpec) (params : Parameters)
      (sources : KeyMap ParameterSource), (∀ spec ∈ specs, spec ∈ node.processor.parameters) →
      node.resolveFrom context origins specs params sources =
        node.resolveFrom context' origins' specs params sources := by
    intro specs
    induction specs with
    | nil => exact fun _ _ _ => rfl
    | cons spec rest ih =>
      intro params sources hspecs
      have hspec := argument_congr (h spec (hspecs spec List.mem_cons_self))
      have hrest : ∀ spec ∈ rest, spec ∈ node.processor.parameters :=
        fun other hother => hspecs other (List.mem_cons_of_mem _ hother)
      rw [resolveFrom, resolveFrom, hspec]
      exact bind_congr fun argument => ih _ _ hrest
  exact hfrom node.processor.parameters .empty .empty fun _ hspec => hspec

end Agreement

section Resolved

variable {params : Parameters} {sources : KeyMap ParameterSource}

theorem resolve_eq_ok (h : node.resolve context origins = .ok (params, sources)) :
    (∀ spec ∈ node.processor.parameters, (node.value? context spec).isSome = true) ∧
      params = node.processor.parameters.foldl
        (fun m spec => m.insert spec.name ((node.value? context spec).getD .null)) .empty ∧
      sources = node.processor.parameters.foldl
        (fun m spec => m.insert spec.name (node.sourceAt context origins spec)) .empty := by
  rw [resolve, resolveFrom_eq] at h
  split at h
  · cases h
  · rename_i hfind
    cases h
    refine ⟨fun spec hspec => ?_, rfl, rfl⟩
    simpa [Option.isSome_iff_ne_none] using List.find?_eq_none.mp hfind spec hspec

/-- Behind a resolution every declared parameter has an argument. -/
theorem contains_of_resolve (h : node.resolve context origins = .ok (params, sources))
    {spec : ParameterSpec} (hspec : spec ∈ node.processor.parameters) :
    params.contains spec.name = true := by
  obtain ⟨-, rfl, -⟩ := resolve_eq_ok h
  obtain ⟨last, -, -, hlast⟩ := ParameterSpec.exists_last hspec
  rw [KeyMap.contains, KeyMap.get?_foldl_insert, hlast]
  rfl

/-- A resolution took every required parameter that is not configured from the context. -/
theorem context_of_resolve (h : node.resolve context origins = .ok (params, sources))
    {spec : ParameterSpec} (hspec : spec ∈ node.processor.parameters)
    (hrequired : spec.isRequired = true) (hconfigured : node.isConfigured spec.name = false) :
    context.contains spec.name = true := by
  have hsome := (resolve_eq_ok h).1 spec hspec
  cases hcontext : context.contains spec.name with
  | true => rfl
  | false =>
    rw [(value?_eq_none_iff node context).mpr ⟨hrequired, hconfigured, hcontext⟩] at hsome
    cases hsome

end Resolved
end Node
end Dataflow
