/-
Every argument has a supplier, or the node does not get its arguments at all.

There are three suppliers, and `Node.Supplies` has a rule for each: the configuration, the context
if the parameter is not configured, and the default if it is not in the context either.  Resolution
stops at the first parameter that none of them supplies.  Which keys a node requires of the context
is computed elsewhere, without a context; `Node.requiredParameters` is the part of these keys that
concerns parameters, and resolution succeeds exactly when the context has all of it.
-/
import Dataflow.Processor.Wording
import Dataflow.Proofs.Pipeline.Resolution
import Mathlib.Data.List.Nodup

namespace Dataflow

theorem foldl_addKey (keys start : List String) :
    ∃ rest, keys.foldl (fun keys key => addKey key keys) start = start ++ rest ∧
      ∀ key, key ∈ rest ↔ key ∈ keys ∧ key ∉ start := by
  induction keys generalizing start with
  | nil => exact ⟨[], (List.append_nil start).symm, by simp⟩
  | cons k keys ih =>
    obtain ⟨rest, hrest, hmem⟩ := ih (addKey k start)
    rw [List.foldl_cons, hrest]
    by_cases hk : k ∈ start
    · have hadd : addKey k start = start := if_pos hk
      rw [hadd] at hmem ⊢
      refine ⟨rest, rfl, fun key => (hmem key).trans ?_⟩
      have hne : key ∉ start → key ≠ k := fun hkey heq => hkey (heq ▸ hk)
      rw [List.mem_cons]
      exact ⟨fun h => ⟨.inr h.1, h.2⟩, fun h => ⟨h.1.resolve_left (hne h.2), h.2⟩⟩
    · have hadd : addKey k start = start ++ [k] := if_neg hk
      rw [hadd] at hmem ⊢
      refine ⟨k :: rest, List.append_assoc start [k] rest, fun key => ?_⟩
      rw [List.mem_cons, List.mem_cons, hmem, List.mem_append, List.mem_singleton]
      by_cases hkey : key = k
      · simp [hkey, hk]
      · simp [hkey]

namespace ParameterSpec

variable {α : Type} {specs : List ParameterSpec} (f : ParameterSpec → α)

/-- What is inserted under distinct names is found there again. -/
theorem get?_foldl (hdistinct : (specs.map (·.name)).Nodup) {spec : ParameterSpec}
    (hspec : spec ∈ specs) :
    (specs.foldl (fun (m : KeyMap α) spec => m.insert spec.name (f spec)) .empty).get? spec.name =
      some (f spec) := by
  obtain ⟨last, hlast, hname, hfind⟩ := exists_last hspec
  have heq : last = spec := List.inj_on_of_nodup_map hdistinct hlast hspec hname
  rw [KeyMap.get?_foldl_insert, hfind, heq]
  rfl

theorem contains_foldl (name : String) :
    (specs.foldl (fun (m : KeyMap α) spec => m.insert spec.name (f spec)) .empty).contains name =
      true ↔ name ∈ specs.map (·.name) := by
  rw [KeyMap.contains, KeyMap.get?_foldl_insert]
  simp

end ParameterSpec

namespace Node

/-! ## Suppliers -/

/-- What the argument of a parameter is and where it comes from. -/
inductive Supplies (node : Node) (context : Context) (origins : KeyOrigins)
    (spec : ParameterSpec) : Json → ParameterSource → Prop
  | config {value : Json} (hconfig : node.config.parameters.get? spec.name = some value) :
      Supplies node context origins spec value .config
  | context {value : Json} (hconfig : node.config.parameters.get? spec.name = none)
      (hcontext : context.get? spec.name = some value) :
      Supplies node context origins spec value (.context (origins.producer? spec.name))
  | default {value : Json} (hconfig : node.config.parameters.get? spec.name = none)
      (hcontext : context.get? spec.name = none) (hdefault : spec.default? = some value) :
      Supplies node context origins spec value .default

variable {node : Node} {context : Context} {origins : KeyOrigins} {spec : ParameterSpec}

theorem supplies_iff {value : Json} {source : ParameterSource} :
    node.Supplies context origins spec value source ↔
      node.value? context spec = some value ∧ node.sourceAt context origins spec = source := by
  unfold value? sourceAt isConfigured KeyMap.contains
  constructor
  · intro h
    cases h with
    | config hconfig => simp [hconfig]
    | context hconfig hcontext => simp [hconfig, hcontext]
    | default hconfig hcontext hdefault => simp [hconfig, hcontext, hdefault]
  · intro ⟨hvalue, hsource⟩
    subst hsource
    cases hconfig : node.config.parameters.get? spec.name with
    | some configured =>
      rw [hconfig] at hvalue
      cases hvalue
      exact .config hconfig
    | none =>
      rw [hconfig] at hvalue
      cases hcontext : context.get? spec.name with
      | some found =>
        rw [hcontext] at hvalue
        cases hvalue
        exact .context hconfig hcontext
      | none =>
        rw [hcontext] at hvalue
        exact .default hconfig hcontext hvalue

theorem exists_supplies_iff :
    (∃ value source, node.Supplies context origins spec value source) ↔
      (node.value? context spec).isSome = true := by
  rw [Option.isSome_iff_exists]
  constructor
  · intro ⟨value, source, h⟩
    exact ⟨value, (supplies_iff.mp h).1⟩
  · intro ⟨value, h⟩
    exact ⟨value, _, supplies_iff.mpr ⟨h, rfl⟩⟩

/-! ## Required parameters -/

/-- The parameters that only the context can supply. -/
def requiredParameters (node : Node) : List String :=
  (node.processor.parameters.filter
    fun spec => spec.isRequired && !node.isConfigured spec.name).map (·.name)

theorem requiredContextKeys_eq (node : Node) :
    ∃ rest, node.requiredContextKeys = node.requiredParameters ++ rest ∧
      ∀ key, key ∈ rest ↔ key ∈ node.processor.requiredKeys ∧ key ∉ node.requiredParameters :=
  foldl_addKey node.processor.requiredKeys node.requiredParameters

theorem mem_requiredParameters_iff {key : String} :
    key ∈ node.requiredParameters ↔ ∃ spec ∈ node.processor.parameters,
      spec.isRequired = true ∧ node.isConfigured spec.name = false ∧ spec.name = key := by
  simp [requiredParameters, and_assoc]

theorem resolves_iff_supplied :
    (∃ resolved, node.resolve context origins = .ok resolved) ↔
      ∀ spec ∈ node.processor.parameters, (node.value? context spec).isSome = true := by
  constructor
  · intro ⟨resolved, h⟩
    exact (resolve_eq_ok h).1
  · intro h
    cases hresolve : node.resolve context origins with
    | ok resolved => exact ⟨resolved, rfl⟩
    | error e =>
      obtain ⟨spec, hfirst, -⟩ := resolve_eq_error_iff.mp hresolve
      have hnone := List.find?_some hfirst
      rw [Option.isNone_iff_eq_none] at hnone
      have hsome := h spec (List.mem_of_find?_eq_some hfirst)
      rw [hnone] at hsome
      cases hsome

theorem resolves_iff_contains :
    (∃ resolved, node.resolve context origins = .ok resolved) ↔
      ∀ key ∈ node.requiredParameters, context.contains key = true := by
  rw [resolves_iff_supplied]
  constructor
  · intro h key hkey
    obtain ⟨spec, hspec, hrequired, hconfigured, rfl⟩ := mem_requiredParameters_iff.mp hkey
    cases hcontext : context.contains spec.name with
    | true => rfl
    | false =>
      have hnone := (value?_eq_none_iff node context).mpr ⟨hrequired, hconfigured, hcontext⟩
      have hsome := h spec hspec
      rw [hnone] at hsome
      cases hsome
  · intro h spec hspec
    cases hvalue : node.value? context spec with
    | some value => rfl
    | none =>
      obtain ⟨hrequired, hconfigured, hcontext⟩ := (value?_eq_none_iff node context).mp hvalue
      have hkey : spec.name ∈ node.requiredParameters :=
        mem_requiredParameters_iff.mpr ⟨spec, hspec, hrequired, hconfigured, rfl⟩
      rw [h spec.name hkey] at hcontext
      cases hcontext

theorem contains_requiredParameters_iff :
    (∀ key ∈ node.requiredParameters, context.contains key = true) ↔
      ∀ spec ∈ node.processor.parameters, spec.default? = none →
        node.config.parameters.get? spec.name = none →
          ∃ value, context.get? spec.name = some value := by
  constructor
  · intro h spec hspec hdefault hconfig
    have hkey : spec.name ∈ node.requiredParameters := by
      refine mem_requiredParameters_iff.mpr ⟨spec, hspec, ?_, ?_, rfl⟩
      · rw [ParameterSpec.isRequired, hdefault]
        rfl
      · rw [isConfigured, KeyMap.contains, hconfig]
        rfl
    exact Option.isSome_iff_exists.mp (h spec.name hkey)
  · intro h key hkey
    obtain ⟨spec, hspec, hrequired, hconfigured, rfl⟩ := mem_requiredParameters_iff.mp hkey
    have hdefault : spec.default? = none := Option.isNone_iff_eq_none.mp hrequired
    have hconfig := (KeyMap.contains_eq_false_iff _).mp hconfigured
    exact Option.isSome_iff_exists.mpr (h spec hspec hdefault hconfig)

/-! ## All arguments -/

/-- A resolution that fails got as far as the first parameter that nothing supplies. -/
theorem resolve_eq_error_iff_first {e : PipelineError} :
    node.resolve context origins = .error e ↔
      ∃ before spec after, node.processor.parameters = before ++ spec :: after ∧
        (∀ earlier ∈ before, ∃ value source,
          node.Supplies context origins earlier value source) ∧
        (¬ ∃ value source, node.Supplies context origins spec value source) ∧
        e = .missingParameter node.index node.name spec.name := by
  rw [resolve_eq_error_iff]
  constructor
  · intro ⟨spec, hfirst, he⟩
    obtain ⟨hnone, before, after, hsplit, hbefore⟩ := List.find?_eq_some_iff_append.mp hfirst
    refine ⟨before, spec, after, hsplit, fun earlier hearlier => ?_, ?_, he⟩
    · exact exists_supplies_iff.mpr (by simpa using hbefore earlier hearlier)
    · rw [exists_supplies_iff]
      simpa using hnone
  · intro ⟨before, spec, after, hsplit, hbefore, hnone, he⟩
    refine ⟨spec, List.find?_eq_some_iff_append.mpr ⟨?_, before, after, hsplit, ?_⟩, he⟩
    · rw [exists_supplies_iff] at hnone
      simpa using hnone
    · intro earlier hearlier
      have hsome := exists_supplies_iff.mp (hbefore earlier hearlier)
      simpa using hsome

/-- Every parameter gets its argument from the first supplier that has one, and the arguments are
there exactly if the context has the parameters among the required keys.  Otherwise the error names
the first parameter without a supplier.  Nothing else of context and origins matters than what they
have under the names of parameters that are not configured. -/
theorem every_argument_has_a_supplier (node : Node)
    (hdistinct : (node.processor.parameters.map (·.name)).Nodup) :
    (∃ rest, node.requiredContextKeys = node.requiredParameters ++ rest ∧
      ∀ key, key ∈ rest ↔ key ∈ node.processor.requiredKeys ∧ key ∉ node.requiredParameters) ∧
    ∀ (context : Context) (origins : KeyOrigins),
      ((∃ resolved, node.resolve context origins = .ok resolved) ↔
        ∀ spec ∈ node.processor.parameters, spec.default? = none →
          node.config.parameters.get? spec.name = none →
            ∃ value, context.get? spec.name = some value) ∧
      ((∃ resolved, node.resolve context origins = .ok resolved) ↔
        ∀ key ∈ node.requiredParameters, context.contains key = true) ∧
      (∀ params sources, node.resolve context origins = .ok (params, sources) →
        (∀ name, params.contains name = true ↔
          name ∈ node.processor.parameters.map (·.name)) ∧
        (∀ name, sources.contains name = true ↔
          name ∈ node.processor.parameters.map (·.name)) ∧
        ∀ spec ∈ node.processor.parameters, ∃ value source,
          params.get? spec.name = some value ∧ sources.get? spec.name = some source ∧
            node.Supplies context origins spec value source) ∧
      (∀ e, node.resolve context origins = .error e ↔
        ∃ before spec after, node.processor.parameters = before ++ spec :: after ∧
          (∀ earlier ∈ before, ∃ value source,
            node.Supplies context origins earlier value source) ∧
          (¬ ∃ value source, node.Supplies context origins spec value source) ∧
          e = .missingParameter node.index node.name spec.name) ∧
      ∀ (context' : Context) (origins' : KeyOrigins),
        (∀ spec ∈ node.processor.parameters, node.config.parameters.get? spec.name = none →
          context.get? spec.name = context'.get? spec.name ∧
            origins.get? spec.name = origins'.get? spec.name) →
          node.resolve context origins = node.resolve context' origins' := by
  refine ⟨node.requiredContextKeys_eq, fun context origins =>
    ⟨resolves_iff_contains.trans contains_requiredParameters_iff, resolves_iff_contains, ?_,
      fun e => resolve_eq_error_iff_first, ?_⟩⟩
  · intro params sources h
    obtain ⟨hsupplied, rfl, rfl⟩ := resolve_eq_ok h
    refine ⟨ParameterSpec.contains_foldl _, ParameterSpec.contains_foldl _, fun spec hspec => ?_⟩
    obtain ⟨value, hvalue⟩ := Option.isSome_iff_exists.mp (hsupplied spec hspec)
    refine ⟨value, _, ?_, ParameterSpec.get?_foldl _ hdistinct hspec,
      supplies_iff.mpr ⟨hvalue, rfl⟩⟩
    rw [ParameterSpec.get?_foldl _ hdistinct hspec, hvalue]
    rfl
  · intro context' origins' hagree
    refine resolve_congr fun spec hspec hconfigured => hagree spec hspec ?_
    exact (KeyMap.contains_eq_false_iff _).mp hconfigured

/-- Of the three parameters one is configured, one is in the context and one has its default; what
the context has under the configured name makes no difference. -/
theorem every_argument_has_a_supplier_of_affix :
    let operation : Operation :=
      { Processor.affixAdder with parameters := .required "text" :: Processor.affixAdder.parameters }
    let config : NodeConfig :=
      { processor := "affix", parameters := KeyMap.empty.insert "prefix" (.str "<") }
    let node : Node := { index := 0, config, processor := .operation operation }
    let context : Context := KeyMap.empty.insert "text" (.str "a")
    let context' : Context := context.insert "prefix" (.str ">")
    let origins := KeyOrigins.ofContext context
    let origins' := KeyOrigins.ofContext context'
    (node.processor.parameters.map (·.name)).Nodup ∧
      (∃ params sources, node.resolve context origins = .ok (params, sources) ∧
        ∀ spec ∈ node.processor.parameters, ∃ value source,
          params.get? spec.name = some value ∧ sources.get? spec.name = some source ∧
            node.Supplies context origins spec value source) ∧
      (∀ spec ∈ node.processor.parameters, node.config.parameters.get? spec.name = none →
        context.get? spec.name = context'.get? spec.name ∧
          origins.get? spec.name = origins'.get? spec.name) ∧
      node.resolve context origins = node.resolve context' origins' := by
  intro operation config node context context' origins origins'
  have hdistinct : (node.processor.parameters.map (·.name)).Nodup := by decide
  have hagree : ∀ spec ∈ node.processor.parameters,
      node.config.parameters.get? spec.name = none →
        context.get? spec.name = context'.get? spec.name ∧
          origins.get? spec.name = origins'.get? spec.name := by
    intro spec hspec hconfig
    have hname : "prefix" ≠ spec.name := by
      intro heq
      rw [← heq] at hconfig
      cases hconfig
    have hcontext : context.get? spec.name = context'.get? spec.name :=
      (KeyMap.get?_insert_ne context hname _).symm
    have horigin : ∀ c : Context, (KeyOrigins.ofContext c).get? spec.name =
        (c.get? spec.name).map fun _ => none := fun c => KeyMap.get?_map _ c _
    have hproducer := congrArg (Option.map fun _ => (none : Option Nat)) hcontext
    exact ⟨hcontext, (horigin context).trans (hproducer.trans (horigin context').symm)⟩
  obtain ⟨-, hall⟩ := every_argument_has_a_supplier node hdistinct
  obtain ⟨-, hresolves, hok, -, hcongr⟩ := hall context origins
  obtain ⟨⟨params, sources⟩, hresolve⟩ := hresolves.mpr (by decide)
  exact ⟨hdistinct, ⟨params, sources, hresolve, (hok params sources hresolve).2.2⟩, hagree,
    hcongr context' origins' hagree⟩

end Node
end Dataflow
