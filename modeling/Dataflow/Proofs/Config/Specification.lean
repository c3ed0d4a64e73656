/-
The one grammar of pipeline specifications.

`PipelineSpec.IsForm` says which values are specifications: a path, or a list of entries that are
all node configurations.  The reader of job metadata goes over the entries from the left, so what
it answers depends on the first bad entry alone: `readEntries_append` reads on behind good entries,
and `readEntries_of_fault` stops at a bad one, whatever follows it.  A value that it accepts is
written back without its blank fields.

The reader of files is more liberal, for it takes nodes in array form too.  On lists of objects the
two are one reader (`ofJson_eq_ok_iff`).
-/
import Dataflow.Proofs.Config.Tree

namespace Dataflow
namespace PipelineSpec

/-- A path, or a list of node configurations. -/
inductive IsForm : Json → Prop
  | path (path : String) : IsForm (.str path)
  | nodes {entries : List Json} (h : ∀ entry ∈ entries, NodeConfig.IsForm entry) :
    IsForm (.arr entries)

/-- Text, or a list of objects and nothing else. -/
def IsPlain : Json → Prop
  | .str _ => True
  | .arr entries => ∀ entry ∈ entries, ∃ fields, entry = .obj fields
  | _ => False

/-- What is wrong with an entry, as it stands behind its index. -/
inductive Fault : Json → String → Prop
  | shape {entry : Json} (h : ∀ fields, entry ≠ .obj fields) :
    Fault entry " is not a node configuration map"
  | fields {fields : List (String × Json)} {text : String}
    (h : NodeConfig.ofFields fields = .error text) : Fault (.obj fields) (": " ++ text)

/-- A bad entry has only good ones before it; the detail says what is wrong with it. -/
def FirstFault (entries before : List Json) (detail : String) : Prop :=
  ∃ entry rest, entries = before ++ entry :: rest ∧
    (∀ x ∈ before, NodeConfig.IsForm x) ∧ ¬ NodeConfig.IsForm entry ∧ Fault entry detail

/-- A specification without the blank fields of its entries. -/
def trim : Json → Json
  | .arr entries => .arr (entries.map NodeConfig.trim)
  | value => value

variable {entries before : List Json} {entry value : Json} {detail : String}
  {configs : List NodeConfig} {spec : PipelineSpec} {index : Nat}

theorem exists_fault_iff : (∃ detail, Fault entry detail) ↔ ¬ NodeConfig.IsForm entry := by
  constructor
  · rintro ⟨detail, hfault⟩ hform
    cases hfault with
    | shape h =>
      obtain ⟨fields, rfl, -⟩ := hform
      exact h fields rfl
    | fields h =>
      obtain ⟨config, hok⟩ := NodeConfig.exists_ofFields_iff.mpr hform
      cases hok.symm.trans h
  · intro hform
    by_cases hobj : ∃ fields, entry = .obj fields
    · obtain ⟨fields, rfl⟩ := hobj
      cases h : NodeConfig.ofFields fields with
      | ok config => exact absurd (NodeConfig.exists_ofFields_iff.mp ⟨config, h⟩) hform
      | error text => exact ⟨_, .fields h⟩
    · exact ⟨_, .shape fun fields h => hobj ⟨fields, h⟩⟩

theorem isForm_or_firstFault (entries : List Json) :
    (∀ entry ∈ entries, NodeConfig.IsForm entry) ∨
      ∃ before detail, FirstFault entries before detail := by
  induction entries with
  | nil => exact .inl nofun
  | cons entry rest ih =>
    by_cases hentry : NodeConfig.IsForm entry
    · rcases ih with hrest | ⟨before, detail, bad, after, rfl, hbefore, hfault⟩
      · exact .inl (List.forall_mem_cons.mpr ⟨hentry, hrest⟩)
      · exact .inr ⟨entry :: before, detail, bad, after, rfl,
          List.forall_mem_cons.mpr ⟨hentry, hbefore⟩, hfault⟩
    · obtain ⟨detail, hfault⟩ := exists_fault_iff.mpr hentry
      exact .inr ⟨[], detail, entry, rest, rfl, nofun, hentry, hfault⟩

/-! ## Reading entries -/

theorem readEntries_of_fault (h : Fault entry detail) (index : Nat) (rest : List Json) :
    readEntries index (entry :: rest) =
      .error (.invalid ("pipeline entry " ++ Decimal.natText index ++ detail)) := by
  cases h with
  | shape h =>
    cases entry with
    | obj fields => exact absurd rfl (h fields)
    | _ => rfl
  | fields h => rw [readEntries, h, ← String.append_assoc]

theorem readEntries_cons_eq_ok_iff {rest : List Json} :
    readEntries index (entry :: rest) = .ok configs ↔
      ∃ fields config later, entry = .obj fields ∧ NodeConfig.ofFields fields = .ok config ∧
        readEntries (index + 1) rest = .ok later ∧ configs = config :: later := by
  constructor
  · intro h
    by_cases hform : NodeConfig.IsForm entry
    · obtain ⟨fields, rfl, hfields⟩ := hform
      obtain ⟨config, hconfig⟩ := NodeConfig.exists_ofFields_iff.mpr ⟨fields, rfl, hfields⟩
      rw [readEntries, hconfig] at h
      obtain ⟨later, hlater, hconfigs⟩ := Except.bind_eq_ok_iff.mp h
      cases hconfigs
      exact ⟨fields, config, later, rfl, hconfig, hlater, rfl⟩
    · obtain ⟨detail, hfault⟩ := exists_fault_iff.mpr hform
      rw [readEntries_of_fault hfault] at h
      cases h
  · rintro ⟨fields, config, later, rfl, hconfig, hlater, rfl⟩
    rw [readEntries, hconfig]
    exact Except.bind_eq_ok_iff.mpr ⟨later, hlater, rfl⟩

/-- What stands behind good entries is read as if it stood alone, but for its index. -/
theorem readEntries_append (h : ∀ entry ∈ before, NodeConfig.IsForm entry) (index : Nat)
    (rest : List Json) :
    ∃ configs, readEntries index (before ++ rest) =
      (readEntries (index + before.length) rest).map (configs ++ ·) := by
  induction before generalizing index with
  | nil => exact ⟨[], by cases hrest : readEntries index rest <;> simp [hrest, Except.map]⟩
  | cons entry before ih =>
    obtain ⟨hentry, hbefore⟩ := List.forall_mem_cons.mp h
    obtain ⟨fields, rfl, -⟩ := hentry
    obtain ⟨config, hconfig⟩ := NodeConfig.exists_ofFields_iff.mpr (h _ List.mem_cons_self)
    obtain ⟨configs, hconfigs⟩ := ih hbefore (index + 1)
    have hindex : index + (before.length + 1) = index + 1 + before.length := by omega
    refine ⟨config :: configs, ?_⟩
    rw [List.cons_append, readEntries, hconfig, List.length_cons, hindex]
    show (readEntries (index + 1) (before ++ rest) >>= _) = _
    rw [hconfigs]
    cases readEntries (index + 1 + before.length) rest <;> rfl

theorem readEntries_eq_ok_iff :
    readEntries index entries = .ok configs ↔
      (∀ entry ∈ entries, ∃ fields, entry = .obj fields) ∧
        entries.mapM (fun entry => (NodeConfig.ofJson entry).toOption) = some configs := by
  induction entries generalizing index configs with
  | nil => exact ⟨fun h => by cases h; exact ⟨nofun, rfl⟩, fun ⟨_, h⟩ => by cases h; rfl⟩
  | cons entry rest ih =>
    rw [readEntries_cons_eq_ok_iff, List.forall_mem_cons, List.mapM_cons]
    simp only [ih, Option.bind_eq_bind, Option.bind_eq_some_iff, Except.toOption_eq_some_iff]
    constructor
    · rintro ⟨fields, config, later, rfl, hconfig, ⟨hobjects, hlater⟩, rfl⟩
      exact ⟨⟨⟨fields, rfl⟩, hobjects⟩, config, hconfig, later, hlater, rfl⟩
    · rintro ⟨⟨⟨fields, rfl⟩, hobjects⟩, config, hconfig, later, hlater, h⟩
      cases h
      exact ⟨fields, config, later, rfl, hconfig, ⟨hobjects, hlater⟩, rfl⟩

theorem toJson_of_readEntries (hcanonical : Json.CanonicalItems entries)
    (h : readEntries index entries = .ok configs) :
    configs.map NodeConfig.toJson = entries.map NodeConfig.trim := by
  induction entries generalizing index configs with
  | nil => cases h; rfl
  | cons entry rest ih =>
    obtain ⟨fields, config, later, rfl, hconfig, hlater, rfl⟩ := readEntries_cons_eq_ok_iff.mp h
    rw [List.map_cons, List.map_cons, NodeConfig.toJson_of_ofFields hcanonical.1 hconfig,
      ih hcanonical.2 hlater]

theorem readEntries_map (configs : List NodeConfig) (index : Nat) :
    readEntries index (configs.map NodeConfig.toJson) = .ok configs := by
  induction configs generalizing index with
  | nil => rfl
  | cons config rest ih =>
    exact readEntries_cons_eq_ok_iff.mpr
      ⟨config.fields, config, rest, rfl, config.ofFields_fields, ih (index + 1), rfl⟩

/-! ## Reading a specification -/

theorem ofJson_arr_eq_ok_iff :
    ofJson (.arr entries) = .ok spec ↔
      ∃ configs, readEntries 0 entries = .ok configs ∧ spec = .nodes configs := by
  rw [ofJson]
  cases readEntries 0 entries with
  | ok configs =>
    exact ⟨fun h => by cases h; exact ⟨configs, rfl, rfl⟩, fun ⟨_, h, hspec⟩ => by
      cases h; cases hspec; rfl⟩
  | error e => exact ⟨nofun, fun ⟨_, h, _⟩ => nomatch h⟩

theorem exists_ofJson_of_isForm (h : IsForm value) : ∃ spec, ofJson value = .ok spec := by
  cases h with
  | path path => exact ⟨_, rfl⟩
  | @nodes entries h =>
    obtain ⟨configs, hread⟩ := readEntries_append h 0 []
    rw [List.append_nil] at hread
    exact ⟨.nodes _, ofJson_arr_eq_ok_iff.mpr ⟨_, hread, rfl⟩⟩

theorem ofJson_of_firstFault (h : FirstFault entries before detail) :
    ofJson (.arr entries) =
      .error (.invalid ("pipeline entry " ++ Decimal.natText before.length ++ detail)) := by
  obtain ⟨entry, rest, rfl, hbefore, -, hfault⟩ := h
  obtain ⟨configs, hread⟩ := readEntries_append hbefore 0 (entry :: rest)
  rw [ofJson, hread, readEntries_of_fault hfault, Nat.zero_add]
  rfl

theorem exists_ofJson_iff : (∃ spec, ofJson value = .ok spec) ↔ IsForm value := by
  refine ⟨fun ⟨spec, h⟩ => ?_, exists_ofJson_of_isForm⟩
  cases value with
  | str path => exact .path path
  | arr entries =>
    rcases isForm_or_firstFault entries with hforms | ⟨before, detail, hfirst⟩
    · exact .nodes hforms
    · cases h.symm.trans (ofJson_of_firstFault hfirst)
  | _ => cases h

theorem ofJson_eq_error_iff {e : ConfigError} :
    ofJson (.arr entries) = .error e ↔ ∃ before detail, FirstFault entries before detail ∧
      e = .invalid ("pipeline entry " ++ Decimal.natText before.length ++ detail) := by
  constructor
  · intro h
    rcases isForm_or_firstFault entries with hforms | ⟨before, detail, hfirst⟩
    · obtain ⟨spec, hok⟩ := exists_ofJson_of_isForm (.nodes hforms)
      cases hok.symm.trans h
    · cases h.symm.trans (ofJson_of_firstFault hfirst)
      exact ⟨before, detail, hfirst, rfl⟩
  · rintro ⟨before, detail, hfirst, rfl⟩
    exact ofJson_of_firstFault hfirst

theorem invalid_of_ofJson {e : ConfigError} (h : ofJson value = .error e) :
    ∃ text, e = .invalid text := by
  cases value with
  | str path => cases h
  | arr entries =>
    obtain ⟨before, detail, -, rfl⟩ := ofJson_eq_error_iff.mp h
    exact ⟨_, rfl⟩
  | _ => cases h; exact ⟨_, rfl⟩

/-- The reader of metadata is the reader of files, kept from nodes in array form. -/
theorem ofJson_eq_ok_iff :
    ofJson value = .ok spec ↔ IsPlain value ∧ ofUntagged? value = some spec := by
  cases value with
  | str path => exact ⟨fun h => by cases h; exact ⟨trivial, rfl⟩, fun ⟨_, h⟩ => by cases h; rfl⟩
  | arr entries =>
    rw [ofJson_arr_eq_ok_iff, ofUntagged?, Option.map_eq_some_iff]
    simp only [readEntries_eq_ok_iff]
    constructor
    · rintro ⟨configs, ⟨hobjects, hconfigs⟩, rfl⟩
      exact ⟨hobjects, configs, hconfigs, rfl⟩
    · rintro ⟨hobjects, configs, hconfigs, rfl⟩
      exact ⟨configs, ⟨hobjects, hconfigs⟩, rfl⟩
  | _ => exact ⟨nofun, fun h => h.1.elim⟩

theorem toJson_of_ofJson (hcanonical : value.Canonical) (h : ofJson value = .ok spec) :
    spec.toJson = trim value := by
  cases value with
  | str path => cases h; rfl
  | arr entries =>
    obtain ⟨configs, hread, rfl⟩ := ofJson_arr_eq_ok_iff.mp h
    exact congrArg Json.arr (toJson_of_readEntries hcanonical hread)
  | _ => cases h

theorem ofJson_toJson (spec : PipelineSpec) : ofJson spec.toJson = .ok spec := by
  cases spec with
  | path path => rfl
  | nodes configs => exact ofJson_arr_eq_ok_iff.mpr ⟨configs, readEntries_map configs 0, rfl⟩

/-- Pipeline specifications are decoded by one grammar.  A value is read if and only if it has the
form, and is called invalid otherwise; of a list, the message names the first entry that is not a
node configuration.  What is written from a specification that was read is the value without its
blank fields, if the value is canonical as values that come from a reader are, and it is read as
the same specification.  Files are read alike: what the reader of files makes of a value that is
accepted is the same specification, and it makes of a plain value nothing that is not accepted. -/
theorem decoded_by_one_grammar (value : Json) :
    ((∃ spec, ofJson value = .ok spec) ↔ IsForm value) ∧
    (∀ e, ofJson value = .error e → ∃ text, e = .invalid text) ∧
    (∀ entries, value = .arr entries → ∀ e, ofJson value = .error e ↔
      ∃ before detail, FirstFault entries before detail ∧
        e = .invalid ("pipeline entry " ++ Decimal.natText before.length ++ detail)) ∧
    (∀ spec, ofJson value = .ok spec →
      (value.Canonical → spec.toJson = trim value) ∧ ofJson spec.toJson = .ok spec ∧
        ofUntagged? value = some spec) ∧
    (∀ spec, IsPlain value → ofUntagged? value = some spec → ofJson value = .ok spec) ∧
    (value.Canonical → ofTree? (.ofJson value) = ofUntagged? value) := by
  refine ⟨exists_ofJson_iff, fun e => invalid_of_ofJson, ?_, fun spec h => ?_, ?_,
    ofTree?_ofJson⟩
  · rintro entries rfl e
    exact ofJson_eq_error_iff
  · exact ⟨fun hcanonical => toJson_of_ofJson hcanonical h, ofJson_toJson spec,
      (ofJson_eq_ok_iff.mp h).2⟩
  · exact fun spec hplain huntagged => ofJson_eq_ok_iff.mpr ⟨hplain, huntagged⟩

/-- Blank fields are dropped from a list that is accepted, a list with two bad entries is refused
for the first of them, and a node in array form is for files alone. -/
theorem decoded_by_one_grammar_of_blanks :
    let blank : Json :=
      .obj [("context_keyword", .null), ("parameters", .obj []), ("processor", .str "p")]
    let spec : PipelineSpec := .nodes [{ processor := "p" }]
    let value : Json := .arr [blank]
    let broken : Json := .arr [blank, .obj [], .int 2]
    let filed : Json := .arr [.arr [.str "p"]]
    ofJson value = .ok spec ∧ ofUntagged? value = some spec ∧
      spec.toJson = .arr [.obj [("processor", .str "p")]] ∧ ofTree? (.ofJson value) = some spec ∧
      ofJson broken = .error (.invalid "pipeline entry 1: missing field `processor`") ∧
      (∃ e, ofJson filed = .error e) ∧ ofTree? (.ofJson filed) = some spec := by
  have htext : ConfigError.invalid "pipeline entry 1: missing field `processor`" =
      .invalid ("pipeline entry " ++ Decimal.natText 1 ++ (": " ++ "missing field `processor`")) :=
    rfl
  intro blank spec value broken filed
  have hsorted := NodeConfig.sorted_parts (some .null) (some (.obj [])) (some (.str "p"))
  have hvalue : value.Canonical :=
    ⟨⟨hsorted, trivial, ⟨List.Pairwise.nil, trivial⟩, trivial, trivial⟩, trivial⟩
  have hplain : IsPlain value := fun _ hentry => ⟨_, List.mem_singleton.mp hentry⟩
  obtain ⟨-, -, -, hspec, hread, htree⟩ := decoded_by_one_grammar value
  have hok : ofJson value = .ok spec := hread spec hplain rfl
  obtain ⟨hwritten, -, huntagged⟩ := hspec spec hok
  have hblank : NodeConfig.IsForm blank :=
    NodeConfig.exists_ofFields_iff.mp ⟨{ processor := "p" }, rfl⟩
  have hfault : Fault (.obj []) (": " ++ "missing field `processor`") := .fields rfl
  have hfirst : FirstFault [blank, .obj [], .int 2] [blank]
      (": " ++ "missing field `processor`") :=
    ⟨_, _, rfl, List.forall_mem_singleton.mpr hblank, exists_fault_iff.mp ⟨_, hfault⟩, hfault⟩
  refine ⟨hok, huntagged, hwritten hvalue, (htree hvalue).trans huntagged, ?_, ⟨_, rfl⟩, ?_⟩
  · exact ((decoded_by_one_grammar broken).2.2.1 _ rfl _).mpr ⟨_, _, hfirst, htext⟩
  · exact ((decoded_by_one_grammar filed).2.2.2.2.2 ⟨⟨trivial, trivial⟩, trivial⟩).trans rfl

end PipelineSpec
end Dataflow
