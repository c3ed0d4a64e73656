/-
The entries of a node list: which values are node configurations, and which configuration each is.

`NodeConfig.IsForm` is the grammar of the object form, and the reader of fields succeeds on exactly
what it admits, in whatever order the fields stand.  The fields of an entry increase, so at most
three parts make an entry; `NodeConfig.Spells` says what configuration three parts stand for, and
the object form, the array form and the written form are all compared with it.  What is written
from an entry that was read is the entry without its blank fields, which are those that say no more
than their absence does.
-/
import Dataflow.Config.Tree
import Dataflow.Outcome
import Dataflow.Proofs.Data.Canonical

namespace Dataflow
namespace NodeConfig

/-- The fields of the object form. -/
def fields (config : NodeConfig) : List (String × Json) :=
  (config.contextKeyword?.toList.map fun keyword => ("context_keyword", .str keyword)) ++
    (if config.parameters.isEmpty then [] else [("parameters", .ofKeyMap config.parameters)]) ++
    [("processor", .str config.processor)]

/-! ## The grammar -/

/-- The fields that an entry may have, and the values that each may take. -/
inductive Allows : String → Json → Prop
  | processor (text : String) : Allows "processor" (.str text)
  | parameters (fields : List (String × Json)) : Allows "parameters" (.obj fields)
  | contextKeyword (text : String) : Allows "context_keyword" (.str text)
  | noContextKeyword : Allows "context_keyword" .null

/-- An object that names its processor and has no field but the allowed ones. -/
def IsForm (entry : Json) : Prop :=
  ∃ fields, entry = .obj fields ∧ (∀ field ∈ fields, Allows field.1 field.2) ∧
    ∃ text, ("processor", .str text) ∈ fields

variable {found found' : Found} {name : String} {value : Json} {fields : List (String × Json)}
  {processor? parameters? keyword? : Option Json} {config : NodeConfig}

theorem eq_str_of_allows (h : Allows "processor" value) : ∃ text, value = .str text := by
  generalize hname : "processor" = name at h
  cases h with
  | processor text => exact ⟨text, rfl⟩
  | parameters fields => exact absurd hname (by decide)
  | contextKeyword text => exact absurd hname (by decide)
  | noContextKeyword => exact absurd hname (by decide)

theorem mem_fieldNames_of_allows (h : Allows name value) : name ∈ fieldNames := by
  cases h <;> simp [fieldNames]

theorem names_of_isForm (h : IsForm (.obj fields)) : ∀ field ∈ fields, field.1 ∈ fieldNames := by
  obtain ⟨_, heq, hallows, -⟩ := h
  cases heq
  exact fun field hfield => mem_fieldNames_of_allows (hallows field hfield)

/-! ## Reading fields -/

theorem allows_of_readField (h : readField found name value = .ok found') : Allows name value := by
  unfold readField at h
  split at h
  · cases value <;> first | exact .processor _ | cases h
  · cases value <;> first | exact .parameters _ | cases h
  · cases value <;> first | exact .contextKeyword _ | exact .noContextKeyword | cases h
  · cases h

theorem exists_readField (h : Allows name value) (found : Found) :
    ∃ found', readField found name value = .ok found' := by
  cases h with
  | processor text => exact ⟨_, rfl⟩
  | parameters fields => exact ⟨_, rfl⟩
  | contextKeyword text => exact ⟨_, rfl⟩
  | noContextKeyword => exact ⟨_, rfl⟩

/-- A field gives a processor if it is called so, and takes none back. -/
theorem isSome_processor?_readField (h : readField found name value = .ok found') :
    found'.processor?.isSome ↔ found.processor?.isSome ∨ name = "processor" := by
  cases allows_of_readField h with
  | processor text => cases h; simp
  | parameters fields => cases h; simp
  | contextKeyword text => cases h; simp
  | noContextKeyword => cases h; simp

/-- Reads fields one after another. -/
def readFields (found : Found) (fields : List (String × Json)) : Except String Found :=
  fields.foldlM (fun found (name, value) => readField found name value) found

theorem readFields_cons_eq_ok_iff :
    readFields found ((name, value) :: fields) = .ok found' ↔
      ∃ next, readField found name value = .ok next ∧ readFields next fields = .ok found' := by
  rw [readFields, List.foldlM_cons, Except.bind_eq_ok_iff]
  rfl

theorem ofFields_eq_ok_iff :
    ofFields fields = .ok config ↔
      readFields {} fields =
        .ok ⟨some config.processor, config.parameters, config.contextKeyword?⟩ := by
  rw [ofFields, Except.bind_eq_ok_iff]
  constructor
  · rintro ⟨⟨processor?, parameters, contextKeyword?⟩, hread, h⟩
    cases processor? with
    | none => cases h
    | some processor => cases h; exact hread
  · exact fun h => ⟨_, h, rfl⟩

theorem allows_of_readFields (h : readFields found fields = .ok found') :
    (∀ field ∈ fields, Allows field.1 field.2) ∧
      (found'.processor?.isSome ↔
        found.processor?.isSome ∨ ∃ field ∈ fields, field.1 = "processor") := by
  induction fields generalizing found with
  | nil =>
    cases h
    simp
  | cons field rest ih =>
    obtain ⟨next, hfield, hrest⟩ := readFields_cons_eq_ok_iff.mp h
    obtain ⟨hallows, hprocessor⟩ := ih hrest
    refine ⟨List.forall_mem_cons.mpr ⟨allows_of_readField hfield, hallows⟩, ?_⟩
    rw [hprocessor, isSome_processor?_readField hfield, or_assoc]
    simp only [List.mem_cons, exists_eq_or_imp]

theorem exists_readFields (h : ∀ field ∈ fields, Allows field.1 field.2) (found : Found) :
    ∃ found', readFields found fields = .ok found' := by
  induction fields generalizing found with
  | nil => exact ⟨found, rfl⟩
  | cons field rest ih =>
    obtain ⟨hfield, hrest⟩ := List.forall_mem_cons.mp h
    obtain ⟨next, hnext⟩ := exists_readField hfield found
    obtain ⟨found', hfound'⟩ := ih hrest next
    exact ⟨found', readFields_cons_eq_ok_iff.mpr ⟨next, hnext, hfound'⟩⟩

/-- The reader of fields succeeds on exactly what the grammar admits. -/
theorem exists_ofFields_iff : (∃ config, ofFields fields = .ok config) ↔ IsForm (.obj fields) := by
  constructor
  · rintro ⟨config, h⟩
    obtain ⟨hallows, hprocessor⟩ := allows_of_readFields (ofFields_eq_ok_iff.mp h)
    obtain ⟨⟨name, value⟩, hmem, rfl⟩ := (hprocessor.mp rfl).resolve_left Bool.false_ne_true
    obtain ⟨text, rfl⟩ := eq_str_of_allows (hallows _ hmem)
    exact ⟨fields, rfl, hallows, text, hmem⟩
  · rintro ⟨fields, heq, hallows, text, hmem⟩
    cases heq
    obtain ⟨⟨processor?, parameters, keyword?⟩, hread⟩ := exists_readFields hallows {}
    have hsome := (allows_of_readFields hread).2.mpr (.inr ⟨_, hmem, rfl⟩)
    obtain ⟨processor, rfl⟩ := Option.isSome_iff_exists.mp hsome
    exact ⟨⟨processor, parameters, keyword?⟩, ofFields_eq_ok_iff.mpr hread⟩

/-! ## Parts -/

/-- The fields of an entry with the given parts. -/
def parts (keyword? parameters? processor? : Option Json) : List (String × Json) :=
  keyword?.toList.map (("context_keyword", ·)) ++
    parameters?.toList.map (("parameters", ·)) ++ processor?.toList.map (("processor", ·))

theorem sorted_parts (keyword? parameters? processor? : Option Json) :
    Entries.Sorted (parts keyword? parameters? processor?) := by
  have hkeyword : "context_keyword" < "parameters" := by decide
  have hparameters : "parameters" < "processor" := by decide
  have hkeyword' : "context_keyword" < "processor" := by decide
  cases keyword? <;> cases parameters? <;> cases processor? <;>
    simp only [parts, Entries.Sorted, Option.toList_some, Option.toList_none, List.map_cons,
      List.map_nil, List.cons_append, List.nil_append, List.append_nil, List.pairwise_cons,
      List.mem_cons, List.not_mem_nil, or_false, forall_eq_or_imp, forall_eq, List.Pairwise.nil,
      false_imp_iff, implies_true, hkeyword, hparameters, hkeyword', and_self]

/-- Sorted fields with allowed names are determined by what is found under these names. -/
theorem eq_parts (hsorted : Entries.Sorted fields)
    (hnames : ∀ field ∈ fields, field.1 ∈ fieldNames) :
    fields = parts (Entries.get? "context_keyword" fields) (Entries.get? "parameters" fields)
      (Entries.get? "processor" fields) := by
  refine Entries.eq_of_get?_eq hsorted (sorted_parts _ _ _) fun key => ?_
  by_cases hkey : key ∈ fieldNames
  · simp only [fieldNames, List.mem_cons, List.not_mem_nil, or_false] at hkey
    rcases hkey with rfl | rfl | rfl <;>
      generalize Entries.get? "context_keyword" fields = keyword?,
        Entries.get? "parameters" fields = parameters?,
        Entries.get? "processor" fields = processor? <;>
      cases keyword? <;> cases parameters? <;> cases processor? <;> rfl
  · have hfields : ∀ field ∈ fields, field.1 ≠ key :=
      fun field hfield heq => hkey (heq ▸ hnames field hfield)
    rw [Entries.get?_eq_none_of_forall_ne hfields, Entries.get?_eq_none_of_forall_ne]
    intro field hfield heq
    subst heq
    refine hkey ?_
    simp only [parts, List.mem_append, List.mem_map] at hfield
    rcases hfield with (⟨_, _, rfl⟩ | ⟨_, _, rfl⟩) | ⟨_, _, rfl⟩ <;> simp [fieldNames]

theorem canonical_of_get? (h : (Json.obj fields).Canonical) (name : String) :
    ∀ value, Entries.get? name fields = some value → value.Canonical :=
  fun _ hget => Json.canonicalFields_iff.mp h.2 _ ((Entries.get?_eq_some_iff_mem h.1).mp hget)

/-- Reads an optional part, with a default where it is left out. -/
def readPart {α : Type} (read : Json → Except String α) (default : α) :
    Option Json → Except String α
  | some value => read value
  | none => pure default

theorem readFields_parts (keyword? parameters? processor? : Option Json) :
    readFields {} (parts keyword? parameters? processor?) = do
      let contextKeyword? ← readPart readKeyword none keyword?
      let parameters ← readPart readParameters .empty parameters?
      let processor? ← readPart (fun value => some <$> readText value) none processor?
      return { processor?, parameters, contextKeyword? } := by
  cases keyword? <;> cases parameters? <;> cases processor? <;>
    simp [readFields, parts, readPart, readField]

/-- What three parts say, wherever they stand. -/
structure Spells (processor? parameters? keyword? : Option Json) (config : NodeConfig) :
    Prop where
  processor : ∃ value, processor? = some value ∧ readText value = .ok config.processor
  parameters : readPart readParameters .empty parameters? = .ok config.parameters
  contextKeyword? : readPart readKeyword none keyword? = .ok config.contextKeyword?

theorem ofFields_parts_eq_ok_iff :
    ofFields (parts keyword? parameters? processor?) = .ok config ↔
      Spells processor? parameters? keyword? config := by
  rw [ofFields_eq_ok_iff, readFields_parts]
  simp only [Except.bind_eq_ok_iff]
  constructor
  · rintro ⟨keyword, hkeyword, parameters, hparameters, processor, hprocessor, h⟩
    cases h
    cases processor? with
    | none => cases hprocessor
    | some value =>
      refine ⟨⟨value, rfl, ?_⟩, hparameters, hkeyword⟩
      change some <$> readText value = _ at hprocessor
      cases htext : readText value with
      | ok text => rw [htext] at hprocessor; cases hprocessor; rfl
      | error text => rw [htext] at hprocessor; cases hprocessor
  · rintro ⟨⟨value, rfl, hprocessor⟩, hparameters, hkeyword⟩
    refine ⟨_, hkeyword, _, hparameters, some config.processor, ?_, rfl⟩
    rw [readPart, hprocessor]
    rfl

theorem ofItems_cons (value : Json) (rest : List Json) :
    ofItems (value :: rest) = do
      let processor ← readText value
      let parameters ← readPart readParameters .empty rest[0]?
      let contextKeyword? ← readPart readKeyword none rest[1]?
      if 3 < (value :: rest).length then
        .error ("invalid length " ++ Decimal.natText (value :: rest).length ++
          ", expected fewer elements in array")
      else return { processor, parameters, contextKeyword? } := by
  rcases rest with _ | ⟨parameters, _ | ⟨keyword, rest⟩⟩
  · rfl
  · rfl
  · rfl

theorem ofItems_eq_ok_iff {items : List Json} :
    ofItems items = .ok config ↔
      items.length ≤ 3 ∧ Spells items[0]? items[1]? items[2]? config := by
  cases items with
  | nil => exact ⟨nofun, fun ⟨_, ⟨_, hvalue, _⟩, _, _⟩ => nomatch hvalue⟩
  | cons value rest =>
    simp only [ofItems_cons, Except.bind_eq_ok_iff]
    constructor
    · rintro ⟨processor, hprocessor, parameters, hparameters, keyword, hkeyword, h⟩
      split at h
      · cases h
      · cases h
        exact ⟨Nat.not_lt.mp ‹_›, ⟨value, rfl, hprocessor⟩, hparameters, hkeyword⟩
    · rintro ⟨hlength, ⟨_, hvalue, hprocessor⟩, hparameters, hkeyword⟩
      cases hvalue
      exact ⟨_, hprocessor, _, hparameters, _, hkeyword, if_neg (Nat.not_lt.mpr hlength)⟩

/-! ## Writing -/

theorem fields_eq_parts (config : NodeConfig) :
    config.fields = parts (config.contextKeyword?.map .str)
      (if config.parameters.isEmpty then none else some (.ofKeyMap config.parameters))
      (some (.str config.processor)) := by
  unfold NodeConfig.fields parts
  cases config.contextKeyword? <;> cases config.parameters.isEmpty <;> rfl

/-- What is written is read back. -/
theorem ofFields_fields (config : NodeConfig) : ofFields config.fields = .ok config := by
  rw [fields_eq_parts, ofFields_parts_eq_ok_iff]
  refine ⟨⟨_, rfl, rfl⟩, ?_, ?_⟩
  · cases hempty : config.parameters.isEmpty with
    | true => exact congrArg Except.ok (KeyMap.ext (List.isEmpty_iff.mp hempty)).symm
    | false => exact congrArg Except.ok config.parameters.ofList_entries
  · cases config.contextKeyword? <;> rfl

/-- A field that says no more than its absence does. -/
def isBlank : String × Json → Bool
  | ("parameters", .obj []) => true
  | ("context_keyword", .null) => true
  | _ => false

/-- An entry without its blank fields. -/
def trim : Json → Json
  | .obj fields => .obj (fields.filter fun field => !isBlank field)
  | entry => entry

theorem readText_eq_ok_iff {text : String} : readText value = .ok text ↔ value = .str text := by
  cases value with
  | str s => exact ⟨fun h => by cases h; rfl, fun h => by cases h; rfl⟩
  | _ => exact ⟨nofun, nofun⟩

theorem readPart_keyword_eq_ok {contextKeyword? : Option String}
    (h : readPart readKeyword none keyword? = .ok contextKeyword?) :
    (keyword? = none ∨ keyword? = some .null) ∧ contextKeyword? = none ∨
      ∃ text, keyword? = some (.str text) ∧ contextKeyword? = some text := by
  cases keyword? with
  | none => cases h; exact .inl ⟨.inl rfl, rfl⟩
  | some value =>
    cases value with
    | null => cases h; exact .inl ⟨.inr rfl, rfl⟩
    | str text => cases h; exact .inr ⟨text, rfl, rfl⟩
    | _ => cases h

theorem readPart_parameters_eq_ok {parameters : KeyMap Json}
    (h : readPart readParameters .empty parameters? = .ok parameters)
    (hcanonical : ∀ part, parameters? = some part → part.Canonical) :
    (parameters? = none ∨ parameters? = some (.obj [])) ∧ parameters = .empty ∨
      ∃ first rest, parameters? = some (.obj (first :: rest)) ∧
        parameters.entries = first :: rest := by
  cases parameters? with
  | none => cases h; exact .inl ⟨.inl rfl, rfl⟩
  | some part =>
    cases part with
    | obj fields =>
      cases h
      have hlist : KeyMap.ofList fields = ⟨fields, (hcanonical _ rfl).1⟩ :=
        KeyMap.ofList_entries ⟨fields, _⟩
      cases fields with
      | nil => exact .inl ⟨.inr rfl, hlist⟩
      | cons first rest => exact .inr ⟨first, rest, rfl, congrArg KeyMap.entries hlist⟩
    | _ => cases h

theorem toJson_of_spells (h : Spells processor? parameters? keyword? config)
    (hcanonical : ∀ part, parameters? = some part → part.Canonical) :
    config.toJson = trim (.obj (parts keyword? parameters? processor?)) := by
  obtain ⟨processor, parameters, contextKeyword?⟩ := config
  obtain ⟨⟨_, rfl, hprocessor⟩, hparameters, hkeyword⟩ := h
  cases readText_eq_ok_iff.mp hprocessor
  change readPart readParameters .empty parameters? = .ok parameters at hparameters
  rcases readPart_keyword_eq_ok hkeyword with ⟨rfl | rfl, rfl⟩ | ⟨text, rfl, rfl⟩ <;>
    rcases readPart_parameters_eq_ok hparameters hcanonical with
      ⟨rfl | rfl, rfl⟩ | ⟨first, rest, rfl, hentries⟩ <;>
    simp [toJson, trim, parts, isBlank, KeyMap.isEmpty, Json.ofKeyMap, KeyMap.empty, *]

/-- What is written from an entry that was read is the entry without its blank fields. -/
theorem toJson_of_ofFields (hcanonical : (Json.obj fields).Canonical)
    (h : ofFields fields = .ok config) : config.toJson = trim (.obj fields) := by
  have hnames := names_of_isForm (exists_ofFields_iff.mp ⟨config, h⟩)
  rw [eq_parts hcanonical.1 hnames] at h ⊢
  exact toJson_of_spells (ofFields_parts_eq_ok_iff.mp h) (canonical_of_get? hcanonical _)

end NodeConfig
end Dataflow
