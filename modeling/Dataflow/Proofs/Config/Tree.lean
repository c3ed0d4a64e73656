/-
JSON values as a file would spell them.

`Tree.ofJson` is the tree of a value; a value whose fields increase and whose floats are finite is
the JSON value of its own tree.  So the two readers of node configurations, the one of trees and the
one of JSON values, read the same of it, in object form and in array form.
-/
import Dataflow.Proofs.Config.Entry

namespace Dataflow

namespace Tree

mutual

def ofJson : Json → Tree
  | .null => .null
  | .bool value => .bool value
  | .int value => .int value
  | .float value => .float value
  | .str value => .str value
  | .arr items => .seq (ofJsonItems items)
  | .obj fields => .map (ofJsonFields fields)

def ofJsonItems : List Json → List Tree
  | [] => []
  | item :: rest => ofJson item :: ofJsonItems rest

def ofJsonFields : List (String × Json) → List (Tree × Tree)
  | [] => []
  | (name, value) :: rest => (.str name, ofJson value) :: ofJsonFields rest

end

theorem ofJsonItems_eq_map (items : List Json) : ofJsonItems items = items.map ofJson := by
  induction items with
  | nil => rfl
  | cons item rest ih => rw [ofJsonItems, ih, List.map_cons]

mutual

/-- A canonical value is the JSON value of its tree. -/
theorem toJson?_ofJson : ∀ {value : Json}, value.Canonical → (ofJson value).toJson? = some value
  | .null, _ => rfl
  | .bool _, _ => rfl
  | .int _, _ => rfl
  | .float _, h => congrArg some (if_pos h)
  | .str _, _ => rfl
  | .arr _, h => congrArg (Option.map Json.arr) (itemsToJson?_ofJson h)
  | .obj fields, h => by
    have hentries : Entries.ofList fields = fields :=
      congrArg KeyMap.entries (KeyMap.ofList_entries ⟨fields, h.1⟩)
    rw [ofJson, toJson?, entriesToJson?_ofJson h.2]
    exact congrArg (some ∘ Json.obj) hentries

theorem itemsToJson?_ofJson : ∀ {items : List Json}, Json.CanonicalItems items →
    itemsToJson? (ofJsonItems items) = some items
  | [], _ => rfl
  | item :: rest, h => by
    rw [ofJsonItems, itemsToJson?, toJson?_ofJson h.1, itemsToJson?_ofJson h.2]
    rfl

theorem entriesToJson?_ofJson : ∀ {fields : List (String × Json)}, Json.CanonicalFields fields →
    ∀ {before : List (String × Json)}, entriesToJson? before (ofJsonFields fields) =
      some (fields.foldl (fun acc e => Entries.insert e.1 e.2 acc) before)
  | [], _, _ => rfl
  | (name, value) :: rest, h, before => by
    rw [ofJsonFields, entriesToJson?, toJson?_ofJson h.1]
    exact entriesToJson?_ofJson h.2

end

/-! ## The parts of a node -/

variable {value : Json}

theorem asText?_ofJson_eq_some_iff {text : String} :
    (ofJson value).asText? = some text ↔ NodeConfig.readText value = .ok text := by
  cases value with
  | str s => exact ⟨fun h => by cases h; rfl, fun h => by cases h; rfl⟩
  | _ => exact ⟨nofun, nofun⟩

theorem asKeyword?_ofJson_eq_some_iff {keyword? : Option String} :
    (ofJson value).asKeyword? = some keyword? ↔ NodeConfig.readKeyword value = .ok keyword? := by
  cases value with
  | null => exact ⟨fun h => by cases h; rfl, fun h => by cases h; rfl⟩
  | str s => exact ⟨fun h => by cases h; rfl, fun h => by cases h; rfl⟩
  | _ => exact ⟨nofun, nofun⟩

theorem asParameters?_ofJson_eq_some_iff {parameters : KeyMap Json} (h : value.Canonical) :
    (ofJson value).asParameters? = some parameters ↔
      NodeConfig.readParameters value = .ok parameters := by
  cases value with
  | obj fields =>
    have hlist : KeyMap.ofList (Entries.ofList fields) = KeyMap.ofList fields :=
      (KeyMap.ofList fields).ofList_entries
    rw [ofJson, asParameters?, entriesToJson?_ofJson h.2]
    show some (KeyMap.ofList (Entries.ofList fields)) = _ ↔ Except.ok (KeyMap.ofList fields) = _
    rw [hlist]
    exact ⟨fun h => by cases h; rfl, fun h => by cases h; rfl⟩
  | _ => exact ⟨nofun, nofun⟩

end Tree

namespace NodeConfig

variable {processor? parameters? keyword? : Option Json} {config : NodeConfig}

theorem partOr_eq_some_iff {α : Type} {ofTree? : Tree → Option α}
    {read : Json → Except String α} {part? : Option Json} (default : α)
    (h : ∀ part a, part? = some part → (ofTree? (.ofJson part) = some a ↔ read part = .ok a))
    (a : α) :
    partOr ofTree? default (part?.map .ofJson) = some a ↔ readPart read default part? = .ok a := by
  cases part? with
  | none => exact ⟨fun h => by cases h; rfl, fun h => by cases h; rfl⟩
  | some part => exact h part a rfl

theorem ofParts?_eq_some_iff
    (h : ∀ parameters, parameters? = some parameters → parameters.Canonical) :
    ofParts? (processor?.map .ofJson) (parameters?.map .ofJson) (keyword?.map .ofJson) =
      some config ↔ Spells processor? parameters? keyword? config := by
  have hparameters := partOr_eq_some_iff .empty fun part (parameters : KeyMap Json) hpart =>
    Tree.asParameters?_ofJson_eq_some_iff (h part hpart)
  have hkeyword := partOr_eq_some_iff none fun part (contextKeyword? : Option String)
    (_ : keyword? = some part) => Tree.asKeyword?_ofJson_eq_some_iff
  cases processor? with
  | none => exact ⟨nofun, fun ⟨⟨_, hvalue, _⟩, _, _⟩ => nomatch hvalue⟩
  | some value =>
    simp only [ofParts?, Option.map_some, Option.bind_eq_bind, Option.bind_some,
      Option.bind_eq_some_iff, hparameters, hkeyword, Tree.asText?_ofJson_eq_some_iff]
    constructor
    · rintro ⟨_, hprocessor, _, hparameters, _, hkeyword, h⟩
      cases h
      exact ⟨⟨value, rfl, hprocessor⟩, hparameters, hkeyword⟩
    · rintro ⟨⟨_, hvalue, hprocessor⟩, hparameters, hkeyword⟩
      cases hvalue
      exact ⟨_, hprocessor, _, hparameters, _, hkeyword, rfl⟩

theorem ofTree?_parts :
    ofTree? (.ofJson (.obj (parts keyword? parameters? processor?))) =
      ofParts? (processor?.map .ofJson) (parameters?.map .ofJson) (keyword?.map .ofJson) := by
  cases keyword? <;> cases parameters? <;> cases processor? <;> rfl

/-- One strange name among the entries of a record is enough for it to be refused. -/
theorem fields?_eq_none_of_mem {names : List String} {field : String × Json}
    (hname : field.1 ∉ names) : ∀ {fields : List (String × Json)}, field ∈ fields →
      Tree.fields? true names (Tree.ofJsonFields fields) = none
  | [], h => nomatch h
  | (name, value) :: rest, h => by
    rw [Tree.ofJsonFields, Tree.fields?]
    rcases List.mem_cons.mp h with rfl | h
    · show (Tree.fields? true names (Tree.ofJsonFields rest)).bind _ = none
      rw [Tree.fieldOf?, if_neg hname]
      cases Tree.fields? true names (Tree.ofJsonFields rest) <;> rfl
    · rw [fields?_eq_none_of_mem hname h]
      rfl

/-- A node configuration is read from the tree of a value as from the value. -/
theorem ofTree?_ofJson_eq_some_iff {entry : Json} (h : entry.Canonical) :
    ofTree? (.ofJson entry) = some config ↔ ofJson entry = .ok config := by
  cases entry with
  | obj fields =>
    by_cases hnames : ∀ field ∈ fields, field.1 ∈ fieldNames
    · rw [ofJson, eq_parts h.1 hnames, ofTree?_parts,
        ofParts?_eq_some_iff (canonical_of_get? h _), ofFields_parts_eq_ok_iff]
    · have hform : ¬ ∃ config, ofFields fields = .ok config := fun hok =>
        hnames (names_of_isForm (exists_ofFields_iff.mp hok))
      obtain ⟨field, hfield, hname⟩ : ∃ field ∈ fields, field.1 ∉ fieldNames := by
        simpa using hnames
      rw [Tree.ofJson, ofTree?, fields?_eq_none_of_mem hname hfield]
      exact ⟨nofun, fun hok => absurd ⟨config, hok⟩ hform⟩
  | arr items =>
    have hparameters : ∀ parameters, items[1]? = some parameters → parameters.Canonical :=
      fun parameters hget => Json.canonicalItems_iff.mp h _ (List.mem_of_getElem? hget)
    rw [Tree.ofJson, ofTree?, ofJson, Tree.ofJsonItems_eq_map, List.length_map,
      Option.ite_none_left_eq_some, Nat.not_lt, List.getElem?_map, List.getElem?_map,
      List.getElem?_map, ofParts?_eq_some_iff hparameters, ofItems_eq_ok_iff]
  | _ => exact ⟨nofun, nofun⟩

end NodeConfig

namespace PipelineSpec

theorem mapM_ofTree?_ofJson : ∀ {entries : List Json}, Json.CanonicalItems entries →
    (Tree.ofJsonItems entries).mapM NodeConfig.ofTree? =
      entries.mapM fun entry => (NodeConfig.ofJson entry).toOption
  | [], _ => rfl
  | entry :: rest, h => by
    have hentry : NodeConfig.ofTree? (.ofJson entry) = (NodeConfig.ofJson entry).toOption :=
      Option.ext fun config => by
        rw [NodeConfig.ofTree?_ofJson_eq_some_iff h.1, Except.toOption_eq_some_iff]
    rw [Tree.ofJsonItems, List.mapM_cons, List.mapM_cons, hentry, mapM_ofTree?_ofJson h.2]

/-- So is a pipeline specification. -/
theorem ofTree?_ofJson {value : Json} (h : value.Canonical) :
    ofTree? (.ofJson value) = ofUntagged? value := by
  cases value with
  | arr entries => exact congrArg (Option.map nodes) (mapM_ofTree?_ofJson h)
  | _ => rfl

end PipelineSpec
end Dataflow
