/-
Tagged values are read back as they were, and nothing else is ever read.

`Json.Spells` is the grammar of tagged values: the two forms, the two spellings of a tag, and for
each type what its content may be.  The reader takes exactly the values of the grammar
(`rawOfTagged?_eq_some_iff`) and then validates, so `TypedData.ofTagged` has three outcomes that the
grammar tells apart: a value that is spelled and valid, the fault of one that is spelled and not
valid, and a wrong shape.  What is written is spelled (`TypedData.spells_toTagged`), with the tag
of its type.
-/
import Dataflow.Data.Tagged
import Dataflow.Outcome
import Dataflow.Proofs.Data.Canonical
import Mathlib.Data.List.Forall2

namespace Dataflow

/-! ## Validation rules -/

namespace Data

/-- Every float is finite, and every field of a record has a name. -/
def Valid : Data → Prop
  | .float value => value.isFinite = true
  | .floatVector values => ∀ value ∈ values, value.isFinite = true
  | .record fields => "" ∉ fields.keys
  | _ => True

/-- A record holds nothing that a serializer would change. -/
def Canonical : Data → Prop
  | .record fields => (Json.ofKeyMap fields).Canonical
  | _ => True

/-- The rule that a value breaks; of the elements of a vector the first counts. -/
inductive Breaks : Data → ValidationError → Prop
  | float {value : Float} (h : value.isFinite = false) :
      Breaks (.float value) (.nonFinite .float value)
  | element {before after : List Float} {value : Float}
      (hbefore : ∀ x ∈ before, x.isFinite = true) (h : value.isFinite = false) :
      Breaks (.floatVector (before ++ value :: after))
        (.nonFiniteElement .floatVector before.length value)
  | field {fields : KeyMap Json} (h : "" ∈ fields.keys) :
      Breaks (.record fields) .emptyRecordField

theorem firstNonFinite?_eq_none_iff {index : Nat} {values : List Float} :
    firstNonFinite? index values = none ↔ ∀ value ∈ values, value.isFinite = true := by
  induction values generalizing index with
  | nil => simp [firstNonFinite?]
  | cons v rest ih => cases hv : v.isFinite <;> simp [firstNonFinite?, hv, ih]

theorem firstNonFinite?_append {before : List Float} (h : ∀ x ∈ before, x.isFinite = true)
    (index : Nat) (rest : List Float) :
    firstNonFinite? index (before ++ rest) = firstNonFinite? (index + before.length) rest := by
  induction before generalizing index with
  | nil => rfl
  | cons x before ih =>
    rw [List.cons_append, firstNonFinite?, if_pos (h x List.mem_cons_self),
      ih (fun y hy => h y (List.mem_cons_of_mem x hy)), List.length_cons, Nat.add_right_comm]
    rfl

theorem exists_of_firstNonFinite?_eq_some {index found : Nat} {values : List Float} {value : Float}
    (h : firstNonFinite? index values = some (found, value)) :
    ∃ before after, values = before ++ value :: after ∧ found = index + before.length ∧
      (∀ x ∈ before, x.isFinite = true) ∧ value.isFinite = false := by
  induction values generalizing index with
  | nil => simp [firstNonFinite?] at h
  | cons v rest ih =>
    rw [firstNonFinite?] at h
    split at h
    · rename_i hv
      obtain ⟨before, after, hrest, hindex, hbefore, hvalue⟩ := ih h
      refine ⟨v :: before, after, by rw [hrest]; rfl, ?_, ?_, hvalue⟩
      · rw [hindex, List.length_cons]
        omega
      · exact List.forall_mem_cons.mpr ⟨hv, hbefore⟩
    · rename_i hv
      cases h
      exact ⟨[], rest, rfl, rfl, nofun, Bool.eq_false_iff.mpr hv⟩

theorem fault?_eq_none_iff {raw : Data} : raw.fault? = none ↔ raw.Valid := by
  cases raw with
  | float value => simp [fault?, Valid]
  | floatVector values => simp [fault?, Valid, firstNonFinite?_eq_none_iff]
  | record fields => simp [fault?, Valid, KeyMap.mem_keys_iff]
  | _ => simp [fault?, Valid]

theorem fault?_eq_some_iff {raw : Data} {fault : ValidationError} :
    raw.fault? = some fault ↔ raw.Breaks fault := by
  constructor
  · intro h
    cases raw with
    | float value =>
      rw [fault?] at h
      split at h
      · cases h
      · rename_i hvalue
        cases h
        exact .float (Bool.eq_false_iff.mpr hvalue)
    | floatVector values =>
      obtain ⟨⟨found, value⟩, hfound, rfl⟩ := Option.map_eq_some_iff.mp h
      obtain ⟨before, after, rfl, rfl, hbefore, hvalue⟩ :=
        exists_of_firstNonFinite?_eq_some hfound
      rw [Nat.zero_add]
      exact .element hbefore hvalue
    | record fields =>
      rw [fault?] at h
      split at h
      · rename_i hfield
        cases h
        exact .field (fields.mem_keys_iff.mpr hfield)
      · cases h
    | _ => cases h
  · intro h
    cases h with
    | float hvalue => simp [fault?, hvalue]
    | element hbefore hvalue =>
      rw [fault?, firstNonFinite?_append hbefore, firstNonFinite?, hvalue, Nat.zero_add]
      rfl
    | field hfield => simp [fault?, (KeyMap.mem_keys_iff _).mp hfield]

end Data

namespace TypedData

theorem new_eq_ok_iff {raw : Data} {d : TypedData} : new raw = .ok d ↔ d.data = raw := by
  unfold new
  split
  · rename_i h
    exact ⟨fun hd => by cases hd; rfl, fun hd => congrArg Except.ok (ext hd.symm)⟩
  · rename_i fault h
    refine ⟨nofun, fun hd => ?_⟩
    rw [← hd, d.valid] at h
    cases h

theorem new_eq_error_iff {raw : Data} {fault : ValidationError} :
    new raw = .error fault ↔ raw.fault? = some fault := by
  unfold new
  split
  · rename_i h
    exact ⟨nofun, fun hfault => nomatch h.symm.trans hfault⟩
  · rename_i found h
    rw [h]
    exact ⟨fun hfault => by cases hfault; rfl, fun hfault => by cases hfault; rfl⟩

end TypedData

/-! ## The grammar of tagged values -/

namespace Json

/-- The two spellings of a type. -/
inductive Tags : Json → DataType → Prop
  | name (type : DataType) : Tags (.str type.tag) type
  | unit (type : DataType) : Tags (.obj [(type.tag, .null)]) type

/-- A number, as the double that stands for it. -/
inductive Numbers : Json → Float → Prop
  | float (value : Float) : Numbers (.float value) value
  | int (value : Int) : Numbers (.int value) (floatOfInt value)

/-- The content of a raw value. -/
inductive Contains : Json → Data → Prop
  | empty : Contains .null .empty
  | float {content : Json} {value : Float} (h : content.Numbers value) :
      Contains content (.float value)
  | integer (value : Int64) : Contains (.int value.toInt) (.integer value)
  | text (value : String) : Contains (.str value) (.text value)
  | floatVector {items : List Json} {values : List Float} (h : List.Forall₂ Numbers items values) :
      Contains (.arr items) (.floatVector values)
  | record (fields : List (String × Json)) : Contains (.obj fields) (.record (.ofList fields))

/-- The forms of a raw value with its type: an array of type and content, an object with both among
its fields, and for the empty value an object with the type alone. -/
inductive Spells : Json → Data → Prop
  | array {tag content : Json} {raw : Data} (htag : tag.Tags raw.type)
      (hcontent : content.Contains raw) : Spells (.arr [tag, content]) raw
  | object {fields : List (String × Json)} {tag content : Json} {raw : Data}
      (htype : Entries.get? "type" fields = some tag) (htag : tag.Tags raw.type)
      (hvalue : Entries.get? "value" fields = some content) (hcontent : content.Contains raw) :
      Spells (.obj fields) raw
  | bare {fields : List (String × Json)} {tag : Json}
      (htype : Entries.get? "type" fields = some tag) (htag : tag.Tags .empty)
      (hvalue : Entries.get? "value" fields = none) : Spells (.obj fields) .empty

theorem asFloat?_eq_some_iff {v : Json} {value : Float} :
    v.asFloat? = some value ↔ v.Numbers value := by
  constructor
  · intro h
    cases v <;> cases h
    · exact .int _
    · exact .float _
  · rintro (_ | _) <;> rfl

theorem asStr?_eq_some_iff {v : Json} {text : String} :
    v.asStr? = some text ↔ v = .str text := by
  cases v <;> simp [asStr?]

theorem mapM_asFloat?_eq_some_iff {items : List Json} {values : List Float} :
    items.mapM asFloat? = some values ↔ List.Forall₂ Numbers items values := by
  induction items generalizing values with
  | nil => simp [List.forall₂_nil_left_iff, eq_comm]
  | cons item rest ih =>
    simp only [List.mapM_cons, List.forall₂_cons_left_iff, ← ih, ← asFloat?_eq_some_iff, bind,
      Option.bind_eq_some_iff, pure, Option.some.injEq, eq_comm (a := values), exists_and_left]

theorem exists_of_asInt64?_eq_some {v : Json} {n : Int} (h : v.asInt64? = some n) :
    ∃ value : Int64, v = .int value.toInt ∧ Int64.ofInt n = value := by
  unfold asInt64? at h
  split at h
  · split at h
    · rename_i hrange
      cases h
      refine ⟨_, congrArg Json.int (Int64.toInt_ofInt_of_le hrange.1 ?_).symm, rfl⟩
      exact Int.lt_of_le_sub_one hrange.2
    · cases h
  · cases h

theorem asInt64?_toInt (value : Int64) : (Json.int value.toInt).asInt64? = some value.toInt :=
  if_pos ⟨value.le_toInt, Int.le_sub_one_of_lt value.toInt_lt⟩

end Json

theorem DataType.ofTag?_eq_some_iff {s : String} {type : DataType} :
    ofTag? s = some type ↔ s = type.tag := by
  constructor
  · intro h
    have hfound : all.find? (fun t => t.tag == s) = some type := h
    have htag := List.find?_some hfound
    exact (eq_of_beq htag).symm
  · rintro rfl
    cases type <;> rfl

namespace TypedData

open Json

theorem typeOfTag?_eq_some_iff {tag : Json} {type : DataType} :
    typeOfTag? tag = some type ↔ tag.Tags type := by
  constructor
  · intro h
    unfold typeOfTag? at h
    split at h
    · rw [DataType.ofTag?_eq_some_iff.mp h]
      exact .name type
    · rw [DataType.ofTag?_eq_some_iff.mp h]
      exact .unit type
    · cases h
  · rintro (_ | _) <;> exact DataType.ofTag?_eq_some_iff.mpr rfl

theorem rawOfContent?_eq_some_iff {type : DataType} {content : Json} {raw : Data} :
    rawOfContent? type content = some raw ↔ raw.type = type ∧ content.Contains raw := by
  constructor
  · intro h
    unfold rawOfContent? at h
    split at h
    · cases h
      exact ⟨rfl, .empty⟩
    · obtain ⟨value, hvalue, rfl⟩ := Option.map_eq_some_iff.mp h
      exact ⟨rfl, .float (asFloat?_eq_some_iff.mp hvalue)⟩
    · obtain ⟨n, hn, rfl⟩ := Option.map_eq_some_iff.mp h
      obtain ⟨value, rfl, hvalue⟩ := exists_of_asInt64?_eq_some hn
      rw [hvalue]
      exact ⟨rfl, .integer value⟩
    · obtain ⟨value, hvalue, rfl⟩ := Option.map_eq_some_iff.mp h
      rw [asStr?_eq_some_iff.mp hvalue]
      exact ⟨rfl, .text value⟩
    · obtain ⟨values, hvalues, rfl⟩ := Option.map_eq_some_iff.mp h
      exact ⟨rfl, .floatVector (mapM_asFloat?_eq_some_iff.mp hvalues)⟩
    · cases h
      exact ⟨rfl, .record _⟩
    · cases h
  · rintro ⟨rfl, h⟩
    cases h with
    | empty => rfl
    | float hvalue => exact congrArg (Option.map Data.float) (asFloat?_eq_some_iff.mpr hvalue)
    | integer value =>
      show ((Json.int value.toInt).asInt64?.map _) = _
      rw [asInt64?_toInt, Option.map_some, Int64.ofInt_toInt]
    | text value => rfl
    | floatVector hvalues =>
      exact congrArg (Option.map Data.floatVector) (mapM_asFloat?_eq_some_iff.mpr hvalues)
    | record fields => rfl

/-- The reader takes the values of the grammar, each for what it spells. -/
theorem rawOfTagged?_eq_some_iff {v : Json} {raw : Data} :
    rawOfTagged? v = some raw ↔ v.Spells raw := by
  constructor
  · intro h
    unfold rawOfTagged? at h
    split at h
    · obtain ⟨type, htag, h⟩ := Option.bind_eq_some_iff.mp h
      obtain ⟨rfl, hcontent⟩ := rawOfContent?_eq_some_iff.mp h
      exact .array (typeOfTag?_eq_some_iff.mp htag) hcontent
    · obtain ⟨tag, htype, h⟩ := Option.bind_eq_some_iff.mp h
      obtain ⟨type, htag, h⟩ := Option.bind_eq_some_iff.mp h
      have htag := typeOfTag?_eq_some_iff.mp htag
      split at h
      · rename_i content hvalue
        obtain ⟨rfl, hcontent⟩ := rawOfContent?_eq_some_iff.mp h
        exact .object htype htag hvalue hcontent
      · rename_i hvalue
        obtain ⟨rfl, hraw⟩ := Option.ite_none_right_eq_some.mp h
        cases hraw
        exact .bare htype htag hvalue
    · cases h
  · intro h
    cases h with
    | array htag hcontent =>
      refine Option.bind_eq_some_iff.mpr ⟨raw.type, typeOfTag?_eq_some_iff.mpr htag, ?_⟩
      exact rawOfContent?_eq_some_iff.mpr ⟨rfl, hcontent⟩
    | object htype htag hvalue hcontent =>
      simp only [rawOfTagged?, htype, hvalue, typeOfTag?_eq_some_iff.mpr htag, bind,
        Option.bind_some]
      exact rawOfContent?_eq_some_iff.mpr ⟨rfl, hcontent⟩
    | bare htype htag hvalue =>
      simp only [rawOfTagged?, htype, hvalue, typeOfTag?_eq_some_iff.mpr htag, bind,
        Option.bind_some]
      rfl

/-! ## Reading -/

theorem ofTagged_of_spells {v : Json} {raw : Data} (h : v.Spells raw) :
    ofTagged v = (new raw).mapError .invalid := by
  rw [ofTagged, rawOfTagged?_eq_some_iff.mpr h]

theorem ofTagged_eq_ok_iff {v : Json} {d : TypedData} : ofTagged v = .ok d ↔ v.Spells d.data := by
  constructor
  · intro h
    unfold ofTagged at h
    split at h
    · cases h
    · rename_i raw hraw
      rw [new_eq_ok_iff.mp (Except.mapError_eq_ok_iff.mp h)]
      exact rawOfTagged?_eq_some_iff.mp hraw
  · intro h
    rw [ofTagged_of_spells h]
    exact Except.mapError_eq_ok_iff.mpr (new_eq_ok_iff.mpr rfl)

theorem ofTagged_eq_invalid_iff {v : Json} {fault : ValidationError} :
    ofTagged v = .error (.invalid fault) ↔
      ∃ raw, v.Spells raw ∧ new raw = .error fault := by
  constructor
  · intro h
    unfold ofTagged at h
    split at h
    · cases h
    · rename_i raw hraw
      refine ⟨raw, rawOfTagged?_eq_some_iff.mp hraw, ?_⟩
      cases hnew : new raw with
      | error found =>
        rw [hnew] at h
        cases h
        rfl
      | ok found =>
        rw [hnew] at h
        cases h
  · rintro ⟨raw, hraw, hnew⟩
    rw [ofTagged_of_spells hraw, hnew]
    rfl

theorem ofTagged_eq_shape_iff {v : Json} :
    ofTagged v = .error .shape ↔ ∀ raw, ¬ v.Spells raw := by
  constructor
  · intro h raw hraw
    rw [ofTagged_of_spells hraw] at h
    cases hnew : new raw <;> rw [hnew] at h <;> cases h
  · intro h
    have hraw : rawOfTagged? v = none :=
      Option.eq_none_iff_forall_ne_some.mpr fun raw hraw => h raw (rawOfTagged?_eq_some_iff.mp hraw)
    rw [ofTagged, hraw]

/-! ## Writing -/

theorem numbers_ofFloat {value : Float} (h : value.isFinite = true) :
    (Json.ofFloat value).Numbers value := by
  rw [Json.ofFloat, if_pos h]
  exact .float value

theorem contains_toJson (d : TypedData) : d.toJson.Contains d.data := by
  obtain ⟨raw, hvalid⟩ := d
  have hvalid := Data.fault?_eq_none_iff.mp hvalid
  cases raw with
  | empty => exact .empty
  | float value => exact .float (numbers_ofFloat hvalid)
  | integer value => exact .integer value
  | text value => exact .text value
  | floatVector values =>
    refine .floatVector (List.forall₂_map_left_iff.mpr ?_)
    exact List.forall₂_same.mpr fun value hvalue => numbers_ofFloat (hvalid value hvalue)
  | record fields =>
    have hcontent := Contains.record fields.entries
    rwa [fields.ofList_entries] at hcontent

theorem spells_array (d : TypedData) : (Json.arr [.str d.type.tag, d.toJson]).Spells d.data :=
  .array (.name d.type) d.contains_toJson

theorem spells_toTagged (d : TypedData) : d.toTagged.Spells d.data := by
  have hcontent := d.contains_toJson
  obtain ⟨raw, hvalid⟩ := d
  cases raw with
  | empty => exact .bare rfl (.name .empty) rfl
  | _ => exact .object rfl (.name _) rfl hcontent

theorem canonical_ofFloat {value : Float} (h : value.isFinite = true) :
    (Json.ofFloat value).Canonical := by
  rw [Json.ofFloat, if_pos h]
  exact h

theorem canonical_toJson {d : TypedData} (h : d.data.Canonical) : d.toJson.Canonical := by
  obtain ⟨raw, hvalid⟩ := d
  have hvalid := Data.fault?_eq_none_iff.mp hvalid
  cases raw with
  | float value => exact canonical_ofFloat hvalid
  | floatVector values =>
    refine Json.canonicalItems_iff.mpr fun item hitem => ?_
    obtain ⟨value, hvalue, rfl⟩ := List.mem_map.mp hitem
    exact canonical_ofFloat (hvalid value hvalue)
  | record fields => exact h
  | _ => trivial

theorem serialized_eq_toTagged {d : TypedData} (h : d.data.Canonical) :
    d.serialized = d.toTagged := by
  have hlt : ¬ "value" < "type" := by decide
  unfold serialized
  rw [Json.serialized_of_canonical (canonical_toJson h)]
  obtain ⟨raw, hvalid⟩ := d
  cases raw <;> simp [Json.ofRecord, Entries.ofList, Entries.insert, isEmpty, toTagged, hlt]

end TypedData

/-! ## Payloads -/

/-- The forms of a payload: an object with both parts among its fields, or an array of both. -/
inductive Json.SpellsPayload : Json → Data → Context → Prop
  | object {fields entries : List (String × Json)} {data : Json} {raw : Data}
      (hdata : Entries.get? "data" fields = some data) (hraw : data.Spells raw)
      (hcontext : Entries.get? "context" fields = some (.obj entries)) :
      SpellsPayload (.obj fields) raw (.ofList entries)
  | array {entries : List (String × Json)} {data : Json} {raw : Data} (hraw : data.Spells raw) :
      SpellsPayload (.arr [data, .obj entries]) raw (.ofList entries)

namespace Payload

theorem contextOfJson_eq_ok_iff {v : Json} {context : Context} :
    contextOfJson v = .ok context ↔ ∃ entries, v = .obj entries ∧ context = .ofList entries := by
  cases v <;> simp [contextOfJson, eq_comm]

theorem mapM_eq_ok_some_iff {α : Type} {f : Json → Except TaggedError α} {v? : Option Json}
    {a : α} : v?.mapM f = .ok (some a) ↔ ∃ v, v? = some v ∧ f v = .ok a := by
  cases v? with
  | none => exact ⟨nofun, nofun⟩
  | some v =>
    rw [Option.mapM_some]
    cases hv : f v <;> simp [hv, Functor.map, Except.map]

theorem ofTagged_of_spells {v : Json} {raw : Data} {context : Context}
    (h : v.SpellsPayload raw context) :
    ofTagged v =
      ((TypedData.new raw).mapError .invalid).map fun data => { data, context } := by
  cases h with
  | object hdata hraw hcontext =>
    rw [ofTagged, hdata, hcontext, Option.mapM_some, Option.mapM_some,
      TypedData.ofTagged_of_spells hraw]
    cases TypedData.new raw <;> rfl
  | array hraw =>
    rw [ofTagged, TypedData.ofTagged_of_spells hraw]
    cases TypedData.new raw <;> rfl

theorem ofTagged_eq_ok_iff {v : Json} {p : Payload} :
    ofTagged v = .ok p ↔ v.SpellsPayload p.data.data p.context := by
  constructor
  · intro h
    unfold ofTagged at h
    split at h
    · rename_i fields
      obtain ⟨context?, hcontext, h⟩ := Except.bind_eq_ok_iff.mp h
      obtain ⟨data?, hdata, h⟩ := Except.bind_eq_ok_iff.mp h
      split at h
      · cases h
        obtain ⟨data, hdata', hread⟩ := mapM_eq_ok_some_iff.mp hdata
        obtain ⟨v, hcontext', hentries⟩ := mapM_eq_ok_some_iff.mp hcontext
        obtain ⟨entries, rfl, rfl⟩ := contextOfJson_eq_ok_iff.mp hentries
        exact .object hdata' (TypedData.ofTagged_eq_ok_iff.mp hread) hcontext'
      · cases h
    · obtain ⟨data, hread, h⟩ := Except.bind_eq_ok_iff.mp h
      split at h
      · obtain ⟨context, hentries, h⟩ := Except.bind_eq_ok_iff.mp h
        obtain ⟨entries, rfl, rfl⟩ := contextOfJson_eq_ok_iff.mp hentries
        cases h
        exact .array (TypedData.ofTagged_eq_ok_iff.mp hread)
      · cases h
    · cases h
  · intro h
    rw [ofTagged_of_spells h, TypedData.new_eq_ok_iff.mpr rfl]
    rfl

theorem spells_of_fields (p : Payload) {fields : List (String × Json)}
    (hdata : Entries.get? "data" fields = some p.data.toTagged)
    (hcontext : Entries.get? "context" fields = some (.ofKeyMap p.context)) :
    (Json.obj fields).SpellsPayload p.data.data p.context := by
  have hspells := Json.SpellsPayload.object hdata p.data.spells_toTagged hcontext
  rwa [p.context.ofList_entries] at hspells

theorem spells_array (p : Payload) :
    (Json.arr [p.data.toTagged, .ofKeyMap p.context]).SpellsPayload p.data.data p.context := by
  have hspells : Json.SpellsPayload (.arr [p.data.toTagged, .obj p.context.entries]) p.data.data
      (.ofList p.context.entries) := .array p.data.spells_toTagged
  rwa [p.context.ofList_entries] at hspells

theorem serialized_eq {p : Payload} (hdata : p.data.data.Canonical)
    (hcontext : (Json.ofKeyMap p.context).Canonical) :
    p.serialized = .obj [("context", .ofKeyMap p.context), ("data", p.data.toTagged)] := by
  have hlt : "context" < "data" := by decide
  unfold serialized
  rw [TypedData.serialized_eq_toTagged hdata, Json.serialized_of_canonical hcontext]
  simp [Json.ofRecord, Entries.ofList, Entries.insert, hlt]

/-- What is written of data is read back as it was, in either form and with the tag of its type,
and so is a payload; a serializer writes the same.  A value is read exactly if it is spelled for
valid data.  What is spelled and breaks a rule is refused for the fault of the raw value, and the
rest is no tagged value. -/
theorem survives_and_is_not_forged :
    (∀ d : TypedData,
      d.toTagged.field? "type" = some (.str d.type.tag) ∧
      TypedData.ofTagged d.toTagged = .ok d ∧
      TypedData.ofTagged (.arr [.str d.type.tag, d.toJson]) = .ok d ∧
      (d.data.Canonical → d.serialized = d.toTagged)) ∧
    (∀ p : Payload,
      ofTagged p.toJson = .ok p ∧
      ofTagged (.arr [p.data.toTagged, .ofKeyMap p.context]) = .ok p ∧
      (p.data.data.Canonical → (Json.ofKeyMap p.context).Canonical →
        ofTagged p.serialized = .ok p)) ∧
    (∀ raw fault, TypedData.new raw = .error fault ↔ raw.Breaks fault) ∧
    ∀ v : Json,
      ((∀ d, TypedData.ofTagged v = .ok d ↔ v.Spells d.data) ∧
        (∀ d, TypedData.ofTagged v = .ok d → d.data.Valid) ∧
        (∀ fault, TypedData.ofTagged v = .error (.invalid fault) ↔
          ∃ raw, v.Spells raw ∧ TypedData.new raw = .error fault) ∧
        (TypedData.ofTagged v = .error .shape ↔ ∀ raw, ¬ v.Spells raw)) ∧
      (∀ p, ofTagged v = .ok p ↔ v.SpellsPayload p.data.data p.context) ∧
      (∀ p, ofTagged v = .ok p → p.data.data.Valid) ∧
      ∀ raw context fault, v.SpellsPayload raw context → TypedData.new raw = .error fault →
        ofTagged v = .error (.invalid fault) := by
  have hvalid (d : TypedData) : d.data.Valid := Data.fault?_eq_none_iff.mp d.valid
  refine ⟨fun d => ⟨?_, ?_, ?_, TypedData.serialized_eq_toTagged⟩, fun p => ⟨?_, ?_, ?_⟩,
    fun raw fault => TypedData.new_eq_error_iff.trans Data.fault?_eq_some_iff, fun v => ⟨?_, ?_⟩⟩
  · obtain ⟨raw, _⟩ := d
    cases raw <;> rfl
  · exact TypedData.ofTagged_eq_ok_iff.mpr d.spells_toTagged
  · exact TypedData.ofTagged_eq_ok_iff.mpr d.spells_array
  · exact ofTagged_eq_ok_iff.mpr (p.spells_of_fields rfl rfl)
  · exact ofTagged_eq_ok_iff.mpr p.spells_array
  · intro hdata hcontext
    rw [serialized_eq hdata hcontext]
    exact ofTagged_eq_ok_iff.mpr (p.spells_of_fields rfl rfl)
  · exact ⟨fun d => TypedData.ofTagged_eq_ok_iff, fun d _ => hvalid d,
      fun fault => TypedData.ofTagged_eq_invalid_iff, TypedData.ofTagged_eq_shape_iff⟩
  · refine ⟨fun p => ofTagged_eq_ok_iff, fun p _ => hvalid p.data, ?_⟩
    intro raw context fault hspells hnew
    rw [ofTagged_of_spells hspells, hnew]
    rfl

/-- A record comes from elsewhere with a field that has no name. -/
example : TypedData.ofTagged
    (.obj [("type", .str "record"), ("value", .obj [("", .int 1)])]) =
      .error (.invalid .emptyRecordField) := rfl

end Payload

end Dataflow
