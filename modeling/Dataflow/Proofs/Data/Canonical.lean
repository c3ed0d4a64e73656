/-
Values that a serializer builds as they were.

A serializer inserts the fields of an object one after another and has nothing for a float that is
not finite.  So it leaves a value alone whose fields increase and whose floats are finite, at every
depth, as they do in every value that was read from somewhere.
-/
import Dataflow.Json.Serializer
import Mathlib.Logic.Basic

namespace Dataflow

theorem KeyMap.ofList_entries {α : Type} (m : KeyMap α) : KeyMap.ofList m.entries = m := by
  refine KeyMap.ext_get? fun key => ?_
  have h := Entries.get?_foldl_insert key m.sorted []
  rw [show Entries.get? key ([] : List (String × α)) = none from rfl, Option.or_none] at h
  exact h

namespace Json

mutual

/-- The fields of every object in the value increase, and every float is finite. -/
def Canonical : Json → Prop
  | .float value => value.isFinite = true
  | .arr items => CanonicalItems items
  | .obj fields => Entries.Sorted fields ∧ CanonicalFields fields
  | _ => True

def CanonicalItems : List Json → Prop
  | [] => True
  | item :: rest => Canonical item ∧ CanonicalItems rest

def CanonicalFields : List (String × Json) → Prop
  | [] => True
  | (_, value) :: rest => Canonical value ∧ CanonicalFields rest

end

theorem canonicalItems_iff {items : List Json} :
    CanonicalItems items ↔ ∀ item ∈ items, item.Canonical := by
  induction items with
  | nil => simp [CanonicalItems]
  | cons item rest ih => simp [CanonicalItems, ih]

theorem canonicalFields_iff {fields : List (String × Json)} :
    CanonicalFields fields ↔ ∀ field ∈ fields, field.2.Canonical := by
  induction fields with
  | nil => simp [CanonicalFields]
  | cons field rest ih => rw [CanonicalFields, ih, List.forall_mem_cons]

mutual

/-- A serializer builds a canonical value as it was. -/
theorem serialized_of_canonical : ∀ {value : Json}, value.Canonical → value.serialized = value
  | .null, _ => rfl
  | .bool _, _ => rfl
  | .int _, _ => rfl
  | .float _, h => if_pos h
  | .str _, _ => rfl
  | .arr _, h => congrArg Json.arr (serializedItems_of_canonical h)
  | .obj fields, h => by
    have hentries : Entries.ofList fields = fields :=
      congrArg KeyMap.entries (KeyMap.ofList_entries ⟨fields, h.1⟩)
    rw [serialized, serializedFields_of_canonical h.2, hentries]

theorem serializedItems_of_canonical : ∀ {items : List Json}, CanonicalItems items →
    serializedItems items = items
  | [], _ => rfl
  | _ :: _, h =>
    congrArg₂ List.cons (serialized_of_canonical h.1) (serializedItems_of_canonical h.2)

theorem serializedFields_of_canonical : ∀ {fields : List (String × Json)},
    CanonicalFields fields → serializedFields fields = fields
  | [], _ => rfl
  | (name, _) :: _, h =>
    congrArg₂ List.cons (congrArg (name, ·) (serialized_of_canonical h.1))
      (serializedFields_of_canonical h.2)

end

end Json

end Dataflow
