/-
Finite maps from text keys, kept as strictly increasing lists of entries.

Contexts, parameter bags, origin tables, registries and channel tables are all
maps from text to something, and every text written from one of them lists its
keys in increasing order.  `KeyMap` keeps the entries in that order and carries
the proof, so that two maps with the same look-ups are the same value
(`KeyMap.ext_get?`) and printing needs no sorting.

The operations on bare entry lists come first, because the fields of a JSON
object are such a list: a nested inductive type cannot carry the proof.
Text is ordered by code point, which is also the order of its UTF-8 bytes.
-/
namespace Dataflow

/-! ## Entry lists -/

namespace Entries

variable {α β : Type}

/-- Puts `value` under `key`, replacing an entry that is already there. -/
def insert (key : String) (value : α) : List (String × α) → List (String × α)
  | [] => [(key, value)]
  | (k, v) :: rest =>
    if key < k then (key, value) :: (k, v) :: rest
    else if key = k then (key, value) :: rest
    else (k, v) :: insert key value rest

/-- The value under `key`, if there is one. -/
def get? (key : String) : List (String × α) → Option α
  | [] => none
  | (k, v) :: rest => if k = key then some v else get? key rest

/-- Drops every entry under `key`. -/
def erase (key : String) : List (String × α) → List (String × α)
  | [] => []
  | (k, v) :: rest => if k = key then erase key rest else (k, v) :: erase key rest

/-- Inserts the entries one after another, so that a later one wins. -/
def ofList (entries : List (String × α)) : List (String × α) :=
  entries.foldl (fun acc e => insert e.1 e.2 acc) []

/-- The keys increase strictly. -/
def Sorted (entries : List (String × α)) : Prop :=
  entries.Pairwise (fun a b => a.1 < b.1)

theorem key_trichotomy (a b : String) : a < b ∨ a = b ∨ b < a := by
  by_cases h₁ : a < b
  · exact .inl h₁
  · by_cases h₂ : b < a
    · exact .inr (.inr h₂)
    · exact .inr (.inl (String.le_antisymm (String.not_lt.mp h₂) (String.not_lt.mp h₁)))

theorem ne_of_key_lt {a b : String} (h : a < b) : a ≠ b := by
  intro hab
  subst hab
  exact String.lt_irrefl a h

theorem mem_insert {key : String} {value : α} {e : String × α} {entries : List (String × α)} :
    e ∈ insert key value entries → e = (key, value) ∨ e ∈ entries := by
  induction entries with
  | nil => simp [insert]
  | cons hd tl ih =>
    obtain ⟨k, v⟩ := hd
    unfold insert
    split
    · simp
    · split
      · intro h
        rcases List.mem_cons.mp h with h | h
        · exact .inl h
        · exact .inr (List.mem_cons_of_mem _ h)
      · intro h
        rcases List.mem_cons.mp h with h | h
        · exact .inr (h ▸ List.mem_cons_self)
        · rcases ih h with h | h
          · exact .inl h
          · exact .inr (List.mem_cons_of_mem _ h)

theorem sorted_insert (key : String) (value : α) {entries : List (String × α)}
    (h : Sorted entries) : Sorted (insert key value entries) := by
  induction entries with
  | nil => simp [insert, Sorted]
  | cons hd tl ih =>
    obtain ⟨k, v⟩ := hd
    have hhd : ∀ e ∈ tl, k < e.1 := (List.pairwise_cons.mp h).1
    have htl : Sorted tl := (List.pairwise_cons.mp h).2
    unfold insert
    split
    · rename_i hlt
      refine List.pairwise_cons.mpr ⟨fun e he => ?_, h⟩
      rcases List.mem_cons.mp he with he | he
      · exact he ▸ hlt
      · exact String.lt_trans hlt (hhd e he)
    · split
      · rename_i heq
        exact List.pairwise_cons.mpr ⟨fun e he => heq ▸ hhd e he, htl⟩
      · rename_i hlt hne
        refine List.pairwise_cons.mpr ⟨fun e he => ?_, ih htl⟩
        rcases mem_insert he with he | he
        · rcases key_trichotomy key k with h' | h' | h'
          · exact absurd h' hlt
          · exact absurd h' hne
          · exact he ▸ h'
        · exact hhd e he

theorem erase_sublist (key : String) (entries : List (String × α)) :
    (erase key entries).Sublist entries := by
  induction entries with
  | nil => exact List.Sublist.refl _
  | cons hd tl ih =>
    obtain ⟨k, v⟩ := hd
    unfold erase
    split
    · exact ih.cons _
    · exact ih.cons_cons _

theorem sorted_erase (key : String) {entries : List (String × α)} (h : Sorted entries) :
    Sorted (erase key entries) :=
  List.Pairwise.sublist (erase_sublist key entries) h

theorem sorted_foldl_insert (l : List (String × α)) :
    ∀ acc : List (String × α), Sorted acc →
      Sorted (l.foldl (fun acc e => insert e.1 e.2 acc) acc) := by
  induction l with
  | nil => exact fun _ h => h
  | cons e rest ih => exact fun acc h => ih _ (sorted_insert e.1 e.2 h)

theorem sorted_ofList (entries : List (String × α)) : Sorted (ofList entries) :=
  sorted_foldl_insert entries [] List.Pairwise.nil

theorem sorted_map (f : α → β) {entries : List (String × α)} (h : Sorted entries) :
    Sorted (entries.map (fun e => (e.1, f e.2))) :=
  List.Pairwise.map _ (fun _ _ h => h) h

@[simp] theorem get?_insert_self (key : String) (value : α) (entries : List (String × α)) :
    get? key (insert key value entries) = some value := by
  induction entries with
  | nil => simp [insert, get?]
  | cons hd tl ih =>
    obtain ⟨k, v⟩ := hd
    unfold insert
    split
    · simp [get?]
    · split
      · simp [get?]
      · rename_i hne
        simp [get?, Ne.symm hne, ih]

theorem get?_insert_ne {key other : String} (h : key ≠ other) (value : α)
    (entries : List (String × α)) :
    get? other (insert key value entries) = get? other entries := by
  induction entries with
  | nil => simp [insert, get?, h]
  | cons hd tl ih =>
    obtain ⟨k, v⟩ := hd
    unfold insert
    split
    · simp [get?, h]
    · split
      · rename_i heq
        subst heq
        simp [get?, h]
      · by_cases hk : k = other <;> simp [get?, hk, ih]

@[simp] theorem get?_erase_self (key : String) (entries : List (String × α)) :
    get? key (erase key entries) = none := by
  induction entries with
  | nil => rfl
  | cons hd tl ih =>
    obtain ⟨k, v⟩ := hd
    unfold erase
    split
    · exact ih
    · rename_i hk
      simpa [get?, hk] using ih

theorem get?_erase_ne {key other : String} (h : key ≠ other) (entries : List (String × α)) :
    get? other (erase key entries) = get? other entries := by
  induction entries with
  | nil => rfl
  | cons hd tl ih =>
    obtain ⟨k, v⟩ := hd
    unfold erase
    split
    · rename_i hk
      simp [get?, hk, h, ih]
    · by_cases hko : k = other <;> simp [get?, hko, ih]

theorem get?_eq_none_of_forall_ne {key : String} {entries : List (String × α)}
    (h : ∀ e ∈ entries, e.1 ≠ key) : get? key entries = none := by
  induction entries with
  | nil => rfl
  | cons hd tl ih =>
    obtain ⟨k, v⟩ := hd
    have hk : k ≠ key := h (k, v) List.mem_cons_self
    simp [get?, hk, ih (fun e he => h e (List.mem_cons_of_mem _ he))]

theorem get?_map (f : α → β) (key : String) (entries : List (String × α)) :
    get? key (entries.map (fun e => (e.1, f e.2))) = (get? key entries).map f := by
  induction entries with
  | nil => rfl
  | cons hd tl ih =>
    by_cases hk : hd.1 = key <;> simp [get?, hk, ih]

/-- Entries under different keys can be looked up behind their insertion as before it. -/
theorem get?_foldl_insert (key : String) {entries : List (String × α)} (h : Sorted entries)
    (acc : List (String × α)) :
    get? key (entries.foldl (fun acc e => insert e.1 e.2 acc) acc) =
      (get? key entries).or (get? key acc) := by
  induction entries generalizing acc with
  | nil => rfl
  | cons e rest ih =>
    have hhead : ∀ x ∈ rest, e.1 < x.1 := (List.pairwise_cons.mp h).1
    rw [List.foldl_cons, ih (List.pairwise_cons.mp h).2]
    by_cases hkey : e.1 = key
    · subst hkey
      have hnone : get? e.1 rest = none :=
        get?_eq_none_of_forall_ne fun x hx => (ne_of_key_lt (hhead x hx)).symm
      rw [hnone, get?_insert_self, get?, if_pos rfl]
      rfl
    · rw [get?_insert_ne hkey, get?, if_neg hkey]

/-- In a sorted list a look-up finds exactly the entries. -/
theorem get?_eq_some_iff_mem {key : String} {value : α} {entries : List (String × α)}
    (h : Sorted entries) : get? key entries = some value ↔ (key, value) ∈ entries := by
  induction entries with
  | nil => simp [get?]
  | cons hd tl ih =>
    obtain ⟨k, v⟩ := hd
    have hhd : ∀ e ∈ tl, k < e.1 := (List.pairwise_cons.mp h).1
    have htl : Sorted tl := (List.pairwise_cons.mp h).2
    by_cases hk : k = key
    · subst hk
      have hout : (k, value) ∉ tl := fun hmem => ne_of_key_lt (hhd _ hmem) rfl
      simp [get?, hout, eq_comm]
    · simp [get?, hk, Ne.symm hk, ih htl]

/-- Sorted entry lists with the same look-ups are equal. -/
theorem eq_of_get?_eq :
    ∀ {l₁ l₂ : List (String × α)}, Sorted l₁ → Sorted l₂ →
      (∀ key, get? key l₁ = get? key l₂) → l₁ = l₂
  | [], [], _, _, _ => rfl
  | [], (k, v) :: _, _, _, h => by
    have := h k
    simp [get?] at this
  | (k, v) :: _, [], _, _, h => by
    have := h k
    simp [get?] at this
  | (k₁, v₁) :: t₁, (k₂, v₂) :: t₂, h₁, h₂, h => by
    have hd₁ : ∀ e ∈ t₁, k₁ < e.1 := (List.pairwise_cons.mp h₁).1
    have hd₂ : ∀ e ∈ t₂, k₂ < e.1 := (List.pairwise_cons.mp h₂).1
    have hk : k₁ = k₂ := by
      rcases key_trichotomy k₁ k₂ with hlt | heq | hlt
      · have hnone : get? k₁ ((k₂, v₂) :: t₂) = none :=
          get?_eq_none_of_forall_ne (fun e he => by
            rcases List.mem_cons.mp he with he | he
            · exact he ▸ (ne_of_key_lt hlt).symm
            · exact (ne_of_key_lt (String.lt_trans hlt (hd₂ e he))).symm)
        have := h k₁
        rw [hnone] at this
        simp [get?] at this
      · exact heq
      · have hnone : get? k₂ ((k₁, v₁) :: t₁) = none :=
          get?_eq_none_of_forall_ne (fun e he => by
            rcases List.mem_cons.mp he with he | he
            · exact he ▸ (ne_of_key_lt hlt).symm
            · exact (ne_of_key_lt (String.lt_trans hlt (hd₁ e he))).symm)
        have := h k₂
        rw [hnone] at this
        simp [get?] at this
    subst hk
    have hv : v₁ = v₂ := by
      have := h k₁
      simpa [get?] using this
    have ht : t₁ = t₂ := by
      refine eq_of_get?_eq (List.pairwise_cons.mp h₁).2 (List.pairwise_cons.mp h₂).2 (fun key => ?_)
      by_cases hkey : k₁ = key
      · subst hkey
        rw [get?_eq_none_of_forall_ne (fun e he => (ne_of_key_lt (hd₁ e he)).symm),
          get?_eq_none_of_forall_ne (fun e he => (ne_of_key_lt (hd₂ e he)).symm)]
      · have := h key
        simpa [get?, hkey] using this
    rw [hv, ht]

end Entries

/-! ## Maps -/

/-- A finite map from text keys to values of `α`. -/
structure KeyMap (α : Type) where
  entries : List (String × α)
  sorted : Entries.Sorted entries

namespace KeyMap

variable {α β : Type}

theorem ext {a b : KeyMap α} (h : a.entries = b.entries) : a = b := by
  cases a
  cases b
  simp_all

instance [DecidableEq α] : DecidableEq (KeyMap α) := fun a b =>
  if h : a.entries = b.entries then isTrue (ext h)
  else isFalse (fun hab => h (congrArg entries hab))

def empty : KeyMap α := ⟨[], List.Pairwise.nil⟩

instance : Inhabited (KeyMap α) := ⟨empty⟩

instance : EmptyCollection (KeyMap α) := ⟨empty⟩

def get? (m : KeyMap α) (key : String) : Option α := Entries.get? key m.entries

def contains (m : KeyMap α) (key : String) : Bool := (m.get? key).isSome

def insert (m : KeyMap α) (key : String) (value : α) : KeyMap α :=
  ⟨Entries.insert key value m.entries, Entries.sorted_insert key value m.sorted⟩

def erase (m : KeyMap α) (key : String) : KeyMap α :=
  ⟨Entries.erase key m.entries, Entries.sorted_erase key m.sorted⟩

/-- The keys in increasing order. -/
def keys (m : KeyMap α) : List String := m.entries.map Prod.fst

def size (m : KeyMap α) : Nat := m.entries.length

def isEmpty (m : KeyMap α) : Bool := m.entries.isEmpty

/-- The map of the listed entries; of two under one key the later wins. -/
def ofList (entries : List (String × α)) : KeyMap α :=
  ⟨Entries.ofList entries, Entries.sorted_ofList entries⟩

/-- Changes every value and keeps every key. -/
def map (f : α → β) (m : KeyMap α) : KeyMap β :=
  ⟨m.entries.map (fun e => (e.1, f e.2)), Entries.sorted_map f m.sorted⟩

@[simp] theorem get?_empty (key : String) : (empty : KeyMap α).get? key = none := rfl

@[simp] theorem get?_insert_self (m : KeyMap α) (key : String) (value : α) :
    (m.insert key value).get? key = some value :=
  Entries.get?_insert_self key value m.entries

theorem get?_insert_ne (m : KeyMap α) {key other : String} (h : key ≠ other) (value : α) :
    (m.insert key value).get? other = m.get? other :=
  Entries.get?_insert_ne h value m.entries

theorem get?_insert (m : KeyMap α) (key other : String) (value : α) :
    (m.insert key value).get? other = if key = other then some value else m.get? other := by
  by_cases h : key = other
  · subst h
    simp
  · simp [h, get?_insert_ne m h]

@[simp] theorem get?_erase_self (m : KeyMap α) (key : String) : (m.erase key).get? key = none :=
  Entries.get?_erase_self key m.entries

theorem get?_erase_ne (m : KeyMap α) {key other : String} (h : key ≠ other) :
    (m.erase key).get? other = m.get? other :=
  Entries.get?_erase_ne h m.entries

theorem get?_erase (m : KeyMap α) (key other : String) :
    (m.erase key).get? other = if key = other then none else m.get? other := by
  by_cases h : key = other
  · subst h
    simp
  · simp [h, get?_erase_ne m h]

/-- Of items inserted one after another, the last under a key stays. -/
theorem get?_foldl_insert {ι : Type} (name : ι → String) (value : ι → α) (items : List ι)
    (m : KeyMap α) (key : String) :
    (items.foldl (fun m x => m.insert (name x) (value x)) m).get? key =
      ((items.reverse.find? (name · = key)).map value).or (m.get? key) := by
  induction items generalizing m with
  | nil => rfl
  | cons x rest ih =>
    rw [List.foldl_cons, ih, List.reverse_cons, List.find?_append, get?_insert]
    cases rest.reverse.find? (name · = key) with
    | some y => rfl
    | none => by_cases h : name x = key <;> simp [h]

/-- Entries inserted into a map shadow its own, and add nothing else. -/
theorem get?_foldl_entries (other m : KeyMap α) (key : String) :
    (other.entries.foldl (fun m e => m.insert e.1 e.2) m).get? key =
      (other.get? key).or (m.get? key) := by
  have hentries : (other.entries.foldl (fun m e => m.insert e.1 e.2) m).entries =
      other.entries.foldl (fun acc e => Entries.insert e.1 e.2 acc) m.entries :=
    (List.foldl_hom KeyMap.entries (fun _ _ => rfl)).symm
  rw [get?, hentries, Entries.get?_foldl_insert key other.sorted]
  rfl

theorem get?_foldl_insert_const (keys : List String) (value : α) (m : KeyMap α) (key : String) :
    (keys.foldl (fun m k => m.insert k value) m).get? key =
      if key ∈ keys then some value else m.get? key := by
  induction keys generalizing m with
  | nil => rfl
  | cons k rest ih =>
    rw [List.foldl_cons, ih, get?_insert]
    by_cases h : k = key
    · simp [h]
    · simp [h, Ne.symm h]

theorem get?_foldl_erase (keys : List String) (m : KeyMap α) (key : String) :
    (keys.foldl (fun m k => m.erase k) m).get? key = if key ∈ keys then none else m.get? key := by
  induction keys generalizing m with
  | nil => rfl
  | cons k rest ih =>
    rw [List.foldl_cons, ih, get?_erase]
    by_cases h : k = key
    · simp [h]
    · simp [h, Ne.symm h]

theorem contains_eq_false_iff (m : KeyMap α) {key : String} :
    m.contains key = false ↔ m.get? key = none := by
  simp [contains]

theorem get?_map (f : α → β) (m : KeyMap α) (key : String) :
    (m.map f).get? key = (m.get? key).map f :=
  Entries.get?_map f key m.entries

theorem mem_entries_iff (m : KeyMap α) {key : String} {value : α} :
    (key, value) ∈ m.entries ↔ m.get? key = some value :=
  (Entries.get?_eq_some_iff_mem m.sorted).symm

theorem mem_keys_iff (m : KeyMap α) {key : String} : key ∈ m.keys ↔ m.contains key = true := by
  rw [contains, Option.isSome_iff_exists, keys, List.mem_map]
  constructor
  · rintro ⟨⟨k, value⟩, hmem, rfl⟩
    exact ⟨value, (mem_entries_iff m).mp hmem⟩
  · rintro ⟨value, hget⟩
    exact ⟨(key, value), (mem_entries_iff m).mpr hget, rfl⟩

theorem nodup_keys (m : KeyMap α) : m.keys.Nodup :=
  List.pairwise_map.mpr (m.sorted.imp fun h => Entries.ne_of_key_lt h)

/-- Two maps with the same look-ups are the same map. -/
theorem ext_get? {a b : KeyMap α} (h : ∀ key, a.get? key = b.get? key) : a = b :=
  ext (Entries.eq_of_get?_eq a.sorted b.sorted h)

end KeyMap
end Dataflow
