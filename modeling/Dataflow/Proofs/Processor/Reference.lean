/-
Which references spell out a processor, and what every other one resolves to.

`Processor.Spelled` is the grammar of shorthands.  Its three forms are split at the first or at the
last colon, which decides where colons may stand: in the format of a template, and nowhere else
(`Text.splitFirst_eq_some_iff`, `Text.splitLast_eq_some_iff`).  Whatever begins like a shorthand is
one or is malformed, so a registry only has a say in the rest.
-/
import Dataflow.Proofs.Processor.Template
import Dataflow.Registry
import Mathlib.Data.List.Induction

namespace Dataflow

/-! ## Splitting -/

namespace Text

variable {c : Char} {text before after : List Char}

theorem splitFirst_append (h : c ∉ before) (after : List Char) :
    splitFirst c (before ++ c :: after) = some (before, after) := by
  induction before with
  | nil => exact if_pos rfl
  | cons d before ih =>
    have hd : d ≠ c := (List.ne_of_not_mem_cons h).symm
    rw [List.cons_append, splitFirst, if_neg hd, ih (List.not_mem_of_not_mem_cons h)]
    rfl

theorem splitFirst_eq_some_iff :
    splitFirst c text = some (before, after) ↔ c ∉ before ∧ text = before ++ c :: after := by
  constructor
  · intro h
    induction text generalizing before with
    | nil => cases h
    | cons d rest ih =>
      rw [splitFirst] at h
      split at h
      · rename_i hd
        cases h
        exact ⟨List.not_mem_nil, hd ▸ rfl⟩
      · rename_i hd
        obtain ⟨⟨before', after'⟩, hrest, heq⟩ := Option.map_eq_some_iff.mp h
        cases heq
        obtain ⟨hbefore, rfl⟩ := ih hrest
        exact ⟨List.not_mem_cons_of_ne_of_not_mem (Ne.symm hd) hbefore, rfl⟩
  · rintro ⟨hbefore, rfl⟩
    exact splitFirst_append hbefore after

theorem splitLast_eq_none_iff : splitLast c text = none ↔ c ∉ text := by
  induction text with
  | nil => simp [splitLast]
  | cons d rest ih =>
    rw [splitLast, List.mem_cons, not_or, ← ih]
    cases splitLast c rest with
    | some parts => simp
    | none => simp [eq_comm]

theorem splitLast_append (h : c ∉ after) (before : List Char) :
    splitLast c (before ++ c :: after) = some (before, after) := by
  induction before with
  | nil =>
    rw [List.nil_append, splitLast, splitLast_eq_none_iff.mpr h]
    exact if_pos rfl
  | cons d before ih => rw [List.cons_append, splitLast, ih]

theorem splitLast_eq_some_iff :
    splitLast c text = some (before, after) ↔ c ∉ after ∧ text = before ++ c :: after := by
  constructor
  · intro h
    induction text generalizing before with
    | nil => cases h
    | cons d rest ih =>
      rw [splitLast] at h
      split at h
      · rename_i hrest
        cases h
        obtain ⟨hafter, rfl⟩ := ih hrest
        exact ⟨hafter, rfl⟩
      · rename_i hrest
        obtain ⟨hd, heq⟩ := Option.ite_none_right_eq_some.mp h
        cases heq
        exact ⟨splitLast_eq_none_iff.mp hrest, hd ▸ rfl⟩
  · rintro ⟨hafter, rfl⟩
    exact splitLast_append hafter before

end Text

namespace Processor

/-! ## Shorthands -/

/-- What a shorthand may name by itself: not empty and without a colon. -/
def IsPart (part : String) : Prop := part ≠ "" ∧ ':' ∉ part.toList

/-- The references that spell out a context processor, with that processor. -/
inductive Spelled : String → ContextProcessor → Prop
  | rename {old new : String} (hold : IsPart old) (hnew : IsPart new) :
      Spelled ("rename:" ++ old ++ ":" ++ new) (renameKey old new)
  | delete {key : String} (hkey : IsPart key) : Spelled ("delete:" ++ key) (deleteKey key)
  | template {format output : String} {t : Template} (hformat : format ≠ "")
      (houtput : IsPart output) (ht : Template.parse format output = .ok t) :
      Spelled ("template:" ++ format ++ ":" ++ output) t.toProcessor

/-- The reference starts with a word of the shorthands. -/
inductive Begins : String → Prop
  | rename (rest : String) : Begins ("rename:" ++ rest)
  | delete (rest : String) : Begins ("delete:" ++ rest)
  | template (rest : String) : Begins ("template:" ++ rest)

variable {reference rest : String} {p : ContextProcessor} {processor : Processor}

theorem toList_joined (before after : String) :
    (before ++ ":" ++ after).toList = before.toList ++ ':' :: after.toList := by
  simp [String.toList_append]

theorem append_joined (word before after : String) :
    word ++ before ++ ":" ++ after = word ++ (before ++ ":" ++ after) := by
  simp only [String.append_assoc]

theorem eq_joined {text : String} {before after : List Char}
    (h : text.toList = before ++ ':' :: after) :
    text = String.ofList before ++ ":" ++ String.ofList after := by
  rw [← String.toList_inj, toList_joined, String.toList_ofList, String.toList_ofList, h]

theorem isPart_ofList {part : List Char} :
    IsPart (String.ofList part) ↔ part ≠ [] ∧ ':' ∉ part := by
  simp [IsPart]

/-! ## The three forms -/

theorem renameOf?_eq_some_iff :
    renameOf? rest.toList = some p ↔
      ∃ old new, IsPart old ∧ IsPart new ∧ rest = old ++ ":" ++ new ∧ p = renameKey old new := by
  constructor
  · intro h
    obtain ⟨⟨old, new⟩, hsplit, h⟩ := Option.bind_eq_some_iff.mp h
    obtain ⟨hold, hrest⟩ := Text.splitFirst_eq_some_iff.mp hsplit
    obtain ⟨hparts, hp⟩ := Option.ite_none_left_eq_some.mp h
    simp only [List.isEmpty_iff, not_or] at hparts
    obtain ⟨hold', hnew, hnew'⟩ := hparts
    exact ⟨_, _, isPart_ofList.mpr ⟨hold', hold⟩, isPart_ofList.mpr ⟨hnew, hnew'⟩, eq_joined hrest,
      (Option.some.inj hp).symm⟩
  · rintro ⟨old, new, hold, hnew, rfl, rfl⟩
    rw [renameOf?, toList_joined, Text.splitFirst_append hold.2]
    show (if _ then _ else _) = _
    rw [if_neg]
    · simp
    · simpa [not_or] using ⟨hold.1, hnew⟩

theorem deleteOf?_eq_some_iff :
    deleteOf? rest.toList = some p ↔ IsPart rest ∧ p = deleteKey rest := by
  rw [deleteOf?, Option.ite_none_left_eq_some, not_or, List.isEmpty_iff, String.toList_eq_nil_iff,
    String.ofList_toList, Option.some.injEq, eq_comm (a := deleteKey rest)]
  rfl

theorem templateOf?_eq_some_iff {parsed : Except ReferenceError Template} :
    templateOf? rest.toList = some parsed ↔
      ∃ format output, format ≠ "" ∧ IsPart output ∧ rest = format ++ ":" ++ output ∧
        parsed = Template.parse format output := by
  constructor
  · intro h
    obtain ⟨⟨format, output⟩, hsplit, h⟩ := Option.bind_eq_some_iff.mp h
    obtain ⟨houtput, hrest⟩ := Text.splitLast_eq_some_iff.mp hsplit
    obtain ⟨hparts, hparsed⟩ := Option.ite_none_left_eq_some.mp h
    simp only [List.isEmpty_iff, not_or] at hparts
    obtain ⟨hformat, houtput'⟩ := hparts
    exact ⟨_, _, by simpa using hformat, isPart_ofList.mpr ⟨houtput', houtput⟩, eq_joined hrest,
      (Option.some.inj hparsed).symm⟩
  · rintro ⟨format, output, hformat, houtput, rfl, rfl⟩
    rw [templateOf?, toList_joined, Text.splitLast_append houtput.2]
    show (if _ then _ else _) = _
    rw [if_neg]
    · simp
    · simpa [not_or] using ⟨hformat, houtput.1⟩

theorem splitFirst_word {word : List Char} (hword : ':' ∉ word) (rest : String) :
    Text.splitFirst ':' (String.ofList word ++ ":" ++ rest).toList = some (word, rest.toList) := by
  rw [toList_joined, String.toList_ofList, Text.splitFirst_append hword]

theorem ofShorthand?_rename (rest : String) :
    ofShorthand? ("rename:" ++ rest) = some (match renameOf? rest.toList with
      | some p => .ok (.context p)
      | none => .error (.malformed ("rename:" ++ rest) "expected rename:<old>:<new>")) := by
  have hsplit : Text.splitFirst ':' ("rename:" ++ rest).toList = some (_, rest.toList) :=
    splitFirst_word (show ':' ∉ "rename".toList by decide) rest
  unfold ofShorthand?
  rw [hsplit]
  rfl

theorem ofShorthand?_delete (rest : String) :
    ofShorthand? ("delete:" ++ rest) = some (match deleteOf? rest.toList with
      | some p => .ok (.context p)
      | none => .error (.malformed ("delete:" ++ rest) "expected delete:<key>")) := by
  have hsplit : Text.splitFirst ':' ("delete:" ++ rest).toList = some (_, rest.toList) :=
    splitFirst_word (show ':' ∉ "delete".toList by decide) rest
  unfold ofShorthand?
  rw [hsplit]
  rfl

theorem ofShorthand?_template (rest : String) :
    ofShorthand? ("template:" ++ rest) = some ((templateOf? rest.toList).elim
      (.error (.malformed ("template:" ++ rest) "expected template:<format>:<output_key>"))
      (Except.map fun t => .context t.toProcessor)) := by
  have hsplit : Text.splitFirst ':' ("template:" ++ rest).toList = some (_, rest.toList) :=
    splitFirst_word (show ':' ∉ "template".toList by decide) rest
  rw [ofShorthand?, hsplit]
  simp only [Option.bind_eq_bind, Option.bind_some, String.ofList_toList]
  cases templateOf? rest.toList with
  | none => rfl
  | some parsed => cases parsed <;> rfl

theorem begins_of_ofShorthand? (h : (ofShorthand? reference).isSome) : Begins reference := by
  obtain ⟨parsed, h⟩ := Option.isSome_iff_exists.mp h
  obtain ⟨⟨word, rest⟩, hsplit, h⟩ := Option.bind_eq_some_iff.mp h
  have hreference := eq_joined (Text.splitFirst_eq_some_iff.mp hsplit).2
  dsimp only at h
  split at h
  · rename_i hword
    rw [hreference, hword]
    exact .rename _
  · rename_i hword
    rw [hreference, hword]
    exact .delete _
  · rename_i hword
    rw [hreference, hword]
    exact .template _
  · cases h

/-! ## References -/

theorem ofShorthand?_of_spelled (h : Spelled reference p) :
    ofShorthand? reference = some (.ok (.context p)) := by
  cases h with
  | @rename old new hold hnew =>
    have hrename := renameOf?_eq_some_iff.mpr ⟨old, new, hold, hnew, rfl, rfl⟩
    rw [append_joined, ofShorthand?_rename, hrename]
  | delete hkey => rw [ofShorthand?_delete, deleteOf?_eq_some_iff.mpr ⟨hkey, rfl⟩]
  | @template format output t hformat houtput ht =>
    have htemplate := templateOf?_eq_some_iff.mpr ⟨format, output, hformat, houtput, rfl, ht.symm⟩
    rw [append_joined, ofShorthand?_template, htemplate]
    rfl

/-- A reference that begins like a shorthand is one or is malformed. -/
theorem spelled_or_malformed (h : Begins reference) :
    (∃ p, Spelled reference p) ∨
      ∃ reason, ofShorthand? reference = some (.error (.malformed reference reason)) := by
  cases h with
  | rename rest =>
    rw [ofShorthand?_rename]
    cases hrename : renameOf? rest.toList with
    | none => exact .inr ⟨_, rfl⟩
    | some p =>
      obtain ⟨old, new, hold, hnew, rfl, -⟩ := renameOf?_eq_some_iff.mp hrename
      rw [← append_joined]
      exact .inl ⟨_, .rename hold hnew⟩
  | delete rest =>
    rw [ofShorthand?_delete]
    cases hdelete : deleteOf? rest.toList with
    | none => exact .inr ⟨_, rfl⟩
    | some p => exact .inl ⟨_, .delete (deleteOf?_eq_some_iff.mp hdelete).1⟩
  | template rest =>
    rw [ofShorthand?_template]
    cases htemplate : templateOf? rest.toList with
    | none => exact .inr ⟨_, rfl⟩
    | some parsed =>
      obtain ⟨format, output, hformat, houtput, rfl, rfl⟩ := templateOf?_eq_some_iff.mp htemplate
      rw [← append_joined]
      cases ht : Template.parse format output with
      | ok t => exact .inl ⟨_, .template hformat houtput ht⟩
      | error e =>
        -- The parser of the format makes up the reference again for its error.
        obtain ⟨_, _, reason, -, -, -, rfl⟩ := Template.parse_eq_error_iff.mp ht
        exact .inr ⟨reason, rfl⟩

theorem ofShorthand?_eq_none_iff : ofShorthand? reference = none ↔ ¬ Begins reference := by
  constructor
  · intro h hbegins
    rcases spelled_or_malformed hbegins with ⟨p, hp⟩ | ⟨reason, hreason⟩
    · cases h.symm.trans (ofShorthand?_of_spelled hp)
    · cases h.symm.trans hreason
  · intro h
    by_contra hsome
    exact h (begins_of_ofShorthand? (Option.isSome_iff_ne_none.mpr hsome))

theorem ofShorthand?_eq_ok_iff :
    ofShorthand? reference = some (.ok processor) ↔
      ∃ p, Spelled reference p ∧ processor = .context p := by
  constructor
  · intro h
    have hbegins : Begins reference := begins_of_ofShorthand? (by rw [h]; rfl)
    rcases spelled_or_malformed hbegins with ⟨p, hp⟩ | ⟨reason, hreason⟩
    · refine ⟨p, hp, ?_⟩
      rw [ofShorthand?_of_spelled hp] at h
      cases h
      rfl
    · cases h.symm.trans hreason
  · rintro ⟨p, hp, rfl⟩
    exact ofShorthand?_of_spelled hp

/-! ## Declared keys -/

theorem Spelled.unique {q : ContextProcessor} (hp : Spelled reference p)
    (hq : Spelled reference q) : p = q := by
  have h := (ofShorthand?_of_spelled hp).symm.trans (ofShorthand?_of_spelled hq)
  cases h
  rfl

theorem Spelled.name_eq (h : Spelled reference p) : p.name = reference := by
  cases h with
  | rename hold hnew => rfl
  | delete hkey => rfl
  | template hformat houtput ht =>
    obtain ⟨segments, -, -, rfl⟩ := Template.parse_eq_ok_iff.mp ht
    rfl

theorem Spelled.eq_deleteKey {key : String} (h : Spelled ("delete:" ++ key) p) :
    p = deleteKey key := by
  have hread := ofShorthand?_of_spelled h
  rw [ofShorthand?_delete] at hread
  cases hdelete : deleteOf? key.toList with
  | none =>
    rw [hdelete] at hread
    cases hread
  | some q =>
    rw [hdelete] at hread
    cases hread
    exact (deleteOf?_eq_some_iff.mp hdelete).2

theorem Spelled.exists_template {format output : String} (hformat : format ≠ "")
    (houtput : IsPart output) (h : Spelled ("template:" ++ format ++ ":" ++ output) p) :
    ∃ t, Template.parse format output = .ok t ∧ p = t.toProcessor := by
  have htemplate := templateOf?_eq_some_iff.mpr ⟨format, output, hformat, houtput, rfl, rfl⟩
  have hread := ofShorthand?_of_spelled h
  rw [append_joined, ofShorthand?_template, htemplate] at hread
  cases ht : Template.parse format output with
  | ok t =>
    rw [ht] at hread
    cases hread
    exact ⟨t, rfl, rfl⟩
  | error e =>
    rw [ht] at hread
    cases hread

end Processor

theorem eraseDups_concat (keys : List String) (key : String) :
    (keys ++ [key]).eraseDups = addKey key keys.eraseDups := by
  rw [List.eraseDups_append, addKey]
  by_cases h : key ∈ keys
  · rw [if_pos (List.mem_eraseDups.mpr h)]
    simp [List.removeAll, h]
  · rw [if_neg (List.mem_eraseDups.not.mpr h)]
    simp [List.removeAll, h, List.eraseDups_cons]

/-- The placeholders that a template requires, each where it is first used. -/
theorem Template.placeholders_eq (segments : List Segment) :
    placeholders segments = (segments.filterMap Segment.key?).eraseDups := by
  induction segments using List.reverseRecOn with
  | nil => rfl
  | append_singleton segments segment ih =>
    rw [placeholders, List.foldl_concat, ← placeholders, List.filterMap_append, ih]
    cases segment with
    | literal text => exact congrArg List.eraseDups (List.append_nil _).symm
    | key name => exact (eraseDups_concat _ name).symm

/-! ## Registries -/

namespace Registry

/-- Registers processors under names, one after another. -/
def registerEach (registry : Registry) (registrations : List (String × Processor)) : Registry :=
  registrations.foldl (fun registry (name, processor) => registry.register name processor) registry

variable {registrations before after : List (String × Processor)} {reference : String}
  {processor : Processor}

theorem builtin_eq_registerEach :
    builtin = registerEach .empty (Processor.builtins.map fun p => (p.name, p)) := by
  rw [registerEach, List.foldl_map]
  rfl

theorem get?_registerEach (registry : Registry) (registrations : List (String × Processor))
    (reference : String) :
    (registry.registerEach registrations).get? reference =
      ((registrations.reverse.find? (·.1 = reference)).map Prod.snd).or
        (registry.get? reference) :=
  KeyMap.get?_foldl_insert Prod.fst Prod.snd registrations registry reference

theorem find?_reverse_eq_none (h : ∀ r ∈ registrations, r.1 ≠ reference) :
    registrations.reverse.find? (·.1 = reference) = none :=
  List.find?_eq_none.mpr fun r hr => by simpa using h r (List.mem_reverse.mp hr)

theorem get?_registerEach_of_last (registry : Registry) (hafter : ∀ r ∈ after, r.1 ≠ reference) :
    (registry.registerEach (before ++ (reference, processor) :: after)).get? reference =
      some processor := by
  rw [get?_registerEach, List.reverse_append, List.reverse_cons, List.append_assoc,
    List.find?_append, find?_reverse_eq_none hafter]
  simp

theorem get?_registerEach_of_none (registry : Registry)
    (h : ∀ r ∈ registrations, r.1 ≠ reference) :
    (registry.registerEach registrations).get? reference = registry.get? reference := by
  rw [get?_registerEach, find?_reverse_eq_none h]
  rfl

theorem resolve_of_shorthand {parsed : Except ReferenceError Processor}
    (h : Processor.ofShorthand? reference = some parsed) (registry : Registry) :
    registry.resolve reference = parsed := by
  rw [resolve, h]

theorem resolve_of_none (h : Processor.ofShorthand? reference = none) (registry : Registry) :
    registry.resolve reference = match registry.get? reference with
      | some processor => .ok processor
      | none => .error (.unknown reference) := by
  unfold resolve
  cases registry.get? reference <;> simp only [h]

open Processor in
/-- A reference is left to the registry unless it begins like a shorthand, and then it is a
processor if the grammar spells one, or else it is malformed.  The processor goes by the reference
and declares the keys that it is made of.  Whatever is registered, a shorthand means the same, and
every other reference means the last processor registered under it. -/
theorem shorthands_resolve_exactly :
    (∀ reference, ofShorthand? reference = none ↔ ¬ Begins reference) ∧
    (∀ reference processor, ofShorthand? reference = some (.ok processor) ↔
      ∃ p, Spelled reference p ∧ processor = .context p) ∧
    (∀ reference, Begins reference → (∀ p, ¬ Spelled reference p) →
      ∃ reason, ofShorthand? reference = some (.error (.malformed reference reason))) ∧
    (∀ reference p, Spelled reference p → p.name = reference ∧
      (∀ old new, IsPart old → IsPart new → reference = "rename:" ++ old ++ ":" ++ new →
        p.requiredKeys = [old] ∧ p.createdKeys = [new] ∧ p.suppressedKeys = [old]) ∧
      (∀ key, reference = "delete:" ++ key →
        p.requiredKeys = [] ∧ p.createdKeys = [] ∧ p.suppressedKeys = [key]) ∧
      ∀ format output, format ≠ "" → IsPart output →
        reference = "template:" ++ format ++ ":" ++ output →
        ∃ t, Template.parse format output = .ok t ∧
          p.requiredKeys = (t.segments.filterMap Segment.key?).eraseDups ∧
          p.createdKeys = [output] ∧ p.suppressedKeys = []) ∧
    builtin = registerEach .empty (builtins.map fun p => (p.name, p)) ∧
    ∀ registrations reference,
      let registry := registerEach .empty registrations
      (∀ parsed, ofShorthand? reference = some parsed → registry.resolve reference = parsed) ∧
      (ofShorthand? reference = none →
        (∀ before processor after, registrations = before ++ (reference, processor) :: after →
          (∀ r ∈ after, r.1 ≠ reference) → registry.resolve reference = .ok processor) ∧
        ((∀ r ∈ registrations, r.1 ≠ reference) →
          registry.resolve reference = .error (.unknown reference))) := by
  refine ⟨fun reference => ofShorthand?_eq_none_iff, fun reference processor =>
    ofShorthand?_eq_ok_iff, fun reference hbegins hnone => ?_, fun reference p hp =>
    ⟨hp.name_eq, ?_, ?_, ?_⟩, builtin_eq_registerEach, fun registrations reference => ⟨?_, ?_⟩⟩
  · exact (spelled_or_malformed hbegins).resolve_left fun ⟨p, hp⟩ => hnone p hp
  · rintro old new hold hnew rfl
    obtain rfl := hp.unique (.rename hold hnew)
    exact ⟨rfl, rfl, rfl⟩
  · rintro key rfl
    obtain rfl := hp.eq_deleteKey
    exact ⟨rfl, rfl, rfl⟩
  · rintro format output hformat houtput rfl
    obtain ⟨t, ht, rfl⟩ := hp.exists_template hformat houtput
    obtain ⟨segments, -, -, rfl⟩ := Template.parse_eq_ok_iff.mp ht
    exact ⟨_, ht, Template.placeholders_eq segments, rfl, rfl⟩
  · exact fun parsed hparsed => resolve_of_shorthand hparsed _
  · intro hnone
    constructor
    · rintro before processor after rfl hafter
      rw [resolve_of_none hnone, get?_registerEach_of_last _ hafter]
    · intro hregistrations
      rw [resolve_of_none hnone, get?_registerEach_of_none _ hregistrations]
      rfl

/-- A template whose format has a colon is found although its reference is registered; the same
reference without a format is malformed, and of two processors under one name the later is found. -/
theorem shorthands_resolve_exactly_of_template :
    let format := "\x7ba\x7d:\x7bb\x7d\x7ba\x7d"
    let reference := "template:" ++ format ++ ":" ++ "out"
    let delete (key : String) : Processor := .context (Processor.deleteKey key)
    let registry := registerEach .empty
      [(reference, delete "k"), ("x", delete "k"), ("x", delete "l"), ("y", delete "k")]
    ∃ p reason, Processor.Spelled reference p ∧ registry.resolve reference = .ok (.context p) ∧
      p.name = reference ∧ p.requiredKeys = ["a", "b"] ∧
      registry.resolve "x" = .ok (delete "l") ∧
      registry.resolve "template::out" = .error (.malformed "template::out" reason) := by
  intro format reference delete registry
  have hpart : Processor.IsPart "out" := ⟨by decide, by decide⟩
  have hparse : Template.parse "\x7ba\x7d:\x7bb\x7d\x7ba\x7d" "out" =
      .ok ⟨_, [.key "a", .literal ":", .key "b", .key "a"], "out"⟩ := rfl
  have hspelled : Processor.Spelled reference _ := .template (by decide) hpart hparse
  obtain ⟨hnone, hok, -, hdeclared, -, hresolve⟩ := shorthands_resolve_exactly
  obtain ⟨hname, -, -, htemplate⟩ := hdeclared _ _ hspelled
  obtain ⟨t, ht, hrequired, -⟩ := htemplate format "out" (by decide) hpart rfl
  cases hparse.symm.trans ht
  have hshorthand := (hok reference (.context _)).mpr ⟨_, hspelled, rfl⟩
  refine ⟨_, _, hspelled, (hresolve _ reference).1 _ hshorthand, hname, hrequired, ?_,
    (hresolve _ "template::out").1 _ rfl⟩
  refine ((hresolve _ "x").2 rfl).1 [_, _] _ [_] rfl fun r hr => ?_
  rw [List.mem_singleton.mp hr]
  decide

end Registry
end Dataflow
