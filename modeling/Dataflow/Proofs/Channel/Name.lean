/-
Segments of channel names, and which segments a pattern matches.

A name splits at its points, so the segments of two names with a point between
them are those of the one followed by those of the other.  A pattern without a
star matches itself only, and a lone star matches every segment.  In general a
pattern selects a name if some bytes in the place of its stars make its segments
those of the name.
-/
import Dataflow.Proofs.Channel.Wildcard

namespace Dataflow

namespace Text

theorem splitAll_ne_nil (c : Char) (text : List Char) : splitAll c text ≠ [] := by
  cases text with
  | nil => simp [splitAll]
  | cons d rest =>
    unfold splitAll
    split
    · simp
    · cases splitAll c rest <;> simp [consFirst]

theorem consFirst_append (d : Char) {parts : List (List Char)} (h : parts ≠ [])
    (more : List (List Char)) : consFirst d (parts ++ more) = consFirst d parts ++ more := by
  cases parts with
  | nil => exact absurd rfl h
  | cons part parts => rfl

/-- A text splits at each occurrence on its own. -/
theorem splitAll_append (c : Char) (before after : List Char) :
    splitAll c (before ++ c :: after) = splitAll c before ++ splitAll c after := by
  induction before with
  | nil => simp [splitAll]
  | cons d rest ih =>
    rw [List.cons_append, splitAll, splitAll, ih]
    split
    · rfl
    · exact consFirst_append d (splitAll_ne_nil c rest) _

theorem splitAll_of_not_mem {c : Char} {text : List Char} (h : c ∉ text) :
    splitAll c text = [text] := by
  induction text with
  | nil => rfl
  | cons d rest ih =>
    have hd : d ≠ c := fun hd => h (hd ▸ List.mem_cons_self)
    have hrest : c ∉ rest := fun hrest => h (List.mem_cons_of_mem _ hrest)
    rw [splitAll, if_neg hd, ih hrest]
    rfl

theorem length_consFirst (d : Char) {parts : List (List Char)} (h : parts ≠ []) :
    (consFirst d parts).length = parts.length := by
  cases parts with
  | nil => exact absurd rfl h
  | cons part parts => rfl

theorem length_splitAll (c : Char) (text : List Char) :
    (splitAll c text).length = text.count c + 1 := by
  induction text with
  | nil => rfl
  | cons d rest ih =>
    rw [splitAll]
    by_cases hd : d = c
    · rw [if_pos hd, List.length_cons, ih, hd, List.count_cons_self]
    · rw [if_neg hd, length_consFirst d (splitAll_ne_nil c rest), ih, List.count_cons_of_ne hd]

theorem consFirst_eq_modifyHead (d : Char) {parts : List (List Char)} (h : parts ≠ []) :
    consFirst d parts = parts.modifyHead (d :: ·) := by
  cases parts with
  | nil => exact absurd rfl h
  | cons part parts => rfl

theorem splitAll_eq_splitOn (c : Char) (text : List Char) : splitAll c text = text.splitOn c := by
  rw [List.splitOn_eq_splitOnP]
  induction text with
  | nil => rfl
  | cons d rest ih =>
    rw [splitAll, List.splitOnP_cons_eq_if_modifyHead, ← ih,
      consFirst_eq_modifyHead d (splitAll_ne_nil c rest)]
    simp only [beq_iff_eq]

end Text

namespace Channel

theorem utf8_eq_nil_iff {part : List Char} : utf8 part = [] ↔ part = [] := by
  cases part with
  | nil => simp [utf8]
  | cons c rest => simp [utf8, String.utf8EncodeChar_ne_nil]

theorem isName_iff_segments {name : String} : isName name = true ↔ [] ∉ segments name := by
  rw [isName, List.all_eq_true]
  constructor
  · intro h hempty
    cases h [] hempty
  · intro h segment hsegment
    cases segment with
    | nil => exact absurd hsegment h
    | cons b segment => rfl

/-- A text names a channel when it has no empty segment. -/
theorem isName_iff {name : String} : isName name = true ↔ [] ∉ name.toList.splitOn '.' := by
  rw [isName_iff_segments, segments, List.mem_map, Text.splitAll_eq_splitOn]
  simp [utf8_eq_nil_iff]

theorem segments_append (before after : String) :
    segments (before ++ "." ++ after) = segments before ++ segments after := by
  have hlist : (before ++ "." ++ after).toList = before.toList ++ '.' :: after.toList := by
    simp [String.toList_append]
  rw [segments, hlist, Text.splitAll_append, List.map_append]
  rfl

theorem segments_of_not_mem {name : String} (h : '.' ∉ name.toList) :
    segments name = [utf8 name.toList] := by
  rw [segments, Text.splitAll_of_not_mem h]
  rfl

/-- A name without a point is one segment, and no other name is. -/
theorem segments_eq_singleton_iff {name : String} :
    (∃ segment, segments name = [segment]) ↔ '.' ∉ name.toList := by
  have hlength : (segments name).length = name.toList.count '.' + 1 := by
    rw [segments, List.length_map, Text.length_splitAll]
  rw [← List.length_eq_one_iff, hlength, ← List.count_eq_zero]
  omega

theorem isName_append (before after : String) :
    isName (before ++ "." ++ after) = (isName before && isName after) := by
  rw [isName, segments_append, List.all_append]
  rfl

theorem isName_of_not_mem {name : String} (h : '.' ∉ name.toList) (hne : name.toList ≠ []) :
    isName name = true := by
  rw [isName_iff, ← Text.splitAll_eq_splitOn, Text.splitAll_of_not_mem h, List.mem_singleton]
  exact hne.symm

end Channel

namespace Glob

/-- A pattern without a star matches itself and nothing else. -/
theorem matchesAll_iff_eq {pattern : List UInt8} (h : star ∉ pattern) (text : List UInt8) :
    matchesAll pattern text = true ↔ pattern = text := by
  rw [matchesAll_iff_stands, ← List.append_nil pattern, stands_append h]
  simp [Stands, eq_comm]

theorem matchesAll_star (text : List UInt8) : matchesAll [star] text = true :=
  matchesAll_iff_stands.mpr (stands_star.mpr ⟨[], List.nil_suffix, rfl⟩)

end Glob

namespace ChannelPattern

theorem segmentsMatch_nil_iff {name : List (List UInt8)} :
    segmentsMatch [] name = true ↔ name = [] := by
  cases name <;> simp [segmentsMatch]

theorem segmentsMatch_cons_iff {p : List UInt8} {pattern name : List (List UInt8)} :
    segmentsMatch (p :: pattern) name = true ↔
      ∃ s rest, name = s :: rest ∧ Glob.matchesAll p s = true ∧
        segmentsMatch pattern rest = true := by
  cases name <;> simp [segmentsMatch]

theorem segmentsMatch_iff {pattern name : List (List UInt8)} :
    segmentsMatch pattern name = true ↔
      List.Forall₂ (fun p s => ∃ bytes, Glob.fill bytes p = s) pattern name := by
  induction pattern generalizing name with
  | nil =>
    cases name with
    | nil => exact ⟨fun _ => .nil, fun _ => rfl⟩
    | cons s name => exact ⟨nofun, nofun⟩
  | cons p pattern ih =>
    cases name with
    | nil => exact ⟨nofun, nofun⟩
    | cons s name =>
      rw [segmentsMatch, Bool.and_eq_true, ih, Glob.matchesAll_iff_stands, Glob.stands_iff_fill,
        List.forall₂_cons]

theorem parse_eq_ok_iff {text : String} {p : ChannelPattern} :
    parse text = .ok p ↔ p.text = text := by
  unfold parse
  split
  · rename_i hempty
    refine ⟨nofun, fun h => ?_⟩
    have hname := p.isName
    rw [h, String.isEmpty_iff.mp hempty] at hname
    cases hname
  · split
    · rename_i hname
      constructor
      · intro h
        cases h
        rfl
      · rintro rfl
        rfl
    · rename_i hname
      exact ⟨nofun, fun h => absurd (h ▸ p.isName) hname⟩

/-- A pattern is a text none of whose segments is empty.  It selects the names that have as many
segments as itself, each of which is the segment of the pattern with some bytes in the place of its
stars; and no search for these bytes goes on forever. -/
theorem selects_what_stars_stand_for :
    (∀ name, Channel.segments name = (name.toList.splitOn '.').map Channel.utf8) ∧
      (∀ text, (∃ p, parse text = .ok p ∧ p.text = text) ↔ [] ∉ Channel.segments text) ∧
      (∀ (p : ChannelPattern) (channel : String), p.selects channel = true ↔
        List.Forall₂ (fun pattern segment => ∃ bytes, Glob.fill bytes pattern = segment)
          (Channel.segments p.text) (Channel.segments channel)) ∧
      WellFounded fun next s : Glob.Search => s.step = .inr next := by
  refine ⟨fun name => ?_, fun text => ?_, fun p channel => segmentsMatch_iff, ?_⟩
  · rw [Channel.segments, Text.splitAll_eq_splitOn]
  · rw [← Channel.isName_iff_segments]
    constructor
    · rintro ⟨p, -, rfl⟩
      exact p.isName
    · intro h
      exact ⟨⟨text, h⟩, parse_eq_ok_iff.mpr rfl, rfl⟩
  · exact Subrelation.wf Glob.Search.effort_decreases (measure Glob.Search.effort).wf

end ChannelPattern
end Dataflow
