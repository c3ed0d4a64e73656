/-
What the stars of a pattern can stand for.

`Glob.fill` puts bytes in the place of every star of a pattern, and a search finds out whether some
bytes give the text.  It forgets every star but the most recent one.  Nothing is lost with them: the
search met the same bytes in pattern and text since the star before, so wherever that star could
still let the pattern go on is at or behind the place where the new star is, and the new star
reaches it too (`Search.stands_of_resume`).  Hence each step keeps what the search can still find,
and so does the search.
-/
import Dataflow.Channel.Pattern
import Mathlib.Data.List.Basic
import Mathlib.Data.List.Infix

namespace Dataflow
namespace Glob

/-! ## Patterns and texts -/

/-- Puts bytes in the place of each star, for the star at position `i` of the pattern those at `i`,
and keeps all other bytes. -/
def fill (bytes : Nat → List UInt8) : List UInt8 → List UInt8
  | [] => []
  | b :: pattern => (if b = star then bytes 0 else [b]) ++ fill (fun i => bytes (i + 1)) pattern

/-- The pattern can stand for the text.  A star leaves any suffix of the text to what is behind it
in the pattern. -/
def Stands : List UInt8 → List UInt8 → Prop
  | [], text => text = []
  | b :: pattern, text =>
    if b = star then ∃ rest, rest <:+ text ∧ Stands pattern rest
    else ∃ rest, text = b :: rest ∧ Stands pattern rest

variable {pattern text bytes : List UInt8}

theorem stands_star :
    Stands (star :: pattern) text ↔ ∃ rest, rest <:+ text ∧ Stands pattern rest := by
  rw [Stands, if_pos rfl]

theorem stands_byte {b : UInt8} (hb : b ≠ star) :
    Stands (b :: pattern) text ↔ ∃ rest, text = b :: rest ∧ Stands pattern rest := by
  rw [Stands, if_neg hb]

theorem stands_iff_fill : Stands pattern text ↔ ∃ bytes, fill bytes pattern = text := by
  induction pattern generalizing text with
  | nil => simp [Stands, fill, eq_comm]
  | cons b pattern ih =>
    by_cases hb : b = star
    · subst hb
      rw [stands_star]
      constructor
      · rintro ⟨rest, ⟨taken, rfl⟩, hrest⟩
        obtain ⟨bytes, rfl⟩ := ih.mp hrest
        refine ⟨fun i => i.casesOn taken bytes, ?_⟩
        rw [fill, if_pos rfl]
        rfl
      · rintro ⟨bytes, rfl⟩
        rw [fill, if_pos rfl]
        exact ⟨_, List.suffix_append _ _, ih.mpr ⟨_, rfl⟩⟩
    · rw [stands_byte hb]
      constructor
      · rintro ⟨rest, rfl, hrest⟩
        obtain ⟨bytes, rfl⟩ := ih.mp hrest
        refine ⟨fun i => bytes (i - 1), ?_⟩
        rw [fill, if_neg hb]
        rfl
      · rintro ⟨bytes, rfl⟩
        rw [fill, if_neg hb]
        exact ⟨_, rfl, ih.mpr ⟨_, rfl⟩⟩

/-- Bytes without a star stand for themselves in front of a text. -/
theorem stands_append (hbytes : star ∉ bytes) :
    Stands (bytes ++ pattern) text ↔ ∃ rest, text = bytes ++ rest ∧ Stands pattern rest := by
  induction bytes generalizing text with
  | nil => simp
  | cons b bytes ih =>
    have hb : b ≠ star := fun hb => hbytes (hb ▸ List.mem_cons_self)
    have hbytes : star ∉ bytes := fun h => hbytes (List.mem_cons_of_mem b h)
    rw [List.cons_append, stands_byte hb]
    constructor
    · rintro ⟨_, rfl, hbehind⟩
      obtain ⟨rest, rfl, hrest⟩ := (ih hbytes).mp hbehind
      exact ⟨rest, rfl, hrest⟩
    · rintro ⟨rest, rfl, hrest⟩
      exact ⟨bytes ++ rest, rfl, (ih hbytes).mpr ⟨rest, rfl, hrest⟩⟩

/-- Only stars can stand for nothing. -/
theorem stands_nothing : Stands pattern [] ↔ pattern.all (· = star) = true := by
  induction pattern with
  | nil => simp [Stands]
  | cons b pattern ih =>
    by_cases hb : b = star
    · subst hb
      simp [stands_star, ih]
    · simp [stands_byte hb, hb]

/-- A star that may leave a text may leave all of its suffixes. -/
theorem stands_star_cons (b : UInt8) :
    Stands (star :: pattern) (b :: text) ↔
      Stands pattern (b :: text) ∨ Stands (star :: pattern) text := by
  simp only [stands_star, List.suffix_cons_iff, or_and_right, exists_or, exists_eq_left]

/-- A second star behind a star does nothing. -/
theorem stands_star_star (h : Stands (star :: star :: pattern) text) :
    Stands (star :: pattern) text := by
  obtain ⟨rest, hsuffix, hrest⟩ := stands_star.mp h
  obtain ⟨rest', hsuffix', hrest'⟩ := stands_star.mp hrest
  exact stands_star.mpr ⟨rest', hsuffix'.trans hsuffix, hrest'⟩

/-! ## Searches -/

namespace Search

variable {s : Search}

/-- What the search can still find: that the rest of the pattern stands for the rest of the text, or
that it does so where the most recent star takes more bytes. -/
def Hopeful (s : Search) : Prop :=
  Stands s.pattern s.text ∨ ∃ pattern text, s.resume? = some (pattern, text) ∧
    Stands (star :: pattern) text.tail

theorem hopeful_resume : (resume pattern text).Hopeful ↔ Stands (star :: pattern) text := by
  have h : (resume pattern text).Hopeful ↔
      Stands pattern text ∨ Stands (star :: pattern) text.tail := by
    simp [Hopeful, resume]
  rw [h]
  cases text with
  | nil => simp [stands_star]
  | cons b text => exact (stands_star_cons b).symm

/-- Where the most recent star lets the pattern go on, a star put here would let it go on, too. -/
theorem stands_of_resume (hresume : s.resume? = some (pattern, text))
    (h : Stands (star :: pattern) text.tail) : Stands (star :: s.pattern) s.text := by
  obtain ⟨bytes, hbytes, rfl, rfl⟩ := s.met pattern text hresume
  obtain ⟨_, hsuffix, hstands⟩ := stands_star.mp h
  obtain ⟨rest, rfl, hrest⟩ := (stands_append hbytes).mp hstands
  refine stands_star.mpr ⟨rest, ?_, hrest⟩
  -- Both are suffixes of the text at the star, and `rest` has lost the bytes met and one more.
  have hwhole : rest <:+ bytes ++ s.text :=
    ((List.suffix_append bytes rest).trans hsuffix).trans (List.tail_suffix _)
  have hlength := hsuffix.length_le
  rw [List.length_append, List.length_tail, List.length_append] at hlength
  exact List.suffix_of_suffix_length_le hwhole (List.suffix_append bytes s.text) (by omega)

theorem not_stands_of_differs (h : s.Differs) : ¬ Stands s.pattern s.text := by
  intro hstands
  cases hpattern : s.pattern with
  | nil =>
    rw [hpattern] at hstands
    exact h.text hstands
  | cons b pattern =>
    obtain ⟨hb, htext⟩ := h.pattern b pattern hpattern
    rw [hpattern, stands_byte hb] at hstands
    obtain ⟨rest, hrest, -⟩ := hstands
    exact htext rest hrest

/-- A step keeps what the search can find, and an answer tells it. -/
theorem hopeful_step (s : Search) :
    match s.step with
    | .inl found => s.Hopeful ↔ found = true
    | .inr next => s.Hopeful ↔ next.Hopeful := by
  have hstep := s.step_spec
  generalize s.step = result at hstep
  cases hstep with
  | ended htext =>
    show s.Hopeful ↔ _
    rw [← stands_nothing]
    constructor
    · rintro (hstands | ⟨pattern, text, hresume, hstands⟩)
      · exact htext ▸ hstands
      · obtain ⟨rest, hsuffix, hrest⟩ := stands_star.mp (stands_of_resume hresume hstands)
        rw [htext] at hsuffix
        exact List.suffix_nil.mp hsuffix ▸ hrest
    · intro hstands
      exact .inl (htext ▸ hstands)
  | @starred pattern htext hpattern =>
    show s.Hopeful ↔ _
    rw [hopeful_resume, ← hpattern]
    constructor
    · rintro (hstands | ⟨_, _, hresume, hstands⟩)
      · exact hstands
      · have hstar := stands_of_resume hresume hstands
        rw [hpattern] at hstar ⊢
        exact stands_star_star hstar
    · exact .inl
  | @met b pattern text hb hpattern htext =>
    have hstands : Stands s.pattern s.text ↔ Stands pattern text := by
      rw [hpattern, htext, stands_byte hb]
      simp
    exact or_congr hstands Iff.rfl
  | @back pattern text hdiffers hresume =>
    show s.Hopeful ↔ _
    rw [hopeful_resume, Hopeful, hresume]
    simp [not_stands_of_differs hdiffers]
  | failed hdiffers hresume =>
    show s.Hopeful ↔ _
    rw [Hopeful, hresume]
    simp [not_stands_of_differs hdiffers]

/-- The answer of a search tells what it could find. -/
theorem answer_iff (s : Search) : s.answer = true ↔ s.Hopeful := by
  induction s using answer.induct with
  | case1 s found hstep =>
    have h := s.hopeful_step
    rw [hstep] at h
    rw [answer, hstep]
    exact h.symm
  | case2 s next hstep ih =>
    have h := s.hopeful_step
    rw [hstep] at h
    rw [answer, hstep]
    exact ih.trans h.symm

end Search

theorem matchesAll_iff_stands : matchesAll pattern text = true ↔ Stands pattern text := by
  rw [matchesAll, Search.answer_iff]
  simp [Search.Hopeful, Search.start]

end Glob
end Dataflow
