/-
Patterns with stars over byte strings.

A star stands for any bytes, also for none; every other byte stands for itself.
A search walks through a pattern and a text together.  At a star it goes on as if the
star stood for nothing.  Where pattern and text differ it goes back to the most recent
star and lets it stand for one byte more; it never goes back to a star before that.

`Search` carries what is known of its most recent star, which is why the search ends:
from there on the pattern has no star up to where the search is, and the text is the same.
-/
namespace Dataflow
namespace Glob

/-- The byte that stands for any bytes. -/
def star : UInt8 := 0x2A

/-- A search on its way through a pattern and a text. -/
structure Search where
  /-- What is left of the pattern. -/
  pattern : List UInt8
  /-- What is left of the text. -/
  text : List UInt8
  /-- What was left of both where the most recent star ended. -/
  resume? : Option (List UInt8 × List UInt8)
  /-- Since then the search met the same bytes in both. -/
  met : ∀ pattern' text', resume? = some (pattern', text') →
    ∃ bytes, star ∉ bytes ∧ pattern' = bytes ++ pattern ∧ text' = bytes ++ text

namespace Search

/-- A search before its first step. -/
def start (pattern text : List UInt8) : Search where
  pattern
  text
  resume? := none
  met _ _ h := nomatch h

/-- A search where a star ends. -/
def resume (pattern text : List UInt8) : Search where
  pattern
  text
  resume? := some (pattern, text)
  met := by
    rintro _ _ ⟨⟩
    exact ⟨[], List.not_mem_nil, rfl, rfl⟩

/-- The search behind a byte that is the same in pattern and text. -/
def meet (s : Search) (b : UInt8) (pattern text : List UInt8) (hb : b ≠ star)
    (hpattern : s.pattern = b :: pattern) (htext : s.text = b :: text) : Search where
  pattern
  text
  resume? := s.resume?
  met := by
    intro pattern' text' hresume
    obtain ⟨bytes, hbytes, rfl, rfl⟩ := s.met pattern' text' hresume
    refine ⟨bytes ++ [b], ?_, ?_, ?_⟩
    · simpa [hbytes] using hb.symm
    · rw [hpattern, List.append_assoc, List.singleton_append]
    · rw [htext, List.append_assoc, List.singleton_append]

/-- Goes back to the most recent star, which takes one byte more; without a star there is no
match. -/
def back (s : Search) : Bool ⊕ Search :=
  match s.resume? with
  | some (pattern, text) => .inr (resume pattern text.tail)
  | none => .inl false

/-- One step of a search: its answer, or the search that goes on. -/
def step (s : Search) : Bool ⊕ Search :=
  match htext : s.text with
  | [] => .inl (s.pattern.all (· = star))
  | b :: text =>
    match hpattern : s.pattern with
    | [] => s.back
    | c :: pattern =>
      if hstar : c = star then .inr (resume pattern s.text)
      else if hc : c = b then .inr (s.meet c pattern text hstar hpattern (hc ▸ htext))
      else s.back

/-- Pattern and text go on with different bytes, or only the pattern has come to its end. -/
structure Differs (s : Search) : Prop where
  text : s.text ≠ []
  pattern : ∀ b pattern, s.pattern = b :: pattern → b ≠ star ∧ ∀ text, s.text ≠ b :: text

/-- What a step can be. -/
inductive Step (s : Search) : Bool ⊕ Search → Prop
  | ended (htext : s.text = []) : Step s (.inl (s.pattern.all (· = star)))
  | starred {pattern : List UInt8} (htext : s.text ≠ []) (hpattern : s.pattern = star :: pattern) :
      Step s (.inr (resume pattern s.text))
  | met {b : UInt8} {pattern text : List UInt8} (hb : b ≠ star)
      (hpattern : s.pattern = b :: pattern) (htext : s.text = b :: text) :
      Step s (.inr (s.meet b pattern text hb hpattern htext))
  | back {pattern text : List UInt8} (hdiffers : s.Differs)
      (hresume : s.resume? = some (pattern, text)) : Step s (.inr (resume pattern text.tail))
  | failed (hdiffers : s.Differs) (hresume : s.resume? = none) : Step s (.inl false)

theorem step_of_differs {s : Search} (h : s.Differs) : Step s s.back := by
  unfold back
  split
  · rename_i pattern text hresume
    exact .back h hresume
  · rename_i hresume
    exact .failed h hresume

theorem step_spec (s : Search) : Step s s.step := by
  unfold step
  split
  · rename_i htext
    exact .ended htext
  · rename_i b text htext
    have hnonempty : s.text ≠ [] := by simp [htext]
    split
    · rename_i hpattern
      exact step_of_differs ⟨hnonempty, by simp [hpattern]⟩
    · rename_i c pattern hpattern
      by_cases hstar : c = star
      · rw [dif_pos hstar]
        exact .starred hnonempty (hstar ▸ hpattern)
      · rw [dif_neg hstar]
        by_cases hc : c = b
        · rw [dif_pos hc]
          exact .met hstar hpattern (hc ▸ htext)
        · rw [dif_neg hc]
          refine step_of_differs ⟨hnonempty, fun c' pattern' hpattern' => ?_⟩
          obtain ⟨rfl, rfl⟩ := List.cons.inj (hpattern.symm.trans hpattern')
          refine ⟨hstar, fun text' htext' => hc ?_⟩
          exact (List.cons.inj (htext.symm.trans htext')).1.symm

/-- What was left of pattern and text where the most recent star ended, or is left of them as long
as there was no star. -/
def anchor (s : Search) : List UInt8 × List UInt8 := s.resume?.getD (s.pattern, s.text)

theorem met_anchor (s : Search) : ∃ bytes, star ∉ bytes ∧ s.anchor.1 = bytes ++ s.pattern ∧
    s.anchor.2 = bytes ++ s.text := by
  unfold anchor
  cases hresume : s.resume? with
  | none => exact ⟨[], List.not_mem_nil, rfl, rfl⟩
  | some pair => exact s.met pair.1 pair.2 hresume

/-- What gets smaller with every step: each byte of the text from the anchor on can still be tried
with each byte of the pattern there. -/
def effort (s : Search) : Nat := (s.anchor.1.length + 1) * s.anchor.2.length + s.text.length

/-- Meeting a byte does not move the anchor, unless there was no star. -/
theorem anchor_meet {s : Search} {b : UInt8} {pattern text : List UInt8} (hb : b ≠ star)
    (hpattern : s.pattern = b :: pattern) (htext : s.text = b :: text) :
    let next := s.meet b pattern text hb hpattern htext
    next.anchor.1.length ≤ s.anchor.1.length ∧ next.anchor.2.length ≤ s.anchor.2.length := by
  show ((s.resume?.getD (pattern, text)).1.length ≤ _) ∧
    (s.resume?.getD (pattern, text)).2.length ≤ _
  unfold anchor
  cases s.resume? with
  | none => simp [hpattern, htext]
  | some pair => exact ⟨Nat.le_refl _, Nat.le_refl _⟩

theorem effort_decreases {s next : Search} (h : s.step = .inr next) : next.effort < s.effort := by
  obtain ⟨bytes, -, hpattern, htext⟩ := s.met_anchor
  have hpatternLength := congrArg List.length hpattern
  have htextLength := congrArg List.length htext
  rw [List.length_append] at hpatternLength htextLength
  have hstep := s.step_spec
  rw [h] at hstep
  unfold effort
  cases hstep with
  | @starred pattern hnonempty hstar =>
    -- The pattern behind the new star is shorter than the one behind the star before.
    rw [hstar, List.length_cons] at hpatternLength
    have hpos : 0 < s.text.length := List.length_pos_iff.mpr hnonempty
    refine Nat.add_lt_add_right ?_ s.text.length
    exact Nat.mul_lt_mul_of_lt_of_le (show pattern.length + 1 < _ by omega)
      (show s.text.length ≤ _ by omega) (by omega)
  | @met b pattern text hb hbyte hbyte' =>
    obtain ⟨hanchor, hanchor'⟩ := anchor_meet hb hbyte hbyte'
    have hshorter : text.length < s.text.length := by simp [hbyte']
    exact Nat.add_lt_add_of_le_of_lt
      (Nat.mul_le_mul (Nat.add_le_add_right hanchor 1) hanchor') hshorter
  | @back pattern text hdiffers hresume =>
    -- The star takes a byte, and what was met since then is no longer than the pattern.
    have hpos : 0 < s.text.length := List.length_pos_iff.mpr hdiffers.text
    have hanchor : s.anchor = (pattern, text) := by rw [anchor, hresume]; rfl
    rw [hanchor] at hpatternLength htextLength ⊢
    dsimp only at hpatternLength htextLength
    obtain ⟨n, hn⟩ : ∃ n, text.length = n + 1 := ⟨text.length - 1, by omega⟩
    have htail : text.tail.length = n := by rw [List.length_tail, hn, Nat.add_sub_cancel]
    show (pattern.length + 1) * text.tail.length + text.tail.length <
      (pattern.length + 1) * text.length + s.text.length
    rw [htail, hn, Nat.mul_succ]
    omega

/-- Searches to the end. -/
@[semireducible]
def answer (s : Search) : Bool :=
  match _h : s.step with
  | .inl found => found
  | .inr next => next.answer
termination_by s.effort
decreasing_by exact effort_decreases _h

end Search

/-- Whether a pattern can stand for a whole text. -/
def matchesAll (pattern text : List UInt8) : Bool := (Search.start pattern text).answer

end Glob
end Dataflow
