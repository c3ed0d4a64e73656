/-
Formats are read exactly and rendered faithfully.

`Segment.Reading` says without a scanner what a format is: either it is written from well-formed
segments, or it goes on behind such segments in one of the ways that `Segment.Broken` lists.
Reading finds out which of the two (`Segment.readText_eq_iff`).  Of three braces in a row the first
two are an escape if they open a placeholder, and the last two if they close one.  What decides is
whether the scanner is inside a placeholder, so both of its modes need a statement
(`Segment.reading_of_modes`).  Rendering is then a walk over the segments (`Template.run_edit`).
-/
import Dataflow.Proofs.Processor.Shorthand
import Mathlib.Data.List.Chain

namespace Dataflow
namespace Segment

/-! ## Formats -/

/-- The format that segments are written as. -/
def print (segments : List Segment) : List Char := segments.flatMap format

def BraceFree (name : List Char) : Prop := openBrace ∉ name ∧ closeBrace ∉ name

/-- Segments that a format can tell apart. -/
structure WellFormed (segments : List Segment) : Prop where
  literals : ∀ text, .literal text ∈ segments → text ≠ ""
  keys : ∀ name, .key name ∈ segments → name ≠ "" ∧ BraceFree name.toList
  /-- Of two neighbours at least one is a placeholder. -/
  apart : segments.IsChain fun a b => a.key?.isSome ∨ b.key?.isSome

/-- The ways in which a format can go wrong, with what is said of each. -/
inductive Broken : List Char → String → Prop
  | unclosed {name : List Char} (hname : BraceFree name) :
      Broken (openBrace :: name) "unclosed placeholder"
  | nested {name : List Char} (hname : BraceFree name) (hne : name ≠ []) (tail : List Char) :
      Broken (openBrace :: name ++ openBrace :: tail) "unclosed placeholder"
  | nameless (tail : List Char) : Broken (openBrace :: closeBrace :: tail) "empty placeholder"
  | lone {tail : List Char} (htail : tail.head? ≠ some closeBrace) :
      Broken (closeBrace :: tail) "unmatched '\x7d'"

/-- What there is to read in a format. -/
inductive Reading : List Char → Except String (List Segment) → Prop
  | whole {segments : List Segment} (h : WellFormed segments) :
      Reading (print segments) (.ok segments)
  | broken {segments : List Segment} {rest : List Char} {reason : String}
      (h : WellFormed segments) (hrest : Broken rest reason) :
      Reading (print segments ++ rest) (.error reason)

variable {literal name text rest : List Char} {segments : List Segment} {segment : Segment}
  {reason : String}

theorem print_cons (segment : Segment) (segments : List Segment) :
    print (segment :: segments) = segment.format ++ print segments := rfl

theorem braceFree_cons {c : Char} :
    BraceFree (c :: name) ↔ c ≠ openBrace ∧ c ≠ closeBrace ∧ BraceFree name := by
  simp only [BraceFree, List.mem_cons, not_or, ne_eq, eq_comm (a := c)]
  exact ⟨fun ⟨⟨h₁, h₂⟩, h₃, h₄⟩ => ⟨h₁, h₃, h₂, h₄⟩, fun ⟨h₁, h₃, h₂, h₄⟩ => ⟨⟨h₁, h₂⟩, h₃, h₄⟩⟩

theorem BraceFree.reverse (h : BraceFree name) : BraceFree name.reverse :=
  ⟨fun hopen => h.1 (List.mem_reverse.mp hopen), fun hclose => h.2 (List.mem_reverse.mp hclose)⟩

theorem BraceFree.head?_ne (h : BraceFree name) : name.head? ≠ some openBrace :=
  fun hhead => h.1 (List.mem_of_mem_head? hhead)

theorem wellFormed_nil : WellFormed [] := ⟨nofun, nofun, .nil⟩

theorem wellFormed_literal_cons {text : String} :
    WellFormed (.literal text :: segments) ↔
      text ≠ "" ∧ (∀ next ∈ segments.head?, next.key?.isSome) ∧ WellFormed segments := by
  constructor
  · intro h
    obtain ⟨hnext, hrest⟩ := List.isChain_cons.mp h.apart
    exact ⟨h.literals text List.mem_cons_self,
      fun next hmem => (hnext next hmem).resolve_left Bool.false_ne_true,
      fun t ht => h.literals t (List.mem_cons_of_mem _ ht),
      fun k hk => h.keys k (List.mem_cons_of_mem _ hk), hrest⟩
  · rintro ⟨htext, hnext, h⟩
    refine ⟨fun t ht => ?_, fun k hk => ?_, List.isChain_cons.mpr ⟨fun next hmem => ?_, h.apart⟩⟩
    · rcases List.mem_cons.mp ht with heq | ht
      · cases heq
        exact htext
      · exact h.literals t ht
    · rcases List.mem_cons.mp hk with heq | hk
      · cases heq
      · exact h.keys k hk
    · exact .inr (hnext next hmem)

theorem wellFormed_key_cons {name : String} :
    WellFormed (.key name :: segments) ↔
      (name ≠ "" ∧ BraceFree name.toList) ∧ WellFormed segments := by
  constructor
  · intro h
    exact ⟨h.keys name List.mem_cons_self, fun t ht => h.literals t (List.mem_cons_of_mem _ ht),
      fun k hk => h.keys k (List.mem_cons_of_mem _ hk), (List.isChain_cons.mp h.apart).2⟩
  · rintro ⟨hname, h⟩
    refine ⟨fun t ht => ?_, fun k hk => ?_, List.isChain_cons.mpr ⟨fun next _ => .inl rfl, h.apart⟩⟩
    · rcases List.mem_cons.mp ht with heq | ht
      · cases heq
      · exact h.literals t ht
    · rcases List.mem_cons.mp hk with heq | hk
      · cases heq
        exact hname
      · exact h.keys k hk

/-! ## Text that was read and not yet handed on -/

theorem print_flush (literal : List Char) (segments : List Segment) :
    print (flush literal segments) = literal.reverse.flatMap formatChar ++ print segments := by
  cases literal with
  | nil => rfl
  | cons c literal => simp [flush, print, format]

theorem flush_of_ne_nil (h : literal ≠ []) :
    flush literal segments = .literal (String.ofList literal.reverse) :: segments := by
  rw [flush, if_neg (by simpa using h)]

theorem wellFormed_flush (literal : List Char) (h : WellFormed segments)
    (hnext : ∀ next ∈ segments.head?, next.key?.isSome) : WellFormed (flush literal segments) := by
  by_cases hliteral : literal = []
  · subst hliteral
    exact h
  · rw [flush_of_ne_nil hliteral]
    refine wellFormed_literal_cons.mpr ⟨fun hempty => hliteral ?_, hnext, h⟩
    simpa using congrArg String.toList hempty

theorem WellFormed.of_flush (h : WellFormed (flush literal segments)) :
    WellFormed segments ∧ (literal ≠ [] → ∀ next ∈ segments.head?, next.key?.isSome) := by
  by_cases hliteral : literal = []
  · subst hliteral
    exact ⟨h, fun hne => absurd rfl hne⟩
  · rw [flush_of_ne_nil hliteral] at h
    obtain ⟨-, hnext, h⟩ := wellFormed_literal_cons.mp h
    exact ⟨h, fun _ => hnext⟩

theorem flush_reverse {text : String} (h : text ≠ "") (segments : List Segment) :
    flush text.toList.reverse segments = .literal text :: segments := by
  rw [flush_of_ne_nil (by simpa using h), List.reverse_reverse, String.ofList_toList]

theorem wellFormed_flush_nil (literal : List Char) : WellFormed (flush literal []) :=
  wellFormed_flush literal wellFormed_nil nofun

/-! ## Scanning -/

theorem readText_open (h : rest.head? ≠ some openBrace) :
    readText literal (openBrace :: rest) = readKey literal [] rest := by
  rw [openBrace, readText]
  rintro tail rfl
  exact h rfl

theorem readText_close (h : rest.head? ≠ some closeBrace) :
    readText literal (closeBrace :: rest) = .error "unmatched '\x7d'" := by
  rw [closeBrace, readText]
  rintro tail rfl
  exact h rfl

theorem readText_cons {c : Char} (hopen : c ≠ openBrace) (hclose : c ≠ closeBrace) :
    readText literal (c :: rest) = readText (c :: literal) rest := by
  rw [readText]
  · exact fun _ hc => absurd hc hopen
  · exact fun _ hc => absurd hc hclose
  · exact hopen
  · exact hclose

theorem readKey_cons {c : Char} (hopen : c ≠ openBrace) (hclose : c ≠ closeBrace) :
    readKey literal name (c :: rest) = readKey literal (c :: name) rest := by
  rw [readKey]
  · exact hclose
  · exact hopen

theorem readText_literal (text literal rest : List Char) :
    readText literal (text.flatMap formatChar ++ rest) =
      readText (text.reverse ++ literal) rest := by
  induction text generalizing literal with
  | nil => rfl
  | cons c text ih =>
    rw [List.flatMap_cons, List.append_assoc, List.reverse_cons, List.append_assoc]
    refine Eq.trans ?_ (ih (c :: literal))
    unfold formatChar
    split
    · rename_i hbrace
      rcases hbrace with rfl | rfl <;> rfl
    · rename_i hbrace
      obtain ⟨hopen, hclose⟩ := not_or.mp hbrace
      exact readText_cons hopen hclose

theorem readKey_append (hname : BraceFree name) (read : List Char) :
    readKey literal read (name ++ rest) = readKey literal (name.reverse ++ read) rest := by
  induction name generalizing read with
  | nil => rfl
  | cons c name ih =>
    obtain ⟨hopen, hclose, hname⟩ := braceFree_cons.mp hname
    rw [List.cons_append, readKey_cons hopen hclose, ih hname, List.reverse_cons,
      List.append_assoc]
    rfl

theorem head?_ne {c : Char} (h : ∀ tail, rest = c :: tail → False) : rest.head? ≠ some c := by
  intro hhead
  obtain ⟨tail, htail⟩ := List.head?_eq_some_iff.mp hhead
  exact h tail htail

theorem head?_append_ne {c : Char} (hname : name.head? ≠ some c)
    (hrest : name = [] → rest.head? ≠ some c) : (name ++ rest).head? ≠ some c := by
  cases name with
  | nil => exact hrest rfl
  | cons d name => exact hname

theorem readKey_close (hne : name.reverse ≠ []) :
    readKey literal name (closeBrace :: rest) =
      (readText [] rest).map fun segments =>
        flush literal (.key (String.ofList name.reverse) :: segments) := by
  rw [closeBrace, readKey, if_neg (by simpa using hne)]
  cases readText [] rest <;> rfl

theorem readText_key (hname : BraceFree name) (hne : name ≠ []) (literal rest : List Char) :
    readText literal (openBrace :: name ++ closeBrace :: rest) =
      (readText [] rest).map fun segments =>
        flush literal (.key (String.ofList name) :: segments) := by
  have hhead : (name ++ closeBrace :: rest).head? ≠ some openBrace :=
    head?_append_ne hname.head?_ne fun h => absurd h hne
  have hclose : name.reverse.reverse ≠ [] := by rwa [List.reverse_reverse]
  rw [List.cons_append, readText_open hhead, readKey_append hname, List.append_nil,
    readKey_close hclose, List.reverse_reverse]

/-- A fault is found whatever was read before it. -/
theorem readText_broken (h : Broken rest reason) (literal : List Char) :
    readText literal rest = .error reason := by
  cases h with
  | @unclosed name hname =>
    have hscan : readKey literal [] (name ++ []) = readKey literal (name.reverse ++ []) [] :=
      readKey_append hname []
    rw [List.append_nil] at hscan
    rw [readText_open hname.head?_ne, hscan]
    rfl
  | @nested name hname hne tail =>
    have hhead : (name ++ openBrace :: tail).head? ≠ some openBrace :=
      head?_append_ne hname.head?_ne fun h => absurd h hne
    rw [List.cons_append, readText_open hhead, readKey_append hname]
    rfl
  | nameless tail => rfl
  | lone htail => exact readText_close htail

theorem readText_print_append (h : ∀ literal, readText literal rest = .error reason)
    (hsegments : WellFormed segments) (literal : List Char) :
    readText literal (print segments ++ rest) = .error reason := by
  induction segments generalizing literal with
  | nil => exact h literal
  | cons segment segments ih =>
    rw [print_cons, List.append_assoc]
    cases segment with
    | literal text =>
      rw [format, readText_literal]
      exact ih (wellFormed_literal_cons.mp hsegments).2.2 _
    | key name =>
      obtain ⟨⟨hne, hname⟩, hsegments⟩ := wellFormed_key_cons.mp hsegments
      have hne : name.toList ≠ [] := by simpa using hne
      rw [format, List.append_assoc, List.singleton_append, readText_key hname hne, ih hsegments]
      rfl

/-- Text that is still to be handed on becomes a segment in front of those behind it. -/
theorem readText_print (hsegments : WellFormed (flush literal segments)) :
    readText literal (print segments) = .ok (flush literal segments) := by
  induction segments generalizing literal with
  | nil => rfl
  | cons segment segments ih =>
    obtain ⟨htail, hnext⟩ := hsegments.of_flush
    rw [print_cons]
    cases segment with
    | literal text =>
      obtain rfl : literal = [] := by
        by_contra hliteral
        cases hnext hliteral _ rfl
      have hflush := flush_reverse (wellFormed_literal_cons.mp htail).1 segments
      rw [format, readText_literal, List.append_nil, ih (by rwa [hflush]), hflush]
      rfl
    | key name =>
      obtain ⟨⟨hne, hname⟩, hsegments⟩ := wellFormed_key_cons.mp htail
      have hne : name.toList ≠ [] := by simpa using hne
      have hread : readText [] (print segments) = .ok segments := ih hsegments
      rw [format, List.append_assoc, List.singleton_append, readText_key hname hne, hread,
        String.ofList_toList]
      rfl

/-! ## What there is to read -/

variable {outcome : Except String (List Segment)}

/-- Whatever there is to read behind a placeholder, there is more of it with the placeholder. -/
theorem Reading.cons_key (h : Reading rest outcome) (hname : BraceFree name) (hne : name ≠ [])
    (literal : List Char) :
    Reading (literal.reverse.flatMap formatChar ++ openBrace :: name ++ closeBrace :: rest)
      (outcome.map fun segments => flush literal (.key (String.ofList name) :: segments)) := by
  have hextend {segments : List Segment} (h : WellFormed segments) :
      WellFormed (flush literal (.key (String.ofList name) :: segments)) := by
    refine wellFormed_flush literal (wellFormed_key_cons.mpr ⟨⟨?_, ?_⟩, h⟩) fun next hnext => ?_
    · simpa using hne
    · rwa [String.toList_ofList]
    · cases hnext
      rfl
  have hprint (segments : List Segment) :
      print (flush literal (.key (String.ofList name) :: segments)) =
        literal.reverse.flatMap formatChar ++ openBrace :: name ++
          closeBrace :: print segments := by
    rw [print_flush, print_cons, format, String.toList_ofList]
    simp
  cases h with
  | @whole segments h =>
    rw [← hprint]
    exact .whole (hextend h)
  | @broken segments rest reason h hrest =>
    have hreading := Reading.broken (hextend h) hrest
    rw [hprint] at hreading
    simpa [Except.map] using hreading

theorem Reading.broken_behind (h : Broken rest reason) (literal : List Char) :
    Reading (literal.reverse.flatMap formatChar ++ rest) (.error reason) := by
  have hreading := Reading.broken (wellFormed_flush_nil literal) h
  rw [print_flush] at hreading
  simpa [print] using hreading

/-- In either mode the scanner finds out what there is to read, of the format with what was read of
it already. -/
theorem reading_of_modes :
    (∀ literal format,
      Reading (literal.reverse.flatMap formatChar ++ format) (readText literal format)) ∧
    ∀ literal name format, BraceFree name → (name = [] → format.head? ≠ some openBrace) →
      Reading (literal.reverse.flatMap formatChar ++ openBrace :: name.reverse ++ format)
        (readKey literal name format) := by
  apply readText.mutual_induct
  -- Text, one escape or character after the other.
  case case1 =>
    intro literal
    have hreading := Reading.whole (wellFormed_flush_nil literal)
    rw [print_flush] at hreading
    exact hreading
  case case2 =>
    intro literal rest ih
    rw [List.reverse_cons, List.flatMap_append, List.append_assoc] at ih
    exact ih
  case case3 =>
    intro literal rest ih
    rw [List.reverse_cons, List.flatMap_append, List.append_assoc] at ih
    exact ih
  case case4 =>
    intro literal rest hrest ih
    have hhead : rest.head? ≠ some openBrace := head?_ne hrest
    have hreading := ih ⟨nofun, nofun⟩ fun _ => hhead
    rw [← readText_open hhead, List.append_assoc] at hreading
    exact hreading
  case case5 =>
    intro literal rest hrest
    have hhead : rest.head? ≠ some closeBrace := head?_ne hrest
    rw [← closeBrace, readText_close hhead]
    exact .broken_behind (.lone hhead) literal
  case case6 =>
    intro literal c rest _ _ hopen hclose ih
    rw [readText_cons hopen hclose]
    have hformat : formatChar c = [c] := if_neg (not_or.mpr ⟨hopen, hclose⟩)
    simpa [hformat] using ih
  -- A placeholder, and the text behind it in `case9`.
  case case7 =>
    intro literal name hname _
    rw [List.append_nil]
    exact .broken_behind (.unclosed hname.reverse) literal
  case case8 =>
    intro literal name rest hempty _ _
    obtain rfl := List.isEmpty_iff.mp hempty
    rw [List.append_assoc]
    exact .broken_behind (.nameless rest) literal
  case case9 =>
    intro literal name rest hne ih hname _
    have hne : name.reverse ≠ [] := by simpa using hne
    have hreading := ih.cons_key hname.reverse hne literal
    rw [← readKey_close hne] at hreading
    exact hreading
  case case10 =>
    intro literal name tail hname hhead
    have hne : name.reverse ≠ [] := by
      rw [ne_eq, List.reverse_eq_nil_iff]
      exact fun hempty => hhead hempty rfl
    rw [List.append_assoc]
    exact .broken_behind (.nested hname.reverse hne tail) literal
  case case11 =>
    intro literal name c rest hclose hopen ih hname _
    rw [readKey_cons hopen hclose]
    have hreading := ih (braceFree_cons.mpr ⟨hopen, hclose, hname⟩) nofun
    simpa using hreading

theorem readText_eq_iff {format : List Char} :
    readText [] format = outcome ↔ Reading format outcome := by
  constructor
  · rintro rfl
    exact reading_of_modes.1 [] format
  · intro h
    cases h with
    | whole h => exact readText_print h
    | broken h hrest => exact readText_print_append (readText_broken hrest) h []

end Segment

namespace Template

variable {format output : String}

theorem parse_eq_ok_iff {t : Template} :
    parse format output = .ok t ↔
      ∃ segments, Segment.WellFormed segments ∧ String.ofList (Segment.print segments) = format ∧
        t = { reference := "template:" ++ format ++ ":" ++ output, segments, output } := by
  constructor
  · intro h
    unfold parse at h
    split at h
    · rename_i segments hread
      cases h
      have hreading := Segment.readText_eq_iff.mp hread
      generalize hformat : format.toList = text at hreading
      cases hreading with
      | whole h => exact ⟨segments, h, by rw [← hformat, String.ofList_toList], rfl⟩
    · cases h
  · rintro ⟨segments, hsegments, rfl, rfl⟩
    have hread := Segment.readText_eq_iff.mpr (.whole hsegments)
    rw [parse, String.toList_ofList, hread]

theorem parse_eq_error_iff {e : ReferenceError} :
    parse format output = .error e ↔
      ∃ segments rest reason, Segment.WellFormed segments ∧ Segment.Broken rest reason ∧
        format = String.ofList (Segment.print segments ++ rest) ∧
        e = .malformed ("template:" ++ format ++ ":" ++ output) reason := by
  constructor
  · intro h
    unfold parse at h
    split at h
    · cases h
    · rename_i reason hread
      cases h
      have hreading := Segment.readText_eq_iff.mp hread
      generalize hformat : format.toList = text at hreading
      cases hreading with
      | broken h hrest => exact ⟨_, _, _, h, hrest, by rw [← hformat, String.ofList_toList], rfl⟩
  · rintro ⟨segments, rest, reason, hsegments, hrest, rfl, rfl⟩
    have hread := Segment.readText_eq_iff.mpr (.broken hsegments hrest)
    rw [parse, String.toList_ofList, hread]

/-- Segments that a format can tell apart are read back from the format that they are written as,
and a format that is read is the one that its segments are written as.  Every other format goes
wrong behind some segments, and is refused for that.  A template that was read reports the first
placeholder for which the context has no value and leaves everything as it was, or else it changes
the output alone, to the text of its segments in the context before. -/
theorem read_exactly_rendered_faithfully (output : String) :
    (∀ segments, Segment.WellFormed segments →
      let format := String.ofList (Segment.print segments)
      parse format output =
        .ok { reference := "template:" ++ format ++ ":" ++ output, segments, output }) ∧
    (∀ format t, parse format output = .ok t →
      Segment.WellFormed t.segments ∧ String.ofList (Segment.print t.segments) = format ∧
      ∀ params context,
        let gate := t.toProcessor.gate context
        let run := Gate.run (t.toProcessor.edit params) gate
        (∀ name, missing? context t.segments = some name →
          run = (.error (.context (.missingKey name)), gate)) ∧
        (missing? context t.segments = none →
          run.1 = .ok () ∧ ∀ key, run.2.context.get? key =
            if key = output then some (.str (String.join (t.segments.map (textOf context))))
            else context.get? key)) ∧
    ∀ format,
      let reference := "template:" ++ format ++ ":" ++ output
      ((∀ segments, Segment.WellFormed segments →
          String.ofList (Segment.print segments) ≠ format) →
        ∃ reason, parse format output = .error (.malformed reference reason)) ∧
      ∀ e, parse format output = .error e ↔
        ∃ segments rest reason, Segment.WellFormed segments ∧ Segment.Broken rest reason ∧
          format = String.ofList (Segment.print segments ++ rest) ∧
          e = .malformed reference reason := by
  refine ⟨fun segments hsegments => parse_eq_ok_iff.mpr ⟨segments, hsegments, rfl, rfl⟩,
    fun format t ht => ?_, fun format => ⟨fun hnone => ?_, fun e => parse_eq_error_iff⟩⟩
  · obtain ⟨segments, hsegments, hprint, rfl⟩ := parse_eq_ok_iff.mp ht
    refine ⟨hsegments, hprint, fun params context => ⟨fun name hmissing => ?_, fun hmissing => ?_⟩⟩
    · rw [run_edit, hmissing]
    · rw [run_edit, hmissing]
      refine ⟨rfl, fun key => ?_⟩
      show (context.insert output _).get? key = _
      rw [KeyMap.get?_insert]
      simp only [eq_comm]
  · cases hparse : parse format output with
    | ok t =>
      obtain ⟨segments, hsegments, hprint, -⟩ := parse_eq_ok_iff.mp hparse
      exact absurd hprint (hnone segments hsegments)
    | error e =>
      obtain ⟨_, _, reason, -, -, -, rfl⟩ := parse_eq_error_iff.mp hparse
      exact ⟨reason, rfl⟩

/-- Three braces in a row in front of a placeholder and behind it, and a value that would be a
placeholder itself. -/
theorem read_exactly_rendered_faithfully_of_braces :
    let segments : List Segment := [.literal "\x7b", .key "a", .literal "\x7d", .key "b"]
    let context := (KeyMap.empty.insert "a" (.str "\x7bb\x7d")).insert "b" (.arr [.int 2, .null])
    ∃ t, Segment.WellFormed segments ∧
      parse "\x7b\x7b\x7ba\x7d\x7d\x7d\x7bb\x7d" "line" = .ok t ∧ t.segments = segments ∧
      (Gate.run (t.toProcessor.edit .empty) (t.toProcessor.gate context)).2.context.get? "line" =
        some (.str "\x7b\x7bb\x7d\x7d[2,null]") := by
  intro segments context
  have hsegments : Segment.WellFormed segments := by
    refine ⟨fun text htext => ?_, fun name hname => ?_, by decide⟩
    · have htext : text = "\x7b" ∨ text = "\x7d" := by simpa [segments] using htext
      rcases htext with rfl | rfl <;> decide
    · have hname : name = "a" ∨ name = "b" := by simpa [segments] using hname
      rcases hname with rfl | rfl <;> exact ⟨by decide, by decide, by decide⟩
  obtain ⟨hread, hrendered, -⟩ := read_exactly_rendered_faithfully "line"
  have ht := hread segments hsegments
  refine ⟨_, hsegments, ht, rfl, ?_⟩
  have hrun := ((hrendered _ _ ht).2.2 .empty context).2 rfl
  exact (hrun.2 "line").trans rfl

end Template
end Dataflow
