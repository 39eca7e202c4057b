import PlainSpec.Proofs.Grammar.Likeness
import PlainSpec.Proofs.Parser.BlankLines

/-!
# Layout means nothing

Indentation, blanks at the end of a line, the kind of line end and, outside of text blocks, blank
lines mean nothing in either dialect.

Two likenesses say this.  Under the first, sources correspond line by line: then the documents, with
all numbers of lines, and the refusals are equal.  Under the second, sources have the same lines
that are not blank: then the documents differ in numbers of lines only.

## Main definitions

* `Likeness.byLine`: the same content on every line.
* `Likeness.LineByLine`: likenesses under which every line corresponds to one.
* `Likeness.bySignificant`: the same lines that are not blank, and no text block.

## Main results

* `Document.parse_eq_or_sameAs_of_layout`: what two sources that differ in layout are read as.
-/

namespace PlainSpec

open Grammar

/-! ## Line by line -/

/-- The numbers of some lines and what they say. -/
def Line.contents (ls : List Line) : List (Nat × Text) := ls.map fun l => (l.number, l.trimmed)

/-- Both places have the same content before and after them. -/
def Cursor.SameContents (c c' : Cursor) : Prop :=
  Line.contents c.passed = Line.contents c'.passed ∧ Line.contents c.rest = Line.contents c'.rest

namespace Cursor.SameContents

/-- The lines ahead correspond one by one. -/
theorem cases {c c' : Cursor} (h : c.SameContents c') :
    (c.rest = [] ∧ c'.rest = []) ∨
      ∃ l rest l' rest', c.rest = l :: rest ∧ c'.rest = l' :: rest' ∧ l.number = l'.number ∧
        l.trimmed = l'.trimmed ∧
        SameContents ⟨l :: c.passed, rest⟩ ⟨l' :: c'.passed, rest'⟩ := by
  obtain ⟨hp, hr⟩ := h
  unfold Line.contents at hp hr
  cases hc : c.rest with
  | nil => simp_all
  | cons l rest =>
    cases hc' : c'.rest with
    | nil => simp_all
    | cons l' rest' =>
      simp only [hc, hc', List.map_cons, List.cons.injEq, Prod.mk.injEq] at hr
      obtain ⟨⟨hn, ht⟩, hrest⟩ := hr
      refine .inr ⟨l, rest, l', rest', rfl, rfl, hn, ht, ?_, hrest⟩
      simp [Line.contents, hn, ht, hp]

theorem skipBlank_go (rest : List Line) : ∀ (passed passed' rest' : List Line),
    SameContents ⟨passed, rest⟩ ⟨passed', rest'⟩ →
      SameContents (skipBlank.go passed rest) (skipBlank.go passed' rest') := by
  induction rest with
  | nil =>
    intro passed passed' rest' h
    rcases h.cases with ⟨-, hr⟩ | ⟨_, _, _, _, ⟨⟩, _⟩
    cases (show rest' = [] from hr)
    exact h
  | cons l rest ih =>
    intro passed passed' rest' h
    rcases h.cases with ⟨⟨⟩, _⟩ | ⟨_, _, l', ls', ⟨⟩, hr, -, htext, hnext⟩
    cases (show rest' = l' :: ls' from hr)
    have hblank : l.isBlank = l'.isBlank := by simp [Line.isBlank, htext]
    unfold Cursor.skipBlank.go
    rw [hblank]
    split
    · exact ih _ _ _ hnext
    · exact h

theorem skipBlank {c c' : Cursor} (h : c.SameContents c') : c.skipBlank.SameContents c'.skipBlank :=
  skipBlank_go c.rest c.passed c'.passed c'.rest h

theorem advance {c c' : Cursor} (h : c.SameContents c') : c.advance.SameContents c'.advance := by
  rcases h.cases with ⟨hc, hc'⟩ | ⟨l, rest, l', rest', hc, hc', -, -, hnext⟩
  · simpa [Cursor.advance, hc, hc'] using h
  · simpa [Cursor.advance, hc, hc'] using hnext

theorem ahead {c c' : Cursor} (h : c.SameContents c') :
    c.ahead?.map (fun l => (l.number, l.trimmed)) =
      c'.ahead?.map (fun l => (l.number, l.trimmed)) := by
  unfold Cursor.ahead? Cursor.peek?
  rcases h.skipBlank.cases with ⟨hc, hc'⟩ | ⟨l, rest, l', rest', hc, hc', hn, ht, -⟩
  · rw [hc, hc']
  · rw [hc, hc']
    simp [hn, ht]

theorem lines {c c' : Cursor} (h : c.SameContents c') :
    Line.contents c.lines = Line.contents c'.lines := by
  obtain ⟨hp, hr⟩ := h
  simp only [Line.contents] at hp hr
  simp only [Line.contents, Cursor.lines, List.map_append, List.map_reverse, hp, hr]

theorem lastNumber {c c' : Cursor} (h : c.SameContents c') :
    (c.lines.getLast?.map Line.number).getD 0 = (c'.lines.getLast?.map Line.number).getD 0 := by
  have hnumbers := congrArg (List.map Prod.fst) h.lines
  simp only [Line.contents, List.map_map] at hnumbers
  rw [← List.getLast?_map, ← List.getLast?_map]
  exact congrArg (fun numbers => numbers.getLast?.getD 0) hnumbers

theorem lineNumber {c c' : Cursor} (h : c.SameContents c') : c.lineNumber = c'.lineNumber := by
  have hahead := h.ahead
  have hlast := h.lastNumber
  unfold Cursor.lineNumber
  cases hc : c.ahead? <;> cases hc' : c'.ahead? <;> simp_all

end Cursor.SameContents

namespace Likeness

/-- Sources that correspond line by line. -/
def byLine : Likeness where
  like := Cursor.SameContents
  place := id
  error := Eq
  place_zero := rfl
  skipBlank h := h.skipBlank
  advance h := h.skipBlank.advance
  ahead h := h.ahead
  lineNumber h := h.lineNumber
  error_mk _ _ h := by rw [id, id] at h; rw [h]
  error_deepest := by
    rintro _ _ _ _ rfl rfl
    rfl

/-- A likeness of sources that correspond line by line, blank lines included. -/
structure LineByLine (L : Likeness) : Prop where
  cases : ∀ {c c'}, L.like c c' → (c.rest = [] ∧ c'.rest = []) ∨
    ∃ l rest l' rest', c.rest = l :: rest ∧ c'.rest = l' :: rest' ∧ l.trimmed = l'.trimmed ∧
      L.like ⟨l :: c.passed, rest⟩ ⟨l' :: c'.passed, rest'⟩
  last : ∀ {c c'}, L.like c c' →
    L.place ((c.lines.getLast?.map Line.number).getD 0) =
      L.place ((c'.lines.getLast?.map Line.number).getD 0)

theorem lineByLine_byLine : LineByLine byLine where
  cases h := by
    rcases Cursor.SameContents.cases h with hnil | ⟨l, rest, l', rest', hc, hc', -, htext, hnext⟩
    · exact .inl hnil
    · exact .inr ⟨l, rest, l', rest', hc, hc', htext, hnext⟩
  last h := Cursor.SameContents.lastNumber h

namespace LineByLine

variable {L : Likeness}

/-- Bodies of text blocks with the same content. -/
theorem bodyUntil (hL : LineByLine L) (delimiter : Text) (rest : List Line) :
    ∀ (passed passed' rest' : List Line), L.like ⟨passed, rest⟩ ⟨passed', rest'⟩ →
      (bodyUntil delimiter passed rest = none ∧ bodyUntil delimiter passed' rest' = none) ∨
        ∃ body n n', bodyUntil delimiter passed rest = some (body, n) ∧
          bodyUntil delimiter passed' rest' = some (body, n') ∧ L.like n n' := by
  induction rest with
  | nil =>
    intro passed passed' rest' h
    rcases hL.cases h with ⟨-, hr⟩ | ⟨_, _, _, _, ⟨⟩, _⟩
    cases (show rest' = [] from hr)
    exact .inl ⟨rfl, rfl⟩
  | cons l rest ih =>
    intro passed passed' rest' h
    rcases hL.cases h with ⟨⟨⟩, _⟩ | ⟨_, _, l', ls', ⟨⟩, hr, htext, hnext⟩
    cases (show rest' = l' :: ls' from hr)
    simp only [Grammar.bodyUntil, htext]
    split
    · exact .inr ⟨[], _, _, rfl, rfl, hnext⟩
    · rcases ih _ _ _ hnext with ⟨hb, hb'⟩ | ⟨body, n, n', hb, hb', hn⟩
      · exact .inl (by simp [hb, hb'])
      · exact .inr ⟨l'.trimmed :: body, n, n', by simp [hb], by simp [hb'], hn⟩

/-- **Text blocks are read alike where every line corresponds to one.** -/
theorem blind_textBlock (hL : LineByLine L) (dialect : Dialect) :
    L.Blind id (textBlock dialect) (textBlock dialect) := by
  have hopening : L.Blind id (opening dialect) (opening dialect) :=
    .line fun _ _ _ h => by rw [h]
  refine hopening.bind fun _ _ _ c c' h => ?_
  unfold textBody
  rcases hL.bodyUntil dialect.textDelimiter c.rest c.passed c'.passed c'.rest h with
    ⟨hb, hb'⟩ | ⟨body, n, n', hb, hb', hn⟩
  · rw [hb, hb']
    exact L.error_mk _ _ (hL.last h)
  · rw [hb, hb']
    dsimp only
    split
    · exact L.error_mk _ _ (L.lineNumber h)
    · exact ⟨rfl, hn⟩

end LineByLine

theorem blind_textBlock_byLine (dialect : Dialect) :
    byLine.Blind id (textBlock dialect) (textBlock dialect) :=
  lineByLine_byLine.blind_textBlock dialect

end Likeness

/-! ## Lines that are not blank -/

namespace Likeness

/-- Sources with the same lines that are not blank, none of which is the delimiter of a text
block. -/
def bySignificant (dialect : Dialect) : Likeness where
  like c c' := Line.significant c.rest = Line.significant c'.rest ∧
    dialect.textDelimiter ∉ Line.significant c.rest
  place _ := 0
  error _ _ := True
  place_zero := rfl
  skipBlank := by simp
  advance := by
    rintro c c' ⟨h, hd⟩
    simp only [Cursor.significant_advance, h]
    refine ⟨trivial, fun hmem => hd ?_⟩
    rw [h]
    exact List.mem_of_mem_tail hmem
  ahead h := Cursor.ahead_of_significant h.1
  lineNumber _ := rfl
  error_mk _ _ _ := trivial
  error_deepest _ _ := trivial

/-- Without a delimiter there is no text block. -/
theorem blind_textBlock_bySignificant (dialect : Dialect) :
    (bySignificant dialect).Blind id (textBlock dialect) (textBlock dialect) := by
  -- a text block would start with the delimiter, which is not among the lines
  have hrefuses (c : Cursor) (hd : dialect.textDelimiter ∉ Line.significant c.rest) :
      Parser.Refuses (textBlock dialect) c := by
    intro v n hv
    obtain ⟨_, m, hopening, -⟩ := Parser.bind_eq_ok.1 hv
    obtain ⟨l, hl, hread, -⟩ := Parser.line_eq_ok.1 hopening
    rw [Cursor.ahead?_eq_head?] at hl
    have hhead := (Line.head?_tail_significant c.rest).1
    rw [hl] at hhead
    have hmem := List.mem_of_mem_head? hhead
    split at hread
    · rename_i htext
      exact hd (htext ▸ hmem)
    · cases hread
  rintro c c' ⟨h, hd⟩
  obtain ⟨e, n, he⟩ := Parser.refuses_iff.1 (hrefuses c hd)
  obtain ⟨e', n', he'⟩ := Parser.refuses_iff.1 (hrefuses c' (h ▸ hd))
  rw [he, he']
  trivial

end Likeness

/-! ## Documents -/

/-- Two results of reading a source: equal up to the numbers of lines that a likeness forgets, or
both refusals. -/
theorem Likeness.parse_agree (L : Likeness) {source : Path} {dialect : Dialect} {text text' : Text}
    (htext : L.Blind id (textBlock dialect) (textBlock dialect))
    (h : L.like (Cursor.ofText text) (Cursor.ofText text')) :
    (∃ e e', Document.parse source dialect text = .error e ∧
        Document.parse source dialect text' = .error e' ∧ L.error e e') ∨
      ∃ d d', Document.parse source dialect text = .ok d ∧
        Document.parse source dialect text' = .ok d' ∧ d.relabel L.place = d'.relabel L.place := by
  cases dialect with
  | reqsml =>
    simp only [Document.parse, ReqsML.document]
    rcases (ReqsML.blind_requirements htext _ _ h).cases with
      ⟨v, n, v', n', hv, hv', hview, -⟩ | ⟨e, n, e', n', he, he', herror⟩
    · rw [hv, hv']
      refine .inr ⟨_, _, rfl, rfl, ?_⟩
      simp only [Document.relabel, ← Several.toList_map, hview]
    · rw [he, he']
      exact .inl ⟨e, e', rfl, rfl, herror⟩
  | gherkin =>
    simp only [Document.parse, Gherkin.document]
    rcases (Gherkin.blind_feature htext _ _ h).cases with
      ⟨⟨⟨header, title⟩, body⟩, n, ⟨⟨header', title'⟩, body'⟩, n', hv, hv', hview, -⟩ |
        ⟨e, n, e', n', he, he', herror⟩
    · rw [hv, hv']
      refine .inr ⟨_, _, rfl, rfl, ?_⟩
      simp only [Prod.map_apply, Prod.mk.injEq, id] at hview
      obtain ⟨⟨rfl, rfl⟩, hbody⟩ := hview
      simp only [Document.relabel, Gherkin.map_inherit_relabel, Gherkin.Body.requirements_relabel,
        hbody]
    · rw [he, he']
      exact .inl ⟨e, e', rfl, rfl, herror⟩

theorem Line.contents_split (text : Text) :
    Line.contents (Line.split text) =
      ((Line.split text).map Line.trimmed).mapIdx fun i t => (i + 1, t) := by
  apply List.ext_getElem
  · simp [Line.contents]
  · intro i h₁ h₂
    simp [Line.contents, Line.split]

/-- **Layout means nothing.**  Sources with the same content on every line are read as the same
document, with all its numbers of lines, or are refused for the same reason.  Sources with the same
lines that are not blank, and without text blocks, are both refused, or are read as documents that
say the same. -/
theorem Document.parse_eq_or_sameAs_of_layout (source : Path) (dialect : Dialect)
    (text text' : Text) :
    ((Line.split text).map Line.trimmed = (Line.split text').map Line.trimmed →
      Document.parse source dialect text = Document.parse source dialect text') ∧
    (dialect.textDelimiter ∉ (Line.split text).map Line.trimmed →
      dialect.textDelimiter ∉ (Line.split text').map Line.trimmed →
      Line.significant (Line.split text) = Line.significant (Line.split text') →
      (∃ e e', Document.parse source dialect text = .error e ∧
          Document.parse source dialect text' = .error e') ∨
        ∃ d d', Document.parse source dialect text = .ok d ∧
          Document.parse source dialect text' = .ok d' ∧ d.sameAs d' = true) := by
  constructor
  · intro h
    have hlike : Likeness.byLine.like (Cursor.ofText text) (Cursor.ofText text') := by
      refine ⟨rfl, ?_⟩
      show Line.contents (Line.split text) = Line.contents (Line.split text')
      rw [Line.contents_split, Line.contents_split, h]
    rcases Likeness.byLine.parse_agree (Likeness.blind_textBlock_byLine dialect) hlike with
      ⟨e, e', he, he', herror⟩ | ⟨d, d', hd, hd', heq⟩
    · rw [he, he', show e = e' from herror]
    · rw [hd, hd', show d = d' by simpa [Likeness.byLine] using heq]
  · intro hd _ h
    have hlike : (Likeness.bySignificant dialect).like (Cursor.ofText text) (Cursor.ofText text') :=
      ⟨h, fun hmem => hd (List.mem_filter.1 hmem).1⟩
    rcases (Likeness.bySignificant dialect).parse_agree
        (Likeness.blind_textBlock_bySignificant dialect) hlike with
      ⟨e, e', he, he', -⟩ | ⟨d, d', hd, hd', heq⟩
    · exact .inl ⟨e, e', he, he'⟩
    · exact .inr ⟨d, d', hd, hd', Document.sameAs_of_relabel_eq heq⟩

/-- Layout at work: other blanks and line ends around the same lines change nothing at all, and
blank lines between them change only numbers of lines. -/
theorem Document.parse_eq_or_sameAs_of_layout_reqsml :
    Document.parse ⟨"a".toList⟩ .reqsml "Requirement: a\nIf: b\n".toList =
      Document.parse ⟨"a".toList⟩ .reqsml "  Requirement: a \r\n\tIf: b\r\n ".toList ∧
    ((∃ e e', Document.parse ⟨"a".toList⟩ .reqsml "Requirement: a\nIf: b\n".toList = .error e ∧
        Document.parse ⟨"a".toList⟩ .reqsml "\nRequirement: a\n\n\n  If: b".toList = .error e') ∨
      ∃ d d', Document.parse ⟨"a".toList⟩ .reqsml "Requirement: a\nIf: b\n".toList = .ok d ∧
        Document.parse ⟨"a".toList⟩ .reqsml "\nRequirement: a\n\n\n  If: b".toList = .ok d' ∧
        d.sameAs d' = true) :=
  ⟨(Document.parse_eq_or_sameAs_of_layout ⟨"a".toList⟩ .reqsml "Requirement: a\nIf: b\n".toList
      "  Requirement: a \r\n\tIf: b\r\n ".toList).1 (by decide),
    (Document.parse_eq_or_sameAs_of_layout ⟨"a".toList⟩ .reqsml "Requirement: a\nIf: b\n".toList
      "\nRequirement: a\n\n\n  If: b".toList).2 (by decide) (by decide) (by decide)⟩

end PlainSpec
