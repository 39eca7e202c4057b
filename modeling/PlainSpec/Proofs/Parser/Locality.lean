import PlainSpec.Proofs.Parser.Discipline

/-!
# What is read in front of a line

A repetition looks at the line behind its last element, so what a parser reads can depend on lines
that it leaves alone.  It looks at one line only: if a line is never read, nothing that stands
behind it is looked at.  Two sources that agree up to such a line are then read alike in front of
it.

The places in front of the line are not closed under moving on, since the next line may be the line
itself.  That is why a likeness of sources does not tell this: here a parser has to stop.

## Main definitions

* `Cursor.Upto`: two places with the same lines ahead, up to some line.
* `Parser.StopsAt`: a parser that reads nothing of a line, nor of what stands behind it.

## Main results

* `Parser.StopsAt.both`, `Parser.StopsAt.many`, …: combinations of such parsers.
* `Parser.exists_first_line`: what is read up to the first line of a kind.
-/

namespace PlainSpec

/-- Two places with the same lines ahead, up to a line that is not blank. -/
structure Cursor.Upto (l : Line) (tail tail' : List Line) (c c' : Cursor) : Prop where
  solid : l.isBlank = false
  shared : ∃ front, c.rest = front ++ l :: tail ∧ c'.rest = front ++ l :: tail'

namespace Cursor.Upto

variable {l : Line} {tail tail' : List Line} {c c' : Cursor}

theorem symm (h : Upto l tail tail' c c') : Upto l tail' tail c' c := by
  obtain ⟨hsolid, front, hc, hc'⟩ := h
  exact ⟨hsolid, front, hc', hc⟩

/-- The line ends the blank lines in front of it. -/
theorem dropWhile_isBlank (hsolid : l.isBlank = false) (front tail : List Line) :
    (front ++ l :: tail).dropWhile Line.isBlank = front.dropWhile Line.isBlank ++ l :: tail := by
  rw [List.dropWhile_append]
  split
  · rename_i hnil
    rw [List.isEmpty_iff.1 hnil, List.dropWhile_cons, hsolid]
    rfl
  · rfl

theorem skipBlank (h : Upto l tail tail' c c') : Upto l tail tail' c.skipBlank c'.skipBlank := by
  obtain ⟨hsolid, front, hc, hc'⟩ := h
  refine ⟨hsolid, front.dropWhile Line.isBlank, ?_, ?_⟩
  · rw [rest_skipBlank, hc, dropWhile_isBlank hsolid]
  · rw [rest_skipBlank, hc', dropWhile_isBlank hsolid]

/-- The next line is the line itself, or one in front of it. -/
theorem cases (h : Upto l tail tail' c c') :
    (c.ahead? = some l ∧ c'.ahead? = some l ∧
        c.skipBlank.advance.rest = tail ∧ c'.skipBlank.advance.rest = tail') ∨
      ∃ a, c.ahead? = some a ∧ c'.ahead? = some a ∧
        Upto l tail tail' c.skipBlank.advance c'.skipBlank.advance := by
  obtain ⟨hsolid, front, hc, hc'⟩ := h.skipBlank
  have hadvance (c : Cursor) {a : Line} {rest : List Line} (hrest : c.skipBlank.rest = a :: rest) :
      c.ahead? = some a ∧ c.skipBlank.advance.rest = rest := by
    refine ⟨?_, by simp only [advance, hrest]⟩
    rw [ahead?, peek?, hrest, List.head?_cons]
  cases front with
  | nil =>
    obtain ⟨hahead, hrest⟩ := hadvance c hc
    obtain ⟨hahead', hrest'⟩ := hadvance c' hc'
    exact .inl ⟨hahead, hahead', hrest, hrest'⟩
  | cons a front =>
    obtain ⟨hahead, hrest⟩ := hadvance c hc
    obtain ⟨hahead', hrest'⟩ := hadvance c' hc'
    exact .inr ⟨a, hahead, hahead', hsolid, front, hrest, hrest'⟩

theorem ahead?_eq (h : Upto l tail tail' c c') : c.ahead? = c'.ahead? := by
  rcases h.cases with ⟨hc, hc', -⟩ | ⟨a, hc, hc', -⟩
  · rw [hc, hc']
  · rw [hc, hc']

theorem not_atEnd (h : Upto l tail tail' c c') : c.atEnd = false := by
  rcases h.cases with ⟨hc, -⟩ | ⟨a, hc, -⟩
  · simp [atEnd, hc]
  · simp [atEnd, hc]

/-- What is read in front of the line is as long in both sources. -/
theorem length_lt_iff {n n' : Cursor} (h : Upto l tail tail' c c') (hn : Upto l tail tail' n n') :
    n.rest.length < c.rest.length ↔ n'.rest.length < c'.rest.length := by
  obtain ⟨-, front, hc, hc'⟩ := h
  obtain ⟨-, front', hm, hm'⟩ := hn
  simp only [hc, hc', hm, hm', List.length_append, List.length_cons]
  omega

/-- If the line is the first of its kind, then a line of that kind that is ahead is the line
itself. -/
theorem advance_of_first {test : Line → Bool} {s : Cursor} {front : List Line} {a : Line}
    (h : Upto l tail tail' c c') (hs : s.rest = front ++ l :: tail) (hreach : s.Reaches c)
    (hfront : ∀ x ∈ front, test x = false) (ha : c.ahead? = some a) (htest : test a = true) :
    c'.ahead? = some a ∧ c.skipBlank.advance.rest = tail ∧ c'.skipBlank.advance.rest = tail' := by
  rcases h.cases with ⟨hl, hl', hrest, hrest'⟩ | ⟨x, -, -, -, behind, hrest, -⟩
  · exact ⟨by rw [hl', ← hl, ha], hrest, hrest'⟩
  · obtain ⟨between, hbetween, -⟩ := hreach.trans c.reaches_skipBlank
    obtain ⟨rest, hc⟩ : ∃ rest, c.skipBlank.rest = a :: rest := List.head?_eq_some_iff.1 ha
    have hadvance : c.skipBlank.advance.rest = rest := by simp only [advance, hc]
    have hlines : front ++ l :: tail = (between ++ a :: behind) ++ l :: tail := by
      rw [← hs, hbetween, hc, ← hadvance, hrest, List.append_assoc, List.cons_append]
    have hmem : a ∈ front := by
      rw [List.append_cancel_right hlines]
      simp
    rw [hfront a hmem] at htest
    cases htest

end Cursor.Upto

namespace Parser

open Cursor

variable {α β γ : Type} {l : Line}

/-- The parser reads nothing of the line, nor of what stands behind it: what it reads in front of
the line is read wherever these lines stand. -/
def StopsAt (l : Line) (p : Parser α) : Prop :=
  ∀ tail tail' c c' v n, Upto l tail tail' c c' → p c = .ok v n →
    ∃ n', p c' = .ok v n' ∧ Upto l tail tail' n n'

namespace StopsAt

variable {p : Parser α} {q : Parser β}

/-- Nor does it read anything where it refuses with other lines behind. -/
theorem refuses (hp : StopsAt l p) {tail tail' : List Line} {c c' : Cursor}
    (h : Upto l tail tail' c c') (hc : Refuses p c) : Refuses p c' := by
  intro v n hv
  obtain ⟨n', hv', -⟩ := hp _ _ _ _ _ _ h.symm hv
  exact hc v n' hv'

theorem line {f : Line → Except Fault α} (hf : ∀ v, f l ≠ .ok v) : StopsAt l (line f) := by
  intro tail tail' c c' v n h hv
  obtain ⟨a, ha, hread, rfl⟩ := line_eq_ok.1 hv
  rcases h.cases with ⟨hc, -⟩ | ⟨a', hc, hc', hnext⟩
  · cases hc.symm.trans ha
    exact absurd hread (hf v)
  · cases hc.symm.trans ha
    exact ⟨_, line_eq_ok.2 ⟨a, hc', hread, rfl⟩, hnext⟩

/-- The end is not in front of a line. -/
theorem finish : StopsAt l finish := by
  intro tail tail' c c' v n h hv
  have hend := (finish_eq_ok.1 hv).1
  rw [h.not_atEnd] at hend
  cases hend

theorem map (hp : StopsAt l p) (f : α → β) : StopsAt l (map p f) := by
  intro tail tail' c c' v n h hv
  obtain ⟨a, ha, rfl⟩ := map_eq_ok.1 hv
  obtain ⟨n', ha', hn⟩ := hp _ _ _ _ _ _ h ha
  exact ⟨n', map_eq_ok.2 ⟨a, ha', rfl⟩, hn⟩

theorem both (hp : StopsAt l p) (hq : StopsAt l q) : StopsAt l (both p q) := by
  intro tail tail' c c' v n h hv
  obtain ⟨m, ha, hb⟩ := both_eq_ok.1 hv
  obtain ⟨m', ha', hm⟩ := hp _ _ _ _ _ _ h.skipBlank ha
  obtain ⟨n', hb', hn⟩ := hq _ _ _ _ _ _ hm hb
  exact ⟨n', both_eq_ok.2 ⟨m', ha', hb'⟩, hn⟩

theorem orElse {q : Parser α} (hp : StopsAt l p) (hq : StopsAt l q) : StopsAt l (orElse p q) := by
  intro tail tail' c c' v n h hv
  rcases orElse_eq_ok.1 hv with ha | ⟨hrefuses, hb⟩
  · obtain ⟨n', ha', hn⟩ := hp _ _ _ _ _ _ h.skipBlank ha
    exact ⟨n', orElse_eq_ok.2 (.inl ha'), hn⟩
  · obtain ⟨n', hb', hn⟩ := hq _ _ _ _ _ _ h.skipBlank hb
    exact ⟨n', orElse_eq_ok.2 (.inr ⟨hp.refuses h.skipBlank hrefuses, hb'⟩), hn⟩

theorem absent (hp : StopsAt l p) : StopsAt l (absent p) := by
  intro tail tail' c c' v n h hv
  obtain ⟨hrefuses, rfl⟩ := absent_eq_ok.1 hv
  exact ⟨c', absent_eq_ok.2 ⟨hp.refuses h hrefuses, rfl⟩, h⟩

/-- A line that is read if it passes a test, which the line does not. -/
theorem whenAhead_line {test : Line → Bool} (htest : test l = false) (f : Line → Except Fault α)
    (g : α → Except Invalid β) : StopsAt l (whenAhead test (check (Parser.line f) g)) := by
  intro tail tail' c c' v n h hv
  rcases whenAhead_eq_ok.1 hv with ⟨hpassed, b, hb, rfl⟩ | ⟨hfailed, rfl, rfl⟩
  · obtain ⟨a, ha, hg⟩ := check_eq_ok.1 hb
    obtain ⟨x, hx, hread, rfl⟩ := line_eq_ok.1 ha
    rcases h.cases with ⟨hc, -⟩ | ⟨x', hc, hc', hnext⟩
    · simp [hc, htest] at hpassed
    · cases hc.symm.trans hx
      have hread' : Parser.line f c' = .ok a c'.skipBlank.advance :=
        line_eq_ok.2 ⟨x, hc', hread, rfl⟩
      refine ⟨_, whenAhead_eq_ok.2 (.inl ⟨?_, b, check_eq_ok.2 ⟨a, hread', hg⟩, rfl⟩), hnext⟩
      rwa [← h.ahead?_eq]
  · exact ⟨c', whenAhead_eq_ok.2 (.inr ⟨by rwa [← h.ahead?_eq], rfl, rfl⟩), h⟩

theorem run (hp : StopsAt l p) (hq : StopsAt l q) {tail tail' : List Line}
    {c c' n : Cursor} {vs : List α} (h : Upto l tail tail' c c') (hrun : Run p q c vs n) :
    ∃ n', Run p q c' vs n' ∧ Upto l tail tail' n n' := by
  -- on the run in the first source, with the place in the second one
  induction hrun generalizing c' with
  | stop hstop =>
    obtain ⟨_, hstop', -⟩ := hq _ _ _ _ _ _ h hstop
    exact ⟨c', .stop hstop', h⟩
  | step hs he hlt _ ih =>
    obtain ⟨m', he', hm⟩ := hp _ _ _ _ _ _ h he
    obtain ⟨n', hrun', hn⟩ := ih hm
    exact ⟨n', .step (hq.refuses h hs) he' ((h.length_lt_iff hm).1 hlt) hrun', hn⟩
  | stuck hs he hge =>
    obtain ⟨m', he', hm⟩ := hp _ _ _ _ _ _ h he
    exact ⟨m', .stuck (hq.refuses h hs) he' (mt (h.length_lt_iff hm).2 hge), hm⟩

/-- **A repetition stops where its element and its terminator do.** -/
theorem many (hp : StopsAt l p) (hq : StopsAt l q) : StopsAt l (many p q) := by
  intro tail tail' c c' v n h hv
  obtain ⟨n', hrun, hn⟩ := hp.run hq h.skipBlank (many_eq_ok.1 hv)
  exact ⟨n', many_eq_ok.2 hrun, hn⟩

theorem manyWhile (hp : StopsAt l p) (hq : StopsAt l q) : StopsAt l (manyWhile p q) :=
  hp.many (finish.orElse hq.absent)

end StopsAt

/-- **A parser that stops at every line of a kind, and then a line of that kind**: what is read does
not depend on what stands behind the first such line. -/
theorem exists_first_line {test : Line → Bool} {p : Parser α} {f : Line → Except Fault β}
    (hp : Disciplined p) (hstops : ∀ l, test l = true → StopsAt l p)
    (hsolid : ∀ l, test l = true → l.isBlank = false) (hf : ∀ l v, f l = .ok v → test l = true)
    {c n : Cursor} {v : α × β} (h : both p (line f) c = .ok v n) :
    ∃ front l, c.rest = front ++ l :: n.rest ∧ (∀ a ∈ front, test a = false) ∧ test l = true ∧
      ∀ c' tail, c'.rest = front ++ l :: tail → ∃ n', both p (line f) c' = .ok v n' ∧
        n'.rest = tail := by
  obtain ⟨m, hm, hline⟩ := both_eq_ok.1 h
  obtain ⟨a, ha, hread, rfl⟩ := line_eq_ok.1 hline
  have hreach : c.Reaches m := c.reaches_skipBlank.trans (hp.reaches hm)
  have hmem : a ∈ c.rest :=
    (hreach.trans m.reaches_skipBlank).suffix.subset (List.mem_of_mem_head? ha)
  obtain ⟨l, hl⟩ : ∃ l, c.rest.find? test = some l :=
    Option.isSome_iff_exists.1 (List.find?_isSome.2 ⟨a, hmem, hf a _ hread⟩)
  obtain ⟨htest, front, tail, hrest, hfront⟩ := List.find?_eq_some_iff_append.1 hl
  simp only [Bool.not_eq_true'] at hfront
  have hmirror (c' : Cursor) (tail' : List Line) (hrest' : c'.rest = front ++ l :: tail') :
      m.skipBlank.advance.rest = tail ∧
        ∃ n', both p (line f) c' = .ok v n' ∧ n'.rest = tail' := by
    have hupto : Upto l tail tail' c c' := ⟨hsolid l htest, front, hrest, hrest'⟩
    obtain ⟨m', hm', hnext⟩ := hstops l htest _ _ _ _ _ _ hupto.skipBlank hm
    obtain ⟨ha', hn, hn'⟩ := hnext.advance_of_first hrest hreach hfront ha (hf a _ hread)
    exact ⟨hn, _, both_eq_ok.2 ⟨m', hm', line_eq_ok.2 ⟨a, ha', hread, rfl⟩⟩, hn'⟩
  exact ⟨front, l, by rw [(hmirror c tail hrest).1, hrest], hfront, htest, fun c' tail' hrest' =>
    (hmirror c' tail' hrest').2⟩

end Parser

end PlainSpec
