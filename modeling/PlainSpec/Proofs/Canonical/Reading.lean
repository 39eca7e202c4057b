import Mathlib.Data.List.Forall2
import PlainSpec.Proofs.Canonical.Layout
import PlainSpec.Proofs.Parser.Yield

/-!
# Reading rows back

A parser reads rows back if it replies with a given value wherever the rows stand, and goes on with
what follows them.  What follows is part of the statement, because a rule decides by the next lines
whether it goes on.  The rules of the grammar are put together from a few combinators, and so are
the statements about reading.

## Main definitions

* `Cursor.At`: the lines ahead lay out some rows.
* `Parser.Reads`: the parser reads rows back, whatever stands before them.
* `Parser.Starts`, `Parser.Bars`: the parser reads something, or nothing, in front of rows.

## Main results

* `Parser.Reads.both`, `Parser.Reads.orElse_right`, …: reading of combinations.
* `Parser.Reads.run`: a repetition reads the rows of its elements.
-/

namespace PlainSpec

/-- The lines ahead of a cursor lay out some rows.  Blank lines in front do not count. -/
structure Cursor.At (c : Cursor) (rows : List Row) : Prop where
  /-- The lines that are not skipped are lines of the rows. -/
  layout : Row.Lays rows ((c.rest.dropWhile Line.isBlank).map Line.trimmed)
  /-- The lines are lines of a source. -/
  sound : c.Sound
  /-- The first row of text is not blank. -/
  solid : Row.Solid rows

namespace Cursor

variable {c : Cursor} {rows : List Row} {content : Text}

/-- Lines that lay out solid rows stand at them, blank lines in front or not. -/
theorem at_of_lays (hl : Row.Lays rows (c.rest.map Line.trimmed)) (hc : c.Sound)
    (hs : Row.Solid rows) : c.At rows :=
  ⟨by rw [map_trimmed_dropWhile]; exact (hl.dropWhile hs).1, hc, hs⟩

theorem At.ahead? (h : c.At rows) : c.ahead?.map Line.trimmed = Row.ahead? rows := by
  have hhead := (h.layout.dropWhile h.solid).2
  rw [map_trimmed_dropWhile] at hhead
  have hidem (ts : List Text) :
      (ts.dropWhile List.isEmpty).dropWhile List.isEmpty = ts.dropWhile List.isEmpty := by
    induction ts with
    | nil => rfl
    | cons t ts ih => by_cases ht : t.isEmpty = true <;> simp [ht, ih]
  rw [hidem, ← map_trimmed_dropWhile, List.head?_map] at hhead
  rw [Cursor.ahead?_eq_head?, hhead]

theorem At.skipBlank (h : c.At rows) : c.skipBlank.At rows := by
  refine ⟨?_, h.sound.skipBlank, h.solid⟩
  have hdrop := (h.layout.dropWhile h.solid).1
  rwa [Cursor.rest_skipBlank, map_trimmed_dropWhile]

/-- **A blank row in front is not seen.** -/
@[simp] theorem at_blank : c.At (.blank :: rows) ↔ c.At rows := by
  constructor
  · intro h
    -- the blank lines are skipped, so the row for them is not used
    refine ⟨h.layout.of_blank ?_, h.sound, h.solid⟩
    rw [List.head?_map, ← Cursor.ahead?_eq_head?, h.ahead?]
    exact h.solid
  · intro h
    exact ⟨.gap h.layout, h.sound, h.solid⟩

theorem At.congr (h : c.At rows) {rows' : List Row}
    (hbare : rows.map Row.bare = rows'.map Row.bare) :
    c.At rows' := by
  refine ⟨h.layout.congr hbare, h.sound, ?_⟩
  rw [Row.Solid, ← Row.ahead?_congr hbare]
  exact h.solid

/-- The line of a row of text, and what is left after it. -/
theorem At.line (h : c.At (.text content :: rows)) :
    ∃ l, c.ahead? = some l ∧ l.trimmed = content.trim ∧
      Row.Lays rows (c.skipBlank.advance.rest.map Line.trimmed) ∧ c.skipBlank.advance.Sound := by
  have hsound := h.sound.skipBlank.of_reaches (reaches_advance c.skipBlank)
  have hl := h.layout
  rw [← Cursor.rest_skipBlank] at hl
  have hahead : c.ahead? = c.skipBlank.rest.head? := by rw [ahead?_eq_head?, rest_skipBlank]
  cases hrest : c.skipBlank.rest with
  | nil => rw [hrest] at hl; cases hl
  | cons l ls =>
    have hadvance : c.skipBlank.advance.rest = ls := by simp only [advance, hrest]
    rw [hrest] at hl hahead
    rw [hadvance]
    refine ⟨l, hahead, ?_, ?_, hsound⟩
    · have hhead := congrArg (Option.map Line.trimmed) hahead
      rw [h.ahead?] at hhead
      simpa using hhead.symm
    · generalize htexts : (l :: ls).map Line.trimmed = texts at hl
      cases hl with
      | text hl =>
        obtain ⟨-, rfl⟩ := List.cons.inj htexts
        exact hl

theorem At.atEnd (h : c.At []) : c.atEnd = true := by
  have := h.ahead?
  simpa [Cursor.atEnd] using this

/-- Written rows stand at the start of their text. -/
theorem at_ofText_render (h : Row.OneLine rows) (hs : Row.Solid rows) :
    (ofText (Row.render (Row.consolidate rows))).At rows :=
  at_of_lays (Row.lays_split_render h) (sound_ofText _) hs

/-- Rows that are written with all their blank lines stand there as well. -/
theorem at_ofText_render_all (h : Row.OneLine rows) (hs : Row.Solid rows) :
    (ofText (Row.render rows)).At rows :=
  at_of_lays (Row.lays_split_render_all h) (sound_ofText _) hs

end Cursor

namespace Parser

variable {α β γ ι : Type} {p : Parser α} {q : Parser β} {rows rows' tail : List Row} {Q : α → Prop}

/-- The parser reads the rows back as a value with a property, wherever they stand in front of
`tail`, and goes on with `tail`. -/
def Reads (p : Parser α) (rows tail : List Row) (Q : α → Prop) : Prop :=
  ∀ c : Cursor, c.At (rows ++ tail) → ∃ v n, p c = .ok v n ∧ Q v ∧ n.At tail

/-- The parser reads something in front of the rows. -/
def Starts (p : Parser α) (rows : List Row) : Prop :=
  ∀ c : Cursor, c.At rows → ∃ v n, p c = .ok v n

/-- The parser reads nothing in front of the rows. -/
def Bars (p : Parser α) (rows : List Row) : Prop := ∀ c : Cursor, c.At rows → Refuses p c

namespace Reads

theorem starts (h : Reads p rows tail Q) : Starts p (rows ++ tail) := by
  intro c hc
  obtain ⟨v, n, hv, -, -⟩ := h c hc
  exact ⟨v, n, hv⟩

theorem mono {Q' : α → Prop} (h : Reads p rows tail Q) (hQ : ∀ v, Q v → Q' v) :
    Reads p rows tail Q' := by
  intro c hc
  obtain ⟨v, n, hv, hq, hn⟩ := h c hc
  exact ⟨v, n, hv, hQ v hq, hn⟩

/-! ### Layout -/

theorem blank_left (h : Reads p rows tail Q) : Reads p (.blank :: rows) tail Q := by
  intro c hc
  exact h c (Cursor.at_blank.1 hc)

theorem blank_right (h : Reads p rows (.blank :: tail) Q) : Reads p (rows ++ [.blank]) tail Q := by
  intro c hc
  obtain ⟨v, n, hv, hq, hn⟩ := h c (by simpa using hc)
  exact ⟨v, n, hv, hq, Cursor.at_blank.1 hn⟩

/-- Blanks around lines are not seen. -/
theorem congr (h : Reads p rows tail Q) (hbare : rows.map Row.bare = rows'.map Row.bare) :
    Reads p rows' tail Q := by
  intro c hc
  exact h c (hc.congr (by rw [List.map_append, List.map_append, hbare]))

theorem indent (h : Reads p rows tail Q) : Reads p (Row.indent rows) tail Q :=
  h.congr (Row.map_bare_indent rows).symm

/-! ### Values -/

theorem map {Q' : β → Prop} {f : α → β} (h : Reads p rows tail Q) (hf : ∀ v, Q v → Q' (f v)) :
    Reads (map p f) rows tail Q' := by
  intro c hc
  obtain ⟨v, n, hv, hq, hn⟩ := h c hc
  exact ⟨f v, n, map_eq_ok.2 ⟨v, hv, rfl⟩, hf v hq, hn⟩

theorem check {Q' : β → Prop} {f : α → Except Invalid β} (h : Reads p rows tail Q)
    (hf : ∀ v, Q v → ∃ w, f v = .ok w ∧ Q' w) : Reads (check p f) rows tail Q' := by
  intro c hc
  obtain ⟨v, n, hv, hq, hn⟩ := h c hc
  obtain ⟨w, hw, hq'⟩ := hf v hq
  exact ⟨w, n, check_eq_ok.2 ⟨v, hv, hw⟩, hq', hn⟩

/-- One row, read by a function of its text. -/
theorem line {content : Text} {f : Line → Except Fault α}
    (hf : ∀ l : Line, l.trimmed = content.trim → ∃ v, f l = .ok v ∧ Q v) (hs : Row.Solid tail) :
    Reads (line f) [.text content] tail Q := by
  intro c hc
  obtain ⟨l, hl, htext, hlays, hsound⟩ := hc.line
  obtain ⟨v, hv, hq⟩ := hf l htext
  exact ⟨v, _, line_eq_ok.2 ⟨l, hl, hv, rfl⟩, hq, Cursor.at_of_lays hlays hsound hs⟩

/-! ### Sequence and choice -/

theorem bind {Q' : β → Prop} {f : α → Parser β} (hp : Reads p rows (rows' ++ tail) Q)
    (hf : ∀ v, Q v → Reads (f v) rows' tail Q') : Reads (bind p f) (rows ++ rows') tail Q' := by
  intro c hc
  rw [List.append_assoc] at hc
  obtain ⟨v, m, hv, hqv, hm⟩ := hp c hc
  obtain ⟨w, n, hw, hqw, hn⟩ := hf v hqv m hm
  exact ⟨w, n, bind_eq_ok.2 ⟨v, m, hv, hw⟩, hqw, hn⟩

theorem afterBlank (hp : Reads p rows tail Q) : Reads (afterBlank p) rows tail Q := by
  intro c hc
  obtain ⟨v, n, hv, hqv, hn⟩ := hp c.skipBlank hc.skipBlank
  exact ⟨v, n, afterBlank_eq_ok.2 hv, hqv, hn⟩

theorem both {Q' : β → Prop} (hp : Reads p rows (rows' ++ tail) Q) (hq : Reads q rows' tail Q') :
    Reads (both p q) (rows ++ rows') tail fun v => Q v.1 ∧ Q' v.2 :=
  (hp.bind fun _ hv => hq.map fun _ hw => ⟨hv, hw⟩).afterBlank

theorem first {Q' : β → Prop} (hp : Reads p rows (rows' ++ tail) Q) (hq : Reads q rows' tail Q') :
    Reads (first p q) (rows ++ rows') tail Q :=
  (hp.bind fun _ hv => hq.map fun _ _ => hv).afterBlank

theorem second {Q' : β → Prop} (hp : Reads p rows (rows' ++ tail) Q) (hq : Reads q rows' tail Q') :
    Reads (second p q) (rows ++ rows') tail Q' :=
  (hp.bind fun _ _ => hq).afterBlank

theorem orElse_left {q : Parser α} (hp : Reads p rows tail Q) : Reads (orElse p q) rows tail Q := by
  intro c hc
  obtain ⟨v, n, hv, hqv, hn⟩ := hp c.skipBlank hc.skipBlank
  exact ⟨v, n, orElse_eq_ok.2 (.inl hv), hqv, hn⟩

theorem orElse_right {q : Parser α} (hp : Bars p (rows ++ tail)) (hq : Reads q rows tail Q) :
    Reads (orElse p q) rows tail Q := by
  intro c hc
  obtain ⟨v, n, hv, hqv, hn⟩ := hq c.skipBlank hc.skipBlank
  exact ⟨v, n, orElse_eq_ok.2 (.inr ⟨hp _ hc.skipBlank, hv⟩), hqv, hn⟩

/-! ### Lookahead -/

theorem whenAhead_some {test : Line → Bool} {t : Text} (hp : Reads p rows tail Q)
    (hahead : Row.ahead? (rows ++ tail) = some t)
    (htest : ∀ l : Line, l.trimmed = t → test l = true) :
    Reads (whenAhead test p) rows tail fun v => ∃ a, v = some a ∧ Q a := by
  intro c hc
  obtain ⟨v, n, hv, hqv, hn⟩ := hp c hc
  have hl := hc.ahead?
  rw [hahead] at hl
  obtain ⟨l, hl, htext⟩ := Option.map_eq_some_iff.1 hl
  refine ⟨some v, n, whenAhead_eq_ok.2 (.inl ⟨?_, v, hv, rfl⟩), ⟨v, rfl, hqv⟩, hn⟩
  simp [hl, htest l htext]

theorem whenAhead_none {test : Line → Bool}
    (htest : ∀ l : Line, Row.ahead? tail = some l.trimmed → test l = false) :
    Reads (whenAhead test p) [] tail (· = none) := by
  intro c hc
  refine ⟨none, c, whenAhead_eq_ok.2 (.inr ⟨?_, rfl, rfl⟩), rfl, hc⟩
  cases hl : c.ahead? with
  | none => rfl
  | some l =>
    have hahead := hc.ahead?
    rw [hl] at hahead
    simpa using htest l hahead.symm

/-! ### Repetition -/

/-- **A repetition reads the rows of its elements**, if each of them is read back in front of the
next ones, where the terminator refuses, and the terminator succeeds behind the last one. -/
theorem run {element : Parser α} {stop : Parser β} {R : ι → α → Prop}
    {print : ι → List Row} {items : List ι} (hconsuming : Consuming element)
    (helement : ∀ i next, i :: next <:+ items →
      Reads element (print i) (next.flatMap print ++ tail) (R i))
    (hgoes : ∀ i next, i :: next <:+ items → Bars stop (print i ++ (next.flatMap print ++ tail)))
    (hstop : Starts stop tail) {c : Cursor} (hc : c.At (items.flatMap print ++ tail)) :
    ∃ vs n, Run element stop c vs n ∧ List.Forall₂ R items vs ∧ n.At tail := by
  -- by induction on the items, with the cursor where the elements before them end
  induction items generalizing c with
  | nil =>
    obtain ⟨v, n, hv⟩ := hstop c hc
    exact ⟨[], c, .stop hv, .nil, hc⟩
  | cons i items ih =>
    rw [List.flatMap_cons, List.append_assoc] at hc
    obtain ⟨v, m, hv, hread, hm⟩ := helement i items (List.suffix_refl _) c hc
    obtain ⟨vs, n, hrun, hreads, hn⟩ :=
      ih (fun j next h => helement j next (h.trans (List.suffix_cons _ _)))
        (fun j next h => hgoes j next (h.trans (List.suffix_cons _ _))) hm
    exact ⟨v :: vs, n, .step (hgoes i items (List.suffix_refl _) c hc) hv
      (hconsuming.length_lt hv) hrun, .cons hread hreads, hn⟩

end Reads

/-! ## Lookahead in front of rows -/

theorem Starts.map {f : α → β} (h : Starts p rows) : Starts (map p f) rows := by
  intro c hc
  obtain ⟨v, n, hv⟩ := h c hc
  exact ⟨f v, n, map_eq_ok.2 ⟨v, hv, rfl⟩⟩

theorem Starts.both (hp : Reads p rows tail Q) (hq : Starts q tail) :
    Starts (both p q) (rows ++ tail) := by
  intro c hc
  obtain ⟨v, m, hv, -, hm⟩ := hp c.skipBlank hc.skipBlank
  obtain ⟨w, n, hw⟩ := hq m hm
  exact ⟨(v, w), n, both_eq_ok.2 ⟨m, hv, hw⟩⟩

theorem Bars.blank (h : Bars p rows) : Bars p (.blank :: rows) := by
  intro c hc
  exact h c (Cursor.at_blank.1 hc)

theorem Bars.map {f : α → β} (h : Bars p rows) : Bars (map p f) rows := by
  intro c hc v n hv
  obtain ⟨a, ha, -⟩ := map_eq_ok.1 hv
  exact h c hc a n ha

theorem Bars.check {f : α → Except Invalid β} (h : Bars p rows) : Bars (check p f) rows := by
  intro c hc v n hv
  obtain ⟨a, ha, -⟩ := check_eq_ok.1 hv
  exact h c hc a n ha

/-- A check that finds every value invalid reads nothing. -/
theorem Bars.of_check {f : α → Except Invalid β} (h : Reads p rows tail Q)
    (hf : ∀ v w, Q v → f v ≠ .ok w) : Bars (Parser.check p f) (rows ++ tail) := by
  intro c hc w n hw
  obtain ⟨v, hv, hfv⟩ := check_eq_ok.1 hw
  obtain ⟨v', n', hv', hq, -⟩ := h c hc
  rw [hv] at hv'
  cases hv'
  exact hf v w hq hfv

theorem Bars.both_left (h : Bars p rows) : Bars (Parser.both p q) rows := by
  intro c hc v n hv
  obtain ⟨m, hm, -⟩ := both_eq_ok.1 hv
  exact h c.skipBlank hc.skipBlank _ _ hm

theorem Bars.first_left (h : Bars p rows) : Bars (Parser.first p q) rows := by
  intro c hc v n hv
  obtain ⟨m, w, hm, -⟩ := first_eq_ok.1 hv
  exact h c.skipBlank hc.skipBlank _ _ hm

theorem Bars.both_right (hp : Reads p rows tail Q) (hq : Bars q tail) :
    Bars (Parser.both p q) (rows ++ tail) := by
  intro c hc v n hv
  obtain ⟨m, hm, hn⟩ := both_eq_ok.1 hv
  obtain ⟨a, m', ha, -, hm'⟩ := hp c.skipBlank hc.skipBlank
  rw [hm] at ha
  cases ha
  exact hq m hm' _ _ hn

/-- A line is refused if its text is. -/
theorem Bars.line {f : Line → Except Fault α}
    (hf : ∀ (l : Line) (v : α), Row.ahead? rows = some l.trimmed → f l ≠ .ok v) :
    Bars (line f) rows := by
  intro c hc v n hv
  obtain ⟨l, hl, hread, -⟩ := line_eq_ok.1 hv
  have hahead := hc.ahead?
  rw [hl] at hahead
  exact hf l v hahead.symm hread

/-- A repetition goes on in front of an element that starts as it should. -/
theorem Bars.unless {element : Parser α} {starts : Parser β} (hconsuming : Consuming element)
    (helement : Starts element rows) (hstarts : Starts starts rows) :
    Bars (orElse finish (absent starts)) rows := by
  intro c hc
  rw [refuses_unless]
  obtain ⟨v, n, hv⟩ := helement c hc
  exact ⟨hconsuming.not_atEnd hv, hstarts c.skipBlank hc.skipBlank⟩

/-- A repetition ends in front of what it does not start with. -/
theorem Starts.unless {starts : Parser β} (h : Bars starts tail) :
    Starts (orElse finish (absent starts)) tail := by
  intro c hc
  rw [← not_refuses_iff, refuses_unless]
  rintro ⟨-, v, n, hv⟩
  exact h c.skipBlank hc.skipBlank v n hv

/-! ## Repetition with lookahead -/

section While

variable {element : Parser α} {starts : Parser β} {view : α → γ} {value : ι → γ}
  {print : ι → List Row} {items : List ι}

-- every element is read back and starts as it should in front of the next ones, and none starts
-- behind the last one
variable (hconsuming : Consuming element)
  (helement : ∀ i next, i :: next <:+ items →
    Reads element (print i) (next.flatMap print ++ tail) (view · = value i))
  (hstarts : ∀ i next, i :: next <:+ items →
    Starts starts (print i ++ (next.flatMap print ++ tail)))
  (hend : Bars starts tail)

include hconsuming helement hstarts hend

/-- What a repetition with lookahead reads, as a run. -/
theorem Reads.runWhile {c : Cursor} (hc : c.At (items.flatMap print ++ tail)) :
    ∃ vs n, Run element (orElse finish (absent starts)) c vs n ∧
      vs.map view = items.map value ∧ n.At tail := by
  obtain ⟨vs, n, hrun, hreads, hn⟩ := Reads.run hconsuming helement
    (fun i next h => .unless hconsuming (helement i next h).starts (hstarts i next h))
    (.unless hend) hc
  refine ⟨vs, n, hrun, ?_, hn⟩
  rw [← List.forall₂_eq_eq_eq, List.forall₂_map_left_iff, List.forall₂_map_right_iff]
  exact List.Forall₂.flip hreads

theorem Reads.manyWhile :
    Reads (manyWhile element starts) (items.flatMap print) tail
      fun vs => vs.map view = items.map value := by
  intro c hc
  obtain ⟨vs, n, hrun, hview, hn⟩ := runWhile hconsuming helement hstarts hend hc.skipBlank
  exact ⟨vs, n, many_eq_ok.2 hrun, hview, hn⟩

theorem Reads.severalWhile (name : String) (hne : items ≠ []) :
    Reads (severalWhile name element starts) (items.flatMap print) tail
      fun vs => vs.toList.map view = items.map value := by
  intro c hc
  obtain ⟨vs, n, hrun, hview, hn⟩ := runWhile hconsuming helement hstarts hend hc.skipBlank
  match vs, hview with
  | [], hview => exact absurd (by simpa using hview.symm) hne
  | v :: vs, hview => exact ⟨⟨v, vs⟩, n, several_eq_ok.2 hrun, hview, hn⟩

end While

end Parser

end PlainSpec
