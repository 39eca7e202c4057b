import PlainSpec.Proofs.Parser.Outcome

/-!
# The discipline of the cursor

Backtracking is sound because a parser commits its cursor only when it succeeds.  A disciplined
parser that refuses replies with the place where it started, and one that reads a value replies with
a place further on in the same source.  Every combinator keeps the discipline, so a parser that is
put together from disciplined ones has it.

A parser that consumes reads at least one line that is not blank whenever it succeeds.  Repetitions
of such a parser never end for want of progress.

## Main definitions

* `Cursor.after`: the place after a number of lines of a source.
* `Cursor.Reaches`: a place further on in the same source.
* `Parser.Disciplined`, `Parser.Consuming`: the two properties of parsers.

## Main results

* `Parser.Disciplined.both`, `Parser.Disciplined.many`, …: combinators keep the discipline.
* `Parser.Consuming.line`, `Parser.Consuming.both_left`, …: what consumes.
* `Cursor.reaches_after`: the places further on, as numbers of lines.
-/

namespace PlainSpec

/-- Not all lines are skipped if one of them is not blank. -/
theorem Line.dropWhile_isBlank_ne_nil {lines : List Line} {l : Line} (hl : l ∈ lines)
    (hblank : l.isBlank = false) : lines.dropWhile Line.isBlank ≠ [] := by
  intro hnil
  have htake := List.takeWhile_append_dropWhile (p := Line.isBlank) (l := lines)
  rw [hnil, List.append_nil] at htake
  rw [← htake] at hl
  have := List.all_eq_true.1 List.all_takeWhile l hl
  simp [hblank] at this

namespace Cursor

/-! ## Places of a source -/

/-- The place after the first lines of a source. -/
def after (lines : List Line) (position : Nat) : Cursor :=
  ⟨(lines.take position).reverse, lines.drop position⟩

@[simp] theorem lines_after (lines : List Line) (position : Nat) :
    (after lines position).lines = lines := by
  simp [after, Cursor.lines]

/-- The place `n` is `c`, or further on in the same source. -/
def Reaches (c n : Cursor) : Prop :=
  ∃ between, c.rest = between ++ n.rest ∧ n.passed = between.reverse ++ c.passed

namespace Reaches

variable {c m n : Cursor}

theorem refl (c : Cursor) : c.Reaches c := ⟨[], by simp⟩

theorem trans (h₁ : c.Reaches m) (h₂ : m.Reaches n) : c.Reaches n := by
  obtain ⟨ls, hr, hp⟩ := h₁
  obtain ⟨ms, hr', hp'⟩ := h₂
  exact ⟨ls ++ ms, by simp [hr, hr'], by simp [hp, hp']⟩

theorem suffix (h : c.Reaches n) : n.rest <:+ c.rest := by
  obtain ⟨ls, hr, -⟩ := h
  exact ⟨ls, hr.symm⟩

end Reaches

theorem reaches_skipBlank_go (passed rest : List Line) :
    Reaches ⟨passed, rest⟩ (skipBlank.go passed rest) := by
  induction rest generalizing passed with
  | nil => exact .refl _
  | cons line rest ih =>
    unfold skipBlank.go
    split
    · exact Reaches.trans ⟨[line], by simp⟩ (ih (line :: passed))
    · exact .refl _

theorem reaches_skipBlank (c : Cursor) : c.Reaches c.skipBlank :=
  reaches_skipBlank_go c.passed c.rest

theorem reaches_advance (c : Cursor) : c.Reaches c.advance := by
  unfold advance
  split
  · exact .refl _
  · rename_i line rest h
    exact ⟨[line], by simp [h]⟩

/-- **The places further on are the places after more lines.** -/
theorem reaches_after {lines : List Line} {p : Nat} {n : Cursor} (hp : p ≤ lines.length)
    (h : (after lines p).Reaches n) : ∃ q, p ≤ q ∧ q ≤ lines.length ∧ n = after lines q := by
  obtain ⟨between, hr, hn⟩ := h
  have hdrop : lines.drop p = between ++ n.rest := hr
  have hlen : lines.length - p = between.length + n.rest.length := by
    rw [← List.length_drop, hdrop, List.length_append]
  have htake : lines.take (p + between.length) = lines.take p ++ between := by
    rw [List.take_add, hdrop, List.take_left]
  have hrest : lines.drop (p + between.length) = n.rest := by
    rw [← List.drop_drop, hdrop, List.drop_left]
  refine ⟨p + between.length, by omega, by omega, ?_⟩
  obtain ⟨passed, rest⟩ := n
  simp_all [after]

end Cursor

/-! ## The discipline -/

/-- A reply that keeps the discipline of the cursor at the place `c`. -/
def Reply.Disciplined {α : Type} (c : Cursor) : Reply α → Prop
  | .ok _ n => c.Reaches n
  | .fail _ n => n = c

namespace Parser

variable {α β γ : Type}

/-- A parser that moves the cursor only on success, and only forwards. -/
def Disciplined (p : Parser α) : Prop := ∀ c, (p c).Disciplined c

theorem Disciplined.reaches {p : Parser α} (hp : Disciplined p) {c n : Cursor} {v : α}
    (h : p c = .ok v n) : c.Reaches n := by
  have := hp c
  rwa [h] at this

/-- What is to be shown of a parser: that values are read further on, and that refusals go back. -/
theorem Disciplined.of_replies {p : Parser α} (ok : ∀ c v n, p c = .ok v n → c.Reaches n)
    (fail : ∀ c e n, p c = .fail e n → n = c) : Disciplined p := by
  intro c
  cases h : p c with
  | ok v n => exact ok c v n h
  | fail e n => exact fail c e n h

namespace Disciplined

theorem line (f : Line → Except Fault α) : Disciplined (line f) := by
  intro c
  unfold Parser.line
  split
  · rfl
  · split
    · exact c.reaches_skipBlank.trans c.skipBlank.reaches_advance
    · rfl

theorem peek (f : Line → Except Fault α) : Disciplined (peek f) := by
  intro c
  unfold Parser.peek
  split
  · rfl
  · split
    · exact c.reaches_skipBlank
    · rfl

theorem finish : Disciplined finish := by
  intro c
  unfold Parser.finish
  split
  · exact c.reaches_skipBlank
  · rfl

theorem map {p : Parser α} (hp : Disciplined p) (f : α → β) : Disciplined (map p f) := by
  intro c
  have h := hp c
  unfold Parser.map
  cases hc : p c <;> rw [hc] at h <;> exact h

theorem check {p : Parser α} (hp : Disciplined p) (f : α → Except Invalid β) :
    Disciplined (check p f) := by
  intro c
  unfold Parser.check
  split
  · rfl
  · rename_i hc
    split
    · exact hp.reaches hc
    · rfl

theorem bind {p : Parser α} {f : α → Parser β} (hp : Disciplined p) (hf : ∀ a, Disciplined (f a)) :
    Disciplined (bind p f) := by
  intro c
  unfold Parser.bind
  split
  · rfl
  · rename_i a m hc
    cases hm : f a m with
    | fail e n => rfl
    | ok v n => exact (hp.reaches hc).trans ((hf a).reaches hm)

theorem afterBlank {p : Parser α} (hp : Disciplined p) : Disciplined (afterBlank p) := by
  intro c
  unfold Parser.afterBlank
  cases hc : p c.skipBlank with
  | fail e n => rfl
  | ok v n => exact c.reaches_skipBlank.trans (hp.reaches hc)

theorem both {p : Parser α} {q : Parser β} (hp : Disciplined p) (hq : Disciplined q) :
    Disciplined (both p q) :=
  (hp.bind fun _ => hq.map _).afterBlank

theorem first {p : Parser α} {q : Parser β} (hp : Disciplined p) (hq : Disciplined q) :
    Disciplined (first p q) :=
  (hp.bind fun _ => hq.map _).afterBlank

theorem second {p : Parser α} {q : Parser β} (hp : Disciplined p) (hq : Disciplined q) :
    Disciplined (second p q) :=
  (hp.bind fun _ => hq).afterBlank

theorem orElse {p q : Parser α} (hp : Disciplined p) (hq : Disciplined q) :
    Disciplined (orElse p q) := by
  intro c
  unfold Parser.orElse
  split
  · rename_i hc
    exact c.reaches_skipBlank.trans (hp.reaches hc)
  · split
    · rename_i hc
      exact c.reaches_skipBlank.trans (hq.reaches hc)
    · rfl

/-- Lookahead keeps the discipline whatever it looks for. -/
theorem absent (p : Parser α) : Disciplined (absent p) := by
  intro c
  unfold Parser.absent
  split
  · rfl
  · exact .refl c

theorem optional {p : Parser α} (hp : Disciplined p) : Disciplined (optional p) := by
  intro c
  unfold Parser.optional
  split
  · rename_i hc
    exact hp.reaches hc
  · exact .refl c

theorem whenAhead {p : Parser α} (hp : Disciplined p) (test : Line → Bool) :
    Disciplined (whenAhead test p) := by
  intro c
  unfold Parser.whenAhead
  split
  · exact hp.map some c
  · exact .refl c

/-! ### Repetition -/

theorem run_reaches {element : Parser α} {stop : Parser β} (he : Disciplined element) {c n : Cursor}
    {vs : List α} (h : Run element stop c vs n) : c.Reaches n := by
  induction h with
  | stop => exact .refl _
  | step _ hv _ _ ih => exact (he.reaches hv).trans ih
  | stuck _ hv _ => exact he.reaches hv

theorem manyFrom {element : Parser α} (he : Disciplined element) (stop : Parser β) :
    Disciplined (manyFrom element stop) :=
  of_replies (fun _ _ _ h => he.run_reaches (manyFrom_eq_ok.1 h)) fun _ _ _ h =>
    (manyFrom_eq_fail.1 h).1

/-- The terminator is lookahead, so the discipline of the element is enough. -/
theorem many {element : Parser α} (he : Disciplined element) (stop : Parser β) :
    Disciplined (many element stop) :=
  (he.manyFrom stop).afterBlank

theorem several {element : Parser α} (he : Disciplined element) (name : String) (stop : Parser β) :
    Disciplined (several name element stop) := by
  intro c
  unfold Parser.several
  split
  · rfl
  · rename_i hc
    split
    · exact (he.many stop).reaches hc
    · rfl

theorem manyWhile {element : Parser α} (he : Disciplined element) (starts : Parser β) :
    Disciplined (manyWhile element starts) := he.many _

theorem severalWhile {element : Parser α} (he : Disciplined element) (name : String)
    (starts : Parser β) : Disciplined (severalWhile name element starts) := he.several name _

end Disciplined

/-! ## Consuming parsers -/

/-- A parser that reads a line that is not blank whenever it succeeds. -/
def Consuming (p : Parser α) : Prop :=
  ∀ c v n, p c = .ok v n → ∃ between, c.rest = between ++ n.rest ∧ ∃ l ∈ between, l.isBlank = false

namespace Consuming

/-- **A consuming parser makes progress.** -/
theorem length_lt {p : Parser α} (hp : Consuming p) {c n : Cursor} {v : α} (h : p c = .ok v n) :
    n.rest.length < c.rest.length := by
  obtain ⟨between, hr, l, hl, -⟩ := hp c v n h
  have := List.length_pos_of_mem hl
  rw [hr, List.length_append]
  omega

/-- Where something is read there is something to read. -/
theorem not_atEnd {p : Parser α} (hp : Consuming p) {c n : Cursor} {v : α} (h : p c = .ok v n) :
    c.atEnd = false := by
  obtain ⟨between, hrest, l, hl, hblank⟩ := hp c v n h
  have hmem : l ∈ c.rest := by rw [hrest]; exact List.mem_append_left _ hl
  rw [← Bool.not_eq_true, Cursor.atEnd_iff]
  exact Line.dropWhile_isBlank_ne_nil hmem hblank

theorem line (f : Line → Except Fault α) : Consuming (line f) := by
  intro c v n h
  obtain ⟨l, hl, -, rfl⟩ := line_eq_ok.1 h
  rw [Cursor.ahead?_eq_head?] at hl
  obtain ⟨rest, hrest⟩ := List.head?_eq_some_iff.1 hl
  have hadv : c.skipBlank.advance.rest = rest := by
    simp [Cursor.advance, hrest]
  refine ⟨c.rest.takeWhile Line.isBlank ++ [l], ?_, l, by simp, ?_⟩
  · rw [hadv, List.append_assoc, List.singleton_append, ← hrest, List.takeWhile_append_dropWhile]
  · simpa [hrest] using List.head?_dropWhile_not Line.isBlank c.rest

/-- Reading further on after a consuming parser. -/
theorem of_reaches {c m n : Cursor}
    (h : ∃ between, c.rest = between ++ m.rest ∧ ∃ l ∈ between, l.isBlank = false)
    (hr : m.Reaches n) :
    ∃ between, c.rest = between ++ n.rest ∧ ∃ l ∈ between, l.isBlank = false := by
  obtain ⟨between, hb, l, hl, hn⟩ := h
  obtain ⟨more, hm, -⟩ := hr
  exact ⟨between ++ more, by simp [hb, hm], l, by simp [hl], hn⟩

/-- Reading further on before a consuming parser. -/
theorem of_reached {c m n : Cursor} (hr : c.Reaches m)
    (h : ∃ between, m.rest = between ++ n.rest ∧ ∃ l ∈ between, l.isBlank = false) :
    ∃ between, c.rest = between ++ n.rest ∧ ∃ l ∈ between, l.isBlank = false := by
  obtain ⟨between, hb, l, hl, hn⟩ := h
  obtain ⟨more, hm, -⟩ := hr
  exact ⟨more ++ between, by simp [hb, hm], l, by simp [hl], hn⟩

theorem map {p : Parser α} (hp : Consuming p) (f : α → β) : Consuming (map p f) := by
  intro c v n h
  obtain ⟨a, ha, -⟩ := map_eq_ok.1 h
  exact hp c a n ha

theorem check {p : Parser α} (hp : Consuming p) (f : α → Except Invalid β) :
    Consuming (check p f) := by
  intro c v n h
  obtain ⟨a, ha, -⟩ := check_eq_ok.1 h
  exact hp c a n ha

theorem both_left {p : Parser α} {q : Parser β} (hp : Consuming p) (hq : Disciplined q) :
    Consuming (both p q) := by
  intro c v n h
  obtain ⟨m, hm, hn⟩ := both_eq_ok.1 h
  exact of_reached c.reaches_skipBlank (of_reaches (hp _ _ _ hm) (hq.reaches hn))

theorem both_right {p : Parser α} {q : Parser β} (hp : Disciplined p) (hq : Consuming q) :
    Consuming (both p q) := by
  intro c v n h
  obtain ⟨m, hm, hn⟩ := both_eq_ok.1 h
  exact of_reached (c.reaches_skipBlank.trans (hp.reaches hm)) (hq _ _ _ hn)

theorem first_left {p : Parser α} {q : Parser β} (hp : Consuming p) (hq : Disciplined q) :
    Consuming (first p q) := by
  intro c v n h
  obtain ⟨m, b, hm, hn⟩ := first_eq_ok.1 h
  exact of_reached c.reaches_skipBlank (of_reaches (hp _ _ _ hm) (hq.reaches hn))

theorem bind_left {p : Parser α} {f : α → Parser β} (hp : Consuming p)
    (hf : ∀ a, Disciplined (f a)) : Consuming (bind p f) := by
  intro c v n h
  obtain ⟨a, m, hm, hn⟩ := bind_eq_ok.1 h
  exact of_reaches (hp _ _ _ hm) ((hf a).reaches hn)

theorem orElse {p q : Parser α} (hp : Consuming p) (hq : Consuming q) : Consuming (orElse p q) := by
  intro c v n h
  rcases orElse_eq_ok.1 h with hc | ⟨-, hc⟩
  · exact of_reached c.reaches_skipBlank (hp _ _ _ hc)
  · exact of_reached c.reaches_skipBlank (hq _ _ _ hc)

end Consuming

end Parser

end PlainSpec
