import PlainSpec.Proofs.Parser.Discipline

/-!
# The lines that refusals name

A refusal is of use only if its line can be looked at.  A line can be reported if it is not blank,
or if it is the last one, which stands for the end of the source.  Where a parser starts to read,
the next line that is not blank can be reported, and the last line if there is none; all other lines
come out of values that were read before.  So refusals name such lines if the lines that values
remember are such lines, and that is a property that the combinators keep.

## Main definitions

* `Line.Reportable`: the number of a line that can be reported.
* `Cursor.In`: a place in a source.
* `Parser.Reports`: refusals name lines that can be reported, and values have a property.

## Main results

* `Cursor.In.lineNumber`: the line of a place can be reported.
* `Parser.Reports.both`, `Parser.Reports.orElse`, …: the combinators report such lines if their
  parts do.
* `Parser.Reports.check`: so does a check, if the faults that it finds are on such lines.
-/

namespace PlainSpec

/-- The number of a line that can be reported: it is not blank, or it is the last one. -/
def Line.Reportable (lines : List Line) (n : Nat) : Prop :=
  ∃ l ∈ lines, l.number = n ∧ (l.isBlank = false ∨ lines.getLast? = some l)

/-- The fault has no line of its own, or one that can be reported. -/
def Invalid.Reportable (lines : List Line) (invalid : Invalid) : Prop :=
  ∀ n, invalid.line? = some n → Line.Reportable lines n

namespace Invalid

variable {lines : List Line} {fault : Fault}

theorem reportable_whole : (whole fault).Reportable lines := nofun

theorem reportable_onLine {n : Nat} (h : Line.Reportable lines n) :
    (onLine n fault).Reportable lines := by
  rintro _ ⟨⟩
  exact h

/-- Of two faults the first one that is there. -/
theorem reportable_of_or {a b : Option Invalid} {invalid : Invalid} (h : a.or b = some invalid)
    (ha : a = some invalid → invalid.Reportable lines)
    (hb : b = some invalid → invalid.Reportable lines) : invalid.Reportable lines := by
  rcases Option.or_eq_some_iff.1 h with h | ⟨-, h⟩
  · exact ha h
  · exact hb h

end Invalid

/-! ## Places in a source -/

/-- A place in a source with these lines, of which there is at least one. -/
structure Cursor.In (lines : List Line) (c : Cursor) : Prop where
  lines_eq : c.lines = lines
  nonempty : lines ≠ []

namespace Cursor

theorem Reaches.lines_eq {c n : Cursor} (h : c.Reaches n) : n.lines = c.lines := by
  obtain ⟨between, hrest, hpassed⟩ := h
  simp [lines, hrest, hpassed]

namespace In

variable {lines : List Line} {c n : Cursor}

theorem of_reaches (h : c.In lines) (hr : c.Reaches n) : n.In lines :=
  ⟨hr.lines_eq.trans h.lines_eq, h.nonempty⟩

theorem skipBlank (h : c.In lines) : c.skipBlank.In lines := h.of_reaches (reaches_skipBlank c)

/-- The next line that is not blank can be reported. -/
theorem ahead (h : c.In lines) {l : Line} (hl : c.ahead? = some l) :
    Line.Reportable lines l.number := by
  have hfirst : (c.rest.dropWhile Line.isBlank).head? = some l := by rw [← ahead?_eq_head?, hl]
  refine ⟨l, ?_, rfl, .inl ?_⟩
  · rw [← h.lines_eq]
    exact List.mem_append_right _ ((List.dropWhile_subset _) (List.mem_of_mem_head? hfirst))
  · have hblank := List.head?_dropWhile_not Line.isBlank c.rest
    rw [hfirst] at hblank
    simpa using hblank

/-- The last line can be reported. -/
theorem last (h : c.In lines) :
    Line.Reportable lines ((c.lines.getLast?.map Line.number).getD 0) := by
  rw [h.lines_eq, List.getLast?_eq_some_getLast h.nonempty]
  exact ⟨_, List.getLast_mem h.nonempty, rfl, .inr (List.getLast?_eq_some_getLast h.nonempty)⟩

/-- **The line of a place can be reported.** -/
theorem lineNumber (h : c.In lines) : Line.Reportable lines c.lineNumber := by
  unfold Cursor.lineNumber
  split
  · rename_i l hl
    exact h.ahead hl
  · exact h.last

end In

end Cursor

/-! ## Replies -/

/-- A value with a property and a place in the source, or a refusal on a line that can be
reported. -/
def Reply.Reports {α : Type} (lines : List Line) (P : α → Prop) : Reply α → Prop
  | .ok v n => P v ∧ n.In lines
  | .fail e _ => Line.Reportable lines e.line

namespace Reply.Reports

variable {α β : Type} {lines : List Line} {P : α → Prop} {Q : β → Prop} {r : Reply α}

theorem orBackTo (h : r.Reports lines P) (origin : Cursor) :
    (r.orBackTo origin).Reports lines P := by
  cases r <;> exact h

theorem map {f : α → β} (h : r.Reports lines P) (hf : ∀ v, P v → Q (f v)) :
    (r.map f).Reports lines Q := by
  cases r with
  | ok v n => exact ⟨hf v h.1, h.2⟩
  | fail e n => exact h

end Reply.Reports

/-! ## Combinators -/

namespace Parser

variable {α β : Type} {lines : List Line} {p : Parser α} {q : Parser β}
    {P : α → Prop} {Q : β → Prop}

/-- In a source with these lines, refusals name lines that can be reported, and values have a
property. -/
def Reports (lines : List Line) (p : Parser α) (P : α → Prop) : Prop :=
  ∀ c, c.In lines → (p c).Reports lines P

namespace Reports

/-- Whatever is made of a value, a refusal is passed on. -/
theorem result (h : Reports lines p P) {c : Cursor} (hc : c.In lines) {f : α → β} {e : ParseError}
    (he : (p c).result.map f = .error e) : Line.Reportable lines e.line := by
  have hp := h c hc
  cases hr : p c with
  | ok v n =>
    rw [hr] at he
    cases he
  | fail e' n =>
    rw [hr] at he hp
    cases he
    exact hp

/-- Where the values do not matter. -/
theorem any (h : Reports lines p P) : Reports lines p fun _ => True := by
  intro c hc
  have hp := h c hc
  cases hr : p c with
  | ok v n =>
    rw [hr] at hp
    exact ⟨trivial, hp.2⟩
  | fail e n =>
    rw [hr] at hp
    exact hp

theorem line {f : Line → Except Fault α}
    (hf : ∀ l v, Line.Reportable lines l.number → f l = .ok v → P v) :
    Reports lines (line f) P := by
  intro c hc
  unfold Parser.line
  split
  · exact hc.lineNumber
  · rename_i l hl
    split
    · rename_i v hv
      exact ⟨hf l v (hc.ahead hl) hv, hc.skipBlank.of_reaches (Cursor.reaches_advance _)⟩
    · exact hc.ahead hl

theorem line_any (f : Line → Except Fault α) : Reports lines (Parser.line f) fun _ => True :=
  .line fun _ _ _ _ => trivial

theorem finish : Reports lines finish fun _ => True := by
  intro c hc
  unfold Parser.finish
  split
  · exact ⟨trivial, hc.skipBlank⟩
  · exact hc.lineNumber

theorem map {f : α → β} (h : Reports lines p P) (hf : ∀ v, P v → Q (f v)) :
    Reports lines (map p f) Q := fun c hc => (h c hc).map hf

/-- **A check reports lines that can be reported** if the faults that it finds are on such lines. -/
theorem check {f : α → Except Invalid β} (h : Reports lines p P)
    (hok : ∀ v w, P v → f v = .ok w → Q w)
    (herror : ∀ v invalid, P v → f v = .error invalid → invalid.Reportable lines) :
    Reports lines (check p f) Q := by
  intro c hc
  have hp := h c hc
  unfold Parser.check
  split
  · rename_i e n hfail
    rwa [hfail] at hp
  · rename_i v n hv
    rw [hv] at hp
    split
    · rename_i w hw
      exact ⟨hok v w hp.1 hw, hp.2⟩
    · rename_i invalid hinvalid
      cases hline : invalid.line? with
      | none => exact hc.lineNumber
      | some n => exact herror v invalid hp.1 hinvalid n hline

theorem bind {f : α → Parser β} (hp : Reports lines p P) (hf : ∀ v, P v → Reports lines (f v) Q) :
    Reports lines (bind p f) Q := by
  intro c hc
  have h := hp c hc
  unfold Parser.bind
  split
  · rename_i e n hfail
    rwa [hfail] at h
  · rename_i v n hv
    rw [hv] at h
    exact (hf v h.1 n h.2).orBackTo c

theorem afterBlank (h : Reports lines p P) : Reports lines (afterBlank p) P :=
  fun c hc => (h c.skipBlank hc.skipBlank).orBackTo c

theorem both (hp : Reports lines p P) (hq : Reports lines q Q) :
    Reports lines (both p q) fun v => P v.1 ∧ Q v.2 :=
  (hp.bind fun _ ha => hq.map fun _ hb => ⟨ha, hb⟩).afterBlank

theorem first (hp : Reports lines p P) (hq : Reports lines q Q) : Reports lines (first p q) P :=
  (hp.bind fun _ ha => hq.map fun _ _ => ha).afterBlank

theorem second (hp : Reports lines p P) (hq : Reports lines q Q) : Reports lines (second p q) Q :=
  (hp.bind fun _ _ => hq).afterBlank

/-- Of two refusals one is reported, so it does not matter which. -/
theorem orElse {q : Parser α} (hp : Reports lines p P) (hq : Reports lines q P) :
    Reports lines (orElse p q) P := by
  intro c hc
  have hp := hp c.skipBlank hc.skipBlank
  have hq := hq c.skipBlank hc.skipBlank
  unfold Parser.orElse
  split
  · rename_i hv
    rwa [hv] at hp
  · rename_i earlier n hfail
    rw [hfail] at hp
    split
    · rename_i hv
      rwa [hv] at hq
    · rename_i later m hlater
      rw [hlater] at hq
      show Line.Reportable lines (earlier.deepest later).line
      unfold ParseError.deepest
      split
      · exact hp
      · exact hq

theorem whenAhead {test : Line → Bool} (hp : Reports lines p P) :
    Reports lines (whenAhead test p) fun v => ∀ a, v = some a → P a := by
  intro c hc
  unfold Parser.whenAhead
  split
  · refine (hp c hc).map fun v hv a ha => ?_
    cases ha
    exact hv
  · exact ⟨nofun, hc⟩

/-! ## Repetition -/

/-- **A repetition refuses where an element refuses.**  What its terminator refuses is never
reported. -/
theorem manyFrom {stop : Parser β} (he : Reports lines p P) :
    Reports lines (manyFrom p stop) fun vs => ∀ v ∈ vs, P v := by
  intro c hc
  -- by the recursion of the loop: it stops, fails, goes on, or is stuck
  fun_induction Parser.manyFrom p stop c with
  | case1 c v m hs => exact ⟨by simp, hc⟩
  | case2 c e m hs error n hfail =>
    have h := he c hc
    rwa [hfail] at h
  | case3 c e m hs value next hvalue hlt ih =>
    have h := he c hc
    rw [hvalue] at h
    exact ((ih h.2).map fun vs hvs => List.forall_mem_cons.2 ⟨h.1, hvs⟩).orBackTo c
  | case4 c e m hs value next hvalue hge =>
    have h := he c hc
    rw [hvalue] at h
    exact ⟨by simpa using h.1, h.2⟩

theorem many {stop : Parser β} (he : Reports lines p P) :
    Reports lines (many p stop) fun vs => ∀ v ∈ vs, P v := (he.manyFrom).afterBlank

theorem several {name : String} {stop : Parser β} (he : Reports lines p P) :
    Reports lines (several name p stop) fun vs => ∀ v ∈ vs.toList, P v := by
  intro c hc
  have hmany : Reports lines (Parser.many p stop) fun vs => ∀ v ∈ vs, P v := he.many
  have h := hmany c hc
  unfold Parser.several
  split
  · rename_i e n hfail
    rwa [hfail] at h
  · rename_i vs n hvs
    rw [hvs] at h
    split
    · rename_i found hfound
      cases vs with
      | nil => cases hfound
      | cons v vs =>
        cases hfound
        exact h
    · -- nothing was read, so the refusal is on the line where reading stopped
      exact h.2.lineNumber

/-- Groups put together. -/
theorem flatten {p : Parser (List α)} {name : String} {stop : Parser β}
    (he : Reports lines p fun vs => ∀ v ∈ vs, P v) :
    Reports lines (Parser.map (Parser.several name p stop) fun groups => groups.toList.flatten)
      fun vs => ∀ v ∈ vs, P v := by
  refine he.several.map fun groups hgroups v hv => ?_
  obtain ⟨group, hgroup, hmem⟩ := List.mem_flatten.1 hv
  exact hgroups group hgroup v hmem

end Reports

end Parser

end PlainSpec
