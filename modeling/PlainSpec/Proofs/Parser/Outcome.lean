import PlainSpec.Parser.Repeat

/-!
# When a parser succeeds

For every combinator, the replies with a value are told by an equivalence.  Proofs about grammar
rules take a rule apart, or put it together, by these equivalences and never open a combinator.  The
refusals of a repetition are told in the same way.

## Main definitions

* `Parser.Refuses p c`: the parser reads no value at a place.
* `Parser.Run element stop`: what a repetition reads, element by element.
* `Parser.Breaks element stop`: the element at which a repetition is refused.

## Main results

* `Parser.both_eq_ok`, `Parser.orElse_eq_ok`, …: what a value of a combinator is made of.
* `Parser.manyFrom_eq_ok`, `Parser.manyFrom_eq_fail`: a repetition reads exactly its runs, and is
  refused exactly where an element is.
-/

namespace PlainSpec

/-! ## Results -/

theorem Except.map_eq_ok {ε α β : Type} {f : α → β} {r : Except ε α} {b : β} :
    r.map f = .ok b ↔ ∃ a, r = .ok a ∧ f a = b := by
  cases r <;> simp [Except.map]

@[simp] theorem Except.mapError_ok {ε ε' α : Type} (f : ε → ε') (a : α) :
    (Except.ok a : Except ε α).mapError f = .ok a := rfl

@[simp] theorem Except.mapError_error {ε ε' α : Type} (f : ε → ε') (e : ε) :
    (Except.error e : Except ε α).mapError f = .error (f e) := rfl

theorem Except.mapError_eq_ok {ε ε' α : Type} {f : ε → ε'} {r : Except ε α} {a : α} :
    r.mapError f = .ok a ↔ r = .ok a := by
  cases r <;> simp

theorem Except.mapM_eq_ok {ε α β : Type} {f : α → Except ε β} {as : List α} {bs : List β} :
    as.mapM f = .ok bs ↔ as.map f = bs.map .ok := by
  induction as generalizing bs with
  | nil => cases bs <;> simp [pure, Except.pure]
  | cons a as ih =>
    rw [List.mapM_cons]
    cases hf : f a with
    | error e => cases bs <;> simp [bind, Except.bind, hf]
    | ok b =>
      cases bs with
      | nil => cases hm : as.mapM f <;> simp [bind, Except.bind, pure, Except.pure]
      | cons b' bs =>
        rw [List.map_cons, List.map_cons, hf, List.cons.injEq, ← ih]
        cases hm : as.mapM f <;> simp [bind, Except.bind, pure, Except.pure]

theorem Reply.result_eq_ok {α : Type} {r : Reply α} {v : α} :
    r.result = .ok v ↔ ∃ n, r = .ok v n := by
  cases r <;> simp [Reply.result]

/-! ## The next line -/

namespace Cursor

theorem skipBlank_go_skipBlank_go (passed rest : List Line) :
    (skipBlank.go passed rest).skipBlank = skipBlank.go passed rest := by
  induction rest generalizing passed with
  | nil => rfl
  | cons line rest ih =>
    by_cases h : line.isBlank = true
    · simpa [skipBlank.go, h] using ih (line :: passed)
    · simp [skipBlank.go, h, skipBlank]

@[simp] theorem skipBlank_skipBlank (c : Cursor) : c.skipBlank.skipBlank = c.skipBlank :=
  skipBlank_go_skipBlank_go c.passed c.rest

@[simp] theorem ahead?_skipBlank (c : Cursor) : c.skipBlank.ahead? = c.ahead? := by
  simp [ahead?]

theorem ahead?_eq_head? (c : Cursor) : c.ahead? = (c.rest.dropWhile Line.isBlank).head? := by
  simp [ahead?, peek?]

theorem map_trimmed_dropWhile (lines : List Line) :
    (lines.dropWhile Line.isBlank).map Line.trimmed =
      (lines.map Line.trimmed).dropWhile List.isEmpty := by
  rw [List.dropWhile_map]
  rfl

theorem atEnd_iff {c : Cursor} : c.atEnd = true ↔ c.rest.dropWhile Line.isBlank = [] := by
  simp [atEnd, ahead?_eq_head?]

end Cursor

namespace Parser

variable {α β γ : Type}

/-- The parser reads no value at this place. -/
def Refuses (p : Parser α) (c : Cursor) : Prop := ∀ v n, p c ≠ .ok v n

theorem refuses_iff {p : Parser α} {c : Cursor} : Refuses p c ↔ ∃ e n, p c = .fail e n := by
  unfold Refuses
  cases h : p c with
  | ok v n => simp
  | fail e n => simp

theorem not_refuses_iff {p : Parser α} {c : Cursor} : ¬ Refuses p c ↔ ∃ v n, p c = .ok v n := by
  simp [Refuses]

/-! ## One line -/

theorem line_eq_ok {f : Line → Except Fault α} {c : Cursor} {v : α} {n : Cursor} :
    line f c = .ok v n ↔ ∃ l, c.ahead? = some l ∧ f l = .ok v ∧ n = c.skipBlank.advance := by
  unfold line Cursor.ahead?
  cases c.skipBlank.peek? with
  | none => simp
  | some l => cases h : f l <;> simp [h, eq_comm]

theorem peek_eq_ok {f : Line → Except Fault α} {c : Cursor} {v : α} {n : Cursor} :
    peek f c = .ok v n ↔ ∃ l, c.ahead? = some l ∧ f l = .ok v ∧ n = c.skipBlank := by
  unfold peek Cursor.ahead?
  cases c.skipBlank.peek? with
  | none => simp
  | some l => cases h : f l <;> simp [h, eq_comm]

theorem finish_eq_ok {c : Cursor} {v : Unit} {n : Cursor} :
    finish c = .ok v n ↔ c.atEnd = true ∧ n = c.skipBlank := by
  unfold finish
  cases c.atEnd <;> simp [@eq_comm _ n]

/-! ## Values -/

theorem map_eq_ok {p : Parser α} {f : α → β} {c : Cursor} {v : β} {n : Cursor} :
    map p f c = .ok v n ↔ ∃ a, p c = .ok a n ∧ f a = v := by
  unfold map
  cases p c with
  | fail e m => simp [Reply.map]
  | ok a m => simp only [Reply.map, Reply.ok.injEq, and_assoc]; grind

theorem check_eq_ok {p : Parser α} {f : α → Except Invalid β} {c : Cursor} {v : β} {n : Cursor} :
    check p f c = .ok v n ↔ ∃ a, p c = .ok a n ∧ f a = .ok v := by
  unfold check
  cases p c with
  | fail e m => simp
  | ok a m =>
    cases h : f a with
    | error i => simp [h]
    | ok b => simp only [Reply.ok.injEq, and_assoc]; grind

/-! ## Sequence and choice -/

theorem orBackTo_eq_ok {r : Reply α} {c : Cursor} {v : α} {n : Cursor} :
    r.orBackTo c = .ok v n ↔ r = .ok v n := by
  cases r <;> simp [Reply.orBackTo]

theorem bind_eq_ok {p : Parser α} {f : α → Parser β} {c : Cursor} {v : β} {n : Cursor} :
    bind p f c = .ok v n ↔ ∃ a m, p c = .ok a m ∧ f a m = .ok v n := by
  unfold bind
  cases p c with
  | fail e m => simp
  | ok a m => simp [orBackTo_eq_ok, and_assoc]

/-- A line is read by looking at it and going on behind it. -/
theorem line_eq_bind_peek (f : Line → Except Fault α) :
    line f = bind (peek f) fun v c => .ok v c.skipBlank.advance := by
  funext c
  unfold line bind peek
  cases c.skipBlank.peek? with
  | none => rfl
  | some l => cases hl : f l <;> simp [hl, Cursor.skipBlank_skipBlank, Reply.orBackTo]

theorem afterBlank_eq_ok {p : Parser α} {c : Cursor} {v : α} {n : Cursor} :
    afterBlank p c = .ok v n ↔ p c.skipBlank = .ok v n := orBackTo_eq_ok

theorem afterBlank_eq_fail {p : Parser α} {c next : Cursor} {e : ParseError} :
    afterBlank p c = .fail e next ↔ next = c ∧ ∃ n, p c.skipBlank = .fail e n := by
  unfold afterBlank
  cases p c.skipBlank <;> simp [Reply.orBackTo, and_comm, @eq_comm _ c]

theorem both_eq_ok {p : Parser α} {q : Parser β} {c : Cursor} {v : α × β} {n : Cursor} :
    both p q c = .ok v n ↔ ∃ m, p c.skipBlank = .ok v.1 m ∧ q m = .ok v.2 n := by
  obtain ⟨a, b⟩ := v
  simp only [both, afterBlank_eq_ok, bind_eq_ok, map_eq_ok, Prod.mk.injEq]
  grind

theorem first_eq_ok {p : Parser α} {q : Parser β} {c : Cursor} {v : α} {n : Cursor} :
    first p q c = .ok v n ↔ ∃ m b, p c.skipBlank = .ok v m ∧ q m = .ok b n := by
  simp only [first, afterBlank_eq_ok, bind_eq_ok, map_eq_ok]
  grind

/-- Blank lines in front of a sequence are passed in any case. -/
theorem both_skipBlank {p : Parser α} {q : Parser β} {c : Cursor} {v : α × β} {n : Cursor} :
    both p q c.skipBlank = .ok v n ↔ both p q c = .ok v n := by
  rw [both_eq_ok, both_eq_ok, Cursor.skipBlank_skipBlank]

theorem first_skipBlank {p : Parser α} {q : Parser β} {c : Cursor} {v : α} {n : Cursor} :
    first p q c.skipBlank = .ok v n ↔ first p q c = .ok v n := by
  rw [first_eq_ok, first_eq_ok, Cursor.skipBlank_skipBlank]

theorem second_eq_ok {p : Parser α} {q : Parser β} {c : Cursor} {v : β} {n : Cursor} :
    second p q c = .ok v n ↔ ∃ a m, p c.skipBlank = .ok a m ∧ q m = .ok v n := by
  simp only [second, afterBlank_eq_ok, bind_eq_ok]

theorem orElse_eq_ok {p q : Parser α} {c : Cursor} {v : α} {n : Cursor} :
    orElse p q c = .ok v n ↔
      p c.skipBlank = .ok v n ∨ Refuses p c.skipBlank ∧ q c.skipBlank = .ok v n := by
  unfold orElse
  rw [refuses_iff]
  cases p c.skipBlank with
  | ok a m => simp
  | fail e m => cases q c.skipBlank <;> simp

theorem refuses_orElse {p q : Parser α} {c : Cursor} :
    Refuses (orElse p q) c ↔ Refuses p c.skipBlank ∧ Refuses q c.skipBlank := by
  simp only [Refuses, ne_eq, orElse_eq_ok]
  grind

/-! ## Lookahead -/

theorem absent_eq_ok {p : Parser α} {c : Cursor} {v : Unit} {n : Cursor} :
    absent p c = .ok v n ↔ Refuses p c ∧ n = c := by
  unfold absent
  rw [refuses_iff]
  cases p c <;> simp [eq_comm]

theorem refuses_absent {p : Parser α} {c : Cursor} :
    Refuses (absent p) c ↔ ∃ v n, p c = .ok v n := by
  rw [← not_refuses_iff]
  constructor
  · intro h hp
    exact h () c (absent_eq_ok.2 ⟨hp, rfl⟩)
  · intro h v n hok
    exact h (absent_eq_ok.1 hok).1

theorem optional_eq_ok {p : Parser α} {c : Cursor} {v : Option α} {n : Cursor} :
    optional p c = .ok v n ↔
      (∃ a, v = some a ∧ p c = .ok a n) ∨ v = none ∧ Refuses p c ∧ n = c := by
  unfold optional
  rw [refuses_iff]
  cases p c with
  | ok a m =>
    constructor
    · rintro ⟨⟩
      exact .inl ⟨a, rfl, rfl⟩
    · rintro (⟨b, rfl, ⟨⟩⟩ | ⟨-, ⟨_, _, ⟨⟩⟩, -⟩)
      rfl
  | fail e m => simp [eq_comm]

theorem whenAhead_eq_ok {test : Line → Bool} {p : Parser α} {c : Cursor} {v : Option α}
    {n : Cursor} :
    whenAhead test p c = .ok v n ↔
      (c.ahead?.any test = true ∧ ∃ a, p c = .ok a n ∧ v = some a) ∨
        c.ahead?.any test = false ∧ v = none ∧ n = c := by
  unfold whenAhead
  cases c.ahead?.any test with
  | true => cases p c <;> simp [Reply.map, and_comm, and_assoc, @eq_comm _ v]
  | false => simp [@eq_comm _ v, @eq_comm _ n]

/-! ## Repetition -/

/-- What a repetition reads from a place: the elements in their order, up to a place where the
terminator succeeds or up to an element that reads nothing. -/
inductive Run (element : Parser α) (stop : Parser β) : Cursor → List α → Cursor → Prop where
  /-- The terminator succeeds. -/
  | stop {c v n} (h : stop c = .ok v n) : Run element stop c [] c
  /-- An element is read and the repetition goes on behind it. -/
  | step {c v m vs n} (hs : Refuses stop c) (he : element c = .ok v m)
      (hlt : m.rest.length < c.rest.length) (hr : Run element stop m vs n) :
      Run element stop c (v :: vs) n
  /-- An element is read that does not move on. -/
  | stuck {c v m} (hs : Refuses stop c) (he : element c = .ok v m)
      (hge : ¬ m.rest.length < c.rest.length) : Run element stop c [v] m

/-- **A repetition reads exactly its runs.** -/
theorem manyFrom_eq_ok {element : Parser α} {stop : Parser β} {c : Cursor} {vs : List α}
    {n : Cursor} : manyFrom element stop c = .ok vs n ↔ Run element stop c vs n := by
  constructor
  · intro h
    -- by the recursion of the loop: it stops, fails, goes on, or is stuck
    fun_induction manyFrom element stop c generalizing vs n with
    | case1 c v m hs =>
      obtain ⟨rfl, rfl⟩ : [] = vs ∧ c = n := by simpa using h
      exact .stop hs
    | case2 => cases h
    | case3 c e₁ n₁ hs value next he hlt ih =>
      rw [orBackTo_eq_ok] at h
      cases hm : manyFrom element stop next with
      | fail e m => rw [hm] at h; cases h
      | ok ws m =>
        rw [hm] at h
        obtain ⟨rfl, rfl⟩ : value :: ws = vs ∧ m = n := by simpa [Reply.map] using h
        exact .step (refuses_iff.2 ⟨_, _, hs⟩) he hlt (ih hm)
    | case4 c e₁ n₁ hs value next he hge =>
      obtain ⟨rfl, rfl⟩ : [value] = vs ∧ next = n := by simpa using h
      exact .stuck (refuses_iff.2 ⟨_, _, hs⟩) he hge
  · intro h
    induction h with
    | stop h => rw [manyFrom, h]
    | step hs he hlt _ ih =>
      obtain ⟨e, m, hs⟩ := refuses_iff.1 hs
      rw [manyFrom, hs, he]
      simp [hlt, ih, Reply.map, Reply.orBackTo]
    | stuck hs he hge =>
      obtain ⟨e, m, hs⟩ := refuses_iff.1 hs
      rw [manyFrom, hs, he]
      simp [hge]

theorem many_eq_ok {element : Parser α} {stop : Parser β} {c : Cursor} {vs : List α}
    {n : Cursor} : many element stop c = .ok vs n ↔ Run element stop c.skipBlank vs n := by
  rw [many, afterBlank_eq_ok, manyFrom_eq_ok]

theorem several_eq_ok {name : String} {element : Parser α} {stop : Parser β} {c : Cursor}
    {vs : Several α} {n : Cursor} :
    several name element stop c = .ok vs n ↔ Run element stop c.skipBlank vs.toList n := by
  rw [← many_eq_ok]
  unfold several
  cases many element stop c with
  | fail e m => simp
  | ok ws m =>
    obtain ⟨v, vs⟩ := vs
    cases ws <;> simp [Several.ofList?, Several.toList]

/-- Behind some elements, each of which moves the cursor, both the terminator and the element
refuse. -/
inductive Breaks (element : Parser α) (stop : Parser β) : Cursor → ParseError → Prop where
  /-- The element is refused here. -/
  | here {c e n} (hs : Refuses stop c) (he : element c = .fail e n) : Breaks element stop c e
  /-- An element is read, and the refused one is further on. -/
  | later {c v m e} (hs : Refuses stop c) (he : element c = .ok v m)
      (hlt : m.rest.length < c.rest.length) (h : Breaks element stop m e) : Breaks element stop c e

/-- **A repetition is refused exactly where an element is**, with its refusal. -/
theorem manyFrom_eq_fail {element : Parser α} {stop : Parser β} {c next : Cursor} {e : ParseError} :
    manyFrom element stop c = .fail e next ↔ next = c ∧ Breaks element stop c e := by
  constructor
  · intro h
    fun_induction manyFrom element stop c generalizing next with
    | case1 => cases h
    | case2 c e₁ n₁ hs e₂ n₂ he =>
      cases h
      exact ⟨rfl, .here (refuses_iff.2 ⟨_, _, hs⟩) he⟩
    | case3 c e₁ n₁ hs value m he hlt ih =>
      cases hm : manyFrom element stop m with
      | ok ws n =>
        rw [hm] at h
        cases h
      | fail e' n =>
        rw [hm] at h
        cases h
        exact ⟨rfl, .later (refuses_iff.2 ⟨_, _, hs⟩) he hlt (ih hm).2⟩
    | case4 => cases h
  · rintro ⟨rfl, h⟩
    induction h with
    | here hs he =>
      obtain ⟨e₁, n₁, hs⟩ := refuses_iff.1 hs
      rw [manyFrom, hs, he]
    | later hs he hlt _ ih =>
      obtain ⟨e₁, n₁, hs⟩ := refuses_iff.1 hs
      rw [manyFrom, hs, he]
      simp [hlt, ih, Reply.map, Reply.orBackTo]

theorem many_eq_fail {element : Parser α} {stop : Parser β} {c next : Cursor} {e : ParseError} :
    many element stop c = .fail e next ↔ next = c ∧ Breaks element stop c.skipBlank e := by
  simp [many, afterBlank_eq_fail, manyFrom_eq_fail]

/-- **At least one element**: beyond the refusals of the repetition, one for reading no element. -/
theorem several_eq_fail {name : String} {element : Parser α} {stop : Parser β} {c next : Cursor}
    {e : ParseError} :
    several name element stop c = .fail e next ↔
      many element stop c = .fail e next ∨
        next = c ∧ ∃ n, many element stop c = .ok [] n ∧
          e = ⟨n.lineNumber, .unrecognised, .noneFound name⟩ := by
  unfold several
  cases hm : many element stop c with
  | fail e' n =>
    obtain ⟨rfl, -⟩ := many_eq_fail.1 hm
    simp
  | ok values n =>
    cases values with
    | nil => simp [Several.ofList?, and_comm, @eq_comm _ c, @eq_comm _ e]
    | cons v vs => simp [Several.ofList?]

/-- The terminator of a repetition that goes on as long as an element starts: it succeeds at the end
of the source and wherever no element starts. -/
theorem refuses_unless {starts : Parser β} {c : Cursor} :
    Refuses (orElse finish (absent starts)) c ↔
      c.atEnd = false ∧ ∃ v n, starts c.skipBlank = .ok v n := by
  rw [refuses_orElse, refuses_absent]
  refine and_congr_left fun _ => ?_
  constructor
  · intro h
    -- at the end of the source the terminator would succeed
    cases he : c.atEnd with
    | false => rfl
    | true => exact absurd (finish_eq_ok.2 ⟨by simpa [Cursor.atEnd] using he, rfl⟩) (h () _)
  · intro he v n hok
    have hend := (finish_eq_ok.1 hok).1
    simp_all [Cursor.atEnd]

end Parser

end PlainSpec
