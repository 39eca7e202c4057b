import PlainSpec.Proofs.Document.Placement
import PlainSpec.Proofs.Parser.Discipline

/-!
# Two runs on alike sources

A likeness relates the places of one source to the places of another, so that the lines ahead say
the same.  A parser is blind to a likeness if it reads alike values at alike places, or refuses at
both.  Every combinator of blind parsers is blind; a repetition needs in addition that its element
makes progress in both runs or in neither, since a likeness says nothing about how many blank lines
there are.

Values are compared by a view, which says what of a value counts.

## Main definitions

* `Likeness`: a relation of places, with what is kept of the number of a line and how refusals
  compare.
* `Likeness.Agree`: two replies are alike.
* `Likeness.Blind`: two parsers give alike replies at alike places.
* `Likeness.MovesAlike`: a parser makes progress at both of two alike places, or at neither.

## Main results

* `Likeness.Blind.both`, `Likeness.Blind.check`, `Likeness.Blind.many`, …: combinators of blind
  parsers.
-/

namespace PlainSpec

/-- A relation of the places of two sources that say the same. -/
structure Likeness where
  /-- The places that correspond. -/
  like : Cursor → Cursor → Prop
  /-- What is kept of the number of a line. -/
  place : Nat → Nat
  /-- How refusals compare. -/
  error : ParseError → ParseError → Prop
  place_zero : place 0 = 0
  skipBlank : ∀ {c c'}, like c c' → like c.skipBlank c'.skipBlank
  advance : ∀ {c c'}, like c c' → like c.skipBlank.advance c'.skipBlank.advance
  ahead : ∀ {c c'}, like c c' →
    c.ahead?.map (fun l => (place l.number, l.trimmed)) =
      c'.ahead?.map (fun l => (place l.number, l.trimmed))
  lineNumber : ∀ {c c'}, like c c' → place c.lineNumber = place c'.lineNumber
  error_mk : ∀ {i j} (kind : ErrorKind) (fault : Fault), place i = place j →
    error ⟨i, kind, fault⟩ ⟨j, kind, fault⟩
  error_deepest : ∀ {a a' b b'}, error a a' → error b b' → error (a.deepest b) (a'.deepest b')

namespace Likeness

variable (L : Likeness) {α β γ δ ε : Type}

/-- Two replies are alike: both are values with equal views at alike places, or both are
refusals. -/
def Agree (view : α → γ) : Reply α → Reply α → Prop
  | .ok v n, .ok v' n' => view v = view v' ∧ L.like n n'
  | .fail e _, .fail e' _ => L.error e e'
  | _, _ => False

/-- Two parsers give alike replies at alike places. -/
def Blind (view : α → γ) (p p' : Parser α) : Prop :=
  ∀ c c', L.like c c' → L.Agree view (p c) (p' c')

/-- Two results of a check are alike. -/
def Same (view : α → γ) (r r' : Except Invalid α) : Prop :=
  (r.map view).mapError (Invalid.relabel L.place) = (r'.map view).mapError (Invalid.relabel L.place)

variable {L}

/-- The two ways for replies to be alike. -/
theorem Agree.cases {view : α → γ} {r r' : Reply α} (h : L.Agree view r r') :
    (∃ v n v' n', r = .ok v n ∧ r' = .ok v' n' ∧ view v = view v' ∧ L.like n n') ∨
      ∃ e n e' n', r = .fail e n ∧ r' = .fail e' n' ∧ L.error e e' := by
  match r, r', h with
  | .ok v n, .ok v' n', h => exact .inl ⟨v, n, v', n', rfl, rfl, h.1, h.2⟩
  | .fail e n, .fail e' n', h => exact .inr ⟨e, n, e', n', rfl, rfl, h⟩

/-- Where refusals go back to does not matter. -/
theorem Agree.orBackTo {view : α → γ} {r r' : Reply α} (h : L.Agree view r r') (c c' : Cursor) :
    L.Agree view (r.orBackTo c) (r'.orBackTo c') := by
  match r, r', h with
  | .ok _ _, .ok _ _, h => exact h
  | .fail _ _, .fail _ _, h => exact h

theorem Agree.map {view : α → γ} {view' : β → δ} {f f' : α → β} {r r' : Reply α}
    (h : L.Agree view r r') (hf : ∀ a a', view a = view a' → view' (f a) = view' (f' a')) :
    L.Agree view' (r.map f) (r'.map f') := by
  match r, r', h with
  | .ok a _, .ok a' _, h => exact ⟨hf a a' h.1, h.2⟩
  | .fail _ _, .fail _ _, h => exact h

/-- The two ways for results to be alike. -/
theorem Same.cases {view : α → γ} {r r' : Except Invalid α} (h : L.Same view r r') :
    (∃ a a', r = .ok a ∧ r' = .ok a' ∧ view a = view a') ∨
      ∃ i i', r = .error i ∧ r' = .error i' ∧ i.relabel L.place = i'.relabel L.place := by
  cases r with
  | ok a =>
    cases r' with
    | ok a' => exact .inl ⟨a, a', rfl, rfl, by simpa [Same, Except.map] using h⟩
    | error i' => simp [Same, Except.map] at h
  | error i =>
    cases r' with
    | ok a' => simp [Same, Except.map] at h
    | error i' => exact .inr ⟨i, i', rfl, rfl, by simpa [Same, Except.map] using h⟩

/-! ## One line -/

/-- Alike places have alike lines ahead, or none. -/
theorem ahead_cases {c c' : Cursor} (h : L.like c c') :
    (c.ahead? = none ∧ c'.ahead? = none) ∨
      ∃ l l', c.ahead? = some l ∧ c'.ahead? = some l' ∧ L.place l.number = L.place l'.number ∧
        l.trimmed = l'.trimmed := by
  have ha := L.ahead h
  cases hc : c.ahead? <;> cases hc' : c'.ahead? <;> simp_all

/-- What a function of lines that looks at the text, and at the number as far as the likeness keeps
it, reads off the lines ahead of alike places. -/
theorem read_cases {view : α → γ} {f : Line → Except Fault α}
    (hf : ∀ l l' : Line, L.place l.number = L.place l'.number → l.trimmed = l'.trimmed →
      (f l).map view = (f l').map view) {c c' : Cursor} (h : L.like c c') :
    (c.ahead? = none ∧ c'.ahead? = none) ∨
      ∃ l l', c.ahead? = some l ∧ c'.ahead? = some l' ∧
        ((∃ v v', f l = .ok v ∧ f l' = .ok v' ∧ view v = view v') ∨
          ∃ fault, f l = .error fault ∧ f l' = .error fault ∧
            L.place l.number = L.place l'.number) := by
  rcases ahead_cases h with hnone | ⟨l, l', hc, hc', hnumber, htext⟩
  · exact .inl hnone
  · refine .inr ⟨l, l', hc, hc', ?_⟩
    have hview := hf l l' hnumber htext
    cases hl : f l <;> cases hl' : f l' <;> simp_all [Except.map]

theorem Blind.peek {view : α → γ} {f : Line → Except Fault α}
    (hf : ∀ l l' : Line, L.place l.number = L.place l'.number → l.trimmed = l'.trimmed →
      (f l).map view = (f l').map view) :
    L.Blind view (Parser.peek f) (Parser.peek f) := by
  intro c c' h
  unfold Parser.peek
  have hcases := read_cases hf h
  unfold Cursor.ahead? at hcases
  rcases hcases with ⟨hc, hc'⟩ | ⟨l, l', hc, hc', ⟨v, v', hv, hv', heq⟩ | ⟨e, he, he', hnumber⟩⟩
  · rw [hc, hc']
    exact L.error_mk _ _ (L.lineNumber h)
  · rw [hc, hc']
    simp only [hv, hv']
    exact ⟨heq, L.skipBlank h⟩
  · rw [hc, hc']
    simp only [he, he']
    exact L.error_mk _ _ hnumber

theorem Blind.finish : L.Blind id Parser.finish Parser.finish := by
  intro c c' h
  unfold Parser.finish Cursor.atEnd
  rcases ahead_cases h with ⟨hc, hc'⟩ | ⟨l, l', hc, hc', -, -⟩
  · rw [hc, hc']
    exact ⟨rfl, L.skipBlank h⟩
  · rw [hc, hc']
    exact L.error_mk _ _ (L.lineNumber h)

/-! ## Values, sequence and choice -/

theorem Blind.map {view : α → γ} {view' : β → δ} {p p' : Parser α} {f f' : α → β}
    (hp : L.Blind view p p') (hf : ∀ a a', view a = view a' → view' (f a) = view' (f' a')) :
    L.Blind view' (Parser.map p f) (Parser.map p' f') := fun c c' h => (hp c c' h).map hf

theorem Agree.check {view : α → γ} {view' : β → δ} {p p' : Parser α} {f f' : α → Except Invalid β}
    {c c' : Cursor} (h : L.like c c') (hp : L.Agree view (p c) (p' c'))
    (hf : ∀ a a', view a = view a' → L.Same view' (f a) (f' a')) :
    L.Agree view' (Parser.check p f c) (Parser.check p' f' c') := by
  unfold Parser.check
  rcases hp.cases with ⟨v, n, v', n', hv, hv', hview, hn⟩ | ⟨e, n, e', n', he, he', herror⟩
  · rw [hv, hv']
    dsimp only
    rcases (hf v v' hview).cases with ⟨a, a', ha, ha', heq⟩ | ⟨i, i', hi, hi', heq⟩
    · rw [ha, ha']
      exact ⟨heq, hn⟩
    · rw [hi, hi']
      obtain ⟨line, fault⟩ := i
      obtain ⟨line', fault'⟩ := i'
      simp only [Invalid.relabel, Invalid.mk.injEq] at heq
      obtain ⟨hline, rfl⟩ := heq
      refine L.error_mk _ _ ?_
      cases line <;> cases line' <;> simp_all [L.lineNumber h]
  · rw [he, he']
    exact herror

theorem Blind.check {view : α → γ} {view' : β → δ} {p p' : Parser α}
    {f f' : α → Except Invalid β} (hp : L.Blind view p p')
    (hf : ∀ a a', view a = view a' → L.Same view' (f a) (f' a')) :
    L.Blind view' (Parser.check p f) (Parser.check p' f') := fun c c' h => .check h (hp c c' h) hf

theorem Blind.bind {view : α → γ} {view' : β → δ} {p p' : Parser α} {f f' : α → Parser β}
    (hp : L.Blind view p p') (hf : ∀ a a', view a = view a' → L.Blind view' (f a) (f' a')) :
    L.Blind view' (Parser.bind p f) (Parser.bind p' f') := by
  intro c c' h
  unfold Parser.bind
  rcases (hp c c' h).cases with ⟨v, n, v', n', hv, hv', hview, hn⟩ | ⟨e, n, e', n', he, he', herror⟩
  · rw [hv, hv']
    exact (hf v v' hview n n' hn).orBackTo c c'
  · rw [he, he']
    exact herror

theorem Blind.line {view : α → γ} {f : Line → Except Fault α}
    (hf : ∀ l l' : Line, L.place l.number = L.place l'.number → l.trimmed = l'.trimmed →
      (f l).map view = (f l').map view) :
    L.Blind view (Parser.line f) (Parser.line f) := by
  rw [Parser.line_eq_bind_peek]
  exact (Blind.peek hf).bind fun _ _ hview _ _ h => ⟨hview, L.advance h⟩

theorem Blind.afterBlank {view : α → γ} {p p' : Parser α} (hp : L.Blind view p p') :
    L.Blind view (Parser.afterBlank p) (Parser.afterBlank p') :=
  fun c c' h => (hp _ _ (L.skipBlank h)).orBackTo c c'

theorem Blind.both {view : α → γ} {view' : β → δ} {p p' : Parser α} {q q' : Parser β}
    (hp : L.Blind view p p') (hq : L.Blind view' q q') :
    L.Blind (Prod.map view view') (Parser.both p q) (Parser.both p' q') :=
  (hp.bind fun _ _ ha => hq.map fun _ _ hb => by simp [ha, hb]).afterBlank

theorem Blind.first {view : α → γ} {view' : β → δ} {p p' : Parser α} {q q' : Parser β}
    (hp : L.Blind view p p') (hq : L.Blind view' q q') :
    L.Blind view (Parser.first p q) (Parser.first p' q') :=
  (hp.bind fun _ _ ha => hq.map fun _ _ _ => ha).afterBlank

theorem Blind.second {view : α → γ} {view' : β → δ} {p p' : Parser α} {q q' : Parser β}
    (hp : L.Blind view p p') (hq : L.Blind view' q q') :
    L.Blind view' (Parser.second p q) (Parser.second p' q') :=
  (hp.bind fun _ _ _ => hq).afterBlank

theorem Blind.orElse {view : α → γ} {p p' q q' : Parser α} (hp : L.Blind view p p')
    (hq : L.Blind view q q') : L.Blind view (Parser.orElse p q) (Parser.orElse p' q') := by
  intro c c' h
  unfold Parser.orElse
  rcases (hp _ _ (L.skipBlank h)).cases with
    ⟨v, n, v', n', hv, hv', hview, hn⟩ | ⟨e, n, e', n', he, he', hearlier⟩
  · rw [hv, hv']
    exact ⟨hview, hn⟩
  · rw [he, he']
    dsimp only
    rcases (hq _ _ (L.skipBlank h)).cases with
      ⟨v, m, v', m', hv, hv', hview, hm⟩ | ⟨d, m, d', m', hd, hd', hlater⟩
    · rw [hv, hv']
      exact ⟨hview, hm⟩
    · rw [hd, hd']
      exact L.error_deepest hearlier hlater

/-! ## Lookahead -/

theorem Blind.absent {view : α → γ} {p p' : Parser α} (hp : L.Blind view p p') :
    L.Blind id (Parser.absent p) (Parser.absent p') := by
  intro c c' h
  unfold Parser.absent
  rcases (hp c c' h).cases with ⟨v, n, v', n', hv, hv', -, -⟩ | ⟨e, n, e', n', he, he', -⟩
  · rw [hv, hv']
    exact L.error_mk _ _ (L.lineNumber h)
  · rw [he, he']
    exact ⟨rfl, h⟩

theorem Blind.optional {view : α → γ} {p p' : Parser α} (hp : L.Blind view p p') :
    L.Blind (Option.map view) (Parser.optional p) (Parser.optional p') := by
  intro c c' h
  unfold Parser.optional
  rcases (hp c c' h).cases with ⟨v, n, v', n', hv, hv', hview, hn⟩ | ⟨e, n, e', n', he, he', -⟩
  · rw [hv, hv']
    exact ⟨congrArg some hview, hn⟩
  · rw [he, he']
    exact ⟨rfl, h⟩

theorem Blind.whenAhead {view : α → γ} {p p' : Parser α} {test : Line → Bool}
    (hp : L.Blind view p p') (ht : ∀ l l' : Line, l.trimmed = l'.trimmed → test l = test l') :
    L.Blind (Option.map view) (Parser.whenAhead test p) (Parser.whenAhead test p') := by
  intro c c' h
  unfold Parser.whenAhead
  have htest : c.ahead?.any test = c'.ahead?.any test := by
    rcases ahead_cases h with ⟨hc, hc'⟩ | ⟨l, l', hc, hc', -, htext⟩
    · rw [hc, hc']
    · simp [hc, hc', ht l l' htext]
  rw [htest]
  split
  · exact (hp c c' h).map fun _ _ ha => by simp [ha]
  · exact ⟨rfl, h⟩

/-! ## Repetition

The two runs stop at alike places.  If one of them stops for want of progress, so does the other. -/

/-- A parser that makes progress in both runs or in neither. -/
def MovesAlike (L : Likeness) (p : Parser α) : Prop :=
  ∀ c c' v v' n n', L.like c c' → p c = .ok v n → p c' = .ok v' n' → L.like n n' →
    (n.rest.length < c.rest.length ↔ n'.rest.length < c'.rest.length)

theorem MovesAlike.of_consuming {p : Parser α} (hp : Parser.Consuming p) : L.MovesAlike p :=
  fun _ _ _ _ _ _ _ h h' _ => iff_of_true (hp.length_lt h) (hp.length_lt h')

theorem Blind.manyFrom {view : α → γ} {view' : β → δ} {element : Parser α} {stop : Parser β}
    (he : L.Blind view element element) (hs : L.Blind view' stop stop) (hm : L.MovesAlike element) :
    L.Blind (List.map view) (Parser.manyFrom element stop) (Parser.manyFrom element stop) := by
  intro c
  -- on the number of lines ahead in the first run
  induction hk : c.rest.length using Nat.strongRecOn generalizing c with
  | ind k ih =>
    intro c' h
    rw [Parser.manyFrom, Parser.manyFrom.eq_def element stop c']
    rcases (hs c c' h).cases with ⟨v, n, v', n', hv, hv', -, -⟩ | ⟨e, n, e', n', hf, hf', -⟩
    · rw [hv, hv']
      exact ⟨rfl, h⟩
    · rw [hf, hf']
      dsimp only
      rcases (he c c' h).cases with
        ⟨v, m, v', m', hv, hv', hview, hn⟩ | ⟨d, m, d', m', hd, hd', herror⟩
      · rw [hv, hv']
        dsimp only
        by_cases hlt : m.rest.length < c.rest.length
        · rw [if_pos hlt, if_pos ((hm c c' v v' m m' h hv hv' hn).1 hlt)]
          refine Agree.orBackTo (Agree.map (ih _ (hk ▸ hlt) m rfl m' hn) ?_) c c'
          intro vs vs' hvs
          simp [hview, hvs]
        · rw [if_neg hlt, if_neg (mt (hm c c' v v' m m' h hv hv' hn).2 hlt)]
          exact ⟨by simp [hview], hn⟩
      · rw [hd, hd']
        exact herror

theorem Blind.many {view : α → γ} {view' : β → δ} {element : Parser α} {stop : Parser β}
    (he : L.Blind view element element) (hs : L.Blind view' stop stop) (hm : L.MovesAlike element) :
    L.Blind (List.map view) (Parser.many element stop) (Parser.many element stop) :=
  (he.manyFrom hs hm).afterBlank

theorem Blind.several {view : α → γ} {view' : β → δ} {element : Parser α} {stop : Parser β}
    (he : L.Blind view element element) (hs : L.Blind view' stop stop) (hm : L.MovesAlike element)
    (name : String) :
    L.Blind (Several.map view) (Parser.several name element stop)
      (Parser.several name element stop) := by
  intro c c' h
  unfold Parser.several
  rcases (he.many hs hm c c' h).cases with
    ⟨v, n, v', n', hv, hv', hview, hn⟩ | ⟨e, n, e', n', hf, hf', herror⟩
  · rw [hv, hv']
    cases v with
    | nil =>
      obtain rfl : v' = [] := by simpa using hview.symm
      exact L.error_mk _ _ (L.lineNumber hn)
    | cons a as =>
      obtain ⟨a', as', rfl, ha, has⟩ := List.map_eq_cons_iff.1 hview.symm
      exact ⟨by simp [Several.map, ha, has], hn⟩
  · rw [hf, hf']
    exact herror

/-- The terminator of a repetition that goes on as long as an element starts. -/
theorem Blind.unless {view : β → δ} {starts : Parser β} (hs : L.Blind view starts starts) :
    L.Blind id (Parser.orElse Parser.finish (Parser.absent starts))
      (Parser.orElse Parser.finish (Parser.absent starts)) :=
  Blind.finish.orElse hs.absent

theorem Blind.manyWhile {view : α → γ} {view' : β → δ} {element : Parser α} {starts : Parser β}
    (he : L.Blind view element element) (hs : L.Blind view' starts starts)
    (hc : Parser.Consuming element) :
    L.Blind (List.map view) (Parser.manyWhile element starts) (Parser.manyWhile element starts) :=
  he.many hs.unless (.of_consuming hc)

theorem Blind.severalWhile {view : α → γ} {view' : β → δ} {element : Parser α} {starts : Parser β}
    (he : L.Blind view element element) (hs : L.Blind view' starts starts)
    (hc : Parser.Consuming element) (name : String) :
    L.Blind (Several.map view) (Parser.severalWhile name element starts)
      (Parser.severalWhile name element starts) :=
  he.several hs.unless (.of_consuming hc) name

end Likeness

end PlainSpec
