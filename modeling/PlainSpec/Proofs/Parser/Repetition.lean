import PlainSpec.Proofs.Parser.Discipline

/-!
# Repetition by positions

A repetition reads elements one behind the other.  Before each of them the terminator is tried, and
the repetition has three ends: the terminator succeeds, the element refuses, or the element succeeds
without moving the cursor.  The third keeps it from going on for ever, since an element that obeys
the discipline of the cursor either stays where it is or leaves fewer lines ahead.

The replies of a repetition are told here by the positions between its elements, in a list of lines.
The terminator may be any parser: it is lookahead only.

## Main definitions

* `Line.pastBlank`: the position behind the blank lines ahead.
* `Parser.Turns`: the repetition goes on from one place to another.
* `Parser.Chain`: elements that are read one behind the other, by their positions.
* `Parser.Ends`: the end of a repetition that reads a value.

## Main results

* `Parser.wellFounded_turns`: a repetition comes to an end.
* `Parser.many_eq_ok_iff_chain`, `Parser.many_eq_fail_iff_chain`: the replies of a repetition.
* `Parser.stop_of_run`: elements that consume are read until the terminator succeeds.
-/

namespace PlainSpec

/-! ## Positions -/

/-- The position behind the blank lines at a position. -/
def Line.pastBlank (lines : List Line) (position : Nat) : Nat :=
  position + ((lines.drop position).takeWhile Line.isBlank).length

namespace Cursor

theorem skipBlank_go_eq (passed rest : List Line) :
    skipBlank.go passed rest =
      ⟨(rest.takeWhile Line.isBlank).reverse ++ passed, rest.dropWhile Line.isBlank⟩ := by
  induction rest generalizing passed with
  | nil => rfl
  | cons line rest ih => by_cases h : line.isBlank = true <;> simp [skipBlank.go, h, ih]

/-- **Skipping blank lines adds their number to the position.** -/
theorem skipBlank_after (lines : List Line) (position : Nat) :
    (after lines position).skipBlank = after lines (Line.pastBlank lines position) := by
  have htake :=
    List.prefix_iff_eq_take.1 (List.takeWhile_prefix (l := lines.drop position) Line.isBlank)
  have hdrop : (lines.drop position).dropWhile Line.isBlank =
      (lines.drop position).drop ((lines.drop position).takeWhile Line.isBlank).length := by
    refine (List.append_right_inj ((lines.drop position).takeWhile Line.isBlank)).1 ?_
    rw [List.takeWhile_append_dropWhile]
    exact (List.take_append_drop _ _).symm.trans (by rw [← htake])
  rw [skipBlank, after, skipBlank_go_eq, after, Line.pastBlank, List.take_add, ← htake,
    ← List.drop_drop, ← hdrop, List.reverse_append]

theorem length_rest_after (lines : List Line) (position : Nat) :
    (after lines position).rest.length = lines.length - position := List.length_drop

/-- A place further on that is another one has fewer lines ahead. -/
theorem Reaches.length_lt {c n : Cursor} (h : c.Reaches n) (hne : n.position ≠ c.position) :
    n.rest.length < c.rest.length := by
  obtain ⟨between, hrest, hpassed⟩ := h
  have hposition : n.position = between.length + c.position := by
    simp [position, hpassed]
  rw [hrest, List.length_append]
  omega

end Cursor

namespace Line

theorem pastBlank_le {lines : List Line} {position : Nat} (h : position ≤ lines.length) :
    pastBlank lines position ≤ lines.length := by
  have := (List.takeWhile_sublist (p := isBlank) (l := lines.drop position)).length_le
  rw [List.length_drop] at this
  unfold pastBlank
  omega

end Line

namespace Parser

open Cursor

variable {α β : Type} {element : Parser α} {stop : Parser β} {lines : List Line}

/-! ## The end of a repetition -/

/-- The repetition goes on from the place `c` to the place `m`: the terminator refuses, an element
is read, and the cursor has moved. -/
def Turns (element : Parser α) (stop : Parser β) (c m : Cursor) : Prop :=
  Refuses stop c ∧ (∃ v, element c = .ok v m) ∧ m.position ≠ c.position

/-- **A repetition comes to an end**: there is no infinite sequence of turns. -/
theorem wellFounded_turns (he : Disciplined element) (stop : Parser β) :
    WellFounded fun m c => Turns element stop c m := by
  refine Subrelation.wf (r := InvImage (· < ·) fun c : Cursor => c.rest.length) ?_
    (InvImage.wf _ Nat.lt_wfRel.wf)
  rintro m c ⟨-, ⟨v, hv⟩, hmoved⟩
  exact (he.reaches hv).length_lt hmoved

/-- **Elements that consume are read until the terminator succeeds.** -/
theorem stop_of_run (hc : Consuming element) {c n : Cursor} {vs : List α}
    (h : Run element stop c vs n) : ∃ v m, stop n = .ok v m := by
  induction h with
  | stop h => exact ⟨_, _, h⟩
  | step _ _ _ _ ih => exact ih
  | stuck _ he hge => exact absurd (hc.length_lt he) hge

/-! ## Chains of elements -/

/-- The values are read one behind the other from a position of the source on: `place i` is the
position in front of the value at `i`, the terminator refuses there, and every element but the last
moves the cursor. -/
structure Chain (element : Parser α) (stop : Parser β) (lines : List Line) (start : Nat)
    (place : Nat → Nat) (values : List α) : Prop where
  starts : place 0 = start
  within : ∀ i ≤ values.length, place i ≤ lines.length
  refuses : ∀ i < values.length, Refuses stop (after lines (place i))
  reads : ∀ (i : Nat) (h : i < values.length),
    element (after lines (place i)) = .ok values[i] (after lines (place (i + 1)))
  ordered : ∀ i < values.length, place i ≤ place (i + 1)
  moves : ∀ i, i + 1 < values.length → place i < place (i + 1)

/-- A repetition that reads `count` elements ends behind them: the terminator succeeds, or the last
element did not move the cursor. -/
def Ends (stop : Parser β) (lines : List Line) (place : Nat → Nat) (count : Nat) : Prop :=
  (∃ v n, stop (after lines (place count)) = .ok v n) ∨ 0 < count ∧ place (count - 1) = place count

/-- The positions of a chain with one more element in front. -/
def pushPlace (start : Nat) (place : Nat → Nat) : Nat → Nat
  | 0 => start
  | i + 1 => place i

namespace Ends

variable {place : Nat → Nat} {count : Nat}

theorem push (h : Ends stop lines place count) (start : Nat) :
    Ends stop lines (pushPlace start place) (count + 1) := by
  rcases h with hs | ⟨hpos, hstuck⟩
  · exact .inl hs
  · cases count with
    | zero => cases hpos
    | succ count => exact .inr ⟨Nat.succ_pos _, hstuck⟩

theorem tail (h : Ends stop lines place (count + 1)) (hmoved : place 0 < place 1) :
    Ends stop lines (fun i => place (i + 1)) count := by
  rcases h with hs | ⟨-, hstuck⟩
  · exact .inl hs
  · cases count with
    | zero => exact absurd hstuck (Nat.ne_of_lt hmoved)
    | succ count => exact .inr ⟨Nat.succ_pos _, hstuck⟩

end Ends

namespace Chain

variable {start : Nat} {place : Nat → Nat} {value : α} {values : List α}

theorem nil (hstart : start ≤ lines.length) :
    Chain element stop lines start (fun _ => start) [] where
  starts := rfl
  within _ _ := hstart
  refuses _ h := by cases h
  reads _ h := by cases h
  ordered _ h := by cases h
  moves _ h := by cases h

theorem cons {first : Nat} (hfirst : first ≤ lines.length) (hs : Refuses stop (after lines first))
    (he : element (after lines first) = .ok value (after lines start)) (hle : first ≤ start)
    (hlt : values ≠ [] → first < start) (h : Chain element stop lines start place values) :
    Chain element stop lines first (pushPlace first place) (value :: values) where
  starts := rfl
  within
    | 0, _ => hfirst
    | i + 1, hi => h.within i (Nat.le_of_succ_le_succ hi)
  refuses
    | 0, _ => hs
    | i + 1, hi => h.refuses i (Nat.lt_of_succ_lt_succ hi)
  reads
    | 0, _ => by rw [← h.starts] at he; exact he
    | i + 1, hi => h.reads i (Nat.lt_of_succ_lt_succ hi)
  ordered
    | 0, _ => by rw [← h.starts] at hle; exact hle
    | i + 1, hi => h.ordered i (Nat.lt_of_succ_lt_succ hi)
  moves
    | 0, hi => by
      rw [← h.starts] at hlt
      exact hlt (List.length_pos_iff.1 (Nat.lt_of_succ_lt_succ hi))
    | i + 1, hi => h.moves i (Nat.lt_of_succ_lt_succ hi)

/-- The first element of a chain, and the chain behind it. -/
theorem uncons (h : Chain element stop lines start place (value :: values)) :
    start ≤ lines.length ∧ Refuses stop (after lines start) ∧
      element (after lines start) = .ok value (after lines (place 1)) ∧ start ≤ place 1 ∧
      (values ≠ [] → start < place 1) ∧
      Chain element stop lines (place 1) (fun i => place (i + 1)) values := by
  obtain rfl := h.starts
  refine ⟨h.within 0 (Nat.zero_le _), h.refuses 0 (Nat.zero_lt_succ _),
    h.reads 0 (Nat.zero_lt_succ _), h.ordered 0 (Nat.zero_lt_succ _), fun hne => ?_, ?_⟩
  · exact h.moves 0 (Nat.succ_lt_succ (List.length_pos_iff.2 hne))
  · exact
      { starts := rfl
        within := fun i hi => h.within (i + 1) (Nat.succ_le_succ hi)
        refuses := fun i hi => h.refuses (i + 1) (Nat.succ_lt_succ hi)
        reads := fun i hi => h.reads (i + 1) (Nat.succ_lt_succ hi)
        ordered := fun i hi => h.ordered (i + 1) (Nat.succ_lt_succ hi)
        moves := fun i hi => h.moves (i + 1) (Nat.succ_lt_succ hi) }

end Chain

/-! ## Repetitions that read a value -/

/-- A run of elements passes through the positions of a chain. -/
theorem exists_chain_of_run (he : Disciplined element) {start : Nat} (hstart : start ≤ lines.length)
    {values : List α} {next : Cursor} (h : Run element stop (after lines start) values next) :
    ∃ place, Chain element stop lines start place values ∧ Ends stop lines place values.length ∧
      next = after lines (place values.length) := by
  generalize hc : after lines start = c at h
  induction h generalizing start with
  | stop hs =>
    subst hc
    exact ⟨_, .nil hstart, .inl ⟨_, _, hs⟩, rfl⟩
  | @step c value m values next hs hv hlt _ ih =>
    subst hc
    obtain ⟨second, hle, hsecond, rfl⟩ := reaches_after hstart (he.reaches hv)
    rw [length_rest_after, length_rest_after] at hlt
    obtain ⟨place, hchain, hends, rfl⟩ := ih hsecond rfl
    exact ⟨_, hchain.cons hstart hs hv hle fun _ => by omega, hends.push start, rfl⟩
  | @stuck c value m hs hv hge =>
    subst hc
    obtain ⟨second, hle, hsecond, rfl⟩ := reaches_after hstart (he.reaches hv)
    rw [length_rest_after, length_rest_after] at hge
    obtain rfl : start = second := by omega
    exact ⟨_, (Chain.nil hstart).cons hstart hs hv (Nat.le_refl _) (absurd rfl),
      .inr ⟨Nat.one_pos, rfl⟩, rfl⟩

/-- A chain that ends is a run of elements. -/
theorem run_of_chain {start : Nat} {place : Nat → Nat} {values : List α}
    (h : Chain element stop lines start place values)
    (hends : Ends stop lines place values.length) :
    Run element stop (after lines start) values (after lines (place values.length)) := by
  induction values generalizing start place with
  | nil =>
    obtain rfl := h.starts
    rcases hends with ⟨v, n, hs⟩ | ⟨hpos, -⟩
    · exact .stop hs
    · cases hpos
  | cons value values ih =>
    obtain ⟨hstart, hs, hv, hle, hne, htail⟩ := h.uncons
    obtain rfl := h.starts
    have hsecond : place 1 ≤ lines.length := htail.within 0 (Nat.zero_le _)
    rcases Nat.lt_or_eq_of_le hle with hlt | heq
    · refine .step hs hv ?_ (ih htail (hends.tail hlt))
      rw [length_rest_after, length_rest_after]
      omega
    · -- only the last element may stay where it is
      cases values with
      | nil =>
        refine .stuck hs hv ?_
        rw [heq]
        exact Nat.lt_irrefl _
      | cons w ws => exact absurd heq (Nat.ne_of_lt (hne (List.cons_ne_nil w ws)))

/-- **What a repetition reads**, by the positions between its elements. -/
theorem many_eq_ok_iff_chain (he : Disciplined element) {start : Nat}
    (hstart : start ≤ lines.length) {values : List α} {next : Cursor} :
    many element stop (after lines start) = .ok values next ↔
      ∃ place, Chain element stop lines (Line.pastBlank lines start) place values ∧
        Ends stop lines place values.length ∧ next = after lines (place values.length) := by
  rw [many_eq_ok, skipBlank_after]
  constructor
  · exact exists_chain_of_run he (Line.pastBlank_le hstart)
  · rintro ⟨place, hchain, hends, rfl⟩
    exact run_of_chain hchain hends

/-- An element that only looks ahead is read once: it leaves the cursor where it is. -/
example : (many (peek fun l => .ok l.trimmed) finish (Cursor.ofText "a".toList)).result =
    .ok ["a".toList] := by
  with_unfolding_all rfl

/-! ## Repetitions that are refused -/

theorem exists_chain_of_breaks (he : Disciplined element) {start : Nat}
    (hstart : start ≤ lines.length)
    {e : ParseError} (h : Breaks element stop (after lines start) e) :
    ∃ place, ∃ values : List α, Chain element stop lines start place values ∧
      Refuses stop (after lines (place values.length)) ∧
      ∃ n, element (after lines (place values.length)) = .fail e n := by
  generalize hc : after lines start = c at h
  induction h generalizing start with
  | here hs hv =>
    subst hc
    exact ⟨_, [], .nil hstart, hs, _, hv⟩
  | @later c value m e hs hv hlt _ ih =>
    subst hc
    obtain ⟨second, hle, hsecond, rfl⟩ := reaches_after hstart (he.reaches hv)
    rw [length_rest_after, length_rest_after] at hlt
    obtain ⟨place, values, hchain, hbreak⟩ := ih hsecond rfl
    exact ⟨_, value :: values, hchain.cons hstart hs hv hle fun _ => by omega, hbreak⟩

theorem breaks_of_chain {start : Nat} {place : Nat → Nat} {values : List α}
    {e : ParseError} {n : Cursor} (h : Chain element stop lines start place values)
    (hs : Refuses stop (after lines (place values.length)))
    (hfail : element (after lines (place values.length)) = .fail e n) :
    Breaks element stop (after lines start) e := by
  induction values generalizing start place with
  | nil =>
    obtain rfl := h.starts
    exact .here hs hfail
  | cons value values ih =>
    obtain ⟨hstart, hs', hv, hle, hne, htail⟩ := h.uncons
    obtain rfl := h.starts
    have hsecond : place 1 ≤ lines.length := htail.within 0 (Nat.zero_le _)
    have hlt : place 0 < place 1 := by
      cases values with
      | nil =>
        -- an element that stays where it is cannot be refused there
        refine Nat.lt_of_le_of_ne hle fun heq => ?_
        rw [List.length_singleton, ← heq, hv] at hfail
        cases hfail
      | cons w ws => exact hne (List.cons_ne_nil w ws)
    refine .later hs' hv ?_ (ih htail hs hfail)
    rw [length_rest_after, length_rest_after]
    omega

/-- **When a repetition is refused**, by the positions between its elements. -/
theorem many_eq_fail_iff_chain (he : Disciplined element) {start : Nat}
    (hstart : start ≤ lines.length) {e : ParseError} {next : Cursor} :
    many element stop (after lines start) = .fail e next ↔
      next = after lines start ∧
        ∃ place, ∃ values : List α,
          Chain element stop lines (Line.pastBlank lines start) place values ∧
          Refuses stop (after lines (place values.length)) ∧
          ∃ n, element (after lines (place values.length)) = .fail e n := by
  rw [many_eq_fail, skipBlank_after]
  refine and_congr_right fun _ => ⟨exists_chain_of_breaks he (Line.pastBlank_le hstart), ?_⟩
  rintro ⟨place, values, hchain, hs, n, hfail⟩
  exact breaks_of_chain hchain hs hfail

end Parser

end PlainSpec
