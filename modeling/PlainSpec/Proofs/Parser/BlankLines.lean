import PlainSpec.Proofs.Parser.Likeness
import PlainSpec.Proofs.Parser.Tree

/-!
# Blank lines mean nothing to the combinators

Blank lines are passed before every attempt, so a parser cannot see how many there are.  A
repetition can: it ends when an element makes no progress, and progress is told by the place of the
cursor, which blank lines also move.  An element that succeeds without reading a line, but passes
the blank lines in front of the next one, is therefore tried once more where there are blank lines,
and gives one value more.

Elements that move only when they read a line do not have this effect, and trees in which every
repetition has such an element read the same values from texts with the same lines that are not
blank.

## Main definitions

* `Line.significant`: the content of the lines that are not blank.
* `Likeness.byText`: places with the same lines ahead, blank ones apart.
* `Parser.Steady`: a parser that moves only when it reads a line.
* `Tree.LooksAtText`, `Tree.Steady`: the functions and the repetitions of a tree.

## Main results

* `Likeness.movesAlike_of_steady`: steady parsers make progress in both runs or in neither.
* `Tree.run_of_significant`: what a tree reads from two texts that differ in blank lines.
-/

namespace PlainSpec

/-! ## Lines that are not blank -/

/-- What the lines that are not blank say. -/
def Line.significant (ls : List Line) : List Text := (ls.map Line.trimmed).filter (!·.isEmpty)

namespace Line

theorem significant_cons (l : Line) (ls : List Line) :
    significant (l :: ls) = if l.isBlank then significant ls else l.trimmed :: significant ls := by
  unfold significant Line.isBlank
  cases h : l.trimmed <;> simp [h]

theorem significant_append (ls ms : List Line) :
    significant (ls ++ ms) = significant ls ++ significant ms := by
  simp [significant]

@[simp] theorem significant_dropWhile (ls : List Line) :
    significant (ls.dropWhile Line.isBlank) = significant ls := by
  induction ls with
  | nil => rfl
  | cons l ls ih =>
    rw [List.dropWhile_cons]
    split
    · rename_i h
      rw [ih, significant_cons, if_pos h]
    · rfl

/-- What is behind the blank lines in front: a line that is not blank, and what follows it. -/
theorem head?_tail_significant (ls : List Line) :
    (significant ls).head? = (ls.dropWhile Line.isBlank).head?.map Line.trimmed ∧
      (significant ls).tail = significant (ls.dropWhile Line.isBlank).tail := by
  rw [← significant_dropWhile ls]
  cases h : ls.dropWhile Line.isBlank with
  | nil => exact ⟨rfl, rfl⟩
  | cons l rest =>
    have hl : l.isBlank = false := by simpa [h] using List.head?_dropWhile_not Line.isBlank ls
    rw [significant_cons, hl]
    exact ⟨rfl, rfl⟩

end Line

theorem Cursor.rest_advance (c : Cursor) : c.advance.rest = c.rest.tail := by
  unfold Cursor.advance
  split <;> simp_all

namespace Cursor

theorem significant_advance (c : Cursor) :
    Line.significant c.skipBlank.advance.rest = (Line.significant c.rest).tail := by
  rw [rest_advance, rest_skipBlank, ← (Line.head?_tail_significant _).2]

/-- The next line that is not blank is the first of them. -/
theorem ahead_of_significant {c c' : Cursor}
    (h : Line.significant c.rest = Line.significant c'.rest) :
    c.ahead?.map (fun l => (0, l.trimmed)) = c'.ahead?.map (fun l => (0, l.trimmed)) := by
  have hhead := congrArg List.head? h
  rw [(Line.head?_tail_significant _).1, (Line.head?_tail_significant _).1, ← ahead?_eq_head?,
    ← ahead?_eq_head?] at hhead
  cases hc : c.ahead? <;> cases hc' : c'.ahead? <;> simp_all

end Cursor

/-- Places with the same lines ahead, blank ones apart. -/
def Likeness.byText : Likeness where
  like c c' := Line.significant c.rest = Line.significant c'.rest
  place := Function.const Nat 0
  error _ _ := True
  place_zero := rfl
  skipBlank h := by simpa using h
  advance h := by rw [Cursor.significant_advance, Cursor.significant_advance, h]
  ahead h := Cursor.ahead_of_significant h
  lineNumber _ := rfl
  error_mk _ _ _ := trivial
  error_deepest _ _ := trivial

/-! ## Progress -/

namespace Parser

variable {α : Type}

/-- A parser that moves only when it reads a line that is not blank. -/
def Steady (p : Parser α) : Prop :=
  ∀ c v n, p c = .ok v n → n.rest.length < c.rest.length →
    ∃ between, c.rest = between ++ n.rest ∧ ∃ l ∈ between, l.isBlank = false

theorem Consuming.steady {p : Parser α} (hp : Consuming p) : Steady p := fun c v n h _ => hp c v n h

/-- **The progress of a steady parser is in lines that are not blank.** -/
theorem Steady.length_lt_iff {p : Parser α} (hp : Steady p) (hd : Disciplined p)
    {c n : Cursor} {v : α} (h : p c = .ok v n) :
    n.rest.length < c.rest.length ↔
      (Line.significant n.rest).length < (Line.significant c.rest).length := by
  constructor
  · intro hlt
    obtain ⟨between, hrest, l, hl, hblank⟩ := hp c v n h hlt
    have hmem : l.trimmed ∈ Line.significant between := by
      refine List.mem_filter.2 ⟨List.mem_map_of_mem hl, ?_⟩
      simpa [Line.isBlank] using hblank
    have := List.length_pos_of_mem hmem
    rw [hrest, Line.significant_append, List.length_append]
    omega
  · intro hlt
    obtain ⟨between, hrest, -⟩ := hd.reaches h
    rw [hrest, Line.significant_append, List.length_append] at hlt
    rw [hrest, List.length_append]
    -- without lines in between there would be no progress
    have : between.length ≠ 0 := by
      intro hnil
      rw [List.length_eq_zero_iff.1 hnil] at hlt
      simp [Line.significant] at hlt
    omega

end Parser

/-- **Steady parsers make progress in both runs or in neither.** -/
theorem Likeness.movesAlike_of_steady {α : Type} {p : Parser α} (hp : Parser.Steady p)
    (hd : Parser.Disciplined p) : Likeness.byText.MovesAlike p := by
  intro c c' v v' n n' hc hv hv' hn
  rw [hp.length_lt_iff hd hv, hp.length_lt_iff hd hv', hc, hn]

/-! ## Trees -/

namespace Tree

/-- The functions of a tree look at nothing of a line but its text without the blanks at its
ends. -/
def LooksAtText : {α : Type} → Tree α → Prop
  | _, line f => ∀ l l' : Line, l.trimmed = l'.trimmed → f l = f l'
  | _, peek f => ∀ l l' : Line, l.trimmed = l'.trimmed → f l = f l'
  | _, finish => True
  | _, absent t => t.LooksAtText
  | _, optional t => t.LooksAtText
  | _, both s t => s.LooksAtText ∧ t.LooksAtText
  | _, first s t => s.LooksAtText ∧ t.LooksAtText
  | _, second s t => s.LooksAtText ∧ t.LooksAtText
  | _, orElse s t => s.LooksAtText ∧ t.LooksAtText
  | _, map t _ => t.LooksAtText
  | _, check t _ => t.LooksAtText
  | _, many element stop => element.LooksAtText ∧ stop.LooksAtText
  | _, several _ element stop => element.LooksAtText ∧ stop.LooksAtText

/-- What is repeated in a tree is steady. -/
def Steady : {α : Type} → Tree α → Prop
  | _, line _ => True
  | _, peek _ => True
  | _, finish => True
  | _, absent t => t.Steady
  | _, optional t => t.Steady
  | _, both s t => s.Steady ∧ t.Steady
  | _, first s t => s.Steady ∧ t.Steady
  | _, second s t => s.Steady ∧ t.Steady
  | _, orElse s t => s.Steady ∧ t.Steady
  | _, map t _ => t.Steady
  | _, check t _ => t.Steady
  | _, many element stop => Parser.Steady element.run ∧ element.Steady ∧ stop.Steady
  | _, several _ element stop => Parser.Steady element.run ∧ element.Steady ∧ stop.Steady

/-- **A tree cannot see blank lines**, if its functions do not and its repetitions are steady. -/
theorem blind_run {α : Type} (t : Tree α) (htext : t.LooksAtText) (hsteady : t.Steady) :
    Likeness.byText.Blind id t.run t.run := by
  induction t with
  | line f => exact .line fun l l' _ h => by rw [htext l l' h]
  | peek f => exact .peek fun l l' _ h => by rw [htext l l' h]
  | finish => exact .finish
  | absent t ih => exact (ih htext hsteady).absent
  | optional t ih =>
    have h := Likeness.Blind.optional (ih htext hsteady)
    rwa [Option.map_id] at h
  | both s t ihs iht =>
    have h := Likeness.Blind.both (ihs htext.1 hsteady.1) (iht htext.2 hsteady.2)
    rwa [Prod.map_id] at h
  | first s t ihs iht => exact (ihs htext.1 hsteady.1).first (iht htext.2 hsteady.2)
  | second s t ihs iht => exact (ihs htext.1 hsteady.1).second (iht htext.2 hsteady.2)
  | orElse s t ihs iht => exact (ihs htext.1 hsteady.1).orElse (iht htext.2 hsteady.2)
  | map t f ih => exact (ih htext hsteady).map fun _ _ h => congrArg f h
  | check t f ih => exact (ih htext hsteady).check fun _ _ h => by cases h; rfl
  | many element stop ihe ihs =>
    obtain ⟨hsteady, he, hs⟩ := hsteady
    have hm := Likeness.movesAlike_of_steady hsteady element.disciplined_run
    have h := Likeness.Blind.many (ihe htext.1 he) (ihs htext.2 hs) hm
    rwa [List.map_id_fun] at h
  | several name element stop ihe ihs =>
    obtain ⟨hsteady, he, hs⟩ := hsteady
    have hm := Likeness.movesAlike_of_steady hsteady element.disciplined_run
    have h := Likeness.Blind.several (ihe htext.1 he) (ihs htext.2 hs) hm name
    rwa [Several.map_id] at h

/-- **Blank lines mean nothing to a tree** whose functions look at the text of a line only, and
whose repetitions have steady elements: on two texts with the same lines that are not blank it
refuses both, or it reads the same value from both and leaves the same lines that are not blank. -/
theorem run_of_significant {α : Type} (t : Tree α) (htext : t.LooksAtText) (hsteady : t.Steady)
    {text text' : Text}
    (h : Line.significant (Line.split text) = Line.significant (Line.split text')) :
    (∃ e n e' n', t.run (Cursor.ofText text) = .fail e n ∧
      t.run (Cursor.ofText text') = .fail e' n') ∨
      ∃ v n n', t.run (Cursor.ofText text) = .ok v n ∧ t.run (Cursor.ofText text') = .ok v n' ∧
        Line.significant n.rest = Line.significant n'.rest := by
  rcases (t.blind_run htext hsteady (Cursor.ofText text) (Cursor.ofText text') h).cases with
    ⟨v, n, v', n', hv, hv', rfl, hn⟩ | ⟨e, n, e', n', he, he', -⟩
  · exact .inr ⟨_, n, n', hv, hv', hn⟩
  · exact .inl ⟨e, n, e', n', he, he'⟩

/-- The function of lines that reads the text of a line with a given start. -/
def starting (lead : Text) (l : Line) : Except Fault Text :=
  if l.trimmed.startsWith lead then .ok l.trimmed else .error .unexpectedLine

/-- A repetition of lines, each of one of two kinds. -/
theorem run_of_significant_lines :
    ∃ t : Tree (List Text), t.LooksAtText ∧ t.Steady ∧
      Line.significant (Line.split "a\n \n\nb".toList) = Line.significant
        (Line.split "a\n b".toList) ∧
      (∃ n, t.run (Cursor.ofText "a\n \n\nb".toList) = .ok ["a".toList, "b".toList] n) ∧
      ((∃ e n e' n', t.run (Cursor.ofText "a\n \n\nb".toList) = .fail e n ∧
          t.run (Cursor.ofText "a\n b".toList) = .fail e' n') ∨
        ∃ v n n', t.run (Cursor.ofText "a\n \n\nb".toList) = .ok v n ∧
          t.run (Cursor.ofText "a\n b".toList) = .ok v n' ∧
          Line.significant n.rest = Line.significant n'.rest) := by
  let t : Tree (List Text) :=
    .many (.orElse (.line (starting "a".toList)) (.line (starting "b".toList))) .finish
  have htext : t.LooksAtText := by
    refine ⟨⟨fun l l' h => ?_, fun l l' h => ?_⟩, trivial⟩ <;> rw [starting, starting, h]
  have hsteady : t.Steady :=
    ⟨((Parser.Consuming.line _).orElse (.line _)).steady, ⟨trivial, trivial⟩, trivial⟩
  have hlines : Line.significant (Line.split "a\n \n\nb".toList) =
      Line.significant (Line.split "a\n b".toList) := by
    decide
  have hread : (t.run (Cursor.ofText "a\n \n\nb".toList)).result =
      .ok ["a".toList, "b".toList] := by
    with_unfolding_all rfl
  refine ⟨t, htext, hsteady, hlines, ?_, t.run_of_significant htext hsteady hlines⟩
  cases h : t.run (Cursor.ofText "a\n \n\nb".toList) with
  | ok v n =>
    rw [h] at hread
    cases hread
    exact ⟨n, rfl⟩
  | fail e n =>
    rw [h] at hread
    cases hread

/-- **A repeated lookahead sees a blank line**: behind a line it is tried once more if it first has
to pass a blank line. -/
theorem not_run_of_significant_peek :
    ∃ t : Tree (List Text), t.LooksAtText ∧
      Line.significant (Line.split "a\n\nb".toList) = Line.significant (Line.split "a\nb".toList) ∧
      (t.run (Cursor.ofText "a\n\nb".toList)).result = .ok ["a".toList, "b".toList, "b".toList] ∧
      (t.run (Cursor.ofText "a\nb".toList)).result = .ok ["a".toList, "b".toList] := by
  refine ⟨.many (.orElse (.line (starting "a".toList)) (.peek (starting "b".toList))) .finish, ?_,
    ?_, ?_, ?_⟩
  · refine ⟨⟨fun l l' h => ?_, fun l l' h => ?_⟩, trivial⟩ <;> rw [starting, starting, h]
  · decide
  · with_unfolding_all rfl
  · with_unfolding_all rfl

end Tree

end PlainSpec
