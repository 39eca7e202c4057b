import Mathlib.Data.List.Forall2
import Mathlib.Data.List.Induction
import Mathlib.Data.Prod.Lex
import PlainSpec.Proofs.Parser.Outcome

/-!
# Alternatives and the refusal they report

A choice tries its alternatives in order, each from the place behind the blank lines, and reports
the deepest refusal if there is no value.  The rule for two refusals is not symmetric: on one line a
recognised construct wins in either position, and other ties go to the later one.  It is
nevertheless the choice of a greatest member: refusals are ordered by their line and then by their
kind, and of equal ones the last is taken.  That makes it associative, so a nest of choices depends
on its alternatives and their order only, and what it reports is the last of the greatest refusals.

## Main definitions

* `ParseError.depth`: what refusals are compared by.
* `ParseError.lastDeepest?`: the last of the greatest refusals.
* `Parser.Fails`: what a parser reports behind blank lines.
* `Parser.Choice`: alternatives in any nesting.

## Main results

* `ParseError.deepest_assoc`, `ParseError.foldl_deepest`: the rule for two refusals, applied to
  many.
* `Parser.orElse_assoc`: alternatives can be nested in either way.
* `Parser.Choice.parser_eq_foldl`: a nest of choices is the choice of its alternatives one by one.
* `Parser.Choice.fails`: what it reports when every alternative refuses.
-/

namespace PlainSpec

/-! ## The deepest of some refusals -/

/-- A recognised construct counts for more than an unrecognised line. -/
def ErrorKind.rank : ErrorKind → Nat
  | unrecognised => 0
  | invalid => 1

namespace ParseError

variable {a b : ParseError}

/-- How deep a refusal is: its line first, and then its kind. -/
def depth (e : ParseError) : Nat ×ₗ Nat := toLex (e.line, e.kind.rank)

/-- **A refusal is reported rather than a later one exactly when it is deeper.** -/
theorem outranks_iff : a.outranks b = true ↔ b.depth < a.depth := by
  rw [depth, depth, Prod.Lex.toLex_lt_toLex]
  obtain ⟨m, k, f⟩ := a
  obtain ⟨n, l, g⟩ := b
  cases k <;> cases l <;> simp [outranks, ErrorKind.rank]
  omega

theorem deepest_of_depth_lt (h : b.depth < a.depth) : a.deepest b = a := by
  rw [deepest, if_pos (outranks_iff.2 h)]

theorem deepest_of_depth_le (h : a.depth ≤ b.depth) : a.deepest b = b := by
  rw [deepest, if_neg (outranks_iff.not.2 h.not_gt)]

/-- **Of three refusals it does not matter which two are compared first.** -/
theorem deepest_assoc (a b c : ParseError) : (a.deepest b).deepest c = a.deepest (b.deepest c) := by
  rcases lt_or_ge b.depth a.depth with hab | hab
  · rcases lt_or_ge c.depth b.depth with hbc | hbc
    · rw [deepest_of_depth_lt hab, deepest_of_depth_lt hbc, deepest_of_depth_lt hab,
        deepest_of_depth_lt (hbc.trans hab)]
    · rw [deepest_of_depth_lt hab, deepest_of_depth_le hbc]
  · rcases lt_or_ge c.depth b.depth with hbc | hbc
    · rw [deepest_of_depth_le hab, deepest_of_depth_lt hbc, deepest_of_depth_le hab]
    · rw [deepest_of_depth_le hab, deepest_of_depth_le hbc, deepest_of_depth_le (hab.trans hbc)]

/-- Whether a refusal is at least as deep as each of a list. -/
def tops (errors : List ParseError) (e : ParseError) : Bool :=
  errors.all fun other => other.depth ≤ e.depth

theorem tops_iff {errors : List ParseError} {e : ParseError} :
    tops errors e = true ↔ ∀ other ∈ errors, other.depth ≤ e.depth := by
  simp [tops]

/-- The last of the refusals that are at least as deep as every other one. -/
def lastDeepest? (errors : List ParseError) : Option ParseError :=
  (errors.filter (tops errors)).getLast?

/-- The last of the deepest is known by what stands before and behind it. -/
theorem lastDeepest?_append {before after : List ParseError} {e : ParseError}
    (hbefore : ∀ other ∈ before, other.depth ≤ e.depth)
    (hafter : ∀ other ∈ after, other.depth < e.depth) :
    lastDeepest? (before ++ e :: after) = some e := by
  have htops : tops (before ++ e :: after) e = true := by
    refine tops_iff.2 fun other hother => ?_
    rcases List.mem_append.1 hother with h | h
    · exact hbefore other h
    · rcases List.mem_cons.1 h with rfl | h
      · exact le_rfl
      · exact (hafter other h).le
  have hnone : after.filter (tops (before ++ e :: after)) = [] := by
    rw [List.filter_eq_nil_iff]
    intro other hother htop
    have hle := tops_iff.1 htop e (by simp)
    exact absurd (hafter other hother) hle.not_gt
  rw [lastDeepest?, List.filter_append, List.filter_cons_of_pos htops, hnone, List.getLast?_concat]

/-- **Refusals compared one by one give the last of the deepest.** -/
theorem foldl_deepest (first : ParseError) (others : List ParseError) :
    ∃ before after, first :: others = before ++ others.foldl deepest first :: after ∧
      (∀ other ∈ before, other.depth ≤ (others.foldl deepest first).depth) ∧
      ∀ other ∈ after, other.depth < (others.foldl deepest first).depth := by
  -- the invariant of the comparison, with one more refusal at the end
  induction others using List.reverseRecOn with
  | nil => exact ⟨[], [], rfl, by simp, by simp⟩
  | append_singleton others e ih =>
    obtain ⟨before, after, heq, hbefore, hafter⟩ := ih
    rw [List.foldl_concat]
    generalize others.foldl deepest first = best at heq hbefore hafter ⊢
    rcases lt_or_ge e.depth best.depth with he | he
    · rw [deepest_of_depth_lt he]
      refine ⟨before, after ++ [e], by rw [← List.cons_append, heq]; simp, hbefore, ?_⟩
      simpa [or_imp, forall_and] using ⟨hafter, he⟩
    · rw [deepest_of_depth_le he]
      refine ⟨first :: others, [], by simp, ?_, by simp⟩
      rw [heq]
      intro other hother
      rcases List.mem_append.1 hother with h | h
      · exact (hbefore other h).trans he
      · rcases List.mem_cons.1 h with rfl | h
        · exact he
        · exact (hafter other h).le.trans he

theorem lastDeepest?_cons (first : ParseError) (others : List ParseError) :
    lastDeepest? (first :: others) = some (others.foldl deepest first) := by
  obtain ⟨before, after, heq, hbefore, hafter⟩ := foldl_deepest first others
  rw [heq, lastDeepest?_append hbefore hafter]

end ParseError

/-! ## Alternatives -/

namespace Parser

open ParseError

variable {α : Type} {p q : Parser α} {c : Cursor} {a b e : ParseError}

/-- Behind blank lines the parser refuses, and reports `e`. -/
def Fails (p : Parser α) (c : Cursor) (e : ParseError) : Prop := (p c.skipBlank).result = .error e

theorem result_eq_error {r : Reply α} : r.result = .error e ↔ ∃ n, r = .fail e n := by
  cases r <;> simp [Reply.result]

/-- An alternative passes blank lines by itself. -/
theorem result_orElse_skipBlank : (orElse p q c.skipBlank).result = (orElse p q c).result := by
  unfold orElse
  rw [Cursor.skipBlank_skipBlank]
  cases p c.skipBlank with
  | ok value next => rfl
  | fail earlier next => cases q c.skipBlank <;> rfl

theorem Fails.orElse (hp : Fails p c a) (hq : Fails q c b) :
    Fails (Parser.orElse p q) c (a.deepest b) := by
  obtain ⟨n, hp⟩ := result_eq_error.1 hp
  obtain ⟨m, hq⟩ := result_eq_error.1 hq
  rw [Fails, result_orElse_skipBlank, Parser.orElse, hp, hq]
  rfl

/-- **Alternatives can be nested in either way**: all of them start behind the same blank lines, and
the refusal that is reported does not depend on the order of comparison. -/
theorem orElse_assoc (p q r : Parser α) : orElse (orElse p q) r = orElse p (orElse q r) := by
  funext c
  unfold orElse
  simp only [Cursor.skipBlank_skipBlank]
  cases p c.skipBlank with
  | ok value next => rfl
  | fail earlier next =>
    cases q c.skipBlank with
    | ok value next => rfl
    | fail middle next =>
      cases r c.skipBlank with
      | ok value next => rfl
      | fail later next => simp only [deepest_assoc]

instance : Std.Associative (orElse (α := α)) := ⟨orElse_assoc⟩

/-- Alternatives in any nesting. -/
inductive Choice (α : Type) where
  /-- One alternative. -/
  | one (p : Parser α)
  /-- Two choices, tried in order. -/
  | either (earlier later : Choice α)

namespace Choice

/-- The parser that a nest of choices stands for. -/
def parser : Choice α → Parser α
  | one p => p
  | either earlier later => orElse earlier.parser later.parser

/-- The alternatives in their order. -/
def alternatives : Choice α → List (Parser α)
  | one p => [p]
  | either earlier later => earlier.alternatives ++ later.alternatives

theorem alternatives_ne_nil (t : Choice α) : t.alternatives ≠ [] := by
  induction t with
  | one p => simp [alternatives]
  | either earlier later ih _ => simp [alternatives, ih]

/-- **A nest of choices is the choice of its alternatives one by one.** -/
theorem parser_eq_foldl {t : Choice α} {first : Parser α} {others : List (Parser α)}
    (h : t.alternatives = first :: others) : t.parser = others.foldl orElse first := by
  induction t generalizing first others with
  | one p =>
    cases h
    rfl
  | either earlier later ihe ihl =>
    obtain ⟨p, ps, hp⟩ := List.exists_cons_of_ne_nil earlier.alternatives_ne_nil
    obtain ⟨q, qs, hq⟩ := List.exists_cons_of_ne_nil later.alternatives_ne_nil
    rw [alternatives, hp, hq, List.cons_append] at h
    cases h
    rw [parser, ihe hp, ihl hq, List.foldl_append, List.foldl_cons, List.foldl_assoc]

end Choice

/-- Alternatives that are tried one by one report the comparison of their refusals one by one. -/
theorem Fails.foldl (h : Fails p c e) {others : List (Parser α)} {errors : List ParseError}
    (hs : List.Forall₂ (fun q e => Fails q c e) others errors) :
    Fails (others.foldl Parser.orElse p) c (errors.foldl deepest e) := by
  induction hs generalizing p e with
  | nil => exact h
  | cons hq _ ih => exact ih (h.orElse hq)

/-- **A choice whose alternatives all refuse reports the last of the deepest refusals.** -/
theorem Choice.fails {t : Choice α} {errors : List ParseError}
    (h : List.Forall₂ (fun p e => Fails p c e) t.alternatives errors) :
    ∃ e, lastDeepest? errors = some e ∧ Fails t.parser c e := by
  obtain ⟨p, ps, hp⟩ := List.exists_cons_of_ne_nil t.alternatives_ne_nil
  rw [hp] at h
  cases h with
  | cons hfirst hothers =>
    refine ⟨_, lastDeepest?_cons _ _, ?_⟩
    rw [parser_eq_foldl hp]
    exact hfirst.foldl hothers

/-- **Alternation does not depend on how it is nested, and reports the deepest refusal.**  Three
alternatives give the same reply in either nesting; comparing refusals one by one gives the last of
those that are greatest by line and then by kind; and this is what any nest of choices reports when
all of its alternatives refuse. -/
theorem orElse_assoc_and_lastDeepest :
    (∀ {α : Type} (p q r : Parser α) (c : Cursor),
      orElse (orElse p q) r c = orElse p (orElse q r) c) ∧
    (∀ (first : ParseError) (others : List ParseError),
      lastDeepest? (first :: others) = some (others.foldl deepest first)) ∧
    ∀ {α : Type} (t : Choice α) (c : Cursor) (errors : List ParseError),
      List.Forall₂ (fun p e => Fails p c e) t.alternatives errors →
        ∃ e, lastDeepest? errors = some e ∧ Fails t.parser c e :=
  ⟨fun p q r c => by rw [orElse_assoc], lastDeepest?_cons, fun _ _ _ h => Choice.fails h⟩

/-- On one line a construct that was recognised is reported, although an alternative behind it
refuses the same line. -/
theorem orElse_assoc_and_lastDeepest_same_line :
    ∃ (t : Choice Unit) (errors : List ParseError),
      t = .either (.one finish)
        (.either (.one (check (line fun _ => .ok ()) fun _ => .error (.whole .emptyText)))
          (.one finish)) ∧
      errors = [⟨2, .unrecognised, .linesRemain⟩, ⟨2, .invalid, .emptyText⟩,
        ⟨2, .unrecognised, .linesRemain⟩] ∧
      List.Forall₂ (fun p e => Fails p (Cursor.ofText "\na".toList) e) t.alternatives errors ∧
      Fails t.parser (Cursor.ofText "\na".toList) ⟨2, .invalid, .emptyText⟩ := by
  refine ⟨_, _, rfl, rfl, ?_, ?_⟩
  · exact .cons rfl (.cons rfl (.cons rfl .nil))
  · obtain ⟨e, he, hfails⟩ := orElse_assoc_and_lastDeepest.2.2
      (.either (.one finish)
        (.either (.one (check (line fun _ => .ok ()) fun _ => .error (.whole .emptyText)))
          (.one finish)))
      (Cursor.ofText "\na".toList)
      [⟨2, .unrecognised, .linesRemain⟩, ⟨2, .invalid, .emptyText⟩,
        ⟨2, .unrecognised, .linesRemain⟩]
      (.cons rfl (.cons rfl (.cons rfl .nil)))
    cases he
    exact hfails

end Parser

end PlainSpec
