import PlainSpec.Proofs.Grammar.Discipline
import PlainSpec.Proofs.Parser.Repetition

/-!
# The repetitions of the grammars

The rules of both dialects repeat lines, rows, statements, examples and requirements.  Whatever is
repeated reads a line that is not blank, so no repetition of a grammar ends because it is stuck:
each goes on until its terminator succeeds.

## Main definitions

* `Grammar.Repeats`: what is repeated in the grammars, and up to where.

## Main results

* `Grammar.Repeats.consuming`: repeated elements consume.
* `replies_of_repetition`: the replies of every repetition, and the ends of those in the grammars.
-/

namespace PlainSpec

open PlainSpec.Parser

namespace Grammar

/-- The terminator of what is repeated as long as it starts. -/
def noMore {α : Type} (starts : Parser α) : Parser Unit := orElse finish (absent starts)

/-- The repetitions in the rules of the grammars: an element and its terminator. -/
inductive Repeats : {α β : Type} → Parser α → Parser β → Prop where
  /-- Comments, in either dialect. -/
  | comments (mark : Text) : Repeats (commentLine mark) (noMore (commentLine mark))
  /-- The rows of a block of data, in either dialect. -/
  | tableRows : Repeats tableRow (noMore tableRow)
  /-- The bullets below a keyword. -/
  | bullets (kind : StatementKind) :
      Repeats (statementWith .reqsml ReqsML.commentMark (ReqsML.bulletLine kind))
        (noMore (statementStart ReqsML.commentMark (ReqsML.bulletLine kind)))
  /-- The statements of an example. -/
  | statements :
      Repeats ReqsML.statementGroup (noMore (statementStart ReqsML.commentMark ReqsML.keywordLine))
  /-- The rows of a table of examples. -/
  | exampleRows : Repeats ReqsML.exampleRow (noMore ReqsML.exampleRow)
  /-- Titled examples and templates. -/
  | examples :
      Repeats (orElse ReqsML.exampleSet (map ReqsML.singleExample fun e => [e]))
        (noMore ReqsML.exampleStart)
  /-- The requirements of a source. -/
  | requirements : Repeats ReqsML.requirement finish
  /-- Free text below a title of the narrative dialect. -/
  | freeText :
      Repeats (line fun _ => .ok () : Parser Unit)
        (orElse finish (Gherkin.aheadIs Gherkin.startsConstruct))
  /-- The statements that go on with a step. -/
  | continuations (kind : StatementKind) :
      Repeats (statementWith .gherkin Gherkin.commentMark (Gherkin.continuationLine kind))
        (noMore (statementStart Gherkin.commentMark (Gherkin.continuationLine kind)))
  /-- The statements of a scenario. -/
  | steps :
      Repeats Gherkin.statementGroup (noMore (statementStart Gherkin.commentMark Gherkin.stepLine))
  /-- The rows of the table of an outline. -/
  | taggedRows : Repeats Gherkin.exampleRow (noMore Gherkin.exampleRow)
  /-- Scenarios and outlines. -/
  | scenarios :
      Repeats (orElse Gherkin.outline (map Gherkin.scenario fun e => [e]))
        (noMore Gherkin.exampleStart)
  /-- The rules of a feature. -/
  | rules : Repeats Gherkin.rule finish

/-- **What is repeated reads a line that is not blank** whenever it succeeds. -/
theorem Repeats.consuming {α β : Type} {element : Parser α} {stop : Parser β}
    (h : Repeats element stop) : Consuming element := by
  cases h with
  | comments mark => exact .line _
  | tableRows => exact .line _
  | bullets kind => exact consuming_statementWith (.line _) _ _
  | statements => exact ReqsML.consuming_statementGroup
  | exampleRows => exact ReqsML.consuming_exampleRow
  | examples => exact ReqsML.consuming_block
  | requirements => exact ReqsML.consuming_requirement
  | freeText => exact .line _
  | continuations kind => exact consuming_statementWith (.line _) _ _
  | steps => exact Gherkin.consuming_statementGroup
  | taggedRows => exact Gherkin.consuming_exampleRow
  | scenarios => exact Gherkin.consuming_block
  | rules => exact Gherkin.consuming_rule

end Grammar

/-- **Repetition.**  With an element that obeys the discipline of the cursor, and any terminator, a
repetition comes to an end.  It reads values exactly if these are read one behind the other, the
terminator refuses in front of each, all but the last move the cursor, and behind the last one the
terminator succeeds or the cursor has not moved.  It is refused exactly where, behind such elements,
the terminator and the element refuse, with the refusal of the element; a repetition of at least one
element is also refused without any.  In the grammars every repeated element reads a line that is
not blank, and the terminator succeeds where a repetition ends. -/
theorem replies_of_repetition :
    (∀ {α β : Type} {element : Parser α} (stop : Parser β), Disciplined element →
      (WellFounded fun m c => Turns element stop c m) ∧
      ∀ (lines : List Line) (start : Nat), start ≤ lines.length →
        (∀ values next, many element stop (.after lines start) = .ok values next ↔
          ∃ place, Chain element stop lines (Line.pastBlank lines start) place values ∧
            Ends stop lines place values.length ∧ next = .after lines (place values.length)) ∧
        (∀ error next, many element stop (.after lines start) = .fail error next ↔
          next = .after lines start ∧
            ∃ place, ∃ values : List α,
              Chain element stop lines (Line.pastBlank lines start) place values ∧
              Refuses stop (.after lines (place values.length)) ∧
              ∃ n, element (.after lines (place values.length)) = .fail error n) ∧
        ∀ name,
          (∀ values next, several name element stop (.after lines start) = .ok values next ↔
            many element stop (.after lines start) = .ok values.toList next) ∧
          ∀ error next, several name element stop (.after lines start) = .fail error next ↔
            many element stop (.after lines start) = .fail error next ∨
              next = .after lines start ∧ ∃ n, many element stop (.after lines start) = .ok [] n ∧
                error = ⟨n.lineNumber, .unrecognised, .noneFound name⟩) ∧
    ∀ {α β : Type} {element : Parser α} {stop : Parser β}, Grammar.Repeats element stop →
      Consuming element ∧
        ∀ c values next, many element stop c = .ok values next → ∃ v n, stop next = .ok v n := by
  constructor
  · intro α β element stop he
    refine ⟨wellFounded_turns he stop, fun lines start hstart => ⟨?_, ?_, fun name => ⟨?_, ?_⟩⟩⟩
    · exact fun values next => many_eq_ok_iff_chain he hstart
    · exact fun error next => many_eq_fail_iff_chain he hstart
    · exact fun values next => several_eq_ok.trans many_eq_ok.symm
    · exact fun error next => several_eq_fail
  · intro α β element stop h
    exact ⟨h.consuming, fun c values next hread => stop_of_run h.consuming (many_eq_ok.1 hread)⟩

/-- Two rows with a blank line in front of each: the chain starts behind the first of these, at
position 1. -/
theorem replies_of_repetition_rows :
    Disciplined Grammar.tableRow ∧ 0 ≤ (Line.split "\n|a|\n\n|b|\nc".toList).length ∧
      Grammar.Repeats Grammar.tableRow (Grammar.noMore Grammar.tableRow) ∧
      Consuming Grammar.tableRow ∧
      ∃ place, Chain Grammar.tableRow (Grammar.noMore Grammar.tableRow)
        (Line.split "\n|a|\n\n|b|\nc".toList) 1 place [⟨2, ["a".toList]⟩, ⟨4, ["b".toList]⟩] := by
  have hread : (many Grammar.tableRow (Grammar.noMore Grammar.tableRow)
      (.after (Line.split "\n|a|\n\n|b|\nc".toList) 0)).result =
        .ok [⟨2, ["a".toList]⟩, ⟨4, ["b".toList]⟩] := by
    with_unfolding_all rfl
  refine ⟨Grammar.disciplined_tableRow, Nat.zero_le _, .tableRows,
    (replies_of_repetition.2 .tableRows).1, ?_⟩
  cases h : many Grammar.tableRow (Grammar.noMore Grammar.tableRow)
      (.after (Line.split "\n|a|\n\n|b|\nc".toList) 0) with
  | ok values next =>
    rw [h] at hread
    cases hread
    obtain ⟨place, hchain, -⟩ :=
      ((replies_of_repetition.1 _ Grammar.disciplined_tableRow).2 _ 0 (Nat.zero_le _)).1 _ _ |>.1 h
    exact ⟨place, hchain⟩
  | fail e n =>
    rw [h] at hread
    cases hread

end PlainSpec
