import PlainSpec.Proofs.Grammar.Report
import PlainSpec.Proofs.Text.Neat

/-!
# Where a source is refused

Every refusal of a source names one of its lines, and there is something to see on that line, or the
source ends there.  Rules and combinators report such lines by their number in the list of numbered
lines; what is left is to find these lines in the text.

## Main results

* `Line.exists_of_reportable`: a line that can be reported is found in the text by its number.
* `Document.exists_line_of_parse`: the line that a refused source is refused at.
-/

namespace PlainSpec

open PlainSpec.Parser Grammar

namespace Line

theorem length_split (text : Text) : (split text).length = (text.splitOn '\n').length := by
  simp [split]

/-- **A line that can be reported is found in the text by its number**, and it is not blank, or it
is the last one. -/
theorem exists_of_reportable {text : Text} {n : Nat} (h : Reportable (split text) n) :
    1 ≤ n ∧ n ≤ (text.splitOn '\n').length ∧
      ∃ line, (text.splitOn '\n')[n - 1]? = some line ∧
        (Text.trim line ≠ [] ∨ n = (text.splitOn '\n').length) := by
  obtain ⟨l, hl, rfl, hvisible⟩ := h
  obtain ⟨i, hi, rfl⟩ := List.getElem_of_mem hl
  have hnumber : (split text)[i].number = i + 1 := number_split text hi
  have hlength : i < (text.splitOn '\n').length := length_split text ▸ hi
  rw [hnumber]
  refine ⟨by omega, by omega, _, List.getElem?_eq_getElem hlength, ?_⟩
  rcases hvisible with hfilled | hlast
  · left
    have htrimmed : (split text)[i].trimmed = Text.trim ((text.splitOn '\n')[i]) := by
      simp [split, trimmed, trim_dropReturn]
    intro hblank
    rw [isBlank, htrimmed, hblank] at hfilled
    cases hfilled
  · right
    have hend : (split text).length - 1 < (split text).length := by omega
    rw [List.getLast?_eq_getElem?, List.getElem?_eq_getElem hend, Option.some.injEq] at hlast
    have hlastNumber : (split text)[(split text).length - 1].number = (split text).length - 1 + 1 :=
      number_split text hend
    rw [hlast, hnumber, length_split] at hlastNumber
    omega

end Line

/-- **A source is refused at one of its lines.**  The line is not blank, or it is the last one,
where the source ends. -/
theorem Document.exists_line_of_parse {source : Path} {dialect : Dialect} {text : Text}
    {error : ParseError} (h : Document.parse source dialect text = .error error) :
    1 ≤ error.line ∧ error.line ≤ (text.splitOn '\n').length ∧
      ∃ line, (text.splitOn '\n')[error.line - 1]? = some line ∧
        (Text.trim line ≠ [] ∨ error.line = (text.splitOn '\n').length) := by
  have hin : (Cursor.ofText text).In (Line.split text) := by
    refine ⟨Cursor.lines_start _, ?_⟩
    rw [← List.length_pos_iff, Line.length_split, List.length_pos_iff]
    exact List.splitOn_ne_nil '\n' text
  apply Line.exists_of_reportable
  cases dialect with
  | reqsml => exact ReqsML.reports_requirements.result hin h
  | gherkin => exact Gherkin.reports_feature.result hin h

/-- A text block that is never closed is refused at the end of the source, which is a blank line. -/
theorem Document.exists_line_of_parse_unclosed :
    ∃ error, Document.parse ⟨"a".toList⟩ .gherkin
        "Feature: a\nScenario: b\nGiven c\n\"\"\"\nd\n".toList = .error error ∧
      error.line = 6 ∧
      1 ≤ error.line ∧
        error.line ≤ ("Feature: a\nScenario: b\nGiven c\n\"\"\"\nd\n".toList.splitOn '\n').length ∧
        ∃ line,
          ("Feature: a\nScenario: b\nGiven c\n\"\"\"\nd\n".toList.splitOn '\n')[error.line - 1]? =
            some line ∧
          (Text.trim line ≠ [] ∨ error.line =
            ("Feature: a\nScenario: b\nGiven c\n\"\"\"\nd\n".toList.splitOn '\n').length) := by
  have hparse : Document.parse ⟨"a".toList⟩ .gherkin
      "Feature: a\nScenario: b\nGiven c\n\"\"\"\nd\n".toList =
        .error ⟨6, .unrecognised, .textNotClosed (Dialect.textDelimiter .gherkin)⟩ := by
    with_unfolding_all rfl
  exact ⟨_, hparse, rfl, Document.exists_line_of_parse hparse⟩

end PlainSpec
