import PlainSpec.Proofs.Parser.Tree
import PlainSpec.Document.Parse

/-!
# The discipline of the cursor in the grammars

Every rule of the two dialects keeps the discipline of the cursor.  Most rules are put together from
combinators and inherit it; the text block, the statements of an example without a title and the two
templates read the cursor themselves, and each has an argument of its own.

## Main definitions

* `Grammar.Rule p`: the parser is a rule of one of the grammars.
* `Parser.KeepsPlace`: the discipline, told by positions in a list of lines.

## Main results

* `Grammar.Rule.disciplined`: rules keep the discipline.
* `keepsPlace_of_tree_or_rule`: so do all parsers of the program, at every position of every source.
* `Grammar.consuming_statementWith`, …: the elements that are repeated consume.
-/

namespace PlainSpec

namespace Grammar

open PlainSpec.Parser

/-! ## Keywords, comments and data -/

theorem disciplined_titled (keywords : List Text) : Disciplined (titled keywords) := .line _

theorem disciplined_alone (keywords : List Text) : Disciplined (alone keywords) := .line _

theorem disciplined_commentLine (mark : Text) : Disciplined (commentLine mark) := .line _

theorem disciplined_comments (mark : Text) : Disciplined (comments mark) :=
  ((disciplined_commentLine mark).manyWhile _).map _

theorem disciplined_tableRow : Disciplined tableRow := .line _

theorem disciplined_tableRows : Disciplined tableRows := disciplined_tableRow.severalWhile _ _

/-- A body that is closed ends behind the place where it starts. -/
theorem reaches_bodyUntil {delimiter : Text} {passed rest : List Line} {body : List Text}
    {n : Cursor} (h : bodyUntil delimiter passed rest = some (body, n)) :
    Cursor.Reaches ⟨passed, rest⟩ n := by
  induction rest generalizing passed body with
  | nil => simp [bodyUntil] at h
  | cons line rest ih =>
    have hstep : Cursor.Reaches ⟨passed, line :: rest⟩ ⟨line :: passed, rest⟩ := ⟨[line], by simp⟩
    simp only [bodyUntil] at h
    split at h
    · cases h
      exact hstep
    · obtain ⟨⟨body', n'⟩, hn, heq⟩ := Option.map_eq_some_iff.1 h
      cases heq
      exact hstep.trans (ih hn)

theorem disciplined_textBody (dialect : Dialect) : Disciplined (textBody dialect) := by
  intro c
  unfold textBody
  split
  · rfl
  · rename_i hn
    split
    · rfl
    · exact reaches_bodyUntil hn

theorem disciplined_textBlock (dialect : Dialect) : Disciplined (textBlock dialect) :=
  Disciplined.bind (.line _) fun _ => disciplined_textBody dialect

theorem disciplined_data (dialect : Dialect) : Disciplined (data dialect) := by
  have hrows {α : Type} (f : Several TableRow → Except Invalid α) :
      Disciplined (check tableRows f) :=
    disciplined_tableRows.check f
  cases dialect with
  | gherkin =>
    exact ((((disciplined_textBlock _).orElse (hrows _)).orElse (hrows _)).orElse (hrows _)).orElse
      (hrows _)
  | reqsml =>
    exact ((((disciplined_textBlock _).orElse (hrows _)).orElse (hrows _)).orElse (hrows _)).orElse
      (hrows _)

theorem disciplined_optionalData (dialect : Dialect) : Disciplined (optionalData dialect) :=
  (disciplined_data dialect).whenAhead _

/-! ## Statements of either dialect -/

theorem disciplined_statementWith {heading : Parser Heading} (h : Disciplined heading)
    (dialect : Dialect) (mark : Text) : Disciplined (statementWith dialect mark heading) :=
  (((disciplined_comments mark).both h).both (disciplined_optionalData dialect)).map _

theorem consuming_statementWith {heading : Parser Heading} (h : Consuming heading)
    (dialect : Dialect) (mark : Text) : Consuming (statementWith dialect mark heading) :=
  ((Consuming.both_right (disciplined_comments mark) h).both_left
    (disciplined_optionalData dialect)).map _

theorem disciplined_statementStart {heading : Parser Heading} (h : Disciplined heading)
    (mark : Text) : Disciplined (statementStart mark heading) :=
  ((disciplined_comments mark).both h).map _

/-! ## The tabular dialect -/

namespace ReqsML

theorem disciplined_optionalMetadata : Disciplined optionalMetadata :=
  Disciplined.whenAhead (Disciplined.check (.line _) _) _

theorem disciplined_header : Disciplined header :=
  ((disciplined_comments _).both disciplined_optionalMetadata).map _

theorem disciplined_keywordLine : Disciplined keywordLine := .line _

theorem disciplined_statement : Disciplined statement :=
  disciplined_statementWith disciplined_keywordLine _ _

theorem consuming_statement : Consuming statement := consuming_statementWith (.line _) _ _

theorem disciplined_bulletLine (kind : StatementKind) : Disciplined (bulletLine kind) := .line _

theorem disciplined_bullet (kind : StatementKind) :
    Disciplined (statementWith .reqsml commentMark (bulletLine kind)) :=
  disciplined_statementWith (disciplined_bulletLine kind) _ _

theorem disciplined_bullets (kind : StatementKind) : Disciplined (bullets kind) :=
  (disciplined_bullet kind).manyWhile _

theorem disciplined_singleStatement : Disciplined singleStatement := disciplined_statement.check _

theorem disciplined_statementList : Disciplined statementList :=
  (disciplined_statement.bind fun _ => (disciplined_bullets _).map _).check _

theorem disciplined_statementGroup : Disciplined statementGroup :=
  disciplined_singleStatement.orElse disciplined_statementList

theorem consuming_statementGroup : Consuming statementGroup :=
  (consuming_statement.check _).orElse
    ((consuming_statement.bind_left fun _ => (disciplined_bullets _).map _).check _)

theorem disciplined_statements : Disciplined statements :=
  (disciplined_statementGroup.severalWhile _ _).map _

/-- The header is only looked at: the statements are read from the place where it starts. -/
theorem disciplined_inlineStatements : Disciplined inlineStatements := by
  intro c
  unfold inlineStatements
  split
  · rfl
  · split
    · rfl
    · exact disciplined_statements c

theorem disciplined_exampleRow : Disciplined exampleRow :=
  ((disciplined_comments _).both (.line _)).map _

theorem consuming_exampleRow : Consuming exampleRow :=
  (Consuming.both_right (disciplined_comments _) (.line _)).map _

theorem disciplined_exampleRows : Disciplined exampleRows :=
  (disciplined_exampleRow.severalWhile _ _).map _

theorem disciplined_headed (keywords : List Text) : Disciplined (both header (titled keywords)) :=
  disciplined_header.both (disciplined_titled keywords)

theorem consuming_headed (keywords : List Text) : Consuming (both header (titled keywords)) :=
  .both_right disciplined_header (.line _)

theorem disciplined_singleExample : Disciplined singleExample :=
  ((disciplined_headed _).both disciplined_statements).check _

theorem consuming_singleExample : Consuming singleExample :=
  ((consuming_headed _).both_left disciplined_statements).check _

/-- What a template is checked by depends on its place, so the discipline is that of a check at each
place. -/
theorem disciplined_exampleSet : Disciplined exampleSet := fun c =>
  (((((disciplined_headed _).both disciplined_statements).first
    (disciplined_alone _)).both disciplined_exampleRows).check _) c

theorem consuming_exampleSet : Consuming exampleSet := fun c v n h =>
  (((((consuming_headed _).both_left disciplined_statements).first_left
    (disciplined_alone _)).both_left disciplined_exampleRows).check _) c v n h

theorem disciplined_exampleStart : Disciplined exampleStart := (disciplined_headed _).map _

/-- An element of the examples of a requirement. -/
theorem disciplined_block :
    Disciplined (orElse exampleSet (map singleExample fun e => [e])) :=
  disciplined_exampleSet.orElse (disciplined_singleExample.map _)

theorem consuming_block : Consuming (orElse exampleSet (map singleExample fun e => [e])) :=
  consuming_exampleSet.orElse (consuming_singleExample.map _)

theorem disciplined_examples : Disciplined examples := (disciplined_block.severalWhile _ _).map _

theorem disciplined_optionalRows : Disciplined optionalRows :=
  ((disciplined_alone _).second disciplined_exampleRows).whenAhead _

theorem disciplined_inlineExamples : Disciplined inlineExamples := fun c =>
  ((disciplined_inlineStatements.both disciplined_optionalRows).check _) c

theorem disciplined_requirement : Disciplined requirement :=
  ((disciplined_headed _).both (disciplined_inlineExamples.orElse disciplined_examples)).map _

theorem consuming_requirement : Consuming requirement :=
  ((consuming_headed _).both_left (disciplined_inlineExamples.orElse disciplined_examples)).map _

theorem disciplined_requirements : Disciplined requirements := disciplined_requirement.several _ _

end ReqsML

/-! ## The narrative dialect -/

namespace Gherkin

theorem disciplined_optionalTags : Disciplined optionalTags :=
  Disciplined.whenAhead (Disciplined.check (.line _) _) _

theorem disciplined_header : Disciplined header :=
  (((disciplined_comments _).both disciplined_optionalTags).both (disciplined_comments _)).map _

theorem disciplined_aheadIs (test : Text → Bool) : Disciplined (aheadIs test) := .peek _

theorem disciplined_freeText : Disciplined freeText := (Disciplined.many (.line _) _).map _

theorem disciplined_stepLine : Disciplined stepLine := .line _

theorem disciplined_step : Disciplined (statementWith .gherkin commentMark stepLine) :=
  disciplined_statementWith disciplined_stepLine _ _

theorem disciplined_continuationLine (kind : StatementKind) :
    Disciplined (continuationLine kind) := .line _

theorem disciplined_continuation (kind : StatementKind) :
    Disciplined (statementWith .gherkin commentMark (continuationLine kind)) :=
  disciplined_statementWith (disciplined_continuationLine kind) _ _

theorem disciplined_continuations (kind : StatementKind) : Disciplined (continuations kind) :=
  (disciplined_continuation kind).manyWhile _

theorem disciplined_statementGroup : Disciplined statementGroup :=
  disciplined_step.bind fun _ => (disciplined_continuations _).map _

theorem consuming_statementGroup : Consuming statementGroup :=
  (consuming_statementWith (.line _) _ _).bind_left fun _ => (disciplined_continuations _).map _

theorem disciplined_statements : Disciplined statements :=
  (disciplined_statementGroup.severalWhile _ _).map _

theorem disciplined_headed (keywords : List Text) :
    Disciplined (first (both header (titled keywords)) freeText) :=
  (disciplined_header.both (disciplined_titled keywords)).first disciplined_freeText

theorem consuming_headed (keywords : List Text) :
    Consuming (first (both header (titled keywords)) freeText) :=
  (Consuming.both_right disciplined_header (.line _)).first_left disciplined_freeText

theorem disciplined_scenario : Disciplined scenario :=
  ((disciplined_headed _).both disciplined_statements).check _

theorem disciplined_exampleRow : Disciplined exampleRow :=
  (disciplined_header.both disciplined_tableRow).map _

theorem consuming_exampleRow : Consuming exampleRow :=
  (Consuming.both_right disciplined_header (.line _)).map _

theorem disciplined_outline : Disciplined outline := fun c =>
  (((((disciplined_headed _).both disciplined_statements).first (disciplined_alone _)).both
    (disciplined_exampleRow.severalWhile _ _)).check _) c

theorem disciplined_exampleStart : Disciplined exampleStart :=
  (disciplined_header.both (disciplined_aheadIs _)).map _

/-- An element of the examples of a rule. -/
theorem disciplined_block : Disciplined (orElse outline (map scenario fun e => [e])) :=
  disciplined_outline.orElse (disciplined_scenario.map _)

theorem consuming_block : Consuming (orElse outline (map scenario fun e => [e])) := by
  have hscenario : Consuming scenario :=
    ((consuming_headed _).both_left disciplined_statements).check _
  have houtline : Consuming outline := fun c v n h =>
    (((((consuming_headed _).both_left disciplined_statements).first_left
      (disciplined_alone _)).both_left (disciplined_exampleRow.severalWhile _ _)).check _) c v n h
  exact houtline.orElse (hscenario.map _)

theorem disciplined_examples : Disciplined examples := (disciplined_block.severalWhile _ _).map _

theorem disciplined_rule : Disciplined rule :=
  ((disciplined_headed _).both disciplined_examples).map _

theorem consuming_rule : Consuming rule :=
  ((consuming_headed _).both_left disciplined_examples).map _

theorem disciplined_body : Disciplined body :=
  ((disciplined_rule.several _ _).map _).orElse ((disciplined_examples.first .finish).map _)

theorem disciplined_feature : Disciplined feature := (disciplined_headed _).both disciplined_body

end Gherkin

/-! ## All rules -/

/-- The rules of the grammars. -/
inductive Rule : {α : Type} → Parser α → Prop where
  | titled (keywords : List Text) : Rule (titled keywords)
  | alone (keywords : List Text) : Rule (alone keywords)
  | commentLine (mark : Text) : Rule (commentLine mark)
  | comments (mark : Text) : Rule (comments mark)
  | tableRow : Rule tableRow
  | tableRows : Rule tableRows
  | textBlock (dialect : Dialect) : Rule (textBlock dialect)
  | data (dialect : Dialect) : Rule (data dialect)
  | optionalData (dialect : Dialect) : Rule (optionalData dialect)
  | optionalMetadata : Rule ReqsML.optionalMetadata
  | header : Rule ReqsML.header
  | keywordLine : Rule ReqsML.keywordLine
  | statement : Rule ReqsML.statement
  | statementStart : Rule (statementStart ReqsML.commentMark ReqsML.keywordLine)
  | bulletLine (kind : StatementKind) : Rule (ReqsML.bulletLine kind)
  | bulletStart (kind : StatementKind) :
      Rule (Grammar.statementStart ReqsML.commentMark (ReqsML.bulletLine kind))
  | bullet (kind : StatementKind) :
      Rule (statementWith .reqsml ReqsML.commentMark (ReqsML.bulletLine kind))
  | bullets (kind : StatementKind) : Rule (ReqsML.bullets kind)
  | singleStatement : Rule ReqsML.singleStatement
  | statementList : Rule ReqsML.statementList
  | statementGroup : Rule ReqsML.statementGroup
  | statements : Rule ReqsML.statements
  | inlineStatements : Rule ReqsML.inlineStatements
  | exampleRow : Rule ReqsML.exampleRow
  | exampleRows : Rule ReqsML.exampleRows
  | singleExample : Rule ReqsML.singleExample
  | exampleSet : Rule ReqsML.exampleSet
  | exampleStart : Rule ReqsML.exampleStart
  | examples : Rule ReqsML.examples
  | optionalRows : Rule ReqsML.optionalRows
  | inlineExamples : Rule ReqsML.inlineExamples
  | requirement : Rule ReqsML.requirement
  | requirements : Rule ReqsML.requirements
  | optionalTags : Rule Gherkin.optionalTags
  | tagHeader : Rule Gherkin.header
  | aheadIs (test : Text → Bool) : Rule (Gherkin.aheadIs test)
  | freeText : Rule Gherkin.freeText
  | stepLine : Rule Gherkin.stepLine
  | step : Rule (statementWith .gherkin Gherkin.commentMark Gherkin.stepLine)
  | stepStart : Rule (Grammar.statementStart Gherkin.commentMark Gherkin.stepLine)
  | continuationLine (kind : StatementKind) : Rule (Gherkin.continuationLine kind)
  | continuationStart (kind : StatementKind) :
      Rule (Grammar.statementStart Gherkin.commentMark (Gherkin.continuationLine kind))
  | continuation (kind : StatementKind) :
      Rule (statementWith .gherkin Gherkin.commentMark (Gherkin.continuationLine kind))
  | continuations (kind : StatementKind) : Rule (Gherkin.continuations kind)
  | stepGroup : Rule Gherkin.statementGroup
  | steps : Rule Gherkin.statements
  | scenario : Rule Gherkin.scenario
  | taggedRow : Rule Gherkin.exampleRow
  | outline : Rule Gherkin.outline
  | scenarioStart : Rule Gherkin.exampleStart
  | scenarios : Rule Gherkin.examples
  | rule : Rule Gherkin.rule
  | body : Rule Gherkin.body
  | feature : Rule Gherkin.feature

/-- **Every rule keeps the discipline of the cursor.** -/
theorem Rule.disciplined {α : Type} {p : Parser α} (h : Rule p) : Disciplined p := by
  cases h with
  | titled keywords => exact disciplined_titled keywords
  | alone keywords => exact disciplined_alone keywords
  | commentLine mark => exact disciplined_commentLine mark
  | comments mark => exact disciplined_comments mark
  | tableRow => exact disciplined_tableRow
  | tableRows => exact disciplined_tableRows
  | textBlock dialect => exact disciplined_textBlock dialect
  | data dialect => exact disciplined_data dialect
  | optionalData dialect => exact disciplined_optionalData dialect
  | optionalMetadata => exact ReqsML.disciplined_optionalMetadata
  | header => exact ReqsML.disciplined_header
  | keywordLine => exact ReqsML.disciplined_keywordLine
  | statement => exact ReqsML.disciplined_statement
  | statementStart => exact disciplined_statementStart ReqsML.disciplined_keywordLine _
  | bulletLine kind => exact ReqsML.disciplined_bulletLine kind
  | bulletStart kind => exact disciplined_statementStart (ReqsML.disciplined_bulletLine kind) _
  | bullet kind => exact ReqsML.disciplined_bullet kind
  | bullets kind => exact ReqsML.disciplined_bullets kind
  | singleStatement => exact ReqsML.disciplined_singleStatement
  | statementList => exact ReqsML.disciplined_statementList
  | statementGroup => exact ReqsML.disciplined_statementGroup
  | statements => exact ReqsML.disciplined_statements
  | inlineStatements => exact ReqsML.disciplined_inlineStatements
  | exampleRow => exact ReqsML.disciplined_exampleRow
  | exampleRows => exact ReqsML.disciplined_exampleRows
  | singleExample => exact ReqsML.disciplined_singleExample
  | exampleSet => exact ReqsML.disciplined_exampleSet
  | exampleStart => exact ReqsML.disciplined_exampleStart
  | examples => exact ReqsML.disciplined_examples
  | optionalRows => exact ReqsML.disciplined_optionalRows
  | inlineExamples => exact ReqsML.disciplined_inlineExamples
  | requirement => exact ReqsML.disciplined_requirement
  | requirements => exact ReqsML.disciplined_requirements
  | optionalTags => exact Gherkin.disciplined_optionalTags
  | tagHeader => exact Gherkin.disciplined_header
  | aheadIs test => exact Gherkin.disciplined_aheadIs test
  | freeText => exact Gherkin.disciplined_freeText
  | stepLine => exact Gherkin.disciplined_stepLine
  | step => exact Gherkin.disciplined_step
  | stepStart => exact disciplined_statementStart Gherkin.disciplined_stepLine _
  | continuationLine kind => exact Gherkin.disciplined_continuationLine kind
  | continuationStart kind =>
    exact disciplined_statementStart (Gherkin.disciplined_continuationLine kind) _
  | continuation kind => exact Gherkin.disciplined_continuation kind
  | continuations kind => exact Gherkin.disciplined_continuations kind
  | stepGroup => exact Gherkin.disciplined_statementGroup
  | steps => exact Gherkin.disciplined_statements
  | scenario => exact Gherkin.disciplined_scenario
  | taggedRow => exact Gherkin.disciplined_exampleRow
  | outline => exact Gherkin.disciplined_outline
  | scenarioStart => exact Gherkin.disciplined_exampleStart
  | scenarios => exact Gherkin.disciplined_examples
  | rule => exact Gherkin.disciplined_rule
  | body => exact Gherkin.disciplined_body
  | feature => exact Gherkin.disciplined_feature

end Grammar

/-! ## The discipline by positions -/

/-- At every position of every list of lines, a refusal leaves the position as it is, and a value is
followed by a position that is not smaller and not past the end. -/
def Parser.KeepsPlace {α : Type} (p : Parser α) : Prop :=
  ∀ (lines : List Line) (start : Nat), start ≤ lines.length →
    match p (Cursor.after lines start) with
    | .fail _ next => next = Cursor.after lines start
    | .ok _ next => ∃ stop, start ≤ stop ∧ stop ≤ lines.length ∧ next = Cursor.after lines stop

theorem Parser.Disciplined.keepsPlace {α : Type} {p : Parser α} (hp : Parser.Disciplined p) :
    p.KeepsPlace := by
  intro lines start hstart
  split
  · rename_i e next h
    have := hp (Cursor.after lines start)
    rwa [h] at this
  · rename_i v next h
    exact Cursor.reaches_after hstart (hp.reaches h)

/-- **Cursors move only on success, only forwards, and never past the end**, in every parser that is
put together from the combinators and in every rule of the grammars.  A failed lookahead, a
successful one, and an optional parser that reads nothing leave the cursor where it is. -/
theorem keepsPlace_of_tree_or_rule :
    (∀ {α : Type} (t : Tree α), t.run.KeepsPlace) ∧
    (∀ {α : Type} {p : Parser α}, Grammar.Rule p → p.KeepsPlace) ∧
    ∀ {α : Type} (p : Parser α) (lines : List Line) (start : Nat), start ≤ lines.length →
      (Parser.absent p (Cursor.after lines start)).next = Cursor.after lines start ∧
      ∀ next, Parser.optional p (Cursor.after lines start) = .ok none next →
        next = Cursor.after lines start := by
  refine ⟨fun t => t.disciplined_run.keepsPlace, fun h => h.disciplined.keepsPlace, ?_⟩
  intro α p lines start _
  constructor
  · unfold Parser.absent
    split
    · rfl
    · rfl
  · intro next h
    rcases Parser.optional_eq_ok.1 h with ⟨a, ⟨⟩, -⟩ | ⟨-, -, hn⟩
    exact hn

/-- The discipline at work: after the first line of a source, a requirement is refused and the
cursor stays; and looking for a requirement title there does not move it. -/
theorem keepsPlace_of_tree_or_rule_second_line :
    1 ≤ (Line.split "Requirement: a\n\nIf: b".toList).length ∧
    (Grammar.ReqsML.requirement
      (Cursor.after (Line.split "Requirement: a\n\nIf: b".toList) 1)).next =
        Cursor.after (Line.split "Requirement: a\n\nIf: b".toList) 1 ∧
    (Parser.absent (Parser.line fun l => Grammar.readTitle ["Requirement:".toList] l.trimmed)
      (Cursor.after (Line.split "Requirement: a\n\nIf: b".toList) 1)).next =
        Cursor.after (Line.split "Requirement: a\n\nIf: b".toList) 1 := by
  have hlen : 1 ≤ (Line.split "Requirement: a\n\nIf: b".toList).length := by decide
  refine ⟨hlen, ?_, (keepsPlace_of_tree_or_rule.2.2 _ _ 1 hlen).1⟩
  have h := keepsPlace_of_tree_or_rule.2.1 .requirement
    (Line.split "Requirement: a\n\nIf: b".toList) 1 hlen
  have hfail : (Grammar.ReqsML.requirement
      (Cursor.after (Line.split "Requirement: a\n\nIf: b".toList) 1)).isOk = false := by
    decide +kernel
  cases hreply : Grammar.ReqsML.requirement
      (Cursor.after (Line.split "Requirement: a\n\nIf: b".toList) 1) with
  | ok v n => rw [hreply] at hfail; cases hfail
  | fail e n => rw [hreply] at h; exact h

end PlainSpec
