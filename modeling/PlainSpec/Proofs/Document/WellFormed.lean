import PlainSpec.Proofs.Document.Statements
import PlainSpec.Proofs.Grammar.WellFormed
import PlainSpec.Proofs.Template.Columns
import PlainSpec.Proofs.Template.Tokens

/-!
# Well-formed documents

There are two kinds of examples.  One was written as it stands; the other was made from a template
and a row of a table that fits the template.  The rules of both dialects end in one of the two,
whatever checks they make on the way, and the labels that an example inherits later do not change
what it is.  The shape of a whole document follows from this alone, and so does the match between
the values of an example and the tokens of its template.

## Main definitions

* `Example.Origin`: where an example comes from.
* `Requirement.Originates`: a requirement with examples of these origins.
* `Example.WellFormed`, `Requirement.WellFormed`, `Document.WellFormed`: the shape of a document.

## Main results

* `Document.originates_of_parse`: what the requirements of a document hold.
* `Document.wellFormed_of_parse`: every document that is read is well formed.
* `Template.expand_matches`: when a table is expanded, to what, and which values the examples of a
  document have.
-/

namespace PlainSpec

open PlainSpec.Parser Grammar

/-! ## Origins of examples -/

/-- Where an example comes from. -/
inductive Example.Origin (dialect : Dialect) (e : Example) : Prop where
  /-- It was written as it stands, without tokens. -/
  | written (hset : e.exampleSet = none) (hrow : e.specification = none) (hne : e.statements ≠ [])
      (hstatements : ∀ s ∈ e.statements, s.WellFormed dialect)
      (htokens : ∀ s ∈ e.statements, s.tokens = [])
  /-- It was made from a template and a row of a table that fits. -/
  | expanded {set : ExampleSet} {header row : TemplateRow} {rows : List TemplateRow}
      (hne : set.statements ≠ []) (hwell : ∀ s ∈ set.statements, s.WellFormed dialect)
      (hfits : Template.Fits set header rows) (hrow : row ∈ rows)
      (hset : e.exampleSet = some set)
      (hstatements : e.statements = (Template.expandRow set header row).statements)
      (hspecification : e.specification = (Template.expandRow set header row).specification)

/-- Inherited labels do not change where an example comes from. -/
theorem Example.Origin.withLabels {dialect : Dialect} {e : Example} (h : e.Origin dialect)
    (labels : Labels) : Example.Origin dialect { e with labels } := by
  cases h with
  | written hset hrow hne hstatements htokens => exact .written hset hrow hne hstatements htokens
  | expanded hne hwell hfits hrow hset hstatements hspecification =>
    exact .expanded hne hwell hfits hrow hset hstatements hspecification

theorem templated?_eq_none {ss : List Statement} :
    templated? ss = none ↔ ∀ s ∈ ss, s.tokens = [] := by
  simp [templated?]

/-- Examples of a table that fits its template. -/
theorem Template.origin_of_fits {dialect : Dialect} {set : ExampleSet} {header : TemplateRow}
    {rows : List TemplateRow} (hne : set.statements ≠ [])
    (hwell : ∀ s ∈ set.statements, s.WellFormed dialect) (hfits : Fits set header rows) :
    ∀ e ∈ rows.map (expandRow set header), e.Origin dialect := by
  intro e he
  obtain ⟨row, hrow, rfl⟩ := List.mem_map.1 he
  exact .expanded hne hwell hfits hrow rfl rfl rfl

/-- The shape of a requirement and the origins of its examples. -/
structure Requirement.Originates (dialect : Dialect) (r : Requirement) : Prop where
  nonempty : r.description ≠ []
  trimmed : r.description.trim = r.description
  examples_ne : r.examples ≠ []
  origin : ∀ e ∈ r.examples, e.Origin dialect

/-! ## The tabular dialect -/

theorem Example.Written.origin {e : Example} (h : e.Written) : e.Origin .reqsml :=
  .written h.noSet h.noRow h.nonempty (fun s hs => (h.statements s hs).wellFormed)
    (templated?_eq_none.1 h.noTokens)

theorem FromTable.origin {set : ExampleSet} {examples : List Example} (h : FromTable set examples)
    (hset : set.Written) : ∀ e ∈ examples, e.Origin .reqsml := by
  obtain ⟨header, rows, -, -, -, hfault, rfl⟩ := h
  exact Template.origin_of_fits hset.nonempty (fun s hs => (hset.statements s hs).wellFormed)
    (Template.fault?_eq_none.1 hfault)

/-- **The examples of a requirement**, in whichever of the three forms they are written. -/
theorem Body.origin {blocks : List (List Example)} (h : Body blocks) :
    blocks.flatten ≠ [] ∧ ∀ e ∈ blocks.flatten, e.Origin .reqsml := by
  cases h with
  | inline h => exact ⟨by simp, by simpa using h.toWritten.origin⟩
  | template h hbare htable => exact ⟨by simpa using htable.ne_nil, by simpa using htable.origin h⟩
  | titled h =>
    constructor
    · obtain ⟨b, bs, rfl⟩ := List.exists_cons_of_ne_nil h.nonempty
      simp [(h.block b List.mem_cons_self).ne_nil]
    · intro e he
      obtain ⟨b, hb, hmem⟩ := List.mem_flatten.1 he
      cases h.block b hb with
      | single h =>
        rw [List.mem_singleton.1 hmem]
        exact h.toWritten.origin
      | set h htable => exact htable.origin h.toWritten e hmem

theorem Requirement.Legible.originates {r : Requirement} (h : r.Legible) :
    r.Originates .reqsml := by
  obtain ⟨blocks, hbody, hexamples⟩ := h.body
  obtain ⟨hne, horigin⟩ := hbody.origin
  refine ⟨h.title.2, h.title.1.trim_eq, by simpa [hexamples] using hne, fun e he => ?_⟩
  rw [hexamples] at he
  obtain ⟨own, hown, rfl⟩ := List.mem_map.1 he
  exact (horigin own hown).withLabels _

/-! ## The narrative dialect -/

namespace Grammar.Gherkin

theorem origin_scenario : Yields scenario (Example.Origin .gherkin) := by
  refine ((Yields.any _).both (disciplined_headed _) wellFormed_statements).check ?_
  rintro ⟨⟨front, title⟩, statements⟩ e ⟨-, hne, hwell⟩ he
  dsimp only at he
  split at he
  · cases he
  · rename_i hfault
    cases he
    refine .written rfl rfl hne hwell (templated?_eq_none.1 ?_)
    simpa [tokenFault?] using hfault

theorem origin_outline : Yields outline fun es => es ≠ [] ∧ ∀ e ∈ es, e.Origin .gherkin := by
  intro c es n hc hread
  obtain ⟨⟨⟨⟨front, title⟩, statements⟩, rows⟩, hboth, hcheck⟩ := check_eq_ok.1 hread
  obtain ⟨m, hfirst, -⟩ := both_eq_ok.1 hboth
  have hstatements := ((Yields.any _).both (disciplined_headed _) wellFormed_statements).first
    _ _ _ hc.skipBlank hfirst
  obtain ⟨-, hne, hwell⟩ := hstatements
  dsimp only at hne hwell hcheck
  split at hcheck
  · cases hcheck
  · rename_i hrows
    obtain ⟨hfits, rfl⟩ := Template.expand_eq_ok.1 hcheck
    exact ⟨by simpa using hrows, Template.origin_of_fits hne hwell hfits⟩

theorem origin_examples : Yields examples fun es => es ≠ [] ∧ ∀ e ∈ es, e.Origin .gherkin := by
  refine (origin_outline.orElse (origin_scenario.map fun e he => ?_)).flatten disciplined_block
  exact ⟨by simp, by simpa using he⟩

theorem originates_rule : Yields rule (Requirement.Originates .gherkin) := by
  refine ((yields_headed _).both (disciplined_headed _) origin_examples).map ?_
  rintro ⟨⟨front, title⟩, found⟩ ⟨⟨-, hneat, hne⟩, hexamples, horigin⟩
  exact ⟨hne, hneat.trim_eq, hexamples, horigin⟩

theorem originates_inherit {r : Requirement} (h : r.Originates .gherkin) (labels : Labels) :
    (inherit labels r).Originates .gherkin := by
  refine ⟨h.nonempty, h.trimmed, by simpa [inherit] using h.examples_ne, fun e he => ?_⟩
  obtain ⟨own, hown, rfl⟩ := List.mem_map.1 he
  exact (h.origin own hown).withLabels _

end Grammar.Gherkin

/-! ## Documents -/

/-- **What is read as a document** has requirements, and each of them has examples of known
origin. -/
theorem Document.originates_of_parse {source : Path} {dialect : Dialect}
    {text : Text} {d : Document} (h : Document.parse source dialect text = .ok d) :
    d.requirements ≠ [] ∧ ∀ r ∈ d.requirements, r.Originates dialect := by
  have hsound := Cursor.sound_ofText text
  cases dialect with
  | reqsml =>
    obtain ⟨rs, n, hrs, rfl⟩ := Document.parse_reqsml_eq_ok.1 h
    have hlegible := ReqsML.legible_requirements hsound hrs
    exact ⟨hlegible.nonempty, fun r hr => (hlegible.legible r hr).originates⟩
  | gherkin =>
    obtain ⟨comments, tags, title, own, hne, horiginates, rfl⟩ :=
      Document.requirements_of_parse_gherkin Cursor.lasting_sound hsound Gherkin.originates_rule
        (fun title htitle => Gherkin.origin_examples.mono fun es hes =>
          ⟨htitle.2, htitle.1.trim_eq, hes.1, hes.2⟩) h
    refine ⟨by simpa using hne, fun r hr => ?_⟩
    obtain ⟨s, hs, rfl⟩ := List.mem_map.1 hr
    exact Gherkin.originates_inherit (horiginates s hs) _

/-! ## The shape of a document -/

/-- The statements as they were written: those of the template if an example was made from one. -/
def Example.sourceStatements (e : Example) : List Statement :=
  match e.exampleSet with
  | some set => set.statements
  | none => e.statements

/-- The shape of an example. -/
structure Example.WellFormed (dialect : Dialect) (e : Example) : Prop where
  nonempty : e.statements ≠ []
  specified : e.specification.isSome = e.exampleSet.isSome
  statements : ∀ s ∈ e.sourceStatements, s.WellFormed dialect
  noTokens : e.exampleSet = none → ∀ s ∈ e.statements, s.tokens = []
  noRuns : e.exampleSet = none → ∀ s ∈ e.statements, ∀ t, s.HasText t → ¬ Template.HasRun t

/-- The shape of a requirement. -/
structure Requirement.WellFormed (dialect : Dialect) (r : Requirement) : Prop where
  nonempty : r.description ≠ []
  trimmed : r.description.trim = r.description
  examples_ne : r.examples ≠ []
  examples : ∀ e ∈ r.examples, e.WellFormed dialect

/-- The shape of a document. -/
structure Document.WellFormed (dialect : Dialect) (d : Document) : Prop where
  nonempty : d.requirements ≠ []
  requirements : ∀ r ∈ d.requirements, r.WellFormed dialect

/-- **Either kind of example is well formed.** -/
theorem Example.Origin.wellFormed {dialect : Dialect} {e : Example} (h : e.Origin dialect) :
    e.WellFormed dialect := by
  cases h with
  | written hset hrow hne hstatements htokens =>
    exact ⟨hne, by rw [hset, hrow]; rfl, by simpa [sourceStatements, hset] using hstatements,
      fun _ => htokens, fun _ s hs => Statement.tokens_eq_nil_iff.1 (htokens s hs)⟩
  | @expanded set header row rows hne hwell hfits hrow hset hstatements hspecification =>
    have htemplate : e.exampleSet ≠ none := by simp [hset]
    refine ⟨?_, by rw [hset, hspecification]; rfl, by simpa [sourceStatements, hset] using hwell,
      fun hnone => absurd hnone htemplate, fun hnone => absurd hnone htemplate⟩
    · rw [hstatements]
      intro hnil
      have hsame := Template.statements_expandRow set header row
      rw [hnil, List.map_nil] at hsame
      exact hne (List.map_eq_nil_iff.1 hsame.symm)

/-- **Every document that is read is well formed.** -/
theorem Document.wellFormed_of_parse {source : Path} {dialect : Dialect}
    {text : Text} {d : Document}
    (h : Document.parse source dialect text = .ok d) : d.WellFormed dialect := by
  obtain ⟨hne, hrequirements⟩ := Document.originates_of_parse h
  refine ⟨hne, fun r hr => ?_⟩
  obtain ⟨hdescription, htrimmed, hexamples, horigin⟩ := hrequirements r hr
  exact ⟨hdescription, htrimmed, hexamples, fun e he => (horigin e he).wellFormed⟩

/-- A statement with a table below it, in a feature without rules. -/
theorem Document.wellFormed_of_parse_table :
    ∃ d, Document.parse ⟨"a".toList⟩ .gherkin
        "Feature: a\nScenario: b\nGiven c\n| d | e |\n| f |   |".toList = .ok d ∧
      d.WellFormed .gherkin ∧
      d.requirements.flatMap (fun r => r.examples.flatMap Example.sourceStatements) =
        [⟨none, .condition, "c".toList,
          some (.table [.ofList [("d".toList, "f".toList), ("e".toList, [])]]), some 3⟩] := by
  have hparse : Document.parse ⟨"a".toList⟩ .gherkin
      "Feature: a\nScenario: b\nGiven c\n| d | e |\n| f |   |".toList =
        .ok
          { source := ⟨"a".toList⟩
            comments := none
            labels := none
            description := some "a".toList
            dialect := .gherkin
            requirements :=
              [{ comments := none
                 identifier := none
                 labels := none
                 explicitLabels := none
                 description := "a".toList
                 examples :=
                   [{ comments := none
                      identifier := none
                      labels := none
                      explicitLabels := none
                      description := some "b".toList
                      statements :=
                        [⟨none, .condition, "c".toList,
                          some (.table [.ofList [("d".toList, "f".toList), ("e".toList, [])]]),
                            some 3⟩]
                      exampleSet := none
                      specification := none }] }] } := by
    with_unfolding_all rfl
  exact ⟨_, hparse, Document.wellFormed_of_parse hparse, rfl⟩

/-! ## The values of an example -/

/-- **An example that was made from a row has values for the tokens of its template**, and for
nothing else. -/
theorem Example.Origin.mem_keys_iff {dialect : Dialect} {e : Example} (h : e.Origin dialect)
    {s : Specification} (hs : e.specification = some s) :
    ∃ set, e.exampleSet = some set ∧ ∀ token, token ∈ s.values.keys ↔ token ∈ set.tokens := by
  cases h with
  | written hset hrow hne hstatements htokens =>
    rw [hrow] at hs
    cases hs
  | @expanded set header row rows hne hwell hfits hrow hset hstatements hspecification =>
    refine ⟨set, hset, fun token => ?_⟩
    rw [hspecification] at hs
    cases hs
    rw [← hfits.bound token]
    show token ∈ (Template.values header row).keys ↔ _
    rw [(Template.cells_row hfits.top (hfits.rows row hrow).length_eq).1]

/-- **Tokens and columns match.**  The tokens of a template are those of its title, of what its
statements say, and of every text of their data.  A table is expanded exactly when it fits its
template.  There is then one example for each row, in the order of the rows, which keeps what the
row says.  So the values of every example of a document that is read are values of the tokens of its
template. -/
theorem Template.expand_matches :
    (∀ (set : ExampleSet) (token : Text),
      token ∈ set.tokens ↔ ∃ t, set.HasText t ∧ HasToken t token) ∧
    (∀ set header rows, (∃ examples, expand set header rows = .ok examples) ↔
      Fits set header rows) ∧
    (∀ set header rows examples, expand set header rows = .ok examples →
      List.Forall₂ (fun row (e : Example) => e.MadeFrom set header row) rows examples) ∧
    ∀ (source : Path) (dialect : Dialect) (text : Text) (d : Document),
      Document.parse source dialect text = .ok d →
        ∀ r ∈ d.requirements, ∀ e ∈ r.examples, ∀ s, e.specification = some s →
          ∃ set, e.exampleSet = some set ∧ ∀ token, token ∈ s.values.keys ↔ token ∈ set.tokens := by
  refine ⟨fun set token => set.mem_tokens_iff, fun set header rows => ?_,
    fun set header rows examples h => ?_, ?_⟩
  · constructor
    · rintro ⟨examples, h⟩
      exact (expand_eq_ok.1 h).1
    · intro hfits
      exact ⟨_, expand_eq_ok.2 ⟨hfits, rfl⟩⟩
  · obtain ⟨hfits, rfl⟩ := expand_eq_ok.1 h
    rw [List.forall₂_map_right_iff, List.forall₂_same]
    exact fun row hrow => madeFrom_expandRow set hfits.top (hfits.rows row hrow)
  · intro source dialect text d h r hr e he s hs
    exact (((Document.originates_of_parse h).2 r hr).origin e he).mem_keys_iff hs

/-- A template whose tokens name a row and a column of a matrix, and a table with a column for
descriptions, whose other columns are not in the order of the tokens. -/
theorem Template.expand_matches_described :
    ∃ d r e set header row, Document.parse ⟨"a".toList⟩ .reqsml
        "Requirement: a\nIf: b\n||<x>|\n|---|---|\n|<y>|c|\nExamples:\n||y|x|\n|---|---|---|\n|one|1|2|".toList =
          .ok d ∧
      r ∈ d.requirements ∧ e ∈ r.examples ∧
      (∃ t, set.HasText t ∧ HasToken t "y".toList) ∧ Fits set header [row] ∧
      expand set header [row] = .ok [e] ∧ e.MadeFrom set header row ∧
      e.specification.map (fun s => (s.description, s.values.entries)) =
        some (some "one".toList, [("y".toList, "1".toList), ("x".toList, "2".toList)]) ∧
      ∀ token, token ∈ ["y".toList, "x".toList] ↔ token ∈ set.tokens := by
  let matrix (row column : Text) : Data := .matrix (.ofList [(row, .ofList [(column, "c".toList)])])
  let set : ExampleSet :=
    { comments := none
      identifier := none
      labels := none
      description := none
      statements :=
        [⟨none, .condition, "b".toList, some (matrix "<y>".toList "<x>".toList), some 2⟩]
      line := some 2 }
  let header : TemplateRow := ⟨7, none, none, none, [[], "y".toList, "x".toList]⟩
  let row : TemplateRow := ⟨9, none, none, none, ["one".toList, "1".toList, "2".toList]⟩
  let e : Example :=
    { comments := none
      identifier := none
      labels := none
      explicitLabels := none
      description := some "one".toList
      statements := [⟨none, .condition, "b".toList, some (matrix "1".toList "2".toList), some 2⟩]
      exampleSet := some set
      specification :=
        some
          { comments := none
            identifier := none
            labels := none
            description := some "one".toList
            values := .ofList [("y".toList, "1".toList), ("x".toList, "2".toList)] } }
  have hparse : Document.parse ⟨"a".toList⟩ .reqsml
      "Requirement: a\nIf: b\n||<x>|\n|---|---|\n|<y>|c|\nExamples:\n||y|x|\n|---|---|---|\n|one|1|2|".toList =
        .ok ⟨⟨"a".toList⟩, none, none, none, .reqsml,
          [⟨none, none, none, none, "a".toList, [e]⟩]⟩ := by
    with_unfolding_all rfl
  have hexpand : expand set header [row] = .ok [e] := by with_unfolding_all rfl
  obtain ⟨htokens, hfits, hmade, hkeys⟩ := Template.expand_matches
  have hrow : e.MadeFrom set header row := by
    cases hmade set header [row] [e] hexpand with
    | cons h _ => exact h
  obtain ⟨found, hset, hbound⟩ := hkeys _ _ _ _ hparse _ (List.mem_singleton_self _) e
    (List.mem_singleton_self e) _ rfl
  cases hset
  exact ⟨_, _, e, set, header, row, hparse, List.mem_singleton_self _, List.mem_singleton_self e,
    (htokens set _).1 ((hbound _).1 List.mem_cons_self), (hfits set header [row]).1 ⟨_, hexpand⟩,
    hexpand, hrow, rfl, hbound⟩

end PlainSpec
