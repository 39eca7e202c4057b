import PlainSpec.Proofs.Grammar.Requirements
import PlainSpec.Proofs.Labels

/-!
# Where the labels of an example come from

Labels are written on a document, on its requirements, on templates, and on examples or the rows
that they are made from.  The dialects merge them in different places: a row is merged with its
template when the table is expanded, an example of the tabular dialect with its requirement when
that is read, and in the narrative dialect the rules and scenarios of a feature are merged with it
at the very end.  An example that is read has the labels of itself and of its template; the rest is
inherited in one step.

## Main definitions

* `Example.OwnLabels`: the labels of an example before it inherits any.
* `Example.Inherits`: the labels of an example of a requirement.

## Main results

* `Template.ownLabels_of_expand`: the labels of examples from a table.
* `Document.inherits_of_parse`: every requirement and every example of a document that is read has
  its own labels and those of all places above it, and no others.
-/

namespace PlainSpec

open PlainSpec.Parser Grammar

/-! ## Labels of an example -/

/-- The labels of an example of a requirement: what its requirement has is added to its own
labels. -/
structure Example.Inherits (inherited : Labels) (e : Example) : Prop where
  labels_eq : e.labels = Labels.merge inherited (Labels.merge e.setLabels e.explicitLabels)
  row : ∀ row, e.specification = some row → row.labels = e.explicitLabels

theorem Example.OwnLabels.inherits {e : Example} (h : e.OwnLabels) (inherited : Labels) :
    Example.Inherits inherited { e with labels := Labels.merge inherited e.labels } :=
  ⟨by rw [h.labels_eq]; rfl, h.row⟩

/-- An example that was not made from a table has only the labels written on it. -/
theorem Example.OwnLabels.of_written {e : Example} (hset : e.exampleSet = none)
    (hrow : e.specification = none) (h : e.labels = e.explicitLabels) : e.OwnLabels := by
  constructor
  · rw [h, setLabels, hset]
    rfl
  · intro row hsome
    rw [hrow] at hsome
    cases hsome

/-- **Examples from a table have the labels of their rows and of the template.** -/
theorem Template.ownLabels_of_expand {set : ExampleSet} {header : TemplateRow}
    {rows : List TemplateRow} {examples : List Example}
    (h : expand set header rows = .ok examples) : ∀ e ∈ examples, e.OwnLabels := by
  unfold expand at h
  split at h
  · cases h
  · cases h
    intro e he
    obtain ⟨row, -, rfl⟩ := List.mem_map.1 he
    refine ⟨rfl, ?_⟩
    rintro _ ⟨⟩
    rfl

theorem Grammar.ownLabels_titledExample (dialect : Dialect) :
    Yields dialect.titledExample Example.OwnLabels := by
  intro c e n hc h
  obtain ⟨-, hset, hrow, hlabels⟩ := of_titledExample h
  exact .of_written hset hrow hlabels

theorem Grammar.ownLabels_titledSet (dialect : Dialect) :
    Yields dialect.titledSet fun es => ∀ e ∈ es, e.OwnLabels := by
  intro c es n hc h
  obtain ⟨set, header, rows, _, _, _, _, -, -, -, -, -, hexpand⟩ := of_titledSet h
  exact Template.ownLabels_of_expand hexpand

/-! ## The tabular dialect -/

namespace Grammar.ReqsML

theorem ownLabels_inlineExamples : Yields inlineExamples fun es => ∀ e ∈ es, e.OwnLabels := by
  intro c es n hc hread
  obtain ⟨⟨statements, rows⟩, -, hfound⟩ := check_eq_ok.1 hread
  cases rows with
  | none =>
    dsimp only at hfound
    split at hfound
    · cases hfound
    · cases hfound
      intro e he
      rw [List.mem_singleton.1 he]
      exact .of_written rfl rfl rfl
  | some rows =>
    obtain ⟨header, values, -, hexpand⟩ := expand_of_expandRows hfound
    exact Template.ownLabels_of_expand hexpand

theorem ownLabels_examples : Yields examples fun es => ∀ e ∈ es, e.OwnLabels :=
  YieldsFrom.blocks Cursor.lasting_sound (ownLabels_titledSet .reqsml)
    (ownLabels_titledExample .reqsml)
    disciplined_block

/-- A requirement of the tabular dialect has the labels written on it, and its examples inherit
them. -/
theorem inherits_requirement :
    Yields requirement fun r => r.labels = r.explicitLabels ∧
      ∀ e ∈ r.examples, e.Inherits r.labels := by
  refine ((Yields.any _).both (disciplined_headed _)
    (ownLabels_inlineExamples.orElse ownLabels_examples)).map ?_
  rintro ⟨⟨front, description⟩, found⟩ ⟨-, hfound⟩
  refine ⟨rfl, fun e he => ?_⟩
  obtain ⟨own, hmem, rfl⟩ := List.mem_map.1 he
  exact (hfound own hmem).inherits _

theorem inherits_document {source : Path} {text : Text} {d : Document}
    (h : Document.parse source .reqsml text = .ok d) :
    ∀ r ∈ d.requirements, r.labels = Labels.merge d.labels r.explicitLabels ∧
      ∀ e ∈ r.examples, e.Inherits r.labels := by
  obtain ⟨rs, n, hrs, rfl⟩ := Document.parse_reqsml_eq_ok.1 h
  intro r hr
  exact inherits_requirement.several disciplined_requirement _ _ _
    (Cursor.sound_ofText text) hrs r hr

end Grammar.ReqsML

/-! ## The narrative dialect -/

namespace Grammar.Gherkin

theorem ownLabels_examples : Yields examples fun es => ∀ e ∈ es, e.OwnLabels :=
  YieldsFrom.blocks Cursor.lasting_sound (ownLabels_titledSet .gherkin)
    (ownLabels_titledExample .gherkin)
    disciplined_block

theorem ownLabels_rule : Yields rule fun r => ∀ e ∈ r.examples, e.OwnLabels :=
  ((Yields.any _).both (disciplined_headed _) ownLabels_examples).map fun _ h => h.2

/-- A requirement inherits once, and its examples inherit what it then has. -/
theorem inherits_inherit (inherited : Labels) {r : Requirement}
    (h : ∀ e ∈ r.examples, e.OwnLabels) :
    (inherit inherited r).labels = Labels.merge inherited (inherit inherited r).explicitLabels ∧
      ∀ e ∈ (inherit inherited r).examples, e.Inherits (inherit inherited r).labels := by
  refine ⟨rfl, fun e he => ?_⟩
  obtain ⟨own, hmem, rfl⟩ := List.mem_map.1 he
  exact (h own hmem).inherits _

theorem inherits_document {source : Path} {text : Text} {d : Document}
    (h : Document.parse source .gherkin text = .ok d) :
    ∀ r ∈ d.requirements, r.labels = Labels.merge d.labels r.explicitLabels ∧
      ∀ e ∈ r.examples, e.Inherits r.labels := by
  obtain ⟨comments, tags, title, own, -, hown, rfl⟩ :=
    Document.requirements_of_parse_gherkin Cursor.lasting_sound
      (Cursor.sound_ofText text) ownLabels_rule
      (fun _ _ => ownLabels_examples) h
  intro r hr
  obtain ⟨s, hs, rfl⟩ := List.mem_map.1 hr
  exact inherits_inherit tags (hown s hs)

end Grammar.Gherkin

/-! ## Documents of either dialect -/

theorem Document.inherits_of_parse {source : Path} {dialect : Dialect} {text : Text} {d : Document}
    (h : Document.parse source dialect text = .ok d) :
    ∀ r ∈ d.requirements, r.labels = Labels.merge d.labels r.explicitLabels ∧
      ∀ e ∈ r.examples, e.Inherits r.labels := by
  cases dialect with
  | gherkin => exact Gherkin.inherits_document h
  | reqsml => exact ReqsML.inherits_document h

/-- **The labels of a document that is read.**  A requirement has its own labels and those of the
document.  An example has its own, which are those of its row if it has one, then those of its
template, then those of its requirement, and no others; it has none at all only if nothing is
written at any of these places. -/
theorem Document.labels_of_parse {source : Path} {dialect : Dialect} {text : Text} {d : Document}
    (h : Document.parse source dialect text = .ok d) {r : Requirement} (hr : r ∈ d.requirements) :
    r.labels = Labels.merge d.labels r.explicitLabels ∧
      ∀ e ∈ r.examples,
        e.labels = Labels.merge r.labels
          (Labels.merge (e.exampleSet.bind ExampleSet.labels) e.explicitLabels) ∧
        (∀ row, e.specification = some row → row.labels = e.explicitLabels) ∧
        (∀ label, label ∈ e.labels.getD [] ↔
          label ∈ e.explicitLabels.getD [] ∨
            label ∈ (e.exampleSet.bind ExampleSet.labels).getD [] ∨
            label ∈ r.explicitLabels.getD [] ∨ label ∈ d.labels.getD []) ∧
        (∃ added, e.labels.getD [] = e.explicitLabels.getD [] ++ added) ∧
        (e.labels = none ↔
          e.explicitLabels = none ∧ e.exampleSet.bind ExampleSet.labels = none ∧
            r.explicitLabels = none ∧ d.labels = none) := by
  obtain ⟨hrequirement, hexamples⟩ := Document.inherits_of_parse h r hr
  refine ⟨hrequirement, fun e he => ?_⟩
  obtain ⟨hlabels, hrow⟩ := hexamples e he
  refine ⟨hlabels, hrow, fun label => ?_, ?_, ?_⟩
  · rw [hlabels, hrequirement]
    simp only [Labels.mem_merge, or_assoc]
    rfl
  · -- what is inherited comes behind what the template adds
    rw [hlabels]
    obtain ⟨more, hmore⟩ := Labels.merge_eq_append e.setLabels e.explicitLabels
    obtain ⟨last, hlast⟩ :=
      Labels.merge_eq_append r.labels (Labels.merge e.setLabels e.explicitLabels)
    exact ⟨more ++ last, by rw [hlast, hmore, List.append_assoc]⟩
  · rw [hlabels, hrequirement]
    simp only [Labels.merge_eq_none, Example.setLabels]
    grind

/-- A row, its template, their rule and the feature each have a label, and the example of the row
has all four. -/
theorem Document.labels_of_parse_row :
    ∃ d r e, Document.parse ⟨"a".toList⟩ .gherkin
        "@f\nFeature: a\n@r\nRule: b\n@o\nScenario Outline: c\nGiven <x>\nExamples:\n|x|\n@e\n|y|".toList =
          .ok d ∧
      r ∈ d.requirements ∧ e ∈ r.examples ∧
      e.labels = Labels.merge r.labels
        (Labels.merge (e.exampleSet.bind ExampleSet.labels) e.explicitLabels) ∧
      e.labels = some ["e".toList, "o".toList, "r".toList, "f".toList] := by
  let set : ExampleSet :=
    { comments := none
      identifier := none
      labels := some ["o".toList]
      description := some "c".toList
      statements := [⟨none, .condition, "<x>".toList, none, some 7⟩]
      line := some 5 }
  let row : Specification :=
    { comments := none
      identifier := none
      labels := some ["e".toList]
      description := none
      values := .ofList [("x".toList, "y".toList)] }
  let e : Example :=
    { comments := none
      identifier := none
      labels := some ["e".toList, "o".toList, "r".toList, "f".toList]
      explicitLabels := some ["e".toList]
      description := some "c".toList
      statements := [⟨none, .condition, "y".toList, none, some 7⟩]
      exampleSet := some set
      specification := some row }
  let r : Requirement :=
    { comments := none
      identifier := none
      labels := some ["r".toList, "f".toList]
      explicitLabels := some ["r".toList]
      description := "b".toList
      examples := [e] }
  have hparse : Document.parse ⟨"a".toList⟩ .gherkin
      "@f\nFeature: a\n@r\nRule: b\n@o\nScenario Outline: c\nGiven <x>\nExamples:\n|x|\n@e\n|y|".toList =
        .ok
          { source := ⟨"a".toList⟩
            comments := none
            labels := some ["f".toList]
            description := some "a".toList
            dialect := .gherkin
            requirements := [r] } := by
    with_unfolding_all rfl
  have hr : r ∈ [r] := List.mem_singleton_self r
  have he : e ∈ r.examples := List.mem_singleton_self e
  exact ⟨_, r, e, hparse, hr, he, ((Document.labels_of_parse hparse hr).2 e he).1, rfl⟩

end PlainSpec
