import PlainSpec.Proofs.Canonical.Lines
import PlainSpec.Proofs.Canonical.Portable

/-!
# Documents of the narrative dialect in the tabular one

The canonical text of a portable document of the narrative dialect is accepted in the tabular
dialect and says the same.  What the requirements inherit from their feature is not written, so it
is taken off first: without it they are requirements as the tabular dialect reads them, and these
are read back.

Whatever is not portable is lost in one way or another, since nothing in the tabular dialect takes
the meaning from a mark.

## Main definitions

* `Example.restates`, `Requirement.restates`, `Document.restates`: whether the same titles, labels
  and statements are written.
* `Document.Unrestated`: a text of the narrative dialect whose document is not restated.

## Main results

* `Document.restates_of_parse_gherkin`: portable documents are restated.
* `Document.not_restates_of_parse_gherkin`: a document for each condition that is not.
-/

namespace PlainSpec

open PlainSpec.Parser Grammar

/-! ## What is restated -/

/-- Whether two examples have the same title and equal statements. -/
def Example.restates (a b : Example) : Bool :=
  a.description == b.description && a.statements.isEqv b.statements Statement.sameAs

/-- Whether two requirements have the same title, the same labels written on them, and examples that
restate each other. -/
def Requirement.restates (a b : Requirement) : Bool :=
  a.description == b.description && a.explicitLabels == b.explicitLabels &&
    a.examples.isEqv b.examples Example.restates

/-- Whether two documents have requirements that restate each other. -/
def Document.restates (a b : Document) : Bool :=
  a.requirements.isEqv b.requirements Requirement.restates

/-- The title of an example, and its statements without their places. -/
def Example.gist (e : Example) : Option Text × List Statement :=
  (e.description, e.statements.map Statement.bare)

/-- The title of a requirement, the labels written on it, and what its examples say. -/
def Requirement.gist (r : Requirement) : Text × Labels × List (Option Text × List Statement) :=
  (r.description, r.explicitLabels, r.examples.map Example.gist)

/-- The labels written on the examples of a requirement. -/
def Requirement.exampleLabels (r : Requirement) : List Labels :=
  r.examples.map Example.explicitLabels

theorem Example.restates_of_gist_eq (a b : Example) (h : a.gist = b.gist) :
    a.restates b = true := by
  simp only [gist, Prod.mk.injEq] at h
  obtain ⟨hdescription, hstatements⟩ := h
  simp only [restates, hdescription, beq_self_eq_true, Bool.true_and]
  exact isEqv_of_map_eq (fun _ _ => Statement.sameAs_of_relabel_eq) hstatements

theorem Requirement.restates_of_gist_eq (a b : Requirement) (h : a.gist = b.gist) :
    a.restates b = true := by
  simp only [gist, Prod.mk.injEq] at h
  obtain ⟨hdescription, hlabels, hexamples⟩ := h
  simp only [restates, hdescription, hlabels, beq_self_eq_true, Bool.true_and]
  exact isEqv_of_map_eq Example.restates_of_gist_eq hexamples

theorem Statement.bare_bare (s : Statement) : s.bare.bare = s.bare := by
  simp only [bare, relabel, Option.map_map]
  rfl

/-- **Places are no part of what a requirement says.** -/
theorem Requirement.gist_bare (r : Requirement) : r.bare.gist = r.gist := by
  have hexamples (e : Example) : e.bare.gist = e.gist := by
    have hstatements : e.bare.statements = e.statements.map Statement.bare := rfl
    simp only [Example.gist, hstatements, List.map_map, Function.comp_def, Statement.bare_bare]
    rfl
  have hbare : r.bare.examples = r.examples.map Example.bare := rfl
  simp only [gist, hbare, List.map_map, Function.comp_def, hexamples]
  rfl

theorem Requirement.exampleLabels_bare (r : Requirement) :
    r.bare.exampleLabels = r.exampleLabels := by
  simp only [exampleLabels, bare, relabel, List.map_map]
  rfl

/-- Nor are the labels of its examples. -/
theorem Requirement.gist_cut (r : Requirement) : r.cut.gist = r.gist := by
  simp only [gist, cut, List.map_map]
  rfl

theorem Requirement.exampleLabels_cut (r : Requirement) :
    r.cut.exampleLabels = r.exampleLabels.map Labels.cut := by
  simp only [exampleLabels, cut, List.map_map]
  rfl

/-! ## Without what is inherited -/

namespace Grammar.Gherkin

/-- What is inherited is not said by a requirement. -/
theorem gist_inherit (inherited : Labels) (r : Requirement) :
    (inherit inherited r).gist = r.gist := by
  simp only [Requirement.gist, inherit, List.map_map]
  rfl

theorem exampleLabels_inherit (inherited : Labels) (r : Requirement) :
    (inherit inherited r).exampleLabels = r.exampleLabels := by
  simp only [Requirement.exampleLabels, inherit, List.map_map]
  rfl

/-- Nor is it written. -/
theorem canonical_inherit (inherited : Labels) (r : Requirement) :
    Canonical.requirement (inherit inherited r) = Canonical.requirement r := by
  have hexamples : Canonical.examples (inherit inherited r).examples =
      Canonical.examples r.examples :=
    Canonical.examples_inherit _ _
  simp only [Canonical.requirement, hexamples]
  rfl

theorem portable_of_inherit {inherited : Labels} {r : Requirement}
    (h : (inherit inherited r).Portable) :
    r.Portable := by
  refine ⟨h.labels, fun e he => ?_⟩
  obtain ⟨hlabels, hrow, hset, htokens, hstatements⟩ := h.examples _ (List.mem_map_of_mem he)
  exact ⟨hlabels, hrow, hset, htokens, hstatements⟩

/-- **Portable requirements can be printed** once what they inherit is taken off. -/
theorem printable_inherit {rs : List Requirement} (hne : rs ≠ []) (hcarries : ∀ r ∈ rs, Carries r)
    (hportable : ∀ r ∈ rs, r.Portable) :
    Canonical.PrintableRequirements (rs.map (inherit none)) := by
  refine ⟨⟨by simpa using hne,
    List.forall_mem_map.2 fun r hr => (hcarries r hr (hportable r hr)).1, ?_⟩,
    List.forall_mem_map.2 fun r hr => ?_⟩
  · intro r s rest hsuffix _
    have hs : s ∈ rs.map (inherit none) := hsuffix.subset (by simp)
    obtain ⟨own, hown, rfl⟩ := List.mem_map.1 hs
    exact noRow_of_identifier (hcarries own hown (hportable own hown)).2
  · intro e he
    obtain ⟨own, hown, rfl⟩ := List.mem_map.1 he
    exact ((hportable r hr).examples own hown).filled

end Grammar.Gherkin

/-! ## Documents -/

/-- **Documents of the narrative dialect are restated.**  The canonical text of a portable one is
accepted in the tabular dialect, and it has as many requirements, with the same titles, the same
labels written on them and as many examples; these have the same titles and equal statements.  The
labels written on them are cut at commas, and so they are the same where they hold none. -/
theorem Document.restates_of_parse_gherkin {source : Path} {text : Text} {d : Document}
    (h : Document.parse source .gherkin text = .ok d) (hportable : d.Portable) (source' : Path) :
    ∃ d', Document.parse source' .reqsml d.canonical = .ok d' ∧ d'.restates d = true ∧
      d'.requirements.map Requirement.exampleLabels =
        d.requirements.map (fun r => r.exampleLabels.map Labels.cut) ∧
      ((∀ r ∈ d.requirements, ∀ labels ∈ r.exampleLabels, labels.Avoid ',') →
        d'.requirements.map Requirement.exampleLabels =
          d.requirements.map Requirement.exampleLabels) := by
  obtain ⟨comments, tags, title, own, hne, hcarries, rfl⟩ :=
    Document.requirements_of_parse_gherkin Cursor.lasting_sound (Cursor.sound_ofText text)
      Gherkin.carries_rule (fun _ => Gherkin.carries_examples) h
  have hown : ∀ r ∈ own, r.Portable := fun r hr =>
    Gherkin.portable_of_inherit (hportable _ (List.mem_map_of_mem hr))
  -- the same text is written for the requirements without what they inherit
  obtain ⟨rs, hread, hagain⟩ := @Canonical.exists_read
    ⟨source, comments, tags, title, .gherkin, own.map (Gherkin.inherit none)⟩
    (Gherkin.printable_inherit hne hcarries hown) source'
  have hbare := Canonical.map_bare_of_again hagain
  have hcanonical (inherited : Labels) :
      (own.map (Gherkin.inherit inherited)).flatMap Canonical.requirement =
        own.flatMap Canonical.requirement := by
    rw [List.flatMap_map]
    simp only [Gherkin.canonical_inherit]
  have hgist : rs.map Requirement.gist =
      (own.map (Gherkin.inherit tags)).map Requirement.gist := by
    have hsame := congrArg (List.map Requirement.gist) hbare
    simpa only [List.map_map, Function.comp_def, Requirement.gist_bare, Requirement.gist_cut,
      Gherkin.gist_inherit] using hsame
  have hlabels : rs.map Requirement.exampleLabels =
      (own.map (Gherkin.inherit tags)).map fun r => r.exampleLabels.map Labels.cut := by
    have hsame := congrArg (List.map Requirement.exampleLabels) hbare
    simpa only [List.map_map, Function.comp_def, Requirement.exampleLabels_bare,
      Requirement.exampleLabels_cut, Gherkin.exampleLabels_inherit] using hsame
  refine ⟨⟨source', none, none, none, .reqsml, rs⟩, ?_,
    isEqv_of_map_eq Requirement.restates_of_gist_eq hgist, hlabels, fun havoid => hlabels.trans ?_⟩
  · rw [Document.canonical, hcanonical, ← hcanonical none]
    exact hread
  · refine List.map_congr_left fun r hr => ?_
    rw [List.map_congr_left fun labels hlabels => (havoid r hr labels hlabels).cut_eq, List.map_id']

/-- A rule with a tag holds a template with a table below its statement, a tag of its own that has a
comma, and a row with a tag. -/
theorem Document.restates_of_parse_gherkin_outline :
    ∃ d, Document.parse ⟨"a".toList⟩ .gherkin
        "Feature: f\n@t\nRule: r\n@u,w\nScenario Outline: s\nGiven <x>\n|a|b|\n|1|2|\nExamples:\n|x|\n@v\n|y|".toList =
          .ok d ∧
      d.Portable ∧
      ∃ d', Document.parse ⟨"b".toList⟩ .reqsml d.canonical = .ok d' ∧ d'.restates d = true ∧
        d'.requirements.map Requirement.exampleLabels =
          d.requirements.map (fun r => r.exampleLabels.map Labels.cut) ∧
        d'.requirements.map Requirement.exampleLabels =
          d.requirements.map Requirement.exampleLabels := by
  let table : Option Data :=
    some (.table [.ofList [("a".toList, "1".toList), ("b".toList, "2".toList)]])
  let set : ExampleSet :=
    { comments := none
      identifier := none
      labels := some ["u,w".toList]
      description := some "s".toList
      statements := [⟨none, .condition, "<x>".toList, table, some 6⟩]
      line := some 4 }
  let e : Example :=
    { comments := none
      identifier := none
      labels := some ["v".toList, "u,w".toList, "t".toList]
      explicitLabels := some ["v".toList]
      description := some "s".toList
      statements := [⟨none, .condition, "y".toList, table, some 6⟩]
      exampleSet := some set
      specification :=
        some ⟨none, none, some ["v".toList], none, .ofList [("x".toList, "y".toList)]⟩ }
  let r : Requirement := ⟨none, none, some ["t".toList], some ["t".toList], "r".toList, [e]⟩
  have hparse : Document.parse ⟨"a".toList⟩ .gherkin
      "Feature: f\n@t\nRule: r\n@u,w\nScenario Outline: s\nGiven <x>\n|a|b|\n|1|2|\nExamples:\n|x|\n@v\n|y|".toList =
        .ok ⟨⟨"a".toList⟩, none, none, some "f".toList, .gherkin, [r]⟩ := by
    set_option maxRecDepth 2000 in with_unfolding_all rfl
  have havoid (c l : Char) (hne : c ≠ l) : Labels.Avoid (some [[l]]) c := by
    rintro _ ⟨⟩ t ht
    rw [List.mem_singleton.1 ht]
    simpa using hne
  have he : e.Portable :=
    { labels := (havoid ',' 'v' (by decide)).filled
      row := fun _ => havoid '|' 'v' (by decide)
      setLabels := by
        rintro _ ⟨⟩ _ ⟨⟩ l hl -
        rw [List.mem_singleton.1 hl]
        decide
      tokens := by
        rintro _ ⟨⟩
        with_unfolding_all rfl
      statements := by
        intro s hs data hdata
        rw [List.mem_singleton.1 hs] at hdata
        cases hdata
        trivial }
  have hportable : Document.Portable ⟨⟨"a".toList⟩, none, none, some "f".toList, .gherkin, [r]⟩ :=
    List.forall_mem_singleton.2 ⟨havoid ',' 't' (by decide), List.forall_mem_singleton.2 he⟩
  obtain ⟨d', hread, hrestates, hcut, hsame⟩ :=
    Document.restates_of_parse_gherkin hparse hportable ⟨"b".toList⟩
  exact ⟨_, hparse, hportable, d', hread, hrestates, hcut, hsame
    (List.forall_mem_singleton.2 (List.forall_mem_singleton.2 (havoid ',' 'v' (by decide))))⟩

/-! ## What is not portable -/

/-- The text is accepted in the narrative dialect, and no document that is read from its canonical
text restates it. -/
def Document.Unrestated (source : Path) (text : Text) : Prop :=
  ∃ d, Document.parse source .gherkin text = .ok d ∧
    ∀ d', Document.parse source .reqsml d.canonical = .ok d' → d'.restates d = false

instance (source : Path) (text : Text) : Decidable (Document.Unrestated source text) :=
  match h : Document.parse source .gherkin text with
  | .error _ => isFalse fun ⟨_, hd, _⟩ => by cases h.symm.trans hd
  | .ok d =>
    match h' : Document.parse source .reqsml d.canonical with
    | .error _ => isTrue ⟨d, h, fun _ hd' => by cases h'.symm.trans hd'⟩
    | .ok d' =>
      if hsame : d'.restates d = false then
        isTrue ⟨d, h, fun other hother => by cases h'.symm.trans hother; exact hsame⟩
      else
        isFalse fun ⟨other, hother, hall⟩ => by
          cases h.symm.trans hother
          exact hsame (hall d' h')

/-- Each condition on a portable document is needed.  The canonical text is refused where no
statement of a template has a token, where a label ends with a comma, where a pipe is in the label
of a row, and where the delimiter is a line of a text.  Elsewhere it is accepted, but a comma makes
two labels of one, hyphens make a table of a list, and a pair without a value is an item. -/
theorem Document.not_restates_of_parse_gherkin :
    Document.Unrestated ⟨"a".toList⟩
        "Feature: f\nScenario Outline: <x>\nGiven g\nExamples:\n|x|\n|1|".toList ∧
      Document.Unrestated ⟨"a".toList⟩ "Feature: f\n@a,b\nRule: r\nScenario: s\nGiven g".toList ∧
      Document.Unrestated ⟨"a".toList⟩ "Feature: f\n@a,\nScenario: s\nGiven g".toList ∧
      Document.Unrestated ⟨"a".toList⟩
        "Feature: f\nScenario Outline: s\nGiven <x>\nExamples:\n|x|\n@a|b\n|1|".toList ∧
      Document.Unrestated ⟨"a".toList⟩
        "Feature: f\nScenario: s\nGiven g\n\"\"\"\na\n```\nb\n\"\"\"".toList ∧
      Document.Unrestated ⟨"a".toList⟩ "Feature: f\nScenario: s\nGiven g\n|a|\n|---|\n|b|".toList ∧
      Document.Unrestated ⟨"a".toList⟩ "Feature: f\nScenario: s\nGiven g\n|a: :|".toList := by
  refine ⟨?_, ?_, ?_, ?_, ?_, ?_, ?_⟩ <;> decide +kernel

end PlainSpec
