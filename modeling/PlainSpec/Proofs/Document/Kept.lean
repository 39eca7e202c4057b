import PlainSpec.Proofs.Source.Requirements

/-!
# What a document keeps of its source

A source that is accepted in the tabular dialect is found again in its document: every comment on
some requirement, example, template, row or statement, every identifier and list of labels likewise,
and every block of data on a statement.  Two spots are exceptions.  Data right below a keyword
without text are read and dropped when bullets follow, and comments and metadata on the row of
hyphens of a table of examples are dropped, although they are refused on its header.

## Main results

* `Document.kept_of_parse`: everything is kept, except at the two spots.
* `Document.not_kept_aside`: at each of them something is lost.
-/

namespace PlainSpec

open Grammar Grammar.ReqsML

/-- **Nothing is dropped but what stands aside.**  Every line outside of text blocks is in a passage
of the source, and every passage is kept in the document, unless it is data right below a keyword
without text or belongs to the row of hyphens of a table of examples. -/
theorem Document.kept_of_parse {source : Path} {text : Text} {d : Document}
    (h : Document.parse source .reqsml text = .ok d) :
    (∀ l ∈ outsideText (Line.split text), l.isBlank = false →
        l.InPassage (passages .plain (Line.split text))) ∧
      ∀ p ∈ passages .plain (Line.split text), p.aside = false → p.content.KeptIn d.slots :=
  ⟨fun _ hl hblank => exists_passage hl hblank .plain, (Document.accounts_of_parse h).kept⟩

/-- The metadata of a requirement, the data of a statement and the comment of a row are kept. -/
theorem Document.kept_of_parse_row :
    ∃ text d,
      text = "#1 (l)\nRequirement: a\nIf: <x>\n|b|\nExamples:\n|x|\n|---|\n// e\n|y|".toList ∧
      Document.parse ⟨"a".toList⟩ .reqsml text = .ok d ∧
      (Content.metadata "#1 (l)".toList).KeptIn d.slots ∧
      (Content.rows ⟨⟨4, ["b".toList]⟩, []⟩).KeptIn d.slots ∧
      (Content.comment "e".toList).KeptIn d.slots := by
  let set : ExampleSet :=
    { comments := none
      identifier := none
      labels := none
      description := none
      statements := [⟨none, .condition, "<x>".toList, some (.list ["b".toList]), some 3⟩]
      line := some 3 }
  let e : Example :=
    { comments := some ["e".toList]
      identifier := none
      labels := some ["l".toList]
      explicitLabels := none
      description := none
      statements := [⟨none, .condition, "y".toList, some (.list ["b".toList]), some 3⟩]
      exampleSet := some set
      specification :=
        some ⟨some ["e".toList], none, none, none, .ofList [("x".toList, "y".toList)]⟩ }
  have hparse : Document.parse ⟨"a".toList⟩ .reqsml
      "#1 (l)\nRequirement: a\nIf: <x>\n|b|\nExamples:\n|x|\n|---|\n// e\n|y|".toList =
        .ok
          { source := ⟨"a".toList⟩
            comments := none
            labels := none
            description := none
            dialect := .reqsml
            requirements :=
              [⟨none, some "1".toList, some ["l".toList], some ["l".toList],
                "a".toList, [e]⟩] } := by
    with_unfolding_all rfl
  have hpassages : passages .plain (Line.split
      "#1 (l)\nRequirement: a\nIf: <x>\n|b|\nExamples:\n|x|\n|---|\n// e\n|y|".toList) =
        [⟨.metadata "#1 (l)".toList, false⟩, ⟨.other, false⟩,
          ⟨.keyword .condition "<x>".toList 3, false⟩, ⟨.rows ⟨⟨4, ["b".toList]⟩, []⟩, false⟩,
          ⟨.examples, false⟩, ⟨.exampleRow noMetadata ["x".toList], false⟩,
          ⟨.exampleRow noMetadata ["---".toList], true⟩, ⟨.comment "e".toList, false⟩,
          ⟨.exampleRow noMetadata ["y".toList], false⟩] := by
    with_unfolding_all rfl
  obtain ⟨-, hkept⟩ := Document.kept_of_parse hparse
  rw [hpassages] at hkept
  exact ⟨_, _, rfl, hparse, hkept ⟨.metadata "#1 (l)".toList, false⟩ (by simp) rfl,
    hkept ⟨.rows ⟨⟨4, ["b".toList]⟩, []⟩, false⟩ (by simp) rfl,
    hkept ⟨.comment "e".toList, false⟩ (by simp) rfl⟩

/-- **At each of the two spots something is lost**: a list right below `If:` when a bullet follows,
and a comment, an identifier and labels on a row of hyphens. -/
theorem Document.not_kept_aside :
    (∃ text d p, text = "Requirement: a\nIf:\n|b|\n- c".toList ∧
        Document.parse ⟨"a".toList⟩ .reqsml text = .ok d ∧
        p ∈ passages .plain (Line.split text) ∧ p.content = .rows ⟨⟨3, ["b".toList]⟩, []⟩ ∧
        ¬ p.content.KeptIn d.slots) ∧
      ∃ text d p q,
        text = "Requirement: a\nIf: <x>\nExamples:\n|x|\n// c\n#1 (l)|---|\n|y|".toList ∧
        Document.parse ⟨"a".toList⟩ .reqsml text = .ok d ∧
        p ∈ passages .plain (Line.split text) ∧ p.content = .comment "c".toList ∧
        ¬ p.content.KeptIn d.slots ∧
        q ∈ passages .plain (Line.split text) ∧
        q.content = .exampleRow ⟨some "1".toList, some ["l".toList]⟩ ["---".toList] ∧
        ¬ q.content.KeptIn d.slots := by
  constructor
  · let d : Document :=
      { source := ⟨"a".toList⟩
        comments := none
        labels := none
        description := none
        dialect := .reqsml
        requirements :=
          [⟨none, none, none, none, "a".toList,
            [⟨none, none, none, none, none, [⟨none, .condition, "c".toList, none, some 4⟩],
              none, none⟩]⟩] }
    have hparse :
        Document.parse ⟨"a".toList⟩ .reqsml "Requirement: a\nIf:\n|b|\n- c".toList = .ok d := by
      with_unfolding_all rfl
    have hpassages : passages .plain (Line.split "Requirement: a\nIf:\n|b|\n- c".toList) =
        [⟨.other, false⟩, ⟨.keyword .condition [] 2, false⟩, ⟨.rows ⟨⟨3, ["b".toList]⟩, []⟩, true⟩,
          ⟨.bullet "c".toList 4, false⟩] := by
      with_unfolding_all rfl
    have hdata : ∀ slot ∈ d.slots, slot.data = none := by decide
    refine ⟨_, d, ⟨.rows ⟨⟨3, ["b".toList]⟩, []⟩, true⟩, rfl, hparse, ?_, rfl, ?_⟩
    · rw [hpassages]
      simp
    · rintro ⟨slot, hslot, data, hsome, -⟩
      rw [hdata slot hslot] at hsome
      cases hsome
  · let set : ExampleSet :=
      { comments := none
        identifier := none
        labels := none
        description := none
        statements := [⟨none, .condition, "<x>".toList, none, some 2⟩]
        line := some 2 }
    let d : Document :=
      { source := ⟨"a".toList⟩
        comments := none
        labels := none
        description := none
        dialect := .reqsml
        requirements :=
          [⟨none, none, none, none, "a".toList,
            [⟨none, none, none, none, none,
              [⟨none, .condition, "y".toList, none, some 2⟩], some set,
              some ⟨none, none, none, none, .ofList [("x".toList, "y".toList)]⟩⟩]⟩] }
    have hparse : Document.parse ⟨"a".toList⟩ .reqsml
        "Requirement: a\nIf: <x>\nExamples:\n|x|\n// c\n#1 (l)|---|\n|y|".toList = .ok d := by
      with_unfolding_all rfl
    have hpassages : passages .plain (Line.split
        "Requirement: a\nIf: <x>\nExamples:\n|x|\n// c\n#1 (l)|---|\n|y|".toList) =
          [⟨.other, false⟩, ⟨.keyword .condition "<x>".toList 2, false⟩, ⟨.examples, false⟩,
            ⟨.exampleRow noMetadata ["x".toList], false⟩, ⟨.comment "c".toList, true⟩,
            ⟨.exampleRow ⟨some "1".toList, some ["l".toList]⟩ ["---".toList], true⟩,
            ⟨.exampleRow noMetadata ["y".toList], false⟩] := by
      with_unfolding_all rfl
    have hnothing : ∀ slot ∈ d.slots, slot.comments = none ∧ slot.metadata = noMetadata := by decide
    refine ⟨_, d, ⟨.comment "c".toList, true⟩,
      ⟨.exampleRow ⟨some "1".toList, some ["l".toList]⟩ ["---".toList], true⟩, rfl,
        hparse, ?_, rfl, ?_,
      ?_, rfl, ?_⟩
    · rw [hpassages]
      simp
    · rintro ⟨slot, hslot, hmem⟩
      rw [(hnothing slot hslot).1] at hmem
      cases hmem
    · rw [hpassages]
      simp
    · rintro (hnone | ⟨slot, hslot, hsame⟩)
      · cases hnone
      · rw [(hnothing slot hslot).2] at hsame
        cases hsame

end PlainSpec
