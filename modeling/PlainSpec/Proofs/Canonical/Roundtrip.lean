import PlainSpec.Command.Run
import PlainSpec.Proofs.Canonical.Lines
import PlainSpec.Proofs.Storage.Writing

/-!
# Canonical text is read back

The canonical text of a document that was read in the tabular dialect is accepted in that dialect,
says the same, and is the canonical text of what it is read as.  The only exception is key-value
data with an empty key or value: such pairs are written as lines that are not read as pairs again.

## Main definitions

* `Document.Filled`: no key-value pair that is written has an empty key or an empty value.

## Main results

* `Canonical.exists_again`: the canonical text is read as a document that differs in places only and
  is written alike.
* `Document.exists_sameAs_of_parse_canonical`: the canonical text says the same.
* `Document.canonical_eq_of_parse_canonical`: the canonical text is its own canonical text, and so
  it passes the check for it.
-/

namespace PlainSpec

open PlainSpec.Parser Grammar Grammar.ReqsML

/-- No key-value pair in a written statement has an empty key or an empty value. -/
def Document.Filled (d : Document) : Prop := ∀ r ∈ d.requirements, ∀ e ∈ r.examples, e.Filled

namespace Canonical

theorem printable_of_parse {source : Path} {text : Text} {d : Document}
    (h : Document.parse source .reqsml text = .ok d) (hfilled : d.Filled) :
    PrintableRequirements d.requirements := by
  obtain ⟨rs, n, hrs, rfl⟩ := Document.parse_reqsml_eq_ok.1 h
  exact ⟨legible_requirements (Cursor.sound_ofText text) hrs, hfilled⟩

/-- No label of a document of the tabular dialect holds a comma. -/
theorem uncut_of_parse {source : Path} {text : Text} {d : Document}
    (h : Document.parse source .reqsml text = .ok d) :
    ∀ r ∈ d.requirements, ∀ e ∈ r.examples, e.Uncut := by
  obtain ⟨rs, n, hrs, rfl⟩ := Document.parse_reqsml_eq_ok.1 h
  exact uncut_requirement.several disciplined_requirement _ _ _ (Cursor.sound_ofText text) hrs

/-- **The canonical text is read again** as a document that differs in places only and is written
alike. -/
theorem exists_again {source : Path} {text : Text} {d : Document}
    (h : Document.parse source .reqsml text = .ok d) (hfilled : d.Filled) (source' : Path) :
    ∃ rs : List Requirement,
      Document.parse source' .reqsml d.canonical = .ok ⟨source', none, none, none, .reqsml, rs⟩ ∧
        rs.map Requirement.bare = d.requirements.map Requirement.bare ∧
        rs.flatMap Canonical.requirement = d.requirements.flatMap Canonical.requirement := by
  have hprintable := printable_of_parse h hfilled
  have huncut := uncut_of_parse h
  obtain ⟨rs, hread, hagain⟩ := exists_read hprintable source'
  refine ⟨rs, hread, (map_bare_of_again hagain).trans ?_, rows_of_again hagain huncut⟩
  exact List.map_congr_left fun r hr => by rw [(hprintable.legible r hr).cut_eq (huncut r hr)]

end Canonical

/-- **Round trip.**  The canonical text of a document that was read in the tabular dialect is
accepted, and it says the same as the document. -/
theorem Document.exists_sameAs_of_parse_canonical (source : Path) (text : Text) (d : Document)
    (h : Document.parse source .reqsml text = .ok d) (hfilled : d.Filled) :
    ∃ d', Document.parse source .reqsml d.canonical = .ok d' ∧ d'.sameAs d = true := by
  obtain ⟨rs, hread, hbare, -⟩ := Canonical.exists_again h hfilled source
  refine ⟨_, hread, Document.sameAs_of_relabel_eq (f := fun _ => 0) ?_⟩
  obtain ⟨rs', n, -, rfl⟩ := Document.parse_reqsml_eq_ok.1 h
  simp only [Document.relabel, Document.mk.injEq, true_and]
  exact hbare

/-- A template and its table are read back from their canonical text. -/
theorem Document.exists_sameAs_of_parse_canonical_table :
    ∃ d d', Document.parse ⟨"a".toList⟩ .reqsml
          "Requirement: a\nIf: <x>\nExamples:\n|x|\n|---|\n// c\n#1|y|".toList = .ok d ∧
      d.Filled ∧ Document.parse ⟨"a".toList⟩ .reqsml d.canonical = .ok d' ∧ d'.sameAs d = true := by
  let set : ExampleSet :=
    { comments := none
      identifier := none
      labels := none
      description := none
      statements := [⟨none, .condition, "<x>".toList, none, some 2⟩]
      line := some 2 }
  let row : Specification :=
    { comments := some ["c".toList]
      identifier := some "1".toList
      labels := none
      description := none
      values := .ofList [("x".toList, "y".toList)] }
  let e : Example :=
    { comments := some ["c".toList]
      identifier := some "1".toList
      labels := none
      explicitLabels := none
      description := none
      statements := [⟨none, .condition, "y".toList, none, some 2⟩]
      exampleSet := some set
      specification := some row }
  let d : Document :=
    ⟨⟨"a".toList⟩, none, none, none, .reqsml, [⟨none, none, none, none, "a".toList, [e]⟩]⟩
  have hread : Document.parse ⟨"a".toList⟩ .reqsml
      "Requirement: a\nIf: <x>\nExamples:\n|x|\n|---|\n// c\n#1|y|".toList = .ok d := by
    with_unfolding_all rfl
  have hfilled : d.Filled := by
    simp [Document.Filled, Example.Filled, Example.printed, d, e, set]
  obtain ⟨d', hagain, hsame⟩ := Document.exists_sameAs_of_parse_canonical _ _ d hread hfilled
  exact ⟨d, d', hread, hfilled, hagain, hsame⟩

/-- A file with an encoded text is loaded as the document that the text is read as. -/
theorem Storage.load_of_read {s : Storage} {p : Path} {dialect : Dialect}
    {text : Text} {d : Document}
    (hdialect : Dialect.ofPath? p = some dialect) (hread : s.read p = .ok text.toString.toUTF8)
    (hparse : Document.parse p dialect text = .ok d) : s.load p = .ok d := by
  simp only [Storage.load, hdialect, hread, decodeText?_toUTF8, hparse]
  rfl

/-- **Canonical text is a fixpoint.**  The canonical text of a document that was read in the tabular
dialect is accepted, and what it is read as has the same canonical text.  A conversion writes this
text.  So a file of that dialect that holds the output of a conversion passes the check for
canonical form. -/
theorem Document.canonical_eq_of_parse_canonical (source : Path) (text : Text) (d : Document)
    (h : Document.parse source .reqsml text = .ok d) (hfilled : d.Filled) :
    (∀ source', ∃ d', Document.parse source' .reqsml d.canonical = .ok d' ∧
      d'.canonical = d.canonical) ∧
    ∀ (s : Storage) (i : Invocation) (file : Path) (colour : Bool),
      i.task = .convert file false → s.load (i.root.join file) = .ok d →
      i.run s colour = .success d.canonical ∧
      ∀ (s' : Storage) (i' : Invocation) (file' : Path) (colour' : Bool),
        i'.task = .convert file' true → Dialect.ofPath? (i'.root.join file') = some .reqsml →
        s'.read (i'.root.join file') = .ok (i.run s colour).output.toString.toUTF8 →
        i'.run s' colour' = .success [] := by
  have hagain (source' : Path) : ∃ d', Document.parse source' .reqsml d.canonical = .ok d' ∧
      d'.canonical = d.canonical := by
    obtain ⟨rs, hread, -, hrows⟩ := Canonical.exists_again h hfilled source'
    exact ⟨_, hread, congrArg (fun rows => Row.render (Row.consolidate rows)) hrows⟩
  refine ⟨hagain, ?_⟩
  intro s i file colour htask hload
  have hrun : i.run s colour = .success d.canonical := by
    rw [Invocation.run, htask]
    simp [Task.runConvert, hload]
  refine ⟨hrun, ?_⟩
  intro s' i' file' colour' htask' hdialect hcontent
  rw [hrun, Outcome.success] at hcontent
  obtain ⟨d', hread, hcanonical⟩ := hagain (i'.root.join file')
  have hdecode := decodeText?_toUTF8 d.canonical
  have hload' : s'.load (i'.root.join file') = .ok d' :=
    Storage.load_of_read hdialect hcontent hread
  rw [Invocation.run, htask']
  simp only [Task.runConvert, hload', hcontent, Except.toOption, Option.bind_some,
    hdecode, hcanonical]
  rfl

/-- Two conditions, of which one has key-value data, become a list that passes the check. -/
theorem Document.canonical_eq_of_parse_canonical_list :
    ∃ (d : Document) (s s' : Storage) (i i' : Invocation),
      s.load (i.root.join ⟨"a.requirements".toList⟩) = .ok d ∧ d.Filled ∧
      i.task = .convert ⟨"a.requirements".toList⟩ false ∧
      i'.task = .convert ⟨"b.requirements".toList⟩ true ∧
      i.run s false = .success d.canonical ∧
      s'.read (i'.root.join ⟨"b.requirements".toList⟩) =
        .ok (i.run s false).output.toString.toUTF8 ∧
      i'.run s' false = .success [] := by
  let first : Statement := ⟨none, .condition, "b".toList,
    some (.keyValues (.ofList [("k".toList, "v".toList)])), some 2⟩
  let second : Statement := ⟨none, .condition, "c".toList, none, some 4⟩
  let e : Example :=
    { comments := none
      identifier := none
      labels := none
      explicitLabels := none
      description := none
      statements := [first, second]
      exampleSet := none
      specification := none }
  let d : Document := ⟨⟨"./a.requirements".toList⟩, none, none, none, .reqsml,
    [⟨none, none, none, none, "a".toList, [e]⟩]⟩
  have hread : Document.parse ⟨"./a.requirements".toList⟩ .reqsml
      "Requirement: a\nIf: b\n|k:v|\nIf: c".toList = .ok d := by with_unfolding_all rfl
  have hfilled : d.Filled := by
    have hentries : (OrderedMap.ofList [(['k'], ['v'])]).entries = [(['k'], ['v'])] := rfl
    simp [Document.Filled, Example.Filled, Example.printed, Data.Filled, d, e, first,
      second, hentries]
  let s : Storage := ⟨fun _ => .ok (.file
    (Text.toString "Requirement: a\nIf: b\n|k:v|\nIf: c".toList).toUTF8)⟩
  let i : Invocation := ⟨⟨['.']⟩, .convert ⟨"a.requirements".toList⟩ false⟩
  let i' : Invocation := ⟨⟨['.']⟩, .convert ⟨"b.requirements".toList⟩ true⟩
  let s' : Storage := ⟨fun _ => .ok (.file (i.run s false).output.toString.toUTF8)⟩
  have hload : s.load (i.root.join ⟨"a.requirements".toList⟩) = .ok d :=
    Storage.load_of_read (by decide) rfl hread
  obtain ⟨hrun, hcheck⟩ :=
    (Document.canonical_eq_of_parse_canonical _ _ d hread hfilled).2 s i _ false rfl hload
  exact ⟨d, s, s', i, i', hload, hfilled, rfl, rfl, hrun, rfl,
    hcheck s' i' _ false rfl (by decide) rfl⟩

end PlainSpec
