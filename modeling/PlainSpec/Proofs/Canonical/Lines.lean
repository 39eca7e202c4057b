import PlainSpec.Proofs.Canonical.Requirements

/-!
# Every row is one line

No row of what was read and is written again holds a line end, so the rows of a document are the
lines of its canonical text.

## Main results

* `Canonical.oneLine_statements`, `Canonical.oneLine_examples`: rows of parts are lines.
* `Canonical.at_canonical`: the rows of a document stand at the start of its canonical text.
* `Canonical.exists_read`: the canonical text is read as the requirements that it was written for.
-/

namespace PlainSpec

open PlainSpec.Parser Grammar Grammar.ReqsML Row

namespace Canonical

/-! ## Parts of a construct -/

theorem oneLine_comments {cs : Comments} (h : LegibleComments cs) :
    OneLine (Canonical.comments cs) := by
  cases cs with
  | none => exact oneLine_nil
  | some cs =>
    rw [comments_some, oneLine_blank, oneLine_flatMap]
    intro c hc
    have hone := ((h cs rfl).2 c hc).oneLine
    simp [commentRow, hone]

theorem oneLine_metadata {m : Metadata} (h : m.Writable) :
    OneLine (metadata m.identifier m.labels) := by
  unfold metadata
  cases ht : metadata? m.identifier m.labels with
  | none => exact oneLine_nil
  | some t => exact oneLine_text.2 ⟨(neat_metadata? h ht).1.oneLine, oneLine_nil⟩

theorem oneLine_dataRows {d : Data} (h : ∀ t ∈ d.rows, '\n' ∉ t) :
    OneLine (Canonical.data (some d)) := by
  rw [Canonical.data, oneLine_append]
  exact ⟨(oneLine_map_text.2 h).indent, by simp⟩

theorem oneLine_data {d : Option Data} (hlegible : ∀ a, d = some a → a.Legible)
    (hfilled : ∀ a, d = some a → a.Filled) : OneLine (Canonical.data d) := by
  cases d with
  | none => exact oneLine_nil
  | some d =>
    refine oneLine_dataRows ?_
    -- the body of a text block is cut at its line ends, and cells hold none
    cases hlegible d rfl with
    | text body _ _ _ =>
      intro t ht
      simp only [Data.rows, List.cons_append, List.mem_cons, List.mem_append, List.not_mem_nil,
        or_false] at ht
      rcases ht with rfl | ht | rfl
      · decide
      · exact Text.not_mem_of_mem_splitOn ht
      · decide
    | rows rows hcells hread =>
      obtain ⟨lines, hlines⟩ := Data.exists_printsAs hcells hread (hfilled d rfl)
      rw [hlines.rows_eq]
      intro t ht
      obtain ⟨line, hline, rfl⟩ := List.mem_map.1 ht
      exact (hlines.cuts line hline).oneLine

/-! ## Statements -/

theorem oneLine_keyword (kind : StatementKind) : '\n' ∉ kind.keyword := by
  cases kind <;> decide

theorem oneLine_statements {ss : List Statement} (h : ∀ s ∈ ss, s.Printable) :
    OneLine (Canonical.statements ss) := by
  have hpart {s : Statement} (hs : s.Printable) : OneLine (Canonical.comments s.comments) ∧
      '\n' ∉ s.description ∧ OneLine (Canonical.data s.data) :=
    ⟨oneLine_comments hs.comments, hs.description.oneLine, oneLine_data hs.data hs.filled⟩
  rw [Canonical.statements, oneLine_flatMap]
  intro g hg
  have hgroup := group_of_mem_runs h hg
  obtain ⟨s, rest⟩ := g
  cases rest with
  | nil =>
    obtain ⟨hcomments, hdescription, hdata⟩ := hpart (hgroup.printable s List.mem_cons_self)
    simp [group, single, hcomments, hdescription, hdata, oneLine_keyword]
  | cons s' rest =>
    have hbullets : OneLine ((s :: s' :: rest).flatMap bullet) := by
      rw [oneLine_flatMap]
      intro b hb
      obtain ⟨hcomments, hdescription, hdata⟩ := hpart (hgroup.printable b hb)
      simp [bullet, hcomments, hdescription, hdata]
    have hrows : group ⟨s, s' :: rest⟩ =
        .text (s.kind.keyword ++ [':']) :: ((s :: s' :: rest).flatMap bullet ++ [.blank]) := rfl
    rw [hrows, oneLine_text, oneLine_append]
    exact ⟨by simp [oneLine_keyword], hbullets, by simp⟩

/-! ## Examples -/

theorem oneLine_table {set : ExampleSet} {es : List Example} (htable : FromTable set es) :
    OneLine (examplesTable es) := by
  obtain ⟨lines, hlines⟩ := exists_printsTable htable
  rw [hlines.rows_eq, oneLine_flatMap]
  intro line hline
  rw [tableRows, oneLine_append]
  exact ⟨oneLine_comments (hlines.comments line hline),
    by simp [(hlines.readsAs line hline).oneLine]⟩

theorem oneLine_template {set : ExampleSet} {es : List Example} (htable : FromTable set es)
    (h : ∀ s ∈ set.statements, s.Printable) : OneLine (template set es) := by
  simp only [template, oneLine_append, oneLine_text, oneLine_blank]
  exact ⟨⟨oneLine_statements h, by decide, (oneLine_table htable).indent⟩, oneLine_nil⟩

theorem oneLine_block {b : List Example} (h : ExampleBlock b) (hfilled : ∀ e ∈ b, e.Filled) :
    OneLine (blockRows b) := by
  cases h with
  | @single e h =>
    obtain ⟨title, hdescription, hneat, -⟩ := h.title
    have hmetadata : OneLine (metadata e.identifier e.explicitLabels) := oneLine_metadata h.metadata
    have hstatements := (oneLine_statements (h.printable (hfilled e List.mem_cons_self))).indent
    simp [blockRows_single h.noSet, Canonical.singleExample, hdescription, hmetadata,
      oneLine_comments h.comments, hneat.oneLine, hstatements]
  | @set set _ h htable =>
    obtain ⟨title, hdescription, hneat, -⟩ := h.title
    have hmetadata : OneLine (metadata set.identifier set.labels) := oneLine_metadata h.metadata
    have htemplate := (oneLine_template htable (htable.printable h.toWritten hfilled)).indent
    simp [blockRows_table htable, Canonical.exampleSet, hdescription, hmetadata,
      oneLine_comments h.comments, hneat.oneLine, htemplate]

theorem oneLine_examples {blocks : List (List Example)} (h : Body blocks)
    (hfilled : ∀ e ∈ blocks.flatten, e.Filled) : OneLine (Canonical.examples blocks.flatten) := by
  cases h with
  | @inline e h =>
    rw [List.flatten_singleton, examples_single h.noSet, singleExample_inline h]
    exact oneLine_statements (h.printable (hfilled e (by simp)))
  | @template set es h hbare htable =>
    rw [List.flatten_singleton] at hfilled ⊢
    rw [examples_template hbare htable.ne_nil htable.blockSet?.2]
    exact oneLine_template htable (htable.printable h hfilled)
  | titled h =>
    rw [examples_flatten h, oneLine_flatMap]
    exact fun b hb => oneLine_block (h.block b hb) fun e he =>
      hfilled e (List.mem_flatten.2 ⟨b, hb, he⟩)

/-! ## Documents -/

theorem oneLine_requirement {r : Requirement} (h : r.Legible)
    (hfilled : ∀ e ∈ r.examples, e.Filled) :
    OneLine (Canonical.requirement r) := by
  obtain ⟨blocks, hbody, hexamples⟩ := h.body
  have hrows : OneLine (Canonical.examples r.examples) := by
    rw [hexamples, examples_inherit]
    refine oneLine_examples hbody fun e he => ?_
    exact hfilled (inherit r.labels e) (hexamples ▸ List.mem_map_of_mem he)
  have hmetadata : OneLine (metadata r.identifier r.explicitLabels) :=
    oneLine_metadata h.metadata.writable
  simp [Canonical.requirement, hmetadata, oneLine_comments h.comments,
    h.title.1.oneLine, hrows.indent]

/-- **The rows of a document stand at the start of its canonical text.** -/
theorem at_canonical {d : Document} (h : PrintableRequirements d.requirements) :
    (Cursor.ofText d.canonical).At (d.requirements.flatMap Canonical.requirement) := by
  refine Cursor.at_ofText_render ?_ (solid_requirements h)
  rw [oneLine_flatMap]
  exact fun r hr => oneLine_requirement (h.legible r hr) (h.filled r hr)

/-- **The canonical text of legible requirements is read** as these requirements. -/
theorem exists_read {d : Document} (h : PrintableRequirements d.requirements) (source : Path) :
    ∃ rs : List Requirement,
      Document.parse source .reqsml d.canonical = .ok ⟨source, none, none, none, .reqsml, rs⟩ ∧
        List.Forall₂ RequirementAgain d.requirements rs := by
  have hstart := at_canonical h
  rw [← List.append_nil (d.requirements.flatMap Canonical.requirement)] at hstart
  obtain ⟨rs, n, hread, hagain, -⟩ := reads_requirements h _ hstart
  exact ⟨rs.toList, Document.parse_reqsml_eq_ok.2 ⟨rs, n, hread, rfl⟩, hagain⟩

end Canonical

end PlainSpec
