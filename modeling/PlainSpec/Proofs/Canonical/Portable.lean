import PlainSpec.Proofs.Canonical.Examples
import PlainSpec.Proofs.Grammar.Requirements
import PlainSpec.Proofs.Grammar.WellFormed

/-!
# What the narrative dialect can hand over

A document of the narrative dialect is legible in the tabular one, up to what that dialect has no
way to write: there is nothing that would take the meaning from a comma in a label, a pipe in front
of a row, the delimiter inside a text, or hyphens below the first item of a list, and a template is
told by the tokens in its statements.  A label of an example that has commas is read as several, so
nothing may be missing between them.  Where none of this occurs, every construct is one that could
have been read from the tabular dialect itself, so whatever is known of its canonical text can be
used.

## Main definitions

* `Data.Portable`, `Example.Portable`, `Requirement.Portable`: what can be written in the tabular
  dialect.

## Main results

* `Grammar.Gherkin.legible_data`: portable data are legible.
* `Grammar.Gherkin.block_spec`, `Grammar.Gherkin.blocks_of_examples`: so are portable examples, in
  blocks.
* `Grammar.Gherkin.carries_rule`, `Grammar.Gherkin.carries_examples`: and what a feature holds.
-/

namespace PlainSpec

open PlainSpec.Parser Grammar

/-! ## What can be written -/

/-- No label with commas has nothing before, between or behind them. -/
def Labels.Filled (labels : Labels) : Prop :=
  ∀ ls, labels = some ls → ∀ l ∈ ls, ',' ∈ l → [] ∉ l.splitOn ','

theorem Labels.Avoid.filled {labels : Labels} (h : labels.Avoid ',') : labels.Filled :=
  fun ls hls l hl hcomma => absurd hcomma (h ls hls l hl)

/-- The data are read as what they are when they are written in the tabular dialect. -/
def Data.Portable : Data → Prop
  | .text content => Dialect.reqsml.textDelimiter ∉ content.splitOn '\n'
  | .list (_ :: second :: _ :: _) => isSeparator second = false
  | .keyValues pairs => ∀ entry ∈ pairs.entries, entry.1 ≠ [] ∧ entry.2 ≠ []
  | _ => True

/-- The data of a statement can be written. -/
def Statement.Portable (s : Statement) : Prop := ∀ d, s.data = some d → d.Portable

/-- An example can be written in the tabular dialect. -/
structure Example.Portable (e : Example) : Prop where
  /-- What stands between commas is read as a label. -/
  labels : e.explicitLabels.Filled
  /-- The labels of a row stand in front of its first pipe. -/
  row : e.specification.isSome = true → e.explicitLabels.Avoid '|'
  setLabels : ∀ set, e.exampleSet = some set → set.labels.Filled
  /-- A titled template has a token in a statement. -/
  tokens : ∀ set, e.exampleSet = some set → (templated? set.statements).isSome = true
  statements : ∀ s ∈ e.printed, s.Portable

/-- A requirement can be written in the tabular dialect. -/
structure Requirement.Portable (r : Requirement) : Prop where
  labels : r.explicitLabels.Avoid ','
  examples : ∀ e ∈ r.examples, e.Portable

/-- A document can be written in the tabular dialect. -/
def Document.Portable (d : Document) : Prop := ∀ r ∈ d.requirements, r.Portable

theorem Data.Portable.filled {d : Data} (h : d.Portable) : d.Filled := by
  rintro pairs rfl
  exact h

theorem Example.Portable.filled {e : Example} (h : e.Portable) : e.Filled := fun s hs d hd =>
  (h.statements s hs d hd).filled

/-! ## Data -/

namespace Grammar

variable {rows : Several TableRow} {d : Data}

/-- Rows with a row of hyphens below the first one. -/
def withHyphens (rows : Several TableRow) : Several TableRow :=
  ⟨rows.head, ⟨0, rows.head.cells.map fun _ => "---".toList⟩ :: rows.tail⟩

theorem legibleCells_withHyphens (h : ∀ row ∈ rows.toList, LegibleCells row.cells) :
    ∀ row ∈ (withHyphens rows).toList, LegibleCells row.cells := by
  have hhead := h rows.head List.mem_cons_self
  refine List.forall_mem_cons.2 ⟨hhead, List.forall_mem_cons.2 ⟨⟨?_, ?_, ?_⟩, fun row hrow =>
    h row (List.mem_cons_of_mem _ hrow)⟩⟩
  · simpa using hhead.nonempty
  · intro hempty
    obtain ⟨_, -, hnil⟩ := List.map_eq_singleton_iff.1 hempty
    cases hnil
  · intro t ht
    obtain ⟨_, -, rfl⟩ := List.mem_map.1 ht
    exact ⟨⟨by decide, by decide⟩, by decide⟩

/-- Rows of one length make a table once there are hyphens below the first one. -/
theorem tabular_withHyphens (hne : rows.tail ≠ [])
    (hlength : ∀ row ∈ rows.toList, row.cells.length = rows.head.cells.length) :
    Tabular (withHyphens rows) rows.head.cells rows.tail where
  header_eq := rfl
  separator := ⟨_, rfl, by simp [isSeparator], by simp⟩
  nonempty := hne
  length_eq row hrow := hlength row (List.mem_cons_of_mem _ hrow)

/-- A run of hyphens is no pair. -/
theorem keyValue?_of_isSeparator {cell : Text} (h : isSeparator cell = true) :
    keyValue? cell = none := by
  have hhyphens : ∀ c ∈ cell, c = '-' := by
    simp only [isSeparator, Bool.and_eq_true, List.all_eq_true, beq_iff_eq] at h
    exact h.2
  have hsplit : cell.splitOn ':' = [cell] := by
    refine List.splitOnP_eq_singleton fun c hc => ?_
    rw [hhyphens c hc]
    decide
  unfold keyValue?
  rw [hsplit]
  cases hempty : cell.isEmpty <;> simp [hempty]

namespace Gherkin

theorem legible_textBlock : Yields (textBlock .gherkin) fun d => d.Portable → d.Legible := by
  refine (yields_body .gherkin).mono ?_
  rintro _ ⟨body, rfl, hneat, -, hfilled⟩ hportable
  have hlines : (Text.join ['\n'] body).splitOn '\n' = body := by
    obtain ⟨t, ht, -⟩ := hfilled
    exact List.splitOn_intercalate '\n' (fun t ht => (hneat t ht).oneLine) (List.ne_nil_of_mem ht)
  refine .text body hneat (fun t ht heq => hportable ?_) hfilled
  rwa [hlines, ← heq]

theorem legible_readMatrix (hcells : ∀ row ∈ rows.toList, LegibleCells row.cells)
    (h : readMatrix .gherkin rows = .ok d) : d.Legible := by
  obtain ⟨m, rfl, hm⟩ := matrixRows_of_readMatrix h
  obtain ⟨columns, hcolumns⟩ := List.head?_eq_some_iff.1 hm.corner
  have htabular := tabular_withHyphens hm.values_ne hm.length_eq
  have hne := hm.columns_ne
  have hdistinct := hm.distinct
  have hentries := hm.entries_eq
  rw [hcolumns] at htabular hne hdistinct hentries
  exact .rows (withHyphens rows) (legibleCells_withHyphens hcells)
    (readRows_eq_ok.2 (.inl (readMatrix_eq_ok.2
      ⟨columns, rows.tail, m, htabular, hne, hdistinct, rfl, hentries⟩)))

theorem legible_readTable (hcells : ∀ row ∈ rows.toList, LegibleCells row.cells)
    (h : readTable .gherkin rows = .ok d) : d.Legible := by
  obtain ⟨rfl, ht⟩ := columnRows_of_readTable h
  have htabular := tabular_withHyphens ht.values_ne ht.length_eq
  refine .rows (withHyphens rows) (legibleCells_withHyphens hcells)
    (readRows_eq_ok.2 (.inr ⟨fun d hmatrix => ?_, .inl (readTable_eq_ok.2
      ⟨rows.head.cells, rows.tail, htabular, ht.filled, ht.distinct, rfl⟩)⟩))
  obtain ⟨columns, values, m, hmatrix, -⟩ := readMatrix_eq_ok.1 hmatrix
  refine ht.filled ?_
  rw [show rows.head.cells = [] :: columns from hmatrix.header_eq]
  exact List.mem_cons_self

theorem legible_readKeyValues (hcells : ∀ row ∈ rows.toList, LegibleCells row.cells)
    (h : readKeyValues rows = .ok d) : d.Legible := by
  obtain ⟨cells, pairs, -, hsingle, hpairs⟩ := readKeyValues_eq_ok.1 h
  refine .rows rows hcells (readRows_eq_ok.2 (.inr ⟨readMatrix_of_singles hsingle,
    .inr ⟨fun d htable => ?_, .inl h⟩⟩))
  obtain ⟨first, second, third, rest, rfl, hhyphens⟩ := separator_of_readTable hsingle htable
  obtain ⟨_, pairs, rfl, -, hpairs⟩ := List.map_eq_cons_iff.1 hpairs.symm
  obtain ⟨pair, _, rfl, hpair, -⟩ := List.map_eq_cons_iff.1 hpairs
  rw [keyValue?_of_isSeparator hhyphens] at hpair
  cases hpair

theorem legible_readList (hcells : ∀ row ∈ rows.toList, LegibleCells row.cells)
    (h : readList rows = .ok d) (hpairs : ∀ d, readKeyValues rows ≠ .ok d)
    (hportable : d.Portable) :
    d.Legible := by
  obtain ⟨items, rfl, hsingle⟩ := readList_eq_ok.1 h
  refine .rows rows hcells (readRows_eq_ok.2 (.inr ⟨readMatrix_of_singles hsingle,
    .inr ⟨fun d htable => ?_, .inr ⟨hpairs, h⟩⟩⟩))
  obtain ⟨first, second, third, rest, rfl, hhyphens⟩ := separator_of_readTable hsingle htable
  have hno : isSeparator second = false := hportable
  rw [hno] at hhyphens
  cases hhyphens

/-- **Portable data are legible**: a table gets a row of hyphens, and everything else can stay as it
is. -/
theorem legible_data : Yields (data .gherkin) fun d => d.Portable → d.Legible := by
  intro c d n hc hread hportable
  have hrows {read : Several TableRow → Except Invalid Data}
      (hcheck : check tableRows read c.skipBlank = .ok d n) :
      ∃ rows, tableRows c.skipBlank = .ok rows n ∧ (∀ row ∈ rows.toList, LegibleCells row.cells) ∧
        read rows = .ok d := by
    obtain ⟨rows, hfound, hok⟩ := check_eq_ok.1 hcheck
    exact ⟨rows, hfound, yields_tableRows _ _ _ hc.skipBlank hfound, hok⟩
  simp only [data, orElse_eq_ok, Cursor.skipBlank_skipBlank] at hread
  rcases hread with (((htext | ⟨-, h⟩) | ⟨-, h⟩) | ⟨hrefuses, h⟩) | ⟨-, h⟩
  · exact legible_textBlock _ _ _ hc.skipBlank htext hportable
  · obtain ⟨rows, -, hcells, hok⟩ := hrows h
    exact legible_readMatrix hcells hok
  · obtain ⟨rows, -, hcells, hok⟩ := hrows h
    exact legible_readKeyValues hcells hok
  · obtain ⟨rows, hfound, hcells, hok⟩ := hrows h
    refine legible_readList hcells hok (fun d' hpairs => ?_) hportable
    have hno := (refuses_orElse.1 hrefuses).2
    rw [Cursor.skipBlank_skipBlank] at hno
    exact hno d' n (check_eq_ok.2 ⟨rows, hfound, hpairs⟩)
  · obtain ⟨rows, -, hcells, hok⟩ := hrows h
    exact legible_readTable hcells hok

/-! ## Statements -/

theorem legible_statementWith {mark : Text} {heading : Parser Heading} (hd : Disciplined heading)
    (h : Yields heading fun h => h.description.Neat ∧ h.description ≠ []) :
    Yields (statementWith .gherkin mark heading) fun s => s.Portable → s.Legible := by
  have hfront := (yields_comments mark).both (disciplined_comments mark) h
  refine (hfront.both ((disciplined_comments mark).both hd) legible_data.whenAhead).map ?_
  rintro ⟨⟨comments, heading⟩, data⟩ ⟨⟨hcomments, hneat, hne⟩, hdata⟩ hportable
  exact ⟨hcomments, hneat, hne, fun d hd => hdata d hd (hportable d hd), rfl⟩

/-- **Portable statements are legible, and there is at least one.** -/
theorem legible_statements :
    Yields statements fun ss => ss ≠ [] ∧ ∀ s ∈ ss, s.Portable → s.Legible :=
  yields_statements fun _ => legible_statementWith

end Gherkin

end Grammar

/-! ## Tags -/

/-- Tags without commas are labels. -/
theorem LegibleTags.metadata {tags : Labels} (h : LegibleTags tags) (havoid : tags.Avoid ',') :
    (Metadata.mk none tags).Legible := by
  refine ⟨nofun, fun ts hts => ?_⟩
  obtain ⟨hne, hwords⟩ := h ts hts
  exact ⟨hne, fun t ht => ⟨.of_forall (hwords t ht).2, (hwords t ht).1, havoid ts hts t ht⟩⟩

/-- **The parts of tags are labels**, since a part of a word is a word. -/
theorem LegibleTags.writable {tags : Labels} (h : LegibleTags tags) (hfilled : tags.Filled) :
    (Metadata.mk none tags).Writable := by
  refine ⟨nofun, fun ts hts => ?_⟩
  obtain ⟨hne, hwords⟩ := h ts hts
  refine ⟨hne, fun t ht part hpart => ⟨.of_forall fun c hc => ?_, ?_⟩⟩
  · exact (hwords t ht).2 c (Text.mem_of_mem_splitOn hpart hc)
  · rintro rfl
    by_cases hcomma : ',' ∈ t
    · exact hfilled ts hts t ht hcomma hpart
    · rw [List.splitOn_eq_singleton hcomma, List.mem_singleton] at hpart
      exact (hwords t ht).1 hpart.symm

namespace Grammar.Gherkin

/-! ## Rows of a table of examples -/

theorem yields_exampleRow :
    Yields exampleRow fun row => row.identifier = none ∧ LegibleComments row.comments ∧
      LegibleTags row.labels ∧ LegibleCells row.cells := by
  refine (yields_header.both disciplined_header yields_tableRow).map ?_
  rintro ⟨front, row⟩ ⟨⟨hcomments, htags⟩, hcells⟩
  exact ⟨rfl, hcomments, htags, hcells⟩

end Grammar.Gherkin

theorem Labels.avoid_none (c : Char) : Labels.Avoid none c := nofun

theorem Labels.filled_none : Labels.Filled none := nofun

/-- A row with tags can be written if their parts are filled and there is no pipe in them. -/
theorem legible_taggedRow {row : TemplateRow} (hidentifier : row.identifier = none)
    (hcomments : LegibleComments row.comments) (htags : LegibleTags row.labels)
    (hcells : LegibleCells row.cells) (hfilled : row.labels.Filled) (hpipe : row.labels.Avoid '|') :
    row.Legible := by
  refine ⟨hcomments, ?_, ?_, hcells⟩
  · rw [hidentifier]
    exact htags.writable hfilled
  · rw [hidentifier]
    exact ⟨nofun, hpipe⟩

/-- Labels alone end with a parenthesis, so they are no row of a table. -/
theorem noRow_of_identifier {m : Metadata} (h : m.identifier = none) : ReqsML.NoRow m := by
  intro t ht v hv
  obtain ⟨identifier, labels⟩ := m
  cases h
  cases labels with
  | none => cases ht
  | some ls =>
    cases ht
    have hlast := ReqsML.readExampleRow_last hv
    rw [Canonical.labelList, ← List.cons_append, List.getLast?_concat] at hlast
    cases hlast

namespace Grammar.Gherkin

/-! ## Blocks of examples -/

/-- **A portable scenario is a titled example.** -/
theorem titled_of_scenario {c n : Cursor} {e : Example} (hc : c.Sound) (h : scenario c = .ok e n)
    (hportable : e.Portable) : e.Titled ∧ e.identifier = none := by
  obtain ⟨⟨⟨front, title⟩, found⟩, hboth, hcheck⟩ := check_eq_ok.1 h
  obtain ⟨⟨⟨hcomments, htags⟩, htitle⟩, hne, hlegible⟩ :=
    ((yields_headed _).both (disciplined_headed _) legible_statements) _ _ _ hc hboth
  dsimp only at hcomments htags htitle hne hlegible hcheck
  split at hcheck
  · cases hcheck
  · rename_i hfault
    cases hcheck
    exact ⟨⟨⟨hne, fun s hs => hlegible s hs (hportable.statements s hs),
      by simpa [tokenFault?] using hfault, rfl, rfl, rfl⟩, hcomments,
      htags.writable hportable.labels, title, rfl, htitle⟩, rfl⟩

/-- **A portable outline is a titled template with its table.** -/
theorem titled_of_outline {c n : Cursor} {es : List Example} (hc : c.Sound)
    (h : outline c = .ok es n) (hportable : ∀ e ∈ es, e.Portable) :
    ∃ set, set.Titled ∧ FromTable set es ∧ set.line = some c.lineNumber ∧
      set.identifier = none := by
  obtain ⟨⟨⟨⟨front, title⟩, found⟩, rows⟩, hboth, hcheck⟩ := check_eq_ok.1 h
  have hdisciplined := ((disciplined_headed outlineKeywords).both disciplined_statements).first
    (disciplined_alone examplesKeywords)
  obtain ⟨⟨⟨⟨hcomments, htags⟩, htitle⟩, hne, hlegible⟩, hrows⟩ :=
    (((yields_headed _).both (disciplined_headed _) legible_statements).first.both hdisciplined
      (yields_exampleRow.several disciplined_exampleRow)) _ _ _ hc hboth
  dsimp only at hcomments htags htitle hne hlegible hrows hcheck
  split at hcheck
  · cases hcheck
  · rename_i hvalues
    replace hvalues : rows.tail ≠ [] := by simpa using hvalues
    obtain ⟨hfits, rfl⟩ := Template.expand_eq_ok.1 hcheck
    obtain ⟨hidentifier, hcomments', htags', hcells⟩ := hrows rows.head List.mem_cons_self
    have hheader : rows.head.Legible :=
      legible_taggedRow hidentifier hcomments' htags' hcells
        (hfits.top.labels ▸ Labels.filled_none) (hfits.top.labels ▸ Labels.avoid_none _)
    have hlegibleRows : ∀ row ∈ rows.tail, row.Legible := by
      intro row hrow
      obtain ⟨hidentifier, hcomments, htags, hcells⟩ := hrows row (List.mem_cons_of_mem _ hrow)
      have hp := hportable _ (List.mem_map_of_mem hrow)
      exact legible_taggedRow hidentifier hcomments htags hcells hp.labels (hp.row rfl)
    -- what is written of the template is known from any of its examples
    obtain ⟨row, hrow⟩ := List.exists_mem_of_ne_nil _ hvalues
    have hp := hportable _ (List.mem_map_of_mem hrow)
    exact ⟨_, ⟨⟨hne, fun s hs => hlegible s hs (hp.statements s hs), rfl⟩, hcomments,
      htags.writable (hp.setLabels _ rfl), ⟨title, rfl, htitle⟩, hp.tokens _ rfl⟩,
      ⟨rows.head, rows.tail, hheader, hlegibleRows, hvalues, Template.fault?_eq_none.2 hfits, rfl⟩,
      rfl, rfl⟩

/-- A scenario or an outline. -/
abbrev block : Parser (List Example) := orElse outline (map scenario fun e => [e])

/-- **What is read as a portable block**: its examples, the line of its template, and that it has no
identifier. -/
theorem block_spec {c n : Cursor} {es : List Example} (hc : c.Sound) (h : block c = .ok es n)
    (hportable : ∀ e ∈ es, e.Portable) :
    ExampleBlock es ∧ (∀ set, blockSet? es = some set → set.line = some c.lineNumber) ∧
      (blockMetadata es).identifier = none := by
  rcases orElse_eq_ok.1 h with hset | ⟨-, hsingle⟩
  · obtain ⟨set, htitled, htable, hline, hidentifier⟩ :=
      titled_of_outline hc.skipBlank hset hportable
    refine ⟨.set htitled htable,
      fun set' hset' => ?_, by rw [htable.blockMetadata_eq]; exact hidentifier⟩
    rw [htable.blockSet?.1] at hset'
    cases hset'
    rw [hline, lineNumber_skipBlank]
  · obtain ⟨e, he, rfl⟩ := map_eq_ok.1 hsingle
    obtain ⟨htitled, hidentifier⟩ :=
      titled_of_scenario hc.skipBlank he (hportable e (List.mem_singleton_self e))
    refine ⟨.single htitled, fun set hset => by simp [blockSet?, htitled.noSet] at hset, ?_⟩
    rw [blockMetadata_single htitled.noSet]
    exact hidentifier

/-- **Neighbouring blocks** start on different lines, and the second one has no identifier. -/
theorem follows_of_block {c m n : Cursor} {first second : List Example} (hc : c.Sound)
    (hfirst : block c = .ok first m) (hsecond : block m = .ok second n)
    (hportable : ∀ e ∈ first, e.Portable) (hportable' : ∀ e ∈ second, e.Portable) :
    Follows first second := by
  have hm : m.Sound := hc.of_reaches (disciplined_block.reaches hfirst)
  obtain ⟨-, hend, -⟩ := block_spec hc hfirst hportable
  obtain ⟨-, hstart, hidentifier⟩ := block_spec hm hsecond hportable'
  refine ⟨fun set set' hset hset' heq => ?_, fun _ => noRow_of_identifier hidentifier⟩
  rw [hend set hset, hstart set' hset', Option.some.injEq] at heq
  have hlt := consuming_block.lineNumber_lt hc hfirst (consuming_block.not_atEnd hsecond)
  exact absurd heq (Nat.ne_of_lt hlt)

/-- **Portable examples are titled examples in blocks.** -/
theorem blocks_of_examples {c n : Cursor} {es : List Example} (hc : c.Sound)
    (h : examples c = .ok es n) (hportable : ∀ e ∈ es, e.Portable) :
    ∃ blocks, LegibleBlocks blocks ∧ es = blocks.flatten := by
  obtain ⟨blocks, hblocks, rfl⟩ := map_eq_ok.1 h
  have hrun := several_eq_ok.1 hblocks
  have hmem {b : List Example} (hb : b ∈ blocks.toList) : ∀ e ∈ b, e.Portable := fun e he =>
    hportable e (List.mem_flatten.2 ⟨b, hb, he⟩)
  have hyields : Yields block fun b => (∀ e ∈ b, e.Portable) → ExampleBlock b :=
    fun c b n hc hb hp => (block_spec hc hb hp).1
  have hblock := hyields.run disciplined_block hc.skipBlank hrun
  have hadjacent : ∀ a b rest, a :: b :: rest <:+ blocks.toList →
      (∀ e ∈ a, e.Portable) → (∀ e ∈ b, e.Portable) → Follows a b :=
    hrun.adjacent disciplined_block (fun _ _ _ _ _ => follows_of_block) hc.skipBlank
  refine ⟨blocks.toList, ⟨List.cons_ne_nil _ _, fun b hb => hblock b hb (hmem hb), ?_⟩, rfl⟩
  intro a b rest hsuffix
  exact hadjacent a b rest hsuffix (hmem (hsuffix.subset (by simp)))
    (hmem (hsuffix.subset (by simp)))

/-! ## Requirements -/

/-- A portable requirement is legible, up to what it inherits, and it has no identifier. -/
def Carries (r : Requirement) : Prop := r.Portable → (inherit none r).Legible ∧ r.identifier = none

theorem carries_of_examples {r : Requirement} (hcomments : LegibleComments r.comments)
    (htags : LegibleTags r.explicitLabels) (hidentifier : r.identifier = none)
    (htitle : r.description.Neat ∧ r.description ≠ [])
    (hexamples : (∀ e ∈ r.examples, e.Portable) →
      ∃ blocks, LegibleBlocks blocks ∧ r.examples = blocks.flatten) : Carries r := by
  intro hportable
  obtain ⟨blocks, hblocks, heq⟩ := hexamples hportable.examples
  refine ⟨⟨hcomments, ?_, htitle, rfl, blocks, .titled hblocks, ?_⟩, hidentifier⟩
  · have hmetadata := htags.metadata hportable.labels
    rwa [← hidentifier] at hmetadata
  · rw [← heq]
    rfl

theorem carries_rule : Yields rule Carries := by
  intro c r n hc h
  obtain ⟨⟨⟨front, title⟩, found⟩, hboth, rfl⟩ := map_eq_ok.1 h
  obtain ⟨m, hhead, hexamples⟩ := both_eq_ok.1 hboth
  obtain ⟨⟨hcomments, htags⟩, htitle⟩ := yields_headed _ _ _ _ hc.skipBlank hhead
  have hm : m.Sound := hc.skipBlank.of_reaches ((disciplined_headed _).reaches hhead)
  exact carries_of_examples hcomments htags rfl htitle (blocks_of_examples hm hexamples)

/-- A feature without rules carries over with its own title. -/
theorem carries_examples {title : Text} (htitle : title.Neat ∧ title ≠ []) :
    Yields examples fun es => Carries ⟨none, none, none, none, title, es⟩ := fun _ _ _ hc h =>
  carries_of_examples .none nofun rfl htitle (blocks_of_examples hc h)

end Grammar.Gherkin

end PlainSpec
