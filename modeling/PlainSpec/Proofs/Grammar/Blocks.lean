import PlainSpec.Proofs.Grammar.Legible
import PlainSpec.Proofs.Parser.Repetition

/-!
# Examples as they are read

Examples are read in blocks: a titled example, or the examples of a titled template and its table.
Two templates next to each other start on different lines, and what stands behind a table is not
read as a further row of it.  Both are needed to tell the blocks apart once they are written.

## Main definitions

* `TemplateRow.Legible`: a row of a table of examples as it is read.
* `FromTable`: examples that were made from a template and a table.
* `ExampleBlock`: the examples of one titled construct.
* `Follows`: what holds of neighbouring blocks.
* `LegibleBlocks`: titled examples in blocks, as they are read.

## Main results

* `Grammar.ReqsML.noRow_of_header`: metadata behind a table are no row of it, also when they are
  written again.
* `Grammar.ReqsML.blocks_of_run`: what is read as titled examples.
-/

namespace PlainSpec

open PlainSpec.Parser Grammar Grammar.ReqsML

/-! ## Rows of a table of examples -/

/-- A row of a table of examples as it is read. -/
structure TemplateRow.Legible (row : TemplateRow) : Prop where
  comments : LegibleComments row.comments
  metadata : (Metadata.mk row.identifier row.labels).Writable
  avoids : (Metadata.mk row.identifier row.labels).Avoids '|'
  cells : LegibleCells row.cells

namespace Grammar.ReqsML

/-- **A row of examples is cut into its metadata, if there are any, and its cells.** -/
theorem readExampleRow_eq_ok {text : Text} {m : Metadata} {cells : List Text} :
    readExampleRow text = .ok (m, cells) ↔
      splitCells (Text.cutAt (· == '|') text).2 = .ok cells ∧
        ((Text.cutAt (· == '|') text).1.trim = [] ∧ m = noMetadata ∨
          (Text.cutAt (· == '|') text).1.trim.startsWith ['#'] = true ∧
            readMetadata (Text.cutAt (· == '|') text).1.trim = .ok m) := by
  unfold readExampleRow
  dsimp only
  split
  · rename_i hempty
    rw [List.isEmpty_iff] at hempty
    rw [Except.map_eq_ok, hempty]
    simp [Text.startsWith, Text.after?, @eq_comm _ noMetadata]
  · rename_i hne
    rw [List.isEmpty_iff] at hne
    split
    · rename_i hmark
      cases readMetadata (Text.cutAt (· == '|') text).1.trim with
      | error e => simp [hne]
      | ok m' =>
        simp only [Except.map_eq_ok, Prod.mk.injEq, hne, hmark, false_and, true_and, false_or,
          Except.ok.injEq]
        constructor
        · rintro ⟨_, hs, hm, rfl⟩
          exact ⟨hs, hm⟩
        · rintro ⟨hs, hm⟩
          exact ⟨cells, hs, hm, rfl⟩
    · rename_i hmark
      simp [hne, hmark]

theorem legible_readExampleRow {text : Text} {m : Metadata} {cells : List Text}
    (h : readExampleRow text = .ok (m, cells)) (htext : '\n' ∉ text) :
    m.Legible ∧ m.Avoids '|' ∧ LegibleCells cells := by
  obtain ⟨hs, hm⟩ := readExampleRow_eq_ok.1 h
  have hcells : LegibleCells cells :=
    legibleCells_splitCells hs fun hmem => htext (Text.mem_of_mem_cutAt_snd hmem)
  rcases hm with ⟨-, rfl⟩ | ⟨-, hm⟩
  · exact ⟨legible_noMetadata, ⟨nofun, nofun⟩, hcells⟩
  · have hfront : '\n' ∉ (Text.cutAt (· == '|') text).1.trim := fun hmem =>
      htext (Text.mem_of_mem_cutAt_fst (Text.mem_of_mem_trim hmem))
    have hpipe : '|' ∉ (Text.cutAt (· == '|') text).1.trim := fun hmem =>
      Text.not_mem_cutAt_fst text '|' (Text.mem_of_mem_trim hmem)
    obtain ⟨hlegible, havoids⟩ := legible_readMetadata hm hfront
    exact ⟨hlegible, havoids '|' hpipe, hcells⟩

theorem yields_exampleRow :
    Yields exampleRow fun row => row.Legible ∧ row.labels.Avoid ',' := by
  refine ((yields_comments commentMark).both (disciplined_comments _)
    (.line (P := fun v => v.2.1.Legible ∧ v.2.1.Avoids '|' ∧ LegibleCells v.2.2) ?_)).map ?_
  · intro l v hl hv
    obtain ⟨found, hr, rfl⟩ := Except.map_eq_ok.1 hv
    exact legible_readExampleRow hr hl.oneLine
  · rintro ⟨comments, number, metadata, cells⟩ ⟨hcomments, hmetadata, havoids, hcells⟩
    exact ⟨⟨hcomments, hmetadata.writable, havoids, hcells⟩, hmetadata.avoid⟩

theorem yields_exampleRows :
    Yields exampleRows fun rows => ∀ row ∈ rows, row.Legible ∧ row.labels.Avoid ',' :=
  (yields_exampleRow.several disciplined_exampleRow).map fun _ h => h

/-! ## The end of a table -/

/-- Nothing ahead is read as a row of examples. -/
def TableEnds (c : Cursor) : Prop := Refuses exampleRow c.skipBlank

/-- **A table of examples is read to its end.** -/
theorem tableEnds_of_exampleRows {c n : Cursor} {rows : List TemplateRow}
    (h : exampleRows c = .ok rows n) : TableEnds n := by
  obtain ⟨found, hfound, -⟩ := map_eq_ok.1 h
  obtain ⟨v, m, hstop⟩ := stop_of_run consuming_exampleRow (several_eq_ok.1 hfound)
  have hnot : ¬ Refuses (orElse finish (absent exampleRow)) n := not_refuses_iff.2 ⟨v, m, hstop⟩
  rw [refuses_unless, not_and] at hnot
  intro w k hw
  have hend := consuming_exampleRow.not_atEnd hw
  exact hnot (by simpa [Cursor.atEnd] using hend) ⟨w, k, hw⟩

/-- The metadata are not read as a row of examples when they are written. -/
def NoRow (m : Metadata) : Prop :=
  ∀ t, Canonical.metadata? m.identifier m.labels = some t → ∀ v, readExampleRow t ≠ .ok v

/-- A row of examples ends with a pipe. -/
theorem readExampleRow_last {t : Text} {v : Metadata × List Text} (h : readExampleRow t = .ok v) :
    t.getLast? = some '|' := by
  obtain ⟨inner, hinner, -⟩ := splitCells_eq_ok.1 (readExampleRow_eq_ok.1 h).1
  rw [← Text.cutAt_append (· == '|') t, hinner, ← List.append_assoc, List.getLast?_concat]

/-- Metadata without labels. -/
theorem readMetadata_mark {f : Text} (hf : '(' ∉ f) :
    readMetadata (Text.trim ('#' :: f)) =
      if f.trim.isEmpty then .error .emptyMetadata else .ok ⟨some f.trim, none⟩ := by
  have hend : '(' ∉ f.trimEnd := by
    intro hmem
    obtain ⟨b, hb, -⟩ := Text.exists_trimEnd f
    exact hf (by rw [hb]; exact List.mem_append_left _ hmem)
  have hcut : Text.cutAt (· == '(') (f.trimEnd ++ []) = (f.trimEnd, []) := by
    refine Text.cutAt_of_forall (fun c hc => ?_) (by simp)
    simpa using fun heq : c = '(' => hend (heq ▸ hc)
  rw [List.append_nil] at hcut
  rw [Text.trim_cons (by decide)]
  simp only [readMetadata, Text.after?, if_true, hcut, Text.trim_trimEnd, Text.trim_nil,
    List.isEmpty_nil, Bool.and_true]

/-- A row with a mark in front has metadata. -/
theorem readExampleRow_mark {front row : Text} (hcut : '|' ∉ front)
    (hrow : ∀ c, row.head? = some c → c = '|') :
    readExampleRow ('#' :: front ++ row) =
      match readMetadata (Text.trim ('#' :: front)) with
      | .error fault => .error fault
      | .ok metadata => (splitCells row).map fun cells => (metadata, cells) := by
  have hcut : Text.cutAt (· == '|') ('#' :: front ++ row) = ('#' :: front, row) := by
    refine Text.cutAt_of_forall (fun c hc => ?_) fun c hc => by simp [hrow c hc]
    rcases List.mem_cons.1 hc with rfl | hc
    · rfl
    · simpa using fun heq : c = '|' => hcut (heq ▸ hc)
  have hstarts : Text.startsWith ('#' :: front.trimEnd) ['#'] = true := by
    simp [Text.startsWith, Text.after?]
  simp only [readExampleRow, hcut]
  rw [Text.trim_cons (by decide)]
  cases readMetadata ('#' :: front.trimEnd) with
  | error fault => simp [hstarts]
  | ok metadata => simp [hstarts]

/-- Blanks behind the mark of metadata do not make a row of what is none. -/
theorem readExampleRow_blanks {b i : Text} (hb : Text.AllBlank b) (hi : '(' ∉ i) :
    readExampleRow ('#' :: (b ++ i)) = readExampleRow ('#' :: i) := by
  have hchars {c : Char} (hc : isBlank c = false) : c ∉ b := fun hmem => by
    simp [hb c hmem] at hc
  obtain ⟨front, row, hcut⟩ : ∃ front row, Text.cutAt (· == '|') i = (front, row) := ⟨_, _, rfl⟩
  have hi_eq : i = front ++ row := by
    have := Text.cutAt_append (· == '|') i
    rw [hcut] at this
    exact this.symm
  have hpipe : '|' ∉ front := by
    have := Text.not_mem_cutAt_fst i '|'
    rwa [hcut] at this
  have hrow : ∀ c, row.head? = some c → c = '|' := by
    intro c hc
    exact Text.eq_of_head?_cutAt_snd (t := i) (by rw [hcut]; exact hc)
  have hparen : '(' ∉ front := fun hmem => hi (by rw [hi_eq]; exact List.mem_append_left _ hmem)
  have hpipe' : '|' ∉ b ++ front := by simp [hpipe, hchars (show isBlank '|' = false by decide)]
  have hleft := readExampleRow_mark hpipe' hrow
  have hright := readExampleRow_mark hpipe hrow
  rw [readMetadata_mark (by simp [hparen, hchars (show isBlank '(' = false by decide)]),
    Text.trim_append_of_blank hb, ← readMetadata_mark hparen, ← hright] at hleft
  rw [hi_eq, ← List.append_assoc]
  exact hleft

/-- An identifier without labels is what stands behind the mark. -/
theorem readMetadata_identifier {text i : Text} (h : readMetadata text = .ok ⟨some i, none⟩) :
    ∃ rest : Text, text = '#' :: rest ∧ '(' ∉ rest ∧ i = rest.trim := by
  unfold readMetadata at h
  split at h
  · cases h
  · rename_i rest hrest
    rw [Text.after?_eq_some_iff] at hrest
    dsimp only at h
    split at h
    · cases h
    · split at h
      · rename_i hempty
        rw [List.isEmpty_iff, Text.trim_eq_nil] at hempty
        simp only [Except.ok.injEq, Metadata.mk.injEq, Option.some.injEq, and_true] at h
        have hback : (Text.cutAt (· == '(') rest).2 = [] := by
          cases hsnd : (Text.cutAt (· == '(') rest).2 with
          | nil => rfl
          | cons c back =>
            have hc : c = '(' := Text.eq_of_head?_cutAt_snd (t := rest) (by rw [hsnd]; rfl)
            rw [hsnd, Text.allBlank_cons, hc] at hempty
            exact absurd hempty.1 (by decide)
        have hfront : (Text.cutAt (· == '(') rest).1 = rest := by
          have := Text.cutAt_append (· == '(') rest
          rwa [hback, List.append_nil] at this
        rw [hfront] at h
        refine ⟨rest, hrest, ?_, h.symm⟩
        have := Text.not_mem_cutAt_fst rest '('
        rwa [hfront] at this
      · obtain ⟨labels, -, hm⟩ := Except.map_eq_ok.1 h
        simp at hm

/-- Metadata that are no row of examples are none when they are written. -/
theorem noRow_of_readMetadata {text : Text} {m : Metadata} (h : readMetadata text = .ok m)
    (htext : text.Neat) (hno : ∀ v, readExampleRow text ≠ .ok v) : NoRow m := by
  intro t ht v hv
  have hlast := readExampleRow_last hv
  obtain ⟨identifier, labels⟩ := m
  -- labels end with a parenthesis, so with labels there is no pipe at the end
  have hlabels (front : Text) (ls : List Text) :
      (front ++ Canonical.labelList ls).getLast? ≠ some '|' := by
    rw [Canonical.labelList, ← List.append_assoc, List.getLast?_concat]
    simp
  match identifier, labels, ht with
  | none, some ls, ht =>
    cases ht
    exact hlabels ['#'] ls hlast
  | some i, some ls, ht =>
    cases ht
    refine hlabels ('#' :: i ++ [' ']) ls ?_
    rw [← hlast]
    simp
  | some i, none, ht =>
    cases ht
    obtain ⟨rest, rfl, hparen, rfl⟩ := readMetadata_identifier h
    obtain ⟨b, b', hrest, hb, hb'⟩ := Text.exists_trim rest
    have hparen' : '(' ∉ rest.trim := fun hmem => hparen (Text.mem_of_mem_trim hmem)
    have hnil : b' = [] := by
      rcases List.eq_nil_or_concat b' with hnil | ⟨init, c, hc⟩
      · exact hnil
      · have hblank : isBlank c = true := hb' c (by simp [hc])
        have hend : ('#' :: rest).getLast? = some c := by
          rw [hrest, hc, List.concat_eq_append, ← List.append_assoc, ← List.cons_append,
            List.getLast?_concat]
        simp [htext.last hend] at hblank
    rw [hnil, List.append_nil] at hrest
    refine hno v ?_
    rw [hrest, readExampleRow_blanks hb hparen']
    exact hv

/-- **Metadata behind a table are no row of it**, also when they are written again. -/
theorem noRow_of_header {c n : Cursor} {h : Header} (hc : c.Sound) (hh : header c = .ok h n)
    (hends : TableEnds c) : NoRow h.metadata := by
  obtain ⟨⟨comments, metadata⟩, hboth, rfl⟩ := map_eq_ok.1 hh
  obtain ⟨m, hcomments, hmetadata⟩ := both_eq_ok.1 hboth
  dsimp only at hcomments hmetadata
  rcases whenAhead_eq_ok.1 hmetadata with ⟨-, found, hfound, rfl⟩ | ⟨-, rfl, -⟩
  · obtain ⟨text, hline, hread⟩ := check_eq_ok.1 hfound
    obtain ⟨l, hl, htext, -⟩ := line_eq_ok.1 hline
    cases htext
    have hsound : m.Sound := hc.skipBlank.of_reaches ((disciplined_comments _).reaches hcomments)
    have hneat : l.trimmed.Neat := Line.neat_trimmed (hsound.ahead hl)
    refine noRow_of_readMetadata (Except.mapError_eq_ok.1 hread) hneat fun v hv => ?_
    refine hends ⟨l.number, comments, v.1.identifier, v.1.labels, v.2⟩ m.skipBlank.advance
      (map_eq_ok.2 ⟨(comments, l.number, v.1, v.2), both_eq_ok.2 ⟨m, ?_, ?_⟩, rfl⟩)
    · rw [Cursor.skipBlank_skipBlank]
      exact hcomments
    · refine line_eq_ok.2 ⟨l, hl, ?_, rfl⟩
      rw [hv]
      rfl
  · rintro t ⟨⟩

end Grammar.ReqsML

/-! ## Blocks of examples -/

/-- The examples were made from a template and a table as they are read. -/
def FromTable (set : ExampleSet) (examples : List Example) : Prop :=
  ∃ header rows, header.Legible ∧ (∀ row ∈ rows, row.Legible) ∧ rows ≠ [] ∧
    Template.fault? set header rows = none ∧ examples = rows.map (Template.expandRow set header)

/-- A title as it is read. -/
def LegibleTitle (title : Option Text) : Prop := ∃ t, title = some t ∧ t.Neat ∧ t ≠ []

/-- An example that was not made from a table, as it is read, before it inherits labels. -/
structure Example.Written (e : Example) : Prop where
  nonempty : e.statements ≠ []
  statements : ∀ s ∈ e.statements, s.Legible
  noTokens : templated? e.statements = none
  labels_eq : e.labels = e.explicitLabels
  noSet : e.exampleSet = none
  noRow : e.specification = none

/-- A titled example. -/
structure Example.Titled (e : Example) : Prop extends Example.Written e where
  comments : LegibleComments e.comments
  metadata : (Metadata.mk e.identifier e.explicitLabels).Writable
  title : LegibleTitle e.description

/-- An example with nothing but statements. -/
structure Example.Inline (e : Example) : Prop extends Example.Written e where
  noComments : e.comments = none
  noIdentifier : e.identifier = none
  noLabels : e.explicitLabels = none
  noTitle : e.description = none

/-- A template as it is read. -/
structure ExampleSet.Written (set : ExampleSet) : Prop where
  nonempty : set.statements ≠ []
  statements : ∀ s ∈ set.statements, s.Legible
  placed : set.line.isSome = true

/-- A titled template. -/
structure ExampleSet.Titled (set : ExampleSet) : Prop extends ExampleSet.Written set where
  comments : LegibleComments set.comments
  metadata : (Metadata.mk set.identifier set.labels).Writable
  title : LegibleTitle set.description
  tokens : (templated? set.statements).isSome = true

/-! ### Labels that are cut -/

/-- The row that is read where this one is written. -/
def TemplateRow.cut (row : TemplateRow) : TemplateRow := { row with labels := row.labels.cut }

/-- The template that is read where this one is written. -/
def ExampleSet.cut (set : ExampleSet) : ExampleSet := { set with labels := set.labels.cut }

/-- The row of values that is read where this one is written. -/
def Specification.cut (s : Specification) : Specification := { s with labels := s.labels.cut }

/-- The labels of the template that an example was made from. -/
def Example.setLabels (e : Example) : Labels := e.exampleSet.bind ExampleSet.labels

/-- The example that is read where this one is written, before it inherits labels. -/
def Example.cut (e : Example) : Example :=
  { e with
    labels := Labels.merge e.setLabels.cut e.explicitLabels.cut
    explicitLabels := e.explicitLabels.cut
    exampleSet := e.exampleSet.map ExampleSet.cut
    specification := e.specification.map Specification.cut }

/-- The labels of an example before it inherits any: its own and those of its template.  The labels
of a row are the example's own. -/
structure Example.OwnLabels (e : Example) : Prop where
  labels_eq : e.labels = Labels.merge e.setLabels e.explicitLabels
  row : ∀ row, e.specification = some row → row.labels = e.explicitLabels

/-- Neither the example nor its template has a label with a comma. -/
structure Example.Uncut (e : Example) : Prop where
  labels : e.explicitLabels.Avoid ','
  setLabels : e.setLabels.Avoid ','

/-- Without commas an example is read as it is written. -/
theorem Example.Uncut.cut_eq {e : Example} (h : e.Uncut) (hown : e.OwnLabels) : e.cut = e := by
  have hset : e.exampleSet.map ExampleSet.cut = e.exampleSet := by
    cases hsome : e.exampleSet with
    | none => rfl
    | some set =>
      have hlabels : e.setLabels = set.labels := by rw [Example.setLabels, hsome, Option.bind_some]
      have havoid : set.labels.Avoid ',' := hlabels ▸ h.setLabels
      rw [Option.map_some, ExampleSet.cut, havoid.cut_eq]
  have hrow : e.specification.map Specification.cut = e.specification := by
    cases hsome : e.specification with
    | none => rfl
    | some row =>
      have havoid : row.labels.Avoid ',' := hown.row row hsome ▸ h.labels
      rw [Option.map_some, Specification.cut, havoid.cut_eq]
  rw [Example.cut, hset, hrow, h.labels.cut_eq, h.setLabels.cut_eq, ← hown.labels_eq]

/-- The examples of one titled construct. -/
inductive ExampleBlock : List Example → Prop where
  /-- A titled example. -/
  | single {e : Example} (h : e.Titled) : ExampleBlock [e]
  /-- A titled template and its table. -/
  | set {set : ExampleSet} {examples : List Example} (h : set.Titled)
      (htable : FromTable set examples) : ExampleBlock examples

/-- The template of examples that were written together. -/
def blockSet? (examples : List Example) : Option ExampleSet :=
  examples.head?.bind Example.exampleSet

/-- The metadata in front of examples that were written together. -/
def blockMetadata (examples : List Example) : Metadata :=
  match examples with
  | [] => noMetadata
  | e :: _ =>
    match e.exampleSet with
    | some set => ⟨set.identifier, set.labels⟩
    | none => ⟨e.identifier, e.explicitLabels⟩

/-- What holds of neighbouring blocks: templates start on different lines, and the second block is
not read as a part of the table of the first one. -/
structure Follows (first second : List Example) : Prop where
  apart : ∀ set set', blockSet? first = some set → blockSet? second = some set' →
    set.line ≠ set'.line
  noRow : (blockSet? first).isSome = true → NoRow (blockMetadata second)

theorem FromTable.blockSet? {set : ExampleSet} {examples : List Example}
    (h : FromTable set examples) :
    blockSet? examples = some set ∧ ∀ e ∈ examples, e.exampleSet = some set := by
  obtain ⟨header, rows, -, -, hne, -, rfl⟩ := h
  obtain ⟨row, rest, rfl⟩ := List.exists_cons_of_ne_nil hne
  refine ⟨rfl, fun e he => ?_⟩
  obtain ⟨row', -, rfl⟩ := List.mem_map.1 he
  rfl

theorem FromTable.ownLabels {set : ExampleSet} {examples : List Example}
    (h : FromTable set examples) : ∀ e ∈ examples, e.OwnLabels := by
  obtain ⟨header, rows, -, -, -, -, rfl⟩ := h
  intro e he
  obtain ⟨row, -, rfl⟩ := List.mem_map.1 he
  refine ⟨rfl, ?_⟩
  rintro _ ⟨⟩
  rfl

theorem Example.Written.ownLabels {e : Example} (h : e.Written) : e.OwnLabels := by
  refine ⟨?_, fun row hrow => ?_⟩
  · rw [h.labels_eq, setLabels, h.noSet]
    rfl
  · rw [h.noRow] at hrow
    cases hrow

theorem FromTable.ne_nil {set : ExampleSet} {examples : List Example} (h : FromTable set examples) :
    examples ≠ [] := by
  obtain ⟨header, rows, -, -, hne, -, rfl⟩ := h
  simpa using hne

theorem FromTable.blockMetadata_eq {set : ExampleSet} {examples : List Example}
    (h : FromTable set examples) : blockMetadata examples = ⟨set.identifier, set.labels⟩ := by
  obtain ⟨e, rest, rfl⟩ := List.exists_cons_of_ne_nil h.ne_nil
  simp [blockMetadata, h.blockSet?.2 e List.mem_cons_self]

theorem blockMetadata_single {e : Example} (he : e.exampleSet = none) :
    blockMetadata [e] = ⟨e.identifier, e.explicitLabels⟩ := by
  simp [blockMetadata, he]

namespace Grammar.ReqsML

/-! ## Reading blocks -/

theorem expandRows_eq_ok {set : ExampleSet} {rows : List TemplateRow} {examples : List Example} :
    expandRows set rows = .ok examples ↔
      ∃ header separator values, rows = header :: separator :: values ∧ values ≠ [] ∧
        separator.cells.all isSeparator = true ∧ Template.fault? set header values = none ∧
        examples = values.map (Template.expandRow set header) := by
  match rows with
  | [] => simp [expandRows]
  | [_] => simp [expandRows]
  | [_, _] =>
    simp only [expandRows, reduceCtorEq, List.cons.injEq, false_iff, not_exists, not_and]
    rintro header separator values ⟨-, -, rfl⟩ hne
    exact absurd rfl hne
  | header :: separator :: value :: values =>
    rw [expandRows]
    constructor
    · intro h
      split at h
      · rename_i hseparator
        unfold Template.expand at h
        split at h
        · cases h
        · rename_i hfault
          cases h
          exact ⟨header, separator, value :: values, rfl, by simp, hseparator, hfault, rfl⟩
      · cases h
    · rintro ⟨header', separator', values', heq, -, hseparator, hfault, rfl⟩
      obtain ⟨rfl, rfl, rfl⟩ : header = header' ∧ separator = separator' ∧
          value :: values = values' := by
        simpa using heq
      rw [if_pos hseparator, Template.expand, hfault]

theorem fromTable_of_expandRows {set : ExampleSet} {rows : List TemplateRow}
    {examples : List Example}
    (h : expandRows set rows = .ok examples) (hrows : ∀ row ∈ rows, row.Legible) :
    FromTable set examples := by
  obtain ⟨header, separator, values, rfl, hne, -, hfault, rfl⟩ := expandRows_eq_ok.1 h
  exact ⟨header, values, hrows header (by simp), fun row hrow => hrows row (by simp [hrow]), hne,
    hfault, rfl⟩

/-- A titled example is read in front of what follows it. -/
theorem titled_of_singleExample {c n : Cursor} {e : Example} (hc : c.Sound)
    (h : singleExample c = .ok e n) :
    e.Titled ∧ ∃ (front : Header) (m : Cursor), header c.skipBlank = .ok front m ∧
      front.metadata = ⟨e.identifier, e.explicitLabels⟩ := by
  obtain ⟨⟨⟨found, title⟩, statements⟩, hboth, hcheck⟩ := check_eq_ok.1 h
  obtain ⟨m, hfront, hstatements⟩ := both_eq_ok.1 hboth
  obtain ⟨k, hheader, htitle⟩ := both_eq_ok.1 hfront
  dsimp only at hfront hstatements hheader htitle hcheck
  rw [Cursor.skipBlank_skipBlank] at hheader
  have hk : k.Sound := hc.skipBlank.of_reaches (disciplined_header.reaches hheader)
  have hm : m.Sound := hk.of_reaches ((disciplined_titled _).reaches htitle)
  obtain ⟨hcomments, hmetadata⟩ := yields_header _ _ _ hc.skipBlank hheader
  obtain ⟨hne, hlegible⟩ := yields_statements _ _ _ hm hstatements
  have htitled := yields_titled _ _ _ _ hk htitle
  split at hcheck
  · cases hcheck
  · rename_i hfault
    cases hcheck
    refine ⟨⟨⟨hne, hlegible, ?_, rfl, rfl, rfl⟩, hcomments, hmetadata.writable,
      title, rfl, htitled⟩, found, k, hheader, rfl⟩
    simpa [tokenFault?] using hfault

/-- A titled template is read to the end of its table. -/
theorem titled_of_exampleSet {c n : Cursor} {examples : List Example} (hc : c.Sound)
    (h : exampleSet c = .ok examples n) :
    ∃ set, set.Titled ∧ FromTable set examples ∧ set.line = some c.lineNumber ∧ TableEnds n ∧
      ∃ (front : Header) (m : Cursor), header c.skipBlank = .ok front m ∧
        front.metadata = ⟨set.identifier, set.labels⟩ := by
  -- the parts in the order in which they are read, each from where the one before it ends
  obtain ⟨⟨⟨⟨found, title⟩, statements⟩, rows⟩, hboth, hcheck⟩ := check_eq_ok.1 h
  obtain ⟨m, hfirst, hrows⟩ := both_eq_ok.1 hboth
  obtain ⟨k, _, htop, halone⟩ := first_eq_ok.1 hfirst
  obtain ⟨j, hfront, hstatements⟩ := both_eq_ok.1 htop
  obtain ⟨i, hheader, htitle⟩ := both_eq_ok.1 hfront
  dsimp only at hfront hstatements hheader htitle hcheck hrows
  simp only [Cursor.skipBlank_skipBlank] at hheader
  have hi : i.Sound := hc.skipBlank.of_reaches (disciplined_header.reaches hheader)
  have hj : j.Sound := hi.of_reaches ((disciplined_titled _).reaches htitle)
  have hk : k.Sound := hj.of_reaches (disciplined_statements.reaches hstatements)
  have hm : m.Sound := hk.of_reaches ((disciplined_alone _).reaches halone)
  obtain ⟨hcomments, hmetadata⟩ := yields_header _ _ _ hc.skipBlank hheader
  obtain ⟨hne, hlegible⟩ := yields_statements _ _ _ hj hstatements
  have htitled := yields_titled _ _ _ _ hi htitle
  split at hcheck
  · cases hcheck
  · rename_i htokens
    refine ⟨_, ⟨⟨hne, hlegible, rfl⟩, hcomments, hmetadata.writable, ⟨title, rfl, htitled⟩, ?_⟩,
      fromTable_of_expandRows hcheck fun row hrow =>
        (yields_exampleRows _ _ _ hm hrows row hrow).1, rfl,
      tableEnds_of_exampleRows hrows, found, i, hheader, rfl⟩
    simpa [Option.isSome_iff_ne_none] using htokens

/-- A titled example or template. -/
abbrev block : Parser (List Example) := orElse exampleSet (map singleExample fun e => [e])

/-- **What is read as a block**: its examples, the line of its template, the end of its table, and
the metadata in front of it. -/
theorem block_spec {c n : Cursor} {examples : List Example} (hc : c.Sound)
    (h : block c = .ok examples n) :
    ExampleBlock examples ∧
      (∀ set, blockSet? examples = some set → set.line = some c.lineNumber ∧ TableEnds n) ∧
      ∃ (front : Header) (m : Cursor), header c.skipBlank = .ok front m ∧
        front.metadata = blockMetadata examples := by
  rcases orElse_eq_ok.1 h with hset | ⟨-, hsingle⟩
  · obtain ⟨set, htitled, htable, hline, hends, found, m, hheader, hm⟩ :=
      titled_of_exampleSet hc.skipBlank hset
    rw [Cursor.skipBlank_skipBlank] at hheader
    rw [lineNumber_skipBlank] at hline
    refine ⟨.set htitled htable, ?_, found, m, hheader, hm.trans htable.blockMetadata_eq.symm⟩
    intro set' hset'
    rw [htable.blockSet?.1] at hset'
    cases hset'
    exact ⟨hline, hends⟩
  · obtain ⟨e, he, rfl⟩ := map_eq_ok.1 hsingle
    obtain ⟨htitled, found, m, hheader, hm⟩ := titled_of_singleExample hc.skipBlank he
    rw [Cursor.skipBlank_skipBlank] at hheader
    refine ⟨.single htitled, ?_, found, m, hheader,
      hm.trans (blockMetadata_single htitled.noSet).symm⟩
    intro set hset
    simp [blockSet?, htitled.noSet] at hset

/-- **Neighbouring blocks** start on different lines, and the second one is no part of a table. -/
theorem follows_of_block {c m n : Cursor} {first second : List Example} (hc : c.Sound)
    (hfirst : block c = .ok first m) (hsecond : block m = .ok second n) : Follows first second := by
  have hm : m.Sound := hc.of_reaches (disciplined_block.reaches hfirst)
  obtain ⟨-, hend, -⟩ := block_spec hc hfirst
  obtain ⟨-, hstart, front, k, hheader, hmetadata⟩ := block_spec hm hsecond
  constructor
  · intro set set' hset hset' heq
    rw [(hend set hset).1, (hstart set' hset').1, Option.some.injEq] at heq
    -- the line of a template is that of its block, and the first block was read in between
    have hlt := consuming_block.lineNumber_lt hc hfirst (consuming_block.not_atEnd hsecond)
    exact absurd heq (Nat.ne_of_lt hlt)
  · intro hset
    obtain ⟨set, hset⟩ := Option.isSome_iff_exists.1 hset
    rw [← hmetadata]
    refine noRow_of_header hm.skipBlank hheader ?_
    rw [TableEnds, Cursor.skipBlank_skipBlank]
    exact (hend set hset).2

end Grammar.ReqsML

/-- Blocks of titled examples as they are read. -/
structure LegibleBlocks (blocks : List (List Example)) : Prop where
  nonempty : blocks ≠ []
  block : ∀ b ∈ blocks, ExampleBlock b
  follows : ∀ a b rest, a :: b :: rest <:+ blocks → Follows a b

/-- The last example was made from a table. -/
def EndsInTable (examples : List Example) : Prop :=
  ∃ e, examples.getLast? = some e ∧ e.exampleSet.isSome = true

theorem FromTable.endsInTable {set : ExampleSet} {examples : List Example}
    (h : FromTable set examples) : EndsInTable examples := by
  obtain ⟨start, last, hlast⟩ := (List.eq_nil_or_concat examples).resolve_left h.ne_nil
  rw [List.concat_eq_append] at hlast
  have hset := h.blockSet?.2 last (by simp [hlast])
  exact ⟨last, by rw [hlast, List.getLast?_concat], by simp [hset]⟩

theorem ExampleBlock.blockSet?_of_endsInTable {b : List Example} (h : ExampleBlock b)
    (hend : EndsInTable b) : (blockSet? b).isSome = true := by
  cases h with
  | single h =>
    obtain ⟨e, he, hset⟩ := hend
    cases he
    simp [h.noSet] at hset
  | set h htable => simp [htable.blockSet?.1]

theorem ExampleBlock.ne_nil {b : List Example} (h : ExampleBlock b) : b ≠ [] := by
  cases h with
  | single h => simp
  | set h htable => exact htable.ne_nil

/-- The end of blocks is the end of the last one. -/
theorem endsInTable_flatten {blocks : List (List Example)} (h : ∀ b ∈ blocks, ExampleBlock b)
    (hend : EndsInTable blocks.flatten) : ∃ b, blocks.getLast? = some b ∧ EndsInTable b := by
  obtain ⟨e, he, hset⟩ := hend
  rcases List.eq_nil_or_concat blocks with rfl | ⟨init, b, rfl⟩
  · cases he
  · rw [List.concat_eq_append] at *
    refine ⟨b, List.getLast?_concat, e, ?_, hset⟩
    have hne : b ≠ [] := (h b (by simp)).ne_nil
    obtain ⟨start, last, hb⟩ := (List.eq_nil_or_concat b).resolve_left hne
    rw [hb, List.concat_eq_append] at he ⊢
    rw [List.flatten_append, List.flatten_singleton, ← List.append_assoc,
      List.getLast?_concat] at he
    rwa [List.getLast?_concat]

namespace Grammar.ReqsML

/-- **What is read as titled examples.** -/
theorem blocks_of_run {stop : Parser Unit} {c n : Cursor} {blocks : List (List Example)}
    (hc : c.Sound) (hne : blocks ≠ []) (h : Run block stop c blocks n) :
    LegibleBlocks blocks ∧ (EndsInTable blocks.flatten → TableEnds n) := by
  have hblock : ∀ b ∈ blocks, ExampleBlock b :=
    Yields.run (fun c b n hc hb => (block_spec hc hb).1) disciplined_block hc h
  refine ⟨⟨hne, hblock, h.adjacent disciplined_block (fun _ _ _ _ _ => follows_of_block) hc⟩, ?_⟩
  intro hend
  obtain ⟨b, hlast, hb⟩ := endsInTable_flatten hblock hend
  obtain ⟨m, hm, hread⟩ := h.exists_last disciplined_block hlast
  obtain ⟨hexamples, hset, -⟩ := block_spec (hc.of_reaches hm) hread
  obtain ⟨set, hset'⟩ := Option.isSome_iff_exists.1 (hexamples.blockSet?_of_endsInTable hb)
  exact (hset set hset').2

end Grammar.ReqsML

end PlainSpec
