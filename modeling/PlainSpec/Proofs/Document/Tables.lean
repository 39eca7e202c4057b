import PlainSpec.Proofs.Document.WellFormed
import PlainSpec.Proofs.Grammar.Runs

/-!
# Rows of one length

Rows are counted by several checks: each reading of a run of rows has its own, and so has the
expansion of a table of examples.  A place at which data are read with success, and at which rows
stand, is one where one of the readings was tried on just these rows and did not object, so the
checks of the readings are all there is to look at.

The rows themselves are not part of a document.  They are found again below its statements: a
statement remembers its line, what is below that line is read as its data, and behind the data of
the last statement of a template stand the keyword and the rows of its table.

The row of hyphens in a table of examples of the tabular dialect is looked at by no such check.

## Main definitions

* `Level`: rows of one length.
* `Statement.Ends`: what stands below the line of a statement, up to where its data end.
* `ExampleSet.Below`: the rows below a template.

## Main results

* `Grammar.level_data`: rows that are read as data have one length.
* `Grammar.level_of_fits`: so have the header and the values of a table of examples.
* `Document.level_of_parse`: the runs of rows in a source that is accepted.
-/

namespace PlainSpec

open PlainSpec.Parser Grammar

/-- All rows have as many cells as the first one. -/
def Level (rows : List (List Text)) : Prop :=
  ∀ first ∈ rows.head?, ∀ cells ∈ rows, cells.length = first.length

theorem level_cons {first : List Text} {rows : List (List Text)} :
    Level (first :: rows) ↔ ∀ cells ∈ rows, cells.length = first.length := by
  simp [Level]

theorem level_of_singles {rows : List (List Text)} {cells : List Text}
    (h : rows = cells.map ([·])) :
    Level rows := by
  subst h
  intro first hfirst row hrow
  obtain ⟨cell, -, rfl⟩ := List.mem_map.1 (List.mem_of_mem_head? hfirst)
  obtain ⟨other, -, rfl⟩ := List.mem_map.1 hrow
  rfl

namespace Grammar

/-! ## Data -/

variable {dialect : Dialect} {rows : Several TableRow} {d : Data}

theorem level_of_lengths (h : ∀ row ∈ rows.toList, row.cells.length = rows.head.cells.length) :
    Level (rows.toList.map TableRow.cells) :=
  level_cons.2 (List.forall_mem_map.2 fun row hrow => h row (List.mem_cons_of_mem _ hrow))

theorem level_readMatrix (h : readMatrix dialect rows = .ok d) :
    Level (rows.toList.map TableRow.cells) := by
  obtain ⟨m, -, hm⟩ := matrixRows_of_readMatrix h
  exact level_of_lengths hm.length_eq

theorem level_readTable (h : readTable dialect rows = .ok d) :
    Level (rows.toList.map TableRow.cells) :=
  level_of_lengths (columnRows_of_readTable h).2.length_eq

theorem level_readKeyValues (h : readKeyValues rows = .ok d) :
    Level (rows.toList.map TableRow.cells) := by
  obtain ⟨cells, pairs, -, hcells, -⟩ := readKeyValues_eq_ok.1 h
  exact level_of_singles hcells

theorem level_readList (h : readList rows = .ok d) : Level (rows.toList.map TableRow.cells) := by
  obtain ⟨items, -, hitems⟩ := readList_eq_ok.1 h
  exact level_of_singles hitems

/-- **Rows that are read as data have one length.** -/
theorem level_data {c n m : Cursor} (h : data dialect c = .ok d n)
    (hrows : tableRows c = .ok rows m) :
    Level (rows.toList.map TableRow.cells) := by
  cases reading_of_data h (tableRows_eq_ok_iff.1 ⟨m, hrows⟩) with
  | matrix h => exact level_readMatrix h
  | table h => exact level_readTable h
  | keyValues h => exact level_readKeyValues h
  | list h => exact level_readList h

/-! ## Tables of examples -/

theorem level_of_fits {set : ExampleSet} {header : TemplateRow} {values : List TemplateRow}
    (h : Template.Fits set header values) : Level ((header :: values).map TemplateRow.cells) := by
  rw [List.map_cons, level_cons]
  intro cells hcells
  obtain ⟨row, hrow, rfl⟩ := List.mem_map.1 hcells
  exact (h.rows row hrow).length_eq

end Grammar

/-! ## Below the line of a statement -/

namespace Cursor

/-- A place in a source. -/
def PlaceIn (text : Text) (c : Cursor) : Prop :=
  ∃ q, q ≤ (Line.split text).length ∧ c = after (Line.split text) q

theorem lasting_placeIn (text : Text) : Lasting (PlaceIn text) := by
  rintro c n ⟨p, hp, rfl⟩ hr
  obtain ⟨q, -, hq, rfl⟩ := reaches_after hp hr
  exact ⟨q, hq, rfl⟩

theorem placeIn_ofText (text : Text) : (ofText text).PlaceIn text := ⟨0, Nat.zero_le _, rfl⟩

theorem advance_after {lines : List Line} {q : Nat} {l : Line} (h : lines[q]? = some l) :
    (after lines q).advance = after lines (q + 1) := by
  obtain ⟨hq, hl⟩ := List.getElem?_eq_some_iff.1 h
  have hdrop : lines.drop q = l :: lines.drop (q + 1) := by rw [List.drop_eq_getElem_cons hq, hl]
  have htake : (lines.take (q + 1)).reverse = l :: (lines.take q).reverse := by
    rw [List.take_add_one, h, Option.toList_some, List.reverse_append, List.reverse_singleton,
      List.singleton_append]
  simp only [after, advance, hdrop, htake]

/-- **Behind a line is the place below it.** -/
theorem PlaceIn.line {text : Text} {α : Type} {f : Line → Except Fault α} {c n : Cursor} {v : α}
    (hc : c.PlaceIn text) (h : Parser.line f c = .ok v n) :
    ∃ l, f l = .ok v ∧ n = after (Line.split text) l.number := by
  obtain ⟨l, hl, hread, rfl⟩ := line_eq_ok.1 h
  obtain ⟨q, -, hskip⟩ := lasting_placeIn text hc (reaches_skipBlank c)
  have hline : (Line.split text)[q]? = some l := by
    rw [ahead?, hskip, peek?, after, List.head?_drop] at hl
    exact hl
  obtain ⟨hq, hget⟩ := List.getElem?_eq_some_iff.1 hline
  have hnumber : l.number = q + 1 := hget ▸ Line.number_split text hq
  exact ⟨l, hread, by rw [hskip, advance_after hline, hnumber]⟩

end Cursor

/-- What stands below the line of a statement is read as its data, up to a place. -/
def Statement.Ends (dialect : Dialect) (text : Text) (s : Statement) (n : Cursor) : Prop :=
  ∃ k, s.line = some k ∧ optionalData dialect (Cursor.after (Line.split text) k) = .ok s.data n

/-- The rows of the table below a template: behind the data of its last statement, below a
keyword. -/
def ExampleSet.Below (dialect : Dialect) (text : Text) (set : ExampleSet)
    (rows : List TemplateRow) :
    Prop :=
  ∃ s c m n, set.statements.getLast? = some s ∧ s.Ends dialect text c ∧
    alone dialect.examplesKeywords c = .ok () m ∧ dialect.exampleRows m = .ok rows n

/-- What stands below the statements of an example, and below its template, is found in the
source. -/
structure Example.Tabulated (dialect : Dialect) (text : Text) (e : Example) : Prop where
  statements : ∀ s ∈ e.sourceStatements, ∃ n, s.Ends dialect text n
  table : ∀ set, e.exampleSet = some set →
    ∃ rows, set.Below dialect text rows ∧ Level ((checkedRows dialect rows).map TemplateRow.cells)

theorem Example.Tabulated.withLabels {dialect : Dialect} {text : Text} {e : Example}
    (h : e.Tabulated dialect text) (labels : Labels) :
    Example.Tabulated dialect text { e with labels } :=
  ⟨h.statements, h.table⟩

/-- Statements that are read up to a place, blank lines apart. -/
structure StatementsEnd (dialect : Dialect) (text : Text) (ss : List Statement)
    (n : Cursor) : Prop where
  each : ∀ s ∈ ss, ∃ m, s.Ends dialect text m
  last : ∃ s m, ss.getLast? = some s ∧ s.Ends dialect text m ∧ m.skipBlank = n.skipBlank

namespace Grammar

variable {dialect : Dialect} {text : Text} {mark : Text} {heading : Parser Heading}

/-- The line of a heading is the one that it is read from. -/
def KnowsLine (text : Text) (heading : Parser Heading) : Prop :=
  ∀ c h n, c.PlaceIn text → heading c = .ok h n → n = Cursor.after (Line.split text) h.line

theorem knowsLine_line {α : Type} {read : Line → Except Fault α} {make : Line → α → Heading}
    (hmake : ∀ l v, (make l v).line = l.number) :
    KnowsLine text (line fun l => (read l).map (make l)) := by
  intro c h n hc hread
  obtain ⟨l, hl, rfl⟩ := hc.line hread
  obtain ⟨v, -, rfl⟩ := Except.map_eq_ok.1 hl
  rw [hmake]

theorem ends_statementWith (hheading : KnowsLine text heading) {c n : Cursor} {s : Statement}
    (hc : c.PlaceIn text) (h : statementWith dialect mark heading c = .ok s n) :
    s.Ends dialect text n := by
  have hlasting := Cursor.lasting_placeIn text
  obtain ⟨⟨⟨found, head⟩, data⟩, hread, rfl⟩ := map_eq_ok.1 h
  obtain ⟨m, hfront, hdata⟩ := both_eq_ok.1 hread
  obtain ⟨k, hcomments, hhead⟩ := both_eq_ok.1 hfront
  have hk : k.PlaceIn text :=
    hlasting (hlasting (hlasting hc (Cursor.reaches_skipBlank c)) (Cursor.reaches_skipBlank _))
      ((disciplined_comments mark).reaches hcomments)
  obtain rfl := hheading _ _ _ hk hhead
  exact ⟨head.line, rfl, hdata⟩

/-- Statements that are read one behind the other. -/
theorem ends_run {β : Type} {stop : Parser β} (hd : Disciplined heading)
    (hheading : KnowsLine text heading) {c n : Cursor} {ss : List Statement} (hc : c.PlaceIn text)
    (h : Run (statementWith dialect mark heading) stop c ss n) :
    (∀ s ∈ ss, ∃ m, s.Ends dialect text m) ∧ ∀ s, ss.getLast? = some s → s.Ends dialect text n := by
  have hread {c n : Cursor} {s : Statement} (hc : c.PlaceIn text)
      (h : statementWith dialect mark heading c = .ok s n) : s.Ends dialect text n :=
    ends_statementWith hheading hc h
  have hdisciplined := disciplined_statementWith hd dialect mark
  refine ⟨YieldsFrom.run (Cursor.lasting_placeIn text)
    (fun _ _ n hc h => ⟨n, hread hc h⟩) hdisciplined
    hc h, fun s hs => ?_⟩
  obtain ⟨m, hm, hlast⟩ := h.exists_last hdisciplined hs
  exact hread (Cursor.lasting_placeIn text hc hm) hlast

/-- Groups of statements that are read one behind the other. -/
theorem statementsEnd_groups {group : Parser (List Statement)} {start : Parser Unit} {name : String}
    (hd : Disciplined group)
    (hgroup : ∀ c ss n, c.PlaceIn text → group c = .ok ss n → StatementsEnd dialect text ss n)
    {c n : Cursor} {ss : List Statement} (hc : c.PlaceIn text)
    (h : map (severalWhile name group start) (fun groups => groups.toList.flatten) c = .ok ss n) :
    StatementsEnd dialect text ss n := by
  obtain ⟨groups, hread, rfl⟩ := map_eq_ok.1 h
  replace h := several_eq_ok.1 hread
  replace hc := Cursor.lasting_placeIn text hc (Cursor.reaches_skipBlank c)
  have heach : ∀ ss ∈ groups.toList, ∃ m, StatementsEnd dialect text ss m :=
    YieldsFrom.run (Cursor.lasting_placeIn text)
      (fun c ss n hc h => ⟨n, hgroup c ss n hc h⟩) hd hc h
  refine ⟨fun s hs => ?_, ?_⟩
  · obtain ⟨ss, hss, hmem⟩ := List.mem_flatten.1 hs
    obtain ⟨m, hm⟩ := heach ss hss
    exact hm.each s hmem
  · have hne : groups.toList ≠ [] := List.cons_ne_nil _ _
    have hlast := List.getLast?_eq_some_getLast hne
    obtain ⟨m, hm, hread⟩ := h.exists_last hd hlast
    obtain ⟨front, hfront⟩ := List.getLast?_eq_some_iff.1 hlast
    obtain ⟨s, k, hs, hends, hk⟩ := (hgroup _ _ _ (Cursor.lasting_placeIn text hc hm) hread).last
    refine ⟨s, k, ?_, hends, hk⟩
    rw [hfront, List.flatten_append, List.flatten_singleton, List.getLast?_append, hs,
      Option.some_or]

/-- A keyword on a line of its own is read from behind blank lines as well. -/
theorem alone_congr {keywords : List Text} {c c' n : Cursor} (h : c.skipBlank = c'.skipBlank)
    (halone : alone keywords c = .ok () n) : alone keywords c' = .ok () n := by
  obtain ⟨l, hl, hread, rfl⟩ := line_eq_ok.1 halone
  refine line_eq_ok.2 ⟨l, ?_, hread, by rw [h]⟩
  rw [← hl, ← Cursor.ahead?_skipBlank c', ← h, Cursor.ahead?_skipBlank]

/-- **An example that was written as it stands.** -/
theorem tabulated_of_written {e : Example} (hset : e.exampleSet = none)
    (h : ∀ s ∈ e.statements, ∃ n, s.Ends dialect text n) : e.Tabulated dialect text :=
  ⟨by simpa [Example.sourceStatements, hset] using h, fun set hsome => by simp [hset] at hsome⟩

/-- **The examples of a table.** -/
theorem tabulated_of_expand {set : ExampleSet} {header : TemplateRow} {rows all : List TemplateRow}
    {es : List Example} (h : Template.expand set header rows = .ok es)
    (hall : checkedRows dialect all = header :: rows) {c m n : Cursor}
    (hstatements : StatementsEnd dialect text set.statements c)
    (halone : alone dialect.examplesKeywords c = .ok () m)
    (hrows : dialect.exampleRows m = .ok all n) :
    ∀ e ∈ es, e.Tabulated dialect text := by
  obtain ⟨hfits, rfl⟩ := Template.expand_eq_ok.1 h
  intro e he
  obtain ⟨row, -, rfl⟩ := List.mem_map.1 he
  refine ⟨hstatements.each, ?_⟩
  rintro _ ⟨⟩
  obtain ⟨s, k, hs, hends, hk⟩ := hstatements.last
  exact ⟨all, ⟨s, k, m, n, hs, hends, alone_congr hk.symm halone, hrows⟩,
    hall ▸ level_of_fits hfits⟩

/-! ## The tabular dialect -/

namespace ReqsML

theorem statementsEnd_statementGroup {c n : Cursor} {ss : List Statement} (hc : c.PlaceIn text)
    (h : statementGroup c = .ok ss n) : StatementsEnd .reqsml text ss n := by
  have hlasting := Cursor.lasting_placeIn text
  have hs := hlasting hc (Cursor.reaches_skipBlank c)
  rcases orElse_eq_ok.1 h with hsingle | ⟨-, hlist⟩
  · obtain ⟨s, hread, hcheck⟩ := check_eq_ok.1 hsingle
    split at hcheck
    · cases hcheck
    · cases hcheck
      have hends := ends_statementWith (knowsLine_line fun _ _ => rfl) hs hread
      exact ⟨fun x hx => ⟨n, List.mem_singleton.1 hx ▸ hends⟩, s, n, rfl, hends, rfl⟩
  · obtain ⟨⟨keyword, items⟩, hread, hcheck⟩ := check_eq_ok.1 hlist
    obtain ⟨first, m, hfirst, hitems⟩ := bind_eq_ok.1 hread
    obtain ⟨found, hbullets, heq⟩ := map_eq_ok.1 hitems
    cases heq
    dsimp only at hcheck
    split at hcheck
    · cases hcheck
    · rename_i hfault
      cases hcheck
      have hm := hlasting hs (disciplined_statement.reaches hfirst)
      obtain ⟨heach, hlast⟩ := ends_run (disciplined_bulletLine _) (knowsLine_line fun _ _ => rfl)
        (hlasting hm (Cursor.reaches_skipBlank m)) (many_eq_ok.1 hbullets)
      have hne : ss ≠ [] := by
        rintro rfl
        simp [listFault?] at hfault
      have hget := List.getLast?_eq_some_getLast hne
      exact ⟨heach, _, n, hget, hlast _ hget, rfl⟩

end ReqsML

/-! ## The narrative dialect -/

namespace Gherkin

theorem statementsEnd_statementGroup {c n : Cursor} {ss : List Statement} (hc : c.PlaceIn text)
    (h : statementGroup c = .ok ss n) : StatementsEnd .gherkin text ss n := by
  have hlasting := Cursor.lasting_placeIn text
  obtain ⟨first, m, hfirst, hrest⟩ := bind_eq_ok.1 h
  obtain ⟨rest, hread, rfl⟩ := map_eq_ok.1 hrest
  have hends := ends_statementWith (knowsLine_line fun _ _ => rfl) hc hfirst
  have hm := hlasting hc (disciplined_step.reaches hfirst)
  have hrun := many_eq_ok.1 hread
  obtain ⟨heach, hlast⟩ := ends_run (disciplined_continuationLine _) (knowsLine_line fun _ _ => rfl)
    (hlasting hm (Cursor.reaches_skipBlank m)) hrun
  refine ⟨List.forall_mem_cons.2 ⟨⟨m, hends⟩, heach⟩, ?_⟩
  cases rest with
  | nil =>
    cases hrun
    exact ⟨first, m, rfl, hends, (Cursor.skipBlank_skipBlank m).symm⟩
  | cons s rest =>
    have hget := List.getLast?_eq_some_getLast (List.cons_ne_nil s rest)
    exact ⟨_, n, by rw [List.getLast?_cons_cons, hget], hlast _ hget, rfl⟩

end Gherkin

/-! ## Examples of either dialect -/

theorem statementsEnd_statements {c n : Cursor} {ss : List Statement} (hc : c.PlaceIn text)
    (h : dialect.statements c = .ok ss n) : StatementsEnd dialect text ss n := by
  cases dialect with
  | reqsml =>
    exact statementsEnd_groups ReqsML.disciplined_statementGroup
      (fun _ _ _ => ReqsML.statementsEnd_statementGroup) hc h
  | gherkin =>
    exact statementsEnd_groups Gherkin.disciplined_statementGroup
      (fun _ _ _ => Gherkin.statementsEnd_statementGroup) hc h

theorem tabulated_titledExample (dialect : Dialect) :
    YieldsFrom (Cursor.PlaceIn text) dialect.titledExample (Example.Tabulated dialect text) := by
  intro c e n hc h
  obtain ⟨⟨m, hm, hstatements⟩, hset, -, -⟩ := of_titledExample h
  exact tabulated_of_written hset
    (statementsEnd_statements (Cursor.lasting_placeIn text hc hm) hstatements).each

theorem tabulated_titledSet (dialect : Dialect) :
    YieldsFrom (Cursor.PlaceIn text) dialect.titledSet
      fun es => ∀ e ∈ es, e.Tabulated dialect text := by
  intro c es n hc h
  obtain ⟨set, header, rows, all, m, k, j, hm, hstatements, halone, hrows, hall, hexpand⟩ :=
    of_titledSet h
  exact tabulated_of_expand hexpand hall
    (statementsEnd_statements (Cursor.lasting_placeIn text hc hm) hstatements) halone hrows

namespace ReqsML

theorem tabulated_inlineExamples :
    YieldsFrom (Cursor.PlaceIn text) inlineExamples fun es =>
      ∀ e ∈ es, e.Tabulated .reqsml text := by
  intro c es n hc hread
  obtain ⟨⟨found, rows⟩, hboth, hcheck⟩ := check_eq_ok.1 hread
  obtain ⟨m, hinline, hrows⟩ := both_eq_ok.1 hboth
  have hstatements : StatementsEnd .reqsml text found m := statementsEnd_statements
    (Cursor.lasting_placeIn text hc (Cursor.reaches_skipBlank c))
      (statements_of_inlineStatements hinline)
  cases rows with
  | none =>
    dsimp only at hcheck
    split at hcheck
    · cases hcheck
    · cases hcheck
      rw [List.forall_mem_singleton]
      exact tabulated_of_written rfl hstatements.each
  | some rows =>
    rcases whenAhead_eq_ok.1 hrows with ⟨-, all, htable, heq⟩ | ⟨-, heq, -⟩
    · cases heq
      obtain ⟨_, k, halone, hread⟩ := second_eq_ok.1 htable
      obtain ⟨header, values, hall, hexpand⟩ := expand_of_expandRows hcheck
      exact tabulated_of_expand hexpand hall hstatements
        (alone_congr (Cursor.skipBlank_skipBlank m) halone) hread
    · cases heq

theorem tabulated_requirement :
    YieldsFrom (Cursor.PlaceIn text) requirement
      fun r => ∀ e ∈ r.examples, e.Tabulated .reqsml text := by
  have hlasting := Cursor.lasting_placeIn text
  have hexamples : YieldsFrom (Cursor.PlaceIn text) examples fun es =>
      ∀ e ∈ es, e.Tabulated .reqsml text :=
    YieldsFrom.blocks hlasting (tabulated_titledSet .reqsml) (tabulated_titledExample .reqsml)
      disciplined_block
  refine (YieldsFrom.both hlasting (YieldsFrom.any _) (disciplined_headed _)
    (YieldsFrom.orElse hlasting tabulated_inlineExamples hexamples)).map ?_
  rintro ⟨⟨front, description⟩, found⟩ ⟨-, hfound⟩ e he
  obtain ⟨own, hown, rfl⟩ := List.mem_map.1 he
  exact (hfound own hown).withLabels _

end ReqsML

namespace Gherkin

theorem tabulated_examples :
    YieldsFrom (Cursor.PlaceIn text) examples fun es => ∀ e ∈ es, e.Tabulated .gherkin text :=
  YieldsFrom.blocks (Cursor.lasting_placeIn text) (tabulated_titledSet .gherkin)
    (tabulated_titledExample .gherkin) disciplined_block

theorem tabulated_rule :
    YieldsFrom (Cursor.PlaceIn text) rule fun r => ∀ e ∈ r.examples, e.Tabulated .gherkin text :=
  (YieldsFrom.both (Cursor.lasting_placeIn text) (YieldsFrom.any _) (disciplined_headed _)
    tabulated_examples).map fun _ h => h.2

end Gherkin

end Grammar

/-! ## Documents -/

theorem Document.tabulated_of_parse {source : Path} {dialect : Dialect} {text : Text} {d : Document}
    (h : Document.parse source dialect text = .ok d) :
    ∀ r ∈ d.requirements, ∀ e ∈ r.examples, e.Tabulated dialect text := by
  have hlasting := Cursor.lasting_placeIn text
  have hplace := Cursor.placeIn_ofText text
  cases dialect with
  | reqsml =>
    obtain ⟨rs, n, hrs, rfl⟩ := Document.parse_reqsml_eq_ok.1 h
    exact YieldsFrom.several hlasting ReqsML.tabulated_requirement ReqsML.disciplined_requirement
      _ _ _ hplace hrs
  | gherkin =>
    obtain ⟨comments, tags, title, own, -, hown, rfl⟩ :=
      Document.requirements_of_parse_gherkin hlasting hplace Gherkin.tabulated_rule
        (fun _ _ => Gherkin.tabulated_examples) h
    intro r hr e he
    obtain ⟨s, hs, rfl⟩ := List.mem_map.1 hr
    obtain ⟨x, hx, rfl⟩ := List.mem_map.1 he
    exact (hown s hs x hx).withLabels _

/-- **The rows of every table have one length.**  Wherever data are read and rows stand, the rows
have one length; below the line of every statement its data are read; and the rows below every
template have one length, that of hyphens apart. -/
theorem Document.level_of_parse {source : Path} {dialect : Dialect} {text : Text} {d : Document}
    (h : Document.parse source dialect text = .ok d) :
    (∀ c found n, optionalData dialect c = .ok found n → ∀ rows m, tableRows c = .ok rows m →
      Level (rows.toList.map TableRow.cells)) ∧
    ∀ r ∈ d.requirements, ∀ e ∈ r.examples,
      (∀ s ∈ e.sourceStatements, ∃ n, s.Ends dialect text n) ∧
      ∀ set, e.exampleSet = some set →
        ∃ rows, set.Below dialect text rows ∧
          Level ((checkedRows dialect rows).map TemplateRow.cells) := by
  refine ⟨fun c found n hdata rows m hrows => ?_, fun r hr e he => ?_⟩
  · rcases whenAhead_eq_ok.1 hdata with ⟨-, d, hd, -⟩ | ⟨hahead, -⟩
    · exact level_data hd hrows
    · rw [startsData_of_tableRows hrows] at hahead
      cases hahead
  · obtain ⟨hstatements, htable⟩ := Document.tabulated_of_parse h r hr e he
    exact ⟨hstatements, htable⟩

/-- A template with a table below its statement and a table of examples behind it. -/
theorem Document.level_of_parse_template :
    ∃ d, Document.parse ⟨"a".toList⟩ .reqsml
        "Requirement: a\nIf: <x>\n|k|v|\n|---|---|\n|1|2|\nExamples:\n|x|\n|---|\n|y|".toList =
          .ok d ∧
      ∃ r ∈ d.requirements, ∃ e ∈ r.examples, ∃ set, e.exampleSet = some set ∧
        ∃ rows, set.Below .reqsml
            "Requirement: a\nIf: <x>\n|k|v|\n|---|---|\n|1|2|\nExamples:\n|x|\n|---|\n|y|".toList
              rows ∧
          Level ((checkedRows .reqsml rows).map TemplateRow.cells) := by
  let table : Option Data :=
    some (.table [.ofList [("k".toList, "1".toList), ("v".toList, "2".toList)]])
  let set : ExampleSet :=
    { comments := none
      identifier := none
      labels := none
      description := none
      statements := [⟨none, .condition, "<x>".toList, table, some 2⟩]
      line := some 2 }
  let e : Example :=
    { comments := none
      identifier := none
      labels := none
      explicitLabels := none
      description := none
      statements := [⟨none, .condition, "y".toList, table, some 2⟩]
      exampleSet := some set
      specification := some ⟨none, none, none, none, .ofList [("x".toList, "y".toList)]⟩ }
  have hparse : Document.parse ⟨"a".toList⟩ .reqsml
      "Requirement: a\nIf: <x>\n|k|v|\n|---|---|\n|1|2|\nExamples:\n|x|\n|---|\n|y|".toList =
        .ok ⟨⟨"a".toList⟩, none, none, none, .reqsml,
          [⟨none, none, none, none, "a".toList, [e]⟩]⟩ := by
    with_unfolding_all rfl
  obtain ⟨-, htables⟩ := Document.level_of_parse hparse
  have he := htables _ (List.mem_singleton_self _) e (List.mem_singleton_self e)
  exact ⟨_, hparse, _, List.mem_singleton_self _, e, List.mem_singleton_self e, set, rfl,
    he.2 set rfl⟩

/-- The row of hyphens is not counted: there is one cell in it below two columns, and the source is
accepted. -/
theorem Document.not_level_hyphens :
    ∃ d, Document.parse ⟨"a".toList⟩ .reqsml
        "Requirement: a\nIf: <x> <y>\nExamples:\n|x|y|\n|---|\n|1|2|".toList = .ok d ∧
      ∃ r ∈ d.requirements, ∃ e ∈ r.examples, ∃ set, e.exampleSet = some set ∧
        ∃ rows, set.Below .reqsml
            "Requirement: a\nIf: <x> <y>\nExamples:\n|x|y|\n|---|\n|1|2|".toList rows ∧
          rows.map TemplateRow.cells =
            [["x".toList, "y".toList], ["---".toList], ["1".toList, "2".toList]] ∧
          ¬ Level (rows.map TemplateRow.cells) := by
  let s : Statement := ⟨none, .condition, "<x> <y>".toList, none, some 2⟩
  let set : ExampleSet :=
    { comments := none
      identifier := none
      labels := none
      description := none
      statements := [s]
      line := some 2 }
  let e : Example :=
    { comments := none
      identifier := none
      labels := none
      explicitLabels := none
      description := none
      statements := [⟨none, .condition, "1 2".toList, none, some 2⟩]
      exampleSet := some set
      specification :=
        some ⟨none, none, none, none,
          .ofList [("x".toList, "1".toList), ("y".toList, "2".toList)]⟩ }
  have hparse : Document.parse ⟨"a".toList⟩ .reqsml
      "Requirement: a\nIf: <x> <y>\nExamples:\n|x|y|\n|---|\n|1|2|".toList =
        .ok ⟨⟨"a".toList⟩, none, none, none, .reqsml,
          [⟨none, none, none, none, "a".toList, [e]⟩]⟩ := by
    with_unfolding_all rfl
  refine ⟨_, hparse, _, List.mem_singleton_self _, e, List.mem_singleton_self e, set, rfl,
    [⟨4, none, none, none, ["x".toList, "y".toList]⟩, ⟨5, none, none, none, ["---".toList]⟩,
      ⟨6, none, none, none, ["1".toList, "2".toList]⟩], ?_, rfl, ?_⟩
  · exact ⟨s, _, _, _, rfl, ⟨2, rfl, by with_unfolding_all rfl⟩, by with_unfolding_all rfl,
      by with_unfolding_all rfl⟩
  · intro hlevel
    have := level_cons.1 hlevel ["---".toList] (by simp)
    cases this

end PlainSpec
