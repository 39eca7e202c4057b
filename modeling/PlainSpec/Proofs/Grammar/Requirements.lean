import PlainSpec.Proofs.Grammar.Blocks

/-!
# Requirements as they are read

A requirement holds one example without a title, a template without a title and its table, or titled
blocks.  Its examples inherit its labels, and nothing else of them depends on it.

## Main definitions

* `Body`: the examples of a requirement, in blocks, before they inherit labels.
* `Requirement.Legible`: a requirement as it is read.
* `LegibleRequirements`: all requirements of a source.
* `Dialect.titledExample`, `Dialect.titledSet`: the titled blocks of a dialect.

## Main results

* `Grammar.of_titledExample`, `Grammar.of_titledSet`: what is read as a titled block.
* `Grammar.ReqsML.requirement_spec`: what is read as a requirement.
* `Grammar.ReqsML.legible_requirements`: all requirements of a source are legible.
* `Document.parse_reqsml_eq_ok`, `Document.parse_gherkin_eq_ok`: what is read as a document.
* `Document.requirements_of_parse_gherkin`: what holds of everything that a feature can hold.
-/

namespace PlainSpec

open PlainSpec.Parser Grammar Grammar.ReqsML

/-! ## Titled blocks of either dialect -/

/-- A titled example. -/
def Dialect.titledExample : Dialect → Parser Example
  | .reqsml => ReqsML.singleExample
  | .gherkin => Gherkin.scenario

/-- A titled template and its table. -/
def Dialect.titledSet : Dialect → Parser (List Example)
  | .reqsml => ReqsML.exampleSet
  | .gherkin => Gherkin.outline

/-- The statements of an example. -/
def Dialect.statements : Dialect → Parser (List Statement)
  | .reqsml => ReqsML.statements
  | .gherkin => Gherkin.statements

/-- The keywords above a table of examples. -/
def Dialect.examplesKeywords : Dialect → List Text
  | .reqsml => ReqsML.examplesKeyword
  | .gherkin => Gherkin.examplesKeywords

/-- The rows of a table of examples. -/
def Dialect.exampleRows : Dialect → Parser (List TemplateRow)
  | .reqsml => ReqsML.exampleRows
  | .gherkin =>
    map (severalWhile "examples row" Gherkin.exampleRow Gherkin.exampleRow) Several.toList

/-- The rows that tables of examples are checked for: all but those between the header and the
values. -/
def Grammar.checkedRows (dialect : Dialect) (rows : List TemplateRow) : List TemplateRow :=
  rows.take 1 ++ rows.drop dialect.headerRows

namespace Grammar

section Blocks

variable {dialect : Dialect} {α β γ : Type} {front : Parser α}
    {statements : Parser β} {c n : Cursor}

/-- What stands behind a title is read from a place further on. -/
theorem reaches_of_both {v : α × β} (hfront : Disciplined front)
    (h : both front statements c = .ok v n) : ∃ m, c.Reaches m ∧ statements m = .ok v.2 n := by
  obtain ⟨m, hhead, hstatements⟩ := both_eq_ok.1 h
  exact ⟨m, (Cursor.reaches_skipBlank c).trans (hfront.reaches hhead), hstatements⟩

/-- What stands above a table of examples, the keyword, and the rows. -/
theorem reaches_of_table {key : Parser Unit} {rows : Parser γ} {v : (α × β) × γ}
    (hfront : Disciplined front)
    (h : both (first (both front statements) key) rows c = .ok v n) :
    ∃ m k j, c.Reaches m ∧ statements m = .ok v.1.2 k ∧ key k = .ok () j ∧ rows j = .ok v.2 n := by
  obtain ⟨j, hfirst, hrows⟩ := both_eq_ok.1 h
  obtain ⟨k, _, htop, hkey⟩ := first_eq_ok.1 hfirst
  obtain ⟨m, hm, hstatements⟩ := reaches_of_both hfront htop
  exact ⟨m, k, j, ((Cursor.reaches_skipBlank _).trans (Cursor.reaches_skipBlank _)).trans hm,
    hstatements, hkey, hrows⟩

/-- The examples of a table whose row of hyphens is one. -/
theorem ReqsML.expand_of_expandRows {set : ExampleSet} {rows : List TemplateRow} {es : List Example}
    (h : expandRows set rows = .ok es) :
    ∃ header values, checkedRows .reqsml rows = header :: values ∧
      Template.expand set header values = .ok es := by
  obtain ⟨header, separator, values, rfl, -, -, hfault, rfl⟩ := expandRows_eq_ok.1 h
  exact ⟨header, values, rfl, by rw [Template.expand, hfault]⟩

/-- **What is read as a titled example**: the statements behind its title, and nothing of a
table. -/
theorem of_titledExample {e : Example} (h : dialect.titledExample c = .ok e n) :
    (∃ m, c.Reaches m ∧ dialect.statements m = .ok e.statements n) ∧
      e.exampleSet = none ∧ e.specification = none ∧ e.labels = e.explicitLabels := by
  cases dialect with
  | reqsml =>
    obtain ⟨v, hboth, hcheck⟩ := check_eq_ok.1 h
    have hread := reaches_of_both (ReqsML.disciplined_headed _) hboth
    dsimp only at hcheck
    split at hcheck <;> cases hcheck
    exact ⟨hread, rfl, rfl, rfl⟩
  | gherkin =>
    obtain ⟨v, hboth, hcheck⟩ := check_eq_ok.1 h
    have hread := reaches_of_both (Gherkin.disciplined_headed _) hboth
    dsimp only at hcheck
    split at hcheck <;> cases hcheck
    exact ⟨hread, rfl, rfl, rfl⟩

/-- **What is read as a titled template**: its statements, the keyword, and the table that its
examples are made from. -/
theorem of_titledSet {es : List Example} (h : dialect.titledSet c = .ok es n) :
    ∃ set header rows all m k j, c.Reaches m ∧ dialect.statements m = .ok set.statements k ∧
      alone dialect.examplesKeywords k = .ok () j ∧ dialect.exampleRows j = .ok all n ∧
      checkedRows dialect all = header :: rows ∧ Template.expand set header rows = .ok es := by
  cases dialect with
  | reqsml =>
    obtain ⟨v, hboth, hcheck⟩ := check_eq_ok.1 h
    obtain ⟨m, k, j, hm, hstatements, halone, hrows⟩ :=
      reaches_of_table (ReqsML.disciplined_headed _) hboth
    dsimp only at hcheck
    split at hcheck
    · cases hcheck
    · obtain ⟨header, values, hall, hexpand⟩ := expand_of_expandRows hcheck
      refine ⟨_, header, values, v.2, m, k, j, hm, ?_, halone, hrows, hall, hexpand⟩
      exact hstatements
  | gherkin =>
    obtain ⟨v, hboth, hcheck⟩ := check_eq_ok.1 h
    obtain ⟨m, k, j, hm, hstatements, halone, hrows⟩ :=
      reaches_of_table (Gherkin.disciplined_headed _) hboth
    dsimp only at hcheck
    split at hcheck
    · cases hcheck
    · refine ⟨_, v.2.head, v.2.tail, v.2.toList, m, k, j, hm, ?_, halone,
        map_eq_ok.2 ⟨v.2, hrows, rfl⟩, rfl, hcheck⟩
      exact hstatements

end Blocks

end Grammar

/-! ## Requirements of the tabular dialect -/

/-- The examples of a requirement in blocks, before they inherit labels. -/
inductive Body : List (List Example) → Prop where
  /-- One example without a title. -/
  | inline {e : Example} (h : e.Inline) : Body [[e]]
  /-- A template without a title, and its table. -/
  | template {set : ExampleSet} {examples : List Example} (h : set.Written)
      (hbare : Canonical.isBare set = true) (htable : FromTable set examples) : Body [examples]
  /-- Titled examples and templates. -/
  | titled {blocks : List (List Example)} (h : LegibleBlocks blocks) : Body blocks

/-- A requirement as it is read. -/
structure Requirement.Legible (r : Requirement) : Prop where
  comments : LegibleComments r.comments
  metadata : (Metadata.mk r.identifier r.explicitLabels).Legible
  title : r.description.Neat ∧ r.description ≠ []
  labels_eq : r.labels = r.explicitLabels
  body : ∃ blocks, Body blocks ∧ r.examples = blocks.flatten.map (inherit r.labels)

theorem endsInTable_inherit {labels : Labels} {examples : List Example} :
    EndsInTable (examples.map (inherit labels)) ↔ EndsInTable examples := by
  constructor
  · rintro ⟨e, he, hset⟩
    rw [List.getLast?_map] at he
    obtain ⟨a, ha, rfl⟩ := Option.map_eq_some_iff.1 he
    exact ⟨a, ha, hset⟩
  · rintro ⟨e, he, hset⟩
    exact ⟨inherit labels e, by rw [List.getLast?_map, he]; rfl, hset⟩

theorem Body.ownLabels {blocks : List (List Example)} (h : Body blocks) :
    ∀ e ∈ blocks.flatten, e.OwnLabels := by
  cases h with
  | inline h => simpa using h.ownLabels
  | template h hbare htable => simpa using htable.ownLabels
  | titled h =>
    intro e he
    obtain ⟨b, hb, hmem⟩ := List.mem_flatten.1 he
    cases h.block b hb with
    | single h =>
      rw [List.mem_singleton.1 hmem]
      exact h.ownLabels
    | set h htable => exact htable.ownLabels e hmem

/-- Examples without commas in their labels are read as they are written. -/
theorem Body.cut_eq {blocks : List (List Example)} (h : Body blocks) {labels : Labels}
    (huncut : ∀ e ∈ blocks.flatten.map (inherit labels), e.Uncut) :
    ∀ e ∈ blocks.flatten, e.cut = e := by
  intro e he
  obtain ⟨hlabels, hset⟩ := huncut (inherit labels e) (List.mem_map_of_mem he)
  have huncut : e.Uncut := ⟨hlabels, hset⟩
  exact huncut.cut_eq (h.ownLabels e he)

/-- The requirement that is read where this one is written. -/
def Requirement.cut (r : Requirement) : Requirement :=
  { r with examples := r.examples.map fun e => inherit r.labels e.cut }

/-- Without commas in its labels a requirement is read as it is written. -/
theorem Requirement.Legible.cut_eq {r : Requirement} (h : r.Legible)
    (huncut : ∀ e ∈ r.examples, e.Uncut) : r.cut = r := by
  obtain ⟨blocks, hbody, hexamples⟩ := h.body
  have hcut := hbody.cut_eq (hexamples ▸ huncut)
  have hall : r.examples.map (fun e => inherit r.labels e.cut) = r.examples :=
    calc r.examples.map (fun e => inherit r.labels e.cut)
        = blocks.flatten.map fun own => inherit r.labels own.cut := by
          rw [hexamples, List.map_map]
          rfl
      _ = blocks.flatten.map (inherit r.labels) :=
          List.map_congr_left fun own hown => by rw [hcut own hown]
      _ = r.examples := hexamples.symm
  rw [Requirement.cut, hall]

namespace Grammar.ReqsML

/-! ## Examples without titles -/

theorem statements_of_inlineStatements {c n : Cursor} {ss : List Statement}
    (h : inlineStatements c = .ok ss n) : statements c = .ok ss n := by
  unfold inlineStatements at h
  split at h
  · cases h
  · split at h
    · cases h
    · exact h

/-- **What is read as examples without a title.** -/
theorem body_of_inlineExamples {c n : Cursor} {examples : List Example} (hc : c.Sound)
    (h : inlineExamples c = .ok examples n) :
    Body [examples] ∧ (EndsInTable examples → TableEnds n) := by
  obtain ⟨⟨statements, rows⟩, hboth, hcheck⟩ := check_eq_ok.1 h
  obtain ⟨m, hstatements, hrows⟩ := both_eq_ok.1 hboth
  dsimp only at hstatements hrows hcheck
  -- the header is looked at, but the statements are read from the same place
  replace hstatements := statements_of_inlineStatements hstatements
  obtain ⟨hne, hlegible⟩ := yields_statements _ _ _ hc.skipBlank hstatements
  have hm : m.Sound := hc.skipBlank.of_reaches (disciplined_statements.reaches hstatements)
  cases rows with
  | none =>
    dsimp only at hcheck
    split at hcheck
    · cases hcheck
    · rename_i htokens
      cases hcheck
      refine ⟨.inline ⟨⟨hne, hlegible, by simpa using htokens, rfl, rfl, rfl⟩, rfl, rfl, rfl, rfl⟩,
        ?_⟩
      rintro ⟨e, he, hset⟩
      cases he
      cases hset
  | some rows =>
    rcases whenAhead_eq_ok.1 hrows with ⟨-, found, hfound, heq⟩ | ⟨-, heq, -⟩
    · cases heq
      obtain ⟨_, k, halone, htable⟩ := second_eq_ok.1 hfound
      have hk : k.Sound := hm.skipBlank.of_reaches ((disciplined_alone _).reaches halone)
      have hlegibleRows := fun row hrow => (yields_exampleRows _ _ _ hk htable row hrow).1
      exact ⟨.template ⟨hne, hlegible, rfl⟩ rfl (fromTable_of_expandRows hcheck hlegibleRows),
        fun _ => tableEnds_of_exampleRows htable⟩
    · cases heq

/-- What is read as titled examples. -/
theorem body_of_examples {c n : Cursor} {found : List Example} (hc : c.Sound)
    (h : examples c = .ok found n) :
    ∃ blocks, Body blocks ∧ found = blocks.flatten ∧ (EndsInTable found → TableEnds n) := by
  obtain ⟨blocks, hblocks, rfl⟩ := map_eq_ok.1 h
  have hrun := several_eq_ok.1 hblocks
  obtain ⟨hlegible, hend⟩ := blocks_of_run hc.skipBlank (by simp [Several.toList]) hrun
  exact ⟨blocks.toList, .titled hlegible, rfl, hend⟩

/-! ## Requirements -/

/-- **What is read as a requirement**: its parts, the end of a table that it ends in, and the
metadata in front of it. -/
theorem requirement_spec {c n : Cursor} {r : Requirement} (hc : c.Sound)
    (h : requirement c = .ok r n) :
    r.Legible ∧ (EndsInTable r.examples → TableEnds n) ∧
      ∃ (front : Header) (m : Cursor), header c.skipBlank = .ok front m ∧
        front.metadata = ⟨r.identifier, r.explicitLabels⟩ := by
  obtain ⟨⟨⟨front, title⟩, found⟩, hboth, rfl⟩ := map_eq_ok.1 h
  obtain ⟨m, htop, hbody⟩ := both_eq_ok.1 hboth
  obtain ⟨k, hheader, htitle⟩ := both_eq_ok.1 htop
  dsimp only at hbody hheader htitle
  rw [Cursor.skipBlank_skipBlank] at hheader
  have hk : k.Sound := hc.skipBlank.of_reaches (disciplined_header.reaches hheader)
  have hm : m.Sound := hk.of_reaches ((disciplined_titled _).reaches htitle)
  obtain ⟨hcomments, hmetadata⟩ := yields_header _ _ _ hc.skipBlank hheader
  obtain ⟨blocks, hblocks, rfl, hend⟩ : ∃ blocks, Body blocks ∧ found = blocks.flatten ∧
      (EndsInTable found → TableEnds n) := by
    rcases orElse_eq_ok.1 hbody with hinline | ⟨-, htitled⟩
    · obtain ⟨hblock, hend⟩ := body_of_inlineExamples hm.skipBlank hinline
      exact ⟨[found], hblock, by simp, hend⟩
    · exact body_of_examples hm.skipBlank htitled
  refine ⟨⟨hcomments, hmetadata, yields_titled _ _ _ _ hk htitle, rfl, blocks, hblocks, rfl⟩, ?_,
    front, k, hheader, rfl⟩
  exact fun hends => hend (endsInTable_inherit.1 hends)

/-! ### Labels without commas -/

theorem uncut_of_expandRows {set : ExampleSet} {rows : List TemplateRow} {es : List Example}
    (h : expandRows set rows = .ok es) (hset : set.labels.Avoid ',')
    (hrows : ∀ row ∈ rows, row.Legible ∧ row.labels.Avoid ',') : ∀ e ∈ es, e.Uncut := by
  obtain ⟨header, separator, values, rfl, -, -, -, rfl⟩ := expandRows_eq_ok.1 h
  intro e he
  obtain ⟨row, hrow, rfl⟩ := List.mem_map.1 he
  exact ⟨(hrows row (by simp [hrow])).2, hset⟩

theorem uncut_singleExample : Yields singleExample Example.Uncut := by
  refine ((yields_header.both disciplined_header (.any _)).both (disciplined_headed _)
    (.any _)).check ?_
  rintro ⟨⟨front, title⟩, statements⟩ e ⟨⟨⟨-, hmetadata⟩, -⟩, -⟩ he
  dsimp only at he
  split at he <;> cases he
  exact ⟨hmetadata.avoid, nofun⟩

theorem uncut_exampleSet : Yields exampleSet fun es => ∀ e ∈ es, e.Uncut := by
  intro c es n hc hread
  obtain ⟨⟨⟨⟨front, title⟩, statements⟩, rows⟩, hboth, hcheck⟩ := check_eq_ok.1 hread
  obtain ⟨⟨⟨⟨-, hmetadata⟩, -⟩, -⟩, hrows⟩ :=
    ((((yields_header.both disciplined_header (.any _)).both (disciplined_headed setKeywords)
      (.any _)).first).both (((disciplined_headed setKeywords).both disciplined_statements).first
        (disciplined_alone _)) yields_exampleRows) _ _ _ hc hboth
  dsimp only at hmetadata hrows hcheck
  split at hcheck
  · cases hcheck
  · exact uncut_of_expandRows hcheck hmetadata.avoid hrows

theorem uncut_inlineExamples : Yields inlineExamples fun es => ∀ e ∈ es, e.Uncut := by
  intro c es n hc hread
  obtain ⟨⟨statements, rows⟩, hboth, hcheck⟩ := check_eq_ok.1 hread
  obtain ⟨m, hstatements, hrows⟩ := both_eq_ok.1 hboth
  have hm : m.Sound := hc.skipBlank.of_reaches (disciplined_inlineStatements.reaches hstatements)
  cases rows with
  | none =>
    dsimp only at hcheck
    split at hcheck
    · cases hcheck
    · cases hcheck
      rw [List.forall_mem_singleton]
      exact ⟨nofun, nofun⟩
  | some rows =>
    rcases whenAhead_eq_ok.1 hrows with ⟨-, found, hfound, heq⟩ | ⟨-, heq, -⟩
    · cases heq
      obtain ⟨_, k, halone, htable⟩ := second_eq_ok.1 hfound
      have hk : k.Sound := hm.skipBlank.of_reaches ((disciplined_alone _).reaches halone)
      exact uncut_of_expandRows hcheck nofun (yields_exampleRows _ _ _ hk htable)
    · cases heq

/-- **Labels of the tabular dialect hold no commas.** -/
theorem uncut_requirement : Yields requirement fun r => ∀ e ∈ r.examples, e.Uncut := by
  have hexamples : Yields examples fun es => ∀ e ∈ es, e.Uncut :=
    YieldsFrom.blocks Cursor.lasting_sound uncut_exampleSet uncut_singleExample disciplined_block
  refine ((Yields.any _).both (disciplined_headed _) (uncut_inlineExamples.orElse hexamples)).map ?_
  rintro ⟨⟨front, description⟩, found⟩ ⟨-, hfound⟩ e he
  obtain ⟨own, hown, rfl⟩ := List.mem_map.1 he
  obtain ⟨hlabels, hset⟩ := hfound own hown
  exact ⟨hlabels, hset⟩

/-- What stands behind a requirement that ends in a table is no row of it. -/
theorem noRow_of_requirement {c m n : Cursor} {r s : Requirement} (hc : c.Sound)
    (hr : requirement c = .ok r m) (hs : requirement m = .ok s n) (hend : EndsInTable r.examples) :
    NoRow ⟨s.identifier, s.explicitLabels⟩ := by
  have hm : m.Sound := hc.of_reaches (disciplined_requirement.reaches hr)
  obtain ⟨-, hends, -⟩ := requirement_spec hc hr
  obtain ⟨-, -, front, k, hheader, hmetadata⟩ := requirement_spec hm hs
  rw [← hmetadata]
  refine noRow_of_header hm.skipBlank hheader ?_
  rw [TableEnds, Cursor.skipBlank_skipBlank]
  exact hends hend

end Grammar.ReqsML

/-- All requirements of a source as they are read. -/
structure LegibleRequirements (rs : List Requirement) : Prop where
  nonempty : rs ≠ []
  legible : ∀ r ∈ rs, r.Legible
  noRow : ∀ r s rest, r :: s :: rest <:+ rs → EndsInTable r.examples →
    NoRow ⟨s.identifier, s.explicitLabels⟩

/-- **All requirements of a source are legible.** -/
theorem Grammar.ReqsML.legible_requirements {c n : Cursor} {rs : Several Requirement} (hc : c.Sound)
    (h : requirements c = .ok rs n) : LegibleRequirements rs.toList := by
  have hrun := several_eq_ok.1 h
  refine ⟨by simp [Several.toList], ?_, ?_⟩
  · exact Yields.run (fun c r n hc hr => (requirement_spec hc hr).1) disciplined_requirement
      hc.skipBlank hrun
  · exact hrun.adjacent disciplined_requirement (fun _ _ _ _ _ => noRow_of_requirement) hc.skipBlank

/-- A document in the tabular dialect holds the requirements that are read, and nothing else. -/
theorem Document.parse_reqsml_eq_ok {source : Path} {text : Text} {d : Document} :
    Document.parse source .reqsml text = .ok d ↔
      ∃ rs n, ReqsML.requirements (Cursor.ofText text) = .ok rs n ∧
        d = ⟨source, none, none, none, .reqsml, rs.toList⟩ := by
  show Grammar.ReqsML.document source text = .ok d ↔ _
  unfold Grammar.ReqsML.document
  cases ReqsML.requirements (Cursor.ofText text) with
  | fail e n => simp [Reply.result, Except.map]
  | ok rs n => simp [Reply.result, Except.map, @eq_comm _ _ d]

/-- A document in the narrative dialect has the comments, the tags and the title of its feature, and
the requirements that it holds. -/
theorem Document.parse_gherkin_eq_ok {source : Path} {text : Text} {d : Document} :
    Document.parse source .gherkin text = .ok d ↔
      ∃ front title found n, Gherkin.feature (Cursor.ofText text) = .ok ((front, title), found) n ∧
        d = ⟨source, front.comments, front.tags, some title, .gherkin,
          (found.requirements title).map (Gherkin.inherit front.tags)⟩ := by
  show Grammar.Gherkin.document source text = .ok d ↔ _
  unfold Grammar.Gherkin.document
  cases Gherkin.feature (Cursor.ofText text) with
  | fail e n => simp [Reply.result, Except.map]
  | ok value n =>
    obtain ⟨⟨front, title⟩, found⟩ := value
    constructor
    · intro h
      cases h
      exact ⟨front, title, found, n, rfl, rfl⟩
    · rintro ⟨_, _, _, _, ⟨⟩, rfl⟩
      rfl

/-! ## What a feature holds -/

section Feature

variable {K : Cursor → Prop} {P : Requirement → Prop}

/-- **A feature holds requirements**: its rules, or one that has its title. -/
theorem Grammar.Gherkin.yieldsFrom_body (hK : Cursor.Lasting K) {title : Text}
    (hrule : YieldsFrom K Gherkin.rule P)
    (hexamples : YieldsFrom K Gherkin.examples fun es => P ⟨none, none, none, none, title, es⟩) :
    YieldsFrom K Gherkin.body fun found =>
      found.requirements title ≠ [] ∧ ∀ r ∈ found.requirements title, P r := by
  refine YieldsFrom.orElse hK ?_ ?_
  · exact (YieldsFrom.several hK hrule Gherkin.disciplined_rule).map fun rules h =>
      ⟨List.cons_ne_nil _ _, h⟩
  · refine (YieldsFrom.first hK hexamples).map fun es hes => ⟨List.cons_ne_nil _ _, fun r hr => ?_⟩
    rw [List.mem_singleton.1 hr]
    exact hes

/-- What holds of every rule, and of the requirement that a feature without rules is, holds of all
requirements of a document before they inherit its labels. -/
theorem Document.requirements_of_parse_gherkin (hK : Cursor.Lasting K) {text : Text}
    (htext : K (Cursor.ofText text)) (hrule : YieldsFrom K Gherkin.rule P)
    (hexamples : ∀ title : Text, title.Neat ∧ title ≠ [] →
      YieldsFrom K Gherkin.examples fun es => P ⟨none, none, none, none, title, es⟩)
    {source : Path} {d : Document} (h : Document.parse source .gherkin text = .ok d) :
    ∃ comments tags title own, own ≠ [] ∧ (∀ r ∈ own, P r) ∧
      d = ⟨source, comments, tags, title, .gherkin, own.map (Gherkin.inherit tags)⟩ := by
  obtain ⟨front, title, found, n, hfeature, rfl⟩ := Document.parse_gherkin_eq_ok.1 h
  obtain ⟨m, hhead, hbody⟩ := both_eq_ok.1 hfeature
  obtain ⟨-, htitle⟩ := Gherkin.yields_headed _ _ _ _ (Cursor.sound_ofText text).skipBlank hhead
  have hm : K m :=
    hK (hK htext (Cursor.reaches_skipBlank _)) ((Gherkin.disciplined_headed _).reaches hhead)
  obtain ⟨hne, hrequirements⟩ :=
    Gherkin.yieldsFrom_body hK hrule (hexamples title htitle) _ _ _ hm hbody
  exact ⟨_, _, _, _, hne, hrequirements, rfl⟩

end Feature

end PlainSpec
