import PlainSpec.Proofs.Grammar.Discipline
import PlainSpec.Proofs.Parser.Likeness

/-!
# The grammars on alike sources

Every rule of the two dialects is blind to every likeness under which the text blocks of its dialect
are: on alike sources it reads values that differ in lines only.

## Main results

* `Grammar.ReqsML.blind_requirements`: the requirements of alike sources.
* `Grammar.Gherkin.blind_feature`: the features of alike sources.
-/

namespace PlainSpec

namespace Grammar

open PlainSpec.Parser Likeness

variable {L : Likeness}

/-- A fault of a line becomes a fault of the construct. -/
theorem same_mapError {α : Type} {r r' : Except Fault α} (h : r = r') :
    L.Same id (r.mapError Invalid.whole) (r'.mapError Invalid.whole) := by
  cases h
  rfl

/-- A check that commutes with relabelling gives alike results. -/
theorem same_of_relabel {α β : Type} {view : α → α} {view' : β → β} {check : α → Except Invalid β}
    (h : ∀ a, check (view a) = ((check a).map view').mapError (Invalid.relabel L.place)) (a a' : α)
    (heq : view a = view a') : L.Same view' (check a) (check a') := by
  unfold Likeness.Same
  rw [← h, ← h, heq]

/-- A check that commutes with relabelling and gives no lines. -/
theorem same_of_relabel_id {α β : Type} {view : α → α} {check : α → Except Invalid β}
    (h : ∀ a, check (view a) = (check a).mapError (Invalid.relabel L.place)) (a a' : α)
    (heq : view a = view a') : L.Same id (check a) (check a') := by
  unfold Likeness.Same
  rw [Except.map_id, id, id, ← h, ← h, heq]

/-! ## Keywords, comments and data -/

theorem blind_titled (keywords : List Text) : L.Blind id (titled keywords) (titled keywords) :=
  .line fun _ _ _ h => by rw [h]

theorem blind_alone (keywords : List Text) : L.Blind id (alone keywords) (alone keywords) :=
  .line fun _ _ _ h => by rw [h]

theorem blind_commentLine (mark : Text) : L.Blind id (commentLine mark) (commentLine mark) :=
  .line fun _ _ _ h => by rw [h]

theorem blind_comments (mark : Text) : L.Blind id (comments mark) (comments mark) :=
  ((blind_commentLine mark).manyWhile (blind_commentLine mark) (.line _)).map
    fun found found' h => by
    simp only [List.map_id] at h
    rw [h]

theorem blind_tableRow : L.Blind (TableRow.relabel L.place) tableRow tableRow :=
  .line fun l l' hn ht => by
    rw [ht]
    cases splitCells l'.trimmed <;> simp [Except.map, TableRow.relabel, hn]

theorem blind_tableRows :
    L.Blind (Several.map (TableRow.relabel L.place)) tableRows tableRows :=
  blind_tableRow.severalWhile blind_tableRow (.line _) _

theorem blind_data {dialect : Dialect}
    (htext : L.Blind id (textBlock dialect) (textBlock dialect)) :
    L.Blind id (data dialect) (data dialect) := by
  have hmatrix : L.Blind id (check tableRows (readMatrix dialect))
      (check tableRows (readMatrix dialect)) :=
    blind_tableRows.check (same_of_relabel_id (readMatrix_relabel L.place dialect))
  have htable : L.Blind id (check tableRows (readTable dialect))
      (check tableRows (readTable dialect)) :=
    blind_tableRows.check (same_of_relabel_id (readTable_relabel L.place dialect))
  have hpairs : L.Blind id (check tableRows readKeyValues) (check tableRows readKeyValues) :=
    blind_tableRows.check (same_of_relabel_id (readKeyValues_relabel L.place))
  have hlist : L.Blind id (check tableRows readList) (check tableRows readList) :=
    blind_tableRows.check (same_of_relabel_id (readList_relabel L.place))
  cases dialect with
  | gherkin => exact (((htext.orElse hmatrix).orElse hpairs).orElse hlist).orElse htable
  | reqsml => exact (((htext.orElse hmatrix).orElse htable).orElse hpairs).orElse hlist

theorem blind_optionalData {dialect : Dialect}
    (htext : L.Blind id (textBlock dialect) (textBlock dialect)) :
    L.Blind id (optionalData dialect) (optionalData dialect) := by
  have htest (l l' : Line) (h : l.trimmed = l'.trimmed) :
      startsData dialect l = startsData dialect l' := by
    unfold startsData
    rw [h]
  have h := (blind_data htext).whenAhead htest
  rwa [Option.map_id_fun] at h

/-! ## Statements of either dialect -/

/-- A line of a statement that is told by its text. -/
theorem blind_heading {read : Text → Except Fault (StatementKind × Text)} :
    L.Blind (Heading.relabel L.place)
      (line fun l => (read l.trimmed).map fun (kind, text) => (⟨kind, text, l.number⟩ : Heading))
      (line fun l => (read l.trimmed).map fun (kind, text) => (⟨kind, text, l.number⟩ : Heading)) :=
  .line fun l l' hn ht => by
    rw [ht]
    cases read l'.trimmed <;> simp [Except.map, Heading.relabel, hn]

/-- A line of a statement whose kind is known. -/
theorem blind_headingOf {read : Text → Except Fault Text} (kind : StatementKind) :
    L.Blind (Heading.relabel L.place)
      (line fun l => (read l.trimmed).map fun text => (⟨kind, text, l.number⟩ : Heading))
      (line fun l => (read l.trimmed).map fun text => (⟨kind, text, l.number⟩ : Heading)) :=
  .line fun l l' hn ht => by
    rw [ht]
    cases read l'.trimmed <;> simp [Except.map, Heading.relabel, hn]

/-- A line that is read if it passes a test, by its text. -/
theorem blind_lineAhead {test : Line → Bool} {read : Text → Except Fault α}
    (htest : ∀ l l' : Line, l.trimmed = l'.trimmed → test l = test l') :
    L.Blind id
      (whenAhead test (check (line fun l => .ok l.trimmed) fun t => (read t).mapError .whole))
      (whenAhead test (check (line fun l => .ok l.trimmed) fun t => (read t).mapError .whole)) := by
  have hline : L.Blind id (line fun l => Except.ok l.trimmed) (line fun l => Except.ok l.trimmed) :=
    .line fun _ _ _ h => by rw [h]
  have hread (text text' : Text) (h : text = text') :
      L.Same id ((read text).mapError Invalid.whole) ((read text').mapError Invalid.whole) :=
    same_mapError (by rw [h])
  have h := (hline.check hread).whenAhead htest
  rwa [Option.map_id_fun] at h

theorem blind_statementStart {heading : Parser Heading}
    (hh : L.Blind (Heading.relabel L.place) heading heading) (mark : Text) :
    L.Blind id (statementStart mark heading) (statementStart mark heading) :=
  ((blind_comments mark).both hh).map fun _ _ _ => rfl

theorem blind_statementWith {dialect : Dialect}
    (htext : L.Blind id (textBlock dialect) (textBlock dialect)) {heading : Parser Heading}
    (hh : L.Blind (Heading.relabel L.place) heading heading) (mark : Text) :
    L.Blind (Statement.relabel L.place) (statementWith dialect mark heading)
      (statementWith dialect mark heading) := by
  refine (((blind_comments mark).both hh).both (blind_optionalData htext)).map ?_
  rintro ⟨⟨cs, h⟩, d⟩ ⟨⟨cs', h'⟩, d'⟩ heq
  simp only [Prod.map_apply, Prod.mk.injEq, Heading.relabel, Heading.mk.injEq, id] at heq
  obtain ⟨⟨rfl, hkind, htext, hline⟩, rfl⟩ := heq
  simp [Statement.relabel, hkind, htext, hline]

theorem map_relabel_flatten {α : Type} {view : α → α} {groups groups' : Several (List α)}
    (h : groups.map (List.map view) = groups'.map (List.map view)) :
    groups.toList.flatten.map view = groups'.toList.flatten.map view := by
  rw [List.map_flatten, List.map_flatten, ← Several.toList_map, ← Several.toList_map, h]

/-! ## The tabular dialect -/

/-- Blocks of examples, where a block is several examples or a single one. -/
theorem blind_blocks {several : Parser (List Example)} {single : Parser Example}
    {start : Parser Unit} (hseveral : L.Blind (List.map (Example.relabel L.place)) several several)
    (hsingle : L.Blind (Example.relabel L.place) single single) (hstart : L.Blind id start start)
    (hconsuming : Consuming (orElse several (map single fun e => [e]))) (name : String) :
    L.Blind (List.map (Example.relabel L.place))
      (map (severalWhile name (orElse several (map single fun e => [e])) start)
        fun blocks => blocks.toList.flatten)
      (map (severalWhile name (orElse several (map single fun e => [e])) start)
        fun blocks => blocks.toList.flatten) := by
  have hone (e e' : Example) (h : e.relabel L.place = e'.relabel L.place) :
      [e].map (Example.relabel L.place) = [e'].map (Example.relabel L.place) := by simp [h]
  have hblock := hseveral.orElse (hsingle.map hone)
  exact (hblock.severalWhile hstart hconsuming _).map fun _ _ => map_relabel_flatten

namespace ReqsML

theorem blind_optionalMetadata : L.Blind id optionalMetadata optionalMetadata :=
  blind_lineAhead fun l l' h => by rw [isMetadata, isMetadata, h]

theorem blind_header : L.Blind id header header := by
  refine ((blind_comments _).both blind_optionalMetadata).map ?_
  rintro ⟨cs, m⟩ ⟨cs', m'⟩ heq
  simp only [Prod.map_apply, Prod.mk.injEq, id] at heq
  obtain ⟨rfl, rfl⟩ := heq
  rfl

theorem blind_keywordLine : L.Blind (Heading.relabel L.place) keywordLine keywordLine :=
  blind_heading

theorem blind_bulletLine (kind : StatementKind) :
    L.Blind (Heading.relabel L.place) (bulletLine kind) (bulletLine kind) := blind_headingOf kind

section

variable (htext : L.Blind id (textBlock .reqsml) (textBlock .reqsml))

include htext

theorem blind_statement : L.Blind (Statement.relabel L.place) statement statement :=
  blind_statementWith htext blind_keywordLine _

theorem blind_bullets (kind : StatementKind) :
    L.Blind (List.map (Statement.relabel L.place)) (bullets kind) (bullets kind) :=
  (blind_statementWith htext (blind_bulletLine kind) _).manyWhile
    (blind_statementStart (blind_bulletLine kind) _) (consuming_statementWith (.line _) _ _)

theorem blind_singleStatement :
    L.Blind (List.map (Statement.relabel L.place)) singleStatement singleStatement := by
  refine (blind_statement htext).check (same_of_relabel fun s => ?_)
  show (if s.description.isEmpty then _ else _) = _
  split <;> rfl

theorem blind_statementList :
    L.Blind (List.map (Statement.relabel L.place)) statementList statementList := by
  have hlist : L.Blind (Prod.map (Statement.relabel L.place) (List.map (Statement.relabel L.place)))
      (bind statement fun keyword => map (bullets keyword.kind) fun items => (keyword, items))
      (bind statement fun keyword => map (bullets keyword.kind) fun items => (keyword, items)) := by
    refine (blind_statement htext).bind fun keyword keyword' hk => ?_
    rw [← (Statement.relabel_eq_iff.1 hk).2.1]
    exact (blind_bullets htext keyword.kind).map fun items items' hi => by simp [hk, hi]
  refine hlist.check ?_
  rintro ⟨keyword, items⟩ ⟨keyword', items'⟩ heq
  simp only [Prod.map_apply, Prod.mk.injEq] at heq
  obtain ⟨hk, hi⟩ := heq
  obtain ⟨hcomments, hkind, hdescription, -, hline⟩ := Statement.relabel_eq_iff.1 hk
  -- the fault of a list does not depend on lines, but it is reported at that of its keyword
  have hempty : items.isEmpty = items'.isEmpty := by
    simpa using congrArg List.isEmpty hi
  have hfault : listFault? keyword items = listFault? keyword' items' := by
    simp [listFault?, hcomments, hkind, hdescription, hempty]
  dsimp only
  rw [hfault]
  cases listFault? keyword' items' with
  | none => simpa [Likeness.Same, Except.map] using hi
  | some fault =>
    have hplace : L.place (keyword.line.getD 0) = L.place (keyword'.line.getD 0) := by
      cases hl : keyword.line <;> cases hl' : keyword'.line <;> simp_all
    simp [Likeness.Same, Except.map, hplace]

theorem blind_statementGroup :
    L.Blind (List.map (Statement.relabel L.place)) statementGroup statementGroup :=
  (blind_singleStatement htext).orElse (blind_statementList htext)

theorem blind_statements :
    L.Blind (List.map (Statement.relabel L.place)) statements statements :=
  ((blind_statementGroup htext).severalWhile (blind_statementStart blind_keywordLine _)
    consuming_statementGroup _).map fun _ _ => map_relabel_flatten

theorem blind_inlineStatements :
    L.Blind (List.map (Statement.relabel L.place)) inlineStatements inlineStatements := by
  intro c c' h
  unfold inlineStatements
  -- the header is compared only: both runs go on from where they started
  rcases (blind_header c c' h).cases with
    ⟨v, n, v', n', hv, hv', heq, -⟩ | ⟨e, n, e', n', he, he', herror⟩
  · obtain rfl : v = v' := heq
    rw [hv, hv']
    dsimp only
    split
    · exact L.error_mk _ _ (L.lineNumber h)
    · exact blind_statements htext c c' h
  · rw [he, he']
    exact herror

end

/-! ### Tables of examples -/

theorem blind_exampleRow : L.Blind (TemplateRow.relabel L.place) exampleRow exampleRow := by
  refine ((blind_comments _).both
    (.line ?_ : L.Blind (Prod.map L.place id) (line _) (line _))).map ?_
  · intro l l' hn ht
    rw [ht]
    cases readExampleRow l'.trimmed <;> simp [Except.map, hn]
  · rintro ⟨cs, i, m⟩ ⟨cs', i', m'⟩ heq
    simp only [Prod.map_apply, Prod.mk.injEq, id] at heq
    obtain ⟨rfl, hi, rfl⟩ := heq
    simp [TemplateRow.relabel, hi]

theorem blind_exampleRows :
    L.Blind (List.map (TemplateRow.relabel L.place)) exampleRows exampleRows :=
  (blind_exampleRow.severalWhile blind_exampleRow consuming_exampleRow _).map fun rows rows' h => by
    rw [← Several.toList_map, ← Several.toList_map, h]

theorem blind_headed (keywords : List Text) :
    L.Blind id (both header (titled keywords)) (both header (titled keywords)) := by
  have h := (blind_header (L := L)).both (blind_titled keywords)
  rwa [Prod.map_id] at h

theorem blind_exampleStart : L.Blind id exampleStart exampleStart :=
  (blind_headed _).map fun _ _ _ => rfl

theorem blind_optionalRows :
    L.Blind (Option.map (List.map (TemplateRow.relabel L.place))) optionalRows optionalRows :=
  ((blind_alone _).second blind_exampleRows).whenAhead fun l l' h => by
    unfold startsExamples
    rw [h]

/-- The examples of alike templates on alike lines. -/
theorem same_expandRows {set set' : ExampleSet} {rows rows' : List TemplateRow}
    (hset : set.relabel L.place = set'.relabel L.place)
    (hrows : rows.map (TemplateRow.relabel L.place) = rows'.map (TemplateRow.relabel L.place)) :
    L.Same (List.map (Example.relabel L.place)) (expandRows set rows) (expandRows set' rows') := by
  unfold Likeness.Same
  rw [← expandRows_relabel, ← expandRows_relabel, hset, hrows]

section

variable (htext : L.Blind id (textBlock .reqsml) (textBlock .reqsml))

include htext

theorem blind_singleExample : L.Blind (Example.relabel L.place) singleExample singleExample := by
  refine ((blind_headed _).both (blind_statements htext)).check (same_of_relabel ?_)
  rintro ⟨⟨h, d⟩, ss⟩
  simp only [Prod.map_apply, id, tokenFault?_relabel L.place_zero]
  cases tokenFault? .reqsml ss <;> rfl

theorem blind_exampleSet : L.Blind (List.map (Example.relabel L.place)) exampleSet exampleSet := by
  intro c c' hc
  refine Agree.check hc (((((blind_headed _).both (blind_statements htext)).first
    (blind_alone _)).both blind_exampleRows) c c' hc) ?_
  rintro ⟨⟨⟨h, d⟩, ss⟩, rows⟩ ⟨⟨⟨h', d'⟩, ss'⟩, rows'⟩ heq
  simp only [Prod.map_apply, Prod.mk.injEq, id] at heq
  obtain ⟨⟨⟨rfl, rfl⟩, hss⟩, hrows⟩ := heq
  dsimp only
  rw [← Option.not_isSome, ← Option.not_isSome, isSome_templated?_congr hss]
  split
  · rfl
  · exact same_expandRows (by simp [ExampleSet.relabel, hss, L.lineNumber hc]) hrows

theorem blind_examples : L.Blind (List.map (Example.relabel L.place)) examples examples :=
  blind_blocks (blind_exampleSet htext) (blind_singleExample htext) blind_exampleStart
    consuming_block _

theorem blind_inlineExamples :
    L.Blind (List.map (Example.relabel L.place)) inlineExamples inlineExamples := by
  intro c c' hc
  refine Agree.check hc (((blind_inlineStatements htext).both blind_optionalRows) c c' hc) ?_
  rintro ⟨ss, rows⟩ ⟨ss', rows'⟩ heq
  simp only [Prod.map_apply, Prod.mk.injEq] at heq
  obtain ⟨hss, hrows⟩ := heq
  cases rows with
  | none =>
    obtain rfl : rows' = none := by simpa using hrows.symm
    dsimp only
    rw [isSome_templated?_congr hss]
    split
    · rfl
    · simp [Likeness.Same, Except.map, Example.relabel, hss]
  | some rows =>
    obtain ⟨rows', rfl, hrows'⟩ := Option.map_eq_some_iff.1 hrows.symm
    exact same_expandRows (by simp [ExampleSet.relabel, hss, L.lineNumber hc]) hrows'.symm

theorem blind_requirement : L.Blind (Requirement.relabel L.place) requirement requirement := by
  refine ((blind_headed _).both
    ((blind_inlineExamples htext).orElse (blind_examples htext))).map ?_
  rintro ⟨⟨h, d⟩, es⟩ ⟨⟨h', d'⟩, es'⟩ heq
  simp only [Prod.map_apply, Prod.mk.injEq, id] at heq
  obtain ⟨⟨rfl, rfl⟩, hes⟩ := heq
  have hinherit (labels : Labels) (es : List Example) :
      (es.map (inherit labels)).map (Example.relabel L.place) =
        (es.map (Example.relabel L.place)).map (inherit labels) := by
    rw [List.map_map, List.map_map]
    rfl
  simp only [Requirement.relabel, hinherit, hes]

/-- **The requirements of alike sources differ in lines only.** -/
theorem blind_requirements :
    L.Blind (Several.map (Requirement.relabel L.place)) requirements requirements :=
  (blind_requirement htext).several .finish (.of_consuming consuming_requirement) _

end

end ReqsML

/-! ## The narrative dialect -/

namespace Gherkin

theorem blind_optionalTags : L.Blind id optionalTags optionalTags :=
  blind_lineAhead fun l l' h => by rw [isTagLine, isTagLine, h]

theorem blind_header : L.Blind id header header := by
  refine (((blind_comments _).both blind_optionalTags).both (blind_comments _)).map ?_
  rintro ⟨⟨before, tags⟩, after⟩ ⟨⟨before', tags'⟩, after'⟩ heq
  simp only [Prod.map_apply, Prod.mk.injEq, id] at heq
  obtain ⟨⟨rfl, rfl⟩, rfl⟩ := heq
  rfl

theorem blind_aheadIs (test : Text → Bool) : L.Blind id (aheadIs test) (aheadIs test) :=
  .peek fun _ _ _ h => by rw [h]

theorem blind_freeText : L.Blind id freeText freeText := by
  have hline : L.Blind id (line fun _ => Except.ok ()) (line fun _ => Except.ok ()) :=
    .line fun _ _ _ _ => rfl
  refine (hline.many (Blind.finish.orElse (blind_aheadIs _)) ?_).map fun _ _ _ => rfl
  exact .of_consuming (.line _)

theorem blind_stepLine : L.Blind (Heading.relabel L.place) stepLine stepLine := blind_heading

theorem blind_continuationLine (kind : StatementKind) :
    L.Blind (Heading.relabel L.place) (continuationLine kind) (continuationLine kind) :=
  blind_headingOf kind

theorem blind_headed (keywords : List Text) :
    L.Blind id (first (both header (titled keywords)) freeText)
      (first (both header (titled keywords)) freeText) := by
  have h := ((blind_header (L := L)).both (blind_titled keywords)).first blind_freeText
  rwa [Prod.map_id] at h

theorem blind_exampleRow : L.Blind (TemplateRow.relabel L.place) exampleRow exampleRow := by
  refine (blind_header.both blind_tableRow).map ?_
  rintro ⟨h, row⟩ ⟨h', row'⟩ heq
  simp only [Prod.map_apply, Prod.mk.injEq, id, TableRow.relabel, TableRow.mk.injEq] at heq
  obtain ⟨rfl, hline, hcells⟩ := heq
  simp [TemplateRow.relabel, hline, hcells]

theorem blind_exampleStart : L.Blind id exampleStart exampleStart :=
  (blind_header.both (blind_aheadIs _)).map fun _ _ _ => rfl

/-- What of the content of a feature counts. -/
def Body.relabel (f : Nat → Nat) : Body → Body
  | .rules found => .rules (found.map (Requirement.relabel f))
  | .scenarios found => .scenarios (found.map (Example.relabel f))

theorem Body.requirements_relabel (f : Nat → Nat) (title : Text) (body : Body) :
    (body.requirements title).map (Requirement.relabel f) =
      (body.relabel f).requirements title := by
  cases body <;> rfl

theorem map_inherit_relabel (f : Nat → Nat) (tags : Labels) (rs : List Requirement) :
    (rs.map (inherit tags)).map (Requirement.relabel f) =
      (rs.map (Requirement.relabel f)).map (inherit tags) := by
  simp only [List.map_map, List.map_inj_left]
  intro r _
  simp only [Function.comp, inherit, Requirement.relabel, List.map_map]
  rfl

section

variable (htext : L.Blind id (textBlock .gherkin) (textBlock .gherkin))

include htext

theorem blind_statementGroup :
    L.Blind (List.map (Statement.relabel L.place)) statementGroup statementGroup := by
  refine (blind_statementWith htext blind_stepLine _).bind fun s s' hs => ?_
  rw [← (Statement.relabel_eq_iff.1 hs).2.1]
  have hrest : L.Blind (List.map (Statement.relabel L.place)) (continuations s.kind)
      (continuations s.kind) :=
    (blind_statementWith htext (blind_continuationLine s.kind) _).manyWhile
      (blind_statementStart (blind_continuationLine s.kind) _)
        (consuming_statementWith (.line _) _ _)
  exact hrest.map fun rest rest' hr => by simp [hs, hr]

theorem blind_statements :
    L.Blind (List.map (Statement.relabel L.place)) statements statements :=
  ((blind_statementGroup htext).severalWhile (blind_statementStart blind_stepLine _)
    consuming_statementGroup _).map fun _ _ => map_relabel_flatten

theorem blind_scenario : L.Blind (Example.relabel L.place) scenario scenario := by
  refine ((blind_headed _).both (blind_statements htext)).check (same_of_relabel ?_)
  rintro ⟨⟨h, d⟩, ss⟩
  simp only [Prod.map_apply, id, tokenFault?_relabel L.place_zero]
  cases tokenFault? .gherkin ss <;> rfl

theorem blind_outline : L.Blind (List.map (Example.relabel L.place)) outline outline := by
  intro c c' hc
  refine Agree.check hc (((((blind_headed _).both (blind_statements htext)).first
    (blind_alone _)).both
      (blind_exampleRow.severalWhile blind_exampleRow consuming_exampleRow _)) c c' hc) ?_
  rintro ⟨⟨⟨h, d⟩, ss⟩, rows⟩ ⟨⟨⟨h', d'⟩, ss'⟩, rows'⟩ heq
  simp only [Prod.map_apply, Prod.mk.injEq, id, Several.map, Several.mk.injEq] at heq
  obtain ⟨⟨⟨rfl, rfl⟩, hss⟩, hhead, htail⟩ := heq
  have hempty : rows.tail.isEmpty = rows'.tail.isEmpty := by
    simpa using congrArg List.isEmpty htail
  dsimp only
  rw [hempty]
  split
  · rfl
  · unfold Likeness.Same
    rw [← Template.expand_relabel, ← Template.expand_relabel, hhead, htail]
    simp [ExampleSet.relabel, hss, L.lineNumber hc]

theorem blind_examples : L.Blind (List.map (Example.relabel L.place)) examples examples :=
  blind_blocks (blind_outline htext) (blind_scenario htext) blind_exampleStart consuming_block _

theorem blind_rule : L.Blind (Requirement.relabel L.place) rule rule := by
  refine ((blind_headed _).both (blind_examples htext)).map ?_
  rintro ⟨⟨h, d⟩, es⟩ ⟨⟨h', d'⟩, es'⟩ heq
  simp only [Prod.map_apply, Prod.mk.injEq, id] at heq
  obtain ⟨⟨rfl, rfl⟩, hes⟩ := heq
  simp [Requirement.relabel, hes]

theorem blind_body : L.Blind (Body.relabel L.place) body body := by
  refine Blind.orElse (((blind_rule htext).several .finish (.of_consuming consuming_rule) _).map ?_)
    (((blind_examples htext).first .finish).map ?_)
  · intro rules rules' h
    simp only [Body.relabel, Body.rules.injEq]
    rw [← Several.toList_map, ← Several.toList_map, h]
  · intro es es' h
    simpa [Body.relabel] using h

/-- **The features of alike sources differ in lines only.** -/
theorem blind_feature : L.Blind (Prod.map id (Body.relabel L.place)) feature feature :=
  (blind_headed _).both (blind_body htext)

end

end Gherkin

end Grammar

end PlainSpec
