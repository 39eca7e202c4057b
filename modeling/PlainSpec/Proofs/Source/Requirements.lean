import PlainSpec.Proofs.Grammar.Requirements
import PlainSpec.Proofs.Source.Statements

/-!
# The account of a whole source

The statements of a template are written once, however many examples are made from it.  In a
document they are found again on every one of these examples, as the statements of its template;
examples that follow each other belong to one table if their templates are the same, places
included.  With this, the accounts of statements and tables add up to one of the whole source.

## Main definitions

* `writtenFrom`, `Document.written`: the statements that were written, each once.
* `blockStatements`: the statements that were written for the examples of one block.

## Main results

* `writtenFrom_flatten`: the blocks of a requirement can be told apart.
* `Document.accounts_of_parse`: the account of a source that is accepted.
-/

namespace PlainSpec

open PlainSpec.Parser Grammar Grammar.ReqsML

/-! ## Statements as they were written -/

/-- The statements that were written for examples, behind examples of the template `last`. -/
def writtenFrom (last : Option ExampleSet) : List Example → List Statement
  | [] => []
  | e :: es =>
    match e.exampleSet with
    | none => e.statements ++ writtenFrom none es
    | some set => (if last = some set then [] else set.statements) ++ writtenFrom (some set) es

/-- The statements that were written for a requirement. -/
def Requirement.written (r : Requirement) : List Statement := writtenFrom none r.examples

/-- The statements that were written for a document: those of every example without a template, and
those of every template, once. -/
def Document.written (d : Document) : List Statement := d.requirements.flatMap Requirement.written

theorem writtenFrom_inherit (labels : Labels) (last : Option ExampleSet) (es : List Example) :
    writtenFrom last (es.map (inherit labels)) = writtenFrom last es := by
  induction es generalizing last with
  | nil => rfl
  | cons e es ih =>
    have hset : (inherit labels e).exampleSet = e.exampleSet := rfl
    simp only [List.map_cons, writtenFrom, hset, ih]
    split <;> rfl

/-- Further examples of the same template add nothing. -/
theorem writtenFrom_same {set : ExampleSet} {es : List Example}
    (h : ∀ e ∈ es, e.exampleSet = some set) (more : List Example) :
    writtenFrom (some set) (es ++ more) = writtenFrom (some set) more := by
  induction es with
  | nil => rfl
  | cons e es ih =>
    rw [List.cons_append, writtenFrom, h e List.mem_cons_self]
    simpa using ih fun x hx => h x (List.mem_cons_of_mem _ hx)

/-- The statements that were written for the examples of one block. -/
def blockStatements (examples : List Example) : List Statement :=
  match blockSet? examples with
  | some set => set.statements
  | none => examples.flatMap Example.statements

/-- The examples of a table bring the statements of their template. -/
theorem writtenFrom_template {last : Option ExampleSet} {set : ExampleSet} {es : List Example}
    (hne : es ≠ []) (hset : ∀ e ∈ es, e.exampleSet = some set) (hlast : last ≠ some set)
    (more : List Example) :
    writtenFrom last (es ++ more) = blockStatements es ++ writtenFrom (blockSet? es) more := by
  obtain ⟨e, rest, rfl⟩ := List.exists_cons_of_ne_nil hne
  have he := hset e List.mem_cons_self
  have hblock : blockSet? (e :: rest) = some set := he
  rw [blockStatements, hblock, List.cons_append, writtenFrom, he]
  dsimp only
  rw [if_neg hlast, writtenFrom_same fun x hx => hset x (List.mem_cons_of_mem _ hx)]

/-- A block brings its statements, unless it has the template of the block before. -/
theorem writtenFrom_block {last : Option ExampleSet} {b : List Example} (h : ExampleBlock b)
    (hlast : ∀ set, last = some set → blockSet? b ≠ some set) (more : List Example) :
    writtenFrom last (b ++ more) = blockStatements b ++ writtenFrom (blockSet? b) more := by
  cases h with
  | @single e h =>
    have hblock : blockSet? [e] = none := h.noSet
    rw [blockStatements, hblock, List.singleton_append, writtenFrom, h.noSet]
    simp
  | @set set examples h htable =>
    obtain ⟨hblock, hset⟩ := htable.blockSet?
    exact writtenFrom_template htable.ne_nil hset (fun heq => hlast set heq hblock) more

/-- **The blocks of a requirement can be told apart**, since templates next to each other start on
different lines. -/
theorem writtenFrom_flatten {last : Option ExampleSet} {blocks : List (List Example)}
    (hblock : ∀ b ∈ blocks, ExampleBlock b)
    (hfollows : ∀ a b rest, a :: b :: rest <:+ blocks → Follows a b)
    (hlast : ∀ b rest set, blocks = b :: rest → last = some set → blockSet? b ≠ some set) :
    writtenFrom last blocks.flatten = blocks.flatMap blockStatements := by
  induction blocks generalizing last with
  | nil => rfl
  | cons b rest ih =>
    rw [List.flatten_cons, List.flatMap_cons,
      writtenFrom_block (hblock b List.mem_cons_self) fun set => hlast b rest set rfl]
    congr 1
    refine ih (fun x hx => hblock x (List.mem_cons_of_mem _ hx))
      (fun x y more hs => hfollows x y more (hs.trans (List.suffix_cons _ _))) ?_
    rintro next more set rfl hset hnext
    exact (hfollows b next more (List.suffix_refl _)).apart set set hset hnext rfl

/-! ## Slots of examples -/

/-- A template is found on each of its examples. -/
theorem slots_subset_of_exampleSet {e : Example} {es : List Example}
    {set : ExampleSet} (he : e ∈ es)
    (hset : e.exampleSet = some set) : set.slots ⊆ es.flatMap Example.slots := by
  intro slot hslot
  refine List.mem_flatMap.2 ⟨e, he, List.mem_cons_of_mem _ ?_⟩
  rw [hset]
  simp [hslot]

/-- The keyword above a table of examples adds nothing. -/
theorem Accounts.before_table {ps : List Passage} {ss : List Statement} {slots : List Slot}
    (h : Accounts ps ss slots) : Accounts (ps ++ [⟨.examples, false⟩]) ss slots := by
  rw [← List.append_nil ss]
  refine h.append (.of_silent ?_ (.singleton fun _ => trivial))
  simp [Content.isSilent]

namespace Grammar.ReqsML

/-! ## Examples -/

theorem spans_titled {keywords : List Text}
    (h : ∀ k ∈ keywords, k ∈ ["Requirement:".toList, "Example:".toList] ++ setKeywords) :
    Spans (titled keywords) .plain .plain fun _ ps => ps = [⟨.other, false⟩] := by
  refine .line fun l rest title htitle => ⟨_, ?_, rfl⟩
  unfold readTitle at htitle
  split at htitle
  · cases htitle
  · rename_i keyword title' hlead
    rw [passages_title (mem_of_leading? hlead) (h keyword (keyword_of_leading? hlead))]
    rfl

/-- The title of a construct and what stands in front of it. -/
theorem spans_headed {keywords : List Text}
    (h : ∀ k ∈ keywords, k ∈ ["Requirement:".toList, "Example:".toList] ++ setKeywords) :
    Spans (both header (titled keywords)) .plain .plain fun v ps =>
      Accounts ps [] [⟨v.1.comments, v.1.metadata, none⟩] := by
  intro c v n hc hv
  obtain ⟨_, hall, ps, _, rfl, hp, rfl⟩ :=
    spans_header.both disciplined_header (spans_titled h) c v n hc hv
  refine ⟨_, hall, hp.append (.of_silent ?_ (.singleton fun _ => trivial))⟩
  simp [Content.isSilent]

theorem spans_alone :
    Spans (alone examplesKeyword) .plain .header fun _ ps => ps = [⟨.examples, false⟩] := by
  refine .line fun l rest _ hl => ⟨_, ?_, rfl⟩
  split at hl
  · cases hl
  · rename_i keyword rest' hlead
    split at hl
    · rename_i hempty
      have htext := mem_of_leading? hlead
      rw [List.isEmpty_iff.1 hempty, List.append_nil] at htext
      rw [passages_examples (htext ▸ keyword_of_leading? hlead)]
      rfl
    · cases hl

/-- **A titled example.** -/
theorem spans_singleExample :
    Spans singleExample .plain .plain fun e ps => Accounts ps e.statements e.slots := by
  refine ((spans_headed (by simp [setKeywords])).both
    (disciplined_headed _) spans_statements).check ?_
  rintro ⟨⟨front, title⟩, statements⟩ e _ ⟨ps, qs, rfl, hp, hq⟩ he
  dsimp only at he hp hq
  split at he
  · cases he
  · cases he
    refine (hp.mono ?_).append (hq.mono ?_)
    · exact fun slot hslot => List.mem_singleton.1 hslot ▸ List.mem_cons_self
    · exact fun slot hslot => List.mem_cons_of_mem _ (List.mem_append_left _ hslot)

/-- The examples of a table have its template. -/
theorem template_of_expandRows {set : ExampleSet} {rows : List TemplateRow} {es : List Example}
    (h : expandRows set rows = .ok es) : es ≠ [] ∧ ∀ e ∈ es, e.exampleSet = some set := by
  obtain ⟨header, separator, values, -, hne, -, -, rfl⟩ := expandRows_eq_ok.1 h
  refine ⟨by simpa using hne, fun e he => ?_⟩
  obtain ⟨row, -, rfl⟩ := List.mem_map.1 he
  rfl

/-- The statements of a template and its table. -/
theorem accounts_template {ps qs : List Passage} {set : ExampleSet} {rows : List TemplateRow}
    {es : List Example} (h : expandRows set rows = .ok es)
    (hp : Accounts ps set.statements set.slots) (hq : Accounts qs [] (es.flatMap Example.slots)) :
    Accounts (ps ++ qs) (blockStatements es) (es.flatMap Example.slots) := by
  obtain ⟨hne, hset⟩ := template_of_expandRows h
  obtain ⟨e, rest, rfl⟩ := List.exists_cons_of_ne_nil hne
  have he := hset e List.mem_cons_self
  have hstatements : blockStatements (e :: rest) = set.statements := by
    have hblock : blockSet? (e :: rest) = some set := he
    rw [blockStatements, hblock]
  rw [hstatements, ← List.append_nil set.statements]
  exact (hp.mono (slots_subset_of_exampleSet List.mem_cons_self he)).append hq

theorem disciplined_templateTop :
    Disciplined
      (first (both (both header (titled setKeywords)) statements) (alone examplesKeyword)) :=
  ((disciplined_headed _).both disciplined_statements).first (disciplined_alone _)

/-- A titled template up to its table. -/
theorem spans_templateTop :
    Spans (first (both (both header (titled setKeywords)) statements) (alone examplesKeyword))
      .plain .header fun v ps =>
        Accounts ps v.2 (⟨v.1.1.comments, v.1.1.metadata, none⟩ :: v.2.map Statement.slot) := by
  intro c v n hc hv
  obtain ⟨_, hall, _, _, _, rfl, ⟨ps, qs, rfl, hp, hq⟩, rfl⟩ :=
    ((spans_headed (by simp [setKeywords])).both (disciplined_headed _) spans_statements).first
      ((disciplined_headed _).both disciplined_statements) spans_alone c v n hc hv
  refine ⟨_, hall, .before_table ?_⟩
  exact (hp.mono (by simp)).append (hq.mono (List.subset_cons_self _ _))

/-- **A titled template and its table.** -/
theorem spans_exampleSet :
    Spans exampleSet .plain .plain fun es ps =>
      Accounts ps (blockStatements es) (es.flatMap Example.slots) := by
  intro c es n hc hes
  obtain ⟨⟨⟨⟨front, title⟩, statements⟩, rows⟩, hboth, hcheck⟩ := check_eq_ok.1 hes
  obtain ⟨m, htop, hrows⟩ := both_eq_ok.1 hboth
  have hm : m.Sound := hc.skipBlank.of_reaches (disciplined_templateTop.reaches htop)
  obtain ⟨ps, hps, hp⟩ := spans_templateTop _ _ _ hc.skipBlank htop
  dsimp only at hp hrows hcheck
  split at hcheck
  · cases hcheck
  · obtain ⟨qs, hqs, hq⟩ := accounts_table hm hrows hcheck
    refine ⟨ps ++ qs, ?_, accounts_template hcheck hp hq⟩
    rw [← passages_skipBlank, hps, hqs, List.append_assoc]

/-- A titled example or template. -/
theorem spans_block :
    Spans block .plain .plain fun es ps =>
      Accounts ps (blockStatements es) (es.flatMap Example.slots) := by
  intro c es n hc hes
  rw [← passages_skipBlank]
  rcases orElse_eq_ok.1 hes with hset | ⟨-, hsingle⟩
  · exact spans_exampleSet _ _ _ hc.skipBlank hset
  · obtain ⟨e, he, rfl⟩ := map_eq_ok.1 hsingle
    obtain ⟨htitled, -⟩ := titled_of_singleExample hc.skipBlank he
    have hstatements : blockStatements [e] = e.statements := by
      have hblock : blockSet? [e] = none := htitled.noSet
      rw [blockStatements, hblock]
      simp
    obtain ⟨ps, hps, hp⟩ := spans_singleExample _ _ _ hc.skipBlank he
    exact ⟨ps, hps, by simpa [hstatements] using hp⟩

/-- Titled examples and templates. -/
theorem spans_examples :
    Spans examples .plain .plain fun es ps =>
      Accounts ps (writtenFrom none es) (es.flatMap Example.slots) := by
  intro c es n hc hes
  obtain ⟨blocks, hblocks, rfl⟩ := map_eq_ok.1 hes
  obtain ⟨ps, hps, hp⟩ := spans_block.several disciplined_block _ _ _ hc hblocks
  obtain ⟨hlegible, -⟩ :=
    blocks_of_run hc.skipBlank (by simp [Several.toList]) (several_eq_ok.1 hblocks)
  refine ⟨ps, hps, ?_⟩
  show Accounts ps (writtenFrom none blocks.toList.flatten) _
  rw [writtenFrom_flatten hlegible.block hlegible.follows (by simp),
    List.flatten_eq_flatMap, List.flatMap_assoc]
  exact hp

/-- One example without a title, or a template without a title and its table. -/
theorem spans_inlineExamples :
    Spans inlineExamples .plain .plain fun es ps =>
      Accounts ps (writtenFrom none es) (es.flatMap Example.slots) := by
  intro c es n hc hes
  obtain ⟨⟨statements, rows⟩, hboth, hcheck⟩ := check_eq_ok.1 hes
  obtain ⟨m, hstatements, hrows⟩ := both_eq_ok.1 hboth
  dsimp only at hstatements hrows hcheck
  replace hstatements := statements_of_inlineStatements hstatements
  have hm : m.Sound := hc.skipBlank.of_reaches (disciplined_statements.reaches hstatements)
  obtain ⟨ps, hps, hp⟩ := spans_statements _ _ _ hc.skipBlank hstatements
  rw [passages_skipBlank] at hps
  cases rows with
  | none =>
    dsimp only at hcheck
    split at hcheck
    · cases hcheck
    · cases hcheck
      rcases whenAhead_eq_ok.1 hrows with ⟨-, _, -, heq⟩ | ⟨-, -, rfl⟩
      · cases heq
      · refine ⟨ps, hps, ?_⟩
        simpa [writtenFrom, Example.slots] using hp.mono (List.subset_cons_self _ _)
  | some rows =>
    rcases whenAhead_eq_ok.1 hrows with ⟨-, found, hfound, heq⟩ | ⟨-, heq, -⟩
    · cases heq
      obtain ⟨_, k, halone, htable⟩ := second_eq_ok.1 hfound
      have hk : k.Sound := hm.skipBlank.of_reaches ((disciplined_alone _).reaches halone)
      obtain ⟨_, hkeyword, rfl⟩ := spans_alone _ _ _ hm.skipBlank halone
      obtain ⟨qs, hqs, hq⟩ := accounts_table hk htable hcheck
      obtain ⟨hne, hset⟩ := template_of_expandRows hcheck
      have hwritten : writtenFrom none (es ++ []) = blockStatements es ++ [] :=
        writtenFrom_template hne hset (by simp) []
      rw [List.append_nil, List.append_nil] at hwritten
      refine ⟨ps ++ [⟨.examples, false⟩] ++ qs, ?_, ?_⟩
      · rw [passages_skipBlank] at hkeyword
        rw [hps, hkeyword, hqs, List.append_assoc, List.append_assoc]
      · show Accounts _ (writtenFrom none es) _
        rw [hwritten]
        refine accounts_template hcheck (Accounts.before_table ?_) hq
        exact hp.mono (List.subset_cons_self _ _)
    · cases heq

/-! ## Requirements -/

/-- **A requirement.** -/
theorem spans_requirement :
    Spans requirement .plain .plain fun r ps => Accounts ps r.written r.slots := by
  refine ((spans_headed (by simp [setKeywords])).both (disciplined_headed _)
    (spans_inlineExamples.orElse spans_examples)).map ?_
  rintro ⟨⟨front, title⟩, found⟩ _ ⟨ps, qs, rfl, hp, hq⟩
  dsimp only at hp hq
  rw [Requirement.written, writtenFrom_inherit, Requirement.slots, List.flatMap_map]
  exact (hp.mono (by simp)).append (hq.mono (List.subset_cons_self _ _))

end Grammar.ReqsML

/-- **The account of a source that is accepted.**  It announces the statements of the document, and
everything that is written in it is kept there, unless it stands aside. -/
theorem Document.accounts_of_parse {source : Path} {text : Text} {d : Document}
    (h : Document.parse source .reqsml text = .ok d) :
    Accounts (passages .plain (Line.split text)) d.written d.slots := by
  obtain ⟨rs, n, hrs, rfl⟩ := Document.parse_reqsml_eq_ok.1 h
  obtain ⟨ps, hps, hp⟩ :=
    spans_requirement.several disciplined_requirement _ _ _ (Cursor.sound_ofText text) hrs
  obtain ⟨v, m, hstop⟩ := stop_of_run consuming_requirement (several_eq_ok.1 hrs)
  have hend : passages .plain n.rest = [] := by
    rw [← passages_dropWhile, Cursor.atEnd_iff.1 (finish_eq_ok.1 hstop).1, passages_nil]
  rw [hend, List.append_nil] at hps
  rw [show Line.split text = (Cursor.ofText text).rest from rfl, hps]
  exact hp

end PlainSpec
