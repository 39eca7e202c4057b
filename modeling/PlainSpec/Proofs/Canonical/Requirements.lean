import PlainSpec.Proofs.Canonical.Blocks
import PlainSpec.Proofs.Grammar.Requirements

/-!
# Requirements are read back

What is read from the rows of a requirement differs from it in places only, but for labels that hold
commas, and without such labels it is written as the same rows.  The second half does not follow
from the first: examples are cut into runs by the places of their templates, so the places that are
read must be told apart again.

## Main definitions

* `Canonical.Again`, `Canonical.RequirementAgain`: what is read where examples and a requirement are
  written.

## Main results

* `Canonical.reads_body`: the examples of a requirement are read back.
* `Canonical.reads_requirement`, `Canonical.reads_requirements`: requirements are read back.
-/

namespace PlainSpec

open PlainSpec.Parser Grammar Grammar.ReqsML

/-- The requirement without its place. -/
def Requirement.bare (r : Requirement) : Requirement := r.relabel fun _ => 0

namespace Canonical

/-- The second examples are read where the first ones are written: labels with commas and places
apart they are the same.  Without such labels they are written alike. -/
structure Again (es vs : List Example) : Prop where
  bare : vs.map Example.bare = es.map fun e => e.cut.bare
  rows : (∀ e ∈ es, e.cut = e) → Canonical.examples vs = Canonical.examples es

/-- The second requirement is read where the first one is written. -/
structure RequirementAgain (r v : Requirement) : Prop where
  bare : v.bare = r.cut.bare
  rows : (∀ e ∈ r.examples, e.Uncut) → Canonical.requirement v = Canonical.requirement r

/-! ## Titled examples -/

theorem starts_headed {keywords keywords' : List Text} {m : Metadata} {rows : List Row}
    (h : Row.Headed keywords m rows) (hsub : ∀ keyword ∈ keywords, keyword ∈ titleKeywords)
    (hlead : ∀ keyword ∈ keywords, ∀ title : Text,
      leading? keywords' (keyword ++ ' ' :: title) = some (keyword, ' ' :: title)) :
    Starts (both header (titled keywords')) rows := by
  cases h with
  | @intro front keyword title rest hcomments hlegible hkeyword hneat hne hsolid =>
    have hreads := reads_headed hcomments hlegible (hsub _ hkeyword) hneat hne
      (hlead keyword hkeyword title) hsolid
    have hstarts := hreads.starts
    rwa [List.append_assoc, List.append_assoc, List.singleton_append] at hstarts

theorem exampleTitles_sub : ∀ keyword ∈ exampleTitles, keyword ∈ titleKeywords := by
  simp [exampleTitles, titleKeywords]

/-- The keyword of a requirement. -/
def requirementTitles : List Text := ["Requirement:".toList]

theorem requirementTitles_sub : ∀ keyword ∈ requirementTitles, keyword ∈ titleKeywords := by
  simp [requirementTitles, titleKeywords]

/-- The next requirement starts no example. -/
theorem bars_exampleStart {P : Metadata → Prop} {tail : List Row}
    (h : Row.Ends requirementTitles P tail) : Bars exampleStart tail := by
  refine Bars.map ?_
  rcases h with rfl | ⟨m, -, h⟩
  · have hheader : Reads header (Canonical.comments none ++ metadata none none) [] _ :=
      @reads_header ⟨none, noMetadata⟩ .none legible_noMetadata.writable [] Row.next_nil
    exact .both_right hheader (.line fun l v hahead => nomatch hahead)
  · refine bars_headed h requirementTitles_sub ?_
    simp only [requirementTitles, List.mem_singleton, forall_eq]
    exact fun _ => rfl

/-- What follows a requirement follows its last block. -/
theorem ends_titles {P : Metadata → Prop} {tail : List Row}
    (h : Row.Ends requirementTitles P tail) : Row.Ends titleKeywords P tail := by
  rcases h with rfl | ⟨m, hm, h⟩
  · exact .inl rfl
  · exact .inr ⟨m, hm, h.mono requirementTitles_sub⟩

/-- The examples end in a table if the last block does. -/
theorem endsInTable_of_suffix {b : List Example} {blocks : List (List Example)}
    (h : ExampleBlock b) (hsuffix : [b] <:+ blocks) (hset : (blockSet? b).isSome = true) :
    EndsInTable blocks.flatten := by
  obtain ⟨init, rfl⟩ := hsuffix
  cases h with
  | single h => simp [blockSet?, h.noSet] at hset
  | set h htable =>
    obtain ⟨last, hlast, hend⟩ := htable.endsInTable
    refine ⟨last, ?_, hend⟩
    rw [List.flatten_append, List.flatten_singleton, List.getLast?_append, hlast, Option.some_or]

/-- What follows a block is the next one or the end. -/
theorem ends_blocks {blocks : List (List Example)} (h : LegibleBlocks blocks)
    (hfilled : ∀ b ∈ blocks, ∀ e ∈ b, e.Filled) {tail : List Row}
    (htail : Row.Ends requirementTitles (fun m => EndsInTable blocks.flatten → NoRow m) tail)
    {b : List Example} {next : List (List Example)} (hsuffix : b :: next <:+ blocks) :
    Row.Ends titleKeywords (fun m => (blockSet? b).isSome = true → NoRow m)
      (next.flatMap blockRows ++ tail) := by
  induction next generalizing b with
  | nil =>
    have hb := h.block b (hsuffix.subset List.mem_cons_self)
    exact (ends_titles htail).mono fun m hm hset => hm (endsInTable_of_suffix hb hsuffix hset)
  | cons b' next ih =>
    have hsuffix' : b' :: next <:+ blocks := (List.suffix_cons _ _).trans hsuffix
    have hmem := hsuffix'.subset List.mem_cons_self
    rw [List.flatMap_cons, List.append_assoc]
    exact .inr ⟨blockMetadata b', (h.follows _ _ _ hsuffix).noRow,
      (headed_block (h.block b' hmem) (hfilled b' hmem) (ih hsuffix').opens).mono exampleTitles_sub⟩

/-- Titled examples start with a title. -/
theorem ends_examples {blocks : List (List Example)} (h : LegibleBlocks blocks)
    (hfilled : ∀ b ∈ blocks, ∀ e ∈ b, e.Filled) {tail : List Row}
    (htail : Row.Ends requirementTitles (fun m => EndsInTable blocks.flatten → NoRow m) tail) :
    Row.Ends titleKeywords (fun _ => True) (Canonical.examples blocks.flatten ++ tail) := by
  obtain ⟨b, next, rfl⟩ := List.exists_cons_of_ne_nil h.nonempty
  have hends := ends_blocks h hfilled htail (List.suffix_refl _)
  rw [examples_flatten h, List.flatMap_cons, List.append_assoc]
  have hheaded := headed_block (h.block b List.mem_cons_self) (hfilled b List.mem_cons_self)
    hends.opens
  exact .inr ⟨_, trivial, hheaded.mono exampleTitles_sub⟩

/-- **Titled examples are read back.** -/
theorem reads_examples {blocks : List (List Example)} (h : LegibleBlocks blocks)
    (hfilled : ∀ b ∈ blocks, ∀ e ∈ b, e.Filled) {tail : List Row}
    (htail : Row.Ends requirementTitles (fun m => EndsInTable blocks.flatten → NoRow m) tail) :
    Reads ReqsML.examples (Canonical.examples blocks.flatten) tail (Again blocks.flatten) := by
  -- the blocks behind one block are a suffix, which is what the run of the parser sees
  have helement : ∀ b next, b :: next <:+ blocks →
      Reads ReqsML.block (blockRows b) (next.flatMap blockRows ++ tail)
        (List.map Example.bare · = (fun b : List Example => b.map fun e => e.cut.bare) b) := by
    intro b next hsuffix
    have hmem := hsuffix.subset List.mem_cons_self
    exact reads_block (h.block b hmem) (hfilled b hmem) (ends_blocks h hfilled htail hsuffix)
  have hstarts : ∀ b next, b :: next <:+ blocks →
      Starts exampleStart (blockRows b ++ (next.flatMap blockRows ++ tail)) := by
    intro b next hsuffix
    have hmem := hsuffix.subset List.mem_cons_self
    have hheaded := headed_block (h.block b hmem) (hfilled b hmem)
      (ends_blocks h hfilled htail hsuffix).opens
    refine Starts.map (starts_headed hheaded exampleTitles_sub ?_)
    simp only [exampleTitles, List.mem_cons, List.not_mem_nil, or_false,
      forall_eq_or_imp, forall_eq]
    exact ⟨fun _ => rfl, fun _ => rfl⟩
  intro c hc
  rw [examples_flatten h] at hc
  obtain ⟨vs, n, hrun, hview, hn⟩ :=
    Reads.runWhile consuming_block helement hstarts (bars_exampleStart htail) hc.skipBlank
  have hne : vs ≠ [] := by
    rintro rfl
    exact h.nonempty (by simpa using hview.symm)
  obtain ⟨hlegible, -⟩ := blocks_of_run hc.sound.skipBlank hne hrun
  refine ⟨vs.flatten, n, ?_, ⟨?_, ?_⟩, hn⟩
  · obtain ⟨v, vs, rfl⟩ := List.exists_cons_of_ne_nil hne
    exact map_eq_ok.2 ⟨⟨v, vs⟩, several_eq_ok.2 hrun, rfl⟩
  · rw [List.map_flatten, List.map_flatten, hview]
  · intro hcut
    have hsame : vs.map (List.map Example.bare) = blocks.map (List.map Example.bare) := by
      refine hview.trans (List.map_congr_left fun b hb => List.map_congr_left fun e he => ?_)
      rw [hcut e (List.mem_flatten.2 ⟨b, hb, he⟩)]
    have hrows (bs : List (List Example)) :
        bs.flatMap blockRows = (bs.map (List.map Example.bare)).flatMap blockRows := by
      rw [List.flatMap_map]
      simp only [blockRows_bare]
    rw [examples_flatten hlegible, examples_flatten h, hrows vs, hsame, ← hrows]

/-! ## Examples without titles -/

/-- Statements without metadata in front are read back. -/
theorem reads_inlineStatements {ss : List Statement} (hne : ss ≠ []) (h : ∀ s ∈ ss, s.Printable)
    {tail : List Row} (htail : Row.Opens EndsStatements tail) :
    Reads inlineStatements (Canonical.statements ss) tail
      fun vs => vs.map Statement.bare = ss.map Statement.bare := by
  intro c hc
  obtain ⟨vs, n, hvs, hq, hn⟩ := reads_statements hne h htail c hc
  obtain ⟨cs, t, more, heq, hcs, htrim, kind, after, ht⟩ :=
    exists_statements hne h (htail.mono fun t ht => ht.toEndsBullets)
  have hplain : Plain t.trim := by
    obtain ⟨hfresh, hcomment, -⟩ := fresh_keyword kind (':' :: after)
    obtain ⟨c', word, hword, hc'⟩ := head_keyword kind
    rw [htrim, ht]
    refine ⟨hfresh.nonempty, hcomment, ?_⟩
    rw [hword]
    refine Text.startsWith_cons ?_ _ _
    rintro rfl
    simp at hc'
  have hheader : Reads header (Canonical.comments cs ++ metadata none none) (.text t :: more) _ :=
    @reads_header ⟨cs, noMetadata⟩ hcs legible_noMetadata.writable _ (Row.next_text.2 hplain)
  rw [heq] at hc
  obtain ⟨front, m, hfront, rfl, -⟩ := hheader c (by simpa [metadata, metadata?] using hc)
  refine ⟨vs, n, ?_, hq, hn⟩
  unfold inlineStatements
  rw [hfront]
  exact hvs

/-- Rows that start no statements hold no examples without titles. -/
theorem bars_inlineExamples {rows : List Row} (h : Row.Opens EndsStatements rows) :
    Bars inlineExamples rows := by
  have hstatements : Bars ReqsML.statements rows := by
    refine Bars.map fun c hc vs n hvs => ?_
    have hrun := several_eq_ok.1 hvs
    have hbars := bars_keyword h _ hc.skipBlank.skipBlank
    have hrefuses : Refuses (orElse finish (absent (statementStart commentMark keywordLine)))
        c.skipBlank := by
      obtain ⟨v, rest⟩ := vs
      cases hrun with
      | step hs => exact hs
      | stuck hs => exact hs
    rw [refuses_unless] at hrefuses
    obtain ⟨-, v, m, hv⟩ := hrefuses
    exact hbars v m hv
  have hinline : Bars inlineStatements rows := fun c hc v n hv =>
    hstatements c hc v n (statements_of_inlineStatements hv)
  exact fun c hc => (hinline.both_left.check) c hc

/-- Behind a requirement stands no keyword of a table. -/
theorem ends_examplesKeyword {P : Metadata → Prop} {tail : List Row}
    (h : Row.Ends requirementTitles P tail) :
    ∀ l : Line, Row.ahead? tail = some l.trimmed → startsExamples l = false := by
  have hnext : Row.Next (fun t => t.startsWith "Examples:".toList = false) tail := by
    rcases h with rfl | ⟨m, -, h⟩
    · exact Row.next_nil
    · cases h with
      | @intro front keyword title rest hcomments hlegible hkeyword hneat hne hsolid =>
        obtain ⟨htrim, -⟩ := title_ends (requirementTitles_sub _ hkeyword) hneat hne
        refine next_comments hcomments (fun rest => Text.startsWith_cons (by decide) _ _)
          (next_metadata hlegible (fun t ht => ?_) (Row.next_text.2 ?_))
        · obtain ⟨-, after, rfl⟩ := neat_metadata? hlegible ht
          exact Text.startsWith_cons (by decide) _ _
        · rw [htrim, List.mem_singleton.1 hkeyword]
          exact Text.startsWith_cons (by decide) _ _
  exact fun l hl => hnext _ hl

/-- An example with nothing but statements. -/
def inlineExample (statements : List Statement) : Example where
  comments := none
  identifier := none
  labels := none
  explicitLabels := none
  description := none
  statements := statements
  exampleSet := none
  specification := none

/-- **An example without a title is read back.** -/
theorem reads_inline {e : Example} (h : e.Inline) (hfilled : e.Filled) {P : Metadata → Prop}
    {tail : List Row} (htail : Row.Ends requirementTitles P tail) :
    Reads inlineExamples (Canonical.examples [e]) tail (Again [e]) := by
  have hrows : Canonical.examples [e] = Canonical.statements e.statements := by
    rw [examples_single h.noSet, singleExample_inline h]
  have hreads := (reads_inlineStatements h.nonempty (h.printable hfilled)
    (ends_titles htail).opens).both
      (Reads.whenAhead_none (p := second (alone examplesKeyword) exampleRows)
        (ends_examplesKeyword htail))
  rw [List.append_nil] at hreads
  rw [hrows]
  intro c hc
  obtain ⟨⟨statements, rows⟩, n, hread, ⟨hss, hnone⟩, hn⟩ := hreads c hc
  dsimp only at hss hnone
  subst hnone
  have htokens : (templated? statements).isSome = false := by
    rw [isSome_templated?_congr hss, h.noTokens]
    rfl
  have hbare : (inlineExample statements).bare = e.cut.bare := by
    rw [h.bare_eq, h.noComments, h.noIdentifier, h.noLabels, h.noTitle, ← hss]
    rfl
  refine ⟨[inlineExample statements], n, check_eq_ok.2 ⟨_, hread, ?_⟩, ⟨?_, ?_⟩, hn⟩
  · dsimp only
    rw [htokens]
    rfl
  · rw [List.map_singleton, List.map_singleton, hbare]
  · intro hcut
    rw [hcut e (List.mem_singleton_self e)] at hbare
    rw [examples_single rfl, examples_single h.noSet, ← singleExample_bare, hbare,
      singleExample_bare]

/-- **A template without a title, and its table, are read back.** -/
theorem reads_template {set : ExampleSet} {es : List Example} (h : set.Written)
    (hbare : isBare set = true) (htable : FromTable set es) (hfilled : ∀ e ∈ es, e.Filled)
    {tail : List Row} (htail : Row.Ends titleKeywords NoRow tail) :
    Reads inlineExamples (Canonical.examples es) tail (Again es) := by
  obtain ⟨lines, hlines⟩ := exists_printsTable htable
  have hprintable := htable.printable h hfilled
  obtain ⟨table, htableRows⟩ : ∃ table : List Row,
    table = .blank :: (Row.indent (examplesTable es) ++ [.blank]) := ⟨_, rfl⟩
  have hsolid : Row.Solid (table ++ tail) := htableRows ▸ solid_table hlines htail.solid
  have hrows : Reads exampleRows table tail _ :=
    htableRows ▸ reads_table hlines htail.solid htail.bars_exampleRow
  have hoptional : Reads optionalRows ([.text "Examples:".toList] ++ table) tail _ :=
    ((reads_examplesKeyword hsolid).second hrows).whenAhead_some (t := "Examples:".toList) (by
      have htrim : Text.trim "Examples:".toList = "Examples:".toList := by decide
      rw [List.append_assoc, List.singleton_append, Row.ahead?_text, htrim])
      fun l hl => by rw [startsExamples, hl]; decide
  have hreads := (reads_inlineStatements h.nonempty hprintable
    (opens_examplesKeyword (table ++ tail))).both hoptional
  have hwritten : Canonical.examples es = Canonical.statements set.statements ++
      ([.text "Examples:".toList] ++ table) := by
    rw [examples_template hbare htable.ne_nil htable.blockSet?.2, template, htableRows]
    simp
  intro c hc
  rw [hwritten] at hc
  obtain ⟨⟨statements, found⟩, n, hread, ⟨hss, rows, hsome, hrs⟩, hn⟩ := hreads c hc
  dsimp only at hss hsome hrs
  subst hsome
  obtain ⟨set', hset'⟩ : ∃ set' : ExampleSet,
    set' = ⟨none, none, none, none, statements, some c.lineNumber⟩ := ⟨_, rfl⟩
  have hsame : set'.bare = set.bare ∧ set.cut = set := by
    simp only [isBare, Bool.and_eq_true, Option.isNone_iff_eq_none] at hbare
    obtain ⟨⟨⟨hcomments, hidentifier⟩, hlabels⟩, hdescription⟩ := hbare
    refine ⟨?_, by rw [ExampleSet.cut, hlabels, Labels.cut, Option.map_none, ← hlabels]⟩
    rw [hset']
    exact ExampleSet.bare_eq h.placed rfl hcomments.symm hidentifier.symm hlabels.symm
      hdescription.symm hss
  obtain ⟨es', hexpand, hes⟩ := hlines.expand set' rows (by rw [hsame.1, hsame.2]) hrs
  have hread' : inlineExamples c = .ok es' n := by
    refine check_eq_ok.2 ⟨_, hread, ?_⟩
    rw [hset'] at hexpand
    exact hexpand
  refine ⟨es', n, hread', ⟨hes, ?_⟩, hn⟩
  obtain ⟨header, separator, values, -, hne, -, -, hes'⟩ := expandRows_eq_ok.1 hexpand
  have hall : ∀ e ∈ es', e.exampleSet = some set' := by
    rw [hes']
    intro e he
    obtain ⟨row, -, rfl⟩ := List.mem_map.1 he
    rfl
  have hfilled' : es' ≠ [] := by simpa [hes'] using hne
  have hbare' : isBare set' = true := by
    rw [hset']
    rfl
  intro hcut
  have hes : es'.map Example.bare = es.map Example.bare :=
    hes.trans (List.map_congr_left fun e he => by rw [hcut e he])
  rw [examples_template hbare' hfilled' hall,
    examples_template hbare htable.ne_nil htable.blockSet?.2, ← template_bare, hsame.1, hes,
    template_bare]

/-! ## Requirements -/

/-- **The examples of a requirement are read back.** -/
theorem reads_body {blocks : List (List Example)} (h : Body blocks)
    (hfilled : ∀ e ∈ blocks.flatten, e.Filled) {tail : List Row}
    (htail : Row.Ends requirementTitles (fun m => EndsInTable blocks.flatten → NoRow m) tail) :
    Reads (orElse inlineExamples ReqsML.examples) (Canonical.examples blocks.flatten) tail
      (Again blocks.flatten) := by
  cases h with
  | @inline e h => exact .orElse_left (reads_inline h (hfilled e (by simp)) htail)
  | @template set es h hbare htable =>
    simp only [List.flatten_singleton] at hfilled htail ⊢
    exact .orElse_left (reads_template h hbare htable hfilled
      ((ends_titles htail).mono fun m hm => hm htable.endsInTable))
  | titled h =>
    have hfilled' : ∀ b ∈ blocks, ∀ e ∈ b, e.Filled := fun b hb e he =>
      hfilled e (List.mem_flatten.2 ⟨b, hb, he⟩)
    exact .orElse_right (bars_inlineExamples (ends_examples h hfilled' htail).opens)
      (reads_examples h hfilled' htail)

theorem solid_body {blocks : List (List Example)} (h : Body blocks)
    (hfilled : ∀ e ∈ blocks.flatten, e.Filled) {tail : List Row}
    (htail : Row.Ends requirementTitles (fun m => EndsInTable blocks.flatten → NoRow m) tail) :
    Row.Solid (Canonical.examples blocks.flatten ++ tail) := by
  cases h with
  | @inline e h =>
    rw [List.flatten_singleton, examples_single h.noSet, singleExample_inline h]
    exact solid_statements h.nonempty (h.printable (hfilled e (by simp)))
      ((ends_titles htail).opens.mono fun t ht => ht.toEndsBullets)
  | @template set es h hbare htable =>
    rw [List.flatten_singleton] at hfilled ⊢
    rw [examples_template hbare htable.ne_nil htable.blockSet?.2, template, List.append_assoc,
      List.append_assoc]
    exact solid_statements h.nonempty (htable.printable h hfilled)
      ((opens_examplesKeyword _).mono fun t ht => ht.toEndsBullets)
  | titled h =>
    exact (ends_examples h
      (fun b hb e he => hfilled e (List.mem_flatten.2 ⟨b, hb, he⟩)) htail).solid

theorem headed_requirement {r : Requirement} (h : r.Legible) {tail : List Row}
    (hsolid : Row.Solid (Canonical.examples r.examples ++ tail)) :
    Row.Headed requirementTitles ⟨r.identifier, r.explicitLabels⟩
      (Canonical.requirement r ++ tail) := by
  have hrows : Canonical.requirement r ++ tail =
      Canonical.comments r.comments ++ (metadata r.identifier r.explicitLabels ++
        .text ("Requirement:".toList ++ ' ' :: r.description) ::
          .blank :: (Row.indent (Canonical.examples r.examples) ++ tail)) := by
    simp [Canonical.requirement]
  rw [hrows]
  refine @Row.Headed.intro _ ⟨r.comments, r.identifier, r.explicitLabels⟩ _ _ _ h.comments
    h.metadata.writable (by simp [requirementTitles]) h.title.1 h.title.2 ?_
  rw [Row.solid_blank]
  exact solid_indent hsolid

/-- **A requirement is read back.** -/
theorem reads_requirement {r : Requirement} (h : r.Legible) (hfilled : ∀ e ∈ r.examples, e.Filled)
    {tail : List Row}
    (htail : Row.Ends requirementTitles (fun m => EndsInTable r.examples → NoRow m) tail) :
    Row.Solid (Canonical.examples r.examples ++ tail) ∧
      Reads ReqsML.requirement (Canonical.requirement r) tail (RequirementAgain r) := by
  obtain ⟨blocks, hbody, hexamples⟩ := h.body
  have hfilled' : ∀ e ∈ blocks.flatten, e.Filled := by
    intro e he
    exact hfilled (inherit r.labels e) (hexamples ▸ List.mem_map_of_mem he)
  have htail' :
      Row.Ends requirementTitles (fun m => EndsInTable blocks.flatten → NoRow m) tail := by
    refine htail.mono fun m hm hends => hm ?_
    rw [hexamples]
    exact endsInTable_inherit.2 hends
  have hwritten : Canonical.examples r.examples = Canonical.examples blocks.flatten := by
    rw [hexamples, examples_inherit]
  have hsolid := solid_body hbody hfilled' htail'
  rw [← hwritten] at hsolid
  refine ⟨hsolid, ?_⟩
  have hreads := reads_body hbody hfilled' htail'
  rw [← hwritten] at hreads
  have hheaded := @reads_headed ⟨r.comments, r.identifier, r.explicitLabels⟩ ["Requirement:".toList]
    "Requirement:".toList r.description h.comments h.metadata.writable
      (by decide) h.title.1 h.title.2
    rfl (.blank :: Row.indent (Canonical.examples r.examples) ++ tail) (solid_indent hsolid)
  rw [Header.cut, h.metadata.cut_eq] at hheaded
  have hrows : Canonical.requirement r =
      Canonical.comments r.comments ++ metadata r.identifier r.explicitLabels ++
          [.text ("Requirement:".toList ++ ' ' :: r.description)] ++
        (.blank :: Row.indent (Canonical.examples r.examples)) := by
    simp [Canonical.requirement]
  have hboth := hheaded.both hreads.indent.blank_left
  rw [← hrows] at hboth
  refine hboth.map ?_
  rintro ⟨⟨front, title⟩, vs⟩ ⟨hfront, hagain⟩
  cases hfront
  refine ⟨?_, fun huncut => ?_⟩
  · have hes : (vs.map (inherit r.explicitLabels)).map Example.bare =
        r.cut.examples.map Example.bare :=
      calc (vs.map (inherit r.explicitLabels)).map Example.bare
          = (vs.map Example.bare).map (inherit r.explicitLabels) := by
            rw [List.map_map, List.map_map]
            rfl
        _ = (blocks.flatten.map fun e => e.cut.bare).map (inherit r.labels) := by
            rw [hagain.bare, h.labels_eq]
        _ = r.cut.examples.map Example.bare := by
            rw [Requirement.cut, hexamples, List.map_map, List.map_map, List.map_map]
            rfl
    simp only [Requirement.bare, Requirement.relabel, Requirement.mk.injEq]
    exact ⟨rfl, rfl, h.labels_eq.symm, rfl, rfl, hes⟩
  · simp only [Canonical.requirement, examples_inherit]
    rw [hagain.rows (hbody.cut_eq (hexamples ▸ huncut)), hwritten]

theorem map_bare_of_again {rs vs : List Requirement} (h : List.Forall₂ RequirementAgain rs vs) :
    vs.map Requirement.bare = rs.map fun r => r.cut.bare := by
  induction h with
  | nil => rfl
  | cons h _ ih => rw [List.map_cons, List.map_cons, h.bare, ih]

theorem rows_of_again {rs vs : List Requirement} (h : List.Forall₂ RequirementAgain rs vs)
    (huncut : ∀ r ∈ rs, ∀ e ∈ r.examples, e.Uncut) :
    vs.flatMap Canonical.requirement = rs.flatMap Canonical.requirement := by
  induction h with
  | nil => rfl
  | cons h _ ih =>
    obtain ⟨hhead, htail⟩ := List.forall_mem_cons.1 huncut
    rw [List.flatMap_cons, List.flatMap_cons, h.rows hhead, ih htail]

/-- The requirements of a document that is written. -/
structure PrintableRequirements (rs : List Requirement) : Prop extends LegibleRequirements rs where
  filled : ∀ r ∈ rs, ∀ e ∈ r.examples, e.Filled

/-- What follows a requirement is the next one or the end. -/
theorem ends_requirements {rs : List Requirement} (h : PrintableRequirements rs) {r : Requirement}
    {next : List Requirement} (hsuffix : r :: next <:+ rs) :
    Row.Ends requirementTitles (fun m => EndsInTable r.examples → NoRow m)
      (next.flatMap Canonical.requirement ++ []) := by
  induction next generalizing r with
  | nil => exact .inl rfl
  | cons s next ih =>
    have hsuffix' : s :: next <:+ rs := (List.suffix_cons _ _).trans hsuffix
    have hmem := hsuffix'.subset List.mem_cons_self
    rw [List.flatMap_cons, List.append_assoc]
    exact .inr ⟨_, h.noRow _ _ _ hsuffix, headed_requirement (h.legible s hmem)
      (reads_requirement (h.legible s hmem) (h.filled s hmem) (ih hsuffix')).1⟩

theorem solid_requirements {rs : List Requirement} (h : PrintableRequirements rs) :
    Row.Solid (rs.flatMap Canonical.requirement) := by
  obtain ⟨r, next, rfl⟩ := List.exists_cons_of_ne_nil h.nonempty
  have hends := ends_requirements h (List.suffix_refl _)
  have hheaded := headed_requirement (h.legible r List.mem_cons_self)
    (reads_requirement (h.legible r List.mem_cons_self) (h.filled r List.mem_cons_self) hends).1
  have hsolid := (ends_titles (P := fun _ => True) (.inr ⟨_, trivial, hheaded⟩)).solid
  simpa using hsolid

/-- **All requirements are read back.** -/
theorem reads_requirements {rs : List Requirement} (h : PrintableRequirements rs) :
    Reads ReqsML.requirements (rs.flatMap Canonical.requirement) []
      fun vs => List.Forall₂ RequirementAgain rs vs.toList := by
  have helement : ∀ r next, r :: next <:+ rs →
      Reads ReqsML.requirement (Canonical.requirement r) (next.flatMap Canonical.requirement ++ [])
        (RequirementAgain r) := by
    intro r next hsuffix
    have hmem := hsuffix.subset List.mem_cons_self
    exact (reads_requirement (h.legible r hmem) (h.filled r hmem) (ends_requirements h hsuffix)).2
  have hgoes : ∀ r next, r :: next <:+ rs →
      Bars finish (Canonical.requirement r ++ (next.flatMap Canonical.requirement ++ [])) := by
    intro r next hsuffix c hc v n hv
    obtain ⟨w, m, hw⟩ := (helement r next hsuffix).starts c hc
    have hend := consuming_requirement.not_atEnd hw
    rw [(finish_eq_ok.1 hv).1] at hend
    cases hend
  have hstop : Starts finish [] := fun c hc => ⟨(), _, finish_eq_ok.2 ⟨hc.atEnd, rfl⟩⟩
  intro c hc
  obtain ⟨vs, n, hrun, hall, hn⟩ :=
    Reads.run consuming_requirement helement hgoes hstop hc.skipBlank
  cases hall with
  | nil => exact absurd rfl h.nonempty
  | @cons _ v _ vs hv hall => exact ⟨⟨v, vs⟩, n, several_eq_ok.2 hrun, .cons hv hall, hn⟩

end Canonical

end PlainSpec
