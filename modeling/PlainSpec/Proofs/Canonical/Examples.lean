import PlainSpec.Proofs.Canonical.ExamplesTable

/-!
# Examples are read back

A titled example or template is read back in front of everything that can follow it: another one,
the next requirement, or nothing.  Behind a table the metadata of what follows must not look like a
row of it, which is known of everything that was read.

## Main definitions

* `Row.Headed`: rows that start with comments, metadata and a title.
* `Row.Ends`: the next construct, or the end.
* `Example.printed`: the statements that are written for an example.
* `Canonical.blockRows`: the rows of examples that were written together.

## Main results

* `Canonical.reads_singleExample`, `Canonical.reads_exampleSet`, `Canonical.reads_block`: the
  written forms.
-/

namespace PlainSpec

open PlainSpec.Parser Grammar Grammar.ReqsML

/-! ## What can follow examples -/

/-- The keywords of titles that can follow an example. -/
def titleKeywords : List Text := ["Requirement:".toList, "Example:".toList, "Example Set:".toList]

/-- The rows start with comments, metadata and a title. -/
inductive Row.Headed (keywords : List Text) : Metadata → List Row → Prop where
  /-- A header and a line with a title, and what follows. -/
  | intro {front : Header} {keyword title : Text} {rest : List Row}
      (hcomments : LegibleComments front.comments) (hmetadata : front.metadata.Writable)
      (hkeyword : keyword ∈ keywords) (htitle : title.Neat) (hne : title ≠ [])
      (hsolid : Row.Solid rest) :
      Headed keywords front.metadata
        (Canonical.comments front.comments ++
          (Canonical.metadata front.metadata.identifier front.metadata.labels ++
            .text (keyword ++ ' ' :: title) :: rest))

/-- The next construct, with a condition on its metadata, or the end. -/
def Row.Ends (keywords : List Text) (P : Metadata → Prop) (rows : List Row) : Prop :=
  rows = [] ∨ ∃ m, P m ∧ Row.Headed keywords m rows

namespace Canonical

/-- The word in front of the colon of a title is no keyword of a statement. -/
theorem not_statement_title {keyword : Text} (hkeyword : keyword ∈ titleKeywords) (title : Text)
    (v : StatementKind × Text) : readKeyword (keyword ++ ' ' :: title) ≠ .ok v := by
  intro h
  simp only [titleKeywords, List.mem_cons, List.not_mem_nil, or_false] at hkeyword
  rcases hkeyword with rfl | rfl | rfl
  · cases h
  · cases h
  · cases h

/-- A row starts with a pipe or with metadata. -/
theorem not_row_cons {c : Char} (hblank : isBlank c = false) (hpipe : c ≠ '|') (hmark : c ≠ '#')
    (rest : Text) (v : Metadata × List Text) : readExampleRow (c :: rest) ≠ .ok v := by
  have hfront : (Text.cutAt (· == '|') (c :: rest)).1 = c :: rest.takeWhile (!· == '|') := by
    simp [Text.cutAt, hpipe]
  have hstarts (t : Text) : Text.startsWith (c :: t) ['#'] = false :=
    Text.startsWith_cons hmark.symm _ _
  simp [readExampleRow, hfront, Text.trim_cons hblank, hstarts]

/-- The line of a title ends everything in front of it. -/
theorem title_ends {keyword : Text} (hkeyword : keyword ∈ titleKeywords) {title : Text}
    (htitle : title.Neat) (hne : title ≠ []) :
    Text.trim (keyword ++ ' ' :: title) = keyword ++ ' ' :: title ∧
      EndsStatements (keyword ++ ' ' :: title) ∧ Plain (keyword ++ ' ' :: title) ∧
      ∀ v, readExampleRow (keyword ++ ' ' :: title) ≠ .ok v := by
  have hstatement := not_statement_title hkeyword title
  -- everything but the test for a statement is decided by the first letter
  obtain ⟨c, word, rfl, hc⟩ : ∃ c word, keyword = c :: word ∧ c ∈ ['R', 'E'] := by
    simp only [titleKeywords, List.mem_cons, List.not_mem_nil, or_false] at hkeyword
    rcases hkeyword with rfl | rfl | rfl
    · exact ⟨'R', _, rfl, by decide⟩
    · exact ⟨'E', _, rfl, by decide⟩
    · exact ⟨'E', _, rfl, by decide⟩
  simp only [List.mem_cons, List.not_mem_nil, or_false] at hc
  have hblank : isBlank c = false := by rcases hc with rfl | rfl <;> rfl
  have hother {d : Char} (hd : d ∉ ['R', 'E']) : c ≠ d := by
    rintro rfl
    simp [hc] at hd
  have htrim : Text.trim (c :: word ++ [' '] ++ title) = c :: word ++ [' '] ++ title :=
    htitle.trim_append hne rfl hblank
  rw [List.append_assoc, List.singleton_append] at htrim
  have hfresh : Row.Fresh (c :: word ++ ' ' :: title) :=
    Row.fresh_cons (by simp [hother]) _
  refine ⟨htrim, ⟨⟨hfresh, fun v hv => ?_⟩, hstatement⟩, ⟨List.cons_ne_nil _ _, ?_, ?_⟩, ?_⟩
  · have hmark : c ∉ bulletMarks := by rcases hc with rfl | rfl <;> decide
    simp [readBullet, hmark] at hv
  · exact Text.startsWith_cons (hother (by decide)).symm _ _
  · exact Text.startsWith_cons (hother (by decide)).symm _ _
  · exact not_row_cons hblank (hother (by decide)) (hother (by decide)) _

theorem metadata_ends (rest : Text) : EndsStatements ('#' :: rest) := by
  refine ⟨⟨Row.fresh_cons (by decide) _, fun v hv => ?_⟩, fun v hv => ?_⟩
  · simp [readBullet, bulletMarks] at hv
  · obtain ⟨after, heq, -⟩ := exists_of_readKeyword hv
    obtain ⟨c, word, hword, hc⟩ := head_keyword v.1
    rw [hword] at heq
    obtain rfl : '#' = c := (List.cons.inj heq).1
    simp at hc

end Canonical

namespace Row

variable {P : Metadata → Prop} {m : Metadata} {rows : List Row}

theorem Headed.mono {keywords keywords' : List Text} (h : Headed keywords m rows)
    (hsub : ∀ keyword ∈ keywords, keyword ∈ keywords') : Headed keywords' m rows := by
  cases h with
  | intro hcomments hmetadata hkeyword htitle hne hsolid =>
    exact .intro hcomments hmetadata (hsub _ hkeyword) htitle hne hsolid

/-- The line behind the comments is metadata or a title. -/
theorem Headed.opens {Q : Text → Prop} (h : Headed titleKeywords m rows)
    (hmetadata : ∀ t, Canonical.metadata? m.identifier m.labels = some t → Q t)
    (htitle : ∀ keyword ∈ titleKeywords, ∀ title : Text, title.Neat → title ≠ [] →
      Q (keyword ++ ' ' :: title)) : Opens Q rows := by
  cases h with
  | @intro front keyword title rest hcomments hlegible hkeyword hneat hne hsolid =>
    unfold Canonical.metadata
    cases ht : Canonical.metadata? front.metadata.identifier front.metadata.labels with
    | none =>
      obtain ⟨htrim, -, hplain, -⟩ := Canonical.title_ends hkeyword hneat hne
      refine .part hcomments ?_ ?_
      · rw [htrim]
        exact hplain.noComment
      · rw [htrim]
        exact htitle keyword hkeyword title hneat hne
    | some t =>
      have hQ := hmetadata t ht
      obtain ⟨ht, after, rfl⟩ := Canonical.neat_metadata? hlegible ht
      refine .part hcomments ?_ ?_
      · rw [ht.trim_eq]
        exact Text.startsWith_cons (by decide) _ _
      · rw [ht.trim_eq]
        exact hQ

theorem Ends.mono {keywords : List Text} {Q : Metadata → Prop} (h : Ends keywords P rows)
    (hPQ : ∀ m, P m → Q m) : Ends keywords Q rows := by
  rcases h with rfl | ⟨m, hm, h⟩
  · exact .inl rfl
  · exact .inr ⟨m, hPQ m hm, h⟩

/-- **What follows continues no statements.** -/
theorem Ends.opens (h : Ends titleKeywords P rows) : Opens Canonical.EndsStatements rows := by
  rcases h with rfl | ⟨m, -, h⟩
  · exact .done
  · refine h.opens (fun t ht => ?_) fun keyword hkeyword title hneat hne =>
      (Canonical.title_ends hkeyword hneat hne).2.1
    cases h with
    | intro _ hlegible =>
      obtain ⟨-, after, rfl⟩ := Canonical.neat_metadata? hlegible ht
      exact Canonical.metadata_ends after

theorem Ends.solid (h : Ends titleKeywords P rows) : Solid rows :=
  h.opens.solid fun _ ht => ht.nonempty

/-- **What follows continues no table.** -/
theorem Ends.bars_exampleRow (h : Ends titleKeywords NoRow rows) : Bars exampleRow rows := by
  have hopens : Opens (fun t => t ≠ [] ∧ ∀ v, readExampleRow t ≠ .ok v) rows := by
    rcases h with rfl | ⟨m, hno, h⟩
    · exact .done
    · refine h.opens (fun t ht => ⟨?_, hno t ht⟩) fun keyword hkeyword title hneat hne => ?_
      · cases h with
        | intro _ hlegible =>
          obtain ⟨-, after, rfl⟩ := Canonical.neat_metadata? hlegible ht
          exact List.cons_ne_nil _ _
      · obtain ⟨-, -, hplain, hrow⟩ := Canonical.title_ends hkeyword hneat hne
        exact ⟨hplain.nonempty, hrow⟩
  refine Bars.map (hopens.bars (fun t ht => ht.1) fun l v hl hv => ?_)
  obtain ⟨found, hr, -⟩ := Except.map_eq_ok.1 hv
  exact hl.2 found hr

end Row

theorem ExampleSet.bare_eq {set set' : ExampleSet} (hset : set.line.isSome = true)
    (hset' : set'.line.isSome = true) (hcomments : set'.comments = set.comments)
    (hidentifier : set'.identifier = set.identifier) (hlabels : set'.labels = set.labels)
    (hdescription : set'.description = set.description)
    (hstatements : set'.statements.map Statement.bare = set.statements.map Statement.bare) :
    set'.bare = set.bare := by
  obtain ⟨n, hn⟩ := Option.isSome_iff_exists.1 hset
  obtain ⟨m, hm⟩ := Option.isSome_iff_exists.1 hset'
  have hline : set'.line.map (fun _ => 0) = set.line.map fun _ => 0 := by
    rw [hn, hm]
    rfl
  exact ExampleSet.mk.injEq .. ▸ ⟨hcomments, hidentifier, hlabels, hdescription, hstatements, hline⟩

/-- An example that was not made from a table, as it is read again, without its place. -/
theorem Example.Written.bare_eq {e : Example} (h : e.Written) :
    e.cut.bare =
      { comments := e.comments
        identifier := e.identifier
        labels := e.explicitLabels.cut
        explicitLabels := e.explicitLabels.cut
        description := e.description
        statements := e.statements.map Statement.bare
        exampleSet := none
        specification := none } := by
  rw [Example.bare, Example.relabel, Example.cut, setLabels, h.noSet, h.noRow]
  rfl

namespace Canonical

/-! ## Headers and titles -/

/-- **Comments, metadata and a title are read back.** -/
theorem reads_headed {front : Header} {keywords : List Text} {keyword title : Text}
    (hcomments : LegibleComments front.comments) (hmetadata : front.metadata.Writable)
    (hkeyword : keyword ∈ titleKeywords) (htitle : title.Neat) (hne : title ≠ [])
    (hlead : leading? keywords (keyword ++ ' ' :: title) = some (keyword, ' ' :: title))
    {tail : List Row} (hs : Row.Solid tail) :
    Reads (both header (titled keywords))
      (Canonical.comments front.comments ++
        metadata front.metadata.identifier front.metadata.labels ++
          [.text (keyword ++ ' ' :: title)]) tail (· = (front.cut, title)) := by
  obtain ⟨htrim, -, hplain, -⟩ := title_ends hkeyword htitle hne
  have hhead : ∃ c, keyword.head? = some c ∧ isBlank c = false := by
    simp only [titleKeywords, List.mem_cons, List.not_mem_nil, or_false] at hkeyword
    rcases hkeyword with rfl | rfl | rfl <;> exact ⟨_, rfl, by decide⟩
  refine ((reads_header hcomments hmetadata (Row.next_text.2 (htrim.symm ▸ hplain))).both
    (reads_titled htitle hne hhead hlead hs)).mono ?_
  rintro ⟨found, text⟩ ⟨hfound, htext⟩
  exact Prod.ext hfound htext

/-- Another title is refused. -/
theorem bars_headed {keywords keywords' : List Text} {m : Metadata} {rows : List Row}
    (h : Row.Headed keywords m rows) (hsub : ∀ keyword ∈ keywords, keyword ∈ titleKeywords)
    (hlead : ∀ keyword ∈ keywords, ∀ title : Text,
      leading? keywords' (keyword ++ ' ' :: title) = none) :
    Bars (both header (titled keywords')) rows := by
  cases h with
  | @intro front keyword title rest hcomments hlegible hkeyword hneat hne hsolid =>
    obtain ⟨htrim, -, hplain, -⟩ := title_ends (hsub _ hkeyword) hneat hne
    rw [← List.append_assoc]
    refine .both_right (reads_header hcomments hlegible (Row.next_text.2 (htrim.symm ▸ hplain))) ?_
    refine .line fun l v hahead hread => ?_
    rw [Row.ahead?_text, htrim, Option.some.injEq] at hahead
    rw [readTitle, ← hahead, hlead keyword hkeyword] at hread
    cases hread

/-! ## Titled examples -/

theorem solid_indent {rows tail : List Row} (h : Row.Solid (rows ++ tail)) :
    Row.Solid (Row.indent rows ++ tail) := by
  have hbare : (Row.indent rows ++ tail).map Row.bare = (rows ++ tail).map Row.bare := by
    rw [List.map_append, List.map_append, Row.map_bare_indent]
  rwa [Row.Solid, Row.ahead?_congr hbare]

theorem solid_statements {ss : List Statement} (hne : ss ≠ []) (h : ∀ s ∈ ss, s.Printable)
    {tail : List Row} (htail : Row.Opens EndsBullets tail) :
    Row.Solid (Canonical.statements ss ++ tail) := by
  obtain ⟨cs, t, more, heq, hcs, htrim, kind, after, ht⟩ := exists_statements hne h htail
  rw [heq]
  refine solid_comments hcs (Row.solid_text.2 ?_)
  rw [htrim, ht]
  exact (fresh_keyword kind _).1.nonempty

/-- **A titled example is read back.** -/
theorem reads_singleExample {e : Example} (h : e.Titled)
    (hprintable : ∀ s ∈ e.statements, s.Printable)
    {tail : List Row} (htail : Row.Opens EndsStatements tail) :
    Reads ReqsML.singleExample (Canonical.singleExample e) tail (Example.bare · = e.cut.bare) := by
  obtain ⟨title, hdescription, hneat, hne⟩ := h.title
  have hrows : Canonical.singleExample e =
      Canonical.comments e.comments ++ metadata e.identifier e.explicitLabels ++
          [.text ("Example:".toList ++ ' ' :: title)] ++
        (.blank :: (Row.indent (Canonical.statements e.statements) ++ [.blank])) := by
    simp [Canonical.singleExample, hdescription]
  -- statements end at the blank row, and blank rows around them are skipped
  have hstatements : Reads ReqsML.statements
      (.blank :: (Row.indent (Canonical.statements e.statements) ++ [.blank])) tail _ :=
    (reads_statements h.nonempty hprintable (.blank htail)).indent.blank_right.blank_left
  have hend : Row.Opens EndsBullets tail := htail.mono fun t ht => ht.toEndsBullets
  have hsolid : Row.Solid (.blank :: (Row.indent (Canonical.statements e.statements) ++ [.blank]) ++
      tail) := by
    rw [List.cons_append, Row.solid_blank, List.append_assoc]
    exact solid_indent (solid_statements h.nonempty hprintable (.blank hend))
  have hheaded := @reads_headed ⟨e.comments, e.identifier, e.explicitLabels⟩ ["Example:".toList]
    "Example:".toList title h.comments h.metadata (by decide) hneat hne rfl _ hsolid
  rw [hrows]
  refine (hheaded.both hstatements).check ?_
  rintro ⟨⟨front, text⟩, statements⟩ ⟨hfront, hstatements⟩
  cases hfront
  have hnone : templated? statements = none := by
    have hsome := isSome_templated?_congr hstatements
    rwa [h.noTokens, Option.isSome_none, Option.isSome_eq_false_iff,
      Option.isNone_iff_eq_none] at hsome
  have hfault : tokenFault? .reqsml statements = none := by
    rw [tokenFault?, hnone]
    rfl
  dsimp only
  rw [hfault]
  refine ⟨_, rfl, ?_⟩
  rw [h.bare_eq, hdescription, ← hstatements]
  rfl

/-! ## Templates -/

theorem reads_examplesKeyword {tail : List Row} (hs : Row.Solid tail) :
    Reads (alone examplesKeyword) [.text "Examples:".toList] tail fun _ => True := by
  refine .line (fun l hl => ⟨(), ?_, trivial⟩) hs
  have htrim : Text.trim "Examples:".toList = "Examples:".toList := by decide
  rw [hl, htrim]
  rfl

theorem opens_examplesKeyword (rest : List Row) :
    Row.Opens EndsStatements (.text "Examples:".toList :: rest) := by
  have htrim : Text.trim "Examples:".toList = "Examples:".toList := by decide
  refine @Row.Opens.part _ none _ rest .none ?_ ?_
  · rw [htrim]
    decide
  · rw [htrim]
    refine ⟨⟨Row.fresh_cons (by decide) _, fun v hv => ?_⟩, fun v hv => ?_⟩
    · simp [readBullet, bulletMarks] at hv
    · cases hv

/-- The rows of a table, with the blank rows around it. -/
theorem reads_table {set : ExampleSet} {es : List Example} {lines : List (Text × TemplateRow)}
    (h : PrintsTable set es lines) {tail : List Row} (hs : Row.Solid tail)
    (hend : Bars exampleRow tail) :
    Reads exampleRows (.blank :: (Row.indent (examplesTable es) ++ [.blank])) tail
      fun rows => rows.map TemplateRow.bare = lines.map (fun line => line.2.bare) :=
  (reads_exampleRows h (Row.solid_blank.2 hs) hend.blank).indent.blank_right.blank_left

theorem solid_table {set : ExampleSet} {es : List Example} {lines : List (Text × TemplateRow)}
    (h : PrintsTable set es lines) {tail : List Row} (hs : Row.Solid tail) :
    Row.Solid (.blank :: (Row.indent (examplesTable es) ++ [.blank]) ++ tail) := by
  rw [List.cons_append, Row.solid_blank, List.append_assoc, h.rows_eq]
  exact solid_indent (solid_lines h.readsAs h.comments (Row.solid_blank.2 hs))

/-- **A titled template and its table are read back.** -/
theorem reads_exampleSet {set : ExampleSet} {es : List Example} (h : set.Titled)
    (hprintable : ∀ s ∈ set.statements, s.Printable) (htable : FromTable set es) {tail : List Row}
    (hs : Row.Solid tail) (hend : Bars exampleRow tail) :
    Reads ReqsML.exampleSet (Canonical.exampleSet set es) tail
      fun vs => vs.map Example.bare = es.map fun e => e.cut.bare := by
  obtain ⟨title, hdescription, hneat, hne⟩ := h.title
  obtain ⟨lines, hlines⟩ := exists_printsTable htable
  obtain ⟨table, htableRows⟩ : ∃ table : List Row,
    table = .blank :: (Row.indent (examplesTable es) ++ [.blank]) := ⟨_, rfl⟩
  have hkeyword : Row.Opens EndsStatements ([.text "Examples:".toList] ++ (table ++ tail)) :=
    opens_examplesKeyword _
  have hheaded := @reads_headed ⟨set.comments, set.identifier, set.labels⟩ setKeywords
    "Example Set:".toList title h.comments h.metadata (by decide) hneat hne rfl
    (.blank :: Canonical.statements set.statements ++
      ([.text "Examples:".toList] ++ (table ++ tail)))
    (solid_statements h.nonempty hprintable (hkeyword.mono fun t ht => ht.toEndsBullets))
  have hstatements := (reads_statements h.nonempty hprintable hkeyword).blank_left
  have hsolid : Row.Solid (table ++ tail) := htableRows ▸ solid_table hlines hs
  have hrows : Reads exampleRows table tail _ := htableRows ▸ reads_table hlines hs hend
  have hbare : (Canonical.comments set.comments ++ metadata set.identifier set.labels ++
        [Row.text ("Example Set:".toList ++ ' ' :: title)] ++
        (Row.blank :: Canonical.statements set.statements) ++ [Row.text "Examples:".toList] ++
        table).map Row.bare = (Canonical.exampleSet set es).map Row.bare := by
    simp [Canonical.exampleSet, template, hdescription, Row.map_bare_indent, htableRows]
  have hparts := ((hheaded.both hstatements).first (reads_examplesKeyword hsolid)).both hrows
  intro c hc
  obtain ⟨⟨⟨⟨front, text⟩, statements⟩, rows⟩, n, hread, ⟨⟨hfront, hss⟩, hrs⟩, hn⟩ :=
    hparts.congr hbare c hc
  cases hfront
  dsimp only at hss hrs
  have hset : (ExampleSet.mk set.comments set.identifier set.labels.cut (some title) statements
      (some c.lineNumber)).bare = set.cut.bare :=
    @ExampleSet.bare_eq set.cut _ h.placed rfl rfl rfl rfl hdescription.symm hss
  obtain ⟨es', hexpand, hes⟩ := hlines.expand _ rows hset hrs
  have htokens : (templated? statements).isNone = false := by
    rw [← Option.not_isSome, isSome_templated?_congr hss, h.tokens]
    rfl
  refine ⟨es', n, check_eq_ok.2 ⟨_, hread, ?_⟩, hes, hn⟩
  dsimp only
  rw [htokens]
  exact hexpand

end Canonical

/-! ## Blocks -/

/-- The statements that are written for an example: its own, or those of its template. -/
def Example.printed (e : Example) : List Statement :=
  match e.exampleSet with
  | none => e.statements
  | some set => set.statements

/-- All key-value pairs that are written for an example are filled. -/
def Example.Filled (e : Example) : Prop := ∀ s ∈ e.printed, ∀ d, s.data = some d → d.Filled

theorem Example.Written.printable {e : Example} (h : e.Written) (hfilled : e.Filled) :
    ∀ s ∈ e.statements, s.Printable := by
  intro s hs
  refine ⟨h.statements s hs, hfilled s ?_⟩
  rwa [Example.printed, h.noSet]

theorem FromTable.printable {set : ExampleSet} {es : List Example} (htable : FromTable set es)
    (h : set.Written) (hfilled : ∀ e ∈ es, e.Filled) : ∀ s ∈ set.statements, s.Printable := by
  intro s hs
  obtain ⟨e, rest, rfl⟩ := List.exists_cons_of_ne_nil htable.ne_nil
  refine ⟨h.statements s hs, hfilled e List.mem_cons_self s ?_⟩
  rwa [Example.printed, htable.blockSet?.2 e List.mem_cons_self]

namespace Canonical

/-- The rows of examples that were written together. -/
def blockRows (b : List Example) : List Row :=
  match blockSet? b with
  | some set => Canonical.exampleSet set b
  | none => b.flatMap Canonical.singleExample

theorem blockRows_single {e : Example} (he : e.exampleSet = none) :
    blockRows [e] = Canonical.singleExample e := by
  simp [blockRows, blockSet?, he]

theorem blockRows_table {set : ExampleSet} {es : List Example} (h : FromTable set es) :
    blockRows es = Canonical.exampleSet set es := by
  simp [blockRows, h.blockSet?.1]

theorem headed_singleExample {e : Example} (h : e.Titled)
    (hprintable : ∀ s ∈ e.statements, s.Printable) {tail : List Row}
    (htail : Row.Opens EndsStatements tail) :
    Row.Headed ["Example:".toList] ⟨e.identifier, e.explicitLabels⟩
      (Canonical.singleExample e ++ tail) := by
  obtain ⟨title, hdescription, hneat, hne⟩ := h.title
  have hrows : Canonical.singleExample e ++ tail =
      Canonical.comments e.comments ++ (metadata e.identifier e.explicitLabels ++
        .text ("Example:".toList ++ ' ' :: title) ::
          .blank :: (Row.indent (Canonical.statements e.statements) ++ .blank :: tail)) := by
    simp [Canonical.singleExample, hdescription]
  rw [hrows]
  refine @Row.Headed.intro _
    ⟨e.comments, e.identifier, e.explicitLabels⟩ _ _ _ h.comments h.metadata
    (by simp) hneat hne ?_
  rw [Row.solid_blank]
  exact solid_indent (solid_statements h.nonempty hprintable
    (.blank (htail.mono fun t ht => ht.toEndsBullets)))

theorem headed_exampleSet {set : ExampleSet} {es : List Example} (h : set.Titled)
    (hprintable : ∀ s ∈ set.statements, s.Printable) {tail : List Row} :
    Row.Headed ["Example Set:".toList] ⟨set.identifier, set.labels⟩
      (Canonical.exampleSet set es ++ tail) := by
  obtain ⟨title, hdescription, hneat, hne⟩ := h.title
  have hrows : Canonical.exampleSet set es ++ tail =
      Canonical.comments set.comments ++ (metadata set.identifier set.labels ++
        .text ("Example Set:".toList ++ ' ' :: title) ::
          .blank :: (Row.indent (template set es) ++ tail)) := by
    simp [Canonical.exampleSet, hdescription]
  rw [hrows]
  refine @Row.Headed.intro _ ⟨set.comments, set.identifier, set.labels⟩ _ _ _ h.comments h.metadata
    (by simp) hneat hne ?_
  rw [Row.solid_blank]
  refine solid_indent ?_
  rw [template, List.append_assoc, List.append_assoc]
  exact solid_statements h.nonempty hprintable
    ((opens_examplesKeyword _).mono fun t ht => ht.toEndsBullets)

/-- The keywords of titled examples and templates. -/
def exampleTitles : List Text := ["Example:".toList, "Example Set:".toList]

/-- **A block starts with its metadata and a title.** -/
theorem headed_block {b : List Example} (h : ExampleBlock b) (hfilled : ∀ e ∈ b, e.Filled)
    {tail : List Row} (htail : Row.Opens EndsStatements tail) :
    Row.Headed exampleTitles (blockMetadata b) (blockRows b ++ tail) := by
  cases h with
  | @single e h =>
    have hheaded := headed_singleExample h (h.printable (hfilled e List.mem_cons_self)) htail
    rw [blockRows_single h.noSet, blockMetadata_single h.noSet]
    exact hheaded.mono (by simp [exampleTitles])
  | @set set _ h htable =>
    have hheaded := @headed_exampleSet set b h (htable.printable h.toWritten hfilled) tail
    rw [blockRows_table htable, htable.blockMetadata_eq]
    exact hheaded.mono (by simp [exampleTitles])

/-- **A block is read back.** -/
theorem reads_block {b : List Example} (h : ExampleBlock b) (hfilled : ∀ e ∈ b, e.Filled)
    {tail : List Row}
    (htail : Row.Ends titleKeywords (fun m => (blockSet? b).isSome = true → NoRow m) tail) :
    Reads ReqsML.block (blockRows b) tail
      fun vs => vs.map Example.bare = b.map fun e => e.cut.bare := by
  cases h with
  | @single e h =>
    have hprintable := h.printable (hfilled e List.mem_cons_self)
    rw [blockRows_single h.noSet]
    refine .orElse_right ?_
      ((reads_singleExample h hprintable htail.opens).map fun v hv => by simp [hv])
    have hbars := @bars_headed _ setKeywords _ _ (headed_singleExample h hprintable htail.opens)
      (by simp [titleKeywords]) (by simp; exact fun _ => rfl)
    exact fun c hc => (hbars.both_left.first_left.both_left.check) c hc
  | @set set _ h htable =>
    have hends : Row.Ends titleKeywords NoRow tail :=
      htail.mono fun m hm => hm (by simp [htable.blockSet?.1])
    rw [blockRows_table htable]
    exact .orElse_left (reads_exampleSet h (htable.printable h.toWritten hfilled) htable htail.solid
      hends.bars_exampleRow)

end Canonical

end PlainSpec
