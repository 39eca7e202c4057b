import PlainSpec.Proofs.Canonical.Parts

/-!
# Statements are read back

Neighbouring statements of one kind are written as one list of bullets, whether they were written so
or not.  They are read back as the same statements in the same order, on other lines.

## Main definitions

* `Row.Opens`: rows that start with comments and a line of a given kind, or are no rows at all.
* `Statement.Printable`: a statement that was read and whose key-value pairs are filled.
* `Statement.bare`: a statement without its place.
* `Canonical.EndsStatements`: a line that continues no statements.

## Main results

* `Canonical.reads_single`, `Canonical.reads_bullets`, `Canonical.reads_group`: the written forms.
* `Canonical.reads_statements`: statements are read back.
-/

namespace PlainSpec

open PlainSpec.Parser Grammar Grammar.ReqsML

/-! ## What can follow statements -/

/-- The rows start with comments and a line that satisfies the condition, or there are none. -/
inductive Row.Opens (P : Text → Prop) : List Row → Prop where
  /-- There are no rows. -/
  | done : Opens P []
  /-- Blank rows do not count. -/
  | blank {rows : List Row} (h : Opens P rows) : Opens P (.blank :: rows)
  /-- Comments and a line that is none. -/
  | part {cs : Comments} {t : Text} {rest : List Row} (hcs : LegibleComments cs)
      (hcomment : t.trim.startsWith commentMark = false) (ht : P t.trim) :
      Opens P (Canonical.comments cs ++ .text t :: rest)

namespace Row.Opens

variable {P Q : Text → Prop} {rows : List Row}

theorem mono (h : Opens P rows) (hPQ : ∀ t, P t → Q t) : Opens Q rows := by
  induction h with
  | done => exact .done
  | blank _ ih => exact .blank ih
  | part hcs hcomment ht => exact .part hcs hcomment (hPQ _ ht)

theorem solid (h : Opens P rows) (hP : ∀ t, P t → t ≠ []) : Row.Solid rows := by
  induction h with
  | done => exact Row.solid_nil
  | blank _ ih => exact Row.solid_blank.2 ih
  | part hcs _ ht => exact Canonical.solid_comments hcs (Row.solid_text.2 (hP _ ht))

theorem next (h : Opens P rows) (hP : ∀ t, P t → Row.Fresh t) : Row.Next Row.Fresh rows := by
  induction h with
  | done => exact Row.next_nil
  | blank _ ih => exact ih
  | part hcs _ ht =>
    refine Canonical.next_comments hcs (fun rest => Row.fresh_cons (by decide) _) ?_
    exact Row.next_text.2 (hP _ ht)

/-- **A line that is refused behind comments is refused with them.** -/
theorem bars {α : Type} {f : Line → Except Fault α} (h : Opens P rows) (hP : ∀ t, P t → t ≠ [])
    (hf : ∀ (l : Line) (v : α), P l.trimmed → f l ≠ .ok v) :
    Bars (both (Grammar.comments commentMark) (Parser.line f)) rows := by
  induction h with
  | done =>
    have hcomments : Reads (Grammar.comments commentMark) (Canonical.comments none) [] (· = none) :=
      Canonical.reads_comments .none Row.next_nil
    exact .both_right hcomments (.line fun l v hahead => nomatch hahead)
  | blank _ ih => exact fun c hc => ih c (Cursor.at_blank.1 hc)
  | part hcs hcomment ht =>
    refine .both_right (Canonical.reads_comments hcs (Row.next_text.2 ⟨hP _ ht, hcomment⟩)) ?_
    refine .line fun l v hahead => hf l v ?_
    rw [Row.ahead?_text, Option.some.injEq] at hahead
    exact hahead ▸ ht

end Row.Opens

/-! ## One statement -/

/-- The statement without its place. -/
def Statement.bare (s : Statement) : Statement := s.relabel fun _ => 0

/-- A statement that was read and whose key-value pairs are filled. -/
structure Statement.Printable (s : Statement) : Prop extends Statement.Legible s where
  filled : ∀ d, s.data = some d → d.Filled

theorem Statement.bare_eq {s v : Statement} (hs : s.line.isSome = true) (hv : v.line.isSome = true)
    (hcomments : v.comments = s.comments) (hkind : v.kind = s.kind)
    (hdescription : v.description = s.description) (hdata : v.data = s.data) : v.bare = s.bare := by
  refine Statement.relabel_eq_iff.2 ⟨hcomments, hkind, hdescription, hdata, ?_⟩
  obtain ⟨n, hn⟩ := Option.isSome_iff_exists.1 hs
  obtain ⟨m, hm⟩ := Option.isSome_iff_exists.1 hv
  rw [hn, hm]
  rfl

namespace Canonical

/-- Indentation does not count, so the first row of a block decides. -/
theorem solid_dataRows {d : Data} {t : Text} {rest : List Text} (hrows : d.rows = t :: rest)
    (ht : t.trim ≠ []) (tail : List Row) : Row.Solid (Canonical.data (some d) ++ tail) := by
  have hbare : (Canonical.data (some d) ++ tail).map Row.bare =
      (d.rows.map Row.text ++ Row.blank :: tail).map Row.bare := by
    simp [Canonical.data, Row.map_bare_indent]
  rw [Row.Solid, Row.ahead?_congr hbare, hrows]
  simpa using ht

theorem solid_data {d : Option Data} (hlegible : ∀ a, d = some a → a.Legible)
    (hfilled : ∀ a, d = some a → a.Filled) {tail : List Row} (htail : Row.Solid tail) :
    Row.Solid (Canonical.data d ++ tail) := by
  cases d with
  | none => exact htail
  | some d =>
    cases hlegible d rfl with
    | text body _ _ _ => exact solid_dataRows rfl (by decide) tail
    | rows rows hcells hread =>
      obtain ⟨lines, hlines⟩ := Data.exists_printsAs hcells hread (hfilled d rfl)
      obtain ⟨line, rest, rfl⟩ := List.exists_cons_of_ne_nil hlines.nonempty
      exact solid_dataRows hlines.rows_eq (hlines.cuts line List.mem_cons_self).trim_ne_nil tail

/-- A statement of either form: comments, a line, and data. -/
theorem reads_statementWith {heading : Parser Heading} {s : Statement} {t : Text} (h : s.Printable)
    (hheading : ∀ tail, Row.Solid tail →
      Reads heading [.text t] tail fun v => v.kind = s.kind ∧ v.description = s.description)
    (hnonempty : t.trim ≠ []) (hcomment : t.trim.startsWith commentMark = false) {tail : List Row}
    (htail : Row.Next Row.Fresh tail) :
    Reads (statementWith .reqsml commentMark heading)
      (Canonical.comments s.comments ++ .text t :: Canonical.data s.data) tail
      (Statement.bare · = s.bare) := by
  have hsolid : Row.Solid (Canonical.data s.data ++ tail) :=
    solid_data h.data h.filled (htail.solid fun t ht => ht.nonempty)
  have hfront : Reads (both (Grammar.comments commentMark) heading)
      (Canonical.comments s.comments ++ [.text t]) (Canonical.data s.data ++ tail) _ :=
    (reads_comments h.comments (Row.next_text.2 ⟨hnonempty, hcomment⟩)).both (hheading _ hsolid)
  have hrows : Canonical.comments s.comments ++ .text t :: Canonical.data s.data =
      (Canonical.comments s.comments ++ [.text t]) ++ Canonical.data s.data := by simp
  rw [hrows]
  refine (hfront.both (reads_data h.data h.filled htail)).map ?_
  rintro ⟨⟨comments, heading⟩, data⟩ ⟨⟨hcomments, hkind, hdescription⟩, hdata⟩
  exact Statement.bare_eq h.placed rfl hcomments hkind hdescription hdata

/-! ## Statements with a keyword -/

/-- The line of a statement with its keyword. -/
def keywordText (s : Statement) : Text := s.kind.keyword ++ [':', ' '] ++ s.description

theorem not_mem_keyword (kind : StatementKind) : ':' ∉ kind.keyword := by
  cases kind <;> decide

theorem head_keyword (kind : StatementKind) :
    ∃ c rest, kind.keyword = c :: rest ∧ c ∈ ['I', 'W', 'E'] := by
  cases kind
  · exact ⟨'I', _, rfl, by decide⟩
  · exact ⟨'W', _, rfl, by decide⟩
  · exact ⟨'E', _, rfl, by decide⟩

theorem readKeyword_keyword (kind : StatementKind) (rest : Text) :
    readKeyword (kind.keyword ++ ':' :: rest) = .ok (kind, rest.trim) := by
  have hcut : Text.cutAt (· == ':') (kind.keyword ++ ':' :: rest) =
      (kind.keyword, ':' :: rest) := by
    refine Text.cutAt_of_forall (fun c hc => ?_) (by rintro c ⟨⟩; rfl)
    simpa using fun heq : c = ':' => not_mem_keyword kind (heq ▸ hc)
  simp [readKeyword, Text.splitFirst?, hcut]

/-- A line that starts with a keyword. -/
theorem fresh_keyword (kind : StatementKind) (rest : Text) :
    Row.Fresh (kind.keyword ++ rest) ∧ (kind.keyword ++ rest).startsWith commentMark = false ∧
      ∀ v, readBullet (kind.keyword ++ rest) ≠ .ok v := by
  obtain ⟨c, word, hword, hc⟩ := head_keyword kind
  rw [hword]
  simp only [List.mem_cons, List.not_mem_nil, or_false] at hc
  refine ⟨Row.fresh_cons (fun hmem => ?_) _, Text.startsWith_cons (fun heq => ?_) _ _,
    fun v hv => ?_⟩
  · simp only [List.mem_cons, List.not_mem_nil, or_false] at hmem
    rcases hc with rfl | rfl | rfl <;> exact absurd hmem (by decide)
  · rcases hc with rfl | rfl | rfl <;> cases heq
  · have hmark : c ∉ bulletMarks := by rcases hc with rfl | rfl | rfl <;> decide
    simp [readBullet, hmark] at hv

theorem trim_keywordText {s : Statement} (h : s.Legible) :
    (keywordText s).trim = keywordText s := by
  obtain ⟨c, rest, hword, hc⟩ := head_keyword s.kind
  refine h.description.trim_append h.nonempty (by rw [hword]; rfl) ?_
  simp only [List.mem_cons, List.not_mem_nil, or_false] at hc
  rcases hc with rfl | rfl | rfl <;> rfl

/-- **A statement with its keyword is read back.** -/
theorem reads_statement {s : Statement} (h : s.Printable) {tail : List Row}
    (htail : Row.Next Row.Fresh tail) :
    Reads statement
      (Canonical.comments s.comments ++ .text (keywordText s) :: Canonical.data s.data)
      tail (Statement.bare · = s.bare) := by
  have htrim := trim_keywordText h.toLegible
  have htext : keywordText s = s.kind.keyword ++ ':' :: ' ' :: s.description := by
    simp [keywordText]
  refine reads_statementWith h (fun tail hs => .line (fun l hl => ?_) hs) ?_ ?_ htail
  · rw [hl, htrim, htext, readKeyword_keyword, h.description.trim_space]
    exact ⟨⟨s.kind, s.description, l.number⟩, rfl, rfl, rfl⟩
  · rw [htrim, htext]
    exact (fresh_keyword _ _).1.nonempty
  · rw [htrim, htext]
    exact (fresh_keyword _ _).2.1

theorem reads_single {s : Statement} (h : s.Printable) {tail : List Row}
    (htail : Row.Next Row.Fresh tail) :
    Reads statementGroup (single s) tail fun vs => vs.map Statement.bare = [s.bare] := by
  have hstatement : Reads statement _ (.blank :: tail) _ := reads_statement h htail
  refine (Reads.orElse_left (hstatement.check fun v hv => ⟨[v], ?_, by simp [hv]⟩)).blank_right
  have hdescription : v.description = s.description := (Statement.relabel_eq_iff.1 hv).2.2.1
  simp [hdescription, h.nonempty]

/-! ## Bullets -/

/-- The line of a bullet. -/
def bulletText (s : Statement) : Text := ['-', ' '] ++ s.description

theorem trim_bulletText {s : Statement} (h : s.Legible) : (bulletText s).trim = bulletText s :=
  h.description.trim_append h.nonempty rfl (by decide)

theorem reads_bulletLine {s : Statement} (h : s.Legible) {tail : List Row} (hs : Row.Solid tail) :
    Reads (bulletLine s.kind) [.text (bulletText s)] tail
      fun v => v.kind = s.kind ∧ v.description = s.description := by
  refine .line (fun l hl => ?_) hs
  have hread : readBullet (bulletText s) = .ok s.description := by
    show readBullet ('-' :: ' ' :: s.description) = _
    simp [readBullet, bulletMarks, h.description.trim_space, h.nonempty]
  rw [hl, trim_bulletText h, hread]
  exact ⟨⟨s.kind, s.description, l.number⟩, rfl, rfl, rfl⟩

theorem fresh_bulletText (s : Statement) :
    Row.Fresh (bulletText s) ∧ (bulletText s).startsWith commentMark = false :=
  ⟨Row.fresh_cons (by decide) _, Text.startsWith_cons (by decide) _ _⟩

/-- **A bullet is read back.** -/
theorem reads_bullet {s : Statement} (h : s.Printable) {tail : List Row}
    (htail : Row.Next Row.Fresh tail) :
    Reads (statementWith .reqsml commentMark (bulletLine s.kind)) (bullet s) tail
      (Statement.bare · = s.bare) := by
  have hfresh := fresh_bulletText s
  rw [← trim_bulletText h.toLegible] at hfresh
  exact reads_statementWith h (fun tail hs => reads_bulletLine h.toLegible hs) hfresh.1.nonempty
    hfresh.2 htail

/-- Bullets open with comments and a bullet. -/
theorem opens_bullet {s : Statement} (h : s.Legible) {rest : List Row} :
    Row.Opens Row.Fresh (bullet s ++ rest) := by
  have hfresh := fresh_bulletText s
  rw [← trim_bulletText h] at hfresh
  rw [bullet, List.append_assoc, List.cons_append]
  exact .part h.comments hfresh.2 hfresh.1

/-- **Bullets are read back.** -/
theorem reads_bullets {kind : StatementKind} {ss : List Statement} (h : ∀ s ∈ ss, s.Printable)
    (hkind : ∀ s ∈ ss, s.kind = kind) {tail : List Row} (htail : Row.Next Row.Fresh tail)
    (hend : Bars (statementStart commentMark (bulletLine kind)) tail) :
    Reads (bullets kind) (ss.flatMap bullet) tail
      fun vs => vs.map Statement.bare = ss.map Statement.bare := by
  have hnext {next : List Statement} (hsuffix : next <:+ ss) :
      Row.Next Row.Fresh (next.flatMap bullet ++ tail) := by
    cases next with
    | nil => exact htail
    | cons s next =>
      rw [List.flatMap_cons, List.append_assoc]
      exact (opens_bullet (h s (hsuffix.subset List.mem_cons_self)).toLegible).next fun t ht => ht
  refine Reads.manyWhile (consuming_statementWith (.line _) _ _) (fun s next hsuffix => ?_)
    (fun s next hsuffix => ?_) hend
  · have hs := hsuffix.subset List.mem_cons_self
    rw [← hkind s hs]
    exact reads_bullet (h s hs) (hnext ((List.suffix_cons _ _).trans hsuffix))
  -- the line of a bullet alone is what tells that there is one more
  · have hs := hsuffix.subset List.mem_cons_self
    have hlegible := (h s hs).toLegible
    have hfresh := fresh_bulletText s
    rw [← trim_bulletText hlegible] at hfresh
    rw [← hkind s hs, bullet, List.append_assoc, List.cons_append]
    refine Starts.map (Starts.both
      (reads_comments hlegible.comments (Row.next_text.2 ⟨hfresh.1.nonempty, hfresh.2⟩))
      (reads_bulletLine hlegible ?_).starts)
    exact solid_data hlegible.data (h s hs).filled
      ((hnext ((List.suffix_cons _ _).trans hsuffix)).solid fun t ht => ht.nonempty)

/-! ## Groups -/

/-- A line that starts with neither a bullet nor data. -/
structure EndsBullets (t : Text) : Prop extends Row.Fresh t where
  noBullet : ∀ v, readBullet t ≠ .ok v

/-- A line that continues no statements. -/
structure EndsStatements (t : Text) : Prop extends EndsBullets t where
  noKeyword : ∀ v, readKeyword t ≠ .ok v

theorem bars_bullet {tail : List Row} (h : Row.Opens EndsBullets tail) (kind : StatementKind) :
    Bars (statementStart commentMark (bulletLine kind)) tail := by
  refine Bars.map (h.bars (fun t ht => ht.nonempty) fun l v hl hv => ?_)
  obtain ⟨text, hr, -⟩ := Except.map_eq_ok.1 hv
  exact hl.noBullet text hr

theorem bars_keyword {tail : List Row} (h : Row.Opens EndsStatements tail) :
    Bars (statementStart commentMark keywordLine) tail := by
  refine Bars.map (h.bars (fun t ht => ht.nonempty) fun l v hl hv => ?_)
  obtain ⟨found, hr, -⟩ := Except.map_eq_ok.1 hv
  exact hl.noKeyword found hr

theorem trim_keyword (kind : StatementKind) :
    (kind.keyword ++ [':']).trim = kind.keyword ++ [':'] := by
  cases kind <;> decide

theorem reads_keywordLine (kind : StatementKind) {tail : List Row} (hs : Row.Solid tail) :
    Reads keywordLine [.text (kind.keyword ++ [':'])] tail
      fun v => v.kind = kind ∧ v.description = [] := by
  refine .line (fun l hl => ?_) hs
  rw [hl, trim_keyword, readKeyword_keyword]
  exact ⟨⟨kind, [], l.number⟩, rfl, rfl, rfl⟩

/-- A keyword above bullets, as a statement without text. -/
theorem reads_keyword (kind : StatementKind) {tail : List Row} (htail : Row.Next Row.Fresh tail) :
    Reads statement [.text (kind.keyword ++ [':'])] tail
      fun v => v.kind = kind ∧ v.description = [] ∧ v.comments = none := by
  obtain ⟨hfresh, hcomment, -⟩ := fresh_keyword kind [':']
  have hcomments : Reads (Grammar.comments commentMark) (Canonical.comments none)
      ([.text (kind.keyword ++ [':'])] ++ (Canonical.data none ++ tail)) (· = none) := by
    refine reads_comments .none (Row.next_text.2 ?_)
    rw [trim_keyword]
    exact ⟨hfresh.nonempty, hcomment⟩
  have hline : Reads keywordLine [.text (kind.keyword ++ [':'])] (Canonical.data none ++ tail) _ :=
    reads_keywordLine kind (htail.solid fun t ht => ht.nonempty)
  have hdata : Reads (optionalData .reqsml) (Canonical.data none) tail (· = none) := by
    refine reads_data ?_ ?_ htail
    · rintro _ ⟨⟩
    · rintro _ ⟨⟩
  refine ((hcomments.both hline).both hdata).map ?_
  rintro ⟨⟨comments, heading⟩, data⟩ ⟨⟨hcomments, hkind, hdescription⟩, -⟩
  exact ⟨hkind, hdescription, hcomments⟩

/-- **Statements of one kind are read back from their list.** -/
theorem reads_list {kind : StatementKind} {ss : List Statement} (hne : ss ≠ [])
    (h : ∀ s ∈ ss, s.Printable) (hkind : ∀ s ∈ ss, s.kind = kind) {tail : List Row}
    (htail : Row.Opens EndsBullets tail) :
    Reads statementGroup (.text (kind.keyword ++ [':']) :: ss.flatMap bullet ++ [.blank]) tail
      fun vs => vs.map Statement.bare = ss.map Statement.bare := by
  have htail' : Row.Opens EndsBullets (.blank :: tail) := .blank htail
  have hnext : Row.Next Row.Fresh (ss.flatMap bullet ++ .blank :: tail) := by
    obtain ⟨s, rest, rfl⟩ := List.exists_cons_of_ne_nil hne
    rw [List.flatMap_cons, List.append_assoc]
    exact (opens_bullet (h s List.mem_cons_self).toLegible).next fun t ht => ht
  have hkeyword := reads_keyword kind hnext
  refine (Reads.orElse_right ?_ ?_).blank_right
  · show Bars singleStatement
      ([.text (kind.keyword ++ [':'])] ++ (ss.flatMap bullet ++ .blank :: tail))
    refine Bars.of_check hkeyword fun v w hv hw => ?_
    simp [hv.2.1] at hw
  · have hbullets : Reads (bullets kind) (ss.flatMap bullet) (.blank :: tail) _ :=
      reads_bullets h hkind (htail'.next fun t ht => ht.toFresh) (bars_bullet htail' kind)
    refine Reads.check (hkeyword.bind (fun v hv => ?_)) (Q := fun v => v.1.kind = kind ∧
      v.1.description = [] ∧ v.1.comments = none ∧
        v.2.map Statement.bare = ss.map Statement.bare) ?_
    · rw [hv.1]
      exact hbullets.map fun items hitems => ⟨hv.1, hv.2.1, hv.2.2, hitems⟩
    · rintro ⟨keyword, items⟩ ⟨hk, hdescription, hcomments, hitems⟩
      refine ⟨items, ?_, hitems⟩
      dsimp only at hdescription hcomments
      have hitemsne : items ≠ [] := by
        rintro rfl
        exact hne (by simpa using hitems.symm)
      simp [listFault?, hitemsne, hcomments, hdescription]

/-- Whether the statements of a group are written together. -/
structure Group (g : Several Statement) : Prop where
  printable : ∀ s ∈ g.toList, s.Printable
  kind_eq : ∀ s ∈ g.toList, s.kind = g.head.kind

theorem reads_group {g : Several Statement} (h : Group g) {tail : List Row}
    (htail : Row.Opens EndsBullets tail) :
    Reads statementGroup (group g) tail
      fun vs => vs.map Statement.bare = g.toList.map Statement.bare := by
  obtain ⟨s, rest⟩ := g
  cases rest with
  | nil =>
    exact reads_single (h.printable s List.mem_cons_self) (htail.next fun t ht => ht.toFresh)
  | cons s' rest => exact reads_list (by simp [Several.toList]) h.printable h.kind_eq htail

/-- A group opens with comments and a keyword. -/
theorem exists_group {g : Several Statement} (h : Group g) {rest : List Row}
    (hrest : Row.Solid rest) :
    ∃ cs t more, group g ++ rest = Canonical.comments cs ++ .text t :: more ∧ LegibleComments cs ∧
      Row.Solid more ∧ t.trim = t ∧ ∃ after, t = g.head.kind.keyword ++ ':' :: after := by
  obtain ⟨s, others⟩ := g
  have hs := h.printable s List.mem_cons_self
  cases others with
  | nil =>
    refine ⟨s.comments, keywordText s, Canonical.data s.data ++ (.blank :: rest), ?_, hs.comments,
      solid_data hs.data hs.filled hrest, trim_keywordText hs.toLegible, ' ' :: s.description, ?_⟩
    · simp [group, single, keywordText]
    · simp [keywordText]
  | cons s' others =>
    refine ⟨none, s.kind.keyword ++ [':'],
      (s :: s' :: others).flatMap bullet ++ (.blank :: rest), ?_,
      .none, ?_, trim_keyword _, [], rfl⟩
    · simp [group, Canonical.comments, Several.toList]
    · rw [List.flatMap_cons, List.append_assoc]
      exact (opens_bullet hs.toLegible).solid fun t ht => ht.nonempty

theorem opens_group {g : Several Statement} (h : Group g) {rest : List Row}
    (hrest : Row.Solid rest) :
    Row.Opens EndsBullets (group g ++ rest) := by
  obtain ⟨cs, t, more, heq, hcs, -, htrim, after, ht⟩ := exists_group h hrest
  obtain ⟨hfresh, hcomment, hbullet⟩ := fresh_keyword g.head.kind (':' :: after)
  rw [heq]
  refine .part hcs ?_ ?_
  · rw [htrim, ht]
    exact hcomment
  · rw [htrim, ht]
    exact ⟨hfresh, hbullet⟩

theorem starts_group {g : Several Statement} (h : Group g) {rest : List Row}
    (hrest : Row.Solid rest) :
    Starts (statementStart commentMark keywordLine) (group g ++ rest) := by
  obtain ⟨cs, t, more, heq, hcs, hsolid, htrim, after, ht⟩ := exists_group h hrest
  obtain ⟨hfresh, hcomment, -⟩ := fresh_keyword g.head.kind (':' :: after)
  rw [← ht] at hfresh hcomment
  have hline : Reads keywordLine [.text t] more fun _ => True := by
    refine .line (fun l hl => ?_) hsolid
    rw [hl, htrim, ht, readKeyword_keyword]
    exact ⟨_, rfl, trivial⟩
  rw [heq]
  refine Starts.map (Starts.both (reads_comments hcs (Row.next_text.2 ?_)) hline.starts)
  rw [htrim]
  exact ⟨hfresh.nonempty, hcomment⟩

end Canonical

/-! ## All statements -/

theorem mem_of_mem_runs {α : Type} {goesWith : α → α → Bool} {as : List α} {run : Several α}
    (h : run ∈ runs goesWith as) :
    (∀ a ∈ run.toList, a ∈ as) ∧ ∀ b ∈ run.tail, goesWith run.head b = true := by
  fun_induction runs goesWith as with
  | case1 => cases h
  | case2 a as ih =>
    rcases List.mem_cons.1 h with rfl | h
    · constructor
      · intro b hb
        rcases List.mem_cons.1 hb with rfl | hb
        · exact List.mem_cons_self
        · exact List.mem_cons_of_mem _ ((List.takeWhile_subset _) hb)
      · intro b hb
        exact List.all_eq_true.1 List.all_takeWhile b hb
    · obtain ⟨hmem, hgoes⟩ := ih h
      refine ⟨fun b hb => List.mem_cons_of_mem _ ((List.dropWhile_subset _) (hmem b hb)), hgoes⟩

namespace Canonical

theorem group_of_mem_runs {ss : List Statement} (h : ∀ s ∈ ss, s.Printable) {g : Several Statement}
    (hg : g ∈ runs (fun a b => a.kind == b.kind) ss) : Group g := by
  obtain ⟨hmem, hkind⟩ := mem_of_mem_runs hg
  refine ⟨fun s hs => h s (hmem s hs), fun s hs => ?_⟩
  rcases List.mem_cons.1 hs with rfl | hs
  · rfl
  · exact (beq_iff_eq.1 (hkind s hs)).symm

theorem opens_groups {groups : List (Several Statement)} (h : ∀ g ∈ groups, Group g)
    {tail : List Row} (htail : Row.Opens EndsBullets tail) :
    Row.Opens EndsBullets (groups.flatMap group ++ tail) := by
  induction groups with
  | nil => exact htail
  | cons g groups ih =>
    have hnext := ih fun g' hg' => h g' (List.mem_cons_of_mem _ hg')
    rw [List.flatMap_cons, List.append_assoc]
    exact opens_group (h g List.mem_cons_self) (hnext.solid fun t ht => ht.nonempty)

theorem runs_ne_nil {ss : List Statement} (hne : ss ≠ []) :
    runs (fun a b => a.kind == b.kind) ss ≠ [] := by
  intro hnil
  have := flatMap_runs (fun a b : Statement => a.kind == b.kind) ss
  rw [hnil] at this
  exact hne this.symm

/-- Statements open with comments and a keyword. -/
theorem exists_statements {ss : List Statement} (hne : ss ≠ []) (h : ∀ s ∈ ss, s.Printable)
    {tail : List Row} (htail : Row.Opens EndsBullets tail) :
    ∃ cs t more, Canonical.statements ss ++ tail = Canonical.comments cs ++ .text t :: more ∧
      LegibleComments cs ∧ t.trim = t ∧
        ∃ kind after, t = StatementKind.keyword kind ++ ':' :: after := by
  have hgroups : ∀ g ∈ runs (fun a b => a.kind == b.kind) ss, Group g :=
    fun g => group_of_mem_runs h
  obtain ⟨g, groups, hruns⟩ := List.exists_cons_of_ne_nil (runs_ne_nil hne)
  rw [hruns] at hgroups
  have hnext := opens_groups (fun g' hg' => hgroups g' (List.mem_cons_of_mem _ hg')) htail
  obtain ⟨cs, t, more, heq, hcs, -, htrim, after, ht⟩ := exists_group (hgroups g List.mem_cons_self)
    (hnext.solid fun t ht => ht.nonempty)
  refine ⟨cs, t, more, ?_, hcs, htrim, g.head.kind, after, ht⟩
  rw [Canonical.statements, hruns, List.flatMap_cons, List.append_assoc]
  exact heq

/-- **Statements are read back.** -/
theorem reads_statements {ss : List Statement} (hne : ss ≠ []) (h : ∀ s ∈ ss, s.Printable)
    {tail : List Row} (htail : Row.Opens EndsStatements tail) :
    Reads ReqsML.statements (Canonical.statements ss) tail
      fun vs => vs.map Statement.bare = ss.map Statement.bare := by
  have hend : Row.Opens EndsBullets tail := htail.mono fun t ht => ht.toEndsBullets
  have hgroup {g : Several Statement} {next : List (Several Statement)}
      (hsuffix : g :: next <:+ runs (fun a b => a.kind == b.kind) ss) : Group g :=
    group_of_mem_runs h (hsuffix.subset List.mem_cons_self)
  -- behind a group stand the other groups, and a keyword ends the bullets in front of it
  have hopens : ∀ next, next <:+ runs (fun a b => a.kind == b.kind) ss →
      Row.Opens EndsBullets (next.flatMap group ++ tail) := fun next hsuffix =>
    opens_groups (fun g hg => group_of_mem_runs h (hsuffix.subset hg)) hend
  have helement : ∀ g next, g :: next <:+ runs (fun a b => a.kind == b.kind) ss →
      Reads statementGroup (group g) (next.flatMap group ++ tail)
        (List.map Statement.bare · =
          (fun g : Several Statement => g.toList.map Statement.bare) g) :=
    fun g next hsuffix =>
      reads_group (hgroup hsuffix) (hopens next ((List.suffix_cons _ _).trans hsuffix))
  refine (Reads.severalWhile consuming_statementGroup helement (fun g next hsuffix => ?_)
    (bars_keyword htail) _ (runs_ne_nil hne)).map ?_
  · refine starts_group (hgroup hsuffix) ?_
    exact (hopens next ((List.suffix_cons _ _).trans hsuffix)).solid fun t ht => ht.nonempty
  · intro groups hgroups
    rw [List.map_flatten, hgroups, ← List.flatMap_def, ← List.map_flatMap, flatMap_runs]

end Canonical

end PlainSpec
