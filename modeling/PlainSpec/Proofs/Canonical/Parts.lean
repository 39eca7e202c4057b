import PlainSpec.Proofs.Canonical.Reading
import PlainSpec.Proofs.Canonical.Table
import PlainSpec.Proofs.Grammar.Runs

/-!
# The parts of a construct are read back

Comments, metadata, titles and blocks of data are read back as they were, in front of everything
that can follow them.  What can follow starts with comments and then a line that is not taken for
more of the part.

## Main definitions

* `Row.Fresh`: a line that starts no data.
* `Row.Next`: a condition on the next line of text.

## Main results

* `Canonical.reads_comments`, `Canonical.reads_header`, `Canonical.reads_titled`,
  `Canonical.reads_data`: the parts are read back.
-/

namespace PlainSpec

open PlainSpec.Parser Grammar Grammar.ReqsML

/-! ## What can follow -/

/-- A line that starts no data. -/
structure Row.Fresh (t : Text) : Prop where
  nonempty : t ≠ []
  noDelimiter : t ≠ Dialect.reqsml.textDelimiter
  noRow : isRow t = false

theorem isRow_eq_true {t : Text} : isRow t = true ↔ ∃ cells, splitCells t = .ok cells := by
  unfold isRow
  cases splitCells t <;> simp

theorem Text.startsWith_cons {a c : Char} (h : a ≠ c) (lead rest : Text) :
    Text.startsWith (c :: rest) (a :: lead) = false := by
  simp [Text.startsWith, Text.after?, h]

/-- Data start with a delimiter or a pipe. -/
theorem Row.fresh_cons {c : Char} (hc : c ∉ ['`', '|']) (rest : Text) : Row.Fresh (c :: rest) := by
  simp only [List.mem_cons, List.not_mem_nil, or_false, not_or] at hc
  obtain ⟨htick, hpipe⟩ := hc
  refine ⟨List.cons_ne_nil _ _, ?_, ?_⟩
  · intro heq
    exact htick (List.cons.inj heq).1
  · rw [← Bool.not_eq_true, isRow_eq_true]
    rintro ⟨cells, hcells⟩
    obtain ⟨inner, hline, -⟩ := splitCells_eq_ok.1 hcells
    exact hpipe (List.cons.inj hline).1

/-- The next line of text, if there is one, satisfies the condition. -/
def Row.Next (P : Text → Prop) (rows : List Row) : Prop := ∀ t, Row.ahead? rows = some t → P t

theorem Row.Next.solid {P : Text → Prop} {rows : List Row} (h : Row.Next P rows)
    (hP : ∀ t, P t → t ≠ []) : Row.Solid rows := fun hnil => hP [] (h [] hnil) rfl

theorem Row.Next.mono {P Q : Text → Prop} {rows : List Row} (h : Row.Next P rows)
    (hPQ : ∀ t, P t → Q t) : Row.Next Q rows := fun t ht => hPQ t (h t ht)

@[simp] theorem Row.next_nil {P : Text → Prop} : Row.Next P [] := nofun

@[simp] theorem Row.next_blank {P : Text → Prop} {rows : List Row} :
    Row.Next P (.blank :: rows) ↔ Row.Next P rows := .rfl

@[simp] theorem Row.next_text {P : Text → Prop} {content : Text} {rows : List Row} :
    Row.Next P (.text content :: rows) ↔ P content.trim := by
  simp [Row.Next]

namespace Canonical

/-! ## Comments -/

/-- The line of a comment. -/
def commentRow (comment : Text) : Row := .text ("// ".toList ++ comment)

theorem comments_some (cs : List Text) :
    Canonical.comments (some cs) = .blank :: cs.flatMap fun c => [commentRow c] := by
  rw [Canonical.comments, ← List.map_eq_flatMap]
  rfl

theorem trim_comment {c : Text} (h : c.Neat) :
    ∃ rest, Text.trim ("// ".toList ++ c) = commentMark ++ rest ∧
      Text.trim (rest.dropWhile fun d => d == '/') = c := by
  -- the blank behind the mark is lost if there is nothing behind it
  by_cases hc : c = []
  · subst hc
    exact ⟨[], by decide, by decide⟩
  · refine ⟨' ' :: c, ?_, ?_⟩
    · exact h.trim_append hc rfl (by decide)
    · have hdrop : (' ' :: c).dropWhile (fun d => d == '/') = ' ' :: c := rfl
      rw [hdrop, h.trim_space]

theorem readComment_comment {c : Text} (h : c.Neat) :
    readComment commentMark (Text.trim ("// ".toList ++ c)) = .ok c := by
  obtain ⟨rest, htrim, hrest⟩ := trim_comment h
  have hstarts : (commentMark ++ rest).startsWith commentMark = true :=
    Text.startsWith_eq_true.2 ⟨rest, rfl⟩
  have hdrop : (commentMark ++ rest).dropWhile (fun d => commentMark.head? = some d) =
      rest.dropWhile fun d => d == '/' := by
    have hpred : (fun d => decide (commentMark.head? = some d)) = fun d : Char => d == '/' := by
      funext d
      by_cases hd : d = '/'
      · subst hd
        rfl
      · simp [commentMark, hd, Ne.symm hd]
    rw [hpred]
    rfl
  rw [htrim, readComment, if_pos hstarts, hdrop, hrest]

/-- **Comments are read back.** -/
theorem reads_comments {cs : Comments} (h : LegibleComments cs) {tail : List Row}
    (htail : Row.Next (fun t => t ≠ [] ∧ t.startsWith commentMark = false) tail) :
    Reads (Grammar.comments commentMark) (Canonical.comments cs) tail (· = cs) := by
  have hend : Bars (commentLine commentMark) tail := by
    refine .line fun l v hahead hread => ?_
    have hno := (htail _ hahead).2
    unfold readComment at hread
    rw [hno] at hread
    cases hread
  have hlines (lines : List Text) (hlines : ∀ t ∈ lines, t.Neat) :
      Reads (manyWhile (commentLine commentMark) (commentLine commentMark))
        (lines.flatMap fun c => [commentRow c]) tail (· = lines) := by
    have helement : ∀ c next, c :: next <:+ lines →
        Reads (commentLine commentMark) [commentRow c]
          (next.flatMap (fun c => [commentRow c]) ++ tail) (id · = id c) := by
      intro c next hsuffix
      have hmem : ∀ t ∈ c :: next, t.Neat := fun t ht => hlines t (hsuffix.subset ht)
      refine .line (fun l hl => ⟨c, ?_, rfl⟩) ?_
      · rw [hl]
        exact readComment_comment (hmem c List.mem_cons_self)
      -- what follows a comment is another one or the tail, and neither is blank
      · cases next with
        | nil => exact htail.solid fun t ht => ht.1
        | cons d next =>
          obtain ⟨rest, htrim, -⟩ := trim_comment (hmem d (by simp))
          rw [List.flatMap_cons, List.append_assoc, List.singleton_append, commentRow,
            Row.solid_text, htrim]
          simp [commentMark]
    have hconsuming : Consuming (commentLine commentMark) := .line _
    have hreads := Reads.manyWhile hconsuming helement
      (fun c next hsuffix => (helement c next hsuffix).starts) hend
    exact hreads.mono fun v hv => by simpa using hv
  cases cs with
  | none => exact (hlines [] (by simp)).map fun v hv => by simp [hv]
  | some lines =>
    obtain ⟨hne, hneat⟩ := h lines rfl
    rw [comments_some]
    exact ((hlines lines hneat).map fun v hv => by simp [hv, hne]).blank_left

theorem next_comments {P : Text → Prop} {cs : Comments} (h : LegibleComments cs) {tail : List Row}
    (hcomment : ∀ rest, P (commentMark ++ rest)) (htail : Row.Next P tail) :
    Row.Next P (Canonical.comments cs ++ tail) := by
  cases cs with
  | none => exact htail
  | some lines =>
    obtain ⟨hne, hneat⟩ := h lines rfl
    obtain ⟨c, rest, rfl⟩ := List.exists_cons_of_ne_nil hne
    obtain ⟨rest', htrim, -⟩ := trim_comment (hneat c (by simp))
    rw [comments_some, List.flatMap_cons, List.cons_append, Row.next_blank, List.append_assoc,
      List.singleton_append, commentRow, Row.next_text, htrim]
    exact hcomment rest'

theorem solid_comments {cs : Comments} (h : LegibleComments cs) {tail : List Row}
    (htail : Row.Solid tail) : Row.Solid (Canonical.comments cs ++ tail) := by
  have hnext : Row.Next (· ≠ []) (Canonical.comments cs ++ tail) := by
    refine next_comments h (fun rest => by simp [commentMark]) fun t ht hnil => htail ?_
    rw [ht, hnil]
  exact hnext.solid fun t ht => ht

/-! ## Metadata -/

theorem readLabels_labelList {labels : List Text} (hne : labels ≠ [])
    (h : ∀ l ∈ labels, ∀ part ∈ l.splitOn ',', Text.Neat part ∧ part ≠ []) :
    readLabels (labelList labels) = .ok (labels.flatMap (List.splitOn ',')) := by
  have hinside : Text.inside? '(' ')' (labelList labels) = some (Text.join [',', ' '] labels) :=
    Text.inside?_eq_some_iff.2 rfl
  have hpart : ∀ part ∈ labels.flatMap (List.splitOn ','), Text.Neat part ∧ part ≠ [] := by
    intro part hpart
    obtain ⟨l, hl, hpart⟩ := List.mem_flatMap.1 hpart
    exact h l hl part hpart
  have hsplit : ((Text.join [',', ' '] labels).splitOn ',').map Text.trim =
      labels.flatMap (List.splitOn ',') := by
    rw [Text.map_trim_splitOn_join Text.allBlank_space (by decide) hne]
    rw [List.map_congr_left fun part hpart' => (hpart part hpart').1.trim_eq, List.map_id']
  have hfilled : (labels.flatMap (List.splitOn ',')).any List.isEmpty = false := by
    rw [← Bool.not_eq_true, List.any_eq_true]
    rintro ⟨part, hpart', hempty⟩
    exact (hpart part hpart').2 (by simpa using hempty)
  simp [readLabels, hinside, hsplit, hfilled]

theorem mem_join {separator : Text} {c : Char} {texts : List Text}
    (h : c ∈ Text.join separator texts) : c ∈ separator ∨ ∃ t ∈ texts, c ∈ t := by
  induction texts with
  | nil => simp [Text.join] at h
  | cons t texts ih =>
    cases texts with
    | nil =>
      rw [Text.join, List.intercalate_singleton] at h
      exact .inr ⟨t, by simp, h⟩
    | cons u texts =>
      rw [Text.join, List.intercalate_cons_cons, List.mem_append, List.mem_append] at h
      rcases h with (h | h) | h
      · exact .inr ⟨t, by simp, h⟩
      · exact .inl h
      · rcases ih h with h | ⟨v, hv, hc⟩
        · exact .inl h
        · exact .inr ⟨v, List.mem_cons_of_mem _ hv, hc⟩

/-- Labels that can be written stand on one line. -/
theorem oneLine_of_writable {m : Metadata} (h : m.Writable) : m.labels.Avoid '\n' := by
  intro ls hls l hl hmem
  rw [← @List.intercalate_splitOn Char l _ _ ','] at hmem
  rcases mem_join hmem with hcomma | ⟨part, hpart, hmem⟩
  · simp at hcomma
  · exact ((h.labels ls hls).2 l hl part hpart).1.oneLine hmem

theorem not_mem_labelList {c : Char} {labels : List Text} (hc : c ∉ ['(', ')', ',', ' '])
    (h : ∀ l ∈ labels, c ∉ l) : c ∉ labelList labels := by
  simp only [List.mem_cons, List.not_mem_nil, or_false, not_or] at hc
  simp only [labelList, List.cons_append, List.mem_cons, List.mem_append,
    List.not_mem_nil, or_false, not_or]
  refine ⟨hc.1, fun hmem => ?_, hc.2.1⟩
  rcases mem_join hmem with hmem | ⟨l, hl, hmem⟩
  · simp [hc.2.2] at hmem
  · exact h l hl hmem

theorem trim_labelList (labels : List Text) : (labelList labels).trim = labelList labels := by
  rw [Text.trim_eq_self_iff]
  constructor
  · rintro c ⟨⟩
    rfl
  · intro c hc
    rw [labelList, List.getLast?_concat] at hc
    cases hc
    rfl

/-- A line of metadata says what it was written for, with every label cut at its commas. -/
theorem readMetadata_metadata? {m : Metadata} (h : m.Writable) {t : Text}
    (ht : metadata? m.identifier m.labels = some t) : readMetadata t = .ok m.cut := by
  obtain ⟨identifier, labels⟩ := m
  have hbefore {i : Text} (hi : '(' ∉ i) : ∀ c ∈ i, (c == '(') = false := by
    intro c hc
    simpa using fun heq : c = '(' => hi (heq ▸ hc)
  -- the cut is at the first parenthesis, and an identifier holds none
  match identifier, labels, ht with
  | some i, none, ht =>
    cases ht
    obtain ⟨hneat, hne, hparen⟩ := h.identifier i rfl
    have hcut : Text.cutAt (· == '(') (i ++ []) = (i, []) :=
      Text.cutAt_of_forall (hbefore hparen) (by simp)
    rw [List.append_nil] at hcut
    simp [readMetadata, Text.after?, hcut, hneat.trim_eq, hne, Metadata.cut, Labels.cut]
  | none, some ls, ht =>
    cases ht
    obtain ⟨hne, hlabels⟩ := h.labels ls rfl
    have hcut : Text.cutAt (· == '(') ([] ++ labelList ls) = ([], labelList ls) :=
      Text.cutAt_of_forall (by simp) (by rintro c ⟨⟩; rfl)
    rw [List.nil_append] at hcut
    have hfilled : labelList ls ≠ [] := by simp [labelList]
    simp [readMetadata, Text.after?, hcut, trim_labelList, hfilled,
      readLabels_labelList hne hlabels, Except.map, Metadata.cut, Labels.cut]
  | some i, some ls, ht =>
    cases ht
    obtain ⟨hneat, hnonempty, hparen⟩ := h.identifier i rfl
    obtain ⟨hne, hlabels⟩ := h.labels ls rfl
    have hcut : Text.cutAt (· == '(') (i ++ [' '] ++ labelList ls) = (i ++ [' '], labelList ls) :=
      Text.cutAt_of_forall (hbefore (by simp [hparen])) (by rintro c ⟨⟩; rfl)
    rw [List.append_assoc, List.singleton_append] at hcut
    have htrim : Text.trim (i ++ [' ']) = i := by
      rw [Text.trim_append_blank Text.allBlank_space, hneat.trim_eq]
    have hfilled : labelList ls ≠ [] := by simp [labelList]
    simp [readMetadata, Text.after?, hcut, htrim, trim_labelList, hfilled, hnonempty,
      readLabels_labelList hne hlabels, Except.map, Metadata.cut, Labels.cut]

/-- A line of metadata stands on a line of its own. -/
theorem neat_metadata? {m : Metadata} (h : m.Writable) {t : Text}
    (ht : metadata? m.identifier m.labels = some t) : t.Neat ∧ ∃ rest, t = '#' :: rest := by
  obtain ⟨identifier, labels⟩ := m
  have hlabels {ls : List Text} (hls : labels = some ls) : '\n' ∉ labelList ls :=
    not_mem_labelList (by decide) (oneLine_of_writable h ls hls)
  have hends {rest : Text} (hlast : ∀ c, rest.getLast? = some c → isBlank c = false) :
      Text.trim ('#' :: rest) = '#' :: rest := by
    rw [Text.trim_eq_self_iff]
    constructor
    · rintro c ⟨⟩
      rfl
    · intro c hc
      cases rest with
      | nil => cases hc; rfl
      | cons d rest => exact hlast c (by simpa [List.getLast?_cons_cons] using hc)
  have hlast (front : Text) (ls : List Text) :
      ∀ c, (front ++ labelList ls).getLast? = some c → isBlank c = false := by
    intro c hc
    rw [labelList, ← List.append_assoc, List.getLast?_concat] at hc
    cases hc
    rfl
  cases identifier with
  | none =>
    cases labels with
    | none => cases ht
    | some ls =>
      cases ht
      exact ⟨⟨hends (hlast [] ls), by simp [hlabels rfl]⟩, _, rfl⟩
  | some i =>
    obtain ⟨hneat, -, -⟩ := h.identifier i rfl
    cases labels with
    | none =>
      cases ht
      exact ⟨⟨hends fun c hc => hneat.last hc, by simp [hneat.oneLine]⟩, i, rfl⟩
    | some ls =>
      cases ht
      refine ⟨⟨?_, by simp [hneat.oneLine, hlabels rfl]⟩, _, rfl⟩
      have := hlast (i ++ [' ']) ls
      rw [List.append_assoc, List.singleton_append] at this
      exact hends this

/-- **Metadata are read back.** -/
theorem reads_metadata {m : Metadata} (h : m.Writable) {tail : List Row}
    (htail : Row.Next (fun t => t ≠ [] ∧ t.startsWith ['#'] = false) tail) :
    Reads optionalMetadata (metadata m.identifier m.labels) tail
      (fun v => v.getD noMetadata = m.cut) := by
  unfold metadata
  cases ht : metadata? m.identifier m.labels with
  | none =>
    have hnone : m.cut = noMetadata := by
      obtain ⟨identifier, labels⟩ := m
      cases identifier <;> cases labels <;> simp_all [metadata?, noMetadata,
        Metadata.cut, Labels.cut]
    refine (Reads.whenAhead_none fun l hahead => (htail _ hahead).2).mono ?_
    rintro v rfl
    exact hnone.symm
  | some t =>
    obtain ⟨hneat, rest, rfl⟩ := neat_metadata? h ht
    have hline : Reads (check (Parser.line fun l => .ok l.trimmed) fun text =>
        (readMetadata text).mapError Invalid.whole) [.text ('#' :: rest)] tail (· = m.cut) := by
      refine (Reads.line (Q := (· = '#' :: rest)) (fun l hl => ⟨_, rfl, ?_⟩)
        (htail.solid fun t ht => ht.1)).check ?_
      · rw [hl, hneat.trim_eq]
      · rintro v rfl
        refine ⟨m.cut, ?_, rfl⟩
        rw [readMetadata_metadata? h ht]
        rfl
    refine (hline.whenAhead_some rfl fun l hl => ?_).mono ?_
    · rw [isMetadata, hl, hneat.trim_eq]
      exact Text.startsWith_eq_true.2 ⟨rest, rfl⟩
    · rintro v ⟨a, rfl, rfl⟩
      rfl

theorem next_metadata {P : Text → Prop} {m : Metadata} (h : m.Writable) {tail : List Row}
    (hmetadata : ∀ t, metadata? m.identifier m.labels = some t → P t) (htail : Row.Next P tail) :
    Row.Next P (metadata m.identifier m.labels ++ tail) := by
  unfold metadata
  cases ht : metadata? m.identifier m.labels with
  | none => exact htail
  | some t =>
    show Row.Next P (.text t :: tail)
    rw [Row.next_text, (neat_metadata? h ht).1.trim_eq]
    exact hmetadata t ht

/-! ## Headers and titles -/

/-- The line of a title, which is neither a comment nor metadata. -/
structure Plain (t : Text) : Prop where
  nonempty : t ≠ []
  noComment : t.startsWith commentMark = false
  noMetadata : t.startsWith ['#'] = false

/-- **Comments and metadata are read back.** -/
theorem reads_header {header : Header} (hcomments : LegibleComments header.comments)
    (hmetadata : header.metadata.Writable) {tail : List Row} (htail : Row.Next Plain tail) :
    Reads ReqsML.header
      (Canonical.comments header.comments ++
        metadata header.metadata.identifier header.metadata.labels) tail (· = header.cut) := by
  have hfirst : Reads (Grammar.comments commentMark) (Canonical.comments header.comments)
      (metadata header.metadata.identifier header.metadata.labels ++ tail)
        (· = header.comments) := by
    refine reads_comments hcomments (next_metadata hmetadata ?_ (htail.mono fun t ht => ?_))
    · intro t ht
      obtain ⟨-, rest, rfl⟩ := neat_metadata? hmetadata ht
      exact ⟨List.cons_ne_nil _ _, Text.startsWith_cons (by decide) _ _⟩
    · exact ⟨ht.nonempty, ht.noComment⟩
  have hsecond := reads_metadata hmetadata
    (htail.mono fun t ht => ⟨ht.nonempty, ht.noMetadata⟩)
  refine (hfirst.both hsecond).map ?_
  rintro ⟨comments, found⟩ ⟨hc, hm⟩
  dsimp only at hc hm
  show (⟨comments, found.getD noMetadata⟩ : Header) = header.cut
  rw [hc, hm, Header.cut]

/-- **Titles are read back.** -/
theorem reads_titled {keywords : List Text} {keyword title : Text} (h : title.Neat)
    (hne : title ≠ []) (hkeyword : ∃ c, keyword.head? = some c ∧ isBlank c = false)
    (hlead : leading? keywords (keyword ++ ' ' :: title) = some (keyword, ' ' :: title))
    {tail : List Row} (hs : Row.Solid tail) :
    Reads (titled keywords) [.text (keyword ++ ' ' :: title)] tail (· = title) := by
  refine .line (fun l hl => ⟨title, ?_, rfl⟩) hs
  obtain ⟨c, hc, hblank⟩ := hkeyword
  have htrim : Text.trim (keyword ++ [' '] ++ title) = keyword ++ [' '] ++ title :=
    h.trim_append hne (by rw [List.head?_append, hc]; rfl) hblank
  rw [List.append_assoc, List.singleton_append] at htrim
  rw [hl, htrim, readTitle, hlead]
  simp [h.trim_space, hne]

/-! ## Data -/

theorem trim_textDelimiter :
    Dialect.reqsml.textDelimiter.trim = Dialect.reqsml.textDelimiter := by
  decide

/-- The body of a text block, line by line, up to its delimiter. -/
theorem bodyUntil_of_lays {delimiter : Text} {body : List Text} {tail : List Row} {rest : List Line}
    (passed : List Line) (hneat : ∀ t ∈ body, t.Neat) (hdelimiter : ∀ t ∈ body, t ≠ delimiter)
    (hself : delimiter.trim = delimiter)
    (h : Row.Lays (body.map .text ++ .text delimiter :: tail) (rest.map Line.trimmed)) :
    ∃ n, bodyUntil delimiter passed rest = some (body, n) ∧
      Row.Lays tail (n.rest.map Line.trimmed) ∧ n.rest <:+ rest := by
  induction body generalizing passed rest with
  | nil =>
    generalize htexts : rest.map Line.trimmed = texts at h
    cases h with
    | text h =>
      obtain ⟨l, rest, rfl, hl, rfl⟩ := List.map_eq_cons_iff.1 htexts
      rw [hself] at hl
      refine ⟨⟨l :: passed, rest⟩, ?_, h, List.suffix_cons _ _⟩
      rw [bodyUntil, if_pos hl]
  | cons t body ih =>
    generalize htexts : rest.map Line.trimmed = texts at h
    cases h with
    | text h =>
      obtain ⟨l, rest, rfl, hl, rfl⟩ := List.map_eq_cons_iff.1 htexts
      rw [(hneat t List.mem_cons_self).trim_eq] at hl
      obtain ⟨n, hn, hlays, hsuffix⟩ :=
        @ih rest (l :: passed) (fun u hu => hneat u (List.mem_cons_of_mem _ hu))
          (fun u hu => hdelimiter u (List.mem_cons_of_mem _ hu)) h
      refine ⟨n, ?_, hlays, hsuffix.trans (List.suffix_cons _ _)⟩
      rw [bodyUntil, if_neg (by rw [hl]; exact hdelimiter t List.mem_cons_self), hn, hl]
      rfl

/-- **Text blocks are read back.** -/
theorem reads_textBlock {body : List Text} (hneat : ∀ t ∈ body, t.Neat)
    (hdelimiter : ∀ t ∈ body, t ≠ Dialect.reqsml.textDelimiter) (hfilled : ∃ t ∈ body, t ≠ [])
    {tail : List Row} (hs : Row.Solid tail) :
    Reads (textBlock .reqsml) ((Data.text (Text.join ['\n'] body)).rows.map .text) tail
      (· = .text (Text.join ['\n'] body)) := by
  have hne : body ≠ [] := by
    rintro rfl
    simp at hfilled
  have hsplit : (Text.join ['\n'] body).splitOn '\n' = body :=
    List.splitOn_intercalate '\n' (fun t ht => (hneat t ht).oneLine) hne
  intro c hc
  simp only [Data.rows, hsplit, List.cons_append, List.map_cons, List.map_append, List.map_nil,
    List.append_assoc, List.nil_append] at hc
  obtain ⟨l, hl, htext, hlays, hsound⟩ := hc.line
  obtain ⟨n, hn, htail, hsuffix⟩ :=
    bodyUntil_of_lays c.skipBlank.advance.passed hneat hdelimiter trim_textDelimiter hlays
  refine ⟨.text (Text.join ['\n'] body), n, bind_eq_ok.2 ⟨(), c.skipBlank.advance, ?_, ?_⟩, rfl,
    Cursor.at_of_lays htail (hsound.of_suffix hsuffix) hs⟩
  · refine line_eq_ok.2 ⟨l, hl, ?_, rfl⟩
    rw [htext, trim_textDelimiter, if_pos rfl]
  · have hany : body.all List.isEmpty = false := by
      obtain ⟨t, ht, hnil⟩ := hfilled
      rw [← Bool.not_eq_true, List.all_eq_true]
      exact fun hall => hnil (by simpa using hall t ht)
    unfold textBody
    rw [hn]
    simp [hany]

theorem reads_tableRows {lines : List (Text × List Text)} (hne : lines ≠ [])
    (hcuts : ∀ line ∈ lines, Cuts line.1 line.2) {tail : List Row} (hs : Row.Solid tail)
    (htail : Row.Next (fun t => isRow t = false) tail) :
    Reads tableRows ((lines.map Prod.fst).map .text) tail
      fun rows => rows.toList.map TableRow.cells = lines.map Prod.snd := by
  have hrows : (lines.map Prod.fst).map Row.text = lines.flatMap fun line => [Row.text line.1] := by
    rw [List.map_map, List.map_eq_flatMap]
    rfl
  have hend : Bars tableRow tail := by
    refine .line fun l v hahead hread => ?_
    have hno := htail _ hahead
    obtain ⟨cells, hsplit, -⟩ := Except.map_eq_ok.1 hread
    simp [isRow, hsplit] at hno
  have helement : ∀ line next, line :: next <:+ lines →
      Reads tableRow [.text line.1] (next.flatMap (fun line => [Row.text line.1]) ++ tail)
        (TableRow.cells · = line.2) := by
    intro line next hsuffix
    have hcut : ∀ other ∈ line :: next, Cuts other.1 other.2 := fun other hother =>
      hcuts other (hsuffix.subset hother)
    refine .line (fun l hl => ⟨⟨l.number, line.2⟩, ?_, rfl⟩) ?_
    · rw [hl, (hcut line List.mem_cons_self).trim_eq, (hcut line List.mem_cons_self).split]
      rfl
    · cases next with
      | nil => exact hs
      | cons other next =>
        have hother := hcut other (by simp)
        obtain ⟨rest, hrest⟩ := hother.exists_cons
        rw [List.flatMap_cons, List.append_assoc, List.singleton_append, Row.solid_text,
          hother.trim_eq, hrest]
        exact List.cons_ne_nil _ _
  rw [hrows]
  have hconsuming : Consuming tableRow := .line _
  exact Reads.severalWhile hconsuming helement
    (fun line next hsuffix => (helement line next hsuffix).starts) hend _ hne

/-- A run of rows is read as what rows with these cells are read as. -/
theorem reads_lines {d : Data} {lines : List (Text × List Text)} (hne : lines ≠ [])
    (hcuts : ∀ line ∈ lines, Cuts line.1 line.2)
    (hread : ∀ rows : Several TableRow, rows.toList.map TableRow.cells = lines.map Prod.snd →
      readRows rows = .ok d)
    {tail : List Row} (hs : Row.Solid tail) (htail : Row.Next (fun t => isRow t = false) tail) :
    Reads (Grammar.data .reqsml) ((lines.map Prod.fst).map .text) tail (· = d) := by
  intro c hc
  obtain ⟨rows, n, hrows, hcells, hn⟩ :=
    reads_tableRows hne hcuts hs htail c.skipBlank hc.skipBlank
  exact ⟨d, n, data_eq_ok.2 (.inr ⟨refuses_textBlock_of_tableRows hrows, rows, hrows,
    hread rows hcells⟩), rfl, hn⟩

/-- A run of rows is read as the data that it was written for. -/
theorem reads_rows {d : Data} {lines : List (Text × List Text)} (h : d.PrintsAs lines)
    {tail : List Row} (hs : Row.Solid tail) (htail : Row.Next (fun t => isRow t = false) tail) :
    Reads (Grammar.data .reqsml) (d.rows.map .text) tail (· = d) := by
  rw [h.rows_eq]
  exact reads_lines h.nonempty h.cuts h.read hs htail

/-- **Blocks of data are read back.** -/
theorem reads_data {d : Option Data} (hlegible : ∀ a, d = some a → a.Legible)
    (hfilled : ∀ a, d = some a → a.Filled) {tail : List Row} (htail : Row.Next Row.Fresh tail) :
    Reads (optionalData .reqsml) (Canonical.data d) tail (· = d) := by
  have hs : Row.Solid (.blank :: tail) := htail.solid fun t ht => ht.nonempty
  cases d with
  | none =>
    refine Reads.whenAhead_none fun l hahead => ?_
    have hfresh := htail _ hahead
    simp [startsData, hfresh.noDelimiter, hfresh.noRow]
  | some d =>
    -- a first line that starts data is enough, the rest is layout
    have hsome {t : Text} {rest : List Text} (hrows : d.rows = t :: rest)
        (hstarts : ∀ l : Line, l.trimmed = t.trim → startsData .reqsml l = true)
        (hreads : Reads (Grammar.data .reqsml) (d.rows.map .text) (.blank :: tail) (· = d)) :
        Reads (optionalData .reqsml) (Canonical.data (some d)) tail (· = some d) := by
      have hahead : Row.ahead? (d.rows.map .text ++ .blank :: tail) = some t.trim := by
        rw [hrows]
        rfl
      refine ((hreads.whenAhead_some hahead hstarts).mono ?_).indent.blank_right
      rintro v ⟨a, rfl, rfl⟩
      rfl
    cases hlegible d rfl with
    | text body hneat hdelimiter hfill =>
      refine hsome rfl (fun l hl => ?_)
        (.orElse_left (.orElse_left (.orElse_left (.orElse_left
          (reads_textBlock hneat hdelimiter hfill hs)))))
      simp [startsData, hl, trim_textDelimiter]
    | rows rows hcells hread =>
      obtain ⟨lines, hlines⟩ := Data.exists_printsAs hcells hread (hfilled d rfl)
      obtain ⟨line, rest, rfl⟩ := List.exists_cons_of_ne_nil hlines.nonempty
      have hcut := hlines.cuts line List.mem_cons_self
      refine hsome hlines.rows_eq (fun l hl => ?_)
        (reads_rows hlines hs (htail.mono fun t ht => ht.noRow))
      simp [startsData, hl, hcut.trim_eq, isRow, hcut.split]

end Canonical

end PlainSpec
