import PlainSpec.Canonical.Export
import PlainSpec.Proofs.Grammar.Discipline
import PlainSpec.Proofs.Parser.Yield

/-!
# What is read from the tabular dialect

Everything that the tabular dialect yields is legible: its texts are neat, and none of them holds
the characters that would cut it where it was found.  This is what canonical text needs in order to
be read back.

## Main definitions

* `LegibleComments`, `LegibleTags`, `Metadata.Legible`, `LegibleCells`: parts of a construct.
* `Labels.cut`, `Metadata.Writable`: labels that can be written, and what is read then.
* `Grammar.readRows`: the reading of a run of table rows.
* `Data.Legible`, `Statement.Legible`: a block of data and a statement that can be written.

## Main results

* `Grammar.yields_data`: blocks of data are legible.
* `Grammar.ReqsML.yields_statements`: statements are legible.
* `Grammar.Gherkin.yields_headed`: what stands above a construct of the narrative dialect.
-/

namespace PlainSpec

/-! ## Texts between marks -/

theorem Text.inside?_eq_some_iff {opening closing : Char} {text inner : Text} :
    Text.inside? opening closing text = some inner ↔ text = opening :: inner ++ [closing] := by
  cases text with
  | nil => simp [Text.inside?]
  | cons c rest =>
    simp only [Text.inside?, List.cons_append, List.cons.injEq]
    constructor
    · intro h
      split at h
      · rename_i hc
        obtain ⟨init, hinit⟩ := List.getLast?_eq_some_iff.1 hc.2
        rw [hinit, List.dropLast_concat] at h
        cases h
        exact ⟨hc.1, hinit⟩
      · cases h
    · rintro ⟨rfl, rfl⟩
      simp

/-! ## Parts of a construct -/

/-- Comments as they are read: there is at least one, and each stands on a line. -/
def LegibleComments (comments : Comments) : Prop :=
  ∀ cs, comments = some cs → cs ≠ [] ∧ ∀ t ∈ cs, t.Neat

theorem LegibleComments.none : LegibleComments none := fun _ h => nomatch h

/-- Tags as they are read: there is at least one, and each is a word. -/
def LegibleTags (tags : Labels) : Prop :=
  ∀ ts, tags = some ts → ts ≠ [] ∧ ∀ t ∈ ts, t ≠ [] ∧ ∀ c ∈ t, isBlank c = false

/-- No label holds the character. -/
def Labels.Avoid (labels : Labels) (c : Char) : Prop := ∀ ls, labels = some ls → ∀ l ∈ ls, c ∉ l

/-- The labels that are read where these are written: a label with commas is read as several. -/
def Labels.cut (labels : Labels) : Labels := labels.map fun ls => ls.flatMap (List.splitOn ',')

/-- The metadata that are read where these are written. -/
def Metadata.cut (m : Metadata) : Metadata := ⟨m.identifier, m.labels.cut⟩

/-- What is read in front of a construct where this is written. -/
def Header.cut (h : Header) : Header := ⟨h.comments, h.metadata.cut⟩

/-- An identifier and labels that can be written. -/
structure Metadata.Writable (m : Metadata) : Prop where
  /-- Labels start at the first parenthesis. -/
  identifier : ∀ i, m.identifier = some i → i.Neat ∧ i ≠ [] ∧ '(' ∉ i
  /-- Labels are cut at commas, and no part is empty. -/
  labels : ∀ ls, m.labels = some ls →
    ls ≠ [] ∧ ∀ l ∈ ls, ∀ part ∈ l.splitOn ',', Text.Neat part ∧ part ≠ []

/-- An identifier and labels as they are read. -/
structure Metadata.Legible (m : Metadata) : Prop where
  /-- Labels start at the first parenthesis. -/
  identifier : ∀ i, m.identifier = some i → i.Neat ∧ i ≠ [] ∧ '(' ∉ i
  /-- Labels are cut at commas. -/
  labels : ∀ ls, m.labels = some ls → ls ≠ [] ∧ ∀ l ∈ ls, l.Neat ∧ l ≠ [] ∧ ',' ∉ l

/-- Labels without commas are read as they are written. -/
theorem Labels.Avoid.cut_eq {labels : Labels} (h : labels.Avoid ',') : labels.cut = labels := by
  cases labels with
  | none => rfl
  | some ls =>
    have hone : ∀ l ∈ ls, l.splitOn ',' = [l] :=
      fun l hl => List.splitOn_eq_singleton (h ls rfl l hl)
    rw [Labels.cut, Option.map_some, List.flatMap_def, List.map_congr_left hone, ← List.flatMap_def,
      List.flatMap_singleton']

theorem Metadata.Legible.avoid {m : Metadata} (h : m.Legible) : m.labels.Avoid ',' :=
  fun ls hls l hl => ((h.labels ls hls).2 l hl).2.2

theorem Metadata.Legible.cut_eq {m : Metadata} (h : m.Legible) : m.cut = m := by
  rw [Metadata.cut, h.avoid.cut_eq]

/-- What is read can be written. -/
theorem Metadata.Legible.writable {m : Metadata} (h : m.Legible) : m.Writable := by
  refine ⟨h.identifier, fun ls hls => ⟨(h.labels ls hls).1, fun l hl part hpart => ?_⟩⟩
  obtain ⟨hneat, hne, hcomma⟩ := (h.labels ls hls).2 l hl
  rw [List.splitOn_eq_singleton hcomma, List.mem_singleton] at hpart
  exact hpart ▸ ⟨hneat, hne⟩

/-- Neither the identifier nor a label holds the character. -/
structure Metadata.Avoids (m : Metadata) (c : Char) : Prop where
  identifier : ∀ i, m.identifier = some i → c ∉ i
  labels : ∀ ls, m.labels = some ls → ∀ l ∈ ls, c ∉ l

/-- The cells of a row as they are read: a row is not empty, and a single cell is not empty
either. -/
structure LegibleCells (cells : List Text) : Prop where
  nonempty : cells ≠ []
  content : cells ≠ [[]]
  cell : ∀ t ∈ cells, t.Neat ∧ '|' ∉ t

namespace Grammar

open PlainSpec.Parser

/-! ## Lines -/

theorem neat_readComment {mark text t : Text} (h : readComment mark text = .ok t)
    (htext : text.Neat) : t.Neat := by
  unfold readComment at h
  split at h
  · cases h
    exact .trim fun hmem => htext.oneLine ((List.dropWhile_subset _) hmem)
  · cases h

theorem yields_comments (mark : Text) : Yields (comments mark) LegibleComments := by
  have hline : Yields (commentLine mark) Text.Neat := .line fun l v hl hv => neat_readComment hv hl
  refine (hline.many (disciplined_commentLine mark)).map fun found hfound cs hcs => ?_
  split at hcs
  · cases hcs
  · rename_i hne
    cases hcs
    exact ⟨by simpa using hne, hfound⟩

theorem mem_of_leading? {keywords : List Text} {text keyword rest : Text}
    (h : leading? keywords text = some (keyword, rest)) : text = keyword ++ rest := by
  obtain ⟨found, -, hfound⟩ := List.exists_of_findSome?_eq_some h
  obtain ⟨rest', hrest, heq⟩ := Option.map_eq_some_iff.1 hfound
  cases heq
  exact Text.after?_eq_some_iff.1 hrest

theorem keyword_of_leading? {keywords : List Text} {text keyword rest : Text}
    (h : leading? keywords text = some (keyword, rest)) : keyword ∈ keywords := by
  obtain ⟨found, hfound, heq⟩ := List.exists_of_findSome?_eq_some h
  obtain ⟨_, -, hpair⟩ := Option.map_eq_some_iff.1 heq
  cases hpair
  exact hfound

/-- A title is neat and not empty. -/
theorem neat_readTitle {keywords : List Text} {text t : Text} (h : readTitle keywords text = .ok t)
    (htext : text.Neat) : t.Neat ∧ t ≠ [] := by
  unfold readTitle at h
  split at h
  · cases h
  · rename_i keyword rest hlead
    split at h
    · cases h
    · rename_i hne
      cases h
      refine ⟨.trim fun hmem => htext.oneLine ?_, by simpa using hne⟩
      rw [mem_of_leading? hlead]
      exact List.mem_append_right _ hmem

theorem yields_titled (keywords : List Text) :
    Yields (titled keywords) fun t => t.Neat ∧ t ≠ [] :=
  .line fun _ _ hl hv => neat_readTitle hv hl

/-! ## Rows of cells -/

/-- **A row stands between two pipes and is cut at those inside.** -/
theorem splitCells_eq_ok {text : Text} {cells : List Text} :
    splitCells text = .ok cells ↔
      ∃ inner : Text, text = '|' :: inner ++ ['|'] ∧ inner.trim ≠ [] ∧
        cells = (inner.splitOn '|').map Text.trim := by
  unfold splitCells
  cases hinside : Text.inside? '|' '|' text with
  | none =>
    have hnone : ∀ inner : Text, text ≠ '|' :: inner ++ ['|'] := fun inner htext => by
      rw [← Text.inside?_eq_some_iff, hinside] at htext
      cases htext
    simp only [reduceCtorEq, false_iff]
    rintro ⟨inner, htext, -⟩
    exact hnone inner htext
  | some inner =>
    rw [Text.inside?_eq_some_iff] at hinside
    subst hinside
    simp only [List.isEmpty_iff, List.cons_append, List.cons.injEq, true_and,
      List.append_cancel_right_eq]
    constructor
    · intro h
      split at h
      · cases h
      · rename_i hne
        cases h
        exact ⟨inner, rfl, hne, rfl⟩
    · rintro ⟨_, rfl, hne, rfl⟩
      rw [if_neg hne]

theorem legibleCells_splitCells {text : Text} {cells : List Text} (h : splitCells text = .ok cells)
    (htext : '\n' ∉ text) : LegibleCells cells := by
  obtain ⟨inner, rfl, hcontent, rfl⟩ := splitCells_eq_ok.1 h
  have hone : '\n' ∉ inner := fun hmem => htext (by simp [hmem])
  refine ⟨by simp [List.splitOn_ne_nil], fun hsingle => hcontent ?_, fun t ht => ?_⟩
  · obtain ⟨part, hpart, hempty⟩ := List.map_eq_singleton_iff.1 hsingle
    have hjoin : ['|'].intercalate (inner.splitOn '|') = inner := List.intercalate_splitOn '|'
    rw [hpart, List.intercalate_singleton] at hjoin
    rw [← hjoin, hempty]
  · obtain ⟨part, hpart, rfl⟩ := List.mem_map.1 ht
    refine ⟨.trim fun hmem => hone (Text.mem_of_mem_splitOn hpart hmem), fun hmem => ?_⟩
    exact Text.not_mem_of_mem_splitOn hpart (Text.mem_of_mem_trim hmem)

theorem yields_tableRow : Yields tableRow fun row => LegibleCells row.cells := by
  refine .line fun l v hl hv => ?_
  obtain ⟨cells, hs, rfl⟩ := Except.map_eq_ok.1 hv
  exact legibleCells_splitCells hs hl.oneLine

theorem yields_tableRows :
    Yields tableRows fun rows => ∀ row ∈ rows.toList, LegibleCells row.cells :=
  yields_tableRow.several disciplined_tableRow

/-! ## Data -/

/-- Reads a run of rows by the first reading that fits in the tabular dialect. -/
def readRows (rows : Several TableRow) : Except Invalid Data :=
  match readMatrix .reqsml rows with
  | .ok d => .ok d
  | .error _ =>
    match readTable .reqsml rows with
    | .ok d => .ok d
    | .error _ =>
      match readKeyValues rows with
      | .ok d => .ok d
      | .error _ => readList rows

end Grammar

/-- A block of data as it is read. -/
inductive Data.Legible : Data → Prop where
  /-- Lines of text that are not the delimiter and not all empty. -/
  | text (body : List Text) (hneat : ∀ t ∈ body, t.Neat)
      (hdelimiter : ∀ t ∈ body, t ≠ Dialect.reqsml.textDelimiter) (hfilled : ∃ t ∈ body, t ≠ []) :
      Legible (.text (Text.join ['\n'] body))
  /-- A run of rows. -/
  | rows (rows : Several TableRow) {d : Data} (hcells : ∀ row ∈ rows.toList, LegibleCells row.cells)
      (hread : Grammar.readRows rows = .ok d) : Legible d

namespace Grammar

open PlainSpec.Parser

theorem readRows_eq_ok {rows : Several TableRow} {d : Data} :
    readRows rows = .ok d ↔
      readMatrix .reqsml rows = .ok d ∨
        (∀ d', readMatrix .reqsml rows ≠ .ok d') ∧
          (readTable .reqsml rows = .ok d ∨
            (∀ d', readTable .reqsml rows ≠ .ok d') ∧
              (readKeyValues rows = .ok d ∨
                (∀ d', readKeyValues rows ≠ .ok d') ∧ readList rows = .ok d)) := by
  unfold readRows
  cases readMatrix .reqsml rows with
  | ok m => simp
  | error e =>
    cases readTable .reqsml rows with
    | ok m => simp
    | error e => cases readKeyValues rows <;> simp

theorem exists_body {delimiter : Text} {passed rest : List Line} {body : List Text} {n : Cursor}
    (h : bodyUntil delimiter passed rest = some (body, n)) (hplain : ∀ l ∈ rest, '\n' ∉ l.text) :
    (∀ t ∈ body, t.Neat) ∧ ∀ t ∈ body, t ≠ delimiter := by
  induction rest generalizing passed body n with
  | nil => cases h
  | cons l rest ih =>
    unfold bodyUntil at h
    split at h
    · cases h
      simp
    · rename_i hdelimiter
      obtain ⟨⟨body', n'⟩, hrest, heq⟩ := Option.map_eq_some_iff.1 h
      cases heq
      obtain ⟨hneat, hne⟩ := ih hrest fun x hx => hplain x (List.mem_cons_of_mem _ hx)
      constructor
      · intro t ht
        rcases List.mem_cons.1 ht with rfl | ht
        · exact Line.neat_trimmed (hplain l List.mem_cons_self)
        · exact hneat t ht
      · intro t ht
        rcases List.mem_cons.1 ht with rfl | ht
        · exact hdelimiter
        · exact hne t ht

/-- **A text block holds lines** that are neat and not all empty, and none of them is its
delimiter. -/
theorem yields_body (dialect : Dialect) :
    Yields (textBlock dialect) fun d => ∃ body : List Text, d = .text (Text.join ['\n'] body) ∧
      (∀ t ∈ body, t.Neat) ∧ (∀ t ∈ body, t ≠ dialect.textDelimiter) ∧ ∃ t ∈ body, t ≠ [] := by
  refine (Yields.any (opening dialect)).bind (.line _) fun _ _ => ?_
  intro c d n hc hd
  unfold textBody at hd
  split at hd
  · cases hd
  · rename_i body m hbody
    split at hd
    · cases hd
    · rename_i hfilled
      cases hd
      obtain ⟨hneat, hdelimiter⟩ := exists_body hbody hc.plain
      exact ⟨body, rfl, hneat, hdelimiter, by simpa using hfilled⟩

theorem yields_textBlock : Yields (textBlock .reqsml) Data.Legible := by
  refine (yields_body .reqsml).mono ?_
  rintro _ ⟨body, rfl, hneat, hdelimiter, hfilled⟩
  exact .text body hneat hdelimiter hfilled

/-- A block of data is a text, or a run of rows and its reading. -/
theorem data_eq_ok {c n : Cursor} {d : Data} :
    data .reqsml c = .ok d n ↔
      textBlock .reqsml c.skipBlank = .ok d n ∨
        Refuses (textBlock .reqsml) c.skipBlank ∧
          ∃ rows, tableRows c.skipBlank = .ok rows n ∧ readRows rows = .ok d := by
  -- all readings start from the same rows, so a reading is refused by the rows alone
  have hrefuses (read : Several TableRow → Except Invalid Data) :
      Refuses (check tableRows read) c.skipBlank ↔
        ∀ rows m, tableRows c.skipBlank = .ok rows m → ∀ d', read rows ≠ .ok d' := by
    simp only [Refuses, ne_eq, check_eq_ok, not_exists, not_and]
    grind
  simp only [data, orElse_eq_ok, refuses_orElse, Cursor.skipBlank_skipBlank, hrefuses, check_eq_ok,
    readRows_eq_ok]
  cases htable : tableRows c.skipBlank with
  | fail e m => simp
  | ok rows m => grind

/-- **Blocks of data are legible.** -/
theorem yields_data : Yields (data .reqsml) Data.Legible := by
  intro c d n hc hd
  rcases data_eq_ok.1 hd with htext | ⟨-, rows, hrows, hread⟩
  · exact yields_textBlock _ _ _ hc.skipBlank htext
  · exact .rows rows (yields_tableRows _ _ _ hc.skipBlank hrows) hread

/-! ## Metadata -/

namespace ReqsML

theorem legible_readLabels {text : Text} {labels : List Text} (h : readLabels text = .ok labels)
    (htext : '\n' ∉ text) :
    (labels ≠ [] ∧ ∀ l ∈ labels, l.Neat ∧ l ≠ [] ∧ ',' ∉ l) ∧
      ∀ c, c ∉ text → ∀ l ∈ labels, c ∉ l := by
  unfold readLabels at h
  split at h
  · cases h
  · rename_i inner hinner
    rw [Text.inside?_eq_some_iff] at hinner
    have hmem {part : Text} {c : Char} (hpart : part ∈ inner.splitOn ',') (hc : c ∈ part) :
        c ∈ text := by
      have := Text.mem_of_mem_splitOn hpart hc
      simp [hinner, this]
    dsimp only at h
    split at h
    · cases h
    · rename_i hempty
      cases h
      refine ⟨⟨by simp [List.splitOn_ne_nil], fun l hl => ?_⟩, fun c hc l hl hmem' => ?_⟩
      · obtain ⟨part, hpart, rfl⟩ := List.mem_map.1 hl
        refine ⟨.trim fun h => htext (hmem hpart h), fun hnil => hempty ?_, fun h => ?_⟩
        · exact List.any_eq_true.2 ⟨_, hl, by simp [hnil]⟩
        · exact Text.not_mem_of_mem_splitOn hpart (Text.mem_of_mem_trim h)
      · obtain ⟨part, hpart, rfl⟩ := List.mem_map.1 hl
        exact hc (hmem hpart (Text.mem_of_mem_trim hmem'))

/-- Metadata are legible and hold no character that was not there. -/
theorem legible_readMetadata {text : Text} {m : Metadata} (h : readMetadata text = .ok m)
    (htext : '\n' ∉ text) : m.Legible ∧ ∀ c, c ∉ text → m.Avoids c := by
  unfold readMetadata at h
  split at h
  · cases h
  · rename_i rest hrest
    rw [Text.after?_eq_some_iff] at hrest
    have hsub {c : Char} (hc : c ∈ rest) : c ∈ text := by simp [hrest, hc]
    have hidentifier {c : Char} (hc : c ∈ (Text.cutAt (· == '(') rest).1.trim) : c ∈ text :=
      hsub (Text.mem_of_mem_cutAt_fst (Text.mem_of_mem_trim hc))
    have hlabels {c : Char} (hc : c ∈ (Text.cutAt (· == '(') rest).2.trim) : c ∈ text :=
      hsub (Text.mem_of_mem_cutAt_snd (Text.mem_of_mem_trim hc))
    have hneat : (Text.cutAt (· == '(') rest).1.trim.Neat :=
      .trim fun hc => htext (hsub (Text.mem_of_mem_cutAt_fst hc))
    have hparen : '(' ∉ (Text.cutAt (· == '(') rest).1.trim := fun hc =>
      Text.not_mem_cutAt_fst rest '(' (Text.mem_of_mem_trim hc)
    dsimp only at h
    split at h
    · cases h
    · rename_i hsome
      split at h
      · rename_i hnone
        cases h
        refine ⟨⟨?_, nofun⟩, fun c hc => ⟨?_, nofun⟩⟩
        · rintro i ⟨⟩
          refine ⟨hneat, fun hnil => hsome ?_, hparen⟩
          simp [hnil, hnone]
        · rintro i ⟨⟩ hmem
          exact hc (hidentifier hmem)
      · obtain ⟨labels, hl, rfl⟩ := Except.map_eq_ok.1 h
        obtain ⟨hlegible, havoid⟩ := legible_readLabels hl fun hc => htext (hlabels hc)
        refine ⟨⟨?_, ?_⟩, fun c hc => ⟨?_, ?_⟩⟩
        · intro i hi
          dsimp only at hi
          split at hi
          · cases hi
          · rename_i hne
            cases hi
            exact ⟨hneat, by simpa using hne, hparen⟩
        · rintro ls ⟨⟩
          exact hlegible
        · intro i hi hmem
          dsimp only at hi
          split at hi
          · cases hi
          · cases hi
            exact hc (hidentifier hmem)
        · rintro ls ⟨⟩
          exact havoid c fun hmem => hc (hlabels hmem)

theorem legible_noMetadata : noMetadata.Legible := ⟨nofun, nofun⟩

/-- **Comments and metadata in front of a construct are legible.** -/
theorem yields_header :
    Yields header fun h => LegibleComments h.comments ∧ h.metadata.Legible := by
  have hmetadata : Yields optionalMetadata fun m => ∀ a, m = some a → a.Legible := by
    refine Yields.whenAhead (Yields.check (P := Text.Neat) (.line fun l v hl hv => ?_)
      fun text m htext hm => ?_)
    · cases hv
      exact hl
    · exact (legible_readMetadata (Except.mapError_eq_ok.1 hm) htext.oneLine).1
  refine ((yields_comments commentMark).both (disciplined_comments _) hmetadata).map ?_
  rintro ⟨comments, metadata⟩ ⟨hcomments, hlegible⟩
  refine ⟨hcomments, ?_⟩
  cases metadata with
  | none => exact legible_noMetadata
  | some m => exact hlegible m rfl

end ReqsML

/-! ## Tags -/

namespace Gherkin

theorem legible_readTags {text : Text} {tags : List Text} (h : readTags text = .ok tags) :
    ∀ t ∈ tags, t ≠ [] ∧ ∀ c ∈ t, isBlank c = false := by
  have hmap := Except.mapM_eq_ok.1 h
  intro t ht
  have hmem : Except.ok t ∈ tags.map (Except.ok : Text → Except Fault Text) :=
    List.mem_map_of_mem ht
  rw [← hmap] at hmem
  obtain ⟨word, hword, hread⟩ := List.mem_map.1 hmem
  have hplain := Text.isBlank_of_mem_words hword
  split at hread
  · cases hread
    exact ⟨List.cons_ne_nil _ _, fun c hc => hplain c (List.mem_cons_of_mem _ hc)⟩
  · cases hread

/-- **Comments and tags in front of a construct.** -/
theorem yields_header : Yields header fun h => LegibleComments h.comments ∧ LegibleTags h.tags := by
  have htags : Yields optionalTags LegibleTags := by
    intro c tags n hc hread ts hts
    rcases whenAhead_eq_ok.1 hread with ⟨hahead, found, hfound, rfl⟩ | ⟨-, rfl, -⟩
    · cases hts
      obtain ⟨text, hline, hok⟩ := check_eq_ok.1 hfound
      obtain ⟨l, hl, htext, -⟩ := line_eq_ok.1 hline
      cases htext
      have hwords := Except.mapError_eq_ok.1 hok
      refine ⟨?_, legible_readTags hwords⟩
      rintro rfl
      rw [hl, Option.any_some, isTagLine, Text.startsWith_eq_true] at hahead
      obtain ⟨rest, hrest⟩ := hahead
      have hnil := Except.mapM_eq_ok.1 hwords
      rw [List.map_nil, List.map_eq_nil_iff, hrest] at hnil
      exact Text.words_cons_ne_nil (by decide) rest hnil
    · cases hts
  refine ((((yields_comments commentMark).both (disciplined_comments _) htags).both
    ((disciplined_comments _).both disciplined_optionalTags) (yields_comments commentMark))).map ?_
  rintro ⟨⟨before, tags⟩, after⟩ ⟨⟨hbefore, htags⟩, hafter⟩
  refine ⟨?_, htags⟩
  match before, after with
  | none, after => exact hafter
  | some before, none => exact hbefore
  | some before, some after =>
    rintro _ ⟨⟩
    obtain ⟨hne, hneat⟩ := hbefore before rfl
    refine ⟨by simp [hne], fun t ht => ?_⟩
    rcases List.mem_append.1 ht with ht | ht
    · exact hneat t ht
    · exact (hafter after rfl).2 t ht

/-- The title of a construct, with what stands in front of it. -/
theorem yields_headed (keywords : List Text) :
    Yields (first (both header (titled keywords)) freeText) fun v =>
      (LegibleComments v.1.comments ∧ LegibleTags v.1.tags) ∧ v.2.Neat ∧ v.2 ≠ [] :=
  (yields_header.both disciplined_header (yields_titled keywords)).first

end Gherkin

end Grammar

/-! ## Statements -/

/-- A statement as it is read. -/
structure Statement.Legible (s : Statement) : Prop where
  comments : LegibleComments s.comments
  description : s.description.Neat
  nonempty : s.description ≠ []
  data : ∀ d, s.data = some d → d.Legible
  placed : s.line.isSome = true

namespace Grammar.ReqsML

open PlainSpec.Parser

theorem yields_statementWith {heading : Parser Heading} {Q : Text → Prop}
    (hd : Disciplined heading) (h : Yields heading fun h => Q h.description) :
    Yields (statementWith .reqsml commentMark heading) fun s =>
      LegibleComments s.comments ∧ Q s.description ∧ (∀ d, s.data = some d → d.Legible) ∧
        s.line.isSome = true := by
  have hfront := (yields_comments commentMark).both (disciplined_comments _) h
  have hdata : Yields (optionalData .reqsml) fun d => ∀ a, d = some a → a.Legible :=
    yields_data.whenAhead
  refine (hfront.both ((disciplined_comments _).both hd) hdata).map ?_
  rintro ⟨⟨comments, heading⟩, data⟩ ⟨⟨hcomments, hheading⟩, hdata⟩
  exact ⟨hcomments, hheading, hdata, rfl⟩

/-- The line of a statement is its keyword, a colon and its text. -/
theorem exists_of_readKeyword {text t : Text} {kind : StatementKind}
    (h : readKeyword text = .ok (kind, t)) :
    ∃ rest : Text, text = kind.keyword ++ ':' :: rest ∧ t = rest.trim := by
  unfold readKeyword at h
  split at h
  · cases h
  · rename_i word rest hsplit
    split at h
    · cases h
    · rename_i hkind
      cases h
      have hword : kind.keyword = word := by
        simpa using List.find?_some hkind
      exact ⟨rest, hword ▸ Text.eq_of_splitFirst? hsplit, rfl⟩

theorem neat_readKeyword {text t : Text} {kind : StatementKind}
    (h : readKeyword text = .ok (kind, t)) (htext : text.Neat) : t.Neat := by
  obtain ⟨rest, rfl, rfl⟩ := exists_of_readKeyword h
  exact .trim fun hmem => htext.oneLine (by simp [hmem])

theorem yields_statement :
    Yields statement fun s =>
      LegibleComments s.comments ∧ s.description.Neat ∧ (∀ d, s.data = some d → d.Legible) ∧
        s.line.isSome = true := by
  refine yields_statementWith disciplined_keywordLine (.line fun l h hl hh => ?_)
  obtain ⟨⟨kind, text⟩, hr, rfl⟩ := Except.map_eq_ok.1 hh
  exact neat_readKeyword hr hl

theorem neat_readBullet {text t : Text} (h : readBullet text = .ok t) (htext : text.Neat) :
    t.Neat ∧ t ≠ [] := by
  cases text with
  | nil => cases h
  | cons c rest =>
    simp only [readBullet] at h
    split at h
    · cases h
    · split at h
      · cases h
      · rename_i hne
        cases h
        exact ⟨.trim fun hmem => htext.oneLine (List.mem_cons_of_mem _ hmem), by simpa using hne⟩

theorem yields_bullets (kind : StatementKind) :
    Yields (bullets kind) fun items => ∀ s ∈ items, s.Legible := by
  have hbullet :
      Yields (statementWith .reqsml commentMark (bulletLine kind)) Statement.Legible := by
    refine (yields_statementWith (Q := fun t => t.Neat ∧ t ≠ []) (disciplined_bulletLine kind)
      (.line fun l h hl hh => ?_)).mono ?_
    · obtain ⟨text, hr, rfl⟩ := Except.map_eq_ok.1 hh
      exact neat_readBullet hr hl
    · rintro s ⟨hcomments, ⟨hneat, hne⟩, hdata, hplaced⟩
      exact ⟨hcomments, hneat, hne, hdata, hplaced⟩
  exact hbullet.many (disciplined_bullet kind)

theorem yields_statementGroup :
    Yields statementGroup fun ss => ss ≠ [] ∧ ∀ s ∈ ss, s.Legible := by
  refine Yields.orElse (yields_statement.check ?_) (Yields.check (P := fun v =>
    ∀ s ∈ v.2, s.Legible) (yields_statement.bind disciplined_statement fun keyword _ =>
      (yields_bullets keyword.kind).map fun items h => h) ?_)
  · rintro s ss ⟨hcomments, hneat, hdata, hplaced⟩ hs
    split at hs
    · cases hs
    · rename_i hne
      cases hs
      refine ⟨by simp, fun s' hs' => ?_⟩
      rw [List.mem_singleton.1 hs']
      exact ⟨hcomments, hneat, by simpa using hne, hdata, hplaced⟩
  · rintro ⟨keyword, items⟩ ss hitems hss
    dsimp only at hss
    split at hss
    · cases hss
    · rename_i hfault
      cases hss
      refine ⟨?_, hitems⟩
      rintro rfl
      simp [listFault?] at hfault

/-- **Statements are legible, and there is at least one.** -/
theorem yields_statements : Yields statements fun ss => ss ≠ [] ∧ ∀ s ∈ ss, s.Legible :=
  yields_statementGroup.flatten disciplined_statementGroup

end Grammar.ReqsML

end PlainSpec
