import Mathlib.Data.List.TakeWhile
import PlainSpec.Proofs.Text.Neat
import PlainSpec.Template.Token

/-!
# The tokens of a template

A token is a stretch `<…>` of a line, and tokens are found from left to right, each as short as it
can be.  Both are said here without the scan that finds them: `Opens` tells which stretch at the
start of a text is a token, and `Scans` goes over a text from the left and takes a token wherever
there is one.

The tokens of a template are gathered from its title, from what its statements say, and from the
data below them.  Which texts these are is listed by the kinds of data in `Data.HasText`: a key
counts as well as its value, and so does the name of a row or of a column.

## Main definitions

* `Template.Opens`, `Template.Scans`: the tokens of a text.
* `Template.HasToken`: a text with a token of a name.
* `Template.HasRun`: a text with a stretch that could be a token.
* `Data.HasText`, `Statement.HasText`, `ExampleSet.HasText`: the texts that may hold tokens.

## Main results

* `Template.scans_iff`: the scan finds the tokens.
* `ExampleSet.mem_tokens_iff`: the tokens of a template are those of its texts.
* `Statement.tokens_eq_nil_iff`: a statement has no token if none of its texts has such a stretch.
-/

namespace PlainSpec

/-- What stands between the brackets of a token. -/
def Piece.body? : Piece → Option Text
  | plain _ => none
  | token body => some body

namespace Template

/-! ## Tokens of a text -/

/-- A token at the start of a text, by what stands between its brackets, and what follows it.  It
stands on one line, has a character between its brackets, and is as short as it can be. -/
structure Opens (t body after : Text) : Prop where
  text_eq : t = '<' :: body ++ '>' :: after
  nonempty : body ≠ []
  oneLine : '\n' ∉ body
  shortest : '>' ∉ body.tail

/-- The tokens of a text from left to right, by what stands between their brackets. -/
inductive Scans : Text → List Text → Prop where
  | nil : Scans [] []
  | token {t body after : Text} {bodies : List Text} (opens : Opens t body after)
      (rest : Scans after bodies) : Scans t (body :: bodies)
  | skip {c : Char} {rest : Text} {bodies : List Text}
      (plain : ∀ body after, ¬ Opens (c :: rest) body after) (scans : Scans rest bodies) :
      Scans (c :: rest) bodies

/-- A text with a stretch `<…>` on one of its lines. -/
def HasRun (t : Text) : Prop :=
  ∃ before body after, t = before ++ '<' :: body ++ '>' :: after ∧ body ≠ [] ∧ '\n' ∉ body

/-- **A token ends at the first bracket that can close it**, on the line that it starts on. -/
theorem body?_eq_some_iff {t body after : Text} :
    body? t = some (body, after) ↔ Opens ('<' :: t) body after := by
  constructor
  · intro h
    have htext := eq_of_body? h
    cases t with
    | nil => cases h
    | cons c rest =>
      simp only [body?] at h
      split at h
      · cases h
      · rename_i hc
        split at h
        · cases h
          have hstop : ∀ d ∈ rest.takeWhile (fun d => d ≠ '>' && d ≠ '\n'), d ≠ '>' ∧ d ≠ '\n' := by
            intro d hd
            simpa using List.all_eq_true.1 List.all_takeWhile d hd
          refine ⟨by rw [htext]; rfl, List.cons_ne_nil _ _, fun hmem => ?_, fun hmem => ?_⟩
          · rcases List.mem_cons.1 hmem with heq | hmem
            · exact hc heq.symm
            · exact (hstop _ hmem).2 rfl
          · exact (hstop _ hmem).1 rfl
        · cases h
  · rintro ⟨htext, hne, hline, hshort⟩
    obtain ⟨c, rest, rfl⟩ := List.exists_cons_of_ne_nil hne
    obtain ⟨hc, hrest⟩ := not_or.1 (mt List.mem_cons.2 hline)
    have hall : ∀ d ∈ rest, (d ≠ '>' && d ≠ '\n') = true := by
      intro d hd
      have hclose : d ≠ '>' := ne_of_mem_of_not_mem hd hshort
      have hbreak : d ≠ '\n' := ne_of_mem_of_not_mem hd hrest
      simp [hclose, hbreak]
    obtain rfl : t = c :: (rest ++ '>' :: after) := (List.cons.inj htext).2
    have htake : (rest ++ '>' :: after).takeWhile (fun d => d ≠ '>' && d ≠ '\n') = rest := by
      rw [List.takeWhile_append_of_pos hall, List.takeWhile_cons_of_neg (by simp), List.append_nil]
    have hdrop : (rest ++ '>' :: after).dropWhile (fun d => d ≠ '>' && d ≠ '\n') =
        '>' :: after := by
      rw [List.dropWhile_append_of_pos hall, List.dropWhile_cons_of_neg (by simp)]
    rw [body?, if_neg (Ne.symm hc), htake, hdrop]
    rfl

/-- What stands between the brackets of the tokens that the scan finds. -/
def bodies (t : Text) : List Text := (pieces t).filterMap Piece.body?

theorem scans_bodies (t : Text) : Scans t (bodies t) := by
  unfold bodies
  fun_induction pieces t with
  | case1 => exact .nil
  | case2 rest body after hfound ih => exact .token (body?_eq_some_iff.1 hfound) ih
  | case3 rest hnone ih =>
    refine .skip (fun body after hopens => ?_) ih
    rw [body?_eq_some_iff.2 hopens] at hnone
    cases hnone
  | case4 c rest hc ih =>
    refine .skip (fun body after hopens => ?_) ih
    exact hc (List.cons.inj hopens.text_eq).1

/-- A text is scanned in one way only. -/
theorem Scans.unique {t : Text} {found found' : List Text} (h : Scans t found)
    (h' : Scans t found') :
    found = found' := by
  induction h generalizing found' with
  | nil =>
    cases h' with
    | nil => rfl
    | token opens _ => cases opens.text_eq
  | @token t body after _ opens _ ih =>
    obtain ⟨rest, rfl⟩ : ∃ rest, t = '<' :: rest := ⟨_, opens.text_eq⟩
    cases h' with
    | token opens' rest' =>
      have hsame := (body?_eq_some_iff.2 opens).symm.trans (body?_eq_some_iff.2 opens')
      cases hsame
      rw [ih rest']
    | skip plain _ => exact absurd opens (plain _ _)
  | skip plain _ ih =>
    cases h' with
    | token opens _ => exact absurd opens (plain _ _)
    | skip _ scans => exact ih scans

/-- **The scan finds the tokens.** -/
theorem scans_iff {t : Text} {found : List Text} : Scans t found ↔ found = bodies t := by
  constructor
  · exact fun h => h.unique (scans_bodies t)
  · rintro rfl
    exact scans_bodies t

/-- What stands between the brackets of a token is told by what opens it. -/
theorem exists_opens_of_mem_pieces {t body : Text} (h : .token body ∈ pieces t) :
    ∃ rest after, Opens rest body after := by
  fun_induction pieces t with
  | case1 => cases h
  | case2 rest found after hfound ih =>
    rcases List.mem_cons.1 h with heq | h
    · cases heq
      exact ⟨_, after, body?_eq_some_iff.1 hfound⟩
    · exact ih h
  | case3 rest hfound ih => exact ih ((List.mem_cons.1 h).resolve_left Piece.noConfusion)
  | case4 c rest hc ih => exact ih ((List.mem_cons.1 h).resolve_left Piece.noConfusion)

/-- A stretch that is closed on its line opens a token, which may be closed earlier. -/
theorem exists_opens {body : Text} (after : Text) (hne : body ≠ []) (hline : '\n' ∉ body) :
    ∃ body' after', Opens ('<' :: body ++ '>' :: after) body' after' := by
  obtain ⟨c, rest, rfl⟩ := List.exists_cons_of_ne_nil hne
  obtain ⟨hc, hrest⟩ := not_or.1 (mt List.mem_cons.2 hline)
  have hclose : '>' ∈ rest ++ '>' :: after := List.mem_append_right _ List.mem_cons_self
  obtain ⟨inner, after', hsplit, hshort⟩ := List.eq_append_cons_of_mem hclose
  refine ⟨c :: inner, after', by simp [hsplit], List.cons_ne_nil _ _, ?_, hshort⟩
  have hinner : inner <+: rest := by
    rcases List.append_eq_append_iff.1 hsplit with ⟨middle, rfl, hmiddle⟩ | ⟨middle, rfl, -⟩
    · cases middle with
      | nil => simp
      | cons d middle =>
        obtain ⟨rfl, -⟩ := List.cons.inj hmiddle
        exact absurd (List.mem_append_right _ List.mem_cons_self) hshort
    · exact List.prefix_append _ _
  exact not_or.2 ⟨hc, fun hmem => hrest (hinner.subset hmem)⟩ ∘ List.mem_cons.1

theorem exists_mem_pieces_of_hasRun {t : Text} (h : HasRun t) : ∃ body, .token body ∈ pieces t := by
  obtain ⟨before, body, after, htext, hne, hline⟩ := h
  fun_induction pieces t generalizing before with
  | case1 => simp at htext
  | case2 rest found after' hfound ih => exact ⟨found, List.mem_cons_self⟩
  | case3 rest hnone ih =>
    cases before with
    | nil =>
      obtain ⟨body', after', hopens⟩ := exists_opens after hne hline
      have hstart : '<' :: rest = '<' :: body ++ '>' :: after := htext
      rw [← hstart, ← body?_eq_some_iff, hnone] at hopens
      cases hopens
    | cons c before =>
      obtain ⟨found, hfound⟩ := ih before (List.cons.inj htext).2
      exact ⟨found, List.mem_cons_of_mem _ hfound⟩
  | case4 c rest hc ih =>
    cases before with
    | nil => exact absurd (List.cons.inj htext).1 hc
    | cons d before =>
      obtain ⟨found, hfound⟩ := ih before (List.cons.inj htext).2
      exact ⟨found, List.mem_cons_of_mem _ hfound⟩

/-- **A text has a token exactly if it has a stretch that could be one.** -/
theorem names_eq_nil_iff {t : Text} : names t = [] ↔ ¬ HasRun t := by
  constructor
  · intro hnil hrun
    obtain ⟨body, hbody⟩ := exists_mem_pieces_of_hasRun hrun
    have hname : Piece.trimBrackets body ∈ names t := List.mem_filterMap.2 ⟨_, hbody, rfl⟩
    rw [hnil] at hname
    cases hname
  · intro hnone
    refine List.eq_nil_iff_forall_not_mem.2 fun name hname => hnone ?_
    obtain ⟨piece, hpiece, hname⟩ := List.mem_filterMap.1 hname
    cases piece with
    | plain c => cases hname
    | token body =>
      obtain ⟨rest, after, hopens⟩ := exists_opens_of_mem_pieces hpiece
      obtain ⟨before, behind, hsplit⟩ := List.append_of_mem hpiece
      have htext := plain_pieces t
      rw [hsplit, List.flatMap_append, List.flatMap_cons] at htext
      exact ⟨before.flatMap Piece.text, body, behind.flatMap Piece.text,
        by simp [← htext, Piece.text], hopens.nonempty, hopens.oneLine⟩

/-! ## Names -/

/-- A name with the brackets around it, as many as there are. -/
structure Strips (body name : Text) : Prop where
  around : ∃ front back, body = front ++ name ++ back ∧ ∀ c ∈ front ++ back, c = '<' ∨ c = '>'
  first : ∀ c, name.head? = some c → c ≠ '<' ∧ c ≠ '>'
  last : ∀ c, name.getLast? = some c → c ≠ '<' ∧ c ≠ '>'

/-- Characters in front that are dropped, and one behind them that is not. -/
theorem dropWhile_append_of_head {p : Char → Bool} {front rest : Text}
    (hfront : ∀ c ∈ front, p c = true)
    (hrest : ∀ c, rest.head? = some c → p c = false) : (front ++ rest).dropWhile p = rest := by
  rw [List.dropWhile_append_of_pos hfront]
  cases rest with
  | nil => rfl
  | cons c rest => rw [List.dropWhile_cons_of_neg (by simp [hrest c rfl])]

theorem isBracket_iff {c : Char} : Piece.isBracket c = true ↔ c = '<' ∨ c = '>' := by
  simp [Piece.isBracket]

theorem Strips.eq_trimBrackets {body name : Text} (h : Strips body name) :
    name = Piece.trimBrackets body := by
  obtain ⟨⟨front, back, rfl, hbrackets⟩, hfirst, hlast⟩ := h
  obtain ⟨hfront, hback⟩ := List.forall_mem_append.1 hbrackets
  unfold Piece.trimBrackets
  by_cases hname : name = []
  · subst hname
    have hall : ∀ c ∈ front ++ [] ++ back, Piece.isBracket c = true := by
      intro c hc
      rw [List.append_nil] at hc
      exact isBracket_iff.2 (hbrackets c hc)
    rw [List.dropWhile_eq_nil_iff.2 hall]
    rfl
  · have hdrop : (front ++ name ++ back).dropWhile Piece.isBracket = name ++ back := by
      rw [List.append_assoc]
      refine dropWhile_append_of_head (fun c hc => isBracket_iff.2 (hfront c hc)) fun c hc => ?_
      rw [List.head?_append, Option.or_of_isSome (List.isSome_head?.2 hname)] at hc
      exact Bool.eq_false_iff.2 fun hbracket =>
        absurd (isBracket_iff.1 hbracket) (not_or.2 (hfirst c hc))
    have hreverse : (name ++ back).reverse.dropWhile Piece.isBracket = name.reverse := by
      rw [List.reverse_append]
      refine dropWhile_append_of_head (fun c hc => ?_) fun c hc => ?_
      · exact isBracket_iff.2 (hback c (List.mem_reverse.1 hc))
      · rw [List.head?_reverse] at hc
        exact Bool.eq_false_iff.2 fun hbracket =>
          absurd (isBracket_iff.1 hbracket) (not_or.2 (hlast c hc))
    rw [hdrop, hreverse, List.reverse_reverse]

theorem strips_trimBrackets (body : Text) : Strips body (Piece.trimBrackets body) := by
  have hnot : ∀ {t : Text} {c : Char}, (t.dropWhile Piece.isBracket).head? = some c →
      c ≠ '<' ∧ c ≠ '>' := by
    intro t c hc
    have hstop := List.head?_dropWhile_not Piece.isBracket t
    rw [hc] at hstop
    exact not_or.1 fun hbracket => Bool.noConfusion ((isBracket_iff.2 hbracket).symm.trans hstop)
  have hbrackets : ∀ {t : Text}, ∀ c ∈ t.takeWhile Piece.isBracket, c = '<' ∨ c = '>' :=
    fun c hc => isBracket_iff.1 (List.all_eq_true.1 List.all_takeWhile c hc)
  have hprefix : Piece.trimBrackets body <+: body.dropWhile Piece.isBracket := by
    have hsuffix :=
      List.dropWhile_suffix Piece.isBracket (l := (body.dropWhile Piece.isBracket).reverse)
    simpa [Piece.trimBrackets] using List.reverse_prefix.2 hsuffix
  refine ⟨⟨body.takeWhile Piece.isBracket,
    ((body.dropWhile Piece.isBracket).reverse.takeWhile Piece.isBracket).reverse, ?_, ?_⟩, ?_, ?_⟩
  · rw [Piece.trimBrackets, List.append_assoc, ← List.reverse_append,
      List.takeWhile_append_dropWhile, List.reverse_reverse, List.takeWhile_append_dropWhile]
  · intro c hc
    rcases List.mem_append.1 hc with hc | hc
    · exact hbrackets c hc
    · exact hbrackets c (List.mem_reverse.1 hc)
  · intro c hc
    obtain ⟨back, hback⟩ := hprefix
    refine hnot (t := body) ?_
    rw [← hback, List.head?_append, hc]
    rfl
  · intro c hc
    rw [Piece.trimBrackets, List.getLast?_reverse] at hc
    exact hnot hc

/-- A text with a token of a name. -/
def HasToken (t name : Text) : Prop := ∃ found, Scans t found ∧ ∃ body ∈ found, Strips body name

theorem mem_names_iff {t name : Text} : name ∈ names t ↔ HasToken t name := by
  have hnames : name ∈ names t ↔ ∃ body ∈ bodies t, Piece.trimBrackets body = name := by
    have hname : ∀ piece : Piece, piece.name? = piece.body?.map Piece.trimBrackets := by
      intro piece
      cases piece <;> rfl
    simp only [names, bodies, List.mem_filterMap, hname, Option.map_eq_some_iff]
    exact ⟨fun ⟨piece, hpiece, body, hbody, heq⟩ => ⟨body, ⟨piece, hpiece, hbody⟩, heq⟩,
      fun ⟨body, ⟨piece, hpiece, hbody⟩, heq⟩ => ⟨piece, hpiece, body, hbody, heq⟩⟩
  rw [hnames]
  constructor
  · rintro ⟨body, hbody, rfl⟩
    exact ⟨bodies t, scans_bodies t, body, hbody, strips_trimBrackets body⟩
  · rintro ⟨found, hscans, body, hbody, hstrips⟩
    exact ⟨body, scans_iff.1 hscans ▸ hbody, hstrips.eq_trimBrackets.symm⟩

theorem mem_trimBrackets {t : Text} {c : Char} (h : c ∈ Piece.trimBrackets t) : c ∈ t := by
  obtain ⟨⟨front, back, htext, -⟩, -, -⟩ := strips_trimBrackets t
  rw [htext]
  exact List.mem_append_left _ (List.mem_append_right _ h)

/-- A closing bracket can only stand at the start of a token, where it is cut off from its name. -/
theorem not_mem_trimBrackets {body : Text} (h : '>' ∉ body.tail) :
    '>' ∉ Piece.trimBrackets body := by
  intro hmem
  cases body with
  | nil => exact absurd (mem_trimBrackets hmem) List.not_mem_nil
  | cons c rest =>
    by_cases hc : c = '>'
    · have hdrop : Piece.trimBrackets (c :: rest) = Piece.trimBrackets rest := by
        rw [Piece.trimBrackets, List.dropWhile_cons_of_pos (isBracket_iff.2 (.inr hc))]
        rfl
      exact h (mem_trimBrackets (hdrop ▸ hmem))
    · rcases List.mem_cons.1 (mem_trimBrackets hmem) with heq | hmem
      · exact hc heq.symm
      · exact h hmem

theorem mem_of_mem_names {t name : Text} (h : name ∈ names t) : '\n' ∉ name ∧ '>' ∉ name := by
  obtain ⟨piece, hpiece, hname⟩ := List.mem_filterMap.1 h
  cases piece with
  | plain c => cases hname
  | token body =>
    cases hname
    obtain ⟨rest, after, hopens⟩ := exists_opens_of_mem_pieces hpiece
    exact ⟨fun hmem => hopens.oneLine (mem_trimBrackets hmem), not_mem_trimBrackets hopens.shortest⟩

end Template

/-! ## Texts of a template -/

/-- A text of a block of data. -/
inductive Data.HasText : Data → Text → Prop where
  | content (t : Text) : HasText (.text t) t
  | item {items : List Text} {t : Text} (h : t ∈ items) : HasText (.list items) t
  | key {pairs : OrderedMap Text Text} {key value : Text} (h : (key, value) ∈ pairs.entries) :
      HasText (.keyValues pairs) key
  | value {pairs : OrderedMap Text Text} {key value : Text} (h : (key, value) ∈ pairs.entries) :
      HasText (.keyValues pairs) value
  | tableColumn {rows : List (OrderedMap Text Text)} {row : OrderedMap Text Text}
      {column cell : Text}
      (hrow : row ∈ rows) (h : (column, cell) ∈ row.entries) : HasText (.table rows) column
  | tableCell {rows : List (OrderedMap Text Text)} {row : OrderedMap Text Text} {column cell : Text}
      (hrow : row ∈ rows) (h : (column, cell) ∈ row.entries) : HasText (.table rows) cell
  | matrixRow {rows : OrderedMap Text (OrderedMap Text Text)} {key : Text}
      {row : OrderedMap Text Text}
      (hrow : (key, row) ∈ rows.entries) : HasText (.matrix rows) key
  | matrixColumn {rows : OrderedMap Text (OrderedMap Text Text)} {key : Text}
      {row : OrderedMap Text Text} {column cell : Text} (hrow : (key, row) ∈ rows.entries)
      (h : (column, cell) ∈ row.entries) : HasText (.matrix rows) column
  | matrixCell {rows : OrderedMap Text (OrderedMap Text Text)} {key : Text}
      {row : OrderedMap Text Text} {column cell : Text} (hrow : (key, row) ∈ rows.entries)
      (h : (column, cell) ∈ row.entries) : HasText (.matrix rows) cell

/-- A text of a statement: what it says, or a text of the data below it. -/
inductive Statement.HasText (s : Statement) : Text → Prop where
  | description : s.HasText s.description
  | data {d : Data} {t : Text} (hdata : s.data = some d) (h : d.HasText t) : s.HasText t

/-- A text of a template: its title, or a text of one of its statements. -/
inductive ExampleSet.HasText (set : ExampleSet) : Text → Prop where
  | title {t : Text} (h : set.description = some t) : set.HasText t
  | statement {s : Statement} {t : Text} (hs : s ∈ set.statements) (h : s.HasText t) : set.HasText t

theorem mem_mapTexts_iff {m : OrderedMap Text Text} {t : Text} :
    t ∈ mapTexts m ↔ ∃ key value, (key, value) ∈ m.entries ∧ (t = key ∨ t = value) := by
  simp [mapTexts]

theorem Data.mem_texts_iff {d : Data} {t : Text} : t ∈ d.texts ↔ d.HasText t := by
  cases d with
  | text content =>
    rw [texts, List.mem_singleton]
    constructor
    · rintro rfl
      exact .content t
    · rintro ⟨⟩
      rfl
  | list items =>
    constructor
    · exact .item
    · rintro ⟨⟩
      assumption
  | keyValues pairs =>
    rw [texts, mem_mapTexts_iff]
    constructor
    · rintro ⟨key, value, h, rfl | rfl⟩
      · exact .key h
      · exact .value h
    · rintro (_ | _ | h | h)
      · exact ⟨_, _, h, .inl rfl⟩
      · exact ⟨_, _, h, .inr rfl⟩
  | table rows =>
    simp only [texts, List.mem_flatMap, mem_mapTexts_iff]
    constructor
    · rintro ⟨row, hrow, column, cell, h, rfl | rfl⟩
      · exact .tableColumn hrow h
      · exact .tableCell hrow h
    · intro h
      cases h with
      | tableColumn hrow h => exact ⟨_, hrow, _, _, h, .inl rfl⟩
      | tableCell hrow h => exact ⟨_, hrow, _, _, h, .inr rfl⟩
  | matrix rows =>
    simp only [texts, List.mem_flatMap, List.mem_cons, mem_mapTexts_iff]
    constructor
    · rintro ⟨⟨key, row⟩, hrow, rfl | ⟨column, cell, h, rfl | rfl⟩⟩
      · exact .matrixRow hrow
      · exact .matrixColumn hrow h
      · exact .matrixCell hrow h
    · intro h
      cases h with
      | matrixRow hrow => exact ⟨_, hrow, .inl rfl⟩
      | matrixColumn hrow h => exact ⟨_, hrow, .inr ⟨_, _, h, .inl rfl⟩⟩
      | matrixCell hrow h => exact ⟨_, hrow, .inr ⟨_, _, h, .inr rfl⟩⟩

theorem Statement.mem_texts_iff {s : Statement} {t : Text} : t ∈ s.texts ↔ s.HasText t := by
  rw [texts, List.mem_cons]
  constructor
  · rintro (rfl | h)
    · exact .description
    · cases hdata : s.data with
      | none => simp [hdata] at h
      | some d =>
        rw [hdata] at h
        exact .data hdata (Data.mem_texts_iff.1 h)
  · intro h
    cases h with
    | description => exact .inl rfl
    | data hdata h =>
      refine .inr ?_
      rw [hdata]
      exact Data.mem_texts_iff.2 h

theorem mem_tokensOf_iff {texts : List Text} {token : Text} :
    token ∈ tokensOf texts ↔ ∃ t ∈ texts, Template.HasToken t token := by
  simp only [tokensOf, Text.mem_sortedSet, List.mem_flatMap, Template.mem_names_iff]

/-- **The tokens of a template are those of its texts.** -/
theorem ExampleSet.mem_tokens_iff {set : ExampleSet} {token : Text} :
    token ∈ set.tokens ↔ ∃ t, set.HasText t ∧ Template.HasToken t token := by
  rw [tokens, mem_tokensOf_iff]
  refine exists_congr fun t => and_congr_left' ?_
  rw [List.mem_append, Option.mem_toList, List.mem_flatMap]
  constructor
  · rintro (h | ⟨s, hs, h⟩)
    · exact .title h
    · exact .statement hs (Statement.mem_texts_iff.1 h)
  · intro h
    cases h with
    | title h => exact .inl h
    | statement hs h => exact .inr ⟨_, hs, Statement.mem_texts_iff.2 h⟩

/-- **A statement has no token exactly if none of its texts has a stretch that could be one.** -/
theorem Statement.tokens_eq_nil_iff {s : Statement} :
    s.tokens = [] ↔ ∀ t, s.HasText t → ¬ Template.HasRun t := by
  have hnames : s.tokens = [] ↔ ∀ t ∈ s.texts, Template.names t = [] := by
    rw [tokens, tokensOf, List.eq_nil_iff_forall_not_mem]
    simp only [Text.mem_sortedSet, List.mem_flatMap, not_exists, not_and,
      List.eq_nil_iff_forall_not_mem]
    exact ⟨fun h t ht name hname => h name t ht hname, fun h name t ht hname => h t ht name hname⟩
  simp only [hnames, Statement.mem_texts_iff, Template.names_eq_nil_iff]

end PlainSpec
