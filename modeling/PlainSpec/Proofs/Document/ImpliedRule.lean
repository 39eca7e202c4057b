import PlainSpec.Proofs.Document.LayoutBlind
import PlainSpec.Proofs.Grammar.Requirements
import PlainSpec.Proofs.Parser.Locality

/-!
# The rule that a feature implies

A feature may hold scenarios without a rule above them.  It means the same as with one rule that has
its title: a line `Rule: title` can be put in front of the first line that belongs to a scenario,
and nothing is said that was not said before.

The two sources agree up to the new line.  So the feature, its title and its free text are read as
before, and reading stops at the new line, which starts a construct.  Behind it stand the lines that
stood there before, with greater numbers; there the rule reads what the feature did.

## Main definitions

* `Text.insertLine`: a text with one more line.
* `Cursor.SameRest`, `Likeness.byRest`: places with the same lines ahead, whatever their numbers
  are.
* `Gherkin.aboveBlocks`: the lines above the first comment, tag or scenario of a feature.
* `Gherkin.HoldsScenarios`, `Gherkin.withRule`: scenarios directly under a feature, and the rule for
  them.

## Main results

* `Gherkin.exists_title`: what is read up to the title does not depend on what stands below.
* `Gherkin.exists_freeText`: free text ends in front of the first construct.
* `Document.parse_withRule`: the implied rule can be written down.
-/

namespace PlainSpec

open PlainSpec.Parser Grammar

/-! ## A line put into a text -/

/-- The text with a further line behind the first `count` ones. -/
def Text.insertLine (text : Text) (count : Nat) (new : Text) : Text :=
  join ['\n'] ((text.splitOn '\n').take count ++ new :: (text.splitOn '\n').drop count)

theorem Text.splitOn_insertLine {new : Text} (hnew : '\n' ∉ new) (text : Text) (count : Nat) :
    (text.insertLine count new).splitOn '\n' =
      (text.splitOn '\n').take count ++ new :: (text.splitOn '\n').drop count := by
  refine List.splitOn_intercalate '\n' (fun l hl => ?_) (by simp)
  rw [List.mem_append, List.mem_cons, or_left_comm, ← List.mem_append, List.take_append_drop] at hl
  rcases hl with rfl | hl
  · exact hnew
  · exact Text.not_mem_of_mem_splitOn hl

/-- **A new line changes numbers of lines only.** -/
theorem Line.split_insertLine {text new : Text} (hnew : '\n' ∉ new) {above below : List Line}
    (h : split text = above ++ below) :
    ∃ r behind, split (text.insertLine above.length new) = above ++ r :: behind ∧
      r.trimmed = new.trim ∧ behind.map trimmed = below.map trimmed := by
  obtain ⟨front, hfront⟩ : ∃ front, (text.splitOn '\n').take above.length = front := ⟨_, rfl⟩
  obtain ⟨back, hback⟩ : ∃ back, (text.splitOn '\n').drop above.length = back := ⟨_, rfl⟩
  have hsplit : split text = front.mapIdx (fun i t => ⟨i + 1, dropReturn t⟩) ++
      back.mapIdx (fun i t => ⟨i + front.length + 1, dropReturn t⟩) := by
    rw [split, ← List.mapIdx_append, ← hfront, ← hback, List.take_append_drop]
  have hlength : above.length = front.length := by
    have := congrArg List.length h
    simp [split, ← hfront] at this ⊢
    omega
  obtain ⟨habove, hbelow⟩ :=
    List.append_inj (h.symm.trans hsplit) (by rw [hlength, List.length_mapIdx])
  refine ⟨⟨front.length + 1, dropReturn new⟩,
    back.mapIdx fun i t => ⟨i + 1 + front.length + 1, dropReturn t⟩, ?_, trim_dropReturn new, ?_⟩
  · rw [split, Text.splitOn_insertLine hnew, hfront, hback, List.mapIdx_append,
      List.mapIdx_cons, ← habove, Nat.zero_add]
  · rw [hbelow]
    apply List.ext_getElem
    · simp
    · intro i _ _
      simp [trimmed]

/-! ## Lines ahead that say the same -/

/-- Both places have the same content after them, whatever the numbers of the lines are. -/
def Cursor.SameRest (c c' : Cursor) : Prop := c.rest.map Line.trimmed = c'.rest.map Line.trimmed

namespace Cursor.SameRest

variable {c c' : Cursor}

theorem skipBlank (h : c.SameRest c') : c.skipBlank.SameRest c'.skipBlank := by
  unfold SameRest
  rw [rest_skipBlank, rest_skipBlank, map_trimmed_dropWhile, map_trimmed_dropWhile, h]

theorem advance (h : c.SameRest c') : c.advance.SameRest c'.advance := by
  unfold SameRest
  rw [rest_advance, rest_advance, List.map_tail, List.map_tail, h]

theorem significant (h : c.SameRest c') : Line.significant c.rest = Line.significant c'.rest :=
  congrArg (fun texts => texts.filter (!·.isEmpty)) h

/-- The lines ahead correspond one by one. -/
theorem cases (h : c.SameRest c') :
    (c.rest = [] ∧ c'.rest = []) ∨
      ∃ l rest l' rest', c.rest = l :: rest ∧ c'.rest = l' :: rest' ∧ l.trimmed = l'.trimmed ∧
        SameRest ⟨l :: c.passed, rest⟩ ⟨l' :: c'.passed, rest'⟩ := by
  unfold SameRest at h
  cases hc : c.rest with
  | nil =>
    rw [hc] at h
    exact .inl ⟨rfl, List.map_eq_nil_iff.1 h.symm⟩
  | cons l rest =>
    rw [hc] at h
    obtain ⟨l', rest', hc', htext, hrest⟩ := List.map_eq_cons_iff.1 h.symm
    exact .inr ⟨l, rest, l', rest', rfl, hc', htext.symm, hrest.symm⟩

end Cursor.SameRest

namespace Likeness

/-- Sources that say the same from some place on, blank lines included. -/
def byRest : Likeness :=
  { byText with
    like := Cursor.SameRest
    skipBlank := fun h => h.skipBlank
    advance := fun h => h.skipBlank.advance
    ahead := fun h => byText.ahead h.significant
    lineNumber := fun h => byText.lineNumber h.significant }

theorem lineByLine_byRest : LineByLine byRest where
  cases h := Cursor.SameRest.cases h
  last _ := rfl

end Likeness

namespace Grammar.Gherkin

theorem examples_skipBlank {c n : Cursor} {es : List Example} :
    examples c.skipBlank = .ok es n ↔ examples c = .ok es n := by
  simp only [examples, severalWhile, map_eq_ok, several_eq_ok, Cursor.skipBlank_skipBlank]

/-- **Scenarios are read alike wherever they stand.** -/
theorem exists_examples {c c' n : Cursor} {es : List Example}
    (h : c.skipBlank.SameRest c'.skipBlank) (hes : examples c = .ok es n) :
    ∃ es' n', examples c' = .ok es' n' ∧
      es.map (Example.relabel (Function.const Nat 0)) =
        es'.map (Example.relabel (Function.const Nat 0)) ∧
      n.atEnd = n'.atEnd := by
  rw [← examples_skipBlank] at hes
  rcases (blind_examples (Likeness.lineByLine_byRest.blind_textBlock .gherkin) _ _ h).cases with
    ⟨v, m, v', m', hv, hv', hview, hm⟩ | ⟨e, m, e', m', he, -, -⟩
  · cases hv.symm.trans hes
    refine ⟨v', m', examples_skipBlank.1 hv', hview, ?_⟩
    rcases Likeness.ahead_cases hm with ⟨hn, hn'⟩ | ⟨l, l', hn, hn', -, -⟩
    · rw [Cursor.atEnd, Cursor.atEnd, hn, hn']
    · rw [Cursor.atEnd, Cursor.atEnd, hn, hn']
      rfl
  · rw [he] at hes
    cases hes

/-! ## The lines above the blocks of a feature -/

/-- Whether a line has the title of a feature. -/
def isTitle (l : Line) : Bool := l.trimmed.startsWith "Feature:".toList

/-- Whether a line is no free text. -/
def startsBlock (l : Line) : Bool := startsConstruct l.trimmed

/-- Whether a line belongs to an example or a template: a comment, a tag line, or its title. -/
def opensScenario (l : Line) : Bool :=
  l.trimmed.startsWith commentMark || isTagLine l || startsScenario l.trimmed

/-- The number of lines above the first line behind the title that is no free text. -/
def aboveBlocks (ls : List Line) : Nat :=
  let title := ls.findIdx isTitle
  title + 1 + (ls.drop (title + 1)).findIdx startsBlock

theorem findIdx_append_cons {α : Type} {test : α → Bool} {front tail : List α} {a : α}
    (hfront : ∀ x ∈ front, test x = false) (ha : test a = true) :
    (front ++ a :: tail).findIdx test = front.length := by
  rw [List.findIdx_append, List.findIdx_eq_length_of_false hfront, if_neg (Nat.lt_irrefl _),
    List.findIdx_cons, ha]
  simp

theorem aboveBlocks_eq {front free blocks : List Line} {l b : Line}
    (hfront : ∀ a ∈ front, isTitle a = false) (hl : isTitle l = true)
    (hfree : ∀ a ∈ free, startsBlock a = false) (hb : startsBlock b = true) :
    aboveBlocks (front ++ l :: (free ++ b :: blocks)) = (front ++ l :: free).length := by
  have hdrop : (front ++ l :: (free ++ b :: blocks)).drop (front.length + 1) =
      free ++ b :: blocks := by
    rw [← List.drop_drop, List.drop_left, List.drop_one, List.tail_cons]
  rw [aboveBlocks, findIdx_append_cons hfront hl, hdrop, findIdx_append_cons hfree hb]
  simp
  omega

/-! ### Comments and tags -/

theorem readComment_ne_ok {mark text : Text} (h : text.startsWith mark = false) (t : Text) :
    readComment mark text ≠ .ok t := by
  simp [readComment, h]

theorem stopsAt_comments {mark : Text} {l : Line} (h : l.trimmed.startsWith mark = false) :
    StopsAt l (comments mark) := by
  have hline : StopsAt l (commentLine mark) := .line fun t => readComment_ne_ok h t
  exact (hline.manyWhile hline).map _

/-- **Comments and tags end in front of every other line.** -/
theorem stopsAt_header {l : Line} (hcomment : l.trimmed.startsWith commentMark = false)
    (htag : isTagLine l = false) : StopsAt l header :=
  (((stopsAt_comments hcomment).both (.whenAhead_line htag _ _)).both
    (stopsAt_comments hcomment)).map _

/-- Where no comment is ahead, none is read. -/
theorem comments_of_ahead {mark : Text} {c : Cursor} {l : Line} (hl : c.ahead? = some l)
    (h : l.trimmed.startsWith mark = false) : comments mark c = .ok none c.skipBlank := by
  have hstop : ¬ Refuses (orElse finish (absent (commentLine mark))) c.skipBlank := by
    intro hrefuses
    obtain ⟨-, t, n, ht⟩ := refuses_unless.1 hrefuses
    obtain ⟨a, ha, hread, -⟩ := line_eq_ok.1 ht
    rw [Cursor.ahead?_skipBlank, Cursor.ahead?_skipBlank, hl] at ha
    cases ha
    exact readComment_ne_ok h t hread
  obtain ⟨u, n, hu⟩ := not_refuses_iff.1 hstop
  exact map_eq_ok.2 ⟨[], many_eq_ok.2 (.stop hu), rfl⟩

/-- Nothing is read in front of a line that is neither a comment nor a tag line. -/
theorem header_of_ahead {c : Cursor} {l : Line} (hl : c.ahead? = some l)
    (hcomment : l.trimmed.startsWith commentMark = false) (htag : isTagLine l = false) :
    header c = .ok ⟨none, none⟩ c.skipBlank := by
  have hcomments : comments commentMark c.skipBlank = .ok none c.skipBlank := by
    have := comments_of_ahead (c := c.skipBlank) (by rw [Cursor.ahead?_skipBlank, hl]) hcomment
    rwa [Cursor.skipBlank_skipBlank] at this
  have htags : optionalTags c.skipBlank = .ok none c.skipBlank :=
    whenAhead_eq_ok.2 (.inr ⟨by simp [hl, htag], rfl, rfl⟩)
  have hboth : both (comments commentMark) optionalTags c.skipBlank =
      .ok (none, none) c.skipBlank :=
    both_eq_ok.2 ⟨c.skipBlank, by rwa [Cursor.skipBlank_skipBlank], htags⟩
  exact map_eq_ok.2 ⟨((none, none), none), both_eq_ok.2 ⟨c.skipBlank, hboth, hcomments⟩, rfl⟩

/-! ### The title -/

theorem any_of_readTitle {keywords : List Text} {text t : Text}
    (h : readTitle keywords text = .ok t) :
    keywords.any text.startsWith = true := by
  unfold readTitle at h
  split at h
  · cases h
  · rename_i keyword rest hlead
    exact List.any_eq_true.2 ⟨keyword, keyword_of_leading? hlead,
      Text.startsWith_eq_true.2 ⟨rest, mem_of_leading? hlead⟩⟩

/-- A keyword and a title behind it are read as the title. -/
theorem readTitle_eq_ok {keyword title : Text} (htitle : title.Neat) (hne : title ≠ []) :
    readTitle [keyword] (keyword ++ ' ' :: title) = .ok title := by
  have hafter : Text.after? keyword (keyword ++ ' ' :: title) = some (' ' :: title) :=
    Text.after?_eq_some_iff.2 rfl
  simp [readTitle, leading?, hafter, htitle.trim_space, hne]

theorem not_comment_of_isTitle {l : Line} (h : isTitle l = true) :
    l.trimmed.startsWith commentMark = false ∧ isTagLine l = false := by
  obtain ⟨rest, hrest⟩ := Text.startsWith_eq_true.1 h
  rw [isTagLine, hrest]
  exact ⟨rfl, rfl⟩

theorem isBlank_of_isTitle {l : Line} (h : isTitle l = true) : l.isBlank = false := by
  obtain ⟨rest, hrest⟩ := Text.startsWith_eq_true.1 h
  rw [Line.isBlank, hrest]
  rfl

/-- **What is read up to the title of a feature does not depend on what stands below.** -/
theorem exists_title {c n : Cursor} {v : TagHeader × Text}
    (h : both header (titled ["Feature:".toList]) c = .ok v n) :
    ∃ front l, c.rest = front ++ l :: n.rest ∧ (∀ a ∈ front, isTitle a = false) ∧ isTitle l = true ∧
      ∀ c' tail, c'.rest = front ++ l :: tail →
        ∃ n', both header (titled ["Feature:".toList]) c' = .ok v n' ∧ n'.rest = tail :=
  exists_first_line disciplined_header
    (fun _ h => stopsAt_header (not_comment_of_isTitle h).1 (not_comment_of_isTitle h).2)
    (fun _ => isBlank_of_isTitle) (fun _ _ h => by simpa [isTitle] using any_of_readTitle h) h

/-! ### Free text -/

/-- A blank line is free text. -/
theorem startsBlock_of_isBlank {l : Line} (h : l.isBlank = true) : startsBlock l = false := by
  rw [startsBlock, show l.trimmed = [] by simpa [Line.isBlank] using h]
  decide

theorem dropWhile_isBlank_startsBlock (ls : List Line) :
    (ls.dropWhile Line.isBlank).dropWhile (!startsBlock ·) = ls.dropWhile (!startsBlock ·) := by
  induction ls with
  | nil => rfl
  | cons l ls ih =>
    by_cases hblank : l.isBlank = true
    · simp [hblank, startsBlock_of_isBlank hblank, ih]
    · simp [hblank]

/-- Free text ends where the source does, and in front of a line that is none. -/
theorem exists_stop_freeText_iff {c : Cursor} :
    (∃ u n, orElse finish (aheadIs startsConstruct) c = .ok u n) ↔
      ∀ l, c.ahead? = some l → startsBlock l = true := by
  cases hahead : c.ahead? with
  | none =>
    have hfinish : finish c.skipBlank = .ok () c.skipBlank.skipBlank :=
      finish_eq_ok.2 ⟨by simp [Cursor.atEnd, hahead], rfl⟩
    exact iff_of_true ⟨_, _, orElse_eq_ok.2 (.inl hfinish)⟩ (by simp)
  | some l =>
    have hfinish : Refuses finish c.skipBlank := by
      intro u n hu
      have hend := (finish_eq_ok.1 hu).1
      simp [Cursor.atEnd, hahead] at hend
    constructor
    · rintro ⟨u, n, hu⟩ _ ⟨⟩
      obtain ⟨-, hpeek⟩ := (orElse_eq_ok.1 hu).resolve_left (hfinish u n)
      obtain ⟨a, ha, hread, -⟩ := peek_eq_ok.1 hpeek
      rw [Cursor.ahead?_skipBlank, hahead] at ha
      cases ha
      by_contra hblock
      rw [startsBlock] at hblock
      rw [if_neg hblock] at hread
      cases hread
    · intro hblock
      have hpeek : aheadIs startsConstruct c.skipBlank = .ok () c.skipBlank.skipBlank :=
        peek_eq_ok.2 ⟨l, by rw [Cursor.ahead?_skipBlank, hahead], if_pos (hblock l rfl), rfl⟩
      exact ⟨_, _, orElse_eq_ok.2 (.inr ⟨hfinish, hpeek⟩)⟩

/-- Free text is read line by line, up to the first line that is none. -/
theorem exists_run_freeText (c : Cursor) :
    ∃ us n, Run (line fun _ => .ok ()) (orElse finish (aheadIs startsConstruct)) c us n ∧
      n.skipBlank.rest = c.rest.dropWhile (!startsBlock ·) := by
  rw [← dropWhile_isBlank_startsBlock, ← Cursor.rest_skipBlank]
  by_cases hblock : ∀ l, c.ahead? = some l → startsBlock l = true
  · obtain ⟨u, n, hstop⟩ := exists_stop_freeText_iff.2 hblock
    refine ⟨[], c, .stop hstop, ?_⟩
    cases hrest : c.skipBlank.rest with
    | nil => rfl
    | cons l rest =>
      rw [List.dropWhile_cons, hblock l (congrArg List.head? hrest)]
      rfl
  · push Not at hblock
    obtain ⟨l, hahead, hfree⟩ := hblock
    have hline : line (fun _ => .ok ()) c = .ok () c.skipBlank.advance :=
      line_eq_ok.2 ⟨l, hahead, rfl, rfl⟩
    have hlt := (Consuming.line _).length_lt hline
    have hstop : Refuses (orElse finish (aheadIs startsConstruct)) c := fun u n hu =>
      hfree (exists_stop_freeText_iff.1 ⟨u, n, hu⟩ l hahead)
    obtain ⟨us, n, hrun, hn⟩ := exists_run_freeText c.skipBlank.advance
    refine ⟨() :: us, n, .step hstop hline hlt hrun, ?_⟩
    obtain ⟨rest, hrest⟩ : ∃ rest, c.skipBlank.rest = l :: rest := List.head?_eq_some_iff.1 hahead
    rw [hn, Cursor.rest_advance, hrest, List.dropWhile_cons, Bool.eq_false_iff.2 hfree]
    rfl
termination_by c.rest.length

/-- **Free text ends in front of the first construct.** -/
theorem exists_freeText (c : Cursor) :
    ∃ n, freeText c = .ok () n ∧ n.skipBlank.rest = c.rest.dropWhile (!startsBlock ·) := by
  obtain ⟨us, n, hrun, hn⟩ := exists_run_freeText c.skipBlank
  refine ⟨n, map_eq_ok.2 ⟨us, many_eq_ok.2 hrun, rfl⟩, ?_⟩
  rw [hn, Cursor.rest_skipBlank, dropWhile_isBlank_startsBlock]

/-- **A feature up to its free text**: what is read does not depend on what stands below, and
reading stops there in front of the first construct. -/
theorem exists_head {c m : Cursor} {v : TagHeader × Text}
    (h : first (both header (titled ["Feature:".toList])) freeText c = .ok v m) :
    ∃ above l free, c.rest = above ++ l :: (free ++ m.skipBlank.rest) ∧
      (∀ a ∈ above, isTitle a = false) ∧ isTitle l = true ∧ (∀ a ∈ free, startsBlock a = false) ∧
      ∀ c' below, c'.rest = above ++ l :: (free ++ below) →
        ∃ m', first (both header (titled ["Feature:".toList])) freeText c' = .ok v m' ∧
          m'.skipBlank.rest = below.dropWhile (!startsBlock ·) := by
  obtain ⟨k, _, htitled, hfree⟩ := first_eq_ok.1 h
  obtain ⟨above, l, hrest, habove, hl, hmirror⟩ := exists_title (both_skipBlank.1 htitled)
  obtain ⟨_, hfree', hm⟩ := exists_freeText k
  cases hfree'.symm.trans hfree
  have hfreeText : ∀ a ∈ k.rest.takeWhile (!startsBlock ·), startsBlock a = false := by
    intro a ha
    simpa using List.all_eq_true.1 List.all_takeWhile a ha
  refine ⟨above, l, k.rest.takeWhile (!startsBlock ·), ?_, habove, hl, hfreeText,
    fun c' below hrest' => ?_⟩
  · rw [hm, List.takeWhile_append_dropWhile, hrest]
  · obtain ⟨k', htitled', hk'⟩ := hmirror c' _ hrest'
    obtain ⟨m', hm', hbelow⟩ := exists_freeText k'
    refine ⟨m', first_eq_ok.2 ⟨k', (), both_skipBlank.2 htitled', hm'⟩, ?_⟩
    rw [hbelow, hk', List.dropWhile_append_of_pos (by simpa using hfreeText)]

/-! ### Scenarios -/

theorem startsBlock_of_opensScenario {l : Line} (h : opensScenario l = true) :
    startsBlock l = true := by
  simp only [opensScenario, isTagLine, commentMark, Bool.or_eq_true] at h
  simp only [startsBlock, startsConstruct, Bool.or_eq_true]
  rcases h with (h | h) | h
  · exact .inl (.inr h)
  · exact .inr h
  · exact .inl (.inl (.inl (.inr h)))

/-- A title with comments and tags above it starts with one of these. -/
theorem opensScenario_of_headed {keywords : List Text} {c n : Cursor} {v : TagHeader × Text}
    (hkeywords : keywords ⊆ outlineKeywords ++ scenarioKeywords)
    (h : both header (titled keywords) c = .ok v n) :
    ∃ b, c.ahead? = some b ∧ opensScenario b = true := by
  have hend := (Consuming.both_right disciplined_header (.line _)).not_atEnd h
  obtain ⟨b, hb⟩ : ∃ b, c.ahead? = some b := by
    simpa [Cursor.atEnd, Option.isSome_iff_exists] using hend
  refine ⟨b, hb, ?_⟩
  cases hfront : b.trimmed.startsWith commentMark || isTagLine b with
  | true => rw [opensScenario, hfront, Bool.true_or]
  | false =>
    obtain ⟨hcomment, htag⟩ := Bool.or_eq_false_iff.1 hfront
    obtain ⟨m, hheader, htitled⟩ := both_eq_ok.1 h
    have hb' : c.skipBlank.ahead? = some b := by rw [Cursor.ahead?_skipBlank, hb]
    obtain ⟨-, rfl⟩ := Reply.ok.inj ((header_of_ahead hb' hcomment htag).symm.trans hheader)
    obtain ⟨a, ha, hread, -⟩ := line_eq_ok.1 htitled
    rw [Cursor.ahead?_skipBlank, hb'] at ha
    cases ha
    obtain ⟨keyword, hmem, hstarts⟩ := List.any_eq_true.1 (any_of_readTitle hread)
    rw [opensScenario, hfront, Bool.false_or]
    exact List.any_eq_true.2 ⟨keyword, hkeywords hmem, hstarts⟩

/-- **Scenarios start with a comment, a tag line, or the title of an example or a template.** -/
theorem opensScenario_of_examples {c n : Cursor} {es : List Example} (h : examples c = .ok es n) :
    ∃ b, c.ahead? = some b ∧ opensScenario b = true := by
  obtain ⟨⟨block, blocks⟩, hblocks, -⟩ := map_eq_ok.1 h
  have hrun := several_eq_ok.1 hblocks
  obtain ⟨m, hblock⟩ : ∃ m, orElse outline (map scenario fun e => [e]) c.skipBlank =
      .ok block m := by
    cases hrun with
    | step _ he => exact ⟨_, he⟩
    | stuck _ he => exact ⟨_, he⟩
  rcases orElse_eq_ok.1 hblock with houtline | ⟨-, hscenario⟩
  · obtain ⟨_, hparts, -⟩ := check_eq_ok.1 houtline
    obtain ⟨_, hbody, -⟩ := both_eq_ok.1 hparts
    obtain ⟨_, _, hbody, -⟩ := first_eq_ok.1 hbody
    obtain ⟨_, htop, -⟩ := both_eq_ok.1 hbody
    obtain ⟨_, _, hheaded, -⟩ := first_eq_ok.1 htop
    simpa using opensScenario_of_headed (List.subset_append_left _ _) hheaded
  · obtain ⟨_, hscenario, -⟩ := map_eq_ok.1 hscenario
    obtain ⟨_, hparts, -⟩ := check_eq_ok.1 hscenario
    obtain ⟨_, htop, -⟩ := both_eq_ok.1 hparts
    obtain ⟨_, _, hheaded, -⟩ := first_eq_ok.1 htop
    simpa using opensScenario_of_headed (List.subset_append_right _ _) hheaded

/-! ## A rule above scenarios -/

/-- A feature of this title that holds scenarios without a rule above them. -/
def HoldsScenarios (text title : Text) : Prop :=
  ∃ front es, (feature (Cursor.ofText text)).result = .ok ((front, title), .scenarios es)

/-- The text of a feature with a rule of that title above its scenarios. -/
def withRule (title text : Text) : Text :=
  text.insertLine (aboveBlocks (Line.split text)) ("Rule: ".toList ++ title)

/-- The rule that a feature with scenarios implies. -/
def impliedRule (title : Text) (es : List Example) : Requirement :=
  { comments := none
    identifier := none
    labels := none
    explicitLabels := none
    description := title
    examples := es }

/-- **A rule line in front of scenarios makes them a rule.** -/
theorem exists_rule {c : Cursor} {r : Line} {title : Text} {behind : List Line}
    (hrest : c.skipBlank.rest = r :: behind) (hr : r.trimmed = "Rule: ".toList ++ title)
    (htitle : title.Neat) (hne : title ≠ []) :
    ∃ m, m.skipBlank.rest = behind.dropWhile (!startsBlock ·) ∧
      ∀ es n, examples m = .ok es n → rule c = .ok (impliedRule title es) n := by
  have hahead : c.skipBlank.skipBlank.ahead? = some r := by
    rw [Cursor.ahead?_skipBlank, Cursor.ahead?, Cursor.skipBlank_skipBlank, Cursor.peek?, hrest,
      List.head?_cons]
  have hheader : header c.skipBlank.skipBlank.skipBlank = .ok ⟨none, none⟩ c.skipBlank := by
    have := header_of_ahead hahead (by rw [hr]; rfl) (by rw [isTagLine, hr]; rfl)
    simpa using this
  have htitled : titled ["Rule:".toList] c.skipBlank = .ok title c.skipBlank.advance := by
    refine line_eq_ok.2 ⟨r, by simpa using hahead, ?_, by rw [Cursor.skipBlank_skipBlank]⟩
    rw [hr]
    exact readTitle_eq_ok htitle hne
  obtain ⟨m, hfree, hm⟩ := exists_freeText c.skipBlank.advance
  have hhead : first (both header (titled ["Rule:".toList])) freeText c.skipBlank =
      .ok (⟨none, none⟩, title) m :=
    first_eq_ok.2 ⟨_, _, both_eq_ok.2 ⟨_, hheader, htitled⟩, hfree⟩
  refine ⟨m, ?_, fun es n hes =>
    map_eq_ok.2 ⟨((⟨none, none⟩, title), es), both_eq_ok.2 ⟨m, hhead, hes⟩, rfl⟩⟩
  rw [hm, Cursor.rest_advance, hrest, List.tail_cons]

/-- One rule that is read up to the end is what a feature holds. -/
theorem body_of_rule {c n : Cursor} {r : Requirement} (h : rule c = .ok r n)
    (hend : n.atEnd = true) :
    body c = .ok (.rules [r]) n := by
  have hrule : rule c.skipBlank.skipBlank = .ok r n := by
    rw [rule, map_eq_ok] at h ⊢
    simpa only [both_eq_ok, Cursor.skipBlank_skipBlank] using h
  have hfinish : finish n = .ok () n.skipBlank := finish_eq_ok.2 ⟨hend, rfl⟩
  have hrefuses : Refuses finish c.skipBlank.skipBlank := by
    intro u m hu
    have hatEnd := (finish_eq_ok.1 hu).1
    rw [consuming_rule.not_atEnd hrule] at hatEnd
    cases hatEnd
  have hrun : Run rule finish c.skipBlank.skipBlank [r] n :=
    .step hrefuses hrule (consuming_rule.length_lt hrule) (.stop hfinish)
  exact orElse_eq_ok.2 (.inl (map_eq_ok.2 ⟨⟨r, []⟩, several_eq_ok.2 hrun, rfl⟩))

/-- Scenarios without a rule are read up to the end. -/
theorem examples_of_body {c n : Cursor} {es : List Example} (h : body c = .ok (.scenarios es) n) :
    ∃ m, examples c = .ok es m ∧ m.atEnd = true := by
  rcases orElse_eq_ok.1 h with hrules | ⟨-, hscenarios⟩
  · obtain ⟨_, -, heq⟩ := map_eq_ok.1 hrules
    cases heq
  · obtain ⟨_, hread, heq⟩ := map_eq_ok.1 hscenarios
    cases heq
    obtain ⟨m, _, hes, hend⟩ := first_eq_ok.1 (first_skipBlank.1 hread)
    exact ⟨m, examples_skipBlank.1 hes, (finish_eq_ok.1 hend).1⟩

/-- **A feature with scenarios, cut in two**: what stands above the first line that belongs to a
scenario is read alike in front of every other construct, and what stands from there on is read as
scenarios. -/
theorem exists_scenarios {text : Text} {v : TagHeader × Text} {es : List Example} {n : Cursor}
    (h : feature (Cursor.ofText text) = .ok (v, .scenarios es) n) :
    ∃ above b blocks m q, Line.split text = above ++ b :: blocks ∧
      aboveBlocks (Line.split text) = above.length ∧ opensScenario b = true ∧
      m.skipBlank.rest = b :: blocks ∧ examples m = .ok es q ∧ q.atEnd = true ∧
      ∀ c r below, c.rest = above ++ r :: below → startsBlock r = true →
        ∃ m', first (both header (titled ["Feature:".toList])) freeText c = .ok v m' ∧
          m'.skipBlank.rest = r :: below := by
  obtain ⟨m, hhead, hbody⟩ := both_eq_ok.1 h
  obtain ⟨above, l, free, hrest, habove, hl, hfree, hmirror⟩ :=
    exists_head (first_skipBlank.1 hhead)
  obtain ⟨q, hes, hend⟩ := examples_of_body hbody
  obtain ⟨b, hb, hopens⟩ := opensScenario_of_examples hes
  obtain ⟨blocks, hm⟩ : ∃ blocks, m.skipBlank.rest = b :: blocks := List.head?_eq_some_iff.1 hb
  have hlines : Line.split text = above ++ l :: (free ++ b :: blocks) := by
    rw [← hm]
    exact hrest
  refine ⟨above ++ l :: free, b, blocks, m, q, ?_, ?_, hopens, hm, hes, hend,
    fun c r below hc hr => ?_⟩
  · rw [hlines, List.append_assoc, List.cons_append]
  · rw [hlines, aboveBlocks_eq habove hl hfree (startsBlock_of_opensScenario hopens)]
  · rw [List.append_assoc, List.cons_append] at hc
    obtain ⟨m', hhead', hm'⟩ := hmirror c _ hc
    rw [List.dropWhile_cons, hr] at hm'
    exact ⟨m', hhead', hm'⟩

/-- **A feature with scenarios, and one with a rule above them.**  The new line stands in front of
the first one that belongs to a scenario, and the scenarios are read as before, but on other
lines. -/
theorem feature_withRule {text title : Text} {front : TagHeader} {es : List Example} {n : Cursor}
    (h : feature (Cursor.ofText text) = .ok ((front, title), .scenarios es) n) :
    (∃ b, (Line.split text)[aboveBlocks (Line.split text)]? = some b ∧ opensScenario b = true) ∧
      ∃ es' n', feature (Cursor.ofText (withRule title text)) =
          .ok ((front, title), .rules [impliedRule title es']) n' ∧
        es.map (Example.relabel (Function.const Nat 0)) =
          es'.map (Example.relabel (Function.const Nat 0)) := by
  obtain ⟨above, b, blocks, m, q, hlines, hcount, hopens, hm, hes, hend, hmirror⟩ :=
    exists_scenarios h
  have hbelow : (Line.split text)[aboveBlocks (Line.split text)]? = some b := by
    rw [hcount, hlines, List.getElem?_append_right (Nat.le_refl _), Nat.sub_self,
      List.getElem?_cons_zero]
  refine ⟨⟨b, hbelow, hopens⟩, ?_⟩
  -- behind the new line, the lines of the scenarios say the same
  obtain ⟨_, hhead, -⟩ := both_eq_ok.1 h
  obtain ⟨-, htitle, hne⟩ := yields_headed _ _ _ _ (Cursor.sound_ofText text).skipBlank hhead
  have hnew : '\n' ∉ "Rule: ".toList ++ title := by simp [htitle.oneLine]
  obtain ⟨r, behind, hlines', hr, hbehind⟩ := Line.split_insertLine hnew hlines
  rw [← hcount] at hlines'
  rw [htitle.trim_append hne (c := 'R') rfl (by decide)] at hr
  -- the feature is read up to the new line, and the rule reads the scenarios
  have hrule : startsBlock r = true := by rw [startsBlock, hr]; rfl
  obtain ⟨m', hhead', hm'⟩ := hmirror (Cursor.ofText (withRule title text)) r behind hlines' hrule
  obtain ⟨s, hs, hread⟩ := exists_rule hm' hr htitle hne
  have hsame : m.skipBlank.SameRest s.skipBlank := by
    obtain ⟨b', blocks', rfl, hb', -⟩ := List.map_eq_cons_iff.1 hbehind
    have hb'block : startsBlock b' = true := by
      rw [startsBlock, hb']
      exact startsBlock_of_opensScenario hopens
    rw [Cursor.SameRest, hm, hs, List.dropWhile_cons, hb'block, ← hbehind]
    rfl
  obtain ⟨es', n', hes', hview, hend'⟩ := exists_examples hsame hes
  have hbody' : body m' = .ok (.rules [impliedRule title es']) n' :=
    body_of_rule (hread es' n' hes') (hend'.symm.trans hend)
  exact ⟨es', n', both_eq_ok.2 ⟨m', first_skipBlank.2 hhead', hbody'⟩, hview⟩

end Grammar.Gherkin

open Grammar.Gherkin in
/-- **The implied rule can be written down.**  Of a text with scenarios directly under a feature,
the first line below the title that is no free text belongs to a scenario.  With a rule of the same
title in front of this line, the text is accepted as well, and the documents say the same. -/
theorem Document.parse_withRule {text title : Text} (h : Gherkin.HoldsScenarios text title)
    (source : Path) :
    (∃ b, (Line.split text)[aboveBlocks (Line.split text)]? = some b ∧ opensScenario b = true) ∧
      ∃ d d', Document.parse source .gherkin text = .ok d ∧
        Document.parse source .gherkin (withRule title text) = .ok d' ∧
        d.description = some title ∧ d.sameAs d' = true := by
  obtain ⟨front, es, hresult⟩ := h
  obtain ⟨n, hfeature⟩ := Reply.result_eq_ok.1 hresult
  obtain ⟨hopens, es', n', hfeature', hview⟩ := feature_withRule hfeature
  refine ⟨hopens, _, _, Document.parse_gherkin_eq_ok.2 ⟨_, _, _, _, hfeature, rfl⟩,
    Document.parse_gherkin_eq_ok.2 ⟨_, _, _, _, hfeature', rfl⟩, rfl, ?_⟩
  refine @Document.sameAs_of_relabel_eq (Function.const Nat 0) _ _ ?_
  simp only [Document.relabel, map_inherit_relabel, Body.requirements_relabel, Body.relabel, hview]
  rfl

open Grammar.Gherkin in
/-- Comments and tags stay on the scenario that they stand above. -/
theorem Document.parse_withRule_tagged :
    HoldsScenarios "@t\nFeature: f\nAbout f.\n\n# c\n@u\nScenario: s\nGiven a\n".toList "f".toList ∧
      withRule "f".toList "@t\nFeature: f\nAbout f.\n\n# c\n@u\nScenario: s\nGiven a\n".toList =
        "@t\nFeature: f\nAbout f.\n\nRule: f\n# c\n@u\nScenario: s\nGiven a\n".toList ∧
      ∃ d d', Document.parse ⟨"a".toList⟩ .gherkin
            "@t\nFeature: f\nAbout f.\n\n# c\n@u\nScenario: s\nGiven a\n".toList = .ok d ∧
        Document.parse ⟨"a".toList⟩ .gherkin
            "@t\nFeature: f\nAbout f.\n\nRule: f\n# c\n@u\nScenario: s\nGiven a\n".toList = .ok d' ∧
        d.sameAs d' = true := by
  have hholds : HoldsScenarios
      "@t\nFeature: f\nAbout f.\n\n# c\n@u\nScenario: s\nGiven a\n".toList "f".toList := by
    refine ⟨⟨none, some ["t".toList]⟩,
      [⟨some ["c".toList], none, some ["u".toList], some ["u".toList],
      some "s".toList, [⟨none, .condition, "a".toList, none, some 8⟩], none, none⟩], ?_⟩
    with_unfolding_all rfl
  have hrule :
    withRule "f".toList "@t\nFeature: f\nAbout f.\n\n# c\n@u\nScenario: s\nGiven a\n".toList =
      "@t\nFeature: f\nAbout f.\n\nRule: f\n# c\n@u\nScenario: s\nGiven a\n".toList := by
    decide +kernel
  obtain ⟨-, d, d', hd, hd', -, hsame⟩ := Document.parse_withRule hholds ⟨"a".toList⟩
  rw [hrule] at hd'
  exact ⟨hholds, hrule, d, d', hd, hd', hsame⟩

end PlainSpec
