import PlainSpec.Proofs.Source.Account

/-!
# What a rule reads, in passages

A rule that succeeds has read some passages of the source, from the spot where it starts to the spot
where it ends.  The passages are those of the whole source: they are told with the lines ahead
present, so that a run of rows or a table can not be cut in two by reading it in parts.

## Main definitions

* `Parser.Spans`: what a parser reads is a stretch of the passages, and has a property.
* `Grammar.ReqsML.Spelled`: the passages of a block of data.

## Main results

* `Parser.Spans.both`, `Parser.Spans.run`, …: what combinations read.
* `Grammar.ReqsML.spans_comments`, `Grammar.ReqsML.spans_header`: what stands in front of a
  construct.
* `Grammar.ReqsML.spans_optionalData`: a block of data is one passage.
* `Grammar.ReqsML.passages_tableEnds`: behind the end of a table of examples.
-/

namespace PlainSpec

open PlainSpec.Parser Grammar Grammar.ReqsML

@[simp] theorem passages_skipBlank (spot : Spot) (c : Cursor) :
    passages spot c.skipBlank.rest = passages spot c.rest := by
  rw [Cursor.rest_skipBlank, passages_dropWhile]

namespace Cursor

/-- The line ahead is the first one behind the blank lines. -/
theorem rest_of_ahead? {c : Cursor} {l : Line} (h : c.ahead? = some l) :
    c.skipBlank.rest = l :: c.skipBlank.advance.rest := by
  unfold ahead? peek? at h
  unfold advance
  split
  · rename_i hnil
    rw [hnil] at h
    cases h
  · rename_i l' rest hrest
    rw [hrest] at h ⊢
    cases h
    rfl

theorem passages_ahead {c : Cursor} {l : Line} (h : c.ahead? = some l) (spot : Spot) :
    passages spot c.rest = passages spot (l :: c.skipBlank.advance.rest) := by
  rw [← passages_skipBlank, rest_of_ahead? h]

end Cursor

namespace Parser

variable {α β : Type} {p : Parser α} {q : Parser β} {before mid after : Spot}
  {P : α → List Passage → Prop} {Q : β → List Passage → Prop}

/-- What the parser reads is a stretch of the passages between two spots, and has the property. -/
def Spans (p : Parser α) (before after : Spot) (P : α → List Passage → Prop) : Prop :=
  ∀ c v n, c.Sound → p c = .ok v n →
    ∃ ps, passages before c.rest = ps ++ passages after n.rest ∧ P v ps

namespace Spans

theorem line {f : Line → Except Fault α}
    (h : ∀ l rest v, f l = .ok v →
      ∃ ps, passages before (l :: rest) = ps ++ passages after rest ∧ P v ps) :
    Spans (Parser.line f) before after P := by
  intro c v n _ hv
  obtain ⟨l, hl, hread, rfl⟩ := line_eq_ok.1 hv
  obtain ⟨ps, hps, hP⟩ := h l c.skipBlank.advance.rest v hread
  exact ⟨ps, by rw [Cursor.passages_ahead hl, hps], hP⟩

theorem map {f : α → β} (h : Spans p before after P) (hf : ∀ v ps, P v ps → Q (f v) ps) :
    Spans (Parser.map p f) before after Q := by
  intro c w n hc hw
  obtain ⟨v, hv, rfl⟩ := map_eq_ok.1 hw
  obtain ⟨ps, hps, hP⟩ := h c v n hc hv
  exact ⟨ps, hps, hf v ps hP⟩

theorem check {f : α → Except Invalid β} (h : Spans p before after P)
    (hf : ∀ v w ps, P v ps → f v = .ok w → Q w ps) : Spans (Parser.check p f) before after Q := by
  intro c w n hc hw
  obtain ⟨v, hv, hfv⟩ := check_eq_ok.1 hw
  obtain ⟨ps, hps, hP⟩ := h c v n hc hv
  exact ⟨ps, hps, hf v w ps hP hfv⟩

theorem both (hp : Spans p before mid P) (hd : Disciplined p) (hq : Spans q mid after Q) :
    Spans (Parser.both p q) before after
      fun v all => ∃ ps qs, all = ps ++ qs ∧ P v.1 ps ∧ Q v.2 qs := by
  intro c v n hc hv
  obtain ⟨m, hm, hn⟩ := both_eq_ok.1 hv
  obtain ⟨ps, hps, hP⟩ := hp _ _ _ hc.skipBlank hm
  obtain ⟨qs, hqs, hQ⟩ := hq _ _ _ (hc.skipBlank.of_reaches (hd.reaches hm)) hn
  refine ⟨ps ++ qs, ?_, ps, qs, rfl, hP, hQ⟩
  rw [← passages_skipBlank, hps, hqs, List.append_assoc]

theorem first (hp : Spans p before mid P) (hd : Disciplined p) (hq : Spans q mid after Q) :
    Spans (Parser.first p q) before after
      fun v all => ∃ w ps qs, all = ps ++ qs ∧ P v ps ∧ Q w qs := by
  intro c v n hc hv
  obtain ⟨m, w, hm, hn⟩ := first_eq_ok.1 hv
  obtain ⟨all, hall, ps, qs, heq, hP, hQ⟩ :=
    both hp hd hq c (v, w) n hc (both_eq_ok.2 ⟨m, hm, hn⟩)
  exact ⟨all, hall, w, ps, qs, heq, hP, hQ⟩

theorem orElse {q : Parser α} (hp : Spans p before after P) (hq : Spans q before after P) :
    Spans (Parser.orElse p q) before after P := by
  intro c v n hc hv
  rw [← passages_skipBlank]
  rcases orElse_eq_ok.1 hv with h | ⟨-, h⟩
  · exact hp _ _ _ hc.skipBlank h
  · exact hq _ _ _ hc.skipBlank h

/-- **A repetition** reads what its elements read, one after the other. -/
theorem run {stop : Parser β} {R : List α → List Passage → Prop} (hp : Spans p mid mid P)
    (hd : Disciplined p) (hnil : R [] [])
    (hcons : ∀ v vs ps qs, P v ps → R vs qs → R (v :: vs) (ps ++ qs)) {c n : Cursor} {vs : List α}
    (hc : c.Sound) (h : Run p stop c vs n) :
    ∃ ps, passages mid c.rest = ps ++ passages mid n.rest ∧ R vs ps := by
  induction h with
  | stop h => exact ⟨[], rfl, hnil⟩
  | step hs he hlt _ ih =>
    obtain ⟨ps, hps, hP⟩ := hp _ _ _ hc he
    obtain ⟨qs, hqs, hR⟩ := ih (hc.of_reaches (hd.reaches he))
    exact ⟨ps ++ qs, by rw [hps, hqs, List.append_assoc], hcons _ _ _ _ hP hR⟩
  | stuck hs he hge =>
    obtain ⟨ps, hps, hP⟩ := hp _ _ _ hc he
    refine ⟨ps, hps, ?_⟩
    have := hcons _ _ _ _ hP hnil
    rwa [List.append_nil] at this

theorem many {stop : Parser β} {R : List α → List Passage → Prop} (hp : Spans p mid mid P)
    (hd : Disciplined p) (hnil : R [] [])
    (hcons : ∀ v vs ps qs, P v ps → R vs qs → R (v :: vs) (ps ++ qs)) :
    Spans (Parser.many p stop) mid mid R := by
  intro c vs n hc hvs
  rw [← passages_skipBlank]
  exact hp.run hd hnil hcons hc.skipBlank (many_eq_ok.1 hvs)

/-- The parts of a repetition give account of their statements and slots. -/
theorem several {name : String} {stop : Parser β} {statements : α → List Statement}
    {slots : α → List Slot}
    (hp : Spans p mid mid fun v ps => Accounts ps (statements v) (slots v)) (hd : Disciplined p) :
    Spans (Parser.several name p stop) mid mid fun vs ps =>
      Accounts ps (vs.toList.flatMap statements) (vs.toList.flatMap slots) := by
  intro c vs n hc hvs
  rw [← passages_skipBlank]
  exact hp.run (R := fun vs ps => Accounts ps (vs.flatMap statements) (vs.flatMap slots)) hd
    (.nil _) (fun _ _ _ _ => .cons) hc.skipBlank (several_eq_ok.1 hvs)

end Spans

/-! ### Repeated lines -/

variable {f : Line → Except Fault α}

/-- Lines of a kind are always read, none or more. -/
theorem exists_run_line (f : Line → Except Fault α) (c : Cursor) :
    ∃ vs n, Run (line f) (Parser.orElse finish (absent (line f))) c vs n := by
  by_cases hs : Refuses (Parser.orElse finish (absent (line f))) c
  · obtain ⟨-, v, n, hline⟩ := refuses_unless.1 hs
    have hread : line f c = .ok v n := by
      rw [line_eq_ok] at hline ⊢
      simpa using hline
    have hlt := (Consuming.line f).length_lt hread
    obtain ⟨vs, m, hrun⟩ := exists_run_line f n
    exact ⟨v :: vs, m, .step hs hread hlt hrun⟩
  · obtain ⟨v, n, hstop⟩ := not_refuses_iff.1 hs
    exact ⟨[], c, .stop hstop⟩
termination_by c.rest.length

/-- Behind lines of a kind there is no further one. -/
theorem not_line_of_run {c n : Cursor} {vs : List α}
    (h : Run (line f) (Parser.orElse finish (absent (line f))) c vs n) {l : Line}
    (hl : n.ahead? = some l) (v : α) : f l ≠ .ok v := by
  intro hv
  obtain ⟨w, m, hstop⟩ := stop_of_run (Consuming.line f) h
  refine not_refuses_iff.2 ⟨w, m, hstop⟩ (refuses_unless.2 ⟨by simp [Cursor.atEnd, hl], v, ?_⟩)
  exact ⟨_, line_eq_ok.2 ⟨l, by rw [Cursor.ahead?_skipBlank, hl], hv, rfl⟩⟩

end Parser

/-! ## Comments and metadata -/

/-- The passages of comments at a spot. -/
def Comments.passages (spot : Spot) (comments : Comments) : List Passage :=
  (comments.getD []).map fun text => spot.passage (.comment text)

theorem Comments.isSilent_passages (spot : Spot) (comments : Comments) :
    ∀ p ∈ comments.passages spot, p.content.isSilent = true := by
  intro p hp
  obtain ⟨text, -, rfl⟩ := List.mem_map.1 hp
  rfl

theorem Comments.kept_passages {spot : Spot} {comments : Comments} {slots : List Slot}
    (h : ∃ slot ∈ slots, slot.comments = comments) : Kept (comments.passages spot) slots := by
  obtain ⟨slot, hslot, rfl⟩ := h
  intro p hp _
  obtain ⟨text, htext, rfl⟩ := List.mem_map.1 hp
  exact ⟨slot, hslot, htext⟩

namespace Grammar.ReqsML

/-- Comments leave a table of examples where it is. -/
theorem spans_comments (spot : Spot) (hspot : (if spot.inTable then spot else .plain) = spot) :
    Spans (comments commentMark) spot spot fun cs ps => ps = Comments.passages spot cs := by
  have hline : Spans (commentLine commentMark) spot spot
      fun t ps => ps = [spot.passage (.comment t)] := by
    refine .line fun l rest t ht => ⟨_, ?_, rfl⟩
    rw [passages_comment (Except.toOption_eq_some.2 ht), hspot]
    rfl
  refine (hline.many (R := fun ts ps => ps = ts.map fun t => spot.passage (.comment t))
    (disciplined_commentLine _) rfl ?_).map ?_
  · rintro t ts _ _ rfl rfl
    rfl
  · rintro ts _ rfl
    cases ts <;> rfl

/-- **Comments and metadata in front of a construct** are kept on it. -/
theorem spans_header :
    Spans header .plain .plain fun h ps => Accounts ps [] [⟨h.comments, h.metadata, none⟩] := by
  have hmetadata : Spans optionalMetadata .plain .plain fun m ps =>
      ∀ slots, (∃ slot ∈ slots, slot.metadata = m.getD noMetadata) → Accounts ps [] slots := by
    intro c m n _ hm
    rcases whenAhead_eq_ok.1 hm with ⟨hahead, found, hfound, rfl⟩ | ⟨-, rfl, rfl⟩
    · obtain ⟨text, hline, hread⟩ := check_eq_ok.1 hfound
      obtain ⟨l, hl, htext, rfl⟩ := line_eq_ok.1 hline
      cases htext
      rw [hl] at hahead
      refine ⟨[⟨.metadata l.trimmed, false⟩], ?_, ?_⟩
      · rw [Cursor.passages_ahead hl, passages_metadata hahead]
        rfl
      · rintro slots ⟨slot, hslot, hsame⟩
        refine .of_silent (by simp [Content.isSilent]) (.singleton fun _ => ⟨slot, hslot, ?_⟩)
        rw [hsame]
        exact Except.mapError_eq_ok.1 hread
    · exact ⟨[], rfl, fun slots _ => .nil slots⟩
  refine ((spans_comments .plain rfl).both (disciplined_comments _) hmetadata).map ?_
  rintro ⟨cs, m⟩ _ ⟨_, qs, rfl, rfl, hq⟩
  refine .silent_append (Comments.isSilent_passages _ _) ?_ (hq _ ?_)
  · exact Comments.kept_passages ⟨_, List.mem_singleton_self _, rfl⟩
  · exact ⟨_, List.mem_singleton_self _, rfl⟩

/-! ## Blocks of data -/

/-- The body of a text block is what stands in front of its closing line. -/
theorem closing?_of_bodyUntil {passed ls : List Line} {body : List Text} {n : Cursor}
    (h : bodyUntil Dialect.reqsml.textDelimiter passed ls = some (body, n)) :
    ∃ inside, closing? ls = some (inside, n.rest) ∧ body = inside.map Line.trimmed := by
  induction ls generalizing passed body n with
  | nil => cases h
  | cons l rest ih =>
    unfold bodyUntil at h
    split at h
    · rename_i hclosing
      cases h
      exact ⟨[], closing?_delimiter (decide_eq_true hclosing), rfl⟩
    · rename_i hinside
      obtain ⟨⟨body', n'⟩, hrest, heq⟩ := Option.map_eq_some_iff.1 h
      cases heq
      obtain ⟨inside, hfound, rfl⟩ := ih hrest
      exact ⟨l :: inside, by rw [closing?_inside (decide_eq_false hinside), hfound]; rfl, rfl⟩

/-- The passages of a block of data at a spot, if there is one. -/
inductive Spelled (spot : Spot) : Option Data → List Passage → Prop where
  | none : Spelled spot none []
  | text (body : List Text) :
      Spelled spot (some (.text (Text.join ['\n'] body))) [spot.passage (.text body)]
  | rows {rows : Several TableRow} {d : Data} (h : readRows rows = .ok d) :
      Spelled spot (some d) [spot.passage (.rows rows)]

theorem Spelled.isSilent {spot : Spot} {d : Option Data} {ps : List Passage}
    (h : Spelled spot d ps) :
    ∀ p ∈ ps, p.content.isSilent = true := by
  intro p hp
  cases h with
  | none => cases hp
  | text body | rows h =>
    rw [List.mem_singleton.1 hp]
    rfl

theorem Spelled.kept {spot : Spot} {d : Option Data} {ps : List Passage} {slots : List Slot}
    (h : Spelled spot d ps) (hslot : ∃ slot ∈ slots, slot.data = d) : Kept ps slots := by
  obtain ⟨slot, hmem, rfl⟩ := hslot
  generalize hd : slot.data = d at h
  cases h with
  | none => exact fun p hp => absurd hp List.not_mem_nil
  | text body => exact .singleton fun _ => ⟨slot, hmem, hd⟩
  | rows h => exact .singleton fun _ => ⟨slot, hmem, _, hd, h⟩

/-- Data right below a keyword without text stand aside. -/
theorem Spelled.aside {d : Option Data} {ps : List Passage} (h : Spelled .bareKeyword d ps) :
    ∀ p ∈ ps, p.aside = true := by
  intro p hp
  cases h with
  | none => cases hp
  | text body | rows h =>
    rw [List.mem_singleton.1 hp]
    rfl

theorem spans_textBlock {spot : Spot} :
    Spans (textBlock .reqsml) spot .plain fun d ps => Spelled spot (some d) ps := by
  intro c d n _ hd
  obtain ⟨_, m, hopening, hbody⟩ := bind_eq_ok.1 hd
  obtain ⟨l, hl, hdelimiter, rfl⟩ := line_eq_ok.1 hopening
  have hl' : l.isDelimiter = true := by
    split at hdelimiter
    · rename_i h
      exact decide_eq_true h
    · cases hdelimiter
  unfold textBody at hbody
  split at hbody
  · cases hbody
  · rename_i body m hfound
    split at hbody
    · cases hbody
    · cases hbody
      obtain ⟨inside, hclosing, rfl⟩ := closing?_of_bodyUntil hfound
      exact ⟨_, by rw [Cursor.passages_ahead hl, passages_text hl' hclosing]; rfl, .text _⟩

theorem row?_eq_some {l : Line} {row : TableRow} :
    l.row? = some row ↔
      (splitCells l.trimmed).map (fun cells => (⟨l.number, cells⟩ : TableRow)) = .ok row := by
  unfold Line.row?
  cases splitCells l.trimmed <;> simp [Except.toOption, Except.map]

/-- Blank lines in front of a run do not matter. -/
theorem run_dropWhile (ls : List Line) :
    ((ls.dropWhile Line.isBlank).takeWhile Line.inRun).filterMap Line.row? =
        (ls.takeWhile Line.inRun).filterMap Line.row? ∧
      (ls.dropWhile Line.isBlank).dropWhile Line.inRun = ls.dropWhile Line.inRun := by
  induction ls with
  | nil => exact ⟨rfl, rfl⟩
  | cons l rest ih =>
    by_cases hblank : l.isBlank = true
    · have hrun : l.inRun = true := by simp [Line.inRun, hblank]
      have hrow : l.row? = none := by
        cases hfound : l.row? with
        | none => rfl
        | some row => simp [(Line.opens_of_row? hfound).isBlank] at hblank
      simp only [List.dropWhile_cons_of_pos hblank, List.takeWhile_cons_of_pos hrun,
        List.dropWhile_cons_of_pos hrun, List.filterMap_cons, hrow]
      exact ih
    · rw [List.dropWhile_cons_of_neg hblank]
      exact ⟨rfl, rfl⟩

/-- **The rows of a run** are those up to the first line that is neither blank nor a row. -/
theorem rows_of_run {c n : Cursor} {rows : List TableRow}
    (h : Run tableRow (orElse finish (absent tableRow)) c rows n) :
    rows = (c.rest.takeWhile Line.inRun).filterMap Line.row? ∧
      n.rest.dropWhile Line.isBlank = c.rest.dropWhile Line.inRun := by
  induction h with
  | @stop c v m hstop =>
    -- the run ends in front of the first line that is no row, wherever that is
    rw [← (run_dropWhile c.rest).1, ← (run_dropWhile c.rest).2]
    cases hrest : c.rest.dropWhile Line.isBlank with
    | nil => exact ⟨rfl, rfl⟩
    | cons l rest =>
      have hl : c.ahead? = some l := by rw [Cursor.ahead?_eq_head?, hrest]; rfl
      have hblank := Line.isBlank_of_dropWhile hrest
      have hrow : l.row? = none := by
        rw [Option.eq_none_iff_forall_ne_some]
        intro row hrow
        exact not_line_of_run (.stop hstop) hl row (row?_eq_some.1 hrow)
      have hrun : ¬ l.inRun = true := by simp [Line.inRun, hblank, hrow]
      rw [List.takeWhile_cons_of_neg hrun, List.dropWhile_cons_of_neg hrun]
      exact ⟨rfl, rfl⟩
  | @step c row m rows n hs he hlt _ ih =>
    obtain ⟨l, hl, hrow, rfl⟩ := line_eq_ok.1 he
    replace hrow := row?_eq_some.2 hrow
    have hrun : l.inRun = true := by simp [Line.inRun, hrow]
    rw [← (run_dropWhile c.rest).1, ← (run_dropWhile c.rest).2, ← Cursor.rest_skipBlank,
      Cursor.rest_of_ahead? hl, List.takeWhile_cons_of_pos hrun, List.dropWhile_cons_of_pos hrun,
      List.filterMap_cons, hrow, ← ih.1]
    exact ⟨rfl, ih.2⟩
  | @stuck c row m hs he hge => exact absurd ((Consuming.line _).length_lt he) hge

theorem spans_tableRows {spot : Spot} (hspot : spot.inTable = false) :
    Spans tableRows spot .plain fun rows ps => ps = [spot.passage (.rows rows)] := by
  intro c rows n _ hrows
  have hrun := several_eq_ok.1 hrows
  obtain ⟨row, tail⟩ := rows
  cases hrun with
  | step hs he hlt hr =>
    obtain ⟨l, hl, hrow, rfl⟩ := line_eq_ok.1 he
    obtain ⟨htail, hrest⟩ := rows_of_run hr
    refine ⟨_, ?_, rfl⟩
    rw [← passages_skipBlank, Cursor.passages_ahead hl, passages_rows hspot (row?_eq_some.2 hrow),
      ← htail, ← hrest, passages_dropWhile]
    rfl
  | stuck hs he hge => exact absurd ((Consuming.line _).length_lt he) hge

/-- **A block of data is one passage.** -/
theorem spans_optionalData {spot : Spot} (hspot : spot = .plain ∨ spot = .bareKeyword) :
    Spans (optionalData .reqsml) spot .plain (Spelled spot) := by
  intro c d n hc hd
  rcases whenAhead_eq_ok.1 hd with ⟨-, d, hdata, rfl⟩ | ⟨hahead, rfl, rfl⟩
  · rw [← passages_skipBlank]
    rcases data_eq_ok.1 hdata with htext | ⟨-, rows, hrows, hread⟩
    · exact spans_textBlock _ _ _ hc.skipBlank htext
    · have htable : spot.inTable = false := by
        rcases hspot with rfl | rfl <;> rfl
      obtain ⟨ps, hps, rfl⟩ := spans_tableRows htable _ _ _ hc.skipBlank hrows
      exact ⟨_, hps, .rows hread⟩
  · refine ⟨[], ?_, .none⟩
    rcases hspot with rfl | rfl
    · rfl
    · refine passages_bareKeyword fun l hl => ?_
      rw [← Cursor.ahead?_eq_head?] at hl
      simpa [hl] using hahead

/-! ## The end of a table of examples -/

/-- Comments are always read, up to the first line that is none. -/
theorem exists_comments (c : Cursor) :
    ∃ cs m, comments commentMark c = .ok cs m ∧ ∀ l, m.ahead? = some l → l.comment? = none := by
  obtain ⟨found, m, hrun⟩ :=
    exists_run_line (fun l => readComment commentMark l.trimmed) c.skipBlank
  refine ⟨_, m, map_eq_ok.2 ⟨found, many_eq_ok.2 hrun, rfl⟩, fun l hl => ?_⟩
  rw [Option.eq_none_iff_forall_ne_some]
  intro t ht
  exact not_line_of_run hrun hl t (Except.toOption_eq_some.1 ht)

/-- **Behind the end of a table of examples** lines are taken as they are elsewhere. -/
theorem passages_tableEnds {c : Cursor} (hc : c.Sound) (h : TableEnds c) :
    passages .values c.rest = passages .plain c.rest := by
  obtain ⟨cs, m, hcomments, hnone⟩ := exists_comments c.skipBlank
  obtain ⟨_, hvalues, rfl⟩ := spans_comments .values rfl _ _ _ hc.skipBlank hcomments
  obtain ⟨_, hplain, rfl⟩ := spans_comments .plain rfl _ _ _ hc.skipBlank hcomments
  have hsame : Comments.passages .values cs = Comments.passages .plain cs :=
    List.map_congr_left fun t _ => Spot.passage_values _
  rw [passages_skipBlank] at hvalues hplain
  rw [hvalues, hplain, hsame]
  congr 1
  refine passages_values fun l hl => ?_
  rw [← Cursor.ahead?_eq_head?] at hl
  refine ⟨hnone l hl, ?_⟩
  rw [Option.eq_none_iff_forall_ne_some]
  rintro ⟨metadata, cells⟩ hrow
  refine h _ m.skipBlank.advance
    (map_eq_ok.2 ⟨(cs, l.number, metadata, cells), both_eq_ok.2 ⟨m, ?_, ?_⟩, rfl⟩)
  · rw [Cursor.skipBlank_skipBlank]
    exact hcomments
  · exact line_eq_ok.2 ⟨l, hl, by rw [Except.toOption_eq_some.1 hrow]; rfl, rfl⟩

end Grammar.ReqsML

end PlainSpec
