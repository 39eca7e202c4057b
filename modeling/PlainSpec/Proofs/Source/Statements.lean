import PlainSpec.Proofs.Canonical.ExamplesTable
import PlainSpec.Proofs.Source.Spans

/-!
# The account of statements and tables

A statement is some comments, its line and perhaps a block of data, and all of it is kept on the
statement.  Below a keyword without text this holds of the bullets, but not of data right below the
keyword.  A table of examples is a header without metadata, a row of hyphens whose metadata are not
kept, and rows that are kept on the examples made from them.

## Main definitions

* `Grammar.ReqsML.Told`: the passages of a statement, by the content of its line.
* `TemplateRow.passages`: the passages of a row of examples.

## Main results

* `Grammar.ReqsML.spans_statements`: the account of the statements of an example.
* `Grammar.ReqsML.accounts_table`: the account of a table of examples.
-/

namespace PlainSpec

open PlainSpec.Parser

namespace Grammar.ReqsML

/-! ## One statement -/

/-- The passages of a statement: its comments, its line with the given content, and its data. -/
def Told (content : Content) (below : Spot) (s : Statement) (ps : List Passage) : Prop :=
  ∃ data, Spelled below s.data data ∧
    ps = Comments.passages .plain s.comments ++ ⟨content, false⟩ :: data

/-- A statement is told by its line, of whatever form the line is. -/
theorem spans_statementWith {f : Line → Except Fault Heading} (content : Heading → Content)
    (below : Heading → Spot)
    (hline : ∀ l rest h, f l = .ok h →
      passages .plain (l :: rest) = ⟨content h, false⟩ :: passages (below h) rest)
    (hbelow : ∀ h, below h = .plain ∨ below h = .bareKeyword) :
    Spans (statementWith .reqsml commentMark (line f)) .plain .plain fun s ps =>
      ∃ h l, f l = .ok h ∧ s.kind = h.kind ∧ s.description = h.description ∧
        s.line = some h.line ∧ Told (content h) (below h) s ps := by
  intro c s n hc hs
  obtain ⟨⟨⟨cs, h⟩, d⟩, hboth, rfl⟩ := map_eq_ok.1 hs
  obtain ⟨m, hfront, hdata⟩ := both_eq_ok.1 hboth
  obtain ⟨k, hcomments, hheading⟩ := both_eq_ok.1 hfront
  obtain ⟨l, hl, hread, rfl⟩ := line_eq_ok.1 hheading
  dsimp only at hcomments hdata hread
  rw [Cursor.skipBlank_skipBlank] at hcomments
  have hk : k.Sound := hc.skipBlank.of_reaches ((disciplined_comments _).reaches hcomments)
  have hm : k.skipBlank.advance.Sound := hk.of_reaches ((Disciplined.line f).reaches hheading)
  obtain ⟨_, hcs, rfl⟩ := spans_comments .plain rfl _ _ _ hc.skipBlank hcomments
  obtain ⟨data, hrest, hspelled⟩ := spans_optionalData (hbelow h) _ _ _ hm hdata
  refine ⟨_, ?_, h, l, hread, rfl, rfl, rfl, data, hspelled, rfl⟩
  rw [passages_skipBlank] at hcs
  rw [hcs, Cursor.passages_ahead hl, hline l _ h hread, hrest]
  simp

theorem spans_statement :
    Spans statement .plain .plain fun s ps => ∃ number, s.line = some number ∧
      Told (.keyword s.kind s.description number)
        (if s.description.isEmpty then .bareKeyword else .plain) s ps := by
  intro c s n hc hs
  obtain ⟨ps, hps, h, l, -, hkind, hdescription, hnumber, htold⟩ :=
    spans_statementWith (fun h => .keyword h.kind h.description h.line)
      (fun h => if h.description.isEmpty then .bareKeyword else .plain) (fun l rest h hh => by
        obtain ⟨⟨kind, text⟩, hr, rfl⟩ := Except.map_eq_ok.1 hh
        exact passages_keyword (Line.keyword?_eq_some.2 (exists_of_readKeyword hr)))
      (fun h => by split <;> simp) c s n hc hs
  refine ⟨ps, hps, h.line, hnumber, ?_⟩
  rw [hkind, hdescription]
  exact htold

/-- The text of a bullet is what stands behind its mark. -/
theorem bullet?_of_readBullet {l : Line} {t : Text} (h : readBullet l.trimmed = .ok t) :
    l.bullet? = some t := by
  unfold Line.bullet?
  cases hl : l.trimmed with
  | nil => rw [hl] at h; cases h
  | cons c rest =>
    rw [hl] at h
    simp only [readBullet] at h
    split at h
    · cases h
    · rename_i hmark
      split at h
      · cases h
      · cases h
        exact if_pos (Classical.not_not.1 hmark)

theorem spans_bullet (kind : StatementKind) :
    Spans (statementWith .reqsml commentMark (bulletLine kind)) .plain .plain fun s ps =>
      ∃ number, s.line = some number ∧ s.kind = kind ∧
        Told (.bullet s.description number) .plain s ps := by
  intro c s n hc hs
  obtain ⟨ps, hps, h, l, hread, hkind, hdescription, hnumber, htold⟩ :=
    spans_statementWith (fun h => .bullet h.description h.line) (fun _ => .plain)
      (fun l rest h hh => by
        obtain ⟨text, hr, rfl⟩ := Except.map_eq_ok.1 hh
        exact passages_bullet (bullet?_of_readBullet hr)) (fun _ => .inl rfl) c s n hc hs
  obtain ⟨text, -, rfl⟩ := Except.map_eq_ok.1 hread
  refine ⟨ps, hps, l.number, hnumber, hkind, ?_⟩
  rw [hdescription]
  exact htold

namespace Told

variable {content : Content} {below : Spot} {s : Statement} {ps : List Passage}

/-- Only the line of a statement announces anything. -/
theorem announce_eq (h : Told content below s ps) (above : Option StatementKind) :
    announce above ps = announce above [⟨content, false⟩] ∧
      lastKind above ps = lastKind above [⟨content, false⟩] := by
  obtain ⟨data, hspelled, rfl⟩ := h
  have hcomments := announce_of_silent (Comments.isSilent_passages .plain s.comments)
  have hdata := announce_of_silent hspelled.isSilent
  rw [announce_append, lastKind_append, (hcomments above).1, (hcomments above).2]
  cases content <;> simp [announce, lastKind, hdata]

/-- A statement keeps its comments and its data. -/
theorem kept (h : Told content .plain s ps) {slots : List Slot} (hcontent : content.KeptIn slots)
    (hslot : s.slot ∈ slots) : Kept ps slots := by
  obtain ⟨data, hspelled, rfl⟩ := h
  refine (Comments.kept_passages ⟨_, hslot, rfl⟩).append ?_
  exact (Kept.singleton fun _ => hcontent).append (hspelled.kept ⟨_, hslot, rfl⟩)

/-- A keyword without text and without comments has nothing to keep but what stands aside. -/
theorem kept_bareKeyword (h : Told content .bareKeyword s ps) (hcomments : s.comments = none)
    {slots : List Slot} (hcontent : content.KeptIn slots) : Kept ps slots := by
  obtain ⟨data, hspelled, rfl⟩ := h
  rw [hcomments]
  refine (Kept.singleton fun _ => hcontent).append fun p hp hfalse => ?_
  rw [hspelled.aside p hp] at hfalse
  cases hfalse

end Told

/-! ## Groups of statements -/

/-- **A statement with its text behind the keyword.** -/
theorem spans_singleStatement :
    Spans singleStatement .plain .plain fun ss ps => Accounts ps ss (ss.map Statement.slot) := by
  refine spans_statement.check ?_
  rintro s ss ps ⟨number, hnumber, htold⟩ hss
  split at hss
  · cases hss
  · rename_i hne
    cases hss
    rw [if_neg hne] at htold
    refine ⟨fun above => ?_, htold.kept trivial (by simp)⟩
    rw [(htold.announce_eq above).1]
    simp [announce, hne, Statement.announcement?, hnumber]

/-- The bullets below a keyword of some kind announce statements of that kind. -/
theorem spans_bullets (kind : StatementKind) :
    Spans (bullets kind) .plain .plain fun items ps =>
      (announce (some kind) ps).map some = items.map Statement.announcement? ∧
        lastKind (some kind) ps = some kind ∧ Kept ps (items.map Statement.slot) := by
  refine (spans_bullet kind).many (disciplined_bullet kind) ⟨rfl, rfl, nofun⟩ ?_
  rintro s items ps qs ⟨number, hnumber, hkind, htold⟩ ⟨hannounce, hlast, hkept⟩
  obtain ⟨hsaid, hkind'⟩ := htold.announce_eq (some kind)
  refine ⟨?_, ?_, ?_⟩
  · rw [announce_append, hkind', hsaid]
    simpa [announce, lastKind, Statement.announcement?, hnumber, hkind] using hannounce
  · rw [lastKind_append, hkind']
    exact hlast
  · refine (htold.kept trivial (by simp)).append (hkept.mono ?_)
    exact List.subset_cons_self _ _

/-- **Bullets below a keyword without text.**  Data right below the keyword stand aside. -/
theorem spans_statementList :
    Spans statementList .plain .plain fun ss ps => Accounts ps ss (ss.map Statement.slot) := by
  intro c ss n hc hss
  obtain ⟨⟨keyword, items⟩, hbind, hcheck⟩ := check_eq_ok.1 hss
  obtain ⟨found, m, hkeyword, hmap⟩ := bind_eq_ok.1 hbind
  obtain ⟨found', hitems, heq⟩ := map_eq_ok.1 hmap
  cases heq
  obtain ⟨ps, hps, number, -, htold⟩ := spans_statement _ _ _ hc hkeyword
  have hm : m.Sound := hc.of_reaches (disciplined_statement.reaches hkeyword)
  obtain ⟨qs, hqs, hannounce, -, hkept⟩ := spans_bullets _ _ _ _ hm hitems
  dsimp only at hcheck
  split at hcheck
  · cases hcheck
  · rename_i hfault
    cases hcheck
    obtain ⟨hcomments, hempty⟩ : keyword.comments = none ∧ keyword.description.isEmpty = true := by
      simp only [listFault?] at hfault
      split at hfault
      · cases hfault
      · split at hfault
        · cases hfault
        · split at hfault
          · cases hfault
          · rename_i hnone htext
            exact ⟨by simpa using hnone, by simpa using htext⟩
    rw [if_pos hempty] at htold
    refine ⟨ps ++ qs, by rw [hps, hqs, List.append_assoc], fun above => ?_, ?_⟩
    · obtain ⟨hsilent, hkind⟩ := htold.announce_eq above
      rw [announce_append, hsilent, hkind]
      simpa [announce, lastKind, hempty] using hannounce
    · exact (htold.kept_bareKeyword hcomments trivial).append hkept

/-- **The statements of an example** are announced in their order, and keep what is written on
them. -/
theorem spans_statements :
    Spans statements .plain .plain fun ss ps => Accounts ps ss (ss.map Statement.slot) := by
  have hgroup : Spans statementGroup .plain .plain
      fun ss ps => Accounts ps ss (ss.map Statement.slot) :=
    spans_singleStatement.orElse spans_statementList
  refine (hgroup.several disciplined_statementGroup).map fun groups ps h => ?_
  rwa [List.flatMap_id', List.flatMap_def, ← List.map_flatten] at h

end Grammar.ReqsML

/-! ## Tables of examples -/

/-- The passages of a row of examples at a spot. -/
def TemplateRow.passages (spot : Spot) (row : TemplateRow) : List Passage :=
  Comments.passages spot row.comments ++
    [spot.passage (.exampleRow ⟨row.identifier, row.labels⟩ row.cells)]

theorem TemplateRow.isSilent_passages (spot : Spot) (row : TemplateRow) :
    ∀ p ∈ row.passages spot, p.content.isSilent = true := by
  intro p hp
  rcases List.mem_append.1 hp with hp | hp
  · exact Comments.isSilent_passages _ _ p hp
  · rw [List.mem_singleton.1 hp]
    rfl

/-- Everything on the row of hyphens stands aside. -/
theorem TemplateRow.aside_passages (row : TemplateRow) :
    ∀ p ∈ row.passages .separator, p.aside = true := by
  intro p hp
  rcases List.mem_append.1 hp with hp | hp
  · obtain ⟨text, -, rfl⟩ := List.mem_map.1 hp
    rfl
  · rw [List.mem_singleton.1 hp]
    rfl

theorem TemplateRow.kept_passages {spot : Spot} {row : TemplateRow} {slots : List Slot}
    (h : ∃ slot ∈ slots, slot.comments = row.comments ∧
      slot.metadata = ⟨row.identifier, row.labels⟩) :
    Kept (row.passages spot) slots := by
  obtain ⟨slot, hslot, hcomments, hmetadata⟩ := h
  refine (Comments.kept_passages ⟨slot, hslot, hcomments⟩).append (.singleton fun _ => ?_)
  exact .inr ⟨slot, hslot, hmetadata⟩

namespace Grammar.ReqsML

theorem spans_exampleRow (spot : Spot) {after : Spot} (hspot : spot.inTable = true)
    (hafter : ∀ metadata cells, spot.next (.exampleRow metadata cells) = after) :
    Spans exampleRow spot after fun row ps => ps = row.passages spot := by
  refine ((spans_comments spot (if_pos hspot)).both (disciplined_comments _)
    (.line (P := fun v ps => ps = [spot.passage (.exampleRow v.2.1 v.2.2)]) ?_)).map ?_
  · intro l rest v hv
    obtain ⟨⟨metadata, cells⟩, hread, rfl⟩ := Except.map_eq_ok.1 hv
    refine ⟨_, ?_, rfl⟩
    rw [passages_exampleRow hspot (Except.toOption_eq_some.2 hread), hafter]
    rfl
  · rintro ⟨comments, number, metadata, cells⟩ _ ⟨_, _, rfl, rfl, rfl⟩
    rfl

/-- **The passages of a table of examples**, row by row. -/
theorem passages_exampleRows {c n : Cursor} {header separator : TemplateRow}
    {values : List TemplateRow}
    (hc : c.Sound) (h : exampleRows c = .ok (header :: separator :: values) n) :
    passages .header c.rest =
      header.passages .header ++ (separator.passages .separator ++
        (values.flatMap (TemplateRow.passages .values) ++ passages .plain n.rest)) := by
  have hends := tableEnds_of_exampleRows h
  have hn : n.Sound := hc.of_reaches (disciplined_exampleRows.reaches h)
  obtain ⟨⟨head, tail⟩, hfound, heq⟩ := map_eq_ok.1 h
  obtain ⟨rfl, rfl⟩ : head = header ∧ tail = separator :: values := by
    simpa [Several.toList] using heq
  have hrun := several_eq_ok.1 hfound
  -- the first two rows are at spots of their own, and further ones at one spot
  cases hrun with
  | step _ hheader _ hrun =>
    have hm := hc.skipBlank.of_reaches (disciplined_exampleRow.reaches hheader)
    cases hrun with
    | stuck _ he hge => exact absurd (consuming_exampleRow.length_lt he) hge
    | step _ hseparator _ hrun =>
      have hk := hm.of_reaches (disciplined_exampleRow.reaches hseparator)
      obtain ⟨_, hfirst, rfl⟩ :=
        spans_exampleRow .header rfl (fun _ _ => rfl) _ _ _ hc.skipBlank hheader
      obtain ⟨_, hsecond, rfl⟩ :=
        spans_exampleRow .separator rfl (fun _ _ => rfl) _ _ _ hm hseparator
      obtain ⟨_, hothers, rfl⟩ :=
        (spans_exampleRow .values rfl (fun _ _ => rfl)).run
          (R := fun rows ps => ps = rows.flatMap (TemplateRow.passages .values))
          disciplined_exampleRow rfl (by rintro v vs _ _ rfl rfl; rfl) hk hrun
      rw [← passages_skipBlank, hfirst, hsecond, hothers, passages_tableEnds hn hends]

/-- **The account of a table of examples.**  The header has no metadata, what is written on the row
of hyphens stands aside, and each further row is kept on its example. -/
theorem accounts_table {c n : Cursor} {set : ExampleSet} {rows : List TemplateRow}
    {es : List Example}
    (hc : c.Sound) (h : exampleRows c = .ok rows n) (hes : expandRows set rows = .ok es) :
    ∃ ps, passages .header c.rest = ps ++ passages .plain n.rest ∧
      Accounts ps [] (es.flatMap Example.slots) := by
  obtain ⟨header, separator, values, rfl, -, -, hfault, rfl⟩ := expandRows_eq_ok.1 hes
  have hheads := (Template.fault?_eq_none.1 hfault).top
  refine ⟨header.passages .header ++ (separator.passages .separator ++
    values.flatMap (TemplateRow.passages .values)), ?_, .of_silent ?_ ?_⟩
  · rw [passages_exampleRows hc h, List.append_assoc, List.append_assoc]
  · intro p hp
    rcases List.mem_append.1 hp with hp | hp
    · exact header.isSilent_passages _ p hp
    · rcases List.mem_append.1 hp with hp | hp
      · exact separator.isSilent_passages _ p hp
      · obtain ⟨row, -, hp⟩ := List.mem_flatMap.1 hp
        exact row.isSilent_passages _ p hp
  · have hheader : Kept (header.passages .header)
        ((values.map (Template.expandRow set header)).flatMap Example.slots) := by
      rw [TemplateRow.passages, hheads.comments, hheads.identifier, hheads.labels]
      exact .singleton fun _ => .inl rfl
    refine hheader.append (Kept.append (fun p hp hfalse => ?_) fun p hp => ?_)
    · rw [separator.aside_passages p hp] at hfalse
      cases hfalse
    · obtain ⟨row, hrow, hp⟩ := List.mem_flatMap.1 hp
      have hslot : (⟨row.comments, ⟨row.identifier, row.labels⟩, none⟩ : Slot) ∈
          (values.map (Template.expandRow set header)).flatMap Example.slots :=
        List.mem_flatMap.2 ⟨_, List.mem_map_of_mem hrow, List.mem_cons_self⟩
      exact TemplateRow.kept_passages ⟨_, hslot, rfl, rfl⟩ p hp

end Grammar.ReqsML

end PlainSpec
