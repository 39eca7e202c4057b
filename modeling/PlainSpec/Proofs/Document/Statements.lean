import PlainSpec.Proofs.Source.Requirements

/-!
# The statements of a document and the lines of its source

A source that is accepted in the tabular dialect has a line for each of its statements and a
statement for each such line: a keyword with a text behind it, or a bullet, outside of text blocks.
A bullet is of the kind of the nearest keyword above it.

## Main definitions

* `Line.isStatement`, `Line.statementText`, `nearestKind`: the lines of statements, and what they
  say.

## Main results

* `announce_passages`: what passages announce is found on the lines themselves.
* `Document.written_of_parse`: the statements of a document are those of the lines of its source.
-/

namespace PlainSpec

open PlainSpec.Parser Grammar Grammar.ReqsML

/-! ## Lines of statements -/

namespace Line

/-- The kind of a keyword line. -/
def keywordKind? (l : Line) : Option StatementKind := l.keyword?.map Prod.fst

/-- Whether the line is that of a statement: a keyword with a text behind it, or a bullet. -/
def isStatement (l : Line) : Bool :=
  match l.keyword? with
  | some (_, text) => !text.isEmpty
  | none => l.bullet?.isSome

/-- What stands behind the keyword or the mark of a bullet. -/
def statementText (l : Line) : Text :=
  match l.keyword? with
  | some (_, text) => text
  | none => l.bullet?.getD []

end Line

/-- The kind of the nearest keyword line above a line. -/
def nearestKind (ls : List Line) (number : Nat) : Option StatementKind :=
  ((ls.filter (·.number < number)).filterMap Line.keywordKind?).getLast?

/-- The kind of a statement on a line: that of its keyword or, for a bullet, that of the nearest
keyword line above. -/
def Line.statementKind? (ls : List Line) (l : Line) : Option StatementKind :=
  l.keywordKind?.or (nearestKind ls l.number)

/-! ## What lines announce -/

/-- The statements that lines announce, one line after the other. -/
def announceLines (above : Option StatementKind) : List Line → List Announcement
  | [] => []
  | l :: rest =>
    match l.keyword?, l.bullet? with
    | some (kind, text), _ =>
      (if text.isEmpty then [] else [⟨some kind, text, l.number⟩]) ++ announceLines (some kind) rest
    | none, some text => ⟨above, text, l.number⟩ :: announceLines above rest
    | none, none => announceLines above rest

variable {l : Line} {rest : List Line}

theorem announceLines_silent (above : Option StatementKind) (hkeyword : l.keyword? = none)
    (hbullet : l.bullet? = none) : announceLines above (l :: rest) = announceLines above rest := by
  simp [announceLines, hkeyword, hbullet]

/-- A line that is not that of a keyword or a bullet says nothing about statements. -/
theorem Spot.isSilent_content (spot : Spot) (hkeyword : l.keyword? = none)
    (hbullet : l.bullet? = none) :
    (spot.content l).isSilent = true := by
  unfold content
  rw [hkeyword, hbullet]
  grind [Content.isSilent]

theorem announceLines_inRun (above : Option StatementKind) (h : l.inRun = true) :
    announceLines above (outsideText (l :: rest)) = announceLines above (outsideText rest) := by
  obtain ⟨hkeyword, hbullet, hdelimiter⟩ := Line.silent_of_inRun h
  rw [outsideText_line (by simp [hdelimiter]), announceLines_silent above hkeyword hbullet]

/-- A run of rows says nothing about statements. -/
theorem announceLines_run (above : Option StatementKind) (ls : List Line) :
    announceLines above (outsideText (ls.dropWhile Line.inRun)) =
      announceLines above (outsideText ls) := by
  induction ls with
  | nil => rfl
  | cons l rest ih =>
    by_cases hrun : l.inRun = true
    · rw [List.dropWhile_cons_of_pos hrun, ih, announceLines_inRun above hrun]
    · rw [List.dropWhile_cons_of_neg hrun]

/-- **What passages announce is found on the lines themselves.** -/
theorem announce_passages (spot : Spot) (above : Option StatementKind) (ls : List Line) :
    announce above (passages spot ls) = announceLines above (outsideText ls) := by
  -- along the passages: a blank line, a text block, a run of rows, or a line of its own
  fun_induction passages spot ls generalizing above with
  | case1 spot => simp [announce, outsideText, announceLines]
  | case2 spot l rest hblank ih =>
    rw [ih, announceLines_inRun above (by simp [Line.inRun, hblank])]
  | case3 spot l rest hblank body after hfound ih =>
    split at hfound
    · rename_i hdelimiter
      rw [outsideText_text hdelimiter hfound, ← ih]
      rfl
    · cases hfound
  | case4 spot l rest hblank hnone row hrow ih =>
    have hrun : l.inRun = true := by
      unfold Spot.runRow? at hrow
      split at hrow
      · cases hrow
      · simp [Line.inRun, hrow]
    rw [announceLines_inRun above hrun, ← announceLines_run, ← ih]
    rfl
  | case5 spot l rest hblank hnone hrow ih =>
    rw [outsideText_line hnone]
    cases hkeyword : l.keyword? with
    | some found =>
      obtain ⟨kind, text⟩ := found
      rw [Spot.content_keyword spot hkeyword] at ih ⊢
      simp [announce, announceLines, Spot.passage, hkeyword, ih]
    | none =>
      cases hbullet : l.bullet? with
      | some text =>
        rw [Spot.content_bullet spot hbullet] at ih ⊢
        simp [announce, announceLines, Spot.passage, hkeyword, hbullet, ih]
      | none =>
        rw [announceLines_silent above hkeyword hbullet, ← ih, ← List.singleton_append,
          announce_append]
        have hsilent : ∀ p ∈ [spot.passage (spot.content l)], p.content.isSilent = true := by
          intro p hp
          rw [List.mem_singleton.1 hp]
          exact spot.isSilent_content hkeyword hbullet
        rw [(announce_of_silent hsilent above).1, (announce_of_silent hsilent above).2]
        rfl

/-! ## Lines in their order -/

theorem keywordKind?_concat (front : List Line) (l : Line) :
    ((front ++ [l]).filterMap Line.keywordKind?).getLast? =
      l.keywordKind?.or (front.filterMap Line.keywordKind?).getLast? := by
  rw [List.filterMap_append]
  cases h : l.keywordKind? with
  | none => simp [h]
  | some kind => simp [h]

/-- The nearest keyword above a line is the last one of the lines in front of it. -/
theorem nearestKind_eq {front : List Line}
    (h : ((front ++ l :: rest).map Line.number).Pairwise (· < ·)) :
    nearestKind (front ++ l :: rest) l.number = (front.filterMap Line.keywordKind?).getLast? := by
  rw [List.map_append, List.map_cons, List.pairwise_append, List.pairwise_cons] at h
  obtain ⟨-, ⟨hbehind, -⟩, hfront⟩ := h
  have hfilter : (front ++ l :: rest).filter (·.number < l.number) = front := by
    rw [List.filter_append, List.filter_cons_of_neg (by simp)]
    have hbefore : front.filter (·.number < l.number) = front := by
      refine List.filter_eq_self.2 fun x hx => ?_
      exact decide_eq_true (hfront _ (List.mem_map_of_mem hx) _ List.mem_cons_self)
    have hafter : rest.filter (·.number < l.number) = [] := by
      refine List.filter_eq_nil_iff.2 fun x hx => ?_
      have := hbehind _ (List.mem_map_of_mem hx)
      simp only [decide_eq_true_eq]
      omega
    rw [hbefore, hafter, List.append_nil]
  rw [nearestKind, hfilter]

/-- **What lines announce** are their statements, each of the kind of the nearest keyword. -/
theorem announceLines_eq {front back : List Line}
    (h : ((front ++ back).map Line.number).Pairwise (· < ·)) :
    announceLines (front.filterMap Line.keywordKind?).getLast? back =
      (back.filter Line.isStatement).map fun l =>
        ⟨l.statementKind? (front ++ back), l.statementText, l.number⟩ := by
  induction back generalizing front with
  | nil => rfl
  | cons l rest ih =>
    have hnearest := nearestKind_eq h
    have hrest := @ih (front ++ [l]) (by simpa using h)
    rw [keywordKind?_concat, List.append_assoc, List.singleton_append] at hrest
    cases hkeyword : l.keyword? with
    | some found =>
      obtain ⟨kind, text⟩ := found
      have hkind : l.keywordKind? = some kind := by simp [Line.keywordKind?, hkeyword]
      rw [hkind, Option.some_or] at hrest
      by_cases hempty : text.isEmpty = true
      · have hnot : ¬ l.isStatement = true := by simp [Line.isStatement, hkeyword, hempty]
        rw [List.filter_cons_of_neg hnot, ← hrest]
        simp [announceLines, hkeyword, hempty]
      · have hyes : l.isStatement = true := by simp [Line.isStatement, hkeyword, hempty]
        rw [List.filter_cons_of_pos hyes, List.map_cons, ← hrest]
        simp [announceLines, hkeyword, hempty, Line.statementKind?, hkind, Line.statementText]
    | none =>
      have hkind : l.keywordKind? = none := by simp [Line.keywordKind?, hkeyword]
      rw [hkind, Option.none_or] at hrest
      cases hbullet : l.bullet? with
      | some text =>
        have hyes : l.isStatement = true := by simp [Line.isStatement, hkeyword, hbullet]
        rw [List.filter_cons_of_pos hyes, List.map_cons, ← hrest]
        simp [announceLines, hkeyword, hbullet, Line.statementKind?, hkind,
          Line.statementText, hnearest]
      | none =>
        have hnot : ¬ l.isStatement = true := by simp [Line.isStatement, hkeyword, hbullet]
        rw [List.filter_cons_of_neg hnot, ← hrest]
        exact announceLines_silent _ hkeyword hbullet

/-! ## Statements of examples from a table -/

/-- Replacing tokens changes neither the line nor the kind of a statement. -/
theorem Template.statements_expandRow (set : ExampleSet) (header row : TemplateRow) :
    (expandRow set header row).statements.map (fun s => (s.line, s.kind)) =
      set.statements.map fun s => (s.line, s.kind) := by
  have hfold (entries : List (Text × Text)) (ss : List Statement) :
      (entries.foldl (fun ss entry => ss.map (replaceInStatement entry.1 entry.2)) ss).map
          (fun s => (s.line, s.kind)) =
        ss.map fun s => (s.line, s.kind) := by
    induction entries generalizing ss with
    | nil => rfl
    | cons entry entries ih =>
      rw [List.foldl_cons, ih, List.map_map]
      rfl
  exact hfold _ _

/-- An example has no template, or it was made from one and a row. -/
theorem Body.expanded {blocks : List (List Example)} (h : Body blocks) {e : Example}
    (he : e ∈ blocks.flatten) {set : ExampleSet} (hset : e.exampleSet = some set) :
    ∃ header row, e = Template.expandRow set header row := by
  have htable {set' : ExampleSet} {es : List Example} (h : FromTable set' es) (he : e ∈ es) :
      ∃ header row, e = Template.expandRow set header row := by
    obtain ⟨header, rows, -, -, -, -, rfl⟩ := h
    obtain ⟨row, -, rfl⟩ := List.mem_map.1 he
    cases hset
    exact ⟨header, row, rfl⟩
  obtain ⟨b, hb, hmem⟩ := List.mem_flatten.1 he
  cases h with
  | inline h =>
    rw [List.mem_singleton.1 hb] at hmem
    rw [List.mem_singleton.1 hmem, h.noSet] at hset
    cases hset
  | template h hbare hfrom =>
    rw [List.mem_singleton.1 hb] at hmem
    exact htable hfrom hmem
  | titled h =>
    cases h.block b hb with
    | single h =>
      rw [List.mem_singleton.1 hmem, h.noSet] at hset
      cases hset
    | set h hfrom => exact htable hfrom hmem

/-! ## Documents -/

/-- Statements that are announced stand on lines, and say what the lines say. -/
theorem eq_of_announced {ss : List Statement} {announced : List Announcement}
    (h : announced.map some = ss.map Statement.announcement?) :
    ss.map (fun s => (s.line, some s.kind, s.description)) =
      announced.map fun a => (some a.number, a.kind, a.text) := by
  induction ss generalizing announced with
  | nil =>
    rw [List.map_nil, List.map_eq_nil_iff] at h
    rw [h]
    rfl
  | cons s ss ih =>
    obtain ⟨a, rest, rfl, hs, hss⟩ := List.map_eq_cons_iff.1 h
    obtain ⟨number, hnumber, rfl⟩ := Option.map_eq_some_iff.1 hs.symm
    rw [List.map_cons, List.map_cons, ih hss, hnumber]

/-- The lines of statements of a source. -/
def statementLines (text : Text) : List Line :=
  (outsideText (Line.split text)).filter Line.isStatement

/-- **No statement is lost, invented, moved or mislabelled.**  The statements of a document that is
read in the tabular dialect, those of a template taken once, are the lines of statements of its
source in their order, with the text of the line, and of the kind of the keyword on the line or, for
a bullet, of the nearest keyword above it.  An expanded statement has the line and the kind of the
one in the template. -/
theorem Document.written_of_parse {source : Path} {text : Text} {d : Document}
    (h : Document.parse source .reqsml text = .ok d) :
    d.written.map (fun s => (s.line, some s.kind, s.description)) =
        (statementLines text).map (fun l =>
          (some l.number, l.statementKind? (outsideText (Line.split text)), l.statementText)) ∧
      ((statementLines text).map Line.number).Pairwise (· < ·) ∧
      ∀ r ∈ d.requirements, ∀ e ∈ r.examples, ∀ set, e.exampleSet = some set →
        e.statements.map (fun s => (s.line, s.kind)) =
          set.statements.map fun s => (s.line, s.kind) := by
  have hordered : ((outsideText (Line.split text)).map Line.number).Pairwise (· < ·) :=
    (Cursor.sound_ofText text).ordered.sublist ((outsideText_sublist _).map _)
  refine ⟨?_, hordered.sublist ((List.filter_sublist).map _), ?_⟩
  · have hannounced := (Document.accounts_of_parse h).announced none
    have hlines := @announceLines_eq [] _ hordered
    rw [List.filterMap_nil, List.getLast?_nil, List.nil_append] at hlines
    rw [announce_passages, hlines] at hannounced
    rw [eq_of_announced hannounced, List.map_map]
    rfl
  · intro r hr e he set hset
    obtain ⟨rs, n, hrs, rfl⟩ := Document.parse_reqsml_eq_ok.1 h
    obtain ⟨blocks, hbody, heq⟩ :=
      ((legible_requirements (Cursor.sound_ofText text) hrs).legible r hr).body
    rw [heq] at he
    obtain ⟨x, hx, rfl⟩ := List.mem_map.1 he
    obtain ⟨header, row, rfl⟩ := hbody.expanded hx hset
    exact Template.statements_expandRow set header row

/-- A bullet below a keyword, and a keyword with a text block that holds no bullet: the statements
of a template with two rows are written once. -/
theorem Document.written_of_parse_template :
    ∃ d, Document.parse ⟨"a".toList⟩ .reqsml
        "Requirement: a\nIf:\n- <x>\nExpect: b\n```\n- c\n```\nExamples:\n|x|\n|---|\n|y|\n|z|".toList =
          .ok d ∧
      d.written.map (fun s => (s.line, some s.kind, s.description)) =
        (statementLines
          "Requirement: a\nIf:\n- <x>\nExpect: b\n```\n- c\n```\nExamples:\n|x|\n|---|\n|y|\n|z|".toList).map
          (fun l => (some l.number, l.statementKind? (outsideText (Line.split
            "Requirement: a\nIf:\n- <x>\nExpect: b\n```\n- c\n```\nExamples:\n|x|\n|---|\n|y|\n|z|".toList)),
            l.statementText)) ∧
      d.written.map (fun s => (s.line, some s.kind, s.description)) =
        [(some 3, some .condition, "<x>".toList), (some 4, some .outcome, "b".toList)] := by
  let statements (t : Text) : List Statement :=
    [⟨none, .condition, t, none, some 3⟩,
      ⟨none, .outcome, "b".toList, some (.text "- c".toList), some 4⟩]
  let set : ExampleSet :=
    { comments := none
      identifier := none
      labels := none
      description := none
      statements := statements "<x>".toList
      line := some 2 }
  let e (t : Text) : Example :=
    { comments := none
      identifier := none
      labels := none
      explicitLabels := none
      description := none
      statements := statements t
      exampleSet := some set
      specification := some ⟨none, none, none, none, .ofList [("x".toList, t)]⟩ }
  have hparse : Document.parse ⟨"a".toList⟩ .reqsml
      "Requirement: a\nIf:\n- <x>\nExpect: b\n```\n- c\n```\nExamples:\n|x|\n|---|\n|y|\n|z|".toList =
        .ok
          { source := ⟨"a".toList⟩
            comments := none
            labels := none
            description := none
            dialect := .reqsml
            requirements :=
              [⟨none, none, none, none, "a".toList, [e "y".toList, e "z".toList]⟩] } := by
    with_unfolding_all rfl
  exact ⟨_, hparse, (Document.written_of_parse hparse).1, rfl⟩

end PlainSpec
