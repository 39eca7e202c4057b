import PlainSpec.Proofs.Grammar.Blocks

/-!
# The passages of a source

A source of the tabular dialect is cut into passages by one look at its lines from the first to the
last: a comment, a keyword, a text block, a run of rows.  The grammar plays no part in this, so what
the grammar makes of a source can be compared with what is written there.

How a line is taken depends on what stands above it in two ways.  Below `Examples:` rows are single
passages and may have metadata in front; elsewhere they are taken in runs.  And there are two spots
where the grammar reads something that it keeps nowhere: a block of data right below a keyword
without text, and what is written on the row of hyphens of a table of examples.  Passages at these
spots are marked.

## Main definitions

* `Content`, `Passage`: what is written, and whether it stands at one of the two spots.
* `Spot`: what stands above a line, as far as it matters.
* `passages`: the passages of a list of lines.
* `outsideText`: the lines outside of text blocks.

## Main results

* `passages_text`, `passages_rows`, `passages_line`: a passage in front of the other ones.
* `passages_values`: behind the last row of a table, lines are taken as they are elsewhere.
* `exists_passage`: every line outside of text blocks is in a passage.
-/

namespace PlainSpec

open Grammar Grammar.ReqsML

/-! ## Kinds of lines -/

namespace Line

/-- The content of a comment line. -/
def comment? (l : Line) : Option Text := (readComment commentMark l.trimmed).toOption

/-- The kind and the text of a line `If: text`, `When: text` or `Expect: text`, whose text may be
empty. -/
def keyword? (l : Line) : Option (StatementKind × Text) :=
  StatementKind.all.findSome? fun kind =>
    (Text.after? (kind.keyword ++ [':']) l.trimmed).map fun rest => (kind, Text.trim rest)

/-- What stands behind the mark of a bullet. -/
def bullet? (l : Line) : Option Text :=
  match l.trimmed with
  | [] => none
  | c :: rest => if c ∈ bulletMarks then some (Text.trim rest) else none

/-- The row of a line between two pipes. -/
def row? (l : Line) : Option TableRow :=
  (splitCells l.trimmed).toOption.map fun cells => ⟨l.number, cells⟩

/-- The metadata and the cells of a row of examples. -/
def exampleRow? (l : Line) : Option (Metadata × List Text) := (readExampleRow l.trimmed).toOption

/-- Whether the line opens or closes a text block. -/
def isDelimiter (l : Line) : Bool := l.trimmed = Dialect.reqsml.textDelimiter

/-- Whether the line goes on with a run of rows. -/
def inRun (l : Line) : Bool := l.isBlank || l.row?.isSome

end Line

/-- The lines of a text block whose opening line is passed, and the lines behind its closing line,
if it has one. -/
def closing? (ls : List Line) : Option (List Line × List Line) :=
  match ls.dropWhile (!·.isDelimiter) with
  | [] => none
  | _ :: after => some (ls.takeWhile (!·.isDelimiter), after)

theorem closing?_delimiter {l : Line} {rest : List Line} (h : l.isDelimiter = true) :
    closing? (l :: rest) = some ([], rest) := by
  simp [closing?, h]

theorem closing?_inside {l : Line} {rest : List Line} (h : l.isDelimiter = false) :
    closing? (l :: rest) = (closing? rest).map fun (body, after) => (l :: body, after) := by
  simp only [closing?, h, Bool.not_false, List.dropWhile_cons_of_pos, List.takeWhile_cons_of_pos]
  split <;> rfl

/-- A text block is its lines and its closing line, in front of what follows. -/
theorem eq_of_closing? {ls body after : List Line} (h : closing? ls = some (body, after)) :
    ∃ l, ls = body ++ l :: after := by
  unfold closing? at h
  split at h
  · cases h
  · rename_i l rest hdrop
    cases h
    exact ⟨l, by rw [← hdrop, List.takeWhile_append_dropWhile]⟩

theorem length_of_closing? {ls body after : List Line} (h : closing? ls = some (body, after)) :
    after.length < ls.length := by
  obtain ⟨l, rfl⟩ := eq_of_closing? h
  simp only [List.length_append, List.length_cons]
  omega

/-- The lines outside of text blocks.  A delimiter that is never closed opens no block. -/
def outsideText : List Line → List Line
  | [] => []
  | l :: rest =>
    match _found : if l.isDelimiter then closing? rest else none with
    | some (_, after) => outsideText after
    | none => l :: outsideText rest
termination_by ls => ls.length
decreasing_by
  · split at _found
    · have := length_of_closing? _found
      simp only [List.length_cons]
      omega
    · cases _found
  · simp

/-! ## Passages -/

/-- What a passage says. -/
inductive Content where
  /-- A comment. -/
  | comment (text : Text)
  /-- An identifier and labels on a line of their own, as they are written. -/
  | metadata (text : Text)
  /-- A keyword and the text behind it, with the number of the line. -/
  | keyword (kind : StatementKind) (text : Text) (number : Nat)
  /-- A bullet, with the number of the line. -/
  | bullet (text : Text) (number : Nat)
  /-- The lines of a text block, without the blanks around them. -/
  | text (body : List Text)
  /-- A run of rows. -/
  | rows (rows : Several TableRow)
  /-- The keyword above a table of examples. -/
  | examples
  /-- A row of a table of examples. -/
  | exampleRow (metadata : Metadata) (cells : List Text)
  /-- Any other line. -/
  | other
deriving DecidableEq

/-- A passage of a source. -/
structure Passage where
  /-- What it says. -/
  content : Content
  /-- Whether it stands at one of the two spots. -/
  aside : Bool
deriving DecidableEq

/-- What stands above a line, as far as it matters. -/
inductive Spot where
  /-- Nothing of interest. -/
  | plain
  /-- A keyword without text, right above. -/
  | bareKeyword
  /-- `Examples:`, and no row yet. -/
  | header
  /-- The first row of a table of examples. -/
  | separator
  /-- Further rows of a table of examples. -/
  | values
deriving DecidableEq

namespace Spot

/-- Whether a row is a row of examples. -/
def inTable : Spot → Bool
  | header | separator | values => true
  | plain | bareKeyword => false

/-- Whether a passage stands where the grammar keeps nothing of it: data right below a keyword
without text, and whatever belongs to the row of hyphens of a table of examples. -/
def setsAside : Spot → Content → Bool
  | bareKeyword, .text _ | bareKeyword, .rows _ => true
  | separator, .comment _ | separator, .exampleRow .. => true
  | _, _ => false

/-- The passage with a content at a spot. -/
def passage (spot : Spot) (content : Content) : Passage := ⟨content, spot.setsAside content⟩

/-- What a line says that is no part of a text block or of a run of rows. -/
def content (spot : Spot) (l : Line) : Content :=
  match l.comment?, (if spot.inTable then l.exampleRow? else none) with
  | some text, _ => .comment text
  | none, some (metadata, cells) => .exampleRow metadata cells
  | none, none =>
    if isMetadata l then .metadata l.trimmed
    else
      match l.keyword?, l.bullet? with
      | some (kind, text), _ => .keyword kind text l.number
      | none, some text => .bullet text l.number
      | none, none => if l.trimmed ∈ examplesKeyword then .examples else .other

/-- The spot behind a line.  Comments may stand between the rows of a table of examples. -/
def next : Spot → Content → Spot
  | spot, .comment _ => if spot.inTable then spot else plain
  | header, .exampleRow .. => separator
  | _, .exampleRow .. => values
  | _, .keyword _ text _ => if text.isEmpty then bareKeyword else plain
  | _, .examples => header
  | _, _ => plain

/-- The row of a run that starts with the line. -/
def runRow? (spot : Spot) (l : Line) : Option TableRow := if spot.inTable then none else l.row?

end Spot

/-- The passages of a list of lines. -/
def passages (spot : Spot) : List Line → List Passage
  | [] => []
  | l :: rest =>
    if l.isBlank then passages spot rest
    else
      match _found : if l.isDelimiter then closing? rest else none with
      | some (body, after) => spot.passage (.text (body.map Line.trimmed)) :: passages .plain after
      | none =>
        match spot.runRow? l with
        | some row =>
          spot.passage (.rows ⟨row, (rest.takeWhile Line.inRun).filterMap Line.row?⟩) ::
            passages .plain (rest.dropWhile Line.inRun)
        | none => spot.passage (spot.content l) :: passages (spot.next (spot.content l)) rest
termination_by ls => ls.length
decreasing_by
  · simp
  · split at _found
    · have := length_of_closing? _found
      simp only [List.length_cons]
      omega
    · cases _found
  · have := (List.dropWhile_suffix Line.inRun (l := rest)).length_le
    simp only [List.length_cons]
    omega
  · simp

/-! ## What a line opens with

No line is of two kinds, since each kind has first characters of its own. -/

variable {spot : Spot} {l : Line} {rest : List Line}

theorem Except.toOption_eq_some {ε α : Type} {r : Except ε α} {a : α} :
    r.toOption = some a ↔ r = .ok a := by
  cases r <;> simp [Except.toOption]

theorem Text.head?_of_startsWith {text lead : Text} {c : Char}
    (h : text.startsWith (c :: lead) = true) : text.head? = some c := by
  obtain ⟨rest, hrest⟩ := Option.isSome_iff_exists.1 h
  rw [Text.after?_eq_some_iff.1 hrest]
  rfl

namespace Line

/-- The line starts with one of the characters. -/
def Opens (l : Line) (marks : List Char) : Prop := ∃ c ∈ marks, l.trimmed.head? = some c

namespace Opens

variable {marks others : List Char}

theorem isBlank (h : l.Opens marks) : l.isBlank = false := by
  obtain ⟨c, -, hc⟩ := h
  unfold Line.isBlank
  cases ht : l.trimmed with
  | nil => rw [ht] at hc; cases hc
  | cons => rfl

theorem disjoint (h : l.Opens marks) (hdisjoint : ∀ c ∈ marks, c ∉ others) : ¬ l.Opens others := by
  rintro ⟨d, hd, hhead⟩
  obtain ⟨c, hc, hhead'⟩ := h
  rw [hhead] at hhead'
  cases hhead'
  exact hdisjoint d hc hd

/-- A line that opens in another way is not of a kind. -/
theorem eq_none {α : Type} {found : Option α} (h : l.Opens marks)
    (hfound : ∀ a, found = some a → l.Opens others) (hdisjoint : ∀ c ∈ marks, c ∉ others) :
    found = none := by
  cases hsome : found with
  | none => rfl
  | some a => exact absurd (hfound a hsome) (h.disjoint hdisjoint)

theorem eq_false {found : Bool} (h : l.Opens marks) (hfound : found = true → l.Opens others)
    (hdisjoint : ∀ c ∈ marks, c ∉ others) : found = false := by
  cases hsome : found with
  | false => rfl
  | true => exact absurd (hfound hsome) (h.disjoint hdisjoint)

end Opens

theorem opens_of_head? {c : Char} (h : l.trimmed.head? = some c) : l.Opens [c] :=
  ⟨c, List.mem_singleton_self c, h⟩

theorem opens_of_comment? {t : Text} (h : l.comment? = some t) : l.Opens ['/'] := by
  have hread := Except.toOption_eq_some.1 h
  unfold readComment at hread
  split at hread
  · rename_i hstarts
    exact opens_of_head? (Text.head?_of_startsWith hstarts)
  · cases hread

theorem opens_of_row? {row : TableRow} (h : l.row? = some row) : l.Opens ['|'] := by
  obtain ⟨cells, hcells, -⟩ := Option.map_eq_some_iff.1 h
  obtain ⟨inner, htext, -⟩ := splitCells_eq_ok.1 (Except.toOption_eq_some.1 hcells)
  exact opens_of_head? (by rw [htext]; rfl)

theorem opens_of_isMetadata (h : isMetadata l = true) : l.Opens ['#'] :=
  opens_of_head? (Text.head?_of_startsWith h)

theorem opens_of_isDelimiter (h : l.isDelimiter = true) : l.Opens ['`'] :=
  opens_of_head? (by rw [of_decide_eq_true h]; rfl)

/-- A row of examples opens with the mark of its metadata or with a pipe. -/
theorem opens_of_exampleRow? {v : Metadata × List Text} (h : l.exampleRow? = some v) :
    l.Opens ['#', '|'] := by
  obtain ⟨hcells, hfront⟩ := readExampleRow_eq_ok.1 (Except.toOption_eq_some.1 h)
  have hcut := Text.cutAt_append (· == '|') l.trimmed
  obtain ⟨inner, hrow, -⟩ := splitCells_eq_ok.1 hcells
  cases hf : (Text.cutAt (· == '|') l.trimmed).1 with
  | nil =>
    refine ⟨'|', by simp, ?_⟩
    rw [← hcut, hf, hrow]
    rfl
  | cons c front =>
    have hhead : l.trimmed.head? = some c := by
      rw [← hcut, hf]
      rfl
    have hc : PlainSpec.isBlank c = false :=
      (Text.trim_eq_self_iff.1 (Text.trim_trim l.text)).1 c hhead
    rw [hf, Text.trim_cons hc] at hfront
    refine ⟨'#', by simp, ?_⟩
    rcases hfront with ⟨hnil, -⟩ | ⟨hmark, -⟩
    · cases hnil
    · rw [hhead, ← Text.head?_of_startsWith hmark]
      rfl

theorem keyword?_eq_some {kind : StatementKind} {t : Text} :
    l.keyword? = some (kind, t) ↔ ∃ rest, l.trimmed = kind.keyword ++ ':' :: rest ∧
      t = Text.trim rest := by
  constructor
  · intro h
    obtain ⟨kind', -, hfound⟩ := List.exists_of_findSome?_eq_some h
    obtain ⟨rest, hrest, heq⟩ := Option.map_eq_some_iff.1 hfound
    cases heq
    exact ⟨rest, by simpa using Text.after?_eq_some_iff.1 hrest, rfl⟩
  · rintro ⟨rest, htext, rfl⟩
    unfold keyword?
    rw [htext]
    cases kind <;> rfl

theorem opens_of_keyword? {v : StatementKind × Text} (h : l.keyword? = some v) :
    l.Opens ['I', 'W', 'E'] := by
  obtain ⟨kind, text⟩ := v
  obtain ⟨rest, htext, -⟩ := keyword?_eq_some.1 h
  unfold Opens
  rw [htext]
  cases kind with
  | condition => exact ⟨'I', by simp, rfl⟩
  | action => exact ⟨'W', by simp, rfl⟩
  | outcome => exact ⟨'E', by simp, rfl⟩

theorem opens_of_bullet? {t : Text} (h : l.bullet? = some t) : l.Opens ['-', '*', '•'] := by
  unfold bullet? at h
  split at h
  · cases h
  · rename_i c rest htext
    split at h
    · rename_i hmem
      exact ⟨c, hmem, by rw [htext]; rfl⟩
    · cases h

end Line

/-- A line that opens with none of these marks is no comment, no row of examples and no metadata. -/
theorem Line.Opens.unmarked {marks : List Char} (h : l.Opens marks)
    (hmarks : ∀ c ∈ marks, c ∉ ['/', '#', '|']) :
    l.comment? = none ∧ l.exampleRow? = none ∧ isMetadata l = false := by
  refine ⟨?_, ?_, ?_⟩
  · refine h.eq_none (fun _ => opens_of_comment?) fun c hc hmem => hmarks c hc ?_
    rw [List.mem_singleton.1 hmem]
    exact List.mem_cons_self
  · refine h.eq_none (fun _ => opens_of_exampleRow?) fun c hc hmem => hmarks c hc ?_
    exact List.mem_cons_of_mem _ hmem
  · refine h.eq_false opens_of_isMetadata fun c hc hmem => hmarks c hc ?_
    rw [List.mem_singleton.1 hmem]
    simp

/-- What follows the blank lines in front is not blank. -/
theorem Line.isBlank_of_dropWhile {ls : List Line} (h : ls.dropWhile Line.isBlank = l :: rest) :
    l.isBlank = false := by
  have hhead := List.head?_dropWhile_not Line.isBlank ls
  rw [h] at hhead
  simpa using hhead

/-! ## A passage in front of the other ones -/

@[simp] theorem passages_nil (spot : Spot) : passages spot [] = [] := by rw [passages]

theorem passages_blank (h : l.isBlank = true) : passages spot (l :: rest) = passages spot rest := by
  rw [passages, if_pos h]

/-- Blank lines in front mean nothing. -/
@[simp] theorem passages_dropWhile (spot : Spot) (ls : List Line) :
    passages spot (ls.dropWhile Line.isBlank) = passages spot ls := by
  induction ls with
  | nil => rfl
  | cons l rest ih =>
    by_cases h : l.isBlank = true
    · rw [List.dropWhile_cons_of_pos h, ih, passages_blank h]
    · rw [List.dropWhile_cons_of_neg h]

/-- **A text block** is one passage. -/
theorem passages_text {body after : List Line} (hl : l.isDelimiter = true)
    (h : closing? rest = some (body, after)) :
    passages spot (l :: rest) =
      spot.passage (.text (body.map Line.trimmed)) :: passages .plain after := by
  rw [passages, if_neg (by simp [(Line.opens_of_isDelimiter hl).isBlank])]
  split
  · rename_i body' after' hfound
    rw [if_pos hl, h] at hfound
    cases hfound
    rfl
  · rename_i hfound
    rw [if_pos hl, h] at hfound
    cases hfound

theorem passages_of_no_text (hblank : l.isBlank = false)
    (hl : (if l.isDelimiter then closing? rest else none) = none) :
    passages spot (l :: rest) =
      match spot.runRow? l with
      | some row =>
        spot.passage (.rows ⟨row, (rest.takeWhile Line.inRun).filterMap Line.row?⟩) ::
          passages .plain (rest.dropWhile Line.inRun)
      | none => spot.passage (spot.content l) :: passages (spot.next (spot.content l)) rest := by
  rw [passages, if_neg (by simp [hblank])]
  split
  · rename_i hfound
    rw [hl] at hfound
    cases hfound
  · rfl

/-- **A line that is no delimiter and no row of a run** is one passage. -/
theorem passages_line (hblank : l.isBlank = false)
    (hl : (if l.isDelimiter then closing? rest else none) = none) (hrow : spot.runRow? l = none) :
    passages spot (l :: rest) =
      spot.passage (spot.content l) :: passages (spot.next (spot.content l)) rest := by
  rw [passages_of_no_text hblank hl, hrow]

theorem passages_of_opens {marks : List Char} (h : l.Opens marks)
    (hmarks : ∀ c ∈ marks, c ∉ ['`', '|']) :
    passages spot (l :: rest) =
      spot.passage (spot.content l) :: passages (spot.next (spot.content l)) rest := by
  have hrow : l.row? = none := by
    refine h.eq_none (fun _ => Line.opens_of_row?) fun c hc hmem => hmarks c hc ?_
    exact List.mem_cons_of_mem _ hmem
  have hdelimiter : l.isDelimiter = false := by
    refine h.eq_false Line.opens_of_isDelimiter fun c hc hmem => hmarks c hc ?_
    rw [List.mem_singleton.1 hmem]
    exact List.mem_cons_self
  refine passages_line h.isBlank (by simp [hdelimiter]) ?_
  rw [Spot.runRow?, hrow, ite_self]

theorem passages_comment {t : Text} (h : l.comment? = some t) :
    passages spot (l :: rest) =
      spot.passage (.comment t) :: passages (if spot.inTable then spot else .plain) rest := by
  have hcontent : spot.content l = .comment t := by simp [Spot.content, h]
  rw [passages_of_opens (Line.opens_of_comment? h) (by simp), hcontent]
  cases spot <;> rfl

theorem passages_metadata (h : isMetadata l = true) :
    passages .plain (l :: rest) = ⟨.metadata l.trimmed, false⟩ :: passages .plain rest := by
  have hopens := Line.opens_of_isMetadata h
  have hcomment : l.comment? = none := hopens.eq_none (fun _ => Line.opens_of_comment?) (by simp)
  have hcontent : Spot.plain.content l = .metadata l.trimmed := by
    simp [Spot.content, Spot.inTable, hcomment, h]
  rw [passages_of_opens hopens (by simp), hcontent]
  rfl

/-- A keyword line is one at every spot. -/
theorem Spot.content_keyword (spot : Spot) {kind : StatementKind} {t : Text}
    (h : l.keyword? = some (kind, t)) : spot.content l = .keyword kind t l.number := by
  have hopens := Line.opens_of_keyword? h
  obtain ⟨hcomment, hrow, hmetadata⟩ := hopens.unmarked (by simp)
  simp [content, hcomment, hrow, hmetadata, h]

/-- A bullet is one at every spot. -/
theorem Spot.content_bullet (spot : Spot) {t : Text} (h : l.bullet? = some t) :
    spot.content l = .bullet t l.number := by
  have hopens := Line.opens_of_bullet? h
  obtain ⟨hcomment, hrow, hmetadata⟩ := hopens.unmarked (by simp)
  have hkeyword : l.keyword? = none := hopens.eq_none (fun _ => Line.opens_of_keyword?) (by simp)
  simp [content, hcomment, hrow, hmetadata, hkeyword, h]

theorem passages_keyword {kind : StatementKind} {t : Text} (h : l.keyword? = some (kind, t)) :
    passages .plain (l :: rest) =
      ⟨.keyword kind t l.number, false⟩ ::
        passages (if t.isEmpty then .bareKeyword else .plain) rest := by
  rw [passages_of_opens (Line.opens_of_keyword? h) (by simp), Spot.content_keyword _ h]
  rfl

theorem passages_bullet {t : Text} (h : l.bullet? = some t) :
    passages .plain (l :: rest) = ⟨.bullet t l.number, false⟩ :: passages .plain rest := by
  rw [passages_of_opens (Line.opens_of_bullet? h) (by simp), Spot.content_bullet _ h]
  rfl

/-- A row of a table of examples is one passage. -/
theorem passages_exampleRow {metadata : Metadata} {cells : List Text} (hspot : spot.inTable = true)
    (h : l.exampleRow? = some (metadata, cells)) :
    passages spot (l :: rest) =
      spot.passage (.exampleRow metadata cells) ::
        passages (spot.next (.exampleRow metadata cells)) rest := by
  have hopens := Line.opens_of_exampleRow? h
  have hcomment : l.comment? = none := hopens.eq_none (fun _ => Line.opens_of_comment?) (by simp)
  have hdelimiter : l.isDelimiter = false := hopens.eq_false Line.opens_of_isDelimiter (by simp)
  have hcontent : spot.content l = .exampleRow metadata cells := by
    simp [Spot.content, hspot, hcomment, h]
  rw [passages_line hopens.isBlank (by simp [hdelimiter]) (by rw [Spot.runRow?, if_pos hspot]),
    hcontent]

/-- A run of rows is one passage. -/
theorem passages_rows {row : TableRow} (hspot : spot.inTable = false) (h : l.row? = some row) :
    passages spot (l :: rest) =
      spot.passage (.rows ⟨row, (rest.takeWhile Line.inRun).filterMap Line.row?⟩) ::
        passages .plain (rest.dropWhile Line.inRun) := by
  have hopens := Line.opens_of_row? h
  have hdelimiter : l.isDelimiter = false := hopens.eq_false Line.opens_of_isDelimiter (by simp)
  rw [passages_of_no_text hopens.isBlank (by simp [hdelimiter])]
  simp [Spot.runRow?, hspot, h]

/-- The keyword above a table of examples. -/
theorem passages_examples (h : l.trimmed ∈ examplesKeyword) :
    passages .plain (l :: rest) = ⟨.examples, false⟩ :: passages .header rest := by
  have htext : l.trimmed = "Examples:".toList := List.mem_singleton.1 h
  have hopens : l.Opens ['E'] := Line.opens_of_head? (by rw [htext]; rfl)
  obtain ⟨hcomment, -, hmetadata⟩ := hopens.unmarked (by simp)
  have hbullet : l.bullet? = none := hopens.eq_none (fun _ => Line.opens_of_bullet?) (by simp)
  have hkeyword : l.keyword? = none := by rw [Line.keyword?, htext]; rfl
  have hcontent : Spot.plain.content l = .examples := by
    simp [Spot.content, Spot.inTable, hcomment, hmetadata, hbullet, hkeyword, h]
  rw [passages_of_opens hopens (by simp), hcontent]
  rfl

/-- The line of a title, whatever its keyword is. -/
theorem passages_title {keyword title : Text} (h : l.trimmed = keyword ++ title)
    (hkeyword : keyword ∈ ["Requirement:".toList, "Example:".toList] ++ setKeywords) :
    passages .plain (l :: rest) = ⟨.other, false⟩ :: passages .plain rest := by
  have hopens : l.Opens ['R', 'E'] ∧ l.keyword? = none ∧ l.trimmed ∉ examplesKeyword := by
    simp only [List.cons_append, List.nil_append, setKeywords, List.mem_cons, List.not_mem_nil,
      or_false] at hkeyword
    unfold Line.Opens Line.keyword?
    rw [h]
    rcases hkeyword with rfl | rfl | rfl | rfl
    · exact ⟨⟨'R', by simp, rfl⟩, rfl, by simp [examplesKeyword]⟩
    all_goals exact ⟨⟨'E', by simp, rfl⟩, rfl, by simp [examplesKeyword]⟩
  obtain ⟨hopens, hkeyword, hexamples⟩ := hopens
  obtain ⟨hcomment, -, hmetadata⟩ := hopens.unmarked (by simp)
  have hbullet : l.bullet? = none := hopens.eq_none (fun _ => Line.opens_of_bullet?) (by simp)
  have hcontent : Spot.plain.content l = .other := by
    simp [Spot.content, Spot.inTable, hcomment, hmetadata, hbullet, hkeyword, hexamples]
  rw [passages_of_opens hopens (by simp), hcontent]
  rfl

/-! ## Spots that do not matter for what is ahead -/

theorem Spot.passage_values (content : Content) :
    values.passage content = plain.passage content := by
  cases content <;> rfl

/-- A line on its own is no block of data. -/
theorem Spot.passage_bareKeyword (l : Line) :
    bareKeyword.passage (plain.content l) = plain.passage (plain.content l) := by
  have hline : (∀ body, plain.content l ≠ .text body) ∧ ∀ rows, plain.content l ≠ .rows rows := by
    unfold content
    grind
  cases hcontent : plain.content l with
  | text body => exact absurd hcontent (hline.1 body)
  | rows rows => exact absurd hcontent (hline.2 rows)
  | _ => rfl

/-- Where no block of data is ahead, a keyword without text above makes no difference. -/
theorem passages_bareKeyword {ls : List Line}
    (h : ∀ l, (ls.dropWhile Line.isBlank).head? = some l → startsData .reqsml l = false) :
    passages .bareKeyword ls = passages .plain ls := by
  rw [← passages_dropWhile, ← passages_dropWhile .plain]
  cases hls : ls.dropWhile Line.isBlank with
  | nil => simp
  | cons l rest =>
    have hblank := Line.isBlank_of_dropWhile hls
    have hdata := h l (by rw [hls]; rfl)
    rw [startsData, Bool.or_eq_false_iff] at hdata
    have hdelimiter : l.isDelimiter = false := hdata.1
    have hrow : l.row? = none := by
      cases hcells : splitCells l.trimmed with
      | ok cells => simp [isRow, hcells] at hdata
      | error fault => simp [Line.row?, hcells, Except.toOption]
    rw [passages_line hblank (by simp [hdelimiter]) (by simp [Spot.runRow?, hrow]),
      passages_line hblank (by simp [hdelimiter]) (by simp [Spot.runRow?, hrow])]
    have hcontent : Spot.bareKeyword.content l = Spot.plain.content l := rfl
    rw [hcontent, Spot.passage_bareKeyword]
    cases Spot.plain.content l <;> rfl

/-- **Behind the last row of a table**, lines are taken as they are elsewhere. -/
theorem passages_values {ls : List Line}
    (h : ∀ l, (ls.dropWhile Line.isBlank).head? = some l → l.comment? = none ∧
      l.exampleRow? = none) :
    passages .values ls = passages .plain ls := by
  rw [← passages_dropWhile, ← passages_dropWhile .plain]
  cases hls : ls.dropWhile Line.isBlank with
  | nil => simp
  | cons l rest =>
    have hblank := Line.isBlank_of_dropWhile hls
    obtain ⟨hcomment, hrow⟩ := h l (by rw [hls]; rfl)
    have hnoRun : l.row? = none := by
      cases hcells : splitCells l.trimmed with
      | error fault => simp [Line.row?, hcells, Except.toOption]
      | ok cells =>
        obtain ⟨inner, htext, -⟩ := splitCells_eq_ok.1 hcells
        have hcut : Text.cutAt (· == '|') l.trimmed = ([], l.trimmed) := by
          rw [htext]
          rfl
        have hread : readExampleRow l.trimmed = .ok (noMetadata, cells) :=
          readExampleRow_eq_ok.2 ⟨by rw [hcut]; exact hcells, .inl ⟨by rw [hcut]; rfl, rfl⟩⟩
        simp [Line.exampleRow?, hread, Except.toOption] at hrow
    cases htext : if l.isDelimiter then closing? rest else none with
    | some found =>
      split at htext
      · rename_i hdelimiter
        rw [passages_text hdelimiter htext, passages_text hdelimiter htext]
        rfl
      · cases htext
    | none =>
      have hcontent : Spot.values.content l = Spot.plain.content l := by
        simp [Spot.content, Spot.inTable, hcomment, hrow]
      rw [passages_line hblank htext rfl,
        passages_line hblank htext (by simp [Spot.runRow?, hnoRun]), hcontent, Spot.passage_values]
      cases hkind : Spot.plain.content l with
      | comment text =>
        unfold Spot.content at hkind
        grind
      | _ => rfl

/-! ## Lines outside of text blocks -/

theorem Line.silent_of_inRun (h : l.inRun = true) :
    l.keyword? = none ∧ l.bullet? = none ∧ l.isDelimiter = false := by
  rcases Bool.or_eq_true _ _ ▸ h with hblank | hrow
  · have hnot {marks : List Char} : ¬ l.Opens marks :=
      fun hopens => by simp [hopens.isBlank] at hblank
    refine ⟨?_, ?_, ?_⟩
    · exact Option.eq_none_iff_forall_ne_some.2 fun _ hv => hnot (opens_of_keyword? hv)
    · exact Option.eq_none_iff_forall_ne_some.2 fun _ hv => hnot (opens_of_bullet? hv)
    · exact Bool.eq_false_iff.2 fun hl => hnot (opens_of_isDelimiter hl)
  · obtain ⟨row, hrow⟩ := Option.isSome_iff_exists.1 hrow
    have hopens := opens_of_row? hrow
    refine ⟨?_, ?_, ?_⟩
    · exact hopens.eq_none (fun _ => opens_of_keyword?) (by simp)
    · exact hopens.eq_none (fun _ => opens_of_bullet?) (by simp)
    · exact hopens.eq_false opens_of_isDelimiter (by simp)

theorem outsideText_text {body after : List Line} (hl : l.isDelimiter = true)
    (h : closing? rest = some (body, after)) : outsideText (l :: rest) = outsideText after := by
  rw [outsideText]
  split
  · rename_i hfound
    rw [if_pos hl, h] at hfound
    cases hfound
    rfl
  · rename_i hfound
    rw [if_pos hl, h] at hfound
    cases hfound

theorem outsideText_line (h : (if l.isDelimiter then closing? rest else none) = none) :
    outsideText (l :: rest) = l :: outsideText rest := by
  rw [outsideText]
  split
  · rename_i hfound
    rw [h] at hfound
    cases hfound
  · rfl

theorem outsideText_sublist (ls : List Line) : (outsideText ls).Sublist ls := by
  fun_induction outsideText ls with
  | case1 => exact .slnil
  | case2 l rest body after hfound ih =>
    split at hfound
    · obtain ⟨close, rfl⟩ := eq_of_closing? hfound
      exact (ih.trans ((List.sublist_cons_self _ _).trans (List.sublist_append_right _ _))).cons l
    · cases hfound
  | case3 l rest hnone ih => exact ih.cons_cons l

/-- The line is a passage on its own, or a row of a run. -/
def Line.InPassage (l : Line) (ps : List Passage) : Prop :=
  (∃ spot : Spot, spot.passage (spot.content l) ∈ ps) ∨
    ∃ row rows aside, l.row? = some row ∧ row ∈ Several.toList rows ∧ ⟨.rows rows, aside⟩ ∈ ps

theorem Line.InPassage.cons {ps : List Passage} (h : l.InPassage ps) (p : Passage) :
    l.InPassage (p :: ps) := by
  rcases h with ⟨spot, hmem⟩ | ⟨row, rows, aside, hrow, hin, hmem⟩
  · exact .inl ⟨spot, List.mem_cons_of_mem _ hmem⟩
  · exact .inr ⟨row, rows, aside, hrow, hin, List.mem_cons_of_mem _ hmem⟩

/-- A line is in a run of rows or behind it. -/
theorem mem_run_or_behind {ls : List Line} (hl : l ∈ outsideText ls) (hblank : l.isBlank = false) :
    (∃ row, l.row? = some row ∧ row ∈ (ls.takeWhile Line.inRun).filterMap Line.row?) ∨
      l ∈ outsideText (ls.dropWhile Line.inRun) := by
  induction ls with
  | nil => exact .inr hl
  | cons x rest ih =>
    by_cases hrun : x.inRun = true
    · have hdelimiter : x.isDelimiter = false := (Line.silent_of_inRun hrun).2.2
      rw [outsideText_line (by simp [hdelimiter])] at hl
      rw [List.takeWhile_cons_of_pos hrun, List.dropWhile_cons_of_pos hrun]
      rcases List.mem_cons.1 hl with rfl | hl
      · obtain ⟨row, hrow⟩ := Option.isSome_iff_exists.1 (by simpa [Line.inRun, hblank] using hrun)
        exact .inl ⟨row, hrow, List.mem_filterMap.2 ⟨l, List.mem_cons_self, hrow⟩⟩
      · rcases ih hl with ⟨row, hrow, hmem⟩ | hbehind
        · obtain ⟨y, hy, hyrow⟩ := List.mem_filterMap.1 hmem
          exact .inl ⟨row, hrow, List.mem_filterMap.2 ⟨y, List.mem_cons_of_mem _ hy, hyrow⟩⟩
        · exact .inr hbehind
    · rw [List.dropWhile_cons_of_neg hrun]
      exact .inr hl

/-- **Every line outside of text blocks is in a passage.** -/
theorem exists_passage {ls : List Line} (hl : l ∈ outsideText ls) (hblank : l.isBlank = false)
    (spot : Spot) : l.InPassage (passages spot ls) := by
  fun_induction passages spot ls with
  | case1 spot =>
    rw [outsideText] at hl
    cases hl
  | case2 spot x rest hx ih =>
    have hdelimiter : x.isDelimiter = false :=
      (Line.silent_of_inRun (by simp [Line.inRun, hx])).2.2
    rw [outsideText_line (by simp [hdelimiter])] at hl
    rcases List.mem_cons.1 hl with rfl | hl
    · exact absurd hx (by simp [hblank])
    · exact ih hl
  | case3 spot x rest hx body after hfound ih =>
    split at hfound
    · rename_i hdelimiter
      rw [outsideText_text hdelimiter hfound] at hl
      exact (ih hl).cons _
    · cases hfound
  | case4 spot x rest hx hnone row hrow ih =>
    have hxrow : x.row? = some row := by
      unfold Spot.runRow? at hrow
      split at hrow
      · cases hrow
      · exact hrow
    rw [outsideText_line hnone] at hl
    rcases List.mem_cons.1 hl with rfl | hl
    · exact .inr ⟨row, _, _, hxrow, List.mem_cons_self, List.mem_cons_self⟩
    · rcases mem_run_or_behind hl hblank with ⟨found, hfound, hmem⟩ | hbehind
      · exact .inr ⟨found, _, _, hfound, List.mem_cons_of_mem _ hmem, List.mem_cons_self⟩
      · exact (ih hbehind).cons _
  | case5 spot x rest hx hnone hrow ih =>
    rw [outsideText_line hnone] at hl
    rcases List.mem_cons.1 hl with rfl | hl
    · exact .inl ⟨spot, List.mem_cons_self⟩
    · exact (ih hl).cons _

end PlainSpec
