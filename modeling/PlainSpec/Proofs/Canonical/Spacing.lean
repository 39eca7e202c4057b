import Mathlib.Data.List.Chain
import PlainSpec.Proofs.Canonical.Alignment
import PlainSpec.Proofs.Canonical.DataBlocks
import PlainSpec.Proofs.Canonical.Lines
import PlainSpec.Proofs.Source.Requirements
import PlainSpec.Proofs.Template.Substitution

/-!
# The lines of canonical text

Blank lines are laid out generously: comments, data, statements and tables each bring some, before
or after them.  All but one of several in a row are dropped when everything is put together, and
those at both ends.  The empty lines of a text block look the same but are not dropped.  They are
kept apart by the rows that they come from, and in the written text by the delimiters around them.

## Main definitions

* `Row.Laid`: rows that are lines, blank lines and text blocks, with what the blocks hold.
* `Row.Spaced`: lines that are well spaced, with what the text blocks among them hold.
* `Text.stretches`, `everyOther`: the lines between delimiters, outside and inside of text blocks by
  turns.

## Main results

* `Row.Laid.spaced`: rows are written as well spaced lines.
* `Canonical.laid_requirement`: everything that is read is laid out so.
* `Document.canonical_spaced`: how the canonical text is spaced.
-/

namespace PlainSpec

open Grammar Grammar.ReqsML

/-! ## Stretches of lines -/

/-- The first member of a list, the third one, and so on. -/
def everyOther {α : Type} : List α → List α
  | [] => []
  | [a] => [a]
  | a :: _ :: as => a :: everyOther as

theorem everyOther_cons {α : Type} (a : α) (as : List α) :
    everyOther (a :: as) = a :: everyOther as.tail := by
  cases as <;> rfl

namespace Text

/-- Whether a line opens or closes a text block. -/
def isFence (l : Text) : Bool := l.trim = Dialect.reqsml.textDelimiter

/-- The lines between the delimiters of text blocks. -/
def stretches (lines : List Text) : List (List Text) := lines.splitOnP isFence

/-- The text shows something that is not the mark of a delimiter. -/
def Inked (t : Text) : Prop := ∃ c ∈ t, isBlank c = false ∧ c ≠ '`'

namespace Inked

variable {t : Text}

theorem append_left (h : Inked t) (u : Text) : Inked (u ++ t) := by
  obtain ⟨c, hc, hink⟩ := h
  exact ⟨c, List.mem_append_right u hc, hink⟩

theorem of_append {b : Text} (h : Inked (t ++ b)) (hb : AllBlank b) : Inked t := by
  obtain ⟨c, hc, hblank, hink⟩ := h
  rcases List.mem_append.1 hc with hc | hc
  · exact ⟨c, hc, hblank, hink⟩
  · rw [hb c hc] at hblank
    cases hblank

theorem trimEnd (h : Inked t) : Inked t.trimEnd := by
  obtain ⟨b, hb, hblank⟩ := exists_trimEnd t
  rw [hb] at h
  exact h.of_append hblank

theorem ne_nil (h : Inked t) : t ≠ [] := by
  obtain ⟨c, hc, -⟩ := h
  exact List.ne_nil_of_mem hc

theorem trim_ne_nil (h : Inked t) : t.trim ≠ [] := by
  obtain ⟨c, hc, hblank, -⟩ := h
  rw [Ne, trim_eq_nil]
  intro hall
  rw [hall c hc] at hblank
  cases hblank

/-- Such a line is no delimiter. -/
theorem isFence_eq_false (h : Inked t) : isFence t = false := by
  obtain ⟨b, b', ht, hb, hb'⟩ := exists_trim t
  obtain ⟨c, hc, hblank, hink⟩ := h
  refine decide_eq_false fun hfence => ?_
  rw [ht, List.mem_append, List.mem_append] at hc
  rcases hc with (hc | hc) | hc
  · rw [hb c hc] at hblank
    cases hblank
  · rw [hfence] at hc
    have : c ∈ "```".toList := hc
    simp [hink] at this
  · rw [hb' c hc] at hblank
    cases hblank

end Inked

end Text

namespace Row

/-! ## Text blocks -/

/-- A line some levels to the right, unless it is empty. -/
def indented (level : Nat) (t : Text) : Text := if t.isEmpty then t else shift level t

/-- The lines of a text block at a level. -/
def textBlock (level : Nat) (content : Text) : List Text :=
  shift level Dialect.reqsml.textDelimiter :: (content.splitOn '\n').map (indented level) ++
    [shift level Dialect.reqsml.textDelimiter]

/-- A text that can be written between delimiters: its lines have no blanks around them, and none of
them is a delimiter. -/
def Enclosed (content : Text) : Prop :=
  ∀ l ∈ content.splitOn '\n', Text.Neat l ∧ l ≠ Dialect.reqsml.textDelimiter

theorem indented_zero : indented 0 = id := by
  funext t
  unfold indented
  split <;> rfl

theorem trim_indented {l : Text} (h : l.Neat) (level : Nat) : (indented level l).trim = l := by
  unfold indented
  split
  · exact h.trim_eq
  · exact h.trim_after (Text.allBlank_replicate _)

theorem trimEnd_shift {l : Text} (h : l.trimEnd = l) (hne : l ≠ []) (level : Nat) :
    (shift level l).trimEnd = shift level l := by
  rw [shift, Text.trimEnd_append (by rwa [h]), h]

theorem trimEnd_of_neat {l : Text} (h : l.Neat) : l.trimEnd = l := by
  rcases List.eq_nil_or_concat l with rfl | ⟨init, c, rfl⟩
  · rfl
  · rw [List.concat_eq_append] at h ⊢
    exact Text.trimEnd_concat (h.last List.getLast?_concat) init

/-- No line of a text block ends with blanks. -/
theorem trimEnd_of_mem_textBlock {content : Text} (h : Enclosed content) {level : Nat} {l : Text}
    (hl : l ∈ textBlock level content) : l.trimEnd = l := by
  have hfence : (shift level Dialect.reqsml.textDelimiter).trimEnd =
      shift level Dialect.reqsml.textDelimiter := trimEnd_shift (by decide) (by decide) level
  simp only [textBlock, List.cons_append, List.mem_cons, List.mem_append, List.mem_map,
    List.not_mem_nil, or_false] at hl
  rcases hl with rfl | ⟨t, ht, rfl⟩ | rfl
  · exact hfence
  · unfold indented
    split
    · exact trimEnd_of_neat (h t ht).1
    · rename_i hne
      exact trimEnd_shift (trimEnd_of_neat (h t ht).1) (by simpa using hne) level
  · exact hfence

/-- **A text block is a stretch of its own.** -/
theorem stretches_textBlock {content : Text} (h : Enclosed content) (level : Nat)
    (lines : List Text) :
    Text.stretches (textBlock level content ++ lines) =
      [] :: (content.splitOn '\n').map (indented level) :: Text.stretches lines := by
  have hfence : Text.isFence (shift level Dialect.reqsml.textDelimiter) = true := by
    refine decide_eq_true ?_
    rw [shift, Text.trim_append_of_blank (Text.allBlank_replicate _)]
    decide
  have hbody : ∀ l ∈ (content.splitOn '\n').map (indented level), Text.isFence l = false := by
    refine List.forall_mem_map.2 fun l hl => decide_eq_false ?_
    rw [trim_indented (h l hl).1]
    exact (h l hl).2
  have hlines : textBlock level content ++ lines =
      [] ++ shift level Dialect.reqsml.textDelimiter ::
        ((content.splitOn '\n').map (indented level) ++
        shift level Dialect.reqsml.textDelimiter :: lines) := by
    simp [textBlock]
  rw [Text.stretches, hlines, List.splitOnP_append_cons _ _ hfence,
    List.splitOnP_append_cons _ _ hfence, List.splitOnP_eq_singleton hbody, List.splitOnP_nil]
  rfl

theorem indent_map_text (texts : List Text) :
    indent (texts.map .text) = (texts.map (indented 1)).map .text := by
  rw [indent, List.map_map, List.map_map]
  refine List.map_congr_left fun t _ => ?_
  show (if t.isEmpty then Row.text t else .text (step ++ t)) = .text (indented 1 t)
  unfold indented
  split <;> rfl

theorem indented_of_ne_nil {l : Text} (hne : l ≠ []) (level : Nat) :
    indented level l = shift level l :=
  if_neg (by simpa using hne)

theorem indented_shift {l : Text} (hne : l ≠ []) (level : Nat) :
    indented 1 (shift level l) = shift (level + 1) l := by
  rw [indented_of_ne_nil (by simp [shift, hne]), shift_shift, Nat.add_comm]

theorem indented_indented (level : Nat) (l : Text) :
    indented 1 (indented level l) = indented (level + 1) l := by
  by_cases hl : l = []
  · simp [indented, hl]
  · rw [indented_of_ne_nil hl, indented_shift hl, indented_of_ne_nil hl]

/-- A text block moved to the right is one of the next level. -/
theorem indent_textBlock (level : Nat) (content : Text) :
    indent ((textBlock level content).map .text) = (textBlock (level + 1) content).map .text := by
  have hfence := @indented_shift Dialect.reqsml.textDelimiter (by decide) level
  rw [indent_map_text]
  simp [textBlock, hfence, indented_indented]

/-! ## Rows as they are laid out -/

/-- Rows that are lines, blank lines and text blocks, in front of no other ones, and what the blocks
hold. -/
inductive Laid : List Row → List Text → Prop where
  /-- No rows. -/
  | nil : Laid [] []
  /-- A blank line. -/
  | blank {rows : List Row} {contents : List Text} (h : Laid rows contents) :
      Laid (.blank :: rows) contents
  /-- A line. -/
  | line {t : Text} {rows : List Row} {contents : List Text} (hone : '\n' ∉ t) (hink : t.Inked)
      (h : Laid rows contents) : Laid (.text t :: rows) contents
  /-- A text block. -/
  | textBlock (level : Nat) {content : Text} {rows : List Row} {contents : List Text}
      (henclosed : Enclosed content) (h : Laid rows contents) :
      Laid ((textBlock level content).map .text ++ rows) (content :: contents)

namespace Laid

variable {rows rows' : List Row} {contents contents' : List Text}

theorem append (h : Laid rows contents) (h' : Laid rows' contents') :
    Laid (rows ++ rows') (contents ++ contents') := by
  induction h with
  | nil => exact h'
  | blank _ ih => exact .blank ih
  | line hone hink _ ih => exact .line hone hink ih
  | textBlock level henclosed _ ih =>
    rw [List.append_assoc]
    exact .textBlock level henclosed ih

theorem flatMap {α : Type} {rowsOf : α → List Row} {contentsOf : α → List Text} {as : List α}
    (h : ∀ a ∈ as, Laid (rowsOf a) (contentsOf a)) :
    Laid (as.flatMap rowsOf) (as.flatMap contentsOf) := by
  induction as with
  | nil => exact .nil
  | cons a as ih =>
    obtain ⟨ha, has⟩ := List.forall_mem_cons.1 h
    exact ha.append (ih has)

/-- Lines and blank lines. -/
theorem of_lines (h : ∀ t, .text t ∈ rows → '\n' ∉ t ∧ t.Inked) : Laid rows [] := by
  induction rows with
  | nil => exact .nil
  | cons row rows ih =>
    have hrest := ih fun t ht => h t (List.mem_cons_of_mem _ ht)
    cases row with
    | blank => exact .blank hrest
    | text t =>
      obtain ⟨hone, hink⟩ := h t List.mem_cons_self
      exact .line hone hink hrest

/-- **Moved to the right, rows are laid out as before.** -/
theorem indent (h : Laid rows contents) : Laid (indent rows) contents := by
  induction h with
  | nil => exact .nil
  | blank _ ih => exact .blank ih
  | @line t rows contents hone hink _ ih =>
    rw [indent_text hink.ne_nil]
    exact .line (by simpa using hone) (hink.append_left _) ih
  | textBlock level henclosed _ ih =>
    rw [indent_append, indent_textBlock]
    exact .textBlock (level + 1) henclosed ih

theorem oneLine (h : Laid rows contents) : OneLine rows := by
  induction h with
  | nil => exact oneLine_nil
  | blank _ ih => exact oneLine_blank.2 ih
  | line hone _ _ ih => exact oneLine_text.2 ⟨hone, ih⟩
  | @textBlock level content rows contents henclosed _ ih =>
    refine oneLine_append.2 ⟨oneLine_map_text.2 fun t ht => ?_, ih⟩
    have hbody : ∀ l ∈ content.splitOn '\n', '\n' ∉ indented level l := by
      intro l hl
      unfold indented
      split
      · exact Text.not_mem_of_mem_splitOn hl
      · simpa using Text.not_mem_of_mem_splitOn hl
    have hfence : '\n' ∉ shift level Dialect.reqsml.textDelimiter := by
      rw [mem_shift (by decide)]
      decide
    simp only [Row.textBlock, List.cons_append, List.mem_cons, List.mem_append, List.mem_map,
      List.not_mem_nil, or_false] at ht
    rcases ht with rfl | ⟨l, hl, rfl⟩ | rfl
    · exact hfence
    · exact hbody l hl
    · exact hfence

end Laid

/-! ## Lines as they are spaced -/

/-- Lines that end without blanks, in which no blank line follows another one and none is the last,
apart from text blocks.  `afterBlank` says whether a blank line at the start would follow another
one, or nothing. -/
inductive Spaced : Bool → List Text → List Text → Prop where
  /-- No lines. -/
  | nil (afterBlank : Bool) : Spaced afterBlank [] []
  /-- A blank line between two others. -/
  | blank {lines contents : List Text} (hne : lines ≠ []) (h : Spaced true lines contents) :
      Spaced false ([] :: lines) contents
  /-- A line that is not blank. -/
  | line {afterBlank : Bool} {t : Text} {lines contents : List Text} (hink : t.Inked)
      (hend : t.trimEnd = t) (h : Spaced false lines contents) :
        Spaced afterBlank (t :: lines) contents
  /-- A text block. -/
  | textBlock {afterBlank : Bool} (level : Nat) {content : Text} {lines contents : List Text}
      (henclosed : Enclosed content) (h : Spaced false lines contents) :
      Spaced afterBlank (textBlock level content ++ lines) (content :: contents)

theorem consolidateFrom_texts (afterBlank : Bool) (t : Text) (texts : List Text) (rows : List Row) :
    consolidateFrom afterBlank ((t :: texts).map .text ++ rows) =
      (t :: texts).map .text ++ consolidateFrom false rows := by
  rw [List.map_cons, List.cons_append, consolidateFrom, tight_texts texts rows, List.cons_append]

/-- What is written of a row does not end with blanks. -/
theorem trimEnd_line (row : Row) : row.line.trimEnd = row.line := by
  match row with
  | .blank => rfl
  | .text t =>
    rcases List.eq_nil_or_concat t.trimEnd with h | ⟨init, c, h⟩
    · rw [line, h]
      rfl
    · rw [List.concat_eq_append] at h
      have hlast : isBlank c = false :=
        Text.getLast?_trimEnd (t := t) (by rw [h, List.getLast?_concat])
      rw [line, h, Text.trimEnd_concat hlast]

/-- **Rows are written as well spaced lines.** -/
theorem Laid.spaced {rows : List Row} {contents : List Text} (h : Laid rows contents)
    (afterBlank : Bool) :
    Spaced afterBlank ((consolidateFrom afterBlank rows).map Row.line) contents := by
  induction h generalizing afterBlank with
  | nil => exact .nil afterBlank
  | @blank rows contents _ ih =>
    cases afterBlank with
    | true => exact ih true
    | false =>
      have hrest := ih true
      unfold consolidateFrom
      rw [if_neg (by decide)]
      split
      · rename_i hnil
        rw [hnil, List.map_nil] at hrest
        generalize hlines : ([] : List Text) = lines at hrest
        cases hrest with
        | nil => exact .nil false
        | line => cases hlines
        | textBlock => cases hlines
      · rename_i hne
        exact .blank (by simpa using hne) hrest
  | @line t rows contents hone hink _ ih =>
    exact .line hink.trimEnd (trimEnd_line (.text t)) (ih false)
  | @textBlock level content rows contents henclosed _ ih =>
    have hlines : ((Row.textBlock level content).map .text).map Row.line =
        Row.textBlock level content := by
      rw [List.map_map]
      exact (List.map_congr_left fun l hl => trimEnd_of_mem_textBlock henclosed hl).trans
        (List.map_id _)
    have hkept : consolidateFrom afterBlank ((Row.textBlock level content).map .text ++ rows) =
        (Row.textBlock level content).map .text ++ consolidateFrom false rows :=
      consolidateFrom_texts afterBlank _ _ rows
    have hblock : Spaced afterBlank _ _ := .textBlock level henclosed (ih false)
    rw [← hlines, ← List.map_append, ← hkept] at hblock
    exact hblock

namespace Spaced

variable {afterBlank : Bool} {lines contents : List Text}

/-- No line ends with blanks. -/
theorem trimEnd_eq (h : Spaced afterBlank lines contents) : ∀ l ∈ lines, l.trimEnd = l := by
  induction h with
  | nil => simp
  | blank _ _ ih => exact List.forall_mem_cons.2 ⟨rfl, ih⟩
  | line _ hend _ ih => exact List.forall_mem_cons.2 ⟨hend, ih⟩
  | textBlock level henclosed _ ih =>
    intro l hl
    rcases List.mem_append.1 hl with hl | hl
    · exact trimEnd_of_mem_textBlock henclosed hl
    · exact ih l hl

/-- The delimiter of a text block shows something. -/
theorem trim_shift_delimiter (level : Nat) :
    (shift level Dialect.reqsml.textDelimiter).trim ≠ [] := by
  rw [shift, Text.trim_append_of_blank (Text.allBlank_replicate _)]
  decide

/-- The first line is not blank if it would follow a blank one, or nothing. -/
theorem trim_head (h : Spaced true lines contents) {l : Text} (hl : lines.head? = some l) :
    l.trim ≠ [] := by
  cases h with
  | nil => cases hl
  | line hink _ _ =>
    cases hl
    exact hink.trim_ne_nil
  | textBlock level _ _ =>
    cases hl
    exact trim_shift_delimiter level

/-- The last line is not blank. -/
theorem trim_last (h : Spaced afterBlank lines contents) {l : Text} (hl : lines.getLast? = some l) :
    l.trim ≠ [] := by
  induction h with
  | nil => cases hl
  | blank hne _ ih =>
    rw [List.getLast?_cons_of_ne_nil hne] at hl
    exact ih hl
  | @line _ t lines _ hink _ _ ih =>
    cases lines with
    | nil =>
      cases hl
      exact hink.trim_ne_nil
    | cons => exact ih (by rwa [List.getLast?_cons_cons] at hl)
  | @textBlock _ level content lines _ _ _ ih =>
    rcases List.eq_nil_or_concat lines with rfl | ⟨init, last, rfl⟩
    · rw [List.append_nil, Row.textBlock, List.getLast?_concat] at hl
      cases hl
      exact trim_shift_delimiter level
    · rw [List.concat_eq_append, ← List.append_assoc, List.getLast?_concat] at hl
      exact ih (by rw [List.concat_eq_append, List.getLast?_concat, hl])

/-- Not both lines are blank. -/
def NotBothBlank (a b : Text) : Prop := ¬ (a.trim = [] ∧ b.trim = [])

/-- A line that opens no text block is put in front of the first stretch. -/
theorem stretches_cons {l : Text} (h : Text.isFence l = false) (lines : List Text) :
    Text.stretches (l :: lines) = (Text.stretches lines).modifyHead (l :: ·) := by
  rw [Text.stretches, List.splitOnP_cons_eq_if_modifyHead, if_neg (by simp [h])]
  rfl

/-- What the stretches of well spaced lines are: the one in front of the first text block, and those
from there on. -/
structure Stretched (afterBlank : Bool) (front : List Text) (rest : List (List Text))
    (contents : List Text) : Prop where
  head : afterBlank = true → ∀ l ∈ front.head?, l.trim ≠ []
  front : front.IsChain NotBothBlank
  outside : ∀ stretch ∈ everyOther rest.tail, stretch.IsChain NotBothBlank
  inside :
    List.Forall₂ (fun body content => ∃ level, body = (content.splitOn '\n').map (indented level))
    (everyOther rest) contents

theorem Stretched.cons {before : Bool} {front : List Text} {rest : List (List Text)} {l : Text}
    (h : Stretched before front rest contents) (hl : before = true ∨ l.trim ≠ [])
    (hhead : afterBlank = true → l.trim ≠ []) :
    Stretched afterBlank (l :: front) rest contents where
  head hafter x hx := by
    cases hx
    exact hhead hafter
  front := by
    refine List.isChain_cons.2 ⟨fun x hx hblank => ?_, h.front⟩
    rcases hl with hbefore | hne
    · exact h.head hbefore x hx hblank.2
    · exact hne hblank.1
  outside := h.outside
  inside := h.inside

/-- **Outside of text blocks no blank line follows another one, and inside of them stands what they
hold.** -/
theorem exists_stretched (h : Spaced afterBlank lines contents) :
    ∃ front rest, Text.stretches lines = front :: rest ∧
      Stretched afterBlank front rest contents := by
  induction h with
  | nil => exact ⟨[], [], rfl, by simp, .nil, by simp [everyOther], .nil⟩
  | blank _ _ ih =>
    obtain ⟨front, rest, hlines, hstretched⟩ := ih
    exact ⟨[] :: front, rest, by rw [stretches_cons (by decide), hlines]; rfl,
      hstretched.cons (.inl rfl) (by simp)⟩
  | @line _ t _ _ hink _ _ ih =>
    obtain ⟨front, rest, hlines, hstretched⟩ := ih
    exact ⟨t :: front, rest, by rw [stretches_cons hink.isFence_eq_false, hlines]; rfl,
      hstretched.cons (.inr hink.trim_ne_nil) fun _ => hink.trim_ne_nil⟩
  | textBlock level henclosed _ ih =>
    obtain ⟨front, rest, hlines, hstretched⟩ := ih
    refine ⟨_, _, stretches_textBlock henclosed level _, by simp, .nil, ?_, ?_⟩
    · rw [List.tail_cons, hlines, everyOther_cons]
      exact List.forall_mem_cons.2 ⟨hstretched.front, hstretched.outside⟩
    · rw [everyOther_cons, hlines]
      exact .cons ⟨level, rfl⟩ hstretched.inside

end Spaced

end Row

/-! ## What is read is laid out so -/

namespace Canonical

open Row

/-- What the text blocks of some statements hold. -/
def bodies (ss : List Statement) : List Text := ss.flatMap fun s => s.text?.toList

theorem inked_of_mem {t : Text} {c : Char} (h : c ∈ t)
    (hink : isBlank c = false ∧ c ≠ '`') : t.Inked :=
  ⟨c, h, hink⟩

theorem laid_comments {cs : Comments} (h : LegibleComments cs) :
    Laid (Canonical.comments cs) [] := by
  refine .of_lines fun t ht => ⟨oneLine_comments h t ht, ?_⟩
  cases cs with
  | none => cases ht
  | some cs =>
    rcases List.mem_cons.1 ht with heq | ht
    · cases heq
    · obtain ⟨c, -, heq⟩ := List.mem_map.1 ht
      cases heq
      exact @inked_of_mem _ '/' (by simp) (by decide)

theorem laid_metadata {m : Metadata} (h : m.Writable) :
    Laid (metadata m.identifier m.labels) [] := by
  refine .of_lines fun t ht => ⟨oneLine_metadata h t ht, ?_⟩
  obtain ⟨t', ht', heq⟩ := List.mem_map.1 ht
  cases heq
  obtain ⟨-, rest, rfl⟩ := neat_metadata? h (Option.mem_toList.1 ht')
  exact @inked_of_mem _ '#' List.mem_cons_self (by decide)

/-- The lines of data that were read hold no line end, also if a pair is lost when they are read
again. -/
theorem oneLine_rows_of_legible {d : Data} (h : d.Legible) (htext : d.text? = none) :
    ∀ l ∈ d.rows, '\n' ∉ l := by
  cases d with
  | keyValues pairs =>
    obtain ⟨-, hparts⟩ := parts_of_legible h
    refine Aligned.oneLine_rows htext fun t ht => ?_
    rcases List.mem_append.1 ht with ht | ht
    · obtain ⟨pair, hpair, rfl⟩ := List.mem_map.1 ht
      exact (hparts pair hpair).1.1.oneLine
    · obtain ⟨pair, hpair, rfl⟩ := List.mem_map.1 ht
      exact (hparts pair hpair).2.1.oneLine
  | text content => cases htext
  | list _ | table _ | matrix _ =>
    cases h with
    | rows rows hcells hread =>
      obtain ⟨lines, hlines⟩ := Data.exists_printsAs hcells hread (fun _ heq => by cases heq)
      rw [hlines.rows_eq]
      exact List.forall_mem_map.2 fun line hline => (hlines.cuts line hline).oneLine

/-- A text that was read between delimiters can be written between delimiters. -/
theorem enclosed_of_legible {content : Text} (h : (Data.text content).Legible) :
    Enclosed content := by
  generalize hd : Data.text content = d at h
  cases h with
  | text body hneat hdelimiter hfilled =>
    cases hd
    obtain ⟨l, hl, -⟩ := hfilled
    have hlines : (Text.join ['\n'] body).splitOn '\n' = body :=
      List.splitOn_intercalate '\n' (fun t ht => (hneat t ht).oneLine) (List.ne_nil_of_mem hl)
    intro t ht
    rw [hlines] at ht
    exact ⟨hneat t ht, hdelimiter t ht⟩
  | rows rows hcells hread =>
    subst hd
    rcases readRows_eq_ok.1 hread with hd | ⟨-, hd | ⟨-, hd | ⟨-, hd⟩⟩⟩
    · obtain ⟨_, _, _, _, _, _, heq, -⟩ := readMatrix_eq_ok.1 hd
      cases heq
    · obtain ⟨_, _, _, _, _, heq⟩ := readTable_eq_ok.1 hd
      cases heq
    · obtain ⟨_, _, heq, -⟩ := readKeyValues_eq_ok.1 hd
      cases heq
    · obtain ⟨_, heq, -⟩ := readList_eq_ok.1 hd
      cases heq

theorem laid_data {d : Option Data} (h : ∀ a, d = some a → a.Legible) :
    Laid (Canonical.data d) (d.bind Data.text?).toList := by
  cases d with
  | none => exact .nil
  | some d =>
    have hlegible := h d rfl
    cases htext : d.text? with
    | none =>
      have hrows : Laid (d.rows.map .text) [] := by
        refine .of_lines fun t ht => ?_
        obtain ⟨l, hl, heq⟩ := List.mem_map.1 ht
        cases heq
        obtain ⟨front, rfl⟩ := Aligned.exists_pipe htext hl
        exact ⟨oneLine_rows_of_legible hlegible htext _ hl,
          @inked_of_mem _ '|' (by simp) (by decide)⟩
      simpa [Canonical.data, htext] using hrows.indent.append (.blank .nil)
    | some content =>
      obtain rfl : d = .text content := by
        cases d <;> cases htext
        rfl
      have hrows : (Data.text content).rows = Row.textBlock 0 content := by
        simp [Data.rows, Row.textBlock, indented_zero]
      have hblock :=
        (Laid.textBlock 0 (enclosed_of_legible hlegible) .nil).indent.append (.blank .nil)
      rw [List.append_nil, ← hrows] at hblock
      exact hblock

/-! ### Statements -/

theorem laid_single {s : Statement} (h : s.Legible) : Laid (single s) s.text?.toList := by
  have hline : Text.Inked (s.kind.keyword ++ [':', ' '] ++ s.description) :=
    @inked_of_mem _ ':' (by simp) (by decide)
  have hone : '\n' ∉ s.kind.keyword ++ [':', ' '] ++ s.description := by
    simp [oneLine_keyword, h.description.oneLine]
  have hrows := ((laid_comments h.comments).append (.line hone hline (laid_data h.data))).append
    (.blank .nil)
  rw [List.nil_append, List.append_nil] at hrows
  exact hrows

theorem laid_bullet {s : Statement} (h : s.Legible) : Laid (bullet s) s.text?.toList := by
  have hline : Text.Inked (['-', ' '] ++ s.description) := @inked_of_mem _ '-' (by simp) (by decide)
  have hone : '\n' ∉ ['-', ' '] ++ s.description := by simp [h.description.oneLine]
  exact (laid_comments h.comments).append (.line hone hline (laid_data h.data))

theorem laid_group {g : Several Statement} (h : ∀ s ∈ g.toList, s.Legible) :
    Laid (group g) (bodies g.toList) := by
  obtain ⟨s, rest⟩ := g
  cases rest with
  | nil =>
    have hsingle := laid_single (h s List.mem_cons_self)
    rw [← List.append_nil s.text?.toList] at hsingle
    exact hsingle
  | cons s' rest =>
    have hbullets : Laid ((s :: s' :: rest).flatMap bullet) (bodies (s :: s' :: rest)) :=
      .flatMap fun x hx => laid_bullet (h x hx)
    have hline : Text.Inked (s.kind.keyword ++ [':']) := @inked_of_mem _ ':' (by simp) (by decide)
    have hone : '\n' ∉ s.kind.keyword ++ [':'] := by simp [oneLine_keyword]
    have hrows := (Laid.line hone hline hbullets).append (.blank .nil)
    rw [List.append_nil] at hrows
    exact hrows

/-- **Statements are lines, blank lines and text blocks.** -/
theorem laid_statements {ss : List Statement} (h : ∀ s ∈ ss, s.Legible) :
    Laid (Canonical.statements ss) (bodies ss) := by
  have hbodies : bodies ss =
      (runs (fun a b => a.kind == b.kind) ss).flatMap fun g => bodies g.toList := by
    conv_lhs => rw [← flatMap_runs (fun a b => a.kind == b.kind) ss]
    exact List.flatMap_assoc
  rw [hbodies]
  exact .flatMap fun g hg => laid_group fun s hs => h s ((mem_of_mem_runs hg).1 s hs)

/-! ### Examples -/

/-- The table of a template has no text blocks. -/
theorem laid_table {set : ExampleSet} {es : List Example} (htable : FromTable set es) :
    Laid (examplesTable es) [] := by
  refine .of_lines fun t ht => ⟨oneLine_table htable t ht, ?_⟩
  have hline (layout : TableLayout) (front description cells : Text) :
      (layout.line front description cells).Inked :=
    @inked_of_mem _ '|' (by simp [TableLayout.line]) (by decide)
  rcases List.mem_append.1 ht with ht | ht
  · simp only [TableLayout.header, List.mem_cons, Row.text.injEq, List.not_mem_nil, or_false] at ht
    rcases ht with rfl | rfl <;> exact hline _ _ _ _
  · obtain ⟨s, -, ht⟩ := List.mem_flatMap.1 ht
    rcases List.mem_append.1 ht with ht | ht
    · cases hcs : s.comments with
      | none =>
        rw [hcs] at ht
        cases ht
      | some cs =>
        rw [hcs] at ht
        rcases List.mem_cons.1 ht with heq | ht
        · cases heq
        · obtain ⟨c, -, heq⟩ := List.mem_map.1 ht
          cases heq
          exact @inked_of_mem _ '/' (by simp) (by decide)
    · cases List.mem_singleton.1 ht
      exact hline _ _ _ _

theorem laid_template {set : ExampleSet} {es : List Example} (h : set.Written)
    (htable : FromTable set es) :
    Laid (template set es) (bodies set.statements) := by
  have hrows := ((laid_statements h.statements).append (.line (by decide)
    (@inked_of_mem "Examples:".toList ':' (by decide) (by decide))
    (.blank (laid_table htable).indent))).append (.blank .nil)
  rw [List.append_nil, List.append_nil] at hrows
  exact hrows

/-- A title with its metadata and comments in front. -/
theorem laid_headed {cs : Comments} {m : Metadata} {keyword title : Text} {rows : List Row}
    {contents : List Text} (hcomments : LegibleComments cs) (hmetadata : m.Writable)
    (hkeyword : '\n' ∉ keyword ∧ ':' ∈ keyword) (htitle : title.Neat) (h : Laid rows contents) :
    Laid (Canonical.comments cs ++ metadata m.identifier m.labels ++ .text (keyword ++ title) ::
      .blank :: indent rows) contents := by
  have hone : '\n' ∉ keyword ++ title := by simp [hkeyword.1, htitle.oneLine]
  have hink : Text.Inked (keyword ++ title) :=
    @inked_of_mem _ ':' (List.mem_append_left _ hkeyword.2) (by decide)
  exact ((laid_comments hcomments).append (laid_metadata hmetadata)).append
    (.line hone hink (.blank h.indent))

theorem laid_block {b : List Example} (h : ExampleBlock b) :
    Laid (blockRows b) (bodies (blockStatements b)) := by
  cases h with
  | @single e h =>
    obtain ⟨title, hdescription, hneat, -⟩ := h.title
    have hstatements : bodies (blockStatements [e]) = bodies e.statements := by
      have hblock : blockSet? [e] = none := h.noSet
      simp [blockStatements, hblock]
    have hrows : Canonical.singleExample e =
        Canonical.comments e.comments ++ metadata e.identifier e.explicitLabels ++
          .text ("Example: ".toList ++ title) :: .blank :: indent
            (Canonical.statements e.statements) ++
            [.blank] := by
      simp [Canonical.singleExample, hdescription]
    have hlaid :=
      (laid_headed h.comments h.metadata (by decide : _ ∧ ':' ∈ "Example: ".toList) hneat
      (laid_statements h.statements)).append (.blank .nil)
    rw [List.append_nil] at hlaid
    rw [blockRows_single h.noSet, hstatements, hrows]
    exact hlaid
  | @set set _ h htable =>
    obtain ⟨title, hdescription, hneat, -⟩ := h.title
    have hstatements : blockStatements b = set.statements := by
      rw [blockStatements, htable.blockSet?.1]
    rw [blockRows_table htable, hstatements, Canonical.exampleSet, hdescription]
    exact laid_headed h.comments h.metadata (by decide : _ ∧ ':' ∈ "Example Set: ".toList) hneat
      (laid_template h.toWritten htable)

theorem laid_examples {blocks : List (List Example)} (h : Body blocks) :
    Laid (Canonical.examples blocks.flatten) (bodies (writtenFrom none blocks.flatten)) := by
  cases h with
  | @inline e h =>
    have hwritten : writtenFrom none [e] = e.statements := by simp [writtenFrom, h.noSet]
    rw [List.flatten_singleton, examples_single h.noSet, singleExample_inline h, hwritten]
    exact laid_statements h.statements
  | @template set es h hbare htable =>
    obtain ⟨hblock, hall⟩ := htable.blockSet?
    have hwritten :=
      writtenFrom_template htable.ne_nil hall (by simp : (none : Option ExampleSet) ≠ some set) []
    rw [List.append_nil, writtenFrom, List.append_nil, blockStatements, hblock] at hwritten
    rw [List.flatten_singleton, examples_template hbare htable.ne_nil hall, hwritten]
    exact laid_template h htable
  | titled h =>
    have hbodies : bodies (blocks.flatMap blockStatements) =
        blocks.flatMap fun b => bodies (blockStatements b) := List.flatMap_assoc
    rw [examples_flatten h, writtenFrom_flatten h.block h.follows (by simp), hbodies]
    exact .flatMap fun b hb => laid_block (h.block b hb)

/-! ### Requirements -/

/-- **Everything that is read is laid out as lines, blank lines and text blocks.** -/
theorem laid_requirement {r : Requirement} (h : r.Legible) :
    Laid (Canonical.requirement r) (bodies r.written) := by
  obtain ⟨blocks, hbody, hexamples⟩ := h.body
  have hwritten : r.written = writtenFrom none blocks.flatten := by
    rw [Requirement.written, hexamples, writtenFrom_inherit]
  have hrows : Canonical.examples r.examples = Canonical.examples blocks.flatten := by
    rw [hexamples, examples_inherit]
  rw [Canonical.requirement, hwritten, hrows]
  exact laid_headed h.comments h.metadata.writable (by decide : _ ∧ ':' ∈ "Requirement: ".toList)
    h.title.1 (laid_examples hbody)

theorem laid_requirements {rs : List Requirement} (h : ∀ r ∈ rs, r.Legible) :
    Laid (rs.flatMap Canonical.requirement) (bodies (rs.flatMap Requirement.written)) := by
  have hbodies : bodies (rs.flatMap Requirement.written) =
      rs.flatMap fun r => bodies r.written := List.flatMap_assoc
  rw [hbodies]
  exact .flatMap fun r hr => laid_requirement (h r hr)

end Canonical

/-! ## The canonical text -/

namespace Row

/-- No line of text is dropped. -/
theorem mem_consolidateFrom {rows : List Row} {t : Text} (h : .text t ∈ rows) (afterBlank : Bool) :
    .text t ∈ consolidateFrom afterBlank rows := by
  induction rows generalizing afterBlank with
  | nil => cases h
  | cons row rows ih =>
    rcases List.mem_cons.1 h with rfl | hrest
    · exact List.mem_cons_self
    · cases row with
      | text content => exact List.mem_cons_of_mem _ (ih hrest false)
      | blank =>
        have hkept := ih hrest true
        unfold consolidateFrom
        split
        · exact hkept
        · split
          · rename_i hnil
            rw [hnil] at hkept
            cases hkept
          · exact List.mem_cons_of_mem _ hkept

theorem lines_render {rows : List Row} (h : OneLine rows) :
    (render rows).lines = rows.map line := by
  simp [Text.lines, splitOn_render h]

/-- Rows whose last line is not blank end with one line end. -/
theorem exists_render_eq {rows : List Row} (hone : OneLine rows) {l : Text}
    (hl : (rows.map line).getLast? = some l) (hne : l ≠ []) :
    ∃ body c, render rows = body ++ [c, '\n'] ∧ c ≠ '\n' := by
  obtain ⟨init, last, rfl⟩ : ∃ init last, rows = init ++ [last] := by
    rcases List.eq_nil_or_concat rows with rfl | ⟨init, last, rfl⟩
    · cases hl
    · exact ⟨init, last, List.concat_eq_append⟩
  rw [List.map_append, List.map_singleton, List.getLast?_concat] at hl
  obtain ⟨front, c, hfront⟩ := (List.eq_nil_or_concat l).resolve_left hne
  rw [List.concat_eq_append] at hfront
  have hline : '\n' ∉ last.line := hone.not_mem_line (by simp)
  rw [Option.some.inj hl, hfront] at hline
  refine ⟨render init ++ front, c, ?_, fun hc => hline (by simp [hc])⟩
  rw [render_append, render_eq_unlines [last], List.map_singleton, Option.some.inj hl, hfront]
  simp [unlines]

end Row

/-- **How canonical text is spaced.**  It is not empty, does not start with a blank line, and ends
with one line end.  No line ends with blanks.  Outside of text blocks there are no two blank lines
in a row, and inside of them stand the lines of what was written between delimiters, in order, the
empty ones included. -/
theorem Document.canonical_spaced {source : Path} {text : Text} {d : Document}
    (h : Document.parse source .reqsml text = .ok d) :
    d.canonical ≠ [] ∧
      (∃ first rest, d.canonical.lines = first :: rest ∧ first.trim ≠ []) ∧
      (∃ body c, d.canonical = body ++ [c, '\n'] ∧ c ≠ '\n') ∧
      (∀ l ∈ d.canonical.lines, l.trimEnd = l) ∧
      (∀ stretch ∈ everyOther (Text.stretches d.canonical.lines),
        stretch.IsChain fun a b => ¬ (a.trim = [] ∧ b.trim = [])) ∧
      List.Forall₂
        (fun body content => ∃ level, body = (content.splitOn '\n').map (Row.indented level))
        (everyOther (Text.stretches d.canonical.lines).tail) (Canonical.bodies d.written) := by
  obtain ⟨rs, n, hread, rfl⟩ := Document.parse_reqsml_eq_ok.1 h
  have hrs := legible_requirements (Cursor.sound_ofText text) hread
  have hlaid := Canonical.laid_requirements hrs.legible
  obtain ⟨rows, hrows⟩ : ∃ rows, Row.consolidate (rs.toList.flatMap Canonical.requirement) = rows :=
    ⟨_, rfl⟩
  have hcanonical : Document.canonical ⟨source, none, none, none, .reqsml, rs.toList⟩ =
      Row.render rows := by
    rw [← hrows]
    rfl
  have hone : Row.OneLine rows := fun t ht =>
    hlaid.oneLine t (Row.mem_of_mem_consolidateFrom (hrows ▸ ht))
  have hspaced := hlaid.spaced true
  rw [show Row.consolidateFrom true (rs.toList.flatMap Canonical.requirement) =
    rows from hrows] at hspaced
  have htitle : Row.text ("Requirement: ".toList ++ rs.head.description) ∈ rows := by
    rw [← hrows]
    refine Row.mem_consolidateFrom (List.mem_flatMap.2 ⟨rs.head, List.mem_cons_self, ?_⟩) true
    simp [Canonical.requirement]
  have hne : rows.map Row.line ≠ [] := by simpa using List.ne_nil_of_mem htitle
  obtain ⟨first, rest, hfirst⟩ := List.exists_cons_of_ne_nil hne
  obtain ⟨front, others, hstretches, hstretched⟩ := hspaced.exists_stretched
  obtain ⟨body, c, hend, hc⟩ := Row.exists_render_eq hone (List.getLast?_eq_some_getLast hne)
    fun hnil => hspaced.trim_last (List.getLast?_eq_some_getLast hne) (by rw [hnil]; rfl)
  rw [hcanonical, Row.lines_render hone, hstretches, everyOther_cons, List.tail_cons]
  refine ⟨by rw [hend]; simp, ⟨first, rest, hfirst, hspaced.trim_head (by rw [hfirst]; rfl)⟩,
    ⟨body, c, hend, hc⟩, hspaced.trimEnd_eq,
      List.forall_mem_cons.2 ⟨hstretched.front, hstretched.outside⟩,
    hstretched.inside⟩

/-- A text block keeps the blank lines that it holds. -/
theorem Document.canonical_spaced_textBlock :
    ∃ d, Document.parse ⟨"a".toList⟩ .reqsml
        "Requirement: a\n\n\nIf: b\n```\nc\n\n\nd\n```\n\n\nExpect: e".toList = .ok d ∧
      Canonical.bodies d.written = ["c\n\n\nd".toList] ∧
      everyOther (Text.stretches d.canonical.lines).tail =
        [["    c".toList, [], [], "    d".toList]] ∧
      (∀ l ∈ d.canonical.lines, l.trimEnd = l) ∧
      ∀ stretch ∈ everyOther (Text.stretches d.canonical.lines),
        stretch.IsChain fun a b => ¬ (a.trim = [] ∧ b.trim = []) := by
  let d : Document := ⟨⟨"a".toList⟩, none, none, none, .reqsml,
    [⟨none, none, none, none, "a".toList, [⟨none, none, none, none, none,
      [⟨none, .condition, "b".toList, some (.text "c\n\n\nd".toList), some 4⟩,
        ⟨none, .outcome, "e".toList, none, some 13⟩], none, none⟩]⟩]⟩
  have hparse : Document.parse ⟨"a".toList⟩ .reqsml
      "Requirement: a\n\n\nIf: b\n```\nc\n\n\nd\n```\n\n\nExpect: e".toList = .ok d := by
    with_unfolding_all rfl
  obtain ⟨-, -, -, hends, houtside, -⟩ := Document.canonical_spaced hparse
  exact ⟨d, hparse, by decide +kernel, by decide +kernel, hends, houtside⟩

end PlainSpec
