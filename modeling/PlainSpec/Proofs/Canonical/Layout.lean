import PlainSpec.Canonical.Layout
import PlainSpec.Line
import PlainSpec.Proofs.Text.Neat

/-!
# Rows laid out as lines

Canonical text is put together from rows, and superfluous blank lines are dropped before it is
written.  The lines that are read back are told by a relation that does not say how many blank lines
stand between two parts: every row of text is one line, and a row for a blank line may be any number
of them.

## Main definitions

* `Row.Lays`: the trimmed lines of a list of rows.
* `Row.ahead?`: the first line of text.
* `Row.Solid`: the first line of text, if there is one, is not blank.
* `Row.shift`: a text some levels to the right.
* `Row.OneLine`: no row holds a line end.

## Main results

* `Row.Lays.dropWhile`: lines at the start may be skipped if they are blank.
* `Row.lays_split_render`: written rows are read back as lines of theirs.
-/

namespace PlainSpec.Row

/-- The trimmed lines of rows.  After the last row there may be blank lines. -/
inductive Lays : List Row → List Text → Prop where
  /-- Only blank lines are left. -/
  | done {texts} (h : ∀ t ∈ texts, t = []) : Lays [] texts
  /-- A row of text is one line. -/
  | text {content rows texts} (h : Lays rows texts) :
      Lays (.text content :: rows) (content.trim :: texts)
  /-- A blank row need not be a line. -/
  | gap {rows texts} (h : Lays rows texts) : Lays (.blank :: rows) texts
  /-- A blank row may be any number of lines. -/
  | blank {rows texts} (h : Lays (.blank :: rows) texts) : Lays (.blank :: rows) ([] :: texts)

/-- The first line of text, without the blanks around it. -/
def ahead? : List Row → Option Text
  | [] => none
  | .blank :: rows => ahead? rows
  | .text content :: _ => some content.trim

@[simp] theorem ahead?_nil : ahead? [] = none := rfl

@[simp] theorem ahead?_blank (rows : List Row) : ahead? (.blank :: rows) = ahead? rows := rfl

@[simp] theorem ahead?_text (content : Text) (rows : List Row) :
    ahead? (.text content :: rows) = some content.trim := rfl

/-- The first line of text, if there is one, is not blank. -/
def Solid (rows : List Row) : Prop := ahead? rows ≠ some []

@[simp] theorem solid_nil : Solid [] := by simp [Solid]

@[simp] theorem solid_blank {rows : List Row} : Solid (.blank :: rows) ↔ Solid rows := .rfl

@[simp] theorem solid_text {content : Text} {rows : List Row} :
    Solid (.text content :: rows) ↔ content.trim ≠ [] := by
  simp [Solid]

/-- **Blank lines in front may be skipped**, and the next line is the first line of text. -/
theorem Lays.dropWhile {rows : List Row} {texts : List Text} (h : Lays rows texts)
    (hs : Solid rows) :
    Lays rows (texts.dropWhile List.isEmpty) ∧
      (texts.dropWhile List.isEmpty).head? = ahead? rows := by
  induction h with
  | @done texts h =>
    have hnil : texts.dropWhile List.isEmpty = [] := by
      induction texts with
      | nil => rfl
      | cons t texts ih =>
        have ht := h t List.mem_cons_self
        subst ht
        exact ih fun u hu => h u (List.mem_cons_of_mem _ hu)
    rw [hnil]
    exact ⟨.done (by simp), rfl⟩
  | @text content rows texts h _ =>
    have hc : content.trim.isEmpty = false := by simpa using hs
    rw [List.dropWhile_cons_of_neg (by simp [hc])]
    exact ⟨.text h, rfl⟩
  | gap _ ih =>
    obtain ⟨hl, hh⟩ := ih hs
    exact ⟨.gap hl, hh⟩
  | blank _ ih => exact ih hs

/-- Lines that do not start with a blank one make no use of a blank row in front. -/
theorem Lays.of_blank {rows : List Row} {texts : List Text} (h : Lays (.blank :: rows) texts)
    (hne : texts.head? ≠ some []) : Lays rows texts := by
  cases h with
  | gap h => exact h
  | blank h => simp at hne

/-! ## Rows that look alike -/

/-- The row without blanks around its text. -/
def bare : Row → Row
  | text content => .text content.trim
  | blank => .blank

theorem Lays.congr {rows rows' : List Row} {texts : List Text} (h : Lays rows texts)
    (hbare : rows.map bare = rows'.map bare) : Lays rows' texts := by
  induction h generalizing rows' with
  | done h =>
    obtain rfl : rows' = [] := by simpa using hbare.symm
    exact .done h
  | text _ ih =>
    match rows', hbare with
    | .text content' :: rows', hbare =>
      obtain ⟨hcontent, hrows⟩ := List.cons.inj hbare
      simp only [bare, Row.text.injEq] at hcontent
      rw [hcontent]
      exact .text (ih hrows)
    | .blank :: _, hbare => cases (List.cons.inj hbare).1
  | gap _ ih =>
    match rows', hbare with
    | .blank :: rows', hbare => exact .gap (ih (List.cons.inj hbare).2)
    | .text _ :: _, hbare => cases (List.cons.inj hbare).1
  | blank _ ih =>
    match rows', hbare with
    | .blank :: rows', hbare => exact .blank (ih hbare)
    | .text _ :: _, hbare => cases (List.cons.inj hbare).1

theorem ahead?_congr {rows rows' : List Row} (h : rows.map bare = rows'.map bare) :
    ahead? rows = ahead? rows' := by
  induction rows generalizing rows' with
  | nil =>
    obtain rfl : rows' = [] := by simpa using h.symm
    rfl
  | cons row rows ih =>
    match row, rows', h with
    | .text content, .text content' :: _, h =>
      obtain ⟨hcontent, -⟩ := List.cons.inj h
      simpa [bare] using hcontent
    | .text _, .blank :: _, h => cases (List.cons.inj h).1
    | .blank, .text _ :: _, h => cases (List.cons.inj h).1
    | .blank, .blank :: rest, h => exact @ih rest (List.cons.inj h).2

/-- **Indentation is not seen.** -/
theorem map_bare_indent (rows : List Row) : (indent rows).map bare = rows.map bare := by
  rw [indent, List.map_map]
  refine List.map_congr_left fun row _ => ?_
  match row with
  | .blank => rfl
  | .text content =>
    have hstep : Text.AllBlank step := Text.allBlank_replicate 2
    show bare (if content.isEmpty then .text content else .text (step ++ content)) = _
    split
    · rfl
    · rw [bare, bare, Text.trim_append_of_blank hstep]

/-! ## Levels -/

/-- A text some levels to the right. -/
def shift (level : Nat) (t : Text) : Text := List.replicate (2 * level) ' ' ++ t

@[simp] theorem shift_zero (t : Text) : shift 0 t = t := rfl

theorem shift_shift (m n : Nat) (t : Text) : shift m (shift n t) = shift (m + n) t := by
  rw [shift, shift, shift, ← List.append_assoc, List.replicate_append_replicate, Nat.mul_add]

@[simp] theorem length_shift (level : Nat) (t : Text) :
    (shift level t).length = 2 * level + t.length := by
  simp [shift]

@[simp] theorem mem_shift {level : Nat} {t : Text} {c : Char} (hc : c ≠ ' ') :
    c ∈ shift level t ↔ c ∈ t := by
  simp [shift, hc]

theorem indent_text {t : Text} (ht : t ≠ []) (rows : List Row) :
    indent (.text t :: rows) = .text (shift 1 t) :: indent rows := by
  show (if t.isEmpty then Row.text t else .text (step ++ t)) :: indent rows = _
  rw [if_neg (by simpa using ht)]
  rfl

@[simp] theorem indent_append (rows rows' : List Row) :
    indent (rows ++ rows') = indent rows ++ indent rows' := List.map_append

/-! ## Written rows are read back -/

/-- No row holds a line end. -/
def OneLine (rows : List Row) : Prop := ∀ content, .text content ∈ rows → '\n' ∉ content

@[simp] theorem oneLine_nil : OneLine [] := by simp [OneLine]

@[simp] theorem oneLine_blank {rows : List Row} : OneLine (.blank :: rows) ↔ OneLine rows := by
  simp [OneLine]

@[simp] theorem oneLine_text {content : Text} {rows : List Row} :
    OneLine (.text content :: rows) ↔ '\n' ∉ content ∧ OneLine rows := by
  simp [OneLine]

@[simp] theorem oneLine_append {rows rows' : List Row} :
    OneLine (rows ++ rows') ↔ OneLine rows ∧ OneLine rows' := by
  constructor
  · intro h
    exact ⟨fun t ht => h t (List.mem_append_left _ ht),
      fun t ht => h t (List.mem_append_right _ ht)⟩
  · rintro ⟨h, h'⟩ t ht
    rcases List.mem_append.1 ht with ht | ht
    · exact h t ht
    · exact h' t ht

theorem oneLine_flatMap {α : Type} {rows : α → List Row} {as : List α} :
    OneLine (as.flatMap rows) ↔ ∀ a ∈ as, OneLine (rows a) := by
  induction as with
  | nil => simp
  | cons a as ih => simp [ih]

theorem oneLine_map_text {texts : List Text} :
    OneLine (texts.map .text) ↔ ∀ t ∈ texts, '\n' ∉ t := by
  simp [OneLine]

theorem OneLine.indent {rows : List Row} (h : OneLine rows) : OneLine (indent rows) := by
  intro t ht
  obtain ⟨row, hrow, heq⟩ := List.mem_map.1 ht
  match row with
  | .blank => cases heq
  | .text content =>
    have hc := h content hrow
    by_cases he : content.isEmpty = true
    · simp only [he, if_true, Row.text.injEq] at heq
      exact heq ▸ hc
    · simp only [he, Bool.false_eq_true, if_false, Row.text.injEq] at heq
      subst heq
      simp [step, hc]

theorem lays_consolidateFrom (afterBlank : Bool) (rows : List Row) :
    Lays rows ((consolidateFrom afterBlank rows).map (fun row => row.line.trim) ++ [[]]) := by
  induction rows generalizing afterBlank with
  | nil => exact .done (by simp [consolidateFrom])
  | cons row rows ih =>
    cases row with
    | text content =>
      simp only [consolidateFrom, List.map_cons, line, Text.trim_trimEnd, List.cons_append]
      exact .text (ih false)
    | blank =>
      -- a blank row is dropped behind another one and at the end, and else it is one line
      unfold consolidateFrom
      split
      · exact .gap (ih true)
      · have h := ih true
        split
        · rename_i hnil
          rw [hnil] at h
          exact .gap h
        · exact .blank (.gap h)

theorem lays_lines (rows : List Row) : Lays rows (rows.map (fun row => row.line.trim) ++ [[]]) := by
  induction rows with
  | nil => exact .done (by simp)
  | cons row rows ih =>
    cases row with
    | text content =>
      simp only [List.map_cons, line, Text.trim_trimEnd, List.cons_append]
      exact .text ih
    | blank => exact .blank (.gap ih)

theorem mem_of_mem_consolidateFrom {afterBlank : Bool} {rows : List Row} {content : Text}
    (h : .text content ∈ consolidateFrom afterBlank rows) : .text content ∈ rows := by
  induction rows generalizing afterBlank with
  | nil => simp [consolidateFrom] at h
  | cons row rows ih =>
    cases row with
    | text content' =>
      simp only [consolidateFrom, List.mem_cons] at h
      rcases h with h | h
      · exact h ▸ List.mem_cons_self
      · exact List.mem_cons_of_mem _ (ih h)
    | blank =>
      unfold consolidateFrom at h
      split at h
      · exact List.mem_cons_of_mem _ (ih h)
      · split at h
        · simp at h
        · rcases List.mem_cons.1 h with h | h
          · cases h
          · exact List.mem_cons_of_mem _ (ih h)

/-- What is trimmed off at the end of a row adds no line end. -/
theorem OneLine.not_mem_line {rows : List Row} (h : OneLine rows) {row : Row} (hrow : row ∈ rows) :
    '\n' ∉ row.line := by
  match row with
  | .blank => simp [line]
  | .text content =>
    intro hmem
    obtain ⟨b, hb, -⟩ := Text.exists_trimEnd content
    refine h content hrow ?_
    rw [hb]
    exact List.mem_append_left _ hmem

theorem splitOn_render {rows : List Row} (h : OneLine rows) :
    (render rows).splitOn '\n' = rows.map line ++ [[]] := by
  induction rows with
  | nil => rfl
  | cons row rows ih =>
    have hrow : '\n' ∉ row.line := h.not_mem_line List.mem_cons_self
    have hrows : OneLine rows := fun t ht => h t (List.mem_cons_of_mem _ ht)
    show ((row.line ++ ['\n']) ++ render rows).splitOn '\n' = _
    rw [List.append_assoc, List.singleton_append,
      List.splitOn_append_cons_self_of_not_mem hrow, ih hrows]
    rfl

/-- The trimmed lines of written rows. -/
theorem map_trimmed_split_render {rows : List Row} (h : OneLine rows) :
    (Line.split (render rows)).map Line.trimmed = rows.map (fun row => row.line.trim) ++ [[]] := by
  rw [Line.map_trimmed_split, splitOn_render h, List.map_append, List.map_map]
  rfl

/-- **Written rows are read back as lines of theirs**, without their superfluous blank lines. -/
theorem lays_split_render {rows : List Row} (h : OneLine rows) :
    Lays rows ((Line.split (render (consolidate rows))).map Line.trimmed) := by
  have hone : OneLine (consolidate rows) := fun t ht => h t (mem_of_mem_consolidateFrom ht)
  rw [map_trimmed_split_render hone]
  exact lays_consolidateFrom true rows

/-- **Written rows are read back as lines of theirs**, with all their blank lines. -/
theorem lays_split_render_all {rows : List Row} (h : OneLine rows) :
    Lays rows ((Line.split (render rows)).map Line.trimmed) := by
  rw [map_trimmed_split_render h]
  exact lays_lines rows

end PlainSpec.Row
