import PlainSpec.Grammar.Gherkin
import PlainSpec.Grammar.ReqsML
import PlainSpec.Document.Same
import PlainSpec.Proofs.OrderedMap
import PlainSpec.Proofs.Parser.Outcome

/-!
# Documents and the lines they were read from

Rows, statements, templates and faults carry numbers of lines.  `relabel f` changes these numbers
and nothing else.  No check of a table or of a template looks at a number of a line, and no value
depends on one: reading commutes with relabelling.

## Main definitions

* `TableRow.relabel`, `Statement.relabel`, `Requirement.relabel`, …: other numbers of lines.

## Main results

* `Grammar.readMatrix_relabel`, `Grammar.readTable_relabel`, `Grammar.readKeyValues_relabel`,
  `Grammar.readList_relabel`: data do not depend on lines.
* `Template.expand_relabel`: nor do the examples of a template.
* `Document.sameAs_of_relabel_eq`: documents that differ in lines only are the same.
-/

namespace PlainSpec

/-! ## Other numbers of lines -/

/-- The row on another line. -/
def TableRow.relabel (f : Nat → Nat) (row : TableRow) : TableRow := { row with line := f row.line }

/-- The row on another line. -/
def TemplateRow.relabel (f : Nat → Nat) (row : TemplateRow) : TemplateRow :=
  { row with line := f row.line }

/-- The line of a statement on another line. -/
def Heading.relabel (f : Nat → Nat) (h : Heading) : Heading := { h with line := f h.line }

/-- The statement on another line. -/
def Statement.relabel (f : Nat → Nat) (s : Statement) : Statement :=
  { s with line := s.line.map f }

/-- The template on other lines. -/
def ExampleSet.relabel (f : Nat → Nat) (set : ExampleSet) : ExampleSet :=
  { set with
    statements := set.statements.map (Statement.relabel f)
    line := set.line.map f }

/-- The example on other lines. -/
def Example.relabel (f : Nat → Nat) (e : Example) : Example :=
  { e with
    statements := e.statements.map (Statement.relabel f)
    exampleSet := e.exampleSet.map (ExampleSet.relabel f) }

/-- The requirement on other lines. -/
def Requirement.relabel (f : Nat → Nat) (r : Requirement) : Requirement :=
  { r with examples := r.examples.map (Example.relabel f) }

/-- The document on other lines. -/
def Document.relabel (f : Nat → Nat) (d : Document) : Document :=
  { d with requirements := d.requirements.map (Requirement.relabel f) }

/-- The fault on another line. -/
def Invalid.relabel (f : Nat → Nat) (i : Invalid) : Invalid := { i with line? := i.line?.map f }

/-- The non-empty list with every element changed. -/
def Several.map {α β : Type} (f : α → β) (s : Several α) : Several β := ⟨f s.head, s.tail.map f⟩

theorem Several.map_id {α : Type} : Several.map (id : α → α) = id := by
  funext s
  rw [Several.map, List.map_id, id, id]

@[simp] theorem Several.toList_map {α β : Type} (f : α → β) (s : Several α) :
    (s.map f).toList = s.toList.map f := rfl

theorem Several.toList_inj {α : Type} {s t : Several α} : s.toList = t.toList ↔ s = t := by
  cases s; cases t; simp [Several.toList]

@[simp] theorem TableRow.cells_relabel (f : Nat → Nat) (row : TableRow) :
    (row.relabel f).cells = row.cells := rfl

@[simp] theorem TableRow.line_relabel (f : Nat → Nat) (row : TableRow) :
    (row.relabel f).line = f row.line := rfl

theorem Statement.relabel_eq_iff {f : Nat → Nat} {a b : Statement} :
    a.relabel f = b.relabel f ↔
      a.comments = b.comments ∧ a.kind = b.kind ∧ a.description = b.description ∧
        a.data = b.data ∧ a.line.map f = b.line.map f := by
  cases a; cases b; simp [relabel]

/-! ### The same numbers of lines -/

@[simp] theorem Statement.relabel_id : Statement.relabel id = id := by
  funext s
  simp [Statement.relabel]

@[simp] theorem ExampleSet.relabel_id : ExampleSet.relabel id = id := by
  funext set
  simp [ExampleSet.relabel]

@[simp] theorem Example.relabel_id : Example.relabel id = id := by
  funext e
  simp [Example.relabel]

@[simp] theorem Requirement.relabel_id : Requirement.relabel id = id := by
  funext r
  simp [Requirement.relabel]

@[simp] theorem Document.relabel_id : Document.relabel id = id := by
  funext d
  simp [Document.relabel]

@[simp] theorem Invalid.relabel_whole (f : Nat → Nat) (fault : Fault) :
    (Invalid.whole fault).relabel f = .whole fault := rfl

@[simp] theorem Invalid.relabel_onLine (f : Nat → Nat) (line : Nat) (fault : Fault) :
    (Invalid.onLine line fault).relabel f = .onLine (f line) fault := rfl

/-! ## Data do not depend on lines -/

namespace Grammar

variable (f : Nat → Nat)

theorem columnsFault?_relabel (block : Block) (rows : Several TableRow) :
    columnsFault? block (rows.map (TableRow.relabel f)) =
      (columnsFault? block rows).map (Invalid.relabel f) := by
  simp only [columnsFault?, Several.map, List.find?_map, Option.map_map]
  rfl

theorem separatorFault?_relabel (dialect : Dialect) (block : Block) (rows : Several TableRow) :
    separatorFault? dialect block (rows.map (TableRow.relabel f)) =
      (separatorFault? dialect block rows).map (Invalid.relabel f) := by
  obtain ⟨head, tail⟩ := rows
  cases dialect with
  | gherkin => rfl
  | reqsml =>
    cases tail with
    | nil => rfl
    | cons row tail =>
      by_cases h : row.cells.all isSeparator = true
      · simp [separatorFault?, Several.map, h]
      · simp [separatorFault?, Several.map, h]

theorem repeatFault?_relabel (block : Block) (line : Nat) (names : List Text) :
    repeatFault? block (f line) names =
      (repeatFault? block line names).map (Invalid.relabel f) := by
  simp only [repeatFault?, Option.map_map]
  rfl

theorem matrixFault?_relabel (dialect : Dialect) (rows : Several TableRow) :
    matrixFault? dialect (rows.map (TableRow.relabel f)) =
      (matrixFault? dialect rows).map (Invalid.relabel f) := by
  unfold matrixFault?
  rw [separatorFault?_relabel, columnsFault?_relabel]
  simp only [Several.toList_map, List.length_map]
  simp only [Several.map, TableRow.cells_relabel, TableRow.line_relabel, repeatFault?_relabel]
  split
  · rfl
  · rw [Option.map_or, Option.map_or]
    split <;> rfl

theorem tableFault?_relabel (dialect : Dialect) (rows : Several TableRow) :
    tableFault? dialect (rows.map (TableRow.relabel f)) =
      (tableFault? dialect rows).map (Invalid.relabel f) := by
  unfold tableFault?
  rw [separatorFault?_relabel, columnsFault?_relabel]
  simp only [Several.toList_map, List.length_map]
  simp only [Several.map, TableRow.cells_relabel, TableRow.line_relabel, repeatFault?_relabel]
  split
  · rfl
  · split
    · rfl
    · rw [Option.map_or, Option.map_or]

theorem enterRows_relabel (columns : List Text) (rows : List TableRow)
    (entered : OrderedMap Text (OrderedMap Text Text)) :
    enterRows columns (rows.map (TableRow.relabel f)) entered =
      (enterRows columns rows entered).mapError (Invalid.relabel f) := by
  induction rows generalizing entered with
  | nil => rfl
  | cons row rows ih =>
    simp only [List.map_cons, enterRows, TableRow.cells_relabel, TableRow.line_relabel]
    split
    · exact ih entered
    · split
      · rfl
      · exact ih _

theorem valueRows_relabel (dialect : Dialect) (rows : Several TableRow) :
    valueRows dialect (rows.map (TableRow.relabel f)) =
      (valueRows dialect rows).map (TableRow.relabel f) := by
  simp [valueRows, List.map_drop]

/-- **A matrix does not depend on lines.** -/
theorem readMatrix_relabel (dialect : Dialect) (rows : Several TableRow) :
    readMatrix dialect (rows.map (TableRow.relabel f)) =
      (readMatrix dialect rows).mapError (Invalid.relabel f) := by
  unfold readMatrix
  rw [matrixFault?_relabel, valueRows_relabel, enterRows_relabel]
  cases matrixFault? dialect rows with
  | some invalid => rfl
  | none =>
    simp only [Option.map_none, Several.map, TableRow.cells_relabel]
    cases enterRows rows.head.cells.tail (valueRows dialect rows) .empty <;> rfl

/-- **A table does not depend on lines.** -/
theorem readTable_relabel (dialect : Dialect) (rows : Several TableRow) :
    readTable dialect (rows.map (TableRow.relabel f)) =
      (readTable dialect rows).mapError (Invalid.relabel f) := by
  unfold readTable
  rw [tableFault?_relabel, valueRows_relabel]
  cases tableFault? dialect rows with
  | some invalid => rfl
  | none => simp [Several.map]

/-- A check of each member in turn, when the check commutes with a change of the members. -/
theorem mapM_relabel {α β : Type} (g : α → α) (check : α → Except Invalid β)
    (h : ∀ a, check (g a) = (check a).mapError (Invalid.relabel f)) (as : List α) :
    (as.map g).mapM check = (as.mapM check).mapError (Invalid.relabel f) := by
  induction as with
  | nil => rfl
  | cons a as ih =>
    simp only [List.map_cons, List.mapM_cons, h, ih]
    cases check a with
    | error i => rfl
    | ok b => cases as.mapM check <;> rfl

theorem singleCell_relabel (block : Block) (row : TableRow) :
    singleCell block (row.relabel f) = (singleCell block row).mapError (Invalid.relabel f) := by
  simp only [singleCell, TableRow.cells_relabel]
  split <;> rfl

/-- **Key-value pairs do not depend on lines.** -/
theorem readKeyValues_relabel (rows : Several TableRow) :
    readKeyValues (rows.map (TableRow.relabel f)) =
      (readKeyValues rows).mapError (Invalid.relabel f) := by
  unfold readKeyValues
  rw [Several.toList_map, mapM_relabel f _ _ (singleCell_relabel f .keyValues)]
  cases rows.toList.mapM (singleCell .keyValues) with
  | error i => rfl
  | ok cells =>
    have hpair (pair : TableRow × Text) :
        keyValueOf (pair.1.relabel f) pair.2 =
          (keyValueOf pair.1 pair.2).mapError (Invalid.relabel f) := by
      unfold keyValueOf
      split <;> rfl
    have hzip : (rows.toList.map (TableRow.relabel f)).zip cells =
        (rows.toList.zip cells).map fun pair => (pair.1.relabel f, pair.2) := by
      rw [List.zip_map_left]
      rfl
    simp only [Except.mapError_ok]
    have hpairs := mapM_relabel f (fun pair : TableRow × Text => (pair.1.relabel f, pair.2))
      (fun pair => keyValueOf pair.1 pair.2) hpair (rows.toList.zip cells)
    rw [hzip, hpairs]
    cases (rows.toList.zip cells).mapM fun pair : TableRow × Text =>
      keyValueOf pair.1 pair.2 <;> rfl

/-- **A list does not depend on lines.** -/
theorem readList_relabel (rows : Several TableRow) :
    readList (rows.map (TableRow.relabel f)) = (readList rows).mapError (Invalid.relabel f) := by
  unfold readList
  rw [Several.toList_map, mapM_relabel f _ _ (singleCell_relabel f .list)]
  cases rows.toList.mapM (singleCell .list) <;> rfl

end Grammar

/-! ## Examples do not depend on lines -/

section Template

variable (f : Nat → Nat)

@[simp] theorem Statement.texts_relabel (s : Statement) : (s.relabel f).texts = s.texts := rfl

@[simp] theorem Statement.tokens_relabel (s : Statement) : (s.relabel f).tokens = s.tokens := rfl

@[simp] theorem ExampleSet.tokens_relabel (set : ExampleSet) :
    (set.relabel f).tokens = set.tokens := by
  simp [ExampleSet.tokens, ExampleSet.relabel, List.flatMap_map]

namespace Template

theorem rowFault?_relabel (header row : TemplateRow) :
    rowFault? (header.relabel f) (row.relabel f) =
      (rowFault? header row).map (Invalid.relabel f) := by
  show (if row.cells.length ≠ header.cells.length then _ else
    if hasDescription header && row.cells.head? = some [] then _ else _) =
      Option.map _ (rowFault? _ _)
  unfold rowFault?
  split
  · rfl
  · split <;> rfl

theorem headerFault?_relabel (header : TemplateRow) :
    headerFault? (header.relabel f) = (headerFault? header).map (Invalid.relabel f) := by
  have hmetadata : (header.relabel f).hasMetadata = header.hasMetadata := rfl
  have hcolumns : columns (header.relabel f) = columns header := rfl
  have hcells : (header.relabel f).cells = header.cells := rfl
  unfold headerFault?
  rw [hmetadata, hcolumns, hcells]
  split
  · rfl
  · split
    · rfl
    · split
      · rfl
      · split
        · rfl
        · rw [Option.map_map]
          rfl

theorem matchFault?_relabel (set : ExampleSet) (header : TemplateRow) :
    matchFault? (set.relabel f) (header.relabel f) =
      (matchFault? set header).map (Invalid.relabel f) := by
  simp only [matchFault?, ExampleSet.tokens_relabel]
  have hcolumns : columns (header.relabel f) = columns header := rfl
  rw [hcolumns]
  split <;> rfl

theorem fault?_relabel (set : ExampleSet) (header : TemplateRow) (rows : List TemplateRow) :
    fault? (set.relabel f) (header.relabel f) (rows.map (TemplateRow.relabel f)) =
      (fault? set header rows).map (Invalid.relabel f) := by
  have hrows : (rows.map (TemplateRow.relabel f)).findSome? (rowFault? (header.relabel f)) =
      (rows.findSome? (rowFault? header)).map (Invalid.relabel f) := by
    induction rows with
    | nil => rfl
    | cons row rows ih =>
      simp only [List.map_cons, List.findSome?_cons, rowFault?_relabel, ih]
      cases rowFault? header row <;> rfl
  simp only [fault?, ExampleSet.tokens_relabel, headerFault?_relabel, matchFault?_relabel, hrows]
  split
  · rfl
  · rw [Option.map_or, Option.map_or]

/-- Replacing tokens and relabelling concern different parts of a statement. -/
theorem foldl_replaceInStatement_relabel (entries : List (Text × Text))
    (statements : List Statement) :
    entries.foldl (fun statements (name, value) =>
        statements.map (replaceInStatement name value)) (statements.map (Statement.relabel f)) =
      (entries.foldl (fun statements (name, value) =>
        statements.map (replaceInStatement name value)) statements).map (Statement.relabel f) := by
  induction entries generalizing statements with
  | nil => rfl
  | cons entry entries ih =>
    obtain ⟨name, value⟩ := entry
    have hcomm : (statements.map (Statement.relabel f)).map (replaceInStatement name value) =
        (statements.map (replaceInStatement name value)).map (Statement.relabel f) := by
      rw [List.map_map, List.map_map]
      rfl
    rw [List.foldl_cons, List.foldl_cons]
    simp only [hcomm]
    exact ih _

theorem expandRow_relabel (set : ExampleSet) (header row : TemplateRow) :
    expandRow (set.relabel f) (header.relabel f) (row.relabel f) =
      (expandRow set header row).relabel f := by
  have hstatements := foldl_replaceInStatement_relabel f (values header row).entries set.statements
  have hvalues : values (header.relabel f) (row.relabel f) = values header row := rfl
  have hdescription : rowDescription (header.relabel f) (row.relabel f) =
      rowDescription header row :=
    rfl
  simp only [expandRow, hvalues, hdescription, Example.relabel, ← hstatements]
  rfl

/-- **The examples of a template do not depend on lines.** -/
theorem expand_relabel (set : ExampleSet) (header : TemplateRow) (rows : List TemplateRow) :
    expand (set.relabel f) (header.relabel f) (rows.map (TemplateRow.relabel f)) =
      ((expand set header rows).map (List.map (Example.relabel f))).mapError
        (Invalid.relabel f) := by
  unfold expand
  rw [fault?_relabel]
  cases fault? set header rows with
  | some invalid => rfl
  | none =>
    simp only [Option.map_none, Except.map, Except.mapError_ok, List.map_map]
    congr 2
    funext row
    exact expandRow_relabel f set header row

end Template

namespace Grammar

theorem templated?_relabel (statements : List Statement) :
    templated? (statements.map (Statement.relabel f)) =
      (templated? statements).map (Statement.relabel f) := by
  simp only [templated?, List.find?_map]
  rfl

/-- Whether a statement is a template does not depend on its place. -/
theorem isSome_templated?_congr {f : Nat → Nat} {statements statements' : List Statement}
    (h : statements.map (Statement.relabel f) = statements'.map (Statement.relabel f)) :
    (templated? statements).isSome = (templated? statements').isSome := by
  have hsome := congrArg (fun s => (templated? s).isSome) h
  simpa only [templated?_relabel, Option.isSome_map] using hsome

/-- A statement without a line is reported against line zero, which has to stay where it is. -/
theorem tokenFault?_relabel {f : Nat → Nat} (h₀ : f 0 = 0) (dialect : Dialect)
    (statements : List Statement) :
    tokenFault? dialect (statements.map (Statement.relabel f)) =
      (tokenFault? dialect statements).map (Invalid.relabel f) := by
  -- the same statement is found, and it is reported by its line
  simp only [tokenFault?, templated?_relabel, Option.map_map]
  congr 1
  funext s
  have hline : (s.line.map f).getD 0 = f (s.line.getD 0) := by
    cases s.line <;> simp [h₀]
  simp [Statement.relabel, hline]

theorem ReqsML.expandRows_relabel (set : ExampleSet) (rows : List TemplateRow) :
    expandRows (set.relabel f) (rows.map (TemplateRow.relabel f)) =
      ((expandRows set rows).map (List.map (Example.relabel f))).mapError (Invalid.relabel f) := by
  match rows with
  | [] => rfl
  | [_] => rfl
  | [_, _] => rfl
  | header :: separator :: value :: values =>
    have := Template.expand_relabel f set header (value :: values)
    simp only [List.map_cons] at this ⊢
    simp only [expandRows]
    by_cases h : separator.cells.all isSeparator = true
    · have h' : (separator.relabel f).cells.all isSeparator = true := h
      rw [if_pos h, if_pos h', this]
    · have h' : ¬ (separator.relabel f).cells.all isSeparator = true := h
      rw [if_neg h, if_neg h']
      rfl

end Grammar

end Template

/-! ## What is said does not depend on lines -/

namespace OrderedMap

variable {α β : Type} [DecidableEq α]

theorem agreesBy_refl {same : β → β → Bool} (h : ∀ b, same b b = true) (m : OrderedMap α β) :
    m.agreesBy same m = true := by
  simp only [agreesBy, beq_self_eq_true, Bool.true_and, List.all_eq_true]
  intro entry hentry
  obtain ⟨key, value⟩ := entry
  rw [get?_of_mem m hentry]
  exact h value

end OrderedMap

theorem sameTexts_refl (m : OrderedMap Text Text) : sameTexts m m = true :=
  m.agreesBy_refl fun _ => beq_self_eq_true _

theorem isEqv_refl {α : Type} {same : α → α → Bool} (h : ∀ a, same a a = true) (as : List α) :
    as.isEqv as same = true := by
  induction as with
  | nil => rfl
  | cons a as ih => simp [List.isEqv, h a, ih]

theorem sameOption_refl {α : Type} {same : α → α → Bool} (h : ∀ a, same a a = true) (a : Option α) :
    sameOption same a a = true := by
  cases a with
  | none => rfl
  | some a => exact h a

/-- Lists whose members have equal views are equal up to the view. -/
theorem isEqv_of_map_eq {α γ : Type} {view : α → γ} {same : α → α → Bool}
    (h : ∀ a b, view a = view b → same a b = true) {as bs : List α}
    (heq : as.map view = bs.map view) : as.isEqv bs same = true := by
  induction as generalizing bs with
  | nil => cases bs <;> simp_all [List.isEqv]
  | cons a as ih =>
    cases bs with
    | nil => simp at heq
    | cons b bs =>
      simp only [List.map_cons, List.cons.injEq] at heq
      simp [List.isEqv, h a b heq.1, ih heq.2]

theorem sameOption_of_map_eq {α γ : Type} {view : α → γ} {same : α → α → Bool}
    (h : ∀ a b, view a = view b → same a b = true) {a b : Option α}
    (heq : a.map view = b.map view) : sameOption same a b = true := by
  cases a <;> cases b <;> simp_all [sameOption]

theorem Data.sameAs_refl (d : Data) : d.sameAs d = true := by
  cases d with
  | text content => exact beq_self_eq_true _
  | list items => exact beq_self_eq_true _
  | keyValues pairs => exact sameTexts_refl pairs
  | table rows => exact isEqv_refl sameTexts_refl rows
  | matrix rows => exact rows.agreesBy_refl sameTexts_refl

theorem Statement.sameAs_of_relabel_eq {f : Nat → Nat} {a b : Statement}
    (h : a.relabel f = b.relabel f) : a.sameAs b = true := by
  obtain ⟨hcomments, hkind, hdescription, hdata, -⟩ := relabel_eq_iff.1 h
  simp only [sameAs, hcomments, hkind, hdescription, hdata, beq_self_eq_true, Bool.true_and]
  exact sameOption_refl Data.sameAs_refl _

theorem ExampleSet.sameAs_of_relabel_eq {f : Nat → Nat} {a b : ExampleSet}
    (h : a.relabel f = b.relabel f) : a.sameAs b = true := by
  obtain ⟨comments, identifier, labels, description, statements, line⟩ := a
  obtain ⟨comments', identifier', labels', description', statements', line'⟩ := b
  simp only [relabel, mk.injEq] at h
  obtain ⟨rfl, rfl, rfl, rfl, hs, -⟩ := h
  simp only [sameAs, beq_self_eq_true, Bool.true_and]
  exact isEqv_of_map_eq (fun _ _ => Statement.sameAs_of_relabel_eq) hs

theorem Specification.sameAs_refl (s : Specification) : s.sameAs s = true := by
  simp [sameAs, sameTexts_refl]

theorem Example.sameAs_of_relabel_eq {f : Nat → Nat} {a b : Example}
    (h : a.relabel f = b.relabel f) : a.sameAs b = true := by
  obtain ⟨comments, identifier, labels, explicitLabels, description, statements, set, spec⟩ := a
  obtain ⟨comments', identifier', labels', explicitLabels', description', statements',
    set', spec'⟩ := b
  simp only [relabel, mk.injEq] at h
  obtain ⟨rfl, rfl, rfl, rfl, rfl, hs, hset, rfl⟩ := h
  have hstatements := isEqv_of_map_eq (fun _ _ => Statement.sameAs_of_relabel_eq) hs
  have hsets := sameOption_of_map_eq (fun _ _ => ExampleSet.sameAs_of_relabel_eq) hset
  have hspecs : sameOption Specification.sameAs spec spec = true :=
    sameOption_refl Specification.sameAs_refl spec
  simp [sameAs, hstatements, hsets, hspecs]

theorem Requirement.sameAs_of_relabel_eq {f : Nat → Nat} {a b : Requirement}
    (h : a.relabel f = b.relabel f) : a.sameAs b = true := by
  obtain ⟨comments, identifier, labels, explicitLabels, description, examples⟩ := a
  obtain ⟨comments', identifier', labels', explicitLabels', description', examples'⟩ := b
  simp only [relabel, mk.injEq] at h
  obtain ⟨rfl, rfl, rfl, rfl, rfl, he⟩ := h
  simp only [sameAs, beq_self_eq_true, Bool.true_and]
  exact isEqv_of_map_eq (fun _ _ => Example.sameAs_of_relabel_eq) he

/-- **Documents that differ in lines only are the same.** -/
theorem Document.sameAs_of_relabel_eq {f : Nat → Nat} {a b : Document}
    (h : a.relabel f = b.relabel f) : a.sameAs b = true := by
  obtain ⟨source, comments, labels, description, dialect, requirements⟩ := a
  obtain ⟨source', comments', labels', description', dialect', requirements'⟩ := b
  simp only [relabel, mk.injEq] at h
  obtain ⟨rfl, rfl, rfl, rfl, rfl, hr⟩ := h
  have hrequirements : sameRequirements requirements requirements' = true :=
    isEqv_of_map_eq (fun _ _ => Requirement.sameAs_of_relabel_eq) hr
  simp [sameAs, Path.sameAs, hrequirements]

end PlainSpec
