import PlainSpec.Proofs.Document.WellFormed
import PlainSpec.Proofs.Template.Substitution

/-!
# The shape of an expanded template

Tokens are replaced in every text of a template, and nothing else is: an example has the statements
of its template, with the same kinds, comments and lines and with data of the same kinds.

Two things are checked of a template and not of its examples.  A description is not empty, but it
becomes empty when it is made of tokens whose cells are empty.  Names of columns and of rows are
distinct, but two of them may become equal; then the later entry takes the place of the earlier one,
and a column or a row is lost.  Nothing else changes the shape: data have as many entries as before
exactly if no two keys of one map become equal.

## Main definitions

* `Data.Alike`, `Data.SameShape`: data of one kind, and with as many entries everywhere.
* `Data.KeysApart`: no two keys of one map become equal.
* `Statement.ExpandsTo`: what is kept of a statement by the values of a row.

## Main results

* `Template.sameShape_putInData_iff`: when data keep their shape.
* `Template.vanishes_of_putIn`, `Template.substitute_eq_nil`: when a description becomes empty.
* `Document.expandsTo_of_parse`: what is kept of a template in every document that is read.
-/

namespace PlainSpec

/-! ## Data of one shape -/

/-- Data of one kind.  Lists have as many items, and tables as many rows. -/
inductive Data.Alike : Data → Data → Prop where
  | text (t t' : Text) : Alike (.text t) (.text t')
  | list {items items' : List Text} (h : items.length = items'.length) :
      Alike (.list items) (.list items')
  | keyValues (pairs pairs' : OrderedMap Text Text) : Alike (.keyValues pairs) (.keyValues pairs')
  | table {rows rows' : List (OrderedMap Text Text)} (h : rows.length = rows'.length) :
      Alike (.table rows) (.table rows')
  | matrix (rows rows' : OrderedMap Text (OrderedMap Text Text)) :
      Alike (.matrix rows) (.matrix rows')

/-- The number of entries of each map in data: of pairs, or of the columns of each row. -/
def Data.widths : Data → List Nat
  | .text _ => []
  | .list _ => []
  | .keyValues pairs => [pairs.size]
  | .table rows => rows.map OrderedMap.size
  | .matrix rows => rows.values.map OrderedMap.size

/-- Data of one kind, with as many items, pairs, rows, and columns in each row. -/
structure Data.SameShape (d d' : Data) : Prop where
  alike : d.Alike d'
  widths_eq : d'.widths = d.widths

/-- No two keys of one map become equal. -/
def Data.KeysApart (change : Text → Text) : Data → Prop
  | .text _ => True
  | .list _ => True
  | .keyValues pairs => (pairs.keys.map change).Nodup
  | .table rows => ∀ row ∈ rows, (row.keys.map change).Nodup
  | .matrix rows => (rows.keys.map change).Nodup ∧ ∀ row ∈ rows.values, (row.keys.map change).Nodup

namespace Template

/-! ## Columns put into data -/

/-- All columns put into the keys and the values of a map, one after the other. -/
def putInMap (entries : List (Text × Text)) (m : OrderedMap Text Text) : OrderedMap Text Text :=
  entries.foldl (fun m entry => changeMap (replace entry.1 entry.2) m) m

/-- All columns put into the names and the rows of a matrix, one after the other. -/
def putInRows (entries : List (Text × Text)) (m : OrderedMap Text (OrderedMap Text Text)) :
    OrderedMap Text (OrderedMap Text Text) :=
  entries.foldl
    (fun m entry => m.mapEntries (replace entry.1 entry.2) (changeMap (replace entry.1 entry.2))) m

variable (entries : List (Text × Text))

theorem putInData_text (t : Text) : putInData entries (.text t) = .text (putIn entries t) := by
  induction entries generalizing t with
  | nil => rfl
  | cons entry entries ih => exact ih _

theorem putInData_list (items : List Text) :
    putInData entries (.list items) = .list (items.map (putIn entries)) := by
  induction entries generalizing items with
  | nil => simp [putInData]
  | cons entry entries ih =>
    refine (ih _).trans ?_
    rw [List.map_map]
    rfl

theorem putInData_keyValues (pairs : OrderedMap Text Text) :
    putInData entries (.keyValues pairs) = .keyValues (putInMap entries pairs) := by
  induction entries generalizing pairs with
  | nil => rfl
  | cons entry entries ih => exact ih _

theorem putInData_table (rows : List (OrderedMap Text Text)) :
    putInData entries (.table rows) = .table (rows.map (putInMap entries)) := by
  induction entries generalizing rows with
  | nil => exact congrArg Data.table (List.map_id rows).symm
  | cons entry entries ih =>
    refine (ih _).trans ?_
    rw [List.map_map]
    rfl

theorem putInData_matrix (rows : OrderedMap Text (OrderedMap Text Text)) :
    putInData entries (.matrix rows) = .matrix (putInRows entries rows) := by
  induction entries generalizing rows with
  | nil => rfl
  | cons entry entries ih => exact ih _

/-- **Pairs and columns are lost exactly when their keys become equal.** -/
theorem size_putInMap (m : OrderedMap Text Text) :
    (putInMap entries m).size = m.size ↔ (m.keys.map (putIn entries)).Nodup :=
  OrderedMap.size_foldl_mapEntries (fun entry : Text × Text => replace entry.1 entry.2)
    (fun entry => replace entry.1 entry.2) entries m

/-- Rows of a matrix are lost exactly when their names become equal. -/
theorem size_putInRows (m : OrderedMap Text (OrderedMap Text Text)) :
    (putInRows entries m).size = m.size ↔ (m.keys.map (putIn entries)).Nodup :=
  OrderedMap.size_foldl_mapEntries (fun entry : Text × Text => replace entry.1 entry.2)
    (fun entry => changeMap (replace entry.1 entry.2)) entries m

/-- Rows of a matrix whose names stay apart are changed one by one. -/
theorem values_putInRows {m : OrderedMap Text (OrderedMap Text Text)}
    (h : (m.keys.map (putIn entries)).Nodup) :
    (putInRows entries m).values = m.values.map (putInMap entries) := by
  have hentries := OrderedMap.entries_foldl_mapEntries
    (fun entry : Text × Text => replace entry.1 entry.2)
    (fun entry => changeMap (replace entry.1 entry.2)) h
  have hrows : (putInRows entries m).entries =
      m.entries.map (Prod.map (putIn entries) (putInMap entries)) := hentries
  rw [OrderedMap.values, hrows, OrderedMap.values, List.map_map, List.map_map]
  rfl

theorem widths_map_iff (rows : List (OrderedMap Text Text)) :
    (rows.map (putInMap entries)).map OrderedMap.size = rows.map OrderedMap.size ↔
      ∀ row ∈ rows, (row.keys.map (putIn entries)).Nodup := by
  rw [List.map_map, List.map_inj_left]
  exact forall₂_congr fun row _ => size_putInMap entries row

/-- Columns leave data of the same kind. -/
theorem alike_putInData (d : Data) : d.Alike (putInData entries d) := by
  cases d with
  | text t => rw [putInData_text]; exact .text _ _
  | list items => rw [putInData_list]; exact .list (by simp)
  | keyValues pairs => rw [putInData_keyValues]; exact .keyValues _ _
  | table rows => rw [putInData_table]; exact .table (by simp)
  | matrix rows => rw [putInData_matrix]; exact .matrix _ _

/-- **Data keep their shape exactly if no two keys of one map become equal.** -/
theorem sameShape_putInData_iff (d : Data) :
    d.SameShape (putInData entries d) ↔ d.KeysApart (putIn entries) := by
  have hwidths : d.SameShape (putInData entries d) ↔ (putInData entries d).widths = d.widths :=
    ⟨Data.SameShape.widths_eq, fun h => ⟨alike_putInData entries d, h⟩⟩
  rw [hwidths]
  cases d with
  | text t =>
    rw [putInData_text]
    exact iff_of_true rfl trivial
  | list items =>
    rw [putInData_list]
    exact iff_of_true rfl trivial
  | keyValues pairs =>
    rw [putInData_keyValues, Data.KeysApart, ← size_putInMap, Data.widths, Data.widths,
      List.singleton_inj]
  | table rows =>
    rw [putInData_table]
    exact widths_map_iff entries rows
  | matrix rows =>
    rw [putInData_matrix, Data.KeysApart, Data.widths, Data.widths]
    constructor
    · intro h
      have hapart : (rows.keys.map (putIn entries)).Nodup := by
        rw [← size_putInRows]
        simpa [OrderedMap.values, OrderedMap.size] using congrArg List.length h
      rw [values_putInRows entries hapart] at h
      exact ⟨hapart, (widths_map_iff entries _).1 h⟩
    · rintro ⟨hapart, hrows⟩
      rw [values_putInRows entries hapart]
      exact (widths_map_iff entries _).2 hrows

/-! ## Descriptions that become empty -/

variable {entries} {t : Text}

theorem replace_ne_nil {name value : Text} (hvalue : value ≠ []) (ht : t ≠ []) :
    replace name value t ≠ [] := by
  obtain ⟨c, rest, rfl⟩ := List.exists_cons_of_ne_nil ht
  unfold replace
  rw [Text.replaceAll]
  split
  · simp [hvalue]
  · exact List.cons_ne_nil _ _

/-- A text stays non-empty if all values are. -/
theorem putIn_ne_nil (hentries : ∀ entry ∈ entries, entry.2 ≠ []) (ht : t ≠ []) :
    putIn entries t ≠ [] := by
  induction entries generalizing t with
  | nil => exact ht
  | cons entry entries ih =>
    obtain ⟨hentry, hrest⟩ := List.forall_mem_cons.1 hentries
    exact ih hrest (replace_ne_nil hentry ht)

/-- A character in front that opens no token stays there. -/
theorem head?_putIn {c : Char} (hc : c ≠ '<') (ht : t.head? = some c) :
    (putIn entries t).head? = some c := by
  induction entries generalizing t with
  | nil => exact ht
  | cons entry entries ih =>
    refine ih ?_
    obtain ⟨rest, rfl⟩ := List.head?_eq_some_iff.1 ht
    have hno : ¬ '<' :: entry.1 ++ ['>'] <+: c :: rest := by
      rintro ⟨after, hafter⟩
      exact hc (List.cons.inj hafter).1.symm
    have hstep : replace entry.1 entry.2 (c :: rest) = c :: replace entry.1 entry.2 rest :=
      Text.replaceAll_cons hno
    exact congrArg List.head? hstep

/-- **A description that becomes empty** begins with a bracket, and some value is empty. -/
theorem vanishes_of_putIn (ht : t ≠ []) (h : putIn entries t = []) :
    t.head? = some '<' ∧ ∃ entry ∈ entries, entry.2 = [] := by
  constructor
  · obtain ⟨c, rest, rfl⟩ := List.exists_cons_of_ne_nil ht
    by_contra hc
    have hhead : (putIn entries (c :: rest)).head? = some c :=
      head?_putIn (fun heq => hc (by rw [heq]; rfl)) rfl
    rw [h] at hhead
    cases hhead
  · by_contra hno
    exact putIn_ne_nil (fun entry hentry hnil => hno ⟨entry, hentry, hnil⟩) ht h

/-- A substituted text is empty exactly if it is made of tokens with empty values. -/
theorem substitute_eq_nil {value : Text → Option Text} :
    substitute value t = [] ↔
      ∀ piece ∈ pieces t, ∃ name, piece.name? = some name ∧ value name = some [] := by
  rw [substitute, List.flatMap_eq_nil_iff]
  refine forall₂_congr fun piece _ => ?_
  cases piece with
  | plain c => simp [fill, Piece.name?]
  | token body =>
    simp only [fill, Piece.name?, Option.some.injEq, exists_eq_left']
    cases value (Piece.trimBrackets body) <;> simp [marker]

/-! ## Statements -/

theorem putInStatement_eq (entries : List (Text × Text)) (s : Statement) :
    putInStatement entries s =
      { s with
        description := putIn entries s.description
        data := s.data.map (putInData entries) } := by
  have hrest : (putInStatement entries s).comments = s.comments ∧
      (putInStatement entries s).kind = s.kind ∧ (putInStatement entries s).line = s.line := by
    induction entries generalizing s with
    | nil => exact ⟨rfl, rfl, rfl⟩
    | cons entry entries ih => exact ih _
  obtain ⟨hcomments, hkind, hline⟩ := hrest
  rw [← description_putInStatement, ← data_putInStatement, ← hcomments, ← hkind, ← hline]

/-- Values of a row in which no marker is found by mistake. -/
theorem quiet_of_values {set : ExampleSet} {header row : TemplateRow} {rows : List TemplateRow}
    (hfits : Fits set header rows) (hrow : StandsBelow header row)
    (h : ∀ value ∈ (values header row).values, Inert (columns header) value) :
    Quiet header row := by
  intro column hcolumn value hvalue
  rw [← get?_values_eq_cellUnder hfits.top hrow.length_eq hcolumn
    (hfits.isName hcolumn).nonempty] at hvalue
  rw [← (cells_row hfits.top hrow.length_eq).1] at hcolumn
  obtain ⟨entry, hentry, rfl⟩ := List.mem_map.1 hcolumn
  rw [(values header row).get?_of_mem hentry] at hvalue
  exact h value (List.mem_map.2 ⟨entry, hentry, Option.some.inj hvalue⟩)

end Template

/-- What is kept of a statement when the values of a row are put into it. -/
structure Statement.ExpandsTo (values : OrderedMap Text Text) (s s' : Statement) : Prop where
  comments : s'.comments = s.comments
  kind : s'.kind = s.kind
  line : s'.line = s.line
  /-- A description only becomes empty if it begins with a bracket and some value is empty. -/
  vanishing : s'.description = [] → s.description.head? = some '<' ∧ [] ∈ values.values
  /-- Where no marker is found by mistake, it becomes empty if it is made of tokens with empty
  values. -/
  vanishes_iff : (∀ value ∈ values.values, Template.Inert values.keys value) →
    Template.Separate values.keys s.description →
    (s'.description = [] ↔ ∀ piece ∈ Template.pieces s.description,
      ∃ name, piece.name? = some name ∧ values.get? name = some [])
  alike : Option.Rel Data.Alike s.data s'.data
  /-- The data keep their shape exactly if no two keys of one map become equal. -/
  shape : Option.Rel Data.SameShape s.data s'.data ↔
    ∀ d, s.data = some d → d.KeysApart (Template.putIn values.entries)

namespace Template

variable {set : ExampleSet} {header row : TemplateRow} {rows : List TemplateRow}

/-- **A statement of a template** and what a row of its table makes of it. -/
theorem expandsTo_putInStatement (hfits : Fits set header rows) (hrow : StandsBelow header row)
    {s : Statement} (hs : s.description ≠ []) :
    s.ExpandsTo (values header row) (putInStatement (values header row).entries s) := by
  have hkeys := (cells_row hfits.top hrow.length_eq).1
  rw [putInStatement_eq]
  refine ⟨rfl, rfl, rfl, fun hnil => ?_, fun hinert hseparate => ?_, ?_, ?_⟩
  · obtain ⟨hhead, entry, hentry, hvalue⟩ := vanishes_of_putIn hs hnil
    exact ⟨hhead, List.mem_map.2 ⟨entry, hentry, hvalue⟩⟩
  · -- here putting in the columns is substitution
    rw [hkeys] at hinert hseparate
    dsimp only
    rw [putIn_values hfits hrow (quiet_of_values hfits hrow hinert) hseparate, substitute_eq_nil]
  · cases hdata : s.data with
    | none => exact .none
    | some d => exact .some (alike_putInData _ d)
  · cases hdata : s.data with
    | none => exact iff_of_true .none nofun
    | some d => simpa using sameShape_putInData_iff (values header row).entries d

end Template

/-- **Expansion keeps the shape of the template**, as far as descriptions do not become empty and
keys do not become equal. -/
theorem Document.expandsTo_of_parse {source : Path} {dialect : Dialect} {text : Text} {d : Document}
    (h : Document.parse source dialect text = .ok d) :
    ∀ r ∈ d.requirements, ∀ e ∈ r.examples, ∀ set, e.exampleSet = some set →
      ∃ spec, e.specification = some spec ∧
        List.Forall₂ (Statement.ExpandsTo spec.values) set.statements e.statements := by
  intro r hr e he set hset
  cases ((Document.originates_of_parse h).2 r hr).origin e he with
  | written hno hrow hne hstatements htokens =>
    rw [hno] at hset
    cases hset
  | @expanded found header row rows hne hwell hfits hrow hfound hstatements hspecification =>
    obtain rfl : found = set := Option.some.inj (hfound.symm.trans hset)
    refine ⟨_, hspecification, ?_⟩
    -- the columns go over all statements one by one, and so over each statement by itself
    rw [hstatements, Template.statements_expandRow_eq, List.forall₂_map_right_iff,
      List.forall₂_same]
    exact fun s hs =>
      Template.expandsTo_putInStatement hfits (hfits.rows row hrow) (hwell s hs).nonempty

/-- A statement with tokens in the header of its table, which stay apart. -/
theorem Document.expandsTo_of_parse_table :
    ∃ d r e set spec, Document.parse ⟨"a".toList⟩ .reqsml
        "Requirement: r\nIf: <a>\n|<a>|<b>|\n|---|---|\n|1|2|\nExamples:\n|a|b|\n|---|---|\n|x|y|".toList =
          .ok d ∧
      r ∈ d.requirements ∧ e ∈ r.examples ∧ e.exampleSet = some set ∧ e.specification = some spec ∧
      e.statements = [⟨none, .condition, "x".toList,
        some (.table [.ofList [("x".toList, "1".toList), ("y".toList, "2".toList)]]), some 2⟩] ∧
      List.Forall₂ (Statement.ExpandsTo spec.values) set.statements e.statements := by
  let set : ExampleSet :=
    { comments := none
      identifier := none
      labels := none
      description := none
      statements := [⟨none, .condition, "<a>".toList,
        some (.table [.ofList [("<a>".toList, "1".toList), ("<b>".toList, "2".toList)]]), some 2⟩]
      line := some 2 }
  let spec : Specification :=
    ⟨none, none, none, none, .ofList [("a".toList, "x".toList), ("b".toList, "y".toList)]⟩
  let e : Example :=
    { comments := none
      identifier := none
      labels := none
      explicitLabels := none
      description := none
      statements := [⟨none, .condition, "x".toList,
        some (.table [.ofList [("x".toList, "1".toList), ("y".toList, "2".toList)]]), some 2⟩]
      exampleSet := some set
      specification := some spec }
  have hparse : Document.parse ⟨"a".toList⟩ .reqsml
      "Requirement: r\nIf: <a>\n|<a>|<b>|\n|---|---|\n|1|2|\nExamples:\n|a|b|\n|---|---|\n|x|y|".toList =
        .ok ⟨⟨"a".toList⟩, none, none, none, .reqsml,
          [⟨none, none, none, none, "r".toList, [e]⟩]⟩ := by
    with_unfolding_all rfl
  obtain ⟨found, hfound, hexpands⟩ :=
    Document.expandsTo_of_parse hparse _ (List.mem_singleton_self _) e
    (List.mem_singleton_self e) set rfl
  obtain rfl : spec = found := Option.some.inj hfound
  exact ⟨_, _, e, set, spec, hparse, List.mem_singleton_self _,
    List.mem_singleton_self e, rfl, rfl, rfl, hexpands⟩

/-- **The shape of a template can get lost.**  An empty cell leaves an empty description, and two
columns with equal cells become one. -/
theorem Document.not_shape_of_parse :
    (∃ d, Document.parse ⟨"a".toList⟩ .reqsml
        "Requirement: r\nIf: <a>\nWhen: <b>\nExamples:\n|a|b|\n|---|---|\n||x|".toList = .ok d ∧
      ∃ r ∈ d.requirements, ∃ e ∈ r.examples, ∃ set, e.exampleSet = some set ∧
        set.statements.map Statement.description = ["<a>".toList, "<b>".toList] ∧
        e.statements.map Statement.description = [[], "x".toList]) ∧
    ∃ d, Document.parse ⟨"a".toList⟩ .reqsml
        "Requirement: r\nIf: t\n|<a>|<b>|\n|---|---|\n|1|2|\nExamples:\n|a|b|\n|---|---|\n|x|x|".toList =
          .ok d ∧
      ∃ r ∈ d.requirements, ∃ e ∈ r.examples, ∃ set, e.exampleSet = some set ∧
        e.statements.map Statement.data = [some (.table [.ofList [("x".toList, "2".toList)]])] ∧
        ¬ List.Forall₂ (fun s s' : Statement => Option.Rel Data.SameShape s.data s'.data)
            set.statements e.statements := by
  let values (first second : Text) : Specification :=
    ⟨none, none, none, none, .ofList [("a".toList, first), ("b".toList, second)]⟩
  let expanded (first second : Text) (template statements : List Statement) : Example :=
    { comments := none
      identifier := none
      labels := none
      explicitLabels := none
      description := none
      statements := statements
      exampleSet := some ⟨none, none, none, none, template, some 2⟩
      specification := some (values first second) }
  constructor
  · refine ⟨⟨⟨"a".toList⟩, none, none, none, .reqsml, [⟨none, none, none, none, "r".toList,
      [expanded [] "x".toList
        [⟨none, .condition, "<a>".toList, none, some 2⟩,
          ⟨none, .action, "<b>".toList, none, some 3⟩]
        [⟨none, .condition, [], none, some 2⟩, ⟨none, .action, "x".toList, none, some 3⟩]]⟩]⟩,
      ?_, _, List.mem_singleton_self _, _, List.mem_singleton_self _, _, rfl, rfl, rfl⟩
    with_unfolding_all rfl
  · refine ⟨⟨⟨"a".toList⟩, none, none, none, .reqsml, [⟨none, none, none, none, "r".toList,
      [expanded "x".toList "x".toList
        [⟨none, .condition, "t".toList,
          some (.table [.ofList [("<a>".toList, "1".toList), ("<b>".toList, "2".toList)]]), some 2⟩]
        [⟨none, .condition, "t".toList,
          some (.table [.ofList [("x".toList, "2".toList)]]), some 2⟩]]⟩]⟩,
      ?_, _, List.mem_singleton_self _, _, List.mem_singleton_self _, _, rfl, rfl, ?_⟩
    · with_unfolding_all rfl
    · intro hsame
      obtain ⟨hdata, -⟩ := List.forall₂_cons.1 hsame
      cases hdata with
      | some hshape => cases hshape.widths_eq

end PlainSpec
