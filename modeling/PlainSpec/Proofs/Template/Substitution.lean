import Mathlib.Data.List.Infix
import PlainSpec.Proofs.Template.Columns
import PlainSpec.Proofs.Template.Tokens
import PlainSpec.Proofs.Canonical.Parts

/-!
# Expansion as substitution

A row of a table of examples is put into its template column after column, and each column goes over
the whole text again, values that were already put in included.  What comes out is nevertheless what
one scan of the template gives, in which every token is replaced by its cell, if no column can find
its marker in a place that is not a token of its own:

* in a value, or from the end of a value on;
* in the token of another column;
* in front of a token whose name lost brackets when it was cut out.

A lone `<` of the template is no such place: on its line no token follows, whatever the values are.

## Main definitions

* `Template.substitute`: the text with all tokens replaced at once.
* `Template.Inert`, `Template.Separate`: values and templates in which no marker is found by
  mistake.
* `Template.Substitutes`: an example whose texts are substituted.
* `TemplateRow.arrange`: a row with its columns in another order.

## Main results

* `Template.replace_substitute`: what one column does to a text in which others are replaced.
* `Template.foldl_replace`: what all columns do.
* `Template.substitutes_of_expand`: expansion is substitution, in every order of the columns.
-/

namespace PlainSpec

/-! ## Replacing a marker -/

namespace Text

variable {old new : Text}

theorem replaceAll_append (hold : old ≠ []) (rest : Text) :
    replaceAll old new (old ++ rest) = new ++ replaceAll old new rest := by
  obtain ⟨c, tail, rfl⟩ := List.exists_cons_of_ne_nil hold
  have hstarts : startsWith (c :: (tail ++ rest)) (c :: tail) = true :=
    startsWith_eq_true.2 ⟨rest, rfl⟩
  rw [List.cons_append, replaceAll, if_pos hstarts]
  simp

theorem replaceAll_cons {c : Char} {rest : Text} (h : ¬ old <+: c :: rest) :
    replaceAll old new (c :: rest) = c :: replaceAll old new rest := by
  have hstarts : ¬ startsWith (c :: rest) old = true := by
    intro hstarts
    obtain ⟨after, hafter⟩ := startsWith_eq_true.1 hstarts
    exact h ⟨after, hafter.symm⟩
  rw [replaceAll, if_neg hstarts]

/-- **A stretch in which no occurrence begins is left alone.** -/
theorem replaceAll_append_of_not_begins {stretch rest : Text}
    (h : ∀ part, part ≠ [] → part <:+ stretch → ¬ old <+: part ++ rest) :
    replaceAll old new (stretch ++ rest) = stretch ++ replaceAll old new rest := by
  induction stretch with
  | nil => rfl
  | cons c stretch ih =>
    rw [List.cons_append, replaceAll_cons, ih, List.cons_append]
    · exact fun part hne hpart => h part hne (hpart.trans (List.suffix_cons c stretch))
    · exact h (c :: stretch) (List.cons_ne_nil c stretch) List.suffix_rfl

end Text

namespace Template

/-! ## Tokens and their names -/

/-- A token as it is written. -/
def marker (name : Text) : Text := '<' :: name ++ ['>']

/-- A text that can be the name of a column. -/
structure IsName (name : Text) : Prop where
  nonempty : name ≠ []
  oneLine : '\n' ∉ name
  unclosed : '>' ∉ name

/-- **The columns of a table that fits are names.** -/
theorem Fits.isName {set : ExampleSet} {header : TemplateRow} {rows : List TemplateRow}
    (hfits : Fits set header rows) {name : Text} (h : name ∈ columns header) : IsName name := by
  have htoken := (hfits.bound name).1 h
  simp only [ExampleSet.tokens, tokensOf, Text.mem_sortedSet, List.mem_flatMap] at htoken
  obtain ⟨t, -, hname⟩ := htoken
  obtain ⟨hline, hclosed⟩ := mem_of_mem_names hname
  refine ⟨?_, hline, hclosed⟩
  rintro rfl
  -- only the first cell of a header can be empty, and then it is not a column
  unfold columns at h
  split at h
  · exact hfits.top.named h
  · rename_i hdescription
    cases hcells : header.cells with
    | nil => exact hfits.top.nonempty hcells
    | cons first rest =>
      rw [hcells] at h
      rcases List.mem_cons.1 h with rfl | h
      · exact hdescription (hasDescription_iff.2 (by rw [hcells, List.head?_cons]))
      · exact hfits.top.named (by rwa [hcells])

/-! ## Substitution -/

/-- What a piece becomes: a token without a value stays. -/
def fill (value : Text → Option Text) : Piece → Text
  | .plain c => [c]
  | .token body => (value (Piece.trimBrackets body)).getD (marker body)

/-- The text with each token replaced by the value of its name, all of them at once. -/
def substitute (value : Text → Option Text) (t : Text) : Text := (pieces t).flatMap (fill value)

/-- Without values nothing changes. -/
theorem substitute_none (t : Text) : substitute (fun _ => none) t = t := by
  have hfill : fill (fun _ => none) = Piece.text := by
    funext piece
    cases piece <;> rfl
  rw [substitute, hfill, plain_pieces]

theorem substitute_congr {value value' : Text → Option Text} {t : Text}
    (h : ∀ name ∈ names t, value name = value' name) :
    substitute value t = substitute value' t := by
  unfold substitute
  refine List.flatMap_congr fun piece hpiece => ?_
  cases piece with
  | plain c => rfl
  | token body =>
    simp only [fill]
    rw [h _ (List.mem_filterMap.2 ⟨_, hpiece, rfl⟩)]

/-- A value in which no marker of the names begins, as in every value without `<`. -/
def Inert (names : List Text) (value : Text) : Prop :=
  ∀ name ∈ names, ∀ part, part ≠ [] → part <:+ value →
    ¬ part <+: marker name ∧ ¬ marker name <+: part

instance {names : List Text} {value : Text} : Decidable (Inert names value) :=
  decidable_of_iff
    (∀ name ∈ names, ∀ part ∈ value.tails, part ≠ [] → ¬ part <+: marker name ∧
      ¬ marker name <+: part)
    (by simp only [Inert, List.mem_tails]; exact forall₃_congr fun _ _ _ => forall_comm)

/-- A token that is written as its name, and in which no marker of other names ends. -/
def Stands (names : List Text) : Piece → Prop
  | .plain _ => True
  | .token body =>
    Piece.trimBrackets body = body ∧ ∀ name ∈ names, marker name <:+ marker body → name = body

instance {names : List Text} : DecidablePred (Stands names)
  | .plain _ => inferInstanceAs (Decidable True)
  | .token _ => inferInstanceAs (Decidable (_ ∧ _))

/-- A text whose tokens stand apart from each other. -/
def Separate (names : List Text) (t : Text) : Prop := ∀ piece ∈ pieces t, Stands names piece

/-! ## A bracket that opens no token

From such a bracket to the end of its line there is no closing bracket, except right behind it, and
so no token either.  What tokens are replaced by comes at the earliest on the next line. -/

section Lone

variable {line rest : Text}

theorem body?_eq_none (hline : ∀ c ∈ line, c ≠ '>' ∧ c ≠ '\n')
    (hrest : rest = [] ∨ ∃ below, rest = '\n' :: below) : body? (line ++ rest) = none := by
  cases line with
  | nil => rcases hrest with rfl | ⟨below, rfl⟩ <;> rfl
  | cons c line =>
    have hdrop : (line ++ rest).dropWhile (fun d => d ≠ '>' && d ≠ '\n') = rest := by
      rw [List.dropWhile_append_of_pos fun d hd =>
        by simpa using hline d (List.mem_cons_of_mem c hd)]
      rcases hrest with rfl | ⟨below, rfl⟩ <;> simp
    simp only [List.cons_append, body?, hdrop]
    rcases hrest with rfl | ⟨below, rfl⟩ <;> simp

theorem exists_of_body?_eq_none {c : Char} (hc : c ≠ '\n') (h : body? (c :: rest) = none) :
    ∃ line below, rest = line ++ below ∧ (∀ d ∈ line, d ≠ '>' ∧ d ≠ '\n') ∧
      (below = [] ∨ ∃ next, below = '\n' :: next) := by
  simp only [body?, if_neg hc] at h
  refine ⟨rest.takeWhile fun d => d ≠ '>' && d ≠ '\n', rest.dropWhile fun d => d ≠ '>' && d ≠ '\n',
    List.takeWhile_append_dropWhile.symm, fun d hd => ?_, ?_⟩
  · simpa using List.all_eq_true.1 List.all_takeWhile d hd
  · have hstop := List.head?_dropWhile_not (fun d => d ≠ '>' && d ≠ '\n') rest
    cases hdrop : rest.dropWhile (fun d => d ≠ '>' && d ≠ '\n') with
    | nil => exact .inl rfl
    | cons d next =>
      rw [hdrop] at hstop h
      have hd : d = '>' ∨ d = '\n' := by simpa [or_iff_not_imp_left] using hstop
      rcases hd with rfl | rfl
      · cases h
      · exact .inr ⟨next, rfl⟩

theorem pieces_cons {c : Char} (hline : ∀ d ∈ line, d ≠ '>' ∧ d ≠ '\n')
    (hrest : rest = [] ∨ ∃ below, rest = '\n' :: below) :
    pieces (c :: (line ++ rest)) = .plain c :: pieces (line ++ rest) := by
  rw [pieces]
  split
  · split
    · rename_i hfound
      rw [body?_eq_none hline hrest] at hfound
      cases hfound
    · rfl
  · rfl

theorem substitute_append (value : Text → Option Text) (hline : ∀ c ∈ line, c ≠ '>' ∧ c ≠ '\n')
    (hrest : rest = [] ∨ ∃ below, rest = '\n' :: below) :
    substitute value (line ++ rest) = line ++ substitute value rest := by
  induction line with
  | nil => rfl
  | cons c line ih =>
    have hline' := fun d hd => hline d (List.mem_cons_of_mem c hd)
    rw [List.cons_append, substitute, pieces_cons hline' hrest, List.flatMap_cons, ← substitute,
      ih hline']
    rfl

theorem not_prefix_append {name : Text} (hname : '\n' ∉ name)
    (hline : ∀ c ∈ line, c ≠ '>' ∧ c ≠ '\n') (hrest : rest = [] ∨ ∃ below, rest = '\n' :: below) :
    ¬ name ++ ['>'] <+: line ++ rest := by
  induction line generalizing name with
  | nil =>
    rcases hrest with rfl | ⟨below, rfl⟩
    · simp
    · cases name with
      | nil => simp
      | cons c name =>
        have hc : c ≠ '\n' := fun heq => hname (heq ▸ List.mem_cons_self)
        simp [hc]
  | cons c line ih =>
    cases name with
    | nil => simp [Ne.symm (hline c List.mem_cons_self).1]
    | cons d name =>
      rw [List.cons_append, List.cons_append, List.cons_prefix_cons]
      rintro ⟨-, h⟩
      exact ih (fun hmem => hname (List.mem_cons_of_mem d hmem))
        (fun e he => hline e (List.mem_cons_of_mem c he)) h

/-- **A lone bracket opens no marker**, whatever the tokens behind it are replaced by. -/
theorem not_prefix_substitute (value : Text → Option Text) {name : Text} (hname : IsName name)
    (h : body? rest = none) : ¬ name ++ ['>'] <+: substitute value rest := by
  obtain ⟨first, name, rfl⟩ := List.exists_cons_of_ne_nil hname.nonempty
  obtain ⟨hfirst, honeLine⟩ := not_or.1 (mt List.mem_cons.2 hname.oneLine)
  cases rest with
  | nil => simp [substitute, pieces]
  | cons c rest =>
    by_cases hc : c = '\n'
    · subst hc
      simp [substitute, pieces, fill, Ne.symm hfirst]
    · obtain ⟨line, below, rfl, hline, hbelow⟩ := exists_of_body?_eq_none hc h
      have hsubstitute : substitute value (c :: (line ++ below)) =
          c :: (line ++ substitute value below) := by
        rw [substitute, pieces_cons hline hbelow, List.flatMap_cons, ← substitute,
          substitute_append value hline hbelow]
        rfl
      rw [hsubstitute, List.cons_append, List.cons_prefix_cons]
      rintro ⟨-, hprefix⟩
      refine not_prefix_append honeLine hline ?_ hprefix
      rcases hbelow with rfl | ⟨next, rfl⟩
      · exact .inl (by simp [substitute, pieces])
      · exact .inr ⟨substitute value next, by simp [substitute, pieces, fill]⟩

end Lone

/-! ## Column after column -/

/-- Two texts that are closed at the same place are equal. -/
theorem eq_of_closed {s t rest : Text} (hs : '>' ∉ s) (ht : '>' ∉ t)
    (h : s ++ ['>'] <+: t ++ '>' :: rest) : s = t := by
  induction s generalizing t with
  | nil =>
    cases t with
    | nil => rfl
    | cons d t => simp_all
  | cons c s ih =>
    cases t with
    | nil => simp_all
    | cons d t =>
      rw [List.cons_append, List.cons_append, List.cons_prefix_cons] at h
      obtain ⟨rfl, h⟩ := h
      rw [ih (fun hmem => hs (List.mem_cons_of_mem c hmem))
        (fun hmem => ht (List.mem_cons_of_mem c hmem)) h]

/-- What of a marker begins in the token of another column is that column's marker to the end. -/
theorem suffix_of_begins {name body part rest : Text} (hname : '>' ∉ name) (hbody : '>' ∉ body)
    (hne : part ≠ []) (hpart : part <:+ marker body) (h : marker name <+: part ++ rest) :
    marker name <:+ marker body := by
  rcases List.suffix_concat_iff.1 hpart with rfl | ⟨front, rfl, hfront⟩
  · exact absurd rfl hne
  · have hopen : '>' ∉ front := fun hmem => by
      rcases List.mem_cons.1 (hfront.mem hmem) with heq | hmem
      · cases heq
      · exact hbody hmem
    have heq : '<' :: name = front :=
      eq_of_closed (by simp [hname]) hopen (by simpa [marker] using h)
    rw [marker, heq]
    exact hpart

section Columns

variable {columns : List Text} {value : Text → Option Text} {name : Text}

/-- **One column on one token**: its own token is replaced, and what stands for another one is left
alone, the value of a column before it included. -/
theorem replace_fill (hname : IsName name) (hmem : name ∈ columns) (hnone : value name = none)
    (hinert : ∀ other v, value other = some v → Inert columns v) {body : Text}
    (hstands : Stands columns (.token body)) (hbody : '>' ∉ body) (v rest : Text) :
    replace name v (fill value (.token body) ++ rest) =
      fill (Function.update value name (some v)) (.token body) ++ replace name v rest := by
  obtain ⟨hself, hother⟩ := hstands
  simp only [fill, hself]
  by_cases heq : body = name
  · subst heq
    rw [hnone, Function.update_self]
    exact Text.replaceAll_append (List.cons_ne_nil _ _) rest
  · rw [Function.update_of_ne heq]
    refine Text.replaceAll_append_of_not_begins fun part hne hpart hprefix => ?_
    cases hvalue : value body with
    | some w =>
      rw [hvalue, Option.getD_some] at hpart
      obtain ⟨hinner, houter⟩ := hinert body w hvalue name hmem part hne hpart
      rcases List.prefix_or_prefix_of_prefix hprefix (List.prefix_append part rest) with h | h
      · exact houter h
      · exact hinner h
    | none =>
      rw [hvalue, Option.getD_none] at hpart
      exact heq (hother name hmem (suffix_of_begins hname.unclosed hbody hne hpart hprefix)).symm

/-- **One column** replaces its tokens in a text in which others are replaced. -/
theorem replace_substitute (hname : IsName name) (hmem : name ∈ columns) (hnone : value name = none)
    (hinert : ∀ other v, value other = some v → Inert columns v) {t : Text}
    (ht : Separate columns t) (v : Text) :
    replace name v (substitute value t) = substitute (Function.update value name (some v)) t := by
  unfold substitute
  unfold Separate at ht
  fun_induction pieces t with
  | case1 => simp [replace, Text.replaceAll]
  | case2 rest body after hfound ih =>
    obtain ⟨hbody, hafter⟩ := List.forall_mem_cons.1 ht
    have hclosed : '>' ∉ body :=
      hbody.1 ▸ not_mem_trimBrackets (body?_eq_some_iff.1 hfound).shortest
    rw [List.flatMap_cons, List.flatMap_cons,
      replace_fill hname hmem hnone hinert hbody hclosed, ih hafter]
  | case3 rest hfound ih =>
    have hrest := (List.forall_mem_cons.1 ht).2
    have hlone : ¬ marker name <+: '<' :: substitute value rest := by
      rw [marker, List.cons_append, List.cons_prefix_cons]
      exact fun h => not_prefix_substitute value hname hfound h.2
    rw [List.flatMap_cons, List.flatMap_cons, ← ih hrest]
    exact Text.replaceAll_cons hlone
  | case4 c rest hc ih =>
    have hrest := (List.forall_mem_cons.1 ht).2
    have hplain : ¬ marker name <+: c :: substitute value rest := by
      rw [marker, List.cons_append, List.cons_prefix_cons]
      exact fun h => hc h.1.symm
    rw [List.flatMap_cons, List.flatMap_cons, ← ih hrest]
    exact Text.replaceAll_cons hplain

/-- **All columns** together substitute. -/
theorem foldl_replace (value : Text → Option Text) {entries : List (Text × Text)}
    (hnodup : (entries.map Prod.fst).Nodup)
    (hnames : ∀ entry ∈ entries, IsName entry.1 ∧ entry.1 ∈ columns ∧ Inert columns entry.2)
    (hnone : ∀ entry ∈ entries, value entry.1 = none)
    (hinert : ∀ other v, value other = some v → Inert columns v) {t : Text}
    (ht : Separate columns t) :
    entries.foldl (fun text entry => replace entry.1 entry.2 text) (substitute value t) =
      substitute (fun name => (value name).or (OrderedMap.get? ⟨entries, hnodup⟩ name)) t := by
  induction entries generalizing value with
  | nil => simp [OrderedMap.get?]
  | cons entry entries ih =>
    obtain ⟨name, v⟩ := entry
    obtain ⟨hname, hmem, hv⟩ := hnames (name, v) List.mem_cons_self
    have hfresh := List.nodup_cons.1 hnodup
    rw [List.foldl_cons,
      replace_substitute hname hmem (hnone (name, v) List.mem_cons_self) hinert ht, ih _ hfresh.2]
    · congr 1
      funext other
      by_cases heq : other = name
      · subst heq
        simp [hnone (other, v) List.mem_cons_self, OrderedMap.get?]
      · simp only [Function.update_of_ne heq, OrderedMap.get?, List.lookup_cons]
        split
        · rename_i hbeq
          exact absurd (eq_of_beq hbeq) heq
        · rfl
    · exact fun entry hentry => hnames entry (List.mem_cons_of_mem _ hentry)
    · intro entry hentry
      rw [Function.update_of_ne]
      · exact hnone entry (List.mem_cons_of_mem _ hentry)
      · exact fun heq => hfresh.1 (List.mem_map.2 ⟨entry, hentry, heq⟩)
    · intro other w hw
      by_cases heq : other = name
      · subst heq
        rw [Function.update_self] at hw
        cases hw
        exact hv
      · rw [Function.update_of_ne heq] at hw
        exact hinert other w hw

end Columns

/-! ## The texts of an example -/

/-- The cell of a row that stands below a column. -/
def cellUnder (header row : TemplateRow) (column : Text) : Option Text :=
  row.cells[header.cells.idxOf column]?

theorem get?_values_eq_cellUnder {header row : TemplateRow} (hheads : Heads header)
    (hlength : row.cells.length = header.cells.length) {column : Text}
    (hmem : column ∈ columns header)
    (hne : column ≠ []) : (values header row).get? column = cellUnder header row column := by
  refine get?_values hheads hlength ?_ hne
  have hcolumn : column ∈ header.cells := by
    rw [cells_header]
    exact List.mem_append_right _ hmem
  rw [List.getElem?_eq_getElem (List.idxOf_lt_length_of_mem hcolumn), List.getElem_idxOf]

/-- A change that goes over a list again and again goes over each member again and again. -/
theorem foldl_map {α β : Type} (change : β → α → α) (steps : List β) (xs : List α) :
    steps.foldl (fun xs step => xs.map (change step)) xs =
      xs.map fun x => steps.foldl (fun x step => change step x) x := by
  induction steps generalizing xs with
  | nil => simp
  | cons step steps ih => rw [List.foldl_cons, ih, List.map_map]; rfl

/-- All columns put into a text, one after the other. -/
def putIn (entries : List (Text × Text)) (t : Text) : Text :=
  entries.foldl (fun text entry => replace entry.1 entry.2 text) t

@[simp] theorem putIn_nil : putIn [] = id := rfl

/-- All columns put into a statement, one after the other. -/
def putInStatement (entries : List (Text × Text)) (s : Statement) : Statement :=
  entries.foldl (fun s entry => replaceInStatement entry.1 entry.2 s) s

/-- All columns put into a block of data, one after the other. -/
def putInData (entries : List (Text × Text)) (d : Data) : Data :=
  entries.foldl (fun d entry => d.mapTexts (replace entry.1 entry.2)) d

theorem statements_expandRow_eq (set : ExampleSet) (header row : TemplateRow) :
    (expandRow set header row).statements =
      set.statements.map (putInStatement (values header row).entries) :=
  foldl_map (fun entry : Text × Text => replaceInStatement entry.1 entry.2) _ _

theorem description_putInStatement (entries : List (Text × Text)) (s : Statement) :
    (putInStatement entries s).description = putIn entries s.description := by
  induction entries generalizing s with
  | nil => rfl
  | cons entry entries ih => exact ih _

theorem data_putInStatement (entries : List (Text × Text)) (s : Statement) :
    (putInStatement entries s).data = s.data.map (putInData entries) := by
  induction entries generalizing s with
  | nil => exact Option.map_id'.symm
  | cons entry entries ih => exact (ih _).trans (Option.map_map _ _ s.data)

theorem text?_putInData (entries : List (Text × Text)) (d : Data) :
    (putInData entries d).text? = d.text?.map (putIn entries) := by
  induction entries generalizing d with
  | nil => exact Option.map_id'.symm
  | cons entry entries ih => exact (ih _).trans (by cases d <;> rfl)

theorem list?_putInData (entries : List (Text × Text)) (d : Data) :
    (putInData entries d).list? = d.list?.map (List.map (putIn entries)) := by
  induction entries generalizing d with
  | nil => cases d <;> simp [putInData, Data.list?, putIn_nil]
  | cons entry entries ih =>
    refine (ih _).trans ?_
    cases d <;> simp [Data.list?, Data.mapTexts, putIn]

end Template

/-- The text block below a statement. -/
def Statement.text? (s : Statement) : Option Text := s.data.bind Data.text?

/-- The list below a statement. -/
def Statement.list? (s : Statement) : Option (List Text) := s.data.bind Data.list?

/-- A statement whose texts are changed, those of tables, matrices and key-value data apart. -/
structure Statement.Changes (change : Text → Text → Prop) (s s' : Statement) : Prop where
  description : change s.description s'.description
  text : Option.Rel change s.text? s'.text?
  list : Option.Rel (List.Forall₂ change) s.list? s'.list?

/-- The texts of a statement, those of tables, matrices and key-value data apart. -/
def Statement.IsString (s : Statement) (t : Text) : Prop :=
  t = s.description ∨ s.text? = some t ∨ ∃ items, s.list? = some items ∧ t ∈ items

theorem Statement.IsString.mem_texts {s : Statement} {t : Text} (h : s.IsString t) :
    t ∈ s.texts := by
  unfold Statement.texts
  rcases h with rfl | htext | ⟨items, hlist, ht⟩
  · exact List.mem_cons_self
  · obtain ⟨d, hd, hcontent⟩ := Option.bind_eq_some_iff.1 htext
    refine List.mem_cons_of_mem _ ?_
    cases d <;> simp_all [Data.text?, Data.texts]
  · obtain ⟨d, hd, hitems⟩ := Option.bind_eq_some_iff.1 hlist
    refine List.mem_cons_of_mem _ ?_
    cases d <;> simp_all [Data.list?, Data.texts]

namespace Template

theorem changes_putInStatement {change : Text → Text → Prop} (entries entries' : List (Text × Text))
    {s : Statement} (h : ∀ t, s.IsString t → change (putIn entries t) (putIn entries' t)) :
    (putInStatement entries s).Changes change (putInStatement entries' s) := by
  have htext (entries : List (Text × Text)) :
      (putInStatement entries s).text? = s.text?.map (putIn entries) := by
    rw [Statement.text?, data_putInStatement, Statement.text?]
    cases s.data with
    | none => rfl
    | some d => exact text?_putInData entries d
  have hlist (entries : List (Text × Text)) :
      (putInStatement entries s).list? = s.list?.map (List.map (putIn entries)) := by
    rw [Statement.list?, data_putInStatement, Statement.list?]
    cases s.data with
    | none => rfl
    | some d => exact list?_putInData entries d
  refine ⟨?_, ?_, ?_⟩
  · rw [description_putInStatement, description_putInStatement]
    exact h _ (.inl rfl)
  · rw [htext, htext]
    cases hs : s.text? with
    | none => exact .none
    | some content => exact .some (h content (.inr (.inl hs)))
  · rw [hlist, hlist]
    cases hs : s.list? with
    | none => exact .none
    | some items =>
      refine .some ?_
      rw [List.forall₂_map_left_iff, List.forall₂_map_right_iff, List.forall₂_same]
      exact fun t ht => h t (.inr (.inr ⟨items, hs, ht⟩))

/-- A row whose cells below the columns of a header hold no marker of these columns, and do not end
in the beginning of one. -/
def Quiet (header row : TemplateRow) : Prop :=
  ∀ column ∈ columns header, ∀ value, cellUnder header row column = some value →
    Inert (columns header) value

/-- An example in which the texts of a template are substituted, if no marker can be found in them
by mistake. -/
def Substitutes (set : ExampleSet) (header row : TemplateRow) (e : Example) : Prop :=
  Quiet header row →
    List.Forall₂
      (Statement.Changes fun t t' => Separate (columns header) t →
        t' = substitute (cellUnder header row) t)
      set.statements e.statements

/-! ## The order of the columns -/

/-- The place of the first column of a header. -/
def firstColumn (header : TemplateRow) : Nat := if hasDescription header then 1 else 0

end Template

/-- The row with its cells from the place `first` on in another order. -/
def TemplateRow.arrange (first : Nat) (order : List Nat) (row : TemplateRow) : TemplateRow :=
  { row with
    cells := row.cells.take first ++ order.map fun i => (row.cells.drop first).getD i [] }

namespace Template

/-- Rows of two tables that have the same columns, with the same cells below them. -/
structure SaysSame (header row header' row' : TemplateRow) : Prop where
  columns : ∀ name, name ∈ columns header' ↔ name ∈ Template.columns header
  cells : ∀ name ∈ Template.columns header, cellUnder header' row' name = cellUnder header row name

theorem drop_firstColumn (header : TemplateRow) :
    header.cells.drop (firstColumn header) = columns header := by
  unfold firstColumn columns
  split <;> simp

theorem map_getD_range (cells : List Text) :
    (List.range cells.length).map (fun i => cells.getD i []) = cells := by
  refine List.ext_getElem (by simp) fun i hi hi' => ?_
  simp [hi']

theorem perm_arrange {cells : List Text} {order : List Nat}
    (horder : order.Perm (List.range cells.length)) :
    (order.map fun i => cells.getD i []).Perm cells := by
  have h := horder.map fun i => cells.getD i []
  rwa [map_getD_range] at h

section Arrange

variable {set : ExampleSet} {header row : TemplateRow} {rows : List TemplateRow} {order : List Nat}
  (horder : order.Perm (List.range (columns header).length))

include horder

theorem length_arrange (hrow : row.cells.length = header.cells.length) :
    (row.arrange (firstColumn header) order).cells.length = header.cells.length := by
  have hcount := horder.length_eq
  rw [List.length_range, ← drop_firstColumn, List.length_drop] at hcount
  simp only [TemplateRow.arrange, List.length_append, List.length_take,
    List.length_map, hcount, hrow]
  omega

/-- The columns of an arranged header are the same, in another order. -/
theorem columns_arrange (hfits : Fits set header rows) :
    hasDescription (header.arrange (firstColumn header) order) = hasDescription header ∧
      (columns (header.arrange (firstColumn header) order)).Perm (columns header) := by
  have hperm := perm_arrange horder
  have hcells : (header.arrange (firstColumn header) order).cells =
      (if hasDescription header then [[]] else []) ++ order.map fun i =>
        (columns header).getD i [] := by
    simp only [TemplateRow.arrange, drop_firstColumn]
    congr 1
    rw [firstColumn]
    split
    · rename_i hfirst
      obtain ⟨rest, hrest⟩ := List.head?_eq_some_iff.1 (hasDescription_iff.1 hfirst)
      rw [hrest, List.take_one, List.head?_cons, Option.toList_some]
    · exact List.take_zero
  have hdescription : hasDescription (header.arrange (firstColumn header) order) =
      hasDescription header := by
    rw [Bool.eq_iff_iff, hasDescription_iff, hcells]
    split
    · rename_i hfirst
      simp [hfirst]
    · rename_i hfirst
      refine iff_of_false (fun hhead => ?_) hfirst
      have hmem := hperm.mem_iff.1 (List.mem_of_mem_head? hhead)
      exact (hfits.isName hmem).nonempty rfl
  refine ⟨hdescription, ?_⟩
  rw [columns, hdescription, hcells]
  split <;> simpa using hperm

theorem heads_arrange (hfits : Fits set header rows) :
    Heads (header.arrange (firstColumn header) order) := by
  obtain ⟨hdescription, hperm⟩ := columns_arrange horder hfits
  have hlength : (header.arrange (firstColumn header) order).cells.length = header.cells.length :=
    length_arrange horder rfl
  have hcells := cells_header (header.arrange (firstColumn header) order)
  have hnamed : [] ∉ columns (header.arrange (firstColumn header) order) := fun hmem =>
    (hfits.isName (hperm.mem_iff.1 hmem)).nonempty rfl
  refine ⟨?_, ?_, ?_, hfits.top.comments, hfits.top.identifier, hfits.top.labels,
    hperm.nodup_iff.2 hfits.top.distinct⟩
  · intro hnil
    rw [hnil, List.length_nil, eq_comm, List.length_eq_zero_iff] at hlength
    exact hfits.top.nonempty hlength
  · intro hunnamed
    rw [hunnamed, List.length_singleton, eq_comm, List.length_eq_one_iff] at hlength
    obtain ⟨cell, hcell⟩ := hlength
    -- a single cell that is empty is either no column or an unnamed one
    by_cases hfirst : hasDescription header = true
    · rw [hasDescription_iff, hcell, List.head?_cons, Option.some.injEq] at hfirst
      exact hfits.top.notUnnamed (hfirst ▸ hcell)
    · rw [hunnamed, hdescription, if_neg hfirst, List.nil_append] at hcells
      exact hnamed (hcells ▸ List.mem_singleton_self _)
  · intro hmem
    rw [hcells] at hmem
    split at hmem
    · exact hnamed hmem
    · exact hnamed (List.mem_of_mem_tail hmem)

theorem standsBelow_arrange (hfits : Fits set header rows) (hrow : StandsBelow header row) :
    StandsBelow (header.arrange (firstColumn header) order)
    (row.arrange (firstColumn header) order) := by
  refine ⟨?_, fun hhead => ?_⟩
  · rw [length_arrange horder hrow.length_eq, length_arrange horder rfl]
  · rw [← hasDescription_iff, (columns_arrange horder hfits).1] at hhead
    have hdescribed := hrow.described (hasDescription_iff.1 hhead)
    simp only [TemplateRow.arrange, firstColumn, hhead, if_true]
    cases hcells : row.cells with
    | nil =>
      have := hrow.length_eq
      rw [hcells, List.length_nil, eq_comm, List.length_eq_zero_iff] at this
      exact absurd this hfits.top.nonempty
    | cons cell rest => simpa [hcells] using hdescribed

theorem fits_arrange (hfits : Fits set header rows) :
    Fits set (header.arrange (firstColumn header) order)
      (rows.map (·.arrange (firstColumn header) order)) := by
  refine ⟨hfits.template, heads_arrange horder hfits, fun arranged harranged => ?_, fun token => ?_⟩
  · obtain ⟨row, hrow, rfl⟩ := List.mem_map.1 harranged
    exact standsBelow_arrange horder hfits (hfits.rows row hrow)
  · rw [(columns_arrange horder hfits).2.mem_iff, hfits.bound]

theorem getElem?_arrange (hrow : row.cells.length = header.cells.length) {j k : Nat}
    (hj : order[j]? = some k) :
    (row.arrange (firstColumn header) order).cells[firstColumn header + j]? =
      row.cells[firstColumn header + k]? := by
  have hk : k < (columns header).length :=
    List.mem_range.1 (horder.mem_iff.1 (List.mem_of_getElem? hj))
  rw [← drop_firstColumn, List.length_drop] at hk
  have hfirst : (row.cells.take (firstColumn header)).length = firstColumn header := by
    rw [List.length_take]
    omega
  obtain ⟨cell, hcell⟩ : ∃ cell, row.cells[firstColumn header + k]? = some cell :=
    ⟨_, List.getElem?_eq_getElem (by omega)⟩
  simp only [TemplateRow.arrange]
  rw [List.getElem?_append_right (by omega), hfirst, Nat.add_sub_cancel_left, List.getElem?_map, hj,
    Option.map_some, List.getD_eq_getElem?_getD, List.getElem?_drop, hcell, Option.getD_some]

/-- **Arranged tables say the same.** -/
theorem saysSame_arrange (hfits : Fits set header rows) (hrow : StandsBelow header row) :
    SaysSame header row (header.arrange (firstColumn header) order)
      (row.arrange (firstColumn header) order) := by
  have hperm := (columns_arrange horder hfits).2
  refine ⟨fun name => hperm.mem_iff, fun name hname => ?_⟩
  have hne := (hfits.isName hname).nonempty
  -- the place of the column in the header, and its place after the change
  obtain ⟨k, hk⟩ := List.mem_iff_getElem?.1 hname
  have hklt : k < (columns header).length := (List.getElem?_eq_some_iff.1 hk).1
  obtain ⟨j, hj⟩ := List.mem_iff_getElem?.1 (horder.mem_iff.2 (List.mem_range.2 hklt))
  have hbefore : header.cells[firstColumn header + k]? = some name := by
    rw [← List.getElem?_drop, drop_firstColumn, hk]
  have hafter :
      (header.arrange (firstColumn header) order).cells[firstColumn header + j]? = some name :=
    (getElem?_arrange horder rfl hj).trans hbefore
  have hrow' := standsBelow_arrange horder hfits hrow
  have hheads' := heads_arrange horder hfits
  calc cellUnder (header.arrange (firstColumn header) order)
        (row.arrange (firstColumn header) order) name
      = (values (header.arrange (firstColumn header) order)
          (row.arrange (firstColumn header) order)).get? name :=
        (get?_values_eq_cellUnder hheads' hrow'.length_eq (hperm.mem_iff.2 hname) hne).symm
    _ = (row.arrange (firstColumn header) order).cells[firstColumn header + j]? :=
        get?_values hheads' hrow'.length_eq hafter hne
    _ = row.cells[firstColumn header + k]? := getElem?_arrange horder hrow.length_eq hj
    _ = (values header row).get? name := (get?_values hfits.top hrow.length_eq hbefore hne).symm
    _ = cellUnder header row name := get?_values_eq_cellUnder hfits.top hrow.length_eq hname hne

end Arrange

/-! ## Expansion -/

section Expand

variable {set : ExampleSet} {header row : TemplateRow} {rows : List TemplateRow}

theorem mem_columns (hfits : Fits set header rows) {s : Statement} (hs : s ∈ set.statements)
    {t name : Text} (ht : t ∈ s.texts) (hname : name ∈ names t) : name ∈ columns header := by
  rw [hfits.bound, ExampleSet.tokens, tokensOf, Text.mem_sortedSet]
  exact List.mem_flatMap.2 ⟨t, List.mem_append_right _ (List.mem_flatMap.2 ⟨s, hs, ht⟩), hname⟩

/-- **Every token of a template has a cell** in every row. -/
theorem isSome_cellUnder (hrow : StandsBelow header row) {name : Text}
    (hname : name ∈ columns header) :
    (cellUnder header row name).isSome := by
  have hmem : name ∈ header.cells := by
    rw [cells_header]
    exact List.mem_append_right _ hname
  have hlt : header.cells.idxOf name < row.cells.length :=
    hrow.length_eq ▸ List.idxOf_lt_length_of_mem hmem
  rw [cellUnder, List.getElem?_eq_getElem hlt, Option.isSome_some]

/-- **The columns of a row substitute its values.** -/
theorem putIn_values (hfits : Fits set header rows) (hrow : StandsBelow header row)
    (hquiet : Quiet header row) {t : Text} (ht : Separate (columns header) t) :
    putIn (values header row).entries t = substitute (values header row).get? t := by
  have hkeys := (cells_row hfits.top hrow.length_eq).1
  have hentries : ∀ entry ∈ (values header row).entries,
      IsName entry.1 ∧ entry.1 ∈ columns header ∧ Inert (columns header) entry.2 := by
    intro entry hentry
    have hmem : entry.1 ∈ columns header := hkeys ▸ List.mem_map_of_mem hentry
    have hname := hfits.isName hmem
    have hcell := get?_values_eq_cellUnder hfits.top hrow.length_eq hmem hname.nonempty
    rw [(values header row).get?_of_mem hentry] at hcell
    exact ⟨hname, hmem, hquiet entry.1 hmem entry.2 hcell.symm⟩
  have hfold := foldl_replace (fun _ => none) (values header row).nodup hentries
    (fun _ _ => rfl) (fun _ _ => nofun) ht
  simp only [substitute_none, Option.none_or] at hfold
  exact hfold

theorem Inert.congr {names names' : List Text} (h : ∀ name, name ∈ names' ↔ name ∈ names)
    {value : Text} :
    Inert names' value ↔ Inert names value := by
  simp only [Inert, h]

theorem Separate.congr {names names' : List Text}
    (h : ∀ name, name ∈ names' ↔ name ∈ names) {t : Text} :
    Separate names' t ↔ Separate names t := by
  refine forall₂_congr fun piece _ => ?_
  cases piece with
  | plain c => rfl
  | token body => simp only [Stands, h]

/-- **A text of the template becomes the text with the cells of the row substituted**, whatever the
order of the columns. -/
theorem putIn_eq_substitute {header' row' : TemplateRow} {rows' : List TemplateRow}
    (hfits : Fits set header' rows') (hrow : StandsBelow header' row')
    (hsame : SaysSame header row header' row') (hquiet : Quiet header row) {s : Statement}
    (hs : s ∈ set.statements) {t : Text} (ht : t ∈ s.texts)
    (hseparate : Separate (columns header) t) :
    putIn (values header' row').entries t = substitute (cellUnder header row) t := by
  have hquiet' : Quiet header' row' := by
    intro column hcolumn value hvalue
    rw [hsame.columns] at hcolumn
    rw [hsame.cells column hcolumn] at hvalue
    exact (Inert.congr hsame.columns).2 (hquiet column hcolumn value hvalue)
  rw [putIn_values hfits hrow hquiet' ((Separate.congr hsame.columns).2 hseparate)]
  refine substitute_congr fun name hname => ?_
  have hmem := mem_columns hfits hs ht hname
  rw [get?_values_eq_cellUnder hfits.top hrow.length_eq hmem (hfits.isName hmem).nonempty]
  exact hsame.cells name ((hsame.columns name).1 hmem)

/-- **An example is the template with the cells of its row substituted.** -/
theorem substitutes_expandRow {header' row' : TemplateRow} {rows' : List TemplateRow}
    (hfits : Fits set header' rows') (hrow : StandsBelow header' row')
    (hsame : SaysSame header row header' row') :
    Substitutes set header row (expandRow set header' row') := by
  intro hquiet
  rw [statements_expandRow_eq, List.forall₂_map_right_iff, List.forall₂_same]
  exact fun s hs => changes_putInStatement [] _ fun t ht =>
    putIn_eq_substitute hfits hrow hsame hquiet hs ht.mem_texts

end Expand

/-- **Expansion is simultaneous substitution** where no marker can be found by mistake.

* Every token of a template has a cell in every row.
* The texts of an example are those of the template with the cells of its row substituted.
* With its columns in another order a table is expanded to the same texts. -/
theorem substitutes_of_expand {set : ExampleSet} {header : TemplateRow} {rows : List TemplateRow}
    {examples : List Example} (h : expand set header rows = .ok examples) :
    (∀ s ∈ set.statements, ∀ t ∈ s.texts, ∀ name ∈ names t, ∀ row ∈ rows,
      (cellUnder header row name).isSome) ∧
    List.Forall₂ (Substitutes set header) rows examples ∧
    ∀ order : List Nat, order.Perm (List.range (columns header).length) →
      ∃ arranged,
        expand set (header.arrange (firstColumn header) order)
          (rows.map (·.arrange (firstColumn header) order)) = .ok arranged ∧
        List.Forall₂ (Substitutes set header) rows arranged ∧
        ((∀ row ∈ rows, Quiet header row) →
          (∀ s ∈ set.statements, ∀ t, s.IsString t → Separate (columns header) t) →
          List.Forall₂ (fun e e' : Example =>
            List.Forall₂ (Statement.Changes Eq) e.statements e'.statements) examples arranged) := by
  obtain ⟨hfits, rfl⟩ := expand_eq_ok.1 h
  have hsame (row : TemplateRow) : SaysSame header row header row :=
    ⟨fun _ => Iff.rfl, fun _ _ => rfl⟩
  refine ⟨fun s hs t ht name hname row hrow => ?_, ?_, fun order horder => ?_⟩
  · exact isSome_cellUnder (hfits.rows row hrow) (mem_columns hfits hs ht hname)
  · rw [List.forall₂_map_right_iff, List.forall₂_same]
    exact fun row hrow => substitutes_expandRow hfits (hfits.rows row hrow) (hsame row)
  · have hfits' := fits_arrange horder hfits
    refine ⟨_, expand_eq_ok.2 ⟨hfits', rfl⟩, ?_, fun hquiet hseparate => ?_⟩
    · rw [List.map_map, List.forall₂_map_right_iff, List.forall₂_same]
      intro row hrow
      exact substitutes_expandRow hfits' (standsBelow_arrange horder hfits (hfits.rows row hrow))
        (saysSame_arrange horder hfits (hfits.rows row hrow))
    · rw [List.map_map, List.forall₂_map_left_iff, List.forall₂_map_right_iff, List.forall₂_same]
      intro row hrow
      have hbelow := hfits.rows row hrow
      simp only [Function.comp_apply, statements_expandRow_eq]
      rw [List.forall₂_map_left_iff, List.forall₂_map_right_iff, List.forall₂_same]
      refine fun s hs => changes_putInStatement _ _ fun t ht => ?_
      rw [putIn_eq_substitute hfits hbelow (hsame row) (hquiet row hrow) hs ht.mem_texts
          (hseparate s hs t ht),
        putIn_eq_substitute hfits' (standsBelow_arrange horder hfits hbelow)
          (saysSame_arrange horder hfits hbelow) (hquiet row hrow) hs ht.mem_texts
            (hseparate s hs t ht)]

/-- Two columns, and a value with a bracket that opens neither of them. -/
theorem substitutes_of_expand_bracket :
    ∃ set header row e, expand set header [row] = .ok [e] ∧
      header.cells = ["a".toList, "b".toList] ∧ row.cells = ["x < 3".toList, "y".toList] ∧
      (set.statements.map Statement.description = ["<a> and <b>".toList] ∧
        e.statements.map Statement.description = ["x < 3 and y".toList]) ∧
      Quiet header row ∧
      (∀ s ∈ set.statements, ∀ t, s.IsString t → Separate (columns header) t) ∧
      List.Forall₂
        (Statement.Changes fun t t' => Separate (columns header) t →
          t' = substitute (cellUnder header row) t)
        set.statements e.statements ∧
      ∃ arranged, expand set (header.arrange 0 [1, 0]) [row.arrange 0 [1, 0]] = .ok arranged ∧
        List.Forall₂ (fun e e' : Example =>
          List.Forall₂ (Statement.Changes Eq) e.statements e'.statements) [e] arranged := by
  let s : Statement := ⟨none, .condition, "<a> and <b>".toList, none, some 2⟩
  let set : ExampleSet := ⟨none, none, none, none, [s], some 2⟩
  let header : TemplateRow := ⟨4, none, none, none, ["a".toList, "b".toList]⟩
  let row : TemplateRow := ⟨6, none, none, none, ["x < 3".toList, "y".toList]⟩
  have hexpand : expand set header [row] = .ok [expandRow set header row] := by
    with_unfolding_all rfl
  have hquiet : Quiet header row := by
    intro column hcolumn value hvalue
    have hinert : ∀ column ∈ columns header,
        Inert (columns header) ((cellUnder header row column).getD []) := by
      decide
    simpa [hvalue] using hinert column hcolumn
  have hpieces : pieces s.description =
      [.token "a".toList, .plain ' ', .plain 'a', .plain 'n', .plain 'd', .plain ' ',
        .token "b".toList] := by
    with_unfolding_all rfl
  have hseparate : ∀ s ∈ set.statements, ∀ t, s.IsString t → Separate (columns header) t := by
    intro s hs t ht
    obtain rfl := List.mem_singleton.1 hs
    rcases ht with rfl | h | ⟨items, h, -⟩
    · rw [Separate, hpieces]
      decide
    · cases h
    · cases h
  obtain ⟨-, hrows, harranged⟩ := substitutes_of_expand hexpand
  obtain ⟨arranged, hagain, -, hsame⟩ := harranged [1, 0] (by decide)
  cases hrows with
  | cons hrow _ =>
    exact ⟨set, header, row, _, hexpand, rfl, rfl, ⟨rfl, by with_unfolding_all rfl⟩,
      hquiet, hseparate, hrow hquiet, arranged, hagain, hsame (by simpa using hquiet) hseparate⟩

/-- **A value that is a marker is scanned again** by the columns behind its own, and so the order of
the columns matters. -/
theorem not_substitutes_marker :
    ∃ set header row e e',
      expand set header [row] = .ok [e] ∧
      expand set (header.arrange 0 [1, 0]) [row.arrange 0 [1, 0]] = .ok [e'] ∧
      set.statements.map Statement.description = ["<a> and <b>".toList] ∧
      row.cells = ["<b>".toList, "x".toList] ∧
      substitute (cellUnder header row) "<a> and <b>".toList = "<b> and x".toList ∧
      e.statements.map Statement.description = ["x and x".toList] ∧
      e'.statements.map Statement.description = ["<b> and x".toList] ∧
      ∃ d, Document.parse ⟨"a".toList⟩ .reqsml
          "Requirement: r\nIf: <a> and <b>\nExamples:\n|a|b|\n|---|---|\n|<b>|x|".toList = .ok d ∧
        d.requirements.map Requirement.examples = [[e]] := by
  let s : Statement := ⟨none, .condition, "<a> and <b>".toList, none, some 2⟩
  let set : ExampleSet := ⟨none, none, none, none, [s], some 2⟩
  let header : TemplateRow := ⟨4, none, none, none, ["a".toList, "b".toList]⟩
  let row : TemplateRow := ⟨6, none, none, none, ["<b>".toList, "x".toList]⟩
  refine ⟨set, header, row, expandRow set header row,
    expandRow set (header.arrange 0 [1, 0]) (row.arrange 0 [1, 0]), ?_, ?_, rfl, rfl, ?_, ?_, ?_,
    ⟨⟨"a".toList⟩, none, none, none, .reqsml,
      [⟨none, none, none, none, "r".toList, [expandRow set header row]⟩]⟩, ?_, rfl⟩
  all_goals with_unfolding_all rfl

end Template

end PlainSpec
