import PlainSpec.Proofs.Canonical.Blocks
import PlainSpec.Proofs.Canonical.Portable
import PlainSpec.Proofs.Document.Tables
import PlainSpec.Proofs.Parser.Repetition

/-!
# Examples are grouped as they were written

The examples of a requirement are cut into groups before they are written.  Two examples go together
if their templates say the same and start on the same line.  What the templates say does not tell
two blocks apart that are copies of each other, so the cut rests on the lines alone: every block is
read from a place of its own, and its template keeps the line of that place, also where the first of
several readings of the block was given up.

An example is compared with the first one of its group only.  On the examples of one requirement
this is enough, since there two of them go together exactly if they have the same template or none.

## Main definitions

* `partAt`: the part that a position of a list is in.
* `Grammar.BlockRule`: the rules that read a block of examples.
* `Grammar.WrittenAt`: blocks that are read one behind the other, by their places.

## Main results

* `partAt_runs_succ`, `not_goesWith_of_adjacent`: where runs are cut.
* `Grammar.WrittenAt.lineNumber_lt`: blocks start on different lines.
* `Document.groups_of_parse`: groups of examples are the blocks that they were read from.
-/

namespace PlainSpec

open PlainSpec.Parser

/-! ## Parts of a list -/

/-- The number of the part that a position is in, in a list that is put together from parts. -/
def partAt {α : Type} : List (List α) → Nat → Nat
  | [], _ => 0
  | part :: parts, i => if i < part.length then 0 else partAt parts (i - part.length) + 1

section Parts

variable {α β : Type}

theorem partAt_map (f : α → β) (parts : List (List α)) (i : Nat) :
    partAt (parts.map (List.map f)) i = partAt parts i := by
  induction parts generalizing i with
  | nil => rfl
  | cons part parts ih => simp [partAt, ih]

/-- **A member is in the part of its position.** -/
theorem exists_part {parts : List (List α)} {i : Nat} {a : α} (h : parts.flatten[i]? = some a) :
    ∃ part, parts[partAt parts i]? = some part ∧ a ∈ part := by
  induction parts generalizing i with
  | nil => cases h
  | cons part parts ih =>
    rw [List.flatten_cons] at h
    unfold partAt
    split
    · rename_i hi
      rw [List.getElem?_append_left hi] at h
      exact ⟨part, rfl, List.mem_of_getElem? h⟩
    · rename_i hi
      rw [List.getElem?_append_right (Nat.le_of_not_lt hi)] at h
      exact ih h

/-- Positions further on are in the same part or in one further on. -/
theorem partAt_mono (parts : List (List α)) {i j : Nat} (h : i ≤ j) :
    partAt parts i ≤ partAt parts j := by
  induction parts generalizing i j with
  | nil => exact Nat.le_refl 0
  | cons part parts ih =>
    have hrest := @ih (i - part.length) (j - part.length) (by omega)
    unfold partAt
    split <;> split <;> omega

end Parts

/-! ## Where runs are cut -/

section Runs

variable {α κ : Type} {goesWith : α → α → Bool} {key : α → κ} {as : List α}

/-- Two members of a list go together exactly if they have the same key. -/
def ByKey (goesWith : α → α → Bool) (key : α → κ) (as : List α) : Prop :=
  ∀ a ∈ as, ∀ b ∈ as, goesWith a b = true ↔ key a = key b

theorem ByKey.sublist {bs : List α} (h : ByKey goesWith key as) (hs : bs.Sublist as) :
    ByKey goesWith key bs := fun a ha b hb => h a (hs.subset ha) b (hs.subset hb)

theorem first_mem_runs (a : α) (as : List α) :
    ⟨a, as.takeWhile (goesWith a)⟩ ∈ runs goesWith (a :: as) := by
  rw [runs_cons]
  exact List.mem_cons_self

/-- The runs of a list start with its first member. -/
theorem head?_of_runs {run : Several α} {others : List (Several α)}
    (h : runs goesWith as = run :: others) : as.head? = some run.head := by
  cases as with
  | nil =>
    rw [runs] at h
    cases h
  | cons a as =>
    rw [runs_cons] at h
    rw [← (List.cons.inj h).1, List.head?_cons]

/-- The first member behind a run does not go with the first one of it. -/
theorem not_goesWith_behind {a b : α} (h : (as.dropWhile (goesWith a)).head? = some b) :
    goesWith a b = false := by
  have hnot := List.head?_dropWhile_not (goesWith a) as
  rw [h] at hnot
  simpa using hnot

/-- The members of a run have the key of its first one. -/
theorem key_of_mem_run (h : ByKey goesWith key as) {run : Several α} (hrun : run ∈ runs goesWith as)
    {a : α} (ha : a ∈ run.toList) : key run.head = key a := by
  obtain ⟨hmem, hgoes⟩ := mem_of_mem_runs hrun
  rcases List.mem_cons.1 ha with rfl | htail
  · rfl
  · exact (h _ (hmem _ List.mem_cons_self) a (hmem a ha)).1 (hgoes a htail)

/-- **Neighbours with one key are in one run.** -/
theorem partAt_runs_succ (h : ByKey goesWith key as) {i : Nat} {a b : α} (ha : as[i]? = some a)
    (hb : as[i + 1]? = some b) (hkey : key a = key b) :
    partAt ((runs goesWith as).map Several.toList) i =
      partAt ((runs goesWith as).map Several.toList) (i + 1) := by
  fun_induction runs goesWith as generalizing i with
  | case1 => rfl
  | case2 first rest ih =>
    have hrun := @first_mem_runs _ goesWith first rest
    generalize hrun' : rest.takeWhile (goesWith first) = run at hrun ⊢
    generalize hbehind : rest.dropWhile (goesWith first) = behind at ih ⊢
    have hsplit : first :: rest = (first :: run) ++ behind := by
      rw [← hrun', ← hbehind, List.cons_append, List.takeWhile_append_dropWhile]
    have hsub : behind.Sublist (first :: rest) := hsplit ▸ List.sublist_append_right _ _
    have hlength : (Several.toList ⟨first, run⟩).length = run.length + 1 := rfl
    rw [List.map_cons, partAt, partAt, hlength]
    rw [hsplit] at ha hb
    rcases Nat.lt_trichotomy i run.length with hlt | rfl | hgt
    · rw [if_pos (by omega), if_pos (by omega)]
    · -- behind the run stands a member that does not go with the first one
      rw [List.getElem?_append_left (by simp)] at ha
      rw [List.getElem?_append_right (by simp), List.length_cons, Nat.sub_self] at hb
      have hsame : key first = key a := key_of_mem_run h hrun (List.mem_of_getElem? ha)
      have hgoes := (h first List.mem_cons_self b (hsub.subset (List.mem_of_getElem? hb))).2
        (hsame.trans hkey)
      have hnot : goesWith first b = false :=
        not_goesWith_behind (by rw [hbehind, List.head?_eq_getElem?, hb])
      rw [hnot] at hgoes
      cases hgoes
    · have hnext : i + 1 - (run.length + 1) = i - (run.length + 1) + 1 := by omega
      rw [List.getElem?_append_right (by simp; omega), List.length_cons] at ha hb
      rw [hnext] at hb
      rw [if_neg (by omega), if_neg (by omega), hnext]
      exact congrArg (· + 1) (ih (h.sublist hsub) ha hb)

/-- **Members of neighbouring runs do not go together.** -/
theorem not_goesWith_of_adjacent (h : ByKey goesWith key as) {first second : Several α}
    {others : List (Several α)} (hsuffix : first :: second :: others <:+ runs goesWith as) :
    ∀ a ∈ first.toList, ∀ b ∈ second.toList, goesWith a b = false := by
  fun_induction runs goesWith as with
  | case1 => simp at hsuffix
  | case2 x rest ih =>
    have hsub : (rest.dropWhile (goesWith x)).Sublist (x :: rest) :=
      (List.dropWhile_sublist _).trans (List.sublist_cons_self x rest)
    rcases List.suffix_cons_iff.1 hsuffix with heq | hsuffix
    · obtain ⟨rfl, hruns⟩ := List.cons.inj heq
      intro a ha b hb
      have hfirst := @first_mem_runs _ goesWith x rest
      have hsecond : second ∈ runs goesWith (rest.dropWhile (goesWith x)) :=
        hruns ▸ List.mem_cons_self
      have hmem := fun y hy => hsub.subset ((mem_of_mem_runs hsecond).1 y hy)
      -- the keys of the runs are those of their first members, which do not go together
      have hnot := not_goesWith_behind (head?_of_runs hruns.symm)
      have hx := key_of_mem_run h hfirst ha
      have hy := key_of_mem_run (h.sublist hsub) hsecond hb
      rw [← Bool.not_eq_true, h x List.mem_cons_self _ (hmem _ List.mem_cons_self)] at hnot
      rw [← Bool.not_eq_true, h a ((mem_of_mem_runs hfirst).1 a ha) b (hmem b hb), ← hx, ← hy]
      exact hnot
    · exact ih (h.sublist hsub) hsuffix

/-- Positions with one key all the way between them are in one run. -/
theorem partAt_runs_eq (h : ByKey goesWith key as) {i j : Nat} (hij : i ≤ j) {k : κ}
    (hkey : ∀ m, i ≤ m → m ≤ j → ∃ a, as[m]? = some a ∧ key a = k) :
    partAt ((runs goesWith as).map Several.toList) i =
      partAt ((runs goesWith as).map Several.toList) j := by
  induction j, hij using Nat.le_induction with
  | base => rfl
  | succ j hij ih =>
    obtain ⟨a, ha, hka⟩ := hkey j hij (Nat.le_succ j)
    obtain ⟨b, hb, hkb⟩ := hkey (j + 1) (Nat.le_succ_of_le hij) (Nat.le_refl _)
    rw [ih fun m hm hmj => hkey m hm (Nat.le_succ_of_le hmj)]
    exact partAt_runs_succ h ha hb (hka.trans hkb.symm)

end Runs

/-! ## Blocks as they are written -/

namespace Parser

theorem Consuming.several {α β : Type} {element : Parser α} (hc : Consuming element)
    (hd : Disciplined element) (name : String) (stop : Parser β) :
    Consuming (several name element stop) := by
  intro c values n h
  refine of_reached c.reaches_skipBlank ?_
  generalize hvs : values.toList = vs at *
  have hrun : Run element stop c.skipBlank vs n := hvs ▸ several_eq_ok.1 h
  cases hrun with
  | stop => cases hvs
  | step _ he _ hrest => exact of_reaches (hc _ _ _ he) (hd.run_reaches hrest)
  | stuck _ he _ => exact hc _ _ _ he

end Parser

namespace Grammar

/-- The rules that read a block of examples: a single example, or a template and its table. -/
inductive BlockRule : Dialect → Parser (List Example) → Prop where
  /-- A titled example or template. -/
  | titled : BlockRule .reqsml ReqsML.block
  /-- The examples of a requirement that have no title. -/
  | untitled : BlockRule .reqsml ReqsML.inlineExamples
  /-- A scenario or an outline. -/
  | scenario : BlockRule .gherkin Gherkin.block

namespace ReqsML

theorem consuming_inlineStatements : Consuming inlineStatements := fun _ _ _ h =>
  ((consuming_statementGroup.several disciplined_statementGroup _ _).map _) _ _ _
    (statements_of_inlineStatements h)

theorem consuming_inlineExamples : Consuming inlineExamples := fun c v n h =>
  ((consuming_inlineStatements.both_left disciplined_optionalRows).check _) c v n h

end ReqsML

/-- The examples are of one block: they have the same template, which starts on the line, or
none. -/
def OneBlock (line : Nat) (examples : List Example) : Prop :=
  examples ≠ [] ∧ ∃ set : Option ExampleSet,
    (∀ e ∈ examples, e.exampleSet = set) ∧ ∀ s, set = some s → s.line = some line

theorem oneBlock_of_none {line : Nat} {e : Example} (h : e.exampleSet = none) : OneBlock line [e] :=
  ⟨List.cons_ne_nil _ _, none, List.forall_mem_singleton.2 h, nofun⟩

theorem oneBlock_expandRow {line : Nat} {set : ExampleSet} (hset : set.line = some line)
    {header : TemplateRow} {rows : List TemplateRow} (hne : rows ≠ []) :
    OneBlock line (rows.map (Template.expandRow set header)) := by
  refine ⟨by simpa using hne, some set, List.forall_mem_map.2 fun row _ => rfl, ?_⟩
  rintro s ⟨⟩
  exact hset

namespace BlockRule

variable {dialect : Dialect} {rule : Parser (List Example)} {c n : Cursor} {examples : List Example}

theorem consuming (h : BlockRule dialect rule) : Consuming rule := by
  cases h with
  | titled => exact ReqsML.consuming_block
  | untitled => exact ReqsML.consuming_inlineExamples
  | scenario => exact Gherkin.consuming_block

theorem disciplined (h : BlockRule dialect rule) : Disciplined rule := by
  cases h with
  | titled => exact ReqsML.disciplined_block
  | untitled => exact ReqsML.disciplined_inlineExamples
  | scenario => exact Gherkin.disciplined_block

/-- **A block keeps the line that it starts on**, whichever of its readings succeeds. -/
theorem oneBlock (h : BlockRule dialect rule) (hread : rule c = .ok examples n) :
    OneBlock c.lineNumber examples := by
  cases h with
  | titled =>
    rcases orElse_eq_ok.1 hread with hset | ⟨-, hsingle⟩
    · obtain ⟨⟨⟨⟨front, title⟩, found⟩, rows⟩, -, hcheck⟩ := check_eq_ok.1 hset
      dsimp only at hcheck
      split at hcheck
      · cases hcheck
      · obtain ⟨header, -, values, -, hne, -, -, rfl⟩ := ReqsML.expandRows_eq_ok.1 hcheck
        exact oneBlock_expandRow (by simp) hne
    · obtain ⟨e, he, rfl⟩ := map_eq_ok.1 hsingle
      obtain ⟨⟨⟨front, title⟩, found⟩, -, hcheck⟩ := check_eq_ok.1 he
      dsimp only at hcheck
      split at hcheck
      · cases hcheck
      · cases hcheck
        exact oneBlock_of_none rfl
  | untitled =>
    obtain ⟨⟨found, rows⟩, -, hcheck⟩ := check_eq_ok.1 hread
    cases rows with
    | none =>
      dsimp only at hcheck
      split at hcheck
      · cases hcheck
      · cases hcheck
        exact oneBlock_of_none rfl
    | some rows =>
      obtain ⟨header, -, values, -, hne, -, -, rfl⟩ := ReqsML.expandRows_eq_ok.1 hcheck
      exact oneBlock_expandRow rfl hne
  | scenario =>
    rcases orElse_eq_ok.1 hread with houtline | ⟨-, hsingle⟩
    · obtain ⟨⟨⟨⟨front, title⟩, found⟩, rows⟩, -, hcheck⟩ := check_eq_ok.1 houtline
      dsimp only at hcheck
      split at hcheck
      · cases hcheck
      · rename_i hvalues
        obtain ⟨-, rfl⟩ := Template.expand_eq_ok.1 hcheck
        exact oneBlock_expandRow (by simp) (by simpa using hvalues)
    · obtain ⟨e, he, rfl⟩ := map_eq_ok.1 hsingle
      obtain ⟨⟨⟨front, title⟩, found⟩, -, hcheck⟩ := check_eq_ok.1 he
      dsimp only at hcheck
      split at hcheck
      · cases hcheck
      · cases hcheck
        exact oneBlock_of_none rfl

end BlockRule

/-- The blocks are read one behind the other from a source, each with a rule of the dialect: the
block at `i` from the position `place i` up to the position `place (i + 1)`. -/
structure WrittenAt (dialect : Dialect) (text : Text) (place : Nat → Nat)
    (blocks : List (List Example)) :
    Prop where
  within : ∀ i ≤ blocks.length, place i ≤ (Line.split text).length
  ordered : ∀ i < blocks.length, place i < place (i + 1)
  reads : ∀ (i : Nat) (h : i < blocks.length), ∃ rule, BlockRule dialect rule ∧
    rule (.after (Line.split text) (place i)) =
      .ok blocks[i] (.after (Line.split text) (place (i + 1)))

namespace WrittenAt

variable {dialect : Dialect} {text : Text} {place : Nat → Nat} {blocks : List (List Example)}

/-- **Blocks start on different lines**, further down one after the other. -/
theorem lineNumber_lt (h : WrittenAt dialect text place blocks) {i j : Nat} (hij : i < j)
    (hj : j < blocks.length) :
    (Cursor.after (Line.split text) (place i)).lineNumber <
      (Cursor.after (Line.split text) (place j)).lineNumber := by
  have hsound (p : Nat) : (Cursor.after (Line.split text) p).Sound :=
    (Cursor.sound_ofText text).of_suffix (List.drop_suffix p (Line.split text))
  induction j, hij using Nat.le_induction with
  | base =>
    obtain ⟨rule, hrule, hread⟩ := h.reads i (Nat.lt_of_succ_lt hj)
    obtain ⟨rule', hrule', hread'⟩ := h.reads (i + 1) hj
    exact hrule.consuming.lineNumber_lt (hsound _) hread
      (hrule'.consuming.not_atEnd hread')
  | succ j hij ih =>
    obtain ⟨rule, hrule, hread⟩ := h.reads j (Nat.lt_of_succ_lt hj)
    obtain ⟨rule', hrule', hread'⟩ := h.reads (j + 1) hj
    exact (ih (Nat.lt_of_succ_lt hj)).trans (hrule.consuming.lineNumber_lt
      (hsound _) hread (hrule'.consuming.not_atEnd hread'))

/-- Members of different blocks do not have one template. -/
theorem eq_of_exampleSet (h : WrittenAt dialect text place blocks) {i j : Nat} {b b' : List Example}
    (hi : blocks[i]? = some b) (hj : blocks[j]? = some b') {e e' : Example} (he : e ∈ b)
    (he' : e' ∈ b')
    {set set' : ExampleSet} (hset : e.exampleSet = some set) (hset' : e'.exampleSet = some set')
    (hline : set.line = set'.line) : i = j := by
  have hstart {k : Nat} {b : List Example} (hk : blocks[k]? = some b) {e : Example} (he : e ∈ b)
      {set : ExampleSet} (hset : e.exampleSet = some set) :
      k < blocks.length ∧
        set.line = some (Cursor.after (Line.split text) (place k)).lineNumber := by
    obtain ⟨hlength, rfl⟩ := List.getElem?_eq_some_iff.1 hk
    obtain ⟨rule, hrule, hread⟩ := h.reads k hlength
    obtain ⟨-, found, hall, hfound⟩ := hrule.oneBlock hread
    exact ⟨hlength, hfound set ((hall e he).symm.trans hset)⟩
  obtain ⟨hilt, hiline⟩ := hstart hi he hset
  obtain ⟨hjlt, hjline⟩ := hstart hj he' hset'
  rw [hiline, hjline, Option.some.injEq] at hline
  rcases Nat.lt_trichotomy i j with hlt | heq | hgt
  · exact absurd hline (Nat.ne_of_lt (h.lineNumber_lt hlt hjlt))
  · exact heq
  · exact absurd hline.symm (Nat.ne_of_lt (h.lineNumber_lt hgt hilt))

/-- Members of one block have one template, or none. -/
theorem exampleSet_eq (h : WrittenAt dialect text place blocks) {b : List Example} (hb : b ∈ blocks)
    {e e' : Example} (he : e ∈ b) (he' : e' ∈ b) : e.exampleSet = e'.exampleSet := by
  obtain ⟨i, hi, rfl⟩ := List.mem_iff_getElem.1 hb
  obtain ⟨rule, hrule, hread⟩ := h.reads i hi
  obtain ⟨-, set, hall, -⟩ := hrule.oneBlock hread
  rw [hall e he, hall e' he']

/-- **Examples go together exactly if they have the same template, or none.** -/
theorem sameBlock_iff (h : WrittenAt dialect text place blocks) :
    ByKey Canonical.sameBlock Example.exampleSet blocks.flatten := by
  intro a ha b hb
  unfold Canonical.sameBlock
  cases hset : a.exampleSet with
  | none => cases hset' : b.exampleSet <;> simp
  | some set =>
    cases hset' : b.exampleSet with
    | none => simp
    | some set' =>
      simp only [Bool.and_eq_true, beq_iff_eq, Option.some.injEq]
      constructor
      · -- templates that start on the same line are those of one block
        rintro ⟨-, hline⟩
        obtain ⟨p, hp, ha⟩ := List.mem_flatten.1 ha
        obtain ⟨q, hq, hb⟩ := List.mem_flatten.1 hb
        obtain ⟨i, hi⟩ := List.getElem?_of_mem hp
        obtain ⟨j, hj⟩ := List.getElem?_of_mem hq
        obtain rfl := h.eq_of_exampleSet hi hj ha hb hset hset' hline
        obtain rfl := Option.some.inj (hi.symm.trans hj)
        have heq := h.exampleSet_eq hp ha hb
        rw [hset, hset'] at heq
        exact Option.some.inj heq
      · rintro rfl
        exact ⟨ExampleSet.sameAs_of_relabel_eq (f := id) rfl, rfl⟩

end WrittenAt

/-! ## Blocks of a requirement -/

/-- The examples are those of some blocks of a source. -/
def Blocks (dialect : Dialect) (text : Text) (examples : List Example) : Prop :=
  ∃ place blocks, WrittenAt dialect text place blocks ∧ examples = blocks.flatten

variable {dialect : Dialect} {text : Text}

theorem BlockRule.blocks_of_read {rule : Parser (List Example)} (h : BlockRule dialect rule) :
    YieldsFrom (Cursor.PlaceIn text) rule (Blocks dialect text) := by
  rintro c examples n ⟨p, hp, rfl⟩ hread
  obtain ⟨q, hpq, hq, rfl⟩ := Cursor.reaches_after hp (h.disciplined.reaches hread)
  have hlt := h.consuming.length_lt hread
  rw [Cursor.length_rest_after, Cursor.length_rest_after] at hlt
  refine ⟨pushPlace p fun _ => q, [examples], ?_, by simp⟩
  constructor
  · intro i hi
    cases i with
    | zero => exact hp
    | succ i => exact hq
  · intro i hi
    obtain rfl : i = 0 := Nat.lt_one_iff.1 hi
    show p < q
    omega
  · intro i hi
    obtain rfl : i = 0 := Nat.lt_one_iff.1 hi
    exact ⟨rule, h, hread⟩

theorem BlockRule.blocks_of_several {rule : Parser (List Example)} (h : BlockRule dialect rule)
    {name : String} {β : Type} {stop : Parser β} :
    YieldsFrom (Cursor.PlaceIn text) (Parser.map (several name rule stop) fun blocks =>
      blocks.toList.flatten) (Blocks dialect text) := by
  intro c examples n hc hread
  obtain ⟨blocks, hblocks, rfl⟩ := map_eq_ok.1 hread
  obtain ⟨p, hp, hskip⟩ := Cursor.lasting_placeIn text hc (Cursor.reaches_skipBlank c)
  have hrun := several_eq_ok.1 hblocks
  rw [hskip] at hrun
  obtain ⟨place, hchain, -, -⟩ := exists_chain_of_run h.disciplined hp hrun
  refine ⟨place, blocks.toList, ⟨hchain.within, fun i hi => ?_, fun i hi => ?_⟩, rfl⟩
  · have hlt := h.consuming.length_lt (hchain.reads i hi)
    rw [Cursor.length_rest_after, Cursor.length_rest_after] at hlt
    omega
  · exact ⟨rule, h, hchain.reads i hi⟩

theorem ReqsML.blocks_of_requirement :
    YieldsFrom (Cursor.PlaceIn text) requirement fun r =>
      ∃ labels es, Blocks .reqsml text es ∧ r.examples = es.map (inherit labels) := by
  have hlasting := Cursor.lasting_placeIn text
  refine (YieldsFrom.both hlasting (YieldsFrom.any _) (disciplined_headed _)
    (YieldsFrom.orElse hlasting BlockRule.untitled.blocks_of_read
      BlockRule.titled.blocks_of_several)).map ?_
  rintro ⟨⟨front, title⟩, es⟩ ⟨-, hes⟩
  exact ⟨front.metadata.labels, es, hes, rfl⟩

theorem Gherkin.blocks_of_rule :
    YieldsFrom (Cursor.PlaceIn text) rule fun r => Blocks .gherkin text r.examples :=
  (YieldsFrom.both (Cursor.lasting_placeIn text) (YieldsFrom.any _) (disciplined_headed _)
    BlockRule.scenario.blocks_of_several).map fun _ h => h.2

end Grammar

open Grammar

theorem Document.blocks_of_parse {source : Path} {dialect : Dialect} {text : Text} {d : Document}
    (h : Document.parse source dialect text = .ok d) {r : Requirement} (hr : r ∈ d.requirements) :
    ∃ labels es, Blocks dialect text es ∧ r.examples = es.map (ReqsML.inherit labels) := by
  have hlasting := Cursor.lasting_placeIn text
  have hplace := Cursor.placeIn_ofText text
  cases dialect with
  | reqsml =>
    obtain ⟨rs, n, hrs, rfl⟩ := Document.parse_reqsml_eq_ok.1 h
    exact YieldsFrom.several hlasting ReqsML.blocks_of_requirement ReqsML.disciplined_requirement
      _ _ _ hplace hrs r hr
  | gherkin =>
    obtain ⟨comments, tags, title, own, -, hown, rfl⟩ :=
      Document.requirements_of_parse_gherkin hlasting hplace Gherkin.blocks_of_rule
        (fun _ _ => BlockRule.scenario.blocks_of_several) h
    obtain ⟨s, hs, rfl⟩ := List.mem_map.1 hr
    exact ⟨_, s.examples, hown s hs, rfl⟩

/-! ## Groups -/

namespace Canonical

/-- The groups of examples that are written together. -/
def groups (examples : List Example) : List (List Example) := (blocks examples).map Several.toList

theorem flatten_groups (examples : List Example) : (groups examples).flatten = examples := by
  rw [groups, ← List.flatMap_def]
  exact flatMap_runs sameBlock examples

theorem ne_nil_of_mem_groups {examples group : List Example} (h : group ∈ groups examples) :
    group ≠ [] := by
  obtain ⟨run, -, rfl⟩ := List.mem_map.1 h
  exact List.cons_ne_nil _ _

/-- Inherited labels do not change the groups. -/
theorem groups_inherit (labels : Labels) (es : List Example) :
    groups (es.map (ReqsML.inherit labels)) =
      (groups es).map (List.map (ReqsML.inherit labels)) := by
  have hblocks : blocks (es.map (ReqsML.inherit labels)) =
      (blocks es).map (Several.map (ReqsML.inherit labels)) := runs_map (ReqsML.inherit labels) es
  rw [groups, hblocks, groups, List.map_map, List.map_map]
  exact List.map_congr_left fun run _ => Several.toList_map _ run

variable {dialect : Dialect} {text : Text} {place : Nat → Nat} {blocks : List (List Example)}

/-- Examples of one group have one template, or none. -/
theorem exampleSet_eq_of_partAt_groups (h : WrittenAt dialect text place blocks) {i j : Nat}
    {e f : Example} (hi : blocks.flatten[i]? = some e) (hj : blocks.flatten[j]? = some f)
    (hpart : partAt (groups blocks.flatten) i = partAt (groups blocks.flatten) j) :
    e.exampleSet = f.exampleSet := by
  rw [← flatten_groups blocks.flatten] at hi hj
  obtain ⟨group, hgroup, he⟩ := exists_part hi
  obtain ⟨group', hgroup', hf⟩ := exists_part hj
  rw [← hpart, hgroup] at hgroup'
  cases hgroup'
  obtain ⟨run, hrun, rfl⟩ := List.mem_map.1 (List.mem_of_getElem? hgroup)
  exact (key_of_mem_run h.sameBlock_iff hrun he).symm.trans (key_of_mem_run h.sameBlock_iff hrun hf)

/-- Examples of one block are in one group. -/
theorem partAt_groups_of_partAt (h : WrittenAt dialect text place blocks) {i j : Nat} (hij : i ≤ j)
    (hj : j < blocks.flatten.length) (hpart : partAt blocks i = partAt blocks j) :
    partAt (groups blocks.flatten) i = partAt (groups blocks.flatten) j := by
  obtain ⟨e, he⟩ : ∃ e, blocks.flatten[i]? = some e :=
    ⟨_, List.getElem?_eq_getElem (hij.trans_lt hj)⟩
  obtain ⟨b, hb, heb⟩ := exists_part he
  refine partAt_runs_eq (k := e.exampleSet) h.sameBlock_iff hij fun m him hmj => ?_
  obtain ⟨x, hx⟩ : ∃ x, blocks.flatten[m]? = some x :=
    ⟨_, List.getElem?_eq_getElem (hmj.trans_lt hj)⟩
  obtain ⟨b', hb', hxb⟩ := exists_part hx
  have hsame : partAt blocks m = partAt blocks i :=
    Nat.le_antisymm (hpart ▸ partAt_mono blocks hmj) (partAt_mono blocks him)
  rw [hsame, hb] at hb'
  cases hb'
  exact ⟨x, hx, h.exampleSet_eq (List.mem_of_getElem? hb) hxb heb⟩

/-- **Two examples of templates are in one group exactly if they are in one block.** -/
theorem partAt_groups_iff (h : WrittenAt dialect text place blocks) {i j : Nat} {e f : Example}
    (hi : blocks.flatten[i]? = some e) (hj : blocks.flatten[j]? = some f)
    (he : e.exampleSet.isSome = true) :
    partAt (groups blocks.flatten) i = partAt (groups blocks.flatten) j ↔
      partAt blocks i = partAt blocks j := by
  constructor
  · intro hpart
    have hsets := exampleSet_eq_of_partAt_groups h hi hj hpart
    obtain ⟨set, hset⟩ := Option.isSome_iff_exists.1 he
    obtain ⟨b, hb, heb⟩ := exists_part hi
    obtain ⟨b', hb', hfb⟩ := exists_part hj
    exact h.eq_of_exampleSet hb hb' heb hfb hset (hsets.symm.trans hset) rfl
  · intro hpart
    have hilt := (List.getElem?_eq_some_iff.1 hi).1
    have hjlt := (List.getElem?_eq_some_iff.1 hj).1
    rcases Nat.le_total i j with hij | hji
    · exact partAt_groups_of_partAt h hij hjlt hpart
    · exact (partAt_groups_of_partAt h hji hilt hpart.symm).symm

end Canonical

/-- **Groups of examples are the blocks that they were read from.**  The examples of a requirement
are those of blocks that are read one behind the other, with its labels.  They are cut into groups
that have members and are the examples when put together.  Of two examples with templates, those and
only those of one block are in one group.  No example goes together with one of the next group. -/
theorem Document.groups_of_parse {source : Path} {dialect : Dialect} {text : Text} {d : Document}
    (h : Document.parse source dialect text = .ok d) {r : Requirement} (hr : r ∈ d.requirements) :
    ∃ labels place blocks, WrittenAt dialect text place blocks ∧
      r.examples = blocks.flatten.map (ReqsML.inherit labels) ∧
      (Canonical.groups r.examples).flatten = r.examples ∧
      (∀ group ∈ Canonical.groups r.examples, group ≠ []) ∧
      (∀ (i j : Nat) (e f : Example), r.examples[i]? = some e → r.examples[j]? = some f →
        e.exampleSet.isSome = true → f.exampleSet.isSome = true →
        (partAt (Canonical.groups r.examples) i = partAt (Canonical.groups r.examples) j ↔
          partAt blocks i = partAt blocks j)) ∧
      ∀ first second others, first :: second :: others <:+ Canonical.groups r.examples →
        ∀ e ∈ first, ∀ f ∈ second, Canonical.sameBlock e f = false := by
  obtain ⟨labels, es, ⟨place, blocks, hblocks, rfl⟩, hexamples⟩ := Document.blocks_of_parse h hr
  refine ⟨labels, place, blocks, hblocks, hexamples, Canonical.flatten_groups _,
    fun _ => Canonical.ne_nil_of_mem_groups, fun i j e f hi hj he hf => ?_,
    fun first second others hsuffix e he f hf => ?_⟩
  · rw [hexamples, List.getElem?_map] at hi hj
    obtain ⟨e', hi', rfl⟩ := Option.map_eq_some_iff.1 hi
    obtain ⟨f', hj', rfl⟩ := Option.map_eq_some_iff.1 hj
    rw [hexamples, Canonical.groups_inherit, partAt_map, partAt_map]
    exact Canonical.partAt_groups_iff hblocks hi' hj' he
  · have hkey : ByKey Canonical.sameBlock Example.exampleSet r.examples := by
      rw [hexamples]
      rintro _ ha _ hb
      obtain ⟨a', ha', rfl⟩ := List.mem_map.1 ha
      obtain ⟨b', hb', rfl⟩ := List.mem_map.1 hb
      exact hblocks.sameBlock_iff a' ha' b' hb'
    obtain ⟨_, hruns, hgroups⟩ := List.suffix_map_iff.1 hsuffix
    obtain ⟨run, _, rfl, rfl, hothers⟩ := List.map_eq_cons_iff.1 hgroups.symm
    obtain ⟨run', _, rfl, rfl, -⟩ := List.map_eq_cons_iff.1 hothers
    exact not_goesWith_of_adjacent hkey hruns e he f hf

/-- Two templates that say the same, with two rows each: the groups are the two blocks. -/
theorem Document.groups_of_parse_copies :
    ∃ d, Document.parse ⟨"a".toList⟩ .reqsml
        ("Requirement: a\n".toList ++
          "Example Set: b\nIf: <x>\nExamples:\n|x|\n|---|\n|1|\n|2|\n".toList ++
          "Example Set: b\nIf: <x>\nExamples:\n|x|\n|---|\n|1|\n|2|\n".toList) = .ok d ∧
      ∃ r ∈ d.requirements, (Canonical.groups r.examples).map List.length = [2, 2] ∧
        (Canonical.groups r.examples).flatten = r.examples := by
  let statement (t : Text) (line : Nat) : Statement := ⟨none, .condition, t, none, some line⟩
  let set (line : Nat) : ExampleSet :=
    ⟨none, none, none, some "b".toList, [statement "<x>".toList (line + 1)], some line⟩
  let e (line : Nat) (t : Text) : Example :=
    ⟨none, none, none, none, some "b".toList, [statement t (line + 1)], some (set line),
      some ⟨none, none, none, none, .ofList [("x".toList, t)]⟩⟩
  let r : Requirement := ⟨none, none, none, none, "a".toList,
    [e 2 "1".toList, e 2 "2".toList, e 9 "1".toList, e 9 "2".toList]⟩
  have hparse : Document.parse ⟨"a".toList⟩ .reqsml
      ("Requirement: a\n".toList ++
        "Example Set: b\nIf: <x>\nExamples:\n|x|\n|---|\n|1|\n|2|\n".toList ++
        "Example Set: b\nIf: <x>\nExamples:\n|x|\n|---|\n|1|\n|2|\n".toList) =
      .ok ⟨⟨"a".toList⟩, none, none, none, .reqsml, [r]⟩ := by
    with_unfolding_all rfl
  obtain ⟨_, _, _, -, -, hflatten, -⟩ := Document.groups_of_parse hparse (List.mem_singleton_self r)
  exact ⟨_, hparse, r, List.mem_singleton_self r, by decide +kernel, hflatten⟩

end PlainSpec
