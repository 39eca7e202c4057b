import PlainSpec.Proofs.Canonical.Examples

/-!
# The rows of examples are the rows of their blocks

Examples are written in runs that belong together: those of one template, which is told by what it
says and where it starts, and those without a template.  For examples that were read, the runs are
the blocks that they were read in, except that neighbouring titled examples make one run.  Nothing
that is written depends on where it stood, apart from the cut into runs.

## Main results

* `Canonical.statements_bare`, `Canonical.blockRows_bare`: places are not written.
* `Canonical.examples_inherit`: inherited labels are not written.
* `Canonical.examples_flatten`: titled examples are written block by block.
-/

namespace PlainSpec

open Grammar Grammar.ReqsML

/-! ## Runs -/

section Runs

variable {α β : Type} {goesWith : α → α → Bool}

theorem runs_cons (a : α) (as : List α) :
    runs goesWith (a :: as) =
      ⟨a, as.takeWhile (goesWith a)⟩ :: runs goesWith (as.dropWhile (goesWith a)) := by
  rw [runs]

/-- Elements that go with the first one, and one that does not, make a run. -/
theorem runs_append {a : α} {as bs : List α} (has : ∀ b ∈ as, goesWith a b = true)
    (hbs : ∀ b, bs.head? = some b → goesWith a b = false) :
    runs goesWith (a :: as ++ bs) = ⟨a, as⟩ :: runs goesWith bs := by
  rw [List.cons_append, runs_cons, List.takeWhile_append_of_pos has,
    List.dropWhile_append_of_pos has]
  cases bs with
  | nil => simp
  | cons b bs => simp [hbs b rfl]

theorem runs_map (f : β → α) (bs : List β) :
    runs goesWith (bs.map f) = (runs (fun a b => goesWith (f a) (f b)) bs).map (Several.map f) := by
  fun_induction runs (fun a b => goesWith (f a) (f b)) bs with
  | case1 => simp [runs]
  | case2 b bs ih =>
    rw [List.map_cons, runs_cons, List.takeWhile_map, List.dropWhile_map]
    exact congrArg _ ih

end Runs

namespace Canonical

/-! ## What is not written -/

theorem group_bare (g : Several Statement) : group (g.map Statement.bare) = group g := by
  obtain ⟨s, rest⟩ := g
  cases rest with
  | nil => rfl
  | cons s' rest =>
    simp only [group, Several.map, List.map_cons, Several.toList, List.flatMap_cons,
      List.flatMap_map]
    rfl

/-- **Statements are written without their places.** -/
theorem statements_bare (ss : List Statement) :
    Canonical.statements (ss.map Statement.bare) = Canonical.statements ss := by
  rw [Canonical.statements, runs_map, List.flatMap_map]
  simp only [group_bare]
  rfl

theorem singleExample_bare (e : Example) : singleExample e.bare = singleExample e := by
  have hstatements : e.bare.statements = e.statements.map Statement.bare := rfl
  simp only [singleExample]
  rw [hstatements, statements_bare]
  rfl

theorem examplesTable_bare (es : List Example) :
    examplesTable (es.map Example.bare) = examplesTable es := by
  have hrows : (es.map Example.bare).filterMap Example.specification =
      es.filterMap Example.specification := by
    rw [List.filterMap_map]
    rfl
  simp only [examplesTable, hrows]

theorem template_bare (set : ExampleSet) (es : List Example) :
    template set.bare (es.map Example.bare) = template set es := by
  have hstatements : set.bare.statements = set.statements.map Statement.bare := rfl
  rw [template, template, hstatements, statements_bare, examplesTable_bare]

theorem exampleSet_bare (set : ExampleSet) (es : List Example) :
    exampleSet set.bare (es.map Example.bare) = exampleSet set es := by
  rw [exampleSet, exampleSet, template_bare]
  rfl

/-- **Blocks are written without their places.** -/
theorem blockRows_bare (b : List Example) : blockRows (b.map Example.bare) = blockRows b := by
  have hset : blockSet? (b.map Example.bare) = (blockSet? b).map ExampleSet.bare := by
    cases b <;> rfl
  unfold blockRows
  rw [hset]
  cases blockSet? b with
  | some set => exact exampleSet_bare set b
  | none =>
    simp only [Option.map_none, List.flatMap_map, singleExample_bare]

theorem template_inherit (labels : Labels) (set : ExampleSet) (es : List Example) :
    template set (es.map (inherit labels)) = template set es := by
  have hrows : (es.map (inherit labels)).filterMap Example.specification =
      es.filterMap Example.specification := by
    rw [List.filterMap_map]
    rfl
  simp only [template, examplesTable, hrows]

theorem block_inherit (labels : Labels) (run : Several Example) :
    block (run.map (inherit labels)) = block run := by
  have hset : (run.map (inherit labels)).head.exampleSet = run.head.exampleSet := rfl
  unfold block
  rw [hset, Several.toList_map]
  cases run.head.exampleSet with
  | some set => simp only [exampleSet, template_inherit]
  | none =>
    rw [List.flatMap_map]
    rfl

/-- **Inherited labels are not written.** -/
theorem examples_inherit (labels : Labels) (es : List Example) :
    Canonical.examples (es.map (inherit labels)) = Canonical.examples es := by
  have hblocks : blocks (es.map (inherit labels)) =
      (blocks es).map (Several.map (inherit labels)) :=
    runs_map (inherit labels) es
  unfold Canonical.examples
  rw [hblocks]
  match blocks es with
  | [] => rfl
  | [only] =>
    have hset : (only.map (inherit labels)).head.exampleSet = only.head.exampleSet := rfl
    simp only [List.map_cons, List.map_nil, hset, block_inherit, Several.toList_map,
      template_inherit]
  | first :: second :: rest =>
    simp only [List.map_cons, List.flatMap_cons, List.flatMap_map, block_inherit]

/-! ## Blocks that were read -/

theorem sameBlock_of_none {e x : Example} (he : e.exampleSet = none) :
    sameBlock e x = x.exampleSet.isNone := by
  unfold sameBlock
  rw [he]
  cases x.exampleSet <;> rfl

theorem sameBlock_of_eq {e x : Example} {set : ExampleSet} (he : e.exampleSet = some set)
    (hx : x.exampleSet = some set) : sameBlock e x = true := by
  have hsame : set.sameAs set = true := ExampleSet.sameAs_of_relabel_eq (f := id) rfl
  simp [sameBlock, he, hx, hsame]

/-- A titled example is written first, whatever follows in its run. -/
theorem flatMap_block_cons {e : Example} (he : e.exampleSet = none) (xs : List Example) :
    (runs sameBlock (e :: xs)).flatMap block =
      singleExample e ++ (runs sameBlock xs).flatMap block := by
  have hblock (rest : List Example) : block ⟨e, rest⟩ =
      singleExample e ++ rest.flatMap singleExample := by
    simp [block, he, Several.toList]
  cases xs with
  | nil => simp [runs, hblock]
  | cons x xs =>
    -- the second example goes on with the run of the first one, or starts a run of its own
    cases hx : x.exampleSet with
    | none =>
      have hsame : sameBlock e = sameBlock x := by
        funext y
        rw [sameBlock_of_none he, sameBlock_of_none hx]
      have hgoes : sameBlock x x = true := by simp [sameBlock_of_none hx, hx]
      have hblock' : block ⟨x, xs.takeWhile (sameBlock x)⟩ =
          (x :: xs.takeWhile (sameBlock x)).flatMap singleExample := by
        simp [block, hx, Several.toList]
      rw [runs_cons, runs_cons, hsame, List.takeWhile_cons_of_pos hgoes,
        List.dropWhile_cons_of_pos hgoes, List.flatMap_cons, List.flatMap_cons, hblock, hblock',
        List.append_assoc]
    | some set =>
      have hgoes : ¬ sameBlock e x = true := by simp [sameBlock_of_none he, hx]
      rw [runs_cons, List.takeWhile_cons_of_neg hgoes, List.dropWhile_cons_of_neg hgoes,
        List.flatMap_cons, hblock]
      simp

/-- The first example behind a block is that of the next one. -/
theorem head?_flatten {b : List Example} {blocks : List (List Example)} (h : b ≠ []) :
    (b :: blocks).flatten.head? = b.head? := by
  obtain ⟨e, rest, rfl⟩ := List.exists_cons_of_ne_nil h
  rfl

/-- **Runs are written as the blocks that were read.** -/
theorem flatMap_block_flatten {blocks : List (List Example)} (hblock : ∀ b ∈ blocks, ExampleBlock b)
    (hfollows : ∀ a b rest, a :: b :: rest <:+ blocks → Follows a b) :
    (runs sameBlock blocks.flatten).flatMap block = blocks.flatMap blockRows := by
  induction blocks with
  | nil => simp [runs]
  | cons b blocks ih =>
    have ih' := ih (fun b' hb' => hblock b' (List.mem_cons_of_mem _ hb'))
      fun a b' rest hsuffix => hfollows a b' rest (hsuffix.trans (List.suffix_cons _ _))
    rw [List.flatMap_cons, ← ih']
    cases hblock b List.mem_cons_self with
    | @single e h =>
      rw [List.flatten_cons, List.singleton_append, flatMap_block_cons h.noSet,
        blockRows_single h.noSet]
    | @set set _ h htable =>
      obtain ⟨hset, hall⟩ := htable.blockSet?
      obtain ⟨e, rest, rfl⟩ := List.exists_cons_of_ne_nil htable.ne_nil
      have he := hall e List.mem_cons_self
      -- all examples of the table go with the first one, since they share the template
      have hwritten : block ⟨e, rest⟩ = exampleSet set (e :: rest) := by
        simp [block, he, Several.toList]
      rw [List.flatten_cons, runs_append (fun x hx => sameBlock_of_eq he
        (hall x (List.mem_cons_of_mem _ hx))), List.flatMap_cons, hwritten, blockRows_table htable]
      intro x hx
      cases blocks with
      | nil => cases hx
      | cons b' blocks =>
        have hfollow := hfollows _ _ _ (List.suffix_refl _)
        have hne := (hblock b' (by simp)).ne_nil
        rw [head?_flatten hne] at hx
        have hset' : blockSet? b' = x.exampleSet := by rw [blockSet?, hx]; rfl
        unfold sameBlock
        rw [he]
        cases hxset : x.exampleSet with
        | none => rfl
        | some set' =>
          have hapart := hfollow.apart set set' hset (hset'.trans hxset)
          simp [hapart]

/-! ## The examples of a requirement -/

/-- **Titled examples are written block by block.** -/
theorem examples_flatten {blocks : List (List Example)} (h : LegibleBlocks blocks) :
    Canonical.examples blocks.flatten = blocks.flatMap blockRows := by
  have hbare : ∀ e ∈ blocks.flatten, ∀ set, e.exampleSet = some set → isBare set = false := by
    intro e he set hset
    obtain ⟨b, hb, he⟩ := List.mem_flatten.1 he
    cases h.block b hb with
    | single h =>
      rw [List.mem_singleton.1 he, h.noSet] at hset
      cases hset
    | @set set' _ h htable =>
      rw [htable.blockSet?.2 e he] at hset
      cases hset
      obtain ⟨title, htitle, -⟩ := h.title
      simp [isBare, htitle]
  rw [← flatMap_block_flatten h.block h.follows]
  unfold Canonical.examples
  split
  · rename_i only honly
    have hmem : only.head ∈ blocks.flatten := by
      have hrun : only ∈ runs sameBlock blocks.flatten := by
        rw [show runs sameBlock blocks.flatten = [only] from honly]
        exact List.mem_cons_self
      exact (mem_of_mem_runs hrun).1 _ List.mem_cons_self
    have hrows : (runs sameBlock blocks.flatten).flatMap block = block only := by
      rw [show runs sameBlock blocks.flatten = [only] from honly]
      simp
    split
    · rename_i set hset
      rw [hbare _ hmem set hset, hrows]
      rfl
    · exact hrows.symm
  · rfl

theorem examples_single {e : Example} (he : e.exampleSet = none) :
    Canonical.examples [e] = singleExample e := by
  have hblocks : blocks [e] = [⟨e, []⟩] := by simp [blocks, runs]
  simp [Canonical.examples, hblocks, he, block, Several.toList]

/-- An example with nothing but statements is written as these. -/
theorem singleExample_inline {e : Example} (h : e.Inline) :
    singleExample e = Canonical.statements e.statements := by
  simp [singleExample, h.noComments, h.noIdentifier, h.noLabels, h.noTitle]

/-- A template that stands alone is written without a title. -/
theorem examples_template {set : ExampleSet} {es : List Example} (hbare : isBare set = true)
    (hne : es ≠ []) (hall : ∀ e ∈ es, e.exampleSet = some set) :
    Canonical.examples es = template set es := by
  obtain ⟨e, rest, rfl⟩ := List.exists_cons_of_ne_nil hne
  have he := hall e List.mem_cons_self
  have hblocks : blocks (e :: rest) = [⟨e, rest⟩] := by
    have hruns := @runs_append _ sameBlock e rest []
      (fun x hx => sameBlock_of_eq he (hall x (List.mem_cons_of_mem _ hx))) (by simp)
    rw [List.append_nil] at hruns
    rw [blocks, hruns, runs]
  simp [Canonical.examples, hblocks, he, hbare, Several.toList]

end Canonical

end PlainSpec
