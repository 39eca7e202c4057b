import PlainSpec.Labels

/-!
# Chains of inheritance

Labels are merged in other places by either dialect: a row with its template and then with its
requirement, or a scenario with its rule, and both with the feature at the very end.  That a
document has the same labels by either way rests on merging being associative as an operation on
lists: the order of the labels and their repetitions are the same, and not only the labels that
occur.

The loop of a merge looks up every label in the list that it extends.  So the merged list and the
loop can be exchanged (`addMissing_addMissing`), one label at a time.

## Main results

* `Labels.merge_assoc`, `Labels.merge_self`: merging is associative and idempotent.
* `Labels.foldl_merge`: a chain of places gives the same labels from its outer and from its inner
  end.
-/

namespace PlainSpec.Labels

/-! ## Adding what is missing -/

theorem addMissing_concat (inherited explicit : List Text) (label : Text) :
    addMissing (inherited ++ [label]) explicit =
      if label ∈ addMissing inherited explicit then addMissing inherited explicit
      else addMissing inherited explicit ++ [label] := by
  rw [addMissing, List.foldl_append]
  rfl

/-- Nothing is added if nothing is missing. -/
theorem addMissing_eq_self {inherited explicit : List Text}
    (h : ∀ label ∈ inherited, label ∈ explicit) :
    addMissing inherited explicit = explicit := by
  induction inherited with
  | nil => rfl
  | cons label rest ih =>
    obtain ⟨hlabel, hrest⟩ := List.forall_mem_cons.1 h
    rw [addMissing_cons, if_pos hlabel, ih hrest]

/-- **What is missing may be added in one go or in two.** -/
theorem addMissing_addMissing (outer inner explicit : List Text) :
    addMissing (addMissing outer inner) explicit = addMissing outer
      (addMissing inner explicit) := by
  induction outer generalizing inner with
  | nil => rfl
  | cons label rest ih =>
    -- the first label of the outer list joins the inner one, on both sides at its end
    rw [addMissing_cons, addMissing_cons, ih]
    congr 1
    by_cases h : label ∈ inner
    · rw [if_pos h, if_pos (mem_addMissing.2 (.inl h))]
    · rw [if_neg h, addMissing_concat]

/-! ## Merging -/

/-- **Merged labels are absent only if both sides are.** -/
theorem merge_eq_none {inherited explicit : Labels} :
    merge inherited explicit = none ↔ inherited = none ∧ explicit = none := by
  cases inherited <;> cases explicit <;> simp [merge]

theorem mem_merge {label : Text} {inherited explicit : Labels} :
    label ∈ (merge inherited explicit).getD [] ↔
      label ∈ explicit.getD [] ∨ label ∈ inherited.getD [] := by
  cases inherited <;> cases explicit <;> simp [merge, or_comm]

/-- Merged labels start with those written on the node. -/
theorem merge_eq_append (inherited explicit : Labels) :
    ∃ added, (merge inherited explicit).getD [] = explicit.getD [] ++ added := by
  cases explicit with
  | none => exact ⟨inherited.getD [], by simp⟩
  | some explicit =>
    cases inherited with
    | none => exact ⟨[], by simp⟩
    | some inherited => exact addMissing_eq_append inherited explicit

/-- **Merging is associative.** -/
theorem merge_assoc (outer inner explicit : Labels) :
    merge (merge outer inner) explicit = merge outer (merge inner explicit) := by
  cases outer with
  | none => simp
  | some outer =>
    cases inner with
    | none => simp
    | some inner =>
      cases explicit with
      | none => simp
      | some explicit => simp [merge, addMissing_addMissing]

/-- **Merging is idempotent.** -/
theorem merge_self (labels : Labels) : merge labels labels = labels := by
  cases labels with
  | none => rfl
  | some labels => simp [merge, addMissing_eq_self]

instance : Std.Associative merge := ⟨merge_assoc⟩

instance : Std.IdempotentOp merge := ⟨merge_self⟩

instance : Std.LawfulIdentity merge none where
  left_id := merge_none_left
  right_id := merge_none_right

/-! ## Chains -/

/-- **A chain of places, from the outermost to the innermost, is merged alike from either end.** -/
theorem foldl_merge (places : List Labels) : places.foldl merge none = places.foldr merge none := by
  induction places with
  | nil => rfl
  | cons place places ih =>
    calc
      (place :: places).foldl merge none = places.foldl merge (merge place none) := by simp
      _ = merge place (places.foldl merge none) := List.foldl_assoc
      _ = merge place (places.foldr merge none) := by rw [ih]

/-- **Merging labels is an idempotent monoid on lists.**  The labels written on a node come first,
as they are written; a label is in the merged list if and only if it is on one of the two sides; and
the labels of a chain of places do not depend on the end from which it is merged. -/
theorem merge_laws (outer inner explicit : Labels) :
    merge outer (merge inner explicit) = merge (merge outer inner) explicit ∧
    (merge none explicit = explicit ∧ merge explicit none = explicit) ∧
    merge explicit explicit = explicit ∧
    (explicit.getD [] <+: (merge inner explicit).getD [] ∧
      (merge inner explicit = none ↔ inner = none ∧ explicit = none)) ∧
    (∀ label, label ∈ (merge inner explicit).getD [] ↔
      label ∈ inner.getD [] ∨ label ∈ explicit.getD []) ∧
    ∀ places : List Labels, places.foldl merge none = places.foldr merge none := by
  refine ⟨(merge_assoc outer inner explicit).symm, ⟨merge_none_left _, merge_none_right _⟩,
    merge_self explicit, ⟨?_, merge_eq_none⟩, fun label => mem_merge.trans or_comm, foldl_merge⟩
  obtain ⟨added, hadded⟩ := merge_eq_append inner explicit
  exact ⟨added, hadded.symm⟩

end PlainSpec.Labels
