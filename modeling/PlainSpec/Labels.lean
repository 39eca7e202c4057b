import PlainSpec.Text.Cut

/-!
# Labels and their inheritance

Labels are optional: a place without labels is different from one with an empty list of them.

## Main definitions

* `Labels`: an optional list of labels.
* `Labels.merge`: the labels of a node below another one.

## Main results

* `Labels.mem_addMissing`, `Labels.addMissing_eq_append`: what a merged list holds and how it
  starts.
-/

namespace PlainSpec

/-- The labels at one place of a document, if it has any. -/
abbrev Labels := Option (List Text)

namespace Labels

/-- Adds the labels of `inherited` that are missing, at the end. -/
def addMissing (inherited explicit : List Text) : List Text :=
  inherited.foldl
    (fun labels label => if label ∈ labels then labels else labels ++ [label]) explicit

/-- The labels of a node: those written on it, then the inherited ones that are missing there.  If
either side is absent the other one stands. -/
def merge : (inherited explicit : Labels) → Labels
  | none, explicit => explicit
  | some inherited, none => some inherited
  | some inherited, some explicit => some (addMissing inherited explicit)

@[simp] theorem merge_none_left (explicit : Labels) : merge none explicit = explicit := rfl

@[simp] theorem merge_none_right (inherited : Labels) : merge inherited none = inherited := by
  cases inherited <;> rfl

@[simp] theorem addMissing_nil (explicit : List Text) : addMissing [] explicit = explicit := rfl

theorem addMissing_cons (label : Text) (inherited explicit : List Text) :
    addMissing (label :: inherited) explicit =
      addMissing inherited (if label ∈ explicit then explicit else explicit ++ [label]) := rfl

/-- **A merged list holds the labels of both sides.** -/
@[simp] theorem mem_addMissing {label : Text} {inherited explicit : List Text} :
    label ∈ addMissing inherited explicit ↔ label ∈ inherited ∨ label ∈ explicit := by
  induction inherited generalizing explicit with
  | nil => simp
  | cons first rest ih =>
    rw [addMissing_cons, ih]
    by_cases h : first ∈ explicit
    · simp only [h, if_true, List.mem_cons]
      constructor
      · rintro (hr | he)
        · exact .inl (.inr hr)
        · exact .inr he
      · rintro ((rfl | hr) | he)
        · exact .inr h
        · exact .inl hr
        · exact .inr he
    · simp only [h, if_false, List.mem_append, List.mem_cons, List.not_mem_nil, or_false]
      constructor
      · rintro (hr | he | rfl)
        · exact .inl (.inr hr)
        · exact .inr he
        · exact .inl (.inl rfl)
      · rintro ((rfl | hr) | he)
        · exact .inr (.inr rfl)
        · exact .inl hr
        · exact .inr (.inl he)

/-- **A merged list starts with the labels written on the node.** -/
theorem addMissing_eq_append (inherited explicit : List Text) :
    ∃ added, addMissing inherited explicit = explicit ++ added := by
  induction inherited generalizing explicit with
  | nil => exact ⟨[], by simp⟩
  | cons first rest ih =>
    rw [addMissing_cons]
    split
    · exact ih explicit
    · obtain ⟨added, h⟩ := ih (explicit ++ [first])
      exact ⟨first :: added, by simp [h]⟩

end Labels

end PlainSpec
