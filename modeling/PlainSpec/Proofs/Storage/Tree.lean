import PlainSpec.Proofs.OrderedMap
import PlainSpec.Proofs.Path
import PlainSpec.Storage.Tree

/-!
# Ways down from a folder

What stands at a path is found by following the steps of the path, with the folders above kept for
the steps back.  Names lead down only, so behind any path they find the same node whatever is kept:
the node that the names lead to in the tree.

## Main definitions

* `Node.WellFormed`: trees whose entries have names, no two of one folder the same.
* `Node.Holds`: what the names lead to in a tree.

## Main results

* `Node.find_eq_ok_iff`: a path is found by following its parts.
* `Node.find_below`: what is held below the node at a path is found below the path.
-/

namespace PlainSpec.Node

open PlainSpec.Path (FileName)

/-! ## Trees -/

/-- A tree of folders and files whose entries have names, no two of one folder the same. -/
inductive WellFormed : Node → Prop where
  | file (content : ByteArray) : WellFormed (.file content)
  | folder {entries : List (Text × Node)} (distinct : (entries.map Prod.fst).Nodup)
      (names : ∀ entry ∈ entries, FileName entry.1)
      (nodes : ∀ entry ∈ entries, WellFormed entry.2) : WellFormed (.folder entries)

/-- The names lead from a node down to another one. -/
inductive Holds : Node → List Text → Node → Prop where
  | here (node : Node) : Holds node [] node
  | down {entries : List (Text × Node)} {name : Text} {node found : Node} {names : List Text}
      (entry : (name, node) ∈ entries) (rest : Holds node names found) :
      Holds (.folder entries) (name :: names) found

/-- The names on the way are names of entries. -/
theorem Holds.fileName {node found : Node} {names : List Text} (h : Holds node names found)
    (hnode : node.WellFormed) : ∀ name ∈ names, FileName name := by
  induction h with
  | here => simp
  | down entry _ ih =>
    cases hnode with
    | folder _ hnames hnodes => exact List.forall_mem_cons.2 ⟨hnames _ entry, ih (hnodes _ entry)⟩

/-! ## Following a path -/

/-- A path is found by following its parts.  A file is not found where only a folder can be
meant. -/
theorem find_eq_ok_iff {root found : Node} {p : Path} :
    root.find p = .ok found ↔
      p.text ≠ [] ∧ follow [] root p.parts = .ok found ∧
        (p.meansFolder = true → ∀ content, found ≠ .file content) := by
  unfold find
  by_cases hempty : p.text = []
  · simp [hempty]
  · rw [if_neg hempty]
    cases hfollow : follow [] root p.parts with
    | error e => simp
    | ok node =>
      cases node with
      | file content =>
        by_cases hfolder : p.meansFolder = true
        · simp only [hfolder, if_true, reduceCtorEq, false_iff, not_and]
          intro _ hfound hnone
          cases hfound
          exact hnone trivial content rfl
        · simp [hempty, hfolder]
      | folder entries =>
        simp only [Except.ok.injEq, hempty, not_false_eq_true, ne_eq, true_and]
        refine ⟨fun h => ⟨h, fun _ content => ?_⟩, fun h => h.1⟩
        rw [← h]
        simp

/-- What is followed behind some steps is followed from the node that they lead to. -/
theorem follow_append {above : List Node} {here found : Node} {steps : List Path.Part}
    (h : follow above here steps = .ok found) :
    ∃ above', ∀ more, follow above here (steps ++ more) = follow above' found more := by
  induction steps generalizing above here with
  | nil =>
    cases h
    exact ⟨above, fun _ => rfl⟩
  | cons step steps ih =>
    cases here with
    | file content => simp [follow] at h
    | folder entries =>
      cases step with
      | root => simp [follow] at h
      | here =>
        simp only [follow, List.cons_append] at h ⊢
        exact ih h
      | up =>
        cases above with
        | nil => simp [follow] at h
        | cons parent others =>
          simp only [follow, List.cons_append] at h ⊢
          exact ih h
      | name name =>
        cases hentry : entries.lookup name with
        | none => simp [follow, hentry] at h
        | some node =>
          simp only [follow, hentry, List.cons_append] at h ⊢
          exact ih h

/-- **Names are followed down the tree**, whatever is kept of the folders above. -/
theorem follow_of_holds {node found : Node} {names : List Text} (h : Holds node names found)
    (hnode : node.WellFormed) (above : List Node) :
    follow above node (names.map .name) = .ok found := by
  induction h generalizing above with
  | here => rfl
  | down entry _ ih =>
    cases hnode with
    | folder distinct _ hnodes =>
      rw [List.map_cons, follow, OrderedMap.lookup_of_mem distinct entry]
      exact ih (hnodes _ entry) _

/-- **What is held below the node at a path is found below the path.** -/
theorem find_below {root node found : Node} {p : Path} {names : List Text}
    (hfind : root.find p = .ok node) (hnode : node.WellFormed) (h : Holds node names found) :
    root.find (p.below names) = .ok found := by
  have hnames := h.fileName hnode
  by_cases hne : names = []
  · subst hne
    cases h
    exact hfind
  · obtain ⟨-, hfollow, -⟩ := find_eq_ok_iff.1 hfind
    obtain ⟨above, happend⟩ := follow_append hfollow
    refine find_eq_ok_iff.2 ⟨fun hempty => ?_, ?_, fun hfolder => ?_⟩
    · have hparts := Path.parts_below p hnames
      have hnone : (p.below names).parts = [] := by
        rw [show p.below names = ⟨[]⟩ from congrArg Path.mk hempty]
        rfl
      rw [hnone] at hparts
      simp [hne] at hparts
    · rw [Path.parts_below p hnames, happend]
      exact follow_of_holds h hnode above
    · rw [Path.meansFolder_below p hnames hne] at hfolder
      cases hfolder

end PlainSpec.Node
