import Mathlib.Data.List.TakeWhile
import PlainSpec.Proofs.Storage.Tree
import PlainSpec.Storage.Load

/-!
# Every document of a folder is discovered, once and in order

The folder is walked in the order of its entries, and what is found is put in the order of paths.
The two differ: `a.feature` may be walked before the folder `a` and is discovered behind its
documents.

What a walk finds is told by the tree alone (`mem_documentsOf`): the files to which names lead that
do not enter the folder of the program's own settings.  The order is strict, since the names that
lead to two files of one tree differ at the first folder in which they go apart; so the parts of the
paths do.

## Main definitions

* `IsDocumentName`: the names of files that hold documents.

## Main results

* `Dialect.isSome_ofPath?`: a path has a dialect by its last name.
* `Storage.mem_documentsOf`, `Storage.pairwise_parts_documentsOf`: what a walk finds, and that it
  finds nothing twice.
* `Storage.discover_sorted_exact`: what is discovered.
-/

namespace PlainSpec

open PlainSpec.Path (FileName)

/-! ## Names of documents -/

/-- A name that ends with the extension of a dialect, behind a dot that is not its first
character. -/
def IsDocumentName (name : Text) : Prop :=
  ∃ stem : Text, stem ≠ [] ∧
    (name = stem ++ ".feature".toList ∨ name = stem ++ ".requirements".toList)

/-- A name is split at its last dot, if that is not its first character. -/
theorem Path.splitName_append_dot (stem : Text) {extension : Text} (h : '.' ∉ extension) :
    splitName (stem ++ '.' :: extension) =
      if stem = [] then (stem ++ '.' :: extension, none) else (stem, some extension) := by
  have hall : ∀ c ∈ extension.reverse, (decide (c ≠ '.')) = true := fun c hc =>
    decide_eq_true (ne_of_mem_of_not_mem (List.mem_reverse.1 hc) h)
  have hreverse : (stem ++ '.' :: extension).reverse =
      extension.reverse ++ '.' :: stem.reverse := by
    simp
  unfold splitName
  rw [hreverse, List.takeWhile_append_of_pos hall, List.dropWhile_append_of_pos hall]
  simp

theorem Path.splitName_of_not_mem {name : Text} (h : '.' ∉ name) :
    splitName name = (name, none) := by
  have hall : ∀ c ∈ name.reverse, (decide (c ≠ '.')) = true := fun c hc =>
    decide_eq_true (ne_of_mem_of_not_mem (List.mem_reverse.1 hc) h)
  have hdrop : name.reverse.dropWhile (fun c => decide (c ≠ '.')) = [] :=
    List.dropWhile_eq_nil_iff.2 hall
  unfold splitName
  rw [hdrop]
  rfl

/-- The extension is what follows the last dot, if that is not the first character. -/
theorem Path.splitName_snd_eq_some {name extension : Text} :
    (splitName name).2 = some extension ↔
      ∃ stem, stem ≠ [] ∧ name = stem ++ '.' :: extension ∧ '.' ∉ extension := by
  constructor
  · intro h
    by_cases hdot : '.' ∈ name
    · obtain ⟨after, before, hname, hafter⟩ := List.eq_append_cons_of_mem (List.mem_reverse.2 hdot)
      have heq : name = before.reverse ++ '.' :: after.reverse := by
        rw [← List.reverse_reverse name, hname]
        simp
      have hnone : '.' ∉ after.reverse := by simpa using hafter
      rw [heq, splitName_append_dot _ hnone] at h
      split at h
      · cases h
      · rename_i hne
        have hext : after.reverse = extension := by simpa using h
        exact ⟨before.reverse, hne, by rw [heq, hext], hext ▸ hnone⟩
    · rw [splitName_of_not_mem hdot] at h
      cases h
  · rintro ⟨stem, hne, rfl, hdot⟩
    rw [splitName_append_dot stem hdot, if_neg hne]

theorem Dialect.isSome_ofExtension? {extension : Text} :
    (ofExtension? extension).isSome = true ↔ ∃ d : Dialect, extension = d.extension := by
  constructor
  · intro h
    unfold ofExtension? at h
    split at h
    · exact ⟨.gherkin, ‹_›⟩
    · split at h
      · exact ⟨.reqsml, ‹_›⟩
      · cases h
  · rintro ⟨d, rfl⟩
    rw [ofExtension?_extension]
    rfl

theorem isDocumentName_iff {name : Text} :
    IsDocumentName name ↔ ∃ stem, stem ≠ [] ∧ ∃ d : Dialect, name = stem ++ '.' :: d.extension := by
  constructor
  · rintro ⟨stem, hne, h | h⟩
    · exact ⟨stem, hne, .gherkin, h⟩
    · exact ⟨stem, hne, .reqsml, h⟩
  · rintro ⟨stem, hne, d, h⟩
    cases d with
    | gherkin => exact ⟨stem, hne, .inl h⟩
    | reqsml => exact ⟨stem, hne, .inr h⟩

/-- **A path has a dialect exactly if its last name is one of a document.** -/
theorem Dialect.isSome_ofPath? {p : Path} :
    (ofPath? p).isSome = true ↔ ∃ name, p.name? = some name ∧ IsDocumentName name := by
  constructor
  · intro h
    obtain ⟨dialect, hdialect⟩ := Option.isSome_iff_exists.1 h
    obtain ⟨extension, hpath, hsome⟩ := Option.bind_eq_some_iff.1 hdialect
    obtain ⟨name, hname, hsplit⟩ := Option.bind_eq_some_iff.1 hpath
    obtain ⟨stem, hne, rfl, -⟩ := Path.splitName_snd_eq_some.1 hsplit
    obtain ⟨d, rfl⟩ := isSome_ofExtension?.1 (Option.isSome_of_mem hsome)
    exact ⟨_, hname, isDocumentName_iff.2 ⟨stem, hne, d, rfl⟩⟩
  · rintro ⟨name, hname, hdocument⟩
    obtain ⟨stem, hne, d, rfl⟩ := isDocumentName_iff.1 hdocument
    have hdot : '.' ∉ d.extension := by cases d <;> decide
    have hsplit := Path.splitName_snd_eq_some.2 ⟨stem, hne, rfl, hdot⟩
    rw [ofPath?, Path.extension?, hname, Option.bind_some, hsplit, Option.bind_some,
      ofExtension?_extension]
    rfl

namespace Storage

/-! ## The walk -/

theorem documentsIn_eq_flatMap (p : Path) (entries : List (Text × Node)) :
    documentsIn p entries = entries.flatMap fun entry =>
      if entry.1 = stateFolder then [] else documentsOf (p.join ⟨entry.1⟩) entry.2 := by
  induction entries with
  | nil => rw [documentsIn, List.flatMap_nil]
  | cons entry entries ih =>
    obtain ⟨name, node⟩ := entry
    rw [documentsIn, List.flatMap_cons, ih]

/-- **A walk finds the files that names lead to**, if these do not enter the program's own
folder. -/
theorem mem_documentsOf {node : Node} (h : node.WellFormed) {p q : Path} :
    q ∈ documentsOf p node ↔ ∃ names content, node.Holds names (.file content) ∧
      stateFolder ∉ names ∧
      q = p.below names ∧ (Dialect.ofPath? q).isSome = true := by
  induction h generalizing p with
  | file content =>
    rw [documentsOf]
    constructor
    · intro hq
      by_cases hsome : (Dialect.ofPath? p).isSome = true
      · rw [if_pos hsome] at hq
        cases List.mem_singleton.1 hq
        exact ⟨[], content, .here _, by simp, rfl, hsome⟩
      · rw [if_neg hsome] at hq
        cases hq
    · rintro ⟨names, content', hholds, -, rfl, hsome⟩
      cases hholds
      rw [Path.below_nil] at hsome ⊢
      rw [if_pos hsome]
      exact List.mem_singleton.2 rfl
  | @folder entries distinct hnames hnodes ih =>
    rw [documentsOf, documentsIn_eq_flatMap, List.mem_flatMap]
    constructor
    · rintro ⟨⟨name, node⟩, hentry, hq⟩
      dsimp only at hq
      split at hq
      · cases hq
      · rename_i hstate
        obtain ⟨names, content, hholds, hnone, heq, hsome⟩ := (ih _ hentry).1 hq
        exact ⟨name :: names, content,
          .down hentry hholds, by simp [Ne.symm hstate, hnone], heq, hsome⟩
    · rintro ⟨names, content, hholds, hnone, heq, hsome⟩
      cases hholds with
      | down hentry hrest =>
        rename_i name node names
        obtain ⟨hstate, hnone⟩ := not_or.1 (List.mem_cons.not.1 hnone)
        refine ⟨(name, node), hentry, ?_⟩
        rw [if_neg (Ne.symm hstate)]
        exact (ih _ hentry).2 ⟨names, content, hrest, hnone, heq, hsome⟩

/-- The paths that a walk finds start with the path that it sets out from. -/
theorem parts_of_mem_documentsOf {node : Node} (h : node.WellFormed) {p q : Path}
    (hq : q ∈ documentsOf p node) : p.parts <+: q.parts := by
  obtain ⟨names, content, hholds, -, rfl, -⟩ := (mem_documentsOf h).1 hq
  rw [Path.parts_below p (hholds.fileName h)]
  exact List.prefix_append _ _

/-- **A walk finds nothing twice**, also under another spelling. -/
theorem pairwise_parts_documentsOf {node : Node} (h : node.WellFormed) (p : Path) :
    (documentsOf p node).Pairwise fun q r => q.parts ≠ r.parts := by
  induction h generalizing p with
  | file content =>
    rw [documentsOf]
    split
    · exact List.pairwise_singleton _ _
    · exact List.Pairwise.nil
  | @folder entries distinct hnames hnodes ih =>
    rw [documentsOf, documentsIn_eq_flatMap, List.pairwise_flatMap]
    constructor
    · intro entry hentry
      split
      · exact List.Pairwise.nil
      · exact ih entry hentry _
    · -- paths from two entries have the names of these at the same place
      refine (List.pairwise_map.1 distinct).imp_of_mem ?_
      intro first second hfirst hsecond hne q hq r hr heq
      split at hq
      · cases hq
      split at hr
      · cases hr
      have hqparts := parts_of_mem_documentsOf (hnodes _ hfirst) hq
      have hrparts := parts_of_mem_documentsOf (hnodes _ hsecond) hr
      rw [Path.parts_join p (hnames _ hfirst)] at hqparts
      rw [Path.parts_join p (hnames _ hsecond), ← heq] at hrparts
      have hsame :=
        (List.prefix_of_prefix_length_le hqparts hrparts (by simp)).eq_of_length (by simp)
      exact hne (by simpa using hsame)

/-! ## The order -/

/-- Sorted by the order of paths, paths that all say something else come strictly one after the
other. -/
theorem pairwise_before_mergeSort {paths : List Path}
    (h : paths.Pairwise fun p q => p.parts ≠ q.parts) :
    (paths.mergeSort fun p q => !q.before p).Pairwise fun p q => p.before q = true := by
  have hle : ∀ p q : Path, (!q.before p) = true ↔ p.key ≤ q.key := by
    intro p q
    rw [Bool.not_eq_true', ← Bool.not_eq_true, Path.before_iff, not_lt]
  have hsorted : (paths.mergeSort fun p q => !q.before p).Pairwise fun p q =>
      (!q.before p) = true := by
    refine List.pairwise_mergeSort (fun p q r hpq hqr => ?_) (fun p q => ?_) paths
    · exact (hle p r).2 (((hle p q).1 hpq).trans ((hle q r).1 hqr))
    · rw [Bool.or_eq_true, hle, hle]
      exact le_total _ _
  have hapart : (paths.mergeSort fun p q => !q.before p).Pairwise fun p q => p.parts ≠ q.parts :=
    ((List.mergeSort_perm paths _).pairwise_iff fun hne => Ne.symm hne).2 h
  refine (hsorted.and hapart).imp fun {p q} hpq => ?_
  exact Path.before_iff.2
    (lt_of_le_of_ne ((hle p q).1 hpq.1) fun hkey => hpq.2 (Path.key_inj.1 hkey))

/-- **Discovery is complete, exact and sorted.**  Let a tree of files and folders stand at a path.
What is discovered there is in the strict order of paths, part by part; it is exactly the files of
the tree, each with the names that lead to it behind the path, whose last name is one of a document
and on whose way, from the last name of the path itself on, the program's own folder is not entered.
And where paths start from a folder, each of these files stands at its path. -/
theorem discover_sorted_exact {s : Storage} {root : Path} {node : Node}
    (hfind : s.find root = .ok node) (hnode : node.WellFormed) :
    (s.discover root).Pairwise (fun p q => p.before q = true) ∧
    (∀ p, p ∈ s.discover root ↔
      ∃ names content, node.Holds names (.file content) ∧ p = root.below names ∧
        (∃ name, p.name? = some name ∧ IsDocumentName name) ∧
        ∀ name ∈ root.name?.toList ++ names, name ≠ ".reqs".toList) ∧
    ∀ tree, s = ofNode tree → ∀ names content, node.Holds names (.file content) →
      s.read (root.below names) = .ok content := by
  refine ⟨?_, fun p => ?_, ?_⟩
  · rw [discover, hfind]
    dsimp only
    split
    · exact List.Pairwise.nil
    · exact pairwise_before_mergeSort (pairwise_parts_documentsOf hnode root)
  · rw [discover, hfind]
    dsimp only
    split
    · rename_i hstate
      simp only [List.not_mem_nil, false_iff]
      rintro ⟨names, content, -, -, -, hnone⟩
      exact hnone stateFolder (by simp [hstate]) rfl
    · rename_i hstate
      rw [List.mem_mergeSort, mem_documentsOf hnode]
      have hroot : (∀ name ∈ root.name?.toList, name ≠ ".reqs".toList) := by
        rintro name hname rfl
        exact hstate (Option.mem_toList.1 hname)
      refine exists_congr fun names => exists_congr fun content => ?_
      rw [Dialect.isSome_ofPath?]
      constructor
      · rintro ⟨hholds, hnone, heq, hname⟩
        refine ⟨hholds, heq, hname, fun name hmem => ?_⟩
        rcases List.mem_append.1 hmem with hmem | hmem
        · exact hroot name hmem
        · rintro rfl
          exact hnone hmem
      · rintro ⟨hholds, heq, hname, hnone⟩
        exact ⟨hholds, fun hmem => hnone _ (List.mem_append_right _ hmem) rfl, heq, hname⟩
  · rintro tree rfl names content hholds
    have hfound : (ofNode tree).find (root.below names) = .ok (.file content) :=
      Node.find_below hfind hnode hholds
    rw [read, hfound]

/-- A folder whose first entry is behind the document of the second one, and whose third one is the
program's own. -/
def sampleFolder : Node :=
  .folder
    [("a.feature".toList, .file .empty), ("a".toList, .folder [("b.feature".toList, .file .empty)]),
    (".reqs".toList, .folder [("c.feature".toList, .file .empty)])]

theorem discover_sorted_exact_sample :
    sampleFolder.WellFormed ∧ (ofNode sampleFolder).find ⟨"./".toList⟩ = .ok sampleFolder ∧
    ⟨"./a/b.feature".toList⟩ ∈ (ofNode sampleFolder).discover ⟨"./".toList⟩ ∧
    ⟨"./.reqs/c.feature".toList⟩ ∉ (ofNode sampleFolder).discover ⟨"./".toList⟩ ∧
    (ofNode sampleFolder).read ⟨"./a/b.feature".toList⟩ = .ok .empty := by
  have hfile : (Node.file .empty).WellFormed := .file _
  have hb : FileName "b.feature".toList := ⟨by simp, by simp, by simp, by simp⟩
  have hc : FileName "c.feature".toList := ⟨by simp, by simp, by simp, by simp⟩
  have hsample : sampleFolder.WellFormed := by
    refine .folder (by simp) ?_ ?_
    · simp only [List.forall_mem_cons, List.not_mem_nil, false_implies, implies_true, and_true]
      exact ⟨⟨by simp, by simp, by simp, by simp⟩, ⟨by simp, by simp, by simp, by simp⟩,
        ⟨by simp, by simp, by simp, by simp⟩⟩
    · simp only [List.forall_mem_cons, List.not_mem_nil, false_implies, implies_true, and_true]
      exact ⟨hfile, .folder (by simp) (by simpa using hb) (by simpa using hfile),
        .folder (by simp) (by simpa using hc) (by simpa using hfile)⟩
  have hfind : (ofNode sampleFolder).find ⟨"./".toList⟩ = .ok sampleFolder := rfl
  obtain ⟨-, hexact, hread⟩ := discover_sorted_exact hfind hsample
  have hholds : sampleFolder.Holds ["a".toList, "b.feature".toList] (.file .empty) :=
    .down (.tail _ (.head _)) (.down (.head _) (.here _))
  refine ⟨hsample, hfind, (hexact _).2 ⟨_, _, hholds, rfl, ⟨"b.feature".toList, rfl, ['b'], by simp,
    .inl rfl⟩, ?_⟩, fun hmem => ?_, hread _ rfl _ _ hholds⟩
  · have hroot : Path.name? ⟨"./".toList⟩ = none := rfl
    rw [hroot]
    simp
  · obtain ⟨names, content, hholds, heq, -, hnone⟩ := (hexact _).1 hmem
    have hparts := Path.parts_below ⟨"./".toList⟩ (hholds.fileName hsample)
    rw [← heq] at hparts
    have hstate : Path.Part.name ".reqs".toList ∈ names.map Path.Part.name := by
      have hpath : Path.parts ⟨"./.reqs/c.feature".toList⟩ =
        Path.parts ⟨"./".toList⟩ ++ [.name ".reqs".toList, .name "c.feature".toList] := rfl
      rw [← List.append_cancel_left (hpath.symm.trans hparts)]
      exact List.mem_cons_self
    obtain ⟨name, hmem, hname⟩ := List.mem_map.1 hstate
    exact hnone name (List.mem_append_right _ hmem) (Path.Part.name.inj hname)

end Storage

end PlainSpec
