import Mathlib.Data.Char
import Mathlib.Data.List.Lex
import Mathlib.Data.Prod.Lex
import PlainSpec.Path
import PlainSpec.Proofs.Text.Neat

/-!
# Paths by their parts

A path is cut at its slashes, and only a leading empty stretch or a leading `.` is a part of its
own.  So a path is a lead and the steps behind it, and to go down to a name is to put one more step
behind the others, whether the folder was written with a slash at its end or without one.

Paths are ordered by these parts and not by their characters: `a/b` comes before `a.b`, though a
slash comes behind a dot.  The order is that of the lists of ranks, one list for each path, and
paths are equal in it exactly if they have the same parts.

## Main definitions

* `Path.FileName`: the texts that an entry of a folder can have as its name.
* `Path.below`: the path that leads down along a list of names.
* `Path.key`: what a path is compared by.

## Main results

* `Path.parts_join`, `Path.parts_below`: the parts of a path that leads down.
* `Path.parts_of_fileName?`: the path of a file is that of its folder and its name.
* `Path.before_iff`: the order of paths is that of their keys.
-/

namespace PlainSpec.Path

/-! ## Names -/

/-- A name of an entry: a stretch between slashes that stands for a step into the entry. -/
structure FileName (name : Text) : Prop where
  nonempty : name ≠ []
  noSlash : '/' ∉ name
  notHere : name ≠ ['.']
  notUp : name ≠ ['.', '.']

@[simp] theorem Part.ofText?_nil : Part.ofText? [] = none := rfl

theorem FileName.ofText? {name : Text} (h : FileName name) :
    Part.ofText? name = some (.name name) := by
  rw [Part.ofText?, if_neg (not_or.2 ⟨h.nonempty, h.notHere⟩), if_neg h.notUp]

theorem FileName.splitOn {name : Text} (h : FileName name) : name.splitOn '/' = [name] :=
  List.splitOn_eq_singleton h.noSlash

/-- A name behind a slash is a further stretch. -/
theorem FileName.splitOn_append {name : Text} (h : FileName name) (above : Text) :
    (above ++ '/' :: name).splitOn '/' = above.splitOn '/' ++ [name] := by
  rw [List.splitOn_append_cons_self, h.splitOn]

theorem splitOn_append_slash (above : Text) :
    (above ++ ['/']).splitOn '/' = above.splitOn '/' ++ [[]] := by
  rw [List.splitOn_append_cons_self, List.splitOn_nil]

/-! ## The lead of a path -/

/-- The part that the stretches of a path start with, if it is none of the steps. -/
def lead (stretches : List Text) : List Part :=
  if stretches.head? = some [] ∧ stretches.length ≠ 1 then [.root]
  else if stretches.head? = some ['.'] then [.here]
  else []

theorem parts_eq (p : Path) :
    p.parts = lead (p.text.splitOn '/') ++ (p.text.splitOn '/').filterMap Part.ofText? := by
  unfold parts lead
  generalize p.text.splitOn '/' = stretches
  dsimp only
  split
  · simp
  · simp
  · rename_i hroot hhere
    rcases stretches with _ | ⟨first, _ | ⟨second, rest⟩⟩
    · rfl
    · have hfirst : first ≠ ['.'] := fun h => hhere [] (by rw [h])
      simp [hfirst]
    · have hempty : first ≠ [] := fun h => hroot second rest (by rw [h])
      have hfirst : first ≠ ['.'] := fun h => hhere (second :: rest) (by rw [h])
      simp [hempty, hfirst]

/-- The lead looks at the first stretch only, and whether there is a further one. -/
theorem lead_append {above : List Text} (h : above ≠ []) (last last' : Text) :
    lead (above ++ [last]) = lead (above ++ [last']) := by
  simp only [lead, List.head?_append_of_ne_nil _ h, List.length_append, List.length_singleton]

theorem lead_concat {above : List Text} (h : above ≠ []) (hne : above ≠ [[]]) (last : Text) :
    lead (above ++ [last]) = lead above := by
  have hlength : above.length ≠ 0 := by simpa using h
  have hempty : above.head? = some [] → above.length ≠ 1 := by
    intro hhead hone
    obtain ⟨first, rfl⟩ := List.length_eq_one_iff.1 hone
    exact hne (by simpa using hhead)
  simp only [lead, List.head?_append_of_ne_nil _ h, List.length_append, List.length_singleton]
  by_cases hhead : above.head? = some []
  · simp [hhead, hempty hhead, hlength]
  · simp [hhead]

/-! ## Down to a name -/

/-- A name behind a slash is a further part.  A slash at the end of the folder says nothing. -/
theorem parts_append_slash {above : Text} {name : Text} (h : FileName name) :
    parts ⟨above ++ '/' :: name⟩ = parts ⟨above ++ ['/']⟩ ++ [.name name] := by
  rw [parts_eq, parts_eq, h.splitOn_append, splitOn_append_slash,
    lead_append (List.splitOn_ne_nil _ _) name []]
  simp [List.filterMap_append, List.filterMap_cons_some h.ofText?]

theorem parts_slash {above : Text} (h : above ≠ []) : parts ⟨above ++ ['/']⟩ = parts ⟨above⟩ := by
  have hne : above.splitOn '/' ≠ [[]] := by
    intro heq
    have hjoin : ['/'].intercalate (above.splitOn '/') = above := List.intercalate_splitOn '/'
    rw [heq] at hjoin
    exact h (by simpa using hjoin.symm)
  rw [parts_eq, parts_eq, splitOn_append_slash, lead_concat (List.splitOn_ne_nil _ _) hne]
  simp [List.filterMap_append]

/-- The last stretch of a path that leads to an entry is the entry's name. -/
theorem exists_splitOn_join (p : Path) {name : Text} (h : FileName name) :
    ∃ above, (p.join ⟨name⟩).text.splitOn '/' = above ++ [name] := by
  unfold join
  split
  · exact ⟨[], h.splitOn⟩
  · split
    · rename_i hfolder
      rcases hfolder with hempty | hslash
      · exact ⟨[], by rw [hempty, List.nil_append, h.splitOn, List.nil_append]⟩
      · obtain ⟨above, habove⟩ := List.getLast?_eq_some_iff.1 hslash
        refine ⟨above.splitOn '/', ?_⟩
        rw [habove, List.append_assoc]
        exact h.splitOn_append above
    · exact ⟨p.text.splitOn '/', h.splitOn_append p.text⟩

theorem meansFolder_join (p : Path) {name : Text} (h : FileName name) :
    (p.join ⟨name⟩).meansFolder = false := by
  obtain ⟨above, habove⟩ := exists_splitOn_join p h
  rw [meansFolder, habove, List.reverse_concat]
  cases above.reverse <;> simp [h.nonempty, h.notHere]

/-- **An entry of a folder has one part more than the folder**, however the folder was written. -/
theorem parts_join (p : Path) {name : Text} (h : FileName name) :
    (p.join ⟨name⟩).parts = p.parts ++ [.name name] := by
  have hrelative : isAbsolute ⟨name⟩ = false := by
    obtain ⟨c, rest, rfl⟩ := List.exists_cons_of_ne_nil h.nonempty
    have hc : c ≠ '/' := by
      rintro rfl
      exact h.noSlash (by simp)
    simpa [isAbsolute] using hc
  obtain ⟨text⟩ := p
  rw [join, if_neg (by simp [hrelative])]
  by_cases hempty : text = []
  · subst hempty
    rw [if_pos (.inl rfl), List.nil_append, parts_eq, h.splitOn]
    simp [lead, h.nonempty, h.notHere, List.filterMap_cons_some h.ofText?, parts_eq]
  · by_cases hslash : text.getLast? = some '/'
    · obtain ⟨above, rfl⟩ := List.getLast?_eq_some_iff.1 hslash
      rw [if_pos (.inr hslash), List.append_assoc]
      exact parts_append_slash h
    · rw [if_neg (by simp [hempty, hslash]), parts_append_slash h, parts_slash hempty]

/-- The path that leads from another one down along a list of names. -/
def below (p : Path) (names : List Text) : Path := names.foldl (fun p name => p.join ⟨name⟩) p

@[simp] theorem below_nil (p : Path) : p.below [] = p := rfl

@[simp] theorem below_cons (p : Path) (name : Text) (names : List Text) :
    p.below (name :: names) = (p.join ⟨name⟩).below names := rfl

/-- **The names on the way down are the last parts of the path.** -/
theorem parts_below (p : Path) {names : List Text} (h : ∀ name ∈ names, FileName name) :
    (p.below names).parts = p.parts ++ names.map .name := by
  induction names generalizing p with
  | nil => simp
  | cons name names ih =>
    obtain ⟨hname, hnames⟩ := List.forall_mem_cons.1 h
    rw [below_cons, ih _ hnames, parts_join p hname, List.append_assoc]
    rfl

theorem meansFolder_below (p : Path) {names : List Text} (h : ∀ name ∈ names, FileName name)
    (hne : names ≠ []) : (p.below names).meansFolder = false := by
  rw [← List.dropLast_concat_getLast hne, below, List.foldl_concat]
  exact meansFolder_join _ (h _ (List.getLast_mem hne))

/-! ## Up from a name -/

theorem Part.ofText?_eq_none {text : Text} : ofText? text = none ↔ text = [] ∨ text = ['.'] := by
  unfold ofText?
  by_cases h : text = [] ∨ text = ['.']
  · rw [if_pos h]
    exact iff_of_true rfl h
  · rw [if_neg h]
    refine iff_of_false ?_ h
    split <;> simp

/-- What follows the last slash is the last part. -/
theorem parts_of_splitOn {p : Path} {above : List Text} {last : Text}
    (h : p.text.splitOn '/' = above ++ [last]) (habove : above ≠ []) :
    p.parts = parts ⟨Text.join ['/'] above ++ ['/']⟩ ++ (Part.ofText? last).toList := by
  have hslash : (Text.join ['/'] above ++ ['/']).splitOn '/' = above ++ [[]] := by
    rw [splitOn_append_slash, Text.join]
    rw [List.splitOn_intercalate '/' (fun text htext => ?_) habove]
    exact Text.not_mem_of_mem_splitOn (t := p.text) (by simp [h, htext])
  rw [parts_eq, parts_eq, h, hslash, lead_append habove last []]
  cases hlast : Part.ofText? last <;> simp [List.filterMap_append, hlast]

/-- **The path of a file is that of its folder with one part more**, or its name alone. -/
theorem parts_of_fileName? {p : Path} {name : Text} (h : p.fileName? = some name) :
    (p.parent = ⟨['.']⟩ ∧ p.parts = [.name name]) ∨ p.parts = p.parent.parts ++ [.name name] := by
  obtain ⟨hfolder, hlastName⟩ : p.meansFolder = false ∧ p.parts.getLast? = some (.name name) := by
    unfold fileName? name? at h
    split at h
    · cases h
    · rename_i hfolder
      split at h
      · rename_i hlast
        cases h
        exact ⟨by simpa using hfolder, hlast⟩
      · cases h
  obtain ⟨above, last, hsplit⟩ : ∃ above last, p.text.splitOn '/' = above ++ [last] :=
    ⟨_, _, (List.dropLast_concat_getLast (List.splitOn_ne_nil _ _)).symm⟩
  have hparts := parts_eq p
  rw [hsplit] at hparts
  -- the last stretch stands for a part, as the path can be one of a file
  have hlast : ¬ (last = [] ∨ last = ['.']) := by
    by_cases habove : above = []
    · subst habove
      rintro (rfl | rfl)
      · simp [hparts, lead] at hlastName
      · simp [hparts, lead, Part.ofText?] at hlastName
    · obtain ⟨stretch, rest, hrest⟩ := List.exists_cons_of_ne_nil (List.reverse_ne_nil_iff.2 habove)
      rw [meansFolder, hsplit, List.reverse_concat, hrest] at hfolder
      simpa using hfolder
  obtain ⟨part, hpart⟩ := Option.ne_none_iff_exists'.1 (mt Part.ofText?_eq_none.1 hlast)
  have hname : part = .name name := by
    rw [hparts, List.filterMap_append, List.filterMap_cons_some hpart, List.filterMap_nil,
      ← List.append_assoc, List.getLast?_concat] at hlastName
    exact Option.some.inj hlastName
  subst hname
  have hempty : ¬ last.isEmpty = true := fun h => hlast (.inl (List.isEmpty_iff.1 h))
  by_cases habove : above = []
  · subst habove
    refine .inl ⟨?_, ?_⟩
    · rw [parent, hsplit, List.nil_append, List.reverse_singleton,
        List.dropWhile_cons_of_neg hempty]
    · rw [hparts, List.nil_append, List.filterMap_cons_some hpart]
      simp_all [lead]
  · have hparent : p.parent = ⟨Text.join ['/'] above ++ ['/']⟩ := by
      obtain ⟨stretch, rest, hrest⟩ := List.exists_cons_of_ne_nil (List.reverse_ne_nil_iff.2 habove)
      rw [parent, hsplit, List.reverse_concat, List.dropWhile_cons_of_neg hempty, hrest]
      dsimp only
      rw [← hrest, List.reverse_reverse]
    refine .inr ?_
    rw [parts_of_splitOn hsplit habove, hparent, hpart]
    rfl

/-! ## The order of paths -/

/-- What a path is compared by: the ranks of its parts, one after the other. -/
def key (p : Path) : List (Nat ×ₗ Text) := p.parts.map fun part => toLex part.rank

theorem Part.rank_injective : Function.Injective Part.rank := by
  intro a b h
  cases a <;> cases b <;> simp_all [Part.rank]

theorem Part.before_iff {a b : Part} : a.before b = true ↔ toLex a.rank < toLex b.rank := by
  simp [Part.before, Prod.Lex.toLex_lt_toLex]

theorem partsBefore_iff {as bs : List Part} :
    partsBefore as bs = true ↔
      (as.map fun part => toLex part.rank) < bs.map fun part => toLex part.rank := by
  induction as generalizing bs with
  | nil => cases bs <;> simp [partsBefore]
  | cons a as ih =>
    cases bs with
    | nil => simp [partsBefore]
    | cons b bs =>
      rw [List.map_cons, List.map_cons, List.cons_lt_cons_iff, partsBefore]
      by_cases h : a = b
      · subst h
        simp [ih]
      · have hrank : toLex a.rank ≠ toLex b.rank := fun heq => h (Part.rank_injective heq)
        simp [h, hrank, Part.before_iff]

/-- **Paths are ordered by their keys.** -/
theorem before_iff {p q : Path} : p.before q = true ↔ p.key < q.key := partsBefore_iff

/-- Paths have one key if and only if they say the same. -/
theorem key_inj {p q : Path} : p.key = q.key ↔ p.parts = q.parts := by
  refine ⟨fun h => ?_, fun h => by rw [key, h, key]⟩
  exact List.map_injective_iff.2 (fun a b hab => Part.rank_injective hab) h

end PlainSpec.Path
