import PlainSpec.Proofs.Storage.Tree

/-!
# What is written to a file is read from it

A file is put into a tree along a list of names, and looked for along the steps of a path.  A path
may step up again, out of folders that are not on the way to the file; and it may step into and out
of those that are, which are other folders once the file is put in.

Of a folder on the way only one thing matters: that it is a folder still.  So the path is followed
in both trees at once, side by side, and the trail of folders behind the two walks has the same
names.

## Main definitions

* `Node.at?`: what stands in a tree at the end of a list of names.
* `Node.Trail`: the folders that are passed on the way down along a list of names.

## Main results

* `Node.at?_put`, `Node.exists_folder_of_put`: putting in a node changes the tree there and keeps
  folders.
* `Node.exists_trail_of_follow`: a path is followed alike in a tree that has all the folders of
  another one.
* `Node.find_add`: a file that could be written at a path is found there afterwards.
* `Storage.read_add`: its content is read from there.
-/

namespace PlainSpec.Node

/-! ## Trees along names -/

/-- What stands in a tree at the end of a list of names. -/
def at? : Node → List Text → Option Node
  | node, [] => some node
  | file _, _ :: _ => none
  | folder entries, name :: names => (entries.lookup name).bind fun node => node.at? names

@[simp] theorem at?_nil (node : Node) : node.at? [] = some node := by cases node <;> rfl

theorem at?_folder_cons (entries : List (Text × Node)) (name : Text) (names : List Text) :
    (folder entries).at? (name :: names) = (entries.lookup name).bind fun node =>
      node.at? names := rfl

theorem at?_append (node : Node) (names more : List Text) :
    node.at? (names ++ more) = (node.at? names).bind fun found => found.at? more := by
  induction names generalizing node with
  | nil => simp
  | cons name names ih =>
    cases node with
    | file content => rfl
    | folder entries =>
      rw [List.cons_append, at?_folder_cons, at?_folder_cons]
      cases entries.lookup name with
      | none => rfl
      | some child => exact ih child

/-! ## Putting in a node -/

@[simp] theorem entries_folder (es : List (Text × Node)) : (folder es).entries = es := rfl

/-- The entries of a folder after one of them is replaced. -/
theorem lookup_replace (entries : List (Text × Node)) (name other : Text) (child : Node) :
    (entries.filter (fun entry => entry.1 ≠ name) ++ [(name, child)]).lookup other =
      if other = name then some child else entries.lookup other := by
  induction entries with
  | nil =>
    by_cases h : other = name
    · simp [h]
    · simp [List.lookup_cons, h, beq_eq_false_iff_ne.2 h]
  | cons entry entries ih =>
    obtain ⟨first, node⟩ := entry
    by_cases hfirst : first = name
    · rw [List.filter_cons_of_neg (by simp [hfirst]), ih]
      by_cases h : other = name
      · rw [if_pos h, if_pos h]
      · rw [if_neg h, if_neg h, List.lookup_cons, beq_eq_false_iff_ne.2 (by rw [hfirst]; exact h)]
    · rw [List.filter_cons_of_pos (by simp [hfirst]), List.cons_append, List.lookup_cons]
      by_cases h : other = first
      · have hother : other ≠ name := by rwa [h]
        simp [h, hfirst]
      · rw [beq_eq_false_iff_ne.2 h, List.lookup_cons, beq_eq_false_iff_ne.2 h]
        exact ih

/-- **A node that is put in stands where it was put.** -/
theorem at?_put (new : Node) (names : List Text) (here : Node) :
    (put new names here).at? names = some new := by
  induction names generalizing here with
  | nil => simp [put]
  | cons name names ih =>
    rw [put, at?_folder_cons, lookup_replace, if_pos rfl]
    exact ih _

/-- **Folders stay folders**, but for what stands where a node is put in and below it. -/
theorem exists_folder_of_put (new : Node) {target names : List Text} {here : Node}
    {entries : List (Text × Node)} (h : here.at? names = some (folder entries))
    (hout : ¬ target <+: names) :
    ∃ entries', (put new target here).at? names = some (folder entries') := by
  induction target generalizing names here with
  | nil => exact absurd List.nil_prefix hout
  | cons name target ih =>
    cases names with
    | nil => exact ⟨_, by rw [put, at?_nil]⟩
    | cons other names =>
      cases here with
      | file content => cases h
      | folder es =>
        rw [at?_folder_cons] at h
        obtain ⟨node, hnode, hnames⟩ := Option.bind_eq_some_iff.1 h
        rw [put, at?_folder_cons, lookup_replace, entries_folder]
        by_cases hname : other = name
        · subst hname
          rw [if_pos rfl, hnode]
          exact ih hnames fun hprefix => hout (List.cons_prefix_cons.2 ⟨rfl, hprefix⟩)
        · rw [if_neg hname, hnode]
          exact ⟨entries, hnames⟩

/-! ## Following a path in two trees -/

/-- The folders that are passed on the way down along a list of names, the last one first, and where
the way leads. -/
inductive Trail (root : Node) : List Text → List Node → Node → Prop where
  | top : Trail root [] [] root
  | down {names : List Text} {above : List Node} {entries : List (Text × Node)}
      {name : Text} {node : Node}
      (trail : Trail root names above (folder entries)) (entry : entries.lookup name = some node) :
      Trail root (names ++ [name]) (folder entries :: above) node

theorem Trail.at? {root here : Node} {names : List Text} {above : List Node}
    (h : Trail root names above here) : root.at? names = some here := by
  induction h with
  | top => exact at?_nil root
  | down _ entry ih =>
    rw [at?_append, ih, Option.bind_some, at?_folder_cons, entry, Option.bind_some, at?_nil]

/-- One name further down a trail. -/
theorem Trail.lookup {root : Node} {names : List Text} {above : List Node}
    {entries : List (Text × Node)} (h : Trail root names above (folder entries)) (name : Text) :
    entries.lookup name = root.at? (names ++ [name]) := by
  rw [at?_append, h.at?, Option.bind_some, at?_folder_cons]
  cases entries.lookup name <;> simp

/-- One name up a trail. -/
theorem Trail.up {root here parent : Node} {names : List Text} {others : List Node}
    (h : Trail root names (parent :: others) here) : Trail root names.dropLast others parent := by
  cases h with
  | down trail _ => rwa [List.dropLast_concat]

theorem Trail.eq_nil_iff {root here : Node} {names : List Text} {above : List Node}
    (h : Trail root names above here) : above = [] ↔ names = [] := by
  cases h <;> simp

/-- A path that leads to a folder sets out from one. -/
theorem exists_folder_of_follow {above : List Node} {here : Node} {steps : List Path.Part}
    {entries : List (Text × Node)} (h : follow above here steps = .ok (folder entries)) :
    ∃ es, here = folder es := by
  cases here with
  | file content => cases steps <;> simp [follow] at h
  | folder es => exact ⟨es, rfl⟩

/-- **A path is followed alike in a tree that has all the folders of another one.**  The invariant
of the two walks is that their trails have the same names; the folders themselves may differ. -/
theorem exists_trail_of_follow {root root' : Node}
    (hkeeps : ∀ names entries, root.at? names = some (folder entries) →
      ∃ entries', root'.at? names = some (folder entries'))
    {steps : List Path.Part} {names : List Text} {above above' : List Node} {here here' : Node}
    {entries : List (Text × Node)} (ht : Trail root names above here)
    (ht' : Trail root' names above' here') (h : follow above here steps = .ok (folder entries)) :
    (∃ others, Trail root (steps.foldl advance names) others (folder entries)) ∧
      ∃ others' entries', Trail root' (steps.foldl advance names) others' (folder entries') ∧
        ∀ more, follow above' here' (steps ++ more) = follow others' (folder entries') more := by
  induction steps generalizing names above above' here here' with
  | nil =>
    cases h
    obtain ⟨es', hes'⟩ := hkeeps names entries ht.at?
    obtain rfl : here' = folder es' := Option.some.inj (ht'.at?.symm.trans hes')
    exact ⟨⟨above, ht⟩, above', es', ht', fun _ => rfl⟩
  | cons step steps ih =>
    obtain ⟨es, rfl⟩ := exists_folder_of_follow h
    obtain ⟨es', hes'⟩ := hkeeps names es ht.at?
    obtain rfl : here' = folder es' := Option.some.inj (ht'.at?.symm.trans hes')
    cases step with
    | root => simp [follow] at h
    | here =>
      simp only [follow] at h
      simpa only [follow, List.cons_append, List.foldl_cons, advance] using ih ht ht' h
    | up =>
      cases above with
      | nil => simp [follow] at h
      | cons parent others =>
        cases above' with
        | nil =>
          have hnames := ht'.eq_nil_iff.1 rfl
          exact absurd (ht.eq_nil_iff.2 hnames) (List.cons_ne_nil _ _)
        | cons parent' others' =>
          simp only [follow] at h
          simpa only [follow, List.cons_append, List.foldl_cons, advance] using ih ht.up ht'.up h
    | name name =>
      cases hentry : es.lookup name with
      | none => simp [follow, hentry] at h
      | some node =>
        simp only [follow, hentry] at h
        -- what the name leads to is followed further, so it is a folder
        obtain ⟨sub, rfl⟩ := exists_folder_of_follow h
        obtain ⟨sub', hsub'⟩ := hkeeps (names ++ [name]) sub ((ht.lookup name).symm.trans hentry)
        have hentry' : es'.lookup name = some (folder sub') := (ht'.lookup name).trans hsub'
        simpa only [follow, List.cons_append, List.foldl_cons, advance, hentry'] using
          ih (ht.down hentry) (ht'.down hentry') h

/-! ## The path of a file -/

/-- The path of a file is that of its folder and its name, however the folder is written. -/
theorem follow_parent {root found : Node} {p : Path} {name : Text} (hname : p.fileName? = some name)
    (hfind : root.find p.parent = .ok found) :
    ∃ front, p.parts = front ++ [.name name] ∧ follow [] root front = .ok found := by
  obtain ⟨-, hfollow, -⟩ := find_eq_ok_iff.1 hfind
  rcases Path.parts_of_fileName? hname with ⟨hparent, hparts⟩ | hparts
  · -- nothing is in front of the name, and `.` stands for the folder that paths start from
    refine ⟨[], hparts, ?_⟩
    have hhere : Path.parts ⟨['.']⟩ = [.here] := rfl
    rw [hparent, hhere] at hfollow
    cases root with
    | file content => simp [follow] at hfollow
    | folder es => simpa [follow] using hfollow
  · exact ⟨_, hparts, hfollow⟩

/-- **A file that could be written at a path is found there afterwards.** -/
theorem find_add {root : Node} {p : Path} (h : root.writeError? p = none) (content : ByteArray) :
    (root.add p (.file content)).find p = .ok (.file content) := by
  unfold writeError? at h
  split at h
  · cases h
  rename_i hempty
  split at h
  · cases h
  · cases h
  rename_i entries hparent
  split at h
  · cases h
  rename_i name hname
  obtain ⟨front, hparts, hfront⟩ := follow_parent hname hparent
  obtain ⟨names, hnames⟩ : ∃ names, front.foldl advance [] = names := ⟨_, rfl⟩
  have hresolved : p.parts.foldl advance [] = names ++ [name] := by
    rw [hparts, List.foldl_append, hnames]
    rfl
  have hadd : root.add p (.file content) = put (.file content) (names ++ [name]) root := by
    rw [add, hresolved]
    simp
  rw [hadd]
  have hsame : ∀ m es, root.at? m = some (folder es) → ∃ es', root.at? m = some (folder es') :=
    fun _ es hm => ⟨es, hm⟩
  obtain ⟨⟨others, htrail⟩, -⟩ := exists_trail_of_follow hsame .top .top hfront
  rw [hnames] at htrail
  have hkeeps : ∀ m es, root.at? m = some (folder es) →
      ∃ es', (put (.file content) (names ++ [name]) root).at? m = some (folder es') := by
    intro m es hm
    refine exists_folder_of_put _ hm ?_
    rintro ⟨rest, rfl⟩
    rw [at?_append, ← htrail.lookup] at hm
    obtain ⟨node, hnode, hrest⟩ := Option.bind_eq_some_iff.1 hm
    cases node with
    | folder sub => simp [hnode] at h
    | file old => cases rest <;> simp [at?] at hrest
  obtain ⟨-, others', entries', htrail', hfollow⟩ := exists_trail_of_follow hkeeps .top .top hfront
  rw [hnames] at htrail'
  have hentry : entries'.lookup name = some (.file content) := by
    rw [htrail'.lookup, at?_put]
  refine find_eq_ok_iff.2 ⟨hempty, ?_, ?_⟩
  · rw [hparts, hfollow]
    simp [follow, hentry]
  · intro hfolder
    simp [Path.fileName?, hfolder] at hname

end PlainSpec.Node

namespace PlainSpec

/-! ## The content of a file -/

/-- Encoded text is decoded to itself. -/
theorem decodeText?_toUTF8 (t : Text) : decodeText? t.toString.toUTF8 = some t := by
  have hvalid : t.toString.toUTF8.IsValidUTF8 := t.toString.isValidUTF8
  have hdecode : String.fromUTF8? t.toString.toUTF8 = some t.toString := by
    rw [String.fromUTF8?, dif_pos hvalid]
    rfl
  rw [decodeText?, hdecode, Option.map_some, Text.toString, String.toList_ofList]

/-- **What is written to a file is read from it.** -/
theorem Storage.read_add {root : Node} {p : Path} (h : root.writeError? p = none)
    (content : ByteArray) :
    (Storage.ofNode (root.add p (.file content))).read p = .ok content := by
  have hfind : (Storage.ofNode (root.add p (.file content))).find p = .ok (.file content) :=
    Node.find_add h content
  rw [Storage.read, hfind]

end PlainSpec
