import Mathlib.Data.List.TakeWhile
import PlainSpec.Line

/-!
# Neat texts

What a source says is read line by line and without the blanks around it.  A text that was read in
this way is neat: it stands on one line and has no blanks at its ends.  Neat texts can be written
between blanks and marks and are found there again.

## Main definitions

* `Text.Neat`: one line without blanks at its ends.

## Main results

* `Text.trim_append_of_blank`, `Text.trim_append_blank`: blanks at the ends are not seen.
* `Text.trim_eq_self_iff`: the texts that stay as they are.
* `Text.map_trim_splitOn_join`: texts between separators are found again.
* `Text.words_append`: a word ends at the first blank behind it.
-/

namespace PlainSpec.Text

/-! ## Blanks at the ends -/

/-- The text holds nothing but blanks. -/
def AllBlank (t : Text) : Prop := ∀ c ∈ t, isBlank c = true

@[simp] theorem allBlank_nil : AllBlank [] := by simp [AllBlank]

theorem allBlank_replicate (n : Nat) : AllBlank (List.replicate n ' ') := by
  intro c hc
  rw [(List.mem_replicate.1 hc).2]
  rfl

theorem allBlank_space : AllBlank [' '] := allBlank_replicate 1

theorem allBlank_append {t u : Text} : AllBlank (t ++ u) ↔ AllBlank t ∧ AllBlank u := by
  simp only [AllBlank, List.mem_append]
  exact ⟨fun h => ⟨fun c hc => h c (.inl hc), fun c hc => h c (.inr hc)⟩,
    fun h c hc => hc.elim (h.1 c) (h.2 c)⟩

theorem allBlank_cons {c : Char} {t : Text} :
    AllBlank (c :: t) ↔ isBlank c = true ∧ AllBlank t := by
  simp [AllBlank]

theorem trimStart_eq_nil {t : Text} : trimStart t = [] ↔ AllBlank t := by
  rw [trimStart, List.dropWhile_eq_nil_iff, AllBlank]

theorem trimEnd_eq_nil {t : Text} : trimEnd t = [] ↔ AllBlank t := by
  simp [trimEnd, List.dropWhile_eq_nil_iff, AllBlank]

theorem trimStart_append_of_blank {b : Text} (hb : AllBlank b) (t : Text) :
    trimStart (b ++ t) = trimStart t := by
  simp [trimStart, List.dropWhile_append_of_pos hb]

theorem trimEnd_append_blank {b : Text} (hb : AllBlank b) (t : Text) :
    trimEnd (t ++ b) = trimEnd t := by
  have hb' : ∀ c ∈ b.reverse, isBlank c = true := fun c hc => hb c (List.mem_reverse.1 hc)
  simp [trimEnd, List.dropWhile_append_of_pos hb']

theorem trimStart_cons {c : Char} (hc : isBlank c = false) (t : Text) :
    trimStart (c :: t) = c :: t := by
  simp [trimStart, hc]

theorem trimEnd_append {t u : Text} (h : trimEnd u ≠ []) : trimEnd (t ++ u) = t ++ trimEnd u := by
  have hne : u.reverse.dropWhile isBlank ≠ [] := by simpa [trimEnd] using h
  simp [trimEnd, List.dropWhile_append, hne]

theorem trimEnd_concat {c : Char} (hc : isBlank c = false) (t : Text) :
    trimEnd (t ++ [c]) = t ++ [c] := by
  simp [trimEnd, hc]

/-- A text is its trimmed part between blanks. -/
theorem exists_trimEnd (t : Text) : ∃ b, t = trimEnd t ++ b ∧ AllBlank b := by
  refine ⟨(t.reverse.takeWhile isBlank).reverse, ?_, ?_⟩
  · rw [trimEnd, ← List.reverse_append, List.takeWhile_append_dropWhile, List.reverse_reverse]
  · intro c hc
    exact (List.all_eq_true.1 List.all_takeWhile) c (List.mem_reverse.1 hc)

theorem exists_trimStart (t : Text) : ∃ b, t = b ++ trimStart t ∧ AllBlank b :=
  ⟨t.takeWhile isBlank, List.takeWhile_append_dropWhile.symm, fun c hc =>
    (List.all_eq_true.1 List.all_takeWhile) c hc⟩

theorem exists_trim (t : Text) : ∃ b b', t = b ++ trim t ++ b' ∧ AllBlank b ∧ AllBlank b' := by
  obtain ⟨b, hb, hblank⟩ := exists_trimStart t
  obtain ⟨b', hb', hblank'⟩ := exists_trimEnd (trimStart t)
  refine ⟨b, b', ?_, hblank, hblank'⟩
  calc t = b ++ trimStart t := hb
    _ = b ++ (trim t ++ b') := by rw [trim, ← hb']
    _ = b ++ trim t ++ b' := by simp

theorem mem_of_mem_trim {c : Char} {t : Text} (h : c ∈ trim t) : c ∈ t := by
  obtain ⟨b, b', ht, -, -⟩ := exists_trim t
  rw [ht]
  simp [h]

/-- **Blanks in front are not seen.** -/
theorem trim_append_of_blank {b : Text} (hb : AllBlank b) (t : Text) : trim (b ++ t) = trim t := by
  rw [trim, trimStart_append_of_blank hb, ← trim]

theorem trim_space (t : Text) : trim (' ' :: t) = trim t := trim_append_of_blank allBlank_space t

/-- **Blanks behind are not seen.** -/
theorem trim_append_blank {b : Text} (hb : AllBlank b) (t : Text) : trim (t ++ b) = trim t := by
  by_cases ht : AllBlank t
  · rw [trim, trim, trimStart_eq_nil.2 (allBlank_append.2 ⟨ht, hb⟩), trimStart_eq_nil.2 ht]
  · have hne : t.dropWhile isBlank ≠ [] := fun h => ht (trimStart_eq_nil.1 h)
    have hstart : trimStart (t ++ b) = trimStart t ++ b := by
      simp [trimStart, List.dropWhile_append, hne]
    rw [trim, hstart, trimEnd_append_blank hb, ← trim]

/-- A text that starts with no blank is trimmed at its end. -/
theorem trim_cons {c : Char} (hc : isBlank c = false) (t : Text) :
    trim (c :: t) = c :: trimEnd t := by
  rw [trim, trimStart_cons hc]
  by_cases hblank : AllBlank t
  · rw [trimEnd_eq_nil.2 hblank]
    refine (trimEnd_append_blank hblank [c]).trans ?_
    simp [trimEnd, hc]
  · have hne : trimEnd t ≠ [] := mt trimEnd_eq_nil.1 hblank
    exact @trimEnd_append [c] t hne

theorem trim_trimEnd (t : Text) : trim (trimEnd t) = trim t := by
  obtain ⟨b, hb, hblank⟩ := exists_trimEnd t
  calc trim (trimEnd t) = trim (trimEnd t ++ b) := (trim_append_blank hblank _).symm
    _ = trim t := by rw [← hb]

theorem trim_eq_nil {t : Text} : trim t = [] ↔ AllBlank t := by
  constructor
  · intro h
    obtain ⟨b, b', ht, hb, hb'⟩ := exists_trim t
    rw [ht, h, List.append_nil]
    exact allBlank_append.2 ⟨hb, hb'⟩
  · intro h
    rw [trim, trimStart_eq_nil.2 h, trimEnd_nil]

/-! ## Ends that are not blank -/

theorem head?_trimStart {t : Text} {c : Char} (h : (trimStart t).head? = some c) :
    isBlank c = false := by
  have := List.head?_dropWhile_not isBlank t
  simp only [trimStart] at h
  rw [h] at this
  simpa using this

theorem getLast?_trimEnd {t : Text} {c : Char} (h : (trimEnd t).getLast? = some c) :
    isBlank c = false := by
  refine head?_trimStart (t := t.reverse) ?_
  simpa [trimEnd, trimStart] using h

/-- **The texts that stay as they are** are those whose ends are not blank. -/
theorem trim_eq_self_iff {t : Text} :
    trim t = t ↔
      (∀ c, t.head? = some c → isBlank c = false) ∧ ∀ c, t.getLast? = some c →
        isBlank c = false := by
  constructor
  · intro h
    obtain ⟨b, hb, -⟩ := exists_trimEnd (trimStart t)
    refine ⟨fun c hc => ?_, fun c hc => ?_⟩
    · refine head?_trimStart (t := t) ?_
      rw [hb, ← trim, h, List.head?_append, hc]
      rfl
    · exact getLast?_trimEnd (t := trimStart t) (by rw [← trim, h]; exact hc)
  · rintro ⟨hhead, hlast⟩
    rcases List.eq_nil_or_concat t with rfl | ⟨u, c, rfl⟩
    · rfl
    · have hc : isBlank c = false := hlast c (by simp)
      have hstart : trimStart (u ++ [c]) = u ++ [c] := by
        cases u with
        | nil => exact trimStart_cons hc []
        | cons d u => exact trimStart_cons (hhead d (by simp)) _
      rw [List.concat_eq_append, trim, hstart, trimEnd_concat hc]

theorem trim_trim (t : Text) : trim (trim t) = trim t := by
  obtain ⟨b, b', ht, hb, hb'⟩ := exists_trim t
  calc trim (trim t) = trim (b ++ trim t) := (trim_append_of_blank hb _).symm
    _ = trim (b ++ trim t ++ b') := (trim_append_blank hb' _).symm
    _ = trim t := by rw [← ht]

/-! ## Neat texts -/

/-- One line without blanks at its ends. -/
structure Neat (t : Text) : Prop where
  /-- There are no blanks at the ends. -/
  trim_eq : t.trim = t
  /-- There is no line end. -/
  oneLine : '\n' ∉ t

namespace Neat

/-- A text without blanks is neat. -/
theorem of_forall {t : Text} (h : ∀ c ∈ t, isBlank c = false) : Neat t where
  trim_eq := trim_eq_self_iff.2
    ⟨fun c hc => h c (List.mem_of_mem_head? hc), fun c hc => h c (List.mem_of_mem_getLast? hc)⟩
  oneLine hmem := by simpa [isBlank] using h _ hmem

theorem trim {t : Text} (h : '\n' ∉ t) : Neat t.trim :=
  ⟨trim_trim t, fun hmem => h (mem_of_mem_trim hmem)⟩

theorem head {t : Text} (h : Neat t) {c : Char} (hc : t.head? = some c) : isBlank c = false :=
  (trim_eq_self_iff.1 h.trim_eq).1 c hc

theorem last {t : Text} (h : Neat t) {c : Char} (hc : t.getLast? = some c) : isBlank c = false :=
  (trim_eq_self_iff.1 h.trim_eq).2 c hc

/-- A neat text between blanks is found again. -/
theorem trim_between {t : Text} (h : Neat t) {b b' : Text} (hb : AllBlank b) (hb' : AllBlank b') :
    Text.trim (b ++ t ++ b') = t := by
  rw [trim_append_blank hb', trim_append_of_blank hb, h.trim_eq]

theorem trim_after {t : Text} (h : Neat t) {b : Text} (hb : AllBlank b) :
    Text.trim (b ++ t) = t := by
  rw [trim_append_of_blank hb, h.trim_eq]

theorem trim_space {t : Text} (h : Neat t) : Text.trim (' ' :: t) = t := h.trim_after allBlank_space

/-- A neat text that is not empty ends what stands before it. -/
theorem trim_append {lead t : Text} (h : Neat t) (ht : t ≠ []) {c : Char}
    (hlead : lead.head? = some c) (hc : isBlank c = false) : Text.trim (lead ++ t) = lead ++ t := by
  rw [trim_eq_self_iff]
  constructor
  · intro d hd
    rw [List.head?_append, hlead] at hd
    cases hd
    exact hc
  · intro d hd
    obtain ⟨e, he⟩ := Option.ne_none_iff_exists'.1 (mt List.getLast?_eq_none_iff.1 ht)
    rw [List.getLast?_append, he] at hd
    cases hd
    exact h.last he

end Neat

/-! ## Texts between separators -/

/-- A text is cut at every character that satisfies the condition. -/
theorem not_of_mem_splitOnP {p : Char → Bool} {t part : Text} (h : part ∈ t.splitOnP p) :
    ∀ c ∈ part, p c = false := by
  induction t generalizing part with
  | nil => simp_all
  | cons d t ih =>
    rw [List.splitOnP_cons_eq_if_modifyHead] at h
    split at h
    · rcases List.mem_cons.1 h with rfl | h
      · simp
      · exact ih h
    · rename_i hd
      cases hs : t.splitOnP p with
      | nil => exact absurd hs (List.splitOnP_ne_nil p t)
      | cons first parts =>
        rw [hs] at h ih
        rcases List.mem_cons.1 h with rfl | h
        · exact List.forall_mem_cons.2 ⟨by simpa using hd, ih List.mem_cons_self⟩
        · exact ih (List.mem_cons_of_mem _ h)

theorem not_mem_of_mem_splitOn {t part : Text} {c : Char} (h : part ∈ t.splitOn c) : c ∉ part :=
  fun hc => by simpa using not_of_mem_splitOnP h c hc

theorem mem_of_mem_splitOn {t part : Text} {c d : Char} (h : part ∈ t.splitOn c) (hd : d ∈ part) :
    d ∈ t := by
  induction t generalizing part with
  | nil => simp_all [List.splitOn_nil]
  | cons e t ih =>
    rw [List.splitOn_cons_eq_if_modifyHead] at h
    split at h
    · rcases List.mem_cons.1 h with rfl | h
      · simp at hd
      · exact List.mem_cons_of_mem _ (ih h hd)
    · cases hs : t.splitOn c with
      | nil => exact absurd hs (List.splitOn_ne_nil c t)
      | cons p ps =>
        rw [hs] at h ih
        rcases List.mem_cons.1 h with rfl | h
        · rcases List.mem_cons.1 hd with rfl | hd
          · exact List.mem_cons_self
          · exact List.mem_cons_of_mem _ (ih List.mem_cons_self hd)
        · exact List.mem_cons_of_mem _ (ih (List.mem_cons_of_mem _ h) hd)

/-- Blanks in front of the first part are not seen. -/
theorem map_trim_splitOn_append {c : Char} {b : Text} (hb : AllBlank b) (hc : c ∉ b) (t : Text) :
    ((b ++ t).splitOn c).map trim = (t.splitOn c).map trim := by
  induction b with
  | nil => rfl
  | cons d b ih =>
    rw [List.mem_cons, not_or] at hc
    rw [← ih (allBlank_cons.1 hb).2 hc.2, List.cons_append, List.splitOn_cons_eq_if_modifyHead,
      if_neg (by simpa using Ne.symm hc.1)]
    cases hs : (b ++ t).splitOn c with
    | nil => exact absurd hs (List.splitOn_ne_nil c _)
    | cons first rest =>
      have hd : AllBlank [d] := allBlank_cons.2 ⟨(allBlank_cons.1 hb).1, allBlank_nil⟩
      exact congrArg (· :: rest.map trim) (trim_append_of_blank hd first)

/-- **Texts between separators are found again**, with blanks behind the separators, and each of
them is cut where it holds a separator itself. -/
theorem map_trim_splitOn_join {c : Char} {blanks : Text} (hblank : AllBlank blanks)
    (hc : c ∉ blanks) {texts : List Text} (hne : texts ≠ []) :
    ((join (c :: blanks) texts).splitOn c).map trim =
      (texts.flatMap (List.splitOn c)).map trim := by
  induction texts with
  | nil => exact absurd rfl hne
  | cons t texts ih =>
    cases texts with
    | nil => rw [join, List.intercalate_singleton, List.flatMap_singleton]
    | cons u texts =>
      have hjoin : join (c :: blanks) (t :: u :: texts) =
          t ++ c :: (blanks ++ join (c :: blanks) (u :: texts)) := by
        rw [join, List.intercalate_cons_cons, join]
        simp
      rw [hjoin, List.splitOn_append_cons_self, List.map_append, map_trim_splitOn_append hblank hc,
        ih (List.cons_ne_nil u texts), ← List.map_append, ← List.flatMap_cons]

/-! ## Cuts at a mark -/

theorem cutAt_of_forall {stop : Char → Bool} {front back : Text}
    (hfront : ∀ c ∈ front, stop c = false)
    (hback : ∀ c, back.head? = some c → stop c = true) :
    cutAt stop (front ++ back) = (front, back) := by
  have hnot : ∀ c ∈ front, (!stop c) = true := fun c hc => by simp [hfront c hc]
  rw [cutAt, List.takeWhile_append_of_pos hnot, List.dropWhile_append_of_pos hnot]
  cases back with
  | nil => simp
  | cons c back => simp [hback c rfl]

theorem mem_of_mem_cutAt_fst {stop : Char → Bool} {t : Text} {c : Char} (h : c ∈ (cutAt stop t).1) :
    c ∈ t :=
  List.takeWhile_subset _ h

theorem mem_of_mem_cutAt_snd {stop : Char → Bool} {t : Text} {c : Char} (h : c ∈ (cutAt stop t).2) :
    c ∈ t :=
  List.dropWhile_subset _ h

theorem not_mem_cutAt_fst (t : Text) (mark : Char) : mark ∉ (cutAt (· == mark) t).1 := by
  intro h
  have := List.all_eq_true.1 List.all_takeWhile mark h
  simp at this

/-- What is left by a cut starts with the mark. -/
theorem eq_of_head?_cutAt_snd {mark c : Char} {t : Text}
    (h : (cutAt (· == mark) t).2.head? = some c) : c = mark := by
  have hhead := List.head?_dropWhile_not (fun d : Char => !(d == mark)) t
  have hdrop : (t.dropWhile fun d => !(d == mark)).head? = some c := h
  rw [hdrop] at hhead
  simpa using hhead

/-- The mark stands between the two parts. -/
theorem mem_of_splitFirst? {stop : Char → Bool} {t before after : Text} {c : Char}
    (h : splitFirst? stop t = some (before, after)) (hc : c ∈ after) : c ∈ t := by
  unfold splitFirst? at h
  split at h
  · cases h
  · rename_i hcut
    cases h
    have hmem : c ∈ (cutAt stop t).2 := by
      rw [hcut]
      exact List.mem_cons_of_mem _ hc
    exact mem_of_mem_cutAt_snd hmem

theorem eq_of_splitFirst? {mark : Char} {t before after : Text}
    (h : splitFirst? (· == mark) t = some (before, after)) : t = before ++ mark :: after := by
  unfold splitFirst? at h
  split at h
  · cases h
  · rename_i c rest hcut
    cases h
    have hc : c = mark := eq_of_head?_cutAt_snd (t := t) (by rw [hcut]; rfl)
    have happend := cutAt_append (· == mark) t
    rw [hcut, hc] at happend
    exact happend.symm

/-! ## The words of a text -/

@[simp] theorem words_nil : words [] = [] := rfl

/-- A blank in front of a text is in none of its words. -/
theorem words_cons_blank {c : Char} (hc : isBlank c = true) (t : Text) :
    words (c :: t) = words t := by
  rw [words, List.splitOnP_cons_eq_if_modifyHead, if_pos hc,
    List.filter_cons_of_neg (by simp), words]

/-- A blank behind a text is in none of its words. -/
theorem words_concat_blank {c : Char} (hc : isBlank c = true) (t : Text) :
    words (t ++ [c]) = words t := by
  rw [words, List.splitOnP_append_cons _ _ hc, List.filter_append, List.splitOnP_nil]
  simp [words]

/-- **A word ends at the first blank behind it**, or with the text. -/
theorem words_append {w t : Text} (hne : w ≠ []) (hw : ∀ c ∈ w, isBlank c = false)
    (ht : ∀ c, t.head? = some c → isBlank c = true) : words (w ++ t) = w :: words t := by
  cases t with
  | nil =>
    rw [List.append_nil, words, List.splitOnP_eq_singleton hw]
    simp [hne]
  | cons c t =>
    have hc := ht c rfl
    rw [words_cons_blank hc, words, List.splitOnP_append_cons_of_forall_mem hw c hc]
    simp [hne, words]

/-- A text that starts with no blank has a word. -/
theorem words_cons_ne_nil {c : Char} (hc : isBlank c = false) (t : Text) : words (c :: t) ≠ [] := by
  have hword : ∀ d ∈ c :: t.takeWhile (!isBlank ·), isBlank d = false := by
    refine List.forall_mem_cons.2 ⟨hc, fun d hd => ?_⟩
    simpa using List.all_eq_true.1 List.all_takeWhile d hd
  have hbehind : ∀ d, (t.dropWhile (!isBlank ·)).head? = some d → isBlank d = true := by
    intro d hd
    have := List.head?_dropWhile_not (!isBlank ·) t
    rw [hd] at this
    simpa using this
  have happend := words_append (List.cons_ne_nil _ _) hword hbehind
  rw [List.cons_append, List.takeWhile_append_dropWhile] at happend
  rw [happend]
  exact List.cons_ne_nil _ _

/-- There are no blanks in a word. -/
theorem isBlank_of_mem_words {t word : Text} (h : word ∈ t.words) : ∀ c ∈ word, isBlank c = false :=
  not_of_mem_splitOnP (List.mem_filter.1 h).1

end PlainSpec.Text

namespace PlainSpec.Line

/-! ## Lines of a source -/

/-- A carriage return is a blank, so it is trimmed off in any case. -/
theorem trim_dropReturn (t : Text) : (dropReturn t).trim = t.trim := by
  unfold dropReturn
  split
  · rename_i hlast
    obtain ⟨u, rfl⟩ := List.getLast?_eq_some_iff.1 hlast
    rw [List.dropLast_concat]
    exact (Text.trim_append_blank (by simp [Text.AllBlank]; rfl) u).symm
  · rfl

/-- **The trimmed lines of a source are those of its text.** -/
theorem map_trimmed_split (text : Text) :
    (split text).map trimmed = (text.splitOn '\n').map Text.trim := by
  apply List.ext_getElem
  · simp [split]
  · intro i h₁ h₂
    simp [split, trimmed, trim_dropReturn]

end PlainSpec.Line
