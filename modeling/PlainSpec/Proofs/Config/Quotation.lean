import PlainSpec.Config.Toml

/-!
# Texts are read back from their quotation

A text is quoted in the first of five forms that it fits into.  What a form asks of a text is told
by the longest runs of either mark and by whether an escape is needed, and each form has its own
reader.

The long forms are the ones to look at.  Their reader takes a whole run of marks at once and decides
by its length whether it ends the text, so the marks at the end of a text come in one run with those
that close it.  The text is therefore gone through run by run, and the last run is told apart from
the others.

## Main results

* `Toml.readBasic_flatMap_escapeChar`, `Toml.readLong_append`: the readers of the forms.
* `Toml.readText?_quote`: every text is read back from its quotation.
-/

namespace PlainSpec.Toml

/-! ## Runs of a character -/

theorem longestRun_le_cons (c d : Char) (t : Text) : longestRun c t ≤ longestRun c (d :: t) := by
  rw [longestRun]
  split
  · exact Nat.le_max_right _ _
  · exact Nat.le_refl _

theorem longestRun_le_append (c : Char) (s t : Text) : longestRun c t ≤ longestRun c (s ++ t) := by
  induction s with
  | nil => exact Nat.le_refl _
  | cons d s ih => exact Nat.le_trans ih (longestRun_le_cons c d _)

/-- A run at the start is no longer than the longest one. -/
theorem length_run_lt (c : Char) (t : Text) :
    (t.takeWhile (· == c)).length < longestRun c (c :: t) := by
  rw [longestRun, if_pos rfl]
  exact Nat.lt_of_lt_of_le (Nat.lt_succ_self _) (Nat.le_max_left _ _)

theorem not_mem_of_longestRun {c : Char} {t : Text} (h : longestRun c t = 0) : c ∉ t := by
  intro hc
  obtain ⟨before, after, rfl⟩ := List.append_of_mem hc
  have hle := longestRun_le_append c before (c :: after)
  have hlt := length_run_lt c after
  omega

/-- A text starts with a run of a character, which may be empty, and goes on with another one. -/
theorem exists_run (c : Char) (t : Text) : ∃ count tail, t = List.replicate count c ++ tail ∧
    tail.head? ≠ some c ∧ count < longestRun c (c :: t) := by
  refine ⟨(t.takeWhile (· == c)).length, t.dropWhile (· == c), ?_, fun hhead => ?_,
    length_run_lt c t⟩
  · have hrun : t.takeWhile (· == c) = List.replicate (t.takeWhile (· == c)).length c :=
      List.eq_replicate_iff.2
        ⟨rfl, fun d hd => by simpa using List.all_eq_true.1 List.all_takeWhile d hd⟩
    rw [← hrun, List.takeWhile_append_dropWhile]
  · have hnot := List.head?_dropWhile_not (· == c) t
    rw [hhead] at hnot
    simp at hnot

/-! ## The short forms -/

/-- A text of which nothing is escaped. -/
theorem readBasic_append {t : Text} (hquote : '"' ∉ t) (hslash : '\\' ∉ t)
    (hcontrol : ∀ c ∈ t, isControl c = false) (rest : Text) :
    readBasic (t ++ '"' :: rest) = some (t, rest) := by
  induction t with
  | nil => rw [List.nil_append, readBasic, if_pos rfl]
  | cons c t ih =>
    simp only [List.mem_cons, not_or] at hquote hslash
    obtain ⟨hc, ht⟩ := List.forall_mem_cons.1 hcontrol
    rw [List.cons_append, readBasic, if_neg (Ne.symm hquote.1), if_neg (Ne.symm hslash.1)]
    simp [hc, ih hquote.2 hslash.2 ht]

theorem readLiteral_append {t : Text} (hquote : '\'' ∉ t) (hcontrol : ∀ c ∈ t, isControl c = false)
    (rest : Text) : readLiteral (t ++ '\'' :: rest) = some (t, rest) := by
  induction t with
  | nil => rw [List.nil_append, readLiteral, if_pos rfl]
  | cons c t ih =>
    simp only [List.mem_cons, not_or] at hquote
    obtain ⟨hc, ht⟩ := List.forall_mem_cons.1 hcontrol
    rw [List.cons_append, readLiteral, if_neg (Ne.symm hquote.1)]
    simp [hc, ih hquote.2 ht]

/-! ## Escapes -/

/-- The code points of control characters are written with four digits and read back. -/
theorem charOfHex?_hexDigits {c : Char} (h : isControl c = true) :
    charOfHex? ((hexDigits 4 c.toNat).map Char.toUpper) = some c := by
  have hsmall : c.toNat < 128 := by
    simp only [isControl, Bool.or_eq_true, Bool.and_eq_true, decide_eq_true_eq, beq_iff_eq] at h
    omega
  have hall : ∀ n, n < 128 →
      charOfHex? ((hexDigits 4 n).map Char.toUpper) = some (Char.ofNat n) := by
    decide +kernel
  rw [hall _ hsmall, Char.ofNat_toNat]

theorem readBasic_backslash {t after : Text} {c : Char} (h : readEscape t = some (c, after)) :
    readBasic ('\\' :: t) = (readBasic after).map fun (body, after) => (c :: body, after) := by
  rw [readBasic, if_neg (by decide), if_pos rfl]
  split
  · rename_i hnone
    rw [h] at hnone
    cases hnone
  · rename_i hsome
    rw [h] at hsome
    cases hsome
    rfl

theorem readEscape_hexDigits {c : Char} (h : isControl c = true) (rest : Text) :
    readEscape ('u' :: ((hexDigits 4 c.toNat).map Char.toUpper ++ rest)) = some (c, rest) := by
  have hread := charOfHex?_hexDigits h
  obtain ⟨d₁, d₂, d₃, d₄, hdigits⟩ :
      ∃ d₁ d₂ d₃ d₄, (hexDigits 4 c.toNat).map Char.toUpper = [d₁, d₂, d₃, d₄] := ⟨_, _, _, _, rfl⟩
  rw [hdigits] at hread ⊢
  simp [readEscape, hread]

/-- **An escaped character is read as one character.** -/
theorem readBasic_escapeChar (c : Char) (rest : Text) :
    readBasic (escapeChar c ++ rest) = (readBasic rest).map fun (body, after) =>
      (c :: body, after) := by
  have hletter : ∀ letter, letter ≠ 'u' → letter ≠ 'U' → escape? letter = some c →
      readBasic ('\\' :: letter :: rest) =
        (readBasic rest).map fun (body, after) => (c :: body, after) := by
    intro letter hu hU hc
    refine readBasic_backslash ?_
    unfold readEscape
    split <;> simp_all
  unfold escapeChar
  split
  · exact hletter '"' (by decide) (by decide) rfl
  · exact hletter '\\' (by decide) (by decide) rfl
  · exact hletter 'b' (by decide) (by decide) rfl
  · exact hletter 't' (by decide) (by decide) rfl
  · exact hletter 'n' (by decide) (by decide) rfl
  · exact hletter 'f' (by decide) (by decide) rfl
  · exact hletter 'r' (by decide) (by decide) rfl
  · rename_i hquote hslash _ _ _ _ _
    split
    · rename_i hcontrol
      exact readBasic_backslash (readEscape_hexDigits hcontrol rest)
    · rename_i hcontrol
      rw [List.singleton_append, readBasic, if_neg hquote, if_neg hslash]
      simp [hcontrol]

/-- **A text is read back from its escaped form.** -/
theorem readBasic_flatMap_escapeChar (t rest : Text) :
    readBasic (t.flatMap escapeChar ++ '"' :: rest) = some (t, rest) := by
  induction t with
  | nil => exact readBasic_append (by simp) (by simp) (by simp) rest
  | cons c t ih =>
    rw [List.flatMap_cons, List.append_assoc, readBasic_escapeChar, ih, Option.map_some]

/-! ## The long forms -/

/-- A run of marks is taken at once. -/
theorem readLong_replicate (mark : Char) (count : Nat) {rest : Text} (h : rest.head? ≠ some mark) :
    readLong mark (List.replicate (count + 1) mark ++ rest) =
      if count < 2 then
        (readLong mark rest).map fun (body, after) =>
          (List.replicate (count + 1) mark ++ body, after)
      else if count ≤ 4 then some (List.replicate (count - 2) mark, rest)
      else none := by
  have hall : ∀ c ∈ List.replicate count mark, (c == mark) = true := by simp
  have hstop : rest.takeWhile (· == mark) = [] := by
    cases rest with
    | nil => rfl
    | cons d rest =>
      have hd : d ≠ mark := fun heq => h (by simp [heq])
      simp [hd]
  have htake : (List.replicate count mark ++ rest).takeWhile (· == mark) =
      List.replicate count mark := by
    rw [List.takeWhile_append_of_pos hall, hstop, List.append_nil]
  rw [List.replicate_succ, List.cons_append, readLong, if_pos rfl, htake]
  dsimp only
  rw [List.drop_left, List.length_replicate]

/-- **A long text is read up to three marks**, if it has no longer run of them than two. -/
theorem readLong_append {mark : Char} {t : Text} (hruns : longestRun mark t ≤ 2)
    (hslash : mark = '"' → '\\' ∉ t) (hcontrol : ∀ c ∈ t, isControl c = false) {rest : Text}
    (hrest : rest.head? ≠ some mark) :
    readLong mark (t ++ (List.replicate 3 mark ++ rest)) = some (t, rest) := by
  induction hlength : t.length using Nat.strongRecOn generalizing t with
  | ind n ih =>
    cases t with
    | nil => simpa using readLong_replicate mark 2 hrest
    | cons c t =>
      obtain ⟨hc, ht⟩ := List.forall_mem_cons.1 hcontrol
      by_cases hmark : c = mark
      · subst hmark
        obtain ⟨count, tail, rfl, htail, hcount⟩ := exists_run c t
        have hfront : c :: (List.replicate count c ++ tail) =
            List.replicate (count + 1) c ++ tail := rfl
        have hshort : count < 2 := by omega
        rw [hfront] at hruns hslash hcontrol hlength ⊢
        by_cases hend : tail = []
        · -- the run goes on with the marks that close the text
          subst hend
          have hclose := readLong_replicate c (count + 3) hrest
          rw [if_neg (by omega), if_pos (by omega)] at hclose
          rw [List.append_nil, ← List.append_assoc, List.replicate_append_replicate]
          exact hclose
        · have hstop : (tail ++ (List.replicate 3 c ++ rest)).head? ≠ some c := by
            rwa [List.head?_append, Option.or_of_isSome (List.isSome_head?.2 hend)]
          have hread := ih tail.length (by simp [← hlength])
            (Nat.le_trans (longestRun_le_append c _ tail) hruns)
            (fun h hmem => hslash h (List.mem_append_right _ hmem))
            (fun d hd => hcontrol d (List.mem_append_right _ hd)) rfl
          rw [List.append_assoc, readLong_replicate c count hstop, if_pos hshort, hread,
            Option.map_some]
      · have hread :=
          ih t.length (by simp [← hlength]) (Nat.le_trans (longestRun_le_cons mark c t) hruns)
          (fun h hmem => hslash h (List.mem_cons_of_mem _ hmem)) ht rfl
        have hnoEscape : ¬ (c = '\\' ∧ mark = '"') := by
          rintro ⟨rfl, h⟩
          exact hslash h List.mem_cons_self
        rw [List.cons_append, readLong, if_neg hmark, if_neg hnoEscape, hread]
        simp [hc]

/-! ## Quotation -/

/-- One mark opens a short form if there are not two more of them. -/
theorem readText?_double {t : Text} (h : ∀ u, t ≠ '"' :: '"' :: u) :
    readText? ('"' :: t) = readBasic t := by
  unfold readText?
  split
  · rename_i rest heq
    exact absurd (List.cons.inj heq).2 (h rest)
  · rename_i heq
    cases heq
  · rename_i heq
    cases heq
    rfl
  · rename_i heq
    cases heq
  · rename_i hdouble _
    exact absurd rfl (hdouble t)

theorem readText?_single {t : Text} (h : ∀ u, t ≠ '\'' :: '\'' :: u) :
    readText? ('\'' :: t) = readLiteral t := by
  unfold readText?
  split
  · rename_i heq
    cases heq
  · rename_i rest heq
    exact absurd (List.cons.inj heq).2 (h rest)
  · rename_i heq
    cases heq
  · rename_i heq
    cases heq
    rfl
  · rename_i hsingle
    exact absurd rfl (hsingle t)

/-- A closing mark does not look like the second one of three opening marks. -/
theorem ne_marks {mark : Char} {t rest : Text} (ht : t.head? ≠ some mark)
    (hrest : rest.head? ≠ some mark) (u : Text) : t ++ mark :: rest ≠ mark :: mark :: u := by
  intro heq
  cases t with
  | nil =>
    rw [List.nil_append] at heq
    exact hrest (by rw [(List.cons.inj heq).2]; rfl)
  | cons c t => exact ht (congrArg some (List.cons.inj heq).1)

/-- A long text that starts with no line end is read from its first character on. -/
theorem dropBreak?_append {mark : Char} (hmark : isControl mark = false) {t : Text}
    (hcontrol : ∀ c ∈ t, isControl c = false) (rest : Text) :
    dropBreak? (t ++ mark :: rest) = none := by
  have hbreak : ∀ (c : Char) (u : Text), isControl c = false → dropBreak? (c :: u) = none := by
    intro c u hc
    unfold dropBreak?
    split
    · rename_i heq
      rw [(List.cons.inj heq).1] at hc
      cases hc
    · rename_i heq
      rw [(List.cons.inj heq).1] at hc
      cases hc
    · rfl
  cases t with
  | nil => exact hbreak mark rest hmark
  | cons c t => exact hbreak c _ (hcontrol c List.mem_cons_self)

theorem head?_flatMap_escapeChar (t : Text) : (t.flatMap escapeChar).head? ≠ some '"' := by
  cases t with
  | nil => simp
  | cons c t =>
    rw [List.flatMap_cons]
    unfold escapeChar
    split
    · simp
    · simp
    · simp
    · simp
    · simp
    · simp
    · simp
    · rename_i hquote _ _ _ _ _ _
      split
      · simp
      · simpa using hquote

/-- **Every text is read back from its quotation.** -/
theorem readText?_quote (t : Text) {rest : Text} (hdouble : rest.head? ≠ some '"')
    (hsingle : rest.head? ≠ some '\'') : readText? (quote t ++ rest) = some (t, rest) := by
  have hhead : ∀ mark : Char, longestRun mark t = 0 → t.head? ≠ some mark := fun mark h hmark =>
    not_mem_of_longestRun h (List.mem_of_head? hmark)
  have hplain : ∀ h : (!t.any isControl) = true, ∀ c ∈ t, isControl c = false := by
    intro h c hc
    rw [Bool.not_eq_true', List.any_eq_false] at h
    simpa using h c hc
  have hclose : ∀ (mark : Char) (s : Text), (mark :: s ++ [mark]) ++ rest =
      mark :: (s ++ mark :: rest) := by
    simp
  unfold quote
  dsimp only
  split
  · rename_i h
    -- between double marks: it has none itself, so the opening one is not taken for three
    rw [hclose, readText?_double (ne_marks (hhead _ h.2.2) hdouble)]
    exact readBasic_append (not_mem_of_longestRun h.2.2) h.2.1 (hplain h.1) rest
  split
  · rename_i h
    rw [hclose, readText?_single (ne_marks (hhead _ h.2) hsingle)]
    exact readLiteral_append (not_mem_of_longestRun h.2) (hplain h.1) rest
  split
  · rename_i h
    -- between three double marks: it holds no line end that could be dropped at its start
    have hread := readLong_append h.2.2 (fun _ => h.2.1) (hplain h.1) hdouble
    have hbreak := @dropBreak?_append '"' rfl t (hplain h.1) ('"' :: '"' :: rest)
    simp only [List.cons_append, List.nil_append, List.append_assoc]
    rw [readText?, hbreak]
    exact hread
  split
  · rename_i h
    have hread := readLong_append h.2 (by simp) (hplain h.1) hsingle
    have hbreak := @dropBreak?_append '\'' rfl t (hplain h.1) ('\'' :: '\'' :: rest)
    simp only [List.cons_append, List.nil_append, List.append_assoc]
    rw [readText?, hbreak]
    exact hread
  · rw [hclose, readText?_double (ne_marks (head?_flatMap_escapeChar t) hdouble)]
    exact readBasic_flatMap_escapeChar t rest

end PlainSpec.Toml
