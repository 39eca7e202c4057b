import Mathlib
import PlainSpec.Proofs.Text.Neat
import PlainSpec.TestName

/-!
# Names for tests are identifiers

The steps that make a name work against each other: a character that is no ASCII letter may be put
in upper case as several of them, dropping characters may lay digits bare, and dropping these may
lay bare a letter of the inside of a word, which is then put in upper case as well.

All of this is told by one predicate on texts, `IsName`.  Every text has a name that satisfies it,
and the texts that satisfy it are their own names.  That a name does not change when it is named
again is the two put together; so the second step needs to know nothing of how a name is made.

## Main definitions

* `IsName`: the texts that can be the name of a test.

## Main results

* `isName_testName`: a name is an identifier.
* `testName_eq_self`: an identifier is its own name.
* `testName_append_break`: a name is made of the first line.
-/

namespace PlainSpec

/-- A text that can be the name of a test. -/
structure IsName (t : Text) : Prop where
  short : t.length ≤ maxNameLength
  chars : ∀ c ∈ t, isNameChar c = true
  first : ∀ c, t.head? = some c → c.isDigit = false ∧ c.isLower = false

/-! ## Characters of a name -/

theorem isNameChar_iff {c : Char} : isNameChar c = true ↔ c.isAlphanum = true ∨ c = '_' := by
  simp [isNameChar]

theorem isDigit_toUpper {c : Char} (h : c.isDigit = false) : c.toUpper.isDigit = false := by
  by_cases hc : c.isLower = true
  · have hupper : c.toUpper.isUpper = true := by
      rw [Char.isUpper_toUpper_eq_isAlpha]
      simp [Char.isAlpha, hc]
    delta Char.isUpper at hupper
    delta Char.isDigit
    simp only [decide_eq_true_eq, ge_iff_le, UInt32.le_iff_toNat_le] at hupper
    have hA : 'A'.val.toNat = 65 := rfl
    have h9 : '9'.val.toNat = 57 := rfl
    simp only [Bool.and_eq_false_iff, decide_eq_false_iff_not, ge_iff_le, UInt32.le_iff_toNat_le]
    omega
  · rwa [Char.toUpper_eq_of_not_isLower hc]

theorem isNameChar_toUpper {c : Char} (h : isNameChar c = true) : isNameChar c.toUpper = true := by
  by_cases hc : c.isLower = true
  · have halpha : c.toUpper.isAlpha = true := by
      rw [Char.isAlpha_toUpper_eq_isAlpha]
      simp [Char.isAlpha, hc]
    exact isNameChar_iff.2 (.inl (by simp [Char.isAlphanum, halpha]))
  · rwa [Char.toUpper_eq_of_not_isLower hc]

/-- The characters of names lie between the digits and the small letters, where no blank is. -/
theorem isBlank_of_isNameChar {c : Char} (h : isNameChar c = true) : isBlank c = false := by
  rcases isNameChar_iff.1 h with h | rfl
  · delta Char.isAlphanum Char.isAlpha Char.isUpper Char.isLower Char.isDigit at h
    simp only [Bool.or_eq_true, Bool.and_eq_true, decide_eq_true_eq, ge_iff_le,
      UInt32.le_iff_toNat_le] at h
    have hrange : 48 ≤ c.toNat ∧ c.toNat ≤ 122 := by
      rcases h with (⟨hl, hh⟩ | ⟨hl, hh⟩) | ⟨hl, hh⟩
      · exact ⟨le_trans (by decide) hl, le_trans hh (by decide)⟩
      · exact ⟨le_trans (by decide) hl, le_trans hh (by decide)⟩
      · exact ⟨le_trans (by decide) hl, le_trans hh (by decide)⟩
    simp only [isBlank, Bool.or_eq_false_iff, Bool.and_eq_false_iff, decide_eq_false_iff_not,
      beq_eq_false_iff_ne, ne_eq]
    omega
  · rfl

/-! ## Capitalised words -/

/-- Whatever an upper case form leaves in a name may stand in one. -/
theorem isNameChar_of_mem_upperAscii {c d : Char} (h : d ∈ upperAscii c) : isNameChar d = true := by
  have htable : ∀ entry ∈ upperTable, ∀ d ∈ entry.2.toList, isNameChar d = true := by
    simp [upperTable, isNameChar]
  unfold upperAscii at h
  split at h
  · rename_i hc
    rw [List.mem_singleton.1 h]
    exact isNameChar_toUpper hc
  · cases hfound : upperTable.lookup c with
    | none => simp [hfound] at h
    | some form =>
      obtain ⟨before, after, heq, -⟩ := List.lookup_eq_some_iff.1 hfound
      refine htable (c, form) ?_ d (by simpa [hfound] using h)
      rw [heq]
      simp

theorem isNameChar_of_mem_capitalised {word : Text} {d : Char} (h : d ∈ capitalised word) :
    isNameChar d = true := by
  cases word with
  | nil => cases h
  | cons c rest =>
    rcases List.mem_append.1 h with h | h
    · exact isNameChar_of_mem_upperAscii h
    · exact (List.mem_filter.1 h).2

/-- A word that starts with no small letter and holds only characters of names is left as it is. -/
theorem capitalised_eq_self {c : Char} {rest : Text} (hlower : c.isLower = false)
    (hchars : ∀ d ∈ c :: rest, isNameChar d = true) : capitalised (c :: rest) = c :: rest := by
  obtain ⟨hc, hrest⟩ := List.forall_mem_cons.1 hchars
  have hupper : c.toUpper = c := Char.toUpper_eq_of_not_isLower (by simp [hlower])
  rw [capitalised, upperAscii, if_pos hc, hupper, List.filter_eq_self.2 hrest,
    List.singleton_append]

/-! ## The name of a text -/

theorem upperFirst_eq_self {c : Char} {rest : Text} (h : c.isLower = false) :
    upperFirst (c :: rest) = c :: rest := by
  rw [upperFirst, Char.toUpper_eq_of_not_isLower (by simp [h])]

/-- Characters of names without digits in front make a name, once the first one is put in upper
case. -/
theorem isName_upperFirst {t : Text} (hchars : ∀ c ∈ t, isNameChar c = true)
    (hdigit : ∀ c, t.head? = some c → c.isDigit = false) :
    IsName ((upperFirst t).take maxNameLength) := by
  cases t with
  | nil => exact ⟨by simp [upperFirst], by simp [upperFirst], by simp [upperFirst]⟩
  | cons c rest =>
    obtain ⟨hc, hrest⟩ := List.forall_mem_cons.1 hchars
    refine ⟨List.length_take_le _ _, fun d hd => ?_, fun d hd => ?_⟩
    · rcases List.mem_cons.1 (List.mem_of_mem_take hd) with rfl | hd
      · exact isNameChar_toUpper hc
      · exact hrest d hd
    · have heq : c.toUpper = d := by simpa [upperFirst, maxNameLength] using hd
      rw [← heq]
      exact ⟨isDigit_toUpper (hdigit c rfl), Char.isLower_toUpper_eq_false c⟩

/-- **The name of a text is an identifier.** -/
theorem isName_testName (text : Text) : IsName (testName text) := by
  refine isName_upperFirst (fun c hc => ?_) fun c hc => ?_
  · obtain ⟨word, -, hword⟩ := List.mem_flatMap.1 (List.dropWhile_subset _ hc)
    exact isNameChar_of_mem_capitalised hword
  · have hhead := List.head?_dropWhile_not Char.isDigit
      ((Text.words (firstLine text)).flatMap capitalised)
    rw [hc] at hhead
    simpa using hhead

theorem firstLine_eq_self {t : Text} (h : '\n' ∉ t) : firstLine t = t := by
  refine List.takeWhile_eq_self_iff.2 fun c hc => ?_
  have hne : c ≠ '\n' := ne_of_mem_of_not_mem hc h
  simpa using hne

/-- **An identifier is its own name.** -/
theorem testName_eq_self {t : Text} (h : IsName t) : testName t = t := by
  cases t with
  | nil => rfl
  | cons c rest =>
    obtain ⟨hdigit, hlower⟩ := h.first c rfl
    have hblank : ∀ d ∈ c :: rest, isBlank d = false :=
      fun d hd => isBlank_of_isNameChar (h.chars d hd)
    have hline : firstLine (c :: rest) = c :: rest := by
      refine firstLine_eq_self fun hmem => ?_
      exact absurd (hblank _ hmem) (by decide)
    have hwords : Text.words (c :: rest) = [c :: rest] := by
      have := Text.words_append (t := []) (List.cons_ne_nil c rest) hblank (by simp)
      rwa [List.append_nil, Text.words_nil] at this
    rw [testName, hline, hwords, List.flatMap_singleton, capitalised_eq_self hlower h.chars]
    rw [List.dropWhile_cons_of_neg (by simp [hdigit]), upperFirst_eq_self hlower]
    exact List.take_of_length_le h.short

/-! ## The first line -/

theorem firstLine_append_break {line : Text} (h : '\n' ∉ line) (more : Text) :
    firstLine (line ++ '\n' :: more) = line := by
  have hline : ∀ c ∈ line, (decide (c ≠ '\n')) = true := fun c hc =>
    decide_eq_true (ne_of_mem_of_not_mem hc h)
  rw [firstLine, List.takeWhile_append_of_pos hline]
  simp

/-- A name is made of the first line, whose end may be of two characters. -/
theorem testName_append_break {line : Text} (h : '\n' ∉ line) (more : Text) :
    testName (line ++ '\n' :: more) = testName line ∧
      testName (line ++ '\r' :: '\n' :: more) = testName line := by
  have hreturn : '\n' ∉ line ++ ['\r'] := by simp [h]
  constructor
  · rw [testName, firstLine_append_break h, testName, firstLine_eq_self h]
  · have hsplit : line ++ '\r' :: '\n' :: more = (line ++ ['\r']) ++ '\n' :: more := by simp
    rw [hsplit, testName, firstLine_append_break hreturn, Text.words_concat_blank rfl, testName,
      firstLine_eq_self h]

/-- **Names are identifiers, and stable.**  Every text has a name of at most a hundred ASCII
letters, digits and underscores that starts with no digit and no small letter.  The name depends on
nothing behind the first line of the text, and it is its own name, as is every text that could be a
name. -/
theorem testName_identifier (text : Text) :
    (testName text).length ≤ 100 ∧
    (∀ c ∈ testName text, c.isAlphanum = true ∨ c = '_') ∧
    (∀ c, (testName text).head? = some c → c.isDigit = false ∧ c.isLower = false) ∧
    ('\n' ∉ text → ∀ more, testName (text ++ '\n' :: more) = testName text ∧
      testName (text ++ '\r' :: '\n' :: more) = testName text) ∧
    testName (testName text) = testName text ∧
    (IsName text → testName text = text) := by
  have h := isName_testName text
  exact ⟨h.short, fun c hc => isNameChar_iff.1 (h.chars c hc), h.first,
    fun hline more => testName_append_break hline more, testName_eq_self h, testName_eq_self⟩

/-- A ligature in front of digits, a sharp s that lies behind them, and a text that is a name. -/
theorem testName_identifier_sharp :
    testName "ﬃ 2 fast".toList = "FFI2Fast".toList ∧
    testName "4 ßtraße\r\nx".toList = "SStrae".toList ∧
    testName (testName "4 ßtraße\r\nx".toList) = "SStrae".toList ∧
    testName "_adds_2".toList = "_adds_2".toList := by
  have hsharp : testName "4 ßtraße".toList = "SStrae".toList := by cbv
  have hline := ((testName_identifier "4 ßtraße".toList).2.2.2.1 (by decide) ['x']).2
  have hall : testName "4 ßtraße\r\nx".toList = "SStrae".toList := hline.trans hsharp
  have hname : IsName "_adds_2".toList := ⟨by decide, List.all_eq_true.1 rfl, by simp⟩
  refine ⟨by cbv, hall, ?_, (testName_identifier _).2.2.2.2.2 hname⟩
  rw [(testName_identifier _).2.2.2.2.1, hall]

end PlainSpec
