import PlainSpec.Proofs.Expression.Grammar

/-!
# Label expressions are read back from their text

An expression is displayed with its left operand as it stands and its right operand in parentheses.
Reading folds from the left, so it rebuilds the chain, joint by joint.

The text of an expression is cut into the words of its labels only if these are words: not empty,
without blanks and parentheses, and none of the words that join labels.  The labels of an expression
that was read are such words, so what was read can be displayed and read again.

## Main definitions

* `Expression.LabelWord`: a label that is found again in a text.
* `Expression.labels`: the labels of an expression.
* `Expression.tokens`: an expression as it is displayed, cut into words and parentheses.

## Main results

* `Expression.tokenize_display`: the text of an expression is cut into its tokens.
* `Expression.parse_display`: expressions are read back from their text.
-/

namespace PlainSpec.Expression

/-! ## Labels -/

/-- A label that is found again in a text. -/
structure LabelWord (name : Text) : Prop where
  nonempty : name ≠ []
  noBlank : ∀ c ∈ name, isBlank c = false
  noParenthesis : '(' ∉ name ∧ ')' ∉ name
  noKeyword : name ∉ keywords

/-- The labels of an expression, from left to right. -/
def labels : Expression → List Text
  | label name => [name]
  | lacks name => [name]
  | joinLabel left _ name => left.labels ++ [name]
  | joinGroup left _ right => left.labels ++ right.labels

/-- The words and parentheses of an expression as it is displayed. -/
def tokens : Expression → List Token
  | label name => [.word name]
  | lacks name => [.word "not".toList, .word name]
  | joinLabel left joint name => left.tokens ++ joint.tokens ++ [.word name]
  | joinGroup left joint right =>
    left.tokens ++ joint.tokens ++ .opening :: right.tokens ++ [.closing]

/-! ## Cutting a text into words -/

/-- A run of characters of words ends at one that belongs to no word. -/
theorem span_isWordChar (text : Text) {c : Char} (hc : isWordChar c = false) (rest : Text) :
    (text ++ c :: rest).takeWhile isWordChar = text.takeWhile isWordChar ∧
      (text ++ c :: rest).dropWhile isWordChar = text.dropWhile isWordChar ++ c :: rest := by
  induction text with
  | nil => simp [hc]
  | cons d text ih => by_cases hd : isWordChar d = true <;> simp [hd, ih]

/-- **A text is cut where no word goes on.** -/
theorem tokenize_append (text : Text) {c : Char} (hc : isWordChar c = false) (rest : Text) :
    tokenize (text ++ c :: rest) = tokenize text ++ tokenize (c :: rest) := by
  fun_induction tokenize text with
  | case1 => rfl
  | case2 text ih => rw [List.cons_append, tokenize, if_pos rfl, ih, List.cons_append]
  | case3 text hopening ih =>
    rw [List.cons_append, tokenize, if_neg hopening, if_pos rfl, ih, List.cons_append]
  | case4 d text hopening hclosing hblank ih =>
    rw [List.cons_append, tokenize, if_neg hopening, if_neg hclosing, if_pos hblank, ih]
  | case5 d text hopening hclosing hblank ih =>
    obtain ⟨htake, hdrop⟩ := span_isWordChar text hc rest
    rw [List.cons_append, tokenize, if_neg hopening, if_neg hclosing, if_neg hblank,
      htake, hdrop, ih, List.cons_append]

theorem tokenize_space (rest : Text) : tokenize (' ' :: rest) = tokenize rest := by
  rw [tokenize, if_neg (by decide), if_neg (by decide), if_pos (by decide)]

theorem tokenize_append_space (text rest : Text) :
    tokenize (text ++ ' ' :: rest) = tokenize text ++ tokenize rest := by
  rw [tokenize_append text (by decide), tokenize_space]

theorem tokenize_append_opening (text rest : Text) :
    tokenize (text ++ '(' :: rest) = tokenize text ++ .opening :: tokenize rest := by
  rw [tokenize_append text (by decide), tokenize, if_pos rfl]

theorem tokenize_append_closing (text : Text) :
    tokenize (text ++ [')']) = tokenize text ++ [.closing] := by
  rw [tokenize_append text (by decide), tokenize, if_neg (by decide), if_pos rfl, tokenize]

/-- A run of characters of words is a word. -/
theorem tokenize_word {name : Text} (hne : name ≠ []) (hname : ∀ c ∈ name, isWordChar c = true) :
    tokenize name = [.word name] := by
  obtain ⟨c, rest, rfl⟩ := List.exists_cons_of_ne_nil hne
  obtain ⟨hc, hrest⟩ := List.forall_mem_cons.1 hname
  have htake : (rest ++ []).takeWhile isWordChar = rest ++ [].takeWhile isWordChar :=
    List.takeWhile_append_of_pos hrest
  have hdrop : (rest ++ []).dropWhile isWordChar = [].dropWhile isWordChar :=
    List.dropWhile_append_of_pos hrest
  simp only [List.append_nil, List.takeWhile_nil, List.dropWhile_nil] at htake hdrop
  simp only [isWordChar, Bool.and_eq_true, Bool.not_eq_true', bne_iff_ne, ne_eq] at hc
  rw [tokenize, if_neg hc.1.2, if_neg hc.2, if_neg (by simp [hc.1.1]), htake, hdrop, tokenize]

theorem isWordChar_iff {c : Char} :
    isWordChar c = true ↔ isBlank c = false ∧ c ≠ '(' ∧ c ≠ ')' := by
  simp [isWordChar, and_assoc]

theorem LabelWord.tokenize {name : Text} (h : LabelWord name) :
    Expression.tokenize name = [.word name] := by
  refine tokenize_word h.nonempty fun c hc => isWordChar_iff.2 ⟨h.noBlank c hc, ?_, ?_⟩
  · rintro rfl
    exact h.noParenthesis.1 hc
  · rintro rfl
    exact h.noParenthesis.2 hc

theorem tokenize_keyword {word : Text} (h : word ∈ keywords) :
    Expression.tokenize word = [.word word] := by
  simp only [keywords, List.mem_cons, List.not_mem_nil, or_false] at h
  rcases h with rfl | rfl | rfl
  all_goals exact tokenize_word (by simp) (List.all_eq_true.1 rfl)

/-- The text of a joint is cut into its words. -/
theorem tokenize_joint (joint : Joint) : Expression.tokenize joint.display = joint.tokens := by
  have hor := @tokenize_keyword "or".toList (by simp [keywords])
  have hand := @tokenize_keyword "and".toList (by simp [keywords])
  have hnot := @tokenize_keyword "not".toList (by simp [keywords])
  cases joint with
  | or => exact hor
  | and => exact hand
  | orNot =>
    show Expression.tokenize ("or".toList ++ ' ' :: "not".toList) = _
    rw [tokenize_append_space, hor, hnot]
    rfl
  | andNot =>
    show Expression.tokenize ("and".toList ++ ' ' :: "not".toList) = _
    rw [tokenize_append_space, hand, hnot]
    rfl

/-- **The text of an expression is cut into its tokens.** -/
theorem tokenize_display {e : Expression} (h : ∀ name ∈ e.labels, LabelWord name) :
    tokenize e.display = e.tokens := by
  induction e with
  | label name => exact (h name (by simp [labels])).tokenize
  | lacks name =>
    have hnot := @tokenize_keyword "not".toList (by simp [keywords])
    show tokenize ("not".toList ++ ' ' :: name) = _
    rw [tokenize_append_space, hnot, (h name (by simp [labels])).tokenize]
    rfl
  | joinLabel left joint name ih =>
    have hname := (h name (by simp [labels])).tokenize
    rw [display, List.append_assoc, List.cons_append, tokenize_append_space, tokenize_append_space,
      ih fun n hn => h n (by simp [labels, hn]), tokenize_joint, hname, tokens, List.append_assoc]
  | joinGroup left joint right ihleft ihright =>
    -- an empty text in front of the parenthesis, so that it is cut off like the spaces
    have hdisplay : (joinGroup left joint right).display =
        left.display ++ ' ' ::
          (joint.display ++ ' ' :: ([] ++ '(' :: (right.display ++ [')']))) := by
      simp [display]
    rw [hdisplay, tokenize_append_space, tokenize_append_space, tokenize_append_opening,
      tokenize_append_closing, ihleft fun n hn => h n (by simp [labels, hn]),
      ihright fun n hn => h n (by simp [labels, hn]), tokenize_joint, tokenize, tokens]
    simp

/-! ## Reading what is displayed -/

/-- An expression is displayed in a way of the grammar. -/
theorem derives_tokens {e : Expression} (h : ∀ name ∈ e.labels, name ∉ keywords) :
    Derives e.tokens e := by
  induction e with
  | label name => exact .label (h name (by simp [labels]))
  | lacks name => exact .lacks (h name (by simp [labels]))
  | joinLabel left joint name ih =>
    exact .joinLabel joint (ih fun n hn => h n (by simp [labels, hn])) (h name (by simp [labels]))
  | joinGroup left joint right ihleft ihright =>
    exact .joinGroup joint (ihleft fun n hn => h n (by simp [labels, hn]))
      (ihright fun n hn => h n (by simp [labels, hn]))

theorem parse_display_of_labelWord {e : Expression} (h : ∀ name ∈ e.labels, LabelWord name) :
    parse e.display = .ok e := by
  rw [parse, tokenize_display h, ofTokens_eq_ok]
  exact derives_tokens fun name hname => (h name hname).noKeyword

/-! ## Displaying what was read -/

/-- The words of a text are not empty and hold no character that ends a word. -/
theorem word_of_mem_tokenize {text name : Text} (h : .word name ∈ tokenize text) :
    name ≠ [] ∧ ∀ c ∈ name, isWordChar c = true := by
  fun_induction tokenize text with
  | case1 => cases h
  | case2 text ih =>
    rcases List.mem_cons.1 h with heq | h
    · cases heq
    · exact ih h
  | case3 text hopening ih =>
    rcases List.mem_cons.1 h with heq | h
    · cases heq
    · exact ih h
  | case4 c text hopening hclosing hblank ih => exact ih h
  | case5 c text hopening hclosing hblank ih =>
    rcases List.mem_cons.1 h with heq | h
    · cases heq
      refine ⟨by simp, List.forall_mem_cons.2 ⟨?_, fun d hd => ?_⟩⟩
      · exact isWordChar_iff.2 ⟨by simpa using hblank, hopening, hclosing⟩
      · exact List.all_eq_true.1 List.all_takeWhile d hd
    · exact ih h

/-- The labels of an expression are words that it was written with. -/
theorem Derives.label_mem {ts : List Token} {e : Expression} (h : Derives ts e) :
    ∀ name ∈ e.labels, .word name ∈ ts ∧ name ∉ keywords := by
  induction h with
  | @label name hname => simpa [labels] using hname
  | @lacks name hname => simpa [labels] using hname
  | @group ts e _ ih =>
    intro name hname
    obtain ⟨hmem, hkeyword⟩ := ih name hname
    exact ⟨by simp [hmem], hkeyword⟩
  | @joinLabel ts left joint name _ hname ih =>
    intro n hn
    rcases List.mem_append.1 hn with hn | hn
    · obtain ⟨hmem, hkeyword⟩ := ih n hn
      exact ⟨by simp [hmem], hkeyword⟩
    · rw [List.mem_singleton.1 hn]
      exact ⟨by simp, hname⟩
  | @joinGroup ts us left right joint _ _ ihleft ihright =>
    intro n hn
    rcases List.mem_append.1 hn with hn | hn
    · obtain ⟨hmem, hkeyword⟩ := ihleft n hn
      exact ⟨by simp [hmem], hkeyword⟩
    · obtain ⟨hmem, hkeyword⟩ := ihright n hn
      exact ⟨by simp [hmem], hkeyword⟩

/-- The labels of an expression that was read are words. -/
theorem labelWord_of_parse {text : Text} {e : Expression} (h : parse text = .ok e) :
    ∀ name ∈ e.labels, LabelWord name := by
  intro name hname
  obtain ⟨hmem, hkeyword⟩ := (ofTokens_eq_ok.1 h).label_mem name hname
  obtain ⟨hne, hchars⟩ := word_of_mem_tokenize hmem
  refine ⟨hne, fun c hc => (isWordChar_iff.1 (hchars c hc)).1,
    ⟨fun hc => ?_, fun hc => ?_⟩, hkeyword⟩
  · exact (isWordChar_iff.1 (hchars _ hc)).2.1 rfl
  · exact (isWordChar_iff.1 (hchars _ hc)).2.2 rfl

/-- **Expressions are read back from their text.**  Every expression whose labels are words is read
from its text, as it is; so the text of an expression that was read is accepted, with the same
expression. -/
theorem parse_display :
    (∀ e : Expression, (∀ name ∈ e.labels, LabelWord name) → parse e.display = .ok e) ∧
      ∀ (text : Text) (e : Expression), parse text = .ok e → parse e.display = .ok e :=
  ⟨fun _ h => parse_display_of_labelWord h,
    fun _ _ h => parse_display_of_labelWord (labelWord_of_parse h)⟩

/-- A chain inside a chain, built joint by joint, and one that was written with more parentheses
than are displayed. -/
theorem parse_display_nested :
    parse (((lacks "andy".toList).join .or (.group ((label "ä-1".toList).join .andNot
      (.label "nota".toList)))).join .orNot (.label "or,not".toList)).display =
        .ok (((lacks "andy".toList).join .or (.group ((label "ä-1".toList).join .andNot
          (.label "nota".toList)))).join .orNot (.label "or,not".toList)) ∧
    ∃ e, parse "((a and (not b)))or c".toList = .ok e ∧ parse e.display = .ok e := by
  constructor
  · refine parse_display.1 _ fun name hname => ?_
    have hnames : name ∈ ["andy".toList, "ä-1".toList, "nota".toList, "or,not".toList] := hname
    simp only [List.mem_cons, List.not_mem_nil, or_false] at hnames
    rcases hnames with rfl | rfl | rfl | rfl
    all_goals exact ⟨by simp, by simp [isBlank], by simp, by simp [keywords]⟩
  · have htokens : tokenize "((a and (not b)))or c".toList =
        [.opening, .opening, .word "a".toList, .word "and".toList, .opening, .word "not".toList,
          .word "b".toList, .closing, .closing, .closing, .word "or".toList, .word "c".toList] := by
      simp [tokenize, isWordChar, isBlank]
    have ha : Derives [.word "a".toList] (.label "a".toList) := .label (by simp [keywords])
    have hb : Derives [.word "not".toList, .word "b".toList] (.lacks "b".toList) :=
      .lacks (by simp [keywords])
    have hread : parse "((a and (not b)))or c".toList =
        .ok (.joinLabel
          (.joinGroup (.label "a".toList) .and (.lacks "b".toList)) .or "c".toList) := by
      rw [parse, htokens, ofTokens_eq_ok]
      exact .joinLabel .or (.group (.group (.joinGroup .and ha hb))) (by simp [keywords])
    exact ⟨_, hread, parse_display.2 _ _ hread⟩

end PlainSpec.Expression
