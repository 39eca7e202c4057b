import PlainSpec.Proofs.Expression.Grammar
import PlainSpec.Proofs.Text.Neat

/-!
# The texts that are label expressions

The grammar is stated as it is documented: a first term, and then joints with their operands, where
the value is built from the left.  It has a category for each of its rules and knows nothing of the
reader.  The words of a text are those between blanks, once every parenthesis stands between blanks
of its own.

Chains are left recursive in `Derives` and a list of steps here.  The two meet because a step can be
put at the end of a list of steps, and because the steps of a chain can be taken one after the
other.

## Main definitions

* `Expression.setApart`, `Expression.Token.ofWord`: the words and parentheses of a text.
* `Expression.IsExpression`, `Expression.IsFirst`, `Expression.IsSteps`, `Expression.IsOperand`: the
  grammar of label expressions, with the values of its phrases.

## Main results

* `Expression.tokenize_eq_words`: what a text is cut into.
* `Expression.isExpression_iff_derives`: chains by steps are chains by their last joint.
* `Expression.parse_eq_ok_iff_isExpression`: exactly the texts of the grammar are read, with their
  value, and there is only one.
-/

namespace PlainSpec

namespace Expression

/-- A parenthesis with blanks around it, and any other character as it is. -/
def padded (c : Char) : Text := if c = '(' ∨ c = ')' then [' ', c, ' '] else [c]

/-- The text with blanks around its parentheses. -/
def setApart (text : Text) : Text := text.flatMap padded

/-- The token that a word stands for. -/
def Token.ofWord (word : Text) : Token :=
  if word = ['('] then .opening else if word = [')'] then .closing else .word word

/-- A parenthesis is a word of its own. -/
theorem words_setApart_parenthesis {c : Char} (hc : c = '(' ∨ c = ')') (rest : Text) :
    (setApart (c :: rest)).words = [c] :: (setApart rest).words := by
  have hblank : isBlank c = false := by rcases hc with rfl | rfl <;> rfl
  have hpadded : setApart (c :: rest) = ' ' :: ([c] ++ ' ' :: setApart rest) := by
    simp [setApart, padded, hc]
  have hspace : isBlank ' ' = true := rfl
  rw [hpadded, Text.words_cons_blank hspace,
    Text.words_append (by simp) (by simpa using hblank) (by simp [hspace]),
    Text.words_cons_blank hspace]

/-- A run of characters of words is not changed. -/
theorem setApart_append {w : Text} (hw : ∀ c ∈ w, isWordChar c = true) (t : Text) :
    setApart (w ++ t) = w ++ setApart t := by
  induction w with
  | nil => rfl
  | cons c w ih =>
    obtain ⟨hc, hw⟩ := List.forall_mem_cons.1 hw
    simp only [isWordChar, Bool.and_eq_true, bne_iff_ne] at hc
    have hpadded : padded c = [c] := if_neg (not_or.2 ⟨hc.1.2, hc.2⟩)
    rw [List.cons_append, setApart, List.flatMap_cons, hpadded, ← setApart, ih hw]
    rfl

/-- Where no word goes on, a text with its parentheses set apart starts with a blank. -/
theorem head?_setApart {t : Text} (ht : ∀ c, t.head? = some c → isWordChar c = false) :
    ∀ c, (setApart t).head? = some c → isBlank c = true := by
  intro d hd
  cases t with
  | nil => cases hd
  | cons c t =>
    have hc := ht c rfl
    by_cases hparen : c = '(' ∨ c = ')'
    · simp only [setApart, List.flatMap_cons, padded, if_pos hparen, List.cons_append,
        List.head?_cons, Option.some.injEq] at hd
      rw [← hd]
      rfl
    · simp only [setApart, List.flatMap_cons, padded, if_neg hparen, List.cons_append,
        List.head?_cons, Option.some.injEq] at hd
      simp only [isWordChar, Bool.and_eq_false_iff, Bool.not_eq_false', bne_eq_false_iff_eq] at hc
      subst hd
      rcases hc with (hblank | hopening) | hclosing
      · exact hblank
      · exact absurd (.inl hopening) hparen
      · exact absurd (.inr hclosing) hparen

/-- **A text is cut into its words**, among which every parenthesis is one. -/
theorem tokenize_eq_words (text : Text) :
    tokenize text = (setApart text).words.map Token.ofWord := by
  fun_induction tokenize text with
  | case1 => rfl
  | case2 rest ih =>
    rw [words_setApart_parenthesis (.inl rfl), List.map_cons, ih]
    rfl
  | case3 rest hopening ih =>
    rw [words_setApart_parenthesis (.inr rfl), List.map_cons, ih]
    rfl
  | case4 c rest hopening hclosing hblank ih =>
    have hpadded : setApart (c :: rest) = c :: setApart rest := by
      simp [setApart, padded, hopening, hclosing]
    rw [hpadded, Text.words_cons_blank hblank, ih]
  | case5 c rest hopening hclosing hblank ih =>
    have hword : ∀ d ∈ c :: rest.takeWhile isWordChar, isWordChar d = true := by
      refine List.forall_mem_cons.2
        ⟨by simp [isWordChar, hopening, hclosing, hblank], fun d hd => ?_⟩
      exact List.all_eq_true.1 List.all_takeWhile d hd
    have hnoBlank : ∀ d ∈ c :: rest.takeWhile isWordChar, isBlank d = false := by
      intro d hd
      have := hword d hd
      simp only [isWordChar, Bool.and_eq_true, Bool.not_eq_true'] at this
      exact this.1.1
    have hstop : ∀ d, (rest.dropWhile isWordChar).head? = some d → isWordChar d = false := by
      intro d hd
      have := List.head?_dropWhile_not isWordChar rest
      simpa [hd] using this
    have hcut : c :: rest = (c :: rest.takeWhile isWordChar) ++ rest.dropWhile isWordChar := by
      rw [List.cons_append, List.takeWhile_append_dropWhile]
    have hofWord : Token.ofWord (c :: rest.takeWhile isWordChar) =
        .word (c :: rest.takeWhile isWordChar) := by
      simp [Token.ofWord, hopening, hclosing]
    rw [ih, hcut, setApart_append hword,
      Text.words_append (by simp) hnoBlank (head?_setApart hstop), List.map_cons, hofWord]

/-! ## The grammar -/

/-- The chain that goes on with one operand after the other. -/
def joinAll (first : Expression) (steps : List (Joint × Operand)) : Expression :=
  steps.foldl (fun left step => left.join step.1 step.2) first

mutual

/-- The tokens are an expression: a first term and the steps behind it, joined from the left. -/
inductive IsExpression : List Token → Expression → Prop where
  | chain {ts us : List Token} {e : Expression} {steps : List (Joint × Operand)}
      (hfirst : IsFirst ts e) (hsteps : IsSteps us steps) :
        IsExpression (ts ++ us) (e.joinAll steps)

/-- The tokens are a first term: a label, a negated label, or an expression in parentheses. -/
inductive IsFirst : List Token → Expression → Prop where
  | label {name : Text} (h : name ∉ keywords) : IsFirst [.word name] (.label name)
  | lacks {name : Text} (h : name ∉ keywords) :
      IsFirst [.word "not".toList, .word name] (.lacks name)
  | group {ts : List Token} {e : Expression} (h : IsExpression ts e) :
      IsFirst (.opening :: ts ++ [.closing]) e

/-- The tokens are joints, each with its operand. -/
inductive IsSteps : List Token → List (Joint × Operand) → Prop where
  | nil : IsSteps [] []
  | cons (joint : Joint) {ts us : List Token} {operand : Operand} {steps : List (Joint × Operand)}
      (hoperand : IsOperand ts operand) (hsteps : IsSteps us steps) :
      IsSteps (joint.tokens ++ ts ++ us) ((joint, operand) :: steps)

/-- The tokens are an operand: a label, or an expression in parentheses. -/
inductive IsOperand : List Token → Operand → Prop where
  | label {name : Text} (h : name ∉ keywords) : IsOperand [.word name] (.label name)
  | group {ts : List Token} {e : Expression} (h : IsExpression ts e) :
      IsOperand (.opening :: ts ++ [.closing]) (.group e)

end

/-! ### Chains by steps are chains by their last joint -/

mutual

/-- A chain is built from the left, one step after the other. -/
theorem IsExpression.derives {ts : List Token} {e : Expression} (h : IsExpression ts e) :
    Derives ts e := by
  match h with
  | .chain hfirst hsteps => exact hsteps.derives hfirst.derives

theorem IsFirst.derives {ts : List Token} {e : Expression} (h : IsFirst ts e) : Derives ts e := by
  match h with
  | .label hname => exact .label hname
  | .lacks hname => exact .lacks hname
  | .group he => exact .group he.derives

theorem IsSteps.derives {ts us : List Token} {steps : List (Joint × Operand)} {e : Expression}
    (h : IsSteps us steps) (he : Derives ts e) : Derives (ts ++ us) (e.joinAll steps) := by
  match h with
  | .nil => rwa [List.append_nil]
  | .cons joint hoperand hsteps =>
    rw [← List.append_assoc, ← List.append_assoc]
    exact hsteps.derives (hoperand.derives joint he)

theorem IsOperand.derives {ts us : List Token} {operand : Operand} {e : Expression} (joint : Joint)
    (h : IsOperand us operand) (he : Derives ts e) :
    Derives (ts ++ joint.tokens ++ us) (e.join joint operand) := by
  match h with
  | .label hname => exact .joinLabel joint he hname
  | .group hright =>
    have := Derives.joinGroup joint he hright.derives
    rwa [List.append_assoc _ (_ :: _)] at this

end

/-- A step can be put at the end. -/
theorem IsSteps.concat {us vs : List Token} {steps : List (Joint × Operand)} {operand : Operand}
    (joint : Joint) (h : IsSteps us steps) (hoperand : IsOperand vs operand) :
    IsSteps (us ++ joint.tokens ++ vs) (steps ++ [(joint, operand)]) := by
  match h with
  | .nil =>
    have := IsSteps.cons joint hoperand .nil
    rwa [List.append_nil] at this
  | .cons first hfirst hsteps =>
    have := IsSteps.cons first hfirst (hsteps.concat joint hoperand)
    simpa only [List.append_assoc, List.cons_append] using this

/-- A chain goes on with one more step. -/
theorem IsExpression.join {ts us : List Token} {left : Expression} {operand : Operand}
    (joint : Joint) (h : IsExpression ts left) (hoperand : IsOperand us operand) :
    IsExpression (ts ++ joint.tokens ++ us) (left.join joint operand) := by
  match h with
  | @IsExpression.chain _ _ e steps hfirst hsteps =>
    have hvalue : e.joinAll (steps ++ [(joint, operand)]) =
        (e.joinAll steps).join joint operand := by
      simp [joinAll]
    have := IsExpression.chain hfirst (hsteps.concat joint hoperand)
    rw [hvalue] at this
    simpa only [List.append_assoc] using this

/-- A first term is an expression. -/
theorem IsFirst.isExpression {ts : List Token} {e : Expression} (h : IsFirst ts e) :
    IsExpression ts e := by
  have := IsExpression.chain h .nil
  rwa [List.append_nil] at this

/-- **Chains by steps are chains by their last joint.** -/
theorem isExpression_iff_derives {ts : List Token} {e : Expression} :
    IsExpression ts e ↔ Derives ts e := by
  constructor
  · exact IsExpression.derives
  · intro h
    induction h with
    | label hname => exact (IsFirst.label hname).isExpression
    | lacks hname => exact (IsFirst.lacks hname).isExpression
    | group _ ih => exact (IsFirst.group ih).isExpression
    | joinLabel joint _ hname ih => exact ih.join joint (.label hname)
    | joinGroup joint _ _ ihleft ihright =>
      rw [List.append_assoc _ (_ :: _)]
      exact ihleft.join joint (.group ihright)

/-! ## What is read -/

/-- **Exactly the texts of the grammar are read as label expressions**, and with the value that the
grammar gives them.  No list of words and parentheses has two values. -/
theorem parse_eq_ok_iff_isExpression :
    (∀ (text : Text) (e : Expression),
      parse text = .ok e ↔ IsExpression ((setApart text).words.map Token.ofWord) e) ∧
    ∀ (ts : List Token) (e₁ e₂ : Expression), IsExpression ts e₁ →
      IsExpression ts e₂ → e₁ = e₂ := by
  constructor
  · intro text e
    rw [isExpression_iff_derives, ← tokenize_eq_words, ← ofTokens_eq_ok, parse]
  · intro ts e₁ e₂ h₁ h₂
    rw [isExpression_iff_derives, ← ofTokens_eq_ok] at h₁ h₂
    rw [h₁] at h₂
    exact Except.ok.inj h₂

/-- A chain that starts with a group and goes on with a negated one, with parentheses that touch
words. -/
theorem parse_eq_ok_iff_isExpression_nested :
    parse "(a)and not( not c or d)".toList =
        .ok ((label "a".toList).join .andNot
          (.group ((lacks "c".toList).join .or (.label "d".toList)))) ∧
      ∀ e, IsExpression ((setApart "(a)and not( not c or d)".toList).words.map Token.ofWord) e →
        e = (label "a".toList).join .andNot
          (.group ((lacks "c".toList).join .or (.label "d".toList))) := by
  have htokens : (setApart "(a)and not( not c or d)".toList).words.map Token.ofWord =
      [.opening, .word "a".toList, .closing, .word "and".toList, .word "not".toList, .opening,
        .word "not".toList, .word "c".toList, .word "or".toList, .word "d".toList, .closing] := by
    decide
  have ha : IsFirst [.opening, .word "a".toList, .closing] (.label "a".toList) :=
    .group (IsFirst.label (by decide)).isExpression
  have hcd :
    IsExpression [.word "not".toList, .word "c".toList, .word "or".toList, .word "d".toList]
      ((lacks "c".toList).join .or (.label "d".toList)) :=
    (IsFirst.lacks (by decide)).isExpression.join .or (.label (by decide))
  have hchain : IsExpression ((setApart "(a)and not( not c or d)".toList).words.map Token.ofWord)
      ((label "a".toList).join .andNot
        (.group ((lacks "c".toList).join .or (.label "d".toList)))) := by
    rw [htokens]
    exact ha.isExpression.join .andNot (.group hcd)
  exact ⟨(parse_eq_ok_iff_isExpression.1 _ _).2 hchain,
    fun e he => parse_eq_ok_iff_isExpression.2 _ _ _ he hchain⟩

end Expression

end PlainSpec
