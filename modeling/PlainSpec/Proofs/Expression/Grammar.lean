import PlainSpec.Expression.Parse

/-!
# The grammar of label expressions

What an expression can be written as is told without a reader: a chain starts with a label, a
negated label or a chain in parentheses, and goes on at its right end.  The grammar is left
recursive, as chains are, so a chain that was read so far is a chain, whatever follows it.

Reading and the grammar meet at the rest of the tokens.  A chain in front of a rest is read up to
the rest, and reading goes on from there; and what was read is a chain in front of what is left.

## Main definitions

* `Joint.tokens`: the words of a joint.
* `Expression.Derives tokens e`: the tokens are a way to write the expression.

## Main results

* `Expression.readExpression_append`: what can be written is read, in front of any rest.
* `Expression.derives_of_readExpression`: what is read can be written.
* `Expression.ofTokens_eq_ok`: the tokens that are read are those that the grammar derives.
-/

namespace PlainSpec

/-- The words of a joint. -/
def Joint.tokens : Joint → List Expression.Token
  | or => [.word "or".toList]
  | and => [.word "and".toList]
  | orNot => [.word "or".toList, .word "not".toList]
  | andNot => [.word "and".toList, .word "not".toList]

namespace Expression

/-- The tokens are a way to write the expression. -/
inductive Derives : List Token → Expression → Prop where
  /-- A label. -/
  | label {name : Text} (h : name ∉ keywords) : Derives [.word name] (.label name)
  /-- A negated label. -/
  | lacks {name : Text} (h : name ∉ keywords) :
      Derives [.word "not".toList, .word name] (.lacks name)
  /-- A chain in parentheses, at the start of a chain. -/
  | group {ts : List Token} {e : Expression} (h : Derives ts e) :
      Derives (.opening :: ts ++ [.closing]) e
  /-- A chain that goes on with a label. -/
  | joinLabel {ts : List Token} {left : Expression} (joint : Joint) {name : Text}
      (hleft : Derives ts left) (h : name ∉ keywords) :
      Derives (ts ++ joint.tokens ++ [.word name]) (.joinLabel left joint name)
  /-- A chain that goes on with a chain in parentheses. -/
  | joinGroup {ts us : List Token} {left right : Expression} (joint : Joint)
      (hleft : Derives ts left) (hright : Derives us right) :
      Derives (ts ++ joint.tokens ++ .opening :: us ++ [.closing]) (.joinGroup left joint right)

/-! ## Words -/

theorem readLabel_word {name : Text} (h : name ∉ keywords) (rest : List Token) :
    readLabel (.word name :: rest) = .ok (name, rest) := by
  simp [readLabel, h]

theorem readLabel_eq_ok {ts rest : List Token} {name : Text} :
    readLabel ts = .ok (name, rest) ↔ name ∉ keywords ∧ ts = .word name :: rest := by
  constructor
  · intro h
    unfold readLabel at h
    split at h
    · cases h
    · rename_i text rest'
      split at h
      · cases h
      · rename_i hname
        cases h
        exact ⟨hname, rfl⟩
    · cases h
  · rintro ⟨hname, rfl⟩
    exact readLabel_word hname rest

theorem ne_not_of_not_mem {name : Text} (h : name ∉ keywords) : name ≠ "not".toList := by
  rintro rfl
  exact h (by decide)

theorem conjunction?_eq_some {text : Text} {conjunction : Bool} :
    conjunction? text = some conjunction ↔
      text = if conjunction then "and".toList else "or".toList := by
  constructor
  · intro h
    unfold conjunction? at h
    split at h
    · cases h
      assumption
    · split at h
      · cases h
        assumption
      · cases h
  · rintro rfl
    cases conjunction <;> rfl

/-- The `not` of a negated joint. -/
def negation (negated : Bool) : List Token := if negated then [.word "not".toList] else []

/-- A joint is a conjunction or a disjunction, and perhaps a `not`. -/
theorem tokens_jointOf (conjunction negated : Bool) :
    (jointOf conjunction negated).tokens =
      .word (if conjunction then "and".toList else "or".toList) :: negation negated := by
  cases conjunction <;> cases negated <;> rfl

theorem exists_jointOf (joint : Joint) :
    ∃ conjunction negated, jointOf conjunction negated = joint := by
  cases joint with
  | or => exact ⟨false, false, rfl⟩
  | and => exact ⟨true, false, rfl⟩
  | orNot => exact ⟨false, true, rfl⟩
  | andNot => exact ⟨true, true, rfl⟩

theorem skipNot_append (ts : List Token) : negation (skipNot ts).1 ++ (skipNot ts).2 = ts := by
  unfold skipNot
  split
  · split
    · rename_i hnot
      simp [negation, hnot]
    · simp [negation]
  · simp [negation]

/-- A `not` is passed if there is one, and nothing else. -/
theorem skipNot_negation (negated : Bool) {ts : List Token}
    (h : ts.head? ≠ some (.word "not".toList)) :
    skipNot (negation negated ++ ts) = (negated, ts) := by
  cases negated with
  | true => simp [negation, skipNot]
  | false =>
    cases ts with
    | nil => rfl
    | cons t ts =>
      cases t with
      | word text =>
        have hne : text ≠ "not".toList := by simpa using h
        simp only [negation, Bool.false_eq_true, if_false, List.nil_append, skipNot, hne]
      | opening => rfl
      | closing => rfl

/-! ## What can be written is read -/

/-- A chain goes on with a label. -/
theorem readChain_label (left : Expression) (joint : Joint) {name : Text} (h : name ∉ keywords)
    (rest : List Token) :
    readChain left (joint.tokens ++ .word name :: rest) =
      readChain (.joinLabel left joint name) rest := by
  obtain ⟨conjunction, negated, rfl⟩ := exists_jointOf joint
  have hskip : skipNot (negation negated ++ .word name :: rest) = (negated, .word name :: rest) :=
    skipNot_negation negated (by simpa using ne_not_of_not_mem h)
  rw [tokens_jointOf, List.cons_append, readChain, conjunction?_eq_some.2 rfl]
  dsimp only
  split
  · rename_i hahead
    rw [hskip] at hahead
    cases hahead
  · split
    · rename_i hread
      rw [hskip, readLabel_word h] at hread
      cases hread
    · rename_i hread
      rw [hskip, readLabel_word h] at hread
      cases hread
      rw [hskip]

/-- A chain goes on with a chain in parentheses, if that is read up to its closing parenthesis. -/
theorem readChain_group (left : Expression) (joint : Joint) {inside rest : List Token}
    {right : Expression} (h : readGroup inside = .ok (right, rest))
    (hle : rest.length ≤ inside.length) :
    readChain left (joint.tokens ++ .opening :: inside) =
      readChain (.joinGroup left joint right) rest := by
  obtain ⟨conjunction, negated, rfl⟩ := exists_jointOf joint
  have hskip : skipNot (negation negated ++ .opening :: inside) = (negated, .opening :: inside) :=
    skipNot_negation negated (by simp)
  rw [tokens_jointOf, List.cons_append, readChain, conjunction?_eq_some.2 rfl]
  dsimp only
  split
  · rename_i hahead
    rw [hskip] at hahead
    cases hahead
    simp only [h, hle, if_true, hskip]
  · rename_i hno
    exact absurd (congrArg Prod.snd hskip) (hno inside)

/-- A chain in front of a closing parenthesis is read as a group. -/
theorem readGroup_append {ts : List Token} {e : Expression}
    (h : ∀ rest, readExpression (ts ++ rest) = readChain e rest) (rest : List Token) :
    readGroup (ts ++ .closing :: rest) = .ok (e, rest) := by
  rw [readGroup, h, readChain]

/-- **What can be written is read**, and reading goes on behind it. -/
theorem readExpression_append {ts : List Token} {e : Expression} (h : Derives ts e)
    (rest : List Token) : readExpression (ts ++ rest) = readChain e rest := by
  -- by the way it is written; a chain is read up to its last joint, and then goes on
  induction h generalizing rest with
  | @label name hname =>
    have hread := readLabel_word hname rest
    simp only [List.cons_append, List.nil_append, readExpression.eq_def (.word name :: rest), hread,
      if_neg (ne_not_of_not_mem hname)]
  | @lacks name hname =>
    have hread := readLabel_word hname rest
    simp only [List.cons_append, List.nil_append,
      readExpression.eq_def (.word "not".toList :: .word name :: rest), if_true]
    split
    · rename_i hfound
      rw [hread] at hfound
      cases hfound
    · rename_i hfound
      rw [hread] at hfound
      cases hfound
      rfl
  | @group ts e _ ih =>
    have hgroup := readGroup_append ih rest
    have hle : rest.length ≤ (ts ++ .closing :: rest).length := by
      simp only [List.length_append, List.length_cons]
      omega
    have happend : .opening :: ts ++ [.closing] ++ rest =
        .opening :: (ts ++ .closing :: rest) := by simp
    rw [happend, readExpression, hgroup]
    simp only [hle, if_true]
  | @joinLabel ts left joint name _ hname ih =>
    have happend : ts ++ joint.tokens ++ [.word name] ++ rest =
        ts ++ (joint.tokens ++ .word name :: rest) := by simp
    rw [happend, ih, readChain_label left joint hname]
  | @joinGroup ts us left right joint _ _ ihleft ihright =>
    have hle : rest.length ≤ (us ++ .closing :: rest).length := by
      simp only [List.length_append, List.length_cons]
      omega
    have happend : ts ++ joint.tokens ++ .opening :: us ++ [.closing] ++ rest =
        ts ++ (joint.tokens ++ .opening :: (us ++ .closing :: rest)) := by simp
    rw [happend, ihleft, readChain_group left joint (readGroup_append ihright rest) hle]

/-! ## What is read can be written -/

theorem readExpression_of_readGroup {ts rest : List Token} {e : Expression}
    (h : readGroup ts = .ok (e, rest)) : readExpression ts = .ok (e, .closing :: rest) := by
  unfold readGroup at h
  split at h
  · cases h
  · rename_i hread
    cases h
    exact hread
  · cases h

/-- **How a chain ends or goes on**: nothing is left or a parenthesis is closed, a label follows, or
a chain in parentheses does. -/
theorem readChain_cases {left e : Expression} {ts rest : List Token}
    (h : readChain left ts = .ok (e, rest)) :
    (e = left ∧ rest = ts ∧ ∀ t, ts.head? = some t → t = .closing) ∨
    (∃ joint name after, name ∉ keywords ∧ ts = joint.tokens ++ .word name :: after ∧
      readChain (.joinLabel left joint name) after = .ok (e, rest)) ∨
    ∃ joint inside right after, ts = joint.tokens ++ .opening :: inside ∧
      readGroup inside = .ok (right, after) ∧
      readChain (.joinGroup left joint right) after = .ok (e, rest) := by
  unfold readChain at h
  split at h
  · cases h
    exact .inl ⟨rfl, rfl, by simp⟩
  · cases h
    exact .inl ⟨rfl, rfl, by simp⟩
  · cases h
  · rename_i text ts
    split at h
    · cases h
    · rename_i conjunction hconjunction
      have hjoint (ahead : List Token) (hahead : (skipNot ts).2 = ahead) :
          .word text :: ts = (jointOf conjunction (skipNot ts).1).tokens ++ ahead := by
        rw [tokens_jointOf, ← conjunction?_eq_some.1 hconjunction, List.cons_append, ← hahead,
          skipNot_append]
      dsimp only at h
      split at h
      · rename_i inside hahead
        split at h
        · cases h
        · rename_i right after hgroup
          split at h
          · exact .inr (.inr ⟨_, inside, right, after, hjoint _ hahead, hgroup, h⟩)
          · cases h
      · split at h
        · cases h
        · rename_i name after hlabel
          obtain ⟨hname, hahead⟩ := readLabel_eq_ok.1 hlabel
          exact .inr (.inl ⟨_, name, after, hname, hjoint _ hahead, h⟩)

/-- **How an expression starts**: with a label, a negated label, or a chain in parentheses. -/
theorem readExpression_cases {ts rest : List Token} {e : Expression}
    (h : readExpression ts = .ok (e, rest)) :
    (∃ name after, name ∉ keywords ∧ ts = .word name :: after ∧
      readChain (.label name) after = .ok (e, rest)) ∨
    (∃ name after, name ∉ keywords ∧ ts = .word "not".toList :: .word name :: after ∧
      readChain (.lacks name) after = .ok (e, rest)) ∨
    ∃ inside first after, ts = .opening :: inside ∧ readGroup inside = .ok (first, after) ∧
      readChain first after = .ok (e, rest) := by
  rw [readExpression.eq_def] at h
  split at h
  · rename_i inside
    split at h
    · cases h
    · rename_i first after hgroup
      split at h
      · exact .inr (.inr ⟨inside, first, after, rfl, hgroup, h⟩)
      · cases h
  · rename_i text ts
    split at h
    · rename_i hnot
      split at h
      · cases h
      · split at h
        · cases h
        · rename_i name after hlabel
          obtain ⟨hname, rfl⟩ := readLabel_eq_ok.1 hlabel
          exact .inr (.inl ⟨name, after, hname, by rw [hnot], h⟩)
    · split at h
      · cases h
      · rename_i name after hlabel
        obtain ⟨hname, heq⟩ := readLabel_eq_ok.1 hlabel
        cases heq
        exact .inl ⟨text, ts, hname, rfl, h⟩
  · -- nothing is left, or a parenthesis is closed that was never opened
    split at h
    · cases h
    · cases h

/-- Reading follows the grammar on all tokens up to a length. -/
structure FollowsGrammar (n : Nat) : Prop where
  /-- An expression is a chain in front of the rest. -/
  expression : ∀ {ts rest : List Token} {e : Expression}, ts.length < n →
    readExpression ts = .ok (e, rest) → ∃ us, ts = us ++ rest ∧ Derives us e
  /-- The rest of a chain goes on with what was read so far. -/
  chain : ∀ {ws ts rest : List Token} {left e : Expression}, ts.length < n → Derives ws left →
    readChain left ts = .ok (e, rest) → ∃ us, ts = us ++ rest ∧ Derives (ws ++ us) e

/-- A chain in parentheses is a chain in front of its closing parenthesis. -/
theorem FollowsGrammar.group {n : Nat} (h : FollowsGrammar n) {ts rest : List Token}
    {e : Expression} (hlength : ts.length < n) (hread : readGroup ts = .ok (e, rest)) :
    ∃ us, ts = us ++ .closing :: rest ∧ Derives us e :=
  h.expression hlength (readExpression_of_readGroup hread)

theorem FollowsGrammar.succ_expression {n : Nat} (h : FollowsGrammar n) {ts rest : List Token}
    {e : Expression} (hlength : ts.length < n + 1) (hread : readExpression ts = .ok (e, rest)) :
    ∃ us, ts = us ++ rest ∧ Derives us e := by
  rcases readExpression_cases hread with ⟨name, after, hname, rfl, hchain⟩ |
    ⟨name, after, hname, rfl, hchain⟩ | ⟨inside, first, after, rfl, hgroup, hchain⟩
  · rw [List.length_cons] at hlength
    obtain ⟨us, rfl, hus⟩ := h.chain (by omega) (.label hname) hchain
    exact ⟨.word name :: us, rfl, hus⟩
  · rw [List.length_cons, List.length_cons] at hlength
    obtain ⟨us, rfl, hus⟩ := h.chain (by omega) (.lacks hname) hchain
    exact ⟨.word "not".toList :: .word name :: us, rfl, hus⟩
  · rw [List.length_cons] at hlength
    -- the parentheses are passed, so both the inside and what is behind are shorter
    obtain ⟨ws, rfl, hws⟩ := h.group (by omega) hgroup
    rw [List.length_append, List.length_cons] at hlength
    obtain ⟨us, rfl, hus⟩ := h.chain (by omega) (.group hws) hchain
    exact ⟨.opening :: ws ++ [.closing] ++ us, by simp, hus⟩

theorem FollowsGrammar.succ_chain {n : Nat} (h : FollowsGrammar n) {ws ts rest : List Token}
    {left e : Expression} (hlength : ts.length < n + 1) (hleft : Derives ws left)
    (hread : readChain left ts = .ok (e, rest)) :
    ∃ us, ts = us ++ rest ∧ Derives (ws ++ us) e := by
  have hjoint (joint : Joint) : 0 < joint.tokens.length := by cases joint <;> decide
  rcases readChain_cases hread with ⟨rfl, rfl, -⟩ | ⟨joint, name, after, hname, rfl, hchain⟩ |
    ⟨joint, inside, right, after, rfl, hgroup, hchain⟩
  · exact ⟨[], rfl, by rwa [List.append_nil]⟩
  · rw [List.length_append, List.length_cons] at hlength
    obtain ⟨us, rfl, hus⟩ := h.chain (by omega) (.joinLabel joint hleft hname) hchain
    refine ⟨joint.tokens ++ [.word name] ++ us, by simp, ?_⟩
    simpa [List.append_assoc] using hus
  · have := hjoint joint
    rw [List.length_append, List.length_cons] at hlength
    obtain ⟨vs, rfl, hvs⟩ := h.group (by omega) hgroup
    rw [List.length_append, List.length_cons] at hlength
    obtain ⟨us, rfl, hus⟩ := h.chain (by omega) (.joinGroup joint hleft hvs) hchain
    refine ⟨joint.tokens ++ .opening :: vs ++ [.closing] ++ us, by simp, ?_⟩
    simpa [List.append_assoc] using hus

/-- A chain in parentheses is read from inside another one, so the length of the tokens carries the
induction. -/
theorem followsGrammar (n : Nat) : FollowsGrammar n := by
  induction n with
  | zero => exact ⟨fun hlength => absurd hlength (Nat.not_lt_zero _),
      fun hlength => absurd hlength (Nat.not_lt_zero _)⟩
  | succ n ih => exact ⟨ih.succ_expression, ih.succ_chain⟩

/-- **What is read can be written**, in front of what is left. -/
theorem derives_of_readExpression {ts rest : List Token} {e : Expression}
    (h : readExpression ts = .ok (e, rest)) : ∃ us, ts = us ++ rest ∧ Derives us e :=
  (followsGrammar (ts.length + 1)).expression (Nat.lt_succ_self _) h

theorem Derives.ne_nil {ts : List Token} {e : Expression} (h : Derives ts e) : ts ≠ [] := by
  cases h <;> simp

/-- **The tokens that are read are those that the grammar derives.** -/
theorem ofTokens_eq_ok {ts : List Token} {e : Expression} : ofTokens ts = .ok e ↔ Derives ts e := by
  constructor
  · intro h
    unfold ofTokens at h
    split at h
    · cases h
    · split at h
      · cases h
      · rename_i hread
        cases h
        obtain ⟨us, rfl, hus⟩ := derives_of_readExpression hread
        rwa [List.append_nil]
      · cases h
  · intro h
    have hread : readExpression ts = .ok (e, []) := by
      have := readExpression_append h []
      rwa [List.append_nil, readChain] at this
    unfold ofTokens
    split
    · exact absurd rfl h.ne_nil
    · simp only [hread]

end Expression

end PlainSpec
