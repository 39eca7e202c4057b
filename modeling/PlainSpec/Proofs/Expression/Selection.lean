import PlainSpec.Expression.Basic

/-!
# What is selected, and the plain reading of an expression

The plain reading of an expression is a boolean formula that is worked out from left to right.  The
evaluator is stricter: it folds a chain through five outcomes, and a chain that met a label it
excludes is not saved by a label that another alternative allows.  So the two differ, but only in
one direction.

A step of the evaluator never makes more of a chain than the plain reading makes of what was
selected so far.  The operations of a plain reading grow with their left side, and those without a
negation also with their right side, so the steps add up as long as no group is negated.

The two agree where a chain keeps to one polarity.  Such a chain has one way to fail, and its
outcome is told by the plain reading alone; combinations of chains look at nothing else.

## Main definitions

* `Joint.combine`, `Expression.holds`: the plain reading.
* `Expression.negatesGroup`: whether an expression in parentheses is negated somewhere.
* `Polarity`, `Expression.IsChain`: chains of labels, and chains of negated labels.
* `Expression.Uniform`: all combinations of chains of one polarity each.

## Main results

* `Outcome.combine_of_isSuccess_joinLabel`: a step selects no more than the plain reading.
* `Expression.holds_of_selects`: what is selected holds in the plain reading.
* `Expression.IsChain.evaluate_eq`: the outcome of a chain of one polarity.
* `Expression.selects_eq_holds`: the evaluator agrees with the plain reading on uniform expressions.
-/

namespace PlainSpec

/-! ## The plain reading -/

/-- The boolean operation of a joint. -/
def Joint.combine : Joint → Bool → Bool → Bool
  | or, left, right => left || right
  | and, left, right => left && right
  | orNot, left, right => left || !right
  | andNot, left, right => left && !right

namespace Joint

/-- Whether the right side counts as it stands. -/
def isPlain (joint : Joint) : Bool := joint == or || joint == and

/-- The operations grow with their left side. -/
theorem combine_mono_left {joint : Joint} {left left' right : Bool} (h : left = true → left' = true)
    (hc : joint.combine left right = true) : joint.combine left' right = true := by
  cases left with
  | true => rwa [h rfl]
  | false => cases joint <;> cases left' <;> simp_all [combine]

/-- The operations without a negation grow with their right side. -/
theorem combine_mono_right {joint : Joint} (hplain : joint.isPlain = true)
    {left right right' : Bool}
    (h : right = true → right' = true) (hc : joint.combine left right = true) :
    joint.combine left right' = true := by
  cases joint with
  | or => cases right <;> simp_all [combine]
  | and => cases right <;> simp_all [combine]
  | orNot => cases hplain
  | andNot => cases hplain

end Joint

namespace Expression

/-- The plain reading of an expression: labels are members of the list, and a chain is worked out
from left to right. -/
def holds (labels : List Text) : Expression → Bool
  | label name => decide (name ∈ labels)
  | lacks name => !decide (name ∈ labels)
  | joinLabel left joint name => joint.combine (left.holds labels) (decide (name ∈ labels))
  | joinGroup left joint right => joint.combine (left.holds labels) (right.holds labels)

/-- Whether a group is negated anywhere in the expression. -/
def negatesGroup : Expression → Bool
  | label _ => false
  | lacks _ => false
  | joinLabel left _ _ => left.negatesGroup
  | joinGroup left joint right => !joint.isPlain || left.negatesGroup || right.negatesGroup

/-! ## What is selected holds -/

namespace Outcome

@[simp] theorem isSuccess_ofBool (b : Bool) : (ofBool b).isSuccess = b := by cases b <;> rfl

/-- **A label selects no more than its operation** does on what was selected so far. -/
theorem combine_of_isSuccess_joinLabel {joint : Joint} {o : Outcome} {present : Bool}
    (h : (joinLabel joint o present).isSuccess = true) :
    joint.combine o.isSuccess present = true := by
  cases joint <;> cases o <;> cases present <;> first | rfl | cases h

/-- **A group selects exactly what its operation does** on what the two sides select. -/
@[simp] theorem isSuccess_joinGroup (joint : Joint) (left right : Outcome) :
    (joinGroup joint left right).isSuccess = joint.combine left.isSuccess right.isSuccess := by
  cases joint <;> exact isSuccess_ofBool _

end Outcome

/-- A group selects what its operation makes of the two selections. -/
theorem selects_joinGroup (left : Expression) (joint : Joint) (right : Expression)
    (labels : Labels) :
    (left.joinGroup joint right).selects labels =
      joint.combine (left.selects labels) (right.selects labels) :=
  Outcome.isSuccess_joinGroup joint _ _

/-- **What is selected holds in the plain reading**, for every expression that negates no group. -/
theorem holds_of_selects {e : Expression} (hgroups : e.negatesGroup = false) {labels : Labels}
    (h : e.selects labels = true) : e.holds (labels.getD []) = true := by
  induction e with
  | label name =>
    by_cases hname : name ∈ labels.getD []
    · simp [holds, hname]
    · rw [selects, evaluate, if_neg hname] at h
      cases h
  | lacks name =>
    by_cases hname : name ∈ labels.getD []
    · rw [selects, evaluate, if_pos hname] at h
      cases h
    · simp [holds, hname]
  | joinLabel left joint name ih =>
    have hstep := Outcome.combine_of_isSuccess_joinLabel h
    exact Joint.combine_mono_left (ih hgroups) hstep
  | joinGroup left joint right ihl ihr =>
    simp only [negatesGroup, Bool.or_eq_false_iff, Bool.not_eq_false'] at hgroups
    obtain ⟨⟨hplain, hl⟩, hr⟩ := hgroups
    rw [selects_joinGroup] at h
    exact Joint.combine_mono_left (ihl hl) (Joint.combine_mono_right hplain (ihr hr) h)

/-- A chain in which a label is excluded, allowed again and joined with a group. -/
theorem holds_of_selects_group :
    ∃ e : Expression,
      e = ((lacks "a".toList).joinLabel .and "b".toList).joinGroup .or
        ((label "c".toList).joinLabel .andNot "d".toList) ∧
      e.negatesGroup = false ∧ e.selects (some ["a".toList, "c".toList]) = true ∧
      e.holds ["a".toList, "c".toList] = true := by
  refine ⟨_, rfl, rfl, ?_⟩
  have hselects : (((lacks "a".toList).joinLabel .and "b".toList).joinGroup .or
      ((label "c".toList).joinLabel .andNot "d".toList)).selects
        (some ["a".toList, "c".toList]) = true := by
    decide
  exact ⟨hselects, holds_of_selects rfl hselects⟩

/-- The converse fails: `not a or b` holds where both are present, but `a` stays excluded. -/
example :
    ((lacks "a".toList).joinLabel .or "b".toList).holds ["a".toList, "b".toList] = true ∧
      ((lacks "a".toList).joinLabel .or "b".toList).selects
        (some ["a".toList, "b".toList]) = false := by
  decide

/-- Below a negation the difference turns around, so a negated group can select too much. -/
example :
    ((label "c".toList).joinGroup .andNot ((lacks "a".toList).joinLabel .or "b".toList)).selects
        (some ["a".toList, "b".toList, "c".toList]) = true ∧
      ((label "c".toList).joinGroup .andNot ((lacks "a".toList).joinLabel .or "b".toList)).holds
        ["a".toList, "b".toList, "c".toList] = false := by
  decide

end Expression

/-! ## Chains of one polarity -/

/-- Whether the labels of a chain are required or excluded. -/
inductive Polarity where
  /-- The labels are to be present. -/
  | present
  /-- The labels are to be absent. -/
  | absent
deriving DecidableEq

namespace Polarity

/-- The chain of one label. -/
def start : Polarity → Text → Expression
  | present => .label
  | absent => .lacks

/-- How a chain goes on without a change of polarity. -/
def joints : Polarity → List Joint
  | present => [.and, .or]
  | absent => [.andNot, .orNot]

/-- The one way to fail of a chain, and its success. -/
def outcome : Polarity → Bool → Expression.Outcome
  | _, true => .success
  | present, false => .missing
  | absent, false => .excluded

@[simp] theorem isSuccess_outcome (polarity : Polarity) (holds : Bool) :
    (polarity.outcome holds).isSuccess = holds := by
  cases polarity <;> cases holds <;> rfl

/-- **A label of the same polarity leads to the outcome of its operation.** -/
theorem joinLabel_outcome {polarity : Polarity} {joint : Joint} (hjoint : joint ∈ polarity.joints)
    (holds present : Bool) :
    Expression.Outcome.joinLabel joint (polarity.outcome holds) present =
      polarity.outcome (joint.combine holds present) := by
  cases polarity <;> simp only [joints, List.mem_cons, List.not_mem_nil, or_false] at hjoint
  all_goals rcases hjoint with rfl | rfl <;> cases holds <;> cases present <;> rfl

end Polarity

namespace Expression

/-- A chain of labels that are all required, or all excluded. -/
inductive IsChain (polarity : Polarity) : Expression → Prop where
  /-- The chain of one label. -/
  | start (name : Text) : IsChain polarity (polarity.start name)
  /-- A chain that goes on with one more label of its polarity. -/
  | join {left : Expression} {joint : Joint} (hleft : IsChain polarity left)
      (hjoint : joint ∈ polarity.joints) (name : Text) :
        IsChain polarity (left.joinLabel joint name)

/-- **The outcome of a chain of one polarity is told by the plain reading.** -/
theorem IsChain.evaluate_eq {polarity : Polarity} {e : Expression} (h : IsChain polarity e)
    (labels : List Text) : e.evaluate labels = polarity.outcome (e.holds labels) := by
  induction h with
  | start name =>
    cases polarity <;> by_cases hname : name ∈ labels <;>
      simp [Polarity.start, Polarity.outcome, evaluate, holds, hname]
  | join _ hjoint name ih =>
    rw [evaluate, ih, Polarity.joinLabel_outcome hjoint, holds]

/-- All combinations of chains that each keep to one polarity. -/
inductive Uniform : Expression → Prop where
  /-- A chain of one polarity. -/
  | chain {polarity : Polarity} {e : Expression} (h : IsChain polarity e) : Uniform e
  /-- Two such expressions, joined in any way. -/
  | group {left right : Expression} (hleft : Uniform left) (joint : Joint)
      (hright : Uniform right) :
      Uniform (left.joinGroup joint right)

/-- **A uniform expression selects exactly what its plain reading says**, negated groups
included. -/
theorem selects_eq_holds {e : Expression} (h : Uniform e) (labels : Labels) :
    e.selects labels = e.holds (labels.getD []) := by
  induction h with
  | chain h => rw [selects, h.evaluate_eq, Polarity.isSuccess_outcome]
  | group _ joint _ ihl ihr => rw [selects_joinGroup, ihl, ihr, holds]

/-- A chain of excluded labels in a negated group, behind a chain of required ones. -/
theorem selects_eq_holds_negated :
    ∃ e : Expression,
      e = ((label "a".toList).joinLabel .or "b".toList).joinGroup .andNot
        ((lacks "c".toList).joinLabel .orNot "d".toList) ∧
      Uniform e ∧ e.holds ["b".toList, "c".toList, "d".toList] = true ∧
      e.selects (some ["b".toList, "c".toList, "d".toList]) =
        e.holds ["b".toList, "c".toList, "d".toList] := by
  have hleft : IsChain .present ((label "a".toList).joinLabel .or "b".toList) :=
    .join (.start "a".toList) (by decide) _
  have hright : IsChain .absent ((lacks "c".toList).joinLabel .orNot "d".toList) :=
    .join (.start "c".toList) (by decide) _
  have huniform := Uniform.group (.chain hleft) .andNot (.chain hright)
  exact ⟨_, rfl, huniform, by decide, selects_eq_holds huniform (some _)⟩

end Expression

end PlainSpec
