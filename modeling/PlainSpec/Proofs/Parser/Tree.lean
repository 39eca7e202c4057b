import PlainSpec.Proofs.Parser.Discipline

/-!
# Parser trees

The combinators as syntax.  What holds of all parsers that can be put together from the combinators,
over any functions on lines and on values, is a statement about all trees.

## Main definitions

* `Tree α`: a parser of `α` as syntax.
* `Tree.run`: the parser that a tree stands for.

## Main results

* `Tree.disciplined_run`: every tree keeps the discipline of the cursor.
-/

namespace PlainSpec

/-- A parser as syntax. -/
inductive Tree : Type → Type 1 where
  | line {α : Type} (f : Line → Except Fault α) : Tree α
  | peek {α : Type} (f : Line → Except Fault α) : Tree α
  | finish : Tree Unit
  | absent {α : Type} (t : Tree α) : Tree Unit
  | optional {α : Type} (t : Tree α) : Tree (Option α)
  | both {α β : Type} (s : Tree α) (t : Tree β) : Tree (α × β)
  | first {α β : Type} (s : Tree α) (t : Tree β) : Tree α
  | second {α β : Type} (s : Tree α) (t : Tree β) : Tree β
  | orElse {α : Type} (s t : Tree α) : Tree α
  | map {α β : Type} (t : Tree α) (f : α → β) : Tree β
  | check {α β : Type} (t : Tree α) (f : α → Except Invalid β) : Tree β
  | many {α β : Type} (element : Tree α) (stop : Tree β) : Tree (List α)
  | several {α β : Type} (name : String) (element : Tree α) (stop : Tree β) : Tree (Several α)

namespace Tree

/-- The parser that a tree stands for. -/
def run : {α : Type} → Tree α → Parser α
  | _, line f => Parser.line f
  | _, peek f => Parser.peek f
  | _, finish => Parser.finish
  | _, absent t => Parser.absent t.run
  | _, optional t => Parser.optional t.run
  | _, both s t => Parser.both s.run t.run
  | _, first s t => Parser.first s.run t.run
  | _, second s t => Parser.second s.run t.run
  | _, orElse s t => Parser.orElse s.run t.run
  | _, map t f => Parser.map t.run f
  | _, check t f => Parser.check t.run f
  | _, many element stop => Parser.many element.run stop.run
  | _, several name element stop => Parser.several name element.run stop.run

/-- **Every tree keeps the discipline of the cursor.** -/
theorem disciplined_run {α : Type} (t : Tree α) : Parser.Disciplined t.run := by
  induction t with
  | line f => exact .line f
  | peek f => exact .peek f
  | finish => exact .finish
  | absent t _ => exact .absent t.run
  | optional t ih => exact ih.optional
  | both s t ihs iht => exact ihs.both iht
  | first s t ihs iht => exact ihs.first iht
  | second s t ihs iht => exact ihs.second iht
  | orElse s t ihs iht => exact ihs.orElse iht
  | map t f ih => exact ih.map f
  | check t f ih => exact ih.check f
  | many element stop ih _ => exact ih.many stop.run
  | several name element stop ih _ => exact ih.several name stop.run

end Tree

end PlainSpec
