import PlainSpec.Fault

/-!
# Refusals and their depth

A refusal names a line, a kind and a fault.  Of two refusals the one that got further into the
source is reported.

## Main definitions

* `ParseError`: a refusal.
* `ParseError.deepest`: the refusal to report when two alternatives were refused.
* `Invalid`: a fault found after a construct was read, with a line of its own if it has one.
-/

namespace PlainSpec

/-- The two kinds of refusal. -/
inductive ErrorKind where
  /-- No rule recognised the line. -/
  | unrecognised
  /-- A rule recognised the construct, and what it says is wrong. -/
  | invalid
deriving DecidableEq

/-- A refusal of a source. -/
structure ParseError where
  /-- The number of the line that it is reported against. -/
  line : Nat
  /-- Whether the construct was recognised. -/
  kind : ErrorKind
  /-- What is wrong. -/
  fault : Fault
deriving DecidableEq

namespace ParseError

/-- The wording of the fault. -/
def message (e : ParseError) : String := e.fault.message

/-- The refusal with its line, for output. -/
def display (e : ParseError) : String := s!"line {e.line}: " ++ e.message

/-- Whether `a` is reported rather than a later alternative's `b`: it is on a greater line, or on
the same line and only its construct was recognised. -/
def outranks (a b : ParseError) : Bool :=
  b.line < a.line || (a.line == b.line && a.kind == .invalid && b.kind == .unrecognised)

/-- The refusal to report of an earlier and a later alternative.  Ties go to the later one. -/
def deepest (earlier later : ParseError) : ParseError :=
  if earlier.outranks later then earlier else later

end ParseError

/-- A fault of a construct that was read.  Without a line of its own it is reported against the line
on which the construct starts. -/
structure Invalid where
  /-- The line of the fault, if it is not the first line of the construct. -/
  line? : Option Nat
  /-- What is wrong. -/
  fault : Fault
deriving DecidableEq

namespace Invalid

/-- A fault of the construct as a whole. -/
def whole (fault : Fault) : Invalid := ⟨none, fault⟩

/-- A fault on one line of the construct. -/
def onLine (line : Nat) (fault : Fault) : Invalid := ⟨some line, fault⟩

end Invalid

end PlainSpec
