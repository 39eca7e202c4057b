import PlainSpec.Text.Fold
import PlainSpec.Text.Word

/-!
# Patterns

A pattern describes stretches of text.  Whether a text has such a stretch is decided by following
all the places that the pattern can lead to at once.

## Main definitions

* `CharSet`: a set of characters.
* `Anchor`: a condition on a place between two characters.
* `Pattern`: a pattern.
* `Pattern.ends`: where the stretches end that start at a place.
* `Pattern.occursIn`: whether a text has a stretch that fits.

## Main results

* `Pattern.within_nil`: from no place, repetition leads nowhere.
-/

namespace PlainSpec

/-! ## Sets of characters -/

/-- A set of characters. -/
inductive CharSet where
  /-- No character. -/
  | none
  /-- A single character. -/
  | one (c : Char)
  /-- The characters from one to another. -/
  | range (low high : Char)
  /-- Decimal digits. -/
  | digits
  /-- Blanks. -/
  | blanks
  /-- The characters of words. -/
  | wordChars
  /-- The characters that are not in a set. -/
  | except (s : CharSet)
  /-- The characters of either set. -/
  | either (s t : CharSet)
  /-- The characters of both sets. -/
  | both (s t : CharSet)
  /-- The characters of a set in all their cases. -/
  | anyCase (s : CharSet)
  /-- The ASCII characters of a set in all their ASCII cases. -/
  | asciiCase (s : CharSet)

/-- Whether a character belongs to the set. -/
def CharSet.has : CharSet → Char → Bool
  | none, _ => false
  | one d, c => c == d
  | range low high, c => low ≤ c && c ≤ high
  | digits, c => isDecimalDigit c
  | blanks, c => isBlank c
  | wordChars, c => isWord c
  | except s, c => !s.has c
  | either s t, c => s.has c || t.has c
  | both s t, c => s.has c && t.has c
  | anyCase s, c => (caseForms c).any s.has
  | asciiCase s, c => [c, c.toLower, c.toUpper].any s.has

/-! ## Places -/

/-- A place in a text. -/
structure Place where
  /-- The character before it. -/
  previous : Option Char
  /-- What follows it. -/
  rest : Text
deriving DecidableEq

namespace Place

/-- The character after the place. -/
def next (p : Place) : Option Char := p.rest.head?

/-- A place and all later ones, where `previous` is the character before the first. -/
def onward (previous : Option Char) : Text → List Place
  | [] => [⟨previous, []⟩]
  | c :: rest => ⟨previous, c :: rest⟩ :: onward (some c) rest

end Place

/-- A condition on a place. -/
inductive Anchor where
  /-- The start of the text. -/
  | textStart
  /-- The end of the text. -/
  | textEnd
  /-- The start of a line. -/
  | lineStart
  /-- The end of a line. -/
  | lineEnd
  /-- The start of a line, where a carriage return may also end the line before. -/
  | anyLineStart
  /-- The end of a line, which may also be at a carriage return. -/
  | anyLineEnd
  /-- One side is in a word and the other is not. -/
  | wordEdge (word : CharSet)
  /-- Both sides are in a word, or neither is. -/
  | noWordEdge (word : CharSet)
  /-- What follows is in a word, and what precedes is not. -/
  | wordStart (word : CharSet)
  /-- What precedes is in a word, and what follows is not. -/
  | wordEnd (word : CharSet)
  /-- What precedes is not in a word. -/
  | noWordBefore (word : CharSet)
  /-- What follows is not in a word. -/
  | noWordAfter (word : CharSet)

/-- Whether a place satisfies the condition. -/
def Anchor.holds (a : Anchor) (p : Place) : Bool :=
  let before := fun (word : CharSet) => p.previous.any word.has
  let after := fun (word : CharSet) => p.next.any word.has
  match a with
  | textStart => p.previous.isNone
  | textEnd => p.next.isNone
  | lineStart => p.previous.isNone || p.previous == some '\n'
  | lineEnd => p.next.isNone || p.next == some '\n'
  | anyLineStart =>
    p.previous.isNone || p.previous == some '\n' ||
      (p.previous == some '\r' && p.next != some '\n')
  | anyLineEnd =>
    p.next.isNone || p.next == some '\r' || (p.next == some '\n' && p.previous != some '\r')
  | wordEdge word => before word != after word
  | noWordEdge word => before word == after word
  | wordStart word => !before word && after word
  | wordEnd word => before word && !after word
  | noWordBefore word => !before word
  | noWordAfter word => !after word

/-! ## Patterns -/

/-- A description of stretches of text. -/
inductive Pattern where
  /-- The empty stretch. -/
  | empty
  /-- One character of a set. -/
  | single (s : CharSet)
  /-- The empty stretch at certain places. -/
  | anchor (a : Anchor)
  /-- One stretch after another. -/
  | sequence (first second : Pattern)
  /-- Either kind of stretch. -/
  | choice (first second : Pattern)
  /-- Stretches one after another, at least and at most as often as said. -/
  | repeated (least : Nat) (most : Option Nat) (body : Pattern)

namespace Pattern

/-- The places that are reached from some places by exactly so many steps. -/
def times (step : Place → List Place) : Nat → List Place → List Place
  | 0, here => here
  | n + 1, here =>
    let there := (here.flatMap step).eraseDups
    if there = here then here else times step n there

/-- The places that are reached from some places by at most so many steps. -/
def within (step : Place → List Place) : Nat → List Place → List Place
  | _, [] => []
  | 0, here => here
  | n + 1, here => here ++ within step n ((here.flatMap step).eraseDups)

@[simp] theorem within_nil (step : Place → List Place) (n : Nat) : within step n [] = [] := by
  cases n <;> rfl

/-- The steps that pass at least one character.  Only these are of use beyond the least number of
repetitions, and there are at most as many of them as there are characters. -/
def passing (step : Place → List Place) (p : Place) : List Place :=
  (step p).filter fun q => q.rest.length < p.rest.length

/-- The places at which the stretches end that start at a place. -/
def ends : Pattern → Place → List Place
  | empty, p => [p]
  | single s, p =>
    match p.rest with
    | [] => []
    | c :: rest => if s.has c then [⟨some c, rest⟩] else []
  | anchor a, p => if a.holds p then [p] else []
  | sequence first second, p => ((first.ends p).flatMap second.ends).eraseDups
  | choice first second, p => (first.ends p ++ second.ends p).eraseDups
  | repeated least most body, p =>
    let rounds :=
      match most with
      | none => p.rest.length
      | some most => min (most - least) p.rest.length
    (within (passing body.ends) rounds (times body.ends least [p])).eraseDups

/-- Whether the text has a stretch that fits the pattern. -/
def occursIn (p : Pattern) (t : Text) : Bool :=
  (Place.onward none t).any fun place => !(p.ends place).isEmpty

end Pattern

end PlainSpec
