import PlainSpec.Text.Blank

/-!
# Cutting and comparing texts

Leading keywords, the first occurrence of a character, replacement of a marked word, and the sorted
lists of texts that stand for sets.

## Main definitions

* `Text.after?`: what follows a leading keyword.
* `Text.cutAt`: the part before a character, and the part from it on.
* `Text.replaceAll`: every occurrence of one text replaced by another, from left to right.
* `Text.sortedSet`: the distinct members of a list, in code point order.
-/

namespace PlainSpec.Text

/-- What follows `lead`, if the text starts with it. -/
def after? : (lead text : Text) → Option Text
  | [], text => some text
  | _ :: _, [] => none
  | a :: lead, c :: text => if a = c then after? lead text else none

/-- **A text starts with a keyword exactly when it is the keyword and a rest.** -/
theorem after?_eq_some_iff {lead text rest : Text} :
    after? lead text = some rest ↔ text = lead ++ rest := by
  induction lead generalizing text with
  | nil => simp [after?, eq_comm]
  | cons a lead ih =>
    cases text with
    | nil => simp [after?]
    | cons c text =>
      by_cases h : a = c
      · simp [after?, h, ih]
      · simp [after?, h, Ne.symm h]

/-- Whether the text starts with `lead`. -/
def startsWith (text lead : Text) : Bool := (after? lead text).isSome

theorem startsWith_eq_true {text lead : Text} :
    startsWith text lead = true ↔ ∃ rest, text = lead ++ rest := by
  rw [startsWith, Option.isSome_iff_exists]
  exact exists_congr fun _ => after?_eq_some_iff

/-- What stands between one leading and one trailing bracket.  The two must be different characters
of the text. -/
def inside? (opening closing : Char) : Text → Option Text
  | [] => none
  | c :: rest =>
    if c = opening ∧ rest.getLast? = some closing then some rest.dropLast else none

/-- The part before the first character that satisfies `stop`, and the part from it on. -/
def cutAt (stop : Char → Bool) (text : Text) : Text × Text :=
  (text.takeWhile (!stop ·), text.dropWhile (!stop ·))

@[simp] theorem cutAt_append (stop : Char → Bool) (text : Text) :
    (cutAt stop text).1 ++ (cutAt stop text).2 = text :=
  List.takeWhile_append_dropWhile

/-- The parts before and after the first character that satisfies `stop`, if there is one. -/
def splitFirst? (stop : Char → Bool) (text : Text) : Option (Text × Text) :=
  match cutAt stop text with
  | (_, []) => none
  | (before, _ :: after) => some (before, after)

/-- The texts with `separator` between each two of them. -/
def join (separator : Text) (texts : List Text) : Text := separator.intercalate texts

/-- Every occurrence of `old` replaced by `new`, from left to right and without overlap.  `old` is
meant to be non-empty; what was put in is not looked at again. -/
def replaceAll (old new : Text) : Text → Text
  | [] => []
  | c :: rest =>
    if startsWith (c :: rest) old then new ++ replaceAll old new (rest.drop (old.length - 1))
    else c :: replaceAll old new rest
termination_by text => text.length
decreasing_by all_goals simp; try omega

/-- The lines of a text: a line end after the last line starts no further line. -/
def lines (text : Text) : List Text :=
  let parts := text.splitOn '\n'
  if parts.getLast? = some [] then parts.dropLast else parts

/-! ## Sets of texts

Code point order is also the order of the UTF-8 encodings. -/

/-- Puts a text into a strictly increasing list, unless it is there already. -/
def insertSorted (t : Text) : List Text → List Text
  | [] => [t]
  | u :: us => if t < u then t :: u :: us else if t = u then u :: us else u :: insertSorted t us

@[simp] theorem mem_insertSorted {t u : Text} {us : List Text} :
    u ∈ insertSorted t us ↔ u = t ∨ u ∈ us := by
  induction us with
  | nil => simp [insertSorted]
  | cons v us ih =>
    simp only [insertSorted]
    split
    · simp
    · split
      · rename_i h; subst h; simp
      · simp [ih, or_left_comm]

/-- The distinct members of a list of texts, in increasing order. -/
def sortedSet (texts : List Text) : List Text := texts.foldr insertSorted []

/-- **Sorting keeps exactly the members.** -/
@[simp] theorem mem_sortedSet {t : Text} {texts : List Text} : t ∈ sortedSet texts ↔ t ∈ texts := by
  induction texts with
  | nil => simp [sortedSet]
  | cons u texts ih =>
    rw [sortedSet, List.foldr_cons, mem_insertSorted, ← sortedSet, ih, List.mem_cons]

/-- The first text that already occurred before it in the list. -/
def firstRepeat? (texts : List Text) : Option Text :=
  go [] texts
where
  /-- Looks for the first text among those seen so far. -/
  go (seen : List Text) : List Text → Option Text
    | [] => none
    | t :: ts => if t ∈ seen then some t else go (t :: seen) ts

end PlainSpec.Text
