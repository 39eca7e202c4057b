import PlainSpec.Proofs.Parser.Discipline
import PlainSpec.Proofs.Text.Neat

/-!
# What parsers yield

The lines of a source hold no line ends and are numbered in their order.  A property of everything
that a parser yields from such lines is put together along the combinators, as the discipline of the
cursor is.

## Main definitions

* `Cursor.Sound`: the lines ahead are lines of a source.
* `Parser.YieldsFrom`: everything that is read at places of a kind has a property.
* `Parser.Yields`: everything that is read from sound lines has a property.

## Main results

* `Cursor.sound_ofText`: the lines of every source are sound.
* `Parser.YieldsFrom.both`, `Parser.YieldsFrom.several`, …: what combinations yield.
* `Parser.Run.adjacent`: elements of a repetition are related if reading on relates them.
* `Parser.Consuming.lineNumber_lt`: reading something leads to a greater line.
-/

namespace PlainSpec

/-- The lines ahead are lines of a source. -/
structure Cursor.Sound (c : Cursor) : Prop where
  /-- No line holds a line end. -/
  plain : ∀ l ∈ c.rest, '\n' ∉ l.text
  /-- The lines are numbered in their order. -/
  ordered : (c.rest.map Line.number).Pairwise (· < ·)

namespace Cursor

theorem Sound.of_suffix {c n : Cursor} (h : c.Sound) (hs : n.rest <:+ c.rest) : n.Sound :=
  ⟨fun l hl => h.plain l (hs.subset hl), h.ordered.sublist (hs.sublist.map _)⟩

theorem Sound.of_reaches {c n : Cursor} (h : c.Sound) (hr : c.Reaches n) : n.Sound :=
  h.of_suffix hr.suffix

theorem Sound.skipBlank {c : Cursor} (h : c.Sound) : c.skipBlank.Sound :=
  h.of_reaches (reaches_skipBlank c)

theorem mem_of_mem_dropReturn {t : Text} {ch : Char} (h : ch ∈ Line.dropReturn t) : ch ∈ t := by
  unfold Line.dropReturn at h
  split at h
  · exact (List.dropLast_sublist t).subset h
  · exact h

/-- **The lines of every source are sound.** -/
theorem sound_ofText (source : Text) : (ofText source).Sound := by
  constructor
  · intro l hl
    obtain ⟨i, hi, rfl⟩ := List.mem_mapIdx.1 hl
    intro hmem
    exact Text.not_mem_of_mem_splitOn (List.getElem_mem hi) (mem_of_mem_dropReturn hmem)
  · show ((Line.split source).map Line.number).Pairwise (· < ·)
    rw [List.pairwise_iff_getElem]
    intro i j hi hj hij
    simp [Line.split, hij]

theorem Sound.ahead {c : Cursor} (h : c.Sound) {l : Line} (hl : c.ahead? = some l) :
    '\n' ∉ l.text := by
  rw [ahead?_eq_head?] at hl
  exact h.plain l ((List.dropWhile_subset _) (List.mem_of_mem_head? hl))

end Cursor

theorem Line.neat_trimmed {l : Line} (h : '\n' ∉ l.text) : l.trimmed.Neat := .trim h

/-- The property of a place holds of all places further on. -/
def Cursor.Lasting (K : Cursor → Prop) : Prop := ∀ ⦃c n : Cursor⦄, K c → c.Reaches n → K n

theorem Cursor.lasting_sound : Cursor.Lasting Cursor.Sound := fun _ _ h hr => h.of_reaches hr

namespace Parser

variable {α β : Type} {p : Parser α} {q : Parser β} {P : α → Prop} {Q : β → Prop}

/-- Everything that the parser reads at places of a kind has the property. -/
def YieldsFrom (K : Cursor → Prop) (p : Parser α) (P : α → Prop) : Prop :=
  ∀ c v n, K c → p c = .ok v n → P v

namespace YieldsFrom

variable {K : Cursor → Prop}

theorem mono {P' : α → Prop} (h : YieldsFrom K p P) (hP : ∀ v, P v → P' v) : YieldsFrom K p P' :=
  fun c v n hc hv => hP v (h c v n hc hv)

theorem any (p : Parser α) : YieldsFrom K p fun _ => True := fun _ _ _ _ _ => trivial

theorem map {f : α → β} (h : YieldsFrom K p P) (hf : ∀ v, P v → Q (f v)) :
    YieldsFrom K (map p f) Q := by
  intro c w n hc hw
  obtain ⟨v, hv, rfl⟩ := map_eq_ok.1 hw
  exact hf v (h c v n hc hv)

theorem check {f : α → Except Invalid β} (h : YieldsFrom K p P)
    (hf : ∀ v w, P v → f v = .ok w → Q w) : YieldsFrom K (check p f) Q := by
  intro c w n hc hw
  obtain ⟨v, hv, hfv⟩ := check_eq_ok.1 hw
  exact hf v w (h c v n hc hv) hfv

variable (hK : Cursor.Lasting K)

include hK

theorem both (hp : YieldsFrom K p P) (hd : Disciplined p) (hq : YieldsFrom K q Q) :
    YieldsFrom K (both p q) fun v => P v.1 ∧ Q v.2 := by
  intro c v n hc hv
  obtain ⟨m, hm, hn⟩ := both_eq_ok.1 hv
  have hs := hK hc (Cursor.reaches_skipBlank c)
  exact ⟨hp _ _ _ hs hm, hq _ _ _ (hK hs (hd.reaches hm)) hn⟩

theorem first (hp : YieldsFrom K p P) : YieldsFrom K (first p q) P := by
  intro c v n hc hv
  obtain ⟨m, b, hm, -⟩ := first_eq_ok.1 hv
  exact hp _ _ _ (hK hc (Cursor.reaches_skipBlank c)) hm

theorem bind {f : α → Parser β} (hp : YieldsFrom K p P) (hd : Disciplined p)
    (hf : ∀ v, P v → YieldsFrom K (f v) Q) : YieldsFrom K (bind p f) Q := by
  intro c w n hc hw
  obtain ⟨v, m, hv, hn⟩ := bind_eq_ok.1 hw
  exact hf v (hp _ _ _ hc hv) _ _ _ (hK hc (hd.reaches hv)) hn

theorem orElse {q : Parser α} (hp : YieldsFrom K p P) (hq : YieldsFrom K q P) :
    YieldsFrom K (orElse p q) P := by
  intro c v n hc hv
  have hs := hK hc (Cursor.reaches_skipBlank c)
  rcases orElse_eq_ok.1 hv with h | ⟨-, h⟩
  · exact hp _ _ _ hs h
  · exact hq _ _ _ hs h

theorem run {stop : Parser β} (hp : YieldsFrom K p P) (hd : Disciplined p)
    {c n : Cursor} {vs : List α} (hc : K c) (h : Run p stop c vs n) : ∀ v ∈ vs, P v := by
  induction h with
  | stop h => simp
  | step hs he hlt _ ih =>
    intro v hv
    rcases List.mem_cons.1 hv with rfl | hv
    · exact hp _ _ _ hc he
    · exact ih (hK hc (hd.reaches he)) v hv
  | stuck hs he hge =>
    intro v hv
    rw [List.mem_singleton.1 hv]
    exact hp _ _ _ hc he

theorem many {stop : Parser β} (hp : YieldsFrom K p P) (hd : Disciplined p) :
    YieldsFrom K (many p stop) fun vs => ∀ v ∈ vs, P v := by
  intro c vs n hc hvs
  exact run hK hp hd (hK hc (Cursor.reaches_skipBlank c)) (many_eq_ok.1 hvs)

theorem several {name : String} {stop : Parser β} (hp : YieldsFrom K p P) (hd : Disciplined p) :
    YieldsFrom K (several name p stop) fun vs => ∀ v ∈ vs.toList, P v := by
  intro c vs n hc hvs
  exact run hK hp hd (hK hc (Cursor.reaches_skipBlank c)) (several_eq_ok.1 hvs)

/-- Blocks, each read as several values or as a single one, have members with a property if what
either reading yields has it. -/
theorem blocks {group : Parser (List α)} {name : String} {stop : Parser β}
    (hgroup : YieldsFrom K group fun vs => ∀ v ∈ vs, P v) (hp : YieldsFrom K p P)
    (hd : Disciplined (Parser.orElse group (Parser.map p fun v => [v]))) :
    YieldsFrom K (Parser.map (Parser.severalWhile name
      (Parser.orElse group (Parser.map p fun v => [v])) stop) fun blocks => blocks.toList.flatten)
      fun vs => ∀ v ∈ vs, P v := by
  have hsingle : YieldsFrom K (Parser.map p fun v => [v]) fun vs => ∀ v ∈ vs, P v :=
    hp.map fun v hv => List.forall_mem_singleton.2 hv
  have hblock := YieldsFrom.orElse hK hgroup hsingle
  refine (YieldsFrom.several hK hblock hd).map fun blocks h v hv => ?_
  obtain ⟨block, hb, hmem⟩ := List.mem_flatten.1 hv
  exact h block hb v hmem

end YieldsFrom

/-! ## Sound lines -/

/-- Everything that the parser reads from sound lines has the property. -/
def Yields (p : Parser α) (P : α → Prop) : Prop := ∀ c v n, c.Sound → p c = .ok v n → P v

namespace Yields

theorem mono {P' : α → Prop} (h : Yields p P) (hP : ∀ v, P v → P' v) : Yields p P' :=
  YieldsFrom.mono h hP

theorem any (p : Parser α) : Yields p fun _ => True := YieldsFrom.any p

theorem line {f : Line → Except Fault α} (hf : ∀ l v, l.trimmed.Neat → f l = .ok v → P v) :
    Yields (line f) P := by
  intro c v n hc hv
  obtain ⟨l, hl, hread, -⟩ := line_eq_ok.1 hv
  exact hf l v (Line.neat_trimmed (hc.ahead hl)) hread

theorem map {f : α → β} (h : Yields p P) (hf : ∀ v, P v → Q (f v)) : Yields (map p f) Q :=
  YieldsFrom.map h hf

theorem check {f : α → Except Invalid β} (h : Yields p P) (hf : ∀ v w, P v → f v = .ok w → Q w) :
    Yields (check p f) Q :=
  YieldsFrom.check h hf

theorem both (hp : Yields p P) (hd : Disciplined p) (hq : Yields q Q) :
    Yields (both p q) fun v => P v.1 ∧ Q v.2 :=
  YieldsFrom.both Cursor.lasting_sound hp hd hq

theorem first (hp : Yields p P) : Yields (first p q) P := YieldsFrom.first Cursor.lasting_sound hp

theorem bind {f : α → Parser β} (hp : Yields p P) (hd : Disciplined p)
    (hf : ∀ v, P v → Yields (f v) Q) : Yields (bind p f) Q :=
  YieldsFrom.bind Cursor.lasting_sound hp hd hf

theorem orElse {q : Parser α} (hp : Yields p P) (hq : Yields q P) : Yields (orElse p q) P :=
  YieldsFrom.orElse Cursor.lasting_sound hp hq

theorem whenAhead {test : Line → Bool} (hp : Yields p P) :
    Yields (whenAhead test p) fun v => ∀ a, v = some a → P a := by
  rintro c v n hc hv a rfl
  rcases whenAhead_eq_ok.1 hv with ⟨-, a', ha, heq⟩ | ⟨-, hnone, -⟩
  · cases heq
    exact hp _ _ _ hc ha
  · cases hnone

theorem run {stop : Parser β} (hp : Yields p P) (hd : Disciplined p) {c n : Cursor} {vs : List α}
    (hc : c.Sound) (h : Run p stop c vs n) : ∀ v ∈ vs, P v :=
  YieldsFrom.run Cursor.lasting_sound hp hd hc h

theorem many {stop : Parser β} (hp : Yields p P) (hd : Disciplined p) :
    Yields (many p stop) fun vs => ∀ v ∈ vs, P v :=
  YieldsFrom.many Cursor.lasting_sound hp hd

theorem several {name : String} {stop : Parser β} (hp : Yields p P) (hd : Disciplined p) :
    Yields (several name p stop) fun vs => ∀ v ∈ vs.toList, P v :=
  YieldsFrom.several Cursor.lasting_sound hp hd

/-- Groups that have members, put together, have members. -/
theorem flatten {p : Parser (List α)} {name : String} {stop : Parser β}
    (hp : Yields p fun vs => vs ≠ [] ∧ ∀ v ∈ vs, P v) (hd : Disciplined p) :
    Yields (Parser.map (Parser.several name p stop) fun groups => groups.toList.flatten)
      fun vs => vs ≠ [] ∧ ∀ v ∈ vs, P v := by
  refine (hp.several hd).map fun groups hgroups => ⟨fun hnil => ?_, fun v hv => ?_⟩
  · have hempty := List.flatten_eq_nil_iff.1 hnil groups.head List.mem_cons_self
    exact (hgroups groups.head List.mem_cons_self).1 hempty
  · obtain ⟨group, hgroup, hv⟩ := List.mem_flatten.1 hv
    exact (hgroups group hgroup).2 v hv

end Yields

/-! ## Neighbours in a repetition -/

theorem Run.exists_head {stop : Parser β} {c n : Cursor} {v : α} {vs : List α}
    (h : Run p stop c (v :: vs) n) : ∃ m, p c = .ok v m := by
  cases h with
  | step _ he _ _ => exact ⟨_, he⟩
  | stuck _ he _ => exact ⟨_, he⟩

/-- **Elements that are read one behind the other are related**, if reading on relates them. -/
theorem Run.adjacent {stop : Parser β} {R : α → α → Prop} (hd : Disciplined p)
    (hR : ∀ c m n a b, c.Sound → p c = .ok a m → p m = .ok b n → R a b) {c n : Cursor} {vs : List α}
    (hc : c.Sound) (h : Run p stop c vs n) : ∀ a b rest, a :: b :: rest <:+ vs → R a b := by
  induction h with
  | stop h => intro a b rest hsuffix; simp at hsuffix
  | step hs he hlt hr ih =>
    intro a b rest hsuffix
    rcases List.suffix_cons_iff.1 hsuffix with heq | hsuffix
    · cases heq
      obtain ⟨k, hk⟩ := hr.exists_head
      exact hR _ _ _ _ _ hc he hk
    · exact ih (hc.of_reaches (hd.reaches he)) a b rest hsuffix
  | stuck hs he hge =>
    intro a b rest hsuffix
    have := hsuffix.length_le
    simp at this

/-- The last element of a repetition is read in front of its end. -/
theorem Run.exists_last {stop : Parser β} (hd : Disciplined p) {c n : Cursor} {vs : List α} {v : α}
    (h : Run p stop c vs n) (hv : vs.getLast? = some v) : ∃ m, c.Reaches m ∧ p m = .ok v n := by
  induction h with
  | stop h => cases hv
  | @step c w m vs n hs he hlt hr ih =>
    cases vs with
    | nil =>
      cases hv
      cases hr
      exact ⟨c, .refl c, he⟩
    | cons u vs =>
      rw [List.getLast?_cons_cons] at hv
      obtain ⟨k, hk, hlast⟩ := ih hv
      exact ⟨k, (hd.reaches he).trans hk, hlast⟩
  | @stuck c w m hs he hge =>
    cases hv
    exact ⟨c, .refl c, he⟩

/-- **Reading something leads to a greater line.** -/
theorem Consuming.lineNumber_lt (hp : Consuming p) {c n : Cursor} {v : α} (hc : c.Sound)
    (h : p c = .ok v n) (hn : n.atEnd = false) : c.lineNumber < n.lineNumber := by
  obtain ⟨between, hrest, l, hl, hblank⟩ := hp c v n h
  have hbefore : ∀ x ∈ between, ∀ y ∈ n.rest, x.number < y.number := by
    have ho := hc.ordered
    rw [hrest, List.map_append, List.pairwise_append] at ho
    exact fun x hx y hy => ho.2.2 _ (List.mem_map_of_mem hx) _ (List.mem_map_of_mem hy)
  -- the first line that is not blank is among those that were read
  have hfirst : ∃ x ∈ between, c.ahead? = some x := by
    have hne := Line.dropWhile_isBlank_ne_nil hl hblank
    rw [Cursor.ahead?_eq_head?, hrest, List.dropWhile_append]
    cases hd : between.dropWhile Line.isBlank with
    | nil => exact absurd hd hne
    | cons x xs => exact ⟨x, (List.dropWhile_subset _) (hd ▸ List.mem_cons_self), by simp⟩
  obtain ⟨x, hx, hahead⟩ := hfirst
  obtain ⟨y, hy⟩ : ∃ y, n.ahead? = some y := by
    simpa [Cursor.atEnd, Option.isSome_iff_exists] using hn
  have hmem : y ∈ n.rest := by
    rw [Cursor.ahead?_eq_head?] at hy
    exact (List.dropWhile_subset _) (List.mem_of_mem_head? hy)
  simp only [Cursor.lineNumber, hahead, hy]
  exact hbefore x hx y hmem

@[simp] theorem lineNumber_skipBlank (c : Cursor) : c.skipBlank.lineNumber = c.lineNumber := by
  simp [Cursor.lineNumber]

end Parser

end PlainSpec
