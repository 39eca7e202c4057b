import PlainSpec.Config.Basic
import PlainSpec.Proofs.Config.Quotation
import PlainSpec.Proofs.OrderedMap

/-!
# Settings are read back from their lines

A setting is written on a line of its own: a key, a sign of equality and a value.  A line is read as
far as its end whatever comes behind it, so the lines of a file are read one after the other.

## Main definitions

* `Toml.Denotes`: a written value with what it stands for.
* `Toml.Setting`: a setting with its key, as it is written and as it is read.

## Main results

* `number?_ofNat`: the digits of a number stand for it.
* `Toml.denotes_quote`, `Toml.denotes_ofNat`: texts and numbers of 64 bits, as they are written.
* `Toml.readFrom_setting`: a line with a setting adds an entry.
* `Toml.read_flatMap_line`, `Toml.lookup_key`: settings are read back from their lines, and found
  there.
-/

namespace PlainSpec

/-! ## Numbers -/

theorem digitBelow?_of_isDigit {c : Char} (h : c.isDigit = true) :
    digitBelow? 10 c = some (c.toNat - '0'.toNat) := by
  have hbound : c.toNat - '0'.toNat < 10 := by
    delta Char.isDigit at h
    simp only [Bool.and_eq_true, decide_eq_true_eq, ge_iff_le, UInt32.le_iff_toNat_le] at h
    have hnine : '9'.val.toNat = 57 := rfl
    have hzero : '0'.toNat = 48 := rfl
    have hc : c.toNat = c.val.toNat := rfl
    omega
  rw [digitBelow?, digitValue?, if_pos h, Option.filter_some, if_pos (decide_eq_true hbound)]

theorem mapM_digitBelow? {t : Text} (h : ∀ c ∈ t, c.isDigit = true) :
    t.mapM (digitBelow? 10) = some (t.map fun c => c.toNat - '0'.toNat) := by
  induction t with
  | nil => rfl
  | cons c t ih =>
    obtain ⟨hc, ht⟩ := List.forall_mem_cons.1 h
    rw [List.mapM_cons, digitBelow?_of_isDigit hc, ih ht]
    rfl

theorem isDigit_of_mem_ofNat {n : Nat} {c : Char} (h : c ∈ Text.ofNat n) : c.isDigit = true :=
  Nat.isDigit_of_mem_toDigits (by decide) (by decide) h

/-- **The digits of a number stand for it.** -/
theorem number?_ofNat (n : Nat) : number? 10 (Text.ofNat n) = some n := by
  have hne : ¬ (Text.ofNat n).isEmpty = true := by
    rw [List.isEmpty_iff]
    exact Nat.toDigits_ne_nil
  have hvalue : Nat.ofDigitChars 10 (Text.ofNat n) 0 = n := Nat.ofDigitChars_ten_toDigits
  rw [number?, if_neg hne, mapM_digitBelow? fun c hc => isDigit_of_mem_ofNat hc, Option.map_some,
    List.foldl_map]
  rw [Nat.ofDigitChars_eq_foldl] at hvalue
  simpa only [Nat.mul_comm 10] using congrArg some hvalue

/-- There is no superfluous zero in front of the digits of a number. -/
theorem ofNat_ne_zero_cons (n : Nat) (c : Char) (rest : Text) :
    Text.ofNat n ≠ '0' :: c :: rest := by
  induction n using Nat.strongRecOn generalizing c rest with
  | ind n ih =>
    intro h
    rw [Text.ofNat, Nat.toDigits_eq_if (by decide)] at h
    split at h
    · simp at h
    · rename_i hn
      have hfront : ∃ front, Text.ofNat (n / 10) = '0' :: front := by
        cases hdigits : Text.ofNat (n / 10) with
        | nil => exact absurd hdigits Nat.toDigits_ne_nil
        | cons d front =>
          rw [show Nat.toDigits 10 (n / 10) = d :: front from hdigits] at h
          exact ⟨front, by rw [(List.cons.inj h).1]⟩
      obtain ⟨front, hfront⟩ := hfront
      cases front with
      | cons d front => exact ih (n / 10) (by omega) d front hfront
      | nil =>
        -- a number in front whose only digit is zero would be zero, and nothing would be in front
        have hzero := number?_ofNat (n / 10)
        rw [hfront] at hzero
        have : n / 10 = 0 := (Option.some.inj hzero).symm
        omega

namespace Toml

theorem integer?_ofNat (n : Nat) : integer? (Text.ofNat n) = some (n : Int) := by
  have hdigit : ∀ c ∈ Text.ofNat n, c.isDigit = true := fun c hc => isDigit_of_mem_ofNat hc
  have hnatural : natural? 10 (Text.ofNat n) = some n := by
    have hsplit : (Text.ofNat n).splitOn '_' = [Text.ofNat n] :=
      List.splitOn_eq_singleton Nat.underscore_not_in_toDigits
    have hne : ¬ (Text.ofNat n).isEmpty = true := by
      rw [List.isEmpty_iff]
      exact Nat.toDigits_ne_nil
    rw [natural?, hsplit]
    simp [hne, number?_ofNat]
  have hdecimal : decimal? (Text.ofNat n) = some n := by
    unfold decimal?
    split
    · rename_i c rest heq
      exact absurd heq (ofNat_ne_zero_cons n c rest)
    · exact hnatural
  -- digits start with no sign, and no letter of another base follows the first one
  unfold integer?
  split
  · rename_i heq
    exact absurd (hdigit 'x' (by simp [heq])) (by decide)
  · rename_i heq
    exact absurd (hdigit 'o' (by simp [heq])) (by decide)
  · rename_i heq
    exact absurd (hdigit 'b' (by simp [heq])) (by decide)
  · rename_i heq
    exact absurd (hdigit '+' (by simp [heq])) (by decide)
  · rename_i heq
    exact absurd (hdigit '-' (by simp [heq])) (by decide)
  · rw [hdecimal]
    rfl

/-! ## Values -/

/-- A written value with what it stands for, if a line end follows it. -/
structure Denotes (written : Text) (value : Value) : Prop where
  start : ∃ c rest, written = c :: rest ∧ isSpace c = false
  reads : ∀ more, readValue (written ++ '\n' :: more) = some (value, '\n' :: more)

theorem readValue_of_readText? {t rest content : Text} (h : readText? t = some (content, rest)) :
    readValue t = some (.text content, rest) := by
  unfold readValue
  split
  · simp [readText?] at h
  · simp [readText?] at h
  · rw [h]

/-- **A quoted text denotes the text.** -/
theorem denotes_quote (t : Text) : Denotes (quote t) (.text t) where
  start := by
    unfold quote
    dsimp only
    split
    · exact ⟨_, _, rfl, rfl⟩
    split
    · exact ⟨_, _, rfl, rfl⟩
    split
    · exact ⟨_, _, rfl, rfl⟩
    split
    · exact ⟨_, _, rfl, rfl⟩
    · exact ⟨_, _, rfl, rfl⟩
  reads more := readValue_of_readText? (readText?_quote t (by simp) (by simp))

/-- A text that starts with no mark is not quoted. -/
theorem readText?_eq_none {c : Char} (hdouble : c ≠ '"') (hsingle : c ≠ '\'') (rest : Text) :
    readText? (c :: rest) = none := by
  unfold readText?
  split
  · rename_i heq
    exact absurd (List.cons.inj heq).1 hdouble
  · rename_i heq
    exact absurd (List.cons.inj heq).1 hsingle
  · rename_i heq
    exact absurd (List.cons.inj heq).1 hdouble
  · rename_i heq
    exact absurd (List.cons.inj heq).1 hsingle
  · rfl

/-- **A word without quotation marks denotes its value.** -/
theorem denotes_word {word : Text} {value : Value} (hne : word ≠ [])
    (hchars : ∀ c ∈ word, isTokenChar c = true) (h : word? word = some value) :
    Denotes word value := by
  obtain ⟨c, rest, rfl⟩ := List.exists_cons_of_ne_nil hne
  have hother : ∀ d, isTokenChar d = false → c ≠ d := by
    rintro d hd rfl
    rw [hchars c List.mem_cons_self] at hd
    cases hd
  refine ⟨⟨c, rest, rfl, ?_⟩, fun more => ?_⟩
  · simp [isSpace, hother ' ' rfl, hother '\t' rfl]
  · have htake : ((c :: rest) ++ '\n' :: more).takeWhile isTokenChar = c :: rest := by
      rw [List.takeWhile_append_of_pos hchars, List.takeWhile_cons_of_neg (by decide),
        List.append_nil]
    have hdrop : ((c :: rest) ++ '\n' :: more).dropWhile isTokenChar = '\n' :: more := by
      rw [List.dropWhile_append_of_pos hchars, List.dropWhile_cons_of_neg (by decide)]
    unfold readValue
    split
    · rename_i heq
      exact absurd (List.cons.inj heq).1 (hother '[' rfl)
    · rename_i heq
      exact absurd (List.cons.inj heq).1 (hother '\x7b' rfl)
    · rw [htake, hdrop, h, List.cons_append, readText?_eq_none (hother '"' rfl) (hother '\'' rfl)]
      rfl

theorem isTokenChar_of_isDigit {c : Char} (h : c.isDigit = true) : isTokenChar c = true := by
  have hname : c.isAlphanum = true := by
    delta Char.isAlphanum
    rw [h, Bool.or_true]
  rw [isTokenChar, hname]
  rfl

/-- **The digits of a number of 64 bits denote it.** -/
theorem denotes_ofNat {n : Nat} (h : n < UInt64.size) : Denotes (Text.ofNat n) (.integer n) := by
  have hdigit : ∀ c ∈ Text.ofNat n, c.isDigit = true := fun c hc => isDigit_of_mem_ofNat hc
  refine denotes_word Nat.toDigits_ne_nil (fun c hc => isTokenChar_of_isDigit (hdigit c hc)) ?_
  have htrue : Text.ofNat n ≠ "true".toList :=
    fun heq => absurd (hdigit 't' (by simp [heq])) (by decide)
  have hfalse : Text.ofNat n ≠ "false".toList :=
    fun heq => absurd (hdigit 'f' (by simp [heq])) (by decide)
  have hrange : inRange (n : Int) = true := by
    simp only [inRange, Bool.and_eq_true, decide_eq_true_eq]
    omega
  rw [word?, if_neg htrue, if_neg hfalse, integer?_ofNat]
  simp [hrange]

theorem denotes_boolean (b : Bool) :
    Denotes (if b then "true".toList else "false".toList) (.boolean b) := by
  cases b with
  | true => exact denotes_word (by simp) (List.all_eq_true.1 rfl) rfl
  | false => exact denotes_word (by simp) (List.all_eq_true.1 rfl) rfl

/-! ## Lines -/

/-- A key that is written without quotation marks. -/
structure BareKey (key : Text) : Prop where
  nonempty : key ≠ []
  chars : ∀ c ∈ key, isKeyChar c = true

instance (key : Text) : Decidable (BareKey key) :=
  decidable_of_iff (key ≠ [] ∧ key.all isKeyChar = true)
    ⟨fun h => ⟨h.1, List.all_eq_true.1 h.2⟩, fun h => ⟨h.nonempty, List.all_eq_true.2 h.chars⟩⟩

theorem BareKey.exists_cons {key : Text} (h : BareKey key) : ∃ c rest, key = c :: rest ∧
    ∀ d, isKeyChar d = false → c ≠ d := by
  obtain ⟨c, rest, rfl⟩ := List.exists_cons_of_ne_nil h.nonempty
  refine ⟨c, rest, rfl, ?_⟩
  rintro d hd rfl
  rw [h.chars c List.mem_cons_self] at hd
  cases hd

/-- A key is read up to the blank behind it. -/
theorem readKey_append {key : Text} (h : BareKey key) (rest : Text) :
    readKey (key ++ ' ' :: '=' :: rest) = some ([key], '=' :: rest) := by
  have htake : (key ++ ' ' :: '=' :: rest).takeWhile isKeyChar = key := by
    rw [List.takeWhile_append_of_pos h.chars, List.takeWhile_cons_of_neg (by decide),
      List.append_nil]
  have hdrop : (key ++ ' ' :: '=' :: rest).dropWhile isKeyChar = ' ' :: '=' :: rest := by
    rw [List.dropWhile_append_of_pos h.chars, List.dropWhile_cons_of_neg (by decide)]
  have hempty : ¬ key.isEmpty = true := by simpa using h.nonempty
  obtain ⟨c, more, hkey, hother⟩ := h.exists_cons
  have hskip : skipSpace (key ++ ' ' :: '=' :: rest) = key ++ ' ' :: '=' :: rest := by
    rw [hkey, List.cons_append]
    exact List.dropWhile_cons_of_neg (by simp [isSpace, hother ' ' rfl, hother '\t' rfl])
  have hpart : readKeyPart (key ++ ' ' :: '=' :: rest) = some (key, ' ' :: '=' :: rest) := by
    unfold readKeyPart
    split
    · rename_i heq
      rw [hkey] at heq
      exact absurd (List.cons.inj heq).1 (hother '"' rfl)
    · rename_i heq
      rw [hkey] at heq
      exact absurd (List.cons.inj heq).1 (hother '\'' rfl)
    · dsimp only
      rw [htake, hdrop, if_neg hempty]
  rw [readKey, hskip, hpart]
  rfl

/-- A line with a setting adds an entry, and is read up to its end. -/
theorem readLine_setting {p p' : Progress} {key written : Text} {value : Value} (hkey : BareKey key)
    (hvalue : Denotes written value) (hadd : p.addEntry [key] value = some p') (more : Text) :
    readLine p (key ++ ' ' :: '=' :: ' ' :: (written ++ '\n' :: more)) =
      some (p', '\n' :: more) := by
  have hread := readKey_append hkey (' ' :: (written ++ '\n' :: more))
  have hskip : skipSpace (' ' :: (written ++ '\n' :: more)) = written ++ '\n' :: more := by
    obtain ⟨c, rest, rfl, hc⟩ := hvalue.start
    rw [skipSpace, List.dropWhile_cons_of_pos (by decide), List.cons_append,
      List.dropWhile_cons_of_neg (by simp [hc])]
  obtain ⟨c, rest, rfl, hother⟩ := hkey.exists_cons
  rw [List.cons_append] at hread ⊢
  have hstart : ∀ t, skipSpace (c :: t) = c :: t := fun t =>
    List.dropWhile_cons_of_neg (by simp [isSpace, hother ' ' rfl, hother '\t' rfl])
  unfold readLine
  rw [hstart]
  split
  · rename_i heq
    cases heq
  · rename_i heq
    exact absurd (List.cons.inj heq).1 (hother '#' rfl)
  · rename_i heq
    exact absurd (List.cons.inj heq).1 (hother '\n' rfl)
  · rename_i heq
    exact absurd (List.cons.inj heq).1 (hother '\r' rfl)
  · rename_i heq
    exact absurd (List.cons.inj heq).1 (hother '[' rfl)
  · rw [hread]
    show ((readValue (skipSpace (' ' :: (written ++ '\n' :: more)))).bind fun found =>
      (p.addEntry [c :: rest] found.1).bind fun p => some (p, found.2)) = some (p', '\n' :: more)
    rw [hskip, hvalue.reads, Option.bind_some, hadd, Option.bind_some]

/-- **A line with a setting is read before the lines behind it.** -/
theorem readFrom_setting {p p' : Progress} {key : String} {written : Text} {value : Value}
    (hkey : BareKey key.toList) (hvalue : Denotes written value)
    (hadd : p.addEntry [key.toList] value = some p') (more : Text) :
    readFrom p (Config.setting key written ++ more) = readFrom p' more := by
  have hline : Config.setting key written ++ more =
      key.toList ++ ' ' :: '=' :: ' ' :: (written ++ '\n' :: more) := by
    simp [Config.setting]
  have hread := readLine_setting hkey hvalue hadd more
  have hend : endLine? ('\n' :: more) = some more := rfl
  have hshorter : more.length < (Config.setting key written ++ more).length := by
    rw [hline]
    simp only [List.length_append, List.length_cons]
    omega
  rw [← hline] at hread
  rw [readFrom]
  · rw [hread]
    dsimp only
    rw [hend]
    dsimp only
    rw [if_pos hshorter]
  · intro hnil
    rw [hnil] at hshorter
    cases hshorter

/-! ## Files -/

/-- A setting, as it is written and as it is read. -/
structure Setting where
  /-- The key. -/
  key : String
  /-- The value as it is written. -/
  written : Text
  /-- The value. -/
  value : Value
  bare : BareKey key.toList
  denotes : Denotes written value

/-- A setting as an entry of a file. -/
def Setting.entry (s : Setting) : Text × Value := (s.key.toList, s.value)

/-- The line of a setting. -/
def Setting.line (s : Setting) : Text := Config.setting s.key s.written

/-- What has been read after the lines of settings, if there was no header. -/
def Progress.after (settings : List Setting) : Progress :=
  ⟨[], [], (settings.map fun s => ([s.key.toList], s.value)).reverse⟩

/-- An entry is put in behind those with other keys. -/
theorem Progress.addEntry_after {settings : List Setting} {s : Setting}
    (hfresh : s.key ∉ settings.map Setting.key) :
    (Progress.after settings).addEntry [s.key.toList] s.value =
      some (Progress.after (settings ++ [s])) := by
  have hother : ∀ other ∈ settings, other.key.toList ≠ s.key.toList := fun other hmem heq =>
    hfresh (List.mem_map.2 ⟨other, hmem, String.toList_inj.1 heq⟩)
  have hoverlaps : ∀ other ∈ settings, overlaps [other.key.toList] [s.key.toList] = false := by
    intro other hmem
    simp [overlaps, List.isPrefixOf, hother other hmem, Ne.symm (hother other hmem)]
  have hfree : ((Progress.after settings).entries.any fun entry =>
      overlaps entry.1 [s.key.toList]) = false := by
    simpa [Progress.after, List.any_eq_false] using hoverlaps
  have hentries : (Progress.after (settings ++ [s])).entries =
      ([s.key.toList], s.value) :: (Progress.after settings).entries := by
    simp [Progress.after]
  have htable : (Progress.after settings).table ++ [s.key.toList] = [s.key.toList] := rfl
  have hheaders : [s.key.toList] ∉ (Progress.after settings).headers := List.not_mem_nil
  rw [Progress.addEntry, htable, hfree, decide_eq_false hheaders, Bool.or_false,
    if_neg Bool.false_ne_true, ← hentries]
  rfl

/-- **The lines of settings are read one after the other**, if their keys differ. -/
theorem readFrom_flatMap_line {before settings : List Setting}
    (hkeys : ((before ++ settings).map Setting.key).Nodup) :
    readFrom (Progress.after before) (settings.flatMap Setting.line) =
      some (Progress.after (before ++ settings)) := by
  -- the settings in front have been read, and none of the keys to come is taken
  induction settings generalizing before with
  | nil => rw [List.flatMap_nil, List.append_nil, readFrom]
  | cons s settings ih =>
    have hassoc : before ++ s :: settings = (before ++ [s]) ++ settings := by simp
    have hfresh : s.key ∉ before.map Setting.key := by
      rw [List.map_append, List.nodup_append] at hkeys
      exact fun hmem => hkeys.2.2 s.key hmem s.key (by simp) rfl
    rw [List.flatMap_cons, Setting.line,
      readFrom_setting s.bare s.denotes (Progress.addEntry_after hfresh), hassoc]
    exact ih (by rwa [← hassoc])

/-- **Settings are read back from their lines.** -/
theorem read_flatMap_line {settings : List Setting} (hkeys : (settings.map Setting.key).Nodup) :
    read (settings.flatMap Setting.line) = some (settings.map Setting.entry) := by
  have hmark : dropMark (settings.flatMap Setting.line) = settings.flatMap Setting.line := by
    cases settings with
    | nil => rfl
    | cons s settings =>
      obtain ⟨c, rest, hkey, hother⟩ := s.bare.exists_cons
      unfold dropMark
      split
      · rename_i heq
        rw [List.flatMap_cons, Setting.line, Config.setting, hkey] at heq
        exact absurd (List.cons.inj heq).1 (hother _ (by decide))
      · rfl
  have hread : readFrom ⟨[], [], []⟩ (settings.flatMap Setting.line) =
      some (Progress.after settings) :=
    @readFrom_flatMap_line [] settings hkeys
  rw [read, hmark, hread, Option.map_some, Progress.after]
  dsimp only
  rw [List.reverse_reverse, List.filterMap_map, List.filterMap_nil, List.append_nil]
  show some (settings.filterMap fun s => some s.entry) = some (settings.map Setting.entry)
  rw [List.filterMap_eq_map']

/-! ## Looking up -/

/-- A setting is found by its key, if no other one has it. -/
theorem lookup_key {settings : List Setting}
    (hkeys : (settings.map Setting.key).Nodup) {s : Setting}
    (h : s ∈ settings) : (settings.map Setting.entry).lookup s.key.toList = some s.value := by
  have hdistinct : ((settings.map Setting.entry).map Prod.fst).Nodup := by
    have hinjective : Function.Injective String.toList := fun _ _ => String.toList_inj.1
    have hlists := hkeys.map hinjective
    rwa [List.map_map] at hlists ⊢
  exact OrderedMap.lookup_of_mem hdistinct (List.mem_map_of_mem h)

/-- No value is found for a key that no setting has. -/
theorem lookup_key_eq_none {settings : List Setting} {key : String}
    (h : key ∉ settings.map Setting.key) :
    (settings.map Setting.entry).lookup key.toList = none := by
  rw [List.lookup_eq_none_iff]
  intro entry hentry
  obtain ⟨s, hs, rfl⟩ := List.mem_map.1 hentry
  rw [bne_iff_ne]
  rintro heq
  exact h (List.mem_map.2 ⟨s, hs, (String.toList_inj.1 heq).symm⟩)

end Toml

end PlainSpec
