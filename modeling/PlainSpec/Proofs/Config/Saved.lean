import PlainSpec.Proofs.Config.Lines
import PlainSpec.Proofs.Expression.Display
import PlainSpec.Proofs.Storage.Writing

/-!
# Settings survive saving and loading

The expression that selects examples is saved as the text that it is displayed as.  Not every
expression is read back from that text, only those whose labels are words that can be told from the
rest.  All settings that the program can have are of that kind: an expression gets into them by
being read, from a settings file or from the command line, and no other change touches it.

There is no limit on the time: it is saved as a number of 64 bits without a sign, and read as one.

## Main definitions

* `Config.Storable`: settings with an expression that is read back from its text.
* `Config.Step`, `Config.Reached`: the changes of settings, and the settings that the program can
  have.

## Main results

* `Config.Storable.step`, `Config.Reached.storable`: the settings that the program can have are
  storable.
* `Config.read_render`: storable settings are read back from their text.
* `Config.loadConfig_saveConfig`: settings are saved wherever a file can be written, and are loaded
  unchanged.
-/

namespace PlainSpec

namespace Config

/-! ## Text -/

/-- Settings with an expression that is read back from its text, if there is one. -/
def Storable (c : Config) : Prop :=
  ∀ e, c.matchLabels = some e → ∀ name ∈ e.labels, Expression.LabelWord name

/-- The version of the settings file. -/
def versionSetting : Toml.Setting where
  key := "_version"
  written := Toml.quote version
  value := .text version
  bare := by decide
  denotes := Toml.denotes_quote _

/-- The expression that selects examples. -/
def labelsSetting (e : Expression) : Toml.Setting where
  key := "match_labels"
  written := Toml.quote e.display
  value := .text e.display
  bare := by decide
  denotes := Toml.denotes_quote _

/-- The time that a statement may take. -/
def timeoutSetting (c : Config) : Toml.Setting where
  key := "statement_timeout_secs"
  written := Text.ofNat c.timeoutSecs.toNat
  value := .integer c.timeoutSecs.toNat
  bare := by decide
  denotes := Toml.denotes_ofNat c.timeoutSecs.toNat_lt

/-- Whether the statements after a failing one are still run. -/
def failureSetting (c : Config) : Toml.Setting where
  key := "continue_after_failure"
  written := if c.continueAfterFailure then "true".toList else "false".toList
  value := .boolean c.continueAfterFailure
  bare := by decide
  denotes := Toml.denotes_boolean _

/-- The settings as they stand in a file. -/
def settings (c : Config) : List Toml.Setting :=
  versionSetting :: c.matchLabels.toList.map labelsSetting ++ [c.timeoutSetting, c.failureSetting]

theorem render_eq_flatMap_line (c : Config) : c.render = c.settings.flatMap Toml.Setting.line := by
  have hrest : [c.timeoutSetting, c.failureSetting].flatMap Toml.Setting.line =
      c.timeoutSetting.line ++ c.failureSetting.line := by
    rw [List.flatMap_cons, List.flatMap_singleton]
  rw [render, settings]
  cases c.matchLabels with
  | none =>
    rw [Option.toList_none, List.map_nil, List.cons_append, List.nil_append,
      List.flatMap_cons, hrest, List.append_nil, List.append_assoc]
    rfl
  | some e =>
    rw [Option.toList_some, List.map_singleton, List.cons_append, List.singleton_append,
      List.flatMap_cons, List.flatMap_cons, hrest, List.append_assoc, List.append_assoc]
    rfl

theorem map_key_settings (c : Config) : c.settings.map Toml.Setting.key =
    "_version" :: (c.matchLabels.toList.map fun _ => "match_labels") ++
      ["statement_timeout_secs", "continue_after_failure"] := by
  rw [settings]
  cases c.matchLabels <;> rfl

theorem nodup_key_settings (c : Config) : (c.settings.map Toml.Setting.key).Nodup := by
  rw [map_key_settings]
  cases c.matchLabels <;> simp

/-- The time is read from its number, however long it is. -/
theorem readTimeout_integer (secs : UInt64) :
    readTimeout (some (.integer secs.toNat)) = some secs := by
  have hrange : (0 : Int) ≤ secs.toNat ∧ (secs.toNat : Int).toNat < UInt64.size :=
    ⟨Int.natCast_nonneg _, secs.toNat_lt⟩
  rw [readTimeout, if_pos hrange, Int.toNat_natCast, UInt64.ofNat_toNat]

/-- The expression is read from the text that it is displayed as. -/
theorem Storable.readLabels_display {c : Config} (h : c.Storable) :
    readLabels (c.matchLabels.map fun e => .text e.display) = some c.matchLabels := by
  cases hlabels : c.matchLabels with
  | none => rfl
  | some e =>
    rw [Option.map_some, readLabels, Expression.parse_display_of_labelWord (h e hlabels)]
    rfl

/-- The text of the expression is found in the file if there is an expression. -/
theorem lookup_match_labels (c : Config) :
    (c.settings.map Toml.Setting.entry).lookup "match_labels".toList =
      c.matchLabels.map fun e => .text e.display := by
  cases hlabels : c.matchLabels with
  | none =>
    refine Toml.lookup_key_eq_none ?_
    rw [map_key_settings, hlabels]
    simp
  | some e =>
    have hmem : labelsSetting e ∈ c.settings := by simp [settings, hlabels]
    exact Toml.lookup_key c.nodup_key_settings hmem

/-- **Storable settings are read back from their text.** -/
theorem read_render {c : Config} (h : c.Storable) : read c.render = some c := by
  have hentries := Toml.read_flatMap_line c.nodup_key_settings
  rw [← render_eq_flatMap_line] at hentries
  have hfound : ∀ s ∈ c.settings, (c.settings.map Toml.Setting.entry).lookup s.key.toList =
      some s.value :=
    fun s hs => Toml.lookup_key c.nodup_key_settings hs
  have hversion : (c.settings.map Toml.Setting.entry).lookup "_version".toList =
      some (.text version) :=
    hfound versionSetting (by simp [settings])
  have htimeout : (c.settings.map Toml.Setting.entry).lookup "statement_timeout_secs".toList =
      some (.integer c.timeoutSecs.toNat) := hfound c.timeoutSetting (by simp [settings])
  have hflag : (c.settings.map Toml.Setting.entry).lookup "continue_after_failure".toList =
      some (.boolean c.continueAfterFailure) := hfound c.failureSetting (by simp [settings])
  -- each setting is read by its own reader, whatever stands in the other ones
  rw [read, hentries, Option.bind_eq_bind, Option.bind_some]
  dsimp only
  rw [if_pos hversion, c.lookup_match_labels, htimeout, hflag, h.readLabels_display,
    readTimeout_integer]
  rfl

/-! ## The settings that the program can have -/

/-- A change of settings. -/
inductive Step : Config → Config → Prop where
  | selectAll (c : Config) : Step c { c with matchLabels := none }
  | select (c : Config) {t : Text} {e : Expression} (h : Expression.parse t = .ok e) :
      Step c { c with matchLabels := some e }
  | setTimeout (c : Config) (millis : Nat) : Step c (c.setTimeoutMillis millis)
  | continueAfterFailure (c : Config) (b : Bool) : Step c { c with continueAfterFailure := b }

/-- The settings that come from the initial ones, or from those of a file, by a number of
changes. -/
inductive Reached : Config → Prop where
  | initial : Reached .initial
  | loaded {s : Storage} {p : Path} {c : Config} (h : s.loadConfig p = .ok c) : Reached c
  | step {c c' : Config} (h : Reached c) (change : Step c c') : Reached c'

/-- An expression in settings that were read was read from a text. -/
theorem exists_parse_of_readLabels {value : Option Toml.Value} {e : Expression}
    (h : readLabels value = some (some e)) : ∃ t, Expression.parse t = .ok e := by
  unfold readLabels at h
  split at h
  · cases h
  · rename_i content
    cases hparse : Expression.parse content with
    | error fault => simp [hparse, Except.toOption] at h
    | ok e' =>
      obtain rfl : e' = e := by simpa [hparse, Except.toOption] using h
      exact ⟨content, hparse⟩
  · cases h

/-- Settings that were read are storable. -/
theorem storable_of_read {t : Text} {c : Config} (h : read t = some c) : c.Storable := by
  intro e he
  simp only [read, Option.bind_eq_bind, Option.bind_eq_some_iff] at h
  obtain ⟨entries, -, h⟩ := h
  split at h
  · simp only [Option.bind_eq_some_iff, Option.some.injEq] at h
    obtain ⟨labels, hlabels, timeout, -, flag, -, rfl⟩ := h
    obtain ⟨content, hparse⟩ := exists_parse_of_readLabels (hlabels.trans (congrArg some he))
    exact Expression.labelWord_of_parse hparse
  · cases h

theorem storable_of_loadConfig {s : Storage} {p : Path} {c : Config} (h : s.loadConfig p = .ok c) :
    c.Storable := by
  unfold Storage.loadConfig at h
  split at h
  · cases h
  split at h
  · cases h
  split at h
  · cases h
  · rename_i hread
    cases h
    exact storable_of_read hread

/-- **A change keeps settings storable**: an expression that gets into them was read from a text. -/
theorem Storable.step {c c' : Config} (h : c.Storable) (change : Step c c') : c'.Storable := by
  cases change with
  | selectAll =>
    intro e he
    cases he
  | select hparse =>
    intro e he
    cases he
    exact Expression.labelWord_of_parse hparse
  | setTimeout millis => exact h
  | continueAfterFailure b => exact h

/-- **The settings that the program can have are storable.** -/
theorem Reached.storable {c : Config} (h : c.Reached) : c.Storable := by
  induction h with
  | initial =>
    intro e he
    cases he
  | loaded hload => exact storable_of_loadConfig hload
  | step _ change ih => exact ih.step change

/-- **Settings survive saving and loading.**  Whatever settings the program can have, they are saved
at every path where a file can be written, and loading them from there gives the same settings.  The
time may be as long as a number of 64 bits can tell. -/
theorem loadConfig_saveConfig {c : Config} (h : c.Reached) {root : Node} {p : Path}
    (hwritable : root.writeError? p = none) :
    ∃ root', root.saveConfig p c = .ok root' ∧ (Storage.ofNode root').loadConfig p = .ok c := by
  refine ⟨root.add p (.file c.render.toString.toUTF8), ?_, ?_⟩
  · rw [Node.saveConfig, hwritable]
  · have hcontent := Storage.read_add hwritable c.render.toString.toUTF8
    rw [Storage.loadConfig, hcontent]
    dsimp only
    rw [decodeText?_toUTF8]
    dsimp only
    rw [read_render h.storable]

/-- Settings with the longest time, and with an expression whose text has marks of both kinds and a
backslash. -/
def sampleConfig : Config where
  matchLabels := some ((Expression.label "it's".toList).joinLabel .or "\"a\\b\"".toList)
  timeoutSecs := 18446744073709551615
  continueAfterFailure := true

/-- They are saved at a path that steps out of a folder again. -/
theorem loadConfig_saveConfig_sample :
    sampleConfig.Reached ∧
    (Node.folder [("etc".toList, .folder [])]).writeError? ⟨"etc/../saved.toml".toList⟩ = none ∧
    ∃ root', (Node.folder [("etc".toList, .folder [])]).saveConfig ⟨"etc/../saved.toml".toList⟩
        sampleConfig = .ok root' ∧
      (Storage.ofNode root').loadConfig ⟨"etc/../saved.toml".toList⟩ = .ok sampleConfig := by
  let e := (Expression.label "it's".toList).joinLabel .or "\"a\\b\"".toList
  have hparse : Expression.parse e.display = .ok e := by
    refine Expression.parse_display_of_labelWord fun name hname => ?_
    have hnames : name ∈ ["it's".toList, "\"a\\b\"".toList] := hname
    simp only [List.mem_cons, List.not_mem_nil, or_false] at hnames
    rcases hnames with rfl | rfl
    all_goals exact ⟨by simp, by simp [isBlank], by simp, by simp [Expression.keywords]⟩
  have hselected := Reached.initial.step (.select _ hparse)
  have hlong := hselected.step (.setTimeout _ 18446744073709551615999)
  have hreached : sampleConfig.Reached := hlong.step (.continueAfterFailure _ true)
  have hwritable : (Node.folder [("etc".toList, .folder [])]).writeError?
    ⟨"etc/../saved.toml".toList⟩ =
      none := by
    with_unfolding_all rfl
  exact ⟨hreached, hwritable, loadConfig_saveConfig hreached hwritable⟩

/-- A time of more seconds than a number with a sign can tell is saved nevertheless. -/
theorem not_saveConfig_error_of_timeout :
    ¬ ∀ (c : Config) (root : Node) (p : Path), c.Reached →
      9223372036854775807 < c.timeoutSecs.toNat →
      ∃ e, root.saveConfig p c = .error e := by
  intro hclaim
  have hreached := Reached.initial.step (.setTimeout _ 9223372036854775808000)
  obtain ⟨e, he⟩ := hclaim _ (.folder []) ⟨"saved.toml".toList⟩ hreached (by decide)
  have hwritable : (Node.folder []).writeError? ⟨"saved.toml".toList⟩ = none := by
    with_unfolding_all rfl
  rw [Node.saveConfig, hwritable] at he
  cases he

end Config

end PlainSpec
