import PlainSpec.Proofs.Canonical.Lines

/-!
# Blocks of data that are written and read again

The lines that are written for a block of data are read as a block by themselves.  Tables, matrices,
lists and texts are what they were.

Pairs may be lost.  Their cells are cut at colons, where stretches without a character do not count
but stretches of blanks do: the cell `a: :` is a key `a` with an empty value.  It is written as `a:
`, and behind the colon nothing is left when the blanks around the cell are dropped.  Such a cell is
no pair, and one that is none makes a list of all of them.

## Main results

* `Grammar.keyValue?_trim_pairCell`: the cell of a pair with an empty part is no pair.
* `Canonical.exists_list_of_unfilled`: pairs with an empty part are read back as a list of their
  cells.
* `Canonical.data_reads_back`: a block is read back as it was exactly if no pair has an empty part.
-/

namespace PlainSpec

open PlainSpec.Parser

/-! ## Pairs with an empty part -/

theorem Text.trimEnd_cons {c : Char} (hc : isBlank c = false) (t : Text) :
    Text.trimEnd (c :: t) = c :: Text.trimEnd t := by
  rw [← Text.trim_cons hc, Text.trim, Text.trimStart_cons hc]

namespace Grammar

variable {pair : Text × Text}

/-- The cell of a pair loses blanks at its end only. -/
theorem trim_pairCell_eq (hkey : pair.1.Neat) :
    (pairCell pair).trim = pair.1 ++ ':' :: Text.trimEnd (' ' :: pair.2) := by
  have hcell : pairCell pair = pair.1 ++ ':' :: ' ' :: pair.2 := by simp [pairCell]
  have hcolon : Text.trimEnd (':' :: ' ' :: pair.2) = ':' :: Text.trimEnd (' ' :: pair.2) :=
    Text.trimEnd_cons rfl _
  rw [hcell]
  cases hfirst : pair.1 with
  | nil => exact Text.trim_cons rfl _
  | cons c rest =>
    have hblank : isBlank c = false := hkey.head (by rw [hfirst]; rfl)
    rw [List.cons_append, Text.trim_cons hblank,
      Text.trimEnd_append (by rw [hcolon]; exact List.cons_ne_nil _ _), hcolon]
    rfl

/-- **The cell of a pair with an empty part is no pair.** -/
theorem keyValue?_trim_pairCell (hkey : pair.1.Neat ∧ ':' ∉ pair.1) (hvalue : ':' ∉ pair.2)
    (hempty : pair.1 = [] ∨ pair.2 = []) : keyValue? (pairCell pair).trim = none := by
  have hbehind : ':' ∉ Text.trimEnd (' ' :: pair.2) := by
    obtain ⟨b, hb, -⟩ := Text.exists_trimEnd (' ' :: pair.2)
    intro hmem
    have hmem' : ':' ∈ ' ' :: pair.2 := hb ▸ List.mem_append_left b hmem
    simp [hvalue] at hmem'
  have hsplit : (pairCell pair).trim.splitOn ':' = [pair.1, Text.trimEnd (' ' :: pair.2)] := by
    rw [trim_pairCell_eq hkey.1, List.splitOn_append_cons_self_of_not_mem hkey.2,
      List.splitOn_eq_singleton hbehind]
  -- an empty part does not count, so one is left at most
  unfold keyValue?
  rw [hsplit]
  rcases hempty with h | h
  · cases hrest : Text.trimEnd (' ' :: pair.2) <;> simp [h]
  · have hnil : Text.trimEnd [' '] = [] := rfl
    cases hfirst : pair.1 <;> simp [h, hnil]

/-- Cells of pairs, one of which is none, are read as a list. -/
theorem readRows_of_unfilled {pairs : OrderedMap Text Text} {rows : Several TableRow}
    (hcells : rows.toList.map TableRow.cells =
      (pairs.entries.map fun pair => (pairCell pair).trim).map ([·]))
    (hparts : ∀ pair ∈ pairs.entries, (pair.1.Neat ∧ ':' ∉ pair.1) ∧ ':' ∉ pair.2)
    (hunfilled : ¬ (Data.keyValues pairs).Filled) :
    readRows rows = .ok (.list (pairs.entries.map fun pair => (pairCell pair).trim)) := by
  refine readRows_eq_ok.2 (.inr ⟨readMatrix_of_singles hcells, .inr ⟨fun d hd => ?_, .inr
    ⟨fun d hd => hunfilled ?_, readList_eq_ok.2 ⟨_, rfl, hcells⟩⟩⟩⟩)
  · obtain ⟨first, second, third, rest, hsecond, hhyphens⟩ := separator_of_readTable hcells hd
    have hmem : second ∈ pairs.entries.map fun pair => (pairCell pair).trim := by simp [hsecond]
    obtain ⟨pair, hpair, rfl⟩ := List.mem_map.1 hmem
    rw [trim_pairCell_eq (hparts pair hpair).1.1] at hhyphens
    simp [isSeparator] at hhyphens
  · obtain ⟨cells, found, -, hsingle, hfound⟩ := readKeyValues_eq_ok.1 hd
    rw [hcells] at hsingle
    obtain rfl := (List.map_inj_right fun _ _ h => (List.cons.inj h).1).1 hsingle
    rintro _ ⟨⟩ pair hpair
    by_contra hempty
    have hnone := keyValue?_trim_pairCell (hparts pair hpair).1 (hparts pair hpair).2
      ((not_and_or.1 hempty).imp not_not.1 not_not.1)
    have hmem : none ∈ found.map some := by
      rw [← hfound, ← hnone]
      exact List.mem_map_of_mem (List.mem_map_of_mem hpair)
    simp at hmem

end Grammar

namespace Canonical

open Grammar

/-! ## Written blocks -/

/-- What is read from the lines of a block by itself, at their start. -/
theorem exists_read_of_reads {d d' : Data} (hone : Row.OneLine (Canonical.data (some d)))
    (hsolid : Row.Solid (Canonical.data (some d)))
    (hreads : Reads (Grammar.data .reqsml) (d.rows.map .text) [.blank] (· = d')) :
    ∃ n, n.atEnd = true ∧
      Grammar.data .reqsml (Cursor.ofText (Row.render (Canonical.data (some d)))) = .ok d' n := by
  have hat := Cursor.at_ofText_render_all hone hsolid
  obtain ⟨_, n, hread, rfl, hn⟩ := hreads.indent.blank_right _ (by rwa [List.append_nil])
  exact ⟨n, hn.atEnd, hread⟩

/-- The parts of pairs that were read stand between pipes and colons. -/
theorem parts_of_legible {pairs : OrderedMap Text Text} (h : (Data.keyValues pairs).Legible) :
    pairs.entries ≠ [] ∧ ∀ pair ∈ pairs.entries,
      (pair.1.Neat ∧ '|' ∉ pair.1 ∧ ':' ∉ pair.1) ∧ pair.2.Neat ∧ '|' ∉ pair.2 ∧ ':' ∉ pair.2 := by
  generalize hd : Data.keyValues pairs = d at h
  cases h with
  | text body _ _ _ => cases hd
  | rows rows hcells hread =>
    subst hd
    rcases readRows_eq_ok.1 hread with hd | ⟨-, hd | ⟨-, hd | ⟨-, hd⟩⟩⟩
    · obtain ⟨_, _, _, _, _, _, heq, -⟩ := readMatrix_eq_ok.1 hd
      cases heq
    · obtain ⟨_, _, _, _, _, heq⟩ := readTable_eq_ok.1 hd
      cases heq
    · exact pair_parts hcells hd
    · obtain ⟨_, heq, -⟩ := readList_eq_ok.1 hd
      cases heq

/-- **Pairs with an empty part are read back as a list of their cells.** -/
theorem exists_list_of_unfilled {pairs : OrderedMap Text Text}
    (hlegible : (Data.keyValues pairs).Legible) (hunfilled : ¬ (Data.keyValues pairs).Filled) :
    ∃ n, n.atEnd = true ∧
      Grammar.data .reqsml (Cursor.ofText (Row.render (Canonical.data (some (.keyValues pairs))))) =
        .ok (.list (pairs.entries.map fun pair => (pairCell pair).trim)) n := by
  have hlines : ∃ lines : List (Text × List Text),
      (Data.keyValues pairs).rows = lines.map Prod.fst ∧ lines ≠ [] ∧
        (∀ line ∈ lines, Cuts line.1 line.2) ∧
        ∀ found : Several TableRow, found.toList.map TableRow.cells = lines.map Prod.snd →
          readRows found = .ok (.list (pairs.entries.map fun pair => (pairCell pair).trim)) := by
    obtain ⟨hne, hparts⟩ := parts_of_legible hlegible
    refine ⟨pairs.entries.map fun pair => (['|', ' '] ++ pair.1 ++ [':', ' '] ++
      Aligned.padTo (Aligned.longestPair pairs + 1 - pair.1.length) pair.2 ++ ['|'],
      [(pairCell pair).trim]), ?_, by simpa using hne, ?_, fun found hfound => ?_⟩
    · simp [Data.rows, Aligned.keyValues]
    · intro line hline
      obtain ⟨pair, hpair, rfl⟩ := List.mem_map.1 hline
      obtain ⟨⟨hkey, hkeyPipe, -⟩, hvalue, hvaluePipe, -⟩ := hparts pair hpair
      exact cuts_pairLine ⟨hkey.oneLine, hkeyPipe⟩ ⟨hvalue.oneLine, hvaluePipe⟩ _
    · refine readRows_of_unfilled (by rw [hfound, List.map_map, List.map_map]; rfl) ?_ hunfilled
      intro pair hpair
      obtain ⟨⟨hkey, -, hkeyColon⟩, -, -, hvalueColon⟩ := hparts pair hpair
      exact ⟨⟨hkey, hkeyColon⟩, hvalueColon⟩
  obtain ⟨lines, hrows, hne, hcuts, hread⟩ := hlines
  have hone : Row.OneLine (Canonical.data (some (.keyValues pairs))) := by
    refine oneLine_dataRows ?_
    rw [hrows]
    exact List.forall_mem_map.2 fun line hline => (hcuts line hline).oneLine
  refine exists_read_of_reads hone ?_ ?_
  · obtain ⟨line, rest, rfl⟩ := List.exists_cons_of_ne_nil hne
    simpa using solid_dataRows hrows (hcuts line List.mem_cons_self).trim_ne_nil []
  · rw [hrows]
    exact reads_lines hne hcuts hread Row.solid_nil Row.next_nil

/-- **A block of data is read back as it was** exactly if no key and no value of it is empty.  Pairs
with an empty part are read back as a list of their cells. -/
theorem data_reads_back {c m : Cursor} {d : Data} (hc : c.Sound)
    (h : Grammar.data .reqsml c = .ok d m) :
    ((∃ n, n.atEnd = true ∧
      Grammar.data .reqsml (Cursor.ofText (Row.render (Canonical.data (some d)))) = .ok d n) ↔
        d.Filled) ∧
    (¬ d.Filled → ∃ pairs n, d = .keyValues pairs ∧ n.atEnd = true ∧
      Grammar.data .reqsml (Cursor.ofText (Row.render (Canonical.data (some d)))) =
        .ok (.list (pairs.entries.map fun pair => (pairCell pair).trim)) n) := by
  have hlegible := yields_data _ _ _ hc h
  by_cases hfilled : d.Filled
  · have hleg : ∀ a, some d = some a → a.Legible := by
      rintro _ ⟨⟩
      exact hlegible
    have hfill : ∀ a, some d = some a → a.Filled := by
      rintro _ ⟨⟩
      exact hfilled
    have hsolid : Row.Solid (Canonical.data (some d)) := by
      simpa using solid_data hleg hfill Row.solid_nil
    have hat := Cursor.at_ofText_render_all (oneLine_data hleg hfill) hsolid
    obtain ⟨_, n, hread, rfl, hn⟩ := reads_data hleg hfill Row.next_nil _ (by rwa [List.append_nil])
    rcases whenAhead_eq_ok.1 hread with ⟨-, a, ha, heq⟩ | ⟨-, heq, -⟩
    · cases heq
      exact ⟨⟨fun _ => hfilled, fun _ => ⟨n, hn.atEnd, ha⟩⟩, fun hno => absurd hfilled hno⟩
    · cases heq
  · obtain ⟨pairs, rfl⟩ : ∃ pairs, d = .keyValues pairs := by
      by_contra hno
      exact hfilled fun pairs heq => absurd ⟨pairs, heq⟩ hno
    obtain ⟨n, hend, hlist⟩ := exists_list_of_unfilled hlegible hfilled
    refine ⟨⟨?_, fun h => absurd h hfilled⟩, fun _ => ⟨pairs, n, rfl, hend, hlist⟩⟩
    rintro ⟨n', -, hback⟩
    rw [hlist] at hback
    cases hback

/-- A pair and a repeated key. -/
theorem data_reads_back_pairs :
    ∃ c d m, c.Sound ∧ Grammar.data .reqsml c = .ok d m ∧
      d = .keyValues (.ofList [("a b".toList, "3".toList), ("c".toList, "2".toList)]) ∧ d.Filled ∧
      ∃ n, n.atEnd = true ∧
        Grammar.data .reqsml (Cursor.ofText (Row.render (Canonical.data (some d)))) = .ok d n := by
  let c := Cursor.ofText "|a b: 1|\n| c:2|\n|a b::3|".toList
  let d : Data := .keyValues (.ofList [("a b".toList, "3".toList), ("c".toList, "2".toList)])
  have hread : Grammar.data .reqsml c = .ok d ⟨c.rest.reverse, []⟩ := by with_unfolding_all rfl
  have hfilled : d.Filled := by
    intro pairs hpairs
    cases (Data.keyValues.inj hpairs : _ = pairs)
    decide
  have hback := (data_reads_back (Cursor.sound_ofText _) hread).1.2 hfilled
  exact ⟨c, d, _, Cursor.sound_ofText _, hread, rfl, hfilled, hback⟩

/-- **A value of blanks is lost**: what is written for the pair is a list when it is read again. -/
theorem not_data_reads_back_blank :
    ∃ d, (Grammar.data .reqsml (Cursor.ofText "|a: :|".toList)).result = .ok d ∧
      d = .keyValues (.ofList [("a".toList, [])]) ∧
      Row.render (Canonical.data (some d)) = "  | a:  |\n\n".toList ∧
      (Grammar.data .reqsml (Cursor.ofText (Row.render (Canonical.data (some d))))).result =
        .ok (.list ["a:".toList]) := by
  refine ⟨.keyValues (.ofList [("a".toList, [])]), ?_, rfl, ?_, ?_⟩
  all_goals with_unfolding_all rfl

end Canonical

end PlainSpec
