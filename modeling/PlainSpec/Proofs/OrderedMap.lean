import Mathlib.Data.List.Induction
import Mathlib.Data.List.Nodup
import Mathlib.Data.List.Perm.Subperm
import PlainSpec.OrderedMap

/-!
# Maps by their keys

What is put in under a key is found there, until something else is put in under the same key.  So a
map that is made of a list has each key of the list once, in the order of first occurrences, and
with it the value of the last occurrence.

When keys are changed, keys that become equal are merged.  The change keeps the number of entries
exactly when no two keys become equal, and then it changes entry by entry.  This stays so over a row
of changes, of which only the composition matters.

## Main definitions

* `firstOccurrences`: the distinct members of a list, in their order.
* `OrderedMap.mapEntries`: all keys and values changed.

## Main results

* `OrderedMap.keys_ofList`, `OrderedMap.get?_ofList_eq_some`: keys and values of a map made of a
  list.
* `OrderedMap.entries_foldl_mapEntries`, `OrderedMap.size_foldl_mapEntries`: a row of changes.
-/

namespace PlainSpec

/-! ## First occurrences -/

section First

variable {α β : Type} [DecidableEq α] [DecidableEq β]

/-- The distinct members of a list, in the order in which they occur first. -/
def firstOccurrences (as : List α) : List α := as.eraseDups

theorem mem_firstOccurrences {as : List α} {a : α} : a ∈ firstOccurrences as ↔ a ∈ as :=
  List.mem_eraseDups

theorem firstOccurrences_concat (as : List α) (a : α) :
    firstOccurrences (as ++ [a]) = if a ∈ as then firstOccurrences as
      else firstOccurrences as ++ [a] := by
  rw [firstOccurrences, List.eraseDups_append]
  by_cases h : a ∈ as <;> simp [List.removeAll, h, List.eraseDups_cons, firstOccurrences]

theorem nodup_firstOccurrences (as : List α) : (firstOccurrences as).Nodup := by
  induction as using List.reverseRecOn with
  | nil => simp [firstOccurrences]
  | append_singleton as a ih =>
    rw [firstOccurrences_concat]
    split
    · exact ih
    · rename_i ha
      rw [← List.concat_eq_append]
      exact ih.concat (by rwa [mem_firstOccurrences])

theorem firstOccurrences_eq_self {as : List α} (h : as.Nodup) : firstOccurrences as = as := by
  induction as using List.reverseRecOn with
  | nil => rfl
  | append_singleton as a ih =>
    have ha : a ∉ as := fun hmem => (List.nodup_append.1 h).2.2 a hmem a (by simp) rfl
    rw [firstOccurrences_concat, if_neg ha, ih h.of_append_left]

/-- Every member is a first occurrence exactly when none is repeated. -/
theorem length_firstOccurrences_eq_iff {as : List α} :
    (firstOccurrences as).length = as.length ↔ as.Nodup := by
  constructor
  · intro h
    have hsub : (firstOccurrences as).Subperm as :=
      (nodup_firstOccurrences as).subperm fun a ha => mem_firstOccurrences.1 ha
    exact (hsub.perm_of_length_le (by omega)).nodup_iff.1 (nodup_firstOccurrences as)
  · intro h
    rw [firstOccurrences_eq_self h]

/-- First occurrences may be taken before a change as well. -/
theorem firstOccurrences_map_firstOccurrences (f : α → β) (as : List α) :
    firstOccurrences ((firstOccurrences as).map f) = firstOccurrences (as.map f) := by
  induction as using List.reverseRecOn with
  | nil => rfl
  | append_singleton as a ih =>
    rw [firstOccurrences_concat, List.map_append, List.map_singleton, firstOccurrences_concat]
    by_cases ha : a ∈ as
    · rw [if_pos ha, if_pos (List.mem_map_of_mem ha), ih]
    · have hmem : f a ∈ (firstOccurrences as).map f ↔ f a ∈ as.map f := by
        simp [mem_firstOccurrences]
      rw [if_neg ha, List.map_append, List.map_singleton, firstOccurrences_concat, ih]
      simp only [hmem]

end First

namespace OrderedMap

section Keyed

variable {α β σ : Type} [DecidableEq α]

/-! ## Looking up -/

theorem get?_eq_none_iff {m : OrderedMap α β} {key : α} : m.get? key = none ↔ key ∉ m.keys := by
  simp only [get?, List.lookup_eq_none_iff, keys, List.mem_map, not_exists, not_and]
  constructor
  · rintro h entry hentry rfl
    simpa using h entry hentry
  · intro h entry hentry
    simpa using fun heq : key = entry.1 => h entry hentry heq.symm

/-- An entry is looked up by its key, if no other entry has it. -/
theorem lookup_of_mem {κ : Type} [BEq κ] [LawfulBEq κ] {entries : List (κ × β)}
    (distinct : (entries.map Prod.fst).Nodup) {key : κ} {value : β} (h : (key, value) ∈ entries) :
    entries.lookup key = some value := by
  induction entries with
  | nil => cases h
  | cons entry entries ih =>
    obtain ⟨hfirst, hrest⟩ := List.nodup_cons.1 distinct
    rcases List.mem_cons.1 h with rfl | h
    · exact List.lookup_cons_self
    · have hne : key ≠ entry.1 := by
        rintro rfl
        exact hfirst (List.mem_map.2 ⟨_, h, rfl⟩)
      rw [List.lookup_cons, beq_false_of_ne hne]
      exact ih hrest h

/-- A map gives back what is entered in it. -/
theorem get?_of_mem (m : OrderedMap α β) {key : α} {value : β} (h : (key, value) ∈ m.entries) :
    m.get? key = some value :=
  lookup_of_mem m.nodup h

/-- What is found in a map is entered in it. -/
theorem mem_of_get? {m : OrderedMap α β} {key : α} {value : β} (h : m.get? key = some value) :
    (key, value) ∈ m.entries := by
  rw [get?, List.lookup_eq_some_iff] at h
  obtain ⟨before, after, hentries, -⟩ := h
  simp [hentries]

theorem lookup_put (key k : α) (value : β) (entries : List (α × β)) :
    (put key value entries).lookup k = if k = key then some value else entries.lookup k := by
  induction entries with
  | nil =>
    rw [put, List.lookup_cons]
    split <;> simp_all
  | cons entry rest ih =>
    obtain ⟨k', v⟩ := entry
    rw [put]
    by_cases hk' : k' = key
    · subst hk'
      rw [if_pos rfl, List.lookup_cons, List.lookup_cons]
      split <;> simp_all
    · rw [if_neg hk', List.lookup_cons, List.lookup_cons, ih]
      split <;> simp_all

/-- **What is put in under a key is found there**, and nothing changes elsewhere. -/
theorem get?_insert (m : OrderedMap α β) (key k : α) (value : β) :
    (m.insert key value).get? k = if k = key then some value else m.get? k :=
  lookup_put key k value m.entries

/-! ## Maps made of a list -/

theorem ofList_concat (entries : List (α × β)) (entry : α × β) :
    ofList (entries ++ [entry]) = (ofList entries).insert entry.1 entry.2 := by
  simp [ofList, List.foldl_append]

/-- **Keys are in the order of their first occurrences.** -/
theorem keys_ofList (entries : List (α × β)) :
    (ofList entries).keys = firstOccurrences (entries.map Prod.fst) := by
  induction entries using List.reverseRecOn with
  | nil => rfl
  | append_singleton entries entry ih =>
    rw [ofList_concat, keys_insert, ih, List.map_append, List.map_singleton,
      firstOccurrences_concat]
    simp only [mem_firstOccurrences]

theorem get?_ofList (entries : List (α × β)) (key : α) :
    (ofList entries).get? key = entries.reverse.lookup key := by
  induction entries using List.reverseRecOn with
  | nil => rfl
  | append_singleton entries entry ih =>
    rw [ofList_concat, get?_insert, ih, List.reverse_append, List.reverse_singleton,
      List.singleton_append, List.lookup_cons]
    by_cases h : key = entry.1
    · simp [h]
    · simp [h, beq_false_of_ne h]

/-- **A key has the value of its last occurrence**: behind it the key does not occur. -/
theorem get?_ofList_eq_some {entries : List (α × β)} {key : α} {value : β} :
    (ofList entries).get? key = some value ↔
      ∃ before after, entries = before ++ (key, value) :: after ∧ key ∉ after.map Prod.fst := by
  rw [get?_ofList, List.lookup_eq_some_iff]
  constructor
  · rintro ⟨after, before, heq, hafter⟩
    refine ⟨before.reverse, after.reverse, ?_, ?_⟩
    · rw [← List.reverse_inj, heq]
      simp
    · intro hmem
      obtain ⟨entry, hentry, hkey⟩ := List.mem_map.1 hmem
      simpa [hkey] using hafter entry (List.mem_reverse.1 hentry)
  · rintro ⟨before, after, rfl, hafter⟩
    refine ⟨after.reverse, before.reverse, by simp, fun entry hentry => ?_⟩
    have hne : key ≠ entry.1 := by
      rintro rfl
      exact hafter (List.mem_map_of_mem (List.mem_reverse.1 hentry))
    simpa using hne

/-- Every entry was put in. -/
theorem mem_of_mem_ofList {entries : List (α × β)} {entry : α × β}
    (h : entry ∈ (ofList entries).entries) :
    entry ∈ entries := by
  obtain ⟨before, after, rfl, -⟩ := get?_ofList_eq_some.1 (get?_of_mem _ h)
  simp

theorem entries_ofList_ne_nil {entries : List (α × β)} (h : entries ≠ []) :
    (ofList entries).entries ≠ [] := by
  obtain ⟨entry, hentry⟩ := List.exists_mem_of_ne_nil entries h
  have hkey : entry.1 ∈ (ofList entries).keys := by
    rw [keys_ofList, mem_firstOccurrences]
    exact List.mem_map_of_mem hentry
  intro hnil
  rw [keys, hnil] at hkey
  cases hkey

/-! ## Changes of all keys and values -/

/-- The map with every key and every value changed.  Of keys that become equal the first one keeps
its place, and the last one its value. -/
def mapEntries (f : α → α) (g : β → β) (m : OrderedMap α β) : OrderedMap α β :=
  .ofList (m.entries.map (Prod.map f g))

theorem keys_mapEntries (f : α → α) (g : β → β) (m : OrderedMap α β) :
    (m.mapEntries f g).keys = firstOccurrences (m.keys.map f) := by
  rw [mapEntries, keys_ofList, keys, List.map_map, List.map_map]
  rfl

theorem entries_mapEntries {f : α → α} (g : β → β) {m : OrderedMap α β} (h : (m.keys.map f).Nodup) :
    (m.mapEntries f g).entries = m.entries.map (Prod.map f g) := by
  refine entries_ofList ?_
  rw [keys, List.map_map] at h
  rwa [List.map_map]

variable (f : σ → α → α) (g : σ → β → β)

/-- **Keys after a row of changes** are the first occurrences of the keys that all changes make. -/
theorem keys_foldl_mapEntries (steps : List σ) (m : OrderedMap α β) :
    (steps.foldl (fun m step => m.mapEntries (f step) (g step)) m).keys =
      firstOccurrences (m.keys.map fun key => steps.foldl (fun key step => f step key) key) := by
  induction steps generalizing m with
  | nil =>
    have hnodup : m.keys.Nodup := m.nodup
    simp only [List.foldl_nil, List.map_id', firstOccurrences_eq_self hnodup]
  | cons step steps ih =>
    -- what the first change merges would be merged by all of them
    rw [List.foldl_cons, ih, keys_mapEntries, firstOccurrences_map_firstOccurrences, List.map_map]
    rfl

/-- **Keys that stay apart over a row of changes** are changed entry by entry. -/
theorem entries_foldl_mapEntries {steps : List σ} {m : OrderedMap α β}
    (h : (m.keys.map fun key => steps.foldl (fun key step => f step key) key).Nodup) :
    (steps.foldl (fun m step => m.mapEntries (f step) (g step)) m).entries =
      m.entries.map (Prod.map (fun key => steps.foldl (fun key step => f step key) key)
        fun value => steps.foldl (fun value step => g step value) value) := by
  induction steps generalizing m with
  | nil => simp
  | cons step steps ih =>
    simp only [List.foldl_cons] at h ⊢
    have hcomp : ((m.keys.map (f step)).map fun key =>
        steps.foldl (fun key step => f step key) key).Nodup := by
      rw [List.map_map]
      exact h
    have hentries := entries_mapEntries (g step) (List.Nodup.of_map _ hcomp)
    have hkeys : (m.mapEntries (f step) (g step)).keys = m.keys.map (f step) := by
      rw [keys_mapEntries, firstOccurrences_eq_self (List.Nodup.of_map _ hcomp)]
    rw [ih (by rw [hkeys]; exact hcomp), hentries, List.map_map]
    rfl

/-- **Entries are lost exactly when keys become equal.** -/
theorem size_foldl_mapEntries (steps : List σ) (m : OrderedMap α β) :
    (steps.foldl (fun m step => m.mapEntries (f step) (g step)) m).size = m.size ↔
      (m.keys.map fun key => steps.foldl (fun key step => f step key) key).Nodup := by
  have hsize (n : OrderedMap α β) : n.size = n.keys.length := by
    rw [size, keys, List.length_map]
  rw [hsize, hsize, keys_foldl_mapEntries, ← length_firstOccurrences_eq_iff, List.length_map]

end Keyed

end OrderedMap

end PlainSpec
