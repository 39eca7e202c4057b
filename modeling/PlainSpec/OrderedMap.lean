/-!
# Maps that remember the order of their keys

A map is the list of its entries in the order in which their keys were first put in.  The type
carries the fact that no key occurs twice.

## Main definitions

* `OrderedMap`: entries with distinct keys.
* `OrderedMap.insert`: a new key goes to the end, a known key keeps its place and takes the new
  value.
* `OrderedMap.agreesBy`: equality of maps that looks at keys and values and not at their order.

## Main results

* `OrderedMap.keys_insert`: the keys after an insertion.
* `OrderedMap.entries_ofList`: distinct keys are entered as they are listed.
-/

namespace PlainSpec

/-- A finite map with the order in which its keys were first put in. -/
structure OrderedMap (α β : Type) where
  /-- The entries, oldest key first. -/
  entries : List (α × β)
  /-- No key has two entries. -/
  nodup : (entries.map Prod.fst).Nodup
deriving DecidableEq

namespace OrderedMap

variable {α β γ : Type}

/-- The map without entries. -/
def empty : OrderedMap α β := ⟨[], List.nodup_nil⟩

instance : Inhabited (OrderedMap α β) := ⟨empty⟩

@[ext] theorem ext {m n : OrderedMap α β} (h : m.entries = n.entries) : m = n := by
  cases m; cases n; simp_all

/-- The keys, oldest first. -/
def keys (m : OrderedMap α β) : List α := m.entries.map Prod.fst

/-- The values, in the order of their keys. -/
def values (m : OrderedMap α β) : List β := m.entries.map Prod.snd

/-- The number of entries. -/
def size (m : OrderedMap α β) : Nat := m.entries.length

/-! ## Looking up and putting in -/

section Keyed

variable [DecidableEq α]

/-- The value of a key. -/
def get? (m : OrderedMap α β) (key : α) : Option β := m.entries.lookup key

/-- Puts a value under a key of a list of entries: in the place of the key if it is known, and at
the end otherwise. -/
def put (key : α) (value : β) : List (α × β) → List (α × β)
  | [] => [(key, value)]
  | (k, v) :: rest => if k = key then (k, value) :: rest else (k, v) :: put key value rest

theorem map_fst_put (key : α) (value : β) (entries : List (α × β)) :
    (put key value entries).map Prod.fst =
      if key ∈ entries.map Prod.fst then entries.map Prod.fst
      else entries.map Prod.fst ++ [key] := by
  induction entries with
  | nil => simp [put]
  | cons entry rest ih =>
    obtain ⟨k, v⟩ := entry
    by_cases h : k = key
    · simp [put, h]
    · simp only [put, h, if_false, List.map_cons, ih, List.mem_cons, Ne.symm h, false_or]
      split <;> simp

/-- Puts a value under a key. -/
def insert (m : OrderedMap α β) (key : α) (value : β) : OrderedMap α β where
  entries := put key value m.entries
  nodup := by
    rw [map_fst_put]
    split
    · exact m.nodup
    · rename_i h
      simp only [List.nodup_append, m.nodup, true_and]
      refine ⟨by simp, fun a ha b hb => ?_⟩
      rintro rfl
      simp only [List.mem_singleton] at hb
      exact h (hb ▸ ha)

/-- **A known key keeps its place, a new key goes to the end.** -/
theorem keys_insert (m : OrderedMap α β) (key : α) (value : β) :
    (m.insert key value).keys = if key ∈ m.keys then m.keys else m.keys ++ [key] :=
  map_fst_put key value m.entries

/-- The map with the given entries put in one after the other: a repeated key keeps its first place
and its last value. -/
def ofList (entries : List (α × β)) : OrderedMap α β :=
  entries.foldl (fun m entry => m.insert entry.1 entry.2) empty

theorem put_of_not_mem {key : α} {value : β} {entries : List (α × β)}
    (h : key ∉ entries.map Prod.fst) : put key value entries = entries ++ [(key, value)] := by
  induction entries with
  | nil => rfl
  | cons entry rest ih =>
    obtain ⟨k, v⟩ := entry
    simp only [List.map_cons, List.mem_cons, not_or] at h
    simp [put, Ne.symm h.1, ih h.2]

theorem entries_foldl_insert (entries : List (α × β)) (m : OrderedMap α β)
    (h : (m.keys ++ entries.map Prod.fst).Nodup) :
    (entries.foldl (fun m entry => m.insert entry.1 entry.2) m).entries = m.entries ++ entries := by
  induction entries generalizing m with
  | nil => simp
  | cons entry rest ih =>
    obtain ⟨k, v⟩ := entry
    have hk : k ∉ m.keys := by
      intro hmem
      have := (List.nodup_append.1 h).2.2 k hmem k (by simp)
      exact this rfl
    have hentries : (m.insert k v).entries = m.entries ++ [(k, v)] := put_of_not_mem hk
    rw [List.foldl_cons, ih, hentries]
    · simp
    · rw [keys_insert, if_neg hk]
      simpa [List.append_assoc] using h

/-- **Distinct keys are entered as they are listed.** -/
theorem entries_ofList {entries : List (α × β)} (h : (entries.map Prod.fst).Nodup) :
    (ofList entries).entries = entries := by
  rw [ofList, entries_foldl_insert entries empty (by simpa [empty, keys] using h)]
  simp [empty]

/-- Whether two maps have the same keys with equal values, in any order. -/
def agreesBy (same : β → β → Bool) (m n : OrderedMap α β) : Bool :=
  m.size == n.size &&
    m.entries.all fun entry =>
      match n.get? entry.1 with
      | some value => same entry.2 value
      | none => false

end Keyed

end OrderedMap

end PlainSpec
