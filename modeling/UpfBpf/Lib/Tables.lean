import Mathlib.Data.List.AList
import Mathlib.Tactic.Common

/-!
# Tables of bounded size

Two kinds of table that an operating-system kernel hands to a program. A `BoundedMap` holds at most
`n` keys: an update of a present key always succeeds, that of a new one only while there is room,
and a deletion only finds what is there. A `SlotArray` has `n` slots that are each empty or taken,
and an index at or above `n` is refused. A refused operation is `none` and leaves the table as it
was.
-/

/-- A map of at most `n` keys. -/
structure BoundedMap (n : ℕ) (K V : Type) [DecidableEq K] where
  /-- The keys with their values. -/
  entries : AList fun _ : K => V
  /-- There are at most `n` of them. -/
  size_le : entries.keys.length ≤ n

namespace BoundedMap

variable {n : ℕ} {K V : Type} [DecidableEq K] {m m' : BoundedMap n K V} {k k' : K} {v : V}

/-- The map with no key. -/
def empty : BoundedMap n K V := ⟨∅, by simp⟩

/-- The value of a key. -/
def lookup (m : BoundedMap n K V) (k : K) : Option V := m.entries.lookup k

/-- The number of keys. -/
def size (m : BoundedMap n K V) : ℕ := m.entries.keys.length

/-- An insertion adds a key that is new, and no other. -/
theorem length_keys_insert (m : BoundedMap n K V) (k : K) (v : V) :
    (m.entries.insert k v).keys.length = if k ∈ m.entries then m.size else m.size + 1 := by
  rw [AList.keys_insert, List.length_cons]
  split_ifs with hk
  · have hpos : 0 < m.entries.keys.length := List.length_pos_of_mem (AList.mem_keys.1 hk)
    rw [List.length_erase_of_mem (AList.mem_keys.1 hk), size]
    omega
  · rw [List.erase_of_not_mem (fun h => hk (AList.mem_keys.2 h)), size]

/-- An insertion that is admitted leaves at most `n` keys. -/
theorem length_keys_insert_le (m : BoundedMap n K V) (k : K) (v : V)
    (h : k ∈ m.entries ∨ m.size < n) : (m.entries.insert k v).keys.length ≤ n := by
  rw [length_keys_insert]
  split_ifs with hk
  · exact m.size_le
  · exact h.resolve_left hk

/-- Sets the value of `k`. Refused when `k` is new and the map is full. -/
def update (m : BoundedMap n K V) (k : K) (v : V) : Option (BoundedMap n K V) :=
  if h : k ∈ m.entries ∨ m.size < n then
    some ⟨m.entries.insert k v, length_keys_insert_le m k v h⟩
  else none

/-- Removes `k`. Refused when `k` is not there. -/
def delete (m : BoundedMap n K V) (k : K) : Option (BoundedMap n K V) :=
  if k ∈ m.entries then
    some ⟨m.entries.erase k, by
      rw [AList.keys_erase]
      exact le_trans List.length_erase_le m.size_le⟩
  else none

@[simp] theorem lookup_empty (k : K) : (empty : BoundedMap n K V).lookup k = none := rfl

@[simp] theorem size_empty : (empty : BoundedMap n K V).size = 0 := rfl

/-- A key has a value exactly when it is among the entries. -/
theorem mem_entries_iff : k ∈ m.entries ↔ m.lookup k ≠ none := by
  rw [lookup, ne_eq, AList.lookup_eq_none, not_not]

/-! ## Updates -/

/-- What an update that is not refused leaves. -/
theorem entries_update (h : m.update k v = some m') : m'.entries = m.entries.insert k v := by
  unfold update at h
  split_ifs at h
  cases h
  rfl

theorem lookup_update_self (h : m.update k v = some m') : m'.lookup k = some v := by
  rw [lookup, entries_update h, AList.lookup_insert]

theorem lookup_update_ne (h : m.update k v = some m') (hne : k' ≠ k) :
    m'.lookup k' = m.lookup k' := by
  rw [lookup, entries_update h, AList.lookup_insert_ne hne, lookup]

/-- After an update, in one equation. -/
theorem lookup_update (h : m.update k v = some m') (k' : K) :
    m'.lookup k' = if k' = k then some v else m.lookup k' := by
  split_ifs with hk
  · rw [hk, lookup_update_self h]
  · exact lookup_update_ne h hk

/-- An update is refused exactly when the key is new and the map is full. -/
theorem update_eq_none_iff : m.update k v = none ↔ m.lookup k = none ∧ n ≤ m.size := by
  unfold update
  split_ifs with h
  · rw [mem_entries_iff] at h
    simp only [false_iff, not_and, not_le]
    exact fun h' => h.resolve_left (fun hne => hne h')
  · rw [mem_entries_iff, not_or, not_not, not_lt] at h
    simp only [true_iff]
    exact h

/-- With room for one more key, an update is not refused. -/
theorem exists_update_of_size_lt (h : m.size < n) (k : K) (v : V) :
    ∃ m', m.update k v = some m' := by
  rw [← Option.ne_none_iff_exists', ne_eq, update_eq_none_iff]
  exact fun h' => absurd h'.2 (not_le.2 h)

/-- The number of keys after an update. -/
theorem size_update (h : m.update k v = some m') :
    m'.size = if m.lookup k = none then m.size + 1 else m.size := by
  rw [size, entries_update h, length_keys_insert]
  by_cases hk : k ∈ m.entries
  · rw [if_pos hk, if_neg (mem_entries_iff.1 hk)]
  · rw [if_neg hk, if_pos (not_not.1 fun hn => hk (mem_entries_iff.2 hn))]

/-- An update adds at most one key. -/
theorem size_update_le (h : m.update k v = some m') : m'.size ≤ m.size + 1 := by
  rw [size_update h]
  split_ifs <;> omega

/-! ## Deletions -/

/-- What a deletion that is not refused leaves. -/
theorem entries_delete (h : m.delete k = some m') : m'.entries = m.entries.erase k := by
  unfold delete at h
  split_ifs at h
  cases h
  rfl

theorem lookup_delete_self (h : m.delete k = some m') : m'.lookup k = none := by
  rw [lookup, entries_delete h, AList.lookup_erase]

theorem lookup_delete_ne (h : m.delete k = some m') (hne : k' ≠ k) :
    m'.lookup k' = m.lookup k' := by
  rw [lookup, entries_delete h, AList.lookup_erase_ne hne, lookup]

/-- After a deletion, in one equation. -/
theorem lookup_delete (h : m.delete k = some m') (k' : K) :
    m'.lookup k' = if k' = k then none else m.lookup k' := by
  split_ifs with hk
  · rw [hk, lookup_delete_self h]
  · exact lookup_delete_ne h hk

/-- A deletion that is not refused takes one key away. -/
theorem size_delete (h : m.delete k = some m') : m'.size = m.size - 1 := by
  have hk : k ∈ m.entries := by
    by_contra hk
    rw [delete, if_neg hk] at h
    cases h
  rw [size, entries_delete h, AList.keys_erase, List.length_erase_of_mem (AList.mem_keys.1 hk),
    size]

/-- A deletion is refused exactly when the key is not there. -/
theorem delete_eq_none_iff : m.delete k = none ↔ m.lookup k = none := by
  unfold delete
  split_ifs with h
  · rw [mem_entries_iff] at h
    simpa using h
  · rw [mem_entries_iff, not_not] at h
    simpa using h

end BoundedMap

/-- An array of `n` slots, each empty or taken. -/
structure SlotArray (n : ℕ) (V : Type) where
  /-- What each slot holds. -/
  slots : Fin n → Option V

namespace SlotArray

variable {n : ℕ} {V : Type} {a a' : SlotArray n V} {i j : ℕ} {v : Option V}

/-- The array with every slot empty. -/
def empty : SlotArray n V := ⟨fun _ => none⟩

/-- What the slot holds; no slot, nothing held. -/
def get (a : SlotArray n V) (i : ℕ) : Option V := if h : i < n then a.slots ⟨i, h⟩ else none

/-- Sets a slot. Refused when there is no such slot. -/
def set (a : SlotArray n V) (i : ℕ) (v : Option V) : Option (SlotArray n V) :=
  if h : i < n then some ⟨Function.update a.slots ⟨i, h⟩ v⟩ else none

/-- Arrays are equal when their slots are. -/
theorem ext (h : ∀ i, a.get i = a'.get i) : a = a' := by
  obtain ⟨f⟩ := a
  obtain ⟨g⟩ := a'
  congr 1
  funext i
  simpa [get] using h i.val

@[simp] theorem get_empty (i : ℕ) : (empty : SlotArray n V).get i = none := by simp [get, empty]

/-- After a slot is set, in one equation. -/
theorem get_set (h : a.set i v = some a') (j : ℕ) : a'.get j = if j = i then v else a.get j := by
  unfold set at h
  split_ifs at h with hi
  cases h
  unfold get
  by_cases hj : j < n
  · simp [hj, Function.update_apply]
  · have hne : j ≠ i := fun e => hj (e ▸ hi)
    simp [hj, hne]

theorem get_set_self (h : a.set i v = some a') : a'.get i = v := by rw [get_set h, if_pos rfl]

theorem get_set_ne (h : a.set i v = some a') (hne : j ≠ i) : a'.get j = a.get j := by
  rw [get_set h, if_neg hne]

/-- Setting a slot is refused exactly for an index out of range. -/
theorem set_eq_none_iff : a.set i v = none ↔ n ≤ i := by
  unfold set
  split_ifs with h
  · simpa using h
  · simpa using h

/-- A slot inside the array can be set. -/
theorem exists_set_of_lt (h : i < n) (a : SlotArray n V) (v : Option V) :
    ∃ a', a.set i v = some a' := by
  rw [← Option.ne_none_iff_exists', ne_eq, set_eq_none_iff, not_le]
  exact h

/-- A slot that was set is inside the array. -/
theorem lt_of_set (h : a.set i v = some a') : i < n := by
  by_contra hn
  rw [set_eq_none_iff.2 (not_lt.1 hn)] at h
  cases h

end SlotArray
