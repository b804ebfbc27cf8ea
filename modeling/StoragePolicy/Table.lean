/-!
# Tables

A finite map as a list of entries with one entry per key. Putting a key again
replaces its value where it stands, so the entries stay in the order in which
their keys first came.

## Main definitions

* `Table`: The entries.
* `Table.find?`, `Table.put`, `Table.erase`: Looking up, setting and removing.
* `Table.take`: Removing with an answer.

## Theorems

* `Table.find?_cons`: What is found is found entry by entry.
* `Table.find?_put`, `Table.find?_erase`: What is found after setting and after
  removing a key.
* `Table.find?_eq_some_iff`: With one entry per key, what is found are the
  entries.
* `Table.entries_put_new`, `Table.size_put_new`: A key without a value adds one
  entry, at the end.
* `Table.erase_of_find?_eq_none`: Removing a key without a value does nothing.
-/

namespace StoragePolicy

/-- A finite map, kept as its entries. The order of the entries is that in which the
    keys were first set, so a table is also a record of that. -/
structure Table (α β : Type) where
  entries : List (α × β) := []
  deriving DecidableEq

namespace Table

variable {α β : Type} [DecidableEq α]

/-- Replaces the first entry of a key, or adds one at the end. -/
def putEntry (key : α) (value : β) : List (α × β) → List (α × β)
  | [] => [(key, value)]
  | entry :: rest =>
    if entry.1 = key then (key, value) :: rest else entry :: putEntry key value rest

/-- The value of a key. -/
def find? (t : Table α β) (key : α) : Option β :=
  (t.entries.find? fun entry => entry.1 = key).map Prod.snd

/-- Sets the value of a key. -/
def put (t : Table α β) (key : α) (value : β) : Table α β :=
  { entries := putEntry key value t.entries }

/-- Removes a key. -/
def erase (t : Table α β) (key : α) : Table α β :=
  { entries := t.entries.filter fun entry => ¬ entry.1 = key }

/-- Removes a key and hands out its value. -/
def take (t : Table α β) (key : α) : Option β × Table α β := (t.find? key, t.erase key)

/-- How many keys have a value. -/
def size (t : Table α β) : Nat := t.entries.length

/-- The first entry decides if it has the key, and the others do if it has not. -/
theorem find?_cons (entry : α × β) (rest : List (α × β)) (key : α) :
    (⟨entry :: rest⟩ : Table α β).find? key =
      if entry.1 = key then some entry.2 else (⟨rest⟩ : Table α β).find? key := by
  rw [find?, List.find?_cons]
  by_cases h : entry.1 = key
  · rw [if_pos h, decide_eq_true h]
    rfl
  · rw [if_neg h, decide_eq_false h]
    rfl

/-- A key that was set has its new value, and every other one what it had. -/
theorem find?_put (t : Table α β) (key other : α) (value : β) :
    (t.put key value).find? other = if key = other then some value else t.find? other := by
  obtain ⟨entries⟩ := t
  -- Setting a key walks past the entries of others, so the induction is on what it walks past.
  induction entries with
  | nil => exact find?_cons (key, value) [] other
  | cons entry rest ih =>
      by_cases hentry : entry.1 = key
      · have hput : (⟨entry :: rest⟩ : Table α β).put key value = ⟨(key, value) :: rest⟩ := by
          rw [put, putEntry, if_pos hentry]
        rw [hput, find?_cons, find?_cons, hentry]
        by_cases hkey : key = other
        · rw [if_pos hkey, if_pos hkey]
        · rw [if_neg hkey, if_neg hkey, if_neg hkey]
      · have hput : (⟨entry :: rest⟩ : Table α β).put key value =
            ⟨entry :: ((⟨rest⟩ : Table α β).put key value).entries⟩ := by
          rw [put, putEntry, if_neg hentry, put]
        rw [hput, find?_cons, find?_cons, ih]
        by_cases hother : entry.1 = other
        · have hne : key ≠ other := fun hkey => hentry (hother.trans hkey.symm)
          rw [if_pos hother, if_neg hne, if_pos hother]
        · rw [if_neg hother, if_neg hother]

/-- A key that was removed has no value, and every other one what it had. -/
theorem find?_erase (t : Table α β) (key other : α) :
    (t.erase key).find? other = if key = other then none else t.find? other := by
  obtain ⟨entries⟩ := t
  induction entries with
  | nil => exact (ite_self none).symm
  | cons entry rest ih =>
      by_cases hentry : entry.1 = key
      · have herase : (⟨entry :: rest⟩ : Table α β).erase key = (⟨rest⟩ : Table α β).erase key := by
          rw [erase, erase, List.filter_cons_of_neg (by simpa using hentry)]
        rw [herase, ih, find?_cons, hentry]
        by_cases hkey : key = other
        · rw [if_pos hkey, if_pos hkey]
        · rw [if_neg hkey, if_neg hkey, if_neg hkey]
      · have herase : (⟨entry :: rest⟩ : Table α β).erase key =
            ⟨entry :: ((⟨rest⟩ : Table α β).erase key).entries⟩ := by
          rw [erase, erase, List.filter_cons_of_pos (by simpa using hentry)]
        rw [herase, find?_cons, find?_cons, ih]
        by_cases hother : entry.1 = other
        · have hne : key ≠ other := fun hkey => hentry (hother.trans hkey.symm)
          rw [if_pos hother, if_neg hne, if_pos hother]
        · rw [if_neg hother, if_neg hother]

theorem find?_eq_none_iff {t : Table α β} {key : α} :
    t.find? key = none ↔ ∀ entry ∈ t.entries, entry.1 ≠ key := by
  simp only [find?, Option.map_eq_none_iff, List.find?_eq_none, decide_eq_true_eq, ne_eq]

/-- With one entry per key, what is found are the entries. -/
theorem find?_eq_some_iff {t : Table α β} {key : α} {value : β}
    (hunique : ∀ a ∈ t.entries, ∀ b ∈ t.entries, a.1 = b.1 → a = b) :
    t.find? key = some value ↔ (key, value) ∈ t.entries := by
  have hfound : ∀ entry, (t.entries.find? fun entry => entry.1 = key) = some entry →
      entry ∈ t.entries ∧ entry.1 = key := by
    intro entry hentry
    have hkey := List.find?_some hentry
    rw [decide_eq_true_eq] at hkey
    exact ⟨List.mem_of_find?_eq_some hentry, hkey⟩
  rw [find?, Option.map_eq_some_iff]
  constructor
  · rintro ⟨⟨key', value'⟩, hentry, rfl⟩
    rcases hfound _ hentry with ⟨hmem, rfl⟩
    exact hmem
  · intro hmem
    cases hentry : t.entries.find? fun entry => entry.1 = key with
    | none =>
        have := List.find?_eq_none.mp hentry _ hmem
        simp only [decide_true, not_true] at this
    | some entry =>
        rcases hfound entry hentry with ⟨hmem', hkey⟩
        exact ⟨entry, rfl, by rw [hunique entry hmem' (key, value) hmem hkey]⟩

/-- A key without a value adds one entry, at the end. What was there before keeps its
    place. -/
theorem entries_put_new {t : Table α β} {key : α} (value : β) (hnew : t.find? key = none) :
    (t.put key value).entries = t.entries ++ [(key, value)] := by
  obtain ⟨entries⟩ := t
  rw [find?_eq_none_iff] at hnew
  simp only [put]
  induction entries with
  | nil => rfl
  | cons entry rest ih =>
    -- No entry has the key, so the new one comes to stand after all of them.
    have hne : entry.1 ≠ key := hnew entry List.mem_cons_self
    have hrest := ih fun e he => hnew e (List.mem_cons_of_mem _ he)
    simp only [putEntry, hne, if_false, hrest, List.cons_append]

theorem size_put_new {t : Table α β} {key : α} (value : β) (hnew : t.find? key = none) :
    (t.put key value).size = t.size + 1 := by
  rw [size, entries_put_new value hnew, List.length_append, List.length_singleton, size]

theorem erase_of_find?_eq_none {t : Table α β} {key : α} (hnone : t.find? key = none) :
    t.erase key = t := by
  obtain ⟨entries⟩ := t
  rw [find?_eq_none_iff] at hnone
  simp only [erase, Table.mk.injEq, List.filter_eq_self, decide_eq_true_eq]
  exact hnone

end Table

end StoragePolicy
