/-!
# Finite tables

A table holds at most one value per key. Entries stand in the order in which
their keys were first inserted, so erasing a freshly inserted key restores the
table exactly, and two tables can be compared with `=`.
-/

namespace AssistiveTree

/-- A finite table from keys to values, in insertion order. -/
structure Table (Key Value : Type) where
  entries : List (Key × Value)
  deriving DecidableEq

namespace Table

variable {Key Value : Type}

/-- The table without entries. -/
def empty : Table Key Value := ⟨[]⟩

/-- Number of entries. -/
def size (table : Table Key Value) : Nat := table.entries.length

/-- Whether there is no entry. -/
def isEmpty (table : Table Key Value) : Bool := table.entries.isEmpty

/-- The keys, oldest entry first. -/
def keys (table : Table Key Value) : List Key := table.entries.map (·.1)

/-- The values, oldest entry first. -/
def values (table : Table Key Value) : List Value := table.entries.map (·.2)

variable [DecidableEq Key]

/-- The value stored under a key. -/
def get? (table : Table Key Value) (key : Key) : Option Value :=
  (table.entries.find? fun entry => entry.1 = key).map (·.2)

/-- Whether a key has an entry. -/
def contains (table : Table Key Value) (key : Key) : Bool :=
  (table.get? key).isSome

/-- Apply a function to the value stored under a key, if there is one. -/
def modify
    (table : Table Key Value)
    (key : Key)
    (change : Value → Value) : Table Key Value :=
  ⟨table.entries.map fun entry =>
    if entry.1 = key then (entry.1, change entry.2) else entry⟩

/-- Store a value under a key: in place when the key has an entry, and as the
newest entry otherwise. -/
def insert
    (table : Table Key Value)
    (key : Key)
    (value : Value) : Table Key Value :=
  if table.contains key then table.modify key fun _ => value
  else ⟨table.entries ++ [(key, value)]⟩

/-- Remove the entry of a key. -/
def erase (table : Table Key Value) (key : Key) : Table Key Value :=
  ⟨table.entries.filter fun entry => entry.1 ≠ key⟩

/-- Append a value to the list stored under a key. A key without an entry starts
with the empty list. -/
def push
    (table : Table Key (List Value))
    (key : Key)
    (value : Value) : Table Key (List Value) :=
  table.insert key ((table.get? key).getD [] ++ [value])

@[simp] theorem get?_modify_self
    (table : Table Key Value)
    (key : Key)
    (change : Value → Value) :
    (table.modify key change).get? key = (table.get? key).map change := by
  obtain ⟨entries⟩ := table
  induction entries with
  | nil => rfl
  | cons entry rest inductionHypothesis =>
      by_cases same : entry.1 = key
      · simp [modify, get?, same]
      · simpa [modify, get?, same] using inductionHypothesis

theorem get?_modify_of_ne
    (table : Table Key Value)
    {key other : Key}
    (different : other ≠ key)
    (change : Value → Value) :
    (table.modify key change).get? other = table.get? other := by
  obtain ⟨entries⟩ := table
  induction entries with
  | nil => rfl
  | cons entry rest inductionHypothesis =>
      by_cases same : entry.1 = other
      · have untouched : entry.1 ≠ key := fun equal =>
          different (same.symm.trans equal)
        simp [modify, get?, same, different]
      · by_cases changed : entry.1 = key
        · simpa [modify, get?, same, changed, different.symm] using
            inductionHypothesis
        · simpa [modify, get?, same, changed] using inductionHypothesis

@[simp] theorem keys_modify
    (table : Table Key Value)
    (key : Key)
    (change : Value → Value) :
    (table.modify key change).keys = table.keys := by
  simp only [keys, modify, List.map_map]
  refine List.map_congr_left fun entry _ => ?_
  by_cases same : entry.1 = key <;> simp [same]

@[simp] theorem get?_insert_self
    (table : Table Key Value)
    (key : Key)
    (value : Value) :
    (table.insert key value).get? key = some value := by
  by_cases present : table.contains key
  · obtain ⟨stored, found⟩ := Option.isSome_iff_exists.mp present
    simp [insert, present, found]
  · have absent : table.entries.find? (fun entry => entry.1 = key) = none := by
      cases found : table.entries.find? fun entry => entry.1 = key with
      | none => rfl
      | some entry => simp [contains, get?, found] at present
    simp [insert, present, get?, List.find?_append, absent]

theorem get?_insert_of_ne
    (table : Table Key Value)
    {key other : Key}
    (different : other ≠ key)
    (value : Value) :
    (table.insert key value).get? other = table.get? other := by
  by_cases present : table.contains key
  · simp [insert, present, get?_modify_of_ne _ different]
  · simp [insert, present, get?, List.find?_append, different.symm]

@[simp] theorem get?_erase_self (table : Table Key Value) (key : Key) :
    (table.erase key).get? key = none := by
  simp [erase, get?, List.find?_filter]

theorem get?_erase_of_ne
    (table : Table Key Value)
    {key other : Key}
    (different : other ≠ key) :
    (table.erase key).get? other = table.get? other := by
  obtain ⟨entries⟩ := table
  induction entries with
  | nil => rfl
  | cons entry rest inductionHypothesis =>
      by_cases erased : entry.1 = key
      · simpa [erase, get?, erased, different.symm] using inductionHypothesis
      · by_cases same : entry.1 = other
        · simp [erase, get?, same, different]
        · simpa [erase, get?, erased, same] using inductionHypothesis

/-- A key has an entry exactly when it is one of the keys. -/
theorem contains_iff_mem_keys (table : Table Key Value) (key : Key) :
    table.contains key = true ↔ key ∈ table.keys := by
  simp [contains, get?, keys]

/-- Erasing a freshly inserted key restores the table. -/
theorem erase_insert
    (table : Table Key Value)
    {key : Key}
    (absent : table.contains key = false)
    (value : Value) :
    (table.insert key value).erase key = table := by
  have kept : ∀ entry ∈ table.entries, entry.1 ≠ key := by
    simpa [contains, get?] using absent
  have unchanged :
      table.entries.filter (fun entry => decide (entry.1 ≠ key)) =
        table.entries :=
    List.filter_eq_self.mpr fun entry member => by
      simpa using kept entry member
  obtain ⟨entries⟩ := table
  simpa [insert, absent, erase, List.filter_append] using unchanged

end Table

end AssistiveTree
