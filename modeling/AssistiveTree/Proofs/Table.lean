import AssistiveTree.Table
import Mathlib.Data.List.Nodup

/-!
# Tables by their entries

A table whose keys are distinct is determined by its entries: a value is stored
under a key exactly when the two stand together in the table. Insertion of a
fresh key appends, and erasure filters.
-/

namespace AssistiveTree
namespace Table

variable {Key Value : Type}

/-- While keys are distinct, the entries around an entry have other keys. -/
theorem exists_split_of_mem_entries
    {table : Table Key Value}
    (distinct : table.keys.Nodup)
    {entry : Key × Value}
    (member : entry ∈ table.entries) :
    ∃ earlier later, table.entries = earlier ++ entry :: later ∧
      ∀ other ∈ earlier ++ later, other.1 ≠ entry.1 := by
  obtain ⟨earlier, later, split⟩ := List.append_of_mem member
  rw [keys, split, List.map_append, List.map_cons, List.nodup_middle,
    List.nodup_cons, ← List.map_append] at distinct
  refine ⟨earlier, later, split, ?_⟩
  intro other inOthers same
  exact distinct.1 (List.mem_map.mpr ⟨other, inOthers, same⟩)

/-- A table without keys is empty. -/
theorem eq_empty_of_keys
    {table : Table Key Value}
    (keys : table.keys = []) :
    table = .empty :=
  congrArg Table.mk (List.map_eq_nil_iff.mp keys)

variable [DecidableEq Key]

/-- A key without an entry holds no value. -/
theorem get?_eq_none_iff (table : Table Key Value) (key : Key) :
    table.get? key = none ↔ key ∉ table.keys := by
  rw [← contains_iff_mem_keys, contains]
  cases table.get? key <;> simp

/-- A key is absent exactly when it holds no value. -/
theorem contains_eq_false_iff (table : Table Key Value) (key : Key) :
    table.contains key = false ↔ key ∉ table.keys := by
  rw [← contains_iff_mem_keys, Bool.not_eq_true]

/-- Whatever is stored under a key stands beside it in the table. -/
theorem mem_entries_of_get?
    {table : Table Key Value}
    {key : Key}
    {value : Value}
    (stored : table.get? key = some value) :
    (key, value) ∈ table.entries := by
  obtain ⟨entry, found, rfl⟩ := Option.map_eq_some_iff.mp stored
  have same : entry.1 = key := by simpa using List.find?_some found
  have member := List.mem_of_find?_eq_some found
  rwa [← same]

/-- While keys are distinct, look-up finds every entry of the table. -/
theorem get?_of_mem_entries
    {table : Table Key Value}
    (distinct : table.keys.Nodup)
    {key : Key}
    {value : Value}
    (member : (key, value) ∈ table.entries) :
    table.get? key = some value := by
  obtain ⟨entries⟩ := table
  induction entries with
  | nil => simp at member
  | cons entry rest inductionHypothesis =>
      obtain ⟨fresh, restDistinct⟩ := List.nodup_cons.mp distinct
      rcases List.mem_cons.mp member with rfl | inRest
      · simp [get?]
      · have different : entry.1 ≠ key := by
          intro same
          exact fresh (List.mem_map.mpr ⟨(key, value), inRest, same.symm⟩)
        simpa [get?, different] using inductionHypothesis restDistinct inRest

/-- While keys are distinct, look-up and membership say the same. -/
theorem get?_eq_some_iff
    {table : Table Key Value}
    (distinct : table.keys.Nodup)
    (key : Key)
    (value : Value) :
    table.get? key = some value ↔ (key, value) ∈ table.entries :=
  ⟨mem_entries_of_get?, get?_of_mem_entries distinct⟩

/-- A fresh key is inserted after all others. -/
theorem entries_insert
    {table : Table Key Value}
    {key : Key}
    (absent : key ∉ table.keys)
    (value : Value) :
    (table.insert key value).entries = table.entries ++ [(key, value)] := by
  rw [← contains_eq_false_iff] at absent
  simp [insert, absent]

/-- A fresh key is the newest one. -/
theorem keys_insert
    {table : Table Key Value}
    {key : Key}
    (absent : key ∉ table.keys)
    (value : Value) :
    (table.insert key value).keys = table.keys ++ [key] := by
  rw [keys, entries_insert absent, List.map_append]
  rfl

/-- Inserting a key adds no other key. -/
theorem mem_keys_insert
    {table : Table Key Value}
    {key other : Key}
    {value : Value}
    (member : other ∈ (table.insert key value).keys) :
    other = key ∨ other ∈ table.keys := by
  unfold insert at member
  split at member
  · rw [keys_modify] at member
    exact Or.inr member
  · simp only [keys, List.map_append, List.map_singleton, List.mem_append,
      List.mem_singleton] at member
    exact member.symm

theorem entries_erase (table : Table Key Value) (key : Key) :
    (table.erase key).entries =
      table.entries.filter fun entry => entry.1 ≠ key := rfl

/-- Erasing an absent key changes nothing. -/
theorem erase_of_absent
    {table : Table Key Value}
    {key : Key}
    (absent : key ∉ table.keys) :
    table.erase key = table := by
  obtain ⟨entries⟩ := table
  have kept : ∀ entry ∈ entries, entry.1 ≠ key := by
    intro entry member same
    exact absent (List.mem_map.mpr ⟨entry, member, same⟩)
  simpa [erase] using kept

/-- Erasure removes one key and keeps the order of the others. -/
theorem keys_erase (table : Table Key Value) (key : Key) :
    (table.erase key).keys = table.keys.filter fun other => other ≠ key := by
  simp [erase, keys, List.filter_map, Function.comp_def]

theorem entries_modify
    (table : Table Key Value)
    (key : Key)
    (change : Value → Value) :
    (table.modify key change).entries =
      table.entries.map fun entry =>
        if entry.1 = key then (entry.1, change entry.2) else entry := rfl

/-- Changing the value of an absent key changes nothing. -/
theorem modify_of_absent
    {table : Table Key Value}
    {key : Key}
    (absent : key ∉ table.keys)
    (change : Value → Value) :
    table.modify key change = table := by
  obtain ⟨entries⟩ := table
  have kept : ∀ entry ∈ entries, entry.1 ≠ key := by
    intro entry member same
    exact absent (List.mem_map.mpr ⟨entry, member, same⟩)
  rw [modify, mk.injEq]
  conv => rhs; rw [← List.map_id entries]
  apply List.map_congr_left
  intro entry member
  rw [if_neg (kept entry member)]
  rfl

/-- What is found after an erasure was there before. -/
theorem get?_of_get?_erase
    {table : Table Key Value}
    {key other : Key}
    {value : Value}
    (found : (table.erase key).get? other = some value) :
    table.get? other = some value := by
  by_cases same : other = key
  · rw [same, get?_erase_self] at found
    cases found
  · rwa [get?_erase_of_ne _ same] at found

/-- Insertion keeps keys distinct. -/
theorem nodup_keys_insert
    {table : Table Key Value}
    (distinct : table.keys.Nodup)
    (key : Key)
    (value : Value) : (table.insert key value).keys.Nodup := by
  by_cases present : key ∈ table.keys
  · have contained := (table.contains_iff_mem_keys key).mpr present
    rwa [insert, if_pos contained, keys_modify]
  · rw [keys, entries_insert present, List.map_append, List.map_singleton,
      ← List.concat_eq_append]
    exact distinct.concat present

/-- Erasure keeps keys distinct. -/
theorem nodup_keys_erase
    {table : Table Key Value}
    (distinct : table.keys.Nodup)
    (key : Key) : (table.erase key).keys.Nodup := by
  rw [keys_erase]
  exact distinct.filter _

/-- While keys are distinct, the values are those that look-up finds. -/
theorem mem_values_iff
    {table : Table Key Value}
    (distinct : table.keys.Nodup)
    (value : Value) :
    value ∈ table.values ↔ ∃ key, table.get? key = some value := by
  simp [values, get?_eq_some_iff distinct]

/-- Insertion adds no value but the inserted one. -/
theorem mem_values_insert
    {table : Table Key Value}
    {key : Key}
    {value other : Value}
    (member : other ∈ (table.insert key value).values) :
    other = value ∨ other ∈ table.values := by
  obtain ⟨entry, inTable, rfl⟩ := List.mem_map.mp member
  unfold insert at inTable
  split at inTable
  · rw [entries_modify] at inTable
    obtain ⟨before, inBefore, rfl⟩ := List.mem_map.mp inTable
    split
    · exact Or.inl rfl
    · exact Or.inr (List.mem_map_of_mem inBefore)
  · rcases List.mem_append.mp inTable with old | new
    · exact Or.inr (List.mem_map_of_mem old)
    · exact Or.inl (by rw [List.mem_singleton.mp new])

/-- Appending a value to the list of a key changes no other list. -/
theorem getD_push
    (table : Table Key (List Value))
    (key other : Key)
    (value : Value) :
    ((table.push key value).get? other).getD [] =
      (table.get? other).getD [] ++ if other = key then [value] else [] := by
  by_cases same : other = key
  · subst same
    rw [push, get?_insert_self, if_pos rfl, Option.getD_some]
  · rw [push, get?_insert_of_ne _ same, if_neg same, List.append_nil]

/-- Erasure adds no value. -/
theorem mem_values_of_mem_erase
    {table : Table Key Value}
    {key : Key}
    {value : Value}
    (member : value ∈ (table.erase key).values) : value ∈ table.values := by
  obtain ⟨entry, kept, rfl⟩ := List.mem_map.mp member
  exact List.mem_map_of_mem (List.mem_of_mem_filter kept)

end Table
end AssistiveTree
