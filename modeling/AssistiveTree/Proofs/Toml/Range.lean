import AssistiveTree.Toml.Document
import Mathlib.Tactic.SplitIfs

/-!
# Integers of a document are in range

An integer that a document gives to a key of its top level fits into 64 bits
with sign, because literals out of range are refused.
-/

namespace AssistiveTree
namespace Toml

/-! ## Values -/

/-- Whether a value is no integer out of range. -/
def Value.InRange : Value → Prop
  | .integer value =>
      Int64.minValue.toInt ≤ value ∧ value ≤ Int64.maxValue.toInt
  | _ => True

/-- An integer that fits is in range. -/
theorem int64?_inRange
    {value fitting : Int}
    (fits : int64? value = some fitting) :
    (Value.integer fitting).InRange := by
  rw [int64?] at fits
  split_ifs at fits with inRange
  exact Option.some.inj fits ▸ inRange

/-- An integer literal stands for an integer in range. -/
theorem integerLiteral?_inRange
    {text : List Char}
    {value : Int}
    (literal : integerLiteral? text = some value) :
    (Value.integer value).InRange := by
  unfold integerLiteral? at literal
  split at literal
  all_goals
    obtain ⟨digits, -, fits⟩ := Option.bind_eq_some_iff.1 literal
    exact int64?_inRange fits

/-- A scalar is in range. -/
theorem scalar?_inRange
    {run : List Char}
    {value : Value}
    (read : scalar? run = some value) :
    value.InRange := by
  unfold scalar? at read
  split at read
  · exact Option.some.inj read ▸ trivial
  split at read
  · exact Option.some.inj read ▸ trivial
  split at read
  · next literal =>
      exact Option.some.inj read ▸ integerLiteral?_inRange literal
  · split_ifs at read <;> exact Option.some.inj read ▸ trivial

/-- A plain value is in range. -/
theorem readPlain?_inRange
    {text rest : List Char}
    {value : Value}
    (read : readPlain? text = some (value, rest)) :
    value.InRange := by
  unfold readPlain? at read
  split at read
  · obtain ⟨string, -, same⟩ := Option.map_eq_some_iff.1 read
    exact (Prod.mk.inj same).1 ▸ trivial
  · obtain ⟨string, -, same⟩ := Option.map_eq_some_iff.1 read
    exact (Prod.mk.inj same).1 ▸ trivial
  · obtain ⟨scalar, stands, same⟩ := Option.map_eq_some_iff.1 read
    exact (Prod.mk.inj same).1 ▸ scalar?_inRange stands

/-- What is read as a value is in range. -/
theorem readValue?_inRange
    {depth : Nat}
    {text rest : List Char}
    {value : Value}
    (read : readValue? depth text = some (value, rest)) :
    value.InRange := by
  cases depth with
  | zero => exact readPlain?_inRange read
  | succ depth =>
      unfold readValue? at read
      split at read
      · obtain ⟨after, -, same⟩ := Option.map_eq_some_iff.1 read
        exact (Prod.mk.inj same).1 ▸ trivial
      · split at read
        · exact (Prod.mk.inj (Option.some.inj read)).1 ▸ trivial
        · obtain ⟨after, -, same⟩ := Option.map_eq_some_iff.1 read
          exact (Prod.mk.inj same).1 ▸ trivial
      · exact readPlain?_inRange read

/-! ## Definitions -/

/-- Whether a definition gives no integer out of range. -/
def Definition.InRange : Definition → Prop
  | .value plain => plain.InRange
  | .table .. => True
  | .series _ => True

namespace Section

/-- Whether no key stands for an integer out of range. -/
def InRange (entries : Section) : Prop :=
  ∀ entry ∈ entries, entry.2.InRange

/-- What a key stands for is in range. -/
theorem InRange.get?
    {entries : Section}
    (inRange : entries.InRange)
    {key : String}
    {definition : Definition}
    (found : entries.get? key = some definition) :
    definition.InRange := by
  obtain ⟨before, after, rfl, -⟩ := List.lookup_eq_some_iff.1 found
  exact inRange (key, definition) (by simp)

/-- A definition in range keeps a section in range. -/
theorem InRange.put
    {entries : Section}
    (inRange : entries.InRange)
    (key : String)
    {definition : Definition}
    (new : definition.InRange) :
    (entries.put key definition).InRange := by
  unfold Section.put
  split
  · rintro entry member
    obtain member | member := List.mem_append.1 member
    · exact inRange entry member
    · exact List.mem_singleton.1 member ▸ new
  · rintro entry member
    obtain ⟨before, earlier, rfl⟩ := List.mem_map.1 member
    split_ifs
    · exact new
    · exact inRange before earlier

/-- A value in range keeps a section in range. -/
theorem InRange.assign
    {entries after : Section}
    (inRange : entries.InRange)
    {value : Value}
    (new : value.InRange)
    {path : List String}
    {key : String}
    (assigned : Section.assign value path key entries = some after) :
    after.InRange := by
  have putValue : (entries.put key (.value value)).InRange :=
    inRange.put key new
  unfold Section.assign at assigned
  split at assigned
  · split at assigned
    · exact Option.some.inj assigned ▸ putValue
    · contradiction
  · split at assigned
    · obtain ⟨inner, -, same⟩ := Option.bind_eq_some_iff.1 assigned
      exact Option.some.inj same ▸ inRange.put _ trivial
    · obtain ⟨inner, -, same⟩ := Option.bind_eq_some_iff.1 assigned
      exact Option.some.inj same ▸ inRange.put _ trivial
    · split_ifs at assigned
      obtain ⟨inner, -, same⟩ := Option.bind_eq_some_iff.1 assigned
      exact Option.some.inj same ▸ inRange.put _ trivial
    · split_ifs at assigned
      obtain ⟨last, -, same⟩ := Option.bind_eq_some_iff.1 assigned
      exact Option.some.inj same ▸ inRange.put _ trivial
    · contradiction
    · contradiction

/-- Opening a table keeps a section in range. -/
theorem InRange.openTable
    {entries after : Section}
    (inRange : entries.InRange)
    {key : String}
    (opened : Section.openTable key entries = some after) :
    after.InRange := by
  unfold Section.openTable at opened
  split at opened
  · exact Option.some.inj opened ▸ inRange.put key trivial
  · exact Option.some.inj opened ▸ inRange.put key trivial
  · contradiction

/-- Opening the next table of a list keeps a section in range. -/
theorem InRange.openSeries
    {entries after : Section}
    (inRange : entries.InRange)
    {key : String}
    (opened : Section.openSeries key entries = some after) :
    after.InRange := by
  unfold Section.openSeries at opened
  split at opened
  · exact Option.some.inj opened ▸ inRange.put key trivial
  · exact Option.some.inj opened ▸ inRange.put key trivial
  · contradiction

/-- A section stays in range where a change of its own does, as tables on the
way to an inner one are no integers. -/
theorem InRange.within
    {entries after : Section}
    (inRange : entries.InRange)
    {change : Section → Option Section}
    (keeps : ∀ after, change entries = some after → after.InRange)
    {path : List String}
    (changed : Section.within change path entries = some after) :
    after.InRange := by
  unfold Section.within at changed
  split at changed
  · exact keeps after changed
  · split at changed
    · obtain ⟨inner, -, same⟩ := Option.bind_eq_some_iff.1 changed
      exact Option.some.inj same ▸ inRange.put _ trivial
    · obtain ⟨inner, -, same⟩ := Option.bind_eq_some_iff.1 changed
      exact Option.some.inj same ▸ inRange.put _ trivial
    · obtain ⟨last, -, same⟩ := Option.bind_eq_some_iff.1 changed
      exact Option.some.inj same ▸ inRange.put _ trivial
    · contradiction

end Section

/-! ## Documents -/

namespace Document

variable {document after : Document} {text rest : List Char}

/-- An assigned value in range keeps the top level in range. -/
theorem assign_inRange
    (inRange : document.entries.InRange)
    {path : List String}
    {name : String}
    {value : Value}
    (new : value.InRange)
    (assigned : document.assign path name value = some after) :
    after.entries.InRange := by
  obtain ⟨entries, changed, same⟩ := Option.bind_eq_some_iff.1 assigned
  obtain rfl := Option.some.inj same
  exact inRange.within (fun _ => inRange.assign new) changed

/-- The header of a table keeps the top level in range. -/
theorem openTable_inRange
    (inRange : document.entries.InRange)
    {names : List String}
    (opened : document.openTable names = some after) :
    after.entries.InRange := by
  obtain ⟨name, -, opened⟩ := Option.bind_eq_some_iff.1 opened
  obtain ⟨entries, changed, same⟩ := Option.bind_eq_some_iff.1 opened
  obtain rfl := Option.some.inj same
  exact inRange.within (fun _ => inRange.openTable) changed

/-- The header of a list of tables keeps the top level in range. -/
theorem openSeries_inRange
    (inRange : document.entries.InRange)
    {names : List String}
    (opened : document.openSeries names = some after) :
    after.entries.InRange := by
  obtain ⟨name, -, opened⟩ := Option.bind_eq_some_iff.1 opened
  obtain ⟨entries, changed, same⟩ := Option.bind_eq_some_iff.1 opened
  obtain rfl := Option.some.inj same
  exact inRange.within (fun _ => inRange.openSeries) changed

/-- What one line says keeps the top level in range. -/
theorem readStatement?_inRange
    (inRange : document.entries.InRange)
    (read : document.readStatement? text = some (after, rest)) :
    after.entries.InRange := by
  unfold readStatement? at read
  split at read
  · obtain ⟨⟨names, remaining⟩, -, read⟩ := Option.bind_eq_some_iff.1 read
    dsimp only at read
    split at read
    · obtain ⟨opened, isOpened, same⟩ := Option.bind_eq_some_iff.1 read
      obtain ⟨rfl, -⟩ := Prod.mk.inj (Option.some.inj same)
      exact openSeries_inRange inRange isOpened
    · contradiction
  · obtain ⟨⟨names, remaining⟩, -, read⟩ := Option.bind_eq_some_iff.1 read
    dsimp only at read
    split at read
    · obtain ⟨opened, isOpened, same⟩ := Option.bind_eq_some_iff.1 read
      obtain ⟨rfl, -⟩ := Prod.mk.inj (Option.some.inj same)
      exact openTable_inRange inRange isOpened
    · contradiction
  · obtain ⟨⟨⟨path, name⟩, remaining⟩, -, read⟩ :=
      Option.bind_eq_some_iff.1 read
    obtain ⟨⟨value, remaining⟩, isRead, read⟩ :=
      Option.bind_eq_some_iff.1 read
    obtain ⟨assigned, isAssigned, same⟩ := Option.bind_eq_some_iff.1 read
    obtain ⟨rfl, -⟩ := Prod.mk.inj (Option.some.inj same)
    exact assign_inRange inRange (readValue?_inRange isRead) isAssigned

/-- One line keeps the top level in range. -/
theorem readLine?_inRange
    (inRange : document.entries.InRange)
    (read : document.readLine? text = some (after, rest)) :
    after.entries.InRange := by
  simp only [readLine?] at read
  split at read
  · obtain ⟨remaining, -, same⟩ := Option.map_eq_some_iff.1 read
    exact (Prod.mk.inj same).1 ▸ inRange
  · obtain ⟨⟨stated, remaining⟩, isStated, read⟩ :=
      Option.bind_eq_some_iff.1 read
    obtain ⟨remaining, -, same⟩ := Option.bind_eq_some_iff.1 read
    obtain ⟨rfl, -⟩ := Prod.mk.inj (Option.some.inj same)
    exact readStatement?_inRange inRange isStated

/-- Any number of lines keeps the top level in range. -/
theorem readLines?_inRange
    {bound : Nat}
    (inRange : document.entries.InRange)
    (read : readLines? bound document text = some after) :
    after.entries.InRange := by
  fun_induction readLines? bound document text with
  | case1 => exact Option.some.inj read ▸ inRange
  | case2 => contradiction
  | case3 bound document text more ih =>
      obtain ⟨⟨next, remaining⟩, line, lines⟩ := Option.bind_eq_some_iff.1 read
      exact ih next remaining (readLine?_inRange inRange line) lines

/-- The integers at the top level of a document are in range. -/
theorem parse?_inRange
    {text : String}
    {entries : Section}
    (read : parse? text = some entries) :
    entries.InRange := by
  obtain ⟨document, lines, rfl⟩ := Option.map_eq_some_iff.1 read
  exact readLines?_inRange (by rintro _ ⟨⟩) lines

end Document

end Toml
end AssistiveTree
