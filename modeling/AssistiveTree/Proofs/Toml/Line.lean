import AssistiveTree.Proofs.Toml.Value
import AssistiveTree.Toml.Document

/-!
# Written lines are read back

A document that consists of assignments to distinct bare keys, each on a line
of its own, defines these keys in the order of the lines.
-/

namespace AssistiveTree
namespace Toml

/-! ## Keys -/

/-- Whether a name can be a key without quotes. -/
def IsBare (name : String) : Prop :=
  name.toList ≠ [] ∧ name.toList.all isBareChar = true

/-- A text with a bare name at its front starts with no other character. -/
theorem IsBare.append_ne
    {name : String}
    (bare : IsBare name)
    {other : Char}
    (special : isBareChar other = false)
    (rest after : List Char) :
    name.toList ++ rest ≠ other :: after := by
  obtain ⟨first, others, same⟩ := List.exists_cons_of_ne_nil bare.1
  have isBare : isBareChar first = true :=
    List.all_eq_true.1 bare.2 first (by simp [same])
  rw [same, List.cons_append]
  intro starts
  rw [(List.cons.inj starts).1, special] at isBare
  contradiction

/-- A text that starts with no space has no leading spaces. -/
theorem skipSpaces_of_ne
    {text : List Char}
    (noSpace : ∀ rest, text ≠ ' ' :: rest)
    (noTab : ∀ rest, text ≠ '\t' :: rest) :
    skipSpaces text = text := by
  cases text with
  | nil => rfl
  | cons first rest =>
      refine List.dropWhile_cons_of_neg fun space => ?_
      obtain rfl | rfl : first = ' ' ∨ first = '\t' := by
        simpa [isSpace] using space
      · exact noSpace rest rfl
      · exact noTab rest rfl

/-- No spaces stand before a bare name. -/
theorem skipSpaces_bare
    {name : String}
    (bare : IsBare name)
    (rest : List Char) :
    skipSpaces (name.toList ++ rest) = name.toList ++ rest :=
  skipSpaces_of_ne (bare.append_ne rfl rest) (bare.append_ne rfl rest)

/-- A bare name is read up to the space after it. -/
theorem readName?_bare
    {name : String}
    (bare : IsBare name)
    (rest : List Char) :
    readName? (name.toList ++ ' ' :: rest) = some (name, ' ' :: rest) := by
  obtain ⟨run, remaining⟩ := takeWhile_append_cons
    (List.all_eq_true.1 bare.2) (by rfl : isBareChar ' ' = false) rest
  rw [readName?, run, remaining, if_neg bare.1, String.ofList_toList]
  · exact bare.append_ne rfl _
  · exact bare.append_ne rfl _

/-- A bare name before the sign of an assignment is a key of one part. -/
theorem readAssignment?_bare
    {name : String}
    (bare : IsBare name)
    (rest : List Char) :
    readAssignment? (name.toList ++ ' ' :: '=' :: rest) =
      some (([], name), skipSpaces rest) := by
  have sign : skipSpaces (' ' :: '=' :: rest) = '=' :: rest := rfl
  have key : readKey? nestingLimit (name.toList ++ ' ' :: '=' :: rest) =
      some ([name], '=' :: rest) := by
    rw [nestingLimit, readKey?, skipSpaces_bare bare, readName?_bare bare]
    simp [sign]
  rw [readAssignment?, key]
  rfl

/-! ## Lines -/

/-- An assignment: a bare key, a value and the text of the value. -/
structure Assignment where
  key : String
  value : Value
  text : List Char

namespace Assignment

/-- The assignment on a line of its own. -/
def line (assignment : Assignment) : List Char :=
  assignment.key.toList ++ [' ', '=', ' '] ++ assignment.text ++ ['\n']

/-- What the assignment defines. -/
def entry (assignment : Assignment) : String × Definition :=
  (assignment.key, .value assignment.value)

/-- There are no more lines than characters. -/
theorem length_le (assignments : List Assignment) :
    assignments.length ≤ (assignments.flatMap line).length := by
  induction assignments with
  | nil => exact Nat.zero_le _
  | cons assignment assignments ih =>
      simp only [List.flatMap_cons, List.length_append, List.length_cons, line]
      omega

/-- Whether the key needs no quotes and the text is read as the value. -/
structure Written (assignment : Assignment) : Prop where
  bare : IsBare assignment.key
  value : assignment.value.WrittenAs assignment.text

end Assignment

/-- A plain value starts with no space and no opening bracket. -/
theorem ne_of_readPlain?
    {text : List Char}
    {read : Value × List Char}
    (plain : readPlain? text = some read) :
    ∀ other ∈ [' ', '\t', '[', '{'], ∀ rest, text ≠ other :: rest := by
  rintro other member rest rfl
  simp only [List.mem_cons, List.not_mem_nil, or_false] at member
  have nothing : readPlain? (other :: rest) = none := by
    rcases member with rfl | rfl | rfl | rfl <;> rfl
  rw [nothing] at plain
  contradiction

/-- What is read as a plain value is read as a value. -/
theorem readValue?_of_readPlain?
    {text : List Char}
    {read : Value × List Char}
    (plain : readPlain? text = some read)
    (depth : Nat) :
    readValue? depth text = some read := by
  have other := ne_of_readPlain? plain
  cases depth with
  | zero => exact plain
  | succ depth =>
      rw [readValue?, plain]
      · exact other '[' (by decide)
      · exact other '{' (by decide)

namespace Document

variable {document : Document}

/-- More than a comment is left of a line that starts with a bare name. -/
theorem isLineDone_bare
    {name : String}
    (bare : IsBare name)
    (rest : List Char) :
    isLineDone (name.toList ++ rest) = false := by
  rw [isLineDone]
  · exact List.append_ne_nil_of_left_ne_nil bare.1 rest
  all_goals exact bare.append_ne rfl rest

/-- A line that starts with a bare name holds an assignment. -/
theorem readStatement?_bare
    {name : String}
    (bare : IsBare name)
    {text rest : List Char}
    {value : Value}
    (plain : readPlain? text = some (value, rest)) :
    document.readStatement? (name.toList ++ ' ' :: '=' :: ' ' :: text) =
      (document.assign [] name value).map fun document => (document, rest) := by
  have other := ne_of_readPlain? plain
  have spaces : skipSpaces (' ' :: text) = text :=
    skipSpaces_of_ne (other ' ' (by decide)) (other '\t' (by decide))
  rw [readStatement?, readAssignment?_bare bare, spaces]
  · cases assigned : document.assign [] name value <;>
      simp [readValue?_of_readPlain? plain, assigned]
  · exact fun after => bare.append_ne rfl _ _
  · exact bare.append_ne rfl _

/-- Without an open table, a new key is defined at the top level. -/
theorem assign_new
    (outside : document.current = [])
    {key : String}
    (undefined : key ∉ document.entries.map Prod.fst)
    (value : Value) :
    document.assign [] key value =
      some { document with
        entries := document.entries ++ [(key, .value value)] } := by
  have new : document.entries.get? key = none := by
    rw [Section.get?, List.lookup_eq_none_iff]
    rintro ⟨other, definition⟩ member
    have different : key ≠ other := by
      rintro rfl
      exact undefined (List.mem_map_of_mem (f := Prod.fst) member)
    simpa using different
  rw [assign, outside, Section.within, Section.assign, new]
  simp [Section.put, new]

/-- A written assignment to a new key is read back from its line. -/
theorem readLine?_line
    (outside : document.current = [])
    {assignment : Assignment}
    (written : assignment.Written)
    (undefined : assignment.key ∉ document.entries.map Prod.fst)
    (rest : List Char) :
    document.readLine? (assignment.line ++ rest) =
      some ({ document with entries := document.entries ++ [assignment.entry] },
        rest) := by
  have line : assignment.line ++ rest =
      assignment.key.toList ++
        ' ' :: '=' :: ' ' :: (assignment.text ++ '\n' :: rest) := by
    simp [Assignment.line]
  have statement : document.readStatement? (assignment.line ++ rest) =
      some ({ document with
        entries := document.entries ++ [assignment.entry] },
        '\n' :: rest) := by
    rw [line, readStatement?_bare written.bare (written.value rest),
      assign_new outside undefined]
    rfl
  have spaces : skipSpaces (assignment.line ++ rest) =
      assignment.line ++ rest := by
    rw [line, skipSpaces_bare written.bare]
  have more : isLineDone (assignment.line ++ rest) = false := by
    rw [line, isLineDone_bare written.bare]
  simp only [readLine?, spaces, more, statement]
  rfl

/-- Written assignments to new and distinct keys are read back, given a bound
on the number of lines. -/
theorem readLines?_lines
    {assignments : List Assignment}
    (written : ∀ assignment ∈ assignments, assignment.Written)
    {bound : Nat}
    (few : assignments.length ≤ bound)
    (outside : document.current = [])
    (distinct : (document.entries.map Prod.fst ++
      assignments.map Assignment.key).Nodup) :
    readLines? bound document (assignments.flatMap Assignment.line) =
      some { document with
        entries := document.entries ++ assignments.map Assignment.entry } := by
  induction assignments generalizing document bound with
  | nil => simp [readLines?]
  | cons assignment assignments ih =>
      obtain ⟨fewer, rfl⟩ : ∃ fewer, bound = fewer + 1 :=
        Nat.exists_eq_succ_of_ne_zero (Nat.ne_of_gt (Nat.lt_of_lt_of_le
          (Nat.succ_pos _) few))
      have undefined : assignment.key ∉ document.entries.map Prod.fst :=
        fun member => (List.nodup_append.1 distinct).2.2 _ member _
          List.mem_cons_self rfl
      have read := readLine?_line outside (written _ List.mem_cons_self)
        undefined (assignments.flatMap Assignment.line)
      have remaining := @ih
        { document with entries := document.entries ++ [assignment.entry] }
        (fun other member => written other (List.mem_cons_of_mem _ member))
        fewer (Nat.le_of_succ_le_succ few) outside
        (by simpa [Assignment.entry] using distinct)
      rw [List.flatMap_cons, readLines?, read]
      · simpa using remaining
      · simp [Assignment.line]

/-- A document of written assignments to distinct keys is read back. -/
theorem parse?_lines
    {assignments : List Assignment}
    (written : ∀ assignment ∈ assignments, assignment.Written)
    (distinct : (assignments.map Assignment.key).Nodup) :
    parse? (String.ofList (assignments.flatMap Assignment.line)) =
      some (assignments.map Assignment.entry) := by
  have noMark : dropByteOrderMark (assignments.flatMap Assignment.line) =
      assignments.flatMap Assignment.line := by
    cases assignments with
    | nil => rfl
    | cons assignment assignments =>
        have bare := (written assignment List.mem_cons_self).bare
        rw [List.flatMap_cons, Assignment.line, List.append_assoc,
          List.append_assoc, List.append_assoc, dropByteOrderMark]
        exact bare.append_ne rfl _
  rw [parse?, String.toList_ofList, noMark,
    readLines?_lines written (Assignment.length_le assignments) rfl
      (by simpa using distinct)]
  rfl

end Document

end Toml
end AssistiveTree
