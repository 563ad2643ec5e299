import AssistiveTree.Config.Document
import AssistiveTree.Proofs.Toml.Line
import Mathlib.Data.List.Nodup

/-!
# Lines of settings

A document may hold the lines of some of the settings, in any order. Each line
is read apart from its neighbours, whatever its label looks like, and defaults
stand in for the lines that are missing.
-/

namespace AssistiveTree
namespace Config

open Toml

/-! ## Fields and their lines -/

/-- The fields of settings. -/
inductive Field
  | rootId
  | rootLabel
  | logNotifications
  deriving DecidableEq

namespace Field

/-- Every field, in the order in which fields are written. -/
def all : List Field := [.rootId, .rootLabel, .logNotifications]

/-- The key of a field. -/
def key : Field → String
  | .rootId => rootIdKey
  | .rootLabel => rootLabelKey
  | .logNotifications => logNotificationsKey

theorem key_injective : Function.Injective key := by
  intro field other same
  cases field <;> cases other <;> first | rfl | exact absurd same (by decide)

end Field

/-- The line that is written for a field. -/
def fieldLine (config : Config) : Field → List Char
  | .rootId => rootIdLine config.rootId
  | .rootLabel => rootLabelLine config.rootLabel
  | .logNotifications => logNotificationsLine config.logNotifications

/-- The settings with only some of their fields, and the default otherwise. -/
def restrict (config : Config) (fields : List Field) : Config where
  rootId :=
    if .rootId ∈ fields then config.rootId else (default : Config).rootId
  rootLabel :=
    if .rootLabel ∈ fields then config.rootLabel
    else (default : Config).rootLabel
  logNotifications :=
    if .logNotifications ∈ fields then config.logNotifications
    else (default : Config).logNotifications

/-- The assignment of the root's id. -/
def rootIdAssignment (id : NodeId) : Assignment :=
  ⟨rootIdKey, .integer id.raw.toNat, Nat.toDigits 10 id.raw.toNat⟩

/-- The assignment of the root's label. -/
def rootLabelAssignment (label : String) : Assignment :=
  ⟨rootLabelKey, .string label, writeString label.toList⟩

/-- The assignment of the flag for notifications. -/
def logNotificationsAssignment (flag : Bool) : Assignment :=
  ⟨logNotificationsKey, .boolean flag, (Text.ofBool flag).toList⟩

/-- The assignment of a field. -/
def assignment (config : Config) : Field → Assignment
  | .rootId => rootIdAssignment config.rootId
  | .rootLabel => rootLabelAssignment config.rootLabel
  | .logNotifications => logNotificationsAssignment config.logNotifications

/-- The range of a written id in numbers. -/
theorem le_maxValue_iff (number : Nat) :
    (number : Int) ≤ Int64.maxValue.toInt ↔ number ≤ Nat.pow 2 63 - 1 := by
  have value : Int64.maxValue.toInt = (Nat.pow 2 63 - 1 : Nat) := by decide
  rw [value, Int.ofNat_le]

/-- An id in range is read back from its assignment. -/
theorem rootIdAssignment_written
    {id : NodeId}
    (inRange : id.raw.toNat ≤ Nat.pow 2 63 - 1) :
    (rootIdAssignment id).Written where
  bare := (⟨by decide, by decide⟩ : IsBare rootIdKey)
  value := Value.writtenAs_toDigits ((le_maxValue_iff _).2 inRange)

/-- Every label is read back from its assignment. -/
theorem rootLabelAssignment_written (label : String) :
    (rootLabelAssignment label).Written where
  bare := (⟨by decide, by decide⟩ : IsBare rootLabelKey)
  value := by
    have written := Value.writtenAs_writeString label.toList
    rwa [String.ofList_toList] at written

/-- The flag is read back from its assignment. -/
theorem logNotificationsAssignment_written (flag : Bool) :
    (logNotificationsAssignment flag).Written where
  bare := (⟨by decide, by decide⟩ : IsBare logNotificationsKey)
  value := Value.writtenAs_ofBool flag

section Lines

variable (config : Config)

theorem key_assignment (field : Field) :
    (config.assignment field).key = field.key := by
  cases field <;> rfl

theorem line_assignment (field : Field) :
    (config.assignment field).line = config.fieldLine field := by
  cases field <;> rfl

/-- Where the root's id is in range, the assignment of every field is read
back. -/
theorem assignment_written
    (inRange : config.rootId.raw.toNat ≤ Nat.pow 2 63 - 1)
    (field : Field) :
    (config.assignment field).Written := by
  cases field with
  | rootId => exact rootIdAssignment_written inRange
  | rootLabel => exact rootLabelAssignment_written config.rootLabel
  | logNotifications =>
      exact logNotificationsAssignment_written config.logNotifications

/-- The definitions that the lines of some fields make. -/
def definitions (fields : List Field) : Section :=
  fields.map fun field => (config.assignment field).entry

/-- A field is defined by its own line and by no other. -/
theorem get?_definitions (fields : List Field) (field : Field) :
    (config.definitions fields).get? field.key =
      if field ∈ fields then some (.value (config.assignment field).value)
      else none := by
  induction fields with
  | nil => rfl
  | cons other fields inductionHypothesis =>
      have entry : (config.assignment other).entry =
          (other.key, .value (config.assignment other).value) := by
        rw [Assignment.entry, key_assignment]
      rw [Section.get?] at inductionHypothesis ⊢
      rw [definitions, List.map_cons, entry, ← definitions, List.lookup_cons,
        inductionHypothesis]
      by_cases same : field = other
      · simp [same]
      · have keys : (field.key == other.key) = false :=
          beq_false_of_ne (Field.key_injective.ne same)
        simp [same, keys]

/-- The lines of different fields are read one by one. -/
theorem parse?_lines
    (inRange : config.rootId.raw.toNat ≤ Nat.pow 2 63 - 1)
    {fields : List Field}
    (distinct : fields.Nodup) :
    Document.parse? (String.ofList (fields.flatMap config.fieldLine)) =
      some (config.definitions fields) := by
  have lines : fields.flatMap config.fieldLine =
      (fields.map config.assignment).flatMap Assignment.line := by
    simp only [List.flatMap_map, line_assignment]
  have keys : ((fields.map config.assignment).map Assignment.key).Nodup := by
    simpa [key_assignment, Function.comp_def] using
      List.Nodup.map Field.key_injective distinct
  rw [lines, Document.parse?_lines _ keys, definitions, List.map_map]
  · rfl
  · simp only [List.mem_map]
    rintro _ ⟨field, -, rfl⟩
    exact config.assignment_written inRange field

/-- Defaults stand in for what is not defined. -/
theorem ofSection?_definitions (fields : List Field) :
    ofSection? (config.definitions fields) =
      some (config.restrict fields) := by
  have id : readRootId? ((config.definitions fields).get? rootIdKey) =
      some (config.restrict fields).rootId := by
    rw [← Field.key, get?_definitions, restrict]
    split
    · simp [assignment, rootIdAssignment, readRootId?]
    · rfl
  have label :
      readRootLabel? ((config.definitions fields).get? rootLabelKey) =
        some (config.restrict fields).rootLabel := by
    rw [← Field.key, get?_definitions, restrict]
    split <;> rfl
  have flag :
      readLogNotifications?
          ((config.definitions fields).get? logNotificationsKey) =
        some (config.restrict fields).logNotifications := by
    rw [← Field.key, get?_definitions, restrict]
    split <;> rfl
  rw [ofSection?, id, label, flag]
  rfl

/-- Reading the lines of different fields leaves only the label to be checked. -/
theorem parse_fieldLines
    (inRange : config.rootId.raw.toNat ≤ Nat.pow 2 63 - 1)
    {fields : List Field}
    (distinct : fields.Nodup) :
    parse (String.ofList (fields.flatMap config.fieldLine)) =
      (config.restrict fields).validate := by
  rw [parse, config.parse?_lines inRange distinct, Option.bind_some,
    ofSection?_definitions]

/-- The lines of all fields are written, unless the root's id is out of
range. -/
theorem write_eq :
    config.write =
      if config.rootId.raw.toNat ≤ Nat.pow 2 63 - 1 then
        .ok (String.ofList (Field.all.flatMap config.fieldLine))
      else .error .unwritable := by
  have range := le_maxValue_iff config.rootId.raw.toNat
  have lines : Field.all.flatMap config.fieldLine =
      rootIdLine config.rootId ++ rootLabelLine config.rootLabel ++
        logNotificationsLine config.logNotifications := by
    simp [Field.all, fieldLine]
  rw [write, lines]
  split_ifs with tooGreat fits
  · omega
  · rfl
  · rfl
  · omega

/-- Reading what was written leaves only the label to be checked. -/
theorem parse_written
    (inRange : config.rootId.raw.toNat ≤ Nat.pow 2 63 - 1) :
    parse (String.ofList (Field.all.flatMap config.fieldLine)) =
      config.validate :=
  config.parse_fieldLines inRange (by decide)

/-! ## Documents of some lines -/

/-- The default label is not blank, so a blank label stands in a line. -/
theorem isBlank_restrict_iff (fields : List Field) :
    Text.isBlank (config.restrict fields).rootLabel = true ↔
      .rootLabel ∈ fields ∧ Text.isBlank config.rootLabel = true := by
  have shown : Text.isBlank (default : Config).rootLabel = false := by decide
  by_cases written : .rootLabel ∈ fields
  · simp [restrict, written]
  · simp [restrict, written, shown]

/-- The lines that are written for different fields, in any order, are read as
the default settings with these fields. They are refused only for a label of
nothing but white space. -/
theorem parse_lines
    (inRange : config.rootId.raw.toNat ≤ Nat.pow 2 63 - 1)
    {fields : List Field}
    (distinct : fields.Nodup) :
    config.write =
        .ok (String.ofList (Field.all.flatMap config.fieldLine)) ∧
      parse (String.ofList (fields.flatMap config.fieldLine)) =
        if .rootLabel ∈ fields ∧ Text.isBlank config.rootLabel = true then
          .error (.invalidValue rootLabelKey "the root container needs a label")
        else .ok (config.restrict fields) := by
  refine ⟨(config.write_eq).trans (if_pos inRange), ?_⟩
  rw [config.parse_fieldLines inRange distinct]
  have blank := config.isBlank_restrict_iff fields
  simp only [validate, blank]

end Lines

/-- A label that reads like another line and a header stands before the root's
id. -/
theorem parse_lines_deceptive :
    (7 : UInt64).toNat ≤ Nat.pow 2 63 - 1 ∧
      [Field.rootLabel, .rootId].Nodup ∧
      parse
          ("root_label = \"\"\"\nroot_node_id = 1\n[a]\"\"\"\n" ++
            "root_node_id = 7\n") =
        .ok { rootId := ⟨7⟩, rootLabel := "root_node_id = 1\n[a]" } := by
  let config : Config :=
    { rootId := ⟨7⟩
      rootLabel := "root_node_id = 1\n[a]"
      logNotifications := false }
  have inRange : (7 : UInt64).toNat ≤ Nat.pow 2 63 - 1 := by decide
  have distinct : [Field.rootLabel, .rootId].Nodup := by decide
  have text :
      String.ofList ([.rootLabel, .rootId].flatMap config.fieldLine) =
        "root_label = \"\"\"\nroot_node_id = 1\n[a]\"\"\"\n" ++
          "root_node_id = 7\n" := by decide
  refine ⟨inRange, distinct, ?_⟩
  have shown : Text.isBlank config.rootLabel = false := by decide
  rw [← text, (parse_lines config inRange distinct).2, shown, if_neg nofun]
  rfl

end Config
end AssistiveTree
