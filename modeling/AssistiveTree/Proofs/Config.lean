import AssistiveTree.Proofs.Config.Fields
import AssistiveTree.Proofs.Toml.Range
import Mathlib.Tactic.TFAE

/-!
# Settings are read back

Written settings are read back unless their label is blank, and only settings
that can be written are ever read.
-/

namespace AssistiveTree
namespace Config

open Toml

/-- The id of the root that is read is in range. -/
theorem ofSection?_inRange
    {entries : Section}
    (inRange : entries.InRange)
    {config : Config}
    (settings : ofSection? entries = some config) :
    config.rootId.raw.toNat ≤ Nat.pow 2 63 - 1 := by
  obtain ⟨id, isId, settings⟩ := Option.bind_eq_some_iff.1 settings
  obtain ⟨label, -, settings⟩ := Option.bind_eq_some_iff.1 settings
  obtain ⟨flag, -, same⟩ := Option.bind_eq_some_iff.1 settings
  obtain rfl := Option.some.inj same
  unfold readRootId? at isId
  split at isId
  · obtain rfl := Option.some.inj isId
    exact (by decide : ({} : Config).rootId.raw.toNat ≤ Nat.pow 2 63 - 1)
  · next value found =>
      have fits := (inRange.get? found).2
      split_ifs at isId with notNegative
      obtain rfl := Option.some.inj isId
      have size : value.toNat ≤ Nat.pow 2 63 - 1 := by
        rw [← le_maxValue_iff, Int.toNat_of_nonneg notNegative]
        exact fits
      have exact_id : value.toNat.toUInt64.toNat = value.toNat :=
        UInt64.toNat_ofNat_of_lt' (Nat.lt_of_le_of_lt size (by decide))
      rwa [exact_id]
  · contradiction

/-- A label is blank unless some character of it is no white space. -/
theorem isBlank_eq_false_iff (label : String) :
    Text.isBlank label = false ↔
      ∃ character ∈ label.toList, Text.isWhiteSpace character = false := by
  simp [Text.isBlank]

/-- Settings are valid exactly if their label is not blank. -/
theorem validate_eq_ok_iff (config read : Config) :
    config.validate = .ok read ↔
      config = read ∧ ∃ character ∈ config.rootLabel.toList,
        Text.isWhiteSpace character = false := by
  rw [← isBlank_eq_false_iff]
  cases blank : Text.isBlank config.rootLabel <;> simp [validate, blank]

/-- Settings that are read have an id in range and a label that is not blank. -/
theorem of_parse_eq_ok
    {text : String}
    {config : Config}
    (read : parse text = .ok config) :
    config.rootId.raw.toNat ≤ Nat.pow 2 63 - 1 ∧
      ∃ character ∈ config.rootLabel.toList,
        Text.isWhiteSpace character = false := by
  unfold parse at read
  split at read
  · next found =>
      obtain ⟨entries, document, settings⟩ :=
        Option.bind_eq_some_iff.1 found
      obtain ⟨rfl, shown⟩ := (validate_eq_ok_iff _ _).1 read
      have inRange := Document.parse?_inRange document
      exact ⟨ofSection?_inRange inRange settings, shown⟩
  · contradiction

/-- Settings can be read from some document exactly if the root's id has at most
63 bits and its label holds more than white space, and then they are read from
what is written for them. Nothing is written exactly for greater ids, and what
is written for a blank label is refused because of it. -/
theorem parse_write (config : Config) :
    List.TFAE [
      ∃ text, parse text = .ok config,
      config.rootId.raw.toNat ≤ Nat.pow 2 63 - 1 ∧
        ∃ character ∈ config.rootLabel.toList,
          Text.isWhiteSpace character = false,
      ∃ text, config.write = .ok text ∧ parse text = .ok config] ∧
    (∀ error, config.write = .error error ↔
      error = .unwritable ∧ Nat.pow 2 63 - 1 < config.rootId.raw.toNat) ∧
    ∀ text, config.write = .ok text →
      (∀ character ∈ config.rootLabel.toList,
        Text.isWhiteSpace character = true) →
      ∃ detail, parse text = .error (.invalidValue rootLabelKey detail) := by
  refine ⟨?_, ?_, ?_⟩
  · tfae_have 1 → 2 := by
      rintro ⟨text, read⟩
      exact of_parse_eq_ok read
    tfae_have 2 → 3 := by
      rintro ⟨inRange, shown⟩
      refine ⟨_, (write_eq config).trans (if_pos inRange), ?_⟩
      rw [parse_written _ inRange, validate_eq_ok_iff]
      exact ⟨rfl, shown⟩
    tfae_have 3 → 1 := by
      rintro ⟨text, -, read⟩
      exact ⟨text, read⟩
    tfae_finish
  · intro error
    rw [write_eq]
    split_ifs with inRange
    · exact iff_of_false nofun (by omega)
    · constructor
      · intro failed
        exact ⟨(Except.error.inj failed).symm, by omega⟩
      · rintro ⟨rfl, -⟩
        rfl
  · intro text written blank
    rw [write_eq] at written
    split_ifs at written with inRange
    obtain rfl := Except.ok.inj written
    rw [parse_written _ inRange, validate, if_pos]
    · exact ⟨_, rfl⟩
    · exact List.all_eq_true.2 blank

/-- A label with both kinds of quotes and a line feed is written over several
lines. -/
example :
    write { rootId := ⟨3⟩, rootLabel := "'a'\t\"b\"\n" } =
      .ok ("root_node_id = 3\n" ++
        "root_label = \"\"\"\n'a'\\t\"b\"\n\"\"\"\n" ++
        "log_notifications = true\n") := by
  decide

end Config
end AssistiveTree
