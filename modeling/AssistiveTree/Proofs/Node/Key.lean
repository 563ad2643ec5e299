import AssistiveTree.Node.Key
import Mathlib.Logic.Function.Basic

/-!
# Keys and their texts

The text of a key is the widget's id in decimal digits, and for a companion an
ending that starts with no digit. So the digits are all of the text up to that
ending, and the key is read back from them.
-/

namespace AssistiveTree

namespace NodeKey

/-- The decimal digits of an id. -/
def digits (id : WidgetId) : List Char := Nat.toDigits 10 id.raw.toNat

theorem digits_ne_nil (id : WidgetId) : digits id ≠ [] :=
  Nat.toDigits_ne_nil

theorem isDigit_of_mem_digits
    {id : WidgetId}
    {character : Char}
    (member : character ∈ digits id) :
    character.isDigit = true :=
  Nat.isDigit_of_mem_toDigits (by decide) (by decide) member

theorem ofDigitChars_digits (id : WidgetId) :
    Nat.ofDigitChars 10 (digits id) 0 = id.raw.toNat :=
  Nat.ofDigitChars_toDigits (by decide) (by decide)

theorem toList_text_widget (id : WidgetId) :
    (widget id).text.toList = digits id :=
  Nat.toList_repr

theorem toList_text_selection (id : WidgetId) :
    (selection id).text.toList = digits id ++ selectionSuffix.toList := by
  rw [text, String.toList_append]
  congr 1
  exact Nat.toList_repr

/-- The digits of an id end where another character follows. -/
theorem takeWhile_digits
    (id : WidgetId)
    (ending : List Char)
    (stops : ending.head?.any Char.isDigit = false) :
    (digits id ++ ending).takeWhile Char.isDigit = digits id ∧
      (digits id ++ ending).dropWhile Char.isDigit = ending := by
  have inside : ∀ character ∈ digits id, character.isDigit = true :=
    fun _ => isDigit_of_mem_digits
  rw [List.takeWhile_append_of_pos inside, List.dropWhile_append_of_pos inside]
  cases ending with
  | nil => simp
  | cons character rest =>
      have outside : character.isDigit = false := stops
      simp [outside]

/-- The text of a key is read back as the key. -/
theorem ofText?_text (key : NodeKey) : ofText? key.text = some key := by
  have inRange (id : WidgetId) :
      ¬ (digits id = [] ∨ UInt64.size ≤ id.raw.toNat) := by
    rintro (none | large)
    · exact digits_ne_nil id none
    · exact absurd id.raw.toNat_lt (Nat.not_lt.mpr large)
  cases key with
  | widget id =>
      obtain ⟨first, rest⟩ := takeWhile_digits id [] rfl
      rw [List.append_nil] at first rest
      simp only [ofText?, toList_text_widget, first, rest,
        ofDigitChars_digits, inRange, if_true, if_false, UInt64.ofNat_toNat,
        Nat.toUInt64_eq]
  | selection id =>
      have ending : selectionSuffix.toList ≠ [] := by decide
      obtain ⟨first, rest⟩ :=
        takeWhile_digits id selectionSuffix.toList (by decide)
      simp only [ofText?, toList_text_selection, first, rest,
        ofDigitChars_digits, inRange, ending, if_true, if_false,
        UInt64.ofNat_toNat, Nat.toUInt64_eq]

/-- Different nodes are named differently. -/
theorem text_injective : Function.Injective text := by
  intro first second same
  have read := ofText?_text first
  rw [same, ofText?_text, Option.some_inj] at read
  exact read.symm

/-- The ending tells companions from primary nodes, because an id has digits
only. -/
theorem isPrimary_eq_false_iff (key : NodeKey) :
    key.isPrimary = false ↔ selectionSuffix.toList <:+ key.text.toList := by
  cases key with
  | widget id =>
      rw [toList_text_widget]
      refine iff_of_false nofun fun ending => ?_
      have dash : '-' ∈ selectionSuffix.toList := by decide
      exact absurd (isDigit_of_mem_digits (ending.subset dash)) (by decide)
  | selection id =>
      rw [toList_text_selection]
      exact iff_of_true rfl (List.suffix_append _ _)

/-- The text of a key names one node. A companion's text is its owner's id and
the suffix. It is the text of no primary node and of no other companion, and
every key is read back from its text. -/
theorem text_names :
    (∀ key other : NodeKey, key.text = other.text ↔ key = other) ∧
      (∀ owner other : WidgetId,
        (selection owner).text =
            Nat.repr owner.raw.toNat ++ "-selection" ∧
          (selection owner).text ≠ (widget other).text ∧
          ((selection owner).text = (selection other).text ↔
            owner = other)) ∧
      ∀ key : NodeKey, ofText? key.text = some key := by
  refine ⟨fun _ _ => text_injective.eq_iff, ?_, ofText?_text⟩
  intro owner other
  refine ⟨rfl, fun same => ?_, ?_⟩
  · have ending := (isPrimary_eq_false_iff (selection owner)).mp rfl
    rw [same, ← isPrimary_eq_false_iff] at ending
    cases ending
  · rw [text_injective.eq_iff, selection.injEq]

end NodeKey

/-- Different widgets are named differently, like their primary nodes. -/
theorem WidgetId.text_injective : Function.Injective WidgetId.text := by
  intro first second same
  have keys : NodeKey.widget first = NodeKey.widget second :=
    NodeKey.text_injective same
  exact NodeKey.widget.inj keys

end AssistiveTree
