import AssistiveTree.Widget

/-!
# Node keys and node ids

A widget owns at most one primary node. A text field also owns a companion
node that repeats its selected text. Both are named by a key, written as text
in traces and errors. Attached nodes also carry a number, by which they are
exported.
-/

namespace AssistiveTree

/-- The number under which a node is exported. -/
structure NodeId where
  raw : UInt64
  deriving DecidableEq

/-- Ending of the text of a companion's key. -/
def selectionSuffix : String := "-selection"

/-- Names a node of the accessible tree. -/
inductive NodeKey
  /-- The primary node of a widget. -/
  | widget (id : WidgetId)
  /-- The selection companion of a text field. -/
  | selection (id : WidgetId)
  deriving DecidableEq

namespace NodeKey

/-- The widget that the node belongs to. -/
def owner : NodeKey → WidgetId
  | .widget id => id
  | .selection id => id

/-- Whether the key names a primary node. -/
def isPrimary : NodeKey → Bool
  | .widget _ => true
  | .selection _ => false

/-- The widget's id in decimal, with the suffix for a companion. -/
def text : NodeKey → String
  | .widget id => id.text
  | .selection id => id.text ++ selectionSuffix

/-- Read a key from its text. -/
def ofText? (text : String) : Option NodeKey :=
  let digits := text.toList.takeWhile Char.isDigit
  let raw := Nat.ofDigitChars 10 digits 0
  if digits = [] ∨ UInt64.size ≤ raw then none
  else
    let ending := text.toList.dropWhile Char.isDigit
    if ending = [] then some (.widget ⟨raw.toUInt64⟩)
    else if ending = selectionSuffix.toList then
      some (.selection ⟨raw.toUInt64⟩)
    else none

/-- Keys are ordered by id, all primary nodes before all companions. -/
def le : NodeKey → NodeKey → Bool
  | .widget first, .widget second => first.raw ≤ second.raw
  | .widget _, .selection _ => true
  | .selection _, .widget _ => false
  | .selection first, .selection second => first.raw ≤ second.raw

/-- The keys in order. -/
def sort (keys : List NodeKey) : List NodeKey := keys.mergeSort le

end NodeKey

end AssistiveTree
