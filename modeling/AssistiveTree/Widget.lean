import AssistiveTree.Widget.Kind

/-!
# Widgets

The bridge sees a widget only through what it reports about itself at a given
moment. Several widget objects may report the same id, so the object itself is
told apart by a reference of its own.
-/

namespace AssistiveTree

/-- The identity that a widget reports, and by which the bridge knows it. -/
structure WidgetId where
  raw : UInt64
  deriving DecidableEq

/-- A widget id in decimal. -/
def WidgetId.text (id : WidgetId) : String := Nat.repr id.raw.toNat

/-- The identity of a widget object. -/
structure WidgetRef where
  index : Nat
  deriving DecidableEq

/-- What a click on an accessible node asks of its widget: to press a push
button, or to flip a check box, radio button or toggle button. -/
inductive Activation
  | invoke
  | toggle
  deriving DecidableEq

/-- The activation's name. -/
def Activation.name : Activation → String
  | .invoke => "Invoke"
  | .toggle => "Toggle"

/-- What a widget reports about itself. -/
structure Widget where
  id : WidgetId
  name : String
  description : String := ""
  code : Int32
  /-- The widget's own answer to whether it is accessible, if it has one. -/
  accessible : Option Bool := none
  deriving DecidableEq

namespace Widget

/-- The kind of the reported code. -/
def kind? (widget : Widget) : Option Kind := Kind.ofCode? widget.code

/-- Whether the widget takes part in the accessible tree: by its own answer,
and otherwise unless it reports the not-accessible code. -/
def isAccessible (widget : Widget) : Bool :=
  widget.accessible.getD (widget.code ≠ notAccessibleCode)

/-- New values for some of the things that a widget reports. -/
structure Amendment where
  name : Option String := none
  description : Option String := none
  code : Option Int32 := none
  accessible : Option Bool := none
  deriving DecidableEq

/-- The widget with the amended values in place. Its id never changes. -/
def amend (widget : Widget) (amendment : Amendment) : Widget where
  id := widget.id
  name := amendment.name.getD widget.name
  description := amendment.description.getD widget.description
  code := amendment.code.getD widget.code
  accessible := amendment.accessible <|> widget.accessible

end Widget

end AssistiveTree
