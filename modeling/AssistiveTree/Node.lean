import AssistiveTree.Node.Key
import AssistiveTree.Role

/-!
# Accessible nodes

A node holds what assistive technology may learn about one widget, or about
the selected text of one text field.
-/

namespace AssistiveTree

/-- How eagerly a live region is announced. -/
inductive Politeness
  /-- When the user is idle. -/
  | polite
  /-- At once. -/
  | assertive
  deriving DecidableEq

namespace Politeness

/-- Announcements are polite unless asked otherwise. -/
instance : Inhabited Politeness := ⟨.polite⟩

/-- The name of the politeness. -/
def name : Politeness → String
  | .polite => "Polite"
  | .assertive => "Assertive"

end Politeness

/-- A double-precision number, carried by its bits and never computed with. -/
structure Quantity where
  bits : UInt64
  deriving DecidableEq

/-- A message announced on behalf of a widget. -/
structure Announcement where
  text : String
  politeness : Politeness
  deriving DecidableEq

/-- A node of the accessible tree. -/
structure Node where
  role : Role
  label : String := ""
  description : String := ""
  /-- The role in words, for custom-drawn widgets. -/
  roleDescription : Option String := none
  /-- The name shared by mutually exclusive radio buttons. -/
  groupName : Option String := none
  /-- What a click on the node asks of its widget. -/
  activation : Option Activation := none
  live : Option Politeness := none
  /-- The selected text, for a companion. -/
  value : Option String := none
  numericValue : Option Quantity := none
  toggled : Option Bool := none
  expanded : Option Bool := none
  /-- The latest announcement. -/
  announcement : Option Announcement := none
  /-- The key of the node's companion. -/
  companion : Option NodeKey := none
  /-- The key of the node whose companion this is. -/
  companionOf : Option NodeKey := none
  deriving DecidableEq

namespace Node

/-- The live companion of a text field. -/
def selectionCompanion (owner : WidgetId) : Node where
  role := .generic
  live := some .polite
  companionOf := some (.widget owner)

/-- Whether a click on the node reaches its widget. -/
def isActivatable (node : Node) : Bool := node.activation.isSome

/-- No node is in the tab order: focus reaches nodes only through the root's
active descendant. -/
def isKeyboardFocusable (_ : Node) : Bool := false

/-- How eagerly changes to the node are announced. An announcement decides
before the node's own politeness. -/
def effectiveLive (node : Node) : Option Politeness :=
  node.announcement.map (·.politeness) <|> node.live

/-- A new value for one of the attributes that notifications change. -/
inductive Attribute
  | label (text : String)
  | description (text : String)
  | numericValue (value : Quantity)
  | toggled (on : Bool)
  | expanded (isOpen : Bool)
  | announcement (announcement : Announcement)
  deriving DecidableEq

/-- The node with one attribute changed. -/
def set (node : Node) : Attribute → Node
  | .label text => { node with label := text }
  | .description text => { node with description := text }
  | .numericValue value => { node with numericValue := some value }
  | .toggled on => { node with toggled := some on }
  | .expanded isOpen => { node with expanded := some isOpen }
  | .announcement announcement =>
      { node with announcement := some announcement }

end Node

end AssistiveTree
