import AssistiveTree.Node

/-!
# Notifications

The widget framework reports what happened to its widgets. Some notifications
change one attribute of one node, some are only passed on to subscribers, and
focus and selection changes have rules of their own.
-/

namespace AssistiveTree

/-- The shapes of a selection. -/
inductive SelectionKind
  | textBox
  | textField
  | tabPane
  | menu
  | tree
  | spreadsheet
  | list
  | treeTable
  | buttonGroup
  | other
  deriving DecidableEq

namespace SelectionKind

/-- Every kind of selection. -/
def all : List SelectionKind :=
  [.textBox, .textField, .tabPane, .menu, .tree, .spreadsheet, .list,
    .treeTable, .buttonGroup, .other]

/-- The name of the kind. -/
def name : SelectionKind → String
  | .textBox => "TextBox"
  | .textField => "TextField"
  | .tabPane => "TabPane"
  | .menu => "Menu"
  | .tree => "Tree"
  | .spreadsheet => "Spreadsheet"
  | .list => "List"
  | .treeTable => "TreeTable"
  | .buttonGroup => "ButtonGroup"
  | .other => "Other"

end SelectionKind

/-- Text selected inside a text box or text field. -/
structure TextSelection where
  /-- The control, while the selection is attached to one. -/
  control : Option WidgetId
  start : UInt64
  stop : UInt64
  text : String
  deriving DecidableEq

/-- An item selected inside a container. -/
structure ItemSelection where
  container : Option WidgetId
  selected : Option WidgetId
  deriving DecidableEq

/-- What is selected. -/
inductive Selection
  | textBox (selection : TextSelection)
  | textField (selection : TextSelection)
  | tabPane (selection : ItemSelection)
  | menu (selection : ItemSelection)
  | tree (selection : ItemSelection)
  | spreadsheet (selection : ItemSelection)
  | list (selection : ItemSelection)
  | treeTable (selection : ItemSelection)
  | buttonGroup (selection : ItemSelection)
  | other
  deriving DecidableEq

/-- The shape of a selection. -/
def Selection.kind : Selection → SelectionKind
  | .textBox _ => .textBox
  | .textField _ => .textField
  | .tabPane _ => .tabPane
  | .menu _ => .menu
  | .tree _ => .tree
  | .spreadsheet _ => .spreadsheet
  | .list _ => .list
  | .treeTable _ => .treeTable
  | .buttonGroup _ => .buttonGroup
  | .other => .other

/-- The control whose text changed, with its whole text where that is shown. -/
inductive TextControl
  | textBox (id : WidgetId) (text : String)
  | textField (id : WidgetId) (text : String)
  | other (id : Option WidgetId)
  deriving DecidableEq

/-- A change to the children of an item. -/
inductive StructureChange
  | expanded
  | collapsed
  | itemAdded
  | itemRemoved
  deriving DecidableEq

namespace StructureChange

/-- Every change. -/
def all : List StructureChange :=
  [.expanded, .collapsed, .itemAdded, .itemRemoved]

/-- The name of the change. -/
def name : StructureChange → String
  | .expanded => "Expanded"
  | .collapsed => "Collapsed"
  | .itemAdded => "ItemAdded"
  | .itemRemoved => "ItemRemoved"

end StructureChange

/-- The kinds of item whose children are reported. -/
inductive Hierarchy
  | menu
  | tree
  | treeTable
  deriving DecidableEq

/-- What the widget framework reports. A report about a widget's own name or
description carries the widget as it was at that moment. -/
inductive Notification
  | nameChanged (widget : Widget)
  | descriptionChanged (widget : Widget)
  | textChanged (control : TextControl)
  | passwordUpdated (id : WidgetId)
  | progressChanged (id : WidgetId) (before after : Quantity)
  | toggleChanged (id : WidgetId) (on : Bool)
  | buttonActivated (id : WidgetId)
  | controlActivated (id : WidgetId)
  | windowFocusChanged (focused : Bool)
  | structureChanged
      (hierarchy : Hierarchy)
      (id : WidgetId)
      (change : StructureChange)
  | announced (id : WidgetId) (announcement : Announcement)
  | focusChanged (before after : Option WidgetId)
  | selectionChanged (selection : Selection)
  deriving DecidableEq

/-- A notification that changes no node and only reaches subscribers. -/
inductive HookPoint
  | passwordUpdated (id : WidgetId)
  | buttonActivated (id : WidgetId)
  | controlActivated (id : WidgetId)
  | windowFocusChanged (focused : Bool)
  | textChanged (id : Option WidgetId)
  | structureChanged (id : WidgetId) (change : StructureChange)
  deriving DecidableEq

namespace HookPoint

/-- The widget that the notification is about. -/
def target : HookPoint → Option WidgetId
  | .passwordUpdated id => some id
  | .buttonActivated id => some id
  | .controlActivated id => some id
  | .windowFocusChanged _ => none
  | .textChanged id => id
  | .structureChanged id _ => some id

/-- What happened, in words. -/
def phrase : HookPoint → String
  | .passwordUpdated _ => "password updated"
  | .buttonActivated _ => "button activated"
  | .controlActivated _ => "control activated"
  | .windowFocusChanged _ => "window focus changed"
  | .textChanged _ => "text changed"
  | .structureChanged _ _ => "structure changed"

/-- The name of the point. -/
def name : HookPoint → String
  | .passwordUpdated _ => "PasswordUpdated"
  | .buttonActivated _ => "ButtonActivated"
  | .controlActivated _ => "ControlActivated"
  | .windowFocusChanged _ => "WindowFocusChanged"
  | .textChanged _ => "TextChanged"
  | .structureChanged _ _ => "StructureChanged"

end HookPoint

/-- Who subscribed to notifications. -/
structure Subscriber where
  tag : String
  deriving DecidableEq

/-- One call of a subscriber. -/
inductive HookCall
  /-- A selection changed and was handled by the given route. -/
  | selection
      (subscriber : Subscriber)
      (route : SelectionKind)
      (selection : Selection)
  /-- A notification that changed no node arrived. -/
  | notification (subscriber : Subscriber) (point : HookPoint)
  deriving DecidableEq

end AssistiveTree
