/-!
# Widget kinds

Widgets describe themselves by a 32-bit code. The codes of the closed set below
have a kind. Every other code is unknown.
-/

namespace AssistiveTree

/-- The classifications that a widget can report. -/
inductive Kind
  | notAccessible
  | custom
  | checkBox
  | radioButton
  | button
  | toggleButton
  | textBox
  | menuBar
  | menuItem
  | pane
  | tree
  | treeItem
  | toolBar
  | tab
  | tabPane
  | table
  | cell
  | textField
  | list
  | listItem
  | treeTable
  | dialog
  | popupMenu
  | progressBar
  | treeTableCell
  | group
  deriving DecidableEq

namespace Kind

/-- Every kind, in code order. -/
def all : List Kind :=
  [.notAccessible, .custom, .checkBox, .radioButton, .button, .toggleButton,
    .textBox, .menuBar, .menuItem, .pane, .tree, .treeItem, .toolBar, .tab,
    .tabPane, .table, .cell, .textField, .list, .listItem, .treeTable, .dialog,
    .popupMenu, .progressBar, .treeTableCell, .group]

/-- The code by which widgets report the kind. -/
def code : Kind → Int32
  | .notAccessible => -1
  | .custom => 1
  | .checkBox => 2
  | .radioButton => 3
  | .button => 4
  | .toggleButton => 5
  | .textBox => 6
  | .menuBar => 7
  | .menuItem => 8
  | .pane => 9
  | .tree => 10
  | .treeItem => 11
  | .toolBar => 12
  | .tab => 13
  | .tabPane => 14
  | .table => 15
  | .cell => 16
  | .textField => 17
  | .list => 18
  | .listItem => 19
  | .treeTable => 20
  | .dialog => 21
  | .popupMenu => 22
  | .progressBar => 23
  | .treeTableCell => 24
  | .group => 25

/-- The kind that a code stands for. -/
def ofCode? (code : Int32) : Option Kind :=
  all.find? fun kind => kind.code = code

/-- The kind's name. -/
def name : Kind → String
  | .notAccessible => "NotAccessible"
  | .custom => "Custom"
  | .checkBox => "CheckBox"
  | .radioButton => "RadioButton"
  | .button => "Button"
  | .toggleButton => "ToggleButton"
  | .textBox => "TextBox"
  | .menuBar => "MenuBar"
  | .menuItem => "MenuItem"
  | .pane => "Pane"
  | .tree => "Tree"
  | .treeItem => "TreeItem"
  | .toolBar => "ToolBar"
  | .tab => "Tab"
  | .tabPane => "TabPane"
  | .table => "Table"
  | .cell => "Cell"
  | .textField => "TextField"
  | .list => "List"
  | .listItem => "ListItem"
  | .treeTable => "TreeTable"
  | .dialog => "Dialog"
  | .popupMenu => "PopupMenu"
  | .progressBar => "ProgressBar"
  | .treeTableCell => "TreeTableCell"
  | .group => "Group"

/-- Whether widgets of this kind get an accessible node. -/
def isAccessible (kind : Kind) : Bool := kind ≠ .notAccessible

end Kind

/-- The code of widgets that stay out of the accessible tree. -/
def notAccessibleCode : Int32 := Kind.notAccessible.code

end AssistiveTree
