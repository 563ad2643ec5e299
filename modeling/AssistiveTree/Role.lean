/-!
# Roles

The bridge assigns a small set of roles. Each has an ARIA name and a
counterpart in the platform's vocabulary, in which nodes are exported. The
platform has many more roles than these.
-/

namespace AssistiveTree

/-- The platform's roles that the bridge exports nodes under. -/
inductive PlatformRole
  | region
  | checkBox
  | radioButton
  | button
  | textInput
  | menuBar
  | menuItem
  | tree
  | treeItem
  | toolbar
  | tab
  | tabPanel
  | table
  | cell
  | list
  | listItem
  | treeGrid
  | dialog
  | progressIndicator
  | group
  | genericContainer
  deriving DecidableEq

/-- The role's name. -/
def PlatformRole.name : PlatformRole → String
  | .region => "Region"
  | .checkBox => "CheckBox"
  | .radioButton => "RadioButton"
  | .button => "Button"
  | .textInput => "TextInput"
  | .menuBar => "MenuBar"
  | .menuItem => "MenuItem"
  | .tree => "Tree"
  | .treeItem => "TreeItem"
  | .toolbar => "Toolbar"
  | .tab => "Tab"
  | .tabPanel => "TabPanel"
  | .table => "Table"
  | .cell => "Cell"
  | .list => "List"
  | .listItem => "ListItem"
  | .treeGrid => "TreeGrid"
  | .dialog => "Dialog"
  | .progressIndicator => "ProgressIndicator"
  | .group => "Group"
  | .genericContainer => "GenericContainer"

/-- The role of an accessible node. -/
inductive Role
  | region
  | checkBox
  | radio
  | button
  | textBox
  | menuBar
  | menuItem
  | tree
  | treeItem
  | toolBar
  | tab
  | tabPanel
  | table
  | cell
  | list
  | listItem
  | treeGrid
  | dialog
  | progressBar
  | group
  /-- A node with no meaning of its own, such as a live companion. -/
  | generic
  deriving DecidableEq

namespace Role

/-- Plain containers and widgets of unknown kind are regions. -/
instance : Inhabited Role := ⟨.region⟩

/-- Every role. -/
def all : List Role :=
  [.region, .checkBox, .radio, .button, .textBox, .menuBar, .menuItem, .tree,
    .treeItem, .toolBar, .tab, .tabPanel, .table, .cell, .list, .listItem,
    .treeGrid, .dialog, .progressBar, .group, .generic]

/-- The role's ARIA name. -/
def ariaName : Role → String
  | .region => "region"
  | .checkBox => "checkbox"
  | .radio => "radio"
  | .button => "button"
  | .textBox => "textbox"
  | .menuBar => "menubar"
  | .menuItem => "menuitem"
  | .tree => "tree"
  | .treeItem => "treeitem"
  | .toolBar => "toolbar"
  | .tab => "tab"
  | .tabPanel => "tabpanel"
  | .table => "table"
  | .cell => "cell"
  | .list => "list"
  | .listItem => "listitem"
  | .treeGrid => "treegrid"
  | .dialog => "dialog"
  | .progressBar => "progressbar"
  | .group => "group"
  | .generic => "generic"

/-- The role with a given ARIA name. -/
def ofAriaName? (name : String) : Option Role :=
  all.find? fun role => role.ariaName = name

/-- The role under which a node is exported. -/
def platform : Role → PlatformRole
  | .region => .region
  | .checkBox => .checkBox
  | .radio => .radioButton
  | .button => .button
  | .textBox => .textInput
  | .menuBar => .menuBar
  | .menuItem => .menuItem
  | .tree => .tree
  | .treeItem => .treeItem
  | .toolBar => .toolbar
  | .tab => .tab
  | .tabPanel => .tabPanel
  | .table => .table
  | .cell => .cell
  | .list => .list
  | .listItem => .listItem
  | .treeGrid => .treeGrid
  | .dialog => .dialog
  | .progressBar => .progressIndicator
  | .group => .group
  | .generic => .genericContainer

end Role

end AssistiveTree
