import AssistiveTree.Error
import AssistiveTree.Role

/-!
# Classification of widgets

A widget's code decides the role of its node and what else the node carries.
Most kinds become a node with a plain role. Interactive kinds accept
activation, radio buttons share a group name and text fields get a companion.
-/

namespace AssistiveTree

/-- The role in words of custom-drawn widgets. -/
def customRoleDescription : String := "custom"

/-- What a node carries beyond its role. -/
inductive ConstructionRule
  | plain
  /-- A role in words. -/
  | roleDescription (text : String)
  /-- An activation. -/
  | activatable (activation : Activation)
  /-- The widget's name as a group name, and toggling. -/
  | radioGroup
  /-- A live companion that repeats the selected text. -/
  | liveSelection
  deriving DecidableEq

namespace ConstructionRule

/-- The activation that a node built by the rule accepts. -/
def activation? : ConstructionRule → Option Activation
  | .activatable activation => some activation
  | .radioGroup => some .toggle
  | .plain => none
  | .roleDescription _ => none
  | .liveSelection => none

/-- Whether the rule adds a companion. -/
def hasCompanion (rule : ConstructionRule) : Bool := rule = .liveSelection

end ConstructionRule

/-- The outcome of classifying a widget. -/
structure Classification where
  role : Role
  rule : ConstructionRule := .plain
  deriving DecidableEq

/-- Without better knowledge a widget is a plain region. -/
instance : Inhabited Classification := ⟨{ role := default }⟩

/-- The classification of a kind. -/
def Kind.classification : Kind → Classification
  | .notAccessible => { role := .region }
  | .custom =>
      { role := .region, rule := .roleDescription customRoleDescription }
  | .checkBox => { role := .checkBox, rule := .activatable .toggle }
  | .radioButton => { role := .radio, rule := .radioGroup }
  | .button => { role := .button, rule := .activatable .invoke }
  | .toggleButton => { role := .button, rule := .activatable .toggle }
  | .textBox => { role := .textBox }
  | .menuBar => { role := .menuBar }
  | .menuItem => { role := .menuItem }
  | .pane => { role := .region }
  | .tree => { role := .tree }
  | .treeItem => { role := .treeItem }
  | .toolBar => { role := .toolBar }
  | .tab => { role := .tab }
  | .tabPane => { role := .tabPanel }
  | .table => { role := .table }
  | .cell => { role := .cell }
  | .textField => { role := .textBox, rule := .liveSelection }
  | .list => { role := .list }
  | .listItem => { role := .listItem }
  | .treeTable => { role := .treeGrid }
  | .dialog => { role := .dialog }
  | .popupMenu => { role := .region }
  | .progressBar => { role := .progressBar }
  | .treeTableCell => { role := .region }
  | .group => { role := .group }

/-- Classify a code. Codes of no kind count as a plain region. -/
def classify (code : Int32) : Classification :=
  match Kind.ofCode? code with
  | some kind => kind.classification
  | none => default

/-- Classify a code, refusing codes of no kind. -/
def classifyStrict (code : Int32) : Except Error Classification :=
  match Kind.ofCode? code with
  | some kind => .ok kind.classification
  | none => .error (.unknownCode code)

end AssistiveTree
