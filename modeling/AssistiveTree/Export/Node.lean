import AssistiveTree.Action
import AssistiveTree.Node

/-!
# Exported nodes

The platform reads nodes in a vocabulary of its own. A builder collects the
properties of one exported node, call by call. A later call replaces what an
earlier one set, children and actions apart, which accumulate.

Which roles there are is the platform's matter. So the vocabulary is a parameter
of exported nodes and builders, and stands for the roles that the bridge needs
unless another one is named.
-/

namespace AssistiveTree

/-- A node as the platform reads it. -/
structure ExportNode (Vocabulary : Type := PlatformRole) where
  role : Vocabulary
  label : Option String := none
  description : Option String := none
  roleDescription : Option String := none
  value : Option String := none
  numericValue : Option Quantity := none
  toggled : Option Bool := none
  expanded : Option Bool := none
  live : Option Politeness := none
  activeDescendant : Option NodeId := none
  /-- The supported actions, in the order of `Action.all`. -/
  actions : List Action := []
  children : List NodeId := []
  labelledBy : List NodeId := []
  radioGroup : List NodeId := []
  deriving DecidableEq

/-- Collects the properties of an exported node. -/
structure NodeBuilder (Vocabulary : Type := PlatformRole) where
  node : ExportNode Vocabulary
  /-- The children that the built node will have. -/
  children : List NodeId := []
  deriving DecidableEq

namespace NodeBuilder

variable {Vocabulary : Type}

/-- Start from a node that has nothing but a role. -/
def new (role : Vocabulary) : NodeBuilder Vocabulary := { node := { role } }

/-- Label the node. -/
def label
    (builder : NodeBuilder Vocabulary)
    (text : String) : NodeBuilder Vocabulary :=
  { builder with node.label := some text }

/-- Describe the node. -/
def description
    (builder : NodeBuilder Vocabulary)
    (text : String) : NodeBuilder Vocabulary :=
  { builder with node.description := some text }

/-- Let the node support one more action. -/
def action
    (builder : NodeBuilder Vocabulary)
    (action : Action) : NodeBuilder Vocabulary :=
  { builder with
    node.actions := Action.all.filter fun other =>
      other = action ∨ other ∈ builder.node.actions }

/-- Add children. -/
def addChildren
    (builder : NodeBuilder Vocabulary)
    (ids : List NodeId) : NodeBuilder Vocabulary :=
  { builder with children := builder.children ++ ids }

/-- Report a node as the focused descendant. -/
def activeDescendant
    (builder : NodeBuilder Vocabulary)
    (id : NodeId) : NodeBuilder Vocabulary :=
  { builder with node.activeDescendant := some id }

/-- Let another node label this one. -/
def labelledBy
    (builder : NodeBuilder Vocabulary)
    (id : NodeId) : NodeBuilder Vocabulary :=
  { builder with node.labelledBy := [id] }

/-- Set the members of the node's radio group. -/
def radioGroup
    (builder : NodeBuilder Vocabulary)
    (ids : List NodeId) : NodeBuilder Vocabulary :=
  { builder with node.radioGroup := ids }

/-- Start from the attributes of an accessible node, in a vocabulary that has
the bridge's roles. Empty texts are left unset. -/
def ofNodeIn
    (named : PlatformRole → Vocabulary)
    (source : Node) : NodeBuilder Vocabulary :=
  let bare : NodeBuilder Vocabulary :=
    { node :=
        { role := named source.role.platform
          roleDescription := source.roleDescription
          value := source.value
          numericValue := source.numericValue
          toggled := source.toggled
          expanded := source.expanded
          live := source.effectiveLive } }
  let labelled := if source.label = "" then bare else bare.label source.label
  let described :=
    if source.description = "" then labelled
    else labelled.description source.description
  if source.isActivatable then described.action .click else described

/-- Start from the attributes of an accessible node. -/
def ofNode (source : Node) : NodeBuilder := ofNodeIn id source

/-- The finished node. -/
def build (builder : NodeBuilder Vocabulary) : ExportNode Vocabulary :=
  if builder.children = [] then builder.node
  else { builder.node with children := builder.children }

/-- One call of a builder. -/
inductive Call
  | label (text : String)
  | description (text : String)
  | action (action : Action)
  | children (ids : List NodeId)
  | activeDescendant (id : NodeId)
  | labelledBy (id : NodeId)
  | radioGroup (ids : List NodeId)
  deriving DecidableEq

/-- Perform one call. -/
def perform (builder : NodeBuilder Vocabulary) : Call → NodeBuilder Vocabulary
  | .label text => builder.label text
  | .description text => builder.description text
  | .action action => builder.action action
  | .children ids => builder.addChildren ids
  | .activeDescendant id => builder.activeDescendant id
  | .labelledBy id => builder.labelledBy id
  | .radioGroup ids => builder.radioGroup ids

/-- Perform calls in order. -/
def performAll
    (builder : NodeBuilder Vocabulary)
    (calls : List Call) : NodeBuilder Vocabulary :=
  calls.foldl perform builder

end NodeBuilder

end AssistiveTree
