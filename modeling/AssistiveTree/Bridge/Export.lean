import AssistiveTree.Bridge
import AssistiveTree.Export.Node

/-!
# Export of the tree

The platform reads the tree as a list of nodes with node ids, root container
first, and the id of the focused node. A focused widget without an attached
node leaves the focus on the root.
-/

namespace AssistiveTree

/-- What the platform is told about the tree. -/
structure TreeUpdate where
  nodes : List (NodeId × ExportNode)
  /-- The root, when the update describes the whole tree. -/
  root : Option NodeId
  focus : NodeId
  deriving DecidableEq

namespace Bridge

/-- The node id of the focused widget's primary node, if it is attached. -/
def focusedNode? (bridge : Bridge) : Option NodeId :=
  bridge.focus.bind fun id => bridge.tree.nodeId? (.widget id)

/-- The radio groups that were collected so far, with one more node. A node
without a group name or a node id joins none. -/
def joinGroup
    (bridge : Bridge)
    (groups : Table String (List NodeId))
    (entry : NodeKey × Node) : Table String (List NodeId) :=
  match entry.2.groupName, bridge.tree.nodeId? entry.1 with
  | some name, some id => groups.push name id
  | _, _ => groups

/-- The node ids of the radio groups by group name, collected in one pass over
the tree. -/
def radioGroups (bridge : Bridge) : Table String (List NodeId) :=
  bridge.tree.toList.foldl bridge.joinGroup .empty

/-- The exported root container. -/
def exportRoot (bridge : Bridge) : ExportNode :=
  let root := bridge.tree.root
  let bare :=
    ((NodeBuilder.new .genericContainer).label root.label).addChildren
      (root.children.filterMap bridge.tree.nodeId?)
  let active := root.activeDescendant.bind fun id =>
    bridge.tree.nodeId? (.widget id)
  match active with
  | some id => (bare.activeDescendant id).build
  | none => bare.build

/-- An attached node as it is exported, given the radio groups: companions are
labelled by their owners, and radio buttons name the members of their group. -/
def exportNodeIn
    (bridge : Bridge)
    (groups : Table String (List NodeId))
    (node : Node) : ExportNode :=
  let base := NodeBuilder.ofNode node
  let owned :=
    match node.companionOf.bind bridge.tree.nodeId? with
    | some owner => base.labelledBy owner
    | none => base
  let grouped :=
    match node.groupName.bind groups.get? with
    | some group => owned.radioGroup group
    | none => owned
  grouped.build

/-- An attached node as it is exported. -/
def exportNode (bridge : Bridge) (node : Node) : ExportNode :=
  bridge.exportNodeIn bridge.radioGroups node

/-- The whole tree for the platform. The radio groups are collected once. -/
def treeUpdate (bridge : Bridge) : TreeUpdate where
  nodes :=
    let groups := bridge.radioGroups
    (bridge.tree.root.id, bridge.exportRoot) ::
      bridge.tree.toList.filterMap fun entry =>
        (bridge.tree.nodeId? entry.1).map fun id =>
          (id, bridge.exportNodeIn groups entry.2)
  root := some bridge.tree.root.id
  focus := bridge.focusedNode?.getD bridge.tree.root.id

/-- The journal of exporting the whole tree. -/
def exportJournal : List Journal.Entry := Journal.within .exportTree []

/-- Only the focus for the platform. -/
def focusUpdate (bridge : Bridge) : TreeUpdate where
  nodes := []
  root := none
  focus := bridge.focusedNode?.getD bridge.tree.root.id

end Bridge

end AssistiveTree
