import AssistiveTree.Journal
import AssistiveTree.Table

/-!
# The accessible tree

One root container holds every accessible node as a child, in the order in
which the nodes were attached. Each attached node has a node id that stays the
same while it is attached, is never handed out twice and is never the root's.

Nodes are stored by key in one table and their node ids in another. A third
table leads from node ids back to keys. Every operation edits each of the three
and the list of children on its own.
-/

namespace AssistiveTree

/-- The container of every accessible node. -/
structure RootContainer where
  /-- The id, chosen by the host. -/
  id : NodeId
  label : String
  /-- The widget that has the focus. -/
  activeDescendant : Option WidgetId := none
  /-- The attached nodes, oldest first. -/
  children : List NodeKey := []
  deriving DecidableEq

/-- The accessible tree. -/
structure Tree where
  root : RootContainer
  nodes : Table NodeKey Node := .empty
  nodeIds : Table NodeKey NodeId := .empty
  keys : Table NodeId NodeKey := .empty
  /-- The number from which the next node id is taken. -/
  counter : UInt64 := 1
  deriving DecidableEq

namespace Tree

/-- A tree without nodes. -/
def new (root : NodeId) (label : String) : Tree where
  root := { id := root, label }

/-- A tree after an operation, with the operation's answer and journal. -/
structure Outcome (Answer : Type) where
  tree : Tree
  answer : Answer
  journal : List Journal.Entry

/-- Whether a node is attached. -/
def contains (tree : Tree) (key : NodeKey) : Bool := tree.nodes.contains key

/-- The attached node with a key. -/
def node? (tree : Tree) (key : NodeKey) : Option Node := tree.nodes.get? key

/-- The node id of the attached node with a key. -/
def nodeId? (tree : Tree) (key : NodeKey) : Option NodeId :=
  tree.nodeIds.get? key

/-- The key of the attached node with a node id. -/
def keyOf? (tree : Tree) (id : NodeId) : Option NodeKey := tree.keys.get? id

/-- Number of attached nodes. -/
def size (tree : Tree) : Nat := tree.nodes.size

/-- Whether no node is attached. -/
def isEmpty (tree : Tree) : Bool := tree.nodes.isEmpty

/-- The attached nodes with their keys, in attach order. -/
def toList (tree : Tree) : List (NodeKey × Node) :=
  tree.root.children.filterMap fun key =>
    (tree.node? key).map fun node => (key, node)

/-- The id of the next attached node: the counter, or the number after it when
the counter stands at the root's id. -/
def freshId (tree : Tree) : NodeId :=
  if tree.counter = tree.root.id.raw then ⟨tree.counter + 1⟩
  else ⟨tree.counter⟩

/-- Attach a node as the root's last child. A key that is attached already
stays as it is, and the answer is `false`. -/
def attach (tree : Tree) (key : NodeKey) (node : Node) : Outcome Bool :=
  if tree.contains key then
    ⟨tree, false, [.event (.alreadyAttached key)]⟩
  else
    let id := tree.freshId
    { tree :=
        { root := { tree.root with children := tree.root.children ++ [key] }
          nodes := tree.nodes.insert key node
          nodeIds := tree.nodeIds.insert key id
          keys := tree.keys.insert id key
          counter := id.raw + 1 }
      answer := true
      journal := [.event (.attached key id)] }

/-- Detach a node. The answer is the node, if it was attached. The reverse table
loses the node id that is listed for the key, if one is. -/
def detach (tree : Tree) (key : NodeKey) : Outcome (Option Node) :=
  match tree.nodes.get? key with
  | none => ⟨tree, none, []⟩
  | some node =>
      { tree :=
          { tree with
            root.children := tree.root.children.filter fun child => child ≠ key
            nodes := tree.nodes.erase key
            nodeIds := tree.nodeIds.erase key
            keys :=
              match tree.nodeIds.get? key with
              | some id => tree.keys.erase id
              | none => tree.keys }
        answer := some node
        journal := [.event (.detached key)] }

/-- Detach every node. The answer is their number. Node ids are not reused. -/
def detachAll (tree : Tree) : Outcome Nat where
  tree :=
    { tree with
      root.children := []
      nodes := .empty
      nodeIds := .empty
      keys := .empty }
  answer := tree.root.children.length
  journal := []

/-- Change an attached node. -/
def modify (tree : Tree) (key : NodeKey) (change : Node → Node) : Tree :=
  { tree with nodes := tree.nodes.modify key change }

/-- Point the root's active descendant at a widget, or at none. -/
def setActiveDescendant (tree : Tree) (focus : Option WidgetId) : Tree :=
  { tree with root.activeDescendant := focus }

end Tree

end AssistiveTree
