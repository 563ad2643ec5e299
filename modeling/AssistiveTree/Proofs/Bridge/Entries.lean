import AssistiveTree.Proofs.Bridge.Groups

/-!
# Entries of the export

The export of a bridge is made of one entry for each slot. A node is exported
from its own attributes, the node id of the node that labels it and the members
of its radio group. So where the slots of one widget come or go, the entries of
the others can change in nothing but their radio groups.
-/

namespace AssistiveTree

/-- The export of a whole tree from the entries of its nodes. -/
def TreeUpdate.whole
    (root : NodeId)
    (label : String)
    (focus : Option NodeId)
    (members : List (NodeId × ExportNode)) : TreeUpdate where
  nodes :=
    (root,
      { role := .genericContainer
        label := some label
        activeDescendant := focus
        children := members.map (·.1) }) :: members
  root := some root
  focus := focus.getD root

@[simp] theorem TreeUpdate.whole_members
    (root : NodeId)
    (label : String)
    (focus : Option NodeId)
    (members : List (NodeId × ExportNode)) :
    (TreeUpdate.whole root label focus members).members = members := rfl

/-- An export of a whole tree tells its parts. -/
theorem TreeUpdate.whole_inj
    {root otherRoot : NodeId}
    {label otherLabel : String}
    {focus otherFocus : Option NodeId}
    {members others : List (NodeId × ExportNode)} :
    whole root label focus members =
        whole otherRoot otherLabel otherFocus others ↔
      root = otherRoot ∧ label = otherLabel ∧ focus = otherFocus ∧
        members = others := by
  constructor
  · intro same
    have nodes := congrArg TreeUpdate.nodes same
    simp only [whole, List.cons.injEq, Prod.mk.injEq, ExportNode.mk.injEq,
      Option.some.injEq, true_and] at nodes
    obtain ⟨⟨sameRoot, sameLabel, sameFocus, _⟩, sameMembers⟩ := nodes
    exact ⟨sameRoot, sameLabel, sameFocus, sameMembers⟩
  · rintro ⟨rfl, rfl, rfl, rfl⟩
    rfl

namespace Bridge

/-- The entries that export some slots. -/
def exportSlots
    (bridge : Bridge)
    (slots : List (NodeKey × Slot)) : List (NodeId × ExportNode) :=
  slots.map fun slot => (slot.2.id, bridge.exportNode slot.2.node)

/-- The node ids of a widget's nodes: the primary one and, for a text field,
the companion's. -/
def idsOf (bridge : Bridge) (id : WidgetId) : List NodeId :=
  [NodeKey.widget id, .selection id].filterMap bridge.tree.nodeId?

/-- The entries that export the nodes of a widget. -/
def entriesOf
    (bridge : Bridge)
    (id : WidgetId) : List (NodeId × ExportNode) :=
  [NodeKey.widget id, .selection id].filterMap fun key =>
    (bridge.node? key).bind fun node =>
      (bridge.tree.nodeId? key).map fun nodeId =>
        (nodeId, bridge.exportNode node)

/-! ## What added nodes carry -/

/-- Radio buttons, and no others, are added with a group name. -/
theorem primaryNode_groupName (widget : Widget) :
    (primaryNode widget).groupName =
      if widget.kind? = some .radioButton then some widget.name else none := by
  unfold primaryNode classify Widget.kind?
  cases Kind.ofCode? widget.code with
  | none => rfl
  | some kind => cases kind <;> rfl

/-- Text fields, and no others, are added with a companion. -/
theorem companionNode?_eq (widget : Widget) :
    companionNode? widget =
      if widget.kind? = some .textField then
        some (.selectionCompanion widget.id)
      else none := by
  unfold companionNode? classify Widget.kind?
  cases Kind.ofCode? widget.code with
  | none => rfl
  | some kind => cases kind <;> rfl

namespace Holds

variable {bridge after : Bridge} {holdings later : List Holding}
variable {attached : Nat} {id : WidgetId}

/-! ## Entries of a widget -/

/-- The export of a bridge by its slots. -/
theorem treeUpdate_eq
    (holds : bridge.Holds holdings)
    (focused : bridge.Focused) :
    bridge.treeUpdate =
      .whole bridge.tree.root.id bridge.tree.root.label bridge.focusedNode?
        (bridge.exportSlots bridge.tree.slots.entries) := by
  have root : bridge.exportRoot =
      { role := .genericContainer
        label := some bridge.tree.root.label
        activeDescendant := bridge.focusedNode?
        children := bridge.exportRoot.children } := by
    rw [exportRoot_eq, focused]
    rfl
  have nodes := holds.treeUpdate_nodes
  rw [root, holds.exportRoot_children] at nodes
  rw [TreeUpdate.whole, exportSlots, List.map_map]
  exact congrArg (fun entries => { bridge.treeUpdate with nodes := entries })
    nodes

/-- The entries of a widget export its slots. -/
theorem entriesOf_eq
    (holds : bridge.Holds holdings)
    {holding : Holding}
    (member : holding ∈ holdings) :
    bridge.entriesOf holding.id = bridge.exportSlots holding.slots := by
  simp only [entriesOf, holds.nodeId?_widget member,
    holds.nodeId?_selection member, holds.node?_widget member,
    holds.node?_selection member, List.filterMap_cons, List.filterMap_nil,
    exportSlots, Holding.slots]
  cases holding.companion <;> rfl

theorem idsOf_eq
    (holds : bridge.Holds holdings)
    {holding : Holding}
    (member : holding ∈ holdings) :
    bridge.idsOf holding.id = holding.slots.map fun slot => slot.2.id := by
  simp only [idsOf, holds.nodeId?_widget member,
    holds.nodeId?_selection member, List.filterMap_cons, List.filterMap_nil,
    Holding.slots]
  cases holding.companion <;> rfl

/-- A slot has one of the node ids of a widget exactly when it is the
widget's. -/
theorem mem_idsOf_iff
    (holds : bridge.Holds holdings)
    (numbered : bridge.tree.Numbered attached)
    {slot : NodeKey × Slot}
    (member : slot ∈ bridge.tree.slots.entries) :
    slot.2.id ∈ bridge.idsOf id ↔ slot.1.owner = id := by
  rw [idsOf, List.mem_filterMap]
  constructor
  · rintro ⟨key, ofWidget, listed⟩
    rw [numbered.key_unique (holds.sound.nodeId?_of_mem member) listed]
    simp only [List.mem_cons, List.not_mem_nil, or_false] at ofWidget
    rcases ofWidget with rfl | rfl <;> rfl
  · rintro rfl
    refine ⟨slot.1, ?_, ?_⟩
    · cases slot.1 <;> simp [NodeKey.owner]
    · exact holds.sound.nodeId?_of_mem member

/-! ## Frames -/

section Others

variable (holds : bridge.Holds holdings) (afterHolds : after.Holds later)
variable (others : (after.tree.slots.entries.filter fun slot =>
    slot.1.owner ≠ id) =
  bridge.tree.slots.entries.filter fun slot => slot.1.owner ≠ id)

include holds afterHolds others

/-- Where the other slots stay, the other keys keep their node ids. -/
theorem nodeId?_of_others
    {key : NodeKey}
    (other : key.owner ≠ id) :
    after.tree.nodeId? key = bridge.tree.nodeId? key := by
  have same : ∀ slot, (key, slot) ∈ after.tree.slots.entries ↔
      (key, slot) ∈ bridge.tree.slots.entries := by
    intro slot
    have kept : ∀ entries : List (NodeKey × Slot),
        (key, slot) ∈ entries ↔
          (key, slot) ∈ entries.filter fun slot => slot.1.owner ≠ id := by
      intro entries
      simp [other]
    rw [kept after.tree.slots.entries, others, ← kept]
  ext nodeId
  rw [afterHolds.sound.nodeId?_eq_some_iff,
    holds.sound.nodeId?_eq_some_iff]
  simp only [same]

/-- Where the other slots stay, their nodes are exported as before, but for the
members of their radio groups. -/
theorem exportNode_of_others
    {slot : NodeKey × Slot}
    (member : slot ∈ bridge.tree.slots.entries)
    (other : slot.1.owner ≠ id) :
    after.exportNode slot.2.node =
      { bridge.exportNode slot.2.node with
        radioGroup :=
          (slot.2.node.groupName.map after.radioGroup).getD [] } := by
  have owner : slot.2.node.companionOf.bind after.tree.nodeId? =
      slot.2.node.companionOf.bind bridge.tree.nodeId? := by
    rw [holds.companionOf_of_mem member]
    cases key : slot.1 with
    | widget owner => rfl
    | selection owner =>
        rw [key] at other
        exact nodeId?_of_others holds afterHolds others other
  rw [exportNode_eq, exportNode_eq, owner]

/-- Where the other slots stay, a focus on another widget is exported as
before. -/
theorem focusedNode?_of_others
    (same : after.focus = bridge.focus)
    (unfocused : bridge.focus ≠ some id) :
    after.focusedNode? = bridge.focusedNode? := by
  rw [focusedNode?, focusedNode?, same]
  cases focus : bridge.focus with
  | none => rfl
  | some widget =>
      have other : (NodeKey.widget widget).owner ≠ id := by
        rintro rfl
        exact unfocused focus
      exact nodeId?_of_others holds afterHolds others other

end Others

end Holds

end Bridge
end AssistiveTree
