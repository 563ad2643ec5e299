import AssistiveTree.Proofs.Bridge.Entries

/-!
# Fidelity of the export

The export keeps whatever the attached nodes tell assistive technology. If two
bridges export the same, then their nodes stand in one order under the same node
ids, and at each position the attributes, the owner and the members of the radio
group are the same. Only the ids of the widgets, the texts of announcements and
the names of groups are left open.
-/

namespace AssistiveTree

/-- A role is found again from the role under which it is exported. -/
theorem Role.find?_platform (role : Role) :
    Role.all.find? (fun other => other.platform = role.platform) =
      some role := by
  cases role <;> decide

theorem Role.platform_injective : Function.Injective Role.platform := by
  intro first second same
  have found := first.find?_platform
  rw [same, second.find?_platform] at found
  exact (Option.some.inj found).symm

/-- Two nodes tell the same of what they stand for. -/
structure Node.SameAttributes (first second : Node) : Prop where
  role : first.role = second.role
  label : first.label = second.label
  description : first.description = second.description
  roleDescription : first.roleDescription = second.roleDescription
  value : first.value = second.value
  numericValue : first.numericValue = second.numericValue
  toggled : first.toggled = second.toggled
  expanded : first.expanded = second.expanded
  activatable : first.isActivatable = second.isActivatable
  live : first.effectiveLive = second.effectiveLive

namespace Bridge

/-- Two keys stand at one position of two bridges. -/
def Aligned (first second : Bridge) (key other : NodeKey) : Prop :=
  ∃ position : Nat,
    first.tree.root.children[position]? = some key ∧
      second.tree.root.children[position]? = some other

/-- Two keys are those of nodes with one group name. -/
def Grouped (bridge : Bridge) (key mate : NodeKey) : Prop :=
  ∃ name, bridge.groupName? key = some name ∧
    bridge.groupName? mate = some name

/-- The nodes of two keys have one node id, are both primary or both companions
and tell the same. -/
structure Matches (first second : Bridge) (key other : NodeKey) : Prop where
  nodeId : ∃ id, first.tree.nodeId? key = some id ∧
    second.tree.nodeId? other = some id
  kind : key.isPrimary = other.isPrimary
  attributes : ∃ node otherNode, first.node? key = some node ∧
    second.node? other = some otherNode ∧ node.SameAttributes otherNode

/-- If the focused widget of one bridge is attached, then it stands where the
focused widget of another does. -/
def FollowsFocus (first second : Bridge) : Prop :=
  ∀ id, first.focus = some id →
    .widget id ∈ first.tree.root.children →
    ∃ other, second.focus = some other ∧
      first.Aligned second (.widget id) (.widget other)

/-- Two bridges have trees that assistive technology cannot tell apart. -/
structure Mirrors (first second : Bridge) : Prop where
  rootId : first.tree.root.id = second.tree.root.id
  rootLabel : first.tree.root.label = second.tree.root.label
  length : first.tree.root.children.length = second.tree.root.children.length
  nodes : ∀ key other, first.Aligned second key other →
    first.Matches second key other
  /-- Companions at one position belong to widgets at one position. -/
  owners : ∀ owner other,
    first.Aligned second (.selection owner) (.selection other) →
    first.Aligned second (.widget owner) (.widget other)
  /-- The radio buttons fall into the same groups. -/
  groups : ∀ key other mate otherMate,
    first.Aligned second key other → first.Aligned second mate otherMate →
    (first.Grouped key mate ↔ second.Grouped other otherMate)
  focus : first.FollowsFocus second
  focusBack : second.FollowsFocus first

/-! ## Exported attributes -/

/-- A text is found again although empty texts are left out. -/
theorem eq_of_nonempty_eq
    {first second : String}
    (same : (if first = "" then none else some first) =
      if second = "" then none else some second) :
    first = second := by
  by_cases firstEmpty : first = "" <;>
    by_cases secondEmpty : second = "" <;>
      simp_all

/-- Nodes that are exported alike tell the same. -/
theorem sameAttributes_of_exportNode
    {first second : Bridge}
    {node other : Node}
    (same : first.exportNode node = second.exportNode other) :
    node.SameAttributes other := by
  simp only [exportNode_eq, ofNode_eq, ExportNode.mk.injEq] at same
  obtain ⟨role, label, description, roleDescription, value, numericValue,
    toggled, expanded, live, _, actions, _⟩ := same
  refine ⟨Role.platform_injective role, eq_of_nonempty_eq label,
    eq_of_nonempty_eq description, roleDescription, value, numericValue,
    toggled, expanded, ?_, live⟩
  cases activatable : node.isActivatable <;>
    cases otherActivatable : other.isActivatable <;>
      simp_all

namespace Holds

variable {bridge first second : Bridge}
variable {holdings firstHoldings secondHoldings : List Holding}
variable {attached firstAttached secondAttached : Nat}
variable {key other mate otherMate : NodeKey} {id : NodeId} {node : Node}

/-- The radio group of an entry tells which nodes have its group name. -/
theorem grouped_iff
    (holds : bridge.Holds holdings)
    (numbered : bridge.tree.Numbered attached)
    (member : (key, ⟨id, node⟩) ∈ bridge.tree.slots.entries)
    {mateId : NodeId}
    (listed : bridge.tree.nodeId? mate = some mateId) :
    bridge.Grouped key mate ↔
      mateId ∈ (bridge.exportNode node).radioGroup := by
  rw [radioGroup_exportNode, Grouped, holds.groupName?_of_mem member]
  cases node.groupName with
  | none => simp
  | some name =>
      simp [holds.mem_radioGroup_iff_of_nodeId? numbered listed]

/-! ## Equal entries -/

/-- The children of the root are the keys of the slots. -/
theorem exists_slot_of_children
    (holds : bridge.Holds holdings)
    {position : Nat}
    (atPosition : bridge.tree.root.children[position]? = some key) :
    ∃ slot, bridge.tree.slots.entries[position]? = some (key, slot) := by
  rw [holds.sound.children_eq, Table.keys, List.getElem?_map,
    Option.map_eq_some_iff] at atPosition
  obtain ⟨⟨_, slot⟩, found, rfl⟩ := atPosition
  exact ⟨slot, found⟩

section Same

variable (firstHolds : first.Holds firstHoldings)
variable (secondHolds : second.Holds secondHoldings)
variable (same : first.exportSlots first.tree.slots.entries =
  second.exportSlots second.tree.slots.entries)

include firstHolds secondHolds same

/-- Nodes at one position have one node id and are exported alike. -/
theorem slots_of_aligned (aligned : first.Aligned second key other) :
    ∃ id node otherNode,
      (key, Slot.mk id node) ∈ first.tree.slots.entries ∧
        (other, Slot.mk id otherNode) ∈ second.tree.slots.entries ∧
        first.exportNode node = second.exportNode otherNode := by
  obtain ⟨position, atFirst, atSecond⟩ := aligned
  obtain ⟨slot, firstSlot⟩ := firstHolds.exists_slot_of_children atFirst
  obtain ⟨otherSlot, secondSlot⟩ :=
    secondHolds.exists_slot_of_children atSecond
  have entry := congrArg (fun entries => entries[position]?) same
  simp only [exportSlots, List.getElem?_map, firstSlot, secondSlot,
    Option.map_some, Option.some.injEq, Prod.mk.injEq] at entry
  obtain ⟨sameId, exported⟩ := entry
  refine ⟨slot.id, slot.node, otherSlot.node, ?_, ?_, exported⟩
  · exact List.mem_of_getElem? firstSlot
  · rw [sameId]
    exact List.mem_of_getElem? secondSlot

/-- Nodes with one node id stand at one position. -/
theorem aligned_of_nodeId?
    (secondNumbered : second.tree.Numbered secondAttached)
    (listed : first.tree.nodeId? key = some id)
    (otherListed : second.tree.nodeId? other = some id) :
    first.Aligned second key other := by
  obtain ⟨node, member⟩ := (firstHolds.sound.nodeId?_eq_some_iff _ _).mp listed
  obtain ⟨position, found⟩ := List.mem_iff_getElem?.mp member
  have entry := congrArg (fun entries => entries[position]?) same
  simp only [exportSlots, List.getElem?_map, found, Option.map_some] at entry
  obtain ⟨slot, otherFound, sameEntry⟩ := Option.map_eq_some_iff.mp entry.symm
  have otherSlot := secondHolds.sound.nodeId?_of_mem
    (List.mem_of_getElem? otherFound)
  have sameId : slot.2.id = id := congrArg Prod.fst sameEntry
  rw [sameId] at otherSlot
  have sameKey := secondNumbered.key_unique otherSlot otherListed
  refine ⟨position, ?_, ?_⟩
  · rw [firstHolds.sound.children_eq, Table.keys, List.getElem?_map, found]
    rfl
  · rw [secondHolds.sound.children_eq, Table.keys, List.getElem?_map,
      otherFound, ← sameKey]
    rfl

/-- Nodes at one position match. -/
theorem matches_of_aligned (aligned : first.Aligned second key other) :
    first.Matches second key other := by
  obtain ⟨id, node, otherNode, member, otherMember, exported⟩ :=
    slots_of_aligned firstHolds secondHolds same aligned
  have labels := congrArg ExportNode.labelledBy exported
  refine ⟨⟨id, ?_, ?_⟩, ?_, node, otherNode, ?_, ?_, ?_⟩
  · exact firstHolds.sound.nodeId?_of_mem member
  · exact secondHolds.sound.nodeId?_of_mem otherMember
  · rw [firstHolds.labelledBy_of_mem member,
      secondHolds.labelledBy_of_mem otherMember] at labels
    -- Only a companion is labelled, so a primary node matches no companion.
    cases key with
    | widget owner =>
        cases other with
        | widget otherOwner => rfl
        | selection otherOwner =>
            obtain ⟨_, listed⟩ := secondHolds.exists_ownerId otherMember
            simp [listed] at labels
    | selection owner =>
        obtain ⟨_, listed⟩ := firstHolds.exists_ownerId member
        cases other with
        | widget otherOwner => simp [listed] at labels
        | selection otherOwner => rfl
  · exact firstHolds.sound.node?_of_mem member
  · exact secondHolds.sound.node?_of_mem otherMember
  · exact sameAttributes_of_exportNode exported

/-- Companions at one position belong to widgets at one position. -/
theorem owners_of_aligned
    (secondNumbered : second.tree.Numbered secondAttached)
    {owner otherOwner : WidgetId}
    (aligned :
      first.Aligned second (.selection owner) (.selection otherOwner)) :
    first.Aligned second (.widget owner) (.widget otherOwner) := by
  obtain ⟨id, node, otherNode, member, otherMember, exported⟩ :=
    slots_of_aligned firstHolds secondHolds same aligned
  obtain ⟨ownerId, listed⟩ := firstHolds.exists_ownerId member
  obtain ⟨otherId, otherListed⟩ := secondHolds.exists_ownerId otherMember
  have labels := congrArg ExportNode.labelledBy exported
  rw [firstHolds.labelledBy_of_mem member,
    secondHolds.labelledBy_of_mem otherMember] at labels
  simp only [listed, otherListed, Option.toList_some, List.cons.injEq,
    and_true] at labels
  rw [← labels] at otherListed
  exact aligned_of_nodeId? firstHolds secondHolds same secondNumbered listed
    otherListed

/-- Radio buttons at the same positions are in the same groups. -/
theorem grouped_of_aligned
    (firstNumbered : first.tree.Numbered firstAttached)
    (secondNumbered : second.tree.Numbered secondAttached)
    (aligned : first.Aligned second key other)
    (mateAligned : first.Aligned second mate otherMate) :
    first.Grouped key mate ↔ second.Grouped other otherMate := by
  obtain ⟨id, node, otherNode, member, otherMember, exported⟩ :=
    slots_of_aligned firstHolds secondHolds same aligned
  obtain ⟨mateId, listed, otherListed⟩ :=
    (matches_of_aligned firstHolds secondHolds same mateAligned).nodeId
  rw [firstHolds.grouped_iff firstNumbered member listed,
    secondHolds.grouped_iff secondNumbered otherMember otherListed, exported]

/-- If the same node is focused, then focused widgets stand at one position. -/
theorem followsFocus
    (secondNumbered : second.tree.Numbered secondAttached)
    (sameFocus : first.focusedNode? = second.focusedNode?) :
    first.FollowsFocus second := by
  intro widget focused listed
  rw [firstHolds.sound.children_eq] at listed
  obtain ⟨⟨_, slot⟩, member, rfl⟩ := List.mem_map.mp listed
  have assigned : first.tree.nodeId? (.widget widget) = some slot.id :=
    firstHolds.sound.nodeId?_of_mem member
  rw [focusedNode?, focused, Option.bind_some, assigned] at sameFocus
  obtain ⟨other, otherFocused, otherAssigned⟩ :=
    Option.bind_eq_some_iff.mp sameFocus.symm
  exact ⟨other, otherFocused, aligned_of_nodeId? firstHolds secondHolds same
    secondNumbered assigned otherAssigned⟩

end Same

/-- Bridges with equal exports mirror each other while node ids last. -/
theorem mirrors
    (firstHolds : first.Holds firstHoldings)
    (secondHolds : second.Holds secondHoldings)
    (firstNumbered : first.tree.Numbered firstAttached)
    (secondNumbered : second.tree.Numbered secondAttached)
    (firstFocused : first.Focused)
    (secondFocused : second.Focused)
    (same : first.treeUpdate = second.treeUpdate) :
    first.Mirrors second := by
  rw [firstHolds.treeUpdate_eq firstFocused,
    secondHolds.treeUpdate_eq secondFocused, TreeUpdate.whole_inj] at same
  obtain ⟨rootId, rootLabel, focus, entries⟩ := same
  have length := congrArg List.length entries
  rw [exportSlots, exportSlots, List.length_map, List.length_map] at length
  constructor
  · exact rootId
  · exact rootLabel
  · rw [firstHolds.sound.children_eq, secondHolds.sound.children_eq,
      Table.keys, Table.keys, List.length_map, List.length_map, length]
  · intro key other aligned
    exact matches_of_aligned firstHolds secondHolds entries aligned
  · intro owner other aligned
    exact owners_of_aligned firstHolds secondHolds entries secondNumbered
      aligned
  · intro key other mate otherMate aligned mateAligned
    exact grouped_of_aligned firstHolds secondHolds entries firstNumbered
      secondNumbered aligned mateAligned
  · exact followsFocus firstHolds secondHolds entries secondNumbered focus
  · exact followsFocus secondHolds firstHolds entries.symm firstNumbered
      focus.symm

end Holds

/-- Two reachable bridges whose node ids have lasted mirror each other if they
export the same. -/
theorem run_mirrors
    (config otherConfig : Config)
    (operations otherOperations : List Operation)
    (room : Journal.attachments ((new config).run operations).journal ≤
      Tree.attachmentLimit)
    (otherRoom :
      Journal.attachments
          ((new otherConfig).run otherOperations).journal ≤
        Tree.attachmentLimit)
    (same : ((new config).run operations).bridge.treeUpdate =
      ((new otherConfig).run otherOperations).bridge.treeUpdate) :
    ((new config).run operations).bridge.Mirrors
      ((new otherConfig).run otherOperations).bridge := by
  obtain ⟨holdings, holds⟩ := run_holds config operations
  obtain ⟨otherHoldings, otherHolds⟩ := run_holds otherConfig otherOperations
  exact holds.mirrors otherHolds (run_numbered config operations room)
    (run_numbered otherConfig otherOperations otherRoom)
    (run_focused config operations)
    (run_focused otherConfig otherOperations) same

/-- A radio button and a focused text field. -/
def sizeForm : List Operation :=
  [.add ⟨0⟩ { id := ⟨5⟩, name := "Size", code := 3 },
    .add ⟨1⟩ { id := ⟨6⟩, name := "Search", code := 17 },
    .notify (.focusChanged none (some ⟨6⟩))]

/-- The same form of other widgets, after the radio button was renamed. -/
def renamedForm : List Operation :=
  [.add ⟨2⟩ { id := ⟨8⟩, name := "Color", code := 3 },
    .notify (.nameChanged { id := ⟨8⟩, name := "Size", code := 3 }),
    .notify (.focusChanged none (some ⟨9⟩)),
    .add ⟨3⟩ { id := ⟨9⟩, name := "Search", code := 17 }]

/-- The two forms mirror each other although their groups are named
differently. -/
theorem run_mirrors_renamedForm :
    Journal.attachments ((new {}).run sizeForm).journal = 3 ∧
      Journal.attachments ((new {}).run renamedForm).journal = 3 ∧
      ((new {}).run sizeForm).bridge.groupName? (.widget ⟨5⟩) = some "Size" ∧
      ((new {}).run renamedForm).bridge.groupName? (.widget ⟨8⟩) =
        some "Color" ∧
      ((new {}).run sizeForm).bridge.treeUpdate =
        ((new {}).run renamedForm).bridge.treeUpdate ∧
      ((new {}).run sizeForm).bridge.Mirrors
        ((new {}).run renamedForm).bridge := by
  have same : ((new {}).run sizeForm).bridge.treeUpdate =
      ((new {}).run renamedForm).bridge.treeUpdate := by decide
  exact ⟨by decide, by decide, by decide, by decide, same,
    run_mirrors {} {} sizeForm renamedForm (by decide) (by decide) same⟩

end Bridge
end AssistiveTree
