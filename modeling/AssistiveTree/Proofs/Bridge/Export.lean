import AssistiveTree.Bridge.Export
import AssistiveTree.Proofs.Bridge.Coherence
import AssistiveTree.Proofs.Bridge.Focus

/-!
# Shape of the export

The export lists the root container and behind it one entry for each attached
node. While node ids last, the entries have different ids, and every id that an
entry mentions is the id of an entry. Only the root has children and an active
descendant, only companions are labelled by another node, and no entry supports
the focus action.
-/

namespace AssistiveTree

/-- The node ids that an exported node mentions. -/
def ExportNode.mentions (node : ExportNode) : List NodeId :=
  node.children ++ node.activeDescendant.toList ++ node.labelledBy ++
    node.radioGroup

/-- The node ids that an export lists. -/
def TreeUpdate.ids (update : TreeUpdate) : List NodeId :=
  update.nodes.map (·.1)

/-- An export as the platform relies on it. -/
structure TreeUpdate.WellFormed
    (update : TreeUpdate)
    (rootId : NodeId) : Prop where
  root : update.root = some rootId
  distinct : update.ids.Nodup
  /-- The root container stands first, its children are the other entries, and
  the focus is on its active descendant or on itself. -/
  container : ∃ container rest,
    update.nodes = (rootId, container) :: rest ∧
      container.role = .genericContainer ∧
      container.children = rest.map (·.1) ∧
      update.focus = container.activeDescendant.getD rootId ∧
      ∀ entry ∈ rest,
        entry.2.children = [] ∧ entry.2.activeDescendant = none
  closed : ∀ entry ∈ update.nodes, ∀ id ∈ entry.2.mentions, id ∈ update.ids
  focus : update.focus ∈ update.ids
  unfocusable : ∀ entry ∈ update.nodes, .focus ∉ entry.2.actions

namespace Bridge

/-- Every companion follows its owner and is labelled by it, and nothing else
is labelled by another node. -/
structure LabelsCompanions (bridge : Bridge) : Prop where
  companions : ∀ owner id,
    bridge.tree.nodeId? (.selection owner) = some id →
    ∃ before ownerId ownerNode node after,
      bridge.treeUpdate.nodes =
          before ++ (ownerId, ownerNode) :: (id, node) :: after ∧
        bridge.tree.nodeId? (.widget owner) = some ownerId ∧
        node.labelledBy = [ownerId]
  others : ∀ entry ∈ bridge.treeUpdate.nodes,
    (∀ owner, bridge.tree.nodeId? (.selection owner) ≠ some entry.1) →
    entry.2.labelledBy = []

/-! ## Exported nodes -/

/-- A built node has the children that were added. -/
theorem build_eq
    {Vocabulary : Type}
    {builder : NodeBuilder Vocabulary}
    (childless : builder.node.children = []) :
    builder.build = { builder.node with children := builder.children } := by
  unfold NodeBuilder.build
  split
  · next none =>
    rw [none, ← childless]
  · rfl

/-- What a builder collects from a node: empty texts stay unset, and at most
the click action is supported. -/
theorem ofNodeIn_eq
    {Vocabulary : Type}
    (named : PlatformRole → Vocabulary)
    (node : Node) :
    NodeBuilder.ofNodeIn named node =
      { node :=
          { role := named node.role.platform
            label := if node.label = "" then none else some node.label
            description :=
              if node.description = "" then none else some node.description
            roleDescription := node.roleDescription
            value := node.value
            numericValue := node.numericValue
            toggled := node.toggled
            expanded := node.expanded
            live := node.effectiveLive
            actions := if node.isActivatable then [.click] else [] } } := by
  have click : Action.all.filter (fun other => other = .click) = [.click] := by
    decide
  unfold NodeBuilder.ofNodeIn
  by_cases unlabelled : node.label = "" <;>
    by_cases undescribed : node.description = "" <;>
      cases node.isActivatable <;>
        simp [unlabelled, undescribed, NodeBuilder.label,
          NodeBuilder.description, NodeBuilder.action, click]

theorem ofNode_eq (node : Node) :
    NodeBuilder.ofNode node =
      { node :=
          { role := node.role.platform
            label := if node.label = "" then none else some node.label
            description :=
              if node.description = "" then none else some node.description
            roleDescription := node.roleDescription
            value := node.value
            numericValue := node.numericValue
            toggled := node.toggled
            expanded := node.expanded
            live := node.effectiveLive
            actions := if node.isActivatable then [.click] else [] } } :=
  ofNodeIn_eq id node

/-! ## Collected radio groups -/

/-- The members that the pass over the tree collects for a name. -/
def radioGroup (bridge : Bridge) (name : String) : List NodeId :=
  (bridge.radioGroups.get? name).getD []

/-- A node joins the group of its group name and no other. -/
theorem getD_joinGroup
    (bridge : Bridge)
    (groups : Table String (List NodeId))
    (entry : NodeKey × Node)
    (name : String) :
    ((bridge.joinGroup groups entry).get? name).getD [] =
      (groups.get? name).getD [] ++
        (if entry.2.groupName = some name then bridge.tree.nodeId? entry.1
          else none).toList := by
  unfold joinGroup
  cases named : entry.2.groupName with
  | none => simp
  | some other =>
      cases listed : bridge.tree.nodeId? entry.1 with
      | none => simp
      | some id =>
          simp only [Table.getD_push, Option.some.injEq]
          by_cases same : name = other <;> simp [same, eq_comm]

/-- The members of a group are the node ids of all nodes with its name, in
attach order. -/
theorem radioGroup_eq_filterMap (bridge : Bridge) (name : String) :
    bridge.radioGroup name =
      bridge.tree.toList.filterMap fun entry =>
        if entry.2.groupName = some name then bridge.tree.nodeId? entry.1
        else none := by
  unfold radioGroup radioGroups
  induction bridge.tree.toList using List.reverseRecOn with
  | nil => rfl
  | append_singleton entries entry inductionHypothesis =>
      rw [List.foldl_concat, getD_joinGroup, inductionHypothesis,
        List.filterMap_append]
      rfl

/-! ## Exported entries -/

/-- An exported node mentions its owner and its radio group, and no other
node. -/
theorem exportNode_eq (bridge : Bridge) (node : Node) :
    bridge.exportNode node =
      { (NodeBuilder.ofNode node).node with
        labelledBy := (node.companionOf.bind bridge.tree.nodeId?).toList
        radioGroup := (node.groupName.map bridge.radioGroup).getD [] } := by
  have group : (node.groupName.map bridge.radioGroup).getD [] =
      (node.groupName.bind bridge.radioGroups.get?).getD [] := by
    cases node.groupName <;> rfl
  rw [group]
  unfold exportNode exportNodeIn
  cases node.companionOf.bind bridge.tree.nodeId? <;>
    cases node.groupName.bind bridge.radioGroups.get? <;>
      simp [ofNode_eq, NodeBuilder.build, NodeBuilder.labelledBy,
        NodeBuilder.radioGroup]

/-- The root container mentions its children and its active descendant. -/
theorem exportRoot_eq (bridge : Bridge) :
    bridge.exportRoot =
      { role := .genericContainer
        label := some bridge.tree.root.label
        children := bridge.tree.root.children.filterMap bridge.tree.nodeId?
        activeDescendant := bridge.tree.root.activeDescendant.bind fun id =>
          bridge.tree.nodeId? (.widget id) } := by
  simp only [exportRoot]
  cases bridge.tree.root.activeDescendant.bind fun id =>
    bridge.tree.nodeId? (.widget id) with
  | none =>
      simp only
      rw [build_eq] <;> rfl
  | some active =>
      simp only
      rw [build_eq] <;> rfl

/-! ## Exported trees -/

namespace Holds

variable {bridge : Bridge} {holdings : List Holding} {attached : Nat}

/-- Export skips no node. -/
theorem treeUpdate_nodes (holds : bridge.Holds holdings) :
    bridge.treeUpdate.nodes =
      (bridge.tree.root.id, bridge.exportRoot) ::
        bridge.tree.slots.entries.map fun entry =>
          (entry.2.id, bridge.exportNode entry.2.node) := by
  unfold treeUpdate
  simp only [holds.sound.toList_eq, List.filterMap_map, List.cons.injEq,
    true_and]
  rw [← List.filterMap_eq_map]
  apply List.filterMap_congr
  intro entry member
  have listed : bridge.tree.nodeId? entry.1 = some entry.2.id :=
    holds.sound.nodeId?_of_mem member
  simp [listed, exportNode]

theorem treeUpdate_ids (holds : bridge.Holds holdings) :
    bridge.treeUpdate.ids =
      bridge.tree.root.id ::
        bridge.tree.slots.entries.map fun entry => entry.2.id := by
  rw [TreeUpdate.ids, holds.treeUpdate_nodes, List.map_cons, List.map_map]
  rfl

/-- The id of an attached node is exported. -/
theorem mem_ids
    (holds : bridge.Holds holdings)
    {key : NodeKey}
    {id : NodeId}
    (attachedAs : bridge.tree.nodeId? key = some id) :
    id ∈ bridge.treeUpdate.ids := by
  obtain ⟨node, member⟩ :=
    (holds.sound.nodeId?_eq_some_iff key id).mp attachedAs
  rw [holds.treeUpdate_ids]
  exact List.mem_cons_of_mem _ (List.mem_map.mpr ⟨_, member, rfl⟩)

/-- The root's children are exported in attach order. -/
theorem exportRoot_children (holds : bridge.Holds holdings) :
    bridge.exportRoot.children =
      bridge.tree.slots.entries.map fun entry => entry.2.id := by
  rw [exportRoot_eq, holds.sound.children_eq, Table.keys,
    List.filterMap_map, ← List.filterMap_eq_map]
  apply List.filterMap_congr
  intro entry member
  exact holds.sound.nodeId?_of_mem member

/-- Whatever the root container mentions is exported. -/
theorem exportRoot_closed
    (holds : bridge.Holds holdings)
    {id : NodeId}
    (mentioned : id ∈ bridge.exportRoot.mentions) :
    id ∈ bridge.treeUpdate.ids := by
  have places : id ∈ bridge.exportRoot.children ∨
      bridge.exportRoot.activeDescendant = some id := by
    simpa [ExportNode.mentions, exportRoot_eq] using mentioned
  rcases places with child | active
  · rw [holds.exportRoot_children] at child
    rw [holds.treeUpdate_ids]
    exact List.mem_cons_of_mem _ child
  · rw [exportRoot_eq] at active
    obtain ⟨widget, _, listed⟩ := Option.bind_eq_some_iff.mp active
    exact holds.mem_ids listed

/-- Whatever an exported node mentions is exported. -/
theorem exportNode_closed
    (holds : bridge.Holds holdings)
    {node : Node}
    {id : NodeId}
    (mentioned : id ∈ (bridge.exportNode node).mentions) :
    id ∈ bridge.treeUpdate.ids := by
  have places : node.companionOf.bind bridge.tree.nodeId? = some id ∨
      id ∈ (node.groupName.map bridge.radioGroup).getD [] := by
    simpa [ExportNode.mentions, exportNode_eq, ofNode_eq] using mentioned
  rcases places with owner | member
  · obtain ⟨key, _, listed⟩ := Option.bind_eq_some_iff.mp owner
    exact holds.mem_ids listed
  · cases group : node.groupName with
    | none =>
        rw [group] at member
        exact absurd member List.not_mem_nil
    | some name =>
        rw [group, Option.map_some, Option.getD_some,
          radioGroup_eq_filterMap] at member
        obtain ⟨entry, _, listed⟩ := List.mem_filterMap.mp member
        split at listed
        · exact holds.mem_ids listed
        · cases listed

/-- The focus is exported. -/
theorem focus_mem_ids (holds : bridge.Holds holdings) :
    bridge.treeUpdate.focus ∈ bridge.treeUpdate.ids := by
  change bridge.focusedNode?.getD bridge.tree.root.id ∈ _
  cases focus : bridge.focusedNode? with
  | none =>
      rw [holds.treeUpdate_ids]
      exact List.mem_cons_self
  | some id =>
      obtain ⟨widget, _, listed⟩ := Option.bind_eq_some_iff.mp focus
      exact holds.mem_ids listed

/-- Exported node ids are different, and none is the root's. -/
theorem nodup_ids
    (holds : bridge.Holds holdings)
    (numbered : bridge.tree.Numbered attached) :
    bridge.treeUpdate.ids.Nodup := by
  rw [holds.treeUpdate_ids, List.nodup_cons]
  constructor
  · intro member
    obtain ⟨entry, inSlots, same⟩ := List.mem_map.mp member
    have inUse := Tree.mem_idNumbers (holds.sound.nodeId?_of_mem inSlots)
    exact numbered.reserved _ inUse (by rw [same])
  · have numbers := numbered.nodup_idNumbers
    rw [holds.sound.idNumbers_eq] at numbers
    apply List.Nodup.of_map (·.raw.toNat)
    rw [List.map_map]
    exact numbers

/-- The export of a bridge is well-formed while its node ids last. -/
theorem wellFormed
    (holds : bridge.Holds holdings)
    (numbered : bridge.tree.Numbered attached)
    (focused : bridge.Focused) :
    bridge.treeUpdate.WellFormed bridge.tree.root.id where
  root := rfl
  distinct := holds.nodup_ids numbered
  container := by
    refine ⟨bridge.exportRoot, _, holds.treeUpdate_nodes, ?_, ?_, ?_, ?_⟩
    · rw [exportRoot_eq]
    · rw [holds.exportRoot_children, List.map_map]
      rfl
    · rw [exportRoot_eq, focused]
      rfl
    · intro entry member
      obtain ⟨slot, _, rfl⟩ := List.mem_map.mp member
      simp only [exportNode_eq, ofNode_eq, and_self]
  closed := by
    intro entry member id mentioned
    rw [holds.treeUpdate_nodes, List.mem_cons] at member
    rcases member with rfl | inRest
    · exact holds.exportRoot_closed mentioned
    · obtain ⟨slot, _, rfl⟩ := List.mem_map.mp inRest
      exact holds.exportNode_closed mentioned
  focus := holds.focus_mem_ids
  unfocusable := by
    intro entry member
    rw [holds.treeUpdate_nodes, List.mem_cons] at member
    rcases member with rfl | inRest
    · simp [exportRoot_eq]
    · obtain ⟨slot, _, rfl⟩ := List.mem_map.mp inRest
      cases activatable : slot.2.node.isActivatable <;>
        simp [exportNode_eq, ofNode_eq, activatable]

/-- Companions know their owners, and primary nodes have none. -/
theorem companionOf_of_mem
    (holds : bridge.Holds holdings)
    {entry : NodeKey × Slot}
    (member : entry ∈ bridge.tree.slots.entries) :
    entry.2.node.companionOf =
      match entry.1 with
      | .widget _ => none
      | .selection owner => some (.widget owner) := by
  have found : bridge.node? entry.1 = some entry.2.node :=
    holds.sound.node?_of_mem member
  have coherent := holds.coherentAt entry.1.owner
  cases key : entry.1 with
  | widget owner =>
      rw [key] at found coherent
      exact (coherent.primary _ found).1
  | selection owner =>
      rw [key] at found coherent
      exact (coherent.selection _ found).companionOf

/-- Companions, and no others, are labelled by another node. -/
theorem labelledBy_of_mem
    (holds : bridge.Holds holdings)
    {entry : NodeKey × Slot}
    (member : entry ∈ bridge.tree.slots.entries) :
    (bridge.exportNode entry.2.node).labelledBy =
      match entry.1 with
      | .widget _ => []
      | .selection owner => (bridge.tree.nodeId? (.widget owner)).toList := by
  rw [exportNode_eq, holds.companionOf_of_mem member]
  cases entry.1 <;> rfl

/-- The owner of an attached companion is attached. -/
theorem exists_ownerId
    (holds : bridge.Holds holdings)
    {owner : WidgetId}
    {slot : Slot}
    (member : (.selection owner, slot) ∈ bridge.tree.slots.entries) :
    ∃ ownerId, bridge.tree.nodeId? (.widget owner) = some ownerId := by
  obtain ⟨holding, held, _, rfl⟩ := holds.exists_of_mem_slots member
  exact ⟨_, holds.nodeId?_widget held⟩

/-- Every companion stands behind its owner and names it. -/
theorem labelsCompanions (holds : bridge.Holds holdings) :
    bridge.LabelsCompanions where
  companions := by
    intro owner id listed
    obtain ⟨node, member⟩ := (holds.sound.nodeId?_eq_some_iff _ _).mp listed
    have labelled : (bridge.exportNode node).labelledBy =
        (bridge.tree.nodeId? (.widget owner)).toList :=
      holds.labelledBy_of_mem member
    obtain ⟨holding, held, _, rfl⟩ := holds.exists_of_mem_slots member
    have companion : holding.companion = some ⟨id, node⟩ := by
      rw [← holds.get?_selection held]
      exact Table.get?_of_mem_entries holds.sound.distinct_slots member
    have ownerListed := holds.nodeId?_widget held
    rw [ownerListed] at labelled
    obtain ⟨earlier, later, rfl⟩ := List.append_of_mem held
    have nodes := holds.treeUpdate_nodes
    rw [holds.slots, List.flatMap_append, List.flatMap_cons, Holding.slots,
      companion, List.map_append] at nodes
    exact ⟨_ :: _, _, _, _, _, nodes, ownerListed, labelled⟩
  others := by
    intro entry member notCompanion
    rw [holds.treeUpdate_nodes, List.mem_cons] at member
    rcases member with rfl | inRest
    · rw [exportRoot_eq]
    · obtain ⟨⟨key, slot⟩, inSlots, rfl⟩ := List.mem_map.mp inRest
      cases key with
      | selection owner =>
          exact absurd (holds.sound.nodeId?_of_mem inSlots)
            (notCompanion owner)
      | widget owner => exact holds.labelledBy_of_mem inSlots

end Holds

/-- The export of every reachable bridge is well-formed while node ids last: it
lists the root under the configured id and one entry for each attached node, it
labels the companions, and the focus alone is reported in the same way. -/
theorem run_treeUpdate
    (config : Config)
    (operations : List Operation)
    (room : Journal.attachments ((new config).run operations).journal ≤
      Tree.attachmentLimit) :
    ((new config).run operations).bridge.treeUpdate.nodes.length =
        1 + ((new config).run operations).bridge.tree.size ∧
      ((new config).run operations).bridge.treeUpdate.WellFormed
        config.rootId ∧
      ((new config).run operations).bridge.LabelsCompanions ∧
      ((new config).run operations).bridge.focusUpdate.focus =
        ((new config).run operations).bridge.treeUpdate.focus := by
  obtain ⟨holdings, holds⟩ := run_holds config operations
  have root := (run_edits (new config) operations).root.1
  have wellFormed := holds.wellFormed (run_numbered config operations room)
    (run_focused config operations)
  rw [root] at wellFormed
  refine ⟨?_, wellFormed, holds.labelsCompanions, rfl⟩
  have nodes := congrArg List.length holds.sound.entries_nodes
  rw [List.length_map] at nodes
  rw [holds.treeUpdate_nodes, List.length_cons, List.length_map, ← nodes,
    Nat.add_comm]
  rfl

/-- A focused text field below a root whose id the counter has to pass. -/
theorem run_treeUpdate_focusedField :
    Journal.attachments ((new { rootId := ⟨1⟩ }).run
        [.add ⟨0⟩ { id := ⟨5⟩, name := "Search", code := 17 },
          .notify (.focusChanged none (some ⟨5⟩))]).journal = 2 ∧
      ((new { rootId := ⟨1⟩ }).run
        [.add ⟨0⟩ { id := ⟨5⟩, name := "Search", code := 17 },
          .notify (.focusChanged none (some ⟨5⟩))]).bridge.treeUpdate.WellFormed
        ⟨1⟩ ∧
      ((new { rootId := ⟨1⟩ }).run
        [.add ⟨0⟩ { id := ⟨5⟩, name := "Search", code := 17 },
          .notify (.focusChanged none (some ⟨5⟩))]).bridge.LabelsCompanions := by
  have shape := run_treeUpdate { rootId := ⟨1⟩ }
    [.add ⟨0⟩ { id := ⟨5⟩, name := "Search", code := 17 },
      .notify (.focusChanged none (some ⟨5⟩))] (by decide)
  exact ⟨by decide, shape.2.1, shape.2.2.1⟩

end Bridge
end AssistiveTree
