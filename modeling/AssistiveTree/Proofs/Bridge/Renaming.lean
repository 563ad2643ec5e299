import AssistiveTree.Proofs.Bridge.Contents
import AssistiveTree.Proofs.Bridge.Export
import AssistiveTree.Proofs.Tree.Assignment
import Mathlib.Data.List.Pairwise

/-!
# Renaming of node ids

The node ids of alike bridges correspond: the root's id to the root's, and the
id of a node to the id of the node with the same key. While node ids last, this
renaming keeps the order of the nodes' ids and turns all that is exported by one
bridge into what is exported by the other. So a bridge that was shut down is as
good as a new one, and the choice of the root's id shows in nothing but names.
-/

namespace AssistiveTree

/-- An exported node with its node ids renamed. -/
def ExportNode.rename
    (names : NodeId → NodeId)
    (node : ExportNode) : ExportNode :=
  { node with
    activeDescendant := node.activeDescendant.map names
    children := node.children.map names
    labelledBy := node.labelledBy.map names
    radioGroup := node.radioGroup.map names }

/-- An export with its node ids renamed. -/
def TreeUpdate.rename
    (names : NodeId → NodeId)
    (update : TreeUpdate) : TreeUpdate where
  nodes := update.nodes.map fun entry => (names entry.1, entry.2.rename names)
  root := update.root.map names
  focus := names update.focus

/-- An error with its node id renamed, if it tells one. -/
def Error.rename (names : NodeId → NodeId) : Error → Error
  | .unknownNode id => .unknownNode (names id)
  | error => error

/-- One key has a smaller node id than another. -/
def Tree.Older (tree : Tree) (older newer : NodeKey) : Prop :=
  ∀ id other, tree.nodeId? older = some id →
    tree.nodeId? newer = some other → id.raw < other.raw

/-- Node ids increase along the keys. -/
theorem Tree.Numbered.pairwise_older
    {tree : Tree}
    {attached : Nat}
    (numbered : tree.Numbered attached)
    (sound : tree.Sound) :
    tree.nodes.keys.Pairwise tree.Older := by
  have increasing := numbered.pairwise_ids
  rw [Table.values, List.pairwise_map] at increasing
  rw [← sound.aligned, Table.keys, List.pairwise_map]
  refine increasing.imp_of_mem ?_
  intro older newer olderMember newerMember less id other olderId newerId
  have olderListed : tree.nodeId? older.1 = some older.2 :=
    Table.get?_of_mem_entries sound.distinct_nodeIds olderMember
  have newerListed : tree.nodeId? newer.1 = some newer.2 :=
    Table.get?_of_mem_entries sound.distinct_nodeIds newerMember
  obtain rfl := Option.some.inj (olderListed.symm.trans olderId)
  obtain rfl := Option.some.inj (newerListed.symm.trans newerId)
  exact less

/-- Only attached keys have a node id. -/
theorem Tree.Sound.mem_keys_of_nodeId?
    {tree : Tree}
    (sound : tree.Sound)
    {key : NodeKey}
    {id : NodeId}
    (listed : tree.nodeId? key = some id) :
    key ∈ tree.nodes.keys := by
  by_contra absent
  rw [(sound.nodeId?_eq_none_iff key).mpr absent] at listed
  cases listed

/-- No node of a numbered tree has the root's id. -/
theorem Tree.Numbered.ne_root
    {tree : Tree}
    {attached : Nat}
    (numbered : tree.Numbered attached)
    {key : NodeKey}
    {id : NodeId}
    (listed : tree.nodeId? key = some id) :
    id ≠ tree.root.id := by
  rintro rfl
  exact numbered.reserved _ (Tree.mem_idNumbers listed) rfl

/-- The root's id leads to no key. -/
theorem Tree.Numbered.keyOf?_root
    {tree : Tree}
    {attached : Nat}
    (numbered : tree.Numbered attached)
    (sound : tree.Sound) :
    tree.keyOf? tree.root.id = none := by
  rw [Option.eq_none_iff_forall_ne_some]
  intro key found
  have listed := (numbered.keyOf?_eq_some_iff sound _ _).mp found
  exact numbered.ne_root listed rfl

namespace Bridge

/-- The node id that corresponds to one of another bridge: the root's id to the
root's, and a node's id to that of the node with the same key. -/
def counterpart (first second : Bridge) (id : NodeId) : NodeId :=
  if id = first.tree.root.id then second.tree.root.id
  else ((first.tree.keyOf? id).bind second.tree.nodeId?).getD id

/-- Two bridges tell the same and call the same subscribers. -/
structure Agrees (first second : Bridge) : Prop where
  registry : second.registry = first.registry
  focus : second.focus = first.focus
  activeDescendant :
    second.tree.root.activeDescendant = first.tree.root.activeDescendant
  children : second.tree.root.children = first.tree.root.children
  nodes : ∀ key, second.node? key = first.node? key
  /-- Whatever happens next, the same calls are made. -/
  calls : ∀ operation,
    (second.perform operation).calls = (first.perform operation).calls

/-- Renaming node ids leads from the exports and answers of one bridge to those
of another. -/
structure Renames
    (names : NodeId → NodeId)
    (first second : Bridge) : Prop where
  root : names first.tree.root.id = second.tree.root.id
  nodeIds : ∀ key,
    second.tree.nodeId? key = (first.tree.nodeId? key).map names
  injective : ∀ id ∈ first.treeUpdate.ids, ∀ other ∈ first.treeUpdate.ids,
    names id = names other → id = other
  /-- The node ids keep their order. The root's id is the host's choice and may
  stand on different sides of them. -/
  increasing : ∀ key id otherKey other,
    first.tree.nodeId? key = some id →
    first.tree.nodeId? otherKey = some other →
    id.raw < other.raw → (names id).raw < (names other).raw
  treeUpdate : second.treeUpdate = first.treeUpdate.rename names
  focusUpdate : second.focusUpdate = first.focusUpdate.rename names
  /-- Requests for corresponding nodes have corresponding answers. -/
  resolve : ∀ living action, ∀ target ∈ first.treeUpdate.ids,
    second.resolve living ⟨action, names target⟩ =
      (first.resolve living ⟨action, target⟩).mapError (·.rename names)

namespace Alike

variable {first second : Bridge}

theorem keys (alike : first.Alike second) :
    second.tree.nodes.keys = first.tree.nodes.keys := by
  rw [alike.nodes]

theorem sound (alike : first.Alike second) :
    first.tree.Sound ∧ second.tree.Sound := by
  obtain ⟨_, ⟨_, holds, _⟩, ⟨_, others, _⟩⟩ := alike.contents
  exact ⟨holds.sound, others.sound⟩

theorem node? (alike : first.Alike second) (key : NodeKey) :
    second.node? key = first.node? key := by
  rw [Bridge.node?, Bridge.node?, Tree.node?, Tree.node?, alike.nodes]

theorem children (alike : first.Alike second) :
    second.tree.root.children = first.tree.root.children := by
  rw [alike.sound.1.children, alike.sound.2.children, alike.keys]

theorem toList (alike : first.Alike second) :
    second.tree.toList = first.tree.toList := by
  simp only [Tree.toList, Tree.node?, alike.children, alike.nodes]

theorem agrees (alike : first.Alike second) : first.Agrees second where
  registry := alike.registry
  focus := alike.focus
  activeDescendant := alike.activeDescendant
  children := alike.children
  nodes := alike.node?
  calls := alike.calls

/-! ## Exports -/

section Exports

variable {names : NodeId → NodeId}
variable (alike : first.Alike second)
variable (nodeIds : ∀ key,
  second.tree.nodeId? key = (first.tree.nodeId? key).map names)

include alike nodeIds

theorem focusedNode? :
    second.focusedNode? = first.focusedNode?.map names := by
  simp only [Bridge.focusedNode?, alike.focus, nodeIds, Option.map_bind]
  rfl

theorem radioGroup (name : String) :
    second.radioGroup name = (first.radioGroup name).map names := by
  simp only [radioGroup_eq_filterMap, alike.toList, nodeIds,
    List.map_filterMap]
  apply List.filterMap_congr
  intro entry _
  split <;> rfl

theorem exportRoot : second.exportRoot = first.exportRoot.rename names := by
  simp only [exportRoot_eq, ExportNode.rename, alike.label, alike.children,
    alike.activeDescendant, nodeIds, Option.map_bind, List.map_filterMap,
    List.map_nil]
  rfl

theorem exportNode (node : Node) :
    second.exportNode node = (first.exportNode node).rename names := by
  have owner : (node.companionOf.bind second.tree.nodeId?).toList =
      (node.companionOf.bind first.tree.nodeId?).toList.map names := by
    cases node.companionOf with
    | none => rfl
    | some key =>
        cases listed : first.tree.nodeId? key <;> simp [nodeIds, listed]
  have group : (node.groupName.map second.radioGroup).getD [] =
      ((node.groupName.map first.radioGroup).getD []).map names := by
    cases node.groupName with
    | none => rfl
    | some name => exact alike.radioGroup nodeIds name
  simp only [exportNode_eq, ofNode_eq, ExportNode.rename, owner, group,
    Option.map_none, List.map_nil]

theorem focus_getD (root : names first.tree.root.id = second.tree.root.id) :
    second.focusedNode?.getD second.tree.root.id =
      names (first.focusedNode?.getD first.tree.root.id) := by
  rw [alike.focusedNode? nodeIds, ← root]
  cases first.focusedNode? <;> rfl

theorem treeUpdate (root : names first.tree.root.id = second.tree.root.id) :
    second.treeUpdate = first.treeUpdate.rename names := by
  have focus := alike.focus_getD nodeIds root
  have members : (second.tree.toList.filterMap fun entry =>
        (second.tree.nodeId? entry.1).map fun id =>
          (id, second.exportNode entry.2)) =
      (first.tree.toList.filterMap fun entry =>
        (first.tree.nodeId? entry.1).map fun id =>
          (id, first.exportNode entry.2)).map fun entry =>
        (names entry.1, entry.2.rename names) := by
    rw [alike.toList, List.map_filterMap]
    apply List.filterMap_congr
    intro entry _
    rw [nodeIds, alike.exportNode nodeIds, Option.map_map, Option.map_map]
    rfl
  simp only [Bridge.exportNode] at members
  simp only [Bridge.treeUpdate, TreeUpdate.rename, focus, members,
    alike.exportRoot nodeIds, root, List.map_cons, Option.map_some]

theorem focusUpdate (root : names first.tree.root.id = second.tree.root.id) :
    second.focusUpdate = first.focusUpdate.rename names := by
  have focus := alike.focus_getD nodeIds root
  simp only [Bridge.focusUpdate, TreeUpdate.rename, focus, List.map_nil,
    Option.map_none]

end Exports

/-! ## Corresponding node ids -/

section Numbers

variable {attached others : Nat}
variable (alike : first.Alike second)
variable (numbered : first.tree.Numbered attached)
variable (othersNumbered : second.tree.Numbered others)

include alike

/-- Keys that are attached to one of two alike bridges are attached to both. -/
theorem exists_nodeId?
    {key : NodeKey}
    {id : NodeId}
    (listed : first.tree.nodeId? key = some id) :
    ∃ other, second.tree.nodeId? key = some other := by
  have attached := alike.sound.1.mem_keys_of_nodeId? listed
  rw [← alike.keys] at attached
  rw [← Option.ne_none_iff_exists', Ne, alike.sound.2.nodeId?_eq_none_iff]
  exact not_not_intro attached

/-- Whatever is exported is the root's id or that of a key. -/
theorem exists_key_of_mem_ids
    {id : NodeId}
    (exported : id ∈ first.treeUpdate.ids) :
    id = first.tree.root.id ∨
      ∃ key, first.tree.nodeId? key = some id := by
  obtain ⟨_, ⟨_, holds, _⟩, _⟩ := alike.contents
  rw [holds.treeUpdate_ids, List.mem_cons] at exported
  refine exported.imp_right ?_
  intro member
  obtain ⟨entry, inSlots, rfl⟩ := List.mem_map.mp member
  exact ⟨entry.1, holds.sound.nodeId?_of_mem inSlots⟩

include numbered

/-- The node id of a key corresponds to the node id of the same key. -/
theorem nodeId?_counterpart (key : NodeKey) :
    second.tree.nodeId? key =
      (first.tree.nodeId? key).map (first.counterpart second) := by
  cases listed : first.tree.nodeId? key with
  | some id =>
      obtain ⟨other, otherListed⟩ := alike.exists_nodeId? listed
      have found := (numbered.keyOf?_eq_some_iff alike.sound.1 _ _).mpr listed
      have member := numbered.ne_root listed
      simp [counterpart, member, found, otherListed]
  | none =>
      cases otherListed : second.tree.nodeId? key with
      | none => rfl
      | some other =>
          have attached := alike.sound.2.mem_keys_of_nodeId? otherListed
          rw [alike.keys] at attached
          exact absurd attached
            ((alike.sound.1.nodeId?_eq_none_iff _).mp listed)

theorem counterpart_of_nodeId?
    {key : NodeKey}
    {id : NodeId}
    (listed : first.tree.nodeId? key = some id) :
    second.tree.nodeId? key = some (first.counterpart second id) := by
  rw [alike.nodeId?_counterpart numbered, listed, Option.map_some]

include othersNumbered

/-- Two nodes were attached in the same order to both bridges, and along it both
number upwards. -/
theorem older_or_older
    {key otherKey : NodeKey}
    (attached : key ∈ first.tree.nodes.keys)
    (otherAttached : otherKey ∈ first.tree.nodes.keys)
    (different : key ≠ otherKey) :
    (first.tree.Older key otherKey ∧ second.tree.Older key otherKey) ∨
      (first.tree.Older otherKey key ∧ second.tree.Older otherKey key) := by
  have ordered := numbered.pairwise_older alike.sound.1
  have othersOrdered := othersNumbered.pairwise_older alike.sound.2
  rw [alike.keys] at othersOrdered
  have either : first.tree.nodes.keys.Pairwise fun older newer =>
      (first.tree.Older older newer ∧ second.tree.Older older newer) ∨
        (first.tree.Older newer older ∧ second.tree.Older newer older) :=
    (ordered.and othersOrdered).imp Or.inl
  have symmetric : Std.Symm fun older newer =>
      (first.tree.Older older newer ∧ second.tree.Older older newer) ∨
        (first.tree.Older newer older ∧ second.tree.Older newer older) :=
    ⟨fun _ _ => Or.symm⟩
  exact either.forall attached otherAttached different

/-- Corresponding node ids are in the same order. -/
theorem counterpart_lt
    {key otherKey : NodeKey}
    {id other : NodeId}
    (listed : first.tree.nodeId? key = some id)
    (otherListed : first.tree.nodeId? otherKey = some other)
    (less : id.raw < other.raw) :
    (first.counterpart second id).raw <
      (first.counterpart second other).raw := by
  have different : key ≠ otherKey := by
    rintro rfl
    obtain rfl := Option.some.inj (listed.symm.trans otherListed)
    exact UInt64.lt_irrefl _ less
  rcases alike.older_or_older numbered othersNumbered
    (alike.sound.1.mem_keys_of_nodeId? listed)
    (alike.sound.1.mem_keys_of_nodeId? otherListed) different with
    ⟨_, older⟩ | ⟨older, _⟩
  · exact older _ _ (alike.counterpart_of_nodeId? numbered listed)
      (alike.counterpart_of_nodeId? numbered otherListed)
  · have greater := older _ _ otherListed listed
    exact absurd less (UInt64.lt_asymm greater)

/-- Different node ids of an export correspond to different ones. -/
theorem counterpart_injective
    {id other : NodeId}
    (exported : id ∈ first.treeUpdate.ids)
    (otherExported : other ∈ first.treeUpdate.ids)
    (same : first.counterpart second id = first.counterpart second other) :
    id = other := by
  have root : first.counterpart second first.tree.root.id =
      second.tree.root.id := if_pos rfl
  rcases alike.exists_key_of_mem_ids exported with rfl | ⟨key, listed⟩ <;>
    rcases alike.exists_key_of_mem_ids otherExported with
      rfl | ⟨otherKey, otherListed⟩
  · rfl
  · have corresponds := alike.counterpart_of_nodeId? numbered otherListed
    rw [root] at same
    exact absurd same.symm
      (othersNumbered.ne_root corresponds)
  · have corresponds := alike.counterpart_of_nodeId? numbered listed
    rw [root] at same
    exact absurd same (othersNumbered.ne_root corresponds)
  · have corresponds := alike.counterpart_of_nodeId? numbered listed
    have otherCorresponds := alike.counterpart_of_nodeId? numbered otherListed
    rw [← same] at otherCorresponds
    have found := (othersNumbered.keyOf?_eq_some_iff alike.sound.2 _ _).mpr
      corresponds
    have otherFound :=
      (othersNumbered.keyOf?_eq_some_iff alike.sound.2 _ _).mpr otherCorresponds
    obtain rfl := Option.some.inj (found.symm.trans otherFound)
    exact Option.some.inj (listed.symm.trans otherListed)

/-- Requests for corresponding node ids are answered alike. -/
theorem resolve_counterpart
    (living : List WidgetRef)
    (action : Action)
    {target : NodeId}
    (exported : target ∈ first.treeUpdate.ids) :
    second.resolve living ⟨action, first.counterpart second target⟩ =
      (first.resolve living ⟨action, target⟩).mapError
        (·.rename (first.counterpart second)) := by
  have keys : second.tree.keyOf? (first.counterpart second target) =
      first.tree.keyOf? target := by
    rcases alike.exists_key_of_mem_ids exported with rfl | ⟨key, listed⟩
    · rw [counterpart, if_pos rfl, numbered.keyOf?_root alike.sound.1,
        othersNumbered.keyOf?_root alike.sound.2]
    · rw [(numbered.keyOf?_eq_some_iff alike.sound.1 _ _).mpr listed]
      exact (othersNumbered.keyOf?_eq_some_iff alike.sound.2 _ _).mpr
        (alike.counterpart_of_nodeId? numbered listed)
  have nodes : ∀ key, second.tree.node? key = first.tree.node? key :=
    alike.node?
  unfold resolve
  rw [alike.registry]
  simp only [keys, nodes]
  split
  · rfl
  · split
    · rfl
    · rfl
    · split
      · rfl
      · split <;> rfl

/-- While node ids last, renaming leads from a bridge to an alike one. -/
theorem renames :
    Renames (first.counterpart second) first second := by
  have root : first.counterpart second first.tree.root.id =
      second.tree.root.id := if_pos rfl
  have nodeIds := alike.nodeId?_counterpart numbered
  exact
    { root
      nodeIds
      injective := fun _ exported _ otherExported =>
        alike.counterpart_injective numbered othersNumbered exported
          otherExported
      increasing := fun _ _ _ _ =>
        alike.counterpart_lt numbered othersNumbered
      treeUpdate := alike.treeUpdate nodeIds root
      focusUpdate := alike.focusUpdate nodeIds root
      resolve := fun living action _ =>
        alike.resolve_counterpart numbered othersNumbered living action }

end Numbers

end Alike

/-- New bridges are alike whatever the root's id is. -/
theorem alike_new (config : Config) (rootId : NodeId) :
    (new config).Alike (new { config with rootId }) where
  contents := ⟨[], HasContents.new _, HasContents.new _⟩
  label := rfl
  focus := rfl
  firstFocused := rfl
  secondFocused := rfl
  hooks := ⟨rfl, rfl⟩

/-- The choice of the root's id shows in nothing but the node ids: after every
run the two bridges agree, the same calls were made, and renaming leads from
the exports and answers of one to those of the other. -/
theorem run_rootId_renames
    (config : Config)
    (rootId : NodeId)
    (operations : List Operation)
    (room : Journal.attachments ((new config).run operations).journal ≤
      Tree.attachmentLimit) :
    ((new config).run operations).bridge.Agrees
        ((new { config with rootId }).run operations).bridge ∧
      ((new { config with rootId }).run operations).calls =
        ((new config).run operations).calls ∧
      ∃ names, names config.rootId = rootId ∧
        Renames names ((new config).run operations).bridge
          ((new { config with rootId }).run operations).bridge := by
  obtain ⟨alike, calls, attachments⟩ :=
    (alike_new config rootId).run operations
  have numbered := run_numbered config operations room
  have othersNumbered := run_numbered { config with rootId } operations
    (Nat.le_trans (Nat.le_of_eq attachments) room)
  have renames := alike.renames numbered othersNumbered
  have root := renames.root
  rw [(run_root config operations).1,
    (run_root { config with rootId } operations).1] at root
  exact ⟨alike.agrees, calls, _, root, renames⟩

/-- With root ids on different sides of a companion's number, the text field and
its companion are renamed with everything that mentions them. -/
theorem run_rootId_renames_textField :
    Journal.attachments ((new { rootId := ⟨2⟩ }).run
        [.add ⟨0⟩ { id := ⟨5⟩, name := "Search", code := 17 },
          .notify (.focusChanged none (some ⟨5⟩))]).journal = 2 ∧
      ∃ names : NodeId → NodeId,
        names ⟨2⟩ = ⟨9⟩ ∧ names ⟨1⟩ = ⟨1⟩ ∧ names ⟨3⟩ = ⟨2⟩ ∧
          ((new { rootId := ⟨9⟩ }).run
              [.add ⟨0⟩ { id := ⟨5⟩, name := "Search", code := 17 },
                .notify (.focusChanged none (some ⟨5⟩))]).bridge.treeUpdate =
            ((new { rootId := ⟨2⟩ }).run
              [.add ⟨0⟩ { id := ⟨5⟩, name := "Search", code := 17 },
                .notify (.focusChanged none (some ⟨5⟩))]
              ).bridge.treeUpdate.rename names := by
  obtain ⟨_, _, names, root, renames⟩ :=
    run_rootId_renames { rootId := ⟨2⟩ } ⟨9⟩
      [.add ⟨0⟩ { id := ⟨5⟩, name := "Search", code := 17 },
        .notify (.focusChanged none (some ⟨5⟩))] (by decide)
  have primary := renames.nodeIds (.widget ⟨5⟩)
  have companion := renames.nodeIds (.selection ⟨5⟩)
  exact ⟨by decide, names, root, (Option.some.inj primary).symm,
    (Option.some.inj companion).symm, renames.treeUpdate⟩

end Bridge
end AssistiveTree
