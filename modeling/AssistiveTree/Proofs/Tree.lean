import AssistiveTree.Proofs.Table
import AssistiveTree.Tree

/-!
# Sound and tidy trees

A tree keeps its nodes and their node ids in separate tables, and every
operation edits each of them on its own. In a sound tree both tables have the
same keys in the same order, and these are the root's children. So the two
tables are the projections of one list of slots. In a tidy tree the reverse
table lists no node id that no node has.

Soundness and tidiness hold whatever happens.
-/

namespace AssistiveTree

/-- An attached node with its node id. -/
structure Slot where
  id : NodeId
  node : Node
  deriving DecidableEq

/-- An entry of the nodes and one of the node ids as a slot. -/
def Slot.join
    (node : NodeKey × Node)
    (id : NodeKey × NodeId) : NodeKey × Slot :=
  (node.1, ⟨id.2, node.2⟩)

/-- Entries with the same keys can be taken apart again. -/
theorem Slot.map_zipWith_join
    {nodes : List (NodeKey × Node)}
    {ids : List (NodeKey × NodeId)}
    (aligned : ids.map (·.1) = nodes.map (·.1)) :
    (List.zipWith join nodes ids).map (fun slot => (slot.1, slot.2.node)) =
        nodes ∧
      (List.zipWith join nodes ids).map (fun slot => (slot.1, slot.2.id)) =
        ids := by
  induction nodes generalizing ids with
  | nil => exact ⟨rfl, (List.map_eq_nil_iff.mp aligned).symm⟩
  | cons node nodes inductionHypothesis =>
      cases ids with
      | nil => cases aligned
      | cons id ids =>
          obtain ⟨same, rest⟩ := List.cons.inj aligned
          obtain ⟨sameNodes, sameIds⟩ := inductionHypothesis rest
          simp only [List.zipWith_cons_cons, List.map_cons, sameNodes, sameIds]
          exact ⟨rfl, congrArg (· :: ids) (Prod.ext same.symm rfl)⟩

namespace Tree

/-- The nodes and the node ids side by side. -/
def slots (tree : Tree) : Table NodeKey Slot :=
  ⟨List.zipWith Slot.join tree.nodes.entries tree.nodeIds.entries⟩

/-! ## Operations -/

theorem contains_eq_false_iff (tree : Tree) (key : NodeKey) :
    tree.contains key = false ↔ key ∉ tree.nodes.keys :=
  tree.nodes.contains_eq_false_iff key

theorem contains_iff (tree : Tree) (key : NodeKey) :
    tree.contains key = true ↔ key ∈ tree.nodes.keys :=
  tree.nodes.contains_iff_mem_keys key

theorem attach_of_contains
    {tree : Tree}
    {key : NodeKey}
    (present : key ∈ tree.nodes.keys)
    (node : Node) :
    tree.attach key node = ⟨tree, false, [.event (.alreadyAttached key)]⟩ := by
  rw [← contains_iff] at present
  simp [attach, present]

/-- Attaching a fresh key extends the children and all three tables. -/
theorem attach_of_absent
    {tree : Tree}
    {key : NodeKey}
    (absent : key ∉ tree.nodes.keys)
    (node : Node) :
    tree.attach key node =
      { tree :=
          { root := { tree.root with children := tree.root.children ++ [key] }
            nodes := tree.nodes.insert key node
            nodeIds := tree.nodeIds.insert key tree.freshId
            keys := tree.keys.insert tree.freshId key
            counter := tree.freshId.raw + 1 }
        answer := true
        journal := [.event (.attached key tree.freshId)] } := by
  rw [← contains_eq_false_iff] at absent
  simp [attach, absent]

theorem nodes_detach (tree : Tree) (key : NodeKey) :
    (tree.detach key).tree.nodes = tree.nodes.erase key := by
  unfold detach
  cases found : tree.nodes.get? key with
  | none =>
      rw [Table.get?_eq_none_iff] at found
      exact (Table.erase_of_absent found).symm
  | some node => rfl

/-- Detaching touches neither the root, its children apart, nor the
counter. -/
theorem root_detach (tree : Tree) (key : NodeKey) :
    (tree.detach key).tree.root.id = tree.root.id ∧
      (tree.detach key).tree.root.label = tree.root.label ∧
      (tree.detach key).tree.root.activeDescendant =
        tree.root.activeDescendant ∧
      (tree.detach key).tree.counter = tree.counter := by
  unfold detach
  cases tree.nodes.get? key with
  | none => exact ⟨rfl, rfl, rfl, rfl⟩
  | some node => exact ⟨rfl, rfl, rfl, rfl⟩

/-- Attaching touches nothing of the root but its children. -/
theorem root_attach (tree : Tree) (key : NodeKey) (node : Node) :
    (tree.attach key node).tree.root.id = tree.root.id ∧
      (tree.attach key node).tree.root.label = tree.root.label ∧
      (tree.attach key node).tree.root.activeDescendant =
        tree.root.activeDescendant := by
  unfold attach
  cases tree.contains key with
  | false => exact ⟨rfl, rfl, rfl⟩
  | true => exact ⟨rfl, rfl, rfl⟩

/-! ## Soundness -/

/-- The root's children are the keys of the nodes and those of the node ids,
each once. -/
structure Sound (tree : Tree) : Prop where
  children : tree.root.children = tree.nodes.keys
  /-- Nothing else keeps the two tables in step. -/
  aligned : tree.nodeIds.keys = tree.nodes.keys
  distinct : tree.nodes.keys.Nodup

theorem sound_new (root : NodeId) (label : String) :
    (new root label).Sound where
  children := rfl
  aligned := rfl
  distinct := List.nodup_nil

namespace Sound

variable {tree : Tree}

theorem distinct_nodeIds (sound : tree.Sound) : tree.nodeIds.keys.Nodup := by
  rw [sound.aligned]
  exact sound.distinct

/-- A key that no node has has no node id either. -/
theorem not_mem_nodeIds
    (sound : tree.Sound)
    {key : NodeKey}
    (absent : key ∉ tree.nodes.keys) :
    key ∉ tree.nodeIds.keys := by
  rwa [sound.aligned]

/-- Detaching a key takes its node id, if it has one, out of the node ids. -/
theorem nodeIds_detach (sound : tree.Sound) (key : NodeKey) :
    (tree.detach key).tree.nodeIds = tree.nodeIds.erase key := by
  unfold Tree.detach
  cases found : tree.nodes.get? key with
  | none =>
      rw [Table.get?_eq_none_iff] at found
      exact (Table.erase_of_absent (sound.not_mem_nodeIds found)).symm
  | some node => rfl

/-- Detaching a key takes its node id, if it has one, out of the reverse
table. -/
theorem keys_detach (sound : tree.Sound) (key : NodeKey) :
    (tree.detach key).tree.keys =
      match tree.nodeIds.get? key with
      | some id => tree.keys.erase id
      | none => tree.keys := by
  unfold Tree.detach
  cases found : tree.nodes.get? key with
  | none =>
      rw [Table.get?_eq_none_iff] at found
      have unlisted := sound.not_mem_nodeIds found
      rw [(Table.get?_eq_none_iff _ _).mpr unlisted]
  | some node => rfl

theorem attach (sound : tree.Sound) (key : NodeKey) (node : Node) :
    (tree.attach key node).tree.Sound := by
  by_cases present : key ∈ tree.nodes.keys
  · rw [attach_of_contains present]
    exact sound
  · have nodes := Table.keys_insert present node
    have nodeIds :=
      Table.keys_insert (sound.not_mem_nodeIds present) tree.freshId
    rw [attach_of_absent present]
    constructor
    · simp only [nodes, sound.children]
    · simp only [nodes, nodeIds, sound.aligned]
    · exact Table.nodup_keys_insert sound.distinct key node

theorem detach (sound : tree.Sound) (key : NodeKey) :
    (tree.detach key).tree.Sound where
  children := by
    rw [nodes_detach, Table.keys_erase, ← sound.children]
    unfold Tree.detach
    cases found : tree.nodes.get? key with
    | none =>
        rw [Table.get?_eq_none_iff, ← sound.children] at found
        have kept : ∀ child ∈ tree.root.children, child ≠ key :=
          fun child member same => found (same ▸ member)
        exact (List.filter_eq_self.mpr (by simpa using kept)).symm
    | some node => rfl
  aligned := by
    rw [sound.nodeIds_detach, nodes_detach, Table.keys_erase,
      Table.keys_erase, sound.aligned]
  distinct := by
    rw [nodes_detach]
    exact Table.nodup_keys_erase sound.distinct key

theorem detachAll (tree : Tree) : tree.detachAll.tree.Sound where
  children := rfl
  aligned := rfl
  distinct := List.nodup_nil

theorem modify
    (sound : tree.Sound)
    (key : NodeKey)
    (change : Node → Node) :
    (tree.modify key change).Sound := by
  have keys : (tree.modify key change).nodes.keys = tree.nodes.keys :=
    Table.keys_modify _ _ _
  constructor
  · rw [keys]
    exact sound.children
  · rw [keys]
    exact sound.aligned
  · rw [keys]
    exact sound.distinct

theorem setActiveDescendant (sound : tree.Sound) (focus : Option WidgetId) :
    (tree.setActiveDescendant focus).Sound :=
  ⟨sound.children, sound.aligned, sound.distinct⟩

end Sound

/-! ## Slots -/

/-- A list that projects onto both tables is the list of slots. -/
theorem slots_of_projections
    {tree : Tree}
    {slots : List (NodeKey × Slot)}
    (nodes : tree.nodes.entries = slots.map fun slot => (slot.1, slot.2.node))
    (nodeIds : tree.nodeIds.entries =
      slots.map fun slot => (slot.1, slot.2.id)) :
    tree.slots.entries = slots := by
  rw [Tree.slots, nodes, nodeIds, List.zipWith_map, List.zipWith_self]
  exact List.map_id slots

/-- Changing a node changes its slot, and leaves it its node id. -/
theorem slots_modify (tree : Tree) (key : NodeKey) (change : Node → Node) :
    (tree.modify key change).slots =
      tree.slots.modify key fun slot =>
        { slot with node := change slot.node } := by
  rw [slots, slots, Table.modify, modify, Table.entries_modify,
    List.zipWith_map_left, List.map_zipWith]
  congr
  funext node id
  by_cases same : node.1 = key <;> simp [Slot.join, same]

namespace Sound

variable {tree : Tree}

/-- The nodes of a sound tree are one projection of its slots. -/
theorem entries_nodes (sound : tree.Sound) :
    tree.nodes.entries =
      tree.slots.entries.map fun slot => (slot.1, slot.2.node) :=
  (Slot.map_zipWith_join sound.aligned).1.symm

/-- The node ids of a sound tree are the other projection. -/
theorem entries_nodeIds (sound : tree.Sound) :
    tree.nodeIds.entries =
      tree.slots.entries.map fun slot => (slot.1, slot.2.id) :=
  (Slot.map_zipWith_join sound.aligned).2.symm

/-- The slots tell both tables. -/
theorem tables_eq
    (sound : tree.Sound)
    {other : Tree}
    (otherSound : other.Sound)
    (slots : tree.slots = other.slots) :
    tree.nodes = other.nodes ∧ tree.nodeIds = other.nodeIds := by
  constructor
  · apply congrArg Table.mk
    rw [sound.entries_nodes, otherSound.entries_nodes, slots]
  · apply congrArg Table.mk
    rw [sound.entries_nodeIds, otherSound.entries_nodeIds, slots]

theorem slots_keys (sound : tree.Sound) :
    tree.slots.keys = tree.nodes.keys := by
  rw [Table.keys, Table.keys, sound.entries_nodes, List.map_map]
  rfl

/-- Every slot's key has a node. -/
theorem mem_keys_of_mem
    (sound : tree.Sound)
    {entry : NodeKey × Slot}
    (member : entry ∈ tree.slots.entries) :
    entry.1 ∈ tree.nodes.keys := by
  rw [← sound.slots_keys]
  exact List.mem_map.mpr ⟨entry, member, rfl⟩

/-- The root's children are the keys of the slots. -/
theorem children_eq (sound : tree.Sound) :
    tree.root.children = tree.slots.keys :=
  sound.children.trans sound.slots_keys.symm

theorem distinct_slots (sound : tree.Sound) : tree.slots.keys.Nodup := by
  rw [sound.slots_keys]
  exact sound.distinct

/-- An attached node is the newest slot. -/
theorem slots_attach
    (sound : tree.Sound)
    {key : NodeKey}
    (absent : key ∉ tree.nodes.keys)
    (node : Node) :
    (tree.attach key node).tree.slots.entries =
      tree.slots.entries ++ [(key, ⟨tree.freshId, node⟩)] := by
  rw [attach_of_absent absent]
  apply slots_of_projections
  · rw [Table.entries_insert absent, sound.entries_nodes, List.map_append]
    rfl
  · rw [Table.entries_insert (sound.not_mem_nodeIds absent),
      sound.entries_nodeIds, List.map_append]
    rfl

theorem slots_detach (sound : tree.Sound) (key : NodeKey) :
    (tree.detach key).tree.slots = tree.slots.erase key := by
  refine congrArg Table.mk (slots_of_projections ?_ ?_)
  · rw [nodes_detach, Table.entries_erase, sound.entries_nodes,
      List.filter_map]
    rfl
  · rw [sound.nodeIds_detach, Table.entries_erase, sound.entries_nodeIds,
      List.filter_map]
    rfl

/-! ## Look-ups -/

/-- The nodes answer what the slots tell. -/
theorem node?_eq (sound : tree.Sound) (key : NodeKey) :
    tree.node? key = (tree.slots.get? key).map (·.node) := by
  rw [node?, Table.get?, sound.entries_nodes, List.find?_map, Option.map_map,
    Table.get?, Option.map_map]
  rfl

/-- So do the node ids. -/
theorem nodeId?_eq (sound : tree.Sound) (key : NodeKey) :
    tree.nodeId? key = (tree.slots.get? key).map (·.id) := by
  rw [nodeId?, Table.get?, sound.entries_nodeIds, List.find?_map,
    Option.map_map, Table.get?, Option.map_map]
  rfl

/-- The keys without a node id are those that no node has. -/
theorem nodeId?_eq_none_iff (sound : tree.Sound) (key : NodeKey) :
    tree.nodeId? key = none ↔ key ∉ tree.nodes.keys := by
  rw [nodeId?, Table.get?_eq_none_iff, sound.aligned]

/-- A node is attached under a key exactly when its slot is. -/
theorem node?_eq_some_iff
    (sound : tree.Sound)
    (key : NodeKey)
    (node : Node) :
    tree.node? key = some node ↔
      ∃ id, (key, Slot.mk id node) ∈ tree.slots.entries := by
  simp only [sound.node?_eq, Option.map_eq_some_iff,
    Table.get?_eq_some_iff sound.distinct_slots]
  constructor
  · rintro ⟨slot, member, rfl⟩
    exact ⟨slot.id, member⟩
  · rintro ⟨id, member⟩
    exact ⟨⟨id, node⟩, member, rfl⟩

/-- A key has a node id exactly when its slot has. -/
theorem nodeId?_eq_some_iff
    (sound : tree.Sound)
    (key : NodeKey)
    (id : NodeId) :
    tree.nodeId? key = some id ↔
      ∃ node, (key, Slot.mk id node) ∈ tree.slots.entries := by
  simp only [sound.nodeId?_eq, Option.map_eq_some_iff,
    Table.get?_eq_some_iff sound.distinct_slots]
  constructor
  · rintro ⟨slot, member, rfl⟩
    exact ⟨slot.node, member⟩
  · rintro ⟨node, member⟩
    exact ⟨⟨id, node⟩, member, rfl⟩

/-- Every slot's node is found under its key. -/
theorem node?_of_mem
    (sound : tree.Sound)
    {entry : NodeKey × Slot}
    (member : entry ∈ tree.slots.entries) :
    tree.node? entry.1 = some entry.2.node :=
  (sound.node?_eq_some_iff _ _).mpr ⟨entry.2.id, member⟩

/-- Every slot's node id is found under its key. -/
theorem nodeId?_of_mem
    (sound : tree.Sound)
    {entry : NodeKey × Slot}
    (member : entry ∈ tree.slots.entries) :
    tree.nodeId? entry.1 = some entry.2.id :=
  (sound.nodeId?_eq_some_iff _ _).mpr ⟨entry.2.node, member⟩

/-- Iteration skips nothing: it yields every slot's node, oldest first. -/
theorem toList_eq (sound : tree.Sound) :
    tree.toList =
      tree.slots.entries.map fun entry => (entry.1, entry.2.node) := by
  rw [toList, sound.children_eq, Table.keys,
    List.filterMap_map, ← List.filterMap_eq_map]
  apply List.filterMap_congr
  intro entry member
  simp [sound.node?_of_mem member]

end Sound

/-- Changing a node changes what is found under its key. -/
@[simp] theorem node?_modify_self
    (tree : Tree)
    (key : NodeKey)
    (change : Node → Node) :
    (tree.modify key change).node? key = (tree.node? key).map change :=
  Table.get?_modify_self _ _ _

theorem node?_modify_of_ne
    (tree : Tree)
    {key other : NodeKey}
    (different : other ≠ key)
    (change : Node → Node) :
    (tree.modify key change).node? other = tree.node? other :=
  Table.get?_modify_of_ne _ different _

/-- Changing a node leaves every key its node id. -/
@[simp] theorem nodeId?_modify
    (tree : Tree)
    (key other : NodeKey)
    (change : Node → Node) :
    (tree.modify key change).nodeId? other = tree.nodeId? other := rfl

/-! ## Tidiness -/

/-- The reverse table lists no node id that no node has. Unlike the numbering of
the nodes, this does not depend on how long node ids last. -/
def Tidy (tree : Tree) : Prop :=
  ∀ id ∈ tree.keys.keys, id ∈ tree.nodeIds.values

theorem tidy_new (root : NodeId) (label : String) : (new root label).Tidy :=
  fun _ member => absurd member List.not_mem_nil

theorem Tidy.attach
    {tree : Tree}
    (tidy : tree.Tidy)
    (sound : tree.Sound)
    (key : NodeKey)
    (node : Node) :
    (tree.attach key node).tree.Tidy := by
  by_cases present : key ∈ tree.nodes.keys
  · rw [attach_of_contains present]
    exact tidy
  · rw [attach_of_absent present]
    intro id member
    simp only [Table.values,
      Table.entries_insert (sound.not_mem_nodeIds present), List.map_append]
    rcases Table.mem_keys_insert member with rfl | old
    · exact List.mem_append_right _ (List.mem_singleton_self _)
    · exact List.mem_append_left _ (tidy id old)

/-- Detaching a node takes its id out of the reverse table, and every other id
still has its node. -/
theorem Tidy.detach
    {tree : Tree}
    (tidy : tree.Tidy)
    (sound : tree.Sound)
    (key : NodeKey) :
    (tree.detach key).tree.Tidy := by
  intro id member
  rw [sound.keys_detach] at member
  rw [sound.nodeIds_detach]
  cases listed : tree.nodeIds.get? key with
  | none =>
      rw [listed] at member
      rw [Table.erase_of_absent ((Table.get?_eq_none_iff _ _).mp listed)]
      exact tidy id member
  | some gone =>
      simp only [listed, Table.keys_erase, List.mem_filter,
        decide_eq_true_eq] at member
      obtain ⟨entry, inIds, same⟩ := List.mem_map.mp (tidy id member.1)
      refine List.mem_map.mpr ⟨entry, List.mem_filter.mpr ⟨inIds, ?_⟩, same⟩
      rw [decide_eq_true_eq]
      rintro rfl
      have stored := Table.get?_of_mem_entries sound.distinct_nodeIds inIds
      rw [listed, Option.some_inj] at stored
      exact member.2 (same.symm.trans stored.symm)

theorem Tidy.modify
    {tree : Tree}
    (tidy : tree.Tidy)
    (key : NodeKey)
    (change : Node → Node) :
    (tree.modify key change).Tidy :=
  tidy

/-- A tidy tree without node ids has an empty reverse table. -/
theorem Tidy.keys_eq_empty
    {tree : Tree}
    (tidy : tree.Tidy)
    (empty : tree.nodeIds = .empty) :
    tree.keys = .empty := by
  apply Table.eq_empty_of_keys
  refine List.eq_nil_iff_forall_not_mem.mpr fun id member => ?_
  have listed := tidy id member
  rw [empty] at listed
  exact List.not_mem_nil listed

end Tree
end AssistiveTree
