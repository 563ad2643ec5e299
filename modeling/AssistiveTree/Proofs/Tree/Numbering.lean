import AssistiveTree.Proofs.Tree

/-!
# Node ids of a tree

The attachments of a tree's whole life are numbered from one. Each hands out its
own number as the node id, or the number after it once the root's id has been
passed. So node ids increase, are never the root's and are never handed out
twice, as long as there are no more attachments than node ids last.

In a numbered tree the reverse table is the table of node ids read backwards,
node ids increase along it, and the counter stands at the number that the last
attachment left it at.
-/

namespace AssistiveTree
namespace Tree

/-- The number of attachments for which node ids last, `2 ^ 64 - 3`: zero, the
root's id and the number at which the counter would wrap are not handed out. -/
def attachmentLimit : Nat := UInt64.size - 3

/-- The node id that an attachment hands out, as a number. -/
def idNumber (root : NodeId) (attachment : Nat) : Nat :=
  if root.raw.toNat = 0 ∨ attachment < root.raw.toNat then attachment
  else attachment + 1

/-- No attachment hands out the root's id. -/
theorem idNumber_ne_root
    (root : NodeId)
    {attachment : Nat}
    (positive : 0 < attachment) :
    idNumber root attachment ≠ root.raw.toNat := by
  unfold idNumber
  split <;> omega

/-- Later attachments hand out larger node ids. -/
theorem idNumber_lt_idNumber
    (root : NodeId)
    {earlier later : Nat}
    (order : earlier < later) :
    idNumber root earlier < idNumber root later := by
  unfold idNumber
  split <;> split <;> omega

/-- The node ids of the attached nodes as numbers, oldest node first. -/
def idNumbers (tree : Tree) : List Nat :=
  tree.nodeIds.entries.map fun entry => entry.2.raw.toNat

/-- The node id of a key is in use. -/
theorem mem_idNumbers
    {tree : Tree}
    {key : NodeKey}
    {id : NodeId}
    (listed : tree.nodeId? key = some id) :
    id.raw.toNat ∈ tree.idNumbers :=
  List.mem_map.mpr ⟨(key, id), Table.mem_entries_of_get? listed, rfl⟩

theorem Sound.idNumbers_eq {tree : Tree} (sound : tree.Sound) :
    tree.idNumbers =
      tree.slots.entries.map fun slot => slot.2.id.raw.toNat := by
  rw [idNumbers, sound.entries_nodeIds, List.map_map]
  rfl

theorem idNumbers_detach (tree : Tree) (key : NodeKey) :
    (tree.detach key).tree.idNumbers.Sublist tree.idNumbers := by
  unfold detach
  cases tree.nodes.get? key with
  | none => exact List.Sublist.refl _
  | some node => exact List.filter_sublist.map _

theorem idNumbers_attach
    {tree : Tree}
    (sound : tree.Sound)
    {key : NodeKey}
    (absent : key ∉ tree.nodes.keys)
    (node : Node) :
    (tree.attach key node).tree.idNumbers =
      tree.idNumbers ++ [tree.freshId.raw.toNat] := by
  simp [idNumbers, attach_of_absent absent,
    Table.entries_insert (sound.not_mem_nodeIds absent)]

/-- The node ids of a tree after a number of attachments. -/
structure Numbered (tree : Tree) (attachments : Nat) : Prop where
  /-- The reverse table leads from each node's id back to its key. -/
  reverse : tree.keys.entries =
    tree.nodeIds.entries.map fun entry => (entry.2, entry.1)
  increasing : tree.idNumbers.Pairwise (· < ·)
  spent : ∀ number ∈ tree.idNumbers, number < tree.counter.toNat
  reserved : ∀ number ∈ tree.idNumbers, number ≠ tree.root.id.raw.toNat
  counter : tree.counter.toNat = idNumber tree.root.id attachments + 1

theorem numbered_new (root : NodeId) (label : String) :
    (new root label).Numbered 0 where
  reverse := rfl
  increasing := List.Pairwise.nil
  spent := fun _ member => absurd member List.not_mem_nil
  reserved := fun _ member => absurd member List.not_mem_nil
  counter := by
    have passed : root.raw.toNat = 0 ∨ 0 < root.raw.toNat := by omega
    simp [new, idNumber, passed]

namespace Numbered

variable {tree : Tree} {attachments : Nat}

/-- The next attachment hands out its own number. -/
theorem freshId
    (numbered : tree.Numbered attachments)
    (room : attachments < attachmentLimit) :
    tree.freshId.raw.toNat = idNumber tree.root.id (attachments + 1) := by
  have counter := numbered.counter
  unfold attachmentLimit UInt64.size at room
  unfold idNumber at counter ⊢
  unfold Tree.freshId
  by_cases atRoot : tree.counter = tree.root.id.raw
  · have next : (tree.counter + 1).toNat =
        (tree.counter.toNat + 1) % 2 ^ 64 := by
      rw [UInt64.toNat_add, UInt64.toNat_one]
    rw [if_pos atRoot]
    rw [← atRoot] at counter ⊢
    simp only [next]
    split at counter <;> split <;> omega
  · rw [if_neg atRoot]
    rw [← UInt64.toNat_inj] at atRoot
    simp only
    split at counter <;> split <;> omega

/-- The next attachment leaves the counter one above what it hands out. -/
theorem counter_after
    (numbered : tree.Numbered attachments)
    (room : attachments < attachmentLimit) :
    (tree.freshId.raw + 1).toNat =
      idNumber tree.root.id (attachments + 1) + 1 := by
  have fresh := numbered.freshId room
  have bounded : idNumber tree.root.id (attachments + 1) ≤
      attachments + 2 := by
    unfold idNumber
    split <;> omega
  unfold attachmentLimit UInt64.size at room
  rw [UInt64.toNat_add, UInt64.toNat_one, fresh]
  omega

/-- The next attachment hands out a number above all numbers in use. -/
theorem lt_freshId
    (numbered : tree.Numbered attachments)
    (room : attachments < attachmentLimit) :
    tree.counter.toNat ≤ tree.freshId.raw.toNat := by
  have order := idNumber_lt_idNumber tree.root.id (Nat.lt_succ_self attachments)
  rw [numbered.freshId room, numbered.counter]
  exact order

/-- Attached nodes have different node ids. -/
theorem nodup_idNumbers (numbered : tree.Numbered attachments) :
    tree.idNumbers.Nodup :=
  numbered.increasing.imp Nat.ne_of_lt

/-- A node id stands in the table once. -/
theorem entry_unique
    (numbered : tree.Numbered attachments)
    {first second : NodeKey × NodeId}
    (firstMember : first ∈ tree.nodeIds.entries)
    (secondMember : second ∈ tree.nodeIds.entries)
    (same : first.2 = second.2) :
    first = second :=
  List.inj_on_of_nodup_map numbered.nodup_idNumbers firstMember secondMember
    (by rw [same])

/-- A node id belongs to one key. -/
theorem key_unique
    (numbered : tree.Numbered attachments)
    {first second : NodeKey}
    {id : NodeId}
    (listed : tree.nodeId? first = some id)
    (otherListed : tree.nodeId? second = some id) :
    first = second :=
  congrArg Prod.fst
    (numbered.entry_unique (Table.mem_entries_of_get? listed)
      (Table.mem_entries_of_get? otherListed) rfl)

/-- The keys of the reverse table are the node ids, each once. -/
theorem nodup_reverse (numbered : tree.Numbered attachments) :
    tree.keys.keys.Nodup := by
  have numbers : tree.keys.keys.map (·.raw.toNat) = tree.idNumbers := by
    simp [Table.keys, numbered.reverse, idNumbers]
  apply List.Nodup.of_map (·.raw.toNat)
  rw [numbers]
  exact numbered.nodup_idNumbers

theorem attach_of_absent
    (numbered : tree.Numbered attachments)
    (sound : tree.Sound)
    (room : attachments < attachmentLimit)
    {key : NodeKey}
    (absent : key ∉ tree.nodes.keys)
    (node : Node) :
    (tree.attach key node).tree.Numbered (attachments + 1) := by
  have above := numbered.lt_freshId room
  have unused : tree.freshId ∉ tree.keys.keys := by
    intro member
    have inUse : tree.freshId.raw.toNat ∈ tree.idNumbers := by
      simp only [Table.keys, numbered.reverse, List.map_map,
        List.mem_map] at member
      obtain ⟨entry, entryMember, same⟩ := member
      exact List.mem_map.mpr ⟨entry, entryMember, congrArg (·.raw.toNat) same⟩
    have below := numbered.spent _ inUse
    omega
  have numbers : (tree.attach key node).tree.idNumbers =
      tree.idNumbers ++ [tree.freshId.raw.toNat] :=
    idNumbers_attach sound absent node
  have counter : (tree.attach key node).tree.counter =
      tree.freshId.raw + 1 := by
    rw [Tree.attach_of_absent absent]
  have root := (root_attach tree key node).1
  constructor
  · rw [Tree.attach_of_absent absent, Table.entries_insert unused,
      Table.entries_insert (sound.not_mem_nodeIds absent), numbered.reverse]
    simp
  · rw [numbers, List.pairwise_append]
    refine ⟨numbered.increasing, List.pairwise_singleton _ _, ?_⟩
    intro number member last inLast
    rw [List.mem_singleton] at inLast
    have below := numbered.spent number member
    omega
  · intro number member
    rw [counter, numbered.counter_after room, ← numbered.freshId room]
    rw [numbers, List.mem_append, List.mem_singleton] at member
    rcases member with old | rfl
    · have below := numbered.spent number old
      omega
    · omega
  · intro number member
    rw [root]
    rw [numbers, List.mem_append, List.mem_singleton] at member
    rcases member with old | rfl
    · exact numbered.reserved number old
    · rw [numbered.freshId room]
      exact idNumber_ne_root tree.root.id (Nat.succ_pos attachments)
  · rw [counter, numbered.counter_after room, root]

theorem detach
    (numbered : tree.Numbered attachments)
    (sound : tree.Sound)
    (key : NodeKey) :
    (tree.detach key).tree.Numbered attachments := by
  obtain ⟨root, _, _, counter⟩ := root_detach tree key
  have sublist := idNumbers_detach tree key
  refine ⟨?_, numbered.increasing.sublist sublist, ?_, ?_, ?_⟩
  · rw [sound.keys_detach, sound.nodeIds_detach]
    cases found : tree.nodeIds.get? key with
    | none =>
        rw [Table.get?_eq_none_iff] at found
        rw [Table.erase_of_absent found]
        exact numbered.reverse
    | some id =>
        have member := Table.mem_entries_of_get? found
        simp only [Table.entries_erase, numbered.reverse, List.filter_map]
        -- Erasing by id and erasing by key drop the same entry.
        congr 1
        apply List.filter_congr
        intro entry entryMember
        have same : entry.2 = id ↔ entry.1 = key := by
          constructor
          · intro sameId
            rw [numbered.entry_unique entryMember member sameId]
          · intro sameKey
            have stored :=
              Table.get?_of_mem_entries sound.distinct_nodeIds entryMember
            rw [sameKey, found] at stored
            exact (Option.some.inj stored).symm
        simp [same]
  · intro number member
    rw [counter]
    exact numbered.spent number (sublist.subset member)
  · intro number member
    rw [root]
    exact numbered.reserved number (sublist.subset member)
  · rw [counter, root]
    exact numbered.counter

theorem detachAll (numbered : tree.Numbered attachments) :
    tree.detachAll.tree.Numbered attachments where
  reverse := rfl
  increasing := List.Pairwise.nil
  spent := fun _ member => absurd member List.not_mem_nil
  reserved := fun _ member => absurd member List.not_mem_nil
  counter := numbered.counter

theorem modify
    (numbered : tree.Numbered attachments)
    (key : NodeKey)
    (change : Node → Node) :
    (tree.modify key change).Numbered attachments :=
  ⟨numbered.reverse, numbered.increasing, numbered.spent, numbered.reserved,
    numbered.counter⟩

theorem setActiveDescendant
    (numbered : tree.Numbered attachments)
    (focus : Option WidgetId) :
    (tree.setActiveDescendant focus).Numbered attachments :=
  ⟨numbered.reverse, numbered.increasing, numbered.spent, numbered.reserved,
    numbered.counter⟩

/-- The two look-ups of a numbered tree are inverse to each other. -/
theorem keyOf?_eq_some_iff
    (numbered : tree.Numbered attachments)
    (sound : tree.Sound)
    (id : NodeId)
    (key : NodeKey) :
    tree.keyOf? id = some key ↔ tree.nodeId? key = some id := by
  rw [nodeId?, Table.get?_eq_some_iff sound.distinct_nodeIds, keyOf?,
    Table.get?_eq_some_iff numbered.nodup_reverse, numbered.reverse,
    List.mem_map]
  constructor
  · rintro ⟨entry, member, same⟩
    obtain ⟨rfl, rfl⟩ := Prod.mk.inj same
    exact member
  · intro member
    exact ⟨(key, id), member, rfl⟩

end Numbered

/-! ## Later trees -/

/-- The counter of the later tree is not behind, and every node id that the
earlier tree lacks was taken from the counter since. -/
structure Continues (later earlier : Tree) : Prop where
  counter : earlier.counter.toNat ≤ later.counter.toNat
  fresh : ∀ number ∈ later.idNumbers,
    number ∈ earlier.idNumbers ∨ earlier.counter.toNat ≤ number

namespace Continues

variable {tree : Tree} {attachments : Nat}

theorem refl (tree : Tree) : tree.Continues tree :=
  ⟨Nat.le_refl _, fun _ => Or.inl⟩

theorem trans
    {first second third : Tree}
    (late : third.Continues second)
    (early : second.Continues first) :
    third.Continues first := by
  refine ⟨Nat.le_trans early.counter late.counter, ?_⟩
  intro number member
  rcases late.fresh number member with old | new
  · exact early.fresh number old
  · exact Or.inr (Nat.le_trans early.counter new)

/-- Removing nodes and changing what they hold takes no node id. -/
theorem of_subset
    {later : Tree}
    (counter : later.counter = tree.counter)
    (subset : later.idNumbers ⊆ tree.idNumbers) :
    later.Continues tree :=
  ⟨Nat.le_of_eq (by rw [counter]), fun _ member => Or.inl (subset member)⟩

theorem attach_of_absent
    (numbered : tree.Numbered attachments)
    (sound : tree.Sound)
    (room : attachments < attachmentLimit)
    {key : NodeKey}
    (absent : key ∉ tree.nodes.keys)
    (node : Node) :
    (tree.attach key node).tree.Continues tree := by
  have above := numbered.lt_freshId room
  have after := numbered.counter_after room
  rw [← numbered.freshId room] at after
  refine ⟨?_, ?_⟩
  · rw [Tree.attach_of_absent absent]
    change tree.counter.toNat ≤ (tree.freshId.raw + 1).toNat
    omega
  · intro number member
    rw [idNumbers_attach sound absent, List.mem_append,
      List.mem_singleton] at member
    rcases member with old | rfl
    · exact Or.inl old
    · exact Or.inr above

theorem detach (tree : Tree) (key : NodeKey) :
    (tree.detach key).tree.Continues tree :=
  of_subset (root_detach tree key).2.2.2 (idNumbers_detach tree key).subset

theorem modify (tree : Tree) (key : NodeKey) (change : Node → Node) :
    (tree.modify key change).Continues tree :=
  of_subset rfl (List.Subset.refl tree.idNumbers)

end Continues

/-! ## Retired node ids -/

/-- A node id that was handed out and whose node is gone. -/
structure Retired (tree : Tree) (id : NodeId) : Prop where
  spent : id.raw.toNat < tree.counter.toNat
  unused : id.raw.toNat ∉ tree.idNumbers

namespace Retired

variable {tree : Tree} {id : NodeId} {attachments : Nat}

/-- No key has a retired node id. -/
theorem keyOf?_eq_none
    (retired : tree.Retired id)
    (numbered : tree.Numbered attachments) :
    tree.keyOf? id = none := by
  rw [keyOf?, Table.get?_eq_none_iff]
  intro member
  apply retired.unused
  simp only [Table.keys, numbered.reverse, List.map_map,
    List.mem_map] at member
  obtain ⟨entry, entryMember, same⟩ := member
  exact List.mem_map.mpr ⟨entry, entryMember, congrArg (·.raw.toNat) same⟩

/-- A retired node id stays retired. -/
theorem of_continues
    {later : Tree}
    (retired : tree.Retired id)
    (continues : later.Continues tree) :
    later.Retired id := by
  have spent := retired.spent
  refine ⟨Nat.lt_of_lt_of_le spent continues.counter, ?_⟩
  intro member
  rcases continues.fresh _ member with old | new
  · exact retired.unused old
  · omega

end Retired
end Tree
end AssistiveTree
