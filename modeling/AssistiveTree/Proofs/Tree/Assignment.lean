import AssistiveTree.Proofs.Tree.Edit

/-!
# Assignment of node ids

The node ids that a tree hands out in its whole life follow one rule. Each
attachment hands out the number after the last one, starting with one, and the
root's id is left out. Detached nodes give nothing back, and refused attachments
take nothing.
-/

namespace AssistiveTree
namespace Tree

/-- The node id that an edit hands out: the one that a freshly attached key
has. -/
def handedOutBy (tree : Tree) : Edit → Option NodeId
  | .attach key node =>
      if (tree.attach key node).answer then
        (tree.attach key node).tree.nodeId? key
      else none
  | _ => none

/-- The node ids that edits hand out, in order. -/
def handedOut (tree : Tree) : List Edit → List NodeId
  | [] => []
  | edit :: edits =>
      (tree.handedOutBy edit).toList ++ (tree.edit edit).handedOut edits

/-- The children of a sound tree have the stored node ids, in order. -/
theorem Sound.map_nodeId? {tree : Tree} (sound : tree.Sound) :
    tree.root.children.map tree.nodeId? = tree.nodeIds.values.map some := by
  rw [sound.children, ← sound.aligned, Table.keys, Table.values,
    List.map_map, List.map_map]
  apply List.map_congr_left
  intro entry member
  exact Table.get?_of_mem_entries sound.distinct_nodeIds member

namespace Numbered

variable {tree : Tree} {attached : Nat}

/-- An edit hands out the numbers of its attachments: one if it attaches a node,
and none otherwise. -/
theorem handedOutBy
    (numbered : tree.Numbered attached)
    (edit : Edit)
    (room : attached + tree.attachmentsOf edit ≤ attachmentLimit) :
    (tree.handedOutBy edit).toList.map (·.raw.toNat) =
      (List.range' (attached + 1) (tree.attachmentsOf edit)).map
        (idNumber tree.root.id) := by
  cases edit with
  | attach key node =>
      by_cases present : key ∈ tree.nodes.keys
      · simp [Tree.handedOutBy, attach_of_contains present]
      · have one : tree.attachmentsOf (.attach key node) = 1 := by
          simp [Tree.attach_of_absent present]
        rw [one] at room
        have fresh := numbered.freshId room
        simp [Tree.handedOutBy, Tree.attach_of_absent present, nodeId?, fresh]
  | detach key => rfl
  | detachAll => rfl
  | modify key change => rfl
  | setActiveDescendant focus => rfl

/-- Edits hand out the numbers of their attachments, one after the other. -/
theorem handedOut
    (numbered : tree.Numbered attached)
    (sound : tree.Sound)
    (edits : List Edit)
    (room : attached + tree.attachments edits ≤ attachmentLimit) :
    (tree.handedOut edits).map (·.raw.toNat) =
      (List.range' (attached + 1) (tree.attachments edits)).map
        (idNumber tree.root.id) := by
  induction edits generalizing tree attached with
  | nil => rfl
  | cons edit edits inductionHypothesis =>
      unfold attachments at room ⊢
      rw [← Nat.add_assoc] at room
      have roomFirst := Nat.le_trans (Nat.le_add_right _ _) room
      have first := numbered.handedOutBy edit roomFirst
      have next := (numbered.edit sound edit roomFirst).1
      have rest := inductionHypothesis next (sound.edit edit) room
      rw [(root_edit tree edit).1] at rest
      rw [Tree.handedOut, List.map_append, first, rest, ← List.map_append,
        Nat.add_right_comm, List.range'_append_1]

/-- Node ids increase along the root's children. -/
theorem pairwise_ids (numbered : tree.Numbered attached) :
    tree.nodeIds.values.Pairwise fun older newer => older.raw < newer.raw := by
  have numbers := numbered.increasing
  unfold idNumbers at numbers
  rw [List.pairwise_map] at numbers
  rw [Table.values, List.pairwise_map]
  exact numbers.imp UInt64.lt_iff_toNat_lt.mpr

end Numbered

/-- Attachments that are numbered one after the other hand out increasing
numbers. -/
theorem pairwise_idNumber (root : NodeId) (start count : Nat) :
    ((List.range' start count).map (idNumber root)).Pairwise (· < ·) := by
  have increasing : (List.range' start count).Pairwise (· < ·) :=
    List.pairwise_lt_range'
  rw [List.pairwise_map]
  exact increasing.imp (idNumber_lt_idNumber root)

/-- Among all attachments of a tree's life, the first hands out the first number
and each the next one. The counter stands one above the last number and has
never wrapped. So no node id is handed out twice, none is the root's, and the
root's children stand in the order of their ids. -/
theorem editAll_nodeIds
    (root : NodeId)
    (label : String)
    (edits : List Edit)
    (room : (new root label).attachments edits ≤ attachmentLimit) :
    ((new root label).handedOut edits).map (·.raw.toNat) =
        (List.range' 1 ((new root label).attachments edits)).map
          (idNumber root) ∧
      ((new root label).editAll edits).counter.toNat =
        idNumber root ((new root label).attachments edits) + 1 ∧
      idNumber root ((new root label).attachments edits) + 1 < UInt64.size ∧
      ((new root label).handedOut edits).Nodup ∧
      root ∉ (new root label).handedOut edits ∧
      ∃ ids : List NodeId,
        ((new root label).editAll edits).root.children.map
            ((new root label).editAll edits).nodeId? = ids.map some ∧
          ids.Pairwise fun older newer => older.raw < newer.raw := by
  have start := numbered_new root label
  have sound := sound_new root label
  rw [← Nat.zero_add (attachments _ edits)] at room
  have numbers := start.handedOut sound edits room
  have numbered := (start.editAll sound edits room).1
  simp only [Nat.zero_add] at numbers numbered
  have counter := numbered.counter
  rw [(root_editAll (new root label) edits).1] at counter
  refine ⟨numbers, counter, ?_, ?_, ?_, _, (sound.editAll edits).map_nodeId?,
    numbered.pairwise_ids⟩
  · have bounded := ((new root label).editAll edits).counter.toNat_lt
    rwa [counter] at bounded
  · apply List.Nodup.of_map (·.raw.toNat)
    rw [numbers]
    exact (pairwise_idNumber root _ _).imp Nat.ne_of_lt
  · intro member
    have number := List.mem_map_of_mem (f := (·.raw.toNat)) member
    rw [numbers, List.mem_map] at number
    obtain ⟨attachment, inRange, same⟩ := number
    have positive := (List.mem_range'_1.mp inRange).1
    exact idNumber_ne_root root positive same

/-- The refused second attachment takes no number, detaching gives none back, and
the number of the root is passed over. -/
theorem editAll_nodeIds_pastRoot :
    (new ⟨2⟩ "root").attachments
        [.attach (.widget ⟨7⟩) { role := .button },
          .attach (.widget ⟨7⟩) { role := .list },
          .detach (.widget ⟨7⟩),
          .attach (.widget ⟨7⟩) { role := .button },
          .detachAll,
          .attach (.selection ⟨7⟩) { role := .generic }] ≤ attachmentLimit ∧
      ((new ⟨2⟩ "root").handedOut
        [.attach (.widget ⟨7⟩) { role := .button },
          .attach (.widget ⟨7⟩) { role := .list },
          .detach (.widget ⟨7⟩),
          .attach (.widget ⟨7⟩) { role := .button },
          .detachAll,
          .attach (.selection ⟨7⟩) { role := .generic }]).map (·.raw.toNat) =
        [1, 3, 4] := by
  refine ⟨by decide, ?_⟩
  exact (editAll_nodeIds ⟨2⟩ "root" _ (by decide)).1.trans (by decide)

end Tree
end AssistiveTree
