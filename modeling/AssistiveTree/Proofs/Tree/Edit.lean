import AssistiveTree.Proofs.Tree.Numbering

/-!
# Edits of a tree

Everything that happens to a tree is a sequence of edits. Every edit keeps it
sound and, while node ids last, numbered.
-/

namespace AssistiveTree
namespace Tree

/-- One operation on a tree. -/
inductive Edit
  | attach (key : NodeKey) (node : Node)
  | detach (key : NodeKey)
  | detachAll
  | modify (key : NodeKey) (change : Node → Node)
  | setActiveDescendant (focus : Option WidgetId)

/-- The tree after one edit. -/
def edit (tree : Tree) : Edit → Tree
  | .attach key node => (tree.attach key node).tree
  | .detach key => (tree.detach key).tree
  | .detachAll => tree.detachAll.tree
  | .modify key change => tree.modify key change
  | .setActiveDescendant focus => tree.setActiveDescendant focus

/-- The tree after edits in order. -/
def editAll (tree : Tree) (edits : List Edit) : Tree := edits.foldl edit tree

/-- Whether an edit attaches a node, as a number. -/
def attachmentsOf (tree : Tree) : Edit → Nat
  | .attach key node => if (tree.attach key node).answer then 1 else 0
  | _ => 0

@[simp] theorem edit_attach (tree : Tree) (key : NodeKey) (node : Node) :
    tree.edit (.attach key node) = (tree.attach key node).tree := rfl

@[simp] theorem attachmentsOf_attach
    (tree : Tree)
    (key : NodeKey)
    (node : Node) :
    tree.attachmentsOf (.attach key node) =
      if (tree.attach key node).answer then 1 else 0 := rfl

/-- How many of some edits attach a node. -/
def attachments (tree : Tree) : List Edit → Nat
  | [] => 0
  | edit :: edits =>
      tree.attachmentsOf edit + (tree.edit edit).attachments edits

theorem editAll_append (tree : Tree) (edits more : List Edit) :
    tree.editAll (edits ++ more) = (tree.editAll edits).editAll more :=
  List.foldl_append

theorem attachments_append (tree : Tree) (edits more : List Edit) :
    tree.attachments (edits ++ more) =
      tree.attachments edits + (tree.editAll edits).attachments more := by
  induction edits generalizing tree with
  | nil => simp [attachments, editAll]
  | cons edit edits inductionHypothesis =>
      rw [List.cons_append, attachments, attachments, inductionHypothesis,
        Nat.add_assoc]
      rfl

/-- No edit touches the root's id or label. -/
theorem root_edit (tree : Tree) (edit : Edit) :
    (tree.edit edit).root.id = tree.root.id ∧
      (tree.edit edit).root.label = tree.root.label := by
  cases edit with
  | attach key node =>
      obtain ⟨id, label, _⟩ := root_attach tree key node
      exact ⟨id, label⟩
  | detach key =>
      obtain ⟨id, label, _⟩ := root_detach tree key
      exact ⟨id, label⟩
  | detachAll => exact ⟨rfl, rfl⟩
  | modify key change => exact ⟨rfl, rfl⟩
  | setActiveDescendant focus => exact ⟨rfl, rfl⟩

theorem root_editAll (tree : Tree) (edits : List Edit) :
    (tree.editAll edits).root.id = tree.root.id ∧
      (tree.editAll edits).root.label = tree.root.label := by
  induction edits generalizing tree with
  | nil => exact ⟨rfl, rfl⟩
  | cons edit edits inductionHypothesis =>
      obtain ⟨id, label⟩ := inductionHypothesis (tree.edit edit)
      obtain ⟨firstId, firstLabel⟩ := root_edit tree edit
      exact ⟨id.trans firstId, label.trans firstLabel⟩

variable {tree : Tree} {attached : Nat}

theorem Sound.edit (sound : tree.Sound) (edit : Edit) :
    (tree.edit edit).Sound := by
  cases edit with
  | attach key node => exact sound.attach key node
  | detach key => exact sound.detach key
  | detachAll => exact Sound.detachAll tree
  | modify key change => exact sound.modify key change
  | setActiveDescendant focus => exact sound.setActiveDescendant focus

theorem Sound.editAll (sound : tree.Sound) (edits : List Edit) :
    (tree.editAll edits).Sound := by
  induction edits generalizing tree with
  | nil => exact sound
  | cons edit edits inductionHypothesis =>
      exact inductionHypothesis (sound.edit edit)

theorem Tidy.edit
    (tidy : tree.Tidy)
    (sound : tree.Sound)
    (edit : Edit) :
    (tree.edit edit).Tidy := by
  cases edit with
  | attach key node => exact tidy.attach sound key node
  | detach key => exact tidy.detach sound key
  | detachAll => exact fun _ member => absurd member List.not_mem_nil
  | modify key change => exact tidy.modify key change
  | setActiveDescendant focus => exact tidy

theorem Tidy.editAll
    (tidy : tree.Tidy)
    (sound : tree.Sound)
    (edits : List Edit) :
    (tree.editAll edits).Tidy := by
  induction edits generalizing tree with
  | nil => exact tidy
  | cons edit edits inductionHypothesis =>
      exact inductionHypothesis (tidy.edit sound edit) (sound.edit edit)

/-- While node ids last, an edit keeps the tree numbered and takes node ids
from the counter only. -/
theorem Numbered.edit
    (numbered : tree.Numbered attached)
    (sound : tree.Sound)
    (edit : Edit)
    (room : attached + tree.attachmentsOf edit ≤ attachmentLimit) :
    (tree.edit edit).Numbered (attached + tree.attachmentsOf edit) ∧
      (tree.edit edit).Continues tree := by
  cases edit with
  | attach key node =>
      rw [attachmentsOf_attach] at room ⊢
      rw [edit_attach]
      by_cases present : key ∈ tree.nodes.keys
      · rw [attach_of_contains present]
        exact ⟨numbered, Continues.refl tree⟩
      · have answer : (tree.attach key node).answer = true := by
          rw [Tree.attach_of_absent present]
        rw [if_pos answer] at room ⊢
        exact ⟨numbered.attach_of_absent sound room present node,
          Continues.attach_of_absent numbered sound room present node⟩
  | detach key => exact ⟨numbered.detach sound key, Continues.detach tree key⟩
  | detachAll =>
      exact ⟨numbered.detachAll,
        Continues.of_subset rfl (List.nil_subset tree.idNumbers)⟩
  | modify key change =>
      exact ⟨numbered.modify key change, Continues.modify tree key change⟩
  | setActiveDescendant focus =>
      exact ⟨numbered.setActiveDescendant focus,
        Continues.of_subset rfl (List.Subset.refl tree.idNumbers)⟩

theorem Numbered.editAll
    (numbered : tree.Numbered attached)
    (sound : tree.Sound)
    (edits : List Edit)
    (room : attached + tree.attachments edits ≤ attachmentLimit) :
    (tree.editAll edits).Numbered (attached + tree.attachments edits) ∧
      (tree.editAll edits).Continues tree := by
  induction edits generalizing tree attached with
  | nil => exact ⟨numbered, Continues.refl tree⟩
  | cons edit edits inductionHypothesis =>
      unfold attachments at room ⊢
      rw [← Nat.add_assoc] at room ⊢
      obtain ⟨first, continues⟩ := numbered.edit sound edit (by omega)
      obtain ⟨rest, restContinues⟩ :=
        inductionHypothesis first (sound.edit edit) room
      exact ⟨rest, restContinues.trans continues⟩

end Tree
end AssistiveTree
