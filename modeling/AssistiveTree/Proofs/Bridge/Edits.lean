import AssistiveTree.Proofs.Bridge.Reports
import AssistiveTree.Proofs.Bridge.Run

/-!
# Edits by a bridge

A bridge touches its tree by edits only, and its journal reports every node that
they attach. So what edits keep, operations and runs keep: the tree stays sound,
and it stays numbered while the journal reports no more attached nodes than
node ids last for.
-/

namespace AssistiveTree

/-- The journal of an attachment reports the attached node, if there is one. -/
theorem Tree.attachments_attach
    (tree : Tree)
    (key : NodeKey)
    (node : Node) :
    Journal.attachments (tree.attach key node).journal =
      tree.attachmentsOf (.attach key node) := by
  rw [attachmentsOf_attach]
  by_cases present : key ∈ tree.nodes.keys
  · rw [attach_of_contains present]
    rfl
  · rw [attach_of_absent present]
    rfl

theorem Tree.attachments_detach (tree : Tree) (key : NodeKey) :
    Journal.attachments (tree.detach key).journal = 0 := by
  unfold detach
  cases tree.nodes.get? key <;> rfl

/-- The events of a span report what its journal reports. -/
@[simp] theorem Journal.attachments_within
    (span : Span)
    (entries : List Entry) :
    attachments (within span entries) = attachments entries := by
  simp [within, attachments, Entry.isAttachment]

namespace Bridge

/-- The outcome's tree is an edited one, and the outcome's journal reports the
nodes that the edits attach. -/
def Outcome.Edits (outcome : Outcome) (before : Tree) : Prop :=
  ∃ edits,
    outcome.bridge.tree = before.editAll edits ∧
      Journal.attachments outcome.journal = before.attachments edits

namespace Outcome.Edits

/-- Nothing was edited. -/
theorem nothing
    {outcome : Outcome}
    {before : Tree}
    (same : outcome.bridge.tree = before)
    (quiet : Journal.attachments outcome.journal = 0) :
    outcome.Edits before :=
  ⟨[], same, quiet⟩

/-- A node was changed. -/
theorem changed
    {outcome : Outcome}
    {before : Tree}
    (key : NodeKey)
    (change : Node → Node)
    (modified : outcome.bridge.tree = before.modify key change)
    (quiet : Journal.attachments outcome.journal = 0) :
    outcome.Edits before :=
  ⟨[.modify key change], modified, quiet⟩

/-- Edits of an edited tree are edits. -/
theorem followedBy
    {outcome : Outcome}
    {before : Tree}
    {next : Bridge → Outcome}
    (first : outcome.Edits before)
    (second : (next outcome.bridge).Edits outcome.bridge.tree) :
    (outcome.followedBy next).Edits before := by
  obtain ⟨edits, tree, journal⟩ := first
  obtain ⟨more, moreTree, moreJournal⟩ := second
  rw [tree] at moreTree moreJournal
  refine ⟨edits ++ more, ?_, ?_⟩
  · rw [Tree.editAll_append]
    exact moreTree
  · rw [Tree.attachments_append, ← journal, ← moreJournal]
    exact Journal.attachments_append _ _

/-- The root's id and label stay. -/
theorem root
    {outcome : Outcome}
    {before : Tree}
    (edits : outcome.Edits before) :
    outcome.bridge.tree.root.id = before.root.id ∧
      outcome.bridge.tree.root.label = before.root.label := by
  obtain ⟨list, tree, _⟩ := edits
  rw [tree]
  exact before.root_editAll list

/-- While node ids last, an outcome's tree is numbered by the attached nodes
that the journal reports. -/
theorem numbered
    {outcome : Outcome}
    {before : Tree}
    {attached : Nat}
    (edits : outcome.Edits before)
    (sound : before.Sound)
    (numbered : before.Numbered attached)
    (room : attached + Journal.attachments outcome.journal ≤
      Tree.attachmentLimit) :
    outcome.bridge.tree.Numbered
        (attached + Journal.attachments outcome.journal) ∧
      outcome.bridge.tree.Continues before := by
  obtain ⟨list, tree, journal⟩ := edits
  rw [journal] at room ⊢
  rw [tree]
  exact numbered.editAll sound list room

end Outcome.Edits

theorem attachments_whenLogging
    (bridge : Bridge)
    {event : Journal.Event}
    (other : (Journal.Entry.event event).isAttachment = false) :
    Journal.attachments (bridge.whenLogging event) = 0 := by
  unfold whenLogging
  split <;> simp [Journal.attachments, other]

theorem attachments_request
    (bridge : Bridge)
    (living : List WidgetRef)
    (request : ActionRequest)
    (quiet : Bool) :
    Journal.attachments
      (bridge.perform (.request living request quiet)).journal = 0 := by
  rw [journal_request]
  cases bridge.resolve living request with
  | ok pending => rfl
  | error error => cases quiet <;> rfl

theorem update_edits
    (bridge : Bridge)
    (id : WidgetId)
    (aspect : Aspect)
    (change : Node.Attribute) :
    (bridge.update id aspect change).Edits bridge.tree := by
  unfold update
  split
  · exact .changed (.widget id) (·.set change) rfl
      (attachments_whenLogging bridge rfl)
  · exact .nothing rfl rfl

theorem acknowledge_edits (bridge : Bridge) (point : HookPoint) :
    (bridge.acknowledge point).Edits bridge.tree := by
  refine .nothing (by rw [acknowledge_bridge]) ?_
  unfold acknowledge
  split
  · rfl
  · exact attachments_whenLogging bridge rfl

theorem repeatTextField_edits (bridge : Bridge) (selection : TextSelection) :
    (bridge.repeatTextField selection).Edits bridge.tree := by
  unfold repeatTextField
  split
  · exact .nothing rfl rfl
  · next id _ =>
    split
    · split
      · exact .changed (.selection id)
          (fun node => { node with value := some selection.text }) rfl rfl
      · exact .nothing rfl rfl
    · exact .nothing rfl rfl

theorem changeSelection_edits (bridge : Bridge) (selection : Selection) :
    (bridge.changeSelection selection).Edits bridge.tree := by
  have logged : Journal.attachments (bridge.whenLogging
      (.selectionRouted (bridge.routeSelection selection).2)) = 0 :=
    attachments_whenLogging bridge rfl
  have routed : (bridge.routeSelection selection).1.Edits bridge.tree := by
    cases selection with
    | textBox selection =>
        refine .nothing rfl ?_
        cases control : selection.control <;>
          simp [routeSelection, noteTextBox, control, Journal.attachments,
            Journal.Entry.isAttachment]
    | textField selection => exact bridge.repeatTextField_edits selection
    | _ => exact .nothing rfl rfl
  obtain ⟨edits, tree, journal⟩ := routed
  refine ⟨edits, tree, ?_⟩
  simp only [changeSelection, Journal.attachments_append, logged]
  exact journal

theorem notify_edits (bridge : Bridge) (notification : Notification) :
    (bridge.notify notification).Edits bridge.tree := by
  rw [notify_eq]
  cases notification.path with
  | update id aspect change => exact bridge.update_edits id aspect change
  | acknowledge point => exact bridge.acknowledge_edits point
  | moveFocus focus => exact ⟨[.setActiveDescendant focus], rfl, rfl⟩
  | changeSelection selection => exact bridge.changeSelection_edits selection

theorem add_edits (bridge : Bridge) (object : WidgetRef) (widget : Widget) :
    (bridge.add object widget).Edits bridge.tree := by
  unfold add
  split
  · exact .nothing rfl rfl
  · split
    · exact .nothing rfl rfl
    · let primary := bridge.tree.attach (.widget widget.id) (primaryNode widget)
      have stray : Journal.attachments
          (if primary.answer then []
            else [.event (.strayNode widget.id)]) = 0 := by
        split <;> rfl
      have added : Journal.attachments
          [.event (.added widget.id widget.code (classify widget.code).role
            widget.name)] = 0 := rfl
      cases companion : companionNode? widget with
      | none =>
          refine ⟨[.attach (.widget widget.id) (primaryNode widget)], ?_, ?_⟩
          · simp [attachCompanion, companion, Tree.editAll]
          · simp [attachCompanion, companion, Tree.attachments, primary,
              stray, added, Tree.attachments_attach]
      | some node =>
          refine ⟨[.attach (.widget widget.id) (primaryNode widget),
            .attach (.selection widget.id) node], ?_, ?_⟩
          · simp [attachCompanion, companion, Tree.editAll]
          · simp [attachCompanion, companion, Tree.attachments, primary,
              stray, added, Tree.attachments_attach]

theorem remove_edits (bridge : Bridge) (id : WidgetId) :
    (bridge.remove id).Edits bridge.tree := by
  unfold remove
  split
  · have quiet : Journal.attachments
        ((bridge.tree.detach (.widget id)).journal ++
          ((bridge.tree.detach (.widget id)).tree.detach
            (.selection id)).journal ++ [.event (.removed id)]) = 0 := by
      simp only [Journal.attachments_append, Tree.attachments_detach]
      rfl
    by_cases focused : bridge.focus = some id
    · refine ⟨[.detach (.widget id), .detach (.selection id),
        .setActiveDescendant none], ?_, ?_⟩
      · simp [focused, Tree.editAll, Tree.edit]
      · simp only [Journal.attachments_within, quiet]
        rfl
    · refine ⟨[.detach (.widget id), .detach (.selection id)], ?_, ?_⟩
      · simp [focused, Tree.editAll, Tree.edit]
      · simp only [Journal.attachments_within, quiet]
        rfl
  · exact .nothing rfl rfl

theorem perform_edits (bridge : Bridge) (operation : Operation) :
    (bridge.perform operation).Edits bridge.tree := by
  cases operation with
  | add object widget => exact bridge.add_edits object widget
  | remove id => exact bridge.remove_edits id
  | shutdown =>
      exact ⟨[.detachAll, .setActiveDescendant none], rfl,
        Journal.attachments_within .shutdown _⟩
  | notify notification => exact bridge.notify_edits notification
  | onSelection subscriber => exact .nothing rfl rfl
  | onNotification subscriber => exact .nothing rfl rfl
  | exportTree => exact .nothing rfl rfl
  | request living request quiet =>
      exact .nothing rfl (bridge.attachments_request living request quiet)

/-- A run edits the tree it starts from. -/
theorem run_edits (bridge : Bridge) (operations : List Operation) :
    (bridge.run operations).Edits bridge.tree := by
  induction operations using List.reverseRecOn with
  | nil => exact .nothing rfl rfl
  | append_singleton operations operation inductionHypothesis =>
      rw [run_concat]
      exact inductionHypothesis.followedBy (perform_edits _ operation)

/-- The root keeps the id and the label that the host chose. -/
theorem run_root (config : Config) (operations : List Operation) :
    ((new config).run operations).bridge.tree.root.id = config.rootId ∧
      ((new config).run operations).bridge.tree.root.label =
        config.rootLabel :=
  (run_edits (new config) operations).root

/-- While node ids last, the tree of a reachable bridge is numbered. -/
theorem run_numbered
    (config : Config)
    (operations : List Operation)
    (room : Journal.attachments ((new config).run operations).journal ≤
      Tree.attachmentLimit) :
    ((new config).run operations).bridge.tree.Numbered
      (Journal.attachments ((new config).run operations).journal) := by
  have start := Tree.numbered_new config.rootId config.rootLabel
  have sound := Tree.sound_new config.rootId config.rootLabel
  rw [← Nat.zero_add (Journal.attachments _)] at room ⊢
  exact ((run_edits (new config) operations).numbered sound start room).1

end Bridge
end AssistiveTree
