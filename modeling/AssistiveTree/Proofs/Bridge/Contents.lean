import AssistiveTree.Proofs.Bridge.Delivery
import AssistiveTree.Proofs.Bridge.Focus
import AssistiveTree.Proofs.Bridge.Reports

/-!
# Bridges without their node ids

Leaving out the node ids, what a bridge holds is a list of contents, and every
operation is a plain operation on that list. No operation looks at a node id. So
two bridges that differ in nothing else stay that way, whatever is done to both
of them, and their subscribers are called alike.
-/

namespace AssistiveTree

/-- What a bridge holds for one registered widget, node ids left out. -/
structure Content where
  id : WidgetId
  object : WidgetRef
  primary : Node
  companion : Option Node
  deriving DecidableEq

namespace Content

/-- The contents that an added widget brings. -/
def ofWidget (object : WidgetRef) (widget : Widget) : Content where
  id := widget.id
  object := object
  primary := Bridge.primaryNode widget
  companion := Bridge.companionNode? widget

/-- The contents after a notification. -/
def notified (notification : Notification) (content : Content) : Content :=
  { content with
    primary := content.primary.notified content.id notification
    companion := content.companion.map
      (·.selectionNotified content.id notification) }

/-- The nodes of the widget with their keys. -/
def nodes (content : Content) : List (NodeKey × Node) :=
  (.widget content.id, content.primary) ::
    (content.companion.map fun node =>
      (NodeKey.selection content.id, node)).toList

/-- The contents after an operation. -/
def listAfter (contents : List Content) : Bridge.Operation → List Content
  | .add object widget =>
      if widget.isAccessible = true ∧ widget.id ∉ contents.map (·.id) then
        contents ++ [ofWidget object widget]
      else contents
  | .remove id => contents.filter fun content => content.id ≠ id
  | .shutdown => []
  | .notify notification => contents.map (notified notification)
  | .onSelection _ => contents
  | .onNotification _ => contents
  | .exportTree => contents
  | .request _ _ _ => contents

end Content

/-- A holding without its node ids. -/
def Holding.content (holding : Holding) : Content where
  id := holding.id
  object := holding.object
  primary := holding.primary.node
  companion := holding.companion.map (·.node)

theorem Holding.content_notified
    (notification : Notification)
    (holding : Holding) :
    (holding.notified notification).content =
      holding.content.notified notification := by
  simp [content, notified, changePrimary, changeCompanion, Content.notified,
    Function.comp_def]

theorem Holding.content_nodes (holding : Holding) :
    holding.content.nodes =
      holding.slots.map fun entry => (entry.1, entry.2.node) := by
  cases companion : holding.companion <;>
    simp [content, slots, Content.nodes, companion]

theorem Bridge.content_admitted
    (bridge : Bridge)
    (object : WidgetRef)
    (widget : Widget) :
    (bridge.admitted object widget).content =
      Content.ofWidget object widget := by
  simp [admitted, Holding.content, Content.ofWidget, Function.comp_def]

namespace Bridge

/-- What a bridge holds comes down to some contents. -/
def HasContents (bridge : Bridge) (contents : List Content) : Prop :=
  ∃ holdings, bridge.Holds holdings ∧ holdings.map Holding.content = contents

namespace HasContents

variable {bridge : Bridge} {contents : List Content}

theorem new (config : Config) : (Bridge.new config).HasContents [] :=
  ⟨[], Holds.new config, rfl⟩

/-- An id is registered exactly when there are contents for it. -/
theorem isRegistered_eq_false_iff
    (has : bridge.HasContents contents)
    (id : WidgetId) :
    bridge.isRegistered id = false ↔ id ∉ contents.map (·.id) := by
  obtain ⟨holdings, holds, rfl⟩ := has
  rw [← Bool.not_eq_true, holds.isRegistered_iff, List.map_map, List.mem_map]
  rfl

theorem registry (has : bridge.HasContents contents) :
    bridge.registry.entries.entries =
      contents.map fun content => (content.id, content.object) := by
  obtain ⟨holdings, holds, rfl⟩ := has
  rw [holds.registry, List.map_map]
  rfl

/-- The attached nodes with their keys, node ids left out. -/
theorem nodes (has : bridge.HasContents contents) :
    bridge.tree.nodes.entries = contents.flatMap Content.nodes := by
  obtain ⟨holdings, holds, rfl⟩ := has
  rw [holds.sound.entries_nodes, holds.slots, List.map_flatMap,
    List.flatMap_map]
  simp only [Holding.content_nodes]

theorem perform
    (has : bridge.HasContents contents)
    (operation : Operation) :
    (bridge.perform operation).bridge.HasContents
      (Content.listAfter contents operation) := by
  have registered := has.isRegistered_eq_false_iff
  obtain ⟨holdings, holds, rfl⟩ := has
  refine ⟨_, holds.perform operation, ?_⟩
  cases operation with
  | add object widget =>
      simp only [holdingsAfter, Content.listAfter, registered]
      split
      · rw [List.map_append, List.map_singleton, content_admitted]
      · rfl
  | remove id =>
      simp only [holdingsAfter, Content.listAfter, List.filter_map]
      rfl
  | shutdown => rfl
  | notify notification =>
      simp only [holdingsAfter, Content.listAfter, List.map_map]
      exact List.map_congr_left fun holding _ =>
        Holding.content_notified notification holding
  | onSelection subscriber => rfl
  | onNotification subscriber => rfl
  | exportTree => rfl
  | request living request quiet => rfl

end HasContents

/-! ## Reports of attached nodes -/

/-- Handling a notification attaches no node. -/
theorem attachments_notify (bridge : Bridge) (notification : Notification) :
    Journal.attachments (bridge.notify notification).journal = 0 := by
  rw [Journal.attachments, List.countP_eq_zero]
  intro entry member attachment
  have dispatched := target_of_mem_notify member
  cases entry with
  | event event =>
      cases event with
      | attached key id => cases dispatched
      | _ => cases attachment
  | _ => cases attachment

theorem attachments_remove (bridge : Bridge) (id : WidgetId) :
    Journal.attachments (bridge.remove id).journal = 0 := by
  unfold remove
  split
  · simp only [Journal.attachments_within, Journal.attachments_append,
      Tree.attachments_detach]
    rfl
  · rfl

/-- An add reports the nodes that the widget brings. -/
theorem HasContents.attachments_add
    {bridge : Bridge}
    {contents : List Content}
    (has : bridge.HasContents contents)
    {widget : Widget}
    (accessible : widget.isAccessible = true)
    (unregistered : bridge.isRegistered widget.id = false)
    (object : WidgetRef) :
    Journal.attachments (bridge.add object widget).journal =
      (Content.ofWidget object widget).nodes.length := by
  obtain ⟨holdings, holds, rfl⟩ := has
  have noPrimary : NodeKey.widget widget.id ∉ bridge.tree.nodes.keys :=
    holds.absent unregistered
  have noCompanion := holds.absent_attach unregistered
  have primary : bridge.tree.attachmentsOf
      (.attach (.widget widget.id) (primaryNode widget)) = 1 := by
    rw [Tree.attachmentsOf_attach, Tree.attach_of_absent noPrimary]
    rfl
  have added : Journal.attachments
      [.event (.added widget.id widget.code (classify widget.code).role
        widget.name)] = 0 := rfl
  have companion : Journal.attachments (attachCompanion
      (bridge.tree.attach (.widget widget.id) (primaryNode widget)).tree
      widget).journal = (companionNode? widget).toList.length := by
    unfold attachCompanion
    cases companionNode? widget with
    | none => rfl
    | some node =>
        rw [Tree.attachments_attach, Tree.attachmentsOf_attach,
          Tree.attach_of_absent noCompanion]
        rfl
  have stray : Journal.attachments
      (if (bridge.tree.attach (.widget widget.id)
          (primaryNode widget)).answer then []
        else [.event (.strayNode widget.id)]) = 0 := by
    split <;> rfl
  have nodes : (Content.ofWidget object widget).nodes.length =
      1 + (companionNode? widget).toList.length := by
    cases brought : companionNode? widget <;>
      simp [Content.ofWidget, Content.nodes, brought]
  simp only [add, accessible, unregistered, Bool.true_eq_false,
    Bool.false_eq_true, if_false, Journal.attachments_within,
    Journal.attachments_append, Tree.attachments_attach, primary, companion,
    added, stray, nodes, Nat.add_zero]

/-- How many nodes an operation attaches to a bridge with some contents. -/
def attachmentsAfter (contents : List Content) : Operation → Nat
  | .add object widget =>
      if widget.isAccessible = true ∧ widget.id ∉ contents.map (·.id) then
        (Content.ofWidget object widget).nodes.length
      else 0
  | _ => 0

/-- How many nodes an operation attaches does not depend on node ids. -/
theorem HasContents.attachments_perform
    {bridge : Bridge}
    {contents : List Content}
    (has : bridge.HasContents contents)
    (operation : Operation) :
    Journal.attachments (bridge.perform operation).journal =
      attachmentsAfter contents operation := by
  cases operation with
  | add object widget =>
      change Journal.attachments (bridge.add object widget).journal = _
      simp only [attachmentsAfter, ← has.isRegistered_eq_false_iff]
      by_cases admits : widget.isAccessible = true ∧
          bridge.isRegistered widget.id = false
      · rw [if_pos admits]
        exact has.attachments_add admits.1 admits.2 object
      · rw [if_neg admits]
        unfold add
        split
        · rfl
        · split
          · rfl
          · simp_all
  | remove id => exact attachments_remove bridge id
  | shutdown => rfl
  | notify notification => exact attachments_notify bridge notification
  | onSelection subscriber => rfl
  | onNotification subscriber => rfl
  | exportTree => rfl
  | request living request quiet =>
      exact bridge.attachments_request living request quiet

/-! ## Calls -/

/-- Who is called about a notification, given who is registered. -/
theorem calls_notify (bridge : Bridge) (notification : Notification) :
    (bridge.notify notification).calls =
      match notification.path with
      | .update _ _ _ => []
      | .acknowledge point =>
          if (point.target.filter fun id => !bridge.isRegistered id) = none then
            bridge.notificationHooks.map fun subscriber =>
              .notification subscriber point
          else []
      | .moveFocus _ => []
      | .changeSelection selection =>
          bridge.selectionHooks.map fun subscriber =>
            .selection subscriber selection.kind selection := by
  rw [notify_eq]
  cases notification.path with
  | update id aspect change =>
      simp only [update]
      split <;> rfl
  | acknowledge point =>
      simp only [acknowledge]
      split <;> simp_all [drop]
  | moveFocus focus => rfl
  | changeSelection selection => cases selection <;> rfl

/-- Nobody is called about anything but notifications. -/
theorem calls_perform (bridge : Bridge) (operation : Operation) :
    (bridge.perform operation).calls =
      match operation with
      | .notify notification => (bridge.notify notification).calls
      | _ => [] := by
  cases operation with
  | add object widget =>
      change (bridge.add object widget).calls = []
      unfold add
      split
      · rfl
      · split <;> rfl
  | remove id =>
      change (bridge.remove id).calls = []
      unfold remove
      split <;> rfl
  | _ => rfl

/-! ## Alike bridges -/

/-- Two bridges know the same, node ids and settings left out. -/
structure Alike (first second : Bridge) : Prop where
  contents : ∃ contents,
    first.HasContents contents ∧ second.HasContents contents
  label : second.tree.root.label = first.tree.root.label
  focus : second.focus = first.focus
  firstFocused : first.Focused
  secondFocused : second.Focused
  hooks : SameHooks first second

namespace Alike

variable {first second : Bridge}

theorem registry (alike : first.Alike second) :
    second.registry = first.registry := by
  obtain ⟨contents, has, others⟩ := alike.contents
  have entries := others.registry.trans has.registry.symm
  cases firstRegistry : first.registry with
  | mk firstEntries =>
      cases secondRegistry : second.registry with
      | mk secondEntries =>
          rw [firstRegistry, secondRegistry] at entries
          exact congrArg (fun list => Registry.mk ⟨list⟩) entries

theorem isRegistered (alike : first.Alike second) (id : WidgetId) :
    second.isRegistered id = first.isRegistered id := by
  rw [Bridge.isRegistered, alike.registry]
  rfl

/-- The same nodes are attached to alike bridges, in the same order. -/
theorem nodes (alike : first.Alike second) :
    second.tree.nodes = first.tree.nodes := by
  obtain ⟨contents, has, others⟩ := alike.contents
  exact congrArg Table.mk (others.nodes.trans has.nodes.symm)

theorem activeDescendant (alike : first.Alike second) :
    second.tree.root.activeDescendant = first.tree.root.activeDescendant := by
  have firstFocused := alike.firstFocused
  have secondFocused := alike.secondFocused
  unfold Focused at firstFocused secondFocused
  rw [firstFocused, secondFocused, alike.focus]

/-- Alike bridges call the same subscribers. -/
theorem calls (alike : first.Alike second) (operation : Operation) :
    (second.perform operation).calls = (first.perform operation).calls := by
  have registered : second.isRegistered = first.isRegistered :=
    funext alike.isRegistered
  simp only [calls_perform, calls_notify, registered, alike.hooks.selection,
    alike.hooks.notification]

/-- Alike bridges attach the same number of nodes. -/
theorem attachments (alike : first.Alike second) (operation : Operation) :
    Journal.attachments (second.perform operation).journal =
      Journal.attachments (first.perform operation).journal := by
  obtain ⟨contents, has, others⟩ := alike.contents
  rw [has.attachments_perform, others.attachments_perform]

theorem takesFocus_iff (alike : first.Alike second) (operation : Operation) :
    operation.TakesFocus second second.focus ↔
      operation.TakesFocus first first.focus := by
  cases operation with
  | remove id =>
      simp only [Operation.TakesFocus, alike.focus, alike.isRegistered]
  | _ => exact Iff.rfl

theorem focus_perform (alike : first.Alike second) (operation : Operation) :
    (second.perform operation).bridge.focus =
      (first.perform operation).bridge.focus := by
  cases moves : operation.newFocus? with
  | some focus => rw [focus_of_newFocus? _ moves, focus_of_newFocus? _ moves]
  | none =>
      by_cases takes : operation.TakesFocus first first.focus
      · rw [focus_of_takesFocus takes,
          focus_of_takesFocus ((alike.takesFocus_iff operation).mpr takes)]
      · have untaken := mt (alike.takesFocus_iff operation).mp takes
        rw [focus_of_unmoved moves takes, focus_of_unmoved moves untaken,
          alike.focus]

theorem hooks_perform (alike : first.Alike second) (operation : Operation) :
    SameHooks (first.perform operation).bridge
      (second.perform operation).bridge := by
  rw [sameHooks_iff]
  intro channel
  rw [Bridge.hooks_perform, Bridge.hooks_perform,
    sameHooks_iff.mp alike.hooks channel]

/-- Alike bridges stay alike when the same is done to both. -/
theorem perform (alike : first.Alike second) (operation : Operation) :
    (first.perform operation).bridge.Alike
      (second.perform operation).bridge where
  contents := by
    obtain ⟨contents, has, others⟩ := alike.contents
    exact ⟨_, has.perform operation, others.perform operation⟩
  label := by
    rw [(perform_edits first operation).root.2,
      (perform_edits second operation).root.2, alike.label]
  focus := alike.focus_perform operation
  firstFocused := alike.firstFocused.perform operation
  secondFocused := alike.secondFocused.perform operation
  hooks := alike.hooks_perform operation

/-- The same run leaves alike bridges alike, with the same calls and the same
number of attached nodes on the way. -/
theorem run (alike : first.Alike second) (operations : List Operation) :
    (first.run operations).bridge.Alike (second.run operations).bridge ∧
      (second.run operations).calls = (first.run operations).calls ∧
      Journal.attachments (second.run operations).journal =
        Journal.attachments (first.run operations).journal := by
  induction operations using List.reverseRecOn with
  | nil => exact ⟨alike, rfl, rfl⟩
  | append_singleton operations operation inductionHypothesis =>
      obtain ⟨still, calls, attachments⟩ := inductionHypothesis
      simp only [run_concat, Outcome.followedBy, Journal.attachments_append]
      refine ⟨still.perform operation, ?_, ?_⟩
      · rw [calls, still.calls]
      · rw [attachments, still.attachments]

end Alike

end Bridge
end AssistiveTree
