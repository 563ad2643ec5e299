import AssistiveTree.Proofs.Bridge.Edits
import AssistiveTree.Proofs.Bridge.Holding

/-!
# Upkeep of the holdings

Every operation of a bridge is a plain operation on its holdings, so every
reachable bridge is described by a list of holdings.
-/

namespace AssistiveTree
namespace Bridge

/-! ## Plain descriptions of the operations -/

/-- The holding that an add appends. -/
def admitted (bridge : Bridge) (object : WidgetRef) (widget : Widget) :
    Holding where
  id := widget.id
  object := object
  primary := ⟨bridge.tree.freshId, primaryNode widget⟩
  companion := (companionNode? widget).map fun node =>
    ⟨(bridge.tree.attach (.widget widget.id) (primaryNode widget)).tree.freshId,
      node⟩

/-- The holdings after an operation. -/
def holdingsAfter (bridge : Bridge) (holdings : List Holding) :
    Operation → List Holding
  | .add object widget =>
      if widget.isAccessible = true ∧ bridge.isRegistered widget.id = false then
        holdings ++ [bridge.admitted object widget]
      else holdings
  | .remove id => holdings.filter fun holding => holding.id ≠ id
  | .shutdown => []
  | .notify notification => holdings.map (Holding.notified notification)
  | .onSelection _ => holdings
  | .onNotification _ => holdings
  | .exportTree => holdings
  | .request _ _ _ => holdings

/-- Adding an unregistered accessible widget registers its object and attaches
its nodes. -/
theorem add_of_unregistered
    {bridge : Bridge}
    {widget : Widget}
    (accessible : widget.isAccessible = true)
    (unregistered : bridge.isRegistered widget.id = false)
    (object : WidgetRef) :
    (bridge.add object widget).bridge =
      { bridge with
        registry := (bridge.registry.register widget.id object).1
        tree :=
          (attachCompanion
            (bridge.tree.attach (.widget widget.id) (primaryNode widget)).tree
            widget).tree } := by
  simp [add, accessible, unregistered]

/-- Any other add changes nothing. -/
theorem add_of_refused
    {bridge : Bridge}
    {widget : Widget}
    (refused : ¬(widget.isAccessible = true ∧
      bridge.isRegistered widget.id = false))
    (object : WidgetRef) :
    (bridge.add object widget).bridge = bridge := by
  rw [add]
  by_cases accessible : widget.isAccessible = true
  · have registered : bridge.isRegistered widget.id = true := by
      simpa [accessible] using refused
    simp [accessible, registered]
  · simp [accessible]

/-- Removing an unregistered id changes nothing. -/
theorem remove_of_unregistered
    {bridge : Bridge}
    {id : WidgetId}
    (unregistered : bridge.isRegistered id = false) :
    (bridge.remove id).bridge = bridge := by
  simp [remove, unregistered]

/-- An update of a registered widget changes its primary node. -/
theorem update_of_registered
    {bridge : Bridge}
    {id : WidgetId}
    (registered : bridge.isRegistered id = true)
    (attached : NodeKey.widget id ∈ bridge.tree.nodes.keys)
    (aspect : Aspect)
    (change : Node.Attribute) :
    bridge.update id aspect change =
      { bridge :=
          { bridge with
            tree := bridge.tree.modify (.widget id) fun node =>
              node.set change }
        journal := bridge.whenLogging (.updated id aspect) } := by
  rw [← Tree.contains_iff] at attached
  simp [update, registered, attached]

/-- An update of an unregistered id is dropped. -/
theorem update_of_unregistered
    {bridge : Bridge}
    {id : WidgetId}
    (unregistered : bridge.isRegistered id = false)
    (aspect : Aspect)
    (change : Node.Attribute) :
    bridge.update id aspect change = bridge.drop id (.update aspect) := by
  simp [update, unregistered]

/-- A notification registers and unregisters nothing. -/
theorem notify_registry (bridge : Bridge) (notification : Notification) :
    (bridge.notify notification).bridge.registry = bridge.registry := by
  rcases bridge.notify_bridge notification with
    same | ⟨key, change, modified⟩ | ⟨focus, moved⟩
  · rw [same]
  · rw [modified]
  · rw [moved]

/-- A notification takes no node id and gives none back. -/
theorem notify_nodeIds (bridge : Bridge) (notification : Notification) :
    (bridge.notify notification).bridge.tree.nodeIds =
      bridge.tree.nodeIds := by
  rcases bridge.notify_bridge notification with
    same | ⟨key, change, modified⟩ | ⟨focus, moved⟩
  · rw [same]
  · rw [modified]
    rfl
  · rw [moved]
    rfl

/-- What is held of an added widget has the shape that its code asks for. -/
theorem admitted_shaped
    (bridge : Bridge)
    (object : WidgetRef)
    (widget : Widget) :
    (bridge.admitted object widget).Shaped := by
  cases rule : (classify widget.code).rule <;>
    constructor <;>
      simp [admitted, primaryNode, companionNode?, rule,
        ConstructionRule.hasCompanion, Node.selectionCompanion]

namespace Holds

variable {bridge : Bridge} {holdings : List Holding}

theorem new (config : Config) : (Bridge.new config).Holds [] where
  distinct := List.nodup_nil
  registry := rfl
  slots := rfl
  sound := Tree.sound_new config.rootId config.rootLabel
  shaped := fun _ member => absurd member List.not_mem_nil

/-- The primary node of a registered widget is attached. -/
theorem widget_mem_keys
    (holds : bridge.Holds holdings)
    {id : WidgetId}
    (registered : bridge.isRegistered id = true) :
    NodeKey.widget id ∈ bridge.tree.nodes.keys := by
  obtain ⟨holding, member, rfl⟩ := (holds.isRegistered_iff id).mp registered
  exact holds.sound.mem_keys_of_mem
    (holds.mem_slots member List.mem_cons_self)

/-- A notification that concerns no attached node changes no slot. -/
theorem slots_unconcerned
    {notification : Notification}
    (unconcerned : ∀ entry ∈ bridge.tree.slots.entries,
      entry.2.notified notification entry.1 = entry.2) :
    bridge.tree.slots.entries =
      bridge.tree.slots.entries.map fun entry =>
        (entry.1, entry.2.notified notification entry.1) := by
  conv => lhs; rw [← List.map_id bridge.tree.slots.entries]
  apply List.map_congr_left
  intro entry member
  rw [unconcerned entry member]
  rfl

/-- A notification without a key changes no slot. -/
theorem slots_of_keyless
    {notification : Notification}
    (keyless : notification.path.key? = none) :
    bridge.tree.slots.entries =
      bridge.tree.slots.entries.map fun entry =>
        (entry.1, entry.2.notified notification entry.1) := by
  apply slots_unconcerned
  intro entry _
  apply Slot.notified_of_key?_ne
  rw [keyless]
  exact Ne.symm (Option.some_ne_none _)

/-- A notification that concerns one key changes the slot of that key. -/
theorem slots_concerned
    {notification : Notification}
    {key : NodeKey}
    {change : Node → Node}
    (concerns : notification.Concerns key change) :
    (bridge.tree.modify key change).slots.entries =
      bridge.tree.slots.entries.map fun entry =>
        (entry.1, entry.2.notified notification entry.1) := by
  rw [Tree.slots_modify, Table.entries_modify]
  apply List.map_congr_left
  intro entry _
  rw [concerns]
  by_cases same : entry.1 = key <;> simp [same]

/-- A notification that concerns an absent key changes no slot. -/
theorem slots_of_absent
    (holds : bridge.Holds holdings)
    {notification : Notification}
    {key : NodeKey}
    {change : Node → Node}
    (concerns : notification.Concerns key change)
    (absent : key ∉ bridge.tree.nodes.keys) :
    bridge.tree.slots.entries =
      bridge.tree.slots.entries.map fun entry =>
        (entry.1, entry.2.notified notification entry.1) := by
  apply slots_unconcerned
  intro entry member
  have different : entry.1 ≠ key := by
    rintro rfl
    exact absent (holds.sound.mem_keys_of_mem member)
  rw [concerns, if_neg different]

/-- An update changes the slots as its notification says. -/
theorem slots_update
    (holds : bridge.Holds holdings)
    {notification : Notification}
    {target : WidgetId}
    {aspect : Aspect}
    {change : Node.Attribute}
    (path : notification.path = .update target aspect change) :
    (bridge.update target aspect change).bridge.tree.slots.entries =
      bridge.tree.slots.entries.map fun entry =>
        (entry.1, entry.2.notified notification entry.1) := by
  have concerns : notification.Concerns (.widget target) (·.set change) := by
    intro key slot
    cases key <;> simp [Slot.notified_eq, path, eq_comm]
  cases registered : bridge.isRegistered target with
  | true =>
      rw [update_of_registered registered (holds.widget_mem_keys registered)]
      exact slots_concerned concerns
  | false =>
      rw [update_of_unregistered registered]
      exact holds.slots_of_absent concerns (holds.absent registered)

/-- A text field selection changes the slots as its notification says. -/
theorem slots_repeatTextField
    (holds : bridge.Holds holdings)
    {notification : Notification}
    {selection : TextSelection}
    (path : notification.path = .changeSelection (.textField selection)) :
    (bridge.repeatTextField selection).bridge.tree.slots.entries =
      bridge.tree.slots.entries.map fun entry =>
        (entry.1, entry.2.notified notification entry.1) := by
  unfold repeatTextField
  cases control : selection.control with
  | none =>
      apply slots_of_keyless
      rw [path, Notification.Path.key?, control]
      rfl
  | some target =>
      have concerns : notification.Concerns (.selection target) fun node =>
          { node with value := some selection.text } := by
        intro key slot
        cases key <;> simp [Slot.notified_eq, path, control, eq_comm]
      cases registered : bridge.isRegistered target with
      | false =>
          simp only [registered, Bool.false_eq_true, if_false]
          exact holds.slots_of_absent concerns (holds.absent registered)
      | true =>
          simp only [registered, if_true]
          cases attached : bridge.tree.contains (.selection target) with
          | true =>
              simp only [if_true]
              exact slots_concerned concerns
          | false =>
              simp only [Bool.false_eq_true, if_false]
              rw [Tree.contains_eq_false_iff] at attached
              exact holds.slots_of_absent concerns attached

/-- A notification changes the slots of a bridge one by one. -/
theorem slots_notify
    (holds : bridge.Holds holdings)
    (notification : Notification) :
    (bridge.notify notification).bridge.tree.slots.entries =
      bridge.tree.slots.entries.map fun entry =>
        (entry.1, entry.2.notified notification entry.1) := by
  rw [notify_eq]
  cases path : notification.path with
  | update target aspect change => exact holds.slots_update path
  | acknowledge point =>
      rw [acknowledge_bridge]
      exact slots_of_keyless (by rw [path]; rfl)
  | moveFocus focus => exact slots_of_keyless (by rw [path]; rfl)
  | changeSelection selection =>
      simp only [changeSelection_bridge]
      cases selection with
      | textField selection => exact holds.slots_repeatTextField path
      | _ => exact slots_of_keyless (by rw [path]; rfl)

/-- Edits keep the tree sound. -/
theorem sound_of_edits
    (holds : bridge.Holds holdings)
    {outcome : Outcome}
    (edits : outcome.Edits bridge.tree) :
    outcome.bridge.tree.Sound := by
  obtain ⟨list, tree, _⟩ := edits
  rw [tree]
  exact holds.sound.editAll list

theorem notify
    (holds : bridge.Holds holdings)
    (notification : Notification) :
    (bridge.notify notification).bridge.Holds
      (holdings.map (Holding.notified notification)) where
  distinct := by
    rw [List.map_map]
    exact holds.distinct
  registry := by
    rw [notify_registry, List.map_map]
    exact holds.registry
  slots := by
    rw [holds.slots_notify, holds.slots, List.map_flatMap, List.flatMap_map]
    simp only [Holding.slots_notified]
  sound := holds.sound_of_edits (bridge.notify_edits notification)
  shaped := by
    intro holding member
    obtain ⟨earlier, held, rfl⟩ := List.mem_map.mp member
    exact (holds.shaped earlier held).notified notification

theorem shutdown (bridge : Bridge) : bridge.shutdown.bridge.Holds [] where
  distinct := List.nodup_nil
  registry := rfl
  slots := rfl
  sound := (Tree.Sound.detachAll bridge.tree).setActiveDescendant none
  shaped := fun _ member => absurd member List.not_mem_nil

/-- The companion of a widget that is not held is absent even when the primary
node is attached. -/
theorem absent_attach
    (holds : bridge.Holds holdings)
    {widget : Widget}
    (unregistered : bridge.isRegistered widget.id = false) :
    NodeKey.selection widget.id ∉
      (bridge.tree.attach (.widget widget.id)
        (primaryNode widget)).tree.nodes.keys := by
  have noPrimary : NodeKey.widget widget.id ∉ bridge.tree.nodes.keys :=
    holds.absent unregistered
  have noCompanion : NodeKey.selection widget.id ∉ bridge.tree.nodes.keys :=
    holds.absent unregistered
  rw [Tree.attach_of_absent noPrimary]
  simpa [Table.keys_insert noPrimary] using noCompanion

/-- The slots of an added widget follow all others. -/
theorem slots_add
    (holds : bridge.Holds holdings)
    {widget : Widget}
    (accessible : widget.isAccessible = true)
    (unregistered : bridge.isRegistered widget.id = false)
    (object : WidgetRef) :
    (bridge.add object widget).bridge.tree.slots.entries =
      bridge.tree.slots.entries ++ (bridge.admitted object widget).slots := by
  have noPrimary : NodeKey.widget widget.id ∉ bridge.tree.nodes.keys :=
    holds.absent unregistered
  have primary := holds.sound.slots_attach noPrimary (primaryNode widget)
  rw [Bridge.add_of_unregistered accessible unregistered]
  -- The companion is attached to a tree that has the primary node already, so
  -- its absence has to be shown there.
  cases companion : companionNode? widget with
  | none =>
      simp [attachCompanion, admitted, Holding.slots, companion, primary]
  | some node =>
      have noCompanion := holds.absent_attach unregistered
      have sound := holds.sound.attach (.widget widget.id) (primaryNode widget)
      simp [attachCompanion, admitted, Holding.slots, companion, primary,
        sound.slots_attach noCompanion]

/-- Adding a widget that is not held appends its holding. -/
theorem add_of_unregistered
    (holds : bridge.Holds holdings)
    {widget : Widget}
    (accessible : widget.isAccessible = true)
    (unregistered : bridge.isRegistered widget.id = false)
    (object : WidgetRef) :
    (bridge.add object widget).bridge.Holds
      (holdings ++ [bridge.admitted object widget]) where
  distinct := by
    rw [List.map_append, List.nodup_append]
    refine ⟨holds.distinct, List.nodup_singleton _, ?_⟩
    rintro id member _ last rfl
    obtain ⟨holding, held, rfl⟩ := List.mem_map.mp member
    rw [List.map_singleton, List.mem_singleton] at last
    have registered := (holds.isRegistered_iff _).mpr ⟨holding, held, last⟩
    exact Bool.false_ne_true (unregistered.symm.trans registered)
  registry := by
    have fresh : widget.id ∉ bridge.registry.entries.keys :=
      (Table.contains_eq_false_iff _ _).mp unregistered
    have absent : bridge.registry.contains widget.id = false := unregistered
    rw [Bridge.add_of_unregistered accessible unregistered]
    simp only [Registry.register, absent, Bool.false_eq_true, if_false]
    rw [Table.entries_insert fresh, holds.registry, List.map_append]
    rfl
  slots := by
    rw [holds.slots_add accessible unregistered, holds.slots,
      List.flatMap_append, List.flatMap_singleton]
  sound := holds.sound_of_edits (bridge.add_edits object widget)
  shaped := by
    intro holding member
    rcases List.mem_append.mp member with old | new
    · exact holds.shaped holding old
    · rw [List.mem_singleton.mp new]
      exact bridge.admitted_shaped object widget

/-- What an add admits is registered. -/
theorem isRegistered_add
    (holds : bridge.Holds holdings)
    {widget : Widget}
    (accessible : widget.isAccessible = true)
    (unregistered : bridge.isRegistered widget.id = false)
    (object : WidgetRef) :
    (bridge.add object widget).bridge.isRegistered widget.id = true := by
  have afterHolds := holds.add_of_unregistered accessible unregistered object
  rw [afterHolds.isRegistered_iff]
  exact ⟨bridge.admitted object widget, by simp, rfl⟩

theorem add
    (holds : bridge.Holds holdings)
    (object : WidgetRef)
    (widget : Widget) :
    (bridge.add object widget).bridge.Holds
      (bridge.holdingsAfter holdings (.add object widget)) := by
  rw [holdingsAfter]
  by_cases admits : widget.isAccessible = true ∧
      bridge.isRegistered widget.id = false
  · rw [if_pos admits]
    exact holds.add_of_unregistered admits.1 admits.2 object
  · rw [if_neg admits, add_of_refused admits]
    exact holds

theorem registry_remove (bridge : Bridge) (id : WidgetId) :
    (bridge.remove id).bridge.registry.entries =
      bridge.registry.entries.erase id := by
  cases registered : bridge.isRegistered id with
  | true => simp [Bridge.remove, registered, Registry.unregister]
  | false =>
      have absent : id ∉ bridge.registry.entries.keys :=
        (Table.contains_eq_false_iff _ _).mp registered
      rw [remove_of_unregistered registered, Table.erase_of_absent absent]

/-- All attached nodes belong to others than an unregistered widget. -/
theorem slots_of_unregistered
    (holds : bridge.Holds holdings)
    {id : WidgetId}
    (unregistered : bridge.isRegistered id = false) :
    (bridge.tree.slots.entries.filter fun entry => entry.1.owner ≠ id) =
      bridge.tree.slots.entries := by
  rw [List.filter_eq_self]
  intro entry member
  rw [decide_eq_true_eq]
  rintro rfl
  exact holds.absent unregistered (holds.sound.mem_keys_of_mem member)

/-- Removing a widget detaches its nodes and no others. -/
theorem slots_remove (holds : bridge.Holds holdings) (id : WidgetId) :
    (bridge.remove id).bridge.tree.slots.entries =
      bridge.tree.slots.entries.filter fun entry => entry.1.owner ≠ id := by
  cases registered : bridge.isRegistered id with
  | true =>
      have slots : (bridge.remove id).bridge.tree.slots =
          (bridge.tree.slots.erase (.widget id)).erase (.selection id) := by
        rw [← holds.sound.slots_detach,
          ← (holds.sound.detach (.widget id)).slots_detach]
        unfold Bridge.remove
        rw [if_pos registered]
        split <;> rfl
      rw [slots, Table.entries_erase, Table.entries_erase, List.filter_filter]
      apply List.filter_congr
      rintro ⟨key, slot⟩ _
      by_cases same : key.owner = id <;> cases key <;>
        simp_all [NodeKey.owner]
  | false =>
      rw [remove_of_unregistered registered]
      exact (holds.slots_of_unregistered registered).symm

/-- Removing a widget drops its holding. -/
theorem remove (holds : bridge.Holds holdings) (id : WidgetId) :
    (bridge.remove id).bridge.Holds
      (holdings.filter fun holding => holding.id ≠ id) where
  distinct := (List.filter_sublist.map _).nodup holds.distinct
  registry := by
    rw [registry_remove, Table.entries_erase, holds.registry, List.filter_map]
    rfl
  slots := by
    rw [holds.slots_remove, holds.slots, Holding.filter_flatMap_slots]
  sound := holds.sound_of_edits (bridge.remove_edits id)
  shaped := fun holding member =>
    holds.shaped holding (List.mem_of_mem_filter member)

/-- Every operation is the plain operation on what the bridge holds. -/
theorem perform (holds : bridge.Holds holdings) (operation : Operation) :
    (bridge.perform operation).bridge.Holds
      (bridge.holdingsAfter holdings operation) := by
  cases operation with
  | add object widget => exact holds.add object widget
  | remove id => exact holds.remove id
  | shutdown => exact shutdown bridge
  | notify notification => exact holds.notify notification
  | onSelection subscriber =>
      exact ⟨holds.distinct, holds.registry, holds.slots, holds.sound,
        holds.shaped⟩
  | onNotification subscriber =>
      exact ⟨holds.distinct, holds.registry, holds.slots, holds.sound,
        holds.shaped⟩
  | exportTree => exact holds
  | request living request quiet => exact holds

end Holds

/-- Only adding a widget registers an object, under the widget's id. -/
theorem registry_perform
    {bridge : Bridge}
    {operation : Operation}
    {id : WidgetId}
    {object : WidgetRef}
    (stored : (bridge.perform operation).bridge.registry.entries.get? id =
      some object) :
    bridge.registry.entries.get? id = some object ∨
      ∃ widget, operation = .add object widget ∧ widget.id = id := by
  cases operation with
  | add added widget =>
      by_cases admits : widget.isAccessible = true ∧
          bridge.isRegistered widget.id = false
      · have fresh : ¬bridge.registry.contains widget.id = true :=
          Bool.eq_false_iff.mp admits.2
        rw [perform, add_of_unregistered admits.1 admits.2,
          Registry.register, if_neg fresh] at stored
        by_cases same : id = widget.id
        · subst same
          rw [Table.get?_insert_self] at stored
          cases stored
          exact Or.inr ⟨widget, rfl, rfl⟩
        · rw [Table.get?_insert_of_ne _ same] at stored
          exact Or.inl stored
      · rw [perform, add_of_refused admits] at stored
        exact Or.inl stored
  | remove removed =>
      rw [perform, Holds.registry_remove] at stored
      exact Or.inl (Table.get?_of_get?_erase stored)
  | shutdown => cases stored
  | notify notification =>
      rw [perform, notify_registry] at stored
      exact Or.inl stored
  | _ => exact Or.inl stored

/-- Every reachable bridge is described by a list of holdings. -/
theorem run_holds (config : Config) (operations : List Operation) :
    ∃ holdings, ((new config).run operations).bridge.Holds holdings :=
  run_keeps (fun bridge => ∃ holdings, bridge.Holds holdings)
    ⟨[], Holds.new config⟩
    (fun _ operation ⟨_, holds⟩ => ⟨_, holds.perform operation⟩) operations

end Bridge
end AssistiveTree
