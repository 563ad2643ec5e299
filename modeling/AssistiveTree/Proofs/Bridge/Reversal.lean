import AssistiveTree.Proofs.Bridge.Contents
import AssistiveTree.Proofs.Bridge.Delta
import AssistiveTree.Proofs.Bridge.Insertion

/-!
# Removals take back adds

Adding a widget, reporting about it and removing it again touches no other
widget. So afterwards the bridge knows exactly what it knew before, except that
node ids were spent on the way and that the widget has lost the focus if it had
it.
-/

namespace AssistiveTree

/-- The widget whose node a notification may change. -/
def Notification.subject? (notification : Notification) : Option WidgetId :=
  notification.path.key?.map NodeKey.owner

/-- More attachments leave the counter at a higher number. -/
theorem Tree.Numbered.counter_lt
    {before after : Tree}
    {attached more : Nat}
    (numbered : before.Numbered attached)
    (afterNumbered : after.Numbered (attached + more))
    (sameRoot : after.root.id = before.root.id)
    (positive : 0 < more) :
    before.counter < after.counter := by
  have order := idNumber_lt_idNumber before.root.id
    (Nat.lt_add_of_pos_right (n := attached) positive)
  have start := numbered.counter
  have finish := afterNumbered.counter
  rw [sameRoot] at finish
  rw [UInt64.lt_iff_toNat_lt]
  omega

namespace Bridge

/-- A widget is added, reported about and removed. -/
def detour
    (object : WidgetRef)
    (widget : Widget)
    (notifications : List Notification) : List Operation :=
  .add object widget :: notifications.map .notify ++ [.remove widget.id]

/-- A bridge knows what it knew before, but for spent node ids and a focus that
one widget has lost. -/
structure Restores (before after : Bridge) (id : WidgetId) : Prop where
  registry : after.registry = before.registry
  /-- Every attached node, in the same order. -/
  nodes : after.tree.nodes = before.tree.nodes
  nodeIds : after.tree.nodeIds = before.tree.nodeIds
  /-- The key of every node id. -/
  keys : after.tree.keys = before.tree.keys
  children : after.tree.root.children = before.tree.root.children
  rootId : after.tree.root.id = before.tree.root.id
  rootLabel : after.tree.root.label = before.tree.root.label
  config : after.config = before.config
  hooks : SameHooks before after
  counter : before.tree.counter < after.tree.counter
  focus : after.focus = if before.focus = some id then none else before.focus
  activeDescendant : after.tree.root.activeDescendant =
    if before.tree.root.activeDescendant = some id then none
    else before.tree.root.activeDescendant

/-- A bridge knows of all widgets but one what it knew before. -/
structure KeepsOthers (before after : Bridge) (id : WidgetId) : Prop where
  registry : after.registry.entries.erase id = before.registry.entries.erase id
  slots : (after.tree.slots.entries.filter fun slot => slot.1.owner ≠ id) =
    before.tree.slots.entries.filter fun slot => slot.1.owner ≠ id
  config : after.config = before.config
  hooks : SameHooks before after

namespace KeepsOthers

variable {before between after : Bridge} {holdings : List Holding}
variable {id : WidgetId}

theorem refl (bridge : Bridge) (id : WidgetId) : bridge.KeepsOthers bridge id :=
  ⟨rfl, rfl, rfl, SameHooks.refl bridge⟩

theorem trans
    (early : before.KeepsOthers between id)
    (late : between.KeepsOthers after id) :
    before.KeepsOthers after id where
  registry := late.registry.trans early.registry
  slots := late.slots.trans early.slots
  config := late.config.trans early.config
  hooks :=
    ⟨late.hooks.selection.trans early.hooks.selection,
      late.hooks.notification.trans early.hooks.notification⟩

theorem add
    (holds : before.Holds holdings)
    {widget : Widget}
    (accessible : widget.isAccessible = true)
    (unregistered : before.isRegistered widget.id = false)
    (object : WidgetRef) :
    before.KeepsOthers (before.add object widget).bridge widget.id where
  registry := by
    have unlisted : before.registry.contains widget.id = false := unregistered
    have absent : widget.id ∉ before.registry.entries.keys :=
      (Table.contains_eq_false_iff _ _).mp unregistered
    rw [add_of_unregistered accessible unregistered]
    simp only [Registry.register, unlisted, Bool.false_eq_true, if_false]
    rw [Table.erase_insert _ unregistered, Table.erase_of_absent absent]
  slots := holds.others_add accessible unregistered object
  config := by rw [add_of_unregistered accessible unregistered]
  hooks := SameHooks.add before object widget

/-- A notification about a widget reaches the nodes of no other. -/
theorem notify
    (holds : before.Holds holdings)
    {notification : Notification}
    (about : notification.subject? = some id) :
    before.KeepsOthers (before.notify notification).bridge id where
  registry := by rw [notify_registry]
  slots := by
    have others : ∀ slot ∈ before.tree.slots.entries.filter fun slot =>
        slot.1.owner ≠ id, notification.path.key? ≠ some slot.1 := by
      intro slot member concerned
      rw [Notification.subject?, concerned] at about
      have other := of_decide_eq_true (List.mem_filter.mp member).2
      exact other (Option.some.inj about)
    rw [holds.slots_notify, List.filter_map]
    exact Holds.map_notified_of_others others
  config := by
    rcases before.notify_bridge notification with
      same | ⟨key, change, modified⟩ | ⟨focus, moved⟩
    · rw [same]
    · rw [modified]
    · rw [moved]
  hooks := SameHooks.notify before notification

theorem remove (holds : before.Holds holdings) (id : WidgetId) :
    before.KeepsOthers (before.remove id).bridge id where
  registry := by
    have absent : id ∉ (before.registry.entries.erase id).keys := by
      simp [Table.keys_erase]
    rw [Holds.registry_remove, Table.erase_of_absent absent]
  slots := holds.others_remove id
  config := by
    unfold Bridge.remove
    split <;> rfl
  hooks := SameHooks.remove before id

end KeepsOthers

/-- A notification about a widget does not move the focus. -/
theorem focus_notify_of_subject?
    (bridge : Bridge)
    {notification : Notification}
    {id : WidgetId}
    (about : notification.subject? = some id) :
    (bridge.notify notification).bridge.focus = bridge.focus := by
  have unmoved : (Operation.notify notification).newFocus? = none := by
    rw [Operation.newFocus?_notify]
    cases path : notification.path with
    | moveFocus focus =>
        rw [Notification.subject?, path] at about
        cases about
    | _ => rfl
  rw [focus_notify, unmoved, Option.getD_none]

/-- Notifications about one widget keep the others and the focus. -/
theorem run_notifications_keepsOthers
    {bridge : Bridge}
    {holdings : List Holding}
    (holds : bridge.Holds holdings)
    {notifications : List Notification}
    {id : WidgetId}
    (about : ∀ notification ∈ notifications,
      notification.subject? = some id) :
    (∃ later, (bridge.run (notifications.map .notify)).bridge.Holds later) ∧
      bridge.KeepsOthers (bridge.run (notifications.map .notify)).bridge id ∧
      (bridge.run (notifications.map .notify)).bridge.focus = bridge.focus ∧
      (bridge.run (notifications.map .notify)).bridge.registry =
        bridge.registry := by
  induction notifications using List.reverseRecOn with
  | nil => exact ⟨⟨holdings, holds⟩, KeepsOthers.refl bridge id, rfl, rfl⟩
  | append_singleton notifications notification inductionHypothesis =>
      obtain ⟨⟨later, stillHolds⟩, keeps, focus, registry⟩ :=
        inductionHypothesis fun other member =>
          about other (List.mem_append_left _ member)
      have last := about notification (by simp)
      rw [List.map_append, List.map_singleton, run_concat]
      refine ⟨⟨_, stillHolds.notify notification⟩,
        keeps.trans (KeepsOthers.notify stillHolds last), ?_, ?_⟩
      · exact (focus_notify_of_subject? _ last).trans focus
      · exact (notify_registry _ notification).trans registry

/-- Bridges that differ in one widget at most, and do not know that one, have
the same widgets and nodes. -/
theorem KeepsOthers.eq_of_unregistered
    {before after : Bridge}
    {holdings later : List Holding}
    {id : WidgetId}
    (keeps : before.KeepsOthers after id)
    (holds : before.Holds holdings)
    (afterHolds : after.Holds later)
    (unregistered : before.isRegistered id = false)
    (stillUnregistered : after.isRegistered id = false) :
    after.registry = before.registry ∧
      after.tree.nodes = before.tree.nodes ∧
      after.tree.nodeIds = before.tree.nodeIds := by
  have absent : id ∉ before.registry.entries.keys :=
    (Table.contains_eq_false_iff _ _).mp unregistered
  have stillAbsent : id ∉ after.registry.entries.keys :=
    (Table.contains_eq_false_iff _ _).mp stillUnregistered
  have registry := keeps.registry
  have slots := keeps.slots
  rw [Table.erase_of_absent absent, Table.erase_of_absent stillAbsent]
    at registry
  rw [holds.slots_of_unregistered unregistered,
    afterHolds.slots_of_unregistered stillUnregistered] at slots
  exact ⟨congrArg Registry.mk registry,
    afterHolds.sound.tables_eq holds.sound (congrArg Table.mk slots)⟩

theorem run_detour
    (bridge : Bridge)
    (object : WidgetRef)
    (widget : Widget)
    (notifications : List Notification) :
    (bridge.run (detour object widget notifications)).bridge =
      (((bridge.add object widget).bridge.run
        (notifications.map .notify)).bridge.remove widget.id).bridge := by
  rw [detour, run_concat, run_cons]
  rfl

/-- A detour attaches the nodes of its widget. -/
theorem Holds.attachments_detour
    {bridge : Bridge}
    {holdings : List Holding}
    (holds : bridge.Holds holdings)
    {widget : Widget}
    (accessible : widget.isAccessible = true)
    (unregistered : bridge.isRegistered widget.id = false)
    (object : WidgetRef)
    (notifications : List Notification) :
    0 < Journal.attachments
      (bridge.run (detour object widget notifications)).journal := by
  have contents : bridge.HasContents (holdings.map Holding.content) :=
    ⟨holdings, holds, rfl⟩
  have added := contents.attachments_add accessible unregistered object
  have positive : 0 < (Content.ofWidget object widget).nodes.length := by
    simp [Content.nodes]
  rw [detour, List.cons_append, run_cons]
  simp only [Outcome.followedBy, Journal.attachments_append]
  exact Nat.add_pos_left (added ▸ positive) _

/-- A detour restores every bridge whose node ids last. -/
theorem Holds.restores_detour
    {bridge : Bridge}
    {holdings : List Holding}
    {attached : Nat}
    (holds : bridge.Holds holdings)
    (focused : bridge.Focused)
    (numbered : bridge.tree.Numbered attached)
    {widget : Widget}
    (accessible : widget.isAccessible = true)
    (unregistered : bridge.isRegistered widget.id = false)
    (object : WidgetRef)
    {notifications : List Notification}
    (about : ∀ notification ∈ notifications,
      notification.subject? = some widget.id)
    (afterNumbered :
      (bridge.run (detour object widget notifications)).bridge.tree.Numbered
        (attached + Journal.attachments
          (bridge.run (detour object widget notifications)).journal)) :
    bridge.Restores (bridge.run (detour object widget notifications)).bridge
      widget.id := by
  have attachments := holds.attachments_detour accessible unregistered object
    notifications
  have afterFocused : (bridge.run
      (detour object widget notifications)).bridge.Focused :=
    run_keeps Focused focused
      (fun _ operation focused => focused.perform operation) _
  obtain ⟨rootId, rootLabel⟩ :=
    (bridge.run_edits (detour object widget notifications)).root
  have counter := numbered.counter_lt afterNumbered rootId attachments
  rw [run_detour] at afterNumbered afterFocused rootId rootLabel counter ⊢
  have addedHolds := holds.add_of_unregistered accessible unregistered object
  obtain ⟨⟨later, laterHolds⟩, keeps, focus, registry⟩ :=
    run_notifications_keepsOthers addedHolds about
  have registered := holds.isRegistered_add accessible unregistered object
  rw [isRegistered, ← registry, ← isRegistered] at registered
  rw [focus_add] at focus
  have others := ((KeepsOthers.add holds accessible unregistered object).trans
    keeps).trans (KeepsOthers.remove laterHolds widget.id)
  have lost := focus_remove registered
  rw [focus] at lost
  generalize ((bridge.add object widget).bridge.run
    (notifications.map .notify)).bridge = later at *
  have afterHolds := laterHolds.remove widget.id
  have gone : (later.remove widget.id).bridge.isRegistered widget.id =
      false := by
    rw [isRegistered, Registry.contains, Holds.registry_remove,
      Table.contains, Table.get?_erase_self]
    rfl
  obtain ⟨sameRegistry, nodes, nodeIds⟩ :=
    others.eq_of_unregistered holds afterHolds unregistered gone
  have keys := afterNumbered.reverse
  rw [nodeIds, ← numbered.reverse] at keys
  exact
    { registry := sameRegistry
      nodes := nodes
      nodeIds := nodeIds
      keys := congrArg Table.mk keys
      children := by
        rw [afterHolds.sound.children, holds.sound.children, nodes]
      rootId := rootId
      rootLabel := rootLabel
      config := others.config
      hooks := others.hooks
      counter := counter
      focus := lost
      activeDescendant := by
        rw [afterFocused, focused]
        exact lost }

/-- Adding an accessible widget that is not registered, any reports about it and
its removal leave a reachable bridge as it was, but for the node ids that were
spent and the focus that the widget has lost. -/
theorem run_restores
    (config : Config)
    (operations : List Operation)
    (object : WidgetRef)
    {widget : Widget}
    {notifications : List Notification}
    (accessible : widget.isAccessible = true)
    (unregistered :
      ((new config).run operations).bridge.isRegistered widget.id = false)
    (about : ∀ notification ∈ notifications,
      notification.subject? = some widget.id)
    (room : Journal.attachments
      ((new config).run
        (operations ++ detour object widget notifications)).journal ≤
      Tree.attachmentLimit) :
    ((new config).run operations).bridge.Restores
      ((new config).run
        (operations ++ detour object widget notifications)).bridge
      widget.id := by
  obtain ⟨holdings, holds⟩ := run_holds config operations
  have afterNumbered := run_numbered config _ room
  simp only [run_append, Outcome.followedBy, Journal.attachments_append]
    at room afterNumbered ⊢
  have numbered := run_numbered config operations
    (Nat.le_trans (Nat.le_add_right _ _) room)
  exact holds.restores_detour (run_focused config operations) numbered
    accessible unregistered object about afterNumbered

/-- A text field that has the focus before it is there. -/
def visitingField : Widget where
  id := ⟨7⟩
  name := "Search"
  code := 17

/-- A text field comes, is renamed, shows a selection and goes again. The button
beside it stays as it was, and the next widget gets a higher node id than if the
field had not been there. -/
theorem run_restores_visitingField :
    visitingField.isAccessible = true ∧
      ((new { rootId := ⟨2⟩ }).run
        [.add ⟨0⟩ { id := ⟨5⟩, name := "Save", code := 4 },
          .notify (.focusChanged none (some ⟨7⟩))]).bridge.isRegistered ⟨7⟩ =
        false ∧
      ((new { rootId := ⟨2⟩ }).run
        [.add ⟨0⟩ { id := ⟨5⟩, name := "Save", code := 4 },
          .notify (.focusChanged none (some ⟨7⟩))]).bridge.Restores
        ((new { rootId := ⟨2⟩ }).run
          ([.add ⟨0⟩ { id := ⟨5⟩, name := "Save", code := 4 },
            .notify (.focusChanged none (some ⟨7⟩))] ++
            detour ⟨1⟩ visitingField
              [.nameChanged { visitingField with name := "Find" },
                .selectionChanged
                  (.textField ⟨some ⟨7⟩, 0, 2, "Fi"⟩)])).bridge ⟨7⟩ := by
  refine ⟨by decide, by decide, ?_⟩
  exact run_restores { rootId := ⟨2⟩ } _ ⟨1⟩ (by decide) (by decide)
    (by decide) (by decide)

end Bridge
end AssistiveTree
