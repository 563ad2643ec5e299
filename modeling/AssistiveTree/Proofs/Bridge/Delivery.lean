import AssistiveTree.Proofs.Bridge.Upkeep

/-!
# Delivery of notifications

A notification about an attribute sets that attribute of one node and calls
nobody. A notification that changes no node calls every subscriber once, in the
order in which they subscribed. When the widget that it is about is not
registered, either is dropped and leaves nothing but a journal entry.
-/

namespace AssistiveTree

/-- The widget that a notification with this path needs to be registered. -/
def Notification.Path.target : Notification.Path → Option WidgetId
  | .update id _ _ => some id
  | .acknowledge point => point.target
  | .moveFocus _ => none
  | .changeSelection _ => none

/-- Only a focus change moves the focus. -/
theorem Notification.focusChanged_of_path
    {notification : Notification}
    {focus : Option WidgetId}
    (path : notification.path = .moveFocus focus) :
    ∃ before, notification = .focusChanged before focus := by
  cases notification with
  | focusChanged before after =>
      obtain rfl := Notification.Path.moveFocus.inj path
      exact ⟨before, rfl⟩
  | textChanged control => cases control <;> cases path
  | structureChanged hierarchy id change => cases change <;> cases path
  | _ => cases path

/-- Only a selection change is handled as one. -/
theorem Notification.selectionChanged_of_path
    {notification : Notification}
    {selection : Selection}
    (path : notification.path = .changeSelection selection) :
    notification = .selectionChanged selection := by
  cases notification with
  | selectionChanged changed =>
      obtain rfl := Notification.Path.changeSelection.inj path
      rfl
  | textChanged control => cases control <;> cases path
  | structureChanged hierarchy id change => cases change <;> cases path
  | _ => cases path

/-- One attribute of a node has a new value, and every other is as before. -/
structure Node.Changed
    (before : Node)
    (change : Node.Attribute)
    (after : Node) : Prop where
  label : after.label =
    match change with
    | .label text => text
    | _ => before.label
  description : after.description =
    match change with
    | .description text => text
    | _ => before.description
  numericValue : after.numericValue =
    match change with
    | .numericValue value => some value
    | _ => before.numericValue
  toggled : after.toggled =
    match change with
    | .toggled on => some on
    | _ => before.toggled
  expanded : after.expanded =
    match change with
    | .expanded isOpen => some isOpen
    | _ => before.expanded
  announcement : after.announcement =
    match change with
    | .announcement announcement => some announcement
    | _ => before.announcement
  role : after.role = before.role
  roleDescription : after.roleDescription = before.roleDescription
  groupName : after.groupName = before.groupName
  activation : after.activation = before.activation
  live : after.live = before.live
  value : after.value = before.value
  companion : after.companion = before.companion
  companionOf : after.companionOf = before.companionOf

theorem Node.changed_set (node : Node) (change : Node.Attribute) :
    node.Changed change (node.set change) := by
  cases change <;> constructor <;> rfl

/-- What one can subscribe to. -/
inductive Channel
  /-- Selection changes. -/
  | selections
  /-- Notifications that change no node. -/
  | notifications
  deriving DecidableEq

namespace Bridge

/-- Everybody who subscribed to a channel, in order. -/
def hooks (bridge : Bridge) : Channel → List Subscriber
  | .selections => bridge.selectionHooks
  | .notifications => bridge.notificationHooks

/-- Both bridges call the same subscribers. -/
structure SameHooks (before after : Bridge) : Prop where
  selection : after.selectionHooks = before.selectionHooks
  notification : after.notificationHooks = before.notificationHooks

/-- One attribute of a widget's primary node has a new value, and everything
else that the bridge knows is as before. -/
structure Changed
    (before : Bridge)
    (id : WidgetId)
    (change : Node.Attribute)
    (after : Bridge) : Prop where
  node : ∃ node changed,
    before.node? (.widget id) = some node ∧
      after.node? (.widget id) = some changed ∧ node.Changed change changed
  others : ∀ key, key ≠ .widget id → after.node? key = before.node? key
  nodeIds : ∀ key, after.tree.nodeId? key = before.tree.nodeId? key
  keys : after.tree.keys = before.tree.keys
  /-- The root holds the order of its children and the active descendant. -/
  root : after.tree.root = before.tree.root
  counter : after.tree.counter = before.tree.counter
  registry : after.registry = before.registry
  focus : after.focus = before.focus
  config : after.config = before.config
  hooks : SameHooks before after

/-- What becomes of a notification, given who subscribed to those that change no
node. -/
structure Delivers
    (bridge : Bridge)
    (subscribers : List Subscriber)
    (notification : Notification) : Prop where
  /-- Every notification but a focus or selection change has one of the other
  two paths. -/
  moveFocus : ∀ focus, notification.path = .moveFocus focus →
    ∃ before, notification = .focusChanged before focus
  changeSelection : ∀ selection,
    notification.path = .changeSelection selection →
    notification = .selectionChanged selection
  update : ∀ id aspect change,
    notification.path = .update id aspect change →
    bridge.isRegistered id = true →
    bridge.Changed id change (bridge.notify notification).bridge ∧
      (bridge.notify notification).calls = []
  /-- A point without a target is passed on whatever is registered. -/
  acknowledge : ∀ point, notification.path = .acknowledge point →
    (bridge.notify notification).bridge = bridge ∧
      ((∀ id, point.target = some id → bridge.isRegistered id = true) →
        (bridge.notify notification).calls =
          subscribers.map fun subscriber => .notification subscriber point)
  drop : ∀ id, notification.path.target = some id →
    bridge.isRegistered id = false →
    (bridge.notify notification).bridge = bridge ∧
      (bridge.notify notification).calls = [] ∧
      ∃ what, (bridge.notify notification).journal = [.event (.dropped id what)]

/-! ## Subscriptions -/

/-- Who subscribes with an operation to notifications that change no node. -/
def Operation.notificationSubscriber? : Operation → Option Subscriber
  | .onNotification subscriber => some subscriber
  | _ => none

/-- Who subscribes with an operation to selection changes. -/
def Operation.selectionSubscriber? : Operation → Option Subscriber
  | .onSelection subscriber => some subscriber
  | _ => none

/-- Who subscribes with an operation to a channel. -/
def Operation.subscriber? : Operation → Channel → Option Subscriber
  | operation, .selections => operation.selectionSubscriber?
  | operation, .notifications => operation.notificationSubscriber?

/-- Whether an operation is a subscription. -/
def Operation.isSubscription : Operation → Bool
  | .onSelection _ => true
  | .onNotification _ => true
  | _ => false

namespace SameHooks

theorem refl (bridge : Bridge) : SameHooks bridge bridge := ⟨rfl, rfl⟩

theorem add (bridge : Bridge) (object : WidgetRef) (widget : Widget) :
    SameHooks bridge (bridge.add object widget).bridge := by
  by_cases admits : widget.isAccessible = true ∧
      bridge.isRegistered widget.id = false
  · rw [add_of_unregistered admits.1 admits.2]
    exact ⟨rfl, rfl⟩
  · rw [add_of_refused admits]
    exact refl bridge

theorem remove (bridge : Bridge) (id : WidgetId) :
    SameHooks bridge (bridge.remove id).bridge := by
  unfold Bridge.remove
  split <;> exact ⟨rfl, rfl⟩

theorem notify (bridge : Bridge) (notification : Notification) :
    SameHooks bridge (bridge.notify notification).bridge := by
  rcases bridge.notify_bridge notification with
    same | ⟨key, change, modified⟩ | ⟨focus, moved⟩
  · rw [same]
    exact refl bridge
  · rw [modified]
    exact ⟨rfl, rfl⟩
  · rw [moved]
    exact ⟨rfl, rfl⟩

end SameHooks

/-- Only a subscription changes who is called. -/
theorem SameHooks.perform
    (bridge : Bridge)
    {operation : Operation}
    (other : operation.isSubscription = false) :
    SameHooks bridge (bridge.perform operation).bridge := by
  cases operation with
  | add object widget => exact .add bridge object widget
  | remove id => exact .remove bridge id
  | notify notification => exact .notify bridge notification
  | onSelection subscriber => cases other
  | onNotification subscriber => cases other
  | _ => exact ⟨rfl, rfl⟩

/-- Bridges that call the same subscribers call the same on every channel. -/
theorem sameHooks_iff {before after : Bridge} :
    SameHooks before after ↔
      ∀ channel, after.hooks channel = before.hooks channel := by
  constructor
  · rintro ⟨selection, notification⟩ channel
    cases channel with
    | selections => exact selection
    | notifications => exact notification
  · intro same
    exact ⟨same .selections, same .notifications⟩

/-- An operation adds its own subscriber after all others, and keeps them. -/
theorem hooks_perform
    (bridge : Bridge)
    (operation : Operation)
    (channel : Channel) :
    (bridge.perform operation).bridge.hooks channel =
      bridge.hooks channel ++ (operation.subscriber? channel).toList := by
  cases subscribes : operation.isSubscription with
  | false =>
      have nobody : operation.subscriber? channel = none := by
        cases operation with
        | onSelection subscriber => cases subscribes
        | onNotification subscriber => cases subscribes
        | _ => cases channel <;> rfl
      rw [sameHooks_iff.mp (SameHooks.perform bridge subscribes) channel,
        nobody]
      exact (List.append_nil _).symm
  | true =>
      cases operation with
      | onSelection subscriber =>
          cases channel with
          | selections => rfl
          | notifications => exact (List.append_nil _).symm
      | onNotification subscriber =>
          cases channel with
          | selections => exact (List.append_nil _).symm
          | notifications => rfl
      | _ => cases subscribes

/-- Whoever subscribed in a run stays subscribed, in the order of the
subscriptions. -/
theorem run_hooks
    (config : Config)
    (operations : List Operation)
    (channel : Channel) :
    ((new config).run operations).bridge.hooks channel =
      operations.filterMap (·.subscriber? channel) := by
  induction operations using List.reverseRecOn with
  | nil => cases channel <;> rfl
  | append_singleton operations operation inductionHypothesis =>
      rw [run_concat, Outcome.followedBy]
      rw [hooks_perform, inductionHypothesis, List.filterMap_append]
      cases subscribed : operation.subscriber? channel <;> simp [subscribed]

/-! ## Deliveries -/

/-- An update of a registered widget changes one attribute of its node. -/
theorem Holds.changed_update
    {bridge : Bridge}
    {holdings : List Holding}
    (holds : bridge.Holds holdings)
    {id : WidgetId}
    (registered : bridge.isRegistered id = true)
    (aspect : Aspect)
    (change : Node.Attribute) :
    bridge.Changed id change (bridge.update id aspect change).bridge := by
  have attached := holds.widget_mem_keys registered
  obtain ⟨node, stored⟩ : ∃ node,
      bridge.node? (.widget id) = some node :=
    Option.isSome_iff_exists.mp ((Tree.contains_iff _ _).mpr attached)
  rw [update_of_registered registered attached]
  exact
    { node := ⟨node, node.set change, stored,
        (bridge.tree.node?_modify_self _ _).trans
          (congrArg (Option.map _) stored),
        node.changed_set change⟩
      others := fun _ other => bridge.tree.node?_modify_of_ne other _
      nodeIds := fun key => bridge.tree.nodeId?_modify _ key _
      keys := rfl
      root := rfl
      counter := rfl
      registry := rfl
      focus := rfl
      config := rfl
      hooks := ⟨rfl, rfl⟩ }

/-- A point is passed on unless its target is not registered. -/
theorem acknowledge_of_registered
    {bridge : Bridge}
    {point : HookPoint}
    (registered : ∀ id, point.target = some id →
      bridge.isRegistered id = true) :
    (bridge.acknowledge point).calls =
      bridge.notificationHooks.map fun subscriber =>
        .notification subscriber point := by
  have unhindered :
      (point.target.filter fun id => !bridge.isRegistered id) = none := by
    rw [Option.filter_eq_none_iff]
    intro id target
    simp [registered id target]
  simp [acknowledge, unhindered]

theorem acknowledge_of_unregistered
    {bridge : Bridge}
    {point : HookPoint}
    {id : WidgetId}
    (target : point.target = some id)
    (unregistered : bridge.isRegistered id = false) :
    bridge.acknowledge point = bridge.drop id (.acknowledgement point) := by
  have hindered :
      (point.target.filter fun id => !bridge.isRegistered id) = some id := by
    rw [target]
    exact Option.filter_some_pos (by simp [unregistered])
  simp [acknowledge, hindered]

/-- In every reachable bridge every notification, focus and selection changes
aside, takes exactly one path: it sets an attribute of a registered widget, it
reaches the subscribers of the run, or it is dropped. -/
theorem run_delivers
    (config : Config)
    (operations : List Operation)
    (notification : Notification) :
    ((new config).run operations).bridge.Delivers
      (operations.filterMap Operation.notificationSubscriber?)
      notification := by
  obtain ⟨holdings, holds⟩ := run_holds config operations
  have subscribed :
      ((new config).run operations).bridge.notificationHooks =
        operations.filterMap Operation.notificationSubscriber? :=
    run_hooks config operations .notifications
  rw [← subscribed]
  generalize ((new config).run operations).bridge = bridge at holds
  refine ⟨fun _ => Notification.focusChanged_of_path,
    fun _ => Notification.selectionChanged_of_path, ?_, ?_, ?_⟩
  · intro id aspect change path registered
    rw [notify_eq, path]
    refine ⟨holds.changed_update registered aspect change, ?_⟩
    simp only [update_of_registered registered
      (holds.widget_mem_keys registered)]
  · intro point path
    rw [notify_eq, path]
    exact ⟨acknowledge_bridge bridge point, acknowledge_of_registered⟩
  · intro id target unregistered
    rw [notify_eq]
    cases path : notification.path with
    | update other aspect change =>
        rw [path] at target
        obtain rfl := Option.some.inj target
        simp only [update_of_unregistered unregistered]
        exact ⟨rfl, rfl, _, rfl⟩
    | acknowledge point =>
        rw [path] at target
        simp only [acknowledge_of_unregistered target unregistered]
        exact ⟨rfl, rfl, _, rfl⟩
    | moveFocus focus =>
        rw [path] at target
        cases target
    | changeSelection selection =>
        rw [path] at target
        cases target

-- Nobody hears of the button, which is not registered.
example :
    ((new {}).run
      [.onNotification ⟨"log"⟩, .onNotification ⟨"sound"⟩,
        .notify (.windowFocusChanged true),
        .notify (.buttonActivated ⟨5⟩)]).calls =
      [.notification ⟨"log"⟩ (.windowFocusChanged true),
        .notification ⟨"sound"⟩ (.windowFocusChanged true)] := by
  decide

end Bridge
end AssistiveTree
