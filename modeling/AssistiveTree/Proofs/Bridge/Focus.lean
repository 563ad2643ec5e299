import AssistiveTree.Proofs.Bridge.Upkeep

/-!
# Focus

The bridge and the root of its tree each remember the focused widget. No
operation sets them apart. The focus is where the last focus change moved it,
until a shutdown or the removal of the widget takes it away, and it is exported
as soon as and as long as the widget is registered.
-/

namespace AssistiveTree
namespace Bridge

/-- The root's active descendant is the focused widget. -/
def Focused (bridge : Bridge) : Prop :=
  bridge.tree.root.activeDescendant = bridge.focus

theorem Focused.notify
    {bridge : Bridge}
    (focused : bridge.Focused)
    (notification : Notification) :
    (bridge.notify notification).bridge.Focused := by
  rcases bridge.notify_bridge notification with
    same | ⟨key, change, modified⟩ | ⟨focus, moved⟩
  · rw [same]
    exact focused
  · rw [modified]
    exact focused
  · rw [moved]
    rfl

theorem Focused.add
    {bridge : Bridge}
    (focused : bridge.Focused)
    (object : WidgetRef)
    (widget : Widget) :
    (bridge.add object widget).bridge.Focused := by
  by_cases admits : widget.isAccessible = true ∧
      bridge.isRegistered widget.id = false
  · rw [add_of_unregistered admits.1 admits.2]
    obtain ⟨_, _, primary⟩ :=
      bridge.tree.root_attach (.widget widget.id) (primaryNode widget)
    unfold Focused attachCompanion
    split
    · next companion _ =>
      obtain ⟨_, _, second⟩ :=
        (bridge.tree.attach (.widget widget.id)
          (primaryNode widget)).tree.root_attach (.selection widget.id)
          companion
      exact (second.trans primary).trans focused
    · exact primary.trans focused
  · rw [add_of_refused admits]
    exact focused

/-- Removing the focused widget clears the focus on both sides. -/
theorem Focused.remove
    {bridge : Bridge}
    (focused : bridge.Focused)
    (id : WidgetId) :
    (bridge.remove id).bridge.Focused := by
  obtain ⟨_, _, primary, _⟩ := bridge.tree.root_detach (.widget id)
  obtain ⟨_, _, companion, _⟩ :=
    (bridge.tree.detach (.widget id)).tree.root_detach (.selection id)
  unfold Bridge.remove
  split
  · by_cases lost : bridge.focus = some id
    · simp [Focused, lost, Tree.setActiveDescendant]
    · simp only [Focused, if_neg lost]
      exact (companion.trans primary).trans focused
  · exact focused

theorem Focused.perform
    {bridge : Bridge}
    (focused : bridge.Focused)
    (operation : Operation) :
    (bridge.perform operation).bridge.Focused := by
  cases operation with
  | add object widget => exact focused.add object widget
  | remove id => exact focused.remove id
  | shutdown => rfl
  | notify notification => exact focused.notify notification
  | onSelection subscriber => exact focused
  | onNotification subscriber => exact focused
  | exportTree => exact focused
  | request living request quiet => exact focused

theorem run_focused (config : Config) (operations : List Operation) :
    ((new config).run operations).bridge.Focused := by
  have start : (new config).Focused := rfl
  exact run_keeps Focused start
    (fun _ operation focused => focused.perform operation) operations

/-! ## Moves and losses -/

/-- Where an operation moves the focus. -/
def Operation.newFocus? : Operation → Option (Option WidgetId)
  | .notify (.focusChanged _ after) => some after
  | _ => none

/-- Whether an operation takes the focus away from a widget: a shutdown does,
and so does the removal of the widget while it is registered. -/
def Operation.TakesFocus
    (bridge : Bridge)
    (focus : Option WidgetId) : Operation → Prop
  | .shutdown => True
  | .remove id => focus = some id ∧ bridge.isRegistered id = true
  | _ => False

/-- Whether one of some operations takes the focus away from a widget. -/
def LosesFocus
    (bridge : Bridge)
    (focus : Option WidgetId)
    (operations : List Operation) : Prop :=
  ∃ earlier operation later,
    operations = earlier ++ operation :: later ∧
      operation.TakesFocus (bridge.run earlier).bridge focus

theorem Operation.newFocus?_notify (notification : Notification) :
    (Operation.notify notification).newFocus? =
      match notification.path with
      | .moveFocus focus => some focus
      | _ => none := by
  cases notification with
  | textChanged control => cases control <;> rfl
  | structureChanged hierarchy id change => cases change <;> rfl
  | _ => rfl

/-- A notification moves the focus exactly when that is its path. -/
theorem focus_notify (bridge : Bridge) (notification : Notification) :
    (bridge.notify notification).bridge.focus =
      (Operation.notify notification).newFocus?.getD bridge.focus := by
  rw [notify_eq, Operation.newFocus?_notify]
  cases notification.path with
  | update id aspect change =>
      simp only [update]
      split <;> rfl
  | acknowledge point => simp only [acknowledge_bridge, Option.getD_none]
  | moveFocus focus => rfl
  | changeSelection selection =>
      simp only [changeSelection_bridge, Option.getD_none]
      cases selection with
      | textField selection =>
          simp only [repeatTextField]
          split
          · rfl
          · split
            · split <;> rfl
            · rfl
      | _ => rfl

theorem focus_add (bridge : Bridge) (object : WidgetRef) (widget : Widget) :
    (bridge.add object widget).bridge.focus = bridge.focus := by
  by_cases admits : widget.isAccessible = true ∧
      bridge.isRegistered widget.id = false
  · rw [add_of_unregistered admits.1 admits.2]
  · rw [add_of_refused admits]

/-- The removal of a registered widget takes the focus from it and from nobody
else. -/
theorem focus_remove
    {bridge : Bridge}
    {id : WidgetId}
    (registered : bridge.isRegistered id = true) :
    (bridge.remove id).bridge.focus =
      if bridge.focus = some id then none else bridge.focus := by
  simp only [Bridge.remove, registered, if_true]

theorem focus_of_newFocus?
    (bridge : Bridge)
    {operation : Operation}
    {focus : Option WidgetId}
    (moves : operation.newFocus? = some focus) :
    (bridge.perform operation).bridge.focus = focus := by
  cases operation with
  | notify notification =>
      change (bridge.notify notification).bridge.focus = focus
      rw [focus_notify, moves, Option.getD_some]
  | _ => cases moves

theorem focus_of_takesFocus
    {bridge : Bridge}
    {operation : Operation}
    (takes : operation.TakesFocus bridge bridge.focus) :
    (bridge.perform operation).bridge.focus = none := by
  cases operation with
  | shutdown => rfl
  | remove id =>
      obtain ⟨focused, registered⟩ := takes
      change (bridge.remove id).bridge.focus = none
      rw [focus_remove registered, if_pos focused]
  | _ => exact takes.elim

/-- What neither moves nor takes the focus leaves it. -/
theorem focus_of_unmoved
    {bridge : Bridge}
    {operation : Operation}
    (unmoved : operation.newFocus? = none)
    (untaken : ¬operation.TakesFocus bridge bridge.focus) :
    (bridge.perform operation).bridge.focus = bridge.focus := by
  cases operation with
  | add object widget => exact focus_add bridge object widget
  | remove id =>
      change (bridge.remove id).bridge.focus = bridge.focus
      cases registered : bridge.isRegistered id with
      | false => rw [remove_of_unregistered registered]
      | true =>
          have other : bridge.focus ≠ some id := fun focused =>
            untaken ⟨focused, registered⟩
          rw [focus_remove registered, if_neg other]
  | shutdown => exact absurd trivial untaken
  | notify notification =>
      change (bridge.notify notification).bridge.focus = bridge.focus
      rw [focus_notify, unmoved, Option.getD_none]
  | onSelection subscriber => rfl
  | onNotification subscriber => rfl
  | exportTree => rfl
  | request living request quiet => rfl

theorem not_losesFocus_nil (bridge : Bridge) (focus : Option WidgetId) :
    ¬LosesFocus bridge focus [] := by
  rintro ⟨earlier, operation, later, split, _⟩
  simp at split

/-- The focus is lost by the last operation or by one before it. -/
theorem losesFocus_concat
    (bridge : Bridge)
    (focus : Option WidgetId)
    (operations : List Operation)
    (last : Operation) :
    LosesFocus bridge focus (operations ++ [last]) ↔
      LosesFocus bridge focus operations ∨
        last.TakesFocus (bridge.run operations).bridge focus := by
  constructor
  · rintro ⟨earlier, operation, later, split, takes⟩
    rcases List.eq_nil_or_concat later with rfl | ⟨between, final, rfl⟩
    · obtain ⟨rfl, rfl⟩ := List.append_singleton_inj.mp split
      exact Or.inr takes
    · rw [List.concat_eq_append, ← List.cons_append, ← List.append_assoc]
        at split
      obtain ⟨rfl, rfl⟩ := List.append_singleton_inj.mp split
      exact Or.inl ⟨earlier, operation, between, rfl, takes⟩
  · rintro (⟨earlier, operation, later, rfl, takes⟩ | takes)
    · exact ⟨earlier, operation, later ++ [last], by simp, takes⟩
    · exact ⟨operations, last, [], rfl, takes⟩

/-- While the focus is not moved, it stays until it is taken away, and nothing
has it from then on. -/
theorem focus_run
    (bridge : Bridge)
    {operations : List Operation}
    (unmoved : ∀ operation ∈ operations, operation.newFocus? = none) :
    (¬LosesFocus bridge bridge.focus operations →
        (bridge.run operations).bridge.focus = bridge.focus) ∧
      (LosesFocus bridge bridge.focus operations →
        (bridge.run operations).bridge.focus = none) := by
  induction operations using List.reverseRecOn with
  | nil =>
      exact ⟨fun _ => rfl, fun loses =>
        absurd loses (not_losesFocus_nil bridge bridge.focus)⟩
  | append_singleton operations last inductionHypothesis =>
      obtain ⟨kept, lost⟩ := inductionHypothesis fun operation member =>
        unmoved operation (List.mem_append_left _ member)
      have still : last.newFocus? = none := unmoved last (by simp)
      rw [run_concat, losesFocus_concat, Outcome.followedBy]
      constructor
      · intro keeps
        have same := kept fun loses => keeps (Or.inl loses)
        have untaken : ¬last.TakesFocus (bridge.run operations).bridge
            (bridge.run operations).bridge.focus := by
          rw [same]
          exact fun takes => keeps (Or.inr takes)
        exact (focus_of_unmoved still untaken).trans same
      · intro loses
        by_cases earlier : LosesFocus bridge bridge.focus operations
        · by_cases taken : last.TakesFocus (bridge.run operations).bridge
              (bridge.run operations).bridge.focus
          · exact focus_of_takesFocus taken
          · exact (focus_of_unmoved still taken).trans (lost earlier)
        · have takes := loses.resolve_left earlier
          rw [← kept earlier] at takes
          exact focus_of_takesFocus takes

/-! ## Exports -/

/-- A focused widget is exported as the focus if it is registered, by the node
id of its primary node. -/
theorem Holds.focusedNode?_of_registered
    {bridge : Bridge}
    {holdings : List Holding}
    (holds : bridge.Holds holdings)
    {id : WidgetId}
    (focused : bridge.focus = some id)
    (registered : bridge.isRegistered id = true) :
    ∃ nodeId, bridge.tree.nodeId? (.widget id) = some nodeId ∧
      bridge.focusedNode? = some nodeId := by
  obtain ⟨holding, member, rfl⟩ := (holds.isRegistered_iff id).mp registered
  have listed := holds.nodeId?_widget member
  refine ⟨holding.primary.id, listed, ?_⟩
  rw [focusedNode?, focused]
  exact listed

/-- Without a registered widget in focus, no node is. -/
theorem Holds.focusedNode?_of_unregistered
    {bridge : Bridge}
    {holdings : List Holding}
    (holds : bridge.Holds holdings)
    (unregistered : ∀ id, bridge.focus = some id →
      bridge.isRegistered id = false) :
    bridge.focusedNode? = none := by
  cases focused : bridge.focus with
  | none => rw [focusedNode?, focused, Option.bind_none]
  | some id =>
      have absent : NodeKey.widget id ∉ bridge.tree.nodes.keys :=
        holds.absent (unregistered id focused)
      rw [focusedNode?, focused, Option.bind_some,
        (holds.sound.nodeId?_eq_none_iff _).mpr absent]

/-- What a bridge knows and exports of the focus after some operations on a new
bridge. -/
structure TracksFocus
    (bridge : Bridge)
    (config : Config)
    (operations : List Operation) : Prop where
  /-- Before the first focus change nothing has the focus. -/
  unmoved : (∀ operation ∈ operations, operation.newFocus? = none) →
    bridge.focus = none
  /-- The last focus change counts while the focus is not taken away. -/
  kept : ∀ earlier move focus since,
    operations = earlier ++ move :: since →
    move.newFocus? = some focus →
    (∀ operation ∈ since, operation.newFocus? = none) →
    ¬LosesFocus ((new config).run (earlier ++ [move])).bridge focus since →
    bridge.focus = focus
  lost : ∀ earlier move focus since,
    operations = earlier ++ move :: since →
    move.newFocus? = some focus →
    (∀ operation ∈ since, operation.newFocus? = none) →
    LosesFocus ((new config).run (earlier ++ [move])).bridge focus since →
    bridge.focus = none
  /-- Nothing but focus changes and losses changes the focus. -/
  unchanged : ∀ operation, operation.newFocus? = none →
    ¬operation.TakesFocus bridge bridge.focus →
    (bridge.perform operation).bridge.focus = bridge.focus
  activeDescendant : bridge.tree.root.activeDescendant = bridge.focus
  /-- A registered widget in focus is exported as the focus. -/
  exported : ∀ id, bridge.focus = some id → bridge.isRegistered id = true →
    ∃ nodeId,
      bridge.tree.nodeId? (.widget id) = some nodeId ∧
        bridge.treeUpdate.focus = nodeId ∧
        bridge.focusUpdate.focus = nodeId
  /-- Otherwise the root container is. -/
  unexported :
    (∀ id, bridge.focus = some id → bridge.isRegistered id = false) →
    bridge.treeUpdate.focus = config.rootId ∧
      bridge.focusUpdate.focus = config.rootId

/-- After every run the focus is where the last focus change moved it, unless it
was taken away since, on both sides and in both exports. -/
theorem run_tracksFocus (config : Config) (operations : List Operation) :
    ((new config).run operations).bridge.TracksFocus config operations := by
  have fromMove : ∀ earlier move focus since,
      operations = earlier ++ move :: since →
      move.newFocus? = some focus →
      ((new config).run (earlier ++ [move])).bridge.focus = focus ∧
        ((new config).run operations).bridge =
          (((new config).run (earlier ++ [move])).bridge.run since).bridge := by
    rintro earlier move focus since rfl moves
    constructor
    · rw [run_concat]
      exact focus_of_newFocus? _ moves
    · rw [List.append_cons earlier, run_append]
      rfl
  obtain ⟨holdings, holds⟩ := run_holds config operations
  constructor
  · intro unmoved
    by_cases loses : LosesFocus (new config) (new config).focus operations
    · exact (focus_run (new config) unmoved).2 loses
    · exact (focus_run (new config) unmoved).1 loses
  · intro earlier move focus since split moves unmoved keeps
    obtain ⟨moved, rest⟩ := fromMove earlier move focus since split moves
    rw [← moved] at keeps
    rw [rest, (focus_run _ unmoved).1 keeps, moved]
  · intro earlier move focus since split moves unmoved loses
    obtain ⟨moved, rest⟩ := fromMove earlier move focus since split moves
    rw [← moved] at loses
    rw [rest, (focus_run _ unmoved).2 loses]
  · intro operation unmoved untaken
    exact focus_of_unmoved unmoved untaken
  · exact run_focused config operations
  · intro id focused registered
    obtain ⟨nodeId, listed, exported⟩ :=
      holds.focusedNode?_of_registered focused registered
    refine ⟨nodeId, listed, ?_⟩
    simp only [treeUpdate, focusUpdate, exported, Option.getD_some, and_self]
  · intro unregistered
    have root := (run_root config operations).1
    have unfocused := holds.focusedNode?_of_unregistered unregistered
    simp only [treeUpdate, focusUpdate, unfocused, Option.getD_none, root,
      and_self]

-- The focus waits for its widget, and does not come back with it.
example :
    ((new {}).run
        [.notify (.focusChanged none (some ⟨5⟩)),
          .add ⟨0⟩ { id := ⟨5⟩, name := "Save", code := 4 }]
        ).bridge.treeUpdate.focus = ⟨1⟩ ∧
      ((new {}).run
        [.notify (.focusChanged none (some ⟨5⟩)),
          .add ⟨0⟩ { id := ⟨5⟩, name := "Save", code := 4 }, .remove ⟨5⟩,
          .add ⟨0⟩ { id := ⟨5⟩, name := "Save", code := 4 }]
        ).bridge.treeUpdate.focus = ⟨0⟩ := by
  decide

end Bridge
end AssistiveTree
