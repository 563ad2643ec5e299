import AssistiveTree.Proofs.Bridge.Contents
import AssistiveTree.Proofs.Bridge.Insertion

/-!
# Observers

A bridge is observed by whoever reads its journal and by its subscribers. None
of them interferes. Without logging of ordinary notifications, and without some
of the subscriptions, every operation does the same to the registry, the tree
and the focus, and whoever is still subscribed is called alike. All that is
missing from the journal is one event for each notification that was handled in
the ordinary way.
-/

namespace AssistiveTree

/-- Whether an entry is written for notifications only while they are logged:
for applied updates, acknowledged points and routed selections. -/
def Journal.Entry.isRoutine : Journal.Entry → Bool
  | .event (.updated _ _) => true
  | .event (.acknowledged _) => true
  | .event (.selectionRouted _) => true
  | _ => false

/-- Routine is reported under dispatch. -/
theorem Journal.Entry.target_of_isRoutine
    {entry : Journal.Entry}
    (routine : entry.isRoutine = true) :
    entry.target = .dispatch := by
  cases entry with
  | event event => cases event <;> first | rfl | cases routine
  | _ => cases routine

namespace Bridge

/-- The bridge under other observation: with logging of ordinary notifications
turned on or off, and with other subscribers. -/
def observed
    (bridge : Bridge)
    (logs : Bool)
    (selection notification : List Subscriber) : Bridge :=
  { bridge with
    config := { bridge.config with logNotifications := logs }
    selectionHooks := selection
    notificationHooks := notification }

section Observed

variable (bridge : Bridge) (logs : Bool)
variable (selection notification : List Subscriber)

@[simp] theorem observed_tree :
    (bridge.observed logs selection notification).tree = bridge.tree := rfl

@[simp] theorem observed_isRegistered (id : WidgetId) :
    (bridge.observed logs selection notification).isRegistered id =
      bridge.isRegistered id := rfl

/-! ## Operations under other observation -/

/-- An add does the same whoever observes it. -/
theorem add_observed (object : WidgetRef) (widget : Widget) :
    (bridge.observed logs selection notification).add object widget =
      { bridge.add object widget with
        bridge := (bridge.add object widget).bridge.observed logs selection
          notification } := by
  cases accessible : widget.isAccessible with
  | false =>
      simp only [add, accessible, if_true]
  | true =>
      cases registered : bridge.isRegistered widget.id with
      | true =>
          simp only [add, accessible, registered, observed_isRegistered,
            Bool.true_eq_false, if_false, if_true]
      | false =>
          simp only [add, accessible, registered, observed_isRegistered,
            Bool.true_eq_false, Bool.false_eq_true, if_false]
          rfl

theorem remove_observed (id : WidgetId) :
    (bridge.observed logs selection notification).remove id =
      { bridge.remove id with
        bridge := (bridge.remove id).bridge.observed logs selection
          notification } := by
  cases registered : bridge.isRegistered id with
  | true =>
      simp only [remove, registered, observed_isRegistered, if_true]
      rfl
  | false =>
      simp only [remove, registered, observed_isRegistered,
        Bool.false_eq_true, if_false]

theorem repeatTextField_observed (text : TextSelection) :
    (bridge.observed logs selection notification).repeatTextField text =
      { bridge.repeatTextField text with
        bridge := (bridge.repeatTextField text).bridge.observed logs selection
          notification } := by
  cases control : text.control with
  | none => simp only [repeatTextField, control]
  | some id =>
      cases registered : bridge.isRegistered id with
      | false =>
          simp only [repeatTextField, control, registered,
            observed_isRegistered, Bool.false_eq_true, if_false]
          rfl
      | true =>
          cases attached : bridge.tree.contains (.selection id) <;>
            simp only [repeatTextField, control, registered, attached,
              observed_isRegistered, observed_tree, Bool.false_eq_true,
              if_true, if_false]
          rfl

/-- A notification does the same whoever observes it. -/
theorem notify_observed (reported : Notification) :
    ((bridge.observed logs selection notification).notify reported).bridge =
      (bridge.notify reported).bridge.observed logs selection
        notification := by
  rw [notify_eq, notify_eq]
  cases reported.path with
  | update id aspect change =>
      cases held :
          bridge.isRegistered id && bridge.tree.contains (.widget id) <;>
        simp only [update, observed_isRegistered, observed_tree, held,
          Bool.false_eq_true, if_true, if_false]
      · rfl
      · rfl
  | acknowledge point => simp only [acknowledge_bridge]
  | moveFocus focus => rfl
  | changeSelection changed =>
      simp only [changeSelection_bridge, repeatTextField_observed]
      cases changed <;> rfl

/-- Every operation does the same whoever observes it, and adds the same
subscribers. -/
theorem perform_observed (operation : Operation) :
    ((bridge.observed logs selection notification).perform operation).bridge =
      (bridge.perform operation).bridge.observed logs
        (selection ++ operation.selectionSubscriber?.toList)
        (notification ++ operation.notificationSubscriber?.toList) := by
  cases operation with
  | onSelection subscriber =>
      simp [perform, onSelection, observed, Operation.selectionSubscriber?,
        Operation.notificationSubscriber?]
  | onNotification subscriber =>
      simp [perform, onNotification, observed, Operation.selectionSubscriber?,
        Operation.notificationSubscriber?]
  | add object widget =>
      simp [perform, add_observed, Operation.selectionSubscriber?,
        Operation.notificationSubscriber?]
  | remove id =>
      simp [perform, remove_observed, Operation.selectionSubscriber?,
        Operation.notificationSubscriber?]
  | notify reported =>
      simp [perform, notify_observed, Operation.selectionSubscriber?,
        Operation.notificationSubscriber?]
  | _ =>
      simp only [Operation.selectionSubscriber?,
        Operation.notificationSubscriber?, Option.toList_none,
        List.append_nil]
      rfl

/-- A subscription does nothing that another observation would not hide. -/
theorem observed_of_isSubscription
    {operation : Operation}
    (subscribes : operation.isSubscription = true) :
    (bridge.perform operation).bridge.observed logs selection notification =
      bridge.observed logs selection notification := by
  cases operation with
  | onSelection subscriber => rfl
  | onNotification subscriber => rfl
  | _ => cases subscribes

/-- Without some of the subscriptions, and with other logging, a run does the
same. -/
theorem run_observed
    {steps : List Step}
    (subscriptions : ∀ operation, .inserted operation ∈ steps →
      operation.isSubscription = true) :
    ((bridge.observed logs selection notification).run
        (Step.common steps)).bridge =
      (bridge.run (Step.all steps)).bridge.observed logs
        (selection ++
          (Step.common steps).filterMap Operation.selectionSubscriber?)
        (notification ++
          (Step.common steps).filterMap
            Operation.notificationSubscriber?) := by
  induction steps using List.reverseRecOn with
  | nil => simp [Step.common, Step.all]
  | append_singleton steps step inductionHypothesis =>
      have before := inductionHypothesis fun operation member =>
        subscriptions operation (List.mem_append_left _ member)
      cases step with
      | own operation =>
          have all : Step.all (steps ++ [.own operation]) =
              Step.all steps ++ [operation] := Step.all_append _ _
          have common : Step.common (steps ++ [.own operation]) =
              Step.common steps ++ [operation] := Step.common_append _ _
          rw [all, common, run_concat, run_concat]
          simp only [Outcome.followedBy, before, perform_observed,
            List.filterMap_append, List.append_assoc]
          cases operation <;> rfl
      | inserted operation =>
          have all : Step.all (steps ++ [.inserted operation]) =
              Step.all steps ++ [operation] := Step.all_append _ _
          have common : Step.common (steps ++ [.inserted operation]) =
              Step.common steps :=
            (Step.common_append _ _).trans (List.append_nil _)
          rw [all, common, run_concat, before, Outcome.followedBy,
            observed_of_isSubscription]
          exact subscriptions operation (by simp)

/-- With other logging only, a run does the same. -/
theorem run_observed_all (operations : List Operation) :
    ((bridge.observed logs selection notification).run operations).bridge =
      (bridge.run operations).bridge.observed logs
        (selection ++ operations.filterMap Operation.selectionSubscriber?)
        (notification ++
          operations.filterMap Operation.notificationSubscriber?) := by
  have subscriptions : ∀ operation,
      .inserted operation ∈ operations.map Step.own →
      operation.isSubscription = true := by simp
  simpa using bridge.run_observed logs selection notification subscriptions

end Observed

/-! ## Journals -/

/-- What an operation reports only while ordinary notifications are logged. -/
def routine? (bridge : Bridge) : Operation → Option Journal.Event
  | .notify notification =>
      match notification.path with
      | .update id aspect _ =>
          if bridge.isRegistered id then some (.updated id aspect) else none
      | .acknowledge point =>
          if point.target.all bridge.isRegistered then
            some (.acknowledged point)
          else none
      | .moveFocus _ => none
      | .changeSelection selection => some (.selectionRouted selection.kind)
  | _ => none

section Journals

variable (bridge : Bridge)
variable (selection notification : List Subscriber)

theorem whenLogging_observed (logs : Bool) (event : Journal.Event) :
    (bridge.observed logs selection notification).whenLogging event =
      if logs then [.event event] else [] := rfl

/-- A point passes unless it has a target that is not registered. -/
theorem hindered_eq_none_iff (point : HookPoint) :
    (point.target.filter fun id => !bridge.isRegistered id) = none ↔
      point.target.all bridge.isRegistered = true := by
  cases point.target with
  | none => simp
  | some id => cases bridge.isRegistered id <;> simp [Option.filter]

/-- Logging adds the routine event of a notification after all others. -/
theorem Holds.notify_journal
    {bridge : Bridge}
    {holdings : List Holding}
    (holds : bridge.Holds holdings)
    (reported : Notification) :
    ((bridge.observed true selection notification).notify reported).journal =
      ((bridge.observed false selection notification).notify
          reported).journal ++
        ((bridge.routine? (.notify reported)).map .event).toList := by
  rw [notify_eq, notify_eq, routine?]
  cases reported.path with
  | update id aspect change =>
      cases registered : bridge.isRegistered id with
      | true =>
          have attached : bridge.tree.contains (.widget id) = true :=
            (Tree.contains_iff _ _).mpr (holds.widget_mem_keys registered)
          simp [update, registered, attached, whenLogging_observed]
      | false => simp [update, registered, drop]
  | acknowledge point =>
      have passes := bridge.hindered_eq_none_iff point
      cases hindered : point.target.filter fun id =>
          !bridge.isRegistered id with
      | none =>
          simp [acknowledge, hindered, passes.mp hindered,
            whenLogging_observed]
      | some id =>
          have stopped : point.target.all bridge.isRegistered = false := by
            rw [← Bool.not_eq_true, ← passes, hindered]
            exact Option.some_ne_none id
          simp [acknowledge, hindered, stopped, drop]
  | moveFocus focus => rfl
  | changeSelection changed =>
      cases changed <;>
        simp [changeSelection, routeSelection, noteTextBox,
          repeatTextField_observed, whenLogging_observed, Selection.kind]

/-- The same holds of every operation: none but notifications look at the
settings. -/
theorem Holds.perform_journal
    {bridge : Bridge}
    {holdings : List Holding}
    (holds : bridge.Holds holdings)
    (operation : Operation) :
    ((bridge.observed true selection notification).perform
        operation).journal =
      ((bridge.observed false selection notification).perform
          operation).journal ++
        ((bridge.routine? operation).map .event).toList := by
  cases operation with
  | add object widget =>
      simp [Bridge.perform, add_observed, routine?]
  | remove id =>
      simp [Bridge.perform, remove_observed, routine?]
  | notify reported =>
      exact holds.notify_journal selection notification reported
  | _ => exact (List.append_nil _).symm

end Journals

/-- Handling a selection reports nothing that is routine. -/
theorem isRoutine_of_mem_routeSelection
    {bridge : Bridge}
    {selection : Selection}
    {entry : Journal.Entry}
    (member : entry ∈ (bridge.routeSelection selection).1.journal) :
    entry.isRoutine = false := by
  rcases eq_of_mem_routeSelection member with
    rfl | rfl | ⟨id, rfl⟩ | ⟨id, rfl⟩ <;> rfl

section Quiet

variable {bridge : Bridge}

theorem whenLogging_of_quiet
    (quiet : bridge.config.logNotifications = false)
    (event : Journal.Event) :
    bridge.whenLogging event = [] := by
  simp [whenLogging, quiet]

/-- Without logging, a notification reports nothing that is routine. -/
theorem isRoutine_of_mem_notify
    (quiet : bridge.config.logNotifications = false)
    {notification : Notification}
    {entry : Journal.Entry}
    (member : entry ∈ (bridge.notify notification).journal) :
    entry.isRoutine = false := by
  rw [notify_eq] at member
  cases path : notification.path with
  | update id aspect change =>
      simp only [path, update, whenLogging_of_quiet quiet] at member
      split at member
      · exact absurd member List.not_mem_nil
      · rw [List.mem_singleton.mp member]
        rfl
  | acknowledge point =>
      simp only [path, acknowledge, whenLogging_of_quiet quiet] at member
      split at member
      · rw [List.mem_singleton.mp member]
        rfl
      · exact absurd member List.not_mem_nil
  | moveFocus focus =>
      simp only [path] at member
      rw [List.mem_singleton.mp member]
      rfl
  | changeSelection selection =>
      simp only [path, changeSelection, whenLogging_of_quiet quiet,
        List.append_nil] at member
      exact isRoutine_of_mem_routeSelection member

/-- Without logging, no operation reports anything that is routine. -/
theorem isRoutine_of_mem_perform
    (quiet : bridge.config.logNotifications = false)
    {operation : Operation}
    {entry : Journal.Entry}
    (member : entry ∈ (bridge.perform operation).journal) :
    entry.isRoutine = false := by
  by_contra routine
  rw [Bool.not_eq_false] at routine
  obtain ⟨notification, rfl⟩ := notify_of_mem_perform member
    (Journal.Entry.target_of_isRoutine routine)
  rw [isRoutine_of_mem_notify quiet member] at routine
  cases routine

end Quiet

/-- The routine event of an operation is routine. -/
theorem isRoutine_of_routine?
    {bridge : Bridge}
    {operation : Operation}
    {event : Journal.Event}
    (reports : bridge.routine? operation = some event) :
    Journal.Entry.isRoutine (.event event) = true := by
  cases operation with
  | notify notification =>
      simp only [routine?] at reports
      cases path : notification.path with
      | update id aspect change =>
          simp only [path, Option.ite_none_right_eq_some] at reports
          rw [← Option.some.inj reports.2]
          rfl
      | acknowledge point =>
          simp only [path, Option.ite_none_right_eq_some] at reports
          rw [← Option.some.inj reports.2]
          rfl
      | moveFocus focus =>
          rw [path] at reports
          cases reports
      | changeSelection selection =>
          rw [path] at reports
          rw [← Option.some.inj reports]
          rfl
  | _ => cases reports

/-- Leaving out what is routine leaves what is reported without logging. -/
theorem Holds.filter_journal
    {bridge : Bridge}
    {holdings : List Holding}
    (holds : bridge.Holds holdings)
    (selection notification : List Subscriber)
    (operation : Operation) :
    ((bridge.observed true selection notification).perform
        operation).journal.filter (!·.isRoutine) =
      ((bridge.observed false selection notification).perform
        operation).journal := by
  have others : ∀ entry ∈ ((bridge.observed false selection
      notification).perform operation).journal, entry.isRoutine = false :=
    fun _ => isRoutine_of_mem_perform rfl
  rw [holds.perform_journal, List.filter_append]
  have routine : ((bridge.routine? operation).map
      Journal.Entry.event).toList.filter (!·.isRoutine) = [] := by
    rw [List.filter_eq_nil_iff]
    intro entry member
    obtain ⟨event, reports, rfl⟩ :=
      Option.map_eq_some_iff.mp (Option.mem_toList.mp member)
    simp [isRoutine_of_routine? reports]
  rw [routine, List.append_nil, List.filter_eq_self]
  intro entry member
  simp [others entry member]

/-- The settings of a new bridge decide on logging. -/
theorem new_observed (config : Config) (logs : Bool) :
    new { config with logNotifications := logs } =
      (new config).observed logs [] [] := rfl

/-- What is reported without logging is what is reported with it, less what is
routine. -/
theorem run_journal (config : Config) (operations : List Operation) :
    ((new { config with logNotifications := false }).run
        operations).journal =
      ((new { config with logNotifications := true }).run
        operations).journal.filter (!·.isRoutine) := by
  rw [new_observed config false, new_observed config true]
  induction operations using List.reverseRecOn with
  | nil => rfl
  | append_singleton operations operation inductionHypothesis =>
      obtain ⟨holdings, holds⟩ := run_holds config operations
      simp only [run_concat, Outcome.followedBy, List.filter_append,
        inductionHypothesis, run_observed_all, holds.filter_journal]

end Bridge
end AssistiveTree
