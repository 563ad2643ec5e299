import AssistiveTree.Proofs.Bridge.Observation
import AssistiveTree.Proofs.Bridge.Selections
import AssistiveTree.Proofs.Journal
import AssistiveTree.Proofs.Node.Key

/-!
# Dropped notifications

The journal of one notification is short. With logging it is one record, or one
or two for a selection. Without, a notification that was handled leaves nothing.
A dropped notification leaves the same record in both settings, and nothing else
leaves such a record. So the dropped notifications of a run can be read off its
records, with the widgets that they were about.
-/

namespace AssistiveTree

/-- The widget that has to be registered for a notification not to be dropped,
and what the journal says otherwise. -/
def Notification.Path.drop? :
    Notification.Path → Option (WidgetId × Journal.Dropped)
  | .update id aspect _ => some (id, .update aspect)
  | .acknowledge point =>
      point.target.map fun id => (id, .acknowledgement point)
  | .changeSelection (.textField selection) =>
      selection.control.map fun id => (id, .textFieldSelection)
  | .changeSelection _ => none
  | .moveFocus _ => none

namespace Journal

/-- A journal has one record, and it is reported under dispatch. -/
def ReportsOnce (journal : List Entry) : Prop :=
  ∃ record, records journal = [record] ∧ record.target = .dispatch

/-- Whether a record says that a notification is dropped. -/
def Record.isDrop (record : Record) : Bool :=
  "dropping ".toList.isPrefixOf record.message.toList

/-- Whether a record says that a notification about a widget is dropped. -/
def Record.drops (record : Record) (id : WidgetId) : Bool :=
  record.isDrop && record.field "widget" = id.text

/-- What an entry says was dropped. -/
def Entry.drop? : Entry → Option (WidgetId × Dropped)
  | .event (.dropped id what) => some (id, what)
  | _ => none

/-- The record of a dropped notification. -/
def dropRecord (drop : WidgetId × Dropped) : Record :=
  (Event.dropped drop.1 drop.2).record

theorem isDrop_dropRecord (drop : WidgetId × Dropped) :
    (dropRecord drop).isDrop = true := by
  simp only [Record.isDrop, dropRecord, Event.record, String.toList_append,
    List.append_assoc, List.isPrefixOf_iff_prefix]
  exact List.prefix_append _ _

/-- The record of any other event does not look like one of a dropped
notification. -/
theorem isDrop_record_of_drop?_eq_none
    {event : Event}
    (kept : Entry.drop? (.event event) = none) :
    event.record.isDrop = false := by
  cases event with
  | dropped id what => cases kept
  | updated id aspect =>
      cases aspect <;>
        simp [Record.isDrop, Event.record, Aspect.phrase, List.isPrefixOf]
  | acknowledged point =>
      cases point <;>
        simp [Record.isDrop, Event.record, HookPoint.phrase, List.isPrefixOf]
  | requestRefused target error =>
      obtain ⟨letter, starts, upper⟩ := isUpper_head_message error
      rw [← Bool.not_eq_true, Record.isDrop, List.isPrefixOf_iff_prefix]
      rintro ⟨rest, same⟩
      have whole : error.message.toList = "dropping ".toList ++ rest :=
        same.symm
      have first : "dropping ".toList.head? = some 'd' := by decide
      have lower : error.message.toList.head? = some 'd' := by
        rw [whole, List.head?_append, first, Option.some_or]
      obtain rfl := Option.some.inj (starts.symm.trans lower)
      exact absurd upper (by decide)
  | _ => simp [Record.isDrop, Event.record, List.isPrefixOf]

theorem eq_dropped_of_drop?
    {event : Event}
    {drop : WidgetId × Dropped}
    (dropped : Entry.drop? (.event event) = some drop) :
    event = .dropped drop.1 drop.2 := by
  cases event with
  | dropped id what =>
      obtain rfl := Option.some.inj dropped
      rfl
  | _ => cases dropped

/-- Notifications are dropped under dispatch. -/
theorem target_of_drop?
    {entry : Entry}
    {drop : WidgetId × Dropped}
    (dropped : entry.drop? = some drop) :
    entry.target = .dispatch := by
  cases entry with
  | event event =>
      obtain rfl := eq_dropped_of_drop? dropped
      rfl
  | _ => cases dropped

/-- The records of dropped notifications are those that look like one. -/
theorem filter_isDrop_records (journal : List Entry) :
    (records journal).filter Record.isDrop =
      (journal.filterMap Entry.drop?).map dropRecord := by
  rw [records, List.filter_filterMap, List.map_filterMap]
  refine List.filterMap_congr fun entry _ => ?_
  cases entry with
  | event event =>
      cases dropped : Entry.drop? (.event event) with
      | none =>
          simp [Entry.record?, isDrop_record_of_drop?_eq_none dropped]
      | some drop =>
          obtain rfl := eq_dropped_of_drop? dropped
          exact Option.filter_some_pos (isDrop_dropRecord drop)
  | _ => rfl

/-- The record of a dropped notification names its widget. -/
theorem drops_dropRecord_iff (drop : WidgetId × Dropped) (id : WidgetId) :
    (dropRecord drop).drops id = true ↔ drop.1 = id := by
  have field : (dropRecord drop).field "widget" = drop.1.text := rfl
  rw [Record.drops, isDrop_dropRecord, field]
  simp [WidgetId.text_injective.eq_iff]

theorem countP_drops_records (journal : List Entry) (id : WidgetId) :
    (records journal).countP (·.drops id) =
      (journal.filterMap Entry.drop?).countP (·.1 = id) := by
  have looks : (records journal).countP (·.drops id) =
      ((records journal).filter Record.isDrop).countP (·.drops id) := by
    rw [List.countP_filter]
    refine List.countP_congr fun record _ => ?_
    simp +contextual [Record.drops]
  rw [looks, filter_isDrop_records, List.countP_map]
  refine List.countP_congr fun drop _ => ?_
  simp [drops_dropRecord_iff]

/-- A record has the target of its entry. -/
theorem target_of_mem_records
    {journal : List Entry}
    {record : Record}
    (member : record ∈ records journal) :
    ∃ entry ∈ journal, entry.target = record.target := by
  obtain ⟨entry, listed, shown⟩ := List.mem_filterMap.mp member
  refine ⟨entry, listed, ?_⟩
  cases entry with
  | event event =>
      obtain rfl := Option.some.inj shown
      rfl
  | _ => cases shown

end Journal

namespace Bridge

open Journal (records)

/-- What an operation reports about a widget that has to be registered. -/
def Operation.drop? : Operation → Option (WidgetId × Journal.Dropped)
  | .notify notification => notification.path.drop?
  | _ => none

/-- The widget that has to be registered for the notification of an operation
not to be dropped. -/
def Operation.needs? (operation : Operation) : Option WidgetId :=
  operation.drop?.map Prod.fst

/-- The notification that is dropped with an operation. -/
def drop? (bridge : Bridge) (operation : Operation) :
    Option (WidgetId × Journal.Dropped) :=
  operation.drop?.filter fun drop => !bridge.isRegistered drop.1

/-- The notifications that are dropped with some operations, one after the
other. -/
def drops (bridge : Bridge) :
    List Operation → List (WidgetId × Journal.Dropped)
  | [] => []
  | operation :: operations =>
      (bridge.drop? operation).toList ++
        (bridge.perform operation).bridge.drops operations

/-- The journal of a notification that changes an attribute or no node, given
whether it is dropped. -/
inductive Disposes (bridge : Bridge) :
    Option (WidgetId × Journal.Dropped) → List Journal.Entry → Prop
  | dropped (id : WidgetId) (what : Journal.Dropped) :
      Disposes bridge (some (id, what)) [.event (.dropped id what)]
  | handled
      {event : Journal.Event}
      (dispatched : event.record.target = .dispatch)
      (kept : Journal.Entry.drop? (.event event) = none) :
      Disposes bridge none (bridge.whenLogging event)

section Dispositions

variable {bridge : Bridge}

/-- An update is applied or dropped. -/
theorem Holds.disposes_update
    {holdings : List Holding}
    (holds : bridge.Holds holdings)
    (id : WidgetId)
    (aspect : Aspect)
    (change : Node.Attribute) :
    bridge.Disposes
      ((some (id, .update aspect)).filter fun drop =>
        !bridge.isRegistered drop.1)
      (bridge.update id aspect change).journal := by
  cases registered : bridge.isRegistered id with
  | true =>
      rw [update_of_registered registered (holds.widget_mem_keys registered),
        Option.filter_some_neg (by simp [registered])]
      exact .handled rfl rfl
  | false =>
      rw [update_of_unregistered registered,
        Option.filter_some_pos (by simp [registered])]
      exact .dropped id _

/-- A point is passed on or dropped. -/
theorem disposes_acknowledge (point : HookPoint) :
    bridge.Disposes
      ((point.target.map fun id => (id, .acknowledgement point)).filter
        fun drop => !bridge.isRegistered drop.1)
      (bridge.acknowledge point).journal := by
  unfold acknowledge
  cases target : point.target with
  | none => exact .handled rfl rfl
  | some id =>
      cases registered : bridge.isRegistered id with
      | true =>
          rw [Option.map_some, Option.filter_some_neg (by simp [registered]),
            Option.filter_some_neg (by simp [registered])]
          exact .handled rfl rfl
      | false =>
          rw [Option.map_some, Option.filter_some_pos (by simp [registered]),
            Option.filter_some_pos (by simp [registered])]
          exact .dropped id _

/-- A notification, focus and selection changes aside, is dropped or handled. -/
theorem Holds.disposes_notify
    {holdings : List Holding}
    (holds : bridge.Holds holdings)
    {notification : Notification}
    (noFocus : ∀ before after,
      notification ≠ .focusChanged before after)
    (noSelection : ∀ selection,
      notification ≠ .selectionChanged selection) :
    bridge.Disposes (bridge.drop? (.notify notification))
      (bridge.notify notification).journal := by
  rw [notify_eq, drop?, Operation.drop?]
  cases path : notification.path with
  | update id aspect change => exact holds.disposes_update id aspect change
  | acknowledge point => exact disposes_acknowledge point
  | moveFocus focus =>
      obtain ⟨before, same⟩ := Notification.focusChanged_of_path path
      exact absurd same (noFocus before focus)
  | changeSelection selection =>
      exact absurd (Notification.selectionChanged_of_path path)
        (noSelection selection)

/-- Handling a selection reports at most one event, and drops the selection of
an unregistered text field. -/
theorem journal_routeSelection (selection : Selection) :
    (bridge.routeSelection selection).1.journal.length ≤ 1 ∧
      (bridge.routeSelection selection).1.journal.filterMap
          Journal.Entry.drop? =
        (bridge.drop? (.notify (.selectionChanged selection))).toList := by
  cases selection with
  | textBox selection =>
      cases control : selection.control <;>
        simp [routeSelection, noteTextBox, control, drop?, Operation.drop?,
          Notification.path, Notification.Path.drop?, Journal.Entry.drop?]
  | textField selection =>
      cases control : selection.control with
      | none =>
          simp [routeSelection, repeatTextField, control, drop?,
            Operation.drop?, Notification.path, Notification.Path.drop?,
            Journal.Entry.drop?]
      | some id =>
          cases registered : bridge.isRegistered id <;>
            cases attached : bridge.tree.contains (.selection id) <;>
              simp [routeSelection, repeatTextField, control, registered,
                attached, drop, drop?, Operation.drop?, Notification.path,
                Notification.Path.drop?, Journal.Entry.drop?,
                Option.filter_some]
  | _ => exact ⟨Nat.zero_le 1, rfl⟩

/-- Routine entries drop nothing. -/
theorem filterMap_drop?_whenLogging
    {event : Journal.Event}
    (kept : Journal.Entry.drop? (.event event) = none) :
    (bridge.whenLogging event).filterMap Journal.Entry.drop? = [] := by
  unfold whenLogging
  split <;> simp [kept]

theorem Disposes.filterMap_drop?
    {drop : Option (WidgetId × Journal.Dropped)}
    {journal : List Journal.Entry}
    (disposes : bridge.Disposes drop journal) :
    journal.filterMap Journal.Entry.drop? = drop.toList := by
  cases disposes with
  | dropped id what => rfl
  | handled dispatched kept => exact filterMap_drop?_whenLogging kept

end Dispositions

/-! ## Drops of operations and runs -/

theorem Holds.filterMap_drop?_notify
    {bridge : Bridge}
    {holdings : List Holding}
    (holds : bridge.Holds holdings)
    (notification : Notification) :
    (bridge.notify notification).journal.filterMap Journal.Entry.drop? =
      (bridge.drop? (.notify notification)).toList := by
  cases notification with
  | focusChanged before after => rfl
  | selectionChanged selection =>
      rw [Bridge.notify, changeSelection, List.filterMap_append,
        (journal_routeSelection selection).2, filterMap_drop?_whenLogging rfl,
        List.append_nil]
  | _ =>
      refine (holds.disposes_notify ?_ ?_).filterMap_drop?
      · intro before after same
        cases same
      · intro selection same
        cases same

/-- The journal of an operation has the notification that is dropped with it,
and no other. -/
theorem Holds.filterMap_drop?_perform
    {bridge : Bridge}
    {holdings : List Holding}
    (holds : bridge.Holds holdings)
    (operation : Operation) :
    (bridge.perform operation).journal.filterMap Journal.Entry.drop? =
      (bridge.drop? operation).toList := by
  by_cases notifies : ∃ notification, operation = .notify notification
  · obtain ⟨notification, rfl⟩ := notifies
    exact holds.filterMap_drop?_notify notification
  · have nothing : bridge.drop? operation = none := by
      cases operation with
      | notify notification => exact absurd ⟨notification, rfl⟩ notifies
      | _ => rfl
    rw [nothing, Option.toList_none, List.filterMap_eq_nil_iff]
    intro entry member
    by_contra dropped
    obtain ⟨drop, dropped⟩ := Option.ne_none_iff_exists'.mp dropped
    exact notifies
      (notify_of_mem_perform member (Journal.target_of_drop? dropped))

/-- The journal of a run has the notifications that are dropped in it, in
order. -/
theorem Holds.filterMap_drop?_run
    {bridge : Bridge}
    {holdings : List Holding}
    (holds : bridge.Holds holdings)
    (operations : List Operation) :
    (bridge.run operations).journal.filterMap Journal.Entry.drop? =
      bridge.drops operations := by
  induction operations generalizing bridge holdings with
  | nil => rfl
  | cons operation operations inductionHypothesis =>
      rw [run_cons, Outcome.followedBy, List.filterMap_append,
        holds.filterMap_drop?_perform,
        inductionHypothesis (holds.perform operation), drops]

/-- A run keeps the setting of a new bridge. -/
theorem run_logNotifications (config : Config) (operations : List Operation) :
    ((new config).run operations).bridge.config.logNotifications =
      config.logNotifications := by
  have observed := run_observed_all (new config) config.logNotifications [] []
    operations
  exact congrArg (·.config.logNotifications) observed

/-! ## Traces -/

/-- What the records of a notification are, given whether ordinary notifications
are logged. -/
structure Traces
    (bridge : Bridge)
    (logs : Bool)
    (notification : Notification) : Prop where
  logged : logs = true →
    (∀ selection, notification ≠ .selectionChanged selection) →
    Journal.ReportsOnce (bridge.notify notification).journal
  /-- The route is the last of one or two records. -/
  routed : logs = true → ∀ selection,
    notification = .selectionChanged selection →
    ∃ earlier,
      records (bridge.notify notification).journal =
          earlier ++ [(Journal.Event.selectionRouted
            (bridge.routeSelection selection).2).record] ∧
        earlier.length ≤ 1 ∧ ∀ record ∈ earlier, record.target = .dispatch
  dropped : ∀ id, (Operation.notify notification).needs? = some id →
    bridge.isRegistered id = false →
    (∀ selection, notification ≠ .selectionChanged selection) →
    Journal.ReportsOnce (bridge.notify notification).journal
  /-- Without logging, a handled notification leaves nothing. -/
  quiet : logs = false →
    (∀ id, (Operation.notify notification).needs? = some id →
      bridge.isRegistered id = true) →
    (∀ before after, notification ≠ .focusChanged before after) →
    (∀ selection, notification ≠ .selectionChanged selection) →
    records (bridge.notify notification).journal = []

section Traces

variable {bridge : Bridge}

/-- A drop needs a widget that is not registered. -/
theorem drop?_eq_none_iff (operation : Operation) :
    bridge.drop? operation = none ↔
      ∀ id, operation.needs? = some id → bridge.isRegistered id = true := by
  rw [drop?, Operation.needs?]
  cases operation.drop? with
  | none => simp
  | some drop => simp [Option.filter_some]

theorem exists_drop?
    {operation : Operation}
    {id : WidgetId}
    (needs : operation.needs? = some id)
    (unregistered : bridge.isRegistered id = false) :
    ∃ what, bridge.drop? operation = some (id, what) := by
  obtain ⟨⟨_, what⟩, found, rfl⟩ := Option.map_eq_some_iff.mp needs
  rw [drop?, found, Option.filter_some_pos (by simpa using unregistered)]
  exact ⟨what, rfl⟩

/-- An operation drops at most one notification for a widget. -/
theorem countP_drop? (operation : Operation) (id : WidgetId) :
    (bridge.drop? operation).toList.countP (·.1 = id) =
      if operation.needs? = some id ∧ bridge.isRegistered id = false then 1
      else 0 := by
  rw [drop?, Operation.needs?]
  cases operation.drop? with
  | none => simp
  | some drop =>
      by_cases same : drop.1 = id
      · cases registered : bridge.isRegistered id <;>
          simp [Option.filter_some, same, registered]
      · cases registered : bridge.isRegistered drop.1 <;>
          simp [Option.filter_some, same, registered]

theorem Disposes.reportsOnce_of_logging
    {drop : Option (WidgetId × Journal.Dropped)}
    {journal : List Journal.Entry}
    (disposes : bridge.Disposes drop journal)
    (logs : bridge.config.logNotifications = true) :
    Journal.ReportsOnce journal := by
  cases disposes with
  | dropped id what => exact ⟨_, rfl, rfl⟩
  | handled dispatched kept =>
      rw [whenLogging, if_pos logs]
      exact ⟨_, rfl, dispatched⟩

/-- A dropped notification is reported once in both settings. -/
theorem Disposes.reportsOnce
    {drop : WidgetId × Journal.Dropped}
    {journal : List Journal.Entry}
    (disposes : bridge.Disposes (some drop) journal) :
    Journal.ReportsOnce journal := by
  cases disposes with
  | dropped id what => exact ⟨_, rfl, rfl⟩

theorem Disposes.records_of_quiet
    {journal : List Journal.Entry}
    (disposes : bridge.Disposes none journal)
    (quiet : bridge.config.logNotifications = false) :
    records journal = [] := by
  cases disposes with
  | handled dispatched kept =>
      rw [whenLogging_of_quiet quiet]
      rfl

theorem Holds.traces
    {holdings : List Holding}
    (holds : bridge.Holds holdings)
    (notification : Notification) :
    bridge.Traces bridge.config.logNotifications notification where
  logged := by
    intro logs noSelection
    by_cases focus : ∃ before after, notification = .focusChanged before after
    · obtain ⟨before, after, rfl⟩ := focus
      exact ⟨_, rfl, rfl⟩
    · have noFocus : ∀ before after,
          notification ≠ .focusChanged before after := fun before after same =>
        focus ⟨before, after, same⟩
      exact (holds.disposes_notify noFocus noSelection).reportsOnce_of_logging logs
  routed := by
    rintro logs selection rfl
    have routine : bridge.whenLogging
          (.selectionRouted (bridge.routeSelection selection).2) =
        [.event (.selectionRouted (bridge.routeSelection selection).2)] :=
      if_pos logs
    refine ⟨records (bridge.routeSelection selection).1.journal, ?_, ?_, ?_⟩
    · rw [Bridge.notify, changeSelection, Journal.records_append, routine]
      rfl
    · exact (List.length_filterMap_le _ _).trans
        (journal_routeSelection selection).1
    · intro record member
      obtain ⟨entry, listed, same⟩ := Journal.target_of_mem_records member
      rw [← same, target_of_mem_routeSelection listed]
  dropped := by
    intro id needs unregistered noSelection
    obtain ⟨what, dropped⟩ := exists_drop? needs unregistered
    have noFocus : ∀ before after,
        notification ≠ .focusChanged before after := by
      rintro before after rfl
      cases needs
    have disposes := holds.disposes_notify noFocus noSelection
    rw [dropped] at disposes
    exact disposes.reportsOnce
  quiet := by
    intro quiet registered noFocus noSelection
    have disposes := holds.disposes_notify noFocus noSelection
    rw [(drop?_eq_none_iff _).mpr registered] at disposes
    exact disposes.records_of_quiet quiet

end Traces

/-- In every reachable bridge the records of one notification are as few as the
settings allow, and a run has one record of a dropped notification for each
notification that came while the widget it needs was not registered. -/
theorem run_traces (config : Config) (operations : List Operation) :
    (∀ notification, ((new config).run operations).bridge.Traces
      config.logNotifications notification) ∧
      (∀ operation id,
        (records (((new config).run operations).bridge.perform
            operation).journal).countP (·.drops id) =
          if operation.needs? = some id ∧
              ((new config).run operations).bridge.isRegistered id = false
          then 1
          else 0) ∧
      (records ((new config).run operations).journal).filter
          Journal.Record.isDrop =
        ((new config).drops operations).map Journal.dropRecord := by
  obtain ⟨holdings, holds⟩ := run_holds config operations
  refine ⟨fun notification => ?_, fun operation id => ?_, ?_⟩
  · rw [← run_logNotifications config operations]
    exact holds.traces notification
  · rw [Journal.countP_drops_records, holds.filterMap_drop?_perform,
      countP_drop?]
  · rw [Journal.filter_isDrop_records, (Holds.new config).filterMap_drop?_run]

-- Without logging, only the button that is not registered leaves a record.
example :
    records ((new { logNotifications := false }).run
      [.notify (.windowFocusChanged true),
        .notify (.buttonActivated ⟨5⟩)]).journal =
      [{ level := .trace
         target := .dispatch
         fields := [("widget", "5")]
         message := "dropping button activated for a widget without an " ++
           "accessible node" }] := by
  decide

end Bridge
end AssistiveTree
