import AssistiveTree.Error
import AssistiveTree.Role
import AssistiveTree.Text.Shown

/-!
# The journal

Every operation of the bridge reports what it did. An event is a value of the
domain. Its record is the event as traces show it: a level, a target and named
fields. Longer operations are spans, opened and entered before their first
event and left after their last.
-/

namespace AssistiveTree

/-- The property of a node that a notification is about. -/
inductive Aspect
  | name
  | description
  | text
  | progress
  | toggle
  | menu
  | tree
  | treeTable
  | announcement
  deriving DecidableEq

/-- What happened to the property, in words. -/
def Aspect.phrase : Aspect → String
  | .name => "name changed"
  | .description => "description changed"
  | .text => "text changed"
  | .progress => "progress value changed"
  | .toggle => "toggle state changed"
  | .menu => "menu changed"
  | .tree => "tree changed"
  | .treeTable => "tree table changed"
  | .announcement => "notify"

namespace Journal

/-- How important an event is. -/
inductive Level
  | trace
  | debug
  | warn
  deriving DecidableEq

/-- The name of the level. -/
def Level.name : Level → String
  | .trace => "TRACE"
  | .debug => "DEBUG"
  | .warn => "WARN"

/-- The part of the program that reports. -/
inductive Target
  | bridge
  | dispatch
  | tree
  deriving DecidableEq

/-- The name of the target. -/
def Target.name : Target → String
  | .bridge => "horizon_a11y::bridge"
  | .dispatch => "horizon_a11y::dispatch"
  | .tree => "horizon_a11y::tree"

/-- A notification that found no node to go to. -/
inductive Dropped
  | update (aspect : Aspect)
  | acknowledgement (point : HookPoint)
  | textFieldSelection
  deriving DecidableEq

/-- What the dropped notification reported, in words. -/
def Dropped.phrase : Dropped → String
  | .update aspect => aspect.phrase
  | .acknowledgement point => point.phrase
  | .textFieldSelection => "text field selection"

/-- What an operation did. -/
inductive Event
  | started (root : NodeId)
  | skippedInaccessible (id : WidgetId)
  | alreadyRegistered (id : WidgetId)
  | strayNode (id : WidgetId)
  | added (id : WidgetId) (code : Int32) (role : Role) (name : String)
  | notRegistered (id : WidgetId)
  | removed (id : WidgetId)
  | shutDown (nodes widgets : Nat)
  | alreadyAttached (key : NodeKey)
  | attached (key : NodeKey) (id : NodeId)
  | detached (key : NodeKey)
  | updated (id : WidgetId) (aspect : Aspect)
  | dropped (id : WidgetId) (what : Dropped)
  | acknowledged (point : HookPoint)
  | focusChanged (focus : Option WidgetId)
  | textBoxMissing
  | textFieldMissing
  | companionMissing (id : WidgetId)
  | selectionRouted (route : SelectionKind)
  | activationRouted (id : WidgetId) (activation : Activation)
  | requestRefused (target : NodeId) (error : Error)
  deriving DecidableEq

/-- An event as traces show it. -/
structure Record where
  level : Level
  target : Target
  fields : List (String × String)
  message : String
  deriving DecidableEq

namespace Event

/-- The field that names a widget. -/
def widgetField (id : WidgetId) : String × String := ("widget", id.text)

/-- The event as traces show it. -/
def record : Event → Record
  | .started root =>
      ⟨.debug, .bridge, [("root", Nat.repr root.raw.toNat)],
        "accessibility bridge initialized"⟩
  | .skippedInaccessible id =>
      ⟨.trace, .bridge, [widgetField id], "skipping inaccessible widget"⟩
  | .alreadyRegistered id =>
      ⟨.trace, .bridge, [widgetField id], "widget already registered"⟩
  | .strayNode id =>
      ⟨.warn, .bridge, [widgetField id],
        "unregistered widget already had an accessible node"⟩
  | .added id code role name =>
      ⟨.debug, .bridge,
        [widgetField id, ("code", Int.repr code.toInt),
          ("role", role.ariaName), ("name", name)],
        "added accessible node"⟩
  | .notRegistered id =>
      ⟨.trace, .bridge, [widgetField id], "widget not registered"⟩
  | .removed id =>
      ⟨.debug, .bridge, [widgetField id], "removed accessible node"⟩
  | .shutDown nodes widgets =>
      ⟨.debug, .bridge,
        [("detached", Nat.repr nodes), ("registered", Nat.repr widgets)],
        "accessibility bridge shut down"⟩
  | .alreadyAttached key =>
      ⟨.trace, .tree, [("node", key.text)], "node already attached"⟩
  | .attached key id =>
      ⟨.trace, .tree, [("node", key.text), ("id", Nat.repr id.raw.toNat)],
        "attached node"⟩
  | .detached key => ⟨.trace, .tree, [("node", key.text)], "detached node"⟩
  | .updated id aspect =>
      ⟨.trace, .dispatch, [widgetField id], aspect.phrase⟩
  | .dropped id what =>
      ⟨.trace, .dispatch, [widgetField id],
        "dropping " ++ what.phrase ++
          " for a widget without an accessible node"⟩
  | .acknowledged point =>
      ⟨.trace, .dispatch, [("point", Text.ofHookPoint point)], point.phrase⟩
  | .focusChanged focus =>
      ⟨.trace, .dispatch, [("focus", Text.ofOption WidgetId.text focus)],
        "focus changed"⟩
  | .textBoxMissing =>
      ⟨.trace, .dispatch, [], "text box selection without a text box"⟩
  | .textFieldMissing =>
      ⟨.trace, .dispatch, [], "text field selection without a text field"⟩
  | .companionMissing id =>
      ⟨.trace, .dispatch, [widgetField id],
        "selected widget has no selection companion"⟩
  | .selectionRouted route =>
      ⟨.trace, .dispatch, [("route", route.name)], "selection changed"⟩
  | .activationRouted id activation =>
      ⟨.debug, .tree, [widgetField id, ("activation", activation.name)],
        "routing activation"⟩
  | .requestRefused target error =>
      ⟨.debug, .tree, [("target_node", Nat.repr target.raw.toNat)],
        error.message⟩

end Event

/-- An operation that encloses its events. -/
inductive Span
  | add (id : WidgetId)
  | remove (id : WidgetId)
  | shutdown
  | exportTree
  deriving DecidableEq

namespace Span

/-- The name of the span. -/
def name : Span → String
  | .add _ => "horizon_a11y::add"
  | .remove _ => "horizon_a11y::remove"
  | .shutdown => "horizon_a11y::shutdown"
  | .exportTree => "horizon_a11y::export"

/-- The level of the span. -/
def level : Span → Level
  | .exportTree => .trace
  | _ => .debug

/-- The target of the span. -/
def target : Span → Target
  | .exportTree => .tree
  | _ => .bridge

/-- The fields of the span. -/
def fields : Span → List (String × String)
  | .add id => [Event.widgetField id]
  | .remove id => [Event.widgetField id]
  | .shutdown => []
  | .exportTree => []

end Span

/-- One line of the journal. -/
inductive Entry
  | event (event : Event)
  | opened (span : Span)
  | entered (span : Span)
  | left (span : Span)
  deriving DecidableEq

/-- The entries of a span around the entries of its events. -/
def within (span : Span) (entries : List Entry) : List Entry :=
  .opened span :: .entered span :: entries ++ [.left span]

end Journal

end AssistiveTree
