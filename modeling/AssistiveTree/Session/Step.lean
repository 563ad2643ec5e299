import AssistiveTree.Bridge.Operation
import AssistiveTree.Bridge.Summary

/-!
# Steps of a session

In a session a widget framework with widgets under handles works with one
bridge. Steps change the widgets, tell the bridge about them, ask for
activations and deliver them, and look at the bridge. A widget may carry steps
that it takes when it is activated.
-/

namespace AssistiveTree
namespace Session

/-- A notification about the widget of a handle. -/
inductive Report
  | nameChanged
  | descriptionChanged
  | passwordUpdated
  | toggleChanged (on : Bool)
  | buttonActivated
  | announced (announcement : Announcement)
  deriving DecidableEq

/-- The report as a notification about a widget. -/
def Report.notification (report : Report) (widget : Widget) : Notification :=
  match report with
  | .nameChanged => .nameChanged widget
  | .descriptionChanged => .descriptionChanged widget
  | .passwordUpdated => .passwordUpdated widget.id
  | .toggleChanged on => .toggleChanged widget.id on
  | .buttonActivated => .buttonActivated widget.id
  | .announced announcement => .announced widget.id announcement

/-- The node that an action request is for. -/
inductive RequestTarget
  | id (id : NodeId)
  /-- The node id that a key has at that moment. -/
  | key (key : NodeKey)
  deriving DecidableEq

/-- A look at the bridge. -/
inductive Query
  | state
  | config
  | summary
  | focusUpdate
  | isRegistered (id : WidgetId)
  | node (key : NodeKey)
  | nodeId (key : NodeKey)
  | keyOf (id : NodeId)
  | contains (key : NodeKey)
  /-- The exported form of a node, after further builder calls. -/
  | built (key : NodeKey) (calls : List NodeBuilder.Call)
  deriving DecidableEq

/-- One step of a session. -/
inductive Step
  | make (handle : String) (widget : Widget) (onActivate : List Step)
  | amend (handle : String) (amendment : Widget.Amendment)
  | drop (handle : String)
  | inspect (handle : String)
  | add (handle : String)
  | remove (handle : String)
  | removeId (id : WidgetId)
  | shutdown
  | report (handle : String) (report : Report)
  | notify (notification : Notification)
  | onSelection (subscriber : Subscriber)
  | onNotification (subscriber : Subscriber)
  /-- Ask for an activation and keep it in a slot. -/
  | request
      (action : Action)
      (target : RequestTarget)
      (slot : String)
      (quiet : Bool)
  /-- Deliver the activation of a slot. -/
  | deliver (slot : String)
  /-- Give up the activation of a slot. -/
  | discard (slot : String)
  | exportTree
  | query (query : Query)

/-- What a step answers. -/
inductive Answer
  | done
  | flag (value : Bool)
  /-- The handle holds no widget. -/
  | noWidget
  /-- The key has no node id. -/
  | noTarget
  /-- The slot holds no activation. -/
  | noPending
  | refused (error : Error)
  | routed (pending : PendingActivation)
  | widget (widget : Widget)
  | selectionKind (kind : SelectionKind)
  | state (bridge : Bridge)
  | config (config : Config)
  | summary (text : String)
  | update (update : TreeUpdate)
  | node (node : Option Node)
  | nodeId (id : Option NodeId)
  | key (key : Option NodeKey)
  | built (node : Option ExportNode)
  deriving DecidableEq

/-- Answer a query. -/
def Query.answer (bridge : Bridge) : Query → Answer
  | .state => .state bridge
  | .config => .config bridge.config
  | .summary => .summary bridge.summary
  | .focusUpdate => .update bridge.focusUpdate
  | .isRegistered id => .flag (bridge.isRegistered id)
  | .node key => .node (bridge.node? key)
  | .nodeId key => .nodeId (bridge.tree.nodeId? key)
  | .keyOf id => .key (bridge.tree.keyOf? id)
  | .contains key => .flag (bridge.tree.contains key)
  | .built key calls =>
      .built ((bridge.node? key).map fun node =>
        ((NodeBuilder.ofNode node).performAll calls).build)

/-- What subscribers and widgets log while a step is taken. -/
inductive LogEntry
  | hook (call : HookCall)
  /-- The widget made under a handle was activated. -/
  | activated (handle : String) (activation : Activation)
  /-- The answer to a step that an activated widget took. -/
  | nested (answer : Answer)
  deriving DecidableEq

end Session
end AssistiveTree
