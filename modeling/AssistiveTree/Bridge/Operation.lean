import AssistiveTree.Bridge.Dispatch
import AssistiveTree.Bridge.Export
import AssistiveTree.Bridge.Request

/-!
# Operations and runs

Everything that can be done to a bridge is an operation, and a run is a list
of operations. What widgets report is part of the operation that asks them, so
a run covers every way in which widgets may change or disappear meanwhile.
-/

namespace AssistiveTree
namespace Bridge

/-- One operation on a bridge. -/
inductive Operation
  | add (object : WidgetRef) (widget : Widget)
  | remove (id : WidgetId)
  | shutdown
  | notify (notification : Notification)
  | onSelection (subscriber : Subscriber)
  | onNotification (subscriber : Subscriber)
  | exportTree
  /-- A quiet request does not ask why it could not be routed. -/
  | request (living : List WidgetRef) (request : ActionRequest) (quiet : Bool)
  deriving DecidableEq

/-- Perform one operation. -/
def perform (bridge : Bridge) : Operation → Outcome
  | .add object widget => bridge.add object widget
  | .remove id => bridge.remove id
  | .shutdown => bridge.shutdown
  | .notify notification => bridge.notify notification
  | .onSelection subscriber => bridge.onSelection subscriber
  | .onNotification subscriber => bridge.onNotification subscriber
  | .exportTree => { bridge, journal := exportJournal }
  | .request living request quiet =>
      { bridge
        journal :=
          if quiet then (bridge.handleAction living request).journal
          else (bridge.tryHandleAction living request).journal }

/-- Perform operations in order, collecting journals and calls. -/
def run (bridge : Bridge) (operations : List Operation) : Outcome :=
  operations.foldl
    (fun outcome operation =>
      let next := outcome.bridge.perform operation
      { bridge := next.bridge
        journal := outcome.journal ++ next.journal
        calls := outcome.calls ++ next.calls })
    { bridge }

end Bridge
end AssistiveTree
