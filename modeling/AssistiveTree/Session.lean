import AssistiveTree.Session.Step
import AssistiveTree.Widget.Roster

/-!
# Sessions

A session is a bridge together with the widget framework that works with it.
Widget objects live as long as a handle, a pending activation or an activation
that is being delivered holds them.
-/

namespace AssistiveTree

namespace Session

/-- A widget object: what it reports now, the handle that it was made under,
and what it does when it is activated. -/
structure Actor where
  widget : Widget
  handle : String
  onActivate : List Step

end Session

/-- A bridge and the widget framework around it. -/
structure Session where
  bridge : Bridge
  roster : Roster Session.Actor := .empty
  /-- The activations that wait in slots. -/
  pending : Table String PendingActivation := .empty
  /-- The objects whose activations are being delivered. -/
  running : List WidgetRef := []

namespace Session

/-- A session that starts with a bridge. -/
def new (bridge : Bridge) : Session := { bridge }

/-- A session after a step, with the step's answer, what the bridge journalled
and what subscribers and widgets logged. -/
structure Reply where
  session : Session
  answer : Answer
  journal : List Journal.Entry := []
  log : List LogEntry := []

/-- The objects that somebody holds. -/
def living (session : Session) : List WidgetRef :=
  session.roster.held ++ session.pending.values.map (·.object) ++
    session.running

/-- Perform an operation on the bridge. -/
def operate
    (session : Session)
    (operation : Bridge.Operation)
    (answer : Answer := .done) : Reply :=
  let outcome := session.bridge.perform operation
  { session := { session with bridge := outcome.bridge }
    answer := answer
    journal := outcome.journal
    log := outcome.calls.map .hook }

/-- Take a step about the widget of a handle. -/
def withWidget
    (session : Session)
    (handle : String)
    (act : WidgetRef → Widget → Reply) : Reply :=
  match session.roster.get? handle with
  | some (object, actor) => act object actor.widget
  | none => { session, answer := .noWidget }

/-- The answer to a notification. -/
def answerTo : Notification → Answer
  | .selectionChanged selection => .selectionKind selection.kind
  | _ => .done

/-- Keep the activation that a request was resolved to in a slot. -/
def Reply.keep
    (reply : Reply)
    (slot : String)
    (pending : PendingActivation) : Reply :=
  { reply with
    session :=
      { reply.session with
        pending := reply.session.pending.insert slot pending }
    answer := .routed pending }

/-- Resolve an action request and keep the activation in a slot. -/
def ask
    (session : Session)
    (request : ActionRequest)
    (slot : String)
    (quiet : Bool) : Reply :=
  let reply := session.operate (.request session.living request quiet)
  if quiet then
    match (session.bridge.handleAction session.living request).answer with
    | some pending => reply.keep slot pending
    | none => reply
  else
    match (session.bridge.tryHandleAction session.living request).answer with
    | .ok pending => reply.keep slot pending
    | .error error => { reply with answer := .refused error }

/-- The node id that a request is for. -/
def targetId? (session : Session) : RequestTarget → Option NodeId
  | .id id => some id
  | .key key => session.bridge.tree.nodeId? key

/-- Take the steps of an activated widget, given how one step is taken. -/
def play
    (take : Session → Step → Reply)
    (start : Reply)
    (steps : List Step) : Reply :=
  steps.foldl
    (fun reply step =>
      let next := take reply.session step
      { reply with
        session := next.session
        journal := reply.journal ++ next.journal
        log := reply.log ++ next.log ++ [.nested next.answer] })
    start

/-- Deliver an activation that was taken out of its slot, given how one step is
taken. Its object stays alive meanwhile. -/
def activate
    (take : Session → Step → Reply)
    (session : Session)
    (pending : PendingActivation) : Reply :=
  match session.roster.object? pending.object with
  | none => { session, answer := .done }
  | some actor =>
      let start : Reply :=
        { session :=
            { session with running := pending.object :: session.running }
          answer := .done
          log := [.activated actor.handle pending.activation] }
      let reply := play take start actor.onActivate
      { reply with
        session := { reply.session with running := session.running } }

/-- Take one step, with activations nested at most to the given depth. An
activated widget beyond that depth takes no steps. -/
def takeWithin : (depth : Nat) → Session → Step → Reply
  | _, session, .make handle widget onActivate =>
      { session :=
          { session with
            roster := session.roster.make handle ⟨widget, handle, onActivate⟩ }
        answer := .flag (session.roster.contains handle) }
  | _, session, .amend handle amendment =>
      session.withWidget handle fun object _ =>
        { session :=
            { session with
              roster := session.roster.modify object fun actor =>
                { actor with widget := actor.widget.amend amendment } }
          answer := .done }
  | _, session, .drop handle =>
      session.withWidget handle fun _ _ =>
        { session := { session with roster := session.roster.drop handle }
          answer := .done }
  | _, session, .inspect handle =>
      session.withWidget handle fun _ widget =>
        { session, answer := .widget widget }
  | _, session, .add handle =>
      session.withWidget handle fun object widget =>
        session.operate (.add object widget)
  | _, session, .remove handle =>
      session.withWidget handle fun _ widget =>
        session.operate (.remove widget.id)
  | _, session, .removeId id => session.operate (.remove id)
  | _, session, .shutdown => session.operate .shutdown
  | _, session, .report handle report =>
      session.withWidget handle fun _ widget =>
        session.operate (.notify (report.notification widget))
  | _, session, .notify notification =>
      session.operate (.notify notification) (answerTo notification)
  | _, session, .onSelection subscriber =>
      session.operate (.onSelection subscriber)
  | _, session, .onNotification subscriber =>
      session.operate (.onNotification subscriber)
  | _, session, .request action target slot quiet =>
      match session.targetId? target with
      | none => { session, answer := .noTarget }
      | some id => session.ask ⟨action, id⟩ slot quiet
  | depth, session, .deliver slot =>
      match session.pending.get? slot with
      | none => { session, answer := .noPending }
      | some pending =>
          let taken :=
            { session with pending := session.pending.erase slot }
          match depth with
          | 0 => taken.activate (fun inner _ => ⟨inner, .done, [], []⟩) pending
          | depth + 1 => taken.activate (takeWithin depth) pending
  | _, session, .discard slot =>
      { session :=
          { session with pending := session.pending.erase slot }
        answer := .flag (session.pending.contains slot) }
  | _, session, .exportTree =>
      session.operate .exportTree (.update session.bridge.treeUpdate)
  | _, session, .query query =>
      { session, answer := query.answer session.bridge }

/-- How deep activations may nest. -/
def nestingLimit : Nat := 1000

/-- Take one step. -/
def step (session : Session) (step : Step) : Reply :=
  session.takeWithin nestingLimit step

end Session

end AssistiveTree
