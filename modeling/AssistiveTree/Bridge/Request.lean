import AssistiveTree.Bridge

/-!
# Action requests

A click on an activatable node resolves to its widget object and an
activation, which the host delivers later. Until then the pending activation
keeps the object alive. Every other request is refused. The host may ask for the
reason or leave it to the journal.
-/

namespace AssistiveTree

/-- An activation that is resolved and not yet delivered. -/
structure PendingActivation where
  /-- The object that will be activated. -/
  object : WidgetRef
  /-- The id that the object reports. -/
  widget : WidgetId
  activation : Activation
  deriving DecidableEq

/-- The pending activation in one line. -/
def PendingActivation.summary (pending : PendingActivation) : String :=
  "PendingActivation \x7b widget: " ++ Text.ofWidgetId pending.widget ++
    ", activation: " ++ pending.activation.name ++ " \x7d"

namespace Bridge

/-- Find the widget object and activation that a request asks for, given the
objects that exist. -/
def resolve
    (bridge : Bridge)
    (living : List WidgetRef)
    (request : ActionRequest) : Except Error PendingActivation :=
  if request.action ≠ .click then
    .error (.unsupportedAction request.action)
  else
    match bridge.tree.keyOf? request.target with
    | none => .error (.unknownNode request.target)
    | some (.selection id) => .error (.notActivatable (.selection id))
    | some (.widget id) =>
        match (bridge.tree.node? (.widget id)).bind (·.activation) with
        | none => .error (.notActivatable (.widget id))
        | some activation =>
            match bridge.registry.get? living id with
            | none => .error (.widgetDropped id)
            | some object => .ok ⟨object, id, activation⟩

/-- What is answered to a request, with the journal of answering it. -/
structure Handled (Answer : Type) where
  answer : Answer
  journal : List Journal.Entry

/-- Resolve a request, and report why it could not be routed. -/
def tryHandleAction
    (bridge : Bridge)
    (living : List WidgetRef)
    (request : ActionRequest) : Handled (Except Error PendingActivation) :=
  match bridge.resolve living request with
  | .ok pending =>
      { answer := .ok pending
        journal :=
          [.event (.activationRouted pending.widget pending.activation)] }
  | .error error => ⟨.error error, []⟩

/-- Resolve a request. One that cannot be routed is dropped, and only the
journal tells why. -/
def handleAction
    (bridge : Bridge)
    (living : List WidgetRef)
    (request : ActionRequest) : Handled (Option PendingActivation) :=
  let attempt := bridge.tryHandleAction living request
  match attempt.answer with
  | .ok pending => ⟨some pending, attempt.journal⟩
  | .error error =>
      { answer := none
        journal :=
          attempt.journal ++ [.event (.requestRefused request.target error)] }

end Bridge

end AssistiveTree
