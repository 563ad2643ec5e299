import AssistiveTree.Registry
import AssistiveTree.Widget.Roster

/-!
# Histories of a registry

A registry next to the roster of the only holders of its objects. Steps make
and drop objects, and register and look them up.
-/

namespace AssistiveTree
namespace Registry

/-- An object that is nothing but its id and name. -/
structure Badge where
  id : WidgetId
  name : String
  deriving DecidableEq

/-- A registry and the objects that it may lead to. -/
structure History where
  registry : Registry := .empty
  roster : Roster Badge := .empty
  deriving DecidableEq

/-- One step of a history. -/
inductive Step
  | make (handle : String) (badge : Badge)
  | drop (handle : String)
  /-- Register the object of a handle, by default under its own id. -/
  | register (handle : String) (id : Option WidgetId)
  | unregister (id : WidgetId)
  | isRegistered (id : WidgetId)
  | get (id : WidgetId)
  | clear
  deriving DecidableEq

/-- What a step answers. -/
inductive Answer
  | done
  | flag (value : Bool)
  /-- The handle holds no object. -/
  | noWidget
  | badge (found : Option Badge)
  deriving DecidableEq

/-- Take one step. -/
def History.step (history : History) : Step → History × Answer
  | .make handle badge =>
      ({ history with roster := history.roster.make handle badge }, .done)
  | .drop handle =>
      ({ history with roster := history.roster.drop handle },
        .flag (history.roster.contains handle))
  | .register handle id =>
      match history.roster.get? handle with
      | none => (history, .noWidget)
      | some (object, badge) =>
          let registered :=
            history.registry.register (id.getD badge.id) object
          ({ history with registry := registered.1 }, .flag registered.2)
  | .unregister id =>
      let unregistered := history.registry.unregister id
      ({ history with registry := unregistered.1 }, .flag unregistered.2)
  | .isRegistered id => (history, .flag (history.registry.contains id))
  | .get id =>
      (history,
        .badge ((history.registry.get? history.roster.held id).bind
          history.roster.object?))
  | .clear =>
      ({ history with registry := history.registry.clear }, .done)

end Registry
end AssistiveTree
