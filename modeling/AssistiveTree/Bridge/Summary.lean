import AssistiveTree.Bridge
import AssistiveTree.Text.Literal

/-!
# Summaries

A bridge and its settings in one line, for people who look for a fault.
-/

namespace AssistiveTree

/-- Named fields after the name of what they belong to. -/
def Text.ofFields (name : String) (fields : List (String × String)) : String :=
  name ++ " \x7b " ++
    ", ".intercalate (fields.map fun field => field.1 ++ ": " ++ field.2) ++
    " \x7d"

/-- The settings in one line. -/
def Config.summary (config : Config) : String :=
  Text.ofFields "BridgeConfig"
    [("root_node_id", Nat.repr config.rootId.raw.toNat),
      ("root_label", Text.quote config.rootLabel),
      ("log_notifications", Text.ofBool config.logNotifications)]

/-- The bridge in one line. -/
def Bridge.summary (bridge : Bridge) : String :=
  Text.ofFields "Bridge"
    [("config", bridge.config.summary),
      ("registry", bridge.registry.summary),
      ("nodes", Nat.repr bridge.tree.size),
      ("focus", Text.ofOption Text.ofWidgetId bridge.focus),
      ("selection_hooks", Nat.repr bridge.selectionHooks.length),
      ("notification_hooks", Nat.repr bridge.notificationHooks.length)]

end AssistiveTree
