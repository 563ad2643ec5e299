import AssistiveTree.Notification

/-!
# Values in traces

Traces show structured values by constructor name, with their parts in
parentheses or, where the parts are named, in braces.
-/

namespace AssistiveTree
namespace Text

/-- A truth value. -/
def ofBool (value : Bool) : String := if value then "true" else "false"

/-- A widget id with the name of its type. -/
def ofWidgetId (id : WidgetId) : String := "WidgetId(" ++ id.text ++ ")"

/-- An optional value, given the text of the value. -/
def ofOption {Value : Type} (text : Value → String) : Option Value → String
  | none => "None"
  | some value => "Some(" ++ text value ++ ")"

/-- A hook point with its payload. -/
def ofHookPoint (point : HookPoint) : String :=
  match point with
  | .passwordUpdated id => point.name ++ "(" ++ ofWidgetId id ++ ")"
  | .buttonActivated id => point.name ++ "(" ++ ofWidgetId id ++ ")"
  | .controlActivated id => point.name ++ "(" ++ ofWidgetId id ++ ")"
  | .windowFocusChanged focused => point.name ++ "(" ++ ofBool focused ++ ")"
  | .textChanged id => point.name ++ "(" ++ ofOption ofWidgetId id ++ ")"
  | .structureChanged id change =>
      point.name ++ " \x7b widget: " ++ ofWidgetId id ++ ", change: " ++
        change.name ++ " \x7d"

end Text
end AssistiveTree
