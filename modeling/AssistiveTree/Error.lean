import AssistiveTree.Action

/-!
# Errors

Notifications never fail. Errors arise from configuration documents, from
strict classification and from action requests that cannot be routed.
-/

namespace AssistiveTree

/-- Why a configuration file could not be read. -/
inductive ReadFailure
  | notFound
  | isADirectory
  /-- The file is not valid UTF-8. -/
  | invalidText
  | other (detail : String)
  deriving DecidableEq

/-- The failure in words. -/
def ReadFailure.detail : ReadFailure → String
  | .notFound => "no such file"
  | .isADirectory => "it is a directory"
  | .invalidText => "it is not valid UTF-8"
  | .other detail => detail

/-- What can go wrong around the bridge. -/
inductive Error
  /-- A configuration is not a document of the expected shape. -/
  | malformed
  /-- A configuration has no written form. -/
  | unwritable
  /-- A configuration file could not be read. -/
  | unreadable (path : String) (failure : ReadFailure)
  /-- A configuration field holds an unusable value. -/
  | invalidValue (field : String) (detail : String)
  /-- A widget code stands for no kind. -/
  | unknownCode (code : Int32)
  /-- No attached node has the requested id. -/
  | unknownNode (id : NodeId)
  /-- The requested node accepts no activation. -/
  | notActivatable (key : NodeKey)
  /-- The widget of the requested node no longer exists. -/
  | widgetDropped (id : WidgetId)
  /-- The bridge routes no such action. -/
  | unsupportedAction (action : Action)
  deriving DecidableEq

namespace Error

/-- What the error is about. For configuration documents and files, the cause
follows as the detail. -/
def heading : Error → String
  | .malformed => "Failed to parse bridge configuration: "
  | .unwritable => "Failed to serialize bridge configuration: "
  | .unreadable path _ => s!"Failed to read bridge configuration '{path}': "
  | .invalidValue field detail => s!"Invalid value for '{field}': {detail}"
  | .unknownCode code =>
      "Unknown accessibility code " ++ Int.repr code.toInt
  | .unknownNode id =>
      "No accessible node with id NodeId(" ++ Nat.repr id.raw.toNat ++ ")"
  | .notActivatable key =>
      "Accessible node '" ++ key.text ++ "' cannot be activated"
  | .widgetDropped id => "Widget " ++ id.text ++ " is no longer alive"
  | .unsupportedAction action =>
      "Unsupported accessibility action " ++ action.name

/-- The cause that follows the heading. -/
def detail : Error → String
  | .malformed => "it is not a configuration document"
  | .unwritable => "the root id is out of range"
  | .unreadable _ failure => failure.detail
  | _ => ""

/-- The whole message. -/
def message (error : Error) : String := error.heading ++ error.detail

end Error

end AssistiveTree
