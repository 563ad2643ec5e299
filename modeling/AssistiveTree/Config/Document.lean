import AssistiveTree.Config
import AssistiveTree.Error
import AssistiveTree.Text.Blank
import AssistiveTree.Text.Shown
import AssistiveTree.Toml.Document
import AssistiveTree.Toml.Written

/-!
# Settings as documents

Settings are read from a TOML document and written as one. Every key may be
missing, and unknown keys are ignored. A label has to hold more than white
space, and is refused only once the whole document is found well formed.
-/

namespace AssistiveTree
namespace Config

/-- The key of the root's id. -/
def rootIdKey : String := "root_node_id"

/-- The key of the root's label. -/
def rootLabelKey : String := "root_label"

/-- The key of the flag for notifications. -/
def logNotificationsKey : String := "log_notifications"

/-- The root's id: a number that is not negative. -/
def readRootId? : Option Toml.Definition → Option NodeId
  | none => some ({} : Config).rootId
  | some (.value (.integer value)) =>
      if 0 ≤ value then some ⟨value.toNat.toUInt64⟩ else none
  | some _ => none

/-- The root's label: a string. -/
def readRootLabel? : Option Toml.Definition → Option String
  | none => some ({} : Config).rootLabel
  | some (.value (.string text)) => some text
  | some _ => none

/-- The flag for notifications: a truth value. -/
def readLogNotifications? : Option Toml.Definition → Option Bool
  | none => some ({} : Config).logNotifications
  | some (.value (.boolean value)) => some value
  | some _ => none

/-- The settings in the top-level definitions of a document. -/
def ofSection? (entries : Toml.Section) : Option Config := do
  let rootId ← readRootId? (entries.get? rootIdKey)
  let rootLabel ← readRootLabel? (entries.get? rootLabelKey)
  let logNotifications ←
    readLogNotifications? (entries.get? logNotificationsKey)
  return { rootId, rootLabel, logNotifications }

/-- Refuse settings whose label is blank. -/
def validate (config : Config) : Except Error Config :=
  if Text.isBlank config.rootLabel then
    .error (.invalidValue rootLabelKey "the root container needs a label")
  else .ok config

/-- Read settings from a document. -/
def parse (text : String) : Except Error Config :=
  match (Toml.Document.parse? text).bind ofSection? with
  | some config => config.validate
  | none => .error .malformed

/-- What stands under the path of a configuration file. -/
inductive File
  | missing
  | directory
  /-- The path cannot be looked up at all. -/
  | inaccessible (detail : String)
  | content (bytes : ByteArray)

/-- Read settings from a file. -/
def load (path : String) : File → Except Error Config
  | .missing => .error (.unreadable path .notFound)
  | .directory => .error (.unreadable path .isADirectory)
  | .inaccessible detail => .error (.unreadable path (.other detail))
  | .content bytes =>
      match String.fromUTF8? bytes with
      | some text => parse text
      | none => .error (.unreadable path .invalidText)

/-- A line that assigns a written value to a key. -/
def line (key : String) (value : List Char) : List Char :=
  key.toList ++ [' ', '=', ' '] ++ value ++ ['\n']

/-- The line of the root's id. -/
def rootIdLine (id : NodeId) : List Char :=
  line rootIdKey (Nat.toDigits 10 id.raw.toNat)

/-- The line of the root's label. -/
def rootLabelLine (label : String) : List Char :=
  line rootLabelKey (Toml.writeString label.toList)

/-- The line of the flag for notifications. -/
def logNotificationsLine (flag : Bool) : List Char :=
  line logNotificationsKey (Text.ofBool flag).toList

/-- Write settings as a document. Integers of a document have 63 bits and a
sign, so greater ids have no written form. -/
def write (config : Config) : Except Error String :=
  if Int64.maxValue.toInt < config.rootId.raw.toNat then .error .unwritable
  else
    .ok (String.ofList
      (rootIdLine config.rootId ++ rootLabelLine config.rootLabel ++
        logNotificationsLine config.logNotifications))

end Config
end AssistiveTree
