import AssistiveTree.Node.Key

/-!
# Bridge settings

The host chooses the id and label of the root container and whether ordinary
notifications are journalled.
-/

namespace AssistiveTree

/-- Label of the root container unless the host chooses one. -/
def defaultRootLabel : String := "Application"

/-- The settings of a bridge. -/
structure Config where
  rootId : NodeId := ⟨0⟩
  rootLabel : String := defaultRootLabel
  /-- Whether applied updates, acknowledged notifications and routed selections
  are journalled. -/
  logNotifications : Bool := true
  deriving DecidableEq

/-- The settings that hold where the host chooses none. -/
instance : Inhabited Config := ⟨{}⟩

end AssistiveTree
