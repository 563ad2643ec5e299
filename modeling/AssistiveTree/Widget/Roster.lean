import AssistiveTree.Table
import AssistiveTree.Widget

/-!
# Rosters of widget objects

The widget framework holds its objects by handles. Replacing or dropping the
object of a handle gives up the hold on it. References are never reused, so an
object that nobody holds is gone for good.
-/

namespace AssistiveTree

/-- The objects made so far, and which of them the handles hold. -/
structure Roster (Object : Type) where
  /-- Every object ever made, at the place that its reference names. -/
  objects : List Object
  handles : Table String WidgetRef
  deriving DecidableEq

namespace Roster

variable {Object : Type}

/-- The roster without objects. -/
def empty : Roster Object := ⟨[], .empty⟩

/-- The object with a reference. -/
def object? (roster : Roster Object) (object : WidgetRef) : Option Object :=
  roster.objects[object.index]?

/-- The reference held by a handle, with its object. -/
def get? (roster : Roster Object) (handle : String) :
    Option (WidgetRef × Object) := do
  let held ← roster.handles.get? handle
  let object ← roster.object? held
  return (held, object)

/-- Whether a handle holds an object. -/
def contains (roster : Roster Object) (handle : String) : Bool :=
  roster.handles.contains handle

/-- Make an object and let a handle hold it. -/
def make (roster : Roster Object) (handle : String) (object : Object) :
    Roster Object where
  objects := roster.objects ++ [object]
  handles := roster.handles.insert handle ⟨roster.objects.length⟩

/-- Change an object. -/
def modify
    (roster : Roster Object)
    (object : WidgetRef)
    (change : Object → Object) : Roster Object :=
  { roster with objects := roster.objects.modify object.index change }

/-- Give up the hold of a handle. -/
def drop (roster : Roster Object) (handle : String) : Roster Object :=
  { roster with handles := roster.handles.erase handle }

/-- The objects that some handle holds. -/
def held (roster : Roster Object) : List WidgetRef := roster.handles.values

end Roster

end AssistiveTree
