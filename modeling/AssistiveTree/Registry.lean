import AssistiveTree.Table
import AssistiveTree.Widget

/-!
# The registry

The registry knows under which ids a widget object is registered. It does not
keep objects alive: whether an entry still leads to its object depends on the
objects that exist at the moment of asking.
-/

namespace AssistiveTree

/-- The registered widget objects by id. -/
structure Registry where
  entries : Table WidgetId WidgetRef := .empty
  deriving DecidableEq

namespace Registry

/-- The registry without entries. -/
def empty : Registry := {}

/-- Whether an id is registered. -/
def contains (registry : Registry) (id : WidgetId) : Bool :=
  registry.entries.contains id

/-- Register an object. An id that is registered already keeps its object, and
the answer is `false`. -/
def register
    (registry : Registry)
    (id : WidgetId)
    (object : WidgetRef) : Registry × Bool :=
  if registry.contains id then (registry, false)
  else (⟨registry.entries.insert id object⟩, true)

/-- Unregister an id. The answer tells whether it was registered. -/
def unregister (registry : Registry) (id : WidgetId) : Registry × Bool :=
  (⟨registry.entries.erase id⟩, registry.contains id)

/-- The registered object, if it is among the living. -/
def get?
    (registry : Registry)
    (living : List WidgetRef)
    (id : WidgetId) : Option WidgetRef :=
  (registry.entries.get? id).filter fun object => object ∈ living

/-- Number of registered ids. -/
def size (registry : Registry) : Nat := registry.entries.size

/-- Whether no id is registered. -/
def isEmpty (registry : Registry) : Bool := registry.entries.isEmpty

/-- Unregister every id. -/
def clear (_ : Registry) : Registry := empty

/-- The registry in one line. -/
def summary (registry : Registry) : String :=
  "Registry \x7b len: " ++ Nat.repr registry.size ++ " \x7d"

end Registry

end AssistiveTree
