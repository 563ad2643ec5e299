import AssistiveTree.Proofs.Table
import AssistiveTree.Widget.Roster

/-!
# Objects and their holders

References are handed out in order and never again, so an object that no handle
holds is never held afterwards, and no object takes the place of another.
-/

namespace AssistiveTree
namespace Roster

variable {Object : Type}

/-- Some handle holds an object. -/
def Holds (roster : Roster Object) (object : WidgetRef) : Prop :=
  ∃ handle, roster.handles.get? handle = some object

theorem get?_eq_some_iff
    (roster : Roster Object)
    (handle : String)
    (held : WidgetRef)
    (object : Object) :
    roster.get? handle = some (held, object) ↔
      roster.handles.get? handle = some held ∧
        roster.object? held = some object := by
  simp only [get?, Option.bind_eq_bind, Option.bind_eq_some_iff,
    Option.pure_def, Option.some.injEq, Prod.mk.injEq]
  constructor
  · rintro ⟨_, stored, _, made, rfl, rfl⟩
    exact ⟨stored, made⟩
  · rintro ⟨stored, made⟩
    exact ⟨held, stored, object, made, rfl, rfl⟩

/-- An object was made at some time. -/
def Made (roster : Roster Object) (object : WidgetRef) : Prop :=
  object.index < roster.objects.length

theorem Made.make
    {roster : Roster Object}
    {object : WidgetRef}
    (made : roster.Made object)
    (handle : String)
    (added : Object) : (roster.make handle added).Made object := by
  rw [Made, Roster.make, List.length_append]
  exact Nat.lt_add_right _ made

theorem Made.drop
    {roster : Roster Object}
    {object : WidgetRef}
    (made : roster.Made object)
    (handle : String) : (roster.drop handle).Made object :=
  made

/-- An object that is there was made. -/
theorem made_of_object?
    {roster : Roster Object}
    {object : WidgetRef}
    {made : Object}
    (found : roster.object? object = some made) : roster.Made object :=
  (List.getElem?_eq_some_iff.mp found).1

/-- Making an object leaves the others in place. -/
theorem object?_make
    {roster : Roster Object}
    {object : WidgetRef}
    {made : Object}
    (found : roster.object? object = some made)
    (handle : String)
    (added : Object) :
    (roster.make handle added).object? object = some made := by
  rw [object?, make, List.getElem?_append_left (made_of_object? found)]
  exact found

/-- Changing an object changes no other. -/
theorem object?_modify
    (roster : Roster Object)
    (object other : WidgetRef)
    (change : Object → Object) :
    (roster.modify object change).object? other =
      if object = other then (roster.object? other).map change
      else roster.object? other := by
  rw [object?, modify, List.getElem?_modify]
  by_cases same : object = other
  · simp [object?, same]
  · have apart : object.index ≠ other.index :=
      fun equal => same (congrArg WidgetRef.mk equal)
    simp [object?, same, apart]

/-- Every handle stands once, and holds an object that was made. -/
structure Sound (roster : Roster Object) : Prop where
  distinct : roster.handles.keys.Nodup
  made : ∀ object ∈ roster.held, roster.Made object

namespace Sound

variable {roster : Roster Object}

theorem empty : (empty : Roster Object).Sound where
  distinct := List.nodup_nil
  made := by simp [held, Roster.empty, Table.values, Table.empty]

theorem make
    (sound : roster.Sound)
    (handle : String)
    (object : Object) : (roster.make handle object).Sound where
  distinct := Table.nodup_keys_insert sound.distinct handle _
  made := by
    intro other held
    rcases Table.mem_values_insert held with rfl | old
    · simp [Made, Roster.make]
    · exact (sound.made other old).make handle object

theorem modify
    (sound : roster.Sound)
    (object : WidgetRef)
    (change : Object → Object) : (roster.modify object change).Sound where
  distinct := sound.distinct
  made := by
    intro other held
    rw [Made, Roster.modify, List.length_modify]
    exact sound.made other held

theorem drop (sound : roster.Sound) (handle : String) :
    (roster.drop handle).Sound where
  distinct := Table.nodup_keys_erase sound.distinct handle
  made := fun object held =>
    sound.made object (Table.mem_values_of_mem_erase held)

/-- The held objects are those of the handles. -/
theorem mem_held_iff (sound : roster.Sound) (object : WidgetRef) :
    object ∈ roster.held ↔ roster.Holds object :=
  Table.mem_values_iff sound.distinct object

/-- A held object is there. -/
theorem exists_object (sound : roster.Sound) {object : WidgetRef}
    (held : object ∈ roster.held) :
    ∃ made, roster.object? object = some made :=
  ⟨_, List.getElem?_eq_getElem (sound.made object held)⟩

end Sound

/-- An object was made, and no handle holds it any more. -/
structure Lost (roster : Roster Object) (object : WidgetRef) : Prop where
  made : roster.Made object
  free : object ∉ roster.held

namespace Lost

variable {roster : Roster Object} {object : WidgetRef}

theorem make
    (lost : roster.Lost object)
    (handle : String)
    (added : Object) : (roster.make handle added).Lost object where
  made := lost.made.make handle added
  free := by
    intro held
    rcases Table.mem_values_insert held with rfl | old
    · exact Nat.lt_irrefl _ lost.made
    · exact lost.free old

theorem drop (lost : roster.Lost object) (handle : String) :
    (roster.drop handle).Lost object where
  made := lost.made
  free := fun held => lost.free (Table.mem_values_of_mem_erase held)

end Lost

end Roster
end AssistiveTree
