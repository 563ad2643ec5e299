import AssistiveTree.Bridge.Operation
import AssistiveTree.Proofs.Notification
import Mathlib.Data.List.DropRight

/-!
# Tenures

A widget's tenure starts with its effective add: the first add of an accessible
widget with its id since the id was last removed or the bridge was last shut
down. What the nodes of the widget show is what it reported at that add, except
where a later notification reported something newer.

Tenures are read off the operations alone, without running them.
-/

namespace AssistiveTree
namespace Bridge
namespace Operation

/-- Whether an operation ends what was registered under an id. -/
def ends (id : WidgetId) : Operation → Bool
  | .remove other => other = id
  | .shutdown => true
  | _ => false

/-- Whether an operation offers an accessible widget with an id. -/
def offers (id : WidgetId) : Operation → Bool
  | .add _ widget => widget.id = id && widget.isAccessible
  | _ => false

/-- The notification that an operation hands over. -/
def notification? : Operation → Option Notification
  | .notify notification => some notification
  | _ => none

end Operation

/-- An effective add and the operations since. -/
structure Tenure where
  object : WidgetRef
  /-- What the widget reported at the effective add. -/
  widget : Widget
  later : List Operation
  deriving DecidableEq

/-- The operations since an id was last ended, from the first offer on. -/
def sinceOffer (id : WidgetId) (operations : List Operation) :
    List Operation :=
  (operations.rtakeWhile fun operation => !operation.ends id).dropWhile
    fun operation => !operation.offers id

/-- The tenure of an id after some operations. -/
def tenure? (id : WidgetId) (operations : List Operation) : Option Tenure :=
  match sinceOffer id operations with
  | .add object widget :: later => some ⟨object, widget, later⟩
  | _ => none

/-- The last value that notifications reported. -/
def lastReported
    {Value : Type}
    (reading : Notification → Option Value)
    (operations : List Operation) : Option Value :=
  (operations.filterMap fun operation =>
    operation.notification?.bind reading).getLast?

namespace Tenure

/-- The primary node of the widget, as its history tells. -/
def primary (tenure : Tenure) : Node where
  role := (classify tenure.widget.code).role
  roleDescription :=
    match (classify tenure.widget.code).rule with
    | .roleDescription text => some text
    | _ => none
  activation := (classify tenure.widget.code).rule.activation?
  companion :=
    if (classify tenure.widget.code).rule.hasCompanion then
      some (.selection tenure.widget.id)
    else none
  groupName :=
    if (classify tenure.widget.code).rule = .radioGroup then
      some tenure.widget.name
    else none
  label :=
    (lastReported (·.newName? tenure.widget.id) tenure.later).getD
      tenure.widget.name
  description :=
    (lastReported (·.newDescription? tenure.widget.id) tenure.later).getD
      tenure.widget.description
  numericValue := lastReported (·.newProgress? tenure.widget.id) tenure.later
  toggled := lastReported (·.newToggle? tenure.widget.id) tenure.later
  expanded := lastReported (·.newExpansion? tenure.widget.id) tenure.later
  announcement :=
    lastReported (·.newAnnouncement? tenure.widget.id) tenure.later

/-- The companion node of the widget, as its history tells. -/
def companion? (tenure : Tenure) : Option Node :=
  if (classify tenure.widget.code).rule.hasCompanion then
    some
      { Node.selectionCompanion tenure.widget.id with
        value :=
          lastReported (·.newSelectedText? tenure.widget.id) tenure.later }
  else none

/-- The tenure after one more operation. -/
def extend (tenure : Tenure) (operation : Operation) : Tenure :=
  { tenure with later := tenure.later ++ [operation] }

end Tenure

/-! ## Tenures grow -/

theorem lastReported_concat
    {Value : Type}
    (reading : Notification → Option Value)
    (operations : List Operation)
    (operation : Operation) :
    lastReported reading (operations ++ [operation]) =
      (operation.notification?.bind reading <|>
        lastReported reading operations) := by
  unfold lastReported
  rw [List.filterMap_append]
  cases reported : operation.notification?.bind reading with
  | none => simp [reported]
  | some value => simp [reported]

theorem Operation.eq_add_of_offers
    {id : WidgetId}
    {operation : Operation}
    (offers : operation.offers id = true) :
    ∃ object widget, operation = .add object widget ∧
      widget.id = id ∧ widget.isAccessible = true := by
  cases operation with
  | add object widget =>
      have both : widget.id = id ∧ widget.isAccessible = true := by
        simpa [Operation.offers] using offers
      exact ⟨object, widget, rfl, both⟩
  | _ => exact absurd offers Bool.false_ne_true

/-- Nothing was offered, or an offer stands first. -/
theorem sinceOffer_cases (id : WidgetId) (operations : List Operation) :
    sinceOffer id operations = [] ∨
      ∃ object widget later,
        sinceOffer id operations = .add object widget :: later ∧
          widget.id = id ∧ widget.isAccessible = true := by
  cases since : sinceOffer id operations with
  | nil => exact Or.inl rfl
  | cons operation later =>
      have first := List.head?_dropWhile_not
        (fun operation => !operation.offers id)
        (operations.rtakeWhile fun operation => !operation.ends id)
      rw [← sinceOffer, since] at first
      obtain ⟨object, widget, rfl, same, accessible⟩ :=
        Operation.eq_add_of_offers (by simpa using first)
      exact Or.inr ⟨object, widget, later, rfl, same, accessible⟩

theorem sinceOffer_concat
    (id : WidgetId)
    (operations : List Operation)
    (operation : Operation) :
    sinceOffer id (operations ++ [operation]) =
      if operation.ends id then []
      else if (sinceOffer id operations).isEmpty then
        [operation].dropWhile fun operation => !operation.offers id
      else sinceOffer id operations ++ [operation] := by
  unfold sinceOffer
  rw [List.rtakeWhile_concat]
  cases ended : operation.ends id with
  | true => rfl
  | false => exact List.dropWhile_append

/-- The tenure of an id after one more operation: an operation that ends it
leaves none, any other extends it, and without one an offer starts one. -/
theorem tenure?_concat
    (id : WidgetId)
    (operations : List Operation)
    (operation : Operation) :
    tenure? id (operations ++ [operation]) =
      if operation.ends id then none
      else
        match tenure? id operations with
        | some tenure => some (tenure.extend operation)
        | none =>
            match operation with
            | .add object widget =>
                if widget.id = id ∧ widget.isAccessible = true then
                  some ⟨object, widget, []⟩
                else none
            | _ => none := by
  unfold tenure?
  rw [sinceOffer_concat]
  cases ended : operation.ends id with
  | true => rfl
  | false =>
      rcases sinceOffer_cases id operations with
        nothing | ⟨object, widget, later, since, _⟩
      · rw [nothing]
        cases operation with
        | add object widget =>
            by_cases offered : widget.id = id ∧ widget.isAccessible = true
            · simp [Operation.offers, List.dropWhile, offered]
            · have refused :
                  (Operation.add object widget).offers id = false := by
                simpa [Operation.offers] using offered
              simp [List.dropWhile, refused, offered]
        | _ => rfl
      · rw [since]
        rfl

-- The first add after the removal counts, and the add after it starts nothing.
example :
    tenure? ⟨5⟩
        [.add ⟨0⟩ { id := ⟨5⟩, name := "Save", code := 4 }, .remove ⟨5⟩,
          .add ⟨1⟩ { id := ⟨5⟩, name := "Open", code := 4 },
          .add ⟨2⟩ { id := ⟨5⟩, name := "Close", code := 4 }] =
      some
        { object := ⟨1⟩
          widget := { id := ⟨5⟩, name := "Open", code := 4 }
          later := [.add ⟨2⟩ { id := ⟨5⟩, name := "Close", code := 4 }] } := by
  decide

/-- The tenure of an id belongs to an accessible widget with that id. -/
theorem tenure?_widget
    {id : WidgetId}
    {operations : List Operation}
    {tenure : Tenure}
    (serving : tenure? id operations = some tenure) :
    tenure.widget.id = id ∧ tenure.widget.isAccessible = true := by
  unfold tenure? at serving
  rcases sinceOffer_cases id operations with
    nothing | ⟨object, widget, later, since, same, accessible⟩
  · rw [nothing] at serving
    cases serving
  · rw [since] at serving
    obtain rfl := Option.some.inj serving
    exact ⟨same, accessible⟩

/-- While nothing ends it, a tenure goes on. -/
theorem tenure?_append
    {id : WidgetId}
    {operations : List Operation}
    {tenure : Tenure}
    (serving : tenure? id operations = some tenure)
    (later : List Operation)
    (unended : ∀ operation ∈ later, operation.ends id = false) :
    tenure? id (operations ++ later) =
      some { tenure with later := tenure.later ++ later } := by
  induction later using List.reverseRecOn with
  | nil => simpa using serving
  | append_singleton later operation inductionHypothesis =>
      have stillUnended : ∀ operation ∈ later, operation.ends id = false :=
        fun operation member =>
          unended operation (List.mem_append_left _ member)
      have lastUnended : operation.ends id = false :=
        unended operation (List.mem_append_right _ List.mem_cons_self)
      rw [← List.append_assoc, tenure?_concat,
        inductionHypothesis stillUnended, lastUnended]
      simp [Tenure.extend]

namespace Tenure

/-! ## Nodes of a tenure -/

/-- A tenure starts with the nodes that the effective add attaches. -/
theorem primary_start (object : WidgetRef) (widget : Widget) :
    (Tenure.mk object widget []).primary = primaryNode widget := by
  cases rule : (classify widget.code).rule <;>
    simp [primary, primaryNode, lastReported, rule,
      ConstructionRule.hasCompanion]

theorem companion?_start (object : WidgetRef) (widget : Widget) :
    (Tenure.mk object widget []).companion? = companionNode? widget := rfl

/-- Notifications change the primary node of a tenure, and nothing else
does. -/
theorem primary_extend (tenure : Tenure) (operation : Operation) :
    (tenure.extend operation).primary =
      match operation.notification? with
      | some notification =>
          tenure.primary.notified tenure.widget.id notification
      | none => tenure.primary := by
  cases notified : operation.notification? with
  | none =>
      simp only [primary, extend, lastReported_concat, notified,
        Option.bind_none]
      rfl
  | some notification =>
      have fallback (first second : Option String) (last : String) :
          (first <|> second).getD last = first.getD (second.getD last) := by
        cases first <;> rfl
      simp only [primary, extend, lastReported_concat, notified,
        Option.bind_some, Node.notified, fallback]
      rfl

theorem companion?_extend (tenure : Tenure) (operation : Operation) :
    (tenure.extend operation).companion? =
      match operation.notification? with
      | some notification =>
          tenure.companion?.map
            (·.selectionNotified tenure.widget.id notification)
      | none => tenure.companion? := by
  cases notified : operation.notification? with
  | none =>
      simp only [companion?, extend, lastReported_concat, notified,
        Option.bind_none]
      rfl
  | some notification =>
      simp only [companion?, extend, lastReported_concat, notified,
        Option.bind_some, Node.selectionNotified]
      cases (classify tenure.widget.code).rule.hasCompanion <;> rfl

end Tenure

end Bridge
end AssistiveTree
