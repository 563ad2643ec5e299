import AssistiveTree.Proofs.Bridge.History

/-!
# Who is admitted to the tree

A widget is kept out of the tree by its own answer. Only when it gives none does
its code decide. The code of widgets that stay out keeps a widget out unless the
widget says otherwise, and then the tree has a node for it, of a plain region.
-/

namespace AssistiveTree
namespace Widget

/-- The widget reports the code of widgets that stay out, and does not claim to
be accessible all the same. -/
def StaysOut (widget : Widget) : Prop :=
  widget.code = notAccessibleCode ∧ widget.accessible ≠ some true

/-- Whoever stays out is not accessible. -/
theorem StaysOut.isAccessible
    {widget : Widget}
    (staysOut : widget.StaysOut) :
    widget.isAccessible = false := by
  obtain ⟨code, unclaimed⟩ := staysOut
  cases answer : widget.accessible with
  | none => simp [Widget.isAccessible, answer, code]
  | some accessible =>
      cases accessible with
      | false => simp [Widget.isAccessible, answer]
      | true => exact absurd answer unclaimed

end Widget

namespace Bridge

/-- The effective add of a tenure is one of the operations. -/
theorem add_mem_of_tenure?
    {id : WidgetId}
    {operations : List Operation}
    {tenure : Tenure}
    (serving : tenure? id operations = some tenure) :
    .add tenure.object tenure.widget ∈ operations := by
  have within : sinceOffer id operations ⊆ operations :=
    ((List.dropWhile_suffix _).trans (List.rtakeWhile_suffix _ _)).subset
  unfold tenure? at serving
  split at serving
  · next object widget later since =>
      obtain rfl := Option.some.inj serving
      rw [since] at within
      exact within List.mem_cons_self
  · cases serving

/-- In every reachable bridge, whoever has a node was admitted by an add that
is still effective. -/
theorem run_tenure?_of_node?
    (config : Config)
    {operations : List Operation}
    {key : NodeKey}
    {node : Node}
    (attached : ((new config).run operations).bridge.node? key = some node) :
    ∃ tenure, tenure? key.owner operations = some tenure := by
  obtain ⟨holdings, holds, recalls⟩ := run_recalls config operations
  rw [← Option.isSome_iff_exists, ← recalls.isRegistered_eq holds]
  by_contra unregistered
  rw [holds.node?_eq_none (Bool.not_eq_true _ ▸ unregistered)] at attached
  cases attached

/-- An add of a widget that reports the code of widgets that stay out changes
nothing, and no node is ever built from such a widget, as long as no widget with
that code claims to be accessible. -/
theorem run_keepsOut
    (config : Config)
    {operations : List Operation}
    (unclaimed : ∀ object widget, .add object widget ∈ operations →
      widget.code = notAccessibleCode → widget.accessible ≠ some true) :
    (∀ object (widget : Widget), widget.StaysOut →
      (((new config).run operations).bridge.add object widget).bridge =
        ((new config).run operations).bridge) ∧
    ∀ key node, ((new config).run operations).bridge.node? key = some node →
      ∃ tenure, tenure? key.owner operations = some tenure ∧
        tenure.widget.code ≠ notAccessibleCode := by
  constructor
  · intro object widget staysOut
    simp [add, staysOut.isAccessible]
  · intro key node attached
    obtain ⟨tenure, serving⟩ := run_tenure?_of_node? config attached
    refine ⟨tenure, serving, fun code => ?_⟩
    have staysOut : tenure.widget.StaysOut :=
      ⟨code, unclaimed _ _ (add_mem_of_tenure? serving) code⟩
    have accessible := (tenure?_widget serving).2
    rw [staysOut.isAccessible] at accessible
    cases accessible

/-- A spacer is kept out, and the button beside it is not. -/
theorem run_keepsOut_spacer :
    (∀ object widget,
      .add object widget ∈
        [Operation.add ⟨0⟩ { id := ⟨1⟩, name := "Spacer", code := -1 },
          .add ⟨1⟩ { id := ⟨2⟩, name := "Open", code := 4 }] →
      widget.code = notAccessibleCode → widget.accessible ≠ some true) ∧
    ∃ tenure,
      tenure? ⟨2⟩
          [.add ⟨0⟩ { id := ⟨1⟩, name := "Spacer", code := -1 },
            .add ⟨1⟩ { id := ⟨2⟩, name := "Open", code := 4 }] =
        some tenure ∧
      tenure.widget.code ≠ notAccessibleCode := by
  have unclaimed : ∀ object widget,
      .add object widget ∈
        [Operation.add ⟨0⟩ { id := ⟨1⟩, name := "Spacer", code := -1 },
          .add ⟨1⟩ { id := ⟨2⟩, name := "Open", code := 4 }] →
      widget.code = notAccessibleCode → widget.accessible ≠ some true := by
    intro object widget member _
    simp only [List.mem_cons, List.not_mem_nil, or_false,
      Operation.add.injEq] at member
    obtain ⟨_, rfl⟩ | ⟨_, rfl⟩ := member <;> decide
  refine ⟨unclaimed, ?_⟩
  exact (run_keepsOut {} unclaimed).2 (.widget ⟨2⟩)
    (primaryNode { id := ⟨2⟩, name := "Open", code := 4 }) (by decide)

/-- A widget with the code of widgets that stay out gets a node when it claims
to be accessible. -/
theorem add_of_claimed :
    ¬ ∀ (config : Config) (operations : List Operation) (object : WidgetRef)
        (widget : Widget),
      widget.code = notAccessibleCode →
      (((new config).run operations).bridge.add object widget).bridge =
        ((new config).run operations).bridge := by
  intro keepsOut
  have unchanged := keepsOut {} [] ⟨0⟩
    { id := ⟨1⟩, name := "Spacer", code := -1, accessible := some true } rfl
  revert unchanged
  decide

end Bridge
end AssistiveTree
