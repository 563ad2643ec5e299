import AssistiveTree.Proofs.Bridge.Export
import Mathlib.Data.List.Induction

/-!
# What a builder collects

A built node depends on the start of its builder and, for each method, on the
calls of that method alone. Children add up in the order of the calls, actions
add up to a set, and of every other method the last call counts. So calls of
different methods can change places.
-/

namespace AssistiveTree

/-- Every action is listed. -/
theorem Action.mem_all (action : Action) : action ∈ all := by
  cases action <;> decide

namespace NodeBuilder

variable {Vocabulary : Type}

/-- What a builder starts from: any role of the platform's vocabulary, or a node
of the bridge. -/
inductive Start (Vocabulary : Type)
  | ofRole (role : Vocabulary)
  | ofNode (source : Node)
  deriving DecidableEq

/-- The builder before any call, in a vocabulary that has the bridge's roles. -/
def Start.builder
    (named : PlatformRole → Vocabulary) :
    Start Vocabulary → NodeBuilder Vocabulary
  | .ofRole role => .new role
  | .ofNode source => .ofNodeIn named source

/-- The methods of a builder. -/
inductive Method
  | label
  | description
  | action
  | children
  | activeDescendant
  | labelledBy
  | radioGroup
  deriving DecidableEq

namespace Call

/-- The method that is called. -/
def method : Call → Method
  | .label _ => .label
  | .description _ => .description
  | .action _ => .action
  | .children _ => .children
  | .activeDescendant _ => .activeDescendant
  | .labelledBy _ => .labelledBy
  | .radioGroup _ => .radioGroup

/-- The calls of one method, in order. -/
def ofMethod (calls : List Call) (method : Method) : List Call :=
  calls.filter fun call => call.method = method

/-- The calls of every method are the same and in the same order. -/
def Reordered (calls others : List Call) : Prop :=
  ∀ method, ofMethod calls method = ofMethod others method

end Call

/-- A value that the calls of one method have. -/
structure Reading (Value : Type) where
  method : Method
  value? : Call → Option Value
  elsewhere : ∀ call, call.method ≠ method → value? call = none := by
    intro call other
    cases call <;> first | rfl | exact absurd rfl other

namespace Reading

/-- The label that calls set. -/
def label : Reading (Option String) where
  method := .label
  value?
    | .label text => some (some text)
    | _ => none

/-- The description that calls set. -/
def description : Reading (Option String) where
  method := .description
  value?
    | .description text => some (some text)
    | _ => none

/-- The action that calls add. -/
def action : Reading Action where
  method := .action
  value?
    | .action action => some action
    | _ => none

/-- The children that calls add. -/
def children : Reading (List NodeId) where
  method := .children
  value?
    | .children ids => some ids
    | _ => none

/-- The active descendant that calls set. -/
def activeDescendant : Reading (Option NodeId) where
  method := .activeDescendant
  value?
    | .activeDescendant id => some (some id)
    | _ => none

/-- The labelling nodes that calls set. -/
def labelledBy : Reading (List NodeId) where
  method := .labelledBy
  value?
    | .labelledBy id => some [id]
    | _ => none

/-- The radio group that calls set. -/
def radioGroup : Reading (List NodeId) where
  method := .radioGroup
  value?
    | .radioGroup ids => some ids
    | _ => none

variable {Value : Type}

/-- The values that calls have, in order. -/
def values (reading : Reading Value) (calls : List Call) : List Value :=
  calls.filterMap reading.value?

/-- The last value that calls have, or else the value at the start. -/
def latest
    (reading : Reading Value)
    (calls : List Call)
    (start : Value) : Value :=
  (reading.values calls).getLastD start

theorem values_concat
    (reading : Reading Value)
    (calls : List Call)
    (call : Call) :
    reading.values (calls ++ [call]) =
      reading.values calls ++ (reading.value? call).toList := by
  rw [values, List.filterMap_append, ← values]
  cases has : reading.value? call <;> simp [has]

/-- A call of another method has no value. -/
theorem values_elsewhere
    (reading : Reading Value)
    {call : Call}
    (other : call.method ≠ reading.method)
    (calls : List Call) :
    reading.values (calls ++ [call]) = reading.values calls := by
  rw [values_concat, reading.elsewhere call other]
  exact List.append_nil _

theorem latest_concat
    (reading : Reading Value)
    (calls : List Call)
    (call : Call)
    (start : Value) :
    reading.latest (calls ++ [call]) start =
      (reading.value? call).getD (reading.latest calls start) := by
  rw [latest, values_concat]
  cases reading.value? call <;> simp [latest]

/-- The calls of other methods do not matter. -/
theorem values_ofMethod (reading : Reading Value) (calls : List Call) :
    reading.values (Call.ofMethod calls reading.method) =
      reading.values calls := by
  rw [values, Call.ofMethod, List.filterMap_filter]
  refine List.filterMap_congr fun call _ => ?_
  by_cases same : call.method = reading.method
  · simp [same]
  · simp [same, reading.elsewhere call same]

/-- It does not matter how calls of different methods are mixed. -/
theorem values_of_reordered
    {calls others : List Call}
    (reordered : Call.Reordered calls others)
    (reading : Reading Value) :
    reading.values calls = reading.values others := by
  rw [← values_ofMethod, reordered, values_ofMethod]

/-- Every call of the method that adds children adds to the end. -/
theorem flatten_values_children_concat (calls : List Call) (call : Call) :
    (children.values (calls ++ [call])).flatten =
      match call with
      | .children ids => (children.values calls).flatten ++ ids
      | _ => (children.values calls).flatten := by
  cases call with
  | children ids =>
      rw [values_concat, List.flatten_append]
      exact congrArg _ (List.append_nil ids)
  | _ =>
      rw [values_elsewhere]
      nofun

theorem mem_values_action {calls : List Call} {added : Action} :
    added ∈ action.values calls ↔ .action added ∈ calls := by
  simp only [values, List.mem_filterMap]
  constructor
  · rintro ⟨call, member, has⟩
    cases call with
    | action other =>
        obtain rfl := Option.some.inj has
        exact member
    | _ => cases has
  · intro member
    exact ⟨_, member, rfl⟩

end Reading

/-- The actions at the start and those that calls add, in their order. -/
def actionsAfter (start : List Action) (calls : List Call) : List Action :=
  Action.all.filter fun action =>
    action ∈ start ∨ action ∈ Reading.action.values calls

theorem mem_actionsAfter
    {start : List Action}
    {calls : List Call}
    {action : Action} :
    action ∈ actionsAfter start calls ↔
      action ∈ start ∨ .action action ∈ calls := by
  simp [actionsAfter, Action.mem_all, Reading.mem_values_action]

theorem actionsAfter_concat
    (start : List Action)
    (calls : List Call)
    (call : Call) :
    actionsAfter start (calls ++ [call]) =
      match call with
      | .action added => Action.all.filter fun other =>
          other = added ∨ other ∈ actionsAfter start calls
      | _ => actionsAfter start calls := by
  cases call with
  | action added =>
      refine List.filter_congr fun other _ => decide_eq_decide.mpr ?_
      rw [mem_actionsAfter, Reading.mem_values_action, List.mem_append,
        List.mem_singleton, Call.action.injEq]
      tauto
  | _ =>
      rw [actionsAfter, Reading.action.values_elsewhere]
      · rfl
      · nofun

/-- A node without children, after calls of a builder. -/
def collected
    (start : ExportNode Vocabulary)
    (calls : List Call) : ExportNode Vocabulary :=
  { start with
    label := Reading.label.latest calls start.label
    description := Reading.description.latest calls start.description
    activeDescendant :=
      Reading.activeDescendant.latest calls start.activeDescendant
    actions := actionsAfter start.actions calls
    children := (Reading.children.values calls).flatten
    labelledBy := Reading.labelledBy.latest calls start.labelledBy
    radioGroup := Reading.radioGroup.latest calls start.radioGroup }

theorem collected_of_reordered
    {calls others : List Call}
    (reordered : Call.Reordered calls others)
    (start : ExportNode Vocabulary) :
    collected start calls = collected start others := by
  simp only [collected, actionsAfter, Reading.latest,
    Reading.values_of_reordered reordered]

/-- The builder that holds what calls add to a node without children. -/
def holding
    (start : ExportNode Vocabulary)
    (calls : List Call) : NodeBuilder Vocabulary where
  node := { collected start calls with children := [] }
  children := (Reading.children.values calls).flatten

/-- From either start, a builder has a node without children, and its actions
are in order. -/
theorem Start.builder_eq
    (named : PlatformRole → Vocabulary)
    (start : Start Vocabulary) :
    start.builder named = holding (start.builder named).node [] := by
  cases start with
  | ofRole role => rfl
  | ofNode source =>
      rw [builder, Bridge.ofNodeIn_eq]
      cases source.isActivatable <;> rfl

theorem performAll_concat
    (builder : NodeBuilder Vocabulary)
    (calls : List Call)
    (call : Call) :
    builder.performAll (calls ++ [call]) =
      (builder.performAll calls).perform call := by
  simp only [performAll, List.foldl_append, List.foldl_cons, List.foldl_nil]

/-- One more call changes what its own method collects, and nothing else. -/
theorem perform_holding
    (start : ExportNode Vocabulary)
    (calls : List Call)
    (call : Call) :
    (holding start calls).perform call = holding start (calls ++ [call]) := by
  rw [holding, holding, collected, collected]
  simp only [Reading.latest_concat, Reading.flatten_values_children_concat,
    actionsAfter_concat]
  cases call <;> rfl

theorem performAll_holding
    (start : ExportNode Vocabulary)
    (calls : List Call) :
    (holding start []).performAll calls = holding start calls := by
  induction calls using List.reverseRecOn with
  | nil => rfl
  | append_singleton calls call inductionHypothesis =>
      rw [performAll_concat, inductionHypothesis, perform_holding]

theorem build_holding
    (start : ExportNode Vocabulary)
    (calls : List Call) :
    (holding start calls).build = collected start calls :=
  Bridge.build_eq rfl

/-- Without any call, the built node is the node at the start. -/
theorem Start.build_builder
    (named : PlatformRole → Vocabulary)
    (start : Start Vocabulary) :
    (start.builder named).build = (start.builder named).node :=
  if_pos (congrArg NodeBuilder.children (start.builder_eq named))

/-- Whatever a builder starts from, in whatever vocabulary, the built node is
the one without any call, with all children and actions that calls add and with
the last value that the calls of every other method set. Calls of different
methods can be mixed in any way. -/
theorem build_performAll
    (named : PlatformRole → Vocabulary)
    (start : Start Vocabulary)
    (calls : List Call) :
    ((start.builder named).performAll calls).build =
        collected (start.builder named).build calls ∧
      (∀ action,
        action ∈ ((start.builder named).performAll calls).build.actions ↔
          action ∈ (start.builder named).build.actions ∨
            .action action ∈ calls) ∧
      ∀ others, Call.Reordered calls others →
        ((start.builder named).performAll others).build =
          ((start.builder named).performAll calls).build := by
  have built (calls : List Call) :
      ((start.builder named).performAll calls).build =
        collected (start.builder named).build calls := by
    have held := congrArg (performAll · calls) (start.builder_eq named)
    rw [start.build_builder, held, performAll_holding, build_holding]
  refine ⟨built calls, fun action => ?_, fun others reordered => ?_⟩
  · rw [built]
    exact mem_actionsAfter
  · rw [built, built, collected_of_reordered reordered]

/-- A radio button, and a node with a role that the bridge never assigns, are
labelled twice and get children twice. -/
theorem build_performAll_mixed :
    Call.Reordered
        [.label "a", .children [⟨1⟩], .label "b", .action .focus,
          .children [⟨2⟩]]
        [.children [⟨1⟩], .action .focus, .label "a", .children [⟨2⟩],
          .label "b"] ∧
      (((Start.ofNode
          { role := .radio
            label := "Size"
            activation := some .toggle }).builder id).performAll
          [.children [⟨1⟩], .action .focus, .label "a", .children [⟨2⟩],
            .label "b"]).build =
        { role := .radioButton
          label := some "b"
          actions := [.click, .focus]
          children := [⟨1⟩, ⟨2⟩] } ∧
      (((Start.ofRole "Slider").builder PlatformRole.name).performAll
          [.children [⟨1⟩], .action .focus, .label "a", .children [⟨2⟩],
            .label "b"]).build =
        { role := "Slider"
          label := some "b"
          actions := [.focus]
          children := [⟨1⟩, ⟨2⟩] } := by
  have reordered : Call.Reordered
      [.label "a", .children [⟨1⟩], .label "b", .action .focus,
        .children [⟨2⟩]]
      [.children [⟨1⟩], .action .focus, .label "a", .children [⟨2⟩],
        .label "b"] := by
    intro method
    cases method <;> rfl
  refine ⟨reordered, ?_, ?_⟩
  · rw [(build_performAll _ _ _).2.2 _ reordered]
    decide
  · rw [(build_performAll _ _ _).2.2 _ reordered]
    decide

end NodeBuilder
end AssistiveTree
