import AssistiveTree.Proofs.Bridge.Restart
import AssistiveTree.Proofs.Bridge.Subscribers

/-!
# Selections

Every subscriber to selections is called once about every selection, in the
order of the subscriptions, with the kind of the selection and the selection
itself. It does not matter whether the selection has a control, and whether the
bridge knows that control. The bridge changes only where the text of a text
field is repeated by the field's companion.
-/

namespace AssistiveTree

/-- The text field that a selection is in, with the selected text. -/
def Selection.inField? : Selection → Option (WidgetId × String)
  | .textField selection => selection.control.map fun id => (id, selection.text)
  | _ => none

namespace Bridge

/-- The selection that an operation reports. -/
def Operation.selection? : Operation → Option Selection
  | .notify (.selectionChanged selection) => some selection
  | _ => none

/-- A widget is registered, and has a companion that can repeat its text. -/
def HasCompanion (bridge : Bridge) (id : WidgetId) : Prop :=
  bridge.isRegistered id = true ∧
    bridge.tree.contains (.selection id) = true

/-- The companion of a text field shows another text, and everything else that
the bridge knows is as before. -/
structure Repeats
    (before : Bridge)
    (id : WidgetId)
    (text : String)
    (after : Bridge) : Prop where
  companion : ∃ node,
    before.node? (.selection id) = some node ∧
      after.node? (.selection id) = some { node with value := some text }
  others : ∀ key, key ≠ .selection id → after.node? key = before.node? key
  nodeIds : after.tree.nodeIds = before.tree.nodeIds
  keys : after.tree.keys = before.tree.keys
  /-- The nodes stand in the same order. -/
  order : after.tree.nodes.keys = before.tree.nodes.keys
  /-- The root holds the order of its children and the active descendant. -/
  root : after.tree.root = before.tree.root
  counter : after.tree.counter = before.tree.counter
  registry : after.registry = before.registry
  focus : after.focus = before.focus
  config : after.config = before.config
  hooks : SameHooks before after

/-- What becomes of a selection, given who subscribed to selections. -/
structure Selects
    (bridge : Bridge)
    (subscribers : List Subscriber)
    (selection : Selection) : Prop where
  /-- Nobody else is called. -/
  calls : (bridge.notify (.selectionChanged selection)).calls =
    subscribers.map fun subscriber =>
      .selection subscriber selection.kind selection
  repeated : ∀ id text, selection.inField? = some (id, text) →
    bridge.HasCompanion id →
    bridge.Repeats id text
      (bridge.notify (.selectionChanged selection)).bridge
  unchanged : (∀ id text, selection.inField? = some (id, text) →
      ¬bridge.HasCompanion id) →
    (bridge.notify (.selectionChanged selection)).bridge = bridge

/-- The route taken is the kind of the selection. -/
theorem calls_changeSelection (bridge : Bridge) (selection : Selection) :
    (bridge.changeSelection selection).calls =
      bridge.selectionHooks.map fun subscriber =>
        .selection subscriber selection.kind selection :=
  calls_notify bridge (.selectionChanged selection)

/-- A text field with a companion has its selected text repeated. -/
theorem repeats_changeSelection
    {bridge : Bridge}
    {selection : Selection}
    {id : WidgetId}
    {text : String}
    (inField : selection.inField? = some (id, text))
    (companion : bridge.HasCompanion id) :
    bridge.Repeats id text (bridge.changeSelection selection).bridge := by
  obtain ⟨registered, attached⟩ := companion
  obtain ⟨node, found⟩ := Option.isSome_iff_exists.mp attached
  cases selection with
  | textField selection =>
      obtain ⟨control, named, same⟩ := Option.map_eq_some_iff.mp inField
      obtain ⟨rfl, rfl⟩ := Prod.mk.inj same
      rw [changeSelection_bridge]
      simp only [repeatTextField, named, registered, attached, if_true]
      exact
        { companion := ⟨node, found,
            (bridge.tree.node?_modify_self _ _).trans
              (congrArg (Option.map _) found)⟩
          others := fun _ other => bridge.tree.node?_modify_of_ne other _
          nodeIds := rfl
          keys := rfl
          order := Table.keys_modify _ _ _
          root := rfl
          counter := rfl
          registry := rfl
          focus := rfl
          config := rfl
          hooks := ⟨rfl, rfl⟩ }
  | _ => cases inField

/-- Every other selection changes nothing. -/
theorem changeSelection_of_noCompanion
    {bridge : Bridge}
    {selection : Selection}
    (unheard : ∀ id text, selection.inField? = some (id, text) →
      ¬bridge.HasCompanion id) :
    (bridge.changeSelection selection).bridge = bridge := by
  rw [changeSelection_bridge]
  cases selection with
  | textField selection =>
      simp only [repeatTextField]
      cases named : selection.control with
      | none => rfl
      | some id =>
          have inField : (Selection.textField selection).inField? =
              some (id, selection.text) := by
            rw [Selection.inField?, named, Option.map_some]
          have bare := unheard id selection.text inField
          simp only
          split
          · next registered =>
            split
            · next attached => exact absurd ⟨registered, attached⟩ bare
            · rfl
          · rfl
  | _ => rfl

theorem selects (bridge : Bridge) (selection : Selection) :
    bridge.Selects bridge.selectionHooks selection where
  calls := bridge.calls_changeSelection selection
  repeated := fun _ _ => repeats_changeSelection
  unchanged := changeSelection_of_noCompanion

/-! ## Runs -/

/-- Subscribers to selections are told of every selection and of nothing
else. -/
theorem told?_selections (bridge : Bridge) (operation : Operation) :
    bridge.told? operation .selections =
      operation.selection?.map fun selection subscriber =>
        .selection subscriber selection.kind selection := by
  cases operation with
  | notify notification =>
      cases notification with
      | textChanged control => cases control <;> rfl
      | structureChanged hierarchy id change => cases change <;> rfl
      | _ => rfl
  | _ => rfl

/-- Whoever has a place among the subscribers to selections hears of every
selection of a run. -/
theorem heard_selections
    {bridge : Bridge}
    {place : Nat}
    {subscriber : Subscriber}
    (taken : (bridge.hooks .selections)[place]? = some subscriber)
    (operations : List Operation) :
    bridge.heard operations .selections place =
      (operations.filterMap Operation.selection?).map fun selection =>
        .selection subscriber selection.kind selection := by
  induction operations generalizing bridge with
  | nil => rfl
  | cons operation operations inductionHypothesis =>
      rw [heard_cons, callTo?_perform taken, told?_selections,
        inductionHypothesis (place_perform taken operation)]
      cases reported : operation.selection? <;> simp [reported]

/-- In every reachable bridge a selection calls whoever subscribed to selections
in the run, once each, and changes at most the companion of its text field. So
what a subscriber hears in a run is the list of the selections reported after it
subscribed. -/
theorem run_selects
    (config : Config)
    (operations : List Operation)
    (selection : Selection) :
    ((new config).run operations).bridge.Selects
        (operations.filterMap Operation.selectionSubscriber?) selection ∧
      ∀ subscriber later,
        (new config).heard (operations ++ .onSelection subscriber :: later)
            .selections
            (operations.filterMap Operation.selectionSubscriber?).length =
          (later.filterMap Operation.selection?).map fun reported =>
            .selection subscriber reported.kind reported := by
  have subscribed :
      ((new config).run operations).bridge.selectionHooks =
        operations.filterMap Operation.selectionSubscriber? :=
    run_hooks config operations .selections
  rw [← subscribed]
  refine ⟨selects _ selection, ?_⟩
  intro subscriber later
  have taken := ((new config).run operations).bridge.place_subscription
    .selections subscriber
  exact ((new config).heard_subscription operations later .selections
    subscriber).trans (heard_selections taken later)

-- The text field is not registered. Its selection is heard all the same, by
-- both subscribers to selections and by nobody else.
example :
    ((new {}).run
      [.onSelection ⟨"log"⟩, .onNotification ⟨"sound"⟩, .onSelection ⟨"log"⟩,
        .notify (.selectionChanged
          (.textField ⟨some ⟨9⟩, 0, 2, "no"⟩))]).calls =
      [.selection ⟨"log"⟩ .textField (.textField ⟨some ⟨9⟩, 0, 2, "no"⟩),
        .selection ⟨"log"⟩ .textField (.textField ⟨some ⟨9⟩, 0, 2, "no"⟩)] := by
  decide

end Bridge
end AssistiveTree
