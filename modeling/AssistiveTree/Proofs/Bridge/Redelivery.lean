import AssistiveTree.Proofs.Bridge.Contents
import AssistiveTree.Proofs.Bridge.Insertion

/-!
# Repeated deliveries

Notifications about the life of a widget may arrive more than once, or for a
widget that takes no part in the tree. Adding what is registered or stays out of
the tree, removing what is not registered, and shutting down what is empty leave
the whole bridge as it is. So they may be inserted anywhere in a run.
-/

namespace AssistiveTree

/-- Detaching every node of an empty tree changes nothing. -/
theorem Tree.Sound.detachAll_of_empty
    {tree : Tree}
    (sound : tree.Sound)
    (tidy : tree.Tidy)
    (empty : tree.nodes.keys = []) :
    tree.detachAll.tree = tree := by
  have children : tree.root.children = [] := sound.children.trans empty
  have nodes : tree.nodes = .empty := Table.eq_empty_of_keys empty
  have nodeIds : tree.nodeIds = .empty :=
    Table.eq_empty_of_keys (sound.aligned.trans empty)
  have keys : tree.keys = .empty := tidy.keys_eq_empty nodeIds
  rw [Tree.detachAll, ← children, ← nodes, ← nodeIds, ← keys]

/-- Pointing the root where it points already changes nothing. -/
theorem Tree.setActiveDescendant_of_eq
    {tree : Tree}
    {focus : Option WidgetId}
    (same : tree.root.activeDescendant = focus) :
    tree.setActiveDescendant focus = tree := by
  rw [← same]
  rfl

namespace Bridge

/-- Whether an operation about the life of widgets finds nothing to do. -/
def Operation.isRedundant (bridge : Bridge) : Operation → Bool
  | .add _ widget => bridge.isRegistered widget.id || !widget.isAccessible
  | .remove id => !bridge.isRegistered id
  | .shutdown => bridge.registry.isEmpty && bridge.focus.isNone
  | _ => false

/-- What holds of every reachable bridge and makes an empty registry leave
nothing behind: the tree has no more nodes than the registry knows, the root has
no focus of its own, and no node id outlives its node. -/
structure Orderly (bridge : Bridge) : Prop where
  holds : ∃ holdings, bridge.Holds holdings
  focused : bridge.Focused
  tidy : bridge.tree.Tidy

theorem Orderly.new (config : Config) : (new config).Orderly where
  holds := ⟨[], Holds.new config⟩
  focused := rfl
  tidy := Tree.tidy_new config.rootId config.rootLabel

theorem Orderly.perform
    {bridge : Bridge}
    (orderly : bridge.Orderly)
    (operation : Operation) :
    (bridge.perform operation).bridge.Orderly where
  holds := by
    obtain ⟨holdings, holds⟩ := orderly.holds
    exact ⟨_, holds.perform operation⟩
  focused := orderly.focused.perform operation
  tidy := by
    obtain ⟨holdings, holds⟩ := orderly.holds
    obtain ⟨edits, tree, _⟩ := bridge.perform_edits operation
    rw [tree]
    exact orderly.tidy.editAll holds.sound edits

/-- Without registered widgets there is no node. -/
theorem Holds.keys_eq_nil
    {bridge : Bridge}
    {holdings : List Holding}
    (holds : bridge.Holds holdings)
    (unregistered : bridge.registry.isEmpty = true) :
    bridge.tree.nodes.keys = [] := by
  have empty : holdings = [] := by
    have entries : bridge.registry.entries.entries = [] :=
      List.isEmpty_iff.mp unregistered
    rw [holds.registry] at entries
    exact List.map_eq_nil_iff.mp entries
  rw [holds.keys, empty]
  rfl

/-- Shutting down an empty bridge without focus changes nothing. -/
theorem Orderly.shutdown_of_empty
    {bridge : Bridge}
    (orderly : bridge.Orderly)
    (unregistered : bridge.registry.isEmpty = true)
    (unfocused : bridge.focus = none) :
    bridge.shutdown.bridge = bridge := by
  obtain ⟨holdings, holds⟩ := orderly.holds
  have empty := holds.keys_eq_nil unregistered
  have active : bridge.tree.root.activeDescendant = none :=
    orderly.focused.trans unfocused
  have tree : bridge.tree.detachAll.tree.setActiveDescendant none =
      bridge.tree := by
    rw [holds.sound.detachAll_of_empty orderly.tidy empty,
      Tree.setActiveDescendant_of_eq active]
  have registry : bridge.registry.clear = bridge.registry := by
    have entries : bridge.registry.entries.entries = [] :=
      List.isEmpty_iff.mp unregistered
    exact congrArg (fun list => Registry.mk ⟨list⟩) entries.symm
  change { bridge with
    registry := bridge.registry.clear
    tree := bridge.tree.detachAll.tree.setActiveDescendant none
    focus := none } = bridge
  rw [registry, tree, ← unfocused]

/-- A redundant operation changes nothing. -/
theorem Orderly.perform_of_isRedundant
    {bridge : Bridge}
    (orderly : bridge.Orderly)
    {operation : Operation}
    (redundant : operation.isRedundant bridge = true) :
    (bridge.perform operation).bridge = bridge := by
  cases operation with
  | add object widget =>
      have refused : ¬(widget.isAccessible = true ∧
          bridge.isRegistered widget.id = false) := by
        rintro ⟨accessible, unregistered⟩
        simp [Operation.isRedundant, accessible, unregistered] at redundant
      exact add_of_refused refused object
  | remove id =>
      have unregistered : bridge.isRegistered id = false := by
        simpa [Operation.isRedundant] using redundant
      exact remove_of_unregistered unregistered
  | shutdown =>
      simp only [Operation.isRedundant, Bool.and_eq_true,
        Option.isNone_iff_eq_none] at redundant
      exact orderly.shutdown_of_empty redundant.1 redundant.2
  | _ => cases redundant

/-- A redundant operation calls nobody. -/
theorem calls_of_isRedundant
    {bridge : Bridge}
    {operation : Operation}
    (redundant : operation.isRedundant bridge = true) :
    (bridge.perform operation).calls = [] := by
  rw [calls_perform]
  cases operation with
  | notify notification => cases redundant
  | _ => rfl

/-- Redundant operations drop out of every run from an orderly bridge. -/
theorem Orderly.run_all
    {bridge : Bridge}
    (orderly : bridge.Orderly)
    {steps : List Step}
    (redundant : bridge.insertsOnly
      (fun bridge operation => operation.isRedundant bridge) steps = true) :
    (bridge.run (Step.all steps)).bridge =
        (bridge.run (Step.common steps)).bridge ∧
      (bridge.run (Step.all steps)).calls =
        (bridge.run (Step.common steps)).calls ∧
      bridge.commonResponses steps =
        bridge.responses (Step.common steps) := by
  induction steps generalizing bridge with
  | nil => exact ⟨rfl, rfl, rfl⟩
  | cons step steps inductionHypothesis =>
      cases step with
      | own operation =>
          obtain ⟨same, calls, responses⟩ :=
            inductionHypothesis (orderly.perform operation) redundant
          change (bridge.run (operation :: Step.all steps)).bridge =
              (bridge.run (operation :: Step.common steps)).bridge ∧
            (bridge.run (operation :: Step.all steps)).calls =
              (bridge.run (operation :: Step.common steps)).calls ∧ _
          rw [run_cons, run_cons]
          refine ⟨same, ?_, ?_⟩
          · exact congrArg ((bridge.perform operation).calls ++ ·) calls
          · exact congrArg (bridge.respond operation :: ·) responses
      | inserted operation =>
          obtain ⟨idle, rest⟩ := Bool.and_eq_true_iff.mp redundant
          have unchanged := orderly.perform_of_isRedundant idle
          have silent := calls_of_isRedundant idle
          rw [unchanged] at rest
          obtain ⟨same, calls, responses⟩ := inductionHypothesis orderly rest
          change (bridge.run (operation :: Step.all steps)).bridge =
              (bridge.run (Step.common steps)).bridge ∧
            (bridge.run (operation :: Step.all steps)).calls =
              (bridge.run (Step.common steps)).calls ∧ _
          rw [run_cons]
          simp only [Outcome.followedBy, silent, unchanged, commonResponses,
            List.nil_append]
          exact ⟨same, calls, responses⟩

/-- Lifecycle notifications may be delivered again. Whatever redundant adds,
removals and shutdowns are inserted into a run, wherever they are redundant, the
bridge ends up the same down to the counter of node ids and the subscribers. On
the way every other operation finds the bridge as it would have found it: its
export, its answer, its calls and the bridge that it leaves are the same. -/
theorem run_redelivered
    (config : Config)
    (steps : List Step)
    (redundant : (new config).insertsOnly
      (fun bridge operation => operation.isRedundant bridge) steps = true) :
    ((new config).run (Step.all steps)).bridge =
        ((new config).run (Step.common steps)).bridge ∧
      ((new config).run (Step.all steps)).calls =
        ((new config).run (Step.common steps)).calls ∧
      (new config).commonResponses steps =
        (new config).responses (Step.common steps) :=
  (Orderly.new config).run_all redundant

/-- A text field is offered again under another shape, a hidden widget is
offered, an unknown one is removed, and the empty bridge is shut down before and
after. The button that comes last gets the node id that it gets without all
this. -/
theorem run_redelivered_textField :
    (new {}).insertsOnly
        (fun bridge operation => operation.isRedundant bridge)
        [.inserted .shutdown,
          .own (.add ⟨0⟩ { id := ⟨5⟩, name := "Search", code := 17 }),
          .inserted (.add ⟨1⟩ { id := ⟨5⟩, name := "Other", code := 4 }),
          .inserted (.add ⟨2⟩ { id := ⟨6⟩, name := "Hidden", code := -1 }),
          .inserted (.remove ⟨6⟩),
          .own (.remove ⟨5⟩),
          .inserted .shutdown,
          .own (.add ⟨1⟩ { id := ⟨5⟩, name := "Other", code := 4 })] = true ∧
      ((new {}).run
          [.shutdown,
            .add ⟨0⟩ { id := ⟨5⟩, name := "Search", code := 17 },
            .add ⟨1⟩ { id := ⟨5⟩, name := "Other", code := 4 },
            .add ⟨2⟩ { id := ⟨6⟩, name := "Hidden", code := -1 },
            .remove ⟨6⟩,
            .remove ⟨5⟩,
            .shutdown,
            .add ⟨1⟩ { id := ⟨5⟩, name := "Other", code := 4 }]).bridge =
        ((new {}).run
          [.add ⟨0⟩ { id := ⟨5⟩, name := "Search", code := 17 },
            .remove ⟨5⟩,
            .add ⟨1⟩ { id := ⟨5⟩, name := "Other", code := 4 }]).bridge := by
  refine ⟨by decide, ?_⟩
  exact (run_redelivered {}
    [.inserted .shutdown,
      .own (.add ⟨0⟩ { id := ⟨5⟩, name := "Search", code := 17 }),
      .inserted (.add ⟨1⟩ { id := ⟨5⟩, name := "Other", code := 4 }),
      .inserted (.add ⟨2⟩ { id := ⟨6⟩, name := "Hidden", code := -1 }),
      .inserted (.remove ⟨6⟩),
      .own (.remove ⟨5⟩),
      .inserted .shutdown,
      .own (.add ⟨1⟩ { id := ⟨5⟩, name := "Other", code := 4 })]
    (by decide)).1

end Bridge
end AssistiveTree
