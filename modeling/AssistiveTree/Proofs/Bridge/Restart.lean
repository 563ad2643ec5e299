import AssistiveTree.Proofs.Bridge.Renaming

/-!
# Restarts

A shutdown leaves nothing behind but the subscribers and the numbers that were
handed out. Whatever is done to the bridge afterwards has the effect that it has
on a new bridge with the same subscribers, node ids apart.
-/

namespace AssistiveTree
namespace Bridge

/-- Subscriptions do nothing but subscribe. -/
theorem run_subscriptions (config : Config) (operations : List Operation) :
    (new config).run (operations.filter (·.isSubscription)) =
      { bridge :=
          { new config with
            selectionHooks :=
              operations.filterMap Operation.selectionSubscriber?
            notificationHooks :=
              operations.filterMap Operation.notificationSubscriber? } } := by
  induction operations using List.reverseRecOn with
  | nil => rfl
  | append_singleton operations operation inductionHypothesis =>
      rw [List.filter_append, List.filterMap_append, List.filterMap_append]
      cases operation with
      | onSelection subscriber =>
          change (new config).run
            (operations.filter (·.isSubscription) ++ [.onSelection subscriber]) =
              _
          rw [run_concat, inductionHypothesis]
          simp [Outcome.followedBy, perform, onSelection,
            Operation.selectionSubscriber?, Operation.notificationSubscriber?]
      | onNotification subscriber =>
          change (new config).run
            (operations.filter (·.isSubscription) ++
              [.onNotification subscriber]) = _
          rw [run_concat, inductionHypothesis]
          simp [Outcome.followedBy, perform, onNotification,
            Operation.selectionSubscriber?, Operation.notificationSubscriber?]
      | _ =>
          simp only [List.filter_singleton, Operation.isSubscription, cond_false,
            List.append_nil, List.filterMap_cons, List.filterMap_nil,
            Operation.selectionSubscriber?, Operation.notificationSubscriber?]
          exact inductionHypothesis

/-- A bridge that was shut down is like a new one with the same
subscribers. -/
theorem alike_shutdown (config : Config) (operations : List Operation) :
    ((new config).run (operations.filter (·.isSubscription))).bridge.Alike
      ((new config).run (operations ++ [.shutdown])).bridge where
  contents := by
    have emptied : ((new config).run
        (operations ++ [.shutdown])).bridge.HasContents [] := by
      rw [run_concat]
      exact ⟨[], Holds.shutdown _, rfl⟩
    have empty : ((new config).run
        (operations.filter (·.isSubscription))).bridge.HasContents [] := by
      obtain ⟨distinct, registry, slots, children, shaped⟩ := Holds.new config
      rw [run_subscriptions]
      exact ⟨[], ⟨distinct, registry, slots, children, shaped⟩, rfl⟩
    exact ⟨[], empty, emptied⟩
  label := by
    rw [(run_root config _).2, (run_root config _).2]
  focus := by
    rw [run_subscriptions, run_concat]
    rfl
  firstFocused := run_focused config _
  secondFocused := run_focused config _
  hooks := by
    rw [run_subscriptions, sameHooks_iff]
    intro channel
    rw [run_hooks, List.filterMap_append]
    cases channel <;> exact List.append_nil _

/-- What is done after a shutdown makes the bridge like one that was never used
before but for the subscriptions. It makes the same calls, and the new bridge
attaches no more nodes. -/
theorem alike_after_shutdown (config : Config) (earlier later : List Operation) :
    ((new config).run
        (earlier.filter (·.isSubscription) ++ later)).bridge.Alike
        ((new config).run (earlier ++ .shutdown :: later)).bridge ∧
      ((new config).run (earlier ++ .shutdown :: later)).calls =
        ((new config).run earlier).calls ++
          ((new config).run
            (earlier.filter (·.isSubscription) ++ later)).calls ∧
      Journal.attachments ((new config).run
          (earlier.filter (·.isSubscription) ++ later)).journal ≤
        Journal.attachments
          ((new config).run (earlier ++ .shutdown :: later)).journal := by
  obtain ⟨alike, calls, attachments⟩ :=
    (alike_shutdown config earlier).run later
  have restarted : (new config).run (earlier ++ .shutdown :: later) =
      ((new config).run (earlier ++ [.shutdown])).followedBy
        (·.run later) := by
    rw [List.append_cons, run_append]
  have quiet : Journal.attachments ((new config).run
      (earlier.filter (·.isSubscription))).journal = 0 := by
    rw [run_subscriptions]
    rfl
  have silent : ((new config).run
      (earlier.filter (·.isSubscription))).calls = [] := by
    rw [run_subscriptions]
  have shutdownCalls : ((new config).run (earlier ++ [.shutdown])).calls =
      ((new config).run earlier).calls := by
    rw [run_concat]
    exact List.append_nil _
  rw [restarted, run_append]
  refine ⟨alike, ?_, ?_⟩
  · simp only [Outcome.followedBy, calls, silent, shutdownCalls,
      List.nil_append]
  · simp only [Outcome.followedBy, Journal.attachments_append, quiet]
    omega

/-- A shutdown is a restart: whatever is done after it, the bridge agrees with a
new bridge on which only the earlier subscriptions were made before, it makes
the same calls, and renaming node ids leads from the exports and answers of the
new bridge to its own. The root keeps its id. -/
theorem run_shutdown_restarts
    (config : Config)
    (earlier later : List Operation)
    (room : Journal.attachments
      ((new config).run (earlier ++ .shutdown :: later)).journal ≤
        Tree.attachmentLimit) :
    ((new config).run
        (earlier.filter (·.isSubscription) ++ later)).bridge.Agrees
        ((new config).run (earlier ++ .shutdown :: later)).bridge ∧
      ((new config).run (earlier ++ .shutdown :: later)).calls =
        ((new config).run earlier).calls ++
          ((new config).run
            (earlier.filter (·.isSubscription) ++ later)).calls ∧
      ∃ names, names config.rootId = config.rootId ∧
        Renames names
          ((new config).run
            (earlier.filter (·.isSubscription) ++ later)).bridge
          ((new config).run (earlier ++ .shutdown :: later)).bridge := by
  obtain ⟨alike, calls, fewer⟩ := alike_after_shutdown config earlier later
  have numbered := run_numbered config
    (earlier.filter (·.isSubscription) ++ later) (Nat.le_trans fewer room)
  have renames := alike.renames numbered (run_numbered config _ room)
  have root := renames.root
  rw [(run_root config _).1, (run_root config _).1] at root
  exact ⟨alike.agrees, calls, _, root, renames⟩

/-- A text field that is added again after a shutdown gets numbers on the other
side of the root's id. -/
theorem run_shutdown_restarts_textField :
    Journal.attachments ((new { rootId := ⟨2⟩ }).run
        ([.onNotification ⟨"log"⟩,
            .add ⟨0⟩ { id := ⟨5⟩, name := "Search", code := 17 },
            .notify (.focusChanged none (some ⟨5⟩))] ++
          .shutdown ::
            [.add ⟨0⟩ { id := ⟨5⟩, name := "Search", code := 17 }])
        ).journal = 4 ∧
      ∃ names : NodeId → NodeId,
        names ⟨2⟩ = ⟨2⟩ ∧ names ⟨1⟩ = ⟨4⟩ ∧ names ⟨3⟩ = ⟨5⟩ ∧
          ((new { rootId := ⟨2⟩ }).run
              ([.onNotification ⟨"log"⟩,
                  .add ⟨0⟩ { id := ⟨5⟩, name := "Search", code := 17 },
                  .notify (.focusChanged none (some ⟨5⟩))] ++
                .shutdown ::
                  [.add ⟨0⟩ { id := ⟨5⟩, name := "Search", code := 17 }])
              ).bridge.treeUpdate =
            ((new { rootId := ⟨2⟩ }).run
              [.onNotification ⟨"log"⟩,
                .add ⟨0⟩ { id := ⟨5⟩, name := "Search", code := 17 }]
              ).bridge.treeUpdate.rename names := by
  obtain ⟨_, _, names, root, renames⟩ :=
    run_shutdown_restarts { rootId := ⟨2⟩ }
      [.onNotification ⟨"log"⟩,
        .add ⟨0⟩ { id := ⟨5⟩, name := "Search", code := 17 },
        .notify (.focusChanged none (some ⟨5⟩))]
      [.add ⟨0⟩ { id := ⟨5⟩, name := "Search", code := 17 }] (by decide)
  have primary := renames.nodeIds (.widget ⟨5⟩)
  have companion := renames.nodeIds (.selection ⟨5⟩)
  exact ⟨by decide, names, root, (Option.some.inj primary).symm,
    (Option.some.inj companion).symm, renames.treeUpdate⟩

end Bridge
end AssistiveTree
