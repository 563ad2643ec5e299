import AssistiveTree.Proofs.Bridge.Reports
import AssistiveTree.Proofs.Bridge.Upkeep

/-!
# Coherence of the registry and the tree

A widget is registered exactly when its primary node is attached. Its companion
is attached exactly when the primary node links to one, and then it stands right
behind the primary node. This holds in every reachable bridge, whatever the
widgets report meanwhile. So no add ever warns about a stray node, and no update
of a registered widget is ever dropped.
-/

namespace AssistiveTree

/-- A node as the companion of a text field looks: all that may vary is the
selected text. -/
structure Node.IsSelectionOf (node : Node) (owner : WidgetId) : Prop where
  role : node.role = .generic
  live : node.live = some .polite
  companionOf : node.companionOf = some (.widget owner)
  label : node.label = ""
  description : node.description = ""
  activation : node.activation = none
  groupName : node.groupName = none
  roleDescription : node.roleDescription = none
  announcement : node.announcement = none
  toggled : node.toggled = none
  expanded : node.expanded = none
  numericValue : node.numericValue = none
  companion : node.companion = none

namespace Bridge

/-- The registry and the tree agree about one widget. -/
structure CoherentAt (bridge : Bridge) (id : WidgetId) : Prop where
  registered : bridge.isRegistered id = true ↔
    bridge.tree.contains (.widget id) = true
  companion : bridge.tree.contains (.selection id) = true ↔
    ∃ node, bridge.node? (.widget id) = some node ∧
      node.companion = some (.selection id)
  adjacent : bridge.tree.contains (.selection id) = true →
    ∃ before after, bridge.tree.root.children =
      before ++ .widget id :: .selection id :: after
  selection : ∀ node, bridge.node? (.selection id) = some node →
    node.IsSelectionOf id
  primary : ∀ node, bridge.node? (.widget id) = some node →
    node.companionOf = none ∧ node.live = none ∧ node.value = none

/-- The registry and the tree agree about every widget, and the root's children
are the attached nodes, each once. -/
structure Coherent (bridge : Bridge) : Prop where
  widgets : ∀ id, bridge.CoherentAt id
  children : ∀ key, key ∈ bridge.tree.root.children ↔
    bridge.tree.contains key = true
  distinct : bridge.tree.root.children.Nodup
  count : bridge.registeredCount =
    bridge.tree.root.children.countP NodeKey.isPrimary

namespace Holds

variable {bridge : Bridge} {holdings : List Holding}

/-- Only held widgets have nodes. -/
theorem exists_of_node?
    (holds : bridge.Holds holdings)
    {key : NodeKey}
    {node : Node}
    (attached : bridge.node? key = some node) :
    ∃ holding ∈ holdings, holding.id = key.owner := by
  obtain ⟨id, member⟩ := (holds.sound.node?_eq_some_iff key node).mp attached
  obtain ⟨holding, held, _, same⟩ := holds.exists_of_mem_slots member
  exact ⟨holding, held, same⟩

theorem contains_widget_iff (holds : bridge.Holds holdings) (id : WidgetId) :
    bridge.tree.contains (.widget id) = true ↔
      bridge.isRegistered id = true := by
  rw [Tree.contains_iff]
  refine ⟨?_, holds.widget_mem_keys⟩
  intro attached
  by_contra unregistered
  rw [Bool.not_eq_true] at unregistered
  have absent : NodeKey.widget id ∉ bridge.tree.nodes.keys :=
    holds.absent unregistered
  exact absent attached

/-- The companion of a held widget is attached exactly when it has one. -/
theorem contains_selection
    (holds : bridge.Holds holdings)
    {holding : Holding}
    (member : holding ∈ holdings) :
    bridge.tree.contains (.selection holding.id) =
      holding.companion.isSome := by
  have found := congrArg Option.isSome (holds.node?_selection member)
  rwa [Option.isSome_map] at found

/-- A companion is attached exactly when the primary node links to it. -/
theorem contains_selection_iff
    (holds : bridge.Holds holdings)
    (id : WidgetId) :
    bridge.tree.contains (.selection id) = true ↔
      ∃ node, bridge.node? (.widget id) = some node ∧
        node.companion = some (.selection id) := by
  constructor
  · intro attached
    obtain ⟨node, found⟩ : ∃ node, bridge.node? (.selection id) = some node :=
      Option.isSome_iff_exists.mp attached
    obtain ⟨holding, member, rfl⟩ := holds.exists_of_node? found
    rw [holds.contains_selection member] at attached
    obtain ⟨slot, companion⟩ := Option.isSome_iff_exists.mp attached
    refine ⟨_, holds.node?_widget member, ?_⟩
    rw [(holds.shaped holding member).linked, companion]
    rfl
  · rintro ⟨node, attached, linked⟩
    obtain ⟨holding, member, rfl⟩ := holds.exists_of_node? attached
    obtain rfl := Option.some.inj
      ((holds.node?_widget member).symm.trans attached)
    rw [(holds.shaped holding member).linked, Option.map_eq_some_iff] at linked
    obtain ⟨slot, found, _⟩ := linked
    rw [holds.contains_selection member, found]
    rfl

/-- A companion stands right behind the primary node. -/
theorem adjacent
    (holds : bridge.Holds holdings)
    {holding : Holding}
    (member : holding ∈ holdings)
    (attached : bridge.tree.contains (.selection holding.id) = true) :
    ∃ before after, bridge.tree.root.children =
      before ++ .widget holding.id :: .selection holding.id :: after := by
  obtain ⟨earlier, later, rfl⟩ := List.append_of_mem member
  rw [holds.contains_selection member] at attached
  obtain ⟨slot, found⟩ := Option.isSome_iff_exists.mp attached
  rw [holds.sound.children, holds.keys, List.flatMap_append,
    List.flatMap_cons, holding.slots_keys, found]
  exact ⟨_, _, rfl⟩

/-- Every holding has one primary node. -/
theorem registeredCount_eq (holds : bridge.Holds holdings) :
    bridge.registeredCount =
      bridge.tree.root.children.countP NodeKey.isPrimary := by
  have one : ∀ holding : Holding,
      (holding.slots.map (·.1)).countP NodeKey.isPrimary = 1 := by
    intro holding
    rw [holding.slots_keys]
    cases holding.companion <;> rfl
  rw [holds.sound.children, holds.keys, List.countP_flatMap, registeredCount,
    Registry.size, Table.size, holds.registry, List.length_map]
  simp [Function.comp_def, one]

/-- What a bridge holds for a widget is coherent. -/
theorem coherentAt (holds : bridge.Holds holdings) (id : WidgetId) :
    bridge.CoherentAt id where
  registered := (holds.contains_widget_iff id).symm
  companion := holds.contains_selection_iff id
  adjacent := by
    intro attached
    obtain ⟨node, primary, _⟩ := (holds.contains_selection_iff id).mp attached
    obtain ⟨holding, member, rfl⟩ := holds.exists_of_node? primary
    exact holds.adjacent member attached
  selection := by
    intro node attached
    obtain ⟨holding, member, rfl⟩ := holds.exists_of_node? attached
    rw [holds.node?_selection member] at attached
    obtain ⟨slot, found, rfl⟩ := Option.map_eq_some_iff.mp attached
    rw [(holds.shaped holding member).bare slot found]
    exact ⟨rfl, rfl, rfl, rfl, rfl, rfl, rfl, rfl, rfl, rfl, rfl, rfl, rfl⟩
  primary := by
    intro node attached
    obtain ⟨holding, member, rfl⟩ := holds.exists_of_node? attached
    obtain rfl := Option.some.inj
      ((holds.node?_widget member).symm.trans attached)
    have shaped := holds.shaped holding member
    exact ⟨shaped.notCompanion, shaped.notLive, shaped.noText⟩

theorem coherent (holds : bridge.Holds holdings) : bridge.Coherent where
  widgets := holds.coherentAt
  children := by
    intro key
    rw [holds.sound.children, Tree.contains_iff]
  distinct := by
    rw [holds.sound.children]
    exact holds.sound.distinct
  count := holds.registeredCount_eq

/-- An add to a coherent bridge finds no stray node. -/
theorem stray_not_mem_perform
    (holds : bridge.Holds holdings)
    (operation : Operation)
    (id : WidgetId) :
    .event (.strayNode id) ∉ (bridge.perform operation).journal := by
  intro member
  obtain ⟨unregistered, attached⟩ := stray_of_mem_perform member
  rw [holds.contains_widget_iff, unregistered] at attached
  exact Bool.false_ne_true attached

end Holds

/-- No run warns about a stray node. -/
theorem stray_not_mem_run
    (config : Config)
    (operations : List Operation)
    (id : WidgetId) :
    .event (.strayNode id) ∉ ((new config).run operations).journal := by
  induction operations using List.reverseRecOn with
  | nil => exact List.not_mem_nil
  | append_singleton operations operation inductionHypothesis =>
      obtain ⟨holdings, holds⟩ := run_holds config operations
      rw [run_concat]
      intro member
      rcases List.mem_append.mp member with old | new
      · exact inductionHypothesis old
      · exact holds.stray_not_mem_perform operation id new

/-- Every reachable bridge is coherent. On the way no add warned about a stray
node, and the next operation drops an update only if its widget is not
registered. -/
theorem run_coherent (config : Config) (operations : List Operation) :
    ((new config).run operations).bridge.Coherent ∧
      (∀ id, .event (.strayNode id) ∉
        ((new config).run operations).journal) ∧
      ∀ next id aspect,
        .event (.dropped id (.update aspect)) ∈
          (((new config).run operations).bridge.perform next).journal →
        ((new config).run operations).bridge.isRegistered id = false := by
  obtain ⟨holdings, holds⟩ := run_holds config operations
  refine ⟨holds.coherent, stray_not_mem_run config operations, ?_⟩
  intro next id aspect member
  have unheld := unheld_of_dropped_update member
  rw [Bool.eq_iff_iff.mpr (holds.contains_widget_iff id),
    Bool.and_self] at unheld
  exact unheld

end Bridge
end AssistiveTree
