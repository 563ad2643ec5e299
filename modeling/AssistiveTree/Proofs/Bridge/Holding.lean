import AssistiveTree.Proofs.Bridge.Run
import AssistiveTree.Proofs.Notification

/-!
# What a bridge holds

The registry and the tree of a bridge are two views of one list. Each member of
the list is a registered widget: its id, its object, the slot of its primary
node and, for a text field, the slot of its companion. Every operation is a
plain operation on that list: an add appends, a remove filters, a shutdown
empties, and a notification changes the nodes in place.
-/

namespace AssistiveTree

/-- The slot of a key after a notification. -/
def Slot.notified
    (notification : Notification)
    (key : NodeKey)
    (slot : Slot) : Slot :=
  match key with
  | .widget id => { slot with node := slot.node.notified id notification }
  | .selection id =>
      { slot with node := slot.node.selectionNotified id notification }

/-- A changed node keeps its node id. -/
theorem Slot.id_notified
    (notification : Notification)
    (key : NodeKey)
    (slot : Slot) :
    (slot.notified notification key).id = slot.id := by
  cases key <;> rfl

/-- A changed node keeps its group name. -/
theorem Slot.groupName_notified
    (notification : Notification)
    (key : NodeKey)
    (slot : Slot) :
    (slot.notified notification key).node.groupName = slot.node.groupName := by
  cases key <;> rfl

/-- A slot follows exactly the updates and selections of its key. -/
theorem Slot.notified_eq
    (notification : Notification)
    (key : NodeKey)
    (slot : Slot) :
    slot.notified notification key =
      match key with
      | .widget id =>
          match notification.path with
          | .update target _ change =>
              if target = id then { slot with node := slot.node.set change }
              else slot
          | _ => slot
      | .selection id =>
          match notification.path with
          | .changeSelection (.textField selection) =>
              if selection.control = some id then
                { slot with
                  node := { slot.node with value := some selection.text } }
              else slot
          | _ => slot := by
  cases key with
  | widget id =>
      simp only [Slot.notified, Notification.notified_eq]
      cases notification.path with
      | update target aspect change =>
          by_cases same : target = id <;> simp [same]
      | _ => rfl
  | selection id =>
      simp only [Slot.notified, Notification.selectionNotified_eq]
      cases notification.path with
      | changeSelection selection =>
          cases selection with
          | textField selection =>
              by_cases same : selection.control = some id <;> simp [same]
          | _ => rfl
      | _ => rfl

/-- A notification changes no slot but that of its key. -/
theorem Slot.notified_of_key?_ne
    {notification : Notification}
    {key : NodeKey}
    (other : notification.path.key? ≠ some key)
    (slot : Slot) :
    slot.notified notification key = slot := by
  rw [Slot.notified_eq]
  cases key with
  | widget id =>
      cases path : notification.path with
      | update target aspect change =>
          have different : target ≠ id := by
            rintro rfl
            rw [path] at other
            exact other rfl
          simp only [if_neg different]
      | _ => rfl
  | selection id =>
      cases path : notification.path with
      | changeSelection selection =>
          cases selection with
          | textField selection =>
              have different : selection.control ≠ some id := by
                intro same
                rw [path] at other
                exact other (congrArg (Option.map NodeKey.selection) same)
              simp only [if_neg different]
          | _ => rfl
      | _ => rfl

/-- A notification changes the node of one key, if that is attached, and no
other. -/
def Notification.Concerns
    (notification : Notification)
    (key : NodeKey)
    (change : Node → Node) : Prop :=
  ∀ other (slot : Slot), slot.notified notification other =
    if other = key then { slot with node := change slot.node } else slot

/-- What a bridge holds for one registered widget. -/
structure Holding where
  id : WidgetId
  object : WidgetRef
  primary : Slot
  companion : Option Slot
  deriving DecidableEq

namespace Holding

/-- The slots of the widget's nodes: the companion follows the primary node. -/
def slots (holding : Holding) : List (NodeKey × Slot) :=
  (.widget holding.id, holding.primary) ::
    (holding.companion.map fun slot =>
      (NodeKey.selection holding.id, slot)).toList

/-- The holding with another primary node in place. -/
def changePrimary (holding : Holding) (change : Node → Node) : Holding :=
  { holding with primary.node := change holding.primary.node }

/-- The holding with another companion node in place. -/
def changeCompanion (holding : Holding) (change : Node → Node) : Holding :=
  { holding with
    companion := holding.companion.map fun slot =>
      { slot with node := change slot.node } }

/-- The holding after a notification. -/
def notified (notification : Notification) (holding : Holding) : Holding :=
  (holding.changePrimary (·.notified holding.id notification)).changeCompanion
    (·.selectionNotified holding.id notification)

/-- How the nodes of a holding look, whatever notifications arrived. -/
structure Shaped (holding : Holding) : Prop where
  notCompanion : holding.primary.node.companionOf = none
  notLive : holding.primary.node.live = none
  noText : holding.primary.node.value = none
  /-- The primary node links to the companion that the widget has. -/
  linked : holding.primary.node.companion =
    holding.companion.map fun _ => .selection holding.id
  /-- The companion carries nothing but the selected text. -/
  bare : ∀ slot ∈ holding.companion,
    slot.node =
      { Node.selectionCompanion holding.id with value := slot.node.value }

/-- Notifications do not touch what a node was built with. -/
theorem Shaped.notified
    {holding : Holding}
    (shaped : holding.Shaped)
    (notification : Notification) :
    (holding.notified notification).Shaped where
  notCompanion := shaped.notCompanion
  notLive := shaped.notLive
  noText := shaped.noText
  linked := by
    rw [Holding.notified, changeCompanion, Option.map_map]
    exact shaped.linked
  bare := by
    rintro slot member
    obtain ⟨earlier, held, rfl⟩ := Option.map_eq_some_iff.mp member
    have same := shaped.bare earlier held
    simp only [Node.selectionNotified]
    rw [same]
    rfl

theorem slots_keys (holding : Holding) :
    holding.slots.map (·.1) =
      .widget holding.id ::
        (holding.companion.map fun _ => NodeKey.selection holding.id).toList := by
  cases companion : holding.companion <;> simp [slots, companion]

/-- The nodes of a holding belong to its widget. -/
theorem owner_of_mem_slots
    {holding : Holding}
    {entry : NodeKey × Slot}
    (member : entry ∈ holding.slots) :
    entry.1.owner = holding.id := by
  simp only [slots, List.mem_cons, Option.mem_toList] at member
  rcases member with rfl | inCompanion
  · rfl
  · obtain ⟨slot, _, rfl⟩ := Option.map_eq_some_iff.mp inCompanion
    rfl

/-- Dropping the nodes of a widget drops its holdings. -/
theorem filter_flatMap_slots (id : WidgetId) (holdings : List Holding) :
    ((holdings.flatMap slots).filter fun entry => entry.1.owner ≠ id) =
      (holdings.filter fun holding => holding.id ≠ id).flatMap slots := by
  induction holdings with
  | nil => rfl
  | cons holding rest inductionHypothesis =>
      rw [List.flatMap_cons, List.filter_append, inductionHypothesis]
      by_cases same : holding.id = id
      · have dropped : ∀ entry ∈ holding.slots, entry.1.owner = id :=
          fun entry member => (owner_of_mem_slots member).trans same
        rw [List.filter_eq_nil_iff.mpr (by simpa using dropped),
          List.filter_cons_of_neg (by simpa using same)]
        rfl
      · have kept : ∀ entry ∈ holding.slots, entry.1.owner ≠ id := by
          intro entry member
          rw [owner_of_mem_slots member]
          exact same
        rw [List.filter_eq_self.mpr (by simpa using kept),
          List.filter_cons_of_pos (by simpa using same)]
        rfl

/-- A notification changes the slots of a holding one by one. -/
theorem slots_notified (notification : Notification) (holding : Holding) :
    (holding.notified notification).slots =
      holding.slots.map fun entry =>
        (entry.1, entry.2.notified notification entry.1) := by
  cases companion : holding.companion <;>
    simp [slots, notified, changePrimary, changeCompanion, Slot.notified,
      companion]

end Holding

namespace Bridge

/-- The registry and the tree of a bridge are the two views of a list. -/
structure Holds (bridge : Bridge) (holdings : List Holding) : Prop where
  distinct : (holdings.map (·.id)).Nodup
  registry : bridge.registry.entries.entries =
    holdings.map fun holding => (holding.id, holding.object)
  slots : bridge.tree.slots.entries = holdings.flatMap Holding.slots
  sound : bridge.tree.Sound
  shaped : ∀ holding ∈ holdings, holding.Shaped

namespace Holds

variable {bridge : Bridge} {holdings : List Holding}

theorem keys (holds : bridge.Holds holdings) :
    bridge.tree.nodes.keys =
      holdings.flatMap fun holding => holding.slots.map (·.1) := by
  rw [← holds.sound.slots_keys, Table.keys, holds.slots, List.map_flatMap]

/-- A widget is held once. -/
theorem eq_of_id_eq
    (holds : bridge.Holds holdings)
    {first second : Holding}
    (firstMember : first ∈ holdings)
    (secondMember : second ∈ holdings)
    (same : first.id = second.id) :
    first = second :=
  List.inj_on_of_nodup_map holds.distinct firstMember secondMember same

/-- The registered ids are the ids of the holdings. -/
theorem isRegistered_iff (holds : bridge.Holds holdings) (id : WidgetId) :
    bridge.isRegistered id = true ↔ ∃ holding ∈ holdings, holding.id = id := by
  rw [isRegistered, Registry.contains, Table.contains_iff_mem_keys, Table.keys,
    holds.registry, List.map_map]
  exact List.mem_map

/-- An id is registered for the object that the bridge holds. -/
theorem registry_get?
    (holds : bridge.Holds holdings)
    {holding : Holding}
    (member : holding ∈ holdings) :
    bridge.registry.entries.get? holding.id = some holding.object := by
  have distinct : bridge.registry.entries.keys.Nodup := by
    rw [Table.keys, holds.registry, List.map_map]
    exact holds.distinct
  apply Table.get?_of_mem_entries distinct
  rw [holds.registry]
  exact List.mem_map.mpr ⟨holding, member, rfl⟩

theorem mem_slots
    (holds : bridge.Holds holdings)
    {holding : Holding}
    (member : holding ∈ holdings)
    {entry : NodeKey × Slot}
    (inHolding : entry ∈ holding.slots) :
    entry ∈ bridge.tree.slots.entries := by
  rw [holds.slots]
  exact List.mem_flatMap.mpr ⟨holding, member, inHolding⟩

/-- Every attached node is in a holding of its widget. -/
theorem exists_of_mem_slots
    (holds : bridge.Holds holdings)
    {entry : NodeKey × Slot}
    (member : entry ∈ bridge.tree.slots.entries) :
    ∃ holding ∈ holdings, entry ∈ holding.slots ∧
      holding.id = entry.1.owner := by
  rw [holds.slots] at member
  obtain ⟨holding, held, inHolding⟩ := List.mem_flatMap.mp member
  exact ⟨holding, held, inHolding, (Holding.owner_of_mem_slots inHolding).symm⟩

/-- The primary node of a held widget is attached. -/
theorem get?_widget
    (holds : bridge.Holds holdings)
    {holding : Holding}
    (member : holding ∈ holdings) :
    bridge.tree.slots.get? (.widget holding.id) = some holding.primary :=
  Table.get?_of_mem_entries holds.sound.distinct_slots
    (holds.mem_slots member List.mem_cons_self)

/-- The companion of a held widget is attached, if there is one. -/
theorem get?_selection
    (holds : bridge.Holds holdings)
    {holding : Holding}
    (member : holding ∈ holdings) :
    bridge.tree.slots.get? (.selection holding.id) = holding.companion := by
  cases companion : holding.companion with
  | some slot =>
      apply Table.get?_of_mem_entries holds.sound.distinct_slots
      apply holds.mem_slots member
      simp [Holding.slots, companion]
  | none =>
      rw [Table.get?_eq_none_iff]
      intro attached
      obtain ⟨⟨_, slot⟩, entryMember, rfl⟩ := List.mem_map.mp attached
      obtain ⟨other, held, inOther, same⟩ :=
        holds.exists_of_mem_slots entryMember
      obtain rfl := holds.eq_of_id_eq held member same
      simp [Holding.slots, companion] at inOther

/-- The primary node of a held widget is found under its key. -/
theorem node?_widget
    (holds : bridge.Holds holdings)
    {holding : Holding}
    (member : holding ∈ holdings) :
    bridge.node? (.widget holding.id) = some holding.primary.node := by
  rw [Bridge.node?, holds.sound.node?_eq, holds.get?_widget member]
  rfl

theorem nodeId?_widget
    (holds : bridge.Holds holdings)
    {holding : Holding}
    (member : holding ∈ holdings) :
    bridge.tree.nodeId? (.widget holding.id) = some holding.primary.id := by
  rw [holds.sound.nodeId?_eq, holds.get?_widget member]
  rfl

/-- So is the companion, if there is one. -/
theorem node?_selection
    (holds : bridge.Holds holdings)
    {holding : Holding}
    (member : holding ∈ holdings) :
    bridge.node? (.selection holding.id) =
      holding.companion.map (·.node) := by
  rw [Bridge.node?, holds.sound.node?_eq, holds.get?_selection member]

theorem nodeId?_selection
    (holds : bridge.Holds holdings)
    {holding : Holding}
    (member : holding ∈ holdings) :
    bridge.tree.nodeId? (.selection holding.id) =
      holding.companion.map (·.id) := by
  rw [holds.sound.nodeId?_eq, holds.get?_selection member]

/-- Nothing is attached for a widget that is not held. -/
theorem absent
    (holds : bridge.Holds holdings)
    {key : NodeKey}
    (unheld : bridge.isRegistered key.owner = false) :
    key ∉ bridge.tree.nodes.keys := by
  rw [← holds.sound.slots_keys]
  intro attached
  obtain ⟨entry, member, rfl⟩ := List.mem_map.mp attached
  obtain ⟨holding, held, _, same⟩ := holds.exists_of_mem_slots member
  have registered := (holds.isRegistered_iff _).mpr ⟨holding, held, same⟩
  rw [unheld] at registered
  exact Bool.false_ne_true registered

end Holds
end Bridge
end AssistiveTree
