import AssistiveTree.Proofs.Bridge.Entries

/-!
# What an operation changes of the export

The whole tree is exported anew each time, and its entries refer to each other.
Yet an operation changes only what it is about. An added widget is appended, and
the radio buttons of its group list it. A removed widget is dropped wherever it
is listed. A notification changes one entry at most, and a move of the focus
changes none but the root container's.
-/

namespace AssistiveTree

/-- The node with further members in its radio group. -/
def ExportNode.addMates
    (node : ExportNode)
    (ids : List NodeId) : ExportNode :=
  { node with radioGroup := node.radioGroup ++ ids }

/-- The node without some members of its radio group. -/
def ExportNode.dropMates
    (node : ExportNode)
    (gone : List NodeId) : ExportNode :=
  { node with radioGroup := node.radioGroup.filter fun id => id ∉ gone }

namespace TreeUpdate

/-- The export with its root container and the entries behind it changed. -/
def change
    (update : TreeUpdate)
    (container : ExportNode → ExportNode)
    (members : List (NodeId × ExportNode) → List (NodeId × ExportNode)) :
    TreeUpdate :=
  { update with
    nodes :=
      (update.nodes.take 1).map (fun entry => (entry.1, container entry.2)) ++
        members update.members }

/-- The export with entries appended, as further children of the root. -/
def append
    (update : TreeUpdate)
    (entries : List (NodeId × ExportNode)) : TreeUpdate :=
  update.change
    (fun container =>
      { container with children := container.children ++ entries.map (·.1) })
    (· ++ entries)

/-- The export without some entries: neither the root nor a radio group lists
them. -/
def without (update : TreeUpdate) (gone : List NodeId) : TreeUpdate :=
  update.change
    (fun container =>
      { container with
        children := container.children.filter fun id => id ∉ gone })
    (fun members =>
      (members.filter fun entry => entry.1 ∉ gone).map fun entry =>
        (entry.1, entry.2.dropMates gone))

/-- The export with some node ids appended to the radio groups of some
entries. -/
def join
    (update : TreeUpdate)
    (mates : NodeId → Prop)
    [DecidablePred mates]
    (ids : List NodeId) : TreeUpdate :=
  update.change id fun members => members.map fun entry =>
    (entry.1, if mates entry.1 then entry.2.addMates ids else entry.2)

/-- The export with the focus on a node, or else on the root container. -/
def refocus
    (update : TreeUpdate)
    (root : NodeId)
    (focus : Option NodeId) : TreeUpdate :=
  { update.change
      (fun container => { container with activeDescendant := focus }) id with
    focus := focus.getD root }

section Whole

variable {root : NodeId} {label : String} {focus : Option NodeId}
variable {members : List (NodeId × ExportNode)}

@[simp] theorem whole_append (entries : List (NodeId × ExportNode)) :
    (whole root label focus members).append entries =
      whole root label focus (members ++ entries) := by
  simp [append, change, whole, TreeUpdate.members]

@[simp] theorem whole_without (gone : List NodeId) :
    (whole root label focus members).without gone =
      whole root label focus
        ((members.filter fun entry => entry.1 ∉ gone).map fun entry =>
          (entry.1, entry.2.dropMates gone)) := by
  simp [without, change, whole, TreeUpdate.members, List.filter_map,
    Function.comp_def]

@[simp] theorem whole_join
    (mates : NodeId → Prop)
    [DecidablePred mates]
    (ids : List NodeId) :
    (whole root label focus members).join mates ids =
      whole root label focus
        (members.map fun entry =>
          (entry.1,
            if mates entry.1 then entry.2.addMates ids else entry.2)) := by
  simp [join, change, whole, TreeUpdate.members, Function.comp_def]

@[simp] theorem whole_refocus (later : Option NodeId) :
    (whole root label focus members).refocus root later =
      whole root label later members := by
  simp [refocus, change, whole, TreeUpdate.members]

end Whole

end TreeUpdate

namespace Bridge

/-- A node id belongs to a radio button of the group that a widget joins when it
is added. -/
def Mates (bridge : Bridge) (widget : Widget) (id : NodeId) : Prop :=
  widget.kind? = some .radioButton ∧
    ∃ key ∈ bridge.groupKeys widget.name, bridge.tree.nodeId? key = some id

instance (bridge : Bridge) (widget : Widget) :
    DecidablePred (bridge.Mates widget) :=
  fun id => inferInstanceAs (Decidable
    (widget.kind? = some .radioButton ∧
      ∃ key ∈ bridge.groupKeys widget.name, bridge.tree.nodeId? key = some id))

/-- What an add that registers a widget changes of the export. -/
structure Extends (before after : Bridge) (widget : Widget) : Prop where
  primary : ∃ nodeId, after.tree.nodeId? (.widget widget.id) = some nodeId
  companion : (∃ nodeId,
      after.tree.nodeId? (.selection widget.id) = some nodeId) ↔
    widget.kind? = some .textField
  /-- The widget is appended, and the radio buttons of its group list it. A
  widget that waited for the focus gets it. -/
  update : after.treeUpdate =
    let extended :=
      (before.treeUpdate.join (before.Mates widget)
        (after.idsOf widget.id)).append (after.entriesOf widget.id)
    if before.focus = some widget.id then
      extended.refocus before.tree.root.id
        (after.tree.nodeId? (.widget widget.id))
    else extended

/-- What the removal of a registered widget changes of the export. -/
structure Shrinks (before after : Bridge) (id : WidgetId) : Prop where
  primary : ∃ nodeId, before.tree.nodeId? (.widget id) = some nodeId
  /-- The widget is dropped wherever it is listed, and loses the focus. -/
  update : after.treeUpdate =
    let left := before.treeUpdate.without (before.idsOf id)
    if before.focus = some id then left.refocus before.tree.root.id none
    else left

/-- Nothing of the export has changed but the entry of one node, if that is
attached. -/
def ChangesOnly (before after : Bridge) (key : NodeKey) : Prop :=
  match before.tree.nodeId? key with
  | none => after.treeUpdate = before.treeUpdate
  | some id =>
      ∃ container earlier old new later,
        before.treeUpdate.nodes = container :: earlier ++ (id, old) :: later ∧
          after.treeUpdate =
            { before.treeUpdate with
              nodes := container :: earlier ++ (id, new) :: later }

/-- What an operation changes of the export. -/
def Operation.ExportDelta (before after : Bridge) : Operation → Prop
  | .add _ widget =>
      if before.isRegistered widget.id = false ∧
          after.isRegistered widget.id = true then
        before.Extends after widget
      else after.treeUpdate = before.treeUpdate
  | .remove id =>
      if before.isRegistered id = true then before.Shrinks after id
      else after.treeUpdate = before.treeUpdate
  | .shutdown =>
      after.treeUpdate =
        (before.treeUpdate.without
          (before.treeUpdate.members.map (·.1))).refocus
            before.tree.root.id none
  | .notify notification =>
      match notification.path with
      | .moveFocus focus =>
          after.treeUpdate =
            before.treeUpdate.refocus before.tree.root.id
              (focus.bind fun id => before.tree.nodeId? (.widget id))
      | path =>
          match path.key? with
          | some key => before.ChangesOnly after key
          | none => after.treeUpdate = before.treeUpdate
  | .onSelection _ => after.treeUpdate = before.treeUpdate
  | .onNotification _ => after.treeUpdate = before.treeUpdate
  | .exportTree => after.treeUpdate = before.treeUpdate
  | .request _ _ _ => after.treeUpdate = before.treeUpdate

/-- No notification gives a key another node id. -/
theorem nodeId?_notify
    (bridge : Bridge)
    (notification : Notification)
    (key : NodeKey) :
    (bridge.notify notification).bridge.tree.nodeId? key =
      bridge.tree.nodeId? key := by
  rw [Tree.nodeId?, bridge.notify_nodeIds, Tree.nodeId?]

namespace Holds

variable {bridge : Bridge} {holdings : List Holding}
variable {attached : Nat} {id : WidgetId}

/-! ## Adds -/

/-- A node id of the group that a widget joins is that of a node with its
name as group name. -/
theorem mates_iff
    (holds : bridge.Holds holdings)
    (numbered : bridge.tree.Numbered attached)
    (widget : Widget)
    {slot : NodeKey × Slot}
    (member : slot ∈ bridge.tree.slots.entries) :
    bridge.Mates widget slot.2.id ↔
      widget.kind? = some .radioButton ∧
        slot.2.node.groupName = some widget.name := by
  have listed : bridge.tree.nodeId? slot.1 = some slot.2.id :=
    holds.sound.nodeId?_of_mem member
  rw [Mates, ← holds.groupName?_of_mem member,
    ← holds.mem_radioGroup_iff_of_nodeId? numbered listed,
    ← List.mem_map_of_injective fun _ _ => Option.some.inj,
    holds.radioGroup_map_some, List.mem_map]

section Add

variable {widget : Widget}
variable (holds : bridge.Holds holdings)
variable (accessible : widget.isAccessible = true)
variable (unregistered : bridge.isRegistered widget.id = false)
variable (object : WidgetRef)

include holds accessible unregistered

theorem others_add :
    ((bridge.add object widget).bridge.tree.slots.entries.filter fun slot =>
        slot.1.owner ≠ widget.id) =
      bridge.tree.slots.entries.filter fun slot =>
        slot.1.owner ≠ widget.id := by
  have own : ∀ slot ∈ (bridge.admitted object widget).slots,
      slot.1.owner = widget.id :=
    fun _ member => Holding.owner_of_mem_slots member
  have none : ((bridge.admitted object widget).slots.filter fun slot =>
      slot.1.owner ≠ widget.id) = [] :=
    List.filter_eq_nil_iff.mpr (by simpa using own)
  rw [holds.slots_add accessible unregistered, List.filter_append, none,
    List.append_nil]

/-- The slots of an added widget are those that the add appends. -/
theorem entriesOf_add :
    (bridge.add object widget).bridge.entriesOf widget.id =
        (bridge.add object widget).bridge.exportSlots
          (bridge.admitted object widget).slots ∧
      (bridge.add object widget).bridge.idsOf widget.id =
        (bridge.admitted object widget).slots.map fun slot => slot.2.id := by
  have afterHolds := holds.add_of_unregistered accessible unregistered object
  have held : bridge.admitted object widget ∈
      holdings ++ [bridge.admitted object widget] := by simp
  exact ⟨afterHolds.entriesOf_eq held, afterHolds.idsOf_eq held⟩

/-- An added radio button is the newest member of its group. -/
theorem radioGroup_add (name : String) :
    (bridge.add object widget).bridge.radioGroup name =
      bridge.radioGroup name ++
        if widget.kind? = some .radioButton ∧ name = widget.name then
          (bridge.add object widget).bridge.idsOf widget.id
        else [] := by
  have afterHolds := holds.add_of_unregistered accessible unregistered object
  rw [afterHolds.radioGroup_eq, holds.slots_add accessible unregistered,
    List.filter_append, List.map_append, holds.radioGroup_eq,
    (holds.entriesOf_add accessible unregistered object).2]
  congr 1
  -- A radio button has no companion, and no companion has a group name.
  by_cases radio : widget.kind? = some .radioButton
  · by_cases same : name = widget.name <;>
      simp [Holding.slots, admitted, companionNode?_eq, primaryNode_groupName,
        radio, same, eq_comm]
  · by_cases field : widget.kind? = some .textField <;>
      simp [Holding.slots, admitted, companionNode?_eq, primaryNode_groupName,
        radio, field, Node.selectionCompanion]

/-- The entries from before an add stay as they are, but for the radio buttons
of the widget's group. -/
theorem exportNode_add
    (numbered : bridge.tree.Numbered attached)
    {slot : NodeKey × Slot}
    (member : slot ∈ bridge.tree.slots.entries) :
    (bridge.add object widget).bridge.exportNode slot.2.node =
      if bridge.Mates widget slot.2.id then
        (bridge.exportNode slot.2.node).addMates
          ((bridge.add object widget).bridge.idsOf widget.id)
      else bridge.exportNode slot.2.node := by
  have afterHolds := holds.add_of_unregistered accessible unregistered object
  have others := holds.others_add accessible unregistered object
  have other : slot.1.owner ≠ widget.id := by
    rintro same
    rw [← same] at unregistered
    exact holds.absent unregistered (holds.sound.mem_keys_of_mem member)
  have grown := holds.radioGroup_add accessible unregistered object
  rw [exportNode_of_others holds afterHolds others member other,
    ExportNode.addMates, radioGroup_exportNode]
  simp only [holds.mates_iff numbered widget member]
  cases named : slot.2.node.groupName with
  | none => simp [exportNode_eq, named]
  | some name =>
      by_cases joins : widget.kind? = some .radioButton ∧ name = widget.name
      · simp [grown, joins]
      · simp [exportNode_eq, named, grown, joins]

/-- An add that registers a widget extends the export. -/
theorem extends_add
    (numbered : bridge.tree.Numbered attached)
    (focused : bridge.Focused) :
    bridge.Extends (bridge.add object widget).bridge widget where
  primary := by
    have afterHolds := holds.add_of_unregistered accessible unregistered object
    exact ⟨_, afterHolds.nodeId?_widget
      (List.mem_append_right _ List.mem_cons_self)⟩
  companion := by
    have afterHolds := holds.add_of_unregistered accessible unregistered object
    have listed :
        (bridge.add object widget).bridge.tree.nodeId? (.selection widget.id) =
          (bridge.admitted object widget).companion.map (·.id) :=
      afterHolds.nodeId?_selection
        (List.mem_append_right _ List.mem_cons_self)
    rw [← Option.isSome_iff_exists, listed, admitted, companionNode?_eq]
    by_cases field : widget.kind? = some .textField <;> simp [field]
  update := by
    have afterHolds := holds.add_of_unregistered accessible unregistered object
    obtain ⟨rootId, rootLabel⟩ := (bridge.add_edits object widget).root
    have slots : (bridge.add object widget).bridge.exportSlots
          (bridge.add object widget).bridge.tree.slots.entries =
        ((bridge.exportSlots bridge.tree.slots.entries).map fun entry =>
            (entry.1,
              if bridge.Mates widget entry.1 then
                entry.2.addMates
                  ((bridge.add object widget).bridge.idsOf widget.id)
              else entry.2)) ++
          (bridge.add object widget).bridge.entriesOf widget.id := by
      rw [(holds.entriesOf_add accessible unregistered object).1,
        holds.slots_add accessible unregistered, exportSlots, exportSlots,
        exportSlots, List.map_append, List.map_map]
      congr 1
      apply List.map_congr_left
      intro slot member
      rw [holds.exportNode_add accessible unregistered object numbered member]
      rfl
    rw [afterHolds.treeUpdate_eq (focused.add object widget),
      holds.treeUpdate_eq focused, slots, rootId, rootLabel]
    simp only [TreeUpdate.whole_join, TreeUpdate.whole_append]
    split
    · next waiting =>
      have focus : (bridge.add object widget).bridge.focusedNode? =
          (bridge.add object widget).bridge.tree.nodeId?
            (.widget widget.id) := by
        rw [focusedNode?, focus_add, waiting, Option.bind_some]
      rw [focus, TreeUpdate.whole_refocus]
    · next elsewhere =>
      rw [focusedNode?_of_others holds afterHolds
        (holds.others_add accessible unregistered object)
        (focus_add bridge object widget) elsewhere]

end Add

/-! ## Removals -/

theorem others_remove (holds : bridge.Holds holdings) (id : WidgetId) :
    ((bridge.remove id).bridge.tree.slots.entries.filter fun slot =>
        slot.1.owner ≠ id) =
      bridge.tree.slots.entries.filter fun slot => slot.1.owner ≠ id := by
  simp [holds.slots_remove, List.filter_filter]

/-- The node ids of a removed widget are gone from every radio group. -/
theorem radioGroup_remove
    (holds : bridge.Holds holdings)
    (numbered : bridge.tree.Numbered attached)
    (id : WidgetId)
    (name : String) :
    (bridge.remove id).bridge.radioGroup name =
      (bridge.radioGroup name).filter fun nodeId =>
        nodeId ∉ bridge.idsOf id := by
  rw [(holds.remove id).radioGroup_eq, holds.radioGroup_eq, holds.slots_remove,
    List.filter_map, List.filter_filter, List.filter_filter]
  congr 1
  apply List.filter_congr
  intro slot member
  simp [holds.mem_idsOf_iff numbered member, Bool.and_comm]

/-- What a removal leaves is exported as before, but for the radio groups of the
removed widget. -/
theorem exportNode_remove
    (holds : bridge.Holds holdings)
    (numbered : bridge.tree.Numbered attached)
    {slot : NodeKey × Slot}
    (member : slot ∈ bridge.tree.slots.entries)
    (other : slot.1.owner ≠ id) :
    (bridge.remove id).bridge.exportNode slot.2.node =
      (bridge.exportNode slot.2.node).dropMates (bridge.idsOf id) := by
  rw [exportNode_of_others holds (holds.remove id) (holds.others_remove id)
    member other, ExportNode.dropMates, radioGroup_exportNode]
  cases slot.2.node.groupName with
  | none => rfl
  | some name =>
      simp only [Option.map_some, Option.getD_some,
        holds.radioGroup_remove numbered]

/-- The entries after a removal are those of the other widgets. -/
theorem exportSlots_remove
    (holds : bridge.Holds holdings)
    (numbered : bridge.tree.Numbered attached)
    (id : WidgetId) :
    (bridge.remove id).bridge.exportSlots
        (bridge.remove id).bridge.tree.slots.entries =
      ((bridge.exportSlots bridge.tree.slots.entries).filter fun entry =>
          entry.1 ∉ bridge.idsOf id).map fun entry =>
            (entry.1, entry.2.dropMates (bridge.idsOf id)) := by
  have same : ∀ slot ∈ bridge.tree.slots.entries,
      decide (slot.1.owner ≠ id) = decide (slot.2.id ∉ bridge.idsOf id) := by
    intro slot member
    simp [holds.mem_idsOf_iff numbered member]
  rw [holds.slots_remove, List.filter_congr same, exportSlots, exportSlots,
    List.filter_map, List.map_map]
  apply List.map_congr_left
  intro slot member
  obtain ⟨inSlots, kept⟩ := List.mem_filter.mp member
  have other : slot.1.owner ≠ id := by
    rw [← same slot inSlots] at kept
    exact of_decide_eq_true kept
  rw [holds.exportNode_remove numbered inSlots other]
  rfl

/-- The removal of a registered widget shrinks the export. -/
theorem shrinks_remove
    (holds : bridge.Holds holdings)
    (numbered : bridge.tree.Numbered attached)
    (focused : bridge.Focused)
    (registered : bridge.isRegistered id = true) :
    bridge.Shrinks (bridge.remove id).bridge id where
  primary := by
    obtain ⟨holding, member, rfl⟩ := (holds.isRegistered_iff id).mp registered
    exact ⟨_, holds.nodeId?_widget member⟩
  update := by
    obtain ⟨rootId, rootLabel⟩ := (bridge.remove_edits id).root
    rw [(holds.remove id).treeUpdate_eq (focused.remove id),
      holds.treeUpdate_eq focused, holds.exportSlots_remove numbered id, rootId,
      rootLabel]
    simp only [TreeUpdate.whole_without]
    split
    · next lost =>
      have focus : (bridge.remove id).bridge.focusedNode? = none := by
        have takes : (Operation.remove id).TakesFocus bridge bridge.focus :=
          ⟨lost, registered⟩
        have cleared : (bridge.remove id).bridge.focus = none :=
          focus_of_takesFocus takes
        rw [focusedNode?, cleared, Option.bind_none]
      rw [focus, TreeUpdate.whole_refocus]
    · next elsewhere =>
      have untaken : ¬(Operation.remove id).TakesFocus bridge bridge.focus :=
        fun takes => elsewhere takes.1
      have focus : (bridge.remove id).bridge.focus = bridge.focus :=
        focus_of_unmoved rfl untaken
      rw [focusedNode?_of_others holds (holds.remove id)
        (holds.others_remove id) focus elsewhere]

/-! ## Notifications -/

/-- No notification changes a radio group. -/
theorem radioGroup_notify
    (holds : bridge.Holds holdings)
    (notification : Notification)
    (name : String) :
    (bridge.notify notification).bridge.radioGroup name =
      bridge.radioGroup name := by
  rw [(holds.notify notification).radioGroup_eq, holds.radioGroup_eq,
    holds.slots_notify, List.filter_map, List.map_map]
  simp only [Function.comp_def, Slot.id_notified, Slot.groupName_notified]

/-- The export after a notification by the slots before it. -/
theorem treeUpdate_notify
    (holds : bridge.Holds holdings)
    (focused : bridge.Focused)
    (notification : Notification) :
    (bridge.notify notification).bridge.treeUpdate =
      .whole bridge.tree.root.id bridge.tree.root.label
        ((bridge.notify notification).bridge.focus.bind fun id =>
          bridge.tree.nodeId? (.widget id))
        (bridge.exportSlots (bridge.tree.slots.entries.map fun slot =>
          (slot.1, slot.2.notified notification slot.1))) := by
  obtain ⟨rootId, rootLabel⟩ := (bridge.notify_edits notification).root
  have exported : ∀ node, (bridge.notify notification).bridge.exportNode node =
      bridge.exportNode node := by
    intro node
    rw [exportNode_eq, exportNode_eq,
      funext (bridge.nodeId?_notify notification),
      funext (holds.radioGroup_notify notification)]
  rw [(holds.notify notification).treeUpdate_eq (focused.notify notification),
    rootId, rootLabel, holds.slots_notify, focusedNode?]
  simp only [nodeId?_notify, exportSlots, exported]

/-- A notification leaves slots of other keys than its own as they are. -/
theorem map_notified_of_others
    {notification : Notification}
    {slots : List (NodeKey × Slot)}
    (others : ∀ slot ∈ slots, notification.path.key? ≠ some slot.1) :
    (slots.map fun slot => (slot.1, slot.2.notified notification slot.1)) =
      slots := by
  conv => rhs; rw [← List.map_id slots]
  apply List.map_congr_left
  intro slot member
  rw [Slot.notified_of_key?_ne (others slot member)]
  rfl

/-- A notification that concerns one key changes at most the entry of that
key. -/
theorem changesOnly_notify
    (holds : bridge.Holds holdings)
    (focused : bridge.Focused)
    {notification : Notification}
    {key : NodeKey}
    (concerned : notification.path.key? = some key)
    (unmoved : (Operation.notify notification).newFocus? = none) :
    bridge.ChangesOnly (bridge.notify notification).bridge key := by
  have before := holds.treeUpdate_eq focused
  have update := holds.treeUpdate_notify focused notification
  rw [focus_notify, unmoved, Option.getD_none, ← focusedNode?] at update
  cases listed : bridge.tree.nodeId? key with
  | none =>
      have others : ∀ slot ∈ bridge.tree.slots.entries,
          notification.path.key? ≠ some slot.1 := by
        intro slot member same
        obtain rfl := Option.some.inj (concerned.symm.trans same)
        have present := holds.sound.nodeId?_of_mem member
        rw [listed] at present
        cases present
      rw [map_notified_of_others others, ← before] at update
      simpa only [ChangesOnly, listed] using update
  | some id =>
      obtain ⟨node, member⟩ :=
        (holds.sound.nodeId?_eq_some_iff _ _).mp listed
      obtain ⟨earlier, later, split, different⟩ :=
        Table.exists_split_of_mem_entries holds.sound.distinct_slots member
      have others : ∀ slot ∈ earlier ++ later,
          notification.path.key? ≠ some slot.1 := by
        intro slot inOthers same
        have sameKey := Option.some.inj (concerned.symm.trans same)
        exact different slot inOthers sameKey.symm
      have front := map_notified_of_others fun slot inFront =>
        others slot (List.mem_append_left _ inFront)
      have back := map_notified_of_others fun slot inBack =>
        others slot (List.mem_append_right _ inBack)
      rw [split, List.map_append, List.map_cons, front, back, exportSlots,
        List.map_append, List.map_cons] at update
      rw [split, exportSlots, List.map_append, List.map_cons] at before
      simp only [ChangesOnly, listed]
      refine ⟨_, _, _,
        bridge.exportNode ((Slot.mk id node).notified notification key).node,
        _, congrArg TreeUpdate.nodes before, ?_⟩
      rw [update, before]
      simpa [TreeUpdate.whole] using
        Slot.id_notified notification key (Slot.mk id node)

/-! ## Operations -/

theorem exportDelta_add
    (holds : bridge.Holds holdings)
    (focused : bridge.Focused)
    (numbered : bridge.tree.Numbered attached)
    (object : WidgetRef)
    (widget : Widget) :
    (Operation.add object widget).ExportDelta bridge
      (bridge.add object widget).bridge := by
  rw [Operation.ExportDelta]
  by_cases admits : widget.isAccessible = true ∧
      bridge.isRegistered widget.id = false
  · rw [if_pos ⟨admits.2, holds.isRegistered_add admits.1 admits.2 object⟩]
    exact holds.extends_add admits.1 admits.2 object numbered focused
  · rw [add_of_refused admits, if_neg]
    rintro ⟨unregistered, registered⟩
    exact Bool.false_ne_true (unregistered.symm.trans registered)

theorem exportDelta_remove
    (holds : bridge.Holds holdings)
    (focused : bridge.Focused)
    (numbered : bridge.tree.Numbered attached)
    (id : WidgetId) :
    (Operation.remove id).ExportDelta bridge (bridge.remove id).bridge := by
  rw [Operation.ExportDelta]
  split
  · next registered => exact holds.shrinks_remove numbered focused registered
  · next unregistered =>
    rw [remove_of_unregistered (Bool.eq_false_iff.mpr unregistered)]

/-- A shutdown drops every entry but the root container's. -/
theorem exportDelta_shutdown
    (holds : bridge.Holds holdings)
    (focused : bridge.Focused) :
    Operation.shutdown.ExportDelta bridge bridge.shutdown.bridge := by
  have start : bridge.shutdown.bridge.Focused := rfl
  rw [Operation.ExportDelta, (shutdown bridge).treeUpdate_eq start,
    holds.treeUpdate_eq focused]
  have none : ∀ members : List (NodeId × ExportNode),
      (members.filter fun entry => entry.1 ∉ members.map (·.1)) = [] := by
    intro members
    rw [List.filter_eq_nil_iff]
    intro entry member
    simpa using ⟨entry.2, member⟩
  rw [TreeUpdate.whole_members, TreeUpdate.whole_without,
    TreeUpdate.whole_refocus, none]
  rfl

/-- A notification that does not move the focus changes the entry of its key, if
it has one, and nothing else. -/
theorem changes_notify
    (holds : bridge.Holds holdings)
    (focused : bridge.Focused)
    {notification : Notification}
    (unmoved : (Operation.notify notification).newFocus? = none) :
    match notification.path.key? with
    | some key => bridge.ChangesOnly (bridge.notify notification).bridge key
    | none =>
        (bridge.notify notification).bridge.treeUpdate =
          bridge.treeUpdate := by
  split
  · next key concerned =>
    exact holds.changesOnly_notify focused concerned unmoved
  · next unconcerned =>
    have others : ∀ slot ∈ bridge.tree.slots.entries,
        notification.path.key? ≠ some slot.1 := by
      intro slot _
      rw [unconcerned]
      exact Ne.symm (Option.some_ne_none _)
    rw [holds.treeUpdate_notify focused, focus_notify, unmoved,
      Option.getD_none, ← focusedNode?, map_notified_of_others others,
      ← holds.treeUpdate_eq focused]

/-- A move of the focus changes nothing but the focus. -/
theorem refocus_notify
    (holds : bridge.Holds holdings)
    (focused : bridge.Focused)
    {notification : Notification}
    {focus : Option WidgetId}
    (path : notification.path = .moveFocus focus) :
    (bridge.notify notification).bridge.treeUpdate =
      bridge.treeUpdate.refocus bridge.tree.root.id
        (focus.bind fun id => bridge.tree.nodeId? (.widget id)) := by
  have moves : (Operation.notify notification).newFocus? = some focus := by
    rw [Operation.newFocus?_notify, path]
  have others : ∀ slot ∈ bridge.tree.slots.entries,
      notification.path.key? ≠ some slot.1 := by
    intro slot _ same
    rw [path] at same
    cases same
  rw [holds.treeUpdate_notify focused, focus_notify, moves, Option.getD_some,
    map_notified_of_others others, holds.treeUpdate_eq focused,
    TreeUpdate.whole_refocus]

theorem exportDelta_notify
    (holds : bridge.Holds holdings)
    (focused : bridge.Focused)
    (notification : Notification) :
    (Operation.notify notification).ExportDelta bridge
      (bridge.notify notification).bridge := by
  have moves := Operation.newFocus?_notify notification
  rw [Operation.ExportDelta]
  cases path : notification.path with
  | moveFocus focus => exact holds.refocus_notify focused path
  | _ =>
      rw [path] at moves
      have changes := holds.changes_notify focused moves
      rwa [path] at changes

/-- Every operation changes the export as it should. -/
theorem exportDelta
    (holds : bridge.Holds holdings)
    (focused : bridge.Focused)
    (numbered : bridge.tree.Numbered attached)
    (operation : Operation) :
    operation.ExportDelta bridge (bridge.perform operation).bridge := by
  cases operation with
  | add object widget =>
      exact holds.exportDelta_add focused numbered object widget
  | remove id => exact holds.exportDelta_remove focused numbered id
  | shutdown => exact holds.exportDelta_shutdown focused
  | notify notification => exact holds.exportDelta_notify focused notification
  | onSelection subscriber => rfl
  | onNotification subscriber => rfl
  | exportTree => rfl
  | request living request quiet => rfl

end Holds

/-- In every reachable bridge whose node ids have lasted, every operation
changes the export as it should and in no other way. -/
theorem run_exportDelta
    (config : Config)
    (operations : List Operation)
    (operation : Operation)
    (room : Journal.attachments ((new config).run operations).journal ≤
      Tree.attachmentLimit) :
    operation.ExportDelta ((new config).run operations).bridge
      (((new config).run operations).bridge.perform operation).bridge := by
  obtain ⟨holdings, holds⟩ := run_holds config operations
  exact holds.exportDelta (run_focused config operations)
    (run_numbered config operations room) operation

/-- A radio button of the group `Size`. -/
def awaitedRadio : Widget where
  id := ⟨7⟩
  name := "Size"
  code := 3

/-- A radio button and a text field, and the focus on a radio button that is
not added yet. -/
def awaitedFocus : List Operation :=
  [.add ⟨0⟩ { id := ⟨5⟩, name := "Size", code := 3 },
    .add ⟨1⟩ { id := ⟨6⟩, name := "Search", code := 17 },
    .notify (.focusChanged none (some awaitedRadio.id))]

/-- The awaited widget joins a radio group and gets the focus. -/
theorem run_exportDelta_awaitedFocus :
    Journal.attachments ((new {}).run awaitedFocus).journal = 3 ∧
      ((new {}).run awaitedFocus).bridge.Extends
        (((new {}).run awaitedFocus).bridge.perform
          (.add ⟨2⟩ awaitedRadio)).bridge awaitedRadio ∧
      (((new {}).run awaitedFocus).bridge.perform
          (.add ⟨2⟩ awaitedRadio)).bridge.treeUpdate.nodes.map (·.2.radioGroup) =
        [[], [⟨1⟩, ⟨4⟩], [], [], [⟨1⟩, ⟨4⟩]] := by
  have delta := run_exportDelta {} awaitedFocus (.add ⟨2⟩ awaitedRadio)
    (by decide)
  rw [Operation.ExportDelta, if_pos (by decide)] at delta
  refine ⟨by decide, delta, ?_⟩
  rw [delta.update]
  decide

end Bridge
end AssistiveTree
