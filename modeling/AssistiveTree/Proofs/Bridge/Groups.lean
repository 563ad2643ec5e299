import AssistiveTree.Proofs.Bridge.Routing

/-!
# Radio groups

A node with a group name is exported with the node ids of all nodes that have
the same one, itself among them. While node ids last, the exported groups are
the classes of equal group names: they do not overlap, every member lists the
same group, and together they hold the radio buttons and nothing else.

The group name of a radio button is the name that it was added with. A report of
another name changes its label and leaves it in its group.
-/

namespace AssistiveTree

/-- Radio buttons, and no other widgets, are classified as radio buttons. -/
theorem classify_role_eq_radio_iff (code : Int32) :
    (classify code).role = .radio ↔ (classify code).rule = .radioGroup := by
  unfold classify
  cases Kind.ofCode? code with
  | none => decide
  | some kind => cases kind <;> decide

namespace Bridge

/-- The group name of an attached node, if it has one. -/
def groupName? (bridge : Bridge) (key : NodeKey) : Option String :=
  (bridge.node? key).bind (·.groupName)

/-- The keys of all nodes with a group name, in attach order. -/
def groupKeys (bridge : Bridge) (name : String) : List NodeKey :=
  bridge.tree.root.children.filter fun key =>
    bridge.groupName? key = some name

/-- An entry of the export has the node id of a key. -/
def Exports
    (bridge : Bridge)
    (key : NodeKey)
    (entry : NodeId × ExportNode) : Prop :=
  entry ∈ bridge.treeUpdate.nodes ∧ bridge.tree.nodeId? key = some entry.1

/-- The exported radio groups are the classes of equal group names. -/
structure GroupsByName (bridge : Bridge) : Prop where
  /-- A group lists its members in attach order, and each of them lists it. -/
  members : ∀ key entry name,
    bridge.Exports key entry → bridge.groupName? key = some name →
    entry.2.radioGroup.map some =
        (bridge.groupKeys name).map bridge.tree.nodeId? ∧
      entry.2.radioGroup.count entry.1 = 1
  others : ∀ entry ∈ bridge.treeUpdate.nodes,
    (∀ key, bridge.tree.nodeId? key = some entry.1 →
      bridge.groupName? key = none) →
    entry.2.radioGroup = []
  root : ∀ node, (bridge.tree.root.id, node) ∈ bridge.treeUpdate.nodes →
    node.radioGroup = []
  companions : ∀ owner entry, bridge.Exports (.selection owner) entry →
    entry.2.radioGroup = []
  symmetric : ∀ first ∈ bridge.treeUpdate.nodes,
    ∀ second ∈ bridge.treeUpdate.nodes,
    second.1 ∈ first.2.radioGroup →
    first.1 ∈ second.2.radioGroup ∧
      second.2.radioGroup = first.2.radioGroup
  disjoint : ∀ first firstEntry firstName second secondEntry secondName,
    bridge.Exports first firstEntry → bridge.Exports second secondEntry →
    bridge.groupName? first = some firstName →
    bridge.groupName? second = some secondName →
    firstName ≠ secondName →
    firstEntry.2.radioGroup.Disjoint secondEntry.2.radioGroup
  /-- Together the groups hold the radio buttons. -/
  union : ∀ id,
    (∃ entry ∈ bridge.treeUpdate.nodes, id ∈ entry.2.radioGroup) ↔
      ∃ widget node,
        bridge.node? (.widget widget) = some node ∧
          bridge.tree.nodeId? (.widget widget) = some id ∧
          node.role = .radio

/-! ## Members of a group -/

/-- An exported node lists the group of its group name, if it has one. -/
theorem radioGroup_exportNode (bridge : Bridge) (node : Node) :
    (bridge.exportNode node).radioGroup =
      (node.groupName.map bridge.radioGroup).getD [] := by
  rw [exportNode_eq]

namespace Holds

variable {bridge : Bridge} {holdings : List Holding} {attached : Nat}
variable {key : NodeKey} {id : NodeId} {entry : NodeId × ExportNode}

/-- The group name of a slot's key is that of its node. -/
theorem groupName?_of_mem
    (holds : bridge.Holds holdings)
    {slot : NodeKey × Slot}
    (member : slot ∈ bridge.tree.slots.entries) :
    bridge.groupName? slot.1 = slot.2.node.groupName := by
  have found : bridge.node? slot.1 = some slot.2.node :=
    holds.sound.node?_of_mem member
  rw [groupName?, found, Option.bind_some]

/-- A radio group is what is left of the slots without the other nodes. -/
theorem radioGroup_eq (holds : bridge.Holds holdings) (name : String) :
    bridge.radioGroup name =
      (bridge.tree.slots.entries.filter fun slot =>
        slot.2.node.groupName = some name).map fun slot => slot.2.id := by
  rw [radioGroup_eq_filterMap, holds.sound.toList_eq, List.filterMap_map,
    ← List.filterMap_eq_filter, List.map_filterMap]
  apply List.filterMap_congr
  intro slot member
  have listed : bridge.tree.nodeId? slot.1 = some slot.2.id :=
    holds.sound.nodeId?_of_mem member
  by_cases named : slot.2.node.groupName = some name <;>
    simp [named, listed, Option.guard]

/-- A radio group lists the node ids of its keys. -/
theorem radioGroup_map_some (holds : bridge.Holds holdings) (name : String) :
    (bridge.radioGroup name).map some =
      (bridge.groupKeys name).map bridge.tree.nodeId? := by
  have keys : bridge.groupKeys name =
      (bridge.tree.slots.entries.filter fun slot =>
        slot.2.node.groupName = some name).map fun slot => slot.1 := by
    rw [groupKeys, holds.sound.children_eq, Table.keys, List.filter_map]
    congr 1
    apply List.filter_congr
    intro slot member
    simp only [Function.comp_apply, holds.groupName?_of_mem member]
  rw [keys, holds.radioGroup_eq, List.map_map, List.map_map]
  apply List.map_congr_left
  intro slot member
  exact (holds.sound.nodeId?_of_mem (List.mem_of_mem_filter member)).symm

/-- A node id is in a radio group when a node of the group has it. -/
theorem mem_radioGroup_iff (holds : bridge.Holds holdings) (name : String) :
    id ∈ bridge.radioGroup name ↔
      ∃ key, bridge.tree.nodeId? key = some id ∧
        bridge.groupName? key = some name := by
  rw [holds.radioGroup_eq, List.mem_map]
  constructor
  · rintro ⟨slot, member, rfl⟩
    obtain ⟨inSlots, named⟩ := List.mem_filter.mp member
    refine ⟨slot.1, ?_, ?_⟩
    · exact holds.sound.nodeId?_of_mem inSlots
    · rw [holds.groupName?_of_mem inSlots]
      exact of_decide_eq_true named
  · rintro ⟨key, listed, named⟩
    obtain ⟨node, inSlots⟩ := (holds.sound.nodeId?_eq_some_iff _ _).mp listed
    rw [holds.groupName?_of_mem inSlots] at named
    exact ⟨_, List.mem_filter.mpr ⟨inSlots, decide_eq_true named⟩, rfl⟩

/-- The id of a node is in a radio group when the node has that group name. -/
theorem mem_radioGroup_iff_of_nodeId?
    (holds : bridge.Holds holdings)
    (numbered : bridge.tree.Numbered attached)
    (listed : bridge.tree.nodeId? key = some id)
    (name : String) :
    id ∈ bridge.radioGroup name ↔ bridge.groupName? key = some name := by
  rw [holds.mem_radioGroup_iff]
  constructor
  · rintro ⟨other, otherListed, named⟩
    obtain rfl := numbered.key_unique listed otherListed
    exact named
  · intro named
    exact ⟨key, listed, named⟩

/-- Radio groups have no member twice. -/
theorem nodup_radioGroup
    (holds : bridge.Holds holdings)
    (numbered : bridge.tree.Numbered attached)
    (name : String) :
    (bridge.radioGroup name).Nodup := by
  have ids : (bridge.tree.slots.entries.map fun slot => slot.2.id).Nodup := by
    have all := holds.nodup_ids numbered
    rw [holds.treeUpdate_ids, List.nodup_cons] at all
    exact all.2
  rw [holds.radioGroup_eq]
  exact (List.filter_sublist.map _).nodup ids

/-! ## Exported groups -/

/-- Every attached node is exported. -/
theorem exports_of_mem
    (holds : bridge.Holds holdings)
    {slot : NodeKey × Slot}
    (member : slot ∈ bridge.tree.slots.entries) :
    bridge.Exports slot.1 (slot.2.id, bridge.exportNode slot.2.node) := by
  refine ⟨?_, ?_⟩
  · rw [holds.treeUpdate_nodes]
    exact List.mem_cons_of_mem _ (List.mem_map.mpr ⟨slot, member, rfl⟩)
  · exact holds.sound.nodeId?_of_mem member

/-- Whatever is exported is the root container or has the id of a key. -/
theorem eq_root_or_exports
    (holds : bridge.Holds holdings)
    (member : entry ∈ bridge.treeUpdate.nodes) :
    entry = (bridge.tree.root.id, bridge.exportRoot) ∨
      ∃ slot ∈ bridge.tree.slots.entries,
        entry = (slot.2.id, bridge.exportNode slot.2.node) := by
  rw [holds.treeUpdate_nodes, List.mem_cons, List.mem_map] at member
  refine member.imp_right ?_
  rintro ⟨slot, inSlots, rfl⟩
  exact ⟨slot, inSlots, rfl⟩

/-- The entry with the node id of a key lists the group of that key. -/
theorem radioGroup_of_exports
    (holds : bridge.Holds holdings)
    (numbered : bridge.tree.Numbered attached)
    (exports : bridge.Exports key entry) :
    entry.2.radioGroup =
      ((bridge.groupName? key).map bridge.radioGroup).getD [] := by
  obtain ⟨member, listed⟩ := exports
  rcases holds.eq_root_or_exports member with rfl | ⟨slot, inSlots, rfl⟩
  · exact absurd rfl (numbered.reserved _ (Tree.mem_idNumbers listed))
  · obtain rfl : key = slot.1 :=
      numbered.key_unique listed (holds.sound.nodeId?_of_mem inSlots)
    rw [radioGroup_exportNode, holds.groupName?_of_mem inSlots]

/-- Who lists a group has its group name. -/
theorem exists_of_mem_exported
    (holds : bridge.Holds holdings)
    (member : entry ∈ bridge.treeUpdate.nodes)
    (grouped : id ∈ entry.2.radioGroup) :
    ∃ key name, bridge.tree.nodeId? key = some entry.1 ∧
      bridge.groupName? key = some name ∧
      entry.2.radioGroup = bridge.radioGroup name := by
  rcases holds.eq_root_or_exports member with rfl | ⟨slot, inSlots, rfl⟩
  · rw [exportRoot_eq] at grouped
    exact absurd grouped List.not_mem_nil
  · rw [radioGroup_exportNode] at grouped ⊢
    cases named : slot.2.node.groupName with
    | none =>
        rw [named] at grouped
        exact absurd grouped List.not_mem_nil
    | some name =>
        refine ⟨slot.1, name, (holds.exports_of_mem inSlots).2, ?_, rfl⟩
        rw [holds.groupName?_of_mem inSlots, named]

/-- Companions have no group name. -/
theorem groupName?_selection
    (holds : bridge.Holds holdings)
    (owner : WidgetId) :
    bridge.groupName? (.selection owner) = none := by
  cases found : bridge.node? (.selection owner) with
  | none => rw [groupName?, found, Option.bind_none]
  | some node =>
      rw [groupName?, found, Option.bind_some]
      exact ((holds.coherentAt owner).selection node found).groupName

end Holds

/-! ## Radio buttons -/

/-- Radio buttons have the name of their effective add as group name. -/
theorem Tenure.groupName_of_radio
    {tenure : Tenure}
    (radio : tenure.primary.role = .radio) :
    tenure.primary.groupName = some tenure.widget.name := by
  rw [primary, classify_role_eq_radio_iff] at radio
  exact if_pos radio

/-- No other widgets have a group name. -/
theorem Tenure.radio_of_groupName
    {tenure : Tenure}
    {name : String}
    (named : tenure.primary.groupName = some name) :
    tenure.primary.role = .radio := by
  rw [primary] at named ⊢
  rw [classify_role_eq_radio_iff]
  by_contra other
  rw [if_neg other] at named
  cases named

namespace Holds

variable {bridge : Bridge} {holdings : List Holding} {attached : Nat}
variable {operations : List Operation}

/-- The primary node of a widget tells of its tenure. -/
theorem exists_tenure_of_node?
    (holds : bridge.Holds holdings)
    (recalls : Recalls holdings operations)
    {widget : WidgetId}
    {node : Node}
    (found : bridge.node? (.widget widget) = some node) :
    ∃ tenure, tenure.widget.id = widget ∧
      tenure? widget operations = some tenure ∧ node = tenure.primary := by
  obtain ⟨id, inSlots⟩ := (holds.sound.node?_eq_some_iff _ _).mp found
  obtain ⟨tenure, same, serving, primary, _⟩ :=
    holds.exists_tenure recalls inSlots
  exact ⟨tenure, same, serving, primary⟩

/-- Who has a group name is a radio button. -/
theorem exists_radio_of_groupName?
    (holds : bridge.Holds holdings)
    (recalls : Recalls holdings operations)
    {key : NodeKey}
    {name : String}
    (named : bridge.groupName? key = some name) :
    ∃ widget node, key = .widget widget ∧
      bridge.node? (.widget widget) = some node ∧ node.role = .radio := by
  cases key with
  | selection owner =>
      rw [holds.groupName?_selection] at named
      cases named
  | widget widget =>
      obtain ⟨node, found, grouped⟩ := Option.bind_eq_some_iff.mp named
      obtain ⟨tenure, _, _, rfl⟩ := holds.exists_tenure_of_node? recalls found
      exact ⟨widget, _, rfl, found, Tenure.radio_of_groupName grouped⟩

/-- The groups that a bridge exports are the classes of equal group names while
node ids last. -/
theorem groupsByName
    (holds : bridge.Holds holdings)
    (recalls : Recalls holdings operations)
    (numbered : bridge.tree.Numbered attached) :
    bridge.GroupsByName where
  members := by
    intro key entry name exports named
    have group := holds.radioGroup_of_exports numbered exports
    rw [named, Option.map_some, Option.getD_some] at group
    have member : entry.1 ∈ bridge.radioGroup name :=
      (holds.mem_radioGroup_iff name).mpr ⟨key, exports.2, named⟩
    rw [group]
    exact ⟨holds.radioGroup_map_some name,
      List.count_eq_one_of_mem (holds.nodup_radioGroup numbered name) member⟩
  others := by
    intro entry member ungrouped
    rcases holds.eq_root_or_exports member with rfl | ⟨slot, inSlots, rfl⟩
    · rw [exportRoot_eq]
    · have exports := holds.exports_of_mem inSlots
      rw [holds.radioGroup_of_exports numbered exports,
        ungrouped slot.1 exports.2]
      rfl
  root := by
    intro node member
    rcases holds.eq_root_or_exports member with same | ⟨slot, inSlots, same⟩
    · rw [(Prod.mk.inj same).2, exportRoot_eq]
    · have listed := holds.sound.nodeId?_of_mem inSlots
      rw [← (Prod.mk.inj same).1] at listed
      exact absurd rfl (numbered.reserved _ (Tree.mem_idNumbers listed))
  companions := by
    intro owner entry exports
    rw [holds.radioGroup_of_exports numbered exports,
      holds.groupName?_selection]
    rfl
  symmetric := by
    intro first firstMember second secondMember grouped
    obtain ⟨key, name, listed, named, group⟩ :=
      holds.exists_of_mem_exported firstMember grouped
    rw [group, holds.mem_radioGroup_iff] at grouped
    obtain ⟨other, otherListed, otherNamed⟩ := grouped
    have otherGroup :=
      holds.radioGroup_of_exports numbered ⟨secondMember, otherListed⟩
    rw [otherNamed, Option.map_some, Option.getD_some] at otherGroup
    rw [group, otherGroup]
    exact ⟨(holds.mem_radioGroup_iff name).mpr ⟨key, listed, named⟩, rfl⟩
  disjoint := by
    intro first firstEntry firstName second secondEntry secondName
      firstExports secondExports firstNamed secondNamed different
    have firstGroup := holds.radioGroup_of_exports numbered firstExports
    have secondGroup := holds.radioGroup_of_exports numbered secondExports
    rw [firstNamed, Option.map_some, Option.getD_some] at firstGroup
    rw [secondNamed, Option.map_some, Option.getD_some] at secondGroup
    rw [firstGroup, secondGroup, List.disjoint_left]
    intro id inFirst inSecond
    obtain ⟨key, listed, named⟩ := (holds.mem_radioGroup_iff _).mp inFirst
    rw [holds.mem_radioGroup_iff_of_nodeId? numbered listed, named] at inSecond
    exact different (Option.some.inj inSecond)
  union := by
    intro id
    constructor
    · rintro ⟨entry, member, grouped⟩
      obtain ⟨_, name, _, _, group⟩ :=
        holds.exists_of_mem_exported member grouped
      rw [group, holds.mem_radioGroup_iff] at grouped
      obtain ⟨key, listed, named⟩ := grouped
      obtain ⟨widget, node, rfl, found, radio⟩ :=
        holds.exists_radio_of_groupName? recalls named
      exact ⟨widget, node, found, listed, radio⟩
    · rintro ⟨widget, node, found, listed, radio⟩
      obtain ⟨tenure, _, _, rfl⟩ := holds.exists_tenure_of_node? recalls found
      have named : bridge.groupName? (.widget widget) =
          some tenure.widget.name := by
        rw [groupName?, found, Option.bind_some]
        exact Tenure.groupName_of_radio radio
      obtain ⟨_, inSlots⟩ := (holds.sound.nodeId?_eq_some_iff _ _).mp listed
      have exports := holds.exports_of_mem inSlots
      refine ⟨_, exports.1, ?_⟩
      rw [holds.radioGroup_of_exports numbered exports, named,
        Option.map_some, Option.getD_some,
        holds.mem_radioGroup_iff_of_nodeId? numbered listed]
      exact named

end Holds

/-- While node ids last, every reachable bridge exports radio groups that are
the classes of equal group names. -/
theorem run_groupsByName
    (config : Config)
    (operations : List Operation)
    (room : Journal.attachments ((new config).run operations).journal ≤
      Tree.attachmentLimit) :
    ((new config).run operations).bridge.GroupsByName := by
  obtain ⟨holdings, holds, recalls⟩ := run_recalls config operations
  exact holds.groupsByName recalls (run_numbered config operations room)

/-- Two radio buttons of one group with another group between them and one of
them removed, and a text field. -/
def spreadGroup : List Operation :=
  [.add ⟨0⟩ { id := ⟨5⟩, name := "Size", code := 3 },
    .add ⟨1⟩ { id := ⟨6⟩, name := "", code := 3 },
    .add ⟨2⟩ { id := ⟨7⟩, name := "Size", code := 3 },
    .add ⟨3⟩ { id := ⟨8⟩, name := "Search", code := 17 },
    .remove ⟨7⟩,
    .add ⟨4⟩ { id := ⟨9⟩, name := "Size", code := 3 }]

/-- The group is exported without the radio button that was removed. -/
theorem run_groupsByName_spreadGroup :
    Journal.attachments ((new {}).run spreadGroup).journal = 6 ∧
      ∃ entry, ((new {}).run spreadGroup).bridge.Exports (.widget ⟨9⟩) entry ∧
        entry.2.radioGroup.map some = [some ⟨1⟩, some ⟨6⟩] := by
  have groups := run_groupsByName {} spreadGroup (by decide)
  have exports : ((new {}).run spreadGroup).bridge.Exports (.widget ⟨9⟩)
      (⟨6⟩,
        { role := .radioButton, label := some "Size", actions := [.click]
          radioGroup := [⟨1⟩, ⟨6⟩] }) := ⟨by decide, by decide⟩
  have group := (groups.members _ _ "Size" exports (by decide)).1
  exact ⟨by decide, _, exports, group.trans (by decide)⟩

/-! ## Names and groups -/

/-- No report since the effective add gave the widget another name. -/
def Tenure.KeepsName (tenure : Tenure) : Prop :=
  ∀ operation ∈ tenure.later, ∀ notification name,
    operation.notification? = some notification →
    notification.newName? tenure.widget.id = some name →
    name = tenure.widget.name

/-- A radio button as a bridge has it and exports it. -/
structure RadioButton (bridge : Bridge) (operations : List Operation) where
  widget : WidgetId
  node : Node
  found : bridge.node? (.widget widget) = some node
  radio : node.role = .radio
  tenure : Tenure
  serving : tenure? widget operations = some tenure
  entry : NodeId × ExportNode
  exports : bridge.Exports (.widget widget) entry

/-- The group name of a radio button is the name that it was added with, and its
label is the name that was reported last. -/
structure NamesGroups
    (bridge : Bridge)
    (operations : List Operation) : Prop where
  /-- Every attached radio button is exported. -/
  exported : ∀ widget node, bridge.node? (.widget widget) = some node →
    node.role = .radio →
    ∃ button : RadioButton bridge operations,
      button.widget = widget ∧ button.node = node
  groupName : ∀ button : RadioButton bridge operations,
    button.node.groupName = some button.tenure.widget.name
  label : ∀ button : RadioButton bridge operations,
    button.node.label =
      (lastReported (·.newName? button.widget) button.tenure.later).getD
        button.tenure.widget.name
  unrenamed : ∀ button : RadioButton bridge operations,
    button.tenure.KeepsName →
    button.node.groupName = some button.node.label

/-- Two radio buttons are exported in one group exactly when they were added
with the same name. -/
structure ListsByFirstName
    (bridge : Bridge)
    (operations : List Operation) : Prop where
  added : ∀ first second : RadioButton bridge operations,
    second.entry.1 ∈ first.entry.2.radioGroup ↔
      second.tenure.widget.name = first.tenure.widget.name
  unrenamed : ∀ first second : RadioButton bridge operations,
    first.tenure.KeepsName → second.tenure.KeepsName →
    (second.entry.1 ∈ first.entry.2.radioGroup ↔
      second.node.label = first.node.label)

/-- A widget that keeps its name is labelled with it. -/
theorem Tenure.label_of_keepsName
    {tenure : Tenure}
    (keeps : tenure.KeepsName) :
    tenure.primary.label = tenure.widget.name := by
  change (lastReported (·.newName? tenure.widget.id) tenure.later).getD _ = _
  cases reported :
      lastReported (·.newName? tenure.widget.id) tenure.later with
  | none => rfl
  | some name =>
      have member := List.mem_of_getLast? reported
      obtain ⟨operation, inLater, read⟩ := List.mem_filterMap.mp member
      obtain ⟨notification, notified, named⟩ := Option.bind_eq_some_iff.mp read
      exact keeps operation inLater notification name notified named

namespace RadioButton

variable {bridge : Bridge} {operations : List Operation}
variable {holdings : List Holding} {attached : Nat}

/-- A radio button shows what its tenure tells. -/
theorem node_eq
    (button : RadioButton bridge operations)
    (holds : bridge.Holds holdings)
    (recalls : Recalls holdings operations) :
    button.node = button.tenure.primary := by
  obtain ⟨tenure, _, serving, primary⟩ :=
    holds.exists_tenure_of_node? recalls button.found
  obtain rfl := Option.some.inj (button.serving.symm.trans serving)
  exact primary

theorem groupName
    (button : RadioButton bridge operations)
    (holds : bridge.Holds holdings)
    (recalls : Recalls holdings operations) :
    button.node.groupName = some button.tenure.widget.name := by
  have radio := button.radio
  rw [button.node_eq holds recalls] at radio ⊢
  exact Tenure.groupName_of_radio radio

theorem label_of_keepsName
    (button : RadioButton bridge operations)
    (holds : bridge.Holds holdings)
    (recalls : Recalls holdings operations)
    (keeps : button.tenure.KeepsName) :
    button.node.label = button.tenure.widget.name := by
  rw [button.node_eq holds recalls]
  exact Tenure.label_of_keepsName keeps

/-- A radio button is exported with the group of the name that it was added
with. -/
theorem mem_radioGroup_iff
    (first second : RadioButton bridge operations)
    (holds : bridge.Holds holdings)
    (recalls : Recalls holdings operations)
    (numbered : bridge.tree.Numbered attached) :
    second.entry.1 ∈ first.entry.2.radioGroup ↔
      second.tenure.widget.name = first.tenure.widget.name := by
  have named : ∀ button : RadioButton bridge operations,
      bridge.groupName? (.widget button.widget) =
        some button.tenure.widget.name := by
    intro button
    rw [groupName?, button.found, Option.bind_some]
    exact button.groupName holds recalls
  rw [holds.radioGroup_of_exports numbered first.exports, named first,
    Option.map_some, Option.getD_some,
    holds.mem_radioGroup_iff_of_nodeId? numbered second.exports.2,
    named second, Option.some.injEq]

end RadioButton

/-- What a bridge holds names its groups as its history tells. -/
theorem Holds.namesGroups
    {bridge : Bridge}
    {holdings : List Holding}
    {operations : List Operation}
    (holds : bridge.Holds holdings)
    (recalls : Recalls holdings operations) :
    bridge.NamesGroups operations where
  exported := by
    intro widget node found radio
    obtain ⟨id, inSlots⟩ := (holds.sound.node?_eq_some_iff _ _).mp found
    obtain ⟨tenure, _, serving, _⟩ :=
      holds.exists_tenure_of_node? recalls found
    exact ⟨⟨widget, node, found, radio, tenure, serving, _,
      holds.exports_of_mem inSlots⟩, rfl, rfl⟩
  groupName := fun button => button.groupName holds recalls
  label := by
    intro button
    obtain ⟨tenure, same, serving, primary⟩ :=
      holds.exists_tenure_of_node? recalls button.found
    obtain rfl := Option.some.inj (button.serving.symm.trans serving)
    rw [primary, ← same]
    rfl
  unrenamed := by
    intro button keeps
    rw [button.groupName holds recalls,
      button.label_of_keepsName holds recalls keeps]

/-- In every reachable bridge a radio button has the name of its effective add
as group name, which is its label unless it was renamed. While node ids last,
the exported groups are told apart by these names. -/
theorem run_namesGroups (config : Config) (operations : List Operation) :
    ((new config).run operations).bridge.NamesGroups operations ∧
      (Journal.attachments ((new config).run operations).journal ≤
          Tree.attachmentLimit →
        ((new config).run operations).bridge.ListsByFirstName operations) := by
  obtain ⟨holdings, holds, recalls⟩ := run_recalls config operations
  refine ⟨holds.namesGroups recalls, fun room => ?_⟩
  have numbered := run_numbered config operations room
  constructor
  · intro first second
    exact first.mem_radioGroup_iff second holds recalls numbered
  · intro first second firstKeeps secondKeeps
    rw [first.mem_radioGroup_iff second holds recalls numbered,
      first.label_of_keepsName holds recalls firstKeeps,
      second.label_of_keepsName holds recalls secondKeeps]

/-- A radio button that gets the name with which another one is added later. -/
def renamedRadio : List Operation :=
  [.add ⟨0⟩ { id := ⟨5⟩, name := "Size", code := 3 },
    .notify (.nameChanged { id := ⟨5⟩, name := "Color", code := 3 }),
    .add ⟨1⟩ { id := ⟨6⟩, name := "Color", code := 3 }]

/-- The radio button that was renamed. -/
def renamedButton :
    RadioButton ((new {}).run renamedRadio).bridge renamedRadio where
  widget := ⟨5⟩
  node :=
    { role := .radio, label := "Color", groupName := some "Size"
      activation := some .toggle }
  found := by decide
  radio := rfl
  tenure :=
    { object := ⟨0⟩, widget := { id := ⟨5⟩, name := "Size", code := 3 }
      later := renamedRadio.tail }
  serving := by decide
  entry :=
    (⟨1⟩,
      { role := .radioButton, label := some "Color", actions := [.click]
        radioGroup := [⟨1⟩] })
  exports := ⟨by decide, by decide⟩

/-- The radio button that was added with its name. -/
def namesakeButton :
    RadioButton ((new {}).run renamedRadio).bridge renamedRadio where
  widget := ⟨6⟩
  node :=
    { role := .radio, label := "Color", groupName := some "Color"
      activation := some .toggle }
  found := by decide
  radio := rfl
  tenure :=
    { object := ⟨1⟩, widget := { id := ⟨6⟩, name := "Color", code := 3 }
      later := [] }
  serving := by decide
  entry :=
    (⟨2⟩,
      { role := .radioButton, label := some "Color", actions := [.click]
        radioGroup := [⟨2⟩] })
  exports := ⟨by decide, by decide⟩

/-- The radio button that was renamed is not in the group of its namesake, which
has kept its name and is in its own group. -/
theorem run_namesGroups_renamedRadio :
    Journal.attachments ((new {}).run renamedRadio).journal = 2 ∧
      namesakeButton.entry.1 ∉ renamedButton.entry.2.radioGroup ∧
      namesakeButton.tenure.KeepsName ∧
      namesakeButton.entry.1 ∈ namesakeButton.entry.2.radioGroup := by
  have lists := (run_namesGroups {} renamedRadio).2 (by decide)
  have keeps : namesakeButton.tenure.KeepsName := by
    intro operation inLater
    cases inLater
  refine ⟨by decide, ?_, keeps, ?_⟩
  · rw [lists.added]
    decide
  · rw [lists.unrenamed _ _ keeps keeps]

/-- A radio button that was renamed is not in the group of its label, and two
radio buttons with one label are exported in two groups. -/
theorem groupName_ne_label_of_renamed :
    (¬ ∀ (config : Config) (operations : List Operation)
        (button : RadioButton ((new config).run operations).bridge operations),
      button.node.groupName = some button.node.label) ∧
    ¬ ∀ (config : Config) (operations : List Operation)
        (first second :
          RadioButton ((new config).run operations).bridge operations),
      second.entry.1 ∈ first.entry.2.radioGroup ↔
        second.node.label = first.node.label := by
  constructor
  · intro follows
    exact absurd (follows {} renamedRadio renamedButton) (by decide)
  · intro together
    have listed :=
      (together {} renamedRadio renamedButton namesakeButton).mpr rfl
    exact absurd listed (by decide)

end Bridge
end AssistiveTree
