import AssistiveTree.Proofs.Bridge.Export
import AssistiveTree.Proofs.Bridge.Staleness
import AssistiveTree.Proofs.Session.Moves

/-!
# Requests and exports

What an action request is answered can be read off an export of the same moment.
An id that is not exported below the root is unknown, an entry that does not
support clicks cannot be activated, and a click on any other entry reaches the
widget object behind it as long as that is alive.
-/

namespace AssistiveTree

/-- What a click asks of the widgets of a kind, if anything. -/
def Kind.activation? : Kind → Option Activation
  | .button => some .invoke
  | .checkBox => some .toggle
  | .radioButton => some .toggle
  | .toggleButton => some .toggle
  | _ => none

/-- Classification finds the activation of a kind. -/
theorem classify_activation? (code : Int32) :
    (classify code).rule.activation? =
      (Kind.ofCode? code).bind Kind.activation? := by
  unfold classify
  cases Kind.ofCode? code with
  | none => rfl
  | some kind => cases kind <;> rfl

/-- The entries of an export behind the root container's. -/
def TreeUpdate.members (update : TreeUpdate) : List (NodeId × ExportNode) :=
  update.nodes.tail

/-- The answer to a quiet request tells the activation and no error. -/
theorem Session.ask_quiet
    (session : Session)
    (request : ActionRequest)
    (slot : String) :
    (session.ask request slot true).answer =
      match session.bridge.resolve session.living request with
      | .ok pending => .routed pending
      | .error _ => .done := by
  rw [ask_eq]
  cases session.bridge.resolve session.living request <;> rfl

namespace Bridge

/-- A request whose refusal is left to the journal gets the activation that it
is resolved to, and nothing on every error. -/
theorem handleAction_answer
    (bridge : Bridge)
    (living : List WidgetRef)
    (request : ActionRequest) :
    (bridge.handleAction living request).answer =
      (bridge.resolve living request).toOption := by
  simp only [handleAction, tryHandleAction]
  cases bridge.resolve living request <;> rfl

/-- A request is answered as the export of the bridge tells. -/
structure AnswersAsExported
    (bridge : Bridge)
    (operations : List Operation)
    (living : List WidgetRef)
    (request : ActionRequest) : Prop where
  unsupported : request.action ≠ .click →
    bridge.resolve living request =
      .error (.unsupportedAction request.action)
  unknown : request.action = .click →
    (∀ node, (request.target, node) ∉ bridge.treeUpdate.members) →
    bridge.resolve living request = .error (.unknownNode request.target)
  /-- The root container is not a member. -/
  root : request.action = .click →
    request.target = bridge.tree.root.id →
    bridge.resolve living request = .error (.unknownNode request.target)
  owned : ∀ node, (request.target, node) ∈ bridge.treeUpdate.members →
    ∃ key, bridge.tree.nodeId? key = some request.target
  inactive : request.action = .click →
    ∀ key node, bridge.tree.nodeId? key = some request.target →
    (request.target, node) ∈ bridge.treeUpdate.members →
    .click ∉ node.actions →
    bridge.resolve living request = .error (.notActivatable key)
  companion : ∀ owner node,
    bridge.tree.nodeId? (.selection owner) = some request.target →
    (request.target, node) ∈ bridge.treeUpdate.members →
    .click ∉ node.actions
  /-- A click reaches the object of the effective add, if that still lives, with
  the activation of the kind that the widget was added as. -/
  active : request.action = .click →
    ∀ key node, bridge.tree.nodeId? key = some request.target →
    (request.target, node) ∈ bridge.treeUpdate.members →
    .click ∈ node.actions →
    ∃ tenure activation,
      key = .widget tenure.widget.id ∧
        tenure? tenure.widget.id operations = some tenure ∧
        bridge.registry.entries.get? tenure.widget.id = some tenure.object ∧
        tenure.widget.kind?.bind Kind.activation? = some activation ∧
        bridge.resolve living request =
          if tenure.object ∈ living then
            .ok ⟨tenure.object, tenure.widget.id, activation⟩
          else .error (.widgetDropped tenure.widget.id)

/-- An exported node supports clicks exactly when the node has an
activation. -/
theorem click_mem_exportNode (bridge : Bridge) (node : Node) :
    .click ∈ (bridge.exportNode node).actions ↔
      node.activation.isSome = true := by
  rw [exportNode_eq, ofNode_eq]
  cases activatable : node.activation <;>
    simp [Node.isActivatable, activatable]

namespace Holds

variable {bridge : Bridge} {holdings : List Holding} {attached : Nat}
variable {operations : List Operation}
variable {target : NodeId} {exported : ExportNode}

/-- The members of an export are the attached nodes. -/
theorem mem_members_iff (holds : bridge.Holds holdings) :
    (target, exported) ∈ bridge.treeUpdate.members ↔
      ∃ key node, (key, Slot.mk target node) ∈ bridge.tree.slots.entries ∧
        bridge.exportNode node = exported := by
  rw [TreeUpdate.members, holds.treeUpdate_nodes, List.tail_cons,
    List.mem_map]
  constructor
  · rintro ⟨⟨key, slot⟩, member, same⟩
    obtain ⟨rfl, rfl⟩ := Prod.mk.inj same
    exact ⟨key, slot.node, member, rfl⟩
  · rintro ⟨key, node, member, rfl⟩
    exact ⟨(key, ⟨target, node⟩), member, rfl⟩

/-- The member with the node id of a key exports the node of that key. -/
theorem exists_of_mem_members
    (holds : bridge.Holds holdings)
    (numbered : bridge.tree.Numbered attached)
    {key : NodeKey}
    (assigned : bridge.tree.nodeId? key = some target)
    (member : (target, exported) ∈ bridge.treeUpdate.members) :
    ∃ node, (key, Slot.mk target node) ∈ bridge.tree.slots.entries ∧
      bridge.exportNode node = exported := by
  obtain ⟨other, node, inSlots, same⟩ := holds.mem_members_iff.mp member
  obtain rfl : other = key :=
    numbered.key_unique (holds.sound.nodeId?_of_mem inSlots) assigned
  exact ⟨node, inSlots, same⟩

/-- Every member of an export has the node id of a key. -/
theorem exists_key_of_mem_members
    (holds : bridge.Holds holdings)
    (member : (target, exported) ∈ bridge.treeUpdate.members) :
    ∃ key, bridge.tree.nodeId? key = some target := by
  obtain ⟨key, node, inSlots, _⟩ := holds.mem_members_iff.mp member
  exact ⟨key, holds.sound.nodeId?_of_mem inSlots⟩

/-- The root container's id is not handed out to members. -/
theorem root_not_mem_members
    (holds : bridge.Holds holdings)
    (numbered : bridge.tree.Numbered attached) :
    (bridge.tree.root.id, exported) ∉ bridge.treeUpdate.members := by
  intro member
  obtain ⟨key, listed⟩ := holds.exists_key_of_mem_members member
  exact numbered.reserved _ (Tree.mem_idNumbers listed) rfl

/-- The primary node of a widget is the one of its tenure, and its object is
registered. -/
theorem exists_tenure
    (holds : bridge.Holds holdings)
    (recalls : Recalls holdings operations)
    {id : WidgetId}
    {slot : Slot}
    (member : (.widget id, slot) ∈ bridge.tree.slots.entries) :
    ∃ tenure,
      tenure.widget.id = id ∧
        tenure? id operations = some tenure ∧
        slot.node = tenure.primary ∧
        bridge.registry.entries.get? id = some tenure.object := by
  obtain ⟨holding, held, _, rfl⟩ := holds.exists_of_mem_slots member
  obtain ⟨tenure, serving, follows⟩ := recalls.follows holding held
  have stored := Table.get?_of_mem_entries holds.sound.distinct_slots member
  obtain rfl := Option.some.inj (stored.symm.trans (holds.get?_widget held))
  exact ⟨tenure, (tenure?_widget serving).1, serving, follows.primary,
    (holds.registry_get? held).trans (congrArg some follows.object)⟩

/-- A companion accepts no activation. -/
theorem activation_of_selection
    (holds : bridge.Holds holdings)
    {owner : WidgetId}
    {slot : Slot}
    (member : (.selection owner, slot) ∈ bridge.tree.slots.entries) :
    slot.node.activation = none := by
  have attached : bridge.node? (.selection owner) = some slot.node :=
    holds.sound.node?_of_mem member
  exact ((holds.coherentAt owner).selection _ attached).activation

end Holds

/-! ## Clicks -/

section Clicks

variable {bridge : Bridge} {holdings : List Holding} {attached : Nat}
variable {operations : List Operation}
variable {target : NodeId} {exported : ExportNode}

/-- A click on an id that no member of the export has is refused. -/
theorem resolve_of_unlisted
    (holds : bridge.Holds holdings)
    (numbered : bridge.tree.Numbered attached)
    (unlisted : ∀ node, (target, node) ∉ bridge.treeUpdate.members)
    (living : List WidgetRef) :
    bridge.resolve living ⟨.click, target⟩ = .error (.unknownNode target) := by
  have absent : bridge.tree.keyOf? target = none := by
    rw [Option.eq_none_iff_forall_ne_some]
    intro key found
    have assigned := (numbered.keyOf?_eq_some_iff holds.sound _ _).mp found
    obtain ⟨node, member⟩ :=
      (holds.sound.nodeId?_eq_some_iff _ _).mp assigned
    exact unlisted _ (holds.mem_members_iff.mpr ⟨key, node, member, rfl⟩)
  simp [resolve, absent]

/-- A click on a companion is refused. -/
theorem resolve_of_selection
    (holds : bridge.Holds holdings)
    (numbered : bridge.tree.Numbered attached)
    {owner : WidgetId}
    (assigned : bridge.tree.nodeId? (.selection owner) = some target)
    (living : List WidgetRef) :
    bridge.resolve living ⟨.click, target⟩ =
      .error (.notActivatable (.selection owner)) := by
  have found := (numbered.keyOf?_eq_some_iff holds.sound _ _).mpr assigned
  simp [resolve, found]

/-- A click on a member that does not support clicks is refused. -/
theorem resolve_of_inactive
    (holds : bridge.Holds holdings)
    (recalls : Recalls holdings operations)
    (numbered : bridge.tree.Numbered attached)
    {key : NodeKey}
    (assigned : bridge.tree.nodeId? key = some target)
    (member : (target, exported) ∈ bridge.treeUpdate.members)
    (inactive : .click ∉ exported.actions)
    (living : List WidgetRef) :
    bridge.resolve living ⟨.click, target⟩ =
      .error (.notActivatable key) := by
  obtain ⟨node, inSlots, rfl⟩ :=
    holds.exists_of_mem_members numbered assigned member
  rw [click_mem_exportNode] at inactive
  cases key with
  | selection owner =>
      exact resolve_of_selection holds numbered assigned living
  | widget id =>
      obtain ⟨tenure, rfl, serving, primary, _⟩ :=
        holds.exists_tenure recalls inSlots
      obtain rfl : node = tenure.primary := primary
      have none : (classify tenure.widget.code).rule.activation? = none := by
        simpa [Tenure.primary] using inactive
      rw [resolve_of_assigned holds recalls numbered assigned serving,
        Tenure.clicked, none]

/-- A click on a member that supports clicks leads to the widget of a tenure, if
the object of the effective add still lives. -/
theorem exists_resolve_of_active
    (holds : bridge.Holds holdings)
    (recalls : Recalls holdings operations)
    (numbered : bridge.tree.Numbered attached)
    {key : NodeKey}
    (assigned : bridge.tree.nodeId? key = some target)
    (member : (target, exported) ∈ bridge.treeUpdate.members)
    (active : .click ∈ exported.actions)
    (living : List WidgetRef) :
    ∃ tenure activation,
      key = .widget tenure.widget.id ∧
        tenure? tenure.widget.id operations = some tenure ∧
        bridge.registry.entries.get? tenure.widget.id = some tenure.object ∧
        tenure.widget.kind?.bind Kind.activation? = some activation ∧
        bridge.resolve living ⟨.click, target⟩ =
          if tenure.object ∈ living then
            .ok ⟨tenure.object, tenure.widget.id, activation⟩
          else .error (.widgetDropped tenure.widget.id) := by
  obtain ⟨node, inSlots, rfl⟩ :=
    holds.exists_of_mem_members numbered assigned member
  rw [click_mem_exportNode] at active
  cases key with
  | selection owner =>
      rw [holds.activation_of_selection inSlots] at active
      cases active
  | widget id =>
      obtain ⟨tenure, rfl, serving, primary, registered⟩ :=
        holds.exists_tenure recalls inSlots
      obtain rfl : node = tenure.primary := primary
      obtain ⟨activation, classified⟩ :
          ∃ activation, (classify tenure.widget.code).rule.activation? =
            some activation := Option.isSome_iff_exists.mp active
      refine ⟨tenure, activation, rfl, serving, registered, ?_, ?_⟩
      · rw [← classified, classify_activation?]
        rfl
      · rw [resolve_of_assigned holds recalls numbered assigned serving,
          Tenure.clicked, classified]

end Clicks

/-- While node ids last, every reachable bridge answers every request as its
export tells. A request whose refusal is left to the journal gets the same
activation or nothing, and so does a session that asks quietly. -/
theorem run_answersAsExported
    (config : Config)
    (operations : List Operation)
    (living : List WidgetRef)
    (request : ActionRequest)
    (room : Journal.attachments ((new config).run operations).journal ≤
      Tree.attachmentLimit) :
    ((new config).run operations).bridge.AnswersAsExported operations living
        request ∧
      (((new config).run operations).bridge.handleAction living
          request).answer =
        (((new config).run operations).bridge.resolve living
          request).toOption ∧
      ∀ session : Session,
        session.bridge = ((new config).run operations).bridge →
        ∀ slot, (session.ask request slot true).answer =
          match ((new config).run operations).bridge.resolve session.living
            request with
          | .ok pending => .routed pending
          | .error _ => .done := by
  obtain ⟨holdings, holds, recalls⟩ := run_recalls config operations
  have numbered := run_numbered config operations room
  obtain ⟨action, target⟩ := request
  refine ⟨?_, handleAction_answer _ _ _, ?_⟩
  · constructor
    · intro other
      exact if_pos other
    · rintro rfl unlisted
      exact resolve_of_unlisted holds numbered unlisted living
    · rintro rfl rfl
      exact resolve_of_unlisted holds numbered
        (fun _ => holds.root_not_mem_members numbered) living
    · intro node member
      exact holds.exists_key_of_mem_members member
    · rintro rfl key node assigned member inactive
      exact resolve_of_inactive holds recalls numbered assigned member
        inactive living
    · intro owner node assigned member
      obtain ⟨source, inSlots, rfl⟩ :=
        holds.exists_of_mem_members numbered assigned member
      rw [click_mem_exportNode, holds.activation_of_selection inSlots]
      exact Bool.false_ne_true
    · rintro rfl key node assigned member active
      exact exists_resolve_of_active holds recalls numbered assigned member
        active living
  · intro session same slot
    rw [← same]
    exact session.ask_quiet ⟨action, target⟩ slot

/-- A radio button whose id is then offered for a button, and a text field. -/
def offeredTwice : List Operation :=
  [.add ⟨0⟩ { id := ⟨5⟩, name := "Whole words", code := 3 },
    .add ⟨1⟩ { id := ⟨6⟩, name := "Search", code := 17 },
    .add ⟨2⟩ { id := ⟨5⟩, name := "Find", code := 4 }]

/-- A click on an id that was offered as a radio button and then as a button
flips the radio button, and a click on the companion of a text field is
refused. -/
theorem run_answersAsExported_offeredTwice :
    ((new { rootId := ⟨1⟩ }).run offeredTwice).bridge.resolve [⟨0⟩, ⟨2⟩]
        ⟨.click, ⟨2⟩⟩ = .ok ⟨⟨0⟩, ⟨5⟩, .toggle⟩ ∧
      ((new { rootId := ⟨1⟩ }).run offeredTwice).bridge.resolve [⟨0⟩, ⟨2⟩]
        ⟨.click, ⟨4⟩⟩ = .error (.notActivatable (.selection ⟨6⟩)) := by
  have radioButton := (run_answersAsExported { rootId := ⟨1⟩ } offeredTwice
    [⟨0⟩, ⟨2⟩] ⟨.click, ⟨2⟩⟩ (by decide)).1
  have companion := (run_answersAsExported { rootId := ⟨1⟩ } offeredTwice
    [⟨0⟩, ⟨2⟩] ⟨.click, ⟨4⟩⟩ (by decide)).1
  constructor
  · obtain ⟨⟨_, node⟩, member, rfl, clicks⟩ :
        ∃ entry ∈ ((new { rootId := ⟨1⟩ }).run offeredTwice
          ).bridge.treeUpdate.members,
          entry.1 = ⟨2⟩ ∧ .click ∈ entry.2.actions := by decide
    obtain ⟨tenure, activation, same, serving, _, classified, answer⟩ :=
      radioButton.active rfl (.widget ⟨5⟩) node (by decide) member clicks
    obtain rfl : tenure =
        ⟨⟨0⟩, { id := ⟨5⟩, name := "Whole words", code := 3 },
          offeredTwice.tail⟩ := by
      rw [← (NodeKey.widget.inj same)] at serving
      exact (Option.some.inj serving).symm
    obtain rfl : Activation.toggle = activation := Option.some.inj classified
    exact answer
  · obtain ⟨⟨_, node⟩, member, rfl, silent⟩ :
        ∃ entry ∈ ((new { rootId := ⟨1⟩ }).run offeredTwice
          ).bridge.treeUpdate.members,
          entry.1 = ⟨4⟩ ∧ .click ∉ entry.2.actions := by decide
    exact companion.inactive rfl (.selection ⟨6⟩) node (by decide) member
      silent

end Bridge
end AssistiveTree
