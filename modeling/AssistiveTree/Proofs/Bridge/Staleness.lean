import AssistiveTree.Proofs.Bridge.History

/-!
# Node ids that grew old

Assistive technology may ask for a node by an id from an old export. Either the
widget of the node has been there ever since, and the id still leads to it, or
the widget was removed meanwhile, and the id leads nowhere. No id ever comes to
lead to another widget, and a widget that was added again gets a new id.
-/

namespace AssistiveTree

/-- Operations keep the node id of a holding that they do not drop. -/
@[simp] theorem Holding.after_primary_id
    (operation : Bridge.Operation)
    (holding : Holding) :
    (holding.after operation).primary.id = holding.primary.id := by
  unfold after
  split <;> rfl

namespace Bridge

/-- What became of the node id of a widget's primary node. -/
inductive Fate
    (bridge : Bridge)
    (id : WidgetId)
    (target : NodeId)
    (since : List Operation) : Prop
  | kept
      (unended : ∀ operation ∈ since, operation.ends id = false)
      (assigned : bridge.tree.nodeId? (.widget id) = some target)
  | lost
      (ended : ∃ operation ∈ since, operation.ends id = true)
      (retired : bridge.tree.Retired target)

/-- A holding survives every operation that does not end its widget. -/
theorem after_mem_holdingsAfter
    (bridge : Bridge)
    {holdings : List Holding}
    {holding : Holding}
    (member : holding ∈ holdings)
    {operation : Operation}
    (unended : operation.ends holding.id = false) :
    holding.after operation ∈ bridge.holdingsAfter holdings operation := by
  cases operation with
  | add object widget =>
      rw [holdingsAfter]
      split
      · exact List.mem_append_left _ member
      · exact member
  | remove id =>
      have different : holding.id ≠ id := by
        rintro rfl
        simp [Operation.ends] at unended
      exact List.mem_filter.mpr ⟨member, by simpa using different⟩
  | shutdown => cases unended
  | notify notification => exact List.mem_map_of_mem member
  | onSelection subscriber => exact member
  | onNotification subscriber => exact member
  | exportTree => exact member
  | request living request quiet => exact member

namespace Holds

variable {bridge : Bridge} {holdings : List Holding} {attached : Nat}
variable {id : WidgetId} {target : NodeId}

/-- The node id of a widget is in its holding. -/
theorem exists_of_nodeId?
    (holds : bridge.Holds holdings)
    (assigned : bridge.tree.nodeId? (.widget id) = some target) :
    ∃ holding ∈ holdings, holding.id = id ∧ holding.primary.id = target := by
  obtain ⟨node, member⟩ := (holds.sound.nodeId?_eq_some_iff _ _).mp assigned
  obtain ⟨holding, held, _, rfl⟩ := holds.exists_of_mem_slots member
  have listed := holds.nodeId?_widget held
  exact ⟨holding, held, rfl, Option.some.inj (listed.symm.trans assigned)⟩

/-- An operation that does not end a widget keeps the node id of its primary
node. -/
theorem nodeId?_perform
    (holds : bridge.Holds holdings)
    (assigned : bridge.tree.nodeId? (.widget id) = some target)
    {operation : Operation}
    (unended : operation.ends id = false) :
    (bridge.perform operation).bridge.tree.nodeId? (.widget id) =
      some target := by
  obtain ⟨holding, member, rfl, rfl⟩ := holds.exists_of_nodeId? assigned
  have kept := bridge.after_mem_holdingsAfter member unended
  have listed := (holds.perform operation).nodeId?_widget kept
  rwa [Holding.after_id, Holding.after_primary_id] at listed

/-- An operation that ends a widget leaves none of its nodes and attaches
none. -/
theorem slots_of_ends
    (holds : bridge.Holds holdings)
    {operation : Operation}
    (ended : operation.ends id = true)
    {entry : NodeKey × Slot}
    (member : entry ∈ (bridge.perform operation).bridge.tree.slots.entries) :
    entry ∈ bridge.tree.slots.entries ∧ entry.1.owner ≠ id := by
  cases operation with
  | remove removed =>
      obtain rfl : removed = id := by simpa [Operation.ends] using ended
      change entry ∈ (bridge.remove removed).bridge.tree.slots.entries at member
      rw [holds.slots_remove, List.mem_filter] at member
      exact ⟨member.1, by simpa using member.2⟩
  | shutdown => exact absurd member List.not_mem_nil
  | _ => cases ended

/-- The end of a widget retires the node id of its primary node. -/
theorem retired_of_ends
    (holds : bridge.Holds holdings)
    (numbered : bridge.tree.Numbered attached)
    (assigned : bridge.tree.nodeId? (.widget id) = some target)
    {operation : Operation}
    (ended : operation.ends id = true)
    (continues :
      (bridge.perform operation).bridge.tree.Continues bridge.tree) :
    (bridge.perform operation).bridge.tree.Retired target := by
  have sound := (holds.perform operation).sound
  constructor
  · exact Nat.lt_of_lt_of_le
      (numbered.spent _ (Tree.mem_idNumbers assigned)) continues.counter
  · intro stillInUse
    rw [sound.idNumbers_eq] at stillInUse
    obtain ⟨entry, entryMember, same⟩ := List.mem_map.mp stillInUse
    obtain ⟨before, other⟩ := holds.slots_of_ends ended entryMember
    obtain rfl : entry.2.id = target :=
      congrArg NodeId.mk (UInt64.toNat_inj.mp same)
    rw [numbered.key_unique (holds.sound.nodeId?_of_mem before)
      assigned] at other
    exact other rfl

end Holds

/-- The fate of a node id after a run. -/
theorem run_fate
    (config : Config)
    (earlier since : List Operation)
    {id : WidgetId}
    {target : NodeId}
    (room : Journal.attachments
      ((new config).run (earlier ++ since)).journal ≤ Tree.attachmentLimit)
    (assigned : ((new config).run earlier).bridge.tree.nodeId?
      (.widget id) = some target) :
    ((new config).run (earlier ++ since)).bridge.Fate id target since := by
  induction since using List.reverseRecOn with
  | nil =>
      rw [List.append_nil]
      exact .kept (fun _ member => absurd member List.not_mem_nil) assigned
  | append_singleton since operation inductionHypothesis =>
      rw [← List.append_assoc, run_concat] at room ⊢
      have split : Journal.attachments
            ((new config).run (earlier ++ since)).journal +
          Journal.attachments
            (((new config).run (earlier ++ since)).bridge.perform
              operation).journal ≤ Tree.attachmentLimit := by
        rw [← Journal.attachments_append]
        exact room
      have roomBefore := Nat.le_trans (Nat.le_add_right _ _) split
      have fate := inductionHypothesis roomBefore
      obtain ⟨holdings, holds⟩ := run_holds config (earlier ++ since)
      have numbered := run_numbered config (earlier ++ since) roomBefore
      have continues :=
        ((perform_edits _ operation).numbered holds.sound numbered split).2
      -- A kept id is kept or lost by the next operation, and a lost one stays
      -- lost, because no later attachment hands it out again.
      cases fate with
      | kept unended assigned =>
          cases ends : operation.ends id with
          | false =>
              refine .kept ?_ (holds.nodeId?_perform assigned ends)
              intro other member
              rcases List.mem_append.mp member with old | new
              · exact unended other old
              · rw [List.mem_singleton.mp new]
                exact ends
          | true =>
              exact .lost ⟨operation, by simp, ends⟩
                (holds.retired_of_ends numbered assigned ends continues)
      | lost ended retired =>
          obtain ⟨ending, member, ends⟩ := ended
          exact .lost ⟨ending, List.mem_append_left _ member, ends⟩
            (retired.of_continues continues)

/-! ## Requests -/

/-- A click on a node id without node is refused. -/
theorem resolve_of_retired
    {bridge : Bridge}
    {attached : Nat}
    (numbered : bridge.tree.Numbered attached)
    {target : NodeId}
    (retired : bridge.tree.Retired target)
    (living : List WidgetRef) :
    bridge.resolve living ⟨.click, target⟩ = .error (.unknownNode target) := by
  unfold resolve
  simp [retired.keyOf?_eq_none numbered]

/-- What a click on the primary node of a widget leads to during a tenure: the
object and the activation of the effective add, while the object lives. -/
def Tenure.clicked
    (tenure : Tenure)
    (living : List WidgetRef) : Except Error PendingActivation :=
  match (classify tenure.widget.code).rule.activation? with
  | none => .error (.notActivatable (.widget tenure.widget.id))
  | some activation =>
      if tenure.object ∈ living then
        .ok ⟨tenure.object, tenure.widget.id, activation⟩
      else .error (.widgetDropped tenure.widget.id)

/-- A click on the primary node of a widget leads to what its tenure tells. -/
theorem resolve_of_assigned
    {bridge : Bridge}
    {holdings : List Holding}
    {operations : List Operation}
    {attached : Nat}
    (holds : bridge.Holds holdings)
    (recalls : Recalls holdings operations)
    (numbered : bridge.tree.Numbered attached)
    {id : WidgetId}
    {target : NodeId}
    (assigned : bridge.tree.nodeId? (.widget id) = some target)
    {tenure : Tenure}
    (serving : tenure? id operations = some tenure)
    (living : List WidgetRef) :
    bridge.resolve living ⟨.click, target⟩ = tenure.clicked living := by
  obtain ⟨owner, _⟩ := tenure?_widget serving
  obtain ⟨holding, member, rfl, follows⟩ := recalls.held serving
  have key := (numbered.keyOf?_eq_some_iff holds.sound _ _).mpr assigned
  have activation :
      (bridge.tree.node? (.widget holding.id)).bind (·.activation) =
        (classify tenure.widget.code).rule.activation? := by
    have node := holds.node?_widget member
    rw [follows.primary] at node
    exact congrArg (·.bind (·.activation)) node
  have object : bridge.registry.get? living holding.id =
      if tenure.object ∈ living then some tenure.object else none := by
    rw [Registry.get?, holds.registry_get? member, follows.object,
      Option.filter_some]
    simp only [decide_eq_true_eq]
  simp only [resolve, key, activation, object, ne_eq, not_true_eq_false,
    if_false]
  rw [Tenure.clicked, owner]
  cases (classify tenure.widget.code).rule.activation? with
  | none => rfl
  | some activation =>
      by_cases alive : tenure.object ∈ living <;> simp [alive]

/-- A click on a node id that a widget's primary node had earlier in the run:
once the widget was removed or the bridge was shut down, the id is unknown for
good, and until then it leads to the object and the activation of the add that
was in force when the node had the id. -/
theorem run_resolve_earlier
    (config : Config)
    (earlier since : List Operation)
    (living : List WidgetRef)
    {id : WidgetId}
    {target : NodeId}
    (room : Journal.attachments
      ((new config).run (earlier ++ since)).journal ≤ Tree.attachmentLimit)
    (assigned : ((new config).run earlier).bridge.tree.nodeId?
      (.widget id) = some target) :
    ((∃ operation ∈ since, operation.ends id = true) →
        ((new config).run (earlier ++ since)).bridge.resolve living
          ⟨.click, target⟩ = .error (.unknownNode target)) ∧
      ((∀ operation ∈ since, operation.ends id = false) →
        ∃ tenure,
          tenure? id earlier = some tenure ∧
            ((new config).run (earlier ++ since)).bridge.resolve living
              ⟨.click, target⟩ = tenure.clicked living) := by
  have numbered := run_numbered config (earlier ++ since) room
  cases run_fate config earlier since room assigned with
  | kept unended stillAssigned =>
      constructor
      · rintro ⟨operation, member, ends⟩
        rw [unended operation member] at ends
        cases ends
      · intro _
        obtain ⟨earlierHoldings, earlierHolds, earlierRecalls⟩ :=
          run_recalls config earlier
        obtain ⟨holding, member, rfl, _⟩ :=
          earlierHolds.exists_of_nodeId? assigned
        obtain ⟨tenure, serving, _⟩ := earlierRecalls.follows holding member
        obtain ⟨holdings, holds, recalls⟩ :=
          run_recalls config (earlier ++ since)
        have stillServing := tenure?_append serving since unended
        exact ⟨tenure, serving, resolve_of_assigned holds recalls numbered
          stillAssigned stillServing living⟩
  | lost ended retired =>
      refine ⟨fun _ => resolve_of_retired numbered retired living, ?_⟩
      intro unended
      obtain ⟨operation, member, ends⟩ := ended
      rw [unended operation member] at ends
      cases ends

/-- The node id of a button leads to the button while others are added, and is
unknown once it was removed, although a button with the same id was added. -/
theorem run_resolve_earlier_button :
    ((new {}).run [.add ⟨0⟩ { id := ⟨5⟩, name := "Save", code := 4 }]
        ).bridge.tree.nodeId? (.widget ⟨5⟩) = some ⟨1⟩ ∧
      ((new {}).run
        ([.add ⟨0⟩ { id := ⟨5⟩, name := "Save", code := 4 }] ++
          [.add ⟨1⟩ { id := ⟨6⟩, name := "Open", code := 4 }])
        ).bridge.resolve [⟨0⟩, ⟨1⟩] ⟨.click, ⟨1⟩⟩ =
          .ok ⟨⟨0⟩, ⟨5⟩, .invoke⟩ ∧
      ((new {}).run
        ([.add ⟨0⟩ { id := ⟨5⟩, name := "Save", code := 4 }] ++
          [.remove ⟨5⟩, .add ⟨1⟩ { id := ⟨5⟩, name := "Save", code := 4 }])
        ).bridge.resolve [⟨0⟩, ⟨1⟩] ⟨.click, ⟨1⟩⟩ =
          .error (.unknownNode ⟨1⟩) := by
  have assigned : ((new {}).run
      [.add ⟨0⟩ { id := ⟨5⟩, name := "Save", code := 4 }]
      ).bridge.tree.nodeId? (.widget ⟨5⟩) = some ⟨1⟩ := by decide
  have kept := run_resolve_earlier {}
    [.add ⟨0⟩ { id := ⟨5⟩, name := "Save", code := 4 }]
    [.add ⟨1⟩ { id := ⟨6⟩, name := "Open", code := 4 }]
    [⟨0⟩, ⟨1⟩] (by decide) assigned
  have lost := run_resolve_earlier {}
    [.add ⟨0⟩ { id := ⟨5⟩, name := "Save", code := 4 }]
    [.remove ⟨5⟩, .add ⟨1⟩ { id := ⟨5⟩, name := "Save", code := 4 }]
    [⟨0⟩, ⟨1⟩] (by decide) assigned
  obtain ⟨tenure, serving, resolved⟩ := kept.2 (by decide)
  refine ⟨assigned, ?_, lost.1 ⟨.remove ⟨5⟩, List.mem_cons_self, rfl⟩⟩
  obtain rfl : Tenure.mk ⟨0⟩ { id := ⟨5⟩, name := "Save", code := 4 } [] =
      tenure := Option.some.inj serving
  exact resolved

end Bridge
end AssistiveTree
