import AssistiveTree.Proofs.Bridge.Coherence
import AssistiveTree.Proofs.Bridge.Tenure

/-!
# What a bridge remembers of its history

After every run, a bridge holds exactly the widgets with a tenure, in the order
of their effective adds. Each is held with the object of that add, and with the
nodes that its tenure tells. Adds of a registered id, notifications about other
widgets and everything before the effective add leave no trace.
-/

namespace AssistiveTree

/-- A holding after an operation that does not drop it. -/
def Holding.after
    (operation : Bridge.Operation)
    (holding : Holding) : Holding :=
  match operation.notification? with
  | some notification => holding.notified notification
  | none => holding

/-- What is held is what a tenure tells. -/
structure Holding.Follows
    (holding : Holding)
    (tenure : Bridge.Tenure) : Prop where
  object : holding.object = tenure.object
  primary : holding.primary.node = tenure.primary
  companion : holding.companion.map (·.node) = tenure.companion?

@[simp] theorem Holding.after_id
    (operation : Bridge.Operation)
    (holding : Holding) :
    (holding.after operation).id = holding.id := by
  unfold after
  split <;> rfl

/-- A holding follows its tenure from operation to operation. -/
theorem Holding.Follows.after
    {holding : Holding}
    {tenure : Bridge.Tenure}
    (follows : holding.Follows tenure)
    (owner : tenure.widget.id = holding.id)
    (operation : Bridge.Operation) :
    (holding.after operation).Follows (tenure.extend operation) := by
  have primary := Bridge.Tenure.primary_extend tenure operation
  have companion := Bridge.Tenure.companion?_extend tenure operation
  rw [← follows.primary, owner] at primary
  rw [← follows.companion, owner] at companion
  unfold Holding.after
  cases notified : operation.notification? with
  | none =>
      rw [notified] at primary companion
      exact ⟨follows.object, primary.symm, companion.symm⟩
  | some notification =>
      rw [notified] at primary companion
      refine ⟨follows.object, primary.symm, ?_⟩
      rw [companion]
      simp only [Holding.notified, Holding.changeCompanion,
        Holding.changePrimary, Option.map_map]
      rfl

namespace Bridge

/-- The effective add of one widget came before that of another. -/
def Precedes
    (operations : List Operation)
    (older newer : WidgetId) : Prop :=
  ∃ first second,
    tenure? older operations = some first ∧
      tenure? newer operations = some second ∧
      second.later.length < first.later.length

/-- The widgets whose primary nodes are the root's children, in order. -/
def listedWidgets (bridge : Bridge) : List WidgetId :=
  bridge.tree.root.children.filterMap fun
    | .widget id => some id
    | .selection _ => none

/-- A bridge is what its history tells: exactly the widgets with a tenure are
registered, each for the object of its effective add and with the nodes of its
tenure, and the root lists them in the order of their effective adds. -/
structure Follows (bridge : Bridge) (operations : List Operation) : Prop where
  registered : ∀ id,
    bridge.isRegistered id = (tenure? id operations).isSome
  object : ∀ id,
    bridge.registry.entries.get? id = (tenure? id operations).map (·.object)
  primary : ∀ id,
    bridge.node? (.widget id) = (tenure? id operations).map (·.primary)
  companion : ∀ id,
    bridge.node? (.selection id) = (tenure? id operations).bind (·.companion?)
  listed : ∀ id,
    id ∈ bridge.listedWidgets ↔ (tenure? id operations).isSome = true
  ordered : bridge.listedWidgets.Pairwise (Precedes operations)

/-- Holdings are what their history tells. -/
structure Recalls
    (holdings : List Holding)
    (operations : List Operation) : Prop where
  follows : ∀ holding ∈ holdings, ∃ tenure,
    tenure? holding.id operations = some tenure ∧ holding.Follows tenure
  complete : ∀ id tenure, tenure? id operations = some tenure →
    ∃ holding ∈ holdings, holding.id = id
  ordered : (holdings.map (·.id)).Pairwise (Precedes operations)

theorem tenure?_extended
    {id : WidgetId}
    {operations : List Operation}
    {operation : Operation}
    {tenure : Tenure}
    (unended : operation.ends id = false)
    (serving : tenure? id operations = some tenure) :
    tenure? id (operations ++ [operation]) =
      some (tenure.extend operation) := by
  simp only [tenure?_concat, unended, serving, Bool.false_eq_true, if_false]

/-- The order of effective adds does not change. -/
theorem Precedes.after
    {operations : List Operation}
    {older newer : WidgetId}
    (precedes : Precedes operations older newer)
    {operation : Operation}
    (olderUnended : operation.ends older = false)
    (newerUnended : operation.ends newer = false) :
    Precedes (operations ++ [operation]) older newer := by
  obtain ⟨first, second, firstServing, secondServing, order⟩ := precedes
  refine ⟨_, _, tenure?_extended olderUnended firstServing,
    tenure?_extended newerUnended secondServing, ?_⟩
  simpa [Tenure.extend] using order

namespace Recalls

variable {holdings : List Holding} {operations : List Operation}

theorem follows_after
    (recalls : Recalls holdings operations)
    {operation : Operation}
    {holding : Holding}
    (member : holding ∈ holdings)
    (unended : operation.ends holding.id = false) :
    ∃ tenure,
      tenure? holding.id (operations ++ [operation]) = some tenure ∧
        (holding.after operation).Follows tenure := by
  obtain ⟨tenure, serving, follows⟩ := recalls.follows holding member
  exact ⟨tenure.extend operation, tenure?_extended unended serving,
    follows.after (tenure?_widget serving).1 operation⟩

theorem ordered_after
    (recalls : Recalls holdings operations)
    {operation : Operation}
    {kept : List Holding}
    (sublist : kept.Sublist holdings)
    (unended : ∀ holding ∈ kept, operation.ends holding.id = false) :
    (kept.map (·.id)).Pairwise (Precedes (operations ++ [operation])) := by
  have order := recalls.ordered.sublist (sublist.map _)
  refine order.imp_of_mem ?_
  intro older newer olderMember newerMember precedes
  obtain ⟨first, firstMember, rfl⟩ := List.mem_map.mp olderMember
  obtain ⟨second, secondMember, rfl⟩ := List.mem_map.mp newerMember
  exact precedes.after (unended first firstMember)
    (unended second secondMember)

/-- An operation that offers no widget starts nothing. -/
theorem unstarted_of_no_offer
    {id : WidgetId}
    {operation : Operation}
    (refused : operation.offers id = false)
    (before : tenure? id operations = none) :
    tenure? id (operations ++ [operation]) = none := by
  rw [tenure?_concat, before]
  split
  · rfl
  · cases operation with
    | add object widget =>
        have different :
            ¬(widget.id = id ∧ widget.isAccessible = true) := by
          simpa [Operation.offers] using refused
        simp only [if_neg different]
    | _ => rfl

/-- An operation that ends, starts and drops nothing. -/
theorem continued
    (recalls : Recalls holdings operations)
    {operation : Operation}
    (unended : ∀ id, operation.ends id = false)
    (refused : ∀ id, operation.offers id = true →
      tenure? id operations ≠ none) :
    Recalls (holdings.map (Holding.after operation))
      (operations ++ [operation]) := by
  refine ⟨?_, ?_, ?_⟩
  · intro holding member
    obtain ⟨earlier, held, rfl⟩ := List.mem_map.mp member
    rw [Holding.after_id]
    exact recalls.follows_after held (unended earlier.id)
  · intro id tenure serving
    cases before : tenure? id operations with
    | none =>
        have unoffered : operation.offers id = false := by
          rw [← Bool.not_eq_true]
          exact fun offered => refused id offered before
        rw [unstarted_of_no_offer unoffered before] at serving
        cases serving
    | some tenure =>
        obtain ⟨holding, member, rfl⟩ := recalls.complete id tenure before
        exact ⟨_, List.mem_map_of_mem member, holding.after_id operation⟩
  · rw [List.map_map]
    simp only [Function.comp_def, Holding.after_id]
    exact recalls.ordered_after (List.Sublist.refl _)
      fun holding _ => unended holding.id

/-- An operation that reports nothing either leaves what is held. -/
theorem idle
    (recalls : Recalls holdings operations)
    {operation : Operation}
    (silent : operation.notification? = none)
    (unended : ∀ id, operation.ends id = false)
    (refused : ∀ id, operation.offers id = true →
      tenure? id operations ≠ none) :
    Recalls holdings (operations ++ [operation]) := by
  have same : holdings.map (Holding.after operation) = holdings := by
    unfold Holding.after
    rw [silent]
    exact List.map_id holdings
  rw [← same]
  exact recalls.continued unended refused

/-- Adding a widget without tenure starts one. -/
theorem started
    (recalls : Recalls holdings operations)
    {object : WidgetRef}
    {widget : Widget}
    (accessible : widget.isAccessible = true)
    (absent : tenure? widget.id operations = none)
    {holding : Holding}
    (same : holding.id = widget.id)
    (follows : holding.Follows ⟨object, widget, []⟩) :
    Recalls (holdings ++ [holding])
      (operations ++ [.add object widget]) := by
  have fresh : tenure? holding.id (operations ++ [.add object widget]) =
      some ⟨object, widget, []⟩ := by
    simp [tenure?_concat, same, absent, accessible, Operation.ends]
  refine ⟨?_, ?_, ?_⟩
  · intro member inHoldings
    rcases List.mem_append.mp inHoldings with old | new
    · exact recalls.follows_after old rfl
    · obtain rfl := List.mem_singleton.mp new
      exact ⟨_, fresh, follows⟩
  · intro id tenure serving
    by_cases added : id = widget.id
    · exact ⟨holding, by simp, same.trans added.symm⟩
    · cases before : tenure? id operations with
      | none =>
          have refused : (Operation.add object widget).offers id = false := by
            simp [Operation.offers, Ne.symm added]
          rw [unstarted_of_no_offer refused before] at serving
          cases serving
      | some earlier =>
          obtain ⟨found, member, owner⟩ := recalls.complete id earlier before
          exact ⟨found, List.mem_append_left _ member, owner⟩
  · rw [List.map_append, List.map_singleton, List.pairwise_append]
    refine ⟨recalls.ordered_after (List.Sublist.refl _) fun _ _ => rfl,
      List.pairwise_singleton _ _, ?_⟩
    intro id member last inLast
    obtain rfl := List.mem_singleton.mp inLast
    obtain ⟨older, held, rfl⟩ := List.mem_map.mp member
    obtain ⟨tenure, serving, _⟩ := recalls.follows older held
    refine ⟨_, _, tenure?_extended rfl serving, fresh, ?_⟩
    simp [Tenure.extend]

/-- Removing a widget ends its tenure. -/
theorem removed
    (recalls : Recalls holdings operations)
    (id : WidgetId) :
    Recalls (holdings.filter fun holding => holding.id ≠ id)
      (operations ++ [.remove id]) := by
  have unended : ∀ holding ∈ holdings.filter fun holding => holding.id ≠ id,
      (Operation.remove id).ends holding.id = false := by
    intro holding member
    have different : holding.id ≠ id := by
      simpa using List.of_mem_filter member
    simpa [Operation.ends] using different.symm
  refine ⟨?_, ?_, ?_⟩
  · intro holding member
    exact recalls.follows_after (List.mem_of_mem_filter member)
      (unended holding member)
  · intro other tenure serving
    cases before : tenure? other operations with
    | none =>
        rw [unstarted_of_no_offer rfl before] at serving
        cases serving
    | some earlier =>
        have different : other ≠ id := by
          rintro rfl
          simp [tenure?_concat, Operation.ends] at serving
        obtain ⟨holding, member, rfl⟩ := recalls.complete other earlier before
        exact ⟨holding, List.mem_filter.mpr ⟨member, by simpa using different⟩,
          rfl⟩
  · exact recalls.ordered_after List.filter_sublist unended

theorem shutDown (operations : List Operation) :
    Recalls [] (operations ++ [.shutdown]) := by
  refine ⟨fun _ member => absurd member List.not_mem_nil, ?_,
    List.Pairwise.nil⟩
  intro id tenure serving
  simp [tenure?_concat, Operation.ends] at serving

theorem start : Recalls [] [] :=
  ⟨fun _ member => absurd member List.not_mem_nil,
    (fun _ _ serving => by cases serving), List.Pairwise.nil⟩

/-- A widget with a tenure is held as its tenure tells. -/
theorem held
    (recalls : Recalls holdings operations)
    {id : WidgetId}
    {tenure : Tenure}
    (serving : tenure? id operations = some tenure) :
    ∃ holding ∈ holdings, holding.id = id ∧ holding.Follows tenure := by
  obtain ⟨holding, member, rfl⟩ := recalls.complete id tenure serving
  obtain ⟨other, same, follows⟩ := recalls.follows holding member
  obtain rfl := Option.some.inj (serving.symm.trans same)
  exact ⟨holding, member, rfl, follows⟩

/-- The registered ids are the ids with a tenure. -/
theorem isRegistered_eq
    {bridge : Bridge}
    (recalls : Recalls holdings operations)
    (holds : bridge.Holds holdings)
    (id : WidgetId) :
    bridge.isRegistered id = (tenure? id operations).isSome := by
  rw [Bool.eq_iff_iff, holds.isRegistered_iff, Option.isSome_iff_exists]
  constructor
  · rintro ⟨holding, member, rfl⟩
    obtain ⟨tenure, serving, _⟩ := recalls.follows holding member
    exact ⟨tenure, serving⟩
  · rintro ⟨tenure, serving⟩
    exact recalls.complete id tenure serving

/-- An add is remembered: it starts a tenure or goes unnoticed. -/
theorem added
    {bridge : Bridge}
    (holds : bridge.Holds holdings)
    (recalls : Recalls holdings operations)
    (object : WidgetRef)
    (widget : Widget) :
    Recalls (bridge.holdingsAfter holdings (.add object widget))
      (operations ++ [.add object widget]) := by
  rw [holdingsAfter]
  by_cases admits : widget.isAccessible = true ∧
      bridge.isRegistered widget.id = false
  · rw [if_pos admits]
    have absent : tenure? widget.id operations = none := by
      simpa [recalls.isRegistered_eq holds] using admits.2
    refine recalls.started admits.1 absent rfl ⟨rfl, ?_, ?_⟩
    · rw [Tenure.primary_start]
      rfl
    · rw [Tenure.companion?_start, admitted, Option.map_map]
      exact Option.map_id'
  · rw [if_neg admits]
    refine recalls.idle rfl (fun _ => rfl) ?_
    intro id offered absent
    obtain ⟨_, _, same, rfl, accessible⟩ := Operation.eq_add_of_offers offered
    obtain ⟨rfl, rfl⟩ := Operation.add.inj same
    refine admits ⟨accessible, ?_⟩
    rw [recalls.isRegistered_eq holds, absent]
    rfl

/-- Every operation is remembered. -/
theorem perform
    {bridge : Bridge}
    (holds : bridge.Holds holdings)
    (recalls : Recalls holdings operations)
    (operation : Operation) :
    Recalls (bridge.holdingsAfter holdings operation)
      (operations ++ [operation]) := by
  cases operation with
  | add object widget => exact recalls.added holds object widget
  | remove id => exact recalls.removed id
  | shutdown => exact shutDown operations
  | notify notification =>
      have continued : Recalls
          (holdings.map (Holding.after (.notify notification)))
          (operations ++ [.notify notification]) :=
        recalls.continued (fun _ => rfl) fun _ offered =>
        absurd offered Bool.false_ne_true
      exact continued
  | onSelection subscriber =>
      exact recalls.idle rfl (fun _ => rfl) fun _ offered =>
        absurd offered Bool.false_ne_true
  | onNotification subscriber =>
      exact recalls.idle rfl (fun _ => rfl) fun _ offered =>
        absurd offered Bool.false_ne_true
  | exportTree =>
      exact recalls.idle rfl (fun _ => rfl) fun _ offered =>
        absurd offered Bool.false_ne_true
  | request living request quiet =>
      exact recalls.idle rfl (fun _ => rfl) fun _ offered =>
        absurd offered Bool.false_ne_true

end Recalls

/-- A run and what it remembers. -/
theorem run_recalls (config : Config) (operations : List Operation) :
    ∃ holdings,
      ((new config).run operations).bridge.Holds holdings ∧
        Recalls holdings operations := by
  induction operations using List.reverseRecOn with
  | nil => exact ⟨[], Holds.new config, Recalls.start⟩
  | append_singleton operations operation inductionHypothesis =>
      obtain ⟨holdings, holds, recalls⟩ := inductionHypothesis
      rw [run_concat]
      exact ⟨_, holds.perform operation, recalls.perform holds operation⟩

namespace Holds

variable {bridge : Bridge} {holdings : List Holding}

/-- The listed widgets are the held ones. -/
theorem listedWidgets_eq (holds : bridge.Holds holdings) :
    bridge.listedWidgets = holdings.map (·.id) := by
  have one : ∀ holding : Holding,
      ((holding.slots.map (·.1)).filterMap fun
        | NodeKey.widget id => some id
        | .selection _ => none) = [holding.id] := by
    intro holding
    rw [holding.slots_keys]
    cases holding.companion <;> rfl
  rw [listedWidgets, holds.sound.children, holds.keys, List.filterMap_flatMap,
    List.map_eq_flatMap]
  simp only [one]

/-- An unregistered widget has no nodes. -/
theorem node?_eq_none
    (holds : bridge.Holds holdings)
    {key : NodeKey}
    (unregistered : bridge.isRegistered key.owner = false) :
    bridge.node? key = none :=
  (Table.get?_eq_none_iff _ _).mpr (holds.absent unregistered)

end Holds

/-- After every run a bridge is what its history tells. -/
theorem run_follows (config : Config) (operations : List Operation) :
    ((new config).run operations).bridge.Follows operations := by
  obtain ⟨holdings, holds, recalls⟩ := run_recalls config operations
  have registered := recalls.isRegistered_eq holds
  have unheld : ∀ {id}, tenure? id operations = none →
      ((new config).run operations).bridge.isRegistered id = false := by
    intro id serving
    rw [registered, serving]
    rfl
  constructor
  · exact registered
  · intro id
    cases serving : tenure? id operations with
    | none =>
        have absent : id ∉ ((new config).run
            operations).bridge.registry.entries.keys :=
          (Table.contains_eq_false_iff _ _).mp (unheld serving)
        exact (Table.get?_eq_none_iff _ _).mpr absent
    | some tenure =>
        obtain ⟨holding, member, rfl, follows⟩ := recalls.held serving
        rw [holds.registry_get? member, follows.object]
        rfl
  · intro id
    cases serving : tenure? id operations with
    | none => exact holds.node?_eq_none (unheld serving)
    | some tenure =>
        obtain ⟨holding, member, rfl, follows⟩ := recalls.held serving
        rw [holds.node?_widget member, follows.primary]
        rfl
  · intro id
    cases serving : tenure? id operations with
    | none => exact holds.node?_eq_none (unheld serving)
    | some tenure =>
        obtain ⟨holding, member, rfl, follows⟩ := recalls.held serving
        rw [holds.node?_selection member, follows.companion]
        rfl
  · intro id
    rw [holds.listedWidgets_eq, ← registered, holds.isRegistered_iff]
    exact List.mem_map
  · rw [holds.listedWidgets_eq]
    exact recalls.ordered

end Bridge
end AssistiveTree
