import AssistiveTree.Proofs.Bridge.Focus
import AssistiveTree.Proofs.Bridge.Reports
import AssistiveTree.Proofs.Journal
import AssistiveTree.Proofs.Node.Key

/-!
# The journal keeps account

Every bridge has an account of its own: the texts of its keys with their node
ids, and the texts of its registered ids. The journal of an operation continues
the account of the bridge before it to the account of the bridge after it. So
whoever reads the journal from the start knows at every time which nodes are
attached, in which order and under which ids, and which widgets are registered.
-/

namespace AssistiveTree

open Journal (Account records)

/-- The number of a node id in decimal. -/
def NodeId.text (id : NodeId) : String := Nat.repr id.raw.toNat

namespace Tree

/-- The attached nodes with their node ids, as journals show them. -/
def texts (tree : Tree) : List (String × String) :=
  tree.nodeIds.entries.map fun entry => (entry.1.text, entry.2.text)

variable {tree : Tree} {account : Account}

/-- Two nodes are never shown alike. -/
theorem Sound.text_mem_texts (sound : tree.Sound) (key : NodeKey) :
    key.text ∈ tree.texts.map Prod.fst ↔ key ∈ tree.nodes.keys := by
  have names : tree.texts.map Prod.fst =
      tree.nodeIds.keys.map NodeKey.text := by
    simp [texts, Table.keys]
  rw [names, sound.aligned, List.mem_map_of_injective NodeKey.text_injective]

theorem Sound.texts_detach (sound : tree.Sound) (key : NodeKey) :
    (tree.detach key).tree.texts =
      tree.texts.filter fun entry => entry.1 ≠ key.text := by
  rw [texts, sound.nodeIds_detach, Table.entries_erase, texts,
    List.filter_map]
  congr 1
  apply List.filter_congr
  intro entry _
  simp [NodeKey.text_injective.eq_iff]

theorem texts_setActiveDescendant (tree : Tree) (focus : Option WidgetId) :
    (tree.setActiveDescendant focus).texts = tree.texts := rfl

/-- An attachment is read as it happened. -/
theorem Sound.reads_attach
    (sound : tree.Sound)
    (nodes : account.nodes = tree.texts)
    (key : NodeKey)
    (node : Node) :
    account.Reads (records (tree.attach key node).journal)
      { account with nodes := (tree.attach key node).tree.texts } := by
  by_cases present : key ∈ tree.nodes.keys
  · rw [attach_of_contains present, ← nodes]
    exact Account.reads_other rfl account
  · have after : (tree.attach key node).tree.texts =
        tree.texts ++ [(key.text, tree.freshId.text)] := by
      simp [texts, attach_of_absent present,
        Table.entries_insert (sound.not_mem_nodeIds present)]
    have fits : account.Fits
        (Journal.Event.attached key tree.freshId).record :=
      { attached := fun _ => by
          rw [nodes]
          exact fun member => present ((sound.text_mem_texts key).mp member)
        detached := fun same => by simp [Journal.Event.record] at same
        shutDown := fun same => by simp [Journal.Event.record] at same }
    rw [after, ← nodes, attach_of_absent present]
    exact Account.reads_event fits

theorem Sound.reads_detach
    (sound : tree.Sound)
    (nodes : account.nodes = tree.texts)
    (key : NodeKey) :
    account.Reads (records (tree.detach key).journal)
      { account with nodes := (tree.detach key).tree.texts } := by
  cases found : tree.nodes.get? key with
  | none =>
      have same : tree.detach key = ⟨tree, none, []⟩ := by
        simp [Tree.detach, found]
      rw [same, ← nodes]
      exact .nil account
  | some node =>
      have journal : (tree.detach key).journal = [.event (.detached key)] := by
        simp [Tree.detach, found]
      have present : key ∈ tree.nodes.keys :=
        List.mem_map.mpr ⟨_, Table.mem_entries_of_get? found, rfl⟩
      have fits : account.Fits (Journal.Event.detached key).record :=
        { attached := fun same => by simp [Journal.Event.record] at same
          detached := fun _ => by
            rw [nodes]
            exact (sound.text_mem_texts key).mpr present
          shutDown := fun same => by simp [Journal.Event.record] at same }
      rw [journal, sound.texts_detach, ← nodes]
      exact Account.reads_event fits

end Tree

namespace Bridge

/-- The account that a bridge gives of itself. -/
def account (bridge : Bridge) : Account where
  nodes := bridge.tree.texts
  widgets := (bridge.registry.entries.keys.map WidgetId.text).toFinset

/-- Erasing an id erases its text and no other. -/
theorem widgets_erase (table : Table WidgetId WidgetRef) (id : WidgetId) :
    ((table.erase id).keys.map WidgetId.text).toFinset =
      (table.keys.map WidgetId.text).toFinset.erase id.text := by
  ext text
  simp only [Table.keys_erase, List.mem_toFinset, List.mem_map,
    List.mem_filter, decide_eq_true_eq, Finset.mem_erase]
  constructor
  · rintro ⟨other, ⟨member, different⟩, rfl⟩
    exact ⟨WidgetId.text_injective.ne different, other, member, rfl⟩
  · rintro ⟨different, other, member, rfl⟩
    refine ⟨other, ⟨member, ?_⟩, rfl⟩
    rintro rfl
    exact different rfl

variable {bridge : Bridge} {holdings : List Holding}

/-- Every registered widget has a text of its own. -/
theorem Holds.card_widgets (holds : bridge.Holds holdings) :
    bridge.account.widgets.card = bridge.registeredCount := by
  have keys : bridge.registry.entries.keys = holdings.map (·.id) := by
    simp [Table.keys, holds.registry]
  have distinct : (bridge.registry.entries.keys.map WidgetId.text).Nodup := by
    rw [keys]
    exact holds.distinct.map WidgetId.text_injective
  rw [account, List.toFinset_card_of_nodup distinct, List.length_map]
  simp [registeredCount, Registry.size, Table.size, Table.keys]

/-- An account of the attached nodes counts them. -/
theorem Holds.length_nodes (holds : bridge.Holds holdings) :
    bridge.account.nodes.length = bridge.tree.root.children.length := by
  rw [holds.sound.children, ← holds.sound.aligned]
  simp [account, Tree.texts, Table.keys]

/-! ## Operations -/

/-- The companion of an added widget is read like its primary node. -/
theorem reads_attachCompanion
    {tree : Tree}
    {account : Account}
    (sound : tree.Sound)
    (nodes : account.nodes = tree.texts)
    (widget : Widget) :
    account.Reads (records (attachCompanion tree widget).journal)
      { account with nodes := (attachCompanion tree widget).tree.texts } := by
  unfold attachCompanion
  cases companionNode? widget with
  | none =>
      simp only [← nodes]
      exact .nil account
  | some companion => exact sound.reads_attach nodes _ companion

/-- A widget is added with its nodes, one record after the other. -/
theorem Holds.reads_add_of_unregistered
    (holds : bridge.Holds holdings)
    {widget : Widget}
    (accessible : widget.isAccessible = true)
    (unregistered : bridge.isRegistered widget.id = false)
    (object : WidgetRef) :
    bridge.account.Reads (records (bridge.add object widget).journal)
      (bridge.add object widget).bridge.account := by
  let primary := bridge.tree.attach (.widget widget.id) (primaryNode widget)
  let companion := attachCompanion primary.tree widget
  have attached : bridge.account.Reads (records primary.journal)
      { bridge.account with nodes := primary.tree.texts } :=
    holds.sound.reads_attach rfl _ _
  have strayed : Account.Reads
      { bridge.account with nodes := primary.tree.texts }
      (records
        (if primary.answer then [] else [.event (.strayNode widget.id)]))
      { bridge.account with nodes := primary.tree.texts } := by
    refine Account.reads_of_others ?_ _
    split <;> simp [Journal.Event.isAccounted]
  have accompanied : Account.Reads
      { bridge.account with nodes := primary.tree.texts }
      (records companion.journal)
      { bridge.account with nodes := companion.tree.texts } :=
    reads_attachCompanion (holds.sound.attach _ _) rfl widget
  have added : Account.Reads
      { bridge.account with nodes := companion.tree.texts }
      (records [.event (.added widget.id widget.code
        (classify widget.code).role widget.name)])
      { nodes := companion.tree.texts
        widgets := insert widget.id.text bridge.account.widgets } :=
    Account.reads_event (Account.fits_of_not_mem
      (by simp [Journal.Event.record, Account.checkedMessages]) _)
  have absent : widget.id ∉ bridge.registry.entries.keys :=
    (Table.contains_eq_false_iff _ _).mp unregistered
  have fresh : bridge.registry.contains widget.id = false := unregistered
  have after : (bridge.add object widget).bridge.account =
      { nodes := companion.tree.texts
        widgets := insert widget.id.text bridge.account.widgets } := by
    rw [Bridge.add_of_unregistered accessible unregistered]
    simp [account, companion, primary, Registry.register, fresh, Table.keys,
      Table.entries_insert absent]
  have journal : records (bridge.add object widget).journal =
      records primary.journal ++
        records
          (if primary.answer then [] else [.event (.strayNode widget.id)]) ++
        records companion.journal ++
        records [.event (.added widget.id widget.code
          (classify widget.code).role widget.name)] := by
    simp [Bridge.add, accessible, unregistered, companion, primary]
  rw [journal, after]
  exact ((attached.append strayed).append accompanied).append added

/-- An add is read with the nodes that it attaches. -/
theorem Holds.reads_add
    (holds : bridge.Holds holdings)
    (object : WidgetRef)
    (widget : Widget) :
    bridge.account.Reads (records (bridge.add object widget).journal)
      (bridge.add object widget).bridge.account := by
  cases accessible : widget.isAccessible with
  | false =>
      simp only [Bridge.add, accessible, if_true]
      exact Account.reads_other rfl _
  | true =>
      cases registered : bridge.isRegistered widget.id with
      | true =>
          simp only [Bridge.add, accessible, registered, if_true,
            Bool.true_eq_false, if_false]
          exact Account.reads_other rfl _
      | false =>
          exact holds.reads_add_of_unregistered accessible registered object

/-- A removal is read with the nodes that it detaches. -/
theorem Holds.reads_remove (holds : bridge.Holds holdings) (id : WidgetId) :
    bridge.account.Reads (records (bridge.remove id).journal)
      (bridge.remove id).bridge.account := by
  cases registered : bridge.isRegistered id with
  | false =>
      simp only [Bridge.remove, registered, Bool.false_eq_true, if_false]
      exact Account.reads_other rfl _
  | true =>
      let primary := bridge.tree.detach (.widget id)
      let companion := primary.tree.detach (.selection id)
      have first : bridge.account.Reads (records primary.journal)
          { bridge.account with nodes := primary.tree.texts } :=
        holds.sound.reads_detach rfl _
      have second : Account.Reads
          { bridge.account with nodes := primary.tree.texts }
          (records companion.journal)
          { bridge.account with nodes := companion.tree.texts } :=
        (holds.sound.detach _).reads_detach rfl _
      have removed : Account.Reads
          { bridge.account with nodes := companion.tree.texts }
          (records [.event (.removed id)])
          { nodes := companion.tree.texts
            widgets := bridge.account.widgets.erase id.text } :=
        Account.reads_event (Account.fits_of_not_mem
          (by simp [Journal.Event.record, Account.checkedMessages]) _)
      have after : (bridge.remove id).bridge.account =
          { nodes := companion.tree.texts
            widgets := bridge.account.widgets.erase id.text } := by
        by_cases focused : bridge.focus = some id <;>
          simp [Bridge.remove, registered, focused, account, companion, primary,
            Tree.texts_setActiveDescendant, Registry.unregister,
            widgets_erase]
      have journal : records (bridge.remove id).journal =
          records primary.journal ++ records companion.journal ++
            records [.event (.removed id)] := by
        simp [Bridge.remove, registered, companion, primary]
      rw [journal, after]
      exact (first.append second).append removed

/-- A shutdown is read with the numbers of nodes and widgets before it. -/
theorem Holds.reads_shutdown (holds : bridge.Holds holdings) :
    bridge.account.Reads (records bridge.shutdown.journal)
      bridge.shutdown.bridge.account := by
  have fits : bridge.account.Fits (Journal.Event.shutDown
      bridge.tree.root.children.length bridge.registry.size).record :=
    { attached := fun same => by simp [Journal.Event.record] at same
      detached := fun same => by simp [Journal.Event.record] at same
      shutDown := fun _ => by
        rw [holds.length_nodes, holds.card_widgets]
        exact ⟨rfl, rfl⟩ }
  exact Account.reads_event fits

/-- Nodes keep their keys and node ids when they are changed. -/
theorem account_notify
    (bridge : Bridge)
    (notification : Notification) :
    (bridge.notify notification).bridge.account = bridge.account := by
  rw [account, account, Tree.texts, Tree.texts, notify_nodeIds,
    notify_registry]

/-- No account depends on requests. -/
theorem isAccounted_of_mem_request
    {living : List WidgetRef}
    {request : ActionRequest}
    {quiet : Bool}
    {event : Journal.Event}
    (member : .event event ∈
      (bridge.perform (.request living request quiet)).journal) :
    event.isAccounted = false := by
  rw [journal_request] at member
  split at member
  · cases List.mem_singleton.mp member
    rfl
  · split at member
    · cases List.mem_singleton.mp member
      rfl
    · exact absurd member List.not_mem_nil

/-- Every operation is read from the account before it to the account after
it. -/
theorem Holds.reads_perform
    (holds : bridge.Holds holdings)
    (operation : Operation) :
    bridge.account.Reads (records (bridge.perform operation).journal)
      (bridge.perform operation).bridge.account := by
  cases operation with
  | add object widget => exact holds.reads_add object widget
  | remove id => exact holds.reads_remove id
  | shutdown => exact holds.reads_shutdown
  | notify notification =>
      have others : ∀ event,
          .event event ∈ (bridge.notify notification).journal →
          event.isAccounted = false := fun _ member =>
        Journal.Event.isAccounted_of_target (target_of_mem_notify member)
      have same := account_notify bridge notification
      exact same ▸ Account.reads_of_others others bridge.account
  | onSelection subscriber => exact .nil _
  | onNotification subscriber => exact .nil _
  | exportTree => exact .nil _
  | request living request quiet =>
      exact Account.reads_of_others (fun _ => isAccounted_of_mem_request) _

/-! ## Runs -/

/-- From its start, the journal of a run is read to the account of the bridge
that the run leaves. -/
theorem run_reads (config : Config) (operations : List Operation) :
    Account.Reads {}
      (records ((start config).followedBy (·.run operations)).journal)
      ((new config).run operations).bridge.account := by
  induction operations using List.reverseRecOn with
  | nil =>
      exact Account.reads_other rfl {}
  | append_singleton operations operation inductionHypothesis =>
      obtain ⟨holdings, holds⟩ := run_holds config operations
      have journal : records ((start config).followedBy
          (·.run (operations ++ [operation]))).journal =
          records ((start config).followedBy (·.run operations)).journal ++
            records (((new config).run operations).bridge.perform
              operation).journal := by
        simp only [Outcome.followedBy, run_concat, Journal.records_append,
          List.append_assoc]
        rfl
      rw [journal, run_concat]
      exact inductionHypothesis.append (holds.reads_perform operation)

end Bridge

/-- An account is right about a bridge: it lists the root's children in order,
each with its node id, and the registered widgets, of which there are as many as
the bridge says. -/
structure Journal.Account.Tells (account : Account) (bridge : Bridge) :
    Prop where
  nodes : account.nodes.map (fun entry => (entry.1, some entry.2)) =
    bridge.tree.root.children.map fun key =>
      (key.text, (bridge.tree.nodeId? key).map NodeId.text)
  widgets : ∀ text, text ∈ account.widgets ↔
    ∃ id, bridge.isRegistered id = true ∧ id.text = text
  count : account.widgets.card = bridge.registeredCount

namespace Bridge

/-- The account that a bridge gives of itself is right. -/
theorem Holds.tells
    {bridge : Bridge}
    {holdings : List Holding}
    (holds : bridge.Holds holdings) :
    bridge.account.Tells bridge where
  nodes := by
    rw [holds.sound.children, ← holds.sound.aligned, Table.keys, account,
      Tree.texts, List.map_map, List.map_map]
    apply List.map_congr_left
    intro entry member
    have stored :=
      Table.get?_of_mem_entries holds.sound.distinct_nodeIds member
    simp [Tree.nodeId?, stored]
  widgets := by
    intro text
    simp only [account, List.mem_toFinset, List.mem_map, isRegistered,
      Registry.contains, Table.contains_iff_mem_keys]
  count := holds.card_widgets

/-- The journal keeps account of the tree and the registry. After every run, its
records tell which nodes are attached, in which order and under which node ids,
and which widgets are registered. Each record agrees with those before it: nodes
are attached while they are absent and detached while they are present, and a
shutdown reports how many nodes and widgets there were. That is all that a
shutdown reports. -/
theorem run_account (config : Config) (operations : List Operation) :
    ((records ((start config).followedBy
        (·.run operations)).journal).foldl Account.note {}).Tells
      ((start config).followedBy (·.run operations)).bridge ∧
    (∀ earlier record later,
      records ((start config).followedBy (·.run operations)).journal =
        earlier ++ record :: later →
      (earlier.foldl Account.note {}).Fits record) ∧
    records
        ((start config).followedBy (·.run operations)).bridge.shutdown.journal =
      [(Journal.Event.shutDown
        ((records ((start config).followedBy
          (·.run operations)).journal).foldl Account.note {}).nodes.length
        ((start config).followedBy
          (·.run operations)).bridge.registeredCount).record] := by
  have reads := run_reads config operations
  obtain ⟨holdings, holds⟩ := run_holds config operations
  refine ⟨?tells, ?fits, ?shutDown⟩
  case tells =>
    rw [reads.foldl_note]
    exact holds.tells
  case fits =>
    intro earlier record later split
    rw [split] at reads
    exact reads.fits
  case shutDown =>
    rw [reads.foldl_note, holds.length_nodes]
    rfl

-- The text field leaves with both of its nodes.
example :
    (records ((start {}).followedBy (·.run
      [.add ⟨0⟩ { id := ⟨7⟩, name := "Search", code := 17 },
        .add ⟨1⟩ { id := ⟨8⟩, name := "Open", code := 4 },
        .remove ⟨7⟩])).journal).foldl Account.note {} =
      { nodes := [("8", "3")], widgets := {"8"} } := by
  decide

end Bridge

end AssistiveTree
