import AssistiveTree.Proofs.Tree.Edit

/-!
# Trees as ledgers

A tree behaves as one list. An entry of the list is an attached node with its
key and its node id. Attaching a fresh key appends an entry, detaching deletes
one, and changing a node touches nothing else. No two entries have the same key
or the same node id.

As long as node ids last, every edit of a tree answers as the same edit of the
list, and every look at the tree shows what the list tells. The children, the
nodes, the node ids and the reverse table are edited one by one, and each stays
a projection of the list.
-/

namespace AssistiveTree

/-- What an edit of a tree answers. -/
inductive Tree.Edit.Answer
  | attached (fresh : Bool)
  | detached (node : Option Node)
  /-- How many nodes were detached. -/
  | cleared (count : Nat)
  /-- The node that was there to be changed. -/
  | modified (node : Option Node)
  | done
  deriving DecidableEq

/-- Whether the edit found nothing to do. -/
def Tree.Edit.Answer.isRefusal : Tree.Edit.Answer → Bool
  | .attached fresh => !fresh
  | .detached node => node.isNone
  | .cleared _ => false
  | .modified node => node.isNone
  | .done => false

/-- An attached node in a ledger. -/
structure Ledger.Entry where
  key : NodeKey
  id : NodeId
  node : Node
  deriving DecidableEq

/-- The attached nodes of a tree, oldest first, and the number of attachments of
its whole life. -/
structure Ledger where
  rootId : NodeId
  attachments : Nat := 0
  entries : List Ledger.Entry := []
  deriving DecidableEq

namespace Ledger

/-- The ledger of a tree without nodes. -/
def new (rootId : NodeId) : Ledger := { rootId }

/-- The entry of a key. -/
def entry? (ledger : Ledger) (key : NodeKey) : Option Entry :=
  ledger.entries.find? fun entry => entry.key = key

/-- The entry of a node id. -/
def entryOf? (ledger : Ledger) (id : NodeId) : Option Entry :=
  ledger.entries.find? fun entry => entry.id = id

/-- The node id of the next attachment. -/
def nextId (ledger : Ledger) : NodeId :=
  ⟨(Tree.idNumber ledger.rootId (ledger.attachments + 1)).toUInt64⟩

/-- The ledger after one edit. -/
def edit (ledger : Ledger) : Tree.Edit → Ledger
  | .attach key node =>
      if (ledger.entry? key).isSome then ledger
      else
        { ledger with
          attachments := ledger.attachments + 1
          entries := ledger.entries ++ [⟨key, ledger.nextId, node⟩] }
  | .detach key =>
      { ledger with
        entries := ledger.entries.filter fun entry => entry.key ≠ key }
  | .detachAll => { ledger with entries := [] }
  | .modify key change =>
      { ledger with
        entries := ledger.entries.map fun entry =>
          if entry.key = key then { entry with node := change entry.node }
          else entry }
  | .setActiveDescendant _ => ledger

/-- The answer to an edit. -/
def answer (ledger : Ledger) : Tree.Edit → Tree.Edit.Answer
  | .attach key _ => .attached (ledger.entry? key).isNone
  | .detach key => .detached ((ledger.entry? key).map (·.node))
  | .detachAll => .cleared ledger.entries.length
  | .modify key _ => .modified ((ledger.entry? key).map (·.node))
  | .setActiveDescendant _ => .done

/-- The ledger after edits in order. -/
def editAll (ledger : Ledger) (edits : List Tree.Edit) : Ledger :=
  edits.foldl edit ledger

/-- The answers to edits in order. -/
def answers (ledger : Ledger) : List Tree.Edit → List Tree.Edit.Answer
  | [] => []
  | edit :: edits => ledger.answer edit :: (ledger.edit edit).answers edits

/-- The keys with their node ids, oldest first. -/
def places (ledger : Ledger) : List (NodeKey × NodeId) :=
  ledger.entries.map fun entry => (entry.key, entry.id)

/-- What the later ledger still has of the earlier one stands there in the same
order under the same node ids, and in front of all that is new. -/
def Outlasts (earlier later : Ledger) : Prop :=
  ∃ kept added,
    kept.Sublist earlier.places ∧
      later.places = kept ++ added ∧
      ∀ place ∈ added, ∀ entry ∈ earlier.entries, entry.key ≠ place.1

/-- Attaching a key that has an entry changes nothing. -/
theorem edit_attach_of_listed
    {ledger : Ledger}
    {key : NodeKey}
    {entry : Entry}
    (listed : ledger.entry? key = some entry)
    (node : Node) :
    ledger.edit (.attach key node) = ledger := by
  simp [edit, listed]

/-- Attaching any other key appends an entry with the next node id. -/
theorem edit_attach_of_unlisted
    {ledger : Ledger}
    {key : NodeKey}
    (unlisted : ledger.entry? key = none)
    (node : Node) :
    ledger.edit (.attach key node) =
      { ledger with
        attachments := ledger.attachments + 1
        entries := ledger.entries ++ [⟨key, ledger.nextId, node⟩] } := by
  simp [edit, unlisted]

/-- No edit moves an entry or gives it another node id. -/
theorem outlasts_edit (ledger : Ledger) (edit : Tree.Edit) :
    ledger.Outlasts (ledger.edit edit) := by
  have unchanged : ledger.Outlasts ledger :=
    ⟨ledger.places, [], List.Sublist.refl _, (List.append_nil _).symm,
      fun _ member => absurd member List.not_mem_nil⟩
  cases edit with
  | attach key node =>
      cases found : ledger.entry? key with
      | some entry =>
          rw [edit_attach_of_listed found]
          exact unchanged
      | none =>
          rw [edit_attach_of_unlisted found]
          refine ⟨ledger.places, [(key, ledger.nextId)], List.Sublist.refl _,
            by simp [places], ?_⟩
          intro place member entry listed
          rw [List.mem_singleton.mp member]
          simpa using List.find?_eq_none.mp found entry listed
  | detach key =>
      exact ⟨_, [], List.filter_sublist.map _, (List.append_nil _).symm,
        fun _ member => absurd member List.not_mem_nil⟩
  | detachAll =>
      exact ⟨[], [], List.nil_sublist _, rfl,
        fun _ member => absurd member List.not_mem_nil⟩
  | modify key change =>
      have same : (ledger.edit (.modify key change)).places =
          ledger.places := by
        simp only [places, Ledger.edit, List.map_map]
        apply List.map_congr_left
        intro entry _
        by_cases changed : entry.key = key <;> simp [changed]
      exact ⟨ledger.places, [], List.Sublist.refl _, by simp [same],
        fun _ member => absurd member List.not_mem_nil⟩
  | setActiveDescendant focus => exact unchanged

end Ledger

namespace Tree

/-- The answer to an edit. -/
def answer (tree : Tree) : Edit → Edit.Answer
  | .attach key node => .attached (tree.attach key node).answer
  | .detach key => .detached (tree.detach key).answer
  | .detachAll => .cleared tree.detachAll.answer
  | .modify key _ => .modified (tree.node? key)
  | .setActiveDescendant _ => .done

/-- The answers to edits in order. -/
def answers (tree : Tree) : List Edit → List Edit.Answer
  | [] => []
  | edit :: edits => tree.answer edit :: (tree.edit edit).answers edits

/-- Every look at a tree shows what the ledger tells, and keys and node ids lead
to each other. -/
structure Shows (tree : Tree) (ledger : Ledger) : Prop where
  distinctKeys : (ledger.entries.map (·.key)).Nodup
  distinctIds : (ledger.entries.map (·.id)).Nodup
  children : tree.root.children = ledger.entries.map (·.key)
  listed : tree.toList =
    ledger.entries.map fun entry => (entry.key, entry.node)
  size : tree.size = ledger.entries.length
  isEmpty : tree.isEmpty = ledger.entries.isEmpty
  contains : ∀ key, tree.contains key = (ledger.entry? key).isSome
  node : ∀ key, tree.node? key = (ledger.entry? key).map (·.node)
  nodeId : ∀ key, tree.nodeId? key = (ledger.entry? key).map (·.id)
  keyOf : ∀ id, tree.keyOf? id = (ledger.entryOf? id).map (·.key)
  inverse : ∀ id key, tree.keyOf? id = some key ↔ tree.nodeId? key = some id

/-- An edit that finds nothing to do changes nothing. -/
theorem edit_of_isRefusal
    {tree : Tree}
    {edit : Edit}
    (refused : (tree.answer edit).isRefusal = true) :
    tree.edit edit = tree := by
  cases edit with
  | attach key node =>
      by_cases present : key ∈ tree.nodes.keys
      · rw [edit_attach, attach_of_contains present]
      · simp [answer, attach_of_absent present, Edit.Answer.isRefusal]
          at refused
  | detach key =>
      cases found : tree.nodes.get? key with
      | none => simp [Tree.edit, detach, found]
      | some node => simp [answer, detach, found, Edit.Answer.isRefusal]
          at refused
  | modify key change =>
      have absent : key ∉ tree.nodes.keys := by
        simpa [answer, Edit.Answer.isRefusal, node?,
          Table.get?_eq_none_iff] using refused
      rw [Tree.edit, Tree.modify, Table.modify_of_absent absent]
  | detachAll => cases refused
  | setActiveDescendant focus => cases refused

end Tree

namespace Ledger

/-- A ledger records the nodes of a tree, their node ids and the attachments of
the tree's life. -/
structure Records (ledger : Ledger) (tree : Tree) : Prop where
  rootId : tree.root.id = ledger.rootId
  sound : tree.Sound
  numbered : tree.Numbered ledger.attachments
  nodes : tree.nodes.entries =
    ledger.entries.map fun entry => (entry.key, entry.node)
  nodeIds : tree.nodeIds.entries =
    ledger.entries.map fun entry => (entry.key, entry.id)

theorem records_new (root : NodeId) (label : String) :
    (new root).Records (.new root label) where
  rootId := rfl
  sound := Tree.sound_new root label
  numbered := Tree.numbered_new root label
  nodes := rfl
  nodeIds := rfl

namespace Records

variable {ledger : Ledger} {tree : Tree}

theorem keys (records : ledger.Records tree) :
    tree.nodes.keys = ledger.entries.map (·.key) := by
  rw [Table.keys, records.nodes, List.map_map]
  rfl

/-- A key leads to the node of its entry. -/
theorem node? (records : ledger.Records tree) (key : NodeKey) :
    tree.node? key = (ledger.entry? key).map (·.node) := by
  rw [Tree.node?, Table.get?, records.nodes, List.find?_map, Option.map_map]
  rfl

/-- A key leads to the node id of its entry. -/
theorem nodeId? (records : ledger.Records tree) (key : NodeKey) :
    tree.nodeId? key = (ledger.entry? key).map (·.id) := by
  rw [Tree.nodeId?, Table.get?, records.nodeIds, List.find?_map,
    Option.map_map]
  rfl

/-- A node id leads back to the key of its entry. -/
theorem keyOf? (records : ledger.Records tree) (id : NodeId) :
    tree.keyOf? id = (ledger.entryOf? id).map (·.key) := by
  rw [Tree.keyOf?, Table.get?, records.numbered.reverse, records.nodeIds,
    List.map_map, List.find?_map, Option.map_map]
  rfl

theorem shows (records : ledger.Records tree) : tree.Shows ledger where
  distinctKeys := by
    rw [← records.keys]
    exact records.sound.distinct
  distinctIds := by
    have numbers := records.numbered.nodup_idNumbers
    rw [Tree.idNumbers, records.nodeIds, List.map_map] at numbers
    apply List.Nodup.of_map (·.raw.toNat)
    rw [List.map_map]
    exact numbers
  children := by rw [records.sound.children, records.keys]
  listed := by
    rw [records.sound.toList_eq, ← records.sound.entries_nodes, records.nodes]
  size := by rw [Tree.size, Table.size, records.nodes, List.length_map]
  isEmpty := by
    rw [Tree.isEmpty, Table.isEmpty, records.nodes, List.isEmpty_map]
  contains := by
    intro key
    have found := congrArg Option.isSome (records.node? key)
    rwa [Option.isSome_map] at found
  node := records.node?
  nodeId := records.nodeId?
  keyOf := records.keyOf?
  inverse := records.numbered.keyOf?_eq_some_iff records.sound

/-- A key without entry is not attached. -/
theorem absent_of_unlisted
    (records : ledger.Records tree)
    {key : NodeKey}
    (unlisted : ledger.entry? key = none) :
    key ∉ tree.nodes.keys := by
  have missing := records.node? key
  rw [unlisted] at missing
  exact (Table.get?_eq_none_iff _ _).mp missing

/-- A key with an entry is attached. -/
theorem mem_keys_of_listed
    (records : ledger.Records tree)
    {key : NodeKey}
    {entry : Entry}
    (listed : ledger.entry? key = some entry) :
    key ∈ tree.nodes.keys := by
  rw [← Tree.contains_iff, records.shows.contains, listed]
  rfl

/-- A tree answers an edit as its ledger does. -/
theorem answer (records : ledger.Records tree) (edit : Tree.Edit) :
    tree.answer edit = ledger.answer edit := by
  cases edit with
  | attach key node =>
      cases found : ledger.entry? key with
      | none =>
          have absent := records.absent_of_unlisted found
          simp [Tree.answer, Ledger.answer, found,
            Tree.attach_of_absent absent]
      | some entry =>
          have present := records.mem_keys_of_listed found
          simp [Tree.answer, Ledger.answer, found,
            Tree.attach_of_contains present]
  | detach key =>
      have stored : tree.nodes.get? key =
          (ledger.entry? key).map (·.node) := records.node? key
      cases found : ledger.entry? key with
      | none => simp [Tree.answer, Ledger.answer, Tree.detach, stored, found]
      | some entry =>
          simp [Tree.answer, Ledger.answer, Tree.detach, stored, found]
  | detachAll =>
      have count : tree.root.children.length = ledger.entries.length := by
        rw [records.shows.children, List.length_map]
      exact congrArg Tree.Edit.Answer.cleared count
  | modify key change =>
      rw [Tree.answer, Ledger.answer, records.shows.node]
  | setActiveDescendant focus => rfl

/-- The next node id of a tree is that of its ledger. -/
theorem freshId_eq
    (records : ledger.Records tree)
    (room : ledger.attachments < Tree.attachmentLimit) :
    tree.freshId = ledger.nextId := by
  have number := records.numbered.freshId room
  rw [records.rootId] at number
  rw [nextId, ← number]
  exact congrArg NodeId.mk UInt64.ofNat_toNat.symm

/-- A ledger counts the attachments of its tree. -/
theorem attachments_edit
    (records : ledger.Records tree)
    (edit : Tree.Edit) :
    (ledger.edit edit).attachments =
      ledger.attachments + tree.attachmentsOf edit := by
  cases edit with
  | attach key node =>
      cases found : ledger.entry? key with
      | none =>
          have absent := records.absent_of_unlisted found
          simp [edit_attach_of_unlisted found, Tree.attach_of_absent absent]
      | some entry =>
          have present := records.mem_keys_of_listed found
          simp [edit_attach_of_listed found, Tree.attach_of_contains present]
  | _ => rfl

/-- The nodes of a tree follow the entries of its ledger. -/
theorem nodes_edit (records : ledger.Records tree) (edit : Tree.Edit) :
    (tree.edit edit).nodes.entries =
      (ledger.edit edit).entries.map fun entry => (entry.key, entry.node) := by
  cases edit with
  | attach key node =>
      cases found : ledger.entry? key with
      | none =>
          have absent := records.absent_of_unlisted found
          rw [Tree.edit_attach, Tree.attach_of_absent absent,
            edit_attach_of_unlisted found, Table.entries_insert absent,
            records.nodes, List.map_append]
          rfl
      | some entry =>
          have present := records.mem_keys_of_listed found
          rw [Tree.edit_attach, Tree.attach_of_contains present,
            edit_attach_of_listed found]
          exact records.nodes
  | detach key =>
      change (tree.detach key).tree.nodes.entries = _
      rw [Tree.nodes_detach, Table.entries_erase, records.nodes,
        List.filter_map]
      rfl
  | detachAll => rfl
  | modify key change =>
      simp only [Tree.edit, Tree.modify, Table.entries_modify, records.nodes,
        Ledger.edit, List.map_map]
      apply List.map_congr_left
      intro entry _
      by_cases changed : entry.key = key <;> simp [changed]
  | setActiveDescendant focus => exact records.nodes

/-- So do the node ids. -/
theorem nodeIds_edit
    (records : ledger.Records tree)
    (edit : Tree.Edit)
    (room : ledger.attachments + tree.attachmentsOf edit ≤
      Tree.attachmentLimit) :
    (tree.edit edit).nodeIds.entries =
      (ledger.edit edit).entries.map fun entry => (entry.key, entry.id) := by
  cases edit with
  | attach key node =>
      cases found : ledger.entry? key with
      | none =>
          have absent := records.absent_of_unlisted found
          have one : tree.attachmentsOf (.attach key node) = 1 := by
            simp [Tree.attach_of_absent absent]
          rw [one] at room
          rw [Tree.edit_attach, Tree.attach_of_absent absent,
            edit_attach_of_unlisted found,
            Table.entries_insert (records.sound.not_mem_nodeIds absent),
            records.nodeIds, records.freshId_eq room, List.map_append]
          rfl
      | some entry =>
          have present := records.mem_keys_of_listed found
          rw [Tree.edit_attach, Tree.attach_of_contains present,
            edit_attach_of_listed found]
          exact records.nodeIds
  | detach key =>
      change (tree.detach key).tree.nodeIds.entries = _
      rw [records.sound.nodeIds_detach, Table.entries_erase, records.nodeIds,
        List.filter_map]
      rfl
  | detachAll => rfl
  | modify key change =>
      rw [Tree.edit, Tree.modify, records.nodeIds, Ledger.edit, List.map_map]
      apply List.map_congr_left
      intro entry _
      by_cases changed : entry.key = key <;> simp [changed]
  | setActiveDescendant focus => exact records.nodeIds

/-- While node ids last, an edit of the tree is the edit of its ledger. -/
theorem edit
    (records : ledger.Records tree)
    (edit : Tree.Edit)
    (room : ledger.attachments + tree.attachmentsOf edit ≤
      Tree.attachmentLimit) :
    (ledger.edit edit).Records (tree.edit edit) where
  rootId := by
    have same : (ledger.edit edit).rootId = ledger.rootId := by
      cases edit with
      | attach key node =>
          cases found : ledger.entry? key with
          | none => rw [edit_attach_of_unlisted found]
          | some entry => rw [edit_attach_of_listed found]
      | _ => rfl
    rw [(Tree.root_edit tree edit).1, same]
    exact records.rootId
  sound := records.sound.edit edit
  numbered := by
    rw [records.attachments_edit edit]
    exact (records.numbered.edit records.sound edit room).1
  nodes := records.nodes_edit edit
  nodeIds := records.nodeIds_edit edit room

/-- Edits in order lead to the same answers and to a tree that the ledger
records. -/
theorem editAll
    (records : ledger.Records tree)
    (edits : List Tree.Edit)
    (room : ledger.attachments + tree.attachments edits ≤
      Tree.attachmentLimit) :
    tree.answers edits = ledger.answers edits ∧
      (ledger.editAll edits).Records (tree.editAll edits) := by
  induction edits generalizing ledger tree with
  | nil => exact ⟨rfl, records⟩
  | cons edit edits inductionHypothesis =>
      unfold Tree.attachments at room
      rw [← Nat.add_assoc] at room
      have next := records.edit edit (Nat.le_trans (Nat.le_add_right _ _) room)
      rw [← records.attachments_edit edit] at room
      obtain ⟨answers, final⟩ := inductionHypothesis next room
      refine ⟨?_, final⟩
      rw [Tree.answers, Ledger.answers, records.answer edit, answers]

end Records
end Ledger

/-- While node ids last, a tree answers every edit of its life as one list of
entries does, and shows what that list tells. Edits that find nothing to do
change nothing, and entries that outlast an edit keep their order and their node
ids. -/
theorem Tree.editAll_shows
    (root : NodeId)
    (label : String)
    (edits : List Edit)
    (room : (new root label).attachments edits ≤ attachmentLimit) :
    (new root label).answers edits = (Ledger.new root).answers edits ∧
      ((new root label).editAll edits).Shows
        ((Ledger.new root).editAll edits) ∧
      ∀ next,
        ((((new root label).editAll edits).answer next).isRefusal = true →
          ((new root label).editAll edits).edit next =
            (new root label).editAll edits) ∧
        ((Ledger.new root).editAll edits).Outlasts
          (((Ledger.new root).editAll edits).edit next) := by
  have start := Ledger.records_new root label
  have fits : (Ledger.new root).attachments +
      (new root label).attachments edits ≤ attachmentLimit := by
    rw [Ledger.new, Nat.zero_add]
    exact room
  obtain ⟨answers, records⟩ := start.editAll edits fits
  exact ⟨answers, records.shows, fun next =>
    ⟨edit_of_isRefusal, Ledger.outlasts_edit _ next⟩⟩

/-- A widget is attached, refused a second time, and attached again after it was
detached, while its companion stays. -/
def Tree.reattachment : List Tree.Edit :=
  [.attach (.widget ⟨7⟩) { role := .button },
    .attach (.widget ⟨7⟩) { role := .list },
    .attach (.selection ⟨7⟩) { role := .generic },
    .detach (.widget ⟨7⟩),
    .attach (.widget ⟨7⟩) { role := .list }]

/-- The widget that was attached again stands last, under a new node id, and its
old one leads nowhere. -/
theorem Tree.editAll_shows_reattachment :
    (new ⟨2⟩ "root").attachments reattachment ≤ attachmentLimit ∧
      (new ⟨2⟩ "root").answers reattachment =
        [.attached true, .attached false, .attached true,
          .detached (some { role := .button }), .attached true] ∧
      ((new ⟨2⟩ "root").editAll reattachment).root.children =
        [.selection ⟨7⟩, .widget ⟨7⟩] ∧
      ((new ⟨2⟩ "root").editAll reattachment).nodeId? (.widget ⟨7⟩) =
        some ⟨4⟩ ∧
      ((new ⟨2⟩ "root").editAll reattachment).keyOf? ⟨1⟩ = none := by
  have room :
      (new ⟨2⟩ "root").attachments reattachment ≤ attachmentLimit := by
    decide
  obtain ⟨answers, shows, _⟩ :=
    editAll_shows ⟨2⟩ "root" reattachment room
  exact ⟨room, answers.trans (by decide), shows.children.trans (by decide),
    (shows.nodeId _).trans (by decide), (shows.keyOf ⟨1⟩).trans (by decide)⟩

end AssistiveTree
