import AssistiveTree.Bridge.Operation
import AssistiveTree.Proofs.Notification
import AssistiveTree.Proofs.Tree

/-!
# What operations report

Handling a notification is journalled under dispatch, and nothing else is. So
the two reports that would reveal a registry and a tree out of step each have
one origin: only an add warns about a stray node, and only an update drops an
update.
-/

namespace AssistiveTree
namespace Journal

/-- The part of the bridge that an entry is journalled under. -/
def Entry.target : Entry → Target
  | .event reported => reported.record.target
  | .opened span => span.target
  | .entered span => span.target
  | .left span => span.target

/-- A single event is journalled under its own target. -/
theorem target_of_mem_event
    {event : Event}
    {entry : Entry}
    (member : entry ∈ [.event event]) :
    entry.target = event.record.target := by
  rw [List.mem_singleton.mp member]
  rfl

/-- A span is journalled around its events. -/
theorem target_of_mem_within
    {span : Span}
    {entries : List Entry}
    {entry : Entry}
    (member : entry ∈ within span entries) :
    entry.target = span.target ∨ entry ∈ entries := by
  simp only [within, List.cons_append, List.mem_cons, List.mem_append,
    List.not_mem_nil, or_false] at member
  rcases member with rfl | rfl | inside | rfl
  · exact Or.inl rfl
  · exact Or.inl rfl
  · exact Or.inr inside
  · exact Or.inl rfl

theorem mem_within {span : Span} {entries : List Entry} {event : Event} :
    .event event ∈ within span entries ↔ .event event ∈ entries := by
  simp [within]

end Journal

/-- Attaching a node is journalled under the tree. -/
theorem Tree.target_of_mem_attach
    {tree : Tree}
    {key : NodeKey}
    {node : Node}
    {entry : Journal.Entry}
    (member : entry ∈ (tree.attach key node).journal) :
    entry.target = .tree := by
  unfold attach at member
  split at member
  · exact Journal.target_of_mem_event member
  · exact Journal.target_of_mem_event member

theorem Tree.target_of_mem_detach
    {tree : Tree}
    {key : NodeKey}
    {entry : Journal.Entry}
    (member : entry ∈ (tree.detach key).journal) :
    entry.target = .tree := by
  unfold detach at member
  split at member
  · exact absurd member List.not_mem_nil
  · exact Journal.target_of_mem_event member

namespace Bridge

theorem eq_of_mem_whenLogging
    {bridge : Bridge}
    {event : Journal.Event}
    {entry : Journal.Entry}
    (member : entry ∈ bridge.whenLogging event) :
    entry = .event event := by
  unfold whenLogging at member
  split at member
  · exact List.mem_singleton.mp member
  · exact absurd member List.not_mem_nil

theorem target_of_mem_acknowledge
    {bridge : Bridge}
    {point : HookPoint}
    {entry : Journal.Entry}
    (member : entry ∈ (bridge.acknowledge point).journal) :
    entry.target = .dispatch := by
  unfold acknowledge at member
  split at member
  · exact Journal.target_of_mem_event member
  · rw [eq_of_mem_whenLogging member]
    rfl

theorem target_of_mem_update
    {bridge : Bridge}
    {id : WidgetId}
    {aspect : Aspect}
    {change : Node.Attribute}
    {entry : Journal.Entry}
    (member : entry ∈ (bridge.update id aspect change).journal) :
    entry.target = .dispatch := by
  unfold update at member
  split at member
  · rw [eq_of_mem_whenLogging member]
    rfl
  · exact Journal.target_of_mem_event member

/-- All that handling a selection can report: that it has no control, that the
control has no companion, or that the control is not registered. -/
theorem eq_of_mem_routeSelection
    {bridge : Bridge}
    {selection : Selection}
    {entry : Journal.Entry}
    (member : entry ∈ (bridge.routeSelection selection).1.journal) :
    entry = .event .textBoxMissing ∨ entry = .event .textFieldMissing ∨
      (∃ id, entry = .event (.companionMissing id)) ∨
      ∃ id, entry = .event (.dropped id .textFieldSelection) := by
  cases selection with
  | textBox selection =>
      simp only [routeSelection, noteTextBox] at member
      split at member
      · exact absurd member List.not_mem_nil
      · exact Or.inl (List.mem_singleton.mp member)
  | textField selection =>
      simp only [routeSelection, repeatTextField] at member
      split at member
      · exact Or.inr (Or.inl (List.mem_singleton.mp member))
      · split at member
        · split at member
          · exact absurd member List.not_mem_nil
          · exact Or.inr (Or.inr (Or.inl ⟨_, List.mem_singleton.mp member⟩))
        · exact Or.inr (Or.inr (Or.inr ⟨_, List.mem_singleton.mp member⟩))
  | _ => exact absurd member List.not_mem_nil

theorem target_of_mem_routeSelection
    {bridge : Bridge}
    {selection : Selection}
    {entry : Journal.Entry}
    (member : entry ∈ (bridge.routeSelection selection).1.journal) :
    entry.target = .dispatch := by
  rcases eq_of_mem_routeSelection member with
    rfl | rfl | ⟨id, rfl⟩ | ⟨id, rfl⟩ <;> rfl

/-- A notification is journalled under dispatch. -/
theorem target_of_mem_notify
    {bridge : Bridge}
    {notification : Notification}
    {entry : Journal.Entry}
    (member : entry ∈ (bridge.notify notification).journal) :
    entry.target = .dispatch := by
  rw [notify_eq] at member
  cases path : notification.path with
  | update id aspect change =>
      rw [path] at member
      exact target_of_mem_update member
  | acknowledge point =>
      rw [path] at member
      exact target_of_mem_acknowledge member
  | moveFocus focus =>
      rw [path] at member
      exact Journal.target_of_mem_event member
  | changeSelection selection =>
      rw [path] at member
      rcases List.mem_append.mp member with routed | logged
      · exact target_of_mem_routeSelection routed
      · rw [eq_of_mem_whenLogging logged]
        rfl

/-- Adding is journalled under the bridge, its attachments under the tree. -/
theorem target_of_mem_add
    {bridge : Bridge}
    {object : WidgetRef}
    {widget : Widget}
    {entry : Journal.Entry}
    (member : entry ∈ (bridge.add object widget).journal) :
    entry.target = .bridge ∨ entry.target = .tree := by
  unfold add at member
  split at member
  · exact Or.inl (Journal.target_of_mem_event member)
  · split at member
    · exact Or.inl (Journal.target_of_mem_event member)
    · rcases Journal.target_of_mem_within member with same | inside
      · exact Or.inl same
      · simp only [List.mem_append] at inside
        rcases inside with ((primary | stray) | companion) | added
        · exact Or.inr (Tree.target_of_mem_attach primary)
        · split at stray
          · exact absurd stray List.not_mem_nil
          · exact Or.inl (Journal.target_of_mem_event stray)
        · unfold attachCompanion at companion
          split at companion
          · exact Or.inr (Tree.target_of_mem_attach companion)
          · exact absurd companion List.not_mem_nil
        · exact Or.inl (Journal.target_of_mem_event added)

/-- Removing is journalled under the bridge, its detachments under the
tree. -/
theorem target_of_mem_remove
    {bridge : Bridge}
    {id : WidgetId}
    {entry : Journal.Entry}
    (member : entry ∈ (bridge.remove id).journal) :
    entry.target = .bridge ∨ entry.target = .tree := by
  unfold remove at member
  split at member
  · rcases Journal.target_of_mem_within member with same | inside
    · exact Or.inl same
    · simp only [List.mem_append] at inside
      rcases inside with (primary | companion) | removed
      · exact Or.inr (Tree.target_of_mem_detach primary)
      · exact Or.inr (Tree.target_of_mem_detach companion)
      · exact Or.inl (Journal.target_of_mem_event removed)
  · exact Or.inl (Journal.target_of_mem_event member)

/-- Routed requests are always journalled, refused ones only when nobody is told
of the refusal otherwise. -/
theorem journal_request
    (bridge : Bridge)
    (living : List WidgetRef)
    (request : ActionRequest)
    (quiet : Bool) :
    (bridge.perform (.request living request quiet)).journal =
      match bridge.resolve living request with
      | .ok pending =>
          [.event (.activationRouted pending.widget pending.activation)]
      | .error error =>
          if quiet then [.event (.requestRefused request.target error)]
          else [] := by
  simp only [perform, handleAction, tryHandleAction]
  cases bridge.resolve living request <;> cases quiet <;> rfl

theorem target_of_mem_request
    {bridge : Bridge}
    {living : List WidgetRef}
    {request : ActionRequest}
    {quiet : Bool}
    {entry : Journal.Entry}
    (member : entry ∈
      (bridge.perform (.request living request quiet)).journal) :
    entry.target = .tree := by
  rw [journal_request] at member
  split at member
  · exact Journal.target_of_mem_event member
  · split at member
    · exact Journal.target_of_mem_event member
    · exact absurd member List.not_mem_nil

/-- Whatever is journalled under dispatch reports a notification. -/
theorem notify_of_mem_perform
    {bridge : Bridge}
    {operation : Operation}
    {entry : Journal.Entry}
    (member : entry ∈ (bridge.perform operation).journal)
    (dispatched : entry.target = .dispatch) :
    ∃ notification, operation = .notify notification := by
  cases operation with
  | add object widget =>
      rcases target_of_mem_add member with other | other <;>
        rw [other] at dispatched <;> contradiction
  | remove id =>
      rcases target_of_mem_remove member with other | other <;>
        rw [other] at dispatched <;> contradiction
  | shutdown =>
      rcases Journal.target_of_mem_within member with other | inside
      · rw [other] at dispatched
        contradiction
      · rw [List.mem_singleton.mp inside] at dispatched
        contradiction
  | notify notification => exact ⟨notification, rfl⟩
  | onSelection subscriber => exact absurd member List.not_mem_nil
  | onNotification subscriber => exact absurd member List.not_mem_nil
  | exportTree =>
      rcases Journal.target_of_mem_within member with other | inside
      · rw [other] at dispatched
        contradiction
      · exact absurd inside List.not_mem_nil
  | request living request quiet =>
      rw [target_of_mem_request member] at dispatched
      contradiction

/-- Selections drop no updates. -/
theorem update_not_mem_routeSelection
    {bridge : Bridge}
    {selection : Selection}
    {id : WidgetId}
    {aspect : Aspect} :
    .event (.dropped id (.update aspect)) ∉
      (bridge.routeSelection selection).1.journal := by
  intro member
  rcases eq_of_mem_routeSelection member with
    same | same | ⟨_, same⟩ | ⟨_, same⟩ <;> cases same

/-- An update is dropped only for a widget without registration or node. -/
theorem unheld_of_dropped_update
    {bridge : Bridge}
    {operation : Operation}
    {id : WidgetId}
    {aspect : Aspect}
    (member : .event (.dropped id (.update aspect)) ∈
      (bridge.perform operation).journal) :
    (bridge.isRegistered id && bridge.tree.contains (.widget id)) = false := by
  obtain ⟨notification, rfl⟩ := notify_of_mem_perform member rfl
  simp only [perform, notify_eq] at member
  cases path : notification.path with
  | update target other change =>
      simp only [path, update] at member
      split at member
      · cases eq_of_mem_whenLogging member
      · next unheld =>
        have same := List.mem_singleton.mp member
        simp only [Journal.Entry.event.injEq, Journal.Event.dropped.injEq]
          at same
        rw [same.1]
        simpa using unheld
  | acknowledge point =>
      simp only [path, acknowledge] at member
      split at member
      · cases List.mem_singleton.mp member
      · cases eq_of_mem_whenLogging member
  | moveFocus focus =>
      simp only [path] at member
      cases List.mem_singleton.mp member
  | changeSelection selection =>
      simp only [path] at member
      rcases List.mem_append.mp member with routed | logged
      · exact absurd routed update_not_mem_routeSelection
      · cases eq_of_mem_whenLogging logged

/-- An add warns about a stray node when it finds a node of an unregistered
widget. -/
theorem stray_of_mem_add
    {bridge : Bridge}
    {object : WidgetRef}
    {widget : Widget}
    {id : WidgetId}
    (member : .event (.strayNode id) ∈ (bridge.add object widget).journal) :
    bridge.isRegistered id = false ∧
      bridge.tree.contains (.widget id) = true := by
  unfold add at member
  split at member
  · cases List.mem_singleton.mp member
  · split at member
    · cases List.mem_singleton.mp member
    · next unregistered =>
      rw [Journal.mem_within] at member
      simp only [List.mem_append] at member
      rcases member with ((primary | stray) | companion) | added
      · cases Tree.target_of_mem_attach primary
      · cases answer : (bridge.tree.attach (.widget widget.id)
          (primaryNode widget)).answer with
        | true => simp [answer] at stray
        | false =>
            obtain rfl : id = widget.id := by simpa [answer] using stray
            refine ⟨by simpa using unregistered, ?_⟩
            by_contra absent
            simp [Tree.attach, absent] at answer
      · unfold attachCompanion at companion
        split at companion
        · cases Tree.target_of_mem_attach companion
        · exact absurd companion List.not_mem_nil
      · cases List.mem_singleton.mp added

theorem stray_not_mem_remove
    {bridge : Bridge}
    {target id : WidgetId} :
    .event (.strayNode id) ∉ (bridge.remove target).journal := by
  intro member
  unfold remove at member
  split at member
  · rw [Journal.mem_within] at member
    simp only [List.mem_append] at member
    rcases member with (primary | companion) | removed
    · cases Tree.target_of_mem_detach primary
    · cases Tree.target_of_mem_detach companion
    · cases List.mem_singleton.mp removed
  · cases List.mem_singleton.mp member

/-- Only an add warns about a stray node. -/
theorem stray_of_mem_perform
    {bridge : Bridge}
    {operation : Operation}
    {id : WidgetId}
    (member : .event (.strayNode id) ∈ (bridge.perform operation).journal) :
    bridge.isRegistered id = false ∧
      bridge.tree.contains (.widget id) = true := by
  cases operation with
  | add object widget => exact stray_of_mem_add member
  | remove target => exact absurd member stray_not_mem_remove
  | shutdown =>
      simp only [perform, shutdown, Journal.mem_within] at member
      cases List.mem_singleton.mp member
  | notify notification => cases target_of_mem_notify member
  | onSelection subscriber => exact absurd member List.not_mem_nil
  | onNotification subscriber => exact absurd member List.not_mem_nil
  | exportTree =>
      simp only [perform, exportJournal, Journal.mem_within] at member
      exact absurd member List.not_mem_nil
  | request living request quiet =>
      cases target_of_mem_request member

end Bridge
end AssistiveTree
