import AssistiveTree.Proofs.Session.Moves
import AssistiveTree.Proofs.Table

/-!
# Slots

A slot is filled by a request that is routed, and emptied when its activation is
delivered or discarded. No other move touches it, so what a slot contains is
what was last placed there.
-/

namespace AssistiveTree
namespace Session

/-- What a move leaves in a slot. -/
structure Placement where
  slot : String
  content : Option PendingActivation
  deriving DecidableEq

/-- Leave something in a slot. -/
def Placement.place
    (placement : Placement)
    (table : Table String PendingActivation) :
    Table String PendingActivation :=
  match placement.content with
  | some pending => table.insert placement.slot pending
  | none => table.erase placement.slot

/-- What a move places, given its answer. -/
def Move.placement? : Move → Answer → Option Placement
  | .act (.request _ _ slot _) _, .routed pending => some ⟨slot, some pending⟩
  | .act (.discard slot) _, _ => some ⟨slot, none⟩
  | .enter slot, _ => some ⟨slot, none⟩
  | _, _ => none

/-- What moves place, one after the other. -/
def placements (session : Session) : List Move → List Placement
  | [] => []
  | first :: moves =>
      (first.placement? (session.move first).answer).toList ++
        (session.move first).session.placements moves

/-- What was last placed in a slot. -/
def lastPlaced? (slot : String) (placements : List Placement) :
    Option PendingActivation :=
  (placements.filter fun placement => placement.slot = slot).getLast?.bind
    (·.content)

/-! ## One move -/

theorem pending_withWidget
    (session : Session)
    (handle : String)
    {act : WidgetRef → Widget → Reply}
    (kept : ∀ object widget,
      (act object widget).session.pending = session.pending) :
    (session.withWidget handle act).session.pending = session.pending := by
  unfold withWidget
  split
  · exact kept _ _
  · rfl

/-- A step that delivers nothing changes the slots by what it places. -/
theorem pending_direct
    (session : Session)
    (step : Step)
    (direct : step.isDelivery = false) :
    (session.takeWithin 0 step).session.pending =
      ((Move.act step direct).placement?
        (session.takeWithin 0 step).answer).elim session.pending
          (·.place session.pending) := by
  cases step with
  | request action target slot quiet =>
      unfold takeWithin
      split
      · rfl
      · rw [ask_eq]
        split
        · rfl
        · cases quiet <;> rfl
  | deliver slot => cases direct
  | amend handle amendment =>
      exact session.pending_withWidget handle fun _ _ => rfl
  | drop handle => exact session.pending_withWidget handle fun _ _ => rfl
  | inspect handle => exact session.pending_withWidget handle fun _ _ => rfl
  | add handle => exact session.pending_withWidget handle fun _ _ => rfl
  | remove handle => exact session.pending_withWidget handle fun _ _ => rfl
  | report handle report =>
      exact session.pending_withWidget handle fun _ _ => rfl
  | _ => rfl

theorem Entering.pending
    {session : Session}
    {slot : String}
    {reply : Reply}
    (entering : session.Entering slot reply) :
    reply.session.pending = session.pending.erase slot := by
  cases entering with
  | vacant empty =>
      exact (Table.erase_of_absent
        ((Table.get?_eq_none_iff _ _).mp empty)).symm
  | astray waiting missing => rfl
  | handed waiting found => rfl

/-- A move changes the slots by what it places. -/
theorem pending_move (session : Session) (move : Move) :
    (session.move move).session.pending =
      (move.placement? (session.move move).answer).elim session.pending
        (·.place session.pending) := by
  cases move with
  | act step direct => exact session.pending_direct step direct
  | enter slot => exact (session.entering slot).pending
  | note answer => rfl
  | leave => rfl

theorem Placement.get?_place
    (placement : Placement)
    (table : Table String PendingActivation)
    (slot : String) :
    (placement.place table).get? slot =
      if placement.slot = slot then placement.content
      else table.get? slot := by
  obtain ⟨place, content⟩ := placement
  by_cases same : place = slot
  · subst same
    cases content <;> simp [Placement.place]
  · have other : slot ≠ place := Ne.symm same
    cases content with
    | none => simp [Placement.place, same, Table.get?_erase_of_ne _ other]
    | some pending =>
        simp [Placement.place, same, Table.get?_insert_of_ne _ other]

/-! ## Many moves -/

theorem placements_append
    (session : Session)
    (earlier later : List Move) :
    session.placements (earlier ++ later) =
      session.placements earlier ++
        (session.after earlier).placements later := by
  induction earlier generalizing session with
  | nil => rfl
  | cons first earlier inductionHypothesis =>
      rw [List.cons_append, placements, inductionHypothesis, placements,
        List.append_assoc, after_cons]

/-- A slot contains what was last placed there, or else what it contained at
the beginning. -/
theorem get?_pending_after
    (session : Session)
    (moves : List Move)
    (slot : String) :
    (session.after moves).pending.get? slot =
      ((session.placements moves).filter
        fun placement => placement.slot = slot).getLast?.elim
          (session.pending.get? slot) (·.content) := by
  induction moves using List.reverseRecOn with
  | nil => rfl
  | append_singleton moves last inductionHypothesis =>
      rw [after_concat, pending_move, placements_append, List.filter_append,
        placements, placements, List.append_nil]
      cases last.placement? ((session.after moves).move last).answer with
      | none => simpa using inductionHypothesis
      | some placement =>
          rw [Option.elim_some, Placement.get?_place, inductionHypothesis]
          by_cases same : placement.slot = slot
          · simp [same]
          · simp [same]

/-- Slots that no move touches keep their content. -/
theorem get?_pending_of_untouched
    {session : Session}
    {moves : List Move}
    {slot : String}
    (untouched : ∀ placement ∈ session.placements moves,
      placement.slot ≠ slot) :
    (session.after moves).pending.get? slot =
      session.pending.get? slot := by
  have none : (session.placements moves).filter
      (fun placement => placement.slot = slot) = [] := by
    simpa [List.filter_eq_nil_iff] using untouched
  rw [get?_pending_after, none]
  rfl

/-- In a session that starts without activations, a slot contains what was last
placed there. -/
theorem get?_pending_new
    (bridge : Bridge)
    (moves : List Move)
    (slot : String) :
    ((new bridge).after moves).pending.get? slot =
      lastPlaced? slot ((new bridge).placements moves) := by
  rw [get?_pending_after, lastPlaced?]
  cases (((new bridge).placements moves).filter
    fun placement => placement.slot = slot).getLast? <;> rfl

end Session
end AssistiveTree
