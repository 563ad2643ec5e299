import AssistiveTree.Session
import Mathlib.Data.List.Induction

/-!
# Moves of a session

A step that delivers an activation contains the steps of the activated widget,
and those may deliver further activations. Moves do not nest: a delivery starts
with a move of its own, every step of the widget follows with its moves, and
another move ends the delivery. Whatever a session goes through, inside and
outside of deliveries, is a list of moves.
-/

namespace AssistiveTree
namespace Session

/-- Whether a step delivers an activation. -/
def Step.isDelivery : Step → Bool
  | .deliver _ => true
  | _ => false

/-- A move of a session. -/
inductive Move
  /-- Take a step that delivers nothing. -/
  | act (step : Step) (direct : step.isDelivery = false)
  /-- Take the activation out of a slot and hand it to its widget. -/
  | enter (slot : String)
  /-- Log the answer to a step that an activated widget took. -/
  | note (answer : Answer)
  /-- The widget that was activated last has taken its steps. -/
  | leave

/-- Make one move. -/
def move (session : Session) : Move → Reply
  | .act step _ => session.takeWithin 0 step
  | .enter slot =>
      match session.pending.get? slot with
      | none => { session, answer := .noPending }
      | some pending =>
          let taken :=
            { session with pending := session.pending.erase slot }
          match session.roster.object? pending.object with
          | none => { session := taken, answer := .done }
          | some actor =>
              { session :=
                  { taken with running := pending.object :: session.running }
                answer := .done
                log := [.activated actor.handle pending.activation] }
  | .note answer => { session, answer := .done, log := [.nested answer] }
  | .leave =>
      { session := { session with running := session.running.tail }
        answer := .done }

/-- A reply followed by what is done to its session next. -/
def Reply.followedBy (reply : Reply) (next : Session → Reply) : Reply where
  session := (next reply.session).session
  answer := reply.answer
  journal := reply.journal ++ (next reply.session).journal
  log := reply.log ++ (next reply.session).log

/-- A reply without its answer. -/
def Reply.unanswered (reply : Reply) : Reply :=
  { reply with answer := .done }

/-- Make moves in order, collecting journals and logs. -/
def follow (session : Session) (moves : List Move) : Reply :=
  moves.foldl (fun reply next => reply.followedBy (·.move next))
    { session, answer := .done }

@[simp] theorem follow_nil (session : Session) :
    session.follow [] = { session, answer := .done } := rfl

theorem follow_concat (session : Session) (moves : List Move) (last : Move) :
    session.follow (moves ++ [last]) =
      (session.follow moves).followedBy (·.move last) := by
  simp only [follow, List.foldl_append, List.foldl_cons, List.foldl_nil]

theorem follow_append (session : Session) (earlier later : List Move) :
    session.follow (earlier ++ later) =
      (session.follow earlier).followedBy (·.follow later) := by
  induction later using List.reverseRecOn with
  | nil => simp [Reply.followedBy]
  | append_singleton later last inductionHypothesis =>
      rw [← List.append_assoc, follow_concat, inductionHypothesis]
      simp [Reply.followedBy, follow_concat, List.append_assoc]

/-- The session after some moves. -/
def after (session : Session) (moves : List Move) : Session :=
  (session.follow moves).session

theorem after_concat (session : Session) (moves : List Move) (last : Move) :
    session.after (moves ++ [last]) =
      ((session.after moves).move last).session := by
  rw [after, follow_concat]
  rfl

theorem after_append (session : Session) (earlier later : List Move) :
    session.after (earlier ++ later) = (session.after earlier).after later := by
  rw [after, follow_append]
  rfl

theorem after_cons (session : Session) (first : Move) (moves : List Move) :
    session.after (first :: moves) =
      (session.move first).session.after moves :=
  after_append session [first] moves

theorem followedBy_follow_append
    (reply : Reply)
    (earlier later : List Move) :
    reply.followedBy (·.follow (earlier ++ later)) =
      (reply.followedBy (·.follow earlier)).followedBy (·.follow later) := by
  simp [Reply.followedBy, follow_append, List.append_assoc]

theorem follow_cons (session : Session) (first : Move) (moves : List Move) :
    session.follow (first :: moves) =
      ((session.move first).followedBy (·.follow moves)).unanswered :=
  follow_append session [first] moves

/-- A step that delivers nothing is the same at every depth. -/
theorem takeWithin_direct
    (depth : Nat)
    (session : Session)
    {step : Step}
    (direct : step.isDelivery = false) :
    session.takeWithin depth step = session.takeWithin 0 step := by
  cases step with
  | deliver slot => cases direct
  | _ => cases depth <;> rfl

theorem follow_singleton (session : Session) (only : Move) :
    session.follow [only] = (session.move only).unanswered := rfl

/-! ## What a step does -/

/-- What a step that delivers nothing may do: change an object or a handle,
perform one operation on the bridge, or fill or empty a slot. -/
inductive Effect (session : Session) : Reply → Prop
  | idle (answer : Answer) : Effect session { session, answer }
  | made (handle : String) (widget : Widget) (onActivate : List Step)
      (answer : Answer) :
      Effect session
        { session :=
            { session with
              roster := session.roster.make handle
                ⟨widget, handle, onActivate⟩ }
          answer }
  | amended (object : WidgetRef) (amendment : Widget.Amendment)
      (answer : Answer) :
      Effect session
        { session :=
            { session with
              roster := session.roster.modify object fun actor =>
                { actor with widget := actor.widget.amend amendment } }
          answer }
  | dropped (handle : String) (answer : Answer) :
      Effect session
        { session := { session with roster := session.roster.drop handle }
          answer }
  | added {handle : String} {object : WidgetRef} {actor : Actor}
      (found : session.roster.get? handle = some (object, actor)) :
      Effect session (session.operate (.add object actor.widget))
  | performed {operation : Bridge.Operation}
      (other : ∀ object widget, operation ≠ .add object widget)
      (answer : Answer) :
      Effect session (session.operate operation answer)
  | routed {request : ActionRequest} {pending : PendingActivation}
      (resolved :
        session.bridge.resolve session.living request = .ok pending)
      (slot : String) (quiet : Bool) :
      Effect session
        { session.operate (.request session.living request quiet)
            (.routed pending) with
          session :=
            { session with pending := session.pending.insert slot pending } }
  | emptied (slot : String) (answer : Answer) :
      Effect session
        { session := { session with pending := session.pending.erase slot }
          answer }

/-- A step about the widget of a handle does nothing without that widget. -/
theorem effect_withWidget
    (session : Session)
    (handle : String)
    {act : WidgetRef → Widget → Reply}
    (present : ∀ object actor,
      session.roster.get? handle = some (object, actor) →
        session.Effect (act object actor.widget)) :
    session.Effect (session.withWidget handle act) := by
  unfold withWidget
  cases found : session.roster.get? handle with
  | none => exact .idle _
  | some held => exact present held.1 held.2 found

/-- A request keeps the activation that it is resolved to, and is told why there
is none unless it is quiet. -/
theorem ask_eq
    (session : Session)
    (request : ActionRequest)
    (slot : String)
    (quiet : Bool) :
    session.ask request slot quiet =
      match session.bridge.resolve session.living request with
      | .ok pending =>
          { session.operate (.request session.living request quiet)
              (.routed pending) with
            session :=
              { session with
                pending := session.pending.insert slot pending } }
      | .error error =>
          session.operate (.request session.living request quiet)
            (if quiet then .done else .refused error) := by
  simp only [ask, Bridge.handleAction, Bridge.tryHandleAction]
  cases session.bridge.resolve session.living request <;>
    cases quiet <;> rfl

theorem effect_ask
    (session : Session)
    (request : ActionRequest)
    (slot : String)
    (quiet : Bool) : session.Effect (session.ask request slot quiet) := by
  rw [ask_eq]
  cases resolved : session.bridge.resolve session.living request with
  | ok pending => exact .routed resolved slot quiet
  | error error => exact .performed (by simp) _

/-- Every step that delivers nothing has one of these effects. -/
theorem effect_direct
    (session : Session)
    {step : Step}
    (direct : step.isDelivery = false) :
    session.Effect (session.takeWithin 0 step) := by
  cases step with
  | make handle widget onActivate => exact .made _ _ _ _
  | amend handle amendment =>
      exact session.effect_withWidget handle fun _ _ _ => .amended _ _ _
  | drop handle =>
      exact session.effect_withWidget handle fun _ _ _ => .dropped _ _
  | inspect handle =>
      exact session.effect_withWidget handle fun _ _ _ => .idle _
  | add handle =>
      exact session.effect_withWidget handle fun _ _ found => .added found
  | remove handle =>
      exact session.effect_withWidget handle fun _ _ _ =>
        .performed (by simp) _
  | report handle report =>
      exact session.effect_withWidget handle fun _ _ _ =>
        .performed (by simp) _
  | request action target slot quiet =>
      unfold takeWithin
      split
      · exact .idle _
      · exact session.effect_ask _ slot quiet
  | deliver slot => cases direct
  | discard slot => exact .emptied _ _
  | query query => exact .idle _
  | removeId id => exact .performed (by simp) _
  | shutdown => exact .performed (by simp) _
  | notify notification => exact .performed (by simp) _
  | onSelection subscriber => exact .performed (by simp) _
  | onNotification subscriber => exact .performed (by simp) _
  | exportTree => exact .performed (by simp) _

/-- What becomes of a session when an activation is taken out of a slot. -/
inductive Entering (session : Session) (slot : String) : Reply → Prop
  | vacant (empty : session.pending.get? slot = none) :
      Entering session slot { session, answer := .noPending }
  | astray {pending : PendingActivation}
      (waiting : session.pending.get? slot = some pending)
      (missing : session.roster.object? pending.object = none) :
      Entering session slot
        { session := { session with pending := session.pending.erase slot }
          answer := .done }
  | handed {pending : PendingActivation} {actor : Actor}
      (waiting : session.pending.get? slot = some pending)
      (found : session.roster.object? pending.object = some actor) :
      Entering session slot
        { session :=
            { session with
              pending := session.pending.erase slot
              running := pending.object :: session.running }
          answer := .done
          log := [.activated actor.handle pending.activation] }

theorem entering (session : Session) (slot : String) :
    session.Entering slot (session.move (.enter slot)) := by
  cases waiting : session.pending.get? slot with
  | none =>
      simp only [move, waiting]
      exact .vacant waiting
  | some pending =>
      cases found : session.roster.object? pending.object with
      | none =>
          simp only [move, waiting, found]
          exact .astray waiting found
      | some actor =>
          simp only [move, waiting, found]
          exact .handed waiting found

theorem Effect.running
    {session : Session}
    {reply : Reply}
    (effect : session.Effect reply) :
    reply.session.running = session.running := by
  cases effect <;> rfl

/-! ## Deliveries -/

/-- How an activated widget takes a step when activations may nest at most to
the given depth. -/
def takeInside : (depth : Nat) → Session → Step → Reply
  | 0 => fun session _ => { session, answer := .done }
  | depth + 1 => takeWithin depth

/-- Without an activation in the slot a delivery does nothing, and otherwise
it activates the widget object. -/
theorem takeWithin_deliver
    (depth : Nat)
    (session : Session)
    (slot : String) :
    session.takeWithin depth (.deliver slot) =
      match session.pending.get? slot with
      | none => { session, answer := .noPending }
      | some pending =>
          activate (takeInside depth)
            { session with pending := session.pending.erase slot } pending := by
  cases waiting : session.pending.get? slot with
  | none => cases depth <;> simp [takeWithin, waiting]
  | some pending => cases depth <;> simp [takeWithin, waiting, takeInside]

/-- After a step the same activations are being delivered as before. -/
theorem running_takeWithin (depth : Nat) (session : Session) (step : Step) :
    (session.takeWithin depth step).session.running = session.running := by
  cases direct : step.isDelivery with
  | false =>
      rw [takeWithin_direct depth session direct]
      exact (session.effect_direct direct).running
  | true =>
      cases step with
      | deliver slot =>
          rw [takeWithin_deliver]
          split
          · rfl
          · unfold activate
            split <;> rfl
      | _ => cases direct

theorem running_takeInside (depth : Nat) (session : Session) (step : Step) :
    (takeInside depth session step).session.running = session.running := by
  cases depth with
  | zero => rfl
  | succ depth => exact running_takeWithin depth session step

theorem play_concat
    (take : Session → Step → Reply)
    (start : Reply)
    (steps : List Step)
    (step : Step) :
    play take start (steps ++ [step]) =
      (play take start steps).followedBy fun session =>
        { take session step with
          log := (take session step).log ++
            [.nested (take session step).answer] } := by
  simp [play, List.foldl_append, Reply.followedBy]

/-- Taking steps keeps what is running, if each of them does. -/
theorem running_play
    {take : Session → Step → Reply}
    (kept : ∀ session step,
      (take session step).session.running = session.running)
    (start : Reply)
    (steps : List Step) :
    (play take start steps).session.running = start.session.running := by
  induction steps using List.reverseRecOn with
  | nil => rfl
  | append_singleton steps step inductionHypothesis =>
      rw [play_concat]
      exact (kept _ step).trans inductionHypothesis

/-- A delivery hands the activation to the widget object, which takes its
steps. -/
theorem takeWithin_deliver_of_waiting
    (depth : Nat)
    {session : Session}
    {slot : String}
    {pending : PendingActivation}
    (waiting : session.pending.get? slot = some pending)
    {actor : Actor}
    (found : session.roster.object? pending.object = some actor) :
    session.takeWithin depth (.deliver slot) =
      (play (takeInside depth)
        { session :=
            { session with
              pending := session.pending.erase slot
              running := pending.object :: session.running }
          answer := .done
          log := [.activated actor.handle pending.activation] }
        actor.onActivate).followedBy (·.move .leave) := by
  -- The steps leave what is running as they found it, so the move that ends
  -- the delivery takes exactly this object off.
  rw [takeWithin_deliver, waiting]
  simp only [activate, found, Reply.followedBy, move, List.append_nil,
    running_play (running_takeInside depth), List.tail_cons]

/-- Taking steps is a list of moves, if each step is. -/
theorem play_follows
    {take : Session → Step → Reply}
    (follows : ∀ session step, ∃ moves,
      session.follow moves = (take session step).unanswered)
    (start : Reply)
    (steps : List Step) :
    ∃ moves, play take start steps = start.followedBy (·.follow moves) := by
  induction steps using List.reverseRecOn with
  | nil => exact ⟨[], by simp [play, Reply.followedBy]⟩
  | append_singleton steps step inductionHypothesis =>
      obtain ⟨earlier, played⟩ := inductionHypothesis
      obtain ⟨inner, taken⟩ := follows (play take start steps).session step
      refine ⟨earlier ++ (inner ++
        [.note (take (play take start steps).session step).answer]), ?_⟩
      rw [followedBy_follow_append, ← played, play_concat]
      simp only [Reply.followedBy, follow_concat, taken, Reply.unanswered, move,
        List.append_nil]

/-- A delivery is a list of moves, if the steps inside it are. -/
theorem deliver_follows_of_inside
    (depth : Nat)
    (inside : ∀ session step, ∃ moves,
      session.follow moves = (takeInside depth session step).unanswered)
    (session : Session)
    (slot : String) :
    ∃ moves, session.follow moves =
      (session.takeWithin depth (.deliver slot)).unanswered := by
  cases waiting : session.pending.get? slot with
  | none =>
      refine ⟨[], ?_⟩
      simp [takeWithin_deliver, Reply.unanswered, waiting]
  | some pending =>
      cases found : session.roster.object? pending.object with
      | none =>
          refine ⟨[.enter slot], ?_⟩
          simp [takeWithin_deliver, activate, follow_singleton, move,
            Reply.unanswered, waiting, found]
      | some actor =>
          obtain ⟨moves, played⟩ := play_follows inside
            (session.move (.enter slot)) actor.onActivate
          refine ⟨.enter slot :: (moves ++ [.leave]), ?_⟩
          rw [follow_cons, followedBy_follow_append, ← played,
            takeWithin_deliver_of_waiting depth waiting found]
          simp only [move, waiting, found]
          rfl

/-- A step is a list of moves, if those inside its deliveries are. -/
theorem takeWithin_follows_of_inside
    (depth : Nat)
    (inside : ∀ session step, ∃ moves,
      session.follow moves = (takeInside depth session step).unanswered)
    (session : Session)
    (step : Step) :
    ∃ moves,
      session.follow moves = (session.takeWithin depth step).unanswered := by
  cases direct : step.isDelivery with
  | false =>
      refine ⟨[.act step direct], ?_⟩
      rw [takeWithin_direct depth session direct, follow_singleton, move]
  | true =>
      cases step with
      | deliver slot =>
          exact deliver_follows_of_inside depth inside session slot
      | _ => cases direct

/-- Every step is a list of moves, however deep its deliveries nest: the moves
lead to the same session, with the same journal and log. -/
theorem takeWithin_follows (depth : Nat) (session : Session) (step : Step) :
    ∃ moves,
      session.follow moves = (session.takeWithin depth step).unanswered := by
  -- The steps inside a delivery nest less deep than the delivery.
  induction depth generalizing session step with
  | zero =>
      exact takeWithin_follows_of_inside 0 (fun _ _ => ⟨[], rfl⟩) session step
  | succ depth inductionHypothesis =>
      exact takeWithin_follows_of_inside (depth + 1) inductionHypothesis
        session step

end Session
end AssistiveTree
