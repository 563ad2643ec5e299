import AssistiveTree.Proofs.Bridge.Routing
import AssistiveTree.Proofs.Session.Objects
import AssistiveTree.Proofs.Session.Slots

/-!
# Pending activations

A request that succeeds leaves an activation in a slot. It stays there, with the
object that was registered and the activation that the node asked for, until it
is delivered, discarded or replaced by that of another request, whatever happens
to the widget, its node and its id meanwhile. Delivering it activates that
object, and the activation keeps the object alive until then.
-/

namespace AssistiveTree

/-- While the primary node of a widget stays attached, a click on it leads to
the object that is registered and the activation of the node, as long as the
object lives. -/
theorem Bridge.run_resolve_of_assigned
    (config : Config)
    (earlier since : List Operation)
    (living : List WidgetRef)
    {pending : PendingActivation}
    {target : NodeId}
    (room : Journal.attachments
      ((new config).run (earlier ++ since)).journal ≤ Tree.attachmentLimit)
    (assigned : ((new config).run earlier).bridge.tree.nodeId?
      (.widget pending.widget) = some target)
    (registered : ((new config).run earlier).bridge.registry.entries.get?
      pending.widget = some pending.object)
    (activatable : (((new config).run earlier).bridge.tree.node?
      (.widget pending.widget)).bind (·.activation) = some pending.activation)
    (stillAssigned : ((new config).run (earlier ++ since)).bridge.tree.nodeId?
      (.widget pending.widget) = some target) :
    ((new config).run (earlier ++ since)).bridge.resolve living
        ⟨.click, target⟩ =
      if pending.object ∈ living then .ok pending
      else .error (.widgetDropped pending.widget) := by
  have numbered := run_numbered config (earlier ++ since) room
  obtain ⟨holdings, holds, recalls⟩ := run_recalls config (earlier ++ since)
  have key := (numbered.keyOf?_eq_some_iff holds.sound _ _).mpr stillAssigned
  -- A node id that was lost is assigned to no key any more.
  cases run_fate config earlier since room assigned with
  | lost ended retired =>
      rw [retired.keyOf?_eq_none numbered] at key
      cases key
  | kept unended _ =>
      obtain ⟨earlierHoldings, earlierHolds, earlierRecalls⟩ :=
        run_recalls config earlier
      obtain ⟨node, member⟩ :=
        (earlierHolds.sound.nodeId?_eq_some_iff _ _).mp assigned
      obtain ⟨tenure, owner, serving, primary, stored⟩ :=
        earlierHolds.exists_tenure earlierRecalls member
      obtain rfl : node = tenure.primary := primary
      have object : pending.object = tenure.object :=
        Option.some.inj (registered.symm.trans stored)
      rw [earlierHolds.sound.node?_of_mem member] at activatable
      have classified :
          (classify tenure.widget.code).rule.activation? =
            some pending.activation := activatable
      rw [resolve_of_assigned holds recalls numbered stillAssigned
        (tenure?_append serving since unended)]
      simp only [Tenure.clicked, classified, owner, ← object]

namespace Session

/-- An object is held by a handle, by an activation in a slot or by one that is
being delivered. -/
def Keeps (session : Session) (object : WidgetRef) : Prop :=
  session.roster.Holds object ∨
    (∃ slot pending, session.pending.get? slot = some pending ∧
      pending.object = object) ∨
    object ∈ session.running

/-- An activation is what a click on a node asks for: of the registered object,
which reports the id, in the way that the node offers. -/
structure Offers
    (session : Session)
    (node : NodeId)
    (pending : PendingActivation) : Prop where
  assigned :
    session.bridge.tree.nodeId? (.widget pending.widget) = some node
  registered :
    session.bridge.registry.entries.get? pending.widget = some pending.object
  activatable :
    (session.bridge.tree.node? (.widget pending.widget)).bind (·.activation) =
      some pending.activation
  reports : Reports session.roster pending.object pending.widget

/-- The delivery of a slot activates the object of a waiting activation. -/
structure Delivers
    (session : Session)
    (slot : String)
    (pending : PendingActivation)
    (actor : Actor) : Prop where
  waiting : session.pending.get? slot = some pending
  /-- Whatever the object reports now, it kept its id, handle and steps. -/
  retained : ∃ widget,
    session.roster.object? pending.object = some { actor with widget } ∧
      widget.id = pending.widget
  /-- The delivery empties the slot, logs the activation once, and then takes
  the steps of the object and none besides. -/
  delivered : ∀ depth,
    session.takeWithin (depth + 1) (.deliver slot) =
      (play (takeWithin depth)
        { session :=
            { session with
              pending := session.pending.erase slot
              running := pending.object :: session.running }
          answer := .done
          log := [.activated actor.handle pending.activation] }
        actor.onActivate).followedBy (·.move .leave)

/-- How a session treats requests, given what was placed in its slots so far and
the moves to come. -/
structure HonoursRequests
    (session : Session)
    (placed : List Placement)
    (later : List Move) : Prop where
  /-- Every step is a list of moves, with all that its deliveries contain. -/
  unfolds : ∀ depth step, ∃ moves,
    session.follow moves = (session.takeWithin depth step).unanswered
  /-- A slot contains the activation of the request that was last routed to it,
  unless it was delivered or discarded since. -/
  contents : ∀ slot, session.pending.get? slot = lastPlaced? slot placed
  /-- Only taking an activation out of its slot activates anything. -/
  activated : ∀ move handle activation,
    .activated handle activation ∈ (session.move move).log →
      ∃ slot pending actor, move = .enter slot ∧
        session.pending.get? slot = some pending ∧
        session.roster.object? pending.object = some actor ∧
        handle = actor.handle ∧ activation = pending.activation
  /-- A request changes nothing in the bridge, whether it is routed or not. -/
  unchanged : ∀ depth action target slot quiet,
    (session.takeWithin depth
      (.request action target slot quiet)).session.bridge = session.bridge
  /-- A request that is routed gets what the node offers, and changes nothing
  but its slot. -/
  routed : ∀ depth action target slot quiet asked pending,
    session.takeWithin depth (.request action target slot quiet) = asked →
      asked.answer = .routed pending →
        action = .click ∧
        (∃ node, session.targetId? target = some node ∧
          session.Offers node pending) ∧
        asked.session =
          { session with pending := session.pending.insert slot pending }
  /-- Whatever moves follow a request that is routed, while none of them touches
  its slot, the delivery activates the object of the request. -/
  delivered : ∀ depth action target slot quiet asked pending since,
    session.takeWithin depth (.request action target slot quiet) = asked →
      asked.answer = .routed pending →
        (∀ placement ∈ asked.session.placements since,
          placement.slot ≠ slot) →
          ∃ actor, session.roster.object? pending.object = some actor ∧
            (asked.session.after since).Delivers slot pending actor
  /-- Once an activation was taken out of its slot, delivering the slot does
  nothing until something is placed there again. -/
  spent : ∀ slot taken since,
    (session.move (.enter slot)).session = taken →
      (∀ placement ∈ taken.placements since, placement.slot ≠ slot) →
        ∀ depth, (taken.after since).takeWithin depth (.deliver slot) =
          { session := taken.after since, answer := .noPending }
  /-- While the node stays attached and the object is held, a click on the node
  gets the same activation. -/
  kept : ∀ node pending,
    session.Offers node pending →
      (session.after later).bridge.tree.nodeId? (.widget pending.widget) =
        some node →
      (session.after later).Keeps pending.object →
        (session.after later).bridge.resolve (session.after later).living
            ⟨.click, node⟩ = .ok pending ∧
          ∀ depth slot quiet,
            ((session.after later).takeWithin depth
              (.request .click (.id node) slot quiet)).answer =
                .routed pending
  /-- While the node stays attached and the object is not held, a click on the
  node is refused, whoever else lives with the same id. -/
  dropped : ∀ node pending,
    session.Offers node pending →
      (session.after later).bridge.tree.nodeId? (.widget pending.widget) =
        some node →
      ¬(session.after later).Keeps pending.object →
        (session.after later).bridge.resolve (session.after later).living
            ⟨.click, node⟩ = .error (.widgetDropped pending.widget) ∧
          ∀ depth slot,
            ((session.after later).takeWithin depth
              (.request .click (.id node) slot false)).answer =
                .refused (.widgetDropped pending.widget)

/-! ## Requests -/

/-- A request step is a request for the node that it targets. -/
theorem takeWithin_request
    (depth : Nat)
    (session : Session)
    (action : Action)
    (target : RequestTarget)
    (slot : String)
    (quiet : Bool) :
    session.takeWithin depth (.request action target slot quiet) =
      match session.targetId? target with
      | none => { session, answer := .noTarget }
      | some node => session.ask ⟨action, node⟩ slot quiet := by
  cases depth <;> rfl

theorem bridge_request
    (depth : Nat)
    (session : Session)
    (action : Action)
    (target : RequestTarget)
    (slot : String)
    (quiet : Bool) :
    (session.takeWithin depth
      (.request action target slot quiet)).session.bridge =
        session.bridge := by
  rw [takeWithin_request]
  split
  · rfl
  · rw [ask_eq]
    split <;> rfl

/-- A request that resolves to an activation is routed. -/
theorem answer_of_ok
    {session : Session}
    {action : Action}
    {node : NodeId}
    {pending : PendingActivation}
    (resolved : session.bridge.resolve session.living ⟨action, node⟩ =
      .ok pending)
    (depth : Nat)
    (slot : String)
    (quiet : Bool) :
    (session.takeWithin depth
      (.request action (.id node) slot quiet)).answer = .routed pending := by
  rw [takeWithin_request]
  simp only [targetId?, ask_eq, resolved]
  rfl

/-- A request that does not is refused with its reason, unless it is quiet. -/
theorem answer_of_error
    {session : Session}
    {action : Action}
    {node : NodeId}
    {error : Error}
    (refused : session.bridge.resolve session.living ⟨action, node⟩ =
      .error error)
    (depth : Nat)
    (slot : String) :
    (session.takeWithin depth
      (.request action (.id node) slot false)).answer = .refused error := by
  rw [takeWithin_request]
  simp only [targetId?, ask_eq, refused]
  rfl

/-- A request that is routed was resolved to its activation. -/
theorem ask_routed
    {session : Session}
    {request : ActionRequest}
    {slot : String}
    {quiet : Bool}
    {pending : PendingActivation}
    (routed : (session.ask request slot quiet).answer = .routed pending) :
    session.bridge.resolve session.living request = .ok pending ∧
      (session.ask request slot quiet).session =
        { session with pending := session.pending.insert slot pending } := by
  rw [ask_eq] at routed ⊢
  cases resolved : session.bridge.resolve session.living request with
  | ok found =>
      rw [resolved] at routed
      obtain rfl : found = pending := Answer.routed.inj routed
      exact ⟨rfl, rfl⟩
  | error error =>
      rw [resolved] at routed
      cases quiet <;> cases routed

/-- A request step that is routed was resolved for the node that it targets. -/
theorem exists_of_routed
    {depth : Nat}
    {session : Session}
    {action : Action}
    {target : RequestTarget}
    {slot : String}
    {quiet : Bool}
    {asked : Reply}
    {pending : PendingActivation}
    (taken :
      session.takeWithin depth (.request action target slot quiet) = asked)
    (routed : asked.answer = .routed pending) :
    ∃ node, session.targetId? target = some node ∧
      session.bridge.resolve session.living ⟨action, node⟩ = .ok pending ∧
      asked.session =
        { session with pending := session.pending.insert slot pending } := by
  rw [takeWithin_request] at taken
  cases targeted : session.targetId? target with
  | none =>
      rw [targeted] at taken
      subst taken
      cases routed
  | some node =>
      rw [targeted] at taken
      subst taken
      exact ⟨node, rfl, ask_routed routed⟩

/-- An activation that a request gets is offered by its node. -/
theorem Sound.offers
    {session : Session}
    (sound : session.Sound)
    {holdings : List Holding}
    (holds : session.bridge.Holds holdings)
    {attached : Nat}
    (numbered : session.bridge.tree.Numbered attached)
    {action : Action}
    {node : NodeId}
    {pending : PendingActivation}
    (resolved : session.bridge.resolve session.living ⟨action, node⟩ =
      .ok pending) :
    action = .click ∧ session.Offers node pending := by
  obtain ⟨click, key, activatable, alive⟩ := Bridge.resolve_ok resolved
  exact ⟨click,
    { assigned := (numbered.keyOf?_eq_some_iff holds.sound _ _).mp key
      registered := (Option.filter_eq_some_iff.mp alive).1
      activatable
      reports := sound.reports_of_resolve resolved }⟩

/-- The living objects are those that are held. -/
theorem mem_living_iff
    {session : Session}
    (sound : session.Sound)
    (object : WidgetRef) : object ∈ session.living ↔ session.Keeps object := by
  have waiting : object ∈ session.pending.values.map (·.object) ↔
      ∃ slot pending, session.pending.get? slot = some pending ∧
        pending.object = object := by
    simp only [List.mem_map, Table.mem_values_iff sound.slots]
    constructor
    · rintro ⟨pending, ⟨slot, stored⟩, same⟩
      exact ⟨slot, pending, stored, same⟩
    · rintro ⟨slot, pending, stored, same⟩
      exact ⟨pending, ⟨slot, stored⟩, same⟩
  rw [living, List.mem_append, List.mem_append, sound.roster.mem_held_iff,
    waiting, or_assoc, Keeps]

/-- While a node stays attached, a click on it leads to what it offered, as long
as the object lives. -/
theorem resolve_of_offers
    (config : Config)
    (earlier later : List Move)
    (living : List WidgetRef)
    {node : NodeId}
    {pending : PendingActivation}
    (room : Journal.attachments
      ((new (Bridge.new config)).follow (earlier ++ later)).journal ≤
        Tree.attachmentLimit)
    (offers : ((new (Bridge.new config)).after earlier).Offers node pending)
    (attached : ((new (Bridge.new config)).after
      (earlier ++ later)).bridge.tree.nodeId? (.widget pending.widget) =
        some node) :
    ((new (Bridge.new config)).after (earlier ++ later)).bridge.resolve living
        ⟨.click, node⟩ =
      if pending.object ∈ living then .ok pending
      else .error (.widgetDropped pending.widget) := by
  obtain ⟨past, performs⟩ :=
    (new (Bridge.new config)).exists_performs_follow earlier
  obtain ⟨since, continues⟩ :=
    ((new (Bridge.new config)).after earlier).exists_performs_follow later
  have both :
      ((new (Bridge.new config)).follow (earlier ++ later)).Performs
        (Bridge.new config) (past ++ since) := by
    rw [follow_append]
    exact performs.followedBy continues
  obtain ⟨assigned, registered, activatable, _⟩ := offers
  rw [after, performs.bridge] at assigned registered activatable
  rw [after, both.bridge] at attached ⊢
  rw [both.journal] at room
  exact Bridge.run_resolve_of_assigned config past since living room assigned
    registered activatable attached

/-! ## Deliveries -/

/-- An activation that waits in a slot is delivered to its object. -/
theorem delivers_of_waiting
    {session : Session}
    {slot : String}
    {pending : PendingActivation}
    (waiting : session.pending.get? slot = some pending)
    {before : Roster Actor}
    {actor : Actor}
    (made : before.object? pending.object = some actor)
    (same : actor.widget.id = pending.widget)
    (retains : Retains before session.roster) :
    session.Delivers slot pending actor := by
  obtain ⟨widget, found, kept⟩ := retains pending.object actor made
  refine ⟨waiting, ⟨widget, found, kept.trans same⟩, fun depth => ?_⟩
  have delivery := takeWithin_deliver_of_waiting (depth + 1) waiting found
  exact delivery

/-- Whatever moves follow a request that is routed, while none of them touches
its slot, the delivery activates the object of the request. -/
theorem Sound.delivers_of_routed
    {session : Session}
    (sound : session.Sound)
    {depth : Nat}
    {action : Action}
    {target : RequestTarget}
    {slot : String}
    {quiet : Bool}
    {asked : Reply}
    {pending : PendingActivation}
    {since : List Move}
    (taken :
      session.takeWithin depth (.request action target slot quiet) = asked)
    (routed : asked.answer = .routed pending)
    (untouched : ∀ placement ∈ asked.session.placements since,
      placement.slot ≠ slot) :
    ∃ actor, session.roster.object? pending.object = some actor ∧
      (asked.session.after since).Delivers slot pending actor := by
  obtain ⟨node, targeted, resolved, left⟩ := exists_of_routed taken routed
  obtain ⟨actor, made, same⟩ := sound.reports_of_resolve resolved
  have waiting :
      (asked.session.after since).pending.get? slot = some pending := by
    rw [get?_pending_of_untouched untouched, left, Table.get?_insert_self]
  -- Asking leaves the objects alone, and no move takes them away.
  have rosters : asked.session.roster = session.roster := by
    rw [left]
  have retains := retains_after asked.session since
  rw [rosters] at retains
  exact ⟨actor, made, delivers_of_waiting waiting made same retains⟩

/-- Nothing is left to deliver in a slot that was emptied. -/
theorem takeWithin_deliver_of_spent
    (depth : Nat)
    {session : Session}
    {slot : String}
    {since : List Move}
    (untouched : ∀ placement ∈
      (session.move (.enter slot)).session.placements since,
      placement.slot ≠ slot) :
    ((session.move (.enter slot)).session.after since).takeWithin depth
        (.deliver slot) =
      { session := (session.move (.enter slot)).session.after since
        answer := .noPending } := by
  rw [takeWithin_deliver, get?_pending_of_untouched untouched,
    (session.entering slot).pending, Table.get?_erase_self]

theorem Effect.not_activated
    {session : Session}
    {reply : Reply}
    (effect : session.Effect reply)
    (handle : String)
    (activation : Activation) :
    .activated handle activation ∉ reply.log := by
  cases effect <;> simp [operate]

theorem Entering.exists_of_activated
    {session : Session}
    {slot : String}
    {reply : Reply}
    (entering : session.Entering slot reply)
    {handle : String}
    {activation : Activation}
    (logged : .activated handle activation ∈ reply.log) :
    ∃ pending actor,
      session.pending.get? slot = some pending ∧
      session.roster.object? pending.object = some actor ∧
      handle = actor.handle ∧ activation = pending.activation := by
  cases entering with
  | vacant empty => cases logged
  | astray waiting missing => cases logged
  | handed waiting found =>
      obtain ⟨rfl, rfl⟩ :=
        LogEntry.activated.inj (List.mem_singleton.mp logged)
      exact ⟨_, _, waiting, found, rfl, rfl⟩

/-- Only taking an activation out of its slot activates anything. -/
theorem exists_of_activated
    {session : Session}
    {move : Move}
    {handle : String}
    {activation : Activation}
    (logged : .activated handle activation ∈ (session.move move).log) :
    ∃ slot pending actor, move = .enter slot ∧
      session.pending.get? slot = some pending ∧
      session.roster.object? pending.object = some actor ∧
      handle = actor.handle ∧ activation = pending.activation := by
  cases move with
  | act step direct =>
      exact absurd logged
        ((session.effect_direct direct).not_activated handle activation)
  | enter slot =>
      obtain ⟨pending, actor, found⟩ :=
        (session.entering slot).exists_of_activated logged
      exact ⟨slot, pending, actor, rfl, found⟩
  | note answer => simp [Session.move] at logged
  | leave => simp [Session.move] at logged

/-- While node ids last, the nodes of a session are numbered. -/
theorem exists_numbered
    (config : Config)
    (earlier later : List Move)
    (room : Journal.attachments
      ((new (Bridge.new config)).follow (earlier ++ later)).journal ≤
        Tree.attachmentLimit) :
    ∃ holdings attached,
      ((new (Bridge.new config)).after earlier).bridge.Holds holdings ∧
      ((new (Bridge.new config)).after earlier).bridge.tree.Numbered
        attached := by
  obtain ⟨past, performs⟩ :=
    (new (Bridge.new config)).exists_performs_follow earlier
  have roomBefore : Journal.attachments
      ((Bridge.new config).run past).journal ≤ Tree.attachmentLimit := by
    rw [follow_append, Reply.followedBy, Journal.attachments_append,
      performs.journal] at room
    exact Nat.le_trans (Nat.le_add_right _ _) room
  obtain ⟨holdings, holds⟩ := Bridge.run_holds config past
  rw [after, performs.bridge]
  exact ⟨holdings, _, holds, Bridge.run_numbered config past roomBefore⟩

/-- In every session that starts with a new bridge, while node ids last,
requests are honoured. -/
theorem follow_honoursRequests
    (config : Config)
    (earlier later : List Move)
    (room : Journal.attachments
      ((new (Bridge.new config)).follow (earlier ++ later)).journal ≤
        Tree.attachmentLimit) :
    ((new (Bridge.new config)).after earlier).HonoursRequests
      ((new (Bridge.new config)).placements earlier) later := by
  have sound : ((new (Bridge.new config)).after earlier).Sound :=
    (Sound.new config).after earlier
  have stillSound :
      ((new (Bridge.new config)).after (earlier ++ later)).Sound :=
    (Sound.new config).after (earlier ++ later)
  obtain ⟨holdings, attached, holds, numbered⟩ :=
    exists_numbered config earlier later room
  exact
    { unfolds := fun depth step => takeWithin_follows depth _ step
      contents := fun slot => get?_pending_new _ earlier slot
      activated := fun _ _ _ logged => exists_of_activated logged
      unchanged := fun depth action target slot quiet =>
        bridge_request depth _ action target slot quiet
      routed := by
        intro depth action target slot quiet asked pending taken routed
        obtain ⟨node, targeted, resolved, left⟩ := exists_of_routed taken routed
        obtain ⟨click, offers⟩ := sound.offers holds numbered resolved
        exact ⟨click, ⟨node, targeted, offers⟩, left⟩
      delivered := fun _ _ _ _ _ _ _ _ taken routed untouched =>
        sound.delivers_of_routed taken routed untouched
      spent := by
        rintro slot _ since rfl untouched depth
        exact takeWithin_deliver_of_spent depth untouched
      kept := by
        intro node pending offers stays keeps
        rw [← after_append] at stays keeps ⊢
        have resolved := resolve_of_offers config earlier later
          ((new (Bridge.new config)).after (earlier ++ later)).living room
          offers stays
        rw [if_pos ((mem_living_iff stillSound _).mpr keeps)] at resolved
        exact ⟨resolved, answer_of_ok resolved⟩
      dropped := by
        intro node pending offers stays free
        rw [← after_append] at stays free ⊢
        have refused := resolve_of_offers config earlier later
          ((new (Bridge.new config)).after (earlier ++ later)).living room
          offers stays
        rw [if_neg (mt (mem_living_iff stillSound _).mp free)] at refused
        exact ⟨refused, answer_of_error refused⟩ }

/-- A button is made and added. -/
def buttonShown : List Move :=
  [.act (.make "first" { id := ⟨5⟩, name := "Save", code := 4 }
      [.removeId ⟨5⟩]) rfl,
    .act (.add "first") rfl]

/-- Another button with the same id is made and added, and the first one is
dropped. -/
def buttonReplaced : List Move :=
  [.act (.make "second" { id := ⟨5⟩, name := "Open", code := 4 } []) rfl,
    .act (.add "second") rfl,
    .act (.drop "first") rfl]

/-- A click on the node of the first button is refused after the first button
was dropped, although the second one lives. An activation that was asked for
before is delivered to the first button. -/
theorem follow_honoursRequests_buttonReplaced :
    Journal.attachments
        ((new (Bridge.new {})).follow (buttonShown ++ buttonReplaced)).journal ≤
          Tree.attachmentLimit ∧
      (((new (Bridge.new {})).after buttonShown).after
          buttonReplaced).bridge.resolve
        (((new (Bridge.new {})).after buttonShown).after
          buttonReplaced).living ⟨.click, ⟨1⟩⟩ =
            .error (.widgetDropped ⟨5⟩) ∧
      (((((new (Bridge.new {})).after buttonShown).takeWithin 1
        (.request .click (.id ⟨1⟩) "slot" false)).session.after
          buttonReplaced).takeWithin 1 (.deliver "slot")).log =
            [.activated "first" .invoke, .nested .done] := by
  have room : Journal.attachments
      ((new (Bridge.new {})).follow (buttonShown ++ buttonReplaced)).journal ≤
        Tree.attachmentLimit := by decide
  have honours :=
    follow_honoursRequests {} buttonShown buttonReplaced room
  have answered :
      (((new (Bridge.new {})).after buttonShown).takeWithin 1
        (.request .click (.id ⟨1⟩) "slot" false)).answer =
          .routed ⟨⟨0⟩, ⟨5⟩, .invoke⟩ := by decide
  obtain ⟨_, ⟨node, targeted, offers⟩, _⟩ :=
    honours.routed 1 _ _ _ _ _ _ rfl answered
  obtain rfl : ⟨1⟩ = node := Option.some.inj targeted
  obtain ⟨actor, made, delivers⟩ :=
    honours.delivered 1 _ _ _ _ _ _ buttonReplaced rfl answered (by decide)
  have free : ¬(((new (Bridge.new {})).after buttonShown).after
      buttonReplaced).Keeps ⟨0⟩ := by
    rw [← after_append,
      ← mem_living_iff ((Sound.new {}).after (buttonShown ++ buttonReplaced))]
    decide
  refine ⟨room, (honours.dropped _ _ offers (by decide) free).1, ?_⟩
  obtain rfl : Actor.mk _ _ _ = actor := Option.some.inj made
  rw [delivers.delivered 0]
  rfl

end Session
end AssistiveTree
