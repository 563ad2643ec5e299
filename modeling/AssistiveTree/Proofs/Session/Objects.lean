import AssistiveTree.Proofs.Bridge.Upkeep
import AssistiveTree.Proofs.Roster
import AssistiveTree.Proofs.Session.Moves

/-!
# The objects of a session

What a registry entry, a handle or a waiting activation leads to was made and
stays there. A widget object may come to report other things, but it keeps its
id, the handle it was made under and the steps that it takes when activated.
-/

namespace AssistiveTree

/-- A successful request is a click on the primary node of a widget, and leads
to the registered object and the activation of the node. -/
theorem Bridge.resolve_ok
    {bridge : Bridge}
    {living : List WidgetRef}
    {request : ActionRequest}
    {pending : PendingActivation}
    (resolved : bridge.resolve living request = .ok pending) :
    request.action = .click ∧
      bridge.tree.keyOf? request.target = some (.widget pending.widget) ∧
        (bridge.tree.node? (.widget pending.widget)).bind (·.activation) =
          some pending.activation ∧
          bridge.registry.get? living pending.widget = some pending.object := by
  have click : request.action = .click := by
    by_contra other
    rw [resolve, if_pos other] at resolved
    cases resolved
  rw [resolve, if_neg (not_not.mpr click)] at resolved
  cases key : bridge.tree.keyOf? request.target with
  | none => simp [key] at resolved
  | some found =>
      cases found with
      | selection owner => simp [key] at resolved
      | widget id =>
          cases activatable :
              (bridge.tree.node? (.widget id)).bind (·.activation) with
          | none => simp [key, activatable] at resolved
          | some activation =>
              cases registered : bridge.registry.get? living id with
              | none => simp [key, activatable, registered] at resolved
              | some object =>
                  simp only [key, activatable, registered] at resolved
                  cases resolved
                  exact ⟨click, rfl, activatable, registered⟩

namespace Session

/-! ## Objects stay -/

/-- A widget object reports an id. -/
def Reports (roster : Roster Actor) (object : WidgetRef) (id : WidgetId) :
    Prop :=
  ∃ actor, roster.object? object = some actor ∧ actor.widget.id = id

/-- Every widget object is still there, with its id, handle and steps. -/
def Retains (before after : Roster Actor) : Prop :=
  ∀ object actor, before.object? object = some actor →
    ∃ widget, after.object? object = some { actor with widget } ∧
      widget.id = actor.widget.id

namespace Retains

variable {before between after : Roster Actor}

theorem refl (roster : Roster Actor) : Retains roster roster :=
  fun _ actor found => ⟨actor.widget, found, rfl⟩

theorem trans
    (first : Retains before between)
    (second : Retains between after) : Retains before after := by
  intro object actor found
  obtain ⟨middle, foundMiddle, sameMiddle⟩ := first object actor found
  obtain ⟨widget, foundLast, same⟩ := second object _ foundMiddle
  exact ⟨widget, foundLast, same.trans sameMiddle⟩

theorem make (roster : Roster Actor) (handle : String) (added : Actor) :
    Retains roster (roster.make handle added) :=
  fun _ actor found =>
    ⟨actor.widget, Roster.object?_make found handle added, rfl⟩

/-- An amendment changes what an object reports, apart from its id. -/
theorem amend
    (roster : Roster Actor)
    (object : WidgetRef)
    (amendment : Widget.Amendment) :
    Retains roster
      (roster.modify object fun actor =>
        { actor with widget := actor.widget.amend amendment }) := by
  intro other actor found
  rw [Roster.object?_modify, found]
  by_cases same : object = other
  · exact ⟨actor.widget.amend amendment, by simp [same], rfl⟩
  · exact ⟨actor.widget, by simp [same], rfl⟩

theorem reports
    (retains : Retains before after)
    {object : WidgetRef}
    {id : WidgetId}
    (reports : Reports before object id) : Reports after object id := by
  obtain ⟨actor, found, same⟩ := reports
  obtain ⟨widget, stillFound, kept⟩ := retains object actor found
  exact ⟨_, stillFound, kept.trans same⟩

end Retains

theorem Effect.retains
    {session : Session}
    {reply : Reply}
    (effect : session.Effect reply) :
    Retains session.roster reply.session.roster := by
  cases effect with
  | made handle widget onActivate answer => exact Retains.make _ _ _
  | amended object amendment answer => exact Retains.amend _ _ _
  | _ => exact Retains.refl _

theorem Entering.retains
    {session : Session}
    {slot : String}
    {reply : Reply}
    (entering : session.Entering slot reply) :
    Retains session.roster reply.session.roster := by
  cases entering <;> exact Retains.refl _

theorem retains_move (session : Session) (move : Move) :
    Retains session.roster (session.move move).session.roster := by
  cases move with
  | act step direct => exact (session.effect_direct direct).retains
  | enter slot => exact (session.entering slot).retains
  | note answer => exact Retains.refl _
  | leave => exact Retains.refl _

/-- No move takes a widget object away. -/
theorem retains_after (session : Session) (moves : List Move) :
    Retains session.roster (session.after moves).roster := by
  induction moves using List.reverseRecOn with
  | nil => exact Retains.refl _
  | append_singleton moves last inductionHypothesis =>
      rw [after_concat]
      exact inductionHypothesis.trans (retains_move _ last)

/-! ## Everything leads somewhere -/

/-- Registry entries and waiting activations lead to widget objects that report
their id. -/
structure Sound (session : Session) : Prop where
  roster : session.roster.Sound
  slots : session.pending.keys.Nodup
  registered : ∀ id object,
    session.bridge.registry.entries.get? id = some object →
      Reports session.roster object id
  waiting : ∀ pending ∈ session.pending.values,
    Reports session.roster pending.object pending.widget

namespace Sound

variable {session : Session} {reply : Reply}

theorem new (config : Config) : (new (Bridge.new config)).Sound where
  roster := Roster.Sound.empty
  slots := List.nodup_nil
  registered := by
    intro id object stored
    cases stored
  waiting := by
    intro pending member
    cases member

/-- A changed roster serves, if it keeps the widget objects. -/
theorem of_retains
    (sound : session.Sound)
    {roster : Roster Actor}
    (rosterSound : roster.Sound)
    (retains : Retains session.roster roster) :
    { session with roster }.Sound where
  roster := rosterSound
  slots := sound.slots
  registered := fun id object stored =>
    retains.reports (sound.registered id object stored)
  waiting := fun pending member =>
    retains.reports (sound.waiting pending member)

/-- What is being delivered does not matter. -/
theorem of_running
    (sound : session.Sound)
    (running : List WidgetRef) : { session with running }.Sound :=
  ⟨sound.roster, sound.slots, sound.registered, sound.waiting⟩

/-- An activation may be put into a slot, if it leads to its object. -/
theorem insert
    (sound : session.Sound)
    {pending : PendingActivation}
    (reports : Reports session.roster pending.object pending.widget)
    (slot : String) :
    { session with pending := session.pending.insert slot pending }.Sound where
  roster := sound.roster
  slots := Table.nodup_keys_insert sound.slots slot pending
  registered := sound.registered
  waiting := by
    intro other member
    rcases Table.mem_values_insert member with rfl | old
    · exact reports
    · exact sound.waiting other old

theorem erase (sound : session.Sound) (slot : String) :
    { session with pending := session.pending.erase slot }.Sound where
  roster := sound.roster
  slots := Table.nodup_keys_erase sound.slots slot
  registered := sound.registered
  waiting := fun pending member =>
    sound.waiting pending (Table.mem_values_of_mem_erase member)

/-- An operation on the bridge registers an object under the id that it
reports, if it registers one. -/
theorem operate
    (sound : session.Sound)
    {operation : Bridge.Operation}
    (reports : ∀ object widget, operation = .add object widget →
      Reports session.roster object widget.id)
    (answer : Answer) : (session.operate operation answer).session.Sound where
  roster := sound.roster
  slots := sound.slots
  registered := by
    intro id object stored
    rcases Bridge.registry_perform stored with before | ⟨widget, added, rfl⟩
    · exact sound.registered id object before
    · exact reports object widget added
  waiting := sound.waiting

/-- The activation that a request gets leads to an object that reports its
id. -/
theorem reports_of_resolve
    (sound : session.Sound)
    {request : ActionRequest}
    {pending : PendingActivation}
    (resolved : session.bridge.resolve session.living request = .ok pending) :
    Reports session.roster pending.object pending.widget := by
  obtain ⟨-, -, -, alive⟩ := Bridge.resolve_ok resolved
  exact sound.registered _ _ (Option.filter_eq_some_iff.mp alive).1

theorem effect (sound : session.Sound) (effect : session.Effect reply) :
    reply.session.Sound := by
  cases effect with
  | idle answer => exact sound
  | made handle widget onActivate answer =>
      exact sound.of_retains (sound.roster.make _ _) (Retains.make _ _ _)
  | amended object amendment answer =>
      exact sound.of_retains (sound.roster.modify _ _) (Retains.amend _ _ _)
  | dropped handle answer =>
      exact sound.of_retains (sound.roster.drop _) (Retains.refl _)
  | added found =>
      refine sound.operate ?_ _
      rintro object widget ⟨⟩
      exact ⟨_, ((Roster.get?_eq_some_iff _ _ _ _).mp found).2, rfl⟩
  | performed other answer =>
      exact sound.operate (fun object widget same =>
        absurd same (other object widget)) answer
  | routed resolved slot quiet =>
      exact sound.insert (sound.reports_of_resolve resolved) slot
  | emptied slot answer => exact sound.erase slot

theorem entering
    (sound : session.Sound)
    {slot : String}
    (entering : session.Entering slot reply) : reply.session.Sound := by
  cases entering with
  | vacant empty => exact sound
  | astray waiting missing => exact sound.erase slot
  | handed waiting found => exact (sound.erase slot).of_running _

theorem move (sound : session.Sound) (move : Move) :
    (session.move move).session.Sound := by
  cases move with
  | act step direct => exact sound.effect (session.effect_direct direct)
  | enter slot => exact sound.entering (session.entering slot)
  | note answer => exact sound
  | leave => exact sound.of_running _

/-- Along every list of moves, entries and activations lead to their
objects. -/
theorem after (sound : session.Sound) (moves : List Move) :
    (session.after moves).Sound := by
  induction moves using List.reverseRecOn with
  | nil => exact sound
  | append_singleton moves last inductionHypothesis =>
      rw [after_concat]
      exact inductionHypothesis.move last

end Sound

/-! ## What becomes of the bridge -/

/-- What was done to the bridge amounts to a run of operations. -/
structure Reply.Performs
    (reply : Reply)
    (before : Bridge)
    (operations : List Bridge.Operation) : Prop where
  bridge : reply.session.bridge = (before.run operations).bridge
  journal : reply.journal = (before.run operations).journal

theorem Reply.Performs.followedBy
    {reply : Reply}
    {before : Bridge}
    {earlier later : List Bridge.Operation}
    {next : Session → Reply}
    (performs : reply.Performs before earlier)
    (continues : (next reply.session).Performs reply.session.bridge later) :
    (reply.followedBy next).Performs before (earlier ++ later) := by
  obtain ⟨reached, moved⟩ := continues
  rw [performs.bridge] at reached moved
  constructor
  · rw [Bridge.run_append]
    exact reached
  · rw [Bridge.run_append]
    exact congrArg₂ _ performs.journal moved

theorem Effect.performs
    {session : Session}
    {reply : Reply}
    (effect : session.Effect reply) :
    ∃ operations, reply.Performs session.bridge operations := by
  cases effect with
  | added found => exact ⟨[.add _ _], rfl, rfl⟩
  | performed other answer => exact ⟨[_], rfl, rfl⟩
  | routed resolved slot quiet => exact ⟨[.request _ _ quiet], rfl, rfl⟩
  | _ => exact ⟨[], rfl, rfl⟩

theorem Entering.performs
    {session : Session}
    {slot : String}
    {reply : Reply}
    (entering : session.Entering slot reply) :
    reply.Performs session.bridge [] := by
  cases entering <;> exact ⟨rfl, rfl⟩

/-- A move performs operations on the bridge, and nothing else changes it. -/
theorem exists_performs_move (session : Session) (move : Move) :
    ∃ operations, (session.move move).Performs session.bridge operations := by
  cases move with
  | act step direct => exact (session.effect_direct direct).performs
  | enter slot => exact ⟨[], (session.entering slot).performs⟩
  | note answer => exact ⟨[], rfl, rfl⟩
  | leave => exact ⟨[], rfl, rfl⟩

/-- A list of moves is a run of the bridge. -/
theorem exists_performs_follow (session : Session) (moves : List Move) :
    ∃ operations,
      (session.follow moves).Performs session.bridge operations := by
  induction moves using List.reverseRecOn with
  | nil => exact ⟨[], rfl, rfl⟩
  | append_singleton moves last inductionHypothesis =>
      obtain ⟨earlier, performs⟩ := inductionHypothesis
      obtain ⟨next, continues⟩ :=
        (session.after moves).exists_performs_move last
      rw [follow_concat]
      exact ⟨earlier ++ next, performs.followedBy continues⟩

end Session
end AssistiveTree
