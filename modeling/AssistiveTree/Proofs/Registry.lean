import AssistiveTree.Proofs.Roster
import AssistiveTree.Registry.History
import Mathlib.Data.List.DropRight

/-!
# What a registry remembers

Registration and life are two timelines. An id is registered from its first
register call on until it is unregistered or the registry is cleared, whatever
becomes of the object. What a look-up finds depends on both: the object of that
first call, for as long as a handle holds it.

The calls on the registry are read off the steps of a history, and what the
registry contains is read off the calls.
-/

namespace AssistiveTree
namespace Registry

/-- A call that may change a registry. -/
inductive Call
  | register (id : WidgetId) (object : WidgetRef)
  | unregister (id : WidgetId)
  | clear
  deriving DecidableEq

namespace Call

/-- Whether a call ends the registration of an id. -/
def ends (id : WidgetId) : Call → Bool
  | .register _ _ => false
  | .unregister other => other = id
  | .clear => true

/-- The object that a call offers for an id. -/
def offer? (id : WidgetId) : Call → Option WidgetRef
  | .register other object => if other = id then some object else none
  | _ => none

theorem offer?_eq_some_iff (id : WidgetId) (call : Call) (object : WidgetRef) :
    call.offer? id = some object ↔ call = .register id object := by
  cases call with
  | register other offered => simp [offer?]
  | _ => simp [offer?]

end Call

/-- The registry after a call. -/
def after (registry : Registry) : Call → Registry
  | .register id object => (registry.register id object).1
  | .unregister id => (registry.unregister id).1
  | .clear => registry.clear

/-- The object of the first register call for an id since the id was last
unregistered or the registry was last cleared. -/
def holder? (id : WidgetId) (calls : List Call) : Option WidgetRef :=
  (calls.rtakeWhile fun call => !call.ends id).findSome? (·.offer? id)

/-- The call that a step makes. Registering needs a handle with an object. -/
def Step.call? (roster : Roster Badge) : Step → Option Call
  | .register handle id =>
      (roster.get? handle).map fun (object, badge) =>
        .register (id.getD badge.id) object
  | .unregister id => some (.unregister id)
  | .clear => some .clear
  | _ => none

/-- Whether a step makes an object or drops a handle. -/
def Step.isUpkeep : Step → Bool
  | .make _ _ => true
  | .drop _ => true
  | _ => false

/-- Only objects that were made are registered. -/
theorem Step.made_of_call?
    {roster : Roster Badge}
    {step : Step}
    {id : WidgetId}
    {object : WidgetRef}
    (called : step.call? roster = some (.register id object)) :
    roster.Made object := by
  cases step with
  | register handle as =>
      obtain ⟨⟨held, badge⟩, found, same⟩ := Option.map_eq_some_iff.mp called
      obtain ⟨-, rfl⟩ := Call.register.inj same
      exact Roster.made_of_object?
        ((Roster.get?_eq_some_iff _ _ _ _).mp found).2
  | _ => simp [call?] at called

namespace History

/-- The history after some steps. -/
def run (history : History) (steps : List Step) : History :=
  steps.foldl (fun history step => (history.step step).1) history

/-- The calls that some steps make. -/
def calls (history : History) : List Step → List Call
  | [] => []
  | step :: steps =>
      (step.call? history.roster).toList ++ (history.step step).1.calls steps

theorem run_append (history : History) (steps more : List Step) :
    history.run (steps ++ more) = (history.run steps).run more :=
  List.foldl_append

theorem calls_append (history : History) (steps more : List Step) :
    history.calls (steps ++ more) =
      history.calls steps ++ (history.run steps).calls more := by
  induction steps generalizing history with
  | nil => rfl
  | cons step steps inductionHypothesis =>
      simp only [List.cons_append, calls, inductionHypothesis,
        List.append_assoc, run, List.foldl_cons]

theorem run_concat (history : History) (steps : List Step) (step : Step) :
    history.run (steps ++ [step]) = ((history.run steps).step step).1 :=
  run_append history steps [step]

theorem calls_concat (history : History) (steps : List Step) (step : Step) :
    history.calls (steps ++ [step]) =
      history.calls steps ++
        (step.call? (history.run steps).roster).toList := by
  rw [calls_append, calls, calls, List.append_nil]

end History

/-! ## Reading the calls -/

theorem holder?_concat (id : WidgetId) (calls : List Call) (call : Call) :
    holder? id (calls ++ [call]) =
      if call.ends id then none
      else holder? id calls <|> call.offer? id := by
  unfold holder?
  rw [List.rtakeWhile_concat]
  cases ended : call.ends id with
  | true => rfl
  | false => simp [List.findSome?_append]

/-- The calls since the last end of a registration are those that no later end
follows. -/
theorem mem_rtakeWhile_iff
    (id : WidgetId)
    (calls : List Call)
    (call : Call) :
    call ∈ calls.rtakeWhile (fun call => !call.ends id) ↔
      call.ends id = false ∧ ∃ earlier later,
        calls = earlier ++ call :: later ∧
          ∀ other ∈ later, other.ends id = false := by
  constructor
  · intro member
    obtain ⟨before, later, split⟩ := List.append_of_mem member
    have lasting : ∀ other ∈ before ++ call :: later,
        other.ends id = false := by
      intro other isSince
      rw [← split] at isSince
      simpa using List.mem_rtakeWhile_imp isSince
    refine ⟨lasting call (by simp),
      calls.rdropWhile (fun call => !call.ends id) ++ before, later, ?_,
      fun other isLater => lasting other (by simp [isLater])⟩
    rw [List.append_assoc, ← split]
    exact List.rdropWhile_append_rtakeWhile.symm
  · rintro ⟨lasting, earlier, later, rfl, laterLasting⟩
    rw [List.rtakeWhile, List.reverse_append, List.takeWhile_append_of_pos]
    · simp
    · simpa [or_imp, forall_and, lasting] using laterLasting

/-- An id has a holder exactly when some register call for it was not followed
by the end of the registration. -/
theorem isSome_holder?_iff (id : WidgetId) (calls : List Call) :
    (holder? id calls).isSome = true ↔
      ∃ earlier object later,
        calls = earlier ++ .register id object :: later ∧
          ∀ call ∈ later, call.ends id = false := by
  rw [holder?, List.findSome?_isSome_iff]
  simp only [mem_rtakeWhile_iff, Option.isSome_iff_exists,
    Call.offer?_eq_some_iff]
  constructor
  · rintro ⟨_, ⟨-, earlier, later, split, lasting⟩, object, rfl⟩
    exact ⟨earlier, object, later, split, lasting⟩
  · rintro ⟨earlier, object, later, split, lasting⟩
    exact ⟨_, ⟨rfl, earlier, later, split, lasting⟩, object, rfl⟩

/-- The holder of an id was registered by one of the calls. -/
theorem mem_of_holder?
    {id : WidgetId}
    {calls : List Call}
    {object : WidgetRef}
    (holder : holder? id calls = some object) :
    .register id object ∈ calls := by
  obtain ⟨call, member, offers⟩ := List.exists_of_findSome?_eq_some holder
  rw [Call.offer?_eq_some_iff] at offers
  rw [← offers]
  exact (List.rtakeWhile_suffix _ _).mem member

/-! ## The registry recalls the calls -/

/-- A registry contains for every id the object that the calls tell. -/
structure Recalls (registry : Registry) (calls : List Call) : Prop where
  distinct : registry.entries.keys.Nodup
  stored : ∀ id, registry.entries.get? id = holder? id calls

namespace Recalls

variable {registry : Registry} {calls : List Call}

theorem empty : (Registry.empty).Recalls [] where
  distinct := List.nodup_nil
  stored := fun _ => rfl

theorem contains_eq (recalls : registry.Recalls calls) (id : WidgetId) :
    registry.contains id = (holder? id calls).isSome := by
  rw [contains, Table.contains, recalls.stored]

/-- The first object stays: a later one registers only where none is. -/
theorem register
    (recalls : registry.Recalls calls)
    (id : WidgetId)
    (object : WidgetRef) :
    (registry.register id object).1.Recalls
      (calls ++ [.register id object]) := by
  cases held : registry.contains id with
  | true =>
      rw [Registry.register, if_pos held]
      refine ⟨recalls.distinct, fun other => ?_⟩
      rw [holder?_concat, recalls.stored]
      by_cases same : id = other
      · subst same
        rw [recalls.contains_eq] at held
        obtain ⟨holder, isHolder⟩ := Option.isSome_iff_exists.mp held
        simp [isHolder, Call.ends]
      · simp [Call.ends, Call.offer?, same]
  | false =>
      rw [Registry.register, if_neg (Bool.eq_false_iff.mp held)]
      refine ⟨Table.nodup_keys_insert recalls.distinct _ _, fun other => ?_⟩
      rw [holder?_concat]
      by_cases same : id = other
      · subst same
        rw [recalls.contains_eq, Option.isSome_eq_false_iff,
          Option.isNone_iff_eq_none] at held
        simp [held, Call.ends, Call.offer?]
      · rw [Table.get?_insert_of_ne _ (Ne.symm same), recalls.stored]
        simp [Call.ends, Call.offer?, same]

theorem unregister (recalls : registry.Recalls calls) (id : WidgetId) :
    (registry.unregister id).1.Recalls (calls ++ [.unregister id]) where
  distinct := Table.nodup_keys_erase recalls.distinct id
  stored := by
    intro other
    rw [holder?_concat, Registry.unregister]
    by_cases same : id = other
    · subst same
      simp [Call.ends]
    · rw [Table.get?_erase_of_ne _ (Ne.symm same), recalls.stored]
      simp [Call.ends, Call.offer?, same]

theorem clear (registry : Registry) (calls : List Call) :
    registry.clear.Recalls (calls ++ [.clear]) where
  distinct := List.nodup_nil
  stored := by
    intro id
    rw [holder?_concat]
    rfl

theorem after (recalls : registry.Recalls calls) (call : Call) :
    (registry.after call).Recalls (calls ++ [call]) := by
  cases call with
  | register id object => exact recalls.register id object
  | unregister id => exact recalls.unregister id
  | clear => exact clear registry calls

end Recalls

namespace History

/-- A step changes the registry by its call, if it makes one. -/
theorem registry_step (history : History) (step : Step) :
    (history.step step).1.registry =
      (step.call? history.roster).toList.foldl Registry.after
        history.registry := by
  cases step with
  | register handle id =>
      cases found : history.roster.get? handle with
      | none => simp [History.step, Step.call?, found]
      | some entry => simp [History.step, Step.call?, found, Registry.after]
  | _ => rfl

/-- The making and dropping of objects passes the registry by. -/
theorem registry_run_of_upkeep
    (history : History)
    {steps : List Step}
    (upkeep : ∀ step ∈ steps, step.isUpkeep = true) :
    (history.run steps).registry = history.registry := by
  induction steps using List.reverseRecOn with
  | nil => rfl
  | append_singleton steps step inductionHypothesis =>
      rw [List.forall_mem_append, List.forall_mem_singleton] at upkeep
      have silent : step.call? (history.run steps).roster = none := by
        cases step with
        | make handle badge => rfl
        | drop handle => rfl
        | _ => cases upkeep.2
      rw [run_concat, registry_step, silent]
      exact inductionHypothesis upkeep.1

/-- After every run the registry recalls the calls that were made. -/
theorem run_recalls (steps : List Step) :
    (run {} steps).registry.Recalls (calls {} steps) := by
  induction steps using List.reverseRecOn with
  | nil => exact Recalls.empty
  | append_singleton steps step inductionHypothesis =>
      rw [run_concat, calls_concat, registry_step]
      cases step.call? (run {} steps).roster with
      | none => simpa using inductionHypothesis
      | some call => exact inductionHypothesis.after call

/-! ## The roster beside it -/

/-- A step makes an object, drops a handle or leaves the objects alone. -/
theorem roster_step (history : History) (step : Step) :
    (∃ handle badge,
      (history.step step).1.roster = history.roster.make handle badge) ∨
    (∃ handle, (history.step step).1.roster = history.roster.drop handle) ∨
    (history.step step).1.roster = history.roster := by
  cases step with
  | make handle badge => exact Or.inl ⟨handle, badge, rfl⟩
  | drop handle => exact Or.inr (Or.inl ⟨handle, rfl⟩)
  | register handle id =>
      refine Or.inr (Or.inr ?_)
      cases found : history.roster.get? handle <;>
        simp [History.step, found]
  | _ => exact Or.inr (Or.inr rfl)

/-- What making objects and dropping handles keep, every step keeps. -/
theorem roster_step_keeps
    (kept : Roster Badge → Prop)
    (make : ∀ roster handle badge, kept roster →
      kept (roster.make handle badge))
    (drop : ∀ roster handle, kept roster → kept (roster.drop handle))
    {history : History}
    (start : kept history.roster)
    (step : Step) : kept (history.step step).1.roster := by
  rcases history.roster_step step with
    ⟨handle, badge, made⟩ | ⟨handle, dropped⟩ | same
  · exact made ▸ make _ handle badge start
  · exact dropped ▸ drop _ handle start
  · exact same ▸ start

theorem roster_run_keeps
    (kept : Roster Badge → Prop)
    (make : ∀ roster handle badge, kept roster →
      kept (roster.make handle badge))
    (drop : ∀ roster handle, kept roster → kept (roster.drop handle))
    {history : History}
    (start : kept history.roster)
    (steps : List Step) : kept (history.run steps).roster := by
  induction steps using List.reverseRecOn with
  | nil => exact start
  | append_singleton steps step inductionHypothesis =>
      rw [run_concat]
      exact roster_step_keeps kept make drop inductionHypothesis step

theorem run_sound (steps : List Step) : (run {} steps).roster.Sound :=
  roster_run_keeps Roster.Sound
    (fun _ handle badge sound => sound.make handle badge)
    (fun _ handle sound => sound.drop handle) Roster.Sound.empty steps

/-- An object that was made and is not held is never held again. -/
theorem lost_run
    {history : History}
    {object : WidgetRef}
    (lost : history.roster.Lost object)
    (steps : List Step) : (history.run steps).roster.Lost object :=
  roster_run_keeps (·.Lost object)
    (fun _ handle badge lost => lost.make handle badge)
    (fun _ handle lost => lost.drop handle) lost steps

/-- Every registered object was made before. -/
theorem made_of_mem_calls
    {steps : List Step}
    {id : WidgetId}
    {object : WidgetRef}
    (called : .register id object ∈ calls {} steps) :
    (run {} steps).roster.Made object := by
  induction steps using List.reverseRecOn with
  | nil => simp [calls] at called
  | append_singleton steps step inductionHypothesis =>
      have before : (run {} steps).roster.Made object := by
        rw [calls_concat, List.mem_append, Option.mem_toList] at called
        rcases called with old | new
        · exact inductionHypothesis old
        · exact Step.made_of_call? new
      rw [run_concat]
      exact roster_step_keeps (·.Made object)
        (fun _ handle badge made => made.make handle badge)
        (fun _ handle made => made.drop handle) before step

end History

/-! ## Answers -/

/-- Registering answers whether the registry changed. -/
theorem register_changed
    (registry : Registry)
    (id : WidgetId)
    (object : WidgetRef) :
    (registry.register id object).2 = true ↔
      (registry.register id object).1 ≠ registry := by
  cases held : registry.contains id with
  | true => simp [register, held]
  | false =>
      simp only [register, held, Bool.false_eq_true, if_false, true_iff]
      intro same
      have stored : registry.entries.get? id = some object := by
        rw [← same, Table.get?_insert_self]
      rw [contains, Table.contains, stored] at held
      exact absurd held (by simp)

/-- Unregistering answers whether the registry changed. -/
theorem unregister_changed (registry : Registry) (id : WidgetId) :
    (registry.unregister id).2 = true ↔
      (registry.unregister id).1 ≠ registry := by
  cases held : registry.contains id with
  | true =>
      simp only [unregister, held, true_iff]
      intro same
      rw [contains, ← same, Table.contains, Table.get?_erase_self] at held
      exact absurd held (by simp)
  | false =>
      have absent := (Table.contains_eq_false_iff _ _).mp held
      simp [unregister, held, Table.erase_of_absent absent]

/-- What the calls made so far and the handles tell about the answers of a
registry. -/
structure History.Answers (history : History) (calls : List Call) : Prop where
  /-- An id is registered while some register call for it was not followed by
  the end of the registration. -/
  registered : ∀ id,
    (history.step (.isRegistered id)).2 = .flag true ↔
      ∃ earlier object later,
        calls = earlier ++ .register id object :: later ∧
          ∀ call ∈ later, call.ends id = false
  /-- The object of the first register call is found while a handle holds
  it. -/
  found : ∀ id object,
    holder? id calls = some object →
      history.roster.Holds object →
        history.registry.get? history.roster.held id = some object ∧
          ∃ badge, history.roster.object? object = some badge ∧
            (history.step (.get id)).2 = .badge (some badge)
  /-- Without such an object, or when no handle holds it, nothing is found. -/
  missed : ∀ id,
    (∀ object, holder? id calls = some object →
      ¬ history.roster.Holds object) →
        history.registry.get? history.roster.held id = none ∧
          (history.step (.get id)).2 = .badge none
  /-- Once no handle holds the object, nothing is found, whatever happens,
  until the registration ends. -/
  gone : ∀ id object later,
    holder? id calls = some object →
      ¬ history.roster.Holds object →
        (∀ call ∈ history.calls later, call.ends id = false) →
          ((history.run later).step (.get id)).2 = .badge none
  /-- Making objects, be it in place of others, and dropping them changes no
  registration. -/
  lasting : ∀ later : List Step,
    (∀ step ∈ later, step.isUpkeep = true) →
      (history.run later).registry = history.registry
  /-- The size is the number of registered ids. -/
  counted : ∃ ids : List WidgetId, ids.Nodup ∧
    (∀ id, id ∈ ids ↔ (history.step (.isRegistered id)).2 = .flag true) ∧
      history.registry.size = ids.length
  /-- Registering an object answers whether the registry changed. -/
  registers : ∀ handle object badge id,
    history.roster.get? handle = some (object, badge) →
      ∃ changed, (history.step (.register handle id)).2 = .flag changed ∧
        (changed = true ↔
          (history.step (.register handle id)).1.registry ≠ history.registry)
  /-- Unregistering an id answers whether the registry changed. -/
  unregisters : ∀ id,
    ∃ changed, (history.step (.unregister id)).2 = .flag changed ∧
      (changed = true ↔
        (history.step (.unregister id)).1.registry ≠ history.registry)

namespace History

/-- The look-up finds the holder of an id among the held objects. -/
theorem get?_run (steps : List Step) (id : WidgetId) :
    (run {} steps).registry.get? (run {} steps).roster.held id =
      (holder? id (calls {} steps)).filter
        fun object => object ∈ (run {} steps).roster.held := by
  rw [Registry.get?, (run_recalls steps).stored]

/-- Without a holder that some handle holds, nothing is found. -/
theorem get_run_of_free
    {steps : List Step}
    {id : WidgetId}
    (free : ∀ object, holder? id (calls {} steps) = some object →
      ¬ (run {} steps).roster.Holds object) :
    (run {} steps).registry.get? (run {} steps).roster.held id = none ∧
      ((run {} steps).step (.get id)).2 = .badge none := by
  have lookup :
      (run {} steps).registry.get? (run {} steps).roster.held id = none := by
    rw [get?_run, Option.filter_eq_none_iff]
    intro object holder
    simpa [(run_sound steps).mem_held_iff] using free object holder
  exact ⟨lookup, by simp [step, lookup]⟩

/-- An id keeps its holder while the registration lasts. -/
theorem holder?_lasting
    {id : WidgetId}
    {object : WidgetRef}
    {earlier : List Call}
    (holder : holder? id earlier = some object)
    {later : List Call}
    (lasting : ∀ call ∈ later, call.ends id = false) :
    holder? id (earlier ++ later) = some object := by
  induction later using List.reverseRecOn with
  | nil => rwa [List.append_nil]
  | append_singleton later call inductionHypothesis =>
      rw [List.forall_mem_append, List.forall_mem_singleton] at lasting
      rw [← List.append_assoc, holder?_concat, inductionHypothesis lasting.1]
      simp [lasting.2]

/-- Along every run that starts with nothing registered, the registry answers
as the calls and the handles tell. -/
theorem run_answers (steps : List Step) :
    (run {} steps).Answers (calls {} steps) where
  registered := by
    intro id
    rw [← isSome_holder?_iff, ← (run_recalls steps).contains_eq]
    simp [step]
  found := by
    intro id object holder holds
    have held := ((run_sound steps).mem_held_iff object).mpr holds
    obtain ⟨badge, made⟩ := (run_sound steps).exists_object held
    have lookup :
        (run {} steps).registry.get? (run {} steps).roster.held id =
          some object := by
      rw [get?_run, holder]
      simp [held]
    exact ⟨lookup, badge, made, by simp [step, lookup, made]⟩
  missed := fun _ free => get_run_of_free free
  gone := by
    intro id object later holder free lasting
    -- The holder is the same as long as the registration lasts, and once lost
    -- it stays lost, because later objects get other references.
    have lost : (run {} steps).roster.Lost object :=
      ⟨made_of_mem_calls (mem_of_holder? holder),
        fun held => free (((run_sound steps).mem_held_iff object).mp held)⟩
    rw [← run_append]
    refine (get_run_of_free fun other otherHolder holds => ?_).2
    rw [calls_append, holder?_lasting holder lasting] at otherHolder
    obtain rfl := Option.some.inj otherHolder
    rw [← (run_sound (steps ++ later)).mem_held_iff, run_append] at holds
    exact (lost_run lost later).free holds
  lasting := fun _ upkeep => registry_run_of_upkeep _ upkeep
  counted := by
    refine ⟨(run {} steps).registry.entries.keys, (run_recalls steps).distinct,
      fun id => ?_, ?_⟩
    · rw [← Table.contains_iff_mem_keys]
      simp [step, contains]
    · simp [size, Table.size, Table.keys]
  registers := by
    intro handle object badge id found
    have stepped :
        (run {} steps).step (.register handle id) =
          ({ run {} steps with
              registry := ((run {} steps).registry.register
                (id.getD badge.id) object).1 },
            .flag ((run {} steps).registry.register
              (id.getD badge.id) object).2) := by
      simp [step, found]
    rw [stepped]
    exact ⟨_, rfl, register_changed _ _ _⟩
  unregisters := fun id => ⟨_, rfl, unregister_changed _ id⟩

-- The second object does not take the place of the first one, which is gone.
example :
    ((run {}
        [.make "first" ⟨⟨7⟩, "Save"⟩, .register "first" none, .drop "first",
          .make "second" ⟨⟨7⟩, "Open"⟩, .register "second" none]).step
      (.get ⟨7⟩)).2 = .badge none := by
  decide

end History

end Registry
end AssistiveTree
