import AssistiveTree.Proofs.Bridge.Observation

/-!
# What subscribers hear

A subscriber is called by its place among all who subscribed to the same
channel, and keeps that place. What it is told depends on the operation and the
registry, not on the other subscribers. So a subscriber hears the same in runs
that differ in logging and in who else subscribed, and nothing else can tell
such runs apart.
-/

namespace AssistiveTree

/-- The channel of a call. -/
def HookCall.channel : HookCall → Channel
  | .selection _ _ _ => .selections
  | .notification _ _ => .notifications

/-- Who is called. -/
def HookCall.subscriber : HookCall → Subscriber
  | .selection subscriber _ _ => subscriber
  | .notification subscriber _ => subscriber

namespace Channel

/-- The operation that subscribes to a channel. -/
def subscription : Channel → Subscriber → Bridge.Operation
  | .selections, subscriber => .onSelection subscriber
  | .notifications, subscriber => .onNotification subscriber

end Channel

namespace Bridge

/-- The call that reaches the subscriber at a place of a channel. -/
def Outcome.callTo?
    (outcome : Outcome)
    (channel : Channel)
    (place : Nat) : Option HookCall :=
  (outcome.calls.filter fun call => call.channel = channel)[place]?

/-- What the subscriber at a place of a channel hears during a run. -/
def heard
    (bridge : Bridge)
    (operations : List Operation)
    (channel : Channel)
    (place : Nat) : List HookCall :=
  (bridge.responses operations).filterMap fun response =>
    response.outcome.callTo? channel place

/-- How the subscribers to a channel are called about an operation, if they are
called at all. -/
def told?
    (bridge : Bridge)
    (operation : Operation)
    (channel : Channel) : Option (Subscriber → HookCall) :=
  match operation with
  | .notify notification =>
      match channel, notification.path with
      | .selections, .changeSelection selection =>
          some fun subscriber =>
            .selection subscriber selection.kind selection
      | .notifications, .acknowledge point =>
          if point.target.all bridge.isRegistered then
            some fun subscriber => .notification subscriber point
          else none
      | _, _ => none
  | _ => none

/-! ## Single operations -/

/-- Whoever is called is told so itself. -/
theorem subscriber_of_told?
    {bridge : Bridge}
    {operation : Operation}
    {channel : Channel}
    {call : Subscriber → HookCall}
    (told : bridge.told? operation channel = some call)
    (subscriber : Subscriber) :
    (call subscriber).subscriber = subscriber := by
  unfold told? at told
  split at told
  · split at told
    · rw [← Option.some.inj told]
      rfl
    · rw [Option.ite_none_right_eq_some] at told
      rw [← Option.some.inj told.2]
      rfl
    · cases told
  · cases told

/-- Nobody is called about a subscription. -/
theorem told?_of_isSubscription
    {operation : Operation}
    (subscribes : operation.isSubscription = true)
    (bridge : Bridge)
    (channel : Channel) :
    bridge.told? operation channel = none := by
  cases operation with
  | onSelection subscriber => rfl
  | onNotification subscriber => rfl
  | _ => cases subscribes

/-- All subscribers to a channel are called alike, in order. -/
theorem calls_channel
    (bridge : Bridge)
    (operation : Operation)
    (channel : Channel) :
    ((bridge.perform operation).calls.filter fun call =>
        call.channel = channel) =
      ((bridge.told? operation channel).map
        (bridge.hooks channel).map).getD [] := by
  rw [calls_perform]
  cases operation with
  | notify notification =>
      simp only [calls_notify, told?, hindered_eq_none_iff]
      cases notification.path with
      | update id aspect change => cases channel <;> rfl
      | acknowledge point =>
          cases passes : point.target.all bridge.isRegistered <;>
            cases channel <;>
              simp [passes, List.filter_map, Function.comp_def,
                HookCall.channel, hooks]
      | moveFocus focus => cases channel <;> rfl
      | changeSelection selection =>
          cases channel <;>
            simp [List.filter_map, Function.comp_def, HookCall.channel, hooks]
  | _ => rfl

/-- Every subscriber is called at its own place. -/
theorem callTo?_perform
    {bridge : Bridge}
    {channel : Channel}
    {place : Nat}
    {subscriber : Subscriber}
    (taken : (bridge.hooks channel)[place]? = some subscriber)
    (operation : Operation) :
    (bridge.perform operation).callTo? channel place =
      (bridge.told? operation channel).map (· subscriber) := by
  rw [Outcome.callTo?, calls_channel]
  cases bridge.told? operation channel <;> simp [taken]

/-- Nobody is called at a place that is not taken. -/
theorem callTo?_of_free
    {bridge : Bridge}
    {channel : Channel}
    {place : Nat}
    (free : (bridge.hooks channel).length ≤ place)
    (operation : Operation) :
    (bridge.perform operation).callTo? channel place = none := by
  rw [Outcome.callTo?, calls_channel]
  cases bridge.told? operation channel <;> simp [free]

/-! ## Runs -/

section Runs

variable (bridge : Bridge)

theorem heard_append
    (earlier later : List Operation)
    (channel : Channel)
    (place : Nat) :
    bridge.heard (earlier ++ later) channel place =
      bridge.heard earlier channel place ++
        (bridge.run earlier).bridge.heard later channel place := by
  rw [heard, responses_append, List.filterMap_append]
  rfl

theorem heard_cons
    (operation : Operation)
    (operations : List Operation)
    (channel : Channel)
    (place : Nat) :
    bridge.heard (operation :: operations) channel place =
      ((bridge.perform operation).callTo? channel place).toList ++
        (bridge.perform operation).bridge.heard operations channel place := by
  rw [heard, responses, List.filterMap_cons]
  cases called : (bridge.perform operation).callTo? channel place <;>
    simp [respond, called, heard]

/-- Places are only added. -/
theorem hooks_length_run
    (operations : List Operation)
    (channel : Channel) :
    (bridge.hooks channel).length ≤
      ((bridge.run operations).bridge.hooks channel).length := by
  apply run_keeps (fun later =>
    (bridge.hooks channel).length ≤ (later.hooks channel).length) Nat.le.refl
  intro later operation grown
  rw [hooks_perform, List.length_append]
  exact Nat.le_trans grown (Nat.le_add_right _ _)

/-- Whoever has a place keeps it. -/
theorem place_perform
    {bridge : Bridge}
    {channel : Channel}
    {place : Nat}
    {subscriber : Subscriber}
    (taken : (bridge.hooks channel)[place]? = some subscriber)
    (operation : Operation) :
    ((bridge.perform operation).bridge.hooks channel)[place]? =
      some subscriber := by
  obtain ⟨bound, _⟩ := List.getElem?_eq_some_iff.mp taken
  rw [hooks_perform, List.getElem?_append_left bound]
  exact taken

/-- Nothing is heard at a place that is not taken. -/
theorem heard_of_free
    {operations : List Operation}
    {channel : Channel}
    {place : Nat}
    (free : ((bridge.run operations).bridge.hooks channel).length ≤ place) :
    bridge.heard operations channel place = [] := by
  induction operations generalizing bridge with
  | nil => rfl
  | cons operation operations inductionHypothesis =>
      have now := Nat.le_trans
        (bridge.hooks_length_run (operation :: operations) channel) free
      rw [run_cons] at free
      rw [heard_cons, callTo?_of_free now, inductionHypothesis _ free]
      rfl

/-- A subscriber hears only what it is told itself. -/
theorem subscriber_of_mem_heard
    {bridge : Bridge}
    {channel : Channel}
    {place : Nat}
    {subscriber : Subscriber}
    (taken : (bridge.hooks channel)[place]? = some subscriber)
    {operations : List Operation}
    {call : HookCall}
    (member : call ∈ bridge.heard operations channel place) :
    call.subscriber = subscriber := by
  induction operations generalizing bridge with
  | nil => exact absurd member List.not_mem_nil
  | cons operation operations inductionHypothesis =>
      rw [heard_cons, callTo?_perform taken] at member
      rcases List.mem_append.mp member with now | afterwards
      · obtain ⟨tell, told, rfl⟩ :=
          Option.map_eq_some_iff.mp (Option.mem_toList.mp now)
        exact subscriber_of_told? told subscriber
      · exact inductionHypothesis (place_perform taken operation) afterwards

/-- A subscriber hears the same under other observation, wherever its place
among the others is. -/
theorem heard_observed
    {bridge : Bridge}
    {logs : Bool}
    {selection notification : List Subscriber}
    {channel : Channel}
    {place otherPlace : Nat}
    {subscriber : Subscriber}
    (taken : (bridge.hooks channel)[place]? = some subscriber)
    (alsoTaken : ((bridge.observed logs selection notification).hooks
      channel)[otherPlace]? = some subscriber)
    {steps : List Step}
    (subscriptions : ∀ operation, .inserted operation ∈ steps →
      operation.isSubscription = true) :
    (bridge.observed logs selection notification).heard (Step.common steps)
        channel otherPlace =
      bridge.heard (Step.all steps) channel place := by
  induction steps generalizing bridge selection notification with
  | nil => rfl
  | cons step steps inductionHypothesis =>
      have others : ∀ operation, .inserted operation ∈ steps →
          operation.isSubscription = true := fun operation member =>
        subscriptions operation (List.mem_cons_of_mem _ member)
      cases step with
      | own operation =>
          change (bridge.observed logs selection notification).heard
              (operation :: Step.common steps) channel otherPlace =
            bridge.heard (operation :: Step.all steps) channel place
          have next := place_perform alsoTaken operation
          rw [perform_observed] at next
          rw [heard_cons, heard_cons, callTo?_perform taken,
            callTo?_perform alsoTaken, perform_observed,
            inductionHypothesis (place_perform taken operation) next others]
          rfl
      | inserted operation =>
          have subscribes := subscriptions operation List.mem_cons_self
          have same := bridge.observed_of_isSubscription logs selection
            notification subscribes
          change (bridge.observed logs selection notification).heard
              (Step.common steps) channel otherPlace =
            bridge.heard (operation :: Step.all steps) channel place
          rw [← same] at alsoTaken ⊢
          rw [heard_cons, callTo?_perform taken,
            told?_of_isSubscription subscribes,
            inductionHypothesis (place_perform taken operation) alsoTaken
              others]
          rfl

/-- A new subscriber takes the next place. -/
theorem hooks_subscription (channel : Channel) (subscriber : Subscriber) :
    (bridge.perform (channel.subscription subscriber)).bridge.hooks channel =
      bridge.hooks channel ++ [subscriber] := by
  cases channel <;> rfl

theorem place_subscription (channel : Channel) (subscriber : Subscriber) :
    ((bridge.perform (channel.subscription subscriber)).bridge.hooks
      channel)[(bridge.hooks channel).length]? = some subscriber := by
  rw [hooks_subscription, List.getElem?_concat_length]

/-- A subscriber hears nothing until it has subscribed. -/
theorem heard_subscription
    (earlier later : List Operation)
    (channel : Channel)
    (subscriber : Subscriber) :
    bridge.heard (earlier ++ channel.subscription subscriber :: later) channel
        ((bridge.run earlier).bridge.hooks channel).length =
      ((bridge.run earlier).bridge.perform
          (channel.subscription subscriber)).bridge.heard later channel
        ((bridge.run earlier).bridge.hooks channel).length := by
  rw [heard_append, heard_cons, bridge.heard_of_free Nat.le.refl,
    callTo?_of_free Nat.le.refl]
  rfl

end Runs

/-! ## Indistinguishable bridges -/

/-- Two bridges know the same, and answer alike whatever they are asked. Only
their settings and subscribers may differ. -/
structure Indistinguishable (first second : Bridge) : Prop where
  registry : second.registry = first.registry
  /-- With all node ids, and the ids that come next. -/
  tree : second.tree = first.tree
  focus : second.focus = first.focus
  treeUpdate : second.treeUpdate = first.treeUpdate
  focusUpdate : second.focusUpdate = first.focusUpdate
  resolve : ∀ living request,
    second.resolve living request = first.resolve living request

theorem Indistinguishable.observed
    (bridge : Bridge)
    (logs : Bool)
    (selection notification : List Subscriber) :
    bridge.Indistinguishable
      (bridge.observed logs selection notification) where
  registry := rfl
  tree := rfl
  focus := rfl
  treeUpdate := rfl
  focusUpdate := rfl
  resolve := fun _ _ => rfl

/-- Observers do not interfere. Take a run, and another one with other logging
in which some subscriptions are missing. The two are indistinguishable after
every step, and whoever subscribes in both hears the same in both. When only
logging differs, what is reported differs by the routine event of each
notification that was handled in the ordinary way. -/
theorem run_indistinguishable
    (config : Config)
    (logs : Bool)
    {steps : List Step}
    (subscriptions : ∀ operation, .inserted operation ∈ steps →
      operation.isSubscription = true) :
    (∀ done left, steps = done ++ left →
      ((new config).run (Step.all done)).bridge.Indistinguishable
        ((new { config with logNotifications := logs }).run
          (Step.common done)).bridge) ∧
    (∀ earlier channel subscriber later,
      steps = earlier ++ .own (channel.subscription subscriber) :: later →
      (new { config with logNotifications := logs }).heard
          (Step.common steps) channel
          (((new { config with logNotifications := logs }).run
            (Step.common earlier)).bridge.hooks channel).length =
        (new config).heard (Step.all steps) channel
          (((new config).run (Step.all earlier)).bridge.hooks
            channel).length ∧
      ∀ call ∈ (new config).heard (Step.all steps) channel
          (((new config).run (Step.all earlier)).bridge.hooks channel).length,
        call.subscriber = subscriber) ∧
    (∀ operations,
      ((start { config with logNotifications := false }).followedBy
          (·.run operations)).journal =
        ((start { config with logNotifications := true }).followedBy
          (·.run operations)).journal.filter (!·.isRoutine)) ∧
    ∀ operations operation,
      (((new { config with logNotifications := true }).run
          operations).bridge.perform operation).journal =
        (((new { config with logNotifications := false }).run
            operations).bridge.perform operation).journal ++
          ((((new config).run operations).bridge.routine?
            operation).map .event).toList := by
  rw [new_observed config logs]
  refine ⟨?alike, ?hearing, ?filtered, ?routine⟩
  case alike =>
    rintro done left rfl
    rw [run_observed]
    · exact Indistinguishable.observed _ _ _ _
    · exact fun operation member =>
        subscriptions operation (List.mem_append_left _ member)
  case hearing =>
    rintro earlier channel subscriber later rfl
    have before : ∀ operation, .inserted operation ∈ earlier →
        operation.isSubscription = true := fun operation member =>
      subscriptions operation (List.mem_append_left _ member)
    have after : ∀ operation, .inserted operation ∈ later →
        operation.isSubscription = true := fun operation member =>
      subscriptions operation
        (List.mem_append_right _ (List.mem_cons_of_mem _ member))
    have all : Step.all
        (earlier ++ .own (channel.subscription subscriber) :: later) =
        Step.all earlier ++
          channel.subscription subscriber :: Step.all later :=
      Step.all_append _ _
    have common : Step.common
        (earlier ++ .own (channel.subscription subscriber) :: later) =
        Step.common earlier ++
          channel.subscription subscriber :: Step.common later :=
      Step.common_append _ _
    have taken := ((new config).run (Step.all earlier)).bridge
      |>.place_subscription channel subscriber
    have alsoTaken := (((new config).observed logs [] []).run
      (Step.common earlier)).bridge |>.place_subscription channel subscriber
    rw [all, common, heard_subscription, heard_subscription]
    refine ⟨?_, fun call => subscriber_of_mem_heard taken⟩
    rw [run_observed _ _ _ _ before, perform_observed] at alsoTaken ⊢
    exact heard_observed taken alsoTaken after
  case filtered =>
    intro operations
    simp only [Outcome.followedBy, start, run_journal, List.filter_append]
    rfl
  case routine =>
    intro operations operation
    obtain ⟨holdings, holds⟩ := run_holds config operations
    rw [new_observed config true, new_observed config false,
      run_observed_all, run_observed_all]
    exact holds.perform_journal _ _ operation

/-- One of two subscribers is missing, and nothing ordinary is logged. The
other subscriber hears of the selection all the same. -/
theorem run_indistinguishable_selection :
    (∀ operation,
      .inserted operation ∈
        [Step.inserted (.onSelection ⟨"log"⟩), .own (.onSelection ⟨"sound"⟩),
          .own (.notify (.selectionChanged .other))] →
      operation.isSubscription = true) ∧
    (new { logNotifications := false }).heard
        [.onSelection ⟨"sound"⟩, .notify (.selectionChanged .other)]
        .selections 0 =
      (new {}).heard
        [.onSelection ⟨"log"⟩, .onSelection ⟨"sound"⟩,
          .notify (.selectionChanged .other)]
        .selections 1 := by
  have subscriptions : ∀ operation,
      .inserted operation ∈
        [Step.inserted (.onSelection ⟨"log"⟩), .own (.onSelection ⟨"sound"⟩),
          .own (.notify (.selectionChanged .other))] →
      operation.isSubscription = true := by
    simp [Operation.isSubscription]
  refine ⟨subscriptions, ?_⟩
  have heard := (run_indistinguishable {} false subscriptions).2.1
  exact (heard [.inserted (.onSelection ⟨"log"⟩)] .selections ⟨"sound"⟩
    [.own (.notify (.selectionChanged .other))] rfl).1

end Bridge
end AssistiveTree
