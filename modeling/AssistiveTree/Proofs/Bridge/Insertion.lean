import AssistiveTree.Proofs.Bridge.Run

/-!
# Runs with insertions

A run may have operations that another run lacks. The steps of the longer run
are marked: each is an operation that the shorter run has as well, or one that
was inserted. The two runs are compared by what the host gets from each common
operation: what is exported or answered, the journal, the calls, and the bridge
that the operation leaves.
-/

namespace AssistiveTree
namespace Bridge

/-! ## Responses -/

/-- What an operation hands back to the host. -/
inductive Reply
  | done
  /-- The whole tree, and the focus alone. -/
  | exported (tree focus : TreeUpdate)
  | answered (answer : Except Error PendingActivation)

/-- The reply to an operation. -/
def reply (bridge : Bridge) : Operation → Reply
  | .exportTree => .exported bridge.treeUpdate bridge.focusUpdate
  | .request living request _ => .answered (bridge.resolve living request)
  | _ => .done

/-- All that comes of one operation. -/
structure Response where
  reply : Reply
  outcome : Outcome

/-- What comes of an operation. -/
def respond (bridge : Bridge) (operation : Operation) : Response where
  reply := bridge.reply operation
  outcome := bridge.perform operation

/-- What comes of some operations, one after the other. -/
def responses (bridge : Bridge) : List Operation → List Response
  | [] => []
  | operation :: operations =>
      bridge.respond operation ::
        (bridge.perform operation).bridge.responses operations

/-- The first operation of a run is followed by the others. -/
theorem run_cons
    (bridge : Bridge)
    (operation : Operation)
    (operations : List Operation) :
    bridge.run (operation :: operations) =
      (bridge.perform operation).followedBy (·.run operations) :=
  run_append bridge [operation] operations

theorem responses_append
    (bridge : Bridge)
    (earlier later : List Operation) :
    bridge.responses (earlier ++ later) =
      bridge.responses earlier ++
        (bridge.run earlier).bridge.responses later := by
  induction earlier generalizing bridge with
  | nil => rfl
  | cons operation earlier inductionHypothesis =>
      rw [List.cons_append, responses, responses, inductionHypothesis,
        run_cons]
      rfl

/-! ## Marked steps -/

/-- A step of a run that another run may lack. -/
inductive Step
  /-- An operation of both runs. -/
  | own (operation : Operation)
  /-- An operation of the longer run only. -/
  | inserted (operation : Operation)
  deriving DecidableEq

/-- The operation that the step performs. -/
def Step.operation : Step → Operation
  | .own operation => operation
  | .inserted operation => operation

/-- The operation, if both runs have it. -/
def Step.own? : Step → Option Operation
  | .own operation => some operation
  | .inserted _ => none

/-- The operations of the longer run. -/
def Step.all (steps : List Step) : List Operation := steps.map Step.operation

/-- The operations of the shorter run. -/
def Step.common (steps : List Step) : List Operation :=
  steps.filterMap Step.own?

@[simp] theorem Step.all_append (earlier later : List Step) :
    Step.all (earlier ++ later) = Step.all earlier ++ Step.all later :=
  List.map_append

@[simp] theorem Step.common_append (earlier later : List Step) :
    Step.common (earlier ++ later) =
      Step.common earlier ++ Step.common later :=
  List.filterMap_append

/-- A run without insertions. -/
@[simp] theorem Step.all_map_own (operations : List Operation) :
    Step.all (operations.map .own) = operations := by
  simp [Step.all, Function.comp_def, Step.operation]

@[simp] theorem Step.common_map_own (operations : List Operation) :
    Step.common (operations.map .own) = operations := by
  simp [Step.common, Function.comp_def, Step.own?, List.filterMap_map]

/-- Whether every inserted operation is of a kind that may be inserted where it
stands. -/
def insertsOnly
    (allowed : Bridge → Operation → Bool)
    (bridge : Bridge) : List Step → Bool
  | [] => true
  | .own operation :: steps =>
      (bridge.perform operation).bridge.insertsOnly allowed steps
  | .inserted operation :: steps =>
      allowed bridge operation &&
        (bridge.perform operation).bridge.insertsOnly allowed steps

/-- What comes of the common operations in the longer run. -/
def commonResponses (bridge : Bridge) : List Step → List Response
  | [] => []
  | .own operation :: steps =>
      bridge.respond operation ::
        (bridge.perform operation).bridge.commonResponses steps
  | .inserted operation :: steps =>
      (bridge.perform operation).bridge.commonResponses steps

end Bridge
end AssistiveTree
