import AssistiveTree.Bridge.Operation
import AssistiveTree.Proofs.Tree.Edit
import Mathlib.Data.List.Induction

/-!
# Runs

A run performs its operations one after the other, so the run of two lists of
operations is the run of the first followed by the run of the second. What holds
of a new bridge and survives every operation holds after every run.
-/

namespace AssistiveTree
namespace Bridge

/-- An outcome followed by what is done to its bridge next. -/
def Outcome.followedBy
    (outcome : Outcome)
    (next : Bridge → Outcome) : Outcome where
  bridge := (next outcome.bridge).bridge
  journal := outcome.journal ++ (next outcome.bridge).journal
  calls := outcome.calls ++ (next outcome.bridge).calls

@[simp] theorem run_nil (bridge : Bridge) : bridge.run [] = { bridge } := rfl

/-- The last operation of a run follows the others. -/
theorem run_concat
    (bridge : Bridge)
    (operations : List Operation)
    (operation : Operation) :
    bridge.run (operations ++ [operation]) =
      (bridge.run operations).followedBy (·.perform operation) := by
  simp only [run, List.foldl_append, List.foldl_cons, List.foldl_nil]
  rfl

/-- The operations of a run can be split anywhere. -/
theorem run_append
    (bridge : Bridge)
    (earlier later : List Operation) :
    bridge.run (earlier ++ later) =
      (bridge.run earlier).followedBy (·.run later) := by
  induction later using List.reverseRecOn with
  | nil => simp [Outcome.followedBy]
  | append_singleton later operation inductionHypothesis =>
      rw [← List.append_assoc, run_concat, inductionHypothesis]
      simp [Outcome.followedBy, run_concat, List.append_assoc]

/-- What every operation keeps, every run keeps. -/
theorem run_keeps
    (kept : Bridge → Prop)
    {bridge : Bridge}
    (start : kept bridge)
    (step : ∀ bridge operation, kept bridge →
      kept (bridge.perform operation).bridge)
    (operations : List Operation) :
    kept (bridge.run operations).bridge := by
  induction operations using List.reverseRecOn with
  | nil => exact start
  | append_singleton operations operation inductionHypothesis =>
      rw [run_concat]
      exact step _ operation inductionHypothesis

end Bridge

namespace Journal

/-- Whether an entry reports that a node was attached. -/
def Entry.isAttachment : Entry → Bool
  | .event (.attached _ _) => true
  | _ => false

/-- How many attached nodes a journal reports. -/
def attachments (journal : List Entry) : Nat :=
  journal.countP Entry.isAttachment

@[simp] theorem attachments_append (earlier later : List Entry) :
    attachments (earlier ++ later) =
      attachments earlier + attachments later :=
  List.countP_append

end Journal
end AssistiveTree
