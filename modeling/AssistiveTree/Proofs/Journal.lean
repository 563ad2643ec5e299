import AssistiveTree.Journal
import Mathlib.Data.Finset.Card
import Mathlib.Data.Finset.Image

/-!
# Accounts

Whoever reads the records of a journal, and nothing else, can keep account of
the attached nodes and the registered widgets. Five kinds of events are all that
the account depends on. They are recognized by their messages, which no other
event has.
-/

namespace AssistiveTree
namespace Journal

/-- The record of an entry. Spans have none. -/
def Entry.record? : Entry → Option Record
  | .event reported => some reported.record
  | _ => none

/-- The records of a journal. -/
def records (journal : List Entry) : List Record :=
  journal.filterMap Entry.record?

@[simp] theorem records_append (earlier later : List Entry) :
    records (earlier ++ later) = records earlier ++ records later :=
  List.filterMap_append

/-- A span has the records of its events. -/
@[simp] theorem records_within (span : Span) (entries : List Entry) :
    records (within span entries) = records entries := by
  have left : records [.left span] = [] := rfl
  change records (entries ++ [.left span]) = records entries
  rw [records_append, left, List.append_nil]

/-- The value of a field. -/
def Record.field (record : Record) (name : String) : String :=
  (record.fields.lookup name).getD ""

/-- What records tell of a bridge. -/
structure Account where
  /-- The attached nodes with their node ids, oldest first. -/
  nodes : List (String × String) := []
  /-- The registered widgets. -/
  widgets : Finset String := ∅
  deriving DecidableEq

namespace Account

/-- The account after one more record. -/
def note (account : Account) (record : Record) : Account :=
  if record.message = "attached node" then
    { account with
      nodes := account.nodes ++ [(record.field "node", record.field "id")] }
  else if record.message = "detached node" then
    { account with
      nodes := account.nodes.filter fun entry =>
        entry.1 ≠ record.field "node" }
  else if record.message = "added accessible node" then
    { account with
      widgets := insert (record.field "widget") account.widgets }
  else if record.message = "removed accessible node" then
    { account with widgets := account.widgets.erase (record.field "widget") }
  else if record.message = "accessibility bridge shut down" then {}
  else account

/-- Whether a record agrees with the account of all records before it: only
absent nodes are attached, only present ones are detached, and a shutdown knows
how many nodes and widgets there are. -/
structure Fits (account : Account) (record : Record) : Prop where
  attached : record.message = "attached node" →
    record.field "node" ∉ account.nodes.map Prod.fst
  detached : record.message = "detached node" →
    record.field "node" ∈ account.nodes.map Prod.fst
  shutDown : record.message = "accessibility bridge shut down" →
    record.field "detached" = Nat.repr account.nodes.length ∧
      record.field "registered" = Nat.repr account.widgets.card

/-- A journal continues an account to another: its records lead there, and each
agrees with the account at its place. -/
inductive Reads : Account → List Record → Account → Prop
  | nil (account : Account) : Reads account [] account
  | cons
      {account after : Account}
      {record : Record}
      {records : List Record}
      (fits : account.Fits record)
      (rest : Reads (account.note record) records after) :
      Reads account (record :: records) after

namespace Reads

variable {account middle after : Account} {earlier later : List Record}

theorem append
    (first : account.Reads earlier middle)
    (second : middle.Reads later after) :
    account.Reads (earlier ++ later) after := by
  induction first with
  | nil account => exact second
  | cons fits rest inductionHypothesis =>
      exact cons fits (inductionHypothesis second)

/-- A reader notes one record after the other. -/
theorem foldl_note
    {records : List Record}
    (reads : account.Reads records after) :
    records.foldl note account = after := by
  induction reads with
  | nil account => rfl
  | cons fits rest inductionHypothesis => exact inductionHypothesis

/-- Every record agrees with the account of the records before it. -/
theorem fits
    {record : Record}
    (reads : account.Reads (earlier ++ record :: later) after) :
    (earlier.foldl note account).Fits record := by
  induction earlier generalizing account with
  | nil =>
      cases reads with
      | cons fits rest => exact fits
  | cons first earlier inductionHypothesis =>
      cases reads with
      | cons fits rest => exact inductionHypothesis rest

end Reads

/-! ## Events by their messages -/

/-- The messages of the records that may disagree with an account. -/
def checkedMessages : List String :=
  ["attached node", "detached node", "accessibility bridge shut down"]

/-- The messages of the records that an account depends on. -/
def messages : List String :=
  "added accessible node" :: "removed accessible node" :: checkedMessages

/-- Every record with another message agrees with every account. -/
theorem fits_of_not_mem
    {record : Record}
    (other : record.message ∉ checkedMessages)
    (account : Account) :
    account.Fits record where
  attached := fun same => absurd (by simp [same, checkedMessages]) other
  detached := fun same => absurd (by simp [same, checkedMessages]) other
  shutDown := fun same => absurd (by simp [same, checkedMessages]) other

theorem note_of_not_mem
    {record : Record}
    (other : record.message ∉ messages)
    (account : Account) :
    account.note record = account := by
  simp only [messages, checkedMessages, List.mem_cons, List.not_mem_nil,
    or_false, not_or] at other
  obtain ⟨added, removed, attached, detached, shutDown⟩ := other
  simp only [note, attached, detached, added, removed, shutDown, if_false]

end Account

/-- Whether an account depends on the event. -/
def Event.isAccounted : Event → Bool
  | .attached _ _ => true
  | .detached _ => true
  | .added _ _ _ _ => true
  | .removed _ => true
  | .shutDown _ _ => true
  | _ => false

/-- No account depends on what is reported under dispatch. -/
theorem Event.isAccounted_of_target
    {event : Event}
    (dispatched : event.record.target = .dispatch) :
    event.isAccounted = false := by
  cases event <;> first | rfl | cases dispatched

/-- A text starts like its first part. -/
theorem head?_append
    {first : String}
    {character : Char}
    (starts : first.toList.head? = some character)
    (second : String) :
    (first ++ second).toList.head? = some character := by
  rw [String.toList_append, List.head?_append, starts, Option.some_or]

/-- An error is reported with a capital letter. -/
theorem isUpper_head_message (error : Error) :
    ∃ letter, error.message.toList.head? = some letter ∧
      letter.isUpper = true := by
  cases error with
  | malformed => exact ⟨'F', head?_append (by decide) _, rfl⟩
  | unwritable => exact ⟨'F', head?_append (by decide) _, rfl⟩
  | unreadable path failure =>
      exact ⟨'F', head?_append
        (head?_append (head?_append (by decide) _) _) _, rfl⟩
  | invalidValue field detail =>
      exact ⟨'I', head?_append (head?_append (head?_append
        (head?_append (by decide) _) _) _) _, rfl⟩
  | unknownCode code =>
      exact ⟨'U', head?_append (head?_append (by decide) _) _, rfl⟩
  | unknownNode id =>
      exact ⟨'N', head?_append
        (head?_append (head?_append (by decide) _) _) _, rfl⟩
  | notActivatable key =>
      exact ⟨'A', head?_append
        (head?_append (head?_append (by decide) _) _) _, rfl⟩
  | widgetDropped id =>
      exact ⟨'W', head?_append
        (head?_append (head?_append (by decide) _) _) _, rfl⟩
  | unsupportedAction action =>
      exact ⟨'U', head?_append (head?_append (by decide) _) _, rfl⟩

/-- No other event has the message of one that an account depends on. -/
theorem Event.message_not_mem
    {event : Event}
    (other : event.isAccounted = false) :
    event.record.message ∉ Account.messages := by
  cases event with
  | attached key id => cases other
  | detached key => cases other
  | added id code role name => cases other
  | removed id => cases other
  | shutDown nodes widgets => cases other
  | updated id aspect =>
      cases aspect <;> simp [record, Aspect.phrase, Account.messages,
          Account.checkedMessages]
  | acknowledged point =>
      cases point <;> simp [record, HookPoint.phrase, Account.messages,
          Account.checkedMessages]
  | dropped id what =>
      intro member
      have starts : "dropping ".toList <+:
          (dropped id what).record.message.toList := by
        simp only [record, String.toList_append, List.append_assoc]
        exact List.prefix_append _ _
      have others : ∀ message ∈ Account.messages,
          ¬ "dropping ".toList <+: message.toList := by decide
      exact others _ member starts
  | requestRefused target error =>
      intro member
      obtain ⟨letter, starts, upper⟩ := isUpper_head_message error
      have lower : ∀ message ∈ Account.messages,
          message.toList.head?.all Char.isUpper = false := by decide
      have capital := lower _ member
      simp only [record, starts, Option.all_some, upper] at capital
      cases capital
  | _ => simp [record, Account.messages, Account.checkedMessages]

namespace Account

/-- A journal without the events that an account depends on leaves it as it
is. -/
theorem reads_of_others
    {journal : List Entry}
    (others : ∀ event, .event event ∈ journal → event.isAccounted = false)
    (account : Account) :
    account.Reads (records journal) account := by
  induction journal with
  | nil => exact .nil account
  | cons entry journal inductionHypothesis =>
      have rest := inductionHypothesis fun event member =>
        others event (List.mem_cons_of_mem _ member)
      cases entry with
      | event event =>
          have other :=
            event.message_not_mem (others event List.mem_cons_self)
          have unchecked :
              event.record.message ∉ checkedMessages := fun member =>
            other (List.mem_cons_of_mem _ (List.mem_cons_of_mem _ member))
          refine .cons (fits_of_not_mem unchecked account) ?_
          rw [note_of_not_mem other]
          exact rest
      | _ => exact rest

/-- A single event that an account does not depend on. -/
theorem reads_other
    {event : Event}
    (other : event.isAccounted = false)
    (account : Account) :
    account.Reads (records [.event event]) account :=
  reads_of_others (by simpa using other) account

/-- One event that agrees with the account is read. -/
theorem reads_event
    {account : Account}
    {event : Event}
    (fits : account.Fits event.record) :
    account.Reads (records [.event event]) (account.note event.record) :=
  .cons fits (.nil _)

end Account

end Journal
end AssistiveTree
