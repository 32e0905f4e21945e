import Switchboard.Stream.Registry
import Switchboard.Text.Quoted

/-!
# Panics, ends of tasks, and failures

Client code may panic with a payload.  A task ends by finishing, by a panic that
nothing caught, or by being cancelled; the two abnormal ends turn into failures
when somebody asks how the task fared.

The report on an abnormal end is worded by the runtime.  The wording is assumed,
down to the way in which a text is quoted; that there is a report on every
abnormal end, and none on a good one, is what is proved with.
-/

namespace Switchboard

/-- What a panic carries: a text, or something that is no text.  A fragile
payload is no text either, and its destruction panics in its turn. -/
inductive Payload where
  | text (message : String)
  | other
  | fragile (next : Payload)
  deriving DecidableEq

namespace Payload

/-- The payload in a log line. -/
def message : Payload → String
  | text message => message
  | other => "unknown panic"
  | fragile _ => "unknown panic"

/-- The panic in which the destruction of a payload ends, if it does. -/
def aftermath? : Payload → Option Payload
  | text _ => none
  | other => none
  | fragile next => some next

end Payload

/-- How a task ended. -/
inductive Ending where
  | finished
  | panicked (payload : Payload)
  | cancelled
  deriving DecidableEq

namespace Ending

/-- The report on the abnormal end of a task, in the words of the runtime. -/
def describe (task : Nat) : Ending → Option String
  | finished => none
  | panicked (.text message) =>
      some ("task " ++ toString task ++ " panicked with message " ++
        Text.quoted message)
  | panicked .other => some ("task " ++ toString task ++ " panicked")
  | panicked (.fragile _) => some ("task " ++ toString task ++ " panicked")
  | cancelled => some ("task " ++ toString task ++ " was cancelled")

end Ending

/-- Why an operation of an application fails. -/
inductive Failure where
  | registry (error : RegistryError)
  | creationFailed (id : UInt32) (name : String)
  | deletionRejected (id : UInt32) (name : String)
  | taskPanicked (report : String)
  | taskCancelled
  deriving DecidableEq

namespace Failure

/-- The text of a failure. -/
def message : Failure → String
  | registry error => "Registry error: " ++ error.message
  | creationFailed id name =>
      "Failed to create stream: " ++ name ++ "/" ++ toString id
  | deletionRejected id name =>
      "Stream deletion rejected: " ++ name ++ "/" ++ toString id
  | taskPanicked report => "Dispatch worker panicked: " ++ report
  | taskCancelled => "Dispatch worker cancelled"

/-- The text of the error beneath a failure. -/
def source? : Failure → Option String
  | registry error => some error.message
  | _ => none

/-- Whether an id was already taken. -/
def isDuplicate : Failure → Bool
  | registry (.duplicate _) => true
  | _ => false

/-- Whether an id was not taken. -/
def isNotFound : Failure → Bool
  | registry (.notFound _) => true
  | _ => false

/-- The failure that the end of a task amounts to, if it was abnormal. -/
def ofEnding (task : Nat) (ending : Ending) : Except Failure Unit :=
  match ending, ending.describe task with
  | .finished, _ => .ok ()
  | .panicked _, report => .error (.taskPanicked (report.getD ""))
  | .cancelled, _ => .error .taskCancelled

end Failure

end Switchboard
