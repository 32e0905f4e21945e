import Switchboard.Wake

/-!
# The lifecycle of an application

An application has one slot for its dispatch task.  `start` fills the slot and
`stop` empties it and waits for the task; whoever works on the slot locks it,
and a `stop` keeps it locked while it waits.

The lock belongs to the runtime.  It is assumed to have one holder at a time,
and to be free again once its holder is done or has been given up.  Nothing is
assumed of the order in which those who wait for it get it.
-/

namespace Switchboard

/-- What an application says about its task. -/
inductive Phase where
  | stopped
  | running
  | stopRequested
  deriving DecidableEq

namespace Phase

/-- The words for a phase. -/
def name : Phase → String
  | stopped => "stopped"
  | running => "running"
  | stopRequested => "stop requested"

end Phase

/-- The part of an application that `start` and `stop` work on, and the display
name once it is settled. -/
structure Application where
  worker : Option ThreadId
  locked : Bool
  phase : Phase
  typeName : Option String
  deriving DecidableEq

namespace Application

/-- An application that was never started. -/
def new : Application where
  worker := none
  locked := false
  phase := .stopped
  typeName := none

instance : Inhabited Application :=
  ⟨new⟩

/-- The display name that the owning publisher's name leads to. -/
def displayName (publisher : String) : String :=
  publisher ++ " Application"

/-- Ask for the display name.  The first time that the publisher is there to
give its name settles the answer for good; until then it is empty. -/
def askTypeName (application : Application) (publisher : Option String) :
    String × Application :=
  match application.typeName, publisher with
  | some settled, _ => (settled, application)
  | none, some name =>
      (displayName name,
        { application with typeName := some (displayName name) })
  | none, none => ("", application)

end Application

end Switchboard
