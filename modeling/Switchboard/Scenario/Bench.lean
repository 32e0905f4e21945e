import Switchboard.Scenario.Report
import Switchboard.Scenario.Script

/-!
# The bench of stand-ins

The bench keeps the stand-ins for streams in the order in which they were
built, the sessions, the publisher, the behaviour of the hooks, and the scripts
that wait for their callbacks.
-/

namespace Switchboard.Scenario

/-- A stand-in for a stream. -/
structure StreamDouble where
  id : UInt32
  name : String
  workers : Nat
  stopped : Bool
  faults : StreamFaults

/-- A stand-in for a session.  The owner holds it until it lets go. -/
structure SessionDouble where
  number : UInt64
  fault : Option Fault
  numberFault : Option Fault
  held : Bool

/-- How the hooks behave. -/
structure Flags where
  rejectDelete : Bool
  failCreate : Bool
  panicCreate : Option Fault
  panicDelete : Option Fault
  streamId : Option UInt32
  streamName : Option String

namespace Flags

/-- Hooks that build every stream and let every stream go. -/
def standard : Flags where
  rejectDelete := false
  failCreate := false
  panicCreate := none
  panicDelete := none
  streamId := none
  streamName := none

/-- Carry out one change. -/
def apply (flags : Flags) : FlagChange → Flags
  | .rejectDelete value => { flags with rejectDelete := value }
  | .failCreate value => { flags with failCreate := value }
  | .panicCreate fault => { flags with panicCreate := fault }
  | .panicDelete fault => { flags with panicDelete := fault }
  | .streamId id => { flags with streamId := id }
  | .streamName name => { flags with streamName := name }

end Flags

/-- A scenario plays with an application or with a dispatcher that stands
alone. -/
inductive Stage where
  | application
  | alone
  deriving DecidableEq

/-- All stand-ins, and the scripts with the one to be taken first in front.  The
executor is lent to an operation that waits for tasks until the next one. -/
structure Bench where
  stage : Stage
  lent : Bool
  streams : List StreamDouble
  sessions : List SessionDouble
  publisher : Option String
  flags : Flags
  scripts : List (Place × List Op)
  creations : Nat
  deletions : Nat

namespace Bench

/-- The report on the stand-in with the given handle. -/
def report? (bench : Bench) (handle : Nat) : Option StreamReport :=
  (bench.streams[handle]?).map fun double =>
    { handle := handle
      id := double.id
      name := double.name
      workers := double.workers
      stopped := double.stopped }

/-- The report on a stream, as a result. -/
def streamResult (bench : Bench) (stream : Stream) : Result :=
  (bench.report? stream.handle).elim .nothing .stream

/-- Whether the owner of a session still holds it. -/
def holds (bench : Bench) (session : SessionHandle) : Bool :=
  (bench.sessions[session]?).elim false (·.held)

/-- Build a stand-in for a stream. -/
def build (bench : Bench) (id : UInt32) (name : String) (workers : Nat) :
    Stream × Bench :=
  let double : StreamDouble :=
    { id := id
      name := name
      workers := workers
      stopped := false
      faults := .none }
  (⟨bench.streams.length, name⟩,
    { bench with streams := bench.streams ++ [double] })

/-- Change the stand-in with the given handle. -/
def updateStream (bench : Bench) (handle : Nat)
    (update : StreamDouble → StreamDouble) :
    Bench :=
  { bench with streams := bench.streams.modify handle update }

/-- Let a script wait behind the others for its place. -/
def addScript (bench : Bench) (place : Option Place) (ops : List Op) : Bench :=
  match place with
  | none => bench
  | some place => { bench with scripts := bench.scripts ++ [(place, ops)] }

/-- Take the first script that waits for a place. -/
def takeScript (bench : Bench) (place : Place) : List Op × Bench :=
  match bench.scripts.find? fun script => script.1 = place with
  | none => ([], bench)
  | some (_, ops) =>
      (ops, { bench with scripts :=
        bench.scripts.eraseP fun script => script.1 = place })

end Bench

end Switchboard.Scenario
