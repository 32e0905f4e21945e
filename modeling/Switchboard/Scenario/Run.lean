import Switchboard.Machine.Run
import Switchboard.Scenario.Doubles

/-!
# Playing a scenario

A scenario is a list of operations on a fresh switchboard with its stand-ins.
They are carried out one after another on a single processor by one caller; in
between, tasks move only while the caller waits for one of them or lets
everything settle.  The number of moves is bounded by what all operations
together can set going.
-/

namespace Switchboard

/-- A scenario before it is played. -/
structure Scenario where
  stage : Scenario.Stage
  identity : Identity
  settings : Settings
  publisher : Option String
  sessions : List Scenario.SessionDouble
  ops : List Scenario.Op

namespace Scenario

/-- The state in which an operation leaves the switchboard. -/
inductive Status where
  | application (depths : Depths) (phase : Phase) (streams : Nat)
  | alone (depths : Depths) (stopRequested : Bool)
  | closed

/-- Something that happened during an operation and is shown. -/
inductive Shown where
  | event (event : Event)
  | log (entry : LogEntry)

/-- The report on one operation. -/
structure StepReport where
  result : Result
  shown : List Shown
  status : Status

/-- The world in which a scenario is played. -/
abbrev Theatre := World Bench Suspended Event

namespace Theatre

/-- The state of the switchboard as shown after each operation. -/
def status (theatre : Theatre) : Status :=
  let depths := theatre.shared.dispatcher.depths
  match theatre.shared.host with
  | .application application =>
      .application depths application.phase theatre.shared.registry.size
  | .alone _ => .alone depths theatre.shared.dispatcher.stopRequested
  | .closed => .closed

/-- What is shown of a happening. -/
def show? (identity : Identity) : Happening Event → Option Shown
  | .noted (.result _) => none
  | .noted event => some (.event event)
  | .noticed notice => some (.log (notice.entry identity))
  | _ => none

/-- The result that an operation outside of scripts has left in the journal. -/
def result? : Happening Event → Option Result
  | .noted (.result result) => some result
  | _ => none

/-- Lend the executor to an operation, or have it back. -/
def lend (theatre : Theatre) (lent : Bool) : Theatre :=
  { theatre with
    shared :=
      { theatre.shared with client :=
        { theatre.shared.client with lent := lent } } }

/-- Carry out one operation.  The caller is thread 0. -/
def perform (limit : Nat) (theatre : Theatre) (op : Op) : Theatre :=
  let prepared : Theatre := theatre.lend op.runsTasks
  match op with
  | .settle => prepared.settle client limit
  | .killRuntime => prepared.cancelAll
  | op => (prepared.hand 0 (.command op)).finish client limit 0

/-- The report on an operation that led from one world to another. -/
def report (before after : Theatre) : StepReport :=
  let happened :=
    after.shared.journal.take
      (after.shared.journal.length - before.shared.journal.length)
  { result := (happened.findSome? result?).getD .nothing
    shown := (happened.reverse.filterMap (show? after.shared.identity))
    status := after.status }

/-- Carry out operations in a row, with a report on each. -/
def performAll (limit : Nat) (theatre : Theatre) : List Op → List StepReport
  | [] => []
  | op :: rest =>
      let after := theatre.perform limit op
      theatre.report after :: after.performAll limit rest

end Theatre

/-- The bench before the first operation. -/
def bench (scenario : Scenario) : Bench where
  stage := scenario.stage
  lent := false
  streams := []
  sessions := scenario.sessions
  publisher := scenario.publisher
  flags := .standard
  scripts := []
  creations := 0
  deletions := 0

/-- Whom the requests of a scenario address. -/
def host (scenario : Scenario) : Host :=
  match scenario.stage with
  | .application => .application .new
  | .alone => .alone none

/-- The world before the first operation. -/
def theatre (scenario : Scenario) : Theatre :=
  .new (.new scenario.identity scenario.settings scenario.host scenario.bench) 1

/-- More moves than the operations of a scenario can set going. -/
def limit (scenario : Scenario) : Nat :=
  64 * (16 + Op.weights scenario.ops)

/-- Play a scenario from its beginning. -/
def play (scenario : Scenario) : List StepReport :=
  scenario.theatre.performAll scenario.limit scenario.ops

end Scenario

end Switchboard
