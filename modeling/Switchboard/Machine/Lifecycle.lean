import Switchboard.Machine.State

/-!
# Starting and stopping

`start` spawns a task unless the slot holds one that has not ended; a task that
ended on its own is replaced, and an abnormal end is logged.  `stop` takes the
task out of the slot, raises the stop flag, signals the wake event, and waits
for the task with the slot locked.  A locked slot keeps every other `start` and
`stop` waiting.

Whoever reports the end of a task that has panicked destroys what the panic
carried.  This is taken to go well: a `start` or `stop` that does not come to
its end because the destruction panics is left out.
-/

namespace Switchboard

namespace Shared

variable {σ κ ν : Type}

/-- Change the application, if there still is one. -/
def updateApplication (shared : Shared σ ν)
    (update : Application → Application) :
    Shared σ ν :=
  match shared.host with
  | .application application =>
      { shared with host := .application (update application) }
  | .alone _ => shared
  | .closed => shared

/-- Ask for the display name, which may settle it. -/
def askTypeName (client : Client σ κ ν) (shared : Shared σ ν) :
    String × Shared σ ν :=
  match shared.host with
  | .application application =>
      let publisher := client.publisherName shared.client
      let (name, asked) := application.askTypeName publisher
      (name, ({ shared with host := .application asked }).record
        (.named publisher name))
  | .alone _ => ("", shared)
  | .closed => ("", shared)

/-- Whether the slot for the dispatch task is locked. -/
def locked (shared : Shared σ ν) : Bool :=
  match shared.host with
  | .application application => application.locked
  | .alone _ => false
  | .closed => false

/-- Spawn a dispatch task into the slot. -/
def launch (client : Client σ κ ν) (shared : Shared σ ν)
    (stack : List (Frame κ)) (task : ThreadId) : Turn σ κ ν :=
  let launched :=
    (shared.dispatch (·.withStop false)).updateApplication fun application =>
      { application with worker := some task, phase := .running }
  let (name, named) := askTypeName client launched
  { shared := named.notice (.applicationStarted name)
    stack := stack
    control := .answer (.concluded (.ok ()))
    spawned := true }

/-- Log the abnormal end of a task that is being replaced. -/
def noticeReplaced (shared : Shared σ ν) (task : ThreadId) : Ending → Shared σ ν
  | .finished => shared
  | ending => shared.notice (.taskReplaced task ending)

/-- Start the application. -/
def start (client : Client σ κ ν) (shared : Shared σ ν) (around : Surroundings)
    (stack : List (Frame κ)) : Turn σ κ ν :=
  match shared.host with
  | .application application =>
      if application.locked then
        .run shared stack .start
      else
        match application.worker with
        | none => launch client shared stack around.fresh
        | some task =>
            match around.ending? task with
            | none => .answer shared stack (.concluded (.ok ()))
            | some ending =>
                launch client
                  (shared.noticeReplaced task ending) stack around.fresh
  | .alone _ => .answer shared stack .unavailable
  | .closed => .answer shared stack .unavailable

/-- Begin to stop the application. -/
def stop (shared : Shared σ ν) (stack : List (Frame κ)) : Turn σ κ ν :=
  match shared.host with
  | .application application =>
      if application.locked then
        .run shared stack .stop
      else
        match application.worker with
        | none => .answer shared stack (.concluded (.ok ()))
        | some task =>
            .run
              (({ shared with
                  host :=
                    .application
                      { application with
                        worker := none
                        locked := true
                        phase := .stopRequested } }).dispatch (·.withStop true))
              stack (.signal none (.awaitTask task))
  | .alone _ => .answer shared stack .unavailable
  | .closed => .answer shared stack .unavailable

/-- Log how the task of a stopped application ended. -/
def noticeStopped (client : Client σ κ ν) (shared : Shared σ ν)
    (task : ThreadId) :
    Ending → Shared σ ν
  | .finished =>
      let (name, named) := askTypeName client shared
      named.notice (.applicationStopped name shared.dispatcher.depths.total)
  | .panicked payload => shared.notice (.taskPanicked task (.panicked payload))
  | .cancelled => shared.notice (.taskCancelled task)

/-- Wait for the task, and finish stopping the application once it has ended. -/
def awaitTask (client : Client σ κ ν) (shared : Shared σ ν)
    (around : Surroundings) (stack : List (Frame κ)) (task : ThreadId) :
    Turn σ κ ν :=
  match around.ending? task with
  | none => .run shared stack (.awaitTask task)
  | some ending =>
      let unlocked :=
        shared.updateApplication fun application =>
          { application with locked := false, phase := .stopped }
      .answer (noticeStopped client unlocked task ending) stack
        (.concluded (Failure.ofEnding task ending))

/-- Drop the application; its task is asked to stop. -/
def close (shared : Shared σ ν) (stack : List (Frame κ)) : Turn σ κ ν :=
  .run (({ shared with host := .closed }).dispatch (·.withStop true)) stack
    (.signal none (.answer .done))

/-- Raise the stop flag of a dispatcher that stands alone. -/
def requestStop (shared : Shared σ ν) (stack : List (Frame κ)) : Turn σ κ ν :=
  .run (shared.dispatch (·.withStop true)) stack (.signal none (.answer .done))

/-- Spawn a task for a dispatcher that stands alone. -/
def spawn (shared : Shared σ ν) (stack : List (Frame κ)) (task : ThreadId) :
    Turn σ κ ν where
  shared := { shared with host := .alone (some task) }
  stack := stack
  control := .answer .done
  spawned := true

/-- Wait for the task of a dispatcher that stands alone. -/
def join (shared : Shared σ ν) (around : Surroundings) (stack : List (Frame κ))
    (task : ThreadId) : Turn σ κ ν :=
  match around.ending? task with
  | none => .run shared stack (.join task)
  | some ending =>
      .answer { shared with host := .alone none } stack
        (.concluded (Failure.ofEnding task ending))

end Shared

end Switchboard
