import Switchboard.Proofs.Slot

/-!
# Reports on dead tasks

A task dies if a panic ends it or if it is cancelled.  Its death is worth one
line in the log: a `start` that replaces the task writes it, or the `stop` that
has waited for the task.  This file says which step reports what: the next line
is a function of what the moving thread is about to do, and no other move writes
such a line.
-/

namespace Switchboard

variable {σ κ ν : Type}

namespace Ending

/-- The line that a `start` writes about a task which it replaces. -/
def onReplacement? (task : ThreadId) : Ending → Option Notice
  | finished => none
  | panicked payload => some (.taskReplaced task (.panicked payload))
  | cancelled => some (.taskReplaced task .cancelled)

/-- The line that a `stop` writes about a task for which it has waited. -/
def onStop? (task : ThreadId) : Ending → Option Notice
  | finished => none
  | panicked payload => some (.taskPanicked task (.panicked payload))
  | cancelled => some (.taskCancelled task)

end Ending

/-- The death on which a line reports. -/
def Notice.death? : Notice → Option (ThreadId × Ending)
  | taskReplaced task ending => some (task, ending)
  | taskPanicked task ending => some (task, ending)
  | taskCancelled task => some (task, .cancelled)
  | _ => none

namespace Ending

/-- A `start` reports a death as it was, and nothing of a task that has
finished. -/
theorem death?_onReplacement (task : ThreadId) (ending : Ending) :
    (ending.onReplacement? task).bind Notice.death? =
      if ending = .finished then none else some (task, ending) := by
  cases ending <;> rfl

/-- So does a `stop`. -/
theorem death?_onStop (task : ThreadId) (ending : Ending) :
    (ending.onStop? task).bind Notice.death? =
      if ending = .finished then none else some (task, ending) := by
  cases ending <;> rfl

end Ending

/-- A line that reports a death. -/
def Happening.report? : Happening ν → Option Notice
  | noticed notice => if notice.death?.isSome then some notice else none
  | _ => none

namespace Shared

/-- The lines that report deaths, the newest first. -/
def reports (shared : Shared σ ν) : List Notice :=
  shared.journal.filterMap Happening.report?

/-- The deaths that have been reported. -/
def deaths (shared : Shared σ ν) : List (ThreadId × Ending) :=
  shared.reports.filterMap Notice.death?

/-- The line about a dead task that a thread is about to write. -/
def report? (shared : Shared σ ν) (ending? : ThreadId → Option Ending) :
    Control → Option Notice
  | .run .start =>
      (shared.switch?.filter fun switch => !switch.locked).bind fun switch =>
        switch.worker.bind fun task =>
          (ending? task).bind (·.onReplacement? task)
  | .run (.awaitTask task) => (ending? task).bind (·.onStop? task)
  | _ => none

/-! ## What is no report -/

theorem updateApplication_reports (shared : Shared σ ν)
    (update : Application → Application) :
    (shared.updateApplication update).reports = shared.reports :=
  congrArg (List.filterMap Happening.report?)
    (shared.updateApplication_journal update)

theorem askTypeName_reports (client : Client σ κ ν) (shared : Shared σ ν) :
    (askTypeName client shared).2.reports = shared.reports := by
  simp only [askTypeName]
  split <;> rfl

theorem launch_reports (client : Client σ κ ν) (shared : Shared σ ν)
    (stack : List (Frame κ)) (task : ThreadId) :
    (shared.launch client stack task).shared.reports = shared.reports :=
  (askTypeName_reports client _).trans (updateApplication_reports _ _)

theorem clientMove_reports (shared : Shared σ ν) (stack : List (Frame κ))
    (callback : Option Callback) (turn : ClientTurn σ κ ν) :
    (shared.clientMove stack callback turn).shared.reports =
      shared.reports := by
  have noted :
      ((turn.notes.map Happening.noted).reverse ++ shared.journal).filterMap
      Happening.report? = shared.reports :=
    Happening.filterMap_notes (fun _ => rfl) turn.notes shared.journal
  simp only [clientMove]
  cases turn.move with
  | perform request next => exact noted
  | finish reply => cases callback <;> exact noted
  | panic payload => cases callback <;> exact noted

theorem perform_reports (client : Client σ κ ν) (shared : Shared σ ν)
    (around : Surroundings) (stack : List (Frame κ)) (request : Request) :
    (shared.perform client around stack request).shared.reports =
      shared.reports := by
  simp only [perform]
  split
  case h_8 => exact shared.askTypeName_reports client
  case h_12 =>
    simp only [register]
    split <;> rfl
  case h_13 =>
    simp only [unregister]
    split <;> rfl
  all_goals rfl

theorem serve_reports (shared : Shared σ ν) (stack : List (Frame κ))
    (cycle : Cycle) :
    (shared.serve stack cycle).shared.reports = shared.reports := by
  simp only [serve]
  split
  · rfl
  · split <;> rfl

theorem route_reports (shared : Shared σ ν) (alive : SessionHandle → Bool)
    (stack : List (Frame κ)) (entry : Sequenced Item) (cycle : Cycle) :
    (shared.route alive stack entry cycle).shared.reports = shared.reports := by
  simp only [route]
  split
  · split <;> rfl
  · split <;> rfl

theorem check_reports (shared : Shared σ ν) (stack : List (Frame κ))
    (idle : Bool) (watch : Nat) :
    (shared.check stack idle watch).shared.reports = shared.reports := by
  simp only [check]
  split
  · rfl
  · cases shared.reportDue watch <;> rfl

theorem stop_reports (shared : Shared σ ν) (stack : List (Frame κ)) :
    (shared.stop stack).shared.reports = shared.reports :=
  congrArg (List.filterMap Happening.report?) (shared.stop_journal stack)

theorem deliver_reports (client : Client σ κ ν) (shared : Shared σ ν)
    (stack : List (Frame κ)) (control : Control) (frame : Frame κ) :
    (shared.deliver client stack control frame).shared.reports =
      shared.reports := by
  simp only [deliver]
  split
  case h_1 | h_2 => exact clientMove_reports _ _ _ _
  case h_8 descriptor reply => cases reply.stream <;> rfl
  case h_10 descriptor stream reply => cases reply.accepted <;> rfl
  all_goals rfl

/-! ## What is one -/

theorem noticeReplaced_reports (shared : Shared σ ν) (task : ThreadId)
    (ending : Ending) : (shared.noticeReplaced task ending).reports =
      (ending.onReplacement? task).toList ++ shared.reports := by
  cases ending <;> rfl

theorem noticeStopped_reports (client : Client σ κ ν) (shared : Shared σ ν)
    (task : ThreadId) (ending : Ending) :
    (noticeStopped client shared task ending).reports =
      (ending.onStop? task).toList ++ shared.reports := by
  cases ending with
  | finished => exact askTypeName_reports client shared
  | panicked payload => rfl
  | cancelled => rfl

/-- A `start` reports on the task that it finds in the slot. -/
theorem report?_of_start {shared : Shared σ ν}
    {ending? : ThreadId → Option Ending} {switch : Switch} {task : ThreadId}
    (shows : shared.switch? = some switch) (unlocked : switch.locked = false)
    (held : switch.worker = some task) :
    shared.report? ending? (.run .start) = (ending? task).bind
      (·.onReplacement? task) := by
  simp only [report?, shows, Option.filter_some, unlocked,
    Bool.not_false, if_true, Option.bind_some, held]

theorem start_reports (client : Client σ κ ν) (shared : Shared σ ν)
    (around : Surroundings) (stack : List (Frame κ)) :
    (shared.start client around stack).shared.reports =
      (shared.report? around.ending? (.run .start)).toList ++
        shared.reports := by
  simp only [start]
  split
  · rename_i application hosted
    have shows := switch?_of_hosted hosted
    cases locked : application.locked with
    | true =>
        simp only [report?, shows, locked]
        rfl
    | false =>
        cases held : application.worker with
        | none =>
            simp only [report?, shows, locked, held]
            exact launch_reports client shared stack _
        | some task =>
            rw [report?_of_start shows locked held]
            cases ended : around.ending? task with
            | none =>
                simp only [ended]
                rfl
            | some ending =>
                simp only [ended]
                exact (launch_reports client _ stack _).trans
                  (shared.noticeReplaced_reports task ending)
  · rename_i alone
    simp only [report?, switch?, alone]
    rfl
  · rename_i closed
    simp only [report?, switch?_of_closed closed]
    rfl

theorem awaitTask_reports (client : Client σ κ ν) (shared : Shared σ ν)
    (around : Surroundings) (stack : List (Frame κ)) (task : ThreadId) :
    (shared.awaitTask client around stack task).shared.reports =
      (shared.report? around.ending? (.run (.awaitTask task))).toList ++
        shared.reports := by
  simp only [awaitTask, report?]
  cases around.ending? task with
  | none => rfl
  | some ending =>
      exact (noticeStopped_reports client _ task ending).trans
        (congrArg (_ ++ ·) (shared.updateApplication_reports _))

/-! ## All moves -/

theorem execute_reports (client : Client σ κ ν) (shared : Shared σ ν)
    (around : Surroundings) (stack : List (Frame κ))
    (instruction : Instruction) :
    (shared.execute client around stack instruction).shared.reports =
      (shared.report? around.ending? (.run instruction)).toList ++
        shared.reports := by
  cases instruction with
  | perform request => exact shared.perform_reports client around stack request
  | call callback =>
      exact clientMove_reports (shared.record (.called callback)) stack _ _
  | cycle cycle => exact shared.serve_reports stack cycle
  | route entry cycle => exact shared.route_reports _ stack entry cycle
  | check idle watch => exact shared.check_reports stack idle watch
  | await watch =>
      simp only [execute, await]
      split <;> rfl
  | parked watch =>
      simp only [execute, parked]
      split <;> rfl
  | create descriptor =>
      simp only [execute, create]
      split <;> rfl
  | insert descriptor stream =>
      simp only [execute, insert]
      split <;> rfl
  | delete descriptor =>
      simp only [execute, delete]
      split <;> rfl
  | remove descriptor stream =>
      simp only [execute, remove]
      split <;> rfl
  | start => exact shared.start_reports client around stack
  | stop => exact shared.stop_reports stack
  | awaitTask task => exact shared.awaitTask_reports client around stack task
  | join task =>
      simp only [execute, join]
      split <;> rfl
  | _ => rfl

/-- A move writes the line that its thread was about to write, and no other
about a dead task. -/
theorem move_reports (client : Client σ κ ν) (shared : Shared σ ν)
    (around : Surroundings) (stack : List (Frame κ)) (control : Control) :
    (shared.move client around stack control).shared.reports =
      (shared.report? around.ending? control).toList ++ shared.reports := by
  cases control with
  | run instruction =>
      exact shared.execute_reports client around stack instruction
  | reply | answer | raise | cancelled =>
      cases stack with
      | nil => rfl
      | cons frame rest => exact shared.deliver_reports client rest _ frame

end Shared

end Switchboard
