import Switchboard.Proofs.Dealing
import Switchboard.Proofs.Tending

/-!
# What a move does with the slot

What an application says of its task is the slot with its lock and the phase;
its dispatcher adds the stop flag.  Together they make up the switch.  Only
`start` and `stop` throw it: a `start` that finds no task at work, a `stop` that
takes the task out of the slot, and the same `stop` once the task has ended.
The inductive predicate `Operates` lists these moves, each by what it does, and
leaves all others aside.
-/

namespace Switchboard

variable {σ κ ν : Type}

/-- The slot for the task with its lock, the phase, and the stop flag. -/
structure Switch where
  worker : Option ThreadId
  locked : Bool
  phase : Phase
  stopRequested : Bool
  deriving DecidableEq

namespace Switch

/-- The switch of an application whose task is at work. -/
def running (task : ThreadId) : Switch where
  worker := some task
  locked := false
  phase := .running
  stopRequested := false

/-- The switch of an application while a `stop` waits for its task. -/
def stopping : Switch where
  worker := none
  locked := true
  phase := .stopRequested
  stopRequested := true

end Switch

/-- The switch of an application; there is none where there is no
application. -/
def Shared.switch? (shared : Shared σ ν) : Option Switch :=
  match shared.host with
  | .application application =>
      some
        { worker := application.worker
          locked := application.locked
          phase := application.phase
          stopRequested := shared.dispatcher.stopRequested }
  | .alone _ => none
  | .closed => none

/-- The task for which a `stop` waits, or is about to wait. -/
def Control.stopping? : Control → Option ThreadId
  | .run (.signal _ (.awaitTask task)) => some task
  | .run (.awaitTask task) => some task
  | _ => none

/-- All that a move can do with the switch. -/
inductive Operates (shared : Shared σ ν) (around : Surroundings) :
    Control → Turn σ κ ν → Prop
  | aside {control : Control} {turn : Turn σ κ ν}
      (same : turn.shared.switch? = shared.switch?)
      (waits : turn.control.stopping? = control.stopping?)
      (unspawned : turn.spawned = false) :
      Operates shared around control turn
  | launches {switch : Switch} {turn : Turn σ κ ν}
      (before : shared.switch? = some switch) (unlocked : switch.locked = false)
      (vacant : ∀ task, switch.worker = some task →
        (around.ending? task).isSome = true)
      (after : turn.shared.switch? = some (.running around.fresh))
      (answers : turn.control = .answer (.concluded (.ok ())))
      (spawned : turn.spawned = true) :
      Operates shared around (.run .start) turn
  | takes {switch : Switch} {task : ThreadId} {turn : Turn σ κ ν}
      (before : shared.switch? = some switch) (unlocked : switch.locked = false)
      (held : switch.worker = some task)
      (after : turn.shared.switch? = some .stopping)
      (waits : turn.control = .run (.signal none (.awaitTask task)))
      (unspawned : turn.spawned = false) :
      Operates shared around (.run .stop) turn
  | concludes {task : ThreadId} {ending : Ending} {turn : Turn σ κ ν}
      (ended : around.ending? task = some ending)
      (after : turn.shared.switch? =
        shared.switch?.map ({ · with locked := false, phase := .stopped }))
      (answers : turn.control =
        .answer (.concluded (Failure.ofEnding task ending)))
      (unspawned : turn.spawned = false) :
      Operates shared around (.run (.awaitTask task)) turn
  | closes {turn : Turn σ κ ν} (closed : turn.shared.host = .closed)
      (done : turn.control.stopping? = none)
      (unspawned : turn.spawned = false) :
      Operates shared around (.run (.perform .close)) turn

/-- A turn that leaves the switch as it is and waits for no task. -/
structure Turn.LeavesSwitch (shared : Shared σ ν) (turn : Turn σ κ ν) :
    Prop where
  same : turn.shared.switch? = shared.switch?
  done : turn.control.stopping? = none
  unspawned : turn.spawned = false

namespace Shared

/-! ## The switch -/

theorem switch?_of_hosted {shared : Shared σ ν} {application : Application}
    (hosted : shared.host = .application application) :
    shared.switch? =
      some ⟨application.worker, application.locked, application.phase,
        shared.dispatcher.stopRequested⟩ := by
  rw [switch?, hosted]

/-- The host and the stop flag make up the switch. -/
theorem switch?_eq {before after : Shared σ ν} (host : after.host = before.host)
    (flag : after.dispatcher.stopRequested = before.dispatcher.stopRequested) :
    after.switch? = before.switch? := by
  rw [switch?, switch?, host, flag]

theorem switch?_of_closed {shared : Shared σ ν}
    (closed : shared.host = .closed) :
    shared.switch? = none := by
  rw [switch?, closed]

/-- Where there is a switch there is an application. -/
theorem exists_application {shared : Shared σ ν} {switch : Switch}
    (hosted : shared.switch? = some switch) :
    ∃ application, shared.host = .application application ∧
      switch = ⟨application.worker, application.locked, application.phase,
        shared.dispatcher.stopRequested⟩ := by
  simp only [switch?] at hosted
  split at hosted
  · rename_i application host
    exact ⟨application, host, (Option.some.inj hosted).symm⟩
  · cases hosted
  · cases hosted

theorem updateApplication_switch? (shared : Shared σ ν)
    (update : Application → Application) (throw : Switch → Switch)
    (keeps : ∀ application flag,
      (⟨(update application).worker, (update application).locked,
        (update application).phase, flag⟩ : Switch) =
        throw ⟨application.worker, application.locked,
          application.phase, flag⟩) :
    (shared.updateApplication update).switch? = shared.switch?.map throw := by
  simp only [updateApplication]
  split
  · rename_i application hosted
    rw [switch?_of_hosted hosted]
    exact congrArg some (keeps application shared.dispatcher.stopRequested)
  · rename_i alone
    rw [switch?, alone]
    rfl
  · rename_i closed
    rw [switch?_of_closed closed]
    rfl

theorem askTypeName_switch? (client : Client σ κ ν) (shared : Shared σ ν) :
    (askTypeName client shared).2.switch? = shared.switch? := by
  simp only [askTypeName]
  split
  · rename_i application hosted
    rw [switch?_of_hosted hosted]
    simp only [switch?, record, Application.askTypeName]
    split <;> rfl
  · rfl
  · rfl

theorem launch_switch? (client : Client σ κ ν) {shared : Shared σ ν}
    {switch : Switch} (hosted : shared.switch? = some switch)
    (unlocked : switch.locked = false) (stack : List (Frame κ))
    (task : ThreadId) :
    (shared.launch client stack task).shared.switch? =
      some (.running task) := by
  have named := askTypeName_switch? client
    ((shared.dispatch (·.withStop false)).updateApplication
      fun application =>
        { application with worker := some task, phase := .running })
  have filled := (shared.dispatch (·.withStop false)).updateApplication_switch?
    (fun application =>
      { application with worker := some task, phase := .running })
    ({ · with worker := some task, phase := .running }) fun _ _ => rfl
  have lowered : (shared.dispatch (·.withStop false)).switch? =
      some { switch with stopRequested := false } := by
    rcases exists_application hosted with ⟨application, host, rfl⟩
    exact switch?_of_hosted host
  rw [filled, lowered, Option.map_some, unlocked] at named
  exact named

/-! ## Starting and stopping -/

section

variable (client : Client σ κ ν) {shared : Shared σ ν} (around : Surroundings)
  (stack : List (Frame κ)) {switch : Switch}
  (hosted : shared.switch? = some switch)
include hosted

/-- A `start` waits until the slot is unlocked. -/
theorem start_of_locked (locked : switch.locked = true) :
    shared.start client around stack = .run shared stack .start := by
  rcases exists_application hosted with ⟨application, host, rfl⟩
  simp only [start, host]
  exact if_pos locked

/-- A `start` that finds a task at work changes nothing. -/
theorem start_of_live (unlocked : switch.locked = false) {task : ThreadId}
    (held : switch.worker = some task) (lives : around.ending? task = none) :
    shared.start client around stack = .answer shared stack
      (.concluded (.ok ())) := by
  rcases exists_application hosted with ⟨application, host, rfl⟩
  dsimp only at unlocked held
  simp only [start, host, unlocked, held, lives]
  rfl

/-- A `start` that finds no task at work spawns one. -/
theorem start_of_vacant (unlocked : switch.locked = false)
    (vacant : ∀ task, switch.worker = some task →
      (around.ending? task).isSome = true) :
    let turn := shared.start client around stack
    turn.shared.switch? = some (.running around.fresh) ∧
      turn.control = .answer (.concluded (.ok ())) ∧ turn.spawned = true := by
  rcases exists_application hosted with ⟨application, host, rfl⟩
  dsimp only at unlocked vacant
  cases held : application.worker with
  | none =>
      simp only [start, host, unlocked, held]
      exact ⟨launch_switch? client hosted unlocked stack _, rfl, rfl⟩
  | some task =>
      rcases Option.isSome_iff_exists.mp (vacant task held) with ⟨ending, ended⟩
      have replaced :
          (shared.noticeReplaced task ending).switch? = shared.switch? := by
        cases ending <;> rfl
      simp only [start, host, unlocked, held, ended]
      exact ⟨launch_switch? client (replaced.trans hosted) unlocked stack _,
        rfl, rfl⟩

/-- A `stop` waits until the slot is unlocked. -/
theorem stop_of_locked (locked : switch.locked = true) :
    shared.stop stack = .run shared stack .stop := by
  rcases exists_application hosted with ⟨application, host, rfl⟩
  simp only [stop, host]
  exact if_pos locked

/-- A `stop` that finds the slot empty changes nothing. -/
theorem stop_of_empty (unlocked : switch.locked = false)
    (empty : switch.worker = none) :
    shared.stop stack = .answer shared stack (.concluded (.ok ())) := by
  rcases exists_application hosted with ⟨application, host, rfl⟩
  dsimp only at unlocked empty
  simp only [stop, host, unlocked, empty]
  rfl

/-- A `stop` takes the task out of the slot, locks it, and raises the flag. -/
theorem stop_of_held (unlocked : switch.locked = false) {task : ThreadId}
    (held : switch.worker = some task) :
    let turn := shared.stop stack
    turn.shared.switch? = some .stopping ∧
      turn.control = .run (.signal none (.awaitTask task)) ∧
        turn.spawned = false := by
  rcases exists_application hosted with ⟨application, host, rfl⟩
  dsimp only at unlocked held
  simp only [stop, host, unlocked, held]
  exact ⟨rfl, rfl, rfl⟩

end

theorem start_of_closed (client : Client σ κ ν) {shared : Shared σ ν}
    (around : Surroundings) (stack : List (Frame κ))
    (closed : shared.switch? = none) :
    shared.start client around stack = .answer shared stack .unavailable := by
  simp only [switch?] at closed
  split at closed
  · cases closed
  · rename_i host
    simp only [start, host]
  · rename_i host
    simp only [start, host]

theorem stop_of_closed {shared : Shared σ ν} (stack : List (Frame κ))
    (closed : shared.switch? = none) :
    shared.stop stack = .answer shared stack .unavailable := by
  simp only [switch?] at closed
  split at closed
  · cases closed
  · rename_i host
    simp only [stop, host]
  · rename_i host
    simp only [stop, host]

/-! ## Moves that throw the switch -/

theorem start_operates (client : Client σ κ ν) (shared : Shared σ ν)
    (around : Surroundings) (stack : List (Frame κ)) :
    Operates shared around (.run .start)
      (shared.start client around stack) := by
  cases hosted : shared.switch? with
  | none =>
      rw [start_of_closed client around stack hosted]
      exact .aside rfl rfl rfl
  | some switch =>
      cases locked : switch.locked with
      | true =>
          rw [start_of_locked client around stack hosted locked]
          exact .aside rfl rfl rfl
      | false =>
          by_cases vacant : ∀ task, switch.worker = some task →
            (around.ending? task).isSome = true
          · rcases start_of_vacant client around stack hosted locked vacant with
              ⟨filled, answers, spawned⟩
            exact .launches hosted locked vacant filled answers spawned
          · simp only [not_forall, Bool.not_eq_true, Option.isSome_eq_false_iff,
              Option.isNone_iff_eq_none] at vacant
            rcases vacant with ⟨task, held, lives⟩
            rw [start_of_live client around stack hosted locked held lives]
            exact .aside rfl rfl rfl

theorem stop_operates (shared : Shared σ ν) (around : Surroundings)
    (stack : List (Frame κ)) :
    Operates shared around (.run .stop) (shared.stop stack) := by
  cases hosted : shared.switch? with
  | none =>
      rw [stop_of_closed stack hosted]
      exact .aside rfl rfl rfl
  | some switch =>
      cases locked : switch.locked with
      | true =>
          rw [stop_of_locked stack hosted locked]
          exact .aside rfl rfl rfl
      | false =>
          cases held : switch.worker with
          | none =>
              rw [stop_of_empty stack hosted locked held]
              exact .aside rfl rfl rfl
          | some task =>
              rcases stop_of_held stack hosted locked held with
                ⟨emptied, awaits, unspawned⟩
              exact .takes hosted locked held emptied awaits unspawned

theorem awaitTask_operates (client : Client σ κ ν) (shared : Shared σ ν)
    (around : Surroundings) (stack : List (Frame κ)) (task : ThreadId) :
    Operates shared around (.run (.awaitTask task))
      (shared.awaitTask client around stack task) := by
  simp only [awaitTask]
  split
  · exact .aside rfl rfl rfl
  · rename_i ending ended
    have unlocked := shared.updateApplication_switch?
      (fun application =>
        { application with locked := false, phase := .stopped })
      ({ · with locked := false, phase := .stopped }) fun _ _ => rfl
    refine .concludes ended ?_ rfl rfl
    rw [← unlocked]
    cases ending with
    | finished => exact askTypeName_switch? client _
    | panicked payload => rfl
    | cancelled => rfl

theorem perform_operates (client : Client σ κ ν) (shared : Shared σ ν)
    (around : Surroundings) (stack : List (Frame κ)) (request : Request)
    (hosted : shared.host.isAlone = false) :
    Operates shared around (.run (.perform request))
      (shared.perform client around stack request) := by
  have solitary {task : Option ThreadId} (alone : shared.host = .alone task)
      {turn : Turn σ κ ν} {request : Request} :
      Operates shared around (.run (.perform request)) turn := by
    rw [alone] at hosted
    cases hosted
  simp only [perform]
  split
  case h_8 => exact .aside (askTypeName_switch? client shared) rfl rfl
  case h_9 => exact .closes rfl rfl rfl
  case h_10 | h_11 | h_12 | h_13 | h_14 | h_15 =>
    rename_i alone
    exact solitary alone
  all_goals exact .aside rfl rfl rfl

/-! ## Moves that do not -/

theorem clientMove_leavesSwitch (shared : Shared σ ν) (stack : List (Frame κ))
    (callback : Option Callback) (turn : ClientTurn σ κ ν) :
    (shared.clientMove stack callback turn).LeavesSwitch shared := by
  obtain ⟨remains, unspawned⟩ := shared.clientMove_continues stack callback turn
  refine ⟨switch?_eq remains.host remains.stopRequested, ?_, unspawned⟩
  simp only [clientMove]
  cases turn.move <;> rfl

theorem serve_leavesSwitch (shared : Shared σ ν) (stack : List (Frame κ))
    (cycle : Cycle) : (shared.serve stack cycle).LeavesSwitch shared := by
  simp only [serve]
  split
  · rcases cycle with ⟨remaining, productive, after⟩
    cases after <;> cases productive <;> exact ⟨rfl, rfl, rfl⟩
  · split
    · exact ⟨rfl, rfl, rfl⟩
    · rename_i popped
      rcases Option.map_eq_some_iff.mp popped with ⟨_, _, equal⟩
      cases equal
      exact ⟨rfl, rfl, rfl⟩

theorem route_leavesSwitch (shared : Shared σ ν) (alive : SessionHandle → Bool)
    (stack : List (Frame κ)) (entry : Sequenced Item) (cycle : Cycle) :
    (shared.route alive stack entry cycle).LeavesSwitch shared := by
  simp only [route]
  split
  · split <;> exact ⟨rfl, rfl, rfl⟩
  · split <;> exact ⟨rfl, rfl, rfl⟩

theorem stamp_leavesSwitch (shared : Shared σ ν) (stack : List (Frame κ))
    (item : Item) : (shared.stamp stack item).LeavesSwitch shared := by
  refine ⟨switch?_eq rfl ?_, rfl, rfl⟩
  cases item with
  | frame kind descriptor packet =>
      simp only [stamp, Turn.run, Turn.pass, dispatch, Dispatcher.stamp]
      split <;> rfl
  | packet session data => rfl

theorem check_leavesSwitch (shared : Shared σ ν) (stack : List (Frame κ))
    (idle : Bool) (watch : Nat) :
    (shared.check stack idle watch).LeavesSwitch shared := by
  simp only [check]
  split
  · exact ⟨rfl, rfl, rfl⟩
  · cases shared.reportDue watch <;> cases idle <;> exact ⟨rfl, rfl, rfl⟩

/-! ## All moves -/

theorem execute_operates (client : Client σ κ ν) (shared : Shared σ ν)
    (around : Surroundings) {stack : List (Frame κ)} {instruction : Instruction}
    (fits : instruction.Fits stack) (hosted : shared.host.isAlone = false)
    (later : (shared.execute client around stack
      instruction).shared.host.isAlone = false) :
    Operates shared around (.run instruction)
      (shared.execute client around stack instruction) := by
  have aside {instruction : Instruction} {turn : Turn σ κ ν}
      (calm : (Control.run instruction).stopping? = none)
      (leaves : turn.LeavesSwitch shared) :
      Operates shared around (.run instruction) turn :=
    .aside leaves.same (leaves.done.trans calm.symm) leaves.unspawned
  cases instruction with
  | perform request =>
      exact shared.perform_operates client around stack request hosted
  | call callback =>
      obtain ⟨same, done, unspawned⟩ :=
        (shared.record (.called callback)).clientMove_leavesSwitch stack
          (some callback) (client.begin callback shared.client)
      exact aside rfl ⟨same, done, unspawned⟩
  | stamp item => exact aside rfl (shared.stamp_leavesSwitch stack item)
  | signal entry next =>
      rcases fits.1 with ⟨answer, rfl⟩ | ⟨task, rfl⟩
      · exact .aside rfl rfl rfl
      · exact .aside rfl rfl rfl
  | cycle cycle => exact aside rfl (shared.serve_leavesSwitch stack cycle)
  | route entry cycle =>
      exact aside rfl (shared.route_leavesSwitch _ stack entry cycle)
  | check idle watch =>
      exact aside rfl (shared.check_leavesSwitch stack idle watch)
  | await watch =>
      simp only [execute, await]
      split <;> exact aside rfl ⟨rfl, rfl, rfl⟩
  | parked watch =>
      simp only [execute, parked]
      split <;> exact aside rfl ⟨rfl, rfl, rfl⟩
  | recheck watch =>
      simp only [execute, recheck]
      split <;> exact aside rfl ⟨rfl, rfl, rfl⟩
  | leave =>
      simp only [execute, leave]
      split <;> exact aside rfl ⟨rfl, rfl, rfl⟩
  | create descriptor =>
      simp only [execute, create]
      split <;> exact aside rfl ⟨rfl, rfl, rfl⟩
  | insert descriptor stream =>
      simp only [execute, insert]
      split <;> exact aside rfl ⟨rfl, rfl, rfl⟩
  | delete descriptor =>
      simp only [execute, delete]
      split <;> exact aside rfl ⟨rfl, rfl, rfl⟩
  | remove descriptor stream =>
      simp only [execute, remove]
      split <;> exact aside rfl ⟨rfl, rfl, rfl⟩
  | start => exact shared.start_operates client around stack
  | stop => exact shared.stop_operates around stack
  | awaitTask task => exact shared.awaitTask_operates client around stack task
  | join task =>
      simp only [execute, join]
      split
      · exact aside rfl ⟨rfl, rfl, rfl⟩
      · rename_i ended
        simp only [execute, join, ended] at later
        cases later
  | answer | push | begin | farewell => exact aside rfl ⟨rfl, rfl, rfl⟩

/-- What arrives at a frame is no matter of the switch. -/
theorem deliver_leavesSwitch (client : Client σ κ ν) (shared : Shared σ ν)
    (stack : List (Frame κ)) {control : Control} (frame : Frame κ)
    (arrives : ∀ instruction, control ≠ .run instruction) :
    (shared.deliver client stack control frame).LeavesSwitch shared := by
  obtain ⟨remains, unspawned⟩ :=
    shared.deliver_continues client stack control frame
  refine ⟨switch?_eq remains.host remains.stopRequested, ?_, unspawned⟩
  simp only [deliver]
  split
  case h_1 | h_2 => exact (shared.clientMove_leavesSwitch _ _ _).done
  case h_8 descriptor reply => cases reply.stream <;> rfl
  case h_10 descriptor stream reply => cases reply.accepted <;> rfl
  case h_12 =>
    cases control with
    | run instruction => exact absurd rfl (arrives instruction)
    | _ => rfl
  case h_4 | h_7 =>
    change (Cycle.afterLoss _ _).stopping? = none
    exact Cycle.afterLoss_rec _ _ rfl fun _ => rfl
  all_goals rfl

/-- What a move does with the switch is listed, unless it is about a dispatcher
that stands alone. -/
theorem move_operates (client : Client σ κ ν) (shared : Shared σ ν)
    (around : Surroundings) {stack : List (Frame κ)} {control : Control}
    (fits : control.Fits stack) (hosted : shared.host.isAlone = false)
    (later : (shared.move client around stack control).shared.host.isAlone =
      false) :
    Operates shared around control
      (shared.move client around stack control) := by
  simp only [move] at later ⊢
  split
  · exact shared.execute_operates client around fits hosted later
  · rename_i arrives
    split
    · exact .aside rfl rfl rfl
    · rename_i frame below
      have leaves := shared.deliver_leavesSwitch client below frame arrives
      have calm : control.stopping? = none := by
        cases control with
        | run instruction => exact absurd rfl (arrives instruction)
        | _ => rfl
      exact .aside leaves.same (leaves.done.trans calm.symm) leaves.unspawned

end Shared

end Switchboard
