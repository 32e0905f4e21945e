import Switchboard.Proofs.Alike
import Switchboard.Proofs.Schedule
import Switchboard.Proofs.Signals

/-!
# What is left to do

Every step of a thread that can move uses up some of what the thread has left to
do, of what waits in the queues, or of the signals that nobody has acted on.
Only client code that asks for something adds to it, and no more than a fixed
amount.
-/

namespace Switchboard

variable {σ κ ν : Type}

/-! ## Effort -/

/-- More than the steps that a cycle takes if it finds nothing more: it serves
its channels, and what follows is a last cycle of the drain, or the way of the
loop to its next wait. -/
def Cycle.effort (cycle : Cycle) : Nat :=
  match cycle.productive, cycle.after with
  | true, _ => cycle.remaining.length + 16
  | false, .loop _ => cycle.remaining.length + 10
  | false, .drain => cycle.remaining.length + 3
  | false, .answer => cycle.remaining.length + 3

/-- More than the steps to which an instruction leads if nothing is found and
nobody asks for anything mild.  A push adds to the queues and a signal to the
wake event, which count for themselves. -/
@[simp]
def Instruction.effort : Instruction → Nat
  | .perform request => if request.isMild then 0 else 15
  | .call _ => 2
  | .answer _ => 2
  | .stamp _ => 35
  | .push _ => 34
  | .signal _ next => next.effort + 11
  | .cycle current => current.effort
  | .route _ current => current.effort + 5
  | .begin => 10
  | .check true _ => 9
  | .check false _ => 15
  | .await _ => 8
  | .parked _ => 7
  | .recheck _ => 14
  | .leave => 7
  | .farewell => 2
  | .create _ => 7
  | .insert _ _ => 4
  | .delete _ => 7
  | .remove _ _ => 4
  | .start => 2
  | .stop => 14
  | .awaitTask _ => 2
  | .join _ => 2

/-- More than the steps to which a control leads; what goes to a frame counts
for one. -/
@[simp]
def Control.effort : Control → Nat
  | .run instruction => instruction.effort
  | _ => 1

/-- The steps to which a frame leads once its reply has come. -/
@[simp]
def Frame.effort : Frame κ → Nat
  | .client _ _ => 1
  | .sending _ _ _ cycle => cycle.effort
  | .receiving _ _ cycle => cycle.effort + 2
  | .reporting _ _ _ cycle => cycle.effort
  | .creating _ => 4
  | .losing _ _ => 1
  | .releasing _ _ => 4
  | .stopping _ => 1

/-- The effort of all frames of a stack. -/
def stackEffort : List (Frame κ) → Nat
  | [] => 0
  | frame :: below => frame.effort + stackEffort below

/-- What waits in the queues, each entry with the cycle for which it is found,
and the signals that nobody has acted on, each with a look at the queues. -/
def Dispatcher.effort (dispatcher : Dispatcher) : Nat :=
  20 * (dispatcher.queues.video.size + dispatcher.queues.audio.size +
      dispatcher.queues.packets.size) +
    10 * (dispatcher.wake.permit.toNat + dispatcher.wake.signalled.length)

/-- What a turn leaves to do. -/
def Turn.effort (turn : Turn σ κ ν) : Nat :=
  turn.shared.dispatcher.effort + stackEffort turn.stack + turn.control.effort

/-- Whether a control is that of a thread that asks for something mild. -/
@[simp]
def Control.asks : Control → Bool
  | .run (.perform request) => request.isMild
  | _ => false

/-- A turn uses up some of what there was to do.  What is asked for adds at most
36. -/
def Turn.Tires (dispatcher : Dispatcher) (stack : List (Frame κ))
    (control : Control) (turn : Turn σ κ ν) : Prop :=
  turn.effort + 1 ≤
    dispatcher.effort + stackEffort stack + control.effort + 36 *
      control.asks.toNat

@[simp]
theorem Turn.effort_pass (shared : Shared σ ν) (stack : List (Frame κ))
    (control : Control) : (Turn.pass shared stack control).effort =
      shared.dispatcher.effort + stackEffort stack + control.effort :=
  rfl

@[simp]
theorem Turn.effort_run (shared : Shared σ ν) (stack : List (Frame κ))
    (instruction : Instruction) :
    (Turn.run shared stack instruction).effort =
      shared.dispatcher.effort + stackEffort stack + instruction.effort :=
  rfl

@[simp]
theorem Turn.effort_answer (shared : Shared σ ν) (stack : List (Frame κ))
    (answer : Answer) :
    (Turn.answer shared stack answer).effort =
      shared.dispatcher.effort + stackEffort stack + 1 :=
  rfl

@[simp]
theorem stackEffort_nil : stackEffort ([] : List (Frame κ)) = 0 :=
  rfl

@[simp]
theorem stackEffort_cons (frame : Frame κ) (stack : List (Frame κ)) :
    stackEffort (frame :: stack) = frame.effort + stackEffort stack :=
  rfl

@[simp]
theorem Turn.effort_call (shared : Shared σ ν) (stack : List (Frame κ))
    (frame : Frame κ) (callback : Callback) :
    (Turn.call shared stack frame callback).effort =
      shared.dispatcher.effort + (frame.effort + stackEffort stack) + 2 := by
  rw [← stackEffort_cons]
  rfl

theorem Cycle.effort_pos (cycle : Cycle) : 3 ≤ cycle.effort := by
  rcases cycle with ⟨remaining, productive, after⟩
  cases productive <;> cases after <;> simp only [effort] <;> omega

/-- A loss leaves no more to do than the cycle does that goes on. -/
theorem Turn.effort_afterLoss (shared : Shared σ ν) (stack : List (Frame κ))
    (cycle : Cycle) (payload : Payload) :
    (Turn.pass shared stack (cycle.afterLoss payload)).effort ≤
      shared.dispatcher.effort + stackEffort stack + cycle.effort := by
  have positive := cycle.effort_pos
  obtain ⟨_, goes⟩ | ⟨next, _, leaves⟩ := cycle.afterLoss_cases payload
  · rw [goes]
    exact Nat.le_refl _
  · rw [leaves, Turn.effort_pass, Control.effort]
    · omega
    · exact fun _ => Control.noConfusion

theorem Frame.effort_pos (frame : Frame κ) : 1 ≤ frame.effort := by
  cases frame with
  | sending _ _ _ cycle | receiving _ _ cycle | reporting _ _ _ cycle =>
      have positive := cycle.effort_pos
      simp only [effort]
      omega
  | _ => simp [effort]

/-! ## Single steps -/

namespace Dispatcher

/-- A signal is one more that nobody has acted on, or there was a permit
before. -/
theorem effort_signal (dispatcher : Dispatcher) :
    dispatcher.signal.effort ≤ dispatcher.effort + 10 := by
  rcases dispatcher with
    ⟨queues, ⟨permit, waiting, signalled⟩, stopRequested, counters⟩
  cases waiting with
  | nil =>
      cases permit
      · simp [effort, signal, Wake.signal]
        omega
      · simp [effort, signal, Wake.signal]
  | cons first rest => simp [effort, signal, Wake.signal]; omega

@[simp]
theorem effort_withStop (dispatcher : Dispatcher) (requested : Bool) :
    (dispatcher.withStop requested).effort = dispatcher.effort :=
  rfl

@[simp]
theorem effort_count (dispatcher : Dispatcher) (update : Counters → Counters) :
    (dispatcher.count update).effort = dispatcher.effort :=
  rfl

theorem effort_push (dispatcher : Dispatcher) (item : Item) :
    (dispatcher.push item).effort = dispatcher.effort + 20 := by
  simp only [effort, push]
  cases item.channel <;> simp [Queues.set, Queues.get] <;> omega

theorem effort_stamp (dispatcher : Dispatcher) (item : Item) :
    (dispatcher.stamp item).effort = dispatcher.effort := by
  cases item with
  | frame kind descriptor packet =>
      simp only [stamp]
      split <;> rfl
  | packet session data => rfl

theorem effort_pop {dispatcher rest : Dispatcher} {channel : Channel}
    {entry : Sequenced Item}
    (popped : dispatcher.pop? channel = some (entry, rest)) :
    rest.effort + 20 = dispatcher.effort := by
  rcases Option.map_eq_some_iff.mp popped with ⟨⟨first, queue⟩, taken, same⟩
  cases same
  have entries := ((Queue.pop?_eq_some_iff _ _ _).mp taken).1
  have size : (dispatcher.queues.get channel).size = queue.size + 1 := by
    rw [Queue.size, Queue.size, entries, List.length_cons]
  cases channel <;> simp only [effort, Queues.set, Queues.get] at size ⊢ <;>
    omega

theorem effort_takePermit {dispatcher : Dispatcher}
    (stored : dispatcher.wake.permit = true) :
    (dispatcher.withWake .takePermit).effort + 10 = dispatcher.effort := by
  simp [effort, withWake, Wake.takePermit, stored]
  omega

theorem effort_dismiss {dispatcher : Dispatcher} {self : ThreadId}
    (called : dispatcher.wake.hasSignalled self = true) :
    (dispatcher.withWake (·.dismiss self)).effort + 10 = dispatcher.effort := by
  have member : self ∈ dispatcher.wake.signalled := by
    rwa [Wake.hasSignalled, List.contains_iff_mem] at called
  have positive := List.length_pos_of_mem member
  simp only [effort, withWake, Wake.dismiss, List.length_erase_of_mem member]
  omega

end Dispatcher

namespace Shared

variable {client : Client σ κ ν} {shared : Shared σ ν} {stack : List (Frame κ)}

@[simp]
theorem dispatcher_record (shared : Shared σ ν) (happening : Happening ν) :
    (shared.record happening).dispatcher = shared.dispatcher :=
  rfl

@[simp]
theorem dispatcher_notice (shared : Shared σ ν) (notice : Notice) :
    (shared.notice notice).dispatcher = shared.dispatcher :=
  rfl

@[simp]
theorem dispatcher_count (shared : Shared σ ν) (update : Counters → Counters) :
    (shared.count update).dispatcher = shared.dispatcher.count update :=
  rfl

@[simp]
theorem dispatcher_dispatch (shared : Shared σ ν)
    (update : Dispatcher → Dispatcher) :
    (shared.dispatch update).dispatcher = update shared.dispatcher :=
  rfl

/-- Client code that asks for mild things only is done, or asks for one. -/
theorem clientMove_effort (shared : Shared σ ν) (stack : List (Frame κ))
    (callback : Option Callback) {turn : ClientTurn σ κ ν}
    (mild : ∀ {request next}, turn.move = .perform request next →
      request.isMild = true) :
    (shared.clientMove stack callback turn).effort ≤
      shared.dispatcher.effort + stackEffort stack + 1 := by
  have dispatcher := shared.clientMove_dispatcher stack callback turn
  simp only [Turn.effort, dispatcher]
  simp only [clientMove]
  cases move : turn.move with
  | perform request next =>
      simp [Turn.run, Turn.pass, mild move]
      omega
  | finish reply => exact Nat.le_refl _
  | panic payload => exact Nat.le_refl _

theorem serve_tires (shared : Shared σ ν) (stack : List (Frame κ))
    (current : Cycle) :
    (shared.serve stack current).Tires shared.dispatcher stack
    (.run (.cycle current)) := by
  rcases current with ⟨remaining, productive, after⟩
  cases remaining with
  | nil =>
      cases productive <;> cases after <;>
        simp [Turn.Tires, serve, Cycle.next, Cycle.effort, Cycle.fresh,
          Channel.all]
  | cons channel remaining =>
      simp only [serve]
      split
      · cases productive <;> cases after <;>
          simp only [Turn.Tires, Turn.effort_run, Control.effort,
            Instruction.effort, Cycle.effort, Cycle.served, List.length_cons,
            Bool.or_false] <;>
          omega
      · rename_i entry dispatcher popped
        have less := Dispatcher.effort_pop popped
        cases productive <;> cases after <;>
          simp [Turn.Tires, Cycle.effort, Cycle.served, record]
        all_goals omega

theorem route_tires (shared : Shared σ ν) (alive : SessionHandle → Bool)
    (stack : List (Frame κ)) (entry : Sequenced Item) (current : Cycle) :
    (shared.route alive stack entry current).Tires shared.dispatcher stack
      (.run (.route entry current)) := by
  simp only [route]
  split
  · split
    · simp only [Turn.Tires, Turn.effort_call, Frame.effort, Control.effort,
        Instruction.effort]
      omega
    · simp only [Turn.Tires, Turn.effort_run, dispatcher_notice,
        dispatcher_count, Dispatcher.effort_count, Control.effort,
        Instruction.effort]
      omega
  · split
    · simp only [Turn.Tires, Turn.effort_call, Frame.effort, Control.effort,
        Instruction.effort]
      omega
    · simp only [Turn.Tires, Turn.effort_run, dispatcher_notice,
        dispatcher_count, Dispatcher.effort_count, Control.effort,
        Instruction.effort]
      omega

theorem check_tires (shared : Shared σ ν) (stack : List (Frame κ)) (idle : Bool)
    (watch : Nat) :
    (shared.check stack idle watch).Tires shared.dispatcher stack
    (.run (.check idle watch)) := by
  have reported :
      shared.reportDepths.dispatcher.effort = shared.dispatcher.effort := rfl
  simp only [check]
  split
  · cases idle <;> simp [Turn.Tires]
  · cases shared.reportDue watch <;> cases idle <;>
      simp [Turn.Tires, reported, Cycle.effort, Cycle.fresh, Channel.all]

/-- What client code asks for adds a fixed amount. -/
theorem perform_tires (client : Client σ κ ν) (shared : Shared σ ν)
    (around : Surroundings) (stack : List (Frame κ)) (request : Request) :
    (shared.perform client around stack request).Tires shared.dispatcher stack
      (.run (.perform request)) := by
  have named := askTypeName_dispatcher client shared
  have refused :
      (Turn.answer shared stack .unavailable).Tires shared.dispatcher stack
      (.run (.perform request)) := by
    cases mild : request.isMild <;> simp [Turn.Tires, mild]
  simp only [perform]
  split
  case h_1 | h_16 => exact refused
  case h_8 => simp [Turn.Tires, Request.isMild, named]
  case h_9 =>
    simp [Turn.Tires, Request.isMild, close, Dispatcher.effort_withStop]
  case h_10 =>
    simp [Turn.Tires, Request.isMild, Cycle.effort, Cycle.fresh, Channel.all]
  case h_11 =>
    simp [Turn.Tires, Request.isMild, requestStop, Dispatcher.effort_withStop]
  case h_12 =>
    simp only [register]
    split <;> simp [Turn.Tires, Request.isMild]
  case h_13 =>
    simp only [unregister]
    split <;> simp [Turn.Tires, Request.isMild]
  case h_14 => simp [Turn.Tires, Turn.effort, Request.isMild, spawn]
  all_goals simp [Turn.Tires, Request.isMild]

theorem launch_tires (client : Client σ κ ν) (shared : Shared σ ν)
    (stack : List (Frame κ)) (task : ThreadId) :
    (shared.launch client stack task).Tires shared.dispatcher stack
    (.run .start) := by
  have dispatcher := launch_dispatcher client shared stack task
  simp only [Turn.Tires, Turn.effort, dispatcher]
  simp [launch]

theorem start_tires (client : Client σ κ ν) {shared : Shared σ ν}
    (around : Surroundings) (stack : List (Frame κ))
    (unlocked : shared.locked = false) :
    (shared.start client around stack).Tires shared.dispatcher stack
    (.run .start) := by
  simp only [locked] at unlocked
  simp only [start]
  split at unlocked
  · rename_i application hosted
    simp only [unlocked, Bool.false_eq_true, ↓reduceIte]
    split
    · exact shared.launch_tires client stack _
    · rename_i task _
      split
      · simp [Turn.Tires]
      · rename_i ending _
        have same :
            (shared.noticeReplaced task ending).dispatcher =
              shared.dispatcher := by
          cases ending <;> rfl
        rw [← same]
        exact launch_tires client _ stack _
  · simp [Turn.Tires]
  · simp [Turn.Tires]

theorem stop_tires {shared : Shared σ ν} (stack : List (Frame κ))
    (unlocked : shared.locked = false) :
    (shared.stop stack).Tires shared.dispatcher stack (.run .stop) := by
  simp only [locked] at unlocked
  simp only [stop]
  split at unlocked
  · simp only [unlocked, Bool.false_eq_true, ↓reduceIte]
    split <;> simp [Turn.Tires]
  · simp [Turn.Tires]
  · simp [Turn.Tires]

theorem awaitTask_tires (client : Client σ κ ν) (shared : Shared σ ν)
    {around : Surroundings} (stack : List (Frame κ)) {task : ThreadId}
    (ended : (around.ending? task).isSome = true) :
    (shared.awaitTask client around stack task).Tires shared.dispatcher stack
      (.run (.awaitTask task)) := by
  rcases Option.isSome_iff_exists.mp ended with ⟨ending, ended⟩
  have unlocked := shared.updateApplication_dispatcher fun application =>
    { application with locked := false, phase := .stopped }
  simp [awaitTask, ended, Turn.Tires, noticeStopped_dispatcher, unlocked]

theorem execute_tires {client : Client σ κ ν}
    (only : client.AsksOnly Request.isMild) {world : World σ κ ν}
    {self : ThreadId} (stack : List (Frame κ)) {instruction : Instruction}
    (ready : world.ready self instruction = true) :
    (world.shared.execute client
      (world.surroundings self) stack instruction).Tires
      world.shared.dispatcher stack (.run instruction) := by
  cases instruction with
  | perform request => exact world.shared.perform_tires client _ stack request
  | call callback =>
      have less :=
        (world.shared.record (.called callback)).clientMove_effort stack
          (some callback) (only.begins callback world.shared.client)
      simp only [Turn.Tires, execute]
      simp at less ⊢
      omega
  | stamp item =>
      have stamped := world.shared.dispatcher.effort_stamp item
      simp [Turn.Tires, execute, stamp, stamped]
  | push item =>
      have pushed := world.shared.dispatcher.effort_push item
      simp [Turn.Tires, execute, push, pushed]
      omega
  | signal entry next =>
      have signalled := world.shared.dispatcher.effort_signal
      simp [Turn.Tires, execute, signal]
      omega
  | cycle current => exact world.shared.serve_tires stack current
  | route entry current => exact world.shared.route_tires _ stack entry current
  | check idle watch => exact world.shared.check_tires stack idle watch
  | await watch =>
      simp only [execute, await]
      split
      · rename_i stored
        have taken := Dispatcher.effort_takePermit stored
        simp [Turn.Tires]
        omega
      · simp [Turn.Tires, Dispatcher.effort, Dispatcher.withWake, Wake.enlist]
  | parked watch =>
      have called :
          world.shared.dispatcher.wake.hasSignalled
            (world.surroundings self).self = true := ready
      have dismissed := Dispatcher.effort_dismiss called
      simp only [execute, parked]
      rw [if_pos called]
      simp [Turn.Tires]
      omega
  | recheck watch =>
      simp only [execute, recheck]
      split <;> simp [Turn.Tires, Cycle.effort, Cycle.fresh, Channel.all]
  | leave =>
      simp only [execute, leave]
      split <;> simp [Turn.Tires, Cycle.effort, Cycle.fresh, Channel.all]
  | create descriptor =>
      simp only [execute, create]
      split <;> simp [Turn.Tires]
      omega
  | insert descriptor stream =>
      simp only [execute, insert]
      split <;> simp [Turn.Tires]
      omega
  | delete descriptor =>
      simp only [execute, delete]
      split <;> simp [Turn.Tires]
      omega
  | remove descriptor stream =>
      simp only [execute, remove]
      split <;> simp [Turn.Tires]
      omega
  | start => exact start_tires client _ stack ((Bool.not_eq_true' _).mp ready)
  | stop => exact stop_tires stack ((Bool.not_eq_true' _).mp ready)
  | awaitTask task => exact awaitTask_tires client _ stack ready
  | join task =>
      rcases Option.isSome_iff_exists.mp ready with ⟨ending, ended⟩
      change (world.surroundings self).ending? task = some ending at ended
      simp [Turn.Tires, execute, join, ended]
  | answer | begin | farewell => simp [Turn.Tires, execute, begin, farewell]

theorem deliver_tires {client : Client σ κ ν}
    (only : client.AsksOnly Request.isMild) (shared : Shared σ ν)
    (stack : List (Frame κ)) {control : Control}
    (arrives : ∀ instruction, control ≠ .run instruction) (frame : Frame κ) :
    (shared.deliver client stack control frame).Tires shared.dispatcher
    (frame :: stack)
      control := by
  have one : control.effort = 1 := by
    cases control with
    | run instruction => exact absurd rfl (arrives instruction)
    | _ => rfl
  have positive := frame.effort_pos
  simp only [deliver]
  split
  case h_1 callback state answer =>
    have less := shared.clientMove_effort stack callback
      (only.resumes state (.answered answer) shared.client)
    simp only [Turn.Tires]
    simp
    omega
  case h_2 callback state payload =>
    have less := shared.clientMove_effort stack callback
      (only.resumes state (.panicked payload) shared.client)
    simp only [Turn.Tires]
    simp
    omega
  case h_8 descriptor reply =>
    simp only [built]
    split
    · simp only [Turn.Tires, Turn.effort_answer, dispatcher_notice,
        stackEffort_cons, Frame.effort, Control.effort]
      omega
    · simp only [Turn.Tires, Turn.effort_run, stackEffort_cons, Frame.effort,
        Control.effort, Instruction.effort]
      omega
  case h_10 descriptor stream reply =>
    simp only [released]
    split
    · simp only [Turn.Tires, Turn.effort_run, stackEffort_cons, Frame.effort,
        Control.effort, Instruction.effort]
      omega
    · simp only [Turn.Tires, Turn.effort_answer, dispatcher_notice,
        stackEffort_cons, Frame.effort, Control.effort]
      omega
  case h_12 =>
    simp only [Turn.Tires, Turn.effort_pass, stackEffort_cons]
    omega
  case h_4 seq kind streamId cycle payload =>
    refine Nat.le_trans
      (Nat.succ_le_succ (Turn.effort_afterLoss _ stack cycle payload)) ?_
    simp
    omega
  case h_7 seq session payload cycle reply =>
    refine Nat.le_trans
      (Nat.succ_le_succ (Turn.effort_afterLoss _ stack cycle payload)) ?_
    simp
    omega
  all_goals
    simp [Turn.Tires, frameSent, packetReceived, packetLost, lost, deleted]
  all_goals omega

end Shared

/-! ## Two threads -/

namespace Thread

/-- What a thread has left to do. -/
def effort (thread : Thread κ) : Nat :=
  stackEffort thread.stack + thread.control.effort

end Thread

namespace World

/-- What two threads have left to do. -/
def effort (world : World σ κ ν) (one other : ThreadId) : Nat :=
  world.shared.dispatcher.effort + (world.threads[one]?).elim 0 Thread.effort +
    (world.threads[other]?).elim 0 Thread.effort

/-- Whether a thread is about to ask for something mild. -/
def asks (world : World σ κ ν) (self : ThreadId) : Bool :=
  (world.threads[self]?).any fun thread => thread.control.asks

variable {client : Client σ κ ν} {world : World σ κ ν} {self : ThreadId}
  {thread : Thread κ}

/-- A thread that can move has something to do. -/
theorem move_tires (only : client.AsksOnly Request.isMild)
    (found : world.threads[self]? = some thread)
    (moves : world.canMove self = true) :
    (world.shared.move client
      (world.surroundings self) thread.stack thread.control).Tires
      world.shared.dispatcher thread.stack thread.control := by
  rcases thread with ⟨role, stack, control⟩
  simp only [canMove, found] at moves
  cases control with
  | run instruction => exact Shared.execute_tires only stack moves
  | _ =>
      cases stack with
      | nil => cases moves
      | cons frame below =>
          exact world.shared.deliver_tires only below
            (fun _ => Control.noConfusion) frame

theorem effort_comm (world : World σ κ ν) (one other : ThreadId) :
    world.effort one other = world.effort other one := by
  simp only [effort]
  omega

/-- A step of one of two threads uses up some of what they have left to do. -/
theorem effort_step (only : client.AsksOnly Request.isMild) {other : ThreadId}
    (differs : other ≠ self) (inside : other < world.threads.length)
    (moves : world.canMove self = true) :
    (world.step client self).effort self other + 1 ≤
      world.effort self other + 36 * (world.asks self).toNat := by
  obtain ⟨thread, found⟩ : ∃ thread, world.threads[self]? = some thread :=
    ⟨_, List.getElem?_eq_getElem (lt_length_of_canMove moves)⟩
  have tires := move_tires only found moves
  rcases step_self client found with ⟨shared, stands⟩
  have waits :
      (world.step client self).threads[other]? = world.threads[other]? := by
    rw [step_of_some found, List.getElem?_eq_getElem inside]
    exact afterTurn_other (List.getElem?_eq_getElem inside) differs _ _
  simp only [effort, asks, shared, stands, waits, found, Option.elim_some,
    Option.any_some, Thread.effort]
  simp only [Turn.Tires, Turn.effort] at tires
  omega

end World

end Switchboard
