import Switchboard.Proofs.Handling

/-!
# Who waits for the wake event

Only three instructions touch the wake event: a signal, the begin of a wait, and
its end.  Every thread that waits or has been signalled is one of the world.
-/

namespace Switchboard

variable {σ κ ν : Type}

/-- Whether a control is one that touches the wake event. -/
def Control.touchesWake : Control → Bool
  | .run (.signal _ _) => true
  | .run (.await _) => true
  | .run (.parked _) => true
  | _ => false

namespace Wake

/-- A thread is waiting for the event, or has been signalled and has not run
since. -/
def Involves (wake : Wake) (thread : ThreadId) : Prop :=
  thread ∈ wake.waiting ∨ thread ∈ wake.signalled

theorem Involves.of_signal {wake : Wake} {thread : ThreadId}
    (involved : wake.signal.Involves thread) : wake.Involves thread := by
  rcases wake with ⟨permit, waiting, signalled⟩
  cases waiting with
  | nil => exact involved
  | cons first rest =>
      rcases involved with waits | called
      · exact .inl (List.mem_cons_of_mem first waits)
      · rcases List.mem_cons.mp called with rfl | before
        · exact .inl List.mem_cons_self
        · exact .inr before

theorem Involves.of_enlist {wake : Wake} {self thread : ThreadId}
    (involved : (wake.enlist self).Involves thread) :
    thread = self ∨ wake.Involves thread := by
  rcases involved with waits | called
  · rcases List.mem_append.mp waits with before | new
    · exact .inr (.inl before)
    · exact .inl (List.mem_singleton.mp new)
  · exact .inr (.inr called)

theorem Involves.of_dismiss {wake : Wake} {self thread : ThreadId}
    (involved : (wake.dismiss self).Involves thread) : wake.Involves thread :=
  involved.imp id List.mem_of_mem_erase

theorem Involves.of_withdraw {wake : Wake} {self thread : ThreadId}
    (involved : (wake.withdraw self).Involves thread) :
    wake.Involves thread := by
  simp only [withdraw] at involved
  split at involved
  · exact involved.of_signal.of_dismiss
  · exact involved.imp List.mem_of_mem_erase id

end Wake

namespace Shared

theorem askTypeName_dispatcher (client : Client σ κ ν) (shared : Shared σ ν) :
    (askTypeName client shared).2.dispatcher = shared.dispatcher := by
  simp only [askTypeName]
  split <;> rfl

theorem updateApplication_dispatcher (shared : Shared σ ν)
    (update : Application → Application) :
    (shared.updateApplication update).dispatcher = shared.dispatcher := by
  simp only [updateApplication]
  split <;> rfl

theorem clientMove_dispatcher (shared : Shared σ ν) (stack : List (Frame κ))
    (callback : Option Callback) (turn : ClientTurn σ κ ν) :
    (shared.clientMove stack callback turn).shared.dispatcher =
      shared.dispatcher := by
  simp only [clientMove]
  cases turn.move <;> cases callback <;> rfl

theorem perform_wake (client : Client σ κ ν) (shared : Shared σ ν)
    (around : Surroundings) (stack : List (Frame κ)) (request : Request) :
    (shared.perform client around stack request).shared.dispatcher.wake =
      shared.dispatcher.wake := by
  simp only [perform]
  split
  case h_8 =>
    exact congrArg Dispatcher.wake (askTypeName_dispatcher client shared)
  case h_12 =>
    simp only [register]
    split <;> rfl
  case h_13 =>
    simp only [unregister]
    split <;> rfl
  all_goals rfl

theorem serve_wake (shared : Shared σ ν) (stack : List (Frame κ))
    (cycle : Cycle) :
    (shared.serve stack cycle).shared.dispatcher.wake =
      shared.dispatcher.wake := by
  simp only [serve]
  split
  · rfl
  · split
    · rfl
    · rename_i popped
      rcases Option.map_eq_some_iff.mp popped with ⟨_, _, equal⟩
      cases equal
      rfl

theorem route_wake (shared : Shared σ ν) (alive : SessionHandle → Bool)
    (stack : List (Frame κ)) (entry : Sequenced Item) (cycle : Cycle) :
    (shared.route alive stack entry cycle).shared.dispatcher.wake =
      shared.dispatcher.wake := by
  simp only [route]
  split
  · split <;> rfl
  · split <;> rfl

theorem launch_dispatcher (client : Client σ κ ν) (shared : Shared σ ν)
    (stack : List (Frame κ)) (task : ThreadId) :
    (shared.launch client stack task).shared.dispatcher =
      shared.dispatcher.withStop false := by
  simp only [launch]
  exact (askTypeName_dispatcher client _).trans
    (updateApplication_dispatcher _ _)

theorem start_wake (client : Client σ κ ν) (shared : Shared σ ν)
    (around : Surroundings) (stack : List (Frame κ)) :
    (shared.start client around stack).shared.dispatcher.wake =
      shared.dispatcher.wake := by
  simp only [start]
  split
  · split
    · rfl
    · split
      · rw [launch_dispatcher]
        rfl
      · split
        · rfl
        · rename_i task _ _ ending _
          rw [launch_dispatcher]
          cases ending <;> rfl
  · rfl
  · rfl

theorem stop_wake (shared : Shared σ ν) (stack : List (Frame κ)) :
    (shared.stop stack).shared.dispatcher.wake = shared.dispatcher.wake := by
  simp only [stop]
  split
  · split
    · rfl
    · split <;> rfl
  · rfl
  · rfl

theorem noticeStopped_dispatcher (client : Client σ κ ν) (shared : Shared σ ν)
    (task : ThreadId) (ending : Ending) :
    (shared.noticeStopped client task ending).dispatcher =
      shared.dispatcher := by
  cases ending with
  | finished => exact askTypeName_dispatcher client shared
  | panicked payload => rfl
  | cancelled => rfl

theorem awaitTask_dispatcher (client : Client σ κ ν) (shared : Shared σ ν)
    (around : Surroundings) (stack : List (Frame κ)) (task : ThreadId) :
    (shared.awaitTask client around stack task).shared.dispatcher =
      shared.dispatcher := by
  simp only [awaitTask]
  split
  · rfl
  · exact (noticeStopped_dispatcher client _ task _).trans
      (updateApplication_dispatcher _ _)

theorem stamp_wake (shared : Shared σ ν) (stack : List (Frame κ))
    (item : Item) :
    (shared.stamp stack item).shared.dispatcher.wake =
      shared.dispatcher.wake := by
  cases item with
  | frame kind descriptor packet =>
      simp only [stamp, Turn.run, Turn.pass, dispatch, Dispatcher.stamp]
      split <;> rfl
  | packet session data => rfl

theorem execute_wake (client : Client σ κ ν) (shared : Shared σ ν)
    (around : Surroundings) (stack : List (Frame κ)) {instruction : Instruction}
    (elsewhere : (Control.run instruction).touchesWake = false) :
    (shared.execute client around stack instruction).shared.dispatcher.wake =
      shared.dispatcher.wake := by
  cases instruction with
  | perform request => exact shared.perform_wake client around stack request
  | call callback =>
      exact congrArg Dispatcher.wake (clientMove_dispatcher _ stack _ _)
  | stamp item => exact shared.stamp_wake stack item
  | signal entry next => exact Bool.noConfusion elsewhere
  | await watch => exact Bool.noConfusion elsewhere
  | parked watch => exact Bool.noConfusion elsewhere
  | cycle cycle => exact shared.serve_wake stack cycle
  | route entry cycle => exact shared.route_wake _ stack entry cycle
  | check idle watch =>
      simp only [execute, check]
      split
      · rfl
      · cases shared.reportDue watch <;> rfl
  | create descriptor =>
      simp only [execute, create]
      split <;> rfl
  | insert descriptor stream =>
      simp only [execute, insert]
      split <;> rfl
  | delete descriptor =>
      simp only [execute, delete]
      split <;> rfl
  | remove descriptor stream =>
      simp only [execute, remove]
      split <;> rfl
  | start => exact shared.start_wake client around stack
  | stop => exact shared.stop_wake stack
  | awaitTask task =>
      exact congrArg Dispatcher.wake
        (shared.awaitTask_dispatcher client around stack task)
  | join task =>
      simp only [execute, join]
      split <;> rfl
  | _ => rfl

theorem deliver_wake (client : Client σ κ ν) (shared : Shared σ ν)
    (stack : List (Frame κ)) (control : Control) (frame : Frame κ) :
    (shared.deliver client stack control frame).shared.dispatcher.wake =
      shared.dispatcher.wake := by
  simp only [deliver]
  split
  case h_1 | h_2 =>
    exact congrArg Dispatcher.wake (clientMove_dispatcher _ _ _ _)
  case h_8 descriptor reply => cases reply.stream <;> rfl
  case h_10 descriptor stream reply => cases reply.accepted <;> rfl
  all_goals rfl

/-- A move that is not about the wake event leaves it alone. -/
theorem move_wake (client : Client σ κ ν) (shared : Shared σ ν)
    (around : Surroundings) (stack : List (Frame κ)) {control : Control}
    (elsewhere : control.touchesWake = false) :
    (shared.move client around stack control).shared.dispatcher.wake =
      shared.dispatcher.wake := by
  simp only [move]
  split
  · exact shared.execute_wake client around stack elsewhere
  · split
    · rfl
    · exact shared.deliver_wake client _ _ _

/-- Only the thread that moves gets in line. -/
theorem involves_of_move {client : Client σ κ ν} {shared : Shared σ ν}
    {around : Surroundings} {stack : List (Frame κ)} {control : Control}
    {thread : ThreadId}
    (involved :
      (shared.move client around stack control).shared.dispatcher.wake.Involves
      thread) :
    thread = around.self ∨ shared.dispatcher.wake.Involves thread := by
  cases touches : control.touchesWake with
  | false =>
      rw [shared.move_wake client around stack touches] at involved
      exact .inr involved
  | true =>
      simp only [Control.touchesWake] at touches
      split at touches
      · exact .inr involved.of_signal
      · simp only [move, execute, await] at involved
        split at involved
        · exact .inr involved
        · exact involved.of_enlist
      · simp only [move, execute, parked] at involved
        split at involved
        · exact .inr involved.of_dismiss
        · exact .inr involved
      · exact Bool.noConfusion touches

end Shared

/-- Whoever waits for the event or has been signalled is a thread of the
world. -/
theorem Reachable.involved_lt {client : Client σ κ ν} {world : World σ κ ν}
    (reachable : Reachable client world) {thread : ThreadId}
    (involved : world.shared.dispatcher.wake.Involves thread) :
    thread < world.threads.length := by
  induction reachable with
  | opening opening =>
      cases opening with
      | application | alone =>
          rcases involved with waits | called
          · exact absurd waits List.not_mem_nil
          · exact absurd called List.not_mem_nil
  | @occur world occurrence reached allowed inductionHypothesis =>
      have becomes := World.after_becomes client allowed
      generalize world.after client occurrence = next at becomes involved
      cases becomes with
      | same => exact inductionHypothesis involved
      | @moved self _ found =>
          have inside := (List.getElem?_eq_some_iff.mp found).1
          simp only [World.afterTurn]
          rw [List.length_append, List.length_set]
          apply Nat.lt_add_right _
          rcases Shared.involves_of_move involved with rfl | before
          · exact inside
          · exact inductionHypothesis before
      | asked | handed | abandoned =>
          rw [World.put, List.length_set]
          exact inductionHypothesis involved
      | waited millis => exact inductionHypothesis involved
      | stopAbandoned found waits =>
          rw [World.put, List.length_set]
          apply inductionHypothesis
          rw [World.put, Shared.updateApplication_dispatcher] at involved
          exact involved
      | cancelledFirst found =>
          rw [World.put, List.length_set]
          exact inductionHypothesis involved
      | cancelledParked found =>
          rw [World.put, List.length_set]
          exact inductionHypothesis involved.of_withdraw

end Switchboard
