import Switchboard.Proofs.Handling

/-!
# What a dispatch task relies on

Before a wait, at it, and in a cycle of the loop that has found nothing yet, a
task relies on what it has seen of the queues.  The inductive predicate
`Watches` lists the moves that lead there.  Only a task makes them: a thread
that was not spawned has nothing of the dispatch loop on it.
-/

namespace Switchboard

variable {σ κ ν : Type}

/-- Whether a task that has got to a control relies on what it has seen. -/
def Control.watches : Control → Bool
  | .run .begin | .run (.check true _) | .run (.await _) | .run (.parked _) =>
      true
  | .run (.cycle ⟨_, false, .loop _⟩) => true
  | _ => false

/-- How a task comes to a control at which it relies on what it has seen.  A
cycle that has just begun has seen nothing, and relies on nothing. -/
inductive Watches (shared : Shared σ ν) (self : ThreadId)
    (stack : List (Frame κ)) :
    Control → Turn σ κ ν → Prop
  | begins : Watches shared self stack (.run .begin) (shared.begin stack)
  | rests (watch : Nat) :
      Watches shared self stack (.run (.cycle ⟨[], false, .loop watch⟩))
        (.run shared stack (.check true watch))
  | skips {channel : Channel} (remaining : List Channel) (watch : Nat)
      (empty : (shared.dispatcher.queues.get channel).entries = []) :
      Watches shared self stack
        (.run (.cycle ⟨channel :: remaining, false, .loop watch⟩))
        (.run shared stack (.cycle ⟨remaining, false, .loop watch⟩))
  | turns {shared' : Shared σ ν} (watch watch' : Nat)
      (lowered : shared.dispatcher.stopRequested = false)
      (same : shared' = shared ∨ shared' = shared.reportDepths) :
      Watches shared self stack (.run (.check true watch))
        (.run shared' stack (.await watch'))
  | parks (watch : Nat) (absent : shared.dispatcher.wake.permit = false) :
      Watches shared self stack (.run (.await watch))
        (.run (shared.dispatch (·.withWake (·.enlist self))) stack
          (.parked watch))
  | stays (watch : Nat)
      (silent : shared.dispatcher.wake.hasSignalled self = false) :
      Watches shared self stack (.run (.parked watch))
        (.run shared stack (.parked watch))
  | looks {control : Control} {turn : Turn σ κ ν} (watch : Nat)
      (fresh : turn.control = .run (.cycle (.fresh (.loop watch)))) :
      Watches shared self stack control turn
  | elsewhere {control : Control} {turn : Turn σ κ ν}
      (away : turn.control.watches = false) :
      Watches shared self stack control turn

namespace Control

/-- A cycle that has found something, or that is not one of the loop, relies on
nothing. -/
theorem watches_cycle {cycle : Cycle}
    (free : cycle.productive = true ∨ ∀ watch, cycle.after ≠ .loop watch) :
    (Control.run (.cycle cycle)).watches = false := by
  rcases cycle with ⟨remaining, productive, after⟩
  cases productive with
  | true => cases after <;> rfl
  | false =>
      cases after with
      | loop watch =>
          rcases free with productive | free
          · exact Bool.noConfusion productive
          · exact absurd rfl (free watch)
      | answer | drain => rfl

end Control

theorem Cycle.watches_afterLoss {cycle : Cycle}
    (productive : cycle.productive = true) (payload : Payload) :
    (cycle.afterLoss payload).watches = false :=
  cycle.afterLoss_rec payload (Control.watches_cycle (.inl productive))
    fun _ => rfl

namespace Shared

theorem clientMove_watches (shared : Shared σ ν) (stack : List (Frame κ))
    (callback : Option Callback) (turn : ClientTurn σ κ ν) :
    (shared.clientMove stack callback turn).control.watches = false := by
  simp only [clientMove]
  cases turn.move <;> rfl

theorem perform_watches (client : Client σ κ ν) (shared : Shared σ ν)
    (around : Surroundings) (stack : List (Frame κ)) (request : Request) :
    (shared.perform client around stack request).control.watches = false := by
  simp only [perform]
  split
  case h_12 =>
    simp only [register]
    split <;> rfl
  case h_13 =>
    simp only [unregister]
    split <;> rfl
  all_goals rfl

theorem start_watches (client : Client σ κ ν) (shared : Shared σ ν)
    (around : Surroundings) (stack : List (Frame κ)) :
    (shared.start client around stack).control.watches = false := by
  simp only [start]
  split
  · split
    · rfl
    · split
      · rfl
      · split <;> rfl
  · rfl
  · rfl

theorem stop_watches (shared : Shared σ ν) (stack : List (Frame κ)) :
    (shared.stop stack).control.watches = false := by
  simp only [stop]
  split
  · split
    · rfl
    · split <;> rfl
  · rfl
  · rfl

theorem serve_watches (shared : Shared σ ν) (self : ThreadId)
    (stack : List (Frame κ)) (cycle : Cycle) :
    Watches shared self stack (.run (.cycle cycle))
      (shared.serve stack cycle) := by
  rcases cycle with ⟨remaining, productive, after⟩
  cases remaining with
  | nil =>
      simp only [serve]
      cases after with
      | answer => exact .elsewhere rfl
      | loop watch =>
          cases productive with
          | true => exact .elsewhere rfl
          | false => exact .rests watch
      | drain => cases productive <;> exact .elsewhere rfl
  | cons channel remaining =>
      simp only [serve]
      split
      · rename_i empty
        have none :=
          (Queue.pop?_eq_none_iff _).mp (Option.map_eq_none_iff.mp empty)
        cases after with
        | loop watch =>
            cases productive with
            | true => exact .elsewhere rfl
            | false =>
                exact .skips remaining watch (List.length_eq_zero_iff.mp none)
        | answer | drain => cases productive <;> exact .elsewhere rfl
      · exact .elsewhere rfl

theorem route_watches (shared : Shared σ ν) (alive : SessionHandle → Bool)
    (stack : List (Frame κ)) (entry : Sequenced Item) {cycle : Cycle}
    (productive : cycle.productive = true) :
    (shared.route alive stack entry cycle).control.watches = false := by
  simp only [route]
  split
  · split
    · rfl
    · exact Control.watches_cycle (.inl productive)
  · split
    · rfl
    · exact Control.watches_cycle (.inl productive)

theorem check_watches (shared : Shared σ ν) (self : ThreadId)
    (stack : List (Frame κ)) (idle : Bool) (watch : Nat) :
    Watches shared self stack (.run (.check idle watch))
      (shared.check stack idle watch) := by
  simp only [check]
  split
  · exact .elsewhere rfl
  · rename_i lowered
    rw [Bool.not_eq_true] at lowered
    cases idle with
    | true =>
        cases shared.reportDue watch
        · exact .turns _ _ lowered (.inl rfl)
        · exact .turns _ _ lowered (.inr rfl)
    | false => exact .looks _ rfl

theorem execute_watches (client : Client σ κ ν) (shared : Shared σ ν)
    (around : Surroundings) {stack : List (Frame κ)} {instruction : Instruction}
    (fits : instruction.Fits stack) :
    Watches shared around.self stack (.run instruction)
      (shared.execute client around stack instruction) := by
  cases instruction with
  | perform request =>
      exact .elsewhere (shared.perform_watches client around stack request)
  | call callback => exact .elsewhere (clientMove_watches _ _ _ _)
  | signal entry next =>
      rcases fits with ⟨⟨answer, rfl⟩ | ⟨task, rfl⟩, _⟩
      · exact .elsewhere rfl
      · exact .elsewhere rfl
  | cycle cycle => exact shared.serve_watches around.self stack cycle
  | route entry cycle =>
      exact .elsewhere (shared.route_watches _ stack entry fits.1)
  | begin => exact .begins
  | check idle watch => exact shared.check_watches around.self stack idle watch
  | await watch =>
      simp only [execute, await]
      split
      · exact .elsewhere rfl
      · rename_i absent
        exact .parks watch (Bool.not_eq_true _ ▸ absent)
  | parked watch =>
      simp only [execute, parked]
      split
      · exact .elsewhere rfl
      · rename_i silent
        exact .stays watch (Bool.not_eq_true _ ▸ silent)
  | recheck watch =>
      simp only [execute, recheck]
      split
      · exact .elsewhere rfl
      · exact .looks watch rfl
  | leave =>
      simp only [execute, leave]
      split
      · exact .elsewhere rfl
      · exact .elsewhere rfl
  | create descriptor =>
      simp only [execute, create]
      split <;> exact .elsewhere rfl
  | insert descriptor stream =>
      simp only [execute, insert]
      split <;> exact .elsewhere rfl
  | delete descriptor =>
      simp only [execute, delete]
      split <;> exact .elsewhere rfl
  | remove descriptor stream =>
      simp only [execute, remove]
      split <;> exact .elsewhere rfl
  | start => exact .elsewhere (shared.start_watches client around stack)
  | stop => exact .elsewhere (shared.stop_watches stack)
  | awaitTask task =>
      simp only [execute, awaitTask]
      split <;> exact .elsewhere rfl
  | join task =>
      simp only [execute, join]
      split <;> exact .elsewhere rfl
  | _ => exact .elsewhere rfl

/-- A cycle whose frame is on top when something arrives has found an item. -/
theorem productive_of_fits {control : Control} {frame : Frame κ}
    {stack : List (Frame κ)}
    (arrives : ∀ instruction, control ≠ .run instruction)
    (fits : control.Fits (frame :: stack)) {cycle : Cycle}
    (waits : frame.cycle? = some cycle) : cycle.productive = true := by
  have unanswered (answered : Expected.answer.Fits (frame :: stack)) :
      False := by
    obtain ⟨state, rfl, _⟩ | ⟨callback, state, rfl, _⟩ :=
      Expected.answer_fits_cons_iff.mp answered
    · cases waits
    · cases waits
  have replied {callback : Callback}
      (fits : (Expected.reply callback).Fits (frame :: stack)) :
      cycle.productive = true := by
    have below := (Expected.reply_fits_cons_iff.mp fits).2
    rw [waits] at below
    exact below.1
  cases control with
  | run instruction => exact absurd rfl (arrives instruction)
  | answer answer => exact (unanswered fits).elim
  | reply reply =>
      rcases fits with empty | ⟨callback, fits⟩
      · exact absurd empty (List.cons_ne_nil _ _)
      · exact replied fits
  | raise payload =>
      rcases fits with answered | ⟨callback, fits⟩
      · exact (unanswered answered).elim
      · exact replied fits
  | cancelled => exact absurd fits (List.cons_ne_nil _ _)

theorem deliver_watches (client : Client σ κ ν) (shared : Shared σ ν)
    {stack : List (Frame κ)} {frame : Frame κ} {control : Control}
    (arrives : ∀ instruction, control ≠ .run instruction)
    (fits : control.Fits (frame :: stack)) :
    (shared.deliver client stack control frame).control.watches = false := by
  have productive {cycle : Cycle} (waits : frame.cycle? = some cycle) :
      cycle.productive = true :=
    productive_of_fits arrives fits waits
  simp only [deliver]
  split
  case h_1 | h_2 => exact clientMove_watches _ _ _ _
  case h_3 | h_5 => exact Control.watches_cycle (.inl (productive rfl))
  case h_4 | h_7 => exact Cycle.watches_afterLoss (productive rfl) _
  case h_8 descriptor reply => cases reply.stream <;> rfl
  case h_10 descriptor stream reply => cases reply.accepted <;> rfl
  case h_12 =>
    cases control with
    | run instruction => exact absurd rfl (arrives instruction)
    | _ => rfl
  all_goals rfl

/-- A move leads to a control at which a task relies on what it has seen only in
the ways that are listed. -/
theorem move_watches (client : Client σ κ ν) (shared : Shared σ ν)
    (around : Surroundings) {stack : List (Frame κ)} {control : Control}
    (fits : control.Fits stack) :
    Watches shared around.self stack control
      (shared.move client around stack control) := by
  simp only [move]
  split
  · exact shared.execute_watches client around fits
  · rename_i arrives
    apply Watches.elsewhere
    split
    · cases control with
      | run instruction => exact absurd rfl (arrives instruction)
      | _ => rfl
    · exact shared.deliver_watches client arrives fits

end Shared

/-! ## Threads that were not spawned -/

/-- Whether a cycle is one of the loop or of the drain after it. -/
def Cycle.isLoop (cycle : Cycle) : Bool :=
  match cycle.after with
  | .answer => false
  | .loop _ | .drain => true

/-- Whether a control is one of a dispatch task itself. -/
def Control.isLoop : Control → Bool
  | .run .begin | .run (.check _ _) | .run (.await _) | .run (.parked _) | .run
      (.recheck _)
  | .run .leave | .run .farewell => true
  | .run (.cycle current) | .run (.route _ current) => current.isLoop
  | _ => false

theorem Cycle.isLoop_afterLoss {cycle : Cycle} (aside : cycle.isLoop = false)
    (payload : Payload) : (cycle.afterLoss payload).isLoop = false :=
  cycle.afterLoss_rec payload aside fun _ => rfl

/-- Whether a frame waits on behalf of a dispatch task itself. -/
def Frame.isLoop (frame : Frame κ) : Bool :=
  frame.cycle?.any Cycle.isLoop

/-- Nothing of a dispatch task is on a stack or about to run above it. -/
structure Control.IsOutside (stack : List (Frame κ)) (control : Control) :
    Prop where
  frames : ∀ frame ∈ stack, frame.isLoop = false
  control : control.isLoop = false

/-- A turn after which nothing of a dispatch task is there. -/
def Turn.IsOutside (turn : Turn σ κ ν) : Prop :=
  turn.control.IsOutside turn.stack

/-- A frame that is not the task's own may stand above others. -/
theorem Frame.isLoop_cons {frame : Frame κ} {stack : List (Frame κ)}
    (aside : frame.isLoop = false)
    (frames : ∀ frame ∈ stack, frame.isLoop = false) :
    ∀ other ∈ frame :: stack, other.isLoop = false :=
  List.forall_mem_cons.mpr ⟨aside, frames⟩

namespace Shared

section

variable {stack : List (Frame κ)}
  (frames : ∀ frame ∈ stack, frame.isLoop = false)

include frames

theorem clientMove_isOutside (shared : Shared σ ν) (callback : Option Callback)
    (turn : ClientTurn σ κ ν) :
    (shared.clientMove stack callback turn).IsOutside := by
  simp only [clientMove]
  cases turn.move with
  | perform request next => exact ⟨Frame.isLoop_cons rfl frames, rfl⟩
  | finish reply => exact ⟨frames, rfl⟩
  | panic payload => exact ⟨frames, rfl⟩

theorem perform_isOutside (client : Client σ κ ν) (shared : Shared σ ν)
    (around : Surroundings) (request : Request) :
    (shared.perform client around stack request).IsOutside := by
  simp only [perform]
  split
  case h_12 =>
    simp only [register]
    split <;> exact ⟨frames, rfl⟩
  case h_13 =>
    simp only [unregister]
    split <;> exact ⟨frames, rfl⟩
  all_goals exact ⟨frames, rfl⟩

theorem start_isOutside (client : Client σ κ ν) (shared : Shared σ ν)
    (around : Surroundings) : (shared.start client around stack).IsOutside := by
  simp only [start]
  split
  · split
    · exact ⟨frames, rfl⟩
    · split
      · exact ⟨frames, rfl⟩
      · split <;> exact ⟨frames, rfl⟩
  · exact ⟨frames, rfl⟩
  · exact ⟨frames, rfl⟩

theorem stop_isOutside (shared : Shared σ ν) :
    (shared.stop stack).IsOutside := by
  simp only [stop]
  split
  · split
    · exact ⟨frames, rfl⟩
    · split <;> exact ⟨frames, rfl⟩
  · exact ⟨frames, rfl⟩
  · exact ⟨frames, rfl⟩

theorem serve_isOutside (shared : Shared σ ν) {cycle : Cycle}
    (aside : cycle.isLoop = false) : (shared.serve stack cycle).IsOutside := by
  simp only [serve]
  split
  · rcases cycle with ⟨remaining, productive, after⟩
    cases after with
    | answer => exact ⟨frames, rfl⟩
    | loop watch => cases aside
    | drain => cases aside
  · split
    · exact ⟨frames, aside⟩
    · exact ⟨frames, aside⟩

theorem route_isOutside (shared : Shared σ ν) (alive : SessionHandle → Bool)
    (entry : Sequenced Item) {cycle : Cycle} (aside : cycle.isLoop = false) :
    (shared.route alive stack entry cycle).IsOutside := by
  simp only [route]
  split
  · split
    · exact ⟨Frame.isLoop_cons aside frames, rfl⟩
    · exact ⟨frames, aside⟩
  · split
    · exact ⟨Frame.isLoop_cons aside frames, rfl⟩
    · exact ⟨frames, aside⟩

theorem execute_isOutside (client : Client σ κ ν) (shared : Shared σ ν)
    (around : Surroundings) {instruction : Instruction}
    (fits : instruction.Fits stack)
    (aside : (Control.run instruction).isLoop = false) :
    (shared.execute client around stack instruction).IsOutside := by
  cases instruction with
  | perform request =>
      exact perform_isOutside frames client shared around request
  | call callback => exact clientMove_isOutside frames _ _ _
  | signal entry next =>
      rcases fits with ⟨⟨answer, rfl⟩ | ⟨task, rfl⟩, _⟩
      · exact ⟨frames, rfl⟩
      · exact ⟨frames, rfl⟩
  | cycle current => exact serve_isOutside frames shared aside
  | route entry current => exact route_isOutside frames shared _ entry aside
  | begin | check | await | parked | recheck | leave | farewell => cases aside
  | create descriptor =>
      simp only [execute, create]
      split
      · exact ⟨frames, rfl⟩
      · exact ⟨Frame.isLoop_cons rfl frames, rfl⟩
  | insert descriptor stream =>
      simp only [execute, insert]
      split
      · exact ⟨Frame.isLoop_cons rfl frames, rfl⟩
      · exact ⟨frames, rfl⟩
  | delete descriptor =>
      simp only [execute, delete]
      split
      · exact ⟨frames, rfl⟩
      · exact ⟨Frame.isLoop_cons rfl frames, rfl⟩
  | remove descriptor stream =>
      simp only [execute, remove]
      split
      · exact ⟨frames, rfl⟩
      · exact ⟨Frame.isLoop_cons rfl frames, rfl⟩
  | start => exact start_isOutside frames client shared around
  | stop => exact stop_isOutside frames shared
  | awaitTask task =>
      simp only [execute, awaitTask]
      split <;> exact ⟨frames, rfl⟩
  | join task =>
      simp only [execute, join]
      split <;> exact ⟨frames, rfl⟩
  | _ => exact ⟨frames, rfl⟩

end

theorem deliver_isOutside (client : Client σ κ ν) (shared : Shared σ ν)
    {stack : List (Frame κ)} {frame : Frame κ} {control : Control}
    (outside : control.IsOutside (frame :: stack)) :
    (shared.deliver client stack control frame).IsOutside := by
  rcases List.forall_mem_cons.mp outside.frames with ⟨aside, frames⟩
  simp only [deliver]
  split
  case h_1 | h_2 => exact clientMove_isOutside frames shared _ _
  case h_3 | h_5 => exact ⟨frames, aside⟩
  case h_4 | h_7 => exact ⟨frames, Cycle.isLoop_afterLoss aside _⟩
  case h_6 => exact ⟨Frame.isLoop_cons aside frames, rfl⟩
  case h_8 descriptor reply => cases reply.stream <;> exact ⟨frames, rfl⟩
  case h_10 descriptor stream reply => cases reply.accepted <;>
    exact ⟨frames, rfl⟩
  case h_12 => exact ⟨frames, outside.control⟩
  all_goals exact ⟨frames, rfl⟩

/-- A thread on which nothing of a dispatch task is does not get there by a
move. -/
theorem move_isOutside (client : Client σ κ ν) (shared : Shared σ ν)
    (around : Surroundings) {stack : List (Frame κ)} {control : Control}
    (fits : control.Fits stack) (outside : control.IsOutside stack) :
    (shared.move client around stack control).IsOutside := by
  simp only [move]
  split
  · exact execute_isOutside outside.frames client shared around fits
      outside.control
  · split
    · exact outside
    · exact shared.deliver_isOutside client outside

end Shared

/-- On a caller of a reachable world there is nothing of a dispatch task. -/
theorem Reachable.isOutside {client : Client σ κ ν} {world : World σ κ ν}
    (reachable : Reachable client world) {thread : Thread κ}
    (member : thread ∈ world.threads) (caller : thread.role = .caller) :
    thread.control.IsOutside thread.stack := by
  suffices all : ∀ thread ∈ world.threads, thread.role = .caller →
      thread.control.IsOutside thread.stack from all thread member caller
  have nothing : ∀ frame ∈ ([] : List (Frame κ)), frame.isLoop = false :=
    List.forall_mem_nil _
  clear member
  induction reachable with
  | opening opening =>
      cases opening with
      | application | alone =>
          intro thread member _
          rw [List.eq_of_mem_replicate member]
          exact ⟨nothing, rfl⟩
  | @occur world occurrence reached allowed inductionHypothesis =>
      refine (World.after_becomes client allowed).forall_threads
        inductionHypothesis
        ?_ ?_ ?_ ?_ ?_ ?_
      · intro self thread _ found outside turn caller
        exact Shared.move_isOutside client _ _
          (reached.fits thread (List.mem_of_getElem? found)) (outside caller)
      · exact fun task => by cases task
      · intro thread request free _
        rw [Thread.stack_of_isFree free]
        exact ⟨nothing, rfl⟩
      · intro thread code free _
        exact ⟨Frame.isLoop_cons rfl nothing, rfl⟩
      · intro thread instruction waits which outside caller
        exact ⟨(outside caller).frames, rfl⟩
      · exact fun task => by cases task

end Switchboard
