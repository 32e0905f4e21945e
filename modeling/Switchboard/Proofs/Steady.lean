import Switchboard.Proofs.Errands

/-!
# An application between two operations

Two callers use an application on a single processor: the first starts and stops
it, the second does everything else.  Between two operations the application is
stopped or running, or a stop waits for the task; all threads stand on empty
stacks, and the wake event suits the task.  Deliveries and settling keep it so.
-/

namespace Switchboard

variable {σ κ ν : Type}

/-- What has become of an application so far. -/
inductive Mode where
  | stopped
  | running
  | stopping
  deriving DecidableEq

/-- What is done with an application, other than starting and stopping it: the
second caller asks for a delivery or runs client code, time passes, or
everything moves until it rests. -/
inductive Operation (κ : Type) where
  | deliver (request : Request)
  | hand (code : κ)
  | wait (millis : Nat)
  | settle

namespace World

/-- An operation that is carried out to its end. -/
def Performs (client : Client σ κ ν) (world : World σ κ ν) :
    Operation κ → World σ κ ν → Prop
  | .deliver request, after =>
      request.isDelivery = true ∧
        (∃ limit, after = (world.request 1 request).finish client limit 1) ∧
        after.atRest 1 = true
  | .hand code, after =>
      (∃ limit, after = (world.hand 1 code).finish client limit 1) ∧
        after.atRest 1 = true
  | .wait millis, after => after = world.wait millis
  | .settle, after =>
      (∃ limit, after = world.settle client limit) ∧ after.rests client = true

/-- All threads stand on empty stacks, and all but the busy ones have ended. -/
def IsQuiet (world : World σ κ ν) (busy : List ThreadId) : Prop :=
  ∀ (id : ThreadId) (thread : Thread κ), world.threads[id]? = some thread →
    thread.stack = [] ∧ (id ∉ busy → thread.ending?.isSome = true)

/-- What holds between two operations.  A task that a stop waits for has been
signalled if it was waiting. -/
inductive InMode (world : World σ κ ν) : Mode → Prop
  | stopped {application : Application}
      (hosted : world.shared.host = .application application)
      (worker : application.worker = none)
      (unlocked : application.locked = false) (quiet : world.IsQuiet [])
      (wake : world.shared.dispatcher.wake.Suits world.shared.IsDrained .away) :
      InMode world .stopped
  | running {application : Application} {task : ThreadId} {thread : Thread κ}
      (hosted : world.shared.host = .application application)
      (worker : application.worker = some task)
      (unlocked : application.locked = false) (quiet : world.IsQuiet [task])
      (beyond : 1 < task) (found : world.threads[task]? = some thread)
      (lowered : world.shared.dispatcher.stopRequested = false)
      (waits : thread.control = .run .begin ∨
        ∃ watch, thread.control = .run (.parked watch))
      (wake : world.shared.dispatcher.wake.Suits world.shared.IsDrained
        (thread.control.posture task)) :
      InMode world .running
  | stopping {application : Application} {task : ThreadId}
      {keeper thread : Thread κ}
      (hosted : world.shared.host = .application application)
      (worker : application.worker = none) (quiet : world.IsQuiet [0, task])
      (beyond : 1 < task) (keeps : world.threads[0]? = some keeper)
      (awaits : keeper.control = .run (.awaitTask task))
      (found : world.threads[task]? = some thread)
      (raised : world.shared.dispatcher.stopRequested = true) (leaves :
        (thread.control = .run .begin ∧
            world.shared.dispatcher.wake.Suits world.shared.IsDrained .away) ∨
          ∃ watch, thread.control = .run (.parked watch) ∧
            world.shared.dispatcher.wake.Suits world.shared.IsDrained
              (.summoned task)) :
      InMode world .stopping

/-- An application between two operations, with two callers, that does not drain
its queues when it is stopped. -/
structure Steady (world : World σ κ ν) (mode : Mode) : Prop where
  callers : 2 ≤ world.threads.length
  undrained : world.shared.settings.drainOnStop = false
  mode : world.InMode mode

variable {world after : World σ κ ν} {mode : Mode}

theorem InMode.isHosted (inMode : world.InMode mode) :
    world.shared.IsHosted := by
  cases inMode with
  | stopped hosted | running hosted | stopping hosted => exact ⟨_, hosted⟩

theorem InMode.stack (inMode : world.InMode mode) {id : ThreadId}
    {thread : Thread κ} (found : world.threads[id]? = some thread) :
    thread.stack = [] := by
  cases inMode with
  | stopped hosted worker unlocked quiet => exact (quiet id thread found).1
  | running hosted worker unlocked quiet => exact (quiet id thread found).1
  | stopping hosted worker quiet => exact (quiet id thread found).1

theorem InMode.suits (inMode : world.InMode mode) :
    ∃ posture,
      world.shared.dispatcher.wake.Suits world.shared.IsDrained posture := by
  cases inMode with
  | stopped _ _ _ _ wake => exact ⟨_, wake⟩
  | running _ _ _ _ _ _ _ _ wake => exact ⟨_, wake⟩
  | stopping _ _ _ _ _ _ _ _ leaves =>
      rcases leaves with ⟨_, wake⟩ | ⟨_, _, wake⟩
      · exact ⟨_, wake⟩
      · exact ⟨_, wake⟩

/-- A world is as quiet as another if all threads but one are the same, and that
one is as quiet. -/
theorem IsQuiet.of_others {busy : List ThreadId} (quiet : world.IsQuiet busy)
    {self : ThreadId}
    (others : ∀ other ≠ self, after.threads[other]? = world.threads[other]?)
    (own : ∀ thread, after.threads[self]? = some thread →
      thread.stack = [] ∧ (self ∉ busy → thread.ending?.isSome = true)) :
    after.IsQuiet busy := by
  intro id thread found
  by_cases same : id = self
  · rw [same] at found ⊢
    exact own thread found
  · rw [others id same] at found
    exact quiet id thread found

/-- A thread that has ended is not busy any more. -/
theorem IsQuiet.of_ended {first task : ThreadId} {ending : Ending}
    (quiet : world.IsQuiet [first, task])
    (ended : world.ending? task = some ending) :
    world.IsQuiet [first] := by
  intro id thread found
  constructor
  · exact (quiet id thread found).1
  · intro idle
    by_cases same : id = task
    · rw [ending?, ← same, found, Option.bind_some] at ended
      exact Option.isSome_of_eq_some ended
    · apply (quiet id thread found).2
      intro member
      rcases List.mem_cons.mp member with rfl | last
      · exact idle List.mem_cons_self
      · exact same (List.mem_singleton.mp last)

/-! ## Deliveries -/

/-- Nothing but the queues and the wake event has changed for the task. -/
theorem InMode.served (inMode : world.InMode mode)
    (others : ∀ other ≠ 1, after.threads[other]? = world.threads[other]?)
    (ended : ∀ thread, after.threads[1]? = some thread →
      thread.ending?.isSome = true)
    (remains : world.shared.Remains after.shared)
    (wakes : ∀ posture,
      world.shared.dispatcher.wake.Suits world.shared.IsDrained posture →
      after.shared.dispatcher.wake.Suits after.shared.IsDrained posture) :
    after.InMode mode := by
  have own {busy : List ThreadId} (thread : Thread κ)
      (found : after.threads[1]? = some thread) :
      thread.stack = [] ∧ (1 ∉ busy → thread.ending?.isSome = true) :=
    ⟨(Thread.isSome_ending?_iff.mp (ended thread found)).1,
      fun _ => ended thread found⟩
  cases inMode with
  | stopped hosted worker unlocked quiet wake =>
      exact .stopped (remains.host.trans hosted) worker unlocked
        (quiet.of_others others own) (wakes _ wake)
  | running hosted worker unlocked quiet beyond found lowered waits wake =>
      exact .running (remains.host.trans hosted) worker unlocked
        (quiet.of_others others own)
        beyond ((others _ (Nat.ne_of_gt beyond)).trans found)
        (remains.stopRequested.trans lowered) waits (wakes _ wake)
  | stopping hosted worker quiet beyond keeps awaits found raised leaves =>
      refine .stopping (remains.host.trans hosted) worker
        (quiet.of_others others own) beyond
        ((others 0 Nat.zero_ne_one).trans keeps) awaits
        ((others _ (Nat.ne_of_gt beyond)).trans found)
        (remains.stopRequested.trans raised) ?_
      rcases leaves with ⟨first, wake⟩ | ⟨watch, parked, wake⟩
      · exact .inl ⟨first, wakes _ wake⟩
      · exact .inr ⟨watch, parked, wakes _ wake⟩

/-- The second caller moves before all tasks, and the first has ended or
waits. -/
theorem Steady.visited (steady : world.Steady mode) :
    Visited σ ν world.threads 1 where
  inside := steady.callers
  silent other thread _ found := steady.mode.stack found
  first role turn other before := by
    obtain rfl : other = 0 := Nat.lt_one_iff.mp before
    have stands :
        (seat world.threads 1 role turn).threads[0]? = world.threads[0]? :=
      seat_other Nat.zero_ne_one role turn
    have still {busy : List ThreadId} (quiet : world.IsQuiet busy)
        (idle : 0 ∉ busy) :
        (seat world.threads 1 role turn).canMove 0 = false :=
      (still_of_ended
        fun keeper found => (quiet 0 keeper (stands.symm.trans found)).2 idle).1
    cases steady.mode with
    | stopped hosted worker unlocked quiet => exact still quiet List.not_mem_nil
    | running hosted worker unlocked quiet beyond =>
        apply still quiet
        intro member
        rw [← List.mem_singleton.mp member] at beyond
        exact Nat.not_lt_zero 1 beyond
    | stopping hosted worker quiet beyond keeps awaits found raised leaves =>
        have found' := (seat_other (Nat.ne_of_gt beyond) role turn).trans found
        apply canMove_of_awaits (stands.trans keeps) awaits
        rcases leaves with ⟨runs, _⟩ | ⟨watch, runs, _⟩
        · exact ending?_of_run found' runs
        · exact ending?_of_run found' runs

end World

/-- A caller at the begin of a delivery. -/
structure Turn.Begins (origin : Shared σ ν) (turn : Turn σ κ ν) : Prop where
  shared : turn.shared = origin
  stack : List.Forall₂ (Frame.Matches false) turn.stack turn.stack
  control : turn.control.Matches Request.isDelivery false turn.control
  fits : turn.Fits

theorem Turn.Begins.serves {origin : Shared σ ν} {turn : Turn σ κ ν}
    (begins : turn.Begins origin) {posture : Posture}
    (suits : origin.dispatcher.wake.Suits origin.IsDrained posture) :
    turn.Serves posture origin := by
  rcases begins with ⟨rfl, stack, control, fits⟩
  exact ⟨.refl _, stack, control, fits, suits.imp .inl⟩

namespace World

variable {client : Client σ κ ν} {world after : World σ κ ν} {mode : Mode}

/-- A delivery keeps an application between two operations. -/
theorem Steady.visit (steady : world.Steady mode) (only : client.OnlyDelivers)
    {role : Role} {turn : Turn σ κ ν} (begins : turn.Begins world.shared)
    (run : Progress client (·.atRest 1)
      (seat world.threads 1 role turn) after) :
    after.Steady mode := by
  have hosted := steady.mode.isHosted
  have visited := steady.visited
  have finished {posture : Posture}
      (suits : world.shared.dispatcher.wake.Suits
        world.shared.IsDrained posture) :=
    (begins.serves suits).finish visited only hosted run
  rcases steady.mode.suits with ⟨posture, suits⟩
  rcases finished suits with ⟨last, stands, ended, remains, _⟩
  have shared : after.shared = last.shared := congrArg World.shared stands
  rw [← shared] at remains
  refine ⟨?_, remains.settings ▸ steady.undrained,
    steady.mode.served ?_ ?_ remains ?_⟩
  · rw [stands, seat, List.length_set]
    exact steady.callers
  · intro other differs
    rw [stands, seat_other differs]
  · intro thread found
    rw [stands, seat_self visited.inside] at found
    rw [← Option.some.inj found]
    exact Thread.isSome_ending?_iff.mpr ended
  · intro posture suits
    rcases finished suits with ⟨last, stands, _, _, wake⟩
    rw [stands]
    exact wake

/-- What both callers that begin with the same leave behind is alike. -/
theorem Steady.visit_alike {other after' : World σ κ ν} {mode' : Mode}
    (steady : world.Steady mode) (steady' : other.Steady mode')
    (only : client.OnlyDelivers) {role role' : Role} {turn turn' : Turn σ κ ν}
    (begins : turn.Begins world.shared) (begins' : turn'.Begins other.shared)
    (same : turn.Matches Request.isDelivery false turn')
    (run : Progress client (·.atRest 1) (seat world.threads 1 role turn) after)
    (run' : Progress client (·.atRest 1)
      (seat other.threads 1 role' turn') after') :
    after.shared.Alike after'.shared := by
  rcases steady.mode.suits with ⟨posture, suits⟩
  rcases steady'.mode.suits with ⟨posture', suits'⟩
  exact same.finish (begins.serves suits) (begins'.serves suits') steady.visited
    steady'.visited only steady.mode.isHosted steady'.mode.isHosted run run'

/-! ## Operations -/

theorem request_eq_seat {caller : ThreadId} {thread : Thread κ}
    (found : world.threads[caller]? = some thread) (empty : thread.stack = [])
    (request : Request) :
    world.request caller request =
      seat world.threads caller thread.role
        ⟨world.shared, [], .run (.perform request), false⟩ := by
  simp only [World.request]
  rw [setThread_of_some _ found, ← empty]
  rfl

theorem hand_eq_seat {caller : ThreadId} {thread : Thread κ}
    (found : world.threads[caller]? = some thread) (code : κ) :
    world.hand caller code =
      seat world.threads caller thread.role
        ⟨world.shared, [.client none code], .answer .done, false⟩ := by
  simp only [hand]
  rw [setThread_of_some _ found]
  rfl

theorem begins_deliver (shared : Shared σ ν) {request : Request}
    (delivery : request.isDelivery = true) :
    Turn.Begins shared
      (⟨shared, [], .run (.perform request), false⟩ : Turn σ κ ν) :=
  ⟨rfl, .nil, .run (.perform delivery (Request.isMild_of_isDelivery delivery)),
    trivial⟩

theorem begins_hand (shared : Shared σ ν) (code : κ) :
    Turn.Begins shared
      (⟨shared, [.client none code], .answer .done, false⟩ : Turn σ κ ν) :=
  ⟨rfl, .cons (.client none code) .nil, .answer (.same .done), rfl⟩

/-- The second caller, which is there and stands on an empty stack. -/
theorem Steady.exists_caller (steady : world.Steady mode) :
    ∃ thread, world.threads[1]? = some thread ∧ thread.stack = [] :=
  have found := List.getElem?_eq_getElem (l := world.threads) steady.callers
  ⟨_, found, steady.mode.stack found⟩

theorem Steady.wait (steady : world.Steady mode) (millis : Nat) :
    (world.wait millis).Steady mode := by
  refine ⟨steady.callers, steady.undrained, ?_⟩
  cases steady.mode with
  | stopped hosted worker unlocked quiet wake =>
      exact .stopped hosted worker unlocked quiet wake
  | running hosted worker unlocked quiet beyond found lowered waits wake =>
      exact .running hosted worker unlocked quiet beyond found
        lowered waits wake
  | stopping hosted worker quiet beyond keeps awaits found raised leaves =>
      exact .stopping hosted worker quiet beyond keeps awaits found
        raised leaves

/-- Nobody but the task of a running application has anything left to do. -/
theorem IsQuiet.attended {task : ThreadId} {thread : Thread κ}
    (quiet : world.IsQuiet [task])
    (found : world.threads[task]? = some thread) :
    Attended world.threads task where
  inside := (List.getElem?_eq_some_iff.mp found).1
  others other silent differs stands :=
    (quiet other silent stands).2 fun member =>
      differs (List.mem_singleton.mp member)

/-- A running application that has settled has routed everything and runs on,
unless a panic has left a cycle. -/
theorem Steady.settle (steady : world.Steady .running)
    (only : client.OnlyDelivers)
    (run : Progress client (rests client) world after)
    (calm : ¬ after.shared.Escaped) :
    after.Steady .running ∧ after.shared.IsDrained := by
  cases steady.mode with
  | @running application task thread hosted worker unlocked quiet beyond found
      lowered waits
      wake =>
      have attended := quiet.attended found
      let turn : Turn σ κ ν :=
        ⟨world.shared, thread.stack, thread.control, false⟩
      have stands : turn.Stands task :=
        ⟨(quiet task thread found).1, waits, wake⟩
      have still := canMove_of_rests run.halts_final task
      rw [eq_seat found false] at run
      obtain ⟨last, rfl, tends, _⟩ :=
        stands.tends.run (fun _ => True) attended only
          ⟨application, hosted⟩ lowered (fun _ _ _ => trivial) run trivial
      obtain ⟨empty, drained, waiting, signalled, watch, parked⟩ :=
        tends.parked attended.inside still calm
      have remains := tends.remains
      have others : ∀ other ≠ task,
          (seat world.threads task thread.role last).threads[other]? =
          world.threads[other]? := fun other differs => seat_other differs _ _
      refine ⟨⟨?_, remains.settings ▸ steady.undrained, ?_⟩, drained⟩
      · rw [seat, List.length_set]
        exact steady.callers
      · refine .running (remains.host.trans hosted) worker unlocked
          (quiet.of_others others ?_) beyond (seat_self attended.inside _ _)
          (remains.stopRequested.trans lowered) (.inr ⟨watch, parked⟩) ?_
        · intro thread found
          rw [seat_self attended.inside] at found
          cases found
          exact ⟨empty, fun idle => absurd (List.mem_singleton.mpr rfl) idle⟩
        · dsimp only
          rw [parked]
          exact .inl ⟨waiting, signalled, drained⟩

/-- Two running applications in alike states settle in alike states. -/
theorem Steady.settle_alike {other after' : World σ κ ν}
    (steady : world.Steady .running) (steady' : other.Steady .running)
    (only : client.OnlyDelivers) (alike : world.shared.Alike other.shared)
    (run : Progress client (rests client) world after)
    (run' : Progress client (rests client) other after') :
    after.shared.Alike after'.shared := by
  cases steady.mode with
  | @running application task thread hosted worker unlocked quiet beyond found
      lowered waits
      wake =>
      cases steady'.mode with
      | @running application' task' thread' hosted' worker' unlocked' quiet'
          beyond' found'
          lowered' waits' wake' =>
          let turn : Turn σ κ ν :=
            ⟨world.shared, thread.stack, thread.control, false⟩
          let turn' : Turn σ κ ν :=
            ⟨other.shared, thread'.stack, thread'.control, false⟩
          have stands : turn.Stands task :=
            ⟨(quiet task thread found).1, waits, wake⟩
          have stands' : turn'.Stands task' :=
            ⟨(quiet' task' thread' found').1, waits', wake'⟩
          rw [eq_seat found false] at run
          rw [eq_seat found' false] at run'
          exact stands.settle stands' alike (quiet.attended found)
            (quiet'.attended found') only
            ⟨application, hosted⟩
            ⟨application', hosted'⟩ lowered lowered' run run'

/-- An operation keeps an application between two operations, and settling
leaves nothing in the queues. -/
theorem Steady.perform (steady : world.Steady mode) (only : client.OnlyDelivers)
    {operation : Operation κ} (performs : world.Performs client operation after)
    (runs : operation = .settle → mode = .running)
    (calm : ¬ after.shared.Escaped) :
    after.Steady mode ∧ (operation = .settle → after.shared.IsDrained) := by
  rcases steady.exists_caller with ⟨thread, found, empty⟩
  cases operation with
  | deliver request =>
      rcases performs with ⟨delivery, ⟨limit, finished⟩, rests⟩
      rw [request_eq_seat found empty] at finished
      exact ⟨steady.visit only (begins_deliver _ delivery)
        (finish_progress finished rests), fun same => by cases same⟩
  | hand code =>
      rcases performs with ⟨⟨limit, finished⟩, rests⟩
      rw [hand_eq_seat found] at finished
      exact ⟨steady.visit only (begins_hand _ code)
        (finish_progress finished rests), fun same => by cases same⟩
  | wait millis =>
      obtain rfl : after = world.wait millis := performs
      exact ⟨steady.wait millis, fun same => by cases same⟩
  | settle =>
      rcases performs with ⟨⟨limit, settled⟩, rests⟩
      obtain rfl := runs rfl
      rcases steady.settle only (settle_progress settled rests) calm with
        ⟨steady', drained⟩
      exact ⟨steady', fun _ => drained⟩

/-- The same operation in alike states leads to alike states. -/
theorem Steady.perform_alike {other after' : World σ κ ν} {mode' : Mode}
    (steady : world.Steady mode) (steady' : other.Steady mode')
    (only : client.OnlyDelivers) (alike : world.shared.Alike other.shared)
    {operation : Operation κ} (performs : world.Performs client operation after)
    (performs' : other.Performs client operation after')
    (runs : operation = .settle → mode = .running ∧ mode' = .running) :
    after.shared.Alike after'.shared := by
  rcases steady.exists_caller with ⟨thread, found, empty⟩
  rcases steady'.exists_caller with ⟨thread', found', empty'⟩
  cases operation with
  | deliver request =>
      rcases performs with ⟨delivery, ⟨limit, finished⟩, rests⟩
      rcases performs' with ⟨_, ⟨limit', finished'⟩, rests'⟩
      rw [request_eq_seat found empty] at finished
      rw [request_eq_seat found' empty'] at finished'
      exact steady.visit_alike steady' only (begins_deliver _ delivery)
        (begins_deliver _ delivery)
        ⟨alike, .nil,
          .run (.perform delivery (Request.isMild_of_isDelivery delivery))⟩
        (finish_progress finished rests) (finish_progress finished' rests')
  | hand code =>
      rcases performs with ⟨⟨limit, finished⟩, rests⟩
      rcases performs' with ⟨⟨limit', finished'⟩, rests'⟩
      rw [hand_eq_seat found] at finished
      rw [hand_eq_seat found'] at finished'
      exact steady.visit_alike steady' only (begins_hand _ code)
        (begins_hand _ code)
        ⟨alike, .cons (.client none code) .nil, .answer (.same .done)⟩
        (finish_progress finished rests) (finish_progress finished' rests')
  | wait millis =>
      obtain rfl : after = world.wait millis := performs
      obtain rfl : after' = other.wait millis := performs'
      exact ⟨alike.identity, alike.settings, alike.registry, alike.queues,
        alike.counters, alike.client, alike.journal⟩
  | settle =>
      rcases performs with ⟨⟨limit, settled⟩, rests⟩
      rcases performs' with ⟨⟨limit', settled'⟩, rests'⟩
      rcases runs rfl with ⟨rfl, rfl⟩
      exact steady.settle_alike steady' only alike
        (settle_progress settled rests) (settle_progress settled' rests')

end World

end Switchboard
