import Switchboard.Proofs.Steady

/-!
# Starts and stops make no difference to deliveries

A stop signals the task, which leaves its loop without a look at the queues; the
next start spawns a task that has a permit if anything waits.  Two runs with the
same operations therefore deliver the same, wherever they are stopped and
started in between, as long as both are running whenever everything is left to
settle.
-/

namespace Switchboard

variable {σ κ ν : Type}

namespace Shared

theorem updateApplication_alike (shared : Shared σ ν)
    (update : Application → Application) :
    shared.Alike (shared.updateApplication update) := by
  simp only [updateApplication]
  split <;> exact ⟨rfl, rfl, rfl, rfl, rfl, rfl, rfl⟩

/-- The question for the display name leaves the slot alone. -/
theorem askTypeName_host (client : Client σ κ ν) {shared : Shared σ ν}
    {application : Application}
    (hosted : shared.host = .application application) :
    ∃ asked, (askTypeName client shared).2.host = .application asked ∧
      asked.worker = application.worker ∧
        asked.locked = application.locked := by
  unfold askTypeName
  rw [hosted]
  refine ⟨_, rfl, ?_⟩
  split <;> exact ⟨rfl, rfl⟩

/-- A new task fills the slot, and nothing else that matters to deliveries
changes. -/
theorem launch_alike (client : Client σ κ ν) (shared : Shared σ ν)
    (stack : List (Frame κ)) (task : ThreadId) :
    shared.Alike (shared.launch client stack task).shared := by
  have lowered : shared.Alike (shared.dispatch (·.withStop false)) :=
    ⟨rfl, rfl, rfl, rfl, rfl, rfl, rfl⟩
  have filled := lowered.trans (updateApplication_alike _ fun application =>
    { application with worker := some task, phase := .running })
  have named := filled.trans (askTypeName_alike client _)
  exact named.trans ⟨rfl, rfl, rfl, rfl, rfl, rfl, rfl⟩

theorem launch_host (client : Client σ κ ν) {shared : Shared σ ν}
    (stack : List (Frame κ)) (task : ThreadId) {application : Application}
    (hosted : shared.host = .application application) :
    ∃ started,
      (shared.launch client stack task).shared.host = .application started ∧
      started.worker = some task ∧ started.locked = application.locked := by
  have filled :
      ((shared.dispatch (·.withStop false)).updateApplication fun application =>
        { application with worker := some task, phase := .running }).host =
        .application { application with worker := some task, phase :=
          .running } := by
    simp only [updateApplication, dispatch]
    rw [hosted]
  exact askTypeName_host client filled

end Shared

namespace World

/-- The first caller starts an application, asks for a stop and moves until it
waits for the task, or waits until the task has ended.  A stopped application
may also be left to rest. -/
inductive Switches (client : Client σ κ ν) : World σ κ ν → Mode →
    World σ κ ν → Mode → Prop
  | start {world after : World σ κ ν} {limit : Nat}
      (finished : after = (world.request 0 .start).finish client limit 0)
      (rests : after.atRest 0 = true) :
      Switches client world .stopped after .running
  | halt {world after : World σ κ ν} {limit : Nat}
      (finished :
        after = (world.request 0 .stop).runUntil client
          (fun world => !world.canMove 0) limit)
      (waits : after.canMove 0 = false) :
      Switches client world .running after .stopping
  | join {world after : World σ κ ν} {limit : Nat}
      (finished : after = world.finish client limit 0)
      (rests : after.atRest 0 = true) :
      Switches client world .stopping after .stopped
  | rest {world after : World σ κ ν} {limit : Nat}
      (settled : after = world.settle client limit)
      (rests : after.rests client = true) :
      Switches client world .stopped after .stopped

variable {client : Client σ κ ν} {world after : World σ κ ν} {mode mode' : Mode}

/-- The first caller moves before everybody else. -/
theorem advance?_keeper (client : Client σ κ ν)
    (moves : world.canMove 0 = true) :
    world.advance? client = some (world.step client 0) :=
  advance?_of_first client moves fun other before =>
    absurd before (Nat.not_lt_zero other)

theorem Steady.exists_keeper (steady : world.Steady mode) :
    ∃ thread, world.threads[0]? = some thread ∧ thread.stack = [] :=
  have found := List.getElem?_eq_getElem (l := world.threads)
    (Nat.lt_of_lt_of_le Nat.zero_lt_two steady.callers)
  ⟨_, found, steady.mode.stack found⟩

/-- Nothing moves in a stopped application. -/
theorem Steady.rest (steady : world.Steady .stopped)
    (run : Progress client (rests client) world after) : after = world := by
  cases steady.mode with
  | stopped hosted worker unlocked quiet wake =>
      have still (id : ThreadId) : world.canMove id = false ∧
          world.waitsInVain id = false :=
        still_of_ended fun thread found =>
          (quiet id thread found).2 List.not_mem_nil
      exact run.eq_of_halts
        (rests_of_still client (fun id => (still id).1) fun id => (still id).2)

/-- The first caller goes on with an instruction. -/
theorem keeper_onward {halts : World σ κ ν → Bool} {threads : List (Thread κ)}
    {role : Role} {turn next : Turn σ κ ν} (inside : 0 < threads.length)
    (goes : halts (seat threads 0 role turn) = false)
    (moves : (seat threads 0 role turn).canMove 0 = true)
    (turns : turn.shared.move client
      ((seat threads 0 role turn).surroundings 0) turn.stack
      turn.control = next)
    (unspawned : next.spawned = false)
    (run : Progress client halts (seat threads 0 role turn) after) :
    Progress client halts (seat threads 0 role next) after :=
  run.onward goes
    ((advance?_keeper client moves).trans
      (congrArg some (seat_step client inside turns unspawned)))

theorem atRest_of_run {threads : List (Thread κ)} {role : Role}
    {turn : Turn σ κ ν} (inside : 0 < threads.length)
    {instruction : Instruction} (runs : turn.control = .run instruction) :
    (seat threads 0 role turn).atRest 0 = false := by
  rw [Bool.eq_false_iff, ne_eq, atRest_seat_iff inside]
  exact fun stands => stands.2 instruction runs

/-- A caller finds the slot open. -/
theorem canMove_of_unlocked {threads : List (Thread κ)} {role : Role}
    {turn : Turn σ κ ν} {application : Application}
    (inside : 0 < threads.length)
    (hosted : turn.shared.host = .application application)
    (unlocked : application.locked = false)
    (asks : turn.control = .run .start ∨ turn.control = .run .stop) :
    (seat threads 0 role turn).canMove 0 = true := by
  have opened : (seat threads 0 role turn).shared.locked = false := by
    change turn.shared.locked = false
    rw [Shared.locked, hosted]
    exact unlocked
  rcases asks with runs | runs
  · rw [canMove_of_run inside runs]
    dsimp only [ready]
    rw [opened]
    rfl
  · rw [canMove_of_run inside runs]
    dsimp only [ready]
    rw [opened]
    rfl

/-- A start finds the slot empty, and the caller has its answer at once. -/
theorem eq_afterTurn_of_start {application : Application} {role : Role}
    (inside : 0 < world.threads.length)
    (hosted : world.shared.host = .application application)
    (worker : application.worker = none) (unlocked : application.locked = false)
    (run : Progress client (·.atRest 0)
      (seat world.threads 0 role ⟨world.shared, [], .run (.perform .start),
        false⟩) after) :
    let asked := seat world.threads 0 role (.run world.shared [] .start)
    after = asked.afterTurn 0 role
      (world.shared.launch client [] (asked.surroundings 0).fresh) := by
  let asking : Turn σ κ ν := .run world.shared [] .start
  have run :
      Progress client (·.atRest 0)
        (seat world.threads 0 role asking) after := by
    refine keeper_onward inside (atRest_of_run inside rfl) ?_ ?_ rfl run
    · rw [canMove_of_run inside rfl]
      rfl
    · simp only [Shared.move, Shared.execute, Shared.perform, hosted]
      rfl
  intro asked
  let turn :=
    world.shared.launch client ([] : List (Frame κ))
      (asked.surroundings 0).fresh
  have launches : asked.step client 0 = asked.afterTurn 0 role turn := by
    rw [step_of_some (seat_self inside role asking)]
    apply congrArg _
    simp only [asking, Turn.run, Turn.pass, seat, Shared.move, Shared.execute,
      Shared.start, hosted, unlocked, worker, Bool.false_eq_true, ↓reduceIte]
    rfl
  have moves : asked.canMove 0 = true :=
    canMove_of_unlocked inside hosted unlocked (.inl rfl)
  have run := run.onward (atRest_of_run inside rfl)
    ((advance?_keeper client moves).trans (congrArg some launches))
  have caller := afterTurn_self (seat_self inside role asking) role turn
  have rested : (asked.afterTurn 0 role turn).atRest 0 = true := by
    rw [atRest, ending?, caller]
    rfl
  exact run.eq_of_halts rested

/-- A start fills the slot of a stopped application with a task that will look
at what waits. -/
theorem Steady.start (steady : world.Steady .stopped) {role : Role}
    (run : Progress client (·.atRest 0)
      (seat world.threads 0 role ⟨world.shared, [], .run (.perform .start),
        false⟩) after) :
    after.Steady .running ∧ world.shared.Alike after.shared := by
  have inside : 0 < world.threads.length :=
    Nat.lt_of_lt_of_le Nat.zero_lt_two steady.callers
  cases steady.mode with
  | @stopped application hosted worker unlocked quiet wake =>
      rw [eq_afterTurn_of_start inside hosted worker unlocked run]
      let around :=
        (seat world.threads 0 role (.run world.shared [] .start)).surroundings 0
      let turn := world.shared.launch client ([] : List (Frame κ)) around.fresh
      obtain ⟨started, host, filled, open'⟩ :=
        Shared.launch_host client ([] : List (Frame κ)) around.fresh hosted
      have alike :=
        world.shared.launch_alike client ([] : List (Frame κ)) around.fresh
      have dispatcher :=
        Shared.launch_dispatcher client world.shared ([] : List (Frame κ))
        around.fresh
      have fresh : around.fresh = world.threads.length := List.length_set
      refine ⟨⟨?_, ?_, .running host filled (open'.trans unlocked) ?_ ?_
        (afterTurn_spawned rfl) ?_ (.inl rfl) ?_⟩, alike⟩
      · simp only [afterTurn]
        rw [List.length_append, List.length_set, seat, List.length_set]
        exact Nat.le_add_right_of_le steady.callers
      · change turn.shared.settings.drainOnStop = false
        rw [← alike.settings]
        exact steady.undrained
      · intro id stood found
        rcases afterTurn_cases found with
          ⟨_, rfl⟩ | ⟨differs, found⟩ | ⟨_, rfl, rfl⟩
        · exact ⟨rfl, fun _ => rfl⟩
        · rw [seat_other differs] at found
          exact ⟨(quiet id stood found).1,
            fun _ => (quiet id stood found).2 List.not_mem_nil⟩
        · exact ⟨rfl, fun idle => absurd (List.mem_singleton.mpr rfl) idle⟩
      · rw [fresh]
        exact steady.callers
      · change turn.shared.dispatcher.stopRequested = false
        rw [dispatcher]
        rfl
      · change turn.shared.dispatcher.wake.Suits turn.shared.IsDrained .away
        rw [dispatcher]
        exact wake.imp alike.isDrained

/-- A stop empties and locks the slot, raises the flag, and signals the task
before it waits for it. -/
theorem awaits_of_stop {application : Application} {task : ThreadId}
    {role : Role} (inside : 0 < world.threads.length)
    (hosted : world.shared.host = .application application)
    (worker : application.worker = some task)
    (unlocked : application.locked = false)
    (run : Progress client (fun world => !world.canMove 0)
      (seat world.threads 0 role ⟨world.shared, [], .run (.perform .stop),
        false⟩) after) :
    let stopped : Application :=
      { application with worker := none, locked := true, phase :=
        .stopRequested }
    let raised : Shared σ ν :=
      ({ world.shared with host := .application stopped }).dispatch
        (·.withStop true)
    Progress client (fun world => !world.canMove 0)
      (seat world.threads 0 role
        (.run (raised.dispatch .signal) [] (.awaitTask task))) after := by
  intro stopped raised
  have onward {turn next : Turn σ κ ν}
      (moves : (seat world.threads 0 role turn).canMove 0 = true)
      (turns : turn.shared.move client
        ((seat world.threads 0 role turn).surroundings 0)
        turn.stack turn.control = next)
      (unspawned : next.spawned = false)
      (run : Progress client (fun world => !world.canMove 0)
        (seat world.threads 0 role turn) after) :
      Progress client (fun world => !world.canMove 0)
        (seat world.threads 0 role next) after :=
    keeper_onward inside (by rw [moves]; rfl) moves turns unspawned run
  let asking : Turn σ κ ν := .run world.shared [] .stop
  let raising : Turn σ κ ν := .run raised [] (.signal none (.awaitTask task))
  have run : Progress client (fun world => !world.canMove 0)
      (seat world.threads 0 role asking) after := by
    refine onward ?_ ?_ rfl run
    · rw [canMove_of_run inside rfl]
      rfl
    · simp only [Shared.move, Shared.execute, Shared.perform, hosted]
      rfl
  have run : Progress client (fun world => !world.canMove 0)
      (seat world.threads 0 role raising) after := by
    refine onward
      (canMove_of_unlocked inside hosted unlocked (.inr rfl)) ?_ rfl run
    simp only [asking, Turn.run, Turn.pass, Shared.move, Shared.execute,
      Shared.stop, hosted, unlocked, worker, Bool.false_eq_true, ↓reduceIte]
    rfl
  refine onward ?_ rfl rfl run
  rw [canMove_of_run inside rfl]
  rfl

/-- A stop of a running application signals the task and routes nothing. -/
theorem Steady.halt (steady : world.Steady .running) {role : Role}
    (run : Progress client (fun world => !world.canMove 0)
      (seat world.threads 0 role ⟨world.shared, [], .run (.perform .stop),
        false⟩) after) :
    after.Steady .stopping ∧ world.shared.Alike after.shared := by
  have inside : 0 < world.threads.length :=
    Nat.lt_of_lt_of_le Nat.zero_lt_two steady.callers
  cases steady.mode with
  | @running application task thread hosted worker unlocked quiet beyond found
      lowered waits
      wake =>
      have run := awaits_of_stop inside hosted worker unlocked run
      -- The task has not ended, so that the caller waits.
      have keeps (turn : Turn σ κ ν) := seat_self inside role turn
      have stands (turn : Turn σ κ ν) :=
        (seat_other (Nat.ne_of_gt (Nat.lt_trans Nat.zero_lt_one beyond)) role
          turn).trans found
      have lasts (turn : Turn σ κ ν) :
          (seat world.threads 0 role turn).ending? task = none := by
        rcases waits with runs | ⟨watch, runs⟩
        · exact ending?_of_run (stands turn) runs
        · exact ending?_of_run (stands turn) runs
      rw [run.eq_of_halts
        (by rw [canMove_of_awaits (keeps _) rfl (lasts _)]; rfl)]
      refine ⟨⟨?_, steady.undrained,
        .stopping rfl rfl ?_ beyond (keeps _) rfl (stands _) rfl ?_⟩,
        ⟨rfl, rfl, rfl, rfl, rfl, rfl, rfl⟩⟩
      · rw [seat, List.length_set]
        exact steady.callers
      · have quiet' : world.IsQuiet [0, task] := fun id thread found =>
          ⟨(quiet id thread found).1, fun idle =>
            (quiet id thread found).2 fun busy =>
              idle (List.mem_cons_of_mem 0 busy)⟩
        refine quiet'.of_others (fun other differs => seat_other differs role _)
          fun thread found => ?_
        rw [keeps] at found
        cases found
        exact ⟨rfl, fun idle => absurd List.mem_cons_self idle⟩
      · rcases waits with runs | ⟨watch, runs⟩
        · rw [runs] at wake
          exact .inl ⟨runs, wake.signal _⟩
        · rw [runs] at wake
          exact .inr ⟨watch, runs, wake.summon⟩

end World

/-! ## The end of a task -/

/-- Whether a task is on its way out of its loop, but not at a wait. -/
def Control.isLeaving : Control → Bool
  | .run .begin | .run (.check true _) | .run
      (.recheck _) | .run .leave | .run .farewell =>
      true
  | _ => false

/-- A task that has been told to stop, since the state `origin`: it is on its
way out, it has been signalled at a wait, or it has ended. -/
structure Turn.Leaves (task : ThreadId) (origin : Shared σ ν)
    (turn : Turn σ κ ν) : Prop where
  empty : turn.stack = []
  alike : origin.Alike turn.shared
  host : turn.shared.host = origin.host
  raised : turn.shared.dispatcher.stopRequested = true
  wake :
    ((turn.control.isLeaving = true ∨ turn.control = .answer .done) ∧
        turn.shared.dispatcher.wake.Suits turn.shared.IsDrained .away) ∨
      ∃ watch, turn.control = .run (.parked watch) ∧
        turn.shared.dispatcher.wake.Suits turn.shared.IsDrained (.summoned task)

/-- A task that has been told to stop leaves without a look at the queues. -/
theorem Turn.Leaves.move (client : Client σ κ ν) {origin : Shared σ ν}
    {turn : Turn σ κ ν} (around : Surroundings)
    (undrained : origin.settings.drainOnStop = false)
    (leaves : turn.Leaves around.self origin)
    (lasts : turn.control ≠ .answer .done) :
    let next := turn.shared.move client around turn.stack turn.control
    next.Leaves around.self origin ∧ next.spawned = false := by
  rcases leaves with ⟨empty, alike, host, raised, wake⟩
  rw [empty]
  rcases wake with ⟨leaving, wake⟩ | ⟨watch, runs, waiting, signalled, clear⟩
  · have leaving := leaving.resolve_right lasts
    generalize turn.control = control at leaving
    simp only [Control.isLeaving] at leaving
    split at leaving
    · exact ⟨⟨rfl, alike.trans ⟨rfl, rfl, rfl, rfl, rfl, rfl, rfl⟩,
        host, raised, .inl ⟨.inl rfl, wake⟩⟩, rfl⟩
    · simp only [Shared.move, Shared.execute, Shared.check, raised, ↓reduceIte]
      exact ⟨⟨rfl, alike, host, raised, .inl ⟨.inl rfl, wake⟩⟩, rfl⟩
    · simp only [Shared.move, Shared.execute, Shared.recheck,
        raised, ↓reduceIte]
      exact ⟨⟨rfl, alike, host, raised, .inl ⟨.inl rfl, wake⟩⟩, rfl⟩
    · have undrained' : turn.shared.settings.drainOnStop = false :=
        alike.settings ▸ undrained
      simp only [Shared.move, Shared.execute, Shared.leave, undrained',
        Bool.false_eq_true, ↓reduceIte]
      exact ⟨⟨rfl, alike, host, raised, .inl ⟨.inl rfl, wake⟩⟩, rfl⟩
    · exact ⟨⟨rfl, alike.trans ⟨rfl, rfl, rfl, rfl, rfl, rfl, rfl⟩,
        host, raised, .inl ⟨.inr rfl, wake⟩⟩, rfl⟩
    · cases leaving
  · have called := Wake.hasSignalled_of_eq signalled
    rw [runs]
    simp only [Shared.move, Shared.execute, Shared.parked, called, ↓reduceIte]
    refine ⟨⟨rfl, alike.trans ⟨rfl, rfl, rfl, rfl, rfl, rfl, rfl⟩, host, raised,
      .inl ⟨.inl rfl, waiting, ?_, clear⟩⟩, rfl⟩
    change turn.shared.dispatcher.wake.signalled.erase around.self = []
    rw [signalled, List.erase_cons_head]

/-- A task that has been told to stop and has not ended can move. -/
theorem Turn.Leaves.canMove {threads : List (Thread κ)} {task : ThreadId}
    {origin : Shared σ ν} {turn : Turn σ κ ν} (leaves : turn.Leaves task origin)
    (role : Role) (inside : task < threads.length)
    (lasts : turn.control ≠ .answer .done) :
    (∃ instruction, turn.control = .run instruction) ∧
      (World.seat threads task role turn).canMove task = true := by
  rcases leaves.wake with ⟨leaving, _⟩ | ⟨watch, runs, _, signalled, _⟩
  · have leaving := leaving.resolve_right lasts
    generalize control : turn.control = control at leaving
    simp only [Control.isLeaving] at leaving
    split at leaving
    case h_6 => cases leaving
    all_goals
      constructor
      · exact ⟨_, rfl⟩
      · rw [World.canMove_of_run inside control]
        rfl
  · constructor
    · exact ⟨_, runs⟩
    · rw [World.canMove_of_run inside runs]
      exact Wake.hasSignalled_of_eq signalled

namespace Shared

/-- A stop that finds the task ended unlocks the slot. -/
theorem awaitTask_finished (client : Client σ κ ν) {shared : Shared σ ν}
    {around : Surroundings} (stack : List (Frame κ)) {task : ThreadId}
    {application : Application}
    (hosted : shared.host = .application application)
    (ended : around.ending? task = some .finished) :
    ∃ after freed,
      shared.awaitTask client around stack task =
        .answer after stack (.concluded (Failure.ofEnding task .finished)) ∧
      shared.Alike after ∧ after.dispatcher = shared.dispatcher ∧
      after.host = .application freed ∧ freed.worker = application.worker ∧
      freed.locked = false := by
  let unlocked := shared.updateApplication fun application =>
    { application with locked := false, phase := .stopped }
  have opened : unlocked.host =
      .application { application with locked := false, phase := .stopped } := by
    simp only [unlocked, updateApplication, hosted]
  rcases askTypeName_host client opened with ⟨freed, host, worker, locked⟩
  refine ⟨noticeStopped client unlocked task .finished, freed, ?_, ?_, ?_, host,
    worker, locked⟩
  · simp only [awaitTask]
    rw [ended]
  · exact (shared.updateApplication_alike _).trans
      ((askTypeName_alike client unlocked).trans
        ⟨rfl, rfl, rfl, rfl, rfl, rfl, rfl⟩)
  · exact (askTypeName_dispatcher client unlocked).trans
      (shared.updateApplication_dispatcher _)

end Shared

namespace World

variable {client : Client σ κ ν} {world after : World σ κ ν} {mode mode' : Mode}

/-- A caller who waits for a task that has ended comes to know, and unlocks the
slot. -/
theorem joined {application : Application} {task : ThreadId} {keeper : Thread κ}
    (callers : 2 ≤ world.threads.length)
    (undrained : world.shared.settings.drainOnStop = false)
    (hosted : world.shared.host = .application application)
    (worker : application.worker = none) (quiet : world.IsQuiet [0])
    (keeps : world.threads[0]? = some keeper)
    (awaits : keeper.control = .run (.awaitTask task))
    (ended : world.ending? task = some .finished)
    (wake : world.shared.dispatcher.wake.Suits world.shared.IsDrained .away)
    (run : Progress client (·.atRest 0) world after) :
    after.Steady .stopped ∧ world.shared.Alike after.shared := by
  have inside : 0 < world.threads.length :=
    Nat.lt_of_lt_of_le Nat.zero_lt_two callers
  have calls := eq_seat keeps false
  rw [(quiet 0 keeper keeps).1, awaits] at calls
  obtain ⟨freed, application', awaited, alike, dispatcher, host, worker',
    unlocked⟩ :=
    Shared.awaitTask_finished client ([] : List (Frame κ)) hosted
      (show (world.surroundings 0).ending? task = some .finished from ended)
  have run : Progress client (·.atRest 0)
      (seat world.threads 0 keeper.role
        (.answer freed [] (.concluded (Failure.ofEnding task .finished))))
          after := by
    rw [calls] at run
    refine keeper_onward inside (atRest_of_run inside rfl) ?_ ?_ rfl run
    · rw [canMove_of_run inside rfl, ← calls]
      dsimp only [ready]
      rw [ended]
      rfl
    · rw [← calls]
      exact awaited
  rw [run.eq_of_halts
    ((atRest_seat_iff inside).mpr ⟨rfl, fun _ => Control.noConfusion⟩)]
  refine ⟨⟨?_, ?_, .stopped host (worker'.trans worker) unlocked ?_ ?_⟩, alike⟩
  · rw [seat, List.length_set]
    exact callers
  · change freed.settings.drainOnStop = false
    rw [← alike.settings]
    exact undrained
  · intro id thread found
    by_cases same : id = 0
    · rw [same, seat_self inside] at found
      cases found
      exact ⟨rfl, fun _ => rfl⟩
    · rw [seat_other same] at found
      have idle := quiet id thread found
      exact ⟨idle.1,
        fun _ => idle.2 fun member => same (List.mem_singleton.mp member)⟩
  · change freed.dispatcher.wake.Suits freed.IsDrained .away
    rw [dispatcher]
    exact wake.imp alike.isDrained

/-- A caller waits for a task, and everybody else has ended: nobody moves before
it. -/
theorem canMove_of_quiet {task : ThreadId} {keeper : Thread κ}
    (quiet : world.IsQuiet [0, task]) (keeps : world.threads[0]? = some keeper)
    (awaits : keeper.control = .run (.awaitTask task))
    (lasts : world.ending? task = none) (other : ThreadId)
    (before : other < task) : world.canMove other = false := by
  by_cases same : other = 0
  · rw [same]
    exact canMove_of_awaits keeps awaits lasts
  · refine (still_of_ended
      fun thread found => (quiet other thread found).2 ?_).1
    exact List.not_mem_cons_of_ne_of_not_mem same fun member =>
      Nat.ne_of_lt before (List.mem_singleton.mp member)

/-- A stop waits until the task has left, which routes nothing. -/
theorem Steady.join (steady : world.Steady .stopping)
    (run : Progress client (·.atRest 0) world after) :
    after.Steady .stopped ∧ world.shared.Alike after.shared := by
  cases steady.mode with
  | @stopping application task keeper thread hosted worker quiet beyond keeps
      awaits found
      raised leaves =>
      have differs : 0 ≠ task :=
        Nat.ne_of_lt (Nat.lt_trans Nat.zero_lt_one beyond)
      have inside := (List.getElem?_eq_some_iff.mp found).1
      let leaving (current : World σ κ ν) : Prop :=
        ∃ turn, current = seat world.threads task thread.role turn ∧
          turn.Leaves task world.shared
      let ends (final : World σ κ ν) : Prop :=
        final.Steady .stopped ∧ world.shared.Alike final.shared
      have begins : leaving world := by
        refine ⟨_, eq_seat found false, (quiet task thread found).1, .refl _,
          rfl, raised, ?_⟩
        rcases leaves with ⟨runs, wake⟩ | ⟨watch, runs, wake⟩
        · exact .inl ⟨.inl (by rw [runs]; rfl), wake⟩
        · exact .inr ⟨watch, runs, wake⟩
      refine run.induct leaving ends ?_ begins
      rintro current ⟨turn, rfl, leaves⟩
      let here := seat world.threads task thread.role turn
      have stands : here.threads[0]? = some keeper :=
        (seat_other differs _ _).trans keeps
      have own :
          here.threads[task]? = some ⟨thread.role, turn.stack, turn.control⟩ :=
        seat_self inside _ _
      have quiet' : here.IsQuiet [0, task] := by
        apply quiet.of_others (fun other differs => seat_other differs _ _)
        intro silent found'
        cases Option.some.inj (own.symm.trans found')
        exact ⟨leaves.empty, fun idle =>
          absurd (List.mem_cons_of_mem 0 (List.mem_singleton.mpr rfl)) idle⟩
      by_cases isOver : turn.control = .answer .done
      · -- The task has ended, and the caller comes to know.
        left
        intro final run
        have ended : here.ending? task = some .finished := by
          rw [ending?, own, Option.bind_some, isOver, leaves.empty]
          rfl
        have wake :
            here.shared.dispatcher.wake.Suits here.shared.IsDrained .away := by
          rcases leaves.wake with ⟨_, wake⟩ | ⟨watch, parked, _⟩
          · exact wake
          · rw [isOver] at parked
            cases parked
        have callers : 2 ≤ here.threads.length := by
          simp only [here, seat, List.length_set]
          exact steady.callers
        obtain ⟨steady', alike⟩ :=
          joined callers (leaves.alike.settings ▸ steady.undrained)
          (leaves.host.trans hosted) worker
          (quiet'.of_ended ended) stands awaits ended wake run
        exact ⟨steady', leaves.alike.trans alike⟩
      · -- The task moves on, since the caller waits and everybody else has
        -- ended.
        right
        rcases leaves.canMove thread.role inside isOver with
          ⟨⟨instruction, runs⟩, moves⟩
        have first :=
          canMove_of_quiet quiet' stands awaits (ending?_of_run own runs)
        have busy : here.atRest 0 = false := by
          rw [atRest, ending?_of_run stands awaits]
          rfl
        obtain ⟨leaves', unspawned⟩ :=
          Turn.Leaves.move client
            (here.surroundings task) steady.undrained leaves isOver
        refine ⟨_, busy, ?_, _, rfl, leaves'⟩
        rw [advance?_of_first client moves first,
          seat_step client inside rfl unspawned]

/-- A switch keeps an application between two operations, and deliveries cannot
tell the difference. -/
theorem Switches.steady (switches : world.Switches client mode after mode')
    (steady : world.Steady mode) :
    after.Steady mode' ∧ world.shared.Alike after.shared := by
  rcases steady.exists_keeper with ⟨keeper, found, empty⟩
  cases switches with
  | start finished rests =>
      rw [request_eq_seat found empty] at finished
      exact steady.start (finish_progress finished rests)
  | halt finished waits =>
      rw [request_eq_seat found empty] at finished
      have halted : (!after.canMove 0) = true := by
        rw [waits]
        rfl
      subst finished
      exact steady.halt
        (runUntil_progress (fun _ reached => reached)
          (fun _ reached => .inl reached) halted)
  | join finished rests => exact steady.join (finish_progress finished rests)
  | rest settled rests =>
      rw [steady.rest (settle_progress settled rests)]
      exact ⟨steady, .refl _⟩

end World

/-! ## Runs -/

/-- The worlds to which operations lead, with any starts and stops in between.
An application is left to settle only while it is running, and no panic leaves a
cycle: a task that dies of one never comes to wait with nothing to do. -/
inductive Run (client : Client σ κ ν) (opening : World σ κ ν) :
    List (Operation κ) → World σ κ ν → Mode → Prop
  | opening : Run client opening [] opening .stopped
  | switch {operations : List (Operation κ)} {world after : World σ κ ν}
      {mode mode' : Mode} (run : Run client opening operations world mode)
      (switches : world.Switches client mode after mode') :
      Run client opening operations after mode'
  | perform {operations : List (Operation κ)} {world after : World σ κ ν}
      {mode : Mode} {operation : Operation κ}
      (run : Run client opening operations world mode)
      (performs : world.Performs client operation after)
      (runs : operation = .settle → mode = .running)
      (calm : ¬ after.shared.Escaped) :
      Run client opening (operations ++ [operation]) after mode

namespace Run

variable {client : Client σ κ ν} {opening world other : World σ κ ν}
  {mode mode' : Mode} {operations : List (Operation κ)}
  {operation : Operation κ}

/-- A run leaves an application between two operations, and settling leaves
nothing in the queues. -/
theorem steady (run : Run client opening operations world mode)
    (only : client.OnlyDelivers) (opens : opening.Steady .stopped) :
    world.Steady mode ∧
      (operations.getLast? = some .settle → world.shared.IsDrained) := by
  induction run with
  | opening => exact ⟨opens, fun last => by cases last⟩
  | switch run switches inductionHypothesis =>
      rcases switches.steady inductionHypothesis.1 with ⟨steady, alike⟩
      exact ⟨steady, fun last => alike.isDrained (inductionHypothesis.2 last)⟩
  | perform run performs runs calm inductionHypothesis =>
      rcases inductionHypothesis.1.perform only performs runs calm with
        ⟨steady, drained⟩
      constructor
      · exact steady
      · intro last
        apply drained
        rw [List.getLast?_concat] at last
        exact Option.some.inj last

/-- Before the first operation nothing has been delivered. -/
theorem alike_of_nil (run : Run client opening operations world mode)
    (only : client.OnlyDelivers) (opens : opening.Steady .stopped)
    (none : operations = []) :
    opening.shared.Alike world.shared := by
  induction run with
  | opening => exact .refl _
  | switch run switches inductionHypothesis =>
      exact (inductionHypothesis none).trans
        (switches.steady (run.steady only opens).1).2
  | perform run performs runs calm => exact absurd none (List.concat_ne_nil _ _)

/-- Since the last operation nothing has been delivered. -/
theorem exists_last {earlier : List (Operation κ)}
    (run : Run client opening operations world mode)
    (only : client.OnlyDelivers) (opens : opening.Steady .stopped)
    (ends : operations = earlier ++ [operation]) :
    ∃ before after mode', Run client opening earlier before mode' ∧
      before.Performs client operation after ∧
      (operation = .settle → mode' = .running) ∧
        after.shared.Alike world.shared := by
  induction run with
  | opening => exact absurd ends.symm (List.concat_ne_nil _ _)
  | switch run switches inductionHypothesis =>
      rcases inductionHypothesis ends with
        ⟨before, after, mode', started, performs, runs, alike⟩
      exact ⟨before, after, mode', started, performs, runs,
        alike.trans (switches.steady (run.steady only opens).1).2⟩
  | perform run performs runs calm =>
      rcases List.append_inj' ends rfl with ⟨rfl, same⟩
      cases same
      exact ⟨_, _, _, run, performs, runs, .refl _⟩

/-- Two runs with the same operations lead to alike states. -/
theorem alike (run : Run client opening operations world mode)
    (run' : Run client opening operations other mode')
    (only : client.OnlyDelivers) (opens : opening.Steady .stopped) :
    world.shared.Alike other.shared := by
  induction run generalizing other mode' with
  | opening => exact run'.alike_of_nil only opens rfl
  | switch run switches inductionHypothesis =>
      exact (switches.steady (run.steady only opens).1).2.symm.trans
        (inductionHypothesis run')
  | perform run performs runs calm inductionHypothesis =>
      obtain ⟨before, after, mode₁, run₁, performs', runs', alike⟩ :=
        run'.exists_last only opens rfl
      exact ((run.steady only opens).1.perform_alike
        (run₁.steady only opens).1 only
        (inductionHypothesis run₁) performs performs' fun settles =>
          ⟨runs settles, runs' settles⟩).trans alike

end Run

/-! ## What clients can tell -/

/-- The callback that a happening begins. -/
def Happening.called? : Happening ν → Option Callback
  | .called callback => some callback
  | _ => none

namespace Shared

/-- All callbacks that have begun so far, oldest first. -/
def calls (shared : Shared σ ν) : List Callback :=
  (shared.journal.filterMap Happening.called?).reverse

/-- The same callbacks have been made in the same order, the same streams are
registered, the same has been counted apart from reports, and the same waits in
the queues. -/
structure SameOutcome (shared other : Shared σ ν) : Prop where
  calls : shared.calls = other.calls
  registry : shared.registry = other.registry
  counters :
    ({ shared.dispatcher.counters with reports := 0 } : Counters) =
      { other.dispatcher.counters with reports := 0 }
  queues : shared.dispatcher.queues = other.dispatcher.queues

theorem Alike.sameOutcome {shared other : Shared σ ν}
    (alike : shared.Alike other) :
    shared.SameOutcome other where
  calls := by
    have heard (happening : Happening ν) (told : happening.called? ≠ none) :
        happening.isHeard = true := by
      cases happening <;> first | rfl | exact absurd rfl told
    simp only [Shared.calls]
    rw [← Happening.filterMap_concerning heard shared.journal, alike.journal,
      Happening.filterMap_concerning heard]
  registry := alike.registry
  counters := alike.counters
  queues := alike.queues

end Shared

/-- Starts and stops make no difference to deliveries.  Take an application that
does not drain its queues when it is stopped, and client code that asks for
deliveries only.  Two runs with the same operations have the same outcome,
wherever they are started and stopped in between: such as a run and the same run
with stops and starts put in, or a run before and after a stop.  If the last
operation left everything to settle nothing waits any more, whatever was
submitted before, during or after a stop.  A stop by itself makes no callback
and leaves the queues, the counters and the registry as they are. -/
theorem Run.same_outcome {client : Client σ κ ν} (only : client.OnlyDelivers)
    {identity : Identity} {settings : Settings} {state : σ}
    (off : settings.drainOnStop = false) {operations : List (Operation κ)}
    {world other : World σ κ ν} {mode mode' : Mode}
    (run : Run client
      (.new (.new identity settings (.application .new) state) 2) operations
      world mode)
    (run' : Run client
      (.new (.new identity settings (.application .new) state) 2) operations
      other mode') :
    world.shared.SameOutcome other.shared ∧
      (operations.getLast? = some .settle →
        world.shared.IsDrained ∧ other.shared.IsDrained) ∧
      ∀ halted stopped, other.Switches client mode' halted .stopping →
        halted.Switches client .stopping stopped .stopped →
          other.shared.SameOutcome halted.shared ∧
            other.shared.SameOutcome stopped.shared := by
  have opens : (World.new (.new identity settings (.application .new) state) 2 :
      World σ κ ν).Steady .stopped := by
    refine ⟨Nat.le_refl 2, off, .stopped rfl rfl rfl ?_ ⟨rfl, rfl, .inr ?_⟩⟩
    · intro id thread found
      rw [List.eq_of_mem_replicate (List.mem_of_getElem? found)]
      exact ⟨rfl, fun _ => rfl⟩
    · intro channel
      cases channel <;> rfl
  refine ⟨(run.alike run' only opens).sameOutcome,
    fun last =>
      ⟨(run.steady only opens).2 last, (run'.steady only opens).2 last⟩, ?_⟩
  intro halted stopped halts joins
  rcases halts.steady (run'.steady only opens).1 with ⟨steady, alike⟩
  exact ⟨alike.sameOutcome, (alike.trans (joins.steady steady).2).sameOutcome⟩

/-- One packet waits through a stop and a start, and another is submitted while
a stop waits for the task; a run without these stops has the same outcome. -/
theorem Run.same_outcome_of_restarts :
    let opening : World Unit Unit Unit :=
      .new (.new ⟨1, "app"⟩ .standard (.application .new) ()) 2
    let start (world : World Unit Unit Unit) :=
      (world.request 0 .start).finish .accepting 30 0
    let halt (world : World Unit Unit Unit) :=
      (world.request 0 .stop).runUntil .accepting
        (fun world => !world.canMove 0) 30
    let join (world : World Unit Unit Unit) := world.finish .accepting 30 0
    let submit (data : Bytes) (world : World Unit Unit Unit) :=
      (world.request 1 (.submit (.packet 0 data))).finish .accepting 30 1
    let settle (world : World Unit Unit Unit) := world.settle .accepting 60
    let plain := settle (submit [2] (settle (submit [1] (start opening))))
    let waiting := settle (start (join (halt (submit [1] (start opening)))))
    let restarted := settle (start (join (submit [2] (halt waiting))))
    plain.shared.SameOutcome restarted.shared ∧ restarted.shared.IsDrained ∧
      restarted.shared.calls.length = 2 := by
  intro opening start halt join submit settle plain waiting restarted
  have only : Client.accepting.OnlyDelivers := by
    constructor
    · intro callback state request next asks
      cases asks
    · intro suspended response state request next asks
      cases asks
  -- The run without stops.
  have started : Run .accepting opening [] (start opening) .running :=
    .switch .opening (.start rfl (by decide +kernel))
  have submitted : Run .accepting opening [.deliver (.submit (.packet 0 [1]))]
      (submit [1] (start opening)) .running :=
    started.perform ⟨rfl, ⟨30, rfl⟩, by decide +kernel⟩
      (fun same => by cases same) (by decide +kernel)
  have settled :
      Run .accepting opening [.deliver (.submit (.packet 0 [1])), .settle]
        (settle (submit [1] (start opening))) .running :=
    submitted.perform ⟨⟨60, rfl⟩, by decide +kernel⟩
      (fun _ => rfl) (by decide +kernel)
  have again : Run .accepting opening
      [.deliver (.submit (.packet 0 [1])), .settle,
        .deliver (.submit (.packet 0 [2]))]
      (submit [2] (settle (submit [1] (start opening)))) .running :=
    settled.perform ⟨rfl, ⟨30, rfl⟩, by decide +kernel⟩
      (fun same => by cases same) (by decide +kernel)
  have straight : Run .accepting opening
      [.deliver (.submit (.packet 0 [1])), .settle,
        .deliver (.submit (.packet 0 [2])), .settle]
      plain .running :=
    again.perform ⟨⟨60, rfl⟩, by decide +kernel⟩
      (fun _ => rfl) (by decide +kernel)
  -- The run with stops.
  have restart₁ : Run .accepting opening [.deliver (.submit (.packet 0 [1]))]
      (start (join (halt (submit [1] (start opening))))) .running :=
    ((submitted.switch (.halt rfl (by decide +kernel))).switch
      (.join rfl (by decide +kernel))).switch (.start rfl (by decide +kernel))
  have settled₁ :
      Run .accepting opening [.deliver (.submit (.packet 0 [1])),
        .settle] waiting
      .running :=
    restart₁.perform ⟨⟨60, rfl⟩, by decide +kernel⟩
      (fun _ => rfl) (by decide +kernel)
  have during : Run .accepting opening
      [.deliver (.submit (.packet 0 [1])), .settle,
        .deliver (.submit (.packet 0 [2]))]
      (submit [2] (halt waiting)) .stopping :=
    (settled₁.switch (.halt rfl (by decide +kernel))).perform
      ⟨rfl, ⟨30, rfl⟩, by decide +kernel⟩ (fun same => by cases same)
      (by decide +kernel)
  have interrupted : Run .accepting opening
      [.deliver (.submit (.packet 0 [1])), .settle,
        .deliver (.submit (.packet 0 [2])), .settle]
      restarted .running :=
    ((during.switch (.join rfl (by decide +kernel))).switch
      (.start rfl (by decide +kernel))).perform ⟨⟨60, rfl⟩, by decide +kernel⟩
      (fun _ => rfl) (by decide +kernel)
  rcases Run.same_outcome only rfl straight interrupted with
    ⟨outcome, drained, _⟩
  exact ⟨outcome, (drained rfl).2, by decide +kernel⟩

end Switchboard
