import Switchboard.Proofs.Accounting
import Switchboard.Proofs.Effort
import Switchboard.Proofs.Engaged
import Switchboard.Proofs.Restart
import Switchboard.Proofs.Summons

/-!
# A caller and a task take turns

A caller stops an application while the task of the application is at work, and
nobody else moves.  In whatever order the two move, the task hears of the `stop`
wherever it is, drains the queues, and ends, and then the `stop` returns.  Their
turns come to an end if client code asks for a limited number of things.
-/

namespace Switchboard

variable {σ κ ν : Type}

/-! ## Turns -/

/-- A caller and a task move in any order, each whenever it can, and time
passes; and the caller asks for a `stop` when it is free, if it has not asked
for one before.  Counted are the steps, and those of them at which client code
asks for something. -/
inductive World.TakesTurns (client : Client σ κ ν) (caller task : ThreadId) :
    Bool → World σ κ ν → Nat → Nat → Bool → World σ κ ν → Prop
  | rests (requested : Bool) (world : World σ κ ν) :
      TakesTurns client caller task requested world 0 0 requested world
  | asks {world final : World σ κ ν} {turns asked : Nat} {requested : Bool}
      (allowed : world.allows (.request caller .stop) = true)
      (rest : TakesTurns client caller task true
        (world.request caller .stop) turns asked
        requested final) :
      TakesTurns client caller task false world turns asked requested final
  | waits {world final : World σ κ ν} {turns asked : Nat}
      {requested requested' : Bool} (millis : Nat)
      (rest : TakesTurns client caller task requested
        (world.wait millis) turns asked requested'
        final) :
      TakesTurns client caller task requested world turns asked requested' final
  | moves {world final : World σ κ ν} {self : ThreadId} {turns asked : Nat}
      {requested requested' : Bool} (who : self = caller ∨ self = task)
      (moves : world.canMove self = true)
      (rest : TakesTurns client caller task requested
        (world.step client self) turns asked requested' final) :
      TakesTurns client caller task requested world (turns + 1)
        (asked + (world.asks self).toNat)
        requested' final

/-- Whether threads can move in the given order. -/
def World.canMoveAll (client : Client σ κ ν) (world : World σ κ ν) :
    List ThreadId → Bool
  | [] => true
  | self :: rest =>
      world.canMove self && (world.step client self).canMoveAll client rest

/-- A caller is free if nothing is left on its stack and it has nothing to carry
out. -/
theorem Thread.isFree_iff {thread : Thread κ} :
    thread.isFree = true ↔
      thread.role = .caller ∧ thread.stack = [] ∧
        ∀ instruction, thread.control ≠ .run instruction := by
  rw [isFree, Bool.and_eq_true, decide_eq_true_iff, isSome_ending?_iff]

theorem World.request_of_some {world : World σ κ ν} {caller : ThreadId}
    {thread : Thread κ} (found : world.threads[caller]? = some thread)
    (request : Request) :
    world.request caller request =
      world.put caller ⟨thread.role, thread.stack, .run (.perform request)⟩ :=
  setThread_of_some _ found

/-- Nothing but its request is new for a caller that asks for a `stop`. -/
theorem World.effort_request (world : World σ κ ν) {caller task : ThreadId}
    (differs : caller ≠ task) :
    (world.request caller .stop).effort caller task ≤
      world.effort caller task + 15 := by
  cases found : world.threads[caller]? with
  | none =>
      have same : world.request caller .stop = world := by
        rw [request, setThread, List.modify_eq_set_getElem?, found]
        rfl
      rw [same]
      exact Nat.le_add_right _ _
  | some thread =>
      have asked := request_of_some found .stop
      have stands :=
        put_self found ⟨thread.role, thread.stack, .run (.perform .stop)⟩
      have waits :
          (world.put caller ⟨thread.role, thread.stack,
            .run (.perform .stop)⟩).threads[
          task]? = world.threads[task]? :=
        put_other differs.symm _
      simp only [effort, asked, stands, waits, found, Option.elim_some,
        Thread.effort, Control.effort, Instruction.effort, Request.isMild,
        Bool.false_eq_true, ↓reduceIte]
      simp only [put]
      omega

namespace World.TakesTurns

variable {client : Client σ κ ν} {caller task : ThreadId}
  {world middle final : World σ κ ν} {turns turns' asked asked' : Nat}
  {requested requested' requested'' : Bool}

theorem trans
    (first : TakesTurns client caller task requested world turns asked
      requested' middle)
    (rest : TakesTurns client caller task requested' middle turns' asked'
      requested'' final) :
    TakesTurns client caller task requested world (turns' + turns)
      (asked' + asked) requested''
      final := by
  induction first with
  | rests => exact rest
  | asks allowed _ inductionHypothesis =>
      exact .asks allowed (inductionHypothesis rest)
  | waits millis _ inductionHypothesis =>
      exact .waits millis (inductionHypothesis rest)
  | moves who moves _ inductionHypothesis =>
      rw [← Nat.add_assoc, ← Nat.add_assoc]
      exact .moves who moves (inductionHypothesis rest)

/-- What was asked for stays asked for. -/
theorem requested_after
    (run : TakesTurns client caller task requested world turns asked
      requested' final)
    (before : requested = true) : requested' = true := by
  induction run with
  | rests => exact before
  | asks => cases before
  | waits _ _ inductionHypothesis | moves _ _ _ inductionHypothesis =>
      exact inductionHypothesis before

/-- What has happened is not forgotten. -/
theorem journal
    (run : TakesTurns client caller task requested world turns asked
      requested' final) :
    world.shared.journal <:+ final.shared.journal := by
  induction run with
  | rests => exact List.suffix_rfl
  | asks _ _ inductionHypothesis | waits _ _ inductionHypothesis =>
      exact inductionHypothesis
  | @moves world _ self _ _ _ _ _ _ _ inductionHypothesis =>
      have becomes :
          Becomes client world (.step self) (world.step client self) :=
        after_becomes client rfl
      exact becomes.journal.trans inductionHypothesis

/-- No panic has left a cycle before if none has in the end. -/
theorem calm
    (run : TakesTurns client caller task requested world turns asked
      requested' final)
    (calm : ¬ final.shared.Escaped) : ¬ world.shared.Escaped := by
  rintro ⟨happening, member, panic⟩
  exact calm ⟨happening, run.journal.subset member, panic⟩

/-- A caller that is free stays as it is as long as it asks for nothing. -/
theorem caller_stays
    (run : TakesTurns client caller task requested world turns asked
      requested' final)
    {thread : Thread κ} (found : world.threads[caller]? = some thread)
    (free : thread.isFree = true) (unasked : requested' = requested) :
    final.threads[caller]? = some thread := by
  induction run with
  | rests => exact found
  | asks _ rest =>
      cases (rest.requested_after rfl).symm.trans unasked
  | waits _ _ inductionHypothesis => exact inductionHypothesis found unasked
  | @moves world _ self _ _ _ _ _ moves _ inductionHypothesis =>
      refine inductionHypothesis ?_ unasked
      have differs : caller ≠ self := by
        rintro rfl
        rw [canMove, found] at moves
        rcases Thread.isFree_iff.mp free with ⟨_, empty, idle⟩
        rcases thread with ⟨role, stack, control⟩
        dsimp only at empty idle moves
        subst empty
        cases control with
        | run instruction => exact idle instruction rfl
        | _ => cases moves
      rw [step_of_some (List.getElem?_eq_getElem (lt_length_of_canMove moves))]
      exact afterTurn_other found differs _ _

/-- The steps use up what there was to do. -/
theorem effort_le
    (run : TakesTurns client caller task requested world turns asked
      requested' final)
    (only : client.AsksOnly Request.isMild) (differs : caller ≠ task)
    (inside : caller < world.threads.length)
    (inside' : task < world.threads.length) :
    final.effort caller task + turns + 15 * requested.toNat ≤
      world.effort caller task + 36 * asked + 15 * requested'.toNat := by
  induction run with
  | rests => exact Nat.le_refl _
  | @asks world _ _ _ _ _ _ inductionHypothesis =>
      have less := world.effort_request differs
      have length :
          (world.request caller .stop).threads.length = world.threads.length :=
        List.length_modify ..
      have rest := inductionHypothesis (length ▸ inside) (length ▸ inside')
      simp only [Bool.toNat_true, Bool.toNat_false] at rest ⊢
      omega
  | waits millis _ inductionHypothesis =>
      exact inductionHypothesis inside inside'
  | @moves world _ self _ _ _ _ who moves _ inductionHypothesis =>
      have longer :
          world.threads.length ≤ (world.step client self).threads.length := by
        rw [step_of_some
          (List.getElem?_eq_getElem (lt_length_of_canMove moves))]
        simp [afterTurn]
      have less : (world.step client self).effort caller task + 1 ≤
          world.effort caller task + 36 * (world.asks self).toNat := by
        rcases who with rfl | rfl
        · exact effort_step only differs.symm inside' moves
        · rw [effort_comm _ caller, effort_comm world caller]
          exact effort_step only differs inside moves
      have rest := inductionHypothesis (Nat.lt_of_lt_of_le inside longer)
        (Nat.lt_of_lt_of_le inside' longer)
      omega

end World.TakesTurns

/-! ## The stages of a stop -/

/-- Whether a task goes on by itself: at its wait it does so if a permit is
stored, or once it has been signalled. -/
def Control.isRoused (wake : Wake) (task : ThreadId) : Control → Bool
  | .run (.await _) => wake.permit
  | .run (.parked _) => wake.hasSignalled task
  | _ => true

/-- How far a caller has come who may ask for a `stop` of an application with
the given task, or has asked for it. -/
inductive Stage (shared : Shared σ ν) (task : ThreadId) (working : Thread κ) :
    Bool → Control → Prop
  | free {control : Control} (runs : shared.switch? = some (.running task))
      (idle : ∀ instruction, control ≠ .run instruction) :
      Stage shared task working false control
  | asks (runs : shared.switch? = some (.running task)) :
      Stage shared task working true (.run (.perform .stop))
  | takes (runs : shared.switch? = some (.running task)) :
      Stage shared task working true (.run .stop)
  | signals (stops : shared.switch? = some .stopping) :
      Stage shared task working true (.run (.signal none (.awaitTask task)))
  | awaits (stops : shared.switch? = some .stopping)
      (roused : working.control.isRoused shared.dispatcher.wake task = true) :
      Stage shared task working true (.run (.awaitTask task))
  | concluded (rests : shared.switch? = some ⟨none, false, .stopped, true⟩)
      (empty : working.stack = []) (ended : working.control = .answer .done) :
      Stage shared task working true (.answer (.concluded (.ok ())))

/-- Once it has been signalled the only task at work goes on by itself. -/
theorem Wake.Suits.rouses {wake : Wake} {task : ThreadId} {control : Control}
    {clear : Prop} (suits : wake.Suits clear (control.posture task)) :
    control.isRoused wake.signal task = true := by
  have signalled := suits.signal False
  simp only [Control.isRoused]
  split
  · exact signalled.2.2.resolve_right id
  · exact hasSignalled_of_eq (signalled.resolve_left fun waits => waits.2.2).2
  · rfl

namespace Shared

variable {client : Client σ κ ν} {shared : Shared σ ν}

theorem stop_alike (shared : Shared σ ν) (stack : List (Frame κ)) :
    shared.Alike (shared.stop stack).shared := by
  simp only [stop]
  split
  · split
    · exact .refl shared
    · split <;> exact ⟨rfl, rfl, rfl, rfl, rfl, rfl, rfl⟩
  · exact .refl shared
  · exact .refl shared

/-- A `stop` that is asked for settles nothing of the display name. -/
theorem stop_nameplate? (shared : Shared σ ν) (stack : List (Frame κ)) :
    (shared.stop stack).shared.nameplate? = shared.nameplate? := by
  simp only [stop]
  split
  · rename_i application hosted
    split
    · rfl
    · split
      · rfl
      · rw [nameplate?_of_hosted hosted]
        rfl
  · rfl
  · rfl

theorem noticeStopped_alike (client : Client σ κ ν) (shared : Shared σ ν)
    (task : ThreadId) (ending : Ending) :
    shared.Alike (noticeStopped client shared task ending) := by
  cases ending with
  | finished =>
      exact (askTypeName_alike client shared).trans
        ⟨rfl, rfl, rfl, rfl, rfl, rfl, rfl⟩
  | panicked | cancelled => exact ⟨rfl, rfl, rfl, rfl, rfl, rfl, rfl⟩

theorem awaitTask_alike (client : Client σ κ ν) (shared : Shared σ ν)
    (around : Surroundings) (stack : List (Frame κ)) (task : ThreadId) :
    shared.Alike (shared.awaitTask client around stack task).shared := by
  simp only [awaitTask]
  split
  · exact .refl shared
  · exact (shared.updateApplication_alike _).trans
      (noticeStopped_alike client _ task _)

/-- A task that goes on by itself does so after its move while the stop flag is
raised. -/
theorem move_roused (client : Client σ κ ν) (around : Surroundings)
    {stack : List (Frame κ)} {control : Control} (fits : control.Fits stack)
    (raised : shared.dispatcher.stopRequested = true)
    (roused : control.isRoused shared.dispatcher.wake around.self = true) :
    let turn := shared.move client around stack control
    turn.control.isRoused turn.shared.dispatcher.wake around.self = true := by
  have watches := shared.move_watches client around fits
  intro turn
  change Watches shared around.self stack control turn at watches
  generalize turn = turn at watches
  cases watches with
  | begins | rests | skips => rfl
  | turns watch watch' lowered same => cases lowered.symm.trans raised
  | parks watch absent => cases absent.symm.trans roused
  | stays watch silent => cases silent.symm.trans roused
  | looks watch fresh =>
      rw [fresh]
      rfl
  | elsewhere away =>
      simp only [Control.isRoused]
      split
      · rename_i waits
        rw [waits] at away
        cases away
      · rename_i waits
        rw [waits] at away
        cases away
      · rfl

/-- A task that leaves nothing behind has ended well once it has ended. -/
theorem Clears.ends_well {thread : Thread κ} {ending : Ending}
    (clears : shared.Clears thread.stack thread.control)
    (ended : thread.ending? = some ending) :
    thread.stack = [] ∧ thread.control = .answer .done ∧
      ending = .finished := by
  rcases Thread.isSome_ending?_iff.mp (Option.isSome_of_eq_some ended) with
    ⟨empty, done⟩
  have well : thread.control = .answer .done := by
    cases control : thread.control with
    | run instruction => exact absurd control (done instruction)
    | _ =>
        rw [control] at clears
        exact (clears empty).1
  refine ⟨empty, well, ?_⟩
  rw [Thread.ending?, empty, well] at ended
  exact (Option.some.inj ended).symm

end Shared

namespace Stage

variable {shared : Shared σ ν} {task : ThreadId} {working : Thread κ}
  {requested : Bool} {asking : Control}

theorem exists_switch (stage : Stage shared task working requested asking) :
    ∃ switch, shared.switch? = some switch := by
  cases stage with
  | free runs | asks runs | takes runs => exact ⟨_, runs⟩
  | signals stops | awaits stops => exact ⟨_, stops⟩
  | concluded rests => exact ⟨_, rests⟩

/-- A move of the caller takes it to the next stage, or leaves it where it is,
and is no matter of clients.  As long as the task has not ended nothing is
settled of the display name. -/
theorem move_caller (stage : Stage shared task working requested asking)
    (client : Client σ κ ν) (around : Surroundings)
    (seen : around.ending? task = working.ending?)
    (suits : shared.dispatcher.wake.Suits True (working.control.posture task))
    (clears : shared.Clears working.stack working.control) :
    let turn := shared.move client around ([] : List (Frame κ)) asking
    Stage turn.shared task working requested turn.control ∧
      shared.Alike turn.shared ∧
      turn.stack = [] ∧ turn.spawned = false ∧
        (working.ending? = none →
          turn.shared.nameplate? = shared.nameplate?) := by
  cases stage with
  | free runs idle =>
      cases asking with
      | run instruction => exact absurd rfl (idle instruction)
      | _ => exact ⟨.free runs idle, .refl shared, rfl, rfl, fun _ => rfl⟩
  | asks runs =>
      rcases Shared.exists_application runs with ⟨application, host, _⟩
      simp only [Shared.move, Shared.execute, Shared.perform, host]
      exact ⟨.takes runs, .refl shared, rfl, rfl, fun _ => rfl⟩
  | takes runs =>
      have held : (Switch.running task).worker = some task := rfl
      rcases Shared.stop_of_held ([] : List (Frame κ)) runs rfl held with
        ⟨emptied, awaits, unspawned⟩
      have alike := shared.stop_alike ([] : List (Frame κ))
      refine ⟨?_, alike, shared.stop_stack [], unspawned,
        fun _ => shared.stop_nameplate? []⟩
      change Stage (shared.stop ([] : List (Frame κ))).shared task working true
        (shared.stop ([] : List (Frame κ))).control
      rw [awaits]
      exact .signals emptied
  | signals stops =>
      exact ⟨.awaits stops suits.rouses,
        ⟨rfl, rfl, rfl, rfl, rfl, rfl, rfl⟩, rfl, rfl, fun _ => rfl⟩
  | awaits stops roused =>
      have alike :=
        shared.awaitTask_alike client around ([] : List (Frame κ)) task
      cases ended : working.ending? with
      | none =>
          simp only [Shared.move, Shared.execute, Shared.awaitTask, seen, ended]
          exact ⟨.awaits stops roused, .refl shared, rfl, rfl, fun _ => rfl⟩
      | some ending =>
          rcases clears.ends_well ended with ⟨empty, well, rfl⟩
          rcases Shared.awaitTask_of_ended client shared around
            ([] : List (Frame κ)) (seen.trans ended) with ⟨unlocked, answers⟩
          refine ⟨?_, alike, ?_, ?_, fun stays => by cases stays⟩
          · change Stage
              (shared.awaitTask client around ([] : List (Frame κ)) task).shared
                task
              working true
                (shared.awaitTask client around
                  ([] : List (Frame κ)) task).control
            rw [answers]
            refine .concluded ?_ empty well
            rw [unlocked, stops]
            rfl
          · simp only [Shared.move, Shared.execute, Shared.awaitTask,
              seen, ended]
            rfl
          · simp only [Shared.move, Shared.execute, Shared.awaitTask,
              seen, ended]
            rfl
  | concluded rests empty ended =>
      exact ⟨.concluded rests empty ended, .refl shared, rfl, rfl, fun _ => rfl⟩

/-- A move of the task leaves the caller at its stage. -/
theorem move_task (stage : Stage shared task working requested asking)
    {client : Client σ κ ν} {around : Surroundings}
    (self : around.self = task) (fits : working.control.Fits working.stack)
    (proceeds :
      (shared.move client around working.stack working.control).Proceeds
        shared) :
    let turn := shared.move client around working.stack working.control
    Stage turn.shared task ⟨working.role, turn.stack, turn.control⟩ requested
      asking := by
  subst self
  have same := proceeds.switch
  cases stage with
  | free runs idle => exact .free (same.trans runs) idle
  | asks runs => exact .asks (same.trans runs)
  | takes runs => exact .takes (same.trans runs)
  | signals stops => exact .signals (same.trans stops)
  | awaits stops roused =>
      exact .awaits (same.trans stops)
        (Shared.move_roused client around fits
          (World.stopRequested_of_switch? stops) roused)
  | concluded rests empty ended =>
      simp only [empty, ended]
      exact .concluded rests rfl rfl

end Stage

/-! ## A stop while a task is at work -/

/-- Whether a task has an entry in hand. -/
def Thread.hasEntry (thread : Thread κ) : Bool :=
  thread.control.hasEntry thread.stack

theorem Shared.Alike.clears {shared other : Shared σ ν}
    (alike : shared.Alike other) {stack : List (Frame κ)} {control : Control}
    (clears : shared.Clears stack control) :
    other.Clears stack control := by
  have same (channel : Channel) :
      other.waiting channel = shared.waiting channel := by
    simp only [waiting, alike.queues]
  simp only [Clears, same]
  exact clears

/-- A task with nothing on its stack carries out steps of the loop or of the
drain. -/
theorem InTask.isLoop {instruction : Instruction}
    (inTask : InTask ([] : List (Frame κ)) (.run instruction)) :
    (Control.run instruction).isLoop = true := by
  have cycles {after : AfterCycle} {left : Nat} (own : after ≠ .answer)
      (inCycle : InCycle after [] left ([] : List (Frame κ))
        (.run instruction)) :
      (Control.run instruction).isLoop = true := by
    rcases inCycle.of_nil with ⟨cycle, rfl, runs | ⟨entry, runs⟩⟩
    all_goals
      rw [runs]
      simp only [Control.isLoop, Cycle.isLoop]
      cases same : cycle.after with
      | answer => exact absurd same own
      | loop | drain => rfl
  cases inTask with
  | loops inLoop =>
      cases inLoop with
      | between between =>
          cases instruction with
          | begin | check | await | parked | recheck => rfl
          | _ => cases between
      | inCycle watch left inCycle =>
          exact cycles AfterCycle.noConfusion inCycle
  | drains left inCycle => exact cycles AfterCycle.noConfusion inCycle
  | leaves last => rcases last with runs | runs <;> rw [runs] <;> rfl
  | ended done => exact absurd rfl (done instruction)

/-- A caller may stop an application, or stops it, that drains its queues and
has one task at work. -/
structure World.Paired (client : Client σ κ ν) (caller task : ThreadId)
    (requested : Bool) (world : World σ κ ν) : Prop where
  reached : Reachable client world
  drains : world.shared.settings.drainOnStop = true
  alone : world.WorksAlone task
  works : world.threads[task]? = some (world.taskAt task)
  role : (world.taskAt task).role = .task
  clears : world.shared.Clears (world.taskAt task).stack
    (world.taskAt task).control
  stage : ∃ asking, world.threads[caller]? = some ⟨.caller, [], asking⟩ ∧
    Stage world.shared task (world.taskAt task) requested asking

namespace World

/-- A turn that spawns nobody leaves all others as they are. -/
theorem afterTurn_others (world : World σ κ ν) {self other : ThreadId}
    (differs : other ≠ self) (role : Role) {turn : Turn σ κ ν}
    (unspawned : turn.spawned = false) :
    (world.afterTurn self role turn).threads[other]? =
      world.threads[other]? := by
  simp only [afterTurn, unspawned, Bool.false_eq_true, ↓reduceIte,
    List.append_nil]
  exact List.getElem?_set_ne differs.symm

namespace Paired

variable {client : Client σ κ ν} {caller task : ThreadId} {requested : Bool}
  {world : World σ κ ν}

theorem differs (paired : world.Paired client caller task requested) :
    caller ≠ task := by
  rintro rfl
  rcases paired.stage with ⟨asking, found, _⟩
  have role := paired.role
  rw [taskAt_of_some found] at role
  cases role

theorem fits (paired : world.Paired client caller task requested) :
    (world.taskAt task).control.Fits (world.taskAt task).stack :=
  paired.reached.fits _ (List.mem_of_getElem? paired.works)

theorem tells (paired : world.Paired client caller task requested) :
    world.shared.Tells (world.taskAt task).stack (world.taskAt task).control :=
  paired.reached.tells _ (List.mem_of_getElem? paired.works)

theorem inTask (paired : world.Paired client caller task requested) :
    InTask (world.taskAt task).stack (world.taskAt task).control :=
  paired.reached.inTask paired.works paired.role

theorem exists_switch (paired : world.Paired client caller task requested) :
    ∃ switch, world.shared.switch? = some switch := by
  rcases paired.stage with ⟨asking, _, stage⟩
  exact stage.exists_switch

theorem isHosted (paired : world.Paired client caller task requested) :
    world.shared.IsHosted := by
  rcases paired.exists_switch with ⟨switch, shows⟩
  rcases Shared.exists_application shows with ⟨application, host, _⟩
  exact ⟨application, host⟩

theorem engaged (paired : world.Paired client caller task requested)
    (only : client.AsksOnly Request.isMild)
    (busy : (world.taskAt task).hasEntry = true) :
    Engaged (world.taskAt task).stack (world.taskAt task).stack
      (world.taskAt task).control (world.taskAt task).control := by
  rcases paired.exists_switch with ⟨switch, shows⟩
  exact paired.reached.engaged only shows paired.works paired.role busy

theorem ending?_task (paired : world.Paired client caller task requested) :
    world.ending? task = (world.taskAt task).ending? := by
  rw [ending?, paired.works]
  rfl

/-- The task starts and stops nothing. -/
theorem proceeds (paired : world.Paired client caller task requested)
    (only : client.AsksOnly Request.isMild) :
    (world.shared.move client (world.surroundings task)
      (world.taskAt task).stack
      (world.taskAt task).control).Proceeds world.shared :=
  Shared.move_task_proceeds client world.shared
    (world.surroundings task) paired.fits
    paired.inTask (paired.engaged only)

/-- A caller stops the application. -/
theorem request (paired : world.Paired client caller task false) :
    (world.request caller .stop).Paired client caller task true := by
  rcases paired.stage with ⟨asking, found, stage⟩
  cases stage with
  | free runs idle =>
      have free : (⟨.caller, [], asking⟩ : Thread κ).isFree = true :=
        Thread.isFree_iff.mpr ⟨rfl, rfl, idle⟩
      have allowed : world.allows (.request caller .stop) = true := by
        simp only [allows, found, Option.any_some, free]
      have becomes := after_becomes client allowed
      have asked := request_of_some found .stop
      have stands :
          (world.request caller .stop).threads[task]? =
            some (world.taskAt task) := by
        rw [asked, put_other paired.differs.symm]
        exact paired.works
      have same := taskAt_of_some stands
      refine ⟨paired.reached.occur _ allowed, paired.drains,
        fun other lives => ?_, same ▸ stands, same ▸ paired.role,
        same ▸ paired.clears, .run (.perform .stop), ?_, same ▸ .asks runs⟩
      · refine paired.alone other (becomes.isLive_of_unspawned ?_ lives)
        exact List.length_modify ..
      · rw [asked]
        exact put_self found _

/-- Time passes. -/
theorem wait (paired : world.Paired client caller task requested)
    (millis : Nat) :
    (world.wait millis).Paired client caller task requested := by
  refine ⟨paired.reached.occur (.wait millis) rfl, paired.drains, paired.alone,
    paired.works, paired.role, paired.clears, ?_⟩
  rcases paired.stage with ⟨asking, found, stage⟩
  refine ⟨asking, found, ?_⟩
  cases stage with
  | free runs idle => exact .free runs idle
  | asks runs => exact .asks runs
  | takes runs => exact .takes runs
  | signals stops => exact .signals stops
  | awaits stops roused => exact .awaits stops roused
  | concluded rests empty ended => exact .concluded rests empty ended

/-- The caller moves, and nobody else is concerned. -/
theorem step_caller (paired : world.Paired client caller task requested) :
    let next := world.step client caller
    next.Paired client caller task requested ∧ world.shared.Alike next.shared ∧
      next.taskAt task = world.taskAt task ∧
        ((world.taskAt task).ending? = none →
          world.shared.nameplate? = next.shared.nameplate?) ∧
        ∀ other : ThreadId, (next.threads[other]?).map Thread.stack =
          (world.threads[other]?).map Thread.stack := by
  rcases paired.stage with ⟨asking, found, stage⟩
  rcases stage.move_caller client
    (world.surroundings caller) paired.ending?_task
    (paired.reached.suits paired.alone) paired.clears with
    ⟨stage', alike, empty, unspawned, named⟩
  have becomes :
      Becomes client world (.step caller) (world.step client caller) :=
    after_becomes client rfl
  have reached := paired.reached.occur (.step caller) rfl
  simp only [after, step_of_some found] at becomes reached ⊢
  generalize world.shared.move client (world.surroundings caller)
    [] asking = turn at *
  have stands : (world.afterTurn caller .caller turn).threads[task]? =
      some (world.taskAt task) := by
    rw [afterTurn_others world paired.differs.symm .caller unspawned]
    exact paired.works
  have moved := afterTurn_self found .caller turn
  rw [empty] at moved
  have same := taskAt_of_some stands
  refine ⟨⟨reached, ?_, fun other lives => ?_, same ▸ stands,
    same ▸ paired.role, same ▸ alike.clears paired.clears, turn.control, moved,
    same ▸ stage'⟩, alike, same,
    fun stays => (named stays).symm, fun other => ?_⟩
  · exact alike.settings ▸ paired.drains
  · have length := world.length_afterTurn caller .caller unspawned
    exact paired.alone other (becomes.isLive_of_unspawned length lives)
  · by_cases itself : other = caller
    · rw [itself, moved, found]
      rfl
    · rw [afterTurn_others world itself .caller unspawned]

/-- The task moves, and the caller stays at its stage.  Only a panic that leaves
a cycle does not let the task come to its end. -/
theorem step_task (paired : world.Paired client caller task requested)
    (only : client.AsksOnly Request.isMild)
    (calm : ¬ (world.step client task).shared.Escaped) :
    (world.step client task).Paired client caller task requested := by
  rcases paired.stage with ⟨asking, found, stage⟩
  have proceeds := paired.proceeds only
  have stage' := stage.move_task rfl paired.fits proceeds
  have clears :=
    Shared.move_clears client world.shared (world.surroundings task) paired.fits
    paired.tells paired.inTask paired.drains paired.clears
  have becomes : Becomes client world (.step task) (world.step client task) :=
    after_becomes client rfl
  have reached := paired.reached.occur (.step task) rfl
  simp only [after, step_of_some paired.works] at becomes reached calm ⊢
  generalize world.shared.move client (world.surroundings task)
    (world.taskAt task).stack (world.taskAt task).control = turn at *
  have moved := afterTurn_self paired.works (world.taskAt task).role turn
  have now := taskAt_of_some moved
  have stands := afterTurn_others world paired.differs (world.taskAt task).role
    proceeds.spawned
  refine ⟨reached, ?_, fun other lives => ?_, now ▸ moved,
    now ▸ paired.role, ?_, asking, stands.trans found, now ▸ stage'⟩
  · exact proceeds.settings ▸ paired.drains
  · have length :=
      world.length_afterTurn task (world.taskAt task).role proceeds.spawned
    exact paired.alone other (becomes.isLive_of_unspawned length lives)
  · rw [now]
    rcases clears with clears | escapes
    · exact clears
    · exact absurd escapes.escaped calm

/-- A task that has not ended moves, unless it waits and nobody has signalled
it. -/
theorem canMove_task (paired : world.Paired client caller task requested)
    (only : client.AsksOnly Request.isMild)
    (stays : (world.taskAt task).ending? = none)
    (roused : (world.taskAt task).control.isRoused world.shared.dispatcher.wake
      task = true) :
    world.canMove task = true := by
  have engaged := paired.engaged only
  have inTask := paired.inTask
  simp only [canMove, paired.works]
  generalize world.taskAt task = thread at *
  rcases thread with ⟨role, stack, control⟩
  dsimp only [Thread.hasEntry] at *
  cases control with
  | run instruction =>
      cases instruction with
      | parked watch => exact roused
      | start | stop | awaitTask | join =>
          -- Nothing is started or stopped, neither with an entry in hand nor
          -- without one.
          cases stack with
          | nil => cases inTask.isLoop
          | cons frame below =>
              cases (engaged rfl).control with
              | run same => cases same
      | _ => rfl
  | _ =>
      cases stack with
      | nil => cases stays
      | cons frame below => rfl

/-- When neither can move any more the `stop` has returned, and the task has
left nothing behind. -/
theorem concluded (paired : world.Paired client caller task true)
    (only : client.AsksOnly Request.isMild)
    (still : world.canMove caller = false)
    (still' : world.canMove task = false) :
    (world.threads[caller]?).map Thread.control =
      some (.answer (.concluded (.ok ()))) ∧
      world.shared.switch? = some ⟨none, false, .stopped, true⟩ ∧
        (world.taskAt task).stack = [] ∧
        (world.taskAt task).control = .answer .done ∧
          world.shared.IsDrained := by
  rcases paired.stage with ⟨asking, found, stage⟩
  have clears := paired.clears
  simp only [canMove, found] at still
  cases stage with
  | asks | signals => cases still
  | takes runs =>
      rcases Shared.exists_application runs with ⟨application, host, same⟩
      have unlocked : application.locked = false :=
        (congrArg Switch.locked same).symm
      simp only [ready, Shared.locked, host, unlocked] at still
      cases still
  | awaits stops roused =>
      simp only [ready, paired.ending?_task, Option.isSome_eq_false_iff,
        Option.isNone_iff_eq_none] at still
      cases still'.symm.trans (paired.canMove_task only still roused)
  | concluded rests empty ended =>
      rw [ended] at clears
      refine ⟨?_, rests, empty, ended, fun channel => (clears empty).2 channel⟩
      rw [found]
      rfl

end Paired

/-! ## Whole runs -/

namespace TakesTurns

variable {client : Client σ κ ν} {caller task : ThreadId}
  {requested requested' : Bool} {world final : World σ κ ν} {turns asked : Nat}

/-- As long as no panic leaves a cycle the two stay on their course. -/
theorem paired
    (run : TakesTurns client caller task requested world turns asked
      requested' final)
    (only : client.AsksOnly Request.isMild)
    (start : world.Paired client caller task requested)
    (calm : ¬ final.shared.Escaped) :
    final.Paired client caller task requested' := by
  induction run with
  | rests => exact start
  | asks _ _ inductionHypothesis => exact inductionHypothesis start.request calm
  | waits millis _ inductionHypothesis =>
      exact inductionHypothesis (start.wait millis) calm
  | moves who _ rest inductionHypothesis =>
      refine inductionHypothesis ?_ calm
      rcases who with rfl | rfl
      · exact start.step_caller.1
      · exact start.step_task only (rest.calm calm)

/-- Where the number of turns is limited the two come to rest, unasked. -/
theorem exists_still {limit : Nat}
    (limited : ∀ turns asked final,
      TakesTurns client caller task requested world turns asked requested
        final → turns ≤ limit) :
    ∃ turns asked final,
      TakesTurns client caller task requested world turns asked
        requested final ∧
        final.canMove caller = false ∧ final.canMove task = false := by
  by_contra never
  have longer (number : Nat) : ∃ asked final,
      TakesTurns client caller task requested world number asked
        requested final := by
    induction number with
    | zero => exact ⟨0, world, .rests requested world⟩
    | succ number inductionHypothesis =>
        rcases inductionHypothesis with ⟨asked, final, run⟩
        have onward {self : ThreadId} (who : self = caller ∨ self = task)
            (moves : final.canMove self = true) : ∃ asked final,
              TakesTurns client caller task requested world
                (number + 1) asked requested final := by
          have more := run.trans (.moves who moves (.rests _ _))
          rw [Nat.zero_add, Nat.add_comm 1 number] at more
          exact ⟨_, _, more⟩
        cases moves : final.canMove caller with
        | true => exact onward (.inl rfl) moves
        | false =>
            cases moves' : final.canMove task with
            | true => exact onward (.inr rfl) moves'
            | false =>
                exact absurd ⟨number, asked, final, run, moves, moves'⟩ never
  rcases longer (limit + 1) with ⟨asked, final, run⟩
  exact Nat.not_succ_le_self limit (limited _ _ _ run)

/-- Any order in which each can move when it is named is one in which the two
take turns. -/
theorem of_canMoveAll {order : List ThreadId}
    (who : ∀ self ∈ order, self = caller ∨ self = task)
    (moves : world.canMoveAll client order = true) :
    ∃ turns asked,
      TakesTurns client caller task requested world turns asked requested
      (order.foldl (step client) world) := by
  induction order generalizing world with
  | nil => exact ⟨0, 0, .rests requested world⟩
  | cons self rest inductionHypothesis =>
      rw [canMoveAll, Bool.and_eq_true] at moves
      rcases List.forall_mem_cons.mp who with ⟨first, who⟩
      rcases inductionHypothesis who moves.2 with ⟨turns, asked, run⟩
      exact ⟨_, _, .moves first moves.1 run⟩

end TakesTurns

end World

/-! ## Client code that asks for nothing -/

/-- Client code that replies or panics, and asks for nothing. -/
structure Client.AsksNothing (client : Client σ κ ν) : Prop where
  begins (callback : Callback) (state : σ) {request : Request} {next : κ} :
    (client.begin callback state).move ≠ .perform request next
  resumes (suspended : κ) (response : Response) (state : σ) {request : Request}
    {next : κ} :
    (client.resume suspended response state).move ≠ .perform request next

namespace Shared

theorem clientMove_unasking (shared : Shared σ ν) (stack : List (Frame κ))
    (callback : Option Callback) {turn : ClientTurn σ κ ν}
    (nothing : ∀ {request next}, turn.move ≠ .perform request next) :
    (shared.clientMove stack callback turn).control.asks = false := by
  simp only [clientMove]
  cases move : turn.move with
  | perform request next => exact absurd move nothing
  | finish | panic => rfl

theorem execute_unasking {client : Client σ κ ν} (nothing : client.AsksNothing)
    (shared : Shared σ ν) (around : Surroundings) {stack : List (Frame κ)}
    {instruction : Instruction} (fits : instruction.Fits stack) :
    (shared.execute client around stack instruction).control.asks = false := by
  cases instruction with
  | perform request =>
      simp only [execute, perform]
      split
      case h_12 =>
        simp only [register]
        split <;> rfl
      case h_13 =>
        simp only [unregister]
        split <;> rfl
      all_goals rfl
  | call callback =>
      exact clientMove_unasking _ stack _ (nothing.begins callback _)
  | signal entry next =>
      rcases fits with ⟨⟨answer, rfl⟩ | ⟨task, rfl⟩, _⟩
      · rfl
      · rfl
  | cycle current =>
      simp only [execute, serve]
      split
      · rcases current with ⟨_, productive, after⟩
        cases productive <;> cases after <;> rfl
      · split <;> rfl
  | route | start | stop =>
      simp only [execute, route, start, stop]
      repeat' split
      all_goals rfl
  | check idle watch =>
      simp only [execute, check]
      split
      · rfl
      · cases idle <;> rfl
  | recheck | leave =>
      simp only [execute, recheck, leave]
      split <;> rfl
  | await | parked | create | insert | delete | remove | awaitTask | join =>
      simp only [execute, await, parked, create, insert, delete, remove,
        awaitTask, join]
      split <;> rfl
  | _ => rfl

theorem move_unasking {client : Client σ κ ν} (nothing : client.AsksNothing)
    (shared : Shared σ ν) (around : Surroundings) {stack : List (Frame κ)}
    {control : Control} (fits : control.Fits stack) :
    (shared.move client around stack control).control.asks = false := by
  simp only [move]
  split
  · exact shared.execute_unasking nothing around fits
  · rename_i arrives
    have unasked : control.asks = false := by
      cases control with
      | run instruction => exact absurd rfl (arrives instruction)
      | _ => rfl
    split
    · exact unasked
    · simp only [deliver]
      split
      case h_1 | h_2 => exact clientMove_unasking _ _ _ (nothing.resumes _ _ _)
      case h_8 descriptor reply => cases reply.stream <;> rfl
      case h_10 descriptor stream reply => cases reply.accepted <;> rfl
      case h_4 | h_7 =>
        change (Cycle.afterLoss _ _).asks = false
        exact Cycle.afterLoss_rec _ _ rfl fun _ => rfl
      case h_12 => exact unasked
      all_goals rfl

end Shared

namespace World

/-- Nobody asks for a delivery whose client code asks for nothing. -/
theorem TakesTurns.asked_eq_zero {client : Client σ κ ν}
    {caller task : ThreadId} {requested requested' : Bool}
    {world final : World σ κ ν} {turns asked : Nat}
    (run : TakesTurns client caller task requested world turns asked
      requested' final)
    (nothing : client.AsksNothing) (reached : Reachable client world)
    (quiet : ∀ thread ∈ world.threads, thread.control.asks = false) :
    asked = 0 := by
  induction run with
  | rests => rfl
  | @asks world _ _ _ _ allowed _ inductionHypothesis =>
      refine inductionHypothesis (reached.occur _ allowed) fun thread member =>
        ?_
      rcases (Option.any_eq_true _ _).mp allowed with ⟨before, found, _⟩
      rw [request_of_some found] at member
      rcases List.mem_or_eq_of_mem_set member with old | rfl
      · exact quiet thread old
      · rfl
  | waits millis _ inductionHypothesis =>
      exact inductionHypothesis (reached.occur (.wait millis) rfl) quiet
  | @moves world _ self _ _ _ _ _ moves _ inductionHypothesis =>
      have found := List.getElem?_eq_getElem (lt_length_of_canMove moves)
      have here : world.asks self = false := by
        rw [World.asks, found]
        exact quiet _ (List.mem_of_getElem? found)
      rw [here, Bool.toNat_false, Nat.add_zero]
      refine inductionHypothesis (reached.occur (.step self) rfl)
        fun thread member => ?_
      rcases List.mem_iff_getElem?.mp member with ⟨other, stands⟩
      change (world.step client self).threads[other]? = some thread at stands
      rw [step_of_some found] at stands
      rcases afterTurn_cases stands with ⟨_, rfl⟩ | ⟨_, before⟩ | ⟨_, _, rfl⟩
      · exact world.shared.move_unasking nothing _
          (reached.fits _ (List.mem_of_getElem? found))
      · exact quiet thread (List.mem_of_getElem? before)
      · rfl

end World

end Switchboard
