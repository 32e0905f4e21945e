import Switchboard.Proofs.Line
import Switchboard.Proofs.Slot

/-!
# A stop request reaches the task

Whoever requests a stop raises the flag and then signals.  While one task is the
only one at work, and was so since the flag was last seen lowered, the signal
does not get lost: once nobody owes it, a permit is stored or the task has been
signalled, or the task is about to look at the flag a second time, or it has
left its loop.
-/

namespace Switchboard

variable {σ κ ν : Type}

namespace World

/-- No task but the given one is at work. -/
def WorksAlone (world : World σ κ ν) (task : ThreadId) : Prop :=
  ∀ other, world.isLive other = true → other = task

/-- The thread with the number of a task; before it is spawned it is as good as
at its first step. -/
def taskAt (world : World σ κ ν) (task : ThreadId) : Thread κ :=
  (world.threads[task]?).getD .dispatch

theorem taskAt_of_some {world : World σ κ ν} {task : ThreadId}
    {thread : Thread κ} (found : world.threads[task]? = some thread) :
    world.taskAt task = thread := by
  rw [taskAt, found]
  rfl

variable {client : Client σ κ ν} {world next : World σ κ ν}
  {occurrence : Occurrence κ} {task self : ThreadId} {thread : Thread κ}

/-- What an occurrence does to a task, spawned or not. -/
theorem Becomes.taskAt (becomes : Becomes client world occurrence next)
    (task : ThreadId) :
    (world.taskAt task).Changes client world task occurrence
    (next.taskAt task) := by
  cases stands : world.threads[task]? with
  | some thread =>
      rcases becomes.thread stands with ⟨later, found, changes⟩
      rw [taskAt_of_some stands, taskAt_of_some found]
      exact changes
  | none =>
      have fresh : next.taskAt task = .dispatch := by
        cases found : next.threads[task]? with
        | none =>
            rw [World.taskAt, found]
            rfl
        | some later =>
            rcases becomes.origin found with ⟨thread, before, _⟩ | ⟨_, rfl⟩
            · cases stands.symm.trans before
            · exact taskAt_of_some found
      have begins : world.taskAt task = .dispatch := by
        rw [World.taskAt, stands]
        rfl
      rw [fresh, begins]
      exact .stays _

theorem isParked_eq_taskAt (world : World σ κ ν) (task : ThreadId) :
    world.isParked task = (world.taskAt task).control.isParked := by
  cases found : world.threads[task]? with
  | some thread => rw [isParked_of_some found, taskAt_of_some found]
  | none =>
      rw [isParked, World.taskAt, found]
      rfl

theorem isLive_of_run (found : world.threads[self]? = some thread)
    (role : thread.role = .task) {instruction : Instruction}
    (runs : thread.control = .run instruction) :
    world.isLive self = true :=
  isLive_iff.mpr ⟨thread, found, role, Thread.ending?_of_run runs⟩

end World

/-- Only a task carries out a step of the loop. -/
theorem Reachable.isLive_of_isLoop {client : Client σ κ ν} {world : World σ κ ν}
    (reachable : Reachable client world) {self : ThreadId} {thread : Thread κ}
    (found : world.threads[self]? = some thread) {instruction : Instruction}
    (runs : thread.control = .run instruction)
    (inLoop : (Control.run instruction).isLoop = true) :
    world.isLive self = true := by
  refine World.isLive_of_run found ?_ runs
  cases role : thread.role with
  | task => rfl
  | caller =>
      have outside :=
        (reachable.isOutside (List.mem_of_getElem? found) role).control
      rw [runs, inLoop] at outside
      cases outside

/-- Only a task waits for the wake event. -/
theorem Reachable.isLive_of_isParked {client : Client σ κ ν}
    {world : World σ κ ν} (reachable : Reachable client world) {self : ThreadId}
    (parked : world.isParked self = true) : world.isLive self = true := by
  rcases (Option.any_eq_true _ _).mp parked with ⟨thread, found, waits⟩
  simp only [Control.isParked] at waits
  split at waits
  · rename_i watch runs
    exact reachable.isLive_of_isLoop found runs rfl
  · cases waits

/-- If nobody but a task at its wait is in line, the wake event is as it should
be for it. -/
theorem Wake.Suits.of_line {wake : Wake} {task : ThreadId} {control : Control}
    (alone : wake.line = List.replicate control.isParked.toNat task) :
    wake.Suits True (control.posture task) := by
  simp only [Control.isParked] at alone
  split at alone
  · obtain ⟨waiting, signalled⟩ | ⟨waiting, signalled⟩ :=
      List.append_eq_singleton_iff.mp alone
    · exact .inr ⟨waiting, signalled⟩
    · exact .inl ⟨waiting, signalled, trivial⟩
  · rename_i elsewhere
    obtain ⟨waiting, signalled⟩ := List.append_eq_nil_iff.mp alone
    simp only [Control.posture]
    exact ⟨waiting, signalled, .inr trivial⟩

/-- While a task is the only one at work, the wake event is as it should be for
it. -/
theorem Reachable.suits {client : Client σ κ ν} {world : World σ κ ν}
    (reachable : Reachable client world) {task : ThreadId}
    (alone : world.WorksAlone task) :
    world.shared.dispatcher.wake.Suits True
      ((world.taskAt task).control.posture task) := by
  have once := reachable.isLined.once
  have only : ∀ other ∈ world.shared.dispatcher.wake.line, other = task := by
    intro other member
    apply alone
    apply reachable.isLive_of_isParked
    have positive := List.count_pos_iff.mpr member
    rw [once] at positive
    exact Bool.toNat_eq_one.mp (Nat.le_antisymm (Bool.toNat_le _) positive)
  have counted : world.shared.dispatcher.wake.line.length =
      (world.taskAt task).control.isParked.toNat := by
    rw [← World.isParked_eq_taskAt, ← once,
      List.count_eq_length.mpr fun other member => (only other member).symm]
  apply Wake.Suits.of_line
  rw [← counted]
  exact List.eq_replicate_of_mem only

/-! ## One step -/

/-- A signal reaches the only task at work, or it stays as a permit. -/
theorem Wake.Suits.reaches {wake : Wake} {task : ThreadId} {control : Control}
    {clear : Prop} (suits : wake.Suits clear (control.posture task)) :
    wake.signal.permit = true ∨ wake.signal.hasSignalled task = true := by
  have signalled := suits.signal False
  simp only [Control.posture] at signalled
  split at signalled
  · obtain ⟨_, _, impossible⟩ | ⟨_, called⟩ := signalled
    · exact impossible.elim
    · exact .inr (Wake.hasSignalled_of_eq called)
  · exact .inl (signalled.2.2.resolve_right id)

/-- A task uses up a signal only to look at the flag a second time. -/
theorem Shared.move_hears (client : Client σ κ ν) {shared : Shared σ ν}
    (around : Surroundings) (stack : List (Frame κ)) {control : Control}
    (silent : control.signals = false)
    (suits : shared.dispatcher.wake.Suits True (control.posture around.self))
    (stored : shared.dispatcher.wake.permit = true ∨
      shared.dispatcher.wake.hasSignalled around.self = true) :
    let turn := shared.move client around stack control
    (∃ watch, turn.control = .run (.recheck watch)) ∨
      turn.shared.dispatcher.wake.permit = true ∨
        turn.shared.dispatcher.wake.hasSignalled around.self = true := by
  cases touches : control.touchesWake with
  | false =>
      right
      simp only [shared.move_wake client around stack touches]
      exact stored
  | true =>
      simp only [Control.touchesWake] at touches
      split at touches
      · cases silent
      · rename_i watch
        rcases suits with ⟨_, signalled, _⟩
        simp only [Wake.hasSignalled, signalled, List.contains_nil,
          Bool.false_eq_true, or_false] at stored
        simp only [move, execute, await, stored, ↓reduceIte]
        exact .inl ⟨watch, rfl⟩
      · rename_i watch
        simp only [move, execute, parked]
        split
        · exact .inl ⟨watch, rfl⟩
        · exact .inr stored
      · cases touches

namespace World

/-- A stop request is not lost on a task: if it was made, its signal is still
owed, or a permit is stored or the task has been signalled. -/
def HearsStop (world : World σ κ ν) (task : ThreadId) : Prop :=
  world.OwesStop ∨ world.shared.dispatcher.wake.permit = true ∨
    world.shared.dispatcher.wake.hasSignalled task = true

variable {client : Client σ κ ν} {world next : World σ κ ν}
  {occurrence : Occurrence κ} {task : ThreadId}

/-- Whoever is replaced owes nothing and leaves the wake event alone. -/
theorem HearsStop.put {self : ThreadId} {thread : Thread κ}
    (hears : world.HearsStop task) (found : world.threads[self]? = some thread)
    (silent : thread.control.signals = false) {shared : Shared σ ν}
    (same : shared.dispatcher = world.shared.dispatcher)
    (replacement : Thread κ) :
    (World.put { world with shared := shared } self replacement).HearsStop
      task := by
  refine hears.imp (fun owes => ?_) fun stored => ?_
  · exact owes.put found silent
      (congrArg Dispatcher.stopRequested same) replacement
  · simp only [World.put, same]
    exact stored

/-- A stop request is not lost by anything that happens, but for a look at the
flag and for the end of the task. -/
theorem HearsStop.onward (hears : world.HearsStop task)
    (reached : Reachable client world)
    (becomes : Becomes client world occurrence next)
    (alone : world.WorksAlone task)
    (stays : ¬ HasLeft (next.taskAt task).stack (next.taskAt task).control)
    (unlooking : ∀ watch, (next.taskAt task).control ≠ .run (.recheck watch)) :
    next.HearsStop task := by
  have suits := reached.suits alone
  have silent {thread : Thread κ} {instruction : Instruction}
      (waits : thread.control = .run instruction)
      (patient : instruction.canBeAbandoned = true) :
      thread.control.signals = false := by
    rw [waits]
    cases instruction with
    | signal entry next => cases patient
    | _ => rfl
  cases becomes with
  | same | waited => exact hears
  | @moved self thread found =>
      cases signals : thread.control.signals with
      | true =>
          simp only [Control.signals] at signals
          split at signals
          · rename_i entry next sends
            rw [sends]
            exact .inr suits.reaches
          · cases signals
      | false =>
          refine hears.imp (fun owes => owes.moved found signals client)
            fun stored => ?_
          by_cases same : self = task
          · subst same
            rw [taskAt_of_some found] at suits
            rw [taskAt_of_some (afterTurn_self found _ _)] at unlooking
            rcases Shared.move_hears client
              (world.surroundings self) thread.stack signals suits
              stored with ⟨watch, rechecks⟩ | stored
            · exact absurd rechecks (unlooking watch)
            · exact stored
          · have elsewhere : thread.control.touchesWake = false := by
              rw [Bool.eq_false_iff]
              intro touches
              simp only [Control.touchesWake] at touches
              split at touches
              · rename_i sends
                rw [sends] at signals
                cases signals
              · rename_i waits
                exact same
                  (alone self (reached.isLive_of_isLoop found waits rfl))
              · rename_i waits
                exact same
                  (alone self (reached.isLive_of_isLoop found waits rfl))
              · cases touches
            simp only [afterTurn, world.shared.move_wake client _ _ elsewhere]
            exact stored
  | asked request found free =>
      exact hears.put found (silent_of_isFree free) rfl _
  | handed code found free =>
      exact hears.put found (silent_of_isFree free) rfl _
  | abandoned found waits which =>
      refine hears.put found (silent waits ?_) rfl _
      obtain rfl | rfl | ⟨task, rfl⟩ := which <;> rfl
  | stopAbandoned found waits =>
      exact hears.put found (silent waits rfl)
        (world.shared.updateApplication_dispatcher _) _
  | @cancelledFirst self stack found =>
      cases alone self (reached.isLive_of_isLoop found rfl rfl)
      rw [taskAt_of_some (put_self found _)] at stays
      exact absurd (.ended fun _ => Control.noConfusion) stays
  | @cancelledParked self stack watch found =>
      cases alone self (reached.isLive_of_isLoop found rfl rfl)
      have found' : ({ world with
          shared := world.shared.dispatch (·.withWake (·.withdraw task)) } :
          World σ κ ν).threads[task]? =
            some ⟨.task, stack, .run (.parked watch)⟩ := found
      rw [taskAt_of_some (put_self found' _)] at stays
      exact absurd (.ended fun _ => Control.noConfusion) stays

/-- Where a task is on its course, and what has become of a stop request. -/
inductive MindsStop (world : World σ κ ν) (task : ThreadId) : Prop
  | hears (inLoop : InLoop (world.taskAt task).stack
      (world.taskAt task).control) (hears : world.HearsStop task)
  | looks (watch : Nat) (empty : (world.taskAt task).stack = [])
      (rechecks : (world.taskAt task).control = .run (.recheck watch))
  | left (left : HasLeft (world.taskAt task).stack (world.taskAt task).control)

end World

/-- A task, spawned or not, is on its course. -/
theorem Reachable.taskAt_inTask {client : Client σ κ ν} {world : World σ κ ν}
    (reachable : Reachable client world) {task : ThreadId}
    (role : (world.taskAt task).role = .task) :
    (world.taskAt task).Fits ∧
      world.shared.Tells (world.taskAt task).stack (world.taskAt task).control ∧
        InTask (world.taskAt task).stack (world.taskAt task).control := by
  cases found : world.threads[task]? with
  | some thread =>
      have member := List.mem_of_getElem? found
      rw [World.taskAt_of_some found] at role ⊢
      exact ⟨reachable.fits thread member, reachable.tells thread member,
        reachable.inTask found role⟩
  | none =>
      have begins : world.taskAt task = .dispatch := by
        rw [World.taskAt, found]
        rfl
      rw [begins]
      exact ⟨rfl, fun _ _ _ _ _ _ raises => Control.noConfusion raises,
        .loops (.between rfl)⟩

namespace World

variable {client : Client σ κ ν} {world next : World σ κ ν}
  {occurrence : Occurrence κ} {task : ThreadId}

/-- Of a stop request that is not lost on a task the task takes note as long as
it is the only one at work. -/
theorem HearsStop.minds (hears : world.HearsStop task)
    (reached : Reachable client world)
    (becomes : Becomes client world occurrence next)
    (alone : world.WorksAlone task) (reached' : Reachable client next)
    (role : (next.taskAt task).role = .task) :
    next.MindsStop task := by
  rcases reached'.taskAt_inTask role with ⟨fits, _, inTask⟩
  rcases inTask.inLoop_or_hasLeft with inLoop | left
  · by_cases looks : ∃ watch, (next.taskAt task).control = .run (.recheck watch)
    · rcases looks with ⟨watch, rechecks⟩
      rw [Thread.Fits, rechecks] at fits
      exact .looks watch fits rechecks
    · rw [not_exists] at looks
      exact .hears inLoop
        (hears.onward reached becomes alone
          (fun left => left.not_inLoop inLoop) looks)
  · exact .left left

/-- The task takes note of a stop request whatever happens next. -/
theorem MindsStop.onward (minds : world.MindsStop task)
    (reached : Reachable client world)
    (becomes : Becomes client world occurrence next)
    (alone : world.WorksAlone task) (reached' : Reachable client next)
    (role : (world.taskAt task).role = .task) :
    next.MindsStop task := by
  have changes := becomes.taskAt task
  have role' := changes.role.trans role
  cases minds with
  | hears inLoop hears => exact hears.minds reached becomes alone reached' role'
  | looks watch empty rechecks =>
      rcases changes.of_run rechecks ⟨rfl, rfl⟩ with same | ⟨_, moved⟩
      · exact .looks watch (same ▸ empty) (same ▸ rechecks)
      · simp only [Shared.execute, Shared.recheck] at moved
        split at moved
        · apply MindsStop.left
          rw [moved]
          change HasLeft (world.taskAt task).stack _
          rw [empty]
          exact .leaves (.inl rfl)
        · rename_i lowered
          exact HearsStop.minds (.inl fun raised => absurd raised lowered)
            reached becomes alone
            reached' role'
  | left left =>
      rcases reached.taskAt_inTask role with ⟨fits, tells, _⟩
      exact .left (changes.hasLeft fits tells role left)

end World

/-- From a moment at which the stop flag is lowered a task takes note of every
stop request, as long as it is the only one at work. -/
theorem Reachable.mindsStop_at {client : Client σ κ ν} {world : World σ κ ν}
    {run : List (Occurrence κ)} (reachable : Reachable client world)
    (allowed : world.allowsAll client run = true) {task : ThreadId}
    {earlier later : Nat} (order : earlier ≤ later)
    (inside : later ≤ run.length) (alone : ∀ moment, earlier ≤ moment →
      moment < later → (world.upTo client run moment).WorksAlone task)
    (role : ((world.upTo client run earlier).taskAt task).role = .task)
    (lowered : (world.upTo client run earlier).shared.dispatcher.stopRequested =
      false) :
    ((world.upTo client run later).taskAt task).role = .task ∧
      (world.upTo client run later).MindsStop task := by
  induction later, order using Nat.le_induction with
  | base =>
      have course := (reachable.upTo allowed earlier).taskAt_inTask role
      refine ⟨role, ?_⟩
      rcases course.2.2.inLoop_or_hasLeft with inLoop | left
      · refine .hears inLoop (.inl fun raised => ?_)
        cases lowered.symm.trans raised
      · exact .left left
  | succ moment order inductionHypothesis =>
      rcases inductionHypothesis (Nat.le_of_succ_le inside)
        (fun before after inner => alone before after
          (Nat.lt_succ_of_lt inner)) with
        ⟨role, minds⟩
      have becomes := World.becomes_at allowed (List.getElem?_eq_getElem inside)
      exact ⟨(becomes.taskAt task).role.trans role,
        minds.onward (reachable.upTo allowed moment) becomes
          (alone moment order (Nat.lt_succ_self _))
          (reachable.upTo allowed _) role⟩

end Switchboard
