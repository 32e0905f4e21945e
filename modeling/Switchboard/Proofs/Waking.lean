import Switchboard.Proofs.Summons

/-!
# What is left of the signals

A task is awake from the moment at which it takes the permit, or at which a
signal reaches it in line, until it looks at the flag.  Whatever was signalled
before is used up then, and of what is signalled since one permit is left.  As
long as nobody comes to a wait, no signal is used up at all.
-/

namespace Switchboard

variable {σ κ ν : Type}

/-! ## Moves that lead to a second look -/

/-- A task comes to its second look from its wait only. -/
theorem Shared.rechecks_cases {client : Client σ κ ν} {shared : Shared σ ν}
    {around : Surroundings} {stack : List (Frame κ)} {control : Control}
    (fits : control.Fits stack) (tells : shared.Tells stack control)
    (inTask : InTask stack control) {watch : Nat}
    (rechecks : (shared.move client around stack control).control =
      .run (.recheck watch)) :
    (∃ watch, control = .run (.await watch) ∧
      shared.dispatcher.wake.permit = true) ∨
      ∃ watch, control = .run (.parked watch) ∧
        shared.dispatcher.wake.hasSignalled around.self = true := by
  have empty : (shared.move client around stack control).stack = [] := by
    have fits' := shared.move_fits client around fits
    rw [Turn.Fits, rechecks] at fits'
    exact fits'
  rcases inTask.inLoop_or_hasLeft with inLoop | left
  · cases inLoop with
    | between between =>
        simp only [Control.isBetweenCycles] at between
        split at between
        · cases rechecks
        · simp only [move, execute, check] at rechecks
          split at rechecks
          · cases rechecks
          · rename_i idle _ _
            cases idle <;> cases rechecks
        · rename_i watch
          simp only [move, execute, await] at rechecks
          split at rechecks
          · rename_i stored
            exact .inl ⟨watch, rfl, stored⟩
          · cases rechecks
        · rename_i watch
          simp only [move, execute, parked] at rechecks
          split at rechecks
          · rename_i called
            exact .inr ⟨watch, rfl, called⟩
          · cases rechecks
        · simp only [move, execute, recheck] at rechecks
          split at rechecks <;> cases rechecks
        · cases between
    | inCycle watch left inCycle =>
        exfalso
        rcases shared.move_isInCycle client around fits tells
          (inCycle.mono (Nat.le_add_right _ _)) with stays | returns | escapes
        · rw [Turn.IsInCycle, empty] at stays
          rcases stays.of_nil with ⟨cycle, _, serves | ⟨entry, routes⟩⟩
          · cases rechecks.symm.trans serves
          · cases rechecks.symm.trans routes
        · rcases returns with ⟨cycle, same, _, _, _, _, next⟩
          simp only [Cycle.next, same] at next
          cases rechecks.symm.trans next
        · rcases escapes.leaves with ⟨payload, _, raises⟩
          cases rechecks.symm.trans raises
  · have left' := shared.move_hasLeft client around fits tells left
    simp only [rechecks, empty] at left'
    exact absurd (.between rfl) left'.not_inLoop

/-! ## One step -/

/-- Whether a control is one of a task that comes to its wait or is there. -/
def Control.waits : Control → Bool
  | .run (.await _) | .run (.parked _) => true
  | _ => false

theorem Control.touchesWake_of_unwaiting {control : Control}
    (unwaiting : control.waits = false) (silent : control.signals = false) :
    control.touchesWake = false := by
  simp only [touchesWake]
  split
  · cases silent
  · cases unwaiting
  · cases unwaiting
  · rfl

theorem Control.isParked_of_unwaiting {control : Control}
    (unwaiting : control.waits = false) :
    control.isParked = false := by
  simp only [isParked]
  split
  · cases unwaiting
  · rfl

/-- Only a task comes to a wait. -/
theorem Reachable.isLive_of_waits {client : Client σ κ ν} {world : World σ κ ν}
    (reachable : Reachable client world) {self : ThreadId} {thread : Thread κ}
    (found : world.threads[self]? = some thread)
    (waits : thread.control.waits = true) :
    world.isLive self = true := by
  simp only [Control.waits] at waits
  split at waits
  · rename_i runs
    exact reachable.isLive_of_isLoop found runs rfl
  · rename_i runs
    exact reachable.isLive_of_isLoop found runs rfl
  · cases waits

/-- Whether a task with a control has been woken and has not looked at the flag
since. -/
def Control.isAwake (wake : Wake) (task : ThreadId) : Control → Bool
  | .run (.recheck _) => true
  | .run (.parked _) => wake.hasSignalled task
  | _ => false

theorem Control.isAwake_iff {control : Control} {wake : Wake}
    {task : ThreadId} :
    control.isAwake wake task = true ↔
      (∃ watch, control = .run (.recheck watch)) ∨
        ∃ watch, control = .run (.parked watch) ∧
          wake.hasSignalled task = true := by
  constructor
  · intro awake
    simp only [isAwake] at awake
    split at awake
    · exact .inl ⟨_, rfl⟩
    · exact .inr ⟨_, rfl, awake⟩
    · cases awake
  · rintro (⟨watch, rfl⟩ | ⟨watch, rfl, called⟩)
    · rfl
    · exact called

/-- A signal is kept if it finds the only task awake. -/
theorem Wake.Suits.permit_signal {wake : Wake} {task : ThreadId}
    {control : Control} (suits : wake.Suits True (control.posture task))
    (unstored : wake.waiting ≠ [] → wake.permit = false)
    (awake : control.isAwake wake.signal task = true) :
    wake.signal.permit = true ↔ control.isAwake wake task = true := by
  rcases wake with ⟨permit, waiting, signalled⟩
  simp only [Control.isAwake] at awake ⊢
  split at awake
  · rcases suits with ⟨rfl, _⟩
    simp [Wake.signal]
  · rcases suits with ⟨rfl, rfl, _⟩ | ⟨rfl, rfl⟩
    · have absent := unstored (List.cons_ne_nil _ _)
      dsimp only at absent
      subst absent
      simp [Wake.signal, Wake.hasSignalled]
    · simp [Wake.signal, Wake.hasSignalled]
  · cases awake

namespace World

/-- Whether an occurrence signals the wake event. -/
def signals (world : World σ κ ν) : Occurrence κ → Bool
  | .step self =>
      (world.threads[self]?).any fun thread => thread.control.signals
  | _ => false

/-- Whether a task has been woken and has not looked at the flag since. -/
def isAwake (world : World σ κ ν) (task : ThreadId) : Bool :=
  (world.taskAt task).control.isAwake world.shared.dispatcher.wake task

variable {client : Client σ κ ν} {world next : World σ κ ν}
  {occurrence : Occurrence κ} {task : ThreadId}

theorem signals_iff : world.signals occurrence = true ↔
    ∃ self thread, occurrence = .step self ∧
      world.threads[self]? = some thread ∧
      thread.control.signals = true := by
  cases occurrence with
  | step self => simp [signals, Option.any_eq_true]
  | _ => simp [signals]

/-- A thread that signals leaves a signal, and does not wait. -/
theorem after_of_signals {self : ThreadId} {thread : Thread κ}
    (found : world.threads[self]? = some thread) (fits : thread.Fits)
    (signals : thread.control.signals = true) :
    (world.after client (.step self)).shared.dispatcher.wake =
        world.shared.dispatcher.wake.signal ∧
      ∃ now, (world.after client (.step self)).threads[self]? = some now ∧
        now.control.waits = false ∧
          ∀ wake, now.control.isAwake wake self = false := by
  have moved := step_self client found
  simp only [Control.signals] at signals
  split at signals
  · rename_i entry following sends
    rw [Thread.Fits, sends] at fits
    rw [sends] at moved
    refine ⟨congrArg (·.dispatcher.wake) moved.1, _, moved.2, ?_⟩
    obtain ⟨answer, rfl⟩ | ⟨awaited, rfl⟩ := fits.1
    · exact ⟨rfl, fun _ => rfl⟩
    · exact ⟨rfl, fun _ => rfl⟩
  · cases signals

theorem IsLined.waiting_eq_nil (lined : world.IsLined)
    (unwaiting : ∀ thread ∈ world.threads, thread.control.waits = false) :
    world.shared.dispatcher.wake.waiting = [] := by
  rw [List.eq_nil_iff_forall_not_mem]
  intro self member
  have positive := List.count_pos_iff.mpr
    (List.mem_append_left world.shared.dispatcher.wake.signalled member)
  rw [← Wake.line, lined.once] at positive
  have parked : world.isParked self = true :=
    Bool.toNat_eq_one.mp (Nat.le_antisymm (Bool.toNat_le _) positive)
  rcases (Option.any_eq_true _ _).mp parked with ⟨thread, found, waits⟩
  have absent := unwaiting thread (List.mem_of_getElem? found)
  simp only [Control.isParked] at waits
  split at waits
  · rename_i runs
    rw [runs] at absent
    cases absent
  · cases waits

/-- What is not a signal, nor a move or the end of somebody at a wait, leaves
the wake event alone. -/
theorem Becomes.wake_eq (becomes : Becomes client world occurrence next)
    (silent : world.signals occurrence = false)
    (unwaiting : ∀ self thread, occurrence = .step self →
      world.threads[self]? = some thread → thread.control.waits = false)
    (uncancelled : ∀ self thread, occurrence = .cancel self →
      world.threads[self]? = some thread → thread.control.isParked = false) :
    next.shared.dispatcher.wake = world.shared.dispatcher.wake := by
  cases becomes with
  | @moved self thread found =>
      rw [signals, found] at silent
      exact world.shared.move_wake client _ _
        (Control.touchesWake_of_unwaiting
          (unwaiting self thread rfl found) silent)
  | stopAbandoned found waits =>
      exact congrArg Dispatcher.wake
        (world.shared.updateApplication_dispatcher _)
  | cancelledParked found => cases uncancelled _ _ rfl found
  | _ => rfl

/-- While nobody waits a signal is stored, and nothing else touches the
permit. -/
theorem permit_after_iff (reached : Reachable client world)
    (allowed : world.allows occurrence = true)
    (unwaiting : ∀ thread ∈ world.threads, thread.control.waits = false) :
    (world.after client occurrence).shared.dispatcher.wake.permit = true ↔
      world.shared.dispatcher.wake.permit = true ∨
        world.signals occurrence = true := by
  cases signals : world.signals occurrence with
  | true =>
      obtain ⟨self, thread, rfl, found, signals⟩ := signals_iff.mp signals
      have member := List.mem_of_getElem? found
      rw [(after_of_signals found (reached.fits thread member) signals).1]
      simp only [Wake.signal, reached.isLined.waiting_eq_nil unwaiting, or_true]
  | false =>
      have same := (after_becomes client allowed).wake_eq signals
        (fun self thread _ found => unwaiting thread
          (List.mem_of_getElem? found))
        fun self thread _ found =>
          Control.isParked_of_unwaiting
            (unwaiting thread (List.mem_of_getElem? found))
      rw [same, Bool.false_eq_true, or_false]

end World

/-- A task that goes on at its wait with a stored permit has used it up.  One
that was signalled there leaves the permit as it is. -/
theorem Shared.move_isAwake (client : Client σ κ ν) (shared : Shared σ ν)
    (around : Surroundings) {stack : List (Frame κ)} {control : Control}
    (fits : control.Fits stack) (tells : shared.Tells stack control)
    (inTask : InTask stack control)
    (suits : shared.dispatcher.wake.Suits True (control.posture around.self)) :
    let turn := shared.move client around stack control
    turn.control.isAwake turn.shared.dispatcher.wake around.self = true →
      (turn.shared.dispatcher.wake.permit = true ↔
        control.isAwake shared.dispatcher.wake around.self = true ∧
          shared.dispatcher.wake.permit = true) := by
  intro turn awake
  obtain ⟨watch, rechecks⟩ | ⟨watch, parks, called⟩ :=
    Control.isAwake_iff.mp awake
  · rcases Shared.rechecks_cases fits tells inTask rechecks with
      ⟨watch, rfl, stored⟩ | ⟨watch, rfl, called⟩
    · simp only [turn, move, execute, await, stored, ↓reduceIte]
      simp [Turn.run, Turn.pass, dispatch, Dispatcher.withWake, Wake.takePermit,
        Control.isAwake]
    · simp only [turn, move, execute, parked, called, ↓reduceIte]
      simp [Turn.run, Turn.pass, dispatch, Dispatcher.withWake, Wake.dismiss,
        Control.isAwake, called]
  · have watches := shared.move_watches client around fits
    change Watches shared around.self stack control turn at watches
    generalize turn = turn at watches called parks
    -- A task that has just got in line, or stays there, has not been signalled.
    cases watches with
    | parks watch absent =>
        rcases suits with ⟨_, signalled, _⟩
        change List.contains shared.dispatcher.wake.signalled around.self =
          true at called
        rw [signalled] at called
        cases called
    | stays watch silent => cases silent.symm.trans called
    | looks watch fresh => cases fresh.symm.trans parks
    | elsewhere away =>
        rw [parks] at away
        cases away
    | _ => cases parks

namespace World

variable {client : Client σ κ ν} {world next : World σ κ ν}
  {occurrence : Occurrence κ} {task : ThreadId}

/-- A task that is cancelled at its wait has ended. -/
theorem cancel_of_parked {thread : Thread κ}
    (found : world.threads[task]? = some thread) (role : thread.role = .task)
    (parked : thread.control.isParked = true) :
    (world.after client (.cancel task)).taskAt task =
    ⟨.task, [], .cancelled⟩ := by
  rcases thread with ⟨_, stack, control⟩
  cases role
  simp only [Control.isParked] at parked
  split at parked
  · simp only [after, cancel, found]
    exact taskAt_of_some
      (List.getElem?_set_self (List.getElem?_eq_some_iff.mp found).1)
  · cases parked

/-- Whoever has been woken finds a permit if and only if a signal has come
since. -/
theorem permit_after_iff_of_isAwake (reached : Reachable client world)
    (allowed : world.allows occurrence = true) (alone : world.WorksAlone task)
    (role : (world.taskAt task).role = .task)
    (awake : (world.after client occurrence).isAwake task = true) :
    (world.after client occurrence).shared.dispatcher.wake.permit = true ↔
      world.isAwake task = true ∧
        (world.shared.dispatcher.wake.permit = true ∨
          world.signals occurrence = true) := by
  have suits := reached.suits alone
  have becomes := after_becomes client allowed
  have changes := becomes.taskAt task
  -- What others do leaves the task where it is.
  have still (others : occurrence ≠ .step task) :
      (world.after client occurrence).taskAt task = world.taskAt task := by
    rw [isAwake] at awake
    generalize (world.after client occurrence).taskAt task =
      later at changes awake
    cases changes with
    | stays => rfl
    | moves => exact absurd rfl others
    | _ => cases awake
  cases signals : world.signals occurrence with
  | true =>
      obtain ⟨self, thread, rfl, found, signals⟩ := signals_iff.mp signals
      have fits := reached.fits thread (List.mem_of_getElem? found)
      obtain ⟨wake, now, stands, _, asleep⟩ :=
        @after_of_signals _ _ _ client _ _ _ found fits signals
      have others : self ≠ task := by
        rintro rfl
        rw [isAwake, taskAt_of_some stands, asleep] at awake
        cases awake
      rw [isAwake, still fun same => others (Occurrence.step.inj same),
        wake] at awake
      rw [wake, suits.permit_signal reached.isLined.unstored awake, ← isAwake]
      simp only [or_true, and_true]
  | false =>
      simp only [Bool.false_eq_true, or_false]
      by_cases own : occurrence = .step task
      · subst own
        rcases reached.taskAt_inTask role with ⟨fits, tells, inTask⟩
        cases found : world.threads[task]? with
        | none =>
            simp only [after, step, found] at awake ⊢
            exact ⟨fun stored => ⟨awake, stored⟩, And.right⟩
        | some thread =>
            rcases step_self client found with ⟨shared, stands⟩
            rw [taskAt_of_some found] at suits fits tells inTask
            change (world.step client task).isAwake task = true at awake
            change (world.step client task).shared.dispatcher.wake.permit =
              true ↔ _
            rw [isAwake, taskAt_of_some stands, shared] at awake
            rw [isAwake, taskAt_of_some found, shared]
            exact world.shared.move_isAwake client
              (world.surroundings task) fits tells inTask
              suits awake
      · have same : (world.after client occurrence).shared.dispatcher.wake =
            world.shared.dispatcher.wake := by
          refine becomes.wake_eq signals (fun self thread steps found => ?_)
            fun self thread cancels found => ?_
          · rw [Bool.eq_false_iff]
            intro waits
            cases alone self (reached.isLive_of_waits found waits)
            exact own steps
          · rw [Bool.eq_false_iff]
            intro parked
            cases alone self
              (reached.isLive_of_isParked
                ((isParked_of_some found).trans parked))
            subst cancels
            rw [isAwake,
              cancel_of_parked found
                (taskAt_of_some found ▸ role) parked] at awake
            cases awake
        rw [isAwake, still own, same] at awake
        rw [same]
        exact ⟨fun stored => ⟨awake, stored⟩, And.right⟩

end World

/-! ## Signals on a run -/

namespace World

variable {client : Client σ κ ν} {world : World σ κ ν}
  {run : List (Occurrence κ)} {task : ThreadId} {earlier later : Nat}

/-- The wake event is signalled between two moments of a run. -/
def SignalledBetween (client : Client σ κ ν) (world : World σ κ ν)
    (run : List (Occurrence κ)) (earlier later : Nat) : Prop :=
  ∃ moment occurrence, earlier ≤ moment ∧ moment < later ∧
    run[moment]? = some occurrence ∧
    (world.upTo client run moment).signals occurrence = true

theorem SignalledBetween.lt
    (signalled : world.SignalledBetween client run earlier later) :
    earlier < later := by
  rcases signalled with ⟨moment, _, after, before, _⟩
  exact Nat.lt_of_le_of_lt after before

theorem signalledBetween_succ (order : earlier ≤ later)
    {occurrence : Occurrence κ} (next : run[later]? = some occurrence) :
    world.SignalledBetween client run earlier (later + 1) ↔
      world.SignalledBetween client run earlier later ∨
        (world.upTo client run later).signals occurrence = true := by
  constructor
  · rintro ⟨moment, happened, after, before, happens, signals⟩
    rcases Nat.lt_succ_iff_lt_or_eq.mp before with inner | rfl
    · exact .inl ⟨moment, happened, after, inner, happens, signals⟩
    · cases happens.symm.trans next
      exact .inr signals
  · rintro (⟨moment, happened, after, before, happens, signals⟩ | signals)
    · exact ⟨moment, happened, after, Nat.lt_succ_of_lt before,
        happens, signals⟩
    · exact ⟨later, occurrence, order, Nat.lt_succ_self _, next, signals⟩

/-- Two spans of a run that meet. -/
theorem signalledBetween_trans {middle : Nat} (former : earlier ≤ middle)
    (latter : middle ≤ later) :
    world.SignalledBetween client run earlier middle ∨
        world.SignalledBetween client run middle later ↔
      world.SignalledBetween client run earlier later := by
  constructor
  · rintro (⟨moment, happened, after, before, signals⟩ | ⟨moment, happened,
      after, before, signals⟩)
    · exact ⟨moment, happened, after, Nat.lt_of_lt_of_le before latter, signals⟩
    · exact ⟨moment, happened, Nat.le_trans former after, before, signals⟩
  · rintro ⟨moment, happened, after, before, signals⟩
    rcases Nat.lt_or_ge moment middle with inner | outer
    · exact .inl ⟨moment, happened, after, inner, signals⟩
    · exact .inr ⟨moment, happened, outer, before, signals⟩

/-- At the moment `woken` a task is woken, and it has not looked at the flag
until `later`. -/
structure WokenAt (client : Client σ κ ν) (world : World σ κ ν)
    (run : List (Occurrence κ)) (task : ThreadId) (woken later : Nat) :
    Prop where
  before : woken < later
  asleep : (world.upTo client run woken).isAwake task = false
  awake (moment : Nat) : woken < moment → moment ≤ later →
    (world.upTo client run moment).isAwake task = true

/-- A task was last woken once. -/
theorem WokenAt.eq {woken woken' : Nat}
    (one : world.WokenAt client run task woken later)
    (other : world.WokenAt client run task woken' later) : woken = woken' := by
  rcases Nat.lt_trichotomy woken woken' with less | same | more
  · cases other.asleep.symm.trans
      (one.awake woken' less (Nat.le_of_lt other.before))
  · exact same
  · cases one.asleep.symm.trans
      (other.awake woken more (Nat.le_of_lt one.before))

/-- Roles are for life. -/
theorem taskAt_role_at (allowed : world.allowsAll client run = true)
    (order : earlier ≤ later) (inside : later ≤ run.length) :
    ((world.upTo client run later).taskAt task).role =
      ((world.upTo client run earlier).taskAt task).role := by
  induction later, order using Nat.le_induction with
  | base => rfl
  | succ moment order inductionHypothesis =>
      have becomes := becomes_at allowed (List.getElem?_eq_getElem inside)
      exact (becomes.taskAt task).role.trans
        (inductionHypothesis (Nat.le_of_succ_le inside))

end World

/-- A task that is awake was woken at some moment, and it finds a permit if and
only if a signal has come since. -/
theorem Reachable.wokenAt {client : Client σ κ ν} {world : World σ κ ν}
    {run : List (Occurrence κ)} (reachable : Reachable client world)
    (allowed : world.allowsAll client run = true) {task : ThreadId}
    {earlier later : Nat} (order : earlier ≤ later)
    (inside : later ≤ run.length)
    (begins : (world.upTo client run earlier).taskAt task = .dispatch)
    (alone : ∀ moment, earlier ≤ moment → moment < later →
      (world.upTo client run moment).WorksAlone task)
    (awake : (world.upTo client run later).isAwake task = true) :
    ∃ woken, world.WokenAt client run task woken later ∧
      ((world.upTo client run later).shared.dispatcher.wake.permit = true ↔
        world.SignalledBetween client run (woken + 1) later) := by
  induction later, order using Nat.le_induction with
  | base =>
      rw [World.isAwake, begins] at awake
      cases awake
  | succ moment order inductionHypothesis =>
      have next : run[moment]? = some run[moment] :=
        List.getElem?_eq_getElem inside
      have before := Nat.le_of_succ_le inside
      have role :
          ((world.upTo client run moment).taskAt task).role = .task := by
        rw [World.taskAt_role_at allowed order before, begins]
        rfl
      have permit :=
        World.permit_after_iff_of_isAwake (reachable.upTo allowed moment)
          ((World.allowsAll_take allowed moment).2 _ next)
          (alone moment order (Nat.lt_succ_self _))
          role (World.upTo_succ next ▸ awake)
      rw [← World.upTo_succ next] at permit
      cases was : (world.upTo client run moment).isAwake task with
      | true =>
          rcases inductionHypothesis before
            (fun between after inner => alone between after
              (Nat.lt_succ_of_lt inner)) was with
            ⟨woken, wokenAt, permit'⟩
          refine ⟨woken, ⟨Nat.lt_succ_of_lt wokenAt.before, wokenAt.asleep, ?_⟩,
            ?_⟩
          · intro between after inner
            rcases Nat.le_succ_iff.mp inner with inner | rfl
            · exact wokenAt.awake between after inner
            · exact awake
          · rw [permit, was, World.signalledBetween_succ wokenAt.before next,
              permit']
            exact and_iff_right rfl
      | false =>
          refine ⟨moment, ⟨Nat.lt_succ_self _, was, ?_⟩, ?_⟩
          · intro between after inner
            rw [Nat.le_antisymm inner after]
            exact awake
          · rw [permit, was]
            constructor
            · exact fun impossible => absurd impossible.1 Bool.false_ne_true
            · exact fun signalled => absurd signalled.lt (Nat.lt_irrefl _)

/-- While nobody comes to a wait or is there, every signal is kept. -/
theorem Reachable.permit_between_iff {client : Client σ κ ν}
    {world : World σ κ ν} {run : List (Occurrence κ)}
    (reachable : Reachable client world)
    (allowed : world.allowsAll client run = true) {earlier later : Nat}
    (order : earlier ≤ later) (inside : later ≤ run.length)
    (unwaiting : ∀ moment, earlier ≤ moment → moment < later →
      ∀ thread ∈ (world.upTo client run moment).threads,
        thread.control.waits = false) :
    (world.upTo client run later).shared.dispatcher.wake.permit = true ↔
      (world.upTo client run earlier).shared.dispatcher.wake.permit = true ∨
        world.SignalledBetween client run earlier later := by
  induction later, order using Nat.le_induction with
  | base =>
      constructor
      · exact .inl
      · rintro (stored | signalled)
        · exact stored
        · exact absurd signalled.lt (Nat.lt_irrefl _)
  | succ moment order inductionHypothesis =>
      have next : run[moment]? = some run[moment] :=
        List.getElem?_eq_getElem inside
      rw [World.upTo_succ next,
        World.permit_after_iff (reachable.upTo allowed moment)
          ((World.allowsAll_take allowed moment).2 _ next)
          (unwaiting moment order (Nat.lt_succ_self _)),
        World.signalledBetween_succ order next,
        inductionHypothesis (Nat.le_of_succ_le inside)
          fun between after inner =>
            unwaiting between after (Nat.lt_succ_of_lt inner), or_assoc]

end Switchboard
