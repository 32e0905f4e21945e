import Switchboard.Proofs.Replacement
import Switchboard.Proofs.Waking

/-!
# What a task that leaves its loop leaves to the next one

A task that sees a stop request at its first look leaves a permit behind:
whoever requested the stop has signalled, and the signal was not used up.  A
task that comes from its wait has used up whatever was signalled until it was
woken.  If it sees the request then, at its second look, a permit is left only
if somebody has signalled since.  Without one the next task goes to its wait and
leaves the backlog where it is, although every producer and the one who
requested the stop have signalled.
-/

namespace Switchboard

variable {σ κ ν : Type}

/-! ## The next task -/

/-- No move leads to the first step of a task. -/
theorem Shared.move_not_begin {client : Client σ κ ν} {shared : Shared σ ν}
    {around : Surroundings} {stack : List (Frame κ)} {control : Control}
    (fits : control.Fits stack) :
    (shared.move client around stack control).control ≠ .run .begin := by
  intro begins
  have watches := shared.move_watches client around fits
  generalize shared.move client around stack control = turn at watches begins
  cases watches with
  | looks watch fresh => cases begins.symm.trans fresh
  | elsewhere away =>
      rw [begins] at away
      cases away
  | _ => cases begins

/-- Whoever has yet to begin has not begun before. -/
theorem Reachable.begins_before {client : Client σ κ ν} {world : World σ κ ν}
    {run : List (Occurrence κ)} (reachable : Reachable client world)
    (allowed : world.allowsAll client run = true) {self : ThreadId}
    {earlier later : Nat} (order : earlier ≤ later)
    (inside : later ≤ run.length) {thread : Thread κ}
    (found : (world.upTo client run earlier).threads[self]? = some thread) :
    ∃ now, (world.upTo client run later).threads[self]? = some now ∧
      (now.control = .run .begin → thread.control = .run .begin) := by
  induction later, order using Nat.le_induction with
  | base => exact ⟨thread, found, id⟩
  | succ moment order inductionHypothesis =>
      rcases inductionHypothesis (Nat.le_of_succ_le inside) with
        ⟨now, stands, begins⟩
      rcases World.changes_at allowed inside stands with
        ⟨next, stands', changes⟩
      refine ⟨next, stands', fun fresh => begins ?_⟩
      generalize run[moment] = occurrence at changes
      cases changes with
      | stays => exact fresh
      | moves turns =>
          rw [turns] at fresh
          exact absurd fresh (Shared.move_not_begin
            ((reachable.upTo allowed moment).fits now
              (List.mem_of_getElem? stands)))
      | asked | handed | abandoned | cancelled => cases fresh

/-- A task that has left its loop does not wait. -/
theorem HasLeft.unwaiting {stack : List (Frame κ)} {control : Control}
    (left : HasLeft stack control) (fits : control.Fits stack) :
    control.waits = false := by
  rw [Bool.eq_false_iff]
  intro waits
  simp only [Control.waits] at waits
  split at waits
  · cases fits
    exact left.not_inLoop (.between rfl)
  · cases fits
    exact left.not_inLoop (.between rfl)
  · cases waits

/-- What the next task finds that runs alone, for any number of moves, until it
waits and cannot go on: it has emptied all queues if and only if a permit was
stored, or nothing was waiting, when it was spawned. -/
theorem Reachable.new_task_empties_queues_iff {client : Client σ κ ν}
    {world after : World σ κ ν} (reachable : Reachable client world)
    {next : ThreadId} (spawned : world.threads[next]? = some .dispatch)
    (lowered : world.shared.dispatcher.stopRequested = false) {moves : Nat}
    (alone : after = world.follow client (List.replicate moves (.step next)))
    (waits : (after.threads[next]?).any Thread.isParked = true)
    (rests : after.canMove next = false) :
    let attentive := world.shared.dispatcher.wake.permit = true ∨
      world.shared.IsDrained
    (after.shared.IsDrained ↔ attentive) ∧
      (attentive → ∀ channel, ∃ added,
        after.shared.drainings channel =
          world.shared.drainings channel ++ world.shared.waiting
            channel ++ added) ∧
      (¬ attentive → world.shared.SameItems after.shared) := by
  intro attentive
  have unsignalled :
      world.shared.dispatcher.wake.hasSignalled next = false := by
    rw [Bool.eq_false_iff]
    intro called
    have inLine : next ∈ world.shared.dispatcher.wake.line :=
      List.mem_append_right _ (List.contains_iff_mem.mp called)
    have positive := List.count_pos_iff.mpr inLine
    rw [reachable.isLined.once, World.isParked_of_some spawned] at positive
    exact Nat.lt_irrefl 0 positive
  rcases World.new_task_alone spawned reachable.inOrder unsignalled lowered
    alone waits rests with
    ⟨emptied, overlooked⟩
  have same (inattentive : ¬ attentive) : world.shared.SameItems after.shared :=
    overlooked (Bool.eq_false_iff.mpr fun stored => inattentive (.inl stored))
  refine ⟨⟨fun empty => ?_, fun attends => (emptied attends).1⟩,
    fun attends channel => ?_, same⟩
  · by_contra inattentive
    refine inattentive (.inr fun channel => ?_)
    rw [← (same inattentive).queues]
    exact empty channel
  · rcases emptied attends with ⟨empty, order, submissions⟩
    rcases submissions channel with ⟨added, more⟩
    have taken := order channel
    rw [Shared.waiting, empty channel, List.append_nil, ← more,
      reachable.inOrder channel] at taken
    exact ⟨added, taken.symm⟩

/-- A task looks at the raised flag, for the first time after a cycle or for the
second time after its wait.  It is the only one at work from before its first
step, when the flag was lowered, and whoever has raised the flag since has
signalled. -/
structure Departs (client : Client σ κ ν) (world : World σ κ ν)
    (run : List (Occurrence κ)) (task : ThreadId) (origin looked : Nat)
    (control : Control) : Prop where
  order : origin ≤ looked
  begins : (world.upTo client run origin).taskAt task = .dispatch
  lowered :
    (world.upTo client run origin).shared.dispatcher.stopRequested = false
  alone (moment : Nat) : origin ≤ moment → moment ≤ looked →
    (world.upTo client run moment).WorksAlone task
  steps : run[looked]? = some (.step task)
  stands : (world.upTo client run looked).threads[task]? =
    some ⟨.task, [], control⟩
  looks : (∃ idle watch, control = .run (.check idle watch)) ∨
    ∃ watch, control = .run (.recheck watch)
  raised : (world.upTo client run looked).shared.dispatcher.stopRequested = true
  signalled (thread : Thread κ) :
    thread ∈ (world.upTo client run looked).threads →
    thread.control.owesStop = false

/-- A signal has been kept for the next task: it came before the first look at
the flag, or between the moment at which the task was last woken and the given
one. -/
def KeepsSignal (client : Client σ κ ν) (world : World σ κ ν)
    (run : List (Occurrence κ)) (task : ThreadId) (looked : Nat)
    (control : Control) (moment : Nat) : Prop :=
  (∃ idle watch, control = .run (.check idle watch)) ∨
    ∃ woken, world.WokenAt client run task woken looked ∧
      world.SignalledBetween client run (woken + 1) moment

namespace Departs

variable {client : Client σ κ ν} {world : World σ κ ν}
  {run : List (Occurrence κ)} {task : ThreadId} {origin looked : Nat}
  {control : Control}

/-- The task leaves its loop. -/
theorem leaves (departs : Departs client world run task origin looked control) :
    (world.upTo client run (looked + 1)).threads[task]? =
      some ⟨.task, [], .run .leave⟩ := by
  rw [(World.steps_at departs.steps departs.stands).2]
  obtain ⟨idle, watch, rfl⟩ | ⟨watch, rfl⟩ := departs.looks
  · simp only [Shared.move, Shared.execute, Shared.check,
      departs.raised, ↓reduceIte]
    rfl
  · simp only [Shared.move, Shared.execute, Shared.recheck,
      departs.raised, ↓reduceIte]
    rfl

/-- A task that looks for the second time was woken before. -/
theorem wokenAt (departs : Departs client world run task origin looked control)
    (reachable : Reachable client world)
    (allowed : world.allowsAll client run = true) {watch : Nat}
    (second : control = .run (.recheck watch)) :
    ∃ woken, world.WokenAt client run task woken looked ∧
      ((world.upTo client run looked).shared.dispatcher.wake.permit = true ↔
        world.SignalledBetween client run (woken + 1) looked) := by
  have awake : (world.upTo client run looked).isAwake task = true := by
    rw [World.isAwake, World.taskAt_of_some departs.stands, second]
    rfl
  exact reachable.wokenAt allowed departs.order
    (Nat.le_of_lt (List.getElem?_eq_some_iff.mp departs.steps).1) departs.begins
    (fun moment after before => departs.alone moment after
      (Nat.le_of_lt before)) awake

/-- What a task finds that looks at the raised flag. -/
theorem permit_iff
    (departs : Departs client world run task origin looked control)
    (reachable : Reachable client world)
    (allowed : world.allowsAll client run = true) :
    (world.upTo client run looked).shared.dispatcher.wake.permit = true ↔
      KeepsSignal client world run task looked control looked := by
  have inside := Nat.le_of_lt (List.getElem?_eq_some_iff.mp departs.steps).1
  have found := World.taskAt_of_some departs.stands
  have others (moment : Nat) (after : origin ≤ moment)
      (before : moment < looked) :=
    departs.alone moment after (Nat.le_of_lt before)
  obtain ⟨idle, watch, rfl⟩ | ⟨watch, rfl⟩ := departs.looks
  · refine iff_of_true ?_ (.inl ⟨idle, watch, rfl⟩)
    have suits := (reachable.upTo allowed looked).suits
      (departs.alone looked departs.order (Nat.le_refl _))
    rw [found] at suits
    rcases suits with ⟨_, uncalled, _⟩
    have minds := (reachable.mindsStop_at allowed departs.order inside others
      (departs.begins ▸ rfl) departs.lowered).2
    cases minds with
    | hears inLoop hears =>
        obtain owes | stored | called := hears
        · rcases owes departs.raised with ⟨thread, member, owes⟩
          cases (departs.signalled thread member).symm.trans owes
        · exact stored
        · rw [Wake.hasSignalled, uncalled] at called
          cases called
    | looks watch' empty rechecks =>
        rw [found] at rechecks
        cases rechecks
    | left left =>
        rw [found] at left
        exact absurd (.between rfl) left.not_inLoop
  · rcases departs.wokenAt reachable allowed rfl with ⟨woken, wokenAt, permit⟩
    rw [permit]
    constructor
    · exact fun signalled => .inr ⟨woken, wokenAt, signalled⟩
    · rintro (⟨idle, watch', first⟩ | ⟨woken', wokenAt', signalled⟩)
      · cases first
      · rw [wokenAt.eq wokenAt']
        exact signalled

/-- Until the next task begins nobody comes to a wait. -/
theorem unwaiting
    (departs : Departs client world run task origin looked control)
    (reachable : Reachable client world)
    (allowed : world.allowsAll client run = true) {next : ThreadId}
    {began : Nat} (inside : began ≤ run.length)
    (succeeded : ∀ moment, looked ≤ moment → moment ≤ began → ∀ other,
      (world.upTo client run moment).isLive other = true →
        other = task ∨ other = next)
    (spawned : (world.upTo client run began).threads[next]? = some .dispatch)
    {moment : Nat} (after : looked ≤ moment) (before : moment ≤ began) :
    ∀ thread ∈ (world.upTo client run moment).threads,
      thread.control.waits = false := by
  have reached := reachable.upTo allowed moment
  intro thread member
  rcases List.mem_iff_getElem?.mp member with ⟨self, found⟩
  rw [Bool.eq_false_iff]
  intro waits
  rcases succeeded moment after before self
    (reached.isLive_of_waits found waits) with rfl | rfl
  · rcases Nat.eq_or_lt_of_le after with rfl | later
    · cases departs.stands.symm.trans found
      obtain ⟨idle, watch, rfl⟩ | ⟨watch, rfl⟩ := departs.looks <;> cases waits
    · rcases reachable.hasLeft_at allowed later
        (Nat.le_trans before inside) departs.leaves rfl
        (.leaves (.inl rfl)) with ⟨now, stands, _, left⟩
      cases found.symm.trans stands
      exact absurd waits
        (Bool.eq_false_iff.mp (left.unwaiting (reached.fits thread member)))
  · rcases reachable.begins_before allowed before inside found with
      ⟨now, stands, begins⟩
    cases spawned.symm.trans stands
    rw [begins rfl] at waits
    cases waits

/-- From the look at the flag until the next task begins a permit is stored if
and only if a signal has been kept. -/
theorem permit_onward_iff
    (departs : Departs client world run task origin looked control)
    (reachable : Reachable client world)
    (allowed : world.allowsAll client run = true) {next : ThreadId}
    {began : Nat} (inside : began ≤ run.length)
    (succeeded : ∀ moment, looked ≤ moment → moment ≤ began → ∀ other,
      (world.upTo client run moment).isLive other = true →
        other = task ∨ other = next)
    (spawned : (world.upTo client run began).threads[next]? = some .dispatch)
    {moment : Nat} (after : looked ≤ moment) (before : moment ≤ began) :
    (world.upTo client run moment).shared.dispatcher.wake.permit = true ↔
      KeepsSignal client world run task looked control moment := by
  rw [reachable.permit_between_iff allowed after (Nat.le_trans before inside)
    fun between after' inner =>
      departs.unwaiting reachable allowed inside succeeded spawned
      after' (Nat.le_trans (Nat.le_of_lt inner) before),
    departs.permit_iff reachable allowed]
  constructor
  · rintro ((first | ⟨woken, wokenAt, signalled⟩) | signalled)
    · exact .inl first
    · exact .inr ⟨woken, wokenAt,
        (World.signalledBetween_trans wokenAt.before after).mp (.inl signalled)⟩
    · obtain first | ⟨watch, rfl⟩ := departs.looks
      · exact .inl first
      · rcases departs.wokenAt reachable allowed rfl with ⟨woken, wokenAt, _⟩
        exact .inr ⟨woken, wokenAt,
          (World.signalledBetween_trans wokenAt.before after).mp
          (.inr signalled)⟩
  · rintro (first | ⟨woken, wokenAt, signalled⟩)
    · exact .inl (.inl first)
    · rcases (World.signalledBetween_trans wokenAt.before after).mpr
        signalled with
        former | latter
      · exact .inl (.inr ⟨woken, wokenAt, former⟩)
      · exact .inr latter

end Departs

/-- What a task that leaves because of a stop request leaves to the next one.
From its look at the raised flag until the next task begins, a permit is stored
if and only if it was the first look after a cycle, or somebody has signalled
since the task was last woken.  If so, or if nothing waits, the next task, run
alone until it cannot go on, takes the whole backlog from the queues in order
and leaves them empty.  Otherwise every item of the backlog still waits,
although whoever has requested the stop has signalled. -/
theorem Reachable.departure_leaves_permit_iff {client : Client σ κ ν}
    {world after : World σ κ ν} {run : List (Occurrence κ)}
    (reachable : Reachable client world)
    (allowed : world.allowsAll client run = true) {task next : ThreadId}
    {origin looked began : Nat} {control : Control}
    (departs : Departs client world run task origin looked control)
    (order : looked < began) (inside : began ≤ run.length)
    (succeeded : ∀ moment, looked ≤ moment → moment ≤ began → ∀ other,
      (world.upTo client run moment).isLive other = true →
        other = task ∨ other = next)
    (spawned : (world.upTo client run began).threads[next]? = some .dispatch)
    (lowered : (world.upTo client run began).shared.dispatcher.stopRequested =
      false)
    {moves : Nat}
    (alone : after =
      (world.upTo client run began).follow client
      (List.replicate moves (.step next)))
    (waits : (after.threads[next]?).any Thread.isParked = true)
    (rests : after.canMove next = false) :
    let keeps := KeepsSignal client world run task looked control
    let backlog := (world.upTo client run began).shared
    ((world.upTo client run (looked + 1)).threads[task]?).map Thread.control =
        some (.run .leave) ∧
      (∀ moment, looked ≤ moment → moment ≤ began →
        ((world.upTo client run moment).shared.dispatcher.wake.permit = true ↔
          keeps moment)) ∧
      (after.shared.IsDrained ↔ keeps began ∨ backlog.IsDrained) ∧
      (keeps began ∨ backlog.IsDrained → ∀ channel, ∃ added,
        after.shared.drainings channel =
          backlog.drainings channel ++ backlog.waiting channel ++ added) ∧
      (¬ (keeps began ∨ backlog.IsDrained) →
        backlog.SameItems after.shared) := by
  intro keeps backlog
  have permit {moment : Nat} (later : looked ≤ moment)
      (before : moment ≤ began) :=
    departs.permit_onward_iff reachable allowed inside succeeded spawned
      later before
  have outcome :=
    (reachable.upTo allowed began).new_task_empties_queues_iff spawned lowered
    alone waits rests
  rw [permit (Nat.le_of_lt order) (Nat.le_refl _)] at outcome
  refine ⟨?_, fun moment later before => permit later before, outcome⟩
  rw [departs.leaves]
  rfl

/-- A producer and a caller that requests a stop have both signalled when the
task goes on from its wait.  It takes the one permit, sees the request and ends,
and the task that replaces it goes to its wait beside the packet. -/
theorem Reachable.departure_strands_packet :
    let steps (thread : ThreadId) (number : Nat) :=
      List.replicate number (Occurrence.step thread : Occurrence Unit)
    let opening : World Unit Unit Unit :=
      .new (.new ⟨1, "app"⟩ .standard (.application .new) ()) 3
    let run :=
      [.request 0 .start] ++ steps 0 2 ++ steps 3 2 ++
        [.request 1 (.submit (.packet 0 [1]))] ++ steps 1 5 ++
        [.request 2 .stop] ++ steps 2 3 ++
        steps 3 4 ++ steps 2 1 ++ [.request 0 .start] ++ steps 0 2
    let looks := opening.upTo .accepting run 16
    let world := opening.upTo .accepting run 23
    let after := world.follow .accepting (steps 4 4)
    looks.owed = [] ∧
      (∀ thread ∈ looks.threads, thread.control.owesStop = false) ∧
      (looks.shared.waiting .packets).length = 1 ∧
        world.ending? 3 = some .finished ∧
      world.shared.dispatcher.wake.permit = false ∧ ¬ after.shared.IsDrained ∧
      (after.shared.waiting .packets).length = 1 := by
  intro steps opening run looks world after
  have reachable : Reachable Client.accepting opening :=
    .opening (.application _ _ _ _)
  have allowed : opening.allowsAll .accepting run = true := by decide +kernel
  have signalled : ∀ thread ∈ looks.threads,
      thread.control.owesStop = false := by decide +kernel
  have few : ∀ moment < 24,
      (opening.upTo .accepting run moment).threads.length ≤ 5 := by
    decide +kernel
  have former : ∀ moment < 17, ∀ other < 5,
      (opening.upTo .accepting run moment).isLive other = true → other = 3 := by
    decide +kernel
  have latter : ∀ moment < 24, ∀ other < 5,
      (opening.upTo .accepting run moment).isLive other = true →
        other = 3 ∨ other = 4 := by
    decide +kernel
  have departs : Departs .accepting opening run 3 0 16 (.run (.recheck 0)) :=
    { order := Nat.zero_le _
      begins := rfl
      lowered := rfl
      alone := fun moment _ before other lives => by
        have inside := World.lt_length_of_isLive lives
        have bound := few moment (by omega)
        exact former moment (by omega) other
          (Nat.lt_of_lt_of_le inside bound) lives
      steps := rfl
      stands := by decide +kernel
      looks := .inr ⟨0, rfl⟩
      raised := by decide +kernel
      signalled := fun thread member => signalled thread member }
  obtain ⟨_, permit, drained, _, same⟩ :=
    @Reachable.departure_leaves_permit_iff _ _ _ _ _ after _ reachable allowed
      3 4 0 16 23 _
      departs (by decide) (by decide +kernel)
      (fun moment _ before other lives => by
        have inside := World.lt_length_of_isLive lives
        have bound := few moment (by omega)
        exact latter moment (by omega) other
          (Nat.lt_of_lt_of_le inside bound) lives)
      (by decide +kernel) (by decide +kernel) 4 rfl (by decide +kernel)
      (by decide +kernel)
  have inattentive :
      ¬ (KeepsSignal .accepting opening run 3 16 (.run (.recheck 0)) 23 ∨
      (opening.upTo .accepting run 23).shared.IsDrained) := by
    rintro (keeps | empty)
    · exact absurd ((permit 23 (by decide) (by decide)).mpr keeps)
        (by decide +kernel)
    · exact absurd (congrArg List.isEmpty (empty .packets)) (by decide +kernel)
  refine ⟨by
    decide +kernel, signalled,
    by decide +kernel, by decide +kernel, by decide +kernel,
    fun empty => inattentive (drained.mp empty), ?_⟩
  rw [(same inattentive).waiting]
  decide +kernel

end Switchboard
