import Switchboard.Proofs.Attention
import Switchboard.Proofs.Order
import Switchboard.Proofs.Signals

/-!
# Replacing a task that has ended on its own

A `start` that finds an ended task in the slot spawns a new one.  The new task
waits before it looks at the queues.  If a permit is stored it finds the whole
backlog; if the old task has used the permit up and then ended over an item, the
rest of the backlog stays where it is until somebody submits again.
-/

namespace Switchboard

variable {σ κ ν : Type}

/-- A start that finds an ended task in the slot has to wait, or it spawns a
task, lowers the stop flag, and leaves items and the wake event as they are. -/
theorem Shared.start_of_ended (client : Client σ κ ν) {shared : Shared σ ν}
    {around : Surroundings} (stack : List (Frame κ)) {application : Application}
    {task : ThreadId} {ending : Ending}
    (hosted : shared.host = .application application)
    (worker : application.worker = some task)
    (ended : around.ending? task = some ending) :
    let turn := shared.start client around stack
    turn.control = .run .start ∨
      (turn.stack = stack ∧ turn.control = .answer (.concluded (.ok ())) ∧
        turn.spawned = true ∧ shared.SameItems turn.shared ∧
          turn.shared.dispatcher = shared.dispatcher.withStop false) := by
  have same := (shared.start_isAside client around stack).same
  simp only [Shared.start] at same ⊢
  simp only [hosted, worker, ended] at same ⊢
  split
  · exact .inl rfl
  · rename_i unlocked
    rw [if_neg unlocked] at same
    refine .inr ⟨rfl, rfl, rfl, same, ?_⟩
    rw [launch_dispatcher]
    cases ending <;> rfl

namespace World

/-- The world once a caller has asked for a start and has been answered, unless
it has to wait. -/
def started (client : Client σ κ ν) (world : World σ κ ν) (caller : ThreadId) :
    World σ κ ν :=
  world.follow client [.request caller .start, .step caller, .step caller]

/-- A start that is answered and finds an ended task in the slot spawns a new
one. -/
theorem started_of_ended {client : Client σ κ ν} {world : World σ κ ν}
    {application : Application} {caller task : ThreadId}
    {thread dead : Thread κ} {ending : Ending}
    (hosted : world.shared.host = .application application)
    (worker : application.worker = some task)
    (stands : world.threads[task]? = some dead) (role : dead.role = .task)
    (ended : dead.ending? = some ending)
    (found : world.threads[caller]? = some thread) (free : thread.isFree = true)
    (returns : (world.started client caller).atRest caller = true) :
    (world.started client caller).threads[caller]? =
        some { thread with control := .answer (.concluded (.ok ())) } ∧
      (world.started client caller).threads[world.threads.length]? =
        some .dispatch ∧
      world.shared.SameItems (world.started client caller).shared ∧
      (world.started client caller).shared.dispatcher =
        world.shared.dispatcher.withStop false := by
  have differs : task ≠ caller := by
    rintro rfl
    cases Option.some.inj (stands.symm.trans found)
    simp only [Thread.isFree] at free
    rw [role] at free
    exact Bool.noConfusion free
  -- The request opens the slot in two steps.
  let asking : Thread κ := { thread with control := .run (.perform .start) }
  let requested := world.put caller asking
  have asked : world.after client (.request caller .start) = requested :=
    setThread_of_some _ found
  have caller₁ : requested.threads[caller]? = some asking :=
    put_self found asking
  have task₁ : requested.threads[task]? = some dead :=
    (put_other differs asking).trans stands
  have opens :
      requested.shared.move client (requested.surroundings caller) thread.stack
        (.run (.perform .start)) = .run world.shared thread.stack .start := by
    have hosted₁ : requested.shared.host = .application application := hosted
    simp only [Shared.move, Shared.execute, Shared.perform, hosted₁]
    rfl
  let second :=
    requested.afterTurn caller thread.role
      (.run world.shared thread.stack .start)
  have stepped : requested.step client caller = second := by
    rw [step_of_some caller₁]
    exact congrArg (requested.afterTurn caller thread.role) opens
  have caller₂ :
      second.threads[caller]? = some ⟨thread.role, thread.stack, .run .start⟩ :=
    afterTurn_self caller₁ thread.role _
  have task₂ : second.threads[task]? = some dead :=
    afterTurn_other task₁ differs thread.role _
  have length₂ : second.threads.length = world.threads.length := by
    simp [second, requested, afterTurn, put, Turn.run, Turn.pass]
  have ending₂ : (second.surroundings caller).ending? task = some ending := by
    simp only [surroundings, World.ending?, task₂, Option.bind_some, ended]
  -- The third step finds the ended task.
  let turn :=
    world.shared.start client (second.surroundings caller) thread.stack
  have reached :
      world.started client caller =
        second.afterTurn caller thread.role turn := by
    change ((world.after client (.request caller .start)).step client
      caller).step client
      caller = _
    rw [asked, stepped, step_of_some caller₂]
    rfl
  have moved := afterTurn_self caller₂ thread.role turn
  rw [reached] at returns ⊢
  obtain waits | ⟨stack, answered, spawned, same, dispatcher⟩ :=
    Shared.start_of_ended client thread.stack hosted worker ending₂
  · rw [atRest, World.ending?, moved, Option.bind_some,
      Thread.isSome_ending?_iff] at returns
    exact absurd waits (returns.2 .start)
  · refine ⟨?_, ?_, same, dispatcher⟩
    · rw [moved]
      exact congrArg some (congrArg₂ (Thread.mk thread.role) stack answered)
    · rw [← length₂]
      exact afterTurn_spawned spawned

end World

/-- A task that has not looked at the queues yet, and has no reason to. -/
structure Overlooks (task : ThreadId) (origin shared : Shared σ ν)
    (stack : List (Frame κ)) (control : Control) : Prop where
  same : origin.SameItems shared
  empty : stack = []
  permit : shared.dispatcher.wake.permit = false
  unsignalled : shared.dispatcher.wake.hasSignalled task = false
  unstopped : shared.dispatcher.stopRequested = false
  waits :
    control = .run .begin ∨
      ∃ watch, control = .run (.check true watch) ∨
        control = .run (.await watch) ∨
        control = .run (.parked watch)

/-- Without a permit the task goes to its wait and stays there. -/
theorem Overlooks.move {origin shared : Shared σ ν} {around : Surroundings}
    {stack : List (Frame κ)} {control : Control} (client : Client σ κ ν)
    (overlooks : Overlooks around.self origin shared stack control) :
    let turn := shared.move client around stack control
    Overlooks around.self origin turn.shared turn.stack turn.control := by
  rcases overlooks with
    ⟨same, rfl, permit, unsignalled, unstopped, rfl | ⟨watch, rfl | rfl | rfl⟩⟩
  · exact ⟨same.trans ⟨rfl, rfl, rfl⟩, rfl, permit, unsignalled, unstopped,
      .inr ⟨_, .inl rfl⟩⟩
  · simp only [Shared.move, Shared.execute, Shared.check, unstopped,
      Bool.false_eq_true, ↓reduceIte]
    cases shared.reportDue watch
    · exact ⟨same, rfl, permit, unsignalled, unstopped,
        .inr ⟨_, .inr (.inl rfl)⟩⟩
    · exact ⟨same.trans ⟨rfl, rfl, rfl⟩, rfl, permit, unsignalled, unstopped,
        .inr ⟨_, .inr (.inl rfl)⟩⟩
  · simp only [Shared.move, Shared.execute, Shared.await, permit,
      Bool.false_eq_true, ↓reduceIte]
    exact ⟨same.trans ⟨rfl, rfl, rfl⟩, rfl, permit, unsignalled, unstopped,
      .inr ⟨_, .inr (.inr rfl)⟩⟩
  · simp only [Shared.move, Shared.execute, Shared.parked, unsignalled,
      Bool.false_eq_true, ↓reduceIte]
    exact ⟨same, rfl, permit, unsignalled, unstopped, .inr ⟨_, .inr (.inr rfl)⟩⟩

/-- A task that sees to what waits, since the state `origin`. -/
structure SeesTo (task : ThreadId) (origin shared : Shared σ ν)
    (stack : List (Frame κ)) (control : Control) : Prop where
  fits : control.Fits stack
  attends : shared.Attends task control
  order : shared.InOrder
  submissions (channel : Channel) :
    origin.submissions channel <+: shared.submissions channel

theorem SeesTo.move {origin shared : Shared σ ν} {around : Surroundings}
    {stack : List (Frame κ)} {control : Control} (client : Client σ κ ν)
    (sees : SeesTo around.self origin shared stack control) :
    let turn := shared.move client around stack control
    SeesTo around.self origin turn.shared turn.stack turn.control where
  fits := shared.move_fits client around sees.fits
  attends := Shared.move_attends client around sees.fits sees.attends
  order := sees.order.move (shared.move_handles client around sees.fits)
  submissions channel :=
    (sees.submissions channel).trans
      (Shared.submissions_prefix_of_handles
        (shared.move_handles client around sees.fits) channel)

/-- What a new task does that runs alone, for any number of moves, until it
waits and cannot go on. -/
theorem World.new_task_alone {client : Client σ κ ν} {world : World σ κ ν}
    {task : ThreadId} (spawned : world.threads[task]? = some .dispatch)
    (order : world.shared.InOrder)
    (unsignalled : world.shared.dispatcher.wake.hasSignalled task = false)
    (unstopped : world.shared.dispatcher.stopRequested = false) {moves : Nat}
    {after : World σ κ ν}
    (alone : after = world.follow client (List.replicate moves (.step task)))
    (waits : (after.threads[task]?).any Thread.isParked = true)
    (rests : after.canMove task = false) :
    (world.shared.dispatcher.wake.permit = true ∨ world.shared.IsDrained →
      after.shared.IsDrained ∧ after.shared.InOrder ∧
        ∀ channel,
          world.shared.submissions channel <+:
            after.shared.submissions channel) ∧
      (world.shared.dispatcher.wake.permit = false →
        world.shared.SameItems after.shared) := by
  -- The task stands at its wait, and has not been signalled.
  have parked {stack : List (Frame κ)} {control : Control}
      (stands : after.threads[task]? = some ⟨.task, stack, control⟩) :
      ∃ watch, control = .run (.parked watch) ∧
        after.shared.dispatcher.wake.hasSignalled task = false := by
    rw [stands, Option.any_some, Thread.isParked] at waits
    split at waits
    · rename_i watch control
      cases control
      simp only [canMove, stands, ready] at rests
      exact ⟨watch, rfl, rests⟩
    · cases waits
  constructor
  · intro attends
    have sees :
        SeesTo task world.shared world.shared ([] : List (Frame κ))
          (.run .begin) :=
      ⟨rfl, attends, order, fun channel => List.prefix_rfl⟩
    obtain ⟨stack, control, stands, seen⟩ := follow_steps
      (fun shared around stack control self held => by
        subst self
        exact SeesTo.move client held) moves spawned sees
    rw [← alone] at stands seen
    rcases parked stands with ⟨watch, rfl, quiet⟩
    refine ⟨?_, seen.order, seen.submissions⟩
    rcases seen.attends with signalled | drained
    · exact absurd (signalled.symm.trans quiet) Bool.noConfusion
    · exact drained
  · intro permit
    have overlooks :
        Overlooks task world.shared world.shared ([] : List (Frame κ))
          (.run .begin) :=
      ⟨⟨rfl, rfl, rfl⟩, rfl, permit, unsignalled, unstopped, .inl rfl⟩
    obtain ⟨stack, control, stands, overlooked⟩ := follow_steps
      (fun shared around stack control self held => by
        subst self
        exact Overlooks.move client held) moves spawned overlooks
    rw [← alone] at overlooked
    exact overlooked.same

/-- The task that replaces one that has ended on its own.  Let it run alone, for
any number of moves, to a wait from which it cannot go on.  It has emptied all
queues if and only if a permit was stored, or nothing was waiting, when it was
started.  In this case it has taken the whole backlog from the queues in order,
and then what its callbacks submitted.  Otherwise every item of the backlog
still waits. -/
theorem Reachable.replacement_empties_queues_iff {client : Client σ κ ν}
    {world after : World σ κ ν} (reachable : Reachable client world)
    {application : Application} {caller task : ThreadId}
    {thread dead : Thread κ} {ending : Ending}
    (hosted : world.shared.host = .application application)
    (worker : application.worker = some task)
    (stands : world.threads[task]? = some dead) (role : dead.role = .task)
    (ended : dead.ending? = some ending)
    (found : world.threads[caller]? = some thread) (free : thread.isFree = true)
    (returns : (world.started client caller).atRest caller = true) {moves : Nat}
    (alone : after = (world.started client caller).follow client
      (List.replicate moves (.step world.threads.length)))
    (waits : (after.threads[world.threads.length]?).any Thread.isParked = true)
    (rests : after.canMove world.threads.length = false) :
    let attentive := world.shared.dispatcher.wake.permit = true ∨
      world.shared.IsDrained
    (world.started client caller).threads[caller]? =
        some { thread with control := .answer (.concluded (.ok ())) } ∧
      (world.started client caller).threads[world.threads.length]? =
        some .dispatch ∧
      (after.shared.IsDrained ↔ attentive) ∧
      (attentive → ∀ channel, ∃ added,
        after.shared.submissions channel =
          world.shared.submissions channel ++ added ∧
          after.shared.drainings channel =
            world.shared.drainings channel ++ world.shared.waiting
              channel ++ added) ∧
      (¬ attentive → ∀ channel,
        after.shared.drainings channel = world.shared.drainings channel ∧
          after.shared.waiting channel = world.shared.waiting channel) := by
  intro attentive
  obtain ⟨answered, spawned, same, dispatcher⟩ :=
    World.started_of_ended hosted worker stands role ended found free returns
  have unsignalled :
      (world.started client caller).shared.dispatcher.wake.hasSignalled
        world.threads.length = false := by
    rw [dispatcher]
    by_contra signalled
    rw [Bool.not_eq_false] at signalled
    have inside :=
      reachable.involved_lt (.inr (List.contains_iff_mem.mp signalled))
    exact Nat.lt_irrefl _ inside
  obtain ⟨emptied, overlooked⟩ :=
    World.new_task_alone spawned (same.inOrder reachable.inOrder)
    unsignalled (by rw [dispatcher]; rfl) alone waits rests
  have permit : (world.started client caller).shared.dispatcher.wake.permit =
      world.shared.dispatcher.wake.permit := by
    rw [dispatcher]
    rfl
  have drained : (world.started client caller).shared.IsDrained ↔
      world.shared.IsDrained := by
    simp only [Shared.IsDrained]
    rw [same.queues]
  rw [permit, drained] at emptied
  rw [permit] at overlooked
  have left (inattentive : ¬ attentive) :
      world.shared.SameItems after.shared := by
    refine same.trans (overlooked ?_)
    exact Bool.eq_false_iff.mpr fun permit => inattentive (.inl permit)
  refine ⟨answered, spawned,
    ⟨fun empty => ?_, fun attends => (emptied attends).1⟩,
    fun attends channel => ?_, fun inattentive channel => ?_⟩
  · by_contra inattentive
    refine inattentive (.inr fun channel => ?_)
    rw [← (left inattentive).queues]
    exact empty channel
  · rcases emptied attends with ⟨empty, order, submissions⟩
    rcases submissions channel with ⟨added, more⟩
    rw [same.submissions] at more
    refine ⟨added, more.symm, ?_⟩
    have taken := order channel
    rw [Shared.waiting, empty channel, List.append_nil, ← more,
      reachable.inOrder channel] at taken
    exact taken.symm
  · exact ⟨(left inattentive).drainings channel,
      (left inattentive).waiting channel⟩

/-- The first of two packets ends the task, and its replacement overlooks the
second. -/
theorem Reachable.replacement_overlooks_packet :
    let steps (thread : ThreadId) :=
      List.replicate 30 (Occurrence.step thread : Occurrence Unit)
    let ask (request : Request) : List (Occurrence Unit) :=
      .request 0 request :: steps 0
    let opening : World Unit Unit Unit :=
      .new (.new ⟨1, "app"⟩ .standard (.application .new) ()) 1
    let world :=
      opening.follow .panicking
        (ask .start ++ ask (.submit (.packet 0 [1])) ++ ask
          (.submit (.packet 0 [2])) ++ steps 1)
    let fresh := world.threads.length
    let after :=
      (world.started .panicking 0).follow .panicking
        (List.replicate 10 (.step fresh))
    world.ending? 1 = some (.panicked .other) ∧
      (after.threads[fresh]?).any Thread.isParked = true ∧
      after.canMove fresh = false ∧ ¬ after.shared.IsDrained ∧
      (after.shared.waiting .packets).length = 1 := by
  intro steps ask opening world fresh after
  have reachable : Reachable Client.panicking world :=
    Reachable.follow (.opening (.application _ _ _ _)) (by decide +kernel)
  have hosted :
      world.shared.host = .application ⟨some 1, false, .running, none⟩ := by
    decide +kernel
  have stands :
      (world.threads[1]?).map (fun thread => (thread.role, thread.ending?)) =
      some (.task, some (.panicked .other)) := by
    decide +kernel
  have idle : (world.threads[0]?).map Thread.isFree = some true := by
    decide +kernel
  rcases Option.map_eq_some_iff.mp stands with ⟨dead, atOne, told⟩
  rcases Option.map_eq_some_iff.mp idle with ⟨caller, atZero, free⟩
  rcases Prod.mk.inj told with ⟨role, ended⟩
  have inattentive :
      ¬ (world.shared.dispatcher.wake.permit = true ∨
        world.shared.IsDrained) := by
    rintro (permit | drained)
    · exact absurd permit (by decide +kernel)
    · exact absurd (congrArg List.isEmpty (drained .packets))
        (by decide +kernel)
  have alone : after = (world.started .panicking 0).follow .panicking
      (List.replicate 10 (.step world.threads.length)) := rfl
  obtain ⟨_, _, drained, _, left⟩ :=
    reachable.replacement_empties_queues_iff hosted rfl atOne role
      ended atZero free
      (by decide +kernel) alone (by decide +kernel) (by decide +kernel)
  refine ⟨by decide +kernel, by decide +kernel, by decide +kernel, ?_, ?_⟩
  · exact fun empty => inattentive (drained.mp empty)
  · rw [(left inattentive .packets).2]
    decide +kernel

end Switchboard
