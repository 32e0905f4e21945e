import Switchboard.Proofs.Lifecycle

/-!
# Giving up a stop

A caller may give up a `stop` that waits for its task.  The slot is unlocked
then and empty, and the task that was in it is left to itself, with the stop
flag raised.  The next `start` finds no task in the slot: it lowers the flag,
which the task may not have seen, and spawns another one beside it.  Nothing
else ever brings two tasks to work side by side.
-/

namespace Switchboard

variable {σ κ ν : Type}

/-- Nobody gives up in the middle of a cycle but in a callback. -/
theorem InCycle.stack_ne_nil {after : AfterCycle} {left : Nat}
    {stack : List (Frame κ)} {instruction : Instruction}
    (inCycle : InCycle after [] left stack (.run instruction))
    (patient : instruction.canBeAbandoned = true) : stack ≠ [] := by
  cases inCycle with
  | serves => cases patient
  | routes => cases patient
  | calls frame waits same enough stands =>
      rintro rfl
      exact List.cons_ne_nil _ _ (List.suffix_nil.mp stands)

/-- What a task starts, and what it may give up, it does in a callback of a
cycle. -/
theorem InTask.stack_ne_nil {stack : List (Frame κ)} {instruction : Instruction}
    (inTask : InTask stack (.run instruction))
    (patient : instruction.canBeAbandoned = true) :
    stack ≠ [] := by
  cases inTask with
  | loops inLoop =>
      cases inLoop with
      | between between =>
          rcases Control.runs_of_isBetweenCycles between with ⟨_, runs, firm⟩
          cases runs
          cases firm.symm.trans patient
      | inCycle watch left inCycle => exact inCycle.stack_ne_nil patient
  | drains left inCycle => exact inCycle.stack_ne_nil patient
  | leaves last =>
      obtain runs | runs := last
      · cases runs
        cases patient
      · cases runs
        cases patient
  | ended done => exact absurd rfl (done instruction)

/-- A thread with something on its stack has something left to do. -/
theorem Thread.ending?_of_stack {thread : Thread κ}
    (filled : thread.stack ≠ []) :
    thread.ending? = none := by
  rcases thread with ⟨role, stack, control⟩
  cases stack with
  | nil => exact absurd rfl filled
  | cons frame below => rfl

/-- A task that is at work is at work still after it has started another, and
after it has given up a call. -/
theorem Thread.Changes.lives_on {client : Client σ κ ν} {world : World σ κ ν}
    {self : ThreadId} {thread later : Thread κ} {occurrence : Occurrence κ}
    (changes : thread.Changes client world self occurrence later)
    (inTask : InTask thread.stack thread.control)
    (stays : thread.ending? = none) (starts : occurrence = .step self →
      thread.control = .run .start)
    (kept : occurrence ≠ .cancel self) : later.ending? = none := by
  cases changes with
  | stays => exact stays
  | moves turns =>
      have runs := starts rfl
      rw [runs] at inTask turns
      refine ending?_of_stack ?_
      have same :=
        world.shared.start_stack client (world.surroundings self) thread.stack
      intro empty
      rw [turns] at empty
      exact inTask.stack_ne_nil rfl (same.symm.trans empty)
  | asked request free | handed code free =>
      rw [isFree, stays, Option.isSome_none, Bool.and_false] at free
      cases free
  | abandoned runs waits =>
      rw [runs] at inTask
      exact ending?_of_stack (inTask.stack_ne_nil waits)
  | cancelled => exact absurd rfl kept

namespace World

variable {client : Client σ κ ν} {world next : World σ κ ν}
  {occurrence : Occurrence κ} {run : List (Occurrence κ)}

/-- No `start` ends a task, and nobody ends one by giving up a call. -/
theorem Becomes.lives_on (becomes : Becomes client world occurrence next)
    (reached : Reachable client world)
    (starts : ∀ self thread, occurrence = .step self →
      world.threads[self]? = some thread → thread.control = .run .start)
    (kept : ∀ task, occurrence ≠ .cancel task) {task : ThreadId}
    (lives : world.isLive task = true) : next.isLive task = true := by
  rcases isLive_iff.mp lives with ⟨thread, found, role, stays⟩
  rcases becomes.thread found with ⟨later, found', changes⟩
  refine isLive_iff.mpr ⟨later, found', changes.role.trans role, ?_⟩
  exact changes.lives_on (reached.inTask found role) stays
    (fun steps => starts task thread steps found) (kept task)

theorem leaves?_eq_some {self task : ThreadId}
    (leaves : world.leaves? (.abandon self) = some task) :
    ∃ thread, world.threads[self]? = some thread ∧
      thread.control = .run (.awaitTask task) := by
  simp only [leaves?] at leaves
  split at leaves
  · rename_i waits
    cases leaves
    exact Option.map_eq_some_iff.mp waits
  · cases leaves

/-- A `stop` that is given up unlocks the slot. -/
theorem abandon_switch? {self task : ThreadId}
    (leaves : world.leaves? (.abandon self) = some task) :
    (world.abandon self).shared.switch? =
      world.shared.switch?.map ({ · with locked := false }) := by
  rcases leaves?_eq_some leaves with ⟨thread, found, waits⟩
  simp only [abandon, found, Option.map_some, waits]
  exact world.shared.updateApplication_switch? _ _ fun _ _ => rfl

/-- At a moment of a run a `start` finds the slot unlocked and no task at work
in it. -/
def LaunchesAt (client : Client σ κ ν) (world : World σ κ ν)
    (run : List (Occurrence κ)) (moment : Nat) : Prop :=
  let now := world.upTo client run moment
  ∃ self thread switch, run[moment]? = some (.step self) ∧
    now.threads[self]? = some thread ∧ thread.control = .run .start ∧
      now.shared.switch? = some switch ∧ switch.locked = false ∧
        ∀ task, switch.worker = some task → now.isLive task = false

section

variable (opening : world.IsOpening)
  (allowed : world.allowsAll client run = true)
  (hosted : (world.follow client run).shared.host.isAlone = false)
include opening allowed hosted

/-- A `start` that launches a task ends no other, and lowers the stop flag. -/
theorem IsOpening.launches_beside {moment : Nat}
    (launches : world.LaunchesAt client run moment) :
    let now := world.upTo client run moment
    let next := world.upTo client run (moment + 1)
    next.shared.switch? = some (.running now.threads.length) ∧
      next.isLive now.threads.length = true ∧
        ∀ task, now.isLive task = true → next.isLive task = true := by
  intro now next
  rcases launches with
    ⟨self, thread, switch, steps, found, runs, shows, unlocked, vacant⟩
  have inside := (List.getElem?_eq_some_iff.mp steps).1
  have reached : Reachable client world := .opening opening
  have warrants :=
    (opening.vouches_upTo allowed hosted (Nat.le_of_lt inside)).warrants
      switch shows
  have stepped : next = now.step client self := upTo_succ steps
  have lives (task : ThreadId) (lives : now.isLive task = true) :
      next.isLive task = true := by
    refine (becomes_at allowed steps).lives_on (reached.upTo allowed moment) ?_
      (fun task => nofun) lives
    intro other thread' same found'
    cases same
    cases found.symm.trans found'
    exact runs
  have started : now.Starts (now.step client self) self thread switch :=
    warrants.starts shows found runs
  rw [← stepped] at started
  cases started with
  | waits locked same => cases unlocked.symm.trans locked
  | finds unlocked held lives answers => cases (vacant _ held).symm.trans lives
  | spawns unlocked vacant threads filled =>
      refine ⟨filled, isLive_iff.mpr ⟨.dispatch, ?_, rfl, rfl⟩, lives⟩
      have length :
          (now.proceed self thread
            (.answer (.concluded (.ok ())))).threads.length =
          now.threads.length := List.length_set
      rw [threads, List.getElem?_append_right (Nat.le_of_eq length), length,
        Nat.sub_self]
      rfl

/-- If no task is at work beside which a `start` launches another, one is at
work at most. -/
theorem IsOpening.unique_of_launches
    (careful : ∀ moment, world.LaunchesAt client run moment →
      ∀ task ∈ world.leftBy client run moment,
        (world.upTo client run moment).isLive task = false)
    {moment : Nat} (inside : moment ≤ run.length) {one other : ThreadId}
    (lives : (world.upTo client run moment).isLive one = true)
    (lives' : (world.upTo client run moment).isLive other = true) :
    one = other := by
  induction moment generalizing one other with
  | zero =>
      exact opening.vouches.unique one other lives lives' List.not_mem_nil
        List.not_mem_nil
  | succ moment inductionHypothesis =>
      have next : run[moment]? = some run[moment] :=
        List.getElem?_eq_getElem inside
      have becomes := becomes_at allowed next
      have throws := opening.throws_at allowed hosted next
      rcases throws.unspawned_or_launches with
        unspawned | ⟨self, thread, switch, steps, found, runs, shows,
          unlocked, vacant, _⟩
      · exact inductionHypothesis (Nat.le_of_succ_le inside)
          (becomes.isLive_of_unspawned unspawned lives)
          (becomes.isLive_of_unspawned unspawned lives')
      -- Only the new task is at work.
      have dead (task : ThreadId) (held : switch.worker = some task) :
          (world.upTo client run moment).isLive task = false := by
        rw [Bool.eq_false_iff]
        intro lived
        have ended := vacant task held
        rw [ending?_of_isLive lived] at ended
        cases ended
      have launches : world.LaunchesAt client run moment :=
        ⟨self, thread, switch, steps ▸ next, found, runs, shows, unlocked, dead⟩
      have vouches :=
        opening.vouches_upTo allowed hosted (Nat.le_of_succ_le inside)
      have others :=
        ((vouches.warrants switch shows).of_vacant unlocked vacant).2
      have new {task : ThreadId}
          (lives : (world.upTo client run (moment + 1)).isLive task = true) :
          task = (world.upTo client run moment).threads.length := by
        refine (becomes.isLive lives).resolve_left fun lived => ?_
        cases (careful moment launches task (others task lived)).symm.trans
          lived
      exact (new lives).trans (new lives').symm

end

/-- What giving up a `stop` leads to.  At every moment of every run:
* of two tasks at work at least one was left to itself by a `stop` that was
  given up;
* one task is at work at most, all the time, if and only if no `start` launches
  a task while one that was left to itself is at work;
* a `stop` that is given up leaves the slot empty and unlocked, the flag raised
  and the application asked to stop, and it ends no task;
* a `start` that launches a task beside others ends none of them, and lowers the
  flag that they may not have seen;
* a `stop` that finds the slot empty returns at once, whoever is at work. -/
theorem IsOpening.one_task_at_work_unless_stop_abandoned
    (opening : world.IsOpening) (allowed : world.allowsAll client run = true)
    (hosted : (world.follow client run).shared.host.isAlone = false) :
    let now := world.upTo client run
    let left := world.leftBy client run
    (∀ moment ≤ run.length, ∀ one other, (now moment).isLive one = true →
        (now moment).isLive other = true → one ≠ other → one ∈ left moment ∨
          other ∈ left moment) ∧
      ((∀ moment ≤ run.length, ∀ one other, (now moment).isLive one = true →
          (now moment).isLive other = true → one = other) ↔
        ∀ moment, world.LaunchesAt client run moment → ∀ task ∈ left moment,
          (now moment).isLive task = false) ∧
      (∀ moment self task, run[moment]? = some (.abandon self) →
        (now moment).leaves? (.abandon self) = some task →
        task ∈ left (moment + 1) ∧
          (∀ switch, (now (moment + 1)).shared.switch? = some switch →
            switch = ⟨none, false, .stopRequested, true⟩) ∧
            ∀ other, (now moment).isLive other = true →
              (now (moment + 1)).isLive other = true) ∧
      (∀ moment, world.LaunchesAt client run moment →
        (now (moment + 1)).shared.switch? =
          some (.running (now moment).threads.length) ∧
          (now (moment + 1)).isLive (now moment).threads.length = true ∧
            ∀ other, (now moment).isLive other = true →
              (now (moment + 1)).isLive other = true) ∧
      (∀ moment self thread switch, run[moment]? = some (.step self) →
        (now moment).threads[self]? = some thread →
          thread.control = .run .stop →
        (now moment).shared.switch? = some switch → switch.locked = false →
        switch.worker = none →
        now (moment + 1) = (now moment).proceed self thread
          (.answer (.concluded (.ok ())))) := by
  intro now left
  refine ⟨?_, ⟨?_, ?_⟩, ?_, ?_, ?_⟩
  · intro moment inside one other lives lives' differ
    by_contra kept
    rw [not_or] at kept
    exact differ
      ((opening.vouches_upTo allowed hosted inside).unique one other
        lives lives'
      kept.1 kept.2)
  · intro alone moment launches task member
    rw [Bool.eq_false_iff]
    intro lives
    rcases opening.launches_beside allowed hosted launches with ⟨_, new, stay⟩
    rcases launches with ⟨self, thread, switch, steps, _⟩
    have inside := (List.getElem?_eq_some_iff.mp steps).1
    have same := alone (moment + 1) inside task _ (stay task lives) new
    exact absurd same (Nat.ne_of_lt (lt_length_of_isLive lives))
  · intro careful moment inside one other lives lives'
    exact opening.unique_of_launches allowed hosted careful inside lives lives'
  · intro moment self task gives leaves
    have inside := (List.getElem?_eq_some_iff.mp gives).1
    have reached : Reachable client world := .opening opening
    refine ⟨?_, fun switch shows => ?_, fun other lives => ?_⟩
    · have grown : left (moment + 1) = left moment ++ _ := leftBy_succ gives
      rw [grown, leaves]
      exact List.mem_append_right _ (List.mem_singleton_self _)
    · have next : now (moment + 1) = (now moment).abandon self :=
        upTo_succ gives
      rw [next, abandon_switch? leaves, Option.map_eq_some_iff] at shows
      rcases shows with ⟨before, shows, rfl⟩
      rcases leaves?_eq_some leaves with ⟨thread, found, waits⟩
      have vouches := opening.vouches_upTo allowed hosted (Nat.le_of_lt inside)
      have awaits : (now moment).stopping? self = some task := by
        rw [stopping?_of_some found, waits]
        rfl
      cases ((vouches.warrants before shows).of_waits awaits).1
      rfl
    · exact (becomes_at allowed gives).lives_on (reached.upTo allowed moment)
        (fun _ _ => nofun) (fun _ => nofun) lives
  · exact fun moment launches => opening.launches_beside allowed hosted launches
  · intro moment self thread switch steps found runs shows unlocked empty
    have next : now (moment + 1) = (now moment).step client self :=
      upTo_succ steps
    rw [next]
    have stops :
        (now moment).Stops ((now moment).step client self) self thread switch :=
      stops_of_step shows found runs
    cases stops with
    | waits locked same => cases unlocked.symm.trans locked
    | finds unlocked empty answers => exact answers
    | takes unlocked held threads emptied => cases empty.symm.trans held

/-- A `stop` is given up and the application started again: two tasks are at
work, and the first goes on with its loop. -/
theorem IsOpening.one_task_at_work_unless_stop_abandoned_of_restart :
    let steps (thread : ThreadId) (number : Nat) :=
      List.replicate number (Occurrence.step thread : Occurrence Unit)
    let opening : World Unit Unit Unit :=
      .new (.new ⟨1, "app"⟩ .standard (.application .new) ()) 1
    let run :=
      [.request 0 .start] ++ steps 0 2 ++ steps 1 3 ++ [.request 0 .stop] ++
        steps 0 3 ++
        [.abandon 0, .request 0 .start] ++ steps 0 2 ++ steps 1 2
    let now := opening.upTo .accepting run
    1 ∈ opening.leftBy .accepting run 11 ∧
      (now 11).shared.switch? = some ⟨none, false, .stopRequested, true⟩ ∧
        (now 14).shared.switch? = some (.running 2) ∧
          (now 14).isLive 1 = true ∧ (now 14).isLive 2 = true ∧
            (now 16).threads[1]? =
              some ⟨.task, [], .run (.cycle (.fresh (.loop 0)))⟩ := by
  intro steps opening run now
  have opens : opening.IsOpening := .application _ _ _ _
  have allowed : opening.allowsAll .accepting run = true := by decide +kernel
  have hosted :
      (opening.follow .accepting run).shared.host.isAlone = false := by
    decide +kernel
  obtain ⟨_, _, leaves, beside, _⟩ :=
    opens.one_task_at_work_unless_stop_abandoned allowed hosted
  have launches : opening.LaunchesAt .accepting run 13 := by
    refine ⟨0, ⟨.caller, [], .run .start⟩,
      ⟨none, false, .stopRequested, true⟩, rfl,
      by decide +kernel, rfl, by decide +kernel, rfl, fun task held => ?_⟩
    cases held
  have number : (now 13).threads.length = 2 := by decide +kernel
  have lives : (now 13).isLive 1 = true := by decide +kernel
  rcases beside 13 launches with ⟨runs, new, stay⟩
  rw [number] at runs new
  have awaits : (now 10).leaves? (.abandon 0) = some 1 := by decide +kernel
  have left := (leaves 10 0 1 rfl awaits).1
  exact ⟨left, by decide +kernel, runs, stay 1 lives, new, by decide +kernel⟩

end World

end Switchboard
