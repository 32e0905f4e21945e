import Switchboard.Proofs.Slot

/-!
# The lifecycle of an application

Whenever nobody is starting or stopping, the slot holds a task if and only if
the application says that it is running, and is empty if and only if it says
that it is stopped; and no task is at work but the one in the slot.  A `start`
spawns a task if the slot holds none that is at work, and changes nothing
otherwise.  A `stop` returns once the task that was in the slot has ended.  All
of this is true of runs in which nobody gives up a `stop` that waits for its
task.  What the application says is no account of a task that has died: until
somebody starts or stops again it says that it is running.
-/

namespace Switchboard

variable {σ κ ν : Type}

/-- Whether a thread is in the middle of a `start` or a `stop`. -/
def Control.isSwitching : Control → Bool
  | .run (.perform .start) | .run (.perform .stop) | .run .start | .run .stop =>
      true
  | control => control.stopping?.isSome

theorem Control.stopping?_of_not_isSwitching {control : Control}
    (rests : control.isSwitching = false) : control.stopping? = none := by
  rw [← Option.isSome_eq_false_iff.trans Option.isNone_iff_eq_none]
  simp only [isSwitching] at rests
  split at rests
  · cases rests
  · cases rests
  · cases rests
  · cases rests
  · exact rests

namespace World

/-- Whether somebody is in the middle of a `start` or a `stop`. -/
def isSwitching (world : World σ κ ν) : Bool :=
  world.threads.any fun thread => thread.control.isSwitching

/-- A thread goes on with another control, and nothing else changes. -/
def proceed (world : World σ κ ν) (self : ThreadId) (thread : Thread κ)
    (control : Control) :
    World σ κ ν :=
  world.put self { thread with control := control }

/-- What a step of a `start` does that finds the given switch.  It waits for the
slot, it finds a task at work and changes nothing, or it spawns one task. -/
inductive Starts (world next : World σ κ ν) (self : ThreadId)
    (thread : Thread κ) (switch : Switch) : Prop
  | waits (locked : switch.locked = true) (same : next = world)
  | finds {task : ThreadId} (unlocked : switch.locked = false)
      (held : switch.worker = some task) (lives : world.isLive task = true)
      (answers : next = world.proceed self thread
        (.answer (.concluded (.ok ()))))
  | spawns (unlocked : switch.locked = false)
      (vacant : ∀ task, switch.worker = some task → world.isLive task = false)
      (threads : next.threads =
        (world.proceed self thread (.answer (.concluded (.ok ())))).threads ++
        [.dispatch])
      (filled : next.shared.switch? = some (.running world.threads.length))

/-- What a step of a `stop` does that finds the given switch.  It waits for the
slot, it finds the slot empty and changes nothing, or it takes the task out of
the slot and goes on to wait for it. -/
inductive Stops (world next : World σ κ ν) (self : ThreadId) (thread : Thread κ)
    (switch : Switch) : Prop
  | waits (locked : switch.locked = true) (same : next = world)
  | finds (unlocked : switch.locked = false) (empty : switch.worker = none)
      (answers : next = world.proceed self thread
        (.answer (.concluded (.ok ()))))
  | takes {task : ThreadId} (unlocked : switch.locked = false)
      (held : switch.worker = some task)
      (threads : next.threads =
        (world.proceed self thread
          (.run (.signal none (.awaitTask task)))).threads)
      (emptied : next.shared.switch? = some .stopping)

variable {client : Client σ κ ν} {world next : World σ κ ν} {self : ThreadId}
  {thread : Thread κ} {left : List ThreadId} {switch : Switch}

/-! ## Single steps -/

theorem proceed_same (found : world.threads[self]? = some thread) :
    world.proceed self thread thread.control = world := by
  rcases List.getElem?_eq_some_iff.mp found with ⟨inside, rfl⟩
  exact congrArg (World.mk world.shared) (List.set_getElem_self inside)

/-- A move that leaves everything but the control as it is. -/
theorem step_eq_proceed (found : world.threads[self]? = some thread)
    {control : Control}
    (moves : world.shared.move client
      (world.surroundings self) thread.stack thread.control =
      .pass world.shared thread.stack control) :
    world.step client self = world.proceed self thread control := by
  rw [step_of_some found, moves]
  exact congrArg (World.mk world.shared) (List.append_nil _)

/-- The slot holds a task that is at work as long as it has not ended. -/
theorem Warrants.isLive_iff (warrants : world.Warrants left switch)
    {task : ThreadId} (held : switch.worker = some task) :
    world.isLive task = true ↔ world.ending? task = none := by
  refine ⟨ending?_of_isLive, fun stays => ?_⟩
  cases warrants with
  | running found dispatches nobody others =>
      cases held
      rw [ending?, found] at stays
      exact World.isLive_iff.mpr ⟨_, found, dispatches.1, stays⟩
  | stopping waits only others => cases held
  | vacant stopRequested rests nobody others => cases held

/-- What a `start` does with the switch that it finds. -/
theorem Warrants.starts (warrants : world.Warrants left switch)
    (hosted : world.shared.switch? = some switch)
    (found : world.threads[self]? = some thread)
    (runs : thread.control = .run .start) :
    world.Starts (world.step client self) self thread switch := by
  have moves (control : Control)
      (starts : world.shared.start client
        (world.surroundings self) thread.stack =
        .pass world.shared thread.stack control) :
      world.step client self = world.proceed self thread control := by
    refine step_eq_proceed found ?_
    rw [runs]
    exact starts
  cases locked : switch.locked with
  | true =>
      have waits :=
        moves _ (Shared.start_of_locked client _ thread.stack hosted locked)
      rw [← runs, proceed_same found] at waits
      exact .waits locked waits
  | false =>
      by_cases vacant : ∀ task, switch.worker = some task →
        world.isLive task = false
      · have ended (task : ThreadId) (held : switch.worker = some task) :
            (world.ending? task).isSome = true := by
          rw [Option.isSome_iff_ne_none, ne_eq, ← warrants.isLive_iff held,
            vacant task held]
          exact Bool.false_ne_true
        have started :=
          Shared.start_of_vacant client (world.surroundings self) thread.stack
          hosted locked ended
        rcases started with ⟨filled, answers, spawned⟩
        rw [step_of_some found, runs]
        refine .spawns locked vacant ?_ filled
        simp only [afterTurn, Shared.move, Shared.execute, Shared.start_stack,
          answers, spawned, proceed, put]
        rfl
      · simp only [not_forall, Bool.not_eq_false] at vacant
        rcases vacant with ⟨task, held, lives⟩
        exact .finds locked held lives
          (moves _ (Shared.start_of_live client _ thread.stack
            hosted locked held (ending?_of_isLive lives)))

/-- What a `stop` does with the switch that it finds. -/
theorem stops_of_step (hosted : world.shared.switch? = some switch)
    (found : world.threads[self]? = some thread)
    (runs : thread.control = .run .stop) :
    world.Stops (world.step client self) self thread switch := by
  have moves (control : Control)
      (stops : world.shared.stop thread.stack =
        .pass world.shared thread.stack control) :
      world.step client self = world.proceed self thread control := by
    refine step_eq_proceed found ?_
    rw [runs]
    exact stops
  cases locked : switch.locked with
  | true =>
      have waits := moves _ (Shared.stop_of_locked thread.stack hosted locked)
      rw [← runs, proceed_same found] at waits
      exact .waits locked waits
  | false =>
      cases held : switch.worker with
      | none =>
          exact .finds locked held
            (moves _ (Shared.stop_of_empty thread.stack hosted locked held))
      | some task =>
          rcases Shared.stop_of_held thread.stack hosted locked held with
            ⟨emptied, awaits, unspawned⟩
          rw [step_of_some found, runs]
          refine .takes locked held ?_ emptied
          simp only [afterTurn, Shared.move, Shared.execute, Shared.stop_stack,
            awaits, unspawned, proceed, put]
          exact List.append_nil _

/-- The first step of a `start` or a `stop` only gets to the next one. -/
theorem step_of_perform (hosted : world.shared.switch? = some switch)
    (found : world.threads[self]? = some thread) {request : Request}
    {instruction : Instruction}
    (which : request = .start ∧ instruction = .start ∨ request = .stop ∧
      instruction = .stop)
    (runs : thread.control = .run (.perform request)) :
    world.step client self = world.proceed self thread (.run instruction) := by
  rcases Shared.exists_application hosted with ⟨application, host, _⟩
  refine step_eq_proceed found ?_
  rw [runs]
  rcases which with ⟨rfl, rfl⟩ | ⟨rfl, rfl⟩
  · simp only [Shared.move, Shared.execute, Shared.perform, host]
    rfl
  · simp only [Shared.move, Shared.execute, Shared.perform, host]
    rfl

/-! ## Between starts and stops -/

theorem stopping?_of_not_isSwitching (rests : world.isSwitching = false)
    (self : ThreadId) :
    world.stopping? self = none := by
  rw [stopping?]
  cases found : world.threads[self]? with
  | none => rfl
  | some thread =>
      refine Control.stopping?_of_not_isSwitching ?_
      rw [isSwitching, List.any_eq_false] at rests
      exact Bool.eq_false_iff.mpr (rests thread (List.mem_of_getElem? found))

/-- Where nobody was left to itself and nobody is starting or stopping, the
application runs with the only task that may be at work, or it has stopped and
there is none. -/
theorem Warrants.at_rest (warrants : world.Warrants [] switch)
    (rests : world.isSwitching = false) :
    (∃ task thread, switch = .running task ∧
      world.threads[task]? = some thread ∧
        thread.IsDispatching ∧ ∀ other, world.isLive other = true →
          other = task) ∨
      ∃ stopRequested, switch = ⟨none, false, .stopped, stopRequested⟩ ∧
        ∀ task, world.isLive task = false := by
  cases warrants with
  | running found dispatches nobody others =>
      exact .inl ⟨_, _, rfl, found, dispatches, fun other lives =>
        (others other lives).resolve_right List.not_mem_nil⟩
  | stopping waits only others =>
      cases (stopping?_of_not_isSwitching rests _).symm.trans waits
  | vacant stopRequested stopped nobody others =>
      cases stopped.resolve_right fun abandoned => abandoned.2 rfl
      refine .inr
        ⟨stopRequested, rfl, fun task => Bool.eq_false_iff.mpr fun lives => ?_⟩
      exact absurd (others task lives) List.not_mem_nil

/-- While the slot holds a task no stop is requested. -/
theorem Warrants.lowered (warrants : world.Warrants left switch)
    (occupied : switch.worker.isSome = true) :
    switch.stopRequested = false := by
  cases warrants with
  | running found dispatches nobody others => rfl
  | stopping waits only others => cases occupied
  | vacant stopRequested stopped nobody others => cases occupied

/-- Where nobody was left to itself and nobody is starting or stopping, the slot
and the phase agree, and no task is at work but the one in the slot. -/
theorem Warrants.phase_at_rest (warrants : world.Warrants [] switch)
    (rests : world.isSwitching = false) :
    (switch.worker.isSome = true ↔ switch.phase = .running) ∧
      (switch.worker = none ↔ switch.phase = .stopped) ∧
        switch.phase ≠ .stopRequested ∧
        ∀ task, world.isLive task = true → switch.worker = some task := by
  obtain ⟨task, thread, rfl, found, dispatches, only⟩ | ⟨stopRequested,
    rfl, nobody⟩ :=
    warrants.at_rest rests
  · refine ⟨⟨fun _ => rfl, fun _ => rfl⟩, ⟨fun empty => ?_, Phase.noConfusion⟩,
      Phase.noConfusion, fun other lives => ?_⟩
    · cases empty
    · rw [only other lives]
      rfl
  · refine ⟨⟨Bool.noConfusion, Phase.noConfusion⟩, ⟨fun _ => rfl, fun _ => rfl⟩,
      Phase.noConfusion, fun other lives => ?_⟩
    rw [nobody other] at lives
    cases lives

/-! ## Runs -/

variable {run : List (Occurrence κ)}

/-- A `stop` that has waited for a task returns at a moment of a run: the task
has ended, the answer tells how, and the slot is empty. -/
structure ConcludesAt (client : Client σ κ ν) (world : World σ κ ν)
    (run : List (Occurrence κ)) (self task : ThreadId) (moment : Nat) :
    Prop where
  steps : run[moment]? = some (.step self)
  answers :
    ∃ ending, (world.upTo client run moment).ending? task = some ending ∧
    ((world.upTo client run (moment + 1)).threads[self]?).map Thread.control =
      some (.answer (.concluded (Failure.ofEnding task ending)))
  stopped :
    ∀ switch, (world.upTo client run (moment + 1)).shared.switch? =
      some switch →
    switch = ⟨none, false, .stopped, true⟩

section

variable (opening : world.IsOpening)
  (allowed : world.allowsAll client run = true)
  (hosted : (world.follow client run).shared.host.isAlone = false)
  (patient : world.leftBy client run run.length = [])
include opening allowed hosted patient

/-- If nobody gives up a `stop`, the switch tells of all tasks. -/
theorem IsOpening.warrants_upTo {moment : Nat} (inside : moment ≤ run.length)
    (shows : (world.upTo client run moment).shared.switch? = some switch) :
    (world.upTo client run moment).Warrants [] switch := by
  have warrants :=
    (opening.vouches_upTo allowed hosted inside).warrants switch shows
  have nobody : world.leftBy client run moment ⊆ [] :=
    patient ▸ leftBy_subset inside
  rwa [List.subset_nil.mp nobody] at warrants

/-- A `stop` that waits for a task waits until the task has ended, and then
returns. -/
theorem IsOpening.waits_or_concludes {earlier later : Nat}
    (order : earlier ≤ later) (inside : later ≤ run.length)
    {self task : ThreadId}
    (waits : (world.upTo client run earlier).stopping? self = some task) :
    (world.upTo client run later).stopping? self = some task ∨
      ∃ moment, earlier ≤ moment ∧ moment < later ∧
        world.ConcludesAt client run self task moment := by
  induction later with
  | zero => exact .inl (Nat.le_zero.mp order ▸ waits)
  | succ later inductionHypothesis =>
      obtain before | rfl := Nat.le_or_eq_of_le_succ order
      swap
      · exact .inl waits
      rcases inductionHypothesis before (Nat.le_of_succ_le inside) with
        stays | ⟨moment, after, sooner, concludes⟩
      swap
      · exact .inr ⟨moment, after, Nat.lt_succ_of_lt sooner, concludes⟩
      have warrants (switch : Switch)
          (shows : (world.upTo client run later).shared.switch? =
            some switch) :=
        opening.warrants_upTo allowed hosted patient
          (Nat.le_of_succ_le inside) shows
      have next : run[later]? = some run[later] :=
        List.getElem?_eq_getElem inside
      have throws := opening.throws_at allowed hosted next
      have given : world.leftBy client run (later + 1) = _ := leftBy_succ next
      generalize run[later] = occurrence at next throws given
      cases throws with
      | aside same keeps unspawned => exact .inl (keeps ▸ stays)
      | launches starter runs found unlocked vacant after keeps spawned =>
          exact .inl (keeps ▸ stays)
      | closes closed keeps unspawned => exact .inl (keeps ▸ stays)
      | takes found unlocked held after keeps unspawned =>
          have nobody := ((warrants _ found).of_held held).1 self
          cases nobody.symm.trans stays
      | @concludes other task' ending waited ended answers after keeps
          unspawned =>
          by_cases same : self = other
          · subst same
            cases waited.symm.trans stays
            refine .inr ⟨later, before, Nat.lt_succ_self _, next,
              ⟨ending, ended, answers⟩, ?_⟩
            intro switch shows
            rw [after, Option.map_eq_some_iff] at shows
            rcases shows with ⟨found, shows, rfl⟩
            cases ((warrants _ shows).of_waits waited).1
            rfl
          · left
            rw [keeps, Function.update_of_ne same]
            exact stays
      | givesUp waited leaves after keeps unspawned =>
          have nobody : world.leftBy client run (later + 1) ⊆ [] :=
            patient ▸ leftBy_subset inside
          rw [given, leaves] at nobody
          exact absurd (nobody (List.mem_append_right _ List.mem_cons_self))
            List.not_mem_nil

end

/-- The lifecycle of an application whose stops are not given up.  At every
moment of every run:
* while the slot holds a task no stop is requested, and whenever nobody is
  starting or stopping, the slot holds a task if the application runs, is empty
  if it has stopped, and no task is at work but the one in the slot;
* one task is at work at most;
* a `start` or a `stop` looks at the slot when it is unlocked; a `start` that
  finds a task at work and a `stop` that finds the slot empty change nothing,
  any other `start` spawns exactly one task, and any other `stop` takes the task
  out of the slot and waits for it;
* a `stop` that waits for a task returns only once the task has ended, and then
  the slot is empty and the application has stopped. -/
theorem IsOpening.keeps_lifecycle (opening : world.IsOpening)
    (allowed : world.allowsAll client run = true)
    (hosted : (world.follow client run).shared.host.isAlone = false)
    (patient : world.leftBy client run run.length = []) :
    let now := world.upTo client run
    (∀ moment ≤ run.length, ∀ switch,
      (now moment).shared.switch? = some switch →
        (switch.worker.isSome = true → switch.stopRequested = false) ∧
          ((now moment).isSwitching = false →
            (switch.worker.isSome = true ↔ switch.phase = .running) ∧
              (switch.worker = none ↔ switch.phase = .stopped) ∧
                switch.phase ≠ .stopRequested ∧
                  ∀ task, (now moment).isLive task = true →
                    switch.worker = some task)) ∧
      (∀ moment ≤ run.length, ∀ one other, (now moment).isLive one = true →
        (now moment).isLive other = true → one = other) ∧
        (∀ moment self thread switch, run[moment]? = some (.step self) →
          (now moment).threads[self]? = some thread →
          (now moment).shared.switch? = some switch →
          (thread.control = .run (.perform .start) →
              now (moment + 1) = (now moment).proceed self thread
                (.run .start)) ∧
            (thread.control = .run .start →
              (now moment).Starts (now (moment + 1)) self thread switch) ∧
            (thread.control = .run (.perform .stop) →
              now (moment + 1) = (now moment).proceed self thread
                (.run .stop)) ∧
            (thread.control = .run .stop →
              (now moment).Stops (now (moment + 1)) self thread switch)) ∧
          (∀ earlier later self task, earlier ≤ later → later ≤ run.length →
            (now earlier).stopping? self = some task →
            (now later).stopping? self = some task ∨
              ∃ moment, earlier ≤ moment ∧ moment < later ∧
                world.ConcludesAt client run self task moment) := by
  intro now
  refine ⟨fun moment inside switch shows => ?_,
    fun moment inside one other lives lives' => ?_,
    fun moment self thread switch steps found shows => ?_,
    fun earlier later self task order inside waits =>
      opening.waits_or_concludes allowed hosted patient order inside waits⟩
  · have warrants := opening.warrants_upTo allowed hosted patient inside shows
    exact ⟨warrants.lowered, warrants.phase_at_rest⟩
  · have nobody : world.leftBy client run moment ⊆ [] :=
      patient ▸ leftBy_subset inside
    have vouches := opening.vouches_upTo allowed hosted inside
    rw [List.subset_nil.mp nobody] at vouches
    exact vouches.unique one other lives lives' List.not_mem_nil
      List.not_mem_nil
  · have inside := (List.getElem?_eq_some_iff.mp steps).1
    have warrants :=
      opening.warrants_upTo allowed hosted patient (Nat.le_of_lt inside) shows
    have next : now (moment + 1) = (now moment).step client self :=
      upTo_succ steps
    rw [next]
    refine ⟨fun runs => ?_, fun runs => ?_, fun runs => ?_, fun runs => ?_⟩
    · exact step_of_perform shows found (.inl ⟨rfl, rfl⟩) runs
    · exact warrants.starts shows found runs
    · exact step_of_perform shows found (.inr ⟨rfl, rfl⟩) runs
    · exact stops_of_step shows found runs

/-- A task is cancelled, a second `start` replaces it, and a `stop` ends the new
one. -/
theorem IsOpening.keeps_lifecycle_of_restart :
    let steps (thread : ThreadId) (number : Nat) :=
      List.replicate number (Occurrence.step thread : Occurrence Unit)
    let opening : World Unit Unit Unit :=
      .new (.new ⟨1, "app"⟩ .standard (.application .new) ()) 1
    let run :=
      [.request 0 .start] ++ steps 0 2 ++ [.cancel 1, .request 0 .start] ++
        steps 0 2 ++
        [.request 0 .stop] ++ steps 0 3 ++ steps 2 4 ++ steps 0 1
    let now := opening.upTo .accepting run
    (now 4).shared.switch? = some (.running 1) ∧
    (now 4).ending? 1 = some .cancelled ∧
      (now 6).Starts (now 7) 0 ⟨.caller, [], .run .start⟩ (.running 1) ∧
        (now 7).shared.switch? = some (.running 2) ∧
          ∃ moment, 10 ≤ moment ∧ moment < 16 ∧
            opening.ConcludesAt .accepting run 0 2 moment := by
  intro steps opening run now
  have opens : opening.IsOpening := .application _ _ _ _
  have allowed : opening.allowsAll .accepting run = true := by decide +kernel
  have hosted :
      (opening.follow .accepting run).shared.host.isAlone = false := by
    decide +kernel
  have patient : opening.leftBy .accepting run run.length = [] := by
    decide +kernel
  obtain ⟨_, _, switches, waits⟩ := opens.keeps_lifecycle allowed hosted patient
  have starts :=
    (switches 6 0 ⟨.caller, [], .run .start⟩ (.running 1) rfl
      (by decide +kernel)
    (by decide +kernel)).2.1 rfl
  have left : (now 16).stopping? 0 ≠ some 2 := by decide +kernel
  have concludes :=
    (waits 10 16 0 2 (by decide) (by decide) (by decide +kernel)).resolve_left
      left
  exact ⟨by
    decide +kernel, by decide +kernel, starts, by decide +kernel, concludes⟩

end World

end Switchboard
