import Mathlib.Logic.Function.Basic
import Switchboard.Proofs.Endurance
import Switchboard.Proofs.Switching

/-!
# Who answers for the dispatch tasks

A task of an application that has not ended is in the slot, or a `stop` has
taken it out and waits for it, or the caller of such a `stop` has given up and
left the task to itself.  The switch says which of the first two it is, and
after a `stop` was given up it says nothing of the task that was left.  All of
this holds at every moment of every run.
-/

namespace Switchboard

variable {σ κ ν : Type}

/-! ## What a task does -/

/-- A task is in its loop, drains the queues, is about to leave or to end, or
has ended.  Whatever its clients ask for, they ask above one of its cycles. -/
inductive InTask : List (Frame κ) → Control → Prop
  | loops {stack : List (Frame κ)} {control : Control}
      (inLoop : InLoop stack control) :
      InTask stack control
  | drains {stack : List (Frame κ)} {control : Control} (left : Nat)
      (inCycle : InCycle .drain [] left stack control) : InTask stack control
  | leaves {control : Control}
      (last : control = .run .leave ∨ control = .run .farewell) :
      InTask [] control
  | ended {control : Control}
      (done : ∀ instruction, control ≠ .run instruction) :
      InTask [] control

namespace Shared

theorem move_between_inTask (client : Client σ κ ν) (shared : Shared σ ν)
    (around : Surroundings) {control : Control}
    (between : control.isBetweenCycles = true) :
    let turn := shared.move client around ([] : List (Frame κ)) control
    InTask turn.stack turn.control := by
  have fresh (watch : Nat) :
      InTask ([] : List (Frame κ)) (.run (.cycle (.fresh (.loop watch)))) :=
    .loops (.inCycle watch _ (.serves rfl (Nat.le_refl _)))
  simp only [Control.isBetweenCycles] at between
  split at between
  · exact .loops (.between rfl)
  · rename_i idle watch
    simp only [move, execute, check]
    split
    · exact .leaves (.inl rfl)
    · cases idle with
      | true => exact .loops (.between rfl)
      | false => exact fresh _
  · simp only [move, execute, await]
    split <;> exact .loops (.between rfl)
  · simp only [move, execute, parked]
    split <;> exact .loops (.between rfl)
  · simp only [move, execute, recheck]
    split
    · exact .leaves (.inl rfl)
    · exact fresh _
  · cases between

theorem move_inTask (client : Client σ κ ν) (shared : Shared σ ν)
    (around : Surroundings) {stack : List (Frame κ)} {control : Control}
    (fits : control.Fits stack) (tells : shared.Tells stack control)
    (inTask : InTask stack control) :
    let turn := shared.move client around stack control
    InTask turn.stack turn.control := by
  have cycles {after : AfterCycle} {left : Nat}
      (inCycle : InCycle after [] left stack control)
      (goesOn : ∀ turn : Turn σ κ ν, turn.IsInCycle after [] left →
        InTask turn.stack turn.control)
      (returned : ∀ cycle : Cycle, cycle.after = after →
        InTask ([] : List (Frame κ)) (.run cycle.next)) :
      let turn := shared.move client around stack control
      InTask turn.stack turn.control := by
    rcases shared.move_isInCycle client around fits tells
      (inCycle.mono (Nat.le_add_right _ _)) with stays | returns | escapes
    · exact goesOn _ stays
    · rcases returns with ⟨cycle, same, _, _, _, empty, next⟩
      simp only [empty, next]
      exact returned cycle same
    · rcases escapes.leaves with ⟨payload, empty, raises⟩
      simp only [empty, raises]
      exact .ended fun _ => Control.noConfusion
  cases inTask with
  | loops inLoop =>
      cases inLoop with
      | between between =>
          exact shared.move_between_inTask client around between
      | inCycle watch left inCycle =>
          refine cycles inCycle
            (fun turn stays => .loops (.inCycle watch left stays)) ?_
          intro cycle same
          simp only [Cycle.next, same]
          exact .loops (.between rfl)
  | drains left inCycle =>
      refine cycles inCycle (fun turn stays => .drains left stays)
        fun cycle same => ?_
      simp only [Cycle.next, same]
      split
      · exact .drains _ (.serves rfl (Nat.le_refl _))
      · exact .leaves (.inr rfl)
  | leaves last =>
      obtain rfl | rfl := last
      · simp only [move, execute, leave]
        split
        · exact .drains _ (.serves rfl (Nat.le_refl _))
        · exact .leaves (.inr rfl)
      · exact .ended fun _ => Control.noConfusion
  | ended done =>
      cases control with
      | run instruction => exact absurd rfl (done instruction)
      | _ => exact .ended fun _ => Control.noConfusion

end Shared

/-! ## Tasks at work -/

namespace Thread

/-- A task is in its loop, or a panic or its cancellation has ended it there. -/
def IsDispatching (thread : Thread κ) : Prop :=
  thread.role = .task ∧
    (InLoop thread.stack thread.control ∨
      ∃ ending, thread.ending? = some ending ∧ ending ≠ .finished)

theorem isDispatching_dispatch : (dispatch : Thread κ).IsDispatching :=
  ⟨rfl, .inl (.between rfl)⟩

namespace Changes

variable {client : Client σ κ ν} {world : World σ κ ν} {self : ThreadId}
  {thread later : Thread κ} {occurrence : Occurrence κ}

/-- A task that has ended stays as it is. -/
theorem of_ended (changes : thread.Changes client world self occurrence later)
    (task : thread.role = .task) (ended : thread.ending?.isSome = true) :
    later = thread := by
  rcases thread with ⟨role, stack, control⟩
  rcases isSome_ending?_iff.mp ended with ⟨empty, stands⟩
  dsimp only at empty stands task
  subst empty task
  cases changes with
  | stays => rfl
  | moves turns =>
      rw [turns]
      cases control with
      | run instruction => exact absurd rfl (stands instruction)
      | _ => rfl
  | asked request free | handed code free => cases free
  | abandoned runs waits => exact absurd runs (stands _)
  | cancelled role runs waits => exact absurd runs (stands _)

/-- As long as no stop is requested a task stays in its loop, or something ends
it there. -/
theorem isDispatching
    (changes : thread.Changes client world self occurrence later)
    (fits : thread.Fits)
    (tells : world.shared.Tells thread.stack thread.control)
    (lowered : world.shared.dispatcher.stopRequested = false)
    (dispatches : thread.IsDispatching) : later.IsDispatching := by
  rcases dispatches with ⟨task, inLoop | ⟨ending, ended, died⟩⟩
  · refine ⟨changes.role.trans task, ?_⟩
    by_cases steps : occurrence = .step self
    · subst steps
      cases changes with
      | stays => exact .inl inLoop
      | moves turns =>
          subst turns
          rcases Shared.move_inLoop client _
            (world.surroundings self) fits tells inLoop with
            stays | raised | escapes
          · exact .inl stays
          · cases lowered.symm.trans raised
          · rcases escapes.leaves with ⟨payload, empty, raises⟩
            refine .inr ⟨.panicked payload, ?_, Ending.noConfusion⟩
            rw [empty, raises]
            rfl
    · rcases inLoop.of_others fits changes steps with stays | rfl
      · exact .inl stays
      · cases changes with
        | stays => exact .inl inLoop
        | cancelled => exact .inr ⟨.cancelled, rfl, Ending.noConfusion⟩
  · rw [changes.of_ended task (Option.isSome_of_eq_some ended)]
    exact ⟨task, .inr ⟨ending, ended, died⟩⟩

/-- What others do to a task does not take it out of its course. -/
theorem inTask (changes : thread.Changes client world self occurrence later)
    (fits : thread.Fits)
    (tells : world.shared.Tells thread.stack thread.control)
    (task : thread.role = .task) (inTask : InTask thread.stack thread.control) :
    InTask later.stack later.control := by
  by_cases steps : occurrence = .step self
  · subst steps
    cases changes with
    | stays => exact inTask
    | moves turns =>
        subst turns
        exact world.shared.move_inTask client _ fits tells inTask
  · rcases thread with ⟨role, stack, control⟩
    have cancelled (done : occurrence = .cancel self) :
        InTask later.stack later.control := by
      subst done
      cases changes with
      | stays => exact inTask
      | cancelled => exact .ended fun _ => Control.noConfusion
    cases inTask with
    | loops inLoop =>
        rcases inLoop.of_others fits changes steps with stays | done
        · exact .loops stays
        · exact cancelled done
    | drains left inCycle =>
        exact .drains left (inCycle.of_others fits changes steps)
    | leaves last =>
        have same : later = ⟨role, [], control⟩ := by
          rcases last with runs | runs
          · exact changes.eq_of_run runs ⟨rfl, rfl⟩ steps
          · exact changes.eq_of_run runs ⟨rfl, rfl⟩ steps
        rw [same]
        exact .leaves last
    | ended done =>
        rw [changes.of_ended task (isSome_ending?_iff.mpr ⟨rfl, done⟩)]
        exact .ended done

end Changes

end Thread

namespace World

/-- Whether a thread is a task that has not ended. -/
def isLive (world : World σ κ ν) (task : ThreadId) : Bool :=
  (world.threads[task]?).any fun thread =>
    thread.role = .task && thread.ending?.isNone

/-- The task for which a thread waits in a `stop`. -/
def stopping? (world : World σ κ ν) (self : ThreadId) : Option ThreadId :=
  (world.threads[self]?).bind (·.control.stopping?)

/-- The task that a caller leaves to itself who gives up a `stop`. -/
def leaves? (world : World σ κ ν) : Occurrence κ → Option ThreadId
  | .abandon self =>
      match (world.threads[self]?).map Thread.control with
      | some (.run (.awaitTask task)) => some task
      | _ => none
  | _ => none

variable {client : Client σ κ ν} {world next : World σ κ ν}
  {occurrence : Occurrence κ} {self : ThreadId} {thread : Thread κ}

theorem isLive_iff {task : ThreadId} :
    world.isLive task = true ↔
      ∃ thread, world.threads[task]? = some thread ∧ thread.role = .task ∧
        thread.ending? = none := by
  simp only [isLive, Option.any_eq_true, Bool.and_eq_true, decide_eq_true_eq,
    Option.isNone_iff_eq_none]

/-- A task that is at work has not ended. -/
theorem ending?_of_isLive {task : ThreadId} (lives : world.isLive task = true) :
    world.ending? task = none := by
  rcases isLive_iff.mp lives with ⟨thread, found, _, stays⟩
  rw [ending?, found]
  exact stays

theorem lt_length_of_isLive {task : ThreadId}
    (lives : world.isLive task = true) :
    task < world.threads.length := by
  rcases isLive_iff.mp lives with ⟨thread, found, _⟩
  exact (List.getElem?_eq_some_iff.mp found).1

theorem stopping?_of_some (found : world.threads[self]? = some thread) :
    world.stopping? self = thread.control.stopping? := by
  rw [stopping?, found]
  rfl

/-! ## What an occurrence does with the switch -/

theorem put_stopping? (found : world.threads[self]? = some thread)
    (replacement : Thread κ) : (world.put self replacement).stopping? =
      Function.update world.stopping? self replacement.control.stopping? := by
  funext other
  by_cases same : other = self
  · subst same
    rw [Function.update_self]
    exact stopping?_of_some (put_self found replacement)
  · rw [Function.update_of_ne same, stopping?, put_other same]
    rfl

theorem afterTurn_stopping? (found : world.threads[self]? = some thread)
    (role : Role) (turn : Turn σ κ ν) :
    (world.afterTurn self role turn).stopping? =
      Function.update world.stopping? self turn.control.stopping? := by
  funext other
  by_cases same : other = self
  · subst same
    rw [Function.update_self]
    exact stopping?_of_some (afterTurn_self found role turn)
  · rw [Function.update_of_ne same, stopping?]
    cases stands : world.threads[other]? with
    | some standing =>
        rw [afterTurn_other stands same, stopping?_of_some stands]
        rfl
    | none =>
        -- Whoever is new has yet to begin.
        have nobody : world.stopping? other = none := by
          rw [stopping?, stands]
          rfl
        rw [nobody]
        cases new : (world.afterTurn self role turn).threads[other]? with
        | none => rfl
        | some spawned =>
            rcases afterTurn_cases new with ⟨is, _⟩ | ⟨_, was⟩ | ⟨_, _, rfl⟩
            · exact absurd is same
            · cases stands.symm.trans was
            · rfl

theorem length_afterTurn (world : World σ κ ν) (self : ThreadId) (role : Role)
    {turn : Turn σ κ ν} (unspawned : turn.spawned = false) :
    (world.afterTurn self role turn).threads.length = world.threads.length := by
  simp only [afterTurn]
  rw [unspawned, if_neg Bool.false_ne_true, List.append_nil, List.length_set]

/-- All that an occurrence can do with the switch of an application, with the
threads that wait in a `stop`, and with the number of threads. -/
inductive Throws (world next : World σ κ ν) : Occurrence κ → Prop
  | aside {occurrence : Occurrence κ}
      (same : next.shared.switch? = world.shared.switch?)
      (waits : next.stopping? = world.stopping?)
      (unspawned : next.threads.length = world.threads.length) :
      Throws world next occurrence
  | launches {self : ThreadId} {thread : Thread κ} {switch : Switch}
      (found : world.threads[self]? = some thread)
      (runs : thread.control = .run .start)
      (before : world.shared.switch? = some switch)
      (unlocked : switch.locked = false)
      (vacant : ∀ task, switch.worker = some task →
        (world.ending? task).isSome = true)
      (after : next.shared.switch? = some (.running world.threads.length))
      (waits : next.stopping? = world.stopping?)
      (spawned : next.threads[world.threads.length]? = some .dispatch) :
      Throws world next (.step self)
  | takes {self task : ThreadId} {switch : Switch}
      (before : world.shared.switch? = some switch)
      (unlocked : switch.locked = false) (held : switch.worker = some task)
      (after : next.shared.switch? = some .stopping)
      (waits : next.stopping? = Function.update world.stopping? self
        (some task))
      (unspawned : next.threads.length = world.threads.length) :
      Throws world next (.step self)
  | concludes {self task : ThreadId} {ending : Ending}
      (waited : world.stopping? self = some task)
      (ended : world.ending? task = some ending)
      (answers : (next.threads[self]?).map Thread.control =
        some (.answer (.concluded (Failure.ofEnding task ending))))
      (after : next.shared.switch? =
        world.shared.switch?.map
          ({ · with locked := false, phase := .stopped }))
      (waits : next.stopping? = Function.update world.stopping? self none)
      (unspawned : next.threads.length = world.threads.length) :
      Throws world next (.step self)
  | givesUp {self task : ThreadId} (waited : world.stopping? self = some task)
      (leaves : world.leaves? (.abandon self) = some task)
      (after : next.shared.switch? = world.shared.switch?.map
        ({ · with locked := false }))
      (waits : next.stopping? = Function.update world.stopping? self none)
      (unspawned : next.threads.length = world.threads.length) :
      Throws world next (.abandon self)
  | closes {self : ThreadId} (closed : next.shared.host = .closed)
      (waits : next.stopping? = world.stopping?)
      (unspawned : next.threads.length = world.threads.length) :
      Throws world next (.step self)

/-- Only a `start` that launches a task adds to the threads. -/
theorem Throws.unspawned_or_launches (throws : world.Throws next occurrence) :
    next.threads.length = world.threads.length ∨
      ∃ self thread switch, occurrence = .step self ∧
        world.threads[self]? = some thread ∧
        thread.control = .run .start ∧ world.shared.switch? = some switch ∧
          switch.locked = false ∧
            (∀ task, switch.worker = some task →
              (world.ending? task).isSome = true) ∧
              next.shared.switch? = some (.running world.threads.length) := by
  cases throws with
  | aside same waits unspawned => exact .inl unspawned
  | launches found runs before unlocked vacant after waits spawned =>
      exact .inr ⟨_, _, _, rfl, found, runs, before, unlocked, vacant, after⟩
  | takes before unlocked held after waits unspawned => exact .inl unspawned
  | concludes waited ended answers after waits unspawned => exact .inl unspawned
  | givesUp waited leaves after waits unspawned => exact .inl unspawned
  | closes closed waits unspawned => exact .inl unspawned

/-- A thread that is replaced waits for no task before or after. -/
private theorem put_aside (found : world.threads[self]? = some thread)
    (calm : thread.control.stopping? = none) {shared : Shared σ ν}
    (same : shared.switch? = world.shared.switch?) {replacement : Thread κ}
    (calm' : replacement.control.stopping? = none) :
    world.Throws (World.put { world with shared := shared } self replacement)
      occurrence := by
  refine .aside same ?_ List.length_set
  change (world.put self replacement).stopping? = world.stopping?
  rw [put_stopping? found, calm', ← calm, ← stopping?_of_some found,
    Function.update_eq_self]

private theorem stopping?_of_isFree (free : thread.isFree = true) :
    thread.control.stopping? = none := by
  cases runs : thread.control with
  | run instruction =>
      rw [Thread.isFree_of_run runs] at free
      cases free
  | _ => rfl

private theorem moved_throws (found : world.threads[self]? = some thread)
    (role : Role) {turn : Turn σ κ ν}
    (operates : Operates world.shared
      (world.surroundings self) thread.control turn) :
    world.Throws (world.afterTurn self role turn) (.step self) := by
  have waits := afterTurn_stopping? found role turn
  have own := stopping?_of_some found
  -- A thread that waited for no task and does not wait now changes nothing.
  have calm (before : thread.control.stopping? = none)
      (after : turn.control.stopping? = none) :
      (world.afterTurn self role turn).stopping? = world.stopping? := by
    rw [waits, after, ← before, ← own, Function.update_eq_self]
  generalize running : thread.control = control at operates own calm
  cases operates with
  | aside same stays unspawned =>
      refine .aside same ?_ (length_afterTurn world self role unspawned)
      rw [waits, stays, ← own, Function.update_eq_self]
  | launches before unlocked vacant after answers spawned =>
      refine .launches found running before unlocked vacant after (calm rfl ?_)
        (afterTurn_spawned spawned)
      rw [answers]
      rfl
  | takes before unlocked held after awaits unspawned =>
      refine .takes before unlocked held after ?_
        (length_afterTurn world self role unspawned)
      rw [waits, awaits]
      rfl
  | concludes ended after answers unspawned =>
      refine .concludes own ended ?_ after ?_
        (length_afterTurn world self role unspawned)
      · rw [afterTurn_self found role turn, answers]
        rfl
      · rw [waits, answers]
        rfl
  | closes closed done unspawned =>
      exact .closes closed (calm rfl done)
        (length_afterTurn world self role unspawned)

/-- An occurrence does nothing with the switch but what is listed. -/
theorem Becomes.throws (becomes : Becomes client world occurrence next)
    (fits : ∀ thread ∈ world.threads, thread.Fits)
    (later : next.shared.host.isAlone = false) :
    world.Throws next occurrence := by
  have hosted := becomes.hosted fits later
  cases becomes with
  | same => exact .aside rfl rfl rfl
  | moved found =>
      exact moved_throws found _
        (world.shared.move_operates client _
          (fits _ (List.mem_of_getElem? found)) hosted later)
  | asked request found free =>
      exact put_aside found (stopping?_of_isFree free) rfl rfl
  | handed code found free =>
      exact put_aside found (stopping?_of_isFree free) rfl rfl
  | waited millis => exact .aside rfl rfl rfl
  | abandoned found waits which =>
      refine put_aside found ?_ rfl rfl
      rw [waits]
      obtain rfl | rfl | ⟨task, rfl⟩ := which <;> rfl
  | stopAbandoned found waits =>
      refine .givesUp
        (stopping?_of_some found |>.trans (congrArg Control.stopping? waits)) ?_
        (world.shared.updateApplication_switch? _ _ fun _ _ => rfl)
        (put_stopping? found _)
        List.length_set
      rw [leaves?, found, Option.map_some, waits]
  | cancelledFirst found | cancelledParked found =>
      refine put_aside found ?_ ?_ ?_
      all_goals rfl

/-- Every thread was there before, or it is a task that has just been
spawned. -/
theorem Becomes.origin (becomes : Becomes client world occurrence next)
    {other : ThreadId} {later : Thread κ}
    (found : next.threads[other]? = some later) :
    (∃ thread, world.threads[other]? = some thread ∧
        thread.Changes client world other occurrence later) ∨
      other = world.threads.length ∧ later = .dispatch := by
  cases before : world.threads[other]? with
  | some thread =>
      rcases becomes.thread before with ⟨now, stands, changes⟩
      cases Option.some.inj (found.symm.trans stands)
      exact .inl ⟨thread, rfl, changes⟩
  | none =>
      right
      have beyond := List.getElem?_eq_none_iff.mp before
      have inside := (List.getElem?_eq_some_iff.mp found).1
      cases becomes with
      | moved stands =>
          rcases afterTurn_cases found with ⟨rfl, _⟩ | ⟨_, was⟩ | ⟨_, last, new⟩
          · cases before.symm.trans stands
          · cases before.symm.trans was
          · exact ⟨last, new⟩
      | same | waited => exact absurd inside (Nat.not_lt.mpr beyond)
      | _ =>
          have same := List.length_set ▸ inside
          exact absurd same (Nat.not_lt.mpr beyond)

/-- A task that is at work was at work before, or it has just been spawned. -/
theorem Becomes.isLive (becomes : Becomes client world occurrence next)
    {task : ThreadId} (lives : next.isLive task = true) :
    world.isLive task = true ∨ task = world.threads.length := by
  rcases isLive_iff.mp lives with ⟨later, found, role, stays⟩
  refine (becomes.origin found).imp ?_ And.left
  rintro ⟨thread, before, changes⟩
  refine isLive_iff.mpr ⟨thread, before, changes.role.symm.trans role, ?_⟩
  by_contra ended
  rw [changes.of_ended (changes.role.symm.trans role)
    (Option.isSome_iff_ne_none.mpr ended)]
    at stays
  exact ended stays

theorem Becomes.isLive_of_unspawned
    (becomes : Becomes client world occurrence next)
    (unspawned : next.threads.length = world.threads.length) {task : ThreadId}
    (lives : next.isLive task = true) : world.isLive task = true := by
  rcases becomes.isLive lives with lived | new
  · exact lived
  · have inside := lt_length_of_isLive lives
    exact absurd (unspawned ▸ new) (Nat.ne_of_lt inside)

end World

/-- Every task of a reachable world is on its course. -/
theorem Reachable.inTask {client : Client σ κ ν} {world : World σ κ ν}
    (reachable : Reachable client world) {self : ThreadId} {thread : Thread κ}
    (found : world.threads[self]? = some thread) (task : thread.role = .task) :
    InTask thread.stack thread.control := by
  induction reachable generalizing thread with
  | opening opening =>
      cases opening with
      | application | alone =>
          rw [List.eq_of_mem_replicate (List.mem_of_getElem? found)] at task
          cases task
  | @occur world occurrence reached allowed inductionHypothesis =>
      rcases (World.after_becomes client allowed).origin found with
        ⟨before, stood, changes⟩ | ⟨_, rfl⟩
      · have member := List.mem_of_getElem? stood
        have role := changes.role.symm.trans task
        exact changes.inTask (reached.fits before member)
          (reached.tells before member) role (inductionHypothesis stood role)
      · exact .loops (.between rfl)

end Switchboard
