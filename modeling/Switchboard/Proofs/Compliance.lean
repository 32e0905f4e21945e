import Mathlib.Data.Nat.Init
import Switchboard.Proofs.Departure
import Switchboard.Proofs.Retirement

/-!
# How a task complies with a stop request

The stop flag stays raised until a task is spawned.  A task that is the only one
at work does not miss the request: it comes to see the flag from its first step,
from its wait, or at the end of the pass through the queues that it is in the
middle of, and then it leaves its loop.  It does not wait again on the way, and
it does not begin another pass.
-/

namespace Switchboard

variable {σ κ ν : Type}

/-! ## The flag stays raised -/

namespace World

variable {client : Client σ κ ν} {world next : World σ κ ν}
  {occurrence : Occurrence κ}

/-- The stop flag stays raised while a task is at work beside which no other one
is. -/
theorem Becomes.keepsStop (becomes : Becomes client world occurrence next)
    {task : ThreadId} (lived : world.isLive task = true)
    (alone : next.WorksAlone task)
    (raised : world.shared.dispatcher.stopRequested = true) :
    next.shared.dispatcher.stopRequested = true := by
  cases becomes with
  | @moved self thread found =>
      cases world.shared.move_treatsStop client (world.surroundings self)
        thread.stack thread.control with
      | keeps same => exact same.trans raised
      | raises raised _ => exact raised
      | lowers _ spawns =>
          -- The new task would be a second one.
          have fresh :=
            alone _ (isLive_iff.mpr
              ⟨.dispatch, afterTurn_spawned spawns, rfl, rfl⟩)
          exact absurd (lt_length_of_isLive lived)
            (Nat.not_lt.mpr (Nat.le_of_eq fresh))
  | stopAbandoned =>
      exact (congrArg (·.stopRequested)
        (world.shared.updateApplication_dispatcher _)).trans raised
  | _ => exact raised

end World

/-! ## How long a cycle goes on -/

/-- A thread that is in a cycle above the empty stack has at most thirteen steps
of it before it. -/
def IsPaced (stack : List (Frame κ)) (control : Control) : Prop :=
  ∀ after left, InCycle after [] left stack control →
    InCycle after [] 13 stack control

theorem InCycle.isPaced {after : AfterCycle} {stack : List (Frame κ)}
    {control : Control} (inCycle : InCycle after [] 13 stack control) :
    IsPaced stack control := by
  intro after' left inCycle'
  rw [inCycle'.after_eq inCycle]
  exact inCycle

theorem IsPaced.of_fresh (after : AfterCycle) :
    IsPaced ([] : List (Frame κ)) (.run (.cycle (.fresh after))) :=
  InCycle.isPaced (.serves rfl (Nat.le_refl _))

/-- Whether a thread with this control serves a channel or routes an entry. -/
def Control.isServing : Control → Bool
  | .run (.cycle _) | .run (.route _ _) => true
  | _ => false

/-- Who serves no channel and routes no entry above the empty stack is in no
cycle. -/
theorem IsPaced.of_aside {control : Control}
    (aside : control.isServing = false) :
    IsPaced ([] : List (Frame κ)) control := by
  intro after left inCycle
  rcases inCycle.of_nil with ⟨cycle, _, rfl | ⟨entry, rfl⟩⟩
  · cases aside
  · cases aside

namespace Shared

theorem move_isPaced (client : Client σ κ ν) (shared : Shared σ ν)
    (around : Surroundings) {stack : List (Frame κ)} {control : Control}
    (fits : control.Fits stack) (tells : shared.Tells stack control)
    (inTask : InTask stack control) (paced : IsPaced stack control) :
    let turn := shared.move client around stack control
    IsPaced turn.stack turn.control := by
  have cycles {after : AfterCycle} {left : Nat}
      (inCycle : InCycle after [] left stack control) :
      let turn := shared.move client around stack control
      IsPaced turn.stack turn.control := by
    rcases shared.move_isInCycle client around fits tells
      ((paced after left inCycle).mono (Nat.le_add_right _ _)) with
        stays | returns | escapes
    · exact stays.isPaced
    · rcases returns with ⟨cycle, _, _, _, _, empty, next⟩
      simp only [empty, next, Cycle.next]
      split
      · exact .of_aside rfl
      · exact .of_aside rfl
      · split
        · exact .of_fresh _
        · exact .of_aside rfl
    · rcases escapes.leaves with ⟨payload, empty, raises⟩
      simp only [empty, raises]
      exact .of_aside rfl
  cases inTask with
  | loops inLoop =>
      cases inLoop with
      | inCycle watch left inCycle => exact cycles inCycle
      | between between =>
          simp only [Control.isBetweenCycles] at between
          split at between
          · exact .of_aside rfl
          · rename_i idle watch
            simp only [move, execute, check]
            split
            · exact .of_aside rfl
            · cases idle with
              | true => exact .of_aside rfl
              | false => exact .of_fresh _
          · simp only [move, execute, await]
            split <;> exact .of_aside rfl
          · simp only [move, execute, parked]
            split <;> exact .of_aside rfl
          · simp only [move, execute, recheck]
            split
            · exact .of_aside rfl
            · exact .of_fresh _
          · cases between
  | drains left inCycle => exact cycles inCycle
  | leaves last =>
      obtain rfl | rfl := last
      · simp only [move, execute, leave]
        split
        · exact .of_fresh _
        · exact .of_aside rfl
      · exact .of_aside rfl
  | ended done =>
      cases control with
      | run instruction => exact absurd rfl (done instruction)
      | _ => exact .of_aside rfl

end Shared

/-- While a callback waits, it does not matter for the cycle what happens
above. -/
theorem InCycle.of_cons {after : AfterCycle} {left : Nat} {top : Frame κ}
    {below : List (Frame κ)} {control : Control}
    (inCycle : InCycle after [] left (top :: below) control) (other : Control) :
    InCycle after [] left (top :: below) other := by
  cases inCycle with
  | calls frame waits same enough stands =>
      exact .calls frame waits same enough stands

/-- A control between two passes stands above nothing. -/
theorem Control.Fits.eq_nil_of_between {stack : List (Frame κ)}
    {control : Control} (fits : control.Fits stack)
    (between : control.isBetweenCycles = true) : stack = [] := by
  simp only [isBetweenCycles] at between
  split at between
  · exact fits
  · exact fits
  · exact fits
  · exact fits
  · exact fits
  · cases between

theorem Control.isBetweenCycles_of_waits {control : Control}
    (waits : control.waits = true) :
    control.isBetweenCycles = true := by
  simp only [Control.waits] at waits
  split at waits
  · rfl
  · rfl
  · cases waits

/-- In the middle of a cycle a thread is not between two of them. -/
theorem InCycle.not_between {after : AfterCycle} {left : Nat}
    {stack : List (Frame κ)} {control : Control}
    (inCycle : InCycle after [] left stack control)
    (fits : control.Fits stack) : control.isBetweenCycles = false := by
  rw [Bool.eq_false_iff]
  intro between
  cases fits.eq_nil_of_between between
  rcases inCycle.of_nil with ⟨cycle, _, rfl | ⟨entry, rfl⟩⟩
  · cases between
  · cases between

/-- A task is never in a cycle that has more than thirteen steps before it. -/
theorem Reachable.isPaced {client : Client σ κ ν} {world : World σ κ ν}
    (reachable : Reachable client world) {self : ThreadId} {thread : Thread κ}
    (found : world.threads[self]? = some thread) (task : thread.role = .task) :
    IsPaced thread.stack thread.control := by
  induction reachable generalizing thread with
  | opening opening =>
      cases opening with
      | application | alone =>
          rw [List.eq_of_mem_replicate (List.mem_of_getElem? found)] at task
          cases task
  | @occur world occurrence reached allowed inductionHypothesis =>
      rcases (World.after_becomes client allowed).origin found with
        ⟨before, stood, changes⟩ | ⟨_, rfl⟩
      · have member := List.mem_of_getElem? stood
        have role := changes.role.symm.trans task
        have paced := inductionHypothesis stood role
        cases changes with
        | stays => exact paced
        | moves turns =>
            subst turns
            exact world.shared.move_isPaced client _
              (reached.fits before member) (reached.tells before member)
              (reached.inTask stood role) paced
        | asked request free | handed code free =>
            rw [Thread.isFree, role] at free
            cases free
        | abandoned runs waits =>
            rcases before with ⟨_, stack, control⟩
            change IsPaced stack (.answer .abandoned)
            cases stack with
            | nil => exact .of_aside rfl
            | cons top below =>
                exact fun after left inCycle =>
                  (paced after left (inCycle.of_cons control)).of_cons _
        | cancelled => exact .of_aside rfl
      · exact .of_aside rfl

/-! ## What a task has seen that waits -/

/-- A task comes to its wait from a look at the flag that finds it lowered. -/
theorem Shared.waits_cases {client : Client σ κ ν} {shared : Shared σ ν}
    {around : Surroundings} {stack : List (Frame κ)} {control : Control}
    (fits : control.Fits stack)
    (waits : (shared.move client around stack control).control.waits = true) :
    control.waits = true ∨ shared.dispatcher.stopRequested = false := by
  have watches := shared.move_watches client around fits
  generalize shared.move client around stack control = turn at waits watches
  cases watches with
  | begins | rests | skips => cases waits
  | turns watch watch' lowered => exact .inr lowered
  | parks | stays => exact .inl rfl
  | looks watch fresh =>
      rw [fresh] at waits
      cases waits
  | elsewhere away =>
      simp only [Control.waits] at waits
      split at waits
      · rename_i runs
        rw [runs] at away
        cases away
      · rename_i runs
        rw [runs] at away
        cases away
      · cases waits

namespace World

variable {client : Client σ κ ν} {world : World σ κ ν}
  {run : List (Occurrence κ)}

/-- A task that waits has seen the flag lowered, and it has been at work
since. -/
theorem IsOpening.saw_lowered (opening : world.IsOpening)
    (allowed : world.allowsAll client run = true) {task : ThreadId}
    {moment : Nat} (inside : moment ≤ run.length) {thread : Thread κ}
    (found : (world.upTo client run moment).threads[task]? = some thread)
    (waits : thread.control.waits = true) :
    ∃ seen ≤ moment,
      (world.upTo client run seen).shared.dispatcher.stopRequested = false ∧
      ∀ between, seen ≤ between → between ≤ moment →
        (world.upTo client run between).isLive task = true := by
  have reachable : Reachable client world := .opening opening
  induction moment generalizing thread with
  | zero =>
      cases opening with
      | application | alone =>
          rw [List.eq_of_mem_replicate (List.mem_of_getElem? found)] at waits
          cases waits
  | succ moment inductionHypothesis =>
      have lives :=
        (reachable.upTo allowed (moment + 1)).isLive_of_waits found waits
      have next : run[moment]? = some run[moment] :=
        List.getElem?_eq_getElem inside
      -- It is at work at the last moment, and at those before.
      have on {seen : Nat} (lived : ∀ between, seen ≤ between →
        between ≤ moment →
          (world.upTo client run between).isLive task = true) (between : Nat)
          (after : seen ≤ between) (before : between ≤ moment + 1) :
          (world.upTo client run between).isLive task = true := by
        rcases Nat.lt_or_eq_of_le before with earlier | rfl
        · exact lived between after (Nat.le_of_lt_succ earlier)
        · exact lives
      have waited {before : Thread κ}
          (stood : (world.upTo client run moment).threads[task]? = some before)
          (waits : before.control.waits = true) : ∃ seen ≤ moment + 1,
            (world.upTo client run seen).shared.dispatcher.stopRequested =
              false ∧
              ∀ between, seen ≤ between → between ≤ moment + 1 →
                (world.upTo client run between).isLive task = true := by
        rcases inductionHypothesis (Nat.le_of_succ_le inside) stood waits with
          ⟨seen, order, lowered, lived⟩
        exact ⟨seen, Nat.le_succ_of_le order, lowered, on lived⟩
      rcases (becomes_at allowed next).origin found with
        ⟨before, stood, changes⟩ | ⟨_, rfl⟩
      · generalize run[moment] = occurrence at changes next
        have role := changes.role
        cases changes with
        | stays => exact waited stood waits
        | moves turns =>
            subst turns
            rcases Shared.waits_cases
              ((reachable.upTo allowed moment).fits before
              (List.mem_of_getElem? stood)) waits with waits | lowered
            · exact waited stood waits
            · refine ⟨moment, Nat.le_succ _, lowered,
                on fun between after order => ?_⟩
              rw [Nat.le_antisymm order after]
              exact ((becomes_at allowed next).isLive lives).resolve_right
                (Nat.ne_of_lt (List.getElem?_eq_some_iff.mp stood).1)
        | _ => cases waits
      · cases waits

/-- Once a stop was requested and everybody else rests, a task does not wait in
vain. -/
theorem IsOpening.wait_ends (opening : world.IsOpening)
    (allowed : world.allowsAll client run = true) {task : ThreadId}
    {moment : Nat} (inside : moment ≤ run.length) {thread : Thread κ}
    (found : (world.upTo client run moment).threads[task]? = some thread)
    (waits : thread.control.waits = true)
    (quiet : (world.upTo client run moment).othersSuspended task = true)
    (raised : (world.upTo client run moment).shared.dispatcher.stopRequested =
      true)
    (alone :
      ∀ moment ≤ run.length, (world.upTo client run moment).isLive task = true →
      (world.upTo client run moment).WorksAlone task) :
    let wake := (world.upTo client run moment).shared.dispatcher.wake
    (∃ watch, thread.control = .run (.await watch) ∧ wake.permit = true) ∨
      ∃ watch, thread.control = .run (.parked watch) ∧
        wake.hasSignalled task = true := by
  intro wake
  have reachable : Reachable client world := .opening opening
  have reached := reachable.upTo allowed moment
  have lives := reached.isLive_of_waits found waits
  rcases opening.saw_lowered allowed inside found waits with
    ⟨seen, order, lowered, lived⟩
  have role : ((world.upTo client run seen).taskAt task).role = .task := by
    rcases isLive_iff.mp (lived seen (Nat.le_refl _) order) with
      ⟨before, stood, role, _⟩
    rw [taskAt_of_some stood]
    exact role
  have minds := (reachable.mindsStop_at allowed order inside
    (fun between after before => alone between
      (Nat.le_trans (Nat.le_of_lt before) inside)
      (lived between after (Nat.le_of_lt before))) role lowered).2
  have hears : wake.permit = true ∨ wake.hasSignalled task = true := by
    cases minds with
    | hears inLoop hears =>
        rcases hears with owes | stored
        · rcases owes raised with ⟨requester, member, owes⟩
          rcases List.getElem?_of_mem member with ⟨other, stands⟩
          exfalso
          by_cases same : other = task
          · subst same
            cases found.symm.trans stands
            simp only [Control.owesStop] at owes
            split at owes
            · rename_i signals
              rw [signals] at waits
              cases waits
            · cases owes
          · have suspended := isSuspended_of_othersSuspended quiet same stands
            simp only [Control.owesStop] at owes
            split at owes
            · rename_i signals
              rw [Thread.isSuspended, signals] at suspended
              cases suspended
            · cases owes
        · exact stored
    | looks watch empty rechecks =>
        rw [taskAt_of_some found] at rechecks
        rw [rechecks] at waits
        cases waits
    | left left =>
        rw [taskAt_of_some found] at left
        rw [left.unwaiting
          (reached.fits thread (List.mem_of_getElem? found))] at waits
        cases waits
  have suits := reached.suits (alone moment inside lives)
  rw [taskAt_of_some found] at suits
  simp only [Control.waits] at waits
  split at waits
  · rename_i watch runs
    rw [runs] at suits
    have unsignalled : wake.signalled = [] := suits.2.1
    refine .inl ⟨watch, runs, hears.resolve_right ?_⟩
    rw [Wake.hasSignalled, unsignalled]
    exact Bool.false_ne_true
  · rename_i watch runs
    rw [runs] at suits
    refine .inr ⟨watch, runs, ?_⟩
    rcases suits with ⟨waiting, unsignalled, _⟩ | ⟨_, signalled⟩
    · have unstored := reached.isLined.unstored (waiting ▸ List.cons_ne_nil _ _)
      exact hears.resolve_left (Bool.eq_false_iff.mp unstored)
    · exact Wake.hasSignalled_of_eq signalled
  · cases waits

end World

/-! ## From the request to the end of the loop -/

/-- At a moment of an orderly run a task takes its next step while a stop is
requested.  As long as the task is at work no other one is, and no panic leaves
a cycle: neither that of a session that is asked for its number, nor that of a
payload that is destroyed. -/
structure StopFinds (client : Client σ κ ν) (world : World σ κ ν)
    (run : List (Occurrence κ)) (task : ThreadId) (asked : Nat) : Prop where
  opening : world.IsOpening
  orderly : world.isOrderlyAll client run = true
  steps : run[asked]? = some (.step task)
  works : (world.upTo client run asked).isLive task = true
  raised : (world.upTo client run asked).shared.dispatcher.stopRequested = true
  alone :
    ∀ moment ≤ run.length, (world.upTo client run moment).isLive task = true →
    (world.upTo client run moment).WorksAlone task
  calm : ¬ (world.follow client run).shared.Escaped

/-- A thread begins another pass through the queues. -/
def Begins (_stack : List (Frame κ)) (control : Control) (turn : Turn σ κ ν) :
    Prop :=
  control.isBetweenCycles = true ∧
    ∃ watch, turn.control = .run (.cycle (.fresh (.loop watch)))

namespace World

/-- At a moment of a run a task is about to leave its loop. -/
def LeavesAt (client : Client σ κ ν) (world : World σ κ ν)
    (run : List (Occurrence κ)) (task : ThreadId) (moment : Nat) : Prop :=
  (world.upTo client run moment).threads[task]? = some ⟨.task, [], .run .leave⟩

/-- At a moment of a run a task is about to look at the flag. -/
def LooksAt (client : Client σ κ ν) (world : World σ κ ν)
    (run : List (Occurrence κ)) (task : ThreadId) (moment : Nat) : Prop :=
  ∃ instruction,
    (world.upTo client run moment).threads[task]? =
      some ⟨.task, [], .run instruction⟩ ∧
      ((∃ idle watch, instruction = .check idle watch) ∨
        ∃ watch, instruction = .recheck watch)

/-- How far a task has come with the stop that found it in its loop: it goes on
with the pass that it is in the middle of, which takes at most thirteen steps of
its own, or it is about to look at the flag, or it has left its loop since. -/
inductive Winds (client : Client σ κ ν) (world : World σ κ ν)
    (run : List (Occurrence κ)) (task : ThreadId) (asked moment : Nat) : Prop
  | passes {thread : Thread κ} {watch rest : Nat}
      (found : (world.upTo client run moment).threads[task]? = some thread)
      (role : thread.role = .task)
      (inCycle : InCycle (.loop watch) [] rest thread.stack thread.control)
      (few : world.servings client run task [] moment + rest ≤
        world.servings client run task [] asked + 13)
  | looks (looks : world.LooksAt client run task moment)
  | left {left : Nat} (after : asked ≤ left) (before : left ≤ moment)
      (leaves : world.LeavesAt client run task left)

end World

namespace StopFinds

variable {client : Client σ κ ν} {world : World σ κ ν}
  {run : List (Occurrence κ)} {task : ThreadId} {asked moment : Nat}

theorem allowed (finds : StopFinds client world run task asked) :
    world.allowsAll client run = true :=
  World.allowsAll_of_isOrderlyAll finds.orderly

theorem reachable (finds : StopFinds client world run task asked)
    (moment : Nat) :
    Reachable client (world.upTo client run moment) :=
  (Reachable.opening finds.opening).upTo finds.allowed moment

/-- No panic leaves a cycle. -/
theorem not_escapes (finds : StopFinds client world run task asked)
    (inside : moment < run.length) {base stack : List (Frame κ)}
    {control : Control} {turn : Turn σ κ ν}
    (same : (world.upTo client run (moment + 1)).shared = turn.shared) :
    ¬ Escapes base stack control turn := by
  intro escapes
  apply finds.calm
  rw [← World.upTo_length]
  exact (same ▸ escapes.escaped).mono (World.journal_upTo finds.allowed inside)

theorem exists_thread (finds : StopFinds client world run task asked)
    (order : asked ≤ moment) (inside : moment ≤ run.length) :
    ∃ thread, (world.upTo client run moment).threads[task]? = some thread ∧
      thread.role = .task := by
  induction moment, order using Nat.le_induction with
  | base =>
      rcases World.isLive_iff.mp finds.works with ⟨thread, found, role, _⟩
      exact ⟨thread, found, role⟩
  | succ moment order inductionHypothesis =>
      rcases inductionHypothesis (Nat.le_of_succ_le inside) with
        ⟨thread, found, role⟩
      rcases World.changes_at finds.allowed inside found with
        ⟨later, found', changes⟩
      exact ⟨later, found', changes.role.trans role⟩

/-- The flag is raised as long as the task is at work. -/
theorem raised_at (finds : StopFinds client world run task asked)
    (order : asked ≤ moment) (inside : moment ≤ run.length)
    (lives : (world.upTo client run moment).isLive task = true) :
    (world.upTo client run moment).shared.dispatcher.stopRequested = true := by
  induction moment, order using Nat.le_induction with
  | base => exact finds.raised
  | succ moment order inductionHypothesis =>
      have next : run[moment]? = some run[moment] :=
        List.getElem?_eq_getElem inside
      have becomes := World.becomes_at finds.allowed next
      rcases finds.exists_thread order (Nat.le_of_succ_le inside) with
        ⟨thread, found, _⟩
      have lived := (becomes.isLive lives).resolve_right
        (Nat.ne_of_lt (List.getElem?_eq_some_iff.mp found).1)
      exact becomes.keepsStop lived (finds.alone _ inside lives)
        (inductionHypothesis (Nat.le_of_succ_le inside) lived)

/-- A task that is in the middle of something takes the next step. -/
theorem steps_next (finds : StopFinds client world run task asked)
    (inside : moment < run.length) {thread : Thread κ}
    (found : (world.upTo client run moment).threads[task]? = some thread)
    (busy : thread.isSuspended = false) : run[moment]? = some (.step task) := by
  have next : run[moment]? = some run[moment] := List.getElem?_eq_getElem inside
  rw [next, World.eq_step_of_isOrderly
    ((World.isOrderlyAll_take finds.orderly moment).2 _ next) found busy]

/-- A task that looks at the flag leaves its loop. -/
theorem leaves_of_looks (finds : StopFinds client world run task asked)
    (order : asked ≤ moment) (inside : moment < run.length)
    (looks : world.LooksAt client run task moment) :
    world.LeavesAt client run task (moment + 1) := by
  rcases looks with ⟨instruction, found, looks⟩
  have raised := finds.raised_at order (Nat.le_of_lt inside)
    (World.isLive_of_run found rfl rfl)
  have steps := finds.steps_next inside found (by
    obtain ⟨_, _, rfl⟩ | ⟨_, rfl⟩ := looks <;> rfl)
  have stepped := (World.steps_at steps found).2
  obtain ⟨_, _, rfl⟩ | ⟨_, rfl⟩ := looks
  · simp only [Shared.move, Shared.execute, Shared.check, raised,
      if_true] at stepped
    exact stepped
  · simp only [Shared.move, Shared.execute, Shared.recheck, raised,
      if_true] at stepped
    exact stepped

/-- A task between two passes looks at the flag, or it has looked and leaves. -/
theorem looks_or_leaves (finds : StopFinds client world run task asked)
    (order : asked ≤ moment) (steps : run[moment]? = some (.step task))
    {thread : Thread κ}
    (found : (world.upTo client run moment).threads[task]? = some thread)
    (role : thread.role = .task) (empty : thread.stack = [])
    (between : thread.control.isBetweenCycles = true) :
    world.LooksAt client run task (moment + 1) ∨
      world.LeavesAt client run task (moment + 1) := by
  have inside : moment < run.length := (List.getElem?_eq_some_iff.mp steps).1
  have raised {instruction : Instruction}
      (runs : thread.control = .run instruction) :=
    finds.raised_at order (Nat.le_of_lt inside)
      (World.isLive_of_run found role runs)
  have ends := finds.opening.wait_ends finds.allowed (Nat.le_of_lt inside) found
  have quiet := (World.isOrderlyAll_take finds.orderly moment).2 _ steps
  have stepped := (World.steps_at steps found).2
  rcases thread with ⟨_, _, control⟩
  cases role
  cases empty
  simp only [Control.isBetweenCycles] at between
  split at between
  · exact .inl ⟨_, stepped, .inl ⟨_, _, rfl⟩⟩
  · exact .inr (finds.leaves_of_looks order inside ⟨_, found, .inl ⟨_, _, rfl⟩⟩)
  · rcases ends rfl quiet (raised rfl) finds.alone with
      ⟨_, same, stored⟩ | ⟨_, parked, _⟩
    · simp only [Shared.move, Shared.execute, Shared.await, stored,
        if_true] at stepped
      exact .inl ⟨_, stepped, .inr ⟨_, rfl⟩⟩
    · cases parked
  · rcases ends rfl quiet (raised rfl) finds.alone with
      ⟨_, awaits, _⟩ | ⟨_, same, called⟩
    · cases awaits
    · have called' :
          (world.upTo client run moment).shared.dispatcher.wake.hasSignalled
        ((world.upTo client run moment).surroundings task).self = true := called
      simp only [Shared.move, Shared.execute, Shared.parked, called',
        if_true] at stepped
      exact .inl ⟨_, stepped, .inr ⟨_, rfl⟩⟩
  · exact .inr (finds.leaves_of_looks order inside ⟨_, found, .inr ⟨_, rfl⟩⟩)
  · cases between

/-- What a task that is in the middle of a pass does next. -/
theorem winds_of_inCycle (finds : StopFinds client world run task asked)
    (inside : moment < run.length) {thread : Thread κ}
    (found : (world.upTo client run moment).threads[task]? = some thread)
    (role : thread.role = .task) {watch rest : Nat}
    (inCycle : InCycle (.loop watch) [] rest thread.stack thread.control)
    (few : world.servings client run task [] moment + rest ≤
      world.servings client run task [] asked + 13) :
    world.Winds client run task asked (moment + 1) := by
  have member := List.mem_of_getElem? found
  have fits := (finds.reachable moment).fits thread member
  by_cases steps : run[moment]? = some (.step task)
  · have tells := (finds.reachable moment).tells thread member
    have stepped := World.steps_at steps found
    -- The steps that remain are one less if this one is the cycle's own.
    have own : (thread.control.serves [] thread.stack).toNat ≤ rest :=
      Nat.le_trans (Bool.toNat_le _) inCycle.pos
    obtain ⟨fewer, rfl⟩ := Nat.exists_eq_add_of_le' own
    rcases Shared.move_isInCycle client _
      ((world.upTo client run moment).surroundings task)
      fits tells inCycle with stays | returns | escapes
    · refine .passes stepped.2 role stays ?_
      rw [World.servings_of_step [] steps found]
      omega
    · rcases returns with ⟨cycle, same, _, _, _, empty, next⟩
      simp only [Cycle.next, same] at next
      have looks := stepped.2
      rw [role, empty, next] at looks
      exact .looks ⟨_, looks, .inl ⟨_, _, rfl⟩⟩
    · exact absurd escapes (finds.not_escapes inside stepped.1)
  · rcases World.changes_at finds.allowed inside found with
      ⟨later, found', changes⟩
    have next : run[moment]? = some run[moment] :=
      List.getElem?_eq_getElem inside
    have others : run[moment] ≠ .step task := fun same => steps (same ▸ next)
    refine .passes found' (changes.role.trans role)
      (inCycle.of_others fits changes others) ?_
    rw [World.servings_of_other [] fun occurrence happens =>
      Option.some.inj (next.symm.trans happens) ▸ others]
    exact few

/-- At every moment after the request a task is on its way out of the loop. -/
theorem winds_at (finds : StopFinds client world run task asked)
    (after : asked < moment) (inside : moment ≤ run.length) {thread : Thread κ}
    (found : (world.upTo client run asked).threads[task]? = some thread)
    (inLoop : InLoop thread.stack thread.control) :
    world.Winds client run task asked moment := by
  induction moment, Nat.succ_le_of_lt after using Nat.le_induction with
  | base =>
      have role : thread.role = .task := by
        rcases World.isLive_iff.mp finds.works with ⟨_, found', role, _⟩
        cases found.symm.trans found'
        exact role
      rcases thread with ⟨_, stack, control⟩
      cases inLoop with
      | between between =>
          rcases finds.looks_or_leaves
            (Nat.le_refl _) finds.steps found role rfl between with
            looks | leaves
          · exact .looks looks
          · exact .left (Nat.le_succ _) (Nat.le_refl _) leaves
      | inCycle watch left inCycle =>
          have paced := (finds.reachable asked).isPaced found role _ _ inCycle
          exact finds.winds_of_inCycle inside found role paced (Nat.le_refl _)
  | succ moment order inductionHypothesis =>
      cases inductionHypothesis order (Nat.le_of_succ_le inside) with
      | passes found role inCycle few =>
          exact finds.winds_of_inCycle inside found role inCycle few
      | looks looks =>
          exact .left (Nat.le_succ_of_le (Nat.le_of_succ_le order))
            (Nat.le_refl _)
            (finds.leaves_of_looks (Nat.le_of_succ_le order) inside looks)
      | left after before leaves =>
          exact .left after (Nat.le_succ_of_le before) leaves

/-- The task does not wait any more. -/
theorem unwaiting_at (finds : StopFinds client world run task asked)
    (after : asked < moment) (inside : moment ≤ run.length) :
    ∃ thread, (world.upTo client run moment).threads[task]? = some thread ∧
      thread.control.waits = false := by
  have reachable : Reachable client world := .opening finds.opening
  rcases World.isLive_iff.mp finds.works with ⟨thread, found, role, _⟩
  -- Once it has left, it is outside for good.
  have away {left : Nat} {last : Thread κ} (before : left ≤ moment)
      (found : (world.upTo client run left).threads[task]? = some last)
      (role : last.role = .task) (left : HasLeft last.stack last.control) :
      ∃ thread, (world.upTo client run moment).threads[task]? = some thread ∧
        thread.control.waits = false := by
    rcases reachable.hasLeft_at finds.allowed before inside found role left with
      ⟨now, stands, _, left⟩
    exact ⟨now, stands,
      left.unwaiting
        ((finds.reachable moment).fits now (List.mem_of_getElem? stands))⟩
  rcases ((finds.reachable asked).inTask found role).inLoop_or_hasLeft with
    inLoop | left
  · cases finds.winds_at after inside found inLoop with
    | @passes now watch rest stands _ inCycle _ =>
        have fits :=
          (finds.reachable moment).fits now (List.mem_of_getElem? stands)
        refine ⟨now, stands, Bool.eq_false_iff.mpr fun waits => ?_⟩
        have between := Control.isBetweenCycles_of_waits waits
        rw [inCycle.not_between fits] at between
        cases between
    | looks looks =>
        rcases looks with ⟨_, stands, ⟨_, _, rfl⟩ | ⟨_, rfl⟩⟩
        · exact ⟨_, stands, rfl⟩
        · exact ⟨_, stands, rfl⟩
    | left _ before leaves => exact away before leaves rfl (.leaves (.inl rfl))
  · exact away (Nat.le_of_lt after) found role left

/-- The task does not begin another pass. -/
theorem not_begins (finds : StopFinds client world run task asked)
    (order : asked ≤ moment) :
    ¬ world.StepsAt client run task moment Begins := by
  rintro ⟨steps, thread, found, between, watch, begins⟩
  have inside : moment < run.length := (List.getElem?_eq_some_iff.mp steps).1
  rcases finds.exists_thread order (Nat.le_of_lt inside) with ⟨_, found', role⟩
  cases found.symm.trans found'
  have fits := (finds.reachable moment).fits thread (List.mem_of_getElem? found)
  have stepped := (World.steps_at steps found).2
  rcases finds.looks_or_leaves order steps found role
    (fits.eq_nil_of_between between) between
    with ⟨instruction, stands, looks⟩ | leaves
  · have same :=
      congrArg (Option.map Thread.control) (stepped.symm.trans stands)
    simp only [Option.map_some, begins, Option.some.injEq,
      Control.run.injEq] at same
    subst same
    obtain ⟨_, _, same⟩ | ⟨_, same⟩ := looks <;> cases same
  · have same :=
      congrArg (Option.map Thread.control) (stepped.symm.trans leaves)
    simp only [Option.map_some, begins] at same
    cases same

end StopFinds

end Switchboard
