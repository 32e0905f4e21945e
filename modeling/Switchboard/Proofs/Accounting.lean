import Switchboard.Proofs.Lifecycle
import Switchboard.Proofs.Reports

/-!
# Accounting for dead tasks

Somebody minds a task as long as it is in the slot or a `stop` waits for it.
Whoever stops minding a dead task reports its death, and nobody minds it again,
so that every death is reported once: by the first `start` that finds the task
dead in the slot, or by the `stop` that has taken it out.  All of this is true
of runs in which nobody gives up a `stop` that waits for its task.
-/

namespace Switchboard

variable {σ κ ν : Type}

namespace World

/-! ## What an occurrence reports -/

/-- The line about a dead task that an occurrence writes. -/
def report? (world : World σ κ ν) : Occurrence κ → Option Notice
  | .step self =>
      (world.threads[self]?).bind fun thread =>
        world.shared.report? world.ending? thread.control
  | _ => none

/-- How a task has died: a panic has ended it, or it was cancelled. -/
def death? (world : World σ κ ν) (task : ThreadId) : Option Ending :=
  (world.threads[task]?).bind fun thread =>
    if thread.role = .task then thread.ending?.filter (· ≠ .finished) else none

/-- The slot holds a task, or a `stop` waits for it. -/
def Minds (world : World σ κ ν) (task : ThreadId) : Prop :=
  (∃ switch, world.shared.switch? = some switch ∧ switch.worker = some task) ∨
    ∃ self, world.stopping? self = some task

/-- An occurrence reports how a task has died: it is the step of a `start` that
finds the task in the slot, or of a `stop` that has waited for it. -/
inductive ReportsOn (world : World σ κ ν) (task : ThreadId) (ending : Ending) :
    Occurrence κ → Prop
  | replaces {self : ThreadId} {thread : Thread κ} {switch : Switch}
      (found : world.threads[self]? = some thread)
      (runs : thread.control = .run .start)
      (shows : world.shared.switch? = some switch)
      (unlocked : switch.locked = false) (held : switch.worker = some task)
      (ended : world.ending? task = some ending) (died : ending ≠ .finished) :
      ReportsOn world task ending (.step self)
  | concludes {self : ThreadId} {thread : Thread κ}
      (found : world.threads[self]? = some thread)
      (runs : thread.control = .run (.awaitTask task))
      (ended : world.ending? task = some ending) (died : ending ≠ .finished) :
      ReportsOn world task ending (.step self)

variable {client : Client σ κ ν} {world next : World σ κ ν}
  {occurrence : Occurrence κ} {task : ThreadId} {ending : Ending}

/-- What happens writes the line that is due, and no other about a dead task. -/
theorem after_reports (client : Client σ κ ν) (world : World σ κ ν)
    (occurrence : Occurrence κ) :
    (world.after client occurrence).shared.reports =
      (world.report? occurrence).toList ++ world.shared.reports := by
  cases occurrence with
  | step self =>
      cases found : world.threads[self]? with
      | none =>
          simp only [after, step, report?, found]
          rfl
      | some thread =>
          simp only [after, report?, found, Option.bind_some]
          rw [(step_self client found).1]
          exact world.shared.move_reports client (world.surroundings self) _ _
  | abandon self =>
      simp only [after, abandon]
      split
      case h_4 => exact world.shared.updateApplication_reports _
      all_goals rfl
  | cancel self =>
      simp only [after, cancel]
      split <;> rfl
  | request | hand | wait => rfl

theorem after_deaths (client : Client σ κ ν) (world : World σ κ ν)
    (occurrence : Occurrence κ) :
    (world.after client occurrence).shared.deaths =
      ((world.report? occurrence).bind Notice.death?).toList ++
        world.shared.deaths := by
  rw [Shared.deaths, after_reports, List.filterMap_append, ← Shared.deaths]
  cases world.report? occurrence with
  | none => rfl
  | some notice =>
      rw [Option.toList_some, Option.bind_some]
      cases reports : notice.death? with
      | none => rw [List.filterMap_cons_none reports]; rfl
      | some death => rw [List.filterMap_cons_some reports]; rfl

/-- The line that is due is about a task that has died and that the moving
thread has found in the slot or has waited for. -/
theorem reportsOn_iff :
    world.ReportsOn task ending occurrence ↔
      (world.report? occurrence).bind Notice.death? = some (task, ending) := by
  constructor
  · intro reports
    cases reports with
    | replaces found runs shows unlocked held ended died =>
        simp only [report?, found, Option.bind_some, runs]
        rw [Shared.report?_of_start shows unlocked held, ended,
          Option.bind_some, Ending.death?_onReplacement, if_neg died]
    | concludes found runs ended died =>
        simp only [report?, found, Option.bind_some, runs,
          Shared.report?, ended]
        rw [Ending.death?_onStop, if_neg died]
  · intro due
    rcases Option.bind_eq_some_iff.mp due with ⟨notice, due, reports⟩
    cases occurrence with
    | step self =>
        rcases Option.bind_eq_some_iff.mp due with ⟨thread, found, due⟩
        simp only [Shared.report?] at due
        split at due
        · rename_i runs
          simp only [Option.bind_eq_some_iff, Option.filter_eq_some_iff,
            Bool.not_eq_true'] at due
          rcases due with
            ⟨switch, ⟨shows, unlocked⟩, other, held, ended', ended, due⟩
          have death := Ending.death?_onReplacement other ended'
          rw [due, Option.bind_some, reports] at death
          split at death <;> cases death
          rename_i died
          exact .replaces found runs shows unlocked held ended died
        · rename_i other runs
          rcases Option.bind_eq_some_iff.mp due with ⟨ended', ended, due⟩
          have death := Ending.death?_onStop other ended'
          rw [due, Option.bind_some, reports] at death
          split at death <;> cases death
          rename_i died
          exact .concludes found runs ended died
        · cases due
    | _ => cases due

/-! ## Deaths -/

theorem death?_eq_some_iff :
    world.death? task = some ending ↔
      (∃ thread, world.threads[task]? = some thread ∧ thread.role = .task) ∧
        world.ending? task = some ending ∧ ending ≠ .finished := by
  cases found : world.threads[task]? with
  | none => simp [death?, found]
  | some thread =>
      by_cases role : thread.role = .task
      · simp [death?, ending?, found, role, Option.filter_eq_some_iff]
      · simp [death?, found, role]

/-- The end of a task is for good. -/
theorem Becomes.ending? (becomes : Becomes client world occurrence next)
    {thread : Thread κ} (found : world.threads[task]? = some thread)
    (role : thread.role = .task) (ended : world.ending? task = some ending) :
    next.ending? task = some ending := by
  rcases becomes.thread found with ⟨later, found', changes⟩
  rw [World.ending?, found, Option.bind_some] at ended
  rw [changes.of_ended role (Option.isSome_of_eq_some ended)] at found'
  rw [World.ending?, found', Option.bind_some, ended]

theorem Becomes.death? (becomes : Becomes client world occurrence next)
    (died : world.death? task = some ending) :
    next.death? task = some ending := by
  rcases death?_eq_some_iff.mp died with
    ⟨⟨thread, found, role⟩, ended, unfinished⟩
  rcases becomes.thread found with ⟨later, found', changes⟩
  exact death?_eq_some_iff.mpr ⟨⟨later, found', changes.role.trans role⟩,
    becomes.ending? found role ended, unfinished⟩

/-- Who is dead was dead before or at work. -/
theorem Becomes.died (becomes : Becomes client world occurrence next)
    (died : next.death? task = some ending) :
    world.death? task = some ending ∨ world.isLive task = true := by
  rcases death?_eq_some_iff.mp died with
    ⟨⟨later, found, role⟩, ended, unfinished⟩
  rcases becomes.origin found with ⟨thread, found', changes⟩ | ⟨_, rfl⟩
  · have task' := changes.role.symm.trans role
    cases ended' : world.ending? task with
    | none =>
        rw [World.ending?, found', Option.bind_some] at ended'
        exact .inr (isLive_iff.mpr ⟨thread, found', task', ended'⟩)
    | some before =>
        left
        have same := becomes.ending? found' task' ended'
        cases ended.symm.trans same
        exact death?_eq_some_iff.mpr ⟨⟨thread, found', task'⟩,
          ended', unfinished⟩
  · rw [World.ending?, found] at ended
    cases ended

/-! ## Who is minded -/

/-- A `stop` that waits no more, and leaves the slot as it is, adds nobody who
is minded. -/
theorem Minds.of_update {self : ThreadId} {throw : Switch → Switch}
    (after : next.shared.switch? = world.shared.switch?.map throw)
    (keeps : ∀ switch, (throw switch).worker = switch.worker)
    (waits : next.stopping? = Function.update world.stopping? self none)
    (minds : next.Minds task) : world.Minds task := by
  rcases minds with ⟨switch', shows, held⟩ | ⟨other, waiting⟩
  · rw [after, Option.map_eq_some_iff] at shows
    rcases shows with ⟨switch, shows, rfl⟩
    exact .inl ⟨switch, shows, (keeps switch).symm.trans held⟩
  · rw [waits] at waiting
    by_cases same : other = self
    · rw [same, Function.update_self] at waiting
      cases waiting
    · rw [Function.update_of_ne same] at waiting
      exact .inr ⟨other, waiting⟩

/-- Who is minded after an occurrence was minded before, or has just been
spawned. -/
theorem Throws.minds (throws : world.Throws next occurrence)
    (minds : next.Minds task) :
    world.Minds task ∨
      task = world.threads.length ∧ next.threads[task]? = some .dispatch := by
  cases throws with
  | aside same waits unspawned =>
      rw [Minds, same, waits] at minds
      exact .inl minds
  | launches found runs before unlocked vacant after waits spawned =>
      rcases minds with ⟨switch, shows, held⟩ | waiting
      · cases after.symm.trans shows
        cases held
        exact .inr ⟨rfl, spawned⟩
      · rw [waits] at waiting
        exact .inl (.inr waiting)
  | @takes self taken switch before unlocked held after waits unspawned =>
      left
      rcases minds with ⟨switch', shows, held'⟩ | ⟨other, waiting⟩
      · cases after.symm.trans shows
        cases held'
      · rw [waits] at waiting
        by_cases same : other = self
        · rw [same, Function.update_self] at waiting
          cases waiting
          exact .inl ⟨switch, before, held⟩
        · rw [Function.update_of_ne same] at waiting
          exact .inr ⟨other, waiting⟩
  | concludes waited ended answers after waits unspawned =>
      exact .inl (minds.of_update after (fun _ => rfl) waits)
  | givesUp waited leaves after waits unspawned =>
      exact .inl (minds.of_update after (fun _ => rfl) waits)
  | closes closed waits unspawned =>
      left
      rcases minds with ⟨switch', shows, held'⟩ | waiting
      · rw [Shared.switch?_of_closed closed] at shows
        cases shows
      · rw [waits] at waiting
        exact .inr waiting

/-- An application that was closed stays closed. -/
theorem Throws.gone (throws : world.Throws next occurrence)
    (closed : world.shared.switch? = none) : next.shared.switch? = none := by
  cases throws with
  | aside same waits unspawned => exact same.trans closed
  | launches found runs before unlocked vacant after waits spawned =>
      cases closed.symm.trans before
  | takes before unlocked held after waits unspawned =>
      cases closed.symm.trans before
  | concludes waited ended answers after waits unspawned =>
      rw [after, closed]
      rfl
  | givesUp waited leaves after waits unspawned =>
      rw [after, closed]
      rfl
  | closes gone waits unspawned => exact Shared.switch?_of_closed gone

/-- A task that is at work is minded, as long as the application is there. -/
theorem Warrants.minds {switch : Switch} (warrants : world.Warrants [] switch)
    (shows : world.shared.switch? = some switch)
    (lives : world.isLive task = true) :
    world.Minds task := by
  have alone {other : ThreadId}
      (mine : task = other ∨ task ∈ ([] : List ThreadId)) :
      task = other := mine.resolve_right List.not_mem_nil
  cases warrants with
  | running found dispatches nobody others =>
      exact .inl ⟨_, shows, congrArg some (alone (others task lives)).symm⟩
  | stopping waits only others =>
      rw [alone (others task lives)]
      exact .inr ⟨_, waits⟩
  | vacant stopRequested rests nobody others =>
      exact absurd (others task lives) List.not_mem_nil

/-- A `stop` that returns has got to the instruction at which it waits. -/
theorem Becomes.awaits {self : ThreadId}
    (becomes : Becomes client world (.step self) next)
    (waited : world.stopping? self = some task) {answer : Answer}
    (answers : (next.threads[self]?).map Thread.control =
      some (.answer answer)) :
    ∃ thread, world.threads[self]? = some thread ∧
      thread.control = .run (.awaitTask task) := by
  rcases Option.bind_eq_some_iff.mp waited with ⟨thread, found, waits⟩
  refine ⟨thread, found, ?_⟩
  rcases becomes.thread found with ⟨later, found', changes⟩
  rw [found', Option.map_some] at answers
  simp only [Control.stopping?] at waits
  split at waits
  · rename_i entry next runs
    cases waits
    rcases changes.of_run runs ⟨rfl, rfl⟩ with rfl | ⟨_, moved⟩
    · cases runs.symm.trans (Option.some.inj answers)
    · rw [moved] at answers
      cases answers
  · rename_i runs
    cases waits
    exact runs
  · cases waits

section

variable (warrants : ∀ switch, world.shared.switch? = some switch →
  world.Warrants [] switch)
include warrants

/-- As long as the application is there, whoever stops minding a task reports
how it has died, or gives up a `stop`. -/
theorem Becomes.minds_or_reports
    (becomes : Becomes client world occurrence next)
    (throws : world.Throws next occurrence)
    (patient : world.leaves? occurrence = none) (minds : world.Minds task)
    (unfinished : world.ending? task ≠ some .finished) :
    next.Minds task ∨ (∃ ending, world.ReportsOn task ending occurrence) ∨
      next.shared.switch? = none := by
  have died {ending : Ending} (ended : world.ending? task = some ending) :
      ending ≠ .finished := by
    rintro rfl
    exact unfinished ended
  cases throws with
  | aside same waits unspawned =>
      rw [Minds, same, waits]
      exact .inl minds
  | @launches self thread switch found runs before unlocked vacant after
      waits spawned =>
      rcases minds with ⟨switch', shows, held⟩ | ⟨other, waiting⟩
      · cases before.symm.trans shows
        rcases Option.isSome_iff_exists.mp (vacant task held) with
          ⟨ending, ended⟩
        exact .inr (.inl ⟨ending,
          .replaces found runs before unlocked held ended (died ended)⟩)
      · cases (((warrants _ before).of_vacant unlocked vacant).1
          other).symm.trans waiting
  | @takes self taken switch before unlocked held after waits unspawned =>
      rcases minds with ⟨switch', shows, held'⟩ | ⟨other, waiting⟩
      · cases before.symm.trans shows
        cases held.symm.trans held'
        refine .inl (.inr ⟨self, ?_⟩)
        rw [waits, Function.update_self]
      · cases (((warrants _ before).of_held held).1 other).symm.trans waiting
  | @concludes self concluded ending' waited ended' answers after waits
      unspawned =>
      cases shows : world.shared.switch? with
      | none =>
          rw [shows] at after
          exact .inr (.inr after)
      | some switch =>
          rcases (warrants _ shows).of_waits waited with ⟨rfl, only, _⟩
          rcases minds with ⟨switch', shows', held⟩ | ⟨other, waiting⟩
          · cases shows.symm.trans shows'
            cases held
          · by_cases same : other = self
            · subst same
              cases waited.symm.trans waiting
              rcases becomes.awaits waited answers with ⟨thread, found, runs⟩
              exact .inr
                (.inl ⟨ending', .concludes found runs ended' (died ended')⟩)
            · cases (only other same).symm.trans waiting
  | givesUp waited leaves after waits unspawned =>
      cases patient.symm.trans leaves
  | closes closed waits unspawned =>
      exact .inr (.inr (Shared.switch?_of_closed closed))

end

end World

/-- A `stop` whose task has ended unlocks the slot and tells how the task has
ended. -/
theorem Shared.awaitTask_of_ended (client : Client σ κ ν) (shared : Shared σ ν)
    (around : Surroundings) (stack : List (Frame κ)) {task : ThreadId}
    {ending : Ending} (ended : around.ending? task = some ending) :
    let turn := shared.awaitTask client around stack task
    turn.shared.switch? = shared.switch?.map
      ({ · with locked := false, phase := .stopped }) ∧
      turn.control = .answer (.concluded (Failure.ofEnding task ending)) := by
  intro turn
  have answers :
      turn.control = .answer (.concluded (Failure.ofEnding task ending)) := by
    simp only [turn, awaitTask, ended]
    rfl
  refine ⟨?_, answers⟩
  have operates : Operates shared around _ turn :=
    shared.awaitTask_operates client around stack task
  generalize turn = turn at answers operates
  cases operates with
  | aside same waits unspawned =>
      rw [answers] at waits
      cases waits
  | concludes ended' after answers' unspawned => exact after

namespace World

variable {client : Client σ κ ν} {world next : World σ κ ν}
  {occurrence : Occurrence κ} {task : ThreadId} {ending : Ending}

/-! ## The two steps that report -/

/-- What a `start` does that finds the slot unlocked and no task at work in
it. -/
theorem step_launches (client : Client σ κ ν) {self : ThreadId}
    {thread : Thread κ} {switch : Switch}
    (found : world.threads[self]? = some thread)
    (runs : thread.control = .run .start)
    (shows : world.shared.switch? = some switch)
    (unlocked : switch.locked = false)
    (vacant : ∀ task, switch.worker = some task →
      (world.ending? task).isSome = true) :
    let next := world.step client self
    next.shared.switch? = some (.running world.threads.length) ∧
      next.stopping? = Function.update world.stopping? self none ∧
        (next.threads[self]?).map Thread.control =
          some (.answer (.concluded (.ok ()))) ∧
          next.threads[world.threads.length]? = some .dispatch := by
  rcases Shared.start_of_vacant client
    (world.surroundings self) thread.stack shows unlocked
    vacant with ⟨filled, answers, spawned⟩
  simp only [step_of_some found, runs]
  refine ⟨filled, ?_, ?_, afterTurn_spawned spawned⟩
  · rw [afterTurn_stopping? found]
    exact congrArg
      (fun control => Function.update world.stopping? self control.stopping?)
        answers
  · rw [afterTurn_self found, Option.map_some]
    exact congrArg some answers

/-- What a `stop` does whose task has ended. -/
theorem step_concludes (client : Client σ κ ν) {self : ThreadId}
    {thread : Thread κ} (found : world.threads[self]? = some thread)
    (runs : thread.control = .run (.awaitTask task))
    (ended : world.ending? task = some ending) :
    let next := world.step client self
    next.shared.switch? =
        world.shared.switch?.map
          ({ · with locked := false, phase := .stopped }) ∧
      next.stopping? = Function.update world.stopping? self none ∧
        (next.threads[self]?).map Thread.control =
          some (.answer (.concluded (Failure.ofEnding task ending))) := by
  rcases Shared.awaitTask_of_ended client world.shared
    (world.surroundings self) thread.stack
    ended with ⟨unlocked, answers⟩
  simp only [step_of_some found, runs]
  refine ⟨unlocked, ?_, ?_⟩
  · rw [afterTurn_stopping? found]
    exact congrArg
      (fun control => Function.update world.stopping? self control.stopping?)
        answers
  · rw [afterTurn_self found, Option.map_some]
    exact congrArg some answers

/-! ## The account -/

/-- Every death that is reported is reported once, and as it was.  Who is minded
has not been reported on, and whoever died without being minded has, unless the
application was closed.  Only tasks are minded, and no two threads wait for the
same one. -/
structure Accounts (world : World σ κ ν) : Prop where
  once : (world.shared.deaths.map Prod.fst).Nodup
  real : ∀ task ending, (task, ending) ∈ world.shared.deaths →
    world.death? task = some ending
  due : ∀ task, world.Minds task → task ∉ world.shared.deaths.map Prod.fst
  told : ∀ task ending, world.death? task = some ending →
    (task, ending) ∈ world.shared.deaths ∨ world.Minds task ∨
      world.shared.switch? = none
  tasks : ∀ task, world.Minds task →
    ∃ thread, world.threads[task]? = some thread ∧ thread.role = .task
  apart : ∀ self other task, world.stopping? self = some task →
    world.stopping? other = some task → self = other

theorem ReportsOn.minds (reports : world.ReportsOn task ending occurrence) :
    world.Minds task := by
  cases reports with
  | replaces found runs shows unlocked held ended died =>
      exact .inl ⟨_, shows, held⟩
  | concludes found runs ended died =>
      refine .inr ⟨_, (stopping?_of_some found).trans ?_⟩
      rw [runs]
      rfl

theorem ReportsOn.ended (reports : world.ReportsOn task ending occurrence) :
    world.ending? task = some ending ∧ ending ≠ .finished := by
  cases reports with
  | replaces found runs shows unlocked held ended died => exact ⟨ended, died⟩
  | concludes found runs ended died => exact ⟨ended, died⟩

theorem ReportsOn.deaths (client : Client σ κ ν)
    (reports : world.ReportsOn task ending occurrence) :
    (world.after client occurrence).shared.deaths =
    (task, ending) :: world.shared.deaths := by
  rw [after_deaths, reportsOn_iff.mp reports]
  rfl

/-- Either a death is reported, or no line about one is written. -/
theorem reports_or_silent (client : Client σ κ ν) (world : World σ κ ν)
    (occurrence : Occurrence κ) :
    (∃ task ending, world.ReportsOn task ending occurrence) ∨
      (world.after client occurrence).shared.deaths = world.shared.deaths := by
  cases due : (world.report? occurrence).bind Notice.death? with
  | none =>
      right
      rw [after_deaths, due]
      rfl
  | some death => exact .inl ⟨death.1, death.2, reportsOn_iff.mpr due⟩

namespace Accounts

/-- Nobody minds a task any more whose death has just been reported. -/
theorem spent (accounts : world.Accounts)
    (warrants : ∀ switch, world.shared.switch? = some switch →
      world.Warrants [] switch)
    (reports : world.ReportsOn task ending occurrence) :
    ¬(world.after client occurrence).Minds task := by
  have stood : task < world.threads.length := by
    rcases accounts.tasks task reports.minds with ⟨thread, found, _⟩
    exact (List.getElem?_eq_some_iff.mp found).1
  intro minds
  cases reports with
  | @replaces self thread switch found runs shows unlocked held ended died =>
      have vacant (other : ThreadId) (held' : switch.worker = some other) :
          (world.ending? other).isSome = true := by
        cases held.symm.trans held'
        exact Option.isSome_of_eq_some ended
      rcases step_launches client found runs shows unlocked vacant with
        ⟨filled, waits, _⟩
      rcases minds with ⟨switch', shows', held'⟩ | ⟨other, waiting⟩
      · cases filled.symm.trans shows'
        cases held'
        exact Nat.lt_irrefl _ stood
      · have nobody := ((warrants _ shows).of_held held).1
        cases (nobody_stopping
          (fun other _ => nobody other) waits other).symm.trans waiting
  | @concludes self thread found runs ended died =>
      have waited : world.stopping? self = some task := by
        rw [stopping?_of_some found, runs]
        rfl
      rcases step_concludes client found runs ended with ⟨unlocked, waits, _⟩
      rcases minds with ⟨switch', shows', held'⟩ | ⟨other, waiting⟩
      · have shows' := unlocked.symm.trans shows'
        rw [Option.map_eq_some_iff] at shows'
        rcases shows' with ⟨switch, shows, rfl⟩
        cases ((warrants _ shows).of_waits waited).1
        cases held'
      · have waiting := (congrFun waits other).symm.trans waiting
        by_cases same : other = self
        · rw [same, Function.update_self] at waiting
          cases waiting
        · rw [Function.update_of_ne same] at waiting
          exact same (accounts.apart _ _ _ waiting waited)

/-- Two threads that wait for a task after an occurrence are one. -/
theorem still_apart (accounts : world.Accounts)
    (warrants : ∀ switch, world.shared.switch? = some switch →
      world.Warrants [] switch)
    (throws : world.Throws next occurrence) {self other : ThreadId}
    (waits : next.stopping? self = some task)
    (waits' : next.stopping? other = some task) :
    self = other := by
  have updated {mover : ThreadId}
      (after : next.stopping? = Function.update world.stopping? mover none) :
      self = other := by
    have before {waiter : ThreadId}
        (waits : next.stopping? waiter = some task) :
        world.stopping? waiter = some task := by
      rw [after] at waits
      by_cases same : waiter = mover
      · rw [same, Function.update_self] at waits
        cases waits
      · rwa [Function.update_of_ne same] at waits
    exact accounts.apart _ _ _ (before waits) (before waits')
  cases throws with
  | aside same keeps unspawned =>
      exact accounts.apart _ _ _ (keeps ▸ waits) (keeps ▸ waits')
  | launches found runs before unlocked vacant after keeps spawned =>
      exact accounts.apart _ _ _ (keeps ▸ waits) (keeps ▸ waits')
  | @takes mover taken switch before unlocked held after keeps unspawned =>
      have nobody := ((warrants _ before).of_held held).1
      have only {waiter : ThreadId}
          (waits : next.stopping? waiter = some task) :
          waiter = mover := by
        by_contra differs
        rw [keeps, Function.update_of_ne differs, nobody] at waits
        cases waits
      exact (only waits).trans (only waits').symm
  | concludes waited ended answers after keeps unspawned => exact updated keeps
  | givesUp waited leaves after keeps unspawned => exact updated keeps
  | closes closed keeps unspawned =>
      exact accounts.apart _ _ _ (keeps ▸ waits) (keeps ▸ waits')

/-- Every occurrence but a `stop` that is given up keeps the account. -/
theorem step (accounts : world.Accounts) (reached : Reachable client world)
    (allowed : world.allows occurrence = true)
    (later : (world.after client occurrence).shared.host.isAlone = false)
    (warrants : ∀ switch, world.shared.switch? = some switch →
      world.Warrants [] switch)
    (patient : world.leaves? occurrence = none) :
    (world.after client occurrence).Accounts := by
  have becomes := after_becomes client allowed
  have throws := becomes.throws reached.fits later
  have newly {task : ThreadId} {ending : Ending}
      (member : (task, ending) ∈
        (world.after client occurrence).shared.deaths) :
      (task, ending) ∈ world.shared.deaths ∨
        world.ReportsOn task ending occurrence := by
    rcases reports_or_silent client world occurrence with
      ⟨other, ending', reports⟩ | silent
    · rw [reports.deaths client, List.mem_cons] at member
      rcases member with same | member
      · cases same
        exact .inr reports
      · exact .inl member
    · exact .inl (silent ▸ member)
  have stays {task : ThreadId} {ending : Ending}
      (member : (task, ending) ∈ world.shared.deaths) :
      (task, ending) ∈ (world.after client occurrence).shared.deaths := by
    rw [after_deaths]
    exact List.mem_append_right _ member
  constructor
  · -- Nobody is minded who has been reported on.
    rcases reports_or_silent client world occurrence with
      ⟨task, ending, reports⟩ | silent
    · rw [reports.deaths client, List.map_cons, List.nodup_cons]
      exact ⟨accounts.due task reports.minds, accounts.once⟩
    · exact silent ▸ accounts.once
  · intro task ending member
    rcases newly member with told | reports
    · exact becomes.death? (accounts.real task ending told)
    · exact becomes.death?
        (death?_eq_some_iff.mpr ⟨accounts.tasks task reports.minds,
          reports.ended⟩)
  · intro task minds member
    rcases List.mem_map.mp member with ⟨⟨_, ending⟩, reported, rfl⟩
    rcases newly reported with told | reports
    · rcases throws.minds minds with before | ⟨new, _⟩
      · exact accounts.due _ before (List.mem_map_of_mem told)
      · rcases death?_eq_some_iff.mp (accounts.real _ _ told) with
          ⟨⟨thread, found, _⟩, _⟩
        exact absurd (List.getElem?_eq_some_iff.mp found).1
          (Nat.not_lt.mpr (Nat.le_of_eq new.symm))
    · exact accounts.spent warrants reports minds
  · intro task ending died
    have onward (minds : world.Minds task)
        (unfinished : world.ending? task ≠ some .finished)
        (same : ∀ other, world.ending? task = some other → other = ending) :
        (task, ending) ∈ (world.after client occurrence).shared.deaths ∨
          (world.after client occurrence).Minds task ∨
            (world.after client occurrence).shared.switch? = none := by
      rcases becomes.minds_or_reports warrants throws patient minds
        unfinished with
        minds | ⟨other, reports⟩ | gone
      · exact .inr (.inl minds)
      · left
        rw [reports.deaths client, ← same other reports.ended.1]
        exact List.mem_cons_self
      · exact .inr (.inr gone)
    rcases becomes.died died with before | lives
    · rcases death?_eq_some_iff.mp before with ⟨_, ended, unfinished⟩
      rcases accounts.told task ending before with told | minds | gone
      · exact .inl (stays told)
      · refine onward minds (fun finished => ?_) fun other ended' => ?_
        · exact unfinished (Option.some.inj (ended.symm.trans finished))
        · exact Option.some.inj (ended'.symm.trans ended)
      · exact .inr (.inr (throws.gone gone))
    · cases shows : world.shared.switch? with
      | none => exact .inr (.inr (throws.gone shows))
      | some switch =>
          have working := ending?_of_isLive lives
          refine onward ((warrants _ shows).minds shows lives) ?_
            fun other ended => ?_
          · rw [working]
            nofun
          · cases working.symm.trans ended
  · intro task minds
    rcases throws.minds minds with before | ⟨_, new⟩
    · rcases accounts.tasks task before with ⟨thread, found, role⟩
      rcases becomes.thread found with ⟨later, found', changes⟩
      exact ⟨later, found', changes.role.trans role⟩
    · exact ⟨_, new, rfl⟩
  · intro self other task waits waits'
    exact accounts.still_apart warrants throws waits waits'

end Accounts

/-! ## Runs -/

/-- Before anything has happened nobody is dead or minded. -/
theorem IsOpening.accounts (opening : world.IsOpening) : world.Accounts := by
  have idle {self : ThreadId} {thread : Thread κ}
      (found : world.threads[self]? = some thread) :
      thread = .idle := by
    cases opening with
    | application | alone =>
        exact List.eq_of_mem_replicate (List.mem_of_getElem? found)
  have silent : world.shared.deaths = [] := by
    cases opening <;> rfl
  have living {task : ThreadId} {ending : Ending}
      (died : world.death? task = some ending) :
      False := by
    rcases death?_eq_some_iff.mp died with ⟨⟨thread, found, role⟩, _⟩
    rw [idle found] at role
    cases role
  have waiting {self task : ThreadId}
      (waits : world.stopping? self = some task) : False := by
    rcases Option.bind_eq_some_iff.mp waits with ⟨thread, found, waits⟩
    rw [idle found] at waits
    cases waits
  have unminded {task : ThreadId} (minds : world.Minds task) : False := by
    rcases minds with ⟨switch, shows, held⟩ | ⟨self, waits⟩
    · cases opening with
      | application =>
          cases shows
          cases held
      | alone => cases shows
    · exact waiting waits
  refine ⟨?_, fun task ending member => ?_,
    fun task minds => (unminded minds).elim, fun task ending died =>
      (living died).elim, fun task minds => (unminded minds).elim,
    fun self other task waits => (waiting waits).elim⟩
  · rw [silent]
    exact List.nodup_nil
  · rw [silent] at member
    exact absurd member List.not_mem_nil

/-- What a `stop` answers, by the end of its task: a panic with the report on
it, a cancellation as such, and anything else as a success. -/
inductive Amounts (task : ThreadId) : Ending → Except Failure Unit → Prop
  | finished : Amounts task .finished (.ok ())
  | panicked {payload : Payload} {report : String}
      (told : (Ending.panicked payload).describe task = some report) :
      Amounts task (.panicked payload) (.error (.taskPanicked report))
  | cancelled : Amounts task .cancelled (.error .taskCancelled)

theorem ofEnding_amounts (task : ThreadId) (ending : Ending) :
    Amounts task ending (Failure.ofEnding task ending) := by
  cases ending with
  | finished => exact .finished
  | panicked payload => cases payload <;> exact .panicked rfl
  | cancelled => exact .cancelled

/-- Exactly one line about a death is written, and it says how the task has
died. -/
def Tells (world next : World σ κ ν) (task : ThreadId) (ending : Ending)
    (line : Notice) : Prop :=
  next.shared.reports = line :: world.shared.reports ∧
    line.death? = some (task, ending)

/-- A `start` replaces a task that has ended: it warns of a death, succeeds, and
spawns a new task into the slot. -/
structure Replaces (world next : World σ κ ν) (thread task : ThreadId)
    (ending : Ending) :
    Prop where
  warns : ending ≠ .finished → ∃ line, world.Tells next task ending line ∧
    line.level = .warn ∧
    line.message = "Replacing exited dispatch task"
  silent : ending = .finished → next.shared.reports = world.shared.reports
  answers :
    (next.threads[thread]?).map Thread.control =
      some (.answer (.concluded (.ok ())))
  filled : next.shared.switch? = some (.running world.threads.length)
  spawned : next.threads[world.threads.length]? = some .dispatch

/-- A `stop` returns once its task has ended: it reports a death, answers
accordingly, and leaves the slot empty and the application stopped. -/
structure Concludes (world next : World σ κ ν) (thread task : ThreadId)
    (ending : Ending) :
    Prop where
  tells : ending ≠ .finished → ∃ line, world.Tells next task ending line
  silent : ending = .finished → next.shared.reports = world.shared.reports
  answers : ∃ result, Amounts task ending result ∧
    (next.threads[thread]?).map Thread.control =
      some (.answer (.concluded result))
  stopped : ∀ switch, next.shared.switch? = some switch →
    switch = ⟨none, false, .stopped, true⟩

/-- A `stop` that finds the slot empty succeeds and changes nothing. -/
theorem stop_of_vacant (client : Client σ κ ν) {switch : Switch}
    (shows : world.shared.switch? = some switch)
    (unlocked : switch.locked = false) (empty : switch.worker = none)
    {caller : ThreadId} {thread : Thread κ}
    (found : world.threads[caller]? = some thread) :
    world.follow client [.request caller .stop, .step caller, .step caller] =
      world.put caller
        { thread with control := .answer (.concluded (.ok ())) } := by
  have put_put (first second : Thread κ) :
      (world.put caller first).put caller second = world.put caller second :=
    congrArg (World.mk world.shared) (List.set_set ..)
  have asked : world.request caller .stop =
      world.put caller { thread with control := .run (.perform .stop) } :=
    setThread_of_some _ found
  have reached : (world.request caller .stop).step client caller =
      world.put caller { thread with control := .run .stop } := by
    have shown : (world.request caller .stop).shared.switch? = some switch :=
      asked ▸ shows
    have asks := put_self found { thread with control := .run (.perform .stop) }
    rw [← asked] at asks
    rw [step_of_perform shown asks (.inr ⟨rfl, rfl⟩) rfl, proceed,
      asked, put_put]
  let held := world.put caller { thread with control := .run .stop }
  have stopped : held.Stops (held.step client caller) caller _ switch :=
    stops_of_step shows (put_self found _) rfl
  change ((world.request caller .stop).step client caller).step client caller =
    _
  rw [reached]
  cases stopped with
  | waits locked same => cases unlocked.symm.trans locked
  | finds unlocked empty answers => rw [answers, proceed, put_put]
  | takes unlocked held threads emptied => cases empty.symm.trans held

variable {run : List (Occurrence κ)}

/-- The end of a task is for good, however the run goes on. -/
theorem ending?_upTo (allowed : world.allowsAll client run = true)
    {earlier later : Nat} (order : earlier ≤ later)
    (inside : later ≤ run.length) {thread : Thread κ}
    (found : (world.upTo client run earlier).threads[task]? = some thread)
    (role : thread.role = .task)
    (ended : (world.upTo client run earlier).ending? task = some ending) :
    (world.upTo client run later).ending? task = some ending := by
  have both : (world.upTo client run later).ending? task = some ending ∧
      ∃ thread, (world.upTo client run later).threads[task]? = some thread ∧
        thread.role = .task := by
    induction order with
    | refl => exact ⟨ended, thread, found, role⟩
    | @step later order inductionHypothesis =>
        rcases inductionHypothesis (Nat.le_of_succ_le inside) with
          ⟨ended, thread, found, role⟩
        have becomes := becomes_at allowed (List.getElem?_eq_getElem inside)
        rcases becomes.thread found with ⟨next, found', changes⟩
        exact ⟨becomes.ending? found role ended, next, found',
          changes.role.trans role⟩
  exact both.1

section

variable (opening : world.IsOpening)
  (allowed : world.allowsAll client run = true)
  (hosted : (world.follow client run).shared.host.isAlone = false)
  (patient : world.leftBy client run run.length = [])
include opening allowed hosted patient

/-- At every moment of a run the account is kept. -/
theorem IsOpening.accounts_upTo {moment : Nat} (inside : moment ≤ run.length) :
    (world.upTo client run moment).Accounts := by
  induction moment with
  | zero => exact opening.accounts
  | succ moment inductionHypothesis =>
      have next : run[moment]? = some run[moment] :=
        List.getElem?_eq_getElem inside
      have reached : Reachable client world := .opening opening
      have later := upTo_hosted reached allowed hosted inside
      rw [upTo_succ next] at later ⊢
      refine (inductionHypothesis (Nat.le_of_succ_le inside)).step
        (reached.upTo allowed moment)
        ((allowsAll_take allowed moment).2 _ next) later (fun switch shows =>
          opening.warrants_upTo allowed hosted patient
            (Nat.le_of_succ_le inside) shows) ?_
      have nobody : world.leftBy client run (moment + 1) ⊆ [] :=
        patient ▸ leftBy_subset inside
      rw [leftBy_succ next, List.subset_nil, List.append_eq_nil_iff] at nobody
      exact Option.toList_eq_nil_iff.mp nobody.2

/-- A `stop` that returns after it has waited for a task concludes. -/
theorem IsOpening.concludes_at {moment : Nat} {self : ThreadId}
    {thread : Thread κ} (steps : run[moment]? = some (.step self))
    (found : (world.upTo client run moment).threads[self]? = some thread)
    (runs : thread.control = .run (.awaitTask task))
    (ended : (world.upTo client run moment).ending? task = some ending) :
    (world.upTo client run moment).Concludes
    (world.upTo client run (moment + 1)) self task
      ending := by
  have inside := (List.getElem?_eq_some_iff.mp steps).1
  have stepped : world.upTo client run (moment + 1) =
      (world.upTo client run moment).step client self := upTo_succ steps
  rcases step_concludes client found runs ended with ⟨unlocked, _, answers⟩
  have warrants (switch : Switch)
      (shows : (world.upTo client run moment).shared.switch? = some switch) :=
    opening.warrants_upTo allowed hosted patient (Nat.le_of_lt inside) shows
  have waits : (world.upTo client run moment).stopping? self = some task := by
    rw [stopping?_of_some found, runs]
    rfl
  have writes :
      ((world.upTo client run moment).step client self).shared.reports =
      (ending.onStop? task).toList ++
      (world.upTo client run moment).shared.reports := by
    rw [← after, after_reports, report?, found, Option.bind_some, runs]
    simp only [Shared.report?, ended, Option.bind_some]
  rw [stepped]
  refine ⟨fun died => ?_, ?_, ⟨_, ofEnding_amounts task ending, answers⟩,
    fun switch shows => ?_⟩
  · cases ending with
    | finished => exact absurd rfl died
    | panicked payload => exact ⟨_, writes, rfl⟩
    | cancelled => exact ⟨_, writes, rfl⟩
  · rintro rfl
    exact writes
  · rcases Option.map_eq_some_iff.mp (unlocked.symm.trans shows) with
      ⟨before, shows', rfl⟩
    cases ((warrants _ shows').of_waits waits).1
    rfl

/-- A `stop` that waits for a task waits until the task has ended, and then
concludes. -/
theorem IsOpening.waits_until_concludes {earlier later : Nat}
    (order : earlier ≤ later) (inside : later ≤ run.length) {self : ThreadId}
    (waits : (world.upTo client run earlier).stopping? self = some task) :
    (world.upTo client run later).stopping? self = some task ∨
      ∃ moment ending, earlier ≤ moment ∧ moment < later ∧
        run[moment]? = some (.step self) ∧
          (world.upTo client run moment).ending? task = some ending ∧
            (world.upTo client run moment).Concludes
            (world.upTo client run (moment + 1)) self
              task ending := by
  induction order with
  | refl => exact .inl waits
  | @step later order inductionHypothesis =>
      rcases inductionHypothesis (Nat.le_of_succ_le inside) with
        stays | ⟨moment, ending, after, before, concludes⟩
      swap
      · exact .inr ⟨moment, ending, after, Nat.lt_succ_of_lt before, concludes⟩
      refine (opening.waits_or_concludes allowed hosted patient
        (Nat.le_succ later) inside stays).imp_right ?_
      rintro ⟨moment, after, before, concludes⟩
      cases Nat.le_antisymm after (Nat.le_of_lt_succ before)
      rcases concludes with ⟨steps, ⟨ending, ended, answers⟩, _⟩
      rcases (becomes_at allowed steps).awaits stays answers with
        ⟨thread, found, runs⟩
      exact ⟨later, ending, order, before, steps, ended,
        opening.concludes_at allowed hosted patient steps found runs ended⟩

end

/-- How the deaths of tasks are reported in the course of a run, and who reports
them. -/
structure ReportsDeathsOnce (client : Client σ κ ν) (world : World σ κ ν)
    (run : List (Occurrence κ)) : Prop where
  /-- The end of a task is for good: nothing that happens later, such as its
  cancellation, changes how the task has ended. -/
  lasting (earlier later : Nat) (task : ThreadId) (thread : Thread κ)
    (ending : Ending) (order : earlier ≤ later) (inside : later ≤ run.length)
    (found : (world.upTo client run earlier).threads[task]? = some thread)
    (role : thread.role = .task)
    (ended : (world.upTo client run earlier).ending? task = some ending) :
    (world.upTo client run later).ending? task = some ending
  /-- No death has been reported twice. -/
  once (moment : Nat) (inside : moment ≤ run.length) :
    ((world.upTo client run moment).shared.deaths.map Prod.fst).Nodup
  /-- A report is true. -/
  real (moment : Nat) (inside : moment ≤ run.length) (task : ThreadId)
    (ending : Ending)
    (told : (task, ending) ∈ (world.upTo client run moment).shared.deaths) :
    (world.upTo client run moment).death? task = some ending
  /-- As long as the application is there those deaths have been reported whose
  task is not in the slot and not waited for by a `stop`. -/
  told_iff (moment : Nat) (inside : moment ≤ run.length)
    (there : (world.upTo client run moment).shared.switch?.isSome = true)
    (task : ThreadId) (ending : Ending)
    (died : (world.upTo client run moment).death? task = some ending) :
    (task, ending) ∈ (world.upTo client run moment).shared.deaths ↔
      ¬(world.upTo client run moment).Minds task
  /-- The only lines about deaths are those of a `start` that finds a dead task
  in the slot, and of a `stop` whose task has died. -/
  reports (moment : Nat) (occurrence : Occurrence κ)
    (next : run[moment]? = some occurrence) :
    (world.upTo client run (moment + 1)).shared.reports =
      ((world.upTo client run moment).report? occurrence).toList ++
        (world.upTo client run moment).shared.reports
  /-- A `start` that finds a task in the slot that has ended reports its death
  if it has died, succeeds, and spawns a new task. -/
  replaces (moment : Nat) (self : ThreadId) (thread : Thread κ)
    (switch : Switch) (task : ThreadId) (ending : Ending)
    (steps : run[moment]? = some (.step self))
    (found : (world.upTo client run moment).threads[self]? = some thread)
    (starts : thread.control = .run .start)
    (shows : (world.upTo client run moment).shared.switch? = some switch)
    (unlocked : switch.locked = false) (held : switch.worker = some task)
    (ended : (world.upTo client run moment).ending? task = some ending) :
    (world.upTo client run moment).Replaces
    (world.upTo client run (moment + 1)) self task ending
  /-- A `stop` whose task has ended reports its death if it has died, answers
  with the report on the panic or that the task was cancelled, or succeeds if
  the task has finished, and the application has stopped. -/
  concludes (moment : Nat) (self : ThreadId) (thread : Thread κ)
    (task : ThreadId) (ending : Ending)
    (steps : run[moment]? = some (.step self))
    (found : (world.upTo client run moment).threads[self]? = some thread)
    (awaits : thread.control = .run (.awaitTask task))
    (ended : (world.upTo client run moment).ending? task = some ending) :
    (world.upTo client run moment).Concludes
    (world.upTo client run (moment + 1)) self task ending
  /-- A `stop` that waits for a task waits until the task has ended, and then
  concludes. -/
  waits (earlier later : Nat) (self task : ThreadId) (order : earlier ≤ later)
    (inside : later ≤ run.length)
    (stopping : (world.upTo client run earlier).stopping? self = some task) :
    (world.upTo client run later).stopping? self = some task ∨
      ∃ moment ending, earlier ≤ moment ∧ moment < later ∧
        run[moment]? = some (.step self) ∧
          (world.upTo client run moment).ending? task = some ending ∧
            (world.upTo client run moment).Concludes
            (world.upTo client run (moment + 1)) self
              task ending
  /-- Where the slot is empty and unlocked the application has stopped, and
  every `stop` succeeds and changes nothing. -/
  vacant (moment : Nat) (inside : moment ≤ run.length) (switch : Switch)
    (shows : (world.upTo client run moment).shared.switch? = some switch)
    (unlocked : switch.locked = false) (empty : switch.worker = none) :
    switch.phase = .stopped ∧
      ∀ caller thread,
        (world.upTo client run moment).threads[caller]? = some thread →
        (world.upTo client run moment).follow client
            [.request caller .stop, .step caller, .step caller] =
          (world.upTo client run moment).put caller
            { thread with control := .answer (.concluded (.ok ())) }

/-- Every death of a task is reported once, and to whom it concerns, in every
run in which nobody gives up a `stop`. -/
theorem IsOpening.reports_each_death_once (opening : world.IsOpening)
    (allowed : world.allowsAll client run = true)
    (hosted : (world.follow client run).shared.host.isAlone = false)
    (patient : world.leftBy client run run.length = []) :
    world.ReportsDeathsOnce client run where
  lasting earlier later task thread ending order inside found role ended :=
    ending?_upTo allowed order inside found role ended
  once moment inside :=
    (opening.accounts_upTo allowed hosted patient inside).once
  real moment inside :=
    (opening.accounts_upTo allowed hosted patient inside).real
  told_iff moment inside there task ending died := by
    have accounts := opening.accounts_upTo allowed hosted patient inside
    refine ⟨fun told minds => ?_, fun unminded => ?_⟩
    · exact accounts.due task minds (List.mem_map_of_mem told)
    · rcases accounts.told task ending died with told | minds | gone
      · exact told
      · exact absurd minds unminded
      · rw [gone] at there
        cases there
  reports moment occurrence next := by
    rw [upTo_succ next, after_reports]
  replaces moment self thread switch task ending steps found runs shows unlocked
    held ended := by
    have vacant (other : ThreadId) (held' : switch.worker = some other) :
        ((world.upTo client run moment).ending? other).isSome = true := by
      cases held.symm.trans held'
      exact Option.isSome_of_eq_some ended
    have stepped : world.upTo client run (moment + 1) =
        (world.upTo client run moment).step client self :=
      upTo_succ steps
    rcases step_launches client found runs shows unlocked vacant with
      ⟨filled, _, answers, spawned⟩
    have writes :
        ((world.upTo client run moment).step client self).shared.reports =
        (ending.onReplacement? task).toList ++
        (world.upTo client run moment).shared.reports := by
      rw [← after, after_reports, report?, found, Option.bind_some, runs,
        Shared.report?_of_start shows unlocked held, ended, Option.bind_some]
    rw [stepped]
    refine ⟨fun died => ?_, ?_, answers, filled, spawned⟩
    · cases ending with
      | finished => exact absurd rfl died
      | panicked payload => exact ⟨_, ⟨writes, rfl⟩, rfl, rfl⟩
      | cancelled => exact ⟨_, ⟨writes, rfl⟩, rfl, rfl⟩
    · rintro rfl
      exact writes
  concludes moment self thread task ending steps found runs ended :=
    opening.concludes_at allowed hosted patient steps found runs ended
  waits earlier later self task order inside stopping :=
    opening.waits_until_concludes allowed hosted patient order inside stopping
  vacant moment inside switch shows unlocked empty := by
    have warrants := opening.warrants_upTo allowed hosted patient inside shows
    refine ⟨?_,
      fun caller thread found =>
        stop_of_vacant client shows unlocked empty found⟩
    cases warrants with
    | running found dispatches nobody others => cases empty
    | stopping waits only others => cases unlocked
    | vacant stopRequested rests nobody others =>
        exact rests.resolve_right fun left => left.2 rfl

/-- One task panics and is replaced, its runtime having gone meanwhile; the next
one is cancelled before it begins, and a `stop` says so; a third one panics over
what it drains. -/
theorem IsOpening.reports_each_death_once_of_three :
    let steps (thread : ThreadId) (number : Nat) :=
      List.replicate number (Occurrence.step thread : Occurrence Unit)
    let opening : World Unit Unit Unit :=
      .new (.new ⟨1, "app"⟩ (Settings.standard.withDrainOnStop true)
        (.application .new) ()) 1
    let submit := [.request 0 (.submit (.packet 0 [1]))] ++ steps 0 5
    let start := [.request 0 .start] ++ steps 0 2
    let run :=
      start ++ submit ++ steps 1 13 ++ [.cancel 1] ++ start ++ [.cancel 2,
        .request 0 .stop] ++
        steps 0 4 ++ [.request 0 .stop] ++ steps 0 2 ++ start ++ submit ++
          [.request 0 .stop] ++ steps 0 3 ++ steps 3 11 ++ steps 0 1
    let now := opening.upTo .panicking run
    (now 25).Replaces (now 26) 0 1 (.panicked .other) ∧
      (∃ moment ending, 30 ≤ moment ∧ moment < 32 ∧
        run[moment]? = some (.step 0) ∧ (now moment).ending? 2 = some ending ∧
          (now moment).Concludes (now (moment + 1)) 0 2 ending) ∧
      (∃ moment ending, 47 ≤ moment ∧ moment < 60 ∧
        run[moment]? = some (.step 0) ∧ (now moment).ending? 3 = some ending ∧
          (now moment).Concludes (now (moment + 1)) 0 3 ending) ∧
      (now 60).shared.deaths =
        [(3, .panicked .other), (2, .cancelled), (1, .panicked .other)] := by
  intro steps opening submit start run now
  have opens : opening.IsOpening := .application _ _ _ _
  have allowed : opening.allowsAll .panicking run = true := by decide +kernel
  have hosted :
      (opening.follow .panicking run).shared.host.isAlone = false := by
    decide +kernel
  have patient : opening.leftBy .panicking run run.length = [] := by
    decide +kernel
  have once := opens.reports_each_death_once allowed hosted patient
  have stopped : (now 32).stopping? 0 ≠ some 2 := by decide +kernel
  have stopped' : (now 60).stopping? 0 ≠ some 3 := by decide +kernel
  refine ⟨?_, ?_, ?_, by decide +kernel⟩
  · have steps' : run[25]? = some (.step 0) := by cbv
    exact once.replaces 25 0 ⟨.caller, [], .run .start⟩ (.running 1) 1
      (.panicked .other) steps' (by decide +kernel) rfl
      (by decide +kernel) rfl rfl (by decide +kernel)
  · exact (once.waits 30 32 0 2 (by decide) (by decide)
      (by decide +kernel)).resolve_left stopped
  · exact (once.waits 47 60 0 3 (by decide) (by decide)
      (by decide +kernel)).resolve_left stopped'

end World

end Switchboard
