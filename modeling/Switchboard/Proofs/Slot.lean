import Switchboard.Proofs.Tasks

/-!
# What the slot says of the tasks

The switch of an application is always one of three.  Either its task is in the
slot and at work, or has died there; or a `stop` has locked the slot and waits
for the task that was in it; or there is no task but those that were left to
themselves when somebody gave up such a `stop`.  A `stop` that is given up is
the only way to leave a task.
-/

namespace Switchboard

variable {σ κ ν : Type}

namespace World

/-- The threads bear out what a switch says, but for the tasks in the list
`left`. -/
inductive Warrants (left : List ThreadId) (world : World σ κ ν) : Switch → Prop
  | running {task : ThreadId} {thread : Thread κ}
      (found : world.threads[task]? = some thread)
      (dispatches : thread.IsDispatching)
      (nobody : ∀ self, world.stopping? self = none)
      (others : ∀ other, world.isLive other = true →
        other = task ∨ other ∈ left) :
      Warrants left world (.running task)
  | stopping {self task : ThreadId} (waits : world.stopping? self = some task)
      (only : ∀ other, other ≠ self → world.stopping? other = none)
      (others : ∀ other, world.isLive other = true →
        other = task ∨ other ∈ left) :
      Warrants left world .stopping
  | vacant {phase : Phase} (stopRequested : Bool)
      (rests : phase = .stopped ∨ phase = .stopRequested ∧ left ≠ [])
      (nobody : ∀ self, world.stopping? self = none)
      (others : ∀ other, world.isLive other = true → other ∈ left) :
      Warrants left world ⟨none, false, phase, stopRequested⟩

namespace Warrants

variable {left left' : List ThreadId} {world next : World σ κ ν}
  {switch : Switch}

/-- Of the tasks that were not left to themselves one is at work at most. -/
theorem unique (warrants : world.Warrants left switch) {one other : ThreadId}
    (lives : world.isLive one = true) (lives' : world.isLive other = true)
    (kept : one ∉ left) (kept' : other ∉ left) : one = other := by
  cases warrants with
  | running found dispatches nobody others | stopping waits only others =>
      exact ((others one lives).resolve_right kept).trans
        ((others other lives').resolve_right kept').symm
  | vacant stopRequested rests nobody others =>
      exact absurd (others one lives) kept

/-- Where the slot holds no task that is at work, and no `stop` has locked it,
nobody answers for a task. -/
theorem of_vacant (warrants : world.Warrants left switch)
    (unlocked : switch.locked = false)
    (vacant : ∀ task, switch.worker = some task →
      (world.ending? task).isSome = true) :
    (∀ self, world.stopping? self = none) ∧
      ∀ other, world.isLive other = true → other ∈ left := by
  cases warrants with
  | @running task thread found dispatches nobody others =>
      refine ⟨nobody, fun other lives => (others other lives).resolve_left ?_⟩
      rintro rfl
      have ended := vacant other rfl
      rw [ending?_of_isLive lives] at ended
      cases ended
  | stopping waits only others => cases unlocked
  | vacant stopRequested rests nobody others => exact ⟨nobody, others⟩

/-- The slot holds a task that was put there, and nobody waits for it. -/
theorem of_held (warrants : world.Warrants left switch) {task : ThreadId}
    (held : switch.worker = some task) :
    (∀ self, world.stopping? self = none) ∧
      ∀ other, world.isLive other = true → other = task ∨ other ∈ left := by
  cases warrants with
  | running found dispatches nobody others =>
      cases held
      exact ⟨nobody, others⟩
  | stopping waits only others => cases held
  | vacant stopRequested rests nobody others => cases held

/-- Where a thread waits for a task, the slot is locked and nobody else
waits. -/
theorem of_waits (warrants : world.Warrants left switch) {self task : ThreadId}
    (waits : world.stopping? self = some task) :
    switch = .stopping ∧
      (∀ other, other ≠ self → world.stopping? other = none) ∧
      ∀ other, world.isLive other = true → other = task ∨ other ∈ left := by
  cases warrants with
  | running found dispatches nobody others =>
      cases (nobody self).symm.trans waits
  | @stopping keeper _ waits' only others =>
      by_cases same : self = keeper
      · subst same
        cases waits.symm.trans waits'
        exact ⟨rfl, only, others⟩
      · cases (only self same).symm.trans waits
  | vacant stopRequested rests nobody others =>
      cases (nobody self).symm.trans waits

/-- What does not touch the switch leaves everything true that it says. -/
theorem carry (warrants : world.Warrants left switch) (more : left ⊆ left')
    (waits : next.stopping? = world.stopping?)
    (lives : ∀ task, next.isLive task = true → world.isLive task = true)
    (dispatches : switch.stopRequested = false →
      ∀ (task : ThreadId) (thread : Thread κ),
        world.threads[task]? = some thread → thread.IsDispatching →
      ∃ later, next.threads[task]? = some later ∧ later.IsDispatching) :
    next.Warrants left' switch := by
  cases warrants with
  | running found stays nobody others =>
      rcases dispatches rfl _ _ found stays with ⟨later, found', stays'⟩
      refine .running found' stays' (waits ▸ nobody) fun other lived => ?_
      exact (others other (lives other lived)).imp_right
        fun member => more member
  | @stopping self task awaits only others =>
      rw [← waits] at awaits only
      refine .stopping awaits only fun other lived => ?_
      exact (others other (lives other lived)).imp_right
        fun member => more member
  | vacant stopRequested rests nobody others =>
      refine .vacant stopRequested ?_ (waits ▸ nobody) fun other lived =>
        more (others other (lives other lived))
      refine rests.imp_right fun ⟨asked, abandoned⟩ => ⟨asked, ?_⟩
      rintro rfl
      exact abandoned (List.subset_nil.mp more)

end Warrants

variable {client : Client σ κ ν} {world next : World σ κ ν}
  {occurrence : Occurrence κ} {left : List ThreadId}

/-- The task in the slot stays in its loop as long as no stop is requested, or
dies there. -/
theorem Becomes.isDispatching (becomes : Becomes client world occurrence next)
    (reached : Reachable client world)
    (lowered : world.shared.dispatcher.stopRequested = false) {task : ThreadId}
    {thread : Thread κ} (found : world.threads[task]? = some thread)
    (dispatches : thread.IsDispatching) :
    ∃ later, next.threads[task]? = some later ∧ later.IsDispatching := by
  rcases becomes.thread found with ⟨later, found', changes⟩
  have member := List.mem_of_getElem? found
  exact ⟨later, found', changes.isDispatching (reached.fits thread member)
    (reached.tells thread member) lowered dispatches⟩

/-- The stop flag of an application is that of its switch. -/
theorem stopRequested_of_switch? {shared : Shared σ ν} {switch : Switch}
    (hosted : shared.switch? = some switch) :
    shared.dispatcher.stopRequested = switch.stopRequested := by
  simp only [Shared.switch?] at hosted
  split at hosted <;> cases hosted
  rfl

/-- Once the only thread that waited for a task waits no more, nobody does. -/
theorem nobody_stopping {self : ThreadId}
    (only : ∀ other, other ≠ self → world.stopping? other = none)
    (waits : next.stopping? = Function.update world.stopping? self none)
    (other : ThreadId) :
    next.stopping? other = none := by
  rw [waits]
  by_cases same : other = self
  · rw [same, Function.update_self]
  · rw [Function.update_of_ne same]
    exact only other same

/-- Whatever happens, the threads bear out what the switch says, but for tasks
that were left to themselves. -/
theorem Becomes.warrants (becomes : Becomes client world occurrence next)
    (reached : Reachable client world)
    (later : next.shared.host.isAlone = false)
    (before : ∀ switch, world.shared.switch? = some switch →
      world.Warrants left switch)
    {switch : Switch} (hosted : next.shared.switch? = some switch) :
    next.Warrants (left ++ (world.leaves? occurrence).toList) switch := by
  have more : left ⊆ left ++ (world.leaves? occurrence).toList :=
    List.subset_append_left _ _
  cases becomes.throws reached.fits later with
  | aside same waits unspawned =>
      rw [same] at hosted
      refine (before switch hosted).carry more waits
        (fun task => becomes.isLive_of_unspawned unspawned)
          fun lowered task thread found => ?_
      exact becomes.isDispatching reached
        ((stopRequested_of_switch? hosted).trans lowered) found
  | launches found runs before' unlocked vacant after waits spawned =>
      cases hosted.symm.trans after
      rcases (before _ before').of_vacant unlocked vacant with ⟨nobody, others⟩
      refine .running spawned Thread.isDispatching_dispatch (waits ▸ nobody)
        fun other lives => ?_
      rcases becomes.isLive lives with lived | new
      · exact .inr (more (others other lived))
      · exact .inl new
  | @takes self task _ before' unlocked held after waits unspawned =>
      cases hosted.symm.trans after
      rcases (before _ before').of_held held with ⟨nobody, others⟩
      have awaits : next.stopping? self = some task := by
        rw [waits, Function.update_self]
      refine .stopping awaits (fun other differs => ?_) fun other lives => ?_
      · rw [waits, Function.update_of_ne differs]
        exact nobody other
      · exact (others other
          (becomes.isLive_of_unspawned unspawned lives)).imp_right
          fun member => more member
  | @concludes self task ending waited ended answers after waits unspawned =>
      rw [after, Option.map_eq_some_iff] at hosted
      rcases hosted with ⟨before', hosted, rfl⟩
      rcases (before _ hosted).of_waits waited with ⟨rfl, only, others⟩
      refine .vacant true (.inl rfl) (nobody_stopping only waits)
        fun other lives => ?_
      have lived := becomes.isLive_of_unspawned unspawned lives
      refine more ((others other lived).resolve_left ?_)
      rintro rfl
      cases (ending?_of_isLive lived).symm.trans ended
  | @givesUp self task waited leaves after waits unspawned =>
      rw [after, Option.map_eq_some_iff] at hosted
      rcases hosted with ⟨before', hosted, rfl⟩
      rcases (before _ hosted).of_waits waited with ⟨rfl, only, others⟩
      rw [leaves, Option.toList_some]
      have abandoned : left ++ [task] ≠ [] :=
        List.append_ne_nil_of_right_ne_nil _ (List.cons_ne_nil _ _)
      refine .vacant true (.inr ⟨rfl, abandoned⟩) (nobody_stopping only waits)
        fun other lives => ?_
      rcases others other (becomes.isLive_of_unspawned unspawned lives) with
        rfl | member
      · exact List.mem_append_right _ (List.mem_singleton_self _)
      · exact List.mem_append_left _ member
  | closes closed waits unspawned =>
      rw [Shared.switch?_of_closed closed] at hosted
      cases hosted

/-! ## Runs -/

/-- The tasks that were left to themselves up to a moment of a run. -/
def leftBy (client : Client σ κ ν) (world : World σ κ ν)
    (run : List (Occurrence κ)) (moment : Nat) : List ThreadId :=
  (List.range moment).filterMap fun earlier =>
    (run[earlier]?).bind (world.upTo client run earlier).leaves?

variable {run : List (Occurrence κ)} {moment : Nat}

theorem leftBy_succ (next : run[moment]? = some occurrence) :
    world.leftBy client run (moment + 1) =
      world.leftBy client run moment ++
        ((world.upTo client run moment).leaves? occurrence).toList := by
  rw [leftBy, List.range_succ, List.filterMap_append, ← leftBy]
  refine congrArg (world.leftBy client run moment ++ ·) ?_
  simp only [List.filterMap_cons, List.filterMap_nil, next, Option.bind_some]
  cases (world.upTo client run moment).leaves? occurrence <;> rfl

theorem leftBy_subset {earlier later : Nat} (order : earlier ≤ later) :
    world.leftBy client run earlier ⊆ world.leftBy client run later := by
  intro task member
  rcases List.mem_filterMap.mp member with ⟨at', inside, leaves⟩
  refine List.mem_filterMap.mpr ⟨at', ?_, leaves⟩
  exact List.mem_range.mpr (Nat.lt_of_lt_of_le (List.mem_range.mp inside) order)

/-- What the switch of an application says is borne out, and nobody but the
tasks that were left to themselves is at work beside the one task of the
application. -/
structure Vouches (left : List ThreadId) (world : World σ κ ν) : Prop where
  warrants : ∀ switch, world.shared.switch? = some switch →
    world.Warrants left switch
  unique : ∀ one other, world.isLive one = true → world.isLive other = true →
    one ∉ left → other ∉ left → one = other

theorem Becomes.vouches (becomes : Becomes client world occurrence next)
    (reached : Reachable client world)
    (later : next.shared.host.isAlone = false) (vouches : world.Vouches left) :
    next.Vouches (left ++ (world.leaves? occurrence).toList) := by
  refine ⟨fun switch => becomes.warrants reached later vouches.warrants, ?_⟩
  intro one other lives lives' kept kept'
  have dropped {task : ThreadId}
      (kept : task ∉ left ++ (world.leaves? occurrence).toList) :
      task ∉ left := fun member => kept (List.mem_append_left _ member)
  cases hosted : next.shared.switch? with
  | some switch =>
      exact (becomes.warrants reached later vouches.warrants hosted).unique
        lives lives' kept
        kept'
  | none =>
      -- Nobody is spawned where there is no application any more.
      have unspawned : next.threads.length = world.threads.length := by
        rcases (becomes.throws reached.fits later).unspawned_or_launches with
          unspawned | ⟨_, _, _, _, _, _, _, _, _, after⟩
        · exact unspawned
        · cases hosted.symm.trans after
      exact vouches.unique one other
        (becomes.isLive_of_unspawned unspawned lives)
        (becomes.isLive_of_unspawned unspawned lives') (dropped kept)
        (dropped kept')

/-- Before anything has happened there is no task. -/
theorem IsOpening.vouches (opening : world.IsOpening) : world.Vouches [] := by
  have nobody (self : ThreadId) :
      world.threads[self]? = none ∨ world.threads[self]? = some .idle := by
    cases found : world.threads[self]? with
    | none => exact .inl rfl
    | some thread =>
        cases opening with
        | application | alone =>
            rw [List.eq_of_mem_replicate (List.mem_of_getElem? found)]
            exact .inr rfl
  have silent (self : ThreadId) : world.stopping? self = none := by
    rw [stopping?]
    obtain gone | idle := nobody self
    · rw [gone]
      rfl
    · rw [idle]
      rfl
  have still (task : ThreadId) : world.isLive task = false := by
    rw [isLive]
    obtain gone | idle := nobody task
    · rw [gone]
      rfl
    · rw [idle]
      rfl
  have absent {task : ThreadId} {goal : Prop}
      (lives : world.isLive task = true) : goal := by
    rw [still task] at lives
    cases lives
  refine ⟨fun switch hosted => ?_, fun one other lives => absent lives⟩
  cases opening with
  | application =>
      cases hosted
      exact .vacant false (.inl rfl) silent fun other lives => absent lives
  | alone => cases hosted

/-- What belongs to an application at the end of a run has belonged to it all
the time. -/
theorem follow_hosted (reached : Reachable client world)
    (allowed : world.allowsAll client run = true)
    (hosted : (world.follow client run).shared.host.isAlone = false) :
    world.shared.host.isAlone = false := by
  induction run generalizing world with
  | nil => exact hosted
  | cons occurrence rest inductionHypothesis =>
      rw [allowsAll, Bool.and_eq_true] at allowed
      exact (after_becomes client allowed.1).hosted reached.fits
        (inductionHypothesis
          (reached.occur occurrence allowed.1) allowed.2 hosted)

theorem upTo_hosted (reached : Reachable client world)
    (allowed : world.allowsAll client run = true)
    (hosted : (world.follow client run).shared.host.isAlone = false)
    (inside : moment ≤ run.length) :
    (world.upTo client run moment).shared.host.isAlone = false := by
  rcases upTo_onward allowed inside with ⟨rest, allowed', leads⟩
  rw [← upTo_length, ← leads] at hosted
  exact follow_hosted (reached.upTo allowed moment) allowed' hosted

/-- What happens at a moment of a run. -/
theorem becomes_at (allowed : world.allowsAll client run = true)
    (next : run[moment]? = some occurrence) :
    Becomes client (world.upTo client run moment) occurrence
      (world.upTo client run (moment + 1)) := by
  rw [upTo_succ next]
  exact after_becomes client ((allowsAll_take allowed moment).2 _ next)

section

variable (opening : world.IsOpening)
  (allowed : world.allowsAll client run = true)
  (hosted : (world.follow client run).shared.host.isAlone = false)
include opening allowed hosted

/-- What an occurrence does with the switch at a moment of a run. -/
theorem IsOpening.throws_at (next : run[moment]? = some occurrence) :
    (world.upTo client run moment).Throws
    (world.upTo client run (moment + 1)) occurrence := by
  have reached : Reachable client world := .opening opening
  have inside := (List.getElem?_eq_some_iff.mp next).1
  exact (becomes_at allowed next).throws (reached.upTo allowed moment).fits
    (upTo_hosted reached allowed hosted inside)

/-- At every moment of a run the switch is borne out. -/
theorem IsOpening.vouches_upTo (inside : moment ≤ run.length) :
    (world.upTo client run moment).Vouches
    (world.leftBy client run moment) := by
  induction moment with
  | zero => exact opening.vouches
  | succ moment inductionHypothesis =>
      have next : run[moment]? = some run[moment] :=
        List.getElem?_eq_getElem inside
      have reached : Reachable client world := .opening opening
      rw [leftBy_succ next]
      exact (becomes_at allowed next).vouches (reached.upTo allowed moment)
        (upTo_hosted reached allowed hosted inside)
        (inductionHypothesis (Nat.le_of_succ_le inside))

end

end World

end Switchboard
