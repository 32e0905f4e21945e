import Mathlib.Data.List.Perm.Basic
import Switchboard.Proofs.Leaving
import Switchboard.Proofs.Vigilance

/-!
# The line at the wake event

In line for the wake event are the tasks at their wait, each of them once,
whether a signal has reached them or not; while somebody waits whom none has
reached, no permit is stored.  A permit is stored by a signal that finds nobody
waiting, and it is used up by a task that comes to its wait.  This holds for any
number of tasks.
-/

namespace Switchboard

variable {σ κ ν : Type}

namespace Wake

/-- Everybody who waits, and everybody who has been signalled and has not run
since. -/
def line (wake : Wake) : List ThreadId :=
  wake.waiting ++ wake.signalled

theorem line_signal (wake : Wake) : wake.signal.line.Perm wake.line := by
  rcases wake with ⟨permit, waiting, signalled⟩
  cases waiting with
  | nil => exact .refl _
  | cons first rest => exact List.perm_middle

theorem line_enlist (wake : Wake) (thread : ThreadId) :
    (wake.enlist thread).line.Perm (thread :: wake.line) := by
  rw [line, enlist, List.append_assoc]
  exact List.perm_middle

theorem line_dismiss {wake : Wake} {thread : ThreadId}
    (called : wake.hasSignalled thread = true) :
    (wake.dismiss thread).line.Perm (wake.line.erase thread) := by
  have member : thread ∈ wake.signalled := List.contains_iff_mem.mp called
  calc
    (wake.dismiss thread).line.Perm
        (wake.signalled.erase thread ++ wake.waiting) :=
      List.perm_append_comm
    _ = (wake.signalled ++ wake.waiting).erase thread :=
      (List.erase_append_left _ member).symm
    _ |>.Perm (wake.line.erase thread) := List.perm_append_comm.erase thread

theorem line_withdraw (wake : Wake) (thread : ThreadId) :
    (wake.withdraw thread).line.Perm (wake.line.erase thread) := by
  simp only [withdraw]
  split
  · rename_i called
    exact (line_signal _).trans (line_dismiss called)
  · rename_i uncalled
    have absent : thread ∉ wake.signalled := fun member =>
      uncalled (List.contains_iff_mem.mpr member)
    change (wake.waiting.erase thread ++ wake.signalled).Perm _
    by_cases waits : thread ∈ wake.waiting
    · rw [line, List.erase_append_left _ waits]
    · rw [line, List.erase_append_right _ waits, List.erase_of_not_mem waits,
        List.erase_of_not_mem absent]

end Wake

/-- Whether a control is the wait for a signal. -/
def Control.isParked : Control → Bool
  | .run (.parked _) => true
  | _ => false

namespace World

/-- Whether a thread is at its wait. -/
def isParked (world : World σ κ ν) (thread : ThreadId) : Bool :=
  (world.threads[thread]?).any fun standing => standing.control.isParked

/-- In line are those at their wait, once each, and a permit is stored only
while nobody waits unsignalled. -/
structure IsLined (world : World σ κ ν) : Prop where
  once (thread : ThreadId) :
    world.shared.dispatcher.wake.line.count thread =
      (world.isParked thread).toNat
  unstored : world.shared.dispatcher.wake.waiting ≠ [] →
    world.shared.dispatcher.wake.permit = false

end World

/-! ## What a step does to the line -/

/-- A thread is in line after a turn if the turn has left it at its wait, and
nobody else gets in line or out of it. -/
structure Turn.Lines (wake : Wake) (mover : ThreadId) (turn : Turn σ κ ν) :
    Prop where
  own : turn.shared.dispatcher.wake.line.count mover =
    turn.control.isParked.toNat
  others (other : ThreadId) (differs : other ≠ mover) :
    turn.shared.dispatcher.wake.line.count other = wake.line.count other
  unstored : turn.shared.dispatcher.wake.waiting ≠ [] →
    turn.shared.dispatcher.wake.permit = false

namespace Wake

theorem signal_unstored {wake : Wake} (unstored : wake.waiting ≠ [] →
    wake.permit = false) :
    wake.signal.waiting ≠ [] → wake.signal.permit = false := by
  rcases wake with ⟨permit, waiting, signalled⟩
  cases waiting with
  | nil => exact fun waits => absurd rfl waits
  | cons first rest => exact fun _ => unstored (List.cons_ne_nil _ _)

theorem withdraw_unstored {wake : Wake} (thread : ThreadId)
    (unstored : wake.waiting ≠ [] → wake.permit = false) :
    (wake.withdraw thread).waiting ≠ [] →
    (wake.withdraw thread).permit = false := by
  simp only [withdraw]
  split
  · exact signal_unstored unstored
  · intro waits
    refine unstored fun empty => waits ?_
    change wake.waiting.erase thread = []
    rw [empty]
    rfl

end Wake

/-- A control that relies on nothing is not a wait. -/
theorem Control.isParked_of_away {control : Control}
    (away : control.watches = false) :
    control.isParked = false := by
  simp only [isParked]
  split
  · cases away
  · rfl

/-- Where no move about the wake event is due, nobody waits. -/
theorem Control.isParked_of_elsewhere {control : Control}
    (elsewhere : control.touchesWake = false) : control.isParked = false := by
  simp only [isParked]
  split
  · cases elsewhere
  · rfl

theorem Shared.move_lines (client : Client σ κ ν) (shared : Shared σ ν)
    (around : Surroundings) {stack : List (Frame κ)} {control : Control}
    (fits : control.Fits stack)
    (own : shared.dispatcher.wake.line.count around.self =
      control.isParked.toNat)
    (unstored : shared.dispatcher.wake.waiting ≠ [] →
      shared.dispatcher.wake.permit = false) :
    (shared.move client around stack control).Lines shared.dispatcher.wake
      around.self := by
  have watches := shared.move_watches client around fits
  cases touches : control.touchesWake with
  | false =>
      have same := shared.move_wake client around stack touches
      have unparked :
          (shared.move client around stack control).control.isParked =
            false := by
        generalize shared.move client around stack control = turn at watches
        cases watches with
        | parks | stays => cases touches
        | looks watch fresh => rw [fresh]; rfl
        | elsewhere away => exact Control.isParked_of_away away
        | _ => rfl
      rw [Control.isParked_of_elsewhere touches] at own
      constructor
      · rw [same, unparked]
        exact own
      · intro other _
        rw [same]
      · rw [same]
        exact unstored
  | true =>
      simp only [Control.touchesWake] at touches
      split at touches
      · rename_i entry next
        have unparked : (Control.run next).isParked = false := by
          obtain ⟨answer, rfl⟩ | ⟨task, rfl⟩ := fits.1
          · rfl
          · rfl
        constructor
        · change shared.dispatcher.wake.signal.line.count around.self = _
          rw [(Wake.line_signal _).count_eq, own]
          exact congrArg Bool.toNat unparked.symm
        · exact fun other _ => (Wake.line_signal _).count_eq other
        · exact Wake.signal_unstored unstored
      · rename_i watch
        simp only [move, execute, await]
        split
        · exact ⟨own, fun other _ => rfl, fun _ => rfl⟩
        · rename_i absent
          have enlisted := Wake.line_enlist shared.dispatcher.wake around.self
          constructor
          · refine (enlisted.count_eq around.self).trans ?_
            rw [List.count_cons_self, own]
            rfl
          · intro other differs
            refine (enlisted.count_eq other).trans ?_
            rw [List.count_cons_of_ne (Ne.symm differs)]
          · exact fun _ => Bool.not_eq_true _ ▸ absent
      · rename_i watch
        simp only [move, execute, parked]
        split
        · rename_i called
          have dismissed := Wake.line_dismiss called
          constructor
          · refine (dismissed.count_eq around.self).trans ?_
            rw [List.count_erase_self, own]
            rfl
          · intro other differs
            refine (dismissed.count_eq other).trans ?_
            rw [List.count_erase_of_ne differs]
          · exact unstored
        · exact ⟨own, fun other _ => rfl, unstored⟩
      · cases touches

namespace World

section

variable {world : World σ κ ν} {self : ThreadId} {thread : Thread κ}
  (found : world.threads[self]? = some thread)

theorem isParked_of_some (found : world.threads[self]? = some thread) :
    world.isParked self = thread.control.isParked := by
  rw [isParked, found]
  rfl

include found

theorem isParked_put (replacement : Thread κ) (other : ThreadId) :
    (world.put self replacement).isParked other =
      if other =
        self then replacement.control.isParked else world.isParked other := by
  split
  · rename_i same
    subst same
    exact isParked_of_some (put_self found replacement)
  · rename_i differs
    rw [isParked, put_other differs]
    rfl

theorem isParked_afterTurn (role : Role) (turn : Turn σ κ ν)
    (other : ThreadId) : (world.afterTurn self role turn).isParked other =
      if other = self then turn.control.isParked else world.isParked other := by
  split
  · rename_i same
    subst same
    exact isParked_of_some (afterTurn_self found role turn)
  · rename_i differs
    cases stands : world.threads[other]? with
    | some standing =>
        rw [isParked_of_some (afterTurn_other stands differs role turn),
          isParked_of_some stands]
    | none =>
        -- Whoever is new has yet to begin.
        cases new : (world.afterTurn self role turn).threads[other]? with
        | none => rw [isParked, isParked, new, stands]
        | some spawned =>
            rcases afterTurn_cases new with ⟨is, _⟩ | ⟨_, was⟩ | ⟨_, _, rfl⟩
            · exact absurd is differs
            · cases stands.symm.trans was
            · rw [isParked_of_some new, isParked, stands]
              rfl

/-- Somebody who is not at a wait is replaced, and the wake event stays as it
is. -/
theorem IsLined.put (lined : world.IsLined)
    (unparked : thread.control.isParked = false) {shared : Shared σ ν}
    (same : shared.dispatcher = world.shared.dispatcher)
    {replacement : Thread κ}
    (unparked' : replacement.control.isParked = false) :
    (World.put { world with shared := shared } self replacement).IsLined := by
  constructor
  · intro other
    change shared.dispatcher.wake.line.count other = _
    have stands :
        ({ world with shared := shared } : World σ κ ν).threads[self]? =
          some thread :=
      found
    rw [same, lined.once, isParked_put stands, unparked', ← unparked,
      ← isParked_of_some found]
    split
    · rename_i same
      rw [same]
    · rfl
  · change shared.dispatcher.wake.waiting ≠ [] →
      shared.dispatcher.wake.permit = false
    rw [same]
    exact lined.unstored

end

theorem IsOpening.isLined {world : World σ κ ν} (opening : world.IsOpening) :
    world.IsLined := by
  have unparked {callers : Nat} {shared : Shared σ ν} (thread : ThreadId) :
      (World.new shared callers : World σ κ ν).isParked thread = false := by
    rw [Bool.eq_false_iff]
    intro parked
    rcases Option.any_eq_true _ _ |>.mp parked with ⟨standing, found, waits⟩
    rw [List.eq_of_mem_replicate (List.mem_of_getElem? found)] at waits
    cases waits
  cases opening with
  | application | alone =>
      constructor
      · intro thread
        rw [unparked]
        rfl
      · exact fun waits => absurd rfl waits

end World

/-- In every reachable world the line at the wake event is as it should be. -/
theorem Reachable.isLined {client : Client σ κ ν} {world : World σ κ ν}
    (reachable : Reachable client world) : world.IsLined := by
  induction reachable with
  | opening opening => exact opening.isLined
  | @occur world occurrence reached allowed inductionHypothesis =>
      have becomes := World.after_becomes client allowed
      have idle {thread : Thread κ} (free : thread.isFree = true) :
          thread.control.isParked = false := by
        simp only [Control.isParked]
        split
        · rename_i runs
          rw [Thread.isFree_of_run runs] at free
          cases free
        · rfl
      generalize world.after client occurrence = next at becomes
      cases becomes with
      | same | waited =>
          exact ⟨inductionHypothesis.once, inductionHypothesis.unstored⟩
      | @moved self thread found =>
          have lines := world.shared.move_lines client (world.surroundings self)
            (reached.fits thread (List.mem_of_getElem? found))
            ((inductionHypothesis.once self).trans
              (congrArg Bool.toNat (World.isParked_of_some found)))
            inductionHypothesis.unstored
          constructor
          · intro other
            rw [World.isParked_afterTurn found]
            split
            · rename_i same
              rw [same]
              exact lines.own
            · rename_i differs
              exact (lines.others other differs).trans
                (inductionHypothesis.once other)
          · exact lines.unstored
      | asked request found free =>
          exact inductionHypothesis.put found (idle free) rfl rfl
      | handed code found free =>
          exact inductionHypothesis.put found (idle free) rfl rfl
      | abandoned found waits which =>
          refine inductionHypothesis.put found ?_ rfl rfl
          rw [waits]
          obtain rfl | rfl | ⟨task, rfl⟩ := which <;> rfl
      | stopAbandoned found waits =>
          refine inductionHypothesis.put found ?_
            (world.shared.updateApplication_dispatcher _) rfl
          rw [waits]
          rfl
      | cancelledFirst found => exact inductionHypothesis.put found rfl rfl rfl
      | @cancelledParked task stack watch found =>
          constructor
          · intro other
            have stands : ({ world with
                shared :=
                  world.shared.dispatch (·.withWake (·.withdraw task)) } :
                World σ κ ν).threads[task]? =
                  some ⟨.task, stack, .run (.parked watch)⟩ := found
            rw [World.isParked_put stands]
            have left :=
              (Wake.line_withdraw world.shared.dispatcher.wake task).count_eq
                other
            refine left.trans ?_
            split
            · rename_i same
              rw [same, List.count_erase_self, inductionHypothesis.once,
                World.isParked_of_some found]
              rfl
            · rename_i differs
              rw [List.count_erase_of_ne differs]
              exact inductionHypothesis.once other
          · exact Wake.withdraw_unstored task inductionHypothesis.unstored

end Switchboard
