import Mathlib.Data.Nat.Init
import Switchboard.Proofs.Tasks

/-!
# Tasks that have left their loop

A task leaves its loop when it sees that a stop was requested, or when a panic
or its cancellation ends it.  It does not come back: it drains the queues if the
settings say so, and then it ends.
-/

namespace Switchboard

variable {σ κ ν : Type}

/-- A task has left its loop: it is about to drain the queues or to end, it is
in a cycle of the drain, or it has ended. -/
inductive HasLeft : List (Frame κ) → Control → Prop
  | leaves {control : Control}
      (last : control = .run .leave ∨ control = .run .farewell) :
      HasLeft [] control
  | drains {stack : List (Frame κ)} {control : Control} (left : Nat)
      (inCycle : InCycle .drain [] left stack control) : HasLeft stack control
  | ended {control : Control}
      (done : ∀ instruction, control ≠ .run instruction) :
      HasLeft [] control

/-- A task on its course is in its loop, or it has left. -/
theorem InTask.inLoop_or_hasLeft {stack : List (Frame κ)} {control : Control}
    (inTask : InTask stack control) : InLoop stack control ∨
      HasLeft stack control := by
  cases inTask with
  | loops inLoop => exact .inl inLoop
  | drains left inCycle => exact .inr (.drains left inCycle)
  | leaves last => exact .inr (.leaves last)
  | ended done => exact .inr (.ended done)

/-- In a cycle that was begun on the empty stack a task serves a channel or
routes an entry as long as no callback waits. -/
theorem InCycle.of_nil {after : AfterCycle} {left : Nat} {control : Control}
    (inCycle : InCycle after [] left ([] : List (Frame κ)) control) :
    ∃ cycle, cycle.after = after ∧
      (control = .run (.cycle cycle) ∨
        ∃ entry, control = .run (.route entry cycle)) := by
  cases inCycle with
  | @serves cycle same enough => exact ⟨cycle, same, .inl rfl⟩
  | @routes entry cycle same enough => exact ⟨cycle, same, .inr ⟨entry, rfl⟩⟩
  | calls frame waits same enough stands =>
      exact absurd (List.suffix_nil.mp stands) (List.cons_ne_nil _ _)

/-- A cycle is begun by the loop or by the drain, not by both. -/
theorem InCycle.after_eq {after after' : AfterCycle} {left left' : Nat}
    {stack : List (Frame κ)} {control : Control}
    (inCycle : InCycle after [] left stack control)
    (inCycle' : InCycle after' [] left' stack control) : after = after' := by
  cases stack with
  | nil =>
      rcases inCycle.of_nil with ⟨cycle, same, rfl | ⟨entry, rfl⟩⟩
      · rcases inCycle'.of_nil with ⟨cycle', same', serves | ⟨entry', routes⟩⟩
        · cases serves
          exact same.symm.trans same'
        · cases routes
      · rcases inCycle'.of_nil with ⟨cycle', same', serves | ⟨entry', routes⟩⟩
        · cases serves
        · cases routes
          exact same.symm.trans same'
  | cons top below =>
      cases inCycle with
      | calls frame waits same enough stands =>
          cases inCycle' with
          | calls frame' waits' same' enough' stands' =>
              -- Both wait for the frame at the bottom of the stack.
              have bottom :=
                List.suffix_of_suffix_length_le stands stands' (Nat.le_refl 1)
              cases bottom.eq_of_length rfl
              cases waits.symm.trans waits'
              exact same.symm.trans same'

/-- A task that has left its loop is not in it. -/
theorem HasLeft.not_inLoop {stack : List (Frame κ)} {control : Control}
    (left : HasLeft stack control) : ¬ InLoop stack control := by
  intro inLoop
  cases left with
  | leaves last =>
      cases inLoop with
      | between between => obtain rfl | rfl := last <;> cases between
      | inCycle watch left inCycle =>
          rcases inCycle.of_nil with ⟨cycle, _, serves | ⟨entry, routes⟩⟩
          · obtain leaves | leaves := last <;> cases leaves.symm.trans serves
          · obtain leaves | leaves := last <;> cases leaves.symm.trans routes
  | drains left inCycle =>
      cases inLoop with
      | between between =>
          rcases inCycle.of_nil with ⟨cycle, _, rfl | ⟨entry, rfl⟩⟩
          · cases between
          · cases between
      | inCycle watch left' inCycle' =>
          exact AfterCycle.noConfusion (inCycle.after_eq inCycle')
  | ended done =>
      cases inLoop with
      | between between =>
          rcases Control.runs_of_isBetweenCycles between with
            ⟨instruction, rfl, _⟩
          exact done instruction rfl
      | inCycle watch left inCycle =>
          rcases inCycle.of_nil with ⟨cycle, _, serves | ⟨entry, routes⟩⟩
          · exact done _ serves
          · exact done _ routes

/-- A task that has left its loop does not come back by a move. -/
theorem Shared.move_hasLeft (client : Client σ κ ν) (shared : Shared σ ν)
    (around : Surroundings) {stack : List (Frame κ)} {control : Control}
    (fits : control.Fits stack) (tells : shared.Tells stack control)
    (left : HasLeft stack control) :
    let turn := shared.move client around stack control
    HasLeft turn.stack turn.control := by
  cases left with
  | leaves last =>
      obtain rfl | rfl := last
      · simp only [move, execute, leave]
        split
        · exact .drains _ (.serves rfl (Nat.le_refl _))
        · exact .leaves (.inr rfl)
      · exact .ended fun _ => Control.noConfusion
  | drains left inCycle =>
      rcases shared.move_isInCycle client around fits tells
        (inCycle.mono (Nat.le_add_right _ _)) with stays | returns | escapes
      · exact .drains left stays
      · rcases returns with ⟨cycle, same, _, _, _, empty, next⟩
        simp only [empty, next, Cycle.next, same]
        split
        · exact .drains _ (.serves rfl (Nat.le_refl _))
        · exact .leaves (.inr rfl)
      · rcases escapes.leaves with ⟨payload, empty, raises⟩
        simp only [empty, raises]
        exact .ended fun _ => Control.noConfusion
  | ended done =>
      cases control with
      | run instruction => exact absurd rfl (done instruction)
      | _ => exact .ended fun _ => Control.noConfusion

/-- A task that has left its loop does not come back, whatever happens. -/
theorem Thread.Changes.hasLeft {client : Client σ κ ν} {world : World σ κ ν}
    {self : ThreadId} {thread later : Thread κ} {occurrence : Occurrence κ}
    (changes : thread.Changes client world self occurrence later)
    (fits : thread.Fits)
    (tells : world.shared.Tells thread.stack thread.control)
    (task : thread.role = .task) (left : HasLeft thread.stack thread.control) :
    HasLeft later.stack later.control := by
  by_cases steps : occurrence = .step self
  · subst steps
    cases changes with
    | stays => exact left
    | moves turns =>
        subst turns
        exact world.shared.move_hasLeft client _ fits tells left
  · rcases thread with ⟨role, stack, control⟩
    cases left with
    | leaves last =>
        have same : later = ⟨role, [], control⟩ := by
          rcases last with runs | runs
          · exact changes.eq_of_run runs ⟨rfl, rfl⟩ steps
          · exact changes.eq_of_run runs ⟨rfl, rfl⟩ steps
        rw [same]
        exact .leaves last
    | drains left inCycle =>
        exact .drains left (inCycle.of_others fits changes steps)
    | ended done =>
        rw [changes.of_ended task (isSome_ending?_iff.mpr ⟨rfl, done⟩)]
        exact .ended done

/-- Once a task has left its loop it is outside at every later moment of a
run. -/
theorem Reachable.hasLeft_at {client : Client σ κ ν} {world : World σ κ ν}
    {run : List (Occurrence κ)} (reachable : Reachable client world)
    (allowed : world.allowsAll client run = true) {task : ThreadId}
    {earlier later : Nat} (order : earlier ≤ later)
    (inside : later ≤ run.length) {thread : Thread κ}
    (found : (world.upTo client run earlier).threads[task]? = some thread)
    (role : thread.role = .task) (left : HasLeft thread.stack thread.control) :
    ∃ now, (world.upTo client run later).threads[task]? = some now ∧
      now.role = .task ∧
      HasLeft now.stack now.control := by
  induction later, order using Nat.le_induction with
  | base => exact ⟨thread, found, role, left⟩
  | succ moment order inductionHypothesis =>
      rcases inductionHypothesis (Nat.le_of_succ_le inside) with
        ⟨now, stands, role, left⟩
      have reached := reachable.upTo allowed moment
      have member := List.mem_of_getElem? stands
      rcases World.changes_at allowed inside stands with
        ⟨next, stands', changes⟩
      exact ⟨next, stands', changes.role.trans role,
        changes.hasLeft (reached.fits now member)
          (reached.tells now member) role left⟩

end Switchboard
