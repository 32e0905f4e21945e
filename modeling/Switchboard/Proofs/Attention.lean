import Switchboard.Proofs.Watching

/-!
# A task that works alone misses nothing

A dispatch task waits for the wake event before it first looks at the queues, so
it finds a backlog only if a permit is stored.  Once it looks, it goes on until
a cycle has found nothing on any channel.  While nobody else works on the queues
it therefore comes to a wait with empty queues, whatever its callbacks submit.
-/

namespace Switchboard

variable {σ κ ν : Type}

namespace Shared

/-- Nothing waits in any queue. -/
def IsDrained (shared : Shared σ ν) : Prop :=
  ∀ channel, (shared.dispatcher.queues.get channel).entries = []

/-- Whether a task that has got to a control will see what waits.  Before a wait
a permit is stored if anything waits, and a cycle that has found nothing so far
has left nothing on the channels that it has served. -/
def Attends (shared : Shared σ ν) (self : ThreadId) : Control → Prop
  | .run .begin => shared.dispatcher.wake.permit = true ∨ shared.IsDrained
  | .run (.check true _) =>
      shared.dispatcher.wake.permit = true ∨ shared.IsDrained
  | .run (.await _) => shared.dispatcher.wake.permit = true ∨ shared.IsDrained
  | .run (.parked _) =>
      shared.dispatcher.wake.hasSignalled self = true ∨ shared.IsDrained
  | .run (.cycle ⟨remaining, false, .loop _⟩) =>
      ∀ channel, channel ∉ remaining →
        (shared.dispatcher.queues.get channel).entries = []
  | _ => True

theorem attends_fresh_loop (shared : Shared σ ν) (self : ThreadId)
    (watch : Nat) :
    shared.Attends self (.run (.cycle (.fresh (.loop watch)))) := by
  intro channel absent
  refine absurd ?_ absent
  cases channel <;> simp [Channel.all]

/-- Where a task relies on nothing it misses nothing. -/
theorem attends_of_away {shared : Shared σ ν} {self : ThreadId}
    {control : Control} (away : control.watches = false) :
    shared.Attends self control := by
  simp only [Attends]
  split
  all_goals first
    | cases away
    | trivial

end Shared

/-- Whether a turn leaves a task that misses nothing. -/
def Turn.Attends (self : ThreadId) (turn : Turn σ κ ν) : Prop :=
  turn.shared.Attends self turn.control

namespace Shared

/-- A move leaves a task that misses nothing. -/
theorem move_attends (client : Client σ κ ν) {shared : Shared σ ν}
    (around : Surroundings) {stack : List (Frame κ)} {control : Control}
    (fits : control.Fits stack) (attends : shared.Attends around.self control) :
    (shared.move client around stack control).Attends around.self := by
  have watches := shared.move_watches client around fits
  generalize shared.move client around stack control = turn at watches
  cases watches with
  | begins => exact attends
  | rests watch => exact .inr fun channel => attends channel List.not_mem_nil
  | @skips channel remaining watch empty =>
      intro other absent
      by_cases same : other = channel
      · rw [same]
        exact empty
      · exact attends other (List.not_mem_cons_of_ne_of_not_mem same absent)
  | turns watch watch' lowered same =>
      rcases same with rfl | rfl
      · exact attends
      · exact attends
  | parks watch absent =>
      rcases attends with stored | drained
      · rw [absent] at stored
        cases stored
      · exact .inr drained
  | stays watch silent => exact attends
  | looks watch fresh =>
      rw [Turn.Attends, fresh]
      exact attends_fresh_loop _ _ _
  | elsewhere away => exact attends_of_away away

end Shared

end Switchboard
