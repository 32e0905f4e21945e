import Switchboard.Proofs.Settling

/-!
# Deliveries between two operations

A caller that asks for a delivery is the only one that moves until it has its
answer: what it pushes, it also signals.  It leaves the task where it stood, and
the wake event such that the task will see to what waits now.  Two callers that
ask for the same thing in alike states leave alike states.
-/

namespace Switchboard

variable {σ κ ν : Type}

/-- Whether a signal is due for an entry that has been pushed. -/
def Control.isSignal : Control → Bool
  | .run (.signal _ _) => true
  | _ => false

/-- A caller in the middle of a delivery, since the state `origin`.  The wake
event suits the posture of the task, but for a signal that is still due. -/
structure Turn.Serves (posture : Posture) (origin : Shared σ ν)
    (turn : Turn σ κ ν) :
    Prop where
  remains : origin.Remains turn.shared
  stack : List.Forall₂ (Frame.Matches false) turn.stack turn.stack
  control : turn.control.Matches Request.isDelivery false turn.control
  fits : turn.Fits
  wake :
    turn.shared.dispatcher.wake.Suits
      (turn.shared.IsDrained ∨ turn.control.isSignal = true) posture

/-- A delivery is not a step of a dispatch loop. -/
theorem Control.Matches.elsewhere {control control' : Control}
    (same : control.Matches Request.isDelivery false control') :
    control.isFruitless = false ∧
      ∀ watch, control ≠ .run (.check false watch) := by
  cases same with
  | run same =>
      cases same <;> exact ⟨rfl, fun watch runs => by cases runs⟩
  | _ => exact ⟨rfl, fun watch => Control.noConfusion⟩

/-- Only a push fills a queue. -/
theorem Shared.move_isDrained (client : Client σ κ ν) {shared : Shared σ ν}
    (around : Surroundings) {stack : List (Frame κ)} {control : Control}
    (fits : control.Fits stack) (pushless : ∀ item, control ≠ .run (.push item))
    (drained : shared.IsDrained) :
    (shared.move client around stack control).shared.IsDrained := by
  have handles := shared.move_handles client around fits
  generalize shared.move client around stack control = turn at handles
  have played (before : Shared σ ν) (callback : Option Callback)
      (stack : List (Frame κ)) (turn : ClientTurn σ κ ν)
      (drained : before.IsDrained) :
      (before.clientMove stack callback turn).shared.IsDrained := by
    simp only [IsDrained]
    rw [clientMove_dispatcher]
    exact drained
  cases handles with
  | aside before turns =>
      simp only [IsDrained]
      rw [turns.same.queues]
      exact drained
  | pushes stack item => exact absurd rfl (pushless item)
  | drains stack next popped =>
      rcases Option.map_eq_some_iff.mp popped with ⟨⟨entry, rest⟩, popped, _⟩
      have filled := ((Queue.pop?_eq_some_iff _ _ _).mp popped).1
      rw [drained] at filled
      cases filled
  | routes stack entry cycle =>
      simp only [route]
      split
      · split <;> exact drained
      · split <;> exact drained
  | calls fits => exact played _ _ _ _ drained
  | resumes state response before fits => exact played _ _ _ _ drained
  | _ => exact drained

/-- What a delivery pushes it also signals. -/
theorem Shared.move_heeds (client : Client σ κ ν) {shared : Shared σ ν}
    (around : Surroundings) {stack : List (Frame κ)}
    {control control' : Control}
    (same : control.Matches Request.isDelivery false control')
    (fits : control.Fits stack) {posture : Posture}
    (suits : shared.dispatcher.wake.Suits
      (shared.IsDrained ∨ control.isSignal = true) posture) :
    let turn := shared.move client around stack control
    turn.shared.dispatcher.wake.Suits
      (turn.shared.IsDrained ∨ turn.control.isSignal = true)
      posture := by
  cases touches : control.touchesWake with
  | true =>
      cases same with
      | run same =>
          cases same with
          | signal entry answer => exact suits.signal _
          | _ => cases touches
      | _ => cases touches
  | false =>
      dsimp only
      rw [shared.move_wake client around stack touches]
      by_cases pushes : ∃ item, control = .run (.push item)
      · rcases pushes with ⟨item, rfl⟩
        exact suits.imp fun _ => .inr rfl
      · refine suits.imp fun clear => .inl ?_
        rcases clear with drained | signals
        · exact move_isDrained client around fits
            (fun item same => pushes ⟨item, same⟩) drained
        · simp only [Control.isSignal] at signals
          split at signals
          · cases touches
          · cases signals

/-- A caller goes on with its delivery, and spawns nobody. -/
theorem Turn.Serves.move {client : Client σ κ ν} {posture : Posture}
    {origin : Shared σ ν} {turn : Turn σ κ ν}
    (serves : turn.Serves posture origin) (around : Surroundings)
    (only : client.OnlyDelivers) (hosted : origin.IsHosted) :
    let next := turn.shared.move client around turn.stack turn.control
    next.Serves posture origin ∧ next.spawned = false := by
  have hosted' := serves.remains.isHosted hosted
  rcases serves.control.elsewhere with ⟨fruitful, elsewhere⟩
  have continues :=
    turn.shared.move_continues client around turn.stack serves.control
    serves.control.unnamed
    fun watch runs => absurd runs (elsewhere watch)
  obtain ⟨_, stack, control⟩ :=
    Shared.move_matches only.asksOnly (.refl turn.shared) hosted' hosted'
      (fun _ => rfl) serves.stack serves.control
      (fun asks => absurd asks serves.control.unnamed)
      (fun watch runs => absurd runs (elsewhere watch)) fruitful
  refine ⟨⟨serves.remains.trans continues.remains, stack, control,
    turn.shared.move_fits client around serves.fits, ?_⟩, continues.spawned⟩
  exact Shared.move_heeds client around serves.control serves.fits serves.wake

/-- Nobody moves before a caller, and all others stand on empty stacks. -/
structure Visited (σ ν : Type) (threads : List (Thread κ)) (caller : ThreadId) :
    Prop where
  inside : caller < threads.length
  silent (other : ThreadId) (thread : Thread κ) (differs : other ≠ caller)
    (found : threads[other]? = some thread) : thread.stack = []
  first (role : Role) (turn : Turn σ κ ν) (other : ThreadId)
    (before : other < caller) :
    (World.seat threads caller role turn).canMove other = false

section Visit

variable {client : Client σ κ ν} {threads threads' : List (Thread κ)}
  {caller : ThreadId} {role role' : Role} {posture posture' : Posture}
  {origin origin' : Shared σ ν} {turn turn' : Turn σ κ ν}
  {final final' : World σ κ ν}

open World

theorem atRest_seat_iff (inside : caller < threads.length) :
    (seat threads caller role turn).atRest caller = true ↔ turn.IsOver := by
  rw [atRest, World.ending?, seat_self inside, Option.bind_some,
    Thread.isSome_ending?_iff]
  rfl

/-- A caller that is not at rest goes on in the next world of the run. -/
theorem Turn.Serves.onward (serves : turn.Serves posture origin)
    (visited : Visited σ ν threads caller) (role : Role)
    (only : client.OnlyDelivers) (hosted : origin.IsHosted)
    (lasts : ¬ turn.IsOver) :
    let next := nextTurn client threads caller role turn
    next.Serves posture origin ∧
      (seat threads caller role turn).atRest caller = false ∧
      (seat threads caller role turn).advance? client =
        some (seat threads caller role next) := by
  have moves : (seat threads caller role turn).canMove caller = true :=
    canMove_of_matches visited.inside serves.control lasts
  obtain ⟨serves', unspawned⟩ :=
    serves.move
      ((seat threads caller role turn).surroundings caller) only hosted
  refine ⟨serves', ?_, ?_⟩
  · rw [Bool.eq_false_iff, ne_eq, atRest_seat_iff visited.inside]
    exact lasts
  · rw [advance?_of_first client moves (visited.first role turn),
      seat_step client visited.inside rfl unspawned]
    rfl

/-- Two callers that do the same thing in alike states have their answers in
alike states, and leave everything else as it was. -/
theorem Turn.Matches.finish (same : turn.Matches Request.isDelivery false turn')
    (serves : turn.Serves posture origin)
    (serves' : turn'.Serves posture' origin')
    (visited : Visited σ ν threads caller)
    (visited' : Visited σ ν threads' caller) (only : client.OnlyDelivers)
    (hosted : origin.IsHosted) (hosted' : origin'.IsHosted)
    (run : Progress client (·.atRest caller)
      (seat threads caller role turn) final)
    (run' : Progress client (·.atRest caller)
      (seat threads' caller role' turn') final') :
    final.shared.Alike final'.shared := by
  let related (world world' : World σ κ ν) : Prop :=
    ∃ turn turn', world = seat threads caller role turn ∧
      world' = seat threads' caller role' turn' ∧ turn.Serves posture origin ∧
      turn'.Serves posture' origin' ∧
        turn.Matches Request.isDelivery false turn'
  refine Progress.lockstep related
    (fun final final' => final.shared.Alike final'.shared) ?_
    run run' ⟨turn, turn', rfl, rfl, serves, serves', same⟩
  rintro world world' ⟨turn, turn', rfl, rfl, serves, serves', same⟩
  by_cases isOver : turn.IsOver
  · left
    intro final final' run run'
    rw [run.eq_of_halts ((atRest_seat_iff visited.inside).mpr isOver),
      run'.eq_of_halts
        ((atRest_seat_iff visited'.inside).mpr (same.isOver_iff.mp isOver))]
    exact same.shared
  · right
    have onward := serves.onward visited role only hosted isOver
    have onward' := serves'.onward visited' role' only hosted' fun isOver' =>
      isOver (same.isOver_iff.mpr isOver')
    refine ⟨_, _, onward.2, onward'.2, _, _, rfl, rfl, onward.1, onward'.1, ?_⟩
    rcases serves.control.elsewhere with ⟨fruitful, elsewhere⟩
    refine Shared.move_matches only.asksOnly same.shared
      (serves.remains.isHosted hosted) (serves'.remains.isHosted hosted')
      (fun session => ?_) same.stack same.control
      (fun asks => absurd asks same.control.unnamed)
      (fun watch runs => absurd runs (elsewhere watch)) fruitful
    rw [seat_keeps visited.inside visited.silent,
      seat_keeps visited'.inside visited'.silent]
    exact Frame.any_keeps_eq same.stack session

/-- A caller that has its answer has signalled all it has pushed. -/
theorem Turn.Serves.finish (serves : turn.Serves posture origin)
    (visited : Visited σ ν threads caller) (only : client.OnlyDelivers)
    (hosted : origin.IsHosted)
    (run : Progress client (·.atRest caller)
      (seat threads caller role turn) final) :
    ∃ last, final = seat threads caller role last ∧ last.IsOver ∧
      origin.Remains last.shared ∧
      last.shared.dispatcher.wake.Suits last.shared.IsDrained posture := by
  let going (world : World σ κ ν) : Prop :=
    ∃ turn, world = seat threads caller role turn ∧ turn.Serves posture origin
  let done (world : World σ κ ν) : Prop :=
    ∃ last, world = seat threads caller role last ∧ last.IsOver ∧
      origin.Remains last.shared ∧
      last.shared.dispatcher.wake.Suits last.shared.IsDrained posture
  refine run.induct going done ?_ ⟨turn, rfl, serves⟩
  rintro world ⟨turn, rfl, serves⟩
  by_cases isOver : turn.IsOver
  · left
    intro final run
    rw [run.eq_of_halts ((atRest_seat_iff visited.inside).mpr isOver)]
    refine ⟨turn, rfl, isOver, serves.remains, serves.wake.imp fun clear => ?_⟩
    rcases clear with drained | signals
    · exact drained
    · simp only [Control.isSignal] at signals
      split at signals
      · rename_i runs
        exact absurd runs (isOver.2 _)
      · cases signals
  · rcases serves.onward visited role only hosted isOver with
      ⟨serves', goes, advances⟩
    exact .inr ⟨_, goes, advances, _, rfl, serves'⟩

end Visit

end Switchboard
