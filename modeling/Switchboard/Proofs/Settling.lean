import Mathlib.Data.List.Forall2
import Switchboard.Proofs.Schedule
import Switchboard.Proofs.Tending

/-!
# A running application settles

When only the dispatch task is left to move, it empties the queues and comes to
rest at a wait.  What it does on the way depends on the state up to likeness
only: two tasks that start from alike states, before their first step or at a
wait, end in alike states.  A task with nothing to do may go through a wait and
a cycle that the other spares itself; no client notices.
-/

namespace Switchboard

variable {σ κ ν : Type} {looping : Bool}

/-- Nobody but the task has anything left to do. -/
structure Attended (threads : List (Thread κ)) (task : ThreadId) : Prop where
  inside : task < threads.length
  others (other : ThreadId) (thread : Thread κ) (differs : other ≠ task)
    (found : threads[other]? = some thread) : thread.ending?.isSome = true

namespace Turn

/-- A turn that leaves a thread with nothing to do. -/
def IsOver (turn : Turn σ κ ν) : Prop :=
  turn.stack = [] ∧ ∀ instruction, turn.control ≠ .run instruction

/-- A task with nothing to do, on its way to a wait. -/
structure Idles (before : Shared σ ν) (turn : Turn σ κ ν) : Prop where
  alike : before.Alike turn.shared
  drained : turn.shared.IsDrained
  empty : turn.stack = []
  idle :
    turn.control.isWaiting = true ∨
      ∃ remaining watch,
        turn.control = .run (.cycle ⟨remaining, false, .loop watch⟩)

/-- A task that is going to look at the queues. -/
structure IsRoused (task : ThreadId) (turn : Turn σ κ ν) : Prop where
  empty : turn.stack = []
  roused :
    match turn.control with
    | .run .begin | .run (.check true _) | .run (.await _) =>
        turn.shared.dispatcher.wake.permit = true
    | .run (.parked _) => turn.shared.dispatcher.wake.hasSignalled task = true
    | .run (.recheck _) => True
    | _ => False

end Turn

/-- A task between two operations: it has not run yet, or it waits. -/
structure Turn.Stands (task : ThreadId) (turn : Turn σ κ ν) : Prop where
  empty : turn.stack = []
  waits : turn.control = .run .begin ∨
    ∃ watch, turn.control = .run (.parked watch)
  wake : turn.shared.dispatcher.wake.Suits turn.shared.IsDrained
    (turn.control.posture task)

namespace World

variable {threads : List (Thread κ)} {task : ThreadId} {role : Role}

/-- What a thread does next. -/
def nextTurn (client : Client σ κ ν) (threads : List (Thread κ))
    (self : ThreadId) (role : Role) (turn : Turn σ κ ν) : Turn σ κ ν :=
  turn.shared.move client
    ((seat threads self role turn).surroundings self) turn.stack
    turn.control

/-! ## Steps of the task -/

theorem canMove_of_run (inside : task < threads.length) {turn : Turn σ κ ν}
    {instruction : Instruction} (runs : turn.control = .run instruction) :
    (seat threads task role turn).canMove task =
      (seat threads task role turn).ready task instruction := by
  simp only [canMove]
  rw [seat_self inside]
  dsimp only
  rw [runs]

theorem canMove_of_arrives (inside : task < threads.length) {turn : Turn σ κ ν}
    (arrives : ∀ instruction, turn.control ≠ .run instruction) :
    (seat threads task role turn).canMove task = !turn.stack.isEmpty := by
  simp only [canMove]
  rw [seat_self inside]
  dsimp only
  split
  · rename_i runs
    exact absurd runs (arrives _)
  · rfl

/-- A thread with a delivery or a cycle to go on with can move. -/
theorem canMove_of_matches (inside : task < threads.length) {turn : Turn σ κ ν}
    {control : Control}
    (same : turn.control.Matches Request.isDelivery looping control)
    (lasts : ¬ turn.IsOver) :
    (seat threads task role turn).canMove task = true := by
  by_cases arrives : ∀ instruction, turn.control ≠ .run instruction
  · rw [canMove_of_arrives inside arrives]
    cases empty : turn.stack with
    | nil => exact absurd ⟨empty, arrives⟩ lasts
    | cons => rfl
  · rw [not_forall_not] at arrives
    rcases arrives with ⟨instruction, runs⟩
    rw [canMove_of_run inside runs]
    rw [runs] at same
    cases same with
    | run same => cases same <;> rfl

/-- A task that can move is the one that does. -/
theorem onward_of_attended (client : Client σ κ ν)
    (attended : Attended threads task) {turn : Turn σ κ ν}
    (moves : (seat threads task role turn).canMove task = true)
    (unspawned : (nextTurn client threads task role turn).spawned = false) :
    (seat threads task role turn).rests client = false ∧
      (seat threads task role turn).advance? client =
        some (seat threads task role
          (nextTurn client threads task role turn)) := by
  have advances := advance?_of_first client moves fun other before => by
    refine (still_of_ended fun thread found => ?_).1
    rw [seat_other (Nat.ne_of_lt before)] at found
    exact attended.others other thread (Nat.ne_of_lt before) found
  rw [seat_step client attended.inside rfl unspawned] at advances
  constructor
  · rw [rests, advances]
    rfl
  · exact advances

/-- When the task cannot move, nobody can. -/
theorem rests_of_attended (client : Client σ κ ν)
    (attended : Attended threads task) {turn : Turn σ κ ν}
    (still : (seat threads task role turn).canMove task = false)
    (free : (seat threads task role turn).waitsInVain task = false) :
    (seat threads task role turn).rests client = true := by
  have each (other : ThreadId) :
      (seat threads task role turn).canMove other = false ∧
      (seat threads task role turn).waitsInVain other = false := by
    by_cases same : other = task
    · rw [same]
      exact ⟨still, free⟩
    · apply still_of_ended
      intro thread found
      rw [seat_other same] at found
      exact attended.others other thread same found
  exact rests_of_still client (fun other => (each other).1) fun other =>
    (each other).2

end World

section Settle

variable {client : Client σ κ ν} {threads : List (Thread κ)} {task : ThreadId}
  {role : Role} {before origin : Shared σ ν} {turn : Turn σ κ ν}
  {final : World σ κ ν}

open World

/-- A task at work waits neither for the slot nor for itself. -/
theorem Turn.Tends.waitsInVain (tends : turn.Tends task origin)
    (inside : task < threads.length) :
    (seat threads task role turn).waitsInVain task = false := by
  have elsewhere (control : Control)
      (matched : ¬ control.Matches Request.isDelivery true control)
      (moves : control.isWaiting = false) : turn.control ≠ control := by
    rintro rfl
    rcases tends.works with ⟨_, same⟩ | ⟨_, waits⟩
    · exact matched same
    · cases moves.symm.trans waits
  simp only [World.waitsInVain]
  rw [seat_self inside]
  dsimp only
  split
  · rename_i runs
    exact absurd runs (elsewhere _ (by rintro ⟨⟨⟩⟩) rfl)
  · rename_i runs
    exact absurd runs (elsewhere _ (by rintro ⟨⟨⟩⟩) rfl)
  · rename_i runs
    exact absurd runs (elsewhere _ (by rintro ⟨⟨⟩⟩) rfl)
  · rfl

/-- A task at work that can move goes on in the next world of the run. -/
theorem Turn.Tends.onward (tends : turn.Tends task origin)
    (attended : Attended threads task) (only : client.OnlyDelivers)
    (hosted : origin.IsHosted)
    (lowered : origin.dispatcher.stopRequested = false)
    (moves : (seat threads task role turn).canMove task = true) :
    let next := nextTurn client threads task role turn
    next.Tends task origin ∧
      (seat threads task role turn).rests client = false ∧
      (seat threads task role turn).advance? client =
        some (seat threads task role next) := by
  obtain ⟨tends', unspawned⟩ :=
    Turn.Tends.move ((seat threads task role turn).surroundings task)
      only hosted lowered tends
  exact ⟨tends', onward_of_attended client attended moves unspawned⟩

/-- What every step of the task keeps holds when it has come to rest. -/
theorem Turn.Tends.run (holds : Turn σ κ ν → Prop)
    (tends : turn.Tends task origin) (attended : Attended threads task)
    (only : client.OnlyDelivers) (hosted : origin.IsHosted)
    (lowered : origin.dispatcher.stopRequested = false)
    (steps : ∀ turn : Turn σ κ ν, turn.Tends task origin → holds turn →
      holds (nextTurn client threads task role turn))
    (run : Progress client (rests client) (seat threads task role turn) final)
    (held : holds turn) :
    ∃ last, final = seat threads task role last ∧ last.Tends task origin ∧
      holds last := by
  let stands (world : World σ κ ν) : Prop :=
    ∃ turn, world = seat threads task role turn ∧
      turn.Tends task origin ∧ holds turn
  refine run.induct stands stands ?_ ⟨turn, rfl, tends, held⟩
  rintro world ⟨turn, rfl, tends, held⟩
  cases moves : (seat threads task role turn).canMove task with
  | false =>
      left
      intro final run
      rw [run.eq_of_halts (rests_of_attended client attended moves
        (tends.waitsInVain attended.inside))]
      exact ⟨turn, rfl, tends, held⟩
  | true =>
      rcases tends.onward attended only hosted lowered moves with
        ⟨tends', goes, advances⟩
      exact .inr ⟨_, goes, advances, _, rfl, tends', steps turn tends held⟩

/-- A task that has come to rest waits with empty queues, unless a panic has
left a cycle. -/
theorem Turn.Tends.parked (tends : turn.Tends task origin)
    (inside : task < threads.length)
    (still : (seat threads task role turn).canMove task = false)
    (calm : ¬ turn.shared.Escaped) :
    turn.stack = [] ∧ turn.shared.IsDrained ∧
      turn.shared.dispatcher.wake.waiting = [task] ∧
      turn.shared.dispatcher.wake.signalled = [] ∧
      ∃ watch, turn.control = .run (.parked watch) := by
  rcases tends.works with ⟨_, same⟩ | ⟨empty, waits⟩
  · exfalso
    have isOver : turn.IsOver := by
      by_contra lasts
      rw [canMove_of_matches inside same lasts] at still
      cases still
    rcases tends.guards with guards | panicked
    · have own := guards.own isOver.1
      simp only [Control.isOwn] at own
      split at own
      case h_8 => cases own
      all_goals
        rename_i runs
        exact isOver.2 _ runs
    · exact calm panicked
  · have wake := tends.wake
    have attends := tends.attends
    simp only [Turn.Attends] at attends
    generalize control : turn.control = control at waits wake attends ⊢
    simp only [Control.isWaiting] at waits
    split at waits
    case h_4 watch =>
      rw [canMove_of_run inside control] at still
      change turn.shared.dispatcher.wake.hasSignalled task = false at still
      rcases wake with ⟨waiting, signalled, _⟩ | ⟨_, signalled⟩
      · refine ⟨empty, ?_, waiting, signalled, watch, rfl⟩
        rcases attends with called | drained
        · rw [still] at called
          cases called
        · exact drained
      · rw [Wake.hasSignalled_of_eq signalled] at still
        cases still
    case h_6 => cases waits
    all_goals
      rw [canMove_of_run inside control] at still
      cases still

/-! ## A task with nothing to do -/

theorem Turn.Idles.move (idles : turn.Idles before)
    (tends : turn.Tends task origin) (around : Surroundings)
    (self : around.self = task)
    (lowered : origin.dispatcher.stopRequested = false) :
    (turn.shared.move client around turn.stack turn.control).Idles before := by
  subst self
  have lowered' := tends.remains.stopRequested.trans lowered
  rcases idles.idle with waits | ⟨remaining, watch, cycle⟩
  · rw [idles.empty]
    have waited := Shared.move_waits client around waits lowered' tends.wake
    refine ⟨idles.alike.trans waited.alike,
      waited.alike.isDrained idles.drained, waited.empty, ?_⟩
    rcases waited.control with again | ⟨watch, fresh⟩
    · exact .inl again
    · exact .inr ⟨_, watch, fresh⟩
  · rw [idles.empty, cycle]
    cases remaining with
    | nil => exact ⟨idles.alike, idles.drained, rfl, .inl rfl⟩
    | cons channel remaining =>
        have none : turn.shared.dispatcher.pop? channel = none := by
          rw [Dispatcher.pop?, Option.map_eq_none_iff, Queue.pop?_eq_none_iff]
          exact List.length_eq_zero_iff.mpr (idles.drained channel)
        simp only [Shared.move, Shared.execute, Shared.serve, none]
        exact ⟨idles.alike, idles.drained, rfl, .inr ⟨remaining, watch, rfl⟩⟩

/-- A task with nothing to do comes to rest in a state like the one it began
with. -/
theorem Turn.Idles.run (idles : turn.Idles before)
    (tends : turn.Tends task origin) (attended : Attended threads task)
    (only : client.OnlyDelivers) (hosted : origin.IsHosted)
    (lowered : origin.dispatcher.stopRequested = false)
    (run : Progress client (rests client) (seat threads task role turn) final) :
    before.Alike final.shared := by
  obtain ⟨last, rfl, _, idles⟩ :=
    tends.run (·.Idles before) attended only hosted lowered
      (fun _ tends idles => Turn.Idles.move idles tends _ rfl lowered) run idles
  exact idles.alike

/-! ## A task that looks at the queues -/

theorem Turn.IsRoused.isWaiting (roused : turn.IsRoused task) :
    turn.control.isWaiting = true := by
  have held := roused.roused
  split at held
  case h_6 => exact held.elim
  all_goals
    rename_i runs
    rw [runs]
    rfl

theorem Turn.IsRoused.canMove (roused : turn.IsRoused task)
    (inside : task < threads.length) :
    (seat threads task role turn).canMove task = true := by
  have held := roused.roused
  split at held
  case h_6 => exact held.elim
  all_goals
    rename_i runs
    rw [canMove_of_run inside runs]
    first | rfl | exact held

theorem Turn.IsRoused.move (client : Client σ κ ν) (roused : turn.IsRoused task)
    (around : Surroundings) (self : around.self = task)
    (lowered : turn.shared.dispatcher.stopRequested = false) :
    let next := turn.shared.move client around turn.stack turn.control
    next.IsRoused task ∨
      ∃ watch, next.control = .run (.cycle (.fresh (.loop watch))) := by
  subst self
  have held := roused.roused
  rw [roused.empty]
  split at held
  · rename_i runs
    rw [runs]
    exact .inl ⟨rfl, held⟩
  · rename_i watch runs
    rw [runs]
    simp only [Shared.move, Shared.execute, Shared.check, lowered,
      Bool.false_eq_true, ↓reduceIte]
    cases turn.shared.reportDue watch <;> exact .inl ⟨rfl, held⟩
  · rename_i watch runs
    rw [runs]
    simp only [Shared.move, Shared.execute, Shared.await, held, ↓reduceIte]
    exact .inl ⟨rfl, trivial⟩
  · rename_i watch runs
    rw [runs]
    simp only [Shared.move, Shared.execute, Shared.parked, held, ↓reduceIte]
    exact .inl ⟨rfl, trivial⟩
  · rename_i watch runs
    rw [runs]
    simp only [Shared.move, Shared.execute, Shared.recheck, lowered,
      Bool.false_eq_true, ↓reduceIte]
    exact .inr ⟨watch, rfl⟩
  · exact held.elim

/-- A task that is going to look at the queues comes to the begin of a cycle, in
a state like the one it began with. -/
theorem Turn.IsRoused.run (roused : turn.IsRoused task)
    (tends : turn.Tends task origin) (alike : origin.Alike turn.shared)
    (attended : Attended threads task) (only : client.OnlyDelivers)
    (hosted : origin.IsHosted)
    (lowered : origin.dispatcher.stopRequested = false)
    (run : Progress client (rests client) (seat threads task role turn) final) :
    ∃ begun watch, begun.Tends task origin ∧ origin.Alike begun.shared ∧
      begun.stack = [] ∧
      begun.control = .run (.cycle (.fresh (.loop watch))) ∧
      Progress client (rests client) (seat threads task role begun) final := by
  let rouses (world : World σ κ ν) : Prop :=
    ∃ turn, world = seat threads task role turn ∧ turn.Tends task origin ∧
      origin.Alike turn.shared ∧ turn.IsRoused task
  let begins (final : World σ κ ν) : Prop :=
    ∃ begun watch, begun.Tends task origin ∧ origin.Alike begun.shared ∧
      begun.stack = [] ∧
      begun.control = .run (.cycle (.fresh (.loop watch))) ∧
      Progress client (rests client) (seat threads task role begun) final
  refine run.induct rouses begins ?_ ⟨turn, rfl, tends, alike, roused⟩
  rintro world ⟨turn, rfl, tends, alike, roused⟩
  have lowered' := tends.remains.stopRequested.trans lowered
  obtain ⟨tends', goes, advances⟩ :=
    tends.onward attended only hosted lowered (roused.canMove attended.inside)
  have waited :
      (nextTurn client threads task role turn).Waits task turn.shared := by
    simp only [nextTurn]
    rw [roused.empty]
    exact Shared.move_waits client
      ((seat threads task role turn).surroundings task)
      roused.isWaiting lowered' tends.wake
  have alike' := alike.trans waited.alike
  obtain again | ⟨watch, fresh⟩ :=
    roused.move client ((seat threads task role turn).surroundings task)
      rfl lowered'
  · exact .inr ⟨_, goes, advances, _, rfl, tends', alike', again⟩
  · left
    intro final run
    exact ⟨_, watch, tends', alike', waited.empty, fresh,
      run.onward goes advances⟩

/-! ## Two tasks -/

/-- A cycle of the loop that has found nothing on any channel leaves nothing to
do. -/
theorem Turn.Tends.idles (tends : turn.Tends task origin)
    (fruitless : turn.control.isFruitless = true) : turn.Idles turn.shared := by
  have fits := tends.fits
  have attends := tends.attends
  simp only [Turn.Fits] at fits
  simp only [Turn.Attends] at attends
  generalize control : turn.control = control at fruitless fits attends
  simp only [Control.isFruitless] at fruitless
  split at fruitless
  · rename_i watch
    exact ⟨.refl _, fun channel => attends channel List.not_mem_nil, fits,
      .inr ⟨[], watch, control⟩⟩
  · cases fruitless

theorem Attended.silent (attended : Attended threads task) (other : ThreadId)
    (thread : Thread κ) (differs : other ≠ task)
    (found : threads[other]? = some thread) :
    thread.stack = [] :=
  (Thread.isSome_ending?_iff.mp (attended.others other thread differs found)).1

/-! ## A task between two operations -/

theorem Turn.Stands.isWaiting (stands : turn.Stands task) :
    turn.control.isWaiting = true := by
  rcases stands.waits with runs | ⟨watch, runs⟩
  · rw [runs]
    rfl
  · rw [runs]
    rfl

theorem Turn.Stands.tends (stands : turn.Stands task) :
    turn.Tends task turn.shared := by
  rcases stands with ⟨empty, waits, wake⟩
  have waiting := Turn.Stands.isWaiting ⟨empty, waits, wake⟩
  refine ⟨.refl _, .inr ⟨empty, waiting⟩, ?_, ?_, .inl ?_,
    wake.imp fun _ => trivial⟩
  · simp only [Turn.Fits]
    rcases waits with runs | ⟨watch, runs⟩
    · rw [empty, runs]
      rfl
    · rw [empty, runs]
      rfl
  · simp only [Turn.Attends]
    rcases waits with runs | ⟨watch, runs⟩
    · rw [runs] at wake ⊢
      exact wake.2.2
    · rw [runs] at wake ⊢
      rcases wake with ⟨_, _, drained⟩ | ⟨_, signalled⟩
      · exact .inr drained
      · exact .inl (Wake.hasSignalled_of_eq signalled)
  · simp only [Turn.Guards]
    rw [empty]
    exact .of_own (Control.isOwn_of_isWaiting waiting)

theorem Turn.Stands.idles (stands : turn.Stands task)
    (drained : turn.shared.IsDrained) :
    turn.Idles turn.shared :=
  ⟨.refl _, drained, stands.empty, .inl stands.isWaiting⟩

/-- A task between two operations is going to look at what waits. -/
theorem Turn.Stands.isRoused (stands : turn.Stands task)
    (filled : ¬ turn.shared.IsDrained) :
    turn.IsRoused task := by
  rcases stands with ⟨empty, waits, wake⟩
  constructor
  · exact empty
  · rcases waits with runs | ⟨watch, runs⟩
    · rw [runs] at wake ⊢
      rcases wake.2.2 with permit | drained
      · exact permit
      · exact absurd drained filled
    · rw [runs] at wake ⊢
      rcases wake with ⟨_, _, drained⟩ | ⟨_, signalled⟩
      · exact absurd drained filled
      · exact Wake.hasSignalled_of_eq signalled

end Settle

section TwoTasks

variable {client : Client σ κ ν} {threads threads' : List (Thread κ)}
  {task task' : ThreadId} {role role' : Role} {origin origin' : Shared σ ν}
  {turn turn' : Turn σ κ ν} {final final' : World σ κ ν}

open World

theorem Turn.Matches.isFruitless_eq
    (same : turn.Matches Request.isDelivery looping turn') :
    turn.control.isFruitless = turn'.control.isFruitless := by
  have controls := same.control
  generalize turn.control = control at controls
  generalize turn'.control = control' at controls
  cases controls with
  | run instructions =>
      cases instructions with
      | cycle cycles =>
          rcases cycles with ⟨remaining, productive, watch, watch'⟩
          cases remaining <;> cases productive <;> rfl
      | _ => rfl
  | _ => rfl

theorem Turn.Matches.isOver_iff
    (same : turn.Matches Request.isDelivery looping turn') :
    turn.IsOver ↔ turn'.IsOver := by
  have arrives : (∀ instruction, turn.control ≠ .run instruction) ↔
      ∀ instruction, turn'.control ≠ .run instruction := by
    have controls := same.control
    generalize turn.control = control at controls
    generalize turn'.control = control' at controls
    cases controls <;> simp
  have empty : turn.stack = [] ↔ turn'.stack = [] := by
    rw [← List.length_eq_zero_iff, same.stack.length_eq,
      List.length_eq_zero_iff]
  simp only [Turn.IsOver]
  rw [arrives, empty]

/-- Two tasks that do the same thing in alike states come to rest in alike
states. -/
theorem Turn.Matches.settle (same : turn.Matches Request.isDelivery true turn')
    (tends : turn.Tends task origin) (tends' : turn'.Tends task' origin')
    (attended : Attended threads task) (attended' : Attended threads' task')
    (only : client.OnlyDelivers) (hosted : origin.IsHosted)
    (hosted' : origin'.IsHosted)
    (lowered : origin.dispatcher.stopRequested = false)
    (lowered' : origin'.dispatcher.stopRequested = false)
    (run : Progress client (rests client) (seat threads task role turn) final)
    (run' : Progress client (rests client)
      (seat threads' task' role' turn') final') :
    final.shared.Alike final'.shared := by
  let related (world world' : World σ κ ν) : Prop :=
    ∃ turn turn', world = seat threads task role turn ∧
      world' = seat threads' task' role' turn' ∧
      turn.Tends task origin ∧ turn'.Tends task' origin' ∧
        turn.Matches Request.isDelivery true turn'
  refine Progress.lockstep related
    (fun final final' => final.shared.Alike final'.shared) ?_
    run run' ⟨turn, turn', rfl, rfl, tends, tends', same⟩
  rintro world world' ⟨turn, turn', rfl, rfl, tends, tends', same⟩
  cases fruitless : turn.control.isFruitless with
  | true =>
      left
      intro final final' run run'
      have idle :=
        (tends.idles fruitless).run tends attended only hosted lowered run
      have idle' :=
        (tends'.idles (same.isFruitless_eq.symm.trans fruitless)).run
          tends' attended'
        only hosted' lowered' run'
      exact idle.symm.trans (same.shared.trans idle')
  | false =>
      by_cases isOver : turn.IsOver
      · left
        intro final final' run run'
        have isOver' := same.isOver_iff.mp isOver
        have still : (seat threads task role turn).canMove task = false := by
          rw [canMove_of_arrives attended.inside isOver.2, isOver.1]
          rfl
        have still' :
            (seat threads' task' role' turn').canMove task' = false := by
          rw [canMove_of_arrives attended'.inside isOver'.2, isOver'.1]
          rfl
        rw [run.eq_of_halts (rests_of_attended client attended still
            (tends.waitsInVain attended.inside)),
          run'.eq_of_halts (rests_of_attended client attended' still'
            (tends'.waitsInVain attended'.inside))]
        exact same.shared
      · right
        have moves : (seat threads task role turn).canMove task = true :=
          canMove_of_matches attended.inside same.control isOver
        have moves' : (seat threads' task' role' turn').canMove task' = true :=
          canMove_of_matches attended'.inside same.control.symm fun isOver' =>
            isOver (same.isOver_iff.mpr isOver')
        have onward := tends.onward attended only hosted lowered moves
        have onward' := tends'.onward attended' only hosted' lowered' moves'
        refine ⟨_, _, onward.2, onward'.2, _, _, rfl, rfl, onward.1,
          onward'.1, ?_⟩
        refine Shared.move_matches only.asksOnly same.shared
          (tends.remains.isHosted hosted) (tends'.remains.isHosted hosted')
          (fun session => ?_) same.stack same.control
          (fun asks => absurd asks same.control.unnamed)
          (fun _ _ => ⟨tends.remains.stopRequested.trans lowered,
            tends'.remains.stopRequested.trans lowered'⟩) fruitless
        rw [seat_keeps attended.inside attended.silent,
          seat_keeps attended'.inside attended'.silent]
        exact Frame.any_keeps_eq same.stack session

/-- Two tasks between operations come to rest in alike states if they stand in
such. -/
theorem Turn.Stands.settle (stands : turn.Stands task)
    (stands' : turn'.Stands task') (alike : turn.shared.Alike turn'.shared)
    (attended : Attended threads task) (attended' : Attended threads' task')
    (only : client.OnlyDelivers) (hosted : turn.shared.IsHosted)
    (hosted' : turn'.shared.IsHosted)
    (lowered : turn.shared.dispatcher.stopRequested = false)
    (lowered' : turn'.shared.dispatcher.stopRequested = false)
    (run : Progress client (rests client) (seat threads task role turn) final)
    (run' : Progress client (rests client)
      (seat threads' task' role' turn') final') :
    final.shared.Alike final'.shared := by
  by_cases drained : turn.shared.IsDrained
  · have idle :=
      (stands.idles drained).run stands.tends attended only hosted lowered run
    have idle' :=
      (stands'.idles (alike.isDrained drained)).run stands'.tends attended' only
      hosted' lowered' run'
    exact idle.symm.trans (alike.trans idle')
  · have filled' : ¬ turn'.shared.IsDrained :=
      fun drained' => drained (alike.symm.isDrained drained')
    obtain ⟨begun, watch, tends, alike₁, empty, cycle, run⟩ :=
      (stands.isRoused drained).run stands.tends
        (.refl _) attended only hosted lowered run
    obtain ⟨begun', watch', tends', alike₂, empty', cycle', run'⟩ :=
      (stands'.isRoused filled').run stands'.tends
        (.refl _) attended' only hosted' lowered' run'
    have same : begun.Matches Request.isDelivery true begun' := by
      refine ⟨alike₁.symm.trans (alike.trans alike₂), ?_, ?_⟩
      · rw [empty, empty']
        exact .nil
      · rw [cycle, cycle']
        exact .run (.cycle (.loop _ _ _ _))
    exact same.settle tends tends' attended attended' only hosted hosted'
      lowered lowered' run run'

end TwoTasks

end Switchboard
