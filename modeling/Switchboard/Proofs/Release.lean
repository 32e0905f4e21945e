import Mathlib.Data.Nat.Init
import Switchboard.Proofs.Agreement
import Switchboard.Proofs.Retirement
import Switchboard.Proofs.Slot

/-!
# When a stream is released

A deletion looks a stream up, and its next step asks client code to release it.
Between the two steps any other thread may move.  Client code is therefore asked
to release a stream that stands in the registry and was not stopped if and only
if no other deletion has removed the stream in between, which is so whenever one
thing is done at a time.
-/

namespace Switchboard

variable {σ κ ν : Type}

/-! ## The step that leads to the question -/

namespace Shared

variable {client : Client σ κ ν} {shared : Shared σ ν} {around : Surroundings}
  {stack : List (Frame κ)} {descriptor : Descriptor} {stream : Stream}

/-- Only the lookup of a deletion leads to the question whether a stream may be
released. -/
theorem execute_asks {instruction : Instruction}
    (asks : (shared.execute client around stack instruction).control =
      .run (.call (.deleteStream descriptor stream)))
        (fits : instruction.Fits stack) :
    instruction = .delete descriptor := by
  cases instruction with
  | delete asked =>
      rcases shared.delete_cases stack asked with
        ⟨after, missing⟩ | ⟨looked, _, calls⟩
      · simp only [execute, missing] at asks
        cases asks
      · simp only [execute, calls] at asks
        cases asks
        rfl
  | call callback =>
      simp only [execute, clientMove] at asks
      split at asks <;> cases asks
  | signal entry next =>
      rcases fits with ⟨⟨answer, rfl⟩ | ⟨task, rfl⟩, _⟩
      · cases asks
      · cases asks
  | perform request =>
      simp only [execute, perform] at asks
      split at asks
      case h_12 =>
        simp only [register] at asks
        split at asks <;> cases asks
      case h_13 =>
        simp only [unregister] at asks
        split at asks <;> cases asks
      all_goals cases asks
  | cycle current =>
      rcases current with ⟨remaining, productive, after⟩
      simp only [execute, serve] at asks
      split at asks
      · cases after with
        | drain => cases productive <;> cases asks
        | answer | loop => cases asks
      · split at asks <;> cases asks
  | route | start | stop =>
      simp only [execute, route, start, launch, stop] at asks
      repeat' split at asks
      all_goals cases asks
  | check idle watch =>
      simp only [execute, check] at asks
      split at asks
      · cases asks
      · cases idle <;> cases asks
  | recheck | leave =>
      simp only [execute, recheck, leave] at asks
      split at asks <;> cases asks
  | await | parked | create | insert | remove | awaitTask | join =>
      simp only [execute, await, parked, create, insert, remove, awaitTask,
        join] at asks
      split at asks <;> cases asks
  | _ => cases asks

theorem deliver_not_asks {control : Control} {frame : Frame κ}
    (arrives : ∀ instruction, control ≠ .run instruction) :
    (shared.deliver client stack control frame).control ≠
      .run (.call (.deleteStream descriptor stream)) := by
  intro asks
  simp only [deliver] at asks
  split at asks
  case h_1 | h_2 =>
    simp only [clientMove] at asks
    split at asks <;> cases asks
  case h_8 descriptor reply =>
    cases built : reply.stream with
    | none | some => rw [built] at asks; cases asks
  case h_10 descriptor stream reply =>
    simp only [released] at asks
    split at asks <;> cases asks
  case h_12 => exact arrives _ asks
  case h_4 | h_7 => cases Cycle.run_of_afterLoss asks
  all_goals cases asks

theorem move_asks {control : Control}
    (asks : (shared.move client around stack control).control =
      .run (.call (.deleteStream descriptor stream)))
        (fits : control.Fits stack) :
    control = .run (.delete descriptor) ∧
      shared.registry.find? descriptor.id = some stream := by
  simp only [move] at asks
  split at asks
  · cases execute_asks asks fits
    rcases shared.delete_cases stack descriptor with
      ⟨after, missing⟩ | ⟨looked, found, calls⟩
    · simp only [execute, missing] at asks
      cases asks
    · simp only [execute, calls] at asks
      cases asks
      exact ⟨rfl, found⟩
  · rename_i arrives
    split at asks
    · exact absurd asks (arrives _)
    · exact absurd asks (deliver_not_asks arrives)

end Shared

/-! ## From the lookup to the question -/

/-- A stream stands under an id, and it was not stopped. -/
def Shared.HasLive (shared : Shared σ ν) (id : UInt32) (stream : Stream) :
    Prop :=
  shared.registry.find? id = some stream ∧
    ∀ stopped ∈ shared.stoppings, stopped.handle ≠ stream.handle

namespace World

variable {client : Client σ κ ν} {world : World σ κ ν}
  {run : List (Occurrence κ)} {self : ThreadId} {descriptor : Descriptor}
  {stream : Stream} {looked asked : Nat}

/-- A stream is removed from an id by what happens at a moment of a run. -/
def RemovesAt (client : Client σ κ ν) (world : World σ κ ν)
    (run : List (Occurrence κ)) (id : UInt32) (stream : Stream) (moment : Nat) :
    Prop :=
  (world.upTo client run moment).shared.Alters id
    (world.upTo client run (moment + 1)).shared (some (.left stream))

/-- A deletion has found a stream under its id at the moment `looked`, and at
the moment `asked` its thread comes to ask whether it may be released, without a
step in between. -/
structure Asks (client : Client σ κ ν) (world : World σ κ ν)
    (run : List (Occurrence κ)) (deleter : ThreadId) (descriptor : Descriptor)
    (stream : Stream) (looked asked : Nat) :
    Prop where
  before : looked < asked
  looks : ∃ below,
    world.TakesAt client run deleter looked below (.run (.delete descriptor))
  found : (world.upTo client run looked).shared.registry.find? descriptor.id =
    some stream
  rests (moment : Nat) : looked < moment → moment < asked →
    run[moment]? ≠ some (.step deleter)

/-- Whoever comes to ask whether a stream may be released has looked it up
before. -/
theorem IsOpening.exists_asks (opening : world.IsOpening)
    (allowed : world.allowsAll client run = true) (inside : asked ≤ run.length)
    {thread : Thread κ}
    (found : (world.upTo client run asked).threads[self]? = some thread)
    (asks : thread.control = .run (.call (.deleteStream descriptor stream))) :
    ∃ looked, world.Asks client run self descriptor stream looked asked := by
  induction asked generalizing thread with
  | zero =>
      have member := List.mem_of_getElem? found
      cases opening with
      | application | alone =>
          rw [List.eq_of_mem_replicate member] at asks
          cases asks
  | succ moment inductionHypothesis =>
      have next : run[moment]? = some run[moment] :=
        List.getElem?_eq_getElem inside
      rcases (becomes_at allowed next).origin found with
        ⟨before, stood, changes⟩ | ⟨_, rfl⟩
      · by_cases steps : run[moment]? = some (.step self)
        · have stepped := (steps_at steps stood).2
          cases found.symm.trans stepped
          have reachable : Reachable client world := .opening opening
          have reached := reachable.upTo allowed moment
          rcases Shared.move_asks asks
            (reached.fits before (List.mem_of_getElem? stood)) with
            ⟨looks, stands⟩
          exact ⟨moment, Nat.lt_succ_self _,
            ⟨before.stack, steps, before.role, looks ▸ stood⟩, stands,
            fun between after inner =>
              absurd (Nat.lt_succ_iff.mp inner) (Nat.not_le.mpr after)⟩
        · have same : thread = before := by
            generalize run[moment] = occurrence at changes next
            cases changes with
            | stays => rfl
            | moves => exact absurd next steps
            | _ => cases asks
          subst same
          rcases inductionHypothesis (Nat.le_of_succ_le inside) stood asks with
            ⟨looked, earlier⟩
          refine ⟨looked, Nat.lt_succ_of_lt earlier.before, earlier.looks,
            earlier.found, ?_⟩
          intro between after inner
          rcases Nat.lt_succ_iff_lt_or_eq.mp inner with inner | rfl
          · exact earlier.rests between after inner
          · exact steps
      · cases asks

namespace Asks

/-- Somebody else removes the stream from its id, if anybody does, while the
deletion is about to ask. -/
theorem removed_by_other
    (asks : world.Asks client run self descriptor stream looked asked)
    (reachable : Reachable client world)
    (allowed : world.allowsAll client run = true) {moment : Nat}
    (inside : moment < run.length) (after : looked < moment)
    (before : moment < asked)
    (removes : world.RemovesAt client run descriptor.id stream moment) :
    ∃ other stack control, other ≠ self ∧
      world.TakesAt client run other moment stack control ∧
      control.leaving? = some descriptor.id := by
  rcases reachable.alters_at allowed inside descriptor.id with
    ⟨change, alters, makes⟩
  cases removes with
  | leaves stands free journal =>
      cases alters with
      | keeps registry => cases (registry.symm.trans free).symm.trans stands
      | enters free' => cases free'.symm.trans stands
      | leaves =>
          rcases makes (Option.some_ne_none _) with
            ⟨other, stack, control, takes, leaving⟩
          refine ⟨other, stack, control, ?_, takes, leaving⟩
          rintro rfl
          exact asks.rests moment after before takes.1

/-- If nobody removes the stream in between, it stands under its id all the
time. -/
theorem stands
    (asks : world.Asks client run self descriptor stream looked asked)
    (reachable : Reachable client world)
    (allowed : world.allowsAll client run = true) (inside : asked ≤ run.length)
    (undisturbed : ∀ moment, looked < moment → moment < asked →
      ¬ world.RemovesAt client run descriptor.id stream moment)
    {moment : Nat} (after : looked ≤ moment) (before : moment ≤ asked) :
    (world.upTo client run moment).shared.registry.find? descriptor.id =
      some stream := by
  induction moment, after using Nat.le_induction with
  | base => exact asks.found
  | succ moment after inductionHypothesis =>
      have present := inductionHypothesis (Nat.le_of_succ_le before)
      rcases reachable.alters_at allowed
        (Nat.lt_of_lt_of_le before inside) descriptor.id with
        ⟨change, alters, makes⟩
      cases change with
      | none =>
          cases alters with
          | keeps registry journal => exact registry.trans present
      | some change =>
          cases change with
          | entered entered =>
              cases alters with
              | enters free => cases free.symm.trans present
          | left left =>
              exfalso
              have same : left = stream := by
                cases alters with
                | leaves stands =>
                    exact Option.some.inj (stands.symm.trans present)
              subst same
              rcases Nat.eq_or_lt_of_le after with rfl | later
              · -- The lookup itself removes nothing.
                rcases makes (Option.some_ne_none _) with
                  ⟨other, stack, control, takes, leaving⟩
                rcases asks.looks with ⟨below, steps, role, found⟩
                rcases takes with ⟨steps', role', found'⟩
                cases Option.some.inj (steps.symm.trans steps')
                cases found.symm.trans found'
                cases leaving
              · exact undisturbed moment later before alters

/-- Client code is asked to release a stream that stands under its id and was
not stopped if and only if no other deletion has removed the stream since the
lookup. -/
theorem hasLive_iff
    (asks : world.Asks client run self descriptor stream looked asked)
    (reachable : Reachable client world)
    (allowed : world.allowsAll client run = true)
    (hosted : (world.follow client run).shared.host.isAlone = false)
    (fresh : (world.follow client run).shared.BuildsFresh)
    (inside : asked ≤ run.length) :
    (world.upTo client run asked).shared.HasLive descriptor.id stream ↔
      ∀ moment, looked < moment → moment < asked →
        ¬ world.RemovesAt client run descriptor.id stream moment := by
  constructor
  · intro live moment after before removes
    have between := (reachable.registered_between allowed hosted fresh
      (Nat.le_of_lt asks.before) inside asks.found live.1 rfl).2 (moment + 1)
      (Nat.le_succ_of_le (Nat.le_of_lt after)) before
    cases removes with
    | leaves stands free => cases free.symm.trans between
  · intro undisturbed
    have stands :=
      asks.stands reachable allowed inside undisturbed
        (Nat.le_of_lt asks.before)
      (Nat.le_refl _)
    refine ⟨stands, fun stopped retired same => ?_⟩
    exact World.IsAccounted.handle_ne_of_stopped
      (reachable.isAccounted_upTo allowed hosted inside).2
      (World.buildsFresh_upTo allowed fresh inside)
      ⟨descriptor.id, stands⟩ retired same.symm

/-- Where one thing is done at a time, the question is the next thing to
happen. -/
theorem eq_succ_of_isOrderly
    (asks : world.Asks client run self descriptor stream looked asked)
    (orderly : world.isOrderlyAll client run = true)
    (inside : asked ≤ run.length) :
    asked = looked + 1 := by
  by_contra later
  have next : looked + 1 < asked :=
    Nat.lt_of_le_of_ne asks.before (Ne.symm later)
  rcases asks.looks with ⟨below, steps, role, found⟩
  have stepped := (steps_at steps found).2
  simp only [Shared.move, Shared.execute, Shared.delete, asks.found] at stepped
  have follows : run[looked + 1]? = some run[looked + 1] :=
    List.getElem?_eq_getElem (Nat.lt_of_lt_of_le next inside)
  have steps_on := eq_step_of_isOrderly
    ((isOrderlyAll_take orderly (looked + 1)).2 _ follows) stepped rfl
  exact asks.rests (looked + 1) (Nat.lt_succ_self _) next (steps_on ▸ follows)

end Asks

/-! ## Which streams client code is asked to release -/

/-- Client code that is asked to release a stream finds it under its id, and not
stopped yet, if and only if nobody has removed it since the deletion looked it
up.  Only another deletion can have done so, and it cannot where one thing is
done at a time. -/
theorem IsOpening.releases_live_iff (opening : world.IsOpening)
    (allowed : world.allowsAll client run = true)
    (hosted : (world.follow client run).shared.host.isAlone = false)
    (fresh : (world.follow client run).shared.BuildsFresh)
    {stack : List (Frame κ)} (takes : world.TakesAt client run self asked stack
      (.run (.call (.deleteStream descriptor stream)))) :
    ∃ looked, world.Asks client run self descriptor stream looked asked ∧
      ((world.upTo client run asked).shared.HasLive descriptor.id stream ↔
        ∀ moment, looked < moment → moment < asked →
          ¬ world.RemovesAt client run descriptor.id stream moment) ∧
      (∀ moment, looked < moment → moment < asked →
        world.RemovesAt client run descriptor.id stream moment →
          ∃ other stack control, other ≠ self ∧
            world.TakesAt client run other moment stack control ∧
            control.leaving? = some descriptor.id) ∧
      (world.isOrderlyAll client run = true →
        asked = looked + 1 ∧
          (world.upTo client run asked).shared.HasLive descriptor.id
            stream) := by
  rcases takes with ⟨steps, role, found⟩
  have within : asked < run.length := (List.getElem?_eq_some_iff.mp steps).1
  have inside := Nat.le_of_lt within
  have reachable : Reachable client world := .opening opening
  rcases opening.exists_asks allowed inside found rfl with ⟨looked, asks⟩
  have live_iff := asks.hasLive_iff reachable allowed hosted fresh inside
  refine ⟨looked, asks, live_iff, fun moment after before =>
    asks.removed_by_other reachable allowed
      (Nat.lt_trans before within) after before, ?_⟩
  intro orderly
  have next := asks.eq_succ_of_isOrderly orderly inside
  exact ⟨next, live_iff.mpr fun moment after before =>
    absurd before (Nat.not_lt.mpr (next ▸ after))⟩

/-- Two callers delete one stream.  The first looks it up, the second deletes it
from beginning to end, and then client code is asked to release, for the first,
a stream that is gone from the registry and stopped. -/
theorem IsOpening.releases_stopped_stream :
    let steps (thread : ThreadId) (number : Nat) :=
      List.replicate number (Occurrence.step thread : Occurrence Unit)
    let descriptor := Descriptor.new 7 "camera"
    let camera : Stream := ⟨0, "camera"⟩
    let opening : World Nat Unit Unit :=
      .new (.new ⟨1, "app"⟩ .standard (.application .new) 0) 2
    let run :=
      [.request 0 (.create descriptor)] ++ steps 0 5 ++
        [.request 0 (.delete descriptor)] ++
        steps 0 2 ++ [.request 1 (.delete descriptor)] ++ steps 1 7 ++ steps 0 1
    (∃ looked, opening.Asks .numbering run 0 descriptor camera looked 17 ∧
      ∃ moment other, looked < moment ∧ moment < 17 ∧ other ≠ 0 ∧
        run[moment]? = some (.step other) ∧
        opening.RemovesAt .numbering run descriptor.id camera moment) ∧
      (opening.upTo .numbering run 17).shared.registry.find? descriptor.id =
        none ∧
      camera ∈ (opening.upTo .numbering run 17).shared.stoppings := by
  intro steps descriptor camera opening run
  have opens : opening.IsOpening := .application _ _ _ _
  have allowed : opening.allowsAll .numbering run = true := by decide +kernel
  have hosted :
      (opening.follow .numbering run).shared.host.isAlone = false := by
    decide +kernel
  have fresh : (opening.follow .numbering run).shared.BuildsFresh := by
    decide +kernel
  have takes :
      opening.TakesAt .numbering run 0 17 [.releasing descriptor camera]
        (.run (.call (.deleteStream descriptor camera))) :=
    ⟨rfl, .caller, by decide +kernel⟩
  have gone :
      (opening.upTo .numbering run 17).shared.registry.find? descriptor.id =
        none := by
    decide +kernel
  rcases opens.releases_live_iff allowed hosted fresh takes with
    ⟨looked, asks, live_iff, by_other, _⟩
  have dead :
      ¬ (opening.upTo .numbering run 17).shared.HasLive descriptor.id
        camera := by
    intro live
    cases gone.symm.trans live.1
  rw [live_iff] at dead
  simp only [not_forall, not_not] at dead
  rcases dead with ⟨moment, after, before, removes⟩
  rcases by_other moment after before removes with
    ⟨other, _, _, differs, takes, _⟩
  exact ⟨⟨looked, asks, moment, other, after, before, differs, takes.1,
    removes⟩, gone, by decide +kernel⟩

end World

end Switchboard
