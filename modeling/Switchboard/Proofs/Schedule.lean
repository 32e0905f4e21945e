import Switchboard.Proofs.Run

/-!
# One processor

On a single processor the thread with the least number that can move does so, up
to a world at which the run halts.  A thread that works while no other
interferes takes the world through its own turns only, which leave all other
threads as they are.
-/

namespace Switchboard

variable {σ κ ν : Type}

/-- A run on a single processor from a world to the first one at which it
halts. -/
inductive Progress (client : Client σ κ ν) (halts : World σ κ ν → Bool) :
    World σ κ ν → World σ κ ν → Prop
  | halted {world : World σ κ ν} (stands : halts world = true) :
      Progress client halts world world
  | moved {world next final : World σ κ ν} (goes : halts world = false)
      (advances : world.advance? client = some next)
      (rest : Progress client halts next final) :
      Progress client halts world final

namespace World

/-- Whether nothing can move any more. -/
def rests (client : Client σ κ ν) (world : World σ κ ν) : Bool :=
  (world.advance? client).isNone

/-- A run with a limit that comes to its end is a run to the first world at
which it halts. -/
theorem runUntil_progress {client : Client σ κ ν}
    {reached halts : World σ κ ν → Bool}
    (halting : ∀ world : World σ κ ν, reached world = true → halts world = true)
    (stopping : ∀ world : World σ κ ν, halts world = true →
      reached world = true ∨ world.advance? client = none)
    {limit : Nat} {world : World σ κ ν}
    (stands : halts (world.runUntil client reached limit) = true) :
    Progress client halts world (world.runUntil client reached limit) := by
  induction limit generalizing world with
  | zero => exact .halted stands
  | succ limit inductionHypothesis =>
      cases here : halts world with
      | true =>
          have stays : world.runUntil client reached (limit + 1) = world := by
            simp only [runUntil]
            rcases stopping world here with reached | stuck
            · rw [if_pos reached]
            · rw [stuck]
              exact ite_self _
          rw [stays]
          exact .halted here
      | false =>
          have unreached : ¬ reached world = true := fun reached => by
            rw [halting world reached] at here
            cases here
          simp only [runUntil] at stands ⊢
          rw [if_neg unreached] at stands ⊢
          split at stands
          · rw [stands] at here
            cases here
          · rename_i next advances
            exact .moved here advances (inductionHypothesis stands)

/-- A caller that has got to rest has done so in the first such world. -/
theorem finish_progress {client : Client σ κ ν} {limit : Nat}
    {caller : ThreadId} {world after : World σ κ ν}
    (finished : after = world.finish client limit caller)
    (rests : after.atRest caller = true) :
    Progress client (·.atRest caller) world after := by
  subst finished
  exact runUntil_progress (fun _ reached => reached)
    (fun _ reached => .inl reached) rests

theorem settle_progress {client : Client σ κ ν} {limit : Nat}
    {world after : World σ κ ν} (settled : after = world.settle client limit)
    (stands : after.rests client = true) :
    Progress client (rests client) world after := by
  subst settled
  exact runUntil_progress (fun _ reached => Bool.noConfusion reached)
    (fun world stands => .inr (Option.isNone_iff_eq_none.mp stands)) stands

end World

namespace Progress

variable {client : Client σ κ ν} {halts : World σ κ ν → Bool}
  {world world' next final final' : World σ κ ν}

theorem halts_final (run : Progress client halts world final) :
    halts final = true := by
  induction run with
  | halted stands => exact stands
  | moved _ _ _ inductionHypothesis => exact inductionHypothesis

theorem eq_of_halts (run : Progress client halts world final)
    (stands : halts world = true) :
    final = world := by
  cases run with
  | halted => rfl
  | moved goes =>
      rw [goes] at stands
      cases stands

theorem onward (run : Progress client halts world final)
    (goes : halts world = false)
    (advances : world.advance? client = some next) :
    Progress client halts next final := by
  cases run with
  | halted stands =>
      rw [goes] at stands
      cases stands
  | moved _ advances' rest =>
      cases Option.some.inj (advances.symm.trans advances')
      exact rest

/-- An invariant of a run.  From each world with the invariant either every run
ends well, or the next world has it too. -/
theorem induct (holds good : World σ κ ν → Prop)
    (steps : ∀ world, holds world →
      (∀ final, Progress client halts world final → good final) ∨
        ∃ next, halts world = false ∧
          world.advance? client = some next ∧ holds next)
    (run : Progress client halts world final) (held : holds world) :
    good final := by
  induction run with
  | halted stands =>
      rcases steps _ held with ends | ⟨next, goes, _⟩
      · exact ends _ (.halted stands)
      · rw [goes] at stands
        cases stands
  | @moved world next final goes advances rest inductionHypothesis =>
      rcases steps _ held with ends | ⟨next', _, advances', held⟩
      · exact ends _ (.moved goes advances rest)
      · cases Option.some.inj (advances.symm.trans advances')
        exact inductionHypothesis held

/-- Two runs in step.  From related worlds either all pairs of runs end well, or
both worlds go on to related ones. -/
theorem lockstep (related good : World σ κ ν → World σ κ ν → Prop)
    (steps : ∀ world world', related world world' →
      (∀ final final', Progress client halts world final →
        Progress client halts world' final' → good final final') ∨
        ∃ next next',
          (halts world = false ∧ world.advance? client = some next) ∧
          (halts world' = false ∧ world'.advance? client = some next') ∧
            related next next')
    (run : Progress client halts world final)
    (run' : Progress client halts world' final')
    (start : related world world') : good final final' := by
  induction run generalizing world' with
  | halted stands =>
      rcases steps _ _ start with ends | ⟨next, _, ⟨goes, _⟩, _⟩
      · exact ends _ _ (.halted stands) run'
      · rw [goes] at stands
        cases stands
  | @moved world next final goes advances rest inductionHypothesis =>
      obtain ends | ⟨next, next', ⟨_, advances'⟩,
        ⟨goes', advances''⟩, related⟩ :=
        steps _ _ start
      · exact ends _ _ (.moved goes advances rest) run'
      · cases Option.some.inj (advances.symm.trans advances')
        exact inductionHypothesis (run'.onward goes' advances'') related

end Progress

namespace World

/-! ## Who moves next -/

theorem lt_length_of_canMove {world : World σ κ ν} {self : ThreadId}
    (moves : world.canMove self = true) : self < world.threads.length := by
  simp only [canMove] at moves
  split at moves
  · cases moves
  · rename_i found
    exact (List.getElem?_eq_some_iff.mp found).1

/-- The first thread that can move does so. -/
theorem advance?_of_first (client : Client σ κ ν) {world : World σ κ ν}
    {self : ThreadId} (moves : world.canMove self = true)
    (first : ∀ other < self, world.canMove other = false) :
    world.advance? client = some (world.step client self) := by
  have next : world.next? = some self := by
    simp only [next?]
    rw [List.find?_range_eq_some]
    refine ⟨moves, List.mem_range.mpr (lt_length_of_canMove moves),
      fun other before => ?_⟩
    rw [first other before]
    rfl
  simp only [advance?, next]

/-- Nothing moves when no thread can and none waits for the slot. -/
theorem rests_of_still (client : Client σ κ ν) {world : World σ κ ν}
    (still : ∀ thread, world.canMove thread = false)
    (free : ∀ thread, world.waitsInVain thread = false) :
    world.rests client = true := by
  have next : world.next? = none := by
    simp only [next?]
    rw [List.find?_eq_none]
    intro thread _
    rw [still thread]
    exact Bool.false_ne_true
  have waits :
      (List.range world.threads.length).find? world.waitsInVain = none := by
    rw [List.find?_eq_none]
    intro thread _
    rw [free thread]
    exact Bool.false_ne_true
  simp only [rests, advance?, next, waits, Option.map_none, Option.isNone_none]

/-- Nobody can move in a world at rest. -/
theorem canMove_of_rests {client : Client σ κ ν} {world : World σ κ ν}
    (rests : world.rests client = true) (self : ThreadId) :
    world.canMove self = false := by
  by_contra moves
  rw [Bool.not_eq_false] at moves
  have inside := List.mem_range.mpr (lt_length_of_canMove moves)
  have stuck := Option.isNone_iff_eq_none.mp rests
  simp only [advance?] at stuck
  split at stuck
  · cases stuck
  · rename_i none
    exact List.find?_eq_none.mp none self inside moves

/-! ## One thread among others -/

/-- The world in which one thread stands where a turn has left it, and the
others stand as in a list. -/
def seat (threads : List (Thread κ)) (self : ThreadId) (role : Role)
    (turn : Turn σ κ ν) :
    World σ κ ν where
  shared := turn.shared
  threads := threads.set self ⟨role, turn.stack, turn.control⟩

section Seat

variable {threads : List (Thread κ)} {self : ThreadId} {role : Role}
  {turn : Turn σ κ ν}

theorem seat_self (inside : self < threads.length) (role : Role)
    (turn : Turn σ κ ν) :
    (seat threads self role turn).threads[self]? =
      some ⟨role, turn.stack, turn.control⟩ :=
  List.getElem?_set_self inside

theorem seat_other {other : ThreadId} (differs : other ≠ self) (role : Role)
    (turn : Turn σ κ ν) :
    (seat threads self role turn).threads[other]? = threads[other]? :=
  List.getElem?_set_ne (Ne.symm differs)

/-- A world is the one in which a thread stands where it stands. -/
theorem eq_seat {world : World σ κ ν} {thread : Thread κ}
    (found : world.threads[self]? = some thread) (spawned : Bool) :
    world = seat world.threads self thread.role
      ⟨world.shared, thread.stack, thread.control, spawned⟩ := by
  rcases List.getElem?_eq_some_iff.mp found with ⟨inside, equal⟩
  rcases world with ⟨shared, threads⟩
  simp only [seat]
  congr
  rw [← equal, List.set_getElem_self]

/-- A thread that spawns nobody takes the world through its turns. -/
theorem seat_step (client : Client σ κ ν) (inside : self < threads.length)
    {next : Turn σ κ ν}
    (turns : turn.shared.move client
      ((seat threads self role turn).surroundings self)
      turn.stack turn.control = next)
    (unspawned : next.spawned = false) :
    (seat threads self role turn).step client self =
      seat threads self role next := by
  rw [step_of_some (seat_self inside role turn)]
  change (seat threads self role turn).afterTurn self role
    (turn.shared.move client _ turn.stack turn.control) = _
  rw [turns]
  simp only [afterTurn, unspawned, seat, List.set_set,
    Bool.false_eq_true, ↓reduceIte, List.append_nil]

/-- A session is kept alive by the thread itself when all others stand on empty
stacks. -/
theorem seat_keeps (inside : self < threads.length)
    (silent : ∀ (other : ThreadId) (thread : Thread κ), other ≠ self →
      threads[other]? = some thread → thread.stack = [])
    (session : SessionHandle) :
    ((seat threads self role turn).surroundings self).keeps session =
      turn.stack.any (Frame.keeps session) := by
  have own := List.mem_of_getElem? (seat_self inside role turn)
  rw [Bool.eq_iff_iff]
  constructor
  · intro keeps
    rcases List.any_eq_true.mp keeps with ⟨thread, member, keeps⟩
    rcases List.mem_iff_getElem?.mp member with ⟨other, found⟩
    by_cases same : other = self
    · rw [same, seat_self inside] at found
      cases found
      exact keeps
    · rw [seat_other same] at found
      rw [Thread.keeps, silent other thread same found] at keeps
      cases keeps
  · exact fun keeps => List.any_eq_true.mpr ⟨_, own, keeps⟩

end Seat

/-! ## Who cannot move -/

/-- A thread that has ended, or that is not there, cannot move and does not
wait. -/
theorem still_of_ended {world : World σ κ ν} {self : ThreadId}
    (ended : ∀ thread, world.threads[self]? = some thread →
      thread.ending?.isSome = true) :
    world.canMove self = false ∧ world.waitsInVain self = false := by
  simp only [canMove, waitsInVain]
  cases found : world.threads[self]? with
  | none => exact ⟨rfl, rfl⟩
  | some thread =>
      rcases Thread.isSome_ending?_iff.mp (ended thread found) with
        ⟨empty, stands⟩
      dsimp only
      constructor
      · split
        · rename_i runs
          exact absurd runs (stands _)
        · rw [empty]
          rfl
      · split
        · rename_i runs
          exact absurd runs (stands _)
        · rename_i runs
          exact absurd runs (stands _)
        · rename_i runs
          exact absurd runs (stands _)
        · rfl

/-- A thread that waits for a task cannot move before the task has ended. -/
theorem canMove_of_awaits {world : World σ κ ν} {self task : ThreadId}
    {thread : Thread κ} (found : world.threads[self]? = some thread)
    (awaits : thread.control = .run (.awaitTask task))
    (lasts : world.ending? task = none) :
    world.canMove self = false := by
  simp only [canMove]
  rw [found]
  dsimp only
  rw [awaits]
  dsimp only [ready]
  rw [lasts]
  rfl

/-- A task with an instruction to go on with has not ended. -/
theorem ending?_of_run {world : World σ κ ν} {task : ThreadId}
    {thread : Thread κ} {instruction : Instruction}
    (found : world.threads[task]? = some thread)
    (runs : thread.control = .run instruction) : world.ending? task = none := by
  rw [ending?, found, Option.bind_some]
  exact Thread.ending?_of_run runs

end World

end Switchboard
