import Switchboard.Proofs.Stack

/-!
# The moments of a run

A run is a list of occurrences, and its moments are the worlds between them.
This file follows one thread through the moments of a run.  A move keeps the
stack on which it works, up to the frame at which something arrives; and only a
thread's own move changes the thread while it is in the middle of something.  A
frame on its stack therefore stands until a reply or a panic arrives at it.
The journal only grows, so what has happened by a moment has happened by every
later one.
-/

namespace Switchboard

variable {σ κ ν : Type}

namespace Shared

/-! ## What a move does to the stack -/

theorem clientMove_suffix (shared : Shared σ ν) (stack : List (Frame κ))
    (callback : Option Callback) (turn : ClientTurn σ κ ν) :
    stack <:+ (shared.clientMove stack callback turn).stack := by
  simp only [clientMove]
  cases turn.move with
  | perform request next => exact List.suffix_cons _ _
  | finish reply => exact List.suffix_rfl
  | panic payload => exact List.suffix_rfl

theorem perform_stack (client : Client σ κ ν) (shared : Shared σ ν)
    (around : Surroundings) (stack : List (Frame κ)) (request : Request) :
    (shared.perform client around stack request).stack = stack := by
  simp only [perform]
  split
  case h_12 =>
    simp only [register]
    split <;> rfl
  case h_13 =>
    simp only [unregister]
    split <;> rfl
  all_goals rfl

theorem start_stack (client : Client σ κ ν) (shared : Shared σ ν)
    (around : Surroundings) (stack : List (Frame κ)) :
    (shared.start client around stack).stack = stack := by
  simp only [start]
  split
  · split
    · rfl
    · split
      · rfl
      · split <;> rfl
  · rfl
  · rfl

theorem stop_stack (shared : Shared σ ν) (stack : List (Frame κ)) :
    (shared.stop stack).stack = stack := by
  simp only [stop]
  split
  · split
    · rfl
    · split <;> rfl
  · rfl
  · rfl

/-- An instruction leaves no frame. -/
theorem execute_suffix (client : Client σ κ ν) (shared : Shared σ ν)
    (around : Surroundings) (stack : List (Frame κ))
    (instruction : Instruction) :
    stack <:+ (shared.execute client around stack instruction).stack := by
  have keeps {turn : Turn σ κ ν} (same : turn.stack = stack) :
      stack <:+ turn.stack :=
    same ▸ List.suffix_rfl
  cases instruction with
  | perform request =>
      exact keeps (shared.perform_stack client around stack request)
  | call callback => exact clientMove_suffix _ stack _ _
  | cycle cycle =>
      simp only [execute, serve]
      split
      · exact keeps rfl
      · split <;> exact keeps rfl
  | route entry cycle =>
      simp only [execute, route]
      split
      · split
        · exact List.suffix_cons _ _
        · exact keeps rfl
      · split
        · exact List.suffix_cons _ _
        · exact keeps rfl
  | check idle watch =>
      simp only [execute, check]
      split <;> exact keeps rfl
  | await watch =>
      simp only [execute, await]
      split <;> exact keeps rfl
  | parked watch =>
      simp only [execute, parked]
      split <;> exact keeps rfl
  | create descriptor =>
      simp only [execute, create]
      split
      · exact keeps rfl
      · exact List.suffix_cons _ _
  | insert descriptor stream =>
      simp only [execute, insert]
      split
      · exact List.suffix_cons _ _
      · exact keeps rfl
  | delete descriptor =>
      simp only [execute, delete]
      split
      · exact keeps rfl
      · exact List.suffix_cons _ _
  | remove descriptor stream =>
      simp only [execute, remove]
      split
      · exact keeps rfl
      · exact List.suffix_cons _ _
  | start => exact keeps (shared.start_stack client around stack)
  | stop => exact keeps (shared.stop_stack stack)
  | awaitTask task =>
      simp only [execute, awaitTask]
      split <;> exact keeps rfl
  | join task =>
      simp only [execute, join]
      split <;> exact keeps rfl
  | _ => exact keeps rfl

/-- What arrives at a frame leaves this one only. -/
theorem deliver_suffix (client : Client σ κ ν) (shared : Shared σ ν)
    (stack : List (Frame κ)) (control : Control) (frame : Frame κ) :
    stack <:+ (shared.deliver client stack control frame).stack := by
  have keeps {turn : Turn σ κ ν} (same : turn.stack = stack) :
      stack <:+ turn.stack :=
    same ▸ List.suffix_rfl
  simp only [deliver]
  split
  case h_1 | h_2 => exact clientMove_suffix _ stack _ _
  case h_6 => exact List.suffix_cons _ _
  case h_8 descriptor reply => cases reply.stream <;> exact keeps rfl
  case h_10 descriptor stream reply => cases reply.accepted <;> exact keeps rfl
  all_goals exact keeps rfl

/-- A frame stays on the stack in a move, unless something arrives at it. -/
theorem move_suffix (client : Client σ κ ν) (shared : Shared σ ν)
    (around : Surroundings) {stack below : List (Frame κ)} {control : Control}
    {frame : Frame κ} (stands : frame :: below <:+ stack) :
    frame :: below <:+ (shared.move client around stack control).stack ∨
      stack = frame :: below ∧ (∀ instruction, control ≠ .run instruction) ∧
        shared.move client around stack control =
          shared.deliver client below control frame := by
  cases control with
  | run instruction =>
      exact .inl
        (stands.trans (shared.execute_suffix client around stack instruction))
  | _ =>
      cases stack with
      | nil => exact absurd (List.suffix_nil.mp stands) (List.cons_ne_nil _ _)
      | cons top rest =>
          rcases List.suffix_cons_iff.mp stands with same | deeper
          · cases same
            exact .inr ⟨rfl, fun _ => Control.noConfusion, rfl⟩
          · exact .inl (deeper.trans (shared.deliver_suffix client rest _ top))

/-! ## Nothing is forgotten -/

theorem askTypeName_journal (client : Client σ κ ν) (shared : Shared σ ν) :
    shared.journal <:+ (askTypeName client shared).2.journal := by
  simp only [askTypeName]
  split
  · exact List.suffix_cons _ _
  · exact List.suffix_rfl
  · exact List.suffix_rfl

theorem updateApplication_journal (shared : Shared σ ν)
    (update : Application → Application) :
    (shared.updateApplication update).journal = shared.journal := by
  simp only [updateApplication]
  split <;> rfl

theorem clientMove_journal (shared : Shared σ ν) (stack : List (Frame κ))
    (callback : Option Callback) (turn : ClientTurn σ κ ν) :
    shared.journal <:+
      (shared.clientMove stack callback turn).shared.journal := by
  have noted :
      shared.journal <:+ (turn.notes.map Happening.noted).reverse ++
        shared.journal :=
    List.suffix_append _ _
  simp only [clientMove]
  cases turn.move with
  | perform request next => exact noted
  | finish reply =>
      cases callback with
      | none => exact noted
      | some callback => exact noted.trans (List.suffix_cons _ _)
  | panic payload =>
      cases callback with
      | none => exact noted
      | some callback => exact noted.trans (List.suffix_cons _ _)

theorem perform_journal (client : Client σ κ ν) (shared : Shared σ ν)
    (around : Surroundings) (stack : List (Frame κ)) (request : Request) :
    shared.journal <:+
      (shared.perform client around stack request).shared.journal := by
  simp only [perform]
  split
  case h_8 => exact shared.askTypeName_journal client
  case h_12 =>
    simp only [register]
    split
    · exact List.suffix_rfl
    · exact List.suffix_cons _ _
  case h_13 =>
    simp only [unregister]
    split
    · exact List.suffix_rfl
    · exact List.suffix_cons _ _
  all_goals exact List.suffix_rfl

theorem launch_journal (client : Client σ κ ν) (shared : Shared σ ν)
    (stack : List (Frame κ)) (task : ThreadId) :
    shared.journal <:+ (shared.launch client stack task).shared.journal := by
  have filled := (shared.dispatch (·.withStop false)).updateApplication_journal
    fun application =>
      { application with worker := some task, phase := .running }
  have named := askTypeName_journal client
    ((shared.dispatch (·.withStop false)).updateApplication
      fun application =>
        { application with worker := some task, phase := .running })
  rw [filled] at named
  exact named.trans (List.suffix_cons _ _)

theorem start_journal (client : Client σ κ ν) (shared : Shared σ ν)
    (around : Surroundings) (stack : List (Frame κ)) :
    shared.journal <:+ (shared.start client around stack).shared.journal := by
  simp only [start]
  split
  · split
    · exact List.suffix_rfl
    · split
      · exact shared.launch_journal client stack _
      · split
        · exact List.suffix_rfl
        · rename_i task _ _ ending _
          have replaced :
              shared.journal <:+
                (shared.noticeReplaced task ending).journal := by
            cases ending with
            | finished => exact List.suffix_rfl
            | panicked payload => exact List.suffix_cons _ _
            | cancelled => exact List.suffix_cons _ _
          exact replaced.trans (launch_journal client _ stack _)
  · exact List.suffix_rfl
  · exact List.suffix_rfl

theorem stop_journal (shared : Shared σ ν) (stack : List (Frame κ)) :
    (shared.stop stack).shared.journal = shared.journal := by
  simp only [stop]
  split
  · split
    · rfl
    · split <;> rfl
  · rfl
  · rfl

theorem awaitTask_journal (client : Client σ κ ν) (shared : Shared σ ν)
    (around : Surroundings) (stack : List (Frame κ)) (task : ThreadId) :
    shared.journal <:+
      (shared.awaitTask client around stack task).shared.journal := by
  simp only [awaitTask]
  split
  · exact List.suffix_rfl
  · rename_i ending _
    have unlocked := shared.updateApplication_journal fun application =>
      { application with locked := false, phase := .stopped }
    rw [← unlocked]
    cases ending with
    | finished =>
        exact (askTypeName_journal client _).trans (List.suffix_cons _ _)
    | panicked payload => exact List.suffix_cons _ _
    | cancelled => exact List.suffix_cons _ _

theorem execute_journal (client : Client σ κ ν) (shared : Shared σ ν)
    (around : Surroundings) (stack : List (Frame κ))
    (instruction : Instruction) :
    shared.journal <:+
      (shared.execute client around stack instruction).shared.journal := by
  cases instruction with
  | perform request => exact shared.perform_journal client around stack request
  | call callback =>
      have called :=
        clientMove_journal (shared.record (.called callback)) stack
          (some callback)
        (client.begin callback shared.client)
      exact (List.suffix_cons _ _).trans called
  | push | begin | farewell => exact List.suffix_cons _ _
  | cycle cycle =>
      simp only [execute, serve]
      split
      · exact List.suffix_rfl
      · split
        · exact List.suffix_rfl
        · exact List.suffix_cons _ _
  | route entry cycle =>
      simp only [execute, route]
      split
      · split
        · exact List.suffix_rfl
        · exact List.suffix_cons _ _
      · split
        · exact List.suffix_rfl
        · exact List.suffix_cons _ _
  | check idle watch =>
      simp only [execute, check]
      split
      · exact List.suffix_rfl
      · cases shared.reportDue watch
        · exact List.suffix_rfl
        · exact List.suffix_cons _ _
  | await watch =>
      simp only [execute, await]
      split <;> exact List.suffix_rfl
  | parked watch =>
      simp only [execute, parked]
      split <;> exact List.suffix_rfl
  | create descriptor =>
      simp only [execute, create]
      split
      · exact List.suffix_cons _ _
      · exact List.suffix_rfl
  | insert descriptor stream =>
      simp only [execute, insert]
      split
      · exact List.suffix_rfl
      · exact (List.suffix_cons _ _).trans (List.suffix_cons _ _)
  | delete descriptor =>
      simp only [execute, delete]
      split
      · exact List.suffix_cons _ _
      · exact List.suffix_rfl
  | remove descriptor stream =>
      simp only [execute, remove]
      split
      · exact List.suffix_rfl
      · exact List.suffix_cons _ _
  | start => exact shared.start_journal client around stack
  | stop => exact (shared.stop_journal stack) ▸ List.suffix_rfl
  | awaitTask task => exact shared.awaitTask_journal client around stack task
  | join task =>
      simp only [execute, join]
      split <;> exact List.suffix_rfl
  | _ => exact List.suffix_rfl

theorem deliver_journal (client : Client σ κ ν) (shared : Shared σ ν)
    (stack : List (Frame κ)) (control : Control) (frame : Frame κ) :
    shared.journal <:+
      (shared.deliver client stack control frame).shared.journal := by
  simp only [deliver]
  split
  case h_1 | h_2 => exact shared.clientMove_journal stack _ _
  case h_8 descriptor reply =>
    cases reply.stream with
    | none => exact List.suffix_cons _ _
    | some stream => exact List.suffix_rfl
  case h_10 descriptor stream reply =>
    cases reply.accepted with
    | true => exact List.suffix_rfl
    | false => exact List.suffix_cons _ _
  case h_3 | h_5 | h_6 | h_12 => exact List.suffix_rfl
  all_goals exact List.suffix_cons _ _

/-- A move only adds to the journal. -/
theorem move_journal (client : Client σ κ ν) (shared : Shared σ ν)
    (around : Surroundings) (stack : List (Frame κ)) (control : Control) :
    shared.journal <:+
      (shared.move client around stack control).shared.journal := by
  simp only [move]
  split
  · exact shared.execute_journal client around stack _
  · split
    · exact List.suffix_rfl
    · exact shared.deliver_journal client _ _ _

end Shared

/-! ## What an occurrence does to a thread -/

namespace Instruction

/-- Whether a caller may give up where it has got to an instruction. -/
def canBeAbandoned : Instruction → Bool
  | .start | .stop | .join _ | .awaitTask _ => true
  | _ => false

/-- Whether a task may be cancelled where it has got to an instruction. -/
def canBeCancelled : Instruction → Bool
  | .begin | .parked _ => true
  | _ => false

end Instruction

/-- All that an occurrence can do to a thread that was there before. -/
inductive Thread.Changes (client : Client σ κ ν) (world : World σ κ ν)
    (self : ThreadId) (thread : Thread κ) : Occurrence κ → Thread κ → Prop
  | stays (occurrence : Occurrence κ) :
      Changes client world self thread occurrence thread
  | moves {turn : Turn σ κ ν}
      (turns : turn = world.shared.move client
        (world.surroundings self) thread.stack
        thread.control) :
      Changes client world self thread (.step self) ⟨thread.role, turn.stack,
        turn.control⟩
  | asked (request : Request) (free : thread.isFree = true) :
      Changes client world self thread (.request self request)
        { thread with control := .run (.perform request) }
  | handed (code : κ) (free : thread.isFree = true) :
      Changes client world self thread (.hand self code)
        { thread with
          stack := [.client none code]
          control := .answer .done }
  | abandoned {instruction : Instruction}
      (runs : thread.control = .run instruction)
      (waits : instruction.canBeAbandoned = true) :
      Changes client world self thread (.abandon self)
        { thread with control := .answer .abandoned }
  | cancelled {instruction : Instruction} (role : thread.role = .task)
      (runs : thread.control = .run instruction)
      (waits : instruction.canBeCancelled = true) :
      Changes client world self thread (.cancel self) ⟨.task, [], .cancelled⟩

namespace World

/-- A thread stays in its place, and only what happens to it changes it. -/
theorem Becomes.thread {client : Client σ κ ν} {world next : World σ κ ν}
    {occurrence : Occurrence κ} (becomes : Becomes client world occurrence next)
    {self : ThreadId} {thread : Thread κ}
    (found : world.threads[self]? = some thread) :
    ∃ later, next.threads[self]? = some later ∧
      thread.Changes client world self occurrence later := by
  -- Whoever is replaced is this thread or another one.
  have put {other : ThreadId} {old replacement : Thread κ}
      (stands : world.threads[other]? = some old) {occurrence : Occurrence κ}
      (changes : old.Changes client world other occurrence replacement) :
      ∃ later, (world.threads.set other replacement)[self]? = some later ∧
        thread.Changes client world self occurrence later := by
    by_cases same : self = other
    · subst same
      cases Option.some.inj (found.symm.trans stands)
      exact ⟨replacement, put_self found replacement, changes⟩
    · exact ⟨thread, (put_other same replacement).trans found, .stays _⟩
  cases becomes with
  | same | waited => exact ⟨thread, found, .stays _⟩
  | @moved other old stands =>
      by_cases same : self = other
      · subst same
        cases Option.some.inj (found.symm.trans stands)
        exact ⟨_, afterTurn_self found thread.role _, .moves rfl⟩
      · exact ⟨thread, afterTurn_other found same _ _, .stays _⟩
  | asked request stands free => exact put stands (.asked request free)
  | handed code stands free => exact put stands (.handed code free)
  | abandoned stands waits which =>
      refine put stands (.abandoned waits ?_)
      obtain rfl | rfl | ⟨task, rfl⟩ := which <;> rfl
  | stopAbandoned stands waits => exact put stands (.abandoned waits rfl)
  | cancelledFirst stands => exact put stands (.cancelled rfl rfl rfl)
  | cancelledParked stands => exact put stands (.cancelled rfl rfl rfl)

end World

/-- Whoever has an instruction to carry out has something left to do. -/
theorem Thread.isFree_of_run {thread : Thread κ} {instruction : Instruction}
    (runs : thread.control = .run instruction) : thread.isFree = false := by
  rw [isFree, ending?_of_run runs]
  exact Bool.and_false _

namespace Thread.Changes

variable {client : Client σ κ ν} {world : World σ κ ν} {self : ThreadId}
  {thread later : Thread κ} {occurrence : Occurrence κ}

/-- Roles are for life. -/
theorem role (changes : thread.Changes client world self occurrence later) :
    later.role = thread.role := by
  cases changes with
  | cancelled role => exact role.symm
  | _ => rfl

/-- A thread that carries out an instruction at which nobody waits goes on with
it by itself. -/
theorem of_run (changes : thread.Changes client world self occurrence later)
    {instruction : Instruction} (runs : thread.control = .run instruction)
    (firm : instruction.canBeAbandoned = false ∧
      instruction.canBeCancelled = false) :
    later = thread ∨
      occurrence = .step self ∧
        let turn :=
          world.shared.execute client (world.surroundings self) thread.stack
          instruction
        later = ⟨thread.role, turn.stack, turn.control⟩ := by
  have busy (free : thread.isFree = true) : False := by
    rw [isFree_of_run runs] at free
    cases free
  have same {other : Instruction} (runs' : thread.control = .run other) :
      other = instruction :=
    Control.run.inj (runs'.symm.trans runs)
  cases changes with
  | stays => exact .inl rfl
  | moves turns =>
      refine .inr ⟨rfl, ?_⟩
      rw [turns, runs]
      rfl
  | asked request free => exact (busy free).elim
  | handed code free => exact (busy free).elim
  | abandoned runs' waits =>
      rw [same runs', firm.1] at waits
      cases waits
  | cancelled role runs' waits =>
      rw [same runs', firm.2] at waits
      cases waits

/-- A frame stands on the stack of a thread until the thread itself hands it
what has arrived at it. -/
theorem of_frame (changes : thread.Changes client world self occurrence later)
    (fits : thread.Fits) {frame : Frame κ} {below : List (Frame κ)}
    (stands : frame :: below <:+ thread.stack) :
    frame :: below <:+ later.stack ∨
      occurrence = .step self ∧ thread.stack = frame :: below ∧
        (∀ instruction, thread.control ≠ .run instruction) ∧
          let turn := world.shared.deliver client below thread.control frame
          later = ⟨thread.role, turn.stack, turn.control⟩ := by
  have filled : thread.stack ≠ [] := by
    intro empty
    rw [empty] at stands
    exact List.cons_ne_nil _ _ (List.suffix_nil.mp stands)
  cases changes with
  | stays => exact .inl stands
  | moves turns =>
      rcases world.shared.move_suffix client
        (world.surroundings self) stands with
        stays | ⟨top, arrives, delivers⟩
      · rw [turns]
        exact .inl stays
      · rw [turns, delivers]
        exact .inr ⟨rfl, top, arrives, rfl⟩
  | asked request free => exact absurd (stack_of_isFree free) filled
  | handed code free => exact absurd (stack_of_isFree free) filled
  | abandoned runs waits => exact .inl stands
  | @cancelled instruction role runs waits =>
      simp only [Fits, runs] at fits
      cases instruction with
      | begin | parked => exact absurd fits filled
      | _ => cases waits

/-- What others do leaves a thread as it is that carries out an instruction at
which nobody waits. -/
theorem eq_of_run (changes : thread.Changes client world self occurrence later)
    {instruction : Instruction} (runs : thread.control = .run instruction)
    (firm : instruction.canBeAbandoned = false ∧
      instruction.canBeCancelled = false)
    (others : occurrence ≠ .step self) : later = thread := by
  rcases changes.of_run runs firm with same | ⟨steps, _⟩
  · exact same
  · exact absurd steps others

/-- What others do leaves a frame where it stands. -/
theorem suffix_of_others
    (changes : thread.Changes client world self occurrence later)
    (fits : thread.Fits) {frame : Frame κ} {below : List (Frame κ)}
    (stands : frame :: below <:+ thread.stack)
    (others : occurrence ≠ .step self) : frame :: below <:+ later.stack := by
  rcases changes.of_frame fits stands with stays | ⟨steps, _⟩
  · exact stays
  · exact absurd steps others

end Thread.Changes

/-- What has happened is not forgotten. -/
theorem World.Becomes.journal {client : Client σ κ ν} {world next : World σ κ ν}
    {occurrence : Occurrence κ}
    (becomes : World.Becomes client world occurrence next) :
    world.shared.journal <:+ next.shared.journal := by
  cases becomes with
  | moved found => exact world.shared.move_journal client _ _ _
  | stopAbandoned found waits =>
      exact (world.shared.updateApplication_journal _) ▸ List.suffix_rfl
  | _ => exact List.suffix_rfl

/-! ## Moments -/

namespace World

/-- The world to which the first occurrences of a run have led. -/
def upTo (client : Client σ κ ν) (world : World σ κ ν)
    (run : List (Occurrence κ)) (moment : Nat) : World σ κ ν :=
  world.follow client (run.take moment)

variable {client : Client σ κ ν} {world : World σ κ ν}
  {run : List (Occurrence κ)} {occurrence : Occurrence κ} {moment : Nat}

@[simp]
theorem upTo_zero : world.upTo client run 0 = world :=
  rfl

theorem upTo_length :
    world.upTo client run run.length = world.follow client run := by
  rw [upTo, List.take_length]

theorem upTo_succ (next : run[moment]? = some occurrence) :
    world.upTo client run (moment + 1) =
      (world.upTo client run moment).after client occurrence := by
  rw [upTo, List.take_add_one, next, follow, List.foldl_append]
  rfl

/-- Up to every moment the run was allowed, and so was what happened next. -/
theorem allowsAll_take (allowed : world.allowsAll client run = true)
    (moment : Nat) :
    world.allowsAll client (run.take moment) = true ∧
      ∀ occurrence, run[moment]? = some occurrence →
        (world.upTo client run moment).allows occurrence = true := by
  induction run generalizing world moment with
  | nil =>
      exact ⟨by rw [List.take_nil]; rfl, fun occurrence next => by cases next⟩
  | cons first rest inductionHypothesis =>
      rw [allowsAll, Bool.and_eq_true] at allowed
      cases moment with
      | zero =>
          refine ⟨rfl, fun occurrence next => ?_⟩
          cases next
          exact allowed.1
      | succ moment =>
          rcases inductionHypothesis allowed.2 moment with ⟨before, now⟩
          refine ⟨?_, now⟩
          rw [List.take_succ_cons, allowsAll, Bool.and_eq_true]
          exact ⟨allowed.1, before⟩

theorem follow_append (former latter : List (Occurrence κ)) :
    world.follow client (former ++ latter) =
      (world.follow client former).follow client latter :=
  List.foldl_append

theorem allowsAll_append (former latter : List (Occurrence κ)) :
    world.allowsAll client (former ++ latter) =
      (world.allowsAll client former && (world.follow client former).allowsAll
        client latter) := by
  induction former generalizing world with
  | nil => rfl
  | cons occurrence rest inductionHypothesis =>
      rw [List.cons_append, allowsAll, allowsAll, inductionHypothesis,
        Bool.and_assoc]
      rfl

/-- From one moment of a run a run leads to every later one. -/
theorem upTo_onward (allowed : world.allowsAll client run = true)
    {earlier later : Nat} (order : earlier ≤ later) :
    ∃ middle, (world.upTo client run earlier).allowsAll client middle = true ∧
      (world.upTo client run earlier).follow client middle =
        world.upTo client run later := by
  have parts :
      run.take earlier ++ (run.take later).drop earlier = run.take later := by
    conv_rhs =>
      rw [← List.take_append_drop earlier (run.take later), List.take_take,
        Nat.min_eq_left order]
  have whole := (allowsAll_take allowed later).1
  rw [← parts, allowsAll_append, Bool.and_eq_true] at whole
  refine ⟨(run.take later).drop earlier, whole.2, ?_⟩
  rw [upTo, upTo, ← follow_append, parts]

/-- What has happened is not forgotten, however the run goes on. -/
theorem follow_journal (allowed : world.allowsAll client run = true) :
    world.shared.journal <:+ (world.follow client run).shared.journal := by
  induction run generalizing world with
  | nil => exact List.suffix_rfl
  | cons occurrence rest inductionHypothesis =>
      rw [allowsAll, Bool.and_eq_true] at allowed
      exact (after_becomes client allowed.1).journal.trans
        (inductionHypothesis allowed.2)

/-- What has happened up to a moment is not forgotten up to a later one. -/
theorem journal_upTo (allowed : world.allowsAll client run = true)
    {earlier later : Nat} (order : earlier ≤ later) :
    (world.upTo client run earlier).shared.journal <:+
      (world.upTo client run later).shared.journal := by
  rcases upTo_onward allowed order with ⟨rest, allowed', leads⟩
  rw [← leads]
  exact follow_journal allowed'

end World

/-- Every moment of a run from a reachable world is reachable. -/
theorem Reachable.upTo {client : Client σ κ ν} {world : World σ κ ν}
    (reachable : Reachable client world) {run : List (Occurrence κ)}
    (allowed : world.allowsAll client run = true) (moment : Nat) :
    Reachable client (world.upTo client run moment) :=
  reachable.follow (World.allowsAll_take allowed moment).1

/-- What happens to a thread between two moments of a run. -/
theorem World.changes_at {client : Client σ κ ν} {world : World σ κ ν}
    {run : List (Occurrence κ)} (allowed : world.allowsAll client run = true)
    {moment : Nat} (inside : moment < run.length) {self : ThreadId}
    {thread : Thread κ}
    (found : (world.upTo client run moment).threads[self]? = some thread) :
    ∃ later,
      (world.upTo client run (moment + 1)).threads[self]? = some later ∧
        thread.Changes client
          (world.upTo client run moment) self run[moment] later := by
  have next : run[moment]? = some run[moment] := List.getElem?_eq_getElem inside
  rw [upTo_succ next]
  exact (after_becomes client ((allowsAll_take allowed moment).2 _ next)).thread
    found

/-- What a thread does that moves at a moment of a run. -/
theorem World.steps_at {client : Client σ κ ν} {world : World σ κ ν}
    {run : List (Occurrence κ)} {moment : Nat} {self : ThreadId}
    {thread : Thread κ} (steps : run[moment]? = some (.step self))
    (found : (world.upTo client run moment).threads[self]? = some thread) :
    let now := world.upTo client run moment
    let turn :=
      now.shared.move client (now.surroundings self) thread.stack thread.control
    (world.upTo client run (moment + 1)).shared = turn.shared ∧
      (world.upTo client run (moment + 1)).threads[self]? =
        some ⟨thread.role, turn.stack, turn.control⟩ := by
  rw [upTo_succ steps]
  exact step_self client found

end Switchboard
