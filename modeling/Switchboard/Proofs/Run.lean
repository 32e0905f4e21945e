import Mathlib.Data.List.Basic
import Switchboard.Machine.Run

/-!
# Runs of the machine

A run is any order of occurrences: single steps of threads, requests of callers
that have nothing left to do, time that passes, calls that are given up, and
tasks that are cancelled.  A world is reachable if a run leads to it from a
world in which nothing has happened.  A run is orderly if one thread at a time
is in the middle of something.
-/

namespace Switchboard

variable {σ κ ν : Type}

deriving instance DecidableEq for Answer, Instruction, Control, Thread

/-- What can happen to a world. -/
inductive Occurrence (κ : Type) where
  | step (thread : ThreadId)
  | request (caller : ThreadId) (request : Request)
  | hand (caller : ThreadId) (code : κ)
  | wait (millis : Nat)
  | abandon (thread : ThreadId)
  | cancel (task : ThreadId)

namespace Thread

/-- A caller that has nothing left to do. -/
def isFree (thread : Thread κ) : Bool :=
  thread.role = .caller && thread.ending?.isSome

/-- Whether a thread is between two operations: it has nothing left to do, has
not run its first step, or waits for something. -/
def isSuspended (thread : Thread κ) : Bool :=
  match thread.control with
  | .run .begin | .run (.parked _) | .run .start | .run .stop | .run
      (.awaitTask _)
  | .run (.join _) => true
  | .run _ => false
  | _ => thread.stack.isEmpty

/-- Whether a thread waits for the wake event. -/
def isParked (thread : Thread κ) : Bool :=
  match thread.control with
  | .run (.parked _) => true
  | _ => false

/-- A thread has ended when nothing waits on its stack and it has no instruction
to carry out. -/
theorem isSome_ending?_iff {thread : Thread κ} :
    thread.ending?.isSome = true ↔
      thread.stack = [] ∧ ∀ instruction, thread.control ≠ .run instruction := by
  rcases thread with ⟨role, stack, control⟩
  cases stack <;> cases control <;> simp [ending?]

theorem ending?_of_run {thread : Thread κ} {instruction : Instruction}
    (runs : thread.control = .run instruction) : thread.ending? = none := by
  rcases thread with ⟨role, stack, control⟩
  cases runs
  cases stack <;> rfl

theorem stack_of_isFree {thread : Thread κ} (free : thread.isFree = true) :
    thread.stack = [] := by
  simp only [isFree] at free
  rw [Bool.and_eq_true] at free
  exact (isSome_ending?_iff.mp free.2).1

end Thread

namespace World

/-- Nothing has happened: an application was never started, or a dispatcher
stands alone and has no task. -/
inductive IsOpening : World σ κ ν → Prop
  | application (identity : Identity) (settings : Settings) (client : σ)
      (callers : Nat) :
      IsOpening
        (.new (.new identity settings (.application .new) client) callers)
  | alone (identity : Identity) (settings : Settings) (client : σ)
      (callers : Nat) :
      IsOpening (.new (.new identity settings (.alone none) client) callers)

/-- What an occurrence leads to. -/
def after (client : Client σ κ ν) (world : World σ κ ν) :
    Occurrence κ → World σ κ ν
  | .step thread => world.step client thread
  | .request caller request => world.request caller request
  | .hand caller code => world.hand caller code
  | .wait millis => world.wait millis
  | .abandon thread => world.abandon thread
  | .cancel task => world.cancel task

/-- Only a caller with nothing left to do is given something to do. -/
def allows (world : World σ κ ν) : Occurrence κ → Bool
  | .request caller _ | .hand caller _ =>
      (world.threads[caller]?).any Thread.isFree
  | _ => true

/-- Whether all threads but one are between two operations. -/
def othersSuspended (world : World σ κ ν) (self : ThreadId) : Bool :=
  (List.range world.threads.length).all fun other =>
    other = self || (world.threads[other]?).all Thread.isSuspended

/-- One thing at a time: a thread moves while all others are between two
operations, and anything else happens while all threads are. -/
def isOrderly (world : World σ κ ν) : Occurrence κ → Bool
  | .step thread => world.othersSuspended thread
  | _ => world.threads.all Thread.isSuspended

/-- Replace a thread. -/
def put (world : World σ κ ν) (thread : ThreadId) (replacement : Thread κ) :
    World σ κ ν :=
  { world with threads := world.threads.set thread replacement }

end World

/-- The worlds to which runs lead, whatever the order of occurrences. -/
inductive Reachable (client : Client σ κ ν) : World σ κ ν → Prop
  | opening {world : World σ κ ν} : world.IsOpening → Reachable client world
  | occur {world : World σ κ ν} (occurrence : Occurrence κ) :
      Reachable client world → world.allows occurrence = true →
      Reachable client (world.after client occurrence)

namespace World

/-- What occurrences lead to, one after the other. -/
def follow (client : Client σ κ ν) (world : World σ κ ν)
    (occurrences : List (Occurrence κ)) :
    World σ κ ν :=
  occurrences.foldl (after client) world

/-- Whether each of the occurrences is allowed when its turn comes. -/
def allowsAll (client : Client σ κ ν) (world : World σ κ ν) :
    List (Occurrence κ) → Bool
  | [] => true
  | occurrence :: rest =>
      world.allows occurrence &&
        (world.after client occurrence).allowsAll client rest

end World

/-- A run goes on from where another has led. -/
theorem Reachable.follow {client : Client σ κ ν} {world : World σ κ ν}
    (reachable : Reachable client world) {occurrences : List (Occurrence κ)}
    (allowed : world.allowsAll client occurrences = true) :
    Reachable client (world.follow client occurrences) := by
  induction occurrences generalizing world with
  | nil => exact reachable
  | cons occurrence rest inductionHypothesis =>
      rw [World.allowsAll, Bool.and_eq_true] at allowed
      exact inductionHypothesis (reachable.occur occurrence allowed.1) allowed.2

namespace World

/-! ## What an occurrence changes -/

/-- All that an occurrence can do to a world. -/
inductive Becomes (client : Client σ κ ν) (world : World σ κ ν) :
    Occurrence κ → World σ κ ν → Prop
  | same (occurrence : Occurrence κ) : Becomes client world occurrence world
  | moved {self : ThreadId} {thread : Thread κ}
      (found : world.threads[self]? = some thread) :
      Becomes client world (.step self)
        (world.afterTurn self thread.role
          (world.shared.move client
            (world.surroundings self) thread.stack thread.control))
  | asked {caller : ThreadId} {thread : Thread κ} (request : Request)
      (found : world.threads[caller]? = some thread)
      (free : thread.isFree = true) :
      Becomes client world (.request caller request)
        (world.put caller { thread with control := .run (.perform request) })
  | handed {caller : ThreadId} {thread : Thread κ} (code : κ)
      (found : world.threads[caller]? = some thread)
      (free : thread.isFree = true) :
      Becomes client world (.hand caller code)
        (world.put caller
          { thread with
            stack := [.client none code]
            control := .answer .done })
  | waited (millis : Nat) :
      Becomes client world (.wait millis) (world.wait millis)
  | abandoned {self : ThreadId} {thread : Thread κ} {instruction : Instruction}
      (found : world.threads[self]? = some thread)
      (waits : thread.control = .run instruction)
      (which : instruction = .start ∨ instruction = .stop ∨
        ∃ task, instruction = .join task) :
      Becomes client world (.abandon self)
        (world.put self { thread with control := .answer .abandoned })
  | stopAbandoned {self task : ThreadId} {thread : Thread κ}
      (found : world.threads[self]? = some thread)
      (waits : thread.control = .run (.awaitTask task)) :
      Becomes client world (.abandon self)
        (World.put
          { world with
            shared :=
              world.shared.updateApplication fun application =>
                { application with locked := false } }
          self { thread with control := .answer .abandoned })
  | cancelledFirst {task : ThreadId} {stack : List (Frame κ)}
      (found : world.threads[task]? = some ⟨.task, stack, .run .begin⟩) :
      Becomes client world (.cancel task)
        (world.put task ⟨.task, [], .cancelled⟩)
  | cancelledParked {task : ThreadId} {stack : List (Frame κ)} {watch : Nat}
      (found : world.threads[task]? =
        some ⟨.task, stack, .run (.parked watch)⟩) :
      Becomes client world (.cancel task)
        (World.put
          { world with shared :=
            world.shared.dispatch (·.withWake (·.withdraw task)) }
          task ⟨.task, [], .cancelled⟩)

theorem step_of_some {client : Client σ κ ν} {world : World σ κ ν}
    {self : ThreadId} {thread : Thread κ}
    (found : world.threads[self]? = some thread) :
    world.step client self =
      world.afterTurn self thread.role
        (world.shared.move client (world.surroundings self) thread.stack
          thread.control) := by
  simp only [step, found]

/-- The thread that has moved. -/
theorem afterTurn_self {world : World σ κ ν} {self : ThreadId}
    {thread : Thread κ} (found : world.threads[self]? = some thread)
    (role : Role) (turn : Turn σ κ ν) :
    (world.afterTurn self role turn).threads[self]? =
      some ⟨role, turn.stack, turn.control⟩ := by
  have inside := (List.getElem?_eq_some_iff.mp found).1
  simp only [afterTurn]
  rw [List.getElem?_append_left (by rwa [List.length_set]),
    List.getElem?_set_self inside]

/-- A thread that has not moved. -/
theorem afterTurn_other {world : World σ κ ν} {self other : ThreadId}
    {thread : Thread κ} (found : world.threads[other]? = some thread)
    (differs : other ≠ self) (role : Role) (turn : Turn σ κ ν) :
    (world.afterTurn self role turn).threads[other]? = some thread := by
  have inside := (List.getElem?_eq_some_iff.mp found).1
  simp only [afterTurn]
  rw [List.getElem?_append_left (by rwa [List.length_set]),
    List.getElem?_set_ne (Ne.symm differs), found]

/-- After a move a thread has moved, is as it was, or is a new task. -/
theorem afterTurn_cases {world : World σ κ ν} {self other : ThreadId}
    {role : Role} {turn : Turn σ κ ν} {thread : Thread κ}
    (found : (world.afterTurn self role turn).threads[other]? = some thread) :
    (other = self ∧ thread = ⟨role, turn.stack, turn.control⟩) ∨
      (other ≠ self ∧ world.threads[other]? = some thread) ∨
      (turn.spawned = true ∧ other = world.threads.length ∧
        thread = .dispatch) := by
  unfold afterTurn at found
  dsimp only at found
  rw [List.getElem?_append] at found
  split at found
  · rw [List.getElem?_set] at found
    split at found
    · rename_i same
      split at found
      · exact .inl ⟨same.symm, (Option.some.inj found).symm⟩
      · cases found
    · rename_i differs
      exact .inr (.inl ⟨fun same => differs same.symm, found⟩)
  · rename_i beyond
    rw [List.length_set] at beyond found
    split at found
    · rename_i spawned
      rcases List.getElem?_eq_some_iff.mp found with ⟨first, new⟩
      have last : other - world.threads.length = 0 := Nat.lt_one_iff.mp first
      simp only [List.getElem_singleton] at new
      exact .inr
        (.inr ⟨spawned, Nat.le_antisymm (Nat.sub_eq_zero_iff_le.mp last)
        (Nat.not_lt.mp beyond), new.symm⟩)
    · cases found

/-- The task that a turn has spawned stands at the end. -/
theorem afterTurn_spawned {world : World σ κ ν} {self : ThreadId} {role : Role}
    {turn : Turn σ κ ν} (spawned : turn.spawned = true) :
    (world.afterTurn self role turn).threads[world.threads.length]? =
      some .dispatch := by
  unfold afterTurn
  dsimp only
  rw [if_pos spawned, List.getElem?_append_right (Nat.le_of_eq List.length_set),
    List.length_set, Nat.sub_self]
  rfl

theorem step_self (client : Client σ κ ν) {world : World σ κ ν}
    {self : ThreadId} {thread : Thread κ}
    (found : world.threads[self]? = some thread) :
    let turn :=
      world.shared.move client
        (world.surroundings self) thread.stack thread.control
    (world.step client self).shared = turn.shared ∧
      (world.step client self).threads[self]? =
        some ⟨thread.role, turn.stack, turn.control⟩ := by
  rw [step_of_some found]
  exact ⟨rfl, afterTurn_self found thread.role _⟩

theorem put_self {world : World σ κ ν} {self : ThreadId} {thread : Thread κ}
    (found : world.threads[self]? = some thread) (replacement : Thread κ) :
    (world.put self replacement).threads[self]? = some replacement :=
  List.getElem?_set_self (List.getElem?_eq_some_iff.mp found).1

theorem put_other {world : World σ κ ν} {self other : ThreadId}
    (differs : other ≠ self) (replacement : Thread κ) :
    (world.put self replacement).threads[other]? = world.threads[other]? :=
  List.getElem?_set_ne (Ne.symm differs)

theorem setThread_of_some {world : World σ κ ν} {self : ThreadId}
    {thread : Thread κ} (update : Thread κ → Thread κ)
    (found : world.threads[self]? = some thread) :
    world.setThread self update = world.put self (update thread) := by
  simp [setThread, put, List.modify_eq_set_getElem?, found]

private theorem exists_free {world : World σ κ ν} {caller : ThreadId}
    (free : (world.threads[caller]?).any Thread.isFree = true) :
    ∃ thread, world.threads[caller]? = some thread ∧ thread.isFree = true := by
  rw [Option.any_eq_true] at free
  exact free

private theorem abandon_becomes (client : Client σ κ ν) (world : World σ κ ν)
    (self : ThreadId) :
    Becomes client world (.abandon self) (world.abandon self) := by
  cases found : world.threads[self]? with
  | none =>
      simp only [abandon, found, Option.map_none]
      exact .same _
  | some thread =>
      simp only [abandon, found, Option.map_some]
      split
      · rename_i waits
        rw [setThread_of_some _ found]
        exact .abandoned found (Option.some.inj waits) (.inl rfl)
      · rename_i waits
        rw [setThread_of_some _ found]
        exact .abandoned found (Option.some.inj waits) (.inr (.inl rfl))
      · rename_i waits
        rw [setThread_of_some _ found]
        exact .abandoned found (Option.some.inj waits) (.inr (.inr ⟨_, rfl⟩))
      · rename_i waits
        have modified := List.modify_eq_set_getElem?
          (fun waiting : Thread κ =>
            { waiting with control := .answer .abandoned })
          self world.threads
        rw [found] at modified
        rw [modified]
        exact .stopAbandoned found (Option.some.inj waits)
      · exact .same _

private theorem cancel_becomes (client : Client σ κ ν) (world : World σ κ ν)
    (task : ThreadId) :
    Becomes client world (.cancel task) (world.cancel task) := by
  simp only [cancel]
  split
  · rename_i found
    exact .cancelledFirst found
  · rename_i found
    exact .cancelledParked found
  · exact .same _

/-- An occurrence does nothing but what is listed. -/
theorem after_becomes (client : Client σ κ ν) {world : World σ κ ν}
    {occurrence : Occurrence κ} (allowed : world.allows occurrence = true) :
    Becomes client world occurrence (world.after client occurrence) := by
  cases occurrence with
  | step self =>
      cases found : world.threads[self]? with
      | none =>
          simp only [after, step, found]
          exact .same _
      | some thread =>
          simp only [after, step_of_some found]
          exact .moved found
  | request caller request =>
      rcases exists_free allowed with ⟨thread, found, free⟩
      simp only [after, World.request, setThread_of_some _ found]
      exact .asked request found free
  | hand caller code =>
      rcases exists_free allowed with ⟨thread, found, free⟩
      simp only [after, hand, setThread_of_some _ found]
      exact .handed code found free
  | wait millis => exact .waited millis
  | abandon self => exact abandon_becomes client world self
  | cancel task => exact cancel_becomes client world task

/-- The threads after an occurrence are those before it, up to one that has
moved or was given something to do, gave up or was cancelled, and a new task. -/
theorem Becomes.forall_threads {client : Client σ κ ν}
    {world next : World σ κ ν} {occurrence : Occurrence κ}
    {holds : Thread κ → Prop} (becomes : Becomes client world occurrence next)
    (all : ∀ thread ∈ world.threads, holds thread)
    (moved : ∀ (self : ThreadId) (thread : Thread κ),
      occurrence = .step self → world.threads[self]? = some thread →
        holds thread →
      let turn :=
        world.shared.move client (world.surroundings self) thread.stack
          thread.control
      holds ⟨thread.role, turn.stack, turn.control⟩)
    (spawned : holds .dispatch)
    (asked : ∀ (thread : Thread κ) (request : Request), thread.isFree = true →
      holds { thread with control := .run (.perform request) })
    (handed : ∀ (thread : Thread κ) (code : κ), thread.isFree = true →
      holds
        { thread with stack := [.client none code], control := .answer .done })
    (abandoned : ∀ (thread : Thread κ) (instruction : Instruction),
      thread.control = .run instruction →
      (instruction = .start ∨ instruction = .stop ∨
        (∃ task, instruction = .join task) ∨
        ∃ task, instruction = .awaitTask task) →
      holds thread → holds { thread with control := .answer .abandoned })
    (cancelled : holds ⟨.task, [], .cancelled⟩) :
    ∀ thread ∈ next.threads, holds thread := by
  have put {self : ThreadId} {replacement : Thread κ}
      (new : holds replacement) :
      ∀ thread ∈ world.threads.set self replacement, holds thread := by
    intro thread member
    rcases List.mem_or_eq_of_mem_set member with old | rfl
    · exact all thread old
    · exact new
  cases becomes with
  | same => exact all
  | @moved self thread found =>
      intro other member
      rcases List.mem_append.mp member with old | new
      · exact put
          (moved self thread rfl found
            (all thread (List.mem_of_getElem? found)))
          other old
      · split at new
        · rw [List.mem_singleton.mp new]
          exact spawned
        · exact absurd new List.not_mem_nil
  | asked request found free => exact put (asked _ request free)
  | handed code found free => exact put (handed _ code free)
  | waited millis => exact all
  | abandoned found waits which =>
      refine put (abandoned _ _ waits ?_ (all _ (List.mem_of_getElem? found)))
      rcases which with start | stop | join
      · exact .inl start
      · exact .inr (.inl stop)
      · exact .inr (.inr (.inl join))
  | stopAbandoned found waits =>
      exact put (abandoned _ _ waits (.inr (.inr (.inr ⟨_, rfl⟩)))
        (all _ (List.mem_of_getElem? found)))
  | cancelledFirst found => exact put cancelled
  | cancelledParked found => exact put cancelled

/-- What every move of a thread keeps holds after any number of its steps. -/
theorem follow_steps {client : Client σ κ ν}
    {holds : Shared σ ν → List (Frame κ) → Control → Prop} {self : ThreadId}
    {role : Role}
    (moves : ∀ (shared : Shared σ ν) (around : Surroundings)
      (stack : List (Frame κ)) (control : Control), around.self = self →
        holds shared stack control →
      let turn := shared.move client around stack control
      holds turn.shared turn.stack turn.control)
    (number : Nat) {world : World σ κ ν} {stack : List (Frame κ)}
    {control : Control}
    (found : world.threads[self]? = some ⟨role, stack, control⟩)
    (held : holds world.shared stack control) :
    let after := world.follow client (List.replicate number (.step self))
    ∃ stack control, after.threads[self]? = some ⟨role, stack, control⟩ ∧
      holds after.shared stack control := by
  induction number generalizing world stack control with
  | zero => exact ⟨stack, control, found, held⟩
  | succ number inductionHypothesis =>
      have moved :=
        moves world.shared (world.surroundings self) stack control rfl held
      rcases step_self client found with ⟨shared, stepped⟩
      refine inductionHypothesis stepped ?_
      rw [after, shared]
      exact moved

end World

/-! ## Three clients -/

/-- Client code all of whose callbacks panic. -/
def Client.panicking : Client Unit Unit Unit where
  begin _ state :=
    { state := state
      notes := []
      move := .panic .other }
  resume _ _ state :=
    { state := state
      notes := []
      move := .finish .plain }
  holds _ _ := true
  publisherName _ := none

/-- Client code that takes everything, keeps every session, and asks for
nothing. -/
def Client.accepting : Client Unit Unit Unit where
  begin _ state :=
    { state := state
      notes := []
      move := .finish .plain }
  resume _ _ state :=
    { state := state
      notes := []
      move := .finish .plain }
  holds _ _ := true
  publisherName _ := none

/-- Client code that takes everything but frames, and keeps every session.  Its
streams panic over a frame, with a payload whose destruction panics. -/
def Client.bursting : Client Unit Unit Unit where
  begin callback state :=
    { state := state
      notes := []
      move :=
        match callback with
        | .sendFrame _ _ _ => .panic (.fragile .other)
        | .createStream _ _ =>
            .finish { Reply.plain with stream := some ⟨0, "camera"⟩ }
        | _ => .finish .plain }
  resume _ _ state :=
    { state := state
      notes := []
      move := .finish .plain }
  holds _ _ := true
  publisherName _ := none

end Switchboard
