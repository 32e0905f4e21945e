import Switchboard.Machine.Step

/-!
# Running the machine

A world changes by the steps of its threads and by what happens to it from
outside: a caller is given something to do, gives up a call it waits for, tasks
are cancelled, or time passes.

On a single processor the thread with the least number that can move does so, so
that callers go before tasks.  When nobody can move, a task gives up the call of
a callback that waits for the task itself: a `start` or `stop` that finds the
slot locked by a `stop` of this very task, or such a `stop` of its own.

A task is cancelled by the runtime when this goes down, and only where the task
is suspended.  That is before its first step, and at its wait.  A task may also
be suspended while it looks a stream up, if somebody else has the registry
locked just then; cancellation at that point is left out.  It would take the
frame in hand with it, uncounted, and is like a cancellation at the wait in all
that concerns `start` and `stop`.
-/

namespace Switchboard

variable {σ κ ν : Type}

namespace World

/-- Replace a thread. -/
def setThread (world : World σ κ ν) (thread : ThreadId)
    (update : Thread κ → Thread κ) :
    World σ κ ν :=
  { world with threads := world.threads.modify thread update }

/-- A caller makes a request. -/
def request (world : World σ κ ν) (caller : ThreadId) (request : Request) :
    World σ κ ν :=
  world.setThread caller fun thread =>
    { thread with control := .run (.perform request) }

/-- A caller runs client code, which begins as if it had been answered. -/
def hand (world : World σ κ ν) (caller : ThreadId) (code : κ) : World σ κ ν :=
  world.setThread caller fun thread =>
    { thread with
      stack := [.client none code]
      control := .answer .done }

/-- Time passes. -/
def wait (world : World σ κ ν) (millis : Nat) : World σ κ ν :=
  { world with
    shared := { world.shared with clock := world.shared.clock + millis } }

/-- Whether an instruction can be carried out now. -/
def ready (world : World σ κ ν) (self : ThreadId) : Instruction → Bool
  | .parked _ => world.shared.dispatcher.wake.hasSignalled self
  | .start => !world.shared.locked
  | .stop => !world.shared.locked
  | .awaitTask task => (world.ending? task).isSome
  | .join task => (world.ending? task).isSome
  | _ => true

/-- Whether a thread can move. -/
def canMove (world : World σ κ ν) (self : ThreadId) : Bool :=
  match world.threads[self]? with
  | none => false
  | some thread =>
      match thread.control with
      | .run instruction => world.ready self instruction
      | _ => !thread.stack.isEmpty

/-- Whether a thread waits for the slot to be unlocked, or for its own end. -/
def waitsInVain (world : World σ κ ν) (self : ThreadId) : Bool :=
  match world.threads[self]? with
  | none => false
  | some thread =>
      match thread.control with
      | .run .start => world.shared.locked
      | .run .stop => world.shared.locked
      | .run (.awaitTask task) => task = self
      | _ => false

/-- A caller gives up the call it waits for.  Giving up a `stop` that waits for
its task unlocks the slot and leaves the task to itself. -/
def abandon (world : World σ κ ν) (thread : ThreadId) : World σ κ ν :=
  match (world.threads[thread]?).map Thread.control with
  | some (.run .start) | some (.run .stop) | some (.run (.join _)) =>
      world.setThread thread fun waiting =>
        { waiting with control := .answer .abandoned }
  | some (.run (.awaitTask _)) =>
      { shared :=
          world.shared.updateApplication fun application =>
            { application with locked := false }
        threads :=
          world.threads.modify thread fun waiting =>
            { waiting with control := .answer .abandoned } }
  | _ => world

/-- Cancel a task where it may be cancelled: before its first step, and while it
waits for the wake event. -/
def cancel (world : World σ κ ν) (task : ThreadId) : World σ κ ν :=
  match world.threads[task]? with
  | some ⟨.task, _, .run .begin⟩ =>
      { world with threads := world.threads.set task ⟨.task, [], .cancelled⟩ }
  | some ⟨.task, _, .run (.parked _)⟩ =>
      { shared := world.shared.dispatch (·.withWake (·.withdraw task))
        threads := world.threads.set task ⟨.task, [], .cancelled⟩ }
  | _ => world

/-- Cancel every task that has not ended. -/
def cancelAll (world : World σ κ ν) : World σ κ ν :=
  (List.range world.threads.length).foldl cancel world

/-- The thread that moves next on a single processor. -/
def next? (world : World σ κ ν) : Option ThreadId :=
  (List.range world.threads.length).find? world.canMove

/-- One move on a single processor; none when everything rests. -/
def advance? (client : Client σ κ ν) (world : World σ κ ν) :
    Option (World σ κ ν) :=
  match world.next? with
  | some thread => some (world.step client thread)
  | none =>
      ((List.range world.threads.length).find? world.waitsInVain).map
        world.abandon

/-- Whether a caller has nothing left to do. -/
def atRest (world : World σ κ ν) (caller : ThreadId) : Bool :=
  (world.ending? caller).isSome

/-- Move until the condition holds or everything rests, for a limited number of
moves. -/
def runUntil (client : Client σ κ ν) (reached : World σ κ ν → Bool) :
    Nat → World σ κ ν → World σ κ ν
  | 0, world => world
  | limit + 1, world =>
      if reached world then
        world
      else
        match world.advance? client with
        | none => world
        | some moved => runUntil client reached limit moved

/-- Move until a caller has nothing left to do. -/
def finish (client : Client σ κ ν) (limit : Nat) (caller : ThreadId)
    (world : World σ κ ν) : World σ κ ν :=
  world.runUntil client (·.atRest caller) limit

/-- Move until everything rests. -/
def settle (client : Client σ κ ν) (limit : Nat) (world : World σ κ ν) :
    World σ κ ν :=
  world.runUntil client (fun _ => false) limit

end World

end Switchboard
