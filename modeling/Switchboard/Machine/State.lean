import Switchboard.Client

/-!
# States of the switchboard machine

Several threads work on one shared state: callers, which are client code, and
the dispatch tasks.  A thread has a control, which says what happens next on
it, and a stack of frames that wait for a callback to reply or for a request to
be answered.  An instruction is a step that no other thread can interrupt;
between two instructions any other thread may move.
-/

namespace Switchboard

/-- What happens when a cycle has served its channels: the caller is told, the
dispatch loop goes on, or the drain goes on. -/
inductive AfterCycle where
  | answer
  | loop (watch : Nat)
  | drain
  deriving DecidableEq

/-- A dispatch cycle in progress: the channels yet to be served, and whether
one of the others gave an item. -/
structure Cycle where
  remaining : List Channel
  productive : Bool
  after : AfterCycle
  deriving DecidableEq

namespace Cycle

/-- A cycle that has not begun. -/
def fresh (after : AfterCycle) : Cycle where
  remaining := Channel.all
  productive := false
  after := after

end Cycle

/-- The steps of the switchboard.  A signal follows either the push of an entry
or, when it names none, a stop request.  The dispatch loop runs from `begin` to
`farewell`; `watch` is the time of its last report. -/
inductive Instruction where
  | perform (request : Request)
  | call (callback : Callback)
  | answer (answer : Answer)
  | stamp (item : Item)
  | push (item : Item)
  | signal (entry : Option (Sequenced Item)) (next : Instruction)
  | cycle (cycle : Cycle)
  | route (entry : Sequenced Item) (cycle : Cycle)
  | begin
  | check (idle : Bool) (watch : Nat)
  | await (watch : Nat)
  | parked (watch : Nat)
  | recheck (watch : Nat)
  | leave
  | farewell
  | create (descriptor : Descriptor)
  | insert (descriptor : Descriptor) (stream : Stream)
  | delete (descriptor : Descriptor)
  | remove (descriptor : Descriptor) (stream : Stream)
  | start
  | stop
  | awaitTask (task : ThreadId)
  | join (task : ThreadId)

/-- What happens next on a thread: an instruction, a reply on its way from a
callback, an answer on its way to client code, or a panic on its way out.  The
last is for a task that was cancelled. -/
inductive Control where
  | run (instruction : Instruction)
  | reply (reply : Reply)
  | answer (answer : Answer)
  | raise (payload : Payload)
  | cancelled

/-- What a thread comes back to.  Client code waits for an answer; all other
frames wait for the reply to a callback. -/
inductive Frame (κ : Type) where
  | client (callback : Option Callback) (state : κ)
  | sending (seq : UInt64) (kind : MediaKind) (streamId : UInt32)
      (cycle : Cycle)
  | receiving (seq : UInt64) (session : SessionHandle) (cycle : Cycle)
  | reporting (seq : UInt64) (session : SessionHandle) (payload : Payload)
      (cycle : Cycle)
  | creating (descriptor : Descriptor)
  | losing (descriptor : Descriptor) (error : RegistryError)
  | releasing (descriptor : Descriptor) (stream : Stream)
  | stopping (descriptor : Descriptor)
  deriving DecidableEq

namespace Frame

/-- Whether a frame keeps a session alive. -/
def keeps {κ : Type} (session : SessionHandle) : Frame κ → Bool
  | receiving _ kept _ => kept = session
  | reporting _ kept _ _ => kept = session
  | _ => false

end Frame

/-- Callers come from outside, tasks are spawned by the switchboard. -/
inductive Role where
  | caller
  | task
  deriving DecidableEq

/-- A thread of the machine. -/
structure Thread (κ : Type) where
  role : Role
  stack : List (Frame κ)
  control : Control

namespace Thread

variable {κ : Type}

/-- A caller that has asked for nothing yet. -/
def idle : Thread κ where
  role := .caller
  stack := []
  control := .answer .done

/-- A dispatch task that has not run its first step. -/
def dispatch : Thread κ where
  role := .task
  stack := []
  control := .run .begin

/-- How a thread ended; nothing while it has something left to do.  It is
assumed that the runtime knows of the end of a task from this moment on. -/
def ending? (thread : Thread κ) : Option Ending :=
  match thread.stack, thread.control with
  | [], .reply _ => some .finished
  | [], .answer _ => some .finished
  | [], .raise payload => some (.panicked payload)
  | [], .cancelled => some .cancelled
  | _, _ => none

/-- Whether a thread is in the middle of routing data to a session. -/
def keeps (thread : Thread κ) (session : SessionHandle) : Bool :=
  thread.stack.any (Frame.keeps session)

end Thread

/-- What the machine remembers of its past: entries that come into the queues
and leave them, callbacks and how they ended, answers to the question for the
display name with the publisher's own name at that time, notices, and the notes
of clients. -/
inductive Happening (ν : Type) where
  | submitted (entry : Sequenced Item)
  | drained (entry : Sequenced Item)
  | called (callback : Callback)
  | returned (callback : Callback) (reply : Reply)
  | panicked (callback : Callback) (payload : Payload)
  | named (publisher : Option String) (name : String)
  | noticed (notice : Notice)
  | noted (note : ν)
  deriving DecidableEq

/-- Whom requests address: an application, a dispatcher that stands alone with
the task that was spawned last and not joined, or nobody any more. -/
inductive Host where
  | application (application : Application)
  | alone (task : Option ThreadId)
  | closed
  deriving DecidableEq

/-- What all threads work on.  The journal has the newest happening first, and
the clock counts milliseconds. -/
structure Shared (σ ν : Type) where
  identity : Identity
  settings : Settings
  host : Host
  dispatcher : Dispatcher
  registry : Registry
  clock : Nat
  client : σ
  journal : List (Happening ν)

namespace Shared

variable {σ ν : Type}

/-- The state before anything has happened. -/
def new (identity : Identity) (settings : Settings) (host : Host) (client : σ) :
    Shared σ ν where
  identity := identity
  settings := settings
  host := host
  dispatcher := .new
  registry := .empty
  clock := 0
  client := client
  journal := []

/-- Enter a happening in the journal. -/
def record (shared : Shared σ ν) (happening : Happening ν) : Shared σ ν :=
  { shared with journal := happening :: shared.journal }

/-- Log a notice. -/
def notice (shared : Shared σ ν) (notice : Notice) : Shared σ ν :=
  shared.record (.noticed notice)

/-- Change the dispatcher. -/
def dispatch (shared : Shared σ ν) (update : Dispatcher → Dispatcher) :
    Shared σ ν :=
  { shared with dispatcher := update shared.dispatcher }

/-- Change the counters. -/
def count (shared : Shared σ ν) (update : Counters → Counters) : Shared σ ν :=
  shared.dispatch (·.count update)

end Shared

/-- What a thread sees of the others while it moves: its own number, the number
that the next spawned thread gets, how other threads ended, and which sessions
are kept alive by routing in progress. -/
structure Surroundings where
  self : ThreadId
  fresh : ThreadId
  ending? : ThreadId → Option Ending
  keeps : SessionHandle → Bool

/-- The result of a move: the shared state, the thread's stack and control, and
whether a dispatch task was spawned. -/
structure Turn (σ κ ν : Type) where
  shared : Shared σ ν
  stack : List (Frame κ)
  control : Control
  spawned : Bool

namespace Turn

variable {σ κ ν : Type}

/-- Leave a thread with the given stack and control. -/
def pass (shared : Shared σ ν) (stack : List (Frame κ)) (control : Control) :
    Turn σ κ ν where
  shared := shared
  stack := stack
  control := control
  spawned := false

/-- Go on with an instruction. -/
def run (shared : Shared σ ν) (stack : List (Frame κ))
    (instruction : Instruction) :
    Turn σ κ ν :=
  pass shared stack (.run instruction)

/-- Answer the request that is being worked on. -/
def answer (shared : Shared σ ν) (stack : List (Frame κ)) (answer : Answer) :
    Turn σ κ ν :=
  pass shared stack (.answer answer)

/-- Call client code and wait in the given frame for its reply. -/
def call (shared : Shared σ ν) (stack : List (Frame κ)) (frame : Frame κ)
    (callback : Callback) : Turn σ κ ν :=
  run shared (frame :: stack) (.call callback)

end Turn

/-- The shared state and all threads, by number. -/
structure World (σ κ ν : Type) where
  shared : Shared σ ν
  threads : List (Thread κ)

namespace World

variable {σ κ ν : Type}

/-- A world with some callers that have asked for nothing yet. -/
def new (shared : Shared σ ν) (callers : Nat) : World σ κ ν where
  shared := shared
  threads := List.replicate callers .idle

/-- How a thread ended. -/
def ending? (world : World σ κ ν) (thread : ThreadId) : Option Ending :=
  world.threads[thread]?.bind Thread.ending?

/-- What a thread sees of the others. -/
def surroundings (world : World σ κ ν) (self : ThreadId) : Surroundings where
  self := self
  fresh := world.threads.length
  ending? := world.ending?
  keeps session := world.threads.any (·.keeps session)

end World

end Switchboard
