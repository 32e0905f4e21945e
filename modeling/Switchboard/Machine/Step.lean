import Switchboard.Machine.Lifecycle
import Switchboard.Machine.Loop
import Switchboard.Machine.Routing
import Switchboard.Machine.Streams
import Switchboard.Machine.Submission

/-!
# Steps of the machine

A step moves one thread by one instruction, or hands a reply, an answer or a
panic to the frame on top of its stack.  A frame that does not wait for what
arrives is left; in this way a panic unwinds to the client code that made the
request, or to the guard around the routing of an item.  A thread that has to
wait stays as it is.
-/

namespace Switchboard

variable {σ κ ν : Type}

namespace Shared

/-- What a look at the switchboard shows; nothing once it is closed. -/
def view (shared : Shared σ ν) (around : Surroundings) : Answer :=
  let view (phase : Option Phase) (taskEnded : Option Bool) : Answer :=
    .view
      { identity := shared.identity
        settings := shared.settings
        snapshot := shared.dispatcher.snapshot
        registry := shared.registry
        stopRequested := shared.dispatcher.stopRequested
        phase := phase
        taskEnded := taskEnded }
  match shared.host with
  | .application application => view (some application.phase) none
  | .alone task => view none (task.map fun task => (around.ending? task).isSome)
  | .closed => .unavailable

/-- The first step of a request. -/
def perform (client : Client σ κ ν) (shared : Shared σ ν)
    (around : Surroundings) (stack : List (Frame κ)) (request : Request) :
    Turn σ κ ν :=
  match request, shared.host with
  | _, .closed => .answer shared stack .unavailable
  | .submit item, _ => .run shared stack (.stamp item)
  | .inspect, _ => .answer shared stack (shared.view around)
  | .create descriptor, .application _ => .run shared stack (.create descriptor)
  | .delete descriptor, .application _ => .run shared stack (.delete descriptor)
  | .start, .application _ => .run shared stack .start
  | .stop, .application _ => .run shared stack .stop
  | .typeName, .application _ =>
      let (name, named) := askTypeName client shared
      .answer named stack (.typeName name)
  | .close, .application _ => shared.close stack
  | .dispatchOnce, .alone _ => .run shared stack (.cycle (.fresh .answer))
  | .requestStop, .alone _ => shared.requestStop stack
  | .register id stream, .alone _ => shared.register stack id stream
  | .unregister id, .alone _ => shared.unregister stack id
  | .spawn, .alone none => shared.spawn stack around.fresh
  | .join, .alone (some task) => .run shared stack (.join task)
  | _, _ => .answer shared stack .unavailable

/-- Let client code make its move.  What it leaves in the journal comes before
the move. -/
def clientMove (shared : Shared σ ν) (stack : List (Frame κ))
    (callback : Option Callback) (turn : ClientTurn σ κ ν) : Turn σ κ ν :=
  let noted : Shared σ ν :=
    { shared with
      client := turn.state
      journal := (turn.notes.map .noted).reverse ++ shared.journal }
  let ended (happening : Callback → Happening ν) : Shared σ ν :=
    (callback.map happening).elim noted noted.record
  match turn.move with
  | .perform request next =>
      .run noted (.client callback next :: stack) (.perform request)
  | .finish reply => .pass (ended (.returned · reply)) stack (.reply reply)
  | .panic payload => .pass (ended (.panicked · payload)) stack (.raise payload)

/-- Carry out an instruction. -/
def execute (client : Client σ κ ν) (shared : Shared σ ν)
    (around : Surroundings) (stack : List (Frame κ)) : Instruction → Turn σ κ ν
  | .perform request => shared.perform client around stack request
  | .call callback =>
      (shared.record (.called callback)).clientMove stack (some callback)
        (client.begin callback shared.client)
  | .answer answer => .answer shared stack answer
  | .stamp item => shared.stamp stack item
  | .push item => shared.push stack item
  | .signal _ next => shared.signal stack next
  | .cycle cycle => shared.serve stack cycle
  | .route entry cycle =>
      shared.route
        (fun session => client.holds shared.client session ||
          around.keeps session)
        stack entry cycle
  | .begin => shared.begin stack
  | .check idle watch => shared.check stack idle watch
  | .await watch => shared.await stack around.self watch
  | .parked watch => shared.parked stack around.self watch
  | .recheck watch => shared.recheck stack watch
  | .leave => shared.leave stack
  | .farewell => shared.farewell stack
  | .create descriptor => shared.create stack descriptor
  | .insert descriptor stream => shared.insert stack descriptor stream
  | .delete descriptor => shared.delete stack descriptor
  | .remove descriptor stream => shared.remove stack descriptor stream
  | .start => shared.start client around stack
  | .stop => shared.stop stack
  | .awaitTask task => shared.awaitTask client around stack task
  | .join task => shared.join around stack task

/-- Hand a control other than an instruction to the frame on top of the stack,
which is left in any case. -/
def deliver (client : Client σ κ ν) (shared : Shared σ ν)
    (stack : List (Frame κ)) (control : Control) (frame : Frame κ) :
    Turn σ κ ν :=
  match frame, control with
  | .client callback state, .answer answer =>
      shared.clientMove stack callback
        (client.resume state (.answered answer) shared.client)
  | .client callback state, .raise payload =>
      shared.clientMove stack callback
        (client.resume state (.panicked payload) shared.client)
  | .sending _ kind _ cycle, .reply _ => shared.frameSent stack kind cycle
  | .sending seq kind streamId cycle, .raise payload =>
      shared.frameLost stack seq kind streamId payload cycle
  | .receiving _ _ cycle, .reply _ => shared.packetReceived stack cycle
  | .receiving seq session cycle, .raise payload =>
      shared.packetLost stack seq session payload cycle
  | .reporting seq _ payload cycle, .reply reply =>
      shared.packetReported stack seq reply.number payload cycle
  | .creating descriptor, .reply reply =>
      shared.built stack descriptor reply.stream
  | .losing descriptor error, .reply _ => shared.lost stack descriptor error
  | .releasing descriptor stream, .reply reply =>
      shared.released stack descriptor stream reply.accepted
  | .stopping descriptor, .reply _ => shared.deleted stack descriptor
  | _, _ => .pass shared stack control

/-- One move of a thread with the given stack and control. -/
def move (client : Client σ κ ν) (shared : Shared σ ν) (around : Surroundings)
    (stack : List (Frame κ)) (control : Control) : Turn σ κ ν :=
  match control with
  | .run instruction => shared.execute client around stack instruction
  | control =>
      match stack with
      | [] => .pass shared [] control
      | frame :: rest => shared.deliver client rest control frame

end Shared

namespace World

/-- Write a thread's move back into the world, together with the task that it
may have spawned. -/
def afterTurn (world : World σ κ ν) (thread : ThreadId) (role : Role)
    (turn : Turn σ κ ν) : World σ κ ν where
  shared := turn.shared
  threads :=
    world.threads.set thread
      { role := role
        stack := turn.stack
        control := turn.control } ++
      (if turn.spawned then [Thread.dispatch] else [])

/-- One step of a thread. -/
def step (client : Client σ κ ν) (world : World σ κ ν) (thread : ThreadId) :
    World σ κ ν :=
  match world.threads[thread]? with
  | none => world
  | some moving =>
      world.afterTurn thread moving.role
        (world.shared.move client (world.surroundings thread) moving.stack
          moving.control)

end World

end Switchboard
