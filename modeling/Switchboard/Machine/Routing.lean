import Switchboard.Machine.State

/-!
# Routing

A cycle takes at most one item from each channel and routes it before it goes
on to the next channel.  A frame goes to the stream registered under its
descriptor's id at that moment, a packet to its session if that is still alive.
A panic of the receiver costs the item and nothing else, unless a second panic
follows on the way to the next channel: one of the session while its number is
asked for, or one of the payload while it is destroyed.  Such a panic leaves the
cycle.

A payload that is destroyed while the panic over a session's number unwinds is
not looked at: a further panic would end the whole program there.
-/

namespace Switchboard

namespace Cycle

/-- Count a channel as served. -/
def served (cycle : Cycle) (remaining : List Channel) (gave : Bool) : Cycle :=
  { cycle with remaining := remaining, productive := cycle.productive || gave }

/-- What comes after the last channel.  The loop waits after a cycle that found
nothing, and the drain ends with it. -/
def next (cycle : Cycle) : Instruction :=
  match cycle.after with
  | .answer => .answer (.cycled cycle.productive)
  | .loop watch => .check (!cycle.productive) watch
  | .drain => if cycle.productive then .cycle (fresh .drain) else .farewell

/-- How a cycle goes on when a payload that it has caught is destroyed.  That is
done outside the guard, so a panic of the destruction leaves the cycle. -/
def afterLoss (cycle : Cycle) (payload : Payload) : Control :=
  match payload.aftermath? with
  | none => .run (.cycle cycle)
  | some next => .raise next

end Cycle

namespace Shared

variable {σ κ ν : Type}

/-- Serve the next channel of a cycle. -/
def serve (shared : Shared σ ν) (stack : List (Frame κ)) (cycle : Cycle) :
    Turn σ κ ν :=
  match cycle.remaining with
  | [] => .run shared stack cycle.next
  | channel :: remaining =>
      match shared.dispatcher.pop? channel with
      | none => .run shared stack (.cycle (cycle.served remaining false))
      | some (entry, dispatcher) =>
          .run (({ shared with dispatcher := dispatcher }).record
            (.drained entry)) stack (.route entry (cycle.served remaining true))

/-- Route an entry that has just left its queue. -/
def route (shared : Shared σ ν) (alive : SessionHandle → Bool)
    (stack : List (Frame κ)) (entry : Sequenced Item) (cycle : Cycle) :
    Turn σ κ ν :=
  match entry.item with
  | .frame kind descriptor packet =>
      match shared.registry.find? descriptor.id with
      | some stream =>
          .call shared stack (.sending entry.seq kind descriptor.id cycle)
            (.sendFrame kind stream packet)
      | none =>
          .run ((shared.count .frameDropped).notice
            (.unknownStream kind descriptor.id entry.seq)) stack (.cycle cycle)
  | .packet session data =>
      if alive session then
        .call shared stack (.receiving entry.seq session cycle)
          (.receivePacket session data)
      else
        .run ((shared.count .packetDropped).notice (.closedSession entry.seq))
          stack
          (.cycle cycle)

/-- The stream has taken a frame. -/
def frameSent (shared : Shared σ ν) (stack : List (Frame κ)) (kind : MediaKind)
    (cycle : Cycle) : Turn σ κ ν :=
  .run (shared.count (·.frameDelivered kind)) stack (.cycle cycle)

/-- The stream panicked over a frame. -/
def frameLost (shared : Shared σ ν) (stack : List (Frame κ)) (seq : UInt64)
    (kind : MediaKind) (streamId : UInt32) (payload : Payload) (cycle : Cycle) :
    Turn σ κ ν :=
  .pass ((shared.count .frameDropped).notice
    (.streamPanicked kind streamId seq payload))
    stack (cycle.afterLoss payload)

/-- The session has taken a packet. -/
def packetReceived (shared : Shared σ ν) (stack : List (Frame κ))
    (cycle : Cycle) :
    Turn σ κ ν :=
  .run (shared.count .packetDelivered) stack (.cycle cycle)

/-- The session panicked over a packet; its number is wanted for the log. -/
def packetLost (shared : Shared σ ν) (stack : List (Frame κ)) (seq : UInt64)
    (session : SessionHandle) (payload : Payload) (cycle : Cycle) :
    Turn σ κ ν :=
  .call (shared.count .packetDropped) stack
    (.reporting seq session payload cycle) (.sessionNumber session)

/-- The number of the session that panicked is known. -/
def packetReported (shared : Shared σ ν) (stack : List (Frame κ))
    (seq number : UInt64) (payload : Payload) (cycle : Cycle) : Turn σ κ ν :=
  .pass (shared.notice (.sessionPanicked number seq payload)) stack
    (cycle.afterLoss payload)

end Shared

end Switchboard
