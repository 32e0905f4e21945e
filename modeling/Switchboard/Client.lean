import Switchboard.Application
import Switchboard.Dispatcher
import Switchboard.Failure
import Switchboard.Log

/-!
# The boundary to client code

Streams, sessions and the hooks that build and release streams are not part of
the switchboard.  It calls them, and while a call lasts they may ask it for
anything that other callers may ask for.  This file fixes both directions: the
callbacks with their replies, and the requests with their answers.  A `Client`
is everything outside the switchboard, as a machine that answers a callback, or
a response to its own request, by its next move.

What a stream, a session or a publisher may do when it is destroyed is left out:
client code runs in its callbacks only.
-/

namespace Switchboard

/-- The calls that the switchboard makes into client code. -/
inductive Callback where
  | sendFrame (kind : MediaKind) (stream : Stream) (packet : MediaPacket)
  | receivePacket (session : SessionHandle) (data : Bytes)
  | sessionNumber (session : SessionHandle)
  | createStream (descriptor : Descriptor) (workers : Nat)
  | deleteStream (descriptor : Descriptor) (stream : Stream)
  | stopStream (stream : Stream)
  deriving DecidableEq

/-- What client code hands back from a callback.  Each callback reads the part
that concerns it: the stream that a creation has built, whether a deletion is
accepted, or the number of a session. -/
structure Reply where
  stream : Option Stream
  accepted : Bool
  number : UInt64
  deriving DecidableEq

namespace Reply

/-- The reply to a callback that asks for nothing. -/
def plain : Reply where
  stream := none
  accepted := true
  number := 0

instance : Inhabited Reply :=
  ⟨plain⟩

end Reply

/-- What client code may ask for.  The requests up to `close` address an
application; those from `dispatchOnce` to `join` address a dispatcher that
stands alone with its registry.  Everybody may submit and inspect. -/
inductive Request where
  | submit (item : Item)
  | inspect
  | create (descriptor : Descriptor)
  | delete (descriptor : Descriptor)
  | start
  | stop
  | typeName
  | close
  | dispatchOnce
  | requestStop
  | register (id : UInt32) (stream : Stream)
  | unregister (id : UInt32)
  | spawn
  | join
  deriving DecidableEq

/-- What a look at the switchboard shows. -/
structure View where
  identity : Identity
  settings : Settings
  snapshot : Snapshot
  registry : Registry
  stopRequested : Bool
  phase : Option Phase
  taskEnded : Option Bool
  deriving DecidableEq

/-- The outcome of a request.  A request that does not fit the state of its
addressee is `unavailable`; one that the caller stops waiting for is
`abandoned`. -/
inductive Answer where
  | done
  | unavailable
  | abandoned
  | view (view : View)
  | created (result : Except Failure Stream)
  | concluded (result : Except Failure Unit)
  | typeName (name : String)
  | cycled (productive : Bool)
  | registered (result : Except RegistryError Unit)
  | unregistered (result : Except RegistryError Stream)

/-- How a request came back to client code: with an answer, or by a panic that
went through the switchboard. -/
inductive Response where
  | answered (answer : Answer)
  | panicked (payload : Payload)

/-- The next move of client code. -/
inductive Move (κ : Type) where
  | perform (request : Request) (next : κ)
  | finish (reply : Reply)
  | panic (payload : Payload)

/-- One turn of client code: its new state, what it wants remembered, and its
move. -/
structure ClientTurn (σ κ ν : Type) where
  state : σ
  notes : List ν
  move : Move κ

/-- Everything outside the switchboard.  Its parts share a state of type `σ`;
`κ` is what a suspended callback remembers, and `ν` what client code leaves in
the journal.  `holds` says which sessions their owners still keep, and
`publisherName` is the name that the owning publisher gives, while there is
one. -/
structure Client (σ κ ν : Type) where
  begin : Callback → σ → ClientTurn σ κ ν
  resume : κ → Response → σ → ClientTurn σ κ ν
  holds : σ → SessionHandle → Bool
  publisherName : σ → Option String

end Switchboard
