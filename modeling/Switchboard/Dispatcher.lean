import Switchboard.Queue
import Switchboard.Stats
import Switchboard.Stream.Descriptor
import Switchboard.Wake

/-!
# The dispatcher

Producers submit items; each goes to the queue of its own channel and signals
the wake event.  The functions of this file are the single steps that no other
thread can interrupt: stamping, pushing, signalling and popping.  A submission
is the first three of them in a row.
-/

namespace Switchboard

/-- Client sessions are told apart by their handles, as stream objects are. -/
abbrev SessionHandle := Nat

/-- What waits to be routed: a frame for the stream that its descriptor names,
or raw data for a session.  A frame travels as the kind of media it was
submitted as, whatever its packet says. -/
inductive Item where
  | frame (kind : MediaKind) (descriptor : Descriptor) (packet : MediaPacket)
  | packet (session : SessionHandle) (data : Bytes)
  deriving DecidableEq

namespace Item

/-- The channel on which an item travels. -/
def channel : Item → Channel
  | frame kind _ _ => kind.channel
  | packet _ _ => .packets

/-- A one-line account of a queued packet: whether its session still lives, and
the number of bytes. -/
def packetText (alive : Bool) (data : Bytes) : String :=
  "PacketItem \x7b session_alive: " ++ (if alive then "true" else "false") ++
    ", len: " ++ toString data.length ++ " \x7d"

end Item

/-- One queue for each channel. -/
structure Queues where
  video : Queue Item
  audio : Queue Item
  packets : Queue Item

namespace Queues

/-- No queue has seen a push. -/
def empty : Queues where
  video := .empty
  audio := .empty
  packets := .empty

/-- The queue of a channel. -/
def get (queues : Queues) : Channel → Queue Item
  | .video => queues.video
  | .audio => queues.audio
  | .packets => queues.packets

/-- Replace the queue of a channel. -/
def set (queues : Queues) (channel : Channel) (queue : Queue Item) : Queues :=
  match channel with
  | .video => { queues with video := queue }
  | .audio => { queues with audio := queue }
  | .packets => { queues with packets := queue }

@[simp]
theorem get_set_self (queues : Queues) (channel : Channel)
    (queue : Queue Item) : (queues.set channel queue).get channel = queue := by
  cases channel <;> rfl

theorem get_set_of_ne (queues : Queues) {channel other : Channel}
    (queue : Queue Item) (differs : other ≠ channel) :
    (queues.set channel queue).get other = queues.get other := by
  cases channel <;> cases other <;> simp_all [get, set]

end Queues

/-- The queues, the wake event, the stop flag and the counters. -/
structure Dispatcher where
  queues : Queues
  wake : Wake
  stopRequested : Bool
  counters : Counters

namespace Dispatcher

/-- A dispatcher to which nothing has been submitted. -/
def new : Dispatcher where
  queues := .empty
  wake := .idle
  stopRequested := false
  counters := .zero

instance : Inhabited Dispatcher :=
  ⟨new⟩

/-- Remember the timestamp of a frame whose track is known. -/
def stamp (dispatcher : Dispatcher) : Item → Dispatcher
  | .frame kind descriptor packet =>
      match descriptor.presentationMillis? packet with
      | some millis =>
          { dispatcher with
            counters := dispatcher.counters.stamped millis kind }
      | none => dispatcher
  | .packet _ _ => dispatcher

/-- The entry that the next push of an item makes. -/
def nextEntry (dispatcher : Dispatcher) (item : Item) : Sequenced Item where
  seq := (dispatcher.queues.get item.channel).nextSeq
  item := item

/-- Append an item to the queue of its channel. -/
def push (dispatcher : Dispatcher) (item : Item) : Dispatcher :=
  { dispatcher with
    queues :=
      dispatcher.queues.set item.channel
        ((dispatcher.queues.get item.channel).push item) }

/-- Signal the wake event. -/
def signal (dispatcher : Dispatcher) : Dispatcher :=
  { dispatcher with wake := dispatcher.wake.signal }

/-- A whole submission that nothing interrupts. -/
def submit (dispatcher : Dispatcher) (item : Item) : Dispatcher :=
  ((dispatcher.stamp item).push item).signal

/-- Take the oldest item of a channel. -/
def pop? (dispatcher : Dispatcher) (channel : Channel) :
    Option (Sequenced Item × Dispatcher) :=
  ((dispatcher.queues.get channel).pop?).map fun (entry, rest) =>
    (entry, { dispatcher with queues := dispatcher.queues.set channel rest })

/-- Raise or lower the stop flag. -/
def withStop (dispatcher : Dispatcher) (requested : Bool) : Dispatcher :=
  { dispatcher with stopRequested := requested }

/-- Change the counters. -/
def count (dispatcher : Dispatcher) (update : Counters → Counters) :
    Dispatcher :=
  { dispatcher with counters := update dispatcher.counters }

/-- Change the wake event. -/
def withWake (dispatcher : Dispatcher) (update : Wake → Wake) : Dispatcher :=
  { dispatcher with wake := update dispatcher.wake }

/-- How many items wait on each channel. -/
def depths (dispatcher : Dispatcher) : Depths where
  video := dispatcher.queues.video.size.toUInt64
  audio := dispatcher.queues.audio.size.toUInt64
  packets := dispatcher.queues.packets.size.toUInt64

/-- The counters together with the queue depths. -/
def snapshot (dispatcher : Dispatcher) : Snapshot where
  depths := dispatcher.depths
  counters := dispatcher.counters

end Dispatcher

end Switchboard
