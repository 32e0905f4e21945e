import Switchboard.Media.Packet

/-!
# Counters

Every item that leaves a queue is counted once, as delivered on its channel or
as dropped.  The counters are 64-bit words.
-/

namespace Switchboard

/-- The three lines on which items wait and are routed. -/
inductive Channel where
  | video
  | audio
  | packets
  deriving DecidableEq

namespace Channel

/-- The channels in the order in which a cycle serves them. -/
def all : List Channel :=
  [video, audio, packets]

end Channel

namespace MediaKind

/-- The channel on which frames of a kind travel. -/
def channel : MediaKind → Channel
  | video => .video
  | audio => .audio

end MediaKind

/-- How many items wait on each channel. -/
structure Depths where
  video : UInt64
  audio : UInt64
  packets : UInt64
  deriving DecidableEq

namespace Depths

/-- The number of waiting items. -/
def total (depths : Depths) : UInt64 :=
  depths.video + depths.audio + depths.packets

end Depths

/-- What has been counted so far.  The last timestamps are those of the frames
submitted last whose track was known, in milliseconds, and `reports` counts the
reports on queue depths. -/
structure Counters where
  videoDelivered : UInt64
  audioDelivered : UInt64
  packetsDelivered : UInt64
  droppedFrames : UInt64
  droppedPackets : UInt64
  lastVideoMillis : Int64
  lastAudioMillis : Int64
  reports : UInt64
  deriving DecidableEq

namespace Counters

/-- Nothing has been counted. -/
def zero : Counters where
  videoDelivered := 0
  audioDelivered := 0
  packetsDelivered := 0
  droppedFrames := 0
  droppedPackets := 0
  lastVideoMillis := 0
  lastAudioMillis := 0
  reports := 0

instance : Inhabited Counters :=
  ⟨zero⟩

/-- Count a frame that its stream has taken. -/
def frameDelivered (counters : Counters) : MediaKind → Counters
  | .video => { counters with videoDelivered := counters.videoDelivered + 1 }
  | .audio => { counters with audioDelivered := counters.audioDelivered + 1 }

/-- Count a packet that its session has taken. -/
def packetDelivered (counters : Counters) : Counters :=
  { counters with packetsDelivered := counters.packetsDelivered + 1 }

/-- Count a frame that nobody has taken. -/
def frameDropped (counters : Counters) : Counters :=
  { counters with droppedFrames := counters.droppedFrames + 1 }

/-- Count a packet that nobody has taken. -/
def packetDropped (counters : Counters) : Counters :=
  { counters with droppedPackets := counters.droppedPackets + 1 }

/-- Count a report on queue depths. -/
def reported (counters : Counters) : Counters :=
  { counters with reports := counters.reports + 1 }

/-- Remember the timestamp of a frame. -/
def stamped (counters : Counters) (millis : Int64) : MediaKind → Counters
  | .video => { counters with lastVideoMillis := millis }
  | .audio => { counters with lastAudioMillis := millis }

/-- All items that nobody has taken. -/
def dropped (counters : Counters) : UInt64 :=
  counters.droppedFrames + counters.droppedPackets

/-- All items that have left the queues. -/
def drained (counters : Counters) : UInt64 :=
  counters.videoDelivered + counters.audioDelivered +
    counters.packetsDelivered +
    counters.droppedFrames + counters.droppedPackets

end Counters

/-- The counters and the queue depths at one moment. -/
structure Snapshot where
  depths : Depths
  counters : Counters
  deriving DecidableEq

end Switchboard
