/-!
# Media packets

The two kinds of media and the encoded packets in which a router hands them
over.  Timestamps count ticks of the track's own timebase.
-/

namespace Switchboard

/-- Raw data as it crosses the wire. -/
abbrev Bytes := List UInt8

/-- The kinds of media that a track carries. -/
inductive MediaKind where
  | video
  | audio
  deriving DecidableEq

namespace MediaKind

/-- The word used for a kind of media in texts and logs. -/
def name : MediaKind → String
  | video => "video"
  | audio => "audio"

end MediaKind

/-- An encoded frame of one track, on its way to a stream. -/
structure MediaPacket where
  track : UInt32
  kind : MediaKind
  pts : Int64
  dts : Int64
  data : Bytes
  keyframe : Bool
  deriving DecidableEq

namespace MediaPacket

/-- A video packet. -/
def video (track : UInt32) (pts dts : Int64) (data : Bytes) (keyframe : Bool) :
    MediaPacket where
  track := track
  kind := .video
  pts := pts
  dts := dts
  data := data
  keyframe := keyframe

/-- An audio packet is decoded when it is presented and is never a keyframe. -/
def audio (track : UInt32) (pts : Int64) (data : Bytes) : MediaPacket where
  track := track
  kind := .audio
  pts := pts
  dts := pts
  data := data
  keyframe := false

/-- The number of bytes of payload. -/
def size (packet : MediaPacket) : Nat :=
  packet.data.length

end MediaPacket

end Switchboard
