import Switchboard.Media.Timebase
import Switchboard.Table

/-!
# Stream descriptors

A router announces a stream by a descriptor: an id, a name and the tracks that
make it up.  Every frame carries the descriptor of its stream, and the live
stream is looked up by the descriptor's id when the frame is routed.
-/

namespace Switchboard

/-- What the router announces about a stream. -/
structure Descriptor where
  id : UInt32
  name : String
  tracks : Table UInt32 Track
  deriving DecidableEq

namespace Descriptor

/-- A descriptor without tracks. -/
def new (id : UInt32) (name : String) : Descriptor where
  id := id
  name := name
  tracks := .empty

/-- Add a track; it replaces an earlier track with the same id. -/
def addTrack (descriptor : Descriptor) (track : Track) : Descriptor :=
  { descriptor with tracks := descriptor.tracks.insert track.id track }

/-- A descriptor whose tracks were added in the order of the list. -/
def ofTracks (id : UInt32) (name : String) (tracks : List Track) : Descriptor :=
  tracks.foldl addTrack (new id name)

/-- The track with the given id. -/
def track? (descriptor : Descriptor) (id : UInt32) : Option Track :=
  descriptor.tracks.find? id

/-- The tracks of one kind. -/
def tracksOf (descriptor : Descriptor) (kind : MediaKind) : List Track :=
  descriptor.tracks.values.filter fun track => track.kind = kind

/-- The number of tracks. -/
def trackCount (descriptor : Descriptor) : Nat :=
  descriptor.tracks.size

/-- A stream is named by its name and id, parted by a slash. -/
def text (descriptor : Descriptor) : String :=
  descriptor.name ++ "/" ++ toString descriptor.id

/-- When a packet of this stream is presented, in milliseconds; unknown for a
packet of a track that the descriptor does not list. -/
def presentationMillis? (descriptor : Descriptor) (packet : MediaPacket) :
    Option Int64 :=
  (descriptor.track? packet.track).map fun track =>
    track.timebase.toMillis packet.pts

theorem track?_addTrack_self (descriptor : Descriptor) (track : Track) :
    (descriptor.addTrack track).track? track.id = some track :=
  Table.find?_insert_self _ _ _

theorem track?_addTrack_of_ne (descriptor : Descriptor) (track : Track)
    {id : UInt32} (differs : id ≠ track.id) :
    (descriptor.addTrack track).track? id = descriptor.track? id :=
  Table.find?_insert_of_ne _ _ differs

end Descriptor

end Switchboard
