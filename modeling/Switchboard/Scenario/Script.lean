import Switchboard.Client

/-!
# Scripts

A scenario is driven by operations.  Some are requests to the switchboard, some
look at it, and some prepare the stand-ins for streams, sessions and hooks: how
they fail, and which operations they carry out when they are called.  A script
is a list of operations that the next call of one callback carries out.
-/

namespace Switchboard.Scenario

/-- How a stand-in panics: with a fixed text, with a text that names the place,
or with a payload that is no text. -/
inductive Fault where
  | fixed
  | naming
  | textless
  deriving DecidableEq

namespace Fault

/-- The payload of a panic at a named place. -/
def payload (fault : Fault) (place : String) : Payload :=
  match fault with
  | fixed => .text "static panic"
  | naming => .text (place ++ " \"failed\"")
  | textless => .other

end Fault

/-- How a stream fails in each of its three callbacks. -/
structure StreamFaults where
  video : Option Fault
  audio : Option Fault
  stop : Option Fault

namespace StreamFaults

/-- A stream that never fails. -/
def none : StreamFaults where
  video := .none
  audio := .none
  stop := .none

/-- How a stream fails on frames of one kind. -/
def onFrame (faults : StreamFaults) : MediaKind → Option Fault
  | .video => faults.video
  | .audio => faults.audio

end StreamFaults

/-- A change to how the hooks behave.  The last two override the id and the name
of the streams that are built. -/
inductive FlagChange where
  | rejectDelete (value : Bool)
  | failCreate (value : Bool)
  | panicCreate (fault : Option Fault)
  | panicDelete (fault : Option Fault)
  | streamId (id : Option UInt32)
  | streamName (name : Option String)

/-- A callback of one stand-in, as the place where a script waits. -/
inductive Place where
  | create (streamId : Nat)
  | delete (streamId : Nat)
  | stop (handle : Nat)
  | video (handle : Nat)
  | audio (handle : Nat)
  | packet (session : SessionHandle)
  deriving DecidableEq

namespace Place

/-- Where the script for a frame of one kind waits. -/
def frame (kind : MediaKind) (handle : Nat) : Place :=
  match kind with
  | .video => .video handle
  | .audio => .audio handle

end Place

/-- Several frames of one track, evenly spaced.  A decoding timestamp, if there
is one, holds for all of them. -/
structure Burst where
  kind : MediaKind
  track : UInt32
  pts : Int64
  dts : Option Int64
  data : Bytes
  keyframe : Bool
  count : Nat
  step : Int64

namespace Burst

/-- One packet of a burst. -/
def packet (burst : Burst) (index : Nat) : MediaPacket :=
  let pts := burst.pts + Int64.ofNat index * burst.step
  match burst.kind with
  | .video =>
      .video burst.track pts (burst.dts.getD pts) burst.data burst.keyframe
  | .audio => .audio burst.track pts burst.data

/-- All packets of a burst. -/
def packets (burst : Burst) : List MediaPacket :=
  (List.range burst.count).map burst.packet

end Burst

/-- The operations of a scenario.  `settle` and `killRuntime` act on the machine
as a whole and are not meant for scripts. -/
inductive Op where
  | settle
  | killRuntime
  | script (place : Option Place) (ops : List Op)
  | set (changes : List FlagChange)
  | behave (handle : Nat) (faults : StreamFaults)
  | stream (handle : Nat)
  | dropSession (session : SessionHandle)
  | dropPublisher
  | frames (kind : MediaKind) (descriptor : Descriptor) (burst : Burst)
  | packets (session : SessionHandle) (data : Bytes) (count : Nat)
  | stats
  | start
  | stop
  | create (descriptor : Descriptor)
  | delete (descriptor : Descriptor)
  | get (id : UInt32)
  | getByName (name : String)
  | streams
  | phase
  | typeName
  | identity
  | hookCalls
  | dropApplication
  | insert (id : UInt32) (name : String)
  | remove (id : UInt32)
  | dispatchOnce
  | drain
  | requestStop
  | spawn
  | finished
  | join

instance : Inhabited Op :=
  ⟨.settle⟩

namespace Op

/-- The name of an operation. -/
def name : Op → String
  | settle => "settle"
  | killRuntime => "kill_runtime"
  | script .. => "script"
  | set .. => "set"
  | behave .. => "behave"
  | stream .. => "stream"
  | dropSession .. => "drop_session"
  | dropPublisher => "drop_publisher"
  | frames kind .. => kind.name
  | packets .. => "packet"
  | stats => "stats"
  | start => "start"
  | stop => "stop"
  | create .. => "create"
  | delete .. => "delete"
  | get .. => "get"
  | getByName .. => "get_by_name"
  | streams => "streams"
  | phase => "state"
  | typeName => "type_name"
  | identity => "identity"
  | hookCalls => "handler"
  | dropApplication => "drop_app"
  | insert .. => "insert"
  | remove .. => "remove"
  | dispatchOnce => "dispatch_once"
  | drain => "drain"
  | requestStop => "request_stop"
  | spawn => "spawn"
  | finished => "finished"
  | join => "join"

/-- Whether an operation has the executor run tasks until something is
reached. -/
def runsTasks : Op → Bool
  | settle | stop | join => true
  | _ => false

mutual

/-- A bound on what an operation can set going: itself, the items it submits,
and everything in its script. -/
def weight : Op → Nat
  | script _ ops => 1 + weights ops
  | frames _ _ burst => 1 + burst.count
  | packets _ _ count => 1 + count
  | _ => 1

/-- The weight of a list of operations. -/
def weights : List Op → Nat
  | [] => 0
  | op :: rest => weight op + weights rest

end

end Op

end Switchboard.Scenario
