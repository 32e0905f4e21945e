import Switchboard.Machine.Run

/-!
# A publisher that logs what it receives

A small program around the switchboard.  A router feeds two cameras with video
and audio for ninety rounds of 33 milliseconds each, a session sends a packet
every ten rounds, and the second camera is deleted in the middle.  Streams and
session do nothing but write to the log.
-/

namespace Switchboard.Demo

/-- A stream that counts its frames. -/
structure Camera where
  descriptor : Descriptor
  frames : UInt64

/-- The streams that were built, by handle. -/
structure Studio where
  cameras : List Camera

namespace Studio

/-- The frames that a stream has counted. -/
def frames (studio : Studio) (stream : Stream) : UInt64 :=
  (studio.cameras[stream.handle]?).elim 0 Camera.frames

/-- The text that names a stream. -/
def text (studio : Studio) (stream : Stream) : String :=
  (studio.cameras[stream.handle]?).elim "" fun camera => camera.descriptor.text

/-- Count one more frame of a stream. -/
def countFrame (studio : Studio) (stream : Stream) : Studio where
  cameras :=
    studio.cameras.modify stream.handle fun camera =>
      { camera with frames := camera.frames + 1 }

end Studio

/-- The settings of the demonstration. -/
def settings : Settings :=
  Settings.standard.withThreadCount 2 |>.withSegments 4 2
    |>.withCrossDomain "https://player.example.com" |>.withReportInterval 1000
    |>.withDrainOnStop true

/-- The identity of the demonstration. -/
def identity : Identity where
  id := 1
  name := "live"

/-- The handle and the number of the only session. -/
def session : SessionHandle × UInt64 :=
  (0, 100)

/-- The line about a frame that a stream has taken. -/
def frameEntry (stream : String) (kind : MediaKind) (packet : MediaPacket)
    (count : UInt64) : LogEntry where
  level := .debug
  message := kind.name
  fields :=
    match kind with
    | .video =>
        [("stream", .text stream), ("pts", .number packet.pts.toInt),
          ("keyframe", .flag packet.keyframe), ("n", .word64 count)]
    | .audio =>
        [("stream", .text stream), ("pts", .number packet.pts.toInt),
          ("n", .word64 count)]

/-- The line about a stream that is about to be built. -/
def creationEntry (stream : String) (workers : Nat) : LogEntry where
  level := .info
  message := "Creating stream"
  fields :=
    [("stream", .text stream), ("workers", .number workers),
      ("segments", .word32 settings.segmentCount),
      ("segment_secs", .word32 settings.segmentSeconds),
      ("cross_domains", .text (Text.quotedList settings.crossDomains))]

/-- The line about a stream that goes. -/
def farewellEntry (message stream : String) (frames : UInt64) : LogEntry where
  level := .info
  message := message
  fields := [("stream", .text stream), ("frames", .word64 frames)]

/-- The line about a packet from the session. -/
def packetEntry (data : Bytes) : LogEntry where
  level := .debug
  message := "packet"
  fields := [("session_id", .word64 session.2), ("len", .number data.length)]

/-- Every callback writes its line and replies. -/
def answerCallback (callback : Callback) (studio : Studio) :
    ClientTurn Studio Unit LogEntry :=
  let finish (state : Studio) (notes : List LogEntry) (reply : Reply) :
      ClientTurn Studio Unit LogEntry :=
    { state := state
      notes := notes
      move := .finish reply }
  match callback with
  | .sendFrame kind stream packet =>
      let counted := studio.countFrame stream
      finish counted
        [frameEntry (studio.text stream) kind packet (counted.frames stream)]
          .plain
  | .receivePacket _ data => finish studio [packetEntry data] .plain
  | .sessionNumber _ =>
      finish studio [] { Reply.plain with number := session.2 }
  | .createStream descriptor workers =>
      finish { cameras := studio.cameras ++ [⟨descriptor, 0⟩] }
        [creationEntry descriptor.text workers]
        { Reply.plain with
          stream := some ⟨studio.cameras.length, descriptor.name⟩ }
  | .deleteStream descriptor stream =>
      finish studio
        [farewellEntry "Releasing stream" descriptor.text
          (studio.frames stream)] .plain
  | .stopStream stream =>
      finish studio
        [farewellEntry "Stream stopped" (studio.text stream)
          (studio.frames stream)] .plain

/-- Streams, session and hooks of the demonstration.  They ask for nothing. -/
def client : Client Studio Unit LogEntry where
  begin := answerCallback
  resume _ _ studio :=
    { state := studio
      notes := []
      move := .finish .plain }
  holds _ held := held = session.1
  publisherName _ := some "Log"

/-- What the program around the switchboard does: it asks, or it sleeps. -/
inductive Action where
  | ask (request : Request)
  | sleep (millis : Nat)

/-- The two cameras that the router announces. -/
def cameras : List Descriptor :=
  [1, 2].map fun id =>
    .ofTracks id ("camera" ++ toString id) [.video 0, .audio 1 48000]

/-- The frames that every camera sends in one round. -/
def frames (camera : Descriptor) (round : Nat) : List Action :=
  let ticks := Int64.ofNat round
  [.ask (.submit (.frame .video camera
      (.video 0 (ticks * 3000) (ticks * 3000) [0x41] (round % 30 = 0)))),
    .ask (.submit
      (.frame .audio camera (.audio 1 (ticks * 1600) [0xff, 0xf1])))]

/-- One round of the demonstration. -/
def round (number : Nat) : List Action :=
  cameras.flatMap (frames · number) ++
    (if number % 10 = 0 then
      [.ask (.submit (.packet session.1 [0x80, 0xc8]))] else []) ++
    (if number = 45 then
      (cameras.drop 1).map fun camera => .ask (.delete camera) else []) ++
    [.sleep 33]

/-- The whole program. -/
def program : List Action :=
  [.ask .start] ++ cameras.map (fun camera => .ask (.create camera)) ++
    (List.range 90).flatMap round ++ [.ask .stop]

/-- The world of the demonstration. -/
abbrev Stage := World Studio Unit LogEntry

/-- The world before the program begins. -/
def opening : Stage :=
  .new (.new identity settings (.application .new) { cameras := [] }) 1

/-- More moves than the program can set going. -/
def limit : Nat :=
  64 * program.length

/-- Carry out an action.  While the program sleeps the dispatch task moves until
it rests, and then the time has passed. -/
def perform (stage : Stage) : Action → Stage
  | .ask request => (stage.request 0 request).finish client limit 0
  | .sleep millis => (stage.settle client limit).wait millis

/-- Whether the last request of the program failed. -/
def failed (stage : Stage) : Bool :=
  match (stage.threads[0]?).map Thread.control with
  | some (.answer (.created (.error _))) => true
  | some (.answer (.concluded (.error _))) => true
  | _ => false

/-- Carry out actions up to the first one that fails. -/
def performAll (stage : Stage) : List Action → Stage
  | [] => stage
  | action :: rest =>
      let after := perform stage action
      if failed after then after else performAll after rest

/-- The line that sums the demonstration up. -/
def doneEntry (stage : Stage) : LogEntry :=
  let counters := stage.shared.dispatcher.counters
  { level := .info
    message := "Done"
    fields :=
      [("app", .text (stage.shared.askTypeName client).1),
        ("video", .word64 counters.videoDelivered),
        ("audio", .word64 counters.audioDelivered),
        ("packets", .word64 counters.packetsDelivered),
        ("dropped", .word64 counters.droppedFrames),
        ("last_video_ms", .number counters.lastVideoMillis.toInt)] }

/-- The line for a happening.  The reports on queue depths follow the clock on
the wall and are left out. -/
def entry? : Happening LogEntry → Option LogEntry
  | .noted entry => some entry
  | .noticed (.queueDepths _ _) => none
  | .noticed notice => some (notice.entry identity)
  | _ => none

/-- Whether the program came to its end, and its log in order. -/
def outcome : Bool × List LogEntry :=
  let stage := performAll opening program
  let entries := stage.shared.journal.reverse.filterMap entry?
  if failed stage then (false, entries) else
    (true, entries ++ [doneEntry stage])

/-- The demonstration with all lines at the given level or a more severe one. -/
def run (least : Level) : Bool × List LogEntry :=
  (outcome.1, outcome.2.filter fun entry => entry.level.passes least)

end Switchboard.Demo
