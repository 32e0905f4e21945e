import Switchboard.Failure
import Switchboard.Settings
import Switchboard.Stats
import Switchboard.Stream.Descriptor

/-!
# Log lines

A notice is something worth a line in the log, with all that the line tells
about it.  `Notice.entry` is the line itself: a level, a message and named
fields.
-/

namespace Switchboard

/-- How much a log line matters, from the least to the most. -/
inductive Level where
  | trace
  | debug
  | info
  | warn
  | error
  deriving DecidableEq

namespace Level

/-- The name of a level in a log line. -/
def name : Level → String
  | trace => "TRACE"
  | debug => "DEBUG"
  | info => "INFO"
  | warn => "WARN"
  | error => "ERROR"

/-- The level that a filter asks for by name. -/
def ofFilter? : String → Option Level
  | "trace" => some trace
  | "debug" => some debug
  | "info" => some info
  | "warn" => some warn
  | "error" => some error
  | _ => none

/-- The place of a level in the order of severity. -/
def severity : Level → Nat
  | trace => 0
  | debug => 1
  | info => 2
  | warn => 3
  | error => 4

/-- Whether a line of this level passes a filter that asks for `least`. -/
def passes (level least : Level) : Bool :=
  least.severity ≤ level.severity

end Level

/-- The value of a field of a log line. -/
inductive FieldValue where
  | number (value : Int)
  | text (value : String)
  | flag (value : Bool)
  deriving DecidableEq

/-- A line of the log. -/
structure LogEntry where
  level : Level
  message : String
  fields : List (String × FieldValue)
  deriving DecidableEq

namespace FieldValue

/-- The text of a field. -/
def asText : FieldValue → String
  | number value => toString value
  | text value => value
  | flag value => if value then "true" else "false"

/-- A 32-bit number as a field. -/
def word32 (value : UInt32) : FieldValue :=
  .number value.toNat

/-- A 64-bit number as a field. -/
def word64 (value : UInt64) : FieldValue :=
  .number value.toNat

end FieldValue

namespace LogEntry

/-- A log line in print: the level, the message, and each field by name. -/
def line (entry : LogEntry) : String :=
  entry.fields.foldl
    (fun text (name, value) => text ++ " " ++ name ++ "=" ++ value.asText)
    (entry.level.name ++ " " ++ entry.message)

end LogEntry

/-- What the switchboard reports in its log. -/
inductive Notice where
  | taskStarted
  | taskStopped (pending : UInt64)
  | queueDepths (depths : Depths) (dropped : UInt64)
  | unknownStream (kind : MediaKind) (streamId : UInt32) (seq : UInt64)
  | streamPanicked (kind : MediaKind) (streamId : UInt32) (seq : UInt64)
      (payload : Payload)
  | closedSession (seq : UInt64)
  | sessionPanicked (sessionId seq : UInt64) (payload : Payload)
  | streamRegistered (streamId : UInt32) (stream : Stream) (streams : Nat)
  | streamUnregistered (streamId : UInt32) (stream : Stream) (streams : Nat)
  | streamExists (descriptor : Descriptor)
  | creationFailed (descriptor : Descriptor)
  | streamCreated (descriptor : Descriptor) (workers : Nat)
  | streamMissing (descriptor : Descriptor)
  | deletionRejected (descriptor : Descriptor)
  | streamDeleted (descriptor : Descriptor)
  | applicationStarted (typeName : String)
  | applicationStopped (typeName : String) (pending : UInt64)
  | taskReplaced (task : Nat) (ending : Ending)
  | taskPanicked (task : Nat) (ending : Ending)
  | taskCancelled (task : Nat)
  deriving DecidableEq

namespace Notice

/-- The level of the line for a notice. -/
def level : Notice → Level
  | unknownStream .. | closedSession .. => .trace
  | taskStarted | taskStopped .. | queueDepths .. | streamRegistered ..
  | streamUnregistered .. => .debug
  | streamCreated .. | streamDeleted .. | applicationStarted ..
  | applicationStopped .. => .info
  | streamExists .. | creationFailed .. | streamMissing .. | deletionRejected ..
  | taskReplaced .. | taskCancelled .. => .warn
  | streamPanicked .. | sessionPanicked .. | taskPanicked .. => .error

/-- The message of the line for a notice. -/
def message : Notice → String
  | taskStarted => "Dispatch task started"
  | taskStopped .. => "Dispatch task stopped"
  | queueDepths .. => "Publisher queue stats"
  | unknownStream .. => "Dropping frame for unknown stream"
  | streamPanicked .. => "Stream panicked while handling frame"
  | closedSession .. => "Dropping packet for closed session"
  | sessionPanicked .. => "Session panicked while handling packet"
  | streamRegistered .. => "Stream registered"
  | streamUnregistered .. => "Stream unregistered"
  | streamExists .. => "Stream already exists"
  | creationFailed .. => "Handler failed to create stream"
  | streamCreated .. => "Stream created"
  | streamMissing .. => "Cannot find stream to delete"
  | deletionRejected .. => "Handler rejected stream deletion"
  | streamDeleted .. => "Stream deleted"
  | applicationStarted .. => "Application started"
  | applicationStopped .. => "Application stopped"
  | taskReplaced .. => "Replacing exited dispatch task"
  | taskPanicked .. => "Dispatch task panicked"
  | taskCancelled .. => "Dispatch task cancelled"

/-- The fields of the line for a notice.  The registry, which belongs to no
application in particular, does not name one. -/
def fields (identity : Identity) (notice : Notice) :
    List (String × FieldValue) :=
  let app := ("app", FieldValue.text identity.name)
  let appId := ("app_id", FieldValue.word32 identity.id)
  match notice with
  | taskStarted | taskCancelled _ => [app, appId]
  | taskStopped pending => [app, appId, ("pending", .word64 pending)]
  | queueDepths depths dropped =>
      [app, appId, ("video_queue", .word64 depths.video),
        ("audio_queue", .word64 depths.audio),
        ("packet_queue", .word64 depths.packets), ("dropped", .word64 dropped)]
  | unknownStream kind streamId seq =>
      [app, ("stream_id", .word32 streamId), ("seq", .word64 seq),
        ("media", .text kind.name)]
  | streamPanicked kind streamId seq payload =>
      [app, ("stream_id", .word32 streamId), ("seq", .word64 seq),
        ("media", .text kind.name), ("panic", .text payload.message)]
  | closedSession seq => [app, ("seq", .word64 seq)]
  | sessionPanicked sessionId seq payload =>
      [app, ("session_id", .word64 sessionId), ("seq", .word64 seq),
        ("panic", .text payload.message)]
  | streamRegistered streamId _ streams
  | streamUnregistered streamId _ streams =>
      [("stream_id", .word32 streamId), ("streams", .number streams)]
  | streamExists descriptor
  | creationFailed descriptor
  | streamMissing descriptor
  | deletionRejected descriptor => [app, ("stream", .text descriptor.text)]
  | streamCreated descriptor workers =>
      [app, ("stream_id", .word32 descriptor.id),
        ("stream", .text descriptor.name), ("workers", .number workers)]
  | streamDeleted descriptor =>
      [app, ("stream_id", .word32 descriptor.id),
        ("stream", .text descriptor.name)]
  | applicationStarted typeName => [app, appId, ("kind", .text typeName)]
  | applicationStopped typeName pending =>
      [app, appId, ("kind", .text typeName), ("pending", .word64 pending)]
  | taskReplaced task ending | taskPanicked task ending =>
      [app, appId, ("error", .text ((ending.describe task).getD ""))]

/-- The log line for a notice of an application. -/
def entry (identity : Identity) (notice : Notice) : LogEntry where
  level := notice.level
  message := notice.message
  fields := notice.fields identity

end Notice

end Switchboard
