import Switchboard.Scenario.Bench

/-!
# The stand-ins as client code

Every stand-in reports its call, carries out the script that waits for it, and
then fails or replies as the bench says.  An operation of a script either
concerns the bench alone and is done at once, or it asks the switchboard, once
or several times; a panic on the way back is its result.
-/

namespace Switchboard.Scenario

/-- How far an operation has come that asks the switchboard. -/
inductive Progress where
  | asked
  | refused (refusal : Refusal)
  | inserting (handle : Nat)
  | submitting (rest : List Item)
  | draining (cycles : Nat)
  | joining

/-- What an operation does next: it has its result, or it asks. -/
inductive OpStep where
  | settled (bench : Bench) (result : Result)
  | ask (request : Request) (bench : Bench) (progress : Progress)

/-- What client code remembers while it waits for an answer. -/
inductive Suspended where
  | command (op : Op)
  | looking (descriptor : Descriptor) (stream : Stream)
  | running (callback : Option Callback) (op : Op) (progress : Progress)
      (rest : List Op)

namespace Bench

/-- Submit items one after another.  Without items it is still asked whether
anybody takes submissions. -/
def submitAll (bench : Bench) : List Item → OpStep
  | [] => .ask .inspect bench .asked
  | item :: rest => .ask (.submit item) bench (.submitting rest)

/-- A result that the bench alone knows. -/
def known (bench : Bench) (result : Result) : OpStep :=
  .settled bench result

/-- The panic of an operation that needs the executor while it is lent. -/
def executorLent : Payload :=
  .text "called `Option::unwrap()` on a `None` value"

/-- The first step of an operation. -/
def beginOp (bench : Bench) : Op → OpStep
  | .settle => bench.known .nothing
  | .killRuntime => bench.known .nothing
  | .script place ops => (bench.addScript place ops).known .nothing
  | .set changes =>
      ({ bench with flags := changes.foldl Flags.apply bench.flags }).known
        .nothing
  | .behave handle faults =>
      if handle < bench.streams.length then
        (bench.updateStream handle ({ · with faults := faults })).known .nothing
      else
        bench.known (.refused .noStream)
  | .stream handle =>
      bench.known ((bench.report? handle).elim (.refused .noStream) .stream)
  | .dropSession session =>
      ({ bench with
          sessions :=
            bench.sessions.modify session ({ · with held := false }) }).known
        (.flag (bench.holds session))
  | .dropPublisher =>
      ({ bench with publisher := none }).known (.flag bench.publisher.isSome)
  | .frames kind descriptor burst =>
      bench.submitAll (burst.packets.map (.frame kind descriptor ·))
  | .packets session data count =>
      if bench.stage = .application ∧ bench.holds session = false then
        .ask .inspect bench (.refused .noSession)
      else
        bench.submitAll (List.replicate count (.packet session data))
  | .start => .ask .start bench .asked
  | .stop => .ask .stop bench .asked
  | .create descriptor => .ask (.create descriptor) bench .asked
  | .delete descriptor => .ask (.delete descriptor) bench .asked
  | .typeName => .ask .typeName bench .asked
  | .dropApplication => .ask .close bench .asked
  | .insert id name =>
      let (stream, built) := bench.build id name 1
      .ask (.register id stream) built (.inserting stream.handle)
  | .remove id => .ask (.unregister id) bench .asked
  | .dispatchOnce => .ask .dispatchOnce bench .asked
  | .drain => .ask .dispatchOnce bench (.draining 0)
  | .requestStop => .ask .requestStop bench .asked
  | .spawn => .ask .spawn bench .asked
  | .join => .ask .inspect bench .joining
  | .stats | .get _ | .getByName _ | .streams | .phase | .identity | .hookCalls
  | .finished => .ask .inspect bench .asked

/-- The first step of an operation on its own or in the script of a callback.
The executor can be asked for tasks once at a time, and a callback may well be
running because an operation has asked for them. -/
def beginIn (bench : Bench) (callback : Option Callback) (op : Op) : OpStep :=
  if callback.isSome && bench.lent && op.runsTasks then
    bench.known (.panicked executorLent)
  else
    bench.beginOp op

/-- What a name leads to. -/
def byName (bench : Bench) (registry : Registry) (name : String) : Result :=
  match Registry.named registry name with
  | [] => .nothing
  | [stream] => bench.streamResult stream
  | several => .ambiguous several.length name

/-- What an operation reads off a look at the switchboard. -/
def viewResult (bench : Bench) (op : Op) (view : View) : Result :=
  match op with
  | .stats =>
      match view.phase with
      | some _ => .snapshot view.snapshot
      | none => .stats view.snapshot
  | .get id => (view.registry.find? id).elim .nothing bench.streamResult
  | .getByName name => bench.byName view.registry name
  | .streams =>
      .streams view.registry.size
        (view.registry.values.filterMap
          fun stream => bench.report? stream.handle)
  | .phase => view.phase.elim .nothing .phase
  | .identity => .identity view.identity view.settings
  | .hookCalls => .hookCalls bench.creations bench.deletions
  | .finished => view.taskEnded.elim .nothing .flag
  | _ => .nothing

/-- What it means for an operation that its request is unavailable. -/
def unavailable : Op → Result
  | .spawn => .refused .busy
  | .join => .refused .noTask
  | .dropApplication => .flag false
  | _ => .refused .noApplication

/-- The result of an operation whose only request has been answered. -/
def answerResult (bench : Bench) (op : Op) : Answer → Result
  | .done =>
      match op with
      | .dropApplication => .flag true
      | _ => .nothing
  | .unavailable => unavailable op
  | .abandoned => .refused .pending
  | .view view => bench.viewResult op view
  | .created (.ok stream) => bench.streamResult stream
  | .created (.error failure) => .failure failure
  | .concluded (.ok ()) => .ok
  | .concluded (.error failure) => .failure failure
  | .typeName name => .text name
  | .cycled productive => .flag productive
  | .registered (.ok ()) => .ok
  | .registered (.error error) => .registryError error
  | .unregistered (.ok stream) => bench.streamResult stream
  | .unregistered (.error error) => .registryError error

/-- The next step of an operation that has been answered. -/
def continueOp (bench : Bench) (op : Op) (progress : Progress)
    (answer : Answer) :
    OpStep :=
  match progress, answer with
  | .refused refusal, .view _ => bench.known (.refused refusal)
  | .inserting handle, .registered (.ok ()) => bench.known (.handle handle)
  | .submitting (item :: rest), .done =>
      .ask (.submit item) bench (.submitting rest)
  | .draining cycles, .cycled true =>
      .ask .dispatchOnce bench (.draining (cycles + 1))
  | .draining cycles, .cycled false => bench.known (.number cycles)
  | .joining, .view view =>
      match view.taskEnded with
      | none => bench.known (.refused .noTask)
      | some ended =>
          if ended || view.stopRequested then
            .ask .join bench .asked
          else
            bench.known (.refused .running)
  | _, answer => bench.known (bench.answerResult op answer)

/-- The next step of an operation whose request has come back. -/
def resumeOp (bench : Bench) (op : Op) (progress : Progress) :
    Response → OpStep
  | .answered answer => bench.continueOp op progress answer
  | .panicked payload => bench.known (.panicked payload)

/-- Panic if there is a fault, and reply otherwise. -/
def failOr (bench : Bench) (notes : List Event) (fault : Option Fault)
    (place : String) (reply : Reply) : ClientTurn Bench Suspended Event where
  state := bench
  notes := notes
  move := fault.elim (.finish reply) fun fault => .panic (fault.payload place)

/-- How a callback ends once its script has been carried out. -/
def conclude (bench : Bench) (notes : List Event) :
    Option Callback → ClientTurn Bench Suspended Event
  | none => bench.failOr notes none "" .plain
  | some (.sendFrame kind stream _) =>
      bench.failOr notes
        ((bench.streams[stream.handle]?).bind
          fun double => double.faults.onFrame kind)
        kind.name .plain
  | some (.receivePacket session _) =>
      bench.failOr notes ((bench.sessions[session]?).bind SessionDouble.fault)
        "packet" .plain
  | some (.sessionNumber session) =>
      bench.failOr notes
        ((bench.sessions[session]?).bind SessionDouble.numberFault) "id"
        { Reply.plain with
          number := (bench.sessions[session]?).elim 0 SessionDouble.number }
  | some (.createStream descriptor workers) =>
      if bench.flags.panicCreate.isSome || bench.flags.failCreate then
        bench.failOr notes bench.flags.panicCreate "create" .plain
      else
        let (stream, built) :=
          bench.build (bench.flags.streamId.getD descriptor.id)
            (bench.flags.streamName.getD descriptor.name) workers
        built.failOr notes none "create"
          { Reply.plain with stream := some stream }
  | some (.deleteStream _ _) =>
      bench.failOr notes bench.flags.panicDelete "delete"
        { Reply.plain with accepted := !bench.flags.rejectDelete }
  | some (.stopStream stream) =>
      bench.failOr notes
        ((bench.streams[stream.handle]?).bind fun double => double.faults.stop)
        "stop" .plain

/-- The report that an operation begins; only those of scripts are reported. -/
def enterNotes (callback : Option Callback) (op : Op) : List Event :=
  callback.elim [] fun _ => [.enter op.name]

/-- The report that an operation has its result. -/
def leaveNotes (callback : Option Callback) (op : Op) (result : Result) :
    List Event :=
  callback.elim [.result result] fun _ => [.leave op.name result]

/-- Carry out operations until one has to wait for the switchboard. -/
def proceed (bench : Bench) (callback : Option Callback) (notes : List Event) :
    List Op → ClientTurn Bench Suspended Event
  | [] => bench.conclude notes callback
  | op :: rest =>
      let entered := notes ++ enterNotes callback op
      match bench.beginIn callback op with
      | .settled changed result =>
          changed.proceed callback
            (entered ++ leaveNotes callback op result) rest
      | .ask request changed progress =>
          { state := changed
            notes := entered
            move := .perform request (.running callback op progress rest) }

/-- Report a call, and carry out the script that waits for it. -/
def play (bench : Bench) (callback : Callback) (place : Place) (event : Event) :
    ClientTurn Bench Suspended Event :=
  let (ops, taken) := bench.takeScript place
  taken.proceed (some callback) [event] ops

/-- The first turn of a callback. -/
def beginCallback (callback : Callback) (bench : Bench) :
    ClientTurn Bench Suspended Event :=
  match callback with
  | .sendFrame kind stream packet =>
      bench.play callback (.frame kind stream.handle)
        (.frame kind stream.handle packet
          ((bench.streams[stream.handle]?).elim false StreamDouble.stopped))
  | .receivePacket session data =>
      bench.play callback (.packet session) (.packet session data)
  | .sessionNumber _ => bench.conclude [] (some callback)
  | .createStream descriptor workers =>
      ({ bench with creations := bench.creations + 1 }).play callback
        (.create descriptor.id.toNat) (.createHook descriptor workers)
  | .deleteStream descriptor stream =>
      { state := { bench with deletions := bench.deletions + 1 }
        notes := []
        move := .perform .inspect (.looking descriptor stream) }
  | .stopStream stream =>
      (bench.updateStream stream.handle ({ · with stopped := true })).play
        callback
        (.stop stream.handle)
        (.stop stream.handle
          ((bench.streams[stream.handle]?).elim false StreamDouble.stopped))

/-- The handle that an answered look finds under an id. -/
def registeredHandle (id : UInt32) : Response → Option Nat
  | .answered (.view view) => (view.registry.find? id).map Stream.handle
  | _ => none

/-- A further turn, after a response. -/
def resumeCallback (suspended : Suspended) (response : Response)
    (bench : Bench) :
    ClientTurn Bench Suspended Event :=
  match suspended with
  | .command op => bench.proceed none [] [op]
  | .looking descriptor stream =>
      let report := (bench.report? stream.handle).toList
      let events :=
        report.map fun told =>
          Event.deleteHook descriptor told
            (registeredHandle descriptor.id response)
      let (ops, taken) := bench.takeScript (.delete descriptor.id.toNat)
      taken.proceed (some (.deleteStream descriptor stream)) events ops
  | .running callback op progress rest =>
      match bench.resumeOp op progress response with
      | .settled changed result =>
          changed.proceed callback (leaveNotes callback op result) rest
      | .ask request changed next =>
          { state := changed
            notes := []
            move := .perform request (.running callback op next rest) }

end Bench

/-- The stand-ins as everything that is outside the switchboard. -/
def client : Client Bench Suspended Event where
  begin := Bench.beginCallback
  resume := Bench.resumeCallback
  holds := Bench.holds
  publisherName := Bench.publisher

end Switchboard.Scenario
