import Switchboard.Proofs.Handling

/-!
# Receivers that panic more often

Take two clients that do the same things, except that the second may panic where
the first returns from a callback with an item.  Two states mirror each other if
they differ only by what such panics leave behind: each lost call is counted as
dropped and not as delivered, and the second journal tells of the panic and of
its notice.  Threads that stand at the same place in states that mirror each
other make the same move, and the states mirror each other again, unless the
second thread has just panicked instead.
-/

namespace Switchboard

variable {σ σ' κ κ' ν ν' : Type}

/-! ## Lost calls in the counters -/

/-- How many of the lost calls were about items of a channel. -/
def lostOn (lost : List Callback) (channel : Channel) : Nat :=
  lost.countP fun callback => callback.channel? = some channel

theorem lostOn_cons (callback : Callback) (lost : List Callback)
    (channel : Channel) :
    lostOn (callback :: lost) channel =
      lostOn lost channel + if callback.channel? =
        some channel then 1 else 0 := by
  simp [lostOn, List.countP_cons]

namespace Counters

/-- The counters with each lost call counted as dropped instead of as delivered
on its channel. -/
def losing (counters : Counters) (lost : List Callback) : Counters :=
  { counters with
    videoDelivered := counters.videoDelivered - .ofNat (lostOn lost .video)
    audioDelivered := counters.audioDelivered - .ofNat (lostOn lost .audio)
    packetsDelivered :=
      counters.packetsDelivered - .ofNat (lostOn lost .packets)
    droppedFrames :=
      counters.droppedFrames +
        (.ofNat (lostOn lost .video) + .ofNat (lostOn lost .audio))
    droppedPackets := counters.droppedPackets + .ofNat (lostOn lost .packets) }

variable (counters : Counters) (lost : List Callback)

@[simp]
theorem losing_nil : counters.losing [] = counters := by
  simp [losing, lostOn]

theorem losing_frameDelivered (kind : MediaKind) :
    (counters.frameDelivered kind).losing lost =
    (counters.losing lost).frameDelivered kind := by
  cases kind <;>
    simp only [losing, frameDelivered, mk.injEq, and_true, true_and]
  · grind
  · grind

theorem losing_packetDelivered :
    counters.packetDelivered.losing lost =
      (counters.losing lost).packetDelivered := by
  simp only [losing, packetDelivered, mk.injEq, and_true, true_and]
  grind

theorem losing_frameDropped :
    counters.frameDropped.losing lost =
      (counters.losing lost).frameDropped := by
  simp only [losing, frameDropped, mk.injEq, and_true, true_and]
  grind

theorem losing_packetDropped :
    counters.packetDropped.losing lost =
      (counters.losing lost).packetDropped := by
  simp only [losing, packetDropped, mk.injEq, and_true, true_and]
  grind

theorem losing_stamped (millis : Int64) (kind : MediaKind) :
    (counters.stamped millis kind).losing lost =
    (counters.losing lost).stamped millis kind := by
  cases kind <;> rfl

/-- One more frame is lost if it is counted as dropped where it would be
delivered. -/
theorem losing_frame (kind : MediaKind) (stream : Stream)
    (packet : MediaPacket) :
    (counters.frameDelivered kind).losing
    (.sendFrame kind stream packet :: lost) =
      (counters.losing lost).frameDropped := by
  cases kind <;>
    simp [losing, frameDelivered, frameDropped, lostOn_cons, Callback.channel?,
      MediaKind.channel, UInt64.ofNat_add]
  · grind
  · grind

/-- One more packet is lost if it is counted as dropped where it would be
delivered. -/
theorem losing_packet (session : SessionHandle) (data : Bytes) :
    counters.packetDelivered.losing (.receivePacket session data :: lost) =
      (counters.losing lost).packetDropped := by
  simp [losing, packetDelivered, packetDropped, lostOn_cons, Callback.channel?,
    UInt64.ofNat_add]
  grind

end Counters

/-! ## Lost calls in the journal -/

/-- Two happenings tell the same.  A report on queue depths also tells how many
items were dropped, which the lost calls change. -/
inductive Happening.Mirrors : Happening ν → Happening ν' → Prop
  | submitted (entry : Sequenced Item) :
      Mirrors (.submitted entry) (.submitted entry)
  | drained (entry : Sequenced Item) : Mirrors (.drained entry) (.drained entry)
  | called (callback : Callback) : Mirrors (.called callback) (.called callback)
  | returned (callback : Callback) (reply : Reply) :
      Mirrors (.returned callback reply) (.returned callback reply)
  | panicked (callback : Callback) (payload : Payload) :
      Mirrors (.panicked callback payload) (.panicked callback payload)
  | named (publisher : Option String) (name : String) :
      Mirrors (.named publisher name) (.named publisher name)
  | noticed (notice : Notice) : Mirrors (.noticed notice) (.noticed notice)
  | reported (depths : Depths) (dropped dropped' : UInt64) :
      Mirrors (.noticed (.queueDepths depths dropped))
        (.noticed (.queueDepths depths dropped'))

/-- Two journals, newest first, tell the same since two earlier ones, apart from
what client code notes and from the lost calls.  Where the first tells that such
a call has returned, the second tells that it has panicked, followed by the
notice of it; for a packet the session was asked for its number in between. -/
inductive Mirrored (past : List (Happening ν)) (past' : List (Happening ν')) :
    List Callback → List (Happening ν) → List (Happening ν') → Prop
  | start : Mirrored past past' [] past past'
  | both {lost : List Callback} {journal : List (Happening ν)}
      {journal' : List (Happening ν')} {happening : Happening ν}
      {happening' : Happening ν'} (same : happening.Mirrors happening')
      (before : Mirrored past past' lost journal journal') :
      Mirrored past past' lost (happening :: journal) (happening' :: journal')
  | notes {lost : List Callback} {journal : List (Happening ν)}
      {journal' : List (Happening ν')} (notes : List ν) (notes' : List ν')
      (before : Mirrored past past' lost journal journal') :
      Mirrored past past' lost ((notes.map .noted).reverse ++ journal)
        ((notes'.map .noted).reverse ++ journal')
  | frame {lost : List Callback} {journal : List (Happening ν)}
      {journal' : List (Happening ν')} (kind : MediaKind) (stream : Stream)
      (packet : MediaPacket) (reply : Reply) (payload : Payload)
      (streamId : UInt32) (seq : UInt64)
      (before : Mirrored past past' lost journal journal') :
      Mirrored past past' (.sendFrame kind stream packet :: lost)
        (.returned (.sendFrame kind stream packet) reply :: journal)
        (.noticed (.streamPanicked kind streamId seq payload) ::
          .panicked (.sendFrame kind stream packet) payload :: journal')
  | packet {lost : List Callback} {journal : List (Happening ν)}
      {journal' : List (Happening ν')} (session : SessionHandle) (data : Bytes)
      (reply number : Reply) (payload : Payload) (seq : UInt64)
      (notes : List ν') (before : Mirrored past past' lost journal journal') :
      Mirrored past past' (.receivePacket session data :: lost)
        (.returned (.receivePacket session data) reply :: journal)
        (.noticed (.sessionPanicked number.number seq payload) ::
          .returned (.sessionNumber session) number ::
            ((notes.map .noted).reverse ++ .called (.sessionNumber session) ::
              .panicked (.receivePacket session data) payload :: journal'))

/-! ## Clients -/

/-- Two answers differ at most in the counters that they show. -/
inductive Answer.Mirrors : Answer → Answer → Prop
  | same (answer : Answer) : Mirrors answer answer
  | view (view : View) (counters : Counters) :
      Mirrors (.view view)
        (.view { view with snapshot :=
          { view.snapshot with counters := counters } })

/-- Two requests came back in the same way. -/
inductive Response.Mirrors : Response → Response → Prop
  | answered {answer answer' : Answer} (same : answer.Mirrors answer') :
      Mirrors (.answered answer) (.answered answer')
  | panicked (payload : Payload) :
      Mirrors (.panicked payload) (.panicked payload)

/-- Two moves of client code that works on a callback are the same, or the
second panics at the end of a callback with an item.  The destruction of what
such a panic carries does not panic. -/
inductive Move.Mirrors (pauses : Option Callback → κ → κ' → Prop)
    (callback : Option Callback) :
    Move κ → Move κ' → Prop
  | perform (request : Request) {next : κ} {next' : κ'}
      (same : pauses callback next next') :
      Mirrors pauses callback (.perform request next) (.perform request next')
  | finish (reply : Reply) :
      Mirrors pauses callback (.finish reply) (.finish reply)
  | panic (payload : Payload) :
      Mirrors pauses callback (.panic payload) (.panic payload)
  | falters {working : Callback} (works : callback = some working)
      (routes : working.channel?.isSome = true) (reply : Reply)
      {payload : Payload} (harmless : payload.aftermath? = none) :
      Mirrors pauses callback (.finish reply) (.panic payload)

/-- Two turns of client code do the same, up to such a panic. -/
structure ClientTurn.Mirrors (states : σ → σ' → Prop)
    (pauses : Option Callback → κ → κ' → Prop) (callback : Option Callback)
    (turn : ClientTurn σ κ ν) (turn' : ClientTurn σ' κ' ν') :
    Prop where
  state : states turn.state turn'.state
  move : turn.move.Mirrors pauses callback turn'.move

/-- The second client does what the first does, except that it may panic at the
end of any callback with an item, with any payload whose destruction does not
panic.  Its sessions answer at once when they are asked for their numbers, and
do nothing else.  The two relations say which states of the clients, and which
suspended callbacks, correspond to each other. -/
structure Client.Falters (client : Client σ κ ν) (other : Client σ' κ' ν')
    (states : σ → σ' → Prop) (pauses : Option Callback → κ → κ' → Prop) :
    Prop where
  begins (callback : Callback) {state : σ} {state' : σ'}
    (same : states state state') :
    (client.begin callback state).Mirrors states pauses (some callback)
      (other.begin callback state')
  resumes {callback : Option Callback} {suspended : κ} {suspended' : κ'}
    (pause : pauses callback suspended suspended')
    {response response' : Response} (came : response.Mirrors response')
    {state : σ} {state' : σ'} (same : states state state') :
    (client.resume suspended response state).Mirrors states pauses callback
      (other.resume suspended' response' state')
  holds {state : σ} {state' : σ'} (same : states state state')
    (session : SessionHandle) :
    client.holds state session = other.holds state' session
  publisherName {state : σ} {state' : σ'} (same : states state state') :
    client.publisherName state = other.publisherName state'
  numbers (session : SessionHandle) {state : σ} {state' : σ'}
    (same : states state state') :
    ∃ reply, (other.begin (.sessionNumber session) state').move =
      .finish reply ∧
      states state (other.begin (.sessionNumber session) state').state

/-! ## States -/

section Relations

variable (states : σ → σ' → Prop) (pauses : Option Callback → κ → κ' → Prop)
  (past : List (Happening ν)) (past' : List (Happening ν'))

/-- The second state is what the first would be if the receivers of the lost
calls had panicked. -/
structure Shared.Mirrors (lost : List Callback) (shared : Shared σ ν)
    (other : Shared σ' ν') :
    Prop where
  identity : other.identity = shared.identity
  settings : other.settings = shared.settings
  host : other.host = shared.host
  dispatcher : other.dispatcher = shared.dispatcher.count (·.losing lost)
  registry : other.registry = shared.registry
  clock : other.clock = shared.clock
  client : states shared.client other.client
  journal : Mirrored past past' lost shared.journal other.journal

/-- Two frames wait for the same thing, and the same goes on below. -/
inductive Frame.Mirrors : Frame κ → Frame κ' → Prop
  | client {callback : Option Callback} {state : κ} {state' : κ'}
      (same : pauses callback state state') :
      Mirrors (.client callback state) (.client callback state')
  | sending (seq : UInt64) (kind : MediaKind) (streamId : UInt32)
      (cycle : Cycle) :
      Mirrors (.sending seq kind streamId cycle)
        (.sending seq kind streamId cycle)
  | receiving (seq : UInt64) (session : SessionHandle) (cycle : Cycle) :
      Mirrors (.receiving seq session cycle) (.receiving seq session cycle)
  | reporting (seq : UInt64) (session : SessionHandle) (payload : Payload)
      (cycle : Cycle) :
      Mirrors (.reporting seq session payload cycle)
        (.reporting seq session payload cycle)
  | creating (descriptor : Descriptor) :
      Mirrors (.creating descriptor) (.creating descriptor)
  | losing (descriptor : Descriptor) (error : RegistryError) :
      Mirrors (.losing descriptor error) (.losing descriptor error)
  | releasing (descriptor : Descriptor) (stream : Stream) :
      Mirrors (.releasing descriptor stream) (.releasing descriptor stream)
  | stopping (descriptor : Descriptor) :
      Mirrors (.stopping descriptor) (.stopping descriptor)

/-- Two threads go on with the same thing. -/
inductive Control.Mirrors : Control → Control → Prop
  | same (control : Control) : Mirrors control control
  | answer {answer answer' : Answer} (same : answer.Mirrors answer') :
      Mirrors (.answer answer) (.answer answer')

/-- Two turns leave the same thing to do in states that mirror each other. -/
structure Turn.Mirrors (lost : List Callback) (turn : Turn σ κ ν)
    (turn' : Turn σ' κ' ν') :
    Prop where
  shared : turn.shared.Mirrors states past past' lost turn'.shared
  stack : List.Forall₂ (Frame.Mirrors pauses) turn.stack turn'.stack
  control : turn.control.Mirrors turn'.control
  spawned : turn'.spawned = turn.spawned

/-- The first turn returns from a callback with an item, and the second
panics. -/
inductive Turn.Lapses (lost : List Callback) : Turn σ κ ν → Turn σ' κ' ν' → Prop
  | frame {shared : Shared σ ν} {other : Shared σ' ν'} {below : List (Frame κ)}
      {below' : List (Frame κ')}
      (mirrors : shared.Mirrors states past past' lost other)
      (frames : List.Forall₂ (Frame.Mirrors pauses) below below')
      (kind : MediaKind) (stream : Stream) (packet : MediaPacket)
      (reply : Reply) {payload : Payload} (harmless : payload.aftermath? = none)
      (seq : UInt64) (streamId : UInt32) (cycle : Cycle) :
      Lapses lost
        (.pass (shared.record (.returned (.sendFrame kind stream packet) reply))
          (.sending seq kind streamId cycle :: below) (.reply reply))
        (.pass (other.record
          (.panicked (.sendFrame kind stream packet) payload))
          (.sending seq kind streamId cycle :: below') (.raise payload))
  | packet {shared : Shared σ ν} {other : Shared σ' ν'} {below : List (Frame κ)}
      {below' : List (Frame κ')}
      (mirrors : shared.Mirrors states past past' lost other)
      (frames : List.Forall₂ (Frame.Mirrors pauses) below below')
      (session : SessionHandle) (data : Bytes) (reply : Reply)
      {payload : Payload} (harmless : payload.aftermath? = none) (seq : UInt64)
      (cycle : Cycle) :
      Lapses lost
        (.pass (shared.record (.returned (.receivePacket session data) reply))
          (.receiving seq session cycle :: below) (.reply reply))
        (.pass (other.record (.panicked (.receivePacket session data) payload))
          (.receiving seq session cycle :: below') (.raise payload))

end Relations

variable {states : σ → σ' → Prop} {pauses : Option Callback → κ → κ' → Prop}
  {past : List (Happening ν)} {past' : List (Happening ν')}
  {lost : List Callback}

namespace Shared

namespace Mirrors

variable {shared : Shared σ ν} {other : Shared σ' ν'}

theorem queues (mirrors : shared.Mirrors states past past' lost other) :
    other.dispatcher.queues = shared.dispatcher.queues := by
  rw [mirrors.dispatcher]
  rfl

theorem wake (mirrors : shared.Mirrors states past past' lost other) :
    other.dispatcher.wake = shared.dispatcher.wake := by
  rw [mirrors.dispatcher]
  rfl

theorem stopRequested (mirrors : shared.Mirrors states past past' lost other) :
    other.dispatcher.stopRequested = shared.dispatcher.stopRequested := by
  rw [mirrors.dispatcher]
  rfl

theorem depths (mirrors : shared.Mirrors states past past' lost other) :
    other.dispatcher.depths = shared.dispatcher.depths := by
  rw [mirrors.dispatcher]
  rfl

/-- The same is told in both journals. -/
theorem tell (mirrors : shared.Mirrors states past past' lost other)
    {happening : Happening ν} {happening' : Happening ν'}
    (same : happening.Mirrors happening') :
    (shared.record happening).Mirrors states past past' lost
    (other.record happening') :=
  { mirrors with journal := .both same mirrors.journal }

theorem notice (mirrors : shared.Mirrors states past past' lost other)
    (notice : Notice) :
    (shared.notice notice).Mirrors states past past' lost
    (other.notice notice) :=
  mirrors.tell (.noticed notice)

/-- Both dispatchers change in a way that has nothing to do with the lost
calls. -/
theorem dispatch (mirrors : shared.Mirrors states past past' lost other)
    {update : Dispatcher → Dispatcher}
    (commutes :
      ∀ dispatcher : Dispatcher, update (dispatcher.count (·.losing lost)) =
      (update dispatcher).count (·.losing lost)) :
    (shared.dispatch update).Mirrors states past past' lost
    (other.dispatch update) :=
  { mirrors with dispatcher :=
    (congrArg update mirrors.dispatcher).trans (commutes _) }

/-- The same is counted in both states. -/
theorem count (mirrors : shared.Mirrors states past past' lost other)
    {update : Counters → Counters}
    (commutes : ∀ counters : Counters,
      (update counters).losing lost = update (counters.losing lost)) :
    (shared.count update).Mirrors states past past' lost (other.count update) :=
  mirrors.dispatch fun dispatcher => by
    simp only [Dispatcher.count, commutes]

theorem withWake (mirrors : shared.Mirrors states past past' lost other)
    (update : Wake → Wake) :
    (shared.dispatch (·.withWake update)).Mirrors states past past' lost
      (other.dispatch (·.withWake update)) :=
  mirrors.dispatch fun _ => rfl

theorem withStop (mirrors : shared.Mirrors states past past' lost other)
    (requested : Bool) :
    (shared.dispatch (·.withStop requested)).Mirrors states past past' lost
      (other.dispatch (·.withStop requested)) :=
  mirrors.dispatch fun _ => rfl

theorem withRegistry (mirrors : shared.Mirrors states past past' lost other)
    (registry : Registry) :
    ({ shared with registry := registry } : Shared σ ν).Mirrors states
      past past' lost
      { other with registry := registry } :=
  { mirrors with registry := rfl }

theorem withHost (mirrors : shared.Mirrors states past past' lost other)
    (host : Host) :
    ({ shared with host := host } : Shared σ ν).Mirrors states past past' lost
      { other with host := host } :=
  { mirrors with host := rfl }

theorem updateApplication
    (mirrors : shared.Mirrors states past past' lost other)
    (update : Application → Application) :
    (shared.updateApplication update).Mirrors states past past' lost
      (other.updateApplication update) := by
  simp only [Shared.updateApplication, mirrors.host]
  split
  · exact mirrors.withHost _
  · exact mirrors
  · exact mirrors

/-- Client code leaves states that correspond to each other. -/
theorem noting (mirrors : shared.Mirrors states past past' lost other)
    {turn : ClientTurn σ κ ν} {turn' : ClientTurn σ' κ' ν'}
    (same : states turn.state turn'.state) :
    (shared.noting turn).Mirrors states past past' lost (other.noting turn') :=
  { mirrors with
    client := same
    journal := .notes turn.notes turn'.notes mirrors.journal }

theorem stamp (mirrors : shared.Mirrors states past past' lost other)
    (item : Item) :
    (shared.dispatch (·.stamp item)).Mirrors states past past' lost
      (other.dispatch (·.stamp item)) := by
  refine mirrors.dispatch fun dispatcher => ?_
  cases item with
  | frame kind descriptor packet =>
      simp only [Dispatcher.stamp]
      cases descriptor.presentationMillis? packet with
      | none => rfl
      | some millis => simp only [Dispatcher.count, Counters.losing_stamped]
  | packet session data => rfl

/-- The same item is pushed in both states, under the same number. -/
theorem push (mirrors : shared.Mirrors states past past' lost other)
    (item : Item) :
    other.dispatcher.nextEntry item = shared.dispatcher.nextEntry item ∧
      (shared.dispatch (·.push item)).Mirrors states past past' lost
        (other.dispatch (·.push item)) := by
  refine ⟨?_, mirrors.dispatch fun _ => rfl⟩
  rw [mirrors.dispatcher]
  rfl

/-- The same entry is popped in both states. -/
theorem pop? (mirrors : shared.Mirrors states past past' lost other)
    (channel : Channel) :
    (shared.dispatcher.pop? channel = none ∧
      other.dispatcher.pop? channel = none) ∨
      ∃ entry dispatcher dispatcher',
        shared.dispatcher.pop? channel = some (entry, dispatcher) ∧
          other.dispatcher.pop? channel = some (entry, dispatcher') ∧
          ({ shared with dispatcher := dispatcher } : Shared σ ν).Mirrors states
            past past' lost
            { other with dispatcher := dispatcher' } := by
  simp only [Dispatcher.pop?, mirrors.queues]
  cases (shared.dispatcher.queues.get channel).pop? with
  | none => exact .inl ⟨rfl, rfl⟩
  | some popped =>
      refine .inr ⟨_, _, _, rfl, rfl, ?_⟩
      refine { mirrors with dispatcher := ?_ }
      change ({ other.dispatcher with queues := _ } : Dispatcher) = _
      rw [mirrors.dispatcher]
      rfl

/-- The first stream has taken a frame over which the second has panicked. -/
theorem loseFrame (mirrors : shared.Mirrors states past past' lost other)
    (kind : MediaKind) (stream : Stream) (packet : MediaPacket) (reply : Reply)
    (payload : Payload) (streamId : UInt32) (seq : UInt64) :
    ((shared.record (.returned (.sendFrame kind stream packet) reply)).count
        (·.frameDelivered kind)).Mirrors states past past'
        (.sendFrame kind stream packet :: lost)
      (((other.record (.panicked (.sendFrame kind stream packet) payload)).count
        .frameDropped).notice (.streamPanicked kind streamId seq payload)) :=
  { mirrors with
    dispatcher := by
      change other.dispatcher.count .frameDropped = _
      rw [mirrors.dispatcher]
      simp only [Shared.count, Shared.dispatch, Shared.record, Dispatcher.count,
        Counters.losing_frame]
    journal :=
      .frame kind stream packet reply payload streamId seq mirrors.journal }

/-- The first session has taken a packet over which the second has panicked.
The second was asked for its number. -/
theorem losePacket (mirrors : shared.Mirrors states past past' lost other)
    (session : SessionHandle) (data : Bytes) (reply number : Reply)
    (payload : Payload) (seq : UInt64) {turn : ClientTurn σ' κ' ν'}
    (same : states shared.client turn.state) :
    ((shared.record (.returned (.receivePacket session data) reply)).count
        .packetDelivered).Mirrors states past past'
          (.receivePacket session data :: lost)
      ((((((other.record
        (.panicked (.receivePacket session data) payload)).count
        .packetDropped).record (.called (.sessionNumber session))).noting
          turn).record
          (.returned (.sessionNumber session) number)).notice
            (.sessionPanicked number.number seq payload)) :=
  { mirrors with
    dispatcher := by
      change other.dispatcher.count .packetDropped = _
      rw [mirrors.dispatcher]
      simp only [Shared.count, Shared.dispatch, Shared.record, Dispatcher.count,
        Counters.losing_packet]
    client := same
    journal :=
      .packet session data reply number payload seq turn.notes mirrors.journal }

/-- The question for the display name has the same answer. -/
theorem askTypeName {client : Client σ κ ν} {faltering : Client σ' κ' ν'}
    (falters : client.Falters faltering states pauses)
    (mirrors : shared.Mirrors states past past' lost other) :
    (Shared.askTypeName faltering other).1 =
    (Shared.askTypeName client shared).1 ∧
      (Shared.askTypeName client shared).2.Mirrors states past past' lost
        (Shared.askTypeName faltering other).2 := by
  simp only [Shared.askTypeName, mirrors.host,
    falters.publisherName mirrors.client]
  split
  · exact ⟨rfl, (mirrors.withHost _).tell (.named _ _)⟩
  · exact ⟨rfl, mirrors⟩
  · exact ⟨rfl, mirrors⟩

end Mirrors

end Shared

/-- On top of both stacks client code waits, or neither frame is one of client
code. -/
theorem Frame.Mirrors.client_or_own {frame : Frame κ} {frame' : Frame κ'}
    (same : frame.Mirrors pauses frame') :
    (∃ callback state state', pauses callback state state' ∧
      frame = .client callback state ∧
        frame' = .client callback state') ∨
      ∀ callback state, frame ≠ .client callback state := by
  cases same with
  | client pause => exact .inl ⟨_, _, _, pause, rfl, rfl⟩
  | _ => exact .inr fun _ _ same => by cases same

/-- The same sessions are kept alive. -/
theorem Frame.Mirrors.keeps_eq {frame : Frame κ} {frame' : Frame κ'}
    (same : frame.Mirrors pauses frame') (session : SessionHandle) :
    frame'.keeps session = frame.keeps session := by
  cases same <;> rfl

theorem Frame.any_keeps_of_mirrors {stack : List (Frame κ)}
    {stack' : List (Frame κ')}
    (frames : List.Forall₂ (Frame.Mirrors pauses) stack stack')
    (session : SessionHandle) :
    stack'.any (Frame.keeps session) = stack.any (Frame.keeps session) := by
  induction frames with
  | nil => rfl
  | cons same _ inductionHypothesis =>
      rw [List.any_cons, List.any_cons, same.keeps_eq, inductionHypothesis]

/-! ## Moves -/

namespace Turn.Mirrors

variable {shared : Shared σ ν} {other : Shared σ' ν'} {stack : List (Frame κ)}
  {stack' : List (Frame κ')}

theorem pass (mirrors : shared.Mirrors states past past' lost other)
    (frames : List.Forall₂ (Frame.Mirrors pauses) stack stack')
    (control : Control) :
    (Turn.pass shared stack control).Mirrors states pauses past past' lost
      (Turn.pass other stack' control) :=
  ⟨mirrors, frames, .same _, rfl⟩

theorem run (mirrors : shared.Mirrors states past past' lost other)
    (frames : List.Forall₂ (Frame.Mirrors pauses) stack stack')
    (instruction : Instruction) :
    (Turn.run shared stack instruction).Mirrors states pauses past past' lost
      (Turn.run other stack' instruction) :=
  .pass mirrors frames (.run instruction)

theorem answer (mirrors : shared.Mirrors states past past' lost other)
    (frames : List.Forall₂ (Frame.Mirrors pauses) stack stack')
    (answer : Answer) :
    (Turn.answer shared stack answer).Mirrors states pauses past past' lost
      (Turn.answer other stack' answer) :=
  ⟨mirrors, frames, .same _, rfl⟩

theorem call (mirrors : shared.Mirrors states past past' lost other)
    (frames : List.Forall₂ (Frame.Mirrors pauses) stack stack')
    {frame : Frame κ} {frame' : Frame κ'} (same : frame.Mirrors pauses frame')
    (callback : Callback) :
    (Turn.call shared stack frame callback).Mirrors states pauses
      past past' lost
      (Turn.call other stack' frame' callback) :=
  ⟨mirrors, .cons same frames, .same _, rfl⟩

end Turn.Mirrors

namespace Shared

variable {client : Client σ κ ν} {faltering : Client σ' κ' ν'}
  {shared : Shared σ ν} {other : Shared σ' ν'} {around : Surroundings}
  {stack : List (Frame κ)} {stack' : List (Frame κ')}

/-- Client code makes the same move, or the second panics. -/
theorem clientMove_mirrors
    (mirrors : shared.Mirrors states past past' lost other)
    (frames : List.Forall₂ (Frame.Mirrors pauses) stack stack')
    {callback : Option Callback} (fits : ClientFits callback stack)
    {turn : ClientTurn σ κ ν} {turn' : ClientTurn σ' κ' ν'}
    (same : turn.Mirrors states pauses callback turn') :
    (shared.clientMove stack callback turn).Mirrors states pauses
      past past' lost
        (other.clientMove stack' callback turn') ∨
      Turn.Lapses states pauses past past' lost
        (shared.clientMove stack callback turn)
        (other.clientMove stack' callback turn') := by
  have noted := mirrors.noting same.state
  rcases turn with ⟨state, notes, move⟩
  rcases turn' with ⟨state', notes', move'⟩
  cases same.move with
  | perform request next =>
      exact .inl ⟨noted, .cons (.client next) frames, .same _, rfl⟩
  | finish reply =>
      refine .inl ⟨?_, frames, .same _, rfl⟩
      cases callback with
      | none => exact noted
      | some callback => exact noted.tell (.returned callback reply)
  | panic payload =>
      refine .inl ⟨?_, frames, .same _, rfl⟩
      cases callback with
      | none => exact noted
      | some callback => exact noted.tell (.panicked callback payload)
  | @falters working works routes reply payload harmless =>
      subst works
      right
      cases frames with
      | nil => exact fits.elim
      | @cons frame frame' below below' same frames =>
          -- The frame that waits for the callback says whose panic it is.
          rcases Expected.reply_fits_cons_iff.mp fits with ⟨awaits, _⟩
          cases same with
          | sending seq kind streamId cycle =>
              cases working with
              | sendFrame sent stream packet =>
                  cases awaits
                  exact .frame noted frames _ _ _ _ harmless _ _ _
              | _ => exact awaits.elim
          | receiving seq session cycle =>
              cases working with
              | receivePacket receiver data =>
                  cases awaits
                  exact .packet noted frames _ _ _ harmless _ _
              | _ => exact awaits.elim
          | client _ => exact awaits.elim
          | _ =>
              cases working with
              | sendFrame | receivePacket => exact awaits.elim
              | _ => cases routes

theorem view_mirrors (mirrors : shared.Mirrors states past past' lost other)
    (around : Surroundings) :
    (shared.view around).Mirrors (other.view around) := by
  simp only [view, mirrors.host, mirrors.identity, mirrors.settings,
    mirrors.registry, mirrors.stopRequested]
  have snapshot : other.dispatcher.snapshot =
      { shared.dispatcher.snapshot with counters :=
        other.dispatcher.counters } := by
    simp only [Dispatcher.snapshot, mirrors.depths]
  rw [snapshot]
  split
  · exact .view _ _
  · exact .view _ _
  · exact .same _

theorem perform_mirrors (falters : client.Falters faltering states pauses)
    (mirrors : shared.Mirrors states past past' lost other)
    (frames : List.Forall₂ (Frame.Mirrors pauses) stack stack')
    (request : Request) :
    (shared.perform client around stack request).Mirrors states pauses
      past past' lost
      (other.perform faltering around stack' request) := by
  simp only [perform, mirrors.host]
  split
  case h_2 | h_4 | h_5 | h_6 | h_7 | h_10 | h_15 => exact .run mirrors frames _
  case h_1 | h_16 => exact .answer mirrors frames _
  case h_3 =>
    exact ⟨mirrors, frames, .answer (view_mirrors mirrors around), rfl⟩
  case h_8 =>
    rcases mirrors.askTypeName falters with ⟨name, named⟩
    rw [name]
    exact .answer named frames _
  case h_9 => exact .run ((mirrors.withHost .closed).withStop true) frames _
  case h_11 => exact .run (mirrors.withStop true) frames _
  case h_12 id stream =>
    simp only [register, mirrors.registry]
    split
    · exact .answer mirrors frames _
    · exact .answer ((mirrors.withRegistry _).notice _) frames _
  case h_13 id =>
    simp only [unregister, mirrors.registry]
    split
    · exact .answer mirrors frames _
    · exact .answer ((mirrors.withRegistry _).notice _) frames _
  case h_14 => exact ⟨mirrors.withHost _, frames, .same _, rfl⟩

theorem serve_mirrors (mirrors : shared.Mirrors states past past' lost other)
    (frames : List.Forall₂ (Frame.Mirrors pauses) stack stack')
    (cycle : Cycle) :
    (shared.serve stack cycle).Mirrors states pauses past past' lost
      (other.serve stack' cycle) := by
  simp only [serve]
  split
  · exact .run mirrors frames _
  · rename_i channel remaining _
    obtain ⟨none, none'⟩ | ⟨entry, dispatcher, dispatcher', popped,
      popped', rest⟩ :=
      mirrors.pop? channel
    · rw [none, none']
      exact .run mirrors frames _
    · rw [popped, popped']
      exact .run (rest.tell (.drained entry)) frames _

theorem route_mirrors (mirrors : shared.Mirrors states past past' lost other)
    (frames : List.Forall₂ (Frame.Mirrors pauses) stack stack')
    {alive alive' : SessionHandle → Bool}
    (lives : ∀ session, alive' session = alive session) (entry : Sequenced Item)
    (cycle : Cycle) :
    (shared.route alive stack entry cycle).Mirrors states pauses past past' lost
      (other.route alive' stack' entry cycle) := by
  simp only [route, mirrors.registry, lives]
  split
  · split
    · exact .call mirrors frames (.sending _ _ _ _) _
    · exact .run
        ((mirrors.count
          fun counters => counters.losing_frameDropped lost).notice _)
        frames _
  · split
    · exact .call mirrors frames (.receiving _ _ _) _
    · exact .run
        ((mirrors.count
          fun counters => counters.losing_packetDropped lost).notice _)
        frames _

/-- The reports on queue depths differ in what they tell about dropped items. -/
theorem reportDepths_mirrors
    (mirrors : shared.Mirrors states past past' lost other) :
    shared.reportDepths.Mirrors states past past' lost other.reportDepths := by
  simp only [reportDepths, mirrors.depths]
  exact (mirrors.count fun _ => rfl).tell (.reported _ _ _)

theorem check_mirrors (mirrors : shared.Mirrors states past past' lost other)
    (frames : List.Forall₂ (Frame.Mirrors pauses) stack stack') (idle : Bool)
    (watch : Nat) :
    (shared.check stack idle watch).Mirrors states pauses past past' lost
      (other.check stack' idle watch) := by
  have due : other.reportDue watch = shared.reportDue watch := by
    simp only [reportDue, mirrors.settings, mirrors.clock]
  simp only [check, mirrors.stopRequested, mirrors.clock, due]
  split
  · exact .run mirrors frames _
  · cases shared.reportDue watch with
    | true => exact .run (reportDepths_mirrors mirrors) frames _
    | false => exact .run mirrors frames _

theorem await_mirrors (mirrors : shared.Mirrors states past past' lost other)
    (frames : List.Forall₂ (Frame.Mirrors pauses) stack stack')
    (self : ThreadId) (watch : Nat) :
    (shared.await stack self watch).Mirrors states pauses past past' lost
      (other.await stack' self watch) := by
  simp only [await, mirrors.wake]
  split
  · exact .run (mirrors.withWake _) frames _
  · exact .run (mirrors.withWake _) frames _

theorem parked_mirrors (mirrors : shared.Mirrors states past past' lost other)
    (frames : List.Forall₂ (Frame.Mirrors pauses) stack stack')
    (self : ThreadId) (watch : Nat) :
    (shared.parked stack self watch).Mirrors states pauses past past' lost
      (other.parked stack' self watch) := by
  simp only [parked, mirrors.wake]
  split
  · exact .run (mirrors.withWake _) frames _
  · exact .run mirrors frames _

theorem create_mirrors (mirrors : shared.Mirrors states past past' lost other)
    (frames : List.Forall₂ (Frame.Mirrors pauses) stack stack')
    (descriptor : Descriptor) :
    (shared.create stack descriptor).Mirrors states pauses past past' lost
      (other.create stack' descriptor) := by
  simp only [create, mirrors.registry, mirrors.settings]
  split
  · exact .answer (mirrors.notice _) frames _
  · exact .call mirrors frames (.creating descriptor) _

theorem insert_mirrors (mirrors : shared.Mirrors states past past' lost other)
    (frames : List.Forall₂ (Frame.Mirrors pauses) stack stack')
    (descriptor : Descriptor) (stream : Stream) :
    (shared.insert stack descriptor stream).Mirrors states pauses
      past past' lost
      (other.insert stack' descriptor stream) := by
  have workers : other.settings.workers = shared.settings.workers :=
    congrArg Settings.workers mirrors.settings
  simp only [insert, mirrors.registry, workers]
  split
  · exact .call mirrors frames (.losing descriptor _) _
  · exact .answer (((mirrors.withRegistry _).notice _).notice _) frames _

theorem delete_mirrors (mirrors : shared.Mirrors states past past' lost other)
    (frames : List.Forall₂ (Frame.Mirrors pauses) stack stack')
    (descriptor : Descriptor) :
    (shared.delete stack descriptor).Mirrors states pauses past past' lost
      (other.delete stack' descriptor) := by
  simp only [delete, mirrors.registry]
  split
  · exact .answer (mirrors.notice _) frames _
  · exact .call mirrors frames (.releasing descriptor _) _

theorem remove_mirrors (mirrors : shared.Mirrors states past past' lost other)
    (frames : List.Forall₂ (Frame.Mirrors pauses) stack stack')
    (descriptor : Descriptor) (stream : Stream) :
    (shared.remove stack descriptor stream).Mirrors states pauses
      past past' lost
      (other.remove stack' descriptor stream) := by
  simp only [remove, mirrors.registry]
  split
  · exact .answer mirrors frames _
  · exact .call ((mirrors.withRegistry _).notice _) frames
      (.stopping descriptor) _

theorem launch_mirrors (falters : client.Falters faltering states pauses)
    (mirrors : shared.Mirrors states past past' lost other)
    (frames : List.Forall₂ (Frame.Mirrors pauses) stack stack')
    (task : ThreadId) :
    (shared.launch client stack task).Mirrors states pauses past past' lost
      (other.launch faltering stack' task) := by
  have launched := (mirrors.withStop false).updateApplication fun application =>
    { application with worker := some task, phase := .running }
  rcases launched.askTypeName falters with ⟨name, named⟩
  simp only [launch, name]
  exact ⟨named.notice _, frames, .same _, rfl⟩

theorem start_mirrors (falters : client.Falters faltering states pauses)
    (mirrors : shared.Mirrors states past past' lost other)
    (frames : List.Forall₂ (Frame.Mirrors pauses) stack stack') :
    (shared.start client around stack).Mirrors states pauses past past' lost
      (other.start faltering around stack') := by
  simp only [start, mirrors.host]
  split
  · split
    · exact .run mirrors frames _
    · split
      · exact launch_mirrors falters mirrors frames _
      · split
        · exact .answer mirrors frames _
        · rename_i ending _
          refine launch_mirrors falters ?_ frames _
          cases ending with
          | finished => exact mirrors
          | _ => exact mirrors.notice _
  · exact .answer mirrors frames _
  · exact .answer mirrors frames _

theorem stop_mirrors (mirrors : shared.Mirrors states past past' lost other)
    (frames : List.Forall₂ (Frame.Mirrors pauses) stack stack') :
    (shared.stop stack).Mirrors states pauses past past' lost
    (other.stop stack') := by
  simp only [stop, mirrors.host]
  split
  · split
    · exact .run mirrors frames _
    · split
      · exact .answer mirrors frames _
      · exact .run ((mirrors.withHost _).withStop true) frames _
  · exact .answer mirrors frames _
  · exact .answer mirrors frames _

theorem awaitTask_mirrors (falters : client.Falters faltering states pauses)
    (mirrors : shared.Mirrors states past past' lost other)
    (frames : List.Forall₂ (Frame.Mirrors pauses) stack stack')
    (task : ThreadId) :
    (shared.awaitTask client around stack task).Mirrors states pauses
      past past' lost
      (other.awaitTask faltering around stack' task) := by
  simp only [awaitTask]
  split
  · exact .run mirrors frames _
  · rename_i ending _
    have unlocked := mirrors.updateApplication fun application =>
      { application with locked := false, phase := .stopped }
    refine .answer ?_ frames _
    cases ending with
    | finished =>
        rcases unlocked.askTypeName falters with ⟨name, named⟩
        simp only [noticeStopped, name, unlocked.depths]
        exact named.notice _
    | _ => exact unlocked.notice _

theorem join_mirrors (mirrors : shared.Mirrors states past past' lost other)
    (frames : List.Forall₂ (Frame.Mirrors pauses) stack stack')
    (task : ThreadId) :
    (shared.join around stack task).Mirrors states pauses past past' lost
      (other.join around stack' task) := by
  simp only [join]
  split
  · exact .run mirrors frames _
  · exact .answer (mirrors.withHost _) frames _

/-- Two threads carry out the same instruction. -/
theorem execute_mirrors (falters : client.Falters faltering states pauses)
    (mirrors : shared.Mirrors states past past' lost other)
    (frames : List.Forall₂ (Frame.Mirrors pauses) stack stack')
    {instruction : Instruction} (fits : instruction.Fits stack) :
    (shared.execute client around stack instruction).Mirrors states pauses
      past past' lost
        (other.execute faltering around stack' instruction) ∨
      Turn.Lapses states pauses past past' lost
        (shared.execute client around stack instruction)
        (other.execute faltering around stack' instruction) := by
  cases instruction with
  | call callback =>
      have working : ClientFits (some callback) stack := fits
      exact clientMove_mirrors (mirrors.tell (.called callback)) frames working
        (falters.begins callback mirrors.client)
  | perform request =>
      exact .inl (perform_mirrors falters mirrors frames request)
  | answer answer => exact .inl (.answer mirrors frames answer)
  | stamp item => exact .inl (.run (mirrors.stamp item) frames _)
  | push item =>
      rcases mirrors.push item with ⟨entry, pushed⟩
      simp only [execute, push, entry]
      exact .inl (.run (pushed.tell (.submitted _)) frames _)
  | signal entry next => exact .inl (.run (mirrors.withWake _) frames next)
  | cycle cycle => exact .inl (serve_mirrors mirrors frames cycle)
  | route entry cycle =>
      refine .inl (route_mirrors mirrors frames (fun session => ?_) entry cycle)
      rw [falters.holds mirrors.client]
  | begin =>
      simp only [execute, begin, mirrors.clock]
      exact .inl (.run (mirrors.notice _) frames _)
  | check idle watch => exact .inl (check_mirrors mirrors frames idle watch)
  | await watch => exact .inl (await_mirrors mirrors frames _ watch)
  | parked watch => exact .inl (parked_mirrors mirrors frames _ watch)
  | recheck watch =>
      simp only [execute, recheck, mirrors.stopRequested]
      exact .inl (.run mirrors frames _)
  | leave =>
      simp only [execute, leave, mirrors.settings]
      exact .inl (.run mirrors frames _)
  | farewell =>
      simp only [execute, farewell, mirrors.depths]
      exact .inl (.answer (mirrors.notice _) frames _)
  | create descriptor => exact .inl (create_mirrors mirrors frames descriptor)
  | insert descriptor stream =>
      exact .inl (insert_mirrors mirrors frames descriptor stream)
  | delete descriptor => exact .inl (delete_mirrors mirrors frames descriptor)
  | remove descriptor stream =>
      exact .inl (remove_mirrors mirrors frames descriptor stream)
  | start => exact .inl (start_mirrors falters mirrors frames)
  | stop => exact .inl (stop_mirrors mirrors frames)
  | awaitTask task => exact .inl (awaitTask_mirrors falters mirrors frames task)
  | join task => exact .inl (join_mirrors mirrors frames task)

/-- A reply is handed to the same frame. -/
theorem deliver_reply_mirrors
    (mirrors : shared.Mirrors states past past' lost other)
    (frames : List.Forall₂ (Frame.Mirrors pauses) stack stack') (reply : Reply)
    {frame : Frame κ} {frame' : Frame κ'} (same : frame.Mirrors pauses frame') :
    (shared.deliver client stack (.reply reply) frame).Mirrors states pauses
      past past' lost
      (other.deliver faltering stack' (.reply reply) frame') := by
  cases same with
  | client same => exact ⟨mirrors, frames, .same _, rfl⟩
  | sending seq kind streamId cycle =>
      exact .run
        (mirrors.count fun counters => counters.losing_frameDelivered lost kind)
        frames _
  | receiving seq session cycle =>
      exact .run
        (mirrors.count fun counters => counters.losing_packetDelivered lost)
          frames _
  | reporting seq session payload cycle =>
      exact .pass (mirrors.notice _) frames (cycle.afterLoss payload)
  | creating descriptor =>
      simp only [deliver, built]
      cases reply.stream with
      | none => exact .answer (mirrors.notice _) frames _
      | some stream => exact .run mirrors frames _
  | losing descriptor error => exact .answer (mirrors.notice _) frames _
  | releasing descriptor stream =>
      simp only [deliver, released]
      cases reply.accepted with
      | true => exact .run mirrors frames _
      | false => exact .answer (mirrors.notice _) frames _
  | stopping descriptor => exact .answer (mirrors.notice _) frames _

/-- A panic that both clients have is handed to the same frame of the
switchboard. -/
theorem deliver_raise_mirrors
    (mirrors : shared.Mirrors states past past' lost other)
    (frames : List.Forall₂ (Frame.Mirrors pauses) stack stack')
    (payload : Payload) {frame : Frame κ} {frame' : Frame κ'}
    (same : frame.Mirrors pauses frame')
    (own : ∀ callback state, frame ≠ .client callback state) :
    (shared.deliver client stack (.raise payload) frame).Mirrors states pauses
      past past' lost
      (other.deliver faltering stack' (.raise payload) frame') := by
  cases same with
  | client same => exact absurd rfl (own _ _)
  | sending seq kind streamId cycle =>
      exact .pass
        ((mirrors.count
          fun counters => counters.losing_frameDropped lost).notice _)
        frames (cycle.afterLoss payload)
  | receiving seq session cycle =>
      exact .call
        (mirrors.count fun counters => counters.losing_packetDropped lost)
          frames
        (.reporting seq session payload cycle) _
  | _ => exact ⟨mirrors, frames, .same _, rfl⟩

/-- What arrives is handed to the same frame. -/
theorem deliver_mirrors (falters : client.Falters faltering states pauses)
    (mirrors : shared.Mirrors states past past' lost other)
    (frames : List.Forall₂ (Frame.Mirrors pauses) stack stack')
    {control control' : Control} (controls : control.Mirrors control')
    (arrives : ∀ instruction, control ≠ .run instruction) {frame : Frame κ}
    {frame' : Frame κ'} (same : frame.Mirrors pauses frame')
    (fits : control.Fits (frame :: stack)) :
    (shared.deliver client stack control frame).Mirrors states pauses
      past past' lost
        (other.deliver faltering stack' control' frame') ∨
      Turn.Lapses states pauses past past' lost
        (shared.deliver client stack control frame)
        (other.deliver faltering stack' control' frame') := by
  obtain ⟨callback, state, state', pause, rfl, rfl⟩ | own := same.client_or_own
  · -- Client code that waits is told how its request came back.
    have resumed {response response' : Response}
        (came : response.Mirrors response')
        (answered : Expected.answer.Fits (.client callback state :: stack)) :=
      clientMove_mirrors mirrors frames
        (Expected.answer_fits_client_iff.mp answered)
        (falters.resumes pause came mirrors.client)
    cases controls with
    | answer same => exact resumed (.answered same) fits
    | same =>
        cases control with
        | run instruction => exact absurd rfl (arrives instruction)
        | answer answer => exact resumed (.answered (.same answer)) fits
        | raise payload =>
            refine resumed (.panicked payload) ?_
            rcases fits with answered | ⟨_, replied⟩
            · exact answered
            · exact (Expected.reply_fits_cons_iff.mp replied).1.elim
        | reply reply =>
            exact .inl (deliver_reply_mirrors mirrors frames reply same)
        | cancelled => exact .inl ⟨mirrors, frames, .same _, rfl⟩
  · rcases fits.arrives arrives own with ⟨reply, rfl⟩ | ⟨payload, rfl⟩
    · cases controls with
      | same => exact .inl (deliver_reply_mirrors mirrors frames reply same)
    · cases controls with
      | same =>
          exact .inl (deliver_raise_mirrors mirrors frames payload same own)

/-- Two threads at the same place make the same move, or the second panics where
the first returns from a callback with an item. -/
theorem move_mirrors (falters : client.Falters faltering states pauses)
    (around : Surroundings)
    (mirrors : shared.Mirrors states past past' lost other)
    (frames : List.Forall₂ (Frame.Mirrors pauses) stack stack')
    {control control' : Control} (controls : control.Mirrors control')
    (fits : control.Fits stack) :
    (shared.move client around stack control).Mirrors states pauses
      past past' lost
        (other.move faltering around stack' control') ∨
      Turn.Lapses states pauses past past' lost
        (shared.move client around stack control)
        (other.move faltering around stack' control') := by
  cases frames with
  | nil =>
      cases controls with
      | answer same => exact .inl ⟨mirrors, .nil, .answer same, rfl⟩
      | same =>
          cases control with
          | run instruction => exact execute_mirrors falters mirrors .nil fits
          | _ => exact .inl ⟨mirrors, .nil, .same _, rfl⟩
  | cons same frames =>
      cases controls with
      | answer shown =>
          exact deliver_mirrors falters mirrors frames (.answer shown)
            (fun _ => Control.noConfusion) same fits
      | same =>
          cases control with
          | run instruction =>
              exact execute_mirrors falters mirrors (.cons same frames) fits
          | _ =>
              exact deliver_mirrors falters mirrors frames (.same _)
                (fun _ => Control.noConfusion) same fits

end Shared

end Switchboard
