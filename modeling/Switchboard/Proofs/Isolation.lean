import Switchboard.Proofs.Abreast

/-!
# A panic stays with its item

Two runs from twin worlds, the second with a client that panics over some items,
are compared after the same number of dispatch cycles.  The same callbacks have
been made with the same arguments, the same waits in the queues and stands in
the registry, and the counters and the log differ by the lost calls only.  Every
choice of calls that fail makes such a client.
-/

namespace Switchboard

variable {σ σ' κ κ' ν ν' : Type}

/-! ## What the journals have in common -/

namespace Happening

/-- The callback that a happening begins, apart from the question for a
session's number. -/
def begun? : Happening ν → Option Callback
  | .called (.sessionNumber _) => none
  | .called callback => some callback
  | _ => none

/-- The callback that a happening tells to have panicked. -/
def panicked? : Happening ν → Option Callback
  | .panicked callback _ => some callback
  | _ => none

/-- Whether a session is asked for its number. -/
def asksNumber : Happening ν → Bool
  | .called (.sessionNumber _) => true
  | _ => false

/-- Whether a happening is an error in the log. -/
def isError : Happening ν → Bool
  | .noticed notice => notice.level = .error
  | _ => false

theorem Mirrors.begun_eq {happening : Happening ν} {happening' : Happening ν'}
    (same : happening.Mirrors happening') :
    happening'.begun? = happening.begun? := by
  cases same with
  | called callback => cases callback <;> rfl
  | _ => rfl

theorem Mirrors.panicked_eq {happening : Happening ν}
    {happening' : Happening ν'} (same : happening.Mirrors happening') :
    happening'.panicked? = happening.panicked? := by
  cases same <;> rfl

theorem Mirrors.asksNumber_eq {happening : Happening ν}
    {happening' : Happening ν'} (same : happening.Mirrors happening') :
    happening'.asksNumber = happening.asksNumber := by
  cases same with
  | called callback => cases callback <;> rfl
  | _ => rfl

theorem Mirrors.isError_eq {happening : Happening ν} {happening' : Happening ν'}
    (same : happening.Mirrors happening') :
    happening'.isError = happening.isError := by
  cases same <;> rfl

end Happening

namespace Mirrored

variable {past : List (Happening ν)} {past' : List (Happening ν')}
  {lost : List Callback} {journal : List (Happening ν)}
  {journal' : List (Happening ν')}

/-- What was told earlier does not matter. -/
theorem since (told : Mirrored past past' lost journal journal') :
    ∃ recent recent', journal = recent ++ past ∧ journal' = recent' ++ past' ∧
      Mirrored [] [] lost recent recent' := by
  induction told with
  | start => exact ⟨[], [], rfl, rfl, .start⟩
  | both same _ inductionHypothesis =>
      obtain ⟨recent, recent', rfl, rfl, told⟩ := inductionHypothesis
      exact ⟨_, _, rfl, rfl, .both same told⟩
  | notes notes notes' _ inductionHypothesis =>
      obtain ⟨recent, recent', rfl, rfl, told⟩ := inductionHypothesis
      refine ⟨_, _, ?_, ?_, .notes notes notes' told⟩
      · rw [List.append_assoc]
      · rw [List.append_assoc]
  | frame kind stream packet reply payload streamId seq _ inductionHypothesis =>
      obtain ⟨recent, recent', rfl, rfl, told⟩ := inductionHypothesis
      exact ⟨_, _, rfl, rfl,
        .frame kind stream packet reply payload streamId seq told⟩
  | packet session data reply number payload seq notes _ inductionHypothesis =>
      obtain ⟨recent, recent', rfl, rfl, told⟩ := inductionHypothesis
      refine ⟨_, _, rfl, ?_,
        .packet session data reply number payload seq notes told⟩
      simp only [List.cons_append, List.append_assoc]

/-- Every lost call was one with an item. -/
theorem routes (told : Mirrored past past' lost journal journal') :
    ∀ callback ∈ lost, callback.channel?.isSome = true := by
  induction told with
  | start => exact fun _ member => absurd member List.not_mem_nil
  | both _ _ inductionHypothesis => exact inductionHypothesis
  | notes _ _ _ inductionHypothesis => exact inductionHypothesis
  | frame _ _ _ _ _ _ _ _ inductionHypothesis =>
      exact List.forall_mem_cons.mpr ⟨rfl, inductionHypothesis⟩
  | packet _ _ _ _ _ _ _ _ inductionHypothesis =>
      exact List.forall_mem_cons.mpr ⟨rfl, inductionHypothesis⟩

/-- The same callbacks have begun, in the same order. -/
theorem begun_eq (told : Mirrored [] [] lost journal journal') :
    journal'.filterMap Happening.begun? =
      journal.filterMap Happening.begun? := by
  induction told with
  | start => rfl
  | both same _ inductionHypothesis =>
      simp only [List.filterMap_cons, same.begun_eq, inductionHypothesis]
  | notes notes notes' _ inductionHypothesis =>
      rw [Happening.filterMap_notes (fun _ => rfl),
        Happening.filterMap_notes (fun _ => rfl), inductionHypothesis]
  | frame kind stream packet reply payload streamId seq _ inductionHypothesis =>
      exact inductionHypothesis
  | packet session data reply number payload seq notes _ inductionHypothesis =>
      simp only [List.filterMap_cons, Happening.begun?]
      rw [Happening.filterMap_notes (fun _ => rfl)]
      exact inductionHypothesis

/-- The calls that have panicked are those of the first journal and the lost
ones. -/
theorem panicked_perm (told : Mirrored [] [] lost journal journal') :
    (journal'.filterMap Happening.panicked?).Perm
      (lost ++ journal.filterMap Happening.panicked?) := by
  induction told with
  | start => exact .refl _
  | @both lost journal journal' happening happening' same _
      inductionHypothesis =>
      simp only [List.filterMap_cons, same.panicked_eq]
      split
      · exact inductionHypothesis
      · exact (inductionHypothesis.cons _).trans List.perm_middle.symm
  | notes notes notes' _ inductionHypothesis =>
      rw [Happening.filterMap_notes (fun _ => rfl),
        Happening.filterMap_notes (fun _ => rfl)]
      exact inductionHypothesis
  | frame kind stream packet reply payload streamId seq _ inductionHypothesis =>
      exact inductionHypothesis.cons _
  | packet session data reply number payload seq notes _ inductionHypothesis =>
      simp only [List.filterMap_cons, Happening.panicked?]
      rw [Happening.filterMap_notes (fun _ => rfl)]
      exact inductionHypothesis.cons _

/-- The second journal tells of one more question for a session's number for
each packet that was lost. -/
theorem asksNumber_eq (told : Mirrored [] [] lost journal journal') :
    journal'.countP Happening.asksNumber =
      journal.countP Happening.asksNumber + lostOn lost .packets := by
  induction told with
  | start => rfl
  | both same _ inductionHypothesis =>
      rw [List.countP_cons, List.countP_cons, same.asksNumber_eq,
        inductionHypothesis]
      exact Nat.add_right_comm _ _ _
  | notes notes notes' _ inductionHypothesis =>
      rw [Happening.countP_notes (fun _ => rfl),
        Happening.countP_notes (fun _ => rfl), inductionHypothesis]
  | frame kind stream packet reply payload streamId seq _ inductionHypothesis =>
      simp only [List.countP_cons, inductionHypothesis, lostOn_cons]
      cases kind <;> rfl
  | packet session data reply number payload seq notes _ inductionHypothesis =>
      have silent (note : ν') : (Happening.noted note).asksNumber = false := rfl
      simp only [List.countP_cons, Happening.countP_notes silent,
        inductionHypothesis, lostOn_cons]
      rfl

/-- The second journal tells of one more error for each lost call. -/
theorem errors_eq (told : Mirrored [] [] lost journal journal') :
    journal'.countP Happening.isError =
      journal.countP Happening.isError + lost.length := by
  induction told with
  | start => rfl
  | both same _ inductionHypothesis =>
      rw [List.countP_cons, List.countP_cons, same.isError_eq,
        inductionHypothesis]
      exact Nat.add_right_comm _ _ _
  | notes notes notes' _ inductionHypothesis =>
      rw [Happening.countP_notes (fun _ => rfl),
        Happening.countP_notes (fun _ => rfl), inductionHypothesis]
  | frame kind stream packet reply payload streamId seq _ inductionHypothesis =>
      simp only [List.countP_cons, inductionHypothesis]
      rfl
  | packet session data reply number payload seq notes _ inductionHypothesis =>
      have silent (note : ν') : (Happening.noted note).isError = false := rfl
      simp only [List.countP_cons, Happening.countP_notes silent,
        inductionHypothesis]
      rfl

end Mirrored

variable {states : σ → σ' → Prop} {pauses : Option Callback → κ → κ' → Prop}
  {lost : List Callback}

namespace World

/-! ## What the runs have in common -/

/-- What has happened in two runs, newest first, differs by the lost calls only.
The same callbacks have begun with the same arguments in the same order, only
that a session that has lost a packet was also asked for its number.  The lost
calls are those that have panicked in addition, and for each of them the log has
one more error. -/
structure Spares (lost : List Callback) (recent : List (Happening ν))
    (recent' : List (Happening ν')) : Prop where
  begun : recent'.filterMap Happening.begun? = recent.filterMap Happening.begun?
  asked : recent'.countP Happening.asksNumber =
    recent.countP Happening.asksNumber + lostOn lost .packets
  panicked : (recent'.filterMap Happening.panicked?).Perm
    (lost ++ recent.filterMap Happening.panicked?)
  routes : ∀ callback ∈ lost, callback.channel?.isSome = true
  errors : recent'.countP Happening.isError =
    recent.countP Happening.isError + lost.length
  told : Mirrored [] [] lost recent recent'

/-- Two runs have gone from twins to worlds with equal queues, registries and
last timestamps.  In the counters each lost call stands as dropped instead of as
delivered on its channel. -/
structure Isolates (lost : List Callback) (world after : World σ κ ν)
    (world' after' : World σ' κ' ν') : Prop where
  queues : after'.shared.dispatcher.queues = after.shared.dispatcher.queues
  registry : after'.shared.registry = after.shared.registry
  video : after'.shared.dispatcher.counters.lastVideoMillis =
    after.shared.dispatcher.counters.lastVideoMillis
  audio : after'.shared.dispatcher.counters.lastAudioMillis =
    after.shared.dispatcher.counters.lastAudioMillis
  counters :
    after'.shared.dispatcher.counters =
      after.shared.dispatcher.counters.losing lost
  happened :
    ∃ recent recent', after.shared.journal = recent ++ world.shared.journal ∧
    after'.shared.journal = recent' ++ world'.shared.journal ∧
      Spares lost recent recent'

theorem Isolates.of_mirrors {world after : World σ κ ν}
    {world' after' : World σ' κ' ν'}
    (mirrors :
      after.Mirrors states pauses world.shared.journal
        world'.shared.journal lost
      after') : Isolates lost world after world' after' := by
  have counters : after'.shared.dispatcher.counters =
      after.shared.dispatcher.counters.losing lost := by
    rw [mirrors.shared.dispatcher]
    rfl
  refine
    { queues := mirrors.shared.queues
      registry := mirrors.shared.registry
      video := by rw [counters]; rfl
      audio := by rw [counters]; rfl
      counters := counters
      happened := ?_ }
  rcases mirrors.shared.journal.since with
    ⟨recent, recent', former, latter, told⟩
  exact ⟨recent, recent', former, latter, told.begun_eq, told.asksNumber_eq,
    told.panicked_perm, told.routes, told.errors_eq, told⟩

/-- A panic over an item leaves no trace but that the item is counted as dropped
and that the log tells of it.  Let the second of two clients do what the first
does, except that it also panics at the end of some callbacks with items.  Then
a thread that works alone ends as many dispatch cycles in the second of two twin
worlds as in the first, wherever it starts and whatever client code asks for
meanwhile.  After the same number of cycles the two worlds differ by the lost
calls only, and the second thread has made two moves more for each lost
packet. -/
theorem Twins.isolates {client : Client σ κ ν} {faltering : Client σ' κ' ν'}
    (falters : client.Falters faltering states pauses) {world : World σ κ ν}
    {world' : World σ' κ' ν'} (twins : world.Twins states pauses world')
    (fits : ∀ thread ∈ world.threads, thread.Fits) (self : ThreadId)
    (cycles : Nat) : ((∃ moves, world.HasCycled client self cycles moves) ↔
        ∃ moves', world'.HasCycled faltering self cycles moves') ∧
      ∀ moves moves', world.HasCycled client self cycles moves →
        world'.HasCycled faltering self cycles moves' →
          ∃ lost, moves' = moves + 2 * lostOn lost .packets ∧
            Isolates lost world (world.alone client self moves) world'
              (world'.alone faltering self moves') := by
  refine ⟨⟨?_, ?_⟩, fun moves moves' ended ended' => ?_⟩
  · rintro ⟨moves, ended⟩
    rcases twins.hasCycled falters fits ended with ⟨_, moves', ended', _⟩
    exact ⟨moves', ended'⟩
  · rintro ⟨moves', ended'⟩
    exact twins.exists_hasCycled falters fits ended'
  · rcases twins.hasCycled falters fits ended with
      ⟨lost, later, ended'', abreast⟩
    cases ended''.unique ended'
    exact ⟨lost, abreast.longer, .of_mirrors abreast.mirrors⟩

end World

/-! ## Clients that fail -/

/-- A turn of client code that panics instead of returning from an item if that
is the number of a call that fails. -/
def ClientTurn.failing (turn : ClientTurn σ κ ν) (fails : Nat → Option Payload)
    (callback : Option Callback) (calls : Nat) :
    ClientTurn (σ × Nat) (Option Callback × κ) ν :=
  match turn.move with
  | .perform request next =>
      { state := (turn.state, calls)
        notes := turn.notes
        move := .perform request (callback, next) }
  | .panic payload =>
      { state := (turn.state, calls)
        notes := turn.notes
        move := .panic payload }
  | .finish reply =>
      if (callback.bind Callback.channel?).isSome then
        { state := (turn.state, calls + 1)
          notes := turn.notes
          move := (fails calls).elim (.finish reply) .panic }
      else
        { state := (turn.state, calls)
          notes := turn.notes
          move := .finish reply }

/-- A client that does what another does, but panics at the end of the chosen
calls with items.  The calls are numbered in the order in which they come to
their end. -/
def Client.failing (client : Client σ κ ν) (fails : Nat → Option Payload) :
    Client (σ × Nat) (Option Callback × κ) ν where
  begin callback state :=
    (client.begin callback state.1).failing fails (some callback) state.2
  resume suspended response state :=
    (client.resume suspended.2 response state.1).failing fails
      suspended.1 state.2
  holds state := client.holds state.1
  publisherName state := client.publisherName state.1

/-- Sessions answer at once when they are asked for their numbers and do nothing
else, and client code does the same whatever the counters show. -/
structure Client.IsPlain (client : Client σ κ ν) : Prop where
  numbers (session : SessionHandle) (state : σ) :
    (∃ reply,
      (client.begin (.sessionNumber session) state).move = .finish reply) ∧
      (client.begin (.sessionNumber session) state).state = state
  blind (suspended : κ) (view : View) (counters : Counters) (state : σ) :
    client.resume suspended
        (.answered
          (.view { view with snapshot :=
            { view.snapshot with counters := counters } }))
        state =
      client.resume suspended (.answered (.view view)) state

/-- Any choice of calls that fail, with any payloads whose destruction does not
panic, makes a client that falters. -/
theorem Client.IsPlain.falters {client : Client σ κ ν} (plain : client.IsPlain)
    {fails : Nat → Option Payload}
    (harmless : ∀ call, ∀ payload ∈ fails call, payload.aftermath? = none) :
    client.Falters (client.failing fails) (fun state state' => state'.1 = state)
      fun callback suspended suspended' =>
        suspended' = (callback, suspended) := by
  have turns (turn : ClientTurn σ κ ν) (callback : Option Callback)
      (calls : Nat) :
      turn.Mirrors (fun state (state' : σ × Nat) => state'.1 = state)
        (fun callback suspended suspended' => suspended' =
          (callback, suspended)) callback
        (turn.failing fails callback calls) := by
    rcases turn with ⟨state, notes, move⟩
    cases move with
    | perform request next => exact ⟨rfl, .perform request rfl⟩
    | panic payload => exact ⟨rfl, .panic payload⟩
    | finish reply =>
        simp only [ClientTurn.failing]
        split
        · rename_i routes
          refine ⟨rfl, ?_⟩
          dsimp only
          cases failing : fails calls with
          | none => exact .finish reply
          | some payload =>
              cases callback with
              | none => cases routes
              | some callback =>
                  exact .falters rfl routes reply
                    (harmless calls payload failing)
        · exact ⟨rfl, .finish reply⟩
  exact
    { begins := fun callback state state' same => by
        subst same
        exact turns _ _ _
      resumes := fun {callback suspended suspended'} pause response response'
          came state state' same => by
        subst same pause
        cases came with
        | panicked payload => exact turns _ _ _
        | answered same =>
            cases same with
            | same answer => exact turns _ _ _
            | view view counters =>
                rw [← plain.blind suspended view counters]
                exact turns _ _ _
      holds := fun same session => by
        subst same
        rfl
      publisherName := fun same => by
        subst same
        rfl
      numbers := fun session state state' same => by
        subst same
        rcases plain.numbers session state'.1 with ⟨⟨reply, answers⟩, stays⟩
        refine ⟨reply, ?_, ?_⟩
        · simp only [Client.failing, ClientTurn.failing, answers]
          rfl
        · simp only [Client.failing, ClientTurn.failing, answers]
          exact stays }

/-- Client code whose streams submit the data of every frame as a packet. -/
def Client.relaying : Client Unit Unit Unit where
  begin callback state :=
    { state := state
      notes := []
      move :=
        match callback with
        | .sendFrame _ _ packet => .perform (.submit (.packet 0 packet.data)) ()
        | _ => .finish .plain }
  resume _ _ state :=
    { state := state
      notes := []
      move := .finish .plain }
  holds _ _ := true
  publisherName _ := none

/-- Two frames wait, and each is passed on as a packet.  In the second world the
stream panics over the first frame and the session over the second packet.
After two cycles of the drain one frame and one packet count as dropped there,
and the log has two errors more. -/
theorem World.Twins.isolates_two_cycles :
    let descriptor := Descriptor.new 7 "camera"
    let frame (data : Bytes) : Item :=
      .frame .video descriptor (.video 0 0 0 data true)
    let fails (call : Nat) : Option Payload :=
      if call = 0 then some (.text "boom") else if call =
        3 then some .other else none
    let shared (σ : Type) (client : σ) : Shared σ Unit :=
      { Shared.new ⟨1, "app"⟩ .standard (.alone none) client with
        dispatcher := (Dispatcher.new.push (frame [1])).push (frame [2])
        registry := Table.empty.insert 7 ⟨0, "camera"⟩ }
    let world : World Unit Unit Unit :=
      ⟨shared Unit (), [⟨.task, [], .run (.cycle (.fresh .drain))⟩]⟩
    let world' : World (Unit × Nat) (Option Callback × Unit) Unit :=
      ⟨shared (Unit × Nat) ((), 0),
        [⟨.task, [], .run (.cycle (.fresh .drain))⟩]⟩
    let after := world.alone .relaying 0 32
    let after' := world'.alone (Client.relaying.failing fails) 0 34
    (∃ lost, lost.length = 2 ∧ Isolates lost world after world' after') ∧
      (after.shared.dispatcher.counters.droppedFrames = 0 ∧
        after.shared.dispatcher.counters.droppedPackets = 0) ∧
      after'.shared.dispatcher.counters.droppedFrames = 1 ∧
        after'.shared.dispatcher.counters.droppedPackets = 1 := by
  intro descriptor frame fails shared world world' after after'
  have plain : Client.relaying.IsPlain :=
    ⟨fun _ _ => ⟨⟨.plain, rfl⟩, rfl⟩, fun _ _ _ _ => rfl⟩
  have twins : world.Twins (fun state (state' : Unit × Nat) => state'.1 = state)
      (fun callback suspended suspended' => suspended' = (callback, suspended))
        world' :=
    ⟨rfl, rfl, rfl, rfl, rfl, rfl, rfl, .cons ⟨rfl, .nil, .same _⟩ .nil⟩
  have fits : ∀ thread ∈ world.threads, thread.Fits := by
    intro thread member
    rw [List.mem_singleton.mp member]
    rfl
  have ended : world.HasCycled .relaying 0 2 32 := by
    refine ⟨by decide +kernel, fun before same => ?_⟩
    cases same
    decide +kernel
  have ended' : world'.HasCycled (Client.relaying.failing fails) 0 2 34 := by
    refine ⟨by decide +kernel, fun before same => ?_⟩
    cases same
    decide +kernel
  have harmless (call : Nat) :
      ∀ payload ∈ fails call, payload.aftermath? = none := by
    intro payload member
    simp only [fails] at member
    split at member
    · cases member
      rfl
    · split at member
      · cases member
        rfl
      · cases member
  obtain ⟨lost, _, isolates⟩ :=
    (twins.isolates (plain.falters harmless) fits 0 2).2 32 34 ended ended'
  refine ⟨⟨lost, ?_, isolates⟩, by decide +kernel, by decide +kernel⟩
  rcases isolates.happened with ⟨recent, recent', former, latter, spares⟩
  -- Nothing had happened before, so that the log says how many calls were lost.
  have none : recent.countP Happening.isError = 0 := by
    rw [← former.trans (List.append_nil recent)]
    decide +kernel
  have two : recent'.countP Happening.isError = 2 := by
    rw [← latter.trans (List.append_nil recent')]
    decide +kernel
  rw [spares.errors, none, Nat.zero_add] at two
  exact two

end Switchboard
