import Switchboard.Proofs.Calls
import Switchboard.Proofs.Losses
import Switchboard.Proofs.Slot

/-!
# Tracing lost items

The log tells the number of a lost item and why it was lost.  Both can be traced
back through the run: the entry left its queue, the thread that took it routed
it, and either nobody was there, or the receiver was called and panicked, and
for a packet the session was then asked for its number.  Each of these is a step
of one thread at a moment of the run.  Every frame with a ticket carries this
history, however deep other calls are nested above it.
-/

namespace Switchboard

variable {σ κ ν : Type}

namespace World

section

variable (client : Client σ κ ν) (world : World σ κ ν)
  (run : List (Occurrence κ)) (worker : ThreadId)

/-- A step of a thread enters a happening in the journal and leaves the thread
with the given stack and control. -/
def LeadsAt (moment : Nat) (happening : Happening ν) (stack : List (Frame κ))
    (control : Control) : Prop :=
  run[moment]? = some (.step worker) ∧
    (world.upTo client run (moment + 1)).shared.journal.head? = some happening ∧
      ∃ role, (world.upTo client run (moment + 1)).threads[worker]? =
        some ⟨role, stack, control⟩

/-- Between two moments such a step was taken. -/
def Brings (since now : Nat) (happening : Happening ν) (stack : List (Frame κ))
    (control : Control) : Prop :=
  ∃ moment, since ≤ moment ∧ moment < now ∧
    world.LeadsAt client run worker moment happening stack control

/-- An entry is routed by the thread that took it from its queue. -/
structure Routes (moment : Nat) (below : List (Frame κ))
    (entry : Sequenced Item) (cycle : Cycle) : Prop where
  drained : world.Brings client run worker 0 moment (.drained entry) below
    (.run (.route entry cycle))
  takes : world.TakesAt client run worker moment below
    (.run (.route entry cycle))

/-- The receiver of an entry panics: it was called when the entry was routed,
the callback ended in a panic, and this arrives now at the frame that has waited
for it. -/
structure Fails (now : Nat) (below : List (Frame κ)) (entry : Sequenced Item)
    (cycle : Cycle) (callback : Callback) (payload : Payload) (routed : Nat) :
    Prop where
  routes : world.Routes client run worker routed below entry cycle
  due : (world.upTo client run routed).destination client entry.item =
    some callback
  ends : world.Brings client run worker (routed + 1) now
    (.panicked callback payload) (entry.waiting cycle :: below) (.raise payload)
  takes : world.TakesAt client run worker now (entry.waiting cycle :: below)
    (.raise payload)

/-- What really happened to an entry of whose loss a notice tells, at the moment
at which this is logged. -/
inductive Loses (entry : Sequenced Item) (logged : Nat) : Notice → Prop
  | unknownStream {kind : MediaKind} {descriptor : Descriptor}
      {packet : MediaPacket} {below : List (Frame κ)} {cycle : Cycle}
      (item : entry.item = .frame kind descriptor packet)
      (routes : world.Routes client run worker logged below entry cycle)
      (missing :
        (world.upTo client run logged).shared.registry.find? descriptor.id =
          none) :
      Loses entry logged (.unknownStream kind descriptor.id entry.seq)
  | streamPanicked {kind : MediaKind} {descriptor : Descriptor}
      {packet : MediaPacket} {stream : Stream} {below : List (Frame κ)}
      {cycle : Cycle} {payload : Payload} {routed : Nat}
      (item : entry.item = .frame kind descriptor packet)
      (fails : world.Fails client run worker logged below entry cycle
        (.sendFrame kind stream packet) payload routed) :
      Loses entry logged (.streamPanicked kind descriptor.id entry.seq payload)
  | closedSession {session : SessionHandle} {data : Bytes}
      {below : List (Frame κ)} {cycle : Cycle}
      (item : entry.item = .packet session data)
      (routes : world.Routes client run worker logged below entry cycle)
      (given : client.holds (world.upTo client run logged).shared.client
        session = false)
      (unkept : (world.upTo client run logged).threads.any
        (·.keeps session) = false) :
      Loses entry logged (.closedSession entry.seq)
  | sessionPanicked {session : SessionHandle} {data : Bytes}
      {below : List (Frame κ)} {cycle : Cycle} {payload : Payload}
      {routed refused : Nat} {reply : Reply}
      (item : entry.item = .packet session data)
      (fails : world.Fails client run worker refused below entry cycle
        (.receivePacket session data) payload routed)
      (number : world.Brings client run worker (refused + 1) logged
        (.returned (.sessionNumber session) reply)
        (.reporting entry.seq session payload cycle :: below) (.reply reply))
      (takes : world.TakesAt client run worker logged
        (.reporting entry.seq session payload cycle :: below) (.reply reply)) :
      Loses entry logged (.sessionPanicked reply.number entry.seq payload)

/-- How far client code has got with a callback that was made above a stack. -/
inductive Awaiting (callback : Callback) (base : List (Frame κ))
    (since now : Nat) :
    List (Frame κ) → Control → Prop
  | calls : Awaiting callback base since now base (.run (.call callback))
  | works {state : κ} {stack : List (Frame κ)} {control : Control}
      (stands : .client (some callback) state :: base <:+ stack) :
      Awaiting callback base since now stack control
  | returned {reply : Reply}
      (told : world.Brings client run worker since now
        (.returned callback reply) base (.reply reply)) :
      Awaiting callback base since now base (.reply reply)
  | panicked {payload : Payload}
      (told : world.Brings client run worker since now
        (.panicked callback payload) base (.raise payload)) :
      Awaiting callback base since now base (.raise payload)

/-- The history that a frame with a ticket carries. -/
inductive Carries (now : Nat) (below stack : List (Frame κ)) (control : Control)
    (frame : Frame κ) : Prop
  | handed {entry : Sequenced Item} {cycle : Cycle} {callback : Callback}
      {routed : Nat} (same : frame = entry.waiting cycle)
      (routes : world.Routes client run worker routed below entry cycle)
      (due : (world.upTo client run routed).destination client entry.item =
        some callback)
      (before : routed < now)
      (awaiting : world.Awaiting client run worker callback (frame :: below)
        (routed + 1) now stack control)
  | asked {entry : Sequenced Item} {session : SessionHandle} {data : Bytes}
      {cycle : Cycle} {payload : Payload} {routed refused : Nat}
      (same : frame = .reporting entry.seq session payload cycle)
      (item : entry.item = .packet session data)
      (fails : world.Fails client run worker refused below entry cycle
        (.receivePacket session data) payload routed)
      (before : refused < now)
      (awaiting : world.Awaiting client run worker (.sessionNumber session)
        (frame :: below) (refused + 1) now stack control)

/-- Where the tickets of a thread come from. -/
structure Traces (now : Nat) (stack : List (Frame κ)) (control : Control) :
    Prop where
  frames : ∀ (frame : Frame κ) (below : List (Frame κ)), frame.ticket? ≠ none →
    frame :: below <:+ stack →
      world.Carries client run worker now below stack control frame
  routing : ∀ entry cycle, control = .run (.route entry cycle) →
    world.Brings client run worker 0 now (.drained entry) stack control

end

variable {client : Client σ κ ν} {world : World σ κ ν}
  {run : List (Occurrence κ)} {self : ThreadId} {since now : Nat}

theorem Brings.later {happening : Happening ν} {stack : List (Frame κ)}
    {control : Control}
    (brings : world.Brings client run self since now happening stack control) :
    world.Brings client run self since (now + 1) happening stack control := by
  rcases brings with ⟨moment, after, before, leads⟩
  exact ⟨moment, after, Nat.lt_succ_of_lt before, leads⟩

/-! ## Client code at work -/

namespace Awaiting

variable {callback : Callback} {base : List (Frame κ)}

/-- What arrives at the frame that waits is how the callback has ended. -/
theorem of_reply {reply : Reply}
    (awaiting : world.Awaiting client run self callback base since now base
      (.reply reply)) :
    world.Brings client run self since now (.returned callback reply) base
      (.reply reply) := by
  cases awaiting with
  | works stands => exact absurd stands Call.not_suffix_self
  | returned told => exact told

theorem of_raise {payload : Payload}
    (awaiting : world.Awaiting client run self callback base since now base
      (.raise payload)) :
    world.Brings client run self since now (.panicked callback payload) base
      (.raise payload) := by
  cases awaiting with
  | works stands => exact absurd stands Call.not_suffix_self
  | panicked told => exact told

/-- Client code has moved that works on the callback. -/
theorem of_clientMove (shared : Shared σ ν) (turn : ClientTurn σ κ ν)
    (role : Role) (after : since ≤ now) (steps : run[now]? = some (.step self))
    (same : (world.upTo client run (now + 1)).shared =
      (shared.clientMove base (some callback) turn).shared)
    (found : (world.upTo client run (now + 1)).threads[self]? =
      some ⟨role, (shared.clientMove base (some callback) turn).stack,
        (shared.clientMove base (some callback) turn).control⟩) :
    world.Awaiting client run self callback base since (now + 1)
      (shared.clientMove base (some callback) turn).stack
      (shared.clientMove base (some callback) turn).control := by
  refine shared.clientMove_cases base callback turn
    (motive := fun moved =>
      (world.upTo client run (now + 1)).shared = moved.shared →
        (world.upTo client run (now + 1)).threads[self]? =
            some ⟨role, moved.stack, moved.control⟩ →
          world.Awaiting client run self callback base since
            (now + 1) moved.stack
            moved.control) ?_ ?_ ?_ same found
  · intro request next _ _
    exact .works List.suffix_rfl
  · intro reply same found
    exact .returned ⟨now, after, Nat.lt_succ_self now,
      steps, by rw [same]; rfl, role, found⟩
  · intro payload same found
    exact .panicked ⟨now, after, Nat.lt_succ_self now,
      steps, by rw [same]; rfl, role, found⟩

theorem later {stack : List (Frame κ)} {control : Control}
    (awaiting : world.Awaiting client run self callback base since now
      stack control) :
    world.Awaiting client run self callback base since
      (now + 1) stack control := by
  cases awaiting with
  | calls => exact .calls
  | works stands => exact .works stands
  | returned told => exact .returned told.later
  | panicked told => exact .panicked told.later

/-- While client code works on a callback the frame that waits for it stands. -/
theorem stands {stack : List (Frame κ)} {control : Control}
    (awaiting : world.Awaiting client run self callback base since now
      stack control) :
    base <:+ stack := by
  cases awaiting with
  | calls | returned | panicked => exact List.suffix_rfl
  | works stands => exact (List.suffix_cons _ _).trans stands

/-- Client code goes on with the callback, or its outcome is handed to the frame
that waits. -/
theorem next {frame : Frame κ} {below : List (Frame κ)}
    {thread later : Thread κ} {occurrence : Occurrence κ} (after : since ≤ now)
    (happens : run[now]? = some occurrence)
    (found : (world.upTo client run now).threads[self]? = some thread)
    (changes : thread.Changes client
      (world.upTo client run now) self occurrence later)
    (fits : thread.Fits)
    (awaiting : world.Awaiting client run self callback
      (frame :: below) since now thread.stack
      thread.control) :
    world.Awaiting client run self callback (frame :: below) since
      (now + 1) later.stack
        later.control ∨
      occurrence = .step self ∧ thread.stack = frame :: below ∧
        ∀ instruction, thread.control ≠ .run instruction := by
  have filled : thread.stack ≠ [] := fun empty =>
    List.cons_ne_nil _ _ (List.suffix_nil.mp (empty ▸ awaiting.stands))
  rcases thread with ⟨role, stack, control⟩
  cases changes with
  | stays => exact .inl awaiting.later
  | asked request free => exact absurd (Thread.stack_of_isFree free) filled
  | handed code free => exact absurd (Thread.stack_of_isFree free) filled
  | abandoned runs waits =>
      cases awaiting with
      | calls =>
          cases runs
          cases waits
      | works stands => exact .inl (.works stands)
      | returned | panicked => cases runs
  | @cancelled instruction _ runs waits =>
      cases runs
      cases instruction with
      | begin | parked => exact absurd fits filled
      | _ => cases waits
  | moves turns =>
      have moved := World.steps_at happens found
      cases awaiting with
      | calls =>
          rw [turns]
          exact .inl (of_clientMove _ _ role after happens moved.1 moved.2)
      | returned | panicked =>
          exact .inr ⟨rfl, rfl, fun _ => Control.noConfusion⟩
      | works stands =>
          left
          rw [turns]
          rcases (world.upTo client run now).shared.move_suffix client
            ((world.upTo client run now).surroundings self) stands with
            stays | ⟨top, arrives, delivers⟩
          · exact .works stays
          · change stack = _ at top
            subst top
            cases control with
            | run instruction => exact absurd rfl (arrives instruction)
            | answer | raise =>
                exact of_clientMove _ _ role after happens moved.1 moved.2
            | reply reply =>
                rcases fits with empty | ⟨callback, replied⟩
                · cases empty
                · exact (Expected.reply_fits_cons_iff.mp replied).1.elim
            | cancelled => cases fits

end Awaiting

/-! ## What a frame carries -/

/-- A frame carries its history on as long as it stands. -/
theorem Carries.next {frame : Frame κ} {below : List (Frame κ)}
    {thread later : Thread κ} {occurrence : Occurrence κ}
    (happens : run[now]? = some occurrence)
    (found : (world.upTo client run now).threads[self]? = some thread)
    (changes : thread.Changes client
      (world.upTo client run now) self occurrence later)
    (fits : thread.Fits)
    (carries :
      world.Carries client run self now below thread.stack thread.control frame)
    (stays : occurrence = .step self → thread.stack = frame :: below →
      ∃ instruction, thread.control = .run instruction) :
    world.Carries client run self
      (now + 1) below later.stack later.control frame := by
  cases carries with
  | handed same routes due before awaiting =>
      rcases awaiting.next before happens found changes fits with
        goesOn | ⟨steps, top, arrives⟩
      · exact .handed same routes due (Nat.lt_succ_of_lt before) goesOn
      · rcases stays steps top with ⟨instruction, runs⟩
        exact absurd runs (arrives instruction)
  | asked same item fails before awaiting =>
      rcases awaiting.next before happens found changes fits with
        goesOn | ⟨steps, top, arrives⟩
      · exact .asked same item fails (Nat.lt_succ_of_lt before) goesOn
      · rcases stays steps top with ⟨instruction, runs⟩
        exact absurd runs (arrives instruction)

/-- A session panics over a packet. -/
theorem Carries.fails_of_receiving {below : List (Frame κ)} {seq : UInt64}
    {session : SessionHandle} {cycle : Cycle} {payload : Payload}
    (carries : world.Carries client run self now below
      (.receiving seq session cycle :: below)
      (.raise payload) (.receiving seq session cycle))
    (takes : world.TakesAt client run self now
      (.receiving seq session cycle :: below)
      (.raise payload)) :
    ∃ data routed,
      world.Fails client run self now below ⟨seq, .packet session data⟩ cycle
        (.receivePacket session data) payload routed := by
  cases carries with
  | handed same routes due before awaiting =>
      obtain ⟨data, rfl, rfl⟩ := Sequenced.waiting_eq_receiving same
      cases (Option.ite_none_right_eq_some.mp due).2
      exact ⟨data, _, routes, due, awaiting.of_raise, takes⟩
  | asked same => cases same

/-- A stream panics over a frame. -/
theorem Carries.fails_of_sending {below : List (Frame κ)} {seq : UInt64}
    {kind : MediaKind} {streamId : UInt32} {cycle : Cycle} {payload : Payload}
    (carries : world.Carries client run self now below
      (.sending seq kind streamId cycle :: below)
      (.raise payload) (.sending seq kind streamId cycle))
    (takes : world.TakesAt client run self now
      (.sending seq kind streamId cycle :: below)
      (.raise payload)) :
    ∃ descriptor packet stream routed, streamId = descriptor.id ∧
      world.Fails client run self now below
        ⟨seq, .frame kind descriptor packet⟩ cycle
        (.sendFrame kind stream packet) payload routed := by
  cases carries with
  | handed same routes due before awaiting =>
      obtain ⟨descriptor, packet, rfl, rfl, rfl⟩ :=
        Sequenced.waiting_eq_sending same
      obtain ⟨stream, _, rfl⟩ := Option.map_eq_some_iff.mp due
      exact ⟨descriptor, packet, stream, _, rfl, routes, due,
        awaiting.of_raise, takes⟩
  | asked same => cases same

/-- A session has given its number after it panicked over a packet. -/
theorem Carries.loses_of_reporting {below : List (Frame κ)} {seq : UInt64}
    {session : SessionHandle} {payload : Payload} {cycle : Cycle}
    {reply : Reply} (carries : world.Carries client run self now below
      (.reporting seq session payload cycle :: below) (.reply reply)
      (.reporting seq session payload cycle))
    (takes : world.TakesAt client run self now
      (.reporting seq session payload cycle :: below)
      (.reply reply)) :
    ∃ entry : Sequenced Item, entry.ticket = .packet seq ∧
      world.Loses client run self entry now
        (.sessionPanicked reply.number seq payload) := by
  cases carries with
  | @handed entry cycle' _ _ same =>
      have silent : (entry.waiting cycle' : Frame κ).isReporting = false :=
        entry.waiting_isReporting cycle'
      rw [← same] at silent
      cases silent
  | @asked entry _ data _ _ _ _ same item fails before awaiting =>
      cases same
      refine ⟨entry, ?_, .sessionPanicked item fails awaiting.of_reply takes⟩
      rw [Sequenced.ticket, item]

/-- Nobody is there for an entry that is routed. -/
theorem Routes.misses {below : List (Frame κ)} {entry : Sequenced Item}
    {cycle : Cycle}
    (routes : world.Routes client run self now below entry cycle)
    (nobody : (world.upTo client run now).destination client entry.item =
      none) :
    world.Loses client run self entry now entry.missed := by
  rcases entry with ⟨seq, item⟩
  cases item with
  | frame kind descriptor packet =>
      exact .unknownStream rfl routes (Option.map_eq_none_iff.mp nobody)
  | packet session data =>
      simp only [destination, Shared.destination] at nobody
      split at nobody
      · cases nobody
      · rename_i gone
        have unkept := Bool.or_eq_false_iff.mp (Bool.eq_false_iff.mpr gone)
        exact .closedSession rfl routes unkept.1 unkept.2

end World

/-- A thread is about to route an entry right after it has taken it from its
queue. -/
theorem Tracks.drained_of_route {client : Client σ κ ν} {shared : Shared σ ν}
    {around : Surroundings} {stack : List (Frame κ)} {control : Control}
    {turn : Turn σ κ ν}
    (tracks : Tracks client shared around stack control turn)
    {entry : Sequenced Item} {cycle : Cycle}
    (routes : turn.control = .run (.route entry cycle)) :
    turn.shared.journal.head? = some (.drained entry) := by
  cases tracks with
  | aside before leaves =>
      have silent := leaves.control
      rw [routes] at silent
      cases silent
  | drains stack next popped =>
      cases routes
      rfl
  | lost | reported => cases Cycle.run_of_afterLoss routes
  | _ => cases routes

/-- A frame with a ticket is left when something arrives at it. -/
theorem Shared.move_leaves_ticket (client : Client σ κ ν) (shared : Shared σ ν)
    (around : Surroundings) {frame : Frame κ} {below : List (Frame κ)}
    {control : Control} (ticket : frame.ticket? ≠ none)
    (fits : control.Fits (frame :: below))
    (arrives : ∀ instruction, control ≠ .run instruction) :
    ¬ frame :: below <:+
      (shared.move client around (frame :: below) control).stack := by
  have own (callback : Option Callback) (state : κ) :
      frame ≠ .client callback state := by
    rintro rfl
    exact ticket rfl
  intro stands
  cases frame with
  | sending | reporting =>
      rcases fits.arrives arrives own with ⟨reply, rfl⟩ | ⟨payload, rfl⟩
      · exact Call.not_suffix_self stands
      · exact Call.not_suffix_self stands
  | receiving =>
      rcases fits.arrives arrives own with ⟨reply, rfl⟩ | ⟨payload, rfl⟩
      · exact Call.not_suffix_self stands
      · rcases List.suffix_cons_iff.mp stands with same | deeper
        · cases same
        · exact Call.not_suffix_self deeper
  | _ => exact ticket rfl

namespace World

variable {client : Client σ κ ν} {world : World σ κ ν}
  {run : List (Occurrence κ)} {self : ThreadId} {now : Nat}

namespace Traces

/-- What others do to a thread leaves the tickets on it as they are. -/
theorem of_others {thread later : Thread κ} {occurrence : Occurrence κ}
    (happens : run[now]? = some occurrence)
    (found : (world.upTo client run now).threads[self]? = some thread)
    (changes : thread.Changes client
      (world.upTo client run now) self occurrence later)
    (fits : thread.Fits)
    (traces : world.Traces client run self now thread.stack thread.control)
    (others : occurrence ≠ .step self) :
    world.Traces client run self (now + 1) later.stack later.control := by
  constructor
  · intro frame below ticket stands
    rw [← Frame.suffix_ticketed_iff ticket,
      (changes.leavesTickets fits others).2,
      Frame.suffix_ticketed_iff ticket] at stands
    exact (traces.frames frame below ticket stands).next happens found
      changes fits
      fun steps => absurd steps others
  · intro entry cycle routes
    cases changes with
    | stays => exact (traces.routing entry cycle routes).later
    | moves => exact absurd rfl others
    | _ => cases routes

/-- What a thread does itself. -/
theorem of_move {role : Role} {stack : List (Frame κ)} {control : Control}
    (happens : run[now]? = some (.step self))
    (found : (world.upTo client run now).threads[self]? =
      some ⟨role, stack, control⟩)
    (fits : control.Fits stack)
    (traces : world.Traces client run self now stack control) :
    let shared := (world.upTo client run now).shared
    let turn :=
      shared.move client ((world.upTo client run now).surroundings self)
        stack control
    world.Traces client run self (now + 1) turn.stack turn.control := by
  intro shared turn
  have takes : world.TakesAt client run self now stack control :=
    ⟨happens, role, found⟩
  have moved := World.steps_at happens found
  have kept (frame : Frame κ) (below : List (Frame κ))
      (ticket : frame.ticket? ≠ none) (stood : frame :: below <:+ stack)
      (stands : frame :: below <:+ turn.stack) :
      world.Carries client run self
        (now + 1) below turn.stack turn.control frame := by
    refine (traces.frames frame below ticket stood).next happens found
      (.moves rfl) fits ?_
    rintro - top
    by_contra arrives
    cases (show stack = _ from top)
    exact shared.move_leaves_ticket client _ ticket fits
      (fun instruction runs => arrives ⟨instruction, runs⟩) stands
  have tracks :=
    shared.move_tracks stack client
      ((world.upTo client run now).surroundings self)
    fits
  change Tracks client shared _ stack control turn at tracks
  change (world.upTo client run (now + 1)).shared = turn.shared ∧
    (world.upTo client run (now + 1)).threads[self]? =
      some ⟨role, turn.stack, turn.control⟩
    at moved
  clear_value turn
  constructor
  · intro frame below ticket stands
    cases tracks with
    | aside before leaves =>
        refine kept frame below ticket ?_ stands
        rw [← Frame.suffix_ticketed_iff ticket, leaves.stack,
          Frame.suffix_ticketed_iff ticket]
          at stands
        exact stands
    | drains | misses => exact kept frame below ticket stands stands
    | calls stack entry cycle due =>
        rcases List.suffix_cons_iff.mp stands with same | deeper
        · cases same
          exact .handed rfl ⟨traces.routing _ _ rfl, takes⟩ due
            (Nat.lt_succ_self now) .calls
        · exact kept frame below ticket deeper stands
    | sent | lost | received | reported | escapes =>
        exact kept frame below ticket
          (List.suffix_cons_iff.mpr (.inr stands)) stands
    | refused rest seq session cycle payload =>
        rcases List.suffix_cons_iff.mp stands with same | deeper
        · cases same
          have carries :=
            traces.frames (.receiving seq session cycle) below nofun
              List.suffix_rfl
          rcases carries.fails_of_receiving takes with ⟨data, routed, fails⟩
          exact .asked rfl rfl fails
            (Nat.lt_succ_self now) .calls
        · exact kept frame below ticket
            (List.suffix_cons_iff.mpr (.inr deeper)) stands
  · intro entry cycle routes
    have told := tracks.drained_of_route routes
    rw [← moved.1] at told
    exact ⟨now, Nat.zero_le now, Nat.lt_succ_self now, happens, told,
      role, moved.2⟩

/-- A thread that logs a loss tells what really happened. -/
theorem loses {role : Role} {stack : List (Frame κ)} {control : Control}
    (happens : run[now]? = some (.step self))
    (found : (world.upTo client run now).threads[self]? =
      some ⟨role, stack, control⟩)
    (fits : control.Fits stack)
    (traces : world.Traces client run self now stack control) :
    let shared := (world.upTo client run now).shared
    let turn :=
      shared.move client ((world.upTo client run now).surroundings self)
        stack control
    turn.shared.losses = shared.losses ∨
      ∃ notice entry, turn.shared.losses = shared.losses ++ [notice] ∧
        notice.ticket? = some entry.ticket ∧
          world.Loses client run self entry now notice := by
  intro shared turn
  have takes : world.TakesAt client run self now stack control :=
    ⟨happens, role, found⟩
  have tracks :=
    shared.move_tracks stack client
      ((world.upTo client run now).surroundings self)
    fits
  change Tracks client shared _ stack control turn at tracks
  clear_value turn
  cases tracks with
  | aside before leaves => exact .inl leaves.same.losses
  | drains | calls | sent | received | refused | escapes => exact .inl rfl
  | misses stack entry cycle nobody =>
      have routes : world.Routes client run self now stack entry cycle :=
        ⟨traces.routing entry cycle rfl, takes⟩
      exact .inr
        ⟨entry.missed, entry, Shared.losses_notice _ entry.missed_ticket?,
          entry.missed_ticket?, routes.misses nobody⟩
  | lost below seq kind streamId cycle payload =>
      have carries :=
        traces.frames (.sending seq kind streamId cycle) below nofun
        List.suffix_rfl
      rcases carries.fails_of_sending takes with
        ⟨descriptor, packet, stream, routed, rfl, fails⟩
      exact .inr ⟨_, ⟨seq, .frame kind descriptor packet⟩,
        Shared.losses_notice _ rfl, rfl, .streamPanicked rfl fails⟩
  | reported below seq session payload cycle reply =>
      have carries :=
        traces.frames (.reporting seq session payload cycle) below nofun
        List.suffix_rfl
      rcases carries.loses_of_reporting takes with ⟨entry, ticket, really⟩
      exact .inr ⟨_, entry, Shared.losses_notice _ rfl,
        congrArg some ticket.symm, really⟩

end Traces

/-! ## Whole runs -/

/-- A thread with an empty stack has no tickets before it routes anything. -/
theorem Traces.of_empty {control : Control}
    (silent : ∀ entry cycle, control ≠ .run (.route entry cycle)) :
    world.Traces client run self now [] control where
  frames _ _ _ stands :=
    absurd (List.suffix_nil.mp stands) (List.cons_ne_nil _ _)
  routing entry cycle routes := absurd routes (silent entry cycle)

/-- At every moment of a run the tickets on every thread can be traced back. -/
theorem IsOpening.traces (opening : world.IsOpening)
    (allowed : world.allowsAll client run = true) {moment : Nat}
    (inside : moment ≤ run.length) {thread : Thread κ}
    (found : (world.upTo client run moment).threads[self]? = some thread) :
    world.Traces client run self moment thread.stack thread.control := by
  induction moment generalizing self thread with
  | zero =>
      have idle : thread = .idle := by
        have member := List.mem_of_getElem? found
        cases opening with
        | application | alone => exact List.eq_of_mem_replicate member
      subst idle
      exact .of_empty fun _ _ => Control.noConfusion
  | succ moment inductionHypothesis =>
      have happens : run[moment]? = some run[moment] :=
        List.getElem?_eq_getElem inside
      rcases (becomes_at allowed happens).origin found with
        ⟨before, stood, changes⟩ | ⟨_, rfl⟩
      · have traces := inductionHypothesis (Nat.le_of_succ_le inside) stood
        have fits : before.Fits :=
          ((Reachable.opening opening).upTo allowed moment).fits before
            (List.mem_of_getElem? stood)
        by_cases steps : run[moment] = .step self
        · rw [steps] at happens
          cases Option.some.inj (found.symm.trans (steps_at happens stood).2)
          exact traces.of_move happens stood fits
        · exact traces.of_others happens stood changes fits steps
      · exact .of_empty fun _ _ same => by cases same

/-- What happens at a moment of a run logs one loss at most, and this has really
happened. -/
theorem IsOpening.losses_grow (opening : world.IsOpening)
    (allowed : world.allowsAll client run = true) {moment : Nat}
    (inside : moment < run.length) :
    (world.upTo client run (moment + 1)).shared.losses =
        (world.upTo client run moment).shared.losses ∨
      ∃ worker notice entry,
        (world.upTo client run (moment + 1)).shared.losses =
          (world.upTo client run moment).shared.losses ++ [notice] ∧
        notice.ticket? = some entry.ticket ∧
          world.Loses client run worker entry moment notice := by
  have happens : run[moment]? = some run[moment] :=
    List.getElem?_eq_getElem inside
  have becomes := becomes_at allowed happens
  cases occurs : run[moment] with
  | step worker =>
      rw [occurs] at happens becomes
      cases found : (world.upTo client run moment).threads[worker]? with
      | none =>
          left
          rw [upTo_succ happens, after, step, found]
      | some thread =>
          have fits : thread.Fits :=
            ((Reachable.opening opening).upTo allowed moment).fits thread
              (List.mem_of_getElem? found)
          rw [(steps_at happens found).1]
          rcases (opening.traces allowed (Nat.le_of_lt inside) found).loses
            happens found fits with
            same | ⟨notice, entry, logs, told, really⟩
          · exact .inl same
          · exact .inr ⟨worker, notice, entry, logs, told, really⟩
  | _ =>
      rw [occurs] at becomes
      exact .inl (becomes.sameLosses (by simp)).losses

/-- Every line about a lost item was logged at a moment of its own, and what it
tells really happened. -/
theorem IsOpening.loses_at (opening : world.IsOpening)
    (allowed : world.allowsAll client run = true) {moment : Nat}
    (inside : moment ≤ run.length) {index : Nat} {notice : Notice}
    (stands : (world.upTo client run moment).shared.losses[index]? =
      some notice) :
    ∃ logged < moment,
      (world.upTo client run logged).shared.losses.length = index ∧
      (world.upTo client run (logged + 1)).shared.losses =
          (world.upTo client run logged).shared.losses ++ [notice] ∧
        ∃ worker entry, notice.ticket? = some entry.ticket ∧
          world.Loses client run worker entry logged notice := by
  induction moment with
  | zero =>
      have nothing : world.shared.losses = [] := by cases opening <;> rfl
      rw [upTo_zero, nothing] at stands
      cases stands
  | succ moment inductionHypothesis =>
      have older
          (stood : (world.upTo client run moment).shared.losses[index]? =
            some notice) :
          ∃ logged < moment + 1,
            (world.upTo client run logged).shared.losses.length = index ∧
            (world.upTo client run (logged + 1)).shared.losses =
                (world.upTo client run logged).shared.losses ++ [notice] ∧
              ∃ worker entry, notice.ticket? = some entry.ticket ∧
                world.Loses client run worker entry logged notice := by
        rcases inductionHypothesis (Nat.le_of_succ_le inside) stood with
          ⟨logged, before, told⟩
        exact ⟨logged, Nat.lt_succ_of_lt before, told⟩
      rcases opening.losses_grow allowed inside with
        same | ⟨worker, last, entry, logs, told, really⟩
      · rw [same] at stands
        exact older stands
      · rw [logs, List.getElem?_append] at stands
        split at stands
        · exact older stands
        · rename_i beyond
          have first := (List.getElem?_eq_some_iff.mp stands).1
          rw [List.length_singleton] at first
          have last :
              index = (world.upTo client run moment).shared.losses.length := by
                omega
          subst last
          rw [Nat.sub_self] at stands
          cases stands
          exact ⟨moment, Nat.lt_succ_self moment, rfl, logs, worker, entry,
            told, really⟩

/-- A lost entry has left its queue. -/
theorem Loses.drained {entry : Sequenced Item} {logged : Nat} {notice : Notice}
    (loses : world.Loses client run self entry logged notice) :
    ∃ moment stack control,
      world.LeadsAt client run self moment (.drained entry) stack control := by
  cases loses with
  | unknownStream item routes | closedSession item routes =>
      rcases routes.drained with ⟨moment, _, _, leads⟩
      exact ⟨moment, _, _, leads⟩
  | streamPanicked item fails | sessionPanicked item fails =>
      rcases fails.routes.drained with ⟨moment, _, _, leads⟩
      exact ⟨moment, _, _, leads⟩

/-- An entry that has left its queue was submitted. -/
theorem LeadsAt.submitted {entry : Sequenced Item} {moment : Nat}
    {stack : List (Frame κ)} {control : Control} (opening : world.IsOpening)
    (allowed : world.allowsAll client run = true)
    (leads : world.LeadsAt client run self moment
      (.drained entry) stack control) :
    entry ∈ (world.follow client run).shared.submissions
      entry.item.channel := by
  rcases leads with ⟨steps, told, _⟩
  have inside : moment < run.length := (List.getElem?_eq_some_iff.mp steps).1
  have remembered :=
    (journal_upTo allowed inside).subset (List.mem_of_head? told)
  rw [upTo_length] at remembered
  have left :
      entry ∈ (world.follow client run).shared.drainings
        entry.item.channel := by
    refine List.mem_filter.mpr ⟨List.mem_reverse.mpr ?_, decide_eq_true rfl⟩
    exact List.mem_filterMap.mpr ⟨_, remembered, rfl⟩
  rw [((Reachable.opening opening).follow allowed).inOrder]
  exact List.mem_append_left _ left

/-- A line of the log about a lost item is traced back: `index` counts such
lines, and `place` the submissions on the channel. -/
structure Traced (client : Client σ κ ν) (world : World σ κ ν)
    (run : List (Occurrence κ)) (index : Nat) (notice : Notice)
    (entry : Sequenced Item) (place logged : Nat) : Prop where
  submitted :
    ((world.follow client run).shared.submissions entry.item.channel)[place]? =
      some entry
  numbered : entry.seq = .ofNat place
  shows : ∀ identity, ("seq", .word64 entry.seq) ∈ notice.fields identity ∧
    (∀ kind descriptor packet, entry.item = .frame kind descriptor packet →
      ("stream_id", .word32 descriptor.id) ∈ notice.fields identity) ∧
      ∀ number payload, notice = .sessionPanicked number entry.seq payload →
        ("session_id", .word64 number) ∈ notice.fields identity
  inside : logged < run.length
  before : (world.upTo client run logged).shared.losses.length = index
  logs : (world.upTo client run (logged + 1)).shared.losses =
    (world.upTo client run logged).shared.losses ++ [notice]
  really : ∃ worker, world.Loses client run worker entry logged notice

/-- Lost items can be matched with their submissions.  After any run:
* outside of all callbacks the counter of lost frames is the number of lines
  about lost frames, and, unless a session has panicked over its number, that of
  lost packets the number of lines about lost packets;
* the lines about the lost items of a channel belong to different submissions,
  and while at most 2^64 items were submitted on it no two lines have the same
  number;
* each line shows the number of an entry that stands at the place of this number
  among the submissions of its channel, and its stream, or the number that its
  session gave; when the line was logged, what it tells had just happened to
  this entry. -/
theorem IsOpening.traces_losses (opening : world.IsOpening)
    (allowed : world.allowsAll client run = true) :
    let final := world.follow client run
    let shared := final.shared
    let counters := shared.dispatcher.counters
    (final.threads.all Thread.isOutsideCallbacks = true →
      counters.droppedFrames = .ofNat shared.lostFrames ∧
        (¬ shared.NumberPanicked →
          counters.droppedPackets = .ofNat shared.lostPackets)) ∧
      (∀ channel,
        (shared.lostOn channel).Subperm
        ((shared.submissions channel).map Sequenced.ticket) ∧
          ((shared.submissions channel).length ≤ UInt64.size →
            ((shared.lostOn channel).map Ticket.seq).Nodup)) ∧
        ∀ index notice, shared.losses[index]? = some notice →
          ∃ entry place logged,
            world.Traced client run index notice entry place logged := by
  intro final shared counters
  have reachable : Reachable client final :=
    (Reachable.opening opening).follow allowed
  refine ⟨fun outside => ?_, fun channel => ?_, fun index notice stands => ?_⟩
  · obtain ⟨frames, packets⟩ := reachable.counts_losses
    rw [unlogged_of_isOutsideCallbacks outside] at packets
    exact ⟨frames, packets⟩
  · exact ⟨reachable.lostOn_subperm channel,
      fun few => reachable.lostOn_nodup few⟩
  · have stood :
        (world.upTo client run run.length).shared.losses[index]? =
          some notice := by
      rw [upTo_length]
      exact stands
    rcases opening.loses_at allowed (Nat.le_refl _) stood with
      ⟨logged, inside, before, logs, worker, entry, told, really⟩
    rcases really.drained with ⟨_, _, _, leads⟩
    rcases List.mem_iff_getElem?.mp (leads.submitted opening allowed) with
      ⟨place, submitted⟩
    refine ⟨entry, place, logged, submitted,
      (reachable.numbers _).seq_eq submitted, fun identity => ?_, inside,
      before, logs, worker, really⟩
    obtain ⟨seq, streamId⟩ := notice.shows_ticket told identity
    rw [entry.ticket_seq] at seq
    refine ⟨seq, fun kind descriptor packet item => streamId descriptor.id ?_,
      ?_⟩
    · rw [Sequenced.ticket, item]
      rfl
    · rintro number payload rfl
      simp [Notice.fields]

end World

/-- A stream that asks for another cycle while it has a frame, and then panics;
a session that panics over each packet and is number five. -/
def Client.nesting : Client Unit Unit Unit where
  begin callback state :=
    { state := state
      notes := []
      move :=
        match callback with
        | .sendFrame _ _ _ => .perform .dispatchOnce ()
        | .receivePacket _ _ => .panic .other
        | _ => .finish { Reply.plain with number := 5 } }
  resume _ _ state :=
    { state := state
      notes := []
      move := .panic .other }
  holds _ _ := true
  publisherName _ := none

/-- Two frames and a packet are lost in nested cycles.  The log has them in the
opposite order, and each line belongs to its submission. -/
theorem World.IsOpening.traces_losses_of_nested_cycles :
    let ask (request : Request) : List (Occurrence Unit) :=
      .request 0 request :: List.replicate 40 (.step 0)
    let frame : Item := .frame .video (.new 7 "camera") (.video 0 0 0 [] true)
    let world : World Unit Unit Unit :=
      .new (.new ⟨1, "app"⟩ .standard (.alone none) ()) 1
    let run :=
      ask (.register 7 ⟨0, "camera"⟩) ++ ask (.submit frame) ++ ask
        (.submit frame) ++
      ask (.submit (.packet 3 [4])) ++ ask .dispatchOnce
    let shared := (world.follow .nesting run).shared
    shared.losses =
        [.sessionPanicked 5 0 .other, .streamPanicked .video 7 1 .other,
          .streamPanicked .video 7 0 .other] ∧
      shared.dispatcher.counters.droppedFrames = 2 ∧
        shared.dispatcher.counters.droppedPackets = 1 ∧
          ∃ entry place logged,
            world.Traced .nesting run 1
              (.streamPanicked .video 7 1 .other) entry place logged := by
  intro ask frame world run shared
  have opening : world.IsOpening := .alone _ _ _ _
  have allowed : world.allowsAll .nesting run = true := by decide +kernel
  have losses : shared.losses =
      [.sessionPanicked 5 0 .other, .streamPanicked .video 7 1 .other,
        .streamPanicked .video 7 0 .other] := by decide +kernel
  obtain ⟨counted, _, traced⟩ := opening.traces_losses allowed
  have same : (world.follow .nesting run).shared = shared := rfl
  rw [same] at counted traced
  obtain ⟨frames, packets⟩ := counted (by decide +kernel)
  have packets := packets (by decide +kernel)
  have second :
      shared.losses[1]? = some (.streamPanicked .video 7 1 .other) := by
    rw [losses]
    rfl
  have tickets :
      shared.lostTickets = [.packet 0, .frame .video 7 1, .frame .video 7 0] :=
    congrArg (List.filterMap Notice.ticket?) losses
  refine ⟨losses, frames.trans (congrArg UInt64.ofNat ?_),
    packets.trans (congrArg UInt64.ofNat ?_), traced 1 _ second⟩
  · simp only [Shared.lostFrames, Shared.lostOn, tickets]
    decide
  · simp only [Shared.lostPackets, Shared.lostOn, tickets]
    decide

end Switchboard
