import Switchboard.Proofs.Delivery

/-!
# Tickets of items on their way

A line of the log about a lost item tells the channel on which the item was
submitted, the number that it got there, and for a frame the stream for which it
was meant.  That is the ticket of the item.  From the moment at which the item
leaves its queue the ticket is on the thread that routes it: in the instruction
that is about to route the item, and then in the frame that waits for the
receiver.  Few moves have anything to do with tickets; `Tracks` lists them.
-/

namespace Switchboard

variable {σ κ ν : Type}

/-- What the log tells of an item that got lost. -/
structure Ticket where
  channel : Channel
  seq : UInt64
  streamId : Option UInt32
  deriving DecidableEq

namespace Ticket

/-- The ticket of a frame. -/
def frame (kind : MediaKind) (streamId : UInt32) (seq : UInt64) : Ticket :=
  ⟨kind.channel, seq, some streamId⟩

/-- The ticket of a packet. -/
def packet (seq : UInt64) : Ticket :=
  ⟨.packets, seq, none⟩

end Ticket

namespace Sequenced

/-- The ticket of a queue entry. -/
def ticket (entry : Sequenced Item) : Ticket :=
  match entry.item with
  | .frame kind descriptor _ => .frame kind descriptor.id entry.seq
  | .packet _ _ => .packet entry.seq

/-- The frame that waits while the receiver of an entry has the item. -/
def waiting (entry : Sequenced Item) (cycle : Cycle) : Frame κ :=
  match entry.item with
  | .frame kind descriptor _ => .sending entry.seq kind descriptor.id cycle
  | .packet session _ => .receiving entry.seq session cycle

/-- What is logged of an entry for which nobody is there. -/
def missed (entry : Sequenced Item) : Notice :=
  match entry.item with
  | .frame kind descriptor _ => .unknownStream kind descriptor.id entry.seq
  | .packet _ _ => .closedSession entry.seq

/-- How an entry is counted that got lost. -/
def drop (entry : Sequenced Item) : Counters → Counters :=
  match entry.item with
  | .frame _ _ _ => .frameDropped
  | .packet _ _ => .packetDropped

theorem waiting_eq_sending {entry : Sequenced Item} {cycle cycle' : Cycle}
    {seq : UInt64} {kind : MediaKind} {streamId : UInt32}
    (same : (.sending seq kind streamId cycle' : Frame κ) =
      entry.waiting cycle) :
    ∃ descriptor packet, entry = ⟨seq, .frame kind descriptor packet⟩ ∧
      streamId = descriptor.id ∧ cycle' = cycle := by
  rcases entry with ⟨seq', item⟩
  cases item with
  | frame kind' descriptor packet =>
      cases same
      exact ⟨descriptor, packet, rfl, rfl, rfl⟩
  | packet session data => cases same

theorem waiting_eq_receiving {entry : Sequenced Item} {cycle cycle' : Cycle}
    {seq : UInt64} {session : SessionHandle}
    (same : (.receiving seq session cycle' : Frame κ) = entry.waiting cycle) :
    ∃ data, entry = ⟨seq, .packet session data⟩ ∧ cycle' = cycle := by
  rcases entry with ⟨seq', item⟩
  cases item with
  | frame kind descriptor packet => cases same
  | packet session' data =>
      cases same
      exact ⟨data, rfl, rfl⟩

@[simp]
theorem ticket_channel (entry : Sequenced Item) :
    entry.ticket.channel = entry.item.channel := by
  rcases entry with ⟨seq, _ | _⟩ <;> rfl

@[simp]
theorem ticket_seq (entry : Sequenced Item) : entry.ticket.seq = entry.seq := by
  rcases entry with ⟨seq, _ | _⟩ <;> rfl

end Sequenced

/-- The ticket of a lost item of which a notice tells. -/
def Notice.ticket? : Notice → Option Ticket
  | .unknownStream kind streamId seq => some (.frame kind streamId seq)
  | .streamPanicked kind streamId seq _ => some (.frame kind streamId seq)
  | .closedSession seq => some (.packet seq)
  | .sessionPanicked _ seq _ => some (.packet seq)
  | _ => none

/-- The line of the log shows the ticket. -/
theorem Notice.shows_ticket {notice : Notice} {ticket : Ticket}
    (told : notice.ticket? = some ticket) (identity : Identity) :
    ("seq", .word64 ticket.seq) ∈ notice.fields identity ∧
      ∀ streamId ∈ ticket.streamId,
        ("stream_id", .word32 streamId) ∈ notice.fields identity := by
  cases notice with
  | unknownStream | streamPanicked | closedSession | sessionPanicked =>
      cases told
      simp [fields, Ticket.frame, Ticket.packet]
  | _ => cases told

/-- The ticket of the item with which a frame waits.  The frame that asks a
session for its number has the ticket of the packet over which the session
panicked. -/
def Frame.ticket? : Frame κ → Option Ticket
  | .sending seq kind streamId _ => some (.frame kind streamId seq)
  | .receiving seq _ _ => some (.packet seq)
  | .reporting seq _ _ _ => some (.packet seq)
  | _ => none

/-- The ticket of the item that is about to be routed. -/
def Control.ticket? : Control → Option Ticket
  | .run (.route entry _) => some entry.ticket
  | _ => none

@[simp]
theorem Sequenced.missed_ticket? (entry : Sequenced Item) :
    entry.missed.ticket? = some entry.ticket := by
  rcases entry with ⟨seq, _ | _⟩ <;> rfl

@[simp]
theorem Sequenced.waiting_ticket? (entry : Sequenced Item) (cycle : Cycle) :
    (entry.waiting cycle : Frame κ).ticket? = some entry.ticket := by
  rcases entry with ⟨seq, _ | _⟩ <;> rfl

@[simp]
theorem Sequenced.waiting_isReporting (entry : Sequenced Item) (cycle : Cycle) :
    (entry.waiting cycle : Frame κ).isReporting = false := by
  rcases entry with ⟨seq, _ | _⟩ <;> rfl

/-- A stack from the first frame with a ticket on. -/
def Frame.ticketed (stack : List (Frame κ)) : List (Frame κ) :=
  stack.dropWhile fun frame => frame.ticket?.isNone

namespace Frame

/-- A frame without a ticket does not show. -/
theorem ticketed_cons {frame : Frame κ} (plain : frame.ticket? = none)
    (stack : List (Frame κ)) : ticketed (frame :: stack) = ticketed stack := by
  rw [ticketed, List.dropWhile_cons_of_pos (by rw [plain]; rfl)]
  rfl

/-- What is left out has no tickets. -/
theorem filterMap_ticketed {α : Type} (tell : Frame κ → Option α)
    (silent : ∀ frame : Frame κ, frame.ticket? = none → tell frame = none)
    (stack : List (Frame κ)) :
    (ticketed stack).filterMap tell = stack.filterMap tell := by
  induction stack with
  | nil => rfl
  | cons frame rest inductionHypothesis =>
      cases ticket : frame.ticket? with
      | none => rw [ticketed_cons ticket, inductionHypothesis,
          List.filterMap_cons_none (silent frame ticket)]
      | some ticket' =>
          rw [ticketed, List.dropWhile_cons_of_neg (by simp [ticket])]

/-- A frame with a ticket stands above the same frames. -/
theorem suffix_ticketed_iff {frame : Frame κ} {below stack : List (Frame κ)}
    (ticket : frame.ticket? ≠ none) :
    frame :: below <:+ ticketed stack ↔ frame :: below <:+ stack := by
  induction stack with
  | nil => exact Iff.rfl
  | cons first rest inductionHypothesis =>
      cases plain : first.ticket? with
      | none =>
          rw [ticketed_cons plain, inductionHypothesis, List.suffix_cons_iff]
          constructor
          · exact .inr
          · rintro (same | deeper)
            · cases same
              exact absurd plain ticket
            · exact deeper
      | some ticket' =>
          rw [ticketed, List.dropWhile_cons_of_neg (by simp [plain])]

end Frame

/-! ## The losses in the journal -/

/-- The notice of a lost item. -/
def Happening.loss? : Happening ν → Option Notice
  | .noticed notice => notice.ticket?.map fun _ => notice
  | _ => none

namespace Shared

/-- The log of the items that got lost, oldest first. -/
def losses (shared : Shared σ ν) : List Notice :=
  (shared.journal.filterMap Happening.loss?).reverse

/-- The tickets in the log of lost items, oldest first. -/
def lostTickets (shared : Shared σ ν) : List Ticket :=
  shared.losses.filterMap Notice.ticket?

/-- The tickets in the log of the lost items of a channel, oldest first. -/
def lostOn (shared : Shared σ ν) (channel : Channel) : List Ticket :=
  shared.lostTickets.filter fun ticket => ticket.channel = channel

/-- The tickets of the entries that have left the queues, oldest first. -/
def departedTickets (shared : Shared σ ν) : List Ticket :=
  shared.departures.map Sequenced.ticket

/-- The losses, the counts of them, and what has left the queues are the
same. -/
structure SameLosses (before after : Shared σ ν) : Prop where
  losses : after.losses = before.losses
  departures : after.departures = before.departures
  droppedFrames :
    after.dispatcher.counters.droppedFrames =
      before.dispatcher.counters.droppedFrames
  droppedPackets :
    after.dispatcher.counters.droppedPackets =
      before.dispatcher.counters.droppedPackets

theorem SameLosses.trans {first second third : Shared σ ν}
    (former : first.SameLosses second) (latter : second.SameLosses third) :
    first.SameLosses third where
  losses := latter.losses.trans former.losses
  departures := latter.departures.trans former.departures
  droppedFrames := latter.droppedFrames.trans former.droppedFrames
  droppedPackets := latter.droppedPackets.trans former.droppedPackets

theorem SameLosses.lostTickets {before after : Shared σ ν}
    (same : before.SameLosses after) :
    after.lostTickets = before.lostTickets := by
  rw [Shared.lostTickets, same.losses, Shared.lostTickets]

theorem SameLosses.departedTickets {before after : Shared σ ν}
    (same : before.SameLosses after) :
    after.departedTickets = before.departedTickets := by
  rw [Shared.departedTickets, same.departures, Shared.departedTickets]

/-- A notice of a lost item is added to the others. -/
theorem losses_notice (shared : Shared σ ν) {notice : Notice} {ticket : Ticket}
    (told : notice.ticket? = some ticket) :
    (shared.notice notice).losses = shared.losses ++ [notice] := by
  have loss : (Happening.noticed notice : Happening ν).loss? = some notice := by
    rw [Happening.loss?, told]
    rfl
  rw [losses, Shared.notice, record, List.filterMap_cons_some loss,
    List.reverse_cons]
  rfl

/-- A notice of a lost item adds its ticket. -/
theorem lostTickets_notice (shared : Shared σ ν) {notice : Notice}
    {ticket : Ticket} (told : notice.ticket? = some ticket) :
    (shared.notice notice).lostTickets = shared.lostTickets ++ [ticket] := by
  rw [lostTickets, shared.losses_notice told, List.filterMap_append,
    List.filterMap_cons_some told]
  rfl

end Shared

/-- A turn that has nothing to do with tickets. -/
structure Turn.LeavesTickets (shared : Shared σ ν) (stack : List (Frame κ))
    (turn : Turn σ κ ν) : Prop where
  same : shared.SameLosses turn.shared
  stack : Frame.ticketed turn.stack = Frame.ticketed stack
  control : turn.control.ticket? = none

/-- A frame without a ticket may be left. -/
theorem Turn.LeavesTickets.above {shared : Shared σ ν} {stack : List (Frame κ)}
    {turn : Turn σ κ ν} {frame : Frame κ}
    (leaves : turn.LeavesTickets shared stack) (plain : frame.ticket? = none) :
    turn.LeavesTickets shared (frame :: stack) where
  same := leaves.same
  stack := by
    rw [Frame.ticketed_cons plain]
    exact leaves.stack
  control := leaves.control

/-- The moves that have to do with tickets, and all others. -/
inductive Tracks (client : Client σ κ ν) (shared : Shared σ ν)
    (around : Surroundings) :
    List (Frame κ) → Control → Turn σ κ ν → Prop
  | aside {stack : List (Frame κ)} {control : Control} {turn : Turn σ κ ν}
      (before : control.ticket? = none)
      (leaves : turn.LeavesTickets shared stack) :
      Tracks client shared around stack control turn
  | drains (stack : List (Frame κ)) {cycle : Cycle} {channel : Channel}
      {remaining : List Channel} {entry : Sequenced Item}
      {dispatcher : Dispatcher} (next : cycle.remaining = channel :: remaining)
      (popped : shared.dispatcher.pop? channel = some (entry, dispatcher)) :
      Tracks client shared around stack (.run (.cycle cycle))
        (.run (({ shared with dispatcher := dispatcher }).record
          (.drained entry)) stack (.route entry (cycle.served remaining true)))
  | calls (stack : List (Frame κ)) (entry : Sequenced Item) (cycle : Cycle)
      {callback : Callback}
      (due : shared.destination client around.keeps entry.item =
        some callback) :
      Tracks client shared around stack (.run (.route entry cycle))
        (.call shared stack (entry.waiting cycle) callback)
  | misses (stack : List (Frame κ)) (entry : Sequenced Item) (cycle : Cycle)
      (nobody : shared.destination client around.keeps entry.item = none) :
      Tracks client shared around stack (.run (.route entry cycle))
        (.run ((shared.count entry.drop).notice entry.missed) stack
          (.cycle cycle))
  | sent (stack : List (Frame κ)) (seq : UInt64) (kind : MediaKind)
      (streamId : UInt32) (cycle : Cycle) (reply : Reply) :
      Tracks client shared around (.sending seq kind streamId cycle :: stack)
        (.reply reply) (shared.frameSent stack kind cycle)
  | lost (stack : List (Frame κ)) (seq : UInt64) (kind : MediaKind)
      (streamId : UInt32) (cycle : Cycle) (payload : Payload) :
      Tracks client shared around (.sending seq kind streamId cycle :: stack)
        (.raise payload)
        (shared.frameLost stack seq kind streamId payload cycle)
  | received (stack : List (Frame κ)) (seq : UInt64) (session : SessionHandle)
      (cycle : Cycle) (reply : Reply) :
      Tracks client shared around (.receiving seq session cycle :: stack)
        (.reply reply) (shared.packetReceived stack cycle)
  | refused (stack : List (Frame κ)) (seq : UInt64) (session : SessionHandle)
      (cycle : Cycle) (payload : Payload) :
      Tracks client shared around (.receiving seq session cycle :: stack)
        (.raise payload) (shared.packetLost stack seq session payload cycle)
  | reported (stack : List (Frame κ)) (seq : UInt64) (session : SessionHandle)
      (payload : Payload) (cycle : Cycle) (reply : Reply) :
      Tracks client shared around
        (.reporting seq session payload cycle :: stack) (.reply reply)
        (shared.packetReported stack seq reply.number payload cycle)
  | escapes (stack : List (Frame κ)) (seq : UInt64) (session : SessionHandle)
      (payload : Payload) (cycle : Cycle) (raised : Payload) :
      Tracks client shared around
        (.reporting seq session payload cycle :: stack) (.raise raised)
        (.pass shared stack (.raise raised))

/-! ## Moves that have nothing to do with tickets -/

namespace Shared

theorem askTypeName_sameLosses (client : Client σ κ ν) (shared : Shared σ ν) :
    shared.SameLosses (askTypeName client shared).2 := by
  simp only [askTypeName]
  split <;> exact ⟨rfl, rfl, rfl, rfl⟩

theorem updateApplication_sameLosses (shared : Shared σ ν)
    (update : Application → Application) :
    shared.SameLosses (shared.updateApplication update) := by
  simp only [updateApplication]
  split <;> exact ⟨rfl, rfl, rfl, rfl⟩

/-- What client code notes is no loss. -/
theorem noting_sameLosses (shared : Shared σ ν) (turn : ClientTurn σ κ ν) :
    shared.SameLosses (shared.noting turn) := by
  refine ⟨congrArg List.reverse ?_, (shared.noting_sameItems turn).departures,
    rfl, rfl⟩
  exact Happening.filterMap_notes (fun _ => rfl) turn.notes shared.journal

variable (shared : Shared σ ν) (stack : List (Frame κ))

theorem clientMove_leavesTickets (callback : Option Callback)
    (turn : ClientTurn σ κ ν) :
    (shared.clientMove stack callback turn).LeavesTickets shared stack := by
  have noted := shared.noting_sameLosses turn
  simp only [clientMove]
  cases turn.move with
  | perform request next => exact ⟨noted, rfl, rfl⟩
  | finish reply =>
      refine ⟨noted.trans ?_, rfl, rfl⟩
      cases callback <;> exact ⟨rfl, rfl, rfl, rfl⟩
  | panic payload =>
      refine ⟨noted.trans ?_, rfl, rfl⟩
      cases callback <;> exact ⟨rfl, rfl, rfl, rfl⟩

theorem perform_leavesTickets (client : Client σ κ ν) (around : Surroundings)
    (request : Request) :
    (shared.perform client around stack request).LeavesTickets
      shared stack := by
  simp only [perform]
  split
  case h_8 => exact ⟨askTypeName_sameLosses client shared, rfl, rfl⟩
  case h_12 =>
    simp only [register]
    split <;> exact ⟨⟨rfl, rfl, rfl, rfl⟩, rfl, rfl⟩
  case h_13 =>
    simp only [unregister]
    split <;> exact ⟨⟨rfl, rfl, rfl, rfl⟩, rfl, rfl⟩
  all_goals exact ⟨⟨rfl, rfl, rfl, rfl⟩, rfl, rfl⟩

theorem stamp_leavesTickets (item : Item) :
    (shared.stamp stack item).LeavesTickets shared stack := by
  cases item with
  | packet session data => exact ⟨⟨rfl, rfl, rfl, rfl⟩, rfl, rfl⟩
  | frame kind descriptor packet =>
      simp only [stamp, Dispatcher.stamp]
      split
      · cases kind <;> exact ⟨⟨rfl, rfl, rfl, rfl⟩, rfl, rfl⟩
      · exact ⟨⟨rfl, rfl, rfl, rfl⟩, rfl, rfl⟩

theorem signal_leavesTickets {next : Instruction} (ends : next.EndsRequest) :
    (shared.signal stack next).LeavesTickets shared stack := by
  rcases ends with ⟨answer, rfl⟩ | ⟨task, rfl⟩
  · exact ⟨⟨rfl, rfl, rfl, rfl⟩, rfl, rfl⟩
  · exact ⟨⟨rfl, rfl, rfl, rfl⟩, rfl, rfl⟩

theorem check_leavesTickets (idle : Bool) (watch : Nat) :
    (shared.check stack idle watch).LeavesTickets shared stack := by
  simp only [check]
  split
  · exact ⟨⟨rfl, rfl, rfl, rfl⟩, rfl, rfl⟩
  · cases shared.reportDue watch <;> cases idle <;>
      exact ⟨⟨rfl, rfl, rfl, rfl⟩, rfl, rfl⟩

theorem built_leavesTickets (descriptor : Descriptor) (stream : Option Stream) :
    (shared.built stack descriptor stream).LeavesTickets shared stack := by
  cases stream <;> exact ⟨⟨rfl, rfl, rfl, rfl⟩, rfl, rfl⟩

theorem released_leavesTickets (descriptor : Descriptor) (stream : Stream)
    (accepted : Bool) :
    (shared.released stack descriptor stream accepted).LeavesTickets
      shared stack := by
  cases accepted <;> exact ⟨⟨rfl, rfl, rfl, rfl⟩, rfl, rfl⟩

theorem launch_leavesTickets (client : Client σ κ ν) (task : ThreadId) :
    (launch client shared stack task).LeavesTickets shared stack := by
  have lowered : shared.SameLosses (shared.dispatch (·.withStop false)) :=
    ⟨rfl, rfl, rfl, rfl⟩
  have filled :=
    lowered.trans (updateApplication_sameLosses _ fun application =>
    { application with worker := some task, phase := .running })
  have named := filled.trans (askTypeName_sameLosses client _)
  exact ⟨named.trans ⟨rfl, rfl, rfl, rfl⟩, rfl, rfl⟩

theorem start_leavesTickets (client : Client σ κ ν) (around : Surroundings) :
    (shared.start client around stack).LeavesTickets shared stack := by
  simp only [start]
  split
  · split
    · exact ⟨⟨rfl, rfl, rfl, rfl⟩, rfl, rfl⟩
    · split
      · exact shared.launch_leavesTickets stack client _
      · split
        · exact ⟨⟨rfl, rfl, rfl, rfl⟩, rfl, rfl⟩
        · rename_i task _ _ ending _
          have replaced :
              shared.SameLosses (shared.noticeReplaced task ending) := by
            cases ending <;> exact ⟨rfl, rfl, rfl, rfl⟩
          have launched :=
            (shared.noticeReplaced task ending).launch_leavesTickets stack
              client around.fresh
          exact ⟨replaced.trans launched.same, launched.stack, launched.control⟩
  · exact ⟨⟨rfl, rfl, rfl, rfl⟩, rfl, rfl⟩
  · exact ⟨⟨rfl, rfl, rfl, rfl⟩, rfl, rfl⟩

theorem stop_leavesTickets :
    (shared.stop stack).LeavesTickets shared stack := by
  simp only [stop]
  split
  · split
    · exact ⟨⟨rfl, rfl, rfl, rfl⟩, rfl, rfl⟩
    · split <;> exact ⟨⟨rfl, rfl, rfl, rfl⟩, rfl, rfl⟩
  · exact ⟨⟨rfl, rfl, rfl, rfl⟩, rfl, rfl⟩
  · exact ⟨⟨rfl, rfl, rfl, rfl⟩, rfl, rfl⟩

theorem awaitTask_leavesTickets (client : Client σ κ ν) (around : Surroundings)
    (task : ThreadId) :
    (shared.awaitTask client around stack task).LeavesTickets shared stack := by
  simp only [awaitTask]
  split
  · exact ⟨⟨rfl, rfl, rfl, rfl⟩, rfl, rfl⟩
  · rename_i ending _
    have unlocked := shared.updateApplication_sameLosses fun application =>
      { application with locked := false, phase := .stopped }
    refine ⟨unlocked.trans ?_, rfl, rfl⟩
    cases ending with
    | finished =>
        exact (askTypeName_sameLosses client _).trans ⟨rfl, rfl, rfl, rfl⟩
    | panicked payload => exact ⟨rfl, rfl, rfl, rfl⟩
    | cancelled => exact ⟨rfl, rfl, rfl, rfl⟩

/-! ## All moves -/

theorem serve_tracks (client : Client σ κ ν) (around : Surroundings)
    (cycle : Cycle) :
    Tracks client shared around stack (.run (.cycle cycle))
      (shared.serve stack cycle) := by
  simp only [serve]
  split
  · refine .aside rfl ⟨⟨rfl, rfl, rfl, rfl⟩, rfl, ?_⟩
    rcases cycle with ⟨_, productive, after⟩
    cases after <;> cases productive <;> rfl
  · rename_i channel remaining next
    split
    · exact .aside rfl ⟨⟨rfl, rfl, rfl, rfl⟩, rfl, rfl⟩
    · rename_i entry dispatcher popped
      exact .drains stack next popped

theorem route_tracks (client : Client σ κ ν) (around : Surroundings)
    (entry : Sequenced Item) (cycle : Cycle) :
    Tracks client shared around stack (.run (.route entry cycle))
      (shared.route
        (fun session => client.holds shared.client session ||
          around.keeps session)
        stack entry cycle) := by
  rcases entry with ⟨seq, item⟩
  simp only [route]
  cases item with
  | frame kind descriptor packet =>
      dsimp only
      split
      · rename_i stream found
        exact .calls stack ⟨seq, .frame kind descriptor packet⟩ cycle
          (Option.map_eq_some_iff.mpr ⟨stream, found, rfl⟩)
      · rename_i missing
        exact .misses stack ⟨seq, .frame kind descriptor packet⟩ cycle
          (Option.map_eq_none_iff.mpr missing)
  | packet session data =>
      dsimp only
      split
      · rename_i alive
        exact .calls stack ⟨seq, .packet session data⟩ cycle (if_pos alive)
      · rename_i gone
        exact .misses stack ⟨seq, .packet session data⟩ cycle (if_neg gone)

theorem execute_tracks (client : Client σ κ ν) (around : Surroundings)
    {instruction : Instruction} (fits : instruction.Fits stack) :
    Tracks client shared around stack (.run instruction)
      (shared.execute client around stack instruction) := by
  cases instruction with
  | perform request =>
      exact .aside rfl
        (shared.perform_leavesTickets stack client around request)
  | call callback =>
      have called : shared.SameLosses (shared.record (.called callback)) :=
        ⟨rfl, rfl, rfl, rfl⟩
      have moved :=
        (shared.record (.called callback)).clientMove_leavesTickets stack
          (some callback) (client.begin callback shared.client)
      exact .aside rfl ⟨called.trans moved.same, moved.stack, moved.control⟩
  | stamp item => exact .aside rfl (shared.stamp_leavesTickets stack item)
  | signal entry next =>
      exact .aside rfl (shared.signal_leavesTickets stack fits.1)
  | cycle cycle => exact shared.serve_tracks stack client around cycle
  | route entry cycle =>
      exact shared.route_tracks stack client around entry cycle
  | check idle watch =>
      exact .aside rfl (shared.check_leavesTickets stack idle watch)
  | await watch =>
      simp only [execute, await]
      split <;> exact .aside rfl ⟨⟨rfl, rfl, rfl, rfl⟩, rfl, rfl⟩
  | parked watch =>
      simp only [execute, parked]
      split <;> exact .aside rfl ⟨⟨rfl, rfl, rfl, rfl⟩, rfl, rfl⟩
  | recheck watch =>
      simp only [execute, recheck]
      split <;> exact .aside rfl ⟨⟨rfl, rfl, rfl, rfl⟩, rfl, rfl⟩
  | leave =>
      simp only [execute, leave]
      split <;> exact .aside rfl ⟨⟨rfl, rfl, rfl, rfl⟩, rfl, rfl⟩
  | create descriptor =>
      simp only [execute, create]
      split <;> exact .aside rfl ⟨⟨rfl, rfl, rfl, rfl⟩, rfl, rfl⟩
  | insert descriptor stream =>
      simp only [execute, insert]
      split <;> exact .aside rfl ⟨⟨rfl, rfl, rfl, rfl⟩, rfl, rfl⟩
  | delete descriptor =>
      simp only [execute, delete]
      split <;> exact .aside rfl ⟨⟨rfl, rfl, rfl, rfl⟩, rfl, rfl⟩
  | remove descriptor stream =>
      simp only [execute, remove]
      split <;> exact .aside rfl ⟨⟨rfl, rfl, rfl, rfl⟩, rfl, rfl⟩
  | start => exact .aside rfl (shared.start_leavesTickets stack client around)
  | stop => exact .aside rfl (shared.stop_leavesTickets stack)
  | awaitTask task =>
      exact .aside rfl (shared.awaitTask_leavesTickets stack client around task)
  | join task =>
      simp only [execute, join]
      split <;> exact .aside rfl ⟨⟨rfl, rfl, rfl, rfl⟩, rfl, rfl⟩
  | _ => exact .aside rfl ⟨⟨rfl, rfl, rfl, rfl⟩, rfl, rfl⟩

/-- A panic that passes a frame without a ticket leaves tickets alone. -/
theorem raise_leavesTickets {frame : Frame κ} (plain : frame.ticket? = none)
    (payload : Payload) :
    (Turn.pass shared stack (.raise payload)).LeavesTickets shared
    (frame :: stack) where
  same := ⟨rfl, rfl, rfl, rfl⟩
  stack := (Frame.ticketed_cons plain stack).symm
  control := rfl

theorem deliver_tracks (client : Client σ κ ν) (around : Surroundings)
    {frame : Frame κ} {control : Control}
    (arrives : ∀ instruction, control ≠ .run instruction)
    (fits : control.Fits (frame :: stack)) :
    Tracks client shared around (frame :: stack) control
      (shared.deliver client stack control frame) := by
  have silent : control.ticket? = none := by
    cases control with
    | run instruction => exact absurd rfl (arrives instruction)
    | _ => rfl
  cases frame with
  | client callback state =>
      cases control with
      | run instruction => exact absurd rfl (arrives instruction)
      | answer answer =>
          exact .aside rfl
            ((shared.clientMove_leavesTickets stack callback _).above rfl)
      | raise payload =>
          exact .aside rfl
            ((shared.clientMove_leavesTickets stack callback _).above rfl)
      | reply | cancelled => exact .aside rfl ⟨⟨rfl, rfl, rfl, rfl⟩, rfl, rfl⟩
  | sending seq kind streamId cycle =>
      rcases fits.arrives arrives (by simp) with ⟨reply, rfl⟩ | ⟨payload, rfl⟩
      · exact .sent stack seq kind streamId cycle reply
      · exact .lost stack seq kind streamId cycle payload
  | receiving seq session cycle =>
      rcases fits.arrives arrives (by simp) with ⟨reply, rfl⟩ | ⟨payload, rfl⟩
      · exact .received stack seq session cycle reply
      · exact .refused stack seq session cycle payload
  | reporting seq session lost cycle =>
      rcases fits.arrives arrives (by simp) with ⟨reply, rfl⟩ | ⟨payload, rfl⟩
      · exact .reported stack seq session lost cycle reply
      · exact .escapes stack seq session lost cycle payload
  | creating descriptor =>
      rcases fits.arrives arrives (by simp) with ⟨reply, rfl⟩ | ⟨payload, rfl⟩
      · exact .aside rfl
          ((shared.built_leavesTickets stack descriptor reply.stream).above rfl)
      · exact .aside rfl (shared.raise_leavesTickets stack rfl payload)
  | losing descriptor error =>
      rcases fits.arrives arrives (by simp) with ⟨reply, rfl⟩ | ⟨payload, rfl⟩
      · exact .aside rfl ⟨⟨rfl, rfl, rfl, rfl⟩, rfl, rfl⟩
      · exact .aside rfl (shared.raise_leavesTickets stack rfl payload)
  | releasing descriptor stream =>
      rcases fits.arrives arrives (by simp) with ⟨reply, rfl⟩ | ⟨payload, rfl⟩
      · exact .aside rfl
          ((shared.released_leavesTickets stack descriptor stream
            reply.accepted).above rfl)
      · exact .aside rfl (shared.raise_leavesTickets stack rfl payload)
  | stopping descriptor =>
      rcases fits.arrives arrives (by simp) with ⟨reply, rfl⟩ | ⟨payload, rfl⟩
      · exact .aside rfl ⟨⟨rfl, rfl, rfl, rfl⟩, rfl, rfl⟩
      · exact .aside rfl (shared.raise_leavesTickets stack rfl payload)

theorem move_tracks (client : Client σ κ ν) (around : Surroundings)
    {control : Control} (fits : control.Fits stack) :
    Tracks client shared around stack control
      (shared.move client around stack control) := by
  cases control with
  | run instruction => exact shared.execute_tracks stack client around fits
  | reply | answer | raise | cancelled =>
      cases stack with
      | nil => exact .aside rfl ⟨⟨rfl, rfl, rfl, rfl⟩, rfl, rfl⟩
      | cons frame rest =>
          exact shared.deliver_tracks rest client around
            (fun _ => Control.noConfusion) fits

end Shared

/-- What happens to the shared state when no thread moves loses nothing. -/
theorem World.Becomes.sameLosses {client : Client σ κ ν}
    {world next : World σ κ ν} {occurrence : Occurrence κ}
    (becomes : World.Becomes client world occurrence next)
    (still : ∀ self, occurrence ≠ .step self) :
    world.shared.SameLosses next.shared := by
  cases becomes with
  | moved found => exact absurd rfl (still _)
  | stopAbandoned found waits =>
      exact world.shared.updateApplication_sameLosses _
  | _ => exact ⟨rfl, rfl, rfl, rfl⟩

end Switchboard
