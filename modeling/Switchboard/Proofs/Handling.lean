import Switchboard.Proofs.Stack

/-!
# What a move does with items

An item is pushed, leaves its queue, is routed, and is handed over by a callback
that returns or panics; then it is counted.  Every other move leaves the queues,
the counts, and what the journal says about items as they are.  The inductive
predicate `Handles` lists the moves that handle an item, each by its operation,
so that a statement about items has to look at these operations only.
-/

namespace Switchboard

variable {σ κ ν : Type}

namespace Callback

/-- The channel of the item that a callback hands over. -/
def channel? : Callback → Option Channel
  | .sendFrame kind _ _ => some kind.channel
  | .receivePacket _ _ => some .packets
  | _ => none

end Callback

namespace Frame

/-- The channel of the item whose callback a frame waits for. -/
def channel? : Frame κ → Option Channel
  | .sending _ kind _ _ => some kind.channel
  | .receiving _ _ _ => some .packets
  | _ => none

theorem Awaits.channel?_eq {frame : Frame κ} {callback : Callback}
    (awaits : frame.Awaits callback) : frame.channel? = callback.channel? := by
  cases frame <;> cases callback <;>
    simp_all [Awaits, channel?, Callback.channel?]

end Frame

namespace Happening

/-- Whether a happening tells about an item on its way: it came into its queue
or left it, nobody was there to take it, or a callback with it began or
ended. -/
def concernsItem : Happening ν → Bool
  | .submitted _ => true
  | .drained _ => true
  | .called callback => callback.channel?.isSome
  | .returned callback _ => callback.channel?.isSome
  | .panicked callback _ => callback.channel?.isSome
  | .noticed (.unknownStream _ _ _) => true
  | .noticed (.closedSession _) => true
  | _ => false

/-- Nothing is told by what client code notes. -/
theorem filterMap_notes {α : Type} {told : Happening ν → Option α}
    (silent : ∀ note, told (.noted note) = none) (notes : List ν)
    (journal : List (Happening ν)) :
    ((notes.map Happening.noted).reverse ++ journal).filterMap told =
      journal.filterMap told := by
  rw [List.filterMap_append, ← List.map_reverse, List.filterMap_map]
  have nothing : notes.reverse.filterMap (told ∘ Happening.noted) = [] :=
    List.filterMap_eq_nil_iff.mpr fun note _ => silent note
  rw [nothing, List.nil_append]

theorem filter_notes {tells : Happening ν → Bool}
    (silent : ∀ note, tells (.noted note) = false) (notes : List ν)
    (journal : List (Happening ν)) :
    ((notes.map Happening.noted).reverse ++ journal).filter tells =
      journal.filter tells := by
  rw [List.filter_append, ← List.map_reverse, List.filter_map]
  have nothing : notes.reverse.filter (tells ∘ Happening.noted) = [] :=
    List.filter_eq_nil_iff.mpr fun note _ => Bool.eq_false_iff.mp (silent note)
  rw [nothing, List.map_nil, List.nil_append]

theorem countP_notes {tells : Happening ν → Bool}
    (silent : ∀ note, tells (.noted note) = false) (notes : List ν)
    (journal : List (Happening ν)) :
    ((notes.map Happening.noted).reverse ++ journal).countP tells =
      journal.countP tells := by
  rw [List.countP_eq_length_filter, filter_notes silent,
    ← List.countP_eq_length_filter]

end Happening

namespace Counters

/-- The counters without timestamps and reports: what became of the items. -/
def routed (counters : Counters) : Counters :=
  { counters with lastVideoMillis := 0, lastAudioMillis := 0, reports := 0 }

end Counters

/-- The queues, the counts, and what the journal says about items are the
same. -/
structure Shared.SameItems (before after : Shared σ ν) : Prop where
  queues : after.dispatcher.queues = before.dispatcher.queues
  routed : after.dispatcher.counters.routed = before.dispatcher.counters.routed
  journal :
    after.journal.filter Happening.concernsItem =
      before.journal.filter Happening.concernsItem

/-- Whether a control is not about to route an item, to call with one, or to end
a callback with one. -/
def Control.IsAside (stack : List (Frame κ)) : Control → Prop
  | .run (.route _ _) => False
  | .run (.call callback) => callback.channel? = none
  | .reply _ => ∀ frame ∈ stack.head?, frame.channel? = none
  | .raise _ => ∀ frame ∈ stack.head?, frame.channel? = none
  | _ => True

/-- A turn that has nothing to do with items. -/
structure Turn.IsAside (shared : Shared σ ν) (stack : List (Frame κ))
    (turn : Turn σ κ ν) : Prop where
  same : shared.SameItems turn.shared
  stack : turn.stack.filterMap Frame.channel? = stack.filterMap Frame.channel?
  control : turn.control.IsAside turn.stack

/-- A frame that is not about an item may be left. -/
theorem Turn.IsAside.above {shared : Shared σ ν} {stack : List (Frame κ)}
    {turn : Turn σ κ ν} {frame : Frame κ} (turns : turn.IsAside shared stack)
    (about : frame.channel? = none) : turn.IsAside shared (frame :: stack) where
  same := turns.same
  stack := by
    rw [List.filterMap_cons_none about]
    exact turns.stack
  control := turns.control

/-- A panic that arrives at client code, or ends the thread, is about no
item. -/
theorem Control.raise_isAside {stack : List (Frame κ)}
    (below : Expected.answer.Fits stack) (payload : Payload) :
    (Control.raise payload).IsAside stack := by
  intro top member
  cases stack with
  | nil => exact absurd member (Option.not_mem_none top)
  | cons first rest =>
      cases Option.mem_some.mp member
      obtain ⟨state, rfl, _⟩ | ⟨callback, state, rfl, _⟩ :=
        Expected.answer_fits_cons_iff.mp below
      · rfl
      · rfl

/-- Once a loss is counted, what follows it is about no item. -/
theorem Cycle.Fits.afterLoss_isAside {cycle : Cycle} {stack : List (Frame κ)}
    (fits : cycle.Fits stack) (payload : Payload) :
    (cycle.afterLoss payload).IsAside stack :=
  cycle.afterLoss_rec payload trivial (Control.raise_isAside fits.answer_fits)

/-- The moves that handle an item, and all others. -/
inductive Handles (client : Client σ κ ν) (shared : Shared σ ν)
    (around : Surroundings) :
    List (Frame κ) → Control → Turn σ κ ν → Prop
  | aside {stack : List (Frame κ)} {control : Control} {turn : Turn σ κ ν}
      (before : control.IsAside stack) (turns : turn.IsAside shared stack) :
      Handles client shared around stack control turn
  | pushes (stack : List (Frame κ)) (item : Item) :
      Handles client shared around stack (.run (.push item))
        (shared.push stack item)
  | drains (stack : List (Frame κ)) {cycle : Cycle} {channel : Channel}
      {remaining : List Channel} {entry : Sequenced Item}
      {dispatcher : Dispatcher} (next : cycle.remaining = channel :: remaining)
      (popped : shared.dispatcher.pop? channel = some (entry, dispatcher)) :
      Handles client shared around stack (.run (.cycle cycle))
        (.run (({ shared with dispatcher := dispatcher }).record
          (.drained entry)) stack (.route entry (cycle.served remaining true)))
  | routes (stack : List (Frame κ)) (entry : Sequenced Item) (cycle : Cycle) :
      Handles client shared around stack (.run (.route entry cycle))
        (shared.route
          (fun session => client.holds shared.client session ||
            around.keeps session)
          stack entry cycle)
  | calls {stack : List (Frame κ)} {callback : Callback}
      (fits : (Expected.reply callback).Fits stack) :
      Handles client shared around stack (.run (.call callback))
        ((shared.record (.called callback)).clientMove stack (some callback)
          (client.begin callback shared.client))
  | resumes {stack : List (Frame κ)} {callback : Callback} {control : Control}
      (state : κ) (response : Response)
      (before : control.IsAside (.client (some callback) state :: stack))
      (fits : (Expected.reply callback).Fits stack) :
      Handles client shared around
        (.client (some callback) state :: stack) control
        (shared.clientMove stack (some callback)
          (client.resume state response shared.client))
  | sent (stack : List (Frame κ)) (seq : UInt64) (kind : MediaKind)
      (streamId : UInt32) (cycle : Cycle) (reply : Reply) :
      Handles client shared around (.sending seq kind streamId cycle :: stack)
        (.reply reply) (shared.frameSent stack kind cycle)
  | lost (stack : List (Frame κ)) (seq : UInt64) (kind : MediaKind)
      (streamId : UInt32) (cycle : Cycle) (payload : Payload)
      (after : (cycle.afterLoss payload).IsAside stack) :
      Handles client shared around (.sending seq kind streamId cycle :: stack)
        (.raise payload)
        (shared.frameLost stack seq kind streamId payload cycle)
  | received (stack : List (Frame κ)) (seq : UInt64) (session : SessionHandle)
      (cycle : Cycle) (reply : Reply) :
      Handles client shared around (.receiving seq session cycle :: stack)
        (.reply reply) (shared.packetReceived stack cycle)
  | refused (stack : List (Frame κ)) (seq : UInt64) (session : SessionHandle)
      (cycle : Cycle) (payload : Payload) :
      Handles client shared around (.receiving seq session cycle :: stack)
        (.raise payload) (shared.packetLost stack seq session payload cycle)

namespace Shared

/-! ## Moves that have nothing to do with items -/

theorem SameItems.trans {first second third : Shared σ ν}
    (former : first.SameItems second) (latter : second.SameItems third) :
    first.SameItems third where
  queues := latter.queues.trans former.queues
  routed := latter.routed.trans former.routed
  journal := latter.journal.trans former.journal

theorem askTypeName_sameItems (client : Client σ κ ν) (shared : Shared σ ν) :
    shared.SameItems (askTypeName client shared).2 := by
  simp only [askTypeName]
  split <;> exact ⟨rfl, rfl, rfl⟩

theorem updateApplication_sameItems (shared : Shared σ ν)
    (update : Application → Application) :
    shared.SameItems (shared.updateApplication update) := by
  simp only [updateApplication]
  split <;> exact ⟨rfl, rfl, rfl⟩

theorem register_isAside (shared : Shared σ ν) (stack : List (Frame κ))
    (id : UInt32) (stream : Stream) :
    (shared.register stack id stream).IsAside shared stack := by
  simp only [register]
  split <;> exact ⟨⟨rfl, rfl, rfl⟩, rfl, trivial⟩

theorem unregister_isAside (shared : Shared σ ν) (stack : List (Frame κ))
    (id : UInt32) : (shared.unregister stack id).IsAside shared stack := by
  simp only [unregister]
  split <;> exact ⟨⟨rfl, rfl, rfl⟩, rfl, trivial⟩

theorem perform_isAside (client : Client σ κ ν) (shared : Shared σ ν)
    (around : Surroundings) (stack : List (Frame κ)) (request : Request) :
    (shared.perform client around stack request).IsAside shared stack := by
  simp only [perform]
  split
  case h_8 => exact ⟨shared.askTypeName_sameItems client, rfl, trivial⟩
  case h_12 id stream _ _ => exact shared.register_isAside stack id stream
  case h_13 id _ _ => exact shared.unregister_isAside stack id
  all_goals exact ⟨⟨rfl, rfl, rfl⟩, rfl, trivial⟩

theorem stamp_isAside (shared : Shared σ ν) (stack : List (Frame κ))
    (item : Item) : (shared.stamp stack item).IsAside shared stack := by
  cases item with
  | frame kind descriptor packet =>
      simp only [stamp, Dispatcher.stamp]
      split
      · cases kind <;> exact ⟨⟨rfl, rfl, rfl⟩, rfl, trivial⟩
      · exact ⟨⟨rfl, rfl, rfl⟩, rfl, trivial⟩
  | packet session data => exact ⟨⟨rfl, rfl, rfl⟩, rfl, trivial⟩

theorem signal_isAside (shared : Shared σ ν) (stack : List (Frame κ))
    {next : Instruction} (ends : next.EndsRequest) :
    (shared.signal stack next).IsAside shared stack := by
  rcases ends with ⟨answer, rfl⟩ | ⟨task, rfl⟩
  all_goals exact ⟨⟨rfl, rfl, rfl⟩, rfl, trivial⟩

theorem check_isAside (shared : Shared σ ν) (stack : List (Frame κ))
    (idle : Bool) (watch : Nat) :
    (shared.check stack idle watch).IsAside shared stack := by
  simp only [check]
  split
  · exact ⟨⟨rfl, rfl, rfl⟩, rfl, trivial⟩
  · cases shared.reportDue watch <;> cases idle <;>
      exact ⟨⟨rfl, rfl, rfl⟩, rfl, trivial⟩

theorem await_isAside (shared : Shared σ ν) (stack : List (Frame κ))
    (self : ThreadId) (watch : Nat) :
    (shared.await stack self watch).IsAside shared stack := by
  simp only [await]
  split <;> exact ⟨⟨rfl, rfl, rfl⟩, rfl, trivial⟩

theorem parked_isAside (shared : Shared σ ν) (stack : List (Frame κ))
    (self : ThreadId) (watch : Nat) :
    (shared.parked stack self watch).IsAside shared stack := by
  simp only [parked]
  split <;> exact ⟨⟨rfl, rfl, rfl⟩, rfl, trivial⟩

theorem recheck_isAside (shared : Shared σ ν) (stack : List (Frame κ))
    (watch : Nat) : (shared.recheck stack watch).IsAside shared stack := by
  simp only [recheck]
  split <;> exact ⟨⟨rfl, rfl, rfl⟩, rfl, trivial⟩

theorem leave_isAside (shared : Shared σ ν) (stack : List (Frame κ)) :
    (shared.leave stack).IsAside shared stack := by
  simp only [leave]
  split <;> exact ⟨⟨rfl, rfl, rfl⟩, rfl, trivial⟩

theorem create_isAside (shared : Shared σ ν) (stack : List (Frame κ))
    (descriptor : Descriptor) :
    (shared.create stack descriptor).IsAside shared stack := by
  simp only [create]
  split <;> exact ⟨⟨rfl, rfl, rfl⟩, rfl, by trivial⟩

theorem built_isAside (shared : Shared σ ν) (stack : List (Frame κ))
    (descriptor : Descriptor) (stream : Option Stream) :
    (shared.built stack descriptor stream).IsAside shared stack := by
  cases stream <;> exact ⟨⟨rfl, rfl, rfl⟩, rfl, trivial⟩

theorem insert_isAside (shared : Shared σ ν) (stack : List (Frame κ))
    (descriptor : Descriptor) (stream : Stream) :
    (shared.insert stack descriptor stream).IsAside shared stack := by
  simp only [insert]
  split <;> exact ⟨⟨rfl, rfl, rfl⟩, rfl, by trivial⟩

theorem delete_isAside (shared : Shared σ ν) (stack : List (Frame κ))
    (descriptor : Descriptor) :
    (shared.delete stack descriptor).IsAside shared stack := by
  simp only [delete]
  split <;> exact ⟨⟨rfl, rfl, rfl⟩, rfl, by trivial⟩

theorem released_isAside (shared : Shared σ ν) (stack : List (Frame κ))
    (descriptor : Descriptor) (stream : Stream) (accepted : Bool) :
    (shared.released stack descriptor stream accepted).IsAside
      shared stack := by
  cases accepted <;> exact ⟨⟨rfl, rfl, rfl⟩, rfl, trivial⟩

theorem remove_isAside (shared : Shared σ ν) (stack : List (Frame κ))
    (descriptor : Descriptor) (stream : Stream) :
    (shared.remove stack descriptor stream).IsAside shared stack := by
  simp only [remove]
  split <;> exact ⟨⟨rfl, rfl, rfl⟩, rfl, by trivial⟩

theorem launch_isAside (client : Client σ κ ν) (shared : Shared σ ν)
    (stack : List (Frame κ)) (task : ThreadId) :
    (shared.launch client stack task).IsAside shared stack := by
  have lowered : shared.SameItems (shared.dispatch (·.withStop false)) :=
    ⟨rfl, rfl, rfl⟩
  have filled := lowered.trans (updateApplication_sameItems _ fun application =>
    { application with worker := some task, phase := .running })
  have named := filled.trans (askTypeName_sameItems client _)
  exact ⟨named.trans ⟨rfl, rfl, rfl⟩, rfl, trivial⟩

theorem start_isAside (client : Client σ κ ν) (shared : Shared σ ν)
    (around : Surroundings) (stack : List (Frame κ)) :
    (shared.start client around stack).IsAside shared stack := by
  simp only [start]
  split
  · split
    · exact ⟨⟨rfl, rfl, rfl⟩, rfl, trivial⟩
    · split
      · exact shared.launch_isAside client stack around.fresh
      · split
        · exact ⟨⟨rfl, rfl, rfl⟩, rfl, trivial⟩
        · rename_i task _ _ ending _
          have replaced :
              shared.SameItems (shared.noticeReplaced task ending) := by
            cases ending <;> exact ⟨rfl, rfl, rfl⟩
          obtain ⟨same, frames, control⟩ :=
            (shared.noticeReplaced task ending).launch_isAside client stack
              around.fresh
          exact ⟨replaced.trans same, frames, control⟩
  · exact ⟨⟨rfl, rfl, rfl⟩, rfl, trivial⟩
  · exact ⟨⟨rfl, rfl, rfl⟩, rfl, trivial⟩

theorem stop_isAside (shared : Shared σ ν) (stack : List (Frame κ)) :
    (shared.stop stack).IsAside shared stack := by
  simp only [stop]
  split
  · split
    · exact ⟨⟨rfl, rfl, rfl⟩, rfl, trivial⟩
    · split <;> exact ⟨⟨rfl, rfl, rfl⟩, rfl, trivial⟩
  · exact ⟨⟨rfl, rfl, rfl⟩, rfl, trivial⟩
  · exact ⟨⟨rfl, rfl, rfl⟩, rfl, trivial⟩

theorem awaitTask_isAside (client : Client σ κ ν) (shared : Shared σ ν)
    (around : Surroundings) (stack : List (Frame κ)) (task : ThreadId) :
    (shared.awaitTask client around stack task).IsAside shared stack := by
  simp only [awaitTask]
  split
  · exact ⟨⟨rfl, rfl, rfl⟩, rfl, trivial⟩
  · rename_i ending _
    have unlocked := shared.updateApplication_sameItems fun application =>
      { application with locked := false, phase := .stopped }
    refine ⟨unlocked.trans ?_, rfl, trivial⟩
    cases ending with
    | finished => exact (askTypeName_sameItems client _).trans ⟨rfl, rfl, rfl⟩
    | panicked payload => exact ⟨rfl, rfl, rfl⟩
    | cancelled => exact ⟨rfl, rfl, rfl⟩

theorem join_isAside (shared : Shared σ ν) (around : Surroundings)
    (stack : List (Frame κ)) (task : ThreadId) :
    (shared.join around stack task).IsAside shared stack := by
  simp only [join]
  split <;> exact ⟨⟨rfl, rfl, rfl⟩, rfl, trivial⟩

/-- The state once client code has left its notes. -/
def noting (shared : Shared σ ν) (turn : ClientTurn σ κ ν) : Shared σ ν :=
  { shared with
    client := turn.state
    journal := (turn.notes.map .noted).reverse ++ shared.journal }

/-- What client code notes does not concern items. -/
theorem noting_sameItems (shared : Shared σ ν) (turn : ClientTurn σ κ ν) :
    shared.SameItems (shared.noting turn) :=
  ⟨rfl, rfl, Happening.filter_notes (fun _ => rfl) turn.notes shared.journal⟩

/-- Client code that works on a callback asks for something, or it ends the
callback. -/
theorem clientMove_cases (shared : Shared σ ν) (stack : List (Frame κ))
    (callback : Callback) (turn : ClientTurn σ κ ν) {motive : Turn σ κ ν → Prop}
    (performs : ∀ request next,
      motive (.run (shared.noting turn) (.client (some callback) next :: stack)
        (.perform request)))
    (finishes : ∀ reply,
      motive (.pass
        ((shared.noting turn).record (.returned callback reply)) stack
        (.reply reply)))
    (panics : ∀ payload,
      motive (.pass
        ((shared.noting turn).record (.panicked callback payload)) stack
        (.raise payload))) :
    motive (shared.clientMove stack (some callback) turn) := by
  simp only [clientMove]
  cases turn.move with
  | perform request next => exact performs request next
  | finish reply => exact finishes reply
  | panic payload => exact panics payload

/-- Client code that works on no callback leaves items aside. -/
theorem clientMove_none_isAside (shared : Shared σ ν)
    (turn : ClientTurn σ κ ν) :
    (shared.clientMove ([] : List (Frame κ)) none turn).IsAside shared [] := by
  have noted := shared.noting_sameItems turn
  simp only [clientMove]
  cases turn.move with
  | perform request next => exact ⟨noted, rfl, trivial⟩
  | finish reply =>
      exact ⟨noted, rfl,
        fun frame member => absurd member (Option.not_mem_none frame)⟩
  | panic payload =>
      exact ⟨noted, rfl,
        fun frame member => absurd member (Option.not_mem_none frame)⟩

/-! ## All moves -/

theorem execute_handles (client : Client σ κ ν) (shared : Shared σ ν)
    (around : Surroundings) {stack : List (Frame κ)} {instruction : Instruction}
    (fits : instruction.Fits stack) :
    Handles client shared around stack (.run instruction)
      (shared.execute client around stack instruction) := by
  cases instruction with
  | perform request =>
      exact .aside trivial (shared.perform_isAside client around stack request)
  | call callback => exact .calls fits
  | answer answer => exact .aside trivial ⟨⟨rfl, rfl, rfl⟩, rfl, trivial⟩
  | stamp item => exact .aside trivial (shared.stamp_isAside stack item)
  | push item => exact .pushes stack item
  | signal entry next =>
      exact .aside trivial (shared.signal_isAside stack fits.1)
  | cycle cycle =>
      simp only [execute, serve]
      split
      · refine .aside trivial ⟨⟨rfl, rfl, rfl⟩, rfl, ?_⟩
        rcases cycle with ⟨_, productive, after⟩
        cases after <;> cases productive <;> trivial
      · rename_i channel remaining next
        split
        · exact .aside trivial ⟨⟨rfl, rfl, rfl⟩, rfl, trivial⟩
        · rename_i entry dispatcher popped
          exact .drains stack next popped
  | route entry cycle => exact .routes stack entry cycle
  | begin => exact .aside trivial ⟨⟨rfl, rfl, rfl⟩, rfl, trivial⟩
  | check idle watch =>
      exact .aside trivial (shared.check_isAside stack idle watch)
  | await watch =>
      exact .aside trivial (shared.await_isAside stack around.self watch)
  | parked watch =>
      exact .aside trivial (shared.parked_isAside stack around.self watch)
  | recheck watch => exact .aside trivial (shared.recheck_isAside stack watch)
  | leave => exact .aside trivial (shared.leave_isAside stack)
  | farewell => exact .aside trivial ⟨⟨rfl, rfl, rfl⟩, rfl, trivial⟩
  | create descriptor =>
      exact .aside trivial (shared.create_isAside stack descriptor)
  | insert descriptor stream =>
      exact .aside trivial (shared.insert_isAside stack descriptor stream)
  | delete descriptor =>
      exact .aside trivial (shared.delete_isAside stack descriptor)
  | remove descriptor stream =>
      exact .aside trivial (shared.remove_isAside stack descriptor stream)
  | start => exact .aside trivial (shared.start_isAside client around stack)
  | stop => exact .aside trivial (shared.stop_isAside stack)
  | awaitTask task =>
      exact .aside trivial (shared.awaitTask_isAside client around stack task)
  | join task => exact .aside trivial (shared.join_isAside around stack task)

/-- What a frame leaves below it when it is not about an item. -/
private theorem raise_isAside (shared : Shared σ ν) {stack : List (Frame κ)}
    {frame : Frame κ} (about : frame.channel? = none) (payload : Payload)
    (below : Expected.answer.Fits stack) :
    (Turn.pass shared stack (.raise payload)).IsAside shared
    (frame :: stack) where
  same := ⟨rfl, rfl, rfl⟩
  stack := by
    rw [List.filterMap_cons_none about]
    rfl
  control := Control.raise_isAside below payload

/-- A reply, or a panic in its place, reaches the frame that waits for it. -/
private theorem deliver_handles_of_reply (client : Client σ κ ν)
    (shared : Shared σ ν) (around : Surroundings) {stack : List (Frame κ)}
    {frame : Frame κ} {callback : Callback}
    (fits : (Expected.reply callback).Fits (frame :: stack)) (reply : Reply)
    (payload : Payload) :
    Handles client shared around (frame :: stack) (.reply reply)
        (shared.deliver client stack (.reply reply) frame) ∧
      Handles client shared around (frame :: stack) (.raise payload)
        (shared.deliver client stack (.raise payload) frame) := by
  rcases Expected.reply_fits_cons_iff.mp fits with ⟨awaits, below⟩
  have alone (about : frame.channel? = none) : ∀ top ∈ (frame :: stack).head?,
      top.channel? = none := by
    intro top member
    rw [← Option.mem_some.mp member]
    exact about
  cases frame with
  | client working state => exact awaits.elim
  | sending seq kind streamId cycle =>
      exact ⟨.sent stack seq kind streamId cycle reply,
        .lost stack seq kind streamId cycle payload
          (below.2.afterLoss_isAside payload)⟩
  | receiving seq session cycle =>
      exact ⟨.received stack seq session cycle reply,
        .refused stack seq session cycle payload⟩
  | reporting seq session lost cycle =>
      exact ⟨.aside (alone rfl)
        ⟨⟨rfl, rfl, rfl⟩, rfl, below.2.afterLoss_isAside lost⟩,
        .aside (alone rfl)
          (raise_isAside shared rfl payload below.2.answer_fits)⟩
  | creating descriptor =>
      exact ⟨.aside (alone rfl)
        ((shared.built_isAside stack descriptor reply.stream).above rfl),
        .aside (alone rfl) (raise_isAside shared rfl payload below)⟩
  | losing descriptor error =>
      exact ⟨.aside (alone rfl) ⟨⟨rfl, rfl, rfl⟩, rfl, trivial⟩,
        .aside (alone rfl) (raise_isAside shared rfl payload below)⟩
  | releasing descriptor stream =>
      exact ⟨.aside (alone rfl)
          ((shared.released_isAside stack descriptor stream
            reply.accepted).above rfl),
        .aside (alone rfl) (raise_isAside shared rfl payload below)⟩
  | stopping descriptor =>
      exact ⟨.aside (alone rfl) ⟨⟨rfl, rfl, rfl⟩, rfl, trivial⟩,
        .aside (alone rfl) (raise_isAside shared rfl payload below)⟩

theorem deliver_handles (client : Client σ κ ν) (shared : Shared σ ν)
    (around : Surroundings) {stack : List (Frame κ)} {frame : Frame κ}
    {control : Control} (arrives : ∀ instruction, control ≠ .run instruction)
    (fits : control.Fits (frame :: stack)) :
    Handles client shared around (frame :: stack) control
      (shared.deliver client stack control frame) := by
  have resumes (response : Response)
      (answered : Expected.answer.Fits (frame :: stack)) :
      ∃ callback state, frame = .client callback state ∧
        ∀ before : control.IsAside (frame :: stack),
          Handles client shared around (frame :: stack) control
            (shared.clientMove stack callback
              (client.resume state response shared.client)) := by
    obtain ⟨state, rfl, rfl⟩ | ⟨callback, state, rfl, replied⟩ :=
      Expected.answer_fits_cons_iff.mp answered
    · exact ⟨none, state, rfl,
        fun before =>
          .aside before ((shared.clientMove_none_isAside _).above rfl)⟩
    · exact ⟨some callback, state, rfl,
        fun before => .resumes state response before replied⟩
  cases control with
  | run instruction => exact absurd rfl (arrives instruction)
  | answer answer =>
      rcases resumes (.answered answer) fits with ⟨callback, state, rfl, moved⟩
      exact moved trivial
  | reply reply =>
      rcases fits with empty | ⟨callback, fits⟩
      · exact absurd empty (List.cons_ne_nil _ _)
      · exact (deliver_handles_of_reply client shared around fits
          reply .other).1
  | raise payload =>
      rcases fits with answered | ⟨callback, fits⟩
      · rcases resumes (.panicked payload) answered with
          ⟨callback, state, rfl, moved⟩
        apply moved
        intro top member
        rw [← Option.mem_some.mp member]
        rfl
      · exact (deliver_handles_of_reply client shared around fits
          .plain payload).2
  | cancelled => exact absurd fits (List.cons_ne_nil _ _)

theorem move_handles (client : Client σ κ ν) (shared : Shared σ ν)
    (around : Surroundings) {stack : List (Frame κ)} {control : Control}
    (fits : control.Fits stack) :
    Handles client shared around stack control
      (shared.move client around stack control) := by
  simp only [move]
  split
  · exact shared.execute_handles client around fits
  · rename_i arrives
    split
    · refine .aside ?_ ⟨⟨rfl, rfl, rfl⟩, rfl, ?_⟩
      all_goals
        cases control with
        | run instruction => exact absurd rfl (arrives instruction)
        | reply | raise =>
            exact fun frame member => absurd member (Option.not_mem_none frame)
        | answer | cancelled => trivial
    · exact shared.deliver_handles client around arrives fits

end Shared

end Switchboard
