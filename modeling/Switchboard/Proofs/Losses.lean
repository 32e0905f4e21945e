import Mathlib.Data.List.Nodup
import Mathlib.Data.List.Perm.Subperm
import Switchboard.Proofs.Conservation
import Switchboard.Proofs.Endurance
import Switchboard.Proofs.Tickets

/-!
# The books about losses

An item that has left its queue is on its way, is delivered, or is lost, and no
ticket is on two ways: the tickets in the log and those on the threads are among
the tickets of the entries that have left the queues.  The numbers on the
tickets of a channel count its submissions, so each line of the log belongs to a
submission of its own.  The counters of lost items count the lines; only a
packet over which a session panicked is counted before it is logged, and in
between the session is asked for its number.
-/

namespace Switchboard

variable {σ κ ν : Type}

namespace Frame

/-- The ticket of a packet that is counted as lost and has yet to be logged. -/
def unlogged? : Frame κ → Option Ticket
  | .reporting seq _ _ _ => some (.packet seq)
  | _ => none

theorem unlogged?_of_plain (frame : Frame κ) (plain : frame.ticket? = none) :
    frame.unlogged? = none := by
  cases frame with
  | reporting => cases plain
  | _ => rfl

theorem unlogged?_waiting (entry : Sequenced Item) (cycle : Cycle) :
    (entry.waiting cycle : Frame κ).unlogged? = none := by
  rcases entry with ⟨seq, _ | _⟩ <;> rfl

end Frame

namespace Thread

/-- The tickets on a thread. -/
def tickets (thread : Thread κ) : List Ticket :=
  thread.control.ticket?.toList ++ thread.stack.filterMap Frame.ticket?

/-- After a loss only the frames below have tickets. -/
theorem tickets_afterLoss (role : Role) (stack : List (Frame κ)) (cycle : Cycle)
    (payload : Payload) :
    (Thread.mk role stack (cycle.afterLoss payload)).tickets =
      stack.filterMap Frame.ticket? :=
  cycle.afterLoss_rec payload rfl fun _ => rfl

/-- The tickets on a thread of packets that are counted and have yet to be
logged. -/
def unlogged (thread : Thread κ) : List Ticket :=
  thread.stack.filterMap Frame.unlogged?

/-- The tickets on a thread are those in its control and on its stack. -/
theorem tickets_of_same {thread later : Thread κ}
    (control : later.control.ticket? = thread.control.ticket?)
    (stack : Frame.ticketed later.stack = Frame.ticketed thread.stack) :
    later.tickets = thread.tickets ∧ later.unlogged = thread.unlogged := by
  have silent (frame : Frame κ) (plain : frame.ticket? = none) :
      frame.ticket? = none := plain
  constructor
  · rw [tickets, tickets, control, ← Frame.filterMap_ticketed _ silent, stack,
      Frame.filterMap_ticketed _ silent]
  · rw [unlogged, unlogged,
      ← Frame.filterMap_ticketed _ Frame.unlogged?_of_plain, stack,
      Frame.filterMap_ticketed _ Frame.unlogged?_of_plain]

/-- What others do to a thread has nothing to do with tickets. -/
theorem Changes.leavesTickets {client : Client σ κ ν} {world : World σ κ ν}
    {self : ThreadId} {thread later : Thread κ} {occurrence : Occurrence κ}
    (changes : thread.Changes client world self occurrence later)
    (fits : thread.Fits) (others : occurrence ≠ .step self) :
    later.control.ticket? = thread.control.ticket? ∧
      Frame.ticketed later.stack = Frame.ticketed thread.stack := by
  have idle (free : thread.isFree = true) : thread.control.ticket? = none := by
    rw [isFree, Bool.and_eq_true, isSome_ending?_iff] at free
    cases control : thread.control with
    | run instruction => exact absurd control (free.2.2 instruction)
    | _ => rfl
  cases changes with
  | stays => exact ⟨rfl, rfl⟩
  | moves => exact absurd rfl others
  | asked request free => exact ⟨(idle free).symm, rfl⟩
  | handed code free =>
      rw [stack_of_isFree free]
      exact ⟨(idle free).symm, rfl⟩
  | abandoned runs waits =>
      rw [runs]
      rename_i instruction
      cases instruction with
      | route => cases waits
      | _ => exact ⟨rfl, rfl⟩
  | cancelled role runs waits =>
      rename_i instruction
      simp only [Fits, runs] at fits
      rw [runs]
      cases instruction with
      | begin | parked =>
          rw [show thread.stack = [] from fits]
          exact ⟨rfl, rfl⟩
      | _ => cases waits

end Thread

namespace World

/-- Before a run begins the threads have nothing to tell. -/
theorem IsOpening.flatMap_threads {α : Type} {world : World σ κ ν}
    (opening : world.IsOpening) (tell : Thread κ → List α)
    (silent : tell .idle = []) : world.threads.flatMap tell = [] := by
  rw [List.flatMap_eq_nil_iff]
  intro thread member
  cases opening with
  | application | alone =>
      rw [List.eq_of_mem_replicate member]
      exact silent

/-- What occurs while no thread moves changes one thread at most. -/
theorem Becomes.replaces {client : Client σ κ ν} {world next : World σ κ ν}
    {occurrence : Occurrence κ} (becomes : Becomes client world occurrence next)
    (still : ∀ self, occurrence ≠ .step self) :
    next.threads = world.threads ∨
      ∃ self thread later, world.threads[self]? = some thread ∧
        thread.Changes client world self occurrence later ∧
          next.threads = world.threads.set self later := by
  cases becomes with
  | same | waited => exact .inl rfl
  | moved found => exact absurd rfl (still _)
  | asked request found free =>
      exact .inr ⟨_, _, _, found, .asked request free, rfl⟩
  | handed code found free =>
      exact .inr ⟨_, _, _, found, .handed code free, rfl⟩
  | abandoned found waits which =>
      refine .inr ⟨_, _, _, found, .abandoned waits ?_, rfl⟩
      obtain rfl | rfl | ⟨task, rfl⟩ := which <;> rfl
  | stopAbandoned found waits =>
      exact .inr ⟨_, _, _, found, .abandoned waits rfl, rfl⟩
  | cancelledFirst found =>
      exact .inr ⟨_, _, _, found, .cancelled rfl rfl rfl, rfl⟩
  | cancelledParked found =>
      exact .inr ⟨_, _, _, found, .cancelled rfl rfl rfl, rfl⟩

/-- The tickets on all threads. -/
def tickets (world : World σ κ ν) : List Ticket :=
  world.threads.flatMap Thread.tickets

/-- The tickets of all packets that are counted and have yet to be logged. -/
def unlogged (world : World σ κ ν) : List Ticket :=
  world.threads.flatMap Thread.unlogged

/-- What occurs while no thread moves has nothing to do with tickets. -/
theorem Becomes.leavesTickets {client : Client σ κ ν} {world next : World σ κ ν}
    {occurrence : Occurrence κ} (becomes : Becomes client world occurrence next)
    (fits : ∀ thread ∈ world.threads, thread.Fits)
    (still : ∀ self, occurrence ≠ .step self) :
    next.tickets.Perm world.tickets ∧ next.unlogged.Perm world.unlogged := by
  rcases becomes.replaces still with
    same | ⟨self, thread, later, found, changes, same⟩
  · rw [tickets, unlogged, same]
    exact ⟨.refl _, .refl _⟩
  · obtain ⟨control, stack⟩ :=
      changes.leavesTickets (fits thread (List.mem_of_getElem? found))
        (still self)
    obtain ⟨tickets, unlogged⟩ := Thread.tickets_of_same control stack
    have carried := flatMap_set_perm Thread.tickets found later
    have counted := flatMap_set_perm Thread.unlogged found later
    rw [tickets, List.perm_append_left_iff, ← same] at carried
    rw [unlogged, List.perm_append_left_iff, ← same] at counted
    exact ⟨carried, counted⟩

/-- A thread moves.  A new task has no tickets. -/
theorem afterTurn_flatMap {α : Type} (tell : Thread κ → List α)
    (silent : tell .dispatch = []) {world : World σ κ ν} {self : ThreadId}
    {thread : Thread κ} (found : world.threads[self]? = some thread)
    (turn : Turn σ κ ν) :
    (tell thread ++
      (world.afterTurn self thread.role turn).threads.flatMap tell).Perm
      (tell ⟨thread.role, turn.stack, turn.control⟩ ++
        world.threads.flatMap tell) := by
  have replaced :=
    flatMap_set_perm tell found ⟨thread.role, turn.stack, turn.control⟩
  have spawned : (world.afterTurn self thread.role turn).threads.flatMap tell =
      (world.threads.set self ⟨thread.role, turn.stack, turn.control⟩).flatMap
        tell := by
    simp only [afterTurn]
    split
    · rw [List.flatMap_append, List.flatMap_singleton, silent, List.append_nil]
    · rw [List.append_nil]
  rw [spawned]
  exact replaced

end World

/-! ## Tickets are not doubled -/

/-- What becomes of the tickets on a thread when it moves: with those of the
entries that leave their queues they stay on the thread, get into the log, or
are done with. -/
theorem Tracks.conserves {client : Client σ κ ν} {shared : Shared σ ν}
    {around : Surroundings} {stack : List (Frame κ)} {control : Control}
    {turn : Turn σ κ ν}
    (tracks : Tracks client shared around stack control turn) (role : Role) :
    ∃ logged taken done : List Ticket,
      turn.shared.lostTickets = shared.lostTickets ++ logged ∧
        turn.shared.departedTickets = shared.departedTickets ++ taken ∧
          ((Thread.mk role turn.stack turn.control).tickets ++
            logged ++ done).Perm
            ((Thread.mk role stack control).tickets ++ taken) := by
  cases tracks with
  | aside before leaves =>
      have same : (Thread.mk role turn.stack turn.control).tickets =
          (Thread.mk role stack control).tickets :=
        (Thread.tickets_of_same
          (leaves.control.trans before.symm) leaves.stack).1
      refine ⟨[], [], [], ?_, ?_, ?_⟩
      · rw [leaves.same.lostTickets, List.append_nil]
      · rw [leaves.same.departedTickets, List.append_nil]
      · simp only [same, List.append_nil, List.Perm.refl]
  | @drains _ cycle channel remaining entry dispatcher next popped =>
      refine ⟨[], [entry.ticket], [], (List.append_nil _).symm, ?_, ?_⟩
      · change Shared.departedTickets (shared.record (.drained entry)) = _
        rw [Shared.departedTickets, (shared.told_record (.drained entry)).1,
          List.map_append]
        rfl
      · rw [List.append_nil, List.append_nil]
        exact (List.perm_append_singleton _ _).symm
  | calls stack entry cycle due =>
      refine ⟨[], [], [], (List.append_nil _).symm,
        (List.append_nil _).symm, ?_⟩
      simp [Thread.tickets, Turn.call, Turn.run, Turn.pass, Control.ticket?]
  | misses stack entry cycle nobody =>
      refine ⟨[entry.ticket], [], [],
        Shared.lostTickets_notice _ entry.missed_ticket?,
        (List.append_nil _).symm, ?_⟩
      rw [List.append_nil, List.append_nil]
      exact List.perm_append_singleton _ _
  | sent stack seq kind streamId =>
      refine ⟨[], [], [.frame kind streamId seq], (List.append_nil _).symm,
        (List.append_nil _).symm, ?_⟩
      rw [List.append_nil, List.append_nil]
      exact List.perm_append_singleton _ _
  | lost stack seq kind streamId cycle payload =>
      refine ⟨[.frame kind streamId seq], [], [],
        Shared.lostTickets_notice _ rfl, (List.append_nil _).symm, ?_⟩
      rw [List.append_nil, List.append_nil]
      change ((Thread.mk role stack (cycle.afterLoss payload)).tickets ++
        _).Perm _
      rw [Thread.tickets_afterLoss]
      exact List.perm_append_singleton _ _
  | received stack seq =>
      refine ⟨[], [], [.packet seq], (List.append_nil _).symm,
        (List.append_nil _).symm, ?_⟩
      rw [List.append_nil, List.append_nil]
      exact List.perm_append_singleton _ _
  | refused stack seq =>
      refine ⟨[], [], [], (List.append_nil _).symm,
        (List.append_nil _).symm, ?_⟩
      rw [List.append_nil, List.append_nil, List.append_nil]
      exact .refl _
  | reported stack seq session payload cycle reply =>
      refine ⟨[.packet seq], [], [], Shared.lostTickets_notice _ rfl,
        (List.append_nil _).symm, ?_⟩
      rw [List.append_nil, List.append_nil]
      change ((Thread.mk role stack (cycle.afterLoss payload)).tickets ++
        _).Perm _
      rw [Thread.tickets_afterLoss]
      exact List.perm_append_singleton _ _
  | escapes stack seq =>
      refine ⟨[], [], [.packet seq], (List.append_nil _).symm,
        (List.append_nil _).symm, ?_⟩
      rw [List.append_nil, List.append_nil]
      exact List.perm_append_singleton _ _

/-- The tickets in the log and those on the threads are among those of the
entries that have left the queues. -/
theorem Reachable.lost_subperm {client : Client σ κ ν} {world : World σ κ ν}
    (reachable : Reachable client world) :
    (world.shared.lostTickets ++ world.tickets).Subperm
      world.shared.departedTickets := by
  induction reachable with
  | opening opening =>
      rw [World.tickets, opening.flatMap_threads Thread.tickets rfl,
        List.append_nil]
      cases opening with
      | application | alone => exact List.nil_subperm
  | @occur world occurrence reached allowed inductionHypothesis =>
      have becomes := World.after_becomes client allowed
      cases occurrence with
      | step self =>
          generalize world.after client (.step self) = next at becomes
          cases becomes with
          | same => exact inductionHypothesis
          | @moved _ thread found =>
              rcases thread with ⟨role, stack, control⟩
              have tracked := world.shared.move_tracks stack client
                (world.surroundings self)
                (reached.fits _ (List.mem_of_getElem? found))
              have replaced := World.afterTurn_flatMap Thread.tickets rfl found
                (world.shared.move client
                  (world.surroundings self) stack control)
              rcases tracked.conserves role with
                ⟨logged, taken, done, lost, left, conserved⟩
              -- Counted ticket by ticket, as the tickets come in another order.
              rw [List.subperm_iff_count]
              intro ticket
              have before := inductionHypothesis.count_le ticket
              have moved := conserved.count_eq ticket
              have others := replaced.count_eq ticket
              change List.count ticket
                  (Shared.lostTickets (Turn.shared _) ++ List.flatMap _ _) ≤
                List.count ticket (Shared.departedTickets (Turn.shared _))
              rw [lost, left]
              simp only [List.count_append, World.tickets]
                at before moved others ⊢
              omega
      | _ =>
          have same := becomes.sameLosses (by simp)
          have carried := (becomes.leavesTickets reached.fits (by simp)).1
          rw [same.lostTickets, same.departedTickets]
          exact (carried.append_left _).subperm_right.mpr inductionHypothesis

/-! ## Tickets are numbered -/

namespace Shared

/-- The entries of a channel are numbered in the order in which they were
submitted. -/
structure Numbers (shared : Shared σ ν) (channel : Channel) : Prop where
  next : (shared.dispatcher.queues.get channel).nextSeq =
    .ofNat (shared.submissions channel).length
  seqs : (shared.submissions channel).map Sequenced.seq =
    (List.range (shared.submissions channel).length).map .ofNat

variable {shared : Shared σ ν} {channel : Channel}

theorem Numbers.sameItems (numbers : shared.Numbers channel)
    {after : Shared σ ν} (same : shared.SameItems after) :
    after.Numbers channel where
  next := by
    rw [same.queues, same.submissions]
    exact numbers.next
  seqs := by
    rw [same.submissions]
    exact numbers.seqs

/-- A happening that tells of no submission leaves the numbers alone. -/
theorem Numbers.record (numbers : shared.Numbers channel)
    {happening : Happening ν} (unsubmitted : happening.submitted? = none) :
    (shared.record happening).Numbers channel := by
  have same :
      (shared.record happening).submissions channel =
        shared.submissions channel := by
    simp only [submissions, Shared.record, List.filterMap_cons_none unsubmitted]
  constructor
  · rw [same]
    exact numbers.next
  · rw [same]
    exact numbers.seqs

theorem Numbers.push (numbers : shared.Numbers channel) (item : Item) :
    ((shared.dispatch (·.push item)).record
      (.submitted (shared.dispatcher.nextEntry item))).Numbers channel := by
  by_cases same : item.channel = channel
  · subst same
    have added : ((shared.dispatch (·.push item)).record
        (.submitted (shared.dispatcher.nextEntry item))).submissions
          item.channel =
          shared.submissions item.channel ++
            [shared.dispatcher.nextEntry item] := by
      simp [submissions, Shared.record, dispatch, Dispatcher.nextEntry,
        Happening.submitted?]
    constructor
    · rw [added, List.length_append, List.length_singleton]
      simp [Shared.record, dispatch, Dispatcher.push, Queue.push, numbers.next,
        UInt64.ofNat_add]
    · rw [added, List.map_append, numbers.seqs, List.length_append,
        List.length_singleton, List.range_succ, List.map_append]
      simp [Dispatcher.nextEntry, numbers.next]
  · have kept : ((shared.dispatch (·.push item)).record
        (.submitted (shared.dispatcher.nextEntry item))).submissions channel =
          shared.submissions channel := by
      simp [submissions, Shared.record, dispatch, Dispatcher.nextEntry,
        Happening.submitted?, same]
    constructor
    · rw [kept, ← numbers.next]
      simp only [Shared.record, dispatch, Dispatcher.push]
      rw [Queues.get_set_of_ne _ _ (Ne.symm same)]
    · rw [kept]
      exact numbers.seqs

theorem Numbers.pop (numbers : shared.Numbers channel) {other : Channel}
    {entry : Sequenced Item} {dispatcher : Dispatcher}
    (popped : shared.dispatcher.pop? other = some (entry, dispatcher)) :
    Numbers { shared with dispatcher := dispatcher } channel := by
  rcases Option.map_eq_some_iff.mp popped with ⟨⟨_, rest⟩, first, equal⟩
  cases equal
  have kept := ((Queue.pop?_eq_some_iff _ _ _).mp first).2
  constructor
  · refine Eq.trans ?_ numbers.next
    by_cases same : channel = other
    · subst same
      rw [Queues.get_set_self, kept]
    · rw [Queues.get_set_of_ne _ _ same]
  · exact numbers.seqs

theorem Numbers.clientMove (numbers : shared.Numbers channel)
    (stack : List (Frame κ)) (callback : Callback) (turn : ClientTurn σ κ ν) :
    (shared.clientMove stack (some callback) turn).shared.Numbers channel := by
  have noted := numbers.sameItems (shared.noting_sameItems turn)
  refine shared.clientMove_cases stack callback turn
    (motive := fun moved => moved.shared.Numbers channel) ?_ ?_ ?_
  · intro request next
    exact noted
  · intro reply
    exact noted.record rfl
  · intro payload
    exact noted.record rfl

theorem Numbers.move {client : Client σ κ ν} {around : Surroundings}
    {stack : List (Frame κ)} {control : Control} {turn : Turn σ κ ν}
    (numbers : shared.Numbers channel)
    (handles : Handles client shared around stack control turn) :
    turn.shared.Numbers channel := by
  have counted (update : Counters → Counters) :
      (shared.count update).Numbers channel :=
    ⟨numbers.next, numbers.seqs⟩
  cases handles with
  | aside before turns => exact numbers.sameItems turns.same
  | pushes stack item => exact numbers.push item
  | drains stack next popped => exact (numbers.pop popped).record rfl
  | routes stack entry cycle =>
      simp only [route]
      split
      · split
        · exact numbers
        · exact (counted _).record rfl
      · split
        · exact numbers
        · exact (counted _).record rfl
  | calls fits => exact (numbers.record rfl).clientMove _ _ _
  | resumes state response before fits => exact numbers.clientMove _ _ _
  | sent => exact counted _
  | lost => exact (counted _).record rfl
  | received => exact counted _
  | refused => exact counted _

/-- An entry has the number of its place among the submissions. -/
theorem Numbers.seq_eq (numbers : shared.Numbers channel) {place : Nat}
    {entry : Sequenced Item}
    (stands : (shared.submissions channel)[place]? = some entry) :
    entry.seq = .ofNat place := by
  rcases List.getElem?_eq_some_iff.mp stands with ⟨inside, rfl⟩
  simpa [inside] using congrArg (·[place]?) numbers.seqs

/-- Among the first 2^64 submissions of a channel no number comes twice. -/
theorem Numbers.nodup (numbers : shared.Numbers channel)
    (few : (shared.submissions channel).length ≤ UInt64.size) :
    ((shared.submissions channel).map Sequenced.seq).Nodup := by
  rw [numbers.seqs]
  refine List.Nodup.map_on ?_ List.nodup_range
  intro first inside second inside' same
  have small (place : Nat)
      (inside : place ∈ List.range (shared.submissions channel).length) :
      (UInt64.ofNat place).toNat = place :=
    UInt64.toNat_ofNat_of_lt'
      (Nat.lt_of_lt_of_le (List.mem_range.mp inside) few)
  rw [← small first inside, same, small second inside']

end Shared

/-- In a reachable world the entries of each channel are numbered in the order
in which they were submitted. -/
theorem Reachable.numbers {client : Client σ κ ν} {world : World σ κ ν}
    (reachable : Reachable client world) (channel : Channel) :
    world.shared.Numbers channel := by
  induction reachable with
  | opening opening => cases opening <;> cases channel <;> exact ⟨rfl, rfl⟩
  | @occur world occurrence reached allowed numbers =>
      have becomes := World.after_becomes client allowed
      cases occurrence with
      | step self =>
          generalize world.after client (.step self) = next at becomes
          cases becomes with
          | same => exact numbers
          | @moved _ thread found =>
              have fits := reached.fits thread (List.mem_of_getElem? found)
              exact numbers.move (Shared.move_handles client _ _ fits)
      | _ => exact numbers.sameItems (becomes.sameItems (by simp))

/-- The lines of the log about lost items of a channel belong to different
submissions. -/
theorem Reachable.lostOn_subperm {client : Client σ κ ν} {world : World σ κ ν}
    (reachable : Reachable client world) (channel : Channel) :
    (world.shared.lostOn channel).Subperm
      ((world.shared.submissions channel).map Sequenced.ticket) := by
  have among : world.shared.lostTickets.Subperm world.shared.departedTickets :=
    (List.sublist_append_left _ _).subperm.trans reachable.lost_subperm
  have left :
      world.shared.departedTickets.filter
        (fun ticket => ticket.channel = channel) =
      (world.shared.drainings channel).map Sequenced.ticket := by
    simp only [Shared.departedTickets, List.filter_map, Function.comp_def,
      Sequenced.ticket_channel]
    rfl
  have prior :
      (world.shared.drainings channel).Sublist
      (world.shared.submissions channel) := by
    rw [reachable.inOrder channel]
    exact List.sublist_append_left _ _
  refine (among.filter _).trans ?_
  rw [left]
  exact (prior.map _).subperm

/-- While at most 2^64 items were submitted on a channel, no two lines about its
lost items have the same number. -/
theorem Reachable.lostOn_nodup {client : Client σ κ ν} {world : World σ κ ν}
    (reachable : Reachable client world) {channel : Channel}
    (few : (world.shared.submissions channel).length ≤ UInt64.size) :
    ((world.shared.lostOn channel).map Ticket.seq).Nodup := by
  rcases reachable.lostOn_subperm channel with ⟨part, same, among⟩
  have seqs : Ticket.seq ∘ Sequenced.ticket = Sequenced.seq :=
    funext Sequenced.ticket_seq
  have numbered := among.map Ticket.seq
  rw [List.map_map, seqs] at numbered
  exact (same.map _).nodup_iff.mp
    (((reachable.numbers channel).nodup few).sublist numbered)

/-! ## Losses are counted -/

namespace Shared

/-- How many lines there are about lost frames. -/
def lostFrames (shared : Shared σ ν) : Nat :=
  (shared.lostOn .video).length + (shared.lostOn .audio).length

/-- How many lines there are about lost packets. -/
def lostPackets (shared : Shared σ ν) : Nat :=
  (shared.lostOn .packets).length

theorem SameLosses.lostOn {before after : Shared σ ν}
    (same : before.SameLosses after) (channel : Channel) :
    after.lostOn channel = before.lostOn channel := by
  rw [Shared.lostOn, same.lostTickets, Shared.lostOn]

/-- A line about a lost frame is one more of them. -/
theorem lost_frame (shared : Shared σ ν) (notice : Notice) {kind : MediaKind}
    {streamId : UInt32} {seq : UInt64}
    (told : notice.ticket? = some (.frame kind streamId seq)) :
    (shared.notice notice).lostFrames = shared.lostFrames + 1 ∧
      (shared.notice notice).lostPackets = shared.lostPackets := by
  simp only [lostFrames, lostPackets, lostOn, shared.lostTickets_notice told,
    List.filter_append, List.length_append]
  cases kind
  · refine ⟨?_, rfl⟩
    change _ + 1 + (_ + 0) = _ + _ + 1
    omega
  · exact ⟨rfl, rfl⟩

/-- A line about a lost packet is one more of them. -/
theorem lost_packet (shared : Shared σ ν) (notice : Notice) {seq : UInt64}
    (told : notice.ticket? = some (.packet seq)) :
    (shared.notice notice).lostFrames = shared.lostFrames ∧
      (shared.notice notice).lostPackets = shared.lostPackets + 1 := by
  simp only [lostFrames, lostPackets, lostOn, shared.lostTickets_notice told,
    List.filter_append, List.length_append]
  exact ⟨rfl, rfl⟩

end Shared

/-- How a move counts losses: it counts a frame when it logs it, and a packet
when it logs it or asks the session for its number.  Only the panic of a session
over its number leaves a packet counted and not logged. -/
theorem Tracks.counts {client : Client σ κ ν} {shared : Shared σ ν}
    {around : Surroundings} {stack : List (Frame κ)} {control : Control}
    {turn : Turn σ κ ν}
    (tracks : Tracks client shared around stack control turn) :
    let before := shared.dispatcher.counters
    let after := turn.shared.dispatcher.counters
    ∃ frames packets : Nat,
      after.droppedFrames = before.droppedFrames + .ofNat frames ∧
        after.droppedPackets = before.droppedPackets + .ofNat packets ∧
          turn.shared.lostFrames = shared.lostFrames + frames ∧
            ((∀ payload, control = .raise payload →
                ∀ frame ∈ stack.head?, frame.isReporting = false) →
              turn.shared.lostPackets +
                (turn.stack.filterMap Frame.unlogged?).length =
                shared.lostPackets + (stack.filterMap Frame.unlogged?).length +
                  packets) := by
  have none (counter : UInt64) : counter = counter + .ofNat 0 :=
    (UInt64.add_zero counter).symm
  cases tracks with
  | aside before leaves =>
      refine ⟨0, 0, leaves.same.droppedFrames.trans (none _),
        leaves.same.droppedPackets.trans (none _), ?_, fun _ => ?_⟩
      · simp only [Shared.lostFrames, leaves.same.lostOn, Nat.add_zero]
      · rw [← Frame.filterMap_ticketed _ Frame.unlogged?_of_plain turn.stack,
          leaves.stack, Frame.filterMap_ticketed _ Frame.unlogged?_of_plain]
        simp only [Shared.lostPackets, leaves.same.lostOn, Nat.add_zero]
  | drains stack next popped =>
      rcases Option.map_eq_some_iff.mp popped with ⟨_, _, equal⟩
      cases equal
      exact ⟨0, 0, none _, none _, rfl, fun _ => rfl⟩
  | calls stack entry cycle due =>
      refine ⟨0, 0, none _, none _, rfl, fun _ => ?_⟩
      simp only [Turn.call, Turn.run, Turn.pass,
        List.filterMap_cons_none (Frame.unlogged?_waiting _ _), Nat.add_zero]
  | misses stack entry cycle nobody =>
      rcases entry with ⟨seq, item⟩
      cases item with
      | frame kind descriptor packet =>
          obtain ⟨frames, packets⟩ :=
            Shared.lost_frame (shared.count .frameDropped)
              (.unknownStream kind descriptor.id seq) rfl
          exact ⟨1, 0, rfl, none _, frames, fun _ => congrArg (· + _) packets⟩
      | packet session data =>
          obtain ⟨frames, packets⟩ :=
            Shared.lost_packet (shared.count .packetDropped)
              (.closedSession seq) rfl
          refine ⟨0, 1, none _, rfl, frames, fun _ => ?_⟩
          exact (congrArg (· + _) packets).trans (Nat.add_right_comm _ _ _)
  | sent stack seq kind =>
      refine ⟨0, 0, ?_, ?_, rfl, fun _ => rfl⟩
      · cases kind <;> exact none _
      · cases kind <;> exact none _
  | lost stack seq kind streamId cycle payload =>
      obtain ⟨frames, packets⟩ := Shared.lost_frame (shared.count .frameDropped)
        (.streamPanicked kind streamId seq payload) rfl
      exact ⟨1, 0, rfl, none _, frames, fun _ => congrArg (· + _) packets⟩
  | received => exact ⟨0, 0, none _, none _, rfl, fun _ => rfl⟩
  | refused => exact ⟨0, 1, none _, rfl, rfl, fun _ => rfl⟩
  | reported stack seq session payload cycle reply =>
      obtain ⟨frames, packets⟩ := shared.lost_packet
        (.sessionPanicked reply.number seq payload) rfl
      refine ⟨0, 0, none _, none _, frames, fun _ => ?_⟩
      exact (congrArg (· + _) packets).trans (Nat.add_right_comm _ _ _)
  | escapes stack seq session payload cycle raised =>
      refine ⟨0, 0, none _, none _, rfl, fun calm => ?_⟩
      cases calm raised rfl _ rfl

/-- Unless a session has panicked over its number, no panic meets a frame that
asks for one. -/
theorem Shared.Tells.unmet {shared : Shared σ ν} {stack : List (Frame κ)}
    {control : Control} (tells : shared.Tells stack control)
    (calm : ¬ shared.NumberPanicked) (payload : Payload)
    (raises : control = .raise payload) :
      ∀ frame ∈ stack.head?, frame.isReporting = false := by
  intro frame top
  cases stack with
  | nil => cases top
  | cons _ below =>
      cases Option.mem_some.mp top
      cases frame with
      | reporting seq session lost cycle =>
          have told := tells payload seq session lost cycle below raises rfl
          exact absurd ⟨_, told, rfl⟩ calm
      | _ => rfl

/-- In a reachable world the counter of lost frames is the number of lines about
them.  Unless a session has panicked over its number, the counter of lost
packets is the number of lines about them and of the packets that have yet to be
logged. -/
theorem Reachable.counts_losses {client : Client σ κ ν} {world : World σ κ ν}
    (reachable : Reachable client world) :
    let counters := world.shared.dispatcher.counters
    counters.droppedFrames = .ofNat world.shared.lostFrames ∧
      (¬ world.shared.NumberPanicked →
        counters.droppedPackets =
          .ofNat (world.shared.lostPackets + world.unlogged.length)) := by
  induction reachable with
  | opening opening =>
      rw [World.unlogged, opening.flatMap_threads Thread.unlogged rfl]
      cases opening with
      | application | alone => exact ⟨rfl, fun _ => rfl⟩
  | @occur world occurrence reached allowed inductionHypothesis =>
      have becomes := World.after_becomes client allowed
      rcases inductionHypothesis with ⟨frames, packets⟩
      have calm
          (after : ¬ (world.after client occurrence).shared.NumberPanicked) :
          ¬ world.shared.NumberPanicked := by
        rintro ⟨happening, member, panic⟩
        exact after ⟨happening, becomes.journal.subset member, panic⟩
      cases occurrence with
      | step self =>
          generalize world.after client (.step self) = next at becomes calm
          cases becomes with
          | same => exact ⟨frames, packets⟩
          | @moved _ thread found =>
              rcases thread with ⟨role, stack, control⟩
              have member := List.mem_of_getElem? found
              have fits : control.Fits stack := reached.fits _ member
              rcases (world.shared.move_tracks stack client
                (world.surroundings self)
                fits).counts with
                  ⟨more, more', frames', packets', lines, lines'⟩
              constructor
              · refine frames'.trans ?_
                rw [frames, ← UInt64.ofNat_add, ← lines]
                rfl
              · intro after
                have before := calm after
                have logged := lines' ((reached.tells _ member).unmet before)
                have replaced :=
                  (World.afterTurn_flatMap Thread.unlogged rfl found
                  (world.shared.move client
                    (world.surroundings self) stack control)).length_eq
                rw [List.length_append, List.length_append] at replaced
                refine packets'.trans ?_
                rw [packets before, ← UInt64.ofNat_add]
                congr 1
                change _ = Shared.lostPackets
                  (Turn.shared _) + (List.flatMap _ _).length
                simp only [Thread.unlogged, World.unlogged] at replaced ⊢
                omega
      | _ =>
          have same := becomes.sameLosses (by simp)
          have counted :=
            (becomes.leavesTickets reached.fits (by simp)).2.length_eq
          constructor
          · rw [same.droppedFrames, frames, Shared.lostFrames,
              Shared.lostFrames, same.lostOn, same.lostOn]
          · intro after
            rw [same.droppedPackets, packets (calm after), counted,
              Shared.lostPackets, Shared.lostPackets, same.lostOn]

/-- Outside of all callbacks every packet that is counted as lost is logged. -/
theorem World.unlogged_of_isOutsideCallbacks {world : World σ κ ν}
    (outside : world.threads.all Thread.isOutsideCallbacks = true) :
    world.unlogged = [] := by
  rw [unlogged, List.flatMap_eq_nil_iff]
  intro thread member
  have own := List.all_eq_true.mp outside thread member
  rw [Thread.isOutsideCallbacks, Bool.and_eq_true, List.all_eq_true] at own
  rw [Thread.unlogged, List.filterMap_eq_nil_iff]
  intro frame stands
  have plain := own.1 frame stands
  cases frame with
  | client callback state => rfl
  | _ => cases plain

end Switchboard
