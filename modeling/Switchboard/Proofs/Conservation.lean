import Switchboard.Proofs.Order

/-!
# Conservation of items

No item is lost and none is counted twice.  A thread that has taken an item from
a queue has it in its hands until it counts the item as delivered or as dropped;
in between it may run client code, which may do anything that other callers may
do.  The true numbers behind the counters are kept beside the journal: the
ledger says how they relate to the journal and to the hands of all threads,
every move keeps the ledger balanced, and outside of all callbacks all hands are
empty.
-/

namespace Switchboard

variable {σ κ ν : Type}

/-- One on the given channel, nothing on the others. -/
def Channel.once (on : Option Channel) (channel : Channel) : Nat :=
  if on = some channel then 1 else 0

@[simp]
theorem Channel.once_none (channel : Channel) : Channel.once none channel = 0 :=
  rfl

namespace Happening

/-- The channel on which an item was submitted. -/
def submittedOn? (happening : Happening ν) : Option Channel :=
  happening.submitted?.map fun entry => entry.item.channel

/-- The channel of an item that has left its queue. -/
def drainedOn? (happening : Happening ν) : Option Channel :=
  happening.drained?.map fun entry => entry.item.channel

/-- The channel of an item whose callback has returned. -/
def returnedOn? : Happening ν → Option Channel
  | .returned callback _ => callback.channel?
  | _ => none

/-- The channel of an item whose callback has panicked. -/
def panickedOn? : Happening ν → Option Channel
  | .panicked callback _ => callback.channel?
  | _ => none

/-- The channel of an item that nobody was there to take. -/
def missedOn? : Happening ν → Option Channel
  | .noticed (.unknownStream kind _ _) => some kind.channel
  | .noticed (.closedSession _) => some .packets
  | _ => none

end Happening

namespace Shared

/-- How often the journal tells something about an item of a channel. -/
def tally (shared : Shared σ ν) (told : Happening ν → Option Channel)
    (channel : Channel) : Nat :=
  (shared.journal.filterMap told).count channel

/-- The entries that the journal tells of, counted on one channel. -/
theorem tally_eq_length (shared : Shared σ ν)
    (told : Happening ν → Option (Sequenced Item)) (channel : Channel) :
    shared.tally
      (fun happening => (told happening).map fun entry => entry.item.channel)
        channel =
      ((shared.journal.filterMap told).reverse.filter
        fun entry => entry.item.channel = channel).length := by
  rw [tally, ← List.map_filterMap, List.count, List.countP_map,
    List.filter_reverse, List.length_reverse, List.countP_eq_length_filter]
  rfl

theorem tally_record (shared : Shared σ ν) (happening : Happening ν)
    (told : Happening ν → Option Channel) (channel : Channel) :
    (shared.record happening).tally told channel =
      shared.tally told channel + Channel.once (told happening) channel := by
  simp only [tally, record]
  cases on : told happening with
  | none => simp [on]
  | some other =>
      simp only [List.filterMap_cons, on, List.count_cons, Channel.once,
        Option.some.injEq, beq_iff_eq]

theorem SameItems.tally {before after : Shared σ ν}
    (same : before.SameItems after) {told : Happening ν → Option Channel}
    (concerning : ∀ happening, told happening ≠ none →
      happening.concernsItem = true)
    (channel : Channel) :
    after.tally told channel = before.tally told channel := by
  simp only [Shared.tally]
  rw [same.told concerning]

end Shared

namespace Happening

theorem concernsItem_of_drainedOn? (happening : Happening ν)
    (told : happening.drainedOn? ≠ none) : happening.concernsItem = true := by
  refine concernsItem_of_drained? happening fun untold => told ?_
  rw [drainedOn?, untold, Option.map_none]

theorem concernsItem_of_returnedOn? (happening : Happening ν)
    (told : happening.returnedOn? ≠ none) : happening.concernsItem = true := by
  cases happening with
  | returned callback entry => exact Option.isSome_iff_ne_none.mpr told
  | _ => exact absurd rfl told

theorem concernsItem_of_panickedOn? (happening : Happening ν)
    (told : happening.panickedOn? ≠ none) : happening.concernsItem = true := by
  cases happening with
  | panicked callback payload => exact Option.isSome_iff_ne_none.mpr told
  | _ => exact absurd rfl told

theorem concernsItem_of_missedOn? (happening : Happening ν)
    (told : happening.missedOn? ≠ none) : happening.concernsItem = true := by
  simp only [missedOn?] at told
  split at told
  · rfl
  · rfl
  · exact absurd rfl told

end Happening

/-! ## What threads have in their hands -/

/-- Whether a frame is that of a caller's own code, which works on no
callback. -/
def Frame.isOwn : Frame κ → Bool
  | .client none _ => true
  | _ => false

/-- Items by channel: those that were taken from a queue and not counted yet,
and among them those whose callback has just returned or panicked. -/
structure Hands where
  held : Channel → Nat
  returning : Channel → Nat
  failing : Channel → Nat

namespace Hands

/-- Nothing. -/
def empty : Hands where
  held _ := 0
  returning _ := 0
  failing _ := 0

/-- An item of whose failure the journal has just told. -/
def failed (on : Channel) : Hands where
  held _ := 0
  returning _ := 0
  failing := Channel.once (some on)

/-- What two have together. -/
def and (first second : Hands) : Hands where
  held channel := first.held channel + second.held channel
  returning channel := first.returning channel + second.returning channel
  failing channel := first.failing channel + second.failing channel

end Hands

/-- What the frames of a stack wait with. -/
def Hands.ofStack (stack : List (Frame κ)) : Hands where
  held channel := (stack.filterMap Frame.channel?).count channel
  returning _ := 0
  failing _ := 0

/-- The channel of the item that a control is about to route. -/
def Control.routing? : Control → Option Channel
  | .run (.route entry _) => some entry.item.channel
  | _ => none

/-- The channel of the item whose callback returns to the stack. -/
def Control.returning? (stack : List (Frame κ)) : Control → Option Channel
  | .reply _ => stack.head?.bind Frame.channel?
  | _ => none

/-- The channel of the item whose callback panics onto the stack. -/
def Control.failing? (stack : List (Frame κ)) : Control → Option Channel
  | .raise _ => stack.head?.bind Frame.channel?
  | _ => none

/-- What a thread with the given stack and control has in its hands. -/
def Control.hands (stack : List (Frame κ)) (control : Control) : Hands where
  held channel :=
    Channel.once control.routing? channel +
      (stack.filterMap Frame.channel?).count channel
  returning := Channel.once (control.returning? stack)
  failing := Channel.once (control.failing? stack)

namespace Thread

/-- What a thread has in its hands. -/
def hands (thread : Thread κ) : Hands :=
  thread.control.hands thread.stack

/-- Whether a thread is outside of all callbacks: only code of its own waits on
its stack, and it is not about to route an item. -/
def isOutsideCallbacks (thread : Thread κ) : Bool :=
  thread.stack.all Frame.isOwn && thread.control.routing?.isNone

/-- What threads have in their hands together. -/
def allHands : List (Thread κ) → Hands
  | [] => .empty
  | thread :: rest => thread.hands.and (allHands rest)

theorem hands_of_isFree {thread : Thread κ} (free : thread.isFree = true) :
    thread.hands = .empty := by
  have empty := stack_of_isFree free
  simp only [isFree] at free
  rw [Bool.and_eq_true] at free
  have idle := (isSome_ending?_iff.mp free.2).2
  rcases thread with ⟨role, stack, control⟩
  cases empty
  cases control with
  | run instruction => exact absurd rfl (idle instruction)
  | _ => rfl

theorem hands_of_isOutsideCallbacks {thread : Thread κ}
    (outside : thread.isOutsideCallbacks = true) : thread.hands = .empty := by
  rcases thread with ⟨role, stack, control⟩
  simp only [isOutsideCallbacks, Bool.and_eq_true, List.all_eq_true,
    Option.isNone_iff_eq_none] at outside
  rcases outside with ⟨own, routing⟩
  have about : ∀ frame ∈ stack, frame.channel? = none := by
    intro frame member
    have own := own frame member
    simp only [Frame.isOwn] at own
    split at own
    · rfl
    · exact Bool.noConfusion own
  have top : stack.head?.bind Frame.channel? = none := by
    cases stack with
    | nil => rfl
    | cons frame below => exact about frame List.mem_cons_self
  have returning : control.returning? stack = none := by
    cases control <;> first | exact top | rfl
  have failing : control.failing? stack = none := by
    cases control <;> first | exact top | rfl
  have nothing : stack.filterMap Frame.channel? = [] :=
    List.filterMap_eq_nil_iff.mpr about
  simp only [hands, Control.hands]
  rw [routing, returning, failing, nothing]
  rfl

/-- Outside of all callbacks all hands are empty. -/
theorem allHands_of_isOutsideCallbacks {threads : List (Thread κ)}
    (outside : ∀ thread ∈ threads, thread.isOutsideCallbacks = true) :
    allHands threads = .empty := by
  induction threads with
  | nil => rfl
  | cons first rest inductionHypothesis =>
      rw [allHands,
        hands_of_isOutsideCallbacks (outside first List.mem_cons_self),
        inductionHypothesis fun thread member =>
          outside thread (List.mem_cons_of_mem _ member)]
      rfl

/-- The hands of all threads are those of one and those of the others, also when
the one has changed. -/
theorem allHands_set {threads : List (Thread κ)} {self : ThreadId}
    {thread : Thread κ} (found : threads[self]? = some thread) :
    ∃ others : Hands, allHands threads = thread.hands.and others ∧
      ∀ changed : Thread κ,
        allHands (threads.set self changed) = changed.hands.and others := by
  induction threads generalizing self with
  | nil => simp at found
  | cons first rest inductionHypothesis =>
      cases self with
      | zero =>
          cases Option.some.inj found
          exact ⟨allHands rest, rfl, fun changed => rfl⟩
      | succ self =>
          rcases inductionHypothesis found with ⟨others, now, later⟩
          refine ⟨first.hands.and others, ?_, fun changed => ?_⟩
          · rw [allHands, now]
            simp only [Hands.and, Nat.add_left_comm]
          · rw [List.set_cons_succ, allHands, later]
            simp only [Hands.and, Nat.add_left_comm]

/-- A thread without anything in its hands does not show. -/
theorem allHands_append_of_empty {threads : List (Thread κ)} {thread : Thread κ}
    (empty : thread.hands = .empty) :
    allHands (threads ++ [thread]) = allHands threads := by
  induction threads with
  | nil =>
      simp only [List.nil_append, allHands, empty]
      rfl
  | cons first rest inductionHypothesis =>
      rw [List.cons_append, allHands, allHands, inductionHypothesis]

end Thread

/-! ## The ledger -/

namespace Counters

/-- The counters of the given numbers of delivered and lost items, without
timestamps and reports. -/
def ofNumbers (delivered lost : Channel → Nat) : Counters :=
  { Counters.zero with
    videoDelivered := UInt64.ofNat (delivered .video)
    audioDelivered := UInt64.ofNat (delivered .audio)
    packetsDelivered := UInt64.ofNat (delivered .packets)
    droppedFrames := UInt64.ofNat (lost .video + lost .audio)
    droppedPackets := UInt64.ofNat (lost .packets) }

/-- One more delivered frame. -/
theorem frameDelivered_ofNumbers (delivered lost : Channel → Nat)
    (kind : MediaKind) : (ofNumbers delivered lost).frameDelivered kind =
      ofNumbers
        (fun channel => delivered channel + Channel.once
          (some kind.channel) channel)
        lost := by
  cases kind <;>
    simp [ofNumbers, frameDelivered, Channel.once, MediaKind.channel,
      UInt64.ofNat_add]

/-- One more delivered packet. -/
theorem packetDelivered_ofNumbers (delivered lost : Channel → Nat) :
    (ofNumbers delivered lost).packetDelivered =
      ofNumbers
        (fun channel => delivered channel + Channel.once
          (some .packets) channel)
        lost := by
  simp [ofNumbers, packetDelivered, Channel.once, UInt64.ofNat_add]

/-- One more lost frame. -/
theorem frameDropped_ofNumbers (delivered lost : Channel → Nat)
    (kind : MediaKind) : (ofNumbers delivered lost).frameDropped =
      ofNumbers delivered
        (fun channel => lost channel + Channel.once
          (some kind.channel) channel) := by
  cases kind
  · simp only [ofNumbers, frameDropped, Channel.once, MediaKind.channel,
      UInt64.ofNat_add, reduceCtorEq, ↓reduceIte, Option.some.injEq,
      Nat.add_zero]
    congr 1
    ac_rfl
  · simp [ofNumbers, frameDropped, Channel.once, MediaKind.channel,
      UInt64.ofNat_add, UInt64.add_assoc]

/-- One more lost packet. -/
theorem packetDropped_ofNumbers (delivered lost : Channel → Nat) :
    (ofNumbers delivered lost).packetDropped =
      ofNumbers delivered
        (fun channel => lost channel + Channel.once
          (some .packets) channel) := by
  simp [ofNumbers, packetDropped, Channel.once, UInt64.ofNat_add]

end Counters

/-- The journal, the counters and all hands tell the same story: `delivered` and
`lost` are the true numbers of items that were counted. -/
structure Ledger (shared : Shared σ ν) (hands : Hands)
    (delivered lost : Channel → Nat) :
    Prop where
  drained (channel : Channel) :
    shared.tally Happening.drainedOn? channel =
      delivered channel + lost channel + hands.held channel
  returned (channel : Channel) :
    shared.tally Happening.returnedOn? channel =
      delivered channel + hands.returning channel
  failed (channel : Channel) :
    shared.tally Happening.panickedOn? channel + shared.tally
      Happening.missedOn? channel =
      lost channel + hands.failing channel
  counted : shared.dispatcher.counters.routed = .ofNumbers delivered lost

namespace Ledger

variable {shared : Shared σ ν} {delivered lost : Channel → Nat} {others : Hands}

/-- What does not concern items leaves the ledger as it is. -/
theorem sameItems {hands : Hands} {after : Shared σ ν}
    (ledger : Ledger shared hands delivered lost)
    (same : shared.SameItems after) :
    Ledger after hands delivered lost where
  drained channel := by
    rw [same.tally Happening.concernsItem_of_drainedOn?]
    exact ledger.drained channel
  returned channel := by
    rw [same.tally Happening.concernsItem_of_returnedOn?]
    exact ledger.returned channel
  failed channel := by
    rw [same.tally Happening.concernsItem_of_panickedOn?,
      same.tally Happening.concernsItem_of_missedOn?]
    exact ledger.failed channel
  counted := same.routed.trans ledger.counted

/-- The ledger has to do with the journal and the counters only. -/
theorem elsewhere {hands : Hands} {after : Shared σ ν}
    (ledger : Ledger shared hands delivered lost)
    (journal : after.journal = shared.journal)
    (counters : after.dispatcher.counters = shared.dispatcher.counters) :
    Ledger after hands delivered lost where
  drained channel := by
    simp only [Shared.tally]
    rw [journal]
    exact ledger.drained channel
  returned channel := by
    simp only [Shared.tally]
    rw [journal]
    exact ledger.returned channel
  failed channel := by
    simp only [Shared.tally]
    rw [journal]
    exact ledger.failed channel
  counted := by
    rw [counters]
    exact ledger.counted

/-- A happening is entered.  An item that leaves its queue is in somebody's
hands, and a callback that has ended hands it back. -/
theorem record {hands after : Hands}
    (ledger : Ledger shared hands delivered lost) (happening : Happening ν)
    (held : ∀ channel,
      after.held channel =
        hands.held channel + Channel.once happening.drainedOn? channel)
    (returning : ∀ channel,
      after.returning channel =
        hands.returning channel + Channel.once happening.returnedOn? channel)
    (failing : ∀ channel,
      after.failing channel =
        hands.failing channel + Channel.once happening.panickedOn? channel +
          Channel.once happening.missedOn? channel) :
    Ledger (shared.record happening) after delivered lost where
  drained channel := by
    rw [Shared.tally_record, ledger.drained, held]
    omega
  returned channel := by
    rw [Shared.tally_record, ledger.returned, returning]
    omega
  failed channel := by
    have before := ledger.failed channel
    rw [Shared.tally_record, Shared.tally_record, failing]
    omega
  counted := ledger.counted

/-- An item in somebody's hands is counted: as delivered if its callback has
returned, and as lost if its callback has panicked or nobody was there to take
it. -/
theorem count {hands after : Hands}
    (ledger : Ledger shared hands delivered lost)
    (given dropped : Option Channel) (update : Counters → Counters)
    (held : ∀ channel,
      hands.held channel =
        after.held channel + Channel.once given channel + Channel.once
          dropped channel)
    (returning : ∀ channel,
      hands.returning channel =
        after.returning channel + Channel.once given channel)
    (failing : ∀ channel,
      hands.failing channel =
        after.failing channel + Channel.once dropped channel)
    (routed : ∀ counters, (update counters).routed = update counters.routed)
    (counted :
      update (.ofNumbers delivered lost) =
        .ofNumbers
          (fun channel => delivered channel + Channel.once given channel)
          fun channel => lost channel + Channel.once dropped channel) :
    Ledger (shared.count update) after
      (fun channel => delivered channel + Channel.once given channel)
      fun channel => lost channel + Channel.once dropped channel where
  drained channel := by
    have before := ledger.drained channel
    rw [held] at before
    change shared.tally Happening.drainedOn? channel = _
    omega
  returned channel := by
    have before := ledger.returned channel
    rw [returning] at before
    change shared.tally Happening.returnedOn? channel = _
    omega
  failed channel := by
    have before := ledger.failed channel
    rw [failing] at before
    change shared.tally Happening.panickedOn? channel +
      shared.tally Happening.missedOn? channel = _
    omega
  counted := by
    rw [← counted, ← ledger.counted]
    exact routed _

end Ledger

/-- The books balance: there are true numbers with which the ledger is right. -/
def Shared.Balances (shared : Shared σ ν) (hands : Hands) : Prop :=
  ∃ delivered lost, Ledger shared hands delivered lost

/-- A control that leaves items aside has nothing but what the frames wait
with. -/
theorem Control.IsAside.hands {stack : List (Frame κ)} {control : Control}
    (aside : control.IsAside stack) : control.hands stack = .ofStack stack := by
  have head (about : ∀ frame ∈ stack.head?, frame.channel? = none) :
      stack.head?.bind Frame.channel? = none := by
    cases stack with
    | nil => rfl
    | cons frame below => exact about frame rfl
  have nothing : control.routing? = none ∧ control.returning? stack = none ∧
      control.failing? stack = none := by
    cases control with
    | run instruction =>
        cases instruction with
        | route entry cycle => exact aside.elim
        | _ => exact ⟨rfl, rfl, rfl⟩
    | reply reply => exact ⟨rfl, head aside, rfl⟩
    | raise payload => exact ⟨rfl, rfl, head aside⟩
    | answer | cancelled => exact ⟨rfl, rfl, rfl⟩
  rcases nothing with ⟨routing, returning, failing⟩
  simp only [Control.hands]
  rw [routing, returning, failing]
  simp only [Channel.once_none, Nat.zero_add]
  rfl

theorem Turn.IsAside.hands {shared : Shared σ ν} {stack : List (Frame κ)}
    {turn : Turn σ κ ν} (turns : turn.IsAside shared stack) {control : Control}
    (before : control.IsAside stack) :
    turn.control.hands turn.stack = control.hands stack := by
  rw [turns.control.hands, before.hands, Hands.ofStack, turns.stack]
  rfl

namespace Shared.Balances

variable {shared : Shared σ ν} {others : Hands}

/-- Client code that works on a callback has nothing more in its hands than
before, until it ends the callback. -/
theorem clientMove {stack : List (Frame κ)} {callback : Callback}
    (fits : (Expected.reply callback).Fits stack) (turn : ClientTurn σ κ ν)
    (balances : shared.Balances ((Hands.ofStack stack).and others)) :
    let moved := shared.clientMove stack (some callback) turn
    moved.shared.Balances ((moved.control.hands moved.stack).and others) := by
  rcases balances with ⟨delivered, lost, ledger⟩
  have noted := ledger.sameItems (shared.noting_sameItems turn)
  have top : stack.head?.bind Frame.channel? = callback.channel? := by
    cases stack with
    | nil => exact fits.elim
    | cons frame below =>
        exact (Expected.reply_fits_cons_iff.mp fits).1.channel?_eq
  refine shared.clientMove_cases stack callback turn
    (motive := fun moved =>
      moved.shared.Balances ((moved.control.hands moved.stack).and others)) ?_
        ?_ ?_
  · intro request next
    have aside : (Control.run (.perform request)).IsAside
        (Frame.client (some callback) next :: stack) := trivial
    refine ⟨delivered, lost, ?_⟩
    change Ledger _ ((Control.hands (.client (some callback) next :: stack)
      (.run (.perform request))).and others) _ _
    rw [aside.hands]
    exact noted
  · intro reply
    refine ⟨delivered, lost,
      noted.record _ (fun channel => ?_) (fun channel => ?_)
      fun channel => ?_⟩
    · exact congrArg (· + others.held channel) (Nat.zero_add _)
    · change Channel.once (stack.head?.bind Frame.channel?) channel + _ =
        0 + _ + Channel.once callback.channel? channel
      rw [top]
      omega
    · rfl
  · intro payload
    refine ⟨delivered, lost,
      noted.record _ (fun channel => ?_) (fun channel => ?_)
      fun channel => ?_⟩
    · exact congrArg (· + others.held channel) (Nat.zero_add _)
    · rfl
    · change Channel.once (stack.head?.bind Frame.channel?) channel + _ =
        0 + _ + Channel.once callback.channel? channel + Channel.once
          none channel
      rw [top, Channel.once_none]
      omega

/-- A frame or a packet is about to be handed over, or nobody is there to take
it. -/
theorem route {stack : List (Frame κ)} (alive : SessionHandle → Bool)
    (entry : Sequenced Item) (cycle : Cycle)
    (balances :
      shared.Balances
        (((Control.run (.route entry cycle)).hands stack).and others)) :
    let routed := shared.route alive stack entry cycle
    routed.shared.Balances
      ((routed.control.hands routed.stack).and others) := by
  rcases balances with ⟨delivered, lost, ledger⟩
  -- The item passes from the control to the frame.
  have called (frame : Frame κ) (callback : Callback)
      (about : frame.channel? = some entry.item.channel) :
      shared.Balances
        (((Control.run (.call callback)).hands (frame :: stack)).and
          others) := by
    refine ⟨delivered, lost, ?_⟩
    have same : (Control.run (.call callback)).hands (frame :: stack) =
        (Control.run (.route entry cycle)).hands stack := by
      simp only [Control.hands]
      congr 1
      funext channel
      change Channel.once none channel + _ = Channel.once
        (some entry.item.channel) channel + _
      rw [List.filterMap_cons_some about, List.count_cons, Channel.once_none]
      simp only [Channel.once, beq_iff_eq, Option.some.injEq]
      omega
    rw [same]
    exact ledger
  have missed (notice : Notice) (update : Counters → Counters)
      (tells : (Happening.noticed notice : Happening ν).missedOn? =
        some entry.item.channel)
      (routed : ∀ counters, (update counters).routed = update counters.routed)
      (counted : update (.ofNumbers delivered lost) =
        .ofNumbers delivered
          fun channel =>
            lost channel + Channel.once (some entry.item.channel) channel) :
      ((shared.count update).notice notice).Balances
        (((Control.run (.cycle cycle)).hands stack).and others) := by
    have told : Ledger (shared.notice notice)
        ((((Control.run (.route entry cycle)).hands stack).and others).and
          (.failed entry.item.channel)) delivered lost := by
      apply ledger.record _ (fun channel => rfl) (fun channel => rfl)
      intro channel
      rw [tells]
      rfl
    refine ⟨_, _, told.count none (some entry.item.channel) update
      (fun channel => ?_)
      (fun channel => rfl) (fun channel => ?_) routed counted⟩
    · change Channel.once (some entry.item.channel) channel + _ + _ + 0 =
        Channel.once none channel + _ + _ + Channel.once none channel + _
      simp only [Channel.once_none]
      omega
    · change 0 + _ + _ = 0 + _ + _
      rfl
  simp only [Shared.route]
  cases item : entry.item with
  | frame kind descriptor packet =>
      have on : entry.item.channel = kind.channel := by rw [item]; rfl
      dsimp only
      split
      · exact called _ _ (congrArg some on.symm)
      · refine missed _ _ (congrArg some on.symm) (fun counters => rfl) ?_
        rw [on]
        exact Counters.frameDropped_ofNumbers delivered lost kind
  | packet session data =>
      have on : entry.item.channel = .packets := by rw [item]; rfl
      dsimp only
      split
      · exact called _ _ (congrArg some on.symm)
      · refine missed _ _ (congrArg some on.symm) (fun counters => rfl) ?_
        rw [on]
        exact Counters.packetDropped_ofNumbers delivered lost

/-- The item whose callback has ended is counted, and its frame is left. -/
theorem close {stack : List (Frame κ)} {frame : Frame κ} {control : Control}
    (after : Control) (on : Channel) (about : frame.channel? = some on)
    (given dropped : Option Channel) (update : Counters → Counters)
    (aside : after.IsAside stack) (routing : control.routing? = none)
    (returning : control.returning? (frame :: stack) = given)
    (failing : control.failing? (frame :: stack) = dropped)
    (one : ∀ channel,
      Channel.once (some on) channel =
        Channel.once given channel + Channel.once dropped channel)
    (routed : ∀ counters, (update counters).routed = update counters.routed)
    (counted : ∀ delivered lost,
      update (.ofNumbers delivered lost) =
        .ofNumbers
          (fun channel => delivered channel + Channel.once given channel)
          fun channel => lost channel + Channel.once dropped channel)
    (balances : shared.Balances ((control.hands (frame :: stack)).and others)) :
    (shared.count update).Balances ((after.hands stack).and others) := by
  rcases balances with ⟨delivered, lost, ledger⟩
  rw [aside.hands]
  refine ⟨_, _, ledger.count given dropped update (fun channel => ?_)
    (fun channel => ?_) (fun channel => ?_) routed (counted delivered lost)⟩
  · have one := one channel
    change Channel.once control.routing? channel + _ + _ = _ + _ + _ + _
    rw [routing, List.filterMap_cons_some about, List.count_cons,
      Channel.once_none]
    simp only [Channel.once, Option.some.injEq] at one
    simp only [Hands.ofStack, Channel.once, beq_iff_eq]
    omega
  · change Channel.once (control.returning? (frame :: stack)) channel + _ =
      0 + _ + _
    rw [returning]
    omega
  · change Channel.once (control.failing? (frame :: stack)) channel + _ =
      0 + _ + _
    rw [failing]
    omega

/-- A move keeps the books balanced. -/
theorem move {client : Client σ κ ν} {around : Surroundings}
    {stack : List (Frame κ)} {control : Control} {turn : Turn σ κ ν}
    (handles : Handles client shared around stack control turn)
    (balances : shared.Balances ((control.hands stack).and others)) :
    turn.shared.Balances ((turn.control.hands turn.stack).and others) := by
  cases handles with
  | aside before turns =>
      rcases balances with ⟨delivered, lost, ledger⟩
      rw [turns.hands before]
      exact ⟨delivered, lost, ledger.sameItems turns.same⟩
  | pushes stack item =>
      rcases balances with ⟨delivered, lost, ledger⟩
      have pushed : Ledger (shared.dispatch (·.push item)) _ delivered lost :=
        ledger.elsewhere rfl rfl
      exact ⟨delivered, lost, pushed.record (.submitted _) (fun channel => rfl)
        (fun channel => rfl) fun channel => rfl⟩
  | @drains stack cycle channel remaining entry dispatcher next popped =>
      rcases balances with ⟨delivered, lost, ledger⟩
      have counters : dispatcher.counters = shared.dispatcher.counters := by
        rcases Option.map_eq_some_iff.mp popped with ⟨_, _, equal⟩
        cases equal
        rfl
      have taken :
          Ledger { shared with dispatcher := dispatcher } _ delivered lost :=
        ledger.elsewhere rfl counters
      refine ⟨delivered, lost, taken.record (.drained entry) (fun channel => ?_)
        (fun channel => rfl) fun channel => rfl⟩
      change Channel.once (some entry.item.channel) channel +
          (stack.filterMap Frame.channel?).count channel + _ =
        Channel.once none channel + (stack.filterMap Frame.channel?).count
          channel + _ +
          Channel.once (some entry.item.channel) channel
      rw [Channel.once_none]
      omega
  | routes stack entry cycle => exact balances.route _ entry cycle
  | @calls stack callback fits =>
      rcases balances with ⟨delivered, lost, ledger⟩
      refine clientMove fits _ ⟨delivered, lost, ?_⟩
      refine ledger.record (.called callback) (fun channel => ?_)
        (fun channel => rfl)
        fun channel => rfl
      exact congrArg (· + others.held channel) (Nat.zero_add _).symm
  | resumes state response before fits =>
      rw [before.hands] at balances
      exact clientMove fits _ balances
  | sent stack seq kind streamId cycle reply =>
      exact balances.close (.run (.cycle cycle)) kind.channel rfl
        (some kind.channel) none (·.frameDelivered kind) trivial rfl rfl rfl
        (fun channel => rfl) (fun counters => by cases kind <;> rfl)
        fun delivered lost =>
          Counters.frameDelivered_ofNumbers delivered lost kind
  | lost stack seq kind streamId cycle payload after =>
      obtain ⟨delivered, lost, ledger⟩ :=
        balances.close (cycle.afterLoss payload)
        kind.channel rfl none
          (some kind.channel) .frameDropped after rfl rfl rfl
        (fun channel => (Nat.zero_add _).symm) (fun counters => rfl)
        fun delivered lost =>
          Counters.frameDropped_ofNumbers delivered lost kind
      exact ⟨delivered, lost,
        ledger.record (.noticed (.streamPanicked kind streamId seq payload))
          (fun channel => rfl) (fun channel => rfl) fun channel => rfl⟩
  | received stack seq session cycle reply =>
      exact balances.close (.run (.cycle cycle)) .packets rfl
        (some .packets) none
        .packetDelivered trivial rfl rfl rfl (fun channel => rfl)
          (fun counters => rfl)
        Counters.packetDelivered_ofNumbers
  | refused stack seq session cycle payload =>
      have counted :=
        balances.close (.run (.cycle cycle)) .packets rfl none (some .packets)
        .packetDropped trivial rfl rfl rfl
          (fun channel => (Nat.zero_add _).symm)
        (fun counters => rfl) Counters.packetDropped_ofNumbers
      -- The frame that waits for the session's number has nothing in its hands.
      have asking : (Control.run (.call (.sessionNumber session))).IsAside
          (Frame.reporting seq session payload cycle :: stack) := rfl
      have going : (Control.run (.cycle cycle)).IsAside stack := trivial
      rw [going.hands] at counted
      change Shared.Balances _
        ((Control.hands (.reporting seq session payload cycle :: stack)
        (.run (.call (.sessionNumber session)))).and others)
      rw [asking.hands]
      exact counted

end Shared.Balances

namespace World

/-- Who is given something to do, gives up or is cancelled has in its hands what
it had before. -/
theorem Becomes.allHands {client : Client σ κ ν} {world next : World σ κ ν}
    {occurrence : Occurrence κ} (becomes : Becomes client world occurrence next)
    (fits : ∀ thread ∈ world.threads, thread.Fits)
    (still : ∀ self, occurrence ≠ .step self) :
    Thread.allHands next.threads = Thread.allHands world.threads := by
  have put {self : ThreadId} {thread replacement : Thread κ}
      (found : world.threads[self]? = some thread)
      (same : replacement.hands = thread.hands) :
      Thread.allHands (world.threads.set self replacement) =
        Thread.allHands world.threads := by
    rcases Thread.allHands_set found with ⟨others, now, later⟩
    rw [later, same, now]
  -- A task may be cancelled only where its stack is empty.
  have cancelled {task : ThreadId} {stack : List (Frame κ)}
      {instruction : Instruction}
      (found : world.threads[task]? = some ⟨.task, stack, .run instruction⟩)
      (place : instruction = .begin ∨ ∃ watch, instruction = .parked watch) :
      Thread.allHands (world.threads.set task ⟨.task, [], .cancelled⟩) =
        Thread.allHands world.threads := by
    have fits := fits _ (List.mem_of_getElem? found)
    rcases place with rfl | ⟨watch, rfl⟩
    all_goals
      cases (show stack = [] from fits)
      exact put found rfl
  cases becomes with
  | same => rfl
  | moved found => exact absurd rfl (still _)
  | asked request found free =>
      apply put found
      rw [Thread.hands_of_isFree free, Thread.hands,
        Thread.stack_of_isFree free]
      rfl
  | handed code found free =>
      apply put found
      rw [Thread.hands_of_isFree free]
      rfl
  | waited millis => rfl
  | @abandoned self thread instruction found waits which =>
      apply put found
      rcases thread with ⟨role, stack, control⟩
      cases waits
      obtain rfl | rfl | ⟨task, rfl⟩ := which <;> rfl
  | @stopAbandoned self task thread found waits =>
      apply put found
      rcases thread with ⟨role, stack, control⟩
      cases waits
      rfl
  | cancelledFirst found => exact cancelled found (.inl rfl)
  | cancelledParked found => exact cancelled found (.inr ⟨_, rfl⟩)

end World

/-- The books of every reachable world balance. -/
theorem Reachable.balances {client : Client σ κ ν} {world : World σ κ ν}
    (reachable : Reachable client world) :
    world.shared.Balances (Thread.allHands world.threads) := by
  induction reachable with
  | opening opening =>
      have idle (callers : Nat) :
          Thread.allHands (List.replicate callers (Thread.idle : Thread κ)) =
            .empty := by
        induction callers with
        | zero => rfl
        | succ callers inductionHypothesis =>
            rw [List.replicate_succ, Thread.allHands, inductionHypothesis]
            rfl
      cases opening with
      | application identity settings client callers
      | alone identity settings client callers =>
          refine ⟨fun _ => 0, fun _ => 0, ?_⟩
          change Ledger _
            (Thread.allHands (List.replicate callers Thread.idle)) _ _
          rw [idle]
          exact ⟨fun channel => rfl, fun channel => rfl,
            fun channel => rfl, rfl⟩
  | @occur world occurrence reached allowed balances =>
      have becomes := World.after_becomes client allowed
      cases occurrence with
      | step self =>
          generalize world.after client (.step self) = next at becomes
          cases becomes with
          | same => exact balances
          | @moved _ thread found =>
              rcases Thread.allHands_set found with ⟨others, now, later⟩
              have fits := reached.fits thread (List.mem_of_getElem? found)
              have handled :=
                world.shared.move_handles client (world.surroundings self) fits
              rw [now] at balances
              have moved := Shared.Balances.move handled balances
              unfold World.afterTurn
              dsimp only
              split
              · rw [Thread.allHands_append_of_empty rfl, later]
                exact moved
              · rw [List.append_nil, later]
                exact moved
      | _ =>
          rcases balances with ⟨delivered, lost, ledger⟩
          rw [becomes.allHands reached.fits (by simp)]
          exact ⟨delivered, lost,
            ledger.sameItems (becomes.sameItems (by simp))⟩

namespace Shared

/-- How many items were submitted on a channel. -/
def submitted (shared : Shared σ ν) : Channel → Nat :=
  shared.tally Happening.submittedOn?

/-- How many callbacks with an item of a channel have returned. -/
def returned (shared : Shared σ ν) : Channel → Nat :=
  shared.tally Happening.returnedOn?

/-- How many items of a channel a receiver panicked over, or found no
receiver. -/
def failed (shared : Shared σ ν) (channel : Channel) : Nat :=
  shared.tally Happening.panickedOn? channel + shared.tally
    Happening.missedOn? channel

/-- Every item that was submitted has left its queue or still waits in it. -/
theorem InOrder.submitted_eq {shared : Shared σ ν} (order : shared.InOrder)
    (channel : Channel) :
    shared.submitted channel =
      shared.tally Happening.drainedOn? channel +
        (shared.dispatcher.queues.get channel).size := by
  have lengths := congrArg List.length (order channel)
  rw [List.length_append] at lengths
  calc
    shared.submitted channel = (shared.submissions channel).length :=
      shared.tally_eq_length Happening.submitted? channel
    _ = (shared.drainings channel).length + (shared.waiting channel).length :=
      lengths
    _ = _ := by
      rw [drainings, ← shared.tally_eq_length Happening.drained? channel]
      rfl

end Shared

/-- At every moment, whatever the threads are in the middle of: what was
submitted is what was delivered, what was lost, what waits, and what threads
have in their hands; and the counters are right as long as they have not gone
round. -/
theorem Reachable.conservation_with_hands {client : Client σ κ ν}
    {world : World σ κ ν} (reachable : Reachable client world) :
    let hands := Thread.allHands world.threads
    ∃ delivered lost : Channel → Nat,
      (∀ channel,
        world.shared.submitted channel =
          delivered channel + lost channel +
            (world.shared.dispatcher.queues.get channel).size +
              hands.held channel) ∧
      (∀ channel,
        world.shared.returned channel =
          delivered channel + hands.returning channel) ∧
      (∀ channel,
        world.shared.failed channel = lost channel + hands.failing channel) ∧
      world.shared.dispatcher.counters.routed = .ofNumbers delivered lost := by
  rcases reachable.balances with ⟨delivered, lost, ledger⟩
  refine ⟨delivered, lost, fun channel => ?_, ledger.returned, ledger.failed,
    ledger.counted⟩
  rw [reachable.inOrder.submitted_eq, ledger.drained]
  omega

/-- Conservation.  Outside of all callbacks, while fewer than 2^64 items have
been submitted, every frame that was submitted has been delivered or dropped or
waits in its queue, and so has every packet.  The counters of delivered items
are the numbers of the callbacks that returned, and the counters of dropped
items the numbers of those that panicked together with the items for which
nobody was there. -/
theorem Reachable.conservation {client : Client σ κ ν} {world : World σ κ ν}
    (reachable : Reachable client world)
    (outside : world.threads.all Thread.isOutsideCallbacks = true)
    (few :
      world.shared.submitted .video + world.shared.submitted .audio +
        world.shared.submitted .packets < UInt64.size) :
    let shared := world.shared
    let queues := shared.dispatcher.queues
    let counters := shared.dispatcher.counters
    shared.submitted .video + shared.submitted .audio =
        counters.videoDelivered.toNat + counters.audioDelivered.toNat +
          counters.droppedFrames.toNat + queues.video.size + queues.audio.size ∧
      shared.submitted .packets =
        counters.packetsDelivered.toNat + counters.droppedPackets.toNat +
          queues.packets.size ∧
      counters.videoDelivered.toNat = shared.returned .video ∧
      counters.audioDelivered.toNat = shared.returned .audio ∧
      counters.packetsDelivered.toNat = shared.returned .packets ∧
      counters.droppedFrames.toNat =
        shared.failed .video + shared.failed .audio ∧
      counters.droppedPackets.toNat = shared.failed .packets := by
  dsimp only
  obtain ⟨delivered, lost, submitted, returned, failed, counted⟩ :=
    reachable.conservation_with_hands
  have empty :=
    Thread.allHands_of_isOutsideCallbacks (List.all_eq_true.mp outside)
  rw [empty] at submitted returned failed
  have video := submitted .video
  have audio := submitted .audio
  have packets := submitted .packets
  simp only [Hands.empty, Nat.add_zero, Queues.get]
    at video audio packets returned failed
  have counter (field : Counters → UInt64) (number : Nat)
      (same : field world.shared.dispatcher.counters =
        field world.shared.dispatcher.counters.routed)
      (numbered : field (.ofNumbers delivered lost) = UInt64.ofNat number)
      (small : number < UInt64.size) :
      (field world.shared.dispatcher.counters).toNat = number := by
    rw [same, counted, numbered, UInt64.toNat_ofNat_of_lt' small]
  have videoDelivered :=
    counter (·.videoDelivered) (delivered .video) rfl rfl (by omega)
  have audioDelivered :=
    counter (·.audioDelivered) (delivered .audio) rfl rfl (by omega)
  have packetsDelivered :=
    counter (·.packetsDelivered) (delivered .packets) rfl rfl (by omega)
  have droppedFrames :=
    counter (·.droppedFrames) (lost .video + lost .audio) rfl rfl (by omega)
  have droppedPackets :=
    counter (·.droppedPackets) (lost .packets) rfl rfl (by omega)
  rw [videoDelivered, audioDelivered, packetsDelivered, droppedFrames,
    droppedPackets, returned, returned, returned, failed, failed, failed]
  refine ⟨?_, ?_, rfl, rfl, rfl, rfl, rfl⟩
  · omega
  · omega

/-- A frame without a stream, and a packet whose session panics both times: the
panic leaves the cycle, and both items are counted. -/
theorem Reachable.conservation_of_panics :
    let steps := List.replicate 20 (Occurrence.step 0 : Occurrence Unit)
    let opening : World Unit Unit Unit :=
      .new (.new ⟨1, "app"⟩ .standard (.alone none) ()) 1
    let world :=
      opening.follow .panicking
        ([.request 0
          (.submit (.frame .video (.new 1 "s") (.video 0 0 0 [] true)))] ++
            steps ++
          [.request 0 (.submit (.packet 0 [1]))] ++ steps ++
          [.request 0 .dispatchOnce] ++ steps)
    world.threads.all Thread.isOutsideCallbacks = true ∧
      world.ending? 0 = some (.panicked .other) ∧
      world.shared.submitted .video = 1 ∧ world.shared.submitted .packets = 1 ∧
      world.shared.dispatcher.counters.droppedFrames.toNat =
        world.shared.failed .video + world.shared.failed .audio ∧
      world.shared.dispatcher.counters.droppedPackets.toNat =
        world.shared.failed .packets ∧
      world.shared.failed .packets = 1 := by
  intro steps opening world
  have reachable : Reachable Client.panicking world :=
    Reachable.follow (.opening (.alone _ _ _ _)) (by decide +kernel)
  have outside : world.threads.all Thread.isOutsideCallbacks = true := by
    decide +kernel
  have conserved := reachable.conservation outside (by decide +kernel)
  exact ⟨outside, by decide +kernel, by decide +kernel, by decide +kernel,
    conserved.2.2.2.2.2.1, conserved.2.2.2.2.2.2, by decide +kernel⟩

end Switchboard
