import Switchboard.Proofs.Past

/-!
# Submissions on different channels

A submission touches the queue of its own channel and the timestamp of its own
kind of media, and it signals the wake event like every other submission.  Two
submissions on different channels can therefore change places, and the state of
the dispatcher depends only on the order within each channel.  Whatever follows
two interleavings of the same submissions cannot tell them apart.
-/

namespace Switchboard

variable {σ κ ν : Type}

/-! ## Interleavings -/

section Interleavings

variable {α β γ : Type}

/-- What can change places with all that comes before it may come first. -/
theorem foldl_to_front (next : β → α → β) (element : α)
    (before after : List α) (state : β) (commutes : ∀ other ∈ before, ∀ state,
      next (next state other) element = next (next state element) other) :
    (before ++ element :: after).foldl next state =
      (before ++ after).foldl next (next state element) := by
  induction before generalizing state with
  | nil => rfl
  | cons first rest inductionHypothesis =>
      have moved := inductionHypothesis (next state first)
        fun other member => commutes other (List.mem_cons_of_mem first member)
      simp only [List.cons_append, List.foldl_cons]
      rw [moved, commutes first List.mem_cons_self]

/-- Two interleavings of the same sequences, one for each key, lead to the same
state, provided that elements with different keys can change places. -/
theorem foldl_eq_of_filter_eq [DecidableEq γ] (next : β → α → β) (key : α → γ)
    (commutes : ∀ former latter, key former ≠ key latter → ∀ state,
      next (next state former) latter = next (next state latter) former)
    {former latter : List α}
    (same : ∀ line, (former.filter fun element => key element = line) =
      latter.filter fun element => key element = line) (state : β) :
    former.foldl next state = latter.foldl next state := by
  induction former generalizing latter state with
  | nil =>
      have empty : latter = [] := by
        apply List.eq_nil_iff_forall_not_mem.mpr
        intro element member
        have kept : element ∈ latter.filter fun other =>
            key other = key element :=
          List.mem_filter.mpr ⟨member, decide_eq_true rfl⟩
        rw [← same (key element)] at kept
        exact List.not_mem_nil kept
      rw [empty]
  | cons first rest inductionHypothesis =>
      have own : first :: rest.filter (fun element => key element = key first) =
          latter.filter fun element => key element = key first := by
        simpa using same (key first)
      obtain ⟨before, after, rfl, others, -, later⟩ :=
        List.filter_eq_cons_iff.mp own.symm
      have differ : ∀ other ∈ before, key other ≠ key first := by
        intro other member equal
        exact others other member (decide_eq_true equal)
      rw [List.foldl_cons, foldl_to_front next first before after state
        fun other member => commutes other first (differ other member)]
      apply inductionHypothesis
      intro line
      have kept := same line
      by_cases equal : key first = line
      · subst equal
        have none :
            (before.filter fun element => key element = key first) = [] :=
          List.filter_eq_nil_iff.mpr fun other member => others other member
        rw [List.filter_append, none, later, List.nil_append]
      · simpa [equal] using kept

end Interleavings

/-! ## Two submissions change places -/

theorem Queues.set_comm (queues : Queues) {channel other : Channel}
    (queue queue' : Queue Item) (differ : channel ≠ other) :
    (queues.set channel queue).set other queue' =
    (queues.set other queue').set channel queue := by
  cases channel <;> cases other <;> first | rfl | exact absurd rfl differ

theorem Counters.stamped_comm (counters : Counters) {kind other : MediaKind}
    (millis millis' : Int64) (differ : kind ≠ other) :
    (counters.stamped millis kind).stamped millis' other =
      (counters.stamped millis' other).stamped millis kind := by
  cases kind <;> cases other <;> first | rfl | exact absurd rfl differ

namespace Dispatcher

variable (dispatcher : Dispatcher) (first second : Item)

theorem stamp_push :
    (dispatcher.push first).stamp second =
    (dispatcher.stamp second).push first := by
  cases second with
  | frame kind descriptor packet =>
      simp only [stamp]
      cases descriptor.presentationMillis? packet <;> rfl
  | packet session data => rfl

theorem stamp_signal :
    dispatcher.signal.stamp second = (dispatcher.stamp second).signal := by
  cases second with
  | frame kind descriptor packet =>
      simp only [stamp]
      cases descriptor.presentationMillis? packet <;> rfl
  | packet session data => rfl

/-- Each channel has a timestamp of its own, or none. -/
theorem stamp_comm (differ : first.channel ≠ second.channel) :
    (dispatcher.stamp first).stamp second =
    (dispatcher.stamp second).stamp first := by
  cases first with
  | packet session data => rfl
  | frame kind descriptor packet =>
      cases second with
      | packet session data => rfl
      | frame kind' descriptor' packet' =>
          have kinds : kind ≠ kind' := fun equal => differ (equal ▸ rfl)
          simp only [stamp]
          cases descriptor.presentationMillis? packet with
          | none => rfl
          | some millis =>
              cases descriptor'.presentationMillis? packet' with
              | none => rfl
              | some millis' =>
                  have counters :=
                    dispatcher.counters.stamped_comm millis millis' kinds
                  simp only [counters]

/-- Each channel has a queue of its own. -/
theorem push_comm (differ : first.channel ≠ second.channel) :
    (dispatcher.push first).push second =
    (dispatcher.push second).push first := by
  simp only [push]
  rw [Queues.get_set_of_ne _ _ (Ne.symm differ),
    Queues.get_set_of_ne _ _ differ, Queues.set_comm _ _ _ differ]

/-- Of two submissions all the stamping may be done first, and the signalling
last. -/
theorem submit_submit :
    (dispatcher.submit first).submit second =
      ((((dispatcher.stamp first).stamp second).push first).push
        second).signal.signal := by
  simp only [submit]
  rw [stamp_signal, stamp_push]
  rfl

/-- Submissions on different channels can change places. -/
theorem submit_comm (differ : first.channel ≠ second.channel) :
    (dispatcher.submit first).submit second =
    (dispatcher.submit second).submit first := by
  rw [submit_submit, submit_submit, stamp_comm _ _ _ differ,
    push_comm _ _ _ differ]

/-- The state of the dispatcher depends only on the order within each
channel. -/
theorem foldl_submit_eq {former latter : List Item}
    (same : ∀ channel, (former.filter fun item => item.channel = channel) =
      latter.filter fun item => item.channel = channel) :
    former.foldl submit dispatcher = latter.foldl submit dispatcher :=
  foldl_eq_of_filter_eq submit Item.channel
    (fun former latter differ dispatcher => dispatcher.submit_comm former latter
      differ) same
    dispatcher

end Dispatcher

/-! ## Callers that submit -/

/-- A caller submits an item, from the request to the answer. -/
def submission (caller : ThreadId) (item : Item) : List (Occurrence κ) :=
  .request caller (.submit item) :: List.replicate 5 (.step caller)

/-- Items are submitted one after the other, each by some caller. -/
def submitting (submissions : List (ThreadId × Item)) : List (Occurrence κ) :=
  submissions.flatMap fun (caller, item) => submission caller item

namespace Shared

/-- The state, up to its past, in which an item was submitted.  Once everything
is closed, nothing is submitted any more. -/
def accept (shared : Shared σ ν) (item : Item) : Shared σ ν :=
  if shared.host = .closed then shared else shared.dispatch (·.submit item)

/-- How a submission is answered. -/
def acceptance (shared : Shared σ ν) : Answer :=
  if shared.host = .closed then .unavailable else .done

theorem accept_of_closed {shared : Shared σ ν} (closed : shared.host = .closed)
    (item : Item) :
    shared.accept item = shared :=
  if_pos closed

theorem accept_of_open {shared : Shared σ ν} (opened : shared.host ≠ .closed)
    (item : Item) :
    shared.accept item = shared.dispatch (·.submit item) :=
  if_neg opened

theorem accept_host (shared : Shared σ ν) (item : Item) :
    (shared.accept item).host = shared.host := by
  simp only [accept]
  split <;> rfl

theorem accept_acceptance (shared : Shared σ ν) (item : Item) :
    (shared.accept item).acceptance = shared.acceptance := by
  simp only [acceptance, accept_host]

theorem accept_comm (shared : Shared σ ν) {first second : Item}
    (differ : first.channel ≠ second.channel) :
    (shared.accept first).accept second =
    (shared.accept second).accept first := by
  by_cases closed : shared.host = .closed
  · rw [accept_of_closed closed, accept_of_closed closed,
      accept_of_closed closed]
  · have opened (item : Item) : (shared.accept item).host ≠ .closed := by
      rw [accept_host]
      exact closed
    rw [accept_of_open (opened first), accept_of_open (opened second),
      accept_of_open closed, accept_of_open closed]
    simp only [dispatch]
    rw [Dispatcher.submit_comm _ _ _ differ]

end Shared

namespace World

/-- A world, up to its past, in which a caller has submitted an item and was
answered. -/
def accepted (world : World σ κ ν) (submission : ThreadId × Item) :
    World σ κ ν :=
  World.put { world with shared := world.shared.accept submission.2 }
    submission.1
    { role := .caller
      stack := []
      control := .answer world.shared.acceptance }

/-- A caller that is free stays so. -/
theorem accepted_free {world : World σ κ ν} {caller : ThreadId}
    (free : (world.threads[caller]?).any Thread.isFree = true)
    (submission : ThreadId × Item) :
    ((world.accepted submission).threads[caller]?).any Thread.isFree =
      true := by
  simp only [accepted, put]
  rw [List.getElem?_set]
  split
  · rename_i same
    subst same
    split
    · rfl
    · rename_i outside
      rw [List.getElem?_eq_none (Nat.not_lt.mp outside)] at free
      exact free
  · exact free

/-- Callers that submit on different channels can change places. -/
theorem accepted_comm (former latter : ThreadId × Item)
    (differ : former.2.channel ≠ latter.2.channel) (world : World σ κ ν) :
    (world.accepted former).accepted latter =
    (world.accepted latter).accepted former := by
  simp only [accepted, put, Shared.accept_acceptance,
    world.shared.accept_comm differ]
  by_cases same : former.1 = latter.1
  · rw [same]
  · rw [List.set_comm _ _ same]

/-! ## The steps of a submission -/

/-- A world in which a caller has nothing on its stack. -/
private def placed (threads : List (Thread κ)) (caller : ThreadId)
    (shared : Shared σ ν) (control : Control) : World σ κ ν :=
  World.put ⟨shared, threads⟩ caller ⟨.caller, [], control⟩

private theorem step_placed {client : Client σ κ ν} {threads : List (Thread κ)}
    {caller : ThreadId} (inside : caller < threads.length)
    {shared shared' : Shared σ ν} {control control' : Control}
    (moved : ∀ around,
      shared.move client around [] control = .pass shared' [] control') :
    (placed threads caller shared control).step client caller =
      placed threads caller shared' control' := by
  have found : (placed threads caller shared control).threads[caller]? =
      some ⟨.caller, [], control⟩ :=
    List.getElem?_set_self inside
  rw [step_of_some found]
  change afterTurn _ caller .caller (shared.move client _ [] control) = _
  rw [moved]
  simp [afterTurn, Turn.pass, put, placed]

/-- Once everything is closed a submission is refused at once. -/
private theorem steps_of_closed (client : Client σ κ ν)
    {threads : List (Thread κ)} {caller : ThreadId}
    (inside : caller < threads.length) {shared : Shared σ ν}
    (closed : shared.host = .closed) (item : Item) :
    (placed threads caller shared (.run (.perform (.submit item)))).follow
      client
        (List.replicate 5 (.step caller)) =
      placed threads caller shared (.answer .unavailable) := by
  have refused :
      (placed threads caller shared (.run (.perform (.submit item)))).step
        client
      caller = placed threads caller shared (.answer .unavailable) :=
    step_placed inside fun around => by
      simp only [Shared.move, Shared.execute, Shared.perform, closed]
      rfl
  have rests :
      (placed threads caller shared (.answer .unavailable)).step client caller =
      placed threads caller shared (.answer .unavailable) :=
    step_placed inside fun around => rfl
  simp only [follow, List.replicate, List.foldl_cons, List.foldl_nil, after,
    refused, rests]

/-- A submission stamps, pushes and signals. -/
private theorem steps_of_open (client : Client σ κ ν)
    {threads : List (Thread κ)} {caller : ThreadId}
    (inside : caller < threads.length) {shared : Shared σ ν}
    (opened : shared.host ≠ .closed) (item : Item) :
    let stamped := shared.dispatch (·.stamp item)
    let entry := stamped.dispatcher.nextEntry item
    let pushed := (stamped.dispatch (·.push item)).record (.submitted entry)
    (placed threads caller shared (.run (.perform (.submit item)))).follow
      client
        (List.replicate 5 (.step caller)) =
      placed threads caller (pushed.dispatch .signal) (.answer .done) := by
  intro stamped entry pushed
  have performs :
      (placed threads caller shared (.run (.perform (.submit item)))).step
        client
      caller = placed threads caller shared (.run (.stamp item)) :=
    step_placed inside fun around => by
      cases hosted : shared.host with
      | closed => exact absurd hosted opened
      | _ =>
          simp only [Shared.move, Shared.execute, Shared.perform, hosted]
          rfl
  have stamps :
      (placed threads caller shared (.run (.stamp item))).step client caller =
      placed threads caller stamped (.run (.push item)) :=
    step_placed inside fun around => rfl
  have pushes :
      (placed threads caller stamped (.run (.push item))).step client caller =
      placed threads caller pushed
        (.run (.signal (some entry) (.answer .done))) :=
    step_placed inside fun around => rfl
  have signals : (placed threads caller pushed
      (.run (.signal (some entry) (.answer .done)))).step client caller =
      placed threads caller (pushed.dispatch .signal) (.run (.answer .done)) :=
    step_placed inside fun around => rfl
  have answers :
      (placed threads caller (pushed.dispatch .signal)
        (.run (.answer .done))).step
      client caller = placed threads caller (pushed.dispatch .signal)
        (.answer .done) :=
    step_placed inside fun around => rfl
  simp only [follow, List.replicate, List.foldl_cons, List.foldl_nil, after,
    performs, stamps, pushes, signals, answers]

/-- What a whole submission of a free caller does. -/
theorem follow_submission (client : Client σ κ ν) {world : World σ κ ν}
    {caller : ThreadId}
    (free : (world.threads[caller]?).any Thread.isFree = true) (item : Item) :
    world.allowsAll client (submission caller item) = true ∧
      (world.follow client (submission caller item)).now =
        (world.accepted (caller, item)).now := by
  constructor
  · exact Bool.and_eq_true_iff.mpr ⟨free, rfl⟩
  · obtain ⟨⟨role, stack, control⟩, found, resting⟩ :=
      (Option.any_eq_true _ _).mp free
    have inside := (List.getElem?_eq_some_iff.mp found).1
    obtain rfl : stack = [] := Thread.stack_of_isFree resting
    obtain rfl : role = .caller := by
      rw [Thread.isFree, Bool.and_eq_true] at resting
      exact of_decide_eq_true resting.1
    have asked : world.request caller (.submit item) =
        placed world.threads caller world.shared
          (.run (.perform (.submit item))) :=
      setThread_of_some _ found
    change ((world.request caller (.submit item)).follow client
      (List.replicate 5 _)).now = _
    rw [asked]
    by_cases closed : world.shared.host = .closed
    · rw [steps_of_closed client inside closed item]
      simp only [accepted, Shared.accept, Shared.acceptance,
        if_pos closed, placed]
    · rw [steps_of_open client inside closed item]
      simp only [accepted, Shared.accept, Shared.acceptance,
        if_neg closed, placed]
      rfl

/-- Callers that are free submit one item after the other. -/
theorem follow_submitting (client : Client σ κ ν) {world : World σ κ ν}
    {submissions : List (ThreadId × Item)}
    (free : ∀ submission ∈ submissions,
      (world.threads[submission.1]?).any Thread.isFree = true) :
    world.allowsAll client (submitting submissions) = true ∧
      (world.follow client (submitting submissions)).now =
        (submissions.foldl accepted world).now := by
  induction submissions generalizing world with
  | nil => exact ⟨rfl, rfl⟩
  | cons first rest inductionHypothesis =>
      rcases follow_submission client
        (free first List.mem_cons_self) first.2 with
        ⟨allowed, submitted⟩
      have stillFree : ∀ submission ∈ rest,
          ((world.accepted first).threads[submission.1]?).any Thread.isFree =
            true :=
        fun submission member =>
          accepted_free
            (free submission (List.mem_cons_of_mem first member)) first
      rcases inductionHypothesis stillFree with ⟨laterAllowed, later⟩
      rcases follow_of_same_now submitted client (submitting rest) with
        ⟨sameAllowed, same, -⟩
      have parts : submitting (first :: rest) =
          submission (κ := κ) first.1 first.2 ++ submitting rest :=
            List.flatMap_cons
      rw [parts, allowsAll_append, follow_append, allowed, sameAllowed,
        laterAllowed, same, later]
      exact ⟨rfl, rfl⟩

theorem foldl_accepted_dispatcher {world : World σ κ ν}
    (opened : world.shared.host ≠ .closed)
    (submissions : List (ThreadId × Item)) :
    (submissions.foldl accepted world).shared.dispatcher =
      (submissions.map Prod.snd).foldl Dispatcher.submit
        world.shared.dispatcher := by
  induction submissions generalizing world with
  | nil => rfl
  | cons first rest inductionHypothesis =>
      have still : (world.accepted first).shared.host ≠ .closed := by
        change (world.shared.accept first.2).host ≠ .closed
        rw [Shared.accept_host]
        exact opened
      have dispatched : (world.accepted first).shared.dispatcher =
          world.shared.dispatcher.submit first.2 := by
        change (world.shared.accept first.2).dispatcher = _
        rw [Shared.accept_of_open opened]
        rfl
      rw [List.foldl_cons, inductionHypothesis still, dispatched, List.map_cons,
        List.foldl_cons]

/-- Only the order within a channel matters.  Whatever the state of the
dispatcher, two interleavings of the same submissions lead to the same state of
it.  Where free callers make them, the world is the same afterwards but for the
past; so it is after whatever follows, the same things have happened since, and
the same is allowed. -/
theorem interleavings_agree {client : Client σ κ ν} {world : World σ κ ν}
    {former latter : List (ThreadId × Item)}
    (same : ∀ channel,
      (former.filter fun submission => submission.2.channel = channel) =
      latter.filter fun submission => submission.2.channel = channel)
    (free : ∀ submission ∈ former,
      (world.threads[submission.1]?).any Thread.isFree = true) :
    (∀ dispatcher : Dispatcher,
      (former.map Prod.snd).foldl Dispatcher.submit dispatcher =
        (latter.map Prod.snd).foldl Dispatcher.submit dispatcher) ∧
      world.allowsAll client (submitting former) = true ∧
      world.allowsAll client (submitting latter) = true ∧
      let one := world.follow client (submitting former)
      let other := world.follow client (submitting latter)
      (world.shared.host ≠ .closed →
        one.shared.dispatcher =
          (former.map Prod.snd).foldl Dispatcher.submit
            world.shared.dispatcher) ∧
        one.now = other.now ∧
        ∀ continuation : List (Occurrence κ),
          one.allowsAll client continuation =
            other.allowsAll client continuation ∧
            (one.follow client continuation).now =
            (other.follow client continuation).now ∧
            ∃ happenings,
              (one.follow client continuation).shared.journal =
                  happenings ++ one.shared.journal ∧
                (other.follow client continuation).shared.journal =
                  happenings ++ other.shared.journal := by
  have free' : ∀ submission ∈ latter,
      (world.threads[submission.1]?).any Thread.isFree = true := by
    intro submission member
    have kept : submission ∈ latter.filter fun other =>
        other.2.channel = submission.2.channel :=
      List.mem_filter.mpr ⟨member, decide_eq_true rfl⟩
    rw [← same submission.2.channel] at kept
    exact free submission (List.mem_filter.mp kept).1
  rcases follow_submitting client free with ⟨allowed, followed⟩
  rcases follow_submitting client free' with ⟨allowed', followed'⟩
  have folded : former.foldl accepted world = latter.foldl accepted world :=
    foldl_eq_of_filter_eq accepted (fun submission => submission.2.channel)
      (fun first second differ world => accepted_comm first second differ world)
        same world
  have agree : (world.follow client (submitting former)).now =
      (world.follow client (submitting latter)).now := by
    rw [followed, followed', folded]
  refine ⟨fun dispatcher => ?_, allowed, allowed', fun opened => ?_, agree,
    fun continuation =>
    follow_of_same_now agree client continuation⟩
  · apply dispatcher.foldl_submit_eq
    intro channel
    have lines := congrArg (List.map Prod.snd) (same channel)
    rw [List.filter_map, List.filter_map]
    exact lines
  · have dispatched := congrArg (fun world => world.shared.dispatcher) followed
    exact dispatched.trans (foldl_accepted_dispatcher opened former)

/-- Two callers of a running application submit a video frame with a known
track, raw data and an audio frame, in opposite orders. -/
theorem interleavings_agree_of_opposite :
    let descriptor := (Descriptor.new 7 "camera").addTrack (.video 1)
    let video : ThreadId × Item :=
      (0, .frame .video descriptor (.video 1 90 90 [] true))
    let audio : ThreadId × Item := (1, .frame .audio descriptor (.audio 2 0 []))
    let packet : ThreadId × Item := (0, .packet 3 [5])
    let world : World Unit Unit Unit :=
      .new (.new ⟨1, "app"⟩ .standard (.application .new) ()) 2
    (world.follow Client.accepting (submitting [video, packet, audio])).now =
      (world.follow Client.accepting
        (submitting [audio, packet, video])).now := by
  intro descriptor video audio packet world
  have same : ∀ channel : Channel,
      ([video, packet, audio].filter
        fun submission => submission.2.channel = channel) =
        [audio, packet, video].filter fun submission =>
          submission.2.channel = channel := by
    intro channel
    cases channel <;> rfl
  have free : ∀ submission ∈ [video, packet, audio],
      (world.threads[submission.1]?).any Thread.isFree = true := by
    intro submission member
    simp only [List.mem_cons, List.not_mem_nil, or_false] at member
    rcases member with rfl | rfl | rfl <;> rfl
  exact (interleavings_agree same free).2.2.2.2.1

end World

end Switchboard
