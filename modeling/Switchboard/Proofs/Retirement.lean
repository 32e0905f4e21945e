import Switchboard.Proofs.Delivery
import Switchboard.Proofs.Ownership

/-!
# Nothing goes to a retired stream

The destination of a frame is looked up when the frame leaves its queue, and in
an orderly run nothing comes between the lookup and the callback.  A stream that
was stopped does not stand in the registry and never comes back.  So no later
frame is handed to it: a frame that finds nobody under its id is counted as
dropped, and one that finds another stream goes to that stream.
-/

namespace Switchboard

variable {σ κ ν : Type}

/-! ## Who is about to be handed a frame -/

/-- The stream that a callback hands a frame. -/
def Callback.receiver? : Callback → Option Stream
  | .sendFrame _ stream _ => some stream
  | _ => none

/-- The stream that a thread is about to hand a frame. -/
def Control.receiver? : Control → Option Stream
  | .run (.call callback) => callback.receiver?
  | _ => none

/-- Whether a stream stands in the registry. -/
def Shared.Registers (shared : Shared σ ν) (stream : Stream) : Prop :=
  ∃ id, shared.registry.find? id = some stream

theorem Callback.channel?_of_receiver? {callback : Callback} {stream : Stream}
    (receives : callback.receiver? = some stream) :
    callback.channel? ≠ none := by
  cases callback with
  | sendFrame kind receiver packet => exact Option.some_ne_none _
  | _ => cases receives

theorem Control.IsAside.receiver? {stack : List (Frame κ)} {control : Control}
    (aside : control.IsAside stack) : control.receiver? = none := by
  cases control with
  | run instruction =>
      cases instruction with
      | call callback =>
          cases receives : callback.receiver? with
          | none => exact receives
          | some stream =>
              exact absurd aside (Callback.channel?_of_receiver? receives)
      | _ => rfl
  | _ => rfl

theorem Thread.receiver?_of_isSuspended {thread : Thread κ}
    (suspended : thread.isSuspended = true) :
    thread.control.receiver? = none := by
  rcases thread with ⟨role, stack, control⟩
  cases control with
  | run instruction =>
      cases instruction <;> first | rfl | exact Bool.noConfusion suspended
  | _ => rfl

namespace Shared

/-- Client code that works on a callback is not about to hand over a frame. -/
theorem clientMove_receiver? (shared : Shared σ ν) (stack : List (Frame κ))
    (callback : Callback) (turn : ClientTurn σ κ ν) :
    (shared.clientMove stack (some callback) turn).control.receiver? =
      none := by
  refine shared.clientMove_cases stack callback turn
    (motive := fun moved => moved.control.receiver? = none) ?_ ?_ ?_
  · exact fun request next => rfl
  · exact fun reply => rfl
  · exact fun payload => rfl

/-- The destination of a frame stands in the registry. -/
theorem registers_of_destination {client : Client σ κ ν} {shared : Shared σ ν}
    {keeps : SessionHandle → Bool} {item : Item} {callback : Callback}
    {stream : Stream}
    (due : shared.destination client keeps item = some callback)
    (receives : callback.receiver? = some stream) :
    shared.Registers stream := by
  cases item with
  | frame kind descriptor packet =>
      rcases Option.map_eq_some_iff.mp due with ⟨found, stands, sends⟩
      rw [← sends] at receives
      cases receives
      exact ⟨descriptor.id, stands⟩
  | packet session data =>
      rcases Option.ite_none_right_eq_some.mp due with ⟨_, sends⟩
      cases sends
      cases receives

end Shared

/-- A move leaves a thread about to hand over a frame only if it has just found
the receiver in the registry. -/
theorem Handles.registers_receiver {client : Client σ κ ν} {shared : Shared σ ν}
    {around : Surroundings} {stack : List (Frame κ)} {control : Control}
    {turn : Turn σ κ ν}
    (handles : Handles client shared around stack control turn)
    {stream : Stream} (receives : turn.control.receiver? = some stream) :
    turn.shared.Registers stream := by
  cases handles with
  | aside before turns => cases turns.control.receiver?.symm.trans receives
  | routes stack entry cycle =>
      simp only [Shared.route] at receives ⊢
      split at receives
      · split at receives
        · rename_i kind descriptor packet _ _ current found
          cases receives
          exact ⟨descriptor.id, found⟩
        · cases receives
      · split at receives <;> cases receives
  | calls fits =>
      cases (Shared.clientMove_receiver? _ _ _ _).symm.trans receives
  | resumes state response before fits =>
      cases (Shared.clientMove_receiver? _ _ _ _).symm.trans receives
  | lost stack seq kind streamId cycle payload after =>
      cases after.receiver?.symm.trans receives
  | pushes | drains | sent | received | refused => cases receives

namespace OrderlyRun

variable {client : Client σ κ ν} {world : World σ κ ν} {routings : List Routing}

/-- In an orderly run, whoever is about to be handed a frame stands in the
registry: the thread that hands it over has just looked, and nobody has moved
since. -/
theorem registers_receiver (ordered : OrderlyRun client world routings) :
    ∀ thread ∈ world.threads, ∀ stream, thread.control.receiver? = some stream →
      world.shared.Registers stream := by
  induction ordered with
  | opening opening =>
      intro thread member stream receives
      cases opening with
      | application | alone =>
          rw [List.eq_of_mem_replicate member] at receives
          cases receives
  | @occur world routings occurrence ordered allowed orderly
      inductionHypothesis =>
      have becomes := World.after_becomes client allowed
      cases occurrence with
      | step self =>
          generalize world.after client (.step self) = next at becomes
          cases becomes with
          | same => exact inductionHypothesis
          | @moved _ moving found =>
              intro thread member stream receives
              rcases List.getElem?_of_mem member with ⟨other, stands⟩
              rcases World.afterTurn_cases stands with
                ⟨_, rfl⟩ | ⟨differs, old⟩ | ⟨_, _, rfl⟩
              · have handles :=
                  world.shared.move_handles client (world.surroundings self)
                    (ordered.reachable.fits moving (List.mem_of_getElem? found))
                exact handles.registers_receiver receives
              · have silent := Thread.receiver?_of_isSuspended
                  (World.isSuspended_of_othersSuspended orderly differs old)
                cases silent.symm.trans receives
              · cases receives
      | _ =>
          -- All threads are suspended, so none is about to hand anything over.
          have silent := becomes.forall_threads
            (fun thread member =>
              Thread.receiver?_of_isSuspended
                (List.all_eq_true.mp orderly thread member))
            (fun self thread steps => by cases steps) rfl
            (fun thread request free => rfl) (fun thread code free => rfl)
            (fun thread instruction waits which silent => rfl) rfl
          intro thread member stream receives
          cases (silent thread member).symm.trans receives

/-- So do all streams to which a frame is due. -/
theorem registers_pending (ordered : OrderlyRun client world routings)
    {callback : Callback} (due : callback ∈ world.pending client)
    {stream : Stream} (receives : callback.receiver? = some stream) :
    world.shared.Registers stream := by
  rcases List.mem_flatMap.mp due with ⟨thread, member, due⟩
  cases control : thread.control with
  | run instruction =>
      rw [control] at due
      cases instruction with
      | route entry cycle =>
          exact Shared.registers_of_destination
            (Option.mem_toList.mp due) receives
      | call called =>
          simp only [Control.pending] at due
          split at due
          · cases List.mem_singleton.mp due
            apply ordered.registers_receiver thread member
            rw [control]
            exact receives
          · cases due
      | _ => cases due
  | _ =>
      rw [control] at due
      cases due

end OrderlyRun

/-! ## Orderly runs, moment by moment -/

namespace World

variable {client : Client σ κ ν} {world : World σ κ ν}
  {run : List (Occurrence κ)}

theorem allowsAll_of_isOrderlyAll
    (orderly : world.isOrderlyAll client run = true) :
    world.allowsAll client run = true := by
  induction run generalizing world with
  | nil => rfl
  | cons occurrence rest inductionHypothesis =>
      rw [isOrderlyAll, Bool.and_eq_true, Bool.and_eq_true] at orderly
      rw [allowsAll, Bool.and_eq_true]
      exact ⟨orderly.1.1, inductionHypothesis orderly.2⟩

/-- Up to every moment the run was orderly, and so was what happened next. -/
theorem isOrderlyAll_take (orderly : world.isOrderlyAll client run = true)
    (moment : Nat) :
    world.isOrderlyAll client (run.take moment) = true ∧
      ∀ occurrence, run[moment]? = some occurrence →
        (world.upTo client run moment).isOrderly occurrence = true := by
  induction run generalizing world moment with
  | nil =>
      exact ⟨by rw [List.take_nil]; rfl, fun occurrence next => by cases next⟩
  | cons first rest inductionHypothesis =>
      rw [isOrderlyAll, Bool.and_eq_true, Bool.and_eq_true] at orderly
      cases moment with
      | zero =>
          refine ⟨rfl, fun occurrence next => ?_⟩
          cases next
          exact orderly.1.2
      | succ moment =>
          rcases inductionHypothesis orderly.2 moment with ⟨before, now⟩
          refine ⟨?_, now⟩
          rw [List.take_succ_cons, isOrderlyAll, Bool.and_eq_true,
            Bool.and_eq_true]
          exact ⟨orderly.1, before⟩

/-- Every routing of a run belongs to a moment of it. -/
theorem mem_allRoutings {routing : Routing}
    (passes : routing ∈ world.allRoutings client run) :
    ∃ moment occurrence, run[moment]? = some occurrence ∧
      routing ∈ (world.upTo client run moment).routings client occurrence := by
  induction run generalizing world with
  | nil => cases passes
  | cons first rest inductionHypothesis =>
      rcases List.mem_append.mp passes with now | later
      · exact ⟨0, first, rfl, now⟩
      · rcases inductionHypothesis later with ⟨moment, occurrence, next, passes⟩
        exact ⟨moment + 1, occurrence, next, passes⟩

/-- While a thread is in the middle of something, it is the one that moves. -/
theorem eq_step_of_isOrderly {occurrence : Occurrence κ} {self : ThreadId}
    {thread : Thread κ} (orderly : world.isOrderly occurrence = true)
    (found : world.threads[self]? = some thread)
    (busy : thread.isSuspended = false) :
    occurrence = .step self := by
  have all_suspended {goal : Prop}
      (all : world.threads.all Thread.isSuspended = true) :
      goal := by
    have suspended :=
      List.all_eq_true.mp all thread (List.mem_of_getElem? found)
    cases busy.symm.trans suspended
  cases occurrence with
  | step other =>
      by_cases same : self = other
      · rw [same]
      · cases busy.symm.trans
          (isSuspended_of_othersSuspended orderly same found)
  | _ => exact all_suspended orderly

/-- What was stopped up to a moment was stopped up to every later one. -/
theorem stoppings_upTo (allowed : world.allowsAll client run = true)
    {earlier later : Nat} (order : earlier ≤ later) :
    (world.upTo client run earlier).shared.stoppings ⊆
      (world.upTo client run later).shared.stoppings :=
  ((journal_upTo allowed order).sublist.filterMap _).subset

/-- What stands in the registry was not stopped. -/
theorem IsAccounted.handle_ne_of_stopped (accounted : world.IsAccounted)
    (fresh : world.shared.BuildsFresh) {current stopped : Stream}
    (stands : world.shared.Registers current)
    (retired : stopped ∈ world.shared.stoppings) :
    current.handle ≠ stopped.handle := by
  intro same
  rcases stands with ⟨id, found⟩
  rcases accounted.enters id current found with ⟨descriptor, built, rfl⟩
  have registered : world.IsAt descriptor current .registered :=
    accounted.isAt fresh built found
  have gone : world.IsAt descriptor current .stopped :=
    accounted.isAt fresh built ⟨stopped, retired, same.symm⟩
  cases registered.unique gone

end World

/-! ## From the queue to the stream -/

/-- A turn that has taken an entry from its queue and is about to route it:
nothing has been looked up, counted or handed over yet. -/
structure Turn.Takes (shared : Shared σ ν) (entry : Sequenced Item)
    (turn : Turn σ κ ν) :
    Prop where
  departs : turn.shared.departures = shared.departures ++ [entry]
  routes : ∃ cycle, turn.control = .run (.route entry cycle)
  registry : turn.shared.registry = shared.registry
  counters : turn.shared.dispatcher.counters = shared.dispatcher.counters
  deliveries : turn.shared.deliveries = shared.deliveries

/-- A move takes one entry from its queue or none. -/
theorem Handles.takes {client : Client σ κ ν} {shared : Shared σ ν}
    {around : Surroundings} {stack : List (Frame κ)} {control : Control}
    {turn : Turn σ κ ν}
    (handles : Handles client shared around stack control turn) :
    turn.shared.departures = shared.departures ∨
      ∃ entry, turn.Takes shared entry := by
  cases handles with
  | aside before turns => exact .inl turns.same.departures
  | @drains stack _ _ _ entry _ next popped =>
      have told := shared.told_record (.drained entry)
      rcases Option.map_eq_some_iff.mp popped with ⟨_, _, equal⟩
      cases equal
      exact .inr ⟨_, told.1, ⟨_, rfl⟩, rfl, rfl,
        told.2.trans (List.append_nil _)⟩
  | routes stack entry cycle =>
      exact .inl (shared.route_delivers client around.keeps stack entry cycle).1
  | @calls stack callback fits =>
      exact .inl
        ((shared.record (.called callback)).clientMove_delivers stack callback
        (client.begin callback shared.client) fun _ => none).1
  | resumes state response before fits =>
      exact .inl (shared.clientMove_delivers _ _ _ fun _ => none).1
  | pushes | sent | lost | received | refused => exact .inl rfl

namespace World

variable {client : Client σ κ ν} {world : World σ κ ν}

/-- An entry leaves its queue by the step of a thread that takes it. -/
theorem takes_of_mem_routings {occurrence : Occurrence κ}
    (fits : ∀ thread ∈ world.threads, thread.Fits)
    (allowed : world.allows occurrence = true) {routing : Routing}
    (passes : routing ∈ world.routings client occurrence) :
    routing.destination = world.destination client routing.entry.item ∧
      ∃ self thread, occurrence = .step self ∧
        world.threads[self]? = some thread ∧
        (world.shared.move client (world.surroundings self) thread.stack
          thread.control).Takes world.shared routing.entry := by
  rcases List.mem_map.mp passes with ⟨entry, left, rfl⟩
  refine ⟨rfl, ?_⟩
  have becomes := after_becomes client allowed
  generalize world.after client occurrence = next at left becomes
  have nothing_left {goal : Prop}
      (same : next.shared.departures = world.shared.departures) : goal := by
    rw [same, List.drop_length] at left
    cases left
  cases becomes with
  | same => exact nothing_left rfl
  | @moved self thread found =>
      have handles := world.shared.move_handles client (world.surroundings self)
        (fits thread (List.mem_of_getElem? found))
      rcases handles.takes with same | ⟨taken, takes⟩
      · exact nothing_left same
      · change entry ∈ List.drop _
          (world.shared.move client _ _ _).shared.departures at left
        rw [takes.departs, List.drop_left] at left
        cases List.mem_singleton.mp left
        exact ⟨self, thread, rfl, found, takes⟩
  | stopAbandoned found waits =>
      exact nothing_left (world.shared.updateApplication_sameItems _).departures
  | _ => exact nothing_left rfl

section

variable (client) {self : ThreadId} {thread : Thread κ} {entry : Sequenced Item}
  {cycle : Cycle} {kind : MediaKind} {descriptor : Descriptor}
  {packet : MediaPacket} {current : Stream}

/-- A frame that finds nobody under its id is counted as dropped. -/
theorem step_drops (found : world.threads[self]? = some thread)
    (routes : thread.control = .run (.route entry cycle))
    (carries : entry.item = .frame kind descriptor packet)
    (vacant : world.shared.registry.find? descriptor.id = none) :
    (world.step client self).shared.dispatcher.counters =
        world.shared.dispatcher.counters.frameDropped ∧
      (world.step client self).shared.deliveries = world.shared.deliveries := by
  rw [(step_self client found).1, routes]
  simp only [Shared.move, Shared.execute, Shared.route, carries, vacant]
  exact ⟨rfl, rfl⟩

/-- For a frame that finds a stream under its id, this stream is called next. -/
theorem step_finds (found : world.threads[self]? = some thread)
    (routes : thread.control = .run (.route entry cycle))
    (carries : entry.item = .frame kind descriptor packet)
    (stands : world.shared.registry.find? descriptor.id = some current) :
    (world.step client self).shared = world.shared ∧
      (world.step client self).threads[self]? =
        some ⟨thread.role,
          .sending entry.seq kind descriptor.id cycle :: thread.stack,
          .run (.call (.sendFrame kind current packet))⟩ := by
  have turns :
      world.shared.move client
        (world.surroundings self) thread.stack thread.control =
      .call world.shared thread.stack
        (.sending entry.seq kind descriptor.id cycle)
        (.sendFrame kind current packet) := by
    rw [routes]
    simp only [Shared.move, Shared.execute, Shared.route, carries, stands]
  rcases step_self client found with ⟨same, stepped⟩
  rw [turns] at same stepped
  exact ⟨same, stepped⟩

/-- A thread that is about to call a stream with a frame hands it over. -/
theorem step_hands (found : world.threads[self]? = some thread)
    (calls : thread.control = .run (.call (.sendFrame kind current packet))) :
    (world.step client self).shared.deliveries =
      world.shared.deliveries ++ [.sendFrame kind current packet] := by
  rw [(step_self client found).1, calls]
  have told :=
    world.shared.told_record (.called (.sendFrame kind current packet))
  -- What client code does with the frame hands nothing else over.
  have played := Shared.clientMove_delivers
    (world.shared.record (.called (.sendFrame kind current packet)))
      thread.stack
    (.sendFrame kind current packet)
    (client.begin (.sendFrame kind current packet) world.shared.client)
      fun _ => none
  exact played.2.1.trans told.2

end

end World

/-! ## Out of use for ever -/

namespace Shared

theorem deliveries_prefix {before after : Shared σ ν}
    (kept : before.journal <:+ after.journal) :
    before.deliveries <+: after.deliveries :=
  List.reverse_prefix.mpr (kept.filterMap _)

theorem submissions_prefix {before after : Shared σ ν}
    (kept : before.journal <:+ after.journal) (channel : Channel) :
    before.submissions channel <+: after.submissions channel :=
  (List.reverse_prefix.mpr (kept.filterMap _)).filter _

end Shared

/-- How a frame is settled that leaves its queue at a moment of a run, while a
stream is out of use.  Nobody stands under the id of the frame, and the next
step counts it as dropped; or another stream does, and the next two steps hand
the frame to it.  The steps may lie beyond the end of the run. -/
inductive World.Settles (client : Client σ κ ν) (world : World σ κ ν)
    (run : List (Occurrence κ)) (retired : Stream) (moment : Nat)
    (kind : MediaKind) (descriptor : Descriptor) (packet : MediaPacket) :
    Option Callback → Prop
  | dropped
      (vacant :
        (world.upTo client run moment).shared.registry.find? descriptor.id =
          none)
      (counts : moment + 1 < run.length →
        (world.upTo client run (moment + 2)).shared.dispatcher.counters =
            (world.upTo client run
              moment).shared.dispatcher.counters.frameDropped ∧
          (world.upTo client run (moment + 2)).shared.deliveries =
            (world.upTo client run moment).shared.deliveries) :
      Settles client world run retired moment kind descriptor packet none
  | handed {current : Stream}
      (stands :
        (world.upTo client run moment).shared.registry.find? descriptor.id =
        some current)
      (differs : current.handle ≠ retired.handle)
      (hands : moment + 2 < run.length →
        (world.upTo client run (moment + 3)).shared.deliveries =
          (world.upTo client run moment).shared.deliveries ++
            [.sendFrame kind current packet]) :
      Settles client world run retired moment kind descriptor packet
        (some (.sendFrame kind current packet))

namespace OrderlyRun

variable {client : Client σ κ ν} {world : World σ κ ν} {routings : List Routing}
  {run : List (Occurrence κ)}

/-- The thread that has taken a frame drops it or hands it over, whatever else
is to happen in an orderly run. -/
theorem settles (reachable : Reachable client world)
    (orderly : world.isOrderlyAll client run = true) {retired : Stream}
    {moment : Nat} {occurrence : Occurrence κ}
    (next : run[moment]? = some occurrence)
    (spared : ∀ stream, (world.upTo client run moment).shared.Registers stream →
      stream.handle ≠ retired.handle)
    {routing : Routing}
    (passes : routing ∈
      (world.upTo client run moment).routings client occurrence)
    {kind : MediaKind} {descriptor : Descriptor} {packet : MediaPacket}
    (carries : routing.entry.item = .frame kind descriptor packet) :
    world.Settles client run retired moment kind descriptor packet
      routing.destination := by
  have allowed := World.allowsAll_of_isOrderlyAll orderly
  rcases World.takes_of_mem_routings (reachable.upTo allowed moment).fits
    ((World.allowsAll_take allowed moment).2 occurrence next) passes with
    ⟨due, self, thread, rfl, found, takes⟩
  rcases takes.routes with ⟨cycle, routes⟩
  rcases World.steps_at next found with ⟨shared, stepped⟩
  rw [routes] at stepped
  -- The thread is busy until the frame is settled, so it makes the next steps.
  have goes_on {later : Nat} {busy : Thread κ} (inside : later < run.length)
      (works : (world.upTo client run later).threads[self]? = some busy)
      (unsuspended : busy.isSuspended = false) :
      world.upTo client run (later + 1) =
        (world.upTo client run later).step client self := by
    have follows : run[later]? = some run[later] :=
      List.getElem?_eq_getElem inside
    rw [World.upTo_succ follows, World.eq_step_of_isOrderly
      ((World.isOrderlyAll_take orderly later).2 _ follows) works unsuspended]
    rfl
  have registry := (congrArg Shared.registry shared).trans takes.registry
  have counters :=
    (congrArg (·.dispatcher.counters) shared).trans takes.counters
  have deliveries := (congrArg Shared.deliveries shared).trans takes.deliveries
  rw [due, carries]
  simp only [World.destination, Shared.destination]
  cases stands :
    (world.upTo client run moment).shared.registry.find? descriptor.id with
  | none =>
      refine .dropped stands fun inside => ?_
      have drops :=
        World.step_drops client stepped rfl carries (by rw [registry, stands])
      rw [← goes_on inside stepped rfl, counters, deliveries] at drops
      exact drops
  | some current =>
      refine .handed stands (spared current ⟨_, stands⟩) fun inside => ?_
      have before : moment + 1 < run.length := Nat.lt_of_succ_lt inside
      rcases World.step_finds client stepped rfl carries
        (by rw [registry, stands]) with
        ⟨same, calls⟩
      rw [← goes_on before stepped rfl] at same calls
      have hands := World.step_hands client calls rfl
      rw [← goes_on inside calls rfl, same, deliveries] at hands
      exact hands

/-- What is handed over in the course of an orderly run are the callbacks that
were due and the destinations of the entries that leave their queues, up to what
is still due.  Whoever gets a frame stands in the registry at some moment of the
run. -/
theorem hands_over (ordered : OrderlyRun client world routings)
    (orderly : world.isOrderlyAll client run = true) :
    let last := world.follow client run
    ∃ handed, last.shared.deliveries = world.shared.deliveries ++ handed ∧
      handed ++ last.pending client =
        world.pending client ++
          (world.allRoutings client run).filterMap Routing.destination ∧
      ∀ callback ∈ handed, ∀ stream, callback.receiver? = some stream →
        ∃ moment ≤ run.length,
          (world.upTo client run moment).shared.Registers stream := by
  intro last
  have allowed := World.allowsAll_of_isOrderlyAll orderly
  have final :
      OrderlyRun client last (routings ++ world.allRoutings client run) :=
    ordered.follow orderly
  rcases Shared.deliveries_prefix (World.follow_journal allowed) with
    ⟨handed, delivered⟩
  have before := ordered.delivers.2
  have after := final.delivers.2
  rw [List.filterMap_append, ← before, ← delivered, List.append_assoc,
    List.append_assoc, List.append_cancel_left_eq] at after
  refine ⟨handed, delivered.symm, after,
    fun callback member stream receives => ?_⟩
  have due := List.mem_append_left (last.pending client) member
  rw [after] at due
  rcases List.mem_append.mp due with waited | passes
  · exact ⟨0, Nat.zero_le _, ordered.registers_pending waited receives⟩
  · rcases List.mem_filterMap.mp passes with ⟨routing, passes, destined⟩
    rcases World.mem_allRoutings passes with ⟨moment, occurrence, next, passes⟩
    rcases List.mem_map.mp passes with ⟨entry, _, rfl⟩
    exact ⟨moment, Nat.le_of_lt (List.getElem?_eq_some_iff.mp next).1,
      Shared.registers_of_destination destined receives⟩

/-- On each channel the entries that were submitted are those that have left the
queue, followed by those that wait. -/
theorem submissions_eq (ordered : OrderlyRun client world routings)
    (channel : Channel) :
    world.shared.submissions channel =
      (routings.map Routing.entry).filter
      (fun entry => entry.item.channel = channel) ++
        world.shared.waiting channel := by
  rw [ordered.reachable.inOrder channel, ← ordered.delivers.1]
  rfl

/-- The entries that leave the queue of a channel in the course of an orderly
run are those that waited and those that have come since, up to those that wait
still. -/
theorem takes_in_order (ordered : OrderlyRun client world routings)
    (orderly : world.isOrderlyAll client run = true) (channel : Channel) :
    let last := world.follow client run
    ∃ arrivals,
      last.shared.submissions channel =
        world.shared.submissions channel ++ arrivals ∧
        world.shared.waiting channel ++ arrivals =
          ((world.allRoutings client run).map Routing.entry).filter
              (fun entry => entry.item.channel = channel) ++
            last.shared.waiting channel := by
  intro last
  have allowed := World.allowsAll_of_isOrderlyAll orderly
  have final :
      OrderlyRun client last (routings ++ world.allRoutings client run) :=
    ordered.follow orderly
  rcases Shared.submissions_prefix (World.follow_journal allowed) channel with
    ⟨arrivals, submitted⟩
  have before := ordered.submissions_eq channel
  have after := final.submissions_eq channel
  refine ⟨arrivals, submitted.symm, ?_⟩
  rw [← submitted, before, List.map_append, List.filter_append,
    List.append_assoc, List.append_assoc, List.append_cancel_left_eq] at after
  exact after

/-- Nothing goes to a retired stream.  Once a stream of an application was
stopped, and if callbacks build a new object every time, then however an orderly
run goes on:
* no later frame is handed to this object, and what is handed over are the
  destinations of the entries that leave their queues meanwhile, each once and
  in this order, up to those that were or are still due;
* on each channel these entries are those that waited and those that have come
  since, up to those that wait still;
* each frame among them finds nobody under its id and is counted as dropped, or
  finds another stream, which is registered at that moment and gets it. -/
theorem spares_retired (ordered : OrderlyRun client world routings)
    (orderly : world.isOrderlyAll client run = true)
    (hosted : (world.follow client run).shared.host.isAlone = false)
    (fresh : (world.follow client run).shared.BuildsFresh) {retired : Stream}
    (stopped : retired ∈ world.shared.stoppings) :
    let last := world.follow client run
    let passed := world.allRoutings client run
    (∃ handed, last.shared.deliveries = world.shared.deliveries ++ handed ∧
        handed ++ last.pending client =
          world.pending client ++ passed.filterMap Routing.destination ∧
        ∀ callback ∈ handed, ∀ stream, callback.receiver? = some stream →
          stream.handle ≠ retired.handle) ∧
      (∀ channel, ∃ arrivals,
        last.shared.submissions channel =
          world.shared.submissions channel ++ arrivals ∧
          world.shared.waiting channel ++ arrivals =
            (passed.map Routing.entry).filter
            (fun entry => entry.item.channel = channel) ++
              last.shared.waiting channel) ∧
      (∀ moment occurrence, run[moment]? = some occurrence →
        ∀ routing ∈ (world.upTo client run moment).routings client occurrence,
          ∀ kind descriptor packet,
            routing.entry.item = .frame kind descriptor packet →
            world.Settles client run retired moment kind descriptor packet
              routing.destination) := by
  intro last passed
  have reachable := ordered.reachable
  have allowed := World.allowsAll_of_isOrderlyAll orderly
  have spared (moment : Nat) (inside : moment ≤ run.length) (stream : Stream)
      (stands : (world.upTo client run moment).shared.Registers stream) :
      stream.handle ≠ retired.handle :=
    (reachable.isAccounted_upTo allowed hosted inside).2.handle_ne_of_stopped
      (World.buildsFresh_upTo allowed fresh inside) stands
      (World.stoppings_upTo allowed (Nat.zero_le moment) stopped)
  refine ⟨?_, ordered.takes_in_order orderly, ?_⟩
  · rcases ordered.hands_over orderly with ⟨handed, delivered, due, registers⟩
    refine ⟨handed, delivered, due, fun callback member stream receives => ?_⟩
    rcases registers callback member stream receives with
      ⟨moment, inside, stands⟩
    exact spared moment inside stream stands
  · intro moment occurrence next routing passes kind descriptor packet carries
    have inside := (List.getElem?_eq_some_iff.mp next).1
    exact settles reachable orderly next
      (spared moment (Nat.le_of_lt inside)) passes carries

end OrderlyRun

deriving instance DecidableEq for Routing

/-- A frame waits while its stream is deleted, and goes to the stream that was
created for the same id before the frame is taken; another one comes after that
stream was deleted too, and is dropped. -/
theorem OrderlyRun.spares_retired_of_recreation :
    let steps (thread : ThreadId) (number : Nat) :=
      List.replicate number (Occurrence.step thread : Occurrence Unit)
    let ask (number : Nat) (request : Request) : List (Occurrence Unit) :=
      .request 0 request :: steps 0 number
    let descriptor := Descriptor.new 7 "camera"
    let packet (byte : UInt8) : MediaPacket := .audio 1 0 [byte]
    let opening : World Nat Unit Unit :=
      .new (.new ⟨1, "app"⟩ .standard (.application .new) 0) 1
    let former :=
      ask 5 (.create descriptor) ++ ask 5
        (.submit (.frame .video descriptor (packet 1))) ++
        ask 6 (.delete descriptor)
    let world := opening.follow .numbering former
    let run :=
      steps 0 1 ++ ask 5 (.create descriptor) ++ ask 2 .start ++ steps 1 18 ++
        ask 7 (.delete descriptor) ++
        ask 5 (.submit (.frame .video descriptor (packet 2))) ++ steps 1 4
    let retired : Stream := ⟨0, "camera"⟩
    retired ∈ world.shared.stoppings ∧
      world.shared.waiting .video = [⟨0, .frame .video descriptor (packet 1)⟩] ∧
      world.Settles .numbering run retired 14 .video descriptor (packet 1)
        (some (.sendFrame .video ⟨1, "camera"⟩ (packet 1))) ∧
      world.Settles .numbering run retired 44 .video descriptor
        (packet 2) none ∧
      (world.follow .numbering run).shared.dispatcher.counters.droppedFrames =
        1 := by
  intro steps ask descriptor packet opening former world run retired
  have ordered :
      OrderlyRun .numbering world (opening.allRoutings .numbering former) :=
    OrderlyRun.of_opening (.application _ _ _ _) (by decide +kernel)
  have orderly : world.isOrderlyAll .numbering run = true := by decide +kernel
  have hosted : (world.follow .numbering run).shared.host.isAlone = false := by
    decide +kernel
  have fresh : (world.follow .numbering run).shared.BuildsFresh := by
    decide +kernel
  have stopped : retired ∈ world.shared.stoppings := by decide +kernel
  obtain ⟨_, _, settles⟩ := ordered.spares_retired orderly hosted fresh stopped
  have handed := settles 14 (.step 1) rfl
    ⟨⟨0, .frame .video descriptor (packet 1)⟩,
      some (.sendFrame .video ⟨1, "camera"⟩ (packet 1))⟩
        (by decide +kernel) _ _ _ rfl
  have dropped := settles 44 (.step 1) rfl
    ⟨⟨1, .frame .video descriptor (packet 2)⟩, none⟩
    (by decide +kernel) _ _ _ rfl
  exact ⟨stopped, by decide +kernel, handed, dropped, by decide +kernel⟩

end Switchboard
