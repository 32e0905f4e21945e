import Switchboard.Proofs.Order

/-!
# Every item goes where it belongs

The destination of an item is settled when it leaves its queue: the stream that
the registry has under the descriptor's id at that moment, the session if
somebody still keeps it, or nobody.  In an orderly run the callbacks with items
are those destinations, one after the other, and nothing else.  The next
callback may still be due while a thread is in the middle of a cycle.
-/

namespace Switchboard

variable {σ κ ν : Type}

/-- The callback with an item that a happening begins. -/
def Happening.handed? : Happening ν → Option Callback
  | .called callback => if callback.channel?.isSome then some callback else none
  | _ => none

/-- An entry that has left its queue, and the callback that is due for it: none
if there is nobody to take the item. -/
structure Routing where
  entry : Sequenced Item
  destination : Option Callback

namespace Shared

/-- All entries that have left the queues so far, oldest first. -/
def departures (shared : Shared σ ν) : List (Sequenced Item) :=
  (shared.journal.filterMap Happening.drained?).reverse

/-- The callbacks with items that have begun so far, oldest first. -/
def deliveries (shared : Shared σ ν) : List Callback :=
  (shared.journal.filterMap Happening.handed?).reverse

/-- The callback that is due for an item if it is routed now.  A frame goes out
as the kind of media it was submitted as, to the stream under its descriptor's
id; a packet goes to its session if somebody keeps it. -/
def destination (client : Client σ κ ν) (shared : Shared σ ν)
    (keeps : SessionHandle → Bool) : Item → Option Callback
  | .frame kind descriptor packet =>
      (shared.registry.find? descriptor.id).map fun stream =>
        .sendFrame kind stream packet
  | .packet session data =>
      if client.holds shared.client session || keeps session then
        some (.receivePacket session data)
      else
        none

theorem channel?_of_destination {client : Client σ κ ν} {shared : Shared σ ν}
    {keeps : SessionHandle → Bool} {item : Item} {callback : Callback}
    (due : shared.destination client keeps item = some callback) :
    callback.channel? = some item.channel := by
  cases item with
  | frame kind descriptor packet =>
      rcases Option.map_eq_some_iff.mp due with ⟨stream, _, sends⟩
      rw [← sends]
      rfl
  | packet session data =>
      rcases Option.ite_none_right_eq_some.mp due with ⟨_, receives⟩
      cases receives
      rfl

end Shared

/-- The callbacks with items that are still due once a thread has got to a
control. -/
def Control.pending (destination : Item → Option Callback) : Control →
    List Callback
  | .run (.route entry _) => (destination entry.item).toList
  | .run (.call callback) => if callback.channel?.isSome then [callback] else []
  | _ => []

namespace World

/-- The callback that is due for an item if it leaves its queue now.  A session
is kept by its owners, and by the routing to it that is in progress. -/
def destination (client : Client σ κ ν) (world : World σ κ ν) : Item →
    Option Callback :=
  world.shared.destination client fun session =>
    world.threads.any (·.keeps session)

/-- The callbacks with items that are due on some thread. -/
def pending (client : Client σ κ ν) (world : World σ κ ν) : List Callback :=
  world.threads.flatMap fun thread =>
    thread.control.pending (world.destination client)

/-- The entries that leave their queues in an occurrence, each with the callback
that is due for it at that moment. -/
def routings (client : Client σ κ ν) (world : World σ κ ν)
    (occurrence : Occurrence κ) :
    List Routing :=
  ((world.after client occurrence).shared.departures.drop
    world.shared.departures.length).map fun entry =>
      { entry := entry
        destination := world.destination client entry.item }

end World

/-- The worlds to which orderly runs lead, with the entries that have left their
queues on the way, oldest first. -/
inductive OrderlyRun (client : Client σ κ ν) : World σ κ ν → List Routing → Prop
  | opening {world : World σ κ ν} : world.IsOpening → OrderlyRun client world []
  | occur {world : World σ κ ν} {routings : List Routing}
      (occurrence : Occurrence κ) :
      OrderlyRun client world routings → world.allows occurrence = true →
      world.isOrderly occurrence = true →
      OrderlyRun client (world.after client occurrence)
        (routings ++ world.routings client occurrence)

theorem OrderlyRun.reachable {client : Client σ κ ν} {world : World σ κ ν}
    {routings : List Routing} (run : OrderlyRun client world routings) :
    Reachable client world := by
  induction run with
  | opening opening => exact .opening opening
  | occur occurrence _ allowed _ inductionHypothesis =>
      exact inductionHypothesis.occur occurrence allowed

theorem Thread.pending_of_isSuspended {thread : Thread κ}
    (suspended : thread.isSuspended = true)
    (destination : Item → Option Callback) :
    thread.control.pending destination = [] := by
  rcases thread with ⟨role, stack, control⟩
  cases control with
  | run instruction =>
      cases instruction <;> first | rfl | exact Bool.noConfusion suspended
  | _ => rfl

theorem Control.IsAside.pending {stack : List (Frame κ)} {control : Control}
    (aside : control.IsAside stack) (destination : Item → Option Callback) :
    control.pending destination = [] := by
  cases control with
  | run instruction =>
      cases instruction with
      | route entry cycle => exact aside.elim
      | call callback =>
          have about : callback.channel? = none := aside
          simp only [Control.pending, about, Option.isSome_none,
            Bool.false_eq_true, ↓reduceIte]
      | _ => rfl
  | _ => rfl

theorem Happening.concernsItem_of_handed? (happening : Happening ν)
    (told : happening.handed? ≠ none) : happening.concernsItem = true := by
  cases happening with
  | called callback =>
      by_contra silent
      exact told (if_neg silent)
  | _ => exact absurd rfl told

namespace Shared

theorem SameItems.departures {before after : Shared σ ν}
    (same : before.SameItems after) :
    after.departures = before.departures := by
  simp only [Shared.departures]
  rw [same.told Happening.concernsItem_of_drained?]

theorem SameItems.deliveries {before after : Shared σ ν}
    (same : before.SameItems after) :
    after.deliveries = before.deliveries := by
  simp only [Shared.deliveries]
  rw [same.told Happening.concernsItem_of_handed?]

/-- What a happening tells about departures and deliveries. -/
theorem told_record (shared : Shared σ ν) (happening : Happening ν) :
    (shared.record happening).departures =
      shared.departures ++ happening.drained?.toList ∧
      (shared.record happening).deliveries =
        shared.deliveries ++ happening.handed?.toList := by
  simp only [departures, deliveries, record]
  constructor
  · cases told : happening.drained? <;> simp [told]
  · cases told : happening.handed? <;> simp [told]

/-- Client code that works on a callback hands nothing over. -/
theorem clientMove_delivers (shared : Shared σ ν) (stack : List (Frame κ))
    (callback : Callback) (turn : ClientTurn σ κ ν)
    (destination : Item → Option Callback) :
    let moved := shared.clientMove stack (some callback) turn
    moved.shared.departures = shared.departures ∧
      moved.shared.deliveries = shared.deliveries ∧
        moved.control.pending destination = [] := by
  have noted := shared.noting_sameItems turn
  refine shared.clientMove_cases stack callback turn
    (motive := fun moved => moved.shared.departures = shared.departures ∧
      moved.shared.deliveries = shared.deliveries ∧
        moved.control.pending destination = []) ?_ ?_ ?_
  · intro request next
    exact ⟨noted.departures, noted.deliveries, rfl⟩
  · intro reply
    exact ⟨noted.departures, noted.deliveries, rfl⟩
  · intro payload
    exact ⟨noted.departures, noted.deliveries, rfl⟩

/-- Routing an item makes its callback due. -/
theorem route_delivers (client : Client σ κ ν) (shared : Shared σ ν)
    (keeps : SessionHandle → Bool) (stack : List (Frame κ))
    (entry : Sequenced Item) (cycle : Cycle) :
    let destination := shared.destination client keeps
    let routed :=
      shared.route
        (fun session => client.holds shared.client session || keeps session)
          stack
        entry cycle
    routed.shared.departures = shared.departures ∧
      routed.shared.deliveries = shared.deliveries ∧
        routed.control.pending destination =
          (destination entry.item).toList := by
  intro destination
  simp only [Shared.route]
  cases entry.item with
  | frame kind descriptor packet =>
      dsimp only
      cases found : shared.registry.find? descriptor.id with
      | some stream =>
          have sends : destination (.frame kind descriptor packet) =
              some (.sendFrame kind stream packet) := by
            simp only [destination, Shared.destination, found, Option.map_some]
          rw [sends]
          exact ⟨rfl, rfl, rfl⟩
      | none =>
          have misses : destination (.frame kind descriptor packet) = none := by
            simp only [destination, Shared.destination, found, Option.map_none]
          rw [misses]
          exact ⟨rfl, rfl, rfl⟩
  | packet session data =>
      dsimp only
      split
      · rename_i alive
        have receives : destination (.packet session data) =
            some (.receivePacket session data) := if_pos alive
        rw [receives]
        exact ⟨rfl, rfl, rfl⟩
      · rename_i gone
        have misses : destination (.packet session data) = none := if_neg gone
        rw [misses]
        exact ⟨rfl, rfl, rfl⟩

end Shared

/-- What one move hands over.  With the callbacks that were due before it, the
entries that leave their queues lead to what is handed over and to what is due
after it. -/
theorem Handles.delivers {client : Client σ κ ν} {shared : Shared σ ν}
    {around : Surroundings} {stack : List (Frame κ)} {control : Control}
    {turn : Turn σ κ ν}
    (handles : Handles client shared around stack control turn) :
    let destination := shared.destination client around.keeps
    ∃ left : List (Sequenced Item),
      turn.shared.departures = shared.departures ++ left ∧
        turn.shared.deliveries ++ turn.control.pending destination =
          shared.deliveries ++ control.pending destination ++
            left.filterMap fun entry => destination entry.item := by
  intro destination
  have still {moved : Turn σ κ ν}
      (departed : moved.shared.departures = shared.departures)
      (handed : moved.shared.deliveries = shared.deliveries)
      (before : control.pending destination = [])
      (after : moved.control.pending destination = []) :
      ∃ left : List (Sequenced Item),
        moved.shared.departures = shared.departures ++ left ∧
          moved.shared.deliveries ++ moved.control.pending destination =
            shared.deliveries ++ control.pending destination ++
              left.filterMap fun entry => destination entry.item := by
    refine ⟨[], ?_, ?_⟩
    · rw [departed, List.append_nil]
    · rw [handed, before, after, List.filterMap_nil, List.append_nil,
        List.append_nil]
  cases handles with
  | aside before turns =>
      exact still turns.same.departures turns.same.deliveries (before.pending _)
        (turns.control.pending _)
  | pushes stack item => exact still rfl rfl rfl rfl
  | @drains stack cycle channel remaining entry dispatcher next popped =>
      refine ⟨[entry], (shared.told_record (.drained entry)).1, ?_⟩
      change shared.deliveries ++ (destination entry.item).toList =
        shared.deliveries ++ [] ++ [entry].filterMap fun entry =>
          destination entry.item
      rw [List.append_nil]
      cases due : destination entry.item <;> simp [due]
  | routes stack entry cycle =>
      obtain ⟨departed, handed, pending⟩ :=
        shared.route_delivers client around.keeps stack entry cycle
      refine ⟨[], departed.trans (List.append_nil _).symm, ?_⟩
      rw [handed, pending, List.filterMap_nil, List.append_nil]
      rfl
  | @calls stack callback fits =>
      obtain ⟨departed, handed, pending⟩ :=
        (shared.record (.called callback)).clientMove_delivers stack callback
          (client.begin callback shared.client) destination
      refine ⟨[], departed.trans (List.append_nil _).symm, ?_⟩
      rw [handed, pending, (shared.told_record (.called callback)).2,
        List.filterMap_nil, List.append_nil, List.append_nil]
      simp only [Happening.handed?, Control.pending]
      split <;> rfl
  | resumes state response before fits =>
      rcases shared.clientMove_delivers _ _ _ destination with
        ⟨departed, handed, pending⟩
      exact still departed handed (before.pending _) pending
  | sent => exact still rfl rfl rfl rfl
  | lost _ _ _ _ _ _ after => exact still rfl rfl rfl (after.pending _)
  | received => exact still rfl rfl rfl rfl
  | refused => exact still rfl rfl rfl rfl

/-- A thread that is left about to route an item has just taken it from its
queue, and has changed nothing that the destination of an item depends on. -/
theorem Handles.destination_eq {client : Client σ κ ν} {shared : Shared σ ν}
    {around : Surroundings} {stack : List (Frame κ)} {control : Control}
    {turn : Turn σ κ ν}
    (handles : Handles client shared around stack control turn)
    {entry : Sequenced Item} {cycle : Cycle}
    (routes : turn.control = .run (.route entry cycle)) :
    turn.stack = stack ∧ turn.spawned = false ∧
      ∀ keeps, turn.shared.destination client keeps =
        shared.destination client keeps := by
  have played (before : Shared σ ν) (stack : List (Frame κ))
      (callback : Callback) (turn : ClientTurn σ κ ν) :
      (before.clientMove stack (some callback) turn).control ≠
        .run (.route entry cycle) := by
    refine before.clientMove_cases stack callback turn
      (motive :=
        fun moved => moved.control ≠ .run (.route entry cycle)) ?_ ?_ ?_
    · exact fun request next same =>
        Instruction.noConfusion (Control.run.inj same)
    · exact fun reply same => Control.noConfusion same
    · exact fun payload same => Control.noConfusion same
  cases handles with
  | aside before turns =>
      have aside := turns.control
      rw [routes] at aside
      exact aside.elim
  | pushes stack item => cases routes
  | drains stack next popped =>
      refine ⟨rfl, rfl, fun keeps => funext fun item => ?_⟩
      cases item <;> rfl
  | routes stack other cycle =>
      simp only [Shared.route] at routes
      split at routes
      · split at routes <;> cases routes
      · split at routes <;> cases routes
  | calls fits => exact absurd routes (played _ _ _ _)
  | resumes state response before fits => exact absurd routes (played _ _ _ _)
  | sent => cases routes
  | lost => cases Cycle.run_of_afterLoss routes
  | received => cases routes
  | refused => cases routes

namespace World

theorem isSuspended_of_othersSuspended {world : World σ κ ν}
    {self other : ThreadId} (suspended : world.othersSuspended self = true)
    (differs : other ≠ self) {thread : Thread κ}
    (found : world.threads[other]? = some thread) :
    thread.isSuspended = true := by
  simp only [othersSuspended] at suspended
  have inside := (List.getElem?_eq_some_iff.mp found).1
  have each := List.all_eq_true.mp suspended other (List.mem_range.mpr inside)
  simpa [differs, found] using each

/-- When a thread is replaced, what the new one tells comes in and what the old
one told goes. -/
theorem flatMap_set_perm {α : Type} (tell : Thread κ → List α)
    {threads : List (Thread κ)} {self : ThreadId} {thread : Thread κ}
    (found : threads[self]? = some thread) (replacement : Thread κ) :
    (tell thread ++ (threads.set self replacement).flatMap tell).Perm
      (tell replacement ++ threads.flatMap tell) := by
  induction threads generalizing self with
  | nil => simp at found
  | cons first rest inductionHypothesis =>
      cases self with
      | zero =>
          cases Option.some.inj found
          exact List.perm_append_comm_assoc _ _ _
      | succ self =>
          have later := (inductionHypothesis found).append_left (tell first)
          exact (List.perm_append_comm_assoc _ _ _).trans
            (later.trans (List.perm_append_comm_assoc _ _ _))

/-- Where all threads but one have nothing to tell, that one tells all. -/
theorem flatMap_eq_of_others {α : Type} {tell : Thread κ → List α}
    {threads : List (Thread κ)} {self : ThreadId} {thread : Thread κ}
    (found : threads[self]? = some thread)
    (others : ∀ other ≠ self, ∀ silent, threads[other]? = some silent →
      tell silent = []) :
    threads.flatMap tell = tell thread := by
  induction threads generalizing self with
  | nil => simp at found
  | cons first rest inductionHypothesis =>
      cases self with
      | zero =>
          cases Option.some.inj found
          have silent : rest.flatMap tell = [] := by
            rw [List.flatMap_eq_nil_iff]
            intro other member
            rcases List.mem_iff_getElem?.mp member with ⟨index, inside⟩
            exact others (index + 1) (Nat.succ_ne_zero index) other inside
          rw [List.flatMap_cons, silent, List.append_nil]
      | succ self =>
          have silent := others 0 (Nat.zero_ne_add_one self) first rfl
          rw [List.flatMap_cons, silent, List.nil_append]
          exact inductionHypothesis found fun other differs thread inside =>
            others (other + 1)
              (fun same => differs (Nat.succ.inj same)) thread inside

/-- Nothing is due where no thread is about to hand anything over. -/
theorem pending_eq_nil {client : Client σ κ ν} {world : World σ κ ν}
    (silent : ∀ thread ∈ world.threads, ∀ destination,
      thread.control.pending destination = []) :
    world.pending client = [] := by
  simp only [pending]
  rw [List.flatMap_eq_nil_iff]
  exact fun thread member => silent thread member _

/-- Which sessions are kept depends on the stacks only. -/
theorem any_keeps_set {threads : List (Thread κ)} {self : ThreadId}
    {thread : Thread κ} (found : threads[self]? = some thread)
    (control : Control) (session : SessionHandle) :
    (threads.set self { thread with control := control }).any
    (·.keeps session) =
      threads.any (·.keeps session) := by
  induction threads generalizing self with
  | nil => rfl
  | cons first rest inductionHypothesis =>
      cases self with
      | zero =>
          cases Option.some.inj found
          rfl
      | succ self =>
          rw [List.set_cons_succ, List.any_cons, List.any_cons,
            inductionHypothesis found]

/-- What is due after a step of the only thread that is in the middle of
something. -/
theorem pending_step {client : Client σ κ ν} {world : World σ κ ν}
    {self : ThreadId} {thread : Thread κ}
    (found : world.threads[self]? = some thread)
    (suspended : world.othersSuspended self = true) (fits : thread.Fits) :
    (world.step client self).pending client =
      (world.shared.move client (world.surroundings self) thread.stack
        thread.control).control.pending (world.destination client) := by
  have handles :=
    world.shared.move_handles client (world.surroundings self) fits
  rw [step_of_some found]
  generalize world.shared.move client (world.surroundings self) thread.stack
    thread.control = turn at handles
  have moved := afterTurn_self found thread.role turn
  have others : ∀ other ≠ self, ∀ silent : Thread κ,
      (world.afterTurn self thread.role turn).threads[other]? = some silent →
        silent.isSuspended = true := by
    intro other differs silent stands
    rcases afterTurn_cases stands with ⟨same, _⟩ | ⟨_, old⟩ | ⟨_, _, rfl⟩
    · exact absurd same differs
    · exact isSuspended_of_othersSuspended suspended differs old
    · rfl
  simp only [pending]
  rw [flatMap_eq_of_others moved fun other differs silent stands =>
    Thread.pending_of_isSuspended (others other differs silent stands) _]
  -- Only the entry that was just taken is still to be looked up.
  cases control : turn.control with
  | run instruction =>
      cases instruction with
      | route entry cycle =>
          rcases handles.destination_eq control with ⟨stack, spawned, same⟩
          have kept (session : SessionHandle) :
              (world.afterTurn self thread.role turn).threads.any
              (·.keeps session) =
                world.threads.any (·.keeps session) := by
            simp only [afterTurn]
            rw [spawned, stack]
            simp only [Bool.false_eq_true, ↓reduceIte, List.append_nil]
            exact any_keeps_set found turn.control session
          have destination :
              (world.afterTurn self thread.role turn).destination client =
              world.destination client := by
            simp only [World.destination]
            simp only [kept]
            exact same _
          rw [destination]
      | _ => rfl
  | _ => rfl

end World

namespace OrderlyRun

variable {client : Client σ κ ν} {world : World σ κ ν} {routings : List Routing}

/-- Where nothing leaves a queue, nothing is added to the routings. -/
private theorem routings_eq_nil {world : World σ κ ν}
    {occurrence : Occurrence κ}
    (departed : (world.after client occurrence).shared.departures =
      world.shared.departures) :
    world.routings client occurrence = [] := by
  rw [World.routings, departed, List.drop_length, List.map_nil]

/-- The routings of a run tell all entries that have left the queues, and the
callbacks with items are their destinations, up to those that are still due. -/
theorem delivers (run : OrderlyRun client world routings) :
    world.shared.departures = routings.map Routing.entry ∧
      world.shared.deliveries ++ world.pending client =
        routings.filterMap Routing.destination := by
  induction run with
  | opening opening =>
      have silent (callers : Nat) (destination : Item → Option Callback) :
          (List.replicate callers (Thread.idle : Thread κ)).flatMap
            (fun thread => thread.control.pending destination) = [] := by
        rw [List.flatMap_eq_nil_iff]
        intro thread member
        rw [List.eq_of_mem_replicate member]
        rfl
      cases opening with
      | application | alone => exact ⟨rfl, silent _ _⟩
  | @occur world routings occurrence run allowed orderly inductionHypothesis =>
      rcases inductionHypothesis with ⟨departed, delivered⟩
      have becomes := World.after_becomes client allowed
      cases occurrence with
      | step self =>
          cases found : world.threads[self]? with
          | none =>
              have same : world.after client (.step self) = world := by
                simp only [World.after, World.step, found]
              rw [routings_eq_nil (by rw [same]), same, List.append_nil]
              exact ⟨departed, delivered⟩
          | some thread =>
              have suspended : world.othersSuspended self = true := orderly
              have fits :=
                run.reachable.fits thread (List.mem_of_getElem? found)
              have handles :=
                world.shared.move_handles client (world.surroundings self) fits
              rcases handles.delivers with ⟨left, departs, delivers⟩
              have due : world.pending client =
                  thread.control.pending (world.destination client) :=
                World.flatMap_eq_of_others found
                  fun other differs silent stands =>
                  Thread.pending_of_isSuspended
                    (World.isSuspended_of_othersSuspended suspended
                      differs stands) _
              have shared : (world.after client (.step self)).shared =
                  (world.shared.move client
                    (world.surroundings self) thread.stack
                    thread.control).shared := by
                simp only [World.after, World.step_of_some found]
                rfl
              have added : world.routings client (.step self) =
                  left.map fun entry =>
                    ⟨entry, world.destination client entry.item⟩ := by
                rw [World.routings, shared, departs, List.drop_left]
              rw [added, shared]
              constructor
              · rw [departs, departed, List.map_append, List.map_map]
                simp [Function.comp_def]
              · rw [World.after, World.pending_step found suspended fits,
                  List.filterMap_append, ← delivered, due, List.filterMap_map]
                exact delivers
      | _ =>
          -- All threads are suspended, so nothing is due before and after.
          have silent : ∀ thread ∈ world.threads,
              ∀ destination, thread.control.pending destination = [] :=
            fun thread member =>
              Thread.pending_of_isSuspended
                (List.all_eq_true.mp orderly thread member)
          have later :=
            becomes.forall_threads silent
              (fun self thread steps => by cases steps)
            (fun destination => rfl)
            (fun thread request free destination => rfl)
            (fun thread code free destination => rfl)
            (fun thread instruction waits which silent destination => rfl)
            fun destination => rfl
          have same := becomes.sameItems (by simp)
          rw [World.pending_eq_nil silent, List.append_nil] at delivered
          rw [World.pending_eq_nil later, routings_eq_nil same.departures,
            same.departures, same.deliveries, List.append_nil, List.append_nil]
          exact ⟨departed, delivered⟩

/-- A destination is of the channel of its item. -/
theorem channel?_of_destination (run : OrderlyRun client world routings) :
    ∀ routing ∈ routings, ∀ callback, routing.destination = some callback →
      callback.channel? = some routing.entry.item.channel := by
  induction run with
  | opening opening =>
      exact fun routing member => absurd member List.not_mem_nil
  | occur occurrence run allowed orderly inductionHypothesis =>
      intro routing member callback due
      rcases List.mem_append.mp member with old | new
      · exact inductionHypothesis routing old callback due
      · rcases List.mem_map.mp new with ⟨entry, _, rfl⟩
        exact Shared.channel?_of_destination due

end OrderlyRun

/-- Where destinations are of the channels of their items, it is the same to
look at one channel first or last. -/
private theorem filter_destinations {routings : List Routing}
    {channel : Channel} (about : ∀ routing ∈ routings, ∀ callback,
      routing.destination = some callback →
      callback.channel? = some routing.entry.item.channel) :
    (routings.filterMap Routing.destination).filter
        (fun callback => callback.channel? = some channel) =
      (routings.filter fun routing =>
        routing.entry.item.channel = channel).filterMap
          Routing.destination := by
  induction routings with
  | nil => rfl
  | cons routing rest inductionHypothesis =>
      have later := inductionHypothesis fun other member =>
        about other (List.mem_cons_of_mem _ member)
      cases due : routing.destination with
      | none =>
          by_cases same : routing.entry.item.channel = channel <;>
            simp [due, same, later]
      | some callback =>
          have first := about routing List.mem_cons_self callback due
          by_cases same : routing.entry.item.channel = channel <;>
            simp [due, same, later, first]

/-- Exactly once, in order, and to the right destination.  On each channel the
entries that were submitted are those that have left the queue, followed by
those that wait.  The callbacks with items are the destinations that these
entries had when they left, each once and in this order, as far as they are not
due on a thread that is in the middle of a cycle.  So the callbacks of a channel
begin in the order of submission, and only the entries for which nobody was
there are left out. -/
theorem OrderlyRun.routes_in_order {client : Client σ κ ν} {world : World σ κ ν}
    {routings : List Routing} (run : OrderlyRun client world routings) :
    (∀ channel,
      world.shared.submissions channel =
        (routings.map Routing.entry).filter
        (fun entry => entry.item.channel = channel) ++
          world.shared.waiting channel) ∧
      world.shared.deliveries ++ world.pending client =
        routings.filterMap Routing.destination ∧
      (world.threads.all Thread.isSuspended = true →
        world.pending client = [] ∧
          ∀ channel,
            world.shared.deliveries.filter
              (fun callback => callback.channel? = some channel) =
              (routings.filter fun routing =>
                routing.entry.item.channel = channel).filterMap
                  Routing.destination) := by
  rcases run.delivers with ⟨departed, delivered⟩
  refine ⟨fun channel => ?_, delivered, fun suspended => ?_⟩
  · rw [run.reachable.inOrder channel, ← departed]
    rfl
  · have nothing : world.pending client = [] :=
      World.pending_eq_nil fun thread member =>
        Thread.pending_of_isSuspended
          (List.all_eq_true.mp suspended thread member)
    constructor
    · exact nothing
    · intro channel
      rw [nothing, List.append_nil] at delivered
      rw [delivered, filter_destinations run.channel?_of_destination]

namespace World

/-- Whether occurrences make an orderly run. -/
def isOrderlyAll (client : Client σ κ ν) (world : World σ κ ν) :
    List (Occurrence κ) → Bool
  | [] => true
  | occurrence :: rest =>
      world.allows occurrence && world.isOrderly occurrence &&
        (world.after client occurrence).isOrderlyAll client rest

/-- The entries that leave their queues in several occurrences. -/
def allRoutings (client : Client σ κ ν) (world : World σ κ ν) :
    List (Occurrence κ) → List Routing
  | [] => []
  | occurrence :: rest =>
      world.routings client occurrence ++
        (world.after client occurrence).allRoutings client rest

end World

/-- An orderly run goes on from where another has led. -/
theorem OrderlyRun.follow {client : Client σ κ ν} {world : World σ κ ν}
    {routings : List Routing} (run : OrderlyRun client world routings)
    {occurrences : List (Occurrence κ)}
    (orderly : world.isOrderlyAll client occurrences = true) :
    OrderlyRun client (world.follow client occurrences)
      (routings ++ world.allRoutings client occurrences) := by
  induction occurrences generalizing world routings with
  | nil =>
      rw [World.allRoutings, List.append_nil]
      exact run
  | cons occurrence rest inductionHypothesis =>
      rw [World.isOrderlyAll, Bool.and_eq_true, Bool.and_eq_true] at orderly
      rw [World.allRoutings, ← List.append_assoc]
      exact inductionHypothesis
        (run.occur occurrence orderly.1.1 orderly.1.2) orderly.2

theorem OrderlyRun.of_opening {client : Client σ κ ν} {world : World σ κ ν}
    (opening : world.IsOpening) {occurrences : List (Occurrence κ)}
    (orderly : world.isOrderlyAll client occurrences = true) :
    OrderlyRun client (world.follow client occurrences)
      (world.allRoutings client occurrences) := by
  have run := OrderlyRun.follow (.opening opening) orderly
  rwa [List.nil_append] at run

/-- An audio packet that was submitted as video goes out as video, the frame
behind it finds no stream, and the packet goes to its session. -/
theorem OrderlyRun.routes_in_order_of_accepting :
    let steps := List.replicate 12 (Occurrence.step 0 : Occurrence Unit)
    let ask (request : Request) : List (Occurrence Unit) :=
      .request 0 request :: steps
    let opening : World Unit Unit Unit :=
      .new (.new ⟨1, "app"⟩ .standard (.alone none) ()) 1
    let occurrences :=
      ask (.register 7 ⟨0, "camera"⟩) ++
        ask (.submit (.frame .video (.new 7 "camera") (.audio 1 0 [1]))) ++
        ask (.submit (.frame .video (.new 8 "other") (.audio 1 0 [2]))) ++
        ask (.submit (.packet 3 [4])) ++ ask .dispatchOnce ++ ask .dispatchOnce
    let world := opening.follow .accepting occurrences
    let routings := opening.allRoutings .accepting occurrences
    OrderlyRun .accepting world routings ∧
      world.threads.all Thread.isSuspended = true ∧
      routings.length = 3 ∧ world.shared.deliveries.length = 2 ∧
      world.shared.submissions .video =
        (routings.map Routing.entry).filter
        (fun entry => entry.item.channel = .video) ++
          world.shared.waiting .video ∧
      world.shared.deliveries.filter
        (fun callback => callback.channel? = some .video) =
        (routings.filter fun routing =>
          routing.entry.item.channel = .video).filterMap
            Routing.destination := by
  intro steps ask opening occurrences world routings
  have run : OrderlyRun .accepting world routings :=
    OrderlyRun.of_opening (.alone _ _ _ _) (by decide +kernel)
  have suspended : world.threads.all Thread.isSuspended = true := by
    decide +kernel
  rcases run.routes_in_order with ⟨submitted, _, rested⟩
  exact ⟨run, suspended, by decide +kernel, by decide +kernel, submitted .video,
    (rested suspended).2 .video⟩

end Switchboard
