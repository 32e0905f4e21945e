import Mathlib.Data.List.Perm.Subperm
import Switchboard.Proofs.Moments
import Switchboard.Proofs.Order
import Switchboard.Proofs.Tending

/-!
# No signal is lost

A producer pushes an item and then signals the wake event; whoever wants a stop
raises the flag and then signals.  Between the two steps a thread owes a signal.
Where the only task there has been is at its wait and nothing wakes it, every
item in a queue is one for which a producer still owes the signal, and so is a
raised flag.  Any number of callers may do anything in the meantime, the
callbacks of the task included.
-/

namespace Switchboard

variable {σ κ ν : Type}

/-! ## Signals that are owed -/

namespace Control

/-- The entry that a thread has pushed without having signalled yet. -/
def owes? : Control → Option (Sequenced Item)
  | .run (.signal entry _) => entry
  | _ => none

/-- Whether a thread has raised the stop flag without having signalled yet. -/
def owesStop : Control → Bool
  | .run (.signal none _) => true
  | _ => false

/-- Whether a thread is about to signal. -/
def signals : Control → Bool
  | .run (.signal _ _) => true
  | _ => false

theorem owes?_eq_none {control : Control} (silent : control.signals = false) :
    control.owes? = none := by
  simp only [owes?]
  split
  · cases silent
  · rfl

theorem signals_of_owesStop {control : Control}
    (owes : control.owesStop = true) :
    control.signals = true := by
  simp only [owesStop] at owes
  split at owes
  · rfl
  · cases owes

end Control

namespace Thread

/-- The entry for which a thread owes a signal. -/
def owes? (thread : Thread κ) : Option (Sequenced Item) :=
  thread.control.owes?

theorem owes?_eq_none {thread : Thread κ}
    (silent : thread.control.signals = false) :
    thread.owes? = none :=
  Control.owes?_eq_none silent

end Thread

namespace World

/-- The entries for which a signal is owed. -/
def owed (world : World σ κ ν) : List (Sequenced Item) :=
  world.threads.filterMap Thread.owes?

/-- For every entry in the queue of a channel a producer of its own owes a
signal. -/
def Owes (world : World σ κ ν) (channel : Channel) : Prop :=
  (world.shared.waiting channel).Subperm
    (world.owed.filter fun entry => entry.item.channel = channel)

/-- If the stop flag is raised, a signal is owed for it. -/
def OwesStop (world : World σ κ ν) : Prop :=
  world.shared.dispatcher.stopRequested = true →
    ∃ thread ∈ world.threads, thread.control.owesStop = true

section

variable {world : World σ κ ν} {self : ThreadId} {thread : Thread κ}
  (found : world.threads[self]? = some thread)
  (silent : thread.control.signals = false)

include found silent

/-- Whoever takes the place of a thread that owes nothing adds what it owes
itself. -/
theorem owed_put (replacement : Thread κ) :
    (world.put self replacement).owed.Perm
      (replacement.owes?.toList ++ world.owed) := by
  rcases List.getElem?_eq_some_iff.mp found with ⟨inside, stands⟩
  have before : world.threads =
      world.threads.take self ++ thread :: world.threads.drop (self + 1) := by
    rw [← stands, List.getElem_cons_drop, List.take_append_drop]
  have owes : world.owed =
      (world.threads.take self).filterMap Thread.owes? ++
        (world.threads.drop (self + 1)).filterMap Thread.owes? := by
    rw [owed]
    conv_lhs => rw [before]
    rw [List.filterMap_append,
      List.filterMap_cons_none (Thread.owes?_eq_none silent)]
  rw [owes, owed, put, List.set_eq_take_append_cons_drop, if_pos inside,
    List.filterMap_append, List.filterMap_cons]
  cases replacement.owes? with
  | none => exact .refl _
  | some entry => exact List.perm_middle

theorem owed_afterTurn (role : Role) (turn : Turn σ κ ν) :
    (world.afterTurn self role turn).owed.Perm
      (turn.control.owes?.toList ++ world.owed) := by
  refine .trans (.of_eq ?_)
    (owed_put found silent ⟨role, turn.stack, turn.control⟩)
  simp only [owed, afterTurn, put]
  split
  · rw [List.filterMap_append]
    exact List.append_nil _
  · rw [List.append_nil]

/-- Who owes a signal for a stop goes on owing it while another thread moves. -/
theorem exists_owesStop_set (replacement : Thread κ)
    (owes : ∃ thread ∈ world.threads, thread.control.owesStop = true) :
    ∃ thread ∈ world.threads.set self replacement,
      thread.control.owesStop = true := by
  rcases owes with ⟨requester, member, owes⟩
  rcases List.mem_iff_getElem?.mp member with ⟨other, stands⟩
  refine ⟨requester, List.mem_iff_getElem?.mpr ⟨other, ?_⟩, owes⟩
  rw [List.getElem?_set_ne, stands]
  rintro rfl
  cases Option.some.inj (found.symm.trans stands)
  rw [Control.signals_of_owesStop owes] at silent
  cases silent

end

/-! ## What a step does to what is owed -/

end World

namespace Shared

/-- A queue grows by a push only. -/
theorem move_waiting (client : Client σ κ ν) (shared : Shared σ ν)
    (around : Surroundings) {stack : List (Frame κ)} {control : Control}
    (fits : control.Fits stack) : (∃ item, control = .run (.push item)) ∨
      ∀ channel,
        ((shared.move client around stack control).shared.waiting
          channel).Sublist
        (shared.waiting channel) := by
  have handles := shared.move_handles client around fits
  generalize shared.move client around stack control = turn at handles
  have same {after : Shared σ ν}
      (queues : after.dispatcher.queues = shared.dispatcher.queues)
      (channel : Channel) :
      (after.waiting channel).Sublist (shared.waiting channel) := by
    rw [waiting, queues]
    exact List.Sublist.refl _
  cases handles with
  | aside before turns => exact .inr (same turns.same.queues)
  | pushes stack item => exact .inl ⟨item, rfl⟩
  | @drains stack cycle served remaining entry dispatcher next popped =>
      right
      intro channel
      rcases Option.map_eq_some_iff.mp popped with ⟨⟨_, rest⟩, first, equal⟩
      cases equal
      rcases (Queue.pop?_eq_some_iff _ _ _).mp first with ⟨entries, _⟩
      change ((shared.dispatcher.queues.set served rest).get
        channel).entries.Sublist _
      by_cases same : channel = served
      · subst same
        rw [Queues.get_set_self, waiting, entries]
        exact List.sublist_cons_self _ _
      · rw [Queues.get_set_of_ne _ _ same]
        exact List.Sublist.refl _
  | routes stack entry cycle =>
      right
      simp only [route]
      split
      · split <;> exact same rfl
      · split <;> exact same rfl
  | calls fits | resumes =>
      exact .inr (same (congrArg _ (clientMove_dispatcher _ _ _ _)))
  | sent | lost | received | refused => exact .inr (same rfl)

end Shared

/-- All that a turn can do to the stop flag: it leaves it as it is, it raises it
and owes a signal for that, or it lowers it and spawns a task. -/
inductive Turn.TreatsStop (shared : Shared σ ν) (turn : Turn σ κ ν) : Prop
  | keeps (same : turn.shared.dispatcher.stopRequested =
      shared.dispatcher.stopRequested)
  | raises (raised : turn.shared.dispatcher.stopRequested = true)
      (owes : turn.control.owesStop = true)
  | lowers (lowered : turn.shared.dispatcher.stopRequested = false)
      (spawns : turn.spawned = true)

/-- A turn that leaves the dispatcher alone leaves the flag as it is. -/
theorem Turn.TreatsStop.of_same {shared : Shared σ ν} {turn : Turn σ κ ν}
    (same : turn.shared.dispatcher = shared.dispatcher) :
    turn.TreatsStop shared :=
  .keeps (congrArg Dispatcher.stopRequested same)

namespace Shared

theorem perform_treatsStop (client : Client σ κ ν) (shared : Shared σ ν)
    (around : Surroundings) (stack : List (Frame κ)) (request : Request) :
    (shared.perform client around stack request).TreatsStop shared := by
  simp only [perform]
  split
  case h_8 => exact .of_same (askTypeName_dispatcher client shared)
  case h_9 | h_11 => exact .raises rfl rfl
  case h_12 =>
    simp only [register]
    split <;> exact .of_same rfl
  case h_13 =>
    simp only [unregister]
    split <;> exact .of_same rfl
  all_goals exact .of_same rfl

theorem launch_treatsStop (client : Client σ κ ν) (shared origin : Shared σ ν)
    (stack : List (Frame κ)) (task : ThreadId) :
    (shared.launch client stack task).TreatsStop origin := by
  apply Turn.TreatsStop.lowers
  · rw [launch_dispatcher]
    rfl
  · rfl

theorem start_treatsStop (client : Client σ κ ν) (shared : Shared σ ν)
    (around : Surroundings) (stack : List (Frame κ)) :
    (shared.start client around stack).TreatsStop shared := by
  simp only [start]
  split
  · split
    · exact .of_same rfl
    · split
      · exact launch_treatsStop client _ _ _ _
      · split
        · exact .of_same rfl
        · exact launch_treatsStop client _ _ _ _
  · exact .of_same rfl
  · exact .of_same rfl

theorem stop_treatsStop (shared : Shared σ ν) (stack : List (Frame κ)) :
    (shared.stop stack).TreatsStop shared := by
  simp only [stop]
  split
  · split
    · exact .of_same rfl
    · split
      · exact .of_same rfl
      · exact .raises rfl rfl
  · exact .of_same rfl
  · exact .of_same rfl

theorem execute_treatsStop (client : Client σ κ ν) (shared : Shared σ ν)
    (around : Surroundings) (stack : List (Frame κ))
    (instruction : Instruction) :
    (shared.execute client around stack instruction).TreatsStop shared := by
  cases instruction with
  | perform request =>
      exact shared.perform_treatsStop client around stack request
  | call callback => exact .of_same (clientMove_dispatcher _ _ _ _)
  | stamp item =>
      cases item with
      | frame kind descriptor packet =>
          simp only [execute, stamp, dispatch, Dispatcher.stamp]
          split <;> exact .keeps rfl
      | packet session data => exact .of_same rfl
  | cycle cycle =>
      simp only [execute, serve]
      split
      · exact .of_same rfl
      · split
        · exact .of_same rfl
        · rename_i popped
          rcases Option.map_eq_some_iff.mp popped with ⟨_, _, equal⟩
          cases equal
          exact .keeps rfl
  | route entry cycle =>
      simp only [execute, route]
      split
      · split <;> exact .keeps rfl
      · split <;> exact .keeps rfl
  | check idle watch =>
      simp only [execute, check]
      split
      · exact .of_same rfl
      · cases shared.reportDue watch <;> exact .keeps rfl
  | await | parked =>
      simp only [execute, await, parked]
      split <;> exact .keeps rfl
  | create | insert | delete | remove | join =>
      simp only [execute, create, insert, delete, remove, join]
      split <;> exact .of_same rfl
  | start => exact shared.start_treatsStop client around stack
  | stop => exact shared.stop_treatsStop stack
  | awaitTask task =>
      exact .of_same (shared.awaitTask_dispatcher client around stack task)
  | _ => exact .keeps rfl

theorem deliver_treatsStop (client : Client σ κ ν) (shared : Shared σ ν)
    (stack : List (Frame κ)) (control : Control) (frame : Frame κ) :
    (shared.deliver client stack control frame).TreatsStop shared := by
  simp only [deliver]
  split
  case h_1 | h_2 => exact .of_same (clientMove_dispatcher _ _ _ _)
  case h_8 descriptor reply => cases reply.stream <;> exact .of_same rfl
  case h_10 descriptor stream reply =>
    cases reply.accepted <;> exact .of_same rfl
  all_goals exact .keeps rfl

/-- No move does anything else to the stop flag. -/
theorem move_treatsStop (client : Client σ κ ν) (shared : Shared σ ν)
    (around : Surroundings) (stack : List (Frame κ)) (control : Control) :
    (shared.move client around stack control).TreatsStop shared := by
  simp only [move]
  split
  · exact shared.execute_treatsStop client around stack _
  · split
    · exact .of_same rfl
    · exact shared.deliver_treatsStop client _ _ _

end Shared

namespace World

section

variable {world : World σ κ ν} {self : ThreadId} {thread : Thread κ}
  (found : world.threads[self]? = some thread)
  (silent : thread.control.signals = false)

include found silent

/-- What is owed on a channel is owed still when a thread that owes nothing
moves. -/
theorem Owes.moved (client : Client σ κ ν) (fits : thread.Fits)
    {channel : Channel} (owes : world.Owes channel) :
    (world.afterTurn self thread.role
      (world.shared.move client (world.surroundings self) thread.stack
        thread.control)).Owes channel := by
  have added := (owed_afterTurn found silent thread.role
    (world.shared.move client
      (world.surroundings self) thread.stack thread.control)).filter
      fun entry => entry.item.channel = channel
  rcases world.shared.move_waiting client (world.surroundings self) fits with
    ⟨item, pushes⟩ | shrinks
  · -- The producer owes the signal for the entry that it has just pushed.
    rw [pushes] at added ⊢
    refine .trans ?_ added.symm.subperm
    change (Shared.waiting
      (world.shared.dispatch (·.push item)) channel).Subperm
      (([world.shared.dispatcher.nextEntry item] ++ world.owed).filter _)
    by_cases same : item.channel = channel
    · subst same
      rw [List.filter_append, List.filter_singleton]
      simp only [Shared.waiting, Shared.dispatch, Dispatcher.push,
        Queues.get_set_self, Queue.push, Dispatcher.nextEntry,
        decide_true, cond_true]
      exact List.perm_append_comm.subperm.trans
        ((List.subperm_append_left _).mpr owes)
    · rw [List.filter_append]
      have unchanged :
          Shared.waiting (world.shared.dispatch (·.push item)) channel =
          world.shared.waiting channel :=
        congrArg Queue.entries (Queues.get_set_of_ne _ _ (Ne.symm same))
      rw [unchanged]
      exact owes.trans (List.sublist_append_right _ _).subperm
  · refine (shrinks channel).subperm.trans
      (owes.trans (.trans ?_ added.symm.subperm))
    rw [List.filter_append]
    exact (List.sublist_append_right _ _).subperm

theorem OwesStop.moved (client : Client σ κ ν) (owes : world.OwesStop) :
    (world.afterTurn self thread.role
      (world.shared.move client (world.surroundings self) thread.stack
        thread.control)).OwesStop := by
  intro raised
  cases world.shared.move_treatsStop client (world.surroundings self)
    thread.stack thread.control with
  | keeps same =>
      rcases exists_owesStop_set found silent _
        (owes (same.symm.trans raised)) with ⟨requester, member, owes⟩
      exact ⟨requester, List.mem_append_left _ member, owes⟩
  | raises _ owes =>
      exact ⟨_, List.mem_of_getElem? (afterTurn_self found thread.role _), owes⟩
  | lowers lowered _ => cases lowered.symm.trans raised

/-- What is owed on a channel is owed still when a thread that owes nothing is
replaced. -/
theorem Owes.put {channel : Channel} (owes : world.Owes channel)
    {shared : Shared σ ν}
    (same : shared.dispatcher.queues = world.shared.dispatcher.queues)
    (replacement : Thread κ) :
    (World.put { world with shared := shared } self replacement).Owes
      channel := by
  have added := (owed_put found silent replacement).filter fun entry =>
    entry.item.channel = channel
  have kept :
      (World.put { world with shared :=
        shared } self replacement).shared.waiting
      channel = world.shared.waiting channel := by
    simp only [World.put, Shared.waiting]
    rw [same]
  rw [Owes, kept]
  refine owes.trans (.trans ?_ added.symm.subperm)
  rw [List.filter_append]
  exact (List.sublist_append_right _ _).subperm

theorem OwesStop.put (owes : world.OwesStop) {shared : Shared σ ν}
    (same : shared.dispatcher.stopRequested =
      world.shared.dispatcher.stopRequested)
    (replacement : Thread κ) :
    (World.put { world with shared := shared } self replacement).OwesStop := by
  intro raised
  exact exists_owesStop_set found silent replacement
    (owes (same.symm.trans raised))

end

end World

/-! ## The only task -/

/-- What a task that has got to a control has seen to.  Whatever comes to a
channel after the task has looked there is owed a signal, and before a wait so
is a raised flag. -/
def Control.SeesTo (owes : Channel → Prop) (owesStop : Prop) : Control → Prop
  | .run .begin | .run (.check true _) => ∀ channel, owes channel
  | .run (.await _) | .run (.parked _) => (∀ channel, owes channel) ∧ owesStop
  | .run (.cycle ⟨remaining, false, .loop _⟩) =>
      ∀ channel, channel ∉ remaining → owes channel
  | _ => True

namespace Control.SeesTo

variable {owes owes' : Channel → Prop} {owesStop owesStop' : Prop}
  {control : Control}

theorem imp (still : ∀ channel, owes channel → owes' channel)
    (stillStop : owesStop → owesStop') (sees : control.SeesTo owes owesStop) :
    control.SeesTo owes' owesStop' := by
  simp only [SeesTo] at sees ⊢
  split
  · exact fun channel => still channel (sees channel)
  · exact fun channel => still channel (sees channel)
  · exact ⟨fun channel => still channel (sees.1 channel), stillStop sees.2⟩
  · exact ⟨fun channel => still channel (sees.1 channel), stillStop sees.2⟩
  · exact fun channel absent => still channel (sees channel absent)
  · trivial

theorem of_away (away : control.watches = false) :
    control.SeesTo owes owesStop := by
  simp only [SeesTo]
  split
  all_goals first
    | cases away
    | trivial

end Control.SeesTo

/-- A thread that is not a task touches the wake event by signals only. -/
theorem Control.touchesWake_of_isLoop {control : Control}
    (aside : control.isLoop = false) (silent : control.signals = false) :
    control.touchesWake = false := by
  simp only [touchesWake]
  split
  · cases silent
  · cases aside
  · cases aside
  · rfl

/-- Where a task that relies on nothing is, it does not wait for the event. -/
theorem Control.posture_of_away {control : Control}
    (away : control.watches = false) (task : ThreadId) :
    control.posture task = .away := by
  simp only [posture]
  split
  · cases away
  · rfl

/-- A task that is not at its wait after a move has left the wake event. -/
theorem Shared.move_leaves (client : Client σ κ ν) {shared : Shared σ ν}
    (around : Surroundings) (stack : List (Frame κ)) {control : Control}
    {clear : Prop}
    (suits : shared.dispatcher.wake.Suits clear (control.posture around.self))
    (leaves :
      ∀ watch, (shared.move client around stack control).control ≠
        .run (.parked watch)) :
    (shared.move client around stack control).shared.dispatcher.wake.Suits
      True .away := by
  cases touches : control.touchesWake with
  | false =>
      have away : control.posture around.self = .away := by
        simp only [Control.posture]
        split
        · cases touches
        · rfl
      rw [shared.move_wake client around stack touches]
      rw [away] at suits
      exact suits.imp fun _ => trivial
  | true =>
      simp only [Control.touchesWake] at touches
      split at touches
      · exact suits.signal True
      · rcases suits with ⟨waiting, signalled, _⟩
        simp only [move, execute, await] at leaves ⊢
        split at leaves
        · rename_i stored
          rw [if_pos stored]
          exact ⟨waiting, signalled, .inr trivial⟩
        · exact absurd rfl (leaves _)
      · simp only [move, execute, parked] at leaves ⊢
        split at leaves
        · rename_i called
          rw [if_pos called]
          rcases suits with ⟨_, signalled, _⟩ | ⟨waiting, signalled⟩
          · rw [Wake.hasSignalled, signalled] at called
            cases called
          · refine ⟨waiting, ?_, .inr trivial⟩
            change shared.dispatcher.wake.signalled.erase around.self = []
            rw [signalled, List.erase_cons_head]
        · exact absurd rfl (leaves _)
      · cases touches

/-- A task that waits for the event leaves it for good. -/
theorem Wake.Suits.withdraw {wake : Wake} {clear : Prop} {task : ThreadId}
    (suits : wake.Suits clear (.parked task)) :
    (wake.withdraw task).Suits True .away := by
  rcases wake with ⟨permit, waiting, signalled⟩
  rcases suits with ⟨rfl, rfl, _⟩ | ⟨rfl, rfl⟩
  · simp [Wake.withdraw, hasSignalled, Suits]
  · simp [Wake.withdraw, hasSignalled, dismiss, Wake.signal, Suits]

namespace World

/-- Whether the tasks that have been spawned are this one, or none so far. -/
def isOnlyTask (world : World σ κ ν) (task : ThreadId) : Bool :=
  (List.range world.threads.length).all fun other =>
    (world.threads[other]?).all fun thread => thread.role = .task ↔ other = task

theorem isOnlyTask_iff {world : World σ κ ν} {task : ThreadId} :
    world.isOnlyTask task = true ↔
      ∀ other thread, world.threads[other]? = some thread →
        (thread.role = .task ↔ other = task) := by
  rw [isOnlyTask, List.all_eq_true]
  constructor
  · intro all other thread found
    have inside := (List.getElem?_eq_some_iff.mp found).1
    have told := all other (List.mem_range.mpr inside)
    rw [found] at told
    simpa using told
  · intro all other _
    cases found : world.threads[other]? with
    | none => rfl
    | some thread => simpa using all other thread found

/-- Where a task is: before it is spawned it is as good as at its first step. -/
def stage (world : World σ κ ν) (task : ThreadId) : Control :=
  (world.threads[task]?).elim (.run .begin) Thread.control

theorem stage_of_some {world : World σ κ ν} {task : ThreadId}
    {thread : Thread κ} (found : world.threads[task]? = some thread) :
    world.stage task = thread.control := by
  rw [stage, found]
  rfl

/-- The wake event is as it should be for the only task there has been. -/
def Heeds (world : World σ κ ν) (task : ThreadId) : Prop :=
  world.shared.dispatcher.wake.Suits
    ((world.stage task).SeesTo world.Owes world.OwesStop)
    ((world.stage task).posture task)

namespace Heeds

variable {client : Client σ κ ν} {world : World σ κ ν} {task self : ThreadId}
  {thread : Thread κ}

/-- What others do is no matter, as long as the wake event stays as it is and
what is owed is owed still. -/
theorem of_same (heeds : world.Heeds task) {next : World σ κ ν}
    (wake : next.shared.dispatcher.wake = world.shared.dispatcher.wake)
    (stage : next.stage task = world.stage task)
    (owes : ∀ channel, world.Owes channel → next.Owes channel)
    (owesStop : world.OwesStop → next.OwesStop) : next.Heeds task := by
  rw [Heeds, wake, stage]
  exact Wake.Suits.imp (Control.SeesTo.imp owes owesStop) heeds

/-- The task itself moves. -/
theorem moved_self (heeds : world.Heeds task)
    (found : world.threads[task]? = some thread) (fits : thread.Fits) :
    (world.afterTurn task thread.role
      (world.shared.move client (world.surroundings task) thread.stack
        thread.control)).Heeds task := by
  have suits : world.shared.dispatcher.wake.Suits
      (thread.control.SeesTo world.Owes world.OwesStop)
      (thread.control.posture task) := by
    rw [Heeds, stage_of_some found] at heeds
    exact heeds
  have left :=
    Shared.move_leaves client (world.surroundings task) thread.stack suits
  have owes (silent : thread.control.signals = false) (channel : Channel)
      (owes : world.Owes channel) := owes.moved found silent client fits
  have owesStop (silent : thread.control.signals = false)
      (owes : world.OwesStop) :=
    owes.moved found silent client
  have watches :=
    world.shared.move_watches client (world.surroundings task) fits
  rw [Heeds, stage_of_some (afterTurn_self found thread.role _)]
  rcases thread with ⟨role, stack, control⟩
  dsimp only at suits left owes owesStop watches ⊢
  generalize moves :
    world.shared.move client (world.surroundings task) stack control = turn
    at watches left owes owesStop ⊢
  cases watches with
  | begins =>
      exact suits.imp fun sees channel => owes rfl channel (sees channel)
  | rests watch =>
      exact suits.imp fun sees channel =>
        owes rfl channel (sees channel List.not_mem_nil)
  | @skips served remaining watch empty =>
      refine suits.imp fun sees channel absent => ?_
      by_cases same : channel = served
      · subst same
        apply owes rfl
        rw [Owes, Shared.waiting, empty]
        exact List.nil_subperm
      · exact owes rfl channel
          (sees channel (List.not_mem_cons_of_ne_of_not_mem same absent))
  | @turns shared' watch watch' lowered reported =>
      have kept : shared'.dispatcher.wake = world.shared.dispatcher.wake ∧
          shared'.dispatcher.stopRequested = false := by
        rcases reported with rfl | rfl
        · exact ⟨rfl, lowered⟩
        · exact ⟨rfl, lowered⟩
      change shared'.dispatcher.wake.Suits _ .away
      rw [kept.1]
      refine suits.imp fun sees =>
        ⟨fun channel => owes rfl channel (sees channel), ?_⟩
      intro raised
      exact absurd (kept.2.symm.trans raised) Bool.false_ne_true
  | parks watch absent =>
      rcases suits with ⟨waiting, signalled, stored | sees⟩
      · rw [absent] at stored
        cases stored
      · refine .inl ⟨?_, signalled,
          fun channel => owes rfl channel (sees.1 channel), owesStop rfl sees.2⟩
        change world.shared.dispatcher.wake.waiting ++ [task] = [task]
        rw [waiting, List.nil_append]
  | stays watch silent =>
      exact suits.imp fun sees =>
        ⟨fun channel => owes rfl channel (sees.1 channel), owesStop rfl sees.2⟩
  | looks watch fresh =>
      have away := left fun watch parked => by
        rw [fresh] at parked
        cases parked
      change turn.shared.dispatcher.wake.Suits _ _
      rw [fresh]
      refine Wake.Suits.imp (fun _ channel absent => absurd ?_ absent) away
      cases channel <;> simp [Channel.all]
  | elsewhere relies =>
      have away := left fun watch parked => by
        rw [parked] at relies
        cases relies
      change turn.shared.dispatcher.wake.Suits _ _
      rw [Control.posture_of_away relies]
      exact Wake.Suits.imp (fun _ => .of_away relies) away

/-- A thread that is not a task moves, and may spawn the task. -/
theorem moved_other (heeds : world.Heeds task)
    (found : world.threads[self]? = some thread) (fits : thread.Fits)
    (outside : thread.control.IsOutside thread.stack) (differs : task ≠ self) :
    (world.afterTurn self thread.role
      (world.shared.move client (world.surroundings self) thread.stack
        thread.control)).Heeds task := by
  generalize moves :
    world.shared.move client (world.surroundings self) thread.stack
    thread.control = turn
  have stage :
      (world.afterTurn self thread.role turn).stage task =
        world.stage task := by
    cases stands : world.threads[task]? with
    | some other =>
        rw [stage_of_some stands,
          stage_of_some (afterTurn_other stands differs _ _)]
    | none =>
        -- The task is spawned now or later, and begins in either case.
        rw [World.stage, World.stage, stands]
        cases spawned :
          (world.afterTurn self thread.role turn).threads[task]? with
        | none => rfl
        | some new =>
            rcases afterTurn_cases spawned with
              ⟨same, _⟩ | ⟨_, before⟩ | ⟨_, _, rfl⟩
            · exact absurd same differs
            · rw [before] at stands
              cases stands
            · rfl
  subst moves
  cases signals : thread.control.signals with
  | false =>
      have elsewhere := Control.touchesWake_of_isLoop outside.control signals
      exact heeds.of_same (world.shared.move_wake client _ _ elsewhere) stage
        (fun channel owes => owes.moved found signals client fits)
        (fun owes => owes.moved found signals client)
  | true =>
      simp only [Control.signals] at signals
      split at signals
      · rename_i entry next sends
        rw [Heeds, stage]
        rw [sends]
        exact Wake.Suits.signal heeds _
      · cases signals

/-- Somebody other than the task is given something to do or gives up. -/
theorem put_other (heeds : world.Heeds task)
    (found : world.threads[self]? = some thread)
    (silent : thread.control.signals = false) (differs : task ≠ self)
    {shared : Shared σ ν} (same : shared.dispatcher = world.shared.dispatcher)
    (replacement : Thread κ) :
    (World.put { world with shared := shared } self replacement).Heeds
      task := by
  refine heeds.of_same (congrArg Dispatcher.wake same) ?_
    (fun channel owes => owes.put found silent
      (congrArg Dispatcher.queues same) replacement)
    (fun owes => owes.put found silent
      (congrArg Dispatcher.stopRequested same) replacement)
  rw [World.stage, World.stage, World.put_other differs]

/-- The task gives up or is cancelled where it is not expected at the wake
event. -/
theorem put_self (found : world.threads[task]? = some thread)
    {shared : Shared σ ν} (away : shared.dispatcher.wake.Suits True .away)
    {replacement : Thread κ} (relies : replacement.control.watches = false) :
    (World.put { world with shared := shared } task replacement).Heeds
      task := by
  have stands :
      (World.put { world with shared :=
        shared } task replacement).threads[task]? =
      some replacement := World.put_self found replacement
  rw [Heeds, stage_of_some stands, Control.posture_of_away relies]
  exact away.imp fun _ => .of_away relies

/-- Whoever gives up a request goes on without having touched the wake event. -/
theorem abandoned (heeds : world.Heeds task) {instruction : Instruction}
    (found : world.threads[self]? = some thread)
    (waits : thread.control = .run instruction)
    (which : instruction.canBeAbandoned = true) {shared : Shared σ ν}
    (same : shared.dispatcher = world.shared.dispatcher) :
    (World.put { world with shared := shared } self
      { thread with control := .answer .abandoned }).Heeds task := by
  have silent : thread.control.signals = false := by
    rw [waits]
    cases instruction with
    | signal entry next => cases which
    | _ => rfl
  by_cases differs : task = self
  · subst differs
    refine put_self found ?_ rfl
    have posture : thread.control.posture task = .away := by
      rw [waits]
      cases instruction with
      | parked watch => cases which
      | _ => rfl
    rw [Heeds, stage_of_some found, posture] at heeds
    rw [same]
    exact heeds.imp fun _ => trivial
  · exact heeds.put_other found silent differs same _

end Heeds

/-- A caller that has nothing left to do owes nothing. -/
theorem silent_of_isFree {thread : Thread κ} (free : thread.isFree = true) :
    thread.control.signals = false := by
  simp only [Control.signals]
  split
  · rename_i runs
    rw [Thread.isFree_of_run runs] at free
    cases free
  · rfl

theorem IsOpening.heeds {world : World σ κ ν} (opening : world.IsOpening)
    {task : ThreadId} (only : world.isOnlyTask task = true) :
    world.Heeds task := by
  rw [isOnlyTask_iff] at only
  -- No task has been spawned, and nothing waits.
  have begins {callers : Nat}
      (threads : world.threads = List.replicate callers .idle) :
      world.stage task = .run .begin := by
    cases stands : world.threads[task]? with
    | none => rw [stage, stands]; rfl
    | some thread =>
        have role := (only task thread stands).mpr rfl
        have member := List.mem_of_getElem? stands
        rw [threads] at member
        rw [List.eq_of_mem_replicate member] at role
        cases role
  cases opening with
  | application | alone =>
      rw [Heeds, begins rfl]
      refine ⟨rfl, rfl, .inr fun channel => ?_⟩
      cases channel <;> exact List.nil_subperm

/-- Roles are for life, so there was no other task before. -/
theorem isOnlyTask_of_after {client : Client σ κ ν} {world next : World σ κ ν}
    {occurrence : Occurrence κ} (becomes : Becomes client world occurrence next)
    {task : ThreadId} (only : next.isOnlyTask task = true) :
    world.isOnlyTask task = true := by
  rw [isOnlyTask_iff] at only ⊢
  intro other thread found
  rcases becomes.thread found with ⟨later, stands, changes⟩
  rw [← only other later stands, changes.role]

end World

/-- The wake event of a reachable world is as it should be for the only task
that there has been. -/
theorem Reachable.heeds {client : Client σ κ ν} {world : World σ κ ν}
    (reachable : Reachable client world) {task : ThreadId}
    (only : world.isOnlyTask task = true) : world.Heeds task := by
  induction reachable with
  | opening opening => exact opening.heeds only
  | @occur world occurrence reached allowed inductionHypothesis =>
      have becomes := World.after_becomes client allowed
      generalize world.after client occurrence = next at becomes only
      have before := World.isOnlyTask_of_after becomes only
      have heeds := inductionHypothesis before
      rw [World.isOnlyTask_iff] at before
      have fits {self : ThreadId} {thread : Thread κ}
          (found : world.threads[self]? = some thread) : thread.Fits :=
        reached.fits thread (List.mem_of_getElem? found)
      have caller {self : ThreadId} {thread : Thread κ}
          (found : world.threads[self]? = some thread) (differs : task ≠ self) :
          thread.role = .caller := by
        cases role : thread.role with
        | caller => rfl
        | task => exact absurd ((before self thread found).mp role).symm differs
      have other {self : ThreadId} {thread : Thread κ}
          (found : world.threads[self]? = some thread)
          (free : thread.isFree = true) :
          task ≠ self := by
        rintro rfl
        rw [Thread.isFree, (before task thread found).mpr rfl] at free
        cases free
      cases becomes with
      | same => exact heeds
      | @moved self thread found =>
          by_cases same : task = self
          · subst same
            exact heeds.moved_self found (fits found)
          · exact heeds.moved_other found (fits found)
              (reached.isOutside (List.mem_of_getElem? found)
                (caller found same)) same
      | @asked self thread request found free =>
          exact heeds.put_other found (World.silent_of_isFree free)
            (other found free) rfl _
      | @handed self thread code found free =>
          exact heeds.put_other found (World.silent_of_isFree free)
            (other found free) rfl _
      | waited millis => exact heeds
      | @abandoned self thread instruction found waits which =>
          exact heeds.abandoned found waits
            (by obtain rfl | rfl | ⟨task, rfl⟩ := which <;> rfl) rfl
      | @stopAbandoned self awaited thread found waits =>
          exact heeds.abandoned found waits rfl
            (world.shared.updateApplication_dispatcher _)
      | @cancelledFirst cancelled stack found =>
          cases (before cancelled _ found).mp rfl
          rw [World.Heeds, World.stage_of_some found] at heeds
          exact World.Heeds.put_self found (heeds.imp fun _ => trivial) rfl
      | @cancelledParked cancelled stack watch found =>
          cases (before cancelled _ found).mp rfl
          rw [World.Heeds, World.stage_of_some found] at heeds
          exact World.Heeds.put_self found heeds.withdraw rfl

/-- Whether a task is held up at its wait: no signal has reached it and none is
stored. -/
def World.isBlocked (world : World σ κ ν) (task : ThreadId) : Bool :=
  match (world.threads[task]?).map Thread.control with
  | some (.run (.await _)) => !world.shared.dispatcher.wake.permit
  | some (.run (.parked _)) => !world.shared.dispatcher.wake.hasSignalled task
  | _ => false

/-- No lost wake-up.  While the only task there has been is held up at its wait,
every item in a queue is one for which a producer of its own still owes the
signal, and if the stop flag is raised then whoever has raised it still owes the
signal. -/
theorem Reachable.owes_of_isBlocked {client : Client σ κ ν}
    {world : World σ κ ν} (reachable : Reachable client world) {task : ThreadId}
    (only : world.isOnlyTask task = true)
    (blocked : world.isBlocked task = true) : (∀ channel, world.Owes channel) ∧
      world.OwesStop := by
  have heeds := reachable.heeds only
  simp only [World.isBlocked] at blocked
  split at blocked
  · rename_i watch stands
    rcases Option.map_eq_some_iff.mp stands with ⟨thread, found, waits⟩
    rw [World.Heeds, World.stage_of_some found, waits] at heeds
    rcases heeds with ⟨_, _, stored | sees⟩
    · rw [stored] at blocked
      cases blocked
    · exact sees
  · rename_i watch stands
    rcases Option.map_eq_some_iff.mp stands with ⟨thread, found, waits⟩
    rw [World.Heeds, World.stage_of_some found, waits] at heeds
    rcases heeds with ⟨_, _, sees⟩ | ⟨_, signalled⟩
    · exact sees
    · rw [Wake.hasSignalled_of_eq signalled] at blocked
      cases blocked
  · cases blocked

/-- A task waits while one caller has pushed a packet and another has raised the
flag, and neither has signalled. -/
theorem Reachable.owes_between_push_and_signal :
    let steps (thread : ThreadId) (number : Nat) :=
      List.replicate number (Occurrence.step thread : Occurrence Unit)
    let opening : World Unit Unit Unit :=
      .new (.new ⟨1, "app"⟩ .standard (.alone none) ()) 3
    let world :=
      opening.follow .accepting
        ([.request 0 .spawn] ++ steps 0 1 ++ steps 3 3 ++
          [.request 1 (.submit (.packet 0 [1]))] ++ steps 1 3 ++
          [.request 2 .requestStop] ++ steps 2 1)
    world.isOnlyTask 3 = true ∧ world.isBlocked 3 = true ∧
      (world.shared.waiting .packets).length = 1 ∧
      world.shared.dispatcher.stopRequested = true ∧
      (∀ channel, world.Owes channel) ∧ world.OwesStop := by
  intro steps opening world
  have reachable : Reachable Client.accepting world :=
    Reachable.follow (.opening (.alone _ _ _ _)) (by decide +kernel)
  have only : world.isOnlyTask 3 = true := by decide +kernel
  have blocked : world.isBlocked 3 = true := by decide +kernel
  have owes := reachable.owes_of_isBlocked only blocked
  exact ⟨only, blocked, by decide +kernel, by decide +kernel, owes.1, owes.2⟩

end Switchboard
