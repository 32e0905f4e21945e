import Mathlib.Data.List.Nodup
import Switchboard.Proofs.Dealing
import Switchboard.Proofs.Moments
import Switchboard.Proofs.Order

/-!
# The books about streams

A stream that a callback has built is held by a thread, it stands in the
registry, a thread is about to stop it, or it was stopped.  For every stream
object there is a tally of these places.  Whatever happens moves the object from
one place to the next and loses none of it, so the books balance.  They also
tell for which descriptor a stream was built.
-/

namespace Switchboard

variable {σ κ ν : Type}

/-! ## What the journal tells about streams -/

/-- The stream that a callback has built, with its descriptor. -/
def Callback.built? (reply : Reply) : Callback → Option (Descriptor × Stream)
  | .createStream descriptor _ =>
      reply.stream.map fun stream => (descriptor, stream)
  | _ => none

namespace Happening

/-- The stream that a happening tells to have been built, with its
descriptor. -/
def built? : Happening ν → Option (Descriptor × Stream)
  | .returned callback reply => callback.built? reply
  | _ => none

/-- The stream that a happening tells to be stopped. -/
def stopped? : Happening ν → Option Stream
  | .called (.stopStream stream) => some stream
  | _ => none

theorem concernsStream_of_built? (happening : Happening ν)
    (told : happening.built? ≠ none) :
    happening.concernsStream = true := by
  cases happening with
  | returned callback reply =>
      cases callback with
      | createStream descriptor workers => rfl
      | _ => exact absurd rfl told
  | _ => exact absurd rfl told

theorem concernsStream_of_stopped? (happening : Happening ν)
    (told : happening.stopped? ≠ none) : happening.concernsStream = true := by
  simp only [stopped?] at told
  split at told
  · rfl
  · exact absurd rfl told

end Happening

namespace Shared

/-- The streams that were built so far, with their descriptors, newest first. -/
def buildings (shared : Shared σ ν) : List (Descriptor × Stream) :=
  shared.journal.filterMap Happening.built?

/-- The streams that were stopped so far, once for each call. -/
def stoppings (shared : Shared σ ν) : List Stream :=
  shared.journal.filterMap Happening.stopped?

/-- Whether no stream object was built twice. -/
def BuildsFresh (shared : Shared σ ν) : Prop :=
  (shared.buildings.map fun building => building.2.handle).Nodup

instance (shared : Shared σ ν) : Decidable shared.BuildsFresh :=
  inferInstanceAs (Decidable (List.Nodup _))

theorem SameStreams.buildings {before after : Shared σ ν}
    (same : before.SameStreams after) :
    after.buildings = before.buildings := by
  rw [Shared.buildings,
    ← Happening.filterMap_concerning Happening.concernsStream_of_built?,
    same.journal,
    Happening.filterMap_concerning Happening.concernsStream_of_built?,
    Shared.buildings]

theorem SameStreams.stoppings {before after : Shared σ ν}
    (same : before.SameStreams after) :
    after.stoppings = before.stoppings := by
  rw [Shared.stoppings,
    ← Happening.filterMap_concerning Happening.concernsStream_of_stopped?,
    same.journal,
    Happening.filterMap_concerning Happening.concernsStream_of_stopped?,
    Shared.stoppings]

/-- Of two buildings of one object both are the same. -/
theorem BuildsFresh.same {shared : Shared σ ν} (fresh : shared.BuildsFresh)
    {first second : Descriptor × Stream} (one : first ∈ shared.buildings)
    (other : second ∈ shared.buildings)
    (equal : first.2.handle = second.2.handle) :
    first = second :=
  List.inj_on_of_nodup_map fresh one other equal

end Shared

namespace Frame

/-- Whether a frame waits until a stream of the descriptor is stopped that has
lost the id. -/
def loses (descriptor : Descriptor) : Frame κ → Bool
  | .losing lost _ => lost = descriptor
  | _ => false

/-- Whether a frame waits until a stream of the id is stopped that was
removed. -/
def removes (id : UInt32) : Frame κ → Bool
  | .stopping descriptor => descriptor.id = id
  | _ => false

end Frame

namespace Control

/-- Whether a thread holds a stream object. -/
def holds (handle : Nat) (stack : List (Frame κ)) (control : Control) : Bool :=
  (control.holding? stack).any fun building => building.2.handle = handle

/-- Whether a thread is about to stop a stream object. -/
def retires (handle : Nat) (control : Control) : Bool :=
  control.retiring?.any fun stream => stream.handle = handle

theorem IsEmptyHanded.holds {stack : List (Frame κ)} {control : Control}
    (empty : control.IsEmptyHanded stack) (handle : Nat) :
    control.holds handle stack = false := by
  rw [Control.holds, empty.holding]
  rfl

theorem IsEmptyHanded.retires {stack : List (Frame κ)} {control : Control}
    (empty : control.IsEmptyHanded stack) (handle : Nat) :
    control.retires handle = false := by
  rw [Control.retires, empty.retiring]
  rfl

end Control

/-! ## Tallies -/

/-- How often a stream object was built, is held, stands in the registry, is
about to be stopped, and was stopped. -/
structure Tally where
  built : Nat
  held : Nat
  registered : Nat
  retiring : Nat
  stopped : Nat
  deriving DecidableEq

namespace Tally

/-- The tally is balanced: what was built has its place. -/
def IsBalanced (tally : Tally) : Prop :=
  tally.built = tally.held + tally.registered + tally.retiring + tally.stopped

/-- Of a balanced object that was built once there is one place where it is. -/
theorem IsBalanced.only {tally : Tally} (balanced : tally.IsBalanced)
    (once : tally.built = 1) : (0 < tally.held → tally = ⟨1, 1, 0, 0, 0⟩) ∧
      (0 < tally.registered → tally = ⟨1, 0, 1, 0, 0⟩) ∧
        (0 < tally.retiring → tally = ⟨1, 0, 0, 1, 0⟩) ∧
          (0 < tally.stopped → tally = ⟨1, 0, 0, 0, 1⟩) := by
  rcases tally with ⟨built, held, registered, retiring, stopped⟩
  simp only [IsBalanced, mk.injEq] at balanced once ⊢
  omega

/-- What moves from one place to the next between two tallies: some are built,
entered in the registry, lost because the id is taken, removed from the
registry, or stopped. -/
inductive Flows (before after : Tally) : Prop
  | intro (built entered lost removed stopped : Nat)
      (builds : after.built = before.built + built)
      (holds : after.held + entered + lost = before.held + built)
      (registers : after.registered + removed = before.registered + entered)
      (retires : after.retiring + stopped = before.retiring + lost + removed)
      (stops : after.stopped = before.stopped + stopped)

variable {before after final : Tally}

theorem Flows.refl (tally : Tally) : tally.Flows tally :=
  ⟨0, 0, 0, 0, 0, rfl, rfl, rfl, rfl, rfl⟩

theorem Flows.trans (former : before.Flows after) (latter : after.Flows final) :
    before.Flows final := by
  rcases former with
    ⟨built, entered, lost, removed, stopped, builds, holds, registers,
      retires, stops⟩
  rcases latter with
    ⟨built', entered', lost', removed', stopped', builds', holds', registers',
      retires', stops'⟩
  refine ⟨built + built', entered + entered', lost + lost', removed + removed',
    stopped + stopped', ?_, ?_, ?_, ?_, ?_⟩
  all_goals omega

theorem Flows.isBalanced (flows : before.Flows after)
    (balanced : before.IsBalanced) :
    after.IsBalanced := by
  rcases flows with
    ⟨built, entered, lost, removed, stopped, builds, holds, registers,
      retires, stops⟩
  simp only [IsBalanced] at balanced ⊢
  omega

/-- What is retired stays retired. -/
theorem Flows.retired (flows : before.Flows after) :
    before.retiring + before.stopped ≤ after.retiring + after.stopped := by
  rcases flows with
    ⟨built, entered, lost, removed, stopped, builds, holds, registers,
      retires, stops⟩
  omega

/-- What has left the hands of its creation does not come back. -/
theorem Flows.settled (flows : before.Flows after) :
    before.registered + before.retiring + before.stopped ≤
      after.registered + after.retiring + after.stopped := by
  rcases flows with
    ⟨built, entered, lost, removed, stopped, builds, holds, registers,
      retires, stops⟩
  omega

end Tally

/-- The tally of a stream object, given how many threads hold it and how many
are about to stop it. -/
def Shared.streamTally (shared : Shared σ ν) (handle held retiring : Nat) :
    Tally where
  built := shared.buildings.countP fun building => building.2.handle = handle
  held := held
  registered := shared.registry.values.countP fun stream =>
    stream.handle = handle
  retiring := retiring
  stopped := shared.stoppings.countP fun stream => stream.handle = handle

/-- The tally of a stream object as far as one thread knows. -/
def Turn.streamTally (turn : Turn σ κ ν) (handle : Nat) : Tally :=
  turn.shared.streamTally handle (turn.control.holds handle turn.stack).toNat
    (turn.control.retires handle).toNat

/-- The tally of a stream object. -/
def World.streamTally (world : World σ κ ν) (handle : Nat) : Tally :=
  world.shared.streamTally handle
    (world.threads.countP
      fun thread => thread.control.holds handle thread.stack)
    (world.threads.countP fun thread => thread.control.retires handle)

/-! ## What a move does to a tally -/

/-- One that may count, as `List.countP` has it. -/
theorem toNat_eq_ite (counts : Bool) :
    counts.toNat = if counts = true then 1 else 0 := by
  cases counts <;> rfl

/-- Client code has moved that works on a callback: all that it may have built
is in its hands. -/
structure Turn.Builds (shared : Shared σ ν) (turn : Turn σ κ ν) : Prop where
  registry : turn.shared.registry = shared.registry
  buildings :
    turn.shared.buildings = (turn.control.holding? turn.stack).toList ++
      shared.buildings
  stoppings : turn.shared.stoppings = shared.stoppings
  retiring : turn.control.retiring? = none

/-- The stream that a reply carries is held where a creation waits for it, and
it was built there. -/
theorem Control.holding?_reply {stack : List (Frame κ)} {callback : Callback}
    (fits : (Expected.reply callback).Fits stack) (reply : Reply) :
    (Control.reply reply).holding? stack = callback.built? reply := by
  cases stack with
  | nil => exact fits.elim
  | cons frame below =>
      have awaits := (Expected.reply_fits_cons_iff.mp fits).1
      cases frame with
      | creating descriptor =>
          cases callback with
          | createStream built workers =>
              cases (show built = descriptor from awaits)
              rfl
          | _ => exact awaits.elim
      | _ =>
          cases callback with
          | createStream built workers => exact awaits.elim
          | _ => rfl

theorem Shared.clientMove_builds (shared : Shared σ ν) {stack : List (Frame κ)}
    {callback : Callback} (turn : ClientTurn σ κ ν)
    (fits : (Expected.reply callback).Fits stack) :
    (shared.clientMove stack (some callback) turn).Builds shared := by
  have noted := shared.noting_sameStreams turn
  have buildings : (shared.noting turn).buildings = shared.buildings :=
    noted.buildings
  have stoppings : (shared.noting turn).stoppings = shared.stoppings :=
    noted.stoppings
  refine shared.clientMove_cases stack callback turn (motive :=
    fun turn => turn.Builds shared)
    ?_ ?_ ?_
  · intro request next
    exact ⟨rfl, buildings, stoppings, rfl⟩
  · intro reply
    refine ⟨rfl, ?_, stoppings, rfl⟩
    simp only [Turn.pass]
    rw [Control.holding?_reply fits reply, ← buildings]
    simp only [Shared.buildings, record, List.filterMap_cons, Happening.built?]
    cases callback.built? reply <;> rfl
  · intro payload
    exact ⟨rfl, buildings, stoppings, rfl⟩

namespace Turn

variable {shared : Shared σ ν} {turn : Turn σ κ ν}

/-- A thread that has nothing to do with streams changes no tally. -/
theorem LeavesStreams.streamTally (leaves : turn.LeavesStreams shared)
    (handle : Nat) :
    turn.streamTally handle = shared.streamTally handle 0 0 := by
  simp only [Turn.streamTally, Shared.streamTally, leaves.hands.holds,
    leaves.hands.retires, leaves.same.registry, leaves.same.buildings,
    leaves.same.stoppings, Bool.toNat_false]

/-- What client code has built is added to the tally and held. -/
theorem Builds.flows (builds : turn.Builds shared) (handle : Nat) :
    (shared.streamTally handle 0 0).Flows (turn.streamTally handle) := by
  have held : (turn.control.holding? turn.stack).toList.countP
      (fun building => building.2.handle = handle) =
        (turn.control.holds handle turn.stack).toNat := by
    rw [Control.holds]
    cases turn.control.holding? turn.stack with
    | none => rfl
    | some building => simp [List.countP_singleton, toNat_eq_ite]
  refine ⟨(turn.control.holds handle turn.stack).toNat, 0, 0, 0, 0, ?_,
    ?_, ?_, ?_, ?_⟩
  · simp only [Turn.streamTally, Shared.streamTally, builds.buildings,
      List.countP_append, held]
    exact Nat.add_comm _ _
  · exact (Nat.zero_add _).symm
  · simp only [Turn.streamTally, Shared.streamTally, builds.registry]
  · simp only [Turn.streamTally, Shared.streamTally, Control.retires,
      builds.retiring]
    rfl
  · simp only [Turn.streamTally, Shared.streamTally, builds.stoppings]
    rfl

end Turn

namespace Shared

variable {shared : Shared σ ν}

/-- A new entry of the registry is counted. -/
theorem countP_insert {registry : Registry} {id : UInt32}
    (free : registry.find? id = none) (stream : Stream) (handle : Nat) :
    (Table.insert registry id stream).values.countP
    (fun stream => stream.handle = handle) =
      registry.values.countP (fun stream => stream.handle = handle) +
        (decide (stream.handle = handle)).toNat := by
  rw [Table.values_insert free, List.countP_append, List.countP_singleton]
  rw [toNat_eq_ite]

/-- A removed entry of the registry was counted. -/
theorem countP_erase {registry : Registry} {id : UInt32} {stream : Stream}
    (taken : registry.find? id = some stream) (handle : Nat) :
    (registry.erase id).values.countP (fun stream => stream.handle = handle) +
        (decide (stream.handle = handle)).toNat =
      registry.values.countP (fun stream => stream.handle = handle) := by
  rw [(Table.values_perm_erase taken).countP_eq, List.countP_cons]
  rw [toNat_eq_ite]

/-- A stream that is inserted goes from the hands of the thread into the
registry, or it has lost the id and is to be stopped. -/
theorem insert_flows (stack : List (Frame κ)) (descriptor : Descriptor)
    (stream : Stream) (handle : Nat) :
    (shared.streamTally handle (decide (stream.handle = handle)).toNat 0).Flows
      ((shared.insert stack descriptor stream).streamTally handle) := by
  simp only [insert]
  split
  · exact ⟨0, 0, (decide (stream.handle = handle)).toNat, 0, 0, rfl,
      Nat.zero_add _, rfl, (Nat.zero_add _).symm, rfl⟩
  · rename_i registry entered
    obtain ⟨free, rfl⟩ := Registry.register_eq_ok_iff.mp entered
    exact ⟨0, (decide (stream.handle = handle)).toNat, 0, 0, 0, rfl,
      Nat.zero_add _, countP_insert free stream handle, rfl, rfl⟩

/-- A stream that is removed goes from the registry into the hands of the thread
that is to stop it. -/
theorem remove_flows (stack : List (Frame κ)) (descriptor : Descriptor)
    (stream : Stream) (handle : Nat) :
    (shared.streamTally handle 0 0).Flows
      ((shared.remove stack descriptor stream).streamTally handle) := by
  simp only [remove]
  split
  · exact .refl _
  · rename_i removed registry left
    obtain ⟨taken, same, rfl⟩ := Registry.unregisterEntry_eq_ok_iff.mp left
    have erased := countP_erase taken handle
    rw [same] at erased
    exact ⟨0, 0, 0, (decide (stream.handle = handle)).toNat, 0, rfl,
      rfl, erased, (Nat.zero_add _).symm, rfl⟩

end Shared

/-- What a move of a thread changes in the tally of a stream object. -/
theorem Deals.flows {client : Client σ κ ν} {shared : Shared σ ν}
    {stack : List (Frame κ)} {control : Control} {turn : Turn σ κ ν}
    (deals : Deals client shared stack control turn)
    (hosted : shared.host.isAlone = false) (handle : Nat) :
    (shared.streamTally handle (control.holds handle stack).toNat
      (control.retires handle).toNat).Flows (turn.streamTally handle) := by
  cases deals with
  | aside before leaves =>
      rw [leaves.streamTally, before.holds, before.retires]
      exact .refl _
  | @calls stack callback fits =>
      have builds := (shared.record (.called callback)).clientMove_builds
        (client.begin callback shared.client) fits
      -- A stream whose stop is called is not retiring any more, but stopped.
      have stops : (shared.streamTally handle 0
          ((Control.run (.call callback)).retires handle).toNat).Flows
          ((shared.record (.called callback)).streamTally handle 0 0) := by
        refine ⟨0, 0, 0, 0,
          ((Control.run (.call callback)).retires handle).toNat, rfl, rfl, rfl,
          Nat.zero_add _, ?_⟩
        cases callback with
        | stopStream stream =>
            have told :
                (shared.record (.called (.stopStream stream))).stoppings =
                stream :: shared.stoppings := rfl
            simp only [Shared.streamTally, told, List.countP_cons,
              Control.retires, Control.retiring?, Option.any_some, toNat_eq_ite]
        | _ => rfl
      exact stops.trans (builds.flows handle)
  | resumes state response before fits =>
      have builds :=
        shared.clientMove_builds
          (client.resume state response shared.client) fits
      rw [before.holds, before.retires]
      exact builds.flows handle
  | takes stack descriptor reply =>
      have same : (shared.streamTally handle
          ((Control.reply reply).holds handle
            (Frame.creating descriptor :: stack)).toNat
          ((Control.reply reply).retires handle).toNat) =
            (shared.built stack descriptor reply.stream).streamTally
              handle := by
        simp only [Control.holds, Control.holding?]
        cases reply.stream <;> rfl
      rw [same]
      exact .refl _
  | inserts stack descriptor stream =>
      exact Shared.insert_flows stack descriptor stream handle
  | removes stack descriptor stream =>
      exact Shared.remove_flows stack descriptor stream handle
  | registers alone | unregisters alone =>
      rw [alone] at hosted
      cases hosted

/-! ## What happens to a world -/

namespace Thread

/-- A thread with no stream in its hands. -/
def IsEmptyHanded (thread : Thread κ) : Prop :=
  thread.control.IsEmptyHanded thread.stack

theorem isEmptyHanded_of_isFree {thread : Thread κ}
    (free : thread.isFree = true) :
    thread.IsEmptyHanded := by
  have empty := stack_of_isFree free
  simp only [isFree] at free
  rw [Bool.and_eq_true] at free
  have idle := (isSome_ending?_iff.mp free.2).2
  rcases thread with ⟨role, stack, control⟩
  cases empty
  cases control with
  | run instruction => exact absurd rfl (idle instruction)
  | _ => exact ⟨rfl, rfl⟩

/-- Whoever waits where a call may be given up has no stream in its hands. -/
theorem isEmptyHanded_of_canBeAbandoned {thread : Thread κ}
    {instruction : Instruction} (runs : thread.control = .run instruction)
    (waits : instruction.canBeAbandoned = true) :
    thread.IsEmptyHanded := by
  rw [IsEmptyHanded, runs]
  cases instruction with
  | start | stop | join | awaitTask => exact ⟨rfl, rfl⟩
  | _ => cases waits

/-- Whoever waits where a task may be cancelled has no stream in its hands. -/
theorem isEmptyHanded_of_canBeCancelled {thread : Thread κ}
    {instruction : Instruction} (runs : thread.control = .run instruction)
    (waits : instruction.canBeCancelled = true) :
    thread.IsEmptyHanded := by
  rw [IsEmptyHanded, runs]
  cases instruction with
  | begin | parked => exact ⟨rfl, rfl⟩
  | _ => cases waits

end Thread

/-- Whoever has a stream in its hands goes on by itself. -/
theorem Thread.Changes.of_hands {client : Client σ κ ν} {world : World σ κ ν}
    {self : ThreadId} {thread later : Thread κ} {occurrence : Occurrence κ}
    (changes : thread.Changes client world self occurrence later)
    (full : ¬ thread.IsEmptyHanded) :
    later = thread ∨ occurrence = .step self := by
  cases changes with
  | stays => exact .inl rfl
  | moves => exact .inr rfl
  | asked request free => exact absurd (isEmptyHanded_of_isFree free) full
  | handed code free => exact absurd (isEmptyHanded_of_isFree free) full
  | abandoned runs waits =>
      exact absurd (isEmptyHanded_of_canBeAbandoned runs waits) full
  | cancelled _ runs waits =>
      exact absurd (isEmptyHanded_of_canBeCancelled runs waits) full

/-- How many threads are of a kind once one of them has changed. -/
theorem countP_set_add {threads : List (Thread κ)} {self : ThreadId}
    {thread : Thread κ} (found : threads[self]? = some thread)
    (changed : Thread κ) (kind : Thread κ → Bool) :
    (threads.set self changed).countP kind + (kind thread).toNat =
      threads.countP kind + (kind changed).toNat := by
  induction threads generalizing self with
  | nil => cases found
  | cons first rest inductionHypothesis =>
      cases self with
      | zero =>
          cases Option.some.inj found
          rw [List.set_cons_zero, List.countP_cons, List.countP_cons]
          cases kind thread <;> cases kind changed <;> rfl
      | succ self =>
          have others := inductionHypothesis found
          rw [List.set_cons_succ, List.countP_cons, List.countP_cons]
          omega

/-- Of a kind of which there is one thread only there are no two. -/
theorem eq_of_countP_eq_one {threads : List (Thread κ)} {kind : Thread κ → Bool}
    (one : threads.countP kind = 1) {first second : ThreadId}
    {thread other : Thread κ} (found : threads[first]? = some thread)
    (isOfKind : kind thread = true) (found' : threads[second]? = some other)
    (isOfKind' : kind other = true) :
    first = second := by
  have none {rest : List (Thread κ)} {kind : Thread κ → Bool} {place : ThreadId}
      {thread : Thread κ} (zero : rest.countP kind = 0)
      (found : rest[place]? = some thread) (isOfKind : kind thread = true) :
      False :=
    absurd isOfKind
      (List.countP_eq_zero.mp zero thread (List.mem_of_getElem? found))
  induction threads generalizing first second with
  | nil => cases found
  | cons head rest inductionHypothesis =>
      rw [List.countP_cons] at one
      cases first with
      | zero =>
          cases Option.some.inj found
          rw [if_pos isOfKind] at one
          cases second with
          | zero => rfl
          | succ second => exact (none (Nat.succ.inj one) found' isOfKind').elim
      | succ first =>
          cases second with
          | zero =>
              cases Option.some.inj found'
              rw [if_pos isOfKind'] at one
              exact (none (Nat.succ.inj one) found isOfKind).elim
          | succ second =>
              cases head' : kind head with
              | true =>
                  rw [if_pos head'] at one
                  exact (none (Nat.succ.inj one) found isOfKind).elim
              | false =>
                  rw [if_neg (by rw [head']; exact Bool.false_ne_true)] at one
                  exact congrArg Nat.succ (inductionHypothesis one found found')

namespace World

/-- The hands of all threads but one, in the tally of a stream object. -/
theorem streamTally_set {threads : List (Thread κ)} {self : ThreadId}
    {thread : Thread κ} (found : threads[self]? = some thread) (handle : Nat)
    (before after : Shared σ ν) (changed : Thread κ)
    (flows : (before.streamTally handle
      (thread.control.holds handle thread.stack).toNat
      (thread.control.retires handle).toNat).Flows
        (after.streamTally handle
          (changed.control.holds handle changed.stack).toNat
          (changed.control.retires handle).toNat)) :
    (streamTally ⟨before, threads⟩ handle).Flows
      (streamTally ⟨after, threads.set self changed⟩ handle) := by
  have held := countP_set_add found changed fun thread =>
    thread.control.holds handle thread.stack
  have retiring := countP_set_add found changed fun thread =>
    thread.control.retires handle
  rcases flows with
    ⟨built, entered, lost, removed, stopped, builds, holds, registers,
      retires, stops⟩
  simp only [Shared.streamTally] at builds holds registers retires stops
  refine ⟨built, entered, lost, removed, stopped, ?_, ?_, ?_, ?_, ?_⟩
  all_goals
    simp only [streamTally, Shared.streamTally]
    omega

variable {client : Client σ κ ν} {world next : World σ κ ν}
  {occurrence : Occurrence κ}

/-- What an occurrence changes in the tally of a stream object. -/
theorem Becomes.flows (becomes : Becomes client world occurrence next)
    (fits : ∀ thread ∈ world.threads, thread.Fits)
    (hosted : world.shared.host.isAlone = false) (handle : Nat) :
    (world.streamTally handle).Flows (next.streamTally handle) := by
  have put {self : ThreadId} {thread changed : Thread κ} {after : Shared σ ν}
      (found : world.threads[self]? = some thread)
      (empty : thread.IsEmptyHanded) (empty' : changed.IsEmptyHanded)
      (same : world.shared.SameStreams after) : (world.streamTally handle).Flows
        (streamTally ⟨after, world.threads.set self changed⟩ handle) := by
    refine streamTally_set found handle world.shared after changed ?_
    rw [empty.holds, empty.retires, empty'.holds, empty'.retires]
    have equal :
        after.streamTally handle 0 0 = world.shared.streamTally handle 0 0 := by
      simp only [Shared.streamTally, same.registry, same.buildings,
        same.stoppings]
    simp only [Bool.toNat_false, equal]
    exact .refl _
  cases becomes with
  | same | waited => exact .refl _
  | @moved self thread found =>
      have fits := fits _ (List.mem_of_getElem? found)
      have deals :=
        world.shared.move_deals client (world.surroundings self) fits
      -- A task that is spawned in the turn has nothing in its hands.
      have spawned (turn : Turn σ κ ν) :
          (world.afterTurn self thread.role turn).streamTally handle =
            streamTally
              ⟨turn.shared,
                world.threads.set self ⟨thread.role, turn.stack, turn.control⟩⟩
              handle := by
        cases turn with
        | mk shared stack control spawned =>
            cases spawned with
            | false =>
                simp only [afterTurn, Bool.false_eq_true, if_false,
                  List.append_nil]
            | true =>
                simp only [streamTally, afterTurn, if_true, List.countP_append,
                  List.countP_singleton]
                rfl
      rw [spawned]
      exact streamTally_set found handle world.shared _ _
        (deals.flows hosted handle)
  | asked request found free =>
      exact put found (Thread.isEmptyHanded_of_isFree free) ⟨rfl, rfl⟩
        ⟨rfl, rfl, id⟩
  | handed code found free =>
      exact put found (Thread.isEmptyHanded_of_isFree free) ⟨rfl, rfl⟩
        ⟨rfl, rfl, id⟩
  | abandoned found waits which =>
      refine put found
        (Thread.isEmptyHanded_of_canBeAbandoned waits ?_) ⟨rfl, rfl⟩
        ⟨rfl, rfl, id⟩
      obtain rfl | rfl | ⟨task, rfl⟩ := which <;> rfl
  | stopAbandoned found waits =>
      exact put found
        (Thread.isEmptyHanded_of_canBeAbandoned waits rfl) ⟨rfl, rfl⟩
        (world.shared.updateApplication_sameStreams _)
  | cancelledFirst found => exact put found ⟨rfl, rfl⟩ ⟨rfl, rfl⟩ ⟨rfl, rfl, id⟩
  | cancelledParked found =>
      exact put found ⟨rfl, rfl⟩ ⟨rfl, rfl⟩ ⟨rfl, rfl, id⟩

/-- What a run changes in the tally of a stream object. -/
theorem follow_flows {run : List (Occurrence κ)}
    (reachable : Reachable client world)
    (allowed : world.allowsAll client run = true)
    (hosted : (world.follow client run).shared.host.isAlone = false)
    (handle : Nat) :
    world.shared.host.isAlone = false ∧
      (world.streamTally handle).Flows
      ((world.follow client run).streamTally handle) := by
  induction run generalizing world with
  | nil => exact ⟨hosted, .refl _⟩
  | cons occurrence rest inductionHypothesis =>
      rw [allowsAll, Bool.and_eq_true] at allowed
      have becomes := after_becomes client allowed.1
      rcases inductionHypothesis
        (reachable.occur occurrence allowed.1) allowed.2 hosted with
        ⟨hosted', flows⟩
      have hosted := becomes.hosted reachable.fits hosted'
      exact ⟨hosted, (becomes.flows reachable.fits hosted handle).trans flows⟩

end World

/-! ## Who is who -/

/-- Where a move has left the thread, every stream in its hands was built, and
one that it is to stop has lost its id or was removed from it. -/
structure IsAttributed (buildings : List (Descriptor × Stream))
    (stack : List (Frame κ)) (control : Control) : Prop where
  holding : ∀ building, control.holding? stack = some building →
    building ∈ buildings
  retiring : ∀ stream, control.retiring? = some stream →
    ∃ building ∈ buildings, building.2.handle = stream.handle ∧
      (stack.head?.any (Frame.loses building.1) = true ∨
        stack.head?.any (Frame.removes building.1.id) = true)

/-- Every stream in the registry was built for its id. -/
def Shared.EntersBuilt (shared : Shared σ ν) : Prop :=
  ∀ id stream, shared.registry.find? id = some stream →
    ∃ descriptor, (descriptor, stream) ∈ shared.buildings ∧ descriptor.id = id

theorem Control.IsEmptyHanded.isAttributed {stack : List (Frame κ)}
    {control : Control} (empty : control.IsEmptyHanded stack)
    (buildings : List (Descriptor × Stream)) :
    IsAttributed buildings stack control where
  holding building held := by
    rw [empty.holding] at held
    cases held
  retiring stream held := by
    rw [empty.retiring] at held
    cases held

theorem IsAttributed.mono {buildings more : List (Descriptor × Stream)}
    {stack : List (Frame κ)} {control : Control}
    (attributed : IsAttributed buildings stack control)
    (larger : buildings ⊆ more) :
    IsAttributed more stack control where
  holding building held := larger (attributed.holding building held)
  retiring stream held := by
    rcases attributed.retiring stream held with ⟨building, member, same, waits⟩
    exact ⟨building, larger member, same, waits⟩

namespace Shared

variable {shared : Shared σ ν}

theorem SameStreams.entersBuilt {after : Shared σ ν}
    (same : shared.SameStreams after) (enters : shared.EntersBuilt) :
    after.EntersBuilt := by
  intro id stream found
  rw [same.registry] at found
  rw [same.buildings]
  exact enters id stream found

/-- What client code has built is in its hands. -/
theorem EntersBuilt.builds {turn : Turn σ κ ν} (enters : shared.EntersBuilt)
    (builds : turn.Builds shared) :
    turn.shared.EntersBuilt ∧
      IsAttributed turn.shared.buildings turn.stack turn.control := by
  refine ⟨fun id stream found => ?_,
    ⟨fun building held => ?_, fun stream held => ?_⟩⟩
  · rw [builds.registry] at found
    rcases enters id stream found with ⟨descriptor, built, same⟩
    refine ⟨descriptor, ?_, same⟩
    rw [builds.buildings]
    exact List.mem_append_right _ built
  · rw [builds.buildings, held]
    exact List.mem_cons_self
  · rw [builds.retiring] at held
    cases held

theorem EntersBuilt.insert (enters : shared.EntersBuilt)
    (stack : List (Frame κ)) {descriptor : Descriptor} {stream : Stream}
    (built : (descriptor, stream) ∈ shared.buildings) :
    let turn := shared.insert stack descriptor stream
    turn.shared.EntersBuilt ∧
      IsAttributed turn.shared.buildings turn.stack turn.control := by
  simp only [Shared.insert]
  split
  · refine ⟨enters, ⟨fun building held => (by cases held), fun lost held => ?_⟩⟩
    cases held
    exact ⟨_, built, rfl, .inl (decide_eq_true rfl)⟩
  · rename_i registry entered
    obtain ⟨_, rfl⟩ := Registry.register_eq_ok_iff.mp entered
    refine ⟨fun id current found => ?_,
      Control.IsEmptyHanded.isAttributed ⟨rfl, rfl⟩ _⟩
    change (Table.insert shared.registry descriptor.id stream).find? id =
      some current at found
    by_cases same : id = descriptor.id
    · subst same
      rw [Table.find?_insert_self] at found
      cases found
      exact ⟨descriptor, built, rfl⟩
    · rw [Table.find?_insert_of_ne _ _ same] at found
      exact enters id current found

theorem EntersBuilt.remove (enters : shared.EntersBuilt)
    (stack : List (Frame κ)) (descriptor : Descriptor) (stream : Stream) :
    let turn := shared.remove stack descriptor stream
    turn.shared.EntersBuilt ∧
      IsAttributed turn.shared.buildings turn.stack turn.control := by
  simp only [Shared.remove]
  split
  · exact ⟨enters, Control.IsEmptyHanded.isAttributed ⟨rfl, rfl⟩ _⟩
  · rename_i removed registry left
    obtain ⟨taken, same, rfl⟩ := Registry.unregisterEntry_eq_ok_iff.mp left
    rcases enters _ _ taken with ⟨owner, built, id⟩
    refine ⟨fun id current found => ?_,
      ⟨fun building held => (by cases held), fun stopped held => ?_⟩⟩
    · change (shared.registry.erase descriptor.id).find? id =
        some current at found
      by_cases same : id = descriptor.id
      · subst same
        rw [Table.find?_erase_self] at found
        cases found
      · rw [Table.find?_erase_of_ne _ same] at found
        exact enters id current found
    · cases held
      exact ⟨_, built, same, .inr (decide_eq_true id.symm)⟩

end Shared

/-- A move keeps to what was built. -/
theorem Deals.isAttributed {client : Client σ κ ν} {shared : Shared σ ν}
    {stack : List (Frame κ)} {control : Control} {turn : Turn σ κ ν}
    (deals : Deals client shared stack control turn)
    (hosted : shared.host.isAlone = false) (enters : shared.EntersBuilt)
    (attributed : IsAttributed shared.buildings stack control) :
    turn.shared.EntersBuilt ∧
      IsAttributed turn.shared.buildings turn.stack turn.control := by
  cases deals with
  | aside before leaves =>
      exact ⟨leaves.same.entersBuilt enters, leaves.hands.isAttributed _⟩
  | @calls stack callback fits =>
      have called : (shared.record (.called callback)).EntersBuilt := enters
      exact called.builds (Shared.clientMove_builds _ _ fits)
  | resumes state response before fits =>
      exact enters.builds (shared.clientMove_builds _ fits)
  | takes stack descriptor reply =>
      cases built : reply.stream with
      | none => exact ⟨enters, Control.IsEmptyHanded.isAttributed ⟨rfl, rfl⟩ _⟩
      | some stream =>
          refine ⟨enters,
            ⟨fun building held => ?_, fun stream held => (by cases held)⟩⟩
          apply attributed.holding
          simp only [Control.holding?, built]
          exact held
  | inserts stack descriptor stream =>
      exact enters.insert stack (attributed.holding _ rfl)
  | removes stack descriptor stream =>
      exact enters.remove stack descriptor stream
  | registers alone | unregisters alone =>
      rw [alone] at hosted
      cases hosted

section

variable {client : Client σ κ ν} {world next : World σ κ ν}
  {occurrence : Occurrence κ}

/-- Nothing that was built is forgotten. -/
theorem World.Becomes.buildings
    (becomes : World.Becomes client world occurrence next) :
    world.shared.buildings ⊆ next.shared.buildings :=
  (becomes.journal.sublist.filterMap _).subset

theorem World.Becomes.entersBuilt
    (becomes : World.Becomes client world occurrence next)
    (fits : ∀ thread ∈ world.threads, thread.Fits)
    (hosted : world.shared.host.isAlone = false)
    (enters : world.shared.EntersBuilt) (attributed : ∀ thread ∈ world.threads,
      IsAttributed world.shared.buildings thread.stack thread.control) :
    next.shared.EntersBuilt := by
  rcases becomes.sameStreams with same | ⟨self, thread, _, found, moved⟩
  · exact same.entersBuilt enters
  · have member := List.mem_of_getElem? found
    rw [moved]
    exact ((world.shared.move_deals client (world.surroundings self)
      (fits thread member)).isAttributed hosted enters
      (attributed thread member)).1

end

/-- The books of a world about its streams. -/
structure World.IsAccounted (world : World σ κ ν) : Prop where
  balanced : ∀ handle, (world.streamTally handle).IsBalanced
  enters : world.shared.EntersBuilt
  attributed : ∀ thread ∈ world.threads,
    IsAttributed world.shared.buildings thread.stack thread.control

/-- In every world that belongs to an application the books are in order. -/
theorem Reachable.isAccounted {client : Client σ κ ν} {world : World σ κ ν}
    (reachable : Reachable client world)
    (hosted : world.shared.host.isAlone = false) :
    world.IsAccounted := by
  induction reachable with
  | opening opening =>
      cases opening with
      | application | alone =>
          refine ⟨fun handle => ?_, fun id stream found => ?_,
            fun thread member => ?_⟩
          · simp only [World.streamTally, World.new, List.countP_replicate]
            rfl
          · cases found
          · rw [List.eq_of_mem_replicate member]
            exact Control.IsEmptyHanded.isAttributed ⟨rfl, rfl⟩ _
  | @occur world occurrence reached allowed inductionHypothesis =>
      have becomes := World.after_becomes client allowed
      have hosted' := becomes.hosted reached.fits hosted
      rcases inductionHypothesis hosted' with ⟨balanced, enters, attributed⟩
      refine ⟨fun handle =>
        (becomes.flows reached.fits hosted' handle).isBalanced
        (balanced handle), ?_, ?_⟩
      · exact becomes.entersBuilt reached.fits hosted' enters attributed
      · refine becomes.forall_threads
          (fun thread member => (attributed thread member).mono
          becomes.buildings) ?_ ?_ ?_ ?_ ?_ ?_
        · intro self thread steps found _
          subst steps
          have member := List.mem_of_getElem? found
          have moved :=
            (world.shared.move_deals client (world.surroundings self)
            (reached.fits thread member)).isAttributed hosted' enters
            (attributed thread member)
          change IsAttributed (world.step client self).shared.buildings _ _
          rw [(World.step_self client found).1]
          exact moved.2
        · exact Control.IsEmptyHanded.isAttributed ⟨rfl, rfl⟩ _
        · exact fun thread request free =>
            Control.IsEmptyHanded.isAttributed ⟨rfl, rfl⟩ _
        · exact fun thread code free =>
            Control.IsEmptyHanded.isAttributed ⟨rfl, rfl⟩ _
        · exact fun thread instruction runs which waits =>
            Control.IsEmptyHanded.isAttributed ⟨rfl, rfl⟩ _
        · exact Control.IsEmptyHanded.isAttributed ⟨rfl, rfl⟩ _

end Switchboard
