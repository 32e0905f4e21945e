import Switchboard.Proofs.Dealing
import Switchboard.Proofs.Moments
import Switchboard.Proofs.Order

/-!
# What happens to an id

The journal tells which streams were registered under an id and which were
removed from it.  Registrations and removals take turns, and what stands under
the id is the stream that was registered last, if no removal followed.  Only
four steps of a thread change what stands there, and each of them tells so.
-/

namespace Switchboard

variable {σ κ ν : Type}

/-- What happens to an id: a stream is registered under it, or removed from
it. -/
inductive Change where
  | entered (stream : Stream)
  | left (stream : Stream)
  deriving DecidableEq

/-- Registrations and removals take turns, a registration first, and every
removal takes what was registered last.  The changes are listed with the newest
first; the stream is the one that stands after them. -/
inductive TakeTurns : Option Stream → List Change → Prop
  | nothing : TakeTurns none []
  | enters {changes : List Change} (stream : Stream)
      (before : TakeTurns none changes) :
      TakeTurns (some stream) (.entered stream :: changes)
  | leaves {changes : List Change} {stream : Stream}
      (before : TakeTurns (some stream) changes) :
      TakeTurns none (.left stream :: changes)

/-- What stands under an id after a change. -/
def Change.standing? : Change → Option Stream
  | .entered stream => some stream
  | .left _ => none

/-- What stands was registered by the last change. -/
theorem TakeTurns.eq_head {standing : Option Stream} {changes : List Change}
    (turns : TakeTurns standing changes) :
    standing = changes.head?.bind Change.standing? := by
  cases turns <;> rfl

/-- The change of an id of which a happening tells. -/
def Happening.change? (id : UInt32) : Happening ν → Option Change
  | .noticed (.streamRegistered changed stream _) =>
      if changed = id then some (.entered stream) else none
  | .noticed (.streamUnregistered changed stream _) =>
      if changed = id then some (.left stream) else none
  | _ => none

theorem Happening.concernsStream_of_change? (id : UInt32)
    (happening : Happening ν) (told : happening.change? id ≠ none) :
    happening.concernsStream = true := by
  simp only [change?] at told
  split at told
  · rfl
  · rfl
  · exact absurd rfl told

namespace Control

/-- The id under which a thread is about to register a stream. -/
def entering? : Control → Option (UInt32 × Stream)
  | .run (.insert descriptor stream) => some (descriptor.id, stream)
  | .run (.perform (.register id stream)) => some (id, stream)
  | _ => none

/-- The id from which a thread is about to remove a stream. -/
def leaving? : Control → Option UInt32
  | .run (.remove descriptor _) => some descriptor.id
  | .run (.perform (.unregister id)) => some id
  | _ => none

/-- Whether a thread is about to make a change, if there is one. -/
def Makes (id : UInt32) (control : Control) : Option Change → Prop
  | none => True
  | some (.entered stream) => control.entering? = some (id, stream)
  | some (.left _) => control.leaving? = some id

end Control

namespace Shared

/-- What has happened to an id so far, newest first. -/
def changes (shared : Shared σ ν) (id : UInt32) : List Change :=
  shared.journal.filterMap (Happening.change? id)

/-- What stands under an id, and what has happened to it, before and after a
change, or where there is none. -/
inductive Alters (id : UInt32) (before after : Shared σ ν) :
    Option Change → Prop
  | keeps (registry : after.registry.find? id = before.registry.find? id)
      (journal : after.changes id = before.changes id) :
      Alters id before after none
  | enters {stream : Stream} (free : before.registry.find? id = none)
      (stands : after.registry.find? id = some stream)
      (journal : after.changes id = .entered stream :: before.changes id) :
      Alters id before after (some (.entered stream))
  | leaves {stream : Stream} (stands : before.registry.find? id = some stream)
      (free : after.registry.find? id = none)
      (journal : after.changes id = .left stream :: before.changes id) :
      Alters id before after (some (.left stream))

variable {shared before after : Shared σ ν} {id : UInt32}
  {change : Option Change}

/-- A change comes in its turn. -/
theorem Alters.takeTurns (alters : before.Alters id after change)
    (turns : TakeTurns (before.registry.find? id) (before.changes id)) :
    TakeTurns (after.registry.find? id) (after.changes id) := by
  cases alters with
  | keeps registry journal =>
      rw [registry, journal]
      exact turns
  | enters free stands journal =>
      rw [stands, journal]
      rw [free] at turns
      exact .enters _ turns
  | leaves stands free journal =>
      rw [free, journal]
      rw [stands] at turns
      exact .leaves turns

theorem SameStreams.alters (same : before.SameStreams after) (id : UInt32) :
    before.Alters id after none := by
  refine .keeps (by rw [same.registry]) ?_
  rw [Shared.changes,
    ← Happening.filterMap_concerning (Happening.concernsStream_of_change? id),
    same.journal,
    Happening.filterMap_concerning (Happening.concernsStream_of_change? id),
    Shared.changes]

/-! ## The steps that change it -/

theorem changes_record (shared : Shared σ ν) (happening : Happening ν)
    (id : UInt32) : (shared.record happening).changes id =
      (happening.change? id).toList ++ shared.changes id := by
  simp only [changes, record, List.filterMap_cons]
  cases happening.change? id <;> rfl

/-- A stream is registered under a free id. -/
theorem alters_of_entered {entered : UInt32} (stream : Stream) (size : Nat)
    (free : shared.registry.find? entered = none) (id : UInt32) :
    shared.Alters id
      (({ shared with
          registry := Table.insert shared.registry entered stream }).notice
        (.streamRegistered entered stream size))
      (if entered = id then some (.entered stream) else none) := by
  by_cases same : entered = id
  · subst same
    rw [if_pos rfl]
    refine .enters free (Table.find?_insert_self _ _ _) ?_
    rw [notice, changes_record, Happening.change?, if_pos rfl]
    rfl
  · rw [if_neg same]
    refine .keeps (Table.find?_insert_of_ne _ _ (Ne.symm same)) ?_
    rw [notice, changes_record, Happening.change?, if_neg same]
    rfl

/-- A stream is removed from its id. -/
theorem alters_of_left {vacated : UInt32} {stream : Stream} (size : Nat)
    (stands : shared.registry.find? vacated = some stream) (id : UInt32) :
    shared.Alters id
      (({ shared with registry := shared.registry.erase vacated }).notice
        (.streamUnregistered vacated stream size))
      (if vacated = id then some (.left stream) else none) := by
  by_cases same : vacated = id
  · subst same
    rw [if_pos rfl]
    refine .leaves stands (Table.find?_erase_self _ _) ?_
    rw [notice, changes_record, Happening.change?, if_pos rfl]
    rfl
  · rw [if_neg same]
    refine .keeps (Table.find?_erase_of_ne _ (Ne.symm same)) ?_
    rw [notice, changes_record, Happening.change?, if_neg same]
    rfl

/-- A later happening of which no change is told. -/
theorem Alters.record (alters : before.Alters id after change)
    {happening : Happening ν} (untold : happening.change? id = none) :
    before.Alters id (after.record happening) change := by
  have same : (after.record happening).changes id = after.changes id := by
    rw [changes_record, untold]
    rfl
  cases alters with
  | keeps registry journal => exact .keeps registry (same.trans journal)
  | enters free stands journal => exact .enters free stands (same.trans journal)
  | leaves stands free journal => exact .leaves stands free (same.trans journal)

/-- Client code changes nothing by itself. -/
theorem clientMove_alters (shared : Shared σ ν) (stack : List (Frame κ))
    (callback : Callback) (turn : ClientTurn σ κ ν) (id : UInt32) :
    shared.Alters id
      (shared.clientMove stack (some callback) turn).shared none := by
  have noted := (shared.noting_sameStreams turn).alters id
  refine shared.clientMove_cases stack callback turn
    (motive := fun moved => shared.Alters id moved.shared none) ?_ ?_ ?_
  · exact fun request next => noted
  · exact fun reply => noted.record rfl
  · exact fun payload => noted.record rfl

/-- A creation has a stream built if the id is free. -/
theorem create_cases (shared : Shared σ ν) (stack : List (Frame κ))
    (descriptor : Descriptor) : (∃ (current : Stream) (after : Shared σ ν),
        shared.registry.find? descriptor.id = some current ∧
          shared.create stack descriptor =
            .answer after stack
              (.created (.error (.registry (.duplicate descriptor.id))))) ∨
      shared.create stack descriptor =
        .call shared stack (.creating descriptor)
          (.createStream descriptor shared.settings.workers) := by
  cases found : shared.registry.find? descriptor.id with
  | some current =>
      left
      refine ⟨current, shared.notice (.streamExists descriptor), rfl, ?_⟩
      simp only [create, Table.contains, found, Option.isSome_some, if_true]
  | none =>
      right
      simp only [create, Table.contains, found, Option.isSome_none,
        Bool.false_eq_true, if_false]

/-- A deletion asks whether the stream may go that stands under the id. -/
theorem delete_cases (shared : Shared σ ν) (stack : List (Frame κ))
    (descriptor : Descriptor) :
    (∃ after : Shared σ ν, shared.delete stack descriptor =
        .answer after stack
          (.concluded (.error (.registry (.notFound descriptor.id))))) ∨
      ∃ looked, shared.registry.find? descriptor.id = some looked ∧
        shared.delete stack descriptor =
          .call shared stack (.releasing descriptor looked)
            (.deleteStream descriptor looked) := by
  cases found : shared.registry.find? descriptor.id with
  | none =>
      left
      refine ⟨shared.notice (.streamMissing descriptor), ?_⟩
      simp only [delete, found]
  | some looked =>
      right
      refine ⟨looked, rfl, ?_⟩
      simp only [delete, found]

/-- A creation registers its stream, or finds the id taken and goes to stop
it. -/
theorem insert_cases (shared : Shared σ ν) (stack : List (Frame κ))
    (descriptor : Descriptor) (stream : Stream) :
    (∃ current, shared.registry.find? descriptor.id = some current ∧
        shared.insert stack descriptor stream =
          .call shared stack (.losing descriptor (.duplicate descriptor.id))
            (.stopStream stream)) ∨
      ∃ after : Shared σ ν,
        shared.insert stack descriptor stream =
            .answer after stack (.created (.ok stream)) ∧
          ∀ id, shared.Alters id after
            (if descriptor.id = id then some (.entered stream) else none) := by
  cases found : shared.registry.find? descriptor.id with
  | some current =>
      left
      refine ⟨current, rfl, ?_⟩
      simp only [insert, Registry.register, Table.contains, found,
        Option.isSome_some, if_true]
  | none =>
      right
      have registered : Registry.register shared.registry descriptor.id stream =
          .ok (Table.insert shared.registry descriptor.id stream) :=
        Registry.register_eq_ok_iff.mpr ⟨found, rfl⟩
      simp only [insert, registered]
      exact ⟨_, rfl, fun id => (alters_of_entered stream _ found id).record rfl⟩

/-- A deletion removes the stream that stands under the id if it is the same
object, and goes to stop it. -/
theorem remove_cases (shared : Shared σ ν) (stack : List (Frame κ))
    (descriptor : Descriptor) (stream : Stream) :
    (∃ error, shared.remove stack descriptor stream =
        .answer shared stack (.concluded (.error (.registry error)))) ∨
      ∃ (current : Stream) (after : Shared σ ν),
        shared.registry.find? descriptor.id = some current ∧
          current.handle = stream.handle ∧
          shared.remove stack descriptor stream =
            .call after stack (.stopping descriptor) (.stopStream stream) ∧
          ∀ id, shared.Alters id after
            (if descriptor.id = id then some (.left current) else none) := by
  simp only [remove]
  split
  · rename_i error _
    exact .inl ⟨error, rfl⟩
  · rename_i current registry left
    obtain ⟨stands, same, rfl⟩ := Registry.unregisterEntry_eq_ok_iff.mp left
    exact .inr ⟨current, _, stands, same, rfl, alters_of_left _ stands⟩

end Shared

/-- Only a thread that is about to register or to remove a stream changes what
stands under an id, and each change is told. -/
theorem Deals.alters {client : Client σ κ ν} {shared : Shared σ ν}
    {stack : List (Frame κ)} {control : Control} {turn : Turn σ κ ν}
    (deals : Deals client shared stack control turn) (id : UInt32) :
    ∃ change, shared.Alters id turn.shared change ∧
      control.Makes id change := by
  have aside {control : Control} {after : Shared σ ν}
      (alters : shared.Alters id after none) :
      ∃ change, shared.Alters id after change ∧ control.Makes id change :=
    ⟨none, alters, trivial⟩
  -- The change is at the one id that the thread names.
  have named {control : Control} {after : Shared σ ν} {changed : UInt32}
      {change : Change}
      (alters : shared.Alters id after
        (if changed = id then some change else none))
      (makes : changed = id → control.Makes id (some change)) :
      ∃ change, shared.Alters id after change ∧ control.Makes id change := by
    by_cases same : changed = id
    · rw [if_pos same] at alters
      exact ⟨_, alters, makes same⟩
    · rw [if_neg same] at alters
      exact aside alters
  cases deals with
  | aside before leaves => exact aside (leaves.same.alters id)
  | @calls stack callback fits =>
      rcases (shared.record (.called callback)).clientMove_alters stack callback
        (client.begin callback shared.client) id with ⟨registry, journal⟩
      exact aside (.keeps registry journal)
  | resumes state response before fits =>
      exact aside (shared.clientMove_alters _ _ _ id)
  | takes stack descriptor reply =>
      cases reply.stream <;> exact aside (.keeps rfl rfl)
  | inserts stack descriptor stream =>
      rcases shared.insert_cases stack descriptor stream with
        ⟨_, _, lost⟩ | ⟨after, entered, alters⟩
      · rw [lost]
        exact aside (.keeps rfl rfl)
      · rw [entered]
        exact named (alters id) fun same => same ▸ rfl
  | removes stack descriptor stream =>
      rcases shared.remove_cases stack descriptor stream with
        ⟨_, kept⟩ | ⟨current, after, stands, same, left, alters⟩
      · rw [kept]
        exact aside (.keeps rfl rfl)
      · rw [left]
        exact named (alters id) fun same => same ▸ rfl
  | registers alone stack entered stream =>
      simp only [Shared.register]
      split
      · exact aside (.keeps rfl rfl)
      · rename_i registry registered
        obtain ⟨free, rfl⟩ := Registry.register_eq_ok_iff.mp registered
        exact named (Shared.alters_of_entered stream _ free id)
          fun same => same ▸ rfl
  | unregisters alone stack vacated =>
      simp only [Shared.unregister]
      split
      · exact aside (.keeps rfl rfl)
      · rename_i stream registry left
        obtain ⟨stands, rfl⟩ := Registry.unregister_eq_ok_iff.mp left
        exact named (Shared.alters_of_left _ stands id) fun same => same ▸ rfl

/-- What an occurrence changes under an id, and by which step of which
thread. -/
theorem World.Becomes.alters {client : Client σ κ ν} {world next : World σ κ ν}
    {occurrence : Occurrence κ}
    (becomes : World.Becomes client world occurrence next)
    (fits : ∀ thread ∈ world.threads, thread.Fits) (id : UInt32) :
    ∃ change, world.shared.Alters id next.shared change ∧
      (change ≠ none → ∃ self thread, occurrence = .step self ∧
        world.threads[self]? = some thread ∧
          thread.control.Makes id change) := by
  rcases becomes.sameStreams with same | ⟨self, thread, steps, found, moved⟩
  · exact ⟨none, same.alters id, fun some => absurd rfl some⟩
  · rcases (world.shared.move_deals client (world.surroundings self)
      (fits thread (List.mem_of_getElem? found))).alters id with
      ⟨change, alters, makes⟩
    rw [moved]
    exact ⟨change, alters, fun _ => ⟨self, thread, steps, found, makes⟩⟩

/-- In every reachable world registrations and removals have taken turns under
every id, and what stands there is what was registered last and not removed
since. -/
theorem Reachable.takeTurns {client : Client σ κ ν} {world : World σ κ ν}
    (reachable : Reachable client world) (id : UInt32) :
    TakeTurns (world.shared.registry.find? id) (world.shared.changes id) := by
  induction reachable with
  | opening opening =>
      cases opening with
      | application | alone => exact .nothing
  | occur occurrence reached allowed inductionHypothesis =>
      rcases (World.after_becomes client allowed).alters reached.fits id with
        ⟨_, alters, _⟩
      exact alters.takeTurns inductionHypothesis

end Switchboard
