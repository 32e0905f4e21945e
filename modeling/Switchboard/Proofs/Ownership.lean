import Switchboard.Proofs.Tallies

/-!
# Whose a stream is

A stream that a callback has built is in the hands of the creation that had it
built, it stands in the registry, or it is retired: it is about to be stopped by
the creation that lost the id or by the deletion that removed it, or it was
stopped.  An object that was built once is always in exactly one of these
places, and only the thread that has it in its hands, or removes it, takes it
on.
-/

namespace Switchboard

variable {σ κ ν : Type}

/-! ## Where a stream is -/

/-- The places of a stream that was built.  One that is lost or removed is about
to be stopped by the thread that lost its id or removed it. -/
inductive Standing where
  | held (holder : ThreadId)
  | registered
  | lost (loser : ThreadId)
  | removed (remover : ThreadId)
  | stopped

namespace Standing

/-- Whether a stream is out of use for ever. -/
def isRetired : Standing → Bool
  | .held _ | .registered => false
  | .lost _ | .removed _ | .stopped => true

/-- The tally of a stream object that is in this place and in no other. -/
def tally : Standing → Tally
  | .held _ => ⟨1, 1, 0, 0, 0⟩
  | .registered => ⟨1, 0, 1, 0, 0⟩
  | .lost _ | .removed _ => ⟨1, 0, 0, 1, 0⟩
  | .stopped => ⟨1, 0, 0, 0, 1⟩

/-- How an occurrence takes a stream from one place to the next: only the thread
that holds it enters it or loses the id, only a thread's own removal takes it
out of the registry, and whoever is to stop it does so. -/
inductive Passes : Occurrence κ → Standing → Standing → Prop
  | stays (occurrence : Occurrence κ) (standing : Standing) :
      Passes occurrence standing standing
  | enters (self : ThreadId) : Passes (.step self) (.held self) .registered
  | loses (self : ThreadId) : Passes (.step self) (.held self) (.lost self)
  | removes (self : ThreadId) : Passes (.step self) .registered (.removed self)
  | stopsLost (self : ThreadId) : Passes (.step self) (.lost self) .stopped
  | stopsRemoved (self : ThreadId) :
      Passes (.step self) (.removed self) .stopped

end Standing

namespace World

/-- Where a stream that was built for a descriptor can be seen. -/
def Shows (world : World σ κ ν) (descriptor : Descriptor) (stream : Stream) :
    Standing → Prop
  | .held holder =>
      ∃ thread, world.threads[holder]? = some thread ∧
        thread.control.holding? thread.stack = some (descriptor, stream)
  | .registered => world.shared.registry.find? descriptor.id = some stream
  | .lost loser =>
      ∃ thread, world.threads[loser]? = some thread ∧
        thread.control.retires stream.handle = true ∧
          thread.stack.head?.any (Frame.loses descriptor) = true
  | .removed remover =>
      ∃ thread, world.threads[remover]? = some thread ∧
        thread.control.retires stream.handle = true ∧
          thread.stack.head?.any (Frame.removes descriptor.id) = true
  | .stopped =>
      ∃ stopped ∈ world.shared.stoppings, stopped.handle = stream.handle

/-- A stream that was built for a descriptor is in a place, and the object is
nowhere else. -/
structure IsAt (world : World σ κ ν) (descriptor : Descriptor) (stream : Stream)
    (standing : Standing) : Prop where
  shows : world.Shows descriptor stream standing
  tally : world.streamTally stream.handle = standing.tally
  entry : ∀ id current, world.shared.registry.find? id = some current →
    current.handle = stream.handle → standing = .registered ∧ id = descriptor.id

namespace IsAccounted

variable {world : World σ κ ν} {descriptor : Descriptor} {stream : Stream}

/-- An object that is built afresh every time was built once. -/
theorem built_eq_one (fresh : world.shared.BuildsFresh)
    (built : (descriptor, stream) ∈ world.shared.buildings) :
    (world.streamTally stream.handle).built = 1 := by
  have once := List.count_eq_one_of_mem fresh (List.mem_map_of_mem built)
  rw [List.count, List.countP_map] at once
  exact once

/-- What shows in a place is there and nowhere else. -/
theorem isAt (accounted : world.IsAccounted) (fresh : world.shared.BuildsFresh)
    (built : (descriptor, stream) ∈ world.shared.buildings)
    {standing : Standing} (shows : world.Shows descriptor stream standing) :
    world.IsAt descriptor stream standing := by
  have only :=
    (accounted.balanced stream.handle).only (built_eq_one fresh built)
  have tally : world.streamTally stream.handle = standing.tally := by
    cases standing with
    | held holder =>
        rcases shows with ⟨thread, found, holds⟩
        refine only.1
          (List.countP_pos_iff.mpr ⟨thread, List.mem_of_getElem? found, ?_⟩)
        rw [Control.holds, holds]
        exact decide_eq_true rfl
    | registered =>
        exact only.2.1 (List.countP_pos_iff.mpr
          ⟨stream, Table.mem_values_iff.mpr ⟨_, shows⟩, decide_eq_true rfl⟩)
    | lost retirer | removed retirer =>
        rcases shows with ⟨thread, found, retires, _⟩
        exact only.2.2.1
          (List.countP_pos_iff.mpr
            ⟨thread, List.mem_of_getElem? found, retires⟩)
    | stopped =>
        rcases shows with ⟨other, member, same⟩
        exact only.2.2.2
          (List.countP_pos_iff.mpr ⟨other, member, decide_eq_true same⟩)
  refine ⟨shows, tally, fun id current found same => ?_⟩
  -- Whoever built the entry has built this object, so it stands under its own
  -- id.
  rcases accounted.enters id current found with ⟨owner, member, rfl⟩
  cases fresh.same member built same
  have positive : 0 < (world.streamTally stream.handle).registered :=
    List.countP_pos_iff.mpr ⟨stream, Table.mem_values_iff.mpr ⟨_, found⟩,
      decide_eq_true rfl⟩
  rw [tally] at positive
  refine ⟨?_, rfl⟩
  cases standing with
  | registered => rfl
  | _ => exact absurd positive (Nat.lt_irrefl 0)

/-- Whatever was built is somewhere. -/
theorem exists_isAt (accounted : world.IsAccounted)
    (fresh : world.shared.BuildsFresh)
    (built : (descriptor, stream) ∈ world.shared.buildings) :
    ∃ standing, world.IsAt descriptor stream standing := by
  suffices seen : ∃ standing, world.Shows descriptor stream standing by
    rcases seen with ⟨standing, shows⟩
    exact ⟨standing, accounted.isAt fresh built shows⟩
  have once := built_eq_one fresh built
  have balanced := accounted.balanced stream.handle
  simp only [Tally.IsBalanced, once] at balanced
  have somewhere : 0 < (world.streamTally stream.handle).held ∨
      0 < (world.streamTally stream.handle).registered ∨
        0 < (world.streamTally stream.handle).retiring ∨
          0 < (world.streamTally stream.handle).stopped := by
    omega
  rcases somewhere with held | registered | retiring | stopped
  · rcases List.countP_pos_iff.mp held with ⟨thread, member, holds⟩
    rcases List.getElem?_of_mem member with ⟨holder, found⟩
    rcases (Option.any_eq_true _ _).mp holds with ⟨building, holding, same⟩
    have own := (accounted.attributed thread member).holding building holding
    cases fresh.same own built (of_decide_eq_true same)
    exact ⟨.held holder, thread, found, holding⟩
  · rcases List.countP_pos_iff.mp registered with ⟨current, member, same⟩
    rcases Table.mem_values_iff.mp member with ⟨id, found⟩
    rcases accounted.enters id current found with ⟨owner, own, rfl⟩
    cases fresh.same own built (of_decide_eq_true same)
    exact ⟨.registered, found⟩
  · rcases List.countP_pos_iff.mp retiring with ⟨thread, member, retires⟩
    rcases List.getElem?_of_mem member with ⟨retirer, found⟩
    rcases (Option.any_eq_true _ _).mp retires with ⟨current, retiring, same⟩
    rcases (accounted.attributed thread member).retiring current retiring with
      ⟨building, own, equal, waits⟩
    cases fresh.same own built (equal.trans (of_decide_eq_true same))
    rcases waits with loses | removes
    · exact ⟨.lost retirer, thread, found, retires, loses⟩
    · exact ⟨.removed retirer, thread, found, retires, removes⟩
  · rcases List.countP_pos_iff.mp stopped with ⟨other, member, same⟩
    exact ⟨.stopped, other, member, of_decide_eq_true same⟩

end IsAccounted

section

variable {world : World σ κ ν} {descriptor : Descriptor} {stream : Stream}
  {self other : ThreadId} {thread thread' : Thread κ}

/-- Of the threads that hold a stream object there is only one. -/
theorem holder_unique (one : (world.streamTally stream.handle).held = 1)
    (found : world.threads[self]? = some thread)
    (holds : thread.control.holding? thread.stack = some (descriptor, stream))
    (found' : world.threads[other]? = some thread')
    (holds' : thread'.control.holding? thread'.stack =
      some (descriptor, stream)) :
    self = other := by
  apply eq_of_countP_eq_one one found _ found'
  · rw [Control.holds, holds']
    exact decide_eq_true rfl
  · rw [Control.holds, holds]
    exact decide_eq_true rfl

/-- Of the threads that are to stop a stream object there is only one. -/
theorem retirer_unique (one : (world.streamTally stream.handle).retiring = 1)
    (found : world.threads[self]? = some thread)
    (retires : thread.control.retires stream.handle = true)
    (found' : world.threads[other]? = some thread')
    (retires' : thread'.control.retires stream.handle = true) :
    self = other ∧ thread = thread' := by
  have same := eq_of_countP_eq_one one found retires found' retires'
  subst same
  exact ⟨rfl, Option.some.inj (found.symm.trans found')⟩

/-- A thread that has lost a stream has not removed one. -/
theorem not_removes_of_loses
    (loses : thread.stack.head?.any (Frame.loses descriptor) = true) :
    thread.stack.head?.any (Frame.removes descriptor.id) ≠ true := by
  intro removes
  rcases (Option.any_eq_true _ _).mp loses with ⟨frame, top, loses⟩
  rw [top, Option.any_some] at removes
  cases frame with
  | losing lost error => cases removes
  | _ => cases loses

/-- Nothing is in two places. -/
theorem IsAt.unique {first second : Standing}
    (isAt : world.IsAt descriptor stream first)
    (isAt' : world.IsAt descriptor stream second) : first = second := by
  have equal : first.tally = second.tally := isAt.tally.symm.trans isAt'.tally
  have shows := isAt.shows
  have shows' := isAt'.shows
  cases first with
  | held self =>
      cases second with
      | held other =>
          rcases shows with ⟨thread, found, holds⟩
          rcases shows' with ⟨thread', found', holds'⟩
          rw [holder_unique (congrArg Tally.held isAt.tally) found holds
            found' holds']
      | _ => cases equal
  | registered =>
      cases second with
      | registered => rfl
      | _ => cases equal
  | lost self =>
      rcases shows with ⟨thread, found, retires, loses⟩
      have one := congrArg Tally.retiring isAt.tally
      cases second with
      | lost other =>
          rcases shows' with ⟨thread', found', retires', _⟩
          rw [(retirer_unique one found retires found' retires').1]
      | removed other =>
          rcases shows' with ⟨thread', found', retires', removes⟩
          rw [← (retirer_unique one found retires found' retires').2] at removes
          exact absurd removes (not_removes_of_loses loses)
      | _ => cases equal
  | removed self =>
      rcases shows with ⟨thread, found, retires, removes⟩
      have one := congrArg Tally.retiring isAt.tally
      cases second with
      | lost other =>
          rcases shows' with ⟨thread', found', retires', loses⟩
          rw [← (retirer_unique one found retires found' retires').2] at loses
          exact absurd removes (not_removes_of_loses loses)
      | removed other =>
          rcases shows' with ⟨thread', found', retires', _⟩
          rw [(retirer_unique one found retires found' retires').1]
      | _ => cases equal
  | stopped =>
      cases second with
      | stopped => rfl
      | _ => cases equal

end

end World

/-! ## From place to place -/

section

variable {client : Client σ κ ν} {shared : Shared σ ν} {stack : List (Frame κ)}
  {control : Control} {turn : Turn σ κ ν}

/-- The thread that holds a stream goes on holding it, enters it in the
registry, or has lost the id. -/
theorem Deals.of_holding (deals : Deals client shared stack control turn)
    {descriptor : Descriptor} {stream : Stream}
    (holding : control.holding? stack = some (descriptor, stream)) :
    turn.control.holding? turn.stack = some (descriptor, stream) ∨
      turn.shared.registry.find? descriptor.id = some stream ∨
        turn.control.retires stream.handle = true ∧
          turn.stack.head?.any (Frame.loses descriptor) = true := by
  cases deals with
  | aside before leaves => cases before.holding.symm.trans holding
  | resumes state response before fits =>
      cases before.holding.symm.trans holding
  | takes stack creating reply =>
      left
      simp only [Control.holding?] at holding
      cases built : reply.stream with
      | none =>
          rw [built] at holding
          cases holding
      | some stream =>
          rw [built] at holding
          exact holding
  | inserts stack inserted stream =>
      cases holding
      right
      simp only [Shared.insert]
      split
      · exact .inr ⟨decide_eq_true rfl, decide_eq_true rfl⟩
      · rename_i registry entered
        obtain ⟨_, rfl⟩ := Registry.register_eq_ok_iff.mp entered
        exact .inl (Table.find?_insert_self _ _ _)
  | calls | removes | registers | unregisters => cases holding

/-- A stream stays in the registry of an application until a thread removes it
that is to stop it. -/
theorem Deals.of_registered (deals : Deals client shared stack control turn)
    (hosted : shared.host.isAlone = false) {id : UInt32} {stream : Stream}
    (found : shared.registry.find? id = some stream) :
    turn.shared.registry.find? id = some stream ∨
      turn.control.retires stream.handle = true ∧
        turn.stack.head?.any (Frame.removes id) = true := by
  cases deals with
  | aside before leaves =>
      rw [leaves.same.registry]
      exact .inl found
  | @calls stack callback fits =>
      rw [((shared.record (.called callback)).clientMove_builds _
        fits).registry]
      exact .inl found
  | resumes state response before fits =>
      rw [(shared.clientMove_builds _ fits).registry]
      exact .inl found
  | takes stack descriptor reply =>
      cases reply.stream <;> exact .inl found
  | inserts stack descriptor inserted =>
      left
      simp only [Shared.insert]
      split
      · exact found
      · rename_i registry entered
        obtain ⟨free, rfl⟩ := Registry.register_eq_ok_iff.mp entered
        have differs : id ≠ descriptor.id := by
          rintro rfl
          cases free.symm.trans found
        exact (Table.find?_insert_of_ne _ _ differs).trans found
  | removes stack descriptor released =>
      simp only [Shared.remove]
      split
      · exact .inl found
      · rename_i removed registry left
        obtain ⟨taken, same, rfl⟩ := Registry.unregisterEntry_eq_ok_iff.mp left
        by_cases equal : id = descriptor.id
        · subst equal
          cases Option.some.inj (found.symm.trans taken)
          exact .inr ⟨decide_eq_true same.symm, decide_eq_true rfl⟩
        · exact .inl ((Table.find?_erase_of_ne _ equal).trans found)
  | registers alone | unregisters alone =>
      rw [alone] at hosted
      cases hosted

/-- Whoever is to stop a stream does so. -/
theorem Deals.of_retiring (deals : Deals client shared stack control turn)
    {handle : Nat} (retires : control.retires handle = true) :
    ∃ stopped ∈ turn.shared.stoppings, stopped.handle = handle := by
  cases deals with
  | aside before leaves =>
      rw [before.retires] at retires
      cases retires
  | resumes state response before fits =>
      rw [before.retires] at retires
      cases retires
  | @calls stack callback fits =>
      cases callback with
      | stopStream stream =>
          rw [((shared.record (.called (.stopStream stream))).clientMove_builds
            _ fits).stoppings]
          exact ⟨stream, List.mem_cons_self, of_decide_eq_true retires⟩
      | _ => cases retires
  | takes | inserts | removes | registers | unregisters => cases retires

/-- What is built is held by the thread that had it built. -/
theorem Deals.of_built (deals : Deals client shared stack control turn)
    {building : Descriptor × Stream}
    (built : building ∈ turn.shared.buildings) :
    building ∈ shared.buildings ∨
      turn.control.holding? turn.stack = some building := by
  have builds (turn : Turn σ κ ν) (between : Shared σ ν)
      (builds : turn.Builds between)
      (same : between.buildings = shared.buildings)
      (built : building ∈ turn.shared.buildings) :
      building ∈ shared.buildings ∨
        turn.control.holding? turn.stack = some building := by
    rw [builds.buildings, List.mem_append, Option.mem_toList, same] at built
    exact built.symm
  cases deals with
  | aside before leaves =>
      rw [leaves.same.buildings] at built
      exact .inl built
  | @calls stack callback fits =>
      exact builds _ _
        ((shared.record (.called callback)).clientMove_builds _ fits) rfl built
  | resumes state response before fits =>
      exact builds _ _ (shared.clientMove_builds _ fits) rfl built
  | takes stack descriptor reply =>
      cases reply' : reply.stream with
      | none | some stream =>
          rw [reply'] at built
          exact .inl built
  | inserts stack descriptor stream =>
      simp only [Shared.insert] at built
      split at built <;> exact .inl built
  | removes stack descriptor stream =>
      simp only [Shared.remove] at built
      split at built <;> exact .inl built
  | registers alone stack id stream =>
      simp only [Shared.register] at built
      split at built <;> exact .inl built
  | unregisters alone stack id =>
      simp only [Shared.unregister] at built
      split at built <;> exact .inl built

end

namespace World

variable {client : Client σ κ ν} {world next : World σ κ ν}
  {occurrence : Occurrence κ}

/-- Whoever is to stop a stream waits, or stops it. -/
theorem retires_after (descriptor : Descriptor) {stream : Stream}
    (reachable : Reachable client world)
    (allowed : world.allows occurrence = true) {self : ThreadId}
    {thread : Thread κ} (found : world.threads[self]? = some thread)
    (retires : thread.control.retires stream.handle = true) :
    (world.after client occurrence).threads[self]? = some thread ∨
      occurrence = .step self ∧
        (world.after client occurrence).Shows descriptor stream .stopped := by
  rcases (after_becomes client allowed).thread found with
    ⟨later, stands, changes⟩
  have full : ¬ thread.IsEmptyHanded := fun empty => by
    cases (empty.retires _).symm.trans retires
  rcases changes.of_hands full with rfl | rfl
  · exact .inl stands
  · refine .inr ⟨rfl, ?_⟩
    change ∃ stopped ∈ (world.step client self).shared.stoppings, _
    rw [(step_self client found).1]
    exact (world.shared.move_deals client (world.surroundings self)
      (reachable.fits thread (List.mem_of_getElem? found))).of_retiring retires

/-- Where a stream goes in an occurrence. -/
theorem shows_after {descriptor : Descriptor} {stream : Stream}
    {standing : Standing} (reachable : Reachable client world)
    (allowed : world.allows occurrence = true)
    (hosted : world.shared.host.isAlone = false)
    (shows : world.Shows descriptor stream standing) :
    ∃ later, (world.after client occurrence).Shows descriptor stream later ∧
      standing.Passes occurrence later := by
  have becomes := after_becomes client allowed
  have stops :
      world.shared.stoppings ⊆
        (world.after client occurrence).shared.stoppings :=
    (becomes.journal.sublist.filterMap _).subset
  have deals {self : ThreadId} {thread : Thread κ}
      (found : world.threads[self]? = some thread) :=
    world.shared.move_deals client (world.surroundings self)
      (reachable.fits thread (List.mem_of_getElem? found))
  cases standing with
  | held holder =>
      rcases shows with ⟨thread, found, holding⟩
      rcases becomes.thread found with ⟨later, stands, changes⟩
      have full : ¬ thread.IsEmptyHanded := fun empty => by
        cases empty.holding.symm.trans holding
      rcases changes.of_hands full with rfl | rfl
      · exact ⟨.held holder, ⟨later, stands, holding⟩, .stays _ _⟩
      · have stepped := step_self client found
        rcases (deals found).of_holding holding with
          holds | entered | ⟨retires, loses⟩
        · exact ⟨.held holder, ⟨_, stepped.2, holds⟩, .stays _ _⟩
        · refine ⟨.registered, ?_, .enters holder⟩
          change (world.step client holder).shared.registry.find? _ = _
          rw [stepped.1]
          exact entered
        · exact ⟨.lost holder, ⟨_, stepped.2, retires, loses⟩, .loses holder⟩
  | registered =>
      rcases becomes.sameStreams with same | ⟨self, thread, rfl, found, _⟩
      · refine ⟨.registered, ?_, .stays _ _⟩
        change (world.after client occurrence).shared.registry.find? _ = _
        rw [same.registry]
        exact shows
      · have stepped := step_self client found
        rcases (deals found).of_registered hosted shows with
          stays | ⟨retires, removes⟩
        · refine ⟨.registered, ?_, .stays _ _⟩
          change (world.step client self).shared.registry.find? _ = _
          rw [stepped.1]
          exact stays
        · exact ⟨.removed self, ⟨_, stepped.2, retires, removes⟩, .removes self⟩
  | lost loser =>
      rcases shows with ⟨thread, found, retires, loses⟩
      rcases retires_after descriptor reachable allowed found retires with
        stands | ⟨rfl, stopped⟩
      · exact ⟨.lost loser, ⟨thread, stands, retires, loses⟩, .stays _ _⟩
      · exact ⟨.stopped, stopped, .stopsLost loser⟩
  | removed remover =>
      rcases shows with ⟨thread, found, retires, removes⟩
      rcases retires_after descriptor reachable allowed found retires with
        stands | ⟨rfl, stopped⟩
      · exact ⟨.removed remover, ⟨thread, stands, retires, removes⟩, .stays _ _⟩
      · exact ⟨.stopped, stopped, .stopsRemoved remover⟩
  | stopped =>
      rcases shows with ⟨stopped, member, same⟩
      exact ⟨.stopped, ⟨stopped, stops member, same⟩, .stays _ _⟩

/-- A stream that is new is held by the thread that has had it built. -/
theorem shows_of_new {descriptor : Descriptor} {stream : Stream}
    (reachable : Reachable client world)
    (allowed : world.allows occurrence = true)
    (new : (descriptor, stream) ∉ world.shared.buildings)
    (built : (descriptor, stream) ∈
      (world.after client occurrence).shared.buildings) :
    ∃ self, occurrence = .step self ∧
      (world.after client occurrence).Shows descriptor stream (.held self) := by
  rcases (after_becomes client allowed).sameStreams with
    same | ⟨self, thread, rfl, found, _⟩
  · rw [same.buildings] at built
    exact absurd built new
  · have stepped := step_self client found
    change _ ∈ (world.step client self).shared.buildings at built
    rw [stepped.1] at built
    rcases (world.shared.move_deals client (world.surroundings self)
      (reachable.fits thread (List.mem_of_getElem? found))).of_built built with
        old | holding
    · exact absurd old new
    · exact ⟨self, rfl, _, stepped.2, holding⟩

end World

section

variable {client : Client σ κ ν} {world : World σ κ ν}
  {run : List (Occurrence κ)}

namespace World

/-- What was built up to a moment was built up to every later one. -/
theorem buildings_upTo (allowed : world.allowsAll client run = true)
    {earlier later : Nat} (order : earlier ≤ later) :
    (world.upTo client run earlier).shared.buildings.Sublist
      (world.upTo client run later).shared.buildings :=
  (journal_upTo allowed order).sublist.filterMap _

theorem buildsFresh_upTo (allowed : world.allowsAll client run = true)
    (fresh : (world.follow client run).shared.BuildsFresh) {moment : Nat}
    (inside : moment ≤ run.length) :
    (world.upTo client run moment).shared.BuildsFresh := by
  rw [← upTo_length] at fresh
  exact fresh.sublist ((buildings_upTo allowed inside).map _)

end World

namespace Reachable

variable (reachable : Reachable client world)
  (allowed : world.allowsAll client run = true)
  (hosted : (world.follow client run).shared.host.isAlone = false)
include reachable allowed hosted

/-- From one moment of a run to a later one objects only flow. -/
theorem flows_upTo {earlier later : Nat} (order : earlier ≤ later)
    (inside : later ≤ run.length) (handle : Nat) :
    ((world.upTo client run earlier).streamTally handle).Flows
      ((world.upTo client run later).streamTally handle) := by
  rcases World.upTo_onward allowed inside with ⟨rest, allowed', leads⟩
  rw [World.upTo_length] at leads
  rw [← leads] at hosted
  have hosted' :=
    (World.follow_flows (reachable.upTo allowed later) allowed' hosted 0).1
  rcases World.upTo_onward allowed order with ⟨middle, allowed', leads⟩
  rw [← leads] at hosted' ⊢
  exact (World.follow_flows
    (reachable.upTo allowed earlier) allowed' hosted' handle).2

/-- At every moment of a run the books are in order. -/
theorem isAccounted_upTo {moment : Nat} (inside : moment ≤ run.length) :
    (world.upTo client run moment).shared.host.isAlone = false ∧
      (world.upTo client run moment).IsAccounted := by
  rcases World.upTo_onward allowed inside with ⟨rest, allowed', leads⟩
  rw [World.upTo_length] at leads
  rw [← leads] at hosted
  have hosted' :=
    (World.follow_flows (reachable.upTo allowed moment) allowed' hosted 0).1
  exact ⟨hosted', (reachable.upTo allowed moment).isAccounted hosted'⟩

/-- A stream that is retired at a moment of a run is retired at every later
one. -/
theorem retired_upTo {descriptor : Descriptor} {stream : Stream}
    {standing final : Standing} {earlier later : Nat} (order : earlier ≤ later)
    (inside : later ≤ run.length)
    (stands : (world.upTo client run earlier).IsAt descriptor stream standing)
    (retired : standing.isRetired = true)
    (stands' : (world.upTo client run later).IsAt descriptor stream final) :
    final.isRetired = true := by
  have grows :=
    (reachable.flows_upTo allowed hosted order inside stream.handle).retired
  rw [stands.tally, stands'.tally] at grows
  cases final with
  | lost | removed | stopped => rfl
  | held | registered =>
      -- Of what was retired nothing would be left.
      cases standing with
      | held | registered => cases retired
      | lost | removed | stopped => exact absurd grows (Nat.not_succ_le_zero 0)

variable (fresh : (world.follow client run).shared.BuildsFresh)
include fresh

/-- What shows in a place at a moment of a run is there and nowhere else. -/
theorem isAt_upTo {descriptor : Descriptor} {stream : Stream}
    {standing : Standing} {moment : Nat} (inside : moment ≤ run.length)
    (built : (descriptor, stream) ∈
      (world.upTo client run moment).shared.buildings)
    (shows : (world.upTo client run moment).Shows descriptor stream standing) :
    (world.upTo client run moment).IsAt descriptor stream standing :=
  (reachable.isAccounted_upTo allowed hosted inside).2.isAt
    (World.buildsFresh_upTo allowed fresh inside) built shows

/-- What was built is somewhere at every later moment of a run. -/
theorem exists_isAt_upTo {descriptor : Descriptor} {stream : Stream}
    {earlier later : Nat} (order : earlier ≤ later)
    (inside : later ≤ run.length)
    (built : (descriptor, stream) ∈
      (world.upTo client run earlier).shared.buildings) :
    ∃ standing, (world.upTo client run later).IsAt descriptor stream standing :=
  (reachable.isAccounted_upTo allowed hosted inside).2.exists_isAt
    (World.buildsFresh_upTo allowed fresh inside)
    ((World.buildings_upTo allowed order).subset built)

/-- An object that stands under an id at two moments of a run stands there in
between. -/
theorem registered_between {id : UInt32} {looked current : Stream}
    {earlier later : Nat} (order : earlier ≤ later)
    (inside : later ≤ run.length)
    (found : (world.upTo client run earlier).shared.registry.find? id =
      some looked)
    (found' : (world.upTo client run later).shared.registry.find? id =
      some current)
    (same : current.handle = looked.handle) :
    current = looked ∧ ∀ moment, earlier ≤ moment → moment ≤ later →
      (world.upTo client run moment).shared.registry.find? id =
        some looked := by
  have start :=
    (reachable.isAccounted_upTo allowed hosted (Nat.le_trans order inside)).2
  have final := (reachable.isAccounted_upTo allowed hosted inside).2
  rcases start.enters id looked found with ⟨descriptor, built, rfl⟩
  rcases final.enters descriptor.id current found' with ⟨owner, built', _⟩
  cases (World.buildsFresh_upTo allowed fresh inside).same built'
    ((World.buildings_upTo allowed order).subset built) same
  refine ⟨rfl, fun moment after before => ?_⟩
  have inside' : moment ≤ run.length := Nat.le_trans before inside
  have stands :
      (world.upTo client run earlier).IsAt descriptor looked .registered :=
    reachable.isAt_upTo allowed hosted fresh
      (Nat.le_trans order inside) built found
  have stands' :
      (world.upTo client run later).IsAt descriptor looked .registered :=
    reachable.isAt_upTo allowed hosted fresh inside built' found'
  rcases reachable.exists_isAt_upTo allowed hosted fresh after
    inside' built with
    ⟨standing, between⟩
  -- It is not in anybody's hands again, and it is not retired, since then it
  -- would stay so.
  have settled :=
    (reachable.flows_upTo allowed hosted after inside' looked.handle).settled
  rw [stands.tally, between.tally] at settled
  cases standing with
  | registered => exact between.shows
  | held => exact absurd settled (Nat.not_succ_le_zero 0)
  | lost | removed | stopped =>
      cases reachable.retired_upTo allowed hosted before inside
        between rfl stands'

end Reachable

/-- Where a stream of an application is, if callbacks build a new object every
time.  At every moment of every run:
* every stream that was built is in exactly one place, which its tally confirms;
* it stays there, or a thread takes it on: the one that holds it enters it or
  loses the id, one removes it from the registry, and the one that is to stop it
  does so;
* a new stream is held by the thread that has had it built;
* once it is retired it is retired for ever. -/
theorem Reachable.every_stream_in_one_place (reachable : Reachable client world)
    (allowed : world.allowsAll client run = true)
    (hosted : (world.follow client run).shared.host.isAlone = false)
    (fresh : (world.follow client run).shared.BuildsFresh)
    (descriptor : Descriptor) (stream : Stream) :
    let now := world.upTo client run
    (∀ moment ≤ run.length,
      (descriptor, stream) ∈ (now moment).shared.buildings →
        ∃! standing, (now moment).IsAt descriptor stream standing) ∧
      (∀ moment occurrence standing, run[moment]? = some occurrence →
        (descriptor, stream) ∈ (now moment).shared.buildings →
        (now moment).IsAt descriptor stream standing →
        ∃ later, (now (moment + 1)).IsAt descriptor stream later ∧
          standing.Passes occurrence later) ∧
      (∀ moment occurrence, run[moment]? = some occurrence →
        (descriptor, stream) ∉ (now moment).shared.buildings →
        (descriptor, stream) ∈ (now (moment + 1)).shared.buildings →
        ∃ self, occurrence = .step self ∧
          (now (moment + 1)).IsAt descriptor stream (.held self)) ∧
      (∀ earlier later standing, earlier ≤ later → later ≤ run.length →
        (descriptor, stream) ∈ (now earlier).shared.buildings →
        (now earlier).IsAt descriptor stream standing →
          standing.isRetired = true →
        ∃ final, (now later).IsAt descriptor stream final ∧
          final.isRetired = true) := by
  intro now
  refine ⟨fun moment inside built => ?_,
    fun moment occurrence standing next built stands => ?_,
    fun moment occurrence next new built => ?_,
    fun earlier later standing order inside built stands retired => ?_⟩
  · rcases reachable.exists_isAt_upTo allowed hosted fresh
      (Nat.le_refl moment) inside built with
      ⟨standing, stands⟩
    exact ⟨standing, stands, fun other stands' => stands'.unique stands⟩
  · have inside := (List.getElem?_eq_some_iff.mp next).1
    have hosted' :=
      (reachable.isAccounted_upTo allowed hosted (Nat.le_of_lt inside)).1
    rcases World.shows_after (reachable.upTo allowed moment)
      ((World.allowsAll_take allowed moment).2 occurrence next) hosted'
        stands.shows with
      ⟨later, shows, passes⟩
    rw [← World.upTo_succ next] at shows
    have built' :=
      (World.buildings_upTo allowed (Nat.le_succ moment)).subset built
    exact ⟨later, reachable.isAt_upTo allowed hosted fresh inside built' shows,
      passes⟩
  · have inside := (List.getElem?_eq_some_iff.mp next).1
    have now' : now (moment + 1) = (now moment).after client occurrence :=
      World.upTo_succ next
    rw [now'] at built
    rcases World.shows_of_new (reachable.upTo allowed moment)
      ((World.allowsAll_take allowed moment).2 occurrence next) new built with
      ⟨self, steps, shows⟩
    rw [← now'] at built shows
    exact ⟨self, steps,
      reachable.isAt_upTo allowed hosted fresh inside built shows⟩
  · rcases reachable.exists_isAt_upTo allowed hosted fresh order
      inside built with
      ⟨final, stands'⟩
    exact ⟨final, stands',
      reachable.retired_upTo allowed hosted order inside stands
      retired stands'⟩

end

/-- Client code that builds a new stream object at every creation, and takes
everything. -/
def Client.numbering : Client Nat Unit Unit where
  begin callback built :=
    match callback with
    | .createStream descriptor _ =>
        { state := built + 1
          notes := []
          move := .finish
            { Reply.plain with stream := some ⟨built, descriptor.name⟩ } }
    | _ =>
        { state := built
          notes := []
          move := .finish .plain }
  resume _ _ built :=
    { state := built
      notes := []
      move := .finish .plain }
  holds _ _ := true
  publisherName _ := none

/-- Two creations of one id are between check and insertion at the same time.
The stream of the first is registered and then removed, that of the second has
lost the id and was stopped. -/
theorem Reachable.every_stream_in_one_place_of_lost_and_removed :
    let steps (thread : ThreadId) (number : Nat) :=
      List.replicate number (Occurrence.step thread : Occurrence Unit)
    let descriptor := Descriptor.new 7 "camera"
    let world : World Nat Unit Unit :=
      .new (.new ⟨1, "app"⟩ .standard (.application .new) 0) 2
    let run :=
      [.request 0 (.create descriptor), .request 1 (.create descriptor)] ++
        steps 0 4 ++
        steps 1 4 ++ steps 0 1 ++ steps 1 2 ++
          [.request 0 (.delete descriptor)] ++ steps 0 5
    let last := world.follow .numbering run
    (∃! standing, last.IsAt descriptor ⟨0, "camera"⟩ standing) ∧
      last.Shows descriptor ⟨0, "camera"⟩ (.removed 0) ∧
      (∃! standing, last.IsAt descriptor ⟨1, "camera"⟩ standing) ∧
      last.Shows descriptor ⟨1, "camera"⟩ .stopped := by
  intro steps descriptor world run last
  have reachable : Reachable Client.numbering world :=
    .opening (.application _ _ _ _)
  have allowed : world.allowsAll .numbering run = true := by decide +kernel
  have hosted : (world.follow .numbering run).shared.host.isAlone = false := by
    decide +kernel
  have fresh : (world.follow .numbering run).shared.BuildsFresh := by
    decide +kernel
  have whole (stream : Stream)
      (built : (descriptor, stream) ∈
        (world.follow .numbering run).shared.buildings) :
      ∃! standing, last.IsAt descriptor stream standing := by
    have owns :=
      (reachable.every_stream_in_one_place allowed hosted fresh descriptor
        stream).1 run.length
      (Nat.le_refl _)
    rw [World.upTo_length] at owns
    exact owns built
  have built : (world.follow .numbering run).shared.buildings =
      [(descriptor, ⟨1, "camera"⟩), (descriptor, ⟨0, "camera"⟩)] := by
    decide +kernel
  have found : last.threads[0]? = some
      ⟨.caller, [.stopping descriptor],
        .run (.call (.stopStream ⟨0, "camera"⟩))⟩ := by
    decide +kernel
  have stopped : last.shared.stoppings = [⟨1, "camera"⟩] := by decide +kernel
  have removed : last.Shows descriptor ⟨0, "camera"⟩ (.removed 0) :=
    ⟨_, found, rfl, rfl⟩
  have gone : last.Shows descriptor ⟨1, "camera"⟩ .stopped := by
    refine ⟨⟨1, "camera"⟩, ?_, rfl⟩
    rw [stopped]
    exact List.mem_cons_self
  refine ⟨whole _ ?_, removed, whole _ ?_, gone⟩
  · rw [built]
    exact List.mem_cons_of_mem _ List.mem_cons_self
  · rw [built]
    exact List.mem_cons_self

end Switchboard
