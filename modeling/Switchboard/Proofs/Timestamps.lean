import Mathlib.Data.List.Induction
import Switchboard.Proofs.Retirement
import Switchboard.Proofs.Signals

/-!
# The last timestamps

A submission begins by stamping: if the track of the frame is listed in its own
descriptor, the time at which the frame is presented becomes the last timestamp
of its kind of media.  Nothing else touches the timestamps.  The frames are
therefore listed in the order in which they were stamped, and each timestamp is
that of the last one on the list whose track is known.  The list has exactly the
items that were submitted or are about to be pushed, and where one thing is done
at a time it has them in the order of submission.
-/

namespace Switchboard

variable {σ κ ν : Type}

/-! ## Tracks of a descriptor -/

namespace Descriptor

/-- A descriptor lists under an id the track that was added last under it,
whatever its kind. -/
theorem track?_ofTracks (id : UInt32) (name : String) (tracks : List Track)
    (track : UInt32) : (ofTracks id name tracks).track? track =
      tracks.reverse.find? fun added => added.id = track := by
  induction tracks using List.reverseRecOn with
  | nil => rfl
  | append_singleton tracks added inductionHypothesis =>
      have last :
          ofTracks id name (tracks ++ [added]) =
            (ofTracks id name tracks).addTrack added :=
        List.foldl_append
      rw [last, List.reverse_append, List.reverse_singleton,
        List.singleton_append, List.find?_cons]
      by_cases same : added.id = track
      · subst same
        rw [track?_addTrack_self, decide_eq_true rfl]
      · rw [track?_addTrack_of_ne _ _ (Ne.symm same), decide_eq_false same,
          inductionHypothesis]

end Descriptor

/-! ## Stamping -/

/-- The time that an item leaves as the last timestamp of a kind of media: that
of a frame of this kind whose track is known. -/
def Item.millis? (item : Item) (kind : MediaKind) : Option Int64 :=
  match item with
  | .frame submitted descriptor media =>
      if submitted = kind then descriptor.presentationMillis? media else none
  | .packet _ _ => none

namespace Control

/-- The item with which a submission begins. -/
def stamps? : Control → Option Item
  | .run (.stamp item) => some item
  | _ => none

/-- The item that is stamped and about to be pushed. -/
def pushes? : Control → Option Item
  | .run (.push item) => some item
  | _ => none

end Control

theorem Cycle.pushes?_afterLoss (cycle : Cycle) (payload : Payload) :
    (cycle.afterLoss payload).pushes? = none :=
  cycle.afterLoss_rec payload rfl fun _ => rfl

theorem Thread.pushes?_of_isFree {thread : Thread κ}
    (free : thread.isFree = true) :
    thread.control.pushes? = none := by
  rw [isFree, Bool.and_eq_true, isSome_ending?_iff] at free
  cases control : thread.control with
  | run instruction => exact absurd control (free.2.2 instruction)
  | _ => rfl

theorem Thread.pushes?_of_isSuspended {thread : Thread κ}
    (suspended : thread.isSuspended = true) :
    thread.control.pushes? = none := by
  rcases thread with ⟨role, stack, control⟩
  cases control with
  | run instruction =>
      cases instruction with
      | push item => cases suspended
      | _ => rfl
  | _ => rfl

/-- The last timestamp of a kind of media. -/
def Counters.lastMillis (counters : Counters) : MediaKind → Int64
  | .video => counters.lastVideoMillis
  | .audio => counters.lastAudioMillis

theorem Counters.lastMillis_frameDelivered (counters : Counters)
    (delivered kind : MediaKind) :
    (counters.frameDelivered delivered).lastMillis kind =
      counters.lastMillis kind := by
  cases delivered <;> cases kind <;> rfl

namespace Shared

/-- The last timestamp of a kind of media. -/
def lastMillis (shared : Shared σ ν) (kind : MediaKind) : Int64 :=
  shared.dispatcher.counters.lastMillis kind

/-- The items submitted so far, oldest first. -/
def submittedItems (shared : Shared σ ν) : List Item :=
  (shared.journal.filterMap Happening.submitted?).reverse.map Sequenced.item

end Shared

/-- What a turn does to the timestamps: it leaves that of the item stamped, if
there is one, and only an item that was stamped is pushed next. -/
structure Turn.Stamps (item? : Option Item) (shared : Shared σ ν)
    (turn : Turn σ κ ν) : Prop where
  lastMillis : ∀ kind,
    turn.shared.lastMillis kind = (item?.bind (·.millis? kind)).getD
      (shared.lastMillis kind)
  pushes : turn.control.pushes? = item?

namespace Shared

variable {shared : Shared σ ν} {stack : List (Frame κ)}

/-- A turn that leaves the dispatcher alone leaves the timestamps alone. -/
theorem stamps_of_same {turn : Turn σ κ ν}
    (same : turn.shared.dispatcher = shared.dispatcher)
    (pushes : turn.control.pushes? = none) : turn.Stamps none shared := by
  constructor
  · intro kind
    exact congrArg (·.counters.lastMillis kind) same
  · exact pushes

variable (shared stack)

theorem stamp_stamps (item : Item) :
    (shared.stamp stack item).Stamps (some item) shared := by
  constructor
  · intro kind
    cases item with
    | packet session data => rfl
    | frame submitted descriptor packet =>
        simp only [stamp, Turn.run, Turn.pass, dispatch, lastMillis,
          Dispatcher.stamp, Option.bind_some, Item.millis?]
        cases descriptor.presentationMillis? packet with
        | none => rw [ite_self, Option.getD_none]
        | some millis => cases submitted <;> cases kind <;> rfl
  · rfl

theorem clientMove_stamps (callback : Option Callback)
    (turn : ClientTurn σ κ ν) :
    (shared.clientMove stack callback turn).Stamps none shared := by
  apply stamps_of_same
  · exact shared.clientMove_dispatcher stack callback turn
  · simp only [clientMove]
    cases turn.move <;> rfl

theorem perform_stamps (client : Client σ κ ν) (around : Surroundings)
    (request : Request) :
    (shared.perform client around stack request).Stamps none shared := by
  simp only [perform]
  split
  case h_8 => exact stamps_of_same (askTypeName_dispatcher client shared) rfl
  case h_12 =>
    simp only [register]
    split <;> exact ⟨fun _ => rfl, rfl⟩
  case h_13 =>
    simp only [unregister]
    split <;> exact ⟨fun _ => rfl, rfl⟩
  all_goals exact ⟨fun _ => rfl, rfl⟩

theorem serve_stamps (cycle : Cycle) :
    (shared.serve stack cycle).Stamps none shared := by
  simp only [serve]
  split
  · refine ⟨fun _ => rfl, ?_⟩
    rcases cycle with ⟨_, productive, after⟩
    cases after <;> cases productive <;> rfl
  · split
    · exact ⟨fun _ => rfl, rfl⟩
    · rename_i popped
      rcases Option.map_eq_some_iff.mp popped with ⟨_, _, equal⟩
      cases equal
      exact ⟨fun _ => rfl, rfl⟩

theorem route_stamps (alive : SessionHandle → Bool) (entry : Sequenced Item)
    (cycle : Cycle) :
    (shared.route alive stack entry cycle).Stamps none shared := by
  simp only [route]
  split
  · split <;> exact ⟨fun kind => by cases kind <;> rfl, rfl⟩
  · split <;> exact ⟨fun kind => by cases kind <;> rfl, rfl⟩

theorem check_stamps (idle : Bool) (watch : Nat) :
    (shared.check stack idle watch).Stamps none shared := by
  simp only [check]
  split
  · exact ⟨fun _ => rfl, rfl⟩
  · refine ⟨fun kind => ?_, by cases idle <;> rfl⟩
    cases shared.reportDue watch <;> cases kind <;> rfl

theorem launch_stamps (client : Client σ κ ν) (task : ThreadId) :
    (shared.launch client stack task).Stamps none shared := by
  constructor
  · intro kind
    exact congrArg (·.counters.lastMillis kind)
      (launch_dispatcher client shared stack task)
  · rfl

theorem start_stamps (client : Client σ κ ν) (around : Surroundings) :
    (shared.start client around stack).Stamps none shared := by
  simp only [start]
  split
  · split
    · exact ⟨fun _ => rfl, rfl⟩
    · split
      · exact shared.launch_stamps stack client _
      · split
        · exact ⟨fun _ => rfl, rfl⟩
        · rename_i task _ _ ending _
          have launched :=
            (shared.noticeReplaced task ending).launch_stamps stack client
            around.fresh
          refine ⟨fun kind => (launched.lastMillis kind).trans ?_,
            launched.pushes⟩
          cases ending <;> rfl
  · exact ⟨fun _ => rfl, rfl⟩
  · exact ⟨fun _ => rfl, rfl⟩

theorem stop_stamps : (shared.stop stack).Stamps none shared := by
  simp only [stop]
  split
  · split
    · exact ⟨fun _ => rfl, rfl⟩
    · split <;> exact ⟨fun _ => rfl, rfl⟩
  · exact ⟨fun _ => rfl, rfl⟩
  · exact ⟨fun _ => rfl, rfl⟩

theorem awaitTask_stamps (client : Client σ κ ν) (around : Surroundings)
    (task : ThreadId) :
    (shared.awaitTask client around stack task).Stamps none shared := by
  apply stamps_of_same
  · exact shared.awaitTask_dispatcher client around stack task
  · simp only [awaitTask]
    split <;> rfl

/-! ## All moves -/

theorem execute_stamps (client : Client σ κ ν) (around : Surroundings)
    {instruction : Instruction} (fits : instruction.Fits stack) :
    (shared.execute client around stack instruction).Stamps
    (Control.run instruction).stamps?
      shared := by
  cases instruction with
  | perform request => exact shared.perform_stamps stack client around request
  | call callback =>
      have called :=
        clientMove_stamps (shared.record (.called callback)) stack
          (some callback)
        (client.begin callback shared.client)
      exact ⟨called.lastMillis, called.pushes⟩
  | stamp item => exact shared.stamp_stamps stack item
  | signal entry next =>
      rcases fits.1 with ⟨answer, rfl⟩ | ⟨task, rfl⟩
      · exact ⟨fun _ => rfl, rfl⟩
      · exact ⟨fun _ => rfl, rfl⟩
  | cycle cycle => exact shared.serve_stamps stack cycle
  | route entry cycle => exact shared.route_stamps stack _ entry cycle
  | check idle watch => exact shared.check_stamps stack idle watch
  | await watch =>
      simp only [execute, await]
      split <;> exact ⟨fun _ => rfl, rfl⟩
  | parked watch =>
      simp only [execute, parked]
      split <;> exact ⟨fun _ => rfl, rfl⟩
  | recheck watch =>
      simp only [execute, recheck]
      split <;> exact ⟨fun _ => rfl, rfl⟩
  | leave =>
      simp only [execute, leave]
      split <;> exact ⟨fun _ => rfl, rfl⟩
  | create descriptor =>
      simp only [execute, create]
      split <;> exact ⟨fun _ => rfl, rfl⟩
  | insert descriptor stream =>
      simp only [execute, insert]
      split <;> exact ⟨fun _ => rfl, rfl⟩
  | delete descriptor =>
      simp only [execute, delete]
      split <;> exact ⟨fun _ => rfl, rfl⟩
  | remove descriptor stream =>
      simp only [execute, remove]
      split <;> exact ⟨fun _ => rfl, rfl⟩
  | start => exact shared.start_stamps stack client around
  | stop => exact shared.stop_stamps stack
  | awaitTask task => exact shared.awaitTask_stamps stack client around task
  | join task =>
      simp only [execute, join]
      split <;> exact ⟨fun _ => rfl, rfl⟩
  | _ => exact ⟨fun _ => rfl, rfl⟩

theorem deliver_stamps (client : Client σ κ ν) {control : Control}
    (arrives : ∀ instruction, control ≠ .run instruction) (frame : Frame κ) :
    (shared.deliver client stack control frame).Stamps none shared := by
  simp only [deliver]
  split
  case h_1 | h_2 => exact shared.clientMove_stamps stack _ _
  case h_3 =>
    exact ⟨fun kind => Counters.lastMillis_frameDelivered _ _ kind, rfl⟩
  case h_8 descriptor reply => cases reply.stream <;> exact ⟨fun _ => rfl, rfl⟩
  case h_10 descriptor stream reply => cases reply.accepted <;>
    exact ⟨fun _ => rfl, rfl⟩
  case h_12 =>
    refine ⟨fun _ => rfl, ?_⟩
    cases control with
    | run instruction => exact absurd rfl (arrives instruction)
    | _ => rfl
  case h_4 | h_7 =>
    exact ⟨fun kind => by cases kind <;> rfl, Cycle.pushes?_afterLoss _ _⟩
  all_goals exact ⟨fun kind => by cases kind <;> rfl, rfl⟩

/-- A move stamps the item with which its thread begins a submission, and no
other. -/
theorem move_stamps (client : Client σ κ ν) (around : Surroundings)
    {control : Control} (fits : control.Fits stack) :
    (shared.move client around stack control).Stamps control.stamps?
      shared := by
  cases control with
  | run instruction => exact shared.execute_stamps stack client around fits
  | reply | answer | raise | cancelled =>
      cases stack with
      | nil => exact ⟨fun _ => rfl, rfl⟩
      | cons frame rest =>
          exact shared.deliver_stamps rest client
            (fun _ => Control.noConfusion) frame

theorem SameItems.submittedItems {after : Shared σ ν}
    (same : shared.SameItems after) :
    after.submittedItems = shared.submittedItems := by
  simp only [Shared.submittedItems]
  rw [same.told Happening.concernsItem_of_submitted?]

theorem clientMove_submittedItems (callback : Option Callback)
    (turn : ClientTurn σ κ ν) :
    (shared.clientMove stack callback turn).shared.submittedItems =
      shared.submittedItems := by
  have noted := (shared.noting_sameItems turn).submittedItems
  simp only [clientMove]
  cases turn.move with
  | perform request next => exact noted
  | finish reply => cases callback <;> exact noted
  | panic payload => cases callback <;> exact noted

/-- A move pushes the item that its thread has stamped, and no other. -/
theorem move_submittedItems (client : Client σ κ ν) (around : Surroundings)
    {control : Control} (fits : control.Fits stack) :
    (shared.move client around stack control).shared.submittedItems =
      shared.submittedItems ++ control.pushes?.toList := by
  cases pushes : control.pushes? with
  | some item =>
      have runs : control = .run (.push item) := by
        simp only [Control.pushes?] at pushes
        split at pushes
        · rw [Option.some.inj pushes]
        · cases pushes
      subst runs
      simp [submittedItems, move, execute, push, Turn.run, Turn.pass,
        Shared.record, dispatch, Happening.submitted?, Dispatcher.nextEntry]
  | none =>
      have handles := shared.move_handles client around fits
      generalize shared.move client around stack control = turn at handles
      rw [Option.toList_none, List.append_nil]
      cases handles with
      | aside before turns => exact turns.same.submittedItems
      | pushes stack item => cases pushes
      | drains stack next popped => rfl
      | routes stack entry cycle =>
          simp only [route]
          split
          · split <;> rfl
          · split <;> rfl
      | calls fits => exact clientMove_submittedItems _ _ _ _
      | resumes state response before fits =>
          exact clientMove_submittedItems _ _ _ _
      | sent | lost | received | refused => rfl

end Shared

namespace World

/-! ## What an occurrence does -/

/-- The item with which a submission begins in an occurrence. -/
def stamped? (world : World σ κ ν) : Occurrence κ → Option Item
  | .step self =>
      (world.threads[self]?).bind fun thread => thread.control.stamps?
  | _ => none

/-- The items with which submissions begin in a run, oldest first. -/
def stampings (client : Client σ κ ν) (world : World σ κ ν) :
    List (Occurrence κ) → List Item
  | [] => []
  | occurrence :: rest =>
      (world.stamped? occurrence).toList ++
        (world.after client occurrence).stampings client rest

/-- The items that were stamped and are about to be pushed. -/
def inHand (world : World σ κ ν) : List Item :=
  world.threads.flatMap fun thread => thread.control.pushes?.toList

variable {client : Client σ κ ν} {world next : World σ κ ν}
  {occurrence : Occurrence κ}

/-- Where no thread moves, nothing is stamped. -/
theorem Becomes.lastMillis (becomes : Becomes client world occurrence next)
    (still : ∀ self, occurrence ≠ .step self) (kind : MediaKind) :
    next.shared.lastMillis kind = world.shared.lastMillis kind := by
  cases becomes with
  | moved found => exact absurd rfl (still _)
  | stopAbandoned found waits =>
      exact congrArg (·.counters.lastMillis kind)
        (world.shared.updateApplication_dispatcher _)
  | _ => rfl

/-- Where no thread moves, nothing is pushed, and what is in hand stays
there. -/
theorem Becomes.inHand (becomes : Becomes client world occurrence next)
    (still : ∀ self, occurrence ≠ .step self) :
    next.inHand.Perm world.inHand := by
  have put {self : ThreadId} {thread replacement : Thread κ}
      (found : world.threads[self]? = some thread)
      (before : thread.control.pushes? = none)
      (after : replacement.control.pushes? = none) :
      (world.put self replacement).inHand.Perm world.inHand := by
    have replaced :=
      flatMap_set_perm (fun thread => thread.control.pushes?.toList) found
      replacement
    simp only [before, after, Option.toList_none, List.nil_append] at replaced
    exact replaced
  cases becomes with
  | same | waited => exact .refl _
  | moved found => exact absurd rfl (still _)
  | asked request found free =>
      exact put found (Thread.pushes?_of_isFree free) rfl
  | handed code found free =>
      exact put found (Thread.pushes?_of_isFree free) rfl
  | abandoned found waits which =>
      apply put found ?_ rfl
      obtain rfl | rfl | ⟨task, rfl⟩ := which <;> rw [waits] <;> rfl
  | stopAbandoned found waits => exact put found (by rw [waits]; rfl) rfl
  | cancelledFirst found => exact put found rfl rfl
  | cancelledParked found => exact put found rfl rfl

/-- What a thread does to the items in hand when it moves. -/
theorem afterTurn_inHand {self : ThreadId} {thread : Thread κ}
    (found : world.threads[self]? = some thread) (turn : Turn σ κ ν) :
    (thread.control.pushes?.toList ++
      (world.afterTurn self thread.role turn).inHand).Perm
      (turn.control.pushes?.toList ++ world.inHand) := by
  have replaced :=
    flatMap_set_perm (fun thread => thread.control.pushes?.toList) found
      ⟨thread.role, turn.stack, turn.control⟩
  have spawned : (world.afterTurn self thread.role turn).inHand =
      (world.threads.set self ⟨thread.role, turn.stack, turn.control⟩).flatMap
        fun thread => thread.control.pushes?.toList := by
    simp only [inHand, afterTurn]
    split
    · rw [List.flatMap_append]
      exact List.append_nil _
    · rw [List.append_nil]
  rw [spawned]
  exact replaced

variable (client)

/-- What occurs leaves the timestamp of the item that was stamped, and no
other. -/
theorem after_lastMillis (fits : ∀ thread ∈ world.threads, thread.Fits)
    (allowed : world.allows occurrence = true) (kind : MediaKind) :
    (world.after client occurrence).shared.lastMillis kind =
      ((world.stamped? occurrence).bind (·.millis? kind)).getD
      (world.shared.lastMillis kind) := by
  have becomes := after_becomes client allowed
  cases occurrence with
  | step self =>
      cases found : world.threads[self]? with
      | none =>
          simp only [after, step, stamped?, found]
          rfl
      | some thread =>
          have stamps :=
            world.shared.move_stamps thread.stack client
              (world.surroundings self)
            (fits thread (List.mem_of_getElem? found))
          rw [after, step_of_some found, stamped?, found]
          exact stamps.lastMillis kind
  | _ => exact becomes.lastMillis (by simp) kind

/-- Each item is stamped, is then in hand, and is submitted at last. -/
theorem after_taken (fits : ∀ thread ∈ world.threads, thread.Fits)
    (allowed : world.allows occurrence = true) :
    let next := world.after client occurrence
    (next.shared.submittedItems ++ next.inHand).Perm
      (world.shared.submittedItems ++ world.inHand ++
        (world.stamped? occurrence).toList) := by
  intro next
  have becomes : Becomes client world occurrence next :=
    after_becomes client allowed
  cases occurrence with
  | step self =>
      cases found : world.threads[self]? with
      | none =>
          have same : next = world := by simp only [next, after, step, found]
          rw [same, stamped?, found]
          exact .of_eq (List.append_nil _).symm
      | some thread =>
          have fits' := fits thread (List.mem_of_getElem? found)
          have stamps :=
            world.shared.move_stamps thread.stack client
              (world.surroundings self)
            fits'
          have pushed := world.shared.move_submittedItems thread.stack client
            (world.surroundings self) fits'
          have moved : next = world.afterTurn self thread.role _ :=
            step_of_some found
          have hands := afterTurn_inHand found
            (world.shared.move client
              (world.surroundings self) thread.stack thread.control)
          rw [stamps.pushes] at hands
          have submitted : next.shared.submittedItems =
              world.shared.submittedItems ++ thread.control.pushes?.toList := by
            rw [moved]
            exact pushed
          rw [submitted, stamped?, found, Option.bind_some, List.append_assoc,
            List.append_assoc, moved]
          exact (hands.trans List.perm_append_comm).append_left _
  | _ =>
      have hands := becomes.inHand (by simp)
      have same := (becomes.sameItems (by simp)).submittedItems
      simp only [same, stamped?, Option.toList_none, List.append_nil]
      exact hands.append_left _

/-- While one thing is done at a time, what is in hand is pushed next. -/
theorem after_submitted_of_orderly
    (fits : ∀ thread ∈ world.threads, thread.Fits)
    (allowed : world.allows occurrence = true)
    (orderly : world.isOrderly occurrence = true) :
    (world.after client occurrence).shared.submittedItems =
      world.shared.submittedItems ++ world.inHand := by
  have becomes := after_becomes client allowed
  cases occurrence with
  | step self =>
      have silent {thread : Thread κ} (suspended : thread.isSuspended = true) :
          thread.control.pushes?.toList = [] := by
        rw [Thread.pushes?_of_isSuspended suspended, Option.toList_none]
      cases found : world.threads[self]? with
      | none =>
          have nothing : world.inHand = [] := by
            rw [inHand, List.flatMap_eq_nil_iff]
            intro thread member
            rcases List.mem_iff_getElem?.mp member with ⟨other, stands⟩
            have differs : other ≠ self := by
              rintro rfl
              rw [found] at stands
              cases stands
            exact silent (isSuspended_of_othersSuspended orderly differs stands)
          rw [nothing, List.append_nil, after, step, found]
      | some thread =>
          have hand : world.inHand = thread.control.pushes?.toList :=
            flatMap_eq_of_others found fun other differs thread stands =>
              silent (isSuspended_of_othersSuspended orderly differs stands)
          rw [hand, after, step_of_some found]
          exact world.shared.move_submittedItems thread.stack client
            (world.surroundings self) (fits thread (List.mem_of_getElem? found))
  | _ =>
      have nothing : world.inHand = [] := by
        rw [inHand, List.flatMap_eq_nil_iff]
        intro thread member
        rw [Thread.pushes?_of_isSuspended
          (List.all_eq_true.mp orderly thread member), Option.toList_none]
      rw [nothing, List.append_nil]
      exact (becomes.sameItems (by simp)).submittedItems

/-- Where one thing is done at a time, what is stamped comes after all that
was. -/
theorem after_taken_of_orderly (fits : ∀ thread ∈ world.threads, thread.Fits)
    (allowed : world.allows occurrence = true)
    (orderly : world.isOrderly occurrence = true) :
    let next := world.after client occurrence
    next.shared.submittedItems ++ next.inHand =
      world.shared.submittedItems ++ world.inHand ++
        (world.stamped? occurrence).toList := by
  intro next
  have taken : (next.shared.submittedItems ++ next.inHand).Perm _ :=
    after_taken client fits allowed
  have submitted :
      next.shared.submittedItems =
        world.shared.submittedItems ++ world.inHand :=
    after_submitted_of_orderly client fits allowed orderly
  rw [submitted, List.perm_append_left_iff] at taken
  rw [submitted]
  congr 1
  cases stamped : world.stamped? occurrence with
  | none =>
      rw [stamped] at taken
      exact taken.eq_nil
  | some item =>
      rw [stamped] at taken
      exact List.perm_singleton.mp taken

end World

/-! ## Whole runs -/

namespace Reachable

variable {client : Client σ κ ν} {world : World σ κ ν}
  {run : List (Occurrence κ)}

/-- The last timestamp is that of the last frame with a known track that was
stamped, and remains what it was if there is none. -/
theorem lastMillis_follow (reachable : Reachable client world)
    (allowed : world.allowsAll client run = true) (kind : MediaKind) :
    (world.follow client run).shared.lastMillis kind =
      (((world.stampings client run).filterMap (·.millis? kind)).getLast?).getD
        (world.shared.lastMillis kind) := by
  induction run generalizing world with
  | nil => rfl
  | cons occurrence rest inductionHypothesis =>
      rw [World.allowsAll, Bool.and_eq_true] at allowed
      have now := World.after_lastMillis client reachable.fits allowed.1 kind
      have later :=
        inductionHypothesis (reachable.occur occurrence allowed.1) allowed.2
      have first (item? : Option Item) :
          (item?.toList.filterMap (·.millis? kind)).getLast? = item?.bind
          (·.millis? kind) := by
        cases item? with
        | none => rfl
        | some item => cases stamped : item.millis? kind <;> simp [stamped]
      rw [World.stampings, List.filterMap_append, List.getLast?_append, first,
        Option.getD_or, ← now]
      exact later

/-- In the end the items that were stamped are those submitted and those in
hand. -/
theorem taken_follow (reachable : Reachable client world)
    (allowed : world.allowsAll client run = true) :
    ((world.follow client run).shared.submittedItems ++
      (world.follow client run).inHand).Perm
      (world.shared.submittedItems ++ world.inHand ++ world.stampings
        client run) := by
  induction run generalizing world with
  | nil => exact .of_eq (List.append_nil _).symm
  | cons occurrence rest inductionHypothesis =>
      rw [World.allowsAll, Bool.and_eq_true] at allowed
      have now := World.after_taken client reachable.fits allowed.1
      have later :=
        inductionHypothesis (reachable.occur occurrence allowed.1) allowed.2
      rw [World.stampings, ← List.append_assoc]
      exact later.trans (now.append_right _)

/-- Where one thing is done at a time, they are so in this order. -/
theorem taken_follow_of_orderly (reachable : Reachable client world)
    (orderly : world.isOrderlyAll client run = true) :
    (world.follow client run).shared.submittedItems ++
    (world.follow client run).inHand =
      world.shared.submittedItems ++ world.inHand ++ world.stampings
        client run := by
  induction run generalizing world with
  | nil => exact (List.append_nil _).symm
  | cons occurrence rest inductionHypothesis =>
      rw [World.isOrderlyAll, Bool.and_eq_true, Bool.and_eq_true] at orderly
      have now := World.after_taken_of_orderly client reachable.fits orderly.1.1
        orderly.1.2
      have later :=
        inductionHypothesis (reachable.occur occurrence orderly.1.1) orderly.2
      rw [World.stampings, ← List.append_assoc, ← now]
      exact later

end Reachable

/-- A frame is dated by the track that was added last under its track id when
its descriptor was built, and not at all if there is none. -/
theorem Item.millis?_ofTracks (kind : MediaKind) (id : UInt32) (name : String)
    (tracks : List Track) (packet : MediaPacket) :
    (Item.frame kind (.ofTracks id name tracks) packet).millis? kind =
      (tracks.reverse.find? fun track => track.id = packet.track).map
        fun track =>
        track.timebase.toMillis packet.pts := by
  simp only [millis?, if_pos, Descriptor.presentationMillis?,
    Descriptor.track?_ofTracks]

/-- After any run the last timestamp of a kind of media is that of the frame of
this kind that was submitted last with a track of its own descriptor, or zero.
A submission counts from its first step, in which it stamps; these are the items
submitted and those about to be pushed, and where one thing is done at a time
they are so in this order.  No other occurrence changes the timestamp. -/
theorem World.IsOpening.shows_last_timestamps {client : Client σ κ ν}
    {world : World σ κ ν} {run : List (Occurrence κ)}
    (opening : world.IsOpening) (allowed : world.allowsAll client run = true) :
    let final := world.follow client run
    let stamped := world.stampings client run
    (∀ kind,
      final.shared.lastMillis kind =
        ((stamped.filterMap (·.millis? kind)).getLast?).getD 0) ∧
      stamped.Perm (final.shared.submittedItems ++ final.inHand) ∧
      (world.isOrderlyAll client run = true →
        stamped = final.shared.submittedItems ++ final.inHand) ∧
      (∀ moment occurrence kind, run[moment]? = some occurrence →
        ((world.upTo client run moment).stamped? occurrence).bind
        (·.millis? kind) = none →
        (world.upTo client run (moment + 1)).shared.lastMillis kind =
          (world.upTo client run moment).shared.lastMillis kind) ∧
      ∀ kind id name tracks (packet : MediaPacket),
        (Item.frame kind (.ofTracks id name tracks) packet).millis? kind =
          (tracks.reverse.find? fun track => track.id = packet.track).map
            fun track =>
            track.timebase.toMillis packet.pts := by
  intro final stamped
  have reachable : Reachable client world := .opening opening
  have zero (kind : MediaKind) : world.shared.lastMillis kind = 0 := by
    cases opening <;> cases kind <;> rfl
  have nothing : world.shared.submittedItems ++ world.inHand = [] := by
    have idle (callers : Nat) :
        (List.replicate callers (Thread.idle : Thread κ)).flatMap
        (fun thread => thread.control.pushes?.toList) = [] := by
      rw [List.flatMap_eq_nil_iff]
      intro thread member
      rw [List.eq_of_mem_replicate member]
      rfl
    cases opening with
    | application | alone => exact idle _
  have taken := reachable.taken_follow allowed
  rw [nothing, List.nil_append] at taken
  refine ⟨fun kind => ?_, taken.symm, fun orderly => ?_,
    fun moment occurrence kind next silent => ?_,
    fun kind id name tracks packet =>
      Item.millis?_ofTracks kind id name tracks packet⟩
  · rw [← zero kind]
    exact reachable.lastMillis_follow allowed kind
  · have inOrder := reachable.taken_follow_of_orderly orderly
    rw [nothing, List.nil_append] at inOrder
    exact inOrder.symm
  · have now := (World.allowsAll_take allowed moment).2 occurrence next
    rw [World.upTo_succ next,
      World.after_lastMillis client
        (reachable.upTo allowed moment).fits now kind, silent,
      Option.getD_none]

/-- The second track under an id replaces the first, though its kind is another;
a frame of an unknown track and a packet leave the timestamp as it is. -/
theorem World.IsOpening.shows_last_timestamps_of_replaced_track :
    let steps := List.replicate 8 (Occurrence.step 0 : Occurrence Unit)
    let ask (item : Item) : List (Occurrence Unit) :=
      .request 0 (.submit item) :: steps
    let descriptor := Descriptor.ofTracks 7 "camera" [.video 1, .audio 1 48000]
    let frame (track : UInt32) : Item :=
      .frame .video descriptor (.video track 96000 0 [] true)
    let world : World Unit Unit Unit :=
      .new (.new ⟨1, "app"⟩ .standard (.application .new) ()) 1
    let run := ask (frame 1) ++ ask (frame 2) ++ ask (.packet 3 [4])
    let final := world.follow .accepting run
    final.shared.lastMillis .video = Timebase.toMillis ⟨1, 48000⟩ 96000 ∧
      final.shared.lastMillis .audio = 0 := by
  intro steps ask descriptor frame world run final
  have opening : world.IsOpening := .application _ _ _ _
  have allowed : world.allowsAll .accepting run = true := by decide +kernel
  rcases opening.shows_last_timestamps allowed with ⟨last, _⟩
  have stamped :
      world.stampings .accepting run = [frame 1, frame 2, .packet 3 [4]] := by
    decide +kernel
  constructor
  · refine (last .video).trans ?_
    rw [stamped]
    rfl
  · refine (last .audio).trans ?_
    rw [stamped]
    rfl

end Switchboard
