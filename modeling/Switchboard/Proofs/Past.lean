import Switchboard.Proofs.Moments

/-!
# The past

The journal is written and never read.  A world that has a longer past than
another, and is otherwise the same, therefore goes on in the same way: whatever
occurs, the same things happen in both, and they remain the same apart from the
past.  A world is put onto a past by appending the past to its journal.
-/

namespace Switchboard

variable {σ κ ν : Type}

namespace Shared

/-- The same state with a longer past. -/
def onto (shared : Shared σ ν) (past : List (Happening ν)) : Shared σ ν :=
  { shared with journal := shared.journal ++ past }

/-- The same state without its past. -/
def now (shared : Shared σ ν) : Shared σ ν :=
  { shared with journal := [] }

variable (shared : Shared σ ν) (past : List (Happening ν))

@[simp]
theorem onto_host : (shared.onto past).host = shared.host :=
  rfl

@[simp]
theorem onto_dispatcher : (shared.onto past).dispatcher = shared.dispatcher :=
  rfl

@[simp]
theorem onto_registry : (shared.onto past).registry = shared.registry :=
  rfl

end Shared

namespace Turn

/-- The same turn with a longer past. -/
def onto (turn : Turn σ κ ν) (past : List (Happening ν)) : Turn σ κ ν :=
  { turn with shared := turn.shared.onto past }

end Turn

namespace Shared

variable (shared : Shared σ ν) (past : List (Happening ν))
  (stack : List (Frame κ))

/-! ## The operations -/

theorem updateApplication_onto (update : Application → Application) :
    (shared.onto past).updateApplication update =
    (shared.updateApplication update).onto past := by
  simp only [updateApplication, onto_host]
  split <;> rfl

theorem askTypeName_onto (client : Client σ κ ν) :
    askTypeName client (shared.onto past) =
      ((askTypeName client shared).1,
        (askTypeName client shared).2.onto past) := by
  simp only [askTypeName, onto_host]
  split <;> rfl

theorem clientMove_onto (callback : Option Callback) (turn : ClientTurn σ κ ν) :
    (shared.onto past).clientMove stack callback turn =
      (shared.clientMove stack callback turn).onto past := by
  simp only [clientMove, onto, ← List.append_assoc]
  cases turn.move with
  | perform request next => rfl
  | finish reply => cases callback <;> rfl
  | panic payload => cases callback <;> rfl

theorem view_onto (around : Surroundings) :
    (shared.onto past).view around = shared.view around := by
  simp only [view, onto]

theorem register_onto (id : UInt32) (stream : Stream) :
    (shared.onto past).register stack id stream =
    (shared.register stack id stream).onto past := by
  simp only [register, onto_registry]
  split <;> rfl

theorem unregister_onto (id : UInt32) :
    (shared.onto past).unregister stack id =
    (shared.unregister stack id).onto past := by
  simp only [unregister, onto_registry]
  split <;> rfl

theorem perform_onto (client : Client σ κ ν) (around : Surroundings)
    (request : Request) :
    (shared.onto past).perform client around stack request =
      (shared.perform client around stack request).onto past := by
  have named := shared.askTypeName_onto past client
  have shown := shared.view_onto past around
  have registering := shared.register_onto past stack
  have unregistering := shared.unregister_onto past stack
  simp only [perform, onto_host, named, shown, registering, unregistering]
  split <;> rfl

theorem serve_onto (cycle : Cycle) :
    (shared.onto past).serve stack cycle =
    (shared.serve stack cycle).onto past := by
  simp only [serve, onto_dispatcher]
  split
  · rfl
  · split <;> rfl

theorem route_onto (alive : SessionHandle → Bool) (entry : Sequenced Item)
    (cycle : Cycle) : (shared.onto past).route alive stack entry cycle =
      (shared.route alive stack entry cycle).onto past := by
  simp only [route, onto_registry]
  split
  · split <;> rfl
  · split <;> rfl

theorem check_onto (idle : Bool) (watch : Nat) :
    (shared.onto past).check stack idle watch =
    (shared.check stack idle watch).onto past := by
  have due : (shared.onto past).reportDue watch = shared.reportDue watch := rfl
  have raised : (shared.onto past).dispatcher = shared.dispatcher := rfl
  simp only [check, due, raised]
  split
  · rfl
  · cases shared.reportDue watch <;> rfl

theorem await_onto (self : ThreadId) (watch : Nat) :
    (shared.onto past).await stack self watch =
    (shared.await stack self watch).onto past := by
  simp only [await]
  rw [apply_ite (Turn.onto · past)]
  rfl

theorem parked_onto (self : ThreadId) (watch : Nat) :
    (shared.onto past).parked stack self watch =
    (shared.parked stack self watch).onto past := by
  simp only [parked]
  rw [apply_ite (Turn.onto · past)]
  rfl

theorem create_onto (descriptor : Descriptor) :
    (shared.onto past).create stack descriptor =
    (shared.create stack descriptor).onto past := by
  simp only [create]
  rw [apply_ite (Turn.onto · past)]
  rfl

theorem built_onto (descriptor : Descriptor) (stream : Option Stream) :
    (shared.onto past).built stack descriptor stream =
      (shared.built stack descriptor stream).onto past := by
  cases stream <;> rfl

theorem insert_onto (descriptor : Descriptor) (stream : Stream) :
    (shared.onto past).insert stack descriptor stream =
      (shared.insert stack descriptor stream).onto past := by
  simp only [insert, onto_registry]
  split <;> rfl

theorem delete_onto (descriptor : Descriptor) :
    (shared.onto past).delete stack descriptor =
    (shared.delete stack descriptor).onto past := by
  simp only [delete, onto_registry]
  split <;> rfl

theorem released_onto (descriptor : Descriptor) (stream : Stream)
    (accepted : Bool) :
    (shared.onto past).released stack descriptor stream accepted =
      (shared.released stack descriptor stream accepted).onto past := by
  cases accepted <;> rfl

theorem remove_onto (descriptor : Descriptor) (stream : Stream) :
    (shared.onto past).remove stack descriptor stream =
      (shared.remove stack descriptor stream).onto past := by
  simp only [remove, onto_registry]
  split <;> rfl

theorem launch_onto (client : Client σ κ ν) (task : ThreadId) :
    launch client (shared.onto past) stack task =
      (launch client shared stack task).onto past := by
  have lowered : (shared.onto past).dispatch (·.withStop false) =
      (shared.dispatch (·.withStop false)).onto past := rfl
  simp only [launch, lowered, updateApplication_onto, askTypeName_onto]
  rfl

theorem noticeReplaced_onto (task : ThreadId) (ending : Ending) :
    (shared.onto past).noticeReplaced task ending =
      (shared.noticeReplaced task ending).onto past := by
  cases ending <;> rfl

theorem start_onto (client : Client σ κ ν) (around : Surroundings) :
    (shared.onto past).start client around stack =
    (shared.start client around stack).onto past := by
  simp only [start, onto_host, launch_onto, noticeReplaced_onto]
  split
  · split
    · rfl
    · split
      · rfl
      · split <;> rfl
  · rfl
  · rfl

theorem stop_onto :
    (shared.onto past).stop stack = (shared.stop stack).onto past := by
  simp only [stop, onto_host]
  split
  · split
    · rfl
    · split <;> rfl
  · rfl
  · rfl

theorem noticeStopped_onto (client : Client σ κ ν) (task : ThreadId)
    (ending : Ending) :
    noticeStopped client (shared.onto past) task ending =
      (noticeStopped client shared task ending).onto past := by
  cases ending with
  | finished =>
      simp only [noticeStopped, askTypeName_onto]
      rfl
  | _ => rfl

theorem awaitTask_onto (client : Client σ κ ν) (around : Surroundings)
    (task : ThreadId) : (shared.onto past).awaitTask client around stack task =
      (shared.awaitTask client around stack task).onto past := by
  simp only [awaitTask, updateApplication_onto, noticeStopped_onto]
  split <;> rfl

theorem join_onto (around : Surroundings) (task : ThreadId) :
    (shared.onto past).join around stack task =
    (shared.join around stack task).onto past := by
  simp only [join, onto]
  split <;> rfl

/-! ## A move -/

theorem execute_onto (client : Client σ κ ν) (around : Surroundings)
    (instruction : Instruction) :
    (shared.onto past).execute client around stack instruction =
      (shared.execute client around stack instruction).onto past := by
  cases instruction with
  | perform request =>
      exact shared.perform_onto past stack client around request
  | call callback =>
      exact clientMove_onto (shared.record (.called callback)) past stack
        (some callback) _
  | cycle cycle => exact shared.serve_onto past stack cycle
  | route entry cycle => exact shared.route_onto past stack _ entry cycle
  | check idle watch => exact shared.check_onto past stack idle watch
  | await watch => exact shared.await_onto past stack around.self watch
  | parked watch => exact shared.parked_onto past stack around.self watch
  | create descriptor => exact shared.create_onto past stack descriptor
  | insert descriptor stream =>
      exact shared.insert_onto past stack descriptor stream
  | delete descriptor => exact shared.delete_onto past stack descriptor
  | remove descriptor stream =>
      exact shared.remove_onto past stack descriptor stream
  | start => exact shared.start_onto past stack client around
  | stop => exact shared.stop_onto past stack
  | awaitTask task => exact shared.awaitTask_onto past stack client around task
  | join task => exact shared.join_onto past stack around task
  | _ => rfl

theorem deliver_onto (client : Client σ κ ν) (control : Control)
    (frame : Frame κ) : (shared.onto past).deliver client stack control frame =
      (shared.deliver client stack control frame).onto past := by
  cases frame with
  | client callback state =>
      cases control with
      | answer answer => exact shared.clientMove_onto past stack callback _
      | raise payload => exact shared.clientMove_onto past stack callback _
      | _ => rfl
  | creating descriptor =>
      cases control with
      | reply reply =>
          exact shared.built_onto past stack descriptor reply.stream
      | _ => rfl
  | releasing descriptor stream =>
      cases control with
      | reply reply =>
          exact shared.released_onto past stack descriptor stream reply.accepted
      | _ => rfl
  | _ => cases control <;> rfl

/-- A move does not look at the past. -/
theorem move_onto (client : Client σ κ ν) (around : Surroundings)
    (control : Control) : (shared.onto past).move client around stack control =
      (shared.move client around stack control).onto past := by
  cases control with
  | run instruction =>
      exact shared.execute_onto past stack client around instruction
  | _ =>
      cases stack with
      | nil => rfl
      | cons frame rest => exact shared.deliver_onto past rest client _ frame

end Shared

namespace World

variable (world : World σ κ ν) (past : List (Happening ν))

/-- The same world with a longer past. -/
def onto : World σ κ ν :=
  { world with shared := world.shared.onto past }

/-- The same world without its past. -/
def now : World σ κ ν :=
  { world with shared := world.shared.now }

theorem now_onto_journal : world.now.onto world.shared.journal = world :=
  rfl

theorem onto_now : (world.onto past).now = world.now :=
  rfl

/-! ## What occurs -/

theorem step_onto (client : Client σ κ ν) (self : ThreadId) :
    (world.onto past).step client self =
    (world.step client self).onto past := by
  have same : (world.onto past).threads = world.threads := rfl
  cases found : world.threads[self]? with
  | none => simp only [step, same, found]
  | some thread =>
      rw [step_of_some found, step_of_some (same ▸ found)]
      have moved :=
        world.shared.move_onto past thread.stack client
          (world.surroundings self)
        thread.control
      change afterTurn _ _ _
        ((world.shared.onto past).move client (world.surroundings self)
        thread.stack thread.control) = _
      rw [moved]
      rfl

theorem abandon_onto (self : ThreadId) :
    (world.onto past).abandon self = (world.abandon self).onto past := by
  have freed := world.shared.updateApplication_onto past fun application =>
    { application with locked := false }
  simp only [abandon, onto] at freed ⊢
  split
  · rfl
  · rfl
  · rfl
  · rw [freed]
  · rfl

theorem cancel_onto (task : ThreadId) :
    (world.onto past).cancel task = (world.cancel task).onto past := by
  simp only [cancel, onto]
  split <;> rfl

/-- What occurs does not depend on the past, and adds to it. -/
theorem after_onto (client : Client σ κ ν) (occurrence : Occurrence κ) :
    (world.onto past).after client occurrence =
    (world.after client occurrence).onto past := by
  cases occurrence with
  | step self => exact world.step_onto past client self
  | abandon self => exact world.abandon_onto past self
  | cancel task => exact world.cancel_onto past task
  | _ => rfl

/-- A whole run goes on as it would with any other past. -/
theorem follow_onto (client : Client σ κ ν)
    (occurrences : List (Occurrence κ)) :
    (world.onto past).follow client occurrences =
      (world.follow client occurrences).onto past := by
  induction occurrences generalizing world with
  | nil => rfl
  | cons occurrence rest inductionHypothesis =>
      have first := world.after_onto past client occurrence
      have others := inductionHypothesis (world.after client occurrence)
      simp only [follow, List.foldl_cons] at others ⊢
      rw [first, others]

/-- What is allowed does not depend on the past. -/
theorem allowsAll_onto (client : Client σ κ ν)
    (occurrences : List (Occurrence κ)) :
    (world.onto past).allowsAll client occurrences =
      world.allowsAll client occurrences := by
  induction occurrences generalizing world with
  | nil => rfl
  | cons occurrence rest inductionHypothesis =>
      have now :
          (world.onto past).allows occurrence = world.allows occurrence := by
        cases occurrence <;> rfl
      have later := inductionHypothesis (world.after client occurrence)
      rw [← after_onto] at later
      simp only [allowsAll, now, later]

/-- Worlds that are the same apart from the past go on in the same way: the same
things happen, and the worlds remain the same apart from the past. -/
theorem follow_of_same_now {world other : World σ κ ν}
    (same : world.now = other.now) (client : Client σ κ ν)
    (occurrences : List (Occurrence κ)) :
    let final := world.follow client occurrences
    let final' := other.follow client occurrences
    world.allowsAll client occurrences = other.allowsAll client occurrences ∧
      final.now = final'.now ∧
      ∃ happenings, final.shared.journal = happenings ++ world.shared.journal ∧
        final'.shared.journal = happenings ++ other.shared.journal := by
  have mine := follow_onto world.now world.shared.journal client occurrences
  have others := follow_onto other.now other.shared.journal client occurrences
  have allowed :=
    allowsAll_onto world.now world.shared.journal client occurrences
  have allowed' :=
    allowsAll_onto other.now other.shared.journal client occurrences
  rw [now_onto_journal] at mine others allowed allowed'
  rw [same] at mine allowed
  constructor
  · rw [allowed, allowed']
  · constructor
    · rw [mine, others, onto_now, onto_now]
    · exact ⟨(other.now.follow client occurrences).shared.journal,
      by rw [mine]; rfl, by rw [others]; rfl⟩

end World

end Switchboard
