import Switchboard.Proofs.Handling

/-!
# What a move does with streams

A stream is built by a callback, registered, removed and stopped.  Every other
move leaves the registry and what the journal says about streams as they are,
and leaves no stream in the hands of the thread that moves.  The inductive
predicate `Deals` lists the moves that deal with streams, each by its operation.
-/

namespace Switchboard

variable {σ κ ν : Type}

namespace Callback

/-- Whether a callback builds, releases or stops a stream. -/
def isAboutStream : Callback → Bool
  | .createStream _ _ | .deleteStream _ _ | .stopStream _ => true
  | _ => false

end Callback

namespace Happening

/-- Whether a happening tells of a stream: it was built, released or stopped, or
it was registered or removed. -/
def concernsStream : Happening ν → Bool
  | .called callback => callback.isAboutStream
  | .returned callback _ => callback.isAboutStream
  | .panicked callback _ => callback.isAboutStream
  | .noticed (.streamRegistered _ _ _) => true
  | .noticed (.streamUnregistered _ _ _) => true
  | _ => false

end Happening

/-- Whether a dispatcher stands alone. -/
def Host.isAlone : Host → Bool
  | .alone _ => true
  | _ => false

namespace Control

/-- The stream that a thread has had built and has not yet tried to register,
with the descriptor for which it was built. -/
def holding? (stack : List (Frame κ)) : Control → Option (Descriptor × Stream)
  | .run (.insert descriptor stream) => some (descriptor, stream)
  | .reply given =>
      match stack with
      | .creating descriptor :: _ =>
          given.stream.map fun stream => (descriptor, stream)
      | _ => none
  | _ => none

/-- The stream that a thread is about to stop. -/
def retiring? : Control → Option Stream
  | .run (.call (.stopStream stream)) => some stream
  | _ => none

/-- A control at which a thread has no stream in its hands. -/
structure IsEmptyHanded (stack : List (Frame κ)) (control : Control) :
    Prop where
  holding : control.holding? stack = none
  retiring : control.retiring? = none

end Control

/-- A thread has no stream in its hands after a loss. -/
theorem Cycle.afterLoss_isEmptyHanded (cycle : Cycle) (payload : Payload)
    (stack : List (Frame κ)) : (cycle.afterLoss payload).IsEmptyHanded stack :=
  cycle.afterLoss_rec payload ⟨rfl, rfl⟩ fun _ => ⟨rfl, rfl⟩

/-- The registry, and what the journal says about streams, are the same, and a
dispatcher that stood alone still does. -/
structure Shared.SameStreams (before after : Shared σ ν) : Prop where
  registry : after.registry = before.registry
  journal :
    after.journal.filter Happening.concernsStream =
      before.journal.filter Happening.concernsStream
  alone : before.host.isAlone = true → after.host.isAlone = true

/-- A turn that has nothing to do with streams. -/
structure Turn.LeavesStreams (shared : Shared σ ν) (turn : Turn σ κ ν) :
    Prop where
  same : shared.SameStreams turn.shared
  hands : turn.control.IsEmptyHanded turn.stack

/-- The moves that deal with streams, and all others.  Only where nobody's
application is there may a stream be registered that was not built before. -/
inductive Deals (client : Client σ κ ν) (shared : Shared σ ν) :
    List (Frame κ) → Control → Turn σ κ ν → Prop
  | aside {stack : List (Frame κ)} {control : Control} {turn : Turn σ κ ν}
      (before : control.IsEmptyHanded stack)
      (leaves : turn.LeavesStreams shared) :
      Deals client shared stack control turn
  | calls {stack : List (Frame κ)} {callback : Callback}
      (fits : (Expected.reply callback).Fits stack) :
      Deals client shared stack (.run (.call callback))
        ((shared.record (.called callback)).clientMove stack (some callback)
          (client.begin callback shared.client))
  | resumes {stack : List (Frame κ)} {callback : Callback} {control : Control}
      (state : κ) (response : Response)
      (before : control.IsEmptyHanded (.client (some callback) state :: stack))
      (fits : (Expected.reply callback).Fits stack) :
      Deals client shared (.client (some callback) state :: stack) control
        (shared.clientMove stack (some callback)
          (client.resume state response shared.client))
  | takes (stack : List (Frame κ)) (descriptor : Descriptor) (reply : Reply) :
      Deals client shared (.creating descriptor :: stack) (.reply reply)
        (shared.built stack descriptor reply.stream)
  | inserts (stack : List (Frame κ)) (descriptor : Descriptor)
      (stream : Stream) :
      Deals client shared stack (.run (.insert descriptor stream))
        (shared.insert stack descriptor stream)
  | removes (stack : List (Frame κ)) (descriptor : Descriptor)
      (stream : Stream) :
      Deals client shared stack (.run (.remove descriptor stream))
        (shared.remove stack descriptor stream)
  | registers {task : Option ThreadId} (alone : shared.host = .alone task)
      (stack : List (Frame κ)) (id : UInt32) (stream : Stream) :
      Deals client shared stack (.run (.perform (.register id stream)))
        (shared.register stack id stream)
  | unregisters {task : Option ThreadId} (alone : shared.host = .alone task)
      (stack : List (Frame κ)) (id : UInt32) :
      Deals client shared stack (.run (.perform (.unregister id)))
        (shared.unregister stack id)

namespace Shared

/-! ## Moves that have nothing to do with streams -/

theorem SameStreams.trans {first second third : Shared σ ν}
    (former : first.SameStreams second) (latter : second.SameStreams third) :
    first.SameStreams third where
  registry := latter.registry.trans former.registry
  journal := latter.journal.trans former.journal
  alone := latter.alone ∘ former.alone

/-- An application is not a dispatcher that stands alone. -/
theorem not_isAlone {shared : Shared σ ν} {application : Application}
    (hosted : shared.host = .application application) {goal : Prop}
    (alone : shared.host.isAlone = true) : goal := by
  rw [hosted] at alone
  cases alone

theorem askTypeName_sameStreams (client : Client σ κ ν) (shared : Shared σ ν) :
    shared.SameStreams (askTypeName client shared).2 := by
  simp only [askTypeName]
  split
  · rename_i hosted
    exact ⟨rfl, rfl, not_isAlone hosted⟩
  · exact ⟨rfl, rfl, id⟩
  · exact ⟨rfl, rfl, id⟩

theorem updateApplication_sameStreams (shared : Shared σ ν)
    (update : Application → Application) :
    shared.SameStreams (shared.updateApplication update) := by
  simp only [updateApplication]
  split
  · rename_i hosted
    exact ⟨rfl, rfl, not_isAlone hosted⟩
  · exact ⟨rfl, rfl, id⟩
  · exact ⟨rfl, rfl, id⟩

theorem perform_deals (client : Client σ κ ν) (shared : Shared σ ν)
    (around : Surroundings) (stack : List (Frame κ)) (request : Request) :
    Deals client shared stack (.run (.perform request))
      (shared.perform client around stack request) := by
  simp only [perform]
  split
  case h_8 =>
    exact .aside ⟨rfl, rfl⟩ ⟨askTypeName_sameStreams client shared, rfl, rfl⟩
  case h_9 hosted =>
    exact .aside ⟨rfl, rfl⟩ ⟨⟨rfl, rfl, not_isAlone hosted⟩, rfl, rfl⟩
  case h_14 => exact .aside ⟨rfl, rfl⟩ ⟨⟨rfl, rfl, fun _ => rfl⟩, rfl, rfl⟩
  case h_12 alone => exact .registers alone stack _ _
  case h_13 alone => exact .unregisters alone stack _
  all_goals exact .aside ⟨rfl, rfl⟩ ⟨⟨rfl, rfl, id⟩, rfl, rfl⟩

theorem stamp_leavesStreams (shared : Shared σ ν) (stack : List (Frame κ))
    (item : Item) : (shared.stamp stack item).LeavesStreams shared :=
  ⟨⟨rfl, rfl, id⟩, rfl, rfl⟩

theorem signal_leavesStreams (shared : Shared σ ν) (stack : List (Frame κ))
    {next : Instruction} (ends : next.EndsRequest) :
    (shared.signal stack next).LeavesStreams shared := by
  rcases ends with ⟨answer, rfl⟩ | ⟨task, rfl⟩
  all_goals exact ⟨⟨rfl, rfl, id⟩, rfl, rfl⟩

theorem serve_leavesStreams (shared : Shared σ ν) (stack : List (Frame κ))
    (cycle : Cycle) : (shared.serve stack cycle).LeavesStreams shared := by
  simp only [serve]
  split
  · rcases cycle with ⟨remaining, productive, after⟩
    cases after <;> cases productive <;> exact ⟨⟨rfl, rfl, id⟩, rfl, rfl⟩
  · split <;> exact ⟨⟨rfl, rfl, id⟩, rfl, rfl⟩

theorem route_leavesStreams (shared : Shared σ ν) (alive : SessionHandle → Bool)
    (stack : List (Frame κ)) (entry : Sequenced Item) (cycle : Cycle) :
    (shared.route alive stack entry cycle).LeavesStreams shared := by
  simp only [route]
  split
  · split <;> exact ⟨⟨rfl, rfl, id⟩, rfl, rfl⟩
  · split <;> exact ⟨⟨rfl, rfl, id⟩, rfl, rfl⟩

theorem check_leavesStreams (shared : Shared σ ν) (stack : List (Frame κ))
    (idle : Bool) (watch : Nat) :
    (shared.check stack idle watch).LeavesStreams shared := by
  simp only [check]
  split
  · exact ⟨⟨rfl, rfl, id⟩, rfl, rfl⟩
  · cases shared.reportDue watch <;> cases idle <;>
      exact ⟨⟨rfl, rfl, id⟩, rfl, rfl⟩

theorem create_leavesStreams (shared : Shared σ ν) (stack : List (Frame κ))
    (descriptor : Descriptor) :
    (shared.create stack descriptor).LeavesStreams shared := by
  simp only [create]
  split <;> exact ⟨⟨rfl, rfl, id⟩, rfl, rfl⟩

theorem delete_leavesStreams (shared : Shared σ ν) (stack : List (Frame κ))
    (descriptor : Descriptor) :
    (shared.delete stack descriptor).LeavesStreams shared := by
  simp only [delete]
  split <;> exact ⟨⟨rfl, rfl, id⟩, rfl, rfl⟩

theorem released_leavesStreams (shared : Shared σ ν) (stack : List (Frame κ))
    (descriptor : Descriptor) (stream : Stream) (accepted : Bool) :
    (shared.released stack descriptor stream accepted).LeavesStreams
      shared := by
  cases accepted <;> exact ⟨⟨rfl, rfl, id⟩, rfl, rfl⟩

theorem launch_leavesStreams (client : Client σ κ ν) (shared : Shared σ ν)
    (stack : List (Frame κ)) (task : ThreadId) :
    (shared.launch client stack task).LeavesStreams shared := by
  have lowered : shared.SameStreams (shared.dispatch (·.withStop false)) :=
    ⟨rfl, rfl, id⟩
  have filled :=
    lowered.trans (updateApplication_sameStreams _ fun application =>
    { application with worker := some task, phase := .running })
  have named := filled.trans (askTypeName_sameStreams client _)
  exact ⟨named.trans ⟨rfl, rfl, id⟩, rfl, rfl⟩

theorem start_leavesStreams (client : Client σ κ ν) (shared : Shared σ ν)
    (around : Surroundings) (stack : List (Frame κ)) :
    (shared.start client around stack).LeavesStreams shared := by
  simp only [start]
  split
  · split
    · exact ⟨⟨rfl, rfl, id⟩, rfl, rfl⟩
    · split
      · exact shared.launch_leavesStreams client stack around.fresh
      · split
        · exact ⟨⟨rfl, rfl, id⟩, rfl, rfl⟩
        · rename_i task _ _ ending _
          have replaced :
              shared.SameStreams (shared.noticeReplaced task ending) := by
            cases ending <;> exact ⟨rfl, rfl, id⟩
          obtain ⟨same, hands⟩ :=
            (shared.noticeReplaced task ending).launch_leavesStreams client
              stack around.fresh
          exact ⟨replaced.trans same, hands⟩
  · exact ⟨⟨rfl, rfl, id⟩, rfl, rfl⟩
  · exact ⟨⟨rfl, rfl, id⟩, rfl, rfl⟩

theorem stop_leavesStreams (shared : Shared σ ν) (stack : List (Frame κ)) :
    (shared.stop stack).LeavesStreams shared := by
  simp only [stop]
  split
  · rename_i hosted
    split
    · exact ⟨⟨rfl, rfl, id⟩, rfl, rfl⟩
    · split
      · exact ⟨⟨rfl, rfl, id⟩, rfl, rfl⟩
      · exact ⟨⟨rfl, rfl, not_isAlone hosted⟩, rfl, rfl⟩
  · exact ⟨⟨rfl, rfl, id⟩, rfl, rfl⟩
  · exact ⟨⟨rfl, rfl, id⟩, rfl, rfl⟩

theorem awaitTask_leavesStreams (client : Client σ κ ν) (shared : Shared σ ν)
    (around : Surroundings) (stack : List (Frame κ)) (task : ThreadId) :
    (shared.awaitTask client around stack task).LeavesStreams shared := by
  simp only [awaitTask]
  split
  · exact ⟨⟨rfl, rfl, id⟩, rfl, rfl⟩
  · rename_i ending _
    have unlocked := shared.updateApplication_sameStreams fun application =>
      { application with locked := false, phase := .stopped }
    refine ⟨unlocked.trans ?_, rfl, rfl⟩
    cases ending with
    | finished => exact (askTypeName_sameStreams client _).trans ⟨rfl, rfl, id⟩
    | panicked payload => exact ⟨rfl, rfl, id⟩
    | cancelled => exact ⟨rfl, rfl, id⟩

/-- What client code notes does not concern streams. -/
theorem noting_sameStreams (shared : Shared σ ν) (turn : ClientTurn σ κ ν) :
    shared.SameStreams (shared.noting turn) :=
  ⟨rfl, Happening.filter_notes (fun _ => rfl) turn.notes shared.journal, id⟩

/-- Client code that works on no callback deals with no stream. -/
theorem clientMove_none_leavesStreams (shared : Shared σ ν)
    (turn : ClientTurn σ κ ν) :
    (shared.clientMove ([] : List (Frame κ)) none turn).LeavesStreams
      shared := by
  have noted := shared.noting_sameStreams turn
  simp only [clientMove]
  cases turn.move with
  | perform request next => exact ⟨noted, rfl, rfl⟩
  | finish reply => exact ⟨noted, rfl, rfl⟩
  | panic payload => exact ⟨noted, rfl, rfl⟩

/-! ## All moves -/

theorem execute_deals (client : Client σ κ ν) (shared : Shared σ ν)
    (around : Surroundings) {stack : List (Frame κ)} {instruction : Instruction}
    (fits : instruction.Fits stack) :
    Deals client shared stack (.run instruction)
      (shared.execute client around stack instruction) := by
  have aside {instruction : Instruction} {turn : Turn σ κ ν}
      (before : (Control.run instruction).IsEmptyHanded stack)
      (leaves : turn.LeavesStreams shared) :
      Deals client shared stack (.run instruction) turn := .aside before leaves
  cases instruction with
  | perform request => exact shared.perform_deals client around stack request
  | call callback => exact .calls fits
  | insert descriptor stream => exact .inserts stack descriptor stream
  | remove descriptor stream => exact .removes stack descriptor stream
  | stamp item => exact aside ⟨rfl, rfl⟩ (shared.stamp_leavesStreams stack item)
  | signal entry next =>
      exact aside ⟨rfl, rfl⟩ (shared.signal_leavesStreams stack fits.1)
  | cycle cycle =>
      exact aside ⟨rfl, rfl⟩ (shared.serve_leavesStreams stack cycle)
  | route entry cycle =>
      exact aside ⟨rfl, rfl⟩ (shared.route_leavesStreams _ stack entry cycle)
  | check idle watch =>
      exact aside ⟨rfl, rfl⟩ (shared.check_leavesStreams stack idle watch)
  | await watch =>
      simp only [execute, await]
      split <;> exact aside ⟨rfl, rfl⟩ ⟨⟨rfl, rfl, id⟩, rfl, rfl⟩
  | parked watch =>
      simp only [execute, parked]
      split <;> exact aside ⟨rfl, rfl⟩ ⟨⟨rfl, rfl, id⟩, rfl, rfl⟩
  | recheck watch =>
      simp only [execute, recheck]
      split <;> exact aside ⟨rfl, rfl⟩ ⟨⟨rfl, rfl, id⟩, rfl, rfl⟩
  | leave =>
      simp only [execute, leave]
      split <;> exact aside ⟨rfl, rfl⟩ ⟨⟨rfl, rfl, id⟩, rfl, rfl⟩
  | create descriptor =>
      exact aside ⟨rfl, rfl⟩ (shared.create_leavesStreams stack descriptor)
  | delete descriptor =>
      exact aside ⟨rfl, rfl⟩ (shared.delete_leavesStreams stack descriptor)
  | start =>
      exact aside ⟨rfl, rfl⟩ (shared.start_leavesStreams client around stack)
  | stop => exact aside ⟨rfl, rfl⟩ (shared.stop_leavesStreams stack)
  | awaitTask task =>
      exact aside ⟨rfl, rfl⟩
        (shared.awaitTask_leavesStreams client around stack task)
  | join task =>
      simp only [execute, join]
      split
      · exact aside ⟨rfl, rfl⟩ ⟨⟨rfl, rfl, id⟩, rfl, rfl⟩
      · exact aside ⟨rfl, rfl⟩ ⟨⟨rfl, rfl, fun _ => rfl⟩, rfl, rfl⟩
  | answer | push | begin | farewell =>
      exact aside ⟨rfl, rfl⟩ ⟨⟨rfl, rfl, id⟩, rfl, rfl⟩

/-- A reply, or a panic in its place, reaches the frame that waits for it. -/
private theorem deliver_deals_of_reply (client : Client σ κ ν)
    (shared : Shared σ ν) {stack : List (Frame κ)} {frame : Frame κ}
    {callback : Callback}
    (fits : (Expected.reply callback).Fits (frame :: stack)) (reply : Reply)
    (payload : Payload) :
    Deals client shared (frame :: stack) (.reply reply)
        (shared.deliver client stack (.reply reply) frame) ∧
      Deals client shared (frame :: stack) (.raise payload)
        (shared.deliver client stack (.raise payload) frame) := by
  have awaits := (Expected.reply_fits_cons_iff.mp fits).1
  have raised {frame : Frame κ} {turn : Turn σ κ ν}
      (leaves : turn.LeavesStreams shared) :
      Deals client shared (frame :: stack) (.raise payload) turn :=
    .aside ⟨rfl, rfl⟩ leaves
  cases frame with
  | client working state => exact awaits.elim
  | creating descriptor =>
      exact ⟨.takes stack descriptor reply, raised ⟨⟨rfl, rfl, id⟩, rfl, rfl⟩⟩
  | releasing descriptor stream =>
      exact ⟨.aside ⟨rfl, rfl⟩
          (shared.released_leavesStreams stack descriptor stream
            reply.accepted),
        raised ⟨⟨rfl, rfl, id⟩, rfl, rfl⟩⟩
  | sending seq kind streamId cycle =>
      exact ⟨.aside ⟨rfl, rfl⟩ ⟨⟨rfl, rfl, id⟩, rfl, rfl⟩,
        raised ⟨⟨rfl, rfl, id⟩, cycle.afterLoss_isEmptyHanded payload stack⟩⟩
  | reporting seq session lost cycle =>
      exact ⟨.aside ⟨rfl, rfl⟩
        ⟨⟨rfl, rfl, id⟩, cycle.afterLoss_isEmptyHanded lost stack⟩,
        raised ⟨⟨rfl, rfl, id⟩, rfl, rfl⟩⟩
  | receiving | losing | stopping =>
      exact ⟨.aside ⟨rfl, rfl⟩ ⟨⟨rfl, rfl, id⟩, rfl, rfl⟩,
        raised ⟨⟨rfl, rfl, id⟩, rfl, rfl⟩⟩

theorem deliver_deals (client : Client σ κ ν) (shared : Shared σ ν)
    {stack : List (Frame κ)} {frame : Frame κ} {control : Control}
    (arrives : ∀ instruction, control ≠ .run instruction)
    (fits : control.Fits (frame :: stack)) :
    Deals client shared (frame :: stack) control
      (shared.deliver client stack control frame) := by
  have resumes (response : Response)
      (answered : Expected.answer.Fits (frame :: stack)) :
      ∃ callback state, frame = .client callback state ∧
        ∀ before : control.IsEmptyHanded (frame :: stack),
          Deals client shared (frame :: stack) control
            (shared.clientMove stack callback
              (client.resume state response shared.client)) := by
    obtain ⟨state, rfl, rfl⟩ | ⟨callback, state, rfl, replied⟩ :=
      Expected.answer_fits_cons_iff.mp answered
    · exact ⟨none, state, rfl, fun before =>
        .aside before (shared.clientMove_none_leavesStreams _)⟩
    · exact ⟨some callback, state, rfl, fun before =>
        .resumes state response before replied⟩
  cases control with
  | run instruction => exact absurd rfl (arrives instruction)
  | answer answer =>
      rcases resumes (.answered answer) fits with ⟨callback, state, rfl, moved⟩
      exact moved ⟨rfl, rfl⟩
  | reply reply =>
      rcases fits with empty | ⟨callback, fits⟩
      · exact absurd empty (List.cons_ne_nil _ _)
      · exact (deliver_deals_of_reply client shared fits reply .other).1
  | raise payload =>
      rcases fits with answered | ⟨callback, fits⟩
      · rcases resumes (.panicked payload) answered with
          ⟨callback, state, rfl, moved⟩
        exact moved ⟨rfl, rfl⟩
      · exact (deliver_deals_of_reply client shared fits .plain payload).2
  | cancelled => exact absurd fits (List.cons_ne_nil _ _)

/-- What a move does with streams is listed. -/
theorem move_deals (client : Client σ κ ν) (shared : Shared σ ν)
    (around : Surroundings) {stack : List (Frame κ)} {control : Control}
    (fits : control.Fits stack) :
    Deals client shared stack control
      (shared.move client around stack control) := by
  simp only [move]
  split
  · exact shared.execute_deals client around fits
  · rename_i arrives
    split
    · have empty : control.IsEmptyHanded ([] : List (Frame κ)) := by
        cases control with
        | run instruction => exact absurd rfl (arrives instruction)
        | _ => exact ⟨rfl, rfl⟩
      exact .aside empty ⟨⟨rfl, rfl, id⟩, empty⟩
    · exact shared.deliver_deals client arrives fits

end Shared

/-! ## A dispatcher that stands alone -/

/-- No move makes an application of a dispatcher that stands alone. -/
theorem Deals.alone {client : Client σ κ ν} {shared : Shared σ ν}
    {stack : List (Frame κ)} {control : Control} {turn : Turn σ κ ν}
    (deals : Deals client shared stack control turn)
    (alone : shared.host.isAlone = true) : turn.shared.host.isAlone = true := by
  cases deals with
  | aside before leaves => exact leaves.same.alone alone
  | @calls stack callback fits =>
      exact (shared.record (.called callback)).clientMove_cases stack callback
        (client.begin callback shared.client) (motive :=
          fun turn => turn.shared.host.isAlone)
        (fun _ _ => alone) (fun _ => alone) (fun _ => alone)
  | @resumes stack callback control state response before fits =>
      exact shared.clientMove_cases stack callback
        (client.resume state response shared.client)
        (motive := fun turn => turn.shared.host.isAlone)
        (fun _ _ => alone) (fun _ => alone) (fun _ => alone)
  | takes stack descriptor reply =>
      cases reply.stream <;> exact alone
  | inserts stack descriptor stream =>
      simp only [Shared.insert]
      split <;> exact alone
  | removes stack descriptor stream =>
      simp only [Shared.remove]
      split <;> exact alone
  | registers _ stack id stream =>
      simp only [Shared.register]
      split <;> exact alone
  | unregisters _ stack id =>
      simp only [Shared.unregister]
      split <;> exact alone

namespace World

variable {client : Client σ κ ν} {world next : World σ κ ν}
  {occurrence : Occurrence κ}

/-- Only a step of a thread deals with streams. -/
theorem Becomes.sameStreams (becomes : Becomes client world occurrence next) :
    world.shared.SameStreams next.shared ∨
      ∃ self thread, occurrence = .step self ∧
        world.threads[self]? = some thread ∧
        next.shared =
          (world.shared.move client (world.surroundings self) thread.stack
          thread.control).shared := by
  cases becomes with
  | moved found => exact .inr ⟨_, _, rfl, found, rfl⟩
  | stopAbandoned found waits =>
      exact .inl (world.shared.updateApplication_sameStreams _)
  | _ => exact .inl ⟨rfl, rfl, id⟩

/-- A dispatcher that stands alone stands alone for ever. -/
theorem Becomes.alone (becomes : Becomes client world occurrence next)
    (fits : ∀ thread ∈ world.threads, thread.Fits)
    (alone : world.shared.host.isAlone = true) :
    next.shared.host.isAlone = true := by
  rcases becomes.sameStreams with same | ⟨self, thread, _, found, moved⟩
  · exact same.alone alone
  · rw [moved]
    exact (world.shared.move_deals client (world.surroundings self)
      (fits thread (List.mem_of_getElem? found))).alone alone

/-- What belongs to an application has always belonged to one. -/
theorem Becomes.hosted (becomes : Becomes client world occurrence next)
    (fits : ∀ thread ∈ world.threads, thread.Fits)
    (hosted : next.shared.host.isAlone = false) :
    world.shared.host.isAlone = false := by
  by_contra alone
  rw [Bool.not_eq_false] at alone
  cases hosted.symm.trans (becomes.alone fits alone)

end World

end Switchboard
