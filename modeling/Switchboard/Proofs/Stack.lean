import Switchboard.Proofs.Run

/-!
# Well-formed stacks

Client code and the switchboard take turns on a stack.  Client code waits for an
answer; a frame of the switchboard waits for the reply to one callback, which
the client code above it is working on.  A cycle of the dispatch loop or of a
drain has nothing below it, and every cycle that waits on a stack has found an
item.  All threads of all reachable worlds are like this, so an item on its way
to a receiver is never lost by a frame that is left with the wrong control.
-/

namespace Switchboard

variable {σ κ ν : Type}

/-- What the top of a stack waits for. -/
inductive Expected where
  | answer
  | reply (callback : Callback)

namespace Frame

/-- Whether a frame waits for the reply to a callback. -/
def Awaits : Frame κ → Callback → Prop
  | .sending _ kind _ _, .sendFrame sent _ _ => sent = kind
  | .receiving _ session _, .receivePacket receiver _ => receiver = session
  | .reporting _ session _ _, .sessionNumber asked => asked = session
  | .creating descriptor, .createStream built _ => built = descriptor
  | .losing _ _, .stopStream _ => True
  | .releasing descriptor stream, .deleteStream released releasedStream =>
      released = descriptor ∧ releasedStream = stream
  | .stopping _, .stopStream _ => True
  | _, _ => False

/-- The cycle that goes on once a frame has had its reply. -/
def cycle? : Frame κ → Option Cycle
  | .sending _ _ _ cycle => some cycle
  | .receiving _ _ cycle => some cycle
  | .reporting _ _ _ cycle => some cycle
  | _ => none

/-- Whether a frame waits for the number of a session. -/
def isReporting : Frame κ → Bool
  | .reporting _ _ _ _ => true
  | _ => false

end Frame

/-- Whether a stack is made for what arrives. -/
def Expected.Fits : Expected → List (Frame κ) → Prop
  | .answer, [] => True
  | .answer, .client none _ :: below => below = []
  | .answer, .client (some callback) _ :: below => Fits (.reply callback) below
  | .answer, _ => False
  | .reply _, [] => False
  | .reply callback, frame :: below =>
      frame.Awaits callback ∧
        match frame.cycle? with
        | none => Fits .answer below
        | some cycle =>
            cycle.productive = true ∧
              match cycle.after with
              | .answer => Fits .answer below
              | .loop _ | .drain => below = []

/-- Whether client code that works on a callback, or on nothing in particular,
may run above a stack. -/
def ClientFits (callback : Option Callback) (stack : List (Frame κ)) : Prop :=
  match callback with
  | none => stack = []
  | some callback => (Expected.reply callback).Fits stack

/-- Whether a cycle can go on above a stack. -/
def Cycle.Fits (cycle : Cycle) (stack : List (Frame κ)) : Prop :=
  match cycle.after with
  | .answer => Expected.answer.Fits stack
  | .loop _ | .drain => stack = []

namespace Instruction

/-- Whether an instruction is one with which a request ends. -/
def EndsRequest (instruction : Instruction) : Prop :=
  (∃ answer, instruction = .answer answer) ∨
    ∃ task, instruction = .awaitTask task

/-- Whether an instruction can be carried out above a stack. -/
def Fits (stack : List (Frame κ)) : Instruction → Prop
  | .call callback => (Expected.reply callback).Fits stack
  | .cycle current => current.Fits stack
  | .route _ current => current.productive = true ∧ current.Fits stack
  | .signal _ next => next.EndsRequest ∧ Expected.answer.Fits stack
  | .begin | .check _ _ | .await _ | .parked _ | .recheck _ | .leave
      | .farewell =>
      stack = []
  | _ => Expected.answer.Fits stack

end Instruction

/-- Whether a control can be handed to a stack. -/
def Control.Fits (stack : List (Frame κ)) : Control → Prop
  | .run instruction => instruction.Fits stack
  | .answer _ => Expected.answer.Fits stack
  | .reply _ => stack = [] ∨ ∃ callback, (Expected.reply callback).Fits stack
  | .raise _ =>
      Expected.answer.Fits stack ∨
        ∃ callback, (Expected.reply callback).Fits stack
  | .cancelled => stack = []

namespace Thread

/-- Whether the control of a thread suits its stack. -/
def Fits (thread : Thread κ) : Prop :=
  thread.control.Fits thread.stack

end Thread

namespace Turn

/-- Whether a turn leaves a control that suits its stack. -/
def Fits (turn : Turn σ κ ν) : Prop :=
  turn.control.Fits turn.stack

end Turn

namespace Expected

@[simp]
theorem answer_fits_nil : answer.Fits ([] : List (Frame κ)) :=
  trivial

/-- Client code stands at the bottom of a stack or works on a callback. -/
theorem answer_fits_cons_iff {frame : Frame κ} {below : List (Frame κ)} :
    answer.Fits (frame :: below) ↔
      (∃ state, frame = .client none state ∧ below = []) ∨
        ∃ callback state, frame = .client (some callback) state ∧
          (reply callback).Fits below := by
  cases frame with
  | client callback state =>
      cases callback <;> simp [Fits]
  | _ => simp [Fits]

theorem reply_fits_cons_iff {callback : Callback} {frame : Frame κ}
    {below : List (Frame κ)} :
    (reply callback).Fits (frame :: below) ↔
      frame.Awaits callback ∧
        match frame.cycle? with
        | none => answer.Fits below
        | some cycle => cycle.productive = true ∧ cycle.Fits below := by
  cases frame <;> rfl

/-- The stack on which client code asks is the one to which it replies. -/
theorem answer_fits_client_iff {callback : Option Callback} {state : κ}
    {below : List (Frame κ)} :
    answer.Fits (.client callback state :: below) ↔
      ClientFits callback below := by
  cases callback <;> rfl

end Expected

/-- At a frame of the switchboard a reply arrives or a panic. -/
theorem Control.Fits.arrives {control : Control} {frame : Frame κ}
    {stack : List (Frame κ)} (fits : control.Fits (frame :: stack))
    (arrives : ∀ instruction, control ≠ .run instruction)
    (own : ∀ callback state, frame ≠ .client callback state) :
    (∃ reply, control = .reply reply) ∨
      ∃ payload, control = .raise payload := by
  cases control with
  | run instruction => exact absurd rfl (arrives instruction)
  | reply reply => exact .inl ⟨reply, rfl⟩
  | raise payload => exact .inr ⟨payload, rfl⟩
  | answer answer =>
      obtain ⟨state, same, _⟩ | ⟨callback, state, same, _⟩ :=
        Expected.answer_fits_cons_iff.mp fits
      · exact absurd same (own none state)
      · exact absurd same (own (some callback) state)
  | cancelled => exact absurd fits (List.cons_ne_nil _ _)

namespace Cycle

@[simp]
theorem fits_served {cycle : Cycle} {remaining : List Channel} {gave : Bool}
    {stack : List (Frame κ)} :
    (cycle.served remaining gave).Fits stack ↔ cycle.Fits stack :=
  Iff.rfl

@[simp]
theorem productive_served_true (cycle : Cycle) (remaining : List Channel) :
    (cycle.served remaining true).productive = true := by
  simp [served]

/-- Below a cycle stands client code that has asked for it, or nothing. -/
theorem Fits.answer_fits {cycle : Cycle} {stack : List (Frame κ)}
    (fits : cycle.Fits stack) : Expected.answer.Fits stack := by
  simp only [Fits] at fits
  split at fits
  · exact fits
  · rw [fits]
    trivial
  · rw [fits]
    trivial

/-- A cycle goes on after a loss if the destruction of the payload does not
panic. -/
theorem afterLoss_of_harmless (cycle : Cycle) {payload : Payload}
    (harmless : payload.aftermath? = none) :
    cycle.afterLoss payload = .run (.cycle cycle) := by
  rw [afterLoss, harmless]

/-- A cycle goes on after a loss, or the destruction of the payload leaves
it. -/
theorem afterLoss_cases (cycle : Cycle) (payload : Payload) :
    (payload.aftermath? = none ∧
      cycle.afterLoss payload = .run (.cycle cycle)) ∨
      ∃ next, payload.aftermath? = some next ∧
        cycle.afterLoss payload = .raise next := by
  cases destroyed : payload.aftermath? with
  | none => exact .inl ⟨rfl, cycle.afterLoss_of_harmless destroyed⟩
  | some next =>
      refine .inr ⟨next, rfl, ?_⟩
      rw [afterLoss, destroyed]

/-- The only instruction that can follow a loss is the next one of the cycle. -/
theorem run_of_afterLoss {cycle : Cycle} {payload : Payload}
    {instruction : Instruction}
    (runs : cycle.afterLoss payload = .run instruction) :
    instruction = .cycle cycle := by
  obtain ⟨_, goes⟩ | ⟨next, _, leaves⟩ := cycle.afterLoss_cases payload
  · exact Control.run.inj (runs.symm.trans goes)
  · cases runs.symm.trans leaves

/-- What is true of a cycle that goes on and of a panic is true of what follows
a loss. -/
@[elab_as_elim]
theorem afterLoss_rec {motive : Control → Prop} (cycle : Cycle)
    (payload : Payload) (goes : motive (.run (.cycle cycle)))
    (leaves : ∀ next, motive (.raise next)) :
    motive (cycle.afterLoss payload) := by
  obtain ⟨_, same⟩ | ⟨next, _, same⟩ := cycle.afterLoss_cases payload
  · rw [same]
    exact goes
  · rw [same]
    exact leaves next

/-- What follows a loss suits the stack of the cycle. -/
theorem Fits.afterLoss {cycle : Cycle} {stack : List (Frame κ)}
    (fits : cycle.Fits stack) (payload : Payload) :
    (cycle.afterLoss payload).Fits stack :=
  cycle.afterLoss_rec payload fits fun _ => .inl fits.answer_fits

/-- What follows a cycle suits the same stack. -/
theorem next_fits {cycle : Cycle} {stack : List (Frame κ)}
    (fits : cycle.Fits stack) :
    cycle.next.Fits stack := by
  rcases cycle with ⟨remaining, productive, after⟩
  cases after with
  | answer => exact fits
  | loop watch => exact fits
  | drain =>
      simp only [next]
      split
      · exact fits
      · exact fits

end Cycle

/-- Below a frame that has had its reply client code stands, or nothing. -/
theorem Expected.answer_fits_beneath {callback : Callback} {frame : Frame κ}
    {stack : List (Frame κ)}
    (fits : (Expected.reply callback).Fits (frame :: stack)) :
    Expected.answer.Fits stack := by
  rcases Expected.reply_fits_cons_iff.mp fits with ⟨_, below⟩
  split at below
  · exact below
  · exact below.2.answer_fits

theorem Control.Fits.answer_beneath {control : Control} {frame : Frame κ}
    {stack : List (Frame κ)} (fits : control.Fits (frame :: stack))
    (arrives : ∀ instruction, control ≠ .run instruction)
    (own : ∀ callback state, frame ≠ .client callback state) :
    Expected.answer.Fits stack := by
  obtain ⟨reply, rfl⟩ | ⟨payload, rfl⟩ := fits.arrives arrives own
  · rcases fits with empty | ⟨callback, replied⟩
    · exact absurd empty (List.cons_ne_nil _ _)
    · exact Expected.answer_fits_beneath replied
  · rcases fits with answered | ⟨callback, replied⟩
    · obtain ⟨state, same, _⟩ | ⟨callback, state, same, _⟩ :=
        Expected.answer_fits_cons_iff.mp answered
      · exact absurd same (own none state)
      · exact absurd same (own (some callback) state)
    · exact Expected.answer_fits_beneath replied

namespace Shared

/-! ## A move leaves a well-formed stack -/

theorem clientMove_fits (shared : Shared σ ν) {stack : List (Frame κ)}
    {callback : Option Callback} (turn : ClientTurn σ κ ν)
    (fits : ClientFits callback stack) :
    (shared.clientMove stack callback turn).Fits := by
  simp only [clientMove]
  cases move : turn.move with
  | perform request next => exact Expected.answer_fits_client_iff.mpr fits
  | finish reply =>
      cases callback with
      | none => exact .inl fits
      | some callback => exact .inr ⟨callback, fits⟩
  | panic payload =>
      cases callback with
      | none =>
          left
          change stack = [] at fits
          rw [fits]
          trivial
      | some callback => exact .inr ⟨callback, fits⟩

theorem perform_fits (client : Client σ κ ν) (shared : Shared σ ν)
    (around : Surroundings) {stack : List (Frame κ)} (request : Request)
    (fits : Expected.answer.Fits stack) :
    (shared.perform client around stack request).Fits := by
  simp only [perform]
  split
  case h_9 => exact ⟨.inl ⟨_, rfl⟩, fits⟩
  case h_11 => exact ⟨.inl ⟨_, rfl⟩, fits⟩
  case h_12 =>
    simp only [register]
    split <;> exact fits
  case h_13 =>
    simp only [unregister]
    split <;> exact fits
  all_goals exact fits

theorem serve_fits (shared : Shared σ ν) {stack : List (Frame κ)}
    {cycle : Cycle} (fits : cycle.Fits stack) :
    (shared.serve stack cycle).Fits := by
  simp only [serve]
  split
  · exact cycle.next_fits fits
  · split
    · exact fits
    · exact ⟨Cycle.productive_served_true _ _, fits⟩

theorem route_fits (shared : Shared σ ν) (alive : SessionHandle → Bool)
    {stack : List (Frame κ)} (entry : Sequenced Item) {cycle : Cycle}
    (productive : cycle.productive = true) (fits : cycle.Fits stack) :
    (shared.route alive stack entry cycle).Fits := by
  simp only [route]
  split
  · split
    · exact Expected.reply_fits_cons_iff.mpr ⟨rfl, productive, fits⟩
    · exact fits
  · split
    · exact Expected.reply_fits_cons_iff.mpr ⟨rfl, productive, fits⟩
    · exact fits

theorem start_fits (client : Client σ κ ν) (shared : Shared σ ν)
    (around : Surroundings) {stack : List (Frame κ)}
    (fits : Expected.answer.Fits stack) :
    (shared.start client around stack).Fits := by
  simp only [start]
  split
  · split
    · exact fits
    · split
      · exact fits
      · split <;> exact fits
  · exact fits
  · exact fits

theorem stop_fits (shared : Shared σ ν) {stack : List (Frame κ)}
    (fits : Expected.answer.Fits stack) : (shared.stop stack).Fits := by
  simp only [stop]
  split
  · split
    · exact fits
    · split
      · exact fits
      · exact ⟨.inr ⟨_, rfl⟩, fits⟩
  · exact fits
  · exact fits

theorem create_fits (shared : Shared σ ν) {stack : List (Frame κ)}
    (descriptor : Descriptor) (fits : Expected.answer.Fits stack) :
    (shared.create stack descriptor).Fits := by
  simp only [create]
  split
  · exact fits
  · exact Expected.reply_fits_cons_iff.mpr ⟨rfl, fits⟩

theorem insert_fits (shared : Shared σ ν) {stack : List (Frame κ)}
    (descriptor : Descriptor) (stream : Stream)
    (fits : Expected.answer.Fits stack) :
    (shared.insert stack descriptor stream).Fits := by
  simp only [insert]
  split
  · exact Expected.reply_fits_cons_iff.mpr ⟨trivial, fits⟩
  · exact fits

theorem delete_fits (shared : Shared σ ν) {stack : List (Frame κ)}
    (descriptor : Descriptor) (fits : Expected.answer.Fits stack) :
    (shared.delete stack descriptor).Fits := by
  simp only [delete]
  split
  · exact fits
  · exact Expected.reply_fits_cons_iff.mpr ⟨⟨rfl, rfl⟩, fits⟩

theorem remove_fits (shared : Shared σ ν) {stack : List (Frame κ)}
    (descriptor : Descriptor) (stream : Stream)
    (fits : Expected.answer.Fits stack) :
    (shared.remove stack descriptor stream).Fits := by
  simp only [remove]
  split
  · exact fits
  · exact Expected.reply_fits_cons_iff.mpr ⟨trivial, fits⟩

theorem execute_fits (client : Client σ κ ν) (shared : Shared σ ν)
    (around : Surroundings) {stack : List (Frame κ)} {instruction : Instruction}
    (fits : instruction.Fits stack) :
    (shared.execute client around stack instruction).Fits := by
  cases instruction with
  | perform request => exact shared.perform_fits client around request fits
  | call callback =>
      exact clientMove_fits _ _ fits
  | answer answer => exact fits
  | stamp item => exact fits
  | push item => exact ⟨.inl ⟨_, rfl⟩, fits⟩
  | signal entry next =>
      rcases fits with ⟨⟨answer, rfl⟩ | ⟨task, rfl⟩, fits⟩
      · exact fits
      · exact fits
  | cycle cycle => exact shared.serve_fits fits
  | route entry cycle => exact shared.route_fits _ entry fits.1 fits.2
  | begin => exact fits
  | check idle watch =>
      change stack = [] at fits
      subst fits
      simp only [execute, check]
      split
      · rfl
      · cases idle <;> rfl
  | await watch =>
      simp only [execute, await]
      split <;> exact fits
  | parked watch =>
      simp only [execute, parked]
      split <;> exact fits
  | recheck watch =>
      change stack = [] at fits
      subst fits
      simp only [execute, recheck]
      split <;> rfl
  | leave =>
      change stack = [] at fits
      subst fits
      simp only [execute, leave]
      split <;> rfl
  | farewell =>
      change stack = [] at fits
      subst fits
      trivial
  | create descriptor => exact shared.create_fits descriptor fits
  | insert descriptor stream => exact shared.insert_fits descriptor stream fits
  | delete descriptor => exact shared.delete_fits descriptor fits
  | remove descriptor stream => exact shared.remove_fits descriptor stream fits
  | start => exact shared.start_fits client around fits
  | stop => exact shared.stop_fits fits
  | awaitTask task =>
      simp only [execute, awaitTask]
      split <;> exact fits
  | join task =>
      simp only [execute, join]
      split <;> exact fits

/-- A panic passes a frame of the switchboard and meets client code, or the
end. -/
private theorem raise_fits_below {callback : Callback} {frame : Frame κ}
    {stack : List (Frame κ)}
    (fits : (Expected.reply callback).Fits (frame :: stack))
    (payload : Payload) : (Control.raise payload).Fits stack :=
  .inl (Expected.answer_fits_beneath fits)

/-- The frame that waits for a callback takes its reply, or the panic in its
place. -/
private theorem deliver_fits_of_reply (client : Client σ κ ν)
    (shared : Shared σ ν) {stack : List (Frame κ)} {frame : Frame κ}
    {callback : Callback}
    (fits : (Expected.reply callback).Fits (frame :: stack)) (reply : Reply)
    (payload : Payload) :
    (shared.deliver client stack (.reply reply) frame).Fits ∧
      (shared.deliver client stack (.raise payload) frame).Fits := by
  have raised := raise_fits_below fits payload
  rcases Expected.reply_fits_cons_iff.mp fits with ⟨awaits, below⟩
  cases frame with
  | client working state => exact awaits.elim
  | sending seq kind streamId cycle =>
      exact ⟨below.2, below.2.afterLoss payload⟩
  | receiving seq session cycle =>
      exact ⟨below.2, Expected.reply_fits_cons_iff.mpr ⟨rfl, below⟩⟩
  | reporting seq session lost cycle => exact ⟨below.2.afterLoss lost, raised⟩
  | creating descriptor =>
      constructor
      · simp only [deliver, built]
        split <;> exact below
      · exact raised
  | losing descriptor error => exact ⟨below, raised⟩
  | releasing descriptor stream =>
      constructor
      · simp only [deliver, released]
        split <;> exact below
      · exact raised
  | stopping descriptor => exact ⟨below, raised⟩

theorem deliver_fits (client : Client σ κ ν) (shared : Shared σ ν)
    {stack : List (Frame κ)} {frame : Frame κ} {control : Control}
    (arrives : ∀ instruction, control ≠ .run instruction)
    (fits : control.Fits (frame :: stack)) :
    (shared.deliver client stack control frame).Fits := by
  -- Above client code only an answer or a panic can arrive.
  have resumes (response : Response)
      (answered : Expected.answer.Fits (frame :: stack)) :
      ∃ callback state, frame = .client callback state ∧
        (shared.clientMove stack callback
          (client.resume state response shared.client)).Fits := by
    obtain ⟨state, rfl, empty⟩ | ⟨callback, state, rfl, replied⟩ :=
      Expected.answer_fits_cons_iff.mp answered
    · exact ⟨none, state, rfl, shared.clientMove_fits _ empty⟩
    · exact ⟨some callback, state, rfl, shared.clientMove_fits _ replied⟩
  cases control with
  | run instruction => exact absurd rfl (arrives instruction)
  | answer answer =>
      rcases resumes (.answered answer) fits with ⟨callback, state, rfl, moved⟩
      exact moved
  | reply reply =>
      rcases fits with empty | ⟨callback, fits⟩
      · exact absurd empty (List.cons_ne_nil _ _)
      · exact (deliver_fits_of_reply client shared fits reply .other).1
  | raise payload =>
      rcases fits with answered | ⟨callback, fits⟩
      · rcases resumes (.panicked payload) answered with
          ⟨callback, state, rfl, moved⟩
        exact moved
      · exact (deliver_fits_of_reply client shared fits .plain payload).2
  | cancelled => exact absurd fits (List.cons_ne_nil _ _)

/-- A move leaves a control that suits the stack. -/
theorem move_fits (client : Client σ κ ν) (shared : Shared σ ν)
    (around : Surroundings) {stack : List (Frame κ)} {control : Control}
    (fits : control.Fits stack) :
    (shared.move client around stack control).Fits := by
  simp only [move]
  split
  · exact shared.execute_fits client around fits
  · rename_i arrives
    split
    · exact fits
    · exact shared.deliver_fits client arrives fits

end Shared

/-- In a reachable world the control of every thread suits its stack. -/
theorem Reachable.fits {client : Client σ κ ν} {world : World σ κ ν}
    (reachable : Reachable client world) :
    ∀ thread ∈ world.threads, thread.Fits := by
  induction reachable with
  | opening opening =>
      cases opening with
      | application | alone =>
          intro thread member
          rw [List.eq_of_mem_replicate member]
          trivial
  | @occur world occurrence _ allowed inductionHypothesis =>
      refine (World.after_becomes client allowed).forall_threads
        inductionHypothesis
        ?_ rfl ?_ ?_ ?_ rfl
      · intro self thread _ _ fits
        exact world.shared.move_fits client _ fits
      · intro thread request free
        change Expected.answer.Fits thread.stack
        rw [Thread.stack_of_isFree free]
        trivial
      · intro thread code free
        rfl
      · intro thread instruction waits which fits
        simp only [Thread.Fits] at fits
        rw [waits] at fits
        rcases which with rfl | rfl | ⟨task, rfl⟩ | ⟨task, rfl⟩
        all_goals exact fits

end Switchboard
