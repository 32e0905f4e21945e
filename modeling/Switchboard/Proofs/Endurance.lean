import Switchboard.Proofs.Handling
import Switchboard.Proofs.Moments

/-!
# What ends a cycle, and what ends a task

A cycle takes a few steps of its own, whatever the receivers do.  A receiver
that panics costs the item, which is counted, and the cycle goes on, unless a
second panic follows.  There is no guard around the question for the number of a
session that has panicked, and none around the destruction of what the first
panic carried.  If the session panics again, or that destruction does, the panic
leaves the cycle, and with it the loop of a dispatch task.  Nothing else ends a
task whose stop was not requested and whose runtime is there.
-/

namespace Switchboard

variable {σ κ ν : Type}

/-! ## Panics over the number of a session -/

/-- A panic that arrives where the number of a session is wanted is in the
journal as one of this session. -/
def Shared.Tells (shared : Shared σ ν) (stack : List (Frame κ))
    (control : Control) : Prop :=
  ∀ payload seq session lost cycle below, control = .raise payload →
    stack = .reporting seq session lost cycle :: below →
    .panicked (.sessionNumber session) payload ∈ shared.journal

/-- Nothing that arrives at client code arrives where the number of a session is
wanted. -/
theorem Shared.Tells.of_answer {shared : Shared σ ν} {stack : List (Frame κ)}
    (fits : Expected.answer.Fits stack) (control : Control) :
    shared.Tells stack control := by
  intro payload seq session lost cycle below _ stands
  subst stands
  obtain ⟨state, same, _⟩ | ⟨callback, state, same, _⟩ :=
    Expected.answer_fits_cons_iff.mp fits
  · cases same
  · cases same

namespace Shared

/-- No instruction raises a panic but the call of a callback. -/
theorem execute_raises {client : Client σ κ ν} {shared : Shared σ ν}
    {around : Surroundings} {stack : List (Frame κ)} {instruction : Instruction}
    {payload : Payload}
    (raises : (shared.execute client around stack instruction).control =
      .raise payload) :
    ∃ callback, instruction = .call callback := by
  cases instruction with
  | call callback => exact ⟨callback, rfl⟩
  | perform request =>
      simp only [execute, perform] at raises
      split at raises
      case h_12 =>
        simp only [register] at raises
        split at raises <;> cases raises
      case h_13 =>
        simp only [unregister] at raises
        split at raises <;> cases raises
      all_goals cases raises
  | cycle | route | start | stop =>
      simp only [execute, serve, route, start, launch, stop] at raises
      repeat' split at raises
      all_goals cases raises
  | check | await | parked | create | insert | delete | remove
      | awaitTask | join =>
      simp only [execute, check, await, parked, create, insert, delete,
        remove, awaitTask, join] at raises
      split at raises <;> cases raises
  | _ => cases raises

theorem clientMove_tells (shared : Shared σ ν) {stack : List (Frame κ)}
    {callback : Option Callback} (turn : ClientTurn σ κ ν)
    (fits : ClientFits callback stack) :
    let moved := shared.clientMove stack callback turn
    moved.shared.Tells moved.stack moved.control := by
  simp only [clientMove]
  cases turn.move with
  | perform request next =>
      exact fun _ _ _ _ _ _ raises => Control.noConfusion raises
  | finish reply => exact fun _ _ _ _ _ _ raises => Control.noConfusion raises
  | panic payload =>
      intro raised seq session lost cycle below raises stands
      cases raises
      change stack = _ at stands
      rw [stands] at fits
      cases callback with
      | none => exact absurd fits (List.cons_ne_nil _ _)
      | some callback =>
          have awaits := (Expected.reply_fits_cons_iff.mp fits).1
          cases callback with
          | sessionNumber asked =>
              cases awaits
              exact List.mem_cons_self
          | _ => exact awaits.elim

theorem deliver_tells (client : Client σ κ ν) (shared : Shared σ ν)
    {stack : List (Frame κ)} {frame : Frame κ} {control : Control}
    (fits : control.Fits (frame :: stack)) :
    let turn := shared.deliver client stack control frame
    turn.shared.Tells turn.stack turn.control := by
  simp only [deliver]
  split
  case h_1 callback state answer =>
    exact shared.clientMove_tells _ (Expected.answer_fits_client_iff.mp fits)
  case h_2 callback state payload =>
    rcases fits with answered | ⟨other, replied⟩
    · exact shared.clientMove_tells _
        (Expected.answer_fits_client_iff.mp answered)
    · exact (Expected.reply_fits_cons_iff.mp replied).1.elim
  case h_8 descriptor reply =>
    cases reply.stream <;> exact fun _ _ _ _ _ _ raises =>
      Control.noConfusion raises
  case h_10 descriptor stream reply =>
    cases reply.accepted <;> exact fun _ _ _ _ _ _ raises =>
      Control.noConfusion raises
  case h_12 _ _ resumes _ _ _ _ _ _ _ _ _ =>
    -- A panic that passes a frame of the switchboard meets client code below
    -- it.
    intro payload seq session lost cycle below raises stands
    change control = _ at raises
    subst raises
    exact Shared.Tells.of_answer
      (fits.answer_beneath (fun _ => Control.noConfusion)
        fun _ _ same => resumes _ _ _ same rfl)
      _ payload seq session lost cycle below rfl stands
  case h_4 | h_7 =>
    exact .of_answer
      (fits.answer_beneath (fun _ => Control.noConfusion) fun _ _ same => by
        cases same) _
  all_goals exact fun _ _ _ _ _ _ raises => Control.noConfusion raises

/-- Whatever move raises a panic over the number of a session has entered it. -/
theorem move_tells (client : Client σ κ ν) (shared : Shared σ ν)
    (around : Surroundings) {stack : List (Frame κ)} {control : Control}
    (fits : control.Fits stack) :
    let turn := shared.move client around stack control
    turn.shared.Tells turn.stack turn.control := by
  simp only [move]
  split
  · intro payload seq session lost cycle below raises stands
    rcases execute_raises raises with ⟨callback, rfl⟩
    have working : ClientFits (some callback) stack := fits
    exact clientMove_tells _ _ working payload seq session lost cycle below
      raises stands
  · split
    · exact fun _ _ _ _ _ _ _ stands =>
        absurd stands (List.cons_ne_nil _ _).symm
    · exact shared.deliver_tells client fits

end Shared

theorem Shared.Tells.mono {before after : Shared σ ν} {stack : List (Frame κ)}
    {control : Control} (tells : before.Tells stack control)
    (more : before.journal <:+ after.journal) : after.Tells stack control :=
  fun payload seq session lost cycle below raises stands =>
    more.subset (tells payload seq session lost cycle below raises stands)

/-- In a reachable world every panic over the number of a session is in the
journal. -/
theorem Reachable.tells {client : Client σ κ ν} {world : World σ κ ν}
    (reachable : Reachable client world) :
    ∀ thread ∈ world.threads,
      world.shared.Tells thread.stack thread.control := by
  induction reachable with
  | opening opening =>
      cases opening with
      | application | alone =>
          intro thread member
          rw [List.eq_of_mem_replicate member]
          exact fun _ _ _ _ _ _ raises => Control.noConfusion raises
  | @occur world occurrence reached allowed inductionHypothesis =>
      have becomes := World.after_becomes client allowed
      refine becomes.forall_threads
        (fun thread member => (inductionHypothesis thread member).mono
          becomes.journal)
        ?_ ?_ ?_ ?_ ?_ ?_
      · intro self thread steps found _
        subst steps
        have moved := world.shared.move_tells client (world.surroundings self)
          (reached.fits thread (List.mem_of_getElem? found))
        change (world.step client self).shared.Tells _ _
        rw [World.step_of_some found]
        exact moved
      · exact fun _ _ _ _ _ _ raises => Control.noConfusion raises
      · exact fun _ _ _ _ _ _ _ _ _ raises => Control.noConfusion raises
      · exact fun _ _ _ _ _ _ _ _ _ raises => Control.noConfusion raises
      · exact fun _ _ _ _ _ _ _ _ _ _ _ raises => Control.noConfusion raises
      · exact fun _ _ _ _ _ _ raises => Control.noConfusion raises

/-! ## A thread in a cycle -/

/-- How many steps a cycle may still take for the item whose callback a frame
waits for. -/
def Frame.left : Frame κ → Nat
  | .reporting _ _ _ _ => 2
  | _ => 3

/-- A thread serves a channel, routes an entry, or waits for a callback, in a
cycle that was begun above the stack `base`.  The cycle itself takes at most
`left` more steps, not counting those of its callbacks. -/
inductive InCycle (after : AfterCycle) (base : List (Frame κ)) (left : Nat) :
    List (Frame κ) → Control → Prop
  | serves {cycle : Cycle} (same : cycle.after = after)
      (enough : 4 * cycle.remaining.length + 1 ≤ left) :
      InCycle after base left base (.run (.cycle cycle))
  | routes (entry : Sequenced Item) {cycle : Cycle} (same : cycle.after = after)
      (enough : 4 * cycle.remaining.length + 4 ≤ left) :
      InCycle after base left base (.run (.route entry cycle))
  | calls (frame : Frame κ) {cycle : Cycle} {stack : List (Frame κ)}
      {control : Control} (waits : frame.cycle? = some cycle)
      (same : cycle.after = after)
      (enough : 4 * cycle.remaining.length + frame.left ≤ left)
      (stands : frame :: base <:+ stack) : InCycle after base left stack control

/-- Whether the next step of a thread in a cycle above the stack `base` is one
of the cycle itself. -/
def Control.serves (base stack : List (Frame κ)) : Control → Bool
  | .run (.cycle _) | .run (.route _ _) => stack.length = base.length
  | .run _ => false
  | _ => stack.length = base.length + 1

/-- A cycle has served all its channels, and the thread goes on with what
follows. -/
def Returns (after : AfterCycle) (base stack : List (Frame κ))
    (control : Control) (turn : Turn σ κ ν) : Prop :=
  ∃ cycle, cycle.after = after ∧ cycle.remaining = [] ∧
    stack = base ∧ control = .run (.cycle cycle) ∧
      turn.stack = base ∧ turn.control = .run cycle.next

/-- A panic leaves the cycle that was begun above the stack `base`.  Either a
session has panicked when it was asked for its number, or what a stream or a
session has panicked with over an item has panicked when it was destroyed. -/
inductive Escapes (base : List (Frame κ)) :
    List (Frame κ) → Control → Turn σ κ ν → Prop
  | number (seq : UInt64) (session : SessionHandle) (lost : Payload)
      (cycle : Cycle) (payload : Payload) {turn : Turn σ κ ν}
      (below : turn.stack = base) (leaves : turn.control = .raise payload)
      (told : .panicked (.sessionNumber session) payload ∈
        turn.shared.journal) :
      Escapes base (.reporting seq session lost cycle :: base)
        (.raise payload) turn
  | frame (seq : UInt64) (kind : MediaKind) (streamId : UInt32) (cycle : Cycle)
      {lost next : Payload} (destroyed : lost.aftermath? = some next)
      {turn : Turn σ κ ν} (below : turn.stack = base)
      (leaves : turn.control = .raise next)
      (told : .noticed (.streamPanicked kind streamId seq lost) ∈
        turn.shared.journal) :
      Escapes base (.sending seq kind streamId cycle :: base) (.raise lost) turn
  | packet (seq : UInt64) (session : SessionHandle) (cycle : Cycle)
      (reply : Reply) {lost next : Payload}
      (destroyed : lost.aftermath? = some next) {turn : Turn σ κ ν}
      (below : turn.stack = base) (leaves : turn.control = .raise next)
      (told : .noticed (.sessionPanicked reply.number seq lost) ∈
        turn.shared.journal) :
      Escapes base (.reporting seq session lost cycle :: base)
        (.reply reply) turn

/-- A panic that leaves a cycle goes on to what is below the cycle. -/
theorem Escapes.leaves {base stack : List (Frame κ)} {control : Control}
    {turn : Turn σ κ ν} (escapes : Escapes base stack control turn) :
    ∃ payload, turn.stack = base ∧ turn.control = .raise payload := by
  cases escapes with
  | number _ _ _ _ payload below leaves => exact ⟨payload, below, leaves⟩
  | frame _ _ _ _ _ below leaves => exact ⟨_, below, leaves⟩
  | packet _ _ _ _ _ below leaves => exact ⟨_, below, leaves⟩

/-- A panic leaves a cycle only from a frame at which something has arrived. -/
theorem Escapes.arrives {base stack : List (Frame κ)} {control : Control}
    {turn : Turn σ κ ν} (escapes : Escapes base stack control turn)
    (instruction : Instruction) : control ≠ .run instruction := by
  rintro rfl
  cases escapes

/-- Whether a session has panicked when it was asked for its number. -/
def Happening.isNumberPanic : Happening ν → Bool
  | .panicked (.sessionNumber _) _ => true
  | _ => false

/-- Some session has panicked when it was asked for its number. -/
def Shared.NumberPanicked (shared : Shared σ ν) : Prop :=
  ∃ happening ∈ shared.journal, happening.isNumberPanic = true

instance (shared : Shared σ ν) : Decidable shared.NumberPanicked :=
  inferInstanceAs
    (Decidable (∃ happening ∈ shared.journal, happening.isNumberPanic = true))

/-- Whether a happening tells that a panic leaves a cycle: a session has
panicked when it was asked for its number, or the log tells of a loss whose
payload panics when it is destroyed. -/
def Happening.isEscape : Happening ν → Bool
  | .panicked (.sessionNumber _) _ => true
  | .noticed (.streamPanicked _ _ _ payload) => payload.aftermath?.isSome
  | .noticed (.sessionPanicked _ _ payload) => payload.aftermath?.isSome
  | _ => false

/-- Some panic has left a cycle. -/
def Shared.Escaped (shared : Shared σ ν) : Prop :=
  ∃ happening ∈ shared.journal, happening.isEscape = true

instance (shared : Shared σ ν) : Decidable shared.Escaped :=
  inferInstanceAs
    (Decidable (∃ happening ∈ shared.journal, happening.isEscape = true))

theorem Shared.Escaped.mono {before after : Shared σ ν}
    (escaped : before.Escaped) (more : before.journal <:+ after.journal) :
    after.Escaped := by
  rcases escaped with ⟨happening, member, leaves⟩
  exact ⟨happening, more.subset member, leaves⟩

/-- The journal tells of every panic that leaves a cycle. -/
theorem Escapes.escaped {base stack : List (Frame κ)} {control : Control}
    {turn : Turn σ κ ν} (escapes : Escapes base stack control turn) :
    turn.shared.Escaped := by
  cases escapes with
  | number _ _ _ _ _ _ _ told => exact ⟨_, told, rfl⟩
  | frame _ _ _ _ destroyed _ _ told =>
      exact ⟨_, told, Option.isSome_of_eq_some destroyed⟩
  | packet _ _ _ _ destroyed _ _ told =>
      exact ⟨_, told, Option.isSome_of_eq_some destroyed⟩

/-- A turn after which a thread is still in its cycle. -/
def Turn.IsInCycle (after : AfterCycle) (base : List (Frame κ)) (left : Nat)
    (turn : Turn σ κ ν) : Prop :=
  InCycle after base left turn.stack turn.control

namespace Shared

theorem serve_isInCycle (shared : Shared σ ν) (base : List (Frame κ))
    {cycle : Cycle} {left : Nat} (enough : 4 * cycle.remaining.length ≤ left) :
    let turn := shared.serve base cycle
    turn.IsInCycle cycle.after base left ∨
      Returns cycle.after base base (.run (.cycle cycle)) turn := by
  simp only [serve]
  split
  · rename_i empty
    exact .inr ⟨cycle, rfl, empty, rfl, rfl, rfl, rfl⟩
  · rename_i channel remaining more
    rw [more, List.length_cons] at enough
    left
    split
    · exact .serves rfl (by simp only [Cycle.served]; omega)
    · exact .routes _ rfl (by simp only [Cycle.served]; omega)

theorem route_isInCycle (shared : Shared σ ν) (alive : SessionHandle → Bool)
    (base : List (Frame κ)) (entry : Sequenced Item) {cycle : Cycle}
    {left : Nat} (enough : 4 * cycle.remaining.length + 3 ≤ left) :
    (shared.route alive base entry cycle).IsInCycle cycle.after base left := by
  simp only [route]
  split
  · split
    · exact .calls (.sending _ _ _ cycle) rfl rfl enough List.suffix_rfl
    · exact .serves rfl (by omega)
  · split
    · exact .calls (.receiving _ _ cycle) rfl rfl enough List.suffix_rfl
    · exact .serves rfl (by omega)

/-- After a loss the cycle goes on, or the destruction of the payload leaves
it. -/
theorem afterLoss_isInCycle (shared : Shared σ ν) (base : List (Frame κ))
    (cycle : Cycle) (payload : Payload) {left : Nat}
    (enough : 4 * cycle.remaining.length + 1 ≤ left) :
    let turn : Turn σ κ ν := .pass shared base (cycle.afterLoss payload)
    turn.IsInCycle cycle.after base left ∨
      ∃ next, payload.aftermath? = some next ∧ turn.control = .raise next := by
  intro turn
  obtain ⟨_, goes⟩ | ⟨next, destroyed, leaves⟩ := cycle.afterLoss_cases payload
  · left
    change InCycle _ _ _ base (cycle.afterLoss payload)
    rw [goes]
    exact .serves rfl enough
  · exact .inr ⟨next, destroyed, leaves⟩

/-- Whatever a receiver does, the cycle goes on, unless a second panic leaves
it. -/
theorem deliver_isInCycle (client : Client σ κ ν) (shared : Shared σ ν)
    (base : List (Frame κ)) {control : Control} {frame : Frame κ}
    {cycle : Cycle} {left : Nat} (waits : frame.cycle? = some cycle)
    (arrives : (∃ reply, control = .reply reply) ∨
      ∃ payload, control = .raise payload)
    (tells : shared.Tells (frame :: base) control)
    (enough : 4 * cycle.remaining.length + frame.left ≤ left + 1) :
    let turn := shared.deliver client base control frame
    turn.IsInCycle cycle.after base left ∨
      Escapes base (frame :: base) control turn := by
  cases frame with
  | sending seq kind streamId waiting =>
      cases waits
      simp only [Frame.left] at enough
      obtain ⟨reply, rfl⟩ | ⟨payload, rfl⟩ := arrives
      · exact .inl (.serves rfl (by omega))
      · have served : 4 * cycle.remaining.length + 1 ≤ left := by omega
        rcases afterLoss_isInCycle ((shared.count .frameDropped).notice
          (.streamPanicked kind streamId seq payload)) base cycle
            payload served with
          stays | ⟨next, destroyed, leaves⟩
        · exact .inl stays
        · exact .inr (.frame seq kind streamId cycle destroyed rfl leaves
            List.mem_cons_self)
  | receiving seq session waiting =>
      cases waits
      simp only [Frame.left] at enough
      obtain ⟨reply, rfl⟩ | ⟨payload, rfl⟩ := arrives
      · exact .inl (.serves rfl (by omega))
      · refine .inl
          (.calls (.reporting seq session payload cycle) rfl rfl ?_
            List.suffix_rfl)
        simp only [Frame.left]
        omega
  | reporting seq session lost waiting =>
      cases waits
      simp only [Frame.left] at enough
      obtain ⟨reply, rfl⟩ | ⟨payload, rfl⟩ := arrives
      · have served : 4 * cycle.remaining.length + 1 ≤ left := by omega
        rcases afterLoss_isInCycle
          (shared.notice (.sessionPanicked reply.number seq lost))
          base cycle lost served with stays | ⟨next, destroyed, leaves⟩
        · exact .inl stays
        · exact .inr (.packet seq session cycle reply destroyed rfl leaves
            List.mem_cons_self)
      · exact .inr (.number seq session lost cycle payload rfl rfl
          (tells payload seq session lost cycle base rfl rfl))
  | _ => cases waits

/-- A thread in a cycle stays in it, unless it returns from it or a panic leaves
it. -/
theorem move_isInCycle (client : Client σ κ ν) (shared : Shared σ ν)
    (around : Surroundings) {after : AfterCycle} {base stack : List (Frame κ)}
    {control : Control} {left : Nat} (fits : control.Fits stack)
    (tells : shared.Tells stack control)
    (inCycle : InCycle after base (left + (control.serves base stack).toNat)
      stack control) :
    let turn := shared.move client around stack control
    turn.IsInCycle after base left ∨
      Returns after base stack control turn ∨
        Escapes base stack control turn := by
  cases inCycle with
  | @serves cycle same enough =>
      subst same
      simp only [Control.serves, decide_true, Bool.toNat_true] at enough
      rcases shared.serve_isInCycle base (Nat.le_of_succ_le_succ enough) with
        stays | returns
      · exact .inl stays
      · exact .inr (.inl returns)
  | @routes entry cycle same enough =>
      subst same
      simp only [Control.serves, decide_true, Bool.toNat_true] at enough
      exact .inl
        (shared.route_isInCycle _ base entry (Nat.le_of_succ_le_succ enough))
  | @calls frame cycle _ _ waits same enough stands =>
      subst same
      have longer : base.length + 1 ≤ stack.length := stands.length_le
      cases own : control.serves base stack with
      | false =>
          rw [own] at enough
          rcases shared.move_suffix client around stands with
            stays | ⟨top, arrives, _⟩
          · exact .inl (.calls frame waits rfl enough stays)
          · -- What arrives at the frame is for the cycle itself.
            subst top
            cases control with
            | run instruction => exact absurd rfl (arrives instruction)
            | _ => simp [Control.serves] at own
      | true =>
          rw [own] at enough
          have arrives : (∀ instruction, control ≠ .run instruction) ∧
              stack.length = base.length + 1 := by
            cases control with
            | run instruction =>
                cases instruction with
                | cycle | route =>
                    simp only [Control.serves, decide_eq_true_eq] at own
                    omega
                | _ => cases own
            | _ => exact ⟨fun _ => Control.noConfusion, of_decide_eq_true own⟩
          have top := stands.eq_of_length arrives.2.symm
          subst top
          have own : ∀ callback state, frame ≠ .client callback state := by
            rintro callback state rfl
            cases waits
          have delivered := shared.deliver_isInCycle client base waits
            (fits.arrives arrives.1 own) tells enough
          have moves : shared.move client around (frame :: base) control =
              shared.deliver client base control frame := by
            cases control with
            | run instruction => exact absurd rfl (arrives.1 instruction)
            | _ => rfl
          rw [moves]
          rcases delivered with stays | escapes
          · exact .inl stays
          · exact .inr (.inr escapes)

end Shared

namespace InCycle

variable {after : AfterCycle} {base stack : List (Frame κ)} {control : Control}
  {left : Nat}

theorem pos (inCycle : InCycle after base left stack control) : 0 < left := by
  cases inCycle with
  | serves same enough => omega
  | routes entry same enough => omega
  | @calls frame cycle _ _ waits same enough stands =>
      have one : 0 < frame.left := by
        cases frame <;> exact Nat.succ_pos _
      omega

theorem mono {more : Nat} (inCycle : InCycle after base left stack control)
    (larger : left ≤ more) : InCycle after base more stack control := by
  cases inCycle with
  | serves same enough => exact .serves same (Nat.le_trans enough larger)
  | routes entry same enough =>
      exact .routes entry same (Nat.le_trans enough larger)
  | calls frame waits same enough stands =>
      exact .calls frame waits same (Nat.le_trans enough larger) stands

/-- What others do, and what happens to others, leaves a thread in its cycle. -/
theorem of_others {client : Client σ κ ν} {world : World σ κ ν}
    {self : ThreadId} {thread later : Thread κ} {occurrence : Occurrence κ}
    (inCycle : InCycle after base left thread.stack thread.control)
    (fits : thread.Fits)
    (changes : thread.Changes client world self occurrence later)
    (others : occurrence ≠ .step self) :
    InCycle after base left later.stack later.control := by
  rcases thread with ⟨role, stack, control⟩
  cases inCycle with
  | serves same enough =>
      cases changes.eq_of_run rfl ⟨rfl, rfl⟩ others
      exact .serves same enough
  | routes entry same enough =>
      cases changes.eq_of_run rfl ⟨rfl, rfl⟩ others
      exact .routes entry same enough
  | calls frame waits same enough stands =>
      exact .calls frame waits same enough
        (changes.suffix_of_others fits stands others)

end InCycle

/-! ## A thread in its loop -/

/-- Whether a control is one of the dispatch loop between two cycles. -/
def Control.isBetweenCycles : Control → Bool
  | .run .begin | .run (.check _ _) | .run (.await _) | .run (.parked _)
  | .run (.recheck _) => true
  | _ => false

theorem Control.runs_of_isBetweenCycles {control : Control}
    (between : control.isBetweenCycles = true) :
    ∃ instruction, control = .run instruction ∧
      instruction.canBeAbandoned = false := by
  cases control with
  | run instruction =>
      refine ⟨instruction, rfl, ?_⟩
      cases instruction with
      | begin | check | await | parked | recheck => rfl
      | _ => cases between
  | _ => cases between

/-- A thread is in the dispatch loop, between two cycles or in one of them. -/
inductive InLoop : List (Frame κ) → Control → Prop
  | between {control : Control} (between : control.isBetweenCycles = true) :
      InLoop [] control
  | inCycle {stack : List (Frame κ)} {control : Control} (watch left : Nat)
      (inCycle : InCycle (.loop watch) [] left stack control) :
      InLoop stack control

namespace Shared

theorem move_between (client : Client σ κ ν) (shared : Shared σ ν)
    (around : Surroundings) {control : Control}
    (between : control.isBetweenCycles = true) :
    let turn := shared.move client around ([] : List (Frame κ)) control
    InLoop turn.stack turn.control ∨
      shared.dispatcher.stopRequested = true := by
  have fresh (watch : Nat) :
      InLoop ([] : List (Frame κ)) (.run (.cycle (.fresh (.loop watch)))) :=
    .inCycle watch _ (.serves rfl (Nat.le_refl _))
  simp only [Control.isBetweenCycles] at between
  split at between
  · exact .inl (.between rfl)
  · rename_i idle watch
    simp only [move, execute, check]
    split
    · rename_i raised
      exact .inr raised
    · cases idle with
      | true => exact .inl (.between rfl)
      | false => exact .inl (fresh _)
  · simp only [move, execute, await]
    split <;> exact .inl (.between rfl)
  · simp only [move, execute, parked]
    split <;> exact .inl (.between rfl)
  · simp only [move, execute, recheck]
    split
    · rename_i raised
      exact .inr raised
    · exact .inl (fresh _)
  · cases between

/-- A thread in the loop stays in it, unless it sees that a stop was requested
or a panic leaves a cycle of the loop. -/
theorem move_inLoop (client : Client σ κ ν) (shared : Shared σ ν)
    (around : Surroundings) {stack : List (Frame κ)} {control : Control}
    (fits : control.Fits stack) (tells : shared.Tells stack control)
    (inLoop : InLoop stack control) :
    let turn := shared.move client around stack control
    InLoop turn.stack turn.control ∨ shared.dispatcher.stopRequested = true ∨
      Escapes [] stack control turn := by
  cases inLoop with
  | between between =>
      rcases shared.move_between client around between with stays | raised
      · exact .inl stays
      · exact .inr (.inl raised)
  | inCycle watch left inCycle =>
      rcases shared.move_isInCycle client around fits tells
        (inCycle.mono (Nat.le_add_right _ _)) with stays | returns | escapes
      · exact .inl (.inCycle watch left stays)
      · rcases returns with ⟨cycle, same, _, _, _, empty, next⟩
        left
        rw [empty, next, Cycle.next, same]
        exact .between rfl
      · exact .inr (.inr escapes)

end Shared

/-- What others do leaves a thread in its loop, unless it is cancelled. -/
theorem InLoop.of_others {client : Client σ κ ν} {world : World σ κ ν}
    {self : ThreadId} {thread later : Thread κ} {occurrence : Occurrence κ}
    (inLoop : InLoop thread.stack thread.control) (fits : thread.Fits)
    (changes : thread.Changes client world self occurrence later)
    (others : occurrence ≠ .step self) :
    InLoop later.stack later.control ∨ occurrence = .cancel self := by
  rcases thread with ⟨role, stack, control⟩
  cases inLoop with
  | inCycle watch left inCycle =>
      exact .inl (.inCycle watch left (inCycle.of_others fits changes others))
  | between between =>
      rcases Control.runs_of_isBetweenCycles between with
        ⟨instruction, rfl, patient⟩
      cases changes with
      | stays => exact .inl (.between between)
      | moves turns => exact absurd rfl others
      | asked request free | handed code free =>
          rw [Thread.isFree_of_run rfl] at free
          cases free
      | abandoned runs waits =>
          cases runs
          rw [patient] at waits
          cases waits
      | cancelled => exact .inr rfl

/-! ## Runs -/

/-- Whether an occurrence is a step of a thread. -/
def Occurrence.isStepOf (self : ThreadId) : Occurrence κ → Bool
  | .step thread => thread = self
  | _ => false

theorem Occurrence.isStepOf_iff {self : ThreadId} {occurrence : Occurrence κ} :
    occurrence.isStepOf self = true ↔ occurrence = .step self := by
  cases occurrence with
  | step thread => simp [isStepOf]
  | _ => simp [isStepOf]

namespace World

/-- What a thread does in the step that it takes at a moment of a run. -/
def StepsAt (client : Client σ κ ν) (world : World σ κ ν)
    (run : List (Occurrence κ)) (self : ThreadId) (moment : Nat)
    (does : List (Frame κ) → Control → Turn σ κ ν → Prop) : Prop :=
  let now := world.upTo client run moment
  run[moment]? = some (.step self) ∧
    ∃ thread, now.threads[self]? = some thread ∧
      does thread.stack thread.control
        (now.shared.move client
          (now.surroundings self) thread.stack thread.control)

/-- How many steps a thread has taken, up to a moment of a run, that were those
of a cycle above the stack `base`. -/
def servings (client : Client σ κ ν) (world : World σ κ ν)
    (run : List (Occurrence κ)) (self : ThreadId) (base : List (Frame κ))
    (moment : Nat) : Nat :=
  (List.range moment).countP fun earlier =>
    (run[earlier]?).any (·.isStepOf self) &&
      ((world.upTo client run earlier).threads[self]?).any fun thread =>
        thread.control.serves base thread.stack

theorem servings_of_step {client : Client σ κ ν} {world : World σ κ ν}
    {run : List (Occurrence κ)} {self : ThreadId} (base : List (Frame κ))
    {moment : Nat} {thread : Thread κ}
    (steps : run[moment]? = some (.step self))
    (found : (world.upTo client run moment).threads[self]? = some thread) :
    world.servings client run self base (moment + 1) =
      world.servings client run self base moment +
        (thread.control.serves base thread.stack).toNat := by
  rw [servings, List.range_succ, List.countP_append, List.countP_singleton,
    steps, found, ← servings]
  cases own : thread.control.serves base thread.stack <;>
    simp [Occurrence.isStepOf, own]

theorem servings_of_other {client : Client σ κ ν} {world : World σ κ ν}
    {run : List (Occurrence κ)} {self : ThreadId} (base : List (Frame κ))
    {moment : Nat} (others : ∀ occurrence, run[moment]? = some occurrence →
      occurrence ≠ .step self) :
    world.servings client run self base (moment + 1) =
      world.servings client run self base moment := by
  have silent : (run[moment]?).any (·.isStepOf self) = false := by
    cases next : run[moment]? with
    | none => rfl
    | some occurrence =>
        rw [Option.any_some, Bool.eq_false_iff, ne_eq, Occurrence.isStepOf_iff]
        exact others occurrence next
  rw [servings, List.range_succ, List.countP_append,
    List.countP_singleton, silent, Bool.false_and, ← servings]
  rfl

end World

section

variable {client : Client σ κ ν} {world : World σ κ ν}
  {run : List (Occurrence κ)} {self : ThreadId} {thread : Thread κ}

/-- At every moment of a run a thread is in its cycle still, or has left it. -/
theorem Reachable.cycle_at (reachable : Reachable client world)
    (allowed : world.allowsAll client run = true)
    (found : world.threads[self]? = some thread) {after : AfterCycle}
    {base : List (Frame κ)} {left : Nat}
    (inCycle : InCycle after base left thread.stack thread.control)
    {moment : Nat} (inside : moment ≤ run.length) :
    (∃ now rest, (world.upTo client run moment).threads[self]? = some now ∧
        InCycle after base rest now.stack now.control ∧
          world.servings client run self base moment + rest ≤ left) ∨
      ∃ earlier < moment,
        world.StepsAt client run self earlier (Returns after base) ∨
          world.StepsAt client run self earlier (Escapes base) := by
  induction moment with
  | zero =>
      exact .inl ⟨thread, left, found, inCycle, Nat.le_of_eq (Nat.zero_add _)⟩
  | succ moment inductionHypothesis =>
      rcases inductionHypothesis (Nat.le_of_succ_le inside) with
        ⟨now, rest, stands, stays, served⟩ | ⟨earlier, before, left⟩
      · have reached := reachable.upTo allowed moment
        have fits := reached.fits now (List.mem_of_getElem? stands)
        have tells := reached.tells now (List.mem_of_getElem? stands)
        by_cases steps : run[moment]? = some (.step self)
        · -- The steps that remain are one less if this one is the cycle's own.
          have own : (now.control.serves base now.stack).toNat ≤ rest :=
            Nat.le_trans (Bool.toNat_le _) stays.pos
          obtain ⟨fewer, rfl⟩ := Nat.exists_eq_add_of_le' own
          rcases Shared.move_isInCycle client _
            ((world.upTo client run moment).surroundings self)
            fits tells stays with goesOn | left
          · refine .inl ⟨_, fewer, (World.steps_at steps stands).2, goesOn, ?_⟩
            rw [World.servings_of_step base steps stands]
            omega
          · exact .inr ⟨moment, Nat.lt_succ_self _,
              left.imp (fun returns => ⟨steps, now, stands, returns⟩)
                (fun escapes => ⟨steps, now, stands, escapes⟩)⟩
        · rcases World.changes_at allowed inside stands with
            ⟨later, stands', changes⟩
          have next : run[moment]? = some run[moment] :=
            List.getElem?_eq_getElem inside
          have others : run[moment] ≠ .step self :=
            fun same => steps (same ▸ next)
          refine .inl
            ⟨later, rest, stands', stays.of_others fits changes others, ?_⟩
          rw [World.servings_of_other base fun occurrence happens =>
            Option.some.inj (next.symm.trans happens) ▸ others]
          exact served
      · exact .inr ⟨earlier, Nat.lt_succ_of_lt before, left⟩

/-- At every moment of a run a task is in its loop still, or something has ended
it. -/
theorem Reachable.loop_at (reachable : Reachable client world)
    (allowed : world.allowsAll client run = true)
    (found : world.threads[self]? = some thread)
    (inLoop : InLoop thread.stack thread.control) {moment : Nat}
    (inside : moment ≤ run.length) :
    (∃ now, (world.upTo client run moment).threads[self]? = some now ∧
        InLoop now.stack now.control) ∨
      ∃ earlier < moment,
        (world.upTo client run earlier).shared.dispatcher.stopRequested = true ∨
          run[earlier]? = some (.cancel self) ∨
            world.StepsAt client run self earlier (Escapes []) := by
  induction moment with
  | zero => exact .inl ⟨thread, found, inLoop⟩
  | succ moment inductionHypothesis =>
      rcases inductionHypothesis (Nat.le_of_succ_le inside) with
        ⟨now, stands, stays⟩ | ⟨earlier, before, ended⟩
      · have reached := reachable.upTo allowed moment
        have fits := reached.fits now (List.mem_of_getElem? stands)
        have tells := reached.tells now (List.mem_of_getElem? stands)
        have next : run[moment]? = some run[moment] :=
          List.getElem?_eq_getElem inside
        by_cases steps : run[moment]? = some (.step self)
        · rcases Shared.move_inLoop client _
            ((world.upTo client run moment).surroundings self)
            fits tells stays with goesOn | raised | escapes
          · exact .inl ⟨_, (World.steps_at steps stands).2, goesOn⟩
          · exact .inr ⟨moment, Nat.lt_succ_self _, .inl raised⟩
          · exact .inr ⟨moment, Nat.lt_succ_self _,
              .inr (.inr ⟨steps, now, stands, escapes⟩)⟩
        · rcases World.changes_at allowed inside stands with
            ⟨later, stands', changes⟩
          have others : run[moment] ≠ .step self :=
            fun same => steps (same ▸ next)
          rcases stays.of_others fits changes others with goesOn | cancelled
          · exact .inl ⟨later, stands', goesOn⟩
          · exact .inr ⟨moment, Nat.lt_succ_self _,
              .inr (.inl (cancelled ▸ next))⟩
      · exact .inr ⟨earlier, Nat.lt_succ_of_lt before, ended⟩

/-- A thread in its loop has not ended. -/
theorem InLoop.ending? (inLoop : InLoop thread.stack thread.control) :
    thread.ending? = none := by
  rcases thread with ⟨role, stack, control⟩
  cases inLoop with
  | between between =>
      rcases Control.runs_of_isBetweenCycles between with ⟨instruction, rfl, _⟩
      exact Thread.ending?_of_run rfl
  | inCycle watch left inCycle =>
      cases inCycle with
      | serves | routes => exact Thread.ending?_of_run rfl
      | calls frame waits same enough stands =>
          cases stack with
          | nil =>
              exact absurd (List.suffix_nil.mp stands) (List.cons_ne_nil _ _)
          | cons top below => rfl

/-- How the item is counted whose callback a frame waits for, if the callback
panics. -/
def Frame.drop : Frame κ → Counters → Counters
  | .sending _ _ _ _ => .frameDropped
  | .receiving _ _ _ => .packetDropped
  | _ => id

/-- What ends a cycle, and what ends a task.  At every moment of a run:
* a thread that was at the begin of a cycle is in it still, and the cycle has
  taken fewer than thirteen steps itself, or it has returned, or a panic has
  left it: that of a session that was asked for its number, or that of a payload
  that was destroyed;
* a receiver that panics costs the item, which is counted as dropped, and the
  thread is in its cycle still, unless the panic of the payload that is
  destroyed has left it;
* a task that was in its loop is in it still, unless a stop was requested, the
  task was cancelled, or such a panic has left a cycle of the loop. -/
theorem Reachable.task_ends_only_by_stop_cancel_or_escape
    (reachable : Reachable client world)
    (allowed : world.allowsAll client run = true)
    (found : world.threads[self]? = some thread) :
    (∀ after, thread.control = .run (.cycle (.fresh after)) →
      ∀ moment ≤ run.length,
        (∃ now left, (world.upTo client run moment).threads[self]? = some now ∧
          InCycle after thread.stack left now.stack now.control ∧
            world.servings client run self thread.stack moment < 13) ∨
        ∃ earlier < moment,
          world.StepsAt client run self earlier (Returns after thread.stack) ∨
            world.StepsAt client run self earlier (Escapes thread.stack)) ∧
      (∀ moment now frame below payload,
        run[moment]? = some (.step self) →
        (world.upTo client run moment).threads[self]? = some now →
        now.stack = frame :: below → now.control = .raise payload →
          frame.channel? ≠ none →
        (world.upTo client run (moment + 1)).shared.dispatcher.counters =
            frame.drop
              (world.upTo client run moment).shared.dispatcher.counters ∧
          ((∃ later cycle left, frame.cycle? = some cycle ∧
              (world.upTo client run (moment + 1)).threads[self]? = some later ∧
                InCycle cycle.after below left later.stack later.control) ∨
            payload.aftermath? ≠ none ∧
              world.StepsAt client run self moment (Escapes below))) ∧
        (InLoop thread.stack thread.control → ∀ moment ≤ run.length,
          (∃ now, (world.upTo client run moment).threads[self]? = some now ∧
              InLoop now.stack now.control ∧ now.ending? = none) ∨
            ∃ earlier < moment,
              (world.upTo client run earlier).shared.dispatcher.stopRequested =
                true ∨
                run[earlier]? = some (.cancel self) ∨
                  world.StepsAt client run self earlier (Escapes [])) := by
  refine ⟨fun after begins moment inside => ?_, ?_,
    fun inLoop moment inside => ?_⟩
  · have inCycle :
        InCycle after thread.stack 13 thread.stack thread.control := by
      rw [begins]
      exact .serves rfl (Nat.le_refl _)
    rcases reachable.cycle_at allowed found inCycle inside with
      ⟨now, rest, stands, stays, served⟩ | left
    · refine .inl ⟨now, rest, stands, stays, ?_⟩
      have positive := stays.pos
      omega
    · exact .inr left
  · intro moment now frame below payload steps stands stack control about
    have moved := World.steps_at steps stands
    rw [stack, control] at moved
    cases frame with
    | sending seq kind streamId cycle =>
        refine ⟨congrArg (·.dispatcher.counters) moved.1, ?_⟩
        let shared := (world.upTo client run moment).shared
        rcases Shared.afterLoss_isInCycle ((shared.count .frameDropped).notice
          (.streamPanicked kind streamId seq payload)) below cycle payload
          (Nat.le_refl _) with
          stays | ⟨next, destroyed, leaves⟩
        · exact .inl ⟨_, cycle, _, rfl, moved.2, stays⟩
        · refine .inr
            ⟨by rw [destroyed]; exact Option.some_ne_none next, steps, now,
              stands, ?_⟩
          rw [stack, control]
          exact .frame seq kind streamId cycle destroyed rfl leaves
            List.mem_cons_self
    | receiving seq session cycle =>
        exact ⟨congrArg (·.dispatcher.counters) moved.1,
          .inl ⟨_, cycle, _, rfl, moved.2,
            .calls (.reporting seq session payload cycle) rfl rfl
              (Nat.le_refl _)
            List.suffix_rfl⟩⟩
    | _ => exact absurd rfl about
  · rcases reachable.loop_at allowed found inLoop inside with
      ⟨now, stands, stays⟩ | ended
    · exact .inl ⟨now, stands, stays, stays.ending?⟩
    · exact .inr ended

end

/-- A session panics over a packet and again when it is asked for its number,
and the task dies of it: nobody has requested a stop, and nobody has cancelled
the task. -/
theorem Reachable.task_ends_by_number_panic :
    let steps (thread : ThreadId) (number : Nat) :=
      List.replicate number (Occurrence.step thread : Occurrence Unit)
    let opening : World Unit Unit Unit :=
      .new (.new ⟨1, "app"⟩ .standard (.alone none) ()) 1
    let world :=
      opening.follow .panicking
        ([.request 0 .spawn] ++ steps 0 1 ++
          [.request 0 (.submit (.packet 0 [1]))] ++
          steps 0 4 ++ steps 1 4)
    let run := steps 1 9
    let last := world.upTo .panicking run 9
    last.ending? 1 = some (.panicked .other) ∧
      last.shared.dispatcher.counters.droppedPackets = 1 ∧
      last.shared.dispatcher.stopRequested = false ∧
      ∃ earlier < 9, world.StepsAt .panicking run 1 earlier (Escapes []) := by
  intro steps opening world run last
  have reachable : Reachable Client.panicking world :=
    Reachable.follow (.opening (.alone _ _ _ _)) (by decide +kernel)
  have found :
      world.threads[1]? =
        some ⟨.task, [], .run (.cycle (.fresh (.loop 0)))⟩ := by
    decide +kernel
  have allowed : world.allowsAll .panicking run = true := by decide +kernel
  have ended : last.ending? 1 = some (.panicked .other) := by decide +kernel
  refine ⟨ended, by decide +kernel, by decide +kernel, ?_⟩
  have inLoop :
      InLoop ([] : List (Frame Unit)) (.run (.cycle (.fresh (.loop 0)))) :=
    .inCycle 0 13 (.serves rfl (Nat.le_refl _))
  rcases (reachable.task_ends_only_by_stop_cancel_or_escape allowed found).2.2
    inLoop 9 (Nat.le_refl _) with
    ⟨now, stands, _, lives⟩ | ⟨earlier, before, raised | cancelled | escapes⟩
  · change (last.threads[1]?).bind Thread.ending? = _ at ended
    rw [stands] at ended
    cases lives.symm.trans ended
  · have lowered : ∀ earlier < 9,
        (world.upTo .panicking run earlier).shared.dispatcher.stopRequested =
          false := by
      decide +kernel
    rw [lowered earlier before] at raised
    cases raised
  · have member := List.mem_of_getElem? cancelled
    cases List.eq_of_mem_replicate member
  · exact ⟨earlier, before, escapes⟩

end Switchboard
