import Switchboard.Proofs.Alike
import Switchboard.Proofs.Attention
import Switchboard.Proofs.Endurance
import Switchboard.Proofs.Signals

/-!
# A task that is left to itself

While nobody starts or stops anything, a dispatch task goes through its waits
and its cycles and comes back to a wait.  Only a panic that leaves a cycle can
end it.  What it does at a wait is not a matter of clients.
-/

namespace Switchboard

variable {σ κ ν : Type} {permits : Request → Bool} {looping : Bool}

/-! ## What a delivery leaves alone -/

/-- Nobody has been started or stopped since, and nothing has been forgotten. -/
structure Shared.Remains (before after : Shared σ ν) : Prop where
  settings : after.settings = before.settings
  host : after.host = before.host
  stopRequested :
    after.dispatcher.stopRequested = before.dispatcher.stopRequested
  journal : before.journal <:+ after.journal

theorem Shared.Remains.refl (shared : Shared σ ν) : shared.Remains shared :=
  ⟨rfl, rfl, rfl, List.suffix_rfl⟩

theorem Shared.Remains.trans {first second third : Shared σ ν}
    (former : first.Remains second) (latter : second.Remains third) :
    first.Remains third where
  settings := latter.settings.trans former.settings
  host := latter.host.trans former.host
  stopRequested := latter.stopRequested.trans former.stopRequested
  journal := former.journal.trans latter.journal

theorem Shared.Remains.isHosted {before after : Shared σ ν}
    (remains : before.Remains after) (hosted : before.IsHosted) :
    after.IsHosted := by
  rcases hosted with ⟨application, host⟩
  exact ⟨application, remains.host.trans host⟩

theorem Shared.Alike.isDrained {shared other : Shared σ ν}
    (alike : shared.Alike other) (drained : shared.IsDrained) :
    other.IsDrained := by
  simp only [Shared.IsDrained]
  rw [← alike.queues]
  exact drained

/-- A turn in which nobody is started or stopped. -/
structure Turn.Continues (shared : Shared σ ν) (turn : Turn σ κ ν) : Prop where
  remains : shared.Remains turn.shared
  spawned : turn.spawned = false

namespace Shared

theorem perform_continues (client : Client σ κ ν) (shared : Shared σ ν)
    (around : Surroundings) (stack : List (Frame κ)) {request : Request}
    (mild : request.isMild = true) (unnamed : request ≠ .typeName) :
    (shared.perform client around stack request).Continues shared := by
  cases request with
  | submit | create | delete | inspect =>
      simp only [perform]
      split <;>
        first | exact ⟨⟨rfl, rfl, rfl, List.suffix_rfl⟩, rfl⟩ | contradiction
  | typeName => exact absurd rfl unnamed
  | _ => cases mild

theorem clientMove_continues (shared : Shared σ ν) (stack : List (Frame κ))
    (callback : Option Callback) (turn : ClientTurn σ κ ν) :
    (shared.clientMove stack callback turn).Continues shared := by
  have noted : shared.journal <:+ (shared.noting turn).journal :=
    List.suffix_append _ _
  have recorded (happening : Happening ν) :
      shared.journal <:+ ((shared.noting turn).record happening).journal :=
    noted.trans (List.suffix_cons _ _)
  simp only [clientMove]
  cases turn.move with
  | perform request next => exact ⟨⟨rfl, rfl, rfl, noted⟩, rfl⟩
  | finish reply =>
      cases callback with
      | none => exact ⟨⟨rfl, rfl, rfl, noted⟩, rfl⟩
      | some callback => exact ⟨⟨rfl, rfl, rfl, recorded _⟩, rfl⟩
  | panic payload =>
      cases callback with
      | none => exact ⟨⟨rfl, rfl, rfl, noted⟩, rfl⟩
      | some callback => exact ⟨⟨rfl, rfl, rfl, recorded _⟩, rfl⟩

theorem execute_continues (client : Client σ κ ν) (shared : Shared σ ν)
    (around : Surroundings) (stack : List (Frame κ))
    {instruction instruction' : Instruction}
    (same : instruction.Matches permits looping instruction')
    (unnamed : instruction ≠ .perform .typeName)
    (lowered : ∀ watch, instruction = .check false watch →
      shared.dispatcher.stopRequested = false) :
    (shared.execute client around stack instruction).Continues shared := by
  cases same with
  | perform permitted mild =>
      exact shared.perform_continues client around stack mild fun asks =>
        unnamed (congrArg Instruction.perform asks)
  | call callback =>
      have called : shared.Remains (shared.record (.called callback)) :=
        ⟨rfl, rfl, rfl, List.suffix_cons _ _⟩
      have moved :=
        (shared.record (.called callback)).clientMove_continues stack
          (some callback)
        (client.begin callback shared.client)
      exact ⟨called.trans moved.remains, moved.spawned⟩
  | stamp item =>
      cases item with
      | frame kind descriptor packet =>
          simp only [execute, stamp, dispatch, Dispatcher.stamp]
          split <;> exact ⟨⟨rfl, rfl, rfl, List.suffix_rfl⟩, rfl⟩
      | packet session data => exact ⟨⟨rfl, rfl, rfl, List.suffix_rfl⟩, rfl⟩
  | push item => exact ⟨⟨rfl, rfl, rfl, List.suffix_cons _ _⟩, rfl⟩
  | cycle same =>
      simp only [execute, serve]
      split
      · exact ⟨⟨rfl, rfl, rfl, List.suffix_rfl⟩, rfl⟩
      · split
        · exact ⟨⟨rfl, rfl, rfl, List.suffix_rfl⟩, rfl⟩
        · rename_i popped
          rcases Option.map_eq_some_iff.mp popped with ⟨_, _, equal⟩
          cases equal
          exact ⟨⟨rfl, rfl, rfl, List.suffix_cons _ _⟩, rfl⟩
  | route entry same =>
      simp only [execute, route]
      split
      · split
        · exact ⟨⟨rfl, rfl, rfl, List.suffix_rfl⟩, rfl⟩
        · exact ⟨⟨rfl, rfl, rfl, List.suffix_cons _ _⟩, rfl⟩
      · split
        · exact ⟨⟨rfl, rfl, rfl, List.suffix_rfl⟩, rfl⟩
        · exact ⟨⟨rfl, rfl, rfl, List.suffix_cons _ _⟩, rfl⟩
  | check watch watch' =>
      simp only [execute, check, lowered watch rfl,
        Bool.false_eq_true, ↓reduceIte]
      cases shared.reportDue watch
      · exact ⟨⟨rfl, rfl, rfl, List.suffix_rfl⟩, rfl⟩
      · exact ⟨⟨rfl, rfl, rfl, List.suffix_cons _ _⟩, rfl⟩
  | create descriptor =>
      simp only [execute, create]
      split
      · exact ⟨⟨rfl, rfl, rfl, List.suffix_cons _ _⟩, rfl⟩
      · exact ⟨⟨rfl, rfl, rfl, List.suffix_rfl⟩, rfl⟩
  | insert descriptor stream =>
      simp only [execute, insert]
      split
      · exact ⟨⟨rfl, rfl, rfl, List.suffix_rfl⟩, rfl⟩
      · exact ⟨⟨rfl, rfl, rfl,
          (List.suffix_cons _ _).trans (List.suffix_cons _ _)⟩, rfl⟩
  | delete descriptor =>
      simp only [execute, delete]
      split
      · exact ⟨⟨rfl, rfl, rfl, List.suffix_cons _ _⟩, rfl⟩
      · exact ⟨⟨rfl, rfl, rfl, List.suffix_rfl⟩, rfl⟩
  | remove descriptor stream =>
      simp only [execute, remove]
      split
      · exact ⟨⟨rfl, rfl, rfl, List.suffix_rfl⟩, rfl⟩
      · exact ⟨⟨rfl, rfl, rfl, List.suffix_cons _ _⟩, rfl⟩
  | answer | signal => exact ⟨⟨rfl, rfl, rfl, List.suffix_rfl⟩, rfl⟩

theorem deliver_continues (client : Client σ κ ν) (shared : Shared σ ν)
    (stack : List (Frame κ)) (control : Control) (frame : Frame κ) :
    (shared.deliver client stack control frame).Continues shared := by
  simp only [deliver]
  split
  case h_1 | h_2 => exact shared.clientMove_continues _ _ _
  case h_3 | h_5 | h_6 | h_12 => exact ⟨⟨rfl, rfl, rfl, List.suffix_rfl⟩, rfl⟩
  case h_8 descriptor reply =>
    cases reply.stream with
    | none => exact ⟨⟨rfl, rfl, rfl, List.suffix_cons _ _⟩, rfl⟩
    | some stream => exact ⟨⟨rfl, rfl, rfl, List.suffix_rfl⟩, rfl⟩
  case h_10 descriptor stream reply =>
    cases reply.accepted with
    | true => exact ⟨⟨rfl, rfl, rfl, List.suffix_rfl⟩, rfl⟩
    | false => exact ⟨⟨rfl, rfl, rfl, List.suffix_cons _ _⟩, rfl⟩
  all_goals exact ⟨⟨rfl, rfl, rfl, List.suffix_cons _ _⟩, rfl⟩

/-- A step of a delivery, of a look, or of a loop that does not wait, starts and
stops nothing. -/
theorem move_continues (client : Client σ κ ν) (shared : Shared σ ν)
    (around : Surroundings) (stack : List (Frame κ))
    {control control' : Control}
    (same : control.Matches permits looping control')
    (unnamed : control ≠ .run (.perform .typeName))
    (lowered : ∀ watch, control = .run (.check false watch) →
      shared.dispatcher.stopRequested = false) :
    (shared.move client around stack control).Continues shared := by
  simp only [move]
  split
  · rename_i instruction
    cases same with
    | run same =>
        exact shared.execute_continues client around stack same
          (fun asks => unnamed (congrArg Control.run asks))
          fun watch runs => lowered watch (congrArg Control.run runs)
  · split
    · exact ⟨⟨rfl, rfl, rfl, List.suffix_rfl⟩, rfl⟩
    · exact shared.deliver_continues client _ _ _

end Shared

/-! ## What ends a task -/

/-- Whether a control is one of a dispatch loop itself. -/
def Control.isOwn : Control → Bool
  | .run (.cycle _) | .run (.route _ _) | .run .begin | .run
      (.check _ _) | .run (.await _)
  | .run (.parked _) | .run (.recheck _) => true
  | _ => false

/-- A task comes back to its loop: a cycle stands at the bottom of its stack,
and no panic is on its way to a frame that guards against none. -/
structure Guards (stack : List (Frame κ)) (control : Control) : Prop where
  bottom : ∀ frame ∈ stack.getLast?, frame.cycle? ≠ none
  own : stack = [] → control.isOwn = true
  told : ∀ payload, control = .raise payload →
    ∀ frame ∈ stack.head?, frame.isReporting = false

namespace Guards

theorem of_own {control : Control} (own : control.isOwn = true) :
    Guards ([] : List (Frame κ)) control where
  bottom frame member := absurd member (Option.not_mem_none frame)
  own _ := own
  told _ _ frame member := absurd member (Option.not_mem_none frame)

/-- Something other than a panic goes on above a stack that is not empty. -/
theorem of_grown {stack grown : List (Frame κ)} {control : Control}
    (nonempty : stack ≠ []) (bottom :
      ∀ frame ∈ stack.getLast?, frame.cycle? ≠ none)
    (grows : grown = stack ∨ ∃ frame, grown = frame :: stack)
    (calm : ∀ payload, control ≠ .raise payload) : Guards grown control := by
  rcases grows with rfl | ⟨frame, rfl⟩
  · exact ⟨bottom, fun empty => absurd empty nonempty,
      fun payload same => absurd same (calm _)⟩
  · refine ⟨?_, fun empty => absurd empty (List.cons_ne_nil _ _),
      fun payload same => absurd same (calm _)⟩
    rwa [List.getLast?_cons_of_ne_nil nonempty]

end Guards

/-- Whether a turn leaves a task that comes back to its loop. -/
def Turn.Guards (turn : Turn σ κ ν) : Prop :=
  Switchboard.Guards turn.stack turn.control

namespace Shared

/-- Client code that works on a callback comes back to its loop, unless a panic
is about to leave the cycle. -/
theorem clientMove_guards (shared : Shared σ ν) {stack : List (Frame κ)}
    {callback : Callback} (turn : ClientTurn σ κ ν)
    (fits : (Expected.reply callback).Fits stack)
    (bottom : ∀ frame ∈ stack.getLast?, frame.cycle? ≠ none) :
    let moved := shared.clientMove stack (some callback) turn
    moved.Guards ∨ moved.shared.Escaped := by
  cases stack with
  | nil => exact fits.elim
  | cons frame below =>
      have nonempty := List.cons_ne_nil frame below
      refine shared.clientMove_cases _ callback turn
        (motive := fun moved =>
          moved.Guards ∨ moved.shared.Escaped) ?_ ?_ ?_
      · exact fun request next =>
          .inl (.of_grown nonempty bottom (.inr ⟨_, rfl⟩)
            fun _ => Control.noConfusion)
      · exact fun reply =>
          .inl (.of_grown nonempty bottom (.inl rfl)
            fun _ => Control.noConfusion)
      · intro payload
        cases reports : frame.isReporting with
        | false =>
            refine .inl ⟨bottom, fun empty => absurd empty nonempty,
              fun _ _ top member => ?_⟩
            rw [← Option.mem_some.mp member]
            exact reports
        | true =>
            right
            have awaits := (Expected.reply_fits_cons_iff.mp fits).1
            cases frame with
            | reporting seq session lost cycle =>
                cases callback with
                | sessionNumber number => exact ⟨_, List.mem_cons_self, rfl⟩
                | _ => exact awaits.elim
            | _ => cases reports

theorem execute_guards (client : Client σ κ ν) (shared : Shared σ ν)
    (around : Surroundings) {stack : List (Frame κ)}
    {instruction instruction' : Instruction}
    (same : instruction.Matches Request.isDelivery true instruction')
    (lowered : ∀ watch, instruction = .check false watch →
      shared.dispatcher.stopRequested = false)
    (fits : instruction.Fits stack) (guards : Guards stack (.run instruction)) :
    let turn := shared.execute client around stack instruction
    turn.Guards ∨ turn.shared.Escaped := by
  -- Whatever is not a step of the loop itself goes on above the bottom.
  have grown {turn : Turn σ κ ν}
      (other : (Control.run instruction).isOwn = false)
      (grows : turn.stack = stack ∨ ∃ frame, turn.stack = frame :: stack)
      (calm : ∀ payload, turn.control ≠ .raise payload) :
      turn.Guards ∨ turn.shared.Escaped := by
    refine .inl (.of_grown (fun empty => ?_) guards.bottom grows calm)
    rw [guards.own empty] at other
    cases other
  cases same with
  | @perform _ request delivery =>
      simp only [execute, perform]
      cases request with
      | submit | create | delete =>
          split <;> first
            | exact grown rfl (.inl rfl) fun _ => Control.noConfusion
            | contradiction
      | _ => cases delivery
  | call callback => exact clientMove_guards _ _ fits guards.bottom
  | answer answer => exact grown rfl (.inl rfl) fun _ => Control.noConfusion
  | stamp item => exact grown rfl (.inl rfl) fun _ => Control.noConfusion
  | push item => exact grown rfl (.inl rfl) fun _ => Control.noConfusion
  | signal entry answer =>
      exact grown rfl (.inl rfl) fun _ => Control.noConfusion
  | cycle same =>
      rcases same with ⟨remaining, productive, watch, watch'⟩
      change stack = [] at fits
      subst fits
      left
      cases remaining with
      | nil => exact .of_own rfl
      | cons channel remaining =>
          simp only [execute, serve]
          split
          · exact .of_own rfl
          · exact .of_own rfl
  | route entry same =>
      rcases same with ⟨remaining, productive, watch, watch'⟩
      rcases fits with ⟨_, empty⟩
      change stack = [] at empty
      subst empty
      left
      have calling (frame : Frame κ) (waits : frame.cycle? ≠ none)
          (callback : Callback) :
          Guards [frame] (.run (.call callback)) := by
        refine ⟨fun last member => ?_,
          fun empty => absurd empty (List.cons_ne_nil _ _),
          fun _ => Control.noConfusion⟩
        rw [← Option.mem_some.mp member]
        exact waits
      simp only [execute, route]
      split
      · split
        · refine calling _ ?_ _
          exact Option.some_ne_none _
        · exact .of_own rfl
      · split
        · refine calling _ ?_ _
          exact Option.some_ne_none _
        · exact .of_own rfl
  | check watch watch' =>
      change stack = [] at fits
      subst fits
      left
      simp only [execute, check, lowered watch rfl,
        Bool.false_eq_true, ↓reduceIte]
      exact .of_own rfl
  | create descriptor =>
      simp only [execute, create]
      split
      · exact grown rfl (.inl rfl) fun _ => Control.noConfusion
      · exact grown rfl (.inr ⟨_, rfl⟩) fun _ => Control.noConfusion
  | insert descriptor stream =>
      simp only [execute, insert]
      split
      · exact grown rfl (.inr ⟨_, rfl⟩) fun _ => Control.noConfusion
      · exact grown rfl (.inl rfl) fun _ => Control.noConfusion
  | delete descriptor =>
      simp only [execute, delete]
      split
      · exact grown rfl (.inl rfl) fun _ => Control.noConfusion
      · exact grown rfl (.inr ⟨_, rfl⟩) fun _ => Control.noConfusion
  | remove descriptor stream =>
      simp only [execute, remove]
      split
      · exact grown rfl (.inl rfl) fun _ => Control.noConfusion
      · exact grown rfl (.inr ⟨_, rfl⟩) fun _ => Control.noConfusion

/-- A task comes back to its loop after a loss, unless the destruction of the
payload leaves the cycle, which the log tells. -/
theorem afterLoss_guards {shared : Shared σ ν} {notice : Notice} (cycle : Cycle)
    (payload : Payload)
    (told : (Happening.noticed notice : Happening ν).isEscape =
      payload.aftermath?.isSome) :
    let turn : Turn σ κ ν :=
      .pass (shared.notice notice) [] (cycle.afterLoss payload)
    turn.Guards ∨ turn.shared.Escaped := by
  intro turn
  obtain ⟨_, goes⟩ | ⟨next, destroyed, _⟩ := cycle.afterLoss_cases payload
  · left
    change Switchboard.Guards [] (cycle.afterLoss payload)
    rw [goes]
    exact .of_own rfl
  · right
    rw [destroyed] at told
    exact ⟨_, List.mem_cons_self, told⟩

/-- What arrives at a frame that waits for a callback leaves the cycle at the
bottom, or comes back to the loop. -/
private theorem deliver_guards_of_reply (client : Client σ κ ν)
    (shared : Shared σ ν) {stack : List (Frame κ)} {frame frame' : Frame κ}
    (same : frame.Matches true frame') {callback : Callback}
    (fits : (Expected.reply callback).Fits (frame :: stack))
    (bottom : ∀ last ∈ (frame :: stack).getLast?, last.cycle? ≠ none)
    (reply : Reply) (payload : Payload) :
    let replied := shared.deliver client stack (.reply reply) frame
    let raised := shared.deliver client stack (.raise payload) frame
    (replied.Guards ∨ replied.shared.Escaped) ∧
      (frame.isReporting = false → raised.Guards ∨ raised.shared.Escaped) := by
  rcases Expected.reply_fits_cons_iff.mp fits with ⟨awaits, below⟩
  -- Client code stands below a frame of a request.
  have asked (plain : frame.cycle? = none)
      (answered : Expected.answer.Fits stack) :
      stack ≠ [] ∧ (∀ last ∈ stack.getLast?, last.cycle? ≠ none) ∧
        Guards stack (.raise payload) := by
    have nonempty : stack ≠ [] := by
      rintro rfl
      exact bottom frame (Option.mem_some.mpr rfl) plain
    have beneath : ∀ last ∈ stack.getLast?, last.cycle? ≠ none := by
      rwa [List.getLast?_cons_of_ne_nil nonempty] at bottom
    refine ⟨nonempty, beneath, beneath, fun empty => absurd empty nonempty,
      fun _ _ top member => ?_⟩
    cases stack with
    | nil => exact absurd rfl nonempty
    | cons first rest =>
        cases Option.mem_some.mp member
        obtain ⟨state, rfl, _⟩ | ⟨callback, state, rfl, _⟩ :=
          Expected.answer_fits_cons_iff.mp answered
        · rfl
        · rfl
  have goesOn (plain : frame.cycle? = none)
      (answered : Expected.answer.Fits stack) {control : Control}
      (calm : ∀ payload, control ≠ .raise payload) : Guards stack control :=
    .of_grown (asked plain answered).1 (asked plain answered).2.1
      (.inl rfl) calm
  cases same with
  | client working state => exact awaits.elim
  | sending seq kind streamId same =>
      rcases same with ⟨remaining, productive, watch, watch'⟩
      cases (show stack = [] from below.2)
      exact ⟨.inl (.of_own rfl), fun _ => afterLoss_guards _ _ rfl⟩
  | receiving seq session same =>
      rcases same with ⟨remaining, productive, watch, watch'⟩
      cases (show stack = [] from below.2)
      refine ⟨.inl (.of_own rfl), fun _ => .inl ⟨fun last member => ?_,
        fun empty => absurd empty (List.cons_ne_nil _ _),
        fun _ => Control.noConfusion⟩⟩
      rw [← Option.mem_some.mp member]
      exact Option.some_ne_none _
  | reporting seq session lost same =>
      rcases same with ⟨remaining, productive, watch, watch'⟩
      cases (show stack = [] from below.2)
      exact ⟨afterLoss_guards _ _ rfl, fun reports => by cases reports⟩
  | creating descriptor =>
      refine ⟨.inl ?_, fun _ => .inl (asked rfl below).2.2⟩
      simp only [deliver, built]
      split <;> exact goesOn rfl below fun _ => Control.noConfusion
  | losing descriptor error =>
      exact ⟨.inl (goesOn rfl below fun _ => Control.noConfusion),
        fun _ => .inl (asked rfl below).2.2⟩
  | releasing descriptor stream =>
      refine ⟨.inl ?_, fun _ => .inl (asked rfl below).2.2⟩
      simp only [deliver, released]
      split <;> exact goesOn rfl below fun _ => Control.noConfusion
  | stopping descriptor =>
      exact ⟨.inl (goesOn rfl below fun _ => Control.noConfusion),
        fun _ => .inl (asked rfl below).2.2⟩

theorem deliver_guards (client : Client σ κ ν) (shared : Shared σ ν)
    {stack : List (Frame κ)} {frame frame' : Frame κ}
    (same : frame.Matches true frame') {control : Control}
    (arrives : ∀ instruction, control ≠ .run instruction)
    (fits : control.Fits (frame :: stack))
    (guards : Guards (frame :: stack) control) :
    let turn := shared.deliver client stack control frame
    turn.Guards ∨ turn.shared.Escaped := by
  -- Client code at the bottom would leave no cycle there.
  have resumes (response : Response)
      (answered : Expected.answer.Fits (frame :: stack)) :
      ∃ callback state, frame = .client callback state ∧
        let turn := shared.clientMove stack callback
          (client.resume state response shared.client)
        turn.Guards ∨ turn.shared.Escaped := by
    obtain ⟨state, rfl, rfl⟩ | ⟨callback, state, rfl, replied⟩ :=
      Expected.answer_fits_cons_iff.mp answered
    · exact absurd rfl (guards.bottom _ (Option.mem_some.mpr rfl))
    · refine ⟨some callback, state, rfl, shared.clientMove_guards _ replied ?_⟩
      cases stack with
      | nil => exact replied.elim
      | cons below rest =>
          have bottom := guards.bottom
          rwa [List.getLast?_cons_of_ne_nil (List.cons_ne_nil _ _)] at bottom
  cases control with
  | run instruction => exact absurd rfl (arrives instruction)
  | answer answer =>
      rcases resumes (.answered answer) fits with ⟨callback, state, rfl, moved⟩
      exact moved
  | reply reply =>
      rcases fits with empty | ⟨callback, fits⟩
      · exact absurd empty (List.cons_ne_nil _ _)
      · exact (deliver_guards_of_reply client shared same fits guards.bottom
          reply .other).1
  | raise payload =>
      rcases fits with answered | ⟨callback, fits⟩
      · rcases resumes (.panicked payload) answered with
          ⟨callback, state, rfl, moved⟩
        exact moved
      · refine (deliver_guards_of_reply client shared same fits
          guards.bottom .plain payload).2 ?_
        exact guards.told payload rfl frame (Option.mem_some.mpr rfl)
  | cancelled => exact absurd fits (List.cons_ne_nil _ _)

/-- A task comes back to its loop, unless a panic leaves a cycle. -/
theorem move_guards (client : Client σ κ ν) (shared : Shared σ ν)
    (around : Surroundings) {stack stack' : List (Frame κ)}
    (frames : List.Forall₂ (Frame.Matches true) stack stack')
    {control control' : Control}
    (same : control.Matches Request.isDelivery true control')
    (lowered : ∀ watch, control = .run (.check false watch) →
      shared.dispatcher.stopRequested = false)
    (fits : control.Fits stack) (guards : Guards stack control) :
    let turn := shared.move client around stack control
    turn.Guards ∨ turn.shared.Escaped := by
  simp only [move]
  split
  · rename_i instruction
    cases same with
    | run same =>
        exact shared.execute_guards client around same
          (fun watch runs => lowered watch (congrArg Control.run runs)) fits
            guards
  · rename_i arrives
    cases frames with
    | nil => exact .inl guards
    | cons same frames =>
        exact shared.deliver_guards client same arrives fits guards

end Shared

/-! ## Waiting -/

/-- How a task stands to the wake event: it is away, it waits or has been
signalled, or it has been signalled and nobody expects it to wait again. -/
inductive Posture where
  | away
  | parked (task : ThreadId)
  | summoned (task : ThreadId)

/-- Whether the wake event suits the posture of the only task there is.  Unless
all is clear a permit is stored, or the task has been signalled. -/
def Wake.Suits (wake : Wake) (clear : Prop) : Posture → Prop
  | .away =>
      wake.waiting = [] ∧ wake.signalled = [] ∧ (wake.permit = true ∨ clear)
  | .parked task =>
      (wake.waiting = [task] ∧ wake.signalled = [] ∧ clear) ∨
        (wake.waiting = [] ∧ wake.signalled = [task])
  | .summoned task =>
      wake.waiting = [] ∧ wake.signalled = [task] ∧ (wake.permit = true ∨ clear)

theorem Wake.hasSignalled_of_eq {wake : Wake} {task : ThreadId}
    (signalled : wake.signalled = [task]) : wake.hasSignalled task = true := by
  rw [hasSignalled, signalled]
  simp

namespace Wake.Suits

variable {wake : Wake} {clear clear' : Prop} {posture : Posture}

theorem imp (implies : clear → clear') (suits : wake.Suits clear posture) :
    wake.Suits clear' posture := by
  cases posture with
  | away => exact ⟨suits.1, suits.2.1, suits.2.2.imp id implies⟩
  | parked task =>
      exact suits.imp (fun waits => ⟨waits.1, waits.2.1, implies waits.2.2⟩) id
  | summoned task => exact ⟨suits.1, suits.2.1, suits.2.2.imp id implies⟩

/-- After a signal it does not matter whether all is clear. -/
theorem signal (suits : wake.Suits clear posture) (clear' : Prop) :
    wake.signal.Suits clear' posture := by
  rcases wake with ⟨permit, waiting, signalled⟩
  cases posture with
  | away =>
      rcases suits with ⟨rfl, rfl, _⟩
      exact ⟨rfl, rfl, .inl rfl⟩
  | parked task =>
      rcases suits with ⟨rfl, rfl, _⟩ | ⟨rfl, rfl⟩
      · exact .inr ⟨rfl, rfl⟩
      · exact .inr ⟨rfl, rfl⟩
  | summoned task =>
      rcases suits with ⟨rfl, rfl, _⟩
      exact ⟨rfl, rfl, .inl rfl⟩

/-- A signal reaches a task that waits. -/
theorem summon {task : ThreadId} (suits : wake.Suits clear (.parked task)) :
    wake.signal.Suits clear (.summoned task) := by
  rcases wake with ⟨permit, waiting, signalled⟩
  rcases suits with ⟨rfl, rfl, clear⟩ | ⟨rfl, rfl⟩
  · exact ⟨rfl, rfl, .inr clear⟩
  · exact ⟨rfl, rfl, .inl rfl⟩

end Wake.Suits

namespace Control

/-- How a task with a control stands to the wake event. -/
def posture (task : ThreadId) : Control → Posture
  | .run (.parked _) => .parked task
  | _ => .away

/-- Whether a control is one of the loop between a cycle that has found nothing,
or the start, and the next cycle. -/
def isWaiting : Control → Bool
  | .run .begin | .run (.check true _) | .run (.await _) | .run (.parked _)
  | .run (.recheck _) => true
  | _ => false

theorem Matches.posture_eq {control control' : Control}
    (same : control.Matches permits looping control')
    (task : ThreadId) : control.posture task = .away := by
  cases same with
  | run same => cases same <;> rfl
  | _ => rfl

theorem isOwn_of_isWaiting {control : Control}
    (waits : control.isWaiting = true) :
    control.isOwn = true := by
  simp only [isWaiting] at waits
  split at waits <;> first | rfl | cases waits

end Control

/-- What a task does at a wait is no matter of clients, and leads to a cycle. -/
structure Turn.Waits (task : ThreadId) (shared : Shared σ ν)
    (turn : Turn σ κ ν) : Prop where
  continues : turn.Continues shared
  alike : shared.Alike turn.shared
  empty : turn.stack = []
  wake : turn.shared.dispatcher.wake.Suits True (turn.control.posture task)
  control :
    turn.control.isWaiting = true ∨
      ∃ watch, turn.control = .run (.cycle (.fresh (.loop watch)))

theorem Shared.move_waits (client : Client σ κ ν) {shared : Shared σ ν}
    (around : Surroundings) {control : Control}
    (waits : control.isWaiting = true)
    (lowered : shared.dispatcher.stopRequested = false)
    (suits : shared.dispatcher.wake.Suits True (control.posture around.self)) :
    (shared.move client around [] control).Waits around.self shared := by
  simp only [Control.isWaiting] at waits
  split at waits
  · exact ⟨⟨⟨rfl, rfl, rfl, List.suffix_cons _ _⟩, rfl⟩,
      ⟨rfl, rfl, rfl, rfl, rfl, rfl, rfl⟩, rfl, suits, .inl rfl⟩
  · rename_i watch
    simp only [move, execute, check, lowered, Bool.false_eq_true, ↓reduceIte]
    cases shared.reportDue watch
    · exact ⟨⟨⟨rfl, rfl, rfl, List.suffix_rfl⟩, rfl⟩, .refl shared, rfl,
        suits, .inl rfl⟩
    · exact ⟨⟨⟨rfl, rfl, rfl, List.suffix_cons _ _⟩, rfl⟩,
        ⟨rfl, rfl, rfl, rfl, rfl, rfl, rfl⟩, rfl, suits, .inl rfl⟩
  · rename_i watch
    rcases suits with ⟨waiting, signalled, _⟩
    simp only [move, execute, await]
    split
    · exact ⟨⟨⟨rfl, rfl, rfl, List.suffix_rfl⟩, rfl⟩,
        ⟨rfl, rfl, rfl, rfl, rfl, rfl, rfl⟩, rfl,
        ⟨waiting, signalled, .inr trivial⟩, .inl rfl⟩
    · refine ⟨⟨⟨rfl, rfl, rfl, List.suffix_rfl⟩, rfl⟩,
        ⟨rfl, rfl, rfl, rfl, rfl, rfl, rfl⟩, rfl,
        .inl ⟨?_, signalled, trivial⟩, .inl rfl⟩
      change shared.dispatcher.wake.waiting ++ [around.self] = [around.self]
      rw [waiting, List.nil_append]
  · rename_i watch
    simp only [move, execute, parked]
    split
    · rename_i called
      refine ⟨⟨⟨rfl, rfl, rfl, List.suffix_rfl⟩, rfl⟩,
        ⟨rfl, rfl, rfl, rfl, rfl, rfl, rfl⟩, rfl, ?_, .inl rfl⟩
      rcases suits with ⟨_, signalled, _⟩ | ⟨waiting, signalled⟩
      · rw [Wake.hasSignalled, signalled] at called
        cases called
      · refine ⟨waiting, ?_, .inr trivial⟩
        change shared.dispatcher.wake.signalled.erase around.self = []
        rw [signalled, List.erase_cons_head]
    · exact ⟨⟨⟨rfl, rfl, rfl, List.suffix_rfl⟩, rfl⟩, .refl shared, rfl,
        suits, .inl rfl⟩
  · rename_i watch
    simp only [move, execute, recheck, lowered, Bool.false_eq_true, ↓reduceIte]
    exact ⟨⟨⟨rfl, rfl, rfl, List.suffix_rfl⟩, rfl⟩, .refl shared, rfl, suits,
      .inr ⟨_, rfl⟩⟩
  · cases waits

/-! ## A task at work -/

/-- A task that has worked since the state `origin`. -/
structure Turn.Tends (task : ThreadId) (origin : Shared σ ν)
    (turn : Turn σ κ ν) : Prop where
  remains : origin.Remains turn.shared
  works :
    (List.Forall₂ (Frame.Matches true) turn.stack turn.stack ∧
        turn.control.Matches Request.isDelivery true turn.control) ∨
      (turn.stack = [] ∧ turn.control.isWaiting = true)
  fits : turn.Fits
  attends : turn.Attends task
  guards : turn.Guards ∨ turn.shared.Escaped
  wake : turn.shared.dispatcher.wake.Suits True (turn.control.posture task)

/-- A cycle of a loop that has found nothing leads to a wait. -/
theorem Shared.move_fruitless (client : Client σ κ ν) (shared : Shared σ ν)
    (around : Surroundings) (stack : List (Frame κ)) {control : Control}
    (fruitless : control.isFruitless = true) :
    ∃ watch, shared.move client around stack control =
      .run shared stack (.check true watch) := by
  simp only [Control.isFruitless] at fruitless
  split at fruitless
  · exact ⟨_, rfl⟩
  · cases fruitless

/-- A step that is not about waiting leaves the task away from the wake
event. -/
theorem Shared.move_suits (client : Client σ κ ν) (shared : Shared σ ν)
    (around : Surroundings) (stack : List (Frame κ))
    {control control' : Control}
    (same : control.Matches Request.isDelivery looping control')
    (suits : shared.dispatcher.wake.Suits True .away) :
    (shared.move client around stack control).shared.dispatcher.wake.Suits
      True .away := by
  cases touches : control.touchesWake with
  | false =>
      rw [shared.move_wake client around stack touches]
      exact suits
  | true =>
      cases same with
      | run same =>
          cases same with
          | signal entry answer => exact suits.signal True
          | _ => cases touches
      | _ => cases touches

/-- A task goes on as it should, and spawns nobody. -/
theorem Turn.Tends.move {client : Client σ κ ν} {origin : Shared σ ν}
    {turn : Turn σ κ ν} (around : Surroundings) (only : client.OnlyDelivers)
    (hosted : origin.IsHosted)
    (lowered : origin.dispatcher.stopRequested = false)
    (tends : turn.Tends around.self origin) :
    let next := turn.shared.move client around turn.stack turn.control
    next.Tends around.self origin ∧ next.spawned = false := by
  have fits := turn.shared.move_fits client around tends.fits
  have attends := Shared.move_attends client around tends.fits tends.attends
  have lowered' : turn.shared.dispatcher.stopRequested = false :=
    tends.remains.stopRequested.trans lowered
  have hosted' := tends.remains.isHosted hosted
  rcases tends.works with ⟨frames, same⟩ | ⟨empty, waits⟩
  · have continues :=
      turn.shared.move_continues client around turn.stack same same.unnamed
      fun _ _ => lowered'
    have guards :
        (turn.shared.move client around turn.stack turn.control).Guards ∨
        (turn.shared.move client around turn.stack
          turn.control).shared.Escaped := by
      rcases tends.guards with guards | panicked
      · exact turn.shared.move_guards client around frames same
          (fun _ _ => lowered')
          tends.fits guards
      · exact .inr (panicked.mono continues.remains.journal)
    have wake := tends.wake
    rw [same.posture_eq] at wake
    have wake' := turn.shared.move_suits client around turn.stack same wake
    cases fruitless : turn.control.isFruitless with
    | true =>
        obtain ⟨watch, moved⟩ :=
          turn.shared.move_fruitless client around turn.stack fruitless
        rw [moved] at fits attends continues guards ⊢
        exact ⟨⟨tends.remains, .inr ⟨fits, rfl⟩, fits, attends, guards, wake⟩,
          rfl⟩
    | false =>
        obtain ⟨_, frames', same'⟩ :=
          Shared.move_matches only.asksOnly (.refl turn.shared) hosted'
          hosted' (fun _ => rfl) frames same
            (fun asks => absurd asks same.unnamed)
          (fun _ _ => ⟨lowered', lowered'⟩) fruitless
        refine ⟨⟨tends.remains.trans continues.remains, .inl ⟨frames', same'⟩,
          fits, attends, guards, ?_⟩, continues.spawned⟩
        rw [same'.posture_eq]
        exact wake'
  · have waited := Shared.move_waits client around waits lowered' tends.wake
    rw [← empty] at waited
    refine ⟨⟨tends.remains.trans waited.continues.remains, ?_, fits,
      attends, .inl ?_, waited.wake⟩, waited.continues.spawned⟩
    · rcases waited.control with again | ⟨watch, cycle⟩
      · exact .inr ⟨waited.empty, again⟩
      · rw [waited.empty, cycle]
        exact .inl ⟨.nil, .run (.cycle (.loop _ _ _ _))⟩
    · simp only [Guards]
      rw [waited.empty]
      rcases waited.control with again | ⟨watch, cycle⟩
      · exact .of_own (Control.isOwn_of_isWaiting again)
      · rw [cycle]
        exact .of_own rfl

end Switchboard
