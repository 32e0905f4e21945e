import Switchboard.Proofs.Calls

/-!
# What a failed creation or deletion leaves behind

The steps of a call are its own ones and those of the client code that it calls.
A call takes its own steps with one frame at most above the stack on which it
began, and these tell all that it does: what it checks, which client code it
calls, and what comes back.  A creation or a deletion that fails has changed
nothing by them.  The registry is as the client code has left it, and there is
one notice more at most.
-/

namespace Switchboard

variable {σ κ ν : Type}

/-! ## Who comes back to a frame -/

/-- Above a frame of the switchboard the only instruction is to call client
code. -/
theorem Control.Fits.calls {frame : Frame κ} {below : List (Frame κ)}
    (own : ∀ callback state, frame ≠ .client callback state)
    {instruction : Instruction}
    (fits : (Control.run instruction).Fits (frame :: below)) :
    ∃ callback, instruction = .call callback := by
  have other : ¬ Expected.answer.Fits (frame :: below) := by
    intro answered
    obtain ⟨state, same, _⟩ | ⟨callback, state, same, _⟩ :=
      Expected.answer_fits_cons_iff.mp answered
    · exact own none state same
    · exact own (some callback) state same
  have serves {cycle : Cycle} : ¬ cycle.Fits (frame :: below) := by
    intro fits
    simp only [Cycle.Fits] at fits
    split at fits
    · exact other fits
    · cases fits
    · cases fits
  cases instruction with
  | call callback => exact ⟨callback, rfl⟩
  | cycle cycle => exact absurd fits serves
  | route entry cycle => exact absurd fits.2 serves
  | signal entry next => exact absurd fits.2 other
  | begin | check | await | parked | recheck | leave | farewell => cases fits
  | _ => exact absurd fits other

namespace Shared

/-- Whoever calls client code waits for it in a frame of its own. -/
theorem deliver_calls (client : Client σ κ ν) (shared : Shared σ ν)
    {stack : List (Frame κ)} {control : Control} {frame : Frame κ}
    (same : (shared.deliver client stack control frame).stack = stack)
    (callback : Callback)
    (arrives : ∀ instruction, control ≠ .run instruction) :
    (shared.deliver client stack control frame).control ≠
      .run (.call callback) := by
  intro calls
  simp only [deliver] at same calls
  split at calls
  case h_1 | h_2 =>
    simp only [clientMove] at calls
    split at calls <;> cases calls
  case h_6 => exact absurd same (List.cons_ne_self _ _)
  case h_8 descriptor reply =>
    cases built : reply.stream <;> simp only [built] at calls <;> cases calls
  case h_10 descriptor stream reply =>
    cases accepted : reply.accepted <;>
      simp only [accepted] at calls <;> cases calls
  case h_12 => exact arrives _ calls
  case h_4 | h_7 => cases Cycle.run_of_afterLoss calls
  all_goals cases calls

/-- Whoever comes back to a frame of the switchboard brings something for it. -/
theorem move_comes_back (client : Client σ κ ν) (shared : Shared σ ν)
    (around : Surroundings) {stack below : List (Frame κ)} {control : Control}
    {frame : Frame κ} (fits : control.Fits stack)
    (own : ∀ callback state, frame ≠ .client callback state)
    (stands : frame :: below <:+ stack) :
    let turn := shared.move client around stack control
    (frame :: below <:+ turn.stack ∧
        (turn.stack = frame :: below →
          ∀ instruction, turn.control ≠ .run instruction)) ∨
      stack = frame :: below ∧ (∀ instruction, control ≠ .run instruction) ∧
        turn = shared.deliver client below control frame := by
  intro turn
  have calls (top : turn.stack = frame :: below) {instruction : Instruction}
      (runs : turn.control = .run instruction) :
      ∃ callback, turn.control = .run (.call callback) := by
    have fits' := shared.move_fits client around fits
    change turn.control.Fits turn.stack at fits'
    rw [top, runs] at fits'
    obtain ⟨callback, rfl⟩ := fits'.calls own
    exact ⟨callback, runs⟩
  cases control with
  | run instruction =>
      have keeps := shared.execute_suffix client around stack instruction
      refine .inl ⟨stands.trans keeps, fun top other runs => ?_⟩
      obtain ⟨callback, runs⟩ := calls top runs
      -- The thread stood at the frame already, and was about to call client
      -- code.
      obtain rfl := stands.eq_of_length_le (top ▸ keeps.length_le)
      obtain ⟨called, rfl⟩ := fits.calls own
      refine (shared.record (.called called)).clientMove_cases
        (frame :: below) called (client.begin called shared.client)
        (motive := fun turn => turn.stack = frame :: below →
          turn.control ≠ .run (.call callback))
        (fun request next same => ?_) (fun _ _ => Control.noConfusion)
        (fun _ _ => Control.noConfusion) top runs
      exact absurd same (List.cons_ne_self _ _)
  | _ =>
      cases stack with
      | nil => exact absurd (List.suffix_nil.mp stands) (List.cons_ne_nil _ _)
      | cons first rest =>
          rcases List.suffix_cons_iff.mp stands with same | deeper
          · cases same
            exact .inr ⟨rfl, fun _ => Control.noConfusion, rfl⟩
          · have keeps : rest <:+ turn.stack :=
              shared.deliver_suffix client rest _ first
            refine .inl ⟨deeper.trans keeps, fun top other runs => ?_⟩
            obtain ⟨callback, runs⟩ := calls top runs
            obtain rfl := deeper.eq_of_length_le (top ▸ keeps.length_le)
            exact shared.deliver_calls client top callback
              (fun _ => Control.noConfusion) runs

/-- The call of client code leaves the registry as it is. -/
theorem execute_call_registry (client : Client σ κ ν) (shared : Shared σ ν)
    (around : Surroundings) (stack : List (Frame κ)) (callback : Callback) :
    (shared.execute client around stack (.call callback)).shared.registry =
      shared.registry :=
  (shared.record (.called callback)).clientMove_cases stack callback _
    (motive := fun turn => turn.shared.registry = shared.registry)
    (fun _ _ => rfl) (fun _ => rfl) fun _ => rfl

/-- A deletion that does not find its stream any more changes nothing. -/
theorem remove_finds_or_misses (shared : Shared σ ν) (stack : List (Frame κ))
    (descriptor : Descriptor) (stream : Stream) :
    ((∀ current, shared.registry.find? descriptor.id = some current →
        current.handle ≠ stream.handle) ∧
      shared.remove stack descriptor stream =
        .answer shared stack
          (.concluded (.error (.registry (.notFound descriptor.id))))) ∨
      ∃ current : Stream, current.handle = stream.handle ∧ ∃ after : Shared σ ν,
        shared.remove stack descriptor stream =
            .call after stack (.stopping descriptor) (.stopStream stream) ∧
          shared.Alters descriptor.id after (some (.left current)) := by
  simp only [remove]
  by_cases stands :
    ∃ current, shared.registry.find? descriptor.id = some current ∧
      current.handle = stream.handle
  · obtain ⟨current, found, same⟩ := stands
    have left := Registry.unregisterEntry_eq_ok_iff.mpr ⟨found, same, rfl⟩
    have alters :=
      alters_of_left (shared.registry.erase descriptor.id).size found
        descriptor.id
    rw [if_pos rfl] at alters
    simp only [left]
    exact .inr ⟨current, same, _, rfl, alters⟩
  · have gone : ∀ current, shared.registry.find? descriptor.id = some current →
        current.handle ≠ stream.handle :=
          fun current found same => stands ⟨current, found, same⟩
    refine .inl ⟨gone, ?_⟩
    simp only [Registry.unregisterEntry]
    cases found : shared.registry.find? descriptor.id with
    | none => rfl
    | some current => simp only [gone current found, if_false]

end Shared

/-- A frame of the switchboard stands on the stack of a thread until the thread
hands it what has arrived at it.  It calls client code once: whoever comes back
to it brings a reply or a panic. -/
theorem Thread.Changes.of_own_frame {client : Client σ κ ν}
    {world : World σ κ ν} {self : ThreadId} {thread later : Thread κ}
    {occurrence : Occurrence κ}
    (changes : thread.Changes client world self occurrence later)
    (fits : thread.Fits) {frame : Frame κ} {below : List (Frame κ)}
    (own : ∀ callback state, frame ≠ .client callback state)
    (stands : frame :: below <:+ thread.stack) :
    later = thread ∨
      (frame :: below <:+ later.stack ∧
        (later.stack = frame :: below →
          ∀ instruction, later.control ≠ .run instruction)) ∨
      occurrence = .step self ∧ thread.stack = frame :: below ∧
        (∀ instruction, thread.control ≠ .run instruction) ∧
          let turn := world.shared.deliver client below thread.control frame
          later = ⟨thread.role, turn.stack, turn.control⟩ := by
  have filled : thread.stack ≠ [] := fun empty =>
    List.cons_ne_nil _ _ (List.suffix_nil.mp (empty ▸ stands))
  have gone := changes.of_frame fits stands
  cases changes with
  | stays => exact .inl rfl
  | asked request free => exact absurd (stack_of_isFree free) filled
  | handed code free => exact absurd (stack_of_isFree free) filled
  | abandoned runs waits =>
      exact .inr (.inl ⟨stands, fun _ _ => Control.noConfusion⟩)
  | cancelled role runs waits =>
      rcases gone with stays | ⟨steps, _⟩
      · exact absurd (List.suffix_nil.mp stays) (List.cons_ne_nil _ _)
      · cases steps
  | moves turns =>
      rcases world.shared.move_comes_back client
        (world.surroundings self) fits own stands with
        comes | ⟨top, arrives, delivers⟩
      · rw [turns]
        exact .inr (.inl comes)
      · rw [turns, delivers]
        exact .inr (.inr ⟨rfl, top, arrives, rfl⟩)

/-! ## The own steps of a call -/

namespace Call

variable (client : Client σ κ ν) (world : World σ κ ν)
  (run : List (Occurrence κ))

/-- The control of the thread of a call at a moment at which it takes a step of
its own: one with at most one frame above the stack on which it began. -/
def step? (call : Call κ) (moment : Nat) : Option Control :=
  match run[moment]?, (world.upTo client run moment).threads[call.self]? with
  | some (.step self), some thread =>
      if self = call.self ∧ thread.stack.length ≤ call.below.length + 1 then
        some thread.control
      else none
  | _, _ => none

/-- The own steps of a call before a moment, with the moments at which it takes
them. -/
def course (call : Call κ) (before : Nat) : List (Nat × Control) :=
  (List.range before).filterMap fun moment =>
    if call.began ≤ moment then (call.step? client world run moment).map
      (moment, ·) else none

/-- From one moment to another the steps of the thread of a call leave the
registry as it is. -/
structure Spares (call : Call κ) (earlier later : Nat) : Prop where
  order : earlier ≤ later
  own : ∀ moment, earlier ≤ moment → moment < later →
    run[moment]? = some (.step call.self) →
    (world.upTo client run (moment + 1)).shared.registry =
      (world.upTo client run moment).shared.registry

/-- A call leaves the registry as it is from one moment to another, and so the
registry stays as it is if the other threads leave it alone too. -/
structure KeepsRegistry (call : Call κ) (earlier later : Nat) : Prop
    extends call.Spares client world run earlier later where
  same : (∀ moment, earlier ≤ moment → moment < later →
    run[moment]? ≠ some (.step call.self) →
      (world.upTo client run (moment + 1)).shared.registry =
        (world.upTo client run moment).shared.registry) →
    (world.upTo client run later).shared.registry =
      (world.upTo client run earlier).shared.registry

variable {client world run} {call : Call κ}

theorem course_began : call.course client world run call.began = [] := by
  rw [course, List.filterMap_eq_nil_iff]
  intro moment member
  rw [if_neg (Nat.not_le.mpr (List.mem_range.mp member))]

theorem course_succ {moment : Nat} (begun : call.began ≤ moment) :
    call.course client world run (moment + 1) =
      call.course client world run moment ++
        ((call.step? client world run moment).map (moment, ·)).toList := by
  rw [course, List.range_succ, List.filterMap_append, ← course]
  congr 1
  rw [List.filterMap_cons, if_pos begun]
  cases call.step? client world run moment <;> rfl

/-- A step that a call takes itself belongs to its course. -/
theorem course_of_own {moment : Nat} (begun : call.began ≤ moment)
    {stack : List (Frame κ)} {control : Control}
    (takes : world.TakesAt client run call.self moment stack control)
    (own : stack.length ≤ call.below.length + 1) :
    call.course client world run (moment + 1) =
      call.course client world run moment ++ [(moment, control)] := by
  rcases takes with ⟨steps, role, found⟩
  rw [course_succ begun, step?, steps, found]
  simp only [own, and_self, if_true]
  rfl

/-- A moment at which a call takes no step of its own adds nothing to its
course. -/
theorem course_of_other {moment : Nat} (begun : call.began ≤ moment)
    (other :
      ∀ stack control, world.TakesAt client run call.self moment stack control →
      call.below.length + 1 < stack.length) :
    call.course client world run (moment + 1) =
      call.course client world run moment := by
  rw [course_succ begun]
  suffices call.step? client world run moment = none by
    rw [this]
    exact List.append_nil _
  rw [step?]
  split
  · rename_i self thread steps found
    rw [if_neg]
    rintro ⟨rfl, own⟩
    exact absurd own (Nat.not_le.mpr (other _ _ ⟨steps, thread.role, found⟩))
  · rfl

theorem Spares.keepsRegistry {earlier later : Nat}
    (spares : call.Spares client world run earlier later) :
    call.KeepsRegistry client world run earlier later := by
  refine ⟨spares, fun others => ?_⟩
  rcases spares with ⟨order, own⟩
  induction order with
  | refl => rfl
  | @step later order inductionHypothesis =>
      have before := inductionHypothesis
        (fun moment after before => others moment after
          (Nat.lt_succ_of_lt before))
        fun moment after before => own moment after (Nat.lt_succ_of_lt before)
      refine Eq.trans ?_ before
      by_cases steps : run[later]? = some (.step call.self)
      · exact own later order (Nat.lt_succ_self _) steps
      · exact others later order (Nat.lt_succ_self _) steps

theorem Spares.refl (moment : Nat) :
    call.Spares client world run moment moment :=
  ⟨Nat.le_refl _, fun _ after before => absurd before (Nat.not_lt.mpr after)⟩

theorem Spares.succ {earlier later : Nat}
    (spares : call.Spares client world run earlier later)
    (next : run[later]? = some (.step call.self) →
      (world.upTo client run (later + 1)).shared.registry =
        (world.upTo client run later).shared.registry) :
    call.Spares client world run earlier (later + 1) := by
  refine ⟨Nat.le_succ_of_le spares.order, fun moment after before steps => ?_⟩
  rcases Nat.lt_or_eq_of_le (Nat.le_of_lt_succ before) with earlier | rfl
  · exact spares.own moment after earlier steps
  · exact next steps

/-- Who is about to carry out an instruction of its own stays there until it
does. -/
theorem unmoved (allowed : world.allowsAll client run = true) {moment : Nat}
    (inside : moment < run.length) {role : Role} {stack : List (Frame κ)}
    {instruction : Instruction}
    (found : (world.upTo client run moment).threads[call.self]? =
      some ⟨role, stack, .run instruction⟩)
    (moves : run[moment]? ≠ some (.step call.self))
    (firm : instruction.canBeAbandoned = false ∧
      instruction.canBeCancelled = false := by
      exact ⟨rfl, rfl⟩) :
    (world.upTo client run (moment + 1)).threads[call.self]? =
        some ⟨role, stack, .run instruction⟩ ∧
      (call.began ≤ moment →
        call.course client world run (moment + 1) =
          call.course client world run moment) := by
  rcases World.changes_at allowed inside found with ⟨later, found', changes⟩
  rcases changes.of_run rfl firm with rfl | ⟨steps, _⟩
  · exact ⟨found', fun begun =>
      course_of_other begun fun stack control takes => absurd takes.1 moves⟩
  · exact absurd (steps ▸ List.getElem?_eq_getElem inside) moves

/-! ## Client code of a call -/

variable (client world run) in
/-- Client code works for a call above a frame: it is about to be called, or it
was called at an earlier moment.  The own steps of the call before that are
given, and since a moment among them its thread has left the registry as it
is. -/
inductive Consults (call : Call κ) (frame : Frame κ) (callback : Callback)
    (course : List (Nat × Control)) (since moment : Nat) : List (Frame κ) →
      Control → Prop
  | asks (steps : call.course client world run moment = course)
      (spares : call.Spares client world run since moment) :
      Consults call frame callback course since moment (frame :: call.below)
        (.run (.call callback))
  | waits {asked : Nat} {stack : List (Frame κ)} {control : Control}
      (steps : call.course client world run moment =
        course ++ [(asked, .run (.call callback))])
      (spares : call.Spares client world run since (asked + 1))
      (stands : frame :: call.below <:+ stack)
      (arrives : stack = frame :: call.below →
        ∀ instruction, control ≠ .run instruction) :
      Consults call frame callback course since moment stack control

/-- While client code works for a call its thread is not back. -/
theorem Consults.stack_ne {frame : Frame κ} {callback : Callback}
    {course : List (Nat × Control)} {since moment : Nat}
    {stack : List (Frame κ)} {control : Control}
    (consults : call.Consults client world run frame callback course since
      moment stack control) :
    stack ≠ call.below := by
  intro back
  cases consults with
  | asks => exact absurd back (List.cons_ne_self _ _)
  | waits steps spares stands => exact not_suffix_self (back ▸ stands)

/-- Client code has come back to a call with an outcome, at a moment at which
the call hands it to the frame that has waited for it. -/
structure Returns (call : Call κ) (client : Client σ κ ν) (world : World σ κ ν)
    (run : List (Occurrence κ)) (frame : Frame κ) (callback : Callback)
    (course : List (Nat × Control)) (since moment : Nat) (role : Role)
    (outcome : Control) :
    Prop where
  arrives : (∃ reply, outcome = .reply reply) ∨
    ∃ payload, outcome = .raise payload
  steps : ∃ asked, call.course client world run (moment + 1) =
      course ++ [(asked, .run (.call callback)), (moment, outcome)] ∧
    call.Spares client world run since (asked + 1)
  turned :
    let turn :=
      (world.upTo client run moment).shared.deliver client call.below
        outcome frame
    (world.upTo client run (moment + 1)).threads[call.self]? =
        some ⟨role, turn.stack, turn.control⟩ ∧
      (world.upTo client run (moment + 1)).shared = turn.shared

/-- Client code goes on, or comes back. -/
theorem Consults.next (reachable : Reachable client world)
    (allowed : world.allowsAll client run = true) {moment since : Nat}
    (begun : call.began ≤ moment) (inside : moment < run.length) {role : Role}
    {stack : List (Frame κ)} {control : Control}
    (found : (world.upTo client run moment).threads[call.self]? =
      some ⟨role, stack, control⟩)
    {frame : Frame κ} {callback : Callback} {course : List (Nat × Control)}
    (own : ∀ callback state, frame ≠ .client callback state)
    (consults : call.Consults client world run frame callback course since
      moment stack control) :
    (∃ stack' control',
        (world.upTo client run (moment + 1)).threads[call.self]? =
            some ⟨role, stack', control'⟩ ∧
          call.Consults client world run frame callback course since
            (moment + 1) stack'
            control') ∨
      call.Returns client world run frame callback course since moment role
        control := by
  have fits :=
    (reachable.upTo allowed moment).fits _ (List.mem_of_getElem? found)
  by_cases moves : run[moment]? = some (.step call.self)
  case neg =>
    -- What others do leaves the thread where it is, or adds nothing to what the
    -- call has done.
    have same :
        call.course client world run (moment + 1) =
          call.course client world run moment :=
      course_of_other begun fun stack control takes => absurd takes.1 moves
    rcases World.changes_at allowed inside found with
      ⟨⟨role', stack', control'⟩, found', changes⟩
    obtain rfl : role' = role := changes.role
    refine .inl ⟨stack', control', found', ?_⟩
    have others : run[moment] ≠ .step call.self := fun steps =>
      moves (steps ▸ List.getElem?_eq_getElem inside)
    cases consults with
    | asks steps spares =>
        cases changes.eq_of_run rfl ⟨rfl, rfl⟩ others
        exact .asks (same.trans steps)
          (spares.succ fun steps => absurd steps moves)
    | waits steps spares stands arrives =>
        rcases changes.of_own_frame fits own stands with
          stays | comes | ⟨steps, _⟩
        · cases stays
          exact .waits (same.trans steps) spares stands arrives
        · exact .waits (same.trans steps) spares comes.1 comes.2
        · exact absurd steps others
  have moved := World.steps_at moves found
  have takes : world.TakesAt client run call.self moment stack control :=
    ⟨moves, role, found⟩
  cases consults with
  | asks steps spares =>
      refine .inl ⟨_, _, moved.2, ?_⟩
      have course := course_of_own begun takes (Nat.le_refl _)
      rw [steps] at course
      rcases (world.upTo client run moment).shared.move_comes_back client
        ((world.upTo client run moment).surroundings call.self) fits own
          List.suffix_rfl with
        comes | ⟨_, arrives, _⟩
      · refine .waits course (spares.succ fun _ => ?_) comes.1 comes.2
        exact (congrArg Shared.registry moved.1).trans
          (Shared.execute_call_registry client _
          ((world.upTo client run moment).surroundings call.self) _ callback)
      · exact absurd rfl (arrives _)
  | waits steps spares stands arrives =>
      by_cases top : stack = frame :: call.below
      · subst top
        have arrived := fits.arrives (arrives rfl) own
        have course := course_of_own begun takes (Nat.le_refl _)
        rw [steps, List.append_assoc] at course
        refine .inr ⟨arrived, ⟨_, course, spares⟩, ?_⟩
        rcases arrived with ⟨reply, rfl⟩ | ⟨payload, rfl⟩
        · exact moved.symm
        · exact moved.symm
      · have longer : call.below.length + 1 < stack.length :=
          Nat.lt_of_le_of_ne stands.length_le fun same =>
            top (stands.eq_of_length same).symm
        have same : call.course client world run (moment + 1) =
            call.course client world run moment := by
          refine course_of_other begun ?_
          rintro stack' control' ⟨_, role', found'⟩
          cases found.symm.trans found'
          exact longer
        rcases (world.upTo client run moment).shared.move_comes_back client
          ((world.upTo client run moment).surroundings call.self) fits
            own stands with
          comes | ⟨same, _⟩
        · exact .inl
            ⟨_, _, moved.2, .waits (same.trans steps) spares comes.1 comes.2⟩
        · exact absurd same top

/-! ## Creations -/

variable (client world run)

/-- What stands under the id of a call at a moment. -/
def standing? (call : Call κ) (moment : Nat) : Option Stream :=
  (world.upTo client run moment).shared.registry.find? call.descriptor.id

/-- The own steps of a creation up to the outcome of the client code that builds
the stream. -/
def buildSteps (call : Call κ) (asked answered : Nat) (outcome : Control) :
    List (Nat × Control) :=
  let workers := (world.upTo client run call.began).shared.settings.workers
  [(call.began, .run (.create call.descriptor)),
    (asked, .run (.call (.createStream call.descriptor workers))),
    (answered, outcome)]

/-- The phases of a creation: client code builds a stream, the stream is
inserted, and if the id was taken by then, client code stops the stream. -/
inductive Creating (call : Call κ) (moment : Nat) : List (Frame κ) →
    Control → Prop
  | builds {stack : List (Frame κ)} {control : Control}
      (free : call.standing? client world run call.began = none)
      (consults : call.Consults client world run (.creating call.descriptor)
        (.createStream call.descriptor
          (world.upTo client run call.began).shared.settings.workers)
        [(call.began, .run (.create call.descriptor))] call.began moment
          stack control) :
      Creating call moment stack control
  | inserts {asked answered : Nat} {reply : Reply} {stream : Stream}
      (free : call.standing? client world run call.began = none)
      (built : reply.stream = some stream)
      (steps : call.course client world run moment =
        call.buildSteps client world run asked answered (.reply reply))
      (spares : call.Spares client world run answered moment) :
      Creating call moment call.below (.run (.insert call.descriptor stream))
  | stops {asked answered tried : Nat} {reply : Reply} {stream current : Stream}
      {stack : List (Frame κ)} {control : Control}
      (free : call.standing? client world run call.began = none)
      (built : reply.stream = some stream)
      (taken : call.standing? client world run tried = some current)
      (consults : call.Consults client world run
        (.losing call.descriptor (.duplicate call.descriptor.id))
        (.stopStream stream)
        (call.buildSteps client world run asked answered (.reply reply) ++
          [(tried, .run (.insert call.descriptor stream))])
        answered moment stack control) :
      Creating call moment stack control

/-- How a creation ends with an outcome, by the step that leads to the moment:
all that it has done itself, and what it leaves behind.
* It finds the id taken, and logs so.
* Client code builds no stream, and the creation logs so.
* Client code panics instead, and the panic passes.
* The stream is registered.
* The id is taken by then.  The call stops the new stream, once, and logs; or
  the panic of the stop passes.  The registry is as the client code that has
  built the stream has left it, and then as the stop has left it. -/
inductive Creation (call : Call κ) : Nat → Control → Prop
  | finds {current : Stream}
      (taken : call.standing? client world run call.began = some current)
      (steps : call.course client world run (call.began + 1) =
        [(call.began, .run (.create call.descriptor))])
      (noted : (world.upTo client run (call.began + 1)).shared =
        (world.upTo client run call.began).shared.notice
        (.streamExists call.descriptor)) :
      Creation call (call.began + 1)
        (.answer (.created
          (.error (.registry (.duplicate call.descriptor.id)))))
  | fails {asked answered : Nat} {reply : Reply}
      (free : call.standing? client world run call.began = none)
      (nothing : reply.stream = none)
      (steps : call.course client world run (answered + 1) =
        call.buildSteps client world run asked answered (.reply reply))
      (noted : (world.upTo client run (answered + 1)).shared =
        (world.upTo client run answered).shared.notice
        (.creationFailed call.descriptor)) :
      Creation call (answered + 1)
        (.answer (.created (.error
          (.creationFailed call.descriptor.id call.descriptor.name))))
  | panics {asked answered : Nat} {payload : Payload}
      (free : call.standing? client world run call.began = none)
      (steps : call.course client world run (answered + 1) =
        call.buildSteps client world run asked answered (.raise payload))
      (same : (world.upTo client run (answered + 1)).shared =
        (world.upTo client run answered).shared) :
      Creation call (answered + 1) (.raise payload)
  | creates {asked answered tried : Nat} {reply : Reply} {stream : Stream}
      (free : call.standing? client world run call.began = none)
      (built : reply.stream = some stream)
      (steps : call.course client world run (tried + 1) =
        call.buildSteps client world run asked answered (.reply reply) ++
          [(tried, .run (.insert call.descriptor stream))])
      (enters : (world.upTo client run tried).shared.Alters call.descriptor.id
        (world.upTo client run (tried + 1)).shared (some (.entered stream))) :
      Creation call (tried + 1) (.answer (.created (.ok stream)))
  | loses {asked answered tried called stopped : Nat} {reply reply' : Reply}
      {stream current : Stream}
      (free : call.standing? client world run call.began = none)
      (built : reply.stream = some stream)
      (taken : call.standing? client world run tried = some current)
      (steps : call.course client world run (stopped + 1) =
        call.buildSteps client world run asked answered (.reply reply) ++
          [(tried, .run (.insert call.descriptor stream)),
            (called, .run (.call (.stopStream stream))),
            (stopped, .reply reply')])
      (keeps : call.KeepsRegistry client world run answered (called + 1))
      (noted : (world.upTo client run (stopped + 1)).shared =
        (world.upTo client run stopped).shared.notice
        (.streamExists call.descriptor)) :
      Creation call (stopped + 1)
        (.answer (.created
          (.error (.registry (.duplicate call.descriptor.id)))))
  | stopPanics {asked answered tried called stopped : Nat} {reply : Reply}
      {stream current : Stream} {payload : Payload}
      (free : call.standing? client world run call.began = none)
      (built : reply.stream = some stream)
      (taken : call.standing? client world run tried = some current)
      (steps : call.course client world run (stopped + 1) =
        call.buildSteps client world run asked answered (.reply reply) ++
          [(tried, .run (.insert call.descriptor stream)),
            (called, .run (.call (.stopStream stream))),
            (stopped, .raise payload)])
      (keeps : call.KeepsRegistry client world run answered (called + 1))
      (same : (world.upTo client run (stopped + 1)).shared =
        (world.upTo client run stopped).shared) :
      Creation call (stopped + 1) (.raise payload)

variable {client world run}

/-- A thread in a phase of a creation is not back. -/
theorem Creating.not_isBack {moment : Nat} {stack : List (Frame κ)}
    {control : Control}
    (creating : call.Creating client world run moment stack control)
    (back : stack = call.below) :
      ∃ instruction, control = .run instruction := by
  cases creating with
  | builds free consults => exact absurd back consults.stack_ne
  | inserts => exact ⟨_, rfl⟩
  | stops free built taken consults => exact absurd back consults.stack_ne

/-- A creation goes on from each of its phases. -/
theorem Creating.next (reachable : Reachable client world)
    (allowed : world.allowsAll client run = true) {moment : Nat}
    (begun : call.began ≤ moment) (inside : moment < run.length) {role : Role}
    {stack : List (Frame κ)} {control : Control}
    (found : (world.upTo client run moment).threads[call.self]? =
      some ⟨role, stack, control⟩)
    (creating : call.Creating client world run moment stack control) :
    call.IsIn (call.Creating client world run) (call.Creation client world run)
      (moment + 1) (world.upTo client run (moment + 1)) := by
  cases creating with
  | builds free consults =>
      rcases consults.next reachable allowed begun inside found
        (fun _ _ same => by cases same) with
        ⟨stack', control', found', consults⟩ | ⟨arrives,
          ⟨asked, steps, spares⟩, turned⟩
      · exact .goesOn found' (.builds free consults)
      · obtain ⟨reply, rfl⟩ | ⟨payload, rfl⟩ := arrives
        · cases built : reply.stream with
          | none =>
              simp only [Shared.deliver, built] at turned
              exact .back turned.1 (fun _ => Control.noConfusion)
                (.fails free built steps turned.2)
          | some stream =>
              simp only [Shared.deliver, built] at turned
              refine .goesOn turned.1
                (.inserts free built steps (Spares.succ (.refl moment) ?_))
              exact fun _ => congrArg Shared.registry turned.2
        · exact .back turned.1 (fun _ => Control.noConfusion)
            (.panics free steps turned.2)
  | @inserts asked answered reply stream free built steps spares =>
      by_cases moves : run[moment]? = some (.step call.self)
      case neg =>
        have found' := unmoved allowed inside found moves
        exact .goesOn found'.1
          (.inserts free built ((found'.2 begun).trans steps)
          (spares.succ fun steps => absurd steps moves))
      have moved := World.steps_at moves found
      have course := course_of_own begun ⟨moves, role, found⟩ (Nat.le_succ _)
      rw [steps] at course
      rcases (world.upTo client run moment).shared.insert_cases call.below
        call.descriptor stream
        with ⟨current, standing, lost⟩ | ⟨after, entered, alters⟩
      · simp only [Shared.move, Shared.execute, lost] at moved
        exact .goesOn moved.2 (.stops free built standing
          (.asks course
            (spares.succ fun _ => congrArg Shared.registry moved.1)))
      · have alters := alters call.descriptor.id
        rw [if_pos rfl] at alters
        simp only [Shared.move, Shared.execute, entered] at moved
        exact .back moved.2 (fun _ => Control.noConfusion)
          (.creates free built course (moved.1 ▸ alters))
  | stops free built taken consults =>
      rcases consults.next reachable allowed begun inside found
        (fun _ _ same => by cases same) with
        ⟨stack', control', found', consults⟩ | ⟨arrives,
          ⟨called, steps, spares⟩, turned⟩
      · exact .goesOn found' (.stops free built taken consults)
      · rw [List.append_assoc] at steps
        obtain ⟨reply, rfl⟩ | ⟨payload, rfl⟩ := arrives
        · exact .back turned.1 (fun _ => Control.noConfusion)
            (.loses free built taken steps spares.keepsRegistry turned.2)
        · exact .back turned.1 (fun _ => Control.noConfusion)
            (.stopPanics free built taken steps spares.keepsRegistry turned.2)

/-- All that a creation does, and how it ends. -/
theorem Runs.creation_ends (reachable : Reachable client world)
    (allowed : world.allowsAll client run = true) {outcome : Control}
    (runs : call.Runs client world run (.create call.descriptor) outcome) :
    call.Creation client world run call.ended outcome := by
  have first :
      call.IsIn (call.Creating client world run)
        (call.Creation client world run)
      (call.began + 1) (world.upTo client run (call.began + 1)) := by
    rcases runs.begins with ⟨steps, role, found⟩
    have moved := World.steps_at steps found
    have course :=
      course_of_own (Nat.le_refl _) ⟨steps, role, found⟩ (Nat.le_succ _)
    rw [course_began, List.nil_append] at course
    cases standing : call.standing? client world run call.began with
    | some current =>
        have taken : (world.upTo client run call.began).shared.registry.contains
            call.descriptor.id = true := Option.isSome_of_eq_some standing
        simp only [Shared.move, Shared.execute, Shared.create, taken,
          if_true] at moved
        exact .back moved.2 (fun _ => Control.noConfusion)
          (.finds standing course moved.1)
    | none =>
        have free : (world.upTo client run call.began).shared.registry.contains
            call.descriptor.id = false :=
          Option.isSome_eq_false_iff.mpr
            (Option.isNone_iff_eq_none.mpr standing)
        simp only [Shared.move, Shared.execute, Shared.create, free] at moved
        exact .goesOn moved.2 (.builds standing (.asks course
          ((Spares.refl call.began).succ
            fun _ => congrArg Shared.registry moved.1)))
  exact (runs.phases (fun moment stack control => Creating.not_isBack) first
    fun moment role stack control begun inside found =>
      Creating.next reachable allowed (Nat.le_of_lt begun) inside found).1

/-! ## Deletions -/

variable (client world run)

/-- The own steps of a deletion up to the outcome of the client code that is
asked whether the stream may go. -/
def askSteps (call : Call κ) (looked : Stream) (asked answered : Nat)
    (outcome : Control) :
    List (Nat × Control) :=
  [(call.began, .run (.delete call.descriptor)),
    (asked, .run (.call (.deleteStream call.descriptor looked))),
    (answered, outcome)]

/-- The phases of a deletion: client code is asked whether the stream may go,
the stream is removed, and client code stops it. -/
inductive Deleting (call : Call κ) (moment : Nat) : List (Frame κ) →
    Control → Prop
  | asks {looked : Stream} {stack : List (Frame κ)} {control : Control}
      (found : call.standing? client world run call.began = some looked)
      (consults : call.Consults client world run
        (.releasing call.descriptor looked)
        (.deleteStream call.descriptor looked)
        [(call.began, .run (.delete call.descriptor))]
        call.began moment stack control) :
      Deleting call moment stack control
  | removes {looked : Stream} {asked answered : Nat} {reply : Reply}
      (found : call.standing? client world run call.began = some looked)
      (accepted : reply.accepted = true)
      (steps : call.course client world run moment =
        call.askSteps looked asked answered (.reply reply))
      (spares : call.Spares client world run answered moment) :
      Deleting call moment call.below (.run (.remove call.descriptor looked))
  | stops {looked current : Stream} {asked answered removed : Nat}
      {reply : Reply} {stack : List (Frame κ)} {control : Control}
      (found : call.standing? client world run call.began = some looked)
      (accepted : reply.accepted = true) (same : current.handle = looked.handle)
      (leaves : (world.upTo client run removed).shared.Alters call.descriptor.id
        (world.upTo client run (removed + 1)).shared (some (.left current)))
      (consults : call.Consults client world run (.stopping call.descriptor)
        (.stopStream looked)
        (call.askSteps looked asked answered (.reply reply) ++
          [(removed, .run (.remove call.descriptor looked))])
        (removed + 1) moment stack control) :
      Deleting call moment stack control

/-- How a deletion ends with an outcome, by the step that leads to the moment:
all that it has done itself, and what it leaves behind.
* It finds no stream under the id, and logs so.
* Client code refuses to let the stream go, and the deletion logs so.
* Client code panics instead, and the panic passes.
* The stream has gone meanwhile, or another object stands under the id.  No
  stream is stopped, and the registry is as the client code has left it.
* The stream is removed and stopped, or the panic of its stop passes. -/
inductive Deletion (call : Call κ) : Nat → Control → Prop
  | misses (absent : call.standing? client world run call.began = none)
      (steps : call.course client world run (call.began + 1) =
        [(call.began, .run (.delete call.descriptor))])
      (noted : (world.upTo client run (call.began + 1)).shared =
        (world.upTo client run call.began).shared.notice
        (.streamMissing call.descriptor)) :
      Deletion call (call.began + 1)
        (.answer (.concluded
          (.error (.registry (.notFound call.descriptor.id)))))
  | refused {looked : Stream} {asked answered : Nat} {reply : Reply}
      (found : call.standing? client world run call.began = some looked)
      (refuses : reply.accepted = false)
      (steps : call.course client world run (answered + 1) =
        call.askSteps looked asked answered (.reply reply))
      (noted : (world.upTo client run (answered + 1)).shared =
        (world.upTo client run answered).shared.notice
        (.deletionRejected call.descriptor)) :
      Deletion call (answered + 1)
        (.answer (.concluded (.error
          (.deletionRejected call.descriptor.id call.descriptor.name))))
  | panics {looked : Stream} {asked answered : Nat} {payload : Payload}
      (found : call.standing? client world run call.began = some looked)
      (steps : call.course client world run (answered + 1) =
        call.askSteps looked asked answered (.raise payload))
      (same : (world.upTo client run (answered + 1)).shared =
        (world.upTo client run answered).shared) :
      Deletion call (answered + 1) (.raise payload)
  | vanishes {looked : Stream} {asked answered tried : Nat} {reply : Reply}
      (found : call.standing? client world run call.began = some looked)
      (accepted : reply.accepted = true)
      (gone : ∀ current, call.standing? client world run tried = some current →
        current.handle ≠ looked.handle)
      (steps : call.course client world run (tried + 1) =
        call.askSteps looked asked answered (.reply reply) ++
          [(tried, .run (.remove call.descriptor looked))])
      (keeps : call.KeepsRegistry client world run answered (tried + 1))
      (same : (world.upTo client run (tried + 1)).shared =
        (world.upTo client run tried).shared) :
      Deletion call (tried + 1)
        (.answer (.concluded
          (.error (.registry (.notFound call.descriptor.id)))))
  | deletes {looked current : Stream}
      {asked answered removed called stopped : Nat} {reply reply' : Reply}
      (found : call.standing? client world run call.began = some looked)
      (accepted : reply.accepted = true) (same : current.handle = looked.handle)
      (leaves : (world.upTo client run removed).shared.Alters call.descriptor.id
        (world.upTo client run (removed + 1)).shared (some (.left current)))
      (steps : call.course client world run (stopped + 1) =
        call.askSteps looked asked answered (.reply reply) ++
          [(removed, .run (.remove call.descriptor looked)),
            (called, .run (.call (.stopStream looked))),
            (stopped, .reply reply')]) :
      Deletion call (stopped + 1) (.answer (.concluded (.ok ())))
  | stopPanics {looked current : Stream}
      {asked answered removed called stopped : Nat} {reply : Reply}
      {payload : Payload}
      (found : call.standing? client world run call.began = some looked)
      (accepted : reply.accepted = true) (same : current.handle = looked.handle)
      (leaves : (world.upTo client run removed).shared.Alters call.descriptor.id
        (world.upTo client run (removed + 1)).shared (some (.left current)))
      (steps : call.course client world run (stopped + 1) =
        call.askSteps looked asked answered (.reply reply) ++
          [(removed, .run (.remove call.descriptor looked)),
            (called, .run (.call (.stopStream looked))),
            (stopped, .raise payload)]) :
      Deletion call (stopped + 1) (.raise payload)

variable {client world run}

/-- A thread in a phase of a deletion is not back. -/
theorem Deleting.not_isBack {moment : Nat} {stack : List (Frame κ)}
    {control : Control}
    (deleting : call.Deleting client world run moment stack control)
    (back : stack = call.below) :
      ∃ instruction, control = .run instruction := by
  cases deleting with
  | asks found consults => exact absurd back consults.stack_ne
  | removes => exact ⟨_, rfl⟩
  | stops found accepted same leaves consults =>
      exact absurd back consults.stack_ne

/-- A deletion goes on from each of its phases. -/
theorem Deleting.next (reachable : Reachable client world)
    (allowed : world.allowsAll client run = true) {moment : Nat}
    (begun : call.began ≤ moment) (inside : moment < run.length) {role : Role}
    {stack : List (Frame κ)} {control : Control}
    (found : (world.upTo client run moment).threads[call.self]? =
      some ⟨role, stack, control⟩)
    (deleting : call.Deleting client world run moment stack control) :
    call.IsIn (call.Deleting client world run) (call.Deletion client world run)
      (moment + 1) (world.upTo client run (moment + 1)) := by
  cases deleting with
  | asks looked consults =>
      rcases consults.next reachable allowed begun inside found
        (fun _ _ same => by cases same) with
        ⟨stack', control', found', consults⟩ | ⟨arrives,
          ⟨asked, steps, spares⟩, turned⟩
      · exact .goesOn found' (.asks looked consults)
      · obtain ⟨reply, rfl⟩ | ⟨payload, rfl⟩ := arrives
        · cases accepted : reply.accepted with
          | false =>
              simp only [Shared.deliver, accepted] at turned
              exact .back turned.1 (fun _ => Control.noConfusion)
                (.refused looked accepted steps turned.2)
          | true =>
              simp only [Shared.deliver, accepted] at turned
              refine .goesOn turned.1
                (.removes looked accepted steps (Spares.succ (.refl moment) ?_))
              exact fun _ => congrArg Shared.registry turned.2
        · exact .back turned.1 (fun _ => Control.noConfusion)
            (.panics looked steps turned.2)
  | @removes stream asked answered reply looked accepted steps spares =>
      by_cases moves : run[moment]? = some (.step call.self)
      case neg =>
        have found' := unmoved allowed inside found moves
        exact .goesOn found'.1
          (.removes looked accepted ((found'.2 begun).trans steps)
          (spares.succ fun steps => absurd steps moves))
      have moved := World.steps_at moves found
      have course := course_of_own begun ⟨moves, role, found⟩ (Nat.le_succ _)
      rw [steps] at course
      rcases (world.upTo client run moment).shared.remove_finds_or_misses
        call.below
        call.descriptor stream with
          ⟨gone, misses⟩ | ⟨current, same, after, removes, alters⟩
      · simp only [Shared.move, Shared.execute, misses] at moved
        have kept :=
          (spares.succ fun _ => congrArg Shared.registry moved.1).keepsRegistry
        exact .back moved.2 (fun _ => Control.noConfusion)
          (.vanishes looked accepted gone course kept moved.1)
      · simp only [Shared.move, Shared.execute, removes] at moved
        exact .goesOn moved.2
          (.stops looked accepted same (moved.1 ▸ alters)
            (.asks course (.refl _)))
  | stops looked accepted same leaves consults =>
      rcases consults.next reachable allowed begun inside found
        (fun _ _ same => by cases same) with
        ⟨stack', control', found', consults⟩ | ⟨arrives,
          ⟨called, steps, spares⟩, turned⟩
      · exact .goesOn found' (.stops looked accepted same leaves consults)
      · rw [List.append_assoc] at steps
        obtain ⟨reply, rfl⟩ | ⟨payload, rfl⟩ := arrives
        · exact .back turned.1 (fun _ => Control.noConfusion)
            (.deletes looked accepted same leaves steps)
        · exact .back turned.1 (fun _ => Control.noConfusion)
            (.stopPanics looked accepted same leaves steps)

/-- All that a deletion does, and how it ends. -/
theorem Runs.deletion_ends (reachable : Reachable client world)
    (allowed : world.allowsAll client run = true) {outcome : Control}
    (runs : call.Runs client world run (.delete call.descriptor) outcome) :
    call.Deletion client world run call.ended outcome := by
  have first :
      call.IsIn (call.Deleting client world run)
        (call.Deletion client world run)
      (call.began + 1) (world.upTo client run (call.began + 1)) := by
    rcases runs.begins with ⟨steps, role, found⟩
    have moved := World.steps_at steps found
    have course :=
      course_of_own (Nat.le_refl _) ⟨steps, role, found⟩ (Nat.le_succ _)
    rw [course_began, List.nil_append] at course
    cases standing : call.standing? client world run call.began with
    | none =>
        rw [standing?] at standing
        simp only [Shared.move, Shared.execute, Shared.delete,
          standing] at moved
        exact .back moved.2 (fun _ => Control.noConfusion)
          (.misses standing course moved.1)
    | some looked =>
        rw [standing?] at standing
        simp only [Shared.move, Shared.execute, Shared.delete,
          standing] at moved
        exact .goesOn moved.2 (.asks standing (.asks course
          ((Spares.refl call.began).succ
            fun _ => congrArg Shared.registry moved.1)))
  exact (runs.phases (fun moment stack control => Deleting.not_isBack) first
    fun moment role stack control begun inside found =>
      Deleting.next reachable allowed (Nat.le_of_lt begun) inside found).1

end Call

/-! ## All outcomes -/

/-- A creation or a deletion that fails changes nothing of its own, whatever its
callbacks do before they reply or panic, and whatever other threads do
meanwhile.  It takes no steps but those that its outcome tells: at a taken id a
creation calls no client code, and at a free one a deletion; a creation that
comes too late has its stream stopped once, and a deletion that comes too late
stops nothing.  From the outcome of its callback on it leaves the registry
alone, but for what client code does that stops a stream, and it logs one notice
at most. -/
theorem Reachable.failures_change_nothing {client : Client σ κ ν}
    {world : World σ κ ν} {run : List (Occurrence κ)}
    (reachable : Reachable client world)
    (allowed : world.allowsAll client run = true) (call : Call κ)
    (outcome : Control) :
    (call.Runs client world run (.create call.descriptor) outcome →
        call.Creation client world run call.ended outcome) ∧
      (call.Runs client world run (.delete call.descriptor) outcome →
        call.Deletion client world run call.ended outcome) :=
  ⟨fun runs => runs.creation_ends reachable allowed,
    fun runs => runs.deletion_ends reachable allowed⟩

/-- Client code that creates the same stream once more while it builds one for
the first time. -/
def Client.repeating : Client Bool Descriptor Unit where
  begin callback repeated :=
    match callback, repeated with
    | .createStream descriptor _, false =>
        { state := true
          notes := []
          move := .perform (.create descriptor) descriptor }
    | .createStream descriptor _, true =>
        { state := true
          notes := []
          move := .finish
            { Reply.plain with stream := some ⟨1, descriptor.name⟩ } }
    | _, _ =>
        { state := repeated
          notes := []
          move := .finish .plain }
  resume descriptor _ repeated :=
    { state := repeated
      notes := []
      move := .finish { Reply.plain with stream := some ⟨0, descriptor.name⟩ } }
  holds _ _ := true
  publisherName _ := none

/-- The callback of a creation registers another stream under the same id.  The
stream that it builds comes too late: it is stopped, and the other one stays.  A
deletion of another id afterwards finds nothing. -/
theorem Reachable.failures_change_nothing_of_repeating :
    let steps (number : Nat) :=
      List.replicate number (Occurrence.step 0 : Occurrence Descriptor)
    let descriptor := Descriptor.new 7 "camera"
    let other := Descriptor.new 9 "microphone"
    let world : World Bool Descriptor Unit :=
      .new (.new ⟨1, "app"⟩ .standard (.application .new) false) 1
    let run :=
      [.request 0 (.create descriptor)] ++ steps 13 ++
        [.request 0 (.delete other)] ++ steps 2
    let creation : Call Descriptor := ⟨0, [], descriptor, 2, 14⟩
    let deletion : Call Descriptor := ⟨0, [], other, 16, 17⟩
    creation.course .repeating world run 14 =
        creation.buildSteps .repeating world run 3 10
            (.reply { Reply.plain with stream := some ⟨0, "camera"⟩ }) ++
          [(11, .run (.insert descriptor ⟨0, "camera"⟩)),
            (12, .run (.call (.stopStream ⟨0, "camera"⟩))),
            (13, .reply .plain)] ∧
      creation.KeepsRegistry .repeating world run 10 13 ∧
      creation.standing? .repeating world run 14 = some ⟨1, "camera"⟩ ∧
      deletion.course .repeating world run 17 =
        [(16, .run (.delete other))] := by
  intro steps descriptor other world run creation deletion
  have reachable : Reachable Client.repeating world :=
    .opening (.application _ _ _ _)
  have allowed : world.allowsAll .repeating run = true := by decide +kernel
  have creates : creation.Runs .repeating world run (.create descriptor)
      (.answer (.created (.error (.registry (.duplicate 7))))) := by
    apply Call.Runs.of_busy rfl ⟨rfl, .caller, by decide +kernel⟩
      (by decide) (by decide)
    · decide +kernel
    · exact ⟨fun _ => Control.noConfusion, .caller, by decide +kernel⟩
  have deletes : deletion.Runs .repeating world run (.delete other)
      (.answer (.concluded (.error (.registry (.notFound 9))))) := by
    apply Call.Runs.of_busy rfl ⟨rfl, .caller, by decide +kernel⟩
      (by decide) (by decide)
    · decide +kernel
    · exact ⟨fun _ => Control.noConfusion, .caller, by decide +kernel⟩
  have created :=
    (reachable.failures_change_nothing allowed creation _).1 creates
  have deleted :=
    (reachable.failures_change_nothing allowed deletion _).2 deletes
  have course : creation.course .repeating world run 14 =
      creation.buildSteps .repeating world run 3 10
          (.reply { Reply.plain with stream := some ⟨0, "camera"⟩ }) ++
        [(11, .run (.insert descriptor ⟨0, "camera"⟩)),
          (12, .run (.call (.stopStream ⟨0, "camera"⟩))),
          (13, .reply .plain)] := by
    decide +kernel
  refine ⟨course, ?_, by decide +kernel, ?_⟩
  · have free : creation.standing? .repeating world run 2 = none := by
      decide +kernel
    generalize last : creation.ended = moment at created
    cases created with
    | finds taken => cases free.symm.trans taken
    | loses _ _ _ steps keeps =>
        rw [← last] at steps
        cases course.symm.trans steps
        exact keeps
  · generalize last : deletion.ended = moment at deleted
    cases deleted with
    | misses absent steps => exact steps
    | vanishes found =>
        have absent : deletion.standing? .repeating world run 16 = none := by
          decide +kernel
        cases absent.symm.trans found

end Switchboard
