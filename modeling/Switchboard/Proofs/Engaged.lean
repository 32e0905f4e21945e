import Switchboard.Proofs.Alike
import Switchboard.Proofs.Draining

/-!
# About an entry the loop and the drain do the same

A cycle of the dispatch loop and one of the drain take and route entries in the
same way; they differ in what follows once all channels were served.  Where this
is blurred, two tasks that are about the same entry in states that are alike
make the same move.
-/

namespace Switchboard

variable {σ κ ν : Type}

/-! ## What follows a cycle does not matter in the middle of it -/

/-- Whether a loop or a drain goes on after a cycle is blurred. -/
def AfterCycle.blurred : AfterCycle → AfterCycle
  | .answer => .answer
  | .loop _ => .loop 0
  | .drain => .loop 0

/-- A cycle of which only the channels yet to be served are seen, and whether it
was asked for. -/
def Cycle.blurred (cycle : Cycle) : Cycle where
  remaining := cycle.remaining
  productive := true
  after := cycle.after.blurred

/-- A frame with its cycle blurred. -/
def Frame.blurred : Frame κ → Frame κ
  | .sending seq kind streamId cycle => .sending seq kind streamId cycle.blurred
  | .receiving seq session cycle => .receiving seq session cycle.blurred
  | .reporting seq session payload cycle =>
      .reporting seq session payload cycle.blurred
  | other => other

/-- An instruction with its cycle blurred. -/
def Instruction.blurred : Instruction → Instruction
  | .cycle current => .cycle current.blurred
  | .route entry current => .route entry current.blurred
  | other => other

/-- A control with its cycle blurred. -/
def Control.blurred : Control → Control
  | .run instruction => .run instruction.blurred
  | other => other

/-- A turn with all cycles blurred. -/
def Turn.blurred (turn : Turn σ κ ν) : Turn σ κ ν :=
  { turn with
    stack := turn.stack.map Frame.blurred
    control := turn.control.blurred }

/-- Whether a control is one of a task that has no entry in hand. -/
def Control.isRoundabout : Control → Bool
  | .run (.cycle _) | .run .begin | .run (.check _ _) | .run
      (.await _) | .run (.parked _)
  | .run (.recheck _) | .run .leave | .run .farewell => true
  | _ => false

@[simp]
theorem Frame.keeps_blurred (session : SessionHandle) (frame : Frame κ) :
    frame.blurred.keeps session = frame.keeps session := by
  cases frame <;> rfl

/-- What follows a loss is not a matter of what is blurred. -/
theorem Cycle.blurred_afterLoss (cycle : Cycle) (payload : Payload) :
    cycle.blurred.afterLoss payload = (cycle.afterLoss payload).blurred := by
  simp only [afterLoss]
  cases payload.aftermath? <;> rfl

namespace Shared

theorem clientMove_blurred (shared : Shared σ ν) (stack : List (Frame κ))
    (callback : Option Callback) (turn : ClientTurn σ κ ν) :
    shared.clientMove (stack.map Frame.blurred) callback turn =
      (shared.clientMove stack callback turn).blurred := by
  simp only [clientMove]
  cases turn.move <;> rfl

theorem perform_blurred (client : Client σ κ ν) (shared : Shared σ ν)
    (around : Surroundings) (stack : List (Frame κ)) {request : Request}
    (mild : request.isMild = true) :
    shared.perform client around (stack.map Frame.blurred) request =
      (shared.perform client around stack request).blurred := by
  cases request with
  | submit | create | delete | inspect | typeName =>
      simp only [perform]
      split <;> first | rfl | contradiction
  | _ => cases mild

theorem route_blurred (shared : Shared σ ν) (alive : SessionHandle → Bool)
    (stack : List (Frame κ)) (entry : Sequenced Item) (cycle : Cycle) :
    shared.route alive (stack.map Frame.blurred) entry cycle.blurred =
      (shared.route alive stack entry cycle).blurred := by
  simp only [route]
  split
  · split <;> rfl
  · split <;> rfl

theorem execute_blurred (client : Client σ κ ν) (shared : Shared σ ν)
    (around : Surroundings) (stack : List (Frame κ))
    {instruction instruction' : Instruction}
    (same : instruction.blurred.Matches Request.isMild true instruction')
    (engaged : (Control.run instruction).isRoundabout = false) :
    shared.execute client around (stack.map Frame.blurred) instruction.blurred =
      (shared.execute client around stack instruction).blurred := by
  cases instruction with
  | perform request =>
      cases same with
      | perform _ mild => exact shared.perform_blurred client around stack mild
  | call callback => exact clientMove_blurred _ stack _ _
  | signal entry next =>
      cases same
      rfl
  | route entry cycle => exact shared.route_blurred _ stack entry cycle
  | create descriptor =>
      simp only [Instruction.blurred, execute, create]
      split <;> rfl
  | insert descriptor stream =>
      simp only [Instruction.blurred, execute, insert]
      split <;> rfl
  | delete descriptor =>
      simp only [Instruction.blurred, execute, delete]
      split <;> rfl
  | remove descriptor stream =>
      simp only [Instruction.blurred, execute, remove]
      split <;> rfl
  | answer | stamp | push => rfl
  | cycle | begin | check | await | parked | recheck | leave | farewell =>
      cases engaged
  | start | stop | awaitTask | join => cases same

theorem deliver_blurred (client : Client σ κ ν) (shared : Shared σ ν)
    (stack : List (Frame κ)) {control : Control}
    (arrives : ∀ instruction, control ≠ .run instruction) (frame : Frame κ) :
    shared.deliver client (stack.map Frame.blurred) control frame.blurred =
      (shared.deliver client stack control frame).blurred := by
  cases frame with
  | client callback state =>
      cases control with
      | run instruction => exact absurd rfl (arrives instruction)
      | answer answer => exact shared.clientMove_blurred stack callback _
      | raise payload => exact shared.clientMove_blurred stack callback _
      | _ => rfl
  | creating descriptor =>
      cases control with
      | run instruction => exact absurd rfl (arrives instruction)
      | reply reply =>
          simp only [Frame.blurred, deliver, built]
          cases reply.stream <;> rfl
      | _ => rfl
  | releasing descriptor stream =>
      cases control with
      | run instruction => exact absurd rfl (arrives instruction)
      | reply reply =>
          simp only [Frame.blurred, deliver, released]
          cases reply.accepted <;> rfl
      | _ => rfl
  | sending seq kind streamId cycle =>
      cases control with
      | run instruction => exact absurd rfl (arrives instruction)
      | raise payload =>
          simp only [Frame.blurred, deliver, frameLost, cycle.blurred_afterLoss]
          rfl
      | _ => rfl
  | reporting seq session payload cycle =>
      cases control with
      | run instruction => exact absurd rfl (arrives instruction)
      | reply reply =>
          simp only [Frame.blurred, deliver, packetReported,
            cycle.blurred_afterLoss]
          rfl
      | _ => rfl
  | _ =>
      cases control with
      | run instruction => exact absurd rfl (arrives instruction)
      | _ => rfl

/-- Whoever has an entry in hand makes the same move whatever follows the
cycle. -/
theorem move_blurred (client : Client σ κ ν) (shared : Shared σ ν)
    (around : Surroundings) (stack : List (Frame κ))
    {control control' : Control}
    (same : control.blurred.Matches Request.isMild true control')
    (engaged : control.isRoundabout = false) :
    shared.move client around (stack.map Frame.blurred) control.blurred =
      (shared.move client around stack control).blurred := by
  cases control with
  | run instruction =>
      cases same with
      | run same =>
          exact shared.execute_blurred client around stack same engaged
  | _ =>
      cases stack with
      | nil => rfl
      | cons frame below =>
          exact shared.deliver_blurred client below
            (fun _ => Control.noConfusion) frame

end Shared

/-! ## Two tasks with the same entry in hand -/

/-- Two threads do the same thing for entries that they have taken in cycles of
loops or drains. -/
structure Engaged (stack stack' : List (Frame κ)) (control control' : Control) :
    Prop where
  frames : List.Forall₂ (Frame.Matches true) (stack.map Frame.blurred)
    (stack'.map Frame.blurred)
  control : control.blurred.Matches Request.isMild true control'.blurred

/-- The channels that a cycle has yet to serve. -/
def Control.remaining : Control → List Channel
  | .run (.cycle current) => current.remaining
  | _ => []

/-- Whether a control is that of a task about to route an entry. -/
def Control.isRouting : Control → Bool
  | .run (.route _ _) => true
  | _ => false

/-- Whether a task has an entry in hand: it is about to route it, or a callback
is at work. -/
def Control.hasEntry (stack : List (Frame κ)) (control : Control) : Bool :=
  !stack.isEmpty || control.isRouting

namespace Control

variable {stack : List (Frame κ)} {control control' : Control}

theorem hasEntry_eq_false_iff :
    control.hasEntry stack = false ↔
      stack = [] ∧ control.isRouting = false := by
  rw [hasEntry, Bool.or_eq_false_iff, Bool.not_eq_false', List.isEmpty_iff]

theorem isRouting_iff :
    control.isRouting = true ↔
      ∃ entry cycle, control = .run (.route entry cycle) := by
  constructor
  · intro routes
    simp only [isRouting] at routes
    split at routes
    · exact ⟨_, _, rfl⟩
    · cases routes
  · rintro ⟨entry, cycle, rfl⟩
    rfl

theorem Matches.isRouting_eq {looping : Bool}
    (same : control.Matches Request.isMild looping control') :
    control.isRouting = control'.isRouting := by
  cases same with
  | run same => cases same <;> rfl
  | _ => rfl

@[simp]
theorem isRouting_blurred (control : Control) :
    control.blurred.isRouting = control.isRouting := by
  cases control with
  | run instruction => cases instruction <;> rfl
  | _ => rfl

theorem Matches.remaining_eq {looping : Bool}
    (same : control.Matches Request.isMild looping control') :
    control.remaining = control'.remaining := by
  cases same with
  | run same =>
      cases same with
      | cycle same =>
          cases same
          rfl
      | _ => rfl
  | _ => rfl

theorem Matches.isRoundabout_eq {looping : Bool}
    (same : control.Matches Request.isMild looping control') :
    control.isRoundabout = control'.isRoundabout := by
  cases same with
  | run same => cases same <;> rfl
  | _ => rfl

@[simp]
theorem remaining_blurred (control : Control) :
    control.blurred.remaining = control.remaining := by
  cases control with
  | run instruction => cases instruction <;> rfl
  | _ => rfl

@[simp]
theorem isRoundabout_blurred (control : Control) :
    control.blurred.isRoundabout = control.isRoundabout := by
  cases control with
  | run instruction => cases instruction <;> rfl
  | _ => rfl

theorem isFruitless_blurred (control : Control) :
    control.blurred.isFruitless = false := by
  cases control with
  | run instruction =>
      cases instruction with
      | cycle current =>
          rcases current with ⟨remaining, productive, after⟩
          cases remaining <;> cases after <;> rfl
      | _ => rfl
  | _ => rfl

end Control

namespace Engaged

variable {stack stack' : List (Frame κ)} {control control' : Control}

theorem remaining_eq (engaged : Engaged stack stack' control control') :
    control.remaining = control'.remaining := by
  rw [← control.remaining_blurred, engaged.control.remaining_eq,
    control'.remaining_blurred]

theorem isRoundabout_eq (engaged : Engaged stack stack' control control') :
    control.isRoundabout = control'.isRoundabout := by
  rw [← control.isRoundabout_blurred, engaged.control.isRoundabout_eq,
    control'.isRoundabout_blurred]

/-- The same sessions are kept alive. -/
theorem any_keeps_eq (engaged : Engaged stack stack' control control')
    (session : SessionHandle) :
    stack.any (Frame.keeps session) = stack'.any (Frame.keeps session) := by
  have same := Frame.any_keeps_eq engaged.frames session
  simpa only [List.any_map, Function.comp_def, Frame.keeps_blurred] using same

theorem hasEntry_eq (engaged : Engaged stack stack' control control') :
    control.hasEntry stack = control'.hasEntry stack' := by
  have length := engaged.frames.length_eq
  rw [List.length_map, List.length_map] at length
  have empty : stack.isEmpty = stack'.isEmpty := by
    cases stack <;> cases stack' <;> first | rfl | cases length
  have routes := engaged.control.isRouting_eq
  rw [control.isRouting_blurred, control'.isRouting_blurred] at routes
  rw [Control.hasEntry, Control.hasEntry, empty, routes]

/-- Whoever has an entry in hand does not go round the queues. -/
theorem isRoundabout_eq_false (engaged : Engaged stack stack' control control')
    (fits : control.Fits stack) (busy : control.hasEntry stack = true) :
    control.isRoundabout = false := by
  rw [Control.hasEntry, Bool.or_eq_true, Bool.not_eq_true',
    List.isEmpty_eq_false_iff] at busy
  rw [Bool.eq_false_iff]
  intro round
  simp only [Control.isRoundabout] at round
  split at round
  · rename_i current
    have answers :=
      Control.answers_of_busy fits
        (.inl (busy.resolve_right Bool.false_ne_true))
    have same := engaged.control.symm
    rcases current with ⟨remaining, productive, after⟩
    cases answers
    generalize control'.blurred = other at same
    cases same with
    | run same =>
        cases same with
        | cycle same => cases same
  all_goals first
    | exact busy.resolve_right Bool.false_ne_true fits
    | cases round

end Engaged

/-- What is seen of a control tells whether it asks for something. -/
theorem Control.blurred_eq_perform_iff {control : Control} {request : Request} :
    control.blurred = .run (.perform request) ↔
      control = .run (.perform request) := by
  cases control with
  | run instruction => cases instruction <;> simp [blurred, Instruction.blurred]
  | _ => simp [blurred]

/-- Two threads with the same entry in hand ask for the display name at the same
time. -/
theorem Engaged.names_iff {stack stack' : List (Frame κ)}
    {control control' : Control}
    (engaged : Engaged stack stack' control control') :
    control = .run (.perform .typeName) ↔
      control' = .run (.perform .typeName) := by
  rw [← Control.blurred_eq_perform_iff, ← control'.blurred_eq_perform_iff]
  have same := engaged.control
  constructor
  · intro asks
    rw [asks] at same
    generalize control'.blurred = other at same
    cases same with
    | run same => cases same with
      | perform => rfl
  · intro asks
    rw [asks] at same
    generalize control.blurred = other at same
    cases same with
    | run same => cases same with
      | perform => rfl

/-- A turn in which nobody is started or stopped, though the display name may be
settled. -/
structure Turn.Proceeds (shared : Shared σ ν) (turn : Turn σ κ ν) : Prop where
  settings : turn.shared.settings = shared.settings
  switch : turn.shared.switch? = shared.switch?
  spawned : turn.spawned = false

theorem Turn.Continues.proceeds {shared : Shared σ ν} {turn : Turn σ κ ν}
    (continues : turn.Continues shared) : turn.Proceeds shared where
  settings := continues.remains.settings
  switch :=
    Shared.switch?_eq continues.remains.host continues.remains.stopRequested
  spawned := continues.spawned

namespace Shared

/-- Whoever has an entry in hand, in a cycle of a loop or a drain, goes on with
a delivery, unless client code asks for the display name. -/
theorem move_engaged_continues (client : Client σ κ ν) (shared : Shared σ ν)
    (around : Surroundings) (stack : List (Frame κ))
    {control control' : Control}
    (same : control.blurred.Matches Request.isMild true control')
    (busy : control.isRoundabout = false)
    (unnamed : control ≠ .run (.perform .typeName)) :
    (shared.move client around stack control).Continues shared := by
  have continues :=
    shared.move_continues client around (stack.map Frame.blurred)
    same (unnamed ∘ Control.blurred_eq_perform_iff.mp) fun watch checks => by
      rw [← control.isRoundabout_blurred, checks] at busy
      cases busy
  rw [shared.move_blurred client around stack same busy] at continues
  exact ⟨continues.remains, continues.spawned⟩

/-- Whoever has an entry in hand, in a cycle of a loop or a drain, starts and
stops nothing. -/
theorem move_engaged_proceeds (client : Client σ κ ν) (shared : Shared σ ν)
    (around : Surroundings) (stack : List (Frame κ))
    {control control' : Control}
    (same : control.blurred.Matches Request.isMild true control')
    (busy : control.isRoundabout = false) :
    (shared.move client around stack control).Proceeds shared := by
  by_cases asks : control = .run (.perform .typeName)
  · subst asks
    have settings := (askTypeName_alike client shared).settings
    have switch := askTypeName_switch? client shared
    cases host : shared.host with
    | application application =>
        simp only [move, execute, perform, host]
        exact ⟨settings.symm, switch, rfl⟩
    | alone | closed =>
        simp only [move, execute, perform, host]
        exact ⟨rfl, rfl, rfl⟩
  · exact (shared.move_engaged_continues client around stack same busy
      asks).proceeds

/-- Two threads with the same entry in hand make the same move in states that
are alike, and settle the same of the display name. -/
theorem move_engaged {client : Client σ κ ν} {shared other : Shared σ ν}
    {around around' : Surroundings} {stack stack' : List (Frame κ)}
    {control control' : Control} (only : client.AsksOnly Request.isMild)
    (alike : shared.Alike other) (hosted : shared.IsHosted)
    (hosted' : other.IsHosted) (named : shared.nameplate? = other.nameplate?)
    (keeps : ∀ session, around.keeps session = around'.keeps session)
    (engaged : Engaged stack stack' control control')
    (busy : control.isRoundabout = false) :
    let turn := shared.move client around stack control
    let turn' := other.move client around' stack' control'
    turn.shared.Alike turn'.shared ∧
      turn.shared.nameplate? = turn'.shared.nameplate? ∧
      Engaged turn.stack turn'.stack turn.control turn'.control := by
  have busy' := engaged.isRoundabout_eq ▸ busy
  have matching := move_matches only alike hosted hosted' keeps engaged.frames
    engaged.control (fun _ => named) (fun watch checks => by
      rw [← control.isRoundabout_blurred, checks] at busy
      cases busy) control.isFruitless_blurred
  rw [shared.move_blurred client around stack engaged.control busy,
    other.move_blurred client around' stack' engaged.control.symm
      busy'] at matching
  refine ⟨matching.shared, ?_, matching.stack, matching.control⟩
  by_cases asks : control = .run (.perform .typeName)
  · obtain rfl := engaged.names_iff.mp asks
    subst asks
    rcases alike.askTypeName client hosted hosted' named with ⟨_, _, settled⟩
    rcases hosted with ⟨application, hosted⟩
    rcases hosted' with ⟨application', hosted'⟩
    simp only [move, execute, perform, hosted, hosted']
    exact settled
  · have continues :=
      shared.move_engaged_continues client around stack
        engaged.control busy asks
    have continues' := other.move_engaged_continues client around' stack'
      engaged.control.symm busy' (asks ∘ engaged.names_iff.mpr)
    rw [nameplate?_eq continues.remains.host,
      nameplate?_eq continues'.remains.host]
    exact named

end Shared

/-! ## No entry in hand -/

namespace Shared

/-- The first of some channels on which something waits, and those that come
after it. -/
def first? (shared : Shared σ ν) : List Channel →
    Option (Channel × List Channel)
  | [] => none
  | channel :: rest =>
      if (shared.waiting channel).isEmpty then shared.first? rest else some
        (channel, rest)

/-- The channel from which a task takes its next entry, and the channels that
the cycle then has yet to serve: it is served in the cycle in progress or in the
next one. -/
def upcoming? (shared : Shared σ ν) (control : Control) :
    Option (Channel × List Channel) :=
  (shared.first? control.remaining).or (shared.first? Channel.all)

/-- A drain that has found nothing yet has left nothing on the channels that it
has served, and a task that has come to its end has left nothing at all and has
ended well. -/
def Clears (shared : Shared σ ν) (stack : List (Frame κ)) : Control → Prop
  | .run (.cycle ⟨remaining, false, .drain⟩) =>
      ∀ channel, channel ∉ remaining → shared.waiting channel = []
  | .run .farewell => ∀ channel, shared.waiting channel = []
  | .run _ => True
  | control =>
      stack = [] → control = .answer .done ∧
        ∀ channel, shared.waiting channel = []

end Shared

/-- A task takes the first entry of the channel that is to be served next. -/
inductive Turn.Draws (shared : Shared σ ν) (control : Control)
    (turn : Turn σ κ ν) : Prop
  | draws {cycle : Cycle} {channel : Channel} {remaining : List Channel}
      {entry : Sequenced Item} {dispatcher : Dispatcher}
      (serves : control = .run (.cycle cycle)) (own : cycle.after ≠ .answer)
      (next : cycle.remaining = channel :: remaining)
      (popped : shared.dispatcher.pop? channel = some (entry, dispatcher))
      (turns : turn =
        .run (({ shared with dispatcher := dispatcher }).record
          (.drained entry)) []
        (.route entry (cycle.served remaining true)))

/-- Whoever takes an entry starts and stops nothing. -/
theorem Turn.Draws.continues {shared : Shared σ ν} {control : Control}
    {turn : Turn σ κ ν} (draws : turn.Draws shared control) :
    turn.Continues shared := by
  rcases draws with ⟨serves, own, next, popped, turns⟩
  rcases Option.map_eq_some_iff.mp popped with ⟨_, _, same⟩
  cases same
  rw [turns]
  exact ⟨⟨rfl, rfl, rfl, List.suffix_cons _ _⟩, rfl⟩

/-- A turn of a task that has no entry in hand, and takes none, is no matter of
clients. -/
structure Turn.Roams (shared : Shared σ ν) (control : Control)
    (turn : Turn σ κ ν) : Prop where
  continues : turn.Continues shared
  alike : shared.Alike turn.shared
  free : turn.control.hasEntry turn.stack = false
  upcoming : turn.shared.upcoming? turn.control = shared.upcoming? control
  clears : shared.settings.drainOnStop = true →
    shared.Clears ([] : List (Frame κ)) control →
    turn.shared.Clears turn.stack turn.control

namespace Shared

theorem check_roams (shared : Shared σ ν) (idle : Bool) (watch : Nat) :
    (shared.check ([] : List (Frame κ)) idle watch).Roams shared
    (.run (.check idle watch)) := by
  simp only [check]
  split
  · exact ⟨⟨.refl shared, rfl⟩, .refl shared, rfl, rfl, fun _ _ => trivial⟩
  · cases shared.reportDue watch <;> cases idle
    · exact ⟨⟨.refl shared, rfl⟩, .refl shared, rfl, Option.or_self,
        fun _ _ => trivial⟩
    · exact ⟨⟨.refl shared, rfl⟩, .refl shared, rfl, rfl, fun _ _ => trivial⟩
    · exact ⟨⟨⟨rfl, rfl, rfl, List.suffix_cons _ _⟩, rfl⟩,
        ⟨rfl, rfl, rfl, rfl, rfl, rfl, rfl⟩, rfl, Option.or_self,
        fun _ _ => trivial⟩
    · exact ⟨⟨⟨rfl, rfl, rfl, List.suffix_cons _ _⟩, rfl⟩,
        ⟨rfl, rfl, rfl, rfl, rfl, rfl, rfl⟩, rfl, rfl, fun _ _ => trivial⟩

/-- Between two cycles a task roams. -/
theorem move_between_roams (client : Client σ κ ν) (shared : Shared σ ν)
    (around : Surroundings) {control : Control}
    (between : control.isBetweenCycles = true) :
    (shared.move client around ([] : List (Frame κ)) control).Roams shared
      control := by
  simp only [Control.isBetweenCycles] at between
  split at between
  · exact ⟨⟨⟨rfl, rfl, rfl, List.suffix_cons _ _⟩, rfl⟩,
      ⟨rfl, rfl, rfl, rfl, rfl, rfl, rfl⟩, rfl, rfl, fun _ _ => trivial⟩
  · exact shared.check_roams _ _
  · simp only [move, execute, await]
    split <;>
      exact ⟨⟨⟨rfl, rfl, rfl, List.suffix_rfl⟩, rfl⟩,
        ⟨rfl, rfl, rfl, rfl, rfl, rfl, rfl⟩, rfl, rfl, fun _ _ => trivial⟩
  · simp only [move, execute, parked]
    split <;>
      exact ⟨⟨⟨rfl, rfl, rfl, List.suffix_rfl⟩, rfl⟩,
        ⟨rfl, rfl, rfl, rfl, rfl, rfl, rfl⟩, rfl, rfl, fun _ _ => trivial⟩
  · simp only [move, execute, recheck]
    split
    · exact ⟨⟨.refl shared, rfl⟩, .refl shared, rfl, rfl, fun _ _ => trivial⟩
    · exact ⟨⟨.refl shared, rfl⟩, .refl shared, rfl, Option.or_self,
        fun _ _ => trivial⟩
  · cases between

/-- At the end of a cycle a task roams. -/
theorem ends_roams (shared : Shared σ ν) {cycle : Cycle}
    (served : cycle.remaining = []) (own : cycle.after ≠ .answer) :
    (Turn.run shared ([] : List (Frame κ)) cycle.next).Roams shared
    (.run (.cycle cycle)) := by
  rcases cycle with ⟨_, productive, after⟩
  cases served
  cases after with
  | answer => exact absurd rfl own
  | loop watch =>
      exact ⟨⟨.refl shared, rfl⟩, .refl shared, rfl, rfl, fun _ _ => trivial⟩
  | drain =>
      cases productive with
      | true =>
          exact ⟨⟨.refl shared, rfl⟩, .refl shared, rfl, Option.or_self,
            fun _ _ channel gone => absurd channel.mem_all gone⟩
      | false =>
          exact ⟨⟨.refl shared, rfl⟩, .refl shared, rfl, rfl,
            fun _ clears channel => clears channel List.not_mem_nil⟩

/-- At a channel on which nothing waits a task roams. -/
theorem skips_roams (shared : Shared σ ν) {cycle : Cycle} {channel : Channel}
    {remaining : List Channel} (next : cycle.remaining = channel :: remaining)
    (empty : shared.waiting channel = []) :
    (Turn.run shared ([] : List (Frame κ))
      (.cycle (cycle.served remaining false))).Roams shared
      (.run (.cycle cycle)) := by
  rcases cycle with ⟨_, productive, after⟩
  cases next
  refine ⟨⟨.refl shared, rfl⟩, .refl shared, rfl, ?_, fun _ clears => ?_⟩
  · simp only [upcoming?, Turn.run, Turn.pass, Control.remaining, Cycle.served,
      first?, empty, List.isEmpty_nil, ↓reduceIte]
  · cases productive <;> cases after <;> try trivial
    intro other gone
    by_cases same : other = channel
    · rw [same]
      exact empty
    · exact clears other (List.not_mem_cons_of_ne_of_not_mem same gone)

/-- A task that has no entry in hand roams or takes one. -/
theorem move_free (client : Client σ κ ν) (shared : Shared σ ν)
    (around : Surroundings) {control : Control}
    (inTask : InTask ([] : List (Frame κ)) control)
    (free : control.isRouting = false) :
    let turn := shared.move client around ([] : List (Frame κ)) control
    turn.Roams shared control ∨ turn.Draws shared control := by
  have cycles {after : AfterCycle} (own : after ≠ .answer) {left : Nat}
      (inCycle : InCycle after [] left ([] : List (Frame κ)) control) :
      let turn := shared.move client around ([] : List (Frame κ)) control
      turn.Roams shared control ∨ turn.Draws shared control := by
    rcases inCycle.of_nil with ⟨cycle, rfl, rfl | ⟨entry, rfl⟩⟩
    swap
    · cases free
    have moves :
        cycle.Moves (4 * cycle.remaining.length) shared ([] : List (Frame κ))
          (.run (.cycle cycle))
          (shared.move client around [] (.run (.cycle cycle))) :=
      shared.serve_moves (Nat.le_refl _)
    generalize shared.move client around [] (.run (.cycle cycle)) =
      turn at moves
    cases moves with
    | ends served => exact .inl (shared.ends_roams served own)
    | skips next empty enough => exact .inl (shared.skips_roams next empty)
    | takes next popped enough => exact .inr (.draws rfl own next popped rfl)
    | goes busy found goes =>
        rcases busy with filled | ⟨entry, cycle, routes⟩
        · exact absurd rfl filled
        · cases routes
  cases inTask with
  | loops inLoop =>
      cases inLoop with
      | between between =>
          exact .inl (shared.move_between_roams client around between)
      | inCycle watch left inCycle =>
          exact cycles AfterCycle.noConfusion inCycle
  | drains left inCycle => exact cycles AfterCycle.noConfusion inCycle
  | leaves last =>
      left
      obtain rfl | rfl := last
      · simp only [move, execute, leave]
        split
        · exact ⟨⟨.refl shared, rfl⟩, .refl shared, rfl, Option.or_self,
            fun _ _ channel gone => absurd channel.mem_all gone⟩
        · rename_i undrained
          exact ⟨⟨.refl shared, rfl⟩, .refl shared, rfl, rfl,
            fun drains => absurd drains undrained⟩
      · exact ⟨⟨⟨rfl, rfl, rfl, List.suffix_cons _ _⟩, rfl⟩,
          ⟨rfl, rfl, rfl, rfl, rfl, rfl, rfl⟩, rfl, rfl, fun _ clears _ =>
          ⟨rfl, clears⟩⟩
  | ended done =>
      left
      cases control with
      | run instruction => exact absurd rfl (done instruction)
      | _ =>
          exact ⟨⟨.refl shared, rfl⟩, .refl shared, rfl, rfl,
            fun _ clears => clears⟩

end Shared

/-! ## An entry in hand -/

/-- Every cycle that waits on a stack has found an item. -/
theorem Expected.Fits.productive {expected : Expected} {stack : List (Frame κ)}
    (fits : expected.Fits stack) {frame : Frame κ} (member : frame ∈ stack)
    {cycle : Cycle} (waits : frame.cycle? = some cycle) :
    cycle.productive = true := by
  induction stack generalizing expected with
  | nil => exact absurd member List.not_mem_nil
  | cons top below inductionHypothesis =>
      cases expected with
      | answer =>
          obtain ⟨state, rfl, rfl⟩ | ⟨callback, state, rfl, fits⟩ :=
            Expected.answer_fits_cons_iff.mp fits
          · cases List.mem_singleton.mp member
            cases waits
          · rcases List.mem_cons.mp member with rfl | deeper
            · cases waits
            · exact inductionHypothesis fits deeper
      | reply callback =>
          have beneath := (Expected.reply_fits_cons_iff.mp fits).2
          rcases List.mem_cons.mp member with rfl | deeper
          · rw [waits] at beneath
            exact beneath.1
          · cases found : top.cycle? with
            | none =>
                rw [found] at beneath
                exact inductionHypothesis beneath deeper
            | some other =>
                rw [found] at beneath
                exact inductionHypothesis beneath.2.answer_fits deeper

theorem Control.Fits.productive {control : Control} {stack : List (Frame κ)}
    (fits : control.Fits stack) {frame : Frame κ} (member : frame ∈ stack)
    {cycle : Cycle} (waits : frame.cycle? = some cycle) :
    cycle.productive = true := by
  have empty {goal : Prop} (empty : stack = []) : goal := by
    rw [empty] at member
    exact absurd member List.not_mem_nil
  have answered (fits : Expected.answer.Fits stack) : cycle.productive = true :=
    fits.productive member waits
  cases control with
  | run instruction =>
      cases instruction with
      | call callback => exact Expected.Fits.productive fits member waits
      | cycle current =>
          exact (Cycle.Fits.answer_fits fits).productive member waits
      | route entry current =>
          exact (Cycle.Fits.answer_fits fits.2).productive member waits
      | signal entry next => exact Expected.Fits.productive fits.2 member waits
      | begin | check | await | parked | recheck | leave | farewell =>
          exact empty fits
      | _ => exact answered fits
  | answer answer => exact answered fits
  | reply reply =>
      rcases fits with nil | ⟨callback, fits⟩
      · exact empty nil
      · exact fits.productive member waits
  | raise payload =>
      rcases fits with fits | ⟨callback, fits⟩
      · exact fits.productive member waits
      · exact fits.productive member waits
  | cancelled => exact empty fits

/-- A thread in a cycle is in one that is known. -/
theorem InCycle.goes {after : AfterCycle} {left : Nat} {stack : List (Frame κ)}
    {control : Control} (inCycle : InCycle after [] left stack control)
    (fits : control.Fits stack) :
    ∃ cycle : Cycle, cycle.after = after ∧ cycle.Goes left stack control := by
  cases inCycle with
  | @serves cycle same enough => exact ⟨cycle, same, .serves enough⟩
  | @routes entry cycle same enough =>
      exact ⟨cycle, same, .routes entry fits.1 enough⟩
  | @calls frame cycle _ _ waits same enough stands =>
      have member : frame ∈ stack :=
        stands.subset (List.mem_singleton_self frame)
      exact ⟨cycle, same,
        .calls frame waits (fits.productive member waits) enough stands⟩

/-- A task with an entry in hand is in a cycle. -/
theorem InTask.inCycle {stack : List (Frame κ)} {control : Control}
    (inTask : InTask stack control) (busy : control.hasEntry stack = true) :
    ∃ after left, after ≠ .answer ∧ InCycle after [] left stack control := by
  cases inTask with
  | loops inLoop =>
      cases inLoop with
      | between between =>
          rcases Control.runs_of_isBetweenCycles between with
            ⟨instruction, rfl, _⟩
          cases instruction with
          | route => cases between
          | _ => cases busy
      | inCycle watch left inCycle =>
          exact ⟨_, left, AfterCycle.noConfusion, inCycle⟩
  | drains left inCycle => exact ⟨_, left, AfterCycle.noConfusion, inCycle⟩
  | leaves last => obtain rfl | rfl := last <;> cases busy
  | ended done =>
      rcases Control.isRouting_iff.mp busy with ⟨entry, cycle, rfl⟩
      exact absurd rfl (done _)

namespace Shared

/-- In a cycle of a loop, and in one that has found an item, nothing is said of
the queues. -/
theorem clears_of_goes (shared : Shared σ ν) {cycle : Cycle} {left : Nat}
    {stack : List (Frame κ)} {control : Control}
    (found : cycle.productive = true ∨ cycle.after ≠ .drain)
    (goes : cycle.Goes left stack control) (fits : control.Fits stack) :
    shared.Clears stack control := by
  cases goes with
  | serves enough =>
      rcases cycle with ⟨remaining, productive, after⟩
      cases productive <;> cases after <;> try trivial
      rcases found with found | loops
      · cases found
      · exact absurd rfl loops
  | routes entry found enough => trivial
  | calls frame waits found enough stands =>
      have filled : stack ≠ [] := by
        rintro rfl
        exact List.cons_ne_nil _ _ (List.suffix_nil.mp stands)
      simp only [Clears]
      split
      · exact absurd fits filled
      · exact absurd fits filled
      · trivial
      · exact fun empty => absurd empty filled

/-- Of a task in its loop nothing is said. -/
theorem clears_of_inLoop (shared : Shared σ ν) {stack : List (Frame κ)}
    {control : Control} (inLoop : InLoop stack control)
    (fits : control.Fits stack) :
    shared.Clears stack control := by
  cases inLoop with
  | between between =>
      rcases Control.runs_of_isBetweenCycles between with ⟨instruction, rfl, _⟩
      cases instruction with
      | begin | check | await | parked | recheck => trivial
      | _ => cases between
  | inCycle watch left inCycle =>
      rcases inCycle.goes fits with ⟨cycle, loops, goes⟩
      refine shared.clears_of_goes (.inr fun drains => ?_) goes fits
      cases loops.symm.trans drains

/-- A task that drains the queues leaves nothing behind, unless a panic leaves
the cycle. -/
theorem move_clears (client : Client σ κ ν) (shared : Shared σ ν)
    (around : Surroundings) {stack : List (Frame κ)} {control : Control}
    (fits : control.Fits stack) (tells : shared.Tells stack control)
    (inTask : InTask stack control)
    (drains : shared.settings.drainOnStop = true)
    (clears : shared.Clears stack control) :
    let turn := shared.move client around stack control
    turn.shared.Clears turn.stack turn.control ∨
      Escapes [] stack control turn := by
  cases busy : control.hasEntry stack with
  | false =>
      rcases Control.hasEntry_eq_false_iff.mp busy with ⟨rfl, free⟩
      left
      rcases shared.move_free client around inTask free with roams | draws
      · exact roams.clears drains clears
      · rcases draws with ⟨serves, own, next, popped, turns⟩
        rw [turns]
        trivial
  | true =>
      rcases inTask.inCycle busy with ⟨after, left, _, inCycle⟩
      rcases inCycle.goes fits with ⟨cycle, _, goes⟩
      have more :
          cycle.Goes (left + (control.serves [] stack).toNat) stack
            control := by
        cases goes with
        | serves enough => exact .serves (Nat.le_add_right_of_le enough)
        | routes entry found enough =>
            exact .routes entry found (Nat.le_add_right_of_le enough)
        | calls frame waits found enough stands =>
            exact .calls frame waits found
              (Nat.le_add_right_of_le enough) stands
      have fits' := shared.move_fits client around fits
      rcases shared.move_moves client around fits tells more with
        moves | escapes
      · left
        generalize shared.move client around stack control = turn at moves fits'
        cases moves with
        | ends | skips | takes => cases busy
        | goes _ found goes =>
            exact turn.shared.clears_of_goes (.inl found) goes fits'
      · exact .inr escapes

/-- A task starts and stops nothing. -/
theorem move_task_proceeds (client : Client σ κ ν) (shared : Shared σ ν)
    (around : Surroundings) {stack : List (Frame κ)} {control : Control}
    (fits : control.Fits stack) (inTask : InTask stack control)
    (holds : control.hasEntry stack = true →
      Engaged stack stack control control) :
    (shared.move client around stack control).Proceeds shared := by
  cases busy : control.hasEntry stack with
  | true =>
      have engaged := holds busy
      exact shared.move_engaged_proceeds client around stack engaged.control
        (engaged.isRoundabout_eq_false fits busy)
  | false =>
      rcases Control.hasEntry_eq_false_iff.mp busy with ⟨rfl, free⟩
      rcases shared.move_free client around inTask free with roams | draws
      · exact roams.continues.proceeds
      · exact draws.continues.proceeds

/-- What a task does with an entry in hand it would do in the same way once
more. -/
theorem move_holds {client : Client σ κ ν} {shared : Shared σ ν}
    (around : Surroundings) {stack : List (Frame κ)} {control : Control}
    (only : client.AsksOnly Request.isMild) (hosted : shared.IsHosted)
    (fits : control.Fits stack) (inTask : InTask stack control)
    (holds : control.hasEntry stack = true →
      Engaged stack stack control control) :
    let turn := shared.move client around stack control
    turn.control.hasEntry turn.stack = true →
      Engaged turn.stack turn.stack turn.control turn.control := by
  intro turn busy'
  cases busy : control.hasEntry stack with
  | true =>
      have engaged := holds busy
      exact (Shared.move_engaged only (.refl shared) hosted hosted rfl
        (fun _ => rfl) engaged (engaged.isRoundabout_eq_false fits busy)).2.2
  | false =>
      rcases Control.hasEntry_eq_false_iff.mp busy with ⟨rfl, free⟩
      rcases shared.move_free client around inTask free with roams | draws
      · cases roams.free.symm.trans busy'
      · rcases draws with ⟨serves, own, next, popped, turns⟩
        rename_i cycle _ _ _ _
        change turn = _ at turns
        rw [turns]
        refine ⟨.nil, .run (.route _ ?_)⟩
        rcases cycle with ⟨remaining, productive, after⟩
        cases after with
        | answer => exact absurd rfl own
        | loop | drain => exact .loop _ _ _ _

end Shared

/-! ## Tasks of an application -/

/-- An application was there all the time. -/
theorem World.Throws.shows_before {world next : World σ κ ν}
    {occurrence : Occurrence κ} (throws : world.Throws next occurrence)
    {switch : Switch} (shows : next.shared.switch? = some switch) :
    ∃ before, world.shared.switch? = some before := by
  cases throws with
  | aside same => exact ⟨switch, same ▸ shows⟩
  | launches _ _ before => exact ⟨_, before⟩
  | takes before => exact ⟨_, before⟩
  | concludes _ _ _ after | givesUp _ _ after =>
      rcases Option.map_eq_some_iff.mp (after.symm.trans shows) with
        ⟨before, was, _⟩
      exact ⟨before, was⟩
  | closes closed => cases (Shared.switch?_of_closed closed).symm.trans shows

/-- With client code that asks for nothing but deliveries and looks, a task with
an entry in hand does what it would do for the entry in any other cycle. -/
theorem Reachable.engaged {client : Client σ κ ν} {world : World σ κ ν}
    (reachable : Reachable client world) (only : client.AsksOnly Request.isMild)
    {switch : Switch} (shows : world.shared.switch? = some switch)
    {self : ThreadId} {thread : Thread κ}
    (found : world.threads[self]? = some thread) (task : thread.role = .task)
    (busy : thread.control.hasEntry thread.stack = true) :
    Engaged thread.stack thread.stack thread.control thread.control := by
  induction reachable generalizing switch thread with
  | opening opening =>
      cases opening with
      | application | alone =>
          rw [List.eq_of_mem_replicate (List.mem_of_getElem? found)] at task
          cases task
  | @occur world occurrence reached allowed inductionHypothesis =>
      have becomes := World.after_becomes client allowed
      rcases Shared.exists_application shows with ⟨application, host, _⟩
      have throws := becomes.throws reached.fits (by rw [host]; rfl)
      rcases throws.shows_before shows with ⟨before, shows⟩
      rcases becomes.origin found with ⟨thread, stood, changes⟩ | ⟨_, rfl⟩
      swap
      · cases busy
      have member := List.mem_of_getElem? stood
      have role := changes.role.symm.trans task
      have holds := inductionHypothesis shows stood role
      rcases Shared.exists_application shows with ⟨application', host', _⟩
      have inTask := reached.inTask stood role
      have free (free : thread.isFree = true) : False := by
        simp only [Thread.isFree, role] at free
        cases free
      cases changes with
      | stays => exact holds busy
      | moves turns =>
          subst turns
          exact Shared.move_holds _ only ⟨application', host'⟩
            (reached.fits _ member) inTask
            holds busy
      | asked request asks => exact (free asks).elim
      | handed code asks => exact (free asks).elim
      | cancelled => cases busy
      | @abandoned instruction runs waits =>
          rw [Control.hasEntry, Bool.or_eq_true] at busy
          have filled := busy.resolve_right Bool.false_ne_true
          have engaged :=
            (holds (by rw [Control.hasEntry, filled]; rfl)).control
          rw [runs] at engaged
          cases instruction with
          | start | stop | awaitTask | join =>
              cases engaged with
              | run same => cases same
          | _ => cases waits

end Switchboard
