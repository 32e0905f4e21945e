import Switchboard.Proofs.Registrations

/-!
# Calls on a run

A call of `create` or `delete` begins at a moment of a run and ends at the first
later moment at which the thread is back on the stack where the call began.  In
between it passes through phases: each is an instruction, or a frame that waits
for client code, and what the call has done so far is at earlier moments of the
run.  The outcome of a call therefore tells which steps it has taken.
-/

namespace Switchboard

variable {σ κ ν : Type}

namespace World

/-- A thread with the given stack and control moves at a moment of a run. -/
def TakesAt (client : Client σ κ ν) (world : World σ κ ν)
    (run : List (Occurrence κ)) (self : ThreadId) (moment : Nat)
    (stack : List (Frame κ)) (control : Control) : Prop :=
  run[moment]? = some (.step self) ∧
    ∃ role, (world.upTo client run moment).threads[self]? =
      some ⟨role, stack, control⟩

/-- A thread has come back to a stack with the outcome of a call. -/
def IsBackAt (world : World σ κ ν) (self : ThreadId) (stack : List (Frame κ))
    (outcome : Control) : Prop :=
  (∀ instruction, outcome ≠ .run instruction) ∧
    ∃ role, world.threads[self]? = some ⟨role, stack, outcome⟩

/-- Whether something holds of every thread that moves in a run, with the
moment. -/
def everyStep (client : Client σ κ ν) (world : World σ κ ν)
    (run : List (Occurrence κ)) (holds : Nat → Thread κ → Bool) : Bool :=
  (List.range run.length).all fun moment =>
    match run[moment]? with
    | some (.step self) =>
        ((world.upTo client run moment).threads[self]?).all (holds moment)
    | _ => true

variable {client : Client σ κ ν} {world : World σ κ ν}
  {run : List (Occurrence κ)}

theorem TakesAt.of_everyStep {self : ThreadId} {moment : Nat}
    {stack : List (Frame κ)} {control : Control}
    (takes : world.TakesAt client run self moment stack control)
    (holds : Nat → Thread κ → Bool)
    (every : world.everyStep client run holds = true) :
    ∃ role, holds moment ⟨role, stack, control⟩ = true := by
  rcases takes with ⟨steps, role, found⟩
  have inside := (List.getElem?_eq_some_iff.mp steps).1
  have here := List.all_eq_true.mp every moment (List.mem_range.mpr inside)
  simp only [steps, found, Option.all_some] at here
  exact ⟨role, here⟩

/-- Who is back on an empty stack has ended. -/
theorem IsBackAt.ended {self : ThreadId} {outcome : Control}
    (back : world.IsBackAt self [] outcome) : world.ending? self ≠ none := by
  rcases back with ⟨arrives, role, found⟩
  have ended :
      (Thread.mk role ([] : List (Frame κ)) outcome).ending?.isSome = true :=
    Thread.isSome_ending?_iff.mpr ⟨rfl, arrives⟩
  rw [ending?, found, Option.bind_some]
  intro none
  rw [none] at ended
  cases ended

end World

/-- A call that a thread makes in a run: the stack above which it works, the
descriptor that it was given, and the moments at which it begins and ends. -/
structure Call (κ : Type) where
  self : ThreadId
  below : List (Frame κ)
  descriptor : Descriptor
  began : Nat
  ended : Nat

namespace Call

/-- A call begins with an instruction, and it ends with the outcome when the
thread is back for the first time. -/
structure Runs (call : Call κ) (client : Client σ κ ν) (world : World σ κ ν)
    (run : List (Occurrence κ)) (instruction : Instruction)
    (outcome : Control) : Prop where
  begins : world.TakesAt client run call.self call.began call.below
    (.run instruction)
  later : call.began < call.ended
  inside : call.ended ≤ run.length
  works : ∀ moment other, call.began < moment → moment < call.ended →
    ¬ (world.upTo client run moment).IsBackAt call.self call.below other
  returns :
    (world.upTo client run call.ended).IsBackAt call.self call.below outcome

section

variable (client : Client σ κ ν) (world : World σ κ ν)
  (run : List (Occurrence κ))

/-- A creation tries to register its stream at a moment. -/
def Inserts (call : Call κ) (moment : Nat) (stream : Stream) : Prop :=
  call.began < moment ∧ moment < call.ended ∧
    world.TakesAt client run call.self moment call.below
      (.run (.insert call.descriptor stream))

/-- The phases of a creation: client code builds a stream, the stream is
inserted, and if the id was taken by then, the stream is stopped. -/
inductive Creates (call : Call κ) (moment : Nat) : List (Frame κ) →
    Control → Prop
  | builds {stack : List (Frame κ)} {control : Control}
      (stands : .creating call.descriptor :: call.below <:+ stack) :
      Creates call moment stack control
  | inserts (stream : Stream) :
      Creates call moment call.below (.run (.insert call.descriptor stream))
  | loses {stack : List (Frame κ)} {control : Control} {earlier : Nat}
      {stream current : Stream} (begun : call.began < earlier)
      (before : earlier < moment)
      (tried : world.TakesAt client run call.self earlier call.below
        (.run (.insert call.descriptor stream)))
      (taken : (world.upTo client run earlier).shared.registry.find?
        call.descriptor.id = some current)
      (stands : .losing call.descriptor (.duplicate call.descriptor.id) ::
        call.below <:+ stack) :
      Creates call moment stack control

/-- How a creation ends with an outcome, by the step that leads to the
moment. -/
inductive CreationEnds (call : Call κ) : Nat → Control → Prop
  | finds {current : Stream}
      (taken : (world.upTo client run call.began).shared.registry.find?
        call.descriptor.id = some current) :
      CreationEnds call (call.began + 1)
        (.answer (.created
          (.error (.registry (.duplicate call.descriptor.id)))))
  | fails {last : Nat} {reply : Reply}
      (replied : world.TakesAt client run call.self last
        (.creating call.descriptor :: call.below) (.reply reply))
      (nothing : reply.stream = none) :
      CreationEnds call (last + 1)
        (.answer (.created (.error
          (.creationFailed call.descriptor.id call.descriptor.name))))
  | panics {last : Nat} {payload : Payload}
      (panicked : world.TakesAt client run call.self last
        (.creating call.descriptor :: call.below) (.raise payload)) :
      CreationEnds call (last + 1) (.raise payload)
  | creates {last : Nat} {stream : Stream} (begun : call.began < last)
      (inserted : world.TakesAt client run call.self last call.below
        (.run (.insert call.descriptor stream)))
      (enters : (world.upTo client run last).shared.Alters call.descriptor.id
        (world.upTo client run (last + 1)).shared (some (.entered stream))) :
      CreationEnds call (last + 1) (.answer (.created (.ok stream)))
  | loses {last earlier : Nat} {stream current : Stream}
      (begun : call.began < earlier) (before : earlier < last)
      (tried : world.TakesAt client run call.self earlier call.below
        (.run (.insert call.descriptor stream)))
      (taken : (world.upTo client run earlier).shared.registry.find?
        call.descriptor.id = some current) :
      CreationEnds call (last + 1)
        (.answer (.created
          (.error (.registry (.duplicate call.descriptor.id)))))
  | stopPanics {last earlier : Nat} {stream current : Stream}
      {payload : Payload} (begun : call.began < earlier)
      (before : earlier < last)
      (tried : world.TakesAt client run call.self earlier call.below
        (.run (.insert call.descriptor stream)))
      (taken : (world.upTo client run earlier).shared.registry.find?
        call.descriptor.id = some current)
      (panicked : world.TakesAt client run call.self last
        (.losing call.descriptor (.duplicate call.descriptor.id) :: call.below)
        (.raise payload)) :
      CreationEnds call (last + 1) (.raise payload)

/-- A deletion has removed the stream: it looked one up, its own callback agreed
to release this one, and then the same object stood under the id still. -/
structure Removes (call : Call κ) (looked current : Stream)
    (agreed removed : Nat) : Prop where
  found : (world.upTo client run call.began).shared.registry.find?
    call.descriptor.id =
    some looked
  order : call.began < agreed ∧ agreed < removed
  accepted : ∃ reply : Reply, reply.accepted = true ∧
    world.TakesAt client run call.self agreed
      (.releasing call.descriptor looked :: call.below) (.reply reply)
  takes : world.TakesAt client run call.self removed call.below
    (.run (.remove call.descriptor looked))
  same : current.handle = looked.handle
  leaves : (world.upTo client run removed).shared.Alters call.descriptor.id
    (world.upTo client run (removed + 1)).shared (some (.left current))

/-- The phases of a deletion: client code is asked whether the stream may go,
the stream is removed, and then it is stopped. -/
inductive Deletes (call : Call κ) (moment : Nat) : List (Frame κ) →
    Control → Prop
  | asks {stack : List (Frame κ)} {control : Control} {looked : Stream}
      (found : (world.upTo client run call.began).shared.registry.find?
        call.descriptor.id = some looked)
      (stands : .releasing call.descriptor looked :: call.below <:+ stack) :
      Deletes call moment stack control
  | removes {looked : Stream} {agreed : Nat} {reply : Reply}
      (found : (world.upTo client run call.began).shared.registry.find?
        call.descriptor.id = some looked)
      (order : call.began < agreed ∧ agreed < moment)
      (accepted : reply.accepted = true)
      (replied : world.TakesAt client run call.self agreed
        (.releasing call.descriptor looked :: call.below) (.reply reply)) :
      Deletes call moment call.below (.run (.remove call.descriptor looked))
  | stops {stack : List (Frame κ)} {control : Control} {looked current : Stream}
      {agreed removed : Nat}
      (removes : call.Removes client world run looked current agreed removed)
      (before : removed < moment)
      (stands : .stopping call.descriptor :: call.below <:+ stack) :
      Deletes call moment stack control

/-- A deletion that answers that the stream is gone has removed it. -/
def DeletionEnds (call : Call κ) (moment : Nat) (outcome : Control) : Prop :=
  outcome = .answer (.concluded (.ok ())) →
    ∃ looked current agreed removed, removed < moment ∧
      call.Removes client world run looked current agreed removed

end

variable {client : Client σ κ ν} {world : World σ κ ν}
  {run : List (Occurrence κ)} {call : Call κ}

/-- A call on an empty stack lasts as long as its thread has not ended. -/
theorem Runs.of_busy {instruction : Instruction} {outcome : Control}
    (bottom : call.below = [])
    (begins : world.TakesAt client run call.self call.began call.below
      (.run instruction))
    (later : call.began < call.ended) (inside : call.ended ≤ run.length)
    (busy : ∀ moment < call.ended, call.began < moment →
      (world.upTo client run moment).ending? call.self = none)
    (returns : (world.upTo client run call.ended).IsBackAt call.self
      call.below outcome) :
    call.Runs client world run instruction outcome := by
  constructor
  case begins => exact begins
  case later => exact later
  case inside => exact inside
  case works =>
    intro moment other after before back
    rw [bottom] at back
    exact back.ended (busy moment before after)
  case returns => exact returns

/-- A call has one outcome. -/
theorem Runs.outcome_eq {instruction instruction' : Instruction}
    {outcome outcome' : Control}
    (runs : call.Runs client world run instruction outcome)
    (runs' : call.Runs client world run instruction' outcome') :
    outcome = outcome' := by
  rcases runs.returns with ⟨_, role, found⟩
  rcases runs'.returns with ⟨_, role', found'⟩
  cases Option.some.inj (found.symm.trans found')
  rfl

/-- A frame above a stack is not on it. -/
theorem not_suffix_self {frame : Frame κ} {stack : List (Frame κ)} :
    ¬ frame :: stack <:+ stack := fun stands => by
  have shorter := stands.length_le
  rw [List.length_cons] at shorter
  omega

/-- A thread in a phase of a creation is not back. -/
theorem Creates.not_isBack {moment : Nat} {stack : List (Frame κ)}
    {control : Control}
    (creates : call.Creates client world run moment stack control)
    (back : stack = call.below) :
      ∃ instruction, control = .run instruction := by
  cases creates with
  | builds stands => exact absurd (back ▸ stands) not_suffix_self
  | inserts stream => exact ⟨_, rfl⟩
  | loses _ _ _ _ stands => exact absurd (back ▸ stands) not_suffix_self

/-- A thread in a phase of a deletion is not back. -/
theorem Deletes.not_isBack {moment : Nat} {stack : List (Frame κ)}
    {control : Control}
    (deletes : call.Deletes client world run moment stack control)
    (back : stack = call.below) :
      ∃ instruction, control = .run instruction := by
  cases deletes with
  | asks _ stands => exact absurd (back ▸ stands) not_suffix_self
  | removes => exact ⟨_, rfl⟩
  | stops _ _ stands => exact absurd (back ▸ stands) not_suffix_self

/-- A thread is in a phase of its call, or it is back with an outcome for which
the call accounts. -/
def IsIn (call : Call κ) (phase : Nat → List (Frame κ) → Control → Prop)
    (ends : Nat → Control → Prop) (moment : Nat) (world : World σ κ ν) : Prop :=
  ∃ role stack control,
    world.threads[call.self]? = some ⟨role, stack, control⟩ ∧
    (phase moment stack control ∨
      stack = call.below ∧ (∀ instruction, control ≠ .run instruction) ∧
        ends moment control)

section

variable {phase : Nat → List (Frame κ) → Control → Prop}
  {ends : Nat → Control → Prop} {moment : Nat} {role : Role}
  {stack : List (Frame κ)} {control : Control}

theorem IsIn.goesOn
    (found : world.threads[call.self]? = some ⟨role, stack, control⟩)
    (working : phase moment stack control) :
    call.IsIn phase ends moment world :=
  ⟨role, stack, control, found, .inl working⟩

theorem IsIn.back
    (found : world.threads[call.self]? = some ⟨role, call.below, control⟩)
    (arrives : ∀ instruction, control ≠ .run instruction)
    (accounts : ends moment control) :
    call.IsIn phase ends moment world :=
  ⟨role, call.below, control, found, .inr ⟨rfl, arrives, accounts⟩⟩

/-- What holds of the first moment of a call, and is kept from moment to moment
until the thread is back, holds while the call works, and accounts for its
outcome. -/
theorem Runs.phases {instruction : Instruction} {outcome : Control}
    (runs : call.Runs client world run instruction outcome)
    (working : ∀ moment stack control, phase moment stack control →
      stack = call.below → ∃ instruction, control = .run instruction)
    (first : call.IsIn phase ends (call.began + 1)
      (world.upTo client run (call.began + 1)))
    (next : ∀ moment role stack control, call.began < moment →
      moment < run.length →
      (world.upTo client run moment).threads[call.self]? =
        some ⟨role, stack, control⟩ →
      phase moment stack control →
      call.IsIn phase ends (moment + 1) (world.upTo client run (moment + 1))) :
    ends call.ended outcome ∧
      ∀ moment, call.began < moment → moment < call.ended →
        ∃ role stack control,
          (world.upTo client run moment).threads[call.self]? =
            some ⟨role, stack, control⟩ ∧
            phase moment stack control := by
  have isIn (moment : Nat) (begun : call.began < moment)
      (inside : moment ≤ call.ended) :
      call.IsIn phase ends moment (world.upTo client run moment) := by
    obtain ⟨steps, rfl⟩ := Nat.exists_eq_add_of_lt begun
    induction steps with
    | zero => exact first
    | succ steps inductionHypothesis =>
        have earlier : call.began < call.began + steps + 1 := by omega
        rcases inductionHypothesis earlier (Nat.le_of_succ_le inside) with
          ⟨role, stack, control, found, goesOn | ⟨rfl, arrives, _⟩⟩
        · exact next _ role stack control earlier
            (Nat.lt_of_lt_of_le inside runs.inside)
            found goesOn
        · exact absurd ⟨arrives, role, found⟩
            (runs.works _ control earlier inside)
  constructor
  · rcases isIn call.ended runs.later (Nat.le_refl _) with
      ⟨role, stack, control, found, goesOn | ⟨_, _, accounts⟩⟩
    · rcases runs.returns with ⟨arrives, role', found'⟩
      cases Option.some.inj (found.symm.trans found')
      rcases working _ _ _ goesOn rfl with ⟨instruction, runs⟩
      exact absurd runs (arrives instruction)
    · rcases runs.returns with ⟨_, role', found'⟩
      cases Option.some.inj (found.symm.trans found')
      exact accounts
  · intro moment begun before
    rcases isIn moment begun (Nat.le_of_lt before) with
      ⟨role, stack, control, found, goesOn | ⟨rfl, arrives, _⟩⟩
    · exact ⟨role, stack, control, found, goesOn⟩
    · exact absurd ⟨arrives, role, found⟩
        (runs.works moment control begun before)

end

section

variable {moment : Nat} {role : Role} {stack : List (Frame κ)}
  {control : Control}

/-- A thread that steps at a moment of a run. -/
theorem takesAt (inside : moment < run.length)
    (found : (world.upTo client run moment).threads[call.self]? =
      some ⟨role, stack, control⟩)
    (steps : run[moment] = .step call.self) :
    world.TakesAt client run call.self moment stack control :=
  ⟨steps ▸ List.getElem?_eq_getElem inside, role, found⟩

/-- A creation goes on from each of its phases. -/
theorem Creates.next (reachable : Reachable client world)
    (allowed : world.allowsAll client run = true) (begun : call.began < moment)
    (inside : moment < run.length)
    (found : (world.upTo client run moment).threads[call.self]? =
      some ⟨role, stack, control⟩)
    (creates : call.Creates client world run moment stack control) :
    call.IsIn (call.Creates client world run)
      (call.CreationEnds client world run) (moment + 1)
      (world.upTo client run (moment + 1)) := by
  rcases World.changes_at allowed inside found with ⟨later, found', changes⟩
  have fits :=
    (reachable.upTo allowed moment).fits _ (List.mem_of_getElem? found)
  cases creates with
  | builds stands =>
      rcases changes.of_frame fits stands with
        stays | ⟨steps, rfl, arrives, turned⟩
      · exact .goesOn found' (.builds stays)
      · have replied := takesAt inside found steps
        rcases fits.arrives arrives (fun _ _ same => by cases same) with
          ⟨reply, rfl⟩ | ⟨payload, rfl⟩
        · cases built : reply.stream with
          | none =>
              simp only [turned, Shared.deliver, built] at found'
              exact .back found' (fun _ => Control.noConfusion)
                (.fails replied built)
          | some stream =>
              simp only [turned, Shared.deliver, built] at found'
              exact .goesOn found' (.inserts stream)
        · rw [turned] at found'
          exact .back found' (fun _ => Control.noConfusion) (.panics replied)
  | inserts stream =>
      rcases changes.of_run rfl ⟨rfl, rfl⟩ with rfl | ⟨steps, turned⟩
      · exact .goesOn found' (.inserts stream)
      · have tried := takesAt inside found steps
        have stepped := (World.steps_at tried.1 found).1
        rcases (world.upTo client run moment).shared.insert_cases call.below
          call.descriptor
          stream with ⟨current, present, lost⟩ | ⟨after, entered, alters⟩
        · simp only [turned, Shared.execute, lost] at found'
          exact .goesOn found'
            (.loses begun (Nat.lt_succ_self _) tried present List.suffix_rfl)
        · have alters := alters call.descriptor.id
          rw [if_pos rfl] at alters
          simp only [Shared.move, Shared.execute, entered] at stepped
          simp only [turned, Shared.execute, entered] at found'
          exact .back found' (fun _ => Control.noConfusion)
            (.creates begun tried (stepped ▸ alters))
  | loses begun' before tried present stands =>
      rcases changes.of_frame fits stands with
        stays | ⟨steps, rfl, arrives, turned⟩
      · exact .goesOn found'
          (.loses begun' (Nat.lt_succ_of_lt before) tried present stays)
      · rw [turned] at found'
        rcases fits.arrives arrives (fun _ _ same => by cases same) with
          ⟨reply, rfl⟩ | ⟨payload, rfl⟩
        · exact .back found' (fun _ => Control.noConfusion)
            (.loses begun' before tried present)
        · exact .back found' (fun _ => Control.noConfusion)
            (.stopPanics begun' before tried present
              (takesAt inside found steps))

/-- A creation goes through its phases, and its outcome tells how it has
ended. -/
theorem Runs.creation (reachable : Reachable client world)
    (allowed : world.allowsAll client run = true) {outcome : Control}
    (runs : call.Runs client world run (.create call.descriptor) outcome) :
    call.CreationEnds client world run call.ended outcome ∧
      ∀ moment, call.began < moment → moment < call.ended →
        ∃ role stack control,
          (world.upTo client run moment).threads[call.self]? =
            some ⟨role, stack, control⟩ ∧
            call.Creates client world run moment stack control := by
  have first :
      call.IsIn (call.Creates client world run)
        (call.CreationEnds client world run)
      (call.began + 1) (world.upTo client run (call.began + 1)) := by
    rcases runs.begins with ⟨steps, role, found⟩
    have stepped := (World.steps_at steps found).2
    rcases (world.upTo client run call.began).shared.create_cases call.below
      call.descriptor
      with ⟨current, after, taken, fails⟩ | calls
    · simp only [Shared.move, Shared.execute, fails] at stepped
      exact .back stepped (fun _ => Control.noConfusion) (.finds taken)
    · simp only [Shared.move, Shared.execute, calls] at stepped
      exact .goesOn stepped (.builds List.suffix_rfl)
  exact runs.phases (fun moment stack control => Creates.not_isBack) first
    fun moment role stack control begun inside found =>
      Creates.next reachable allowed begun inside found

/-- A deletion goes on from each of its phases. -/
theorem Deletes.next (reachable : Reachable client world)
    (allowed : world.allowsAll client run = true) (begun : call.began < moment)
    (inside : moment < run.length)
    (found : (world.upTo client run moment).threads[call.self]? =
      some ⟨role, stack, control⟩)
    (deletes : call.Deletes client world run moment stack control) :
    call.IsIn (call.Deletes client world run)
      (call.DeletionEnds client world run) (moment + 1)
      (world.upTo client run (moment + 1)) := by
  rcases World.changes_at allowed inside found with ⟨later, found', changes⟩
  have fits :=
    (reachable.upTo allowed moment).fits _ (List.mem_of_getElem? found)
  cases deletes with
  | asks present stands =>
      rcases changes.of_frame fits stands with
        stays | ⟨steps, rfl, arrives, turned⟩
      · exact .goesOn found' (.asks present stays)
      · have replied := takesAt inside found steps
        rcases fits.arrives arrives (fun _ _ same => by cases same) with
          ⟨reply, rfl⟩ | ⟨payload, rfl⟩
        · cases accepted : reply.accepted with
          | true =>
              simp only [turned, Shared.deliver, accepted] at found'
              exact .goesOn found'
                (.removes present ⟨begun, Nat.lt_succ_self _⟩ accepted replied)
          | false =>
              simp only [turned, Shared.deliver, accepted] at found'
              exact .back found' (fun _ => Control.noConfusion)
                (fun same => by cases same)
        · rw [turned] at found'
          exact .back found' (fun _ => Control.noConfusion)
            (fun same => by cases same)
  | @removes looked agreed reply present order accepted replied =>
      rcases changes.of_run rfl ⟨rfl, rfl⟩ with rfl | ⟨steps, turned⟩
      · exact .goesOn found'
          (.removes present ⟨order.1, Nat.lt_succ_of_lt order.2⟩
            accepted replied)
      · have tried := takesAt inside found steps
        have stepped := (World.steps_at tried.1 found).1
        rcases (world.upTo client run moment).shared.remove_cases call.below
          call.descriptor
          looked with
            ⟨error, kept⟩ | ⟨current, after, stood, same, left, alters⟩
        · simp only [turned, Shared.execute, kept] at found'
          exact .back found' (fun _ => Control.noConfusion)
            (fun same => by cases same)
        · have alters := alters call.descriptor.id
          rw [if_pos rfl] at alters
          simp only [Shared.move, Shared.execute, left] at stepped
          simp only [turned, Shared.execute, left] at found'
          have removes :
              call.Removes client world run looked current agreed moment :=
            ⟨present, order, ⟨reply, accepted, replied⟩, tried, same,
              stepped ▸ alters⟩
          exact .goesOn found'
            (.stops removes (Nat.lt_succ_self _) List.suffix_rfl)
  | stops removes before stands =>
      rcases changes.of_frame fits stands with
        stays | ⟨steps, rfl, arrives, turned⟩
      · exact .goesOn found' (.stops removes (Nat.lt_succ_of_lt before) stays)
      · rw [turned] at found'
        rcases fits.arrives arrives (fun _ _ same => by cases same) with
          ⟨reply, rfl⟩ | ⟨payload, rfl⟩
        · exact .back found' (fun _ => Control.noConfusion)
            (fun _ => ⟨_, _, _, _, Nat.lt_succ_of_lt before, removes⟩)
        · exact .back found' (fun _ => Control.noConfusion)
            (fun same => by cases same)

/-- A deletion that answers that the stream is gone has removed it. -/
theorem Runs.deletion (reachable : Reachable client world)
    (allowed : world.allowsAll client run = true) {outcome : Control}
    (runs : call.Runs client world run (.delete call.descriptor) outcome) :
    call.DeletionEnds client world run call.ended outcome := by
  have first :
      call.IsIn (call.Deletes client world run)
        (call.DeletionEnds client world run)
      (call.began + 1) (world.upTo client run (call.began + 1)) := by
    rcases runs.begins with ⟨steps, role, found⟩
    have stepped := (World.steps_at steps found).2
    rcases (world.upTo client run call.began).shared.delete_cases call.below
      call.descriptor
      with ⟨after, missing⟩ | ⟨looked, present, calls⟩
    · simp only [Shared.move, Shared.execute, missing] at stepped
      exact .back stepped (fun _ => Control.noConfusion)
        (fun same => by cases same)
    · simp only [Shared.move, Shared.execute, calls] at stepped
      exact .goesOn stepped (.asks present List.suffix_rfl)
  have phases :=
    runs.phases (fun moment stack control => Deletes.not_isBack) first
    fun moment role stack control begun inside found =>
      Deletes.next reachable allowed begun inside found
  exact phases.1

end

/-- What a thread registers at the moment of an insertion is the stream of the
insertion. -/
theorem Inserts.stream_eq {moment : Nat} {stream stream' : Stream}
    (inserts : call.Inserts client world run moment stream) {self : ThreadId}
    {stack : List (Frame κ)} {control : Control} {id : UInt32}
    (takes : world.TakesAt client run self moment stack control)
    (entering : control.entering? = some (id, stream')) : stream' = stream := by
  rcases inserts with ⟨_, _, steps, role, found⟩
  rcases takes with ⟨steps', role', found'⟩
  rw [← Occurrence.step.inj
    (Option.some.inj (steps.symm.trans steps'))] at found'
  cases Option.some.inj (found.symm.trans found')
  exact (congrArg Prod.snd (Option.some.inj entering)).symm

end Call

end Switchboard
