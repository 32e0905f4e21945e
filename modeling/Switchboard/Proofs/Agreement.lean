import Switchboard.Proofs.Calls
import Switchboard.Proofs.Ownership

/-!
# Creations and deletions agree on one order

Under every id registrations and removals take turns in one order, and the
outcome of every creation and every deletion agrees with it: a creation succeeds
if and only if its own insertion took effect, and a deletion that succeeds has
removed the object that it had looked up.  If creations contend for a free id
that nobody deletes, one of them wins and each of the others finds the id taken,
or is left by the panic of the stream that it stops.
-/

namespace Switchboard

variable {σ κ ν : Type} {client : Client σ κ ν} {world : World σ κ ν}
  {run : List (Occurrence κ)}

/-! ## What changes under an id in the course of a run -/

namespace Reachable

/-- What changes under an id from one moment to the next, and by which step of a
thread. -/
theorem alters_at (reachable : Reachable client world)
    (allowed : world.allowsAll client run = true) {moment : Nat}
    (inside : moment < run.length) (id : UInt32) :
    ∃ change, (world.upTo client run moment).shared.Alters id
        (world.upTo client run (moment + 1)).shared change ∧
      (change ≠ none → ∃ self stack control,
        world.TakesAt client run self moment stack control ∧
          control.Makes id change) := by
  have next : run[moment]? = some run[moment] := List.getElem?_eq_getElem inside
  have becomes :=
    World.after_becomes client ((World.allowsAll_take allowed moment).2 _ next)
  rw [World.upTo_succ next]
  rcases becomes.alters (reachable.upTo allowed moment).fits id with
    ⟨change, alters, makes⟩
  refine ⟨change, alters, fun some => ?_⟩
  rcases makes some with ⟨self, ⟨role, stack, control⟩, steps, found, makes⟩
  exact ⟨self, stack, control,
    ⟨next.trans (congrArg Option.some steps), role, found⟩, makes⟩

/-- What stands under an id stands there as long as no thread removes anything
from it. -/
theorem stays_registered (reachable : Reachable client world)
    (allowed : world.allowsAll client run = true) {id : UInt32}
    (undisturbed : ∀ moment self stack control,
      world.TakesAt client run self moment stack control →
        control.leaving? ≠ some id)
    {stream : Stream} {earlier later : Nat} (order : earlier ≤ later)
    (inside : later ≤ run.length)
    (found : (world.upTo client run earlier).shared.registry.find? id =
      some stream) :
    (world.upTo client run later).shared.registry.find? id = some stream := by
  obtain ⟨steps, rfl⟩ := Nat.exists_eq_add_of_le order
  induction steps with
  | zero => exact found
  | succ steps inductionHypothesis =>
      have before :=
        inductionHypothesis (Nat.le_add_right _ _) (Nat.le_of_succ_le inside)
      rcases reachable.alters_at allowed inside id with ⟨change, alters, makes⟩
      cases alters with
      | keeps registry journal => exact registry.trans before
      | enters free => cases free.symm.trans before
      | leaves =>
          rcases makes (Option.some_ne_none _) with
            ⟨self, stack, control, takes, leaving⟩
          exact absurd leaving (undisturbed _ self stack control takes)

/-- What is registered under an id stands there from then on, as long as no
thread removes anything from it. -/
theorem stands_after (reachable : Reachable client world)
    (allowed : world.allowsAll client run = true) {id : UInt32}
    (undisturbed : ∀ moment self stack control,
      world.TakesAt client run self moment stack control →
        control.leaving? ≠ some id)
    {stream : Stream} {moment later : Nat}
    (enters : (world.upTo client run moment).shared.Alters id
      (world.upTo client run (moment + 1)).shared (some (.entered stream)))
    (order : moment < later) (inside : later ≤ run.length) :
    (world.upTo client run later).shared.registry.find? id = some stream := by
  cases enters with
  | enters free stands =>
      exact reachable.stays_registered allowed undisturbed
        (Nat.succ_le_of_lt order) inside stands

/-- Something is registered under an id once only, as long as no thread removes
anything from it. -/
theorem entered_once (reachable : Reachable client world)
    (allowed : world.allowsAll client run = true) {id : UInt32}
    (undisturbed : ∀ moment self stack control,
      world.TakesAt client run self moment stack control →
        control.leaving? ≠ some id)
    {stream stream' : Stream} {moment moment' : Nat}
    (enters : (world.upTo client run moment).shared.Alters id
      (world.upTo client run (moment + 1)).shared (some (.entered stream)))
    (enters' : (world.upTo client run moment').shared.Alters id
      (world.upTo client run (moment' + 1)).shared (some (.entered stream')))
    (inside : moment ≤ run.length) (inside' : moment' ≤ run.length) :
    moment = moment' := by
  have apart {first second : Nat} {stream stream' : Stream}
      (enters : (world.upTo client run first).shared.Alters id
        (world.upTo client run (first + 1)).shared (some (.entered stream)))
      (enters' : (world.upTo client run second).shared.Alters id
        (world.upTo client run (second + 1)).shared (some (.entered stream')))
      (inside : second ≤ run.length) : second ≤ first := by
    by_contra order
    have stands :=
      reachable.stands_after allowed undisturbed enters
        (Nat.not_le.mp order) inside
    cases enters' with
    | enters free => cases free.symm.trans stands
  exact Nat.le_antisymm (apart enters' enters inside)
    (apart enters enters' inside')

/-- What stands under an id that was free at first was registered at a moment of
the run. -/
theorem exists_entered (reachable : Reachable client world)
    (allowed : world.allowsAll client run = true) {id : UInt32}
    (free : world.shared.registry.find? id = none) {stream : Stream}
    {moment : Nat} (inside : moment ≤ run.length)
    (found : (world.upTo client run moment).shared.registry.find? id =
      some stream) :
    ∃ earlier < moment, ∃ entered,
      (world.upTo client run earlier).shared.Alters id
          (world.upTo client run (earlier + 1)).shared
          (some (.entered entered)) ∧
        ∃ self stack control,
          world.TakesAt client run self earlier stack control ∧
          control.entering? = some (id, entered) := by
  induction moment generalizing stream with
  | zero => cases free.symm.trans found
  | succ moment inductionHypothesis =>
      cases before :
        (world.upTo client run moment).shared.registry.find? id with
      | some current =>
          rcases inductionHypothesis (Nat.le_of_succ_le inside) before with
            ⟨earlier, order, entered⟩
          exact ⟨earlier, Nat.lt_succ_of_lt order, entered⟩
      | none =>
          rcases reachable.alters_at allowed inside id with
            ⟨change, alters, makes⟩
          cases alters with
          | keeps registry journal =>
              cases (registry.trans before).symm.trans found
          | @enters entered free stands journal =>
              exact ⟨moment, Nat.lt_succ_self _, entered,
                .enters free stands journal, makes (Option.some_ne_none _)⟩
          | leaves stands => cases before.symm.trans stands

end Reachable

/-! ## What a creation tells -/

namespace Call

variable {call other : Call κ} {outcome : Control} {stream : Stream}
  {moment : Nat}

/-- A creation whose insertion takes effect answers with the stream. -/
theorem Runs.answers
    (runs : call.Runs client world run (.create call.descriptor) outcome)
    (inserts : call.Inserts client world run moment stream)
    (enters : (world.upTo client run moment).shared.Alters call.descriptor.id
      (world.upTo client run (moment + 1)).shared (some (.entered stream))) :
    outcome = .answer (.created (.ok stream)) := by
  rcases inserts with ⟨begun, before, steps, role, found⟩
  have stepped := (World.steps_at steps found).2
  have free :
      (world.upTo client run moment).shared.registry.find? call.descriptor.id =
        none := by
    cases enters with
    | enters free => exact free
  rcases (world.upTo client run moment).shared.insert_cases call.below
    call.descriptor stream
    with ⟨current, taken, _⟩ | ⟨after, entered, _⟩
  · cases free.symm.trans taken
  · simp only [Shared.move, Shared.execute, entered] at stepped
    have back :
        (world.upTo client run (moment + 1)).IsBackAt call.self call.below
        (.answer (.created (.ok stream))) :=
        ⟨fun _ => Control.noConfusion, role, stepped⟩
    rcases Nat.lt_or_eq_of_le (Nat.succ_le_of_lt before) with working | ended
    · exact absurd back
        (runs.works (moment + 1) _ (Nat.lt_succ_of_lt begun) working)
    · rcases runs.returns with ⟨_, role', found'⟩
      rw [← ended] at found'
      cases Option.some.inj (stepped.symm.trans found')
      rfl

/-- A creation answers with a stream if and only if its own insertion of this
stream took effect. -/
theorem Runs.created_iff (reachable : Reachable client world)
    (allowed : world.allowsAll client run = true)
    (runs : call.Runs client world run (.create call.descriptor) outcome) :
    outcome = .answer (.created (.ok stream)) ↔
      ∃ moment, call.Inserts client world run moment stream ∧
        (world.upTo client run moment).shared.Alters call.descriptor.id
          (world.upTo client run (moment + 1)).shared
          (some (.entered stream)) := by
  constructor
  · intro answers
    have ends := (runs.creation reachable allowed).1
    rw [answers] at ends
    generalize last : call.ended = moment at ends
    cases ends with
    | creates begun inserted enters =>
        exact ⟨_, ⟨begun, last ▸ Nat.lt_succ_self _, inserted⟩, enters⟩
  · rintro ⟨moment, inserts, enters⟩
    exact runs.answers inserts enters

/-- A creation finds the id taken only where it was: at the check or at the
insertion. -/
theorem Runs.duplicate (reachable : Reachable client world)
    (allowed : world.allowsAll client run = true) {id : UInt32}
    (runs : call.Runs client world run (.create call.descriptor)
      (.answer (.created (.error (.registry (.duplicate id)))))) :
    id = call.descriptor.id ∧
      ((world.upTo client run call.began).shared.registry.contains id = true ∨
        ∃ moment stream, call.Inserts client world run moment stream ∧
          (world.upTo client run moment).shared.registry.contains id =
            true) := by
  have ends := (runs.creation reachable allowed).1
  generalize last : call.ended = moment at ends
  cases ends with
  | finds taken =>
      refine ⟨rfl, .inl ?_⟩
      rw [Table.contains, taken]
      rfl
  | loses begun before tried taken =>
      refine ⟨rfl, .inr ⟨_, _, ⟨begun, ?_, tried⟩, ?_⟩⟩
      · rw [last]
        exact Nat.lt_succ_of_lt before
      · rw [Table.contains, taken]
        rfl

/-- Whatever arrives where a creation waits for its stream is a reply with
one. -/
def Builds (call : Call κ) (client : Client σ κ ν) (world : World σ κ ν)
    (run : List (Occurrence κ)) : Prop :=
  ∀ moment control,
    world.TakesAt client run call.self moment
      (.creating call.descriptor :: call.below) control →
    (∀ instruction, control ≠ .run instruction) →
    ∃ reply stream, control = .reply reply ∧ reply.stream = some stream

/-- A creation whose callback builds a stream answers with it, finds the id
taken, or ends by the panic of the stop of its own stream; and the id was taken
in its course. -/
theorem Runs.outcomes (reachable : Reachable client world)
    (allowed : world.allowsAll client run = true)
    (runs : call.Runs client world run (.create call.descriptor) outcome)
    (builds : call.Builds client world run) :
    ((∃ moment stream, call.Inserts client world run moment stream ∧
        (world.upTo client run moment).shared.Alters call.descriptor.id
          (world.upTo client run (moment + 1)).shared
          (some (.entered stream))) ∨
      outcome =
        .answer (.created
          (.error (.registry (.duplicate call.descriptor.id)))) ∨
        ∃ payload, outcome = .raise payload ∧
          ∃ moment, world.TakesAt client run call.self moment
            (.losing call.descriptor
              (.duplicate call.descriptor.id) :: call.below)
            (.raise payload)) ∧
      ∃ moment ≤ call.ended, ∃ current,
        (world.upTo client run moment).shared.registry.find?
          call.descriptor.id =
          some current := by
  have ends := (runs.creation reachable allowed).1
  generalize last : call.ended = moment at ends ⊢
  cases ends with
  | finds taken => exact ⟨.inr (.inl rfl), _, Nat.le_succ _, _, taken⟩
  | fails replied nothing =>
      rcases builds _ _ replied (fun _ => Control.noConfusion) with
        ⟨reply, stream, same, built⟩
      cases same
      cases nothing.symm.trans built
  | panics panicked =>
      rcases builds _ _ panicked (fun _ => Control.noConfusion) with
        ⟨reply, stream, same, _⟩
      cases same
  | @creates final stream begun inserted enters =>
      refine ⟨.inl
        ⟨final, stream, ⟨begun, last ▸ Nat.lt_succ_self _, inserted⟩, enters⟩,
        final + 1, Nat.le_refl _, stream, ?_⟩
      cases enters with
      | enters free stands => exact stands
  | loses begun before tried taken =>
      exact ⟨.inr (.inl rfl), _, by omega, _, taken⟩
  | stopPanics begun before tried taken panicked =>
      exact ⟨.inr (.inr ⟨_, rfl, _, panicked⟩), _, by omega, _, taken⟩

/-- While a thread is in a creation it begins no other one above the same
stack. -/
theorem Runs.begins_outside (reachable : Reachable client world)
    (allowed : world.allowsAll client run = true) {outcome' : Control}
    (runs : call.Runs client world run (.create call.descriptor) outcome)
    (runs' : other.Runs client world run (.create other.descriptor) outcome')
    (self : call.self = other.self) (below : call.below = other.below)
    (before : other.began < call.ended) : other.began ≤ call.began := by
  by_contra later
  rcases (runs.creation reachable allowed).2 other.began
    (Nat.not_le.mp later) before with
    ⟨role, stack, control, found, creates⟩
  rcases runs'.begins with ⟨steps, role', found'⟩
  rw [self] at found
  cases Option.some.inj (found.symm.trans found')
  rw [← below] at creates
  cases creates with
  | builds stands => exact not_suffix_self stands
  | loses _ _ _ _ stands => exact not_suffix_self stands

/-- A call that has begun where another one has ends where it does. -/
theorem Runs.ends_first {instruction instruction' : Instruction}
    {outcome' : Control} (runs : call.Runs client world run instruction outcome)
    (runs' : other.Runs client world run instruction' outcome')
    (self : call.self = other.self) (below : call.below = other.below)
    (began : call.began = other.began) : call.ended ≤ other.ended := by
  by_contra later
  have returns := runs'.returns
  rw [← self, ← below] at returns
  exact runs.works other.ended outcome' (began ▸ runs'.later)
    (Nat.not_le.mp later) returns

/-- A thread is in one creation at a time: two that insert at the same moment
are the same. -/
theorem Runs.eq_of_inserts (reachable : Reachable client world)
    (allowed : world.allowsAll client run = true) {outcome' : Control}
    {stream' : Stream}
    (runs : call.Runs client world run (.create call.descriptor) outcome)
    (runs' : other.Runs client world run (.create other.descriptor) outcome')
    (inserts : call.Inserts client world run moment stream)
    (inserts' : other.Inserts client world run moment stream') :
    call = other := by
  rcases inserts with ⟨begun, before, steps, role, found⟩
  rcases inserts' with ⟨begun', before', steps', role', found'⟩
  have self : call.self = other.self :=
    Occurrence.step.inj (Option.some.inj (steps.symm.trans steps'))
  rw [self] at found
  have same := Option.some.inj (found.symm.trans found')
  have below : call.below = other.below := congrArg Thread.stack same
  have descriptor : call.descriptor = other.descriptor :=
    (Instruction.insert.inj (Control.run.inj (congrArg Thread.control same))).1
  have began : call.began = other.began :=
    Nat.le_antisymm
      (runs'.begins_outside reachable allowed runs self.symm below.symm
        (Nat.lt_trans begun before'))
      (runs.begins_outside reachable allowed runs' self below
        (Nat.lt_trans begun' before))
  have ended : call.ended = other.ended :=
    Nat.le_antisymm (runs.ends_first runs' self below began)
      (runs'.ends_first runs self.symm below.symm began.symm)
  rcases call with ⟨self, below, descriptor, began, ended⟩
  rcases other with ⟨self', below', descriptor', began', ended'⟩
  simp only [mk.injEq]
  exact ⟨self, below, descriptor, began, ended⟩

end Call

/-! ## Creations that contend for an id -/

/-- Some creations of one id run at the same time.  The id is free at first,
each of their callbacks builds a stream, nobody else registers anything under
the id, and nobody removes anything from it. -/
structure Contend (client : Client σ κ ν) (world : World σ κ ν)
    (run : List (Occurrence κ)) (id : UInt32) (calls : List (Call κ)) :
    Prop where
  free : world.shared.registry.find? id = none
  nonempty : calls ≠ []
  creates : ∀ call ∈ calls, call.descriptor.id = id ∧
    ∃ outcome, call.Runs client world run (.create call.descriptor) outcome
  builds : ∀ call ∈ calls, call.Builds client world run
  alone : ∀ moment self stack control stream,
    world.TakesAt client run self moment stack control →
    control.entering? = some (id, stream) →
    ∃ call ∈ calls, call.Inserts client world run moment stream
  undisturbed : ∀ moment self stack control,
    world.TakesAt client run self moment stack control →
      control.leaving? ≠ some id

/-- Whether a thread that is back in a creation from client code brings a
stream. -/
def Thread.bringsStream : Thread κ → Bool
  | ⟨_, .creating _ :: _, .run _⟩ => true
  | ⟨_, .creating _ :: _, .reply reply⟩ => reply.stream.isSome
  | ⟨_, .creating _ :: _, _⟩ => false
  | _ => true

/-- Two creations of one id contend if a look at every step of the run shows
it. -/
theorem Contend.of_everyStep {id : UInt32} (first second : Call κ)
    {outcome outcome' : Control} {moment moment' : Nat}
    {stream stream' : Stream} (free : world.shared.registry.find? id = none)
    (same : first.descriptor.id = id ∧ second.descriptor.id = id)
    (runs : first.Runs client world run (.create first.descriptor) outcome)
    (runs' : second.Runs client world run (.create second.descriptor) outcome')
    (inserts : first.Inserts client world run moment stream)
    (inserts' : second.Inserts client world run moment' stream')
    (builds : world.everyStep client run
      (fun _ thread => thread.bringsStream) = true)
    (alone : world.everyStep client run (fun now thread =>
      thread.control.entering? = none || now = moment || now = moment') = true)
    (undisturbed : world.everyStep client run (fun _ thread =>
      thread.control.leaving? = none) = true) :
    Contend client world run id [first, second] := by
  constructor
  case free => exact free
  case nonempty => exact List.cons_ne_nil _ _
  case creates =>
    intro call member
    rcases List.mem_pair.mp member with rfl | rfl
    · exact ⟨same.1, outcome, runs⟩
    · exact ⟨same.2, outcome', runs'⟩
  case builds =>
    intro call member now control takes arrives
    rcases takes.of_everyStep _ builds with ⟨role, brings⟩
    cases control with
    | run instruction => exact absurd rfl (arrives instruction)
    | reply reply =>
        rcases Option.isSome_iff_exists.mp brings with ⟨built, brought⟩
        exact ⟨reply, built, rfl, brought⟩
    | _ => cases brings
  case alone =>
    intro now self stack control built takes entering
    rcases takes.of_everyStep _ alone with ⟨role, here⟩
    simp only [entering, reduceCtorEq, decide_false, Bool.false_or,
      Bool.or_eq_true, decide_eq_true_eq] at here
    rcases here with rfl | rfl
    · rw [inserts.stream_eq takes entering]
      exact ⟨first, List.mem_cons_self, inserts⟩
    · rw [inserts'.stream_eq takes entering]
      exact ⟨second, List.mem_cons_of_mem _ List.mem_cons_self, inserts'⟩
  case undisturbed =>
    intro now self stack control takes leaving
    rcases takes.of_everyStep _ undisturbed with ⟨role, here⟩
    simp only [leaving, reduceCtorEq, decide_false, Bool.false_eq_true] at here

/-- Of some creations of one id one succeeds, and its stream stands under the id
from then on.  Each of the others answers that the id is taken, unless the stop
of its own stream has panicked. -/
def OneWins (client : Client σ κ ν) (world : World σ κ ν)
    (run : List (Occurrence κ)) (id : UInt32) (calls : List (Call κ)) : Prop :=
  ∃ winner ∈ calls, ∃ stream,
    winner.Runs client world run (.create winner.descriptor)
        (.answer (.created (.ok stream))) ∧
      (∀ moment, winner.ended ≤ moment → moment ≤ run.length →
        (world.upTo client run moment).shared.registry.find? id = some stream) ∧
      ∀ other ∈ calls, other ≠ winner →
        other.Runs client world run (.create other.descriptor)
            (.answer (.created (.error (.registry (.duplicate id))))) ∨
          ∃ payload, other.Runs client world run (.create other.descriptor)
              (.raise payload) ∧
            ∃ moment, world.TakesAt client run other.self moment
              (.losing other.descriptor (.duplicate id) :: other.below)
              (.raise payload)

namespace Contend

variable {id : UInt32} {calls : List (Call κ)}

/-- The insertion of one of them takes effect. -/
theorem exists_inserts (contend : Contend client world run id calls)
    (reachable : Reachable client world)
    (allowed : world.allowsAll client run = true) :
    ∃ winner ∈ calls, ∃ moment stream,
      winner.Inserts client world run moment stream ∧
      (world.upTo client run moment).shared.Alters id
        (world.upTo client run (moment + 1)).shared
        (some (.entered stream)) := by
  -- Whichever creation one looks at, something stood under the id in its
  -- course.
  rcases List.exists_mem_of_ne_nil calls contend.nonempty with ⟨call, member⟩
  rcases contend.creates call member with ⟨same, outcome, runs⟩
  rcases (runs.outcomes reachable allowed (contend.builds call member)).2 with
    ⟨entry, before, current, found⟩
  rw [same] at found
  rcases reachable.exists_entered allowed contend.free
    (Nat.le_trans before runs.inside) found
    with ⟨moment, _, stream, enters, self, stack, control, takes, entering⟩
  rcases contend.alone _ _ _ _ _ takes entering with ⟨winner, member', inserts⟩
  exact ⟨winner, member', moment, stream, inserts, enters⟩

/-- One of the creations that contend for an id wins. -/
theorem oneWins (contend : Contend client world run id calls)
    (reachable : Reachable client world)
    (allowed : world.allowsAll client run = true) :
    OneWins client world run id calls := by
  rcases contend.exists_inserts reachable allowed with
    ⟨winner, member, moment, stream, inserts, enters⟩
  rcases contend.creates winner member with ⟨same, outcome, runs⟩
  have answers := runs.answers inserts (same ▸ enters)
  subst answers
  refine ⟨winner, member, stream, runs, fun later after inside => ?_,
    fun other member' differs => ?_⟩
  · exact reachable.stands_after allowed contend.undisturbed enters
      (Nat.lt_of_lt_of_le inserts.2.1 after) inside
  · rcases contend.creates other member' with ⟨same', outcome', runs'⟩
    rcases (runs'.outcomes reachable allowed
      (contend.builds other member')).1 with
      ⟨moment', stream', inserts', enters'⟩ | taken | ⟨payload, raised,
        last, stops⟩
    · -- Both insertions take effect, so they are one, and so are the creations.
      rw [same'] at enters'
      have within {call : Call κ} {outcome : Control} {moment : Nat}
          {stream : Stream}
          (runs : call.Runs client world run (.create call.descriptor) outcome)
          (inserts : call.Inserts client world run moment stream) :
          moment ≤ run.length :=
        Nat.le_trans (Nat.le_of_lt inserts.2.1) runs.inside
      have once :=
        reachable.entered_once allowed contend.undisturbed enters' enters
          (within runs' inserts') (within runs inserts)
      subst once
      exact absurd
        (runs'.eq_of_inserts reachable allowed runs inserts' inserts) differs
    · rw [taken, same'] at runs'
      exact .inl runs'
    · rw [raised] at runs'
      rw [same'] at stops
      exact .inr ⟨payload, runs', last, stops⟩

end Contend

/-- Client code that builds a new stream object at every creation, and that
panics when it is asked to stop one. -/
def Client.panickingAtStop : Client Nat Unit Unit where
  begin callback built :=
    match callback with
    | .stopStream _ =>
        { state := built
          notes := []
          move := .panic (.text "static panic") }
    | _ => Client.numbering.begin callback built
  resume := Client.numbering.resume
  holds := Client.numbering.holds
  publisherName := Client.numbering.publisherName

/-- The exception for a stop that panics is needed: of two creations that
contend one wins, and the other one does not answer at all. -/
theorem Contend.not_all_answer :
    let steps (thread : ThreadId) (number : Nat) :=
      List.replicate number (Occurrence.step thread : Occurrence Unit)
    let descriptor := Descriptor.new 7 "camera"
    let world : World Nat Unit Unit :=
      .new (.new ⟨1, "app"⟩ .standard (.application .new) 0) 2
    let run :=
      [.request 0 (.create descriptor), .request 1 (.create descriptor)] ++
        steps 0 4 ++
        steps 1 4 ++ steps 0 1 ++ steps 1 3
    let first : Call Unit := ⟨0, [], descriptor, 3, 11⟩
    let second : Call Unit := ⟨1, [], descriptor, 7, 14⟩
    Reachable .panickingAtStop world ∧
      world.allowsAll .panickingAtStop run = true ∧
      Contend .panickingAtStop world run 7 [first, second] ∧
      ¬ ∃ winner ∈ [first, second], ∀ other ∈ [first, second], other ≠ winner →
        other.Runs .panickingAtStop world run (.create other.descriptor)
          (.answer (.created (.error (.registry (.duplicate 7))))) := by
  intro steps descriptor world run first second
  have inserts : first.Inserts .panickingAtStop world run 10 ⟨0, "camera"⟩ := by
    exact ⟨by decide, by decide, rfl, .caller, by decide +kernel⟩
  have inserts' :
      second.Inserts .panickingAtStop world run 11 ⟨1, "camera"⟩ := by
    exact ⟨by decide, by decide, rfl, .caller, by decide +kernel⟩
  have runs : first.Runs .panickingAtStop world run (.create descriptor)
      (.answer (.created (.ok ⟨0, "camera"⟩))) := by
    apply Call.Runs.of_busy rfl ⟨rfl, .caller, by decide +kernel⟩
      (by decide) (by decide)
    · decide +kernel
    · exact ⟨fun _ => Control.noConfusion, .caller, by decide +kernel⟩
  have runs' : second.Runs .panickingAtStop world run (.create descriptor)
      (.raise (.text "static panic")) := by
    apply Call.Runs.of_busy rfl ⟨rfl, .caller, by decide +kernel⟩
      (by decide) (by decide)
    · decide +kernel
    · exact ⟨fun _ => Control.noConfusion, .caller, by decide +kernel⟩
  have differ : first ≠ second := fun same => by cases congrArg Call.self same
  refine ⟨.opening (.application _ _ _ _), by decide +kernel, ?_, ?_⟩
  · apply Contend.of_everyStep first second rfl
      ⟨rfl, rfl⟩ runs runs' inserts inserts'
    · decide +kernel
    · decide +kernel
    · decide +kernel
  · rintro ⟨winner, member, others⟩
    rcases List.mem_pair.mp member with rfl | rfl
    · have answers :=
        others second (List.mem_cons_of_mem _ List.mem_cons_self) differ.symm
      cases answers.outcome_eq runs'
    · have answers := others first List.mem_cons_self differ
      cases answers.outcome_eq runs

/-! ## All together -/

/-- The results of creations and deletions agree with one order.  In every run:
* under every id registrations and removals take turns, and what stands there
  was registered last and not removed since;
* nothing else changes what stands there;
* a creation answers with a stream if and only if its own insertion of it took
  effect, and it finds the id taken only if it was, at the check or at the
  insertion;
* a deletion that succeeds has removed the object that it had looked up and that
  its own callback had agreed to release; if callbacks build new objects only,
  this object has stood under the id all the time in between;
* of the creations that contend for a free id one wins. -/
theorem Reachable.answers_agree_with_changes
    (reachable : Reachable client world)
    (allowed : world.allowsAll client run = true) :
    let now := world.upTo client run
    (∀ moment id,
        TakeTurns ((now moment).shared.registry.find? id)
          ((now moment).shared.changes id) ∧
          (now moment).shared.registry.find? id =
            ((now moment).shared.changes id).head?.bind Change.standing?) ∧
      (∀ moment id, moment < run.length →
        ∃ change,
          (now moment).shared.Alters id (now (moment + 1)).shared change ∧
          (change ≠ none → ∃ self stack control,
            world.TakesAt client run self moment stack control ∧
              control.Makes id change)) ∧
      (∀ (call : Call κ) outcome,
        call.Runs client world run (.create call.descriptor) outcome →
          (∀ stream, outcome = .answer (.created (.ok stream)) ↔
            ∃ moment, call.Inserts client world run moment stream ∧
              (now moment).shared.Alters call.descriptor.id
              (now (moment + 1)).shared
                (some (.entered stream))) ∧
          (∀ id, outcome =
            .answer (.created (.error (.registry (.duplicate id)))) →
            id = call.descriptor.id ∧
              ((now call.began).shared.registry.contains id = true ∨
                ∃ moment stream, call.Inserts client world run moment stream ∧
                  (now moment).shared.registry.contains id = true))) ∧
      (∀ call : Call κ,
        call.Runs client world run (.delete call.descriptor)
          (.answer (.concluded (.ok ()))) →
          ∃ looked current agreed removed, removed < call.ended ∧
            call.Removes client world run looked current agreed removed ∧
            ((world.follow client run).shared.host.isAlone = false →
              (world.follow client run).shared.BuildsFresh →
              current = looked ∧
                ∀ moment, call.began ≤ moment → moment ≤ removed →
                  (now moment).shared.registry.find? call.descriptor.id =
                    some looked)) ∧
      (∀ id calls, Contend client world run id calls →
        OneWins client world run id calls) := by
  refine ⟨fun moment id =>
      ⟨(reachable.upTo allowed moment).takeTurns id,
        ((reachable.upTo allowed moment).takeTurns id).eq_head⟩,
    fun moment id inside => reachable.alters_at allowed inside id,
    fun call outcome runs =>
      ⟨fun stream => runs.created_iff reachable allowed, ?_⟩,
    fun call runs => ?_, fun id calls contend =>
      contend.oneWins reachable allowed⟩
  · rintro id rfl
    exact runs.duplicate reachable allowed
  · rcases runs.deletion reachable allowed rfl with
      ⟨looked, current, agreed, removed, before, removes⟩
    refine ⟨looked, current, agreed, removed, before, removes,
      fun hosted fresh => ?_⟩
    have stands :
        (world.upTo client run removed).shared.registry.find?
          call.descriptor.id =
        some current := by
      cases removes.leaves with
      | leaves stands => exact stands
    exact reachable.registered_between allowed hosted fresh
      (Nat.le_of_lt (Nat.lt_trans removes.order.1 removes.order.2))
      (Nat.le_trans (Nat.le_of_lt before) runs.inside) removes.found stands
        removes.same

/-- Two creations of one id are between check and insertion at the same time.
One of them wins, and a deletion afterwards removes the stream that it has
looked up. -/
theorem Reachable.answers_agree_with_changes_of_two_creations :
    let steps (thread : ThreadId) (number : Nat) :=
      List.replicate number (Occurrence.step thread : Occurrence Unit)
    let descriptor := Descriptor.new 7 "camera"
    let world : World Nat Unit Unit :=
      .new (.new ⟨1, "app"⟩ .standard (.application .new) 0) 2
    let run :=
      [.request 0 (.create descriptor), .request 1 (.create descriptor)] ++
        steps 0 4 ++
        steps 1 4 ++ steps 0 1 ++ steps 1 3
    let first : Call Unit := ⟨0, [], descriptor, 3, 11⟩
    let second : Call Unit := ⟨1, [], descriptor, 7, 14⟩
    let longer := run ++ [.request 0 (.delete descriptor)] ++ steps 0 7
    let deletion : Call Unit := ⟨0, [], descriptor, 16, 22⟩
    Contend .numbering world run 7 [first, second] ∧
      OneWins .numbering world run 7 [first, second] ∧
      ∃ looked agreed removed,
        deletion.Removes .numbering world longer looked looked agreed
          removed := by
  intro steps descriptor world run first second longer deletion
  have reachable : Reachable Client.numbering world :=
    .opening (.application _ _ _ _)
  have allowed : world.allowsAll .numbering run = true := by decide +kernel
  have inserts : first.Inserts .numbering world run 10 ⟨0, "camera"⟩ := by
    exact ⟨by decide, by decide, rfl, .caller, by decide +kernel⟩
  have inserts' : second.Inserts .numbering world run 11 ⟨1, "camera"⟩ := by
    exact ⟨by decide, by decide, rfl, .caller, by decide +kernel⟩
  have runs : first.Runs .numbering world run (.create descriptor)
      (.answer (.created (.ok ⟨0, "camera"⟩))) := by
    apply Call.Runs.of_busy rfl ⟨rfl, .caller, by decide +kernel⟩
      (by decide) (by decide)
    · decide +kernel
    · exact ⟨fun _ => Control.noConfusion, .caller, by decide +kernel⟩
  have runs' : second.Runs .numbering world run (.create descriptor)
      (.answer (.created (.error (.registry (.duplicate 7))))) := by
    apply Call.Runs.of_busy rfl ⟨rfl, .caller, by decide +kernel⟩
      (by decide) (by decide)
    · decide +kernel
    · exact ⟨fun _ => Control.noConfusion, .caller, by decide +kernel⟩
  have contend : Contend .numbering world run 7 [first, second] := by
    apply Contend.of_everyStep first second rfl
      ⟨rfl, rfl⟩ runs runs' inserts inserts'
    · decide +kernel
    · decide +kernel
    · decide +kernel
  have oneWins :=
    (reachable.answers_agree_with_changes allowed).2.2.2.2 7 _ contend
  have allowed' : world.allowsAll .numbering longer = true := by decide +kernel
  have hosted :
      (world.follow .numbering longer).shared.host.isAlone = false := by
    decide +kernel
  have fresh : (world.follow .numbering longer).shared.BuildsFresh := by
    decide +kernel
  have deletes : deletion.Runs .numbering world longer (.delete descriptor)
      (.answer (.concluded (.ok ()))) := by
    apply Call.Runs.of_busy rfl ⟨rfl, .caller, by decide +kernel⟩
      (by decide) (by decide)
    · decide +kernel
    · exact ⟨fun _ => Control.noConfusion, .caller, by decide +kernel⟩
  rcases (reachable.answers_agree_with_changes allowed').2.2.2.1 deletion
    deletes with
    ⟨looked, current, agreed, removed, _, removes, same⟩
  rw [(same hosted fresh).1] at removes
  exact ⟨contend, oneWins, looked, agreed, removed, removes⟩

end Switchboard
