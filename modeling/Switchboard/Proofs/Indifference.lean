import Switchboard.Proofs.Turns

/-!
# It makes no difference when an application is stopped

With `drainOnStop` a task takes the same entries in the same order from its loop
and from its drain.  Between two entries it goes round the queues, and what a
`stop` changes meanwhile is no matter of clients: the channel that is served
next stays the same.  With an entry in hand it does what it would do anyway.
Two runs from the same state, in which the application is stopped at different
times, therefore make the same callbacks and end in states that are alike.
-/

namespace Switchboard

variable {σ κ ν : Type}

/-! ## The channel that is served next -/

namespace Shared

variable {shared other : Shared σ ν}

theorem Alike.first?_eq (alike : shared.Alike other) (channels : List Channel) :
    shared.first? channels = other.first? channels := by
  induction channels with
  | nil => rfl
  | cons channel rest inductionHypothesis =>
      have same : shared.waiting channel = other.waiting channel := by
        simp only [waiting, alike.queues]
      rw [first?, first?, same, inductionHypothesis]

theorem Alike.upcoming?_eq (alike : shared.Alike other) (control : Control) :
    shared.upcoming? control = other.upcoming? control := by
  simp only [upcoming?, alike.first?_eq]

/-- Where nothing waits nothing is served next. -/
theorem IsDrained.upcoming? (drained : shared.IsDrained) (control : Control) :
    shared.upcoming? control = none := by
  have nothing (channels : List Channel) : shared.first? channels = none := by
    induction channels with
    | nil => rfl
    | cons channel rest inductionHypothesis =>
        have empty : shared.waiting channel = [] := drained channel
        simp only [first?, empty, List.isEmpty_nil, ↓reduceIte,
          inductionHypothesis]
  simp only [Shared.upcoming?, nothing, Option.or_self]

/-- An entry is taken from the channel that is served next. -/
theorem upcoming?_of_pop {cycle : Cycle} {channel : Channel}
    {remaining : List Channel} (next : cycle.remaining = channel :: remaining)
    {entry : Sequenced Item} {dispatcher : Dispatcher}
    (popped : shared.dispatcher.pop? channel = some (entry, dispatcher)) :
    shared.upcoming? (.run (.cycle cycle)) = some (channel, remaining) := by
  have filled := (waiting_of_pop popped).1
  simp only [upcoming?, Control.remaining, next, first?, filled,
    List.isEmpty_cons, Bool.false_eq_true, ↓reduceIte, Option.some_or]

end Shared

/-- Two tasks whose next channel is the same take the same entry, and have the
same entry in hand then. -/
theorem Turn.Draws.engaged {shared other : Shared σ ν}
    {control control' : Control} {turn turn' : Turn σ κ ν}
    (draws : turn.Draws shared control) (draws' : turn'.Draws other control')
    (alike : shared.Alike other) (named : shared.nameplate? = other.nameplate?)
    (upcoming : shared.upcoming? control = other.upcoming? control') :
    turn.shared.Alike turn'.shared ∧
      turn.shared.nameplate? = turn'.shared.nameplate? ∧
      Engaged turn.stack turn'.stack turn.control turn'.control := by
  have host := draws.continues.remains.host
  have host' := draws'.continues.remains.host
  rw [← Shared.nameplate?_eq host, ← Shared.nameplate?_eq host'] at named
  rcases draws with ⟨rfl, own, next, popped, rfl⟩
  rcases draws' with ⟨rfl, own', next', popped', rfl⟩
  rename_i cycle channel remaining entry dispatcher cycle' channel' remaining'
    entry' dispatcher'
  rw [Shared.upcoming?_of_pop next popped,
    Shared.upcoming?_of_pop next' popped'] at upcoming
  cases upcoming
  obtain ⟨absent, _⟩ | ⟨_, _, _, same, same', rest⟩ := alike.pop? channel
  · cases absent.symm.trans popped
  cases same.symm.trans popped
  cases same'.symm.trans popped'
  refine ⟨rest.record _, named, .nil, .run (.route _ ?_)⟩
  have after {after : AfterCycle} (own : after ≠ .answer) :
      after.blurred = .loop 0 := by
    cases after with
    | answer => exact absurd rfl own
    | loop | drain => rfl
  simp only [Cycle.blurred, Cycle.served, after own, after own']
  exact .loop _ _ _ _

/-! ## Between two entries -/

namespace World

/-- The channel from which a task takes its next entry, and the channels that
the cycle then has yet to serve. -/
def upcoming? (world : World σ κ ν) (task : ThreadId) :
    Option (Channel × List Channel) :=
  world.shared.upcoming? (world.taskAt task).control

/-- What a thread has on its stack. -/
def stackAt? (world : World σ κ ν) (self : ThreadId) :
    Option (List (Frame κ)) :=
  (world.threads[self]?).map Thread.stack

/-- Nothing has happened that is a matter of clients, and the task is where it
was, or as far from its next entry.  Nothing has been settled of the display
name, unless the task has ended. -/
structure Dwells (task : ThreadId) (world next : World σ κ ν) : Prop where
  alike : world.shared.Alike next.shared
  others (other : ThreadId) : other ≠ task →
    world.stackAt? other = next.stackAt? other
  holds : (world.taskAt task).hasEntry = true →
    next.taskAt task = world.taskAt task
  lacks : (world.taskAt task).hasEntry = false →
    (next.taskAt task).hasEntry = false ∧
      world.upcoming? task = next.upcoming? task
  named : (next.taskAt task).ending? = none →
    (world.taskAt task).ending? = none ∧
      world.shared.nameplate? = next.shared.nameplate?

/-- A task has an entry in hand, or is about to take one. -/
inductive Works (client : Client σ κ ν) (task : ThreadId)
    (world : World σ κ ν) : Prop
  | holds (busy : (world.taskAt task).hasEntry = true)
  | draws (free : (world.taskAt task).hasEntry = false)
      (draws : (world.shared.move client (world.surroundings task)
        (world.taskAt task).stack
        (world.taskAt task).control).Draws world.shared
        (world.taskAt task).control)

/-- A task has no entry in hand, and there is none for it to take. -/
def IsDone (task : ThreadId) (world : World σ κ ν) : Prop :=
  (world.taskAt task).hasEntry = false ∧ world.upcoming? task = none

theorem Works.not_isDone {client : Client σ κ ν} {task : ThreadId}
    {world : World σ κ ν} (works : world.Works client task) :
    ¬ world.IsDone task := by
  rintro ⟨free, nothing⟩
  cases works with
  | holds busy => cases free.symm.trans busy
  | draws _ draws =>
      rcases draws with ⟨serves, own, next, popped, _⟩
      rw [upcoming?, serves, Shared.upcoming?_of_pop next popped] at nothing
      cases nothing

/-- A task that works has not ended. -/
theorem Works.stays {client : Client σ κ ν} {task : ThreadId}
    {world : World σ κ ν} (works : world.Works client task) :
    (world.taskAt task).ending? = none := by
  rw [Option.eq_none_iff_forall_ne_some]
  intro ending ended
  rcases Thread.isSome_ending?_iff.mp (Option.isSome_of_eq_some ended) with
    ⟨empty, done⟩
  cases works with
  | holds busy =>
      rw [Thread.hasEntry, Control.hasEntry, empty, List.isEmpty_nil,
        Bool.not_true, Bool.false_or] at busy
      rcases Control.isRouting_iff.mp busy with ⟨entry, cycle, runs⟩
      exact done _ runs
  | draws _ draws =>
      rcases draws with ⟨serves, _⟩
      exact done _ serves

/-- In two worlds that are alike for clients a task has the same entry in hand,
or is as far from its next one.  Unless it has ended in one of them the same is
settled of the display name. -/
structure Agrees (task : ThreadId) (world other : World σ κ ν) : Prop where
  alike : world.shared.Alike other.shared
  others (thread : ThreadId) : thread ≠ task →
    world.stackAt? thread = other.stackAt? thread
  same : (world.taskAt task).hasEntry = (other.taskAt task).hasEntry
  holds : (world.taskAt task).hasEntry = true →
    Engaged (world.taskAt task).stack (other.taskAt task).stack
      (world.taskAt task).control (other.taskAt task).control
  lacks : (world.taskAt task).hasEntry = false →
    world.upcoming? task = other.upcoming? task
  named : (world.taskAt task).ending? = none →
    (other.taskAt task).ending? = none →
    world.shared.nameplate? = other.shared.nameplate?

namespace Dwells

variable {task : ThreadId} {world next final : World σ κ ν}

theorem refl (task : ThreadId) (world : World σ κ ν) :
    world.Dwells task world :=
  ⟨.refl _, fun _ _ => rfl, fun _ => rfl, fun lacks => ⟨lacks, rfl⟩,
    fun stays => ⟨stays, rfl⟩⟩

theorem trans (former : world.Dwells task next)
    (latter : next.Dwells task final) :
    world.Dwells task final where
  alike := former.alike.trans latter.alike
  others other differs :=
    (former.others other differs).trans (latter.others other differs)
  holds busy := by
    have same := former.holds busy
    exact (latter.holds (same ▸ busy)).trans same
  lacks free := by
    rcases former.lacks free with ⟨free, upcoming⟩
    rcases latter.lacks free with ⟨free, upcoming'⟩
    exact ⟨free, upcoming.trans upcoming'⟩
  named stays := by
    rcases latter.named stays with ⟨stays, named'⟩
    rcases former.named stays with ⟨stays, named⟩
    exact ⟨stays, named.trans named'⟩

/-- What changes nothing of the task, of the stacks, and of what clients can
tell. -/
theorem of_same (alike : world.shared.Alike next.shared)
    (others : ∀ other, world.stackAt? other = next.stackAt? other)
    (same : next.taskAt task = world.taskAt task)
    (named : (world.taskAt task).ending? = none →
      world.shared.nameplate? = next.shared.nameplate?) :
        world.Dwells task next where
  alike := alike
  others other _ := others other
  holds _ := same
  lacks free :=
    ⟨same ▸ free, by rw [upcoming?, upcoming?, same, alike.upcoming?_eq]⟩
  named stays := by
    rw [same] at stays
    exact ⟨stays, named stays⟩

end Dwells

/-- What a step of the task changes. -/
theorem Paired.after_step {client : Client σ κ ν} {caller task : ThreadId}
    {requested : Bool} {world : World σ κ ν}
    (paired : world.Paired client caller task requested)
    (only : client.AsksOnly Request.isMild) :
    let turn :=
      world.shared.move client (world.surroundings task)
        (world.taskAt task).stack
      (world.taskAt task).control
    (world.step client task).shared = turn.shared ∧
      (world.step client task).taskAt task =
      ⟨(world.taskAt task).role, turn.stack, turn.control⟩ ∧
        ∀ other, other ≠ task →
          world.stackAt? other = (world.step client task).stackAt? other := by
  rcases step_self client paired.works with ⟨shared, stands⟩
  refine ⟨shared, taskAt_of_some stands, fun other differs => ?_⟩
  rw [stackAt?, stackAt?, step_of_some paired.works,
    afterTurn_others world differs _ (paired.proceeds only).spawned]

/-- A thread that has not ended after a move had not ended before. -/
theorem stays_of_move {client : Client σ κ ν} {shared : Shared σ ν}
    {around : Surroundings} {role : Role} {stack : List (Frame κ)}
    {control : Control} (stays :
      let turn := shared.move client around stack control
      (⟨role, turn.stack, turn.control⟩ : Thread κ).ending? = none) :
    (⟨role, stack, control⟩ : Thread κ).ending? = none := by
  cases stack with
  | cons frame below => rfl
  | nil =>
      cases control with
      | run instruction => rfl
      | _ => exact stays

/-- A task goes round the queues, or works on an entry. -/
theorem Paired.dwells_or_works {client : Client σ κ ν} {caller task : ThreadId}
    {requested : Bool} {world : World σ κ ν}
    (paired : world.Paired client caller task requested)
    (only : client.AsksOnly Request.isMild) :
    world.Dwells task (world.step client task) ∨ world.Works client task := by
  cases busy : (world.taskAt task).hasEntry with
  | true => exact .inr (.holds busy)
  | false =>
      rcases paired.after_step only with ⟨shared, now, others⟩
      rcases Control.hasEntry_eq_false_iff.mp busy with ⟨empty, free⟩
      have inTask := paired.inTask
      rw [empty] at inTask
      rcases world.shared.move_free client
        (world.surroundings task) inTask free with
        roams | draws
      · left
        rw [← empty] at roams
        refine ⟨shared ▸ roams.alike, others, fun busy' => ?_,
          fun _ => ⟨?_, ?_⟩, fun stays => ⟨?_, ?_⟩⟩
        · cases busy.symm.trans busy'
        · rw [now]
          exact roams.free
        · rw [upcoming?, upcoming?, now, shared]
          exact roams.upcoming.symm
        · rw [now] at stays
          exact stays_of_move stays
        · rw [shared, Shared.nameplate?_eq roams.continues.remains.host]
      · refine .inr (.draws busy ?_)
        rw [empty]
        exact draws

/-- As long as nobody has asked for a `stop` the stop flag is lowered. -/
theorem Paired.lowered {client : Client σ κ ν} {caller task : ThreadId}
    {world : World σ κ ν} (paired : world.Paired client caller task false) :
    world.shared.dispatcher.stopRequested = false := by
  rcases paired.stage with ⟨asking, _, stage⟩
  cases stage with
  | free runs idle => exact stopRequested_of_switch? runs

/-- Whoever keeps a session alive does so by a frame on its stack. -/
theorem keeps_of_stacks {task : ThreadId} {world other : World σ κ ν}
    {thread thread' : Thread κ} (found : world.threads[task]? = some thread)
    (found' : other.threads[task]? = some thread')
    (others : ∀ thread, thread ≠ task →
      world.stackAt? thread = other.stackAt? thread)
    {session : SessionHandle}
    (same : thread.stack.any (Frame.keeps session) = thread'.stack.any
      (Frame.keeps session))
    (keeps : (world.surroundings task).keeps session = true) :
    (other.surroundings task).keeps session = true := by
  rcases List.any_eq_true.mp keeps with ⟨keeper, member, keeps⟩
  rcases List.mem_iff_getElem?.mp member with ⟨self, stands⟩
  apply List.any_eq_true.mpr
  by_cases itself : self = task
  · subst itself
    cases found.symm.trans stands
    exact ⟨thread', List.mem_of_getElem? found', same.symm.trans keeps⟩
  · have stack := others self itself
    rw [stackAt?, stands, Option.map_some] at stack
    rcases Option.map_eq_some_iff.mp stack.symm with ⟨keeper', stands', equal⟩
    refine ⟨keeper', List.mem_of_getElem? stands', ?_⟩
    rw [Thread.keeps, equal]
    exact keeps

namespace Agrees

variable {client : Client σ κ ν} {task : ThreadId}
  {world other next next' : World σ κ ν}

/-- Worlds in which nothing has happened since that is a matter of clients agree
as before. -/
theorem dwells (agrees : world.Agrees task other)
    (dwells : world.Dwells task next) (dwells' : other.Dwells task next') :
    next.Agrees task next' := by
  have alike := (dwells.alike.symm.trans agrees.alike).trans dwells'.alike
  have others (thread : ThreadId) (differs : thread ≠ task) :
      next.stackAt? thread = next'.stackAt? thread := by
    rw [← dwells.others thread differs, agrees.others thread differs,
      dwells'.others thread differs]
  have named (stays : (next.taskAt task).ending? = none)
      (stays' : (next'.taskAt task).ending? = none) :
      next.shared.nameplate? = next'.shared.nameplate? := by
    rcases dwells.named stays with ⟨stays, named⟩
    rcases dwells'.named stays' with ⟨stays', named'⟩
    rw [← named, agrees.named stays stays', named']
  cases busy : (world.taskAt task).hasEntry with
  | true =>
      have same := dwells.holds busy
      have same' := dwells'.holds (agrees.same ▸ busy)
      refine ⟨alike, others, ?_, fun _ => ?_, fun free => ?_, named⟩
      · rw [same, same', agrees.same]
      · rw [same, same']
        exact agrees.holds busy
      · rw [same, busy] at free
        cases free
  | false =>
      rcases dwells.lacks busy with ⟨free, upcoming⟩
      rcases dwells'.lacks (agrees.same ▸ busy) with ⟨free', upcoming'⟩
      refine ⟨alike, others, free.trans free'.symm, fun busy => ?_,
        fun _ => ?_, named⟩
      · cases free.symm.trans busy
      · rw [← upcoming, agrees.lacks busy, upcoming']

/-- The same sessions are kept alive by routing in progress. -/
theorem keeps_eq (agrees : world.Agrees task other)
    (works : world.threads[task]? = some (world.taskAt task))
    (works' : other.threads[task]? = some (other.taskAt task))
    (busy : (world.taskAt task).hasEntry = true) (session : SessionHandle) :
    (world.surroundings task).keeps session =
    (other.surroundings task).keeps session := by
  have same := (agrees.holds busy).any_keeps_eq session
  rw [Bool.eq_iff_iff]
  exact ⟨keeps_of_stacks works works' agrees.others same,
    keeps_of_stacks works' works
      (fun thread differs => (agrees.others thread differs).symm)
      same.symm⟩

/-- Two tasks that have the same entry in hand, or take their next one, do the
same. -/
theorem step (agrees : world.Agrees task other)
    (only : client.AsksOnly Request.isMild) {caller : ThreadId}
    {requested requested' : Bool}
    (paired : world.Paired client caller task requested)
    (paired' : other.Paired client caller task requested')
    (works : world.Works client task) (works' : other.Works client task) :
    (world.step client task).Agrees task (other.step client task) := by
  rcases paired.after_step only with ⟨shared, now, others⟩
  rcases paired'.after_step only with ⟨shared', now', others'⟩
  -- What the two have in hand afterwards is the same, or they go round the same
  -- way.
  have both :
      (world.step client task).shared.Alike (other.step client task).shared ∧
        (world.step client task).shared.nameplate? =
          (other.step client task).shared.nameplate? ∧
        Engaged ((world.step client task).taskAt task).stack
          ((other.step client task).taskAt task).stack
          ((world.step client task).taskAt task).control
          ((other.step client task).taskAt task).control := by
    rw [shared, shared', now, now']
    have named := agrees.named works.stays works'.stays
    cases works with
    | holds busy =>
        have engaged := agrees.holds busy
        exact Shared.move_engaged only agrees.alike paired.isHosted
          paired'.isHosted named
          (agrees.keeps_eq paired.works paired'.works busy) engaged
          (engaged.isRoundabout_eq_false paired.fits busy)
    | draws free draws =>
        cases works' with
        | holds busy => cases free.symm.trans (agrees.same.trans busy)
        | draws free' draws' =>
            exact draws.engaged draws' agrees.alike named (agrees.lacks free)
  rcases both with ⟨alike, named, engaged⟩
  refine ⟨alike, fun thread differs => ?_, engaged.hasEntry_eq,
    fun _ => engaged, fun _ => ?_, fun _ _ => named⟩
  · rw [← others thread differs, agrees.others thread differs,
      others' thread differs]
  · rw [upcoming?, upcoming?, alike.upcoming?_eq, Shared.upcoming?,
      Shared.upcoming?, engaged.remaining_eq]

theorem isDone_iff (agrees : world.Agrees task other) :
    world.IsDone task ↔ other.IsDone task := by
  constructor
  · rintro ⟨free, nothing⟩
    exact ⟨agrees.same ▸ free, agrees.lacks free ▸ nothing⟩
  · rintro ⟨free, nothing⟩
    have free := agrees.same.trans free
    exact ⟨free, (agrees.lacks free).trans nothing⟩

end Agrees

/-! ## Whole runs -/

/-- A caller that asks for a `stop` is no matter of clients. -/
theorem Paired.request_dwells {client : Client σ κ ν} {caller task : ThreadId}
    {world : World σ κ ν} (paired : world.Paired client caller task false) :
    world.Dwells task (world.request caller .stop) := by
  rcases paired.stage with ⟨asking, found, _⟩
  have asked := request_of_some found .stop
  refine .of_same (.refl _) (fun other => ?_) ?_ fun _ => rfl
  · rw [asked, stackAt?, stackAt?]
    by_cases itself : other = caller
    · rw [itself, put_self found, found]
      rfl
    · rw [put_other itself]
  · rw [asked, taskAt, put_other paired.differs.symm, ← taskAt]

/-- A run begins with what is no matter of clients, up to its end or until the
task works on an entry. -/
inductive Lulls (client : Client σ κ ν) (caller task : ThreadId)
    (world : World σ κ ν) (turns : Nat) (requested' : Bool)
    (final : World σ κ ν) : Prop
  | ends (dwells : world.Dwells task final)
  | works {before : World σ κ ν} {turns' asked' : Nat} {requested : Bool}
      (less : turns' < turns) (dwells : world.Dwells task before)
      (paired : before.Paired client caller task requested)
      (works : before.Works client task)
      (rest : TakesTurns client caller task requested
        (before.step client task) turns' asked'
        requested' final)

theorem Lulls.cons {client : Client σ κ ν} {caller task : ThreadId}
    {requested' : Bool} {world next final : World σ κ ν} {turns turns' : Nat}
    (dwells : world.Dwells task next)
    (lulls : next.Lulls client caller task turns requested' final)
    (more : turns ≤ turns') :
    world.Lulls client caller task turns' requested' final := by
  cases lulls with
  | ends rest => exact .ends (dwells.trans rest)
  | works less rest paired works run =>
      exact .works (Nat.lt_of_lt_of_le less more)
        (dwells.trans rest) paired works run

namespace TakesTurns

variable {client : Client σ κ ν} {caller task : ThreadId}
  {requested requested' requested₁ requested₂ : Bool}
  {world other final final' : World σ κ ν} {turns turns' asked asked' : Nat}

theorem lulls
    (run : TakesTurns client caller task requested world turns asked
      requested' final)
    (only : client.AsksOnly Request.isMild)
    (start : world.Paired client caller task requested)
    (calm : ¬ final.shared.Escaped) :
    world.Lulls client caller task turns requested' final := by
  induction run with
  | rests => exact .ends (.refl task _)
  | asks _ _ inductionHypothesis =>
      exact .cons start.request_dwells (inductionHypothesis start.request calm)
        (Nat.le_refl _)
  | @waits world _ _ _ _ _ millis _ inductionHypothesis =>
      have dwells : world.Dwells task (world.wait millis) :=
        .of_same ⟨rfl, rfl, rfl, rfl, rfl, rfl, rfl⟩ (fun _ => rfl) rfl
          fun _ => rfl
      exact .cons dwells (inductionHypothesis (start.wait millis) calm)
        (Nat.le_refl _)
  | @moves world _ self _ _ _ _ who _ rest inductionHypothesis =>
      rcases who with rfl | rfl
      · rcases start.step_caller with ⟨paired, alike, same, named, others⟩
        have dwells : world.Dwells task (world.step client self) :=
          .of_same alike (fun other => (others other).symm) same named
        exact .cons dwells (inductionHypothesis paired calm) (Nat.le_succ _)
      · rcases start.dwells_or_works only with dwells | works
        · have paired := start.step_task only (rest.calm calm)
          exact .cons dwells (inductionHypothesis paired calm) (Nat.le_succ _)
        · exact .works (Nat.lt_succ_self _) (.refl _ world) start works rest

/-- Two runs from worlds that agree end in worlds that agree, if the task has
nothing left to do in the end, whenever the caller asks for a `stop`. -/
theorem concurs
    (run : TakesTurns client caller task requested world turns asked
      requested₁ final)
    (run' : TakesTurns client caller task requested' other turns' asked'
      requested₂ final')
    (only : client.AsksOnly Request.isMild)
    (start : world.Paired client caller task requested)
    (start' : other.Paired client caller task requested')
    (agrees : world.Agrees task other) (calm : ¬ final.shared.Escaped)
    (calm' : ¬ final'.shared.Escaped) (done : final.IsDone task)
    (done' : final'.IsDone task) : final.Agrees task final' := by
  induction turns using Nat.strong_induction_on generalizing
    world other asked turns' asked' requested requested' with
  | _ turns inductionHypothesis =>
      cases run.lulls only start calm with
      | ends dwells =>
          cases run'.lulls only start' calm' with
          | ends dwells' => exact agrees.dwells dwells dwells'
          | works _ dwells' _ works' _ =>
              exact absurd ((agrees.dwells dwells dwells').isDone_iff.mp done)
                works'.not_isDone
      | works less dwells paired works rest =>
          cases run'.lulls only start' calm' with
          | ends dwells' =>
              exact absurd ((agrees.dwells dwells dwells').isDone_iff.mpr done')
                works.not_isDone
          | works _ dwells' paired' works' rest' =>
              have agrees :=
                (agrees.dwells dwells dwells').step only paired paired'
                  works works'
              exact inductionHypothesis _ less rest rest'
                (paired.step_task only (rest.calm calm))
                (paired'.step_task only (rest'.calm calm')) agrees

/-- While the caller has not asked for a `stop` the task stays in its loop. -/
theorem inLoop
    (run : TakesTurns client caller task requested world turns asked
      false final)
    (only : client.AsksOnly Request.isMild)
    (start : world.Paired client caller task requested)
    (inLoop : InLoop (world.taskAt task).stack (world.taskAt task).control)
    (calm : ¬ final.shared.Escaped) :
    InLoop (final.taskAt task).stack (final.taskAt task).control := by
  generalize unasked : false = requested' at run
  induction run with
  | rests => exact inLoop
  | asks _ rest => cases unasked.trans (rest.requested_after rfl)
  | waits millis _ inductionHypothesis =>
      exact inductionHypothesis (start.wait millis) inLoop calm unasked
  | @moves world _ self _ _ requested _ who _ rest inductionHypothesis =>
      rcases who with rfl | rfl
      · rcases start.step_caller with ⟨paired, _, same, _⟩
        exact inductionHypothesis paired (same ▸ inLoop) calm unasked
      · have calm' := rest.calm calm
        refine inductionHypothesis (start.step_task only calm') ?_ calm unasked
        have lowered : world.shared.dispatcher.stopRequested = false := by
          cases requested with
          | true => cases unasked.trans (rest.requested_after rfl)
          | false => exact start.lowered
        rcases start.after_step only with ⟨shared, now, _⟩
        rw [now]
        rw [shared] at calm'
        rcases world.shared.move_inLoop client
          (world.surroundings self) start.fits start.tells
          inLoop with stays | raised | escapes
        · exact stays
        · cases lowered.symm.trans raised
        · exact absurd escapes.escaped calm'

end TakesTurns

/-- A task in its loop that cannot move waits for the wake event. -/
theorem Paired.isParked {client : Client σ κ ν} {caller task : ThreadId}
    {requested : Bool} {world : World σ κ ν}
    (paired : world.Paired client caller task requested)
    (only : client.AsksOnly Request.isMild)
    (inLoop : InLoop (world.taskAt task).stack (world.taskAt task).control)
    (still : world.canMove task = false) :
    (world.taskAt task).isParked = true := by
  have sleeps :
      (world.taskAt task).control.isRoused world.shared.dispatcher.wake task ≠
        true :=
    fun roused => by
      cases still.symm.trans (paired.canMove_task only inLoop.ending? roused)
  simp only [canMove, paired.works] at still
  simp only [Control.isRoused] at sleeps
  simp only [Thread.isParked]
  split at sleeps
  · rename_i runs
    rw [runs] at still
    cases still
  · rename_i runs
    rw [runs]
  · exact absurd rfl sleeps

/-! ## Stopping sooner or later -/

/-- A caller and a task can take turns that lead from one world to another, and
the caller asks for no `stop`. -/
def LeadsTo (client : Client σ κ ν) (caller task : ThreadId) (requested : Bool)
    (world final : World σ κ ν) : Prop :=
  ∃ turns asked,
    TakesTurns client caller task requested world turns asked requested final

/-- However a caller and a task take turns, client code asks for so many things
at most. -/
def AsksAtMost (client : Client σ κ ν) (caller task : ThreadId)
    (world : World σ κ ν) (bound : Nat) : Prop :=
  ∀ turns asked requested final,
    TakesTurns client caller task false world turns asked requested final →
      asked ≤ bound

/-- However a caller and a task take turns, they take so many steps at most. -/
def TurnsAtMost (client : Client σ κ ν) (caller task : ThreadId)
    (world : World σ κ ν) (limit : Nat) : Prop :=
  ∀ turns asked requested final,
    TakesTurns client caller task false world turns asked requested final →
      turns ≤ limit

/-- A caller and a task take turns up to a world in which the caller asks for a
`stop`, and then both go on until neither can. -/
structure StopsAt (client : Client σ κ ν) (caller task : ThreadId)
    (world asking final : World σ κ ν) : Prop where
  before : LeadsTo client caller task false world asking
  allowed : asking.allows (.request caller .stop) = true
  after : LeadsTo client caller task true (asking.request caller .stop) final
  still : final.canMove caller = false
  still' : final.canMove task = false

variable {client : Client σ κ ν} {caller task : ThreadId}
  {world asking asking' final final' : World σ κ ν}

/-- Where client code asks for a limited number of things a caller and a task
come to rest. -/
theorem AsksAtMost.turnsAtMost {bound : Nat}
    (asks : AsksAtMost client caller task world bound)
    (only : client.AsksOnly Request.isMild)
    (paired : world.Paired client caller task false) :
    TurnsAtMost client caller task world
      (world.effort caller task + 36 * bound + 15) := by
  intro turns asked requested final run
  rcases paired.stage with ⟨asking, found, _⟩
  have spent :=
    run.effort_le only paired.differs (List.getElem?_eq_some_iff.mp found).1
      (List.getElem?_eq_some_iff.mp paired.works).1
  have few := asks turns asked requested final run
  have once := requested.toNat_le
  omega

namespace StopsAt

/-- The whole run. -/
theorem takesTurns (stops : StopsAt client caller task world asking final) :
    ∃ turns asked,
      TakesTurns client caller task false world turns asked true final := by
  rcases stops.before with ⟨_, _, before⟩
  rcases stops.after with ⟨_, _, after⟩
  exact ⟨_, _, before.trans (.asks stops.allowed after)⟩

theorem paired (stops : StopsAt client caller task world asking final)
    (only : client.AsksOnly Request.isMild)
    (start : world.Paired client caller task false)
    (calm : ¬ final.shared.Escaped) : final.Paired client caller task true := by
  rcases stops.takesTurns with ⟨_, _, run⟩
  exact run.paired only start calm

/-- In the end the task has nothing left to do. -/
theorem isDone (stops : StopsAt client caller task world asking final)
    (only : client.AsksOnly Request.isMild)
    (start : world.Paired client caller task false)
    (calm : ¬ final.shared.Escaped) : final.IsDone task := by
  rcases (stops.paired only start calm).concluded only stops.still
    stops.still' with
    ⟨_, _, empty, ended, drained⟩
  refine ⟨?_, drained.upcoming? _⟩
  rw [Thread.hasEntry, empty, ended]
  rfl

/-- Whenever the caller asks for the `stop`, clients cannot tell the outcomes
apart. -/
theorem alike (stops : StopsAt client caller task world asking final)
    (stops' : StopsAt client caller task world asking' final')
    (only : client.AsksOnly Request.isMild)
    (start : world.Paired client caller task false)
    (calm : ¬ final.shared.Escaped) (calm' : ¬ final'.shared.Escaped) :
    final.shared.Alike final'.shared := by
  rcases stops.takesTurns with ⟨_, _, run⟩
  rcases stops'.takesTurns with ⟨_, _, run'⟩
  have agrees : world.Agrees task world :=
    ⟨.refl _, fun _ _ => rfl, rfl, start.engaged only, fun _ => rfl,
      fun _ _ => rfl⟩
  exact (run.concurs run' only start start agrees calm calm'
    (stops.isDone only start calm) (stops'.isDone only start calm')).alike

end StopsAt

variable {past : List (Occurrence κ)} {thread : Thread κ}

/-- An application whose task is at work, and a caller that is free.  No other
task is at work, unless somebody has given up a `stop` of it and it has not
ended since. -/
theorem IsOpening.paired_of_running (opening : world.IsOpening)
    (allowed : world.allowsAll client past = true)
    (spent : ∀ left ∈ world.leftBy client past past.length,
      (world.follow client past).isLive left = false)
    (drains : (world.follow client past).shared.settings.drainOnStop = true)
    (runs : (world.follow client past).shared.switch? = some (.running task))
    (lives : (world.follow client past).isLive task = true)
    (found : (world.follow client past).threads[caller]? = some thread)
    (free : thread.isFree = true) :
    let now := world.follow client past
    now.Paired client caller task false ∧
      InLoop (now.taskAt task).stack (now.taskAt task).control := by
  intro now
  have reached : Reachable client now :=
    Reachable.follow (.opening opening) allowed
  have hosted : now.shared.host.isAlone = false := by
    rcases Shared.exists_application runs with ⟨application, host, _⟩
    rw [host]
    rfl
  have vouches := opening.vouches_upTo allowed hosted (Nat.le_refl past.length)
  rw [upTo_length] at vouches
  have warrants := vouches.warrants _ runs
  rcases isLive_iff.mp lives with ⟨working, works, role, stays⟩
  have same := taskAt_of_some works
  cases warrants with
  | running found' dispatches nobody others =>
      cases works.symm.trans found'
      have inLoop := dispatches.2.resolve_right fun ⟨_, ended, _⟩ => by
        cases stays.symm.trans ended
      have fits := reached.fits working (List.mem_of_getElem? works)
      refine ⟨⟨reached, drains, fun other lives => ?_, same ▸ works,
        same ▸ role, same ▸ now.shared.clears_of_inLoop inLoop fits,
        thread.control, ?_, ?_⟩, same ▸ inLoop⟩
      · refine (others other lives).resolve_right fun member => ?_
        cases (spent other member).symm.trans lives
      · rcases thread with ⟨role, stack, control⟩
        rcases Thread.isFree_iff.mp free with ⟨rfl, rfl, _⟩
        exact found
      · exact .free runs (Thread.isFree_iff.mp free).2.2

/-- It makes no difference when an application that drains its queues is
stopped.  Take any run to a world in which the task of the application is at
work, and no other one, and client code that asks for nothing but deliveries,
looks and the display name, and overlooks what a look tells of starts and stops.
From there a caller and the task take turns, and the caller asks for a `stop` at
some time: at once, while the task is in the middle of something, or when it
waits with nothing to do.  If no panic leaves a cycle, then once neither can
move the `stop` has returned well, the application has stopped, nothing waits in
the queues, and the outcome is the same whenever the caller has asked: the
callbacks with what they were given, in their order, the registry, and the
counters with the last timestamps, but for the number of reports.  Where client
code asks for a limited number of things the turns come to an end: the task
waits if it is left to itself, and whenever the caller asks for a `stop` the two
get to where neither can move.  A panic leaves a cycle if a session is asked for
its number, or if a payload is destroyed, and raises it. -/
theorem IsOpening.indifferent_when_stopped
    (only : client.AsksOnly Request.isMild) (opening : world.IsOpening)
    (allowed : world.allowsAll client past = true)
    (spent : ∀ left ∈ world.leftBy client past past.length,
      (world.follow client past).isLive left = false)
    (drains : (world.follow client past).shared.settings.drainOnStop = true)
    (runs : (world.follow client past).shared.switch? = some (.running task))
    (lives : (world.follow client past).isLive task = true)
    (found : (world.follow client past).threads[caller]? = some thread)
    (free : thread.isFree = true) :
    let now := world.follow client past
    (∀ asking final, StopsAt client caller task now asking final →
        ¬ final.shared.Escaped →
          (final.threads[caller]?).map Thread.control =
            some (.answer (.concluded (.ok ()))) ∧
            final.shared.switch? = some ⟨none, false, .stopped, true⟩ ∧
              final.shared.IsDrained ∧
                ∀ asking' final',
                  StopsAt client caller task now asking' final' →
                  ¬ final'.shared.Escaped →
                    final.shared.SameOutcome final'.shared) ∧
      ∀ bound, AsksAtMost client caller task now bound →
        (∃ limit, TurnsAtMost client caller task now limit) ∧
          (∃ rested, LeadsTo client caller task false now rested ∧
            rested.canMove task = false ∧
              (¬ rested.shared.Escaped →
                (rested.threads[task]?).any Thread.isParked = true)) ∧
            ∀ asking, LeadsTo client caller task false now asking →
              ∃ final, StopsAt client caller task now asking final := by
  intro now
  rcases opening.paired_of_running allowed spent drains runs lives
    found free with
    ⟨start, inLoop⟩
  refine ⟨fun asking final stops calm => ?_, fun bound asks => ?_⟩
  · rcases (stops.paired only start calm).concluded only stops.still
      stops.still' with
      ⟨answered, stopped, _, _, drained⟩
    exact ⟨answered, stopped, drained, fun asking' final' stops' calm' =>
      (stops.alike stops' only start calm calm').sameOutcome⟩
  · have limited := asks.turnsAtMost only start
    refine ⟨⟨_, limited⟩, ?_, fun asking leads => ?_⟩
    · rcases TakesTurns.exists_still fun turns asked final =>
        limited turns asked false final with
        ⟨turns, asked, rested, run, _, still⟩
      refine ⟨rested, ⟨turns, asked, run⟩, still, fun calm => ?_⟩
      have paired := run.paired only start calm
      rw [paired.works]
      exact paired.isParked only (run.inLoop only start inLoop calm) still
    · rcases leads with ⟨turns, asked, before⟩
      have stays := before.caller_stays found free rfl
      have allows : asking.allows (.request caller .stop) = true := by
        simp only [allows, stays, Option.any_some, free]
      rcases TakesTurns.exists_still fun turns' asked' final after =>
          (Nat.le_add_right turns' turns).trans
            (limited _ _ true final (before.trans (.asks allows after))) with
        ⟨turns', asked', final, after, still, still'⟩
      exact ⟨final, ⟨turns, asked, before⟩, allows, ⟨turns', asked', after⟩,
        still, still'⟩

/-- A packet waits when a caller stops an application at once, and when it first
lets the task go to its wait. -/
theorem IsOpening.indifferent_with_backlog :
    let steps (thread : ThreadId) (number : Nat) :=
      List.replicate number (Occurrence.step thread : Occurrence Unit)
    let opening : World Unit Unit Unit :=
      .new (.new ⟨1, "app"⟩ (Settings.standard.withDrainOnStop true)
        (.application .new) ()) 2
    let past :=
      [.request 0 .start] ++ steps 0 2 ++
        [.request 1 (.submit (.packet 0 [1]))] ++ steps 1 5
    let now := opening.follow .accepting past
    let moved (order : List ThreadId) (world : World Unit Unit Unit) :=
      order.foldl (step .accepting) world
    let rested := moved (List.replicate 18 2) now
    let sooner :=
      moved ([0, 0, 0] ++ List.replicate 15 2 ++ [0]) (now.request 0 .stop)
    let later :=
      moved ([0, 0, 0] ++ List.replicate 8 2 ++ [0]) (rested.request 0 .stop)
    (now.shared.waiting .packets).length = 1 ∧
      (rested.threads[2]?).any Thread.isParked = true ∧
        sooner.shared.SameOutcome later.shared ∧ sooner.shared.IsDrained ∧
          sooner.shared.calls.length = 1 ∧
            (∃ limit, TurnsAtMost .accepting 0 2 now limit) ∧
              ∃ final, StopsAt .accepting 0 2 now rested final := by
  intro steps opening past now moved rested sooner later
  have only : Client.accepting.AsksOnly Request.isMild := by
    constructor
    · exact id
    · intro callback state request next asks
      cases asks
    · intro suspended response state request next asks
      cases asks
    · intros
      rfl
  have nothing : Client.accepting.AsksNothing := by
    constructor
    · intro callback state request next asks
      cases asks
    · intro suspended response state request next asks
      cases asks
  have opens : opening.IsOpening := .application _ _ _ _
  have allowed : opening.allowsAll .accepting past = true := by decide +kernel
  have quiet : ∀ thread ∈ now.threads, thread.control.asks = false := by
    decide +kernel
  have asks : AsksAtMost .accepting 0 2 now 0 := fun _ _ _ _ run =>
    Nat.le_of_eq
      (run.asked_eq_zero nothing
        (Reachable.follow (.opening opens) allowed) quiet)
  have rests : LeadsTo .accepting 0 2 false now rested :=
    TakesTurns.of_canMoveAll (by decide) (by decide +kernel)
  have stops : StopsAt .accepting 0 2 now now sooner :=
    ⟨⟨0, 0, .rests false now⟩, by decide +kernel,
      TakesTurns.of_canMoveAll (by decide) (by decide +kernel),
      by decide +kernel,
      by decide +kernel⟩
  have stops' : StopsAt .accepting 0 2 now rested later :=
    ⟨rests,
    by decide +kernel,
        TakesTurns.of_canMoveAll (by decide) (by decide +kernel),
        by decide +kernel, by decide +kernel⟩
  rcases opens.indifferent_when_stopped only allowed (by decide +kernel)
    (by decide +kernel) (by decide +kernel : _ = some (Switch.running 2))
    (by decide +kernel)
    (by decide +kernel : now.threads[0]? =
      some ⟨.caller, [], .answer (.concluded (.ok ()))⟩) rfl with ⟨alike, ends⟩
  rcases alike now sooner stops (by decide +kernel) with ⟨_, _, drained, same⟩
  rcases ends 0 asks with ⟨limited, _, stopped⟩
  exact ⟨by
    decide +kernel,
    by decide +kernel, same rested later stops' (by decide +kernel),
    drained, by decide +kernel, limited, stopped rested rests⟩

/-- A panic that the destruction of a payload raises makes a difference.  A
caller stops an application that drains its queues while a video frame and a
packet wait.  The stream panics over the frame with a payload whose destruction
panics, and the task dies of it: the `stop` reports that, and the packet stays
queued.  No session was asked for its number. -/
theorem IsOpening.stop_fails_over_fragile_payload :
    let steps (thread : ThreadId) (number : Nat) :=
      List.replicate number (Occurrence.step thread : Occurrence Unit)
    let opening : World Unit Unit Unit :=
      .new (.new ⟨1, "app"⟩ (Settings.standard.withDrainOnStop true)
        (.application .new) ()) 1
    let frame := Item.frame .video (.new 1 "camera") (.video 0 0 0 [] true)
    let past :=
      [.request 0 (.create (.new 1 "camera"))] ++ steps 0 5 ++
        [.request 0 .start] ++ steps 0 2 ++ [.request 0 (.submit frame)] ++
          steps 0 5 ++
        [.request 0 (.submit (.packet 0 [1]))] ++ steps 0 5
    let now := opening.follow .bursting past
    let final :=
      ([0, 0, 0] ++ List.replicate 7 1 ++ [0]).foldl (step .bursting)
        (now.request 0 .stop)
    Client.bursting.AsksOnly Request.isMild ∧ opening.IsOpening ∧
      opening.allowsAll .bursting past = true ∧
      (∀ left ∈ opening.leftBy .bursting past past.length,
        now.isLive left = false) ∧
      now.shared.settings.drainOnStop = true ∧
        now.shared.switch? = some (.running 1) ∧
      now.isLive 1 = true ∧ (now.threads[0]?).any Thread.isFree = true ∧
      StopsAt .bursting 0 1 now now final ∧ ¬ final.shared.NumberPanicked ∧
      (final.threads[0]?).map Thread.control =
        some (.answer (.concluded (.error (.taskPanicked "task 1 panicked")))) ∧
      (final.shared.waiting .packets).length = 1 := by
  intro steps opening frame past now final
  have only : Client.bursting.AsksOnly Request.isMild := by
    constructor
    · exact id
    · intro callback state request next asks
      cases callback <;> cases asks
    · intro suspended response state request next asks
      cases asks
    · intros
      rfl
  have stops : StopsAt .bursting 0 1 now now final :=
    ⟨⟨0, 0, .rests false now⟩, by decide +kernel,
      TakesTurns.of_canMoveAll (by decide) (by decide +kernel),
      by decide +kernel,
      by decide +kernel⟩
  exact ⟨only, .application _ _ _ _,
  by decide +kernel,
    by decide +kernel,
      by decide +kernel,
        by decide +kernel,
          by decide +kernel, by decide +kernel, stops, by decide +kernel,
    by decide +kernel, by decide +kernel⟩

end World

end Switchboard
