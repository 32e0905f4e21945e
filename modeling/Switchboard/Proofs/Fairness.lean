import Switchboard.Proofs.Calls
import Switchboard.Proofs.Draining

/-!
# No channel starves another

A cycle serves every channel once: it takes the first entry of the queue, or
finds that there is none.  It does so even if it ends in the panic of a session
over its number, since packets come last.  An entry that waits at a position of
its queue is therefore taken by the end of as many cycles and one more, whatever
waits on the other channels, and if nobody else serves a channel meanwhile, by
the last of them and not before.

There is one exception.  A stream may panic over a frame with a payload whose
destruction panics in its turn.  The cycle is left then before it has come to
the channels that remain, and these have lost a turn.
-/

namespace Switchboard

variable {σ κ ν : Type}

/-! ## The course of a cycle -/

/-- Whether a frame waits for a session. -/
def Frame.isAtSession : Frame κ → Bool
  | .receiving _ _ _ => true
  | .reporting _ _ _ _ => true
  | _ => false

/-- A thread serves a channel or routes an entry in the given cycle above the
stack `base`, or waits for a callback of it.  When it is about a packet no
channel remains. -/
inductive Cycle.Works (cycle : Cycle) (base : List (Frame κ)) :
    List (Frame κ) → Control → Prop
  | serves (part : cycle.remaining <:+ Channel.all) :
      Works cycle base base (.run (.cycle cycle))
  | routes (entry : Sequenced Item) (part : cycle.remaining <:+ Channel.all)
      (last : entry.item.channel = .packets → cycle.remaining = []) :
      Works cycle base base (.run (.route entry cycle))
  | calls (frame : Frame κ) {stack : List (Frame κ)} {control : Control}
      (waits : frame.cycle? = some cycle)
      (part : cycle.remaining <:+ Channel.all)
      (last : frame.isAtSession = true → cycle.remaining = [])
      (stands : frame :: base <:+ stack) : Works cycle base stack control

/-- All that a move can do for a cycle above the stack `base`: it returns from
it, it finds a queue empty, it takes the first entry of a queue, it is about an
entry that was taken before, or a panic leaves the cycle. -/
inductive Cycle.Advances (cycle : Cycle) (base : List (Frame κ))
    (shared : Shared σ ν) :
    List (Frame κ) → Control → Turn σ κ ν → Prop
  | returns (served : cycle.remaining = []) :
      Advances cycle base shared base (.run (.cycle cycle))
        (.run shared base cycle.next)
  | skips {channel : Channel} {remaining : List Channel}
      (next : cycle.remaining = channel :: remaining)
      (empty : shared.waiting channel = [])
      (works : (cycle.served remaining false).Works base base
        (.run (.cycle (cycle.served remaining false)))) :
      Advances cycle base shared base (.run (.cycle cycle))
        (.run shared base (.cycle (cycle.served remaining false)))
  | takes {channel : Channel} {remaining : List Channel}
      {entry : Sequenced Item} {dispatcher : Dispatcher}
      (next : cycle.remaining = channel :: remaining)
      (popped : shared.dispatcher.pop? channel = some (entry, dispatcher))
      (works : (cycle.served remaining true).Works base base
        (.run (.route entry (cycle.served remaining true)))) :
      Advances cycle base shared base (.run (.cycle cycle))
        (.run (({ shared with dispatcher := dispatcher }).record
          (.drained entry)) base (.route entry (cycle.served remaining true)))
  | goesOn {stack : List (Frame κ)} {control : Control} {turn : Turn σ κ ν}
      (busy : stack ≠ base ∨ ∃ entry, control = .run (.route entry cycle))
      (works : cycle.Works base turn.stack turn.control) :
      Advances cycle base shared stack control turn
  | escapes {stack : List (Frame κ)} {control : Control} {turn : Turn σ κ ν}
      (escapes : Escapes base stack control turn) :
      Advances cycle base shared stack control turn

/-- The channels that a cycle has not come to when a panic over a frame arrives
at it. -/
def Control.unserved (stack : List (Frame κ)) : Control → List Channel
  | .raise _ =>
      match stack with
      | .sending _ _ _ cycle :: _ => cycle.remaining
      | _ => []
  | _ => []

namespace Cycle

variable {cycle : Cycle} {base stack : List (Frame κ)} {control : Control}

/-- What others do, and what happens to others, leaves a cycle as it is. -/
theorem Works.of_others {client : Client σ κ ν} {world : World σ κ ν}
    {self : ThreadId} {thread later : Thread κ} {occurrence : Occurrence κ}
    (works : cycle.Works base thread.stack thread.control) (fits : thread.Fits)
    (changes : thread.Changes client world self occurrence later)
    (others : occurrence ≠ .step self) :
    cycle.Works base later.stack later.control := by
  rcases thread with ⟨role, stack, control⟩
  cases works with
  | serves part =>
      cases changes.eq_of_run rfl ⟨rfl, rfl⟩ others
      exact .serves part
  | routes entry part last =>
      cases changes.eq_of_run rfl ⟨rfl, rfl⟩ others
      exact .routes entry part last
  | calls frame waits part last stands =>
      exact .calls frame waits part last
        (changes.suffix_of_others fits stands others)

/-- The packets are served last. -/
theorem remaining_of_packets {remaining : List Channel}
    (part : Channel.packets :: remaining <:+ Channel.all) : remaining = [] := by
  rw [Channel.all, List.suffix_cons_iff, List.suffix_cons_iff,
    List.suffix_cons_iff] at part
  rcases part with same | same | same | none
  · cases same
  · cases same
  · exact (List.cons.inj same).2
  · exact absurd (List.suffix_nil.mp none) (List.cons_ne_nil _ _)

end Cycle

namespace Shared

variable {cycle : Cycle}

theorem serve_advances {shared : Shared σ ν} (order : shared.InOrder)
    (base : List (Frame κ)) (part : cycle.remaining <:+ Channel.all) :
    cycle.Advances base shared base (.run (.cycle cycle))
      (shared.serve base cycle) := by
  simp only [serve]
  split
  · rename_i served
    exact .returns served
  · rename_i channel remaining next
    rw [next] at part
    have rest : remaining <:+ Channel.all := (List.suffix_cons _ _).trans part
    split
    · rename_i absent
      have none :=
        (Queue.pop?_eq_none_iff _).mp (Option.map_eq_none_iff.mp absent)
      exact .skips next (List.eq_nil_of_length_eq_zero none) (.serves rest)
    · rename_i entry dispatcher popped
      refine .takes next popped (.routes entry rest fun packet => ?_)
      rw [(order.pop popped).1] at packet
      exact Cycle.remaining_of_packets (packet ▸ part)

theorem route_works (shared : Shared σ ν) (alive : SessionHandle → Bool)
    (base : List (Frame κ)) (entry : Sequenced Item)
    (part : cycle.remaining <:+ Channel.all)
    (last : entry.item.channel = .packets → cycle.remaining = []) :
    let turn := shared.route alive base entry cycle
    cycle.Works base turn.stack turn.control := by
  simp only [route]
  split
  · split
    · exact .calls (.sending _ _ _ cycle) rfl part Bool.noConfusion
        List.suffix_rfl
    · exact .serves part
  · rename_i session data packet
    have served : cycle.remaining = [] := last (congrArg Item.channel packet)
    split
    · exact .calls (.receiving _ _ cycle) rfl part
        (fun _ => served) List.suffix_rfl
    · exact .serves part

theorem deliver_advances (client : Client σ κ ν) (shared : Shared σ ν)
    (base : List (Frame κ)) {control : Control} {frame : Frame κ}
    (waits : frame.cycle? = some cycle) (part : cycle.remaining <:+ Channel.all)
    (last : frame.isAtSession = true → cycle.remaining = [])
    (arrives : (∃ reply, control = .reply reply) ∨
      ∃ payload, control = .raise payload)
    (tells : shared.Tells (frame :: base) control) :
    cycle.Advances base shared (frame :: base) control
      (shared.deliver client base control frame) := by
  have busy : frame :: base ≠ base ∨
      ∃ entry, control = .run (.route entry cycle) :=
    .inl (List.cons_ne_self frame base)
  cases frame with
  | sending seq kind streamId waiting =>
      cases waits
      obtain ⟨reply, rfl⟩ | ⟨payload, rfl⟩ := arrives
      · exact .goesOn busy (.serves part)
      · obtain ⟨_, goes⟩ | ⟨next, destroyed, leaves⟩ :=
          cycle.afterLoss_cases payload
        · refine .goesOn busy ?_
          change cycle.Works base base (cycle.afterLoss payload)
          rw [goes]
          exact .serves part
        · exact .escapes (.frame seq kind streamId cycle destroyed rfl leaves
            List.mem_cons_self)
  | receiving seq session waiting =>
      cases waits
      obtain ⟨reply, rfl⟩ | ⟨payload, rfl⟩ := arrives
      · exact .goesOn busy (.serves part)
      · exact .goesOn busy
          (.calls (.reporting seq session payload cycle) rfl part last
            List.suffix_rfl)
  | reporting seq session lost waiting =>
      cases waits
      obtain ⟨reply, rfl⟩ | ⟨payload, rfl⟩ := arrives
      · obtain ⟨_, goes⟩ | ⟨next, destroyed, leaves⟩ :=
          cycle.afterLoss_cases lost
        · refine .goesOn busy ?_
          change cycle.Works base base (cycle.afterLoss lost)
          rw [goes]
          exact .serves part
        · exact .escapes (.packet seq session cycle reply destroyed rfl leaves
            List.mem_cons_self)
      · exact .escapes (.number seq session lost cycle payload rfl rfl
          (tells payload seq session lost cycle base rfl rfl))
  | _ => cases waits

/-- All that a move can do for a cycle. -/
theorem move_advances (client : Client σ κ ν) {shared : Shared σ ν}
    (around : Surroundings) {base stack : List (Frame κ)} {control : Control}
    (fits : control.Fits stack) (tells : shared.Tells stack control)
    (order : shared.InOrder) (works : cycle.Works base stack control) :
    cycle.Advances base shared stack control
      (shared.move client around stack control) := by
  cases works with
  | serves part => exact serve_advances order base part
  | routes entry part last =>
      exact .goesOn (.inr ⟨entry, rfl⟩)
        (shared.route_works _ base entry part last)
  | calls frame waits part last stands =>
      rcases shared.move_suffix client around stands with
        stays | ⟨top, arrives, delivers⟩
      · refine .goesOn (.inl ?_) (.calls frame waits part last stays)
        rintro rfl
        exact Call.not_suffix_self stands
      · -- What arrives at the frame is for the cycle itself.
        subst top
        rw [delivers]
        have own : ∀ callback state, frame ≠ .client callback state := by
          rintro callback state rfl
          cases waits
        exact shared.deliver_advances client base waits part last
          (fits.arrives arrives own) tells

end Shared

/-! ## What leaves the queues -/

theorem Shared.drainings_of_drained (shared : Shared σ ν)
    (entry : Sequenced Item) (dispatcher : Dispatcher) (channel : Channel) :
    (({ shared with dispatcher := dispatcher }).record
      (.drained entry)).drainings channel =
      shared.drainings channel ++ if entry.item.channel = channel then
        [entry] else [] := by
  simp only [drainings, record, List.filterMap_cons, Happening.drained?,
    List.reverse_cons, List.filter_append, List.filter_singleton,
    Bool.cond_decide]

/-- Only the service of a channel takes entries from the queues. -/
theorem Handles.drainings_eq {client : Client σ κ ν} {shared : Shared σ ν}
    {around : Surroundings} {stack : List (Frame κ)} {control : Control}
    {turn : Turn σ κ ν}
    (handles : Handles client shared around stack control turn)
    (unserved : ∀ cycle, control ≠ .run (.cycle cycle)) (channel : Channel) :
    turn.shared.drainings channel = shared.drainings channel := by
  have played (before : Shared σ ν) (stack : List (Frame κ))
      (callback : Callback) (turn : ClientTurn σ κ ν) :
      (before.clientMove stack (some callback) turn).shared.drainings channel =
        before.drainings channel := by
    have noted := (before.noting_sameItems turn).drainings channel
    refine before.clientMove_cases stack callback turn
      (motive :=
        fun moved => moved.shared.drainings channel = before.drainings channel)
          ?_ ?_ ?_
    · exact fun request next => noted
    · exact fun reply => noted
    · exact fun payload => noted
  cases handles with
  | aside before turns => exact turns.same.drainings channel
  | pushes stack item => rfl
  | drains stack next popped => exact absurd rfl (unserved _)
  | routes stack entry cycle =>
      simp only [Shared.route]
      split
      · split <;> rfl
      · split <;> rfl
  | @calls stack callback fits =>
      exact played (shared.record (.called callback)) stack callback _
  | resumes state response before fits => exact played _ _ _ _
  | sent | lost | received | refused => rfl

namespace World

variable {client : Client σ κ ν} {world : World σ κ ν}
  {run : List (Occurrence κ)}

/-- How many entries have left the queue of a channel up to a moment of a
run. -/
def gone (client : Client σ κ ν) (world : World σ κ ν)
    (run : List (Occurrence κ)) (channel : Channel) (moment : Nat) : Nat :=
  ((world.upTo client run moment).shared.drainings channel).length

/-- How many entries were submitted on a channel up to a moment of a run. -/
def come (client : Client σ κ ν) (world : World σ κ ν)
    (run : List (Occurrence κ)) (channel : Channel) (moment : Nat) : Nat :=
  ((world.upTo client run moment).shared.submissions channel).length

theorem drainings_prefix_upTo (allowed : world.allowsAll client run = true)
    {earlier later : Nat} (order : earlier ≤ later) (channel : Channel) :
    (world.upTo client run earlier).shared.drainings channel <+:
      (world.upTo client run later).shared.drainings channel :=
  (List.reverse_prefix.mpr ((journal_upTo allowed order).filterMap _)).filter _

theorem gone_mono (allowed : world.allowsAll client run = true)
    {earlier later : Nat} (order : earlier ≤ later) (channel : Channel) :
    world.gone client run channel earlier ≤
      world.gone client run channel later :=
  (drainings_prefix_upTo allowed order channel).length_le

theorem come_mono (allowed : world.allowsAll client run = true)
    {earlier later : Nat} (order : earlier ≤ later) (channel : Channel) :
    world.come client run channel earlier ≤
      world.come client run channel later :=
  (Shared.submissions_prefix (journal_upTo allowed order) channel).length_le

theorem come_eq (reachable : Reachable client world)
    (allowed : world.allowsAll client run = true) (channel : Channel)
    (moment : Nat) :
    world.come client run channel moment =
      world.gone client run channel moment +
      ((world.upTo client run moment).shared.waiting channel).length := by
  rw [come, gone, (reachable.upTo allowed moment).inOrder channel,
    List.length_append]

/-- An entry that waits stays at its place among all that are ever submitted. -/
theorem submissions_of_waiting (reachable : Reachable client world)
    (allowed : world.allowsAll client run = true) {earlier later : Nat}
    (order : earlier ≤ later) {channel : Channel} {position : Nat}
    {entry : Sequenced Item}
    (waits : ((world.upTo client run earlier).shared.waiting
      channel)[position]? = some entry) :
    ((world.upTo client run later).shared.submissions channel)[
      world.gone client run channel earlier + position]? = some entry := by
  rcases Shared.submissions_prefix (journal_upTo allowed order) channel with
    ⟨since, more⟩
  have before := (reachable.upTo allowed earlier).inOrder channel
  have stood : ((world.upTo client run earlier).shared.submissions channel)[
      world.gone client run channel earlier + position]? = some entry := by
    rw [before, gone, List.getElem?_append_right (Nat.le_add_right _ _),
      Nat.add_sub_cancel_left]
    exact waits
  rw [← more, List.getElem?_append_left (List.getElem?_eq_some_iff.mp stood).1]
  exact stood

/-- An entry that waits has left its queue once as many entries have left it as
were ahead of it, and one more; until then it waits behind those that are left
of them. -/
theorem waits_or_left (reachable : Reachable client world)
    (allowed : world.allowsAll client run = true) {earlier later : Nat}
    (order : earlier ≤ later) {channel : Channel} {position : Nat}
    {entry : Sequenced Item}
    (waits : ((world.upTo client run earlier).shared.waiting
      channel)[position]? = some entry) :
    (world.gone client run channel earlier + position <
      world.gone client run channel later →
        ((world.upTo client run later).shared.drainings channel)[
          world.gone client run channel earlier + position]? = some entry) ∧
      (world.gone client run channel later ≤
        world.gone client run channel earlier + position →
        ((world.upTo client run later).shared.waiting channel)[
          world.gone client run channel earlier + position -
            world.gone client run channel later]? = some entry) := by
  have stands := submissions_of_waiting reachable allowed order waits
  rw [(reachable.upTo allowed later).inOrder channel] at stands
  constructor
  · intro left
    rwa [List.getElem?_append_left left] at stands
  · intro stays
    rwa [List.getElem?_append_right stays] at stands

/-- Whoever does not serve a channel takes nothing from the queues. -/
theorem drainings_succ (reachable : Reachable client world)
    (allowed : world.allowsAll client run = true) {moment : Nat}
    (inside : moment < run.length) (unserved : ∀ self stack cycle,
      ¬ world.TakesAt client run self moment stack (.run (.cycle cycle)))
        (channel : Channel) :
    (world.upTo client run (moment + 1)).shared.drainings channel =
      (world.upTo client run moment).shared.drainings channel := by
  have next : run[moment]? = some run[moment] := List.getElem?_eq_getElem inside
  have becomes :=
    after_becomes client ((allowsAll_take allowed moment).2 _ next)
  rw [upTo_succ next]
  generalize run[moment] = occurrence at next becomes
  cases occurrence with
  | step self =>
      cases found : (world.upTo client run moment).threads[self]? with
      | none =>
          simp only [after, step, found]
      | some thread =>
          have fits :=
            (reachable.upTo allowed moment).fits thread
              (List.mem_of_getElem? found)
          have handles :=
            (world.upTo client run moment).shared.move_handles client
              ((world.upTo client run moment).surroundings self) fits
          simp only [after]
          rw [(step_self client found).1]
          refine handles.drainings_eq (fun cycle runs => ?_) channel
          exact unserved self thread.stack cycle
            ⟨next, thread.role, found.trans (by rw [← runs])⟩
  | _ => exact (becomes.sameItems fun _ same => by cases same).drainings channel

end World

/-! ## Rounds -/

/-- A cycle leaves its thread's stack: it returns, or a panic leaves it. -/
def Leaves (after : AfterCycle) (base stack : List (Frame κ))
    (control : Control) (turn : Turn σ κ ν) : Prop :=
  Returns after base stack control turn ∨ Escapes base stack control turn

/-- A cycle of a run: the thread whose cycle it is, the stack above which it
works, what comes after it, the moment at which it is about to begin, and the
moment of its last step. -/
structure Round (κ : Type) where
  self : ThreadId
  base : List (Frame κ)
  after : AfterCycle
  began : Nat
  ended : Nat

namespace Round

/-- A cycle begins, and it ends with the first step by which it is left. -/
structure Runs (round : Round κ) (client : Client σ κ ν) (world : World σ κ ν)
    (run : List (Occurrence κ)) : Prop where
  begins : ∃ role, (world.upTo client run round.began).threads[round.self]? =
    some ⟨role, round.base, .run (.cycle (.fresh round.after))⟩
  order : round.began ≤ round.ended
  works : ∀ moment, round.began ≤ moment → moment < round.ended →
    ¬ world.StepsAt client run round.self moment (Leaves round.after round.base)
  leaves : world.StepsAt client run round.self round.ended
    (Leaves round.after round.base)

/-- The channels that a cycle has not come to when it is left.  There are none,
unless the panic of a stream over a frame is followed by that of the payload
that is destroyed. -/
def unserved (round : Round κ) (client : Client σ κ ν) (world : World σ κ ν)
    (run : List (Occurrence κ)) : List Channel :=
  match (world.upTo client run round.ended).threads[round.self]? with
  | some thread => thread.control.unserved thread.stack
  | none => []

variable {client : Client σ κ ν} {world : World σ κ ν}
  {run : List (Occurrence κ)} {round : Round κ}

/-- What a moment does to a cycle: its thread finds a queue empty, takes the
first entry of a queue and goes on to route it, or serves no channel. -/
inductive Does (round : Round κ) (client : Client σ κ ν) (world : World σ κ ν)
    (run : List (Occurrence κ)) (moment : Nat) (cycle : Cycle) : Cycle → Prop
  | skips {channel : Channel} {remaining : List Channel}
      (serves : world.TakesAt client run round.self moment round.base
        (.run (.cycle cycle)))
      (next : cycle.remaining = channel :: remaining)
      (empty : (world.upTo client run moment).shared.waiting channel = [])
      (same :
        ∀ other, (world.upTo client run (moment + 1)).shared.drainings other =
        (world.upTo client run moment).shared.drainings other) :
      Does round client world run moment cycle (cycle.served remaining false)
  | takes {channel : Channel} {remaining : List Channel}
      {entry : Sequenced Item} {role : Role}
      (serves : world.TakesAt client run round.self moment round.base
        (.run (.cycle cycle)))
      (next : cycle.remaining = channel :: remaining)
      (first : ((world.upTo client run moment).shared.waiting channel).head? =
        some entry)
      (left :
        ∀ other, (world.upTo client run (moment + 1)).shared.drainings other =
        (world.upTo client run moment).shared.drainings other ++
          if channel = other then [entry] else [])
      (routes : (world.upTo client run (moment + 1)).threads[round.self]? =
        some ⟨role, round.base,
          .run (.route entry (cycle.served remaining true))⟩) :
      Does round client world run moment cycle (cycle.served remaining true)
  | waits
      (unserved : ∀ other,
        ¬ world.TakesAt client run round.self moment round.base
          (.run (.cycle other))) :
      Does round client world run moment cycle cycle

/-- A thread works in a cycle at a moment of a run. -/
def WorksAt (round : Round κ) (client : Client σ κ ν) (world : World σ κ ν)
    (run : List (Occurrence κ)) (moment : Nat) (cycle : Cycle) : Prop :=
  cycle.after = round.after ∧
    ∃ thread, (world.upTo client run moment).threads[round.self]? =
      some thread ∧
      cycle.Works round.base thread.stack thread.control

theorem WorksAt.part {moment : Nat} {cycle : Cycle}
    (works : round.WorksAt client world run moment cycle) :
    cycle.remaining <:+ Channel.all := by
  rcases works with ⟨_, ⟨role, stack, control⟩, _, works⟩
  cases works with
  | serves part => exact part
  | routes entry part last => exact part
  | calls frame waits part last stands => exact part

/-- The channels that remain when a cycle is left are those that it has not come
to. -/
theorem WorksAt.left {cycle : Cycle}
    (works : round.WorksAt client world run round.ended cycle)
    (leaves : world.StepsAt client run round.self round.ended
      (Leaves round.after round.base)) :
    cycle.remaining = round.unserved client world run := by
  rcases works with ⟨_, ⟨role, stack, control⟩, found, works⟩
  rcases leaves with ⟨_, thread, found', left⟩
  cases found.symm.trans found'
  simp only [unserved, found]
  rcases left with ⟨other, _, served, stands, runs, _⟩ | escapes
  · dsimp only at stands runs
    subst stands runs
    cases works with
    | serves part => exact served
    | calls frame waits part last stands =>
        exact absurd stands Call.not_suffix_self
  · dsimp only at escapes works
    generalize round.base = base at works escapes
    cases works with
    | serves part | routes entry part last =>
        exact absurd rfl (escapes.arrives _)
    | calls frame waits part last stands =>
        cases escapes with
        | number | packet =>
            cases stands.eq_of_length rfl
            cases waits
            exact last rfl
        | frame =>
            cases stands.eq_of_length rfl
            cases waits
            rfl

/-- As long as a cycle is not left its thread works in it. -/
theorem WorksAt.next (reachable : Reachable client world)
    (allowed : world.allowsAll client run = true) {moment : Nat}
    (inside : moment < run.length) {cycle : Cycle}
    (works : round.WorksAt client world run moment cycle)
    (stays : ¬ world.StepsAt client run round.self moment
      (Leaves round.after round.base)) :
    ∃ next, round.WorksAt client world run (moment + 1) next ∧
      round.Does client world run moment cycle next := by
  rcases works with ⟨same, ⟨role, stack, control⟩, found, works⟩
  have reached := reachable.upTo allowed moment
  have fits := reached.fits _ (List.mem_of_getElem? found)
  by_cases steps : run[moment]? = some (.step round.self)
  · have takes : world.TakesAt client run round.self moment stack control :=
      ⟨steps, role, found⟩
    have leaves := fun left => stays ⟨steps, _, found, left⟩
    have moved := World.steps_at steps found
    have advances := Shared.move_advances client
      ((world.upTo client run moment).surroundings round.self) fits
      (reached.tells _ (List.mem_of_getElem? found)) reached.inOrder works
    dsimp only at moved leaves
    generalize (world.upTo client run moment).shared.move client _ stack
      control = turn
      at moved advances leaves
    cases advances with
    | returns served =>
        exact absurd (.inl ⟨cycle, same, served, rfl, rfl, rfl, rfl⟩) leaves
    | skips next empty worked =>
        refine ⟨cycle.served _ false, ⟨same, _, moved.2, worked⟩,
          .skips takes next empty fun other => ?_⟩
        rw [moved.1]
        rfl
    | takes next popped worked =>
        refine ⟨cycle.served _ true, ⟨same, _, moved.2, worked⟩,
          .takes takes next ?_ (fun other => ?_) moved.2⟩
        · rw [(Shared.waiting_of_pop popped).1]
          rfl
        · rw [moved.1, ← (reached.inOrder.pop popped).1]
          exact Shared.drainings_of_drained _ _ _ other
    | goesOn busy worked =>
        refine ⟨cycle, ⟨same, _, moved.2, worked⟩, .waits ?_⟩
        rintro other ⟨_, role', found'⟩
        cases found.symm.trans found'
        obtain differs | ⟨entry, routes⟩ := busy
        · exact differs rfl
        · cases routes
    | escapes escapes => exact absurd (.inr escapes) leaves
  · rcases World.changes_at allowed inside found with ⟨later, found', changes⟩
    have next : run[moment]? = some run[moment] :=
      List.getElem?_eq_getElem inside
    have others : run[moment] ≠ .step round.self :=
      fun same => steps (same ▸ next)
    exact ⟨cycle, ⟨same, later, found', works.of_others fits changes others⟩,
      .waits fun other takes => steps takes.1⟩

section

variable (reachable : Reachable client world)
  (allowed : world.allowsAll client run = true)
  (runs : round.Runs client world run)
include reachable allowed runs

/-- What holds of a cycle that begins, and is kept by all that its moments do to
it, holds of it up to its last step. -/
theorem Runs.induct {motive : Nat → Cycle → Prop}
    (first : motive round.began (.fresh round.after))
    (step : ∀ moment cycle next, round.began ≤ moment → moment < round.ended →
      moment < run.length → motive moment cycle →
        cycle.remaining <:+ Channel.all →
      round.Does client world run moment cycle next → motive (moment + 1) next)
    {moment : Nat} (begun : round.began ≤ moment)
    (going : moment ≤ round.ended) :
    ∃ cycle, round.WorksAt client world run moment cycle ∧
      motive moment cycle := by
  have last := (List.getElem?_eq_some_iff.mp runs.leaves.1).1
  induction begun with
  | refl =>
      rcases runs.begins with ⟨role, found⟩
      exact ⟨_, ⟨rfl, _, found, .serves List.suffix_rfl⟩, first⟩
  | @step moment begun inductionHypothesis =>
      rcases inductionHypothesis (Nat.le_of_succ_le going) with
        ⟨cycle, works, held⟩
      have inside : moment < run.length := Nat.lt_trans going last
      rcases works.next reachable allowed inside
        (runs.works moment begun going) with
        ⟨next, works', does⟩
      refine ⟨next, works',
        step moment cycle next begun going inside held ?_ does⟩
      exact works.part

/-- From every channel that it comes to a cycle takes an entry, unless none was
there when it began. -/
theorem Runs.gives {channel : Channel}
    (served : channel ∉ round.unserved client world run) :
    min (world.gone client run channel round.began + 1)
        (world.come client run channel round.began) ≤
      world.gone client run channel round.ended := by
  let holds (moment : Nat) (cycle : Cycle) : Prop :=
    round.began ≤ moment ∧ (channel ∉ cycle.remaining →
      min (world.gone client run channel round.began + 1)
          (world.come client run channel round.began) ≤
        world.gone client run channel moment)
  have kept := runs.induct reachable allowed (motive := holds)
    ⟨Nat.le_refl _, fun served => absurd channel.mem_all served⟩ ?_ runs.order
    (Nat.le_refl _)
  · rcases kept with ⟨cycle, works, _, gave⟩
    exact gave (works.left runs.leaves ▸ served)
  intro moment cycle next begun going inside held part does
  have later := World.gone_mono allowed (Nat.le_add_right moment 1) channel
  have before := World.gone_mono allowed begun channel
  refine ⟨Nat.le_succ_of_le begun, fun served => ?_⟩
  cases does with
  | waits unserved => exact Nat.le_trans (held.2 served) later
  | @skips other remaining serves next empty same =>
      by_cases mine : channel = other
      · subst mine
        have all := World.come_eq reachable allowed channel moment
        rw [empty, List.length_nil] at all
        have came := World.come_mono allowed begun channel
        omega
      · refine Nat.le_trans (held.2 fun waits => ?_) later
        rw [next] at waits
        exact (List.mem_cons.mp waits).elim mine served
  | @takes other remaining entry role serves next first left routes =>
      by_cases mine : channel = other
      · subst mine
        have more : world.gone client run channel (moment + 1) =
            world.gone client run channel moment + 1 := by
          rw [World.gone, left, if_pos rfl, List.length_append]
          rfl
        omega
      · refine Nat.le_trans (held.2 fun waits => ?_) later
        rw [next] at waits
        exact (List.mem_cons.mp waits).elim mine served

end

/-- A cycle takes an entry from the queue of a channel at one moment and routes
it at a later one. -/
structure Serves (round : Round κ) (client : Client σ κ ν) (world : World σ κ ν)
    (run : List (Occurrence κ)) (channel : Channel) (entry : Sequenced Item)
    (taken routed : Nat) : Prop where
  order : round.began ≤ taken ∧ taken < routed ∧ routed < round.ended
  takes : ∃ cycle,
    world.TakesAt client run round.self taken round.base (.run (.cycle cycle))
  left : (world.upTo client run (taken + 1)).shared.drainings channel =
    (world.upTo client run taken).shared.drainings channel ++ [entry]
  routes : ∃ cycle,
    world.TakesAt client run round.self routed round.base
      (.run (.route entry cycle))

/-- While a cycle works nobody but its own thread above its own stack serves a
channel. -/
def IsAlone (round : Round κ) (client : Client σ κ ν) (world : World σ κ ν)
    (run : List (Occurrence κ)) : Prop :=
  ∀ moment self stack cycle, round.began ≤ moment → moment ≤ round.ended →
    world.TakesAt client run self moment stack (.run (.cycle cycle)) →
    self = round.self ∧ stack = round.base

/-- An entry that a cycle has taken is routed before the cycle is left. -/
theorem Runs.routes (allowed : world.allowsAll client run = true)
    (runs : round.Runs client world run) {moment : Nat}
    (inside : moment ≤ round.ended) {role : Role}
    {entry : Sequenced Item} {cycle : Cycle}
    (routes : (world.upTo client run moment).threads[round.self]? =
      some ⟨role, round.base, .run (.route entry cycle)⟩) :
    ∃ routed, moment ≤ routed ∧ routed < round.ended ∧
      world.TakesAt client run round.self routed round.base
        (.run (.route entry cycle)) := by
  have last := (List.getElem?_eq_some_iff.mp runs.leaves.1).1
  by_contra unrouted
  -- The thread stands there to the end, and that is no place from which a cycle
  -- is left.
  have stands : (world.upTo client run round.ended).threads[round.self]? =
      some ⟨role, round.base, .run (.route entry cycle)⟩ := by
    suffices ∀ later, moment ≤ later → later ≤ round.ended →
        (world.upTo client run later).threads[round.self]? =
          some ⟨role, round.base, .run (.route entry cycle)⟩ from
      this round.ended inside (Nat.le_refl _)
    intro later after
    induction after with
    | refl => exact fun _ => routes
    | @step later after inductionHypothesis =>
        intro before
        have found := inductionHypothesis (Nat.le_of_succ_le before)
        have inside : later < run.length := Nat.lt_trans before last
        rcases World.changes_at allowed inside found with
          ⟨next, found', changes⟩
        rcases changes.of_run rfl ⟨rfl, rfl⟩ with rfl | ⟨steps, _⟩
        · exact found'
        · exact absurd
            ⟨later, after, before, steps ▸ List.getElem?_eq_getElem inside,
              role, found⟩ unrouted
  rcases runs.leaves with ⟨_, thread, found, left⟩
  cases stands.symm.trans found
  rcases left with ⟨_, _, _, _, route, _⟩ | escapes
  · cases route
  · exact escapes.arrives _ rfl

section

variable (reachable : Reachable client world)
  (allowed : world.allowsAll client run = true)
  (runs : round.Runs client world run)
include reachable allowed runs

/-- A cycle that nobody disturbs takes one entry of a channel at most.  It takes
none if it does not come to the channel, and otherwise only if none was there
when it began. -/
theorem Runs.serves (alone : round.IsAlone client world run)
    (channel : Channel) :
    let before := (world.upTo client run round.began).shared
    let after := (world.upTo client run round.ended).shared
    (channel ∈ round.unserved client world run →
        after.drainings channel = before.drainings channel) ∧
      (channel ∉ round.unserved client world run →
        (before.waiting channel = [] ∧
            after.drainings channel = before.drainings channel) ∨
          ∃ entry taken routed,
            round.Serves client world run channel entry taken routed ∧
            after.drainings channel = before.drainings channel ++ [entry]) := by
  intro before after
  let holds (moment : Nat) (cycle : Cycle) : Prop :=
    let now := (world.upTo client run moment).shared
    round.began ≤ moment ∧
      (channel ∈ cycle.remaining →
        now.drainings channel = before.drainings channel) ∧
        (channel ∉ cycle.remaining →
          (before.waiting channel = [] ∧
            now.drainings channel = before.drainings channel) ∨
            ∃ entry taken routed,
              round.Serves client world run channel entry taken routed ∧
              now.drainings channel = before.drainings channel ++ [entry])
  have kept := runs.induct reachable allowed (motive := holds)
    ⟨Nat.le_refl _, fun _ => rfl, fun served => absurd channel.mem_all served⟩
      ?_ runs.order
    (Nat.le_refl _)
  · rcases kept with ⟨cycle, works, _, held⟩
    rw [works.left runs.leaves] at held
    exact held
  intro moment cycle next begun going inside held part does
  have distinct : cycle.remaining.Nodup := part.sublist.nodup (by decide)
  have aside {other : Channel} {remaining : List Channel}
      (differs : channel ≠ other) (next : cycle.remaining = other :: remaining)
      {gave : Bool}
      (same : (world.upTo client run (moment + 1)).shared.drainings channel =
        (world.upTo client run moment).shared.drainings channel) :
      holds (moment + 1) (cycle.served remaining gave) := by
    have iff : channel ∈ cycle.remaining ↔ channel ∈ remaining := by
      rw [next, List.mem_cons, or_iff_right differs]
    refine ⟨Nat.le_succ_of_le begun, fun waits => ?_, fun served => ?_⟩
    · exact same.trans (held.2.1 (iff.mpr waits))
    · rw [same]
      exact held.2.2 fun waits => served (iff.mp waits)
  cases does with
  | waits unserved =>
      have same :=
        World.drainings_succ reachable allowed inside
          (fun self stack other takes => by
        rcases alone moment self stack other begun
          (Nat.le_of_lt going) takes with ⟨rfl, rfl⟩
        exact unserved other takes) channel
      refine ⟨Nat.le_succ_of_le begun, ?_⟩
      rw [same]
      exact held.2
  | @skips other remaining serves next empty same =>
      by_cases mine : channel = other
      · subst mine
        rw [next, List.nodup_cons] at distinct
        have unchanged := held.2.1 (next ▸ List.mem_cons_self)
        refine ⟨Nat.le_succ_of_le begun, fun waits => absurd waits distinct.1,
          fun _ => .inl ⟨?_, (same channel).trans unchanged⟩⟩
        -- All that was submitted by then had left before the cycle began.
        have order := (reachable.upTo allowed moment).inOrder channel
        have order' := (reachable.upTo allowed round.began).inOrder channel
        have came :=
          Shared.submissions_prefix (World.journal_upTo allowed begun) channel
        rw [order, order', empty, unchanged, List.append_nil] at came
        have same :=
          came.eq_of_length_le (List.length_append ▸ Nat.le_add_right _ _)
        exact List.append_right_eq_self.mp same
      · exact aside mine next (same channel)
  | @takes other remaining entry role serves next first left routes =>
      have leaves := left channel
      by_cases mine : channel = other
      · subst mine
        rw [next, List.nodup_cons] at distinct
        rw [if_pos rfl] at leaves
        have unchanged := held.2.1 (next ▸ List.mem_cons_self)
        rcases runs.routes allowed going routes with
          ⟨routed, after, before, routes⟩
        refine ⟨Nat.le_succ_of_le begun, fun waits => absurd waits distinct.1,
          fun _ => .inr ⟨entry, moment, routed,
            ⟨⟨begun, after, before⟩, ⟨cycle, serves⟩, leaves, ⟨_, routes⟩⟩, ?_⟩⟩
        rw [leaves, unchanged]
      · rw [if_neg (Ne.symm mine), List.append_nil] at leaves
        exact aside mine next leaves

end

/-- The last step of a cycle takes nothing from the queues. -/
theorem Runs.drainings_ended (reachable : Reachable client world)
    (allowed : world.allowsAll client run = true)
    (runs : round.Runs client world run) (channel : Channel) :
    (world.upTo client run (round.ended + 1)).shared.drainings channel =
      (world.upTo client run round.ended).shared.drainings channel := by
  rcases runs.leaves with ⟨steps, ⟨role, stack, control⟩, found, left⟩
  rcases left with ⟨cycle, _, served, stands, runs, _⟩ | escapes
  · rw [(World.steps_at steps found).1]
    dsimp only at runs
    simp only [runs, Shared.move, Shared.execute, Shared.serve, served]
    rfl
  · refine World.drainings_succ reachable allowed
      (List.getElem?_eq_some_iff.mp steps).1 ?_ channel
    rintro self stack' cycle ⟨steps', role', found'⟩
    cases steps.symm.trans steps'
    cases found.symm.trans found'
    exact escapes.arrives _ rfl

/-- A cycle comes to every channel, unless a stream panics over a frame with a
payload whose destruction panics. -/
theorem Runs.unserved_eq_nil (runs : round.Runs client world run)
    (harmless : ∀ kind streamId seq payload,
      .noticed (.streamPanicked kind streamId seq payload) ∈
          (world.upTo client run (round.ended + 1)).shared.journal →
        payload.aftermath? = none) :
    round.unserved client world run = [] := by
  rcases runs.leaves with ⟨steps, ⟨role, stack, control⟩, found, left⟩
  have moved := World.steps_at steps found
  simp only [unserved, found]
  rcases left with ⟨_, _, _, _, runs, _⟩ | escapes
  · dsimp only at runs
    rw [runs]
    rfl
  · dsimp only at escapes moved
    cases escapes with
    | number | packet => rfl
    | frame seq kind streamId cycle destroyed below leaves told =>
        rw [← moved.1] at told
        cases (harmless kind streamId seq _ told).symm.trans destroyed

end Round

/-! ## Rounds one after the other -/

/-- Cycles that begin one after the other has ended, up to the one with the
number `last`. -/
structure AreRounds (client : Client σ κ ν) (world : World σ κ ν)
    (run : List (Occurrence κ)) (round : Nat → Round κ) (last : Nat) :
    Prop where
  runs : ∀ number ≤ last, (round number).Runs client world run
  apart : ∀ number < last, (round number).ended < (round (number + 1)).began

/-- From the begin of the first of some cycles to the end of the last one nobody
serves a channel but these cycles. -/
structure AreAlone (client : Client σ κ ν) (world : World σ κ ν)
    (run : List (Occurrence κ)) (round : Nat → Round κ) (last : Nat) :
    Prop where
  within : ∀ number ≤ last, (round number).IsAlone client world run
  between : ∀ number < last, ∀ moment self stack cycle,
    (round number).ended < moment → moment < (round (number + 1)).began →
    ¬ world.TakesAt client run self moment stack (.run (.cycle cycle))

/-- How many of so many cycles have come to a channel. -/
def World.turns (client : Client σ κ ν) (world : World σ κ ν)
    (run : List (Occurrence κ)) (round : Nat → Round κ) (channel : Channel)
    (number : Nat) : Nat :=
  (List.range number).countP fun earlier =>
    channel ∉ (round earlier).unserved client world run

namespace World

variable {client : Client σ κ ν} {world : World σ κ ν}
  {run : List (Occurrence κ)} {round : Nat → Round κ} {channel : Channel}
  {number : Nat}

theorem turns_of_served
    (served : channel ∉ (round number).unserved client world run) :
    world.turns client run round channel (number + 1) =
      world.turns client run round channel number + 1 := by
  rw [turns, List.range_succ, List.countP_append, List.countP_singleton,
    if_pos (decide_eq_true served), ← turns]

theorem turns_of_unserved
    (unserved : channel ∈ (round number).unserved client world run) :
    world.turns client run round channel (number + 1) =
      world.turns client run round channel number := by
  rw [turns, List.range_succ, List.countP_append, List.countP_singleton,
    if_neg (by simpa using unserved), ← turns]
  rfl

end World

namespace AreRounds

variable {client : Client σ κ ν} {world : World σ κ ν}
  {run : List (Occurrence κ)} {round : Nat → Round κ} {last : Nat}
  (rounds : AreRounds client world run round last)
include rounds

theorem began_le {number : Nat} (inside : number ≤ last) :
    (round 0).began ≤ (round number).began := by
  induction number with
  | zero => exact Nat.le_refl _
  | succ number inductionHypothesis =>
      have before := inductionHypothesis (Nat.le_of_succ_le inside)
      have order := (rounds.runs number (Nat.le_of_succ_le inside)).order
      have apart := rounds.apart number inside
      omega

theorem ended_le {number : Nat} (inside : number ≤ last) :
    (round number).ended ≤ (round last).ended := by
  induction inside using Nat.decreasingInduction with
  | self => exact Nat.le_refl _
  | of_succ number before inductionHypothesis =>
      have order := (rounds.runs (number + 1) before).order
      have apart := rounds.apart number before
      omega

/-- So many cycles are so many turns of a channel, unless a stream panics over a
frame with a payload whose destruction panics. -/
theorem turns_eq (allowed : world.allowsAll client run = true)
    (harmless : ∀ kind streamId seq payload,
      .noticed (.streamPanicked kind streamId seq payload) ∈
          (world.upTo client run ((round last).ended + 1)).shared.journal →
        payload.aftermath? = none) {channel : Channel} :
    ∀ number ≤ last + 1,
      world.turns client run round channel number = number := by
  intro number inside
  induction number with
  | zero => rfl
  | succ number inductionHypothesis =>
      have within := Nat.le_of_succ_le_succ inside
      have order := Nat.succ_le_succ (rounds.ended_le within)
      have none :=
        (rounds.runs number within).unserved_eq_nil
          fun kind streamId seq payload told =>
        harmless kind streamId seq payload
          ((World.journal_upTo allowed order).subset told)
      rw [World.turns_of_served (none ▸ List.not_mem_nil),
        inductionHypothesis (Nat.le_of_succ_le inside)]

variable (reachable : Reachable client world)
  (allowed : world.allowsAll client run = true)
include reachable allowed

/-- By the end of some cycles as many entries have left a queue as cycles have
come to its channel, unless there were fewer. -/
theorem gives (channel : Channel) {number : Nat} (inside : number ≤ last) :
    min (world.gone client run channel (round 0).began +
          world.turns client run round channel (number + 1))
        (world.come client run channel (round 0).began) ≤
      world.gone client run channel (round number).ended := by
  have runs := rounds.runs number inside
  have stays := World.gone_mono allowed runs.order channel
  -- What had left by the begin of the last one of them.
  have before : min (world.gone client run channel (round 0).began +
        world.turns client run round channel number)
      (world.come client run channel (round 0).began) ≤
        world.gone client run channel (round number).began := by
    cases number with
    | zero => exact Nat.min_le_left _ _
    | succ number =>
        have given := gives channel (Nat.le_of_succ_le inside)
        have left :=
          World.gone_mono allowed
            (Nat.le_of_lt (rounds.apart number inside)) channel
        exact Nat.le_trans given left
  by_cases unserved : channel ∈ (round number).unserved client world run
  · rw [World.turns_of_unserved unserved]
    exact Nat.le_trans before stays
  · rw [World.turns_of_served unserved]
    have given := runs.gives reachable allowed unserved
    have came := World.come_mono allowed (rounds.began_le inside) channel
    omega

/-- Between two cycles of those that are alone nothing leaves the queues. -/
theorem drainings_between (alone : AreAlone client world run round last)
    (channel : Channel) {number : Nat} (inside : number < last) :
    (world.upTo client run (round (number + 1)).began).shared.drainings
      channel =
      (world.upTo client run (round number).ended).shared.drainings
        channel := by
  have runs := rounds.runs number (Nat.le_of_lt inside)
  have first := rounds.apart number inside
  have ends : (round (number + 1)).began < run.length := by
    have next := rounds.runs (number + 1) inside
    exact Nat.lt_of_le_of_lt next.order
      (List.getElem?_eq_some_iff.mp next.leaves.1).1
  suffices ∀ later, (round number).ended + 1 ≤ later →
    later ≤ (round (number + 1)).began →
      (world.upTo client run later).shared.drainings channel =
        (world.upTo client run (round number).ended).shared.drainings
          channel from
    this _ first (Nat.le_refl _)
  intro later after
  induction after with
  | refl => exact fun _ => runs.drainings_ended reachable allowed channel
  | @step later after inductionHypothesis =>
      intro before
      have same :=
        World.drainings_succ reachable allowed (Nat.lt_trans before ends)
          (fun self stack cycle => alone.between number inside later self stack
            cycle after before)
          channel
      exact same.trans (inductionHypothesis (Nat.le_of_succ_le before))

/-- Before a cycle of those that are alone no more entries have left a queue
than cycles have come to its channel. -/
theorem gone_le (alone : AreAlone client world run round last)
    (channel : Channel) {number : Nat} (inside : number ≤ last) :
    world.gone client run channel (round number).began ≤
      world.gone client run channel (round 0).began +
        world.turns client run round channel number := by
  induction number with
  | zero => exact Nat.le_add_right _ _
  | succ number inductionHypothesis =>
      have earlier := Nat.le_of_succ_le inside
      have before := inductionHypothesis earlier
      have same : world.gone client run channel (round (number + 1)).began =
          world.gone client run channel (round number).ended :=
        congrArg List.length
          (rounds.drainings_between reachable allowed alone channel inside)
      rcases (rounds.runs number earlier).serves reachable allowed
        (alone.within number earlier) channel with ⟨passes, serves⟩
      rw [same]
      by_cases unserved : channel ∈ (round number).unserved client world run
      · rw [World.turns_of_unserved unserved]
        exact Nat.le_trans
          (Nat.le_of_eq (congrArg List.length (passes unserved))) before
      · rw [World.turns_of_served unserved]
        refine Nat.le_trans ?_ (Nat.succ_le_succ before)
        rcases serves unserved with ⟨_, same⟩ | ⟨entry, _, _, _, left⟩
        · exact Nat.le_succ_of_le (Nat.le_of_eq (congrArg List.length same))
        · refine Nat.le_of_eq ((congrArg List.length left).trans ?_)
          rw [List.length_append]
          rfl

end AreRounds

variable {client : Client σ κ ν} {world : World σ κ ν}
  {run : List (Occurrence κ)}

/-- No channel starves another.  A cycle comes to every channel, unless a stream
panics over a frame with a payload whose destruction panics; so many cycles are
so many turns of each channel, those turns left out that such a panic has cut
off.  An entry that waits at a position of its queue when a cycle begins has
left the queue by the end of one turn more, whatever waits on the other
channels, whatever client code does meanwhile, and even if the panic of a
session ends some of these cycles.  If nobody but these cycles serves a channel
meanwhile, the entry has one entry less ahead of it after each turn, and the
turn in which none is ahead takes it from the queue and routes it. -/
theorem Reachable.serves_in_turn (reachable : Reachable client world)
    (allowed : world.allowsAll client run = true) {round : Nat → Round κ}
    {last position : Nat} (rounds : AreRounds client world run round last)
    {channel : Channel} {entry : Sequenced Item}
    (waits : ((world.upTo client run (round 0).began).shared.waiting
      channel)[position]? = some entry) :
    let now := world.upTo client run
    let place :=
      ((now (round 0).began).shared.drainings channel).length + position
    let turns := world.turns client run round channel
    ((∀ kind streamId seq payload,
        .noticed (.streamPanicked kind streamId seq payload) ∈
            (now ((round last).ended + 1)).shared.journal →
          payload.aftermath? = none) →
      ∀ number ≤ last + 1, turns number = number) ∧
    (position < turns (last + 1) →
      ((now (round last).ended).shared.drainings channel)[place]? =
        some entry) ∧
    (AreAlone client world run round last → ∀ number ≤ last,
      (turns number ≤ position →
        ((now (round number).began).shared.waiting channel)[position -
          turns number]? =
          some entry) ∧
      (turns number = position →
        channel ∉ (round number).unserved client world run →
        ∃ taken routed,
          (round number).Serves client world run channel entry taken
            routed)) := by
  intro now place turns
  have least : place < world.come client run channel (round 0).began := by
    rw [World.come_eq reachable allowed]
    exact Nat.add_lt_add_left (List.getElem?_eq_some_iff.mp waits).1 _
  have order {number : Nat} (inside : number ≤ last) := rounds.began_le inside
  have ends {number : Nat} (inside : number ≤ last) :=
    (rounds.runs number inside).order
  have ahead :
      place = world.gone client run channel (round 0).began + position := rfl
  refine ⟨fun harmless => rounds.turns_eq allowed harmless, fun enough => ?_,
    fun alone => ?_⟩
  · have given := rounds.gives reachable allowed channel (Nat.le_refl last)
    refine (World.waits_or_left reachable allowed
      ((order (Nat.le_refl _)).trans (ends (Nat.le_refl _))) waits).1 ?_
    change position < world.turns client run round channel (last + 1) at enough
    omega
  -- Each turn before that of the entry has taken an entry that was ahead.
  have gone {number : Nat} (inside : number ≤ last)
      (early : turns number ≤ position) :
      world.gone client run channel (round number).began =
        world.gone client run channel (round 0).began + turns number := by
    refine Nat.le_antisymm
      (rounds.gone_le reachable allowed alone channel inside) ?_
    cases number with
    | zero => exact Nat.le_refl _
    | succ number =>
        have given :=
          rounds.gives reachable allowed channel (Nat.le_of_succ_le inside)
        have later :=
          World.gone_mono allowed
            (Nat.le_of_lt (rounds.apart number inside)) channel
        change world.turns client run round channel (number + 1) ≤
          position at early
        change _ + world.turns client run round channel (number + 1) ≤ _
        omega
  have nears {number : Nat} (inside : number ≤ last)
      (early : turns number ≤ position) :
      ((now (round number).began).shared.waiting channel)[position -
        turns number]? =
        some entry := by
    have waiting :=
      (World.waits_or_left reachable allowed (order inside) waits).2
    rw [gone inside early, Nat.add_sub_add_left] at waiting
    exact waiting (Nat.add_le_add_left early _)
  refine fun number inside => ⟨nears inside, fun own served => ?_⟩
  have first := nears inside (Nat.le_of_eq own)
  rw [own, Nat.sub_self] at first
  rcases ((rounds.runs number inside).serves reachable allowed
    (alone.within number inside)
    channel).2 served with ⟨empty, _⟩ | ⟨other, taken, routed, serves, left⟩
  · rw [empty] at first
    cases first
  · -- The entry that it takes stands at the place of this one.
    have stands := (World.waits_or_left reachable allowed (ends inside) first).1
    rw [World.gone, World.gone, left, List.length_append, Nat.add_zero,
      List.getElem?_concat_length] at stands
    cases stands (Nat.lt_succ_self _)
    exact ⟨taken, routed, serves⟩

/-- Whether a thread stands where it may leave its cycle. -/
def Thread.mayLeave (thread : Thread κ) : Bool :=
  match thread.control, thread.stack with
  | .run (.cycle cycle), _ => cycle.remaining.isEmpty
  | .raise _, .sending _ _ _ _ :: _ => true
  | .raise _, .reporting _ _ _ _ :: _ => true
  | .reply _, .reporting _ _ _ _ :: _ => true
  | _, _ => false

theorem Leaves.mayLeave {after : AfterCycle} {base : List (Frame κ)}
    {thread : Thread κ} {turn : Turn σ κ ν}
    (leaves : Leaves after base thread.stack thread.control turn) :
    thread.mayLeave = true := by
  rcases thread with ⟨role, stack, control⟩
  obtain ⟨cycle, _, served, _, runs, _⟩ | escapes := leaves
  · dsimp only at runs
    subst runs
    simp only [Thread.mayLeave, served, List.isEmpty_nil]
  · cases escapes <;> rfl

/-- A cycle that is given by two moments of a run, if its thread stands at the
begin of a cycle at the first one, and leaves it at the second one for the first
time. -/
theorem Round.Runs.of_mayLeave {round : Round κ}
    (begins : ∃ role, (world.upTo client run round.began).threads[round.self]? =
      some ⟨role, round.base, .run (.cycle (.fresh round.after))⟩)
    (order : round.began ≤ round.ended)
    (stays : ∀ moment < round.ended, round.began ≤ moment →
      ((world.upTo client run moment).threads[round.self]?).any
        Thread.mayLeave = false)
    (leaves : world.StepsAt client run round.self round.ended
      (Leaves round.after round.base)) :
    round.Runs client world run where
  begins := begins
  order := order
  works := by
    rintro moment begun going ⟨_, thread, found, leaves⟩
    have stays := (congrArg (Option.any Thread.mayLeave) found).symm.trans
      (stays moment going begun)
    cases leaves.mayLeave.symm.trans stays
  leaves := leaves

/-- The panic of a session whose number is wanted leaves the cycle. -/
theorem Reachable.leaves_of_number (reachable : Reachable client world)
    (allowed : world.allowsAll client run = true) {self : ThreadId}
    {moment : Nat} {role : Role} {base : List (Frame κ)} {seq : UInt64}
    {session : SessionHandle} {lost payload : Payload} {cycle : Cycle}
    (after : AfterCycle) (steps : run[moment]? = some (.step self))
    (found : (world.upTo client run moment).threads[self]? =
      some ⟨role, .reporting seq session lost cycle :: base, .raise payload⟩) :
    world.StepsAt client run self moment (Leaves after base) :=
  have told :=
    (reachable.upTo allowed moment).tells _ (List.mem_of_getElem? found)
  ⟨steps, _, found, .inr (.number seq session lost cycle payload rfl rfl
    (told payload seq session lost cycle base rfl rfl))⟩

/-- The panic of a payload over whose frame a stream has panicked leaves the
cycle. -/
theorem World.leaves_of_destruction {self : ThreadId} {moment : Nat}
    {role : Role} {base : List (Frame κ)} {seq : UInt64} {kind : MediaKind}
    {streamId : UInt32} {lost next : Payload} {cycle : Cycle}
    (after : AfterCycle) (steps : run[moment]? = some (.step self))
    (destroyed : lost.aftermath? = some next)
    (found : (world.upTo client run moment).threads[self]? =
      some ⟨role, .sending seq kind streamId cycle :: base, .raise lost⟩) :
    world.StepsAt client run self moment (Leaves after base) := by
  refine ⟨steps, _, found, .inr (.frame seq kind streamId cycle destroyed rfl ?_
    List.mem_cons_self)⟩
  change cycle.afterLoss lost = .raise next
  rw [Cycle.afterLoss, destroyed]

/-- Cycles of the only thread of a world are alone if it serves a channel on the
empty stack only, and not between two of them. -/
theorem AreAlone.of_everyStep {round : Nat → Round κ} {last : Nat}
    (few :
      ∀ moment < run.length, (world.upTo client run moment).threads.length = 1)
    (own : ∀ number ≤ last, (round number).self = 0 ∧ (round number).base = [])
    (serves : world.everyStep client run (fun moment thread =>
      !thread.control.isServing ||
        (thread.stack.isEmpty && (List.range last).all fun number =>
          !decide ((round number).ended < moment ∧
            moment < (round (number + 1)).began))) = true) :
    AreAlone client world run round last := by
  constructor
  · intro number inside moment self stack cycle begun going takes
    rcases takes.of_everyStep _ serves with ⟨role, here⟩
    rcases takes with ⟨steps, role, found⟩
    have bound := (List.getElem?_eq_some_iff.mp found).1
    rw [few moment (List.getElem?_eq_some_iff.mp steps).1] at bound
    rw [(own number inside).1, (own number inside).2]
    exact ⟨Nat.lt_one_iff.mp bound,
      List.isEmpty_iff.mp (Bool.and_elim_left here)⟩
  · intro number inside moment self stack cycle after before takes
    rcases takes.of_everyStep _ serves with ⟨role, here⟩
    have apart := List.all_eq_true.mp (Bool.and_elim_right here) number
      (List.mem_range.mpr inside)
    rw [decide_eq_true (And.intro after before)] at apart
    cases apart

/-- Two packets wait, and a video frame on another channel.  Both cycles end in
the panic of a session, and still the second packet is taken and routed in the
second of them. -/
theorem Reachable.serves_in_turn_of_panicking :
    let steps (number : Nat) :=
      List.replicate number (Occurrence.step 0 : Occurrence Unit)
    let opening : World Unit Unit Unit :=
      .new (.new ⟨1, "app"⟩ .standard (.alone none) ()) 1
    let frame := Item.frame .video (.new 1 "camera") (.video 0 0 0 [] true)
    let run :=
      [.request 0 (.submit (.packet 0 [1]))] ++ steps 5 ++
        [.request 0 (.submit (.packet 0 [2]))] ++ steps 5 ++
        [.request 0 (.submit frame)] ++ steps 5 ++
        [.request 0 .dispatchOnce] ++ steps 10 ++
        [.request 0 .dispatchOnce] ++ steps 9
    let round (number : Nat) : Round Unit :=
      ⟨0, [], .answer, 20 + 11 * number, 28 + 10 * number⟩
    let now := opening.upTo .panicking run
    let second : Sequenced Item := ⟨1, .packet 0 [2]⟩
    ((now (round 0).began).shared.waiting .packets)[1]? = some second ∧
      ((now (round 1).began).shared.waiting .packets)[0]? = some second ∧
      ((now (round 1).ended).shared.drainings .packets)[1]? = some second ∧
      ∃ taken routed,
        (round 1).Serves .panicking opening run .packets second taken
          routed := by
  intro steps opening frame run round now second
  have reachable : Reachable Client.panicking opening :=
    .opening (.alone _ _ _ _)
  have allowed : opening.allowsAll .panicking run = true := by decide +kernel
  have waits :
      ((now (round 0).began).shared.waiting .packets)[1]? = some second := by
    decide +kernel
  have first :
      ((now (round 0).began).shared.drainings .packets).length = 0 := by
    decide +kernel
  have stays : ∀ number < 2, ∀ moment < (round number).ended,
      (round number).began ≤ moment →
      ((now moment).threads[0]?).any Thread.mayLeave = false := by
        decide +kernel
  have runs : ∀ number < 2, (round number).Runs .panicking opening run := by
    intro number inside
    refine .of_mayLeave ⟨.caller, ?_⟩ ?_ (stays number inside) ?_
    · revert number
      decide +kernel
    · revert number
      decide
    · have steps : run[(round number).ended]? = some (.step 0) := by
        match number, inside with
        | 0, _ => rfl
        | 1, _ => rfl
      have found : (now (round number).ended).threads[0]? =
          some ⟨.caller,
            [.reporting number.toUInt64 0 .other ⟨[], true, .answer⟩],
            .raise .other⟩ := by
        clear steps
        revert number
        decide +kernel
      exact reachable.leaves_of_number allowed .answer steps found
  have rounds : AreRounds Client.panicking opening run round 1 :=
    { runs := fun number inside => runs number (Nat.lt_succ_of_le inside)
      apart := by decide }
  have few : ∀ moment < run.length, (now moment).threads.length = 1 := by
    decide +kernel
  have alone : AreAlone Client.panicking opening run round 1 :=
    .of_everyStep few (fun _ _ => ⟨rfl, rfl⟩) (by decide +kernel)
  have turns : ∀ number < 3,
      opening.turns .panicking run round .packets number = number := by
    decide +kernel
  obtain ⟨_, left, nears⟩ := reachable.serves_in_turn allowed rounds waits
  rw [first, turns 2 (by decide)] at left
  obtain ⟨stands, serves⟩ := nears alone 1 (Nat.le_refl _)
  rw [turns 1 (by decide)] at stands serves
  exact ⟨waits, stands (Nat.le_refl _), left (Nat.lt_succ_self _),
    serves rfl (by decide +kernel)⟩

/-- The panic of a payload over a video frame makes a channel lose its turn.  An
audio frame waits at the head of its queue, and nobody but two cycles serves a
channel.  The first cycle does not come to the audio frame, and it is the second
one that takes and routes it. -/
theorem Reachable.audio_loses_turn_to_fragile_payload :
    let steps (number : Nat) :=
      List.replicate number (Occurrence.step 0 : Occurrence Unit)
    let opening : World Unit Unit Unit :=
      .new (.new ⟨1, "app"⟩ .standard (.alone none) ()) 1
    let video := Item.frame .video (.new 1 "camera") (.video 0 0 0 [] true)
    let audio := Item.frame .audio (.new 1 "camera") (.audio 0 0 [])
    let run :=
      [.request 0 (.register 1 ⟨0, "camera"⟩)] ++ steps 1 ++
        [.request 0 (.submit video)] ++ steps 5 ++
        [.request 0 (.submit audio)] ++ steps 5 ++ [.request 0 .dispatchOnce] ++
          steps 5 ++ [.request 0 .dispatchOnce] ++ steps 6
    let round (number : Nat) : Round Unit :=
      ⟨0, [], .answer, 16 + 6 * number, 19 + 7 * number⟩
    let now := opening.upTo .bursting run
    let entry : Sequenced Item := ⟨0, audio⟩
    Reachable Client.bursting opening ∧ opening.allowsAll .bursting run = true ∧
      AreRounds Client.bursting opening run round 1 ∧
      AreAlone Client.bursting opening run round 1 ∧
      ((now (round 0).began).shared.waiting .audio)[0]? = some entry ∧
      ((now (round 1).began).shared.waiting .audio)[0]? = some entry ∧
      (round 1).Serves .bursting opening run .audio entry 23 24 := by
  intro steps opening video audio run round now entry
  have allowed : opening.allowsAll .bursting run = true := by decide +kernel
  have stays : ∀ number < 2, ∀ moment < (round number).ended,
      (round number).began ≤ moment →
      ((now moment).threads[0]?).any Thread.mayLeave = false := by
        decide +kernel
  have runs : ∀ number < 2, (round number).Runs .bursting opening run := by
    intro number inside
    refine .of_mayLeave ⟨.caller, ?_⟩ ?_ (stays number inside) ?_
    · revert number
      decide +kernel
    · revert number
      decide
    · match number, inside with
      | 0, _ =>
          have found : (now 19).threads[0]? =
              some ⟨.caller,
                [.sending 0 .video 1 ⟨[.audio, .packets], true, .answer⟩],
                .raise (.fragile .other)⟩ := by decide +kernel
          exact World.leaves_of_destruction .answer rfl rfl found
      | 1, _ =>
          have found : (now 26).threads[0]? =
              some ⟨.caller, [.sending 0 .audio 1 ⟨[.packets], true, .answer⟩],
                .raise (.fragile .other)⟩ := by decide +kernel
          exact World.leaves_of_destruction .answer rfl rfl found
  have rounds : AreRounds Client.bursting opening run round 1 :=
    { runs := fun number inside => runs number (Nat.lt_succ_of_le inside)
      apart := by decide }
  have few : ∀ moment < run.length, (now moment).threads.length = 1 := by
    decide +kernel
  have alone : AreAlone Client.bursting opening run round 1 :=
    .of_everyStep few (fun _ _ => ⟨rfl, rfl⟩) (by decide +kernel)
  have serves : (round 1).Serves .bursting opening run .audio entry 23 24 :=
    { order := by decide
      takes := ⟨⟨[.audio, .packets], false, .answer⟩, rfl, .caller,
      by decide +kernel⟩
      left := by decide +kernel
      routes := ⟨⟨[.packets], true, .answer⟩, rfl, .caller, by decide +kernel⟩ }
  exact ⟨.opening (.alone _ _ _ _), allowed, rounds, alone, by decide +kernel,
    by decide +kernel, serves⟩

end Switchboard
