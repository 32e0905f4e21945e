import Mathlib.Data.List.Forall2
import Switchboard.Proofs.Mirror
import Switchboard.Proofs.Schedule

/-!
# Two threads abreast

Two worlds are twins if they agree in everything but the states of their
clients.  If the second client falters, a thread that works alone goes through
the same dispatch cycles in both.  A step in the first world is one in the
second; only after a packet that was lost does the second thread make two moves
more, to ask the session for its number.
-/

namespace Switchboard

variable {σ σ' κ κ' ν ν' : Type}

/-! ## Worlds -/

section Relations

variable (states : σ → σ' → Prop) (pauses : Option Callback → κ → κ' → Prop)

/-- Two threads stand at the same place. -/
structure Thread.Mirrors (thread : Thread κ) (thread' : Thread κ') : Prop where
  role : thread'.role = thread.role
  stack : List.Forall₂ (Frame.Mirrors pauses) thread.stack thread'.stack
  control : thread.control.Mirrors thread'.control

/-- Two worlds agree in everything but the states of their clients and what has
been. -/
structure World.Twins (world : World σ κ ν) (world' : World σ' κ' ν') :
    Prop where
  identity : world'.shared.identity = world.shared.identity
  settings : world'.shared.settings = world.shared.settings
  host : world'.shared.host = world.shared.host
  dispatcher : world'.shared.dispatcher = world.shared.dispatcher
  registry : world'.shared.registry = world.shared.registry
  clock : world'.shared.clock = world.shared.clock
  client : states world.shared.client world'.shared.client
  threads : List.Forall₂ (Thread.Mirrors pauses) world.threads world'.threads

/-- Two worlds mirror each other since two earlier journals. -/
structure World.Mirrors (past : List (Happening ν))
    (past' : List (Happening ν')) (lost : List Callback) (world : World σ κ ν)
    (world' : World σ' κ' ν') : Prop where
  shared : world.shared.Mirrors states past past' lost world'.shared
  threads : List.Forall₂ (Thread.Mirrors pauses) world.threads world'.threads

end Relations

variable {states : σ → σ' → Prop} {pauses : Option Callback → κ → κ' → Prop}
  {past : List (Happening ν)} {past' : List (Happening ν')}
  {lost : List Callback}

/-! ## Steps -/

/-- Two threads at the same place have ended in the same way, if at all. -/
theorem Thread.Mirrors.ending?_eq {thread : Thread κ} {thread' : Thread κ'}
    (same : thread.Mirrors pauses thread') :
    thread'.ending? = thread.ending? := by
  rcases thread with ⟨role, stack, control⟩
  rcases thread' with ⟨role', stack', control'⟩
  cases same.stack with
  | cons => rfl
  | nil =>
      cases same.control with
      | same => cases control <;> rfl
      | answer => rfl

/-- Threads at the same places keep the same sessions alive. -/
theorem Thread.any_keeps_of_mirrors {threads : List (Thread κ)}
    {threads' : List (Thread κ')}
    (same : List.Forall₂ (Thread.Mirrors pauses) threads threads')
    (session : SessionHandle) :
    threads'.any (·.keeps session) = threads.any (·.keeps session) := by
  induction same with
  | nil => rfl
  | cons same _ inductionHypothesis =>
      rw [List.any_cons, List.any_cons, inductionHypothesis, Thread.keeps,
        Thread.keeps, Frame.any_keeps_of_mirrors same.stack]

/-- Both threads are there, or neither is. -/
theorem Thread.mirrors_getElem? {threads : List (Thread κ)}
    {threads' : List (Thread κ')}
    (same : List.Forall₂ (Thread.Mirrors pauses) threads threads')
    (self : ThreadId) : (threads[self]? = none ∧ threads'[self]? = none) ∨
      ∃ thread thread', threads[self]? = some thread ∧
        threads'[self]? = some thread' ∧
        thread.Mirrors pauses thread' := by
  induction same generalizing self with
  | nil => exact .inl ⟨rfl, rfl⟩
  | cons same _ inductionHypothesis =>
      cases self with
      | zero => exact .inr ⟨_, _, rfl, rfl, same⟩
      | succ self => exact inductionHypothesis self

theorem Thread.mirrors_set {threads : List (Thread κ)}
    {threads' : List (Thread κ')}
    (same : List.Forall₂ (Thread.Mirrors pauses) threads threads')
    (self : ThreadId) {thread : Thread κ} {thread' : Thread κ'}
    (mirrors : thread.Mirrors pauses thread') :
    List.Forall₂ (Thread.Mirrors pauses) (threads.set self thread)
      (threads'.set self thread') := by
  induction same generalizing self with
  | nil => exact .nil
  | cons same others inductionHypothesis =>
      cases self with
      | zero => exact .cons mirrors others
      | succ self => exact .cons same (inductionHypothesis self)

namespace World

/-- Where a run leads in which one thread makes so many moves and no other
moves. -/
def alone (client : Client σ κ ν) (world : World σ κ ν) (self : ThreadId)
    (moves : Nat) :
    World σ κ ν :=
  world.follow client (List.replicate moves (.step self))

theorem alone_succ (client : Client σ κ ν) (world : World σ κ ν)
    (self : ThreadId) (moves : Nat) :
    world.alone client self (moves + 1) =
      (world.alone client self moves).step client self := by
  simp only [alone, follow, List.replicate_succ', List.foldl_append,
    List.foldl_cons, List.foldl_nil]
  rfl

theorem alone_add (client : Client σ κ ν) (world : World σ κ ν)
    (self : ThreadId) (moves more : Nat) :
    world.alone client self (moves + more) =
      (world.alone client self moves).alone client self more := by
  induction more with
  | zero => rfl
  | succ more inductionHypothesis =>
      rw [← Nat.add_assoc, alone_succ, alone_succ, inductionHypothesis]

/-- The control of every thread goes on to suit its stack. -/
theorem step_fits {client : Client σ κ ν} {world : World σ κ ν}
    (fits : ∀ thread ∈ world.threads, thread.Fits) (self : ThreadId) :
    ∀ thread ∈ (world.step client self).threads, thread.Fits := by
  intro thread member
  cases found : world.threads[self]? with
  | none =>
      simp only [step, found] at member
      exact fits thread member
  | some before =>
      rw [step_of_some found] at member
      rcases List.getElem?_of_mem member with ⟨number, stands⟩
      rcases afterTurn_cases stands with ⟨_, rfl⟩ | ⟨_, stood⟩ | ⟨_, _, rfl⟩
      · exact world.shared.move_fits client _
          (fits before (List.mem_of_getElem? found))
      · exact fits thread (List.mem_of_getElem? stood)
      · rfl

theorem alone_fits {client : Client σ κ ν} {world : World σ κ ν}
    (fits : ∀ thread ∈ world.threads, thread.Fits) (self : ThreadId)
    (moves : Nat) :
    ∀ thread ∈ (world.alone client self moves).threads, thread.Fits := by
  induction moves with
  | zero => exact fits
  | succ moves inductionHypothesis =>
      rw [alone_succ]
      exact step_fits inductionHypothesis self

/-- A thread that spawns nobody leaves the others where they are. -/
theorem afterTurn_unspawned {world : World σ κ ν} (self : ThreadId)
    (role : Role) {turn : Turn σ κ ν} (unspawned : turn.spawned = false) :
    world.afterTurn self role turn = seat world.threads self role turn := by
  simp only [afterTurn, unspawned, seat, Bool.false_eq_true, if_false,
    List.append_nil]

namespace Mirrors

variable {client : Client σ κ ν} {faltering : Client σ' κ' ν'}
  {world : World σ κ ν} {world' : World σ' κ' ν'}

/-- Threads see the same of each other. -/
theorem surroundings_eq
    (mirrors : world.Mirrors states pauses past past' lost world')
    (self : ThreadId) : world'.surroundings self = world.surroundings self := by
  have ending : world'.ending? = world.ending? := by
    funext other
    simp only [ending?]
    obtain ⟨none, none'⟩ | ⟨thread, thread', found, found', same⟩ :=
      Thread.mirrors_getElem? mirrors.threads other
    · rw [none, none']
      rfl
    · rw [found, found']
      exact same.ending?_eq
  simp only [surroundings, ending, mirrors.threads.length_eq,
    Thread.any_keeps_of_mirrors mirrors.threads]

/-- Turns that mirror each other lead to worlds that do. -/
theorem afterTurn (mirrors : world.Mirrors states pauses past past' lost world')
    (self : ThreadId) (role : Role) {turn : Turn σ κ ν} {turn' : Turn σ' κ' ν'}
    (turns : turn.Mirrors states pauses past past' lost turn') :
    (world.afterTurn self role turn).Mirrors states pauses past past' lost
      (world'.afterTurn self role turn') := by
  refine ⟨turns.shared, List.rel_append ?_ ?_⟩
  · exact Thread.mirrors_set mirrors.threads self
      ⟨rfl, turns.stack, turns.control⟩
  · rw [turns.spawned]
    split
    · exact .cons ⟨rfl, .nil, .same _⟩ .nil
    · exact .nil

end Mirrors

end World

/-! ## Cycles -/

/-- Whether a thread with this control has served all channels of a cycle. -/
def Control.endsCycle : Control → Bool
  | .run (.cycle cycle) => cycle.remaining.isEmpty
  | _ => false

/-- Whoever ends a cycle goes on with what comes after it. -/
theorem Control.runs_of_endsCycle {control : Control}
    (ends : control.endsCycle = true) (client : Client σ κ ν)
    (shared : Shared σ ν) (around : Surroundings) (stack : List (Frame κ)) :
    ∃ next, (shared.move client around stack control).control = .run next := by
  cases control with
  | run instruction =>
      cases instruction with
      | cycle cycle =>
          have served : cycle.remaining = [] := List.isEmpty_iff.mp ends
          simp only [Shared.move, Shared.execute, Shared.serve, served]
          exact ⟨_, rfl⟩
      | _ => cases ends
  | _ => cases ends

/-- Whoever returns from a callback or panics has spawned nobody and does not go
on yet. -/
theorem Turn.Lapses.stands {turn : Turn σ κ ν} {turn' : Turn σ' κ' ν'}
    (lapses : Turn.Lapses states pauses past past' lost turn turn') :
    turn.spawned = false ∧ turn'.spawned = false ∧
      ∀ next, turn.control ≠ .run next := by
  cases lapses with
  | frame => exact ⟨rfl, rfl, fun _ => Control.noConfusion⟩
  | packet => exact ⟨rfl, rfl, fun _ => Control.noConfusion⟩

theorem Control.Mirrors.endsCycle_eq {control control' : Control}
    (same : control.Mirrors control') :
    control'.endsCycle = control.endsCycle := by
  cases same with
  | same => rfl
  | answer => rfl

namespace World

/-- Whether a thread ends a cycle with its next move. -/
def endsCycle (world : World σ κ ν) (self : ThreadId) : Bool :=
  (world.threads[self]?).any fun thread => thread.control.endsCycle

/-- How many cycles a thread that works alone ends with so many moves. -/
def cycled (client : Client σ κ ν) (world : World σ κ ν) (self : ThreadId) :
    Nat → Nat
  | 0 => 0
  | moves + 1 =>
      world.cycled client self moves +
        ((world.alone client self moves).endsCycle self).toNat

/-- A thread that works alone has ended so many cycles, the last of them with
its last move. -/
structure HasCycled (client : Client σ κ ν) (world : World σ κ ν)
    (worker : ThreadId) (cycles moves : Nat) : Prop where
  counted : world.cycled client worker moves = cycles
  last : ∀ before, moves = before + 1 →
    (world.alone client worker before).endsCycle worker = true

section Cycled

variable {client : Client σ κ ν} {world : World σ κ ν} {self : ThreadId}

theorem cycled_add (client : Client σ κ ν) (world : World σ κ ν)
    (self : ThreadId) (moves more : Nat) :
    world.cycled client self (moves + more) =
      world.cycled client self moves + (world.alone client self moves).cycled
        client self more := by
  induction more with
  | zero => rfl
  | succ more inductionHypothesis =>
      rw [← Nat.add_assoc, cycled, cycled, inductionHypothesis, alone_add,
        Nat.add_assoc]

/-- A move that ends no cycle does not count. -/
theorem cycled_one_add (goesOn : world.endsCycle self = false) (more : Nat) :
    world.cycled client self (1 + more) =
      (world.step client self).cycled client self more := by
  rw [cycled_add]
  change 0 + (world.endsCycle self).toNat + _ = _
  rw [goesOn, Bool.toNat_false, Nat.zero_add]
  rfl

theorem cycled_mono {moves later : Nat} (order : moves ≤ later) :
    world.cycled client self moves ≤ world.cycled client self later := by
  obtain ⟨more, rfl⟩ := Nat.exists_eq_add_of_le order
  rw [cycled_add]
  exact Nat.le_add_right _ _

/-- While no cycle has ended, none of the moves has ended one. -/
theorem endsCycle_of_cycled {moves before : Nat}
    (counted : world.cycled client self moves = 0) (order : before < moves) :
    (world.alone client self before).endsCycle self = false := by
  have none : world.cycled client self (before + 1) = 0 :=
    Nat.le_zero.mp (counted ▸ cycled_mono order)
  rw [cycled] at none
  exact Bool.toNat_eq_zero.mp (Nat.eq_zero_of_add_eq_zero_left none)

/-- There is one moment at which the last of so many cycles has ended. -/
theorem HasCycled.unique {cycles moves moves' : Nat}
    (ended : world.HasCycled client self cycles moves)
    (ended' : world.HasCycled client self cycles moves') : moves = moves' := by
  -- The later of two moments would come after one cycle more.
  have later {moves moves' : Nat}
      (ended : world.HasCycled client self cycles moves)
      (ended' : world.HasCycled client self cycles moves') :
      ¬ moves < moves' := by
    intro before
    obtain ⟨between, rfl⟩ :=
      Nat.exists_eq_succ_of_ne_zero (Nat.ne_zero_of_lt before)
    have fewer :
        world.cycled client self moves ≤ world.cycled client self between :=
      cycled_mono (Nat.le_of_lt_succ before)
    have counted := ended'.counted
    rw [cycled, ended'.last between rfl, Bool.toNat_true] at counted
    rw [ended.counted] at fewer
    omega
  exact Nat.le_antisymm (Nat.not_lt.mp (later ended' ended))
    (Nat.not_lt.mp (later ended ended'))

/-- Every number of cycles up to those that have ended was reached. -/
theorem exists_hasCycled {cycles moves : Nat}
    (enough : cycles ≤ world.cycled client self moves) :
    ∃ earlier, earlier ≤ moves ∧
      world.HasCycled client self cycles earlier := by
  induction moves with
  | zero =>
      refine ⟨0, Nat.le_refl 0, (Nat.le_zero.mp enough).symm,
        fun before same => ?_⟩
      cases same
  | succ moves inductionHypothesis =>
      by_cases before : cycles ≤ world.cycled client self moves
      · rcases inductionHypothesis before with ⟨earlier, order, ended⟩
        exact ⟨earlier, Nat.le_succ_of_le order, ended⟩
      · rw [cycled] at enough
        cases ends : (world.alone client self moves).endsCycle self with
        | false =>
            rw [ends, Bool.toNat_false, Nat.add_zero] at enough
            exact absurd enough before
        | true =>
            rw [ends, Bool.toNat_true] at enough
            refine ⟨moves + 1, Nat.le_refl _, ?_, fun earlier same => ?_⟩
            · rw [cycled, ends, Bool.toNat_true]
              omega
            · cases same
              exact ends

end Cycled

theorem Mirrors.endsCycle_eq {world : World σ κ ν} {world' : World σ' κ' ν'}
    (mirrors : world.Mirrors states pauses past past' lost world')
    (self : ThreadId) :
    world'.endsCycle self = world.endsCycle self := by
  simp only [endsCycle]
  obtain ⟨none, none'⟩ | ⟨thread, thread', found, found', same⟩ :=
    Thread.mirrors_getElem? mirrors.threads self
  · rw [none, none']
    rfl
  · rw [found, found']
    exact same.control.endsCycle_eq

/-! ## Lost calls -/

section Lapses

variable {client : Client σ κ ν} {faltering : Client σ' κ' ν'}
  {threads : List (Thread κ)} {threads' : List (Thread κ')} {self : ThreadId}

theorem seat_endsCycle (inside : self < threads.length) (role : Role)
    {turn : Turn σ κ ν} (goesOn : turn.control.endsCycle = false) :
    (seat threads self role turn).endsCycle self = false := by
  rw [endsCycle, seat_self inside]
  exact goesOn

theorem seat_mirrors
    (same : List.Forall₂ (Thread.Mirrors pauses) threads threads')
    (self : ThreadId) (role : Role) {turn : Turn σ κ ν} {turn' : Turn σ' κ' ν'}
    (turns : turn.Mirrors states pauses past past' lost turn') :
    (seat threads self role turn).Mirrors states pauses past past' lost
      (seat threads' self role turn') :=
  ⟨turns.shared, Thread.mirrors_set same self ⟨rfl, turns.stack, turns.control⟩⟩

/-- Once the second stream has panicked where the first has returned, both
threads go on with their cycles. -/
theorem seat_loses_frame (client : Client σ κ ν) (faltering : Client σ' κ' ν')
    (same : List.Forall₂ (Thread.Mirrors pauses) threads threads')
    (inside : self < threads.length) (role : Role) {shared : Shared σ ν}
    {other : Shared σ' ν'} {below : List (Frame κ)} {below' : List (Frame κ')}
    (mirrors : shared.Mirrors states past past' lost other)
    (frames : List.Forall₂ (Frame.Mirrors pauses) below below')
    (kind : MediaKind) (stream : Stream) (packet : MediaPacket) (reply : Reply)
    {payload : Payload} (harmless : payload.aftermath? = none) (seq : UInt64)
    (streamId : UInt32) (cycle : Cycle) :
    let returned : World σ κ ν := seat threads self role
      (.pass (shared.record (.returned (.sendFrame kind stream packet) reply))
        (.sending seq kind streamId cycle :: below) (.reply reply))
    let panicked : World σ' κ' ν' := seat threads' self role
      (.pass (other.record (.panicked (.sendFrame kind stream packet) payload))
        (.sending seq kind streamId cycle :: below') (.raise payload))
    (returned.alone client self 1).Mirrors states pauses past past'
        (.sendFrame kind stream packet :: lost)
        (panicked.alone faltering self 1) ∧
      returned.cycled client self 1 = 0 ∧
        panicked.cycled faltering self 1 = 0 := by
  intro returned panicked
  have inside' : self < threads'.length := same.length_eq ▸ inside
  have counted : returned.step client self = seat threads self role
      (.run ((shared.record
        (.returned (.sendFrame kind stream packet) reply)).count
        (·.frameDelivered kind)) below (.cycle cycle)) :=
    seat_step client inside rfl rfl
  have noticed : panicked.step faltering self = seat threads' self role
      (.run (((other.record
        (.panicked (.sendFrame kind stream packet) payload)).count
        .frameDropped).notice (.streamPanicked kind streamId seq payload))
          below'
          (.cycle cycle)) := by
    rw [Turn.run, ← cycle.afterLoss_of_harmless harmless]
    exact seat_step faltering inside' rfl rfl
  refine ⟨?_, cycled_one_add (seat_endsCycle inside role rfl) 0,
    cycled_one_add (seat_endsCycle inside' role rfl) 0⟩
  change (returned.step client self).Mirrors _ _ _ _ _
    (panicked.step faltering self)
  rw [counted, noticed]
  exact seat_mirrors same self role
    (.run (mirrors.loseFrame kind stream packet reply payload streamId seq)
      frames (.cycle cycle))

/-- Once the second session has panicked where the first has returned, both
threads go on with their cycles, the second after it has asked the session for
its number. -/
theorem seat_loses_packet (falters : client.Falters faltering states pauses)
    (same : List.Forall₂ (Thread.Mirrors pauses) threads threads')
    (inside : self < threads.length) (role : Role) {shared : Shared σ ν}
    {other : Shared σ' ν'} {below : List (Frame κ)} {below' : List (Frame κ')}
    (mirrors : shared.Mirrors states past past' lost other)
    (frames : List.Forall₂ (Frame.Mirrors pauses) below below')
    (session : SessionHandle) (data : Bytes) (reply : Reply) {payload : Payload}
    (harmless : payload.aftermath? = none) (seq : UInt64) (cycle : Cycle) :
    let returned : World σ κ ν := seat threads self role
      (.pass (shared.record (.returned (.receivePacket session data) reply))
        (.receiving seq session cycle :: below) (.reply reply))
    let panicked : World σ' κ' ν' := seat threads' self role
      (.pass (other.record (.panicked (.receivePacket session data) payload))
        (.receiving seq session cycle :: below') (.raise payload))
    (returned.alone client self 1).Mirrors states pauses past past'
        (.receivePacket session data :: lost)
        (panicked.alone faltering self 3) ∧
      returned.cycled client self 1 = 0 ∧
        panicked.cycled faltering self 3 = 0 := by
  intro returned panicked
  have inside' : self < threads'.length := same.length_eq ▸ inside
  rcases falters.numbers session mirrors.client with ⟨number, answers, state⟩
  let dropped :=
    (other.record (.panicked (.receivePacket session data) payload)).count
    .packetDropped
  let asking : World σ' κ' ν' := seat threads' self role
    (.call dropped below' (.reporting seq session payload cycle)
      (.sessionNumber session))
  let told := ((dropped.record (.called (.sessionNumber session))).noting
    (faltering.begin (.sessionNumber session) other.client)).record
      (.returned (.sessionNumber session) number)
  let answered : World σ' κ' ν' := seat threads' self role
    (.pass told (.reporting seq session payload cycle :: below')
      (.reply number))
  have counted : returned.step client self = seat threads self role
      (.run ((shared.record
        (.returned (.receivePacket session data) reply)).count
        .packetDelivered) below (.cycle cycle)) :=
    seat_step client inside rfl rfl
  have asks : panicked.step faltering self = asking :=
    seat_step faltering inside' rfl rfl
  have hears : asking.step faltering self = answered := by
    refine seat_step faltering inside' ?_ rfl
    change Shared.clientMove _ _ _
      (faltering.begin (.sessionNumber session) other.client) = _
    simp only [Shared.clientMove, answers]
    rfl
  have noticed : answered.step faltering self = seat threads' self role
      (.run (told.notice (.sessionPanicked number.number seq payload)) below'
        (.cycle cycle)) := by
    rw [Turn.run, ← cycle.afterLoss_of_harmless harmless]
    exact seat_step faltering inside' rfl rfl
  refine ⟨?_, cycled_one_add (seat_endsCycle inside role rfl) 0, ?_⟩
  · change (returned.step client self).Mirrors _ _ _ _ _
      (((panicked.step faltering self).step faltering self).step faltering self)
    rw [counted, asks, hears, noticed]
    exact seat_mirrors same self role
      (.run (mirrors.losePacket session data reply number payload seq state)
        frames (.cycle cycle))
  · rw [cycled_one_add (seat_endsCycle inside' role rfl) 2, asks,
      cycled_one_add (seat_endsCycle inside' role rfl) 1, hears]
    exact cycled_one_add (seat_endsCycle inside' role rfl) 0

/-- After a lost call both threads go on with their cycles. -/
theorem seat_lapses (falters : client.Falters faltering states pauses)
    (same : List.Forall₂ (Thread.Mirrors pauses) threads threads')
    (inside : self < threads.length) (role : Role) {turn : Turn σ κ ν}
    {turn' : Turn σ' κ' ν'}
    (lapses : Turn.Lapses states pauses past past' lost turn turn') :
    ∃ callback, let more := 2 * lostOn [callback] .packets
      ((seat threads self role turn).alone client self 1).Mirrors states
        pauses past past'
          (callback :: lost)
          ((seat threads' self role turn').alone faltering self (1 + more)) ∧
        (seat threads self role turn).cycled client self 1 = 0 ∧
        (seat threads' self role turn').cycled faltering self
        (1 + more) = 0 := by
  cases lapses with
  | frame mirrors frames kind stream packet reply harmless seq streamId cycle =>
      have loses :=
        seat_loses_frame client faltering same inside role mirrors frames
        kind stream packet reply harmless seq streamId cycle
      cases kind with
      | video => exact ⟨_, loses⟩
      | audio => exact ⟨_, loses⟩
  | packet mirrors frames session data reply harmless seq cycle =>
      exact ⟨_,
        seat_loses_packet falters same inside role mirrors frames session data
        reply harmless seq cycle⟩

end Lapses

/-! ## Two threads abreast -/

section Abreast

variable {client : Client σ κ ν} {faltering : Client σ' κ' ν'}
  {world : World σ κ ν} {world' : World σ' κ' ν'} {self : ThreadId}

/-- With its next move the second thread does what the first does, or it panics
over an item and both go on after that. -/
theorem Mirrors.goes_on (falters : client.Falters faltering states pauses)
    (mirrors : world.Mirrors states pauses past past' lost world')
    (fits : ∀ thread ∈ world.threads, thread.Fits) (self : ThreadId) :
    (world.step client self).Mirrors states pauses past past' lost
    (world'.step faltering self) ∨
      ∃ callback, let more := 2 * lostOn [callback] .packets
        (world.alone client self 2).Mirrors states pauses past past'
        (callback :: lost)
            (world'.alone faltering self (2 + more)) ∧
          world.cycled client self 2 = 0 ∧
            world'.cycled faltering self (2 + more) = 0 := by
  obtain ⟨none, none'⟩ | ⟨thread, thread', found, found', same⟩ :=
    Thread.mirrors_getElem? mirrors.threads self
  · simp only [step, none, none']
    exact .inl mirrors
  · have inside := (List.getElem?_eq_some_iff.mp found).1
    have moves :=
      Shared.move_mirrors falters
        (world.surroundings self) mirrors.shared same.stack
      same.control (fits thread (List.mem_of_getElem? found))
    have stepped :
        world.step client self = world.afterTurn self thread.role _ :=
      step_of_some found
    have stepped' :
        world'.step faltering self = world'.afterTurn self thread'.role _ :=
      step_of_some found'
    rw [mirrors.surroundings_eq, same.role] at stepped'
    rcases moves with together | lapses
    · rw [stepped, stepped']
      exact .inl (mirrors.afterTurn self thread.role together)
    · right
      have goesOn : world.endsCycle self = false := by
        rw [Bool.eq_false_iff]
        intro ends
        rw [endsCycle, found] at ends
        rcases Control.runs_of_endsCycle ends client world.shared
          (world.surroundings self)
          thread.stack with ⟨next, runs⟩
        exact lapses.stands.2.2 next runs
      have goesOn' := (mirrors.endsCycle_eq self).trans goesOn
      rw [afterTurn_unspawned self _ lapses.stands.1] at stepped
      rw [afterTurn_unspawned self _ lapses.stands.2.1] at stepped'
      rcases seat_lapses falters mirrors.threads inside thread.role lapses with
        ⟨callback, resumed, counted, counted'⟩
      rw [← stepped] at resumed counted
      rw [← stepped'] at resumed counted'
      refine ⟨callback, ?_, ?_, ?_⟩
      · have former :
            world.alone client self 2 =
              (world.step client self).alone client self 1 :=
          rfl
        have latter :
            world'.alone faltering self (2 + 2 * lostOn [callback] .packets) =
            (world'.step faltering self).alone faltering self
              (1 + 2 * lostOn [callback] .packets) := by
          rw [Nat.add_assoc 1 1, alone_add]
          rfl
        rw [former, latter]
        exact resumed
      · exact (cycled_one_add goesOn 1).trans counted
      · rw [Nat.add_assoc 1 1, cycled_one_add goesOn']
        exact counted'

/-- After so many moves of each, two threads that work alone stand at the same
place.  They have ended as many cycles, and the second has made two moves more
for each packet that it lost. -/
structure Abreast (client : Client σ κ ν) (faltering : Client σ' κ' ν')
    (states : σ → σ' → Prop) (pauses : Option Callback → κ → κ' → Prop)
    (world : World σ κ ν) (world' : World σ' κ' ν') (worker : ThreadId)
    (lost : List Callback) (moves moves' : Nat) :
    Prop where
  mirrors :
    (world.alone client worker moves).Mirrors states pauses world.shared.journal
    world'.shared.journal lost (world'.alone faltering worker moves')
  counted :
    world'.cycled faltering worker moves' = world.cycled client worker moves
  longer : moves' = moves + 2 * lostOn lost .packets

theorem Twins.abreast (twins : world.Twins states pauses world')
    (self : ThreadId) :
    Abreast client faltering states pauses world world' self [] 0 0 where
  mirrors :=
    { shared :=
        { identity := twins.identity
          settings := twins.settings
          host := twins.host
          dispatcher := by
            have nothing : world.shared.dispatcher.count (·.losing []) =
                world.shared.dispatcher := by
              simp only [Dispatcher.count, Counters.losing_nil]
            exact twins.dispatcher.trans nothing.symm
          registry := twins.registry
          clock := twins.clock
          client := twins.client
          journal := .start }
      threads := twins.threads }
  counted := rfl
  longer := rfl

/-- Two threads that are abreast are so again after the next move of each, or
after a lost call, during which no cycle ends. -/
theorem Abreast.goes_on (falters : client.Falters faltering states pauses)
    (fits : ∀ thread ∈ world.threads, thread.Fits) {moves moves' : Nat}
    (abreast : Abreast client faltering states pauses world world' self lost
      moves moves') :
    Abreast client faltering states pauses world world' self lost (moves + 1)
      (moves' + 1) ∨
      ∃ callback more, Abreast client faltering states pauses world world' self
          (callback :: lost) (moves + 2) (moves' + more) ∧
        (world.alone client self moves).endsCycle self = false ∧
        (world.alone client self (moves + 1)).endsCycle self = false := by
  have ends := abreast.mirrors.endsCycle_eq self
  rcases abreast.mirrors.goes_on falters (alone_fits fits self moves) self with
    together | ⟨callback, mirrors, counted, counted'⟩
  · refine .inl ⟨?_, ?_, ?_⟩
    · rw [alone_succ, alone_succ]
      exact together
    · rw [cycled, cycled, abreast.counted, ends]
    · rw [abreast.longer, Nat.add_right_comm]
  · have now := endsCycle_of_cycled counted Nat.two_pos
    have next := endsCycle_of_cycled counted Nat.one_lt_two
    rw [← alone_add] at next
    refine .inr ⟨callback, 2 + 2 * lostOn [callback] .packets,
      ⟨?_, ?_, ?_⟩, now, next⟩
    · rw [alone_add _ _ _ moves, alone_add _ _ _ moves']
      exact mirrors
    · rw [cycled_add _ _ _ moves, cycled_add _ _ _ moves', counted, counted',
        abreast.counted]
    · rw [abreast.longer, lostOn_cons, lostOn_cons]
      simp only [lostOn, List.countP_nil]
      omega

/-- However far the first thread has come, the second comes abreast of it, or of
its next move if the first is about to go on after a lost call. -/
theorem Twins.comes_abreast (falters : client.Falters faltering states pauses)
    (fits : ∀ thread ∈ world.threads, thread.Fits)
    (twins : world.Twins states pauses world') (self : ThreadId) (moves : Nat) :
    (∃ lost moves',
      Abreast client faltering states pauses world world' self lost
        moves moves') ∨
      (∃ lost moves',
        Abreast client faltering states pauses world world' self lost
          (moves + 1)
          moves') ∧ (world.alone client self moves).endsCycle self = false := by
  induction moves with
  | zero => exact .inl ⟨[], 0, twins.abreast self⟩
  | succ moves inductionHypothesis =>
      rcases inductionHypothesis with ⟨lost, moves', abreast⟩ | ⟨resumed, _⟩
      · rcases abreast.goes_on falters fits with
          next | ⟨callback, more, resumed, _, goesOn⟩
        · exact .inl ⟨_, _, next⟩
        · exact .inr ⟨⟨_, _, resumed⟩, goesOn⟩
      · exact .inl resumed

/-- When the first thread has ended a cycle, the second has ended it too after
the corresponding moves. -/
theorem Twins.hasCycled (falters : client.Falters faltering states pauses)
    (fits : ∀ thread ∈ world.threads, thread.Fits)
    (twins : world.Twins states pauses world') {cycles moves : Nat}
    (ended : world.HasCycled client self cycles moves) :
    ∃ lost moves', world'.HasCycled faltering self cycles moves' ∧
      Abreast client faltering states pauses world world' self lost moves
        moves' := by
  cases moves with
  | zero =>
      refine ⟨[], 0, ⟨ended.counted, fun before same => ?_⟩, twins.abreast self⟩
      cases same
  | succ moves =>
      have ends := ended.last moves rfl
      rcases twins.comes_abreast falters fits self moves with
        ⟨lost, moves', abreast⟩ | ⟨_, goesOn⟩
      · rcases abreast.goes_on falters fits with next | ⟨_, _, _, goesOn, _⟩
        · refine ⟨lost, moves' + 1,
            ⟨next.counted.trans ended.counted, fun before same => ?_⟩, next⟩
          cases same
          exact (abreast.mirrors.endsCycle_eq self).trans ends
        · rw [ends] at goesOn
          cases goesOn
      · rw [ends] at goesOn
        cases goesOn

/-- The first thread ends as many cycles as the second. -/
theorem Twins.exists_hasCycled
    (falters : client.Falters faltering states pauses)
    (fits : ∀ thread ∈ world.threads, thread.Fits)
    (twins : world.Twins states pauses world') {cycles moves' : Nat}
    (ended : world'.HasCycled faltering self cycles moves') :
    ∃ moves, world.HasCycled client self cycles moves := by
  -- The second thread makes at least as many moves as the first.
  have reached {lost : List Callback} {moves later : Nat}
      (abreast : Abreast client faltering states pauses world world' self lost
        moves later)
      (order : moves' ≤ moves) :
      ∃ moves, world.HasCycled client self cycles moves := by
    have enough : cycles ≤ world.cycled client self moves := by
      rw [← abreast.counted, ← ended.counted]
      refine cycled_mono (Nat.le_trans order ?_)
      rw [abreast.longer]
      exact Nat.le_add_right _ _
    rcases World.exists_hasCycled enough with ⟨earlier, _, ended⟩
    exact ⟨earlier, ended⟩
  rcases twins.comes_abreast falters fits self moves' with
    ⟨lost, later, abreast⟩ | ⟨⟨lost, later, abreast⟩, _⟩
  · exact reached abreast (Nat.le_refl _)
  · exact reached abreast (Nat.le_succ _)

end Abreast

end World

end Switchboard
