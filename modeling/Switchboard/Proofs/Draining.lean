import Mathlib.Order.MinMax
import Switchboard.Proofs.Compliance

/-!
# What becomes of the backlog

A task that leaves its loop ends at once if the settings do not ask for a drain,
and the queues stay as they are.  Otherwise it goes round the queues until a
round finds nothing.  Each round but the last takes an item that waited or was
submitted meanwhile, so there are no more of them than such items, and in the
end the queues are empty.
-/

namespace Switchboard

variable {σ κ ν : Type}

/-! ## What a cycle does next -/

/-- A thread serves a channel or routes an entry in the given cycle, or waits
for a callback of it, and nothing stands below.  The cycle takes at most `left`
more steps of its own. -/
inductive Cycle.Goes (cycle : Cycle) (left : Nat) : List (Frame κ) →
    Control → Prop
  | serves (enough : 4 * cycle.remaining.length + 1 ≤ left) :
      Goes cycle left [] (.run (.cycle cycle))
  | routes (entry : Sequenced Item) (found : cycle.productive = true)
      (enough : 4 * cycle.remaining.length + 4 ≤ left) :
      Goes cycle left [] (.run (.route entry cycle))
  | calls (frame : Frame κ) {stack : List (Frame κ)} {control : Control}
      (waits : frame.cycle? = some cycle) (found : cycle.productive = true)
      (enough : 4 * cycle.remaining.length + frame.left ≤ left)
      (stands : [frame] <:+ stack) : Goes cycle left stack control

/-- What a move does for a cycle: it goes on to what follows, it finds a queue
empty, it takes the first entry of a queue, or it is about an entry that was
taken before. -/
inductive Cycle.Moves (cycle : Cycle) (left : Nat) (shared : Shared σ ν) :
    List (Frame κ) → Control → Turn σ κ ν → Prop
  | ends (served : cycle.remaining = []) :
      Moves cycle left shared [] (.run (.cycle cycle))
        (.run shared [] cycle.next)
  | skips {channel : Channel} {remaining : List Channel}
      (next : cycle.remaining = channel :: remaining)
      (empty : shared.waiting channel = [])
      (enough : 4 * remaining.length + 1 ≤ left) :
      Moves cycle left shared [] (.run (.cycle cycle))
        (.run shared [] (.cycle (cycle.served remaining false)))
  | takes {channel : Channel} {remaining : List Channel}
      {entry : Sequenced Item} {dispatcher : Dispatcher}
      (next : cycle.remaining = channel :: remaining)
      (popped : shared.dispatcher.pop? channel = some (entry, dispatcher))
      (enough : 4 * remaining.length + 4 ≤ left) :
      Moves cycle left shared [] (.run (.cycle cycle))
        (.run (({ shared with dispatcher := dispatcher }).record
          (.drained entry)) [] (.route entry (cycle.served remaining true)))
  | goes {stack : List (Frame κ)} {control : Control} {turn : Turn σ κ ν}
      (busy : stack ≠ [] ∨ ∃ entry cycle, control = .run (.route entry cycle))
      (found : cycle.productive = true)
      (goes : cycle.Goes left turn.stack turn.control) :
      Moves cycle left shared stack control turn

namespace Cycle

variable {cycle : Cycle} {left : Nat} {stack : List (Frame κ)}
  {control : Control}

theorem Goes.inCycle (goes : cycle.Goes left stack control) :
    InCycle cycle.after [] left stack control := by
  cases goes with
  | serves enough => exact .serves rfl enough
  | routes entry found enough => exact .routes entry rfl enough
  | calls frame waits found enough stands =>
      exact .calls frame waits rfl enough stands

/-- What others do, and what happens to others, leaves a cycle as it is. -/
theorem Goes.of_others {client : Client σ κ ν} {world : World σ κ ν}
    {self : ThreadId} {thread later : Thread κ} {occurrence : Occurrence κ}
    (goes : cycle.Goes left thread.stack thread.control) (fits : thread.Fits)
    (changes : thread.Changes client world self occurrence later)
    (others : occurrence ≠ .step self) :
    cycle.Goes left later.stack later.control := by
  rcases thread with ⟨role, stack, control⟩
  cases goes with
  | serves enough =>
      cases changes.eq_of_run rfl ⟨rfl, rfl⟩ others
      exact .serves enough
  | routes entry found enough =>
      cases changes.eq_of_run rfl ⟨rfl, rfl⟩ others
      exact .routes entry found enough
  | calls frame waits found enough stands =>
      exact .calls frame waits found enough
        (changes.suffix_of_others fits stands others)

end Cycle

namespace Shared

variable {cycle : Cycle} {left : Nat}

theorem serve_moves (shared : Shared σ ν)
    (enough : 4 * cycle.remaining.length ≤ left) :
    cycle.Moves left shared ([] : List (Frame κ)) (.run (.cycle cycle))
      (shared.serve [] cycle) := by
  simp only [serve]
  split
  · rename_i served
    exact .ends served
  · rename_i channel remaining next
    rw [next, List.length_cons] at enough
    split
    · rename_i absent
      have none :=
        (Queue.pop?_eq_none_iff _).mp (Option.map_eq_none_iff.mp absent)
      exact .skips next (List.eq_nil_of_length_eq_zero none) (by omega)
    · rename_i entry dispatcher popped
      exact .takes next popped (by omega)

theorem route_goes (shared : Shared σ ν) (alive : SessionHandle → Bool)
    (entry : Sequenced Item) (found : cycle.productive = true)
    (enough : 4 * cycle.remaining.length + 3 ≤ left) :
    let turn := shared.route alive ([] : List (Frame κ)) entry cycle
    cycle.Goes left turn.stack turn.control := by
  simp only [route]
  split
  · split
    · exact .calls (.sending _ _ _ cycle) rfl found enough List.suffix_rfl
    · exact .serves (by omega)
  · split
    · exact .calls (.receiving _ _ cycle) rfl found enough List.suffix_rfl
    · exact .serves (by omega)

/-- What comes back from a callback of a cycle leads on in the cycle, unless a
panic leaves it. -/
theorem deliver_goes (client : Client σ κ ν) (shared : Shared σ ν)
    {control : Control} {frame : Frame κ} (waits : frame.cycle? = some cycle)
    (found : cycle.productive = true)
    (arrives : (∃ reply, control = .reply reply) ∨
      ∃ payload, control = .raise payload)
    (tells : shared.Tells [frame] control)
    (enough : 4 * cycle.remaining.length + frame.left ≤ left + 1) :
    let turn := shared.deliver client [] control frame
    cycle.Goes left turn.stack turn.control ∨
      Escapes [] [frame] control turn := by
  cases frame with
  | sending seq kind streamId waiting =>
      cases waits
      simp only [Frame.left] at enough
      obtain ⟨reply, rfl⟩ | ⟨payload, rfl⟩ := arrives
      · exact .inl (.serves (by omega))
      · obtain ⟨_, goes⟩ | ⟨next, destroyed, leaves⟩ :=
          cycle.afterLoss_cases payload
        · left
          change cycle.Goes left [] (cycle.afterLoss payload)
          rw [goes]
          exact .serves (by omega)
        · exact .inr (.frame seq kind streamId cycle destroyed rfl leaves
            List.mem_cons_self)
  | receiving seq session waiting =>
      cases waits
      simp only [Frame.left] at enough
      obtain ⟨reply, rfl⟩ | ⟨payload, rfl⟩ := arrives
      · exact .inl (.serves (by omega))
      · refine .inl
          (.calls (.reporting seq session payload cycle) rfl found ?_
            List.suffix_rfl)
        simp only [Frame.left]
        omega
  | reporting seq session lost waiting =>
      cases waits
      simp only [Frame.left] at enough
      obtain ⟨reply, rfl⟩ | ⟨payload, rfl⟩ := arrives
      · obtain ⟨_, goes⟩ | ⟨next, destroyed, leaves⟩ :=
          cycle.afterLoss_cases lost
        · left
          change cycle.Goes left [] (cycle.afterLoss lost)
          rw [goes]
          exact .serves (by omega)
        · exact .inr (.packet seq session cycle reply destroyed rfl leaves
            List.mem_cons_self)
      · exact .inr (.number seq session lost cycle payload rfl rfl
          (tells payload seq session lost cycle [] rfl rfl))
  | _ => cases waits

/-- All that a move can do for a cycle. -/
theorem move_moves (client : Client σ κ ν) (shared : Shared σ ν)
    (around : Surroundings) {stack : List (Frame κ)} {control : Control}
    (fits : control.Fits stack) (tells : shared.Tells stack control)
    (goes : cycle.Goes (left + (control.serves [] stack).toNat) stack control) :
    let turn := shared.move client around stack control
    cycle.Moves left shared stack control turn ∨
      Escapes [] stack control turn := by
  cases goes with
  | serves enough =>
      simp only [Control.serves, decide_true, Bool.toNat_true] at enough
      exact .inl (shared.serve_moves (Nat.le_of_succ_le_succ enough))
  | routes entry found enough =>
      simp only [Control.serves, decide_true, Bool.toNat_true] at enough
      exact .inl (.goes (.inr ⟨entry, cycle, rfl⟩) found
        (shared.route_goes _ entry found (Nat.le_of_succ_le_succ enough)))
  | @calls frame _ _ waits found enough stands =>
      have filled : stack ≠ [] := by
        rintro rfl
        exact List.cons_ne_nil _ _ (List.suffix_nil.mp stands)
      cases own : control.serves [] stack with
      | false =>
          rw [own] at enough
          rcases shared.move_suffix client around stands with
            stays | ⟨top, arrives, _⟩
          · exact .inl
              (.goes (.inl filled) found
                (.calls frame waits found enough stays))
          · -- What arrives at the frame is for the cycle itself.
            subst top
            cases control with
            | run instruction => exact absurd rfl (arrives instruction)
            | _ => cases own
      | true =>
          rw [own] at enough
          have arrives : (∀ instruction, control ≠ .run instruction) ∧
              stack.length = 1 := by
            cases control with
            | run instruction =>
                cases instruction with
                | cycle | route =>
                    simp only [Control.serves, decide_eq_true_eq] at own
                    exact absurd (List.eq_nil_of_length_eq_zero own) filled
                | _ => cases own
            | _ => exact ⟨fun _ => Control.noConfusion, of_decide_eq_true own⟩
          have top := stands.eq_of_length arrives.2.symm
          subst top
          have own : ∀ callback state, frame ≠ .client callback state := by
            rintro callback state rfl
            cases waits
          have moves : shared.move client around [frame] control =
              shared.deliver client [] control frame := by
            cases control with
            | run instruction => exact absurd rfl (arrives.1 instruction)
            | _ => rfl
          rw [moves]
          rcases shared.deliver_goes client waits found
            (fits.arrives arrives.1 own) tells enough
            with goes | escapes
          · exact .inl (.goes (.inl filled) found goes)
          · exact .inr escapes

end Shared

/-! ## Accounts of the queues -/

namespace Shared

/-- How many entries wait. -/
def backlog (shared : Shared σ ν) : Nat :=
  (shared.waiting .video).length + (shared.waiting .audio).length +
    (shared.waiting .packets).length

/-- How many entries were submitted so far. -/
def intake (shared : Shared σ ν) : Nat :=
  (shared.submissions .video).length + (shared.submissions .audio).length +
    (shared.submissions .packets).length

/-- How many entries have left the queues so far. -/
def outlay (shared : Shared σ ν) : Nat :=
  (shared.drainings .video).length + (shared.drainings .audio).length +
    (shared.drainings .packets).length

/-- Whatever was submitted has left its queue or waits in it. -/
theorem InOrder.intake_eq {shared : Shared σ ν} (order : shared.InOrder) :
    shared.intake = shared.outlay + shared.backlog := by
  simp only [intake, outlay, backlog, order _, List.length_append]
  omega

theorem outlay_mono {before after : Shared σ ν}
    (more : before.journal <:+ after.journal) :
    before.outlay ≤ after.outlay := by
  have each (channel : Channel) :
      (before.drainings channel).length ≤ (after.drainings channel).length :=
    ((more.sublist.filterMap _).reverse.filter _).length_le
  exact Nat.add_le_add (Nat.add_le_add (each _) (each _)) (each _)

theorem outlay_of_drained (shared : Shared σ ν) (entry : Sequenced Item)
    (dispatcher : Dispatcher) :
    (({ shared with dispatcher := dispatcher }).record
      (.drained entry)).outlay =
      shared.outlay + 1 := by
  have each (channel : Channel) :
      (({ shared with dispatcher := dispatcher }).record
        (.drained entry)).drainings channel =
        shared.drainings channel ++ [entry].filter fun entry =>
          entry.item.channel = channel := by
    simp only [drainings, record, List.filterMap_cons, Happening.drained?,
      List.reverse_cons, List.filter_append]
  simp only [outlay, each, List.length_append]
  cases on : entry.item.channel <;> simp [on] <;> omega

/-- An entry that is taken was the first of its queue. -/
theorem waiting_of_pop {shared : Shared σ ν} {channel : Channel}
    {entry : Sequenced Item} {dispatcher : Dispatcher}
    (popped : shared.dispatcher.pop? channel = some (entry, dispatcher)) :
    let after :=
      ({ shared with dispatcher := dispatcher }).record (.drained entry)
    shared.waiting channel = entry :: after.waiting channel ∧
      ∀ other ≠ channel, after.waiting other = shared.waiting other := by
  rcases Option.map_eq_some_iff.mp popped with ⟨⟨_, rest⟩, first, equal⟩
  cases equal
  rcases (Queue.pop?_eq_some_iff _ _ _).mp first with ⟨entries, _⟩
  constructor
  · change _ =
      entry :: ((shared.dispatcher.queues.set channel rest).get channel).entries
    rw [Queues.get_set_self]
    exact entries
  · intro other differs
    change ((shared.dispatcher.queues.set channel rest).get other).entries = _
    rw [Queues.get_set_of_ne _ _ differs]
    rfl

end Shared

/-- Only a push and the service of a channel change the queues. -/
theorem Handles.waiting_eq {client : Client σ κ ν} {shared : Shared σ ν}
    {around : Surroundings} {stack : List (Frame κ)} {control : Control}
    {turn : Turn σ κ ν}
    (handles : Handles client shared around stack control turn)
    (unpushed : ∀ item, control ≠ .run (.push item))
    (unserved : ∀ cycle, control ≠ .run (.cycle cycle)) (channel : Channel) :
    turn.shared.waiting channel = shared.waiting channel := by
  have same {after : Shared σ ν}
      (queues : after.dispatcher.queues = shared.dispatcher.queues) :
      after.waiting channel = shared.waiting channel := by
    rw [Shared.waiting, queues]
    rfl
  cases handles with
  | aside before turns => exact same turns.same.queues
  | pushes => exact absurd rfl (unpushed _)
  | drains => exact absurd rfl (unserved _)
  | routes stack entry cycle =>
      apply same
      simp only [Shared.route]
      split
      · split <;> rfl
      · split <;> rfl
  | calls | resumes =>
      exact same
        (congrArg Dispatcher.queues (Shared.clientMove_dispatcher _ _ _ _))
  | sent | lost | received | refused => exact same rfl

/-! ## How many rounds a drain takes -/

/-- The length of the longest queue. -/
def longest (waiting : Channel → List (Sequenced Item)) : Nat :=
  max (max (waiting .video).length (waiting .audio).length)
    (waiting .packets).length

theorem lt_longest_iff {waiting : Channel → List (Sequenced Item)}
    {rounds : Nat} :
    rounds < longest waiting ↔
      ∃ channel, rounds < (waiting channel).length := by
  simp only [longest, lt_max_iff]
  constructor
  · rintro ((video | audio) | packets)
    · exact ⟨_, video⟩
    · exact ⟨_, audio⟩
    · exact ⟨_, packets⟩
  · rintro ⟨channel, fewer⟩
    cases channel with
    | video => exact .inl (.inl fewer)
    | audio => exact .inl (.inr fewer)
    | packets => exact .inr fewer

theorem Channel.mem_all (channel : Channel) : channel ∈ Channel.all := by
  cases channel <;> decide

/-- In a drain that nobody disturbs every round takes the first entry of each
queue: from the channels that the cycle has served one more is gone than there
were rounds before. -/
structure Cycle.Evens (cycle : Cycle) (rounds : Nat)
    (before now : Channel → List (Sequenced Item)) : Prop where
  part : cycle.remaining <:+ Channel.all
  kept (channel : Channel) (waits : channel ∈ cycle.remaining) :
    now channel = (before channel).drop rounds
  gone (channel : Channel) (served : channel ∉ cycle.remaining) :
    now channel = (before channel).drop (rounds + 1)
  found : cycle.productive = true ↔
    ∃ channel, channel ∉ cycle.remaining ∧ rounds < (before channel).length
  few : rounds ≤ longest before

namespace Cycle.Evens

variable {cycle : Cycle} {rounds : Nat} {before now later : Channel →
  List (Sequenced Item)}

theorem of_fresh (after : AfterCycle)
    (kept : ∀ channel, now channel = (before channel).drop rounds)
    (few : rounds ≤ longest before) :
    (Cycle.fresh after).Evens rounds before now where
  part := List.suffix_rfl
  kept channel _ := kept channel
  gone channel served := absurd channel.mem_all served
  found := by
    constructor
    · intro found
      cases found
    · rintro ⟨channel, served, _⟩
      exact absurd channel.mem_all served
  few := few

/-- A round that has found something is not the last. -/
theorem next (evens : cycle.Evens rounds before now)
    (served : cycle.remaining = []) (found : cycle.productive = true)
    (after : AfterCycle) :
    (Cycle.fresh after).Evens (rounds + 1) before now := by
  refine .of_fresh after (fun channel => evens.gone channel ?_) ?_
  · rw [served]
    exact List.not_mem_nil
  · rcases evens.found.mp found with ⟨channel, _, fewer⟩
    exact lt_longest_iff.mpr ⟨channel, fewer⟩

/-- After a round that has found nothing there were as many as the longest queue
had entries. -/
theorem eq_longest (evens : cycle.Evens rounds before now)
    (served : cycle.remaining = []) (fruitless : cycle.productive = false) :
    rounds = longest before := by
  refine Nat.le_antisymm evens.few (Nat.le_of_not_lt fun fewer => ?_)
  rcases lt_longest_iff.mp fewer with ⟨channel, fewer⟩
  have found :=
    evens.found.mpr ⟨channel, by rw [served]; exact List.not_mem_nil, fewer⟩
  rw [fruitless] at found
  cases found

/-- One more channel is served. -/
theorem served (evens : cycle.Evens rounds before now) {channel : Channel}
    {remaining : List Channel} (next : cycle.remaining = channel :: remaining)
    {gave : Bool} (shorter : later channel = (now channel).drop 1)
    (others : ∀ other ≠ channel, later other = now other)
    (gives : gave = true ↔ now channel ≠ []) :
    (cycle.served remaining gave).Evens rounds before later := by
  have distinct : cycle.remaining.Nodup := evens.part.sublist.nodup (by decide)
  rw [next] at distinct
  have absent : channel ∉ remaining := (List.nodup_cons.mp distinct).1
  have waited := evens.kept channel (next ▸ List.mem_cons_self)
  refine
    { part :=
      (next ▸ List.suffix_cons _ _ : remaining <:+ cycle.remaining).trans
        evens.part
      kept := fun other waits => ?_
      gone := fun other served => ?_
      found := ?_
      few := evens.few }
  · have differs : other ≠ channel := fun same => absent (same ▸ waits)
    rw [others other differs]
    exact evens.kept other (next ▸ List.mem_cons_of_mem _ waits)
  · by_cases same : other = channel
    · subst same
      rw [shorter, waited, List.drop_drop]
    · rw [others other same]
      refine evens.gone other fun waits => ?_
      rw [next] at waits
      exact (List.mem_cons.mp waits).elim same served
  · have now_found : gave = true ↔ rounds < (before channel).length := by
      rw [gives, waited, ne_eq, List.drop_eq_nil_iff, Nat.not_le]
    simp only [Cycle.served, Bool.or_eq_true, evens.found, now_found, next,
      List.mem_cons]
    constructor
    · rintro (⟨other, served, fewer⟩ | fewer)
      · exact ⟨other, fun waits => served (.inr waits), fewer⟩
      · exact ⟨channel, absent, fewer⟩
    · rintro ⟨other, served, fewer⟩
      by_cases same : other = channel
      · exact .inr (same ▸ fewer)
      · exact .inl ⟨other, fun waits => waits.elim same served, fewer⟩

end Cycle.Evens

/-! ## From the end of the loop to the end of the task -/

/-- Whether a thread has gone round the queues in a drain and has found
something. -/
def Control.endsRound : Control → Bool
  | .run (.cycle ⟨[], true, .drain⟩) => true
  | _ => false

/-- Whether the next step of a thread pushes an item or serves a channel for a
request. -/
def Control.disturbs : Control → Bool
  | .run (.push _) => true
  | .run (.cycle ⟨_, _, .answer⟩) => true
  | _ => false

namespace Control

theorem endsRound_of_served {cycle : Cycle} (served : cycle.remaining = [])
    (drains : cycle.after = .drain) :
    (Control.run (.cycle cycle)).endsRound = cycle.productive := by
  rcases cycle with ⟨_, productive, _⟩
  cases served
  cases drains
  cases productive <;> rfl

theorem endsRound_of_unserved {cycle : Cycle} {channel : Channel}
    {remaining : List Channel} (next : cycle.remaining = channel :: remaining) :
    (Control.run (.cycle cycle)).endsRound = false := by
  rcases cycle with ⟨_, _, _⟩
  cases next
  rfl

/-- Whoever is about an entry that was taken before does not end a round. -/
theorem endsRound_of_busy {stack : List (Frame κ)} {control : Control}
    (fits : control.Fits stack) (busy : stack ≠ [] ∨
      ∃ entry cycle, control = .run (.route entry cycle)) :
    control.endsRound = false := by
  rw [Bool.eq_false_iff]
  intro ends
  simp only [endsRound] at ends
  split at ends
  · rcases busy with filled | ⟨entry, cycle, routes⟩
    · exact filled fits
    · cases routes
  · cases ends

/-- Whoever is about such an entry serves a channel for a request only. -/
theorem answers_of_busy {stack : List (Frame κ)} {cycle : Cycle}
    (fits : (Control.run (.cycle cycle)).Fits stack)
    (busy : stack ≠ [] ∨
      ∃ entry other, Control.run (.cycle cycle) = .run (.route entry other)) :
    cycle.after = .answer := by
  rcases busy with filled | ⟨entry, other, routes⟩
  · rcases cycle with ⟨_, _, after⟩
    cases after with
    | answer => rfl
    | loop | drain => exact absurd fits filled
  · cases routes

end Control

namespace World

/-- How many rounds of its drain that found something a task has ended in the
given number of moments since it has left its loop. -/
def rounds (client : Client σ κ ν) (world : World σ κ ν)
    (run : List (Occurrence κ)) (task : ThreadId) (left moments : Nat) : Nat :=
  (List.range' left moments).countP fun moment =>
    (run[moment]?).any (·.isStepOf task) &&
      ((world.upTo client run moment).threads[task]?).any fun thread =>
        thread.control.endsRound

/-- In the given number of moments since a task has left its loop nothing is
submitted, and nobody else serves a channel. -/
def Undisturbed (client : Client σ κ ν) (world : World σ κ ν)
    (run : List (Occurrence κ)) (left moments : Nat) : Prop :=
  ∀ moment self thread, left ≤ moment → moment < left + moments →
    run[moment]? = some (.step self) →
      (world.upTo client run moment).threads[self]? = some thread →
        thread.control.disturbs = false

/-- At a moment of a run a task is about to take its last step. -/
def ExitsAt (client : Client σ κ ν) (world : World σ κ ν)
    (run : List (Occurrence κ)) (task : ThreadId) (moment : Nat) : Prop :=
  (world.upTo client run moment).threads[task]? =
    some ⟨.task, [], .run .farewell⟩

variable {client : Client σ κ ν} {world : World σ κ ν}
  {run : List (Occurrence κ)} {task : ThreadId} {left moments : Nat}

theorem rounds_of_step {thread : Thread κ}
    (steps : run[left + moments]? = some (.step task))
    (found : (world.upTo client run (left + moments)).threads[task]? =
      some thread) :
    world.rounds client run task left (moments + 1) =
      world.rounds client run task left moments +
        thread.control.endsRound.toNat := by
  rw [rounds, List.range'_1_concat, List.countP_append, List.countP_singleton,
    steps, found, ← rounds]
  cases ends : thread.control.endsRound <;> simp [Occurrence.isStepOf, ends]

theorem rounds_of_other
    (others : ∀ occurrence, run[left + moments]? = some occurrence →
      occurrence ≠ .step task) :
    world.rounds client run task left (moments + 1) =
      world.rounds client run task left moments := by
  have silent : (run[left + moments]?).any (·.isStepOf task) = false := by
    cases next : run[left + moments]? with
    | none => rfl
    | some occurrence =>
        rw [Option.any_some, Bool.eq_false_iff, ne_eq, Occurrence.isStepOf_iff]
        exact others occurrence next
  rw [rounds, List.range'_1_concat, List.countP_append,
    List.countP_singleton, silent, Bool.false_and, ← rounds]
  rfl

theorem Undisturbed.of_succ
    (undisturbed : world.Undisturbed client run left (moments + 1)) :
    world.Undisturbed client run left moments :=
  fun moment self thread after before =>
    undisturbed moment self thread after (Nat.lt_succ_of_lt before)

/-- A task is in a round of the drain that was begun at the moment `left`.  The
rounds that have found something have each taken an entry and at most thirteen
steps of their own. -/
structure Draining (client : Client σ κ ν) (world : World σ κ ν)
    (run : List (Occurrence κ)) (task : ThreadId) (left moments : Nat)
    (stack : List (Frame κ)) (control : Control) (cycle : Cycle) (rest : Nat) :
    Prop where
  found : (world.upTo client run (left + moments)).threads[task]? =
    some ⟨.task, stack, control⟩
  drains : cycle.after = .drain
  goes : cycle.Goes rest stack control
  few : world.servings client run task [] (left + moments) + rest ≤
    world.servings client run task
      [] left + 13 * (world.rounds client run task left moments + 1)
  fruitful :
    world.rounds client run task left moments + cycle.productive.toNat +
    (world.upTo client run left).shared.outlay ≤
      (world.upTo client run (left + moments)).shared.outlay
  empty : cycle.productive = false → ∀ channel, channel ∉ cycle.remaining →
    (world.upTo client run (left + moments)).shared.waiting channel = []
  evens : world.Undisturbed client run left moments →
    cycle.Evens (world.rounds client run task left moments)
      (world.upTo client run left).shared.waiting
      (world.upTo client run (left + moments)).shared.waiting

/-- A task has ended its last round and is about to take its last step. -/
structure Drained (client : Client σ κ ν) (world : World σ κ ν)
    (run : List (Occurrence κ)) (task : ThreadId) (left moments : Nat) :
    Prop where
  exits : world.ExitsAt client run task (left + moments)
  few : world.servings client run task [] (left + moments) ≤
    world.servings client run task
      [] left + 13 * (world.rounds client run task left moments + 1)
  fruitful : world.rounds client run task left moments +
    (world.upTo client run left).shared.outlay ≤
      (world.upTo client run (left + moments)).shared.outlay
  empty (channel : Channel) :
    (world.upTo client run (left + moments)).shared.waiting channel = []
  evens : world.Undisturbed client run left moments →
    world.rounds client run task left moments =
      longest (world.upTo client run left).shared.waiting

/-- How far a drain has come that was begun at the moment `left`. -/
inductive Drains (client : Client σ κ ν) (world : World σ κ ν)
    (run : List (Occurrence κ)) (task : ThreadId) (left moments : Nat) : Prop
  | goes {stack : List (Frame κ)} {control : Control} {cycle : Cycle}
      {rest : Nat}
      (draining : world.Draining client run task left moments stack control
        cycle rest) :
      Drains client world run task left moments
  | exits (drained : world.Drained client run task left moments) :
      Drains client world run task left moments
  | ended {exit : Nat} (after : left < exit) (before : exit < left + moments)
      (exits : world.ExitsAt client run task exit)
      (found : (world.upTo client run (left + moments)).threads[task]? =
        some ⟨.task, [], .answer .done⟩)
      (fruitful : world.rounds client run task left moments +
        (world.upTo client run left).shared.outlay ≤
          (world.upTo client run (left + moments)).shared.outlay) :
      Drains client world run task left moments

end World

namespace StopFinds

variable {client : Client σ κ ν} {world : World σ κ ν}
  {run : List (Occurrence κ)} {task : ThreadId} {asked left moments : Nat}

/-- The drain begins with a round that has found nothing yet. -/
theorem drains_begin (finds : StopFinds client world run task asked)
    (leaves : world.LeavesAt client run task left) (inside : left < run.length)
    (settings : (world.upTo client run left).shared.settings.drainOnStop =
      true) :
    world.Drains client run task left 1 := by
  have steps := finds.steps_next inside leaves rfl
  have stepped := World.steps_at steps leaves
  simp only [Shared.move, Shared.execute, Shared.leave, settings,
    if_true] at stepped
  have none : world.rounds client run task left 1 = 0 :=
    @World.rounds_of_step _ _ _ client world run task left 0 _ steps leaves
  have same : (world.upTo client run (left + 1)).shared =
      (world.upTo client run left).shared := stepped.1
  refine .goes ⟨stepped.2, rfl, .serves (Nat.le_refl 13), ?_, ?_, ?_, ?_⟩
  · rw [World.servings_of_step [] steps leaves, none]
    exact Nat.le_refl _
  · rw [none, same]
    exact Nat.le_of_eq (Nat.zero_add _)
  · exact fun _ channel served => absurd channel.mem_all served
  · intro _
    rw [none, same]
    exact .of_fresh _ (fun _ => rfl) (Nat.zero_le _)

/-- A task that is in a cycle has not ended. -/
theorem isLive_of_goes {cycle : Cycle} {rest : Nat} {stack : List (Frame κ)}
    {control : Control} {world : World σ κ ν}
    (found : world.threads[task]? = some ⟨.task, stack, control⟩)
    (goes : cycle.Goes rest stack control) : world.isLive task = true := by
  refine World.isLive_iff.mpr ⟨_, found, rfl, ?_⟩
  cases goes with
  | serves enough => rfl
  | routes entry found enough => rfl
  | calls frame waits found enough stands =>
      cases stack with
      | nil => exact absurd (List.suffix_nil.mp stands) (List.cons_ne_nil _ _)
      | cons top below => rfl

/-- Where nobody disturbs the drain, the queues stay as they are while the task
is about an entry that it has taken. -/
theorem waiting_eq (finds : StopFinds client world run task asked)
    (undisturbed : world.Undisturbed client run left (moments + 1))
    (inside : left + moments < run.length)
    (lives : (world.upTo client run (left + moments)).isLive task = true)
    (busy : run[left + moments]? = some (.step task) → ∀ thread cycle,
      (world.upTo client run (left + moments)).threads[task]? = some thread →
        thread.control = .run (.cycle cycle) → cycle.after = .answer) :
    (world.upTo client run (left + moments + 1)).shared.waiting =
      (world.upTo client run (left + moments)).shared.waiting := by
  have reached := finds.reachable (left + moments)
  have next : run[left + moments]? = some run[left + moments] :=
    List.getElem?_eq_getElem inside
  have becomes := World.becomes_at finds.allowed next
  funext channel
  by_cases still : ∀ self, run[left + moments] ≠ .step self
  · exact (becomes.sameItems still).waiting channel
  · simp only [not_forall, not_not] at still
    rcases still with ⟨self, step⟩
    rw [step] at next
    cases found : (world.upTo client run (left + moments)).threads[self]? with
    | none =>
        rw [World.upTo_succ next, World.after, World.step, found]
    | some thread =>
        have silent := undisturbed _ self thread (Nat.le_add_right _ _)
          (Nat.lt_succ_self (left + moments)) next found
        have handles :=
          (world.upTo client run (left + moments)).shared.move_handles client
            ((world.upTo client run (left + moments)).surroundings self)
          (reached.fits thread (List.mem_of_getElem? found))
        rw [(World.steps_at next found).1]
        refine handles.waiting_eq (fun item pushes => ?_)
          (fun cycle serves => ?_) channel
        · rw [pushes] at silent
          cases silent
        · -- Only the task itself serves channels for its loop or its drain.
          have own : cycle.after ≠ .answer := by
            rintro same
            rcases cycle with ⟨_, _, after⟩
            cases same
            rw [serves] at silent
            cases silent
          have loops : (Control.run (.cycle cycle)).isLoop = true := by
            rcases cycle with ⟨_, _, after⟩
            cases after with
            | answer => exact absurd rfl own
            | loop | drain => rfl
          have one := finds.alone _ (Nat.le_of_lt inside) lives self
            (reached.isLive_of_isLoop found serves loops)
          subst one
          exact own (busy next thread cycle found serves)

/-- A step of a task that drains the queues. -/
theorem drains_of_step (finds : StopFinds client world run task asked)
    (steps : run[left + moments]? = some (.step task)) {stack : List (Frame κ)}
    {control : Control} {cycle : Cycle} {rest : Nat}
    (draining : world.Draining client run task left moments stack control
      cycle rest) :
    world.Drains client run task left (moments + 1) := by
  rcases draining with ⟨found, drains, goes, few, fruitful, empty, evens⟩
  have inside : left + moments < run.length :=
    (List.getElem?_eq_some_iff.mp steps).1
  have member := List.mem_of_getElem? found
  have reached := finds.reachable (left + moments)
  have fits : control.Fits stack := reached.fits _ member
  have rounds : world.rounds client run task left (moments + 1) =
      world.rounds client run task left moments + control.endsRound.toNat :=
    World.rounds_of_step steps found
  have served : world.servings client run task [] (left + (moments + 1)) =
      world.servings client run task []
        (left + moments) + (control.serves [] stack).toNat :=
    World.servings_of_step [] steps found
  have own : (control.serves [] stack).toNat ≤ rest :=
    Nat.le_trans (Bool.toNat_le _) goes.inCycle.pos
  obtain ⟨fewer, rfl⟩ := Nat.exists_eq_add_of_le' own
  rcases Shared.move_moves client _
    ((world.upTo client run (left + moments)).surroundings task)
    fits (reached.tells _ member) goes with moves | escapes
  · obtain ⟨shared, stands⟩ := World.steps_at steps found
    generalize (world.upTo client run (left + moments)).shared.move client
      _ _ _ = turn
      at moves shared stands
    change (world.upTo client run (left + (moments + 1))).shared = _ at shared
    have few' :
        world.servings client run task [] (left + (moments + 1)) + fewer ≤
        world.servings client run task [] left +
          13 * (world.rounds client run task left moments + 1) := by
      rw [served]
      omega
    cases moves with
    | ends all =>
        rw [Control.endsRound_of_served all drains] at rounds
        change (world.upTo client run (left + (moments + 1))).threads[task]? =
          some ⟨.task, [], .run cycle.next⟩ at stands
        simp only [Cycle.next, drains] at stands
        cases productive : cycle.productive with
        | true =>
            rw [productive, Bool.toNat_true] at rounds fruitful
            rw [productive, if_pos rfl] at stands
            suffices draining :
              world.Draining client run task left (moments + 1) []
                (.run (.cycle (.fresh .drain))) (.fresh .drain) 13 from
                  .goes draining
            refine ⟨stands, rfl, .serves (Nat.le_refl 13), ?_, ?_, ?_,
              fun undisturbed => ?_⟩
            · omega
            · rw [shared, rounds]
              exact fruitful
            · exact fun _ channel gone => absurd channel.mem_all gone
            · rw [shared, rounds]
              exact (evens undisturbed.of_succ).next all productive .drain
        | false =>
            simp only [productive, Bool.toNat_false,
              Nat.add_zero] at rounds fruitful
            rw [productive, if_neg Bool.false_ne_true] at stands
            refine .exits ⟨stands, ?_, ?_, fun channel => ?_,
              fun undisturbed => ?_⟩
            · omega
            · rw [shared, rounds]
              exact fruitful
            · rw [shared]
              exact empty productive channel (all ▸ List.not_mem_nil)
            · rw [rounds]
              exact (evens undisturbed.of_succ).eq_longest all productive
    | @skips channel remaining next absent enough =>
        simp only [Control.endsRound_of_unserved next, Bool.toNat_false,
          Nat.add_zero] at rounds
        suffices draining : world.Draining client run task left (moments + 1) []
            (.run (.cycle (cycle.served remaining false)))
            (cycle.served remaining false) fewer
          from .goes draining
        refine ⟨stands, drains, .serves enough, ?_, ?_, ?_,
          fun undisturbed => ?_⟩
        · rw [rounds]
          exact few'
        · rw [shared, rounds, Cycle.served, Bool.or_false]
          exact fruitful
        · intro productive other gone
          rw [shared]
          by_cases same : other = channel
          · subst same
            exact absent
          · rw [Cycle.served, Bool.or_false] at productive
            refine empty productive other fun waits => ?_
            rw [next] at waits
            exact (List.mem_cons.mp waits).elim same gone
        · rw [shared, rounds]
          refine (evens undisturbed.of_succ).served next ?_ (fun _ _ => rfl) ?_
          · change (world.upTo client run (left + moments)).shared.waiting
              channel = _
            rw [absent]
            rfl
          · rw [absent]
            simp
    | @takes channel remaining entry dispatcher next popped enough =>
        simp only [Control.endsRound_of_unserved next, Bool.toNat_false,
          Nat.add_zero] at rounds
        have taken := Shared.waiting_of_pop popped
        suffices draining : world.Draining client run task left (moments + 1) []
            (.run (.route entry (cycle.served remaining true)))
            (cycle.served remaining true) fewer
          from .goes draining
        refine ⟨stands, drains, .routes entry (Bool.or_true _) enough, ?_, ?_,
          ?_, fun undisturbed => ?_⟩
        · rw [rounds]
          exact few'
        · have more :=
            (world.upTo client run (left + moments)).shared.outlay_of_drained
              entry
            dispatcher
          have at_most := Bool.toNat_le cycle.productive
          rw [shared, rounds, Cycle.served, Bool.or_true, Bool.toNat_true]
          change _ ≤ Shared.outlay (Shared.record _ _)
          rw [more]
          omega
        · intro productive
          rw [Cycle.served, Bool.or_true] at productive
          cases productive
        · rw [shared, rounds]
          refine (evens undisturbed.of_succ).served next ?_ taken.2 ?_
          · rw [taken.1]
            rfl
          · rw [taken.1]
            simp
    | goes busy productive onward =>
        simp only [Control.endsRound_of_busy fits busy, Bool.toNat_false,
          Nat.add_zero] at rounds
        refine .goes ⟨stands, drains, onward, ?_, ?_, ?_, fun undisturbed => ?_⟩
        · rw [rounds]
          exact few'
        · rw [rounds]
          exact Nat.le_trans fruitful (Shared.outlay_mono
            (World.journal_upTo finds.allowed (Nat.le_succ (left + moments))))
        · intro fruitless
          cases productive.symm.trans fruitless
        · have same :
              (world.upTo client run (left + (moments + 1))).shared.waiting =
              (world.upTo client run (left + moments)).shared.waiting := by
            refine finds.waiting_eq undisturbed inside
              (isLive_of_goes found goes) ?_
            rintro _ thread serving stands serves
            cases found.symm.trans stands
            cases (serves : control = .run (.cycle serving))
            exact Control.answers_of_busy fits busy
          rw [same, rounds]
          exact evens undisturbed.of_succ
  · exact absurd escapes
      (finds.not_escapes inside (World.steps_at steps found).1)

/-- A drain goes on while somebody else does something: then the task waits for
a callback. -/
theorem drains_of_other (finds : StopFinds client world run task asked)
    (inside : left + moments < run.length)
    (others : run[left + moments]? ≠ some (.step task)) {stack : List (Frame κ)}
    {control : Control} {cycle : Cycle} {rest : Nat}
    (draining : world.Draining client run task left moments stack control
      cycle rest) :
    world.Drains client run task left (moments + 1) := by
  rcases draining with ⟨found, drains, goes, few, fruitful, _, evens⟩
  have next : run[left + moments]? = some run[left + moments] :=
    List.getElem?_eq_getElem inside
  have others' : ∀ occurrence, run[left + moments]? = some occurrence →
      occurrence ≠ .step task :=
        fun occurrence happens same => others (same ▸ happens)
  have rounds : world.rounds client run task left (moments + 1) =
      world.rounds client run task left moments := World.rounds_of_other others'
  have served : world.servings client run task [] (left + (moments + 1)) =
      world.servings client run task [] (left + moments) :=
        World.servings_of_other [] others'
  have productive : cycle.productive = true := by
    cases goes with
    | serves enough => exact absurd (finds.steps_next inside found rfl) others
    | routes entry fruit enough => exact fruit
    | calls frame waits fruit enough stands => exact fruit
  rcases World.changes_at finds.allowed inside found with
    ⟨⟨role, stack', control'⟩, stands, changes⟩
  cases changes.role
  have fits :=
    (finds.reachable (left + moments)).fits _ (List.mem_of_getElem? found)
  have onward := goes.of_others fits changes (others' _ next)
  refine .goes ⟨stands, drains, onward, ?_, ?_, ?_, fun undisturbed => ?_⟩
  · rw [served, rounds]
    exact few
  · rw [rounds]
    exact Nat.le_trans fruitful (Shared.outlay_mono
      (World.journal_upTo finds.allowed (Nat.le_succ (left + moments))))
  · intro fruitless
    cases productive.symm.trans fruitless
  · have same : (world.upTo client run (left + (moments + 1))).shared.waiting =
        (world.upTo client run (left + moments)).shared.waiting :=
      finds.waiting_eq undisturbed inside (isLive_of_goes found goes)
        fun steps => absurd steps others
    rw [same, rounds]
    exact evens undisturbed.of_succ

/-- A drain goes on until the task has ended. -/
theorem drains_at (finds : StopFinds client world run task asked)
    (leaves : world.LeavesAt client run task left)
    (settings : (world.upTo client run left).shared.settings.drainOnStop = true)
    (later : 1 ≤ moments) (inside : left + moments ≤ run.length) :
    world.Drains client run task left moments := by
  induction moments, later using Nat.le_induction with
  | base => exact finds.drains_begin leaves inside settings
  | succ moments later inductionHypothesis =>
      have within : left + moments < run.length := inside
      have more : (world.upTo client run (left + moments)).shared.outlay ≤
          (world.upTo client run (left + moments + 1)).shared.outlay :=
        Shared.outlay_mono (World.journal_upTo finds.allowed (Nat.le_succ _))
      cases inductionHypothesis (Nat.le_of_lt within) with
      | goes draining =>
          by_cases steps : run[left + moments]? = some (.step task)
          · exact finds.drains_of_step steps draining
          · exact finds.drains_of_other within steps draining
      | exits drained =>
          have steps := finds.steps_next within drained.exits rfl
          have rounds : world.rounds client run task left (moments + 1) =
              world.rounds client run task left moments :=
            World.rounds_of_step steps drained.exits
          refine .ended (Nat.lt_add_of_pos_right later)
            (Nat.lt_succ_self (left + moments))
            drained.exits
            (World.steps_at steps drained.exits).2 ?_
          rw [rounds]
          exact Nat.le_trans drained.fruitful more
      | ended after before exits found fruitful =>
          rcases World.changes_at finds.allowed within found with
            ⟨later, stands, changes⟩
          have same := changes.of_ended rfl rfl
          subst same
          refine .ended after (Nat.lt_succ_of_lt before) exits stands
            (Nat.le_trans ?_ more)
          have rounds : world.rounds client run task left (moments + 1) =
              world.rounds client run task left moments := by
            by_cases steps : run[left + moments]? = some (.step task)
            · exact World.rounds_of_step steps found
            · exact World.rounds_of_other fun occurrence happens same =>
                steps (same ▸ happens)
          rw [rounds]
          exact fruitful

/-- A task that is about to take its last step after a drain has ended its last
round. -/
theorem drained_of_exits (finds : StopFinds client world run task asked)
    (leaves : world.LeavesAt client run task left)
    (settings : (world.upTo client run left).shared.settings.drainOnStop = true)
    (later : 1 ≤ moments) (inside : left + moments ≤ run.length)
    (exits : world.ExitsAt client run task (left + moments)) :
    world.Drained client run task left moments := by
  cases finds.drains_at leaves settings later inside with
  | goes draining =>
      cases exits.symm.trans draining.found
      cases draining.goes with
      | calls frame waits found enough stands =>
          exact absurd (List.suffix_nil.mp stands) (List.cons_ne_nil _ _)
  | exits drained => exact drained
  | ended after before exited found fruitful => cases exits.symm.trans found

end StopFinds

/-! ## What is handed over on the way -/

namespace World

variable {client : Client σ κ ν} {world : World σ κ ν}
  {run : List (Occurrence κ)} {task : ThreadId}

theorem isOrderlyAll_append (former latter : List (Occurrence κ)) :
    world.isOrderlyAll client (former ++ latter) =
      (world.isOrderlyAll client former &&
        (world.follow client former).isOrderlyAll client latter) := by
  induction former generalizing world with
  | nil => rfl
  | cons occurrence rest inductionHypothesis =>
      simp only [List.cons_append, isOrderlyAll, inductionHypothesis,
        Bool.and_assoc]
      rfl

/-- The entries that leave their queues between two moments of a run. -/
def routingsBetween (client : Client σ κ ν) (world : World σ κ ν)
    (run : List (Occurrence κ)) (earlier later : Nat) : List Routing :=
  (world.upTo client run earlier).allRoutings client
    ((run.take later).drop earlier)

/-- Between two moments of an orderly run at which nothing is due, the callbacks
with items are those that were due for the entries that have left their
queues. -/
theorem IsOpening.delivers_between (opening : world.IsOpening)
    (orderly : world.isOrderlyAll client run = true) {earlier later : Nat}
    (order : earlier ≤ later)
    (before : (world.upTo client run earlier).pending client = [])
    (after : (world.upTo client run later).pending client = []) :
    let routings := world.routingsBetween client run earlier later
    (world.upTo client run later).shared.departures =
        (world.upTo client run earlier).shared.departures ++ routings.map
          Routing.entry ∧
      (world.upTo client run later).shared.deliveries =
        (world.upTo client run earlier).shared.deliveries ++
          routings.filterMap Routing.destination := by
  intro routings
  have parts :
      run.take earlier ++ (run.take later).drop earlier = run.take later := by
    conv_rhs =>
      rw [← List.take_append_drop earlier (run.take later), List.take_take,
        Nat.min_eq_left order]
  have whole := (isOrderlyAll_take orderly later).1
  rw [← parts, isOrderlyAll_append, Bool.and_eq_true] at whole
  have former := OrderlyRun.of_opening opening whole.1
  have latter := former.follow whole.2
  have leads : (world.follow client (run.take earlier)).follow client
      ((run.take later).drop earlier) = world.upTo client run later := by
    rw [← follow_append, parts]
    rfl
  rw [leads] at latter
  rcases former.delivers with ⟨departed, delivered⟩
  rcases latter.delivers with ⟨departed', delivered'⟩
  rw [after, List.append_nil, List.filterMap_append] at delivered'
  change _ ++ (world.upTo client run earlier).pending client = _ at delivered
  rw [before, List.append_nil] at delivered
  rw [List.map_append, ← departed] at departed'
  rw [← delivered] at delivered'
  exact ⟨departed', delivered'⟩

/-- While all others rest, only what a thread itself is about to hand over is
due. -/
theorem pending_eq_nil_of_quiet {thread : Thread κ}
    (found : world.threads[task]? = some thread)
    (quiet : world.othersSuspended task = true)
    (silent : ∀ destination, thread.control.pending destination = []) :
    world.pending client = [] := by
  refine pending_eq_nil fun other member destination => ?_
  rcases List.getElem?_of_mem member with ⟨number, stands⟩
  by_cases same : number = task
  · subst same
    cases found.symm.trans stands
    exact silent destination
  · exact Thread.pending_of_isSuspended
      (isSuspended_of_othersSuspended quiet same stands) _

/-- What a task leaves behind that leaves its loop without a drain: it ends in
two steps, and no entry leaves its queue. -/
structure SparesBacklog (client : Client σ κ ν) (world : World σ κ ν)
    (run : List (Occurrence κ)) (task : ThreadId) (left : Nat) : Prop where
  ended : (world.upTo client run (left + 2)).ending? task = some .finished
  queues : (world.upTo client run (left + 2)).shared.dispatcher.queues =
    (world.upTo client run left).shared.dispatcher.queues
  departures : (world.upTo client run (left + 2)).shared.departures =
    (world.upTo client run left).shared.departures

/-- What a task leaves behind that takes its last step after a drain: the queues
are empty.  On each channel the entries that waited were routed, and behind them
those that were submitted meanwhile, in order, each to the destination that it
had when it left its queue.  If nobody disturbed the drain it took as many
rounds that found something as the longest queue had entries. -/
structure ClearsBacklog (client : Client σ κ ν) (world : World σ κ ν)
    (run : List (Occurrence κ)) (task : ThreadId) (left exit : Nat) : Prop where
  ended : (world.upTo client run (exit + 1)).ending? task = some .finished
  empty (channel : Channel) :
    (world.upTo client run (exit + 1)).shared.waiting channel = []
  routed (channel : Channel) : ∃ since,
    (world.upTo client run (exit + 1)).shared.submissions channel =
        (world.upTo client run left).shared.submissions channel ++ since ∧
      ((world.routingsBetween client run left (exit + 1)).map
        Routing.entry).filter
          (fun entry => entry.item.channel = channel) =
        (world.upTo client run left).shared.waiting channel ++ since
  delivered : (world.upTo client run (exit + 1)).shared.deliveries =
    (world.upTo client run left).shared.deliveries ++
      (world.routingsBetween client run left (exit + 1)).filterMap
        Routing.destination
  even : world.Undisturbed client run left (exit - left) →
    world.rounds client run task left (exit - left) =
      longest (world.upTo client run left).shared.waiting

end World

namespace StopFinds

variable {client : Client σ κ ν} {world : World σ κ ν}
  {run : List (Occurrence κ)} {task : ThreadId} {asked left exit : Nat}

theorem sparesBacklog (finds : StopFinds client world run task asked)
    (leaves : world.LeavesAt client run task left)
    (settings : (world.upTo client run left).shared.settings.drainOnStop =
      false)
    (inside : left + 2 ≤ run.length) :
    world.SparesBacklog client run task left := by
  have within : left + 1 < run.length := inside
  have leaving := World.steps_at
    (finds.steps_next (Nat.lt_of_succ_lt within) leaves rfl) leaves
  simp only [Shared.move, Shared.execute, Shared.leave, settings,
    Bool.false_eq_true, if_false] at leaving
  have ends := World.steps_at (finds.steps_next within leaving.2 rfl) leaving.2
  have same : (world.upTo client run (left + 1)).shared =
      (world.upTo client run left).shared := leaving.1
  have noticed : (world.upTo client run (left + 2)).shared =
      (world.upTo client run left).shared.notice
        (.taskStopped
          (world.upTo client run left).shared.dispatcher.depths.total) := by
    rw [← same]
    exact ends.1
  refine ⟨?_, ?_, ?_⟩
  · rw [World.ending?, ends.2]
    rfl
  · rw [noticed]
    rfl
  · rw [noticed]
    rfl

theorem clearsBacklog (finds : StopFinds client world run task asked)
    (leaves : world.LeavesAt client run task left)
    (settings : (world.upTo client run left).shared.settings.drainOnStop = true)
    (later : left < exit) (inside : exit < run.length)
    (exits : world.ExitsAt client run task exit) :
    world.ClearsBacklog client run task left exit := by
  obtain ⟨moments, rfl⟩ := Nat.exists_eq_add_of_lt later
  rw [Nat.add_assoc] at inside exits ⊢
  have drained := finds.drained_of_exits leaves settings (Nat.succ_pos moments)
    (Nat.le_of_lt inside) exits
  have steps := finds.steps_next inside exits rfl
  have ends := World.steps_at steps exits
  have waiting (channel : Channel) :
      (world.upTo client run (left + (moments + 1) + 1)).shared.waiting
        channel = [] := by
    rw [ends.1]
    exact drained.empty channel
  have began := finds.steps_next (Nat.lt_trans later inside) leaves rfl
  have before : (world.upTo client run left).pending client = [] :=
    World.pending_eq_nil_of_quiet leaves
      ((World.isOrderlyAll_take finds.orderly left).2 _ began) fun _ => rfl
  have after :
      (world.upTo client run (left + (moments + 1) + 1)).pending client =
      [] := by
    rw [World.upTo_succ steps]
    exact World.pending_step exits
      ((World.isOrderlyAll_take finds.orderly _).2 _ steps)
      ((finds.reachable _).fits _ (List.mem_of_getElem? exits))
  have order : left ≤ left + (moments + 1) + 1 :=
    Nat.le_succ_of_le (Nat.le_of_lt later)
  obtain ⟨departed, delivered⟩ :=
    finds.opening.delivers_between finds.orderly order before after
  refine ⟨?_, waiting, fun channel => ?_, delivered, fun undisturbed => ?_⟩
  · rw [World.ending?, ends.2]
    rfl
  · rcases Shared.submissions_prefix
      (World.journal_upTo finds.allowed order) channel with
      ⟨since, more⟩
    refine ⟨since, more.symm, ?_⟩
    have former := (finds.reachable left).inOrder channel
    have latter := (finds.reachable (left + (moments + 1) + 1)).inOrder channel
    have drainings :
        (world.upTo client run (left + (moments + 1) + 1)).shared.drainings
          channel =
        (world.upTo client run left).shared.drainings channel ++
          ((world.routingsBetween client run left
            (left + (moments + 1) + 1)).map
            Routing.entry).filter fun entry =>
              entry.item.channel = channel := by
      change (Shared.departures _).filter _ = _
      rw [departed, List.filter_append]
      rfl
    rw [waiting, List.append_nil, drainings, ← more, former,
      List.append_assoc] at latter
    exact (List.append_cancel_left latter).symm
  · rw [Nat.add_sub_cancel_left] at undisturbed ⊢
    exact drained.evens undisturbed

/-- A drain ends no more rounds that found something than entries waited or were
submitted meanwhile, and it takes at most thirteen steps of its own for each of
them and for the last. -/
theorem drain_bounded (finds : StopFinds client world run task asked)
    (leaves : world.LeavesAt client run task left)
    (settings : (world.upTo client run left).shared.settings.drainOnStop = true)
    {moments submitted : Nat} (inside : left + moments ≤ run.length)
    (counted : (world.upTo client run (left + moments)).shared.intake =
      (world.upTo client run left).shared.intake + submitted) :
    world.rounds client run task left moments ≤
        (world.upTo client run left).shared.backlog + submitted ∧
      (world.servings client run task [] (left + moments) ≤
          world.servings client run task [] left +
            13 * (world.rounds client run task left moments + 1) ∨
        ∃ exit, left < exit ∧ exit < left + moments ∧
          world.ExitsAt client run task exit ∧
          (world.upTo client run (left + moments)).ending? task =
            some .finished) := by
  have former := (finds.reachable left).inOrder.intake_eq
  have latter := (finds.reachable (left + moments)).inOrder.intake_eq
  cases moments with
  | zero => exact ⟨Nat.zero_le _, .inl (Nat.le_add_right _ _)⟩
  | succ moments =>
      have later : 1 ≤ moments + 1 := Nat.succ_pos moments
      cases finds.drains_at leaves settings later inside with
      | goes draining =>
          have fruitful := draining.fruitful
          have few := draining.few
          exact ⟨by omega, .inl (by omega)⟩
      | exits drained =>
          have fruitful := drained.fruitful
          exact ⟨by omega, .inl drained.few⟩
      | ended after before exits found fruitful =>
          refine ⟨by omega, .inr ⟨_, after, before, exits, ?_⟩⟩
          rw [World.ending?, found]
          rfl

/-- What a stop request does to a task and to the backlog.  The task takes its
next step at the moment `asked`, wherever it is, and no panic leaves a cycle.
* It never waits again and begins no other pass through the queues.  If the
  request found it in its loop, it goes on with the pass that it is in the
  middle of, for at most thirteen steps of its own, looks at the flag, and
  leaves.
* Without a drain it ends in two steps, and the queues stay as they are.
* With a drain it ends no more rounds that found something than entries waited
  when it left its loop or were submitted since, and it takes at most thirteen
  steps of its own for each of them and for the last round.  It ends with all
  queues empty, and every entry was routed in order.  If nobody submits or
  serves a channel meanwhile, it takes as many rounds that found something as
  the longest queue had entries. -/
theorem leaves_loop_and_settles_backlog
    (finds : StopFinds client world run task asked) :
    (∀ moment, asked < moment → moment ≤ run.length →
      (∃ thread, (world.upTo client run moment).threads[task]? = some thread ∧
          thread.control.waits = false) ∧
        ∀ thread, (world.upTo client run asked).threads[task]? = some thread →
          InLoop thread.stack thread.control →
            world.Winds client run task asked moment) ∧
      (∀ moment, asked ≤ moment →
        ¬ world.StepsAt client run task moment Begins ∧
          (world.LooksAt client run task moment → moment < run.length →
            world.LeavesAt client run task (moment + 1))) ∧
      (∀ left, world.LeavesAt client run task left →
        (world.upTo client run left).shared.settings.drainOnStop = false →
          left + 2 ≤ run.length → world.SparesBacklog client run task left) ∧
      ∀ left, world.LeavesAt client run task left →
        (world.upTo client run left).shared.settings.drainOnStop = true →
          (∀ moments submitted, left + moments ≤ run.length →
            (world.upTo client run (left + moments)).shared.intake =
                (world.upTo client run left).shared.intake + submitted →
              world.rounds client run task left moments ≤
                  (world.upTo client run left).shared.backlog + submitted ∧
                (world.servings client run task [] (left + moments) ≤
                    world.servings client run task [] left +
                      13 * (world.rounds client run task left moments + 1) ∨
                  ∃ exit, left < exit ∧ exit < left + moments ∧
                    world.ExitsAt client run task exit ∧
                      (world.upTo client run (left + moments)).ending? task =
                        some .finished)) ∧
            ∀ exit, left < exit → exit < run.length →
              world.ExitsAt client run task exit →
              world.ClearsBacklog client run task left exit :=
  ⟨fun _ after inside => ⟨finds.unwaiting_at after inside,
      fun _ found inLoop => finds.winds_at after inside found inLoop⟩,
    fun _ order => ⟨finds.not_begins order,
      fun looks inside => finds.leaves_of_looks order inside looks⟩,
    fun _ leaves settings inside => finds.sparesBacklog leaves settings inside,
    fun _ leaves settings =>
      ⟨fun _ _ inside counted => finds.drain_bounded leaves settings
        inside counted, fun _ later inside exits =>
          finds.clearsBacklog leaves settings later inside exits⟩⟩

/-- A stop finds a task with a drain at its wait while two packets stand in a
queue.  The task leaves its loop at its next look, and as nobody disturbs the
drain it ends after two rounds that found something, with both packets handed
over. -/
theorem leaves_loop_and_settles_backlog_of_waiting :
    let steps (thread : ThreadId) (number : Nat) :=
      List.replicate number (Occurrence.step thread : Occurrence Unit)
    let opening : World Unit Unit Unit :=
      .new (.new ⟨1, "app"⟩ (Settings.standard.withDrainOnStop true)
        (.application .new) ()) 1
    let run :=
      [.request 0 .start] ++ steps 0 2 ++ steps 1 3 ++
        [.request 0 (.submit (.packet 0 [1]))] ++ steps 0 5 ++
        [.request 0 (.submit (.packet 0 [2]))] ++ steps 0 5 ++
        [.request 0 .stop] ++ steps 0 3 ++ steps 1 22
    let ended := opening.upTo .accepting run 44
    (opening.upTo .accepting run 24).shared.backlog = 2 ∧
      opening.rounds .accepting run 1 24 19 = 2 ∧
      ended.ending? 1 = some .finished ∧
        (∀ channel, ended.shared.waiting channel = []) ∧
      ((opening.routingsBetween .accepting run 24 44).map Routing.entry).map
          (fun entry => entry.item) = [.packet 0 [1], .packet 0 [2]] := by
  intro steps opening run ended
  have opens : opening.IsOpening := .application _ _ _ _
  have few : ∀ moment < 45,
      (opening.upTo .accepting run moment).threads.length ≤ 2 := by
    decide +kernel
  have only : ∀ moment < 45, ∀ other < 2,
      (opening.upTo .accepting run moment).isLive other = true → other = 1 := by
    decide +kernel
  have calm : ¬ (opening.follow .accepting run).shared.Escaped := by
    decide +kernel
  have finds : StopFinds .accepting opening run 1 22 :=
    { opening := opens
      orderly := by decide +kernel
      steps := rfl
      works := by decide +kernel
      raised := by decide +kernel
      alone := fun moment inside _ other lives => by
        have within := World.lt_length_of_isLive lives
        have bound := few moment (Nat.lt_succ_of_le inside)
        exact only moment (Nat.lt_succ_of_le inside) other
          (Nat.lt_of_lt_of_le within bound) lives
      calm := calm }
  have quiet : ∀ moment < 43, 24 ≤ moment →
      ((opening.upTo .accepting run moment).threads.all fun thread =>
        thread.control.disturbs = false) = true := by decide +kernel
  obtain ⟨-, looks, -, drains⟩ := finds.leaves_loop_and_settles_backlog
  have leaves : opening.LeavesAt .accepting run 1 24 :=
    (looks 23 (by decide)).2 ⟨.recheck 0, by decide +kernel, .inr ⟨0, rfl⟩⟩
      (by decide +kernel)
  have clears :=
    (drains 24 leaves (by decide +kernel)).2 43 (by decide) (by decide +kernel)
      (by decide +kernel : (opening.upTo .accepting run 43).threads[1]? = _)
  refine ⟨by decide +kernel, ?_, clears.ended, clears.empty, by decide +kernel⟩
  refine (clears.even fun moment self thread order before _ found => ?_).trans
    (by decide +kernel)
  have silent := quiet moment before order
  rw [List.all_eq_true] at silent
  exact of_decide_eq_true (silent thread (List.mem_of_getElem? found))

/-- The panic of a payload that is destroyed ends a drain too early.  A stop
finds a task with a drain before its first look at the flag, while a video frame
and a packet wait.  The stream panics over the frame with a payload whose
destruction panics; the task dies of it in the middle of its drain, and the
packet stays queued.  No session was asked for its number. -/
theorem drain_dies_of_fragile_payload :
    let steps (thread : ThreadId) (number : Nat) :=
      List.replicate number (Occurrence.step thread : Occurrence Unit)
    let opening : World Unit Unit Unit :=
      .new (.new ⟨1, "app"⟩ (Settings.standard.withDrainOnStop true)
        (.application .new) ()) 1
    let frame := Item.frame .video (.new 1 "camera") (.video 0 0 0 [] true)
    let run :=
      [.request 0 (.create (.new 1 "camera"))] ++ steps 0 5 ++
        [.request 0 .start] ++ steps 0 2 ++ [.request 0 (.submit frame)] ++
          steps 0 5 ++
        [.request 0 (.submit (.packet 0 [1]))] ++ steps 0 5 ++
        [.request 0 .stop] ++ steps 0 3 ++ steps 1 7
    let now := opening.upTo .bursting run
    let ended := opening.follow .bursting run
    opening.IsOpening ∧ opening.isOrderlyAll .bursting run = true ∧
      (now 25).isLive 1 = true ∧
      (now 25).shared.dispatcher.stopRequested = true ∧
      opening.LeavesAt .bursting run 1 27 ∧
      (now 27).shared.settings.drainOnStop = true ∧
        ¬ ended.shared.NumberPanicked ∧
      ended.ending? 1 = some (.panicked .other) ∧
      (ended.shared.waiting .packets).length = 1 := by
  intro steps opening frame run now ended
  have leaves : opening.LeavesAt .bursting run 1 27 := by
    change (now 27).threads[1]? = _
    decide +kernel
  exact ⟨.application _ _ _ _,
  by decide +kernel,
    by decide +kernel,
      by decide +kernel, leaves,
        by decide +kernel,
          by decide +kernel, by decide +kernel, by decide +kernel⟩

end StopFinds

end Switchboard
