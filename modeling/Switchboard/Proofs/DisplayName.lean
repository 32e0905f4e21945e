import Switchboard.Proofs.Alike
import Switchboard.Proofs.Slot

/-!
# The display name

The display name is asked for by callers, by a `start` that spawns a task, and
by a `stop` whose task has finished; the latter two show it in the log.  The
journal lists the evaluations, each with the publisher's own name at that time.
The first evaluation that finds the publisher there settles the name for good.
So the name of a publisher that does not come back once it is gone is settled at
the first evaluation or never.
-/

namespace Switchboard

variable {σ κ ν : Type}

/-! ## Evaluations -/

/-- One evaluation of the display name: the name of the publisher, if it was
there, and the answer. -/
structure Evaluation where
  publisher : Option String
  answer : String
  deriving DecidableEq

/-- The evaluation of which a happening tells. -/
def Happening.evaluation? : Happening ν → Option Evaluation
  | .named publisher name => some ⟨publisher, name⟩
  | _ => none

namespace Evaluation

/-- The display name that is settled after an evaluation: the one that was
settled before, or else that of the publisher. -/
def due? (settled publisher : Option String) : Option String :=
  settled.or (publisher.map Application.displayName)

/-- Evaluations, oldest first, and the display name that they have settled. -/
inductive Settle : List Evaluation → Option String → Prop
  | unasked : Settle [] none
  | asked {evaluations : List Evaluation} {settled : Option String}
      (before : Settle evaluations settled) (publisher : Option String) :
      Settle (evaluations ++ [⟨publisher, (due? settled publisher).getD ""⟩])
        (due? settled publisher)

/-- The name of the publisher at the first of some evaluations. -/
def first? (evaluations : List Evaluation) : Option String :=
  evaluations.head?.bind publisher

/-- What comes later does not change the first evaluation. -/
theorem first?_concat {evaluations : List Evaluation} (evaluation : Evaluation)
    (asked : evaluations ≠ []) :
    first? (evaluations ++ [evaluation]) = first? evaluations := by
  cases evaluations with
  | nil => exact absurd rfl asked
  | cons head rest => rfl

namespace Settle

variable {evaluations : List Evaluation} {settled : Option String}

/-- Before the first evaluation nothing is settled. -/
theorem eq_none (settle : Settle evaluations settled)
    (unasked : evaluations = []) :
    settled = none := by
  cases settle with
  | unasked => rfl
  | asked before publisher =>
      exact absurd unasked
        (List.append_ne_nil_of_right_ne_nil _ (List.cons_ne_nil _ _))

/-- A publisher that was there at the first evaluation has given its name to all
of them. -/
theorem of_there (settle : Settle evaluations settled) {name : String}
    (there : first? evaluations = some name) :
    settled = some (Application.displayName name) ∧
      ∀ evaluation ∈ evaluations,
        evaluation.answer = Application.displayName name := by
  induction settle with
  | unasked => cases there
  | @asked evaluations settled before publisher inductionHypothesis =>
      by_cases unasked : evaluations = []
      · cases before.eq_none unasked
        subst unasked
        cases there
        exact ⟨rfl, List.forall_mem_singleton.mpr rfl⟩
      · rw [first?_concat _ unasked] at there
        rcases inductionHypothesis there with ⟨rfl, answers⟩
        exact ⟨rfl,
          List.forall_mem_append.mpr
            ⟨answers, List.forall_mem_singleton.mpr rfl⟩⟩

/-- As long as the publisher was never there nothing is settled, and nothing is
answered. -/
theorem of_away (settle : Settle evaluations settled)
    (away : ∀ evaluation ∈ evaluations, evaluation.publisher = none) :
    settled = none ∧ ∀ evaluation ∈ evaluations, evaluation.answer = "" := by
  induction settle with
  | unasked => exact ⟨rfl, List.forall_mem_nil _⟩
  | asked before publisher inductionHypothesis =>
      rcases List.forall_mem_append.mp away with ⟨earlier, last⟩
      cases List.forall_mem_singleton.mp last
      rcases inductionHypothesis earlier with ⟨rfl, answers⟩
      exact ⟨rfl,
        List.forall_mem_append.mpr ⟨answers, List.forall_mem_singleton.mpr rfl⟩⟩

end Settle

end Evaluation

/-- Who asks for the display name. -/
inductive Asker where
  | caller
  | start
  | stop
  deriving DecidableEq

/-- The display name that is shown to who has asked: in the answer, or in the
newest line of the log. -/
def Asker.told? (journal : List (Happening ν)) (control : Control) : Asker →
    Option String
  | caller =>
      match control with
      | .answer (.typeName name) => some name
      | _ => none
  | start =>
      match journal with
      | .noticed (.applicationStarted name) :: _ => some name
      | _ => none
  | stop =>
      match journal with
      | .noticed (.applicationStopped name _) :: _ => some name
      | _ => none

namespace Shared

/-- The evaluations so far, oldest first. -/
def evaluations (shared : Shared σ ν) : List Evaluation :=
  (shared.journal.filterMap Happening.evaluation?).reverse

/-- The name of the publisher, if it is there now. -/
def publisher? (client : Client σ κ ν) (shared : Shared σ ν) : Option String :=
  client.publisherName shared.client

/-- Who asks for the display name of an application in a move: a caller, a
`start` that spawns a task, or a `stop` whose task has finished.  Once the
application is gone nobody asks it. -/
def asker? (client : Client σ κ ν) (shared : Shared σ ν) (around : Surroundings)
    (stack : List (Frame κ)) (control : Control) : Option Asker :=
  match control, shared.host with
  | .run (.perform .typeName), .application _ => some .caller
  | .run .start, .application _ =>
      if (shared.start client around stack).spawned then some .start else none
  | .run (.awaitTask task), .application _ =>
      if around.ending? task = some .finished then some .stop else none
  | _, _ => none

/-- A `start` that spawns no task does not ask. -/
theorem asker?_of_unspawned {client : Client σ κ ν} {shared : Shared σ ν}
    {around : Surroundings} {stack : List (Frame κ)}
    (unspawned : (shared.start client around stack).spawned = false) :
    shared.asker? client around stack (.run .start) = none := by
  cases hosted : shared.host with
  | application application =>
      simp only [asker?, hosted, unspawned]
      rfl
  | alone | closed => simp only [asker?, hosted]

/-- A `stop` does not ask unless its task has finished. -/
theorem asker?_of_unfinished {client : Client σ κ ν} {shared : Shared σ ν}
    {around : Surroundings} {stack : List (Frame κ)} {task : ThreadId}
    (unfinished : around.ending? task ≠ some .finished) :
    shared.asker? client around stack (.run (.awaitTask task)) = none := by
  cases hosted : shared.host with
  | application application => simp only [asker?, hosted, unfinished, if_false]
  | alone | closed => simp only [asker?, hosted]

/-- Nobody has asked for the display name.  What is settled of it stays, unless
the application is gone. -/
structure KeepsName (before after : Shared σ ν) : Prop where
  nameplate : after.nameplate? = before.nameplate? ∨ after.nameplate? = none
  evaluations : after.evaluations = before.evaluations

/-- Somebody has asked for the display name: the name that is due is settled,
entered in the list of evaluations, and told to who has asked. -/
structure Evaluates (client : Client σ κ ν) (before after : Shared σ ν)
    (settled told : Option String) : Prop where
  there : before.nameplate? = some settled
  nameplate :
    after.nameplate? = some (Evaluation.due? settled (before.publisher? client))
  evaluations :
    after.evaluations =
      before.evaluations ++
        [⟨before.publisher? client,
          (Evaluation.due? settled (before.publisher? client)).getD ""⟩]
  told : told =
    some ((Evaluation.due? settled (before.publisher? client)).getD "")

/-- What becomes of the display name, given who asks for it and what everybody
is told. -/
def Names (client : Client σ κ ν) (before after : Shared σ ν)
    (told? : Asker → Option String) :
    Option Asker → Prop
  | none => before.KeepsName after
  | some asker => ∃ settled, before.Evaluates client after settled (told? asker)

end Shared

/-- What a turn does to the display name, given who asks for it. -/
def Turn.Names (client : Client σ κ ν) (shared : Shared σ ν)
    (turn : Turn σ κ ν) :
    Option Asker → Prop :=
  shared.Names client turn.shared (·.told? turn.shared.journal turn.control)

/-- An application answers with the display name that is due, and remembers
it. -/
theorem Application.askTypeName_eq (application : Application)
    (publisher : Option String) :
    application.askTypeName publisher =
      ((Evaluation.due? application.typeName publisher).getD "",
        { application with
          typeName := Evaluation.due? application.typeName publisher }) := by
  rcases application with ⟨worker, locked, phase, typeName⟩
  cases typeName <;> cases publisher <;> rfl

/-! ## Moves in which somebody asks -/

namespace Shared

/-- The display name and what it depends on are the same. -/
structure SameName (before after : Shared σ ν) : Prop where
  nameplate : after.nameplate? = before.nameplate?
  client : after.client = before.client
  evaluations : after.evaluations = before.evaluations

theorem SameName.keepsName {before after : Shared σ ν}
    (same : before.SameName after) :
    before.KeepsName after :=
  ⟨.inl same.nameplate, same.evaluations⟩

theorem updateApplication_sameName (shared : Shared σ ν)
    (update : Application → Application)
    (keeps :
      ∀ application, (update application).typeName = application.typeName) :
    shared.SameName (shared.updateApplication update) := by
  simp only [updateApplication]
  split
  · rename_i application hosted
    refine ⟨?_, rfl, rfl⟩
    rw [nameplate?_of_hosted hosted]
    exact congrArg some (keeps application)
  · exact ⟨rfl, rfl, rfl⟩
  · exact ⟨rfl, rfl, rfl⟩

theorem noticeReplaced_sameName (shared : Shared σ ν) (task : ThreadId)
    (ending : Ending) :
    shared.SameName (shared.noticeReplaced task ending) := by
  cases ending <;> exact ⟨rfl, rfl, rfl⟩

/-- Who asks an application is answered with the display name that is due. -/
theorem askTypeName_evaluates (client : Client σ κ ν) {shared : Shared σ ν}
    {settled : Option String} (there : shared.nameplate? = some settled) :
    shared.Evaluates client (askTypeName client shared).2 settled
      (some (askTypeName client shared).1) := by
  have shown := there
  simp only [nameplate?] at shown
  split at shown
  · rename_i application hosted
    cases shown
    simp only [askTypeName, hosted, Application.askTypeName_eq]
    exact ⟨there, rfl, List.reverse_cons, rfl⟩
  · cases shown
  · cases shown

/-- What is due does not depend on anything but the display name. -/
theorem Evaluates.of_sameName {client : Client σ κ ν}
    {before after later : Shared σ ν} {settled told : Option String}
    (evaluates : after.Evaluates client later settled told)
    (same : before.SameName after) :
    before.Evaluates client later settled told := by
  rcases evaluates with ⟨there, nameplate, evaluations, told⟩
  have publisher : after.publisher? client = before.publisher? client :=
    congrArg client.publisherName same.client
  rw [publisher] at nameplate evaluations told
  rw [same.nameplate] at there
  rw [same.evaluations] at evaluations
  exact ⟨there, nameplate, evaluations, told⟩

variable (client : Client σ κ ν) (shared : Shared σ ν) (around : Surroundings)
  (stack : List (Frame κ))

theorem launch_evaluates {settled : Option String}
    (there : shared.nameplate? = some settled) (task : ThreadId) :
    let turn := shared.launch client stack task
    shared.Evaluates client turn.shared settled
      (Asker.start.told? turn.shared.journal turn.control) := by
  have updated : (shared.dispatch (·.withStop false)).SameName
      ((shared.dispatch (·.withStop false)).updateApplication fun application =>
        { application with worker := some task, phase := .running }) :=
    updateApplication_sameName _ _ fun _ => rfl
  have filled : shared.SameName _ :=
    ⟨updated.nameplate, updated.client, updated.evaluations⟩
  have there' := filled.nameplate.trans there
  have asked := (askTypeName_evaluates client there').of_sameName filled
  exact ⟨asked.there, asked.nameplate, asked.evaluations, asked.told⟩

/-- A `start` asks for the display name if it spawns a task, and otherwise
leaves it alone. -/
theorem start_names :
    (shared.start client around stack).Names client shared
      (shared.asker? client around stack (.run .start)) := by
  have still : shared.KeepsName shared := ⟨.inl rfl, rfl⟩
  cases hosted : shared.host with
  | alone | closed =>
      simp only [start, asker?, hosted]
      exact still
  | application application =>
      have there := nameplate?_of_hosted hosted
      simp only [asker?, start, hosted]
      cases application.locked with
      | true => exact still
      | false =>
          cases application.worker with
          | none => exact ⟨_, shared.launch_evaluates client stack there _⟩
          | some task =>
              simp only [Bool.false_eq_true, if_false]
              cases around.ending? task with
              | none => exact still
              | some ending =>
                  have replaced := shared.noticeReplaced_sameName task ending
                  have launched :=
                    launch_evaluates client (shared.noticeReplaced task ending)
                    stack (replaced.nameplate.trans there) around.fresh
                  exact ⟨_, launched.of_sameName replaced⟩

/-- A `stop` that has waited for its task asks for the display name if the task
has finished, and otherwise leaves it alone. -/
theorem awaitTask_names (task : ThreadId) :
    (shared.awaitTask client around stack task).Names client shared
      (shared.asker? client around stack (.run (.awaitTask task))) := by
  have unlocked : shared.SameName (shared.updateApplication fun application =>
      { application with locked := false, phase := .stopped }) :=
    shared.updateApplication_sameName _ fun _ => rfl
  cases hosted : shared.host with
  | alone | closed =>
      simp only [awaitTask, asker?, updateApplication, hosted]
      cases around.ending? task with
      | none => exact ⟨.inl rfl, rfl⟩
      | some ending =>
          cases ending <;> simp only [noticeStopped, askTypeName, hosted] <;>
            exact ⟨.inl rfl, rfl⟩
  | application application =>
      have there := unlocked.nameplate.trans (nameplate?_of_hosted hosted)
      simp only [awaitTask, asker?, hosted]
      cases around.ending? task with
      | none => exact ⟨.inl rfl, rfl⟩
      | some ending =>
          cases ending with
          | finished =>
              have asked :=
                (askTypeName_evaluates client there).of_sameName unlocked
              exact ⟨application.typeName, asked.there, asked.nameplate,
                asked.evaluations, asked.told⟩
          | panicked payload =>
              exact ⟨unlocked.keepsName.nameplate, unlocked.evaluations⟩
          | cancelled =>
              exact ⟨unlocked.keepsName.nameplate, unlocked.evaluations⟩

/-! ## Moves in which nobody asks -/

theorem clientMove_keepsName (callback : Option Callback)
    (turn : ClientTurn σ κ ν) :
    shared.KeepsName (shared.clientMove stack callback turn).shared := by
  have noted : shared.KeepsName (shared.noting turn) := by
    refine ⟨.inl rfl, congrArg List.reverse ?_⟩
    exact Happening.filterMap_notes (fun _ => rfl) turn.notes shared.journal
  simp only [clientMove]
  cases turn.move with
  | perform request next => exact noted
  | finish reply =>
      cases callback <;> exact ⟨noted.nameplate, noted.evaluations⟩
  | panic payload =>
      cases callback <;> exact ⟨noted.nameplate, noted.evaluations⟩

theorem serve_keepsName (cycle : Cycle) :
    shared.KeepsName (shared.serve stack cycle).shared := by
  simp only [serve]
  split
  · exact ⟨.inl rfl, rfl⟩
  · split <;> exact ⟨.inl rfl, rfl⟩

theorem route_keepsName (alive : SessionHandle → Bool) (entry : Sequenced Item)
    (cycle : Cycle) :
    shared.KeepsName (shared.route alive stack entry cycle).shared := by
  simp only [route]
  split <;> split <;> exact ⟨.inl rfl, rfl⟩

theorem check_keepsName (idle : Bool) (watch : Nat) :
    shared.KeepsName (shared.check stack idle watch).shared := by
  simp only [check]
  split
  · exact ⟨.inl rfl, rfl⟩
  · cases shared.reportDue watch <;> exact ⟨.inl rfl, rfl⟩

theorem stop_keepsName : shared.KeepsName (shared.stop stack).shared := by
  have same : (shared.stop stack).shared.evaluations = shared.evaluations :=
    congrArg (fun journal => (journal.filterMap Happening.evaluation?).reverse)
      (shared.stop_journal stack)
  refine ⟨.inl ?_, same⟩
  cases hosted : shared.host with
  | alone | closed =>
      simp only [stop, hosted]
      rfl
  | application application =>
      simp only [stop, hosted]
      cases application.locked with
      | true => rfl
      | false =>
          cases application.worker with
          | none => rfl
          | some task => exact (nameplate?_of_hosted hosted).symm

/-! ## All moves -/

theorem perform_names (request : Request) :
    (shared.perform client around stack request).Names client shared
      (shared.asker? client around stack (.run (.perform request))) := by
  cases hosted : shared.host with
  | closed =>
      simp only [perform, asker?, hosted]
      exact ⟨.inl rfl, rfl⟩
  | application application =>
      have there := nameplate?_of_hosted hosted
      cases request with
      | typeName =>
          have asked := askTypeName_evaluates client there
          simp only [perform, asker?, hosted]
          exact ⟨application.typeName, asked.there, asked.nameplate,
            asked.evaluations, asked.told⟩
      | close =>
          -- The application takes its display name along.
          simp only [perform, asker?, hosted]
          exact ⟨.inr rfl, rfl⟩
      | _ =>
          simp only [perform, asker?, hosted]
          exact ⟨.inl rfl, rfl⟩
  | alone task =>
      have still : shared.KeepsName shared := ⟨.inl rfl, rfl⟩
      cases request with
      | register id stream =>
          simp only [perform, asker?, hosted, register]
          split
          · exact still
          · exact ⟨.inr rfl, rfl⟩
      | unregister id =>
          simp only [perform, asker?, hosted, unregister]
          split
          · exact still
          · exact ⟨.inr rfl, rfl⟩
      | spawn =>
          cases task <;> simp only [perform, asker?, hosted]
          · exact ⟨.inr rfl, rfl⟩
          · exact still
      | join =>
          cases task <;> simp only [perform, asker?, hosted] <;> exact still
      | _ =>
          simp only [perform, asker?, hosted]
          exact ⟨.inl rfl, rfl⟩

theorem execute_names (instruction : Instruction) :
    (shared.execute client around stack instruction).Names client shared
      (shared.asker? client around stack (.run instruction)) := by
  cases instruction with
  | perform request => exact shared.perform_names client around stack request
  | call callback =>
      have called :=
        clientMove_keepsName (shared.record (.called callback)) stack
          (some callback)
        (client.begin callback shared.client)
      exact ⟨called.nameplate, called.evaluations⟩
  | cycle cycle => exact shared.serve_keepsName stack cycle
  | route entry cycle => exact shared.route_keepsName stack _ entry cycle
  | check idle watch => exact shared.check_keepsName stack idle watch
  | await watch =>
      simp only [execute, await]
      split <;> exact ⟨.inl rfl, rfl⟩
  | parked watch =>
      simp only [execute, parked]
      split <;> exact ⟨.inl rfl, rfl⟩
  | create descriptor =>
      simp only [execute, create]
      split <;> exact ⟨.inl rfl, rfl⟩
  | insert descriptor stream =>
      simp only [execute, insert]
      split <;> exact ⟨.inl rfl, rfl⟩
  | delete descriptor =>
      simp only [execute, delete]
      split <;> exact ⟨.inl rfl, rfl⟩
  | remove descriptor stream =>
      simp only [execute, remove]
      split <;> exact ⟨.inl rfl, rfl⟩
  | start => exact shared.start_names client around stack
  | stop => exact shared.stop_keepsName stack
  | awaitTask task => exact shared.awaitTask_names client around stack task
  | join task =>
      simp only [execute, join]
      split
      · exact ⟨.inl rfl, rfl⟩
      · exact ⟨.inr rfl, rfl⟩
  | _ => exact ⟨.inl rfl, rfl⟩

theorem deliver_keepsName (control : Control) (frame : Frame κ) :
    shared.KeepsName (shared.deliver client stack control frame).shared := by
  simp only [deliver]
  split
  case h_1 | h_2 => exact shared.clientMove_keepsName stack _ _
  case h_8 descriptor reply => cases reply.stream <;> exact ⟨.inl rfl, rfl⟩
  case h_10 descriptor stream reply => cases reply.accepted <;>
    exact ⟨.inl rfl, rfl⟩
  all_goals exact ⟨.inl rfl, rfl⟩

/-- In a move the display name is asked for by who is said to ask, and by nobody
else. -/
theorem move_names (control : Control) :
    (shared.move client around stack control).Names client shared
      (shared.asker? client around stack control) := by
  cases control with
  | run instruction =>
      exact shared.execute_names client around stack instruction
  | reply | answer | raise | cancelled =>
      cases stack with
      | nil => exact ⟨.inl rfl, rfl⟩
      | cons frame rest => exact shared.deliver_keepsName client rest _ frame

end Shared

/-! ## Occurrences -/

namespace World

variable {client : Client σ κ ν} {world : World σ κ ν}
  {occurrence : Occurrence κ}

/-- Who asks for the display name in an occurrence. -/
def asker? (client : Client σ κ ν) (world : World σ κ ν) : Occurrence κ →
    Option Asker
  | .step self =>
      (world.threads[self]?).bind fun thread =>
        world.shared.asker? client
          (world.surroundings self) thread.stack thread.control
  | _ => none

/-- The display name that an occurrence has shown to who has asked in it. -/
def told? (world : World σ κ ν) (asker : Asker) : Occurrence κ → Option String
  | .step self =>
      (world.threads[self]?).bind fun thread =>
        asker.told? world.shared.journal thread.control
  | _ => none

/-- All steps, from the request to the answer, of a `start` that finds its task
at work, of a `stop` that finds no task, and of a `stop` whose task dies. -/
inductive SparesName (world : World σ κ ν) : Instruction → Prop
  | startBegins : SparesName world (.perform .start)
  | startLocked {switch : Switch} (hosted : world.shared.switch? = some switch)
      (locked : switch.locked = true) : SparesName world .start
  | startLive {switch : Switch} {task : ThreadId}
      (hosted : world.shared.switch? = some switch)
      (unlocked : switch.locked = false) (held : switch.worker = some task)
      (lives : world.ending? task = none) : SparesName world .start
  | stopBegins : SparesName world (.perform .stop)
  | stopLooks : SparesName world .stop
  | stopSignals (task : ThreadId) :
      SparesName world (.signal none (.awaitTask task))
  | stopWaits {task : ThreadId} (lives : world.ending? task = none) :
      SparesName world (.awaitTask task)
  | stopDied {task : ThreadId} {ending : Ending}
      (ended : world.ending? task = some ending) (died : ending ≠ .finished) :
      SparesName world (.awaitTask task)

theorem SparesName.asker?_eq_none {instruction : Instruction}
    (spares : world.SparesName instruction) {self : ThreadId}
    {thread : Thread κ} (found : world.threads[self]? = some thread)
    (runs : thread.control = .run instruction) :
    world.asker? client (.step self) = none := by
  simp only [asker?, found, Option.bind_some, runs]
  cases spares with
  | startBegins | stopBegins | stopLooks | stopSignals => rfl
  | startLocked hosted locked =>
      apply Shared.asker?_of_unspawned
      rw [Shared.start_of_locked client _ _ hosted locked]
      rfl
  | startLive hosted unlocked held lives =>
      apply Shared.asker?_of_unspawned
      rw [Shared.start_of_live client _ _ hosted unlocked held lives]
      rfl
  | stopWaits lives =>
      apply Shared.asker?_of_unfinished
      intro finished
      cases lives.symm.trans finished
  | stopDied ended died =>
      apply Shared.asker?_of_unfinished
      intro finished
      exact died (Option.some.inj (ended.symm.trans finished))

/-- In an occurrence the display name is asked for by who is said to ask, and by
nobody else. -/
theorem after_names (client : Client σ κ ν) (world : World σ κ ν)
    (occurrence : Occurrence κ) :
    let next := world.after client occurrence
    world.shared.Names client next.shared (next.told? · occurrence)
      (world.asker? client occurrence) := by
  intro next
  have still : world.shared.KeepsName world.shared := ⟨.inl rfl, rfl⟩
  cases occurrence with
  | step self =>
      cases found : world.threads[self]? with
      | none =>
          simp only [next, after, step, asker?, found]
          exact still
      | some thread =>
          rcases step_self client found with ⟨shared, moved⟩
          have names :=
            world.shared.move_names client
              (world.surroundings self) thread.stack
            thread.control
          simp only [next, after, told?, asker?, found, shared, moved,
            Option.bind_some]
          exact names
  | abandon self =>
      have unlocked := world.shared.updateApplication_sameName
        (fun application : Application => { application with locked := false })
          fun _ => rfl
      simp only [next, after, abandon, asker?]
      split
      · exact still
      · exact still
      · exact still
      · exact unlocked.keepsName
      · exact still
  | cancel task =>
      simp only [next, after, cancel, asker?]
      split
      · exact still
      · exact ⟨.inl rfl, rfl⟩
      · exact still
  | _ => exact ⟨.inl rfl, rfl⟩

end World

/-! ## Runs -/

/-- What an application has settled of its display name is what the evaluations
have settled. -/
def Shared.IsSettled (shared : Shared σ ν) : Prop :=
  ∃ settled, Evaluation.Settle shared.evaluations settled ∧
    (shared.nameplate? = some settled ∨ shared.nameplate? = none)

theorem Shared.Names.isSettled {client : Client σ κ ν}
    {before after : Shared σ ν} {told? : Asker → Option String}
    {asker? : Option Asker} (names : before.Names client after told? asker?)
    (isSettled : before.IsSettled) :
    after.IsSettled := by
  rcases isSettled with ⟨settled, settle, shown⟩
  cases asker? with
  | none =>
      rcases names with ⟨nameplate, evaluations⟩
      refine ⟨settled, evaluations ▸ settle, ?_⟩
      rcases nameplate with same | gone
      · rw [same]
        exact shown
      · exact .inr gone
  | some asker =>
      rcases names with ⟨settled', there, nameplate, evaluations, _⟩
      -- Only an application that is there can be asked, and it shows what was
      -- settled.
      have same : settled' = settled := by
        rcases shown with shown | gone
        · exact Option.some.inj (there.symm.trans shown)
        · cases there.symm.trans gone
      subst same
      refine ⟨_, ?_, .inl nameplate⟩
      rw [evaluations]
      exact settle.asked _

namespace World

variable {client : Client σ κ ν} {world : World σ κ ν}
  {run : List (Occurrence κ)} {occurrence : Occurrence κ} {moment : Nat}

theorem follow_isSettled (client : Client σ κ ν)
    (isSettled : world.shared.IsSettled) (run : List (Occurrence κ)) :
    (world.follow client run).shared.IsSettled := by
  induction run generalizing world with
  | nil => exact isSettled
  | cons occurrence rest inductionHypothesis =>
      exact inductionHypothesis
        ((world.after_names client occurrence).isSettled isSettled)

/-- What happens to the display name at a moment of a run. -/
theorem names_at (client : Client σ κ ν) (world : World σ κ ν)
    (next : run[moment]? = some occurrence) :
    (world.upTo client run moment).shared.Names client
      (world.upTo client run (moment + 1)).shared
      ((world.upTo client run (moment + 1)).told? · occurrence)
      ((world.upTo client run moment).asker? client occurrence) := by
  rw [upTo_succ next]
  exact after_names client _ occurrence

/-- A publisher that is gone at a moment of a run does not come back. -/
def LosesForGood (client : Client σ κ ν) (world : World σ κ ν)
    (run : List (Occurrence κ)) :
    Prop :=
  ∀ earlier later, earlier ≤ later → later ≤ run.length →
    (world.upTo client run earlier).shared.publisher? client = none →
    (world.upTo client run later).shared.publisher? client = none

/-- A publisher that does not come back is gone once an evaluation has not found
it; if the first evaluation has not found it, no evaluation has. -/
theorem LosesForGood.away_upTo (forGood : world.LosesForGood client run)
    (unasked : world.shared.evaluations = []) (inside : moment ≤ run.length) :
    let now := (world.upTo client run moment).shared
    (∀ evaluation ∈ now.evaluations, evaluation.publisher = none →
      now.publisher? client = none) ∧
      (Evaluation.first? now.evaluations = none →
        ∀ evaluation ∈ now.evaluations, evaluation.publisher = none) := by
  induction moment with
  | zero =>
      simp only [upTo_zero, unasked]
      exact ⟨List.forall_mem_nil _, fun _ => List.forall_mem_nil _⟩
  | succ moment inductionHypothesis =>
      rcases inductionHypothesis (Nat.le_of_succ_le inside) with ⟨gone, away⟩
      have next : run[moment]? = some run[moment] :=
        List.getElem?_eq_getElem inside
      have stays := forGood moment (moment + 1) (Nat.le_succ moment) inside
      have names := names_at client world next
      cases asks : (world.upTo client run moment).asker? client run[moment] with
      | none =>
          rw [asks] at names
          simp only [names.evaluations]
          exact ⟨fun evaluation member absent => stays
            (gone evaluation member absent), away⟩
      | some asker =>
          rw [asks] at names
          rcases names with ⟨settled, there, nameplate, evaluations, told⟩
          simp only [evaluations, List.forall_mem_append,
            List.forall_mem_singleton]
          refine ⟨⟨fun evaluation member absent => stays
            (gone evaluation member absent), stays⟩, fun first => ?_⟩
          -- This evaluation is the first one, or an earlier one has not found
          -- the publisher.
          by_cases new : (world.upTo client run moment).shared.evaluations = []
          · rw [new] at first
            exact ⟨new ▸ List.forall_mem_nil _, first⟩
          · rw [Evaluation.first?_concat _ new] at first
            rcases List.exists_mem_of_ne_nil _ new with ⟨evaluation, member⟩
            exact ⟨away first,
              gone evaluation member (away first evaluation member)⟩

/-- Before anything has happened nobody has asked for the display name. -/
theorem IsOpening.unasked (opening : world.IsOpening) :
    world.shared.evaluations = [] ∧ world.shared.IsSettled := by
  cases opening with
  | application => exact ⟨rfl, none, .unasked, .inl rfl⟩
  | alone => exact ⟨rfl, none, .unasked, .inr rfl⟩

/-- How the display name is settled in the course of a run, and who has it
evaluated. -/
structure SettlesName (client : Client σ κ ν) (world : World σ κ ν)
    (run : List (Occurrence κ)) :
    Prop where
  /-- If the publisher is there at the first evaluation, then every evaluation
  answers with the name that the publisher had at the first. -/
  there (name : String)
    (first : Evaluation.first? (world.follow client run).shared.evaluations =
      some name) :
    ∀ evaluation ∈ (world.follow client run).shared.evaluations,
      evaluation.answer = name ++ " Application"
  /-- If it is not there, then every evaluation answers with nothing, provided
  that a publisher which is gone does not come back. -/
  away (forGood : world.LosesForGood client run)
    (first : Evaluation.first? (world.follow client run).shared.evaluations =
      none) :
    ∀ evaluation ∈ (world.follow client run).shared.evaluations,
      evaluation.answer = ""
  /-- At the beginning nobody has asked. -/
  unasked : world.shared.evaluations = []
  /-- The name is evaluated if somebody asks for it: a caller, a `start` that
  spawns a task, or a `stop` whose task has finished.  The evaluation finds the
  publisher as it is at this moment, and its answer is what the caller is told
  or the log shows. -/
  asked (moment : Nat) (occurrence : Occurrence κ)
    (next : run[moment]? = some occurrence) (asker : Asker)
    (asks : (world.upTo client run moment).asker? client occurrence =
      some asker) :
    ∃ answer,
      (world.upTo client run (moment + 1)).shared.evaluations =
        (world.upTo client run moment).shared.evaluations ++
          [⟨(world.upTo client run moment).shared.publisher? client, answer⟩] ∧
      (world.upTo client run (moment + 1)).told? asker occurrence = some answer
  /-- It is not evaluated if nobody asks for it. -/
  silent (moment : Nat) (occurrence : Occurrence κ)
    (next : run[moment]? = some occurrence)
    (nobody : (world.upTo client run moment).asker? client occurrence = none) :
    (world.upTo client run (moment + 1)).shared.evaluations =
      (world.upTo client run moment).shared.evaluations
  /-- No step of a `start` that finds its task at work, of a `stop` that finds
  no task, or of a `stop` whose task dies evaluates anything. -/
  spared (moment : Nat) (self : ThreadId) (thread : Thread κ)
    (instruction : Instruction) (steps : run[moment]? = some (.step self))
    (found : (world.upTo client run moment).threads[self]? = some thread)
    (runs : thread.control = .run instruction)
    (spares : (world.upTo client run moment).SparesName instruction) :
    (world.upTo client run (moment + 1)).shared.evaluations =
      (world.upTo client run moment).shared.evaluations

/-- The display name is settled once, in every run. -/
theorem IsOpening.settles_display_name (opening : world.IsOpening)
    (client : Client σ κ ν) (run : List (Occurrence κ)) :
    world.SettlesName client run := by
  rcases opening.unasked with ⟨unasked, isSettled⟩
  rcases follow_isSettled client isSettled run with ⟨settled, settle, _⟩
  have silent (moment : Nat) (occurrence : Occurrence κ)
      (next : run[moment]? = some occurrence)
      (nobody : (world.upTo client run moment).asker? client occurrence =
        none) :
      (world.upTo client run (moment + 1)).shared.evaluations =
        (world.upTo client run moment).shared.evaluations := by
    have names := names_at client world next
    rw [nobody] at names
    exact names.evaluations
  refine ⟨fun name there => (settle.of_there there).2,
    fun forGood first => ?_, unasked,
    fun moment occurrence next asker asks => ?_, silent,
    fun moment self thread instruction steps found runs spares =>
      silent moment _ steps (spares.asker?_eq_none found runs)⟩
  · have away := (forGood.away_upTo unasked (Nat.le_refl run.length)).2
    rw [upTo_length] at away
    exact (settle.of_away (away first)).2
  · have names := names_at client world next
    rw [asks] at names
    rcases names with ⟨settled, there, nameplate, evaluations, told⟩
    exact ⟨_, evaluations, told⟩

end World

/-- Client code that does nothing but give the publisher another name, or drop
it. -/
def Client.renaming : Client (Option String) (Option String) Unit where
  begin _ publisher :=
    { state := publisher
      notes := []
      move := .finish .plain }
  resume publisher _ _ :=
    { state := publisher
      notes := []
      move := .finish .plain }
  holds _ _ := true
  publisherName publisher := publisher

/-- A publisher changes its name after the first evaluation and is dropped then:
this does not change the display name.  If the publisher is dropped before the
first evaluation, there is no display name. -/
theorem World.IsOpening.settles_display_name_of_dropped_publisher :
    let steps (number : Nat) (thread : ThreadId) :=
      List.replicate number
        (Occurrence.step thread : Occurrence (Option String))
    let ask (request : Request) (number : Nat) :=
      .request 0 request :: steps number 0
    let publish (name : Option String) := .hand 0 name :: steps 1 0
    let opening : World (Option String) (Option String) Unit :=
      .new (.new ⟨1, "app"⟩ .standard (.application .new) (some "HLS")) 1
    let late :=
      ask .start 2 ++ publish (some "DASH") ++ ask .typeName 1 ++
        publish none ++ ask .stop 3 ++
        steps 10 1 ++ steps 1 0 ++ ask .typeName 1
    let early := publish none ++ ask .start 2 ++ ask .typeName 1
    let evaluations (run : List (Occurrence (Option String))) :=
      (opening.follow .renaming run).shared.evaluations
    opening.IsOpening ∧
      (evaluations late).map Evaluation.publisher =
      [some "HLS", some "DASH", none, none] ∧
      (∀ evaluation ∈ evaluations late, evaluation.answer = "HLS Application") ∧
      opening.LosesForGood .renaming early ∧
      (evaluations early).map Evaluation.publisher = [none, none] ∧
      ∀ evaluation ∈ evaluations early, evaluation.answer = "" := by
  intro steps ask publish opening late early evaluations
  have isOpening : opening.IsOpening := .application _ _ _ _
  have forGood : opening.LosesForGood .renaming early := by
    have everywhere : ∀ later < early.length + 1, ∀ earlier < later + 1,
        (opening.upTo .renaming early earlier).shared.publisher? .renaming =
          none →
          (opening.upTo .renaming early later).shared.publisher? .renaming =
            none := by
      decide +kernel
    intro earlier later order inside
    exact everywhere later (Nat.lt_succ_of_le inside) earlier
      (Nat.lt_succ_of_le order)
  refine ⟨isOpening, by decide +kernel, ?_, forGood, by decide +kernel, ?_⟩
  · exact (isOpening.settles_display_name .renaming late).there "HLS"
      (by decide +kernel)
  · exact (isOpening.settles_display_name .renaming early).away forGood
      (by decide +kernel)

end Switchboard
