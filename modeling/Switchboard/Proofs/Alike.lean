import Switchboard.Proofs.Order

/-!
# States that deliveries cannot tell apart

Two states are alike if they agree on everything that deliveries depend on and
leave behind.  They may differ in the wake event, the stop flag, the slot, the
clock, the number of reports, the display name, and what the journal says about
these.  As long as nobody starts or stops anything, threads that do the same
thing in alike states make the same move, whenever their watches were started.
Client code may look at the switchboard meanwhile if it overlooks what may
differ, and it may ask for the display name where this is the same.
-/

namespace Switchboard

variable {σ κ ν : Type}

/-- Whether a request asks for a delivery: an item, a stream, or the end of
one. -/
def Request.isDelivery : Request → Bool
  | .submit _ | .create _ | .delete _ => true
  | _ => false

/-- Client code asks for deliveries only. -/
structure Client.OnlyDelivers (client : Client σ κ ν) : Prop where
  begins (callback : Callback) (state : σ) {request : Request} {next : κ}
    (asks : (client.begin callback state).move = .perform request next) :
    request.isDelivery = true
  resumes (suspended : κ) (response : Response) (state : σ)
    {request : Request} {next : κ}
    (asks : (client.resume suspended response state).move =
      .perform request next) :
    request.isDelivery = true

/-- Whether a request asks for a delivery, for a look, or for the display
name. -/
def Request.isMild : Request → Bool
  | .submit _ | .create _ | .delete _ | .inspect | .typeName => true
  | _ => false

theorem Request.isMild_of_isDelivery {request : Request}
    (delivery : request.isDelivery = true) : request.isMild = true := by
  cases request with
  | submit | create | delete => rfl
  | _ => cases delivery

/-- Whether a happening is a matter of clients: anything but notices and answers
to the question for the display name. -/
def Happening.isHeard : Happening ν → Bool
  | .noticed _ => false
  | .named _ _ => false
  | _ => true

/-- The counters without the number of reports. -/
def Counters.unreported (counters : Counters) : Counters :=
  { counters with reports := 0 }

/-- Two views show the same, but for what they tell of starts and stops, and for
the number of reports. -/
structure View.Alike (view view' : View) : Prop where
  identity : view.identity = view'.identity
  settings : view.settings = view'.settings
  depths : view.snapshot.depths = view'.snapshot.depths
  counters :
    view.snapshot.counters.unreported = view'.snapshot.counters.unreported
  registry : view.registry = view'.registry

/-- Client code asks for nothing but what is permitted, which is mild.  If it
looks at the switchboard, what a look tells of starts and stops, and of the
number of reports, makes no difference to it. -/
structure Client.AsksOnly (permits : Request → Bool) (client : Client σ κ ν) :
    Prop where
  mild {request : Request} (permitted : permits request = true) :
    request.isMild = true
  begins (callback : Callback) (state : σ) {request : Request} {next : κ}
    (asks : (client.begin callback state).move = .perform request next) :
    permits request = true
  resumes (suspended : κ) (response : Response) (state : σ)
    {request : Request} {next : κ}
    (asks : (client.resume suspended response state).move =
      .perform request next) :
    permits request = true
  overlooks (looks : permits .inspect = true) (suspended : κ)
    {view view' : View} (alike : view.Alike view') (state : σ) :
    client.resume suspended (.answered (.view view)) state =
      client.resume suspended (.answered (.view view')) state

theorem Client.OnlyDelivers.asksOnly {client : Client σ κ ν}
    (only : client.OnlyDelivers) :
    client.AsksOnly Request.isDelivery where
  mild := Request.isMild_of_isDelivery
  begins := only.begins
  resumes := only.resumes
  overlooks looks := by cases looks

namespace Shared

/-- What an application has settled of its display name, as long as it is
there. -/
def nameplate? (shared : Shared σ ν) : Option (Option String) :=
  match shared.host with
  | .application application => some application.typeName
  | .alone _ => none
  | .closed => none

theorem nameplate?_of_hosted {shared : Shared σ ν} {application : Application}
    (hosted : shared.host = .application application) :
    shared.nameplate? = some application.typeName := by
  simp only [nameplate?, hosted]

theorem nameplate?_eq {before after : Shared σ ν}
    (host : after.host = before.host) :
    after.nameplate? = before.nameplate? := by
  simp only [nameplate?, host]

/-- Somebody's application owns the dispatcher. -/
def IsHosted (shared : Shared σ ν) : Prop :=
  ∃ application, shared.host = .application application

/-- Two states agree on everything that deliveries depend on and leave
behind. -/
structure Alike (shared other : Shared σ ν) : Prop where
  identity : shared.identity = other.identity
  settings : shared.settings = other.settings
  registry : shared.registry = other.registry
  queues : shared.dispatcher.queues = other.dispatcher.queues
  counters :
    shared.dispatcher.counters.unreported = other.dispatcher.counters.unreported
  client : shared.client = other.client
  journal :
    shared.journal.filter Happening.isHeard =
      other.journal.filter Happening.isHeard

namespace Alike

variable {shared other third : Shared σ ν}

theorem refl (shared : Shared σ ν) : shared.Alike shared :=
  ⟨rfl, rfl, rfl, rfl, rfl, rfl, rfl⟩

theorem symm (alike : shared.Alike other) : other.Alike shared :=
  ⟨alike.identity.symm, alike.settings.symm, alike.registry.symm,
    alike.queues.symm, alike.counters.symm, alike.client.symm,
    alike.journal.symm⟩

theorem trans (former : shared.Alike other) (latter : other.Alike third) :
    shared.Alike third :=
  ⟨former.identity.trans latter.identity, former.settings.trans latter.settings,
    former.registry.trans latter.registry, former.queues.trans latter.queues,
    former.counters.trans latter.counters,
    former.client.trans latter.client, former.journal.trans latter.journal⟩

/-- The same happening is entered in both journals. -/
theorem record (alike : shared.Alike other) (happening : Happening ν) :
    (shared.record happening).Alike (other.record happening) where
  identity := alike.identity
  settings := alike.settings
  registry := alike.registry
  queues := alike.queues
  counters := alike.counters
  client := alike.client
  journal := by
    simp only [Shared.record, List.filter_cons, alike.journal]

/-- Notices make no difference. -/
theorem notice (alike : shared.Alike other) (notice notice' : Notice) :
    (shared.notice notice).Alike (other.notice notice') :=
  ⟨alike.identity, alike.settings, alike.registry, alike.queues, alike.counters,
    alike.client, alike.journal⟩

/-- The same is counted in both states, whatever has been reported. -/
theorem count (alike : shared.Alike other) (update : Counters → Counters)
    (commutes :
      ∀ counters, (update counters).unreported = update counters.unreported) :
    (shared.count update).Alike (other.count update) where
  identity := alike.identity
  settings := alike.settings
  registry := alike.registry
  queues := alike.queues
  counters := by
    change (update shared.dispatcher.counters).unreported =
      (update other.dispatcher.counters).unreported
    rw [commutes, commutes, alike.counters]
  client := alike.client
  journal := alike.journal

/-- Both registries change in the same way. -/
theorem withRegistry (alike : shared.Alike other) (registry : Registry) :
    ({ shared with registry := registry } : Shared σ ν).Alike
      { other with registry := registry } :=
  ⟨alike.identity, alike.settings, rfl, alike.queues, alike.counters,
    alike.client, alike.journal⟩

/-- Client code makes the same turn in both states. -/
theorem noting (alike : shared.Alike other) (turn : ClientTurn σ κ ν) :
    (shared.noting turn).Alike (other.noting turn) where
  identity := alike.identity
  settings := alike.settings
  registry := alike.registry
  queues := alike.queues
  counters := alike.counters
  client := rfl
  journal := by
    simp only [Shared.noting, List.filter_append, alike.journal]

/-- The same item is stamped in both states. -/
theorem stamp (alike : shared.Alike other) (item : Item) :
    (shared.dispatch (·.stamp item)).Alike (other.dispatch (·.stamp item)) := by
  cases item with
  | frame kind descriptor packet =>
      simp only [dispatch, Dispatcher.stamp]
      cases descriptor.presentationMillis? packet with
      | none => exact alike
      | some millis =>
          apply alike.count (·.stamped millis kind)
          intro counters
          cases kind <;> rfl
  | packet session data => exact alike

/-- The same item is pushed in both states, under the same number. -/
theorem push (alike : shared.Alike other) (item : Item) :
    shared.dispatcher.nextEntry item = other.dispatcher.nextEntry item ∧
      (shared.dispatch (·.push item)).Alike (other.dispatch (·.push item)) := by
  refine ⟨?_, alike.identity, alike.settings, alike.registry, ?_,
    alike.counters, alike.client, alike.journal⟩
  · simp only [Dispatcher.nextEntry, alike.queues]
  · simp only [dispatch, Dispatcher.push, alike.queues]

/-- The same entry is popped in both states. -/
theorem pop? (alike : shared.Alike other) (channel : Channel) :
    (shared.dispatcher.pop? channel = none ∧
      other.dispatcher.pop? channel = none) ∨
      ∃ entry dispatcher dispatcher',
        shared.dispatcher.pop? channel = some (entry, dispatcher) ∧
          other.dispatcher.pop? channel = some (entry, dispatcher') ∧
          ({ shared with dispatcher := dispatcher } : Shared σ ν).Alike
            { other with dispatcher := dispatcher' } := by
  simp only [Dispatcher.pop?, ← alike.queues]
  cases (shared.dispatcher.queues.get channel).pop? with
  | none => exact .inl ⟨rfl, rfl⟩
  | some popped =>
      exact .inr ⟨_, _, _, rfl, rfl, alike.identity, alike.settings,
        alike.registry, rfl, alike.counters, alike.client, alike.journal⟩

/-- Looks at the two states show the same. -/
theorem view (alike : shared.Alike other) (hosted : shared.IsHosted)
    (hosted' : other.IsHosted) (around around' : Surroundings) :
    ∃ seen seen', shared.view around = .view seen ∧
      other.view around' = .view seen' ∧
      seen.Alike seen' := by
  rcases hosted with ⟨application, hosted⟩
  rcases hosted' with ⟨application', hosted'⟩
  simp only [Shared.view, hosted, hosted']
  refine ⟨_, _, rfl, rfl, alike.identity, alike.settings, ?_, alike.counters,
    alike.registry⟩
  simp only [Dispatcher.snapshot, Dispatcher.depths, alike.queues]

end Alike

theorem askTypeName_alike (client : Client σ κ ν) (shared : Shared σ ν) :
    shared.Alike (askTypeName client shared).2 := by
  simp only [askTypeName]
  split <;> exact ⟨rfl, rfl, rfl, rfl, rfl, rfl, rfl⟩

/-- The question for the display name is answered alike, and settles the same,
where the same was settled before. -/
theorem Alike.askTypeName (client : Client σ κ ν) {shared other : Shared σ ν}
    (alike : shared.Alike other) (hosted : shared.IsHosted)
    (hosted' : other.IsHosted) (named : shared.nameplate? = other.nameplate?) :
    (askTypeName client shared).1 = (askTypeName client other).1 ∧
      (askTypeName client shared).2.Alike (askTypeName client other).2 ∧
        (askTypeName client shared).2.nameplate? =
        (askTypeName client other).2.nameplate? := by
  have asked := ((askTypeName_alike client shared).symm.trans alike).trans
    (askTypeName_alike client other)
  rcases hosted with ⟨application, hosted⟩
  rcases hosted' with ⟨application', hosted'⟩
  rw [nameplate?_of_hosted hosted, nameplate?_of_hosted hosted',
    Option.some.injEq] at named
  refine ⟨?_, asked, ?_⟩
  all_goals
    simp only [Shared.askTypeName, hosted, hosted',
      Application.askTypeName, named, alike.client]
  · split <;> rfl
  · exact congrArg some (by split <;> first | rfl | exact named)

end Shared

/-! ## Threads that do the same thing -/

/-- Two answers are the same, or such as two looks may show, if these are
permitted. -/
inductive Answer.Matches (permits : Request → Bool) : Answer → Answer → Prop
  | same (answer : Answer) : Matches permits answer answer
  | view (looks : permits .inspect = true) {view view' : View}
      (alike : view.Alike view') :
      Matches permits (.view view) (.view view')

theorem Answer.Matches.symm {permits : Request → Bool} {answer answer' : Answer}
    (same : answer.Matches permits answer') :
    answer'.Matches permits answer := by
  cases same with
  | same => exact .same _
  | view looks alike =>
      exact .view looks ⟨alike.identity.symm, alike.settings.symm,
        alike.depths.symm, alike.counters.symm, alike.registry.symm⟩

/-- Two cycles of dispatch loops are at the same point. -/
inductive Cycle.Matches : Cycle → Cycle → Prop
  | loop (remaining : List Channel) (productive : Bool) (watch watch' : Nat) :
      Matches ⟨remaining, productive, .loop watch⟩
        ⟨remaining, productive, .loop watch'⟩

/-- Two frames wait for the same thing, below which the same goes on.  Only a
looping thread stands in the middle of a cycle. -/
inductive Frame.Matches : Bool → Frame κ → Frame κ → Prop
  | client {looping} (callback : Option Callback) (state : κ) :
      Matches looping (.client callback state) (.client callback state)
  | sending (seq : UInt64) (kind : MediaKind) (streamId : UInt32)
      {cycle cycle' : Cycle} (same : cycle.Matches cycle') :
      Matches true (.sending seq kind streamId cycle)
        (.sending seq kind streamId cycle')
  | receiving (seq : UInt64) (session : SessionHandle) {cycle cycle' : Cycle}
      (same : cycle.Matches cycle') :
      Matches true (.receiving seq session cycle)
        (.receiving seq session cycle')
  | reporting (seq : UInt64) (session : SessionHandle) (payload : Payload)
      {cycle cycle' : Cycle} (same : cycle.Matches cycle') :
      Matches true (.reporting seq session payload cycle)
        (.reporting seq session payload cycle')
  | creating {looping} (descriptor : Descriptor) :
      Matches looping (.creating descriptor) (.creating descriptor)
  | losing {looping} (descriptor : Descriptor) (error : RegistryError) :
      Matches looping (.losing descriptor error) (.losing descriptor error)
  | releasing {looping} (descriptor : Descriptor) (stream : Stream) :
      Matches looping (.releasing descriptor stream)
        (.releasing descriptor stream)
  | stopping {looping} (descriptor : Descriptor) :
      Matches looping (.stopping descriptor) (.stopping descriptor)

/-- Two instructions are the same step of something that is permitted or, on a
looping thread, of a dispatch loop that does not wait. -/
inductive Instruction.Matches (permits : Request → Bool) :
    Bool → Instruction → Instruction → Prop
  | perform {looping} {request : Request} (permitted : permits request = true)
      (mild : request.isMild = true) :
      Matches permits looping (.perform request) (.perform request)
  | call {looping} (callback : Callback) :
      Matches permits looping (.call callback) (.call callback)
  | answer {looping} (answer : Answer) :
      Matches permits looping (.answer answer) (.answer answer)
  | stamp {looping} (item : Item) :
      Matches permits looping (.stamp item) (.stamp item)
  | push {looping} (item : Item) :
      Matches permits looping (.push item) (.push item)
  | signal {looping} (entry : Sequenced Item) (answer : Answer) :
      Matches permits looping (.signal (some entry) (.answer answer))
        (.signal (some entry) (.answer answer))
  | cycle {cycle cycle' : Cycle} (same : cycle.Matches cycle') :
      Matches permits true (.cycle cycle) (.cycle cycle')
  | route (entry : Sequenced Item) {cycle cycle' : Cycle}
      (same : cycle.Matches cycle') :
      Matches permits true (.route entry cycle) (.route entry cycle')
  | check (watch watch' : Nat) :
      Matches permits true (.check false watch) (.check false watch')
  | create {looping} (descriptor : Descriptor) :
      Matches permits looping (.create descriptor) (.create descriptor)
  | insert {looping} (descriptor : Descriptor) (stream : Stream) :
      Matches permits looping (.insert descriptor stream)
        (.insert descriptor stream)
  | delete {looping} (descriptor : Descriptor) :
      Matches permits looping (.delete descriptor) (.delete descriptor)
  | remove {looping} (descriptor : Descriptor) (stream : Stream) :
      Matches permits looping (.remove descriptor stream)
        (.remove descriptor stream)

/-- Two threads go on with the same thing. -/
inductive Control.Matches (permits : Request → Bool) : Bool → Control →
    Control → Prop
  | run {looping} {instruction instruction' : Instruction}
      (same : instruction.Matches permits looping instruction') :
      Matches permits looping (.run instruction) (.run instruction')
  | reply {looping} (reply : Reply) :
      Matches permits looping (.reply reply) (.reply reply)
  | answer {looping} {answer answer' : Answer}
      (same : answer.Matches permits answer') :
      Matches permits looping (.answer answer) (.answer answer')
  | raise {looping} (payload : Payload) :
      Matches permits looping (.raise payload) (.raise payload)

/-- Two turns leave the same thing to do in states that are alike. -/
structure Turn.Matches (permits : Request → Bool) (looping : Bool)
    (turn turn' : Turn σ κ ν) : Prop where
  shared : turn.shared.Alike turn'.shared
  stack : List.Forall₂ (Frame.Matches looping) turn.stack turn'.stack
  control : turn.control.Matches permits looping turn'.control

/-- A cycle of a dispatch loop that has served its channels and has found
nothing. -/
def Control.isFruitless : Control → Bool
  | .run (.cycle ⟨[], false, .loop _⟩) => true
  | _ => false

theorem Cycle.Matches.symm {cycle cycle' : Cycle}
    (same : cycle.Matches cycle') :
    cycle'.Matches cycle := by
  cases same
  exact .loop _ _ _ _

/-- What follows a loss is the same in both cycles. -/
theorem Cycle.Matches.afterLoss {permits : Request → Bool}
    {cycle cycle' : Cycle} (same : cycle.Matches cycle') (payload : Payload) :
    (cycle.afterLoss payload).Matches permits true
    (cycle'.afterLoss payload) := by
  simp only [Cycle.afterLoss]
  cases payload.aftermath? with
  | none => exact .run (.cycle same)
  | some next => exact .raise next

theorem Control.Matches.symm {permits : Request → Bool} {looping : Bool}
    {control control' : Control}
    (same : control.Matches permits looping control') :
    control'.Matches permits looping control := by
  cases same with
  | run same =>
      cases same with
      | cycle same => exact .run (.cycle same.symm)
      | route entry same => exact .run (.route entry same.symm)
      | perform permitted mild => exact .run (.perform permitted mild)
      | _ => exact .run (by constructor)
  | answer same => exact .answer same.symm
  | _ => constructor

/-- Where only deliveries are permitted nobody asks for the display name. -/
theorem Control.Matches.unnamed {looping : Bool} {control control' : Control}
    (same : control.Matches Request.isDelivery looping control') :
    control ≠ .run (.perform .typeName) := by
  rintro rfl
  cases same with
  | run same =>
      cases same with
      | perform permitted => cases permitted

theorem Frame.Matches.keeps_eq {looping : Bool} {frame frame' : Frame κ}
    (same : frame.Matches looping frame') (session : SessionHandle) :
    frame.keeps session = frame'.keeps session := by
  cases same <;> rfl

/-- The same sessions are kept alive. -/
theorem Frame.any_keeps_eq {looping : Bool} {stack stack' : List (Frame κ)}
    (frames : List.Forall₂ (Frame.Matches looping) stack stack')
    (session : SessionHandle) :
    stack.any (Frame.keeps session) = stack'.any (Frame.keeps session) := by
  induction frames with
  | nil => rfl
  | cons same _ inductionHypothesis =>
      rw [List.any_cons, List.any_cons, same.keeps_eq, inductionHypothesis]

namespace Shared

variable {permits : Request → Bool} {looping : Bool} {client : Client σ κ ν}
  {shared other : Shared σ ν} {stack stack' : List (Frame κ)}

theorem perform_matches (around around' : Surroundings)
    (alike : shared.Alike other) (hosted : shared.IsHosted)
    (hosted' : other.IsHosted)
    (frames : List.Forall₂ (Frame.Matches looping) stack stack')
    {request : Request} (permitted : permits request = true)
    (mild : request.isMild = true) (named : request = .typeName →
      shared.nameplate? = other.nameplate?) :
    (shared.perform client around stack request).Matches permits looping
      (other.perform client around' stack' request) := by
  obtain ⟨application, host⟩ := hosted
  obtain ⟨application', host'⟩ := hosted'
  cases request with
  | submit item =>
      simp only [perform, host, host']
      exact ⟨alike, frames, .run (.stamp item)⟩
  | create descriptor =>
      simp only [perform, host, host']
      exact ⟨alike, frames, .run (.create descriptor)⟩
  | delete descriptor =>
      simp only [perform, host, host']
      exact ⟨alike, frames, .run (.delete descriptor)⟩
  | inspect =>
      rcases alike.view ⟨_, host⟩ ⟨_, host'⟩ around around' with
        ⟨seen, seen', shows, shows', same⟩
      simp only [perform, host, host', shows, shows']
      exact ⟨alike, frames, .answer (.view permitted same)⟩
  | typeName =>
      rcases alike.askTypeName client ⟨_, host⟩ ⟨_, host'⟩ (named rfl) with
        ⟨same, asked, _⟩
      simp only [perform, host, host', same]
      exact ⟨asked, frames, .answer (.same _)⟩
  | _ => cases mild

theorem clientMove_matches (alike : shared.Alike other)
    (frames : List.Forall₂ (Frame.Matches looping) stack stack')
    (callback : Option Callback) {turn : ClientTurn σ κ ν}
    (asks : ∀ {request next}, turn.move = .perform request next →
      permits request = true ∧ request.isMild = true) :
    (shared.clientMove stack callback turn).Matches permits looping
      (other.clientMove stack' callback turn) := by
  have noted := alike.noting turn
  simp only [clientMove]
  cases move : turn.move with
  | perform request next =>
      rcases asks move with ⟨permitted, mild⟩
      exact ⟨noted, .cons (.client callback next) frames,
        .run (.perform permitted mild)⟩
  | finish reply =>
      refine ⟨?_, frames, .reply reply⟩
      cases callback with
      | none => exact noted
      | some callback => exact noted.record _
  | panic payload =>
      refine ⟨?_, frames, .raise payload⟩
      cases callback with
      | none => exact noted
      | some callback => exact noted.record _

theorem serve_matches (alike : shared.Alike other)
    (frames : List.Forall₂ (Frame.Matches true) stack stack')
    {cycle cycle' : Cycle} (same : cycle.Matches cycle')
    (fruitful : (Control.run (.cycle cycle)).isFruitless = false) :
    (shared.serve stack cycle).Matches permits true
    (other.serve stack' cycle') := by
  rcases same with ⟨remaining, productive, watch, watch'⟩
  cases remaining with
  | nil =>
      cases productive with
      | false => cases fruitful
      | true => exact ⟨alike, frames, .run (.check watch watch')⟩
  | cons channel remaining =>
      simp only [serve]
      obtain ⟨none, none'⟩ | ⟨entry, dispatcher, dispatcher', popped,
        popped', rest⟩ :=
        alike.pop? channel
      · rw [none, none']
        exact ⟨alike, frames, .run (.cycle (.loop _ _ _ _))⟩
      · rw [popped, popped']
        exact ⟨rest.record _, frames, .run (.route entry (.loop _ _ _ _))⟩

theorem route_matches (alike : shared.Alike other)
    {alive alive' : SessionHandle → Bool}
    (lives : ∀ session, alive session = alive' session)
    (frames : List.Forall₂ (Frame.Matches true) stack stack')
    (entry : Sequenced Item) {cycle cycle' : Cycle}
    (same : cycle.Matches cycle') :
    (shared.route alive stack entry cycle).Matches permits true
      (other.route alive' stack' entry cycle') := by
  simp only [route]
  split
  · rename_i kind descriptor packet _
    rw [← alike.registry]
    cases shared.registry.find? descriptor.id with
    | some stream =>
        exact ⟨alike, .cons (.sending _ _ _ same) frames, .run (.call _)⟩
    | none =>
        exact ⟨(alike.count .frameDropped fun _ => rfl).notice _ _, frames,
          .run (.cycle same)⟩
  · rename_i session data _
    rw [← lives session]
    cases alive session with
    | true => exact ⟨alike, .cons (.receiving _ _ same) frames, .run (.call _)⟩
    | false =>
        exact ⟨(alike.count .packetDropped fun _ => rfl).notice _ _, frames,
          .run (.cycle same)⟩

theorem check_matches (alike : shared.Alike other)
    (lowered : shared.dispatcher.stopRequested = false)
    (lowered' : other.dispatcher.stopRequested = false)
    (frames : List.Forall₂ (Frame.Matches true) stack stack')
    (watch watch' : Nat) :
    (shared.check stack false watch).Matches permits true
    (other.check stack' false watch') := by
  have reported {first second : Shared σ ν} (alike : first.Alike second) :
      first.reportDepths.Alike second :=
    ⟨alike.identity, alike.settings, alike.registry, alike.queues,
      alike.counters, alike.client, alike.journal⟩
  simp only [check, lowered, lowered', Bool.false_eq_true, ↓reduceIte]
  refine ⟨?_, frames, .run (.cycle (.loop _ _ _ _))⟩
  dsimp only [Turn.run, Turn.pass]
  cases shared.reportDue watch <;> cases other.reportDue watch'
  · exact alike
  · exact (reported alike.symm).symm
  · exact reported alike
  · exact reported (reported alike.symm).symm

theorem create_matches (alike : shared.Alike other)
    (frames : List.Forall₂ (Frame.Matches looping) stack stack')
    (descriptor : Descriptor) :
    (shared.create stack descriptor).Matches permits looping
    (other.create stack' descriptor) := by
  simp only [create]
  rw [← alike.registry, ← alike.settings]
  split
  · exact ⟨alike.notice _ _, frames, .answer (.same _)⟩
  · exact ⟨alike, .cons (.creating descriptor) frames, .run (.call _)⟩

theorem insert_matches (alike : shared.Alike other)
    (frames : List.Forall₂ (Frame.Matches looping) stack stack')
    (descriptor : Descriptor) (stream : Stream) :
    (shared.insert stack descriptor stream).Matches permits looping
      (other.insert stack' descriptor stream) := by
  simp only [insert]
  rw [← alike.registry]
  split
  · exact ⟨alike, .cons (.losing descriptor _) frames, .run (.call _)⟩
  · exact ⟨((alike.withRegistry _).notice _ _).notice _ _, frames,
      .answer (.same _)⟩

theorem delete_matches (alike : shared.Alike other)
    (frames : List.Forall₂ (Frame.Matches looping) stack stack')
    (descriptor : Descriptor) :
    (shared.delete stack descriptor).Matches permits looping
    (other.delete stack' descriptor) := by
  simp only [delete]
  rw [← alike.registry]
  split
  · exact ⟨alike.notice _ _, frames, .answer (.same _)⟩
  · exact ⟨alike, .cons (.releasing descriptor _) frames, .run (.call _)⟩

theorem remove_matches (alike : shared.Alike other)
    (frames : List.Forall₂ (Frame.Matches looping) stack stack')
    (descriptor : Descriptor) (stream : Stream) :
    (shared.remove stack descriptor stream).Matches permits looping
      (other.remove stack' descriptor stream) := by
  simp only [remove]
  rw [← alike.registry]
  split
  · exact ⟨alike, frames, .answer (.same _)⟩
  · exact ⟨(alike.withRegistry _).notice _ _,
      .cons (.stopping descriptor) frames, .run (.call _)⟩

theorem execute_matches {around around' : Surroundings}
    (only : client.AsksOnly permits) (alike : shared.Alike other)
    (hosted : shared.IsHosted) (hosted' : other.IsHosted)
    (keeps : ∀ session, around.keeps session = around'.keeps session)
    (frames : List.Forall₂ (Frame.Matches looping) stack stack')
    {instruction instruction' : Instruction}
    (same : instruction.Matches permits looping instruction')
    (named : instruction = .perform .typeName →
      shared.nameplate? = other.nameplate?)
    (lowered : ∀ watch, instruction = .check false watch →
      shared.dispatcher.stopRequested = false ∧
        other.dispatcher.stopRequested = false)
    (fruitful : (Control.run instruction).isFruitless = false) :
    (shared.execute client around stack instruction).Matches permits looping
      (other.execute client around' stack' instruction') := by
  cases same with
  | perform permitted mild =>
      exact perform_matches around around' alike hosted hosted' frames
        permitted mild
        fun asks => named (congrArg Instruction.perform asks)
  | call callback =>
      simp only [execute, ← alike.client]
      exact clientMove_matches (alike.record _) frames _ fun asks =>
        have permitted := only.begins _ _ asks
        ⟨permitted, only.mild permitted⟩
  | answer answer => exact ⟨alike, frames, .answer (.same answer)⟩
  | stamp item => exact ⟨alike.stamp item, frames, .run (.push item)⟩
  | push item =>
      rcases alike.push item with ⟨entry, pushed⟩
      simp only [execute, push, ← entry]
      exact ⟨pushed.record _, frames, .run (.signal _ _)⟩
  | signal entry answer =>
      exact ⟨⟨alike.identity, alike.settings, alike.registry, alike.queues,
        alike.counters, alike.client, alike.journal⟩, frames,
        .run (.answer answer)⟩
  | cycle same => exact serve_matches alike frames same fruitful
  | route entry same =>
      refine route_matches alike (fun session => ?_) frames entry same
      rw [alike.client, keeps session]
  | check watch watch' =>
      exact check_matches alike (lowered watch rfl).1
        (lowered watch rfl).2 frames watch watch'
  | create descriptor => exact create_matches alike frames descriptor
  | insert descriptor stream =>
      exact insert_matches alike frames descriptor stream
  | delete descriptor => exact delete_matches alike frames descriptor
  | remove descriptor stream =>
      exact remove_matches alike frames descriptor stream

theorem deliver_matches (only : client.AsksOnly permits)
    (alike : shared.Alike other)
    (frames : List.Forall₂ (Frame.Matches looping) stack stack')
    {control control' : Control}
    (controls : control.Matches permits looping control')
    (arrives : ∀ instruction, control ≠ .run instruction)
    {frame frame' : Frame κ} (same : frame.Matches looping frame') :
    (shared.deliver client stack control frame).Matches permits looping
      (other.deliver client stack' control' frame') := by
  have resumes {suspended : κ} {response : Response} {state : σ}
      {request : Request} {next : κ}
      (asks : (client.resume suspended response state).move =
        .perform request next) :
      permits request = true ∧ request.isMild = true :=
    have permitted := only.resumes suspended response state asks
    ⟨permitted, only.mild permitted⟩
  cases controls with
  | run same => exact absurd rfl (arrives _)
  | reply reply =>
      cases same with
      | client callback state => exact ⟨alike, frames, .reply reply⟩
      | sending seq kind streamId same =>
          refine ⟨alike.count _ fun counters => ?_, frames, .run (.cycle same)⟩
          cases kind <;> rfl
      | receiving seq session same =>
          exact ⟨alike.count _ fun _ => rfl, frames, .run (.cycle same)⟩
      | reporting seq session payload same =>
          exact ⟨alike.notice _ _, frames, same.afterLoss payload⟩
      | creating descriptor =>
          simp only [deliver, built]
          cases reply.stream with
          | none => exact ⟨alike.notice _ _, frames, .answer (.same _)⟩
          | some stream =>
              exact ⟨alike, frames, .run (.insert descriptor stream)⟩
      | losing descriptor error =>
          exact ⟨alike.notice _ _, frames, .answer (.same _)⟩
      | releasing descriptor stream =>
          simp only [deliver, released]
          cases reply.accepted with
          | true => exact ⟨alike, frames, .run (.remove descriptor stream)⟩
          | false => exact ⟨alike.notice _ _, frames, .answer (.same _)⟩
      | stopping descriptor =>
          exact ⟨alike.notice _ _, frames, .answer (.same _)⟩
  | @answer answer answer' answers =>
      cases same with
      | client callback state =>
          have resumed : client.resume state (.answered answer') other.client =
              client.resume state (.answered answer) shared.client := by
            rw [← alike.client]
            cases answers with
            | same => rfl
            | view looks seen => exact (only.overlooks looks state seen _).symm
          simp only [deliver, resumed]
          exact clientMove_matches alike frames callback resumes
      | _ => exact ⟨alike, frames, .answer answers⟩
  | raise payload =>
      cases same with
      | client callback state =>
          simp only [deliver, ← alike.client]
          exact clientMove_matches alike frames callback resumes
      | sending seq kind streamId same =>
          exact ⟨(alike.count .frameDropped fun _ => rfl).notice _ _, frames,
            same.afterLoss payload⟩
      | receiving seq session same =>
          exact ⟨alike.count .packetDropped fun _ => rfl,
            .cons (.reporting seq session payload same) frames, .run (.call _)⟩
      | _ => exact ⟨alike, frames, .raise payload⟩

/-- Threads that do the same thing in alike states make the same move. -/
theorem move_matches {around around' : Surroundings}
    (only : client.AsksOnly permits) (alike : shared.Alike other)
    (hosted : shared.IsHosted) (hosted' : other.IsHosted)
    (keeps : ∀ session, around.keeps session = around'.keeps session)
    (frames : List.Forall₂ (Frame.Matches looping) stack stack')
    {control control' : Control}
    (controls : control.Matches permits looping control')
    (named : control = .run (.perform .typeName) →
      shared.nameplate? = other.nameplate?)
    (lowered : ∀ watch, control = .run (.check false watch) →
      shared.dispatcher.stopRequested = false ∧
        other.dispatcher.stopRequested = false)
    (fruitful : control.isFruitless = false) :
    (shared.move client around stack control).Matches permits looping
      (other.move client around' stack' control') := by
  cases controls with
  | run same =>
      exact execute_matches only alike hosted hosted' keeps frames same
        (fun asks => named (congrArg Control.run asks))
        (fun watch runs => lowered watch (congrArg Control.run runs)) fruitful
  | reply reply =>
      cases frames with
      | nil => exact ⟨alike, .nil, .reply reply⟩
      | cons same frames =>
          exact deliver_matches only alike frames (.reply reply)
            (fun _ => Control.noConfusion) same
  | answer answers =>
      cases frames with
      | nil => exact ⟨alike, .nil, .answer answers⟩
      | cons same frames =>
          exact deliver_matches only alike frames (.answer answers)
            (fun _ => Control.noConfusion)
            same
  | raise payload =>
      cases frames with
      | nil => exact ⟨alike, .nil, .raise payload⟩
      | cons same frames =>
          exact deliver_matches only alike frames (.raise payload)
            (fun _ => Control.noConfusion)
            same

end Shared

end Switchboard
