import Switchboard.Proofs.Handling

/-!
# First in, first out

The journal tells which entries were submitted and which have left their queues.
On each channel the entries that were submitted are, in this order, those that
have left the queue and those that still wait in it.  No order of occurrences
changes that.
-/

namespace Switchboard

variable {σ κ ν : Type}

namespace Happening

/-- The entry that a happening tells to have been submitted. -/
def submitted? : Happening ν → Option (Sequenced Item)
  | .submitted entry => some entry
  | _ => none

/-- The entry that a happening tells to have left its queue. -/
def drained? : Happening ν → Option (Sequenced Item)
  | .drained entry => some entry
  | _ => none

theorem concernsItem_of_submitted? (happening : Happening ν)
    (told : happening.submitted? ≠ none) : happening.concernsItem = true := by
  cases happening with
  | submitted entry => rfl
  | _ => exact absurd rfl told

theorem concernsItem_of_drained? (happening : Happening ν)
    (told : happening.drained? ≠ none) : happening.concernsItem = true := by
  cases happening with
  | drained entry => rfl
  | _ => exact absurd rfl told

/-- Happenings that are left out do not show up in what is told about the
others. -/
theorem filterMap_concerning {α : Type} {told : Happening ν → Option α}
    {concerns : Happening ν → Bool}
    (concerning : ∀ happening, told happening ≠ none →
      concerns happening = true)
    (journal : List (Happening ν)) :
    (journal.filter concerns).filterMap told = journal.filterMap told := by
  induction journal with
  | nil => rfl
  | cons happening journal inductionHypothesis =>
      cases kept : concerns happening with
      | true =>
          rw [List.filter_cons_of_pos kept, List.filterMap_cons,
            List.filterMap_cons, inductionHypothesis]
      | false =>
          have untold : told happening = none := by
            by_contra told
            rw [concerning happening told] at kept
            exact Bool.noConfusion kept
          rw [List.filter_cons_of_neg (by rw [kept]; exact Bool.false_ne_true),
            List.filterMap_cons_none untold, inductionHypothesis]

end Happening

namespace Shared

/-- The entries submitted on a channel so far, oldest first. -/
def submissions (shared : Shared σ ν) (channel : Channel) :
    List (Sequenced Item) :=
  (shared.journal.filterMap Happening.submitted?).reverse.filter
    fun entry => entry.item.channel = channel

/-- The entries that have left the queue of a channel so far, oldest first. -/
def drainings (shared : Shared σ ν) (channel : Channel) :
    List (Sequenced Item) :=
  (shared.journal.filterMap Happening.drained?).reverse.filter
    fun entry => entry.item.channel = channel

/-- The entries that wait in the queue of a channel, oldest first. -/
def waiting (shared : Shared σ ν) (channel : Channel) : List (Sequenced Item) :=
  (shared.dispatcher.queues.get channel).entries

/-- On each channel the entries that have left the queue and those that wait in
it are all that were submitted, in the order of submission. -/
def InOrder (shared : Shared σ ν) : Prop :=
  ∀ channel,
    shared.submissions channel =
      shared.drainings channel ++ shared.waiting channel

/-- What is told about items is the same if the items are. -/
theorem SameItems.told {before after : Shared σ ν}
    (same : before.SameItems after) {α : Type} {told : Happening ν → Option α}
    (concerning : ∀ happening, told happening ≠ none →
      happening.concernsItem = true) :
    after.journal.filterMap told = before.journal.filterMap told := by
  rw [← Happening.filterMap_concerning concerning after.journal, same.journal,
    Happening.filterMap_concerning concerning]

theorem SameItems.submissions {before after : Shared σ ν}
    (same : before.SameItems after) (channel : Channel) :
    after.submissions channel = before.submissions channel := by
  simp only [Shared.submissions]
  rw [same.told Happening.concernsItem_of_submitted?]

theorem SameItems.drainings {before after : Shared σ ν}
    (same : before.SameItems after) (channel : Channel) :
    after.drainings channel = before.drainings channel := by
  simp only [Shared.drainings]
  rw [same.told Happening.concernsItem_of_drained?]

theorem SameItems.waiting {before after : Shared σ ν}
    (same : before.SameItems after) (channel : Channel) :
    after.waiting channel = before.waiting channel := by
  simp only [Shared.waiting]
  rw [same.queues]

theorem SameItems.inOrder {before after : Shared σ ν}
    (same : before.SameItems after) (order : before.InOrder) :
    after.InOrder := by
  intro channel
  rw [same.submissions, same.drainings, same.waiting]
  exact order channel

/-- A happening that tells of no submission and no draining leaves the order
alone. -/
theorem InOrder.record {shared : Shared σ ν} (order : shared.InOrder)
    {happening : Happening ν} (unsubmitted : happening.submitted? = none)
    (undrained : happening.drained? = none) :
    (shared.record happening).InOrder := by
  intro channel
  have journals := order channel
  simp only [submissions, drainings, Shared.record,
    List.filterMap_cons_none unsubmitted,
    List.filterMap_cons_none undrained] at journals ⊢
  exact journals

theorem InOrder.push {shared : Shared σ ν} (order : shared.InOrder)
    (item : Item) : ((shared.dispatch (·.push item)).record
      (.submitted (shared.dispatcher.nextEntry item))).InOrder := by
  intro channel
  have before := order channel
  simp only [submissions, drainings, waiting, Shared.record, dispatch,
    Dispatcher.push, Dispatcher.nextEntry, List.filterMap_cons,
    Happening.submitted?, Happening.drained?,
    List.reverse_cons, List.filter_append] at before ⊢
  by_cases same : item.channel = channel
  · subst same
    simp [before, Queue.push]
  · rw [Queues.get_set_of_ne _ _ (Ne.symm same)]
    simp [before, same]

theorem InOrder.pop {shared : Shared σ ν} (order : shared.InOrder)
    {channel : Channel} {entry : Sequenced Item} {dispatcher : Dispatcher}
    (popped : shared.dispatcher.pop? channel = some (entry, dispatcher)) :
    entry.item.channel = channel ∧
      (({ shared with dispatcher := dispatcher }).record
        (.drained entry)).InOrder := by
  rcases Option.map_eq_some_iff.mp popped with ⟨⟨_, rest⟩, first, equal⟩
  cases equal
  rcases (Queue.pop?_eq_some_iff _ _ _).mp first with ⟨entries, _⟩
  have belongs : entry.item.channel = channel := by
    have member : entry ∈ shared.submissions channel := by
      rw [order channel]
      apply List.mem_append_right _
      simp only [waiting]
      rw [entries]
      exact List.mem_cons_self
    simpa using (List.mem_filter.mp member).2
  constructor
  · exact belongs
  · intro other
    have before := order other
    simp only [submissions, drainings, waiting, Shared.record,
      List.filterMap_cons, Happening.submitted?, Happening.drained?,
      List.reverse_cons, List.filter_append] at before ⊢
    by_cases same : channel = other
    · subst same
      rw [before, entries, Queues.get_set_self]
      simp [belongs]
    · rw [before, Queues.get_set_of_ne _ _ (Ne.symm same)]
      simp [belongs, same]

theorem InOrder.clientMove {shared : Shared σ ν} (order : shared.InOrder)
    (stack : List (Frame κ)) (callback : Callback) (turn : ClientTurn σ κ ν) :
    (shared.clientMove stack (some callback) turn).shared.InOrder := by
  have noted := (shared.noting_sameItems turn).inOrder order
  refine shared.clientMove_cases stack callback turn
    (motive := fun moved => moved.shared.InOrder) ?_ ?_ ?_
  · intro request next
    exact noted
  · intro reply
    exact noted.record rfl rfl
  · intro payload
    exact noted.record rfl rfl

theorem InOrder.move {client : Client σ κ ν} {shared : Shared σ ν}
    {around : Surroundings} {stack : List (Frame κ)} {control : Control}
    {turn : Turn σ κ ν} (order : shared.InOrder)
    (handles : Handles client shared around stack control turn) :
    turn.shared.InOrder := by
  cases handles with
  | aside before turns => exact turns.same.inOrder order
  | pushes stack item => exact order.push item
  | drains stack next popped => exact (order.pop popped).2
  | routes stack entry cycle =>
      simp only [route]
      split
      · split
        · exact order
        · exact order.record rfl rfl
      · split
        · exact order
        · exact order.record rfl rfl
  | calls fits => exact (order.record rfl rfl).clientMove _ _ _
  | resumes state response before fits => exact order.clientMove _ _ _
  | sent => exact order
  | lost => exact order.record rfl rfl
  | received => exact order
  | refused => exact order

/-- A move adds at most one submission to those of a channel. -/
theorem submissions_prefix_of_handles {client : Client σ κ ν}
    {shared : Shared σ ν} {around : Surroundings} {stack : List (Frame κ)}
    {control : Control} {turn : Turn σ κ ν}
    (handles : Handles client shared around stack control turn)
    (channel : Channel) :
    shared.submissions channel <+: turn.shared.submissions channel := by
  have played (before : Shared σ ν) (stack : List (Frame κ))
      (callback : Callback) (turn : ClientTurn σ κ ν) :
      before.submissions channel <+:
        (before.clientMove stack (some callback) turn).shared.submissions
          channel := by
    have noted := (before.noting_sameItems turn).submissions channel
    refine before.clientMove_cases stack callback turn
      (motive :=
        fun moved =>
          before.submissions channel <+: moved.shared.submissions channel)
      ?_ ?_ ?_
    · exact fun request next => noted ▸ List.prefix_rfl
    · exact fun reply => noted ▸ List.prefix_rfl
    · exact fun payload => noted ▸ List.prefix_rfl
  cases handles with
  | aside before turns =>
      exact turns.same.submissions channel ▸ List.prefix_rfl
  | pushes stack item =>
      simp only [submissions, push, Turn.run, Turn.pass, Shared.record,
        List.filterMap_cons, Happening.submitted?, List.reverse_cons,
        List.filter_append]
      exact List.prefix_append _ _
  | drains stack next popped => exact List.prefix_rfl
  | routes stack entry cycle =>
      simp only [route]
      split
      · split <;> exact List.prefix_rfl
      · split <;> exact List.prefix_rfl
  | @calls stack callback fits =>
      exact played (shared.record (.called callback)) stack callback _
  | resumes state response before fits => exact played _ _ _ _
  | sent | lost | received | refused => exact List.prefix_rfl

end Shared

/-- What happens to the shared state when no thread moves does not concern
items. -/
theorem World.Becomes.sameItems {client : Client σ κ ν}
    {world next : World σ κ ν} {occurrence : Occurrence κ}
    (becomes : World.Becomes client world occurrence next)
    (still : ∀ self, occurrence ≠ .step self) :
    world.shared.SameItems next.shared := by
  cases becomes with
  | moved found => exact absurd rfl (still _)
  | stopAbandoned found waits =>
      exact world.shared.updateApplication_sameItems _
  | _ => exact ⟨rfl, rfl, rfl⟩

/-- In a reachable world, the entries that were submitted on a channel are those
that have left its queue, followed by those that wait in it. -/
theorem Reachable.inOrder {client : Client σ κ ν} {world : World σ κ ν}
    (reachable : Reachable client world) : world.shared.InOrder := by
  induction reachable with
  | opening opening =>
      intro channel
      cases opening <;> cases channel <;> rfl
  | @occur world occurrence reached allowed order =>
      have becomes := World.after_becomes client allowed
      cases occurrence with
      | step self =>
          generalize world.after client (.step self) = next at becomes
          cases becomes with
          | same => exact order
          | @moved _ thread found =>
              have fits := reached.fits thread (List.mem_of_getElem? found)
              exact order.move (Shared.move_handles client _ _ fits)
      | _ => exact (becomes.sameItems (by simp)).inOrder order

end Switchboard
