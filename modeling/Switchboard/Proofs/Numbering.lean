import Mathlib.Data.List.Basic
import Switchboard.Queue
import Switchboard.Wake

/-!
# Consecutive numbers

Any number of threads push items into a queue, pop entries and look how many
there are.  The lock of the queue makes each call a single step, so that what
the threads do together is a list of calls, in any order.  A queue carries on
its history: the entries that were popped and those that wait are the items that
were pushed, in the order of the pushes and numbered from zero on.  All that a
call is told follows from this.
-/

namespace Switchboard

universe u v

namespace Queue

variable {α : Type u}

/-! ## Calls -/

/-- What can be asked of a queue. -/
inductive Operation (α : Type u) where
  | push (item : α)
  | pop
  | size
  | isEmpty

/-- What a queue answers.  A push is told the number of its item. -/
inductive Outcome (α : Type u) where
  | numbered (seq : UInt64)
  | popped (front : Option (Sequenced α))
  | size (value : Nat)
  | isEmpty (value : Bool)

/-- An operation that a thread asks for. -/
structure Call (α : Type u) where
  caller : ThreadId
  operation : Operation α

/-- Carry out an operation.  Where there is nothing to pop the queue stays as it
is. -/
def perform (queue : Queue α) : Operation α → Outcome α × Queue α
  | .push item => (.numbered queue.nextSeq, queue.push item)
  | .pop =>
      match queue.pop? with
      | none => (.popped none, queue)
      | some (entry, rest) => (.popped (some entry), rest)
  | .size => (.size queue.size, queue)
  | .isEmpty => (.isEmpty queue.isEmpty, queue)

/-- A pop is told the entry that it takes. -/
theorem perform_pop (queue : Queue α) :
    (queue.perform .pop).1 = .popped (queue.pop?.map Prod.fst) := by
  simp only [perform]
  cases queue.pop? <;> rfl

/-- Carry out calls one after the other. -/
def performAll (queue : Queue α) : List (Call α) → List (Outcome α) × Queue α
  | [] => ([], queue)
  | call :: rest =>
      let (outcome, after) := queue.perform call.operation
      let (outcomes, last) := after.performAll rest
      (outcome :: outcomes, last)

/-- Who pushes which item in a call. -/
def Call.push? : Call α → Option (ThreadId × α)
  | ⟨caller, .push item⟩ => some (caller, item)
  | _ => none

/-- The entry that a call has popped. -/
def Outcome.popped? : Outcome α → Option (Sequenced α)
  | .popped front => front
  | _ => none

/-- The pushes among calls. -/
def pushes (calls : List (Call α)) : List (ThreadId × α) :=
  calls.filterMap Call.push?

/-- The items pushed by calls. -/
def pushedItems (calls : List (Call α)) : List α :=
  (pushes calls).map Prod.snd

/-- The entries that calls have popped. -/
def poppedEntries (outcomes : List (Outcome α)) : List (Sequenced α) :=
  outcomes.filterMap Outcome.popped?

/-- What an operation is told after the given items were pushed and so many
entries popped. -/
def Operation.IsTold (pushed : List α) (popped : Nat) : Operation α →
    Outcome α → Prop
  | .push _, .numbered seq => seq.toNat = pushed.length
  | .pop, .popped front =>
      (front = none ↔ pushed.length = popped) ∧
        ∀ entry ∈ front, entry.seq.toNat = popped ∧
          pushed[popped]? = some entry.item
  | .size, .size value => value = pushed.length - popped
  | .isEmpty, .isEmpty value => value = true ↔ pushed.length = popped
  | _, _ => False

/-- Whether a caller has pushed an entry: the push with the number of the entry
is the caller's. -/
def isPushedBy (pushes : List (ThreadId × α)) (caller : ThreadId)
    (entry : Sequenced α) : Bool :=
  (pushes[entry.seq.toNat]?).any fun push => push.1 = caller

/-! ## Numbered items -/

/-- Items with their numbers, which begin with zero. -/
def numbered (items : List α) : List (Sequenced α) :=
  items.zipIdx.map fun (item, place) => ⟨.ofNat place, item⟩

theorem numbered_concat (items : List α) (item : α) :
    numbered (items ++ [item]) =
      numbered items ++ [⟨.ofNat items.length, item⟩] := by
  simp [numbered, List.zipIdx_append]

@[simp]
theorem length_numbered (items : List α) :
    (numbered items).length = items.length := by
  simp [numbered]

@[simp]
theorem map_item_numbered (items : List α) :
    (numbered items).map Sequenced.item = items := by
  rw [numbered, List.map_map]
  exact List.zipIdx_map_fst 0 items

/-- Fewer than 2^64 items are numbered without repetition. -/
theorem map_seq_numbered {items : List α} (few : items.length < UInt64.size) :
    (numbered items).map (·.seq.toNat) = List.range items.length := by
  rw [numbered, List.map_map, List.range_eq_range',
    ← List.zipIdx_map_snd 0 items]
  apply List.map_congr_left
  rintro ⟨item, place⟩ member
  have inside : place < items.length := (List.mem_zipIdx' member).1
  exact UInt64.toNat_ofNat_of_lt' (Nat.lt_trans inside few)

theorem getElem?_numbered (items : List α) (place : Nat) :
    (numbered items)[place]? = items[place]?.map fun item =>
    ⟨.ofNat place, item⟩ := by
  simp [numbered, Function.comp_def]

/-- The items of a caller stand in the order in which this caller has pushed
them. -/
theorem numbered_filter_isPushedBy {pushes : List (ThreadId × α)}
    (few : pushes.length < UInt64.size) (caller : ThreadId) :
    ((numbered (pushes.map Prod.snd)).filter (isPushedBy pushes caller)).map
      Sequenced.item =
      (pushes.filter fun push => push.1 = caller).map Prod.snd := by
  have owner : ∀ entry ∈ pushes.zipIdx,
      isPushedBy pushes caller ⟨.ofNat entry.2, entry.1.2⟩ =
        decide (entry.1.1 = caller) := by
    rintro ⟨push, place⟩ member
    have stands : pushes[place]? = some push :=
      List.mk_mem_zipIdx_iff_getElem?.mp member
    have inside : place < pushes.length :=
      (List.getElem?_eq_some_iff.mp stands).1
    have number : (UInt64.ofNat place).toNat = place :=
      UInt64.toNat_ofNat_of_lt' (Nat.lt_trans inside few)
    simp only [isPushedBy, number, stands, Option.any_some]
  calc
    ((numbered (pushes.map Prod.snd)).filter (isPushedBy pushes caller)).map
      Sequenced.item
      = ((pushes.zipIdx.filter fun entry => decide (entry.1.1 = caller)).map
          Prod.fst).map Prod.snd := by
        rw [numbered, List.zipIdx_map, List.map_map, List.filter_map,
          ← List.filter_congr owner]
        simp only [List.map_map]
        rfl
    _ = ((pushes.zipIdx.map Prod.fst).filter fun push => push.1 = caller).map
      Prod.snd := by
        rw [List.filter_map]
        rfl
    _ = (pushes.filter fun push => push.1 = caller).map Prod.snd := by
        rw [List.zipIdx_map_fst]

/-! ## One call -/

/-- A queue carries on a history: after the given items were pushed and the
given entries popped, the entries that wait are the rest of the numbered
items. -/
structure Follows (queue : Queue α) (pushed : List α)
    (popped : List (Sequenced α)) : Prop where
  entries : popped ++ queue.entries = numbered pushed
  next : queue.nextSeq = .ofNat pushed.length

theorem follows_empty : (empty : Queue α).Follows [] [] :=
  ⟨rfl, rfl⟩

namespace Follows

variable {queue : Queue α} {pushed : List α} {popped : List (Sequenced α)}

/-- What was pushed was popped or waits. -/
theorem length_eq (follows : queue.Follows pushed popped) :
    popped.length + queue.size = pushed.length := by
  rw [← length_numbered pushed, ← follows.entries, List.length_append]
  rfl

/-- No more is popped than was pushed. -/
theorem length_le (follows : queue.Follows pushed popped) :
    popped.length ≤ pushed.length :=
  follows.length_eq ▸ Nat.le_add_right _ _

/-- The entries that were popped are the first of the numbered items, and those
that wait are the others. -/
theorem parts (follows : queue.Follows pushed popped) {β : Type v}
    {read : Sequenced α → β} {former latter : List β}
    (whole : (numbered pushed).map read = former ++ latter)
    (length : former.length = popped.length) :
    popped.map read = former ∧ queue.entries.map read = latter := by
  rw [← follows.entries, List.map_append] at whole
  exact List.append_inj whole (by rw [List.length_map, length])

/-- The numbers go on from the entries that were popped to those that wait. -/
theorem seqs (follows : queue.Follows pushed popped)
    (few : pushed.length < UInt64.size) :
    popped.map (·.seq.toNat) = List.range popped.length ∧
      queue.entries.map (·.seq.toNat) =
        List.range' popped.length (pushed.length - popped.length) := by
  apply follows.parts
  · rw [map_seq_numbered few, List.range_eq_range', List.range_eq_range',
      ← Nat.add_sub_cancel' follows.length_le, ← List.range'_append_1,
      Nat.zero_add, Nat.add_sub_cancel_left]
  · exact List.length_range

/-- So do the items. -/
theorem items (follows : queue.Follows pushed popped) :
    popped.map Sequenced.item = pushed.take popped.length ∧
      queue.entries.map Sequenced.item = pushed.drop popped.length := by
  apply follows.parts
  · rw [map_item_numbered, List.take_append_drop]
  · exact List.length_take_of_le follows.length_le

theorem push (follows : queue.Follows pushed popped) (item : α) :
    (queue.push item).Follows (pushed ++ [item]) popped := by
  constructor
  · rw [numbered_concat, ← follows.entries, ← follows.next, List.append_assoc]
    rfl
  · rw [List.length_append, List.length_singleton, UInt64.ofNat_add,
      ← follows.next]
    rfl

theorem pop (follows : queue.Follows pushed popped) {entry : Sequenced α}
    {rest : Queue α} (taken : queue.pop? = some (entry, rest)) :
    rest.Follows pushed (popped ++ [entry]) := by
  rcases (pop?_eq_some_iff queue rest entry).mp taken with ⟨entries, next⟩
  constructor
  · rw [← follows.entries, entries, List.append_assoc]
    rfl
  · rw [next, follows.next]

/-- The oldest entry that waits is the first one that was not popped. -/
theorem head_eq (follows : queue.Follows pushed popped) {entry : Sequenced α}
    {rest : Queue α} (taken : queue.pop? = some (entry, rest)) :
    pushed[popped.length]? = some entry.item ∧
      entry.seq = .ofNat popped.length := by
  have stands : (numbered pushed)[popped.length]? = some entry := by
    rw [← follows.entries, ((pop?_eq_some_iff queue rest entry).mp taken).1,
      List.getElem?_append_right (Nat.le_refl _), Nat.sub_self]
    rfl
  rw [getElem?_numbered] at stands
  rcases Option.map_eq_some_iff.mp stands with ⟨item, found, rfl⟩
  exact ⟨found, rfl⟩

/-- A call carries the history on. -/
theorem perform (follows : queue.Follows pushed popped) (call : Call α) :
    (queue.perform call.operation).2.Follows (pushed ++ pushedItems [call])
      (popped ++ poppedEntries [(queue.perform call.operation).1]) := by
  have still : queue.Follows (pushed ++ []) (popped ++ []) := by
    rw [List.append_nil, List.append_nil]
    exact follows
  rcases call with ⟨caller, operation⟩
  cases operation with
  | push item =>
      change (queue.push item).Follows (pushed ++ [item]) (popped ++ [])
      rw [List.append_nil]
      exact follows.push item
  | pop =>
      simp only [Queue.perform]
      cases taken : queue.pop? with
      | none => exact still
      | some result =>
          change result.2.Follows (pushed ++ []) (popped ++ [result.1])
          rw [List.append_nil]
          exact follows.pop taken
  | size => exact still
  | isEmpty => exact still

/-- Nothing waits if and only if all that was pushed was popped. -/
theorem pop?_eq_none_iff (follows : queue.Follows pushed popped) :
    queue.pop? = none ↔ pushed.length = popped.length := by
  have length := follows.length_eq
  rw [Queue.pop?_eq_none_iff]
  omega

/-- A call is told what its history says. -/
theorem isTold (follows : queue.Follows pushed popped)
    (few : pushed.length < UInt64.size) (operation : Operation α) :
    operation.IsTold pushed popped.length (queue.perform operation).1 := by
  cases operation with
  | push item =>
      change queue.nextSeq.toNat = pushed.length
      rw [follows.next]
      exact UInt64.toNat_ofNat_of_lt' few
  | pop =>
      rw [perform_pop]
      constructor
      · rw [Option.map_eq_none_iff]
        exact follows.pop?_eq_none_iff
      · intro entry member
        rcases Option.map_eq_some_iff.mp member with ⟨⟨_, rest⟩, taken, rfl⟩
        rcases follows.head_eq taken with ⟨item, seq⟩
        constructor
        · rw [seq]
          exact UInt64.toNat_ofNat_of_lt'
            (Nat.lt_of_le_of_lt follows.length_le few)
        · exact item
  | size => exact Nat.eq_sub_of_add_eq' follows.length_eq
  | isEmpty =>
      change queue.entries.isEmpty = true ↔ pushed.length = popped.length
      rw [← follows.pop?_eq_none_iff, Queue.pop?_eq_none_iff,
        List.isEmpty_iff_length_eq_zero]
      rfl

end Follows

/-! ## Many calls -/

theorem pushedItems_cons (call : Call α) (rest : List (Call α)) :
    pushedItems (call :: rest) = pushedItems [call] ++ pushedItems rest := by
  rw [pushedItems, pushes, ← List.singleton_append, List.filterMap_append,
    List.map_append]
  rfl

theorem poppedEntries_cons (outcome : Outcome α) (rest : List (Outcome α)) :
    poppedEntries (outcome :: rest) = poppedEntries
      [outcome] ++ poppedEntries rest := by
  rw [poppedEntries, ← List.singleton_append, List.filterMap_append]
  rfl

/-- Calls carry the history on. -/
theorem Follows.performAll {queue : Queue α} {pushed : List α}
    {popped : List (Sequenced α)} (follows : queue.Follows pushed popped)
    (calls : List (Call α)) :
    (queue.performAll calls).2.Follows (pushed ++ pushedItems calls)
      (popped ++ poppedEntries (queue.performAll calls).1) := by
  induction calls generalizing queue pushed popped with
  | nil =>
      change queue.Follows (pushed ++ []) (popped ++ [])
      rw [List.append_nil, List.append_nil]
      exact follows
  | cons call rest inductionHypothesis =>
      have later := inductionHypothesis (follows.perform call)
      rw [List.append_assoc, List.append_assoc, ← pushedItems_cons,
        ← poppedEntries_cons] at later
      exact later

/-- What the first calls are told does not depend on those that come after
them. -/
theorem performAll_take (queue : Queue α) (calls : List (Call α))
    (moment : Nat) :
    (queue.performAll (calls.take moment)).1 =
    (queue.performAll calls).1.take moment := by
  induction calls generalizing queue moment with
  | nil => rw [List.take_nil, performAll, List.take_nil]
  | cons call rest inductionHypothesis =>
      cases moment with
      | zero => rfl
      | succ moment => exact congrArg (_ :: ·) (inductionHypothesis _ moment)

/-- A call is told what the queue answers that the calls before it have left. -/
theorem performAll_getElem? (queue : Queue α) (calls : List (Call α))
    (moment : Nat) : (queue.performAll calls).1[moment]? =
      calls[moment]?.map fun call =>
        ((queue.performAll (calls.take moment)).2.perform
          call.operation).1 := by
  induction calls generalizing queue moment with
  | nil => rfl
  | cons call rest inductionHypothesis =>
      cases moment with
      | zero => rfl
      | succ moment => exact inductionHypothesis _ moment

/-- Every call is told something. -/
theorem length_performAll (queue : Queue α) (calls : List (Call α)) :
    (queue.performAll calls).1.length = calls.length := by
  induction calls generalizing queue with
  | nil => rfl
  | cons call rest inductionHypothesis =>
      exact congrArg (· + 1) (inductionHypothesis _)

/-- A call is told what the history of the queue says at that moment. -/
theorem isTold_at {calls : List (Call α)}
    (few : (pushes calls).length < UInt64.size) {moment : Nat} {call : Call α}
    {outcome : Outcome α} (asks : calls[moment]? = some call)
    (answers : ((empty : Queue α).performAll calls).1[moment]? = some outcome) :
    call.operation.IsTold (pushedItems (calls.take moment))
      (poppedEntries
        (((empty : Queue α).performAll calls).1.take moment)).length
          outcome := by
  have earlier := follows_empty.performAll (calls.take moment)
  have fewer : (pushedItems (calls.take moment)).length < UInt64.size := by
    rw [pushedItems, List.length_map]
    exact Nat.lt_of_le_of_lt
      ((List.take_sublist moment calls).filterMap _).length_le few
  rw [performAll_getElem?, asks] at answers
  cases answers
  rw [← performAll_take]
  exact earlier.isTold fewer call.operation

/-- The numbers of a queue count its pushes.  After any calls of any threads, in
any order, with fewer than 2^64 pushes:
* the entries that were popped are numbered from zero on and hold the items that
  were pushed first, and the entries that wait go on from there, front to back,
  to the last push;
* every call was told what its history says: a push the number of pushes before
  it, a pop the oldest entry, or none if and only if as many entries were popped
  as were pushed, and a look the number of entries that are left;
* of each caller the items that came out and those that wait are the items that
  this caller has pushed, each once and in this order. -/
theorem counts_pushes (calls : List (Call α))
    (few : (pushes calls).length < UInt64.size) :
    let outcomes := ((empty : Queue α).performAll calls).1
    let queue := ((empty : Queue α).performAll calls).2
    let pushed := pushedItems calls
    let popped := poppedEntries outcomes
    (popped.length ≤ pushed.length ∧
      queue.entries.length = pushed.length - popped.length) ∧
      (popped.map (·.seq.toNat) = List.range popped.length ∧
        popped.map Sequenced.item = pushed.take popped.length) ∧
      (queue.entries.map (·.seq.toNat) =
          List.range' popped.length (pushed.length - popped.length) ∧
        queue.entries.map Sequenced.item = pushed.drop popped.length) ∧
      (outcomes.length = calls.length ∧
        ∀ moment (call : Call α) outcome, calls[moment]? = some call →
          outcomes[moment]? = some outcome →
          call.operation.IsTold (pushedItems (calls.take moment))
            (poppedEntries (outcomes.take moment)).length outcome) ∧
      ∀ caller,
        (popped.filter (isPushedBy (pushes calls) caller)).map Sequenced.item ++
            (queue.entries.filter (isPushedBy (pushes calls) caller)).map
              Sequenced.item =
          ((pushes calls).filter fun push => push.1 = caller).map Prod.snd := by
  intro outcomes queue pushed popped
  have follows : queue.Follows pushed popped := follows_empty.performAll calls
  have length : pushed.length = (pushes calls).length := List.length_map _
  rcases follows.seqs (length ▸ few) with ⟨poppedSeqs, waitingSeqs⟩
  rcases follows.items with ⟨poppedItems, waitingItems⟩
  refine ⟨⟨follows.length_le, ?_⟩, ⟨poppedSeqs, poppedItems⟩,
    ⟨waitingSeqs, waitingItems⟩,
    ⟨length_performAll empty calls, fun moment call outcome asks answers => ?_⟩,
    fun caller => ?_⟩
  · exact Nat.eq_sub_of_add_eq' follows.length_eq
  · exact isTold_at few asks answers
  · rw [← List.map_append, ← List.filter_append, follows.entries]
    exact numbered_filter_isPushedBy few caller

/-- Two callers push in turn; a third one pops what there is and is told that
there is nothing more.  The numbers go on from there. -/
theorem counts_pushes_of_two_callers :
    let calls : List (Call Nat) :=
      [⟨1, .push 10⟩, ⟨2, .push 20⟩, ⟨3, .pop⟩, ⟨3, .pop⟩, ⟨3, .pop⟩,
        ⟨2, .push 21⟩, ⟨1, .push 11⟩, ⟨3, .pop⟩, ⟨3, .size⟩]
    let outcomes := ((empty : Queue Nat).performAll calls).1
    let queue := ((empty : Queue Nat).performAll calls).2
    let isOwn := isPushedBy (pushes calls) 2
    (pushes calls).length < UInt64.size ∧
      queue.entries.map (·.seq.toNat) = [3] ∧
      Operation.IsTold [10, 20] 2 .pop (.popped none) ∧
      Operation.IsTold [10, 20] 2 (.push 21) (.numbered 2) ∧
      Operation.IsTold [10, 20, 21, 11] 3 .size (.size 1) ∧
      ((poppedEntries outcomes).filter isOwn).map Sequenced.item ++
        (queue.entries.filter isOwn).map Sequenced.item = [20, 21] := by
  intro calls outcomes queue isOwn
  have few : (pushes calls).length < UInt64.size := by decide
  rcases counts_pushes calls few with ⟨_, _, ⟨numbers, _⟩, ⟨_, told⟩, own⟩
  refine ⟨few, numbers, ?_, ?_, ?_, own 2⟩
  · exact told 4 ⟨3, .pop⟩ (.popped none) rfl rfl
  · exact told 5 ⟨2, .push 21⟩ (.numbered 2) rfl rfl
  · exact told 8 ⟨3, .size⟩ (.size 1) rfl rfl

end Queue

end Switchboard
