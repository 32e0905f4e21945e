/-!
# Numbered queues

A queue hands its items out in the order in which they were pushed.  Each push
takes the next number of the queue's own sequence, which goes on counting when
the queue runs empty.
-/

namespace Switchboard

universe u

/-- An item together with its number in the queue's sequence. -/
structure Sequenced (α : Type u) where
  seq : UInt64
  item : α
  deriving DecidableEq

/-- The waiting entries, oldest first, and the number of the next push. -/
structure Queue (α : Type u) where
  entries : List (Sequenced α)
  nextSeq : UInt64
  deriving DecidableEq

namespace Queue

variable {α : Type u}

/-- The queue that has seen no push. -/
def empty : Queue α where
  entries := []
  nextSeq := 0

instance : Inhabited (Queue α) :=
  ⟨empty⟩

/-- Append an item under the next number. -/
def push (queue : Queue α) (item : α) : Queue α where
  entries := queue.entries ++ [⟨queue.nextSeq, item⟩]
  nextSeq := queue.nextSeq + 1

/-- Take the oldest entry. -/
def pop? (queue : Queue α) : Option (Sequenced α × Queue α) :=
  match queue.entries with
  | [] => none
  | entry :: rest => some (entry, { queue with entries := rest })

/-- The number of waiting entries. -/
def size (queue : Queue α) : Nat :=
  queue.entries.length

/-- Whether nothing waits. -/
def isEmpty (queue : Queue α) : Bool :=
  queue.entries.isEmpty

@[simp]
theorem size_empty : (empty : Queue α).size = 0 :=
  rfl

@[simp]
theorem size_push (queue : Queue α) (item : α) :
    (queue.push item).size = queue.size + 1 := by
  simp [size, push]

theorem pop?_eq_none_iff (queue : Queue α) :
    queue.pop? = none ↔ queue.size = 0 := by
  rcases queue with ⟨entries, nextSeq⟩
  cases entries <;> simp [pop?, size]

theorem pop?_eq_some_iff (queue rest : Queue α) (entry : Sequenced α) :
    queue.pop? = some (entry, rest) ↔
      queue.entries = entry :: rest.entries ∧ rest.nextSeq = queue.nextSeq := by
  rcases queue with ⟨entries, nextSeq⟩
  rcases rest with ⟨restEntries, restSeq⟩
  cases entries with
  | nil => simp [pop?]
  | cons first others =>
      simp only [pop?, Option.some.injEq, Prod.mk.injEq, mk.injEq,
        List.cons.injEq]
      constructor
      · rintro ⟨rfl, rfl, rfl⟩
        exact ⟨⟨rfl, rfl⟩, rfl⟩
      · rintro ⟨⟨rfl, rfl⟩, rfl⟩
        exact ⟨rfl, rfl, rfl⟩

end Queue

end Switchboard
