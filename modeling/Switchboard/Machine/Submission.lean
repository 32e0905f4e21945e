import Switchboard.Machine.State

/-!
# Submitting

A producer remembers the timestamp of its item, pushes the item, and signals the
wake event.  The item waits in its queue from the second step on, and the third
makes sure that a task comes to see it.
-/

namespace Switchboard

namespace Shared

variable {σ κ ν : Type}

/-- Remember the timestamp. -/
def stamp (shared : Shared σ ν) (stack : List (Frame κ)) (item : Item) :
    Turn σ κ ν :=
  .run (shared.dispatch (·.stamp item)) stack (.push item)

/-- Push the item. -/
def push (shared : Shared σ ν) (stack : List (Frame κ)) (item : Item) :
    Turn σ κ ν :=
  let entry := shared.dispatcher.nextEntry item
  .run ((shared.dispatch (·.push item)).record (.submitted entry)) stack
    (.signal (some entry) (.answer .done))

/-- Signal the wake event, after a push or a stop request. -/
def signal (shared : Shared σ ν) (stack : List (Frame κ)) (next : Instruction) :
    Turn σ κ ν :=
  .run (shared.dispatch .signal) stack next

end Shared

end Switchboard
