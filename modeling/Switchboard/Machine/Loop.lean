import Switchboard.Machine.State

/-!
# The dispatch loop

A task looks at the stop flag, reports the queue depths when that is due, and
waits for the wake event unless the cycle before found something.  After a wait
it looks at the stop flag once more.  A task that sees the flag leaves the
loop, drains the queues if the settings say so, and ends.
-/

namespace Switchboard

namespace Shared

variable {σ κ ν : Type}

/-- The first step of a task starts the watch. -/
def begin (shared : Shared σ ν) (stack : List (Frame κ)) : Turn σ κ ν :=
  .run (shared.notice .taskStarted) stack (.check true shared.clock)

/-- Report how many items wait. -/
def reportDepths (shared : Shared σ ν) : Shared σ ν :=
  (shared.count .reported).notice
    (.queueDepths shared.dispatcher.depths shared.dispatcher.counters.dropped)

/-- Whether the last report was long enough ago. -/
def reportDue (shared : Shared σ ν) (watch : Nat) : Bool :=
  shared.settings.reportInterval ≤ shared.clock - watch

/-- The head of the loop. -/
def check (shared : Shared σ ν) (stack : List (Frame κ)) (idle : Bool)
    (watch : Nat) :
    Turn σ κ ν :=
  if shared.dispatcher.stopRequested then
    .run shared stack .leave
  else
    let due := shared.reportDue watch
    let shared' := if due then shared.reportDepths else shared
    let watch' := if due then shared.clock else watch
    .run shared' stack
      (if idle then .await watch' else .cycle (.fresh (.loop watch')))

/-- Go on at once with a stored permit, or get in line. -/
def await (shared : Shared σ ν) (stack : List (Frame κ)) (self : ThreadId)
    (watch : Nat) :
    Turn σ κ ν :=
  if shared.dispatcher.wake.permit then
    .run (shared.dispatch (·.withWake .takePermit)) stack (.recheck watch)
  else
    .run (shared.dispatch (·.withWake (·.enlist self))) stack (.parked watch)

/-- Go on once the signal has come. -/
def parked (shared : Shared σ ν) (stack : List (Frame κ)) (self : ThreadId)
    (watch : Nat) :
    Turn σ κ ν :=
  if shared.dispatcher.wake.hasSignalled self then
    .run (shared.dispatch (·.withWake (·.dismiss self))) stack (.recheck watch)
  else
    .run shared stack (.parked watch)

/-- Look at the flag after a wait. -/
def recheck (shared : Shared σ ν) (stack : List (Frame κ)) (watch : Nat) :
    Turn σ κ ν :=
  .run shared stack
    (if shared.dispatcher.stopRequested then .leave
      else .cycle (.fresh (.loop watch)))

/-- Leave the loop. -/
def leave (shared : Shared σ ν) (stack : List (Frame κ)) : Turn σ κ ν :=
  .run shared stack
    (if shared.settings.drainOnStop then .cycle (.fresh .drain) else .farewell)

/-- The last step of a task. -/
def farewell (shared : Shared σ ν) (stack : List (Frame κ)) : Turn σ κ ν :=
  .answer (shared.notice (.taskStopped shared.dispatcher.depths.total)) stack
    .done

end Shared

end Switchboard
