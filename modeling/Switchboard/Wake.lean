/-!
# The wake event

Producers signal the event and dispatch tasks wait for it.  A signal goes to
the thread that has waited longest; when nobody waits, it is kept as a permit,
of which there is at most one, and the next wait returns at once.  A thread
that has been signalled but has not run yet no longer counts as waiting.  When
such a thread is given up, its signal goes to the next one in line.

The event belongs to the runtime.  That it behaves in this way, as the runtime
documents it, is assumed and not proved.
-/

namespace Switchboard

/-- Threads are numbered in the order in which they came to be. -/
abbrev ThreadId := Nat

/-- The state of the event: a permit, the waiting threads with the longest wait
first, and the threads that have been signalled and have not run since. -/
structure Wake where
  permit : Bool
  waiting : List ThreadId
  signalled : List ThreadId
  deriving DecidableEq

namespace Wake

/-- Nobody waits and nothing is stored. -/
def idle : Wake where
  permit := false
  waiting := []
  signalled := []

instance : Inhabited Wake :=
  ⟨idle⟩

/-- Signal the event once. -/
def signal (wake : Wake) : Wake :=
  match wake.waiting with
  | [] => { wake with permit := true }
  | first :: rest =>
      { wake with waiting := rest, signalled := first :: wake.signalled }

/-- Begin to wait, last in line. -/
def enlist (wake : Wake) (thread : ThreadId) : Wake :=
  { wake with waiting := wake.waiting ++ [thread] }

/-- Use up the stored permit. -/
def takePermit (wake : Wake) : Wake :=
  { wake with permit := false }

/-- Whether a waiting thread has been signalled. -/
def hasSignalled (wake : Wake) (thread : ThreadId) : Bool :=
  wake.signalled.contains thread

/-- A signalled thread runs again and has had its signal. -/
def dismiss (wake : Wake) (thread : ThreadId) : Wake :=
  { wake with signalled := wake.signalled.erase thread }

/-- A thread stops waiting for good.  A signal it has not acted on is passed
on. -/
def withdraw (wake : Wake) (thread : ThreadId) : Wake :=
  if wake.hasSignalled thread then
    (wake.dismiss thread).signal
  else
    { wake with waiting := wake.waiting.erase thread }

end Wake

end Switchboard
