/-!
# Settings and identity of an application
-/

namespace Switchboard

/-- The id and name by which an application is known. -/
structure Identity where
  id : UInt32
  name : String
  deriving DecidableEq

namespace Identity

/-- The name with the id in round brackets. -/
def text (identity : Identity) : String :=
  identity.name ++ "(" ++ toString identity.id ++ ")"

end Identity

/-- What can be set for an application.  The report interval is in
milliseconds. -/
structure Settings where
  threadCount : Int32
  segmentCount : UInt32
  segmentSeconds : UInt32
  crossDomains : List String
  reportInterval : Nat
  drainOnStop : Bool
  deriving DecidableEq

namespace Settings

/-- The settings of an application for which nothing is set. -/
def standard : Settings where
  threadCount := 4
  segmentCount := 3
  segmentSeconds := 5
  crossDomains := []
  reportInterval := 5000
  drainOnStop := false

instance : Inhabited Settings :=
  ⟨standard⟩

/-- The worker threads asked for each stream; there is always one. -/
def workers (settings : Settings) : Nat :=
  if 0 < settings.threadCount then settings.threadCount.toInt.toNat else 1

/-- Ask for a number of threads for each stream. -/
def withThreadCount (settings : Settings) (count : Int32) : Settings :=
  { settings with threadCount := count }

/-- Set how many segments are kept and how many seconds each lasts. -/
def withSegments (settings : Settings) (count seconds : UInt32) : Settings :=
  { settings with segmentCount := count, segmentSeconds := seconds }

/-- Allow one more origin. -/
def withCrossDomain (settings : Settings) (origin : String) : Settings :=
  { settings with crossDomains := settings.crossDomains ++ [origin] }

/-- Set the time between two reports on queue depths. -/
def withReportInterval (settings : Settings) (millis : Nat) : Settings :=
  { settings with reportInterval := millis }

/-- Say whether a stopping task first routes what still waits. -/
def withDrainOnStop (settings : Settings) (drain : Bool) : Settings :=
  { settings with drainOnStop := drain }

theorem workers_pos (settings : Settings) : 0 < settings.workers := by
  unfold workers
  split
  · rename_i positive
    rw [Int32.lt_iff_toInt_lt] at positive
    have : 0 < settings.threadCount.toInt := positive
    omega
  · exact Nat.one_pos

end Settings

end Switchboard
