import Switchboard.Media.Packet

/-!
# Timebases and tracks

A timebase says how many seconds one tick of a track's clock lasts.  Timestamps
become milliseconds in binary floating point, cut off toward zero and held
within the signed 64-bit range.
-/

namespace Switchboard

/-- Seconds per tick, as a fraction. -/
structure Timebase where
  numerator : UInt32
  denominator : UInt32
  deriving DecidableEq

namespace Timebase

/-- Seconds per tick; a zero denominator makes the clock stand still. -/
def secondsPerTick (timebase : Timebase) : Float :=
  if timebase.denominator = 0 then
    0.0
  else
    timebase.numerator.toFloat / timebase.denominator.toFloat

/-- The milliseconds, rounded toward zero, that a timestamp stands for. -/
def toMillis (timebase : Timebase) (ticks : Int64) : Int64 :=
  (ticks.toFloat * timebase.secondsPerTick * 1000.0).toInt64

end Timebase

/-- One elementary track of a stream. -/
structure Track where
  id : UInt32
  kind : MediaKind
  timebase : Timebase
  deriving DecidableEq

namespace Track

/-- A video track with the usual clock of 90 kHz. -/
def video (id : UInt32) : Track where
  id := id
  kind := .video
  timebase := ⟨1, 90000⟩

/-- An audio track, clocked at its sample rate. -/
def audio (id sampleRate : UInt32) : Track where
  id := id
  kind := .audio
  timebase := ⟨1, sampleRate⟩

/-- The same track on another clock. -/
def withTimebase (track : Track) (timebase : Timebase) : Track :=
  { track with timebase := timebase }

end Track

end Switchboard
