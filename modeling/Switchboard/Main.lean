import Switchboard.Demo

/-!
# The command line

Runs the demonstration and prints its log.  The first argument is the least
level that is printed; without one it is `info`.
-/

/-- Print the log of the demonstration. -/
def main (args : List String) : IO UInt32 := do
  let least := (args.head?.bind Switchboard.Level.ofFilter?).getD .info
  let (ended, entries) := Switchboard.Demo.run least
  for entry in entries do
    IO.println entry.line
  return if ended then 0 else 1
