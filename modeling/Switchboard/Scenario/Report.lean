import Switchboard.Client

/-!
# What a scenario reports

Every operation has a result, and while it runs the stand-ins report how they
were called.
-/

namespace Switchboard.Scenario

/-- What can be told about a stand-in for a stream. -/
structure StreamReport where
  handle : Nat
  id : UInt32
  name : String
  workers : Nat
  stopped : Bool

/-- Why an operation of a scenario is not carried out. -/
inductive Refusal where
  | noApplication
  | noStream
  | noSession
  | noTask
  | busy
  | running
  | pending

/-- The result of an operation. -/
inductive Result where
  | nothing
  | ok
  | flag (value : Bool)
  | number (value : Nat)
  | text (value : String)
  | handle (value : Nat)
  | stream (report : StreamReport)
  | ambiguous (count : Nat) (name : String)
  | streams (count : Nat) (reports : List StreamReport)
  | snapshot (snapshot : Snapshot)
  | stats (snapshot : Snapshot)
  | phase (phase : Phase)
  | identity (identity : Identity) (settings : Settings)
  | hookCalls (creations deletions : Nat)
  | failure (failure : Failure)
  | registryError (error : RegistryError)
  | refused (refusal : Refusal)
  | panicked (payload : Payload)

/-- What the stand-ins report: how they were called, and the operations of
scripts.  The last is the result of an operation outside of scripts. -/
inductive Event where
  | frame (kind : MediaKind) (handle : Nat) (packet : MediaPacket)
      (stopped : Bool)
  | packet (session : SessionHandle) (data : Bytes)
  | stop (handle : Nat) (again : Bool)
  | createHook (descriptor : Descriptor) (workers : Nat)
  | deleteHook (descriptor : Descriptor) (stream : StreamReport)
      (registered : Option Nat)
  | enter (op : String)
  | leave (op : String) (result : Result)
  | result (result : Result)

end Switchboard.Scenario
