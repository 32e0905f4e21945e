import Switchboard.Table

/-!
# The registry of live streams

A registry maps stream ids to stream objects.  Objects are told apart by their
handles: two objects may share a name, one object may stand under several ids,
and an id may be taken again by another object after a removal.  A failed
operation names the id that it was given.
-/

namespace Switchboard

/-- A stream object, as far as the switchboard sees it: its identity and the
name under which it can be looked up. -/
structure Stream where
  handle : Nat
  name : String
  deriving DecidableEq

/-- Why a registry operation fails. -/
inductive RegistryError where
  | duplicate (id : UInt32)
  | notFound (id : UInt32)
  deriving DecidableEq

namespace RegistryError

/-- The text of the error. -/
def message : RegistryError → String
  | duplicate id => "Stream already registered: " ++ toString id
  | notFound id => "Stream not found: " ++ toString id

end RegistryError

/-- The live streams by id. -/
abbrev Registry := Table UInt32 Stream

namespace Registry

/-- Register a stream under a free id. -/
def register (registry : Registry) (id : UInt32) (stream : Stream) :
    Except RegistryError Registry :=
  if registry.contains id then
    .error (.duplicate id)
  else
    .ok (Table.insert registry id stream)

/-- Remove whatever stream stands under an id. -/
def unregister (registry : Registry) (id : UInt32) :
    Except RegistryError (Stream × Registry) :=
  match registry.find? id with
  | none => .error (.notFound id)
  | some stream => .ok (stream, registry.erase id)

/-- Remove a stream from an id, provided that this very object stands there. -/
def unregisterEntry (registry : Registry) (id : UInt32) (stream : Stream) :
    Except RegistryError (Stream × Registry) :=
  match registry.find? id with
  | none => .error (.notFound id)
  | some current =>
      if current.handle = stream.handle then
        .ok (current, registry.erase id)
      else
        .error (.notFound id)

/-- The streams with a given name, once for each id.  A look-up by name may
answer any one of them. -/
def named (registry : Registry) (name : String) : List Stream :=
  registry.values.filter fun stream => stream.name = name

/-- A registration succeeds exactly when the id is free. -/
theorem register_eq_ok_iff {registry larger : Registry} {id : UInt32}
    {stream : Stream} :
    registry.register id stream = .ok larger ↔
      registry.find? id = none ∧ larger = Table.insert registry id stream := by
  unfold register Table.contains
  cases found : registry.find? id with
  | none => simp [eq_comm]
  | some current => simp

/-- A removal succeeds exactly when the id is taken. -/
theorem unregister_eq_ok_iff {registry smaller : Registry} {id : UInt32}
    {stream : Stream} :
    registry.unregister id = .ok (stream, smaller) ↔
      registry.find? id = some stream ∧ smaller = registry.erase id := by
  unfold unregister
  cases found : registry.find? id with
  | none => simp
  | some current => simp [eq_comm]

/-- A removal of a given stream succeeds exactly when this very object stands
under the id. -/
theorem unregisterEntry_eq_ok_iff {registry smaller : Registry} {id : UInt32}
    {stream removed : Stream} :
    registry.unregisterEntry id stream = .ok (removed, smaller) ↔
      registry.find? id = some removed ∧ removed.handle = stream.handle ∧
        smaller = registry.erase id := by
  unfold unregisterEntry
  cases found : registry.find? id with
  | none => simp
  | some current =>
      by_cases same : current.handle = stream.handle
      · simp only [same, if_true, Except.ok.injEq, Prod.mk.injEq,
          Option.some.injEq]
        constructor
        · rintro ⟨rfl, rfl⟩
          exact ⟨rfl, same, rfl⟩
        · rintro ⟨rfl, _, rfl⟩
          exact ⟨rfl, rfl⟩
      · simp only [same, if_false, reduceCtorEq, Option.some.injEq, false_iff]
        rintro ⟨rfl, equal, _⟩
        exact same equal

end Registry

end Switchboard
