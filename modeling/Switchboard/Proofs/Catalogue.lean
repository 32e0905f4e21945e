import Mathlib.Logic.Function.Basic
import Switchboard.Stream.Registry

/-!
# The registry is a finite map

A registry answers like a finite map from ids to stream objects, in which an
entry may be removed for the sake of the very object that stands there.  Ids,
objects and names have nothing to do with each other: one object may stand under
several ids, two objects may share a name, and an id may be taken again by
another object.  A scan visits the entries in an order that nobody knows, so a
look-up by name may answer any object of that name, and the streams may be
listed in any order.
-/

namespace Switchboard

namespace Table

variable {κ α : Type} [DecidableEq κ]

theorem find?_insert_eq_update (table : Table κ α) (key : κ) (value : α) :
    (table.insert key value).find? = Function.update table.find? key
    (some value) := by
  funext other
  by_cases same : other = key
  · subst same
    rw [find?_insert_self, Function.update_self]
  · rw [find?_insert_of_ne table value same, Function.update_of_ne same]

theorem find?_erase_eq_update (table : Table κ α) (key : κ) :
    (table.erase key).find? = Function.update table.find? key none := by
  funext other
  by_cases same : other = key
  · subst same
    rw [find?_erase_self, Function.update_self]
  · rw [find?_erase_of_ne table same, Function.update_of_ne same]

end Table

namespace Registry

/-! ## Operations -/

/-- What can be asked of a registry. -/
inductive Operation where
  | register (id : UInt32) (stream : Stream)
  | unregister (id : UInt32)
  | unregisterEntry (id : UInt32) (stream : Stream)
  | find (id : UInt32)
  | findNamed (name : String)
  | contains (id : UInt32)
  | streams
  | size
  | isEmpty

/-- What a registry answers. -/
inductive Outcome where
  | registered (result : Except RegistryError Unit)
  | unregistered (result : Except RegistryError Stream)
  | found (stream : Option Stream)
  | flag (value : Bool)
  | listed (streams : List Stream)
  | number (value : Nat)

/-- The order in which a scan visits the entries of a registry: each once. -/
structure Scan where
  order : List (UInt32 × Stream) → List (UInt32 × Stream)
  visits : ∀ entries, (order entries).Perm entries

/-- The streams of a registry in the order of a scan. -/
def Scan.streams (scan : Scan) (registry : Registry) : List Stream :=
  (scan.order registry.entries).map Prod.snd

/-- Carry out an operation.  A failure leaves the registry as it is. -/
def perform (registry : Registry) (scan : Scan) : Operation → Outcome × Registry
  | .register id stream =>
      match registry.register id stream with
      | .ok larger => (.registered (.ok ()), larger)
      | .error error => (.registered (.error error), registry)
  | .unregister id =>
      match registry.unregister id with
      | .ok (stream, smaller) => (.unregistered (.ok stream), smaller)
      | .error error => (.unregistered (.error error), registry)
  | .unregisterEntry id stream =>
      match registry.unregisterEntry id stream with
      | .ok (removed, smaller) => (.unregistered (.ok removed), smaller)
      | .error error => (.unregistered (.error error), registry)
  | .find id => (.found (registry.find? id), registry)
  | .findNamed name =>
      (.found ((scan.streams registry).find? fun stream => stream.name = name),
        registry)
  | .contains id => (.flag (registry.contains id), registry)
  | .streams => (.listed (scan.streams registry), registry)
  | .size => (.number registry.size, registry)
  | .isEmpty => (.flag registry.isEmpty, registry)

/-- Carry out operations one after the other, each with a scan of its own. -/
def performAll (registry : Registry) :
    List (Operation × Scan) → List (Operation × Outcome) × Registry
  | [] => ([], registry)
  | (operation, scan) :: rest =>
      let (outcome, after) := registry.perform scan operation
      let (log, last) := after.performAll rest
      ((operation, outcome) :: log, last)

/-! ## What a finite map answers -/

/-- A map from ids to stream objects. -/
abbrev Assignment := UInt32 → Option Stream

namespace Assignment

/-- A list of the ids to which a map assigns something, each once. -/
structure IsListed (assignment : Assignment) (ids : List UInt32) : Prop where
  distinct : ids.Nodup
  complete : ∀ id, id ∈ ids ↔ (assignment id).isSome = true

/-- What a finite map may answer to an operation, and the map that is left. -/
inductive Answers (assignment : Assignment) : Operation → Outcome →
    Assignment → Prop
  | registers {id : UInt32} {stream : Stream} (free : assignment id = none) :
      Answers assignment (.register id stream) (.registered (.ok ()))
        (Function.update assignment id (some stream))
  | duplicate {id : UInt32} {stream : Stream} (taken : assignment id ≠ none) :
      Answers assignment (.register id stream)
        (.registered (.error (.duplicate id))) assignment
  | unregisters {id : UInt32} {stream : Stream}
      (taken : assignment id = some stream) :
      Answers assignment (.unregister id) (.unregistered (.ok stream))
        (Function.update assignment id none)
  | missing {id : UInt32} (free : assignment id = none) :
      Answers assignment (.unregister id)
        (.unregistered (.error (.notFound id))) assignment
  | unregistersEntry {id : UInt32} {stream current : Stream}
      (taken : assignment id = some current)
      (same : current.handle = stream.handle) :
      Answers assignment (.unregisterEntry id stream)
        (.unregistered (.ok current)) (Function.update assignment id none)
  | missingEntry {id : UInt32} {stream : Stream}
      (other : ∀ current, assignment id = some current →
        current.handle ≠ stream.handle) :
      Answers assignment (.unregisterEntry id stream)
        (.unregistered (.error (.notFound id))) assignment
  | finds (id : UInt32) :
      Answers assignment (.find id) (.found (assignment id)) assignment
  | findsNamed {name : String} {id : UInt32} {stream : Stream}
      (taken : assignment id = some stream) (named : stream.name = name) :
      Answers assignment (.findNamed name) (.found (some stream)) assignment
  | missesName {name : String}
      (unnamed : ∀ id stream, assignment id = some stream →
        stream.name ≠ name) :
      Answers assignment (.findNamed name) (.found none) assignment
  | contains (id : UInt32) :
      Answers assignment (.contains id)
        (.flag (assignment id).isSome) assignment
  | lists {ids : List UInt32} (listed : assignment.IsListed ids) :
      Answers assignment .streams
        (.listed (ids.filterMap assignment)) assignment
  | counts {ids : List UInt32} (listed : assignment.IsListed ids) :
      Answers assignment .size (.number ids.length) assignment
  | isEmpty {ids : List UInt32} (listed : assignment.IsListed ids) :
      Answers assignment .isEmpty (.flag ids.isEmpty) assignment

/-- A map may answer to operations in a row as the log tells. -/
inductive Obeys : Assignment → List (Operation × Outcome) → Assignment → Prop
  | done (assignment : Assignment) : Obeys assignment [] assignment
  | next {assignment after last : Assignment} {operation : Operation}
      {outcome : Outcome} {log : List (Operation × Outcome)}
      (answers : assignment.Answers operation outcome after)
      (rest : Obeys after log last) :
      Obeys assignment ((operation, outcome) :: log) last

end Assignment

/-! ## One operation -/

variable (registry : Registry)

/-- A registration fails with the id that is taken. -/
theorem register_of_taken {id : UInt32} (stream : Stream)
    (taken : registry.find? id ≠ none) :
    registry.register id stream = .error (.duplicate id) := by
  unfold register Table.contains
  rw [if_pos (Option.isSome_iff_ne_none.mpr taken)]

/-- A removal fails with the id that is free. -/
theorem unregister_of_free {id : UInt32} (free : registry.find? id = none) :
    registry.unregister id = .error (.notFound id) := by
  unfold unregister
  rw [free]

/-- A removal of a given stream fails where another object stands, or none. -/
theorem unregisterEntry_of_other {id : UInt32} {stream : Stream}
    (other : ∀ current, registry.find? id = some current →
      current.handle ≠ stream.handle) :
    registry.unregisterEntry id stream = .error (.notFound id) := by
  unfold unregisterEntry
  cases found : registry.find? id with
  | none => rfl
  | some current => exact if_neg (other current found)

variable {registry} (scan : Scan)

/-- A scan visits the entry of every id that is taken, and no other. -/
theorem Scan.mem_order_iff {id : UInt32} {stream : Stream} :
    (id, stream) ∈ scan.order registry.entries ↔
      registry.find? id = some stream := by
  rw [(scan.visits registry.entries).mem_iff]
  exact Table.mem_entries_iff

/-- The ids in the order of a scan. -/
theorem Scan.isListed (registry : Registry) :
    Assignment.IsListed registry.find?
      ((scan.order registry.entries).map Prod.fst) := by
  constructor
  · apply ((scan.visits registry.entries).map Prod.fst).nodup_iff.mpr
    exact registry.distinct
  · intro id
    rw [Option.isSome_iff_exists, List.mem_map]
    constructor
    · rintro ⟨⟨_, stream⟩, member, rfl⟩
      exact ⟨stream, scan.mem_order_iff.mp member⟩
    · rintro ⟨stream, taken⟩
      exact ⟨(id, stream), scan.mem_order_iff.mpr taken, rfl⟩

/-- A scan lists for each id the stream that stands there. -/
theorem Scan.streams_eq_filterMap :
    scan.streams registry =
      ((scan.order registry.entries).map Prod.fst).filterMap
        registry.find? := by
  have stands : ∀ entry ∈ scan.order registry.entries,
      registry.find? entry.1 = some entry.2 := by
    rintro ⟨id, stream⟩ member
    exact scan.mem_order_iff.mp member
  rw [streams]
  generalize scan.order registry.entries = entries at stands
  induction entries with
  | nil => rfl
  | cons entry rest inductionHypothesis =>
      rw [List.map_cons, List.map_cons,
        List.filterMap_cons_some (stands entry List.mem_cons_self),
        inductionHypothesis fun other member =>
          stands other (List.mem_cons_of_mem _ member)]

/-- Every stream that stands somewhere is listed, and no other. -/
theorem Scan.mem_streams_iff {stream : Stream} :
    stream ∈ scan.streams registry ↔ ∃ id, registry.find? id = some stream := by
  rw [streams, List.mem_map]
  constructor
  · rintro ⟨⟨id, _⟩, member, rfl⟩
    exact ⟨id, scan.mem_order_iff.mp member⟩
  · rintro ⟨id, taken⟩
    exact ⟨(id, stream), scan.mem_order_iff.mpr taken, rfl⟩

/-- Whatever the order, a look-up by name answers one of the streams of that
name, and none only if there is none. -/
theorem Scan.find?_named (registry : Registry) (name : String) :
    match (scan.streams registry).find? fun stream => stream.name = name with
    | some stream => stream ∈ registry.named name
    | none => registry.named name = [] := by
  cases found : (scan.streams registry).find? fun stream =>
    stream.name = name with
  | some stream =>
      obtain ⟨id, taken⟩ :=
        scan.mem_streams_iff.mp (List.mem_of_find?_eq_some found)
      apply List.mem_filter.mpr
      constructor
      · exact Table.mem_values_iff.mpr ⟨id, taken⟩
      · exact List.find?_some (p :=
          fun stream : Stream => decide (stream.name = name)) found
  | none =>
      apply List.filter_eq_nil_iff.mpr
      intro stream member
      apply List.find?_eq_none.mp found
      exact scan.mem_streams_iff.mpr (Table.mem_values_iff.mp member)

theorem mem_named_iff {name : String} {stream : Stream} :
    stream ∈ registry.named name ↔
      (∃ id, registry.find? id = some stream) ∧ stream.name = name := by
  rw [named, List.mem_filter, Table.mem_values_iff, decide_eq_true_iff]

/-- A registry answers to every operation what its map may answer, and goes on
as the map does. -/
theorem perform_answers (registry : Registry) (operation : Operation) :
    let (outcome, after) := registry.perform scan operation
    Assignment.Answers registry.find? operation outcome after.find? := by
  have listed := scan.isListed registry
  have length :
      registry.size = ((scan.order registry.entries).map Prod.fst).length := by
    rw [List.length_map, (scan.visits registry.entries).length_eq]
    rfl
  cases operation with
  | register id stream =>
      dsimp only [perform]
      cases found : registry.find? id with
      | none =>
          rw [register_eq_ok_iff.mpr ⟨found, rfl⟩]
          dsimp only
          rw [Table.find?_insert_eq_update]
          exact .registers found
      | some current =>
          have taken : registry.find? id ≠ none :=
            found ▸ Option.some_ne_none current
          rw [registry.register_of_taken stream taken]
          exact .duplicate taken
  | unregister id =>
      dsimp only [perform]
      cases found : registry.find? id with
      | none =>
          rw [registry.unregister_of_free found]
          exact .missing found
      | some current =>
          rw [unregister_eq_ok_iff.mpr ⟨found, rfl⟩]
          dsimp only
          rw [Table.find?_erase_eq_update]
          exact .unregisters found
  | unregisterEntry id stream =>
      dsimp only [perform]
      by_cases stands : ∃ current, registry.find? id = some current ∧
          current.handle = stream.handle
      · obtain ⟨current, found, same⟩ := stands
        rw [unregisterEntry_eq_ok_iff.mpr ⟨found, same, rfl⟩]
        dsimp only
        rw [Table.find?_erase_eq_update]
        exact .unregistersEntry found same
      · have other : ∀ current, registry.find? id = some current →
            current.handle ≠ stream.handle :=
          fun current found same => stands ⟨current, found, same⟩
        rw [registry.unregisterEntry_of_other other]
        exact .missingEntry other
  | find id => exact .finds id
  | findNamed name =>
      have named := scan.find?_named registry name
      dsimp only [perform]
      cases found : (scan.streams registry).find? fun stream =>
        stream.name = name with
      | some stream =>
          rw [found] at named
          obtain ⟨⟨id, taken⟩, called⟩ := mem_named_iff.mp named
          exact .findsNamed taken called
      | none =>
          rw [found] at named
          apply Assignment.Answers.missesName
          intro id stream taken called
          have member := mem_named_iff.mpr ⟨⟨id, taken⟩, called⟩
          rw [named] at member
          exact List.not_mem_nil member
  | contains id => exact .contains id
  | streams =>
      dsimp only [perform]
      rw [scan.streams_eq_filterMap]
      exact .lists listed
  | size =>
      dsimp only [perform]
      rw [length]
      exact .counts listed
  | isEmpty =>
      have same :
          registry.isEmpty =
            ((scan.order registry.entries).map Prod.fst).isEmpty := by
        rw [List.isEmpty_map]
        exact (scan.visits registry.entries).isEmpty_eq.symm
      dsimp only [perform]
      rw [same]
      exact .isEmpty listed

/-- A registry is a finite map whose entries can be removed for the sake of the
object that stands there.  It begins as the map that assigns nothing, and
whatever is asked of it, in whatever order its entries are visited, it answers
what the map may answer and leaves what the map leaves. -/
theorem obeys_finite_map :
    (Table.empty : Registry).find? = (fun _ => none) ∧
      ∀ (registry : Registry) (operations : List (Operation × Scan)),
        let (log, last) := registry.performAll operations
        log.map Prod.fst = operations.map Prod.fst ∧
          Assignment.Obeys registry.find? log last.find? := by
  constructor
  · rfl
  · intro registry operations
    induction operations generalizing registry with
    | nil => exact ⟨rfl, .done _⟩
    | cons first rest inductionHypothesis =>
        obtain ⟨operation, scan⟩ := first
        obtain ⟨same, obeys⟩ :=
          inductionHypothesis (registry.perform scan operation).2
        constructor
        · exact congrArg (operation :: ·) same
        · exact .next (registry.perform_answers scan operation) obeys

end Registry

end Switchboard
