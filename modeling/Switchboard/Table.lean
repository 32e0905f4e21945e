/-!
# Tables

A table holds at most one value for each key, in the order in which the keys
were first entered.  The view of a table is its partial function `find?`; the
lemmas below describe every operation through that view, so that nothing above
this file looks at the list of entries.
-/

namespace Switchboard

universe u v

/-- A finite map, kept as the list of its entries with distinct keys. -/
structure Table (κ : Type u) (α : Type v) where
  entries : List (κ × α)
  distinct : (entries.map Prod.fst).Nodup
  deriving DecidableEq

namespace Table

variable {κ : Type u} {α : Type v}

/-- The table without entries. -/
def empty : Table κ α :=
  ⟨[], List.nodup_nil⟩

instance : Inhabited (Table κ α) :=
  ⟨empty⟩

/-- The number of keys. -/
def size (table : Table κ α) : Nat :=
  table.entries.length

@[simp]
theorem size_empty : (empty : Table κ α).size = 0 :=
  rfl

/-- Whether there is no key. -/
def isEmpty (table : Table κ α) : Bool :=
  table.entries.isEmpty

/-- The values, one for each key. -/
def values (table : Table κ α) : List α :=
  table.entries.map Prod.snd

variable [DecidableEq κ]

/-- The value entered under a key, if there is one. -/
def find? (table : Table κ α) (key : κ) : Option α :=
  (table.entries.find? fun entry => entry.1 = key).map Prod.snd

/-- Whether a value is entered under a key. -/
def contains (table : Table κ α) (key : κ) : Bool :=
  (table.find? key).isSome

/-- Remove whatever is entered under a key. -/
def erase (table : Table κ α) (key : κ) : Table κ α where
  entries := table.entries.filter fun entry => entry.1 ≠ key
  distinct :=
    List.Nodup.sublist (List.Sublist.map _ List.filter_sublist) table.distinct

/-- Enter a value under a key, replacing an older one. -/
def insert (table : Table κ α) (key : κ) (value : α) : Table κ α where
  entries := (table.erase key).entries ++ [(key, value)]
  distinct := by
    rw [List.map_append, List.nodup_append]
    refine ⟨(table.erase key).distinct, by simp, ?_⟩
    intro other otherMem same sameMem
    simp only [erase, List.mem_map, List.mem_filter,
      decide_eq_true_eq] at otherMem
    obtain ⟨entry, ⟨_, differs⟩, rfl⟩ := otherMem
    simp only [List.map_cons, List.map_nil, List.mem_singleton] at sameMem
    rw [sameMem]
    exact differs

@[simp]
theorem find?_empty (key : κ) : (empty : Table κ α).find? key = none :=
  rfl

/-- An entry is in the list exactly when the view has it. -/
theorem mem_entries_iff {table : Table κ α} {key : κ} {value : α} :
    (key, value) ∈ table.entries ↔ table.find? key = some value := by
  rcases table with ⟨entries, distinct⟩
  simp only [find?]
  induction entries with
  | nil => simp
  | cons entry rest inductionHypothesis =>
      rw [List.map_cons, List.nodup_cons] at distinct
      have tail := inductionHypothesis distinct.2
      by_cases same : entry.1 = key
      · subst same
        have absent : (entry.1, value) ∉ rest := fun member =>
          distinct.1 (List.mem_map.mpr ⟨_, member, rfl⟩)
        simp only [List.mem_cons, absent, or_false, List.find?_cons,
          decide_true, Option.map_some, Option.some.injEq]
        constructor
        · intro equal
          rw [← equal]
        · intro equal
          rw [← equal]
      · have different : (key, value) ≠ entry := fun equal =>
          same (by rw [← equal])
        simp only [List.mem_cons, different, false_or, List.find?_cons, same,
          decide_false]
        exact tail

theorem find?_erase_self (table : Table κ α) (key : κ) :
    (table.erase key).find? key = none := by
  simp [find?, erase]

theorem find?_erase_of_ne (table : Table κ α) {key other : κ}
    (differs : other ≠ key) :
    (table.erase key).find? other = table.find? other := by
  apply Option.ext
  intro value
  rw [← mem_entries_iff, ← mem_entries_iff]
  simp [erase, differs]

theorem find?_insert_self (table : Table κ α) (key : κ) (value : α) :
    (table.insert key value).find? key = some value := by
  rw [← mem_entries_iff]
  simp [insert]

theorem find?_insert_of_ne (table : Table κ α) {key other : κ} (value : α)
    (differs : other ≠ key) :
    (table.insert key value).find? other = table.find? other := by
  apply Option.ext
  intro found
  rw [← mem_entries_iff, ← mem_entries_iff]
  simp [insert, erase, differs]

theorem mem_values_iff {table : Table κ α} {value : α} :
    value ∈ table.values ↔ ∃ key, table.find? key = some value := by
  simp only [values, List.mem_map, Prod.exists, exists_eq_right,
    mem_entries_iff]

/-- A value under a free key comes last. -/
theorem values_insert {table : Table κ α} {key : κ}
    (free : table.find? key = none) (value : α) :
    (table.insert key value).values = table.values ++ [value] := by
  have kept : (table.erase key).entries = table.entries := by
    rw [erase, List.filter_eq_self]
    intro entry member
    have found := mem_entries_iff.mp member
    apply decide_eq_true
    intro same
    rw [same, free] at found
    cases found
  simp [values, insert, kept]

/-- The values are the one under a key and those that are left once it is
removed. -/
theorem values_perm_erase {table : Table κ α} {key : κ} {value : α}
    (taken : table.find? key = some value) :
    table.values.Perm (value :: (table.erase key).values) := by
  rcases table with ⟨entries, distinct⟩
  rw [← mem_entries_iff] at taken
  rcases List.append_of_mem taken with ⟨before, after, rfl⟩
  simp only [List.map_append, List.map_cons, List.nodup_append,
    List.nodup_cons] at distinct
  obtain ⟨_, ⟨absentAfter, _⟩, apart⟩ := distinct
  have others {entry : κ × α} (member : entry ∈ before ∨ entry ∈ after) :
      entry.1 ≠ key := by
    rintro rfl
    rcases member with former | latter
    · exact apart _ (List.mem_map_of_mem former) _ List.mem_cons_self rfl
    · exact absentAfter (List.mem_map_of_mem latter)
  have kept :
      (before ++ (key, value) :: after).filter (fun entry => entry.1 ≠ key) =
      before ++ after := by
    rw [List.filter_append, List.filter_cons_of_neg (by simp),
      List.filter_eq_self.mpr fun entry member =>
        decide_eq_true (others (.inl member)),
      List.filter_eq_self.mpr fun entry member =>
        decide_eq_true (others (.inr member))]
  simp only [values, erase, kept, List.map_append, List.map_cons]
  exact List.perm_middle

end Table

end Switchboard
