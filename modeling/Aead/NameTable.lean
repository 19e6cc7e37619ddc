/-!
# Tables by name

A table holds values by name, in ascending order of the names and with no name twice. A later value
for a name replaces the earlier one.

Results:

* `find?_insert`: after `insert`, the name has the new value and every other name its old one.
* `find?_insertAll`: after several insertions, the last value for a name counts.
-/

namespace Aead

/-- Values by name, the names ascending. -/
structure NameTable (α : Type) where
  entries : List (String × α) := []
  ascending : entries.Pairwise (fun a b => a.1 < b.1) := by exact List.Pairwise.nil

namespace NameTable

variable {α : Type}

/-- The entries with one value set. -/
def insertEntry (name : String) (value : α) : List (String × α) → List (String × α)
  | [] => [(name, value)]
  | (n, v) :: rest =>
    if name < n then (name, value) :: (n, v) :: rest
    else if name = n then (name, value) :: rest
    else (n, v) :: insertEntry name value rest

/-- Setting a value brings in no other name. -/
theorem mem_insertEntry {name : String} {value : α} {entries : List (String × α)} {e : String × α}
    (h : e ∈ insertEntry name value entries) : e.1 = name ∨ e ∈ entries := by
  induction entries with
  | nil =>
    rw [insertEntry, List.mem_singleton] at h
    exact .inl (by rw [h])
  | cons head rest ih =>
    obtain ⟨n, v⟩ := head
    rw [insertEntry] at h
    split at h
    · rcases List.mem_cons.1 h with rfl | h
      · exact .inl rfl
      · exact .inr h
    · split at h
      · rcases List.mem_cons.1 h with rfl | h
        · exact .inl rfl
        · exact .inr (List.mem_cons_of_mem _ h)
      · rcases List.mem_cons.1 h with rfl | h
        · exact .inr List.mem_cons_self
        · exact (ih h).imp id (List.mem_cons_of_mem _)

theorem ascending_insertEntry (name : String) (value : α) {entries : List (String × α)}
    (h : entries.Pairwise (fun a b => a.1 < b.1)) :
    (insertEntry name value entries).Pairwise (fun a b => a.1 < b.1) := by
  induction entries with
  | nil => exact List.pairwise_singleton _ _
  | cons head rest ih =>
    obtain ⟨n, v⟩ := head
    obtain ⟨below, tail⟩ := List.pairwise_cons.1 h
    rw [insertEntry]
    split
    · rename_i lt
      refine List.pairwise_cons.2 ⟨fun e he => ?_, h⟩
      rcases List.mem_cons.1 he with rfl | he
      · exact lt
      · exact String.lt_trans lt (below e he)
    · rename_i nlt
      split
      · rename_i eq
        exact List.pairwise_cons.2 ⟨fun e he => eq ▸ below e he, tail⟩
      · rename_i ne
        refine List.pairwise_cons.2 ⟨fun e he => ?_, ih tail⟩
        rcases mem_insertEntry he with he | he
        · exact he ▸ Std.lt_of_le_of_ne (String.not_lt.1 nlt) (fun h => ne h.symm)
        · exact below e he

/-- The table with one value set. -/
def insert (table : NameTable α) (name : String) (value : α) : NameTable α :=
  ⟨insertEntry name value table.entries, ascending_insertEntry name value table.ascending⟩

/-- The table with values set one after another. -/
def insertAll (table : NameTable α) (entries : List (String × α)) : NameTable α :=
  entries.foldl (fun table (name, value) => table.insert name value) table

/-- The table of the given values. -/
def ofEntries (entries : List (String × α)) : NameTable α :=
  insertAll {} entries

/-- The value of a name. -/
def find? (table : NameTable α) (name : String) : Option α :=
  table.entries.lookup name

/-- The names, ascending. -/
def names (table : NameTable α) : List String :=
  table.entries.map Prod.fst

/-- The number of names. -/
def size (table : NameTable α) : Nat :=
  table.entries.length

/-! ## What a table holds after insertions -/

theorem lookup_cons_eq_ite (name n : String) (v : α) (rest : List (String × α)) :
    ((n, v) :: rest).lookup name = if name = n then some v else rest.lookup name := by
  by_cases h : name = n
  · simp [h]
  · rw [List.lookup_cons, beq_false_of_ne h, if_neg h]

theorem lookup_insertEntry (name other : String) (value : α) (entries : List (String × α)) :
    (insertEntry name value entries).lookup other =
      if other = name then some value else entries.lookup other := by
  induction entries with
  | nil => exact lookup_cons_eq_ite other name value []
  | cons head rest ih =>
    obtain ⟨n, v⟩ := head
    rw [insertEntry]
    split
    · rw [lookup_cons_eq_ite]
    · split
      · rename_i eq
        subst eq
        rw [lookup_cons_eq_ite, lookup_cons_eq_ite]
        by_cases h : other = name <;> simp [h]
      · rename_i ne
        rw [lookup_cons_eq_ite, lookup_cons_eq_ite, ih]
        by_cases h : other = n
        · have other_ne : other ≠ name := fun e => ne (e.symm.trans h)
          rw [if_pos h, if_neg other_ne, if_pos h]
        · rw [if_neg h, if_neg h]

/-- After an insertion the name has the new value and every other name its old one. -/
theorem find?_insert (table : NameTable α) (name other : String) (value : α) :
    (table.insert name value).find? other =
      if other = name then some value else table.find? other :=
  lookup_insertEntry name other value table.entries

/-- After several insertions the last value for a name counts. -/
theorem find?_insertAll (table : NameTable α) (entries : List (String × α)) (name : String) :
    (table.insertAll entries).find? name =
      (entries.reverse.lookup name).or (table.find? name) := by
  induction entries generalizing table with
  | nil => rfl
  | cons head rest ih =>
    obtain ⟨n, v⟩ := head
    change ((table.insert n v).insertAll rest).find? name = _
    rw [ih, find?_insert, List.reverse_cons, List.lookup_append, lookup_cons_eq_ite,
      Option.or_assoc]
    by_cases h : name = n <;> simp [h]

end NameTable

end Aead
