import Mathlib.Data.List.Basic
import Mathlib.Data.List.Nodup

namespace Async

/-- A table with a unique index on `key`. -/
structure Table (κ ρ : Type) (key : ρ → κ) where
  rows : List ρ
  unique : (rows.map key).Nodup

namespace Table

variable {κ ρ : Type} {key : ρ → κ}

def empty : Table κ ρ key := ⟨[], List.nodup_nil⟩

/-- Drop the rows that do not satisfy `keeps`. -/
def filter (table : Table κ ρ key) (keeps : ρ → Bool) : Table κ ρ key :=
  ⟨table.rows.filter keeps, table.unique.sublist (List.filter_sublist.map key)⟩

theorem replaced_keys (rows : List ρ) (row : ρ) [DecidableEq κ] :
    (rows.map fun old => if key old = key row then row else old).map key = rows.map key := by
  rw [List.map_map]
  apply List.map_congr_left
  intro old _
  by_cases same : key old = key row <;> simp [same]

variable [DecidableEq κ]

def find (table : Table κ ρ key) (k : κ) : Option ρ := table.rows.find? fun row => key row = k

/-- Insertion fails on a duplicate key. -/
def insert (table : Table κ ρ key) (row : ρ) : Option (Table κ ρ key) :=
  if present : key row ∈ table.rows.map key then none
  else some ⟨table.rows ++ [row], by
    rw [List.map_append, List.map_singleton, List.nodup_append]
    refine ⟨table.unique, List.nodup_singleton _, ?_⟩
    intro k member other single
    rw [List.mem_singleton.mp single]
    exact fun same => present (same ▸ member)⟩

/-- Overwrite the row that has the key of `row`; without such a row nothing changes. -/
def replace (table : Table κ ρ key) (row : ρ) : Table κ ρ key :=
  ⟨table.rows.map fun old => if key old = key row then row else old, by
    rw [replaced_keys]; exact table.unique⟩

/-- Overwrite the row that has the key of `row`, or add `row`. -/
def upsert (table : Table κ ρ key) (row : ρ) : Table κ ρ key := (table.insert row).getD (table.replace row)

theorem key_of_find {table : Table κ ρ key} {k : κ} {row : ρ} (found : table.find k = some row) :
    key row = k := by
  simpa using List.find?_some found

theorem mem_of_find {table : Table κ ρ key} {k : κ} {row : ρ} (found : table.find k = some row) :
    row ∈ table.rows := List.mem_of_find?_eq_some found

theorem find_eq_none {table : Table κ ρ key} {k : κ} :
    table.find k = none ↔ k ∉ table.rows.map key := by
  simp [find, List.find?_eq_none]

theorem insert_some {table result : Table κ ρ key} {row : ρ} (h : table.insert row = some result) :
    table.find (key row) = none ∧ result.rows = table.rows ++ [row] := by
  unfold insert at h
  split at h
  · cases h
  · rename_i absent
    cases h
    exact ⟨find_eq_none.mpr absent, rfl⟩

theorem insert_absent {table : Table κ ρ key} {row : ρ} (absent : table.find (key row) = none) :
    ∃ result, table.insert row = some result := by
  unfold insert
  rw [dif_neg (find_eq_none.mp absent)]
  exact ⟨_, rfl⟩

theorem find_insert {table result : Table κ ρ key} {row : ρ} (h : table.insert row = some result)
    (k : κ) : result.find k = if k = key row then some row else table.find k := by
  obtain ⟨absent, rows⟩ := insert_some h
  unfold find at absent ⊢
  rw [rows, List.find?_append]
  by_cases same : k = key row
  · subst same
    simp [absent]
  · have different : ¬ key row = k := fun h => same h.symm
    simp [same, different]

theorem find_replaced_rows (rows : List ρ) (row : ρ) (k : κ) :
    (rows.map fun old => if key old = key row then row else old).find? (fun row => key row = k) =
      if k = key row then (rows.find? fun row => key row = k).map (fun _ => row)
      else rows.find? fun row => key row = k := by
  induction rows with
  | nil => simp
  | cons old rest ih =>
    rw [List.map_cons, List.find?_cons, List.find?_cons, ih]
    by_cases here : key old = key row <;> by_cases wanted : k = key row
    · simp [here, wanted]
    · have different : ¬ key row = k := fun h => wanted h.symm
      simp [here, wanted, different]
    · simp [here, wanted]
    · simp [here, wanted]

theorem find_replace (table : Table κ ρ key) (row : ρ) (k : κ) :
    (table.replace row).find k = if k = key row then (table.find k).map (fun _ => row) else table.find k :=
  find_replaced_rows table.rows row k

theorem mem_upsert_self (table : Table κ ρ key) (row : ρ) : row ∈ (table.upsert row).rows := by
  unfold upsert insert
  split
  · rename_i present
    obtain ⟨old, member, same⟩ := List.mem_map.mp present
    exact List.mem_map.mpr ⟨old, member, if_pos same⟩
  · exact List.mem_append_right _ (List.mem_singleton_self row)

/-- Rows with another key are still there. -/
theorem mem_upsert_of_mem {table : Table κ ρ key} {row old : ρ} (member : old ∈ table.rows)
    (other : key old ≠ key row) : old ∈ (table.upsert row).rows := by
  unfold upsert insert
  split
  · exact List.mem_map.mpr ⟨old, member, if_neg other⟩
  · exact List.mem_append_left _ member

theorem of_mem_upsert {table : Table κ ρ key} {row old : ρ} (member : old ∈ (table.upsert row).rows) :
    old = row ∨ old ∈ table.rows := by
  unfold upsert insert at member
  split at member
  · obtain ⟨before, present, same⟩ := List.mem_map.mp member
    split at same
    · exact .inl same.symm
    · exact .inr (same ▸ present)
  · rcases List.mem_append.mp member with present | last
    · exact .inr present
    · exact .inl (List.mem_singleton.mp last)

end Table

end Async
