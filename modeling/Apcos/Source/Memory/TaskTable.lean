import Apcos.Source.Memory.Lifecycle

/-!
# The tasks table

The `tasks` table of core/memory/task_store.py:84-101 and the statements the
store runs on it. `INTEGER PRIMARY KEY AUTOINCREMENT` gives a new row the
successor of the largest id ever used and fails with SQLITE_FULL when there is
none; the table carries that as its invariant. Rows are kept in insertion
order. Parameters are bound as 64-bit integers.
-/
namespace Apcos.Source.Memory

open Apcos.Source.Python (Exc)

structure TaskRow where
  id : Int
  titleEnc : String
  descriptionEnc : Option String
  goalEnc : Option String
  dueAt : Option String
  priority : Int
  state : TaskState
  createdAt : String
  updatedAt : String
  archivedAt : Option String
  deriving DecidableEq, Repr

structure TaskTable where
  rows : List TaskRow
  sequence : Nat
  increasing : rows.Pairwise fun a b => a.id < b.id
  allocated : ∀ row ∈ rows, row.id ≤ sequence

/-- Largest rowid. -/
def maxRowId : Nat := 2 ^ 63 - 1

/-- Binding of a Python integer to a statement. -/
def bindInteger (n : Int) : Except Exc Int :=
  if -(2 ^ 63) ≤ n ∧ n < 2 ^ 63 then .ok n
  else .error ⟨.overflowError, "Python int too large to convert to SQLite INTEGER"⟩

namespace TaskTable

def empty : TaskTable := ⟨[], 0, by simp, by simp⟩

/-- `SELECT * FROM tasks WHERE id = ?`. -/
def find (table : TaskTable) (id : Int) : Option TaskRow := table.rows.find? (·.id == id)

/-- `INSERT INTO tasks`; the row comes without its id. -/
def insert (table : TaskTable) (row : TaskRow) : Option (Int × TaskTable) :=
  let id : Int := table.sequence + 1
  if table.sequence < maxRowId then
    some (id,
      { rows := table.rows ++ [{ row with id }]
        sequence := table.sequence + 1
        increasing := by
          refine List.pairwise_append.mpr ⟨table.increasing, by simp, ?_⟩
          intro a member b last
          have bound := table.allocated a member
          rw [List.mem_singleton.mp last]
          simp only [id]
          omega
        allocated := by
          intro r member
          rcases List.mem_append.mp member with old | last
          · have bound := table.allocated r old
            omega
          · rw [List.mem_singleton.mp last]
            simp [id] })
  else none

/-- `UPDATE tasks SET ... WHERE id = ?`; no statement of the store sets the id. -/
def update (table : TaskTable) (id : Int) (set : TaskRow → TaskRow)
    (keepsId : ∀ row, (set row).id = row.id) : TaskTable where
  rows := table.rows.map fun row => if row.id = id then set row else row
  sequence := table.sequence
  increasing := by
    refine List.pairwise_map.mpr (table.increasing.imp ?_)
    intro a b before
    have ids : ∀ row, (if row.id = id then set row else row).id = row.id := by
      intro row
      split
      · exact keepsId row
      · rfl
    rw [ids a, ids b]
    exact before
  allocated := by
    intro row member
    obtain ⟨old, present, rfl⟩ := List.mem_map.mp member
    have bound := table.allocated old present
    split
    · rw [keepsId]
      exact bound
    · exact bound

theorem find_id {table : TaskTable} {id : Int} {row : TaskRow} (found : table.find id = some row) :
    row.id = id := by
  have matched := List.find?_some found
  simpa using matched

theorem find_mem {table : TaskTable} {id : Int} {row : TaskRow} (found : table.find id = some row) :
    row ∈ table.rows :=
  List.mem_of_find?_eq_some found

/-- No two rows have the same id. -/
theorem eq_of_id {table : TaskTable} {row other : TaskRow} (member : row ∈ table.rows)
    (also : other ∈ table.rows) (same : row.id = other.id) : row = other := by
  have distinct : (table.rows.map (·.id)).Nodup :=
    List.pairwise_map.mpr (table.increasing.imp fun before => by omega)
  exact List.inj_on_of_nodup_map distinct member also same

theorem find_of_mem {table : TaskTable} {row : TaskRow} (member : row ∈ table.rows) :
    table.find row.id = some row := by
  cases found : table.find row.id with
  | none =>
    have absent := List.find?_eq_none.mp found row member
    simp at absent
  | some other => rw [eq_of_id (find_mem found) member (find_id found)]

/-- A new id fits a statement parameter. -/
theorem bindInteger_inserted {table after : TaskTable} {row : TaskRow} {id : Int}
    (inserted : table.insert row = some (id, after)) : bindInteger id = .ok id := by
  simp only [insert] at inserted
  split at inserted
  · rename_i room
    simp only [Option.some.injEq, Prod.mk.injEq] at inserted
    obtain ⟨rfl, -⟩ := inserted
    unfold maxRowId at room
    unfold bindInteger
    rw [if_pos (by omega)]
  · cases inserted

theorem insert_eq {table after : TaskTable} {row : TaskRow} {id : Int}
    (inserted : table.insert row = some (id, after)) :
    id = table.sequence + 1 ∧ after.rows = table.rows ++ [{ row with id }] ∧
      after.sequence = table.sequence + 1 := by
  simp only [insert] at inserted
  split at inserted
  · simp only [Option.some.injEq, Prod.mk.injEq] at inserted
    obtain ⟨rfl, rfl⟩ := inserted
    exact ⟨rfl, rfl, rfl⟩
  · cases inserted

theorem find_fresh {table after : TaskTable} {row : TaskRow} {id : Int}
    (inserted : table.insert row = some (id, after)) : table.find id = none := by
  obtain ⟨idEq, -, -⟩ := insert_eq inserted
  apply List.find?_eq_none.mpr
  intro r member
  have bound := table.allocated r member
  simp only [beq_iff_eq]
  omega

/-- The inserted row is found under its id; all others are found as before. -/
theorem find_insert {table after : TaskTable} {row : TaskRow} {id : Int}
    (inserted : table.insert row = some (id, after)) (queried : Int) :
    after.find queried = if queried = id then some { row with id } else table.find queried := by
  obtain ⟨-, rowsEq, -⟩ := insert_eq inserted
  have fresh : table.rows.find? (fun r => r.id == id) = none := find_fresh inserted
  unfold find
  rw [rowsEq, List.find?_append]
  by_cases same : queried = id
  · rw [same, fresh, if_pos rfl]
    simp
  · have other : ¬id = queried := fun h => same h.symm
    rw [if_neg same]
    cases table.rows.find? (fun r => r.id == queried) <;> simp [other]

/-- An update is seen under its id and under no other. -/
theorem find_update (table : TaskTable) (id : Int) (set : TaskRow → TaskRow)
    (keepsId : ∀ row, (set row).id = row.id) (queried : Int) :
    (table.update id set keepsId).find queried =
      if queried = id then (table.find queried).map set else table.find queried := by
  unfold find update
  simp only
  rw [List.find?_map]
  have ids : ((fun r : TaskRow => r.id == queried) ∘
      fun row => if row.id = id then set row else row) = fun r => r.id == queried := by
    funext row
    simp only [Function.comp_apply]
    split
    · rw [keepsId]
    · rfl
  rw [ids]
  cases found : table.rows.find? (fun r => r.id == queried) with
  | none => simp
  | some row =>
    have rowId : row.id = queried := by simpa using List.find?_some found
    simp only [Option.map_some, rowId]
    by_cases same : queried = id <;> simp [same]

end TaskTable

end Apcos.Source.Memory
