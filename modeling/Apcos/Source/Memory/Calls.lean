import Apcos.Lib.Runs
import Apcos.Source.Memory.Effects

/-!
# Calls on the memory modules

The operations of a task store and a vector memory that share bridges and the
outside world, as one call type, and what one call can do to the state.
-/
namespace Apcos.Source.Memory

open Apcos.Lib
open Apcos.Source.Python (Value Exc DateTime)
open Apcos.Source.Bridge

variable {ω : Type}

structure MemoryModules (ω : Type) where
  store : TaskStore ω
  vectors : VectorMemory ω

/-- Modules without bridges and enforcement. -/
def localModules : MemoryModules Nat where
  store := { py := Python.asciiRuntime, host := countingHost, encryption := zeroKey }
  vectors := { py := Python.asciiRuntime, host := countingHost }

inductive MemoryCall where
  | createTask (title : String) (description : Value) (dueAt : Option String) (goal : Value)
      (priority : Int)
  | updateTask (taskId : Int) (changes : TaskStore.TaskChanges)
  | transitionTask (taskId : Int) (newState : String)
  | activateTask (taskId : Int)
  | completeTask (taskId : Int)
  | archiveTask (taskId : Int)
  | deleteTask (taskId : Int)
  | upsert (vectorId : String) (embedding : List Value) (metadata : List (String × String))
  | delete (vectorId : String)

/-- The call for its effect: the returned record is dropped. -/
def forEffect {α : Type} (m : Comp Exc (MemoryState ω) α) : Comp Exc (MemoryState ω) Unit :=
  fun s => ((m s).1.map fun _ => (), (m s).2)

def perform (modules : MemoryModules ω) : MemoryCall → Comp Exc (MemoryState ω) Unit
  | .createTask title description dueAt goal priority =>
    forEffect (modules.store.createTask title description dueAt goal priority)
  | .updateTask taskId changes => forEffect (modules.store.updateTask taskId changes)
  | .transitionTask taskId newState => forEffect (modules.store.transitionTask taskId newState)
  | .activateTask taskId => forEffect (modules.store.activateTask taskId)
  | .completeTask taskId => forEffect (modules.store.completeTask taskId)
  | .archiveTask taskId => forEffect (modules.store.archiveTask taskId)
  | .deleteTask taskId => forEffect (TaskStore.deleteTask taskId)
  | .upsert vectorId embedding metadata =>
    forEffect (modules.vectors.upsert vectorId embedding metadata)
  | .delete vectorId => forEffect (modules.vectors.delete vectorId)

/-- The state after a call, returned or raised. -/
def callStep (modules : MemoryModules ω) (s : MemoryState ω) (call : MemoryCall) : MemoryState ω :=
  (perform modules call s).2

/-- The transition a call asks for: task and state string. -/
def MemoryCall.transition : MemoryCall → Option (Int × String)
  | .transitionTask taskId newState => some (taskId, newState)
  | .activateTask taskId => some (taskId, TaskState.active.value)
  | .completeTask taskId => some (taskId, TaskState.completed.value)
  | .archiveTask taskId => some (taskId, TaskState.archived.value)
  | _ => none

/-- Everything a call can do. -/
inductive CallOutcome (modules : MemoryModules ω) (s : MemoryState ω) :
    MemoryCall → Except Exc Unit × MemoryState ω → Prop
  | stopped (call : MemoryCall) (exc : Exc) (w : Wire ω) (made : List Exchange)
      (grown : Grows s w made) : CallOutcome modules s call (.error exc, { s with wire := w })
  | inserted (title : String) (description : Value) (dueAt : Option String) (goal : Value)
      (priority : Int) (row : TaskRow) (id : Int) (after : TaskTable) (w : Wire ω)
      (made : List Exchange) (grown : Grows s w made)
      (cleared : StorageCleared modules.store.storageBridge modules.store.enforceStorageAuthority
        (modules.store.storageRequest "WRITE_TASK" TaskState.created.value) made)
      (initial : row.state = .created) (unarchived : row.archivedAt = none)
      (insertion : s.tasks.insert row = some (id, after)) :
      CallOutcome modules s (.createTask title description dueAt goal priority)
        (.ok (), { s with tasks := after, wire := w })
  | updated (taskId : Int) (changes : TaskStore.TaskChanges) (row : TaskRow)
      (fields : TaskStore.TaskFields) (now : String) (w : Wire ω) (made : List Exchange)
      (grown : Grows s w made) (found : s.tasks.find taskId = some row)
      (cleared : StorageCleared modules.store.storageBridge modules.store.enforceStorageAuthority
        (modules.store.storageRequest "UPDATE_TASK" row.state.value) made) :
      CallOutcome modules s (.updateTask taskId changes) (.ok (), { s with
        tasks := modules.store.writeFields s.tasks taskId fields now
        wire := w })
  | recorded (call : MemoryCall) (taskId : Int) (newState : String) (row : TaskRow)
      (destination : TaskState) (changedAtUtc : DateTime) (exc : Exc) (w : Wire ω)
      (asked made : List Exchange) (grown : Grows s w (asked ++ made))
      (requested : call.transition = some (taskId, newState))
      (found : s.tasks.find taskId = some row)
      (named : TaskState.ofValue newState = some destination)
      (allowed : modules.store.TransitionCleared (modules.store.host.datetimeNow s.wire.env).2 taskId
        row.state destination asked)
      (blocked : StorageBlocked modules.store.storageBridge modules.store.enforceStorageAuthority
        made) :
      CallOutcome modules s call (.error exc, { s with
        transitionLog := s.transitionLog ++ [⟨taskId, row.state, destination, changedAtUtc⟩]
        wire := w })
  | committed (call : MemoryCall) (taskId : Int) (newState : String) (row : TaskRow)
      (destination : TaskState) (changedAtUtc : DateTime) (now : String) (w : Wire ω)
      (asked made : List Exchange) (grown : Grows s w (asked ++ made))
      (requested : call.transition = some (taskId, newState))
      (found : s.tasks.find taskId = some row)
      (named : TaskState.ofValue newState = some destination)
      (allowed : modules.store.TransitionCleared (modules.store.host.datetimeNow s.wire.env).2 taskId
        row.state destination asked)
      (cleared : StorageCleared modules.store.storageBridge modules.store.enforceStorageAuthority
        (modules.store.storageRequest (TaskStore.storageOperationForDestination destination)
          row.state.value) made)
      (read : now = (modules.store.host.datetimeNow s.wire.env).1.isoformat) :
      CallOutcome modules s call (.ok (), { s with
        tasks := TaskStore.writeState s.tasks taskId destination now
          (TaskStore.archivedAtFor destination now row.archivedAt)
        transitionLog := s.transitionLog ++ [⟨taskId, row.state, destination, changedAtUtc⟩]
        wire := w })
  | wrote (call : MemoryCall) (vectorId : String)
      (target : call = .delete vectorId ∨ ∃ embedding metadata, call = .upsert vectorId embedding metadata)
      (records : List (String × VectorRecord)) (w : Wire ω) (operation : String)
      (asked made : List Exchange) (grown : Grows s w (asked ++ made))
      (shift : modules.vectors.TierShiftCleared asked)
      (cleared : StorageCleared modules.vectors.storageBridge
        modules.vectors.enforceStorageAuthority
        (modules.vectors.storageRequest operation "CREATED") made) :
      CallOutcome modules s call (.ok (), { s with records, wire := w })

theorem forEffect_eq {α : Type} {m : Comp Exc (MemoryState ω) α} {s s' : MemoryState ω}
    {r : Except Exc α} (ran : m s = (r, s')) : forEffect m s = (r.map fun _ => (), s') := by
  simp only [forEffect, ran]

/-- The transition calls have the outcomes of `transition_task`. -/
theorem transition_outcome (modules : MemoryModules ω) (s : MemoryState ω) (call : MemoryCall)
    (taskId : Int) (newState : String) (requested : call.transition = some (taskId, newState)) :
    CallOutcome modules s call (forEffect (modules.store.transitionTask taskId newState) s) := by
  rcases h : modules.store.transitionTask taskId newState s with ⟨r, s'⟩
  rw [forEffect_eq h]
  have outcome := modules.store.transitionTask_outcome taskId newState s
  rw [h] at outcome
  cases outcome with
  | stopped exc w made grown => exact .stopped call exc w made grown
  | recorded row destination changedAtUtc exc w asked made grown found named allowed blocked =>
    exact .recorded call taskId newState row destination changedAtUtc exc w asked made grown
      requested found named allowed blocked
  | committed row destination changedAtUtc now record w asked made grown found named allowed
      cleared read =>
    exact .committed call taskId newState row destination changedAtUtc now w asked made grown
      requested found named allowed cleared read

theorem vector_outcome {α : Type} (modules : MemoryModules ω) (s : MemoryState ω)
    (call : MemoryCall) (vectorId : String)
    (target : call = .delete vectorId ∨ ∃ embedding metadata, call = .upsert vectorId embedding metadata)
    (m : Comp Exc (MemoryState ω) α) (outcome : modules.vectors.VectorOutcome s (m s)) :
    CallOutcome modules s call (forEffect m s) := by
  rcases h : m s with ⟨r, s'⟩
  rw [forEffect_eq h]
  rw [h] at outcome
  cases outcome with
  | stopped exc w made grown => exact .stopped call exc w made grown
  | wrote result records w operation asked made grown shift cleared =>
    exact .wrote call vectorId target records w operation asked made grown shift cleared

/-- Each call has one of the outcomes; what follows about runs is by cases on them. -/
theorem perform_outcome (modules : MemoryModules ω) (s : MemoryState ω) (call : MemoryCall) :
    CallOutcome modules s call (perform modules call s) := by
  cases call with
  | createTask title description dueAt goal priority =>
    rcases h : modules.store.createTask title description dueAt goal priority s with ⟨r, s'⟩
    rw [perform, forEffect_eq h]
    have outcome := modules.store.createTask_outcome title description dueAt goal priority s
    rw [h] at outcome
    cases outcome with
    | stopped exc w made grown => exact .stopped _ exc w made grown
    | inserted row id after record w made grown cleared initial unarchived insertion =>
      exact .inserted title description dueAt goal priority row id after w made grown cleared initial
        unarchived insertion
  | updateTask taskId changes =>
    rcases h : modules.store.updateTask taskId changes s with ⟨r, s'⟩
    rw [perform, forEffect_eq h]
    have outcome := modules.store.updateTask_outcome taskId changes s
    rw [h] at outcome
    cases outcome with
    | stopped exc w made grown => exact .stopped _ exc w made grown
    | updated row fields now record w made grown found cleared =>
      exact .updated taskId changes row fields now w made grown found cleared
  | transitionTask taskId newState => exact transition_outcome modules s _ taskId newState rfl
  | activateTask taskId => exact transition_outcome modules s _ taskId _ rfl
  | completeTask taskId => exact transition_outcome modules s _ taskId _ rfl
  | archiveTask taskId => exact transition_outcome modules s _ taskId _ rfl
  | deleteTask taskId =>
    rw [perform, TaskStore.deleteTask]
    split
    · exact .stopped _ _ s.wire [] (by simp [Grows])
    · exact .stopped _ _ s.wire [] (by simp [Grows])
  | upsert vectorId embedding metadata =>
    exact vector_outcome modules s _ vectorId (Or.inr ⟨embedding, metadata, rfl⟩) _
      (modules.vectors.upsert_outcome vectorId embedding metadata s)
  | delete vectorId =>
    exact vector_outcome modules s _ vectorId (Or.inl rfl) _
      (modules.vectors.delete_outcome vectorId s)

/-! ## Rows -/

/-- What a call may do to state and stamp of a row: leave them, or commit a
transition that the authorities let through. -/
inductive RowStep (modules : MemoryModules ω) (s : MemoryState ω) (call : MemoryCall) (taskId : Int)
    (row row' : TaskRow) : Prop
  | kept (state : row'.state = row.state) (stamp : row'.archivedAt = row.archivedAt)
  | moved (newState : String) (destination : TaskState) (now : String) (asked made : List Exchange)
      (requested : call.transition = some (taskId, newState))
      (named : TaskState.ofValue newState = some destination)
      (allowed : modules.store.TransitionCleared (modules.store.host.datetimeNow s.wire.env).2 taskId
        row.state destination asked)
      (cleared : StorageCleared modules.store.storageBridge modules.store.enforceStorageAuthority
        (modules.store.storageRequest (TaskStore.storageOperationForDestination destination)
          row.state.value) made)
      (state : row'.state = destination)
      (stamp : row'.archivedAt = TaskStore.archivedAtFor destination now row.archivedAt)
      (returned : (perform modules call s).1 = .ok ())

/-- No call removes a row. -/
theorem callStep_row (modules : MemoryModules ω) (s : MemoryState ω) (call : MemoryCall)
    {taskId : Int} {row : TaskRow} (found : s.tasks.find taskId = some row) :
    ∃ row', (callStep modules s call).tasks.find taskId = some row' ∧
      RowStep modules s call taskId row row' := by
  unfold callStep
  have outcome := perform_outcome modules s call
  generalize ran : perform modules call s = out at outcome
  cases outcome with
  | stopped _ exc w made grown => exact ⟨row, found, .kept rfl rfl⟩
  | recorded _ taskId' newState row' destination changedAtUtc exc w asked made grown requested
      found' named allowed blocked => exact ⟨row, found, .kept rfl rfl⟩
  | wrote _ vectorId target records w operation asked made grown shift cleared =>
    exact ⟨row, found, .kept rfl rfl⟩
  | inserted title description dueAt goal priority created id after w made grown cleared initial
      unarchived insertion =>
    have different : taskId ≠ id := by
      intro same
      rw [same, TaskTable.find_fresh insertion] at found
      cases found
    refine ⟨row, ?_, .kept rfl rfl⟩
    dsimp only
    rw [TaskTable.find_insert insertion, if_neg different]
    exact found
  | updated taskId' changes row' fields now w made grown found' cleared =>
    dsimp only
    rw [TaskStore.find_writeFields, found]
    by_cases same : taskId = taskId'
    · rw [if_pos same]
      exact ⟨_, rfl, .kept rfl rfl⟩
    · rw [if_neg same]
      exact ⟨row, rfl, .kept rfl rfl⟩
  | committed _ taskId' newState row' destination changedAtUtc now w asked made grown requested
      found' named allowed cleared =>
    dsimp only
    rw [TaskStore.find_writeState, found]
    by_cases same : taskId = taskId'
    · subst same
      rw [found] at found'
      cases found'
      rw [if_pos rfl]
      exact ⟨_, rfl, .moved newState destination now asked made requested named allowed cleared
        rfl rfl (by rw [ran])⟩
    · rw [if_neg same]
      exact ⟨row, rfl, .kept rfl rfl⟩

/-- A row that was not there before is a new task. -/
theorem callStep_fresh (modules : MemoryModules ω) (s : MemoryState ω) (call : MemoryCall)
    {taskId : Int} {row : TaskRow} (absent : s.tasks.find taskId = none)
    (found : (callStep modules s call).tasks.find taskId = some row) :
    row.state = .created ∧ row.archivedAt = none := by
  unfold callStep at found
  have outcome := perform_outcome modules s call
  generalize perform modules call s = out at outcome found
  cases outcome with
  | stopped _ exc w made grown =>
    rw [absent] at found
    cases found
  | recorded _ taskId' newState row' destination changedAtUtc exc w asked made grown requested
      found' named allowed blocked =>
    rw [absent] at found
    cases found
  | wrote _ vectorId target records w operation asked made grown shift cleared =>
    rw [absent] at found
    cases found
  | inserted title description dueAt goal priority created id after w made grown cleared initial
      unarchived insertion =>
    dsimp only at found
    rw [TaskTable.find_insert insertion, absent] at found
    split at found
    · cases found
      exact ⟨initial, unarchived⟩
    · cases found
  | updated taskId' changes row' fields now w made grown found' cleared =>
    dsimp only at found
    rw [TaskStore.find_writeFields, absent] at found
    split at found <;> cases found
  | committed _ taskId' newState row' destination changedAtUtc now w asked made grown requested
      found' named allowed cleared =>
    dsimp only at found
    rw [TaskStore.find_writeState, absent] at found
    split at found <;> cases found

/-- What a call keeps of each row and gives each new task, a run keeps of all rows. -/
theorem rows_preserved {modules : MemoryModules ω} {good : TaskRow → Prop}
    (moves : ∀ s call taskId row row', s.tasks.find taskId = some row → good row →
      RowStep modules s call taskId row row' → good row')
    (created : ∀ row : TaskRow, row.state = .created → row.archivedAt = none → good row)
    (s : MemoryState ω) (call : MemoryCall)
    (before : ∀ taskId row, s.tasks.find taskId = some row → good row) :
    ∀ taskId row, (callStep modules s call).tasks.find taskId = some row → good row := by
  intro taskId row found
  cases old : s.tasks.find taskId with
  | none =>
    obtain ⟨initial, unarchived⟩ := callStep_fresh modules s call old found
    exact created row initial unarchived
  | some row' =>
    obtain ⟨row'', found', step⟩ := callStep_row modules s call old
    rw [found] at found'
    cases found'
    exact moves s call taskId row' row old (before taskId row' old) step

end Apcos.Source.Memory
