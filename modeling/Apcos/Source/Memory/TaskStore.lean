import Apcos.Source.Memory.Authority
import Apcos.Source.Memory.Encryption

/-!
# Task store

core/memory/task_store.py:24-490. The store object is its configuration; table,
transition log, vector records and the outside world are the state every
operation threads. A lambda handed to a gate is a computation on that state.
`with` blocks and `close` are not modeled.
-/
namespace Apcos.Source.Memory

open Apcos.Lib
open Apcos.Source.Python (Value Dict Exc DateTime Runtime PyFloat strip blank)
open Apcos.Source.Bridge

structure TaskRecord where
  taskId : Int
  title : String
  description : Option String
  goal : Option String
  dueAt : Option String
  priority : Int
  state : TaskState
  createdAt : String
  updatedAt : String
  archivedAt : Option String
  deriving DecidableEq, Repr

structure TaskStore (ω : Type) where
  py : Runtime
  host : HostApi ω
  encryption : EncryptionLayer
  lifecycle : LifecycleManager ω := {}
  storageBridge : Option (RustBridge ω) := none
  enforceStorageAuthority : Bool := false
  storageEnergyMode : String := "STRATEGIC"
  storageExecutionType : String := "BACKGROUND_TASK"
  memoryBridgeArgument : Option (RustBridge ω) := none
  enforceMemoryAuthority : Bool := false
  memoryEnergyMode : String := "STRATEGIC"

namespace TaskStore

variable {ω α : Type}

/-- `memory_bridge or storage_bridge`. -/
def memoryBridge (store : TaskStore ω) : Option (RustBridge ω) :=
  store.memoryBridgeArgument <|> store.storageBridge

def storageEncryptionKeyId (store : TaskStore ω) : String :=
  "python-" ++ store.encryption.keyDigest

def utcNow (store : TaskStore ω) : Comp Exc (MemoryState ω) DateTime :=
  onWorld store.host.datetimeNow

def utcNowIso (store : TaskStore ω) : Comp Exc (MemoryState ω) String := do
  let now ← store.utcNow
  return now.isoformat

/-! ## Reading -/

def rowToRecord (store : TaskStore ω) (row : TaskRow) : Except Exc TaskRecord := do
  let title ← store.encryption.decrypt row.titleEnc
  let description ← store.encryption.decryptOption row.descriptionEnc
  let goal ← store.encryption.decryptOption row.goalEnc
  return { taskId := row.id, title, description, goal, dueAt := row.dueAt,
           priority := row.priority, state := row.state, createdAt := row.createdAt,
           updatedAt := row.updatedAt, archivedAt := row.archivedAt }

/-- The read of `get_task` on a table. -/
def recordOf (store : TaskStore ω) (tasks : TaskTable) (taskId : Int) :
    Except Exc (Option TaskRecord) :=
  match bindInteger taskId with
  | .error exc => .error exc
  | .ok id =>
    match tasks.find id with
    | none => .ok none
    | some row => (store.rowToRecord row).map some

def getTask (store : TaskStore ω) (taskId : Int) : Comp Exc (MemoryState ω) (Option TaskRecord) :=
  fun s => (store.recordOf s.tasks taskId, s)

def listTasks (store : TaskStore ω) (includeArchived : Bool) :
    Comp Exc (MemoryState ω) (List TaskRecord) := fun s =>
  let rows := if includeArchived then s.tasks.rows
    else s.tasks.rows.filter fun row => row.state != .archived
  (rows.reverse.mapM store.rowToRecord, s)

/-! ## Storage gate -/

def storageRequest (store : TaskStore ω) (operation lifecycleState : String) : StorageRequest where
  operation
  lifecycleState
  energyMode := store.storageEnergyMode
  executionType := store.storageExecutionType
  encryptionMetadataPresent := true
  encryptionKeyId := some store.storageEncryptionKeyId

def validateStorageAndMaybeExecute (store : TaskStore ω) (operation lifecycleState : String)
    (executeCallable : Comp Exc (MemoryState ω) α) : Comp Exc (MemoryState ω) α :=
  gateStorage store.host store.storageBridge store.enforceStorageAuthority
    (store.storageRequest operation lifecycleState) "storage-" executeCallable

def requestStoragePermission (store : TaskStore ω) (operation lifecycleState : String) :
    Comp Exc (MemoryState ω) Bool :=
  storagePermission store.host store.storageBridge store.enforceStorageAuthority
    (store.storageRequest operation lifecycleState) "storage-preflight-"

/-! ## Statements -/

/-- `encrypt(value.strip()) if value else None`. -/
def encryptStripped (store : TaskStore ω) (v : Value) : Except Exc (Option String) :=
  if !v.truthy then .ok none
  else
    match v with
    | .str s => .ok (some (store.encryption.encrypt (strip s)))
    | _ => .error ⟨.attributeError, "object has no attribute 'strip'"⟩

def createTaskRow (store : TaskStore ω) (cleanedTitle : String) (description goal : Value)
    (dueAt : Option String) (priority : Int) (timestamp : String) :
    Comp Exc (MemoryState ω) Int := do
  let descriptionEnc ← Comp.ofExcept (store.encryptStripped description)
  let goalEnc ← Comp.ofExcept (store.encryptStripped goal)
  let priority ← Comp.ofExcept (bindInteger priority)
  let s ← Comp.get
  match s.tasks.insert
      { id := 0, titleEnc := store.encryption.encrypt cleanedTitle, descriptionEnc, goalEnc, dueAt,
        priority, state := .created, createdAt := timestamp, updatedAt := timestamp,
        archivedAt := none } with
  | none => Comp.raise ⟨.sqliteError, "database or disk is full"⟩
  | some (id, tasks) => do
    Comp.modify fun s => { s with tasks }
    return id

/-- Columns written by `update_task`. -/
structure TaskFields where
  title : String
  description : Option String
  goal : Option String
  dueAt : Option String
  priority : Int
  deriving DecidableEq, Repr

def setFields (store : TaskStore ω) (fields : TaskFields) (updatedAt : String) (row : TaskRow) :
    TaskRow :=
  { row with
    titleEnc := store.encryption.encrypt fields.title
    descriptionEnc := store.encryption.encryptOption fields.description
    goalEnc := store.encryption.encryptOption fields.goal
    dueAt := fields.dueAt
    priority := fields.priority
    updatedAt }

/-- The statement of `_update_task_row`. -/
def writeFields (store : TaskStore ω) (tasks : TaskTable) (taskId : Int) (fields : TaskFields)
    (updatedAt : String) : TaskTable :=
  tasks.update taskId (store.setFields fields updatedAt) fun _ => rfl

def updateTaskRow (store : TaskStore ω) (taskId : Int) (fields : TaskFields) :
    Comp Exc (MemoryState ω) Unit := do
  let now ← store.utcNowIso
  let _ ← Comp.ofExcept (bindInteger fields.priority)
  let id ← Comp.ofExcept (bindInteger taskId)
  Comp.modify fun s =>
    { s with tasks := store.writeFields s.tasks id fields now }

def setState (destination : TaskState) (updatedAt : String) (archivedAt : Option String)
    (row : TaskRow) : TaskRow :=
  { row with state := destination, updatedAt, archivedAt }

/-- The statement of `_transition_task_row`. -/
def writeState (tasks : TaskTable) (taskId : Int) (destination : TaskState) (updatedAt : String)
    (archivedAt : Option String) : TaskTable :=
  tasks.update taskId (setState destination updatedAt archivedAt) fun _ => rfl

def transitionTaskRow (taskId : Int) (destination : TaskState) (updatedAt : String)
    (archivedAt : Option String) : Comp Exc (MemoryState ω) Unit := do
  let id ← Comp.ofExcept (bindInteger taskId)
  Comp.modify fun s =>
    { s with tasks := writeState s.tasks id destination updatedAt archivedAt }

/-! ## Transitions -/

def appendTransitionRecord (store : TaskStore ω) (taskId : Int) (fromState toState : TaskState) :
    Comp Exc (MemoryState ω) Unit := do
  let changedAtUtc ← store.utcNow
  Comp.modify fun s =>
    { s with transitionLog := s.transitionLog ++ [{ taskId, fromState, toState, changedAtUtc }] }

/-- `LifecycleManager.assert_transition`. -/
def assertTransition (store : TaskStore ω) (taskId : Int) (fromState toState : TaskState) :
    Comp Exc (MemoryState ω) Unit := do
  let decision ← Comp.zoom (MemoryState.wireLens ω) (Comp.zoom (Wire.envLens ω)
    (store.lifecycle.authorizeTransition taskId fromState toState))
  if !decision.allowed then
    Comp.raise ⟨.invalidStateTransitionError,
      "Invalid transition for task " ++ toString taskId ++ ": " ++ fromState.value ++ " -> " ++
        toState.value ++ reasonSuffix decision.reason⟩
  else store.appendTransitionRecord taskId fromState toState

/-- `LifecycleManager.record_transition`: no local validation. -/
def recordTransition (store : TaskStore ω) (taskId : Int) (fromState toState : TaskState) :
    Comp Exc (MemoryState ω) Unit :=
  store.appendTransitionRecord taskId fromState toState

def storageOperationForDestination (destination : TaskState) : String :=
  if destination = .archived then "ARCHIVE_TASK" else "UPDATE_TASK"

def memoryOperationForTransition (currentState destinationState : TaskState) : String :=
  if destinationState = .active then "PROMOTE_TO_ACTIVE"
  else if destinationState = .completed then "DEMOTE_TO_DORMANT"
  else if destinationState = .archived ∧ currentState = .archived then "FINALIZE_ARCHIVE"
  else if destinationState = .archived then "ARCHIVE_ITEM"
  else "RETENTION_TRIGGER"

def executeAuthorizedTransition (store : TaskStore ω) (taskId : Int)
    (currentState destination : TaskState) (storageOperation lifecycleState : String)
    (executeCallable : Comp Exc (MemoryState ω) α) : Comp Exc (MemoryState ω) α := do
  store.recordTransition taskId currentState destination
  store.validateStorageAndMaybeExecute storageOperation lifecycleState executeCallable

def memoryRequest (store : TaskStore ω) (currentState destination : TaskState)
    (memoryOperation : String) (storagePermissionFlag : Bool) : MemoryRequest where
  currentLifecycleState := currentState.value
  operation := memoryOperation
  energyMode := store.memoryEnergyMode
  storagePermissionFlag
  metadataFlags := some
    [("critical_reminder", false), ("allow_archived_reactivation", false),
      ("retention_due", decide (destination = .archived))]

def validateMemoryAndMaybeTransition (store : TaskStore ω) (taskId : Int)
    (currentState destination : TaskState) (memoryOperation storageOperation lifecycleState : String)
    (executeCallable : Comp Exc (MemoryState ω) α) : Comp Exc (MemoryState ω) α :=
  match store.memoryBridge with
  | none =>
    if store.enforceMemoryAuthority then
      Comp.raise ⟨.invalidStateTransitionError,
        "Invalid transition for task " ++ toString taskId ++ ": memory authority unavailable"⟩
    else do
      store.assertTransition taskId currentState destination
      store.validateStorageAndMaybeExecute storageOperation lifecycleState executeCallable
  | some bridge =>
    gateMemory store.host bridge (store.requestStoragePermission storageOperation lifecycleState)
      (store.memoryRequest currentState destination memoryOperation) "memory-"
      (fun reason => ⟨.invalidStateTransitionError,
        "Invalid transition for task " ++ toString taskId ++ ": " ++ currentState.value ++ " -> " ++
          destination.value ++ " (" ++ reasonOr (some reason) "MEMORY_TRANSITION_DENIED" ++ ")"⟩)
      (store.executeAuthorizedTransition taskId currentState destination storageOperation
        lifecycleState executeCallable)

/-! ## Operations -/

def createTask (store : TaskStore ω) (title : String) (description : Value) (dueAt : Option String)
    (goal : Value) (priority : Int) : Comp Exc (MemoryState ω) (Option TaskRecord) := do
  if strip title = "" then
    Comp.raise ⟨.valueError, "title must not be empty"⟩
  else do
    let timestamp ← store.utcNowIso
    let taskId ← store.validateStorageAndMaybeExecute "WRITE_TASK" TaskState.created.value
      (store.createTaskRow (strip title) description goal dueAt priority timestamp)
    store.getTask taskId

/-- Keyword arguments of `update_task`; `none` keeps the column. -/
structure TaskChanges where
  title : Option String := none
  description : Option String := none
  goal : Option String := none
  dueAt : Option String := none
  priority : Option Int := none
  deriving DecidableEq, Repr

def updatedFields (changes : TaskChanges) (current : TaskRecord) : TaskFields where
  title := (changes.title.map strip).getD current.title
  description := (changes.description.map strip) <|> current.description
  goal := (changes.goal.map strip) <|> current.goal
  dueAt := changes.dueAt <|> current.dueAt
  priority := changes.priority.getD current.priority

def taskNotFound (taskId : Int) : Exc := ⟨.keyError, "Task " ++ toString taskId ++ " not found"⟩

def updateTask (store : TaskStore ω) (taskId : Int) (changes : TaskChanges) :
    Comp Exc (MemoryState ω) (Option TaskRecord) := do
  match ← store.getTask taskId with
  | none => Comp.raise (taskNotFound taskId)
  | some current =>
    let fields := updatedFields changes current
    if fields.title = "" then
      Comp.raise ⟨.valueError, "title must not be empty"⟩
    else do
      store.validateStorageAndMaybeExecute "UPDATE_TASK" current.state.value
        (store.updateTaskRow taskId fields)
      store.getTask taskId

/-- `archived_at` written by a transition. -/
def archivedAtFor (destination : TaskState) (now : String) (current : Option String) :
    Option String :=
  if destination = .archived then some now else current

def transitionTask (store : TaskStore ω) (taskId : Int) (newState : String) :
    Comp Exc (MemoryState ω) (Option TaskRecord) := do
  match ← store.getTask taskId with
  | none => Comp.raise (taskNotFound taskId)
  | some current => do
    let destination ← Comp.ofExcept (normalizeState store.py newState)
    let now ← store.utcNowIso
    store.validateMemoryAndMaybeTransition taskId current.state destination
      (memoryOperationForTransition current.state destination)
      (storageOperationForDestination destination) current.state.value
      (transitionTaskRow taskId destination now
        (archivedAtFor destination now current.archivedAt))
    store.getTask taskId

def activateTask (store : TaskStore ω) (taskId : Int) : Comp Exc (MemoryState ω) (Option TaskRecord) :=
  store.transitionTask taskId TaskState.active.value

def completeTask (store : TaskStore ω) (taskId : Int) : Comp Exc (MemoryState ω) (Option TaskRecord) :=
  store.transitionTask taskId TaskState.completed.value

def archiveTask (store : TaskStore ω) (taskId : Int) : Comp Exc (MemoryState ω) (Option TaskRecord) :=
  store.transitionTask taskId TaskState.archived.value

/-- Always raises; the message prints the id. -/
def deleteTask (taskId : Int) : Comp Exc (MemoryState ω) (Option TaskRecord) :=
  if (Value.int taskId).printable then
    Comp.raise ⟨.runtimeError, "Permanent deletion disabled for task " ++ toString taskId ++
      "; use archive_task instead."⟩
  else Comp.raise ⟨.valueError, "Exceeds the limit (4300 digits) for integer string conversion"⟩

end TaskStore

end Apcos.Source.Memory
