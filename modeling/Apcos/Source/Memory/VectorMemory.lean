import Apcos.Source.Memory.TaskStore

/-!
# Vector memory

core/memory/vector_memory.py:25-181. The records dict is an association list in
insertion order with one entry a key.
-/
namespace Apcos.Source.Memory

open Apcos.Lib
open Apcos.Source.Python (Value Dict Exc Runtime PyFloat)
open Apcos.Source.Bridge

structure VectorMemory (ω : Type) where
  py : Runtime
  host : HostApi ω
  storageBridge : Option (RustBridge ω) := none
  enforceStorageAuthority : Bool := false
  storageEnergyMode : String := "STRATEGIC"
  storageExecutionType : String := "BACKGROUND_TASK"
  encryptionKeyId : String := "vector-default-key"
  memoryBridgeArgument : Option (RustBridge ω) := none
  enforceMemoryAuthority : Bool := false
  memoryEnergyMode : String := "STRATEGIC"

namespace VectorMemory

variable {ω α : Type}

def memoryBridge (memory : VectorMemory ω) : Option (RustBridge ω) :=
  memory.memoryBridgeArgument <|> memory.storageBridge

def storageRequest (memory : VectorMemory ω) (operation lifecycleState : String) :
    StorageRequest where
  operation
  lifecycleState
  energyMode := memory.storageEnergyMode
  executionType := memory.storageExecutionType
  encryptionMetadataPresent := true
  encryptionKeyId := some memory.encryptionKeyId

def memoryRequest (memory : VectorMemory ω) (operation currentLifecycleState : String)
    (storagePermissionFlag : Bool) : MemoryRequest where
  currentLifecycleState
  operation
  energyMode := memory.memoryEnergyMode
  storagePermissionFlag
  metadataFlags := some
    [("critical_reminder", false), ("allow_archived_reactivation", false), ("retention_due", false)]

def validateStorageAndMaybeExecute (memory : VectorMemory ω) (operation lifecycleState : String)
    (executeCallable : Comp Exc (MemoryState ω) α) : Comp Exc (MemoryState ω) α :=
  gateStorage memory.host memory.storageBridge memory.enforceStorageAuthority
    (memory.storageRequest operation lifecycleState) "storage-vector-" executeCallable

def requestStoragePermission (memory : VectorMemory ω) (operation lifecycleState : String) :
    Comp Exc (MemoryState ω) Bool :=
  storagePermission memory.host memory.storageBridge memory.enforceStorageAuthority
    (memory.storageRequest operation lifecycleState) "storage-vector-preflight-"

def validateMemoryAndMaybeTransition (memory : VectorMemory ω)
    (operation currentLifecycleState storageOperation : String)
    (transitionCallable : Comp Exc (MemoryState ω) α) : Comp Exc (MemoryState ω) α :=
  match memory.memoryBridge with
  | none =>
    if memory.enforceMemoryAuthority then
      Comp.raise ⟨.runtimeError, "Memory authority unavailable"⟩
    else transitionCallable
  | some bridge =>
    gateMemory memory.host bridge (memory.requestStoragePermission storageOperation "CREATED")
      (memory.memoryRequest operation currentLifecycleState) "memory-vector-"
      (fun reason => ⟨.runtimeError,
        "Memory authority denied: " ++ reasonOr (some reason) "MEMORY_DENIED"⟩)
      transitionCallable

/-- `records[key] = record`. -/
def setRecord (record : VectorRecord) :
    List (String × VectorRecord) → List (String × VectorRecord)
  | [] => [(record.vectorId, record)]
  | entry :: rest =>
    if entry.1 = record.vectorId then (entry.1, record) :: rest
    else entry :: setRecord record rest

def write (payload : VectorRecord) : Comp Exc (MemoryState ω) VectorRecord := do
  Comp.modify fun s => { s with records := setRecord payload s.records }
  return payload

/-- `records.pop(vector_id, None) is not None`. -/
def remove (vectorId : String) : Comp Exc (MemoryState ω) Bool := do
  let s ← Comp.get
  Comp.modify fun s => { s with records := s.records.filter fun entry => entry.1 != vectorId }
  return (s.records.lookup vectorId).isSome

def upsert (memory : VectorMemory ω) (vectorId : String) (embedding : List Value)
    (metadata : List (String × String)) : Comp Exc (MemoryState ω) VectorRecord := do
  let embedding ← Comp.ofExcept (embedding.mapM (Python.float memory.py))
  memory.validateMemoryAndMaybeTransition "VECTOR_TIER_SHIFT" "ACTIVE" "VECTOR_WRITE"
    (memory.validateStorageAndMaybeExecute "VECTOR_WRITE" "CREATED"
      (write { vectorId, embedding, metadata }))

def delete (memory : VectorMemory ω) (vectorId : String) : Comp Exc (MemoryState ω) Bool :=
  memory.validateMemoryAndMaybeTransition "VECTOR_TIER_SHIFT" "DORMANT" "VECTOR_DELETE"
    (memory.validateStorageAndMaybeExecute "VECTOR_DELETE" "CREATED" (remove vectorId))

/-- Read without mutation. -/
def get (vectorId : String) : Comp Exc (MemoryState ω) (Option VectorRecord) := do
  let s ← Comp.get
  return s.records.lookup vectorId

end VectorMemory

end Apcos.Source.Memory
