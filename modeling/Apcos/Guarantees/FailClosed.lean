import Apcos.Source.Memory.Calls

/-!
# Fail-closed mutation

A row of the tasks table or a vector record changes in a call only after every
authority the call must consult approved it on the wire of that call. Nothing
is assumed about the transports: they are arbitrary functions of the request
and the outside world, and may raise.
-/
namespace Apcos.Guarantees.FailClosed

open Apcos.Lib
open Apcos.Source.Python (Value Exc)
open Apcos.Source.Bridge
open Apcos.Source.Memory

variable {ω : Type}

/-- One of these exchanges is an approval that this bridge's transport answered. -/
def StorageApproved (bridge : RustBridge ω) (made : List Exchange) : Prop :=
  ∃ e ∈ made, StorageApproval e ∧ e.endpoint = bridge.endpoint ∧
    ∃ answer env, bridge.storageRoute = some answer ∧ e.reply = (answer e.request env).1

def MemoryApproved (bridge : RustBridge ω) (made : List Exchange) : Prop :=
  ∃ e ∈ made, (∃ target, MemoryApproval e target) ∧ e.endpoint = bridge.endpoint ∧
    ∃ answer env, bridge.memoryRoute = some answer ∧ e.reply = (answer e.request env).1

/-- The bridges a call must consult: storage for creation and update, memory and
storage for all others. `none` is a bridge that is not set. -/
structure Consults (ω : Type) where
  storageBridge : Option (RustBridge ω)
  enforceStorage : Bool
  memoryBridge : Option (RustBridge ω)
  enforceMemory : Bool

def consults (modules : MemoryModules ω) : MemoryCall → Consults ω
  | .createTask .. | .updateTask .. =>
    ⟨modules.store.storageBridge, modules.store.enforceStorageAuthority, none, false⟩
  | .upsert .. | .delete .. =>
    ⟨modules.vectors.storageBridge, modules.vectors.enforceStorageAuthority,
      modules.vectors.memoryBridge, modules.vectors.enforceMemoryAuthority⟩
  | .transitionTask .. | .activateTask .. | .completeTask .. | .archiveTask .. | .deleteTask .. =>
    ⟨modules.store.storageBridge, modules.store.enforceStorageAuthority,
      modules.store.memoryBridge, modules.store.enforceMemoryAuthority⟩

/-- Every bridge that is set approved, on these exchanges. -/
def Consults.Approved (c : Consults ω) (made : List Exchange) : Prop :=
  (∀ bridge, c.storageBridge = some bridge → StorageApproved bridge made) ∧
    ∀ bridge, c.memoryBridge = some bridge → MemoryApproved bridge made

/-- A bridge that must be consulted is missing while its enforce flag is set. -/
def Consults.Missing (c : Consults ω) : Prop :=
  (c.storageBridge = none ∧ c.enforceStorage = true) ∨
    (c.memoryBridge = none ∧ c.enforceMemory = true)

/-- Tasks table and vector records are the same. -/
def Unchanged (s s' : MemoryState ω) : Prop := s'.tasks = s.tasks ∧ s'.records = s.records

theorem storageApproved_of_cleared {storageBridge : Option (RustBridge ω)} {enforce : Bool}
    {request : StorageRequest} {made : List Exchange} (asked : List Exchange)
    (cleared : StorageCleared storageBridge enforce request made) (bridge : RustBridge ω)
    (present : storageBridge = some bridge) : StorageApproved bridge (asked ++ made) := by
  subst present
  obtain ⟨e, rfl, approval, id, endpoint, answer, env, sent, route, -, reply⟩ := cleared
  exact ⟨e, by simp, approval, endpoint, answer, env, route, reply⟩

theorem memoryApproved_of_permit {bridge : RustBridge ω} {request : MemoryRequest}
    {target : Option String} {e : Exchange} {asked made : List Exchange}
    (permit : MemoryPermit bridge request target e) :
    MemoryApproved bridge ((asked ++ [e]) ++ made) := by
  obtain ⟨approval, id, endpoint, answer, env, sent, route, -, reply⟩ := permit
  exact ⟨e, by simp, ⟨target, approval⟩, endpoint, answer, env, route, reply⟩

theorem not_missing_of_cleared {storageBridge : Option (RustBridge ω)} {enforce : Bool}
    {request : StorageRequest} {made : List Exchange}
    (cleared : StorageCleared storageBridge enforce request made) :
    ¬(storageBridge = none ∧ enforce = true) := by
  rintro ⟨rfl, rfl⟩
  exact absurd cleared.1 (by decide)

/-- A transition that is cleared was approved by the memory authority where there is one, and did
not miss a required one. -/
theorem transition_approved {store : TaskStore ω} {env : ω} {taskId : Int}
    {source target : TaskState} {asked : List Exchange} (made : List Exchange)
    (allowed : store.TransitionCleared env taskId source target asked) :
    (∀ bridge, store.memoryBridge = some bridge → MemoryApproved bridge (asked ++ made)) ∧
      ¬(store.memoryBridge = none ∧ store.enforceMemoryAuthority = true) := by
  unfold TaskStore.TransitionCleared at allowed
  cases memory : store.memoryBridge with
  | none =>
    rw [memory] at allowed
    refine ⟨fun bridge present => (by cases present), ?_⟩
    rintro ⟨-, enforced⟩
    rw [allowed.1] at enforced
    cases enforced
  | some bridge =>
    rw [memory] at allowed
    obtain ⟨flag, preflight, e, goal, rfl, -, permit⟩ := allowed
    refine ⟨fun bridge' present => ?_, fun absent => (by cases absent.1)⟩
    cases present
    exact memoryApproved_of_permit permit

theorem tierShift_approved {vectors : VectorMemory ω} {asked : List Exchange} (made : List Exchange)
    (shift : vectors.TierShiftCleared asked) :
    (∀ bridge, vectors.memoryBridge = some bridge → MemoryApproved bridge (asked ++ made)) ∧
      ¬(vectors.memoryBridge = none ∧ vectors.enforceMemoryAuthority = true) := by
  unfold VectorMemory.TierShiftCleared at shift
  cases memory : vectors.memoryBridge with
  | none =>
    rw [memory] at shift
    refine ⟨fun bridge present => (by cases present), ?_⟩
    rintro ⟨-, enforced⟩
    rw [shift.1] at enforced
    cases enforced
  | some bridge =>
    rw [memory] at shift
    obtain ⟨preflight, e, request, goal, rfl, permit⟩ := shift
    refine ⟨fun bridge' present => ?_, fun absent => (by cases absent.1)⟩
    cases present
    exact memoryApproved_of_permit permit

/-- One call: it leaves table and records alone, or it returned, no required
bridge was missing under enforcement and all bridges that are set approved. -/
theorem call_fail_closed (modules : MemoryModules ω) (call : MemoryCall) (s : MemoryState ω) :
    let out := perform modules call s
    Unchanged s out.2 ∨
      (out.1 = .ok () ∧ ¬(consults modules call).Missing ∧
        ∃ made, out.2.wire.exchanges = s.wire.exchanges ++ made ∧
          (consults modules call).Approved made) := by
  intro out
  have outcome : CallOutcome modules s call out := perform_outcome modules s call
  clear_value out
  cases outcome with
  | stopped _ exc w made grown => exact Or.inl ⟨rfl, rfl⟩
  | recorded _ taskId newState row destination changedAtUtc exc w asked made grown requested found
      named allowed blocked => exact Or.inl ⟨rfl, rfl⟩
  | inserted title description dueAt goal priority row id after w made grown cleared initial
      unarchived insertion =>
    refine Or.inr ⟨rfl, ?_, made, grown, ?_, ?_⟩
    · rintro (storage | ⟨-, memory⟩)
      · exact not_missing_of_cleared cleared storage
      · cases memory
    · exact storageApproved_of_cleared [] cleared
    · exact fun bridge present => (by cases present)
  | updated taskId changes row fields now w made grown found cleared =>
    refine Or.inr ⟨rfl, ?_, made, grown, ?_, ?_⟩
    · rintro (storage | ⟨-, memory⟩)
      · exact not_missing_of_cleared cleared storage
      · cases memory
    · exact storageApproved_of_cleared [] cleared
    · exact fun bridge present => (by cases present)
  | committed _ taskId newState row destination changedAtUtc now w asked made grown requested found
      named allowed cleared =>
    have required : consults modules call = ⟨modules.store.storageBridge,
        modules.store.enforceStorageAuthority, modules.store.memoryBridge,
        modules.store.enforceMemoryAuthority⟩ := by
      cases call <;> first | rfl | cases requested
    obtain ⟨memoryApproved, notMissing⟩ := transition_approved made allowed
    rw [required]
    refine Or.inr ⟨rfl, ?_, asked ++ made, grown,
      storageApproved_of_cleared asked cleared, memoryApproved⟩
    rintro (storage | memory)
    · exact not_missing_of_cleared cleared storage
    · exact notMissing memory
  | wrote _ vectorId target records w operation asked made grown shift cleared =>
    have required : consults modules call = ⟨modules.vectors.storageBridge,
        modules.vectors.enforceStorageAuthority, modules.vectors.memoryBridge,
        modules.vectors.enforceMemoryAuthority⟩ := by
      rcases target with rfl | ⟨embedding, metadata, rfl⟩ <;> rfl
    obtain ⟨memoryApproved, notMissing⟩ := tierShift_approved made shift
    rw [required]
    refine Or.inr ⟨rfl, ?_, asked ++ made, grown,
      storageApproved_of_cleared asked cleared, memoryApproved⟩
    rintro (storage | memory)
    · exact not_missing_of_cleared cleared storage
    · exact notMissing memory

/-- Fail-closed mutation on every run: whatever the configuration, the transports
and the calls made before. -/
theorem mutation_fail_closed (modules : MemoryModules ω) (env : ω) (calls : List MemoryCall)
    (call : MemoryCall) :
    let s := run (callStep modules) (.initial env) calls
    let out := perform modules call s
    (¬Unchanged s out.2 → ∃ made, out.2.wire.exchanges = s.wire.exchanges ++ made ∧
        (consults modules call).Approved made) ∧
      ((consults modules call).Missing → Unchanged s out.2) ∧
      ((∃ exc, out.1 = .error exc) → Unchanged s out.2) := by
  intro s out
  rcases call_fail_closed modules call s with same | ⟨returned, present, made, grown, approved⟩
  · exact ⟨fun changed => absurd same changed, fun _ => same, fun _ => same⟩
  · refine ⟨fun _ => ⟨made, grown, approved⟩, fun missing => absurd missing present, ?_⟩
    rintro ⟨exc, raised⟩
    have clash : (.error exc : Except Exc Unit) = .ok () := raised.symm.trans returned
    cases clash

end Apcos.Guarantees.FailClosed
