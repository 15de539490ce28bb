import Mathlib.Data.List.Chain
import Apcos.Source.Memory.Calls

/-!
# Transition log and tasks table

The record of a transition is appended before the storage gate is asked and
before the row is written (task_store.py:382-391, 436-442). Log and table agree
after a run exactly as long as no call is stopped between the two.
-/
namespace Apcos.Guarantees.TransitionLog

open Apcos.Lib
open Apcos.Source.Python (Value Dict Exc DateTime Runtime asciiRuntime)
open Apcos.Source.Bridge
open Apcos.Source.Memory

variable {ω : Type}

/-- The log restricted to a task. -/
def taskLog (s : MemoryState ω) (taskId : Int) : List TransitionRecord :=
  s.transitionLog.filter fun record => record.taskId == taskId

/-- A chain of records from `CREATED` to this state. -/
structure Reaches (records : List TransitionRecord) (state : TaskState) : Prop where
  linked : records.IsChain fun a b => b.fromState = a.toState
  starts : ∀ first ∈ records.head?, first.fromState = .created
  ends : (records.getLast?.map TransitionRecord.toState).getD .created = state

/-- Every task's log is a chain to the state of its row; a task without a row
has no record. -/
def LogAgrees (s : MemoryState ω) : Prop :=
  ∀ taskId, match s.tasks.find taskId with
    | none => taskLog s taskId = []
    | some row => Reaches (taskLog s taskId) row.state

theorem reaches_nil : Reaches [] .created := ⟨.nil, by simp, rfl⟩

theorem reaches_append {records : List TransitionRecord} {record : TransitionRecord}
    (chain : Reaches records record.fromState) : Reaches (records ++ [record]) record.toState := by
  refine ⟨?_, ?_, by simp⟩
  · refine List.isChain_append.mpr ⟨chain.linked, .singleton record, ?_⟩
    intro last lastMem first firstMem
    cases Option.mem_some.mp firstMem
    have ends := chain.ends
    rw [Option.mem_def.mp lastMem] at ends
    exact ends.symm
  · cases records with
    | nil => simpa using chain.ends.symm
    | cons head tail => exact chain.starts

/-- The condition on a call: when the lifecycle decision of the call lets it
reach the storage gate, the storage gate clears it. The decision and the
answers are those of the authorities in this call. -/
def StorageGateFollows (modules : MemoryModules ω) (s : MemoryState ω) (call : MemoryCall) : Prop :=
  ∀ taskId newState row destination asked made,
    call.transition = some (taskId, newState) → s.tasks.find taskId = some row →
    TaskState.ofValue newState = some destination →
    (callStep modules s call).wire.exchanges = s.wire.exchanges ++ (asked ++ made) →
    modules.store.TransitionCleared (modules.store.host.datetimeNow s.wire.env).2 taskId row.state
      destination asked →
    StorageCleared modules.store.storageBridge modules.store.enforceStorageAuthority
      (modules.store.storageRequest (TaskStore.storageOperationForDestination destination)
        row.state.value) made

theorem not_blocked_of_cleared {storageBridge : Option (RustBridge ω)} {enforce : Bool}
    {request : StorageRequest} {made : List Exchange}
    (cleared : StorageCleared storageBridge enforce request made) :
    ¬StorageBlocked storageBridge enforce made := by
  intro blocked
  cases storageBridge with
  | none =>
    have clash : false = true := cleared.1.symm.trans blocked.1
    cases clash
  | some bridge =>
    obtain ⟨e, rfl, permit⟩ := cleared
    exact blocked e (by simp) permit.approval

theorem taskLog_append (s s' : MemoryState ω) (record : TransitionRecord)
    (appended : s'.transitionLog = s.transitionLog ++ [record]) (taskId : Int) :
    taskLog s' taskId =
      if record.taskId = taskId then taskLog s taskId ++ [record] else taskLog s taskId := by
  unfold taskLog
  rw [appended, List.filter_append]
  by_cases same : record.taskId = taskId
  · simp [same]
  · simp [same]

/-- One call keeps log and table in agreement under the condition. -/
theorem callStep_agrees (modules : MemoryModules ω) (s : MemoryState ω) (call : MemoryCall)
    (agrees : LogAgrees s) (follows : StorageGateFollows modules s call) :
    LogAgrees (callStep modules s call) := by
  unfold StorageGateFollows at follows
  unfold callStep at follows ⊢
  have outcome := perform_outcome modules s call
  generalize perform modules call s = out at follows outcome
  cases outcome with
  | stopped _ exc w made grown => exact agrees
  | wrote _ vectorId target records w operation asked made grown shift cleared => exact agrees
  | inserted title description dueAt goal priority row id after w made grown cleared initial
      unarchived insertion =>
    intro queried
    rw [TaskTable.find_insert insertion queried]
    by_cases same : queried = id
    · rw [if_pos same]
      have fresh := TaskTable.find_fresh insertion
      have empty := agrees id
      rw [fresh] at empty
      have log : taskLog s queried = [] := by rw [same]; exact empty
      change Reaches (taskLog s queried) row.state
      rw [log, initial]
      exact reaches_nil
    · rw [if_neg same]
      exact agrees queried
  | updated taskId changes row fields now w made grown found cleared =>
    intro queried
    have before := agrees queried
    dsimp only
    rw [TaskStore.find_writeFields]
    by_cases same : queried = taskId
    · rw [if_pos same]
      cases present : s.tasks.find queried with
      | none =>
        rw [present] at before
        exact before
      | some old =>
        rw [present] at before
        exact before
    · rw [if_neg same]
      exact before
  | recorded _ taskId newState row destination changedAtUtc exc w asked made grown requested found
      named allowed blocked =>
    exact absurd blocked (not_blocked_of_cleared
      (follows taskId newState row destination asked made requested found named grown allowed))
  | committed _ taskId newState row destination changedAtUtc now w asked made grown requested found
      named allowed cleared =>
    intro queried
    have before := agrees queried
    dsimp only
    rw [TaskStore.find_writeState, taskLog_append s _ ⟨taskId, row.state, destination, changedAtUtc⟩ rfl]
    by_cases same : queried = taskId
    · subst same
      rw [if_pos rfl, if_pos rfl, found]
      rw [found] at before
      exact reaches_append before
    · rw [if_neg same, if_neg fun h => same h.symm]
      exact before

/-- On every run whose calls meet the condition, log and table agree after each call. -/
theorem log_agrees_along (modules : MemoryModules ω) (env : ω) (before after : List MemoryCall)
    (follows : Along (callStep modules) (StorageGateFollows modules) (.initial env)
      (before ++ after)) :
    LogAgrees (run (callStep modules) (.initial env) before) := by
  refine run_invariant_along (callStep_agrees modules) (.initial env) ?_ before
    (along_append _ before after follows)
  intro taskId
  rfl

theorem log_agrees_local_activation :
    Along (callStep localModules) (StorageGateFollows localModules) (.initial 0)
        [.createTask "water plants" .null none .null 0, .activateTask 1] ∧
      LogAgrees (run (callStep localModules) (.initial 0)
        [.createTask "water plants" .null none .null 0, .activateTask 1]) := by
  have quiet : ∀ asked made : List Exchange, [] = [] ++ (asked ++ made) → made = [] := by simp
  have follows : Along (callStep localModules) (StorageGateFollows localModules) (.initial 0)
      [.createTask "water plants" .null none .null 0, .activateTask 1] := by
    refine ⟨?_, ?_, trivial⟩
    · intro taskId newState row destination asked made requested
      cases requested
    · intro taskId newState row destination asked made requested found named grown allowed
      exact ⟨rfl, quiet asked made grown⟩
  exact ⟨follows, log_agrees_along localModules 0 _ [] follows⟩

/-- An authority that approves creations and memory requests and denies every
other storage request. -/
def creationOnly : Transport Nat := fun request env =>
  let id := (Dict.get request "correlation_id").asText.getD ""
  let payload := (Dict.get request "payload").asDict.getD []
  if (Dict.get request "message_type").isText "MEMORY_VALIDATE" then
    (.ok (.dict (buildMemoryResult 0 id ⟨true, none, some "ACTIVE", false, true⟩)), env)
  else
    (.ok (.dict (buildStorageResult 0 id
      ⟨(Dict.get payload "operation").isText "WRITE_TASK", none, false, true⟩)), env)

def creationOnlyModules : MemoryModules Nat where
  store :=
    { py := asciiRuntime, host := countingHost, encryption := zeroKey
      storageBridge := some { endpoint := 0, authTransport := some creationOnly } }
  vectors := { py := asciiRuntime, host := countingHost }

/-- The memory authority approves the activation and the storage authority then
denies its execution: the log says `ACTIVE`, the row says `CREATED`. -/
theorem log_disagrees_after_denied_execution :
    ¬LogAgrees (run (callStep creationOnlyModules) (.initial 0)
      [.createTask "water plants" .null none .null 0, .activateTask 1]) := by
  intro agrees
  have row : ((run (callStep creationOnlyModules) (.initial 0)
      [.createTask "water plants" .null none .null 0, .activateTask 1]).tasks.find 1).map
        TaskRow.state = some .created := by decide +kernel
  have log : (taskLog (run (callStep creationOnlyModules) (.initial 0)
      [.createTask "water plants" .null none .null 0, .activateTask 1]) 1).getLast?.map
        TransitionRecord.toState = some .active := by decide +kernel
  have chain := agrees 1
  cases found : (run (callStep creationOnlyModules) (.initial 0)
      [.createTask "water plants" .null none .null 0, .activateTask 1]).tasks.find 1 with
  | none =>
    rw [found] at row
    cases row
  | some r =>
    rw [found] at row chain
    have ends := chain.ends
    rw [log, Option.getD_some] at ends
    rw [Option.map_some, ← ends] at row
    cases row

end Apcos.Guarantees.TransitionLog
