import Apcos.Source.Bridge.Supervised
import Apcos.Source.Memory.Calls

/-!
# The store under the Rust policies

Runs of a task store whose storage and memory bridges are answered by the
supervisor (os/src/secure_storage.rs:86-162, os/src/runtime/memory_authority.rs:79-144).
The memory policy looks at the operation, not at the pair of states; what keeps
an archived row archived is the storage policy, asked with the operation name
the destination is given.
-/
namespace Apcos.Guarantees.SupervisedStore

open Apcos.Lib
open Apcos.Source.Python (Value Exc asciiRuntime)
open Apcos.Source.Bridge
open Apcos.Source.Memory
open Apcos.Source.Supervisor

variable {ω : Type}

/-- Both authorities are answered by a supervisor; any energy mode, execution
type, key and lifecycle manager. -/
structure Supervised (store : TaskStore ω) : Prop where
  storage : ∃ (bridge : RustBridge ω) (supervisor : Supervisor ω),
    store.storageBridge = some bridge ∧ bridge.storageRoute = some supervisor.transport
  memory : ∃ (bridge : RustBridge ω) (supervisor : Supervisor ω),
    store.memoryBridge = some bridge ∧ bridge.memoryRoute = some supervisor.transport

/-! ## The policies on what the store sends -/

/-- The storage policy denies `UPDATE_TASK` on an archived row, whatever the
energy mode, execution type and key. -/
theorem update_denied_when_archived (store : TaskStore ω) :
    (storageAuthority (store.storageRequest "UPDATE_TASK" TaskState.archived.value).payload).allowed =
      false := by
  have operation : parseStorageOperation "UPDATE_TASK" = some .updateTask := by decide
  have archived : isArchivedState TaskState.archived.value = true := by decide
  unfold storageAuthority
  simp only [StorageRequest.payload, TaskStore.storageRequest, operation]
  cases parseEnergyMode store.storageEnergyMode with
  | none => rfl
  | some mode =>
    cases parseExecutionType store.storageExecutionType with
    | none => rfl
    | some execution =>
      simp only [authorizeStorage, determineStoragePolicy, archived]
      split
      · rfl
      · rfl

theorem storage_permit_live {store : TaskStore ω} (supervised : Supervised store) {state : TaskState}
    {made : List Exchange}
    (cleared : StorageCleared store.storageBridge store.enforceStorageAuthority
      (store.storageRequest "UPDATE_TASK" state.value) made) : state ≠ .archived := by
  intro archived
  obtain ⟨bridge, supervisor, present, route⟩ := supervised.storage
  rw [present] at cleared
  obtain ⟨e, -, permit⟩ := cleared
  have allowed := storagePermit_allowed supervisor route permit
  rw [archived, update_denied_when_archived] at allowed
  cases allowed

/-- The memory operation each pair of states is sent as. -/
def memoryOperation (source : TaskState) : TaskState → MemoryOperation
  | .active => .promoteToActive
  | .completed => .demoteToDormant
  | .archived => if source = .archived then .finalizeArchive else .archiveItem
  | .created => .retentionTrigger

theorem parse_memoryOperation (source target : TaskState) :
    parseMemoryOperation (TaskStore.memoryOperationForTransition source target) =
      some (memoryOperation source target) := by
  cases source <;> cases target <;> decide

/-- The decision on the flags the store sends, over all states and modes. -/
theorem determine_target (source target : TaskState) (mode : EnergyMode) (flag : Bool)
    (allowed : (determineMemoryTransition source.value mode flag (memoryOperation source target)
      ⟨false, false, decide (target = .archived)⟩).allowed = true) :
    flag = true ∧ target ≠ .created ∧
      (determineMemoryTransition source.value mode flag (memoryOperation source target)
        ⟨false, false, decide (target = .archived)⟩).targetState = some target.value := by
  cases flag with
  | false => cases allowed
  | true =>
    revert allowed
    cases source <;> cases target <;> cases mode <;> decide

/-- The flags TaskStore sends are fixed but for `retention_due`. -/
theorem memoryRequest_payload (store : TaskStore ω) (source target : TaskState) (operation : String)
    (flag : Bool) :
    (store.memoryRequest source target operation flag).payload =
      ⟨source.value, operation, store.memoryEnergyMode, flag,
        ⟨false, false, decide (target = .archived)⟩⟩ := rfl

theorem memoryAuthority_sent (store : TaskStore ω) (source target : TaskState) (flag : Bool) :
    memoryAuthority (store.memoryRequest source target
      (TaskStore.memoryOperationForTransition source target) flag).payload =
        match parseEnergyMode store.memoryEnergyMode with
        | none => .deny "UNKNOWN_ENERGY_MODE" none false false
        | some mode => determineMemoryTransition source.value mode flag
            (memoryOperation source target) ⟨false, false, decide (target = .archived)⟩ := by
  rw [memoryRequest_payload, memoryAuthority]
  cases parseEnergyMode store.memoryEnergyMode with
  | none => simp only [parse_memoryOperation]
  | some mode => simp only [parse_memoryOperation]

/-- What the memory policy approves names the destination, needs the storage
permission and is never `CREATED`. -/
theorem memory_decision_target (store : TaskStore ω) (source target : TaskState) (flag : Bool)
    (allowed : (memoryAuthority (store.memoryRequest source target
      (TaskStore.memoryOperationForTransition source target) flag).payload).allowed = true) :
    flag = true ∧ target ≠ .created ∧
      (memoryAuthority (store.memoryRequest source target
        (TaskStore.memoryOperationForTransition source target) flag).payload).targetState =
        some target.value := by
  rw [memoryAuthority_sent] at allowed ⊢
  cases parsed : parseEnergyMode store.memoryEnergyMode with
  | none =>
    rw [parsed] at allowed
    cases allowed
  | some mode =>
    rw [parsed] at allowed
    exact determine_target source target mode flag allowed

/-- A recorded transition of a supervised store went through one memory exchange,
an approval that names the destination, after a granted preflight. -/
theorem transition_decided {store : TaskStore ω} (supervised : Supervised store) {env : ω}
    {taskId : Int} {source target : TaskState} {asked : List Exchange}
    (cleared : store.TransitionCleared env taskId source target asked) :
    target ≠ .created ∧ ∃ bridge preflight e, store.memoryBridge = some bridge ∧
      asked = [preflight, e] ∧ StorageApproval preflight ∧ e.endpoint = bridge.endpoint ∧
      MemoryApproval e (some target.value) := by
  obtain ⟨bridge, supervisor, present, route⟩ := supervised.memory
  obtain ⟨storageBridge, -, storagePresent, -⟩ := supervised.storage
  unfold TaskStore.TransitionCleared at cleared
  rw [present] at cleared
  obtain ⟨flag, before, e, goal, shape, granted, permit⟩ := cleared
  obtain ⟨allowed, goalEq⟩ := memoryPermit_allowed supervisor route permit
  obtain ⟨flagged, live, targetEq⟩ := memory_decision_target store source target flag allowed
  have grant := granted flagged
  rw [storagePresent] at grant
  obtain ⟨preflight, single, storagePermit⟩ := grant
  obtain ⟨id, answered⟩ := permit.answered
  have named : goal = some target.value := goalEq.symm.trans targetEq
  refine ⟨live, bridge, preflight, e, present, by rw [shape, single]; rfl, storagePermit.approval,
    answered.endpoint, ?_⟩
  rw [← named]
  exact permit.approval

/-! ## Committed changes -/

/-- The call is a transition that returned, and took a row from one state to another. -/
def Commits (modules : MemoryModules ω) (s : MemoryState ω) (call : MemoryCall)
    (source target : TaskState) : Prop :=
  ∃ taskId newState, call.transition = some (taskId, newState) ∧
    (perform modules call s).1 = .ok () ∧
    (s.tasks.find taskId).map TaskRow.state = some source ∧
    ((callStep modules s call).tasks.find taskId).map TaskRow.state = some target

/-- No commit leaves `ARCHIVED` or returns to `CREATED`. -/
theorem commits_live {modules : MemoryModules ω} (supervised : Supervised modules.store)
    (s : MemoryState ω) (call : MemoryCall) (source target : TaskState)
    (commits : Commits modules s call source target) :
    target ≠ .created ∧ (source = .archived → target = .archived) := by
  obtain ⟨taskId, newState, requested, returned, before, after⟩ := commits
  obtain ⟨row, found, rfl⟩ := Option.map_eq_some_iff.mp before
  obtain ⟨row', found', rfl⟩ := Option.map_eq_some_iff.mp after
  unfold callStep at found'
  have outcome := perform_outcome modules s call
  generalize perform modules call s = out at outcome returned found'
  cases outcome with
  | stopped _ exc w made grown => cases returned
  | recorded _ taskId' newState' row'' destination changedAtUtc exc w asked made grown requested'
      found'' named allowed blocked => cases returned
  | inserted title description dueAt goal priority inserted id after w made grown cleared initial
      unarchived insertion => cases requested
  | updated taskId' changes row'' fields now w made grown found'' cleared => cases requested
  | wrote _ vectorId target records w operation asked made grown shift cleared =>
    rcases target with rfl | ⟨embedding, metadata, rfl⟩ <;> cases requested
  | committed _ taskId' newState' row'' destination changedAtUtc now w asked made grown requested'
      found'' named allowed cleared =>
    rw [requested] at requested'
    cases requested'
    rw [found] at found''
    cases found''
    dsimp only at found'
    rw [TaskStore.find_writeState, if_pos rfl, found] at found'
    cases found'
    refine ⟨(transition_decided supervised allowed).1, ?_⟩
    intro archived
    by_contra live
    have update : TaskStore.storageOperationForDestination destination = "UPDATE_TASK" :=
      if_neg live
    rw [update] at cleared
    exact storage_permit_live supervised cleared archived

/-- A row whose state differs after a call was moved by a commit of that call. -/
theorem change_commits (modules : MemoryModules ω) (s : MemoryState ω) (call : MemoryCall)
    (taskId : Int) (row row' : TaskRow) (found : s.tasks.find taskId = some row)
    (found' : (callStep modules s call).tasks.find taskId = some row')
    (moved : row'.state ≠ row.state) : Commits modules s call row.state row'.state := by
  have after := found'
  unfold callStep at after
  have outcome := perform_outcome modules s call
  generalize outEq : perform modules call s = out at outcome after
  cases outcome with
  | stopped _ exc w made grown =>
    rw [found] at after
    cases after
    exact absurd rfl moved
  | recorded _ taskId' newState' row'' destination changedAtUtc exc w asked made grown requested'
      found'' named allowed blocked =>
    rw [found] at after
    cases after
    exact absurd rfl moved
  | wrote _ vectorId target records w operation asked made grown shift cleared =>
    rw [found] at after
    cases after
    exact absurd rfl moved
  | inserted title description dueAt goal priority inserted id table w made grown cleared initial
      unarchived insertion =>
    dsimp only at after
    rw [TaskTable.find_insert insertion] at after
    by_cases same : taskId = id
    · rw [same, TaskTable.find_fresh insertion] at found
      cases found
    · rw [if_neg same, found] at after
      cases after
      exact absurd rfl moved
  | updated taskId' changes row'' fields now w made grown found'' cleared =>
    dsimp only at after
    rw [TaskStore.find_writeFields, found] at after
    by_cases same : taskId = taskId'
    · rw [if_pos same] at after
      cases after
      exact absurd rfl moved
    · rw [if_neg same] at after
      cases after
      exact absurd rfl moved
  | committed _ taskId' newState' row'' destination changedAtUtc now w asked made grown requested'
      found'' named allowed cleared =>
    dsimp only at after
    rw [TaskStore.find_writeState, found] at after
    by_cases same : taskId = taskId'
    · subst same
      exact ⟨taskId, newState', requested', by rw [outEq], by rw [found]; rfl,
        by rw [found']; rfl⟩
    · rw [if_neg same] at after
      cases after
      exact absurd rfl moved

/-- On every run of a supervised store, each committed change ends in a state
other than `CREATED` and leaves an archived row archived; nothing else moves a row. -/
theorem supervised_changes (modules : MemoryModules ω) (supervised : Supervised modules.store)
    (env : ω) (calls : List MemoryCall) (call : MemoryCall) :
    let s := run (callStep modules) (.initial env) calls
    (∀ source target, Commits modules s call source target →
        target ≠ .created ∧ (source = .archived → target = .archived)) ∧
      ∀ taskId row row', s.tasks.find taskId = some row →
        (callStep modules s call).tasks.find taskId = some row' → row'.state ≠ row.state →
        Commits modules s call row.state row'.state := by
  intro s
  exact ⟨fun source target => commits_live supervised s call source target,
    fun taskId row row' => change_commits modules s call taskId row row'⟩

/-- A world with an identifier counter and the supervisor's tracker. -/
structure Desk where
  counter : Nat
  tracker : CorrelationTracker

def deskHost : HostApi Desk where
  timestampMs desk := (0, desk)
  uuid4 desk := (Source.Python.padded 1 desk.counter, { desk with counter := desk.counter + 1 })
  datetimeNow desk := (⟨Source.Python.firstInstant, some Source.Python.utcOffset⟩, desk)

def deskSupervisor : Supervisor Desk where
  tracker :=
    { get := Desk.tracker
      set := fun tracker desk => { desk with tracker }
      get_set := fun _ _ => rfl
      set_get := fun _ => rfl
      set_set := fun _ _ _ => rfl }
  clock desk := (⟨0, Nat.two_pow_pos 128⟩, desk)

/-- A store with the default settings and one bridge to the supervisor. -/
def deskModules : MemoryModules Desk where
  store :=
    { py := asciiRuntime, host := deskHost, encryption := zeroKey
      storageBridge := some { endpoint := 0, authTransport := some deskSupervisor.transport } }
  vectors := { py := asciiRuntime, host := deskHost }

def desk : Desk := ⟨0, .new defaultMaxTrackedCorrelations⟩

theorem desk_supervised : Supervised deskModules.store :=
  ⟨⟨_, deskSupervisor, rfl, rfl⟩, ⟨_, deskSupervisor, rfl, rfl⟩⟩

/-- The memory authority lets a task jump from `CREATED` to `COMPLETED`, which
the legacy matrix does not have. -/
theorem supervised_outside_matrix :
    Supervised deskModules.store ∧ legacyAllowed .created .completed = false ∧
      Commits deskModules (run (callStep deskModules) (.initial desk)
        [.createTask "water plants" .null none .null 0]) (.completeTask 1) .created .completed := by
  refine ⟨desk_supervised, rfl, 1, TaskState.completed.value, rfl, ?_⟩
  decide +kernel

theorem supervised_changes_desk :
    Commits deskModules (run (callStep deskModules) (.initial desk)
        [.createTask "water plants" .null none .null 0]) (.archiveTask 1) .created .archived ∧
      TaskState.archived ≠ .created ∧
      (TaskState.created = .archived → TaskState.archived = .archived) := by
  have commits : Commits deskModules (run (callStep deskModules) (.initial desk)
      [.createTask "water plants" .null none .null 0]) (.archiveTask 1) .created .archived :=
    ⟨1, TaskState.archived.value, rfl, by decide +kernel⟩
  exact ⟨commits, (supervised_changes deskModules desk_supervised desk _ (.archiveTask 1)).1
    .created .archived commits⟩

/-! ## Archived rows -/

/-- State and all columns a user sets are the same. -/
structure Frozen (row row' : TaskRow) : Prop where
  state : row'.state = row.state
  title : row'.titleEnc = row.titleEnc
  description : row'.descriptionEnc = row.descriptionEnc
  goal : row'.goalEnc = row.goalEnc
  dueAt : row'.dueAt = row.dueAt
  priority : row'.priority = row.priority

theorem Frozen.refl (row : TaskRow) : Frozen row row := ⟨rfl, rfl, rfl, rfl, rfl, rfl⟩

theorem Frozen.trans {a b c : TaskRow} (first : Frozen a b) (second : Frozen b c) : Frozen a c :=
  ⟨second.state.trans first.state, second.title.trans first.title,
    second.description.trans first.description, second.goal.trans first.goal,
    second.dueAt.trans first.dueAt, second.priority.trans first.priority⟩

/-- An archived row stays frozen under every call. -/
theorem callStep_frozen {modules : MemoryModules ω} (supervised : Supervised modules.store)
    (s : MemoryState ω) (call : MemoryCall) (taskId : Int) (row : TaskRow)
    (found : s.tasks.find taskId = some row) (archived : row.state = .archived) :
    ∃ row', (callStep modules s call).tasks.find taskId = some row' ∧ Frozen row row' := by
  unfold callStep
  have outcome := perform_outcome modules s call
  generalize perform modules call s = out at outcome
  cases outcome with
  | stopped _ exc w made grown => exact ⟨row, found, .refl row⟩
  | recorded _ taskId' newState' row'' destination changedAtUtc exc w asked made grown requested'
      found'' named allowed blocked => exact ⟨row, found, .refl row⟩
  | wrote _ vectorId target records w operation asked made grown shift cleared =>
    exact ⟨row, found, .refl row⟩
  | inserted title description dueAt goal priority inserted id table w made grown cleared initial
      unarchived insertion =>
    have different : taskId ≠ id := by
      intro same
      rw [same, TaskTable.find_fresh insertion] at found
      cases found
    refine ⟨row, ?_, .refl row⟩
    dsimp only
    rw [TaskTable.find_insert insertion, if_neg different]
    exact found
  | updated taskId' changes row'' fields now w made grown found'' cleared =>
    have different : taskId ≠ taskId' := by
      intro same
      rw [← same, found] at found''
      cases found''
      exact storage_permit_live supervised cleared archived
    refine ⟨row, ?_, .refl row⟩
    dsimp only
    rw [TaskStore.find_writeFields, if_neg different]
    exact found
  | committed _ taskId' newState' row'' destination changedAtUtc now w asked made grown requested'
      found'' named allowed cleared =>
    dsimp only
    rw [TaskStore.find_writeState, found]
    by_cases same : taskId = taskId'
    · rw [← same, found] at found''
      cases found''
      have kept : destination = .archived := by
        by_contra live
        have update : TaskStore.storageOperationForDestination destination = "UPDATE_TASK" :=
          if_neg live
        rw [update] at cleared
        exact storage_permit_live supervised cleared archived
      rw [if_pos same]
      exact ⟨_, rfl, ⟨kept.trans archived.symm, rfl, rfl, rfl, rfl, rfl⟩⟩
    · rw [if_neg same]
      exact ⟨row, rfl, .refl row⟩

/-- The task still has this archived row, but for its timestamps. -/
def Keeps (taskId : Int) (row : TaskRow) (s : MemoryState ω) : Prop :=
  ∃ row', s.tasks.find taskId = some row' ∧ Frozen row row'

theorem run_keeps {modules : MemoryModules ω} (supervised : Supervised modules.store)
    (s : MemoryState ω) (calls : List MemoryCall) (taskId : Int) (row : TaskRow)
    (found : s.tasks.find taskId = some row) (archived : row.state = .archived) :
    Keeps taskId row (run (callStep modules) s calls) := by
  have start : Keeps taskId row s := ⟨row, found, .refl row⟩
  refine run_invariant ?_ s start calls
  rintro s call ⟨row', found', frozen⟩
  obtain ⟨row'', found'', step⟩ := callStep_frozen supervised s call taskId row' found'
    (frozen.state.trans archived)
  exact ⟨row'', found'', frozen.trans step⟩

/-- The row was written with the target state of the memory decision: one
exchange of the call is that decision, and no other names a state. -/
def WritesDecision (modules : MemoryModules ω) (s : MemoryState ω) (call : MemoryCall)
    (taskId : Int) : Prop :=
  ∃ made row' bridge, (callStep modules s call).wire.exchanges = s.wire.exchanges ++ made ∧
    (callStep modules s call).tasks.find taskId = some row' ∧
    modules.store.memoryBridge = some bridge ∧
    (∃ e ∈ made, e.endpoint = bridge.endpoint ∧ MemoryApproval e (some row'.state.value)) ∧
    ∀ e ∈ made, ∀ target, MemoryApproval e target → target = some row'.state.value

/-- A transition that returns has written what the memory authority decided. -/
theorem transition_writes_decision {modules : MemoryModules ω}
    (supervised : Supervised modules.store) (s : MemoryState ω) (call : MemoryCall) (taskId : Int)
    (newState : String) (requested : call.transition = some (taskId, newState))
    (returned : (perform modules call s).1 = .ok ()) : WritesDecision modules s call taskId := by
  unfold WritesDecision callStep
  have outcome := perform_outcome modules s call
  generalize perform modules call s = out at outcome returned
  cases outcome with
  | stopped _ exc w made grown => cases returned
  | recorded _ taskId' newState' row destination changedAtUtc exc w asked made grown requested'
      found named allowed blocked => cases returned
  | inserted title description dueAt goal priority inserted id after w made grown cleared initial
      unarchived insertion => cases requested
  | updated taskId' changes row fields now w made grown found cleared => cases requested
  | wrote _ vectorId target records w operation asked made grown shift cleared =>
    rcases target with rfl | ⟨embedding, metadata, rfl⟩ <;> cases requested
  | committed _ taskId' newState' row destination changedAtUtc now w asked made grown requested'
      found named allowed cleared =>
    rw [requested] at requested'
    cases requested'
    obtain ⟨-, bridge, preflight, e, present, shape, storage, endpoint, memory⟩ :=
      transition_decided supervised allowed
    obtain ⟨storageBridge, -, storagePresent, -⟩ := supervised.storage
    rw [storagePresent] at cleared
    obtain ⟨execution, single, permit⟩ := cleared
    refine ⟨asked ++ made, TaskStore.setState destination now
      (TaskStore.archivedAtFor destination now row.archivedAt) row, bridge, grown, ?_, present,
      ⟨e, by simp [shape], endpoint, memory⟩, ?_⟩
    · dsimp only
      rw [TaskStore.find_writeState, if_pos rfl, found]
      rfl
    · intro e' member target approval
      rw [shape, single] at member
      simp only [List.cons_append, List.nil_append, List.mem_cons, List.not_mem_nil,
        or_false] at member
      rcases member with rfl | rfl | rfl
      · exact absurd approval (storage.not_memory target)
      · exact approval.target_unique memory
      · exact absurd approval (permit.approval.not_memory target)

/-- Archived tasks are terminal and immutable under the supervisor's policies,
and a committed transition writes the target state of the memory decision. -/
theorem archived_rows_immutable (modules : MemoryModules ω) (supervised : Supervised modules.store)
    (env : ω) :
    (∀ before after taskId row,
        (run (callStep modules) (.initial env) before).tasks.find taskId = some row →
        row.state = .archived →
        Keeps taskId row (run (callStep modules) (.initial env) (before ++ after))) ∧
      ∀ calls call taskId newState, call.transition = some (taskId, newState) →
        (perform modules call (run (callStep modules) (.initial env) calls)).1 = .ok () →
        WritesDecision modules (run (callStep modules) (.initial env) calls) call taskId := by
  refine ⟨?_, ?_⟩
  · intro before after taskId row found archived
    rw [run_append]
    exact run_keeps supervised _ after taskId row found archived
  · intro calls call taskId newState requested returned
    exact transition_writes_decision supervised _ call taskId newState requested returned

theorem archived_rows_immutable_desk :
    Supervised deskModules.store ∧
      WritesDecision deskModules (run (callStep deskModules) (.initial desk)
        [.createTask "water plants" .null none .null 0]) (.archiveTask 1) 1 :=
  ⟨desk_supervised, (archived_rows_immutable deskModules desk_supervised desk).2
    [.createTask "water plants" .null none .null 0] (.archiveTask 1) 1 _ rfl (by decide +kernel)⟩

end Apcos.Guarantees.SupervisedStore
