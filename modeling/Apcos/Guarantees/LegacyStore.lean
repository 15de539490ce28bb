import Apcos.Source.Memory.Calls

/-!
# The store under the legacy matrix

A task store without bridges and without an external authorizer
(task_store.py:103-236, lifecycle_manager.py:27-162). Rows are kept for ever in
creation order, and each task's states, read through the supervisor's three
lifecycle states, follow `LifecycleValidator::apply_transition`
(os/src/runtime/lifecycle.rs:36-103).
-/
namespace Apcos.Guarantees.LegacyStore

open Apcos.Lib
open Apcos.Source.Python (Value Exc)
open Apcos.Source.Bridge
open Apcos.Source.Memory
open Apcos.Source.Supervisor (LifecycleState applyTransition)

variable {ω : Type}

/-- No bridges and the legacy matrix; the enforce flags are arbitrary. -/
structure Legacy (store : TaskStore ω) : Prop where
  storageBridge : store.storageBridge = none
  memoryBridgeArgument : store.memoryBridgeArgument = none
  transitionAuthorizer : store.lifecycle.transitionAuthorizer = none
  allowLegacyFallback : store.lifecycle.allowLegacyFallback = true

/-- The supervisor's state of a task. -/
def canonical : TaskState → LifecycleState
  | .created | .active => .pending
  | .completed => .completed
  | .archived => .archived

def Accepted (source target : LifecycleState) : Prop := applyTransition source target = .ok target

theorem accepted_of_legacy (source target : TaskState) (allowed : legacyAllowed source target = true) :
    canonical source = canonical target ∨ Accepted (canonical source) (canonical target) := by
  unfold Accepted
  cases source <;> cases target <;>
    first
    | exact Or.inl rfl
    | exact Or.inr rfl
    | exact absurd allowed (by decide)

theorem legacy_decision {store : TaskStore ω} (legacy : Legacy store) {env : ω} {taskId : Int}
    {source target : TaskState} {asked : List Exchange}
    (cleared : store.TransitionCleared env taskId source target asked) :
    legacyAllowed source target = true := by
  have memory : store.memoryBridge = none := by
    simp [TaskStore.memoryBridge, legacy.memoryBridgeArgument, legacy.storageBridge]
  rw [TaskStore.TransitionCleared, memory] at cleared
  obtain ⟨-, -, decision, decided, allowed⟩ := cleared
  rw [LifecycleManager.authorizeTransition, legacy.transitionAuthorizer] at decided
  simp only [legacy.allowLegacyFallback, if_true] at decided
  cases decided
  exact allowed

/-- `archived_at` is set exactly in state `ARCHIVED`. -/
def ArchivedExactly (s : MemoryState ω) : Prop :=
  ∀ taskId row, s.tasks.find taskId = some row → (row.archivedAt ≠ none ↔ row.state = .archived)

/-- What never changes of a row, in creation order. -/
def birth (tasks : TaskTable) : List (Int × String) :=
  tasks.rows.map fun row => (row.id, row.createdAt)

/-- One step: rows stay, and each stays in its state or moves along the matrix. -/
structure Advances (s s' : MemoryState ω) : Prop where
  rows : birth s.tasks <+: birth s'.tasks
  moves : ∀ taskId row, s.tasks.find taskId = some row → ∃ row', s'.tasks.find taskId = some row' ∧
    (row'.state = row.state ∨ legacyAllowed row.state row'.state = true)

theorem birth_update (tasks : TaskTable) (taskId : Int) (set : TaskRow → TaskRow)
    (keepsId : ∀ row, (set row).id = row.id)
    (keepsBirth : ∀ row, (set row).createdAt = row.createdAt) :
    birth (tasks.update taskId set keepsId) = birth tasks := by
  simp only [birth, TaskTable.update, List.map_map]
  apply List.map_congr_left
  intro row _
  simp only [Function.comp_apply]
  split
  · rw [keepsId, keepsBirth]
  · rfl

theorem birth_writeFields (store : TaskStore ω) (tasks : TaskTable) (taskId : Int)
    (fields : TaskStore.TaskFields) (now : String) :
    birth (store.writeFields tasks taskId fields now) = birth tasks :=
  birth_update tasks taskId _ _ fun _ => rfl

theorem birth_writeState (tasks : TaskTable) (taskId : Int) (destination : TaskState) (now : String)
    (archivedAt : Option String) :
    birth (TaskStore.writeState tasks taskId destination now archivedAt) = birth tasks :=
  birth_update tasks taskId _ _ fun _ => rfl

/-- No call changes the id or the creation time of a row. -/
theorem callStep_birth (modules : MemoryModules ω) (s : MemoryState ω) (call : MemoryCall) :
    birth s.tasks <+: birth (callStep modules s call).tasks := by
  unfold callStep
  have outcome := perform_outcome modules s call
  generalize perform modules call s = out at outcome
  cases outcome with
  | stopped _ exc w made grown => exact List.prefix_refl _
  | wrote _ vectorId target records w operation asked made grown shift cleared =>
    exact List.prefix_refl _
  | recorded _ taskId newState row destination changedAtUtc exc w asked made grown requested found
      named allowed blocked => exact List.prefix_refl _
  | inserted title description dueAt goal priority row id after w made grown cleared initial
      unarchived insertion =>
    obtain ⟨-, rowsEq, -⟩ := TaskTable.insert_eq insertion
    refine ⟨[(id, row.createdAt)], ?_⟩
    simp [birth, rowsEq]
  | updated taskId changes row fields now w made grown found cleared =>
    dsimp only
    rw [birth_writeFields]
  | committed _ taskId newState row destination changedAtUtc now w asked made grown requested found
      named allowed cleared =>
    dsimp only
    rw [birth_writeState]

theorem callStep_advances (modules : MemoryModules ω) (legacy : Legacy modules.store)
    (s : MemoryState ω) (call : MemoryCall) : Advances s (callStep modules s call) := by
  refine ⟨callStep_birth modules s call, ?_⟩
  intro taskId row found
  obtain ⟨row', found', step⟩ := callStep_row modules s call found
  refine ⟨row', found', ?_⟩
  cases step with
  | kept state stamp => exact Or.inl state
  | moved newState destination now asked made requested named allowed cleared state stamp =>
    rw [state]
    exact Or.inr (legacy_decision legacy allowed)

theorem callStep_archived (modules : MemoryModules ω) (legacy : Legacy modules.store)
    (s : MemoryState ω) (call : MemoryCall) (exactly : ArchivedExactly s) :
    ArchivedExactly (callStep modules s call) := by
  refine rows_preserved ?_ ?_ s call exactly
  · intro s call taskId row row' _ before step
    cases step with
    | kept state stamp =>
      rw [state, stamp]
      exact before
    | moved newState destination now asked made requested named allowed cleared state stamp =>
      have open_row := (legacyAllowed_ends _ _ (legacy_decision legacy allowed)).2
      rw [state, stamp, TaskStore.archivedAtFor]
      by_cases archives : destination = .archived
      · simp [archives]
      · rw [if_neg archives]
        exact ⟨fun set => absurd (before.mp set) open_row, fun done => absurd done archives⟩
  · intro row initial unarchived
    simp [initial, unarchived]

/-- A task's states along a run, in the supervisor's terms, stuttering dropped. -/
def history (states : List (MemoryState ω)) (taskId : Int) : List LifecycleState :=
  (states.filterMap fun s => (s.tasks.find taskId).map fun row => canonical row.state).destutter
    (· ≠ ·)

/-- Store invariant and refinement of the supervisor's lifecycle, on every run. -/
theorem legacy_store_refines_lifecycle (modules : MemoryModules ω) (legacy : Legacy modules.store)
    (env : ω) (calls : List MemoryCall) :
    let states := trace (callStep modules) (.initial env) calls
    (states.IsChain fun s s' => birth s.tasks <+: birth s'.tasks) ∧
      (∀ s ∈ states, ((birth s.tasks).map Prod.fst).Pairwise (· < ·) ∧ ArchivedExactly s) ∧
      ∀ taskId, (history states taskId).IsChain Accepted := by
  intro states
  have start : ArchivedExactly (.initial env : MemoryState ω) := by
    intro taskId row found
    cases found
  have chain : states.IsChain Advances := isChain_trace (callStep_archived modules legacy)
    (fun s call _ => callStep_advances modules legacy s call) (.initial env) start calls
  refine ⟨chain.imp fun s s' step => step.rows, ?_, ?_⟩
  · intro s member
    refine ⟨?_, ?_⟩
    · rw [birth, List.map_map]
      exact List.pairwise_map.mpr s.tasks.increasing
    · exact forall_mem_trace (callStep_archived modules legacy) (.initial env) start calls s member
  · intro taskId
    apply isChain_destutter_of_stutter
    refine isChain_filterMap ?_ states chain
    intro s s' observed step seen
    obtain ⟨row, found, rfl⟩ := Option.map_eq_some_iff.mp seen
    obtain ⟨row', found', same | moved⟩ := step.moves taskId row found
    · refine ⟨canonical row'.state, by rw [found']; rfl, Or.inl ?_⟩
      rw [same]
    · refine ⟨canonical row'.state, by rw [found']; rfl, ?_⟩
      exact accepted_of_legacy row.state row'.state moved

theorem legacy_local_history :
    Legacy localModules.store ∧
      history (trace (callStep localModules) (.initial 0)
        [.createTask "water plants" .null none .null 0, .activateTask 1, .archiveTask 1]) 1 =
        [.pending, .archived] ∧
      (history (trace (callStep localModules) (.initial 0)
        [.createTask "water plants" .null none .null 0, .activateTask 1, .archiveTask 1]) 1).IsChain
        Accepted := by
  have legacy : Legacy localModules.store := ⟨rfl, rfl, rfl, rfl⟩
  refine ⟨legacy, by decide +kernel, ?_⟩
  exact (legacy_store_refines_lifecycle localModules legacy 0 _).2.2 1

end Apcos.Guarantees.LegacyStore
