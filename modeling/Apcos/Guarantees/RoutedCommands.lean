import Apcos.Guarantees.AssistantBoard
import Apcos.Guarantees.RoutableCommands

/-!
# What the router answers to a command

core/cognition/command_router.py:98-296, 455-532 on the intents of
core/cognition/intent_parser.py, for a store of the application. The answer, and the table
it leaves, are those of the board that the table shows.
-/
namespace Apcos.Guarantees.RoutedCommands

open Apcos.Lib
open Apcos.Source
open Apcos.Source.Python
open Apcos.Source.Memory
open Apcos.Source.Cognition
open Apcos.Guarantees.AssistantBoard
open Apcos.Guarantees.RoutableCommands
open Apcos.Guarantees.RoutedIntents
open Apcos.Guarantees.TaskNames

variable {ω : Type}

/-- A router of the application: a local store under the legacy matrix, and a challenge
threshold that an intent without an alignment score meets. -/
structure LocalRouter (router : CommandRouter ω) : Prop extends Unbridged router.taskStore where
  allowLegacyFallback : router.taskStore.lifecycle.allowLegacyFallback = true
  storageOptional : router.taskStore.enforceStorageAuthority = false
  memoryOptional : router.taskStore.enforceMemoryAuthority = false
  lenient : router.challengeLogic.challengeThreshold.le (.finite 1) = true

/-! ## The board of a table -/

def itemOf (store : TaskStore ω) (row : TaskRow) : Item :=
  ⟨row.id, (store.encryption.decrypt row.titleEnc).toOption.getD "", row.dueAt, row.state⟩

def boardOf (store : TaskStore ω) (tasks : TaskTable) : Board :=
  ⟨tasks.rows.map (itemOf store), tasks.sequence⟩

theorem itemOf_title {store : TaskStore ω} {row : TaskRow} {record : TaskRecord}
    (read : store.rowToRecord row = .ok record) : (itemOf store row).title = record.title := by
  obtain ⟨title, -⟩ := store.rowToRecord_fields row record read
  rw [itemOf, title]
  rfl

theorem itemOf_setState (store : TaskStore ω) (destination : TaskState) (now : String)
    (archivedAt : Option String) (row : TaskRow) :
    itemOf store (TaskStore.setState destination now archivedAt row) =
      { itemOf store row with state := destination } := rfl

theorem boardOf_writeState (store : TaskStore ω) (tasks : TaskTable) (id : Int)
    (destination : TaskState) (now : String) (archivedAt : Option String) :
    boardOf store (TaskStore.writeState tasks id destination now archivedAt) =
      (boardOf store tasks).setState id destination := by
  simp only [boardOf, TaskStore.writeState, TaskTable.update, Board.setState, List.map_map,
    Board.mk.injEq, and_true]
  apply List.map_congr_left
  intro row _
  have ids : (itemOf store row).id = row.id := rfl
  simp only [Function.comp_apply, ids]
  split
  · exact itemOf_setState store destination now archivedAt row
  · rfl

/-- On a legible table the tasks of a name are the rows that bear it. -/
theorem named_boardOf {store : TaskStore ω} {tasks : TaskTable} (legible : Legible store tasks)
    {name : String} (stripped : strip name = name) :
    (boardOf store tasks).named store.py.lower name =
      (tasks.rows.filter (bearsName store name)).map (itemOf store) := by
  rw [Board.named, boardOf, List.filter_map]
  congr 1
  apply List.filter_congr
  intro row member
  obtain ⟨-, record, read, trimmed, -⟩ := legible row member
  obtain ⟨title, -⟩ := store.rowToRecord_fields row record read
  simp [itemOf_title read, bearsName, title, sameTitle, trimmed, stripped]

/-- A reference by name. -/
def byName (name : String) : Dict := [("task", .str name)]

/-- A name that tasks may have. -/
structure Name (py : Runtime) (name : String) : Prop where
  stripped : strip name = name
  visible : name ≠ ""
  lowered : py.lower name ≠ ""

section
variable {store : TaskStore ω} {tasks : TaskTable} (legible : Legible store tasks) {name : String}
  (proper : Name store.py name)
include legible proper

theorem resolve_records : ∃ records, List.Forall₂ (fun row record =>
      store.rowToRecord row = .ok record ∧ strip record.title = record.title)
      (tasks.rows.reverse.filter (bearsName store name)) records ∧
    CommandRouter.resolve store tasks (byName name) = match records with
      | [] => .error ⟨.keyError, "Task not found"⟩
      | [task] => .ok task
      | _ => .error ⟨.valueError, "Ambiguous task reference"⟩ :=
  resolve_by_name legible ⟨rfl, rfl⟩ (by rw [proper.stripped]; exact proper.lowered)

/-- A name that one task of the board has resolves to the row of that task. -/
theorem resolve_single {item : Item} (only : (boardOf store tasks).named store.py.lower name = [item]) :
    ∃ row task, row ∈ tasks.rows ∧ itemOf store row = item ∧ store.rowToRecord row = .ok task ∧
      CommandRouter.resolve store tasks (byName name) = .ok task := by
  obtain ⟨records, related, resolved⟩ := resolve_records legible proper
  rw [named_boardOf legible proper.stripped, List.map_eq_singleton_iff] at only
  obtain ⟨row, single, shown⟩ := only
  have member : row ∈ tasks.rows := List.mem_of_mem_filter (by rw [single]; simp)
  rw [List.filter_reverse, single] at related
  cases related with
  | cons here rest =>
    cases rest
    exact ⟨row, _, member, shown, here.1, resolved⟩

/-- Any other name is answered as a failed lookup. -/
theorem resolve_none
    (other : ∀ item, (boardOf store tasks).named store.py.lower name ≠ [item]) :
    ∃ exc, CommandRouter.resolve store tasks (byName name) = .error exc ∧
      lookupFailure exc = true ∧ CommandRouter.errorCodeOf exc = .invalidEntity := by
  obtain ⟨records, related, resolved⟩ := resolve_records legible proper
  have lengths := related.length_eq
  rw [List.filter_reverse, List.length_reverse] at lengths
  have several : records.length ≠ 1 := by
    intro one
    rw [one, List.length_eq_one_iff] at lengths
    obtain ⟨row, single⟩ := lengths
    exact other (itemOf store row) (by
      rw [named_boardOf legible proper.stripped, single, List.map_singleton])
  match records, several with
  | [], _ => exact ⟨_, resolved, rfl, rfl⟩
  | [_], absurdity => exact absurd rfl absurdity
  | _ :: _ :: _, _ => exact ⟨_, resolved, rfl, rfl⟩

end

/-! ## Transitions of a local store -/

/-- The matrix alone decides on a transition. -/
theorem assertTransition_local {router : CommandRouter ω} (isLocal : LocalRouter router)
    (taskId : Int) (source target : TaskState) (s : MemoryState ω) :
    router.taskStore.assertTransition taskId source target s =
      if legacyAllowed source target then
        router.taskStore.appendTransitionRecord taskId source target s
      else (.error ⟨.invalidStateTransitionError, "Invalid transition for task " ++
        toString taskId ++ ": " ++ source.value ++ " -> " ++ target.value ++
          reasonSuffix (some "LEGACY_INVALID_TRANSITION")⟩, s) := by
  have decided : Comp.zoom (MemoryState.wireLens ω) (Comp.zoom (Bridge.Wire.envLens ω)
      (router.taskStore.lifecycle.authorizeTransition taskId source target)) s =
        (.ok ⟨legacyAllowed source target,
          if legacyAllowed source target then none else some "LEGACY_INVALID_TRANSITION"⟩, s) := by
    simp only [LifecycleManager.authorizeTransition, isLocal.transitionAuthorizer,
      isLocal.allowLegacyFallback, if_true]
    rfl
  rw [TaskStore.assertTransition, Comp.bind_of_ok decided]
  cases legacyAllowed source target <;> rfl

/-- What a transition of a stored task does. -/
theorem transitionTask_local {router : CommandRouter ω} (isLocal : LocalRouter router)
    {s : MemoryState ω} {row : TaskRow} {task : TaskRecord}
    (bound : bindInteger row.id = .ok row.id) (found : s.tasks.find row.id = some row)
    (decrypted : router.taskStore.rowToRecord row = .ok task) (final : TaskState) :
    (legacyAllowed row.state final = true → ∃ record now t,
      router.taskStore.transitionTask row.id final.value s = (.ok (some record), t) ∧
        t.tasks = TaskStore.writeState s.tasks row.id final now
          (TaskStore.archivedAtFor final now row.archivedAt)) ∧
    (legacyAllowed row.state final = false → ∃ message t,
      router.taskStore.transitionTask row.id final.value s =
        (.error ⟨.invalidStateTransitionError, message⟩, t) ∧ t.tasks = s.tasks) := by
  obtain ⟨title, description, goal, shape⟩ := router.taskStore.rowToRecord_fields row task decrypted
  have opened : router.taskStore.getTask row.id s = (.ok (some task), s) := by
    rw [TaskStore.getTask, TaskStore.recordOf_of_find bound found decrypted]
  have known : normalizeState router.taskStore.py final.value = .ok final := by
    simp only [normalizeState, ofValue_value]
  have state : task.state = row.state := by rw [shape]
  have archived : task.archivedAt = row.archivedAt := by rw [shape]
  have unbridged : router.taskStore.memoryBridge = none := by
    simp [TaskStore.memoryBridge, isLocal.memoryBridgeArgument, isLocal.storageBridge]
  let clock := router.taskStore.host.datetimeNow
  let now := (clock s.wire.env).1.isoformat
  let read : MemoryState ω := { s with wire := ⟨(clock s.wire.env).2, s.wire.exchanges⟩ }
  let archivedAt := TaskStore.archivedAtFor final now row.archivedAt
  have gated : router.taskStore.transitionTask row.id final.value s =
      ((do
        router.taskStore.assertTransition row.id row.state final
        TaskStore.transitionTaskRow row.id final now archivedAt) >>= fun _ =>
          router.taskStore.getTask row.id : Comp Exc (MemoryState ω) (Option TaskRecord)) read := by
    rw [TaskStore.transitionTask, Comp.bind_of_ok opened]
    simp only [known, Comp.ofExcept_ok_bind]
    rw [Comp.bind_of_ok (router.taskStore.utcNowIso_eq s)]
    simp only [TaskStore.validateMemoryAndMaybeTransition, unbridged, isLocal.memoryOptional,
      StoredTasks.storageGate_open ⟨isLocal.storageBridge, isLocal.memoryBridgeArgument⟩
        isLocal.storageOptional, state, archived]
    rfl
  rw [gated, Comp.bind_assoc]
  constructor
  · intro allowed
    have asserted := assertTransition_local isLocal row.id row.state final read
    rw [if_pos allowed, router.taskStore.appendTransitionRecord_eq] at asserted
    have written := TaskStore.transitionTaskRow_eq bound final now archivedAt
      (TaskStore.withRecord read ⟨(clock read.wire.env).2, read.wire.exchanges⟩
        ⟨row.id, row.state, final, (clock read.wire.env).1⟩)
    have present := TaskStore.find_writeState s.tasks row.id final now archivedAt row.id
    rw [if_pos rfl, found, Option.map_some] at present
    have readable := router.taskStore.rowToRecord_of (TaskStore.setState final now archivedAt row)
      task.title task.description task.goal title description goal
    rw [Comp.bind_of_ok asserted, Comp.bind_of_ok written, TaskStore.getTask]
    exact ⟨_, now, _, Prod.ext (TaskStore.recordOf_of_find bound present readable) rfl, rfl⟩
  · intro refused
    have asserted := assertTransition_local isLocal row.id row.state final read
    rw [refused] at asserted
    exact ⟨_, read, Comp.bind_of_error asserted, rfl⟩

/-! ## Handlers -/

/-- A task id that prints. -/
def NamesRow (metadata : Dict) : Prop :=
  ∃ id, Dict.get metadata "task_id" = .int id ∧ bindInteger id = .ok id

/-- The handler does what the board does. -/
def Handled (router : CommandRouter ω) (actionType : Action) (s : RouterState ω)
    (ran : Except Exc ActionExecution × RouterState ω) : Except ErrorCode Board → Prop
  | .error code => ∃ exc t, ran = (.error exc, t) ∧ CommandRouter.errorCodeOf exc = code ∧
      t.memory.tasks = s.memory.tasks
  | .ok board => ∃ execution t, ran = (.ok execution, t) ∧ execution.actionType = actionType ∧
      NamesRow execution.metadata ∧ boardOf router.taskStore t.memory.tasks = board

/-- Both handlers of a task that is named. -/
theorem handleTransition_handled {router : CommandRouter ω} (isLocal : LocalRouter router)
    {s : RouterState ω} (legible : Legible router.taskStore s.memory.tasks) {name : String}
    (proper : Name router.py name) (actionType : Action) (final : TaskState) :
    Handled router actionType s (router.handleTransition actionType final
      (fun taskId => router.taskStore.transitionTask taskId final.value) (byName name) s)
      ((boardOf router.taskStore s.memory.tasks).move router.py.lower name final) := by
  unfold Board.move CommandRouter.handleTransition
  split
  next item only =>
    obtain ⟨row, task, member, shown, decrypted, resolved⟩ := resolve_single legible proper only
    have read : router.resolveTaskReference (byName name) s = (.ok task, s) := by
      rw [CommandRouter.resolveTaskReference, resolved]
    obtain ⟨-, -, -, shape⟩ := router.taskStore.rowToRecord_fields row task decrypted
    have id : task.taskId = row.id := by rw [shape]
    have state : task.state = row.state := by rw [shape]
    have itemId : item.id = row.id := by rw [← shown]; rfl
    have itemState : item.state = row.state := by rw [← shown]; rfl
    have bound := (legible row member).bound
    rw [Comp.bind_of_ok read]
    simp only [id, state, itemId, itemState]
    by_cases already : row.state = final
    · rw [if_pos already, if_pos already]
      exact ⟨_, s, rfl, rfl, ⟨row.id, rfl, bound⟩, rfl⟩
    · rw [if_neg already, if_neg already]
      obtain ⟨moves, refuses⟩ := transitionTask_local isLocal bound (TaskTable.find_of_mem member)
        decrypted final
      cases allowed : legacyAllowed row.state final with
      | true =>
        obtain ⟨record, now, m, ran, written⟩ := moves allowed
        have zoomed : CommandRouter.onMemory (router.taskStore.transitionTask row.id final.value) s =
            (.ok (some record), { s with memory := m }) := Comp.zoom_of_eq ran
        rw [Comp.bind_of_ok zoomed, if_pos rfl]
        refine ⟨_, _, rfl, rfl, ⟨row.id, rfl, bound⟩, ?_⟩
        rw [written, boardOf_writeState]
      | false =>
        obtain ⟨message, m, ran, same⟩ := refuses allowed
        have zoomed : CommandRouter.onMemory (router.taskStore.transitionTask row.id final.value) s =
            (.error ⟨.invalidStateTransitionError, message⟩, { s with memory := m }) :=
          Comp.zoom_of_eq ran
        rw [Comp.bind_of_error zoomed, if_neg (by simp)]
        exact ⟨_, _, rfl, rfl, same⟩
  next other =>
    obtain ⟨exc, resolved, -, code⟩ := resolve_none legible proper other
    have read : router.resolveTaskReference (byName name) s = (.error exc, s) := by
      rw [CommandRouter.resolveTaskReference, resolved]
    rw [Comp.bind_of_error read]
    exact ⟨exc, s, rfl, code, rfl⟩

theorem boardOf_insert {store : TaskStore ω} {tasks after : TaskTable} {row : TaskRow} {id : Int}
    (insertion : tasks.insert row = some (id, after)) :
    boardOf store after = ⟨tasks.rows.map (itemOf store) ++ [itemOf store { row with id }],
      tasks.sequence + 1⟩ := by
  obtain ⟨-, rows, sequence⟩ := TaskTable.insert_eq insertion
  rw [boardOf, rows, sequence, List.map_append, List.map_singleton]

/-- A create handler schedules on the board that the table shows. -/
theorem handleCreateTask_handled {router : CommandRouter ω} (isLocal : LocalRouter router)
    {title : String} (dueAt : String) (proper : Name router.py title) (s : RouterState ω) :
    Handled router .createTask s (router.handleCreateTask (scheduleEntities title dueAt) s)
      ((boardOf router.taskStore s.memory.tasks).schedule title dueAt) := by
  -- The threshold is no part of a creation.
  have default : DefaultRouter { router with minConfidence := defaultMinConfidence } :=
    ⟨isLocal.toUnbridged, isLocal.storageOptional, rfl⟩
  have visible : strip title ≠ "" := by
    rw [proper.stripped]
    exact proper.visible
  have bridgeless : StoredTasks.Bridgeless router.taskStore :=
    ⟨isLocal.storageBridge, isLocal.memoryBridgeArgument⟩
  have created := StoredTasks.createTask_created bridgeless title .null .null (some dueAt) 0 s.memory
  rw [handleCreateTask_scheduled, Board.schedule]
  by_cases free : s.memory.tasks.sequence < maxRowId
  · have shown : (boardOf router.taskStore s.memory.tasks).issued < maxRowId := free
    rw [if_pos shown]
    obtain ⟨record, m, ran⟩ := (createTask_plain default visible (some dueAt) s.memory).1 free
    have zoomed : CommandRouter.onMemory
        (router.taskStore.createTask title .null (some dueAt) .null 0) s =
          (.ok (some record), { s with memory := m }) := Comp.zoom_of_eq ran
    rw [show router.taskStore.createTask title .null (some dueAt) .null 0 s.memory =
      (.ok (some record), m) from ran] at created
    generalize outcome : (Except.ok (some record) : Except Exc (Option TaskRecord)) = r at created
    cases created with
    | refused exc w reason => cases outcome
    | stored descriptionEnc goalEnc timestamp id after w _ _ _ _ _ insertion =>
      obtain ⟨bound, row, found, decrypted⟩ := TaskStore.recordOf_some outcome.symm
      rw [TaskTable.find_insert insertion, if_pos rfl, Option.some_inj] at found
      subst found
      obtain ⟨-, -, -, shape⟩ := router.taskStore.rowToRecord_fields _ record decrypted
      have state : record.state = .created := by
        rw [shape]
        rfl
      have named : record.taskId = id := by rw [shape]
      rw [Comp.bind_of_ok zoomed]
      simp only [CommandRouter.present, Comp.ofExcept_ok_bind, state, ne_eq, not_true_eq_false,
        if_false, named]
      refine ⟨_, _, rfl, rfl, ⟨id, rfl, bound⟩, ?_⟩
      obtain ⟨issued, -, -⟩ := TaskTable.insert_eq insertion
      dsimp only
      rw [boardOf_insert insertion, issued]
      simp only [itemOf, StoredTasks.createdRow, EncryptionLayer.decrypt_encrypt, proper.stripped]
      rfl
  · have shown : ¬(boardOf router.taskStore s.memory.tasks).issued < maxRowId := free
    rw [if_neg shown]
    obtain ⟨message, m, ran⟩ := (createTask_plain default visible (some dueAt) s.memory).2 free
    have zoomed : CommandRouter.onMemory
        (router.taskStore.createTask title .null (some dueAt) .null 0) s =
          (.error ⟨.sqliteError, message⟩, { s with memory := m }) := Comp.zoom_of_eq ran
    rw [show router.taskStore.createTask title .null (some dueAt) .null 0 s.memory =
      (.error ⟨.sqliteError, message⟩, m) from ran] at created
    generalize outcome : (Except.error _ : Except Exc (Option TaskRecord)) = r at created
    cases created with
    | refused exc w reason => exact ⟨_, _, Comp.bind_of_error zoomed, rfl, rfl⟩
    | stored _ _ _ _ _ _ _ _ _ _ _ insertion =>
      exact absurd (StoredTasks.insert_room insertion) free

/-! ## The challenge -/

/-- Without a score an intent counts as aligned. -/
theorem evaluateChallenge_unscored {router : CommandRouter ω} (isLocal : LocalRouter router)
    {intent : NormalizedIntent} (definition : ActionDefinition ω) (s : RouterState ω)
    (unscored : Dict.getD intent.entities "alignment_score" (.float (.finite 1)) =
      .float (.finite 1))
    (undeclared : intent.entities.lookup "declared_goal" = none)
    (findable : ∀ exc, CommandRouter.resolve router.taskStore s.memory.tasks intent.entities =
      .error exc → lookupFailure exc = true) :
    router.evaluateChallenge intent definition s = (.ok none, s) := by
  by_cases off : router.enableChallengeGate = false ∨ definition.challengeable = false
  · exact RouterAudit.evaluateChallenge_skipped router intent definition s off
  · simp only [not_or, Bool.not_eq_false] at off
    rw [evaluateChallenge_open off.1 off.2]
    cases resolved : CommandRouter.resolve router.taskStore s.memory.tasks intent.entities with
    | error exc =>
      have failed : (exc.isKeyError || exc.isValueError) = true := findable exc resolved
      simp only [CommandRouter.evaluateResolved, failed, if_true]
      rfl
    | ok task =>
      have goal : Dict.getD intent.entities "declared_goal" (.str (task.goal.getD "")) =
          .str (task.goal.getD "") := by rw [Dict.getD, undeclared, Option.getD_none]
      have score : Python.float router.py (.float (.finite 1)) = .ok (.finite 1) := rfl
      have printed : Python.str router.py (.str (task.goal.getD "")) =
          .ok (task.goal.getD "") := rfl
      have read : (Comp.zoom (RouterState.challengeLens ω) Comp.get :
          Comp Exc (RouterState ω) ChallengeState) s = (.ok s.challenge, s) := rfl
      simp only [CommandRouter.evaluateResolved, unscored, goal, score, printed,
        Comp.ofExcept_ok_bind, ChallengeLogic.evaluate]
      rw [Comp.bind_of_ok read]
      split_ifs with _ _ _ low
      · rfl
      · rfl
      · rfl
      · rfl
      · exact absurd isLocal.lenient low

/-! ## Intents -/

/-- The dict that the parser makes of a command. -/
inductive Reads (py : Runtime) (current : DateTime) : Dict → Command → Prop
  | schedule (title : String) (due : DateTime) (proper : Name py title) (utc : due.toUtc ≠ none) :
      Reads py current (intentDict "schedule_task" (scheduleEntities title due.isoformat) current
        confidence93) (.schedule title due.isoformat)
  | complete (name : String) (proper : Name py name) :
      Reads py current (intentDict "mark_completed" (byName name) current confidence96)
        (.complete name)
  | cancel (name : String) (proper : Name py name) :
      Reads py current (intentDict "cancel_task" (byName name) current confidence91)
        (.cancel (some name))
  | cancelNothing :
      Reads py current (intentDict "cancel_task" [] current confidence91) (.cancel none)
  | unrecognised (entities : Dict) (confidence : Rat) :
      Reads py current (intentDict "unknown" entities current confidence) .unrecognised

def confidenceOf : Command → Rat
  | .schedule _ _ => confidence93
  | .complete _ => confidence96
  | .cancel _ => confidence91
  | .unrecognised => 0

def actionOf : Command → Action
  | .schedule _ _ => .createTask
  | .complete _ => .completeTask
  | .cancel _ => .cancelTask
  | .unrecognised => .unknown

/-- The command is read with too little confidence for the router. -/
def doubted (router : CommandRouter ω) (command : Command) : Bool :=
  (PyFloat.finite (confidenceOf command)).lt router.minConfidence

/-- The result tells what the board does, and the table shows it. -/
def Answered (router : CommandRouter ω) (actionType : Action) (s s' : RouterState ω)
    (result : CommandResult) : Except ErrorCode Board → Prop
  | .error code => result.status = .rejected ∧ result.errorCode = some code ∧
      s'.memory.tasks = s.memory.tasks
  | .ok board => result.status = .executed ∧ result.errorCode = none ∧
      result.action = actionType ∧ NamesRow result.metadata ∧
      boardOf router.taskStore s'.memory.tasks = board

/-- An accepted intent of a registered type that passes its checks is answered as its handler
does. -/
theorem route_handled {router : CommandRouter ω} {fields entities : Dict} {intentType : String}
    {confidence : PyFloat} (definition : ActionDefinition ω) {outcome : Except ErrorCode Board}
    {s : RouterState ω} (accepted : RouterAudit.Accepted router.py fields entities intentType confidence)
    (registered : router.registry.lookup intentType = some definition)
    (valid : definition.validator entities = .ok ())
    (unchallenged : ∀ (intent : NormalizedIntent) (u : RouterState ω), intent.entities = entities →
      u.memory.tasks = s.memory.tasks → router.evaluateChallenge intent definition u = (.ok none, u))
    (handled : ∀ u : RouterState ω, u.memory.tasks = s.memory.tasks →
      Handled router definition.actionType u (definition.handler entities u) outcome) :
    ∃ result s', router.route (.dict fields) s = (.ok result, s') ∧
      Answered router definition.actionType s s' result
        (if confidence.lt router.minConfidence then .error .lowConfidence else outcome) := by
  obtain ⟨auditId, intent, u, routed, quiet, sameEntities, sameType, sameConfidence⟩ :=
    route_accepted accepted s
  rw [← sameType] at registered
  rw [← sameConfidence, routed]
  cases low : intent.confidenceScore.lt router.minConfidence with
  | true =>
    rw [CommandRouter.routeIntent, if_pos low, if_pos rfl]
    exact ⟨_, _, rfl, rfl, rfl, quiet.parts.1⟩
  | false =>
    rw [CommandRouter.routeIntent_registered low registered,
      CommandRouter.runDefinition_unchallenged (sameEntities ▸ valid)
        (unchallenged intent u sameEntities quiet.parts.1), if_neg Bool.false_ne_true]
    have step := handled u quiet.parts.1
    rw [← sameEntities] at step
    cases outcome with
    | error code =>
      obtain ⟨exc, t, ran, blamed, same⟩ := step
      rw [execute_raised router auditId ran, ← blamed]
      exact ⟨_, _, rfl, rfl, rfl, same.trans quiet.parts.1⟩
    | ok board =>
      obtain ⟨execution, t, ran, action, names, shown⟩ := step
      obtain ⟨event, result, s', executed, ⟨kept, -⟩, -, status, acted, metadata⟩ :=
        execute_returned router auditId ran
      have unblamed : result.errorCode = none := by
        unfold CommandRouter.execute Comp.handle at executed
        rw [Comp.bind_of_ok ran] at executed
        cases executed
        rfl
      refine ⟨result, s', executed, status, unblamed, acted.trans action, metadata ▸ names, ?_⟩
      rw [SameLedger.tasks kept, shown]

section
variable {router : CommandRouter ω} (isLocal : LocalRouter router) (reads : ReadsIso router.py)
  {current : DateTime} (utc : current.toUtc ≠ none) {s : RouterState ω}
  (legible : Legible router.taskStore s.memory.tasks)
include isLocal reads utc legible

/-- Both commands on a task that is named. -/
theorem route_named {intentType name : String} (named : intentType ∈ CommandReading.parsedTypes)
    (proper : Name router.py name) {confidence : Rat} (range : 0 ≤ confidence ∧ confidence ≤ 1)
    {actionType : Action} {final : TaskState}
    (registered : router.registry.lookup intentType =
      some (referenceDefinition router actionType final)) :
    ∃ result s', router.route (.dict (intentDict intentType (byName name) current confidence)) s =
        (.ok result, s') ∧
      Answered router actionType s s' result
        (if (PyFloat.finite confidence).lt router.minConfidence then .error .lowConfidence
        else (boardOf router.taskStore s.memory.tasks).move router.py.lower name final) := by
  have visible : blank name = false := by
    apply blank_of_strip
    rw [proper.stripped]
    exact proper.visible
  obtain ⟨-, -, valid, -⟩ := named_checked router s.memory.tasks visible
  refine route_handled (referenceDefinition router actionType final)
    (accepted_intentDict reads utc named (byName name) range.1 range.2) registered valid ?_ ?_
  · intro intent u entities tasks
    refine evaluateChallenge_unscored isLocal _ u (by rw [entities]; rfl) (by rw [entities]; rfl) ?_
    intro exc failed
    refine resolve_error (fun id number => ?_) failed
    rw [entities] at number
    cases number
  · intro u tasks
    have step := handleTransition_handled isLocal (tasks ▸ legible : Legible router.taskStore
      u.memory.tasks) proper actionType final
    rw [tasks] at step
    exact step

/-- The router answers to a command what the board does. -/
theorem route_reads {intent : Dict} {command : Command}
    (read : Reads router.py current intent command) (known : command ≠ .unrecognised) :
    ∃ result s', router.route (.dict intent) s = (.ok result, s') ∧
      Answered router (actionOf command) s s' result
        (if doubted router command then .error .lowConfidence
        else (boardOf router.taskStore s.memory.tasks).perform router.py.lower command) := by
  cases read with
  | schedule title due proper dueUtc =>
    have visible : blank title = false := by
      apply blank_of_strip
      rw [proper.stripped]
      exact proper.visible
    refine route_handled router.createDefinition
      (accepted_intentDict reads utc (by decide) _ (by decide +kernel) (by decide +kernel)) rfl
      (scheduleEntities_valid reads visible dueUtc) (fun intent u _ _ => ?_) fun u tasks => ?_
    · exact RouterAudit.evaluateChallenge_skipped router intent router.createDefinition u (Or.inr rfl)
    · have step := handleCreateTask_handled isLocal due.isoformat proper u
      rw [tasks] at step
      exact step
  | complete name proper =>
    exact route_named isLocal reads utc legible (by decide) proper
      ⟨by decide +kernel, by decide +kernel⟩ rfl
  | cancel name proper =>
    exact route_named isLocal reads utc legible (by decide) proper
      ⟨by decide +kernel, by decide +kernel⟩ rfl
  | cancelNothing =>
    have accepted := accepted_intentDict reads utc
      (by decide : "cancel_task" ∈ CommandReading.parsedTypes) []
      (by decide +kernel : 0 ≤ confidence91) (by decide +kernel)
    obtain ⟨auditId, normalized, u, routed, quiet, sameEntities, sameType, sameConfidence⟩ :=
      route_accepted accepted s
    have registered : router.registry.lookup normalized.intentType =
        some (referenceDefinition router .cancelTask .archived) := by
      rw [sameType]
      rfl
    rw [routed, doubted, confidenceOf, ← sameConfidence]
    cases low : normalized.confidenceScore.lt router.minConfidence with
    | true =>
      rw [CommandRouter.routeIntent, if_pos low, if_pos rfl]
      exact ⟨_, _, rfl, rfl, rfl, quiet.parts.1⟩
    | false =>
      rw [CommandRouter.routeIntent_registered low registered, if_neg Bool.false_ne_true]
      simp only [CommandRouter.runDefinition, sameEntities]
      exact ⟨_, _, rfl, rfl, rfl, quiet.parts.1⟩
  | unrecognised => exact absurd rfl known

end

end Apcos.Guarantees.RoutedCommands
