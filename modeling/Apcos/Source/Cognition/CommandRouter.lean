import Apcos.Source.Cognition.ChallengeLogic
import Apcos.Source.Memory.TaskStore

/-!
# Command router

core/cognition/command_router.py:60-586 with the default registry. An intent is
any value; a mapping has string keys. The threshold and the gate switch read
from the settings file are parameters. The logger swallows its own errors and
is not modeled.
-/
namespace Apcos.Source.Cognition

open Apcos.Lib
open Apcos.Source.Python (Value Dict Exc PyFloat Runtime DateTime strip blank)
open Apcos.Source.Memory

inductive CommandStatus where
  | executed | rejected | challengeRequired
  deriving DecidableEq, Repr

inductive Action where
  | unknown | createTask | completeTask | cancelTask
  deriving DecidableEq, Repr

def Action.value : Action → String
  | .unknown => "UNKNOWN"
  | .createTask => "CREATE_TASK"
  | .completeTask => "COMPLETE_TASK"
  | .cancelTask => "CANCEL_TASK"

inductive ErrorCode where
  | invalidIntentShape | lowConfidence | unsupportedIntent | invalidEntity | invalidTransition
  | internalError | accessDenied
  deriving DecidableEq, Repr

inductive MessageKey where
  | commandRejected | challengeRequired | commandExecuted
  deriving DecidableEq, Repr

structure CommandResult where
  status : CommandStatus
  action : Action
  auditId : String
  messageKey : MessageKey
  metadata : Dict
  errorCode : Option ErrorCode
  challengePayload : Option ChallengePayload

structure ActionExecution where
  actionType : Action
  lifecycleBefore : Option String
  lifecycleAfter : Option String
  metadata : Dict

structure AuditEvent where
  auditId : String
  intentId : Value
  timestamp : String
  intentTimestamp : String
  identityTier : String
  actionType : Action
  lifecycleBefore : Option String
  lifecycleAfter : Option String
  successFlag : Bool
  entities : Dict

/-- The dict `_validate_and_normalize_intent` returns. -/
structure NormalizedIntent where
  intentId : String
  intentType : String
  entities : Dict
  timestamp : String
  confidenceScore : PyFloat

structure RouterState (ω : Type) where
  memory : MemoryState ω
  challenge : ChallengeState
  auditEvents : List AuditEvent

def RouterState.memoryLens (ω : Type) : Lens (RouterState ω) (MemoryState ω) where
  get s := s.memory
  set memory s := { s with memory }
  get_set _ _ := rfl
  set_get _ := rfl
  set_set _ _ _ := rfl

def RouterState.challengeLens (ω : Type) : Lens (RouterState ω) ChallengeState where
  get s := s.challenge
  set challenge s := { s with challenge }
  get_set _ _ := rfl
  set_get _ := rfl
  set_set _ _ _ := rfl

structure ActionDefinition (ω : Type) where
  actionType : Action
  handler : Dict → Comp Exc (RouterState ω) ActionExecution
  validator : Dict → Except Exc Unit
  challengeable : Bool

structure CommandRouter (ω : Type) where
  taskStore : TaskStore ω
  challengeLogic : ChallengeLogic
  minConfidence : PyFloat
  enableChallengeGate : Bool

/-- The double nearest to 0.65, the threshold without a settings file. -/
def defaultMinConfidence : PyFloat := .finite (5854679515581645 / 9007199254740992)

def requiredIntentKeys : List String := ["intent_type", "entities", "timestamp", "confidence_score"]

/-! ## Validation -/

def normalizeIntentType (py : Runtime) (v : Value) : Except Exc String :=
  match v with
  | .str s =>
    if blank s then .error ⟨.valueError, "intent_type must be a non-empty string"⟩
    else .ok (py.lower (strip s))
  | _ => .error ⟨.valueError, "intent_type must be a non-empty string"⟩

/-- The `datetime` a timestamp stands for. -/
def timestampDate (py : Runtime) (v : Value) : Except Exc DateTime :=
  match v with
  | .datetime d => .ok d
  | .str s =>
    match py.fromisoformat (Python.replaceChar 'Z' "+00:00" s) with
    | some d => .ok d
    | none => .error ⟨.valueError, "Invalid isoformat string: " ++ py.repr (.str s)⟩
  | _ => .error ⟨.valueError, "timestamp must be ISO string or datetime"⟩

def normalizeTimestamp (py : Runtime) (v : Value) : Except Exc String := do
  let date ← timestampDate py v
  match date.toUtc with
  | some utc => return utc.isoformat
  | none => throw ⟨.overflowError, "date value out of range"⟩

def checkTitle (entities : Dict) : Except Exc Unit :=
  match Dict.getD entities "task" (Dict.get entities "title") with
  | .str title =>
    if blank title then .error ⟨.valueError, "create_task requires non-empty task/title"⟩
    else .ok ()
  | _ => .error ⟨.valueError, "create_task requires non-empty task/title"⟩

def checkDueAt (py : Runtime) (entities : Dict) : Except Exc Unit :=
  match Dict.get entities "due_at" with
  | .null => .ok ()
  | .str dueAt =>
    if blank dueAt then .error ⟨.valueError, "due_at must be an ISO string when supplied"⟩
    else (normalizeTimestamp py (.str dueAt)).map fun _ => ()
  | _ => .error ⟨.valueError, "due_at must be an ISO string when supplied"⟩

def checkPriority (entities : Dict) : Except Exc Unit :=
  let priority := Dict.get entities "priority"
  if !priority.isNull && priority.asInt.isNone then
    .error ⟨.valueError, "priority must be integer"⟩
  else .ok ()

def validateCreateTaskEntities (py : Runtime) (entities : Dict) : Except Exc Unit := do
  checkTitle entities
  checkDueAt py entities
  checkPriority entities

/-- `isinstance(value, (float, int))`. -/
def isNumeric : Value → Bool
  | .float _ => true
  | .int _ => true
  | .bool _ => true
  | _ => false

/-- A number in `[0.0, 1.0]`; a NaN passes both comparisons. -/
def unitInterval (py : Runtime) (field : String) (v : Value) : Except Exc PyFloat :=
  if !isNumeric v then throw ⟨.valueError, field ++ " must be numeric"⟩
  else do
    let number ← Python.float py v
    if number.lt (.finite 0) || (PyFloat.finite 1).lt number then
      throw ⟨.valueError, field ++ " must be in [0.0, 1.0]"⟩
    else return number

/-- What the first checks of `_validate_and_normalize_intent` extract. -/
structure IntentShape where
  intentType : String
  entities : Dict
  confidenceScore : PyFloat

def validateShape (py : Runtime) (fields : Dict) : Except Exc IntentShape :=
  let missing := requiredIntentKeys.filter fun key => (fields.lookup key).isNone
  if !missing.isEmpty then
    .error ⟨.valueError, "Missing required intent fields: [" ++
      ", ".intercalate (missing.map fun key => "'" ++ key ++ "'") ++ "]"⟩
  else do
    let intentType ← normalizeIntentType py (Dict.get fields "intent_type")
    match Dict.get fields "entities" with
    | .dict entities =>
      let confidenceScore ← unitInterval py "confidence_score" (Dict.get fields "confidence_score")
      return { intentType, entities, confidenceScore }
    | _ => throw ⟨.valueError, "entities must be a mapping"⟩

def checkReference (entities : Dict) : Except Exc Unit :=
  let taskId := Dict.get entities "task_id"
  if taskId.isNull then
    match Dict.get entities "task" with
    | .str name =>
      if blank name then .error ⟨.valueError, "task_id or task is required"⟩ else .ok ()
    | _ => .error ⟨.valueError, "task_id or task is required"⟩
  else
    match taskId.asInt with
    | some id =>
      if id ≤ 0 then .error ⟨.valueError, "task_id must be a positive integer"⟩ else .ok ()
    | none => .error ⟨.valueError, "task_id must be a positive integer"⟩

def checkAlignment (py : Runtime) (entities : Dict) : Except Exc Unit :=
  let alignment := Dict.get entities "alignment_score"
  if alignment.isNull then .ok ()
  else (unitInterval py "alignment_score" alignment).map fun _ => ()

def validateTaskReferenceEntities (py : Runtime) (entities : Dict) : Except Exc Unit := do
  checkReference entities
  checkAlignment py entities

def safeEntitiesForAudit (v : Value) : Dict :=
  match v with
  | .dict entities =>
    if (Dict.getD entities "sensitive" (.bool false)).truthy then
      [("sensitive", .bool true),
        ("entity_keys", .list (((entities.map Prod.fst).mergeSort (· ≤ ·)).map .str))]
    else entities
  | _ => []

namespace CommandRouter

variable {ω α : Type}

def py (router : CommandRouter ω) : Runtime := router.taskStore.py

def onMemory (m : Comp Exc (MemoryState ω) α) : Comp Exc (RouterState ω) α :=
  Comp.zoom (RouterState.memoryLens ω) m

def uuid4 (router : CommandRouter ω) : Comp Exc (RouterState ω) String :=
  onMemory (onWorld router.taskStore.host.uuid4)

def utcNowIso (router : CommandRouter ω) : Comp Exc (RouterState ω) String :=
  onMemory router.taskStore.utcNowIso

/-- The default of `intent_object.get("intent_id", uuid4())` is drawn in any case. -/
def validateAndNormalizeIntent (router : CommandRouter ω) (intentObject : Value) :
    Comp Exc (RouterState ω) NormalizedIntent :=
  match intentObject with
  | .dict fields => do
    let shape ← Comp.ofExcept (validateShape router.py fields)
    let drawn ← router.uuid4
    let intentId ← Comp.ofExcept (Python.str router.py (Dict.getD fields "intent_id" (.str drawn)))
    let timestamp ← Comp.ofExcept (normalizeTimestamp router.py (Dict.get fields "timestamp"))
    return { intentId, intentType := shape.intentType, entities := shape.entities, timestamp,
             confidenceScore := shape.confidenceScore }
  | _ => Comp.raise ⟨.valueError, "Intent must be a mapping"⟩

/-- Catches `ValueError` only. -/
def safeTimestamp (router : CommandRouter ω) (v : Value) : Comp Exc (RouterState ω) String :=
  Comp.handle (Comp.ofExcept (normalizeTimestamp router.py v)) fun exc =>
    if exc.isValueError then router.utcNowIso else Comp.raise exc

def emitAuditEvent (router : CommandRouter ω) (auditId : String) (intentId : Value)
    (intentTimestamp : String) (actionType : Action) (lifecycleBefore lifecycleAfter : Option String)
    (successFlag : Bool) (entities : Dict) : Comp Exc (RouterState ω) Unit := do
  let timestamp ← router.utcNowIso
  Comp.modify fun s =>
    { s with auditEvents := s.auditEvents ++
        [{ auditId, intentId, timestamp, intentTimestamp, identityTier := "TIER_UNKNOWN",
           actionType, lifecycleBefore, lifecycleAfter, successFlag, entities }] }

/-! ## Handlers -/

/-- The validator admits `None` and strings; nothing else reaches the statement. -/
def dueAtArgument : Value → Except Exc (Option String)
  | .null => .ok none
  | .str s => .ok (some s)
  | _ => .error ⟨.sqliteError, "Error binding parameter 4: type is not supported"⟩

/-- An attribute read on the record an operation returned. -/
def present (record : Option TaskRecord) : Except Exc TaskRecord :=
  match record with
  | some record => .ok record
  | none => .error ⟨.attributeError, "'NoneType' object has no attribute 'state'"⟩

def handleCreateTask (router : CommandRouter ω) (entities : Dict) :
    Comp Exc (RouterState ω) ActionExecution := do
  let priority ← Comp.ofExcept (Python.int router.py (Dict.getD entities "priority" (.int 0)))
  match Dict.getD entities "task" (Dict.get entities "title") with
  | .str title => do
    let dueAt ← Comp.ofExcept (dueAtArgument (Dict.get entities "due_at"))
    let created ← onMemory (router.taskStore.createTask title (Dict.get entities "description") dueAt
      (Dict.get entities "goal") priority)
    let record ← Comp.ofExcept (present created)
    if record.state ≠ .created then
      Comp.raise ⟨.invalidStateTransitionError, "New task must begin in CREATED state"⟩
    else return ⟨.createTask, none, some record.state.value, [("task_id", .int record.taskId)]⟩
  | _ => Comp.raise ⟨.attributeError, "object has no attribute 'strip'"⟩

/-- The rows whose decrypted title is the name, both lower-cased. -/
def titled (py : Runtime) (name : String) (tasks : List TaskRecord) : List TaskRecord :=
  tasks.filter fun task => py.lower task.title == name

/-- `_resolve_task_reference` on a table. -/
def resolve (store : TaskStore ω) (tasks : TaskTable) (entities : Dict) :
    Except Exc TaskRecord :=
  let taskId := Dict.get entities "task_id"
  match taskId.asInt with
  | some id => do
    match ← store.recordOf tasks id with
    | none => throw ⟨.keyError, "task_id " ++ store.py.repr taskId ++ " not found"⟩
    | some task => return task
  | none => do
    let name ← Python.str store.py (Dict.getD entities "task" (.str ""))
    let taskName := store.py.lower (strip name)
    if taskName = "" then throw ⟨.valueError, "Task reference not provided"⟩
    else do
      let all ← tasks.rows.reverse.mapM store.rowToRecord
      match titled store.py taskName all with
      | [] => throw ⟨.keyError, "Task not found"⟩
      | [task] => return task
      | _ => throw ⟨.valueError, "Ambiguous task reference"⟩

def resolveTaskReference (router : CommandRouter ω) (entities : Dict) :
    Comp Exc (RouterState ω) TaskRecord :=
  fun s => (resolve router.taskStore s.memory.tasks entities, s)

/-- Shared body of the two transition handlers: a task already in the final
state is reported as executed without a transition. -/
def handleTransition (router : CommandRouter ω) (actionType : Action) (final : TaskState)
    (transition : Int → Comp Exc (MemoryState ω) (Option TaskRecord)) (entities : Dict) :
    Comp Exc (RouterState ω) ActionExecution := do
  let task ← router.resolveTaskReference entities
  let before := task.state.value
  if task.state = final then
    return ⟨actionType, some before, some before,
      [("task_id", .int task.taskId), ("idempotent", .bool true)]⟩
  else do
    let returned ← onMemory (transition task.taskId)
    let updated ← Comp.ofExcept (present returned)
    return ⟨actionType, some before, some updated.state.value, [("task_id", .int task.taskId)]⟩

def handleCompleteTask (router : CommandRouter ω) (entities : Dict) :
    Comp Exc (RouterState ω) ActionExecution :=
  router.handleTransition .completeTask .completed router.taskStore.completeTask entities

def handleCancelTask (router : CommandRouter ω) (entities : Dict) :
    Comp Exc (RouterState ω) ActionExecution :=
  router.handleTransition .cancelTask .archived router.taskStore.archiveTask entities

def createDefinition (router : CommandRouter ω) : ActionDefinition ω :=
  ⟨.createTask, router.handleCreateTask, validateCreateTaskEntities router.py, false⟩

def completeDefinition (router : CommandRouter ω) : ActionDefinition ω :=
  ⟨.completeTask, router.handleCompleteTask, validateTaskReferenceEntities router.py, true⟩

def cancelDefinition (router : CommandRouter ω) : ActionDefinition ω :=
  ⟨.cancelTask, router.handleCancelTask, validateTaskReferenceEntities router.py, true⟩

/-- `_register_default_handlers`. -/
def registry (router : CommandRouter ω) : List (String × ActionDefinition ω) :=
  [("create_task", router.createDefinition), ("schedule_task", router.createDefinition),
    ("complete_task", router.completeDefinition), ("mark_completed", router.completeDefinition),
    ("cancel_task", router.cancelDefinition), ("archive_task", router.cancelDefinition)]

/-! ## Routing -/

/-- The lookup failures of the reference are swallowed; what the score and the
goal raise is not. -/
def evaluateResolved (router : CommandRouter ω) (intent : NormalizedIntent)
    (definition : ActionDefinition ω) :
    Except Exc TaskRecord → Comp Exc (RouterState ω) (Option ChallengePayload)
  | .error exc => if exc.isKeyError || exc.isValueError then return none else Comp.raise exc
  | .ok task => do
    let alignmentScore ← Comp.ofExcept (Python.float router.py
      (Dict.getD intent.entities "alignment_score" (.float (.finite 1))))
    let declaredGoal ← Comp.ofExcept (Python.str router.py
      (Dict.getD intent.entities "declared_goal" (.str (task.goal.getD ""))))
    router.challengeLogic.evaluate router.py (RouterState.challengeLens ω) router.utcNowIso
      task.taskId (router.py.lower definition.actionType.value) declaredGoal alignmentScore
      (Dict.getD intent.entities "user_overrode" (.bool false)).truthy

def evaluateChallenge (router : CommandRouter ω) (intent : NormalizedIntent)
    (definition : ActionDefinition ω) : Comp Exc (RouterState ω) (Option ChallengePayload) := do
  if !router.enableChallengeGate || !definition.challengeable then return none
  else do
    let resolved ← Comp.attempt (router.resolveTaskReference intent.entities)
    router.evaluateResolved intent definition resolved

/-- A rejection of a validated intent and its audit event. -/
def reject (router : CommandRouter ω) (auditId : String) (intent : NormalizedIntent)
    (action : Action) (errorCode : ErrorCode) (metadata : Dict) :
    Comp Exc (RouterState ω) CommandResult := do
  router.emitAuditEvent auditId (.str intent.intentId) intent.timestamp action none none false
    (safeEntitiesForAudit (.dict intent.entities))
  return ⟨.rejected, action, auditId, .commandRejected, metadata, some errorCode, none⟩

/-- The invalid-shape exit reads the raw intent again. -/
def rejectShape (router : CommandRouter ω) (auditId : String) (intentObject : Value) :
    Comp Exc (RouterState ω) CommandResult :=
  match intentObject with
  | .dict fields => do
    let intentTimestamp ← router.safeTimestamp (Dict.get fields "timestamp")
    router.emitAuditEvent auditId (Dict.getD fields "intent_id" (.str "unknown")) intentTimestamp
      .unknown none none false (safeEntitiesForAudit (Dict.get fields "entities"))
    return ⟨.rejected, .unknown, auditId, .commandRejected, [], some .invalidIntentShape, none⟩
  | _ => Comp.raise ⟨.attributeError, "object has no attribute 'get'"⟩

def errorCodeOf (exc : Exc) : ErrorCode :=
  if exc.isInvalidStateTransition then .invalidTransition
  else if exc.isKeyError || exc.isTypeError || exc.isValueError then .invalidEntity
  else .internalError

def execute (router : CommandRouter ω) (auditId : String) (intent : NormalizedIntent)
    (definition : ActionDefinition ω) : Comp Exc (RouterState ω) CommandResult :=
  Comp.handle
    (do
      let execution ← definition.handler intent.entities
      router.emitAuditEvent auditId (.str intent.intentId) intent.timestamp execution.actionType
        execution.lifecycleBefore execution.lifecycleAfter true
        (safeEntitiesForAudit (.dict intent.entities))
      return ⟨.executed, execution.actionType, auditId, .commandExecuted, execution.metadata, none,
        none⟩)
    fun exc => router.reject auditId intent definition.actionType (errorCodeOf exc) []

/-- The part of `route` after the registry lookup. -/
def runDefinition (router : CommandRouter ω) (auditId : String) (intent : NormalizedIntent)
    (definition : ActionDefinition ω) : Comp Exc (RouterState ω) CommandResult :=
  match definition.validator intent.entities with
  | .error exc =>
    if exc.isValueError then router.reject auditId intent definition.actionType .invalidEntity []
    else Comp.raise exc
  | .ok _ => do
    match ← router.evaluateChallenge intent definition with
    | some payload => do
      router.emitAuditEvent auditId (.str intent.intentId) intent.timestamp definition.actionType
        none none false (safeEntitiesForAudit (.dict intent.entities))
      return ⟨.challengeRequired, definition.actionType, auditId, .challengeRequired, [], none,
        some payload⟩
    | none => router.execute auditId intent definition

/-- The part of `route` after the validation of the intent. -/
def routeIntent (router : CommandRouter ω) (auditId : String) (intent : NormalizedIntent) :
    Comp Exc (RouterState ω) CommandResult :=
  if intent.confidenceScore.lt router.minConfidence then
    router.reject auditId intent .unknown .lowConfidence
      [("min_confidence", .float router.minConfidence)]
  else
    match router.registry.lookup intent.intentType with
    | none =>
      router.reject auditId intent .unknown .unsupportedIntent
        [("intent_type", .str intent.intentType)]
    | some definition => router.runDefinition auditId intent definition

def route (router : CommandRouter ω) (intentObject : Value) :
    Comp Exc (RouterState ω) CommandResult := do
  let auditId ← router.uuid4
  match ← Comp.attempt (router.validateAndNormalizeIntent intentObject) with
  | .error exc =>
    if exc.isValueError then router.rejectShape auditId intentObject else Comp.raise exc
  | .ok intent => router.routeIntent auditId intent

end CommandRouter

end Apcos.Source.Cognition
