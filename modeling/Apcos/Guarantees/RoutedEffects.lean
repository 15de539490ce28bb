import Apcos.Guarantees.RoutedIntents

/-!
# Routed intents over whole runs

core/cognition/command_router.py:98-296, 455-532 and the router, store and challenge calls
of a run. In every state reached, what is not executed leaves the store alone, what is
executed does one of three things that the audit event tells, and a complete or cancel
intent by id can be repeated.
-/
namespace Apcos.Guarantees.RoutedEffects

open Apcos.Lib
open Apcos.Source
open Apcos.Source.Python (Value Dict Exc)
open Apcos.Source.Memory
open Apcos.Source.Cognition
open Apcos.Guarantees.RouterAudit (Accepted validate_cases evaluateChallenge_skipped localRouter)
open Apcos.Guarantees.RoutedIntents

variable {ω : Type}

/-! ## The same intent again -/

theorem handleTransition_done {router : CommandRouter ω} (actionType : Action) {final : TaskState}
    (transition : Int → Comp Exc (MemoryState ω) (Option TaskRecord)) {entities : Dict}
    {s : RouterState ω} {task : TaskRecord}
    (resolved : CommandRouter.resolve router.taskStore s.memory.tasks entities = .ok task)
    (done : task.state = final) :
    ∃ execution, router.handleTransition actionType final transition entities s =
      (.ok execution, s) := by
  have read : router.resolveTaskReference entities s = (.ok task, s) := by
    rw [CommandRouter.resolveTaskReference, resolved]
  rw [CommandRouter.handleTransition, Comp.bind_of_ok read]
  simp only [done, if_true]
  exact ⟨_, rfl⟩

/-- A mapping that was accepted once is accepted again, whatever the state. -/
theorem validate_again {router : CommandRouter ω} {fields entities : Dict} {intentType : String}
    {confidence : Python.PyFloat}
    (accepted : Accepted router.py fields entities intentType confidence) (s : RouterState ω) :
    ∃ intent t, router.validateAndNormalizeIntent (.dict fields) s = (.ok intent, t) ∧
      Settled s t ∧ intent.entities = entities ∧ intent.intentType = intentType ∧
      intent.confidenceScore = confidence := by
  rcases validate_cases router fields s with
    ⟨intent, t, validated, -, -, again⟩ | ⟨_, _, _, _, _, unaccepted, _⟩ |
      ⟨_, _, _, _, outside | ⟨_, _, _, large⟩⟩
  · obtain ⟨sameEntities, sameType, sameConfidence⟩ := again.unique accepted
    have step := settled_validate router (.dict fields) s
    rw [validated] at step
    exact ⟨intent, t, validated, step, sameEntities, sameType, sameConfidence⟩
  · exact absurd accepted (unaccepted entities intentType confidence)
  · exact absurd accepted.inCalendar outside
  · exact absurd large (not_tooLarge_of_unitInterval accepted.scored)

/-- An executed reference by id is executed again and changes nothing. -/
theorem execution_again {router : CommandRouter ω} (unbridged : Unbridged router.taskStore)
    {fields : Dict} {s s' checked cleared handled : RouterState ω} {result : CommandResult}
    {intent : NormalizedIntent} {definition : ActionDefinition ω} {execution : ActionExecution}
    {event : AuditEvent} (grounded : Grounded router s)
    (steps : Execution router fields s s' result intent definition checked cleared handled
      execution event) (final : TaskState)
    (handles : definition.handler = router.handleTransition definition.actionType final
      fun taskId => router.taskStore.transitionTask taskId final.value)
    {id : Int} (number : (Dict.get intent.entities "task_id").asInt = some id) :
    ∃ again s'', router.route (.dict fields) s' = (.ok again, s'') ∧
      again.status = .executed ∧ SameLedger s' s'' := by
  have untouched := evaluateChallenge_none steps.unchallenged
  obtain ⟨tasks, -, -, -⟩ := steps.arrived.parts
  have ground : Grounded router checked := fun enforced => by rw [tasks, grounded enforced]
  have returned := steps.returned
  rw [untouched] at returned
  have outcome := handler_outcome unbridged steps.registered intent.entities checked ground
  rw [returned] at outcome
  rw [handles] at returned
  obtain ⟨task, task', resolved, resolvedAgain, sameId, sameGoal, done⟩ :=
    transitionHandler_settles unbridged ground number returned
  obtain ⟨kept, keptKeys, _⟩ := steps.finished
  -- The second call arrives in a state with the table and the keys of the first one's end.
  obtain ⟨auditId, t, uuid, drawn⟩ : ∃ auditId t, router.uuid4 s' = (.ok auditId, t) ∧
      Settled s' t := ⟨_, _, rfl, rfl⟩
  obtain ⟨second, u, validated, quiet, sameEntities, sameType, sameConfidence⟩ :=
    validate_again steps.accepted t
  have arrived : Settled s' u :=
    Eq.trans (show settled u = settled t from quiet) drawn
  obtain ⟨finalTasks, -, finalKeys, -⟩ := arrived.parts
  have table : u.memory.tasks = handled.memory.tasks := by
    rw [finalTasks]
    exact (Prod.mk.inj (show ledger s' = ledger handled from kept)).1
  have sameKeys : u.challenge = checked.challenge := by
    rw [finalKeys, keptKeys]
    cases outcome with
    | done _ _ challenge _ _ _ => exact challenge
  rw [← table, ← sameEntities] at resolvedAgain
  have unchallenged : router.evaluateChallenge second definition u = (.ok none, u) := by
    by_cases off : router.enableChallengeGate = false ∨ definition.challengeable = false
    · exact evaluateChallenge_skipped router second definition u off
    · simp only [not_or, Bool.not_eq_false] at off
      have first := steps.unchallenged
      rw [evaluateChallenge_open off.1 off.2, resolved] at first
      rw [evaluateChallenge_open off.1 off.2, resolvedAgain]
      exact (evaluateResolved_none first sameEntities sameId sameGoal).2 u sameKeys
  obtain ⟨repeated, ran⟩ := handleTransition_done definition.actionType
    (fun taskId => router.taskStore.transitionTask taskId final.value) resolvedAgain done
  rw [← handles] at ran
  obtain ⟨_, again, s'', executed, finished, _, status, _, _⟩ :=
    execute_returned router auditId ran
  refine ⟨again, s'', ?_, status, arrived.ledger.trans finished.1⟩
  have confident : second.confidenceScore.lt router.minConfidence = false := by
    rw [sameConfidence, steps.confident]
  have registered : router.registry.lookup second.intentType = some definition := by
    rw [sameType, steps.registered]
  have valid : definition.validator second.entities = .ok () := by
    rw [sameEntities, steps.valid]
  rw [CommandRouter.route_validated uuid validated,
    CommandRouter.routeIntent_registered confident registered,
    CommandRouter.runDefinition_unchallenged valid unchallenged]
  exact executed

/-! ## Every run -/

/-- The calls on a router, its store and its challenge logic. -/
inductive RouterCall where
  | route (intentObject : Value)
  | memory (call : MemoryCall)
  | recordResponse (taskId : Int) (proposedAction : String) (accepted : Bool)

/-- The state after a call, returned or raised. -/
def routerStep (router : CommandRouter ω) (vectors : VectorMemory ω) (s : RouterState ω) :
    RouterCall → RouterState ω
  | .route intentObject => (router.route intentObject s).2
  | .memory call => { s with memory := callStep ⟨router.taskStore, vectors⟩ s.memory call }
  | .recordResponse taskId proposedAction accepted =>
    { s with challenge :=
        ChallengeLogic.recordResponse router.py taskId proposedAction accepted s.challenge }

/-- A new router over a new store. -/
def newState (env : ω) : RouterState ω := ⟨.initial env, ⟨[], []⟩, []⟩

/-- With a closed storage gate no call brings a row. -/
theorem grounded_memory {router : CommandRouter ω} (unbridged : Unbridged router.taskStore)
    (vectors : VectorMemory ω) {s : RouterState ω} (call : MemoryCall)
    (grounded : Grounded router s) :
    Grounded router { s with memory := callStep ⟨router.taskStore, vectors⟩ s.memory call } := by
  intro enforced
  have outcome := perform_outcome ⟨router.taskStore, vectors⟩ s.memory call
  unfold callStep
  generalize perform ⟨router.taskStore, vectors⟩ call s.memory = out at outcome
  cases outcome with
  | stopped _ exc w made grown => exact grounded enforced
  | wrote _ vectorId target records w operation asked made grown shift cleared =>
    exact grounded enforced
  | recorded _ taskId newState row destination changedAtUtc exc w asked made grown requested found
      named allowed blocked => exact grounded enforced
  | inserted title description dueAt goal priority row id after w made grown cleared initial
      unarchived insertion =>
    rw [unbridged.ungated cleared] at enforced
    cases enforced
  | updated taskId changes row fields now w made grown found cleared =>
    rw [unbridged.ungated cleared] at enforced
    cases enforced
  | committed _ taskId newState row destination changedAtUtc now w asked made grown requested found
      named allowed cleared =>
    rw [unbridged.ungated cleared] at enforced
    cases enforced

theorem grounded_step {router : CommandRouter ω} (unbridged : Unbridged router.taskStore)
    (vectors : VectorMemory ω) (s : RouterState ω) (call : RouterCall)
    (grounded : Grounded router s) : Grounded router (routerStep router vectors s call) := by
  cases call with
  | route intentObject =>
    intro enforced
    have outcome := route_outcome unbridged intentObject grounded
    have kept : SameLedger s (router.route intentObject s).2 := by
      generalize router.route intentObject s = out at outcome
      cases outcome with
      | refused outcome s' same refused => exact same
      | executed fields result s' intent definition checked cleared handled execution event mapping
          steps => exact (steps.effect unbridged grounded).2.2 enforced
    have tasks := (Prod.mk.inj (show ledger (router.route intentObject s).2 = ledger s from kept)).1
    rw [routerStep, tasks, grounded enforced]
  | memory call => exact grounded_memory unbridged vectors call grounded
  | recordResponse taskId proposedAction accepted => exact grounded

theorem grounded_run {router : CommandRouter ω} (unbridged : Unbridged router.taskStore)
    (vectors : VectorMemory ω) (env : ω) (calls : List RouterCall) :
    Grounded router (run (routerStep router vectors) (newState env) calls) :=
  run_invariant (fun s call grounded => grounded_step unbridged vectors s call grounded)
    (newState env) (fun _ => rfl) calls

/-- The intent is a mapping of this type, in the spelling of the registry. -/
def Typed (py : Python.Runtime) (intentObject : Value) (intentType : String) : Prop :=
  ∃ fields, intentObject = .dict fields ∧
    normalizeIntentType py (Dict.get fields "intent_type") = .ok intentType

/-- The intent refers to its task by id. -/
def ByTaskId (intentObject : Value) : Prop :=
  ∃ fields entities id, intentObject = .dict fields ∧
    Dict.get fields "entities" = .dict entities ∧ (Dict.get entities "task_id").asInt = some id

def completeIntent : Value := .dict
  [("intent_type", .str "complete_task"), ("entities", .dict [("task_id", .int 1)]),
    ("timestamp", .datetime ⟨Python.firstInstant, none⟩), ("confidence_score", .float (.finite 1))]

def activation : List RouterCall :=
  [.memory (.createTask "Water plants" .null none .null 0), .memory (.activateTask 1)]

def activated : RouterState Nat :=
  run (routerStep localRouter localModules.vectors) (newState 0) activation

end Apcos.Guarantees.RoutedEffects
