import Apcos.Source.Cognition.RouterEffects
import Apcos.Source.Memory.Calls

/-!
# When the router answers and audits once

`route` returns a result and appends exactly one audit event for it exactly on
the routable intents. What is not routable raises: a value that is no mapping,
dates outside years 1 to 9999 in UTC, integers beyond a double or beyond 64
bits, and, with the challenge gate on, an explicit `None` score or an
unprintable goal for a task that exists.
-/
namespace Apcos.Guarantees.RouterAudit

open Apcos.Lib
open Apcos.Source
open Apcos.Source.Python (Value Dict Exc PyFloat Runtime blank)
open Apcos.Source.Memory
open Apcos.Source.Cognition

variable {ω : Type}

/-- One result, one audit event with its id, and the flag tells whether it was executed. -/
def AuditedOnce (before : List AuditEvent) (outcome : Except Exc CommandResult × RouterState ω) :
    Prop :=
  ∃ result event, outcome.1 = .ok result ∧ outcome.2.auditEvents = before ++ [event] ∧
    event.auditId = result.auditId ∧ (event.successFlag = true ↔ result.status = .executed)

/-! ## Routable intents -/

/-- The checks that come before the score is converted. -/
structure Shaped (py : Runtime) (fields entities : Dict) (intentType : String) : Prop where
  complete : ∀ key ∈ requiredIntentKeys, fields.lookup key ≠ none
  typed : normalizeIntentType py (Dict.get fields "intent_type") = .ok intentType
  mapped : Dict.get fields "entities" = .dict entities

/-- The intents that pass validation. -/
structure Accepted (py : Runtime) (fields entities : Dict) (intentType : String)
    (confidence : PyFloat) : Prop extends Shaped py fields entities intentType where
  scored : unitInterval py "confidence_score" (Dict.get fields "confidence_score") = .ok confidence
  printable : (Dict.get fields "intent_id").printable = true
  dated : ∃ timestamp, normalizeTimestamp py (Dict.get fields "timestamp") = .ok timestamp

/-- What the challenge evaluation needs of a reference with an accepted score. -/
def ChallengeSafe (router : CommandRouter ω) (tasks : TaskTable) (entities : Dict) : Prop :=
  (∀ id, (Dict.get entities "task_id").asInt = some id → id < 2 ^ 63) ∧
    ∀ task, CommandRouter.resolve router.taskStore tasks entities = .ok task →
      entities.lookup "alignment_score" ≠ some .null ∧
        (Dict.get entities "declared_goal").printable = true

def CreateRoutable (py : Runtime) (entities : Dict) : Prop :=
  HasTitle entities → ∀ dueAt, Dict.get entities "due_at" = .str dueAt → blank dueAt = false →
    InCalendar py (.str dueAt)

def ReferenceRoutable (router : CommandRouter ω) (tasks : TaskTable) (entities : Dict) : Prop :=
  NamesTask entities → ¬TooLarge (Dict.get entities "alignment_score") ∧
    (router.enableChallengeGate = true → checkAlignment router.py entities = .ok () →
      ChallengeSafe router tasks entities)

def EntitiesRoutable (router : CommandRouter ω) (tasks : TaskTable) (intentType : String)
    (entities : Dict) : Prop :=
  (intentType = "create_task" ∨ intentType = "schedule_task" →
      CreateRoutable router.py entities) ∧
    (intentType = "complete_task" ∨ intentType = "mark_completed" ∨
        intentType = "cancel_task" ∨ intentType = "archive_task" →
      ReferenceRoutable router tasks entities)

def Routable (router : CommandRouter ω) (tasks : TaskTable) (intentObject : Value) : Prop :=
  ∃ fields, intentObject = .dict fields ∧
    InCalendar router.py (Dict.get fields "timestamp") ∧
    (∀ entities intentType, Shaped router.py fields entities intentType →
      ¬TooLarge (Dict.get fields "confidence_score")) ∧
    ∀ entities intentType confidence, Accepted router.py fields entities intentType confidence →
      confidence.lt router.minConfidence = false →
      EntitiesRoutable router tasks intentType entities

/-! ## Exits that audit -/

theorem not_audited_of_error {before : List AuditEvent} {exc : Exc} {s : RouterState ω} :
    ¬AuditedOnce before (.error exc, s) := by
  rintro ⟨result, event, returned, -⟩
  cases returned

/-- An emitted event followed by the result it belongs to. -/
theorem audited_emit (router : CommandRouter ω) (result : CommandResult) (intentId : Value)
    (timestamp : String) (action : Action) (lifecycleBefore lifecycleAfter : Option String)
    (flag : Bool) (entities : Dict) (s : RouterState ω)
    (told : flag = true ↔ result.status = .executed) :
    AuditedOnce s.auditEvents
      ((router.emitAuditEvent result.auditId intentId timestamp action lifecycleBefore lifecycleAfter
        flag entities >>= fun _ => pure result) s) :=
  ⟨result, _, rfl, rfl, rfl, told⟩

theorem reject_audited (router : CommandRouter ω) (auditId : String) (intent : NormalizedIntent)
    (action : Action) (errorCode : ErrorCode) (metadata : Dict) (s : RouterState ω) :
    AuditedOnce s.auditEvents (router.reject auditId intent action errorCode metadata s) :=
  audited_emit router ⟨.rejected, action, auditId, .commandRejected, metadata, some errorCode, none⟩
    _ _ _ _ _ _ _ s (by simp)

/-- Every exception of a handler ends in a rejection. -/
theorem execute_audited (router : CommandRouter ω) (auditId : String) (intent : NormalizedIntent)
    (definition : ActionDefinition ω) (s : RouterState ω)
    (keeps : KeepsAudit (definition.handler intent.entities)) :
    AuditedOnce s.auditEvents (router.execute auditId intent definition s) := by
  rcases ran : definition.handler intent.entities s with ⟨r, s'⟩
  have kept : s'.auditEvents = s.auditEvents := by
    have := keeps s
    rwa [ran] at this
  rw [← kept]
  unfold CommandRouter.execute Comp.handle
  cases r with
  | ok execution =>
    rw [Comp.bind_of_ok ran]
    exact audited_emit router ⟨.executed, execution.actionType, auditId, .commandExecuted,
      execution.metadata, none, none⟩ _ _ _ _ _ _ _ s' (by simp)
  | error exc =>
    rw [Comp.bind_of_error ran]
    exact reject_audited router auditId intent _ _ _ s'

/-- The invalid-shape exit of a mapping fails on a timestamp outside the calendar only. -/
theorem rejectShape_audited_iff (router : CommandRouter ω) (auditId : String) (fields : Dict)
    (s : RouterState ω) :
    AuditedOnce s.auditEvents (router.rejectShape auditId (.dict fields) s) ↔
      InCalendar router.py (Dict.get fields "timestamp") := by
  have escaping := normalizeTimestamp_escapes router.py (Dict.get fields "timestamp")
  cases read : normalizeTimestamp router.py (Dict.get fields "timestamp") with
  | ok timestamp =>
    have inside : InCalendar router.py (Dict.get fields "timestamp") := by
      by_contra outside
      rw [read] at escaping
      exact not_escapes_ok _ (escaping.mpr outside)
    have safe : router.safeTimestamp (Dict.get fields "timestamp") s = (.ok timestamp, s) := by
      simp only [CommandRouter.safeTimestamp, Comp.handle, Comp.ofExcept, read]
    refine iff_of_true ?_ inside
    rw [CommandRouter.rejectShape, Comp.bind_of_ok safe]
    exact audited_emit router ⟨.rejected, .unknown, auditId, .commandRejected, [],
      some .invalidIntentShape, none⟩ _ _ _ _ _ _ _ s (by simp)
  | error exc =>
    rw [read, escapes_error] at escaping
    cases value : exc.isValueError with
    | true =>
      have inside : InCalendar router.py (Dict.get fields "timestamp") := by
        by_contra outside
        have other := escaping.mpr outside
        rw [value] at other
        cases other
      refine iff_of_true ?_ inside
      obtain ⟨now, s', clock, kept, -⟩ := router.utcNowIso_returns s
      have safe : router.safeTimestamp (Dict.get fields "timestamp") s = router.utcNowIso s := by
        simp only [CommandRouter.safeTimestamp, Comp.handle, Comp.ofExcept, read, value, if_true]
      rw [CommandRouter.rejectShape, Comp.bind_of_ok (safe.trans clock), ← kept]
      exact audited_emit router ⟨.rejected, .unknown, auditId, .commandRejected, [],
        some .invalidIntentShape, none⟩ _ _ _ _ _ _ _ s' (by simp)
    | false =>
      have outside := escaping.mp value
      have raised : router.safeTimestamp (Dict.get fields "timestamp") s = (.error exc, s) := by
        simp only [CommandRouter.safeTimestamp, Comp.handle, Comp.ofExcept, read, value,
          Bool.false_eq_true, if_false, Comp.raise]
      refine iff_of_false ?_ outside
      rw [CommandRouter.rejectShape, Comp.bind_of_error raised]
      exact not_audited_of_error

/-! ## The challenge -/

theorem evaluate_returns (router : CommandRouter ω) (taskId : Int) (action goal : String)
    (score : PyFloat) (overrode : Bool) (s : RouterState ω) :
    ∃ payload s', router.challengeLogic.evaluate router.py (RouterState.challengeLens ω)
        router.utcNowIso taskId action goal score overrode s = (.ok payload, s') ∧
      s'.auditEvents = s.auditEvents := by
  unfold ChallengeLogic.evaluate
  have read : (Comp.zoom (RouterState.challengeLens ω) Comp.get :
      Comp Exc (RouterState ω) ChallengeState) s = (.ok s.challenge, s) := rfl
  rw [Comp.bind_of_ok read]
  split
  · exact ⟨_, _, rfl, rfl⟩
  split
  · exact ⟨_, _, rfl, rfl⟩
  split
  · exact ⟨_, _, rfl, rfl⟩
  split
  · exact ⟨_, _, rfl, rfl⟩
  · exact ⟨_, _, rfl, rfl⟩

theorem evaluateChallenge_skipped (router : CommandRouter ω) (intent : NormalizedIntent)
    (definition : ActionDefinition ω) (s : RouterState ω)
    (off : router.enableChallengeGate = false ∨ definition.challengeable = false) :
    router.evaluateChallenge intent definition s = (.ok none, s) := by
  have closed : (!router.enableChallengeGate || !definition.challengeable) = true := by
    rcases off with gate | plain
    · rw [gate]
      rfl
    · rw [plain]
      exact Bool.or_true _
  exact congrFun (if_pos closed) s

/-- The evaluation of a task reads the score and the goal of the intent. -/
theorem evaluateResolved_ok_cases (router : CommandRouter ω) (intent : NormalizedIntent)
    (definition : ActionDefinition ω) (task : TaskRecord) (s : RouterState ω)
    (aligned : checkAlignment router.py intent.entities = .ok ()) :
    ((intent.entities.lookup "alignment_score" ≠ some .null ∧
          (Dict.get intent.entities "declared_goal").printable = true) ∧ ∃ payload s',
        router.evaluateResolved intent definition (.ok task) s = (.ok payload, s') ∧
          s'.auditEvents = s.auditEvents) ∨
      (¬(intent.entities.lookup "alignment_score" ≠ some .null ∧
          (Dict.get intent.entities "declared_goal").printable = true) ∧ ∃ exc,
        router.evaluateResolved intent definition (.ok task) s = (.error exc, s)) := by
  rcases alignment_float aligned with ⟨null, exc, raised⟩ | ⟨given, score, converted⟩
  · refine Or.inr ⟨fun safe => safe.1 null, exc, ?_⟩
    simp only [CommandRouter.evaluateResolved, raised]
    rfl
  · rcases str_getD_cases router.py intent.entities "declared_goal" (task.goal.getD "") with
      ⟨printable, goal, printed⟩ | ⟨unprintable, exc, raised, -⟩
    · refine Or.inl ⟨⟨given, printable⟩, ?_⟩
      simp only [CommandRouter.evaluateResolved, converted, printed]
      exact evaluate_returns router _ _ _ _ _ s
    · refine Or.inr ⟨?_, exc, ?_⟩
      · rintro ⟨-, printable⟩
        rw [unprintable] at printable
        cases printable
      · simp only [CommandRouter.evaluateResolved, converted, raised]
        rfl

/-- A named task with an id below the bound gives a statement parameter. -/
theorem named_bounded {entities : Dict} (named : NamesTask entities)
    (bounded : ∀ id, (Dict.get entities "task_id").asInt = some id → id < 2 ^ 63) (id : Int)
    (number : (Dict.get entities "task_id").asInt = some id) : -(2 ^ 63) ≤ id ∧ id < 2 ^ 63 := by
  have upper := bounded id number
  rcases named with ⟨other, same, positive⟩ | ⟨null, -⟩
  · rw [number] at same
    cases same
    omega
  · rw [null] at number
    cases number

/-- With the gate on, the evaluation of a checked reference raises exactly when it is not safe. -/
theorem evaluateChallenge_cases (router : CommandRouter ω) (intent : NormalizedIntent)
    (definition : ActionDefinition ω) (s : RouterState ω) (gate : router.enableChallengeGate = true)
    (challengeable : definition.challengeable = true) (named : NamesTask intent.entities)
    (aligned : checkAlignment router.py intent.entities = .ok ()) :
    (ChallengeSafe router s.memory.tasks intent.entities ∧ ∃ payload s',
        router.evaluateChallenge intent definition s = (.ok payload, s') ∧
          s'.auditEvents = s.auditEvents) ∨
      (¬ChallengeSafe router s.memory.tasks intent.entities ∧ ∃ exc,
        router.evaluateChallenge intent definition s = (.error exc, s)) := by
  have attempted : Comp.attempt (router.resolveTaskReference intent.entities) s =
      (.ok (CommandRouter.resolve router.taskStore s.memory.tasks intent.entities), s) := rfl
  have unfolded : router.evaluateChallenge intent definition s =
      router.evaluateResolved intent definition
        (CommandRouter.resolve router.taskStore s.memory.tasks intent.entities) s := by
    rw [CommandRouter.evaluateChallenge, gate, challengeable]
    exact Comp.bind_of_ok attempted
  rw [unfolded]
  by_cases bounded : ∀ id, (Dict.get intent.entities "task_id").asInt = some id → id < 2 ^ 63
  · cases resolved : CommandRouter.resolve router.taskStore s.memory.tasks intent.entities with
    | error exc =>
      have failed := resolve_error (named_bounded named bounded) resolved
      refine Or.inl ⟨⟨bounded, ?_⟩, none, s, congrFun (if_pos failed) s, rfl⟩
      intro task found
      rw [resolved] at found
      cases found
    | ok task =>
      rcases evaluateResolved_ok_cases router intent definition task s aligned with
        ⟨safe, returned⟩ | ⟨notSafe, raised⟩
      · exact Or.inl ⟨⟨bounded, fun _ _ => safe⟩, returned⟩
      · exact Or.inr ⟨fun safe => notSafe (safe.2 task resolved), raised⟩
  · have large : ∃ id, (Dict.get intent.entities "task_id").asInt = some id ∧ 2 ^ 63 ≤ id := by
      by_contra none_large
      apply bounded
      intro id number
      by_contra high
      exact none_large ⟨id, number, by omega⟩
    obtain ⟨id, number, high⟩ := large
    obtain ⟨exc, raised, uncaught⟩ : ∃ exc,
        CommandRouter.resolve router.taskStore s.memory.tasks intent.entities = .error exc ∧
          lookupFailure exc = false :=
      resolve_overflow number high s.memory.tasks
    have raises : ¬lookupFailure exc = true := by
      rw [uncaught]
      exact Bool.false_ne_true
    refine Or.inr ⟨fun safe => bounded safe.1, exc, ?_⟩
    rw [raised]
    exact congrFun (if_neg raises) s

/-! ## Registered actions -/

theorem continued_audited (router : CommandRouter ω) (auditId : String) (intent : NormalizedIntent)
    (definition : ActionDefinition ω) (s s' : RouterState ω) (payload : Option ChallengePayload)
    (evaluated : router.evaluateChallenge intent definition s = (.ok payload, s'))
    (kept : s'.auditEvents = s.auditEvents)
    (valid : definition.validator intent.entities = .ok ())
    (keeps : KeepsAudit (definition.handler intent.entities)) :
    AuditedOnce s.auditEvents (router.runDefinition auditId intent definition s) := by
  simp only [CommandRouter.runDefinition, valid]
  rw [Comp.bind_of_ok evaluated, ← kept]
  cases payload with
  | some payload =>
    exact audited_emit router ⟨.challengeRequired, definition.actionType, auditId,
      .challengeRequired, [], none, some payload⟩ _ _ _ _ _ _ _ s' (by simp)
  | none => exact execute_audited router auditId intent definition s' keeps

/-- A validator that raises decides between the audited rejection and an escape. -/
theorem refused_audited_iff (router : CommandRouter ω) (auditId : String) (intent : NormalizedIntent)
    (definition : ActionDefinition ω) (s : RouterState ω) {exc : Exc}
    (refused : definition.validator intent.entities = .error exc) :
    AuditedOnce s.auditEvents (router.runDefinition auditId intent definition s) ↔
      ¬Escapes (definition.validator intent.entities) := by
  rw [refused, escapes_error]
  simp only [CommandRouter.runDefinition, refused]
  cases value : exc.isValueError with
  | true =>
    refine iff_of_true ?_ (by simp)
    exact reject_audited router auditId intent _ _ _ s
  | false =>
    refine iff_of_false ?_ (by simp)
    exact not_audited_of_error

/-- A create intent is audited exactly once when nothing in it escapes the router. -/
theorem runDefinition_create_iff (router : CommandRouter ω) (auditId : String)
    (intent : NormalizedIntent) (s : RouterState ω) :
    AuditedOnce s.auditEvents (router.runDefinition auditId intent router.createDefinition s) ↔
      CreateRoutable router.py intent.entities := by
  have escaping := validateCreateTaskEntities_escapes router.py intent.entities
  have routable : CreateRoutable router.py intent.entities ↔
      ¬Escapes (validateCreateTaskEntities router.py intent.entities) := by
    rw [escaping, CreateRoutable]
    constructor
    · rintro safe ⟨titled, dueAt, read, visible, outside⟩
      exact outside (safe titled dueAt read visible)
    · intro quiet titled dueAt read visible
      by_contra outside
      exact quiet ⟨titled, dueAt, read, visible, outside⟩
  rw [routable]
  cases checked : validateCreateTaskEntities router.py intent.entities with
  | error exc =>
    rw [← checked]
    exact refused_audited_iff router auditId intent router.createDefinition s checked
  | ok passed =>
    refine iff_of_true ?_ (not_escapes_ok _)
    have skipped := evaluateChallenge_skipped router intent router.createDefinition s (Or.inr rfl)
    exact continued_audited router auditId intent router.createDefinition s s none skipped rfl checked
      (router.keepsAudit_handleCreateTask intent.entities)

/-- Both actions on a task reference. -/
theorem runDefinition_reference_iff (router : CommandRouter ω) (auditId : String)
    (intent : NormalizedIntent) (definition : ActionDefinition ω) (s : RouterState ω)
    (validates : definition.validator = validateTaskReferenceEntities router.py)
    (challengeable : definition.challengeable = true)
    (keeps : KeepsAudit (definition.handler intent.entities)) :
    AuditedOnce s.auditEvents (router.runDefinition auditId intent definition s) ↔
      ReferenceRoutable router s.memory.tasks intent.entities := by
  have escaping := validateTaskReferenceEntities_escapes router.py intent.entities
  cases checked : definition.validator intent.entities with
  | error exc =>
    rw [refused_audited_iff router auditId intent definition s checked, validates, escaping,
      ReferenceRoutable]
    constructor
    · intro quiet named
      refine ⟨fun large => quiet ⟨named, large⟩, ?_⟩
      intro gate aligned
      rcases checkReference_cases intent.entities with ⟨passed, -⟩ | ⟨-, -, unnamed⟩
      · rw [validates, validateTaskReferenceEntities, passed] at checked
        simp only [bind, Except.bind, aligned] at checked
        cases checked
      · exact absurd named unnamed
    · rintro routable ⟨named, large⟩
      exact (routable named).1 large
  | ok passed =>
    have quiet : ¬Escapes (validateTaskReferenceEntities router.py intent.entities) := by
      rw [← validates, checked]
      exact not_escapes_ok _
    rw [validates, validateTaskReferenceEntities] at checked
    obtain ⟨accepted, named⟩ | ⟨-, refused, -⟩ := checkReference_cases intent.entities
    · rw [accepted] at checked
      have aligned : checkAlignment router.py intent.entities = .ok () := checked
      have valid : definition.validator intent.entities = .ok () := by
        rw [validates, validateTaskReferenceEntities, accepted]
        exact aligned
      have small : ¬TooLarge (Dict.get intent.entities "alignment_score") := fun large =>
        quiet (escaping.mpr ⟨named, large⟩)
      cases gate : router.enableChallengeGate with
      | false =>
        have skipped := evaluateChallenge_skipped router intent definition s (Or.inl gate)
        refine iff_of_true ?_ ?_
        · exact continued_audited router auditId intent definition s s none skipped rfl valid keeps
        · intro _
          refine ⟨small, fun on => ?_⟩
          rw [gate] at on
          cases on
      | true =>
        rcases evaluateChallenge_cases router intent definition s gate challengeable named aligned with
          ⟨safe, payload, s', evaluated, kept⟩ | ⟨unsafeReference, exc, raised⟩
        · refine iff_of_true ?_ fun _ => ⟨small, fun _ _ => safe⟩
          exact continued_audited router auditId intent definition s s' payload evaluated kept valid
            keeps
        · refine iff_of_false ?_ fun routable => unsafeReference ((routable named).2 gate aligned)
          simp only [CommandRouter.runDefinition, valid]
          rw [Comp.bind_of_error raised]
          exact not_audited_of_error
    · cases first : checkReference intent.entities with
      | ok passed => exact absurd first refused
      | error exc =>
        rw [first] at checked
        cases checked

/-! ## Validation of the intent -/

theorem complete_iff (fields : Dict) :
    (requiredIntentKeys.filter fun key => (fields.lookup key).isNone).isEmpty = true ↔
      ∀ key ∈ requiredIntentKeys, fields.lookup key ≠ none := by
  rw [List.isEmpty_iff, List.filter_eq_nil_iff]
  simp only [Option.isNone_iff_eq_none, ne_eq]

theorem normalizeIntentType_error {py : Runtime} {v : Value} {exc : Exc}
    (raised : normalizeIntentType py v = .error exc) : exc.isValueError = true := by
  unfold normalizeIntentType at raised
  split at raised
  · split at raised
    · cases raised
      rfl
    · cases raised
  · cases raised
    rfl

/-- The shape is read, refused with a `ValueError`, or its score is too large. -/
theorem validateShape_cases (py : Runtime) (fields : Dict) :
    (∃ shape, validateShape py fields = .ok shape ∧
        Shaped py fields shape.entities shape.intentType ∧
        unitInterval py "confidence_score" (Dict.get fields "confidence_score") =
          .ok shape.confidenceScore) ∨
      (∃ exc, validateShape py fields = .error exc ∧ exc.isValueError = true ∧
        ∀ entities intentType, Shaped py fields entities intentType →
          (∀ confidence, unitInterval py "confidence_score" (Dict.get fields "confidence_score") ≠
            .ok confidence) ∧ ¬TooLarge (Dict.get fields "confidence_score")) ∨
      ∃ exc entities intentType, validateShape py fields = .error exc ∧ exc.isValueError = false ∧
        Shaped py fields entities intentType ∧ TooLarge (Dict.get fields "confidence_score") := by
  unfold validateShape
  by_cases complete : ∀ key ∈ requiredIntentKeys, fields.lookup key ≠ none
  · have none_missing := (complete_iff fields).mpr complete
    simp only [none_missing, Bool.not_true, Bool.false_eq_true, if_false]
    cases typed : normalizeIntentType py (Dict.get fields "intent_type") with
    | error exc =>
      refine Or.inr (Or.inl ⟨exc, rfl, normalizeIntentType_error typed, ?_⟩)
      intro entities intentType shaped
      have other := shaped.typed
      rw [typed] at other
      cases other
    | ok intentType =>
      simp only [bind, Except.bind]
      split
      · rename_i entities mapped
        have shaped : Shaped py fields entities intentType := ⟨complete, typed, mapped⟩
        have escaping := unitInterval_escapes py "confidence_score"
          (Dict.get fields "confidence_score")
        cases scored : unitInterval py "confidence_score" (Dict.get fields "confidence_score") with
        | ok confidence => exact Or.inl ⟨⟨intentType, entities, confidence⟩, rfl, shaped, rfl⟩
        | error exc =>
          rw [scored, escapes_error] at escaping
          cases value : exc.isValueError with
          | true =>
            refine Or.inr (Or.inl ⟨exc, rfl, value, ?_⟩)
            intro _ _ _
            refine ⟨by simp, fun large => ?_⟩
            have other := escaping.mpr large
            rw [value] at other
            cases other
          | false =>
            exact Or.inr (Or.inr ⟨exc, entities, intentType, rfl, value, shaped, escaping.mp value⟩)
      · rename_i unmapped
        refine Or.inr (Or.inl ⟨_, rfl, rfl, ?_⟩)
        intro entities intentType' shaped
        exact absurd shaped.mapped (unmapped entities)
  · have missing : (requiredIntentKeys.filter fun key => (fields.lookup key).isNone).isEmpty = false := by
      rw [Bool.eq_false_iff]
      intro empty
      exact complete ((complete_iff fields).mp empty)
    simp only [missing, Bool.not_false, if_true]
    refine Or.inr (Or.inl ⟨_, rfl, rfl, ?_⟩)
    intro entities intentType shaped
    exact absurd shaped.complete complete

/-- Validation of a mapping: accepted, refused with a `ValueError`, or escaping. -/
theorem validate_cases (router : CommandRouter ω) (fields : Dict) (s : RouterState ω) :
    (∃ intent s', router.validateAndNormalizeIntent (.dict fields) s = (.ok intent, s') ∧
        s'.auditEvents = s.auditEvents ∧ s'.memory.tasks = s.memory.tasks ∧
        Accepted router.py fields intent.entities intent.intentType intent.confidenceScore) ∨
      (∃ exc s', router.validateAndNormalizeIntent (.dict fields) s = (.error exc, s') ∧
        s'.auditEvents = s.auditEvents ∧ exc.isValueError = true ∧
        (∀ entities intentType confidence,
          ¬Accepted router.py fields entities intentType confidence) ∧
        ∀ entities intentType, Shaped router.py fields entities intentType →
          ¬TooLarge (Dict.get fields "confidence_score")) ∨
      ∃ exc s', router.validateAndNormalizeIntent (.dict fields) s = (.error exc, s') ∧
        exc.isValueError = false ∧ (¬InCalendar router.py (Dict.get fields "timestamp") ∨
          ∃ entities intentType, Shaped router.py fields entities intentType ∧
            TooLarge (Dict.get fields "confidence_score")) := by
  unfold CommandRouter.validateAndNormalizeIntent
  rcases validateShape_cases router.py fields with
    ⟨shape, read, shaped, scored⟩ | ⟨exc, raised, value, refused⟩ |
      ⟨exc, entities, intentType, raised, other, shaped, large⟩
  · obtain ⟨drawn, s', uuid, kept, same⟩ := router.uuid4_returns s
    simp only [read, Comp.ofExcept_ok_bind]
    rw [Comp.bind_of_ok uuid]
    have notLarge : ∀ entities intentType, Shaped router.py fields entities intentType →
        ¬TooLarge (Dict.get fields "confidence_score") :=
      fun _ _ _ => not_tooLarge_of_unitInterval scored
    rcases str_getD_cases router.py fields "intent_id" drawn with
      ⟨printable, text, printed⟩ | ⟨unprintable, exc, raised, value⟩
    · simp only [printed, Comp.ofExcept_ok_bind]
      have escaping := normalizeTimestamp_escapes router.py (Dict.get fields "timestamp")
      cases dated : normalizeTimestamp router.py (Dict.get fields "timestamp") with
      | ok timestamp =>
        exact Or.inl ⟨_, s', rfl, kept, same, ⟨shaped, scored, printable, timestamp, dated⟩⟩
      | error exc =>
        rw [dated, escapes_error] at escaping
        cases value : exc.isValueError with
        | true =>
          refine Or.inr (Or.inl ⟨exc, s', rfl, kept, value, ?_, notLarge⟩)
          intro entities intentType confidence accepted
          obtain ⟨timestamp, other⟩ := accepted.dated
          rw [dated] at other
          cases other
        | false => exact Or.inr (Or.inr ⟨exc, s', rfl, value, Or.inl (escaping.mp value)⟩)
    · simp only [raised, Comp.ofExcept_error_bind]
      refine Or.inr (Or.inl ⟨exc, s', rfl, kept, value, ?_, notLarge⟩)
      intro entities intentType confidence accepted
      have printable := accepted.printable
      rw [unprintable] at printable
      cases printable
  · simp only [raised, Comp.ofExcept_error_bind]
    refine Or.inr (Or.inl ⟨exc, s, rfl, rfl, value, ?_, ?_⟩)
    · intro entities intentType confidence accepted
      exact (refused entities intentType accepted.toShaped).1 confidence accepted.scored
    · intro entities intentType shaped
      exact (refused entities intentType shaped).2
  · simp only [raised, Comp.ofExcept_error_bind]
    exact Or.inr (Or.inr ⟨exc, s, rfl, other, Or.inr ⟨entities, intentType, shaped, large⟩⟩)

/-- What validates is a mapping that is accepted. -/
theorem accepted_of_validated {router : CommandRouter ω} {intentObject : Value}
    {s t : RouterState ω} {intent : NormalizedIntent}
    (validated : router.validateAndNormalizeIntent intentObject s = (.ok intent, t)) :
    ∃ fields, intentObject = .dict fields ∧
      Accepted router.py fields intent.entities intent.intentType intent.confidenceScore := by
  cases intentObject with
  | dict fields =>
    refine ⟨fields, rfl, ?_⟩
    rcases validate_cases router fields s with
      ⟨_, _, same, -, -, accepted⟩ | ⟨_, _, raised, -⟩ | ⟨_, _, raised, -⟩
    · rw [validated] at same
      cases same
      exact accepted
    · rw [validated] at raised
      cases raised
    · rw [validated] at raised
      cases raised
  | _ => cases validated

/-! ## The router -/

/-- A registered intent is audited exactly once when nothing in it escapes the router. -/
theorem runDefinition_iff (router : CommandRouter ω) (auditId : String) (intent : NormalizedIntent)
    (definition : ActionDefinition ω) (s : RouterState ω)
    (registered : router.registry.lookup intent.intentType = some definition) :
    AuditedOnce s.auditEvents (router.runDefinition auditId intent definition s) ↔
      EntitiesRoutable router s.memory.tasks intent.intentType intent.entities := by
  have keeps := CommandRouter.keepsAudit_handler registered intent.entities
  rcases CommandRouter.registry_cases registered with ⟨rfl, created⟩ | ⟨reference, referred⟩
  · rw [runDefinition_create_iff]
    constructor
    · intro routable
      refine ⟨fun _ => routable, ?_⟩
      intro other
      rcases created with name | name <;> rw [name] at other <;> exact absurd other (by decide)
    · intro routable
      exact routable.1 created
  · have audited : AuditedOnce s.auditEvents (router.runDefinition auditId intent definition s) ↔
        ReferenceRoutable router s.memory.tasks intent.entities := by
      rcases reference with rfl | rfl
      · exact runDefinition_reference_iff router auditId intent _ s rfl rfl keeps
      · exact runDefinition_reference_iff router auditId intent _ s rfl rfl keeps
    rw [audited]
    constructor
    · intro routable
      refine ⟨?_, fun _ => routable⟩
      intro other
      rcases referred with name | name | name | name <;> rw [name] at other <;>
        exact absurd other (by decide)
    · intro routable
      exact routable.2 referred

theorem unregistered_routable {router : CommandRouter ω} {intentType : String}
    (unregistered : router.registry.lookup intentType = none) (tasks : TaskTable) (entities : Dict) :
    EntitiesRoutable router tasks intentType entities := by
  constructor
  · rintro (rfl | rfl) <;> cases unregistered
  · rintro (rfl | rfl | rfl | rfl) <;> cases unregistered

theorem routeIntent_iff (router : CommandRouter ω) (auditId : String) (intent : NormalizedIntent)
    (s : RouterState ω) :
    AuditedOnce s.auditEvents (router.routeIntent auditId intent s) ↔
      (intent.confidenceScore.lt router.minConfidence = false →
        EntitiesRoutable router s.memory.tasks intent.intentType intent.entities) := by
  unfold CommandRouter.routeIntent
  cases low : intent.confidenceScore.lt router.minConfidence with
  | true =>
    refine iff_of_true ?_ (by simp)
    exact reject_audited router auditId intent _ _ _ s
  | false =>
    simp only [forall_const, Bool.false_eq_true, if_false]
    cases registered : router.registry.lookup intent.intentType with
    | none =>
      refine iff_of_true ?_ (unregistered_routable registered _ _)
      exact reject_audited router auditId intent _ _ _ s
    | some definition => exact runDefinition_iff router auditId intent definition s registered

theorem Accepted.unique {py : Runtime} {fields entities entities' : Dict}
    {intentType intentType' : String} {confidence confidence' : PyFloat}
    (one : Accepted py fields entities intentType confidence)
    (other : Accepted py fields entities' intentType' confidence') :
    entities = entities' ∧ intentType = intentType' ∧ confidence = confidence' := by
  refine ⟨?_, ?_, ?_⟩
  · have same := one.mapped.symm.trans other.mapped
    cases same
    rfl
  · have same := one.typed.symm.trans other.typed
    cases same
    rfl
  · have same := one.scored.symm.trans other.scored
    cases same
    rfl

theorem Accepted.inCalendar {py : Runtime} {fields entities : Dict} {intentType : String}
    {confidence : PyFloat} (accepted : Accepted py fields entities intentType confidence) :
    InCalendar py (Dict.get fields "timestamp") := by
  by_contra outside
  obtain ⟨timestamp, dated⟩ := accepted.dated
  have escaped := (normalizeTimestamp_escapes py _).mpr outside
  rw [dated] at escaped
  exact not_escapes_ok _ escaped

theorem routable_dict_iff (router : CommandRouter ω) (tasks : TaskTable) (fields : Dict) :
    Routable router tasks (.dict fields) ↔
      InCalendar router.py (Dict.get fields "timestamp") ∧
      (∀ entities intentType, Shaped router.py fields entities intentType →
        ¬TooLarge (Dict.get fields "confidence_score")) ∧
      ∀ entities intentType confidence, Accepted router.py fields entities intentType confidence →
        confidence.lt router.minConfidence = false →
        EntitiesRoutable router tasks intentType entities := by
  constructor
  · rintro ⟨other, equal, conditions⟩
    cases equal
    exact conditions
  · intro conditions
    exact ⟨fields, rfl, conditions⟩

/-- An accepted intent is routable when its entities are, unless its confidence is low. -/
theorem Accepted.routable_iff {router : CommandRouter ω} {tasks : TaskTable}
    {fields entities : Dict} {intentType : String} {confidence : PyFloat}
    (accepted : Accepted router.py fields entities intentType confidence) :
    Routable router tasks (.dict fields) ↔ (confidence.lt router.minConfidence = false →
      EntitiesRoutable router tasks intentType entities) := by
  rw [routable_dict_iff]
  constructor
  · rintro ⟨-, -, conditions⟩
    exact conditions _ _ _ accepted
  · intro confident
    refine ⟨accepted.inCalendar, fun _ _ _ => not_tooLarge_of_unitInterval accepted.scored, ?_⟩
    intro entities' intentType' confidence' again
    obtain ⟨rfl, rfl, rfl⟩ := accepted.unique again
    exact confident

/-- A mapping is answered and audited once exactly when it is routable. -/
theorem route_mapping_iff (router : CommandRouter ω) (fields : Dict) (s : RouterState ω) :
    AuditedOnce s.auditEvents (router.route (.dict fields) s) ↔
      Routable router s.memory.tasks (.dict fields) := by
  obtain ⟨auditId, s', uuid, kept, same⟩ := router.uuid4_returns s
  rw [CommandRouter.route, Comp.bind_of_ok uuid, ← kept, ← same]
  rcases validate_cases router fields s' with
    ⟨intent, s'', validated, log, table, accepted⟩ |
      ⟨exc, s'', raised, log, value, unaccepted, small⟩ | ⟨exc, s'', raised, other, outside⟩
  · have attempted : Comp.attempt (router.validateAndNormalizeIntent (.dict fields)) s' =
        (.ok (.ok intent), s'') := by rw [Comp.attempt, validated]
    rw [Comp.bind_of_ok attempted, ← log, ← table, accepted.routable_iff]
    exact routeIntent_iff router auditId intent s''
  · have attempted : Comp.attempt (router.validateAndNormalizeIntent (.dict fields)) s' =
        (.ok (.error exc), s'') := by rw [Comp.attempt, raised]
    rw [Comp.bind_of_ok attempted, ← log, routable_dict_iff]
    simp only [value, if_true]
    rw [rejectShape_audited_iff]
    constructor
    · intro inside
      refine ⟨inside, small, ?_⟩
      intro entities intentType confidence accepted
      exact absurd accepted (unaccepted entities intentType confidence)
    · rintro ⟨inside, -⟩
      exact inside
  · have attempted : Comp.attempt (router.validateAndNormalizeIntent (.dict fields)) s' =
        (.ok (.error exc), s'') := by rw [Comp.attempt, raised]
    rw [Comp.bind_of_ok attempted, routable_dict_iff]
    simp only [other, Bool.false_eq_true, if_false]
    refine iff_of_false not_audited_of_error ?_
    rintro ⟨inside, small, -⟩
    rcases outside with far | ⟨entities, intentType, shaped, large⟩
    · exact far inside
    · exact small entities intentType shaped large

/-- The handler of the validation error reads the intent as a mapping. -/
theorem route_of_not_mapping (router : CommandRouter ω) (intentObject : Value) (s : RouterState ω)
    (unmapped : ∀ fields, intentObject ≠ .dict fields) :
    ∃ exc s', router.route intentObject s = (.error exc, s') := by
  obtain ⟨auditId, s', uuid, -, -⟩ := router.uuid4_returns s
  cases intentObject with
  | dict fields => exact absurd rfl (unmapped fields)
  | _ => exact ⟨_, s', by rw [CommandRouter.route, Comp.bind_of_ok uuid]; rfl⟩

/-- From every state, exactly the routable intents are answered and audited once. -/
theorem route_audits_once_iff (router : CommandRouter ω) (intentObject : Value)
    (s : RouterState ω) :
    AuditedOnce s.auditEvents (router.route intentObject s) ↔
      Routable router s.memory.tasks intentObject := by
  by_cases mapping : ∃ fields, intentObject = .dict fields
  · obtain ⟨fields, rfl⟩ := mapping
    exact route_mapping_iff router fields s
  · obtain ⟨exc, s', raised⟩ := route_of_not_mapping router intentObject s
      fun fields equal => mapping ⟨fields, equal⟩
    rw [raised]
    refine iff_of_false not_audited_of_error ?_
    rintro ⟨fields, equal, -⟩
    exact mapping ⟨fields, equal⟩

/-! A router over a local store with the default settings. -/

def localRouter : CommandRouter Nat where
  taskStore := localModules.store
  challengeLogic := ⟨.finite (1 / 2), fun _ => ""⟩
  minConfidence := defaultMinConfidence
  enableChallengeGate := true

def localState : RouterState Nat := ⟨.initial 0, ⟨[], []⟩, []⟩

/-- 0001-01-01T00:00 at one hour east of Greenwich. -/
def firstHour : Python.DateTime := ⟨Python.firstInstant, some ⟨3600 * 10 ^ 6, by decide⟩⟩

def firstHourIntent : Value := .dict
  [("intent_type", .str "create_task"), ("entities", .dict [("task", .str "Water plants")]),
    ("timestamp", .datetime firstHour), ("confidence_score", .float (.finite 1))]

/-- A complete intent dated in the first hour of the calendar raises `OverflowError`. -/
theorem first_hour_not_audited :
    ¬AuditedOnce localState.auditEvents (localRouter.route firstHourIntent localState) := by
  have raised : (localRouter.route firstHourIntent localState).1.toOption.isNone = true := by
    decide +kernel
  rintro ⟨result, event, returned, -⟩
  rw [returned] at raised
  cases raised

end Apcos.Guarantees.RouterAudit
