import Apcos.Guarantees.RoutedEffects
import Apcos.Source.Python.Arithmetic

/-!
# One challenge for each task and action

core/cognition/challenge_logic.py:27-65 and core/cognition/command_router.py:511-558. The
keys of the challenge logic only grow, and a key is the task an intent resolves to and the
action of its handler, however both were named. A challenge needs a score that is not at
least the threshold, which a NaN never is.
-/
namespace Apcos.Guarantees.ChallengeOnce

open Apcos.Lib
open Apcos.Source
open Apcos.Source.Python (Value Dict Exc PyFloat Runtime)
open Apcos.Source.Memory
open Apcos.Source.Cognition
open Apcos.Guarantees.RouterAudit (accepted_of_validated evaluateChallenge_skipped localRouter)
open Apcos.Guarantees.RoutedIntents
open Apcos.Guarantees.RoutedEffects

variable {ω α : Type}

/-- How the challenge logic remembers a task and an action. -/
def keyOf (py : Runtime) (taskId : Int) (action : Action) : Int × String :=
  (taskId, normalizeAction py (py.lower action.value))

/-- The intent asks for the action on the task its reference resolves to. -/
structure Names (router : CommandRouter ω) (tasks : TaskTable) (intentObject : Value)
    (entities : Dict) (task : TaskRecord) (action : Action) : Prop where
  asked : ∃ fields intentType definition, intentObject = .dict fields ∧
    Dict.get fields "entities" = .dict entities ∧
    normalizeIntentType router.py (Dict.get fields "intent_type") = .ok intentType ∧
    router.registry.lookup intentType = some definition ∧
    definition.challengeable = true ∧ definition.actionType = action
  resolves : CommandRouter.resolve router.taskStore tasks entities = .ok task

/-- The intent is answered with a challenge of the action on the task. -/
def Challenges (router : CommandRouter ω) (s : RouterState ω) (intentObject : Value)
    (taskId : Int) (action : Action) : Prop :=
  ∃ result s' payload, router.route intentObject s = (.ok result, s') ∧
    result.status = .challengeRequired ∧ result.action = action ∧
    result.challengePayload = some payload ∧ payload.taskId = taskId

/-- The user has rejected the challenge of the action on the task, in any spelling. -/
def Rejects (py : Runtime) (call : RouterCall) (taskId : Int) (action : Action) : Prop :=
  ∃ proposedAction, call = .recordResponse taskId proposedAction false ∧
    (taskId, normalizeAction py proposedAction) = keyOf py taskId action

/-- The alignment score of the entities, as the router reads it. -/
def alignmentScore (py : Runtime) (entities : Dict) : Except Exc PyFloat :=
  Python.float py (Dict.getD entities "alignment_score" (.float (.finite 1)))

/-- No alignment score of the call is a NaN. -/
def Aligned : RouterCall → Prop
  | .route intentObject => ∀ fields entities, intentObject = .dict fields →
      Dict.get fields "entities" = .dict entities →
        Dict.get entities "alignment_score" ≠ .float .nan
  | .memory _ => True
  | .recordResponse _ _ _ => True

/-- The router with the challenge gate switched off. -/
def ungated (router : CommandRouter ω) : CommandRouter ω :=
  { router with enableChallengeGate := false }

/-- The gate lets the intent through: it is not challenged and, if its score and its goal can
be read, is answered as without a gate. -/
def Unblocked (router : CommandRouter ω) (s : RouterState ω) (intentObject : Value)
    (entities : Dict) : Prop :=
  (∀ result s', router.route intentObject s = (.ok result, s') →
      result.status ≠ .challengeRequired) ∧
    (entities.lookup "alignment_score" ≠ some .null →
      (Dict.get entities "declared_goal").printable = true →
        router.route intentObject s = (ungated router).route intentObject s)

/-! ## One evaluation -/

theorem challenge_read (s : RouterState ω) : (Comp.zoom (RouterState.challengeLens ω) Comp.get :
    Comp Exc (RouterState ω) ChallengeState) s = (.ok s.challenge, s) := rfl

/-- What a challenge needs, and that it is remembered. -/
theorem evaluate_some {router : CommandRouter ω} {taskId : Int} {action goal : String}
    {score : PyFloat} {overrode : Bool} {s t : RouterState ω} {payload : ChallengePayload}
    (challenged : router.challengeLogic.evaluate router.py (RouterState.challengeLens ω)
      router.utcNowIso taskId action goal score overrode s = (.ok (some payload), t)) :
    overrode = false ∧ (taskId, normalizeAction router.py action) ∉ s.challenge.rejectedKeys ∧
      (taskId, normalizeAction router.py action) ∉ s.challenge.challengedKeys ∧
      router.challengeLogic.challengeThreshold.le score = false ∧ payload.taskId = taskId ∧
      (taskId, normalizeAction router.py action) ∈ t.challenge.challengedKeys := by
  unfold ChallengeLogic.evaluate at challenged
  rw [Comp.bind_of_ok (challenge_read s)] at challenged
  split at challenged
  · cases challenged
  · rename_i attentive
    split at challenged
    · cases challenged
    · rename_i unrejected
      split at challenged
      · cases challenged
      · rename_i unchallenged
        split at challenged
        · cases challenged
        · rename_i misaligned
          rw [List.contains_iff_mem] at unrejected unchallenged
          cases challenged
          exact ⟨Bool.eq_false_iff.mpr attentive, unrejected, unchallenged,
            Bool.eq_false_iff.mpr misaligned, rfl, List.mem_cons_self⟩

theorem evaluate_challenged {router : CommandRouter ω} {taskId : Int} {action : String}
    (goal : String) (score : PyFloat) (overrode : Bool) {s : RouterState ω}
    (challenged : (taskId, normalizeAction router.py action) ∈ s.challenge.challengedKeys) :
    router.challengeLogic.evaluate router.py (RouterState.challengeLens ω) router.utcNowIso
      taskId action goal score overrode s = (.ok none, s) := by
  have held : s.challenge.challengedKeys.contains
      (taskId, normalizeAction router.py action) = true :=
    List.contains_iff_mem.mpr challenged
  unfold ChallengeLogic.evaluate
  rw [Comp.bind_of_ok (challenge_read s)]
  split
  · rfl
  · split
    · rfl
    -- the third test finds the key
    · rfl

/-! ## Keys are never forgotten -/

def KeysGrow (s s' : RouterState ω) : Prop :=
  s.challenge.challengedKeys ⊆ s'.challenge.challengedKeys ∧
    s.challenge.rejectedKeys ⊆ s'.challenge.rejectedKeys

instance : Std.Refl (KeysGrow (ω := ω)) := ⟨fun _ => ⟨fun _ held => held, fun _ held => held⟩⟩

instance : IsTrans (RouterState ω) KeysGrow :=
  ⟨fun _ _ _ first second =>
    ⟨fun _ held => second.1 (first.1 held), fun _ held => second.2 (first.2 held)⟩⟩

theorem keysGrow_of_eq {s s' : RouterState ω} (same : s'.challenge = s.challenge) :
    KeysGrow s s' := by
  unfold KeysGrow
  rw [same]
  exact ⟨fun _ held => held, fun _ held => held⟩

theorem keysGrow_of_unchanged {m : Comp Exc (RouterState ω) α}
    (keeps : m.Preserves (Comp.Unchanged RouterState.challenge)) : m.Preserves KeysGrow :=
  fun s => keysGrow_of_eq (keeps s)

theorem keysGrow_evaluateChallenge (router : CommandRouter ω) (intent : NormalizedIntent)
    (definition : ActionDefinition ω) :
    (router.evaluateChallenge intent definition).Preserves KeysGrow := by
  refine router.preserves_evaluateChallenge intent definition (fun s key => ?_) fun _ =>
    keysGrow_of_eq rfl
  exact ⟨fun _ held => List.mem_cons_of_mem key held, fun _ held => held⟩

theorem keysGrow_reject (router : CommandRouter ω) (auditId : String) (intent : NormalizedIntent)
    (action : Action) (errorCode : ErrorCode) (metadata : Dict) :
    (router.reject auditId intent action errorCode metadata).Preserves KeysGrow :=
  fun _ => keysGrow_of_eq rfl

theorem keysGrow_rejectShape (router : CommandRouter ω) (auditId : String)
    (intentObject : Value) : (router.rejectShape auditId intentObject).Preserves KeysGrow := by
  unfold CommandRouter.rejectShape
  split
  · refine Comp.preserves_bind ?_ fun timestamp => fun _ => keysGrow_of_eq rfl
    refine Comp.preserves_handle (Comp.preserves_ofExcept _) fun exc => ?_
    split
    · exact fun _ => keysGrow_of_eq rfl
    · exact Comp.preserves_raise _
  · exact Comp.preserves_raise _

theorem keysGrow_runDefinition (router : CommandRouter ω) (auditId : String)
    (intent : NormalizedIntent) {definition : ActionDefinition ω}
    (registered : router.registry.lookup intent.intentType = some definition) :
    (router.runDefinition auditId intent definition).Preserves KeysGrow := by
  have handles := keysGrow_of_unchanged
    (CommandRouter.preserves_handler (fun _ _ => rfl) registered intent.entities)
  unfold CommandRouter.runDefinition
  split
  · split
    · exact keysGrow_reject router _ _ _ _ _
    · exact Comp.preserves_raise _
  · refine Comp.preserves_bind (keysGrow_evaluateChallenge router intent definition) fun found => ?_
    split
    · exact fun _ => keysGrow_of_eq rfl
    · refine Comp.preserves_handle ?_ fun exc => keysGrow_reject router _ _ _ _ _
      exact Comp.preserves_bind handles fun execution => fun _ => keysGrow_of_eq rfl

/-- A routed intent adds challenge keys and takes none back. -/
theorem keysGrow_route (router : CommandRouter ω) (intentObject : Value) :
    (router.route intentObject).Preserves KeysGrow := by
  have validates : (router.validateAndNormalizeIntent intentObject).Preserves KeysGrow :=
    fun s => keysGrow_of_eq (Settled.parts (settled_validate router intentObject s)).2.2.1
  unfold CommandRouter.route
  refine Comp.preserves_bind (fun _ => keysGrow_of_eq rfl) fun auditId => ?_
  refine Comp.preserves_bind (Comp.preserves_attempt validates) fun attempted => ?_
  cases attempted with
  | error exc =>
    dsimp only
    split
    · exact keysGrow_rejectShape router auditId intentObject
    · exact Comp.preserves_raise _
  | ok intent =>
    dsimp only [CommandRouter.routeIntent]
    split
    · exact keysGrow_reject router _ _ _ _ _
    · cases registered : router.registry.lookup intent.intentType with
      | none => exact keysGrow_reject router _ _ _ _ _
      | some definition => exact keysGrow_runDefinition router auditId intent registered

theorem keysGrow_step (router : CommandRouter ω) (vectors : VectorMemory ω) (s : RouterState ω)
    (call : RouterCall) : KeysGrow s (routerStep router vectors s call) := by
  cases call with
  | route intentObject => exact keysGrow_route router intentObject s
  | memory call => exact keysGrow_of_eq rfl
  | recordResponse taskId proposedAction accepted =>
    refine ⟨fun _ held => ?_, fun _ held => ?_⟩
    · cases accepted <;> exact held
    · cases accepted with
      | true => exact held
      | false => exact List.mem_cons_of_mem _ held

/-! ## One call -/

/-- Only a NaN in the entities is read as a NaN. -/
theorem alignmentScore_ne_nan {py : Runtime} {entities : Dict} {score : PyFloat}
    (checked : checkAlignment py entities = .ok ())
    (read : alignmentScore py entities = .ok score)
    (number : Dict.get entities "alignment_score" ≠ .float .nan) : score ≠ .nan := by
  unfold alignmentScore at read
  cases given : entities.lookup "alignment_score" with
  | none =>
    simp only [Dict.getD, given, Option.getD_none, Python.float] at read
    cases read
    simp
  | some v =>
    simp only [Dict.get, Dict.getD, given, Option.getD_some] at read number
    simp only [checkAlignment, Dict.get, Dict.getD, given, Option.getD_some] at checked
    cases v with
    | float x =>
      cases read
      rintro rfl
      exact number rfl
    | int n =>
      simp only [Python.float] at read
      split at read
      · rename_i x converted
        cases read
        exact Python.floatOfInt_ne_nan converted
      · cases read
    | bool b =>
      cases read
      simp
    | str text => cases checked
    | _ => cases read

/-- The entity check and the kind of a definition that can be challenged. -/
theorem challengeable_validator {router : CommandRouter ω} {intentType : String}
    {definition : ActionDefinition ω}
    (registered : router.registry.lookup intentType = some definition)
    (challengeable : definition.challengeable = true) :
    definition.validator = validateTaskReferenceEntities router.py := by
  rcases CommandRouter.registry_cases registered with ⟨rfl, -⟩ | ⟨rfl | rfl, -⟩
  · cases challengeable
  · rfl
  · rfl

theorem alignment_checked {py : Runtime} {entities : Dict}
    (valid : validateTaskReferenceEntities py entities = .ok ()) :
    checkAlignment py entities = .ok () := by
  unfold validateTaskReferenceEntities at valid
  cases referred : checkReference entities with
  | error exc =>
    rw [referred] at valid
    cases valid
  | ok done =>
    rw [referred] at valid
    exact valid

/-- A challenge of the gate comes from an evaluation of the resolved task. -/
theorem evaluateChallenge_some {router : CommandRouter ω} {intent : NormalizedIntent}
    {definition : ActionDefinition ω} {s t : RouterState ω} {payload : ChallengePayload}
    (challenged : router.evaluateChallenge intent definition s = (.ok (some payload), t)) :
    definition.challengeable = true ∧ ∃ task score,
      CommandRouter.resolve router.taskStore s.memory.tasks intent.entities = .ok task ∧
        alignmentScore router.py intent.entities = .ok score ∧
        (Dict.getD intent.entities "user_overrode" (.bool false)).truthy = false ∧
        keyOf router.py task.taskId definition.actionType ∉ s.challenge.rejectedKeys ∧
        keyOf router.py task.taskId definition.actionType ∉ s.challenge.challengedKeys ∧
        router.challengeLogic.challengeThreshold.le score = false ∧
        payload.taskId = task.taskId ∧
        keyOf router.py task.taskId definition.actionType ∈ t.challenge.challengedKeys := by
  by_cases off : router.enableChallengeGate = false ∨ definition.challengeable = false
  · rw [evaluateChallenge_skipped router intent definition s off] at challenged
    cases challenged
  · simp only [not_or, Bool.not_eq_false] at off
    rw [evaluateChallenge_open off.1 off.2] at challenged
    refine ⟨off.2, ?_⟩
    cases resolved : CommandRouter.resolve router.taskStore s.memory.tasks intent.entities with
    | error exc =>
      rw [resolved] at challenged
      simp only [CommandRouter.evaluateResolved] at challenged
      split at challenged <;> cases challenged
    | ok task =>
      rw [resolved] at challenged
      obtain ⟨score, s₁, scored, rest⟩ := Comp.of_bind_ok challenged
      obtain ⟨read, rfl⟩ := Prod.mk.inj scored
      obtain ⟨goal, s₂, printed, rest⟩ := Comp.of_bind_ok rest
      obtain ⟨-, rfl⟩ := Prod.mk.inj printed
      obtain ⟨attentive, unrejected, unchallenged, misaligned, named, held⟩ := evaluate_some rest
      exact ⟨task, score, rfl, read, attentive, unrejected, unchallenged, misaligned, named, held⟩

/-- Tasks and challenges are as they were once the intent is validated. -/
theorem kept_of_validated {router : CommandRouter ω} {s t : RouterState ω} {intentObject : Value}
    {intent : Except Exc NormalizedIntent}
    (validated : router.validateAndNormalizeIntent intentObject (router.uuid4 s).2 = (intent, t)) :
    t.memory.tasks = s.memory.tasks ∧ t.challenge = s.challenge := by
  obtain ⟨tasks, -, keys, -⟩ :=
    Settled.parts (settled_validate router intentObject (router.uuid4 s).2)
  rw [validated] at tasks keys
  exact ⟨tasks, keys⟩

/-- All that is known of a challenge when it is returned. -/
theorem challenges_spec {router : CommandRouter ω} {s : RouterState ω} {intentObject : Value}
    {taskId : Int} {action : Action} (challenged : Challenges router s intentObject taskId action) :
    ∃ entities task score, Names router s.memory.tasks intentObject entities task action ∧
      task.taskId = taskId ∧ checkAlignment router.py entities = .ok () ∧
      alignmentScore router.py entities = .ok score ∧
      router.challengeLogic.challengeThreshold.le score = false ∧
      (Dict.getD entities "user_overrode" (.bool false)).truthy = false ∧
      keyOf router.py taskId action ∉ s.challenge.rejectedKeys ∧
      keyOf router.py taskId action ∉ s.challenge.challengedKeys ∧
      keyOf router.py taskId action ∈
        (router.route intentObject s).2.challenge.challengedKeys := by
  obtain ⟨result, s', payload, returned, status, acted, carried, named⟩ := challenged
  have answered : result.status ≠ .rejected := by simp [status]
  obtain ⟨auditId, intent, definition, found, checked, evaluated, answer, finished⟩ :=
    CommandRouter.route_answered returned answered
  rcases finished with ⟨challenge, rfl, -, type, payloads, keys⟩ | ⟨-, executed, -⟩
  · obtain ⟨sameTasks, sameKeys⟩ := kept_of_validated answer.validated
    obtain ⟨challengeable, task, score, resolved, read, attentive, unrejected, unchallenged,
      misaligned, issued, held⟩ := evaluateChallenge_some answer.challenge
    have same : challenge = payload := Option.some.inj (payloads.symm.trans carried)
    subst same
    have task_named : task.taskId = taskId := issued.symm.trans named
    have acts : definition.actionType = action := type.symm.trans acted
    rw [task_named, acts, sameKeys] at unrejected unchallenged
    rw [task_named, acts, ← keys] at held
    rw [sameTasks] at resolved
    obtain ⟨fields, rfl, accepted⟩ := accepted_of_validated answer.validated
    have valid := answer.valid
    rw [challengeable_validator answer.registered challengeable] at valid
    rw [returned]
    exact ⟨intent.entities, task, score,
      ⟨⟨fields, intent.intentType, definition, rfl, accepted.mapped, accepted.typed,
        answer.registered, challengeable, acts⟩, resolved⟩,
      task_named, alignment_checked valid, read, misaligned, attentive, unrejected, unchallenged,
      held⟩
  · rw [executed] at status
    cases status

/-! ## Past the gate -/

theorem runDefinition_ungated {router : CommandRouter ω} (auditId : String)
    {intent : NormalizedIntent} {definition : ActionDefinition ω} {s : RouterState ω}
    (passes : definition.validator intent.entities = .ok () →
      router.evaluateChallenge intent definition s = (.ok none, s)) :
    router.runDefinition auditId intent definition s =
      (ungated router).runDefinition auditId intent definition s := by
  unfold CommandRouter.runDefinition
  cases valid : definition.validator intent.entities with
  | error exc => rfl
  | ok done =>
    have skipped := evaluateChallenge_skipped (ungated router) intent definition s (Or.inl rfl)
    dsimp only
    rw [Comp.bind_of_ok (passes valid), Comp.bind_of_ok skipped]
    rfl

/-- An intent that the gate lets through is answered as without a gate. -/
theorem route_ungated {router : CommandRouter ω} {intentObject : Value} {s : RouterState ω}
    (passes : ∀ intent definition t,
      router.validateAndNormalizeIntent intentObject (router.uuid4 s).2 = (.ok intent, t) →
      router.registry.lookup intent.intentType = some definition →
      definition.validator intent.entities = .ok () →
      router.evaluateChallenge intent definition t = (.ok none, t)) :
    router.route intentObject s = (ungated router).route intentObject s := by
  obtain ⟨auditId, t, drawn, named⟩ : ∃ auditId t, router.uuid4 s = (.ok auditId, t) ∧
      (router.uuid4 s).2 = t := ⟨_, _, rfl, rfl⟩
  rw [named] at passes
  rcases validated : router.validateAndNormalizeIntent intentObject t with ⟨r, u⟩
  have attempted : Comp.attempt (router.validateAndNormalizeIntent intentObject) t =
      (.ok r, u) := by rw [Comp.attempt, validated]
  have drawnUngated : (ungated router).uuid4 s = (.ok auditId, t) := drawn
  have attemptedUngated : Comp.attempt
      ((ungated router).validateAndNormalizeIntent intentObject) t = (.ok r, u) := attempted
  rw [CommandRouter.route, Comp.bind_of_ok drawn, Comp.bind_of_ok attempted, CommandRouter.route,
    Comp.bind_of_ok drawnUngated, Comp.bind_of_ok attemptedUngated]
  cases r with
  | error exc => rfl
  | ok intent =>
    have sameRegistry : (ungated router).registry = router.registry := rfl
    have sameThreshold : (ungated router).minConfidence = router.minConfidence := rfl
    simp only [CommandRouter.routeIntent, sameRegistry, sameThreshold]
    split
    · rfl
    · cases registered : router.registry.lookup intent.intentType with
      | none => rfl
      | some definition =>
        exact runDefinition_ungated auditId (passes intent definition u validated registered)

/-- The intent that a router makes of an object that names a task and an action. -/
theorem Names.of_validated {router : CommandRouter ω} {s t : RouterState ω} {intentObject : Value}
    {entities : Dict} {task : TaskRecord} {action : Action} {intent : NormalizedIntent}
    {definition : ActionDefinition ω}
    (names : Names router s.memory.tasks intentObject entities task action)
    (validated : router.validateAndNormalizeIntent intentObject (router.uuid4 s).2 =
      (.ok intent, t))
    (found : router.registry.lookup intent.intentType = some definition) :
    intent.entities = entities ∧ definition.challengeable = true ∧
      definition.actionType = action ∧ t.memory.tasks = s.memory.tasks ∧
      t.challenge = s.challenge := by
  obtain ⟨fields, intentType, named, rfl, mapped, typed, registered, challengeable, rfl⟩ :=
    names.asked
  obtain ⟨_, same, accepted⟩ := accepted_of_validated validated
  cases same
  have sameEntities : intent.entities = entities := by
    simpa using accepted.mapped.symm.trans mapped
  have sameType : intent.intentType = intentType := by
    simpa using accepted.typed.symm.trans typed
  rw [sameType, registered] at found
  cases found
  exact ⟨sameEntities, challengeable, rfl, kept_of_validated validated⟩

/-- An intent for a challenged task and action passes the gate. -/
theorem unblocked_of_challenged {router : CommandRouter ω} {s : RouterState ω}
    {intentObject : Value} {entities : Dict} {task : TaskRecord} {action : Action}
    (names : Names router s.memory.tasks intentObject entities task action)
    (challenged : keyOf router.py task.taskId action ∈ s.challenge.challengedKeys) :
    Unblocked router s intentObject entities := by
  refine ⟨fun result s' returned status => ?_, fun scored printable => ?_⟩
  · have answered : result.status ≠ .rejected := by simp [status]
    obtain ⟨_, intent, definition, payload, checked, evaluated, answer, finished⟩ :=
      CommandRouter.route_answered returned answered
    obtain ⟨sameEntities, -, rfl, sameTasks, sameKeys⟩ :=
      names.of_validated answer.validated answer.registered
    rcases finished with ⟨challenge, rfl, -⟩ | ⟨-, executed, -⟩
    · obtain ⟨-, found, _, resolved, -, -, -, unchallenged, -⟩ :=
        evaluateChallenge_some answer.challenge
      rw [sameTasks, sameEntities, names.resolves] at resolved
      cases resolved
      rw [sameKeys] at unchallenged
      exact unchallenged challenged
    · rw [executed] at status
      cases status
  · refine route_ungated fun intent definition t validated found valid => ?_
    obtain ⟨sameEntities, challengeable, rfl, sameTasks, sameKeys⟩ :=
      names.of_validated validated found
    rw [challengeable_validator found challengeable, sameEntities] at valid
    by_cases gate : router.enableChallengeGate = false
    · exact evaluateChallenge_skipped router intent definition t (Or.inl gate)
    · rw [evaluateChallenge_open (Bool.not_eq_false _ ▸ gate) challengeable, sameTasks,
        sameEntities, names.resolves]
      rcases alignment_float (alignment_checked valid) with ⟨null, -⟩ | ⟨-, score, converted⟩
      · exact absurd null scored
      · rcases str_getD_cases router.py entities "declared_goal" (task.goal.getD "") with
          ⟨-, goal, printed⟩ | ⟨unprintable, -⟩
        · simp only [CommandRouter.evaluateResolved, sameEntities, converted, printed,
            Comp.ofExcept_ok_bind]
          rw [← sameKeys] at challenged
          exact evaluate_challenged goal score _ challenged
        · rw [printable] at unprintable
          cases unprintable

/-! ## Every run -/

/-- What warrants a challenge of the action on the task after these calls: nothing against
it in the intent, no rejection and no challenge before. -/
structure Warranted (router : CommandRouter ω) (vectors : VectorMemory ω) (start : RouterState ω)
    (before : List RouterCall) (entities : Dict) (task : TaskRecord) (action : Action) : Prop where
  attentive : (Dict.getD entities "user_overrode" (.bool false)).truthy = false
  misaligned : ∃ score, alignmentScore router.py entities = .ok score ∧
    score.lt router.challengeLogic.challengeThreshold = true
  unrejected : ∀ call ∈ before, ¬Rejects router.py call task.taskId action
  unchallenged : ∀ earlier intentObject later, before = earlier ++ .route intentObject :: later →
    ¬Challenges router (run (routerStep router vectors) start earlier) intentObject task.taskId
      action

/-- Every challenge of the run is warranted, and after a challenge nothing that asks for the
same action on the same task is blocked. -/
def ChallengedOnce (router : CommandRouter ω) (vectors : VectorMemory ω) (start : RouterState ω)
    (calls : List RouterCall) : Prop :=
  ∀ before intentObject after s, calls = before ++ .route intentObject :: after →
    run (routerStep router vectors) start before = s →
    (∀ taskId action, Challenges router s intentObject taskId action →
      ∃ entities task, Names router s.memory.tasks intentObject entities task action ∧
        task.taskId = taskId ∧ Warranted router vectors start before entities task action) ∧
    ∀ earlier challenged later entities task action,
      before = earlier ++ .route challenged :: later →
      Challenges router (run (routerStep router vectors) start earlier) challenged task.taskId
        action →
      Names router s.memory.tasks intentObject entities task action →
      Unblocked router s intentObject entities

theorem keysGrow_run (router : CommandRouter ω) (vectors : VectorMemory ω) (s : RouterState ω)
    (calls : List RouterCall) : KeysGrow s (run (routerStep router vectors) s calls) :=
  run_invariant (fun t call grown => IsTrans.trans s t _ grown (keysGrow_step router vectors t call)) s
    (refl s) calls

/-- What a call adds to the keys is among them at the end of the run. -/
theorem keysGrow_after (router : CommandRouter ω) (vectors : VectorMemory ω) (s : RouterState ω)
    (earlier later : List RouterCall) (call : RouterCall) :
    KeysGrow (routerStep router vectors (run (routerStep router vectors) s earlier) call)
      (run (routerStep router vectors) s (earlier ++ call :: later)) := by
  rw [run_append, run_cons]
  exact keysGrow_run router vectors _ later

theorem challenged_remembered {router : CommandRouter ω} {vectors : VectorMemory ω}
    {s : RouterState ω} {earlier later : List RouterCall} {intentObject : Value} {taskId : Int}
    {action : Action} (challenged : Challenges router (run (routerStep router vectors) s earlier)
      intentObject taskId action) :
    keyOf router.py taskId action ∈ (run (routerStep router vectors) s
      (earlier ++ .route intentObject :: later)).challenge.challengedKeys := by
  obtain ⟨_, _, _, -, -, -, -, -, -, -, -, held⟩ := challenges_spec challenged
  exact (keysGrow_after router vectors s earlier later (.route intentObject)).1 held

theorem rejected_remembered {router : CommandRouter ω} {vectors : VectorMemory ω}
    {s : RouterState ω} {before : List RouterCall} {call : RouterCall} {taskId : Int}
    {action : Action} (made : call ∈ before) (rejects : Rejects router.py call taskId action) :
    keyOf router.py taskId action ∈
      (run (routerStep router vectors) s before).challenge.rejectedKeys := by
  obtain ⟨earlier, later, rfl⟩ := List.append_of_mem made
  obtain ⟨proposedAction, rfl, same⟩ := rejects
  refine (keysGrow_after router vectors s earlier later _).2 ?_
  rw [← same]
  exact List.mem_cons_self

/-- With a threshold, in every run of calls whose alignment scores are no NaN, a challenge is
warranted and given once for each task and action. -/
theorem challenged_once (router : CommandRouter ω) (vectors : VectorMemory ω)
    (configured : router.challengeLogic.challengeThreshold ≠ .nan) (start : RouterState ω)
    (calls : List RouterCall) (aligned : ∀ call ∈ calls, Aligned call) :
    ChallengedOnce router vectors start calls := by
  intro before intentObject after s split reached
  refine ⟨fun taskId action challenged => ?_, ?_⟩
  · obtain ⟨entities, task, score, names, named, checked, read, misaligned, attentive, unrejected,
      unchallenged, -⟩ := challenges_spec challenged
    subst named
    refine ⟨entities, task, names, rfl, attentive, ⟨score, read, ?_⟩, ?_, ?_⟩
    · obtain ⟨fields, _, _, rfl, mapped, -⟩ := names.asked
      have number : Dict.get entities "alignment_score" ≠ .float .nan :=
        aligned (.route (.dict fields)) (by simp [split]) fields entities rfl mapped
      exact PyFloat.lt_of_not_le (alignmentScore_ne_nan checked read number) configured misaligned
    · intro call made rejects
      rw [← reached] at unrejected
      exact unrejected (rejected_remembered made rejects)
    · intro earlier other later before_eq again
      rw [← reached, before_eq] at unchallenged
      exact unchallenged (challenged_remembered again)
  · intro earlier challenged later entities task action before_eq issued names
    apply unblocked_of_challenged names
    rw [← reached, before_eq]
    exact challenged_remembered issued

/-- A complete intent by id with this alignment score. -/
def completion (score : PyFloat) : Value := .dict
  [("intent_type", .str "mark_completed"),
    ("entities", .dict [("task_id", .int 1), ("alignment_score", .float score)]),
    ("timestamp", .datetime ⟨Python.firstInstant, none⟩), ("confidence_score", .float (.finite 1))]

theorem challenged_once_completion :
    ChallengedOnce localRouter localModules.vectors (newState 0)
      (activation ++ [.route (completion (.finite 0)), .route (completion (.finite 0))]) := by
  apply challenged_once localRouter localModules.vectors (by decide)
  intro call member
  simp only [activation, List.cons_append, List.nil_append, List.mem_cons, List.not_mem_nil,
    or_false] at member
  rcases member with rfl | rfl | rfl | rfl
  · trivial
  · trivial
  · intro fields entities same mapped
    cases same
    cases mapped
    simp [Dict.get, Dict.getD, List.lookup_cons]
  · intro fields entities same mapped
    cases same
    cases mapped
    simp [Dict.get, Dict.getD, List.lookup_cons]

/-- A NaN is not below the threshold and is challenged. -/
theorem nan_challenged : ¬ChallengedOnce localRouter localModules.vectors (newState 0)
    (activation ++ [.route (completion .nan)]) := by
  intro once
  obtain ⟨warranted, -⟩ := once activation (completion .nan) [] activated rfl rfl
  have issued : (localRouter.route (completion .nan) activated).1.toOption.map
      (fun result => (result.status, result.action, result.challengePayload.map
        ChallengePayload.taskId)) = some (.challengeRequired, .completeTask, some 1) := by
    decide +kernel
  rcases ran : localRouter.route (completion .nan) activated with ⟨r, s'⟩
  rw [ran] at issued
  cases r with
  | error exc => cases issued
  | ok result =>
    obtain ⟨status, acted, carried⟩ : result.status = .challengeRequired ∧
        result.action = .completeTask ∧
        result.challengePayload.map ChallengePayload.taskId = some 1 := by
      simpa only [Prod.mk.injEq] using Option.some.inj issued
    obtain ⟨payload, given, named⟩ := Option.map_eq_some_iff.mp carried
    obtain ⟨entities, task, names, -, ⟨-, misaligned, -, -⟩⟩ :=
      warranted 1 .completeTask ⟨result, s', payload, ran, status, acted, given, named⟩
    obtain ⟨fields, _, _, same, mapped, -⟩ := names.asked
    cases same
    cases mapped
    obtain ⟨score, read, below⟩ := misaligned
    cases read
    cases below

end Apcos.Guarantees.ChallengeOnce
