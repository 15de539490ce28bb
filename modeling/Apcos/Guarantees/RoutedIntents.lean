import Apcos.Guarantees.LegacyStore
import Apcos.Guarantees.RouterAudit

/-!
# What a routed intent can do

core/cognition/command_router.py:98-296, 455-532 with the default registry over a task
store without bridges. An intent is refused and leaves the tasks table and the transition
log alone, or goes through validation, challenge and handler, which adds one row, moves
one row, or finds it where it should be.
-/
namespace Apcos.Guarantees.RoutedIntents

open Apcos.Lib
open Apcos.Source
open Apcos.Source.Python (Value Dict Exc DateTime)
open Apcos.Source.Memory
open Apcos.Source.Cognition
open Apcos.Guarantees.RouterAudit (Accepted accepted_of_validated evaluateChallenge_skipped)

variable {ω α : Type}

/-- No bridges and no external authorizer; the flags are arbitrary. -/
structure Unbridged (store : TaskStore ω) : Prop where
  storageBridge : store.storageBridge = none
  memoryBridgeArgument : store.memoryBridgeArgument = none
  transitionAuthorizer : store.lifecycle.transitionAuthorizer = none

/-- The tasks table and the transition log. -/
def ledger (s : RouterState ω) : TaskTable × List TransitionRecord :=
  (s.memory.tasks, s.memory.transitionLog)

def SameLedger : RouterState ω → RouterState ω → Prop := Comp.Unchanged ledger

/-- The final state an intent of this type asks for. -/
def FinalOf (intentType : String) (state : TaskState) : Prop :=
  ((intentType = "complete_task" ∨ intentType = "mark_completed") ∧ state = .completed) ∨
    ((intentType = "cancel_task" ∨ intentType = "archive_task") ∧ state = .archived)

/-- What an executed intent of this type has done, with the states the audit event tells
before and after. -/
inductive Executed (intentType : String) (s s' : RouterState ω) (metadata : Dict) :
    Option String → Option String → Prop
  | created (row : TaskRow) (asked : intentType = "create_task" ∨ intentType = "schedule_task")
      (fresh : s.memory.tasks.find row.id = none) (initial : row.state = .created)
      (rows : s'.memory.tasks.rows = s.memory.tasks.rows ++ [row])
      (log : s'.memory.transitionLog = s.memory.transitionLog)
      (named : metadata = [("task_id", .int row.id)]) :
      Executed intentType s s' metadata none (some row.state.value)
  | moved (row row' : TaskRow) (changedAtUtc : DateTime) (final : FinalOf intentType row'.state)
      (found : s.memory.tasks.find row.id = some row)
      (permitted : legacyAllowed row.state row'.state = true)
      (kept : row' = { row with
        state := row'.state, updatedAt := row'.updatedAt, archivedAt := row'.archivedAt })
      (rows : s'.memory.tasks.rows =
        s.memory.tasks.rows.map fun other => if other.id = row.id then row' else other)
      (log : s'.memory.transitionLog =
        s.memory.transitionLog ++ [⟨row.id, row.state, row'.state, changedAtUtc⟩])
      (named : metadata = [("task_id", .int row.id)]) :
      Executed intentType s s' metadata (some row.state.value) (some row'.state.value)
  | unchanged (row : TaskRow) (final : FinalOf intentType row.state)
      (found : s.memory.tasks.find row.id = some row) (same : SameLedger s s')
      (named : metadata = [("task_id", .int row.id), ("idempotent", .bool true)]) :
      Executed intentType s s' metadata (some row.state.value) (some row.state.value)

/-! ## Steps that leave the store alone -/

/-- Table, log, challenge and audit events. -/
def settled (s : RouterState ω) :
    TaskTable × List TransitionRecord × ChallengeState × List AuditEvent :=
  (s.memory.tasks, s.memory.transitionLog, s.challenge, s.auditEvents)

def Settled : RouterState ω → RouterState ω → Prop := Comp.Unchanged settled

theorem Settled.parts {s s' : RouterState ω} (same : Settled s s') :
    s'.memory.tasks = s.memory.tasks ∧ s'.memory.transitionLog = s.memory.transitionLog ∧
      s'.challenge = s.challenge ∧ s'.auditEvents = s.auditEvents := by
  have equal : settled s' = settled s := same
  simpa only [settled, Prod.mk.injEq] using equal

theorem Settled.ledger {s s' : RouterState ω} (same : Settled s s') : SameLedger s s' := by
  obtain ⟨tasks, log, -, -⟩ := same.parts
  change RoutedIntents.ledger s' = RoutedIntents.ledger s
  rw [RoutedIntents.ledger, RoutedIntents.ledger, tasks, log]

theorem settled_validate (router : CommandRouter ω) (intentObject : Value) :
    (router.validateAndNormalizeIntent intentObject).Preserves (Comp.Unchanged settled) := by
  unfold CommandRouter.validateAndNormalizeIntent
  split
  · refine Comp.preserves_bind (Comp.preserves_ofExcept _) fun shape => ?_
    refine Comp.preserves_bind (fun s => rfl) fun drawn => ?_
    refine Comp.preserves_bind (Comp.preserves_ofExcept _) fun intentId => ?_
    refine Comp.preserves_bind (Comp.preserves_ofExcept _) fun timestamp => ?_
    exact Comp.preserves_pure _
  · exact Comp.preserves_raise _

theorem sameLedger_emit (router : CommandRouter ω) (auditId : String) (intentId : Value)
    (timestamp : String) (action : Action) (lifecycleBefore lifecycleAfter : Option String)
    (flag : Bool) (entities : Dict) :
    (router.emitAuditEvent auditId intentId timestamp action lifecycleBefore lifecycleAfter flag
      entities).Preserves (Comp.Unchanged ledger) := fun _ => rfl

theorem sameLedger_reject (router : CommandRouter ω) (auditId : String) (intent : NormalizedIntent)
    (action : Action) (errorCode : ErrorCode) (metadata : Dict) :
    (router.reject auditId intent action errorCode metadata).Preserves (Comp.Unchanged ledger) :=
  fun _ => rfl

theorem sameLedger_rejectShape (router : CommandRouter ω) (auditId : String)
    (intentObject : Value) :
    (router.rejectShape auditId intentObject).Preserves (Comp.Unchanged ledger) := by
  unfold CommandRouter.rejectShape
  split
  · refine Comp.preserves_bind ?_ fun timestamp => ?_
    · refine Comp.preserves_handle (Comp.preserves_ofExcept _) fun exc => ?_
      split
      · exact fun _ => rfl
      · exact Comp.preserves_raise _
    · refine Comp.preserves_bind (sameLedger_emit router _ _ _ _ _ _ _ _) fun _ => ?_
      exact Comp.preserves_pure _
  · exact Comp.preserves_raise _

/-! ## The challenge -/

theorem sameLedger_evaluateChallenge (router : CommandRouter ω) (intent : NormalizedIntent)
    (definition : ActionDefinition ω) :
    (router.evaluateChallenge intent definition).Preserves (Comp.Unchanged ledger) :=
  router.preserves_evaluateChallenge intent definition (fun _ _ => rfl) fun _ => rfl

/-- An action that is not challenged leaves no trace, and is not challenged again in a state
with the same keys. -/
theorem evaluate_none {router : CommandRouter ω} {taskId : Int} {action goal : String}
    {score : Python.PyFloat} {overrode : Bool} {s t : RouterState ω}
    (passed : router.challengeLogic.evaluate router.py (RouterState.challengeLens ω)
      router.utcNowIso taskId action goal score overrode s = (.ok none, t)) :
    t = s ∧ ∀ u : RouterState ω, u.challenge = s.challenge →
      router.challengeLogic.evaluate router.py (RouterState.challengeLens ω) router.utcNowIso taskId
        action goal score overrode u = (.ok none, u) := by
  have read (v : RouterState ω) : (Comp.zoom (RouterState.challengeLens ω) Comp.get :
      Comp Exc (RouterState ω) ChallengeState) v = (.ok v.challenge, v) := rfl
  unfold ChallengeLogic.evaluate at passed ⊢
  rw [Comp.bind_of_ok (read s)] at passed
  split at passed
  next overrode =>
    refine ⟨(Prod.mk.inj passed).2.symm, fun u same => ?_⟩
    rw [Comp.bind_of_ok (read u), if_pos overrode]
    rfl
  next attentive =>
    split at passed
    next rejected =>
      refine ⟨(Prod.mk.inj passed).2.symm, fun u same => ?_⟩
      rw [Comp.bind_of_ok (read u), same, if_neg attentive, if_pos rejected]
      rfl
    next unrejected =>
      split at passed
      next challenged =>
        refine ⟨(Prod.mk.inj passed).2.symm, fun u same => ?_⟩
        rw [Comp.bind_of_ok (read u), same, if_neg attentive, if_neg unrejected,
          if_pos challenged]
        rfl
      next unchallenged =>
        split at passed
        next aligned =>
          refine ⟨(Prod.mk.inj passed).2.symm, fun u same => ?_⟩
          rw [Comp.bind_of_ok (read u), same, if_neg attentive, if_neg unrejected,
            if_neg unchallenged, if_pos aligned]
          rfl
        next misaligned => cases passed

theorem evaluateChallenge_open {router : CommandRouter ω} {intent : NormalizedIntent}
    {definition : ActionDefinition ω} (gate : router.enableChallengeGate = true)
    (challengeable : definition.challengeable = true) (s : RouterState ω) :
    router.evaluateChallenge intent definition s = router.evaluateResolved intent definition
      (CommandRouter.resolve router.taskStore s.memory.tasks intent.entities) s := by
  have attempted : Comp.attempt (router.resolveTaskReference intent.entities) s =
      (.ok (CommandRouter.resolve router.taskStore s.memory.tasks intent.entities), s) := rfl
  rw [CommandRouter.evaluateChallenge, gate, challengeable]
  exact Comp.bind_of_ok attempted

/-- A resolved intent that passes unchallenged leaves no trace, and passes again for the same
task and goal in a state with the same keys. -/
theorem evaluateResolved_none {router : CommandRouter ω} {intent again : NormalizedIntent}
    {definition : ActionDefinition ω} {task task' : TaskRecord} {s t : RouterState ω}
    (passed : router.evaluateResolved intent definition (.ok task) s = (.ok none, t))
    (entities : again.entities = intent.entities) (id : task'.taskId = task.taskId)
    (goal : task'.goal = task.goal) :
    t = s ∧ ∀ u : RouterState ω, u.challenge = s.challenge →
      router.evaluateResolved again definition (.ok task') u = (.ok none, u) := by
  obtain ⟨score, s₁, scored, rest⟩ := Comp.of_bind_ok passed
  obtain ⟨converted, rfl⟩ := Prod.mk.inj scored
  obtain ⟨declaredGoal, s₂, printed, rest⟩ := Comp.of_bind_ok rest
  obtain ⟨text, rfl⟩ := Prod.mk.inj printed
  obtain ⟨same, repeats⟩ := evaluate_none rest
  refine ⟨same, fun u keys => ?_⟩
  simp only [CommandRouter.evaluateResolved, entities, id, goal, converted, text,
    Comp.ofExcept_ok_bind]
  exact repeats u keys

theorem evaluateChallenge_none {router : CommandRouter ω} {intent : NormalizedIntent}
    {definition : ActionDefinition ω} {s t : RouterState ω}
    (passed : router.evaluateChallenge intent definition s = (.ok none, t)) : t = s := by
  by_cases off : router.enableChallengeGate = false ∨ definition.challengeable = false
  · rw [evaluateChallenge_skipped router intent definition s off] at passed
    exact (Prod.mk.inj passed).2.symm
  · simp only [not_or, Bool.not_eq_false] at off
    rw [evaluateChallenge_open off.1 off.2] at passed
    cases resolved : CommandRouter.resolve router.taskStore s.memory.tasks intent.entities with
    | error exc =>
      rw [resolved] at passed
      simp only [CommandRouter.evaluateResolved] at passed
      split at passed
      · exact (Prod.mk.inj passed).2.symm
      · cases passed
    | ok task =>
      rw [resolved] at passed
      exact (evaluateResolved_none passed rfl rfl rfl).1

/-! ## Handlers -/

/-- A reference resolves to a row of the table. -/
theorem resolve_row {store : TaskStore ω} {tasks : TaskTable} {entities : Dict}
    {task : TaskRecord} (resolved : CommandRouter.resolve store tasks entities = .ok task) :
    ∃ row, tasks.find task.taskId = some row ∧ store.rowToRecord row = .ok task := by
  cases number : (Dict.get entities "task_id").asInt with
  | some id =>
    rw [resolve_of_id number] at resolved
    cases read : store.recordOf tasks id with
    | error exc =>
      rw [read] at resolved
      cases resolved
    | ok found =>
      rw [read] at resolved
      cases found with
      | none => cases resolved
      | some record =>
        cases resolved
        obtain ⟨-, row, found, decrypted⟩ := TaskStore.recordOf_some read
        obtain ⟨-, -, -, shape⟩ := store.rowToRecord_fields row task decrypted
        have named : task.taskId = id := by
          rw [shape]
          exact TaskTable.find_id found
        exact ⟨row, by rw [named, found], decrypted⟩
  | none =>
    simp only [CommandRouter.resolve, number] at resolved
    cases named : Python.str store.py (Dict.getD entities "task" (.str "")) with
    | error exc =>
      rw [named] at resolved
      cases resolved
    | ok name =>
      rw [named] at resolved
      simp only [bind, Except.bind] at resolved
      split at resolved
      · cases resolved
      · cases records : tasks.rows.reverse.mapM store.rowToRecord with
        | error exc =>
          rw [records] at resolved
          cases resolved
        | ok all =>
          rw [records] at resolved
          simp only at resolved
          split at resolved
          · cases resolved
          · rename_i only
            cases resolved
            have among : task ∈ all := by
              apply List.mem_of_mem_filter (p := fun task =>
                store.py.lower task.title == store.py.lower (Python.strip name))
              rw [CommandRouter.titled] at only
              rw [only]
              exact List.mem_singleton_self task
            obtain ⟨row, member, decrypted⟩ := mem_of_mapM records among
            obtain ⟨-, -, -, shape⟩ := store.rowToRecord_fields row task decrypted
            have id : task.taskId = row.id := by rw [shape]
            exact ⟨row, by rw [id, TaskTable.find_of_mem (List.mem_reverse.mp member)], decrypted⟩
          · cases resolved

/-- A handler raises and leaves everything alone, or has executed its intent; it has done
nothing where the storage gate is closed. -/
inductive HandlerOutcome (router : CommandRouter ω) (intentType : String) (s : RouterState ω) :
    Except Exc ActionExecution × RouterState ω → Prop
  | stopped (exc : Exc) (t : RouterState ω) (same : Settled s t) :
      HandlerOutcome router intentType s (.error exc, t)
  | done (execution : ActionExecution) (t : RouterState ω) (challenge : t.challenge = s.challenge)
      (audit : t.auditEvents = s.auditEvents)
      (effect : Executed intentType s t execution.metadata execution.lifecycleBefore
        execution.lifecycleAfter)
      (gated : router.taskStore.enforceStorageAuthority = true → SameLedger s t) :
      HandlerOutcome router intentType s (.ok execution, t)

/-- The storage gate of a store without bridges is open only without enforcement. -/
theorem Unbridged.ungated {store : TaskStore ω} (unbridged : Unbridged store)
    {request : Bridge.StorageRequest} {made : List Bridge.Exchange}
    (cleared : StorageCleared store.storageBridge store.enforceStorageAuthority request made) :
    store.enforceStorageAuthority = false := by
  unfold StorageCleared at cleared
  rw [unbridged.storageBridge] at cleared
  exact cleared.1

/-- A create handler adds one row, or stops without a trace. -/
theorem createHandler_outcome (router : CommandRouter ω) (unbridged : Unbridged router.taskStore)
    {intentType : String} (asked : intentType = "create_task" ∨ intentType = "schedule_task")
    (entities : Dict) (s : RouterState ω) :
    HandlerOutcome router intentType s (router.handleCreateTask entities s) := by
  unfold CommandRouter.handleCreateTask
  cases Python.int router.py (Dict.getD entities "priority" (.int 0)) with
  | error exc => exact .stopped exc s rfl
  | ok priority =>
    rw [Comp.ofExcept_ok_bind]
    cases Dict.getD entities "task" (Dict.get entities "title") with
    | str title =>
      cases CommandRouter.dueAtArgument (Dict.get entities "due_at") with
      | error exc => exact .stopped exc s rfl
      | ok dueAt =>
        dsimp only
        rw [Comp.ofExcept_ok_bind]
        rcases router.taskStore.createTask_cases title (Dict.get entities "description") dueAt
            (Dict.get entities "goal") priority s.memory with
          ⟨exc, w, made, -, raised⟩ |
            ⟨row, id, after, record, w, made, -, cleared, initial, -, insertion, read, -, returned⟩
        · have stopped : CommandRouter.onMemory (router.taskStore.createTask title
              (Dict.get entities "description") dueAt (Dict.get entities "goal") priority) s =
              (.error exc, { s with memory := { s.memory with wire := w } }) :=
            Comp.zoom_of_eq raised
          rw [Comp.bind_of_error stopped]
          exact .stopped exc _ rfl
        · have created : CommandRouter.onMemory (router.taskStore.createTask title
              (Dict.get entities "description") dueAt (Dict.get entities "goal") priority) s =
              (.ok (some record),
                { s with memory := { s.memory with tasks := after, wire := w } }) :=
            Comp.zoom_of_eq returned
          obtain ⟨-, found, present, decrypted⟩ := TaskStore.recordOf_some read
          rw [TaskTable.find_insert insertion, if_pos rfl] at present
          obtain ⟨-, -, -, shape⟩ := router.taskStore.rowToRecord_fields found record decrypted
          cases present
          have state : record.state = row.state := by rw [shape]
          have named : record.taskId = id := by rw [shape]
          have kept : ¬record.state ≠ TaskState.created := not_not_intro (state.trans initial)
          rw [Comp.bind_of_ok created]
          simp only [CommandRouter.present]
          rw [Comp.ofExcept_ok_bind, if_neg kept, state, named]
          obtain ⟨-, rows, -⟩ := TaskTable.insert_eq insertion
          refine .done _ { s with memory := { s.memory with tasks := after, wire := w } } rfl rfl
            ?_ ?_
          · exact .created { row with id } asked (TaskTable.find_fresh insertion) initial rows
              rfl rfl
          · intro enforced
            rw [unbridged.ungated cleared] at enforced
            cases enforced
    | _ => exact .stopped _ s rfl

/-- Without an external authorizer only the legacy matrix lets a transition through. -/
theorem Unbridged.permitted {store : TaskStore ω} (unbridged : Unbridged store) {env : ω}
    {taskId : Int} {source target : TaskState} {asked : List Bridge.Exchange}
    (cleared : store.TransitionCleared env taskId source target asked) :
    legacyAllowed source target = true := by
  cases fallback : store.lifecycle.allowLegacyFallback with
  | true =>
    have legacy : LegacyStore.Legacy store := ⟨unbridged.storageBridge,
      unbridged.memoryBridgeArgument, unbridged.transitionAuthorizer, fallback⟩
    exact LegacyStore.legacy_decision legacy cleared
  | false =>
    have memory : store.memoryBridge = none := by
      simp [TaskStore.memoryBridge, unbridged.memoryBridgeArgument, unbridged.storageBridge]
    rw [TaskStore.TransitionCleared, memory] at cleared
    obtain ⟨-, -, decision, decided, allowed⟩ := cleared
    rw [LifecycleManager.authorizeTransition, unbridged.transitionAuthorizer] at decided
    simp only [fallback, Bool.false_eq_true, if_false] at decided
    cases decided
    cases allowed

theorem ofValue_value (state : TaskState) : TaskState.ofValue state.value = some state := by
  cases state <;> decide

/-- With enforcement and no bridge no row was ever inserted. -/
def Grounded (router : CommandRouter ω) (s : RouterState ω) : Prop :=
  router.taskStore.enforceStorageAuthority = true → s.memory.tasks.rows = []

theorem Grounded.find {router : CommandRouter ω} {s : RouterState ω} (grounded : Grounded router s)
    (enforced : router.taskStore.enforceStorageAuthority = true) (taskId : Int) :
    s.memory.tasks.find taskId = none := by
  rw [TaskTable.find, grounded enforced]
  rfl

theorem writeState_rows {tasks : TaskTable} {row : TaskRow} (found : tasks.find row.id = some row)
    (destination : TaskState) (now : String) (archivedAt : Option String) :
    (TaskStore.writeState tasks row.id destination now archivedAt).rows =
      tasks.rows.map fun other =>
        if other.id = row.id then TaskStore.setState destination now archivedAt row else other := by
  apply List.map_congr_left
  intro other member
  by_cases same : other.id = row.id
  · rw [if_pos same, if_pos same, TaskTable.eq_of_id member (TaskTable.find_mem found) same]
  · rw [if_neg same, if_neg same]

/-- The state after a transition of a row was committed. -/
def afterMove (s : RouterState ω) (row : TaskRow) (final : TaskState) (now : String)
    (changedAtUtc : DateTime) (w : Bridge.Wire ω) : RouterState ω :=
  { s with memory := { s.memory with
    tasks := TaskStore.writeState s.memory.tasks row.id final now
      (TaskStore.archivedAtFor final now row.archivedAt)
    transitionLog := s.memory.transitionLog ++ [⟨row.id, row.state, final, changedAtUtc⟩]
    wire := w } }

/-- Both handlers of a task reference: they raise and leave everything alone, find the task in
its final state, or move its row there. -/
theorem transitionHandler_cases (router : CommandRouter ω) (unbridged : Unbridged router.taskStore)
    (actionType : Action) (final : TaskState) (entities : Dict) (s : RouterState ω)
    (grounded : Grounded router s) :
    let ran := router.handleTransition actionType final
      (fun taskId => router.taskStore.transitionTask taskId final.value) entities s
    (∃ exc t, ran = (.error exc, t) ∧ Settled s t) ∨
      ∃ task row, CommandRouter.resolve router.taskStore s.memory.tasks entities = .ok task ∧
        s.memory.tasks.find row.id = some row ∧ router.taskStore.rowToRecord row = .ok task ∧
        ((row.state = final ∧ ran = (.ok ⟨actionType, some row.state.value, some row.state.value,
            [("task_id", .int row.id), ("idempotent", .bool true)]⟩, s)) ∨
          (legacyAllowed row.state final = true ∧
            router.taskStore.enforceStorageAuthority = false ∧ ∃ now changedAtUtc w,
            ran = (.ok ⟨actionType, some row.state.value, some final.value,
              [("task_id", .int row.id)]⟩, afterMove s row final now changedAtUtc w))) := by
  intro ran
  simp only [ran, CommandRouter.handleTransition]
  cases resolved : CommandRouter.resolve router.taskStore s.memory.tasks entities with
  | error exc =>
    have raised : router.resolveTaskReference entities s = (.error exc, s) := by
      rw [CommandRouter.resolveTaskReference, resolved]
    rw [Comp.bind_of_error raised]
    exact Or.inl ⟨exc, s, rfl, rfl⟩
  | ok task =>
    have read : router.resolveTaskReference entities s = (.ok task, s) := by
      rw [CommandRouter.resolveTaskReference, resolved]
    rw [Comp.bind_of_ok read]
    obtain ⟨row, found, decrypted⟩ := resolve_row resolved
    obtain ⟨-, -, -, shape⟩ := router.taskStore.rowToRecord_fields row task decrypted
    have named : task.taskId = row.id := by rw [shape]
    have state : task.state = row.state := by rw [shape]
    rw [named] at found
    simp only [named, state]
    by_cases done : row.state = final
    · rw [if_pos done]
      exact Or.inr ⟨task, row, rfl, found, decrypted, Or.inl ⟨done, rfl⟩⟩
    · rw [if_neg done]
      rcases ran : router.taskStore.transitionTask row.id final.value s.memory with ⟨r, m⟩
      have zoomed : CommandRouter.onMemory (router.taskStore.transitionTask row.id final.value) s =
          (r, { s with memory := m }) := Comp.zoom_of_eq ran
      have outcome := router.taskStore.transitionTask_outcome row.id final.value s.memory
      rw [ran] at outcome
      cases outcome with
      | stopped exc w made grown =>
        rw [Comp.bind_of_error zoomed]
        exact Or.inl ⟨exc, _, rfl, rfl⟩
      | recorded other destination changedAtUtc exc w requests made grown present goal allowed
          blocked =>
        unfold StorageBlocked at blocked
        rw [unbridged.storageBridge] at blocked
        rw [grounded.find blocked.1] at present
        cases present
      | committed other destination changedAtUtc now record w requests made grown present goal
          allowed cleared =>
        rw [found] at present
        cases present
        rw [ofValue_value] at goal
        cases goal
        have after := TaskStore.transitionTask_reads ran
        obtain ⟨-, stored, reached, opened⟩ := TaskStore.recordOf_some after
        dsimp only at reached
        rw [TaskStore.find_writeState, if_pos rfl, found] at reached
        cases reached
        obtain ⟨-, -, -, written⟩ := router.taskStore.rowToRecord_fields _ record opened
        have moved : record.state = final := by
          rw [written]
          rfl
        rw [Comp.bind_of_ok zoomed]
        simp only [CommandRouter.present]
        rw [Comp.ofExcept_ok_bind, moved]
        exact Or.inr ⟨task, row, rfl, found, decrypted, Or.inr ⟨unbridged.permitted allowed,
          unbridged.ungated cleared, now, changedAtUtc, w, rfl⟩⟩

/-- A transition handler moves one row, finds it in its final state, or stops without a trace. -/
theorem transitionHandler_outcome (router : CommandRouter ω)
    (unbridged : Unbridged router.taskStore) {intentType : String} (actionType : Action)
    {final : TaskState} (asked : FinalOf intentType final) (entities : Dict) (s : RouterState ω)
    (grounded : Grounded router s) :
    HandlerOutcome router intentType s (router.handleTransition actionType final
      (fun taskId => router.taskStore.transitionTask taskId final.value) entities s) := by
  rcases transitionHandler_cases router unbridged actionType final entities s grounded with
    ⟨exc, t, ran, same⟩ | ⟨task, row, -, found, -, ⟨done, ran⟩ |
      ⟨permitted, ungated, now, changedAtUtc, w, ran⟩⟩
  · rw [ran]
    exact .stopped exc t same
  · rw [ran]
    subst done
    exact .done _ s rfl rfl (.unchanged row asked found rfl rfl) fun _ => rfl
  · rw [ran]
    refine .done _ _ rfl rfl ?_ ?_
    · exact .moved row (TaskStore.setState final now (TaskStore.archivedAtFor final now
        row.archivedAt) row) changedAtUtc asked found permitted rfl
        (writeState_rows found final now _) rfl rfl
    · intro enforced
      rw [ungated] at enforced
      cases enforced

theorem resolve_by_id_iff {store : TaskStore ω} {tasks : TaskTable} {entities : Dict} {id : Int}
    {task : TaskRecord} (number : (Dict.get entities "task_id").asInt = some id) :
    CommandRouter.resolve store tasks entities = .ok task ↔
      store.recordOf tasks id = .ok (some task) := by
  rw [resolve_of_id number]
  cases store.recordOf tasks id with
  | error exc => simp [Except.bind]
  | ok found => cases found <;> simp [Except.bind]

/-- After the handler of a reference by id returned, the reference resolves to the same task in
its final state. -/
theorem transitionHandler_settles {router : CommandRouter ω}
    (unbridged : Unbridged router.taskStore) {actionType : Action} {final : TaskState} {entities : Dict} {s t : RouterState ω}
    {execution : ActionExecution} (grounded : Grounded router s) {id : Int}
    (number : (Dict.get entities "task_id").asInt = some id)
    (ran : router.handleTransition actionType final
      (fun taskId => router.taskStore.transitionTask taskId final.value) entities s =
        (.ok execution, t)) :
    ∃ task task', CommandRouter.resolve router.taskStore s.memory.tasks entities = .ok task ∧
      CommandRouter.resolve router.taskStore t.memory.tasks entities = .ok task' ∧
      task'.taskId = task.taskId ∧ task'.goal = task.goal ∧ task'.state = final := by
  have outcome := transitionHandler_cases router unbridged actionType final entities s grounded
  dsimp only at outcome
  rw [ran] at outcome
  rcases outcome with
    ⟨exc, _, raised, _⟩ | ⟨task, row, resolved, found, decrypted, ⟨done, returned⟩ |
      ⟨_, _, now, changedAtUtc, w, returned⟩⟩
  · cases raised
  · obtain ⟨-, -, -, shape⟩ := router.taskStore.rowToRecord_fields row task decrypted
    obtain ⟨-, same⟩ := Prod.mk.inj returned
    subst same
    refine ⟨task, task, resolved, resolved, rfl, rfl, ?_⟩
    rw [shape]
    exact done
  · obtain ⟨-, same⟩ := Prod.mk.inj returned
    subst same
    obtain ⟨title, description, goal, shape⟩ :=
      router.taskStore.rowToRecord_fields row task decrypted
    have read := (resolve_by_id_iff number).mp resolved
    obtain ⟨bound, _, present, opened⟩ := TaskStore.recordOf_some read
    have same : row.id = id := by
      obtain ⟨-, -, -, other⟩ := router.taskStore.rowToRecord_fields _ task opened
      rw [← TaskTable.find_id present]
      have ids := congrArg TaskRecord.taskId (shape.symm.trans other)
      exact ids
    have readable := router.taskStore.rowToRecord_of (TaskStore.setState final now
      (TaskStore.archivedAtFor final now row.archivedAt) row) task.title task.description task.goal
      title description goal
    have stored := TaskStore.find_writeState s.memory.tasks row.id final now
      (TaskStore.archivedAtFor final now row.archivedAt) id
    rw [if_pos same.symm, ← same, found, Option.map_some] at stored
    rw [← same] at bound number
    refine ⟨task, _, resolved, (resolve_by_id_iff number).mpr
      (TaskStore.recordOf_of_find bound stored readable), ?_, rfl, rfl⟩
    rw [shape]
    rfl

theorem handler_outcome {router : CommandRouter ω} (unbridged : Unbridged router.taskStore)
    {intentType : String} {definition : ActionDefinition ω}
    (registered : router.registry.lookup intentType = some definition) (entities : Dict)
    (s : RouterState ω) (grounded : Grounded router s) :
    HandlerOutcome router intentType s (definition.handler entities s) := by
  rcases CommandRouter.registry_definitions registered with
    ⟨rfl, asked⟩ | ⟨rfl, asked⟩ | ⟨rfl, asked⟩
  · exact createHandler_outcome router unbridged asked entities s
  · exact transitionHandler_outcome router unbridged _ (Or.inl ⟨asked, rfl⟩) entities s grounded
  · exact transitionHandler_outcome router unbridged _ (Or.inr ⟨asked, rfl⟩) entities s grounded

/-! ## Routing -/

/-- The effect does not depend on what lies outside table and log. -/
theorem Executed.of_sameLedger {intentType : String} {s s' t t' : RouterState ω} {metadata : Dict}
    {lifecycleBefore lifecycleAfter : Option String}
    (effect : Executed intentType s s' metadata lifecycleBefore lifecycleAfter)
    (start : SameLedger t s) (finish : SameLedger s' t') :
    Executed intentType t t' metadata lifecycleBefore lifecycleAfter := by
  obtain ⟨startTasks, startLog⟩ := Prod.mk.inj (show ledger s = ledger t from start)
  obtain ⟨finishTasks, finishLog⟩ := Prod.mk.inj (show ledger t' = ledger s' from finish)
  cases effect with
  | created row asked fresh initial rows log named =>
    rw [startTasks] at fresh rows
    rw [startLog] at log
    exact .created row asked fresh initial (by rw [finishTasks, rows]) (by rw [finishLog, log])
      named
  | moved row row' changedAtUtc final found permitted kept rows log named =>
    rw [startTasks] at found rows
    rw [startLog] at log
    exact .moved row row' changedAtUtc final found permitted kept (by rw [finishTasks, rows])
      (by rw [finishLog, log]) named
  | unchanged row final found same named =>
    rw [startTasks] at found
    have kept : ledger s' = ledger s := same
    have whole : SameLedger t t' := by
      change ledger t' = ledger t
      rw [show ledger t' = ledger s' from finish, kept, show ledger s = ledger t from start]
    exact .unchanged row final found whole named

/-- What became of an intent that was executed, step by step: it passed validation, was not
challenged, and its handler returned. -/
structure Execution (router : CommandRouter ω) (fields : Dict) (s s' : RouterState ω)
    (result : CommandResult) (intent : NormalizedIntent) (definition : ActionDefinition ω)
    (checked cleared handled : RouterState ω) (execution : ActionExecution) (event : AuditEvent) :
    Prop where
  accepted : Accepted router.py fields intent.entities intent.intentType intent.confidenceScore
  confident : intent.confidenceScore.lt router.minConfidence = false
  registered : router.registry.lookup intent.intentType = some definition
  valid : definition.validator intent.entities = .ok ()
  arrived : Settled s checked
  unchallenged : router.evaluateChallenge intent definition checked = (.ok none, cleared)
  returned : definition.handler intent.entities cleared = (.ok execution, handled)
  finished : SameLedger handled s' ∧ s'.challenge = handled.challenge ∧
    s'.auditEvents = handled.auditEvents ++ [event]
  told : event.lifecycleBefore = execution.lifecycleBefore ∧
    event.lifecycleAfter = execution.lifecycleAfter ∧ event.auditId = result.auditId
  result_eq : result.status = .executed ∧ result.action = execution.actionType ∧
    result.metadata = execution.metadata

/-- An intent leaves the store alone and is not executed, or goes the way of an execution. -/
inductive RouteOutcome (router : CommandRouter ω) (intentObject : Value) (s : RouterState ω) :
    Except Exc CommandResult × RouterState ω → Prop
  | refused (outcome : Except Exc CommandResult) (s' : RouterState ω) (same : SameLedger s s')
      (refused : ∀ result, outcome = .ok result → result.status ≠ .executed) :
      RouteOutcome router intentObject s (outcome, s')
  | executed (fields : Dict) (result : CommandResult) (s' : RouterState ω)
      (intent : NormalizedIntent) (definition : ActionDefinition ω)
      (checked cleared handled : RouterState ω) (execution : ActionExecution) (event : AuditEvent)
      (mapping : intentObject = .dict fields)
      (steps : Execution router fields s s' result intent definition checked cleared handled
        execution event) :
      RouteOutcome router intentObject s (.ok result, s')

theorem SameLedger.trans {s t u : RouterState ω} (first : SameLedger s t)
    (second : SameLedger t u) : SameLedger s u := Eq.trans (show ledger u = ledger t from second) first

/-- A computation that keeps the ledger and never executes ends in a refusal. -/
theorem refused_of_keeps {router : CommandRouter ω} {intentObject : Value} {s t : RouterState ω}
    {m : Comp Exc (RouterState ω) CommandResult} (keeps : m.Preserves (Comp.Unchanged ledger))
    (never : ∀ result, (m t).1 = .ok result → result.status ≠ .executed)
    (start : SameLedger s t) : RouteOutcome router intentObject s (m t) :=
  .refused (m t).1 (m t).2 (start.trans (keeps t)) never

theorem reject_status {router : CommandRouter ω} {auditId : String} {intent : NormalizedIntent}
    {action : Action} {errorCode : ErrorCode} {metadata : Dict} {s : RouterState ω}
    {result : CommandResult}
    (returned : (router.reject auditId intent action errorCode metadata s).1 = .ok result) :
    result.status ≠ .executed := by
  cases returned
  simp

theorem rejectShape_status {router : CommandRouter ω} {auditId : String} {intentObject : Value}
    {s : RouterState ω} {result : CommandResult}
    (returned : (router.rejectShape auditId intentObject s).1 = .ok result) :
    result.status ≠ .executed := by
  unfold CommandRouter.rejectShape at returned
  cases intentObject with
  | dict fields =>
    obtain ⟨timestamp, t, -, rest⟩ := Comp.of_bind_ok (Prod.ext returned rfl)
    have rejected := (Prod.mk.inj rest).1
    cases rejected
    simp
  | _ => cases returned

/-- What the handler's execution becomes. -/
theorem execute_returned (router : CommandRouter ω) (auditId : String) {intent : NormalizedIntent}
    {definition : ActionDefinition ω} {s t : RouterState ω} {execution : ActionExecution}
    (returned : definition.handler intent.entities s = (.ok execution, t)) :
    ∃ event result s', router.execute auditId intent definition s = (.ok result, s') ∧
      (SameLedger t s' ∧ s'.challenge = t.challenge ∧ s'.auditEvents = t.auditEvents ++ [event]) ∧
      (event.lifecycleBefore = execution.lifecycleBefore ∧
        event.lifecycleAfter = execution.lifecycleAfter ∧ event.auditId = result.auditId) ∧
      (result.status = .executed ∧ result.action = execution.actionType ∧
        result.metadata = execution.metadata) := by
  unfold CommandRouter.execute Comp.handle
  rw [Comp.bind_of_ok returned]
  exact ⟨_, _, _, rfl, ⟨rfl, rfl, rfl⟩, ⟨rfl, rfl, rfl⟩, rfl, rfl, rfl⟩

/-- What the handler raised becomes a rejection. -/
theorem execute_raised (router : CommandRouter ω) (auditId : String) {intent : NormalizedIntent}
    {definition : ActionDefinition ω} {s t : RouterState ω} {exc : Exc}
    (raised : definition.handler intent.entities s = (.error exc, t)) :
    router.execute auditId intent definition s = router.reject auditId intent
      definition.actionType (CommandRouter.errorCodeOf exc) [] t := by
  unfold CommandRouter.execute Comp.handle
  rw [Comp.bind_of_error raised]

/-- A registered intent is refused, or goes the way of an execution. -/
theorem runDefinition_outcome {router : CommandRouter ω} (unbridged : Unbridged router.taskStore)
    {fields : Dict} {auditId : String} {intent : NormalizedIntent} {definition : ActionDefinition ω}
    {s t : RouterState ω} (grounded : Grounded router s) (arrived : Settled s t)
    (accepted :
      Accepted router.py fields intent.entities intent.intentType intent.confidenceScore)
    (confident : intent.confidenceScore.lt router.minConfidence = false)
    (registered : router.registry.lookup intent.intentType = some definition) :
    RouteOutcome router (.dict fields) s (router.runDefinition auditId intent definition t) := by
  unfold CommandRouter.runDefinition
  cases valid : definition.validator intent.entities with
  | error exc =>
    dsimp only
    split
    · exact refused_of_keeps (sameLedger_reject router _ _ _ _ _) (fun _ => reject_status)
        arrived.ledger
    · exact refused_of_keeps (Comp.preserves_raise _) (fun _ returned => by cases returned)
        arrived.ledger
  | ok passed =>
    rcases evaluated : router.evaluateChallenge intent definition t with ⟨r, u⟩
    have kept : SameLedger s u := by
      have step := sameLedger_evaluateChallenge router intent definition t
      rw [evaluated] at step
      exact arrived.ledger.trans step
    cases r with
    | error exc =>
      dsimp only
      rw [Comp.bind_of_error evaluated]
      exact .refused _ u kept fun _ returned => by cases returned
    | ok payload =>
      dsimp only
      rw [Comp.bind_of_ok evaluated]
      cases payload with
      | some payload =>
        refine .refused _ _ (kept.trans rfl) fun result returned => ?_
        cases returned
        simp
      | none =>
        have tasks : u.memory.tasks = s.memory.tasks :=
          (Prod.mk.inj (show ledger u = ledger s from kept)).1
        have ground : Grounded router u := fun enforced => by rw [tasks, grounded enforced]
        have outcome := handler_outcome unbridged registered intent.entities u ground
        rcases ran : definition.handler intent.entities u with ⟨h, v⟩
        rw [ran] at outcome
        cases outcome with
        | stopped exc _ same =>
          dsimp only
          rw [execute_raised router auditId ran]
          exact refused_of_keeps (sameLedger_reject router _ _ _ _ _) (fun _ => reject_status)
            (kept.trans same.ledger)
        | done execution _ challenge audit effect gated =>
          obtain ⟨event, result, s', executed, finished, told, result_eq⟩ :=
            execute_returned router auditId ran
          dsimp only
          rw [executed]
          exact .executed fields result s' intent definition t u v execution event rfl
            ⟨accepted, confident, registered, valid, arrived, evaluated, ran, finished, told,
              result_eq⟩

/-- So does every object that is routed. -/
theorem route_outcome {router : CommandRouter ω} (unbridged : Unbridged router.taskStore)
    (intentObject : Value) {s : RouterState ω} (grounded : Grounded router s) :
    RouteOutcome router intentObject s (router.route intentObject s) := by
  obtain ⟨auditId, t, uuid, settled⟩ : ∃ auditId t, router.uuid4 s = (.ok auditId, t) ∧
      Settled s t := ⟨_, _, rfl, rfl⟩
  rw [CommandRouter.route, Comp.bind_of_ok uuid]
  rcases validated : router.validateAndNormalizeIntent intentObject t with ⟨r, u⟩
  have arrived : Settled s u := by
    have step := settled_validate router intentObject t
    rw [validated] at step
    exact Eq.trans (show RoutedIntents.settled u = RoutedIntents.settled t from step) settled
  have attempted : Comp.attempt (router.validateAndNormalizeIntent intentObject) t =
      (.ok r, u) := by
    rw [Comp.attempt, validated]
  rw [Comp.bind_of_ok attempted]
  cases r with
  | error exc =>
    dsimp only
    split
    · exact refused_of_keeps (sameLedger_rejectShape router _ _) (fun _ => rejectShape_status)
        arrived.ledger
    · exact refused_of_keeps (Comp.preserves_raise _) (fun _ returned => by cases returned)
        arrived.ledger
  | ok intent =>
    obtain ⟨fields, rfl, accepted⟩ := accepted_of_validated validated
    dsimp only
    unfold CommandRouter.routeIntent
    cases low : intent.confidenceScore.lt router.minConfidence with
    | true =>
      exact refused_of_keeps (sameLedger_reject router _ _ _ _ _) (fun _ => reject_status)
        arrived.ledger
    | false =>
      simp only [Bool.false_eq_true, if_false]
      cases registered : router.registry.lookup intent.intentType with
      | none =>
        exact refused_of_keeps (sameLedger_reject router _ _ _ _ _) (fun _ => reject_status)
          arrived.ledger
      | some definition =>
        exact runDefinition_outcome unbridged grounded arrived accepted low registered

/-- What an execution has done, and that a closed storage gate lets none through. -/
theorem Execution.effect {router : CommandRouter ω} (unbridged : Unbridged router.taskStore)
    {fields : Dict} {s s' checked cleared handled : RouterState ω} {result : CommandResult}
    {intent : NormalizedIntent} {definition : ActionDefinition ω} {execution : ActionExecution}
    {event : AuditEvent} (grounded : Grounded router s)
    (steps : Execution router fields s s' result intent definition checked cleared handled
      execution event) :
    Executed intent.intentType s s' result.metadata event.lifecycleBefore event.lifecycleAfter ∧
      s'.auditEvents = s.auditEvents ++ [event] ∧
      (router.taskStore.enforceStorageAuthority = true → SameLedger s s') := by
  have untouched := evaluateChallenge_none steps.unchallenged
  obtain ⟨tasks, -, -, audit⟩ := steps.arrived.parts
  have ground : Grounded router checked := fun enforced => by rw [tasks, grounded enforced]
  have outcome := handler_outcome unbridged steps.registered intent.entities checked ground
  have returned := steps.returned
  rw [untouched] at returned
  rw [returned] at outcome
  obtain ⟨kept, _, appended⟩ := steps.finished
  cases outcome with
  | done _ _ _ logged effect gated =>
    refine ⟨?_, ?_, fun enforced => ?_⟩
    · rw [steps.told.1, steps.told.2.1, steps.result_eq.2.2]
      exact effect.of_sameLedger steps.arrived.ledger kept
    · rw [appended, logged, audit]
    · exact (steps.arrived.ledger.trans (gated enforced)).trans kept

end Apcos.Guarantees.RoutedIntents
