import Apcos.Guarantees.RoutedEffects
import Apcos.Source.Python.Arithmetic

/-!
# The confidence gate

core/cognition/command_router.py:98-148 and 366-392. The bounds and the threshold
are checked by comparisons that must come out false, and with a NaN all of them do.
For every other score the gate is closed below the threshold.
-/
namespace Apcos.Guarantees.ConfidenceGate

open Apcos.Lib
open Apcos.Source
open Apcos.Source.Python (Value Dict Exc PyFloat Runtime floatOfInt roundToDouble)
open Apcos.Source.Memory
open Apcos.Source.Cognition
open Apcos.Guarantees.RouterAudit
  (Accepted accepted_of_validated evaluateChallenge_skipped localRouter localState)
open Apcos.Guarantees.RoutedIntents
open Apcos.Guarantees.RoutedEffects (validate_again handleTransition_done)

variable {ω : Type}

/-- The exact value of a number; a `bool` is one. -/
def numberOf : Value → Option PyFloat
  | .float x => some x
  | .int n => some (.finite n)
  | .bool b => some (.finite (if b then 1 else 0))
  | _ => none

/-- The intent is a mapping with this score. -/
def Scored (intentObject score : Value) : Prop :=
  ∃ fields, intentObject = .dict fields ∧ Dict.get fields "confidence_score" = score

/-- If the intent is executed or challenged, the score is a number between the threshold and 1. -/
def Gated (router : CommandRouter ω) (intentObject score : Value) (s : RouterState ω) : Prop :=
  ∀ result s', router.route intentObject s = (.ok result, s') →
    result.status = .executed ∨ result.status = .challengeRequired →
      ∃ c, numberOf score = some c ∧ router.minConfidence.le c = true ∧
        c.le (.finite 1) = true

/-! ## Scores between the bounds -/

/-- What rounds to at most one was exact. -/
theorem roundToDouble_small {n : Nat} (small : roundToDouble n ≤ 1) : roundToDouble n = n := by
  unfold roundToDouble at small ⊢
  by_cases exact : n < 2 ^ 53
  · rw [if_pos exact]
  · exfalso
    rw [if_neg exact] at small
    have nonzero : n ≠ 0 := by
      rintro rfl
      exact exact (Nat.two_pow_pos 53)
    have large : 53 ≤ n.log2 := (Nat.le_log2 nonzero).mpr (Nat.not_lt.mp exact)
    have quotient : 1 ≤ n / 2 ^ (n.log2 - 52) := by
      rw [Nat.one_le_div_iff (Nat.two_pow_pos _)]
      exact (Nat.pow_le_pow_right (by decide) (Nat.sub_le _ _)).trans (Nat.log2_self_le nonzero)
    have spacing : 2 ≤ 2 ^ (n.log2 - 52) := by
      have wider : 2 ^ 1 ≤ 2 ^ (n.log2 - 52) := Nat.pow_le_pow_right (by decide) (by omega)
      exact wider
    have product {k : Nat} (atLeast : 1 ≤ k) : 2 ≤ k * 2 ^ (n.log2 - 52) :=
      Nat.mul_le_mul atLeast spacing
    dsimp only at small
    split at small
    · exact absurd (product (Nat.le_succ_of_le quotient)) (Nat.not_le.mpr (Nat.lt_succ_of_le small))
    · exact absurd (product quotient) (Nat.not_le.mpr (Nat.lt_succ_of_le small))

/-- An integer whose double lies between 0 and 1 is that double. -/
theorem floatOfInt_inside {n : Int} {x : PyFloat} (converted : floatOfInt n = some x)
    (low : x.lt (.finite 0) = false) (high : (PyFloat.finite 1).lt x = false) :
    x = .finite n := by
  unfold floatOfInt at converted
  dsimp only at converted
  split at converted
  · cases converted
    simp only [PyFloat.lt, decide_eq_false_iff_not, not_lt] at low high
    by_cases negative : n < 0
    · rw [if_pos negative] at low high ⊢
      have zero : roundToDouble n.natAbs ≤ 0 := by exact_mod_cast neg_nonneg.mp low
      have same := roundToDouble_small (zero.trans (Nat.zero_le 1))
      omega
    · rw [if_neg negative] at low high ⊢
      have small : roundToDouble n.natAbs ≤ 1 := by exact_mod_cast high
      rw [roundToDouble_small small]
      have same : (n.natAbs : Int) = n := Int.natAbs_of_nonneg (not_lt.mp negative)
      have cast : ((n.natAbs : Int) : Rat) = (n : Rat) := by rw [same]
      simpa using cast
  · cases converted

/-- A score that passes the checks of its bounds and is no NaN is the number it is checked as. -/
theorem numberOf_unitInterval {py : Runtime} {field : String} {score : Value} {x : PyFloat}
    (checked : unitInterval py field score = .ok x) (number : score ≠ .float .nan) :
    numberOf score = some x ∧ x ≠ .nan ∧ x.le (.finite 1) = true := by
  have converted := float_of_unitInterval checked
  unfold Cognition.unitInterval at checked
  cases numeric : isNumeric score with
  | false =>
    rw [numeric] at checked
    cases checked
  | true =>
    rw [numeric, converted] at checked
    simp only [Bool.not_true, Bool.false_eq_true, if_false, bind, Except.bind] at checked
    split at checked
    · cases checked
    · rename_i inside
      simp only [Bool.or_eq_true, not_or, Bool.not_eq_true] at inside
      have same : numberOf score = some x := by
        cases score with
        | float y =>
          cases converted
          rfl
        | bool b =>
          cases converted
          rfl
        | int n =>
          simp only [Python.float] at converted
          split at converted
          · rename_i y exact
            cases converted
            rw [floatOfInt_inside exact inside.1 inside.2]
            rfl
          · cases converted
        | _ => cases numeric
      have defined : x ≠ .nan := by
        rintro rfl
        cases score with
        | float y => exact number (congrArg Value.float (Option.some.inj same))
        | int n => cases same
        | bool b => cases same
        | _ => cases same
      exact ⟨same, defined, PyFloat.le_of_not_lt defined (by simp) inside.2⟩

/-! ## Intents that pass -/

theorem gated_of_number {router : CommandRouter ω} {intentObject score : Value}
    (configured : router.minConfidence ≠ .nan) (scored : Scored intentObject score)
    (number : score ≠ .float .nan) (s : RouterState ω) : Gated router intentObject score s := by
  intro result s' returned passed
  obtain ⟨fields, rfl, read⟩ := scored
  have answered : result.status ≠ .rejected := by
    rcases passed with status | status <;> simp [status]
  obtain ⟨_, intent, _, _, _, _, answer, -⟩ := CommandRouter.route_answered returned answered
  obtain ⟨_, same, accepted⟩ := accepted_of_validated answer.validated
  cases same
  have checked := accepted.scored
  rw [read] at checked
  obtain ⟨same, defined, bounded⟩ := numberOf_unitInterval checked number
  exact ⟨intent.confidenceScore, same, PyFloat.le_of_not_lt configured defined answer.confident,
    bounded⟩

/-! ## A NaN passes -/

/-- Completes the task 1 over the user's own objection to a challenge. -/
def overridingEntities : Dict := [("task_id", .int 1), ("user_overrode", .bool true)]

def overridingIntent (score : Value) : Dict :=
  [("intent_type", .str "complete_task"), ("entities", .dict overridingEntities),
    ("timestamp", .datetime ⟨Python.firstInstant, none⟩), ("confidence_score", score)]

/-- A store whose only task, the task 1, is completed. -/
def completedTable (store : TaskStore ω) : TaskTable where
  rows := [⟨1, store.encryption.encrypt "", none, none, none, 0, .completed, "", "", none⟩]
  sequence := 1
  increasing := by simp
  allocated := by simp

def completedState (router : CommandRouter ω) (env : ω) : RouterState ω where
  memory := { MemoryState.initial env with tasks := completedTable router.taskStore }
  challenge := ⟨[], []⟩
  auditEvents := []

theorem completed_resolves (router : CommandRouter ω) : ∃ task,
    CommandRouter.resolve router.taskStore (completedTable router.taskStore) overridingEntities =
      .ok task ∧ task.state = .completed := by
  have number : (Dict.get overridingEntities "task_id").asInt = some 1 := rfl
  have read := router.taskStore.rowToRecord_of
    ⟨1, router.taskStore.encryption.encrypt "", none, none, none, 0, .completed, "", "", none⟩
    "" none none (router.taskStore.encryption.decrypt_encrypt "") rfl rfl
  have stored : (completedTable router.taskStore).find 1 = some
      ⟨1, router.taskStore.encryption.encrypt "", none, none, none, 0, .completed, "", "", none⟩ :=
    rfl
  have bound : bindInteger 1 = .ok 1 := by decide
  have found := TaskStore.recordOf_of_find bound stored read
  have resolved : CommandRouter.resolve router.taskStore (completedTable router.taskStore)
      overridingEntities = .ok ⟨1, "", none, none, none, 0, .completed, "", "", none⟩ := by
    rw [resolve_of_id number, found]
    rfl
  exact ⟨_, resolved, rfl⟩

theorem nan_accepted (py : Runtime) : Accepted py (overridingIntent (.float .nan))
    overridingEntities "complete_task" .nan := by
  have typed : normalizeIntentType py (.str "complete_task") = .ok "complete_task" := by
    have visible : Python.blank "complete_task" = false := by decide
    have spelled : py.lower (Python.strip "complete_task") = "complete_task" := by
      rw [show Python.strip "complete_task" = "complete_task" by decide,
        py.lower_ascii "complete_task" (by decide)]
      decide
    simp only [normalizeIntentType, visible, spelled, Bool.false_eq_true, if_false]
  refine ⟨⟨?_, typed, rfl⟩, rfl, rfl, ?_⟩
  · intro key member
    simp only [requiredIntentKeys, List.mem_cons, List.not_mem_nil, or_false] at member
    rcases member with rfl | rfl | rfl | rfl <;> simp [overridingIntent, List.lookup_cons]
  · exact ⟨_, rfl⟩

theorem overriding_unchallenged (router : CommandRouter ω) {intent : NormalizedIntent}
    {s : RouterState ω} (entities : intent.entities = overridingEntities) {task : TaskRecord}
    (resolved : CommandRouter.resolve router.taskStore s.memory.tasks overridingEntities =
      .ok task) :
    router.evaluateChallenge intent router.completeDefinition s = (.ok none, s) := by
  by_cases gate : router.enableChallengeGate = true
  · rw [evaluateChallenge_open gate rfl, entities, resolved]
    simp only [CommandRouter.evaluateResolved, entities]
    rfl
  · exact evaluateChallenge_skipped router intent _ s (Or.inl (Bool.eq_false_iff.mpr gate))

/-- A confidence that is not a number passes the gate. -/
theorem nan_executed (router : CommandRouter ω) (env : ω) : ∃ result s',
    router.route (.dict (overridingIntent (.float .nan))) (completedState router env) =
      (.ok result, s') ∧ result.status = .executed := by
  obtain ⟨auditId, t, drawn, settled⟩ : ∃ auditId t,
      router.uuid4 (completedState router env) = (.ok auditId, t) ∧
        t.memory.tasks = completedTable router.taskStore := ⟨_, _, rfl, rfl⟩
  obtain ⟨intent, u, validated, quiet, entities, typed, score⟩ :=
    validate_again (nan_accepted router.py) t
  have table : u.memory.tasks = completedTable router.taskStore := by
    rw [quiet.parts.1, settled]
  obtain ⟨task, resolved, done⟩ := completed_resolves router
  rw [← table] at resolved
  have registered : router.registry.lookup intent.intentType = some router.completeDefinition := by
    rw [typed]
    rfl
  have valid : router.completeDefinition.validator intent.entities = .ok () := by
    rw [entities]
    rfl
  obtain ⟨execution, handled⟩ := handleTransition_done .completeTask
    router.taskStore.completeTask resolved done
  have ran : router.completeDefinition.handler intent.entities u = (.ok execution, u) := by
    rw [entities]
    exact handled
  obtain ⟨_, result, s', executed, -, -, status, -, -⟩ := execute_returned router auditId ran
  refine ⟨result, s', ?_, status⟩
  have confident : intent.confidenceScore.lt router.minConfidence = false := by
    rw [score]
    rfl
  rw [CommandRouter.route_validated drawn validated,
    CommandRouter.routeIntent_registered confident registered,
    CommandRouter.runDefinition_unchallenged valid (overriding_unchallenged router entities resolved)]
  exact executed

/-- A mapping that asks for a new task, with a NaN for its score. -/
def nanIntent : Value := .dict
  [("intent_type", .str "create_task"), ("entities", .dict [("task", .str "Water plants")]),
    ("timestamp", .datetime ⟨Python.firstInstant, none⟩), ("confidence_score", .float .nan)]

end Apcos.Guarantees.ConfidenceGate
