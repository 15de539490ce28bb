import Apcos.Source.Python.Arithmetic
import Mathlib.Data.List.AList
import Mathlib.Data.List.Sort

/-!
# Proactive suggestions

core/behavior/pattern_detector.py, suggestion_scorer.py, acceptance_tracker.py,
calibration_engine.py and core/cognition/proactive_controller.py. The settings
a controller is built from are given as they are after loading; `now` is the
instant a call works with, given or read from the clock. The random id of a
suggestion is left out.
-/
namespace Apcos.Source.Cognition

open Apcos.Source.Python

/-! ## Pattern detector -/

structure PatternResult where
  patternType : String
  confidence : PyFloat
  details : Dict

structure PatternDetector where
  overloadThreshold : Int
  goalDeviationThreshold : PyFloat

def PatternDetector.default : PatternDetector := ⟨8, hundredths 60⟩

variable (py : Runtime) (fp : Arithmetic)

/-- `min(1.0, base + count * weight)` with a count that must fit into a double. -/
def weighted (base : PyFloat) (count : Int) (weight : PyFloat) : Except Exc PyFloat := do
  let number ← float py (.int count)
  return (PyFloat.finite 1).min (fp.add base (fp.mul number weight))

def detectMissed (context : Dict) : Except Exc (List PatternResult) := do
  let overdueTasks ← int py (context.getD "overdue_tasks" (.int 0))
  if 0 < overdueTasks then
    let confidence ← weighted py fp (hundredths 60) overdueTasks (hundredths 10)
    return [⟨"missed_task", confidence, [("overdue_tasks", .int overdueTasks)]⟩]
  else return []

def detectOverload (d : PatternDetector) (context : Dict) : Except Exc (List PatternResult) := do
  let scheduled ← int py (context.getD "scheduled_tasks_today" (.int 0))
  let capacity ← int py (context.getD "daily_capacity" (.int d.overloadThreshold))
  let hardCapacity := max d.overloadThreshold capacity
  if hardCapacity < scheduled then
    let confidence ← weighted py fp (hundredths 65) (scheduled - hardCapacity) (hundredths 5)
    return [⟨"overloaded_day", confidence,
      [("scheduled_tasks_today", .int scheduled), ("daily_capacity", .int hardCapacity)]⟩]
  else return []

def detectDeviation (d : PatternDetector) (context : Dict) : Except Exc (List PatternResult) := do
  let goalAlignment ← float py (context.getD "goal_alignment_score" (.float (.finite 1)))
  if goalAlignment.lt d.goalDeviationThreshold then
    let deviation := fp.sub d.goalDeviationThreshold goalAlignment
    return [⟨"goal_deviation", (PyFloat.finite 1).min (fp.add (hundredths 60) deviation),
      [("goal_alignment_score", .float goalAlignment)]⟩]
  else return []

def detect (d : PatternDetector) (context : Dict) : Except Exc (List PatternResult) := do
  let missed ← detectMissed py fp context
  let overload ← detectOverload py fp d context
  let deviation ← detectDeviation py fp d context
  return missed ++ overload ++ deviation

/-! ## Suggestion scorer -/

structure ScoredSuggestion where
  pattern : PatternResult
  score : PyFloat
  key : String

def patternWeight : String → PyFloat
  | "goal_deviation" => .finite 3
  | "overloaded_day" => .finite 2
  | "missed_task" => .finite 1
  | _ => .finite (1 / 2)

def extractTaskId (context : Dict) : Except Exc String :=
  match context.get "task_id" with
  | .null => .ok "global"
  | taskId => str py taskId

/-- `int(details[name])` inside an f-string. -/
def intText (v : Value) : Except Exc String := do
  let n ← int py v
  str py (.int n)

def buildKey (patternType taskId : String) (details : Dict) : Except Exc String := do
  let anchor ←
    match details.lookup "overdue_tasks" with
    | some overdue => do
      let text ← intText py overdue
      pure ("overdue:" ++ text)
    | none =>
      match details.lookup "scheduled_tasks_today", details.lookup "daily_capacity" with
      | some scheduled, some capacity => do
        let first ← intText py scheduled
        let second ← intText py capacity
        pure ("load:" ++ first ++ ":" ++ second)
      | _, _ =>
        match details.lookup "goal_alignment_score" with
        | some score => do
          let score ← float py score
          pure ("align:" ++ fp.fixed2 score)
        | none => pure "global"
  return patternType ++ "|task:" ++ taskId ++ "|" ++ anchor

/-- The order of the sort keys `(-score, pattern_type, key)`. -/
def ranksBefore (a b : ScoredSuggestion) : Prop :=
  if a.score.eq b.score then
    if a.pattern.patternType = b.pattern.patternType then a.key ≤ b.key
    else a.pattern.patternType < b.pattern.patternType
  else b.score.lt a.score = true

instance : DecidableRel ranksBefore := fun a b => by
  unfold ranksBefore
  infer_instance

def scorePattern (taskId : String) (pattern : PatternResult) : Except Exc ScoredSuggestion := do
  let score := fp.add (fp.mul pattern.confidence (.finite 100)) (patternWeight pattern.patternType)
  let key ← buildKey py fp pattern.patternType taskId pattern.details
  return ⟨pattern, score, key⟩

def rank (patterns : List PatternResult) (context : Dict) : Except Exc (List ScoredSuggestion) := do
  let taskId ← extractTaskId py context
  let ranked ← patterns.mapM (scorePattern py fp taskId)
  return ranked.insertionSort ranksBefore

/-! ## Acceptance tracker -/

structure OutcomeCounts where
  accepted : Nat := 0
  rejected : Nat := 0
  ignored : Nat := 0
  overrides : Nat := 0
  deriving DecidableEq, Repr

structure AcceptanceTracker where
  dailyStats : AList fun _ : Nat => OutcomeCounts

structure AcceptanceMetrics where
  accepted : Nat
  rejected : Nat
  ignored : Nat
  overrides : Nat
  acceptanceRate : PyFloat

/-- `bucket[outcome] += 1`. -/
def OutcomeCounts.count (counts : OutcomeCounts) : String → Option OutcomeCounts
  | "accepted" => some { counts with accepted := counts.accepted + 1 }
  | "rejected" => some { counts with rejected := counts.rejected + 1 }
  | "ignored" => some { counts with ignored := counts.ignored + 1 }
  | _ => none

def AcceptanceTracker.record (t : AcceptanceTracker) (outcome : String) (day : Nat)
    (overridden : Bool) : Except Exc AcceptanceTracker :=
  match ((t.dailyStats.lookup day).getD {}).count outcome with
  | none => .error ⟨.valueError, "Unsupported outcome: " ++ outcome⟩
  | some counts =>
    let bucket :=
      if overridden then { counts with overrides := counts.overrides + 1 } else counts
    .ok ⟨t.dailyStats.insert day bucket⟩

def OutcomeCounts.add (a b : OutcomeCounts) : OutcomeCounts :=
  ⟨a.accepted + b.accepted, a.rejected + b.rejected, a.ignored + b.ignored,
    a.overrides + b.overrides⟩

def computeMetrics (raw : OutcomeCounts) : AcceptanceMetrics :=
  let attempts := raw.accepted + raw.rejected + raw.ignored
  let rate := if attempts = 0 then .finite 0 else fp.quotient raw.accepted attempts
  ⟨raw.accepted, raw.rejected, raw.ignored, raw.overrides, rate⟩

def AcceptanceTracker.totalMetrics (t : AcceptanceTracker) : AcceptanceMetrics :=
  computeMetrics fp (t.dailyStats.foldl (fun total _ counts => total.add counts) {})

/-! ## Calibration engine -/

structure CalibrationConfig where
  enabled : Bool
  minThreshold : PyFloat
  maxThreshold : PyFloat
  stepSize : PyFloat

def CalibrationConfig.default : CalibrationConfig := ⟨true, hundredths 50, hundredths 90, hundredths 5⟩

/-- The defaults, with what a literal of two decimals denotes. -/
def CalibrationConfig.defaults (decimal : Nat → PyFloat) : CalibrationConfig :=
  ⟨true, decimal 50, decimal 90, decimal 5⟩

example : CalibrationConfig.default = .defaults hundredths := rfl

/-- `_load_config`: `parsed` is what the YAML file holds, `none` when there is no file, no
parser, or the read raised. -/
def CalibrationConfig.load (decimal : Nat → PyFloat) (parsed : Option Value) :
    Except Exc CalibrationConfig :=
  let defaults := CalibrationConfig.defaults decimal
  match parsed with
  | none => .ok defaults
  | some value =>
    match if value.truthy then value else .dict [] with
    | .dict loaded =>
      match Dict.getD loaded "calibration" (.dict []) with
      | .dict part => do
        let enabled := (Dict.getD part "enabled" (.bool defaults.enabled)).truthy
        let minThreshold ← float py (Dict.getD part "min_threshold" (.float defaults.minThreshold))
        let maxThreshold ← float py (Dict.getD part "max_threshold" (.float defaults.maxThreshold))
        let stepSize ← float py (Dict.getD part "step_size" (.float defaults.stepSize))
        let crossed := maxThreshold.lt minThreshold
        return {
          enabled
          minThreshold := if crossed then defaults.minThreshold else minThreshold
          maxThreshold := if crossed then defaults.maxThreshold else maxThreshold
          stepSize := if stepSize.le (.finite 0) then defaults.stepSize else stepSize }
      | _ => .ok defaults
    | _ => .error ⟨.attributeError, "object has no attribute 'get'"⟩

/-- `max(lower, min(upper, value))`. -/
def clampThreshold (value lower upper : PyFloat) : PyFloat := lower.max (upper.min value)

/-- `rejected / attempts if attempts else 0.0`. -/
def rateOf (part attempts : Nat) : PyFloat :=
  if attempts = 0 then .finite 0 else fp.quotient part attempts

/-- `update_threshold`, with what a literal of two decimals denotes. -/
def updateThresholdBy (decimal : Nat → PyFloat) (cfg : CalibrationConfig)
    (currentThreshold : PyFloat) (metrics : AcceptanceMetrics) : PyFloat :=
  let clampedCurrent := clampThreshold currentThreshold cfg.minThreshold cfg.maxThreshold
  if !cfg.enabled then clampedCurrent
  else
    let attempts := metrics.accepted + metrics.rejected + metrics.ignored
    let rejectionRate := rateOf fp metrics.rejected attempts
    let overrideRate := rateOf fp metrics.overrides attempts
    let delta :=
      if (decimal 60).lt rejectionRate || (decimal 40).lt overrideRate then
        fp.add (.finite 0) cfg.stepSize
      else if (decimal 70).lt metrics.acceptanceRate then fp.sub (.finite 0) cfg.stepSize
      else .finite 0
    clampThreshold (fp.add clampedCurrent delta) cfg.minThreshold cfg.maxThreshold

def updateThreshold (cfg : CalibrationConfig) (currentThreshold : PyFloat)
    (metrics : AcceptanceMetrics) : PyFloat :=
  updateThresholdBy fp hundredths cfg currentThreshold metrics

/-! ## Controller -/

structure ProactiveConfig where
  confidenceThreshold : PyFloat := hundredths 70
  dailyLimit : Int := 3
  recentSuggestionWindow : Int := 10
  maxSuggestionsPerWindow : Int := 3
  repetitionCooldownSteps : Int := 4
  patternDetector : PatternDetector := .default
  calibration : CalibrationConfig := .default

structure ProactiveController where
  config : ProactiveConfig
  confidenceThreshold : PyFloat
  acceptanceTracker : AcceptanceTracker
  silentMode : Bool
  dailySuggestionCount : Nat → Nat
  evaluationSequence : Nat
  recentSuggestionSteps : List Nat
  lastSuggestionStepByKey : String → Option Nat

def ProactiveController.create (config : ProactiveConfig) : Except Exc ProactiveController :=
  if config.dailyLimit < 1 then .error ⟨.valueError, "daily_limit must be >= 1"⟩
  else if config.confidenceThreshold.lt (.finite 0) ∨
      (PyFloat.finite 1).lt config.confidenceThreshold then
    .error ⟨.valueError, "confidence_threshold must be between 0 and 1"⟩
  else if config.recentSuggestionWindow < 1 then
    .error ⟨.valueError, "recent_suggestion_window must be >= 1"⟩
  else if config.maxSuggestionsPerWindow < 1 then
    .error ⟨.valueError, "max_suggestions_per_window must be >= 1"⟩
  else if config.repetitionCooldownSteps < 1 then
    .error ⟨.valueError, "repetition_cooldown_steps must be >= 1"⟩
  else
    .ok {
      config
      confidenceThreshold := config.confidenceThreshold
      acceptanceTracker := ⟨∅⟩
      silentMode := false
      dailySuggestionCount := fun _ => 0
      evaluationSequence := 0
      recentSuggestionSteps := []
      lastSuggestionStepByKey := fun _ => none }

structure Suggestion where
  patternType : String
  message : String
  confidence : PyFloat
  details : Dict
  timestamp : String
  suggestionKey : String

def suggestionTemplate : String → String
  | "missed_task" => "You missed planned work. Rebalance today's priorities?"
  | "overloaded_day" => "Today's plan is overloaded. Want a lighter schedule?"
  | "goal_deviation" => "Current actions are drifting from your goal. Realign now?"
  | _ => "A proactive adjustment may help your day."

def buildSuggestion (pattern : PatternResult) (current : DateTime) (key : String) : Suggestion where
  patternType := pattern.patternType
  message := suggestionTemplate pattern.patternType
  confidence := pattern.confidence
  details := pattern.details
  timestamp := current.isoformat
  suggestionKey := key

namespace ProactiveController

def setSilentMode (c : ProactiveController) (enabled : Bool) : ProactiveController :=
  { c with silentMode := enabled }

def remainingBudget (c : ProactiveController) (day : Nat) : Int :=
  max 0 (c.config.dailyLimit - c.dailySuggestionCount day)

def evictOldWindowEntries (c : ProactiveController) (sequence : Nat) : ProactiveController :=
  let minAllowed : Int := sequence - c.config.recentSuggestionWindow + 1
  { c with
    recentSuggestionSteps := c.recentSuggestionSteps.dropWhile fun step => decide (step < minAllowed) }

def windowLimitReached (c : ProactiveController) : Bool :=
  decide (c.config.maxSuggestionsPerWindow ≤ c.recentSuggestionSteps.length)

def isRepeatSuppressed (c : ProactiveController) (key : String) (sequence : Nat) : Bool :=
  match c.lastSuggestionStepByKey key with
  | none => false
  | some previous => decide ((sequence : Int) - previous ≤ c.config.repetitionCooldownSteps)

/-- Count one suggestion: its day, its step and its key. -/
def countSuggestion (c : ProactiveController) (day sequence : Nat) (key : String) : ProactiveController :=
  { c with
    dailySuggestionCount := fun d =>
      if d = day then c.dailySuggestionCount day + 1 else c.dailySuggestionCount d
    recentSuggestionSteps := c.recentSuggestionSteps ++ [sequence]
    lastSuggestionStepByKey := fun k => if k = key then some sequence else c.lastSuggestionStepByKey k }

/-- The loop of `evaluate` over the ranked candidates. -/
def suggest (current : DateTime) (sequence : Nat) :
    List ScoredSuggestion → ProactiveController → List Suggestion × ProactiveController
  | [], c => ([], c)
  | candidate :: rest, c =>
    if candidate.pattern.confidence.lt c.confidenceThreshold then suggest current sequence rest c
    else if c.remainingBudget current.date = 0 then ([], c)
    else if c.windowLimitReached then ([], c)
    else if c.isRepeatSuppressed candidate.key sequence then suggest current sequence rest c
    else
      let suggestion := buildSuggestion candidate.pattern current candidate.key
      let later := suggest current sequence rest (c.countSuggestion current.date sequence candidate.key)
      (suggestion :: later.1, later.2)

def evaluate (c : ProactiveController) (context : Dict) (current : DateTime)
    (restrictedMode : Bool) : Except Exc (List Suggestion) × ProactiveController :=
  let c := { c with evaluationSequence := c.evaluationSequence + 1 }
  if c.silentMode || restrictedMode then (.ok [], c)
  else if c.remainingBudget current.date = 0 then (.ok [], c)
  else
    match (detect py fp c.config.patternDetector context).bind fun patterns =>
      rank py fp patterns context with
    | .error e => (.error e, c)
    | .ok ranked =>
      let evaluated := suggest current c.evaluationSequence ranked
        (c.evictOldWindowEntries c.evaluationSequence)
      (.ok evaluated.1, evaluated.2)

/-- `recalibrate_threshold`, with what a literal of two decimals denotes. -/
def recalibrateThresholdBy (decimal : Nat → PyFloat) (c : ProactiveController) :
    ProactiveController :=
  { c with
    confidenceThreshold := updateThresholdBy fp decimal c.config.calibration c.confidenceThreshold
      (c.acceptanceTracker.totalMetrics fp) }

/-- `record_outcome`, with what a literal of two decimals denotes. -/
def recordOutcomeBy (decimal : Nat → PyFloat) (c : ProactiveController) (outcome : String)
    (current : DateTime) (overridden : Bool) : Except Exc Unit × ProactiveController :=
  match c.acceptanceTracker.record outcome current.date overridden with
  | .error e => (.error e, c)
  | .ok tracker =>
    (.ok (), { c with acceptanceTracker := tracker }.recalibrateThresholdBy fp decimal)

def recalibrateThreshold (c : ProactiveController) : ProactiveController :=
  c.recalibrateThresholdBy fp hundredths

def recordOutcome (c : ProactiveController) (outcome : String) (current : DateTime)
    (overridden : Bool) : Except Exc Unit × ProactiveController :=
  c.recordOutcomeBy fp hundredths outcome current overridden

end ProactiveController

end Apcos.Source.Cognition
