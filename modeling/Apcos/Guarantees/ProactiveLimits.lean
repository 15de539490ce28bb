import Apcos.Lib.Comp
import Apcos.Lib.RateLimit
import Apcos.Lib.Runs
import Apcos.Lib.Traverse
import Apcos.Source.Cognition.ProactiveController

/-!
# Proactive rate limits

Every emission of a run is logged with the number of its evaluation. The daily
count, the pruned queue and the memory of keys each recall enough of the log for
their limit, whatever the calls do in between. The confidence check compares with
`<`, which a NaN threshold passes through: a threshold that is in force is a
number exactly when the configured one and the lower bound of the calibration are.
-/
namespace Apcos.Guarantees.ProactiveLimits

open Apcos.Lib
open Apcos.Source.Python
open Apcos.Source.Cognition

inductive ProactiveCall where
  | evaluate (context : Dict) (now : DateTime) (restrictedMode : Bool)
  | setSilentMode (enabled : Bool)
  | recordOutcome (outcome : String) (now : DateTime) (overridden : Bool)
  | recalibrateThreshold

/-- A suggestion that was returned, with the call that returned it: its number among
the evaluations, its day and what was in force. -/
structure Emission where
  call : Nat
  day : Nat
  key : String
  confidence : PyFloat
  threshold : PyFloat
  silent : Bool
  restricted : Bool

/-- The controller, the evaluations so far and what they emitted, oldest first. -/
structure Session where
  controller : ProactiveController
  evaluations : Nat
  emissions : List Emission

def emissionOf (call : Nat) (c : ProactiveController) (now : DateTime) (restrictedMode : Bool)
    (s : Suggestion) : Emission :=
  ⟨call, now.date, s.suggestionKey, s.confidence, c.confidenceThreshold, c.silentMode, restrictedMode⟩

def returned (call : Nat) (c : ProactiveController) (now : DateTime) (restrictedMode : Bool) :
    Except Exc (List Suggestion) → List Emission
  | .ok suggestions => suggestions.map (emissionOf call c now restrictedMode)
  | .error _ => []

variable (py : Runtime) (fp : Arithmetic)

def step (s : Session) : ProactiveCall → Session
  | .evaluate context now restrictedMode =>
    let out := s.controller.evaluate py fp context now restrictedMode
    let call := s.evaluations + 1
    ⟨out.2, call, s.emissions ++ returned call s.controller now restrictedMode out.1⟩
  | .setSilentMode enabled => { s with controller := s.controller.setSilentMode enabled }
  | .recordOutcome outcome now overridden =>
    { s with controller := (s.controller.recordOutcome fp outcome now overridden).2 }
  | .recalibrateThreshold => { s with controller := s.controller.recalibrateThreshold fp }

/-! ## The limits -/

/-- What the configuration promises about the emissions of a run. -/
structure Limits (config : ProactiveConfig) (emissions : List Emission) : Prop where
  daily : ∀ day, ((emissions.countP fun e => decide (e.day = day) : Nat) : Int) ≤ config.dailyLimit
  window : ∀ start : Nat, ((emissions.countP fun e => decide (start ≤ e.call ∧
    (e.call : Int) < start + config.recentSuggestionWindow) : Nat) : Int) ≤
      config.maxSuggestionsPerWindow
  cooldown : emissions.Pairwise fun a b =>
    a.key = b.key → (a.call : Int) + config.repetitionCooldownSteps < b.call
  quiet : ∀ e ∈ emissions, e.silent = false ∧ e.restricted = false
  confident : ∀ e ∈ emissions, e.threshold.le e.confidence = true

def stepsOf (emissions : List Emission) : List Nat := emissions.map Emission.call

def keysOf (emissions : List Emission) : List (String × Nat) :=
  emissions.map fun e => (e.key, e.call)

/-- What an accepted configuration satisfies. -/
structure Accepted (config : ProactiveConfig) : Prop where
  daily : 1 ≤ config.dailyLimit
  window : 1 ≤ config.recentSuggestionWindow
  most : 1 ≤ config.maxSuggestionsPerWindow
  cooldown : 1 ≤ config.repetitionCooldownSteps

/-- What the state of the controller recalls of the log, and the three limits. -/
structure Bounded (now : Nat) (emissions : List Emission) (c : ProactiveController) : Prop where
  accepted : Accepted c.config
  past : ∀ e ∈ emissions, e.call ≤ now
  counts : ∀ day, c.dailySuggestionCount day = emissions.countP fun e => decide (e.day = day)
  recalls : Recalls c.config.recentSuggestionWindow.toNat now (stepsOf emissions)
    c.recentSuggestionSteps
  remembers : Remembers c.lastSuggestionStepByKey (keysOf emissions)
  daily : ∀ day, ((emissions.countP fun e => decide (e.day = day) : Nat) : Int) ≤ c.config.dailyLimit
  rated : Rated c.config.recentSuggestionWindow.toNat c.config.maxSuggestionsPerWindow.toNat
    (stepsOf emissions)
  spaced : Spaced c.config.repetitionCooldownSteps.toNat (keysOf emissions)

theorem Bounded.later {now now' : Nat} {emissions : List Emission} {c : ProactiveController}
    (bounded : Bounded now emissions c) (le : now ≤ now') : Bounded now' emissions c where
  accepted := bounded.accepted
  past e member := (bounded.past e member).trans le
  counts := bounded.counts
  recalls := bounded.recalls.later le
  remembers := bounded.remembers
  daily := bounded.daily
  rated := bounded.rated
  spaced := bounded.spaced

theorem Bounded.evict {now : Nat} {emissions : List Emission} {c : ProactiveController}
    (bounded : Bounded now emissions c) : Bounded now emissions (c.evictOldWindowEntries now) where
  accepted := bounded.accepted
  past := bounded.past
  counts := bounded.counts
  recalls := by
    apply bounded.recalls.evict
    intro t tooOld
    have old := of_decide_eq_true tooOld
    have positive := bounded.accepted.window
    show t + c.config.recentSuggestionWindow.toNat ≤ now
    omega
  remembers := bounded.remembers
  daily := bounded.daily
  rated := bounded.rated
  spaced := bounded.spaced

/-- One suggestion that passes the checks of the loop stays within every limit. -/
theorem Bounded.push {now : Nat} {emissions : List Emission} {c : ProactiveController}
    (bounded : Bounded now emissions c) (e : Emission) (call : e.call = now)
    (budget : c.remainingBudget e.day ≠ 0) (room : c.windowLimitReached = false)
    (fresh : c.isRepeatSuppressed e.key now = false) :
    Bounded now (emissions ++ [e]) (c.countSuggestion e.day now e.key) where
  accepted := bounded.accepted
  past := by
    intro other member
    rcases List.mem_append.mp member with before | single
    · exact bounded.past other before
    · rw [List.mem_singleton.mp single]
      exact call.le
  counts := by
    intro day
    have before := bounded.counts day
    simp only [ProactiveController.countSuggestion, List.countP_append, List.countP_singleton]
    by_cases same : day = e.day
    · subst same
      simp [before]
    · have other : e.day ≠ day := Ne.symm same
      simp [same, other, before]
  recalls := by
    have admitted := bounded.recalls.push now
    simp only [stepsOf, List.map_append, List.map_singleton, call]
    exact admitted
  remembers := by
    have admitted := bounded.remembers.push now e.key (by
      intro entry member
      obtain ⟨other, logged, rfl⟩ := List.mem_map.mp member
      exact bounded.past other logged)
    simp only [keysOf, List.map_append, List.map_singleton, call]
    exact admitted
  daily := by
    intro day
    have before := bounded.daily day
    rw [List.countP_append, List.countP_singleton]
    by_cases same : e.day = day
    · subst same
      have used := bounded.counts e.day
      simp only [ProactiveController.remainingBudget] at budget
      have more : c.dailySuggestionCount e.day < c.config.dailyLimit := by omega
      simp only [decide_true, if_true]
      show ((_ + 1 : Nat) : Int) ≤ c.config.dailyLimit
      omega
    · simp only [same, decide_false]
      show ((_ + 0 : Nat) : Int) ≤ c.config.dailyLimit
      omega
  rated := by
    have admitted := bounded.rated.push bounded.recalls (by
      have below := of_decide_eq_false room
      omega)
    simp only [stepsOf, List.map_append, List.map_singleton, call]
    exact admitted
  spaced := by
    have admitted := bounded.spaced.push bounded.remembers now e.key (by
      intro t last
      simp only [ProactiveController.isRepeatSuppressed, last, decide_eq_false_iff_not] at fresh
      have positive := bounded.accepted.cooldown
      omega)
    simp only [keysOf, List.map_append, List.map_singleton, call]
    exact admitted

/-! ## One evaluation -/

/-- The controller at the head of an evaluation. -/
def counted (c : ProactiveController) : ProactiveController :=
  { c with evaluationSequence := c.evaluationSequence + 1 }

/-- How an evaluation ends: without a suggestion, or with those of the loop. -/
inductive Evaluated (c : ProactiveController) (context : Dict) (now : DateTime)
    (restrictedMode : Bool) : Except Exc (List Suggestion) × ProactiveController → Prop where
  | nothing : Evaluated c context now restrictedMode (.ok [], counted c)
  | raised (e : Exc) : Evaluated c context now restrictedMode (.error e, counted c)
  | suggested (patterns : List PatternResult) (ranked : List ScoredSuggestion)
      (loud : c.silentMode = false) (open_ : restrictedMode = false)
      (detected : detect py fp c.config.patternDetector context = .ok patterns)
      (ordered : rank py fp patterns context = .ok ranked) :
      Evaluated c context now restrictedMode
        (.ok (ProactiveController.suggest now (c.evaluationSequence + 1) ranked
            ((counted c).evictOldWindowEntries (c.evaluationSequence + 1))).1,
          (ProactiveController.suggest now (c.evaluationSequence + 1) ranked
            ((counted c).evictOldWindowEntries (c.evaluationSequence + 1))).2)

theorem evaluate_evaluated (c : ProactiveController) (context : Dict) (now : DateTime)
    (restrictedMode : Bool) :
    Evaluated py fp c context now restrictedMode (c.evaluate py fp context now restrictedMode) := by
  unfold ProactiveController.evaluate
  dsimp only
  split
  · exact .nothing
  · rename_i permitted
    simp only [Bool.or_eq_true, not_or, Bool.not_eq_true] at permitted
    split
    · exact .nothing
    · cases detected : detect py fp c.config.patternDetector context with
      | error e => exact .raised e
      | ok patterns =>
        simp only [Except.bind]
        cases ordered : rank py fp patterns context with
        | error e => exact .raised e
        | ok ranked => exact .suggested patterns ranked permitted.1 permitted.2 detected ordered

/-- The loop stays within the limits and keeps what is in force. -/
theorem suggest_bounded {now : DateTime} {call : Nat} {make : Suggestion → Emission}
    (made : ∀ s, (make s).call = call ∧ (make s).day = now.date ∧ (make s).key = s.suggestionKey)
    (ranked : List ScoredSuggestion) (emissions : List Emission) (c : ProactiveController)
    (bounded : Bounded call emissions c) :
    let out := ProactiveController.suggest now call ranked c
    Bounded call (emissions ++ out.1.map make) out.2 := by
  induction ranked generalizing emissions c with
  | nil => simpa [ProactiveController.suggest] using bounded
  | cons candidate rest ih =>
    simp only [ProactiveController.suggest]
    split
    · exact ih emissions c bounded
    · split
      · simpa using bounded
      · rename_i budget
        split
        · simpa using bounded
        · rename_i room
          split
          · exact ih emissions c bounded
          · rename_i fresh
            let suggestion := buildSuggestion candidate.pattern now candidate.key
            obtain ⟨called, dated, keyed⟩ := made suggestion
            have named : (make suggestion).key = candidate.key := keyed
            have admitted := bounded.push (make suggestion) called (dated ▸ budget)
              (Bool.eq_false_iff.mpr room) (by rw [named]; exact Bool.eq_false_iff.mpr fresh)
            rw [dated, named] at admitted
            have later := ih (emissions ++ [make suggestion]) _ admitted
            simp only [List.append_assoc] at later
            exact later

theorem suggest_config (now : DateTime) (call : Nat) (ranked : List ScoredSuggestion)
    (c : ProactiveController) :
    let out := ProactiveController.suggest now call ranked c
    out.2.config = c.config ∧ out.2.confidenceThreshold = c.confidenceThreshold ∧
      out.2.evaluationSequence = c.evaluationSequence := by
  induction ranked generalizing c with
  | nil => exact ⟨rfl, rfl, rfl⟩
  | cons candidate rest ih =>
    simp only [ProactiveController.suggest]
    split_ifs
    · exact ih c
    · exact ⟨rfl, rfl, rfl⟩
    · exact ⟨rfl, rfl, rfl⟩
    · exact ih c
    · exact ih (c.countSuggestion now.date call candidate.key)

/-- A suggestion has the confidence of a candidate that was not below the threshold. -/
theorem suggest_confident (now : DateTime) (call : Nat) (ranked : List ScoredSuggestion)
    (c : ProactiveController) :
    ∀ s ∈ (ProactiveController.suggest now call ranked c).1, ∃ candidate ∈ ranked,
      s.confidence = candidate.pattern.confidence ∧
        candidate.pattern.confidence.lt c.confidenceThreshold = false := by
  induction ranked generalizing c with
  | nil => simp [ProactiveController.suggest]
  | cons candidate rest ih =>
    intro s member
    simp only [ProactiveController.suggest] at member
    split at member
    · obtain ⟨found, among, facts⟩ := ih c s member
      exact ⟨found, List.mem_cons_of_mem candidate among, facts⟩
    · rename_i enough
      split at member
      · cases member
      · split at member
        · cases member
        · split at member
          · obtain ⟨found, among, facts⟩ := ih c s member
            exact ⟨found, List.mem_cons_of_mem candidate among, facts⟩
          · rcases List.mem_cons.mp member with rfl | later
            · exact ⟨candidate, List.mem_cons_self, rfl, Bool.eq_false_iff.mpr enough⟩
            · obtain ⟨found, among, facts⟩ :=
                ih (c.countSuggestion now.date call candidate.key) s later
              exact ⟨found, List.mem_cons_of_mem candidate among, facts⟩

/-! ## Confidences are numbers -/

theorem weighted_number {base weight confidence : PyFloat} {count : Int}
    (computed : weighted py fp base count weight = .ok confidence) : confidence ≠ .nan := by
  unfold weighted at computed
  obtain ⟨number, -, same⟩ := bind_ok computed
  cases same
  exact PyFloat.min_ne_nan (by simp) _

/-- Every confidence of the list is a number. -/
def Numeric (patterns : List PatternResult) : Prop := ∀ p ∈ patterns, p.confidence ≠ .nan

theorem numeric_single {p : PatternResult} (number : p.confidence ≠ .nan) : Numeric [p] := by
  intro other member
  rw [List.mem_singleton.mp member]
  exact number

theorem detectMissed_numeric {context : Dict} {patterns : List PatternResult}
    (detected : detectMissed py fp context = .ok patterns) : Numeric patterns := by
  unfold detectMissed at detected
  obtain ⟨overdue, -, detected⟩ := bind_ok detected
  split at detected
  · obtain ⟨confidence, computed, same⟩ := bind_ok detected
    cases same
    exact numeric_single (weighted_number py fp computed)
  · cases detected
    simp [Numeric]

theorem detectOverload_numeric {d : PatternDetector} {context : Dict}
    {patterns : List PatternResult} (detected : detectOverload py fp d context = .ok patterns) :
    Numeric patterns := by
  unfold detectOverload at detected
  obtain ⟨scheduled, -, detected⟩ := bind_ok detected
  obtain ⟨capacity, -, detected⟩ := bind_ok detected
  dsimp only at detected
  split at detected
  · obtain ⟨confidence, computed, same⟩ := bind_ok detected
    cases same
    exact numeric_single (weighted_number py fp computed)
  · cases detected
    simp [Numeric]

theorem detectDeviation_numeric {d : PatternDetector} {context : Dict}
    {patterns : List PatternResult} (detected : detectDeviation py fp d context = .ok patterns) :
    Numeric patterns := by
  unfold detectDeviation at detected
  obtain ⟨alignment, -, detected⟩ := bind_ok detected
  split at detected
  · cases detected
    exact numeric_single (PyFloat.min_ne_nan (by simp) _)
  · cases detected
    simp [Numeric]

theorem detect_numeric {d : PatternDetector} {context : Dict} {patterns : List PatternResult}
    (detected : detect py fp d context = .ok patterns) : Numeric patterns := by
  unfold detect at detected
  obtain ⟨missed, first, detected⟩ := bind_ok detected
  obtain ⟨overload, second, detected⟩ := bind_ok detected
  obtain ⟨deviation, third, same⟩ := bind_ok detected
  cases same
  intro p member
  rw [List.mem_append, List.mem_append] at member
  rcases member with (found | found) | found
  · exact detectMissed_numeric py fp first p found
  · exact detectOverload_numeric py fp second p found
  · exact detectDeviation_numeric py fp third p found

theorem scored_patterns {taskId : String} (patterns : List PatternResult)
    (scored : List ScoredSuggestion)
    (computed : patterns.mapM (scorePattern py fp taskId) = .ok scored) :
    scored.map ScoredSuggestion.pattern = patterns := by
  have pointwise := mapM_ok_iff.mp computed
  clear computed
  induction pointwise with
  | nil => rfl
  | cons here later ih =>
    unfold scorePattern at here
    obtain ⟨key, -, same⟩ := bind_ok here
    cases same
    rw [List.map_cons, ih]

theorem rank_patterns {patterns : List PatternResult} {context : Dict}
    {ranked : List ScoredSuggestion} (ordered : rank py fp patterns context = .ok ranked) :
    (ranked.map ScoredSuggestion.pattern).Perm patterns := by
  unfold rank at ordered
  obtain ⟨taskId, -, ordered⟩ := bind_ok ordered
  obtain ⟨scored, computed, same⟩ := bind_ok ordered
  cases same
  rw [← scored_patterns py fp patterns scored computed]
  exact (List.perm_insertionSort ranksBefore scored).map ScoredSuggestion.pattern

/-! ## Every run -/

/-- The books of a session, whatever the thresholds. -/
structure Kept (config : ProactiveConfig) (s : Session) : Prop where
  config : s.controller.config = config
  sequence : s.controller.evaluationSequence = s.evaluations
  bounded : Bounded s.evaluations s.emissions s.controller
  quiet : ∀ e ∈ s.emissions, e.silent = false ∧ e.restricted = false

/-- The threshold in force is a number and was met by every emission. -/
structure Confident (s : Session) : Prop where
  number : s.controller.confidenceThreshold ≠ .nan
  met : ∀ e ∈ s.emissions, e.threshold.le e.confidence = true

theorem recordOutcome_calibrates (c : ProactiveController) (outcome : String) (now : DateTime)
    (overridden : Bool) :
    (c.recordOutcome fp outcome now overridden).2 = c ∨
      ∃ tracker, (c.recordOutcome fp outcome now overridden).2 =
        ({ c with acceptanceTracker := tracker } : ProactiveController).recalibrateThreshold fp := by
  unfold ProactiveController.recordOutcome ProactiveController.recordOutcomeBy
  split
  · exact Or.inl rfl
  · exact Or.inr ⟨_, rfl⟩

/-- Each call keeps the books of the session. -/
theorem step_kept {config : ProactiveConfig} (s : Session) (call : ProactiveCall)
    (kept : Kept config s) : Kept config (step py fp s call) := by
  have same_books {c : ProactiveController} (config_eq : c.config = s.controller.config)
      (steps : c.recentSuggestionSteps = s.controller.recentSuggestionSteps)
      (days : c.dailySuggestionCount = s.controller.dailySuggestionCount)
      (keys : c.lastSuggestionStepByKey = s.controller.lastSuggestionStepByKey) :
      Bounded s.evaluations s.emissions c := by
    have bounded := kept.bounded
    constructor
    · rw [config_eq]; exact bounded.accepted
    · exact bounded.past
    · rw [days]; exact bounded.counts
    · rw [config_eq, steps]; exact bounded.recalls
    · rw [keys]; exact bounded.remembers
    · rw [config_eq]; exact bounded.daily
    · rw [config_eq]; exact bounded.rated
    · rw [config_eq]; exact bounded.spaced
  cases call with
  | evaluate context now restrictedMode =>
    have advanced : Bounded (s.evaluations + 1) s.emissions (counted s.controller) :=
      (same_books (c := counted s.controller) rfl rfl rfl rfl).later (Nat.le_succ _)
    have outcome := evaluate_evaluated py fp s.controller context now restrictedMode
    simp only [step]
    generalize s.controller.evaluate py fp context now restrictedMode = out at outcome
    cases outcome with
    | nothing =>
      refine ⟨kept.config, congrArg (· + 1) kept.sequence, ?_, ?_⟩
      · simpa [returned] using advanced
      · simpa [returned] using kept.quiet
    | raised e =>
      refine ⟨kept.config, congrArg (· + 1) kept.sequence, ?_, ?_⟩
      · simpa [returned] using advanced
      · simpa [returned] using kept.quiet
    | suggested patterns ranked loud open_ detected ordered =>
      rw [kept.sequence]
      obtain ⟨same_config, -, same_sequence⟩ := suggest_config now (s.evaluations + 1) ranked
        ((counted s.controller).evictOldWindowEntries (s.evaluations + 1))
      refine ⟨same_config.trans kept.config,
        same_sequence.trans (congrArg (· + 1) kept.sequence), ?_, ?_⟩
      · have made (suggestion : Suggestion) :
            (emissionOf (s.evaluations + 1) s.controller now restrictedMode suggestion).call =
              s.evaluations + 1 ∧
            (emissionOf (s.evaluations + 1) s.controller now restrictedMode suggestion).day =
              now.date ∧
            (emissionOf (s.evaluations + 1) s.controller now restrictedMode suggestion).key =
              suggestion.suggestionKey := ⟨rfl, rfl, rfl⟩
        exact suggest_bounded made ranked s.emissions _ advanced.evict
      · intro e member
        rcases List.mem_append.mp member with before | made
        · exact kept.quiet e before
        · obtain ⟨suggestion, -, rfl⟩ := List.mem_map.mp made
          exact ⟨loud, open_⟩
  | setSilentMode enabled => exact ⟨kept.config, kept.sequence, same_books rfl rfl rfl rfl, kept.quiet⟩
  | recordOutcome outcome now overridden =>
    rcases recordOutcome_calibrates fp s.controller outcome now overridden with same | ⟨tracker, same⟩
    · simp only [step, same]
      exact kept
    · simp only [step, same]
      exact ⟨kept.config, kept.sequence, same_books rfl rfl rfl rfl, kept.quiet⟩
  | recalibrateThreshold => exact ⟨kept.config, kept.sequence, same_books rfl rfl rfl rfl, kept.quiet⟩

theorem updateThreshold_number {cfg : CalibrationConfig} (number : cfg.minThreshold ≠ .nan)
    (currentThreshold : PyFloat) (metrics : AcceptanceMetrics) :
    updateThreshold fp cfg currentThreshold metrics ≠ .nan := by
  unfold updateThreshold updateThresholdBy
  dsimp only
  split
  · exact PyFloat.max_ne_nan number _
  · exact PyFloat.max_ne_nan number _

/-- Where the threshold is a number, each call keeps the suggestions above it. -/
theorem step_confident {config : ProactiveConfig} (number : config.calibration.minThreshold ≠ .nan)
    (s : Session) (call : ProactiveCall) (kept : Kept config s) (confident : Confident s) :
    Confident (step py fp s call) := by
  have calibrated (c : ProactiveController) (config_eq : c.config = config) :
      (c.recalibrateThreshold fp).confidenceThreshold ≠ .nan := by
    apply updateThreshold_number
    rw [config_eq]
    exact number
  cases call with
  | evaluate context now restrictedMode =>
    have outcome := evaluate_evaluated py fp s.controller context now restrictedMode
    simp only [step]
    generalize s.controller.evaluate py fp context now restrictedMode = out at outcome
    cases outcome with
    | nothing => exact ⟨confident.number, by simpa [returned] using confident.met⟩
    | raised e => exact ⟨confident.number, by simpa [returned] using confident.met⟩
    | suggested patterns ranked loud open_ detected ordered =>
      obtain ⟨-, same_threshold, -⟩ := suggest_config now (s.controller.evaluationSequence + 1)
        ranked ((counted s.controller).evictOldWindowEntries (s.controller.evaluationSequence + 1))
      refine ⟨fun nan => confident.number (same_threshold.symm.trans nan), ?_⟩
      intro e member
      rcases List.mem_append.mp member with before | made
      · exact confident.met e before
      · obtain ⟨suggestion, emitted, rfl⟩ := List.mem_map.mp made
        obtain ⟨candidate, among, confidence, enough⟩ := suggest_confident _ _ _ _ suggestion emitted
        have candidate_number : candidate.pattern.confidence ≠ .nan := by
          apply detect_numeric py fp detected
          exact (rank_patterns py fp ordered).mem_iff.mp (List.mem_map_of_mem among)
        show s.controller.confidenceThreshold.le suggestion.confidence = true
        rw [confidence]
        exact PyFloat.le_of_not_lt confident.number candidate_number enough
  | setSilentMode enabled => exact ⟨confident.number, confident.met⟩
  | recordOutcome outcome now overridden =>
    rcases recordOutcome_calibrates fp s.controller outcome now overridden with same | ⟨tracker, same⟩
    · simp only [step, same]
      exact confident
    · simp only [step, same]
      exact ⟨calibrated _ kept.config, confident.met⟩
  | recalibrateThreshold => exact ⟨calibrated _ kept.config, confident.met⟩

/-! ## A NaN threshold lets a suggestion pass -/

/-- The controller as the constructor leaves it, apart from its threshold. -/
structure Fresh (config : ProactiveConfig) (c : ProactiveController) : Prop where
  config : c.config = config
  silent : c.silentMode = false
  days : c.dailySuggestionCount = fun _ => 0
  sequence : c.evaluationSequence = 0
  steps : c.recentSuggestionSteps = []
  keys : c.lastSuggestionStepByKey = fun _ => none

theorem create_ok {config : ProactiveConfig} {c : ProactiveController}
    (created : ProactiveController.create config = .ok c) :
    Accepted config ∧ Fresh config c ∧ c.confidenceThreshold = config.confidenceThreshold := by
  unfold ProactiveController.create at created
  split_ifs at created with daily range window most cooldown
  cases created
  exact ⟨⟨by omega, by omega, by omega, by omega⟩, ⟨rfl, rfl, rfl, rfl, rfl, rfl⟩, rfl⟩

/-- One overdue task, and no capacity that could overflow. -/
def overdueContext : Dict := [("overdue_tasks", .int 1), ("daily_capacity", .int 0)]

theorem floatOfInt_one : ∃ x, floatOfInt 1 = some x := by
  have small : roundToDouble (1 : Int).natAbs = 1 := by decide
  have fits (n : Nat) (nonzero : n ≠ 0) : 1 < 2 ^ n := Nat.one_lt_two_pow nonzero
  unfold floatOfInt
  rw [small]
  dsimp only
  rw [if_pos (fits 1024 (by decide))]
  exact ⟨_, rfl⟩

theorem intText_one : ∃ text, intText py (.int 1) = .ok text := by
  have short (n : Nat) (nonzero : n ≠ 0) : 1 < 10 ^ n := Nat.one_lt_pow nonzero (by decide)
  have printable : (Value.int 1).printable = true := by
    simp only [Value.printable]
    exact decide_eq_true (short maxStrDigits (by decide))
  refine ⟨py.repr (.int 1), ?_⟩
  unfold intText
  rw [int, ok_bind]
  simp only [str, printable, if_true]

theorem detect_overdue (d : PatternDetector) :
    ∃ confidence deviation, detect py fp d overdueContext =
        .ok (⟨"missed_task", confidence, [("overdue_tasks", .int 1)]⟩ :: deviation) ∧
      ∀ p ∈ deviation, p.patternType = "goal_deviation" ∧
        ∃ x, p.details = [("goal_alignment_score", .float x)] := by
  obtain ⟨one, number⟩ := floatOfInt_one
  obtain ⟨confidence, missed⟩ : ∃ confidence, detectMissed py fp overdueContext =
      .ok [⟨"missed_task", confidence, [("overdue_tasks", .int 1)]⟩] := by
    have weight : weighted py fp (hundredths 60) 1 (hundredths 10) =
        .ok ((PyFloat.finite 1).min (fp.add (hundredths 60) (fp.mul one (hundredths 10)))) := by
      simp only [weighted, float, number]
      rfl
    refine ⟨(PyFloat.finite 1).min (fp.add (hundredths 60) (fp.mul one (hundredths 10))), ?_⟩
    have unfolded : detectMissed py fp overdueContext =
        (weighted py fp (hundredths 60) 1 (hundredths 10) >>= fun confidence =>
          pure [⟨"missed_task", confidence, [("overdue_tasks", .int 1)]⟩]) := rfl
    rw [unfolded, weight]
    rfl
  have overload : detectOverload py fp d overdueContext = .ok [] := by
    have capacity : ¬max d.overloadThreshold 0 < 0 := not_lt.mpr (le_max_right _ _)
    have unfolded : detectOverload py fp d overdueContext =
        if max d.overloadThreshold 0 < 0 then
          (weighted py fp (hundredths 65) (0 - max d.overloadThreshold 0) (hundredths 5) >>=
            fun confidence => pure [⟨"overloaded_day", confidence,
              [("scheduled_tasks_today", .int 0),
                ("daily_capacity", .int (max d.overloadThreshold 0))]⟩])
        else .ok [] := rfl
    rw [unfolded, if_neg capacity]
  have deviation : ∃ found, detectDeviation py fp d overdueContext = .ok found ∧
      ∀ p ∈ found, p.patternType = "goal_deviation" ∧
        ∃ x, p.details = [("goal_alignment_score", .float x)] := by
    have unfolded : detectDeviation py fp d overdueContext =
        if (PyFloat.finite 1).lt d.goalDeviationThreshold then
          .ok [⟨"goal_deviation", (PyFloat.finite 1).min (fp.add (hundredths 60)
            (fp.sub d.goalDeviationThreshold (.finite 1))),
              [("goal_alignment_score", .float (.finite 1))]⟩]
        else .ok [] := rfl
    rw [unfolded]
    split
    · exact ⟨_, rfl, by simp⟩
    · exact ⟨_, rfl, by simp⟩
  obtain ⟨found, detected, shape⟩ := deviation
  refine ⟨confidence, found, ?_, shape⟩
  unfold detect
  rw [missed, overload, detected]
  rfl

theorem rank_overdue (confidence : PyFloat) {deviation : List PatternResult}
    (shape : ∀ p ∈ deviation, p.patternType = "goal_deviation" ∧
      ∃ x, p.details = [("goal_alignment_score", .float x)]) :
    ∃ candidate rest, rank py fp
      (⟨"missed_task", confidence, [("overdue_tasks", .int 1)]⟩ :: deviation) overdueContext =
        .ok (candidate :: rest) := by
  obtain ⟨text, one⟩ := intText_one py
  obtain ⟨scored, computed⟩ : ∃ scored,
      (⟨"missed_task", confidence, [("overdue_tasks", .int 1)]⟩ :: deviation).mapM
        (scorePattern py fp "global") = .ok scored := by
    apply mapM_ok_of_forall
    intro p member
    rcases List.mem_cons.mp member with rfl | among
    · have key : buildKey py fp "missed_task" "global" [("overdue_tasks", .int 1)] =
          .ok ("missed_task" ++ "|task:" ++ "global" ++ "|" ++ ("overdue:" ++ text)) := by
        unfold buildKey
        simp only [List.lookup_cons, BEq.rfl, one, ok_bind]
        rfl
      simp only [scorePattern, key, ok_bind]
      exact ⟨_, rfl⟩
    · obtain ⟨-, x, details⟩ := shape p among
      have key : buildKey py fp p.patternType "global" p.details =
          .ok (p.patternType ++ "|task:" ++ "global" ++ "|" ++ ("align:" ++ fp.fixed2 x)) := by
        rw [details]
        rfl
      simp only [scorePattern, key, ok_bind]
      exact ⟨_, rfl⟩
  have ordered : rank py fp
      (⟨"missed_task", confidence, [("overdue_tasks", .int 1)]⟩ :: deviation) overdueContext =
        .ok (scored.insertionSort ranksBefore) := by
    unfold rank
    have task : extractTaskId py overdueContext = .ok "global" := rfl
    rw [task, ok_bind, computed]
    rfl
  have patterns := (rank_patterns py fp ordered).length_eq
  cases sorted : scored.insertionSort ranksBefore with
  | nil =>
    rw [sorted] at patterns
    simp at patterns
  | cons candidate rest => exact ⟨candidate, rest, ordered.trans (congrArg Except.ok sorted)⟩

theorem evaluate_of_ranked {c : ProactiveController} {context : Dict} {now : DateTime}
    {patterns : List PatternResult} {ranked : List ScoredSuggestion} (loud : c.silentMode = false)
    (budget : (counted c).remainingBudget now.date ≠ 0)
    (detected : detect py fp c.config.patternDetector context = .ok patterns)
    (ordered : rank py fp patterns context = .ok ranked) :
    (c.evaluate py fp context now false).1 =
      .ok (ProactiveController.suggest now (c.evaluationSequence + 1) ranked
        ((counted c).evictOldWindowEntries (c.evaluationSequence + 1))).1 := by
  unfold ProactiveController.evaluate
  dsimp only
  rw [if_neg (by simp [loud])]
  split
  · rename_i spent
    exact absurd spent budget
  · simp only [detected, Except.bind, ordered]
    rfl

theorem suggest_head (now : DateTime) (call : Nat) (candidate : ScoredSuggestion)
    (rest : List ScoredSuggestion) (c : ProactiveController)
    (passes : candidate.pattern.confidence.lt c.confidenceThreshold = false)
    (budget : c.remainingBudget now.date ≠ 0) (room : c.windowLimitReached = false)
    (fresh : c.isRepeatSuppressed candidate.key call = false) :
    ∃ later, (ProactiveController.suggest now call (candidate :: rest) c).1 =
      buildSuggestion candidate.pattern now candidate.key :: later := by
  refine ⟨(ProactiveController.suggest now call rest
    (c.countSuggestion now.date call candidate.key)).1, ?_⟩
  simp only [ProactiveController.suggest, passes, if_neg budget, room, fresh, Bool.false_eq_true,
    if_false]

/-- A fresh controller whose threshold is a NaN suggests something. -/
theorem evaluate_nan {config : ProactiveConfig} {c : ProactiveController} (accepted : Accepted config)
    (fresh : Fresh config c) (nan : c.confidenceThreshold = .nan) (now : DateTime) :
    ∃ suggestion rest, (c.evaluate py fp overdueContext now false).1 =
      .ok (suggestion :: rest) := by
  obtain ⟨confidence, deviation, detected, shape⟩ := detect_overdue py fp config.patternDetector
  obtain ⟨candidate, rest, ordered⟩ := rank_overdue py fp confidence shape
  have budget (c' : ProactiveController) (same : c'.config = config)
      (days : c'.dailySuggestionCount = fun _ => 0) : c'.remainingBudget now.date ≠ 0 := by
    have daily := accepted.daily
    simp only [ProactiveController.remainingBudget, same, days]
    omega
  rw [← fresh.config] at detected
  rw [evaluate_of_ranked py fp fresh.silent (budget _ fresh.config fresh.days) detected ordered]
  have most := accepted.most
  obtain ⟨later, emitted⟩ := suggest_head now (c.evaluationSequence + 1) candidate rest
    ((counted c).evictOldWindowEntries (c.evaluationSequence + 1))
    (by
      show candidate.pattern.confidence.lt c.confidenceThreshold = false
      rw [nan, PyFloat.lt_nan_right])
    (budget _ fresh.config fresh.days)
    (by
      apply decide_eq_false
      simp only [ProactiveController.evictOldWindowEntries, counted, fresh.config, fresh.steps]
      simp only [List.dropWhile_nil, List.length_nil]
      omega)
    (by simp only [ProactiveController.isRepeatSuppressed,
      ProactiveController.evictOldWindowEntries, counted, fresh.keys])
  exact ⟨_, later, congrArg Except.ok emitted⟩

/-! ## When the limits hold -/

theorem fresh_kept {config : ProactiveConfig} {c : ProactiveController} (accepted : Accepted config)
    (fresh : Fresh config c) : Kept config ⟨c, 0, []⟩ := by
  have most := accepted.daily
  refine ⟨fresh.config, fresh.sequence, ?_, by simp⟩
  constructor
  · rw [fresh.config]; exact accepted
  · simp
  · simp [fresh.days]
  · rw [fresh.steps]; exact recalls_nil _ _
  · simp [Remembers, keysOf]
  · intro day
    rw [fresh.config]
    simp only [List.countP_nil]
    omega
  · exact rated_nil _ _
  · exact List.Pairwise.nil

/-- The limits follow from the books, once every suggestion met its threshold. -/
theorem Kept.limits {config : ProactiveConfig} {s : Session} (kept : Kept config s)
    (met : ∀ e ∈ s.emissions, e.threshold.le e.confidence = true) : Limits config s.emissions where
  daily := by
    rw [← kept.config]
    exact kept.bounded.daily
  window := by
    intro start
    have accepted := kept.bounded.accepted
    rw [kept.config] at accepted
    have window := accepted.window
    have most := accepted.most
    have rated := kept.bounded.rated start
    rw [kept.config] at rated
    have counted_same : countIn start config.recentSuggestionWindow.toNat (stepsOf s.emissions) =
        s.emissions.countP fun e => decide (start ≤ e.call ∧
          (e.call : Int) < start + config.recentSuggestionWindow) := by
      rw [countIn, stepsOf, List.countP_map]
      apply List.countP_congr
      intro e _
      simp only [Function.comp_apply, decide_eq_true_eq]
      omega
    rw [counted_same] at rated
    omega
  cooldown := by
    have cooldown := kept.bounded.accepted.cooldown
    have spaced := kept.bounded.spaced
    rw [kept.config] at cooldown spaced
    rw [Spaced, keysOf, List.pairwise_map] at spaced
    apply spaced.imp
    intro a b apart same
    have gap := apart same
    dsimp only at gap
    omega
  quiet := kept.quiet
  confident := met

theorem nan_emission {config : ProactiveConfig} {s : Session} (accepted : Accepted config)
    (fresh : Fresh config s.controller) (nan : s.controller.confidenceThreshold = .nan)
    (now : DateTime) :
    ∃ e ∈ (step py fp s (.evaluate overdueContext now false)).emissions, e.threshold = .nan := by
  obtain ⟨suggestion, rest, emitted⟩ := evaluate_nan py fp accepted fresh nan now
  refine ⟨emissionOf (s.evaluations + 1) s.controller now false suggestion, ?_, nan⟩
  simp only [step, emitted, returned]
  exact List.mem_append_right _ List.mem_cons_self

/-- The limits hold on every run exactly when the configured threshold and the lower
bound of the calibration are numbers. -/
theorem limits_hold_iff {config : ProactiveConfig} {controller : ProactiveController}
    (created : ProactiveController.create config = .ok controller) :
    (∀ calls, Limits config (run (step py fp) ⟨controller, 0, []⟩ calls).emissions) ↔
      config.confidenceThreshold ≠ .nan ∧ config.calibration.minThreshold ≠ .nan := by
  obtain ⟨accepted, fresh, threshold⟩ := create_ok created
  have start : Kept config ⟨controller, 0, []⟩ := fresh_kept accepted fresh
  let now : DateTime := ⟨firstInstant, none⟩
  constructor
  · intro hold
    refine ⟨fun nan => ?_, fun nan => ?_⟩
    · obtain ⟨e, member, passed⟩ := nan_emission py fp (s := ⟨controller, 0, []⟩) accepted fresh
        (threshold.trans nan) now
      have met := (hold [.evaluate overdueContext now false]).confident e member
      rw [passed] at met
      cases met
    · have recalibrated : (controller.recalibrateThreshold fp).confidenceThreshold = .nan := by
        simp only [ProactiveController.recalibrateThreshold,
          ProactiveController.recalibrateThresholdBy, updateThresholdBy, clampThreshold,
          fresh.config, nan, PyFloat.max_nan, ite_self]
      obtain ⟨e, member, passed⟩ := nan_emission py fp
        (s := ⟨controller.recalibrateThreshold fp, 0, []⟩) accepted
        ⟨fresh.config, fresh.silent, fresh.days, fresh.sequence, fresh.steps, fresh.keys⟩
        recalibrated now
      have met := (hold [.recalibrateThreshold, .evaluate overdueContext now false]).confident
        e member
      rw [passed] at met
      cases met
  · rintro ⟨number, calibrated⟩ calls
    have both := run_invariant
      (fun s call (holds : Kept config s ∧ Confident s) =>
        ⟨step_kept py fp s call holds.1,
          step_confident py fp calibrated s call holds.1 holds.2⟩)
      ⟨controller, 0, []⟩ ⟨start, ⟨fun nan => number (threshold.symm.trans nan), by simp⟩⟩ calls
    exact both.1.limits both.2.met

/-- A runtime for ASCII text that writes integers. -/
def integerRuntime : Runtime :=
  { asciiRuntime with
    repr := fun v =>
      match v with
      | .int n => toString n
      | _ => "" }

/-- The controller of a configuration, as its constructor leaves it. -/
def startOf (config : ProactiveConfig) : ProactiveController where
  config := config
  confidenceThreshold := config.confidenceThreshold
  acceptanceTracker := ⟨∅⟩
  silentMode := false
  dailySuggestionCount _ := 0
  evaluationSequence := 0
  recentSuggestionSteps := []
  lastSuggestionStepByKey _ := none

theorem create_startOf {config : ProactiveConfig} (accepted : Accepted config)
    (range : ¬(config.confidenceThreshold.lt (.finite 0) = true ∨
      (PyFloat.finite 1).lt config.confidenceThreshold = true)) :
    ProactiveController.create config = .ok (startOf config) := by
  obtain ⟨daily, window, most, cooldown⟩ := accepted
  simp only [ProactiveController.create, if_neg range, if_neg (not_lt.mpr daily),
    if_neg (not_lt.mpr window), if_neg (not_lt.mpr most), if_neg (not_lt.mpr cooldown), startOf]

theorem default_created : ProactiveController.create {} = .ok (startOf {}) :=
  create_startOf ⟨by decide, by decide, by decide, by decide⟩ (by decide +kernel)

theorem default_limits_hold_iff :
    (∀ calls, Limits {} (run (step integerRuntime binary64) ⟨startOf {}, 0, []⟩ calls).emissions) ↔
      ({} : ProactiveConfig).confidenceThreshold ≠ .nan ∧
        ({} : ProactiveConfig).calibration.minThreshold ≠ .nan :=
  limits_hold_iff integerRuntime binary64 default_created

/-- The constructor takes a NaN threshold, and one overdue task is then suggested. -/
theorem nan_threshold_suggests :
    ProactiveController.create { confidenceThreshold := .nan } =
        .ok (startOf { confidenceThreshold := .nan }) ∧
      ¬Limits { confidenceThreshold := .nan }
        (run (step integerRuntime binary64) ⟨startOf { confidenceThreshold := .nan }, 0, []⟩
          [.evaluate overdueContext ⟨firstInstant, none⟩ false]).emissions := by
  have created : ProactiveController.create { confidenceThreshold := .nan } =
      .ok (startOf { confidenceThreshold := .nan }) :=
    create_startOf ⟨by decide, by decide, by decide, by decide⟩ (by decide)
  obtain ⟨accepted, fresh, threshold⟩ := create_ok created
  refine ⟨created, fun limits => ?_⟩
  obtain ⟨e, member, passed⟩ := nan_emission integerRuntime binary64
    (s := ⟨startOf { confidenceThreshold := .nan }, 0, []⟩) accepted fresh threshold
    ⟨firstInstant, none⟩
  have met := limits.confident e member
  rw [passed] at met
  cases met

end Apcos.Guarantees.ProactiveLimits
