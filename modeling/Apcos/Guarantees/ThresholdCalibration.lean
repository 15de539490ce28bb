import Mathlib.Algebra.Order.Ring.Rat
import Mathlib.Tactic.Linarith
import Mathlib.Tactic.NormNum
import Apcos.Lib.Comp
import Apcos.Lib.Runs
import Apcos.Source.Cognition.ProactiveController

/-!
# Threshold calibration

core/behavior/calibration_engine.py, acceptance_tracker.py and the two calls of
core/cognition/proactive_controller.py that recalibrate, over rational numbers that do not
round. A run is bounded by the loaded configuration, and each recalibration depends on
nothing but the threshold before it and the totals of all recorded outcomes.
-/
namespace Apcos.Guarantees.ThresholdCalibration

open Apcos.Lib
open Apcos.Source.Python
open Apcos.Source.Cognition

/-- What a literal of two decimals denotes when nothing rounds. -/
def exactDecimal (n : Nat) : PyFloat := .finite ((n : Rat) / 100)

inductive CalibrationCall where
  | recordOutcome (outcome : String) (now : DateTime) (overridden : Bool)
  | recalibrateThreshold

/-- One call on a controller that computes with rational numbers; `byZero` is what a
division by zero would give. -/
def calibrate (byZero : Int → PyFloat) (c : ProactiveController) :
    CalibrationCall → ProactiveController
  | .recordOutcome outcome now overridden =>
    (c.recordOutcomeBy (exactWith byZero) exactDecimal outcome now overridden).2
  | .recalibrateThreshold => c.recalibrateThresholdBy (exactWith byZero) exactDecimal

/-! ## What the calls record -/

/-- The outcomes that `record` accepts. -/
def outcomes : List String := ["accepted", "rejected", "ignored"]

/-- The call reaches the recalibration; a refused outcome raises before it. -/
def CalibrationCall.Recalibrates : CalibrationCall → Prop
  | .recordOutcome outcome _ _ => outcome ∈ outcomes
  | .recalibrateThreshold => True

/-- The outcome a call records and whether it was overridden, without its day. -/
def CalibrationCall.recorded : CalibrationCall → Option (String × Bool)
  | .recordOutcome outcome _ overridden =>
    if outcome ∈ outcomes then some (outcome, overridden) else none
  | .recalibrateThreshold => none

def recordings (calls : List CalibrationCall) : List (String × Bool) :=
  calls.filterMap CalibrationCall.recorded

def totals (recorded : List (String × Bool)) : OutcomeCounts where
  accepted := recorded.countP (·.1 = "accepted")
  rejected := recorded.countP (·.1 = "rejected")
  ignored := recorded.countP (·.1 = "ignored")
  overrides := recorded.countP (·.2)

def attempts (counts : OutcomeCounts) : Nat := counts.accepted + counts.rejected + counts.ignored

/-- `rejected / attempts > 0.6` or `overrides / attempts > 0.4`. -/
def Resisted (counts : OutcomeCounts) : Prop :=
  attempts counts ≠ 0 ∧
    ((3 : Rat) / 5 < (counts.rejected : Rat) / attempts counts ∨
      (2 : Rat) / 5 < (counts.overrides : Rat) / attempts counts)

/-- `accepted / attempts > 0.7`. -/
def Welcomed (counts : OutcomeCounts) : Prop :=
  attempts counts ≠ 0 ∧ (7 : Rat) / 10 < (counts.accepted : Rat) / attempts counts

instance (counts : OutcomeCounts) : Decidable (Resisted counts) := by
  unfold Resisted
  infer_instance

instance (counts : OutcomeCounts) : Decidable (Welcomed counts) := by
  unfold Welcomed
  infer_instance

def clamped (lower upper value : Rat) : Rat := max lower (min upper value)

/-- One recalibration from `previous` to `now`, by the totals of all recorded outcomes. -/
structure Recalibrated (lower upper step previous now : Rat) (counts : OutcomeCounts) : Prop where
  bounded : lower ≤ now ∧ now ≤ upper
  small : |now - clamped lower upper previous| ≤ step
  up : clamped lower upper previous < now → Resisted counts
  down : now < clamped lower upper previous → ¬Resisted counts ∧ Welcomed counts

/-! ## One recalibration over the rationals -/

def shift (step : Rat) (counts : OutcomeCounts) : Rat :=
  if Resisted counts then step else if Welcomed counts then -step else 0

/-- The threshold that a recalibration sets. -/
def recalibrated (enabled : Bool) (lower upper step previous : Rat) (counts : OutcomeCounts) :
    Rat :=
  if enabled then clamped lower upper (clamped lower upper previous + shift step counts)
  else clamped lower upper previous

theorem clampThreshold_finite (value lower upper : Rat) :
    clampThreshold (.finite value) (.finite lower) (.finite upper) =
      .finite (clamped lower upper value) := by
  have smaller : (PyFloat.finite upper).min (.finite value) = .finite (min upper value) := by
    rw [min_comm, min_def_lt]
    simp only [PyFloat.min, PyFloat.lt, decide_eq_true_eq]
    split <;> rfl
  rw [clampThreshold, smaller, clamped, max_def_lt]
  simp only [PyFloat.max, PyFloat.lt, decide_eq_true_eq]
  split <;> rfl

theorem rateOf_exact (byZero : Int → PyFloat) (part attempts : Nat) :
    rateOf (exactWith byZero) part attempts = .finite ((part : Rat) / attempts) := by
  unfold rateOf
  split
  · rename_i zero
    rw [zero, Nat.cast_zero, div_zero]
  · rename_i some
    have nonzero : ((attempts : Nat) : Int) ≠ 0 := Int.ofNat_ne_zero.mpr some
    simp only [exactWith, if_neg nonzero, Int.cast_natCast]

theorem acceptanceRate_exact (byZero : Int → PyFloat) (counts : OutcomeCounts) :
    (computeMetrics (exactWith byZero) counts).acceptanceRate =
      .finite ((counts.accepted : Rat) / attempts counts) :=
  rateOf_exact byZero counts.accepted (attempts counts)

theorem above_iff (bound : Rat) (nonneg : 0 ≤ bound) (part n : Nat) :
    bound < (part : Rat) / n ↔ n ≠ 0 ∧ bound < (part : Rat) / n := by
  constructor
  · intro above
    refine ⟨?_, above⟩
    rintro rfl
    rw [Nat.cast_zero, div_zero] at above
    exact absurd above (not_lt.mpr nonneg)
  · exact And.right

/-- Over exact rationals an update is the recalibration by rates. -/
theorem updateThreshold_exact (byZero : Int → PyFloat) (enabled : Bool)
    (lower upper step previous : Rat) (counts : OutcomeCounts) :
    updateThresholdBy (exactWith byZero) exactDecimal
        ⟨enabled, .finite lower, .finite upper, .finite step⟩ (.finite previous)
        (computeMetrics (exactWith byZero) counts) =
      .finite (recalibrated enabled lower upper step previous counts) := by
  have resisted : ((exactDecimal 60).lt (.finite ((counts.rejected : Rat) / attempts counts)) ||
      (exactDecimal 40).lt (.finite ((counts.overrides : Rat) / attempts counts))) = true ↔
      Resisted counts := by
    have rejected := above_iff (3 / 5) (by norm_num) counts.rejected (attempts counts)
    have overrides := above_iff (2 / 5) (by norm_num) counts.overrides (attempts counts)
    have sixty : ((60 : Nat) : Rat) / 100 = 3 / 5 := by norm_num
    have forty : ((40 : Nat) : Rat) / 100 = 2 / 5 := by norm_num
    simp only [exactDecimal, PyFloat.lt, Bool.or_eq_true, decide_eq_true_eq, sixty, forty]
    rw [rejected, overrides, ← and_or_left, Resisted]
  have welcomed :
      (exactDecimal 70).lt (.finite ((counts.accepted : Rat) / attempts counts)) = true ↔
        Welcomed counts := by
    have accepted := above_iff (7 / 10) (by norm_num) counts.accepted (attempts counts)
    have seventy : ((70 : Nat) : Rat) / 100 = 7 / 10 := by norm_num
    simp only [exactDecimal, PyFloat.lt, decide_eq_true_eq, seventy]
    rw [accepted, Welcomed]
  have delta : (if (exactDecimal 60).lt
            (rateOf (exactWith byZero) counts.rejected (attempts counts)) ||
          (exactDecimal 40).lt (rateOf (exactWith byZero) counts.overrides (attempts counts)) then
        (exactWith byZero).add (.finite 0) (.finite step)
      else if (exactDecimal 70).lt (computeMetrics (exactWith byZero) counts).acceptanceRate then
        (exactWith byZero).sub (.finite 0) (.finite step)
      else .finite 0) = .finite (shift step counts) := by
    rw [rateOf_exact, rateOf_exact, acceptanceRate_exact]
    simp only [resisted, welcomed, shift, exactWith]
    split
    · rw [zero_add]
    · split
      · rw [zero_sub]
      · rfl
  unfold updateThresholdBy recalibrated
  cases enabled with
  | false => exact clampThreshold_finite previous lower upper
  | true =>
    change clampThreshold ((exactWith byZero).add
      (clampThreshold (.finite previous) (.finite lower) (.finite upper)) _) _ _ = _
    rw [clampThreshold_finite]
    exact (congrArg (fun moved => clampThreshold ((exactWith byZero).add
      (.finite (clamped lower upper previous)) moved) (.finite lower) (.finite upper)) delta).trans
      (clampThreshold_finite _ lower upper)

theorem clamped_mem {lower upper : Rat} (ordered : lower ≤ upper) (value : Rat) :
    lower ≤ clamped lower upper value ∧ clamped lower upper value ≤ upper :=
  ⟨le_max_left _ _, max_le ordered (min_le_left _ _)⟩

/-- From a value within the bounds, clamping stops between it and the value it aims at. -/
theorem clamped_between {lower upper value : Rat} (inside : lower ≤ value ∧ value ≤ upper)
    (aim : Rat) :
    min value aim ≤ clamped lower upper aim ∧ clamped lower upper aim ≤ max value aim := by
  obtain ⟨above, below⟩ := inside
  constructor
  · exact le_max_of_le_right (le_min ((min_le_left _ _).trans below) (min_le_right _ _))
  · exact max_le (above.trans (le_max_left _ _)) ((min_le_right _ _).trans (le_max_right _ _))

/-- The new threshold lies in its bounds and moves by at most a step, up after resistance and down
after acceptance. -/
theorem recalibrated_spec {lower upper step : Rat} (ordered : lower ≤ upper) (nonneg : 0 ≤ step)
    (enabled : Bool) (previous : Rat) (counts : OutcomeCounts) :
    Recalibrated lower upper step previous
      (recalibrated enabled lower upper step previous counts) counts := by
  have inside := clamped_mem ordered previous
  cases enabled with
  | false =>
    have same : recalibrated false lower upper step previous counts =
        clamped lower upper previous := rfl
    rw [same]
    refine ⟨inside, ?_, fun above => absurd above (lt_irrefl _),
      fun below => absurd below (lt_irrefl _)⟩
    rw [sub_self, abs_zero]
    exact nonneg
  | true =>
    have moved : recalibrated true lower upper step previous counts =
        clamped lower upper (clamped lower upper previous + shift step counts) := rfl
    obtain ⟨low, high⟩ := clamped_between inside (clamped lower upper previous + shift step counts)
    rw [moved]
    by_cases resisted : Resisted counts
    · have up : shift step counts = step := if_pos resisted
      rw [up, min_eq_left (le_add_of_nonneg_right nonneg)] at low
      rw [up, max_eq_right (le_add_of_nonneg_right nonneg)] at high
      rw [up]
      refine ⟨clamped_mem ordered _, ?_, fun _ => resisted,
        fun below => absurd low (not_le.mpr below)⟩
      exact abs_le.mpr ⟨by linarith, by linarith⟩
    · by_cases welcomed : Welcomed counts
      · have down : shift step counts = -step := by rw [shift, if_neg resisted, if_pos welcomed]
        have fall : clamped lower upper previous + -step ≤ clamped lower upper previous := by
          linarith
        rw [down, min_eq_right fall] at low
        rw [down, max_eq_left fall] at high
        rw [down]
        refine ⟨clamped_mem ordered _, ?_, fun above => absurd high (not_le.mpr above),
          fun _ => ⟨resisted, welcomed⟩⟩
        exact abs_le.mpr ⟨by linarith, by linarith⟩
      · have still : shift step counts = 0 := by rw [shift, if_neg resisted, if_neg welcomed]
        rw [still, add_zero, min_self] at low
        rw [still, add_zero, max_self] at high
        rw [still, add_zero]
        refine ⟨clamped_mem ordered _, ?_, fun above => absurd high (not_le.mpr above),
          fun below => absurd low (not_le.mpr below)⟩
        rw [le_antisymm high low, sub_self, abs_zero]
        exact nonneg

/-! ## The loaded configuration -/

/-- A configuration with ordered bounds and a step that is not negative. -/
structure Ordered (cfg : CalibrationConfig) : Prop where
  bounds : ∀ lower upper : Rat, cfg.minThreshold = .finite lower →
    cfg.maxThreshold = .finite upper → lower ≤ upper
  step : ∀ step : Rat, cfg.stepSize = .finite step → 0 ≤ step

theorem defaults_ordered : Ordered (.defaults exactDecimal) := by
  constructor
  · intro lower upper low high
    cases low
    cases high
    norm_num
  · intro step same
    cases same
    norm_num

/-- Crossed bounds and a step that is not positive are replaced by the defaults. -/
theorem load_ordered {py : Runtime} {parsed : Option Value} {cfg : CalibrationConfig}
    (loaded : CalibrationConfig.load py exactDecimal parsed = .ok cfg) : Ordered cfg := by
  cases parsed with
  | none =>
    cases loaded
    exact defaults_ordered
  | some value =>
    simp only [CalibrationConfig.load] at loaded
    split at loaded
    · split at loaded
      · rename_i part _
        obtain ⟨minThreshold, _, loaded⟩ := bind_ok loaded
        obtain ⟨maxThreshold, _, loaded⟩ := bind_ok loaded
        obtain ⟨stepSize, _, loaded⟩ := bind_ok loaded
        cases loaded
        constructor
        · intro lower upper low high
          dsimp only at low high
          cases crossed : maxThreshold.lt minThreshold with
          | true =>
            rw [crossed] at low high
            exact defaults_ordered.bounds lower upper low high
          | false =>
            rw [crossed] at low high
            have order : (PyFloat.finite upper).lt (.finite lower) = false := by
              rw [← low, ← high]
              exact crossed
            simpa [PyFloat.lt] using order
        · intro step same
          dsimp only at same
          cases small : stepSize.le (.finite 0) with
          | true =>
            rw [small] at same
            exact defaults_ordered.step step same
          | false =>
            rw [small] at same
            have positive : (PyFloat.finite step).le (.finite 0) = false := by
              rw [← same]
              exact small
            simp only [PyFloat.le, decide_eq_false_iff_not, not_le] at positive
            exact positive.le
      · cases loaded
        exact defaults_ordered
    · cases loaded

/-! ## The totals of a tracker -/

theorem add_assoc_counts (a b c : OutcomeCounts) : (a.add b).add c = a.add (b.add c) := by
  simp only [OutcomeCounts.add, Nat.add_assoc]

theorem add_comm_counts (a b : OutcomeCounts) : a.add b = b.add a := by
  simp only [OutcomeCounts.add, Nat.add_comm]

theorem zero_add_counts (a : OutcomeCounts) : OutcomeCounts.add {} a = a := by
  simp only [OutcomeCounts.add, Nat.zero_add]

def summed (entries : List (Sigma fun _ : Nat => OutcomeCounts)) : OutcomeCounts :=
  entries.foldl (fun total entry => total.add entry.2) {}

/-- The counts that `total_metrics` adds up. -/
def counted (t : AcceptanceTracker) : OutcomeCounts :=
  t.dailyStats.foldl (fun total _ counts => total.add counts) {}

theorem counted_eq (t : AcceptanceTracker) : counted t = summed t.dailyStats.entries := rfl

theorem totalMetrics_eq (fp : Arithmetic) (t : AcceptanceTracker) :
    t.totalMetrics fp = computeMetrics fp (counted t) := rfl

theorem summed_cons (entry : Sigma fun _ : Nat => OutcomeCounts)
    (entries : List (Sigma fun _ : Nat => OutcomeCounts)) :
    summed (entry :: entries) = entry.2.add (summed entries) := by
  have shift (l : List (Sigma fun _ : Nat => OutcomeCounts)) (a : OutcomeCounts) :
      l.foldl (fun total entry => total.add entry.2) a = a.add (summed l) := by
    induction l generalizing a with
    | nil => rfl
    | cons e rest ih =>
      rw [summed, List.foldl_cons, List.foldl_cons, ih, ih, zero_add_counts, add_assoc_counts]
  rw [summed, List.foldl_cons, shift, zero_add_counts]

theorem summed_kerase (day : Nat) (entries : List (Sigma fun _ : Nat => OutcomeCounts)) :
    summed entries = ((entries.dlookup day).getD {}).add (summed (entries.kerase day)) := by
  induction entries with
  | nil => rfl
  | cons entry rest ih =>
    by_cases same : day = entry.1
    · obtain ⟨other, counts⟩ := entry
      subst same
      have erased : List.kerase day (⟨day, counts⟩ :: rest) = rest := List.kerase_cons_eq rfl
      rw [erased, List.dlookup_cons_eq, summed_cons]
      rfl
    · rw [List.kerase_cons_ne same, List.dlookup_cons_ne _ _ same, summed_cons, summed_cons, ih,
        ← add_assoc_counts, ← add_assoc_counts, add_comm_counts entry.2]

theorem record_of_mem (t : AcceptanceTracker) {outcome : String} (known : outcome ∈ outcomes)
    (day : Nat) (overridden : Bool) :
    ∃ t', t.record outcome day overridden = .ok t' ∧
      counted t' = (totals [(outcome, overridden)]).add (counted t) := by
  have bucket (counts : OutcomeCounts) : ∃ counts', counts.count outcome = some counts' ∧
      (if overridden then { counts' with overrides := counts'.overrides + 1 } else counts') =
        (totals [(outcome, overridden)]).add counts := by
    simp only [outcomes, List.mem_cons, List.not_mem_nil, or_false] at known
    rcases known with rfl | rfl | rfl
    all_goals
      refine ⟨_, rfl, ?_⟩
      cases overridden <;> simp [totals, OutcomeCounts.add, Nat.add_comm]
  obtain ⟨counts', accepted, same⟩ := bucket ((t.dailyStats.lookup day).getD {})
  refine ⟨_, by rw [AcceptanceTracker.record, accepted], ?_⟩
  rw [counted_eq, counted_eq, AList.entries_insert, same, summed_cons,
    summed_kerase day t.dailyStats.entries, add_assoc_counts]
  rfl

theorem record_of_notMem (t : AcceptanceTracker) {outcome : String} (unknown : outcome ∉ outcomes)
    (day : Nat) (overridden : Bool) :
    ∃ e, t.record outcome day overridden = .error e := by
  simp only [outcomes, List.mem_cons, List.not_mem_nil, or_false, not_or] at unknown
  obtain ⟨accepted, rejected, ignored⟩ := unknown
  have refused (counts : OutcomeCounts) : counts.count outcome = none := by
    unfold OutcomeCounts.count
    split
    · exact absurd rfl accepted
    · exact absurd rfl rejected
    · exact absurd rfl ignored
    · rfl
  exact ⟨_, by rw [AcceptanceTracker.record, refused]⟩

theorem totals_append (first second : List (String × Bool)) :
    totals (first ++ second) = (totals first).add (totals second) := by
  simp only [totals, OutcomeCounts.add, List.countP_append]

theorem totals_perm {first second : List (String × Bool)} (same : first.Perm second) :
    totals first = totals second := by
  simp only [totals, same.countP_eq]

/-! ## Runs -/

theorem recordings_cons (call : CalibrationCall) (rest : List CalibrationCall) :
    recordings (call :: rest) = call.recorded.toList ++ recordings rest := by
  cases recorded : call.recorded <;> simp [recordings, recorded]

/-- A refused outcome changes nothing. -/
theorem calibrate_refused (byZero : Int → PyFloat) (c : ProactiveController)
    {call : CalibrationCall} (refused : ¬call.Recalibrates) :
    calibrate byZero c call = c ∧ call.recorded = none := by
  cases call with
  | recalibrateThreshold => exact absurd trivial refused
  | recordOutcome outcome now overridden =>
    obtain ⟨e, raised⟩ := record_of_notMem c.acceptanceTracker refused now.date overridden
    refine ⟨?_, if_neg refused⟩
    rw [calibrate, ProactiveController.recordOutcomeBy, raised]

/-- Every other call recalibrates a controller whose tracker holds one outcome more. -/
theorem calibrate_recalibrates (byZero : Int → PyFloat) (c : ProactiveController)
    {call : CalibrationCall} (reached : call.Recalibrates) :
    ∃ tracker, counted tracker = (totals call.recorded.toList).add (counted c.acceptanceTracker) ∧
      calibrate byZero c call = { c with acceptanceTracker := tracker }.recalibrateThresholdBy
        (exactWith byZero) exactDecimal := by
  cases call with
  | recalibrateThreshold => exact ⟨c.acceptanceTracker, (zero_add_counts _).symm, rfl⟩
  | recordOutcome outcome now overridden =>
    obtain ⟨tracker, recorded, count⟩ :=
      record_of_mem c.acceptanceTracker reached now.date overridden
    have kept : (CalibrationCall.recordOutcome outcome now overridden).recorded =
        some (outcome, overridden) := if_pos reached
    refine ⟨tracker, by rw [kept]; exact count, ?_⟩
    rw [calibrate, ProactiveController.recordOutcomeBy, recorded]

theorem calibrate_counted (byZero : Int → PyFloat) (c : ProactiveController)
    (call : CalibrationCall) :
    counted (calibrate byZero c call).acceptanceTracker =
      (totals call.recorded.toList).add (counted c.acceptanceTracker) := by
  by_cases reached : call.Recalibrates
  · obtain ⟨tracker, count, same⟩ := calibrate_recalibrates byZero c reached
    rw [same]
    exact count
  · obtain ⟨same, nothing⟩ := calibrate_refused byZero c reached
    rw [same, nothing]
    exact (zero_add_counts _).symm

theorem run_counted (byZero : Int → PyFloat) (c : ProactiveController)
    (calls : List CalibrationCall) :
    counted (run (calibrate byZero) c calls).acceptanceTracker =
      (totals (recordings calls)).add (counted c.acceptanceTracker) := by
  induction calls generalizing c with
  | nil => exact (zero_add_counts _).symm
  | cons call rest ih =>
    rw [run_cons, ih, calibrate_counted, recordings_cons, totals_append, ← add_assoc_counts,
      add_comm_counts (totals (recordings rest))]

section
variable {enabled : Bool} {lower upper step : Rat} (byZero : Int → PyFloat)

/-- A controller with these settings and a rational threshold of which `inside` holds. -/
structure Settled (enabled : Bool) (lower upper step : Rat) (inside : Rat → Prop)
    (c : ProactiveController) : Prop where
  settings : c.config.calibration = ⟨enabled, .finite lower, .finite upper, .finite step⟩
  threshold : ∃ now, c.confidenceThreshold = .finite now ∧ inside now

/-- A call that recalibrates sets the threshold by the totals it leaves in the tracker. -/
theorem calibrate_threshold {inside : Rat → Prop} {c : ProactiveController}
    (settled : Settled enabled lower upper step inside c) {call : CalibrationCall}
    (reached : call.Recalibrates) :
    (calibrate byZero c call).config = c.config ∧
      ∃ previous, c.confidenceThreshold = .finite previous ∧
        (calibrate byZero c call).confidenceThreshold =
          .finite (recalibrated enabled lower upper step previous
            (counted (calibrate byZero c call).acceptanceTracker)) := by
  obtain ⟨settings, previous, threshold, -⟩ := settled
  obtain ⟨tracker, -, same⟩ := calibrate_recalibrates byZero c reached
  rw [same]
  refine ⟨rfl, previous, threshold, ?_⟩
  simp only [ProactiveController.recalibrateThresholdBy, settings, threshold, totalMetrics_eq,
    updateThreshold_exact]

theorem calibrate_settled {inside : Rat → Prop}
    (bounded : ∀ now, lower ≤ now ∧ now ≤ upper → inside now) (ordered : lower ≤ upper)
    (nonneg : 0 ≤ step) {c : ProactiveController} (call : CalibrationCall)
    (settled : Settled enabled lower upper step inside c) :
    Settled enabled lower upper step inside (calibrate byZero c call) := by
  by_cases reached : call.Recalibrates
  · obtain ⟨config, previous, -, now⟩ := calibrate_threshold byZero settled reached
    have change := recalibrated_spec ordered nonneg enabled previous
      (counted (calibrate byZero c call).acceptanceTracker)
    exact ⟨config ▸ settled.settings, _, now, bounded _ change.bounded⟩
  · rw [(calibrate_refused byZero c reached).1]
    exact settled

theorem calibrate_bounded (ordered : lower ≤ upper) (nonneg : 0 ≤ step) {c : ProactiveController}
    {call : CalibrationCall} (reached : call.Recalibrates)
    (settled : Settled enabled lower upper step (fun _ => True) c) :
    Settled enabled lower upper step (fun now => lower ≤ now ∧ now ≤ upper)
      (calibrate byZero c call) := by
  obtain ⟨config, previous, -, now⟩ := calibrate_threshold byZero settled reached
  exact ⟨config ▸ settled.settings, _, now,
    (recalibrated_spec ordered nonneg enabled previous _).bounded⟩

theorem run_settled (ordered : lower ≤ upper) (nonneg : 0 ≤ step) {c : ProactiveController}
    (calls : List CalibrationCall)
    (settled : Settled enabled lower upper step (fun _ => True) c) :
    Settled enabled lower upper step (fun _ => True) (run (calibrate byZero) c calls) :=
  run_invariant
    (fun _ call holds => calibrate_settled byZero (fun _ _ => trivial) ordered nonneg call holds)
    c settled calls

theorem run_bounded (ordered : lower ≤ upper) (nonneg : 0 ≤ step) {c : ProactiveController}
    (calls : List CalibrationCall)
    (settled : Settled enabled lower upper step (fun _ => True) c)
    (reached : ∃ call ∈ calls, call.Recalibrates) :
    Settled enabled lower upper step (fun now => lower ≤ now ∧ now ≤ upper)
      (run (calibrate byZero) c calls) := by
  obtain ⟨call, member, recalibrates⟩ := reached
  obtain ⟨before, after, rfl⟩ := List.append_of_mem member
  rw [run_append, run_cons]
  have earlier := run_settled byZero ordered nonneg before settled
  exact run_invariant
    (fun _ call holds => calibrate_settled byZero (fun _ => id) ordered nonneg call holds)
    _ (calibrate_bounded byZero ordered nonneg recalibrates earlier) after

end

/-- What a division by zero would give plays no part. -/
theorem calibrate_undivided (byZero byZero' : Int → PyFloat) :
    calibrate byZero = calibrate byZero' := by
  have rates : rateOf (exactWith byZero) = rateOf (exactWith byZero') := by
    funext part attempts
    rw [rateOf_exact, rateOf_exact]
  have metrics : computeMetrics (exactWith byZero) = computeMetrics (exactWith byZero') := by
    funext counts
    exact congrArg (AcceptanceMetrics.mk _ _ _ _)
      ((acceptanceRate_exact byZero counts).trans (acceptanceRate_exact byZero' counts).symm)
  have update (c : ProactiveController) :
      c.recalibrateThresholdBy (exactWith byZero) exactDecimal =
        c.recalibrateThresholdBy (exactWith byZero') exactDecimal := by
    simp only [ProactiveController.recalibrateThresholdBy, totalMetrics_eq, metrics,
      updateThresholdBy, rates]
    rfl
  funext c call
  cases call with
  | recalibrateThreshold => exact update c
  | recordOutcome outcome now overridden =>
    simp only [calibrate, ProactiveController.recordOutcomeBy]
    split
    · rfl
    · exact update _

/-- What a run makes of a controller with these bounds and this step. -/
structure Calibrated (byZero : Int → PyFloat) (lower upper step : Rat) (c : ProactiveController)
    (calls : List CalibrationCall) : Prop where
  /-- After the first recalibration the threshold is within the bounds. -/
  bounded : (∃ call ∈ calls, call.Recalibrates) →
    ∃ now, (run (calibrate byZero) c calls).confidenceThreshold = .finite now ∧
      lower ≤ now ∧ now ≤ upper
  /-- The next call recalibrates by the totals of everything recorded up to it, or is refused. -/
  driven : ∀ call : CalibrationCall, call.Recalibrates →
    ∃ previous now, (run (calibrate byZero) c calls).confidenceThreshold = .finite previous ∧
      (run (calibrate byZero) c (calls ++ [call])).confidenceThreshold = .finite now ∧
      Recalibrated lower upper step previous now (totals (recordings (calls ++ [call])))
  refused : ∀ call : CalibrationCall, ¬call.Recalibrates →
    run (calibrate byZero) c (calls ++ [call]) = run (calibrate byZero) c calls
  /-- The totals depend neither on the order of the recorded outcomes nor on their days. -/
  unordered : ∀ other, (recordings calls).Perm (recordings other) →
    (run (calibrate byZero) c other).acceptanceTracker.totalMetrics (exactWith byZero) =
      (run (calibrate byZero) c calls).acceptanceTracker.totalMetrics (exactWith byZero)
  /-- No division by zero is used. -/
  undivided : ∀ byZero', run (calibrate byZero') c calls = run (calibrate byZero) c calls

theorem created_of_create {config : ProactiveConfig} {c : ProactiveController}
    (created : ProactiveController.create config = .ok c) :
    c.config = config ∧ c.confidenceThreshold = config.confidenceThreshold ∧
      c.acceptanceTracker = ⟨∅⟩ := by
  unfold ProactiveController.create at created
  split at created
  · cases created
  · split at created
    · cases created
    · split at created
      · cases created
      · split at created
        · cases created
        · split at created
          · cases created
          · cases created
            exact ⟨rfl, rfl, rfl⟩

/-- Over exact rationals and every sequence of calls: from the first recalibration on the threshold
is within its bounds, each recalibration moves it as the totals recorded so far ask, and these
depend neither on the order nor on the days of the outcomes. -/
theorem threshold_calibrated (py : Runtime) (parsed : Option Value) (byZero : Int → PyFloat)
    {config : ProactiveConfig} {c : ProactiveController} {enabled : Bool}
    {lower upper step initial : Rat}
    (loaded : CalibrationConfig.load py exactDecimal parsed = .ok config.calibration)
    (numbers : config.calibration = ⟨enabled, .finite lower, .finite upper, .finite step⟩)
    (threshold : config.confidenceThreshold = .finite initial)
    (created : ProactiveController.create config = .ok c) (calls : List CalibrationCall) :
    Calibrated byZero lower upper step c calls := by
  obtain ⟨same, start, fresh⟩ := created_of_create created
  have ordered : lower ≤ upper :=
    (load_ordered loaded).bounds lower upper (by rw [numbers]) (by rw [numbers])
  have nonneg : 0 ≤ step := (load_ordered loaded).step step (by rw [numbers])
  have settled : Settled enabled lower upper step (fun _ => True) c :=
    ⟨by rw [same]; exact numbers, initial, start.trans threshold, trivial⟩
  have count (calls : List CalibrationCall) :
      counted (run (calibrate byZero) c calls).acceptanceTracker = totals (recordings calls) := by
    rw [run_counted, fresh, add_comm_counts]
    exact zero_add_counts _
  constructor
  · intro reached
    obtain ⟨-, now, value, inside⟩ := run_bounded byZero ordered nonneg calls settled reached
    exact ⟨now, value, inside⟩
  · intro call reached
    have earlier := run_settled byZero ordered nonneg calls settled
    obtain ⟨-, previous, before, now⟩ := calibrate_threshold byZero earlier reached
    refine ⟨previous, _, before, by rw [run_append]; exact now, ?_⟩
    have counts := count (calls ++ [call])
    rw [run_append, run_cons, run_nil] at counts
    rw [counts]
    exact recalibrated_spec ordered nonneg enabled previous _
  · intro call refused
    rw [run_append]
    exact (calibrate_refused byZero _ refused).1
  · intro other same
    rw [totalMetrics_eq, totalMetrics_eq, count, count, totals_perm same]
  · intro byZero'
    rw [calibrate_undivided byZero' byZero]

/-- No configuration file, and a threshold of 0.7. -/
def rationalConfig : ProactiveConfig where
  confidenceThreshold := .finite (7 / 10)
  calibration := .defaults exactDecimal

def rationalController : ProactiveController where
  config := rationalConfig
  confidenceThreshold := .finite (7 / 10)
  acceptanceTracker := ⟨∅⟩
  silentMode := false
  dailySuggestionCount _ := 0
  evaluationSequence := 0
  recentSuggestionSteps := []
  lastSuggestionStepByKey _ := none

theorem rationalController_created :
    ProactiveController.create rationalConfig = .ok rationalController := by
  unfold ProactiveController.create
  rw [if_neg (by decide), if_neg (by decide +kernel), if_neg (by decide), if_neg (by decide),
    if_neg (by decide)]
  rfl

def oneRejection : List CalibrationCall :=
  [.recordOutcome "rejected" ⟨firstInstant, none⟩ false]

/-- One rejection lifts the threshold by one step. -/
theorem threshold_calibrated_rejected :
    Calibrated (fun _ => .nan) (50 / 100) (90 / 100) (5 / 100) rationalController oneRejection ∧
      (run (calibrate fun _ => .nan) rationalController oneRejection).confidenceThreshold =
        .finite (3 / 4) :=
  ⟨@threshold_calibrated asciiRuntime none _ rationalConfig rationalController true _ _ _ _
    rfl rfl rfl rationalController_created _, by decide +kernel⟩

end Apcos.Guarantees.ThresholdCalibration
