import Apcos.Source.Supervisor.EnergyManager

/-!
# Energy supervision is monotone over runs

os/src/energy_manager.rs:197-298. Of its recovery state the manager shows only
how many more cool samples it will answer with `Reduced`. That number restarts
at the limit on a hot sample and falls by one on a cool one, so a run that is
never hotter never has more of them left than the other.
-/
namespace Apcos.Guarantees.EnergyMonotone

open Apcos.Lib
open Apcos.Source.Supervisor
open Apcos.Source.Supervisor.EnergyManager

/-! ## Modes -/

theorem modeRank_maxMode (left right : EnergyMode) :
    modeRank (maxMode left right) = max (modeRank left) (modeRank right) := by
  cases left <;> cases right <;> rfl

theorem eq_silent_iff (mode : EnergyMode) : mode = .silent ↔ 2 ≤ modeRank mode := by
  cases mode <;> decide

theorem restricted_iff (mode : EnergyMode) :
    mode = .reduced ∨ mode = .silent ↔ 1 ≤ modeRank mode := by
  cases mode <;> decide

/-- Model use and proactive work are blocked in `Silent` only. -/
theorem llm_allowed_iff (mode : EnergyMode) :
    (authorizeExecution mode .llm).allowed = true ↔ modeRank mode < 2 := by
  cases mode <;> decide

theorem proactive_allowed_iff (mode : EnergyMode) :
    (authorizeExecution mode .proactive).allowed = true ↔ modeRank mode < 2 := by
  cases mode <;> decide

theorem determineMode_antitone {low high : Fin 256} (le : low ≤ high) :
    modeRank (determineMode high) ≤ modeRank (determineMode low) := by
  have le : low.val ≤ high.val := le
  unfold determineMode
  split_ifs <;> simp only [modeRank] <;> omega

/-! ## Recovery -/

/-- How many more cool samples are answered with `Reduced`. -/
def cooldown (m : EnergyManager) : Nat :=
  if m.thermalRecoveryActive then
    (atLeastOne m.config.thermalRecoveryCycles).val - m.thermalRecoveryCounter.val
  else 0

theorem cooldown_le (m : EnergyManager) :
    cooldown m ≤ (atLeastOne m.config.thermalRecoveryCycles).val := by
  unfold cooldown
  split_ifs <;> omega

/-- A hot sample answers at once and restarts the cooldown. -/
theorem thermalMode_hot (m : EnergyManager) {high critical : Bool} (hot : high ∨ critical) :
    modeRank (m.evaluateThermalMode high critical).1 = (if critical then 2 else 1) ∧
      cooldown (m.evaluateThermalMode high critical).2 =
        (atLeastOne m.config.thermalRecoveryCycles).val := by
  cases critical with
  | true => simp [evaluateThermalMode, cooldown, modeRank]
  | false =>
    have high := hot.resolve_right (by decide)
    simp [evaluateThermalMode, cooldown, modeRank, high]

/-- A cool sample shows whether the cooldown is over and takes one off it. -/
theorem thermalMode_cool (m : EnergyManager) :
    modeRank (m.evaluateThermalMode false false).1 = min (cooldown m) 1 ∧
      cooldown (m.evaluateThermalMode false false).2 = cooldown m - 1 := by
  by_cases active : m.thermalRecoveryActive = true
  · by_cases counting : m.thermalRecoveryCounter < atLeastOne m.config.thermalRecoveryCycles
    · have less := Fin.lt_def.mp counting
      have byte := (atLeastOne m.config.thermalRecoveryCycles).isLt
      have counted := saturatingSucc_val (show m.thermalRecoveryCounter.val < 255 by omega)
      constructor
      · simp [evaluateThermalMode, cooldown, active, counting, modeRank]
        omega
      · simp [evaluateThermalMode, cooldown, active, counting, counted]
        omega
    · have := Fin.lt_def.not.mp counting
      simp [evaluateThermalMode, cooldown, active, counting, modeRank]
      omega
  · simp [evaluateThermalMode, cooldown, active, modeRank]

theorem thermalMode_config (m : EnergyManager) (high critical : Bool) :
    (m.evaluateThermalMode high critical).2.config = m.config := by
  unfold evaluateThermalMode
  split_ifs <;> rfl

/-! ## Two runs side by side -/

/-- The first sample is no worse than the second. -/
structure NoWorse (sample sample' : EnergySample) : Prop where
  battery : sample'.batteryPercent.le sample.batteryPercent = true
  thermal : sample.thermalCelsius.le sample'.thermalCelsius = true
  cpu : sample.cpuPercent.le sample'.cpuPercent = true
  power : sample'.onExternalPower = true → sample.onExternalPower = true

/-- The first manager has recovered at least as far as the second. -/
structure Milder (m m' : EnergyManager) : Prop where
  config : m.config = m'.config
  cooldown : cooldown m ≤ cooldown m'

/-- A cooler sample on a milder manager gives no stricter thermal mode, and the manager stays
milder. -/
theorem thermalMode_milder {m m' : EnergyManager} (milder : Milder m m')
    {high high' critical critical' : Bool} (hotter : high → high')
    (hotter_critical : critical → critical') :
    modeRank (m.evaluateThermalMode high critical).1 ≤
        modeRank (m'.evaluateThermalMode high' critical').1 ∧
      Milder (m.evaluateThermalMode high critical).2
        (m'.evaluateThermalMode high' critical').2 := by
  have same : (m.evaluateThermalMode high critical).2.config =
      (m'.evaluateThermalMode high' critical').2.config := by
    rw [thermalMode_config, thermalMode_config, milder.config]
  by_cases hot' : high' ∨ critical'
  · obtain ⟨rank', restarted'⟩ := thermalMode_hot m' hot'
    by_cases hot : high ∨ critical
    · obtain ⟨rank, restarted⟩ := thermalMode_hot m hot
      refine ⟨?_, same, ?_⟩
      · rw [rank, rank']
        split_ifs <;> simp_all
      · rw [restarted, restarted', milder.config]
    · have cool : high = false ∧ critical = false := by simpa using hot
      obtain ⟨rfl, rfl⟩ := cool
      obtain ⟨rank, counted⟩ := thermalMode_cool m
      refine ⟨?_, same, ?_⟩
      · rw [rank, rank']
        split_ifs <;> omega
      · have bound := cooldown_le m
        rw [counted, restarted', ← milder.config]
        omega
  · have cool' : high' = false ∧ critical' = false := by simpa using hot'
    obtain ⟨rfl, rfl⟩ := cool'
    have cool : high = false ∧ critical = false := by simp_all
    obtain ⟨rfl, rfl⟩ := cool
    obtain ⟨rank, counted⟩ := thermalMode_cool m
    obtain ⟨rank', counted'⟩ := thermalMode_cool m'
    have less := milder.cooldown
    refine ⟨?_, same, ?_⟩
    · rw [rank, rank']
      omega
    · rw [counted, counted']
      omega

/-- The three readings of a sample as the mode ranks them. -/
theorem effectiveMode_rank (m : EnergyManager) (sample : EnergySample) :
    modeRank (m.effectiveMode sample).1 =
      max (max (modeRank sample.batteryMode)
        (modeRank (m.evaluateThermalMode (m.config.thermalHighCelsius.le sample.thermalCelsius)
          (m.config.thermalCriticalCelsius.le sample.thermalCelsius)).1))
        (if m.config.cpuHighPercent.le sample.cpuPercent then 1 else 0) := by
  simp only [effectiveMode, modeRank_maxMode]
  congr 1
  split_ifs <;> rfl

theorem batteryMode_milder {sample sample' : EnergySample} (better : NoWorse sample sample') :
    modeRank sample.batteryMode ≤ modeRank sample'.batteryMode := by
  apply determineMode_antitone
  apply F32.toByte_monotone
  exact F32.clamp_monotone (by decide) better.battery

/-- So does the mode of battery and heat together. -/
theorem effectiveMode_milder {m m' : EnergyManager} (milder : Milder m m')
    {sample sample' : EnergySample} (better : NoWorse sample sample') :
    modeRank (m.effectiveMode sample).1 ≤ modeRank (m'.effectiveMode sample').1 ∧
      Milder (m.effectiveMode sample).2 (m'.effectiveMode sample').2 := by
  have hotter (threshold : F32) : threshold.le sample.thermalCelsius →
      threshold.le sample'.thermalCelsius :=
    fun hot => F32.le_trans hot better.thermal
  have busier (threshold : F32) : threshold.le sample.cpuPercent →
      threshold.le sample'.cpuPercent :=
    fun busy => F32.le_trans busy better.cpu
  obtain ⟨thermal, milder'⟩ := thermalMode_milder milder
    (hotter m.config.thermalHighCelsius) (hotter m.config.thermalCriticalCelsius)
  refine ⟨?_, ?_⟩
  · rw [effectiveMode_rank, effectiveMode_rank, ← milder.config]
    have battery := batteryMode_milder better
    have cpu : (if m.config.cpuHighPercent.le sample.cpuPercent then 1 else 0) ≤
        if m.config.cpuHighPercent.le sample'.cpuPercent then 1 else 0 := by
      have := busier m.config.cpuHighPercent
      split_ifs <;> simp_all
    exact max_le_max (max_le_max battery thermal) cpu
  · unfold effectiveMode
    rw [← milder.config]
    exact milder'

/-! ## Policies -/

/-- What a step shows: the effective mode and the policy. -/
def evaluation (m : EnergyManager) (sample : EnergySample) : EnergyMode × EnergyPolicy :=
  ((m.effectiveMode sample).1, (m.evaluate sample).1.2)

def advance (m : EnergyManager) (sample : EnergySample) : EnergyManager := (m.evaluate sample).2

/-- The first outcome is no more restrictive than the second. -/
structure NoMoreRestrictive (outcome outcome' : EnergyMode × EnergyPolicy) : Prop where
  mode : modeRank outcome.1 ≤ modeRank outcome'.1
  llm : outcome'.2.llmEnabled = true → outcome.2.llmEnabled = true
  proactive : outcome'.2.proactiveEnabled = true → outcome.2.proactiveEnabled = true
  downgrade : outcome.2.requestModelDowngrade = true → outcome'.2.requestModelDowngrade = true
  unload : outcome.2.requestModelUnload = true → outcome'.2.requestModelUnload = true
  sleep : outcome.2.forceSleep = true → outcome'.2.forceSleep = true

theorem llmEnabled_iff (m : EnergyManager) (sample : EnergySample) :
    (evaluation m sample).2.llmEnabled = true ↔ modeRank (evaluation m sample).1 < 2 :=
  llm_allowed_iff _

theorem requestModelDowngrade_iff (m : EnergyManager) (sample : EnergySample) :
    (evaluation m sample).2.requestModelDowngrade = true ↔ 1 ≤ modeRank (evaluation m sample).1 := by
  rw [← restricted_iff]
  exact decide_eq_true_iff

theorem requestModelUnload_iff (m : EnergyManager) (sample : EnergySample) :
    (evaluation m sample).2.requestModelUnload = true ↔ 2 ≤ modeRank (evaluation m sample).1 := by
  rw [← eq_silent_iff]
  exact decide_eq_true_iff

theorem forceSleep_iff (m : EnergyManager) (sample : EnergySample) :
    (evaluation m sample).2.forceSleep = true ↔
      2 ≤ modeRank (evaluation m sample).1 ∧
        (sample.batteryPercent.le m.config.batteryCriticalPercent = true ∨
          m.config.thermalCriticalCelsius.le sample.thermalCelsius = true) ∧
        sample.onExternalPower = false := by
  rw [← eq_silent_iff]
  simp [evaluation, evaluate, and_assoc]

/-- A forced sleep is `Silent` already, so it blocks nothing further. -/
theorem proactiveEnabled_iff (m : EnergyManager) (sample : EnergySample) :
    (evaluation m sample).2.proactiveEnabled = true ↔ modeRank (evaluation m sample).1 < 2 := by
  have awake : (evaluation m sample).2.forceSleep = true → ¬modeRank (evaluation m sample).1 < 2 :=
    fun sleeping => Nat.not_lt.mpr ((forceSleep_iff m sample).mp sleeping).1
  have shape : (evaluation m sample).2.proactiveEnabled =
      ((authorizeExecution (evaluation m sample).1 .proactive).allowed &&
        !(evaluation m sample).2.forceSleep) := rfl
  rw [shape, Bool.and_eq_true, proactive_allowed_iff, Bool.not_eq_true']
  constructor
  · exact And.left
  · intro below
    refine ⟨below, Bool.eq_false_iff.mpr ?_⟩
    intro sleeping
    exact awake sleeping below

/-- A better sample on a milder manager is answered no more restrictively. -/
theorem evaluation_milder {m m' : EnergyManager} (milder : Milder m m')
    {sample sample' : EnergySample} (better : NoWorse sample sample') :
    NoMoreRestrictive (evaluation m sample) (evaluation m' sample') := by
  have mode : modeRank (evaluation m sample).1 ≤ modeRank (evaluation m' sample').1 :=
    (effectiveMode_milder milder better).1
  refine ⟨mode, ?_, ?_, ?_, ?_, ?_⟩
  · rw [llmEnabled_iff, llmEnabled_iff]
    omega
  · rw [proactiveEnabled_iff, proactiveEnabled_iff]
    omega
  · rw [requestModelDowngrade_iff, requestModelDowngrade_iff]
    omega
  · rw [requestModelUnload_iff, requestModelUnload_iff]
    omega
  · rw [forceSleep_iff, forceSleep_iff, ← milder.config]
    rintro ⟨silent, critical, battery⟩
    refine ⟨silent.trans mode, ?_, ?_⟩
    · exact critical.imp (F32.le_trans better.battery) (fun hot => F32.le_trans hot better.thermal)
    · exact Bool.eq_false_iff.mpr fun powered => by simp [better.power powered] at battery

theorem advance_milder {m m' : EnergyManager} (milder : Milder m m')
    {sample sample' : EnergySample} (better : NoWorse sample sample') :
    Milder (advance m sample) (advance m' sample') := by
  have after := (effectiveMode_milder milder better).2
  exact ⟨after.config, after.cooldown⟩

/-- Over whole runs with the same thresholds, samples that are no worse give at every step a mode
that is no more restrictive, and with it every part of the policy. -/
theorem evaluate_monotone (config : EnergyConfig) {samples samples' : List EnergySample}
    (pointwise : List.Forall₂ NoWorse samples samples') :
    List.Forall₂ NoMoreRestrictive (observations advance evaluation (new config) samples)
      (observations advance evaluation (new config) samples') := by
  have alike : Milder (new config) (new config) := ⟨rfl, Nat.le_refl _⟩
  apply forall₂_observations _ _ pointwise (new config) (new config) alike
  · intro m m' sample sample' milder better
    exact evaluation_milder milder better
  · intro m m' sample sample' milder better
    exact advance_milder milder better

def cool : EnergySample := ⟨.finite 20, .finite 80, .finite 40, true⟩

def hot : EnergySample := ⟨.finite 30, .finite 60, .finite 78, false⟩

theorem cool_no_more_restrictive :
    NoWorse cool hot ∧
      List.Forall₂ NoMoreRestrictive (observations advance evaluation (new .default) [cool, cool])
        (observations advance evaluation (new .default) [hot, cool]) := by
  have better : NoWorse cool hot := ⟨by decide, by decide, by decide, by decide⟩
  have same : NoWorse cool cool := ⟨by decide, by decide, by decide, by decide⟩
  exact ⟨better, evaluate_monotone .default (.cons better (.cons same .nil))⟩

end Apcos.Guarantees.EnergyMonotone
