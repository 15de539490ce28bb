import Apcos.Lib.Timer
import Apcos.Guarantees.EnergyMonotone

/-!
# Closed form of the thermal hysteresis

os/src/energy_manager.rs:274-298. The flag and the counter are a timer that every hot sample
restarts: what it has left is the cooldown, and the mode of a step asks how long ago the latest
hot sample was.
-/
namespace Apcos.Guarantees.ThermalHysteresis

open Apcos.Lib
open Apcos.Source.Supervisor
open Apcos.Source.Supervisor.EnergyManager
open Apcos.Guarantees.EnergyMonotone (cooldown advance thermalMode_hot thermalMode_cool
  thermalMode_config)

def high (config : EnergyConfig) (sample : EnergySample) : Bool :=
  config.thermalHighCelsius.le sample.thermalCelsius

def critical (config : EnergyConfig) (sample : EnergySample) : Bool :=
  config.thermalCriticalCelsius.le sample.thermalCelsius

def hot (config : EnergyConfig) (sample : EnergySample) : Bool :=
  high config sample || critical config sample

def limit (config : EnergyConfig) : Nat := max config.thermalRecoveryCycles.val 1

/-- The thermal mode that `evaluate` computes from a sample. -/
def thermalMode (m : EnergyManager) (sample : EnergySample) : EnergyMode :=
  (m.evaluateThermalMode (high m.config sample) (critical m.config sample)).1

theorem effectiveMode_thermalMode (m : EnergyManager) (sample : EnergySample) :
    (m.effectiveMode sample).1 = maxMode (maxMode sample.batteryMode (thermalMode m sample))
      (if m.config.cpuHighPercent.le sample.cpuPercent then .reduced else .strategic) := rfl

/-- The latest hot sample before step `i` is at most as far back as the limit. -/
def Recovering (config : EnergyConfig) (samples : List EnergySample) (i : Nat) : Prop :=
  ∃ j, LatestAt (fun sample => hot config sample = true) (samples.take i) j ∧
    i - j ≤ limit config

/-! ## One step -/

theorem advance_config (m : EnergyManager) (sample : EnergySample) :
    (advance m sample).config = m.config :=
  thermalMode_config m (high m.config sample) (critical m.config sample)

theorem hot_or {config : EnergyConfig} {sample : EnergySample} :
    hot config sample = true ↔ high config sample = true ∨ critical config sample = true :=
  iff_of_eq (Bool.or_eq_true _ _)

theorem not_hot {config : EnergyConfig} {sample : EnergySample} (cool : ¬hot config sample = true) :
    high config sample = false ∧ critical config sample = false :=
  Bool.or_eq_false_iff.mp (Bool.eq_false_iff.mpr cool)

/-- The cooldown is what is left of the timer. -/
theorem cooldown_advance (m : EnergyManager) (sample : EnergySample) :
    cooldown (advance m sample) = hold (limit m.config) (hot m.config) (cooldown m) sample := by
  have shape : cooldown (advance m sample) =
      cooldown (m.evaluateThermalMode (high m.config sample) (critical m.config sample)).2 := rfl
  rw [shape, hold]
  by_cases trigger : hot m.config sample = true
  · rw [if_pos trigger, (thermalMode_hot m (hot_or.mp trigger)).2]
    rfl
  · rw [if_neg trigger, (not_hot trigger).1, (not_hot trigger).2, (thermalMode_cool m).2]

theorem thermalMode_rank (m : EnergyManager) (sample : EnergySample) :
    modeRank (thermalMode m sample) =
      if critical m.config sample then 2
      else if high m.config sample then 1
      else min (cooldown m) 1 := by
  unfold thermalMode
  by_cases trigger : hot m.config sample = true
  · rw [(thermalMode_hot m (hot_or.mp trigger)).1]
    by_cases burning : critical m.config sample = true
    · rw [if_pos burning, if_pos burning]
    · have warm := (hot_or.mp trigger).resolve_right burning
      rw [if_neg burning, if_neg burning, if_pos warm]
  · rw [(not_hot trigger).1, (not_hot trigger).2, (thermalMode_cool m).1]
    rfl

/-- What every step keeps. -/
structure Bounded (config : EnergyConfig) (m : EnergyManager) : Prop where
  same : m.config = config
  counter : m.thermalRecoveryCounter.val ≤ limit config

theorem counter_advance (m : EnergyManager) (sample : EnergySample)
    (bound : m.thermalRecoveryCounter.val ≤ limit m.config) :
    (advance m sample).thermalRecoveryCounter.val ≤ limit m.config := by
  change (m.evaluateThermalMode (high m.config sample)
    (critical m.config sample)).2.thermalRecoveryCounter.val ≤ limit m.config
  unfold evaluateThermalMode
  split_ifs with burning warm recovering counting
  · exact Nat.zero_le _
  · exact Nat.zero_le _
  · have less : m.thermalRecoveryCounter.val < limit m.config := Fin.lt_def.mp counting
    dsimp only
    unfold saturatingSucc
    split_ifs
    · exact less
    · exact bound
  · exact Nat.zero_le _
  · exact bound

theorem Bounded.advance {config : EnergyConfig} (m : EnergyManager) (sample : EnergySample)
    (bounded : Bounded config m) : Bounded config (advance m sample) := by
  obtain ⟨rfl, counter⟩ := bounded
  exact ⟨advance_config m sample, counter_advance m sample counter⟩

/-! ## Runs -/

theorem bounded_new (config : EnergyConfig) : Bounded config (new config) :=
  ⟨rfl, Nat.zero_le _⟩

theorem bounded_run (config : EnergyConfig) (samples : List EnergySample) :
    Bounded config (run advance (new config) samples) :=
  run_invariant Bounded.advance (new config) (bounded_new config) samples

theorem run_cooldown (config : EnergyConfig) (samples : List EnergySample) :
    cooldown (run advance (new config) samples) =
      run (hold (limit config) (hot config)) 0 samples := by
  have simulated (m : EnergyManager) (sample : EnergySample) (bounded : Bounded config m) :
      cooldown (advance m sample) = hold (limit config) (hot config) (cooldown m) sample := by
    rw [cooldown_advance, bounded.same]
  exact run_simulates Bounded.advance simulated (new config) (bounded_new config) samples

theorem cooldown_pos_iff (config : EnergyConfig) (samples : List EnergySample)
    (i : Fin samples.length) :
    0 < cooldown (run advance (new config) (samples.take i)) ↔ Recovering config samples i := by
  have length : (samples.take i).length = i := List.length_take_of_le i.isLt.le
  rw [run_cooldown, lt_run_hold_iff, length]
  rfl

theorem mode_of_rank (mode : EnergyMode) :
    (mode = .silent ↔ modeRank mode = 2) ∧ (mode = .reduced ↔ modeRank mode = 1) ∧
      (mode = .strategic ↔ modeRank mode = 0) := by
  cases mode <;> decide

/-- Whatever the config and the samples, `Silent` answers a critical sample, `Reduced` a high one
and those up to the limit after the latest hot one, `Strategic` the others; the counter stays
within the limit. -/
theorem thermal_closed_form (config : EnergyConfig) (samples : List EnergySample) :
    (∀ i : Fin samples.length,
      let mode := thermalMode (run advance (new config) (samples.take i)) samples[i]
      (mode = .silent ↔ critical config samples[i] = true) ∧
      (mode = .reduced ↔ critical config samples[i] = false ∧
        (high config samples[i] = true ∨ Recovering config samples i)) ∧
      (mode = .strategic ↔ critical config samples[i] = false ∧
        ¬(high config samples[i] = true ∨ Recovering config samples i))) ∧
      ∀ i, (run advance (new config) (samples.take i)).thermalRecoveryCounter.val ≤
        limit config := by
  refine ⟨?_, fun i => (bounded_run config (samples.take i)).counter⟩
  intro i
  have rank := thermalMode_rank (run advance (new config) (samples.take i)) samples[i]
  rw [(bounded_run config (samples.take i)).same] at rank
  have recovering := cooldown_pos_iff config samples i
  dsimp only
  obtain ⟨silent, reduced, strategic⟩ :=
    mode_of_rank (thermalMode (run advance (new config) (samples.take i)) samples[i])
  rw [← recovering, silent, reduced, strategic, rank]
  cases critical config samples[i] with
  | true => simp
  | false =>
    cases high config samples[i] with
    | true => simp
    | false =>
      simp only [Bool.false_eq_true, if_false, false_or, true_and, iff_false]
      refine ⟨?_, ?_, ?_⟩
      · omega
      · omega
      · omega

end Apcos.Guarantees.ThermalHysteresis
