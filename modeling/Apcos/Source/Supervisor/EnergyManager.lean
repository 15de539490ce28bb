import Mathlib.Algebra.Order.Ring.Rat
import Apcos.Source.Python.Value
import Apcos.Source.Supervisor.Authorities
import Apcos.Source.Supervisor.EventBus

/-!
# Energy manager

os/src/energy_manager.rs:9-298. Samples and thresholds are `f32` values; only
their order and the truncation of the battery reading to a byte are used. The
manager remembers its last policy, whether it forced a sleep, and how far the
recovery from a hot sample has come.
-/
namespace Apcos.Source.Supervisor

/-- An `f32` value: NaN, an infinity or a number. -/
abbrev F32 := Python.PyFloat

namespace F32

/-- `f32::clamp`; a NaN stays a NaN. -/
def clamp (x low high : F32) : F32 := if x.lt low then low else if high.lt x then high else x

/-- `x as u8`: towards zero, saturating, and 0 for a NaN. -/
def toByte : F32 → Fin 256
  | .nan => ⟨0, zero_lt_byte⟩
  | .infinity negative =>
    if negative then ⟨0, zero_lt_byte⟩ else ⟨255, Nat.lt_succ_self 255⟩
  | .finite x => ⟨min x.floor.toNat 255, Nat.lt_succ_of_le (Nat.min_le_right _ _)⟩

theorem le_trans {x y z : F32} (first : x.le y = true) (second : y.le z = true) :
    x.le z = true := by
  cases y with
  | nan => cases x <;> cases first
  | infinity negative => cases negative <;> cases x <;> cases z <;> simp_all [Python.PyFloat.le]
  | finite y =>
    cases x <;> cases z <;> simp_all [Python.PyFloat.le]
    exact first.trans second

theorem clamp_finite {low high : Rat} (ordered : low ≤ high) (x : Rat) :
    clamp (.finite x) (.finite low) (.finite high) = .finite (max low (min x high)) := by
  simp only [clamp, Python.PyFloat.lt, decide_eq_true_eq]
  by_cases below : x < low
  · rw [if_pos below, max_eq_left]
    exact (min_le_left x high).trans below.le
  · rw [if_neg below]
    by_cases above : high < x
    · rw [if_pos above, min_eq_right above.le, max_eq_right ordered]
    · rw [if_neg above, min_eq_left (not_lt.mp above), max_eq_right (not_lt.mp below)]

/-- Clamping to an interval is monotone. -/
theorem clamp_monotone {low high : Rat} (ordered : low ≤ high) {x y : F32} (le : x.le y = true) :
    (clamp x (.finite low) (.finite high)).le (clamp y (.finite low) (.finite high)) = true := by
  cases x with
  | nan => cases le
  | infinity negative =>
    cases y with
    | nan => cases le
    | infinity negative' =>
      cases negative <;> cases negative' <;> simp_all [clamp, Python.PyFloat.lt, Python.PyFloat.le]
    | finite y =>
      cases negative with
      | false => cases le
      | true =>
        rw [clamp_finite ordered]
        simp [clamp, Python.PyFloat.lt, Python.PyFloat.le]
  | finite x =>
    rw [clamp_finite ordered]
    cases y with
    | nan => cases le
    | infinity negative =>
      cases negative with
      | true => cases le
      | false => simp [clamp, Python.PyFloat.lt, Python.PyFloat.le, ordered]
    | finite y =>
      rw [clamp_finite ordered]
      have le := of_decide_eq_true le
      exact decide_eq_true (max_le_max le_rfl (min_le_min le le_rfl))

/-- The saturating cast to a byte is monotone. -/
theorem toByte_monotone {x y : F32} (le : x.le y = true) : toByte x ≤ toByte y := by
  cases x with
  | nan => cases le
  | infinity negative =>
    cases negative with
    | true => exact Nat.zero_le _
    | false =>
      cases y with
      | nan => cases le
      | infinity negative' =>
        cases negative' with
        | true => cases le
        | false => exact Nat.le_refl 255
      | finite y => cases le
  | finite x =>
    cases y with
    | nan => cases le
    | infinity negative =>
      cases negative with
      | true => cases le
      | false => exact Nat.min_le_right _ _
    | finite y =>
      have floors := Int.toNat_le_toNat (Rat.floor_monotone (of_decide_eq_true le))
      exact Fin.mk_le_mk.mpr (min_le_min floors le_rfl)

end F32

structure EnergyConfig where
  cpuHighPercent : F32
  batteryLowPercent : F32
  batteryCriticalPercent : F32
  thermalHighCelsius : F32
  thermalCriticalCelsius : F32
  thermalRecoveryCycles : Fin 256

def EnergyConfig.default : EnergyConfig where
  cpuHighPercent := .finite 75
  batteryLowPercent := .finite 20
  batteryCriticalPercent := .finite 10
  thermalHighCelsius := .finite 75
  thermalCriticalCelsius := .finite 85
  thermalRecoveryCycles := ⟨3, Nat.lt_of_sub_pos (Nat.zero_lt_succ 252)⟩

structure EnergySample where
  cpuPercent : F32
  batteryPercent : F32
  thermalCelsius : F32
  onExternalPower : Bool

structure EnergyPolicy where
  llmEnabled : Bool
  proactiveEnabled : Bool
  requestModelDowngrade : Bool
  requestModelUnload : Bool
  forceSleep : Bool
  deriving DecidableEq, Repr

def EnergyPolicy.default : EnergyPolicy where
  llmEnabled := true
  proactiveEnabled := true
  requestModelDowngrade := false
  requestModelUnload := false
  forceSleep := false

def modeRank : EnergyMode → Nat
  | .strategic => 0
  | .reduced => 1
  | .silent => 2

def maxMode (left right : EnergyMode) : EnergyMode :=
  if modeRank right ≤ modeRank left then left else right

def EnergySample.batteryMode (sample : EnergySample) : EnergyMode :=
  determineMode (F32.toByte (F32.clamp sample.batteryPercent (.finite 0) (.finite 100)))

structure EnergyManager where
  config : EnergyConfig
  policy : EnergyPolicy
  forcedSleepActive : Bool
  thermalRecoveryCounter : Fin 256
  thermalRecoveryActive : Bool

namespace EnergyManager

def new (config : EnergyConfig) : EnergyManager where
  config := config
  policy := .default
  forcedSleepActive := false
  thermalRecoveryCounter := ⟨0, zero_lt_byte⟩
  thermalRecoveryActive := false

def evaluateThermalMode (m : EnergyManager) (thermalHigh thermalCritical : Bool) :
    EnergyMode × EnergyManager :=
  let restarted : EnergyManager :=
    { m with
      thermalRecoveryActive := true
      thermalRecoveryCounter := ⟨0, zero_lt_byte⟩ }
  if thermalCritical then (.silent, restarted)
  else if thermalHigh then (.reduced, restarted)
  else if m.thermalRecoveryActive then
    if m.thermalRecoveryCounter < atLeastOne m.config.thermalRecoveryCycles then
      (.reduced,
        { m with thermalRecoveryCounter := saturatingSucc m.thermalRecoveryCounter })
    else
      (.strategic,
        { m with
          thermalRecoveryCounter := ⟨0, zero_lt_byte⟩
          thermalRecoveryActive := false })
  else (.strategic, m)

/-- The first half of `evaluate`: `effective_mode`, and the manager with its recovery advanced. -/
def effectiveMode (m : EnergyManager) (sample : EnergySample) : EnergyMode × EnergyManager :=
  let thermalHigh := m.config.thermalHighCelsius.le sample.thermalCelsius
  let thermalCritical := m.config.thermalCriticalCelsius.le sample.thermalCelsius
  let cpuHigh := m.config.cpuHighPercent.le sample.cpuPercent
  let (thermalMode, m) := m.evaluateThermalMode thermalHigh thermalCritical
  let cpuMode : EnergyMode := if cpuHigh then .reduced else .strategic
  (maxMode (maxMode sample.batteryMode thermalMode) cpuMode, m)

def evaluate (m : EnergyManager) (sample : EnergySample) :
    (List Event × EnergyPolicy) × EnergyManager :=
  let batteryLow := sample.batteryPercent.le m.config.batteryLowPercent
  let batteryCritical := sample.batteryPercent.le m.config.batteryCriticalPercent
  let thermalHigh := m.config.thermalHighCelsius.le sample.thermalCelsius
  let thermalCritical := m.config.thermalCriticalCelsius.le sample.thermalCelsius
  let (mode, m) := m.effectiveMode sample
  let requestModelDowngrade : Bool := mode = .reduced ∨ mode = .silent
  let requestModelUnload : Bool := mode = .silent
  let forceSleep : Bool :=
    mode = .silent && (batteryCritical || thermalCritical) && !sample.onExternalPower
  let (sleepEvents, forcedSleepActive) :=
    if forceSleep && !m.forcedSleepActive then ([Event.sleepEntered], true)
    else if !forceSleep && m.forcedSleepActive then ([Event.sleepExited], false)
    else ([], m.forcedSleepActive)
  let policy : EnergyPolicy :=
    { llmEnabled := (authorizeExecution mode .llm).allowed
      proactiveEnabled := (authorizeExecution mode .proactive).allowed && !forceSleep
      requestModelDowngrade
      requestModelUnload
      forceSleep }
  let events :=
    (if batteryLow then [Event.batteryLow] else []) ++
      (if thermalHigh then [Event.thermalHigh] else []) ++ sleepEvents ++
      (if requestModelDowngrade then [Event.modelDowngrade] else []) ++
      (if requestModelUnload then [Event.modelUnload] else [])
  ((events, policy), { m with forcedSleepActive, policy })

end EnergyManager

end Apcos.Source.Supervisor
