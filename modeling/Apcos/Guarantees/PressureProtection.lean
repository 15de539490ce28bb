import Apcos.Lib.Runs
import Apcos.Source.Hardware.DeviceState

/-!
# Protection under pressure

The device state downgrades the model on battery and shortens the ASR timeout on
heat; the governor upgrades the model and restores the timeout whenever it sees
neither CPU nor memory pressure, whatever the battery and the temperature are. The
protections last exactly as long as every evaluation of the governor is paused or
sees pressure of its own; for the timeout a short default will also do.
-/
namespace Apcos.Guarantees.PressureProtection

open Apcos.Lib
open Apcos.Source.Python
open Apcos.Source.Behavior
open Apcos.Source.Hardware

/-- A run up to its first `evaluate_state` and from it on. -/
structure PressureRun where
  earlier : List RuntimeSamples
  readings : DeviceReadings
  later : List PressureEvent

namespace PressureRun

def opening (r : PressureRun) : List PressureEvent :=
  r.earlier.map .evaluate ++ [.evaluateState r.readings]

/-- The state right after the first `evaluate_state`. -/
def first (r : PressureRun) (m : DeviceStateManager) : DeviceStateManager :=
  run DeviceStateManager.step m r.opening

end PressureRun

/-- Every battery reading is at or below the low threshold. -/
def LowBattery (monitor : BatteryMonitor) (r : PressureRun) : Prop :=
  ∀ readings, .evaluateState readings ∈ r.opening ++ r.later →
    ∀ reading ∈ [readings.batteryPercent, readings.batteryLow, readings.batteryCritical],
      monitor.isLow reading = true

/-- Every temperature reading is at or above the limit. -/
def Hot (monitor : ThermalMonitor) (r : PressureRun) : Prop :=
  ∀ readings, .evaluateState readings ∈ r.opening ++ r.later →
    ∀ samples ∈ [readings.thermalCelsius, readings.thermalOver], monitor.isOverLimit samples = true

def TinyModel (m : DeviceStateManager) : Prop := m.governor.modelManager.modelSize = .tiny

def ShortTimeout (m : DeviceStateManager) : Prop :=
  m.governor.asrEngine.timeoutSeconds.seconds.le (hundredths 35) = true

/-- From the first `evaluate_state` on, the protection that the readings call for holds
after every call. -/
def Protected (m : DeviceStateManager) (r : PressureRun) : Prop :=
  (LowBattery m.batteryMonitor r → ∀ before after, r.later = before ++ after →
    TinyModel (run DeviceStateManager.step (r.first m) before)) ∧
  (Hot m.thermalMonitor r → ∀ before after, r.later = before ++ after →
    ShortTimeout (run DeviceStateManager.step (r.first m) before))

/-- An evaluation of the governor is paused or sees pressure. -/
def SeesPressure (g : ResourceGovernor) (samples : RuntimeSamples) : Prop :=
  g.evaluationPaused = true ∨ g.cpuOver samples = true ∨ g.memoryHigh samples = true

def KeepsModel (m : DeviceStateManager) : PressureEvent → Prop
  | .evaluateState _ => True
  | .evaluate samples => SeesPressure m.governor samples

def KeepsTimeout (m : DeviceStateManager) : PressureEvent → Prop
  | .evaluateState _ => True
  | .evaluate samples =>
    SeesPressure m.governor samples ∨
      m.governor.defaultAsrTimeout.seconds.le (hundredths 35) = true

/-! ## Timeouts -/

theorem floor_le_short : timeoutFloor.le (hundredths 35) = true := by
  decide +kernel

theorem of_short {seconds : PyFloat} (short : seconds.le (hundredths 35) = true) :
    (Timeout.of seconds).seconds.le (hundredths 35) = true := by
  simp only [Timeout.of]
  unfold PyFloat.max
  split
  · exact short
  · exact floor_le_short

/-- A timeout is its own clamped value. -/
theorem of_seconds (t : Timeout) : (Timeout.of t.seconds).seconds = t.seconds := by
  simp only [Timeout.of]
  exact PyFloat.max_eq_of_le t.floored

theorem seconds_ne_nan (t : Timeout) : t.seconds ≠ .nan := by
  intro isNan
  have floored := t.floored
  rw [isNan, PyFloat.le_nan_right] at floored
  cases floored

theorem min_short {seconds : PyFloat} (short : seconds.le (hundredths 35) = true)
    (other : PyFloat) : (seconds.min other).le (hundredths 35) = true := by
  unfold PyFloat.min
  split
  · rename_i less
    exact PyFloat.le_of_lt_of_le less short
  · exact short

theorem hundredths_ne_nan : hundredths 35 ≠ .nan := by
  decide +kernel

theorem short_le_short : (hundredths 35).le (hundredths 35) = true := by
  decide +kernel

theorem min_of_timeout (t : Timeout) :
    (t.seconds.min (hundredths 35)).le (hundredths 35) = true := by
  unfold PyFloat.min
  split
  · exact short_le_short
  · rename_i not_less
    exact PyFloat.le_of_not_lt (seconds_ne_nan t) hundredths_ne_nan (by simpa using not_less)

/-! ## The governor -/

theorem unloadIfIdle_size (m : ModelManager) (idleSeconds : PyFloat) (force idleElapsed : Bool) :
    (m.unloadIfIdle idleSeconds force idleElapsed).2.modelSize = m.modelSize := by
  unfold ModelManager.unloadIfIdle
  split
  · rfl
  · split
    · rfl
    · split
      · rfl
      · split
        · rfl
        · rfl

theorem downgradeModel_size (m : ModelManager) : m.downgradeModel.2.modelSize = .tiny := by
  unfold ModelManager.downgradeModel
  split
  · rename_i already
    exact already
  · rfl

theorem upgradeModel_size (m : ModelManager) : m.upgradeModel.2.modelSize = .small := by
  unfold ModelManager.upgradeModel
  split
  · rename_i already
    exact already
  · rfl

/-- A governor that has taken in its signals. -/
def Observed (cpuOver memoryHigh : Bool) (g : ResourceGovernor) : Prop :=
  g.powerMode = updateMode cpuOver memoryHigh

theorem normal_iff {cpuOver memoryHigh : Bool} {g : ResourceGovernor}
    (observed : Observed cpuOver memoryHigh g) :
    g.powerMode = .normal ↔ ¬(cpuOver = true ∨ memoryHigh = true) := by
  rw [observed, updateMode]
  cases cpuOver with
  | true => cases memoryHigh <;> simp
  | false => cases memoryHigh <;> simp

/-- A tiny model stays tiny exactly under pressure. -/
theorem manageModel_tiny_iff {cpuOver memoryHigh : Bool} {g : ResourceGovernor}
    (observed : Observed cpuOver memoryHigh g) (tiny : g.modelManager.modelSize = .tiny) :
    (g.manageModel cpuOver memoryHigh).2.modelManager.modelSize = .tiny ↔
      cpuOver = true ∨ memoryHigh = true := by
  unfold ResourceGovernor.manageModel
  split
  · rename_i both
    obtain ⟨high, exceeded⟩ := Bool.and_eq_true_iff.mp both
    simp only [unloadIfIdle_size, tiny, high, exceeded, true_or]
  · split
    · rename_i pressured
      obtain ⟨-, pressure⟩ := Bool.and_eq_true_iff.mp pressured
      simp only [downgradeModel_size, true_iff]
      exact Bool.or_eq_true_iff.mp pressure
    · split
      · rename_i normal
        simp only [upgradeModel_size, reduceCtorEq, false_iff]
        exact (normal_iff observed).mp normal
      · rename_i notNormal
        simp only [tiny, true_iff]
        by_contra calm
        exact notNormal ((normal_iff observed).mpr calm)

theorem manageModel_engine (cpuOver memoryHigh : Bool) (g : ResourceGovernor) :
    (g.manageModel cpuOver memoryHigh).2.asrEngine = g.asrEngine ∧
      (g.manageModel cpuOver memoryHigh).2.defaultAsrTimeout = g.defaultAsrTimeout ∧
      (g.manageModel cpuOver memoryHigh).2.powerMode = g.powerMode := by
  unfold ResourceGovernor.manageModel
  split
  · exact ⟨rfl, rfl, rfl⟩
  · split
    · exact ⟨rfl, rfl, rfl⟩
    · split
      · exact ⟨rfl, rfl, rfl⟩
      · exact ⟨rfl, rfl, rfl⟩

theorem adjustTimeout_model (cpuOver memoryHigh : Bool) (g : ResourceGovernor) :
    (g.adjustTimeout cpuOver memoryHigh).2.modelManager = g.modelManager := by
  unfold ResourceGovernor.adjustTimeout
  split
  · rfl
  · split
    · rfl
    · rfl

/-- A short timeout stays short unless a longer default is restored. -/
theorem adjustTimeout_short_iff {cpuOver memoryHigh : Bool} {g : ResourceGovernor}
    (observed : Observed cpuOver memoryHigh g)
    (short : g.asrEngine.timeoutSeconds.seconds.le (hundredths 35) = true) :
    (g.adjustTimeout cpuOver memoryHigh).2.asrEngine.timeoutSeconds.seconds.le (hundredths 35) =
        true ↔
      (cpuOver = true ∨ memoryHigh = true) ∨
        g.defaultAsrTimeout.seconds.le (hundredths 35) = true := by
  unfold ResourceGovernor.adjustTimeout
  split
  · rename_i reduces
    obtain ⟨pressure, -⟩ := Bool.and_eq_true_iff.mp reduces
    constructor
    · exact fun _ => Or.inl (Bool.or_eq_true_iff.mp pressure)
    · intro _
      simp only [ASREngine.setTimeout]
      exact of_short (min_short short _)
  · split
    · rename_i normal
      simp only [ASREngine.setTimeout, of_seconds, (normal_iff observed).mp normal, false_or]
    · rename_i notNormal
      simp only [short, true_iff]
      left
      by_contra calm
      exact notNormal ((normal_iff observed).mpr calm)

theorem act_tiny_iff {cpuOver memoryHigh : Bool} {g : ResourceGovernor} (idleElapsed : Bool)
    (observed : Observed cpuOver memoryHigh g) (tiny : g.modelManager.modelSize = .tiny) :
    (g.act cpuOver memoryHigh idleElapsed).2.modelManager.modelSize = .tiny ↔
      cpuOver = true ∨ memoryHigh = true := by
  simp only [ResourceGovernor.act, adjustTimeout_model, ResourceGovernor.unloadIdle,
    unloadIfIdle_size]
  exact manageModel_tiny_iff observed tiny

theorem act_short_iff {cpuOver memoryHigh : Bool} {g : ResourceGovernor} (idleElapsed : Bool)
    (observed : Observed cpuOver memoryHigh g)
    (short : g.asrEngine.timeoutSeconds.seconds.le (hundredths 35) = true) :
    (g.act cpuOver memoryHigh idleElapsed).2.asrEngine.timeoutSeconds.seconds.le
        (hundredths 35) = true ↔
      (cpuOver = true ∨ memoryHigh = true) ∨
        g.defaultAsrTimeout.seconds.le (hundredths 35) = true := by
  obtain ⟨engine, default, mode⟩ := manageModel_engine cpuOver memoryHigh g
  simp only [ResourceGovernor.act]
  rw [adjustTimeout_short_iff]
  · rw [ResourceGovernor.unloadIdle, default]
  · exact mode.trans observed
  · rw [ResourceGovernor.unloadIdle, engine]
    exact short

theorem evaluate_tiny_iff {g : ResourceGovernor} (samples : RuntimeSamples)
    (tiny : g.modelManager.modelSize = .tiny) :
    (g.evaluate samples).2.modelManager.modelSize = .tiny ↔ SeesPressure g samples := by
  unfold ResourceGovernor.evaluate SeesPressure
  cases paused : g.evaluationPaused with
  | true => simp [ResourceGovernor.observe, paused, tiny]
  | false =>
    have acts := act_tiny_iff (g := g.observe samples) samples.idleElapsed rfl tiny
    simpa [ResourceGovernor.observe, paused] using acts

theorem evaluate_short_iff {g : ResourceGovernor} (samples : RuntimeSamples)
    (short : g.asrEngine.timeoutSeconds.seconds.le (hundredths 35) = true) :
    (g.evaluate samples).2.asrEngine.timeoutSeconds.seconds.le (hundredths 35) = true ↔
      SeesPressure g samples ∨ g.defaultAsrTimeout.seconds.le (hundredths 35) = true := by
  unfold ResourceGovernor.evaluate SeesPressure
  cases paused : g.evaluationPaused with
  | true => simp [ResourceGovernor.observe, paused, short]
  | false =>
    have acts := act_short_iff (g := g.observe samples) samples.idleElapsed rfl short
    simpa [ResourceGovernor.observe, paused] using acts

theorem manageModel_scale (cpuOver memoryHigh : Bool) (g : ResourceGovernor) :
    (g.manageModel cpuOver memoryHigh).2.cpuBudgetScale = g.cpuBudgetScale := by
  unfold ResourceGovernor.manageModel
  split
  · rfl
  · split
    · rfl
    · split
      · rfl
      · rfl

theorem adjustTimeout_scale (cpuOver memoryHigh : Bool) (g : ResourceGovernor) :
    (g.adjustTimeout cpuOver memoryHigh).2.cpuBudgetScale = g.cpuBudgetScale := by
  unfold ResourceGovernor.adjustTimeout
  split
  · rfl
  · split
    · rfl
    · rfl

/-- An evaluation leaves the budget scale alone. -/
theorem evaluate_scale (samples : RuntimeSamples) (g : ResourceGovernor) :
    (g.evaluate samples).2.cpuBudgetScale = g.cpuBudgetScale := by
  unfold ResourceGovernor.evaluate
  cases paused : g.evaluationPaused with
  | true => simp [ResourceGovernor.observe, paused]
  | false =>
    simp [ResourceGovernor.observe, paused, ResourceGovernor.act, adjustTimeout_scale,
      ResourceGovernor.unloadIdle, manageModel_scale]

/-! ## The signals -/

/-- What every signal keeps, and some signal brings about, holds after all of them. -/
theorem foldl_signals {P Q : ResourceGovernor → Prop}
    (sent : List (String × (ResourceGovernor → ResourceGovernor))) (g : ResourceGovernor)
    (before : ∀ signal ∈ sent, ∀ g, Q g → Q (signal.2 g))
    (after : ∀ signal ∈ sent, ∀ g, P g → P (signal.2 g))
    (brought : P g ∨ Q g ∧ ∃ signal ∈ sent, ∀ g, Q g → P (signal.2 g)) :
    P (sent.foldl (fun g signal => signal.2 g) g) := by
  induction sent generalizing g with
  | nil =>
    rcases brought with holds | ⟨-, signal, member, -⟩
    · exact holds
    · cases member
  | cons first rest ih =>
    rw [List.foldl_cons]
    apply ih
    · exact fun signal member => before signal (List.mem_cons_of_mem first member)
    · exact fun signal member => after signal (List.mem_cons_of_mem first member)
    · rcases brought with holds | ⟨ready, signal, member, brings⟩
      · exact Or.inl (after first List.mem_cons_self g holds)
      · rcases List.mem_cons.mp member with here | later
        · rw [here] at brings
          exact Or.inl (brings g ready)
        · exact Or.inr ⟨before first List.mem_cons_self g ready, signal, later, brings⟩

open DeviceStateManager (signals signalGovernor)

variable (sleeping batteryLow batteryCritical thermalOver microphoneOk : Bool)

/-- What the five requests keep, every signal keeps. -/
theorem signals_keep {P : ResourceGovernor → Prop}
    (pauses : ∀ g, P g → P g.pauseEvaluation.2) (resumes : ∀ g, P g → P g.resumeEvaluation.2)
    (reduces : ∀ g, P g → P (g.reduceCpuBudget (hundredths 50)).2)
    (downgrades : ∀ g, P g → P g.forceModelDowngrade.2)
    (unloads : ∀ g, P g → P g.forceModelUnload.2) :
    ∀ signal ∈ signals sleeping batteryLow batteryCritical thermalOver microphoneOk,
      ∀ g, P g → P (signal.2 g) := by
  intro signal member
  simp only [signals, List.mem_append, or_assoc] at member
  rcases member with pausing | reducing | downgrading | unloading | failing
  · rw [List.mem_singleton.mp pausing]
    split
    · exact pauses
    · exact resumes
  · split at reducing
    · rw [List.mem_singleton.mp reducing]
      exact reduces
    · cases reducing
  · split at downgrading
    · rw [List.mem_singleton.mp downgrading]
      exact downgrades
    · cases downgrading
  · split at unloading
    · rw [List.mem_singleton.mp unloading]
      exact unloads
    · cases unloading
  · split at failing
    · rw [List.mem_singleton.mp failing]
      exact pauses
    · cases failing

theorem pauseEvaluation_kept (g : ResourceGovernor) :
    ∃ paused, g.pauseEvaluation.2 = { g with evaluationPaused := paused } := by
  unfold ResourceGovernor.pauseEvaluation
  split
  · exact ⟨g.evaluationPaused, rfl⟩
  · exact ⟨true, rfl⟩

theorem resumeEvaluation_kept (g : ResourceGovernor) :
    ∃ paused, g.resumeEvaluation.2 = { g with evaluationPaused := paused } := by
  unfold ResourceGovernor.resumeEvaluation
  split
  · exact ⟨g.evaluationPaused, rfl⟩
  · exact ⟨false, rfl⟩

theorem reduceCpuBudget_model (budgetScale : PyFloat) (g : ResourceGovernor) :
    (g.reduceCpuBudget budgetScale).2.modelManager = g.modelManager := by
  unfold ResourceGovernor.reduceCpuBudget
  dsimp only
  split
  · rfl
  · rfl

def Short (g : ResourceGovernor) : Prop :=
  g.asrEngine.timeoutSeconds.seconds.le (hundredths 35) = true

/-- The one-shot reduction leaves a short timeout, or does nothing. -/
theorem reduceCpuBudget_cases (budgetScale : PyFloat) (g : ResourceGovernor) :
    (g.reduceCpuBudget budgetScale).2 = g ∨ Short (g.reduceCpuBudget budgetScale).2 := by
  unfold ResourceGovernor.reduceCpuBudget
  dsimp only
  split
  · exact Or.inl rfl
  · right
    simp only [Short, ASREngine.setTimeout]
    exact of_short (min_of_timeout _)

theorem reduceCpuBudget_keeps {budgetScale : PyFloat} {g : ResourceGovernor} (short : Short g) :
    Short (g.reduceCpuBudget budgetScale).2 := by
  rcases reduceCpuBudget_cases budgetScale g with same | reduced
  · rw [same]
    exact short
  · exact reduced

def Tiny (g : ResourceGovernor) : Prop := g.modelManager.modelSize = .tiny

theorem signals_tiny : ∀ signal ∈
    signals sleeping batteryLow batteryCritical thermalOver microphoneOk,
      ∀ g, Tiny g → Tiny (signal.2 g) := by
  apply signals_keep
  · intro g tiny
    obtain ⟨paused, kept⟩ := pauseEvaluation_kept g
    rw [kept]
    exact tiny
  · intro g tiny
    obtain ⟨paused, kept⟩ := resumeEvaluation_kept g
    rw [kept]
    exact tiny
  · intro g tiny
    rw [Tiny, reduceCpuBudget_model]
    exact tiny
  · exact fun g _ => downgradeModel_size g.modelManager
  · intro g tiny
    simpa [Tiny, ResourceGovernor.forceModelUnload, unloadIfIdle_size] using tiny

theorem signals_short : ∀ signal ∈
    signals sleeping batteryLow batteryCritical thermalOver microphoneOk,
      ∀ g, Short g → Short (signal.2 g) := by
  apply signals_keep
  · intro g short
    obtain ⟨paused, kept⟩ := pauseEvaluation_kept g
    rw [kept]
    exact short
  · intro g short
    obtain ⟨paused, kept⟩ := resumeEvaluation_kept g
    rw [kept]
    exact short
  · exact fun g short => reduceCpuBudget_keeps short
  · exact fun g short => short
  · exact fun g short => short

/-- A governor whose budget was never reduced. -/
def Unreduced (g : ResourceGovernor) : Prop := g.cpuBudgetScale = .finite 1

theorem unreduced_reduces : (PyFloat.finite 1).le
    ((hundredths 10).max ((PyFloat.finite 1).min (hundredths 50))) = false := by
  decide +kernel

theorem reduceCpuBudget_short {g : ResourceGovernor} (unreduced : Unreduced g) :
    Short (g.reduceCpuBudget (hundredths 50)).2 := by
  unfold ResourceGovernor.reduceCpuBudget
  dsimp only
  rw [unreduced, unreduced_reduces, if_neg (by simp)]
  simp only [Short, ASREngine.setTimeout]
  exact of_short (min_of_timeout _)

/-- Every signal leaves a timeout that is full or already short. -/
theorem signals_ready : ∀ signal ∈
    signals sleeping batteryLow batteryCritical thermalOver microphoneOk,
      ∀ g, Unreduced g ∨ Short g → Unreduced (signal.2 g) ∨ Short (signal.2 g) := by
  apply signals_keep (P := fun g => Unreduced g ∨ Short g)
  · intro g either
    obtain ⟨paused, kept⟩ := pauseEvaluation_kept g
    rw [kept]
    exact either
  · intro g either
    obtain ⟨paused, kept⟩ := resumeEvaluation_kept g
    rw [kept]
    exact either
  · intro g either
    rcases reduceCpuBudget_cases (hundredths 50) g with same | reduced
    · rw [same]
      exact either
    · exact Or.inr reduced
  · exact fun g either => either
  · exact fun g either => either

/-- A low battery leaves a tiny model. -/
theorem signalGovernor_tiny (g : ResourceGovernor) (either : Tiny g ∨ batteryLow = true) :
    Tiny (signalGovernor sleeping batteryLow batteryCritical thermalOver microphoneOk g).2 := by
  refine foldl_signals (Q := fun _ => True) _ g (fun _ _ _ _ => trivial)
    (signals_tiny sleeping batteryLow batteryCritical thermalOver microphoneOk) ?_
  rcases either with tiny | low
  · exact Or.inl tiny
  · refine Or.inr ⟨trivial, ("MODEL_DOWNGRADE_REQUESTED", fun g => g.forceModelDowngrade.2), ?_, ?_⟩
    · simp [signals, low]
    · exact fun g _ => downgradeModel_size g.modelManager

/-- A first reading of heat leaves a short timeout. -/
theorem signalGovernor_short (g : ResourceGovernor)
    (either : Short g ∨ Unreduced g ∧ thermalOver = true) :
    Short (signalGovernor sleeping batteryLow batteryCritical thermalOver microphoneOk g).2 := by
  refine foldl_signals (Q := fun g => Unreduced g ∨ Short g) _ g
    (signals_ready sleeping batteryLow batteryCritical thermalOver microphoneOk)
    (signals_short sleeping batteryLow batteryCritical thermalOver microphoneOk) ?_
  rcases either with short | ⟨unreduced, exceeded⟩
  · exact Or.inl short
  · refine Or.inr ⟨Or.inl unreduced,
      ("CPU_BUDGET_REDUCED", fun g => (g.reduceCpuBudget (hundredths 50)).2), ?_, ?_⟩
    · simp [signals, exceeded]
    · intro g ready
      rcases ready with unreduced | short
      · exact reduceCpuBudget_short unreduced
      · exact reduceCpuBudget_keeps short

/-! ## Steps and runs -/

theorem step_tiny_iff (m : DeviceStateManager) (e : PressureEvent) (tiny : TinyModel m) :
    TinyModel (m.step e) ↔ KeepsModel m e := by
  cases e with
  | evaluateState readings =>
    simp only [KeepsModel, iff_true]
    exact signalGovernor_tiny _ _ _ _ _ m.governor (Or.inl tiny)
  | evaluate samples => exact evaluate_tiny_iff samples tiny

theorem step_short_iff (m : DeviceStateManager) (e : PressureEvent) (short : ShortTimeout m) :
    ShortTimeout (m.step e) ↔ KeepsTimeout m e := by
  cases e with
  | evaluateState readings =>
    simp only [KeepsTimeout, iff_true]
    exact signalGovernor_short _ _ _ _ _ m.governor (Or.inl short)
  | evaluate samples => exact evaluate_short_iff samples short

/-- Evaluations of the governor before the first `evaluate_state` leave the budget. -/
theorem earlier_kept (m : DeviceStateManager) (earlier : List RuntimeSamples) :
    (run DeviceStateManager.step m (earlier.map .evaluate)).batteryMonitor = m.batteryMonitor ∧
      (run DeviceStateManager.step m (earlier.map .evaluate)).thermalMonitor =
        m.thermalMonitor ∧
      (run DeviceStateManager.step m (earlier.map .evaluate)).governor.cpuBudgetScale =
        m.governor.cpuBudgetScale := by
  induction earlier generalizing m with
  | nil => exact ⟨rfl, rfl, rfl⟩
  | cons samples rest ih =>
    obtain ⟨battery, thermal, scale⟩ := ih (m.step (.evaluate samples))
    exact ⟨battery, thermal, scale.trans (evaluate_scale samples m.governor)⟩

theorem first_tiny (m : DeviceStateManager) (r : PressureRun)
    (low : LowBattery m.batteryMonitor r) : TinyModel (r.first m) := by
  obtain ⟨battery, -, -⟩ := earlier_kept m r.earlier
  have reading := low r.readings (by simp [PressureRun.opening]) r.readings.batteryLow (by simp)
  rw [PressureRun.first, PressureRun.opening, run_append]
  refine signalGovernor_tiny _ _ _ _ _ _ (Or.inr ?_)
  rw [battery]
  exact reading

theorem first_short (m : DeviceStateManager) (r : PressureRun) (unreduced : Unreduced m.governor)
    (hot : Hot m.thermalMonitor r) : ShortTimeout (r.first m) := by
  obtain ⟨-, thermal, scale⟩ := earlier_kept m r.earlier
  have reading := hot r.readings (by simp [PressureRun.opening]) r.readings.thermalOver (by simp)
  rw [PressureRun.first, PressureRun.opening, run_append]
  refine signalGovernor_short _ _ _ _ _ _ (Or.inr ⟨scale.trans unreduced, ?_⟩)
  rw [thermal]
  exact reading

/-- For a new device state manager and governor: the protections that the readings call
for hold after every call exactly when every later evaluation of the governor sees
pressure or is paused; for the timeout a short default will do as well. -/
theorem protected_iff (batteryMonitor : BatteryMonitor) (thermalMonitor : ThermalMonitor)
    (cpuMonitor : CPUMonitor) (memoryMonitor : MemoryMonitor) (modelDowngradeEnabled : Bool)
    (idleUnloadSeconds : PyFloat) (initialMode : PowerMode) (modelManager : ModelManager)
    (asrEngine : ASREngine) (r : PressureRun) :
    Protected (.create batteryMonitor thermalMonitor (.create cpuMonitor memoryMonitor
        modelDowngradeEnabled idleUnloadSeconds initialMode modelManager asrEngine)) r ↔
      (LowBattery batteryMonitor r → Along DeviceStateManager.step KeepsModel
        (r.first (.create batteryMonitor thermalMonitor (.create cpuMonitor memoryMonitor
          modelDowngradeEnabled idleUnloadSeconds initialMode modelManager asrEngine))) r.later) ∧
      (Hot thermalMonitor r → Along DeviceStateManager.step KeepsTimeout
        (r.first (.create batteryMonitor thermalMonitor (.create cpuMonitor memoryMonitor
          modelDowngradeEnabled idleUnloadSeconds initialMode modelManager asrEngine)))
        r.later) := by
  generalize shape : DeviceStateManager.create batteryMonitor thermalMonitor (.create cpuMonitor
    memoryMonitor modelDowngradeEnabled idleUnloadSeconds initialMode modelManager asrEngine) = m
  have battery : m.batteryMonitor = batteryMonitor := by
    rw [← shape]
    rfl
  have thermal : m.thermalMonitor = thermalMonitor := by
    rw [← shape]
    rfl
  have unreduced : Unreduced m.governor := by
    rw [← shape]
    rfl
  rw [← battery, ← thermal, Protected]
  refine and_congr (imp_congr_right fun low => ?_) (imp_congr_right fun hot => ?_)
  · exact forall_reached_iff_along step_tiny_iff (r.first m) (first_tiny m r low) r.later
  · exact forall_reached_iff_along step_short_iff (r.first m) (first_short m r unreduced hot)
      r.later

/-! A device at 15 % and 80 degrees whose processor is idle. -/

def newDevice : DeviceStateManager :=
  .create ⟨.finite 20, .finite 10, by decide, by decide⟩ ⟨.finite 75⟩
    (.create ⟨.finite 75, 5, [], by decide⟩ ⟨.finite 500⟩ true (.finite 9999) .normal
      ⟨.small, false, 0⟩ (.create (.finite 2)))

def lowAndHot : DeviceReadings :=
  ⟨some (.finite 15), some (.finite 15), some (.finite 15), [.finite 80], [.finite 80], false, true⟩

def calmSamples : RuntimeSamples := ⟨.finite 10, .finite 100, .finite 100, false⟩

def calmRun : PressureRun := ⟨[], lowAndHot, [.evaluate calmSamples]⟩

/-- Nothing is asleep and the microphone works, at every evaluation. -/
def NotPaused (r : PressureRun) : Prop :=
  ∀ readings, .evaluateState readings ∈ r.opening ++ r.later →
    readings.sleeping = false ∧ readings.microphoneOk = true

theorem calmRun_readings {readings : DeviceReadings}
    (member : .evaluateState readings ∈ calmRun.opening ++ calmRun.later) :
    readings = lowAndHot := by
  simpa [calmRun, PressureRun.opening] using member

/-- The governor's first evaluation after the downgrade restores the model. -/
theorem calm_evaluation_upgrades :
    ¬∀ (batteryMonitor : BatteryMonitor) (thermalMonitor : ThermalMonitor)
      (cpuMonitor : CPUMonitor) (memoryMonitor : MemoryMonitor) (modelDowngradeEnabled : Bool)
      (idleUnloadSeconds : PyFloat) (initialMode : PowerMode) (modelManager : ModelManager)
      (asrEngine : ASREngine) (r : PressureRun), NotPaused r →
      Protected (.create batteryMonitor thermalMonitor (.create cpuMonitor memoryMonitor
        modelDowngradeEnabled idleUnloadSeconds initialMode modelManager asrEngine)) r := by
  intro always
  have awake : NotPaused calmRun := by
    intro readings member
    rw [calmRun_readings member]
    exact ⟨rfl, rfl⟩
  have low : LowBattery newDevice.batteryMonitor calmRun := by
    intro readings member reading queried
    rw [calmRun_readings member] at queried
    revert reading
    decide
  have kept : Protected newDevice calmRun := always _ _ _ _ _ _ _ _ _ calmRun awake
  have tiny : TinyModel (run DeviceStateManager.step (calmRun.first newDevice) calmRun.later) :=
    kept.1 low calmRun.later [] (List.append_nil _).symm
  have small : (run DeviceStateManager.step (calmRun.first newDevice)
      calmRun.later).governor.modelManager.modelSize = .small := by
    decide +kernel
  rw [TinyModel, small] at tiny
  cases tiny

end Apcos.Guarantees.PressureProtection
