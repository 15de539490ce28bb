import Apcos.Source.Hardware.DeviceState

/-!
# Signals to any governor

services/hardware/device_state_manager.py with any object registered as the runtime
governor, or none: `_signal_governor` asks `hasattr` before each call. With the
resource governor registered, which has every method, the snapshot is the one of
`DeviceStateManager.evaluateState`.
-/
namespace Apcos.Source.Hardware

/-- The methods that `hasattr` finds. -/
structure GovernorSurface where
  pauseEvaluation : Bool
  resumeEvaluation : Bool
  reduceCpuBudget : Bool
  forceModelDowngrade : Bool
  forceModelUnload : Bool

/-- A call with its reason, and the action listed for it. -/
structure GovernorCall where
  method : String
  reason : String
  action : String
  deriving DecidableEq

def governorCalls (governor : Option GovernorSurface)
    (sleeping batteryLow batteryCritical thermalOver microphoneOk : Bool) : List GovernorCall :=
  match governor with
  | none => []
  | some g =>
    (if sleeping then
      (if g.pauseEvaluation then [⟨"pause_evaluation", "DEVICE_SLEEP", "GOVERNOR_PAUSED"⟩] else [])
    else if g.resumeEvaluation then [⟨"resume_evaluation", "DEVICE_WAKE", "GOVERNOR_RESUMED"⟩]
    else []) ++
    (if thermalOver && g.reduceCpuBudget then
      [⟨"reduce_cpu_budget", "THERMAL_LIMIT", "CPU_BUDGET_REDUCED"⟩] else []) ++
    (if (batteryLow || batteryCritical) && g.forceModelDowngrade then
      [⟨"force_model_downgrade", if batteryCritical then "BATTERY_CRITICAL" else "BATTERY_LOW",
        "MODEL_DOWNGRADE_REQUESTED"⟩] else []) ++
    (if batteryCritical && g.forceModelUnload then
      [⟨"force_model_unload", "BATTERY_CRITICAL", "MODEL_UNLOAD_REQUESTED"⟩] else []) ++
    (if !microphoneOk && g.pauseEvaluation then
      [⟨"pause_evaluation", "MICROPHONE_FAILURE", "GOVERNOR_PAUSED_MIC_FAILURE"⟩] else [])

def governorActions (governor : Option GovernorSurface)
    (sleeping batteryLow batteryCritical thermalOver microphoneOk : Bool) : List String :=
  (governorCalls governor sleeping batteryLow batteryCritical thermalOver microphoneOk).map
    (·.action)

/-- `evaluate_state`, each query with a reading of its own. -/
def evaluateSnapshot (batteryMonitor : BatteryMonitor) (thermalMonitor : ThermalMonitor)
    (governor : Option GovernorSurface) (r : DeviceReadings) : DeviceSnapshot :=
  let batteryLow := batteryMonitor.isLow r.batteryLow
  let batteryCritical := batteryMonitor.isCritical r.batteryCritical
  let thermalOver := thermalMonitor.isOverLimit r.thermalOver
  { state :=
      if r.sleeping then .sleep
      else if batteryCritical || !r.microphoneOk then .critical
      else if thermalOver then .thermalLimit
      else if batteryLow then .lowBattery
      else .idle
    batteryPercent := BatteryMonitor.levelPercent r.batteryPercent
    thermalCelsius := ThermalMonitor.temperatureCelsius r.thermalCelsius
    microphoneOperational := r.microphoneOk
    actions :=
      governorActions governor r.sleeping batteryLow batteryCritical thermalOver r.microphoneOk }

/-- The surface of core/behavior/resource_governor.py. -/
def resourceGovernorSurface : GovernorSurface := ⟨true, true, true, true, true⟩

theorem signals_actions (sleeping batteryLow batteryCritical thermalOver microphoneOk : Bool) :
    (DeviceStateManager.signals sleeping batteryLow batteryCritical thermalOver microphoneOk).map
        (·.1) =
      governorActions (some resourceGovernorSurface) sleeping batteryLow batteryCritical thermalOver
        microphoneOk := by
  cases sleeping <;> cases batteryLow <;> cases batteryCritical <;> cases thermalOver <;>
    cases microphoneOk <;> rfl

theorem evaluateState_snapshot (r : DeviceReadings) (m : DeviceStateManager) :
    (m.evaluateState r).1 =
      evaluateSnapshot m.batteryMonitor m.thermalMonitor (some resourceGovernorSurface) r := by
  simp only [DeviceStateManager.evaluateState, DeviceStateManager.signalGovernor, signals_actions,
    evaluateSnapshot]

end Apcos.Source.Hardware
