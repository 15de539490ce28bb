import Apcos.Source.Behavior.ResourceGovernor

/-!
# Device state

services/hardware/device_state_manager.py, battery_monitor.py and
thermal_monitor.py, with a resource governor registered. A temperature reading is
the list of samples found in the reader's payload; what the sleep manager and the
microphone check answer is the input of an evaluation.
-/
namespace Apcos.Source.Hardware

open Apcos.Source.Python
open Apcos.Source.Behavior

/-- The thresholds pass the constructor's checks. -/
structure BatteryMonitor where
  lowPercent : PyFloat
  criticalPercent : PyFloat
  nonnegative : (lowPercent.lt (.finite 0) || criticalPercent.lt (.finite 0)) = false
  ordered : lowPercent.lt criticalPercent = false

namespace BatteryMonitor

def create (lowPercent criticalPercent : PyFloat) : Except Exc BatteryMonitor :=
  if nonnegative : (lowPercent.lt (.finite 0) || criticalPercent.lt (.finite 0)) = false then
    if ordered : lowPercent.lt criticalPercent = false then
      .ok ⟨lowPercent, criticalPercent, nonnegative, ordered⟩
    else .error ⟨.valueError, "critical_percent must be <= low_percent"⟩
  else .error ⟨.valueError, "battery thresholds must be >= 0"⟩

/-- No reading is a reader without an answer or one that is no number. -/
def levelPercent (reading : Option PyFloat) : PyFloat :=
  match reading with
  | none => .finite 100
  | some percent => (PyFloat.finite 0).max ((PyFloat.finite 100).min percent)

def isLow (m : BatteryMonitor) (reading : Option PyFloat) : Bool :=
  (levelPercent reading).le m.lowPercent

def isCritical (m : BatteryMonitor) (reading : Option PyFloat) : Bool :=
  (levelPercent reading).le m.criticalPercent

end BatteryMonitor

structure ThermalMonitor where
  limitCelsius : PyFloat

namespace ThermalMonitor

def temperatureCelsius (samples : List PyFloat) : PyFloat :=
  match samples with
  | [] => .finite 0
  | first :: rest => (PyFloat.finite 0).max (rest.foldl PyFloat.max first)

def isOverLimit (m : ThermalMonitor) (samples : List PyFloat) : Bool :=
  m.limitCelsius.le (temperatureCelsius samples)

end ThermalMonitor

inductive DeviceState where
  | poweredOn
  | idle
  | sleep
  | lowBattery
  | thermalLimit
  | critical
  deriving DecidableEq

/-- What an evaluation reads: the battery and the temperature anew at each query. -/
structure DeviceReadings where
  batteryPercent : Option PyFloat
  batteryLow : Option PyFloat
  batteryCritical : Option PyFloat
  thermalCelsius : List PyFloat
  thermalOver : List PyFloat
  sleeping : Bool
  microphoneOk : Bool

structure DeviceSnapshot where
  state : DeviceState
  batteryPercent : PyFloat
  thermalCelsius : PyFloat
  microphoneOperational : Bool
  actions : List String

structure DeviceStateManager where
  batteryMonitor : BatteryMonitor
  thermalMonitor : ThermalMonitor
  state : DeviceState
  governor : ResourceGovernor

namespace DeviceStateManager

def create (batteryMonitor : BatteryMonitor) (thermalMonitor : ThermalMonitor)
    (governor : ResourceGovernor) : DeviceStateManager :=
  ⟨batteryMonitor, thermalMonitor, .poweredOn, governor⟩

/-- What each condition makes `_signal_governor` do. -/
def signals (sleeping batteryLow batteryCritical thermalOver microphoneOk : Bool) :
    List (String × (ResourceGovernor → ResourceGovernor)) :=
  [if sleeping then ("GOVERNOR_PAUSED", fun g => g.pauseEvaluation.2)
    else ("GOVERNOR_RESUMED", fun g => g.resumeEvaluation.2)] ++
  (if thermalOver then [("CPU_BUDGET_REDUCED", fun g => (g.reduceCpuBudget (hundredths 50)).2)]
    else []) ++
  (if batteryLow || batteryCritical then
    [("MODEL_DOWNGRADE_REQUESTED", fun g => g.forceModelDowngrade.2)] else []) ++
  (if batteryCritical then [("MODEL_UNLOAD_REQUESTED", fun g => g.forceModelUnload.2)] else []) ++
  (if !microphoneOk then [("GOVERNOR_PAUSED_MIC_FAILURE", fun g => g.pauseEvaluation.2)] else [])

def signalGovernor (sleeping batteryLow batteryCritical thermalOver microphoneOk : Bool)
    (g : ResourceGovernor) : List String × ResourceGovernor :=
  let sent := signals sleeping batteryLow batteryCritical thermalOver microphoneOk
  (sent.map (·.1), sent.foldl (fun g signal => signal.2 g) g)

def evaluateState (r : DeviceReadings) (m : DeviceStateManager) :
    DeviceSnapshot × DeviceStateManager :=
  let batteryLow := m.batteryMonitor.isLow r.batteryLow
  let batteryCritical := m.batteryMonitor.isCritical r.batteryCritical
  let thermalOver := m.thermalMonitor.isOverLimit r.thermalOver
  let state : DeviceState :=
    if r.sleeping then .sleep
    else if batteryCritical || !r.microphoneOk then .critical
    else if thermalOver then .thermalLimit
    else if batteryLow then .lowBattery
    else .idle
  let (actions, governor) :=
    signalGovernor r.sleeping batteryLow batteryCritical thermalOver r.microphoneOk m.governor
  ({ state
     batteryPercent := BatteryMonitor.levelPercent r.batteryPercent
     thermalCelsius := ThermalMonitor.temperatureCelsius r.thermalCelsius
     microphoneOperational := r.microphoneOk
     actions }, { m with state, governor })

end DeviceStateManager

/-- The two calls that a voice session makes as it runs. -/
inductive PressureEvent where
  | evaluateState (readings : DeviceReadings)
  | evaluate (samples : RuntimeSamples)

def DeviceStateManager.step (m : DeviceStateManager) : PressureEvent → DeviceStateManager
  | .evaluateState readings => (m.evaluateState readings).2
  | .evaluate samples => { m with governor := (m.governor.evaluate samples).2 }

end Apcos.Source.Hardware
