import Apcos.Source.Python.Arithmetic

/-!
# Resource governor

core/behavior/resource_governor.py with its two monitors and the power mode,
voice/model_manager.py and the timeout of voice/asr_engine_real.py, for a governor
with a model manager and an ASR engine registered. What the samplers and the idle
clock answer is the input of a call; the thread limiter is only reported and left
out.
-/
namespace Apcos.Source.Behavior

open Apcos.Source.Python

/-! ## Monitors -/

structure CPUMonitor where
  thresholdPercent : PyFloat
  windowSize : Nat
  window : List PyFloat
  positive : 1 ≤ windowSize

namespace CPUMonitor

def create (thresholdPercent : PyFloat) (windowSize : Nat) : Except Exc CPUMonitor :=
  if positive : 1 ≤ windowSize then .ok ⟨thresholdPercent, windowSize, [], positive⟩
  else .error ⟨.valueError, "window_size must be >= 1"⟩

def currentUsage (m : CPUMonitor) (sample : PyFloat) : PyFloat × CPUMonitor :=
  let value := (PyFloat.finite 0).max ((PyFloat.finite 100).min sample)
  let window := m.window ++ [value]
  (value, { m with window := window.drop (window.length - m.windowSize) })

/-- `statistics.mean` of finite values: the exact mean, rounded once. -/
def mean (values : List PyFloat) : PyFloat :=
  let exact := values.filterMap fun
    | .finite q => some q
    | _ => none
  roundRat (exact.sum / values.length)

/-- Only called with a sample in the window. -/
def averageUsage (m : CPUMonitor) : PyFloat :=
  if m.window = [] then .finite 0 else mean m.window

def isOverThreshold (m : CPUMonitor) : Bool := m.thresholdPercent.le m.averageUsage

end CPUMonitor

structure MemoryMonitor where
  thresholdMb : PyFloat

def MemoryMonitor.currentUsageMb (reading : PyFloat) : PyFloat := (PyFloat.finite 0).max reading

def MemoryMonitor.isPressureHigh (m : MemoryMonitor) (reading : PyFloat) : Bool :=
  m.thresholdMb.le (currentUsageMb reading)

/-! ## Power mode -/

inductive PowerMode where
  | normal
  | lowPower
  | critical
  deriving DecidableEq

def updateMode (cpuOverThreshold memoryPressureHigh : Bool) : PowerMode :=
  if cpuOverThreshold && memoryPressureHigh then .critical
  else if cpuOverThreshold || memoryPressureHigh then .lowPower
  else .normal

/-! ## Model manager and ASR engine -/

inductive ModelSize where
  | small
  | tiny
  deriving DecidableEq

structure ModelManager where
  modelSize : ModelSize
  loaded : Bool
  activeTranscriptions : Nat

namespace ModelManager

/-- `idleElapsed` tells that the time since the last use is at least `idleSeconds`. -/
def unloadIfIdle (m : ModelManager) (idleSeconds : PyFloat) (force idleElapsed : Bool) :
    Bool × ModelManager :=
  if idleSeconds.le (.finite 0) && !force then (false, m)
  else if !m.loaded then (false, m)
  else if 0 < m.activeTranscriptions then (false, m)
  else if !force && !idleElapsed then (false, m)
  else (true, { m with loaded := false })

def downgradeModel (m : ModelManager) : Bool × ModelManager :=
  if m.modelSize = .tiny then (false, m) else (true, { m with modelSize := .tiny, loaded := false })

def upgradeModel (m : ModelManager) : Bool × ModelManager :=
  if m.modelSize = .small then (false, m)
  else (true, { m with modelSize := .small, loaded := false })

end ModelManager

/-- The least timeout, 0.05 s. -/
def timeoutFloor : PyFloat := hundredths 5

/-- A timeout in seconds, never below the floor and never a NaN. -/
structure Timeout where
  seconds : PyFloat
  floored : timeoutFloor.le seconds = true

theorem timeoutFloor_le_self : timeoutFloor.le timeoutFloor = true := by
  decide +kernel

/-- `max(0.05, float(timeout_seconds))`. -/
def Timeout.of (seconds : PyFloat) : Timeout :=
  ⟨timeoutFloor.max seconds, PyFloat.le_max timeoutFloor_le_self seconds⟩

/-- The part of `ASREngine` that the governor acts on. -/
structure ASREngine where
  timeoutSeconds : Timeout

def ASREngine.create (timeoutSeconds : PyFloat) : ASREngine := ⟨.of timeoutSeconds⟩

def ASREngine.setTimeout (engine : ASREngine) (timeoutSeconds : PyFloat) : ASREngine :=
  { engine with timeoutSeconds := .of timeoutSeconds }

/-! ## Governor -/

structure ResourceGovernor where
  cpuMonitor : CPUMonitor
  memoryMonitor : MemoryMonitor
  modelDowngradeEnabled : Bool
  idleUnloadSeconds : PyFloat
  powerMode : PowerMode
  modelManager : ModelManager
  asrEngine : ASREngine
  defaultAsrTimeout : Timeout
  evaluationPaused : Bool
  cpuBudgetScale : PyFloat

/-- What an evaluation reads: the CPU sample, two memory readings, and whether the idle
time has passed. -/
structure RuntimeSamples where
  cpu : PyFloat
  memory : PyFloat
  memoryCheck : PyFloat
  idleElapsed : Bool

structure GovernorEvent where
  cpuUsagePercent : PyFloat
  memoryUsageMb : PyFloat
  cpuOverThreshold : Bool
  memoryPressureHigh : Bool
  powerMode : PowerMode
  evaluationPaused : Bool
  cpuBudgetScale : PyFloat
  actions : List String

namespace ResourceGovernor

/-- `__init__` and the registrations. -/
def create (cpuMonitor : CPUMonitor) (memoryMonitor : MemoryMonitor) (modelDowngradeEnabled : Bool)
    (idleUnloadSeconds : PyFloat) (initialMode : PowerMode) (modelManager : ModelManager)
    (asrEngine : ASREngine) : ResourceGovernor where
  cpuMonitor
  memoryMonitor
  modelDowngradeEnabled
  idleUnloadSeconds := (PyFloat.finite 1).max idleUnloadSeconds
  powerMode := initialMode
  modelManager
  asrEngine
  defaultAsrTimeout := asrEngine.timeoutSeconds
  evaluationPaused := false
  cpuBudgetScale := .finite 1

def pauseEvaluation (g : ResourceGovernor) : Bool × ResourceGovernor :=
  if g.evaluationPaused then (false, g) else (true, { g with evaluationPaused := true })

def resumeEvaluation (g : ResourceGovernor) : Bool × ResourceGovernor :=
  if !g.evaluationPaused then (false, g) else (true, { g with evaluationPaused := false })

def reduceCpuBudget (budgetScale : PyFloat) (g : ResourceGovernor) : Bool × ResourceGovernor :=
  let target := (hundredths 10).max ((PyFloat.finite 1).min budgetScale)
  if g.cpuBudgetScale.le target then (false, g)
  else
    let reduced := g.asrEngine.timeoutSeconds.seconds.min (hundredths 35)
    (true, { g with cpuBudgetScale := target, asrEngine := g.asrEngine.setTimeout reduced })

def forceModelDowngrade (g : ResourceGovernor) : Bool × ResourceGovernor :=
  let (downgraded, modelManager) := g.modelManager.downgradeModel
  (downgraded, { g with modelManager })

def forceModelUnload (g : ResourceGovernor) : Bool × ResourceGovernor :=
  let (unloaded, modelManager) := g.modelManager.unloadIfIdle (.finite 0) true false
  (unloaded, { g with modelManager })

/-- The first decision of `evaluate`: unload, downgrade or upgrade the model. -/
def manageModel (cpuOver memoryHigh : Bool) (g : ResourceGovernor) :
    List String × ResourceGovernor :=
  if memoryHigh && cpuOver then
    let (unloaded, modelManager) := g.modelManager.unloadIfIdle (.finite 0) true false
    (if unloaded then ["MODEL_UNLOADED_FORCE"] else [], { g with modelManager })
  else if g.modelDowngradeEnabled && (cpuOver || memoryHigh) then
    let (downgraded, modelManager) := g.modelManager.downgradeModel
    (if downgraded then ["MODEL_DOWNGRADED"] else [], { g with modelManager })
  else if g.powerMode = .normal then
    let (upgraded, modelManager) := g.modelManager.upgradeModel
    (if upgraded then ["MODEL_UPGRADED"] else [], { g with modelManager })
  else ([], g)

def unloadIdle (idleElapsed : Bool) (g : ResourceGovernor) : List String × ResourceGovernor :=
  let (unloaded, modelManager) := g.modelManager.unloadIfIdle g.idleUnloadSeconds false idleElapsed
  (if unloaded then ["MODEL_UNLOADED_IDLE"] else [], { g with modelManager })

/-- The last decision of `evaluate`: reduce or restore the timeout. -/
def adjustTimeout (cpuOver memoryHigh : Bool) (g : ResourceGovernor) :
    List String × ResourceGovernor :=
  if (cpuOver || memoryHigh) && g.modelManager.modelSize = .tiny then
    let reduced := g.asrEngine.timeoutSeconds.seconds.min (hundredths 50)
    (["ASR_TIMEOUT_REDUCED"], { g with asrEngine := g.asrEngine.setTimeout reduced })
  else if g.powerMode = .normal then
    (["ASR_TIMEOUT_RESTORED"],
      { g with asrEngine := g.asrEngine.setTimeout g.defaultAsrTimeout.seconds })
  else ([], g)

/-- The two pressure signals of an evaluation. -/
def cpuOver (samples : RuntimeSamples) (g : ResourceGovernor) : Bool :=
  (g.cpuMonitor.currentUsage samples.cpu).2.isOverThreshold

def memoryHigh (samples : RuntimeSamples) (g : ResourceGovernor) : Bool :=
  g.memoryMonitor.isPressureHigh samples.memoryCheck

/-- The sample and the mode are taken in before anything is decided. -/
def observe (samples : RuntimeSamples) (g : ResourceGovernor) : ResourceGovernor :=
  { g with
    cpuMonitor := (g.cpuMonitor.currentUsage samples.cpu).2
    powerMode := updateMode (g.cpuOver samples) (g.memoryHigh samples) }

def act (cpuOver memoryHigh idleElapsed : Bool) (g : ResourceGovernor) :
    List String × ResourceGovernor :=
  let (managed, g) := g.manageModel cpuOver memoryHigh
  let (unloaded, g) := g.unloadIdle idleElapsed
  let (adjusted, g) := g.adjustTimeout cpuOver memoryHigh
  (managed ++ unloaded ++ adjusted, g)

def evaluate (samples : RuntimeSamples) (g : ResourceGovernor) :
    GovernorEvent × ResourceGovernor :=
  let cpuOver := g.cpuOver samples
  let memoryHigh := g.memoryHigh samples
  let observed := g.observe samples
  let (actions, after) :=
    if observed.evaluationPaused then (["EVALUATION_PAUSED"], observed)
    else observed.act cpuOver memoryHigh samples.idleElapsed
  ({ cpuUsagePercent := (g.cpuMonitor.currentUsage samples.cpu).1
     memoryUsageMb := MemoryMonitor.currentUsageMb samples.memory
     cpuOverThreshold := cpuOver
     memoryPressureHigh := memoryHigh
     powerMode := after.powerMode
     evaluationPaused := after.evaluationPaused
     cpuBudgetScale := after.cpuBudgetScale
     actions }, after)

end ResourceGovernor

end Apcos.Source.Behavior
