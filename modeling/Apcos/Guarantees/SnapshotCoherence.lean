import Apcos.Source.Hardware.DeviceSignals

/-!
# Coherence of device snapshots

An evaluation reads the battery three times and the temperature twice. What it
reports is the first reading of each, what it decides comes from the others: the
snapshot agrees with its own numbers exactly if the comparisons that the decision
uses come out on the later readings as on the first ones.
-/
namespace Apcos.Guarantees.SnapshotCoherence

open Apcos.Source.Python
open Apcos.Source.Hardware

/-- The three comparisons a state and its actions are made of. -/
structure Verdicts where
  low : Bool
  critical : Bool
  exceeded : Bool

namespace Verdicts

/-- The classification of a device that is awake with a working microphone. -/
def state (v : Verdicts) : DeviceState :=
  if v.critical then .critical
  else if v.exceeded then .thermalLimit
  else if v.low then .lowBattery
  else .idle

def actions (v : Verdicts) (governor : Option GovernorSurface) : List String :=
  governorActions governor false v.low v.critical v.exceeded true

end Verdicts

def verdicts (battery : BatteryMonitor) (thermal : ThermalMonitor) (percent celsius : PyFloat) :
    Verdicts :=
  ⟨percent.le battery.lowPercent, percent.le battery.criticalPercent,
    thermal.limitCelsius.le celsius⟩

/-- State and actions are those of the numbers reported beside them. -/
def Coherent (battery : BatteryMonitor) (thermal : ThermalMonitor)
    (governor : Option GovernorSurface) (s : DeviceSnapshot) : Prop :=
  let reported := verdicts battery thermal s.batteryPercent s.thermalCelsius
  s.state = reported.state ∧ s.actions = reported.actions governor

/-- The verdicts on the reported readings. -/
def first (battery : BatteryMonitor) (thermal : ThermalMonitor) (r : DeviceReadings) : Verdicts :=
  ⟨battery.isLow r.batteryPercent, battery.isCritical r.batteryPercent,
    thermal.isOverLimit r.thermalCelsius⟩

/-- The verdicts on the readings that decide. -/
def later (battery : BatteryMonitor) (thermal : ThermalMonitor) (r : DeviceReadings) : Verdicts :=
  ⟨battery.isLow r.batteryLow, battery.isCritical r.batteryCritical,
    thermal.isOverLimit r.thermalOver⟩

def receives (governor : Option GovernorSurface) (method : GovernorSurface → Bool) : Bool :=
  governor.any method

/-- The verdicts agree where they show: heat and a low battery do not once a critical
battery hides their state and nobody receives their signal, and a low battery's downgrade
is that of a critical one. -/
structure Agree (governor : Option GovernorSurface) (v w : Verdicts) : Prop where
  critical : w.critical = v.critical
  exceeded : w.exceeded = v.exceeded ∨
    (v.critical = true ∧ receives governor (·.reduceCpuBudget) = false)
  low : w.low = v.low ∨ v.critical = true ∨
    (v.exceeded = true ∧ receives governor (·.forceModelDowngrade) = false)

theorem state_eq_iff (v w : Verdicts) :
    w.state = v.state ↔
      w.critical = v.critical ∧
        (v.critical = true ∨ (w.exceeded = v.exceeded ∧ (v.exceeded = true ∨ w.low = v.low))) := by
  obtain ⟨low, critical, exceeded⟩ := v
  obtain ⟨low', critical', exceeded'⟩ := w
  cases critical <;> cases critical' <;> cases exceeded <;> cases exceeded' <;> cases low <;>
    cases low' <;> decide

/-- The signals in their order: resumed, heat, downgrade, unload. -/
def listed (resumed reduced downgraded unloaded : Bool) : List String :=
  (if resumed then ["GOVERNOR_RESUMED"] else []) ++
    (if reduced then ["CPU_BUDGET_REDUCED"] else []) ++
    (if downgraded then ["MODEL_DOWNGRADE_REQUESTED"] else []) ++
    (if unloaded then ["MODEL_UNLOAD_REQUESTED"] else [])

theorem listed_eq_iff (resumed reduced downgraded unloaded reduced' downgraded' unloaded' : Bool) :
    listed resumed reduced' downgraded' unloaded' = listed resumed reduced downgraded unloaded ↔
      reduced' = reduced ∧ downgraded' = downgraded ∧ unloaded' = unloaded := by
  cases resumed <;> cases reduced <;> cases downgraded <;> cases unloaded <;> cases reduced' <;>
    cases downgraded' <;> cases unloaded' <;> decide

theorem actions_listed (v : Verdicts) (governor : Option GovernorSurface) :
    v.actions governor = listed (receives governor (·.resumeEvaluation))
      (v.exceeded && receives governor (·.reduceCpuBudget))
      ((v.low || v.critical) && receives governor (·.forceModelDowngrade))
      (v.critical && receives governor (·.forceModelUnload)) := by
  cases governor with
  | none => simp [Verdicts.actions, governorActions, governorCalls, receives, listed]
  | some g =>
    simp only [Verdicts.actions, governorActions, governorCalls, receives, Option.any_some, listed,
      List.map_append, apply_ite (List.map _), List.map_cons, List.map_nil, Bool.false_eq_true,
      if_false, Bool.not_true, Bool.false_and, List.append_nil]
    rfl

/-- A signal that is sent alike, or that nobody receives. -/
theorem sent_eq_iff (sent sent' received : Bool) :
    (sent' && received) = (sent && received) ↔ sent' = sent ∨ received = false := by
  cases sent <;> cases sent' <;> cases received <;> decide

/-- State and actions are the same exactly when the verdicts agree where they show. -/
theorem agree_iff (v w : Verdicts) (governor : Option GovernorSurface) :
    w.state = v.state ∧ w.actions governor = v.actions governor ↔ Agree governor v w := by
  rw [state_eq_iff, actions_listed, actions_listed, listed_eq_iff, sent_eq_iff, sent_eq_iff,
    sent_eq_iff]
  constructor
  · intro ⟨⟨same, shown⟩, reduced, downgraded, _⟩
    rw [same] at downgraded
    cases critical : v.critical with
    | true =>
      exact ⟨same, reduced.imp_right fun unread => ⟨critical, unread⟩, Or.inr (Or.inl critical)⟩
    | false =>
      obtain ⟨exceeded, low⟩ := shown.resolve_left (by simp [critical])
      refine ⟨same, Or.inl exceeded, ?_⟩
      rw [critical, Bool.or_false, Bool.or_false] at downgraded
      rcases low with hot | equal
      · exact downgraded.imp_right fun unread => Or.inr ⟨hot, unread⟩
      · exact Or.inl equal
  · intro ⟨same, exceeded, low⟩
    refine ⟨⟨same, ?_⟩, exceeded.imp_right And.right, ?_, Or.inl same⟩
    · rcases exceeded with equal | ⟨critical, _⟩
      · rcases low with low | critical | ⟨hot, _⟩
        · exact Or.inr ⟨equal, Or.inr low⟩
        · exact Or.inl critical
        · exact Or.inr ⟨equal, Or.inl hot⟩
      · exact Or.inl critical
    · rw [same]
      rcases low with low | critical | ⟨_, unread⟩
      · exact Or.inl (by rw [low])
      · exact Or.inl (by rw [critical, Bool.or_true, Bool.or_true])
      · exact Or.inr unread

/-- A snapshot of a device that is awake and hears agrees with its own numbers exactly if
the verdicts on the later readings agree with those on the reported ones. -/
theorem snapshot_coherent_iff (battery : BatteryMonitor) (thermal : ThermalMonitor)
    (governor : Option GovernorSurface) (r : DeviceReadings) (awake : r.sleeping = false)
    (hears : r.microphoneOk = true) :
    Coherent battery thermal governor (evaluateSnapshot battery thermal governor r) ↔
      Agree governor (first battery thermal r) (later battery thermal r) := by
  rw [← agree_iff]
  simp only [Coherent, evaluateSnapshot, awake, hears, Bool.not_true, Bool.or_false,
    Bool.false_eq_true, if_false]
  rfl

/-- Limits of 20 and 10 percent and of 75 degrees. -/
def defaultBattery : BatteryMonitor :=
  ⟨.finite 20, .finite 10, rfl, rfl⟩

def defaultThermal : ThermalMonitor := ⟨.finite 75⟩

/-- A battery that reads 50, 50 and then 5 percent. -/
def fallingBattery : DeviceReadings :=
  ⟨some (.finite 50), some (.finite 50), some (.finite 5), [.finite 40], [.finite 40], false, true⟩

theorem snapshot_coherent_iff_falling :
    Coherent defaultBattery defaultThermal none
        (evaluateSnapshot defaultBattery defaultThermal none fallingBattery) ↔
      Agree none (first defaultBattery defaultThermal fallingBattery)
        (later defaultBattery defaultThermal fallingBattery) :=
  snapshot_coherent_iff defaultBattery defaultThermal none fallingBattery rfl rfl

/-- It is reported at 50 percent and CRITICAL, and the model is unloaded. -/
theorem falling_battery_incoherent :
    let s := evaluateSnapshot defaultBattery defaultThermal (some resourceGovernorSurface)
      fallingBattery
    s.batteryPercent = .finite 50 ∧ s.state = .critical ∧
      "MODEL_UNLOAD_REQUESTED" ∈ s.actions ∧
      ¬ Coherent defaultBattery defaultThermal (some resourceGovernorSurface) s := by
  refine ⟨by decide +kernel, by decide +kernel, by decide +kernel, ?_⟩
  intro coherent
  exact absurd coherent.1 (by decide +kernel)

end Apcos.Guarantees.SnapshotCoherence
