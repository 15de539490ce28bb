import Apcos.Guarantees.EnergyMonotone

/-!
# Sleep events mirror the policy

os/src/energy_manager.rs:197-253. The latch is the level of the last policy, so an event is
emitted where the level changes, and the events of a run alternate.
-/
namespace Apcos.Guarantees.SleepEvents

open Apcos.Lib
open Apcos.Source.Supervisor
open Apcos.Source.Supervisor.EnergyManager
open Apcos.Guarantees.EnergyMonotone (advance llmEnabled_iff proactiveEnabled_iff
  requestModelDowngrade_iff requestModelUnload_iff forceSleep_iff)

/-- What a call returns. -/
def outcome (m : EnergyManager) (sample : EnergySample) : List Event × EnergyPolicy :=
  (m.evaluate sample).1

/-- The event that leads to this level. -/
def sleepEvent : Bool → Event
  | true => .sleepEntered
  | false => .sleepExited

def sleepEvents (events : List Event) : List Event :=
  events.filter fun event => event = .sleepEntered ∨ event = .sleepExited

/-- `force_sleep` of the step before, and false before the first. -/
def forcedBefore (outputs : List (List Event × EnergyPolicy)) : Nat → Bool
  | 0 => false
  | i + 1 => (outputs[i]?.map fun output => output.2.forceSleep).getD false

/-! ## One step -/

def switch (was now : Bool) : List Event := if was = now then [] else [sleepEvent now]

theorem switch_eq (was now : Bool) :
    (if now && !was then ([Event.sleepEntered], true)
      else if !now && was then ([Event.sleepExited], false)
      else ([], was)) = (switch was now, now) := by
  cases was <;> cases now <;> rfl

theorem effectiveMode_latch (m : EnergyManager) (sample : EnergySample) :
    (m.effectiveMode sample).2.forcedSleepActive = m.forcedSleepActive := by
  dsimp only [effectiveMode, evaluateThermalMode]
  split_ifs <;> rfl

/-- The part of a batch that comes before the events of the model. -/
def signals (m : EnergyManager) (sample : EnergySample) : List Event :=
  (if sample.batteryPercent.le m.config.batteryLowPercent then [Event.batteryLow] else []) ++
    (if m.config.thermalHighCelsius.le sample.thermalCelsius then [Event.thermalHigh] else []) ++
    switch m.forcedSleepActive (outcome m sample).2.forceSleep

theorem outcome_events (m : EnergyManager) (sample : EnergySample) :
    (outcome m sample).1 =
      signals m sample ++
        (if (outcome m sample).2.requestModelDowngrade then [Event.modelDowngrade] else []) ++
        (if (outcome m sample).2.requestModelUnload then [Event.modelUnload] else []) := by
  simp only [signals, outcome, evaluate, effectiveMode_latch, switch_eq]

/-- The latch is the level of the last policy. -/
theorem advance_latch (m : EnergyManager) (sample : EnergySample) :
    (advance m sample).forcedSleepActive = (outcome m sample).2.forceSleep := by
  simp only [advance, outcome, evaluate, effectiveMode_latch, switch_eq]

theorem sleepEvents_append (first second : List Event) :
    sleepEvents (first ++ second) = sleepEvents first ++ sleepEvents second :=
  List.filter_append ..

theorem sleepEvents_outcome (m : EnergyManager) (sample : EnergySample) :
    sleepEvents (outcome m sample).1 =
      switch m.forcedSleepActive (outcome m sample).2.forceSleep := by
  have other (present : Bool) (event : Event) (awake : sleepEvents [event] = []) :
      sleepEvents (if present then [event] else []) = [] := by
    cases present with
    | true => exact awake
    | false => rfl
  have kept (was now : Bool) : sleepEvents (switch was now) = switch was now := by
    cases was <;> cases now <;> rfl
  rw [outcome_events, signals, sleepEvents_append, sleepEvents_append, sleepEvents_append,
    sleepEvents_append, other _ .batteryLow rfl, other _ .thermalHigh rfl, kept,
    other _ .modelDowngrade rfl, other _ .modelUnload rfl, List.nil_append, List.nil_append,
    List.append_nil, List.append_nil]

theorem mem_switch_iff (was now level : Bool) :
    sleepEvent level ∈ switch was now ↔ now = level ∧ was = !level := by
  cases was <;> cases now <;> cases level <;> decide

/-- An event is emitted exactly where the level changes to its own. -/
theorem sleepEvent_mem_iff (m : EnergyManager) (sample : EnergySample) (level : Bool) :
    sleepEvent level ∈ (outcome m sample).1 ↔
      (outcome m sample).2.forceSleep = level ∧ m.forcedSleepActive = !level := by
  rw [← mem_switch_iff, ← sleepEvents_outcome]
  cases level <;> simp [sleepEvents, sleepEvent]

/-- A forced sleep is `Silent`, where nothing runs. -/
theorem asleep (m : EnergyManager) (sample : EnergySample)
    (forced : (outcome m sample).2.forceSleep = true) :
    (outcome m sample).2.llmEnabled = false ∧ (outcome m sample).2.proactiveEnabled = false := by
  have silent := ((forceSleep_iff m sample).mp forced).1
  constructor
  · apply Bool.eq_false_iff.mpr
    intro enabled
    exact absurd ((llmEnabled_iff m sample).mp enabled) (Nat.not_lt.mpr silent)
  · apply Bool.eq_false_iff.mpr
    intro enabled
    exact absurd ((proactiveEnabled_iff m sample).mp enabled) (Nat.not_lt.mpr silent)

theorem downgrade_of_unload (m : EnergyManager) (sample : EnergySample)
    (unload : (outcome m sample).2.requestModelUnload = true) :
    (outcome m sample).2.requestModelDowngrade = true := by
  apply (requestModelDowngrade_iff m sample).mpr
  exact Nat.le_of_succ_le ((requestModelUnload_iff m sample).mp unload)

theorem not_mem_signals (m : EnergyManager) (sample : EnergySample) {event : Event}
    (model : event = .modelDowngrade ∨ event = .modelUnload) : event ∉ signals m sample := by
  unfold signals switch sleepEvent
  rcases model with rfl | rfl
  · split_ifs <;> cases (outcome m sample).2.forceSleep <;> simp
  · split_ifs <;> cases (outcome m sample).2.forceSleep <;> simp

theorem requestModelUnload_of_mem (m : EnergyManager) (sample : EnergySample)
    (member : Event.modelUnload ∈ (outcome m sample).1) :
    (outcome m sample).2.requestModelUnload = true := by
  rw [outcome_events, List.mem_append, List.mem_append] at member
  rcases member with (signal | downgrade) | unload
  · exact absurd signal (not_mem_signals m sample (.inr rfl))
  · split_ifs at downgrade <;> simp at downgrade
  · split_ifs at unload with requested
    · exact requested
    · simp at unload

/-- A batch that unloads the model ends with the downgrade and the unloading, each once. -/
theorem unload_last (m : EnergyManager) (sample : EnergySample)
    (member : Event.modelUnload ∈ (outcome m sample).1) :
    ∃ before, (outcome m sample).1 = before ++ [.modelDowngrade, .modelUnload] ∧
      .modelDowngrade ∉ before ∧ .modelUnload ∉ before := by
  have unload := requestModelUnload_of_mem m sample member
  have downgrade := downgrade_of_unload m sample unload
  refine ⟨signals m sample, ?_, not_mem_signals m sample (.inl rfl),
    not_mem_signals m sample (.inr rfl)⟩
  rw [outcome_events, downgrade, unload, if_pos rfl, if_pos rfl, List.append_assoc]
  rfl

/-! ## Runs -/

theorem isChain_switch {was now : Bool} {later : List Event}
    (chain : (sleepEvent now :: later).IsChain (· ≠ ·)) :
    (sleepEvent was :: (switch was now ++ later)).IsChain (· ≠ ·) := by
  unfold switch
  split_ifs with same
  · subst same
    exact chain
  · refine List.isChain_cons_cons.mpr ⟨?_, chain⟩
    cases was <;> cases now <;> simp_all [sleepEvent]

theorem isChain_sleepEvents (m : EnergyManager) (samples : List EnergySample) :
    (sleepEvent m.forcedSleepActive ::
      sleepEvents ((observations advance outcome m samples).flatMap Prod.fst)).IsChain (· ≠ ·) := by
  induction samples generalizing m with
  | nil => exact .singleton _
  | cons sample rest ih =>
    rw [observations, List.flatMap_cons, sleepEvents_append, sleepEvents_outcome]
    apply isChain_switch
    rw [← advance_latch]
    exact ih (advance m sample)

theorem latch_eq_forcedBefore (config : EnergyConfig) (samples : List EnergySample) {i : Nat}
    (within : i < samples.length) :
    (run advance (new config) (samples.take i)).forcedSleepActive =
      forcedBefore (observations advance outcome (new config) samples) i := by
  cases i with
  | zero => rfl
  | succ i =>
    have earlier : i < samples.length := by omega
    rw [forcedBefore, getElem?_observations, List.getElem?_eq_getElem earlier]
    rw [List.take_succ_eq_append_getElem earlier, run_append, run_cons, run_nil, advance_latch]
    rfl

/-- The sleep events of a run alternate, as after a `SleepExited`; each is emitted exactly where
`force_sleep` changes to its level; nothing runs in a forced sleep; and a batch unloads the model
only right after the downgrade. -/
theorem sleep_mirrors_policy (config : EnergyConfig) (samples : List EnergySample) :
    let outputs := observations advance outcome (new config) samples
    (Event.sleepExited :: sleepEvents (outputs.flatMap Prod.fst)).IsChain (· ≠ ·) ∧
    ∀ i events policy, outputs[i]? = some (events, policy) →
      (.sleepEntered ∈ events ↔ policy.forceSleep = true ∧ forcedBefore outputs i = false) ∧
      (.sleepExited ∈ events ↔ policy.forceSleep = false ∧ forcedBefore outputs i = true) ∧
      (policy.forceSleep = true →
        policy.llmEnabled = false ∧ policy.proactiveEnabled = false) ∧
      (.modelUnload ∈ events → ∃ before, events = before ++ [.modelDowngrade, .modelUnload] ∧
        .modelDowngrade ∉ before ∧ .modelUnload ∉ before) := by
  refine ⟨isChain_sleepEvents (new config) samples, ?_⟩
  intro i events policy found
  rw [getElem?_observations, Option.map_eq_some_iff] at found
  obtain ⟨sample, sampled, same⟩ := found
  have within : i < samples.length := (List.getElem?_eq_some_iff.mp sampled).1
  have entered := sleepEvent_mem_iff (run advance (new config) (samples.take i)) sample true
  have exited := sleepEvent_mem_iff (run advance (new config) (samples.take i)) sample false
  rw [latch_eq_forcedBefore config samples within, same] at entered exited
  have still := asleep (run advance (new config) (samples.take i)) sample
  have unloaded := unload_last (run advance (new config) (samples.take i)) sample
  rw [same] at still unloaded
  exact ⟨entered, exited, still, unloaded⟩

end Apcos.Guarantees.SleepEvents
