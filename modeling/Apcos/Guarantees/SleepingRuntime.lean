import Apcos.Lib.Runs
import Apcos.Source.Bootstrap.RealVoiceRuntime
import Apcos.Source.Hardware.DeviceSignals

/-!
# A sleeping runtime hears nothing

The runtime of apcos/bootstrap/container.py:121-200 as a whole. The stream runs exactly while the
session is started, so the microphone check never fails in a cycle; the governor is paused exactly
when the last evaluation of the device found it asleep; and from any state asleep until the next
`wake`, cycles answer nothing and call nothing.
-/
namespace Apcos.Guarantees.SleepingRuntime

open Apcos.Lib
open Apcos.Source.Python (Exc PyFloat)
open Apcos.Source.Behavior
open Apcos.Source.Bootstrap
open Apcos.Source.Hardware
open Apcos.Source.Session
open Apcos.Source.Voice

variable {ω : Type}

/-! ## Parts -/

theorem isOperational_running {m : MicrophoneHealth} (noReader : m.hasReader = false)
    (reading : Except Exc (List UInt8)) :
    m.isOperational ⟨.ok true, reading⟩ = (true, { m with lastError := none }) := by
  simp [MicrophoneHealth.isOperational, noReader, MicrophoneHealth.report]

theorem pushChunk_running (s : AudioStream) (chunk : Sound) :
    (s.pushChunk chunk).running = s.running := by
  unfold AudioStream.pushChunk
  split_ifs <;> rfl

theorem readChunk_running (s : AudioStream) (sourced : List UInt8) :
    (s.readChunk sourced).2.running = s.running := by
  unfold AudioStream.readChunk
  split
  · rfl
  · split <;> rfl

theorem manageModel_paused (cpuOver memoryHigh : Bool) (g : ResourceGovernor) :
    (g.manageModel cpuOver memoryHigh).2.evaluationPaused = g.evaluationPaused := by
  unfold ResourceGovernor.manageModel
  split_ifs <;> rfl

theorem adjustTimeout_paused (cpuOver memoryHigh : Bool) (g : ResourceGovernor) :
    (g.adjustTimeout cpuOver memoryHigh).2.evaluationPaused = g.evaluationPaused := by
  unfold ResourceGovernor.adjustTimeout
  split_ifs <;> rfl

theorem evaluate_paused (samples : RuntimeSamples) (g : ResourceGovernor) :
    (g.evaluate samples).2.evaluationPaused = g.evaluationPaused := by
  unfold ResourceGovernor.evaluate
  cases paused : g.evaluationPaused with
  | true => simp [ResourceGovernor.observe, paused]
  | false =>
    simp [ResourceGovernor.observe, paused, ResourceGovernor.act, adjustTimeout_paused,
      ResourceGovernor.unloadIdle, manageModel_paused]

/-- A paused governor takes the sample in and acts on nothing. -/
theorem evaluate_of_paused (samples : RuntimeSamples) {g : ResourceGovernor}
    (paused : g.evaluationPaused = true) :
    (g.evaluate samples).1.actions = ["EVALUATION_PAUSED"] ∧
      (g.evaluate samples).2.modelManager = g.modelManager ∧
      (g.evaluate samples).2.asrEngine = g.asrEngine := by
  simp [ResourceGovernor.evaluate, ResourceGovernor.observe, paused]

/-- What an evaluation of the device makes of the readings when the microphone works. -/
def classify (m : DeviceStateManager) (sleeping : Bool) (input : RuntimeInput) : DeviceState :=
  if sleeping then .sleep
  else if m.batteryMonitor.isCritical input.batteryCritical then .critical
  else if m.thermalMonitor.isOverLimit input.thermalOver then .thermalLimit
  else if m.batteryMonitor.isLow input.batteryLow then .lowBattery
  else .idle

theorem classify_sleep_iff (m : DeviceStateManager) (sleeping : Bool) (input : RuntimeInput) :
    classify m sleeping input = .sleep ↔ sleeping = true := by
  unfold classify
  split_ifs <;> simp_all

/-- A working microphone pauses nothing, so only sleep does. -/
theorem signalGovernor_working (sleeping batteryLow batteryCritical thermalOver : Bool)
    (g : ResourceGovernor) :
    "GOVERNOR_PAUSED_MIC_FAILURE" ∉ (DeviceStateManager.signalGovernor sleeping batteryLow
        batteryCritical thermalOver true g).1 ∧
      (DeviceStateManager.signalGovernor sleeping batteryLow batteryCritical thermalOver true
        g).2.evaluationPaused = sleeping := by
  have reduced (g : ResourceGovernor) (scale : PyFloat) :
      (g.reduceCpuBudget scale).2.evaluationPaused = g.evaluationPaused := by
    unfold ResourceGovernor.reduceCpuBudget
    dsimp only
    split <;> rfl
  have downgraded (g : ResourceGovernor) :
      g.forceModelDowngrade.2.evaluationPaused = g.evaluationPaused := rfl
  have unloaded (g : ResourceGovernor) :
      g.forceModelUnload.2.evaluationPaused = g.evaluationPaused := rfl
  have pausing : g.pauseEvaluation.2.evaluationPaused = true := by
    unfold ResourceGovernor.pauseEvaluation
    split
    · assumption
    · rfl
  have resuming : g.resumeEvaluation.2.evaluationPaused = false := by
    unfold ResourceGovernor.resumeEvaluation
    split
    · simp_all
    · rfl
  constructor
  · rw [DeviceStateManager.signalGovernor, signals_actions]
    dsimp only
    cases sleeping <;> cases batteryLow <;> cases batteryCritical <;> cases thermalOver <;> decide
  · cases sleeping <;> cases batteryLow <;> cases batteryCritical <;> cases thermalOver <;>
      simp [DeviceStateManager.signalGovernor, DeviceStateManager.signals, reduced, downgraded,
        unloaded, pausing, resuming]

/-! ## The session's part -/

theorem submit_started (input : CycleInput) (s : VoiceState ω) :
    (RealVoiceSession.submit input s).started = s.started := by
  obtain ⟨worker, pending, responses, same⟩ := RealVoiceSession.submit_frame input s
  rw [same]

theorem received_started (controller : InteractionController ω) (chunk : Chunk)
    (s : VoiceState ω) : (RealVoiceSession.received controller chunk s).started = s.started := by
  unfold RealVoiceSession.received
  split
  · rfl
  · split
    · rfl
    · unfold RealVoiceSession.handleTranscript
      split <;> rfl

/-- A cycle that finds the device asleep. -/
theorem submit_asleep (granted awake : Bool) (audio : List UInt8) {s : VoiceState ω}
    (started : s.started = true) :
    RealVoiceSession.submit ⟨granted, some "SLEEP", awake, audio⟩ s =
      RealVoiceSession.respond none s := by
  simp [RealVoiceSession.submit, started]

/-! ## Wiring -/

structure Wired (s : RealVoiceRuntime ω) : Prop where
  running : s.stream.running = s.voice.started
  noReader : s.microphone.hasReader = false
  paused : s.devices.governor.evaluationPaused = decide (s.devices.state = .sleep)

theorem Wired.kept {s s' : RealVoiceRuntime ω} (wired : Wired s)
    (running : s'.stream.running = s.stream.running) (started : s'.voice.started = s.voice.started)
    (microphone : s'.microphone = s.microphone)
    (paused : s'.devices.governor.evaluationPaused = s.devices.governor.evaluationPaused)
    (state : s'.devices.state = s.devices.state) : Wired s' where
  running := by rw [running, started, wired.running]
  noReader := by rw [microphone, wired.noReader]
  paused := by rw [paused, state, wired.paused]

theorem Wired.evaluateGovernor {s : RealVoiceRuntime ω} (wired : Wired s)
    (samples : RuntimeSamples) : Wired (s.evaluateGovernor samples) :=
  wired.kept rfl rfl rfl (evaluate_paused samples s.devices.governor) rfl

theorem Wired.start {s : RealVoiceRuntime ω} (wired : Wired s) (granted : Bool) :
    Wired (s.start granted) := by
  unfold RealVoiceRuntime.start
  split
  · exact wired
  · refine ⟨?_, wired.noReader, wired.paused⟩
    dsimp only
    cases started : (RealVoiceSession.start granted s.voice).started <;> rfl

theorem Wired.stop {s : RealVoiceRuntime ω} (wired : Wired s) : Wired s.stop := by
  unfold RealVoiceRuntime.stop
  split
  · rename_i started
    refine ⟨?_, wired.noReader, wired.paused⟩
    simp [RealVoiceRuntime.mapModel, RealVoiceSession.stop, AudioStream.stop, started]
  · exact wired

/-- What an evaluation of the device shows and leaves while the stream runs. -/
structure Evaluated (input : RuntimeInput) (s : RealVoiceRuntime ω) : Prop where
  working : (s.evaluateDeviceState input).1.microphoneOperational = true
  state : (s.evaluateDeviceState input).1.state = classify s.devices s.sleepManager.sleeping input
  quiet : "GOVERNOR_PAUSED_MIC_FAILURE" ∉ (s.evaluateDeviceState input).1.actions
  voice : (s.evaluateDeviceState input).2.voice = s.voice
  sleepManager : (s.evaluateDeviceState input).2.sleepManager = s.sleepManager
  wired : Wired (s.evaluateDeviceState input).2

/-- A started cycle evaluates governor and device before it listens. -/
theorem Wired.evaluated {s : RealVoiceRuntime ω} (wired : Wired s)
    (started : s.voice.started = true) (input : RuntimeInput) : Evaluated input s := by
  have probed : s.microphone.isOperational ⟨.ok s.stream.running, .ok []⟩ =
      (true, { s.microphone with lastError := none }) := by
    rw [wired.running, started]
    exact isOperational_running wired.noReader _
  obtain ⟨quiet, paused⟩ := signalGovernor_working s.sleepManager.sleeping
    (s.devices.batteryMonitor.isLow input.batteryLow)
    (s.devices.batteryMonitor.isCritical input.batteryCritical)
    (s.devices.thermalMonitor.isOverLimit input.thermalOver) s.devices.governor
  have state : (s.evaluateDeviceState input).1.state =
      classify s.devices s.sleepManager.sleeping input := by
    simp [RealVoiceRuntime.evaluateDeviceState, probed, DeviceStateManager.evaluateState, classify]
  refine ⟨?_, state, ?_, rfl, rfl, ?_, ?_, ?_⟩
  · simp only [RealVoiceRuntime.evaluateDeviceState, probed, DeviceStateManager.evaluateState]
  · simpa only [RealVoiceRuntime.evaluateDeviceState, probed, DeviceStateManager.evaluateState]
      using quiet
  · exact wired.running
  · simp only [RealVoiceRuntime.evaluateDeviceState, probed]
    exact wired.noReader
  · have left : (s.evaluateDeviceState input).2.devices.state =
        (s.evaluateDeviceState input).1.state := rfl
    rw [left, state]
    have level : (s.evaluateDeviceState input).2.devices.governor.evaluationPaused =
        s.sleepManager.sleeping := by
      simpa only [RealVoiceRuntime.evaluateDeviceState, probed, DeviceStateManager.evaluateState]
        using paused
    rw [level, Bool.eq_iff_iff, decide_eq_true_iff, classify_sleep_iff]


theorem Wired.submit {s : RealVoiceRuntime ω} (wired : Wired s) (input : RuntimeInput)
    (deviceState : DeviceState) (audio : List UInt8) : Wired (s.submit input deviceState audio) :=
  wired.kept rfl (submit_started _ s.voice) rfl rfl rfl

theorem Wired.maybeUnloadIfIdle {s : RealVoiceRuntime ω} (wired : Wired s)
    (sessionIdle modelIdle : Bool) : Wired (s.maybeUnloadIfIdle sessionIdle modelIdle) := by
  unfold RealVoiceRuntime.maybeUnloadIfIdle
  split
  · exact wired
  · exact wired.kept rfl rfl rfl rfl rfl

theorem Wired.cycle {s : RealVoiceRuntime ω} (wired : Wired s) (started : s.voice.started = true)
    (input : RuntimeInput) : Wired (s.cycle input) := by
  have evaluated := (wired.evaluated started input).wired
  unfold RealVoiceRuntime.cycle
  dsimp only
  split
  · exact evaluated.submit input _ _
  · split
    · exact ((evaluated.maybeUnloadIfIdle _ _).evaluateGovernor _).submit input _ _
    · refine Wired.submit ?_ input _ _
      exact evaluated.kept (readChunk_running _ _) rfl rfl rfl rfl

theorem Wired.runOnce {s : RealVoiceRuntime ω} (wired : Wired s) (input : RuntimeInput) :
    Wired (s.runOnce input) := by
  have begun : Wired (s.start input.slotGranted).countCycle :=
    (wired.start input.slotGranted).kept rfl rfl rfl rfl rfl
  unfold RealVoiceRuntime.runOnce
  dsimp only
  split
  · exact begun.kept rfl rfl rfl rfl rfl
  · rename_i busy
    exact begun.cycle (by simpa using busy) input

theorem Wired.received {s : RealVoiceRuntime ω} (wired : Wired s)
    (controller : InteractionController ω) (samples : RuntimeSamples) (chunk : Chunk) :
    Wired (s.received controller samples chunk) := by
  have after : Wired { s with voice := RealVoiceSession.received controller chunk s.voice } :=
    wired.kept rfl (received_started controller chunk s.voice) rfl rfl rfl
  unfold RealVoiceRuntime.received
  dsimp only
  split
  · exact after.evaluateGovernor samples
  · exact after

theorem Wired.enterSleep {s : RealVoiceRuntime ω} (wired : Wired s) : Wired s.enterSleep := by
  unfold RealVoiceRuntime.enterSleep
  dsimp only
  split
  · exact wired.kept rfl rfl rfl rfl rfl
  · exact wired.kept rfl rfl rfl rfl rfl

theorem step_wired (controller : InteractionController ω) (s : RealVoiceRuntime ω)
    (call : RuntimeCall) (wired : Wired s) : Wired (s.step controller call) := by
  unfold RealVoiceRuntime.step
  split
  · exact wired.enterSleep
  · exact wired.kept rfl rfl rfl rfl rfl
  · exact wired.kept rfl rfl rfl rfl rfl
  · exact wired.kept rfl rfl rfl rfl rfl
  · exact wired.evaluateGovernor _
  · exact wired.kept (readChunk_running _ _) rfl rfl rfl rfl
  · exact wired.kept (pushChunk_running _ _) rfl rfl rfl rfl
  · exact wired.start _
  · exact wired.stop
  · exact wired.runOnce _
  · exact wired.received controller _ _
  · exact wired

/-! ## Asleep -/

/-- Answers of a cycle that called nothing. -/
def Quiet (response : Option String) : Prop := response = none ∨ response = some runtimeBusy

/-- What a sleeping runtime leaves of the session it had. -/
structure Untouched (before after : VoiceState ω) : Prop where
  pending : after.pending = before.pending
  session : after.session = before.session
  handled : after.handled = before.handled
  responses : ∃ quiet, after.responses = before.responses ++ quiet ∧
    ∀ response ∈ quiet, Quiet response

theorem Untouched.of_same {before after : VoiceState ω} (pending : after.pending = before.pending)
    (session : after.session = before.session) (handled : after.handled = before.handled)
    (responses : after.responses = before.responses) : Untouched before after :=
  ⟨pending, session, handled, [], by rw [responses, List.append_nil],
    fun _ member => absurd member List.not_mem_nil⟩

theorem Untouched.trans {first second third : VoiceState ω} (one : Untouched first second)
    (two : Untouched second third) : Untouched first third := by
  obtain ⟨answers, answered, quiet⟩ := one.responses
  obtain ⟨answers', answered', quiet'⟩ := two.responses
  refine ⟨two.pending.trans one.pending, two.session.trans one.session,
    two.handled.trans one.handled, answers ++ answers', ?_, ?_⟩
  · rw [answered', answered, List.append_assoc]
  · intro response member
    rcases List.mem_append.mp member with here | there
    · exact quiet response here
    · exact quiet' response there

theorem Untouched.respond {s : VoiceState ω} (idle : s.pending = none) {response : Option String}
    (quiet : Quiet response) : Untouched s (RealVoiceSession.respond response s) :=
  ⟨idle.symm, rfl, rfl, [response], rfl, fun other member => by
    rw [List.mem_singleton.mp member]
    exact quiet⟩

theorem start_untouched (granted : Bool) (s : VoiceState ω) :
    Untouched s (RealVoiceSession.start granted s) := by
  unfold RealVoiceSession.start
  split
  · exact .of_same rfl rfl rfl rfl
  · exact .of_same rfl rfl rfl rfl

theorem runtime_start_untouched (granted : Bool) (s : RealVoiceRuntime ω) :
    Untouched s.voice (s.start granted).voice ∧
      (s.start granted).sleepManager = s.sleepManager := by
  unfold RealVoiceRuntime.start
  split
  · exact ⟨.of_same rfl rfl rfl rfl, rfl⟩
  · exact ⟨start_untouched granted s.voice, rfl⟩

theorem stop_untouched (s : RealVoiceRuntime ω) :
    Untouched s.voice s.stop.voice ∧ s.stop.sleepManager = s.sleepManager := by
  unfold RealVoiceRuntime.stop
  split
  · rename_i started
    refine ⟨?_, rfl⟩
    simp only [RealVoiceRuntime.mapModel, RealVoiceSession.stop, started, if_true]
    exact .of_same rfl rfl rfl rfl
  · exact ⟨.of_same rfl rfl rfl rfl, rfl⟩

theorem cycle_untouched {s : RealVoiceRuntime ω} (wired : Wired s)
    (started : s.voice.started = true) (asleep : s.sleepManager.sleeping = true)
    (idle : s.voice.pending = none) (input : RuntimeInput) :
    Untouched s.voice (s.cycle input).voice ∧ (s.cycle input).sleepManager = s.sleepManager := by
  have evaluated := wired.evaluated started input
  have sleeps : (s.evaluateDeviceState input).1.state = .sleep := by
    rw [evaluated.state, classify_sleep_iff]
    exact asleep
  unfold RealVoiceRuntime.cycle
  dsimp only
  rw [if_pos sleeps]
  refine ⟨?_, evaluated.sleepManager⟩
  unfold RealVoiceRuntime.submit
  dsimp only [deviceStateName]
  rw [evaluated.voice, submit_asleep _ _ _ started]
  exact .respond idle (.inl rfl)

/-- A sleeping runtime leaves session and worker alone. -/
theorem runOnce_untouched {s : RealVoiceRuntime ω} (wired : Wired s)
    (asleep : s.sleepManager.sleeping = true) (idle : s.voice.pending = none)
    (input : RuntimeInput) :
    Untouched s.voice (s.runOnce input).voice ∧
      (s.runOnce input).sleepManager = s.sleepManager := by
  obtain ⟨starting, same⟩ := runtime_start_untouched input.slotGranted s
  have begun : Wired (s.start input.slotGranted).countCycle :=
    (wired.start input.slotGranted).kept rfl rfl rfl rfl rfl
  have counting : Untouched s.voice (s.start input.slotGranted).countCycle.voice :=
    starting.trans (.of_same rfl rfl rfl rfl)
  have waits : (s.start input.slotGranted).countCycle.voice.pending = none :=
    counting.pending.trans idle
  have sleeps : (s.start input.slotGranted).countCycle.sleepManager.sleeping = true :=
    (congrArg SleepManager.sleeping same).trans asleep
  unfold RealVoiceRuntime.runOnce
  dsimp only
  split
  · exact ⟨counting.trans (.respond waits (.inr rfl)), same⟩
  · rename_i busy
    obtain ⟨quiet, kept⟩ := cycle_untouched begun (by simpa using busy) sleeps waits input
    exact ⟨counting.trans quiet, kept.trans same⟩

theorem enterSleep_asleep {s : RealVoiceRuntime ω} (asleep : s.sleepManager.sleeping = true) :
    s.enterSleep = s := by
  simp [RealVoiceRuntime.enterSleep, SleepManager.enterSleep, asleep]

/-- Asleep with no cycle under way, as the session was at some time. -/
structure Asleep (voice : VoiceState ω) (s : RealVoiceRuntime ω) : Prop where
  wired : Wired s
  sleeping : s.sleepManager.sleeping = true
  idle : s.voice.pending = none
  untouched : Untouched voice s.voice

theorem Asleep.next {voice : VoiceState ω} {s s' : RealVoiceRuntime ω} (asleep : Asleep voice s)
    (wired : Wired s')
    (kept : Untouched s.voice s'.voice ∧ s'.sleepManager = s.sleepManager) : Asleep voice s' :=
  ⟨wired, by rw [kept.2, asleep.sleeping], kept.1.pending.trans asleep.idle,
    asleep.untouched.trans kept.1⟩

/-- Only a wake ends the sleep. -/
theorem step_asleep (controller : InteractionController ω) {voice : VoiceState ω}
    (s : RealVoiceRuntime ω) (call : RuntimeCall) (asleep : Asleep voice s)
    (noWake : ∀ granted, call ≠ .wake granted) : Asleep voice (s.step controller call) := by
  refine asleep.next (step_wired controller s call asleep.wired) ?_
  have same : Untouched s.voice s.voice := .of_same rfl rfl rfl rfl
  unfold RealVoiceRuntime.step
  split
  · rw [enterSleep_asleep asleep.sleeping]
    exact ⟨same, rfl⟩
  · rename_i granted
    exact absurd rfl (noWake granted)
  · exact ⟨.of_same rfl rfl rfl rfl, rfl⟩
  · exact ⟨same, rfl⟩
  · exact ⟨same, rfl⟩
  · exact ⟨same, rfl⟩
  · exact ⟨same, rfl⟩
  · exact runtime_start_untouched _ s
  · exact stop_untouched s
  · exact runOnce_untouched asleep.wired asleep.sleeping asleep.idle _
  · rename_i waiting
    cases waiting.symm.trans asleep.idle
  · exact ⟨same, rfl⟩

/-! ## Runs -/

section
variable (controller : InteractionController ω) (session : SessionState ω)
  (worker : TranscriptionWorker) (batteryMonitor : BatteryMonitor) (thermalMonitor : ThermalMonitor)
  (cpuMonitor : CPUMonitor) (memoryMonitor : MemoryMonitor) (modelDowngradeEnabled : Bool)
  (idleUnloadSeconds : PyFloat) (initialMode : PowerMode)
  (modelManager : Source.Behavior.ModelManager) (asrEngine : ASREngine)

/-- In the runtime as it is wired, however calls, threads and readings interleave: the stream runs
exactly while the session is started; the governor is paused exactly when the last evaluation found
the device asleep, and acts on nothing then; a started cycle finds the microphone working and the
device in the state that sleep, battery and temperature give; and from any state asleep with no
cycle under way until the next `wake`, every cycle answers nothing or that the runtime is busy, no
command is handled, and the session is left as it was. -/
theorem sleeping_runtime_hears_nothing (calls later : List RuntimeCall) :
    let s := run (RealVoiceRuntime.step controller) (.build session worker batteryMonitor
      thermalMonitor (.create cpuMonitor memoryMonitor modelDowngradeEnabled idleUnloadSeconds
        initialMode modelManager asrEngine) idleUnloadSeconds) calls
    s.stream.running = s.voice.started ∧
      (s.devices.governor.evaluationPaused = true ↔ s.devices.state = .sleep) ∧
      (s.devices.state = .sleep → ∀ samples : RuntimeSamples,
        (s.devices.governor.evaluate samples).1.actions = ["EVALUATION_PAUSED"] ∧
          (s.devices.governor.evaluate samples).2.modelManager =
            s.devices.governor.modelManager ∧
          (s.devices.governor.evaluate samples).2.asrEngine = s.devices.governor.asrEngine) ∧
      (s.voice.started = true → ∀ input : RuntimeInput,
        (s.evaluateDeviceState input).1.microphoneOperational = true ∧
          (s.evaluateDeviceState input).1.state =
            classify s.devices s.sleepManager.sleeping input ∧
          "GOVERNOR_PAUSED_MIC_FAILURE" ∉ (s.evaluateDeviceState input).1.actions) ∧
      (s.sleepManager.sleeping = true → s.voice.pending = none →
        (∀ call ∈ later, ∀ granted, call ≠ .wake granted) →
        let s' := run (RealVoiceRuntime.step controller) s later
        s'.sleepManager.sleeping = true ∧ s'.voice.session = s.voice.session ∧
          s'.voice.handled = s.voice.handled ∧
          ∃ quiet, s'.voice.responses = s.voice.responses ++ quiet ∧
            ∀ response ∈ quiet, response = none ∨ response = some runtimeBusy) := by
  intro s
  have wired : Wired s := run_invariant (step_wired controller) _ ⟨rfl, rfl, rfl⟩ calls
  have paused : s.devices.governor.evaluationPaused = true ↔ s.devices.state = .sleep := by
    rw [wired.paused, decide_eq_true_iff]
  refine ⟨wired.running, paused, fun sleeps samples => ?_, fun started input => ?_,
    fun sleeping idle noWake => ?_⟩
  · exact evaluate_of_paused samples (paused.mpr sleeps)
  · have evaluated := wired.evaluated started input
    exact ⟨evaluated.working, evaluated.state, evaluated.quiet⟩
  · have asleep : Asleep s.voice s := ⟨wired, sleeping, idle, .of_same rfl rfl rfl rfl⟩
    have still := run_invariant_along
      (fun s call holds allowed => step_asleep controller s call holds allowed) s asleep later
      (along_of_mem noWake s)
    exact ⟨still.sleeping, still.untouched.session, still.untouched.handled,
      still.untouched.responses⟩

end

end Apcos.Guarantees.SleepingRuntime
