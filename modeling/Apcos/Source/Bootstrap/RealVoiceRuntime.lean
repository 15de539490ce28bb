import Apcos.Source.Hardware.DeviceState
import Apcos.Source.Hardware.MicrophoneHealth
import Apcos.Source.Hardware.SleepManager
import Apcos.Source.Voice.AudioStream

/-!
# Real voice runtime

What `build_real_voice_session` of apcos/bootstrap/container.py wires together: the session of
voice/voice_session.py with its worker and stream, the sleep manager, the device state manager over
it with a microphone check whose probe is `is_running` of the stream, and the governor. The
governor's model manager is the one of the ASR engine; what the engine's threads do to it is an
event of any outcome.
-/
namespace Apcos.Source.Bootstrap

open Apcos.Source.Python
open Apcos.Source.Behavior
open Apcos.Source.Hardware
open Apcos.Source.Session
open Apcos.Source.Voice

/-- What a cycle meets: the limiter's answer to a start, the readings of the battery and of the
thermal sensor, the wake signal, the two idle clocks, the governor's samples, and what the stream's
source answers. -/
structure RuntimeInput where
  slotGranted : Bool
  batteryPercent : Option PyFloat
  batteryLow : Option PyFloat
  batteryCritical : Option PyFloat
  thermalCelsius : List PyFloat
  thermalOver : List PyFloat
  awake : Bool
  sessionIdle : Bool
  modelIdle : Bool
  samples : RuntimeSamples
  sourced : List UInt8

structure RealVoiceRuntime (ω : Type) where
  voice : VoiceState ω
  stream : AudioStream
  sleepManager : SleepManager
  microphone : MicrophoneHealth
  devices : DeviceStateManager
  idleUnloadSeconds : PyFloat

/-- The session's own calls, the sleep manager's, and the steps of the other threads. -/
inductive RuntimeCall where
  | start (granted : Bool)
  | stop
  | runOnce (input : RuntimeInput)
  | received (samples : RuntimeSamples)
  | enterSleep
  | wake (granted : Bool)
  | worker (i : Nat) (step : ThreadStep)
  | modelUsed (modelManager : Behavior.ModelManager)
  /-- The governor's loop. -/
  | evaluate (samples : RuntimeSamples)
  /-- The wake engine's loop takes a chunk. -/
  | listen (sourced : List UInt8)
  | pushChunk (chunk : Sound)

def deviceStateName : DeviceState → String
  | .poweredOn => "POWERED_ON"
  | .idle => "IDLE"
  | .sleep => "SLEEP"
  | .lowBattery => "LOW_BATTERY"
  | .thermalLimit => "THERMAL_LIMIT"
  | .critical => "CRITICAL"

namespace RealVoiceRuntime

variable {ω : Type}

/-- `MicrophoneHealth(health_probe=stream.is_running)`. -/
def probedMicrophone : MicrophoneHealth := ⟨false, true, 3, Nat.le_add_left 1 2, 0, none⟩

example : MicrophoneHealth.create false true 3 = .ok probedMicrophone := rfl

/-- `AudioStream()`. -/
def newStream : AudioStream := .create 3200 32 (Nat.le_add_left 1 3199) (Nat.le_add_left 1 31)

def build (session : SessionState ω) (worker : TranscriptionWorker)
    (batteryMonitor : BatteryMonitor) (thermalMonitor : ThermalMonitor)
    (governor : ResourceGovernor) (idleUnloadSeconds : PyFloat) : RealVoiceRuntime ω where
  voice := RealVoiceSession.create session worker
  stream := newStream
  sleepManager := .create
  microphone := probedMicrophone
  devices := .create batteryMonitor thermalMonitor governor
  idleUnloadSeconds := (PyFloat.finite 1).max idleUnloadSeconds

def mapModel (f : Behavior.ModelManager → Behavior.ModelManager) (s : RealVoiceRuntime ω) : RealVoiceRuntime ω :=
  let governor := s.devices.governor
  let modelManager := f governor.modelManager
  { s with devices := { s.devices with governor := { governor with modelManager } } }

/-- A start that the worker refuses stops the stream again. -/
def start (granted : Bool) (s : RealVoiceRuntime ω) : RealVoiceRuntime ω :=
  if s.voice.started then s
  else
    let voice := RealVoiceSession.start granted s.voice
    let stream := if voice.started then s.stream.start else s.stream.start.stop
    { s with voice, stream }

def stop (s : RealVoiceRuntime ω) : RealVoiceRuntime ω :=
  if s.voice.started then
    { s with voice := RealVoiceSession.stop s.voice, stream := s.stream.stop }.mapModel
      fun m => { m with loaded := false }
  else s

def evaluateDeviceState (input : RuntimeInput) (s : RealVoiceRuntime ω) :
    DeviceSnapshot × RealVoiceRuntime ω :=
  let (microphoneOk, microphone) := s.microphone.isOperational ⟨.ok s.stream.running, .ok []⟩
  let (snapshot, devices) := s.devices.evaluateState
    { batteryPercent := input.batteryPercent
      batteryLow := input.batteryLow
      batteryCritical := input.batteryCritical
      thermalCelsius := input.thermalCelsius
      thermalOver := input.thermalOver
      sleeping := s.sleepManager.sleeping
      microphoneOk }
  (snapshot, { s with microphone, devices })

def evaluateGovernor (samples : RuntimeSamples) (s : RealVoiceRuntime ω) : RealVoiceRuntime ω :=
  { s with devices := s.devices.step (.evaluate samples) }

def maybeUnloadIfIdle (sessionIdle modelIdle : Bool) (s : RealVoiceRuntime ω) :
    RealVoiceRuntime ω :=
  if !sessionIdle then s
  else s.mapModel fun m => (m.unloadIfIdle s.idleUnloadSeconds false modelIdle).2

/-- The session's part of a cycle, on what the other parts answered. -/
def submit (input : RuntimeInput) (deviceState : DeviceState) (audio : List UInt8)
    (s : RealVoiceRuntime ω) : RealVoiceRuntime ω :=
  let cycle : CycleInput :=
    ⟨input.slotGranted, some (deviceStateName deviceState), input.awake, audio⟩
  { s with voice := RealVoiceSession.submit cycle s.voice }

/-- `run_once` of a started session, up to `submit_audio`. -/
def cycle (input : RuntimeInput) (s : RealVoiceRuntime ω) : RealVoiceRuntime ω :=
  let (snapshot, s) := s.evaluateDeviceState input
  if snapshot.state = .sleep then s.submit input .sleep []
  else if !input.awake then
    ((s.maybeUnloadIfIdle input.sessionIdle input.modelIdle).evaluateGovernor
      input.samples).submit input snapshot.state []
  else
    let (chunk, stream) := s.stream.readChunk input.sourced
    { s with stream }.submit input snapshot.state chunk.audio

/-- The cycles are numbered as in `RealVoiceSession.runOnce`. -/
def countCycle (s : RealVoiceRuntime ω) : RealVoiceRuntime ω :=
  { s with voice := { s.voice with cycles := s.voice.cycles + 1 } }

def runOnce (input : RuntimeInput) (s : RealVoiceRuntime ω) : RealVoiceRuntime ω :=
  let s := (s.start input.slotGranted).countCycle
  if !s.voice.started then
    { s with voice := RealVoiceSession.respond (some runtimeBusy) s.voice }
  else s.cycle input

/-- `handle_input` is called and returns. -/
def commandReturns (controller : InteractionController ω) (chunk : Chunk) (s : VoiceState ω) :
    Bool :=
  match s.worker.getTranscription with
  | (none, _) => false
  | (some transcript, _) =>
    if blank transcript.text then false
    else
      match resolveVoiceIdentity controller.py chunk.audio transcript.text with
      | .error _ => false
      | .ok identity =>
        match (controller.handleInput transcript.text
          (InteractionController.setIdentity identity s.session)).1 with
        | .ok _ => true
        | .error _ => false

/-- `run_once` from the return of `get_transcription`. -/
def received (controller : InteractionController ω) (samples : RuntimeSamples) (chunk : Chunk)
    (s : RealVoiceRuntime ω) : RealVoiceRuntime ω :=
  let after := { s with voice := RealVoiceSession.received controller chunk s.voice }
  if commandReturns controller chunk s.voice then after.evaluateGovernor samples else after

def enterSleep (s : RealVoiceRuntime ω) : RealVoiceRuntime ω :=
  let (entered, sleepManager, worker) := s.sleepManager.enterSleep s.voice.worker
  let s := { s with sleepManager, voice := { s.voice with worker } }
  if entered then s.mapModel fun m => (m.unloadIfIdle (.finite 0) true false).2 else s

def wake (granted : Bool) (s : RealVoiceRuntime ω) : RealVoiceRuntime ω :=
  let (_, sleepManager, worker) := s.sleepManager.wake s.voice.worker granted
  { s with sleepManager, voice := { s.voice with worker } }

/-- While a cycle waits for a transcription, the session does nothing else. -/
def step (controller : InteractionController ω) (s : RealVoiceRuntime ω) (call : RuntimeCall) :
    RealVoiceRuntime ω :=
  match s.voice.pending, call with
  | _, .enterSleep => s.enterSleep
  | _, .wake granted => s.wake granted
  | _, .worker i step => { s with voice := { s.voice with worker := s.voice.worker.threadStep i step } }
  | _, .modelUsed modelManager => s.mapModel fun _ => modelManager
  | _, .evaluate samples => s.evaluateGovernor samples
  | _, .listen sourced => { s with stream := (s.stream.readChunk sourced).2 }
  | _, .pushChunk chunk => { s with stream := s.stream.pushChunk chunk }
  | none, .start granted => s.start granted
  | none, .stop => s.stop
  | none, .runOnce input => s.runOnce input
  | some chunk, .received samples => s.received controller samples chunk
  | _, _ => s

end RealVoiceRuntime

end Apcos.Source.Bootstrap
