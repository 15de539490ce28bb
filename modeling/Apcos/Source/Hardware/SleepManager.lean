import Apcos.Source.Voice.VoiceSession

/-!
# Sleep and wake

services/hardware/sleep_manager.py, wired to the transcription worker of a voice
session. `enter_sleep` and `wake` hold the manager's lock, so each is one step; the
worker's threads, a caller that submits audio and one that fetches transcriptions
step between them. The wake engine and the model manager answer nothing that the
manager or the worker reads and are left out.
-/
namespace Apcos.Source.Hardware

open Apcos.Source.Session (SessionState)
open Apcos.Source.Voice

structure SleepManager where
  sleeping : Bool

namespace SleepManager

def create : SleepManager := ⟨false⟩

def enterSleep (m : SleepManager) (worker : TranscriptionWorker) :
    Bool × SleepManager × TranscriptionWorker :=
  if m.sleeping then (false, m, worker) else (true, { m with sleeping := true }, worker.stop)

/-- `granted` is what the limiter answers the worker. -/
def wake (m : SleepManager) (worker : TranscriptionWorker) (granted : Bool) :
    Bool × SleepManager × TranscriptionWorker :=
  if !m.sleeping then (false, m, worker)
  else
    let (workerReady, worker) := worker.start granted
    if !workerReady then (false, m, worker) else (true, { m with sleeping := false }, worker)

end SleepManager

/-- A sleep manager and a voice session that share one worker. -/
structure VoiceRuntime (ω : Type) where
  manager : SleepManager
  voice : VoiceState ω

inductive RuntimeEvent where
  | enterSleep
  | wake (granted : Bool)
  | start (granted : Bool)
  | stop
  | submitAudio (chunk : Chunk)
  | getTranscription
  | thread (i : Nat) (step : ThreadStep)

namespace VoiceRuntime

variable {ω : Type}

def create (session : SessionState ω) (worker : TranscriptionWorker) : VoiceRuntime ω :=
  ⟨.create, RealVoiceSession.create session worker⟩

def worker (s : VoiceRuntime ω) : TranscriptionWorker := s.voice.worker

def setWorker (s : VoiceRuntime ω) (worker : TranscriptionWorker) : VoiceRuntime ω :=
  { s with voice := { s.voice with worker } }

def step (s : VoiceRuntime ω) : RuntimeEvent → VoiceRuntime ω
  | .enterSleep =>
    let (_, manager, worker) := s.manager.enterSleep s.worker
    { s.setWorker worker with manager }
  | .wake granted =>
    let (_, manager, worker) := s.manager.wake s.worker granted
    { s.setWorker worker with manager }
  | .start granted => { s with voice := RealVoiceSession.start granted s.voice }
  | .stop => { s with voice := RealVoiceSession.stop s.voice }
  | .submitAudio chunk => s.setWorker (s.worker.submitAudio chunk).2
  | .getTranscription => s.setWorker (s.worker.getTranscription).2
  | .thread i step => s.setWorker (s.worker.threadStep i step)

/-- The event is a wake, or a start of the session, that reports success: `wake`
returns true, `start` leaves the session started. -/
def resumes (s : VoiceRuntime ω) : RuntimeEvent → Bool
  | .wake granted => (s.manager.wake s.worker granted).1
  | .start granted => (RealVoiceSession.start granted s.voice).started
  | _ => false

/-- The event is an `enter_sleep` that returns true or a `stop` of a started session. -/
def pauses (s : VoiceRuntime ω) : RuntimeEvent → Bool
  | .enterSleep => (s.manager.enterSleep s.worker).1
  | .stop => s.voice.started
  | _ => false

end VoiceRuntime

end Apcos.Source.Hardware
