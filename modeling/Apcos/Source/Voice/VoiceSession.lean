import Apcos.Source.Session.InteractionController
import Apcos.Source.Voice.TranscriptionWorker

/-!
# Voice session

`RealVoiceSession` of voice/voice_session.py and voice/voice_identity_stub.py.
`run_once` is two steps of the main thread, up to `submit_audio` and from the
return of `get_transcription`; the threads of the worker step before, between and
after them. What the device state, the wake engine and the audio stream answer is
the input of a cycle. The governor, the idle unloading and the activity clock
reach neither the queues nor the controller and are left out.
-/
namespace Apcos.Source.Voice

open Apcos.Lib
open Apcos.Source.Python
open Apcos.Source.Session

/-! ## Speaker -/

/-- The text searched for tier markers. -/
def voicePayload (py : Runtime) (audio : List UInt8) (transcript : String) : String :=
  " ".intercalate ((if transcript = "" then [] else [py.lower transcript]) ++
    (if audio = [] then [] else [py.lower (decodeIgnore audio)]))

def voiceTier (payload : String) : IdentityTier :=
  if contains payload "tier:guest" then .guest
  else if contains payload "tier:family" then .family
  else .owner

def resolveVoiceIdentity (py : Runtime) (audio : List UInt8) (transcript : String) :
    Except Exc IdentityContext :=
  let tier := (voiceTier (voicePayload py audio transcript)).value
  IdentityContext.create py (py.lower tier ++ "_voice_session") tier true

/-- The markers name valid tiers, so the resolver does not raise. -/
theorem resolveVoiceIdentity_returns (py : Runtime) (audio : List UInt8) (transcript : String) :
    ∃ identity, resolveVoiceIdentity py audio transcript = .ok identity ∧
      identity.tier = voiceTier (voicePayload py audio transcript) := by
  unfold resolveVoiceIdentity
  generalize voiceTier (voicePayload py audio transcript) = tier
  have lowered : py.lower tier.value = String.ofList (tier.value.toList.map asciiLower) :=
    py.lower_ascii _ (by cases tier <;> decide)
  have raised : py.upper (strip tier.value) = tier.value := by
    rw [py.upper_ascii _ (by cases tier <;> decide)]
    cases tier <;> decide
  have named : ¬strip (String.ofList (tier.value.toList.map asciiLower) ++ "_voice_session") = "" := by
    cases tier <;> decide
  have valid : IdentityTier.ofValue tier.value = some tier := by
    cases tier <;> decide
  simp only [IdentityContext.create, lowered, raised, valid, dif_neg named]
  exact ⟨_, rfl, rfl⟩

/-! ## Session -/

/-- What a cycle meets: the limiter's answer to a start, the reported device state,
the wake signal and the chunk of the audio stream. -/
structure CycleInput where
  slotGranted : Bool
  deviceState : Option String
  awake : Bool
  audio : List UInt8

/-- A call of `handle_input` by a cycle: the chunk the cycle read, the transcript it
passed and the identity it had set. -/
structure Handled where
  chunk : Chunk
  transcript : Transcript
  identity : IdentityContext

/-- `pending` is the chunk of the cycle that waits for a transcription; `responses`
are the values `run_once` has returned. -/
structure VoiceState (ω : Type) where
  started : Bool
  worker : TranscriptionWorker
  session : SessionState ω
  pending : Option Chunk
  cycles : Nat
  handled : List Handled
  responses : List (Option String)

def noSpeech : String := "No speech detected."

def runtimeBusy : String := "Voice runtime is busy."

def internalError : String := "I could not execute that due to an internal system error."

namespace RealVoiceSession

variable {ω : Type}

def create (session : SessionState ω) (worker : TranscriptionWorker) : VoiceState ω :=
  ⟨false, worker, session, none, 0, [], []⟩

def respond (response : Option String) (s : VoiceState ω) : VoiceState ω :=
  { s with pending := none, responses := s.responses ++ [response] }

def start (granted : Bool) (s : VoiceState ω) : VoiceState ω :=
  if s.started then s
  else
    let (started, worker) := s.worker.start granted
    { s with started, worker }

def stop (s : VoiceState ω) : VoiceState ω :=
  if s.started then { s with started := false, worker := s.worker.stop } else s

/-- `run_once` after `start`, up to `submit_audio`. -/
def submit (input : CycleInput) (s : VoiceState ω) : VoiceState ω :=
  if !s.started then respond (some runtimeBusy) s
  else if input.deviceState = some "SLEEP" then respond none s
  else if !input.awake then respond none s
  else if input.audio = [] then respond (some noSpeech) s
  else
    let chunk : Chunk := ⟨s.cycles, input.audio⟩
    match s.worker.submitAudio chunk with
    | (false, worker) => respond (some noSpeech) { s with worker }
    | (true, worker) => { s with worker, pending := some chunk }

/-- A submission reaches the audio queue and the answer of the cycle. -/
theorem submit_frame (input : CycleInput) (s : VoiceState ω) :
    ∃ worker pending responses, submit input s = { s with worker, pending, responses } := by
  unfold submit
  split
  · exact ⟨_, _, _, rfl⟩
  · split
    · exact ⟨_, _, _, rfl⟩
    · split
      · exact ⟨_, _, _, rfl⟩
      · split
        · exact ⟨_, _, _, rfl⟩
        · dsimp only
          split <;> exact ⟨_, _, _, rfl⟩

def runOnce (input : CycleInput) (s : VoiceState ω) : VoiceState ω :=
  submit input { start input.slotGranted s with cycles := s.cycles + 1 }

/-- A transcript is passed on under the identity its audio and text resolve to. -/
def handleTranscript (controller : InteractionController ω) (chunk : Chunk)
    (transcript : Transcript) (s : VoiceState ω) : VoiceState ω :=
  match resolveVoiceIdentity controller.py chunk.audio transcript.text with
  | .error _ => { s with pending := none }
  | .ok identity =>
    let (outcome, session) := controller.handleInput transcript.text
      (InteractionController.setIdentity identity s.session)
    let response := match outcome with
      | .ok response => response
      | .error _ => internalError
    respond (some response)
      { s with session, handled := s.handled ++ [⟨chunk, transcript, identity⟩] }

/-- `run_once` from the return of `get_transcription`. -/
def received (controller : InteractionController ω) (chunk : Chunk) (s : VoiceState ω) :
    VoiceState ω :=
  match s.worker.getTranscription with
  | (none, worker) => respond (some noSpeech) { s with worker }
  | (some transcript, worker) =>
    if blank transcript.text then respond (some noSpeech) { s with worker }
    else handleTranscript controller chunk transcript { s with worker }

end RealVoiceSession

/-- Steps of the main thread and of the worker's threads. The sleep manager stops and
starts the worker on the main thread, when a cycle evaluates the device state. -/
inductive VoiceEvent where
  | start (granted : Bool)
  | stop
  | startWorker (granted : Bool)
  | stopWorker
  | runOnce (input : CycleInput)
  | received
  | thread (i : Nat) (step : ThreadStep)

/-- While a cycle waits, the main thread does nothing else. -/
def voiceStep {ω : Type} (controller : InteractionController ω) (s : VoiceState ω)
    (event : VoiceEvent) : VoiceState ω :=
  match s.pending, event with
  | _, .thread i step => { s with worker := s.worker.threadStep i step }
  | none, .start granted => RealVoiceSession.start granted s
  | none, .stop => RealVoiceSession.stop s
  | none, .startWorker granted => { s with worker := (s.worker.start granted).2 }
  | none, .stopWorker => { s with worker := s.worker.stop }
  | none, .runOnce input => RealVoiceSession.runOnce input s
  | some chunk, .received => RealVoiceSession.received controller chunk s
  | _, _ => s

end Apcos.Source.Voice
