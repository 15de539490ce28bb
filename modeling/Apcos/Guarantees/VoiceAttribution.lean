import Apcos.Lib.Runs
import Apcos.Source.Voice.VoiceSession

/-!
# Attribution of voice commands

A transcript carries no mark of the cycle that read its audio: `get_transcription`
hands the waiting cycle whatever comes first. A cycle that submits its audio while
nothing is in flight can only receive its own transcript. A cycle that submits
behind the audio of an earlier one, whose wait had timed out, receives the
earlier speaker's command and runs it under the identity of its own.
-/
namespace Apcos.Guarantees.VoiceAttribution

open Apcos.Lib
open Apcos.Source.Python (Runtime blank)
open Apcos.Source.Session
open Apcos.Source.Voice

variable {ω : Type}

/-- The transcript is of the chunk the cycle read, and the identity was resolved from
the audio that was transcribed. -/
def Attributed (py : Runtime) (handled : Handled) : Prop :=
  handled.transcript.source = handled.chunk ∧
    resolveVoiceIdentity py handled.transcript.source.audio handled.transcript.text =
      .ok handled.identity

/-- The cycle gets as far as `submit_audio`, and the audio is queued. -/
def Submits (input : CycleInput) (s : VoiceState ω) : Prop :=
  (RealVoiceSession.start input.slotGranted s).started = true ∧
    input.deviceState ≠ some "SLEEP" ∧ input.awake = true ∧ input.audio ≠ [] ∧
    s.worker.audioQueue.accepts = true

/-- A cycle submits its audio only when no audio or transcript of an earlier cycle is
in the queues or in a thread of the worker. -/
def Undisturbed (s : VoiceState ω) : VoiceEvent → Prop
  | .runOnce input => s.pending = none → Submits input s → s.worker.inFlight = []
  | _ => True

/-! ## Steps of the main thread -/

theorem start_kept (granted : Bool) (s : VoiceState ω) :
    (RealVoiceSession.start granted s).pending = s.pending ∧
      (RealVoiceSession.start granted s).handled = s.handled ∧
      (RealVoiceSession.start granted s).worker.inFlight = s.worker.inFlight ∧
      (RealVoiceSession.start granted s).worker.audioQueue = s.worker.audioQueue := by
  unfold RealVoiceSession.start
  split
  · exact ⟨rfl, rfl, rfl, rfl⟩
  · exact ⟨rfl, rfl, s.worker.start_inFlight granted, s.worker.start_audioQueue granted⟩

theorem stop_kept (s : VoiceState ω) :
    (RealVoiceSession.stop s).pending = s.pending ∧
      (RealVoiceSession.stop s).handled = s.handled := by
  unfold RealVoiceSession.stop
  split
  · exact ⟨rfl, rfl⟩
  · exact ⟨rfl, rfl⟩

/-- A cycle ends before it waits, or waits behind what was in flight. -/
theorem submit_cases (input : CycleInput) (s : VoiceState ω) :
    (RealVoiceSession.submit input s).handled = s.handled ∧
      ((RealVoiceSession.submit input s).pending = none ∨
        (s.started = true ∧ input.deviceState ≠ some "SLEEP" ∧ input.awake = true ∧
          input.audio ≠ [] ∧ s.worker.audioQueue.accepts = true ∧
          ∃ chunk, (RealVoiceSession.submit input s).pending = some chunk ∧
            (RealVoiceSession.submit input s).worker.inFlight = s.worker.inFlight ++ [chunk])) := by
  unfold RealVoiceSession.submit
  split
  · exact ⟨rfl, Or.inl rfl⟩
  · rename_i started
    split
    · exact ⟨rfl, Or.inl rfl⟩
    · rename_i notAsleep
      split
      · exact ⟨rfl, Or.inl rfl⟩
      · rename_i awake
        split
        · exact ⟨rfl, Or.inl rfl⟩
        · rename_i speech
          have started : s.started = true := by simpa using started
          have awake : input.awake = true := by simpa using awake
          cases accepted : s.worker.audioQueue.accepts with
          | true =>
            dsimp only
            generalize shape : (⟨s.cycles, input.audio⟩ : Chunk) = chunk
            have spoken : chunk.audio ≠ [] := by
              rw [← shape]
              exact speech
            obtain ⟨queued, behind⟩ := TranscriptionWorker.submitAudio_of_accepts spoken accepted
            split
            · rename_i worker refused
              rw [refused] at queued
              cases queued
            · rename_i worker submitted
              rw [submitted] at behind
              exact ⟨rfl, Or.inr ⟨started, notAsleep, awake, speech, rfl, _, rfl, behind⟩⟩
          | false =>
            dsimp only
            rw [TranscriptionWorker.submitAudio_of_not_accepts accepted]
            exact ⟨rfl, Or.inl rfl⟩

theorem runOnce_cases (input : CycleInput) (s : VoiceState ω) :
    (RealVoiceSession.runOnce input s).handled = s.handled ∧
      ((RealVoiceSession.runOnce input s).pending = none ∨
        (Submits input s ∧ ∃ chunk, (RealVoiceSession.runOnce input s).pending = some chunk ∧
          (RealVoiceSession.runOnce input s).worker.inFlight = s.worker.inFlight ++ [chunk])) := by
  obtain ⟨-, handled, inFlight, audioQueue⟩ := start_kept input.slotGranted s
  obtain ⟨same, ended | ⟨started, notAsleep, awake, speech, accepted, chunk, waits, behind⟩⟩ :=
    submit_cases input { RealVoiceSession.start input.slotGranted s with cycles := s.cycles + 1 }
  · exact ⟨same.trans handled, Or.inl ended⟩
  · rw [audioQueue] at accepted
    rw [inFlight] at behind
    exact ⟨same.trans handled,
      Or.inr ⟨⟨started, notAsleep, awake, speech, accepted⟩, chunk, waits, behind⟩⟩

theorem handleTranscript_logs (controller : InteractionController ω) (chunk : Chunk)
    (transcript : Transcript) (s : VoiceState ω) :
    ∃ identity, resolveVoiceIdentity controller.py chunk.audio transcript.text = .ok identity ∧
      (RealVoiceSession.handleTranscript controller chunk transcript s).pending = none ∧
      (RealVoiceSession.handleTranscript controller chunk transcript s).handled =
        s.handled ++ [⟨chunk, transcript, identity⟩] := by
  obtain ⟨identity, resolved, -⟩ :=
    resolveVoiceIdentity_returns controller.py chunk.audio transcript.text
  refine ⟨identity, resolved, ?_⟩
  rw [RealVoiceSession.handleTranscript, resolved]
  exact ⟨rfl, rfl⟩

/-- The waiting cycle ends; it may have handled one transcript that was in flight. -/
theorem received_cases (controller : InteractionController ω) (chunk : Chunk) (s : VoiceState ω) :
    (RealVoiceSession.received controller chunk s).pending = none ∧
      ((RealVoiceSession.received controller chunk s).handled = s.handled ∨
        ∃ transcript identity, transcript.source ∈ s.worker.inFlight ∧
          resolveVoiceIdentity controller.py chunk.audio transcript.text = .ok identity ∧
          (RealVoiceSession.received controller chunk s).handled =
            s.handled ++ [⟨chunk, transcript, identity⟩]) := by
  unfold RealVoiceSession.received
  split
  · exact ⟨rfl, Or.inl rfl⟩
  · rename_i transcript worker got
    split
    · exact ⟨rfl, Or.inl rfl⟩
    · have flying : transcript.source ∈ s.worker.inFlight :=
        TranscriptionWorker.getTranscription_inFlight (by rw [got])
      obtain ⟨identity, resolved, ended, logged⟩ :=
        handleTranscript_logs controller chunk transcript { s with worker }
      exact ⟨ended, Or.inr ⟨transcript, identity, flying, resolved, logged⟩⟩

/-! ## Runs -/

/-- While a cycle waits, only its own chunk is in flight. -/
structure Attribution (py : Runtime) (s : VoiceState ω) : Prop where
  attributed : ∀ handled ∈ s.handled, Attributed py handled
  ownChunk : ∀ chunk, s.pending = some chunk → ∀ flying ∈ s.worker.inFlight, flying = chunk

/-- A step that leaves the main thread free and handles nothing. -/
theorem Attribution.of_free {py : Runtime} {s s' : VoiceState ω} (holds : Attribution py s)
    (same : s'.handled = s.handled) (free : s'.pending = none) : Attribution py s' := by
  refine ⟨?_, ?_⟩
  · rw [same]
    exact holds.attributed
  · intro chunk waits
    rw [free] at waits
    cases waits

theorem thread_attribution {py : Runtime} {s : VoiceState ω} (holds : Attribution py s) (i : Nat)
    (step : ThreadStep) : Attribution py { s with worker := s.worker.threadStep i step } := by
  refine ⟨holds.attributed, ?_⟩
  intro chunk waits flying member
  exact holds.ownChunk chunk waits flying (s.worker.threadStep_inFlight i step flying member)

theorem runOnce_attribution {py : Runtime} {s : VoiceState ω} {input : CycleInput}
    (holds : Attribution py s) (undisturbed : Submits input s → s.worker.inFlight = []) :
    Attribution py (RealVoiceSession.runOnce input s) := by
  obtain ⟨same, ended | ⟨submits, chunk, waits, behind⟩⟩ := runOnce_cases input s
  · exact holds.of_free same ended
  · rw [undisturbed submits, List.nil_append] at behind
    refine ⟨?_, ?_⟩
    · rw [same]
      exact holds.attributed
    · intro other waiting flying member
      rw [waits] at waiting
      rw [behind] at member
      injection waiting with equal
      rw [← equal]
      exact List.mem_singleton.mp member

/-- What a waiting cycle receives was transcribed from its own chunk. -/
theorem received_attribution {controller : InteractionController ω} {s : VoiceState ω}
    {chunk : Chunk} (holds : Attribution controller.py s) (waits : s.pending = some chunk) :
    Attribution controller.py (RealVoiceSession.received controller chunk s) := by
  obtain ⟨ended, same | ⟨transcript, identity, flying, resolved, logged⟩⟩ :=
    received_cases controller chunk s
  · exact holds.of_free same ended
  · have own : transcript.source = chunk := holds.ownChunk chunk waits _ flying
    refine ⟨?_, ?_⟩
    · intro handled member
      rw [logged] at member
      rcases List.mem_append.mp member with earlier | last
      · exact holds.attributed handled earlier
      · rw [List.mem_singleton.mp last]
        refine ⟨own, ?_⟩
        dsimp only
        rw [own]
        exact resolved
    · intro other waiting
      rw [ended] at waiting
      cases waiting

/-- An undisturbed step keeps every handled transcript to its own cycle. -/
theorem voiceStep_attribution (controller : InteractionController ω) (s : VoiceState ω)
    (event : VoiceEvent) (holds : Attribution controller.py s) (undisturbed : Undisturbed s event) :
    Attribution controller.py (voiceStep controller s event) := by
  unfold voiceStep
  split
  · exact thread_attribution holds _ _
  · rename_i free
    obtain ⟨pending, handled, -, -⟩ := start_kept _ s
    exact holds.of_free handled (pending.trans free)
  · rename_i free
    obtain ⟨pending, handled⟩ := stop_kept s
    exact holds.of_free handled (pending.trans free)
  · rename_i free
    exact holds.of_free rfl free
  · rename_i free
    exact holds.of_free rfl free
  · rename_i input free
    exact runOnce_attribution holds (undisturbed free)
  · rename_i chunk waits
    exact received_attribution holds waits
  · exact holds

theorem create_attribution (py : Runtime) (session : SessionState ω) (worker : TranscriptionWorker) :
    Attribution py (RealVoiceSession.create session worker) :=
  ⟨fun _ member => absurd member List.not_mem_nil, fun _ waits => nomatch waits⟩

/-- In every run of a new session in which no cycle submits behind an earlier one, every
command is handled in the cycle that read its audio, under the identity of that audio. -/
theorem undisturbed_attribution (controller : InteractionController ω) (session : SessionState ω)
    (worker : TranscriptionWorker) (events : List VoiceEvent)
    (undisturbed : Along (voiceStep controller) Undisturbed
      (RealVoiceSession.create session worker) events) :
    ∀ before after, events = before ++ after →
      ∀ handled ∈ (run (voiceStep controller) (RealVoiceSession.create session worker) before).handled,
        Attributed controller.py handled := by
  intro before after split
  subst split
  have reached := run_invariant_along (voiceStep_attribution controller)
    (RealVoiceSession.create session worker) (create_attribution controller.py session worker) before
    (along_append _ before after undisturbed)
  exact reached.attributed

/-! Two speakers: a guest, then the owner. -/

def asciiBytes (text : String) : List UInt8 := text.toList.map fun c => UInt8.ofNat c.toNat

/-- A wake signal and a chunk, with a thread slot free. -/
def spoken (text : String) : CycleInput := ⟨true, none, true, asciiBytes text⟩

def newSession : VoiceState Nat :=
  RealVoiceSession.create (InteractionController.initialState emptyRouterState)
    (.create 32 (by decide) true)

/-- The worker answers in time. -/
def promptGuest : List VoiceEvent :=
  [.runOnce (spoken "tier:guest;text:Schedule payroll tomorrow"), .thread 0 .take,
    .thread 0 (.transcribed (some "Schedule payroll tomorrow")), .thread 0 (.deliver false),
    .received]

/-- The worker answers after the guest's cycle has timed out and the owner's has begun. -/
def slowGuest : List VoiceEvent :=
  [.runOnce (spoken "tier:guest;text:Schedule payroll tomorrow"), .thread 0 .take, .received,
    .runOnce (spoken "tier:owner;text:Complete 1"),
    .thread 0 (.transcribed (some "Schedule payroll tomorrow")), .thread 0 (.deliver false),
    .received]

theorem undisturbed_attribution_prompt_guest :
    (run (voiceStep firstDayController) newSession promptGuest).handled.map (·.identity.tier) =
        [.guest] ∧
      ∀ handled ∈ (run (voiceStep firstDayController) newSession promptGuest).handled,
        Attributed firstDayController.py handled :=
  ⟨by decide +kernel,
    undisturbed_attribution firstDayController (InteractionController.initialState emptyRouterState)
      (.create 32 (by decide) true) promptGuest
      ⟨fun _ _ => rfl, trivial, trivial, trivial, trivial, trivial⟩ promptGuest []
      (List.append_nil _).symm⟩

/-- The guest's command runs in the owner's cycle as the owner, and creates the task. -/
theorem slow_guest_misattributed :
    (¬∀ handled ∈ (run (voiceStep firstDayController) newSession slowGuest).handled,
        Attributed firstDayController.py handled) ∧
      (run (voiceStep firstDayController) newSession
        slowGuest).session.router.memory.tasks.rows.length = 1 := by
  refine ⟨?_, by decide +kernel⟩
  intro attributed
  have logged : (run (voiceStep firstDayController) newSession slowGuest).handled.map
      (fun handled => (handled.transcript.source.cycle, handled.chunk.cycle)) = [(1, 2)] := by
    decide +kernel
  obtain ⟨handled, member, cycles⟩ : ∃ handled ∈
      (run (voiceStep firstDayController) newSession slowGuest).handled,
      (handled.transcript.source.cycle, handled.chunk.cycle) = (1, 2) := by
    rw [← List.mem_map, logged]
    exact List.mem_singleton_self _
  obtain ⟨first, second⟩ := Prod.mk.inj cycles
  rw [(attributed handled member).1, second] at first
  cases first

end Apcos.Guarantees.VoiceAttribution
