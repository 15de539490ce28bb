import Apcos.Guarantees.LoopRefinement
import Apcos.Guarantees.VoiceAttribution

/-!
# The voice pipeline refines the assistant

voice/voice_session.py:74-170 and voice/transcription_worker.py over the controller that
apcos/bootstrap/container.py builds. However the worker's threads and the main thread
interleave, the tasks are those of the assistant that hears the handled transcripts, each
under the identity it was handled with.
-/
namespace Apcos.Guarantees.PipelineRefinement

open Apcos.Lib
open Apcos.Source.Python
open Apcos.Source.Session
open Apcos.Source.Bootstrap
open Apcos.Source.Voice
open Apcos.Guarantees.AssistantBoard
open Apcos.Guarantees.LoopRefinement
open Apcos.Guarantees.SessionHistory
open Apcos.Guarantees.SessionRefinement
open Apcos.Guarantees.VoiceAttribution (Undisturbed start_kept stop_kept runOnce_cases
  voiceStep_attribution create_attribution)

variable {ω : Type}

/-- What the assistant hears of a command handled at this time. -/
def overheardOf (app : AppContainer ω) (told : Handled × DateTime) : Overheard :=
  .said told.1.identity (heardText app told.2 (strip told.1.transcript.text))

/-! ## What a step handles -/

/-- The step calls the controller with one transcript, or does not call it. -/
inductive Handles (controller : InteractionController ω) (s s' : VoiceState ω) : Prop where
  | nothing (session : s'.session = s.session) (handled : s'.handled = s.handled)
  | command (told : Handled) (handled : s'.handled = s.handled ++ [told])
      (session : s'.session = (controller.handleInput told.transcript.text
        (InteractionController.setIdentity told.identity s.session)).2)

theorem start_session (granted : Bool) (s : VoiceState ω) :
    (RealVoiceSession.start granted s).session = s.session := by
  unfold RealVoiceSession.start
  split <;> rfl

theorem stop_session (s : VoiceState ω) : (RealVoiceSession.stop s).session = s.session := by
  unfold RealVoiceSession.stop
  split <;> rfl

theorem submit_session (input : CycleInput) (s : VoiceState ω) :
    (RealVoiceSession.submit input s).session = s.session := by
  obtain ⟨worker, pending, responses, same⟩ := RealVoiceSession.submit_frame input s
  rw [same]

theorem received_handles (controller : InteractionController ω) (chunk : Chunk)
    (s : VoiceState ω) : Handles controller s (RealVoiceSession.received controller chunk s) := by
  unfold RealVoiceSession.received
  split
  · exact .nothing rfl rfl
  · rename_i transcript worker got
    split
    · exact .nothing rfl rfl
    · unfold RealVoiceSession.handleTranscript
      split
      · exact .nothing rfl rfl
      · rename_i identity resolved
        exact .command ⟨chunk, transcript, identity⟩ rfl rfl

theorem voiceStep_handles (controller : InteractionController ω) (s : VoiceState ω)
    (event : VoiceEvent) : Handles controller s (voiceStep controller s event) := by
  unfold voiceStep
  split
  · exact .nothing rfl rfl
  · exact .nothing (start_session _ s) (start_kept _ s).2.1
  · exact .nothing (stop_session s) (stop_kept s).2
  · exact .nothing rfl rfl
  · exact .nothing rfl rfl
  · exact .nothing ((submit_session _ _).trans (start_session _ s)) (runOnce_cases _ s).1
  · exact received_handles controller _ s
  · exact .nothing rfl rfl

/-! ## Runs -/

/-- The tasks are those of the assistant that hears what was handled. -/
structure Refined (app : AppContainer ω) (s : VoiceState (AppOutside ω)) : Prop where
  kept : Kept app s.session
  heard : ∃ told : List (Handled × DateTime), told.map Prod.fst = s.handled ∧
    view app s.session = run (attend (manner app)) newcomer (told.map (overheardOf app))

variable {app : AppContainer ω}

/-- Each step of either thread keeps the session that of the transcripts handled so far. -/
theorem voiceStep_refined (documented : Documented app.platform) (s : VoiceState (AppOutside ω))
    (event : VoiceEvent) (refined : Refined app s) :
    Refined app (voiceStep app.controller s event) := by
  obtain ⟨kept, told, logged, shown⟩ := refined
  cases voiceStep_handles app.controller s event with
  | nothing session handled =>
    rw [← session] at kept shown
    exact ⟨kept, told, logged.trans handled.symm, shown⟩
  | command now handled session =>
    have assigned := kept_step documented s.session (.setIdentity now.identity) kept
    obtain ⟨-, heard, -⟩ :=
      handleInput_simulated documented assigned.legible now.transcript.text
    have after := kept_step documented _ (.handleInput now.transcript.text) assigned
    refine ⟨?_, told ++ [(now, clockAt app s.session)], ?_, ?_⟩
    · rw [session]
      exact after
    · rw [List.map_append, logged, handled]
      rfl
    · rw [session, List.map_append, run_append, ← shown]
      exact heard

theorem board_of_owners (m : Manner) (overheard : List Overheard) :
    (run (attend m) newcomer overheard).board =
      (run (attend m) newcomer (overheard.filter ownerVoice)).board :=
  run_owner_voices m overheard rfl ordered_empty

/-- However the threads interleave, the pipeline leaves the tasks of the assistant that hears the
handled transcripts in their order, of which only those handled as the owner matter; and where
no cycle submits behind an earlier one, only those whose own audio and text carry no marker. -/
theorem pipeline_refines_assistant (documented : Documented app.platform)
    (worker : TranscriptionWorker) (outside : ω) (events : List VoiceEvent) :
    let start := RealVoiceSession.create (app.initialState outside) worker
    let s := run (voiceStep app.controller) start events
    ∃ told : List (Handled × DateTime), told.map Prod.fst = s.handled ∧
      view app s.session = run (attend (manner app)) newcomer (told.map (overheardOf app)) ∧
      (view app s.session).board = (run (attend (manner app)) newcomer
        ((told.filter fun t => t.1.identity.tier = .owner).map (overheardOf app))).board ∧
      (Along (voiceStep app.controller) Undisturbed start events →
        (view app s.session).board = (run (attend (manner app)) newcomer
          ((told.filter fun t => voiceTier (voicePayload app.platform.py
            t.1.transcript.source.audio t.1.transcript.text) = .owner).map (overheardOf app))).board) := by
  intro start s
  have refined : Refined app s :=
    run_invariant (voiceStep_refined documented) start ⟨kept_start outside, [], rfl, rfl⟩ events
  obtain ⟨-, told, logged, shown⟩ := refined
  have owners : (view app s.session).board = (run (attend (manner app)) newcomer
      ((told.filter fun t => t.1.identity.tier = .owner).map (overheardOf app))).board := by
    rw [shown, board_of_owners, List.filter_map]
    rfl
  refine ⟨told, logged, shown, owners, fun undisturbed => ?_⟩
  have attributed := (run_invariant_along (voiceStep_attribution app.controller) start
    (create_attribution app.controller.py _ worker) events undisturbed).attributed
  have voices : told.filter (fun t => t.1.identity.tier = .owner) =
      told.filter fun t => voiceTier (voicePayload app.platform.py
        t.1.transcript.source.audio t.1.transcript.text) = .owner := by
    refine List.filter_congr fun t member => ?_
    have handled : t.1 ∈ s.handled := by
      rw [← logged]
      exact List.mem_map_of_mem member
    obtain ⟨identity, resolved, tier⟩ := resolveVoiceIdentity_returns app.platform.py
      t.1.transcript.source.audio t.1.transcript.text
    have same := (attributed t.1 handled).2
    rw [show app.controller.py = app.platform.py from rfl, resolved, Except.ok.injEq] at same
    rw [← same, tier]
  rw [owners, voices]

/-- The worker answers a guest in time. -/
def guestCycle : List VoiceEvent :=
  [.runOnce ⟨true, none, true, "tier:guest text:schedule meeting tomorrow".toUTF8.toList⟩,
    .thread 0 .take, .thread 0 (.transcribed (some "schedule meeting tomorrow")),
    .thread 0 (.deliver false), .received]

theorem pipeline_refines_assistant_guest :
    let start := RealVoiceSession.create (thirdYearApp.initialState 0) (.create 32 (by decide) true)
    let s := run (voiceStep thirdYearApp.controller) start guestCycle
    s.handled.length = 1 ∧
    ∃ told : List (Handled × DateTime), told.map Prod.fst = s.handled ∧
      view thirdYearApp s.session =
        run (attend (manner thirdYearApp)) newcomer (told.map (overheardOf thirdYearApp)) ∧
      (view thirdYearApp s.session).board = (run (attend (manner thirdYearApp)) newcomer
        ((told.filter fun t => t.1.identity.tier = .owner).map (overheardOf thirdYearApp))).board ∧
      (view thirdYearApp s.session).board = (run (attend (manner thirdYearApp)) newcomer
        ((told.filter fun t => voiceTier (voicePayload thirdYearApp.platform.py
          t.1.transcript.source.audio t.1.transcript.text) = .owner).map
            (overheardOf thirdYearApp))).board := by
  intro start s
  have undisturbed : Along (voiceStep thirdYearApp.controller) Undisturbed start guestCycle :=
    ⟨fun _ _ => rfl, trivial, trivial, trivial, trivial, trivial⟩
  obtain ⟨told, logged, shown, owners, voices⟩ :=
    pipeline_refines_assistant thirdYear_documented (.create 32 (by decide) true) 0 guestCycle
  exact ⟨by decide +kernel, told, logged, shown, owners, voices undisturbed⟩

end Apcos.Guarantees.PipelineRefinement
