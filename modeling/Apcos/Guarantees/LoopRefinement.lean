import Apcos.Guarantees.SessionHistory
import Apcos.Source.Session.CliShell
import Apcos.Source.Voice.VoiceLoop

/-!
# The loops refine the assistant

interface/cli_shell.py and voice/voice_controller.py over the controller that
apcos/bootstrap/container.py builds: everything the shell prints, and everything the voice
loop does, is what the assistant answers to what it hears. In the voice loop the assistant is
told before each command whose voice it is, so that a login in an earlier command is forgotten.
-/
namespace Apcos.Guarantees.LoopRefinement

open Apcos.Lib
open Apcos.Source.Python
open Apcos.Source.Session
open Apcos.Source.Bootstrap
open Apcos.Source.Voice
open Apcos.Guarantees.AssistantBoard
open Apcos.Guarantees.SessionHistory
open Apcos.Guarantees.SessionRefinement

variable {ω : Type}

/-- What is said for an outcome of `handle_input` that a loop catches. -/
def spoken : Option (Except Exc String) → String
  | some (.ok response) => response
  | _ => internalError

/-! ## Shell -/

/-- A command of the shell is heard, unless it asks for help. -/
def shellHeard (app : AppContainer ω) (s : SessionState (AppOutside ω)) (command : String) :
    Option Heard :=
  if app.platform.py.lower command = "help" then none
  else some (heardText app (clockAt app s) (strip command))

def shellHearings (app : AppContainer ω) (outside : ω) (inputs : List ShellInput) :
    List (Option Heard) :=
  observations (fun s command => (answerCommand app.controller s command).2) (shellHeard app)
    (app.initialState outside) (requests (receiveLine app.platform.py) inputs)

/-- The assistant at a shell: a request for help is answered beside it. -/
def shellStep (m : Manner) (a : Assistant) : Option Heard → Assistant
  | none => a
  | some heard => a.step m heard

def shellAnswer (m : Manner) (a : Assistant) : Option Heard → String
  | none => helpText
  | some heard => spoken (a.reply m heard).text

section
variable {app : AppContainer ω} (documented : Documented app.platform)
include documented

/-- The shell answers a line as the assistant does. -/
theorem answerCommand_simulated {s : SessionState (AppOutside ω)} (kept : Kept app s)
    (command : String) :
    (answerCommand app.controller s command).1 =
        shellAnswer (manner app) (view app s) (shellHeard app s command) ∧
      view app (answerCommand app.controller s command).2 =
        shellStep (manner app) (view app s) (shellHeard app s command) ∧
      Kept app (answerCommand app.controller s command).2 := by
  have py_eq : app.controller.py = app.platform.py := rfl
  unfold answerCommand shellHeard
  rw [py_eq]
  by_cases help : app.platform.py.lower command = "help"
  · rw [if_pos help, if_pos help]
    exact ⟨rfl, rfl, kept⟩
  rw [if_neg help, if_neg help]
  by_cases empty : command = ""
  · rw [if_pos empty]
    subst empty
    exact ⟨rfl, rfl, kept⟩
  · rw [if_neg empty]
    obtain ⟨replied, shown, legible⟩ := handleInput_simulated documented kept.legible command
    have after := kept_step documented s (.handleInput command) kept
    simp only [sessionStep] at after
    simp only [shellAnswer, shellStep]
    rw [replied]
    generalize app.controller.handleInput command s = out at *
    obtain ⟨outcome, s'⟩ := out
    cases outcome with
    | ok response => exact ⟨rfl, shown, after⟩
    | error exc => exact ⟨rfl, shown, after⟩

/-- The shell prints what the assistant answers to the commands, between its greeting and its
farewell, and leaves the tasks that the assistant is left with. -/
theorem shell_refines_assistant (outside : ω) (inputs : List ShellInput) :
    (runShell app.controller inputs (app.initialState outside)).outputs =
        "APCOS CLI ready. Type 'help' for commands." ::
          (observations (shellStep (manner app)) (shellAnswer (manner app)) newcomer
            (shellHearings app outside inputs) ++
          ((farewell (receiveLine app.platform.py) inputs).map Prod.fst).toList) ∧
      view app (runShell app.controller inputs (app.initialState outside)).state =
        run (shellStep (manner app)) newcomer (shellHearings app outside inputs) := by
  have simulated (s : SessionState (AppOutside ω)) (command : String) (kept : Kept app s) :=
    answerCommand_simulated documented kept command
  obtain ⟨printed, left⟩ := serve_translated (receiveLine app.platform.py)
    (fun a heard => [shellAnswer (manner app) a heard])
    (fun s command kept => (simulated s command kept).2.2)
    (fun s command kept => (simulated s command kept).2.1)
    (fun s command kept => congrArg (fun answer => [answer]) (simulated s command kept).1)
    (app.initialState outside) (kept_start outside) inputs
  rw [flatten_observations_singleton] at printed
  exact ⟨congrArg ("APCOS CLI ready. Type 'help' for commands." :: ·) printed, left⟩

end

/-! ## Voice loop -/

/-- What a poll brings: nothing for the assistant, or a voice and what it says. A voice that
says nothing is silent. -/
inductive Overheard where
  | nothing (outcome : Except Exc (Option String))
  | said (identity : IdentityContext) (heard : Heard)

section
variable (app : AppContainer ω)

def audioOverheard (s : SessionState (AppOutside ω)) (audio : List UInt8) : Overheard :=
  if audio = [] then .nothing (.ok (some noSpeech))
  else
    match resolveVoiceIdentity app.platform.py audio "" with
    | .error exc => .nothing (.error exc)
    | .ok identity => .said identity (heardText app (clockAt app s) (strip (decodePayload audio)))

def overheard (triggerPhrase : String) (s : SessionState (AppOutside ω)) (poll : Poll) :
    Overheard :=
  match poll.event with
  | .error exc => .nothing (.error exc)
  | .ok event =>
    if !listen app.platform.py triggerPhrase event then .nothing (.ok none)
    else
      match poll.audio with
      | .error _ => .nothing (.ok (some internalError))
      | .ok audio => audioOverheard app s audio

def voiceHearings (triggerPhrase : String) (outside : ω) (inputs : List VoiceInput) :
    List Overheard :=
  observations (fun s poll => (runOnce app.controller triggerPhrase poll s).2)
    (overheard app triggerPhrase) (app.initialState outside) (requests receivePoll inputs)

end

/-- The assistant takes what is said under the identity of the voice that says it. -/
def attend (m : Manner) (a : Assistant) : Overheard → Assistant
  | .nothing _ => a
  | .said identity heard => (a.step m (.assigned identity)).step m heard

def voiceReply : Reply → String
  | .prompt => noSpeech
  | reply => spoken reply.text

def voiceOutcome (m : Manner) (a : Assistant) : Overheard → Except Exc (Option String)
  | .nothing outcome => outcome
  | .said identity heard => .ok (some (voiceReply ((a.step m (.assigned identity)).reply m heard)))

/-- The voice says what the assistant replies. -/
theorem voiceReply_of_text {m : Manner} {a : Assistant} {heard : Heard}
    {outcome : Except Exc String} (loud : heard ≠ .silence)
    (text : (a.reply m heard).text = some outcome) :
    voiceReply (a.reply m heard) = spoken (some outcome) := by
  rw [← text]
  cases replied : a.reply m heard with
  | prompt =>
    cases heard with
    | silence => exact absurd rfl loud
    | command command =>
      simp only [Assistant.reply, Assistant.hear, Assistant.obey] at replied
      split_ifs at replied
      cases performed : a.board.perform m.fold command <;> rw [performed] at replied <;>
        cases replied
    | strategy advice =>
      simp only [Assistant.reply, Assistant.hear] at replied
      split at replied <;> cases replied
    | _ => cases replied
  | _ => rfl

section
variable {app : AppContainer ω}

theorem heardText_loud (current : DateTime) {text : String} (visible : text ≠ "") :
    heardText app current text ≠ .silence := by
  intro silent
  rw [heardText, if_neg visible] at silent
  split at silent
  · cases silent
  · cases silent
  · split at silent
    · cases silent
    · unfold heardCommand at silent
      split at silent <;> cases silent

variable (documented : Documented app.platform)
include documented

/-- A payload is answered as the assistant answers the voice in it. -/
theorem handleAudio_simulated {s : SessionState (AppOutside ω)} (kept : Kept app s)
    (audio : List UInt8) :
    (handleAudio app.controller audio s).1 =
        voiceOutcome (manner app) (view app s) (audioOverheard app s audio) ∧
      view app (handleAudio app.controller audio s).2 =
        attend (manner app) (view app s) (audioOverheard app s audio) ∧
      Kept app (handleAudio app.controller audio s).2 := by
  have py_eq : app.controller.py = app.platform.py := rfl
  unfold handleAudio audioOverheard
  rw [py_eq]
  by_cases empty : audio = []
  · rw [if_pos empty, if_pos empty]
    exact ⟨rfl, rfl, kept⟩
  rw [if_neg empty, if_neg empty]
  cases resolved : resolveVoiceIdentity app.platform.py audio "" with
  | error exc => exact ⟨rfl, rfl, kept⟩
  | ok identity =>
    dsimp only
    have assigned := kept_step documented s (.setIdentity identity) kept
    simp only [sessionStep] at assigned
    by_cases blank : strip (decodePayload audio) = ""
    · rw [if_pos blank, blank]
      exact ⟨rfl, rfl, assigned⟩
    · rw [if_neg blank]
      obtain ⟨replied, shown, -⟩ := handleInput_simulated documented assigned.legible
        (strip (decodePayload audio))
      have after := kept_step documented _ (.handleInput (strip (decodePayload audio))) assigned
      rw [strip_strip] at replied shown
      have clock : clockAt app (InteractionController.setIdentity identity s) = clockAt app s := rfl
      have told : view app (InteractionController.setIdentity identity s) =
        (view app s).step (manner app) (.assigned identity) := rfl
      rw [clock, told] at replied shown
      have answer := voiceReply_of_text (heardText_loud _ blank) replied
      simp only [sessionStep] at after
      simp only [voiceOutcome, attend, answer]
      generalize app.controller.handleInput (strip (decodePayload audio))
        (InteractionController.setIdentity identity s) = out at *
      obtain ⟨outcome, s'⟩ := out
      cases outcome with
      | ok response => exact ⟨rfl, shown, after⟩
      | error exc => exact ⟨rfl, shown, after⟩

/-- A poll is answered as the assistant answers what was overheard. -/
theorem runOnce_simulated (triggerPhrase : String) {s : SessionState (AppOutside ω)}
    (kept : Kept app s) (poll : Poll) :
    (runOnce app.controller triggerPhrase poll s).1 =
        voiceOutcome (manner app) (view app s) (overheard app triggerPhrase s poll) ∧
      view app (runOnce app.controller triggerPhrase poll s).2 =
        attend (manner app) (view app s) (overheard app triggerPhrase s poll) ∧
      Kept app (runOnce app.controller triggerPhrase poll s).2 := by
  have py_eq : app.controller.py = app.platform.py := rfl
  unfold runOnce overheard
  rw [py_eq]
  cases poll.event with
  | error exc => exact ⟨rfl, rfl, kept⟩
  | ok event =>
    dsimp only
    cases listen app.platform.py triggerPhrase event with
    | false => exact ⟨rfl, rfl, kept⟩
    | true =>
      simp only [Bool.not_true, Bool.false_eq_true, if_false]
      cases poll.audio with
      | error exc => exact ⟨rfl, rfl, kept⟩
      | ok audio => exact handleAudio_simulated documented kept audio

/-- The voice loop says what the assistant answers to the voices, pausing after each poll, and
leaves the tasks that the assistant is left with. -/
theorem voice_loop_refines_assistant (triggerPhrase : String) (outside : ω)
    (inputs : List VoiceInput) :
    (runVoiceLoop app.controller triggerPhrase inputs (app.initialState outside)).outputs =
        .output "APCOS Voice ready. Waiting for wake word." ::
          ((observations (attend (manner app))
              (fun a heard => iterate (voiceOutcome (manner app) a heard)) newcomer
              (voiceHearings app triggerPhrase outside inputs)).flatten ++
            ((farewell receivePoll inputs).map Prod.fst).toList) ∧
      view app (runVoiceLoop app.controller triggerPhrase inputs (app.initialState outside)).state =
        run (attend (manner app)) newcomer (voiceHearings app triggerPhrase outside inputs) := by
  have simulated (s : SessionState (AppOutside ω)) (poll : Poll) (kept : Kept app s) :=
    runOnce_simulated documented triggerPhrase kept poll
  obtain ⟨done, left⟩ := serve_translated receivePoll
    (fun a heard => iterate (voiceOutcome (manner app) a heard))
    (fun s poll kept => (simulated s poll kept).2.2)
    (fun s poll kept => (simulated s poll kept).2.1)
    (fun s poll kept => congrArg iterate (simulated s poll kept).1)
    (app.initialState outside) (kept_start outside) inputs
  exact ⟨congrArg (LoopAction.output "APCOS Voice ready. Waiting for wake word." :: ·) done, left⟩

end

/-! ## Whose voice matters -/

def ownerVoice : Overheard → Bool
  | .nothing _ => false
  | .said identity _ => identity.tier = .owner

/-- Of the commands that others may give, none is ever carried out. -/
theorem bystander_step (m : Manner) {a : Assistant} (ordered : a.board.Ordered)
    (bystander : a.identity.tier ≠ .owner) (heard : Heard) :
    (a.step m heard).board = a.board := by
  rcases hear_cases m a heard with ⟨same, -⟩ | ⟨command, -, permitted, -, carried, -⟩
  · exact same
  · have member : ∃ permission, command.permission = some permission ∧
        permission ∈ permissions a.identity.tier := by
      unfold Assistant.mayPerform at permitted
      cases asked : command.permission with
      | none =>
        rw [asked] at permitted
        cases permitted
      | some permission =>
        rw [asked] at permitted
        refine ⟨permission, rfl, ?_⟩
        simpa using (Bool.and_eq_true_iff.mp permitted).2
    obtain ⟨permission, asked, member⟩ := member
    have completes : command.permission = some .complete := by
      cases tier : a.identity.tier with
      | owner => exact absurd tier bystander
      | family =>
        rw [tier] at member
        rcases List.mem_pair.mp member with rfl | rfl
        · exact asked
        · cases command <;> cases asked
      | guest =>
        rw [tier] at member
        cases List.mem_singleton.mp member
        cases command <;> cases asked
    cases command with
    | complete name => exact (carried_not_complete ordered carried).elim
    | schedule title dueAt => cases completes
    | cancel name => cases completes
    | unrecognised => cases completes

theorem attend_ordered (m : Manner) (a : Assistant) (overheard : Overheard)
    (ordered : a.board.Ordered) : (attend m a overheard).board.Ordered := by
  cases overheard with
  | nothing outcome => exact ordered
  | said identity heard => exact step_ordered m _ heard ordered

theorem attend_bystander (m : Manner) {a : Assistant} (ordered : a.board.Ordered)
    {overheard : Overheard} (bystander : ownerVoice overheard = false) :
    (attend m a overheard).board = a.board := by
  cases overheard with
  | nothing outcome => rfl
  | said identity heard =>
    exact bystander_step m (a := a.step m (.assigned identity)) ordered
      (of_decide_eq_false bystander) heard

/-- The board after a voice depends on the board before it, and on no earlier identity. -/
theorem attend_congr (m : Manner) {a a' : Assistant} (same : a.board = a'.board)
    (overheard : Overheard) : (attend m a overheard).board = (attend m a' overheard).board := by
  cases overheard with
  | nothing outcome => exact same
  | said identity heard =>
    have told : a.step m (.assigned identity) = a'.step m (.assigned identity) :=
      congrArg (Assistant.mk identity) same
    rw [attend, attend, told]

theorem run_owner_voices (m : Manner) (overheard : List Overheard) {a a' : Assistant}
    (same : a.board = a'.board) (ordered : a.board.Ordered) :
    (run (attend m) a overheard).board =
      (run (attend m) a' (overheard.filter ownerVoice)).board := by
  induction overheard generalizing a a' with
  | nil => exact same
  | cons first rest ih =>
    rw [run_cons]
    cases owner : ownerVoice first with
    | true =>
      rw [List.filter_cons_of_pos owner, run_cons]
      exact ih (attend_congr m same first) (attend_ordered m a first ordered)
    | false =>
      rw [List.filter_cons_of_neg (by rw [owner]; exact Bool.false_ne_true)]
      exact ih ((attend_bystander m ordered owner).trans same) (attend_ordered m a first ordered)

section
variable {app : AppContainer ω}

/-- An owner's voice is one whose audio carries no marker of another tier. -/
theorem overheard_owner {triggerPhrase : String} {s : SessionState (AppOutside ω)} {poll : Poll}
    (owner : ownerVoice (overheard app triggerPhrase s poll) = true) :
    ∃ audio, poll.audio = .ok audio ∧
      contains (app.platform.py.lower (decodeIgnore audio)) "tier:guest" = false ∧
      contains (app.platform.py.lower (decodeIgnore audio)) "tier:family" = false := by
  unfold overheard at owner
  split at owner
  · cases owner
  · split_ifs at owner
    · cases owner
    · split at owner
      · cases owner
      · rename_i audio captured
        unfold audioOverheard at owner
        split_ifs at owner with empty
        · cases owner
        · obtain ⟨identity, resolved, tier⟩ := resolveVoiceIdentity_returns app.platform.py audio ""
          rw [resolved] at owner
          have payload : voicePayload app.platform.py audio "" =
              app.platform.py.lower (decodeIgnore audio) := by
            rw [voicePayload, if_pos rfl, if_neg empty, List.nil_append, String.intercalate_singleton]
          have named : voiceTier (app.platform.py.lower (decodeIgnore audio)) = .owner := by
            rw [← payload, ← tier]
            exact of_decide_eq_true owner
          unfold voiceTier at named
          split_ifs at named with guest family
          exact ⟨audio, captured, Bool.eq_false_of_not_eq_true guest,
            Bool.eq_false_of_not_eq_true family⟩

/-- In the voice loop the tasks change only by a command whose own audio carries no marker of
another tier, and they are those that such commands alone would leave: what others say, logins
among it, is without effect. -/
theorem only_owner_voices_matter (documented : Documented app.platform) (triggerPhrase : String)
    (outside : ω) (inputs : List VoiceInput) :
    (∀ before poll after, requests receivePoll inputs = before ++ poll :: after →
      ∀ s, s = run (fun s poll => (runOnce app.controller triggerPhrase poll s).2)
          (app.initialState outside) before →
        (view app (runOnce app.controller triggerPhrase poll s).2).board ≠ (view app s).board →
          ∃ audio, poll.audio = .ok audio ∧
            contains (app.platform.py.lower (decodeIgnore audio)) "tier:guest" = false ∧
            contains (app.platform.py.lower (decodeIgnore audio)) "tier:family" = false) ∧
      (view app
          (runVoiceLoop app.controller triggerPhrase inputs (app.initialState outside)).state).board =
        (run (attend (manner app)) newcomer
          ((voiceHearings app triggerPhrase outside inputs).filter ownerVoice)).board := by
  refine ⟨?_, ?_⟩
  · rintro before poll after - s rfl changed
    have preserved (s : SessionState (AppOutside ω)) (poll : Poll) (kept : Kept app s) :
        Kept app (runOnce app.controller triggerPhrase poll s).2 :=
      (runOnce_simulated documented triggerPhrase kept poll).2.2
    have kept := run_invariant preserved _ (kept_start outside) before
    rw [(runOnce_simulated documented triggerPhrase kept poll).2.1] at changed
    by_contra silent
    exact changed (attend_bystander (manner app) kept.ordered
      (Bool.eq_false_of_not_eq_true fun owner => silent (overheard_owner owner)))
  · rw [(voice_loop_refines_assistant documented triggerPhrase outside inputs).2]
    exact run_owner_voices (manner app) _ rfl ordered_empty

end

/-! ## Loops in the third year -/

def meetingLines : List ShellInput :=
  [.line "schedule meeting tomorrow", .line " HELP ", .line "exit", .line "cancel meeting"]

theorem shell_refines_assistant_meeting :
    (runShell thirdYearApp.controller meetingLines (thirdYearApp.initialState 0)).outputs =
        "APCOS CLI ready. Type 'help' for commands." ::
          (observations (shellStep (manner thirdYearApp)) (shellAnswer (manner thirdYearApp))
            newcomer (shellHearings thirdYearApp 0 meetingLines) ++
          ((farewell (receiveLine thirdYearApp.platform.py) meetingLines).map Prod.fst).toList) ∧
      view thirdYearApp
          (runShell thirdYearApp.controller meetingLines (thirdYearApp.initialState 0)).state =
        run (shellStep (manner thirdYearApp)) newcomer
          (shellHearings thirdYearApp 0 meetingLines) :=
  shell_refines_assistant thirdYear_documented 0 meetingLines

/-- A guest logs in as the owner, and then tries to schedule a meeting. -/
def guestPolls : List VoiceInput :=
  [.poll ⟨.ok (some "hey apcos"), .ok "tier:guest text:login owner".toUTF8.toList⟩,
    .poll ⟨.ok (some "hey apcos"), .ok "tier:guest text:schedule meeting tomorrow".toUTF8.toList⟩,
    .stopCondition]

theorem voice_loop_refines_assistant_guest :
    (runVoiceLoop thirdYearApp.controller "hey apcos" guestPolls
          (thirdYearApp.initialState 0)).outputs =
        .output "APCOS Voice ready. Waiting for wake word." ::
          ((observations (attend (manner thirdYearApp))
              (fun a heard => iterate (voiceOutcome (manner thirdYearApp) a heard)) newcomer
              (voiceHearings thirdYearApp "hey apcos" 0 guestPolls)).flatten ++
            ((farewell receivePoll guestPolls).map Prod.fst).toList) ∧
      view thirdYearApp (runVoiceLoop thirdYearApp.controller "hey apcos" guestPolls
          (thirdYearApp.initialState 0)).state =
        run (attend (manner thirdYearApp)) newcomer
          (voiceHearings thirdYearApp "hey apcos" 0 guestPolls) :=
  voice_loop_refines_assistant thirdYear_documented "hey apcos" 0 guestPolls

theorem only_owner_voices_matter_guest :
    (∀ before poll after, requests receivePoll guestPolls = before ++ poll :: after →
      ∀ s, s = run (fun s poll => (runOnce thirdYearApp.controller "hey apcos" poll s).2)
          (thirdYearApp.initialState 0) before →
        (view thirdYearApp (runOnce thirdYearApp.controller "hey apcos" poll s).2).board ≠
            (view thirdYearApp s).board →
          ∃ audio, poll.audio = .ok audio ∧
            contains (thirdYearApp.platform.py.lower (decodeIgnore audio)) "tier:guest" = false ∧
            contains (thirdYearApp.platform.py.lower (decodeIgnore audio)) "tier:family" = false) ∧
      (view thirdYearApp (runVoiceLoop thirdYearApp.controller "hey apcos" guestPolls
          (thirdYearApp.initialState 0)).state).board =
        (run (attend (manner thirdYearApp)) newcomer
          ((voiceHearings thirdYearApp "hey apcos" 0 guestPolls).filter ownerVoice)).board :=
  only_owner_voices_matter thirdYear_documented "hey apcos" 0 guestPolls

end Apcos.Guarantees.LoopRefinement
