import Apcos.Lib.Loop
import Apcos.Source.Voice.VoiceSession

/-!
# Voice loop

`VoiceSession` of voice/voice_session.py, voice/voice_controller.py, voice/wake_word.py and
`_decode_payload` of voice/asr_engine.py. What the wake-word source and the microphone
return or raise is the input of an iteration. The two ways to leave the loop are events of
their own: the stop condition, and a keyboard interrupt while the session waits for its
devices. The profile of the transcriber is left out, and the output function does not raise.
-/
namespace Apcos.Source.Voice

open Apcos.Lib
open Apcos.Source.Python
open Apcos.Source.Session

/-- `WakeWordDetector.listen`: `triggerPhrase` is the normalized phrase. -/
def listen (py : Runtime) (triggerPhrase : String) : Option String → Bool
  | none => false
  | some event => contains (" ".intercalate (split (strip (py.lower event)))) triggerPhrase

/-! ## Transcriber -/

/-- `b"text:"`. -/
def textMarker : List UInt8 := [0x74, 0x65, 0x78, 0x74, 0x3a]

/-- The bytes behind the first marker. -/
def afterMarker : List UInt8 → Option (List UInt8)
  | [] => none
  | byte :: rest =>
    if textMarker.isPrefixOf (byte :: rest) then some ((byte :: rest).drop textMarker.length)
    else afterMarker rest

def decodePayload (audio : List UInt8) : String :=
  match afterMarker audio with
  | none => ""
  | some raw => strip (decodeIgnore raw)

/-! ## Session -/

structure Poll where
  event : Except Exc (Option String)
  audio : Except Exc (List UInt8)

section
variable {ω : Type} (controller : InteractionController ω)

/-- `run_once` from the capture on. -/
def handleAudio (audio : List UInt8) (s : SessionState ω) :
    Except Exc (Option String) × SessionState ω :=
  if audio = [] then (.ok (some noSpeech), s)
  else
    match resolveVoiceIdentity controller.py audio "" with
    | .error exc => (.error exc, s)
    | .ok identity =>
      let s := InteractionController.setIdentity identity s
      let transcript := strip (decodePayload audio)
      if transcript = "" then (.ok (some noSpeech), s)
      else
        match controller.handleInput transcript s with
        | (.ok response, s) => (.ok (some response), s)
        | (.error _, s) => (.ok (some internalError), s)

/-- `run_once`. -/
def runOnce (triggerPhrase : String) (poll : Poll) (s : SessionState ω) :
    Except Exc (Option String) × SessionState ω :=
  match poll.event with
  | .error exc => (.error exc, s)
  | .ok event =>
    if !listen controller.py triggerPhrase event then (.ok none, s)
    else
      match poll.audio with
      | .error _ => (.ok (some internalError), s)
      | .ok audio => handleAudio controller audio s

end

/-! ## Loop -/

inductive VoiceInput where
  | stopCondition
  | keyboardInterrupt
  | poll (poll : Poll)

/-- Calls of `output_func` and `sleep_func`. -/
inductive LoopAction where
  | output (text : String)
  | sleep
  deriving DecidableEq, Repr

def receivePoll : VoiceInput → Except LoopAction Poll
  | .stopCondition => .error (.output "Exiting APCOS voice loop.")
  | .keyboardInterrupt =>
    .error (.output "\nVoice session interrupted. Exiting APCOS voice loop.")
  | .poll poll => .ok poll

/-- What an iteration does with the outcome of `run_once`. -/
def iterate : Except Exc (Option String) → List LoopAction
  | .error _ => [.output internalError, .sleep]
  | .ok none => [.sleep]
  | .ok (some response) => if response = "" then [.sleep] else [.output response, .sleep]

/-- `run_voice_loop`. -/
def runVoiceLoop {ω : Type} (controller : InteractionController ω) (triggerPhrase : String)
    (inputs : List VoiceInput) (s : SessionState ω) :
    Served (SessionState ω) VoiceInput LoopAction :=
  let served := serve receivePoll (fun s poll => (runOnce controller triggerPhrase poll s).2)
    (fun s poll => iterate (runOnce controller triggerPhrase poll s).1) s inputs
  { served with outputs := .output "APCOS Voice ready. Waiting for wake word." :: served.outputs }

end Apcos.Source.Voice
