import Apcos.Source.Python.Patterns
import Apcos.Source.Voice.AudioStream

/-!
# Wake word

voice/wake_word_engine.py and the part of `run_once` in voice/voice_session.py from
`wait_for_wake` to `read_chunk`, on a stream. Each access to the buffer or to the wake
event is one step of the thread that makes it. A producer pushes pairs, a wake chunk
and then its command chunk, in two calls between which the other threads may step.
-/
namespace Apcos.Source.Voice

open Apcos.Source.Python

/-! ## Wake word engine -/

structure WakeWordEngine where
  triggerPhrase : String
  nonempty : triggerPhrase ≠ ""

namespace WakeWordEngine

def create (py : Runtime) (triggerPhrase : String) : Except Exc WakeWordEngine :=
  let normalized := " ".intercalate (split (strip (py.lower triggerPhrase)))
  if nonempty : normalized ≠ "" then .ok ⟨normalized, nonempty⟩
  else .error ⟨.valueError, "trigger_phrase must not be empty"⟩

def detectTrigger (engine : WakeWordEngine) (py : Runtime) (chunk : List UInt8) : Bool :=
  if chunk = [] then false
  else contains (strip (spacesToBlank (py.lower (decodeIgnore chunk)))) engine.triggerPhrase

end WakeWordEngine

/-- Where the wake thread is in `_run_loop`. -/
inductive WakeThread where
  | polling
  | reading
  | detecting (chunk : Sound)
  deriving DecidableEq

/-- Where the session is in `run_once`: before `wait_for_wake`, before the `clear` in
it, or before `read_chunk`, with the chunk whose signal it cleared. -/
inductive SessionPoint where
  | idle
  | triggered
  | woken (raised : Option Sound)
  deriving DecidableEq

/-- A cycle that got as far as `read_chunk`: whose signal it consumed, what it read. -/
structure Cycle where
  raised : Option Sound
  read : Sound
  deriving DecidableEq

/-- `wakeEvent` is the chunk that raised the wake event, if it is set. `pairs` counts the
pairs begun, `pending` is the command that the producer pushes next. -/
structure Listening where
  stream : AudioStream
  wakeEvent : Option Sound
  thread : WakeThread
  session : SessionPoint
  cycles : List Cycle
  pairs : Nat
  pending : Option (Nat × List UInt8)

inductive ListenEvent where
  | pushWake (wake command : List UInt8)
  | pushCommand
  /-- The loop condition of the wake thread and its test of the wake event. -/
  | poll
  | read (sourced : List UInt8)
  | detect
  /-- `wait` of the wake event returns. -/
  | wait
  | clear
  | readChunk (sourced : List UInt8)

namespace Listening

/-- Both threads are at the top of their loops. -/
def create (stream : AudioStream) : Listening := ⟨stream.start, none, .polling, .idle, [], 0, none⟩

def pushWake (wake command : List UInt8) (s : Listening) : Listening :=
  match s.pending with
  | some _ => s
  | none =>
    { s with
      stream := s.stream.pushChunk ⟨wake, .wake s.pairs command⟩
      pairs := s.pairs + 1
      pending := some (s.pairs, command) }

def pushCommand (s : Listening) : Listening :=
  match s.pending with
  | none => s
  | some (pair, command) =>
    { s with stream := s.stream.pushChunk ⟨command, .command pair⟩, pending := none }

def poll (s : Listening) : Listening :=
  match s.thread, s.wakeEvent with
  | .polling, none => { s with thread := .reading }
  | _, _ => s

def read (sourced : List UInt8) (s : Listening) : Listening :=
  match s.thread with
  | .reading =>
    let (chunk, stream) := s.stream.readChunk sourced
    { s with stream, thread := .detecting chunk }
  | _ => s

def detect (engine : WakeWordEngine) (py : Runtime) (s : Listening) : Listening :=
  match s.thread with
  | .detecting chunk =>
    if engine.detectTrigger py chunk.audio then
      { s with wakeEvent := some chunk, thread := .polling }
    else { s with thread := .polling }
  | _ => s

def wait (s : Listening) : Listening :=
  match s.session, s.wakeEvent with
  | .idle, some _ => { s with session := .triggered }
  | _, _ => s

def clear (s : Listening) : Listening :=
  match s.session with
  | .triggered => { s with wakeEvent := none, session := .woken s.wakeEvent }
  | _ => s

/-- The rest of the cycle touches neither the stream nor the event. -/
def readChunk (sourced : List UInt8) (s : Listening) : Listening :=
  match s.session with
  | .woken raised =>
    let (chunk, stream) := s.stream.readChunk sourced
    { s with stream, session := .idle, cycles := s.cycles ++ [⟨raised, chunk⟩] }
  | _ => s

def step (engine : WakeWordEngine) (py : Runtime) (s : Listening) : ListenEvent → Listening
  | .pushWake wake command => pushWake wake command s
  | .pushCommand => pushCommand s
  | .poll => poll s
  | .read sourced => read sourced s
  | .detect => detect engine py s
  | .wait => wait s
  | .clear => clear s
  | .readChunk sourced => readChunk sourced s

end Listening

end Apcos.Source.Voice
