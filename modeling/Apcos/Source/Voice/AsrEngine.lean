import Apcos.Source.Voice.ModelManager
import Apcos.Source.Voice.TranscriptionWorker

/-!
# Real ASR engine

voice/asr_engine_real.py on a model manager that others use too. Each call of `transcribe` has a
thread of its own that may outlive it: the caller gives up when the join times out. Every access
to the manager, the answer of the model and the return of the join are one step each. What the
model answers is the input of its step. A thread ends with its `mark_transcription_end`.
-/
namespace Apcos.Source.Voice

open Apcos.Source.Python

/-- Where the thread of a call is in `_do_transcribe`: before the mark, in the model, or with the
text in `result`. -/
inductive RegionPoint (α : Type) where
  | unstarted
  | starting (model : Option α)
  | transcribing (model : Option α)
  | answered (text : String)
  | ended (text : String)
  deriving DecidableEq

/-- Between `mark_transcription_start` and `mark_transcription_end`. -/
def RegionPoint.isActive {α : Type} : RegionPoint α → Bool
  | transcribing _ | answered _ => true
  | unstarted | starting _ | ended _ => false

inductive CallerPoint where
  | joining
  | returned (text : String)
  | raised (e : Exc)
  deriving DecidableEq

structure TranscribeCall (α : Type) where
  audio : List UInt8
  caller : CallerPoint
  region : RegionPoint α

/-- `world` is the state of the loader; `calls` are all calls ever made. -/
structure AsrEngine (ω α : Type) where
  manager : ModelManager α
  world : ω
  calls : List (TranscribeCall α)

inductive EngineLabel where
  | transcribe (audio : List UInt8) (now : PyFloat)
  | markStart (call : Nat) (now : PyFloat)
  /-- `_transcribe_with_model` returns or raises. -/
  | answer (call : Nat) (text : Except Exc String)
  | markEnd (call : Nat) (now : PyFloat)
  /-- The join of a call returns, and its thread is tested. -/
  | join (call : Nat) (timedOut : Bool)
  /-- The other users of the manager: governor, sleep manager and session. -/
  | unloadAsrModel
  | unloadIfIdle (idleSeconds : PyFloat) (force : Bool) (now : PyFloat)
  | downgradeModel
  | upgradeModel
  deriving DecidableEq

namespace AsrEngine

variable {ω α : Type}

def create (world : ω) : AsrEngine ω α := ⟨.create, world, []⟩

def newCall (s : AsrEngine ω α) (call : TranscribeCall α) : AsrEngine ω α :=
  { s with calls := s.calls ++ [call] }

/-- `transcribe` up to the join. -/
def transcribe (loader : ModelLoader ω α) (sizes : ObjectSizes α) (audio : List UInt8)
    (now : PyFloat) (s : AsrEngine ω α) : AsrEngine ω α :=
  if audio = [] then s.newCall ⟨audio, .returned "", .unstarted⟩
  else
    match ModelManager.loadAsrModel loader sizes now (s.manager, s.world) with
    | (.error e, manager, world) =>
      { s with manager, world }.newCall ⟨audio, .raised e, .unstarted⟩
    | (.ok model, manager, world) =>
      { s with manager, world }.newCall ⟨audio, .joining, .starting model⟩

def setRegion (s : AsrEngine ω α) (i : Nat) (call : TranscribeCall α) (region : RegionPoint α) :
    AsrEngine ω α :=
  { s with calls := s.calls.set i { call with region } }

def setCaller (s : AsrEngine ω α) (i : Nat) (call : TranscribeCall α) (caller : CallerPoint) :
    AsrEngine ω α :=
  { s with calls := s.calls.set i { call with caller } }

/-- A step that a thread is not ready for is not taken. -/
def markStart (i : Nat) (now : PyFloat) (s : AsrEngine ω α) : AsrEngine ω α :=
  match s.calls[i]? with
  | some call =>
    match call.region with
    | .starting model =>
      { s with manager := s.manager.markTranscriptionStart now }.setRegion i call
        (.transcribing model)
    | .unstarted | .transcribing _ | .answered _ | .ended _ => s
  | none => s

def answer (i : Nat) (text : Except Exc String) (s : AsrEngine ω α) : AsrEngine ω α :=
  match s.calls[i]? with
  | some call =>
    match call.region with
    | .transcribing _ =>
      match text with
      | .ok text => s.setRegion i call (.answered text)
      | .error _ => s.setRegion i call (.answered "")
    | .unstarted | .starting _ | .answered _ | .ended _ => s
  | none => s

def markEnd (i : Nat) (now : PyFloat) (s : AsrEngine ω α) : AsrEngine ω α :=
  match s.calls[i]? with
  | some call =>
    match call.region with
    | .answered text =>
      { s with manager := s.manager.markTranscriptionEnd now }.setRegion i call (.ended text)
    | .unstarted | .starting _ | .transcribing _ | .ended _ => s
  | none => s

/-- The rest of `transcribe`. -/
def join (i : Nat) (timedOut : Bool) (s : AsrEngine ω α) : AsrEngine ω α :=
  match s.calls[i]? with
  | some call =>
    match call.caller, call.region with
    | .joining, .ended text => s.setCaller i call (.returned (normalizeText text))
    | .joining, _ => if timedOut then s.setCaller i call (.returned "") else s
    | .returned _, _ | .raised _, _ => s
  | none => s

def step (fp : Arithmetic) (loader : ModelLoader ω α) (sizes : ObjectSizes α) (s : AsrEngine ω α) :
    EngineLabel → AsrEngine ω α
  | .transcribe audio now => s.transcribe loader sizes audio now
  | .markStart call now => s.markStart call now
  | .answer call text => s.answer call text
  | .markEnd call now => s.markEnd call now
  | .join call timedOut => s.join call timedOut
  | .unloadAsrModel => { s with manager := s.manager.unloadAsrModel }
  | .unloadIfIdle idleSeconds force now =>
    { s with manager := (s.manager.unloadIfIdle fp idleSeconds force now).2 }
  | .downgradeModel => { s with manager := s.manager.downgradeModel.2 }
  | .upgradeModel => { s with manager := s.manager.upgradeModel.2 }

end AsrEngine

end Apcos.Source.Voice
