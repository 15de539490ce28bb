import Mathlib.Tactic.Common

/-!
# Audio stream

voice/audio_stream.py. A call is one step, taken under the lock. A chunk carries where
it comes from; no step reads it. A push makes room first, so the deque's own bound
drops nothing.
-/
namespace Apcos.Source.Voice

inductive Origin where
  | wake (pair : Nat) (command : List UInt8)
  | command (pair : Nat)
  /-- The answer of the stream's source, or no audio. -/
  | source
  deriving DecidableEq

structure Sound where
  audio : List UInt8
  origin : Origin
  deriving DecidableEq

structure AudioStream where
  chunkSize : Nat
  maxBufferChunks : Nat
  buffer : List Sound
  running : Bool
  droppedChunks : Nat
  sized : 1 ≤ chunkSize
  bounded : 1 ≤ maxBufferChunks

namespace AudioStream

def create (chunkSize maxBufferChunks : Nat) (sized : 1 ≤ chunkSize)
    (bounded : 1 ≤ maxBufferChunks) : AudioStream :=
  ⟨chunkSize, maxBufferChunks, [], false, 0, sized, bounded⟩

def start (s : AudioStream) : AudioStream := { s with running := true }

def stop (s : AudioStream) : AudioStream := { s with running := false, buffer := [] }

/-- `chunk[:chunk_size]`. -/
def cut (s : AudioStream) (chunk : Sound) : Sound :=
  { chunk with audio := chunk.audio.take s.chunkSize }

def pushChunk (s : AudioStream) (chunk : Sound) : AudioStream :=
  if chunk.audio = [] then s
  else if !s.running then s
  else if s.buffer.length = s.maxBufferChunks then
    { s with buffer := s.buffer.tail ++ [s.cut chunk], droppedChunks := s.droppedChunks + 1 }
  else { s with buffer := s.buffer ++ [s.cut chunk] }

/-- `sourced` is what the source answers, no audio if there is none or it fails. -/
def readChunk (s : AudioStream) (sourced : List UInt8) : Sound × AudioStream :=
  if !s.running then (⟨[], .source⟩, s)
  else
    match s.buffer with
    | chunk :: rest => (chunk, { s with buffer := rest })
    | [] => (s.cut ⟨sourced, .source⟩, s)

theorem pushChunk_of_empty {s : AudioStream} {chunk : Sound} (empty : chunk.audio = []) :
    s.pushChunk chunk = s := if_pos empty

theorem pushChunk_of_stopped {s : AudioStream} (chunk : Sound) (stopped : ¬s.running = true) :
    s.pushChunk chunk = s := by
  simp [pushChunk, stopped]

theorem pushChunk_of_full {s : AudioStream} {chunk : Sound} (given : chunk.audio ≠ [])
    (running : s.running = true) (full : s.buffer.length = s.maxBufferChunks) :
    s.pushChunk chunk = { s with
      buffer := s.buffer.tail ++ [s.cut chunk]
      droppedChunks := s.droppedChunks + 1 } := by
  rw [pushChunk, if_neg given, if_neg (by simp [running]), if_pos full]

theorem pushChunk_of_room {s : AudioStream} {chunk : Sound} (given : chunk.audio ≠ [])
    (running : s.running = true) (room : s.buffer.length < s.maxBufferChunks) :
    s.pushChunk chunk = { s with buffer := s.buffer ++ [s.cut chunk] } := by
  rw [pushChunk, if_neg given, if_neg (by simp [running]), if_neg (by omega)]

theorem readChunk_of_stopped {s : AudioStream} (sourced : List UInt8)
    (stopped : s.running = false) : s.readChunk sourced = (⟨[], .source⟩, s) := by
  simp [readChunk, stopped]

theorem readChunk_empty {s : AudioStream} (running : s.running = true) (empty : s.buffer = [])
    (sourced : List UInt8) : s.readChunk sourced = (s.cut ⟨sourced, .source⟩, s) := by
  simp only [readChunk, running, empty, Bool.not_true, Bool.false_eq_true, if_false]

theorem readChunk_cons {s : AudioStream} {chunk : Sound} {rest : List Sound}
    (running : s.running = true) (buffered : s.buffer = chunk :: rest) (sourced : List UInt8) :
    s.readChunk sourced = (chunk, { s with buffer := rest }) := by
  simp only [readChunk, running, buffered, Bool.not_true, Bool.false_eq_true, if_false]

end AudioStream

end Apcos.Source.Voice
