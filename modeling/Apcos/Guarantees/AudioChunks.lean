import Apcos.Lib.Runs
import Apcos.Source.Voice.AudioStream

/-!
# Audio chunks

A stream without a source gives out only what was pushed into it, cut to size and in
order. Overflow takes the oldest chunk and a stop takes them all; together with the
chunks given out and those still there they are all that was pushed.
-/
namespace Apcos.Guarantees.AudioChunks

open Apcos.Lib
open Apcos.Source.Voice

/-- Calls on a stream without a source. -/
inductive StreamCall where
  | start
  | stop
  | pushChunk (chunk : Sound)
  | readChunk
  deriving DecidableEq

/-- `pushed` are the chunks pushed while running, `returned` those a read returned, and
`discarded` counts the chunks a stop cleared. -/
structure StreamState where
  stream : AudioStream
  pushed : List Sound
  returned : List Sound
  discarded : Nat

namespace StreamState

def create (chunkSize maxBufferChunks : Nat) (sized : 1 ≤ chunkSize)
    (bounded : 1 ≤ maxBufferChunks) : StreamState :=
  ⟨.create chunkSize maxBufferChunks sized bounded, [], [], 0⟩

def step (s : StreamState) : StreamCall → StreamState
  | .start => { s with stream := s.stream.start }
  | .stop =>
    { s with
      stream := s.stream.stop
      discarded := s.discarded + s.stream.buffer.length }
  | .pushChunk chunk =>
    { s with
      stream := s.stream.pushChunk chunk
      pushed := if s.stream.running then s.pushed ++ [chunk] else s.pushed }
  | .readChunk =>
    { s with
      stream := (s.stream.readChunk []).2
      returned := s.returned ++ [(s.stream.readChunk []).1] }

end StreamState

def nonEmpty (chunks : List Sound) : List Sound := chunks.filter (·.audio ≠ [])

/-- Chunks are conserved and keep their order. -/
structure Conserved (chunkSize maxBufferChunks : Nat) (s : StreamState) : Prop where
  ordered : (nonEmpty s.returned).Sublist
    ((nonEmpty s.pushed).map fun chunk => { chunk with audio := chunk.audio.take chunkSize })
  bounded : s.stream.buffer.length ≤ maxBufferChunks
  counted : (nonEmpty s.pushed).length = (nonEmpty s.returned).length +
    s.stream.droppedChunks + s.discarded + s.stream.buffer.length

/-- What was returned and what is buffered come in order from what was pushed. -/
structure StreamInvariant (chunkSize maxBufferChunks : Nat) (s : StreamState) : Prop where
  sizes : s.stream.chunkSize = chunkSize ∧ s.stream.maxBufferChunks = maxBufferChunks
  fits : s.stream.buffer.length ≤ s.stream.maxBufferChunks
  filled : ∀ chunk ∈ s.stream.buffer, chunk.audio ≠ []
  ordered : (nonEmpty s.returned ++ s.stream.buffer).Sublist
    ((nonEmpty s.pushed).map s.stream.cut)
  counted : (nonEmpty s.pushed).length = (nonEmpty s.returned).length +
    s.stream.droppedChunks + s.discarded + s.stream.buffer.length

variable {chunkSize maxBufferChunks : Nat}

theorem StreamInvariant.conserved {s : StreamState}
    (invariant : StreamInvariant chunkSize maxBufferChunks s) :
    Conserved chunkSize maxBufferChunks s := by
  obtain ⟨size, bound⟩ := invariant.sizes
  refine ⟨?_, ?_, invariant.counted⟩
  · rw [← size]
    exact (List.sublist_append_left _ _).trans invariant.ordered
  · rw [← bound]
    exact invariant.fits

theorem streamInvariant_create (sized : 1 ≤ chunkSize) (bounded : 1 ≤ maxBufferChunks) :
    StreamInvariant chunkSize maxBufferChunks
      (.create chunkSize maxBufferChunks sized bounded) where
  sizes := ⟨rfl, rfl⟩
  fits := Nat.zero_le _
  filled := fun chunk member => (by cases member)
  ordered := .slnil
  counted := rfl

/-! ## One call -/

theorem nonEmpty_append_of_ne {chunks : List Sound} {chunk : Sound} (given : chunk.audio ≠ []) :
    nonEmpty (chunks ++ [chunk]) = nonEmpty chunks ++ [chunk] := by
  simp [nonEmpty, given]

theorem nonEmpty_append_of_empty (chunks : List Sound) {chunk : Sound}
    (empty : chunk.audio = []) : nonEmpty (chunks ++ [chunk]) = nonEmpty chunks := by
  simp [nonEmpty, empty]

theorem cut_nonempty (stream : AudioStream) {chunk : Sound} (given : chunk.audio ≠ []) :
    (stream.cut chunk).audio ≠ [] := by
  have sized := stream.sized
  intro empty
  rcases List.take_eq_nil_iff.mp empty with zero | nil
  · omega
  · exact given nil

theorem streamInvariant_stop {s : StreamState}
    (invariant : StreamInvariant chunkSize maxBufferChunks s) :
    StreamInvariant chunkSize maxBufferChunks (s.step .stop) where
  sizes := invariant.sizes
  fits := Nat.zero_le _
  filled := fun chunk member => (by cases member)
  ordered := by
    change (nonEmpty s.returned ++ []).Sublist ((nonEmpty s.pushed).map s.stream.cut)
    rw [List.append_nil]
    exact (List.sublist_append_left _ _).trans invariant.ordered
  counted := by
    have counted := invariant.counted
    change (nonEmpty s.pushed).length = (nonEmpty s.returned).length +
      s.stream.droppedChunks + (s.discarded + s.stream.buffer.length) + 0
    omega

/-- A pushed chunk goes to the end of the buffer, of which all or all but the oldest is kept. -/
theorem streamInvariant_pushed {s : StreamState}
    (invariant : StreamInvariant chunkSize maxBufferChunks s) {chunk : Sound}
    (given : chunk.audio ≠ []) {kept : List Sound} (dropped : Nat)
    (tail : kept.Sublist s.stream.buffer) (room : kept.length < s.stream.maxBufferChunks)
    (rest : kept.length + dropped = s.stream.buffer.length) :
    StreamInvariant chunkSize maxBufferChunks { s with
      stream := { s.stream with
        buffer := kept ++ [s.stream.cut chunk]
        droppedChunks := s.stream.droppedChunks + dropped }
      pushed := s.pushed ++ [chunk] } where
  sizes := invariant.sizes
  fits := by
    simp only [List.length_append, List.length_singleton]
    exact room
  filled := by
    intro buffered member
    rcases List.mem_append.mp member with old | new
    · exact invariant.filled buffered (tail.subset old)
    · rw [List.mem_singleton.mp new]
      exact cut_nonempty s.stream given
  ordered := by
    dsimp only
    rw [nonEmpty_append_of_ne given, List.map_append, ← List.append_assoc]
    have before : (nonEmpty s.returned ++ kept).Sublist ((nonEmpty s.pushed).map s.stream.cut) :=
      (List.Sublist.append_left tail _).trans invariant.ordered
    exact before.append (List.Sublist.refl _)
  counted := by
    have counted := invariant.counted
    dsimp only
    rw [nonEmpty_append_of_ne given]
    simp only [List.length_append, List.length_singleton]
    omega

/-- A pushed chunk is the newest one; the oldest makes room for it where the buffer is full. -/
theorem streamInvariant_pushChunk {s : StreamState}
    (invariant : StreamInvariant chunkSize maxBufferChunks s) (chunk : Sound) :
    StreamInvariant chunkSize maxBufferChunks (s.step (.pushChunk chunk)) := by
  by_cases running : s.stream.running = true
  · by_cases empty : chunk.audio = []
    · rw [StreamState.step, AudioStream.pushChunk_of_empty empty, if_pos running]
      refine ⟨invariant.sizes, invariant.fits, invariant.filled, ?_, ?_⟩
      · rw [nonEmpty_append_of_empty s.pushed empty]
        exact invariant.ordered
      · rw [nonEmpty_append_of_empty s.pushed empty]
        exact invariant.counted
    · by_cases full : s.stream.buffer.length = s.stream.maxBufferChunks
      · have bounded := s.stream.bounded
        rw [StreamState.step, AudioStream.pushChunk_of_full empty running full, if_pos running]
        refine streamInvariant_pushed invariant empty 1 (List.tail_sublist _) ?_ ?_
        · rw [List.length_tail]
          omega
        · rw [List.length_tail]
          omega
      · have room : s.stream.buffer.length < s.stream.maxBufferChunks :=
          Nat.lt_of_le_of_ne invariant.fits full
        rw [StreamState.step, AudioStream.pushChunk_of_room empty running room, if_pos running]
        exact streamInvariant_pushed invariant empty 0 (List.Sublist.refl _) room rfl
  · rw [StreamState.step, AudioStream.pushChunk_of_stopped chunk running, if_neg running]
    exact invariant

/-- A read with nothing to return. -/
theorem streamInvariant_nothing {s : StreamState}
    (invariant : StreamInvariant chunkSize maxBufferChunks s) {silence : Sound}
    (empty : silence.audio = []) :
    StreamInvariant chunkSize maxBufferChunks { s with returned := s.returned ++ [silence] } := by
  refine ⟨invariant.sizes, invariant.fits, invariant.filled, ?_, ?_⟩
  · rw [nonEmpty_append_of_empty s.returned empty]
    exact invariant.ordered
  · rw [nonEmpty_append_of_empty s.returned empty]
    exact invariant.counted

/-- A read takes the oldest chunk, or what the source answers. -/
theorem streamInvariant_readChunk {s : StreamState}
    (invariant : StreamInvariant chunkSize maxBufferChunks s) :
    StreamInvariant chunkSize maxBufferChunks (s.step .readChunk) := by
  cases running : s.stream.running with
  | false =>
    rw [StreamState.step, AudioStream.readChunk_of_stopped [] running]
    exact streamInvariant_nothing invariant rfl
  | true =>
    cases buffer : s.stream.buffer with
    | nil =>
      rw [StreamState.step, AudioStream.readChunk_empty running buffer []]
      exact streamInvariant_nothing invariant List.take_nil
    | cons oldest later =>
      have given : oldest.audio ≠ [] := invariant.filled oldest (by simp [buffer])
      have fits := invariant.fits
      have ordered := invariant.ordered
      have counted := invariant.counted
      simp only [buffer, List.length_cons] at fits ordered counted
      rw [StreamState.step, AudioStream.readChunk_cons running buffer []]
      refine ⟨invariant.sizes, ?_, ?_, ?_, ?_⟩
      · dsimp only
        omega
      · intro chunk member
        exact invariant.filled chunk (by rw [buffer]; exact List.mem_cons_of_mem _ member)
      · rw [nonEmpty_append_of_ne given, List.append_assoc]
        exact ordered
      · rw [nonEmpty_append_of_ne given]
        simp only [List.length_append, List.length_singleton]
        omega

theorem streamInvariant_step (s : StreamState) (call : StreamCall)
    (invariant : StreamInvariant chunkSize maxBufferChunks s) :
    StreamInvariant chunkSize maxBufferChunks (s.step call) := by
  cases call with
  | start =>
    exact ⟨invariant.sizes, invariant.fits, invariant.filled, invariant.ordered,
      invariant.counted⟩
  | stop => exact streamInvariant_stop invariant
  | pushChunk chunk => exact streamInvariant_pushChunk invariant chunk
  | readChunk => exact streamInvariant_readChunk invariant

/-! ## Whole runs -/

/-- Every chunk pushed into a running stream is returned in its turn, dropped, discarded
or still buffered. -/
theorem chunks_conserved (sized : 1 ≤ chunkSize) (bounded : 1 ≤ maxBufferChunks)
    (calls : List StreamCall) :
    Conserved chunkSize maxBufferChunks
      (run StreamState.step (.create chunkSize maxBufferChunks sized bounded) calls) :=
  (run_invariant streamInvariant_step _ (streamInvariant_create sized bounded) calls).conserved

/-- A push too early, an overflow, and a stop with a chunk left. -/
def overflowAndStop : List StreamCall :=
  [.pushChunk ⟨[9], .command 0⟩, .start, .pushChunk ⟨[1, 2, 3], .command 1⟩,
    .pushChunk ⟨[4], .command 2⟩, .readChunk, .pushChunk ⟨[5, 6], .command 3⟩, .stop, .readChunk]

theorem chunks_conserved_overflow :
    Conserved 2 1
      (run StreamState.step (.create 2 1 (by decide) (by decide)) overflowAndStop) :=
  chunks_conserved (by decide) (by decide) overflowAndStop

end Apcos.Guarantees.AudioChunks
