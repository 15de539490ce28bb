import Apcos.Source.Python.Patterns

/-!
# Transcription worker

voice/thread_safe_queue.py, voice/transcription_worker.py and the `transcribe`
method of voice/asr_engine_real.py. A call on a queue is one step, taken when its
timed wait ends. A thread of the worker is the point of `_run_loop` it is at;
`stop` forgets the current thread after a bounded join, so an earlier thread may
still run beside the one the next `start` makes. Queued items carry the chunk
they come from; no step reads which chunk that is.
-/
namespace Apcos.Source.Voice

open Apcos.Source.Python

/-! ## Bounded queue -/

/-- A queue of bound at least one, oldest item first. -/
structure ThreadSafeQueue (α : Type) where
  items : List α
  maxSize : Nat
  closed : Bool
  positive : 1 ≤ maxSize

namespace ThreadSafeQueue

variable {α : Type}

def empty (maxSize : Nat) (positive : 1 ≤ maxSize) : ThreadSafeQueue α :=
  ⟨[], maxSize, false, positive⟩

/-- `put` would enqueue: the queue is neither closed nor full. -/
def accepts (q : ThreadSafeQueue α) : Bool := !q.closed && q.items.length < q.maxSize

def put (q : ThreadSafeQueue α) (item : α) : Bool × ThreadSafeQueue α :=
  if q.closed then (false, q)
  else if q.items.length < q.maxSize then (true, { q with items := q.items ++ [item] })
  else (false, q)

/-- A closed queue still hands out what it holds. -/
def get (q : ThreadSafeQueue α) : Option α × ThreadSafeQueue α :=
  match q.items with
  | [] => (none, q)
  | item :: rest => (some item, { q with items := rest })

def close (q : ThreadSafeQueue α) : ThreadSafeQueue α := { q with closed := true }

theorem put_of_accepts {q : ThreadSafeQueue α} (open_ : q.accepts = true) (item : α) :
    q.put item = (true, { q with items := q.items ++ [item] }) := by
  obtain ⟨notClosed, room⟩ := Bool.and_eq_true_iff.mp open_
  have notClosed : q.closed = false := by simpa using notClosed
  have room : q.items.length < q.maxSize := of_decide_eq_true room
  simp only [put, notClosed, room, if_true, Bool.false_eq_true, if_false]

theorem put_of_not_accepts {q : ThreadSafeQueue α} (refused : q.accepts = false) (item : α) :
    q.put item = (false, q) := by
  unfold put
  split
  · rfl
  · rename_i notClosed
    split
    · rename_i room
      simp [accepts, notClosed, room] at refused
    · rfl

theorem mem_put {q : ThreadSafeQueue α} {item x : α} (member : x ∈ (q.put item).2.items) :
    x ∈ q.items ∨ x = item := by
  cases open_ : q.accepts with
  | true =>
    rw [put_of_accepts open_] at member
    rcases List.mem_append.mp member with old | new
    · exact Or.inl old
    · exact Or.inr (List.mem_singleton.mp new)
  | false =>
    rw [put_of_not_accepts open_] at member
    exact Or.inl member

/-- What is taken was queued, and what is left was queued. -/
theorem mem_get {q : ThreadSafeQueue α} {x : α}
    (member : (q.get).1 = some x ∨ x ∈ (q.get).2.items) : x ∈ q.items := by
  unfold get at member
  cases shape : q.items with
  | nil =>
    simp [shape] at member
  | cons item rest =>
    simp only [shape, Option.some.injEq] at member
    rcases member with here | later
    · rw [here]
      exact List.mem_cons_self
    · exact List.mem_cons_of_mem item later

end ThreadSafeQueue

/-! ## Worker -/

/-- Audio bytes and the cycle that read them. -/
structure Chunk where
  cycle : Nat
  audio : List UInt8
  deriving DecidableEq

structure Transcript where
  source : Chunk
  text : String

/-- Where a thread is in `_run_loop`. -/
inductive WorkerThread where
  | polling
  | transcribing (chunk : Chunk)
  | delivering (transcript : Transcript)
  | ended

def WorkerThread.holds : WorkerThread → Option Chunk
  | .polling => none
  | .transcribing chunk => some chunk
  | .delivering transcript => some transcript.source
  | .ended => none

def WorkerThread.isAlive : WorkerThread → Bool
  | .ended => false
  | _ => true

/-- `threads` are all threads ever started, `thread` the current one among them. -/
structure TranscriptionWorker where
  audioQueue : ThreadSafeQueue Chunk
  textQueue : ThreadSafeQueue Transcript
  stopEvent : Bool
  threads : List WorkerThread
  thread : Option Nat
  hasLimiter : Bool
  slotAcquired : Bool

def normalizeText (text : String) : String :=
  " ".intercalate (split (strip (controlsToBlank text)))

/-- `transcribe`: no answer is a model that raised or did not answer in time. -/
def transcribe (audio : List UInt8) (answer : Option String) : String :=
  if audio = [] then ""
  else
    match answer with
    | none => normalizeText ""
    | some text => normalizeText text

namespace TranscriptionWorker

def create (maxQueueSize : Nat) (positive : 1 ≤ maxQueueSize) (hasLimiter : Bool) :
    TranscriptionWorker :=
  ⟨.empty maxQueueSize positive, .empty maxQueueSize positive, false, [], none, hasLimiter, false⟩

def isRunning (w : TranscriptionWorker) : Bool :=
  match w.thread.bind (w.threads[·]?) with
  | none => false
  | some thread => thread.isAlive

/-- `granted` is the limiter's answer, if there is one. -/
def start (w : TranscriptionWorker) (granted : Bool) : Bool × TranscriptionWorker :=
  if w.isRunning then (true, w)
  else if w.hasLimiter && !granted then (false, { w with slotAcquired := false })
  else (true,
    { w with
      slotAcquired := if w.hasLimiter then granted else w.slotAcquired
      stopEvent := false
      threads := w.threads ++ [.polling]
      thread := some w.threads.length })

def stop (w : TranscriptionWorker) : TranscriptionWorker :=
  { w with
    stopEvent := true
    audioQueue := w.audioQueue.close
    textQueue := w.textQueue.close
    thread := none
    slotAcquired := if w.hasLimiter && w.slotAcquired then false else w.slotAcquired }

def submitAudio (w : TranscriptionWorker) (chunk : Chunk) : Bool × TranscriptionWorker :=
  if chunk.audio = [] then (false, w)
  else
    let (queued, audioQueue) := w.audioQueue.put chunk
    (queued, { w with audioQueue })

def getTranscription (w : TranscriptionWorker) : Option Transcript × TranscriptionWorker :=
  let (transcript, textQueue) := w.textQueue.get
  (transcript, { w with textQueue })

end TranscriptionWorker

/-- Steps of a thread. -/
inductive ThreadStep where
  /-- The loop condition, with the stop event set. -/
  | leave
  /-- `_audio_queue.get`. -/
  | take
  /-- `_asr_engine.transcribe` returns. -/
  | transcribed (answer : Option String)
  /-- `_asr_engine.transcribe` raises, as it does when the model cannot be loaded. -/
  | crash
  /-- `_text_queue.put` and the callback, which may raise. -/
  | deliver (callbackRaises : Bool)

namespace TranscriptionWorker

def setThread (w : TranscriptionWorker) (i : Nat) (thread : WorkerThread) : TranscriptionWorker :=
  { w with threads := w.threads.set i thread }

/-- A step a thread is not ready for is not taken. -/
def threadStep (w : TranscriptionWorker) (i : Nat) (step : ThreadStep) : TranscriptionWorker :=
  match w.threads[i]?, step with
  | some .polling, .leave => if w.stopEvent then w.setThread i .ended else w
  | some .polling, .take =>
    match w.audioQueue.get with
    | (none, _) => w
    | (some chunk, audioQueue) => { w with audioQueue }.setThread i (.transcribing chunk)
  | some (.transcribing chunk), .transcribed answer =>
    let text := transcribe chunk.audio answer
    if text = "" then w.setThread i .polling else w.setThread i (.delivering ⟨chunk, text⟩)
  | some (.transcribing _), .crash => w.setThread i .ended
  | some (.delivering transcript), .deliver callbackRaises =>
    { w with textQueue := (w.textQueue.put transcript).2 }.setThread i
      (if callbackRaises then .ended else .polling)
  | _, _ => w

/-! ## Chunks in flight -/

/-- The chunks whose audio or transcript is still in the worker. -/
def inFlight (w : TranscriptionWorker) : List Chunk :=
  w.textQueue.items.map (·.source) ++ w.threads.filterMap WorkerThread.holds ++ w.audioQueue.items

theorem mem_inFlight {w : TranscriptionWorker} {chunk : Chunk} :
    chunk ∈ w.inFlight ↔
      (∃ transcript ∈ w.textQueue.items, transcript.source = chunk) ∨
        (∃ thread ∈ w.threads, thread.holds = some chunk) ∨ chunk ∈ w.audioQueue.items := by
  simp only [inFlight, List.mem_append, List.mem_map, List.mem_filterMap, or_assoc]

/-- A new thread holds nothing. -/
theorem start_inFlight (w : TranscriptionWorker) (granted : Bool) :
    (w.start granted).2.inFlight = w.inFlight := by
  unfold start
  split
  · rfl
  · split
    · rfl
    · simp [inFlight, WorkerThread.holds]

theorem start_audioQueue (w : TranscriptionWorker) (granted : Bool) :
    (w.start granted).2.audioQueue = w.audioQueue := by
  unfold start
  split
  · rfl
  · split
    · rfl
    · rfl

theorem submitAudio_of_accepts {w : TranscriptionWorker} {chunk : Chunk}
    (speech : chunk.audio ≠ []) (accepted : w.audioQueue.accepts = true) :
    (w.submitAudio chunk).1 = true ∧ (w.submitAudio chunk).2.inFlight = w.inFlight ++ [chunk] := by
  rw [submitAudio, if_neg speech, ThreadSafeQueue.put_of_accepts accepted]
  exact ⟨rfl, by simp [inFlight]⟩

theorem submitAudio_of_not_accepts {w : TranscriptionWorker} {chunk : Chunk}
    (refused : w.audioQueue.accepts = false) : w.submitAudio chunk = (false, w) := by
  unfold submitAudio
  split
  · rfl
  · rw [ThreadSafeQueue.put_of_not_accepts refused]

theorem getTranscription_inFlight {w : TranscriptionWorker} {transcript : Transcript}
    (received : (w.getTranscription).1 = some transcript) : transcript.source ∈ w.inFlight :=
  mem_inFlight.mpr (Or.inl ⟨transcript, ThreadSafeQueue.mem_get (Or.inl received), rfl⟩)

/-- What holds of the chunks in flight and of the chunk a thread comes to hold. -/
theorem setThread_inFlight {P : Chunk → Prop} {w : TranscriptionWorker} {i : Nat}
    {thread : WorkerThread} (flying : ∀ chunk ∈ w.inFlight, P chunk)
    (held : ∀ chunk, thread.holds = some chunk → P chunk) :
    ∀ chunk ∈ (w.setThread i thread).inFlight, P chunk := by
  intro chunk member
  rcases mem_inFlight.mp member with text | ⟨other, threads, holds⟩ | audio
  · exact flying chunk (mem_inFlight.mpr (Or.inl text))
  · rcases List.mem_or_eq_of_mem_set threads with old | new
    · exact flying chunk (mem_inFlight.mpr (Or.inr (Or.inl ⟨other, old, holds⟩)))
    · rw [new] at holds
      exact held chunk holds
  · exact flying chunk (mem_inFlight.mpr (Or.inr (Or.inr audio)))

theorem holds_inFlight {w : TranscriptionWorker} {i : Nat} {thread : WorkerThread} {chunk : Chunk}
    (here : w.threads[i]? = some thread) (holds : thread.holds = some chunk) :
    chunk ∈ w.inFlight :=
  mem_inFlight.mpr (Or.inr (Or.inl ⟨thread, List.mem_of_getElem? here, holds⟩))

/-- What a queue hands out and what it keeps was in flight. -/
theorem get_inFlight {w : TranscriptionWorker} {taken : Chunk} {audioQueue : ThreadSafeQueue Chunk}
    (got : w.audioQueue.get = (some taken, audioQueue)) :
    taken ∈ w.inFlight ∧ ∀ chunk ∈ inFlight { w with audioQueue }, chunk ∈ w.inFlight := by
  have queued : ∀ chunk, taken = chunk ∨ chunk ∈ audioQueue.items → chunk ∈ w.inFlight := by
    intro chunk either
    refine mem_inFlight.mpr (Or.inr (Or.inr (ThreadSafeQueue.mem_get ?_)))
    rw [got]
    exact either.imp (congrArg some) id
  refine ⟨queued taken (Or.inl rfl), ?_⟩
  intro chunk member
  rcases mem_inFlight.mp member with text | thread | audio
  · exact mem_inFlight.mpr (Or.inl text)
  · exact mem_inFlight.mpr (Or.inr (Or.inl thread))
  · exact queued chunk (Or.inr audio)

/-- The text queue takes a transcript over, or drops it. -/
theorem put_inFlight {w : TranscriptionWorker} {transcript : Transcript}
    (held : transcript.source ∈ w.inFlight) :
    ∀ chunk ∈ inFlight { w with textQueue := (w.textQueue.put transcript).2 },
      chunk ∈ w.inFlight := by
  intro chunk member
  rcases mem_inFlight.mp member with ⟨delivered, queued, same⟩ | thread | audio
  · rcases ThreadSafeQueue.mem_put queued with waiting | equal
    · exact mem_inFlight.mpr (Or.inl ⟨delivered, waiting, same⟩)
    · rw [← same, equal]
      exact held
  · exact mem_inFlight.mpr (Or.inr (Or.inl thread))
  · exact mem_inFlight.mpr (Or.inr (Or.inr audio))

/-- A thread moves chunks on or drops them. -/
theorem threadStep_inFlight (w : TranscriptionWorker) (i : Nat) (step : ThreadStep) :
    ∀ chunk ∈ (w.threadStep i step).inFlight, chunk ∈ w.inFlight := by
  have unmoved : ∀ chunk ∈ w.inFlight, chunk ∈ w.inFlight := fun _ member => member
  unfold threadStep
  split
  · split
    · exact setThread_inFlight unmoved fun _ holds => (by cases holds)
    · exact unmoved
  · split
    · exact unmoved
    · rename_i taken audioQueue got
      obtain ⟨wasQueued, kept⟩ := get_inFlight got
      refine setThread_inFlight kept fun chunk holds => ?_
      injection holds with same
      rw [← same]
      exact wasQueued
  · rename_i held answer here
    dsimp only
    split
    · exact setThread_inFlight unmoved fun _ holds => (by cases holds)
    · refine setThread_inFlight unmoved fun chunk holds => ?_
      injection holds with same
      rw [← same]
      exact holds_inFlight here rfl
  · exact setThread_inFlight unmoved fun _ holds => (by cases holds)
  · rename_i transcript callbackRaises here
    refine setThread_inFlight (put_inFlight (holds_inFlight here rfl)) fun chunk holds => ?_
    cases callbackRaises with
    | true => cases holds
    | false => cases holds
  · exact unmoved

end TranscriptionWorker

end Apcos.Source.Voice
