import Apcos.Lib.Runs
import Apcos.Source.Hardware.SleepManager

/-!
# Restarts of the voice pipeline

`stop` closes both queues of the worker, and nothing opens a queue again: `start`
clears the stop event and makes a new thread, but on the queues the earlier stop
left behind. A worker that was never stopped is ready after a start that reports
success. A worker that was stopped once refuses all audio from then on, whatever a
later start or wake reports; as a wake only succeeds after an `enter_sleep`, no
wake leaves a ready worker.
-/
namespace Apcos.Guarantees.VoiceRestart

open Apcos.Lib
open Apcos.Source.Session
open Apcos.Source.Voice
open Apcos.Source.Hardware

variable {ω : Type}

/-! ## What is promised of a resumed pipeline -/

/-- The last call that succeeded, among those that resume and those that pause, is one
that resumes. -/
def Resumed (s : VoiceRuntime ω) (events : List RuntimeEvent) : Prop :=
  ∃ earlier event later, events = earlier ++ event :: later ∧
    (run VoiceRuntime.step s earlier).resumes event = true ∧
    Along VoiceRuntime.step (fun s e => s.pauses e = false)
      (run VoiceRuntime.step s (earlier ++ [event])) later

/-- A payload is accepted, and the loop of a thread brings it to the text queue: it
takes the oldest chunk, transcribes it and puts a non-empty transcription. -/
structure Ready (w : TranscriptionWorker) : Prop where
  accepts : ∀ chunk : Chunk, chunk.audio ≠ [] → (w.submitAudio chunk).1 = true
  takes : ∀ i chunk rest, w.threads[i]? = some .polling → w.audioQueue.items = chunk :: rest →
    (w.threadStep i .take).threads[i]? = some (.transcribing chunk)
  transcribes : ∀ i chunk answer, w.threads[i]? = some (.transcribing chunk) →
    transcribe chunk.audio answer ≠ "" →
    (w.threadStep i (.transcribed answer)).threads[i]? =
      some (.delivering ⟨chunk, transcribe chunk.audio answer⟩)
  delivers : ∀ i transcript callbackRaises, w.threads[i]? = some (.delivering transcript) →
    w.textQueue.items.length < w.textQueue.maxSize →
    (w.threadStep i (.deliver callbackRaises)).textQueue.items =
      w.textQueue.items ++ [transcript]

/-- The worker has not been stopped by this step. -/
def Unstopped (s : VoiceRuntime ω) (e : RuntimeEvent) : Prop := s.pauses e = false

/-! ## The close flags -/

/-- Whether `close` was called on the audio queue and on the text queue. -/
def closeFlags (w : TranscriptionWorker) : Bool × Bool :=
  (w.audioQueue.closed, w.textQueue.closed)

theorem put_closed {α : Type} (q : ThreadSafeQueue α) (item : α) :
    (q.put item).2.closed = q.closed := by
  unfold ThreadSafeQueue.put
  split
  · rfl
  · split
    · rfl
    · rfl

theorem get_closed {α : Type} (q : ThreadSafeQueue α) : q.get.2.closed = q.closed := by
  unfold ThreadSafeQueue.get
  split
  · rfl
  · rfl

theorem start_closeFlags (w : TranscriptionWorker) (granted : Bool) :
    closeFlags (w.start granted).2 = closeFlags w := by
  unfold TranscriptionWorker.start
  split
  · rfl
  · split
    · rfl
    · rfl

theorem submitAudio_closeFlags (w : TranscriptionWorker) (chunk : Chunk) :
    closeFlags (w.submitAudio chunk).2 = closeFlags w := by
  unfold TranscriptionWorker.submitAudio
  split
  · rfl
  · simp only [closeFlags, put_closed]

theorem getTranscription_closeFlags (w : TranscriptionWorker) :
    closeFlags (w.getTranscription).2 = closeFlags w := by
  simp only [TranscriptionWorker.getTranscription, closeFlags, get_closed]

/-- The loop of a thread takes from one queue and puts into the other. -/
theorem threadStep_closeFlags (w : TranscriptionWorker) (i : Nat) (step : ThreadStep) :
    closeFlags (w.threadStep i step) = closeFlags w := by
  unfold TranscriptionWorker.threadStep
  split
  · split
    · rfl
    · rfl
  · split
    · rfl
    · rename_i chunk audioQueue taken
      have kept : audioQueue.closed = w.audioQueue.closed := by
        rw [← get_closed w.audioQueue, taken]
      simp only [closeFlags, TranscriptionWorker.setThread, kept]
  · dsimp only
    split
    · rfl
    · rfl
  · rfl
  · simp only [closeFlags, TranscriptionWorker.setThread, put_closed]
  · rfl

/-! ## One step -/

theorem enterSleep_step (s : VoiceRuntime ω) :
    (s.pauses .enterSleep = false ∧ (s.step .enterSleep).worker = s.worker) ∨
      (s.pauses .enterSleep = true ∧ (s.step .enterSleep).worker = s.worker.stop) := by
  simp only [VoiceRuntime.pauses, VoiceRuntime.step, SleepManager.enterSleep]
  split
  · exact Or.inl ⟨rfl, rfl⟩
  · exact Or.inr ⟨rfl, rfl⟩

theorem stop_step (s : VoiceRuntime ω) :
    (s.pauses .stop = false ∧ (s.step .stop).worker = s.worker) ∨
      (s.pauses .stop = true ∧ (s.step .stop).worker = s.worker.stop) := by
  simp only [VoiceRuntime.pauses, VoiceRuntime.step, RealVoiceSession.stop, VoiceRuntime.worker]
  split
  · rename_i started
    exact Or.inr ⟨started, rfl⟩
  · rename_i notStarted
    exact Or.inl ⟨by simpa using notStarted, rfl⟩

theorem wake_step (s : VoiceRuntime ω) (granted : Bool) :
    closeFlags (s.step (.wake granted)).worker = closeFlags s.worker := by
  simp only [VoiceRuntime.step, SleepManager.wake]
  split
  · rfl
  · split
    · exact start_closeFlags s.worker granted
    · exact start_closeFlags s.worker granted

theorem start_step (s : VoiceRuntime ω) (granted : Bool) :
    closeFlags (s.step (.start granted)).worker = closeFlags s.worker := by
  simp only [VoiceRuntime.step, RealVoiceSession.start, VoiceRuntime.worker]
  split
  · rfl
  · exact start_closeFlags s.voice.worker granted

/-- A step closes both queues or leaves both flags as they are; it closes them exactly
when it pauses. -/
theorem step_closeFlags (s : VoiceRuntime ω) (e : RuntimeEvent) :
    closeFlags (s.step e).worker = if s.pauses e then (true, true) else closeFlags s.worker := by
  cases e with
  | enterSleep =>
    rcases enterSleep_step s with ⟨runs, kept⟩ | ⟨pauses, stopped⟩
    · rw [runs, kept]
      rfl
    · rw [pauses, stopped]
      rfl
  | stop =>
    rcases stop_step s with ⟨runs, kept⟩ | ⟨pauses, stopped⟩
    · rw [runs, kept]
      rfl
    · rw [pauses, stopped]
      rfl
  | wake granted => exact wake_step s granted
  | start granted => exact start_step s granted
  | submitAudio chunk => exact submitAudio_closeFlags s.worker chunk
  | getTranscription => exact getTranscription_closeFlags s.worker
  | thread i step => exact threadStep_closeFlags s.worker i step

/-! ## Readiness -/

theorem accepts_of_open {α : Type} {q : ThreadSafeQueue α} (notClosed : q.closed = false)
    (room : q.items.length < q.maxSize) : q.accepts = true := by
  simp [ThreadSafeQueue.accepts, notClosed, room]

theorem getElem?_setThread {w : TranscriptionWorker} {i : Nat} {before : WorkerThread}
    (here : w.threads[i]? = some before) (after : WorkerThread) :
    (w.setThread i after).threads[i]? = some after := by
  obtain ⟨inside, -⟩ := List.getElem?_eq_some_iff.mp here
  exact List.getElem?_set_self inside

/-- With open queues and room, audio goes in and comes out as text. -/
theorem ready_of_open {w : TranscriptionWorker} (open_ : closeFlags w = (false, false))
    (room : w.audioQueue.items.length < w.audioQueue.maxSize) : Ready w := by
  have audioOpen : w.audioQueue.closed = false := congrArg Prod.fst open_
  have textOpen : w.textQueue.closed = false := congrArg Prod.snd open_
  constructor
  · intro chunk speech
    exact (TranscriptionWorker.submitAudio_of_accepts speech (accepts_of_open audioOpen room)).1
  · intro i chunk rest polling queued
    have taken : w.audioQueue.get = (some chunk, { w.audioQueue with items := rest }) := by
      simp only [ThreadSafeQueue.get, queued]
    simp only [TranscriptionWorker.threadStep, polling, taken]
    exact getElem?_setThread (w := { w with audioQueue := { w.audioQueue with items := rest } }) polling _
  · intro i chunk answer transcribing spoken
    simp only [TranscriptionWorker.threadStep, transcribing, if_neg spoken]
    exact getElem?_setThread transcribing _
  · intro i transcript callbackRaises delivering textRoom
    have put := ThreadSafeQueue.put_of_accepts (accepts_of_open textOpen textRoom) transcript
    simp only [TranscriptionWorker.threadStep, delivering, put, TranscriptionWorker.setThread]

/-- A closed audio queue refuses every payload. -/
theorem refuses_of_closed {w : TranscriptionWorker} (closed : w.audioQueue.closed = true)
    (chunk : Chunk) : (w.submitAudio chunk).1 = false := by
  have refused : w.audioQueue.accepts = false := by
    simp [ThreadSafeQueue.accepts, closed]
  rw [TranscriptionWorker.submitAudio_of_not_accepts refused]

/-! ## Runs -/

def Open (s : VoiceRuntime ω) : Prop := closeFlags s.worker = (false, false)

/-- The queues are closed together. -/
def Together (s : VoiceRuntime ω) : Prop := (closeFlags s.worker).1 = (closeFlags s.worker).2

theorem step_together (s : VoiceRuntime ω) (e : RuntimeEvent) (together : Together s) :
    Together (s.step e) := by
  unfold Together
  rw [step_closeFlags]
  cases s.pauses e with
  | true => rfl
  | false => exact together

/-- A step leaves the queues open exactly when they were and it does not pause. -/
theorem step_open_iff (s : VoiceRuntime ω) (e : RuntimeEvent) (_together : Together s) :
    Open (s.step e) ↔ Open s ∧ Unstopped s e := by
  unfold Open Unstopped
  rw [step_closeFlags]
  cases s.pauses e with
  | true => simp
  | false => simp

/-! ## Wakes -/

/-- A manager is put to sleep by a pause only. -/
theorem step_sleeping (s : VoiceRuntime ω) (e : RuntimeEvent)
    (asleep : (s.step e).manager.sleeping = true) :
    s.manager.sleeping = true ∨ s.pauses e = true := by
  cases e with
  | enterSleep =>
    simp only [VoiceRuntime.pauses, SleepManager.enterSleep]
    split
    · rename_i already
      exact Or.inl already
    · exact Or.inr rfl
  | wake granted =>
    refine Or.inl ?_
    simp only [VoiceRuntime.step, SleepManager.wake] at asleep
    split at asleep
    · exact asleep
    · rename_i sleeping
      simpa using sleeping
  | start granted => exact Or.inl asleep
  | stop => exact Or.inl asleep
  | submitAudio chunk => exact Or.inl asleep
  | getTranscription => exact Or.inl asleep
  | thread i step => exact Or.inl asleep

theorem step_closed (s : VoiceRuntime ω) (e : RuntimeEvent)
    (closed : s.worker.audioQueue.closed = true) :
    (s.step e).worker.audioQueue.closed = true := by
  have flags := step_closeFlags s e
  cases paused : s.pauses e with
  | true =>
    rw [paused] at flags
    exact congrArg Prod.fst flags
  | false =>
    rw [paused] at flags
    exact (congrArg Prod.fst flags).trans closed

theorem step_asleep_closed (s : VoiceRuntime ω) (e : RuntimeEvent)
    (invariant : s.manager.sleeping = true → s.worker.audioQueue.closed = true)
    (asleep : (s.step e).manager.sleeping = true) :
    (s.step e).worker.audioQueue.closed = true := by
  rcases step_sleeping s e asleep with before | paused
  · exact step_closed s e (invariant before)
  · have flags := step_closeFlags s e
    rw [paused] at flags
    exact congrArg Prod.fst flags

theorem sleeping_of_wake {s : VoiceRuntime ω} {granted : Bool}
    (woken : s.resumes (.wake granted) = true) : s.manager.sleeping = true := by
  simp only [VoiceRuntime.resumes, SleepManager.wake] at woken
  split at woken
  · cases woken
  · rename_i sleeping
    simpa using sleeping

/-- From a wake that reports success on, every payload is refused. -/
theorem wake_refuses (session : SessionState ω) (worker : TranscriptionWorker)
    (earlier later : List RuntimeEvent) (granted : Bool)
    (woken : (run VoiceRuntime.step (.create session worker) earlier).resumes (.wake granted) =
      true) (chunk : Chunk) :
    ((run VoiceRuntime.step (.create session worker)
      (earlier ++ .wake granted :: later)).worker.submitAudio chunk).1 = false := by
  have closed := run_invariant step_asleep_closed (.create session worker)
    (fun asleep => absurd asleep (by simp [VoiceRuntime.create, SleepManager.create])) earlier
    (sleeping_of_wake woken)
  rw [run_append]
  exact refuses_of_closed (run_invariant step_closed _ closed (.wake granted :: later)) chunk

/-! ## Restarts -/

/-- A runtime whose worker has not been started yet. -/
def fresh (session : SessionState ω) (maxQueueSize : Nat) (positive : 1 ≤ maxQueueSize)
    (hasLimiter : Bool) : VoiceRuntime ω :=
  .create session (.create maxQueueSize positive hasLimiter)

/-- After any run, with room in the audio queue, the worker is ready exactly when no
step of the run stopped it; so it is after one whose last successful call resumed it. -/
theorem resumed_ready_iff (session : SessionState ω) (maxQueueSize : Nat)
    (positive : 1 ≤ maxQueueSize) (hasLimiter : Bool) (events : List RuntimeEvent)
    (room : (run VoiceRuntime.step (fresh session maxQueueSize positive hasLimiter)
        events).worker.audioQueue.items.length <
      (run VoiceRuntime.step (fresh session maxQueueSize positive hasLimiter)
        events).worker.audioQueue.maxSize) :
    Ready (run VoiceRuntime.step (fresh session maxQueueSize positive hasLimiter) events).worker ↔
      Along VoiceRuntime.step Unstopped (fresh session maxQueueSize positive hasLimiter)
        events := by
  generalize shape : fresh session maxQueueSize positive hasLimiter = s at room ⊢
  have opened : Open s := by
    rw [← shape]
    rfl
  have together : Together s := by
    rw [Together, opened]
  have unstopped_iff := run_iff_along step_together step_open_iff s together events
  constructor
  · intro ready
    refine (unstopped_iff.mp ?_).2
    have accepted := ready.accepts ⟨0, [0]⟩ (by simp)
    have agree := run_invariant step_together s together events
    cases audio : (run VoiceRuntime.step s events).worker.audioQueue.closed with
    | true =>
      rw [refuses_of_closed audio] at accepted
      cases accepted
    | false => exact Prod.ext audio (agree.symm.trans audio)
  · intro unstopped
    exact ready_of_open (unstopped_iff.mpr ⟨opened, unstopped⟩) room

def newSession : SessionState Nat := InteractionController.initialState emptyRouterState

/-- The first start of a worker. -/
theorem resumed_ready_first_start :
    Ready (run VoiceRuntime.step (fresh newSession 1 (by decide) true) [.start true]).worker ↔
      Along VoiceRuntime.step Unstopped (fresh newSession 1 (by decide) true) [.start true] :=
  resumed_ready_iff newSession 1 (by decide) true [.start true] (by decide)

/-- The pipeline is started, put to sleep and woken; the first payload is refused. -/
theorem woken_not_ready :
    ¬∀ (session : SessionState Nat) (maxQueueSize : Nat) (positive : 1 ≤ maxQueueSize)
      (hasLimiter : Bool) (events : List RuntimeEvent),
      Resumed (fresh session maxQueueSize positive hasLimiter) events →
      (run VoiceRuntime.step (fresh session maxQueueSize positive hasLimiter)
          events).worker.audioQueue.items.length <
        (run VoiceRuntime.step (fresh session maxQueueSize positive hasLimiter)
          events).worker.audioQueue.maxSize →
      Ready (run VoiceRuntime.step (fresh session maxQueueSize positive hasLimiter)
        events).worker := by
  intro always
  have ready := always newSession 32 (by decide) true [.start true, .enterSleep, .wake true]
    ⟨[.start true, .enterSleep], .wake true, [], rfl, by decide, trivial⟩ (by decide)
  have accepted := ready.accepts ⟨0, [1]⟩ (by decide)
  exact absurd accepted (by decide)

end Apcos.Guarantees.VoiceRestart
