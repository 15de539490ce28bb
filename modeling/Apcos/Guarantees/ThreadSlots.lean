import Apcos.Lib.Runs
import Apcos.Source.Behavior.ThreadLimiter

/-!
# Thread slots of the transcription worker

The worker remembers whether it holds a slot in one flag, which each start that
finds no live thread overwrites. A thread that died leaves its slot with the
worker, and the flag says so only until the next start: that start asks for one
more slot, or is refused and forgets the one it has. A ledger of the slots granted
to the worker and of those it gave back shows when the flag is right: as long as no
start finds a thread that died since the last stop.
-/
namespace Apcos.Guarantees.ThreadSlots

open Apcos.Lib
open Apcos.Source.Voice
open Apcos.Source.Behavior

/-! ## The worker among other holders -/

/-- `acquired` counts the slots granted to the worker, `released` its calls of
`release_slot`; `others` are the slots the other holders have. -/
structure SlotState where
  worker : TranscriptionWorker
  limiter : ThreadLimiter
  acquired : Nat
  released : Nat
  others : Nat

inductive SlotEvent where
  | start
  | stop
  | thread (i : Nat) (step : ThreadStep)
  | submitAudio (chunk : Chunk)
  | getTranscription
  | otherAcquire
  | otherRelease

namespace SlotState

/-- A new worker, beside the holders of the slots in use. -/
def create (limiter : ThreadLimiter) (maxQueueSize : Nat) (positive : 1 ≤ maxQueueSize) :
    SlotState :=
  ⟨.create maxQueueSize positive true, limiter, 0, 0, limiter.inUse⟩

/-- The slots that a start is granted now. -/
def granted (s : SlotState) : Nat :=
  if s.worker.isRunning then 0 else s.limiter.acquireSlot.1.toNat

/-- Another holder only gives back a slot it has. -/
def step (s : SlotState) : SlotEvent → SlotState
  | .start =>
    let (_, worker, limiter) := startWorker s.worker s.limiter
    { s with worker, limiter, acquired := s.acquired + s.granted }
  | .stop =>
    let (worker, limiter) := stopWorker s.worker s.limiter
    { s with worker, limiter, released := s.released + s.worker.slotAcquired.toNat }
  | .thread i step => { s with worker := s.worker.threadStep i step }
  | .submitAudio chunk => { s with worker := (s.worker.submitAudio chunk).2 }
  | .getTranscription => { s with worker := s.worker.getTranscription.2 }
  | .otherAcquire =>
    let (granted, limiter) := s.limiter.acquireSlot
    { s with limiter, others := s.others + granted.toNat }
  | .otherRelease =>
    if s.others = 0 then s
    else { s with limiter := s.limiter.releaseSlot, others := s.others - 1 }

end SlotState

/-- The worker has at most one slot, a stop now leaves it none, and it gave back no more
than it was granted: every other slot in use is another holder's. -/
structure SlotsKept (s : SlotState) : Prop where
  atMostOne : s.acquired ≤ s.released + 1
  noneAfterStop : (s.step .stop).acquired = (s.step .stop).released
  othersKept : s.released ≤ s.acquired ∧ s.limiter.inUse + s.released = s.acquired + s.others

/-- The event is no start that finds a thread which died since the last stop. -/
def FreshStart (s : SlotState) : SlotEvent → Prop
  | .start => s.worker.thread = none ∨ s.worker.isRunning = true
  | _ => True

/-! ## The flag of the worker -/

/-- What decides about slots. -/
def ownership (w : TranscriptionWorker) : Bool × Option Nat × Bool :=
  (w.hasLimiter, w.thread, w.slotAcquired)

theorem threadStep_ownership (w : TranscriptionWorker) (i : Nat) (step : ThreadStep) :
    ownership (w.threadStep i step) = ownership w := by
  unfold TranscriptionWorker.threadStep
  split
  · split
    · rfl
    · rfl
  · split
    · rfl
    · rfl
  · dsimp only
    split
    · rfl
    · rfl
  · rfl
  · rfl
  · rfl

theorem submitAudio_ownership (w : TranscriptionWorker) (chunk : Chunk) :
    ownership (w.submitAudio chunk).2 = ownership w := by
  unfold TranscriptionWorker.submitAudio
  split
  · rfl
  · rfl

theorem getTranscription_ownership (w : TranscriptionWorker) :
    ownership w.getTranscription.2 = ownership w := rfl

/-- The limiter's books, and what the flag and the current thread say about the worker. -/
structure Ledger (s : SlotState) : Prop where
  limited : s.worker.hasLimiter = true
  balance : s.limiter.inUse + s.released = s.acquired + s.others
  backed : s.released + s.worker.slotAcquired.toNat ≤ s.acquired
  idle : s.worker.thread = none → s.worker.slotAcquired = false
  threaded : s.worker.thread ≠ none → s.released + 1 ≤ s.acquired

theorem ledger_create (limiter : ThreadLimiter) (maxQueueSize : Nat)
    (positive : 1 ≤ maxQueueSize) : Ledger (.create limiter maxQueueSize positive) where
  limited := rfl
  balance := by simp [SlotState.create]
  backed := by simp [SlotState.create, TranscriptionWorker.create]
  idle := fun _ => rfl
  threaded := fun some_thread => absurd rfl some_thread

/-- The flag says how many slots the worker has. -/
theorem slotsKept_iff {s : SlotState} (ledger : Ledger s) :
    SlotsKept s ↔ s.acquired = s.released + s.worker.slotAcquired.toNat := by
  have flag : s.worker.slotAcquired.toNat ≤ 1 := Bool.toNat_le _
  have backed := ledger.backed
  constructor
  · intro kept
    exact kept.noneAfterStop
  · intro exactly_
    exact ⟨by omega, exactly_, by omega, ledger.balance⟩

/-! ## One step -/

/-- A step that leaves the worker's slots alone. -/
theorem Ledger.of_worker {s : SlotState} (ledger : Ledger s) {worker : TranscriptionWorker}
    (same : ownership worker = ownership s.worker) : Ledger { s with worker } := by
  simp only [ownership, Prod.mk.injEq] at same
  obtain ⟨limited, thread, flag⟩ := same
  refine ⟨?_, ledger.balance, ?_, ?_, ?_⟩
  · simpa only [limited] using ledger.limited
  · simpa only [flag] using ledger.backed
  · simpa only [thread, flag] using ledger.idle
  · simpa only [thread] using ledger.threaded

theorem slotsKept_of_worker {s : SlotState} (ledger : Ledger s) {worker : TranscriptionWorker}
    (same : ownership worker = ownership s.worker) :
    SlotsKept { s with worker } ↔ SlotsKept s := by
  rw [slotsKept_iff (ledger.of_worker same), slotsKept_iff ledger]
  simp only [ownership, Prod.mk.injEq] at same
  rw [same.2.2]

/-- What a start does: nothing beside a live thread, a thread with the slot it was
granted, or the flag cleared. -/
theorem start_cases {s : SlotState} (limited : s.worker.hasLimiter = true) :
    (s.worker.isRunning = true ∧ s.step .start = s) ∨
      (s.worker.isRunning = false ∧ (s.step .start).acquired = s.acquired + 1 ∧
        (s.step .start).limiter.inUse = s.limiter.inUse + 1 ∧
        ownership (s.step .start).worker = (true, some s.worker.threads.length, true)) ∨
      (s.worker.isRunning = false ∧ (s.step .start).acquired = s.acquired ∧
        (s.step .start).limiter = s.limiter ∧
        ownership (s.step .start).worker = (true, s.worker.thread, false)) := by
  cases running : s.worker.isRunning with
  | true =>
    left
    simp [SlotState.step, startWorker, SlotState.granted, running]
  | false =>
    right
    by_cases free : 0 < s.limiter.semaphore
    · obtain ⟨granted, inUse⟩ := ThreadLimiter.acquireSlot_of_free free
      left
      simp [SlotState.step, startWorker, SlotState.granted, TranscriptionWorker.start, ownership,
        running, limited, granted, inUse]
    · have refused := ThreadLimiter.acquireSlot_of_full (Nat.eq_zero_of_not_pos free)
      right
      simp [SlotState.step, startWorker, SlotState.granted, TranscriptionWorker.start, ownership,
        running, limited, refused]

theorem start_others (s : SlotState) :
    (s.step .start).released = s.released ∧ (s.step .start).others = s.others := ⟨rfl, rfl⟩

/-- A start enters the slot it takes in the books. -/
theorem ledger_start {s : SlotState} (ledger : Ledger s) : Ledger (s.step .start) := by
  obtain ⟨limited, balance, backed, idle, threaded⟩ := ledger
  obtain ⟨released, others⟩ := start_others s
  rcases start_cases limited with ⟨_, same⟩ | ⟨_, acquired, inUse, owned⟩ | ⟨_, acquired, same, owned⟩
  · rw [same]
    exact ⟨limited, balance, backed, idle, threaded⟩
  · simp only [ownership, Prod.mk.injEq] at owned
    obtain ⟨limited', thread, flag⟩ := owned
    refine ⟨limited', by omega, ?_, ?_, ?_⟩
    · rw [flag, Bool.toNat_true]
      omega
    · simp [thread]
    · omega
  · simp only [ownership, Prod.mk.injEq] at owned
    obtain ⟨limited', thread, flag⟩ := owned
    refine ⟨limited', by rw [same]; omega, ?_, fun _ => flag, ?_⟩
    · rw [flag, Bool.toNat_false]
      omega
    · rw [thread, acquired, released]
      exact threaded

/-- A granted slot beside the one a dead thread left, and a flag cleared over it, are what
goes wrong. -/
theorem slotsKept_start {s : SlotState} (ledger : Ledger s) (kept : SlotsKept s) :
    SlotsKept (s.step .start) ↔ FreshStart s .start := by
  have exactly_ := (slotsKept_iff ledger).mp kept
  have idle := ledger.idle
  have threaded := ledger.threaded
  have released := (start_others s).1
  rw [slotsKept_iff (ledger_start ledger), FreshStart]
  rcases start_cases ledger.limited with
    ⟨running, same⟩ | ⟨ended, acquired, _, owned⟩ | ⟨ended, acquired, _, owned⟩
  · simp [same, exactly_, running]
  · simp only [ownership, Prod.mk.injEq] at owned
    simp only [acquired, released, owned.2.2, ended, Bool.toNat_true, Bool.false_eq_true, or_false]
    constructor
    · intro one
      by_contra some_thread
      have := threaded some_thread
      omega
    · intro no_thread
      rw [exactly_, idle no_thread, Bool.toNat_false]
  · simp only [ownership, Prod.mk.injEq] at owned
    simp only [acquired, released, owned.2.2, ended, Bool.toNat_false, Bool.false_eq_true, or_false]
    constructor
    · intro none_left
      by_contra some_thread
      have := threaded some_thread
      omega
    · intro no_thread
      rw [exactly_, idle no_thread, Bool.toNat_false]

theorem ledger_stop {s : SlotState} (ledger : Ledger s) : Ledger (s.step .stop) := by
  obtain ⟨limited, balance, backed, _, _⟩ := ledger
  have cleared : (s.step .stop).worker.slotAcquired = false := by
    cases flag : s.worker.slotAcquired <;>
      simp [SlotState.step, stopWorker, TranscriptionWorker.stop, limited, flag]
  refine ⟨limited, ?_, ?_, fun _ => cleared, fun some_thread => absurd rfl some_thread⟩
  · cases flag : s.worker.slotAcquired with
    | false => simpa [SlotState.step, stopWorker, flag] using balance
    | true =>
      rw [flag, Bool.toNat_true] at backed
      simp only [SlotState.step, stopWorker, flag, if_true, ThreadLimiter.releaseSlot_inUse,
        Bool.toNat_true]
      omega
  · rw [cleared, Bool.toNat_false]
    exact backed

theorem slotsKept_stop {s : SlotState} (ledger : Ledger s) (kept : SlotsKept s) :
    SlotsKept (s.step .stop) := by
  have exactly_ := (slotsKept_iff ledger).mp kept
  have stopped := ledger_stop ledger
  have cleared := stopped.idle rfl
  rw [slotsKept_iff stopped, cleared, Bool.toNat_false]
  exact exactly_

/-- Other holders move the limiter and their own count alike. -/
theorem Ledger.of_others {s : SlotState} (ledger : Ledger s) {limiter : ThreadLimiter}
    {others : Nat} (moved : limiter.inUse + s.others = s.limiter.inUse + others) :
    Ledger { s with limiter, others } := by
  have balance := ledger.balance
  exact ⟨ledger.limited, by dsimp only; omega, ledger.backed, ledger.idle, ledger.threaded⟩

theorem slotsKept_of_others {s : SlotState} (ledger : Ledger s) {limiter : ThreadLimiter}
    {others : Nat} (moved : limiter.inUse + s.others = s.limiter.inUse + others) :
    SlotsKept { s with limiter, others } ↔ SlotsKept s := by
  rw [slotsKept_iff (ledger.of_others moved), slotsKept_iff ledger]

theorem otherAcquire_moved (s : SlotState) :
    s.limiter.acquireSlot.2.inUse + s.others =
      s.limiter.inUse + (s.others + s.limiter.acquireSlot.1.toNat) := by
  rw [ThreadLimiter.acquireSlot_inUse]
  omega

/-- The slots in use cover those of the other holders. -/
theorem otherRelease_moved {s : SlotState} (ledger : Ledger s) (some_ : s.others ≠ 0) :
    s.limiter.releaseSlot.inUse + s.others = s.limiter.inUse + (s.others - 1) := by
  have balance := ledger.balance
  have backed := ledger.backed
  rw [ThreadLimiter.releaseSlot_inUse]
  omega

theorem ledger_step (s : SlotState) (e : SlotEvent) (ledger : Ledger s) : Ledger (s.step e) := by
  cases e with
  | start => exact ledger_start ledger
  | stop => exact ledger_stop ledger
  | thread i step => exact ledger.of_worker (threadStep_ownership s.worker i step)
  | submitAudio chunk => exact ledger.of_worker (submitAudio_ownership s.worker chunk)
  | getTranscription => exact ledger.of_worker (getTranscription_ownership s.worker)
  | otherAcquire => exact ledger.of_others (otherAcquire_moved s)
  | otherRelease =>
    simp only [SlotState.step]
    split
    · exact ledger
    · rename_i some_
      exact ledger.of_others (otherRelease_moved ledger some_)

/-- Only a start that finds a dead thread breaks what is kept. -/
theorem slotsKept_step (s : SlotState) (e : SlotEvent) (good : Ledger s ∧ SlotsKept s) :
    (Ledger (s.step e) ∧ SlotsKept (s.step e)) ↔ FreshStart s e := by
  obtain ⟨ledger, kept⟩ := good
  have next := ledger_step s e ledger
  cases e with
  | start => rw [slotsKept_start ledger kept, and_iff_right next]
  | stop => exact iff_of_true ⟨next, slotsKept_stop ledger kept⟩ trivial
  | thread i step =>
    have same := slotsKept_of_worker ledger (threadStep_ownership s.worker i step)
    exact iff_of_true ⟨next, same.mpr kept⟩ trivial
  | submitAudio chunk =>
    have same := slotsKept_of_worker ledger (submitAudio_ownership s.worker chunk)
    exact iff_of_true ⟨next, same.mpr kept⟩ trivial
  | getTranscription =>
    have same := slotsKept_of_worker ledger (getTranscription_ownership s.worker)
    exact iff_of_true ⟨next, same.mpr kept⟩ trivial
  | otherAcquire =>
    have same := slotsKept_of_others ledger (otherAcquire_moved s)
    exact iff_of_true ⟨next, same.mpr kept⟩ trivial
  | otherRelease =>
    refine iff_of_true ⟨next, ?_⟩ trivial
    simp only [SlotState.step]
    split
    · exact kept
    · rename_i some_
      exact (slotsKept_of_others ledger (otherRelease_moved ledger some_)).mpr kept

/-! ## Whole runs -/

theorem slotsKept_create (limiter : ThreadLimiter) (maxQueueSize : Nat)
    (positive : 1 ≤ maxQueueSize) : SlotsKept (.create limiter maxQueueSize positive) :=
  (slotsKept_iff (ledger_create limiter maxQueueSize positive)).mpr rfl

/-- In every state of a run the worker has at most one slot, loses it by a stop and leaves
other slots alone, exactly if no start of the run finds a thread that died since the last
stop. -/
theorem slots_kept_iff_fresh_starts (limiter : ThreadLimiter) (maxQueueSize : Nat)
    (positive : 1 ≤ maxQueueSize) (events : List SlotEvent) :
    (∀ before after, events = before ++ after →
        SlotsKept (run SlotState.step (.create limiter maxQueueSize positive) before)) ↔
      Along SlotState.step FreshStart (.create limiter maxQueueSize positive) events := by
  have start := ledger_create limiter maxQueueSize positive
  have reached := forall_reached_iff_along slotsKept_step _
    ⟨start, slotsKept_create limiter maxQueueSize positive⟩ events
  rw [← reached]
  constructor
  · intro kept before after split
    exact ⟨run_invariant ledger_step _ start before, kept before after split⟩
  · intro good before after split
    exact (good before after split).2

/-- The limiter of size two, all slots free. -/
def twoSlots : ThreadLimiter := ⟨2, 2, 0, by omega, rfl⟩

theorem slots_kept_iff_fresh_starts_two :
    Along SlotState.step FreshStart (.create twoSlots 1 (by omega)) [.start, .stop, .start] ∧
      ∀ before after, [SlotEvent.start, .stop, .start] = before ++ after →
        SlotsKept (run SlotState.step (.create twoSlots 1 (by omega)) before) := by
  have fresh : Along SlotState.step FreshStart (.create twoSlots 1 (by omega))
      [.start, .stop, .start] := ⟨Or.inl rfl, trivial, Or.inl rfl, trivial⟩
  exact ⟨fresh, (slots_kept_iff_fresh_starts twoSlots 1 (by omega) _).mpr fresh⟩

/-- A start, a chunk the engine raises on, a second start. -/
def restartAfterDeath : List SlotEvent :=
  [.start, .submitAudio ⟨0, [0]⟩, .thread 0 .take, .thread 0 .crash, .start]

/-- The second start is granted a second slot, and a stop gives back only one. -/
theorem restart_leaks_slot :
    let s := run SlotState.step (.create twoSlots 1 (by omega)) restartAfterDeath
    (s.acquired = 2 ∧ s.released = 0) ∧
      ((s.step .stop).acquired = 2 ∧ (s.step .stop).released = 1) ∧ ¬ SlotsKept s := by
  refine ⟨by decide, by decide, ?_⟩
  intro kept
  exact absurd kept.atMostOne (by decide)

end Apcos.Guarantees.ThreadSlots
