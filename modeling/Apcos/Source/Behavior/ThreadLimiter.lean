import Apcos.Source.Voice.TranscriptionWorker

/-!
# Thread limiter

core/behavior/thread_limiter.py, and `start` and `stop` of
voice/transcription_worker.py on a worker that was given a limiter. A call is one
step, taken when its timed wait ends; the timeout itself is left out.
-/
namespace Apcos.Source.Behavior

open Apcos.Source.Python
open Apcos.Source.Voice

/-- `semaphore` is the counter of the bounded semaphore. -/
structure ThreadLimiter where
  maxThreads : Nat
  semaphore : Nat
  inUse : Nat
  positive : 1 ≤ maxThreads
  balance : semaphore + inUse = maxThreads

namespace ThreadLimiter

def create (maxThreads : Int) : Except Exc ThreadLimiter :=
  if positive : 1 ≤ maxThreads then
    .ok ⟨maxThreads.toNat, maxThreads.toNat, 0, by omega, by omega⟩
  else .error ⟨.valueError, "max_threads must be >= 1"⟩

def acquireSlot (l : ThreadLimiter) : Bool × ThreadLimiter :=
  if free : 0 < l.semaphore then
    (true, { l with
      semaphore := l.semaphore - 1
      inUse := l.inUse + 1
      balance := by have := l.balance; omega })
  else (false, l)

/-- The semaphore is below its bound when a slot is in use, so its `release` does not raise. -/
def releaseSlot (l : ThreadLimiter) : ThreadLimiter :=
  if used : l.inUse < 1 then l
  else { l with
    semaphore := l.semaphore + 1
    inUse := l.inUse - 1
    balance := by have := l.balance; omega }

def availableSlots (l : ThreadLimiter) : Nat := l.maxThreads - l.inUse

theorem availableSlots_eq (l : ThreadLimiter) : l.availableSlots = l.semaphore := by
  have := l.balance
  simp only [availableSlots]
  omega

theorem acquireSlot_of_free {l : ThreadLimiter} (free : 0 < l.semaphore) :
    l.acquireSlot.1 = true ∧ l.acquireSlot.2.inUse = l.inUse + 1 := by
  simp [acquireSlot, free]

theorem acquireSlot_of_full {l : ThreadLimiter} (full : l.semaphore = 0) :
    l.acquireSlot = (false, l) := by
  simp [acquireSlot, full]

theorem acquireSlot_inUse (l : ThreadLimiter) :
    l.acquireSlot.2.inUse = l.inUse + l.acquireSlot.1.toNat := by
  by_cases free : 0 < l.semaphore
  · simp [acquireSlot_of_free free]
  · simp [acquireSlot_of_full (Nat.eq_zero_of_not_pos free)]

theorem releaseSlot_inUse (l : ThreadLimiter) : l.releaseSlot.inUse = l.inUse - 1 := by
  unfold releaseSlot
  split
  · omega
  · rfl

end ThreadLimiter

/-! ## Worker with a limiter -/

/-- The limiter is asked only when no thread is alive. -/
def startWorker (w : TranscriptionWorker) (l : ThreadLimiter) :
    Bool × TranscriptionWorker × ThreadLimiter :=
  if w.isRunning then (true, w, l)
  else
    let (granted, limiter) := l.acquireSlot
    let (started, worker) := w.start granted
    (started, worker, limiter)

def stopWorker (w : TranscriptionWorker) (l : ThreadLimiter) :
    TranscriptionWorker × ThreadLimiter :=
  (w.stop, if w.slotAcquired then l.releaseSlot else l)

end Apcos.Source.Behavior
