import Apcos.Lib.Parties
import Apcos.Source.Behavior.ThreadLimiter

/-!
# Thread limiter, step by step

core/behavior/thread_limiter.py among threads. `acquire_slot` is a step on the
semaphore and then the increment under the lock, `release_slot` the decrement under
the lock and then a step on the semaphore, and threads are interrupted in between.
The semaphore is bounded: a release beyond its initial value raises. A wait ends
when the semaphore is free or, timed out, when it is not.
-/
namespace Apcos.Source.Behavior

open Apcos.Lib
open Apcos.Source.Python

/-- Where a thread is in its call. -/
inductive SlotPhase where
  | outside
  | acquiring
  | releasing
  deriving DecidableEq, Repr

/-- `held` are the slots the thread was granted and has not given back. -/
structure SlotThread where
  held : Nat
  phase : SlotPhase
  deriving DecidableEq, Repr

/-- `raised` collects what `release_slot` raised to its callers. -/
structure LimiterState where
  maxThreads : Nat
  semaphore : Nat
  inUse : Int
  threads : List SlotThread
  raised : List Exc

/-- The step the thread `i` takes. -/
inductive LimiterStep where
  | semaphoreAcquire (i : Nat)
  | increment (i : Nat)
  | decrement (i : Nat)
  | semaphoreRelease (i : Nat)
  deriving DecidableEq, Repr

namespace LimiterState

/-- A limiter among `count` threads. -/
def create (maxThreads : Int) (count : Nat) : Except Exc LimiterState :=
  if maxThreads < 1 then .error ⟨.valueError, "max_threads must be >= 1"⟩
  else
    .ok ⟨maxThreads.toNat, maxThreads.toNat, 0, List.replicate count ⟨0, .outside⟩, []⟩

def availableSlots (s : LimiterState) : Int := max 0 (s.maxThreads - s.inUse)

/-- Slots held, over all threads. -/
def held (s : LimiterState) : Nat := total (·.held) s.threads

/-- Threads between the two steps of a call. -/
def between (s : LimiterState) : Nat := s.threads.countP (·.phase ≠ .outside)

/-- Threads that hold a slot. -/
def holders (s : LimiterState) : Nat := s.threads.countP (0 < ·.held)

/-- `self._semaphore.acquire(timeout=...)`; a thread whose wait timed out returns. -/
def semaphoreAcquire (s : LimiterState) (i : Nat) (thread : SlotThread) : LimiterState :=
  if 0 < s.semaphore then
    { s with
      semaphore := s.semaphore - 1
      threads := s.threads.set i { thread with phase := .acquiring } }
  else s

/-- `self._in_use += 1`, and the call returns `True`. -/
def increment (s : LimiterState) (i : Nat) (thread : SlotThread) : LimiterState :=
  { s with
    inUse := s.inUse + 1
    threads := s.threads.set i ⟨thread.held + 1, .outside⟩ }

/-- The locked part of `release_slot`. -/
def decrement (s : LimiterState) (i : Nat) (thread : SlotThread) : LimiterState :=
  if s.inUse < 1 then s
  else
    { s with
      inUse := s.inUse - 1
      threads := s.threads.set i ⟨thread.held - 1, .releasing⟩ }

/-- `self._semaphore.release()`. -/
def semaphoreRelease (s : LimiterState) (i : Nat) (thread : SlotThread) : LimiterState :=
  if s.maxThreads < s.semaphore + 1 then
    { s with
      threads := s.threads.set i { thread with phase := .outside }
      raised := s.raised ++ [⟨.valueError, "Semaphore released too many times"⟩] }
  else
    { s with
      semaphore := s.semaphore + 1
      threads := s.threads.set i { thread with phase := .outside } }

/-- A step that the thread is not at does nothing. -/
def step (s : LimiterState) : LimiterStep → LimiterState
  | .semaphoreAcquire i =>
    match s.threads[i]? with
    | some ⟨held, .outside⟩ => s.semaphoreAcquire i ⟨held, .outside⟩
    | _ => s
  | .increment i =>
    match s.threads[i]? with
    | some ⟨held, .acquiring⟩ => s.increment i ⟨held, .acquiring⟩
    | _ => s
  | .decrement i =>
    match s.threads[i]? with
    | some ⟨held, .outside⟩ => s.decrement i ⟨held, .outside⟩
    | _ => s
  | .semaphoreRelease i =>
    match s.threads[i]? with
    | some ⟨held, .releasing⟩ => s.semaphoreRelease i ⟨held, .releasing⟩
    | _ => s

/-- A release is made by a thread that holds a slot, or while no thread holds one. -/
def Disciplined (s : LimiterState) : LimiterStep → Prop
  | .decrement i => (∃ thread, s.threads[i]? = some thread ∧ 0 < thread.held) ∨ s.held = 0
  | _ => True

end LimiterState

end Apcos.Source.Behavior
