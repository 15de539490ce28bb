import Mathlib.Tactic.Common

/-!
# Threads of a stoppable loop

`start`, `stop`, `is_running` and `_run_loop` of core/behavior/resource_governor.py and of
voice/wake_word_engine.py, which differ in what a pass of the loop does: an evaluation whose
exceptions are caught, or a look at the next chunk, which may raise. `start` and the first half of
`stop` hold the thread lock and are one step each; the join comes after the lock and gives up
after a second. A loop thread tests the stop event and makes a pass in two steps.

`abandoned` and `begun` are logs that no step reads: threads whose join gave up, and the thread of
each pass begun.
-/
namespace Apcos.Source.Behavior

/-- Where a thread is in `_run_loop`. -/
inductive LoopPoint where
  | testing
  | passing
  | ended
  deriving DecidableEq

def LoopPoint.isAlive : LoopPoint → Bool
  | testing | passing => true
  | ended => false

/-- A call of `stop` after it released the lock. -/
inductive StopCall where
  | joining (thread : Option Nat)
  | returned
  deriving DecidableEq

/-- The thread that a call waits for. -/
def StopCall.target : StopCall → Option Nat
  | joining thread => thread
  | returned => none

/-- `threads` are all threads ever started, `thread` the current one among them. -/
structure LoopThreads where
  stopEvent : Bool
  threads : List LoopPoint
  thread : Option Nat
  stops : List StopCall
  abandoned : List Nat
  begun : List Nat

inductive LoopLabel where
  | start
  | stop
  /-- The join of a call returns, with or without the thread. -/
  | join (call : Nat) (timedOut : Bool)
  /-- A thread goes on; a pass raises or not. -/
  | thread (thread : Nat) (raises : Bool)
  deriving DecidableEq

namespace LoopThreads

def create : LoopThreads := ⟨false, [], none, [], [], []⟩

def isAlive (s : LoopThreads) (thread : Nat) : Bool :=
  match s.threads[thread]? with
  | some point => point.isAlive
  | none => false

def isRunning (s : LoopThreads) : Bool :=
  match s.thread with
  | some thread => s.isAlive thread
  | none => false

def start (s : LoopThreads) : LoopThreads :=
  if s.isRunning then s
  else
    { s with
      stopEvent := false
      threads := s.threads ++ [.testing]
      thread := some s.threads.length }

def stop (s : LoopThreads) : LoopThreads :=
  { s with stopEvent := true, thread := none, stops := s.stops ++ [.joining s.thread] }

def join (s : LoopThreads) (call : Nat) (timedOut : Bool) : LoopThreads :=
  match s.stops[call]? with
  | some (.joining none) => { s with stops := s.stops.set call .returned }
  | some (.joining (some thread)) =>
    if !s.isAlive thread then { s with stops := s.stops.set call .returned }
    else if timedOut then
      { s with stops := s.stops.set call .returned, abandoned := s.abandoned ++ [thread] }
    else s
  | some .returned | none => s

def runLoop (s : LoopThreads) (thread : Nat) (raises : Bool) : LoopThreads :=
  match s.threads[thread]? with
  | some .testing =>
    if s.stopEvent then { s with threads := s.threads.set thread .ended }
    else { s with threads := s.threads.set thread .passing, begun := s.begun ++ [thread] }
  | some .passing =>
    { s with threads := s.threads.set thread (if raises then .ended else .testing) }
  | some .ended | none => s

def step (s : LoopThreads) : LoopLabel → LoopThreads
  | .start => s.start
  | .stop => s.stop
  | .join call timedOut => s.join call timedOut
  | .thread thread raises => s.runLoop thread raises

end LoopThreads

end Apcos.Source.Behavior
