import Apcos.Lib.Runs
import Apcos.Source.Behavior.LimiterSteps

/-!
# Counters of the thread limiter

The semaphore and the count of slots in use move in separate critical sections, in
opposite order on the way in and out. A thread caught between its two steps has left
one and not reached the other, so the two counters and these threads together make up
the slots there are. In between calls the limiter is the one whose calls are atomic.
-/
namespace Apcos.Guarantees.LimiterCounters

open Apcos.Lib
open Apcos.Source.Python (Exc)
open Apcos.Source.Behavior

variable {maxThreads : Int}

/-! ## The invariant -/

/-- `counted`: the lock guards the number of slots held. -/
structure Accounted (maxThreads : Int) (s : LimiterState) : Prop where
  bound : (s.maxThreads : Int) = maxThreads
  balance : s.semaphore + s.inUse + s.between = maxThreads
  counted : s.inUse = s.held
  neverRaised : s.raised = []

/-- What the callers of a limiter of that many slots may rely on. -/
structure CountersAgree (maxThreads : Int) (s : LimiterState) : Prop where
  balance : s.semaphore + s.inUse + s.between = maxThreads
  neverRaised : s.raised = []
  holdersBounded : (s.holders : Int) ≤ maxThreads ∧ (s.held : Int) ≤ maxThreads
  availableBounded : 0 ≤ s.availableSlots ∧ s.availableSlots ≤ maxThreads

theorem Accounted.countersAgree {s : LimiterState}
    (accounted : Accounted maxThreads s) : CountersAgree maxThreads s := by
  have bound := accounted.bound
  have balance := accounted.balance
  have counted := accounted.counted
  have holders : s.holders ≤ s.held := countP_pos_le_total SlotThread.held s.threads
  refine ⟨balance, accounted.neverRaised, ⟨by omega, by omega⟩, ?_, ?_⟩
  · exact le_max_left _ _
  · unfold LimiterState.availableSlots
    omega

theorem accounted_create {count : Nat} {s : LimiterState}
    (made : LimiterState.create maxThreads count = .ok s) : Accounted maxThreads s := by
  unfold LimiterState.create at made
  split at made
  · cases made
  · cases made
    refine ⟨?_, ?_, ?_, rfl⟩
    · dsimp only
      omega
    · simp [LimiterState.between, List.countP_replicate]
      omega
    · simp [LimiterState.held, total_replicate]

/-! ## One step -/

/-- One where the thread is between the two steps of a call. -/
def SlotThread.between (thread : SlotThread) : Nat := (decide (thread.phase ≠ .outside)).toNat

/-- A thread moves what it gains or loses from the counters. -/
theorem Accounted.of_set {s s' : LimiterState} (accounted : Accounted maxThreads s) {i : Nat}
    {thread moved : SlotThread} (here : s.threads[i]? = some thread)
    (threads : s'.threads = s.threads.set i moved)
    (same : s'.maxThreads = s.maxThreads ∧ s'.raised = s.raised)
    (balance : (s'.semaphore : Int) + s'.inUse + SlotThread.between moved =
      s.semaphore + s.inUse + SlotThread.between thread)
    (counted : s'.inUse + thread.held = s.inUse + moved.held) : Accounted maxThreads s' := by
  have held : s'.held + thread.held = s.held + moved.held := by
    simp only [LimiterState.held, threads]
    exact total_set (·.held) here moved
  have between : s'.between + SlotThread.between thread =
      s.between + SlotThread.between moved := by
    simp only [LimiterState.between, threads, countP_eq_total]
    exact total_set SlotThread.between here moved
  have before := accounted.balance
  have inUse := accounted.counted
  refine ⟨?_, ?_, ?_, same.2.trans accounted.neverRaised⟩
  · rw [same.1]
    exact accounted.bound
  · omega
  · omega

theorem accounted_semaphoreAcquire {s : LimiterState} {i held : Nat}
    (accounted : Accounted maxThreads s) (here : s.threads[i]? = some ⟨held, .outside⟩) :
    Accounted maxThreads (s.semaphoreAcquire i ⟨held, .outside⟩) := by
  unfold LimiterState.semaphoreAcquire
  split
  · rename_i free
    refine accounted.of_set here rfl ⟨rfl, rfl⟩ ?_ rfl
    change ((s.semaphore - 1 : Nat) : Int) + s.inUse + 1 = s.semaphore + s.inUse + 0
    omega
  · exact accounted

theorem accounted_increment {s : LimiterState} {i held : Nat}
    (accounted : Accounted maxThreads s) (here : s.threads[i]? = some ⟨held, .acquiring⟩) :
    Accounted maxThreads (s.increment i ⟨held, .acquiring⟩) := by
  refine accounted.of_set here rfl ⟨rfl, rfl⟩ ?_ ?_
  · change (s.semaphore : Int) + (s.inUse + 1) + 0 = s.semaphore + s.inUse + 1
    omega
  · change s.inUse + 1 + (held : Int) = s.inUse + ((held + 1 : Nat) : Int)
    omega

/-- While no slot is held none is in use, and the release returns. -/
theorem accounted_decrement {s : LimiterState} {i held : Nat}
    (accounted : Accounted maxThreads s) (here : s.threads[i]? = some ⟨held, .outside⟩)
    (disciplined : s.Disciplined (.decrement i)) :
    Accounted maxThreads (s.decrement i ⟨held, .outside⟩) := by
  unfold LimiterState.decrement
  split
  · exact accounted
  · rename_i used
    have counted := accounted.counted
    have holds : 0 < held := by
      rcases disciplined with ⟨thread, found, positive⟩ | none_held
      · rw [here] at found
        cases found
        exact positive
      · omega
    refine accounted.of_set here rfl ⟨rfl, rfl⟩ ?_ ?_
    · change (s.semaphore : Int) + (s.inUse - 1) + 1 = s.semaphore + s.inUse + 0
      omega
    · change s.inUse - 1 + (held : Int) = s.inUse + ((held - 1 : Nat) : Int)
      omega

/-- The releasing thread itself is what the semaphore is below its bound by. -/
theorem accounted_semaphoreRelease {s : LimiterState} {i held : Nat}
    (accounted : Accounted maxThreads s) (here : s.threads[i]? = some ⟨held, .releasing⟩) :
    Accounted maxThreads (s.semaphoreRelease i ⟨held, .releasing⟩) := by
  have bound := accounted.bound
  have balance := accounted.balance
  have counted := accounted.counted
  have caught : 1 ≤ s.between := by
    unfold LimiterState.between
    rw [countP_eq_total]
    exact weight_le_total SlotThread.between here
  unfold LimiterState.semaphoreRelease
  rw [if_neg (by omega)]
  refine accounted.of_set here rfl ⟨rfl, rfl⟩ ?_ rfl
  change ((s.semaphore + 1 : Nat) : Int) + s.inUse + 0 = s.semaphore + s.inUse + 1
  omega

/-- A step of a disciplined thread keeps the counters in step with the slots held. -/
theorem accounted_step (s : LimiterState) (e : LimiterStep) (accounted : Accounted maxThreads s)
    (disciplined : s.Disciplined e) : Accounted maxThreads (s.step e) := by
  cases e with
  | semaphoreAcquire i =>
    simp only [LimiterState.step]
    split
    · exact accounted_semaphoreAcquire accounted ‹_›
    · exact accounted
  | increment i =>
    simp only [LimiterState.step]
    split
    · exact accounted_increment accounted ‹_›
    · exact accounted
  | decrement i =>
    simp only [LimiterState.step]
    split
    · exact accounted_decrement accounted ‹_› disciplined
    · exact accounted
  | semaphoreRelease i =>
    simp only [LimiterState.step]
    split
    · exact accounted_semaphoreRelease accounted ‹_›
    · exact accounted

/-! ## Whole runs -/

/-- Whatever the interleaving, the counters and the threads between them make up the
slots, and no release raises. -/
theorem counters_agree {count : Nat} {s : LimiterState}
    (made : LimiterState.create maxThreads count = .ok s) (steps : List LimiterStep)
    (disciplined : Along LimiterState.step LimiterState.Disciplined s steps) :
    CountersAgree maxThreads (run LimiterState.step s steps) :=
  (run_invariant_along accounted_step s (accounted_create made) steps disciplined).countersAgree

/-- Two threads of a limiter of two slots, caught between steps, and a third that has none. -/
def caughtInBetween : List LimiterStep :=
  [.decrement 2, .semaphoreAcquire 0, .semaphoreAcquire 1, .increment 1, .decrement 1,
    .decrement 2, .increment 0, .semaphoreRelease 1]

theorem counters_agree_two :
    CountersAgree 2 (run LimiterState.step
      ⟨2, 2, 0, List.replicate 3 ⟨0, .outside⟩, []⟩ caughtInBetween) :=
  @counters_agree 2 3 _ rfl caughtInBetween
    ⟨Or.inr rfl, trivial, trivial, trivial, Or.inl ⟨⟨1, .outside⟩, rfl, by decide⟩, Or.inr rfl,
      trivial, trivial, trivial⟩

/-! ## Calls that are not interrupted -/

/-- The limiter whose calls are atomic, with these counters. -/
structure Agrees (l : ThreadLimiter) (s : LimiterState) : Prop where
  maxThreads : s.maxThreads = l.maxThreads
  semaphore : s.semaphore = l.semaphore
  inUse : s.inUse = l.inUse

/-- Between calls the counters are those of such a limiter. -/
theorem agrees_of_quiescent {s : LimiterState} (accounted : Accounted maxThreads s)
    (positive : 1 ≤ maxThreads) (quiescent : s.between = 0) : ∃ l, Agrees l s := by
  have bound := accounted.bound
  have balance := accounted.balance
  have counted := accounted.counted
  exact ⟨⟨s.maxThreads, s.semaphore, s.held, by omega, by omega⟩, rfl, rfl, counted⟩

/-- The two halves of an acquire, one after the other, are the atomic call. -/
theorem acquire_uninterrupted {l : ThreadLimiter} {s : LimiterState} (agrees : Agrees l s)
    {i held : Nat} (here : s.threads[i]? = some ⟨held, .outside⟩) :
    Agrees l.acquireSlot.2 (run LimiterState.step s [.semaphoreAcquire i, .increment i]) := by
  obtain ⟨inside, -⟩ := List.getElem?_eq_some_iff.mp here
  by_cases free : 0 < l.semaphore
  · have first : s.step (.semaphoreAcquire i) = { s with
        semaphore := s.semaphore - 1
        threads := s.threads.set i ⟨held, .acquiring⟩ } := by
      simp only [LimiterState.step, here, LimiterState.semaphoreAcquire]
      rw [if_pos (agrees.semaphore ▸ free)]
    simp only [run_cons, run_nil, first]
    simp only [LimiterState.step, List.getElem?_set_self inside, LimiterState.increment,
      ThreadLimiter.acquireSlot, dif_pos free]
    exact ⟨agrees.maxThreads, congrArg (· - 1) agrees.semaphore, by simp [agrees.inUse]⟩
  · have first : s.step (.semaphoreAcquire i) = s := by
      simp only [LimiterState.step, here, LimiterState.semaphoreAcquire]
      rw [if_neg (agrees.semaphore ▸ free)]
    simp only [run_cons, run_nil, first]
    simp only [LimiterState.step, here, ThreadLimiter.acquireSlot, dif_neg free]
    exact agrees

/-- The two halves of a release, one after the other, are the atomic call. -/
theorem release_uninterrupted {l : ThreadLimiter} {s : LimiterState} (agrees : Agrees l s)
    {i held : Nat} (here : s.threads[i]? = some ⟨held, .outside⟩) :
    Agrees l.releaseSlot (run LimiterState.step s [.decrement i, .semaphoreRelease i]) := by
  obtain ⟨inside, -⟩ := List.getElem?_eq_some_iff.mp here
  have balance := l.balance
  have counted := agrees.inUse
  by_cases used : l.inUse < 1
  · have first : s.step (.decrement i) = s := by
      simp only [LimiterState.step, here, LimiterState.decrement]
      rw [if_pos (by omega)]
    simp only [run_cons, run_nil, first]
    simp only [LimiterState.step, here, ThreadLimiter.releaseSlot, dif_pos used]
    exact agrees
  · have first : s.step (.decrement i) = { s with
        inUse := s.inUse - 1
        threads := s.threads.set i ⟨held - 1, .releasing⟩ } := by
      simp only [LimiterState.step, here, LimiterState.decrement]
      rw [if_neg (by omega)]
    have room : ¬s.maxThreads < s.semaphore + 1 := by
      rw [agrees.maxThreads, agrees.semaphore]
      omega
    simp only [run_cons, run_nil, first]
    simp only [LimiterState.step, List.getElem?_set_self inside, LimiterState.semaphoreRelease,
      if_neg room, ThreadLimiter.releaseSlot, dif_neg used]
    refine ⟨agrees.maxThreads, congrArg (· + 1) agrees.semaphore, ?_⟩
    dsimp only
    omega

end Apcos.Guarantees.LimiterCounters
