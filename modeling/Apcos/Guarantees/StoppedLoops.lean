import Apcos.Lib.Parties
import Apcos.Lib.Runs
import Apcos.Source.Behavior.LoopThreads

/-!
# Threads that outlive a stop

core/behavior/resource_governor.py:203-232 and voice/wake_word_engine.py:33-73, however callers
and loop threads interleave. A thread lives only as the current one, while a `stop` joins it, or
after such a join gave up; with the stop event set no pass is begun before the next `start`, and
every thread is through after the pass it is in.
-/
namespace Apcos.Guarantees.StoppedLoops

open Apcos.Lib
open Apcos.Source.Behavior
open Apcos.Source.Behavior.LoopThreads

variable {s : LoopThreads}

/-! ## Who knows of a thread -/

/-- The current thread, those that calls wait for, and those given up. -/
def known (s : LoopThreads) : List Nat :=
  s.thread.toList ++ (s.stops.filterMap StopCall.target ++ s.abandoned)

structure Known (s : LoopThreads) : Prop where
  alive : ∀ (i : Nat) (point : LoopPoint), s.threads[i]? = some point → point.isAlive = true →
    i ∈ known s
  stopped : s.stopEvent = true → s.thread = none

theorem known_create : Known create := by
  refine ⟨fun i point found => ?_, fun set => ?_⟩
  · cases found
  · cases set

theorem isAlive_of {i : Nat} {point : LoopPoint} (found : s.threads[i]? = some point) :
    s.isAlive i = point.isAlive := by
  rw [LoopThreads.isAlive, found]

theorem mem_known {i : Nat} :
    i ∈ known s ↔ s.thread = some i ∨ (∃ call ∈ s.stops, call.target = some i) ∨
      i ∈ s.abandoned := by
  simp [known, eq_comm]

theorem Known.start (inv : Known s) : Known s.start := by
  unfold LoopThreads.start
  split
  · exact inv
  · rename_i idle
    refine ⟨fun i point found alive => mem_known.mpr ?_, fun set => by cases set⟩
    rcases getElem?_concat_cases found with before | ⟨rfl, -⟩
    · rcases mem_known.mp (inv.alive i point before alive) with current | other
      · refine absurd ?_ idle
        rw [isRunning, current]
        exact (isAlive_of before).trans alive
      · exact Or.inr other
    · exact Or.inl rfl

theorem Known.stop (inv : Known s) : Known s.stop := by
  refine ⟨fun i point found alive => mem_known.mpr ?_, fun _ => rfl⟩
  rcases mem_known.mp (inv.alive i point found alive) with current | ⟨call, member, target⟩ | given
  · exact Or.inr (Or.inl ⟨.joining s.thread,
      List.mem_append_right _ (List.mem_singleton_self _), current⟩)
  · exact Or.inr (Or.inl ⟨call, List.mem_append_left _ member, target⟩)
  · exact Or.inr (Or.inr given)

/-- A call that returns lets go of the thread it waited for. -/
theorem Known.returned (inv : Known s) {call : Nat} {target : Option Nat}
    (here : s.stops[call]? = some (.joining target)) (abandoned : List Nat)
    (kept : ∀ i ∈ s.abandoned, i ∈ abandoned)
    (done : ∀ i, target = some i → s.isAlive i = true → i ∈ abandoned) :
    Known { s with stops := s.stops.set call .returned, abandoned } := by
  refine ⟨fun i point found alive => mem_known.mpr ?_, inv.stopped⟩
  rcases mem_known.mp (inv.alive i point found alive) with current | ⟨other, member, names⟩ | given
  · exact Or.inl current
  · by_cases same : other = .joining target
    · subst same
      exact Or.inr (Or.inr (done i names ((isAlive_of found).trans alive)))
    · exact Or.inr (Or.inl ⟨other, mem_set_of_ne here member same, names⟩)
  · exact Or.inr (Or.inr (kept i given))

/-- A join that times out leaves its thread to the others. -/
theorem Known.join (inv : Known s) (call : Nat) (timedOut : Bool) :
    Known (s.join call timedOut) := by
  unfold LoopThreads.join
  cases here : s.stops[call]? with
  | none => exact inv
  | some phase =>
    cases phase with
    | returned => exact inv
    | joining target =>
      cases target with
      | none => exact inv.returned here s.abandoned (fun _ => id) fun i names => by cases names
      | some thread =>
        dsimp only
        split
        · rename_i dead
          refine inv.returned here s.abandoned (fun _ => id) fun i names alive => ?_
          cases names
          rw [alive] at dead
          cases dead
        · split
          · refine inv.returned here _ (fun _ => List.mem_append_left _) fun i names _ => ?_
            cases names
            exact List.mem_append_right _ (List.mem_singleton_self _)
          · exact inv

/-- Everything a thread can do. -/
inductive Passed (s : LoopThreads) (thread : Nat) : LoopThreads → Prop
  | stayed : Passed s thread s
  | ended (here : s.threads[thread]? = some .testing) (set : s.stopEvent = true) :
      Passed s thread { s with threads := s.threads.set thread .ended }
  | began (here : s.threads[thread]? = some .testing) (clear : s.stopEvent = false) :
      Passed s thread
        { s with threads := s.threads.set thread .passing, begun := s.begun ++ [thread] }
  | left (next : LoopPoint) (here : s.threads[thread]? = some .passing) (other : next ≠ .passing) :
      Passed s thread { s with threads := s.threads.set thread next }

theorem runLoop_passed (s : LoopThreads) (thread : Nat) (raises : Bool) :
    Passed s thread (s.runLoop thread raises) := by
  unfold runLoop
  cases here : s.threads[thread]? with
  | none => exact .stayed
  | some point =>
    cases point with
    | testing =>
      dsimp only
      split
      · rename_i set
        exact .ended here set
      · rename_i clear
        exact .began here (Bool.eq_false_iff.mpr clear)
    | passing => exact .left _ here (by cases raises <;> simp)
    | ended => exact .stayed

theorem Known.moved (inv : Known s) {thread : Nat} {point next : LoopPoint} (begun : List Nat)
    (here : s.threads[thread]? = some point) (alive : point.isAlive = true) :
    Known { s with threads := s.threads.set thread next, begun } := by
  refine ⟨fun i other found lives => ?_, inv.stopped⟩
  rcases getElem?_set_cases found with ⟨rfl, -⟩ | ⟨-, before⟩
  · exact inv.alive i point here alive
  · exact inv.alive i other before lives

theorem step_known (s : LoopThreads) (label : LoopLabel) (inv : Known s) :
    Known (step s label) := by
  cases label with
  | start => exact inv.start
  | stop => exact inv.stop
  | join call timedOut => exact inv.join call timedOut
  | thread thread raises =>
    have passed : Passed s thread (step s (.thread thread raises)) :=
      runLoop_passed s thread raises
    generalize step s (.thread thread raises) = s' at passed ⊢
    cases passed with
    | stayed => exact inv
    | ended here set => exact inv.moved s.begun here rfl
    | began here clear => exact inv.moved _ here rfl
    | left next here other => exact inv.moved s.begun here rfl

/-! ## With the stop event set -/

/-- The step changes where the thread is. -/
def moves (thread : Nat) (s : LoopThreads) (label : LoopLabel) : Bool :=
  (step s label).threads[thread]? != s.threads[thread]?

/-- How many moves a thread has left where it is. -/
def pointMoves : LoopPoint → Nat
  | .passing => 2
  | .testing => 1
  | .ended => 0

def movesLeft (thread : Nat) (s : LoopThreads) : Nat :=
  match s.threads[thread]? with
  | some point => pointMoves point
  | none => 0

theorem movesLeft_le (thread : Nat) (s : LoopThreads) : movesLeft thread s ≤ 2 := by
  unfold movesLeft
  split
  · rename_i point _
    cases point <;> simp [pointMoves]
  · exact Nat.zero_le 2

theorem join_frame (s : LoopThreads) (call : Nat) (timedOut : Bool) :
    ∃ (stops : List StopCall) (abandoned : List Nat),
      step s (.join call timedOut) = { s with stops, abandoned } := by
  unfold step LoopThreads.join
  dsimp only
  split
  · exact ⟨_, _, rfl⟩
  · split
    · exact ⟨_, _, rfl⟩
    · split <;> exact ⟨_, _, rfl⟩
  · exact ⟨_, _, rfl⟩
  · exact ⟨_, _, rfl⟩

/-- A step that leaves the threads alone uses up nothing. -/
theorem movesLeft_same {label : LoopLabel} (threads : (step s label).threads = s.threads)
    (thread : Nat) :
    (moves thread s label).toNat + movesLeft thread (step s label) ≤ movesLeft thread s := by
  unfold moves movesLeft
  rw [threads, bne_self_eq_false]
  simp

theorem movesLeft_set {label : LoopLabel} {mover : Nat} {point next : LoopPoint}
    (here : s.threads[mover]? = some point) (fewer : pointMoves next < pointMoves point)
    (threads : (step s label).threads = s.threads.set mover next) (thread : Nat) :
    (moves thread s label).toNat + movesLeft thread (step s label) ≤ movesLeft thread s := by
  unfold moves movesLeft
  rw [threads]
  by_cases this : mover = thread
  · subst this
    have one := Bool.toNat_le ((s.threads.set mover next)[mover]? != s.threads[mover]?)
    rw [List.getElem?_set_self (List.getElem?_eq_some_iff.mp here).1, here] at one ⊢
    dsimp only
    omega
  · rw [List.getElem?_set_ne this, bne_self_eq_false]
    simp

/-- Only `start` clears the event, and while it is set no pass is begun. -/
theorem step_stopped (label : LoopLabel) (set : s.stopEvent = true) (noStart : label ≠ .start) :
    (step s label).stopEvent = true ∧ (step s label).begun = s.begun ∧
      ∀ thread, (moves thread s label).toNat + movesLeft thread (step s label) ≤
        movesLeft thread s := by
  cases label with
  | start => exact absurd rfl noStart
  | stop => exact ⟨rfl, rfl, movesLeft_same rfl⟩
  | join call timedOut =>
    obtain ⟨stops, abandoned, same⟩ := join_frame s call timedOut
    refine ⟨?_, ?_, movesLeft_same ?_⟩
    · rw [same]
      exact set
    · rw [same]
    · rw [same]
  | thread mover raises =>
    have passed := runLoop_passed s mover raises
    generalize after : s.runLoop mover raises = s' at passed
    have same : step s (.thread mover raises) = s' := after
    have threads := congrArg LoopThreads.threads same
    cases passed with
    | stayed =>
      refine ⟨?_, ?_, movesLeft_same threads⟩
      · rw [same]
        exact set
      · rw [same]
    | ended here _ =>
      have fewer : pointMoves .ended < pointMoves .testing := Nat.zero_lt_succ 0
      refine ⟨?_, ?_, movesLeft_set here fewer threads⟩
      · rw [same]
        exact set
      · rw [same]
    | began here clear => cases set.symm.trans clear
    | left next here other =>
      have fewer : pointMoves next < pointMoves .passing := by
        cases next with
        | passing => exact absurd rfl other
        | testing => exact Nat.lt_succ_self 1
        | ended => exact Nat.zero_lt_succ 1
      refine ⟨?_, ?_, movesLeft_set here fewer threads⟩
      · rw [same]
        exact set
      · rw [same]

/-- Once the event is set no pass begins, and each thread has two moves left. -/
theorem run_stopped (set : s.stopEvent = true) (later : List LoopLabel)
    (noStart : ∀ label ∈ later, label ≠ .start) :
    (run step s later).begun = s.begun ∧
      ∀ thread, (observations step (moves thread) s later).countP id ≤ 2 := by
  have met : Along step (fun _ label => label ≠ .start) s later := along_of_mem noStart s
  have kept : ∀ (t : LoopThreads) (label : LoopLabel),
      t.stopEvent = true ∧ t.begun = s.begun → label ≠ .start →
        (step t label).stopEvent = true ∧ (step t label).begun = s.begun := by
    rintro t label ⟨set, same⟩ noStart
    obtain ⟨still, begun, -⟩ := step_stopped label set noStart
    exact ⟨still, begun.trans same⟩
  refine ⟨(run_invariant_along kept s ⟨set, rfl⟩ later met).2, fun thread => ?_⟩
  have stopped := along_of_invariant kept s ⟨set, rfl⟩ later met
  have falls : ∀ (t : LoopThreads) (label : LoopLabel),
      label ≠ .start ∧ t.stopEvent = true ∧ t.begun = s.begun →
        (moves thread t label).toNat + movesLeft thread (step t label) ≤ movesLeft thread t :=
    fun t label given => (step_stopped label given.2.1 given.1).2.2 thread
  have counted := countP_observations_add_le falls s later (along_and s later met stopped)
  exact (Nat.le_add_right _ _).trans (counted.trans (movesLeft_le thread s))

/-! ## Runs -/

/-- There are no more live threads than a current one, joins under way and joins given up. With
the stop event set no pass is begun before the next `start` and each thread moves at most twice
more; and where every join was in time, no thread is left. -/
theorem stopped_loops_end (labels : List LoopLabel) :
    let s := run step create labels
    s.threads.countP LoopPoint.isAlive ≤ s.thread.toList.length +
        ((s.stops.filterMap StopCall.target).length + s.abandoned.length) ∧
      (s.stopEvent = true → s.isRunning = false ∧
        ((∀ call ∈ s.stops, call = .returned) → s.abandoned = [] →
          ∀ point ∈ s.threads, point = .ended) ∧
        ∀ later : List LoopLabel, (∀ label ∈ later, label ≠ .start) →
          (run step s later).begun = s.begun ∧
            ∀ thread, (observations step (moves thread) s later).countP id ≤ 2) := by
  intro s
  have inv : Known s := run_invariant step_known create known_create labels
  refine ⟨?_, fun set => ?_⟩
  · have counted := countP_le_length inv.alive
    simpa [known] using counted
  · have none := inv.stopped set
    refine ⟨by rw [isRunning, none], fun returned in_time point member => ?_, run_stopped set⟩
    obtain ⟨i, found⟩ := List.mem_iff_getElem?.mp member
    cases point with
    | ended => rfl
    | _ =>
      rcases mem_known.mp (inv.alive i _ found rfl) with current | ⟨call, there, names⟩ | given
      · cases current.symm.trans none
      · rw [returned call there] at names
        cases names
      · rw [in_time] at given
        cases given

/-- A `start` in the time that a `stop` joins: both threads go on. -/
def restarted : List LoopLabel :=
  [.start, .thread 0 false, .stop, .start, .thread 0 false, .thread 0 false, .thread 1 false,
    .join 0 true]

theorem stopped_loops_end_restarted :
    let s := run step create restarted
    (s.begun = [0, 0, 1] ∧ s.abandoned = [0] ∧ s.threads.countP LoopPoint.isAlive = 2) ∧
      s.threads.countP LoopPoint.isAlive ≤ s.thread.toList.length +
        ((s.stops.filterMap StopCall.target).length + s.abandoned.length) ∧
      (s.stopEvent = true → s.isRunning = false ∧
        ((∀ call ∈ s.stops, call = .returned) → s.abandoned = [] →
          ∀ point ∈ s.threads, point = .ended) ∧
        ∀ later : List LoopLabel, (∀ label ∈ later, label ≠ .start) →
          (run step s later).begun = s.begun ∧
            ∀ thread, (observations step (moves thread) s later).countP id ≤ 2) :=
  ⟨by decide, stopped_loops_end restarted⟩

end Apcos.Guarantees.StoppedLoops
