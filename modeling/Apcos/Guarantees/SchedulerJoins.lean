import Apcos.Guarantees.SchedulerStops

/-!
# The end of a loop thread

os/src/scheduler.rs:66-78. Once the flag is cleared a loop thread is at its end after one more
pass at most: it has so many moves left, whatever else is going on, and it can always make the
next one unless it sleeps or another thread has the tasks. So a `stop` that joins it returns.
-/
namespace Apcos.Guarantees.SchedulerJoins

open Apcos.Lib
open Apcos.Source.Supervisor
open Apcos.Source.Supervisor.Scheduler
open Apcos.Guarantees.SchedulerCadence
open Apcos.Guarantees.SchedulerStops

variable {η : Type} {s : Scheduler η}

/-- How many moves a thread has left with a cleared flag and so many tasks; `none` is a thread
that is still to be spawned. -/
def movesLeft (count : Nat) : Option LoopPhase → Nat
  | some .reading => 2 * count + 5
  | some (.locking _) => 2 * count + 4
  | some (.scanning _ index) => 2 * (count - index) + 3
  | some (.acting _ index) => 2 * (count - index) + 2
  | some (.sleeping _) | none => 2
  | some .checking => 1
  | some .ended => 0

theorem movesLeft_le (count : Nat) (phase : Option LoopPhase) :
    movesLeft count phase ≤ 2 * count + 5 := by
  cases phase with
  | none =>
    simp only [movesLeft]
    omega
  | some phase => cases phase <;> simp only [movesLeft] <;> omega

def movesLeftOf (count thread : Nat) (s : Scheduler η) : Nat := movesLeft count s.loops[thread]?

/-- The step changes where the thread stands. -/
def moves (thread : Nat) (s : Scheduler η) (label : SchedulerLabel η) : Bool :=
  (step s label).loops[thread]? != s.loops[thread]?

theorem setLoop_here {thread : Nat} {phase : LoopPhase} (here : s.loops[thread]? = some phase)
    (moved : LoopPhase) : (s.setLoop thread moved).loops[thread]? = some moved :=
  List.getElem?_set_self (List.getElem?_eq_some_iff.mp here).1

/-- With a cleared flag a step of a thread leaves it where it is, or brings it closer to its end. -/
theorem loopStep_closer (cleared : s.running = false) {count : Nat} (bound : s.tasks.length ≤ count)
    (thread : Nat) (panics : Bool) :
    (s.loopStep thread panics).loops[thread]? = s.loops[thread]? ∨
      movesLeft count (s.loopStep thread panics).loops[thread]? + 1 ≤
        movesLeft count s.loops[thread]? := by
  have moved := s.loopStep_moved thread panics
  generalize s.loopStep thread panics = s' at moved
  have within {index : Nat} {task : ScheduledTask η} (found : s.tasks[index]? = some task) :
      index < count :=
    Nat.lt_of_lt_of_le (List.getElem?_eq_some_iff.mp found).1 bound
  cases moved with
  | stayed => exact Or.inl rfl
  | checked here =>
    rw [setLoop_here here, here, cleared]
    exact Or.inr (Nat.le_refl _)
  | read here =>
    rw [setLoop_here here, here]
    exact Or.inr (Nat.le_refl _)
  | refused now here poisoned =>
    rw [setLoop_here here, here]
    simp only [movesLeft]
    omega
  | woke wake here awake =>
    rw [setLoop_here here, here]
    exact Or.inr (Nat.le_refl _)
  | entered now here free sound =>
    rw [setLoop_here here, here]
    exact Or.inr (Nat.le_refl _)
  | skipped now index task here found early =>
    have below := within found
    rw [setLoop_here here, here]
    simp only [movesLeft]
    omega
  | began now index task here found due =>
    have next := setLoop_here here (.acting now index)
    right
    rw [here]
    change movesLeft count (s.setLoop thread (.acting now index)).loops[thread]? + 1 ≤ _
    rw [next]
    exact Nat.le_refl _
  | returned now index task here found =>
    have below := within found
    have next := setLoop_here here (.scanning now (index + 1))
    right
    rw [here]
    change movesLeft count (s.setLoop thread (.scanning now (index + 1))).loops[thread]? + 1 ≤ _
    rw [next]
    simp only [movesLeft]
    omega
  | panicked now index here =>
    have next := setLoop_here here .ended
    right
    rw [here]
    change movesLeft count (s.setLoop thread .ended).loops[thread]? + 1 ≤ _
    rw [next]
    simp only [movesLeft]
    omega
  | passed now index here done =>
    have next := setLoop_here here (.sleeping (s.clock + s.tick))
    right
    rw [here]
    change movesLeft count (s.setLoop thread (.sleeping (s.clock + s.tick))).loops[thread]? + 1 ≤ _
    rw [next]
    simp only [movesLeft]
    omega

theorem loopStep_other (s : Scheduler η) {thread other : Nat} (different : other ≠ thread)
    (panics : Bool) : (s.loopStep other panics).loops[thread]? = s.loops[thread]? := by
  rcases moved_loops (s.loopStep_moved other panics) with same | ⟨phase, next, -, -, same⟩
  · rw [same]
  · rw [same]
    exact List.getElem?_set_ne different

/-- The same of any step. -/
theorem step_closer (cleared : s.running = false) {count : Nat} (bound : s.tasks.length ≤ count)
    (thread : Nat) (label : SchedulerLabel η) :
    (step s label).loops[thread]? = s.loops[thread]? ∨
      movesLeft count (step s label).loops[thread]? + 1 ≤ movesLeft count s.loops[thread]? := by
  cases label with
  | elapse duration => exact Or.inl rfl
  | register name interval action =>
    left
    unfold step registerTask
    dsimp only
    split
    · rfl
    · split
      · rfl
      · split <;> rfl
  | start =>
    left
    unfold step start
    dsimp only
    split <;> rfl
  | stop => exact Or.inl rfl
  | call index =>
    obtain ⟨slot, calls, loops, spawned, same⟩ := s.step_call index
    rw [same]
    rcases spawned with rfl | rfl
    · exact Or.inl rfl
    · rcases Nat.lt_trichotomy thread s.loops.length with below | last | beyond
      · exact Or.inl (List.getElem?_append_left below)
      · subst last
        rw [List.getElem?_concat_length, List.getElem?_eq_none (Nat.le_refl _)]
        exact Or.inr (Nat.le_refl _)
      · left
        rw [List.getElem?_eq_none beyond.le, List.getElem?_eq_none]
        rw [List.length_append]
        exact beyond
  | loop other panics =>
    by_cases this : other = thread
    · subst this
      exact loopStep_closer cleared bound other panics
    · exact Or.inl (loopStep_other s this panics)

/-! ## Runs -/

/-- No step removes a task. -/
theorem step_tasks_length (s : Scheduler η) (label : SchedulerLabel η) :
    s.tasks.length ≤ (step s label).tasks.length := by
  cases label with
  | elapse duration => exact Nat.le_refl _
  | register name interval action =>
    unfold step registerTask
    dsimp only
    split
    · exact Nat.le_refl _
    · split
      · exact Nat.le_refl _
      · split
        · exact Nat.le_refl _
        · rw [List.length_append]
          exact Nat.le_add_right _ _
  | start =>
    unfold step start
    dsimp only
    split <;> exact Nat.le_refl _
  | stop => exact Nat.le_refl _
  | call index =>
    obtain ⟨slot, calls, loops, -, same⟩ := s.step_call index
    rw [same]
  | loop thread panics =>
    have moved : LoopMoved s thread (step s (.loop thread panics)) :=
      s.loopStep_moved thread panics
    generalize step s (.loop thread panics) = s' at moved ⊢
    cases moved with
    | returned now index task here found =>
      rw [List.length_set]
    | _ => exact Nat.le_refl _

/-- Only a start sets the running flag. -/
theorem step_cleared (s : Scheduler η) (label : SchedulerLabel η) (cleared : s.running = false)
    (noStart : label ≠ .start) : (step s label).running = false := by
  cases label with
  | elapse duration => exact cleared
  | register name interval action =>
    unfold step registerTask
    dsimp only
    split
    · exact cleared
    · split
      · exact cleared
      · split <;> exact cleared
  | start => exact absurd rfl noStart
  | stop => rfl
  | call index =>
    obtain ⟨slot, calls, loops, -, same⟩ := s.step_call index
    rw [same]
    exact cleared
  | loop thread panics =>
    exact (moved_control (s.loopStep_moved thread panics)).2.2.trans cleared

/-- With the flag cleared a thread has its current pass to finish: two moves for each task, and five
more. -/
theorem moves_bounded (cleared : s.running = false) (thread : Nat)
    (later : List (SchedulerLabel η)) (noStart : ∀ label ∈ later, label ≠ .start) :
    (observations step (moves thread) s later).countP id ≤
      2 * (run step s later).tasks.length + 5 := by
  let bound := (run step s later).tasks.length
  have bounded : Along step (fun t _ => t.tasks.length ≤ bound) s later :=
    along_of_given (fun t label => (step_tasks_length t label).trans) s later (Nat.le_refl _)
  have still := along_of_invariant step_cleared s cleared later (along_of_mem noStart s)
  have falls : ∀ (t : Scheduler η) (label : SchedulerLabel η),
      t.running = false ∧ t.tasks.length ≤ bound →
        (moves thread t label).toNat + movesLeftOf bound thread (step t label) ≤
          movesLeftOf bound thread t := by
    rintro t label ⟨cleared, within⟩
    unfold moves movesLeftOf
    rcases step_closer cleared within thread label with same | closer
    · rw [same, bne_self_eq_false]
      simp
    · have one := Bool.toNat_le ((step t label).loops[thread]? != t.loops[thread]?)
      omega
  have counted := countP_observations_add_le falls s later (along_and s later still bounded)
  have first : movesLeftOf bound thread s ≤ 2 * bound + 5 := movesLeft_le bound _
  exact (Nat.le_add_right _ _).trans (counted.trans first)

/-- Where a thread that cannot move stands. -/
inductive Held (s : Scheduler η) (thread : Nat) : Prop
  | gone (absent : s.loops[thread]? = none)
  | ended (here : s.loops[thread]? = some .ended)
  | asleep (wake : Nat) (here : s.loops[thread]? = some (.sleeping wake)) (early : s.clock < wake)
  | waiting (now other : Nat) (phase : LoopPhase) (here : s.loops[thread]? = some (.locking now))
      (there : s.loops[other]? = some phase) (different : other ≠ thread)
      (busy : phase.busy = true)

/-- A thread that does not move is over, asleep, or waits for a busy one. -/
theorem held_of_stuck (timed : Timed s) (thread : Nat) (panics : Bool)
    (stuck : (s.loopStep thread panics).loops[thread]? = s.loops[thread]?) : Held s thread := by
  have moved {phase next : LoopPhase} (here : s.loops[thread]? = some phase)
      (same : (s.setLoop thread next).loops[thread]? = some phase) : next = phase := by
    rw [setLoop_here here] at same
    exact Option.some.inj same
  unfold loopStep at stuck
  cases here : s.loops[thread]? with
  | none => exact .gone here
  | some phase =>
    rw [here] at stuck
    cases phase with
    | checking =>
      have same := moved here stuck
      split at same <;> cases same
    | reading => cases moved here stuck
    | locking now =>
      dsimp only at stuck
      split at stuck
      · rename_i held
        obtain ⟨phase, member, busy⟩ := List.any_eq_true.mp held
        obtain ⟨other, there⟩ := List.mem_iff_getElem?.mp member
        refine .waiting now other phase here there ?_ busy
        rintro rfl
        cases here.symm.trans there
        cases busy
      · split at stuck <;> cases moved here stuck
    | scanning now index =>
      dsimp only at stuck
      split at stuck
      · cases moved here stuck
      · split at stuck
        · cases moved here stuck
        · have same := moved here stuck
          simp at same
    | acting now index =>
      obtain ⟨-, -, -, ⟨task, found, -⟩, -⟩ := timed.standing _ (List.mem_of_getElem? here)
      dsimp only at stuck
      unfold leaveAction at stuck
      rw [found] at stuck
      dsimp only at stuck
      split at stuck <;> cases moved here stuck
    | sleeping wake =>
      dsimp only at stuck
      split at stuck
      · cases moved here stuck
      · rename_i early
        exact .asleep wake here (Nat.lt_of_not_le early)
    | ended => exact .ended here

end Apcos.Guarantees.SchedulerJoins
