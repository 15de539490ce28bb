import Apcos.Guarantees.SchedulerCadence

/-!
# Stopping the scheduler

os/src/scheduler.rs:56-97. While no call of `stop` is under way when a `start` takes effect, and
no `start` when a `stop` begins, there is one loop thread at most, and after a `stop` has returned
there is none and no action runs until the next `start`. A panic under the lock ends the schedule
for good: no later call makes an action run again.
-/
namespace Apcos.Guarantees.SchedulerStops

open Apcos.Lib
open Apcos.Source.Supervisor
open Apcos.Source.Supervisor.Scheduler
open Apcos.Guarantees.SchedulerCadence

variable {η : Type} {s : Scheduler η}

/-- A call of `start` that is to spawn a thread or has just done so. -/
def starting : CallPhase → Bool
  | .spawning | .storing _ => true
  | .taking | .joining _ | .returned _ => false

def stopping : CallPhase → Bool
  | .taking | .joining _ => true
  | .spawning | .storing _ | .returned _ => false

def joins : CallPhase → Bool
  | .joining _ => true
  | .spawning | .storing _ | .taking | .returned _ => false

/-- A `start` that takes effect does not overlap a `stop`. -/
def Apart (s : Scheduler η) : SchedulerLabel η → Prop
  | .start => s.running = true ∨ ∀ call ∈ s.calls, stopping call = false
  | .stop => ∀ call ∈ s.calls, starting call = false
  | .elapse _ | .register .. | .call _ | .loop .. => True

/-! ## Loop threads -/

theorem moved_control {s' : Scheduler η} {thread : Nat} (moved : LoopMoved s thread s') :
    s'.calls = s.calls ∧ s'.slot = s.slot ∧ s'.running = s.running := by
  cases moved <;> exact ⟨rfl, rfl, rfl⟩

theorem moved_loops {s' : Scheduler η} {thread : Nat} (moved : LoopMoved s thread s') :
    s'.loops = s.loops ∨ ∃ phase next, s.loops[thread]? = some phase ∧ phase.live = true ∧
      s'.loops = s.loops.set thread next := by
  cases moved with
  | stayed => exact Or.inl rfl
  | checked here => exact Or.inr ⟨_, _, here, rfl, rfl⟩
  | read here => exact Or.inr ⟨_, _, here, rfl, rfl⟩
  | refused now here => exact Or.inr ⟨_, _, here, rfl, rfl⟩
  | woke wake here => exact Or.inr ⟨_, _, here, rfl, rfl⟩
  | entered now here => exact Or.inr ⟨_, _, here, rfl, rfl⟩
  | skipped now index task here => exact Or.inr ⟨_, _, here, rfl, rfl⟩
  | began now index task here => exact Or.inr ⟨_, _, here, rfl, rfl⟩
  | returned now index task here => exact Or.inr ⟨_, _, here, rfl, rfl⟩
  | panicked now index here => exact Or.inr ⟨_, _, here, rfl, rfl⟩
  | passed now index here => exact Or.inr ⟨_, _, here, rfl, rfl⟩

/-- No step of a loop thread brings one back to life. -/
theorem moved_live {s' : Scheduler η} {thread : Nat} (moved : LoopMoved s thread s')
    {other : Nat} {phase : LoopPhase} (found : s'.loops[other]? = some phase)
    (live : phase.live = true) : ∃ before, s.loops[other]? = some before ∧ before.live = true := by
  rcases moved_loops moved with same | ⟨before, next, here, alive, same⟩
  · exact ⟨phase, same ▸ found, live⟩
  · rw [same] at found
    rcases getElem?_set_cases found with ⟨rfl, -⟩ | ⟨-, earlier⟩
    · exact ⟨before, here, alive⟩
    · exact ⟨phase, earlier, live⟩

/-! ## The invariant -/

/-- Who has the handle of a live thread, and what calls under way say of flag and slot. -/
structure Controlled (s : Scheduler η) : Prop where
  owner : ∀ (thread : Nat) (phase : LoopPhase), s.loops[thread]? = some phase →
    phase.live = true →
    s.slot = some thread ∨ .storing thread ∈ s.calls ∨ .joining thread ∈ s.calls
  starts : ∀ call ∈ s.calls, starting call = true → s.running = true ∧ s.slot = none ∧
    ∀ other ∈ s.calls, stopping other = false
  stops : ∀ call ∈ s.calls, stopping call = true → s.running = false
  joined : ∀ call ∈ s.calls, joins call = true → s.slot = none
  oneStart : AtMostOne starting s.calls
  oneJoin : AtMostOne joins s.calls
  idle : s.running = false → s.slot = none ∨ .taking ∈ s.calls

theorem controlled_new (tick horizon : Nat) : Controlled (new tick horizon : Scheduler η) where
  owner := by simp [new]
  starts := by simp [new]
  stops := by simp [new]
  joined := by simp [new]
  oneStart := atMostOne_nil _
  oneJoin := atMostOne_nil _
  idle := fun _ => Or.inl rfl

theorem stopping_of_joins {call : CallPhase} (joining : joins call = true) :
    stopping call = true := by
  cases call <;> first | rfl | cases joining

/-- At most one loop is live. -/
theorem Controlled.one_live (controlled : Controlled s) : AtMostOne LoopPhase.live s.loops := by
  intro i j first second foundFirst foundSecond liveFirst liveSecond
  rcases controlled.owner i first foundFirst liveFirst with slot | storing | joining
  · rcases controlled.owner j second foundSecond liveSecond with slot' | storing' | joining'
    · exact Option.some.inj (slot.symm.trans slot')
    · have empty := (controlled.starts _ storing' rfl).2.1
      cases slot.symm.trans empty
    · have empty := controlled.joined _ joining' rfl
      cases slot.symm.trans empty
  · obtain ⟨-, empty, none⟩ := controlled.starts _ storing rfl
    rcases controlled.owner j second foundSecond liveSecond with slot' | storing' | joining'
    · cases slot'.symm.trans empty
    · exact CallPhase.storing.inj (controlled.oneStart.eq storing storing' rfl rfl)
    · cases none _ joining'
  · have empty := controlled.joined _ joining rfl
    rcases controlled.owner j second foundSecond liveSecond with slot' | storing' | joining'
    · cases slot'.symm.trans empty
    · cases (controlled.starts _ storing' rfl).2.2 _ joining
    · exact CallPhase.joining.inj (controlled.oneJoin.eq joining joining' rfl rfl)

/-- With the flag cleared and no `stop` under way, no thread is left. -/
theorem Controlled.ended (controlled : Controlled s) (cleared : s.running = false)
    (done : ∀ call ∈ s.calls, stopping call = false) : ∀ phase ∈ s.loops, phase.live = false := by
  intro phase member
  obtain ⟨thread, found⟩ := List.mem_iff_getElem?.mp member
  cases live : phase.live with
  | false => rfl
  | true =>
    rcases controlled.owner thread phase found live with slot | storing | joining
    · rcases controlled.idle cleared with empty | taking
      · cases slot.symm.trans empty
      · cases done _ taking
    · have running := (controlled.starts _ storing rfl).1
      cases cleared.symm.trans running
    · cases done _ joining

/-! ## Steps -/

theorem mem_concat {call added : CallPhase} {calls : List CallPhase}
    (member : call ∈ calls ++ [added]) : call ∈ calls ∨ call = added := by
  simpa using member

/-- A step that moves loop threads only. -/
theorem Controlled.loops (controlled : Controlled s) {s' : Scheduler η}
    (calls : s'.calls = s.calls) (slot : s'.slot = s.slot) (running : s'.running = s.running)
    (live : ∀ (thread : Nat) (phase : LoopPhase), s'.loops[thread]? = some phase →
      phase.live = true → ∃ before, s.loops[thread]? = some before ∧ before.live = true) :
    Controlled s' := by
  obtain ⟨owner, starts, stops, joined, oneStart, oneJoin, idle⟩ := controlled
  constructor
  · intro thread phase found alive
    obtain ⟨before, here, lived⟩ := live thread phase found alive
    rw [calls, slot]
    exact owner thread before here lived
  · rw [calls, slot, running]
    exact starts
  · rw [calls, running]
    exact stops
  · rw [calls, slot]
    exact joined
  · rw [calls]
    exact oneStart
  · rw [calls]
    exact oneJoin
  · rw [calls, slot, running]
    exact idle

/-- A start that no stop overlaps may spawn a thread. -/
theorem Controlled.start (controlled : Controlled s)
    (apart : s.running = true ∨ ∀ call ∈ s.calls, stopping call = false) :
    Controlled s.start := by
  unfold Scheduler.start
  by_cases running : s.running = true
  · rw [if_pos running]
    refine ⟨?_, ?_, ?_, ?_, ?_, ?_, ?_⟩
    · intro thread phase found live
      exact (controlled.owner thread phase found live).imp id
        (Or.imp (List.mem_append_left _) (List.mem_append_left _))
    · intro call member starts
      rcases mem_concat member with before | rfl
      · obtain ⟨run, empty, none⟩ := controlled.starts call before starts
        refine ⟨run, empty, fun other member => ?_⟩
        rcases mem_concat member with before' | rfl
        · exact none other before'
        · rfl
      · cases starts
    · intro call member stops
      rcases mem_concat member with before | rfl
      · exact controlled.stops call before stops
      · cases stops
    · intro call member joins
      rcases mem_concat member with before | rfl
      · exact controlled.joined call before joins
      · cases joins
    · exact controlled.oneStart.concat fun impossible => by cases impossible
    · exact controlled.oneJoin.concat fun impossible => by cases impossible
    · intro cleared
      cases running.symm.trans cleared
  · have none : ∀ call ∈ s.calls, stopping call = false := apart.resolve_left running
    have cleared : s.running = false := Bool.eq_false_iff.mpr running
    have noStart : ∀ call ∈ s.calls, starting call = false := by
      intro call member
      cases starts : starting call with
      | false => rfl
      | true => exact absurd (controlled.starts call member starts).1 running
    have empty : s.slot = Option.none := by
      rcases controlled.idle cleared with empty | taking
      · exact empty
      · cases none _ taking
    have dead := controlled.ended cleared none
    rw [if_neg running]
    refine ⟨?_, ?_, ?_, ?_, ?_, ?_, ?_⟩
    · intro thread phase found live
      cases (dead phase (List.mem_of_getElem? found)).symm.trans live
    · intro call member starts
      refine ⟨rfl, empty, fun other member => ?_⟩
      rcases mem_concat member with before | rfl
      · exact none other before
      · rfl
    · intro call member stops
      rcases mem_concat member with before | rfl
      · cases (none call before).symm.trans stops
      · cases stops
    · exact fun _ _ _ => empty
    · exact controlled.oneStart.concat fun _ => noStart
    · exact controlled.oneJoin.concat fun impossible => by cases impossible
    · intro cleared
      cases cleared

theorem Controlled.stop (controlled : Controlled s)
    (apart : ∀ call ∈ s.calls, starting call = false) : Controlled s.stop := by
  refine ⟨?_, ?_, ?_, ?_, ?_, ?_, ?_⟩
  · intro thread phase found live
    exact (controlled.owner thread phase found live).imp id
      (Or.imp (List.mem_append_left _) (List.mem_append_left _))
  · intro call member starts
    rcases mem_concat member with before | rfl
    · cases (apart call before).symm.trans starts
    · cases starts
  · exact fun _ _ _ => rfl
  · intro call member joins
    rcases mem_concat member with before | rfl
    · exact controlled.joined call before joins
    · cases joins
  · exact controlled.oneStart.concat fun impossible => by cases impossible
  · exact controlled.oneJoin.concat fun impossible => by cases impossible
  · exact fun _ => Or.inr (List.mem_append_right _ (List.mem_singleton_self _))

/-- The spawned thread is known to the call that stores it. -/
theorem Controlled.spawn (controlled : Controlled s) {index : Nat}
    (here : s.calls[index]? = some .spawning) :
    Controlled { s with
      loops := s.loops ++ [.checking]
      calls := s.calls.set index (.storing s.loops.length) } := by
  have member : CallPhase.spawning ∈ s.calls := List.mem_of_getElem? here
  obtain ⟨running, empty, none⟩ := controlled.starts _ member rfl
  have stored : CallPhase.storing s.loops.length ∈ s.calls.set index (.storing s.loops.length) :=
    List.mem_set (List.getElem?_eq_some_iff.mp here).1 _
  refine ⟨?_, ?_, ?_, ?_, ?_, ?_, ?_⟩
  · intro thread phase found live
    rcases getElem?_concat_cases found with before | ⟨rfl, -⟩
    · rcases controlled.owner thread phase before live with slot | storing | joining
      · cases slot.symm.trans empty
      · cases controlled.oneStart.eq member storing rfl rfl
      · cases none _ joining
    · exact Or.inr (Or.inl stored)
  · intro call member starts
    refine ⟨running, empty, fun other member => ?_⟩
    rcases List.mem_or_eq_of_mem_set member with before | rfl
    · exact none other before
    · rfl
  · intro call member stops
    rcases List.mem_or_eq_of_mem_set member with before | rfl
    · exact controlled.stops call before stops
    · cases stops
  · intro call member joins
    exact empty
  · exact controlled.oneStart.set fun _ j other found starts =>
      controlled.oneStart j index other _ found here starts rfl
  · exact controlled.oneJoin.set fun impossible => by cases impossible
  · intro cleared
    cases running.symm.trans cleared

/-- The stored thread is the one in the slot. -/
theorem Controlled.store (controlled : Controlled s) {index thread : Nat}
    (here : s.calls[index]? = some (.storing thread)) :
    Controlled { s.setCall index (.returned true) with slot := some thread } := by
  have member : CallPhase.storing thread ∈ s.calls := List.mem_of_getElem? here
  obtain ⟨running, empty, none⟩ := controlled.starts _ member rfl
  have noStart : ∀ call ∈ s.calls.set index (.returned true), starting call = false := by
    intro call member
    obtain ⟨j, found⟩ := List.mem_iff_getElem?.mp member
    rcases getElem?_set_cases found with ⟨-, rfl⟩ | ⟨different, before⟩
    · rfl
    · cases starts : starting call with
      | false => rfl
      | true => exact absurd (controlled.oneStart j index call _ before here starts rfl) different
  have noStop : ∀ call ∈ s.calls.set index (.returned true), stopping call = false := by
    intro call member
    rcases List.mem_or_eq_of_mem_set member with before | rfl
    · exact none call before
    · rfl
  refine ⟨?_, ?_, ?_, ?_, ?_, ?_, ?_⟩
  · intro other phase found live
    rcases controlled.owner other phase found live with slot | storing | joining
    · cases slot.symm.trans empty
    · have same := CallPhase.storing.inj (controlled.oneStart.eq member storing rfl rfl)
      exact Or.inl (congrArg some same)
    · cases none _ joining
  · intro call member starts
    cases (noStart call member).symm.trans starts
  · intro call member stops
    cases (noStop call member).symm.trans stops
  · intro call member joins
    cases (noStop call member).symm.trans (stopping_of_joins joins)
  · exact controlled.oneStart.set fun impossible => by cases impossible
  · exact controlled.oneJoin.set fun impossible => by cases impossible
  · intro cleared
    cases running.symm.trans cleared

/-- A `stop` takes what the slot holds, or returns when it is empty. -/
theorem Controlled.take (controlled : Controlled s) {index : Nat} {phase : CallPhase}
    (here : s.calls[index]? = some .taking) (free : ∀ call ∈ s.calls, joins call = false)
    (taken : s.slot = none ∧ phase = .returned true ∨
      ∃ thread, s.slot = some thread ∧ phase = .joining thread) :
    Controlled { s.setCall index phase with slot := none } := by
  have member : CallPhase.taking ∈ s.calls := List.mem_of_getElem? here
  have cleared := controlled.stops _ member rfl
  have noStart : ∀ call ∈ s.calls.set index phase, starting call = false := by
    intro call inside
    rcases List.mem_or_eq_of_mem_set inside with before | rfl
    · cases starts : starting call with
      | false => rfl
      | true => cases (controlled.starts call before starts).2.2 _ member
    · rcases taken with ⟨-, rfl⟩ | ⟨thread, -, rfl⟩ <;> rfl
  refine ⟨?_, ?_, ?_, ?_, ?_, ?_, ?_⟩
  · intro other found_phase found live
    rcases controlled.owner other found_phase found live with slot | storing | joining
    · rcases taken with ⟨empty, -⟩ | ⟨thread, full, rfl⟩
      · cases slot.symm.trans empty
      · have same := Option.some.inj (slot.symm.trans full)
        rw [same]
        exact Or.inr (Or.inr (List.mem_set (List.getElem?_eq_some_iff.mp here).1 _))
    · cases (controlled.starts _ storing rfl).2.2 _ member
    · cases free _ joining
  · intro call inside starts
    cases (noStart call inside).symm.trans starts
  · exact fun _ _ _ => cleared
  · exact fun _ _ _ => rfl
  · intro i j first second found _ starts
    cases (noStart first (List.mem_of_getElem? found)).symm.trans starts
  · exact controlled.oneJoin.set fun _ j other found joins =>
      absurd ((free other (List.mem_of_getElem? found)).symm.trans joins) Bool.false_ne_true
  · exact fun _ => Or.inl rfl

/-- A join that returns leaves a thread that is over. -/
theorem Controlled.join (controlled : Controlled s) {index thread : Nat}
    (here : s.calls[index]? = some (.joining thread))
    (ended : s.loops[thread]? = some .ended) :
    Controlled (s.setCall index (.returned true)) := by
  have member : CallPhase.joining thread ∈ s.calls := List.mem_of_getElem? here
  have cleared := controlled.stops _ member rfl
  have empty := controlled.joined _ member rfl
  refine ⟨?_, ?_, ?_, ?_, ?_, ?_, ?_⟩
  · intro other phase found live
    rcases controlled.owner other phase found live with slot | storing | joining
    · cases slot.symm.trans empty
    · cases (controlled.starts _ storing rfl).2.2 _ member
    · cases CallPhase.joining.inj (controlled.oneJoin.eq member joining rfl rfl)
      cases Option.some.inj (found.symm.trans ended)
      cases live
  · intro call inside starts
    rcases List.mem_or_eq_of_mem_set inside with before | rfl
    · cases (controlled.starts call before starts).2.2 _ member
    · cases starts
  · exact fun _ _ _ => cleared
  · exact fun _ _ _ => empty
  · exact controlled.oneStart.set fun impossible => by cases impossible
  · exact controlled.oneJoin.set fun impossible => by cases impossible
  · exact fun _ => Or.inl empty

theorem slotHeld_false (free : ¬s.slotHeld = true) : ∀ call ∈ s.calls, joins call = false := by
  intro call member
  have none := List.any_eq_false.mp (Bool.eq_false_iff.mpr free) call member
  cases call <;> first | rfl | exact absurd rfl none

/-- Each step of a call keeps control of the live thread. -/
theorem callStep_controlled (controlled : Controlled s) (index : Nat) :
    Controlled (s.callStep index) := by
  unfold callStep
  cases here : s.calls[index]? with
  | none => exact controlled
  | some phase =>
    cases phase with
    | spawning => exact controlled.spawn here
    | storing thread =>
      dsimp only
      split
      · exact controlled
      · exact controlled.store here
    | taking =>
      dsimp only
      split
      · exact controlled
      · rename_i free
        have unjoined := slotHeld_false free
        cases slot : s.slot with
        | none =>
          have same : s.setCall index (.returned true) =
              { s.setCall index (.returned true) with slot := none } := by
            simp only [setCall, ← slot]
          dsimp only
          rw [same]
          exact controlled.take here unjoined (Or.inl ⟨slot, rfl⟩)
        | some thread => exact controlled.take here unjoined (Or.inr ⟨thread, slot, rfl⟩)
    | joining thread =>
      dsimp only
      split
      · rename_i ended
        exact controlled.join here ended
      · exact controlled
    | returned result => exact controlled

/-- Each step keeps control of the live thread, while starts and stops stay apart. -/
theorem step_controlled (s : Scheduler η) (label : SchedulerLabel η) (controlled : Controlled s)
    (apart : Apart s label) : Controlled (step s label) := by
  cases label with
  | elapse duration =>
    exact controlled.loops rfl rfl rfl fun thread phase found live => ⟨phase, found, live⟩
  | register name interval action =>
    unfold step registerTask
    dsimp only
    split
    · exact controlled
    · split
      · exact controlled
      · split <;>
          exact controlled.loops rfl rfl rfl fun thread phase found live => ⟨phase, found, live⟩
  | start => exact controlled.start apart
  | stop => exact controlled.stop apart
  | call index => exact callStep_controlled controlled index
  | loop thread panics =>
    have moved := s.loopStep_moved thread panics
    obtain ⟨calls, slot, running⟩ := moved_control moved
    exact controlled.loops calls slot running fun other phase found live =>
      moved_live moved found live

/-! ## After a stop -/

/-- Nothing is left that could run or spawn a thread. -/
structure Quiet (s : Scheduler η) : Prop where
  loops : ∀ phase ∈ s.loops, phase.live = false
  calls : ∀ call ∈ s.calls, starting call = false

theorem loopStep_quiet (quiet : Quiet s) (thread : Nat) (panics : Bool) :
    s.loopStep thread panics = s := by
  have moved := s.loopStep_moved thread panics
  generalize s.loopStep thread panics = s' at moved
  have dead {phase : LoopPhase} (here : s.loops[thread]? = some phase) : phase.live = false :=
    quiet.loops phase (List.mem_of_getElem? here)
  cases moved with
  | stayed => rfl
  | checked here => cases dead here
  | read here => cases dead here
  | refused now here => cases dead here
  | woke wake here => cases dead here
  | entered now here => cases dead here
  | skipped now index task here => cases dead here
  | began now index task here => cases dead here
  | returned now index task here => cases dead here
  | panicked now index here => cases dead here
  | passed now index here => cases dead here

theorem Quiet.set (quiet : Quiet s) (slot : Option Nat) {index : Nat} {phase : CallPhase}
    (idle : starting phase = false) : Quiet { s.setCall index phase with slot } := by
  refine ⟨quiet.loops, fun call member => ?_⟩
  rcases List.mem_or_eq_of_mem_set member with before | rfl
  · exact quiet.calls call before
  · exact idle

/-- Once quiet, no step of a call spawns a thread. -/
theorem callStep_quiet (quiet : Quiet s) (index : Nat) : Quiet (s.callStep index) := by
  unfold callStep
  cases here : s.calls[index]? with
  | none => exact quiet
  | some phase =>
    have idle := quiet.calls phase (List.mem_of_getElem? here)
    cases phase with
    | spawning => cases idle
    | storing thread => cases idle
    | taking =>
      dsimp only
      split
      · exact quiet
      · split
        · exact quiet.set s.slot rfl
        · exact quiet.set none rfl
    | joining thread =>
      dsimp only
      split
      · exact quiet.set s.slot rfl
      · exact quiet
    | returned result => exact quiet

/-- Once quiet, no step but a start runs or logs anything. -/
theorem step_quiet (label : SchedulerLabel η) (quiet : Quiet s) (noStart : label ≠ .start) :
    Quiet (step s label) ∧ (step s label).log = s.log := by
  cases label with
  | elapse duration => exact ⟨⟨quiet.loops, quiet.calls⟩, rfl⟩
  | register name interval action =>
    unfold step registerTask
    dsimp only
    split
    · exact ⟨quiet, rfl⟩
    · split
      · exact ⟨quiet, rfl⟩
      · split <;> exact ⟨⟨quiet.loops, quiet.calls⟩, rfl⟩
  | start => exact absurd rfl noStart
  | stop =>
    refine ⟨⟨quiet.loops, fun call member => ?_⟩, rfl⟩
    rcases mem_concat member with before | rfl
    · exact quiet.calls call before
    · rfl
  | call index =>
    obtain ⟨slot, calls, loops, -, same⟩ := s.step_call index
    refine ⟨callStep_quiet quiet index, ?_⟩
    rw [same]
  | loop thread panics =>
    have same : step s (.loop thread panics) = s := loopStep_quiet quiet thread panics
    rw [same]
    exact ⟨quiet, rfl⟩

theorem run_quiet (quiet : Quiet s) (later : List (SchedulerLabel η))
    (noStart : ∀ label ∈ later, label ≠ .start) : (run step s later).log = s.log := by
  have kept : ∀ (t : Scheduler η) (label : SchedulerLabel η), Quiet t ∧ t.log = s.log →
      label ≠ .start → Quiet (step t label) ∧ (step t label).log = s.log := by
    rintro t label ⟨quiet, same⟩ noStart
    obtain ⟨after, log⟩ := step_quiet label quiet noStart
    exact ⟨after, log.trans same⟩
  exact (run_invariant_along kept s ⟨quiet, rfl⟩ later (along_of_mem noStart s)).2

/-- There is one live loop thread at most; once the flag is cleared and every `stop` has
returned there is none, and no action runs before the next `start`. -/
theorem stop_is_final (tick horizon : Nat) (labels : List (SchedulerLabel η))
    (apart : Along step Apart (new tick horizon) labels) :
    let s := run step (new tick horizon) labels
    AtMostOne LoopPhase.live s.loops ∧
      (s.running = false → (∀ call ∈ s.calls, stopping call = false) →
        (∀ phase ∈ s.loops, phase = .ended) ∧
          ∀ later : List (SchedulerLabel η), (∀ label ∈ later, label ≠ .start) →
            (run step s later).log = s.log) := by
  intro s
  have controlled : Controlled s :=
    run_invariant_along step_controlled _ (controlled_new tick horizon) labels apart
  refine ⟨controlled.one_live, fun cleared done => ?_⟩
  have dead := controlled.ended cleared done
  have quiet : Quiet s := by
    refine ⟨dead, fun call member => ?_⟩
    cases starts : starting call with
    | false => rfl
    | true => cases cleared.symm.trans (controlled.starts call member starts).1
  refine ⟨fun phase member => ?_, run_quiet quiet⟩
  have lifeless := dead phase member
  cases phase <;> first | rfl | cases lifeless

/-- One task is registered, run once and the scheduler stopped. -/
def oneRun : List (SchedulerLabel Unit) :=
  [.register "sync" 0 (), .start, .call 0, .call 0, .elapse (10 * 10 ^ 6), .loop 0 false,
    .loop 0 false, .loop 0 false, .loop 0 false, .stop, .call 1, .loop 0 false, .loop 0 false,
    .elapse (10 * 10 ^ 6), .loop 0 false, .loop 0 false, .call 1]

theorem stop_is_final_once :
    let s := run step (new 0 (10 ^ 18)) oneRun
    s.log = [(0, 10 * 10 ^ 6)] ∧ AtMostOne LoopPhase.live s.loops ∧
      (s.running = false → (∀ call ∈ s.calls, stopping call = false) →
        (∀ phase ∈ s.loops, phase = .ended) ∧
          ∀ later : List (SchedulerLabel Unit), (∀ label ∈ later, label ≠ .start) →
            (run step s later).log = s.log) := by
  refine ⟨by decide, stop_is_final 0 (10 ^ 18) oneRun ?_⟩
  simp only [oneRun, Along, Apart, true_and, and_true]
  decide

/-- With a `start` between the flag and the join of a `stop`, two loop threads live. -/
example : (run step (new 0 (10 ^ 18) : Scheduler Unit)
    [.start, .call 0, .call 0, .stop, .start, .call 2]).loops.countP LoopPhase.live = 2 := by
  decide

/-! ## After a panic -/

/-- Behind a poisoned lock nothing moves any more. -/
theorem poisoned_step (s : Scheduler η) (label : SchedulerLabel η) (timed : Timed s)
    (poisoned : s.poisoned = true) :
    (step s label).poisoned = true ∧ (step s label).log = s.log ∧
      (step s label).passes = s.passes ∧ (step s label).tasks = s.tasks := by
  cases label with
  | elapse duration => exact ⟨poisoned, rfl, rfl, rfl⟩
  | register name interval action =>
    unfold step registerTask
    dsimp only
    rw [if_pos poisoned]
    split <;> exact ⟨poisoned, rfl, rfl, rfl⟩
  | start =>
    unfold step start
    dsimp only
    split <;> exact ⟨poisoned, rfl, rfl, rfl⟩
  | stop => exact ⟨poisoned, rfl, rfl, rfl⟩
  | call index =>
    obtain ⟨slot, calls, loops, -, same⟩ := s.step_call index
    rw [same]
    exact ⟨poisoned, rfl, rfl, rfl⟩
  | loop thread panics =>
    have moved : LoopMoved s thread (step s (.loop thread panics)) :=
      s.loopStep_moved thread panics
    generalize step s (.loop thread panics) = s' at moved ⊢
    have idle {phase : LoopPhase} (here : s.loops[thread]? = some phase) (busy : phase.busy = true) :
        False := by
      have sound := timed.sound (List.mem_of_getElem? here) busy
      cases poisoned.symm.trans sound
    cases moved with
    | stayed => exact ⟨poisoned, rfl, rfl, rfl⟩
    | checked here => exact ⟨poisoned, rfl, rfl, rfl⟩
    | read here => exact ⟨poisoned, rfl, rfl, rfl⟩
    | refused now here => exact ⟨poisoned, rfl, rfl, rfl⟩
    | woke wake here => exact ⟨poisoned, rfl, rfl, rfl⟩
    | entered now here free sound => cases poisoned.symm.trans sound
    | skipped now index task here => exact (idle here rfl).elim
    | began now index task here => exact (idle here rfl).elim
    | returned now index task here => exact (idle here rfl).elim
    | panicked now index here => exact (idle here rfl).elim
    | passed now index here => exact (idle here rfl).elim

/-- What stays as it was when the lock was poisoned. -/
structure Frozen (s t : Scheduler η) : Prop where
  timed : Timed t
  poisoned : t.poisoned = true
  log : t.log = s.log
  passes : t.passes = s.passes
  tasks : t.tasks = s.tasks

theorem frozen_step (t : Scheduler η) (label : SchedulerLabel η) (frozen : Frozen s t) :
    Frozen s (step t label) := by
  obtain ⟨timed, poisoned, log, passes, tasks⟩ := frozen
  obtain ⟨still, log', passes', tasks'⟩ := poisoned_step t label timed poisoned
  exact ⟨step_timed t label timed, still, log'.trans log, passes'.trans passes,
    tasks'.trans tasks⟩

/-- Once something has panicked under the lock of the tasks, no action runs again, whatever is
started, stopped or registered: registrations are refused and no name is listed. -/
theorem panic_is_final (tick horizon : Nat) (labels later : List (SchedulerLabel η)) :
    let s := run step (new tick horizon) labels
    let t := run step s later
    s.poisoned = true →
      t.log = s.log ∧ t.passes = s.passes ∧ t.tasks = s.tasks ∧ t.taskNames = [] ∧
        ∀ (name : String) (interval : Nat) (action : η),
          registerTask name interval action t = (some false, t) := by
  intro s t poisoned
  have timed : Timed s := run_invariant step_timed _ (timed_new tick horizon) labels
  obtain ⟨-, still, log, passes, tasks⟩ : Frozen s t :=
    run_invariant frozen_step s ⟨timed, poisoned, rfl, rfl, rfl⟩ later
  exact ⟨log, passes, tasks, if_pos still, fun name interval action => if_pos still⟩

/-- The action of the only task panics. -/
def onePanic : List (SchedulerLabel Unit) :=
  [.register "sync" 0 (), .start, .call 0, .call 0, .elapse (10 * 10 ^ 6), .loop 0 false,
    .loop 0 false, .loop 0 false, .loop 0 false, .loop 0 true]

theorem panic_is_final_restarted :
    let s := run step (new 0 (10 ^ 18)) onePanic
    let t := run step s [.stop, .call 1, .call 1, .start, .call 2, .call 2, .loop 1 false]
    t.log = s.log ∧ t.passes = s.passes ∧ t.tasks = s.tasks ∧ t.taskNames = [] ∧
      ∀ (name : String) (interval : Nat) (action : Unit),
        registerTask name interval action t = (some false, t) :=
  panic_is_final 0 (10 ^ 18) onePanic
    [.stop, .call 1, .call 1, .start, .call 2, .call 2, .loop 1 false] (by decide)

end Apcos.Guarantees.SchedulerStops
