import Mathlib.Tactic.Common

/-!
# Scheduler

os/src/scheduler.rs. A loop thread is cut where others can act: it loads the flag, reads the
clock, locks the tasks, visits one after the other, enters and leaves an action, unlocks and
sleeps. `start` swaps the flag, spawns and stores the handle as three steps, `stop` clears the
flag, takes the handle and joins as three; `register_task` holds the lock from its first step to
its last. A thread that cannot move stays where it is, so a run is any list of labels.

Times are nanoseconds. An instant from `horizon` on cannot be represented, and adding up to one
panics. A panic under the lock of the tasks poisons it. Actions are values of a type parameter;
whether one panics is up to the label. `registered`, `log` and `passes` are logs that no step
reads. An action that calls its own scheduler is not modeled.
-/
namespace Apcos.Source.Supervisor

structure ScheduledTask (η : Type) where
  name : String
  interval : Nat
  nextRun : Nat
  action : η

/-- Where a loop thread stands: `now` is what it read of the clock, an index the task it is at. -/
inductive LoopPhase where
  | checking
  | reading
  | locking (now : Nat)
  | scanning (now index : Nat)
  | acting (now index : Nat)
  | sleeping (wake : Nat)
  | ended
  deriving DecidableEq

namespace LoopPhase

/-- The thread holds the lock of the tasks. -/
def busy : LoopPhase → Bool
  | scanning .. | acting .. => true
  | checking | reading | locking _ | sleeping _ | ended => false

def live : LoopPhase → Bool
  | ended => false
  | checking | reading | locking _ | scanning .. | acting .. | sleeping _ => true

end LoopPhase

/-- Where a call of `start` or `stop` stands; a number is the loop thread it has the handle of. -/
inductive CallPhase where
  | spawning
  | storing (thread : Nat)
  | taking
  | joining (thread : Nat)
  | returned (result : Bool)
  deriving DecidableEq

/-- `poisoned` is the lock of the tasks, `slot` the content of `handle`. -/
structure Scheduler (η : Type) where
  tick : Nat
  horizon : Nat
  tasks : List (ScheduledTask η)
  poisoned : Bool
  running : Bool
  slot : Option Nat
  loops : List LoopPhase
  calls : List CallPhase
  clock : Nat
  registered : List Nat
  log : List (Nat × Nat)
  passes : List Nat

inductive SchedulerLabel (η : Type) where
  | elapse (duration : Nat)
  | register (name : String) (interval : Nat) (action : η)
  | start
  | stop
  /-- A call of `start` or `stop` goes on. -/
  | call (index : Nat)
  /-- A loop thread goes on; the action it is in panics or not. -/
  | loop (thread : Nat) (panics : Bool)
  deriving DecidableEq

namespace Scheduler

variable {η : Type}

/-- `Duration::from_millis(10)`. -/
def shortestTick : Nat := 10000000

def new (tick horizon : Nat) : Scheduler η where
  tick := max tick shortestTick
  horizon
  tasks := []
  poisoned := false
  running := false
  slot := none
  loops := []
  calls := []
  clock := 0
  registered := []
  log := []
  passes := []

/-- `Instant + Duration`, where it does not panic. -/
def instantAdd (s : Scheduler η) (instant duration : Nat) : Option Nat :=
  if instant + duration < s.horizon then some (instant + duration) else none

/-- Some loop thread holds the lock of the tasks. -/
def tasksHeld (s : Scheduler η) : Bool := s.loops.any LoopPhase.busy

/-- Some call holds the lock of `handle`: it joins. -/
def slotHeld (s : Scheduler η) : Bool :=
  s.calls.any fun
    | .joining _ => true
    | .spawning | .storing _ | .taking | .returned _ => false

/-- The call waits while the lock is held; `none` is a panic. -/
def registerTask (name : String) (interval : Nat) (action : η) (s : Scheduler η) :
    Option Bool × Scheduler η :=
  if s.poisoned then (some false, s)
  else
    let interval := max interval s.tick
    match s.instantAdd s.clock interval with
    | none => (none, { s with poisoned := true })
    | some nextRun =>
      (some true, { s with
        tasks := s.tasks ++ [⟨name, interval, nextRun, action⟩]
        registered := s.registered ++ [s.clock] })

/-- The first step of `start`. -/
def start (s : Scheduler η) : Scheduler η :=
  if s.running then { s with calls := s.calls ++ [.returned true] }
  else { s with running := true, calls := s.calls ++ [.spawning] }

/-- The first step of `stop`. -/
def stop (s : Scheduler η) : Scheduler η :=
  { s with running := false, calls := s.calls ++ [.taking] }

def setCall (s : Scheduler η) (index : Nat) (phase : CallPhase) : Scheduler η :=
  { s with calls := s.calls.set index phase }

def setLoop (s : Scheduler η) (thread : Nat) (phase : LoopPhase) : Scheduler η :=
  { s with loops := s.loops.set thread phase }

def callStep (s : Scheduler η) (index : Nat) : Scheduler η :=
  match s.calls[index]? with
  | some .spawning =>
    { s with
      loops := s.loops ++ [.checking]
      calls := s.calls.set index (.storing s.loops.length) }
  | some (.storing thread) =>
    if s.slotHeld then s else { s.setCall index (.returned true) with slot := some thread }
  | some .taking =>
    if s.slotHeld then s
    else
      match s.slot with
      | none => s.setCall index (.returned true)
      | some thread => { s.setCall index (.joining thread) with slot := none }
  | some (.joining thread) =>
    if s.loops[thread]? = some .ended then s.setCall index (.returned true) else s
  | some (.returned _) | none => s

/-- The action of a task is left: `task.next_run = now + task.interval`, or a panic. -/
def leaveAction (s : Scheduler η) (thread now index : Nat) (panics : Bool) : Scheduler η :=
  match s.tasks[index]? with
  | none => s
  | some task =>
    match if panics then none else s.instantAdd now task.interval with
    | none => { s.setLoop thread .ended with poisoned := true }
    | some nextRun =>
      { s.setLoop thread (.scanning now (index + 1)) with
        tasks := s.tasks.set index { task with nextRun } }

def loopStep (s : Scheduler η) (thread : Nat) (panics : Bool) : Scheduler η :=
  match s.loops[thread]? with
  | some .checking => s.setLoop thread (if s.running then .reading else .ended)
  | some .reading => s.setLoop thread (.locking s.clock)
  | some (.locking now) =>
    if s.tasksHeld then s
    else if s.poisoned then s.setLoop thread (.sleeping (s.clock + s.tick))
    else s.setLoop thread (.scanning now 0)
  | some (.scanning now index) =>
    match s.tasks[index]? with
    | none =>
      { s.setLoop thread (.sleeping (s.clock + s.tick)) with passes := s.passes ++ [now] }
    | some task =>
      if task.nextRun ≤ now then
        { s.setLoop thread (.acting now index) with log := s.log ++ [(index, now)] }
      else s.setLoop thread (.scanning now (index + 1))
  | some (.acting now index) => s.leaveAction thread now index panics
  | some (.sleeping wake) => if wake ≤ s.clock then s.setLoop thread .checking else s
  | some .ended | none => s

def step (s : Scheduler η) : SchedulerLabel η → Scheduler η
  | .elapse duration => { s with clock := s.clock + duration }
  | .register name interval action =>
    if s.tasksHeld then s else (registerTask name interval action s).2
  | .start => s.start
  | .stop => s.stop
  | .call index => s.callStep index
  | .loop thread panics => s.loopStep thread panics

def isRunning (s : Scheduler η) : Bool := s.running

/-- Read when the lock is free. -/
def taskNames (s : Scheduler η) : List String :=
  if s.poisoned then [] else s.tasks.map (·.name)

theorem instantAdd_eq {s : Scheduler η} {instant duration sum : Nat}
    (fits : s.instantAdd instant duration = some sum) : sum = instant + duration := by
  unfold instantAdd at fits
  split at fits
  · exact (Option.some.inj fits).symm
  · cases fits

/-! ## What a step can do -/

/-- A call of `start` or `stop` that goes on changes the slot, calls and the list of threads. -/
theorem step_call (s : Scheduler η) (index : Nat) :
    ∃ (slot : Option Nat) (calls : List CallPhase) (loops : List LoopPhase),
      (loops = s.loops ∨ loops = s.loops ++ [.checking]) ∧
        s.step (.call index) = { s with slot, calls, loops } := by
  unfold step callStep
  dsimp only
  cases s.calls[index]? with
  | none => exact ⟨_, _, _, Or.inl rfl, rfl⟩
  | some phase =>
    cases phase with
    | spawning => exact ⟨_, _, _, Or.inr rfl, rfl⟩
    | storing thread =>
      dsimp only
      split <;> exact ⟨_, _, _, Or.inl rfl, rfl⟩
    | taking =>
      dsimp only
      split
      · exact ⟨_, _, _, Or.inl rfl, rfl⟩
      · split <;> exact ⟨_, _, _, Or.inl rfl, rfl⟩
    | joining thread =>
      dsimp only
      split <;> exact ⟨_, _, _, Or.inl rfl, rfl⟩
    | returned result => exact ⟨_, _, _, Or.inl rfl, rfl⟩

/-- Everything a step of a loop thread can do. -/
inductive LoopMoved (s : Scheduler η) (thread : Nat) : Scheduler η → Prop
  | stayed : LoopMoved s thread s
  | checked (here : s.loops[thread]? = some .checking) :
      LoopMoved s thread (s.setLoop thread (if s.running then .reading else .ended))
  | read (here : s.loops[thread]? = some .reading) :
      LoopMoved s thread (s.setLoop thread (.locking s.clock))
  | refused (now : Nat) (here : s.loops[thread]? = some (.locking now))
      (poisoned : s.poisoned = true) :
      LoopMoved s thread (s.setLoop thread (.sleeping (s.clock + s.tick)))
  | woke (wake : Nat) (here : s.loops[thread]? = some (.sleeping wake)) (awake : wake ≤ s.clock) :
      LoopMoved s thread (s.setLoop thread .checking)
  | entered (now : Nat) (here : s.loops[thread]? = some (.locking now))
      (free : s.tasksHeld = false) (sound : s.poisoned = false) :
      LoopMoved s thread (s.setLoop thread (.scanning now 0))
  | skipped (now index : Nat) (task : ScheduledTask η)
      (here : s.loops[thread]? = some (.scanning now index)) (found : s.tasks[index]? = some task)
      (early : now < task.nextRun) :
      LoopMoved s thread (s.setLoop thread (.scanning now (index + 1)))
  | began (now index : Nat) (task : ScheduledTask η)
      (here : s.loops[thread]? = some (.scanning now index)) (found : s.tasks[index]? = some task)
      (due : task.nextRun ≤ now) :
      LoopMoved s thread
        { s.setLoop thread (.acting now index) with log := s.log ++ [(index, now)] }
  | returned (now index : Nat) (task : ScheduledTask η)
      (here : s.loops[thread]? = some (.acting now index)) (found : s.tasks[index]? = some task) :
      LoopMoved s thread
        { s.setLoop thread (.scanning now (index + 1)) with
          tasks := s.tasks.set index { task with nextRun := now + task.interval } }
  | panicked (now index : Nat) (here : s.loops[thread]? = some (.acting now index)) :
      LoopMoved s thread { s.setLoop thread .ended with poisoned := true }
  | passed (now index : Nat) (here : s.loops[thread]? = some (.scanning now index))
      (done : s.tasks[index]? = none) :
      LoopMoved s thread
        { s.setLoop thread (.sleeping (s.clock + s.tick)) with passes := s.passes ++ [now] }

/-- A thread leaves its action for the next one of its pass, or dies of a panic. -/
theorem leaveAction_moved (s : Scheduler η) (thread now index : Nat) (panics : Bool)
    (here : s.loops[thread]? = some (.acting now index)) :
    LoopMoved s thread (s.leaveAction thread now index panics) := by
  unfold leaveAction
  cases found : s.tasks[index]? with
  | none => exact .stayed
  | some task =>
    dsimp only
    cases next : if panics then none else s.instantAdd now task.interval with
    | none => exact .panicked now index here
    | some nextRun =>
      cases panics with
      | true => cases next
      | false =>
        rw [instantAdd_eq next]
        exact .returned now index task here found

/-- Everything a step of a scheduler thread can do. -/
theorem loopStep_moved (s : Scheduler η) (thread : Nat) (panics : Bool) :
    LoopMoved s thread (s.loopStep thread panics) := by
  unfold loopStep
  cases here : s.loops[thread]? with
  | none => exact .stayed
  | some phase =>
    cases phase with
    | checking => exact .checked here
    | reading => exact .read here
    | locking now =>
      dsimp only
      cases held : s.tasksHeld with
      | true => exact .stayed
      | false =>
        cases sound : s.poisoned with
        | true => exact .refused now here sound
        | false => exact .entered now here held sound
    | scanning now index =>
      dsimp only
      cases found : s.tasks[index]? with
      | none => exact .passed now index here found
      | some task =>
        dsimp only
        split
        · rename_i due
          exact .began now index task here found due
        · rename_i early
          exact .skipped now index task here found (Nat.lt_of_not_le early)
    | acting now index => exact s.leaveAction_moved thread now index panics here
    | sleeping wake =>
      dsimp only
      split
      · rename_i awake
        exact .woke wake here awake
      · exact .stayed
    | ended => exact .stayed

end Scheduler

end Apcos.Source.Supervisor
