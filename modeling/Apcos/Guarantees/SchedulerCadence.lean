import Apcos.Lib.Cadence
import Apcos.Lib.Parties
import Apcos.Lib.Runs
import Apcos.Source.Supervisor.Scheduler

/-!
# The cadence of scheduled actions

os/src/scheduler.rs, however its loop threads and callers interleave, with any number of loop
threads and panics anywhere. The runs of an action read the clock at least its interval apart,
and one at a time has the tasks; when a pass is through, every action has run less than its
interval before the reading of the pass, or came later.
-/
namespace Apcos.Guarantees.SchedulerCadence

open Apcos.Lib
open Apcos.Source.Supervisor
open Apcos.Source.Supervisor.Scheduler

variable {η : Type} {s : Scheduler η}

/-! ## The invariant -/

/-- Tasks before the index are not due at the reading. -/
def Ahead (s : Scheduler η) (now index : Nat) : Prop :=
  ∀ j task, j < index → s.tasks[j]? = some task → now < task.nextRun

/-- The action at the index was entered at the reading, when it was due. -/
structure Begun (s : Scheduler η) (now index : Nat) : Prop where
  due : ∃ task, s.tasks[index]? = some task ∧ task.nextRun ≤ now
  logged : ∃ earlier, readingsOf index s.log = earlier ++ [now]

/-- What a loop thread knows where it stands. -/
def Standing (s : Scheduler η) : LoopPhase → Prop
  | .locking now => now ≤ s.clock
  | .scanning now index => s.poisoned = false ∧ now ≤ s.clock ∧ Ahead s now index
  | .acting now index =>
    s.poisoned = false ∧ now ≤ s.clock ∧ Ahead s now index ∧ Begun s now index
  | .checking | .reading | .sleeping _ | .ended => True

/-- A task and its runs. -/
structure OnTime (s : Scheduler η) (index born : Nat) (task : ScheduledTask η) : Prop where
  floor : s.tick ≤ task.interval
  paced : Paced task.interval born (readingsOf index s.log)
  next : task.nextRun = latest born (readingsOf index s.log) + task.interval ∨
    task.nextRun ≤ latest born (readingsOf index s.log) ∧
      (s.poisoned = true ∨ ∃ now, .acting now index ∈ s.loops)
  passed : ∀ now ∈ s.passes, now < task.nextRun

structure Timed (s : Scheduler η) : Prop where
  shortest : shortestTick ≤ s.tick
  sole : AtMostOne LoopPhase.busy s.loops
  standing : ∀ phase ∈ s.loops, Standing s phase
  passes : ∀ now ∈ s.passes, now ≤ s.clock
  logged : ∀ entry ∈ s.log, entry.1 < s.tasks.length ∧ entry.2 ≤ s.clock
  registered : s.registered.length = s.tasks.length
  born : ∀ born ∈ s.registered, born ≤ s.clock
  tasks : ∀ (index born : Nat) (task : ScheduledTask η), s.tasks[index]? = some task →
    s.registered[index]? = some born → OnTime s index born task

theorem timed_new (tick horizon : Nat) : Timed (new tick horizon : Scheduler η) where
  shortest := Nat.le_max_right tick shortestTick
  sole := atMostOne_nil _
  standing := by simp [new]
  passes := by simp [new]
  logged := by simp [new]
  registered := rfl
  born := by simp [new]
  tasks := by simp [new]

theorem tasksHeld_false (free : s.tasksHeld = false) : ∀ phase ∈ s.loops, phase.busy = false := by
  intro phase member
  have none := List.any_eq_false.mp free phase member
  simpa using none

theorem Timed.sound (timed : Timed s) {phase : LoopPhase} (member : phase ∈ s.loops)
    (busy : phase.busy = true) : s.poisoned = false := by
  have standing := timed.standing phase member
  cases phase with
  | scanning now index => exact standing.1
  | acting now index => exact standing.1
  | checking => cases busy
  | reading => cases busy
  | locking now => cases busy
  | sleeping wake => cases busy
  | ended => cases busy

/-- While one thread holds the lock, the others do not. -/
theorem Timed.alone (timed : Timed s) {thread : Nat} {phase : LoopPhase}
    (here : s.loops[thread]? = some phase) (busy : phase.busy = true) {moved : LoopPhase} :
    AtMostOne LoopPhase.busy (s.loops.set thread moved) :=
  timed.sole.set fun _ j other found holds => timed.sole j thread other phase found here holds busy

theorem Timed.others_idle (timed : Timed s) {thread : Nat} {phase moved other : LoopPhase}
    (here : s.loops[thread]? = some phase) (busy : phase.busy = true)
    (member : other ∈ s.loops.set thread moved) : other = moved ∨ other ∈ s.loops ∧ other.busy = false := by
  obtain ⟨j, found⟩ := List.mem_iff_getElem?.mp member
  rcases getElem?_set_cases found with ⟨-, same⟩ | ⟨different, before⟩
  · exact Or.inl same
  · refine Or.inr ⟨List.mem_of_getElem? before, ?_⟩
    cases holds : other.busy with
    | false => rfl
    | true => exact absurd (timed.sole j thread other phase before here holds busy) different

/-- What a thread without the lock knows, it knows of the clock. -/
theorem Standing.later {s' : Scheduler η} {phase : LoopPhase} (standing : Standing s phase)
    (idle : phase.busy = false) (clock : s.clock ≤ s'.clock) : Standing s' phase := by
  cases phase with
  | locking now => exact Nat.le_trans standing clock
  | scanning now index => cases idle
  | acting now index => cases idle
  | checking => trivial
  | reading => trivial
  | sleeping wake => trivial
  | ended => trivial

/-- What a thread knows stays true while tasks and log stay and the clock goes on. -/
theorem Standing.unchanged {s' : Scheduler η} {phase : LoopPhase} (standing : Standing s phase)
    (tasks : s'.tasks = s.tasks) (log : s'.log = s.log) (poisoned : s'.poisoned = s.poisoned)
    (clock : s.clock ≤ s'.clock) : Standing s' phase := by
  cases phase with
  | locking now => exact Nat.le_trans standing clock
  | scanning now index =>
    obtain ⟨sound, read, ahead⟩ := standing
    refine ⟨poisoned.trans sound, Nat.le_trans read clock, ?_⟩
    unfold Ahead
    rw [tasks]
    exact ahead
  | acting now index =>
    obtain ⟨sound, read, ahead, due, logged⟩ := standing
    refine ⟨poisoned.trans sound, Nat.le_trans read clock, ?_, ?_, ?_⟩
    · unfold Ahead
      rw [tasks]
      exact ahead
    · rw [tasks]
      exact due
    · rw [log]
      exact logged
  | checking => trivial
  | reading => trivial
  | sleeping wake => trivial
  | ended => trivial

/-! ## Steps that leave tasks and runs alone -/

/-- What is timed does not depend on the calls, the flag and the slot. -/
theorem Timed.framed (timed : Timed s) (running : Bool) (slot : Option Nat)
    (calls : List CallPhase) (duration : Nat) (loops : List LoopPhase)
    (sole : AtMostOne LoopPhase.busy loops)
    (standing : ∀ phase ∈ loops, phase ∈ s.loops ∨ Standing s phase)
    (kept : ∀ now index, .acting now index ∈ s.loops → .acting now index ∈ loops) :
    Timed { s with running, slot, calls, loops, clock := s.clock + duration } where
  shortest := timed.shortest
  sole := sole
  standing := by
    intro phase member
    have before : Standing s phase := (standing phase member).elim (timed.standing phase) id
    exact before.unchanged rfl rfl rfl (Nat.le_add_right _ _)
  passes := fun now member => Nat.le_add_right_of_le (timed.passes now member)
  logged := fun entry member => ⟨(timed.logged entry member).1,
    Nat.le_add_right_of_le (timed.logged entry member).2⟩
  registered := timed.registered
  born := fun born member => Nat.le_add_right_of_le (timed.born born member)
  tasks := by
    intro index born task found known
    obtain ⟨floor, paced, next, passed⟩ := timed.tasks index born task found known
    refine ⟨floor, paced, next.imp id ?_, passed⟩
    rintro ⟨overdue, poisoned | ⟨now, acting⟩⟩
    · exact ⟨overdue, Or.inl poisoned⟩
    · exact ⟨overdue, Or.inr ⟨now, kept now index acting⟩⟩

theorem Timed.elapse (timed : Timed s) (duration : Nat) :
    Timed { s with clock := s.clock + duration } :=
  timed.framed s.running s.slot s.calls duration s.loops timed.sole (fun _ member => Or.inl member)
    fun _ _ member => member

theorem Timed.control (timed : Timed s) (running : Bool) (slot : Option Nat)
    (calls : List CallPhase) : Timed { s with running, slot, calls } :=
  timed.framed running slot calls 0 s.loops timed.sole (fun _ member => Or.inl member)
    fun _ _ member => member

theorem Timed.spawn (timed : Timed s) (slot : Option Nat) (calls : List CallPhase) :
    Timed { s with slot, calls, loops := s.loops ++ [.checking] } := by
  refine timed.framed s.running slot calls 0 _ (timed.sole.concat fun busy => ?_) ?_ ?_
  · cases busy
  · intro phase member
    rcases List.mem_append.mp member with before | single
    · exact Or.inl before
    · rw [List.mem_singleton.mp single]
      exact Or.inr trivial
  · exact fun now index member => List.mem_append_left _ member

theorem Timed.moved (timed : Timed s) {thread : Nat} {phase moved : LoopPhase}
    (here : s.loops[thread]? = some phase) (outside : ∀ now index, phase ≠ .acting now index)
    (alone : moved.busy = true → ∀ j other, s.loops[j]? = some other → other.busy = true →
      j = thread) (standing : Standing s moved) : Timed (s.setLoop thread moved) := by
  refine timed.framed s.running s.slot s.calls 0 _ (timed.sole.set alone) ?_ ?_
  · intro other member
    rcases List.mem_or_eq_of_mem_set member with before | same
    · exact Or.inl before
    · rw [same]
      exact Or.inr standing
  · intro now index member
    exact mem_set_of_ne here member (outside now index).symm

/-! ## Steps of the thread that has the tasks -/

theorem Timed.positive (timed : Timed s) {index : Nat} {task : ScheduledTask η}
    (found : s.tasks[index]? = some task) : 0 < task.interval := by
  have bound : index < s.registered.length := by
    rw [timed.registered]
    exact (List.getElem?_eq_some_iff.mp found).1
  have floor := (timed.tasks index _ task found (List.getElem?_eq_getElem bound)).floor
  have shortest := timed.shortest
  unfold shortestTick at shortest
  omega

/-- The reading that an action is entered with is a period after its last one. -/
theorem Timed.settled (timed : Timed s) {thread now index : Nat}
    (here : s.loops[thread]? = some (.scanning now index)) {born : Nat} {task : ScheduledTask η}
    (onTime : OnTime s index born task) :
    task.nextRun = latest born (readingsOf index s.log) + task.interval := by
  rcases onTime.next with settled | ⟨-, poisoned | ⟨now', acting⟩⟩
  · exact settled
  · have sound := timed.sound (List.mem_of_getElem? here) rfl
    cases sound.symm.trans poisoned
  · obtain ⟨j, found⟩ := List.mem_iff_getElem?.mp acting
    have same := timed.sole j thread _ _ found here rfl rfl
    subst same
    cases found.symm.trans here

/-- A due task begins no sooner than its interval after it began last. -/
theorem Timed.began (timed : Timed s) {thread now index : Nat} {task : ScheduledTask η}
    (here : s.loops[thread]? = some (.scanning now index)) (found : s.tasks[index]? = some task)
    (due : task.nextRun ≤ now) :
    Timed { s.setLoop thread (.acting now index) with log := s.log ++ [(index, now)] } := by
  obtain ⟨sound, read, ahead⟩ := timed.standing _ (List.mem_of_getElem? here)
  have entered : LoopPhase.acting now index ∈ s.loops.set thread (.acting now index) :=
    List.mem_set (List.getElem?_eq_some_iff.mp here).1 _
  refine ⟨timed.shortest, timed.alone here rfl, ?_, timed.passes, ?_, timed.registered, timed.born,
    ?_⟩
  · intro phase member
    rcases timed.others_idle here rfl member with same | ⟨before, idle⟩
    · rw [same]
      exact ⟨sound, read, ahead, ⟨task, found, due⟩, _, readingsOf_concat_self index s.log now⟩
    · exact (timed.standing phase before).later idle (Nat.le_refl _)
  · intro entry member
    rcases List.mem_append.mp member with before | single
    · exact timed.logged entry before
    · rw [List.mem_singleton.mp single]
      exact ⟨(List.getElem?_eq_some_iff.mp found).1, read⟩
  · intro k born task' found' known
    have onTime := timed.tasks k born task' found' known
    by_cases this : k = index
    · subst this
      cases found.symm.trans found'
      have settled := timed.settled here onTime
      have logged := readingsOf_concat_self k s.log now
      refine ⟨onTime.floor, ?_, Or.inr ⟨?_, Or.inr ⟨now, entered⟩⟩, onTime.passed⟩
      · rw [logged]
        exact onTime.paced.push (settled ▸ due)
      · rw [logged, latest_concat]
        exact due
    · have logged := readingsOf_concat_other (Ne.symm this) s.log now
      refine ⟨onTime.floor, ?_, ?_, onTime.passed⟩
      · rw [logged]
        exact onTime.paced
      · rw [logged]
        refine onTime.next.imp id ?_
        rintro ⟨overdue, poisoned | ⟨now', acting⟩⟩
        · exact ⟨overdue, Or.inl poisoned⟩
        · exact ⟨overdue, Or.inr ⟨now', mem_set_of_ne here acting (by simp)⟩⟩

/-- The task that returns is due again an interval after the pass. -/
theorem Timed.returned (timed : Timed s) {thread now index : Nat} {task : ScheduledTask η}
    (here : s.loops[thread]? = some (.acting now index)) (found : s.tasks[index]? = some task) :
    Timed { s.setLoop thread (.scanning now (index + 1)) with
      tasks := s.tasks.set index { task with nextRun := now + task.interval } } := by
  obtain ⟨sound, read, ahead, ⟨task', found', due⟩, earlier, logged⟩ :=
    timed.standing _ (List.mem_of_getElem? here)
  cases found.symm.trans found'
  have positive := timed.positive found
  refine ⟨timed.shortest, timed.alone here rfl, ?_, timed.passes, ?_, ?_, timed.born, ?_⟩
  · intro phase member
    rcases timed.others_idle here rfl member with same | ⟨before, idle⟩
    · rw [same]
      refine ⟨sound, read, ?_⟩
      intro j task' below known
      rcases getElem?_set_cases known with ⟨-, same⟩ | ⟨different, before⟩
      · rw [same]
        exact Nat.lt_add_of_pos_right positive
      · exact ahead j task' (by omega) before
    · exact (timed.standing phase before).later idle (Nat.le_refl _)
  · intro entry member
    rw [List.length_set]
    exact timed.logged entry member
  · rw [List.length_set]
    exact timed.registered
  · intro k born task' known born_known
    rcases getElem?_set_cases known with ⟨this, same⟩ | ⟨different, before⟩
    · subst this
      subst same
      have onTime := timed.tasks k born task found born_known
      have last : latest born (readingsOf k s.log) = now := by rw [logged, latest_concat]
      refine ⟨onTime.floor, onTime.paced, Or.inl (congrArg (· + task.interval) last.symm), ?_⟩
      intro now' member
      have before := onTime.passed now' member
      dsimp only
      omega
    · have onTime := timed.tasks k born task' before born_known
      refine ⟨onTime.floor, onTime.paced, onTime.next.imp id ?_, onTime.passed⟩
      rintro ⟨overdue, poisoned | ⟨now', acting⟩⟩
      · exact ⟨overdue, Or.inl poisoned⟩
      · refine ⟨overdue, Or.inr ⟨now', mem_set_of_ne here acting ?_⟩⟩
        intro same
        exact different (LoopPhase.acting.inj same).2

/-- A pass ends behind the last task. -/
theorem Timed.passed (timed : Timed s) {thread now index : Nat} {moved : LoopPhase}
    (here : s.loops[thread]? = some (.scanning now index)) (done : s.tasks[index]? = none)
    (idle : moved.busy = false) (awake : Standing s moved) :
    Timed { s.setLoop thread moved with passes := s.passes ++ [now] } := by
  obtain ⟨-, read, ahead⟩ := timed.standing _ (List.mem_of_getElem? here)
  have moved := timed.moved here (fun _ _ same => by cases same)
    (fun busy => absurd (idle.symm.trans busy) Bool.false_ne_true) awake
  refine ⟨moved.shortest, moved.sole, fun phase member => ?_, ?_, moved.logged, moved.registered,
    moved.born, ?_⟩
  · exact (moved.standing phase member).unchanged rfl rfl rfl (Nat.le_refl _)
  · intro now' member
    rcases List.mem_append.mp member with before | single
    · exact timed.passes now' before
    · rw [List.mem_singleton.mp single]
      exact read
  · intro k born task found known
    obtain ⟨floor, paced, next, passed⟩ := moved.tasks k born task found known
    refine ⟨floor, paced, next, ?_⟩
    intro now' member
    rcases List.mem_append.mp member with before | single
    · exact passed now' before
    · rw [List.mem_singleton.mp single]
      have below := (List.getElem?_eq_some_iff.mp found).1
      have beyond := List.getElem?_eq_none_iff.mp done
      exact ahead k task (Nat.lt_of_lt_of_le below beyond) found

/-! ## Panics and registrations -/

theorem Timed.poison (timed : Timed s) (loops : List LoopPhase)
    (idle : ∀ phase ∈ loops, phase.busy = false ∧ Standing s phase) :
    Timed { s with loops, poisoned := true } where
  shortest := timed.shortest
  sole := by
    intro i j first second found _ busy
    rw [(idle first (List.mem_of_getElem? found)).1] at busy
    cases busy
  standing := fun phase member =>
    (idle phase member).2.later (idle phase member).1 (Nat.le_refl _)
  passes := timed.passes
  logged := timed.logged
  registered := timed.registered
  born := timed.born
  tasks := by
    intro index born task found known
    obtain ⟨floor, paced, next, passed⟩ := timed.tasks index born task found known
    exact ⟨floor, paced, next.imp id fun overdue => ⟨overdue.1, Or.inl rfl⟩, passed⟩

theorem Timed.panicked (timed : Timed s) {thread now index : Nat}
    (here : s.loops[thread]? = some (.acting now index)) :
    Timed { s.setLoop thread .ended with poisoned := true } := by
  refine timed.poison _ fun phase member => ?_
  rcases timed.others_idle here rfl member with same | ⟨before, idle⟩
  · rw [same]
    exact ⟨rfl, trivial⟩
  · exact ⟨idle, timed.standing phase before⟩

/-- A task that is registered is due after one interval. -/
theorem Timed.register (timed : Timed s) (free : s.tasksHeld = false) (name : String)
    (interval : Nat) (action : η) : Timed (registerTask name interval action s).2 := by
  have idle := tasksHeld_false free
  unfold registerTask
  split
  · exact timed
  · dsimp only
    cases next : s.instantAdd s.clock (max interval s.tick) with
    | none =>
      exact timed.poison s.loops fun phase member =>
        ⟨idle phase member, timed.standing phase member⟩
    | some nextRun =>
      rw [instantAdd_eq next]
      refine ⟨timed.shortest, timed.sole, ?_, timed.passes, ?_, ?_, ?_, ?_⟩
      · exact fun phase member =>
          (timed.standing phase member).later (idle phase member) (Nat.le_refl _)
      · intro entry member
        obtain ⟨below, read⟩ := timed.logged entry member
        rw [List.length_append]
        exact ⟨Nat.lt_add_right _ below, read⟩
      · rw [List.length_append, List.length_append, timed.registered]
        rfl
      · intro born member
        rcases List.mem_append.mp member with before | single
        · exact timed.born born before
        · rw [List.mem_singleton.mp single]
      · intro index born task found known
        rcases getElem?_concat_cases found with before | ⟨last, rfl⟩
        · have below := (List.getElem?_eq_some_iff.mp before).1
          rw [List.getElem?_append_left (timed.registered ▸ below)] at known
          obtain ⟨floor, paced, next, passed⟩ := timed.tasks index born task before known
          exact ⟨floor, paced, next, passed⟩
        · subst last
          rw [← timed.registered, List.getElem?_concat_length, Option.some.injEq] at known
          subst known
          have fresh : readingsOf s.tasks.length s.log = [] := by
            refine List.eq_nil_iff_forall_not_mem.mpr fun reading member => ?_
            have below := (timed.logged _ (mem_readingsOf.mp member)).1
            exact absurd below (Nat.lt_irrefl _)
          refine ⟨Nat.le_max_right _ _, ?_, Or.inl ?_, ?_⟩
          · rw [fresh]
            exact paced_nil _ _
          · rw [fresh]
            rfl
          · intro now member
            have read := timed.passes now member
            have shortest := timed.shortest
            have floor : s.tick ≤ max interval s.tick := Nat.le_max_right _ _
            unfold shortestTick at shortest
            dsimp only
            omega

/-! ## Runs -/

/-- Each step of a loop thread keeps the tasks timed; cases as in the loop. -/
theorem loopStep_timed (timed : Timed s) (thread : Nat) (panics : Bool) :
    Timed (s.loopStep thread panics) := by
  have step := s.loopStep_moved thread panics
  generalize s.loopStep thread panics = s' at step
  cases step with
  | stayed => exact timed
  | checked here =>
    refine timed.moved here (fun _ _ same => by cases same) (fun busy => ?_) ?_
    · split at busy <;> cases busy
    · split <;> trivial
  | read here =>
    exact timed.moved here (fun _ _ same => by cases same) (fun busy => by cases busy)
      (Nat.le_refl s.clock)
  | refused now here poisoned =>
    exact timed.moved here (fun _ _ same => by cases same) (fun busy => by cases busy) trivial
  | woke wake here awake =>
    exact timed.moved here (fun _ _ same => by cases same) (fun busy => by cases busy) trivial
  | entered now here free sound =>
    have read : now ≤ s.clock := timed.standing _ (List.mem_of_getElem? here)
    refine timed.moved here (fun _ _ same => by cases same) ?_
      ⟨sound, read, fun j _ below => absurd below (Nat.not_lt_zero j)⟩
    intro _ j other found busy
    have idle := tasksHeld_false free other (List.mem_of_getElem? found)
    cases idle.symm.trans busy
  | skipped now index task here found early =>
    obtain ⟨sound, read, ahead⟩ := timed.standing _ (List.mem_of_getElem? here)
    refine timed.moved here (fun _ _ same => by cases same)
      (fun _ j other there busy => timed.sole j thread other _ there here busy rfl)
      ⟨sound, read, ?_⟩
    intro j task' below known
    by_cases last : j = index
    · subst last
      cases found.symm.trans known
      exact early
    · exact ahead j task' (by omega) known
  | began now index task here found due => exact timed.began here found due
  | returned now index task here found => exact timed.returned here found
  | panicked now index here => exact timed.panicked here
  | passed now index here done => exact timed.passed here done rfl trivial

/-- Each step of the scheduler keeps the tasks timed. -/
theorem step_timed (s : Scheduler η) (label : SchedulerLabel η) (timed : Timed s) :
    Timed (step s label) := by
  cases label with
  | elapse duration => exact timed.elapse duration
  | register name interval action =>
    unfold step
    cases free : s.tasksHeld with
    | true => exact timed
    | false => exact timed.register free name interval action
  | start =>
    unfold step start
    dsimp only
    split
    · exact timed.control _ _ _
    · exact timed.control _ _ _
  | stop => exact timed.control _ _ _
  | call index =>
    obtain ⟨slot, calls, loops, spawned, same⟩ := s.step_call index
    rw [same]
    rcases spawned with rfl | rfl
    · exact timed.control s.running slot calls
    · exact timed.spawn slot calls
  | loop thread panics => exact loopStep_timed timed thread panics

/-- Whoever calls and however many loop threads there are, actions run one at a time, the
readings of an action are its interval apart, so it has not run more often than its intervals
since it was registered; and a pass that is through found or left none of them due. -/
theorem actions_keep_their_cadence (tick horizon : Nat) (labels : List (SchedulerLabel η)) :
    let s := run step (new tick horizon) labels
    AtMostOne LoopPhase.busy s.loops ∧ shortestTick ≤ s.tick ∧
      ∀ (index born : Nat) (task : ScheduledTask η), s.tasks[index]? = some task →
        s.registered[index]? = some born →
        s.tick ≤ task.interval ∧ Paced task.interval born (readingsOf index s.log) ∧
          born + (readingsOf index s.log).length * task.interval ≤ s.clock ∧
          ∀ now ∈ s.passes, now < latest born (readingsOf index s.log) + task.interval := by
  intro s
  have timed : Timed s := run_invariant step_timed _ (timed_new tick horizon) labels
  refine ⟨timed.sole, timed.shortest, ?_⟩
  intro index born task found known
  obtain ⟨floor, paced, next, passed⟩ := timed.tasks index born task found known
  have recent : latest born (readingsOf index s.log) ≤ s.clock :=
    latest_le (timed.born born (List.mem_of_getElem? known)) fun reading member =>
      (timed.logged _ (mem_readingsOf.mp member)).2
  refine ⟨floor, paced, paced.count.trans recent, ?_⟩
  intro now member
  have before := passed now member
  rcases next with settled | ⟨overdue, -⟩
  · omega
  · omega

/-- A second loop thread is started behind the back of a `stop`, and both find the task due. -/
def twoLoops : List (SchedulerLabel Unit) :=
  [.register "sync" 0 (), .start, .call 0, .call 0, .stop, .start, .call 2, .elapse (10 * 10 ^ 6),
    .loop 0 false, .loop 0 false, .loop 1 false, .loop 1 false, .loop 0 false, .loop 1 false,
    .loop 0 false, .loop 0 false, .loop 0 false, .loop 1 false, .loop 1 false, .loop 1 false]

theorem actions_keep_their_cadence_two_loops :
    let s := run step (new 0 (10 ^ 18)) twoLoops
    s.log = [(0, 10 * 10 ^ 6)] ∧ s.passes = [10 * 10 ^ 6, 10 * 10 ^ 6] ∧
      AtMostOne LoopPhase.busy s.loops ∧ shortestTick ≤ s.tick ∧
      ∀ (index born : Nat) (task : ScheduledTask Unit), s.tasks[index]? = some task →
        s.registered[index]? = some born →
        s.tick ≤ task.interval ∧ Paced task.interval born (readingsOf index s.log) ∧
          born + (readingsOf index s.log).length * task.interval ≤ s.clock ∧
          ∀ now ∈ s.passes, now < latest born (readingsOf index s.log) + task.interval :=
  ⟨by decide, by decide, actions_keep_their_cadence 0 (10 ^ 18) twoLoops⟩

end Apcos.Guarantees.SchedulerCadence
