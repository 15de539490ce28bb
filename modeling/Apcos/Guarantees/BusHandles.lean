import Apcos.Source.Supervisor.BusEffects

/-!
# The last handle of a bus

os/src/event_bus.rs:89-112 and 251-259. The reference count is the number of
live handles and one more while the dispatch thread runs, which holds a clone of
the inner state. The loop ends only at a `Stop`, and only a shutdown sends one,
so while the bus is active the count of the last handle is two: the drop that is
meant to shut the bus down finds a count that is not one.
-/
namespace Apcos.Guarantees.BusHandles

open Apcos.Lib
open Apcos.Source.Supervisor

variable {η : Type}

/-! ## Handles -/

structure SharedBus (η : Type) where
  bus : EventBus η
  handles : Nat

/-- `EventBus::new` returns the first handle. -/
def SharedBus.new (queueCapacity : Nat) (maxHops : Fin 256) (traceCapacity : Nat) : SharedBus η :=
  ⟨.new queueCapacity maxHops traceCapacity, 1⟩

/-- `Arc::strong_count`. -/
def SharedBus.strongCount (s : SharedBus η) : Nat :=
  match s.bus.dispatch with
  | .ended => s.handles
  | .receiving | .handling .. | .leaving => s.handles + 1

/-- `Drop for EventBus`. At a count of one neither another handle nor the dispatch
thread is left to act, so the steps of the shutdown follow one another. -/
def SharedBus.dropHandle (s : SharedBus η) (thread : Nat) : SharedBus η :=
  if s.handles = 0 then s
  else if s.strongCount = 1 then
    ⟨((s.bus.shutdown thread).sendStop thread).join thread, s.handles - 1⟩
  else ⟨s.bus, s.handles - 1⟩

/-- `other` is a step of any thread that uses the bus. -/
inductive HandleOp (η : Type) where
  | clone
  | drop (thread : Nat)
  | other (label : EventBus.Label η)

def SharedBus.step (s : SharedBus η) : HandleOp η → SharedBus η
  | .clone => if s.handles = 0 then s else ⟨s.bus, s.handles + 1⟩
  | .drop thread => s.dropHandle thread
  | .other label => ⟨s.bus.step label, s.handles⟩

/-- The step clears the active flag and sends `Stop`. -/
def PerformsShutdown (s s' : SharedBus η) : Prop :=
  s.bus.active = true ∧ s'.bus.active = false ∧
    s'.bus.channel.items = s.bus.channel.items ++ [.stop]

/-- Among the drops of the run, the one that leaves no live handle performs the
shutdown, and no other does. -/
def LastDropShutsDown (start : SharedBus η) (ops : List (HandleOp η)) : Prop :=
  ∀ before thread after, ops = before ++ HandleOp.drop thread :: after →
    0 < (run SharedBus.step start before).handles →
      (PerformsShutdown (run SharedBus.step start before)
          ((run SharedBus.step start before).step (.drop thread)) ↔
        (run SharedBus.step start before).handles = 1)

/-! ## An active bus has a dispatch thread -/

/-- While the flag is set nobody has sent `Stop` or is about to, and the loop runs. -/
structure Attended (s : EventBus η) : Prop where
  runs : s.active = true → s.dispatch.stage = .looping
  unstopped : s.active = true → BusCommand.stop ∉ s.channel.items
  nobody : s.active = true → ∀ thread, s.clients thread ≠ .stopping

theorem attended_new (queueCapacity : Nat) (maxHops : Fin 256) (traceCapacity : Nat) :
    Attended (EventBus.new queueCapacity maxHops traceCapacity : EventBus η) where
  runs _ := rfl
  unstopped _ := by simp [EventBus.new]
  nobody _ thread := by simp [EventBus.new]

theorem attended_of_inactive {s : EventBus η} (inactive : s.active = false) : Attended s := by
  constructor <;> intro active <;> rw [inactive] at active <;> cases active

theorem setPhase_active (s : EventBus η) (caller : Caller) (phase : Phase) :
    (s.setPhase caller phase).active = s.active := by
  cases caller with
  | client thread => rfl
  | dispatcher => unfold EventBus.setPhase; cases s.dispatch <;> rfl

/-- Only a caller that is about to send `Stop` could upset it. -/
theorem Attended.setPhase {s : EventBus η} (attended : Attended s) (caller : Caller)
    {phase : Phase} (other : phase ≠ .stopping) : Attended (s.setPhase caller phase) := by
  constructor
  · intro active
    rw [setPhase_active] at active
    simpa using attended.runs active
  · intro active
    rw [setPhase_active] at active
    simpa using attended.unstopped active
  · intro active thread
    rw [setPhase_active] at active
    have before := attended.nobody active thread
    rcases s.phaseOf_setPhase_cases caller phase (.client thread) with set | kept
    · simp only [EventBus.phaseOf] at set
      rw [set]
      exact other
    · simp only [EventBus.phaseOf] at kept
      rw [kept]
      exact before

theorem Attended.finishCall {s : EventBus η} (attended : Attended s) (caller : Caller)
    (call : BusCall) (result : Except EventBusError EventEnvelope) :
    Attended (s.finishCall caller call result) := by
  apply Attended.setPhase _ caller (by simp)
  exact ⟨attended.runs, attended.unstopped, attended.nobody⟩

theorem Attended.enter {s : EventBus η} (attended : Attended s) (caller : Caller)
    (call : BusCall) : Attended (s.enter caller call) := by
  have counted : Attended { s with nextId := s.nextId + 1 } :=
    ⟨attended.runs, attended.unstopped, attended.nobody⟩
  cases call with
  | publish event source => exact counted.setPhase caller (by simp)
  | publishWithTrace event source traceId hopCount => exact attended.setPhase caller (by simp)
  | continueTrace parent event source => exact attended.setPhase caller (by simp)

theorem Attended.send {s : EventBus η} (attended : Attended s) (caller : Caller) :
    Attended (s.send caller) := by
  unfold EventBus.send
  split
  · rename_i call envelope phase
    cases sent : s.channel.trySend (.publish envelope) with
    | accepted channel =>
      obtain ⟨connected, room, rfl⟩ := Channel.trySend_accepted sent
      apply Attended.finishCall
      refine ⟨attended.runs, fun active => ?_, attended.nobody⟩
      simpa using attended.unstopped active
    | waiting => exact attended
    | disconnected => exact attended.finishCall caller call _
  · exact attended

/-- A receive leaves an active bus looping: there is no `Stop` to receive. -/
theorem Attended.receive {s : EventBus η} (attended : Attended s) : Attended s.receive := by
  unfold EventBus.receive
  split
  · cases taken : s.channel.receive with
    | none => exact attended
    | some found =>
      obtain ⟨command, channel⟩ := found
      obtain ⟨items, rfl⟩ := Channel.receive_some taken
      cases command with
      | stop =>
        apply attended_of_inactive
        apply Bool.eq_false_iff.mpr
        intro active
        apply attended.unstopped active
        rw [items]
        exact List.mem_cons_self
      | publish envelope =>
        have later : s.active = true → BusCommand.stop ∉ s.channel.items.tail := by
          intro active queued
          exact attended.unstopped active (List.mem_of_mem_tail queued)
        dsimp only
        split
        · exact ⟨attended.runs, later, attended.nobody⟩
        · exact ⟨fun _ => rfl, later, attended.nobody⟩
  · exact attended

theorem Attended.shutdown {s : EventBus η} (attended : Attended s) (thread : Nat) :
    Attended (s.shutdown thread) := by
  unfold EventBus.shutdown
  split
  · split
    · apply attended_of_inactive
      rw [setPhase_active]
    · exact attended
  · exact attended

theorem Attended.sendStop {s : EventBus η} (attended : Attended s) (thread : Nat) :
    Attended (s.sendStop thread) := by
  unfold EventBus.sendStop
  split
  · rename_i phase
    have inactive : s.active = false := by
      apply Bool.eq_false_iff.mpr
      intro active
      exact attended.nobody active thread phase
    cases sent : s.channel.trySend .stop with
    | accepted channel =>
      apply attended_of_inactive
      rw [setPhase_active]
      exact inactive
    | waiting => exact attended
    | disconnected => exact attended.setPhase _ (by simp)
  · exact attended

theorem Attended.join {s : EventBus η} (attended : Attended s) (thread : Nat) :
    Attended (s.join thread) := by
  unfold EventBus.join
  split
  · exact attended.setPhase _ (by simp)
  · exact attended

/-- Every step leaves an active bus with its dispatch thread. -/
theorem Attended.step {s : EventBus η} (attended : Attended s) (label : EventBus.Label η) :
    Attended (s.step label) := by
  cases label with
  | subscribe event handler =>
    simp only [EventBus.step, EventBus.subscribe]
    split
    · exact attended
    · exact ⟨attended.runs, attended.unstopped, attended.nobody⟩
  | unsubscribe id =>
    simp only [EventBus.step, EventBus.unsubscribe]
    split
    · exact attended
    · exact ⟨attended.runs, attended.unstopped, attended.nobody⟩
  | call thread call =>
    simp only [EventBus.step]
    split
    · exact attended.enter _ call
    · exact attended
  | check caller =>
    simp only [EventBus.step, EventBus.check]
    split
    · split
      · exact attended.finishCall _ _ _
      · split
        · exact attended.finishCall _ _ _
        · exact attended.setPhase _ (by simp)
    · exact attended
  | allocate caller now =>
    simp only [EventBus.step, EventBus.allocate]
    split
    · apply Attended.setPhase _ _ (by simp)
      exact ⟨attended.runs, attended.unstopped, attended.nobody⟩
    · exact attended
  | send caller => exact attended.send caller
  | shutdown thread => exact attended.shutdown thread
  | sendStop thread => exact attended.sendStop thread
  | join thread => exact attended.join thread
  | receive => exact attended.receive
  | invoke script =>
    simp only [EventBus.step, EventBus.invoke]
    split
    · exact ⟨fun _ => rfl, attended.unstopped, attended.nobody⟩
    · exact attended
  | proceed =>
    simp only [EventBus.step, EventBus.proceed]
    split
    · apply Attended.enter
      exact ⟨fun _ => rfl, attended.unstopped, attended.nobody⟩
    · exact attended
  | finishHandling =>
    simp only [EventBus.step, EventBus.finishHandling]
    split
    · exact ⟨fun _ => rfl, attended.unstopped, attended.nobody⟩
    · exact attended
  | dropReceiver =>
    simp only [EventBus.step, EventBus.dropReceiver]
    split
    · rename_i leaving
      apply attended_of_inactive
      apply Bool.eq_false_iff.mpr
      intro active
      have looping := attended.runs active
      rw [leaving] at looping
      cases looping
    · exact attended

theorem step_attended (s : SharedBus η) (op : HandleOp η) (attended : Attended s.bus) :
    Attended (s.step op).bus := by
  cases op with
  | clone =>
    simp only [SharedBus.step]
    split <;> exact attended
  | drop thread =>
    simp only [SharedBus.step, SharedBus.dropHandle]
    split
    · exact attended
    · split
      · exact ((attended.shutdown thread).sendStop thread).join thread
      · exact attended
  | other label => exact attended.step label

/-! ## No drop shuts the bus down -/

theorem strongCount_of_active {s : SharedBus η} (attended : Attended s.bus)
    (active : s.bus.active = true) : s.strongCount = s.handles + 1 := by
  have looping := attended.runs active
  unfold SharedBus.strongCount
  split
  · rename_i ended
    rw [ended] at looping
    cases looping
  · rfl
  · rfl
  · rfl

theorem drop_never_shuts_down {s : SharedBus η} (attended : Attended s.bus) (thread : Nat) :
    ¬PerformsShutdown s (s.step (.drop thread)) := by
  rintro ⟨active, inactive, -⟩
  have count := strongCount_of_active attended active
  simp only [SharedBus.step, SharedBus.dropHandle] at inactive
  split at inactive
  · rw [active] at inactive
    cases inactive
  · split at inactive
    · omega
    · rw [active] at inactive
      cases inactive

theorem step_handles_zero {s : SharedBus η} (none : s.handles = 0) (op : HandleOp η) :
    (s.step op).handles = 0 := by
  cases op with
  | clone => simp [SharedBus.step, none]
  | drop thread => simp [SharedBus.step, SharedBus.dropHandle, none]
  | other label => exact none

theorem run_handles_zero {s : SharedBus η} (none : s.handles = 0) (ops : List (HandleOp η)) :
    (run SharedBus.step s ops).handles = 0 := by
  induction ops generalizing s with
  | nil => exact none
  | cons op rest ih => exact ih (step_handles_zero none op)

/-- The last handle goes in a drop. -/
theorem exists_last_drop (start : SharedBus η) (live : 0 < start.handles)
    (ops : List (HandleOp η)) (gone : (run SharedBus.step start ops).handles = 0) :
    ∃ before thread after, ops = before ++ .drop thread :: after ∧
      (run SharedBus.step start before).handles = 1 := by
  induction ops generalizing start with
  | nil =>
    rw [run_nil] at gone
    omega
  | cons op rest ih =>
    by_cases last : (start.step op).handles = 0
    · cases op with
      | clone =>
        simp only [SharedBus.step] at last
        split at last
        · omega
        · simp at last
      | drop thread =>
        refine ⟨[], thread, rest, rfl, ?_⟩
        simp only [SharedBus.step, SharedBus.dropHandle] at last
        split at last
        · omega
        · split at last <;> simp only at last <;> rw [run_nil] <;> omega
      | other label =>
        have same : start.handles = 0 := last
        omega
    · obtain ⟨before, thread, after, rfl, one⟩ := ih (start.step op) (by omega) gone
      exact ⟨op :: before, thread, after, rfl, one⟩

/-- The drops shut the bus down as intended exactly when none of them was the last. -/
theorem last_drop_shuts_down_iff (queueCapacity : Nat) (maxHops : Fin 256) (traceCapacity : Nat)
    (ops : List (HandleOp η)) :
    let start : SharedBus η := .new queueCapacity maxHops traceCapacity
    LastDropShutsDown start ops ↔ (run SharedBus.step start ops).handles ≠ 0 := by
  intro start
  have never (before : List (HandleOp η)) (thread : Nat) :
      ¬PerformsShutdown (run SharedBus.step start before)
        ((run SharedBus.step start before).step (.drop thread)) := by
    apply drop_never_shuts_down
    exact run_invariant step_attended start (attended_new _ _ _) before
  constructor
  · intro intended gone
    obtain ⟨before, thread, after, split, one⟩ :=
      exists_last_drop start (Nat.zero_lt_one) ops gone
    have live : 0 < (run SharedBus.step start before).handles := by omega
    exact never before thread ((intended before thread after split live).mpr one)
  · intro remaining before thread after split live
    refine iff_of_false (never before thread) (fun one => remaining ?_)
    rw [split, run_append, run_cons]
    apply run_handles_zero
    simp only [SharedBus.step, SharedBus.dropHandle]
    split
    · omega
    · split <;> simp only <;> omega

/-- A bus that is created and dropped. -/
theorem dropped_bus_stays_active :
    let start : SharedBus Unit := .new 128 8 256
    ¬LastDropShutsDown start [.drop 0] ∧
      (run SharedBus.step start [.drop 0]).handles = 0 ∧
      (run SharedBus.step start [.drop 0]).bus.active = true := by
  refine ⟨fun intended => ?_, rfl, rfl⟩
  have performed := (intended [] 0 [] rfl Nat.zero_lt_one).mpr rfl
  exact drop_never_shuts_down (attended_new 128 8 256) 0 performed

end Apcos.Guarantees.BusHandles
