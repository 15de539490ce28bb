import Apcos.Source.Supervisor.EventBus

/-!
# What a step of the event bus does

One inversion for the ledger of the bus (the channel, the accepted and the
dispatched envelopes, the stage of the loop), and the hop limit as an invariant
of every run: whatever is checked, sent, queued or accepted is within it.
-/
namespace Apcos.Source.Supervisor

open Apcos.Lib (Channel)

@[simp] theorem envelopesOf_nil : envelopesOf [] = [] := rfl

@[simp] theorem envelopesOf_publish (envelope : EventEnvelope) (commands : List BusCommand) :
    envelopesOf (.publish envelope :: commands) = envelope :: envelopesOf commands := rfl

@[simp] theorem envelopesOf_stop (commands : List BusCommand) :
    envelopesOf (.stop :: commands) = envelopesOf commands := rfl

@[simp] theorem envelopesOf_append (first second : List BusCommand) :
    envelopesOf (first ++ second) = envelopesOf first ++ envelopesOf second :=
  List.filterMap_append

/-- What has passed the check is within the limit, and an envelope has the hop count of its call. -/
def Phase.Within (limit : Fin 256) : Phase → Prop
  | .checked call _ => call.hopCount ≤ limit
  | .sending call envelope => envelope.hopCount = call.hopCount ∧ envelope.hopCount ≤ limit
  | _ => True

/-- How far `dispatch_loop` has come: in the loop, past the break, returned. -/
inductive LoopStage where
  | looping | leaving | ended

def Dispatch.stage {η : Type} : Dispatch η → LoopStage
  | .receiving | .handling .. => .looping
  | .leaving => .leaving
  | .ended => .ended

namespace EventBus

variable {η : Type}

/-! ## Frames -/

section Frames

variable (s : EventBus η) (caller : Caller) (phase : Phase) (call : BusCall)
  (result : Except EventBusError EventEnvelope)

@[simp] theorem setPhase_channel : (s.setPhase caller phase).channel = s.channel := by
  cases caller with
  | client thread => rfl
  | dispatcher => unfold setPhase; cases s.dispatch <;> rfl

@[simp] theorem setPhase_outcomes : (s.setPhase caller phase).outcomes = s.outcomes := by
  cases caller with
  | client thread => rfl
  | dispatcher => unfold setPhase; cases s.dispatch <;> rfl

@[simp] theorem setPhase_dispatched : (s.setPhase caller phase).dispatched = s.dispatched := by
  cases caller with
  | client thread => rfl
  | dispatcher => unfold setPhase; cases s.dispatch <;> rfl

@[simp] theorem setPhase_maxHops : (s.setPhase caller phase).maxHops = s.maxHops := by
  cases caller with
  | client thread => rfl
  | dispatcher => unfold setPhase; cases s.dispatch <;> rfl

@[simp] theorem setPhase_stage :
    (s.setPhase caller phase).dispatch.stage = s.dispatch.stage := by
  cases caller with
  | client thread => rfl
  | dispatcher =>
    unfold setPhase
    cases running : s.dispatch with
    | receiving => rw [running]
    | handling envelope handlers script before => rfl
    | leaving => rw [running]
    | ended => rw [running]

/-- A phase that was set is the phase of that thread only. -/
theorem phaseOf_setPhase_cases (other : Caller) :
    (s.setPhase caller phase).phaseOf other = phase ∨
      (s.setPhase caller phase).phaseOf other = s.phaseOf other := by
  cases caller with
  | client thread =>
    cases other with
    | client thread' =>
      by_cases same : thread' = thread
      · subst same
        exact Or.inl (Function.update_self ..)
      · exact Or.inr (Function.update_of_ne same ..)
    | dispatcher => exact Or.inr rfl
  | dispatcher =>
    unfold setPhase
    cases running : s.dispatch with
    | receiving => exact Or.inr rfl
    | leaving => exact Or.inr rfl
    | ended => exact Or.inr rfl
    | handling envelope handlers script before =>
      cases other with
      | client thread' => exact Or.inr rfl
      | dispatcher => exact Or.inl rfl

@[simp] theorem finishCall_channel : (s.finishCall caller call result).channel = s.channel := by
  simp [finishCall]

@[simp] theorem finishCall_dispatched :
    (s.finishCall caller call result).dispatched = s.dispatched := by
  simp [finishCall]

@[simp] theorem finishCall_maxHops : (s.finishCall caller call result).maxHops = s.maxHops := by
  simp [finishCall]

@[simp] theorem finishCall_stage :
    (s.finishCall caller call result).dispatch.stage = s.dispatch.stage := by
  simp [finishCall]

@[simp] theorem finishCall_outcomes :
    (s.finishCall caller call result).outcomes =
      s.outcomes ++ [⟨s.causeOf caller, call, result⟩] := by
  simp [finishCall]

@[simp] theorem setPhase_accepted : (s.setPhase caller phase).accepted = s.accepted := by
  simp [accepted]

theorem finishCall_accepted_ok (envelope : EventEnvelope) :
    (s.finishCall caller call (.ok envelope)).accepted = s.accepted ++ [envelope] := by
  simp [accepted, Except.toOption]

theorem finishCall_accepted_error (error : EventBusError) :
    (s.finishCall caller call (.error error)).accepted = s.accepted := by
  simp [accepted, Except.toOption]

end Frames

/-! ## The ledger -/

/-- The channel, the two logs and the stage of the loop are as before. -/
structure SameLedger (s s' : EventBus η) : Prop where
  channel : s'.channel = s.channel
  accepted : s'.accepted = s.accepted
  dispatched : s'.dispatched = s.dispatched
  stage : s'.dispatch.stage = s.dispatch.stage

/-- How a step moves the ledger. -/
inductive Moves (s : EventBus η) (label : Label η) (s' : EventBus η) : Prop where
  | quiet (same : SameLedger s s')
  | sent (caller : Caller) (call : BusCall) (envelope : EventEnvelope)
      (named : label = .send caller) (phase : s.phaseOf caller = .sending call envelope)
      (connected : s.channel.connected = true) (room : s.channel.items.length < s.channel.capacity)
      (channel : s'.channel = s.channel.push (.publish envelope) room)
      (accepted : s'.accepted = s.accepted ++ [envelope])
      (dispatched : s'.dispatched = s.dispatched)
      (stage : s'.dispatch.stage = s.dispatch.stage)
  | stopped (thread : Nat) (named : label = .sendStop thread)
      (phase : s.clients thread = .stopping) (connected : s.channel.connected = true)
      (room : s.channel.items.length < s.channel.capacity)
      (channel : s'.channel = s.channel.push .stop room) (accepted : s'.accepted = s.accepted)
      (dispatched : s'.dispatched = s.dispatched)
      (stage : s'.dispatch.stage = s.dispatch.stage)
  | taken (envelope : EventEnvelope) (running : s.dispatch = .receiving)
      (items : s.channel.items = .publish envelope :: s.channel.items.tail)
      (channel : s'.channel = s.channel.rest) (accepted : s'.accepted = s.accepted)
      (within : ¬s.maxHops < envelope.hopCount → s'.dispatched = s.dispatched ++ [envelope])
      (stage : s'.dispatch.stage = .looping)
  | halted (running : s.dispatch = .receiving)
      (items : s.channel.items = .stop :: s.channel.items.tail)
      (channel : s'.channel = s.channel.rest) (accepted : s'.accepted = s.accepted)
      (dispatched : s'.dispatched = s.dispatched) (stage : s'.dispatch.stage = .leaving)
  | dropped (running : s.dispatch = .leaving)
      (channel : s'.channel = s.channel.disconnect) (accepted : s'.accepted = s.accepted)
      (dispatched : s'.dispatched = s.dispatched) (stage : s'.dispatch.stage = .ended)

theorem SameLedger.refl (s : EventBus η) : SameLedger s s := ⟨rfl, rfl, rfl, rfl⟩

theorem SameLedger.setPhase {s s' : EventBus η} (same : SameLedger s s') (caller : Caller)
    (phase : Phase) : SameLedger s (s'.setPhase caller phase) where
  channel := (s'.setPhase_channel caller phase).trans same.channel
  accepted := (s'.setPhase_accepted caller phase).trans same.accepted
  dispatched := (s'.setPhase_dispatched caller phase).trans same.dispatched
  stage := (s'.setPhase_stage caller phase).trans same.stage

theorem sameLedger_failCall (s : EventBus η) (caller : Caller) (call : BusCall)
    (error : EventBusError) : SameLedger s (s.finishCall caller call (.error error)) :=
  ⟨s.finishCall_channel caller call _, s.finishCall_accepted_error caller call error,
    s.finishCall_dispatched caller call _, s.finishCall_stage caller call _⟩

theorem sameLedger_enter (s : EventBus η) (caller : Caller) (call : BusCall) :
    SameLedger s (s.enter caller call) := by
  cases call with
  | publish event source =>
    apply SameLedger.setPhase
    exact ⟨rfl, rfl, rfl, rfl⟩
  | publishWithTrace event source traceId hopCount => exact (SameLedger.refl s).setPhase caller _
  | continueTrace parent event source => exact (SameLedger.refl s).setPhase caller _

theorem sameLedger_check (s : EventBus η) (caller : Caller) : SameLedger s (s.check caller) := by
  unfold check
  split
  · split_ifs
    · exact sameLedger_failCall s caller _ _
    · exact sameLedger_failCall s caller _ _
    · exact (SameLedger.refl s).setPhase caller _
  · exact .refl s

theorem sameLedger_allocate (s : EventBus η) (caller : Caller) (now : Fin (2 ^ 128)) :
    SameLedger s (s.allocate caller now) := by
  unfold allocate
  split
  · apply SameLedger.setPhase
    exact ⟨rfl, rfl, rfl, rfl⟩
  · exact .refl s

/-- What a send changes: the caller goes on, refused or with its envelope in the channel. -/
theorem send_moves (s : EventBus η) (caller : Caller) :
    Moves s (.send caller) (s.send caller) := by
  unfold send
  split
  · rename_i call envelope phase
    split
    · rename_i channel sent
      obtain ⟨connected, room, rfl⟩ := Channel.trySend_accepted sent
      exact .sent caller call envelope rfl phase connected room (finishCall_channel _ _ _ _)
        (finishCall_accepted_ok _ _ _ _) (finishCall_dispatched _ _ _ _) (finishCall_stage _ _ _ _)
    · exact .quiet (.refl s)
    · exact .quiet (sameLedger_failCall s caller call _)
  · exact .quiet (.refl s)

/-- What sending `Stop` changes. -/
theorem sendStop_moves (s : EventBus η) (thread : Nat) :
    Moves s (.sendStop thread) (s.sendStop thread) := by
  unfold sendStop
  split
  · rename_i phase
    split
    · rename_i channel sent
      obtain ⟨connected, room, rfl⟩ := Channel.trySend_accepted sent
      exact .stopped thread rfl phase connected room (setPhase_channel _ _ _)
        (setPhase_accepted _ _ _) (setPhase_dispatched _ _ _) (setPhase_stage _ _ _)
    · exact .quiet (.refl s)
    · exact .quiet ((SameLedger.refl s).setPhase _ _)
  · exact .quiet (.refl s)

/-- What one receive changes: the next envelope is handled, or the loop is left. -/
theorem receive_moves (s : EventBus η) : Moves s .receive s.receive := by
  unfold receive
  split
  · rename_i running
    split
    · exact .quiet (.refl s)
    · rename_i channel received
      obtain ⟨items, rfl⟩ := Channel.receive_some received
      exact .halted running items rfl rfl rfl rfl
    · rename_i envelope channel received
      obtain ⟨items, rfl⟩ := Channel.receive_some received
      split_ifs with beyond
      · refine .taken envelope running items rfl rfl (fun within => absurd beyond within) ?_
        rw [running]
        rfl
      · exact .taken envelope running items rfl rfl (fun _ => rfl) rfl
  · exact .quiet (.refl s)

theorem dropReceiver_moves (s : EventBus η) : Moves s .dropReceiver s.dropReceiver := by
  unfold dropReceiver
  split
  · rename_i running
    exact .dropped running rfl rfl rfl rfl
  · exact .quiet (.refl s)

theorem enter_maxHops (s : EventBus η) (caller : Caller) (call : BusCall) :
    (s.enter caller call).maxHops = s.maxHops := by
  cases call <;> exact setPhase_maxHops _ _ _

/-- The hop limit is fixed when the bus is made. -/
@[simp] theorem step_maxHops (s : EventBus η) (label : Label η) :
    (s.step label).maxHops = s.maxHops := by
  cases label with
  | subscribe event handler =>
    simp only [step, subscribe]
    split_ifs <;> rfl
  | unsubscribe id =>
    simp only [step, unsubscribe]
    split <;> rfl
  | call thread call =>
    simp only [step]
    split_ifs
    · exact s.enter_maxHops _ call
    · rfl
  | check caller =>
    simp only [step, check]
    split
    · split_ifs <;> simp
    · rfl
  | allocate caller now =>
    simp only [step, allocate]
    split
    · exact setPhase_maxHops _ _ _
    · rfl
  | send caller =>
    simp only [step, send]
    split
    · split <;> simp
    · rfl
  | shutdown thread =>
    simp only [step, shutdown]
    split
    · split_ifs <;> rfl
    · rfl
  | sendStop thread =>
    simp only [step, sendStop]
    split
    · split <;> rfl
    · rfl
  | join thread =>
    simp only [step, join]
    split <;> rfl
  | receive =>
    simp only [step, receive]
    split
    · split
      · rfl
      · rfl
      · split_ifs <;> rfl
    · rfl
  | invoke script =>
    simp only [step, invoke]
    split <;> rfl
  | proceed =>
    simp only [step, proceed]
    split
    · exact enter_maxHops _ _ _
    · rfl
  | finishHandling =>
    simp only [step, finishHandling]
    split <;> rfl
  | dropReceiver =>
    simp only [step, dropReceiver]
    split <;> rfl

theorem run_maxHops (s : EventBus η) (labels : List (Label η)) :
    (Lib.run step s labels).maxHops = s.maxHops := by
  induction labels generalizing s with
  | nil => rfl
  | cons label rest ih => rw [Lib.run_cons, ih, step_maxHops]

/-- Every step is one of these moves. -/
theorem step_moves (s : EventBus η) (label : Label η) : Moves s label (s.step label) := by
  cases label with
  | subscribe event handler =>
    refine .quiet ?_
    simp only [step, subscribe]
    split_ifs
    · exact .refl s
    · exact ⟨rfl, rfl, rfl, rfl⟩
  | unsubscribe id =>
    refine .quiet ?_
    simp only [step, unsubscribe]
    split
    · exact .refl s
    · exact ⟨rfl, rfl, rfl, rfl⟩
  | call thread call =>
    refine .quiet ?_
    simp only [step]
    split_ifs
    · exact sameLedger_enter s _ call
    · exact .refl s
  | check caller => exact .quiet (sameLedger_check s caller)
  | allocate caller now => exact .quiet (sameLedger_allocate s caller now)
  | send caller => exact send_moves s caller
  | shutdown thread =>
    refine .quiet ?_
    simp only [step, shutdown]
    split
    · split_ifs
      · apply SameLedger.setPhase
        exact ⟨rfl, rfl, rfl, rfl⟩
      · exact .refl s
    · exact .refl s
  | sendStop thread => exact sendStop_moves s thread
  | join thread =>
    refine .quiet ?_
    simp only [step, join]
    split
    · exact (SameLedger.refl s).setPhase _ _
    · exact .refl s
  | receive => exact receive_moves s
  | invoke script =>
    refine .quiet ?_
    simp only [step, invoke]
    split
    · rename_i running
      exact ⟨rfl, rfl, rfl, by rw [running]; rfl⟩
    · exact .refl s
  | proceed =>
    refine .quiet ?_
    simp only [step, proceed]
    split
    · rename_i envelope handlers call script running
      have entered := sameLedger_enter
        { s with dispatch := .handling envelope handlers script .idle } .dispatcher call
      exact ⟨entered.channel, entered.accepted, entered.dispatched,
        entered.stage.trans (by rw [running]; rfl)⟩
    · exact .refl s
  | finishHandling =>
    refine .quiet ?_
    simp only [step, finishHandling]
    split
    · rename_i running
      exact ⟨rfl, rfl, rfl, by rw [running]; rfl⟩
    · exact .refl s
  | dropReceiver => exact dropReceiver_moves s

/-! ## The dispatch thread and the returned calls -/

/-- How a step moves the dispatch thread. -/
inductive DispatchMoves (s : EventBus η) (label : Label η) (after : Dispatch η) : Prop where
  | same (unmoved : after = s.dispatch)
  | outside (beyond : after = .receiving ∨ after = .leaving ∨ after = .ended)
  | opened (envelope : EventEnvelope) (within : ¬s.maxHops < envelope.hopCount)
      (fresh : after = .handling envelope (s.matchingHandlers envelope.event) [] .idle)
  | invoked (envelope : EventEnvelope) (handler : η) (handlers : List η) (script : List BusCall)
      (named : label = .invoke script)
      (before : s.dispatch = .handling envelope (handler :: handlers) [] .idle)
      (entered : after = .handling envelope handlers script .idle)
  | proceeded (envelope : EventEnvelope) (handlers : List η) (call : BusCall)
      (script : List BusCall) (traceId : UInt64)
      (before : s.dispatch = .handling envelope handlers (call :: script) .idle)
      (entered : after = .handling envelope handlers script (.entered call traceId))
  | returned (envelope : EventEnvelope) (handlers : List η) (script : List BusCall) (phase : Phase)
      (before : s.dispatch = .handling envelope handlers script phase)
      (idle : after = .handling envelope handlers script .idle)
  | checked (envelope : EventEnvelope) (handlers : List η) (script : List BusCall)
      (call : BusCall) (traceId : UInt64) (within : ¬s.maxHops < call.hopCount)
      (before : s.dispatch = .handling envelope handlers script (.entered call traceId))
      (passed : after = .handling envelope handlers script (.checked call traceId))
  | allocated (envelope : EventEnvelope) (handlers : List η) (script : List BusCall)
      (call : BusCall) (traceId : UInt64) (made : EventEnvelope)
      (before : s.dispatch = .handling envelope handlers script (.checked call traceId))
      (holds : after = .handling envelope handlers script (.sending call made))

/-- The dispatch thread is in a call only while it handles an envelope. -/
theorem phaseOf_dispatcher {s : EventBus η} {phase : Phase} (inCall : s.phaseOf .dispatcher = phase)
    (busy : phase ≠ .idle) :
    ∃ envelope handlers script, s.dispatch = .handling envelope handlers script phase := by
  unfold phaseOf at inCall
  cases running : s.dispatch with
  | receiving =>
    simp only [running] at inCall
    exact absurd inCall.symm busy
  | leaving =>
    simp only [running] at inCall
    exact absurd inCall.symm busy
  | ended =>
    simp only [running] at inCall
    exact absurd inCall.symm busy
  | handling envelope handlers script phase' =>
    simp only [running] at inCall
    subst inCall
    exact ⟨envelope, handlers, script, rfl⟩

theorem setPhase_dispatcher {s : EventBus η} {envelope : EventEnvelope} {handlers : List η}
    {script : List BusCall} {before : Phase}
    (running : s.dispatch = .handling envelope handlers script before) (phase : Phase) :
    (s.setPhase .dispatcher phase).dispatch = .handling envelope handlers script phase := by
  simp only [setPhase, running]

theorem finishCall_dispatcher {s : EventBus η} {envelope : EventEnvelope} {handlers : List η}
    {script : List BusCall} {before : Phase}
    (running : s.dispatch = .handling envelope handlers script before) (call : BusCall)
    (result : Except EventBusError EventEnvelope) :
    (s.finishCall .dispatcher call result).dispatch = .handling envelope handlers script .idle := by
  unfold finishCall
  exact setPhase_dispatcher (by exact running) .idle

theorem check_dispatch (s : EventBus η) (caller : Caller) (label : Label η) :
    DispatchMoves s label (s.check caller).dispatch := by
  cases caller with
  | client thread =>
    refine .same ?_
    unfold check
    split
    · split_ifs <;> rfl
    · rfl
  | dispatcher =>
    unfold check
    split
    · rename_i call traceId phase
      obtain ⟨envelope, handlers, script, running⟩ := phaseOf_dispatcher phase nofun
      split_ifs with inactive beyond
      · exact .returned envelope handlers script _ running (finishCall_dispatcher running _ _)
      · exact .returned envelope handlers script _ running (finishCall_dispatcher running _ _)
      · exact .checked envelope handlers script call traceId beyond running
          (setPhase_dispatcher running _)
    · exact .same rfl

theorem allocate_dispatch (s : EventBus η) (caller : Caller) (now : Fin (2 ^ 128))
    (label : Label η) : DispatchMoves s label (s.allocate caller now).dispatch := by
  cases caller with
  | client thread =>
    refine .same ?_
    unfold allocate
    split
    · rfl
    · rfl
  | dispatcher =>
    unfold allocate
    split
    · rename_i call traceId phase
      obtain ⟨envelope, handlers, script, running⟩ := phaseOf_dispatcher phase nofun
      exact .allocated envelope handlers script call traceId _ running
        (setPhase_dispatcher (by exact running) _)
    · exact .same rfl

/-- A send moves the dispatch thread only where it is the caller. -/
theorem send_dispatch (s : EventBus η) (caller : Caller) (label : Label η) :
    DispatchMoves s label (s.send caller).dispatch := by
  cases caller with
  | client thread =>
    refine .same ?_
    unfold send
    split
    · split <;> rfl
    · rfl
  | dispatcher =>
    unfold send
    split
    · rename_i call made phase
      obtain ⟨envelope, handlers, script, running⟩ := phaseOf_dispatcher phase nofun
      split
      · exact .returned envelope handlers script _ running
          (finishCall_dispatcher (by exact running) _ _)
      · exact .same rfl
      · exact .returned envelope handlers script _ running (finishCall_dispatcher running _ _)
    · exact .same rfl

theorem receive_dispatch (s : EventBus η) (label : Label η) :
    DispatchMoves s label s.receive.dispatch := by
  unfold receive
  split
  · split
    · exact .same rfl
    · exact .outside (Or.inr (Or.inl rfl))
    · rename_i envelope channel received
      split_ifs with beyond
      · exact .same rfl
      · exact .opened envelope beyond rfl
  · exact .same rfl

theorem proceed_dispatch (s : EventBus η) (label : Label η) :
    DispatchMoves s label s.proceed.dispatch := by
  unfold proceed
  split
  · rename_i envelope handlers call script running
    cases call with
    | publish event source => exact .proceeded envelope handlers _ script _ running rfl
    | publishWithTrace event source traceId hopCount =>
      exact .proceeded envelope handlers _ script _ running rfl
    | continueTrace parent event source => exact .proceeded envelope handlers _ script _ running rfl
  · exact .same rfl

/-- Every step moves the dispatch thread in one of these ways. -/
theorem step_dispatch (s : EventBus η) (label : Label η) :
    DispatchMoves s label (s.step label).dispatch := by
  cases label with
  | subscribe event handler =>
    refine .same ?_
    simp only [step, subscribe]
    split_ifs <;> rfl
  | unsubscribe id =>
    refine .same ?_
    simp only [step, unsubscribe]
    split <;> rfl
  | call thread call =>
    refine .same ?_
    simp only [step]
    split_ifs
    · cases call <;> rfl
    · rfl
  | check caller => exact s.check_dispatch caller _
  | allocate caller now => exact s.allocate_dispatch caller now _
  | send caller => exact s.send_dispatch caller _
  | shutdown thread =>
    refine .same ?_
    simp only [step, shutdown]
    split
    · split_ifs <;> rfl
    · rfl
  | sendStop thread =>
    refine .same ?_
    simp only [step, sendStop]
    split
    · split <;> rfl
    · rfl
  | join thread =>
    refine .same ?_
    simp only [step, join]
    split <;> rfl
  | receive => exact s.receive_dispatch _
  | invoke script =>
    simp only [step, invoke]
    split
    · rename_i envelope handler handlers running
      exact .invoked envelope handler handlers script rfl running rfl
    · exact .same rfl
  | proceed => exact s.proceed_dispatch _
  | finishHandling =>
    simp only [step, finishHandling]
    split
    · exact .outside (Or.inl rfl)
    · exact .same rfl
  | dropReceiver =>
    simp only [step, dropReceiver]
    split
    · exact .outside (Or.inr (Or.inr rfl))
    · exact .same rfl

/-- A call that returns during a step is the one its thread was in. -/
inductive Returns (s : EventBus η) (after : List Outcome) : Prop where
  | none (unchanged : after = s.outcomes)
  | one (caller : Caller) (call : BusCall) (result : Except EventBusError EventEnvelope)
      (inCall : (∃ traceId, s.phaseOf caller = .entered call traceId) ∨
        ∃ envelope, s.phaseOf caller = .sending call envelope)
      (appended : after = s.outcomes ++ [⟨s.causeOf caller, call, result⟩])

theorem check_returns (s : EventBus η) (caller : Caller) : Returns s (s.check caller).outcomes := by
  unfold check
  split
  · rename_i call traceId phase
    split_ifs
    · exact .one caller call _ (Or.inl ⟨traceId, phase⟩) (finishCall_outcomes _ _ _ _)
    · exact .one caller call _ (Or.inl ⟨traceId, phase⟩) (finishCall_outcomes _ _ _ _)
    · exact .none (setPhase_outcomes _ _ _)
  · exact .none rfl

theorem send_returns (s : EventBus η) (caller : Caller) : Returns s (s.send caller).outcomes := by
  unfold send
  split
  · rename_i call envelope phase
    split
    · exact .one caller call _ (Or.inr ⟨envelope, phase⟩) (finishCall_outcomes _ _ _ _)
    · exact .none rfl
    · exact .one caller call _ (Or.inr ⟨envelope, phase⟩) (finishCall_outcomes _ _ _ _)
  · exact .none rfl

theorem enter_outcomes (s : EventBus η) (caller : Caller) (call : BusCall) :
    (s.enter caller call).outcomes = s.outcomes := by
  cases call <;> exact setPhase_outcomes _ _ _

/-- A step appends at most one outcome, that of the caller it moves. -/
theorem step_returns (s : EventBus η) (label : Label η) : Returns s (s.step label).outcomes := by
  cases label with
  | subscribe event handler =>
    refine .none ?_
    simp only [step, subscribe]
    split_ifs <;> rfl
  | unsubscribe id =>
    refine .none ?_
    simp only [step, unsubscribe]
    split <;> rfl
  | call thread call =>
    refine .none ?_
    simp only [step]
    split_ifs
    · exact s.enter_outcomes _ call
    · rfl
  | check caller => exact s.check_returns caller
  | allocate caller now =>
    refine .none ?_
    simp only [step, allocate]
    split
    · exact setPhase_outcomes _ _ _
    · rfl
  | send caller => exact s.send_returns caller
  | shutdown thread =>
    refine .none ?_
    simp only [step, shutdown]
    split
    · split_ifs <;> rfl
    · rfl
  | sendStop thread =>
    refine .none ?_
    simp only [step, sendStop]
    split
    · split <;> rfl
    · rfl
  | join thread =>
    refine .none ?_
    simp only [step, join]
    split <;> rfl
  | receive =>
    refine .none ?_
    simp only [step, receive]
    split
    · split
      · rfl
      · rfl
      · split_ifs <;> rfl
    · rfl
  | invoke script =>
    refine .none ?_
    simp only [step, invoke]
    split <;> rfl
  | proceed =>
    refine .none ?_
    simp only [step, proceed]
    split
    · exact enter_outcomes _ _ _
    · rfl
  | finishHandling =>
    refine .none ?_
    simp only [step, finishHandling]
    split <;> rfl
  | dropReceiver =>
    refine .none ?_
    simp only [step, dropReceiver]
    split <;> rfl

/-! ## The hop limit -/

/-- Everything that passed the check of `publish_with_trace` is within the hop limit. -/
structure WithinLimit (s : EventBus η) : Prop where
  phases : ∀ caller, (s.phaseOf caller).Within s.maxHops
  queued : ∀ e ∈ envelopesOf s.channel.items, e.hopCount ≤ s.maxHops
  outcomes : ∀ o ∈ s.outcomes, ∀ e, o.result = .ok e →
    e.hopCount = o.call.hopCount ∧ e.hopCount ≤ s.maxHops

theorem withinLimit_new (queueCapacity : Nat) (maxHops : Fin 256) (traceCapacity : Nat) :
    WithinLimit (new queueCapacity maxHops traceCapacity : EventBus η) where
  phases caller := by cases caller <;> trivial
  queued e member := by cases member
  outcomes o member := by cases member

/-- A phase within the limit may be set. -/
theorem WithinLimit.setPhase {s : EventBus η} (inv : WithinLimit s) (caller : Caller)
    {phase : Phase} (within : phase.Within s.maxHops) : WithinLimit (s.setPhase caller phase) where
  phases other := by
    rw [setPhase_maxHops]
    rcases s.phaseOf_setPhase_cases caller phase other with set | kept
    · rw [set]
      exact within
    · rw [kept]
      exact inv.phases other
  queued := by
    simp only [setPhase_channel, setPhase_maxHops]
    exact inv.queued
  outcomes := by
    simp only [setPhase_outcomes, setPhase_maxHops]
    exact inv.outcomes

theorem WithinLimit.finishCall {s : EventBus η} (inv : WithinLimit s) (caller : Caller)
    (call : BusCall) {result : Except EventBusError EventEnvelope}
    (within : ∀ e, result = .ok e → e.hopCount = call.hopCount ∧ e.hopCount ≤ s.maxHops) :
    WithinLimit (s.finishCall caller call result) := by
  unfold EventBus.finishCall
  apply WithinLimit.setPhase
  · refine ⟨inv.phases, inv.queued, ?_⟩
    intro o member e sent
    rcases List.mem_append.mp member with earlier | here
    · exact inv.outcomes o earlier e sent
    · rw [List.mem_singleton] at here
      subst here
      exact within e sent
  · trivial

theorem WithinLimit.enter {s : EventBus η} (inv : WithinLimit s) (caller : Caller)
    (call : BusCall) : WithinLimit (s.enter caller call) := by
  cases call with
  | publish event source =>
    apply WithinLimit.setPhase
    · exact ⟨inv.phases, inv.queued, inv.outcomes⟩
    · trivial
  | publishWithTrace event source traceId hopCount => exact inv.setPhase caller trivial
  | continueTrace parent event source => exact inv.setPhase caller trivial

theorem WithinLimit.check {s : EventBus η} (inv : WithinLimit s) (caller : Caller) :
    WithinLimit (s.check caller) := by
  unfold EventBus.check
  split
  · split_ifs with inactive beyond
    · exact inv.finishCall caller _ nofun
    · exact inv.finishCall caller _ nofun
    · apply inv.setPhase
      exact Fin.not_lt.mp beyond
  · exact inv

theorem WithinLimit.allocate {s : EventBus η} (inv : WithinLimit s) (caller : Caller)
    (now : Fin (2 ^ 128)) : WithinLimit (s.allocate caller now) := by
  unfold EventBus.allocate
  split
  · rename_i call traceId phase
    have within := inv.phases caller
    rw [phase] at within
    apply WithinLimit.setPhase
    · exact ⟨inv.phases, inv.queued, inv.outcomes⟩
    · exact ⟨rfl, within⟩
  · exact inv

/-- A send keeps the hop limit: only a checked call has an envelope to send. -/
theorem WithinLimit.send {s : EventBus η} (inv : WithinLimit s) (caller : Caller) :
    WithinLimit (s.send caller) := by
  unfold EventBus.send
  split
  · rename_i call envelope phase
    have within := inv.phases caller
    rw [phase] at within
    split
    · rename_i channel sent
      obtain ⟨-, room, rfl⟩ := Channel.trySend_accepted sent
      apply WithinLimit.finishCall
      · refine ⟨inv.phases, ?_, inv.outcomes⟩
        intro e member
        simp only [Channel.push_items, envelopesOf_append, List.mem_append] at member
        rcases member with earlier | here
        · exact inv.queued e earlier
        · simp only [envelopesOf_publish, envelopesOf_nil, List.mem_singleton] at here
          subst here
          exact within.2
      · intro e same
        cases same
        exact within
    · exact inv
    · exact inv.finishCall caller call (by simp)
  · exact inv

theorem WithinLimit.sendStop {s : EventBus η} (inv : WithinLimit s) (thread : Nat) :
    WithinLimit (s.sendStop thread) := by
  unfold EventBus.sendStop
  split
  · split
    · rename_i channel sent
      obtain ⟨-, room, rfl⟩ := Channel.trySend_accepted sent
      apply WithinLimit.setPhase
      · refine ⟨inv.phases, ?_, inv.outcomes⟩
        intro e member
        simp only [Channel.push_items, envelopesOf_append, envelopesOf_stop, envelopesOf_nil,
          List.append_nil] at member
        exact inv.queued e member
      · trivial
    · exact inv
    · exact inv.setPhase _ trivial
  · exact inv

/-- A receive keeps the hop limit. -/
theorem WithinLimit.receive {s : EventBus η} (inv : WithinLimit s) : WithinLimit s.receive := by
  unfold EventBus.receive
  split
  · split
    · exact inv
    · rename_i channel received
      obtain ⟨items, rfl⟩ := Channel.receive_some received
      refine ⟨?_, ?_, inv.outcomes⟩
      · intro caller
        cases caller with
        | client thread => exact inv.phases (.client thread)
        | dispatcher => trivial
      · intro e member
        apply inv.queued
        rw [items]
        exact member
    · rename_i envelope channel received
      obtain ⟨items, rfl⟩ := Channel.receive_some received
      have remaining : ∀ e ∈ envelopesOf s.channel.items.tail, e.hopCount ≤ s.maxHops := by
        intro e member
        apply inv.queued
        rw [items]
        exact List.mem_cons_of_mem envelope member
      split_ifs
      · exact ⟨inv.phases, remaining, inv.outcomes⟩
      · refine ⟨?_, remaining, inv.outcomes⟩
        intro caller
        cases caller with
        | client thread => exact inv.phases (.client thread)
        | dispatcher => trivial
  · exact inv

theorem WithinLimit.dropReceiver {s : EventBus η} (inv : WithinLimit s) :
    WithinLimit s.dropReceiver := by
  unfold EventBus.dropReceiver
  split
  · refine ⟨?_, ?_, inv.outcomes⟩
    · intro caller
      cases caller with
      | client thread => exact inv.phases (.client thread)
      | dispatcher => trivial
    · intro e member
      cases member
  · exact inv

/-- A change of the dispatch thread that leaves it outside any call. -/
theorem WithinLimit.redispatch {s : EventBus η} (inv : WithinLimit s) {dispatch : Dispatch η}
    (outside : { s with dispatch }.phaseOf .dispatcher = .idle) :
    WithinLimit { s with dispatch } where
  phases caller := by
    cases caller with
    | client thread => exact inv.phases (.client thread)
    | dispatcher =>
      rw [outside]
      trivial
  queued := inv.queued
  outcomes := inv.outcomes

/-- Every step keeps the hop limit. -/
theorem WithinLimit.step {s : EventBus η} (inv : WithinLimit s) (label : Label η) :
    WithinLimit (s.step label) := by
  cases label with
  | subscribe event handler =>
    simp only [EventBus.step, subscribe]
    split_ifs
    · exact inv
    · exact ⟨inv.phases, inv.queued, inv.outcomes⟩
  | unsubscribe id =>
    simp only [EventBus.step, unsubscribe]
    split
    · exact inv
    · exact ⟨inv.phases, inv.queued, inv.outcomes⟩
  | call thread call =>
    simp only [EventBus.step]
    split_ifs
    · exact inv.enter _ call
    · exact inv
  | check caller => exact inv.check caller
  | allocate caller now => exact inv.allocate caller now
  | send caller => exact inv.send caller
  | shutdown thread =>
    simp only [EventBus.step, shutdown]
    split
    · split_ifs
      · apply WithinLimit.setPhase
        · exact ⟨inv.phases, inv.queued, inv.outcomes⟩
        · trivial
      · exact inv
    · exact inv
  | sendStop thread => exact inv.sendStop thread
  | join thread =>
    simp only [EventBus.step, join]
    split
    · exact inv.setPhase _ trivial
    · exact inv
  | receive => exact inv.receive
  | invoke script =>
    simp only [EventBus.step, invoke]
    split
    · exact inv.redispatch rfl
    · exact inv
  | proceed =>
    simp only [EventBus.step, proceed]
    split
    · apply WithinLimit.enter
      exact inv.redispatch rfl
    · exact inv
  | finishHandling =>
    simp only [EventBus.step, finishHandling]
    split
    · exact inv.redispatch rfl
    · exact inv
  | dropReceiver => exact inv.dropReceiver

end EventBus

end Apcos.Source.Supervisor
