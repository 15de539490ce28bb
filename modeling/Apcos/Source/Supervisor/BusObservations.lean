import Apcos.Source.Supervisor.BusEffects

/-!
# What is seen of the event bus

The steps that concern subscriptions, dispatches and handlers, as a reader of the calls and
of the dispatch thread sees them. Every other step leaves the subscribers, the traces and
the handlers still to be entered as they are; it may take an id.
-/
namespace Apcos.Source.Supervisor

inductive Observation (η : Type) where
  | nothing
  | subscribed (id : UInt64) (event : Event) (handler : η)
  | unsubscribed (id : UInt64)
  | dispatched (envelope : EventEnvelope)
  | called (envelope : EventEnvelope) (handler : η)

namespace EventBus

variable {η : Type}

/-- A dispatch begins when the thread takes an envelope within the hop limit; a handler is
called when the thread enters it. -/
def observe (s : EventBus η) : Label η → Observation η
  | .subscribe event handler =>
    match (s.subscribe event handler).1 with
    | .ok id => .subscribed id event handler
    | .error _ => .nothing
  | .unsubscribe id => .unsubscribed id
  | .receive =>
    match s.dispatch, s.channel.receive with
    | .receiving, some (.publish envelope, _) =>
      if s.maxHops < envelope.hopCount then .nothing else .dispatched envelope
    | _, _ => .nothing
  | .invoke _ =>
    match s.dispatch with
    | .handling envelope (handler :: _) [] .idle => .called envelope handler
    | _ => .nothing
  | _ => .nothing

/-- The handlers of the envelope at hand that were not entered yet. -/
def remaining (s : EventBus η) : List (EventEnvelope × η) :=
  match s.dispatch with
  | .handling envelope handlers _ _ => handlers.map (envelope, ·)
  | .receiving | .leaving | .ended => []

/-- Subscribers, traces and remaining handlers are as before. -/
structure SameBooks (s s' : EventBus η) : Prop where
  subscribers : s'.subscribers = s.subscribers
  traces : s'.traces = s.traces
  traceCapacity : s'.traceCapacity = s.traceCapacity
  remaining : s'.remaining = s.remaining

/-- What a step does to the books, by what is seen of it. -/
inductive Observes (s s' : EventBus η) : Observation η → Prop where
  | nothing (same : SameBooks s s') : Observes s s' .nothing
  | subscribed (event : Event) (handler : η)
      (result : s' = { s with
        nextId := s.nextId + 1
        subscribers := Function.update s.subscribers event
          (s.subscribers event ++ [Subscriber.mk s.nextId handler]) }) :
      Observes s s' (.subscribed s.nextId event handler)
  | unsubscribed (id : UInt64) (result : s' = (s.unsubscribe id).2) :
      Observes s s' (.unsubscribed id)
  | dispatched (envelope : EventEnvelope) (subscribers : s'.subscribers = s.subscribers)
      (traceCapacity : s'.traceCapacity = s.traceCapacity)
      (traces : s'.traces = (s.recordTrace envelope).traces) (idle : s.remaining = [])
      (remaining : s'.remaining = (s.matchingHandlers envelope.event).map (envelope, ·)) :
      Observes s s' (.dispatched envelope)
  | called (envelope : EventEnvelope) (handler : η) (subscribers : s'.subscribers = s.subscribers)
      (traces : s'.traces = s.traces) (traceCapacity : s'.traceCapacity = s.traceCapacity)
      (remaining : s.remaining = (envelope, handler) :: s'.remaining) :
      Observes s s' (.called envelope handler)

/-! ## Steps that leave the books as they are -/

theorem SameBooks.refl (s : EventBus η) : SameBooks s s := ⟨rfl, rfl, rfl, rfl⟩

theorem SameBooks.setPhase {s s' : EventBus η} (same : SameBooks s s') (caller : Caller)
    (phase : Phase) : SameBooks s (s'.setPhase caller phase) := by
  cases caller with
  | client thread => exact ⟨same.subscribers, same.traces, same.traceCapacity, same.remaining⟩
  | dispatcher =>
    unfold EventBus.setPhase
    cases running : s'.dispatch with
    | receiving => exact same
    | leaving => exact same
    | ended => exact same
    | handling envelope handlers script before =>
      refine ⟨same.subscribers, same.traces, same.traceCapacity, ?_⟩
      rw [← same.remaining]
      simp only [EventBus.remaining, running]

theorem SameBooks.finishCall {s s' : EventBus η} (same : SameBooks s s') (caller : Caller)
    (call : BusCall) (result : Except EventBusError EventEnvelope) :
    SameBooks s (s'.finishCall caller call result) := by
  apply SameBooks.setPhase
  exact ⟨same.subscribers, same.traces, same.traceCapacity, same.remaining⟩

theorem SameBooks.enter {s s' : EventBus η} (same : SameBooks s s') (caller : Caller)
    (call : BusCall) : SameBooks s (s'.enter caller call) := by
  cases call with
  | publish event source =>
    apply SameBooks.setPhase
    exact ⟨same.subscribers, same.traces, same.traceCapacity, same.remaining⟩
  | publishWithTrace event source traceId hopCount => exact same.setPhase caller _
  | continueTrace parent event source => exact same.setPhase caller _

theorem sameBooks_check (s : EventBus η) (caller : Caller) : SameBooks s (s.check caller) := by
  unfold check
  split
  · split_ifs
    · exact (SameBooks.refl s).finishCall caller _ _
    · exact (SameBooks.refl s).finishCall caller _ _
    · exact (SameBooks.refl s).setPhase caller _
  · exact .refl s

theorem sameBooks_allocate (s : EventBus η) (caller : Caller) (now : Fin (2 ^ 128)) :
    SameBooks s (s.allocate caller now) := by
  unfold allocate
  split
  · apply SameBooks.setPhase
    exact ⟨rfl, rfl, rfl, rfl⟩
  · exact .refl s

theorem sameBooks_send (s : EventBus η) (caller : Caller) : SameBooks s (s.send caller) := by
  unfold send
  split
  · split
    · apply SameBooks.finishCall
      exact ⟨rfl, rfl, rfl, rfl⟩
    · exact .refl s
    · exact (SameBooks.refl s).finishCall caller _ _
  · exact .refl s

theorem sameBooks_shutdown (s : EventBus η) (thread : Nat) : SameBooks s (s.shutdown thread) := by
  unfold shutdown
  split
  · split_ifs
    · exact ⟨rfl, rfl, rfl, rfl⟩
    · exact .refl s
  · exact .refl s

theorem sameBooks_sendStop (s : EventBus η) (thread : Nat) : SameBooks s (s.sendStop thread) := by
  unfold sendStop
  split
  · split
    · exact ⟨rfl, rfl, rfl, rfl⟩
    · exact .refl s
    · exact ⟨rfl, rfl, rfl, rfl⟩
  · exact .refl s

theorem sameBooks_join (s : EventBus η) (thread : Nat) : SameBooks s (s.join thread) := by
  unfold join
  split
  · exact ⟨rfl, rfl, rfl, rfl⟩
  · exact .refl s

theorem sameBooks_proceed (s : EventBus η) : SameBooks s s.proceed := by
  unfold proceed
  split
  · rename_i envelope handlers call script running
    apply SameBooks.enter
    refine ⟨rfl, rfl, rfl, ?_⟩
    simp only [remaining, running]
  · exact .refl s

theorem sameBooks_finishHandling (s : EventBus η) : SameBooks s s.finishHandling := by
  unfold finishHandling
  split
  · rename_i envelope running
    refine ⟨rfl, rfl, rfl, ?_⟩
    simp only [remaining, running, List.map_nil]
  · exact .refl s

theorem sameBooks_dropReceiver (s : EventBus η) : SameBooks s s.dropReceiver := by
  unfold dropReceiver
  split
  · rename_i running
    refine ⟨rfl, rfl, rfl, ?_⟩
    simp only [remaining, running]
  · exact .refl s

/-! ## Every step -/

/-- A receive shows the delivery it begins. -/
theorem receive_observes (s : EventBus η) : Observes s s.receive (s.observe .receive) := by
  cases running : s.dispatch with
  | handling envelope handlers script phase =>
    simp only [receive, observe, running]
    exact .nothing (.refl s)
  | leaving =>
    simp only [receive, observe, running]
    exact .nothing (.refl s)
  | ended =>
    simp only [receive, observe, running]
    exact .nothing (.refl s)
  | receiving =>
    have idle : s.remaining = [] := by simp only [remaining, running]
    cases received : s.channel.receive with
    | none =>
      simp only [receive, observe, running, received]
      exact .nothing (.refl s)
    | some taken =>
      obtain ⟨command, channel⟩ := taken
      cases command with
      | stop =>
        simp only [receive, observe, running, received]
        exact .nothing ⟨rfl, rfl, rfl, by rw [idle]; rfl⟩
      | publish envelope =>
        simp only [receive, observe, running, received]
        split_ifs with beyond
        · exact .nothing ⟨rfl, rfl, rfl, by simp only [remaining, running]⟩
        · exact .dispatched envelope rfl rfl rfl idle rfl

theorem invoke_observes (s : EventBus η) (script : List BusCall) :
    Observes s (s.invoke script) (s.observe (.invoke script)) := by
  unfold invoke
  split
  · rename_i envelope handler handlers running
    simp only [observe, running]
    refine .called envelope handler rfl rfl rfl ?_
    simp only [remaining, running, List.map_cons]
  · rename_i other
    simp only [observe]
    exact .nothing (.refl s)

/-- Each step shows what it adds to the books, and nothing else. -/
theorem step_observes (s : EventBus η) (label : Label η) :
    Observes s (s.step label) (s.observe label) := by
  cases label with
  | subscribe event handler =>
    simp only [step, observe, subscribe]
    cases active : s.active with
    | true => exact .subscribed event handler (by rw [active]; rfl)
    | false => exact .nothing (.refl s)
  | unsubscribe id => exact .unsubscribed id rfl
  | call thread call =>
    refine .nothing ?_
    simp only [step]
    split_ifs
    · exact (SameBooks.refl s).enter _ call
    · exact .refl s
  | check caller => exact .nothing (sameBooks_check s caller)
  | allocate caller now => exact .nothing (sameBooks_allocate s caller now)
  | send caller => exact .nothing (sameBooks_send s caller)
  | shutdown thread => exact .nothing (sameBooks_shutdown s thread)
  | sendStop thread => exact .nothing (sameBooks_sendStop s thread)
  | join thread => exact .nothing (sameBooks_join s thread)
  | receive => exact receive_observes s
  | invoke script => exact invoke_observes s script
  | proceed => exact .nothing (sameBooks_proceed s)
  | finishHandling => exact .nothing (sameBooks_finishHandling s)
  | dropReceiver => exact .nothing (sameBooks_dropReceiver s)

/-! ## Ids -/

theorem setPhase_nextId (s : EventBus η) (caller : Caller) (phase : Phase) :
    (s.setPhase caller phase).nextId = s.nextId := by
  cases caller with
  | client thread => rfl
  | dispatcher => unfold setPhase; cases s.dispatch <;> rfl

theorem finishCall_nextId (s : EventBus η) (caller : Caller) (call : BusCall)
    (result : Except EventBusError EventEnvelope) :
    (s.finishCall caller call result).nextId = s.nextId :=
  setPhase_nextId _ caller .idle

theorem enter_nextId (s : EventBus η) (caller : Caller) (call : BusCall) :
    (s.enter caller call).nextId = s.nextId ∨ (s.enter caller call).nextId = s.nextId + 1 := by
  cases call with
  | publish event source => exact Or.inr (setPhase_nextId _ caller _)
  | publishWithTrace event source traceId hopCount => exact Or.inl (setPhase_nextId s caller _)
  | continueTrace parent event source => exact Or.inl (setPhase_nextId s caller _)

/-- A step takes at most one id. -/
theorem step_nextId (s : EventBus η) (label : Label η) :
    (s.step label).nextId = s.nextId ∨ (s.step label).nextId = s.nextId + 1 := by
  cases label with
  | subscribe event handler =>
    simp only [step, subscribe]
    split
    · exact Or.inl rfl
    · exact Or.inr rfl
  | unsubscribe id =>
    simp only [step, unsubscribe]
    split <;> exact Or.inl rfl
  | call thread call =>
    simp only [step]
    split_ifs
    · exact enter_nextId s _ call
    · exact Or.inl rfl
  | check caller =>
    simp only [step, check]
    split
    · split_ifs
      · exact Or.inl (finishCall_nextId s caller _ _)
      · exact Or.inl (finishCall_nextId s caller _ _)
      · exact Or.inl (setPhase_nextId s caller _)
    · exact Or.inl rfl
  | allocate caller now =>
    simp only [step, allocate]
    split
    · exact Or.inr (setPhase_nextId _ caller _)
    · exact Or.inl rfl
  | send caller =>
    simp only [step, send]
    split
    · split
      · exact Or.inl (finishCall_nextId _ caller _ _)
      · exact Or.inl rfl
      · exact Or.inl (finishCall_nextId s caller _ _)
    · exact Or.inl rfl
  | shutdown thread =>
    simp only [step, shutdown]
    split
    · split_ifs <;> exact Or.inl rfl
    · exact Or.inl rfl
  | sendStop thread =>
    simp only [step, sendStop]
    split
    · split <;> exact Or.inl rfl
    · exact Or.inl rfl
  | join thread =>
    simp only [step, join]
    split <;> exact Or.inl rfl
  | receive =>
    simp only [step, receive]
    split
    · split
      · exact Or.inl rfl
      · exact Or.inl rfl
      · split_ifs <;> exact Or.inl rfl
    · exact Or.inl rfl
  | invoke script =>
    simp only [step, invoke]
    split <;> exact Or.inl rfl
  | proceed =>
    simp only [step, proceed]
    split
    · exact enter_nextId _ .dispatcher _
    · exact Or.inl rfl
  | finishHandling =>
    simp only [step, finishHandling]
    split <;> exact Or.inl rfl
  | dropReceiver =>
    simp only [step, dropReceiver]
    split <;> exact Or.inl rfl

end EventBus

end Apcos.Source.Supervisor
