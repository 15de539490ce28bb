import Apcos.Source.Supervisor.BridgeProcess
import Apcos.Source.Supervisor.BusEffects

/-!
# Events reported as forwarded

os/src/ipc.rs:330-349 and os/src/event_bus.rs:151-186. The dispatcher publishes an event while
other threads use the bus, drops what the publish returns and reports the event as forwarded.
The report is true when the bus is active at the check and its channel connected at the send.
-/
namespace Apcos.Guarantees.ForwardedEvents

open Apcos.Lib
open Apcos.Source
open Apcos.Source.Python (Value)
open Apcos.Source.Supervisor

variable {η : Type}

/-- The thread that moves, if it is one of the clients. -/
def clientOf : EventBus.Label η → Option Nat
  | .call thread _ | .shutdown thread | .sendStop thread | .join thread => some thread
  | .check (.client thread) | .allocate (.client thread) _ | .send (.client thread) => some thread
  | _ => none

/-- Inside a call its thread makes the steps of the call only. -/
def WithinCall (thread : Nat) : EventBus.Label η → Prop
  | .call other _ | .shutdown other | .sendStop other | .join other => other ≠ thread
  | _ => True

/-- What the call of the thread returns, once it is over. -/
def callResult (thread : Nat) :
    EventBus η → List (EventBus.Label η) → Option (Except EventBusError EventEnvelope)
  | _, [] => none
  | s, label :: rest =>
    if (s.step label).clients thread = .idle then
      (s.step label).outcomes.getLast?.map Outcome.result
    else callResult thread (s.step label) rest

/-- The publish of the dispatcher. -/
def forwarding (event : Event) : BusCall := .publish event "ipc-bridge"

/-- An event that the dispatch reports as forwarded is accepted by the bus: the publish that the
thread makes meanwhile returns `Ok`. -/
def ForwardedAccepted (now : Fin (2 ^ 128)) (envelope : IpcEnvelope) (tracker : CorrelationTracker)
    (s : EventBus η) (thread : Nat) (labels : List (EventBus.Label η)) : Prop :=
  ∀ event result, (dispatchIncoming now envelope tracker).result = .eventForwarded event →
    callResult thread (s.step (.call thread (forwarding event))) labels = some result →
    ∃ accepted, result = .ok accepted

/-- The thread finds the bus active when it checks and the channel connected when it sends. -/
def Open (thread : Nat) (s : EventBus η) : EventBus.Label η → Prop
  | .check (.client other) => other = thread →
      ∀ call traceId, s.clients thread = .entered call traceId → s.active = true
  | .send (.client other) => other = thread →
      ∀ call envelope, s.clients thread = .sending call envelope → s.channel.connected = true
  | _ => True

/-! ## Steps of other threads -/

theorem setPhase_clients (s : EventBus η) {caller : Caller} {thread : Nat} (phase : Phase)
    (other : caller ≠ .client thread) :
    (s.setPhase caller phase).clients thread = s.clients thread := by
  cases caller with
  | client mover =>
    have different : thread ≠ mover := by
      rintro rfl
      exact other rfl
    exact Function.update_of_ne different _ _
  | dispatcher =>
    unfold EventBus.setPhase
    cases s.dispatch <;> rfl

theorem finishCall_clients (s : EventBus η) {caller : Caller} {thread : Nat} (call : BusCall)
    (result : Except EventBusError EventEnvelope) (other : caller ≠ .client thread) :
    (s.finishCall caller call result).clients thread = s.clients thread :=
  setPhase_clients _ _ other

theorem enter_clients (s : EventBus η) {caller : Caller} {thread : Nat} (call : BusCall)
    (other : caller ≠ .client thread) : (s.enter caller call).clients thread = s.clients thread := by
  cases call <;> exact setPhase_clients _ _ other

theorem check_clients (s : EventBus η) {caller : Caller} {thread : Nat}
    (other : caller ≠ .client thread) : (s.check caller).clients thread = s.clients thread := by
  unfold EventBus.check
  split
  · split
    · exact finishCall_clients s _ _ other
    · split
      · exact finishCall_clients s _ _ other
      · exact setPhase_clients s _ other
  · rfl

theorem allocate_clients (s : EventBus η) {caller : Caller} {thread : Nat} (now : Fin (2 ^ 128))
    (other : caller ≠ .client thread) :
    (s.allocate caller now).clients thread = s.clients thread := by
  unfold EventBus.allocate
  split
  · exact setPhase_clients _ _ other
  · rfl

theorem send_clients (s : EventBus η) {caller : Caller} {thread : Nat}
    (other : caller ≠ .client thread) : (s.send caller).clients thread = s.clients thread := by
  unfold EventBus.send
  split
  · split
    · exact finishCall_clients _ _ _ other
    · rfl
    · exact finishCall_clients s _ _ other
  · rfl

theorem client_ne {mover thread : Nat} (other : some mover ≠ some thread) :
    Caller.client mover ≠ .client thread := by
  rintro ⟨⟩
  exact other rfl

/-- A step of another thread leaves this one where it is. -/
theorem step_clients (s : EventBus η) {label : EventBus.Label η} {thread : Nat}
    (other : clientOf label ≠ some thread) : (s.step label).clients thread = s.clients thread := by
  cases label with
  | subscribe event handler =>
    simp only [EventBus.step, EventBus.subscribe]
    split <;> rfl
  | unsubscribe id =>
    simp only [EventBus.step, EventBus.unsubscribe]
    split <;> rfl
  | call mover call =>
    have elsewhere := client_ne other
    simp only [EventBus.step]
    split
    · exact enter_clients s call elsewhere
    · rfl
  | check caller =>
    apply check_clients
    rintro rfl
    exact other rfl
  | allocate caller now =>
    apply allocate_clients
    rintro rfl
    exact other rfl
  | send caller =>
    apply send_clients
    rintro rfl
    exact other rfl
  | shutdown mover =>
    have elsewhere := client_ne other
    simp only [EventBus.step, EventBus.shutdown]
    split
    · split
      · exact setPhase_clients _ _ elsewhere
      · rfl
    · rfl
  | sendStop mover =>
    have elsewhere := client_ne other
    simp only [EventBus.step, EventBus.sendStop]
    split
    · split
      · exact setPhase_clients _ _ elsewhere
      · rfl
      · exact setPhase_clients s _ elsewhere
    · rfl
  | join mover =>
    have elsewhere := client_ne other
    simp only [EventBus.step, EventBus.join]
    split
    · exact setPhase_clients s _ elsewhere
    · rfl
  | receive =>
    simp only [EventBus.step, EventBus.receive]
    split
    · split
      · rfl
      · rfl
      · split <;> rfl
    · rfl
  | invoke script =>
    simp only [EventBus.step, EventBus.invoke]
    split <;> rfl
  | proceed =>
    simp only [EventBus.step, EventBus.proceed]
    split
    · exact enter_clients _ _ (by simp)
    · rfl
  | finishHandling =>
    simp only [EventBus.step, EventBus.finishHandling]
    split <;> rfl
  | dropReceiver =>
    simp only [EventBus.step, EventBus.dropReceiver]
    split <;> rfl

/-! ## Steps of the call -/

/-- Between entry and return of the call. -/
inductive InCall (call : BusCall) : Phase → Prop
  | entered (traceId : UInt64) : InCall call (.entered call traceId)
  | checked (traceId : UInt64) : InCall call (.checked call traceId)
  | sending (envelope : EventEnvelope) : InCall call (.sending call envelope)

theorem InCall.not_idle {call : BusCall} {phase : Phase} (inCall : InCall call phase) :
    phase ≠ .idle := by
  cases inCall <;> nofun

/-- A step leaves the call under way, or ends it with what it meets. -/
inductive CallMoves (thread : Nat) (call : BusCall) (s : EventBus η) (label : EventBus.Label η) :
    Prop
  | onward (still : InCall call ((s.step label).clients thread)) (passes : Open thread s label)
  | accepted (idle : (s.step label).clients thread = .idle) (envelope : EventEnvelope)
      (logged : (s.step label).outcomes.getLast?.map Outcome.result = some (.ok envelope))
      (passes : Open thread s label)
  | refused (idle : (s.step label).clients thread = .idle) (error : EventBusError)
      (logged : (s.step label).outcomes.getLast?.map Outcome.result = some (.error error))
      (blocked : ¬Open thread s label)

theorem open_of_other {s : EventBus η} {label : EventBus.Label η} {thread : Nat}
    (other : clientOf label ≠ some thread) : Open thread s label := by
  cases label with
  | check caller =>
    cases caller with
    | client mover => exact fun same => absurd (congrArg some same) other
    | dispatcher => trivial
  | send caller =>
    cases caller with
    | client mover => exact fun same => absurd (congrArg some same) other
    | dispatcher => trivial
  | _ => trivial

theorem finishCall_own (s : EventBus η) (thread : Nat) (call : BusCall)
    (result : Except EventBusError EventEnvelope) :
    (s.finishCall (.client thread) call result).clients thread = .idle ∧
      (s.finishCall (.client thread) call result).outcomes.getLast?.map Outcome.result =
        some result :=
  ⟨Function.update_self .., by simp⟩

theorem setPhase_own (s : EventBus η) (thread : Nat) (phase : Phase) :
    (s.setPhase (.client thread) phase).clients thread = phase := Function.update_self ..

/-- A check of a call within the hop limit goes on, or is refused at an inactive bus. -/
theorem check_moves {s : EventBus η} {thread : Nat} {call : BusCall}
    (low : call.hopCount ≤ s.maxHops) (inCall : InCall call (s.clients thread)) :
    CallMoves thread call s (.check (.client thread)) := by
  generalize phase : s.clients thread = current at inCall
  have here : s.phaseOf (.client thread) = current := phase
  cases inCall with
  | entered traceId =>
    by_cases active : s.active = true
    · refine .onward ?_ fun _ _ _ _ => active
      have moved : s.check (.client thread) =
          s.setPhase (.client thread) (.checked call traceId) := by
        simp [EventBus.check, here, active, Fin.not_lt.mpr low]
      rw [EventBus.step, moved, setPhase_own]
      exact .checked traceId
    · have moved : s.check (.client thread) =
          s.finishCall (.client thread) call (.error .alreadyShutdown) := by
        simp [EventBus.check, here, active]
      obtain ⟨idle, logged⟩ := finishCall_own s thread call (.error .alreadyShutdown)
      rw [← moved] at idle logged
      exact .refused idle _ logged fun passes => active (passes rfl call traceId phase)
  | checked traceId =>
    have moved : s.check (.client thread) = s := by simp [EventBus.check, here]
    refine .onward ?_ fun _ _ _ entered => ?_
    · rw [EventBus.step, moved, phase]
      exact .checked traceId
    · rw [phase] at entered
      cases entered
  | sending envelope =>
    have moved : s.check (.client thread) = s := by simp [EventBus.check, here]
    refine .onward ?_ fun _ _ _ entered => ?_
    · rw [EventBus.step, moved, phase]
      exact .sending envelope
    · rw [phase] at entered
      cases entered

theorem allocate_moves {s : EventBus η} {thread : Nat} {call : BusCall} (now : Fin (2 ^ 128))
    (inCall : InCall call (s.clients thread)) :
    CallMoves thread call s (.allocate (.client thread) now) := by
  refine .onward ?_ trivial
  generalize phase : s.clients thread = current at inCall
  have here : s.phaseOf (.client thread) = current := phase
  cases inCall with
  | entered traceId =>
    have moved : s.allocate (.client thread) now = s := by simp [EventBus.allocate, here]
    rw [EventBus.step, moved, phase]
    exact .entered traceId
  | checked traceId =>
    simp only [EventBus.step, EventBus.allocate, here, setPhase_own]
    exact .sending _
  | sending envelope =>
    have moved : s.allocate (.client thread) now = s := by simp [EventBus.allocate, here]
    rw [EventBus.step, moved, phase]
    exact .sending envelope

/-- A send returns its envelope, waits for room, or is refused without a receiver. -/
theorem send_moves {s : EventBus η} {thread : Nat} {call : BusCall}
    (inCall : InCall call (s.clients thread)) : CallMoves thread call s (.send (.client thread)) := by
  generalize phase : s.clients thread = current at inCall
  have here : s.phaseOf (.client thread) = current := phase
  cases inCall with
  | entered traceId =>
    have moved : s.send (.client thread) = s := by simp [EventBus.send, here]
    refine .onward ?_ fun _ _ _ sending => ?_
    · rw [EventBus.step, moved, phase]
      exact .entered traceId
    · rw [phase] at sending
      cases sending
  | checked traceId =>
    have moved : s.send (.client thread) = s := by simp [EventBus.send, here]
    refine .onward ?_ fun _ _ _ sending => ?_
    · rw [EventBus.step, moved, phase]
      exact .checked traceId
    · rw [phase] at sending
      cases sending
  | sending envelope =>
    cases sent : s.channel.trySend (.publish envelope) with
    | accepted channel =>
      have moved : s.send (.client thread) =
          { s with channel }.finishCall (.client thread) call (.ok envelope) := by
        simp [EventBus.send, here, sent]
      obtain ⟨idle, logged⟩ := finishCall_own { s with channel } thread call (.ok envelope)
      rw [← moved] at idle logged
      exact .accepted idle envelope logged fun _ _ _ _ => (Channel.trySend_accepted sent).1
    | waiting =>
      have moved : s.send (.client thread) = s := by simp [EventBus.send, here, sent]
      refine .onward ?_ fun _ _ _ _ => Channel.trySend_waiting sent
      rw [EventBus.step, moved, phase]
      exact .sending envelope
    | disconnected =>
      have moved : s.send (.client thread) =
          s.finishCall (.client thread) call (.error .channelDisconnected) := by
        simp [EventBus.send, here, sent]
      obtain ⟨idle, logged⟩ := finishCall_own s thread call (.error .channelDisconnected)
      rw [← moved] at idle logged
      refine .refused idle _ logged fun passes => ?_
      have connected := passes rfl call envelope phase
      rw [Channel.trySend_disconnected sent] at connected
      cases connected

/-- Inside a call its thread checks, takes an id or sends. -/
theorem own_steps {label : EventBus.Label η} {thread : Nat} (within : WithinCall thread label)
    (own : clientOf label = some thread) :
    label = .check (.client thread) ∨ (∃ now, label = .allocate (.client thread) now) ∨
      label = .send (.client thread) := by
  cases label with
  | call mover other => exact absurd (Option.some.inj own) within
  | shutdown mover => exact absurd (Option.some.inj own) within
  | sendStop mover => exact absurd (Option.some.inj own) within
  | join mover => exact absurd (Option.some.inj own) within
  | check caller =>
    cases caller with
    | client mover =>
      cases own
      exact Or.inl rfl
    | dispatcher => cases own
  | allocate caller now =>
    cases caller with
    | client mover =>
      cases own
      exact Or.inr (Or.inl ⟨now, rfl⟩)
    | dispatcher => cases own
  | send caller =>
    cases caller with
    | client mover =>
      cases own
      exact Or.inr (Or.inr rfl)
    | dispatcher => cases own
  | _ => cases own

theorem step_call_moves {s : EventBus η} {label : EventBus.Label η} {thread : Nat} {call : BusCall}
    (within : WithinCall thread label) (low : call.hopCount ≤ s.maxHops)
    (inCall : InCall call (s.clients thread)) : CallMoves thread call s label := by
  by_cases own : clientOf label = some thread
  · rcases own_steps within own with rfl | ⟨now, rfl⟩ | rfl
    · exact check_moves low inCall
    · exact allocate_moves now inCall
    · exact send_moves inCall
  · refine .onward ?_ (open_of_other own)
    rw [step_clients s own]
    exact inCall

/-! ## The whole call -/

theorem step_idle {s : EventBus η} {label : EventBus.Label η} {thread : Nat}
    (within : WithinCall thread label) (idle : s.clients thread = .idle) :
    (s.step label).clients thread = .idle ∧ Open thread s label := by
  by_cases own : clientOf label = some thread
  · have here : s.phaseOf (.client thread) = .idle := idle
    rcases own_steps within own with rfl | ⟨now, rfl⟩ | rfl
    · exact ⟨by simpa [EventBus.step, EventBus.check, here] using idle, by simp [Open, idle]⟩
    · exact ⟨by simpa [EventBus.step, EventBus.allocate, here] using idle, trivial⟩
    · exact ⟨by simpa [EventBus.step, EventBus.send, here] using idle, by simp [Open, idle]⟩
  · exact ⟨(step_clients s own).trans idle, open_of_other own⟩

theorem along_idle {thread : Nat} (labels : List (EventBus.Label η))
    (within : ∀ label ∈ labels, WithinCall thread label) (s : EventBus η)
    (idle : s.clients thread = .idle) : Along EventBus.step (Open thread) s labels := by
  induction labels generalizing s with
  | nil => trivial
  | cons label rest ih =>
    obtain ⟨first, others⟩ := List.forall_mem_cons.mp within
    obtain ⟨still, passes⟩ := step_idle first idle
    exact ⟨passes, ih others _ still⟩

/-- A call returns `Ok` exactly if it met an active bus and a connected channel. -/
theorem returns_ok_iff {thread : Nat} {call : BusCall} (labels : List (EventBus.Label η))
    (within : ∀ label ∈ labels, WithinCall thread label) (s : EventBus η)
    (low : call.hopCount ≤ s.maxHops) (inCall : InCall call (s.clients thread))
    {result : Except EventBusError EventEnvelope}
    (returned : callResult thread s labels = some result) :
    (∃ accepted, result = .ok accepted) ↔ Along EventBus.step (Open thread) s labels := by
  induction labels generalizing s with
  | nil => cases returned
  | cons label rest ih =>
    obtain ⟨first, others⟩ := List.forall_mem_cons.mp within
    rw [callResult] at returned
    rw [Along]
    cases step_call_moves first low inCall with
    | onward still passes =>
      rw [if_neg still.not_idle] at returned
      rw [ih others _ (by rwa [EventBus.step_maxHops]) still returned, and_iff_right passes]
    | accepted idle envelope logged passes =>
      rw [if_pos idle, logged] at returned
      cases returned
      exact iff_of_true ⟨envelope, rfl⟩ ⟨passes, along_idle rest others _ idle⟩
    | refused idle error logged blocked =>
      rw [if_pos idle, logged] at returned
      cases returned
      refine iff_of_false ?_ fun along => blocked along.1
      intro ok
      obtain ⟨envelope, same⟩ := ok
      cases same

/-! ## Dispatching an event -/

theorem dispatch_forwards {now : Fin (2 ^ 128)} {envelope : IpcEnvelope}
    {tracker : CorrelationTracker} {event : Event} (fresh : envelope.correlationId ∉ tracker.set)
    (kind : envelope.messageType = .event) (known : extractEvent envelope.payload = some event) :
    (dispatchIncoming now envelope tracker).result = .eventForwarded event := by
  obtain ⟨tracker', marked⟩ := CorrelationTracker.markSeen_fresh fresh
  simp only [dispatchIncoming, marked, kind, known]

/-- A fresh event is reported as forwarded. The bus has accepted it, once the publish is over,
exactly if the thread found the bus active when it checked and connected when it sent. -/
theorem forwarded_accepted_iff (now : Fin (2 ^ 128)) (envelope : IpcEnvelope)
    (tracker : CorrelationTracker) (event : Event)
    (fresh : envelope.correlationId ∉ tracker.set) (kind : envelope.messageType = .event)
    (known : extractEvent envelope.payload = some event) (s : EventBus η) (thread : Nat)
    (idle : s.clients thread = .idle) (labels : List (EventBus.Label η))
    (within : ∀ label ∈ labels, WithinCall thread label)
    (finished : callResult thread (s.step (.call thread (forwarding event))) labels ≠ none) :
    ForwardedAccepted now envelope tracker s thread labels ↔
      Along EventBus.step (Open thread) (s.step (.call thread (forwarding event))) labels := by
  have entered : s.step (.call thread (forwarding event)) =
      { s with nextId := s.nextId + 1 }.setPhase (.client thread)
        (.entered (forwarding event) s.nextId) := if_pos idle
  have inCall : InCall (forwarding event)
      ((s.step (.call thread (forwarding event))).clients thread) := by
    rw [entered, setPhase_own]
    exact .entered _
  have low : (forwarding event).hopCount ≤
      (s.step (.call thread (forwarding event))).maxHops := Nat.zero_le _
  obtain ⟨result, returned⟩ := Option.ne_none_iff_exists'.mp finished
  rw [← returns_ok_iff labels within _ low inCall returned]
  have forwards : (dispatchIncoming now envelope tracker).result = .eventForwarded event :=
    dispatch_forwards fresh kind known
  constructor
  · intro faithful
    exact faithful event result forwards returned
  · intro accepted event' result' forwards' returned'
    rw [forwards] at forwards'
    cases forwards'
    rw [returned] at returned'
    cases returned'
    exact accepted

def batteryLow : IpcEnvelope where
  messageType := .event
  timestamp := ⟨1, one_lt_clock⟩
  correlationId := "cid-3"
  payload := .dict [("event", .str "BatteryLow"), ("percent", .int 15)]

theorem forwarded_accepted_iff_live :
    ForwardedAccepted 0 batteryLow (.new 16) (EventBus.new 64 4 128 : EventBus Unit) 0
        [.check (.client 0), .allocate (.client 0) 0, .send (.client 0)] ↔
      Along EventBus.step (Open 0)
        ((EventBus.new 64 4 128 : EventBus Unit).step (.call 0 (forwarding .batteryLow)))
        [.check (.client 0), .allocate (.client 0) 0, .send (.client 0)] := by
  apply forwarded_accepted_iff 0 batteryLow (.new 16) .batteryLow (by decide) rfl (by decide)
    (EventBus.new 64 4 128) 0 rfl
  · intro label member
    simp only [List.mem_cons, List.not_mem_nil, or_false] at member
    rcases member with rfl | rfl | rfl <;> trivial
  · decide

/-- On a bus that has been shut down the event is dropped and reported as forwarded, and the
same id is a duplicate from then on. -/
theorem forwarded_to_stopped_bus :
    ¬ForwardedAccepted 0 batteryLow (.new 16)
        ((EventBus.new 64 4 128 : EventBus Unit).step (.shutdown 1)) 0 [.check (.client 0)] ∧
      (dispatchIncoming 0 batteryLow (dispatchIncoming 0 batteryLow (.new 16)).tracker).result =
        .duplicateIgnored := by
  constructor
  · intro faithful
    obtain ⟨accepted, same⟩ := faithful .batteryLow (.error .alreadyShutdown)
      (dispatch_forwards (by decide) rfl (by decide)) (by rfl)
    cases same
  · rfl

end Apcos.Guarantees.ForwardedEvents
