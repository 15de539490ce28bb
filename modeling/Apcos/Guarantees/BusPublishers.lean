import Apcos.Guarantees.BusHandles
import Apcos.Guarantees.ForwardedEvents

/-!
# Who publishes what

os/src/event_bus.rs:136-199. An envelope carries the event and the source of the call that made
it, so what may be said of the calls of a thread may be said of the envelopes it gets accepted.
One inversion says how a thread that makes a step moves.
-/
namespace Apcos.Guarantees.BusPublishers

open Apcos.Lib
open Apcos.Source.Supervisor
open Apcos.Source.Supervisor.EventBus
open Apcos.Guarantees.ForwardedEvents (clientOf setPhase_own finishCall_own)

variable {η : Type}

/-! ## Attribution -/

/-- The call is one that may be made, and its envelope carries what it says. -/
def Keeps (may : BusCall → Prop) : Phase → Prop
  | .entered call _ | .checked call _ => may call
  | .sending call envelope =>
    may call ∧ envelope.source = call.source ∧ envelope.event = call.event
  | .idle | .stopping | .joining => True

/-- Every caller makes calls that it may make, the dispatch thread also those still to come. -/
structure Attributed (may : Caller → BusCall → Prop) (s : EventBus η) : Prop where
  phases : ∀ caller, Keeps (may caller) (s.phaseOf caller)
  scripts : ∀ envelope handlers script phase, s.dispatch = .handling envelope handlers script phase →
    ∀ call ∈ script, may .dispatcher call

/-- The step starts calls only that may be made. -/
def Allowed (may : Caller → BusCall → Prop) : Label η → Prop
  | .call thread call => may (.client thread) call
  | .invoke script => ∀ call ∈ script, may .dispatcher call
  | _ => True

variable {may : Caller → BusCall → Prop}

theorem attributed_new (queueCapacity : Nat) (maxHops : Fin 256) (traceCapacity : Nat) :
    Attributed may (new queueCapacity maxHops traceCapacity : EventBus η) where
  phases caller := by cases caller <;> trivial
  scripts envelope handlers script phase running := by cases running

/-- Whatever changes neither the clients nor the dispatch thread. -/
theorem Attributed.of_same {s s' : EventBus η} (attributed : Attributed may s)
    (clients : s'.clients = s.clients) (dispatch : s'.dispatch = s.dispatch) :
    Attributed may s' where
  phases caller := by
    have same : s'.phaseOf caller = s.phaseOf caller := by
      cases caller with
      | client thread => exact congrFun clients thread
      | dispatcher => simp only [phaseOf, dispatch]
    rw [same]
    exact attributed.phases caller
  scripts := by
    rw [dispatch]
    exact attributed.scripts

theorem Attributed.setPhase {s : EventBus η} (attributed : Attributed may s) (caller : Caller)
    {phase : Phase} (keeps : Keeps (may caller) phase) : Attributed may (s.setPhase caller phase) where
  phases other := by
    cases caller with
    | client thread =>
      cases other with
      | client thread' =>
        by_cases same : thread' = thread
        · subst same
          have here : (s.setPhase (.client thread') phase).phaseOf (.client thread') = phase :=
            Function.update_self ..
          rw [here]
          exact keeps
        · have here : (s.setPhase (.client thread) phase).phaseOf (.client thread') =
            s.phaseOf (.client thread') := Function.update_of_ne same ..
          rw [here]
          exact attributed.phases _
      | dispatcher => exact attributed.phases .dispatcher
    | dispatcher =>
      rcases s.phaseOf_setPhase_cases .dispatcher phase other with set | kept
      · cases other with
        | client thread =>
          have clients : (s.setPhase .dispatcher phase).phaseOf (.client thread) =
              s.phaseOf (.client thread) := by
            unfold EventBus.setPhase
            cases s.dispatch <;> rfl
          rw [clients]
          exact attributed.phases _
        | dispatcher =>
          rw [set]
          exact keeps
      · rw [kept]
        exact attributed.phases other
  scripts envelope handlers script after running := by
    cases caller with
    | client thread => exact attributed.scripts envelope handlers script after running
    | dispatcher =>
      unfold EventBus.setPhase at running
      cases before : s.dispatch with
      | receiving =>
        rw [before] at running
        cases before.symm.trans running
      | leaving =>
        rw [before] at running
        cases before.symm.trans running
      | ended =>
        rw [before] at running
        cases before.symm.trans running
      | handling envelope' handlers' script' phase' =>
        rw [before] at running
        cases running
        exact attributed.scripts _ _ _ _ before

theorem Attributed.finishCall {s : EventBus η} (attributed : Attributed may s) (caller : Caller)
    (call : BusCall) (result : Except EventBusError EventEnvelope) :
    Attributed may (s.finishCall caller call result) := by
  unfold EventBus.finishCall
  apply Attributed.setPhase
  · exact attributed.of_same rfl rfl
  · trivial

theorem Attributed.enter {s : EventBus η} (attributed : Attributed may s) (caller : Caller)
    {call : BusCall} (allowed : may caller call) : Attributed may (s.enter caller call) := by
  cases call with
  | publish event source =>
    apply Attributed.setPhase
    · exact attributed.of_same rfl rfl
    · exact allowed
  | publishWithTrace event source traceId hopCount => exact attributed.setPhase caller allowed
  | continueTrace parent event source => exact attributed.setPhase caller allowed

theorem Attributed.check {s : EventBus η} (attributed : Attributed may s) (caller : Caller) :
    Attributed may (s.check caller) := by
  unfold EventBus.check
  split
  · rename_i call traceId phase
    have keeps := attributed.phases caller
    rw [phase] at keeps
    split_ifs
    · exact attributed.finishCall caller _ _
    · exact attributed.finishCall caller _ _
    · exact attributed.setPhase caller keeps
  · exact attributed

theorem Attributed.allocate {s : EventBus η} (attributed : Attributed may s) (caller : Caller)
    (now : Fin (2 ^ 128)) : Attributed may (s.allocate caller now) := by
  unfold EventBus.allocate
  split
  · rename_i call traceId phase
    have keeps := attributed.phases caller
    rw [phase] at keeps
    apply Attributed.setPhase
    · exact attributed.of_same rfl rfl
    · exact ⟨keeps, rfl, rfl⟩
  · exact attributed

theorem Attributed.send {s : EventBus η} (attributed : Attributed may s) (caller : Caller) :
    Attributed may (s.send caller) := by
  unfold EventBus.send
  split
  · split
    · apply Attributed.finishCall
      exact attributed.of_same rfl rfl
    · exact attributed
    · exact attributed.finishCall caller _ _
  · exact attributed

theorem Attributed.sendStop {s : EventBus η} (attributed : Attributed may s) (thread : Nat) :
    Attributed may (s.sendStop thread) := by
  unfold EventBus.sendStop
  split
  · split
    · apply Attributed.setPhase
      · exact attributed.of_same rfl rfl
      · trivial
    · exact attributed
    · exact attributed.setPhase (.client thread) trivial
  · exact attributed

/-- The dispatch thread moves to a point outside any call. -/
theorem Attributed.redispatch {s s' : EventBus η} (attributed : Attributed may s)
    (clients : s'.clients = s.clients) (outside : s'.phaseOf .dispatcher = .idle)
    (scripts : ∀ envelope handlers script phase,
      s'.dispatch = .handling envelope handlers script phase → ∀ call ∈ script, may .dispatcher call) :
    Attributed may s' where
  phases caller := by
    cases caller with
    | client thread =>
      have same : s'.phaseOf (.client thread) = s.phaseOf (.client thread) := congrFun clients thread
      rw [same]
      exact attributed.phases _
    | dispatcher =>
      rw [outside]
      trivial
  scripts := scripts

/-- The handlers of a received envelope have made no call yet. -/
theorem Attributed.receive {s : EventBus η} (attributed : Attributed may s) :
    Attributed may s.receive := by
  unfold EventBus.receive
  split
  · split
    · exact attributed
    · apply attributed.redispatch
      · rfl
      · rfl
      · intro envelope handlers script phase running
        cases running
    · split_ifs
      · exact attributed.of_same rfl rfl
      · apply attributed.redispatch
        · rfl
        · rfl
        · intro envelope handlers script phase running call member
          cases running
          cases member
  · exact attributed

theorem Attributed.invoke {s : EventBus η} (attributed : Attributed may s) {script : List BusCall}
    (allowed : ∀ call ∈ script, may .dispatcher call) : Attributed may (s.invoke script) := by
  unfold EventBus.invoke
  split
  · apply attributed.redispatch
    · rfl
    · rfl
    · intro envelope handlers script phase running call member
      cases running
      exact allowed call member
  · exact attributed

theorem Attributed.proceed {s : EventBus η} (attributed : Attributed may s) :
    Attributed may s.proceed := by
  unfold EventBus.proceed
  split
  · rename_i envelope handlers call script running
    have first := attributed.scripts envelope handlers (call :: script) .idle running
    refine Attributed.enter ?_ .dispatcher (first call List.mem_cons_self)
    apply attributed.redispatch
    · rfl
    · rfl
    · intro envelope handlers script phase running other member
      cases running
      exact first other (List.mem_cons_of_mem call member)
  · exact attributed

theorem Attributed.dropReceiver {s : EventBus η} (attributed : Attributed may s) :
    Attributed may s.dropReceiver := by
  unfold EventBus.dropReceiver
  split
  · apply attributed.redispatch
    · rfl
    · rfl
    · intro envelope handlers script phase running
      cases running
  · exact attributed

/-- A step keeps every caller to its own calls. -/
theorem attributed_step {s : EventBus η} (attributed : Attributed may s) {label : Label η}
    (allowed : Allowed may label) : Attributed may (s.step label) := by
  cases label with
  | subscribe event handler =>
    simp only [EventBus.step, subscribe]
    split_ifs
    · exact attributed
    · exact attributed.of_same rfl rfl
  | unsubscribe id =>
    simp only [EventBus.step, unsubscribe]
    split
    · exact attributed
    · exact attributed.of_same rfl rfl
  | call thread call =>
    simp only [EventBus.step]
    split_ifs
    · exact attributed.enter (.client thread) allowed
    · exact attributed
  | check caller => exact attributed.check caller
  | allocate caller now => exact attributed.allocate caller now
  | send caller => exact attributed.send caller
  | shutdown thread =>
    simp only [EventBus.step, shutdown]
    split
    · split_ifs
      · apply Attributed.setPhase
        · exact attributed.of_same rfl rfl
        · trivial
      · exact attributed
    · exact attributed
  | sendStop thread => exact attributed.sendStop thread
  | join thread =>
    simp only [EventBus.step, join]
    split
    · exact attributed.setPhase (.client thread) trivial
    · exact attributed
  | receive => exact attributed.receive
  | invoke script => exact attributed.invoke allowed
  | proceed => exact attributed.proceed
  | finishHandling =>
    simp only [EventBus.step, finishHandling]
    split
    · apply attributed.redispatch
      · rfl
      · rfl
      · intro envelope handlers script phase running
        cases running
    · exact attributed
  | dropReceiver => exact attributed.dropReceiver

theorem Keeps.mono {first second : BusCall → Prop} (weaker : ∀ call, first call → second call)
    {phase : Phase} (keeps : Keeps first phase) : Keeps second phase := by
  cases phase with
  | entered call traceId => exact weaker call keeps
  | checked call traceId => exact weaker call keeps
  | sending call envelope => exact ⟨weaker call keeps.1, keeps.2⟩
  | idle => trivial
  | stopping => trivial
  | joining => trivial

/-- What may be said of the call of one thread, whatever the others may do. -/
theorem keeps_step {s : EventBus η} (attributed : Attributed may s) {thread : Nat}
    {label : Label η} {said : BusCall → Prop} (keeps : Keeps said (s.clients thread))
    (allowed : ∀ call, label = .call thread call → said call) :
    Keeps said ((s.step label).clients thread) := by
  have own : Attributed (fun caller call => caller = .client thread → said call) s := by
    refine ⟨fun caller => ?_, fun _ _ _ _ _ _ _ same => by cases same⟩
    by_cases same : caller = .client thread
    · subst same
      exact Keeps.mono (fun call holds _ => holds) keeps
    · exact Keeps.mono (fun call _ here => absurd here same) (attributed.phases caller)
  have started : Allowed (fun caller call => caller = .client thread → said call) label := by
    cases label with
    | call mover call =>
      intro same
      cases same
      exact allowed call rfl
    | invoke script => exact fun _ _ same => by cases same
    | _ => trivial
  exact Keeps.mono (fun call holds => holds rfl) ((attributed_step own started).phases (.client thread))

/-! ## The step of a client -/

/-- How a client that makes a step moves, and what it logs. -/
inductive ClientMoves (s : EventBus η) (thread : Nat) (label : Label η) (s' : EventBus η) : Prop
  | stays (phase : s'.clients thread = s.clients thread) (accepted : s'.accepted = s.accepted)
  | entered (call : BusCall) (traceId : UInt64) (named : label = .call thread call)
      (before : s.clients thread = .idle) (phase : s'.clients thread = .entered call traceId)
      (accepted : s'.accepted = s.accepted)
  | checked (call : BusCall) (traceId : UInt64) (before : s.clients thread = .entered call traceId)
      (active : s.active = true) (phase : s'.clients thread = .checked call traceId)
      (accepted : s'.accepted = s.accepted)
  | allocated (call : BusCall) (traceId : UInt64) (envelope : EventEnvelope)
      (before : s.clients thread = .checked call traceId)
      (phase : s'.clients thread = .sending call envelope) (accepted : s'.accepted = s.accepted)
  | sent (call : BusCall) (envelope : EventEnvelope)
      (before : s.clients thread = .sending call envelope) (phase : s'.clients thread = .idle)
      (logged : s'.outcomes.getLast?.map Outcome.result = some (.ok envelope))
      (accepted : s'.accepted = s.accepted ++ [envelope])
  | refused (call : BusCall) (error : EventBusError)
      (before : (∃ traceId, s.clients thread = .entered call traceId ∧
          (s.active = false ∨ s.maxHops < call.hopCount)) ∨
        ∃ envelope, s.clients thread = .sending call envelope ∧ s.channel.connected = false)
      (phase : s'.clients thread = .idle)
      (logged : s'.outcomes.getLast?.map Outcome.result = some (.error error))
      (accepted : s'.accepted = s.accepted)
  | stopping (named : label = .shutdown thread ∨ s.clients thread = .stopping ∨
        s.clients thread = .joining)
      (phase : s'.clients thread = .stopping ∨ s'.clients thread = .joining ∨
        s'.clients thread = .idle)
      (accepted : s'.accepted = s.accepted)

theorem check_client (s : EventBus η) (thread : Nat) (label : Label η) :
    ClientMoves s thread label (s.check (.client thread)) := by
  have here : s.phaseOf (.client thread) = s.clients thread := rfl
  unfold EventBus.check
  rw [here]
  split
  · rename_i call traceId phase
    split_ifs with inactive beyond
    · obtain ⟨idle, logged⟩ := finishCall_own s thread call (.error .alreadyShutdown)
      exact .refused call _ (Or.inl ⟨traceId, phase, Or.inl (by simpa using inactive)⟩) idle logged
        (finishCall_accepted_error _ _ _ _)
    · obtain ⟨idle, logged⟩ := finishCall_own s thread call (.error .recursionLimitExceeded)
      exact .refused call _ (Or.inl ⟨traceId, phase, Or.inr beyond⟩) idle logged
        (finishCall_accepted_error _ _ _ _)
    · exact .checked call traceId phase (by simpa using inactive) (setPhase_own s thread _)
        (setPhase_accepted _ _ _)
  · exact .stays rfl rfl

theorem allocate_client (s : EventBus η) (thread : Nat) (now : Fin (2 ^ 128)) (label : Label η) :
    ClientMoves s thread label (s.allocate (.client thread) now) := by
  have here : s.phaseOf (.client thread) = s.clients thread := rfl
  unfold EventBus.allocate
  rw [here]
  split
  · rename_i call traceId phase
    exact .allocated call traceId _ phase (setPhase_own _ thread _) (setPhase_accepted _ _ _)
  · exact .stays rfl rfl

theorem send_client (s : EventBus η) (thread : Nat) (label : Label η) :
    ClientMoves s thread label (s.send (.client thread)) := by
  have here : s.phaseOf (.client thread) = s.clients thread := rfl
  unfold EventBus.send
  rw [here]
  split
  · rename_i call envelope phase
    split
    · rename_i channel sent
      obtain ⟨idle, logged⟩ := finishCall_own { s with channel } thread call (.ok envelope)
      exact .sent call envelope phase idle logged (finishCall_accepted_ok _ _ _ _)
    · exact .stays rfl rfl
    · rename_i disconnected
      obtain ⟨idle, logged⟩ := finishCall_own s thread call (.error .channelDisconnected)
      exact .refused call _
        (Or.inr ⟨envelope, phase, Channel.trySend_disconnected disconnected⟩) idle logged
        (finishCall_accepted_error _ _ _ _)
  · exact .stays rfl rfl

theorem enter_client (s : EventBus η) (thread : Nat) (call : BusCall) :
    ∃ traceId, (s.enter (.client thread) call).clients thread = .entered call traceId := by
  cases call with
  | publish event source => exact ⟨s.nextId, setPhase_own _ thread _⟩
  | publishWithTrace event source traceId hopCount => exact ⟨traceId, setPhase_own s thread _⟩
  | continueTrace parent event source => exact ⟨parent.traceId, setPhase_own s thread _⟩

theorem enter_accepted (s : EventBus η) (caller : Caller) (call : BusCall) :
    (s.enter caller call).accepted = s.accepted := by
  rw [accepted, enter_outcomes, accepted]

/-- Where a client goes from where it stands. -/
theorem client_moves (s : EventBus η) {thread : Nat} {label : Label η}
    (own : clientOf label = some thread) : ClientMoves s thread label (s.step label) := by
  cases label with
  | call mover call =>
    cases own
    simp only [EventBus.step]
    split_ifs with idle
    · obtain ⟨traceId, phase⟩ := enter_client s thread call
      exact .entered call traceId rfl idle phase (enter_accepted s _ call)
    · exact .stays rfl rfl
  | check caller =>
    cases caller with
    | client mover =>
      cases own
      exact check_client s thread _
    | dispatcher => cases own
  | allocate caller now =>
    cases caller with
    | client mover =>
      cases own
      exact allocate_client s thread now _
    | dispatcher => cases own
  | send caller =>
    cases caller with
    | client mover =>
      cases own
      exact send_client s thread _
    | dispatcher => cases own
  | shutdown mover =>
    cases own
    simp only [EventBus.step, shutdown]
    split
    · split_ifs
      · exact .stopping (Or.inl rfl) (Or.inl (setPhase_own _ thread _)) (setPhase_accepted _ _ _)
      · exact .stays rfl rfl
    · exact .stays rfl rfl
  | sendStop mover =>
    cases own
    simp only [EventBus.step, sendStop]
    split
    · rename_i phase
      split
      · exact .stopping (Or.inr (Or.inl phase)) (Or.inr (Or.inl (setPhase_own _ thread _)))
          (setPhase_accepted _ _ _)
      · exact .stays rfl rfl
      · exact .stopping (Or.inr (Or.inl phase)) (Or.inr (Or.inr (setPhase_own s thread _)))
          (setPhase_accepted _ _ _)
    · exact .stays rfl rfl
  | join mover =>
    cases own
    simp only [EventBus.step, join]
    split
    · rename_i phase _
      exact .stopping (Or.inr (Or.inr phase)) (Or.inr (Or.inr (setPhase_own s thread _)))
        (setPhase_accepted _ _ _)
    · exact .stays rfl rfl
  | _ => cases own

/-- What a step of others gets accepted is what one of them sends. -/
theorem accepted_of_other {s : EventBus η} {label : Label η} {thread : Nat}
    (other : clientOf label ≠ some thread) :
    (s.step label).accepted = s.accepted ∨
      ∃ caller call envelope, caller ≠ .client thread ∧ s.phaseOf caller = .sending call envelope ∧
        (s.step label).accepted = s.accepted ++ [envelope] := by
  cases s.step_moves label with
  | quiet same => exact Or.inl same.accepted
  | sent caller call envelope named phase connected room channel accepted dispatched stage =>
    refine Or.inr ⟨caller, call, envelope, ?_, phase, accepted⟩
    rintro rfl
    exact other (by rw [named]; rfl)
  | stopped thread' named phase connected room channel accepted dispatched stage =>
    exact Or.inl accepted
  | taken envelope running items channel accepted within stage => exact Or.inl accepted
  | halted running items channel accepted dispatched stage => exact Or.inl accepted
  | dropped running channel accepted dispatched stage => exact Or.inl accepted

end Apcos.Guarantees.BusPublishers
