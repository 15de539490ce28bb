import Apcos.Source.Supervisor.BusEffects

/-!
# Accepted events and shutdown

os/src/event_bus.rs:151-279. An envelope is accepted when its publishing call
returned `Ok`. Until the receiver is dropped, what was accepted is what was
dispatched followed by what is queued; the loop breaks at `Stop`, so an envelope
sent after `Stop`, behind it in the channel or between the break and the drop of
the receiver, is accepted and dropped with the channel. The flag is checked
before the send and not again, which leaves exactly this window.
-/
namespace Apcos.Guarantees.BusShutdown

open Apcos.Lib
open Apcos.Source.Supervisor
open Apcos.Source.Supervisor.EventBus

variable {η : Type}

def NothingBehindStop : List BusCommand → Prop
  | [] => True
  | .stop :: rest => envelopesOf rest = []
  | .publish _ :: rest => NothingBehindStop rest

theorem nothingBehindStop_publish (commands : List BusCommand) (envelope : EventEnvelope) :
    NothingBehindStop (commands ++ [.publish envelope]) ↔
      NothingBehindStop commands ∧ BusCommand.stop ∉ commands := by
  induction commands with
  | nil => simp [NothingBehindStop]
  | cons command rest ih =>
    cases command with
    | stop => simp [NothingBehindStop]
    | publish first => simpa [NothingBehindStop] using ih

theorem nothingBehindStop_stop (commands : List BusCommand) :
    NothingBehindStop (commands ++ [.stop]) ↔ NothingBehindStop commands := by
  induction commands with
  | nil => simp [NothingBehindStop]
  | cons command rest ih =>
    cases command with
    | stop => simp [NothingBehindStop]
    | publish first => simpa [NothingBehindStop] using ih

/-- The books of the bus: while the receiver is alive, accepted is dispatched and then queued. -/
structure Balanced (s : EventBus η) : Prop where
  within : WithinLimit s
  connected : s.channel.connected = true ↔ s.dispatch.stage ≠ .ended
  books : s.dispatch.stage ≠ .ended → s.accepted = s.dispatched ++ envelopesOf s.channel.items

/-- Nothing accepted is lost or bound to be lost. -/
def Settled (s : EventBus η) : Prop :=
  match s.dispatch.stage with
  | .looping => NothingBehindStop s.channel.items
  | .leaving => envelopesOf s.channel.items = []
  | .ended => s.dispatched = s.accepted

/-- `Stop` has not been sent: it is not in the channel and the loop has not taken it. -/
structure BeforeStop (s : EventBus η) : Prop where
  unqueued : BusCommand.stop ∉ s.channel.items
  looping : s.dispatch.stage = .looping

/-- A send that goes through goes before `Stop` is sent. -/
def AheadOfStop (s : EventBus η) (label : Label η) : Prop :=
  ∀ caller call envelope, label = .send caller → s.phaseOf caller = .sending call envelope →
    s.channel.connected = true → s.channel.items.length < s.channel.capacity → BeforeStop s

theorem balanced_new (queueCapacity : Nat) (maxHops : Fin 256) (traceCapacity : Nat) :
    Balanced (new queueCapacity maxHops traceCapacity : EventBus η) where
  within := withinLimit_new queueCapacity maxHops traceCapacity
  connected := by simp [new, Channel.empty, Dispatch.stage]
  books _ := rfl

theorem settled_new (queueCapacity : Nat) (maxHops : Fin 256) (traceCapacity : Nat) :
    Settled (new queueCapacity maxHops traceCapacity : EventBus η) := trivial

/-- Each step keeps the books. -/
theorem step_balanced (s : EventBus η) (label : Label η) (balanced : Balanced s) :
    Balanced (s.step label) := by
  refine ⟨balanced.within.step label, ?_, ?_⟩
  · cases s.step_moves label with
    | quiet same => rw [same.channel, same.stage, balanced.connected]
    | sent caller call envelope named phase connected room channel accepted dispatched stage =>
      rw [channel, stage, ← balanced.connected]
      rfl
    | stopped thread named phase connected room channel accepted dispatched stage =>
      rw [channel, stage, ← balanced.connected]
      rfl
    | taken envelope running items channel accepted within stage =>
      have attached : s.channel.connected = true :=
        balanced.connected.mpr (by simp [running, Dispatch.stage])
      simp [channel, attached, stage]
    | halted running items channel accepted dispatched stage =>
      have attached : s.channel.connected = true :=
        balanced.connected.mpr (by simp [running, Dispatch.stage])
      simp [channel, attached, stage]
    | dropped running channel accepted dispatched stage => simp [channel, stage]
  · intro alive
    cases s.step_moves label with
    | quiet same =>
      rw [same.channel, same.accepted, same.dispatched]
      rw [same.stage] at alive
      exact balanced.books alive
    | sent caller call envelope named phase connected room channel accepted dispatched stage =>
      rw [stage] at alive
      rw [channel, accepted, dispatched, balanced.books alive]
      simp
    | stopped thread named phase connected room channel accepted dispatched stage =>
      rw [stage] at alive
      rw [channel, accepted, dispatched, balanced.books alive]
      simp
    | taken envelope running items channel accepted within stage =>
      have before := balanced.books (by simp [running, Dispatch.stage])
      have limit : ¬s.maxHops < envelope.hopCount := by
        apply Fin.not_lt.mpr
        apply balanced.within.queued
        rw [items]
        exact List.mem_cons_self
      rw [channel, accepted, within limit, before, items]
      simp
    | halted running items channel accepted dispatched stage =>
      have before := balanced.books (by simp [running, Dispatch.stage])
      rw [channel, accepted, dispatched, before, items]
      simp
    | dropped running channel accepted dispatched stage => exact absurd stage alive

/-! ## When `Stop` is sent -/

/-- A shutdown that cleared the flag gets its `Stop` into the channel. -/
def SendsStop (s : EventBus η) (label : Label η) : Prop :=
  ∃ thread, label = .sendStop thread ∧ s.clients thread = .stopping ∧
    s.channel.connected = true ∧ s.channel.items.length < s.channel.capacity

/-- A step keeps the bus before its stop unless it sends `Stop`. -/
theorem step_beforeStop (s : EventBus η) (label : Label η) :
    BeforeStop (s.step label) ↔ BeforeStop s ∧ ¬SendsStop s label := by
  have sends (sent : SendsStop s label) : BusCommand.stop ∈ (s.step label).channel.items := by
    obtain ⟨thread, rfl, phase, connected, room⟩ := sent
    simp only [step, sendStop, phase, Channel.trySend_of_room _ connected room, setPhase_channel,
      Channel.push_items]
    exact List.mem_append_right _ List.mem_cons_self
  constructor
  · intro after
    refine ⟨?_, fun sent => after.unqueued (sends sent)⟩
    obtain ⟨unqueued, looping⟩ := after
    cases s.step_moves label with
    | quiet same =>
      rw [same.channel] at unqueued
      exact ⟨unqueued, same.stage.symm.trans looping⟩
    | sent caller call envelope named phase connected room channel accepted dispatched stage =>
      rw [channel, Channel.push_items] at unqueued
      exact ⟨fun queued => unqueued (List.mem_append_left _ queued), stage.symm.trans looping⟩
    | stopped thread named phase connected room channel accepted dispatched stage =>
      rw [channel, Channel.push_items] at unqueued
      exact absurd (List.mem_append_right _ List.mem_cons_self) unqueued
    | taken envelope running items channel accepted within stage =>
      rw [channel, Channel.rest_items] at unqueued
      refine ⟨?_, by rw [running]; rfl⟩
      rw [items]
      simpa using unqueued
    | halted running items channel accepted dispatched stage => cases stage.symm.trans looping
    | dropped running channel accepted dispatched stage => cases stage.symm.trans looping
  · rintro ⟨⟨unqueued, looping⟩, unsent⟩
    cases s.step_moves label with
    | quiet same => exact ⟨by rwa [same.channel], same.stage.trans looping⟩
    | sent caller call envelope named phase connected room channel accepted dispatched stage =>
      refine ⟨?_, stage.trans looping⟩
      rw [channel, Channel.push_items]
      simpa using unqueued
    | stopped thread named phase connected room channel accepted dispatched stage =>
      exact absurd ⟨thread, named, phase, connected, room⟩ unsent
    | taken envelope running items channel accepted within stage =>
      refine ⟨?_, stage⟩
      rw [channel, Channel.rest_items]
      exact fun queued => unqueued (List.mem_of_mem_tail queued)
    | halted running items channel accepted dispatched stage =>
      rw [items] at unqueued
      exact absurd List.mem_cons_self unqueued
    | dropped running channel accepted dispatched stage =>
      rw [running] at looping
      cases looping

/-- `Stop` has not been sent as long as no shutdown has sent it. -/
theorem beforeStop_iff (queueCapacity : Nat) (maxHops : Fin 256) (traceCapacity : Nat)
    (labels : List (Label η)) :
    BeforeStop (run step (new queueCapacity maxHops traceCapacity) labels) ↔
      Along step (fun s label => ¬SendsStop s label) (new queueCapacity maxHops traceCapacity)
        labels := by
  have along := run_iff_along (fun s label => step_balanced s label)
    (fun s label _ => step_beforeStop s label) (new queueCapacity maxHops traceCapacity)
    (balanced_new queueCapacity maxHops traceCapacity) labels
  exact along.trans (and_iff_right ⟨List.not_mem_nil, rfl⟩)

/-! ## Sends ahead of `Stop` -/

theorem send_accepted {s : EventBus η} {caller : Caller} {call : BusCall}
    {envelope : EventEnvelope} (phase : s.phaseOf caller = .sending call envelope)
    (connected : s.channel.connected = true)
    (room : s.channel.items.length < s.channel.capacity) :
    (s.step (.send caller)).accepted = s.accepted ++ [envelope] := by
  simp only [step, send, phase, Channel.trySend_of_room _ connected room]
  exact finishCall_accepted_ok _ caller call envelope

/-- A step that accepts nothing sends nothing after `Stop`. -/
theorem aheadOfStop_of_same {s : EventBus η} {label : Label η}
    (same : (s.step label).accepted = s.accepted) : AheadOfStop s label := by
  rintro caller call envelope rfl phase connected room
  rw [send_accepted phase connected room] at same
  have lengths := congrArg List.length same
  simp at lengths

/-- With one envelope more, nothing is bound to be lost only if `Stop` was not sent before. -/
theorem settled_sent {s s' : EventBus η} {envelope : EventEnvelope}
    (alive : s.dispatch.stage ≠ .ended) (room : s.channel.items.length < s.channel.capacity)
    (channel : s'.channel = s.channel.push (.publish envelope) room)
    (stage : s'.dispatch.stage = s.dispatch.stage) : Settled s' ↔ Settled s ∧ BeforeStop s := by
  rw [Settled, Settled, stage, channel, Channel.push_items]
  cases came : s.dispatch.stage with
  | looping =>
    refine (nothingBehindStop_publish s.channel.items envelope).trans (and_congr_right' ?_)
    exact ⟨fun unqueued => ⟨unqueued, came⟩, BeforeStop.unqueued⟩
  | leaving =>
    refine iff_of_false (by simp) (fun ⟨_, before⟩ => ?_)
    cases came.symm.trans before.looping
  | ended => exact absurd came alive

theorem settled_stopped {s s' : EventBus η} (alive : s.dispatch.stage ≠ .ended)
    (room : s.channel.items.length < s.channel.capacity)
    (channel : s'.channel = s.channel.push .stop room)
    (stage : s'.dispatch.stage = s.dispatch.stage) : Settled s' ↔ Settled s := by
  rw [Settled, Settled, stage, channel, Channel.push_items]
  cases came : s.dispatch.stage with
  | looping => exact nothingBehindStop_stop s.channel.items
  | leaving => simp
  | ended => exact absurd came alive

/-- A step keeps the books settled exactly when it sends nothing after `Stop`. -/
theorem step_settled (s : EventBus η) (label : Label η) (balanced : Balanced s) :
    Settled (s.step label) ↔ Settled s ∧ AheadOfStop s label := by
  cases s.step_moves label with
  | quiet same =>
    rw [and_iff_left (aheadOfStop_of_same same.accepted), Settled, Settled, same.stage, same.channel,
      same.accepted, same.dispatched]
  | sent caller call envelope named phase connected room channel accepted dispatched stage =>
    have alive := balanced.connected.mp connected
    rw [settled_sent alive room channel stage]
    apply and_congr_right'
    constructor
    · exact fun before _ _ _ _ _ _ _ => before
    · exact fun ahead => ahead caller call envelope named phase connected room
  | stopped thread named phase connected room channel accepted dispatched stage =>
    have alive := balanced.connected.mp connected
    rw [and_iff_left (aheadOfStop_of_same accepted), settled_stopped alive room channel stage]
  | taken envelope running items channel accepted within stage =>
    rw [and_iff_left (aheadOfStop_of_same accepted), Settled, Settled, stage, channel, running, items]
    exact Iff.rfl
  | halted running items channel accepted dispatched stage =>
    rw [and_iff_left (aheadOfStop_of_same accepted), Settled, Settled, stage, channel, running, items]
    exact Iff.rfl
  | dropped running channel accepted dispatched stage =>
    have books := balanced.books (by simp [running, Dispatch.stage])
    rw [and_iff_left (aheadOfStop_of_same accepted), Settled, Settled, stage, running, accepted,
      dispatched, books]
    exact List.self_eq_append_right

/-- When the loop has ended, every accepted envelope has been dispatched exactly once and in
channel order if and only if every send of the run that went through did so before `Stop`
was sent. -/
theorem accepted_dispatched_iff (queueCapacity : Nat) (maxHops : Fin 256) (traceCapacity : Nat)
    (labels : List (Label η))
    (ended : (run step (new queueCapacity maxHops traceCapacity) labels).dispatch = .ended) :
    ((run step (new queueCapacity maxHops traceCapacity) labels).dispatched =
        (run step (new queueCapacity maxHops traceCapacity) labels).accepted) ↔
      Along step AheadOfStop (new queueCapacity maxHops traceCapacity) labels := by
  have settles := run_iff_along (fun s label => step_balanced s label)
    (fun s label => step_settled s label) (new queueCapacity maxHops traceCapacity)
    (balanced_new queueCapacity maxHops traceCapacity) labels
  have clear : Settled (run step (new queueCapacity maxHops traceCapacity) labels) ↔
      (run step (new queueCapacity maxHops traceCapacity) labels).dispatched =
        (run step (new queueCapacity maxHops traceCapacity) labels).accepted := by
    rw [Settled, ended]
    exact Iff.rfl
  rw [← clear, settles]
  exact and_iff_right (settled_new queueCapacity maxHops traceCapacity)

def epoch : Fin (2 ^ 128) := ⟨0, zero_lt_clock⟩

/-- Thread 0 publishes and the event is handled; thread 1 then shuts the bus down. -/
def orderly : List (Label Unit) :=
  [.call 0 (.publish .batteryLow "monitor"), .check (.client 0), .allocate (.client 0) epoch,
    .send (.client 0), .receive, .finishHandling, .shutdown 1, .sendStop 1, .receive,
    .dropReceiver, .join 1]

theorem orderly_shutdown_dispatches :
    (run step (new 4 2 8) orderly).dispatched = (run step (new 4 2 8) orderly).accepted ∧
      (run step (new 4 2 8) orderly).accepted.length = 1 := by
  have ended : (run step (new 4 2 8) orderly).dispatch = .ended := rfl
  refine ⟨(accepted_dispatched_iff 4 2 8 orderly ended).mpr ?_, rfl⟩
  refine ⟨?_, ?_, ?_, ?_, ?_, ?_, ?_, ?_, ?_, ?_, ?_, trivial⟩
  all_goals
    intro caller call envelope named phase connected room
    first
      | exact ⟨List.not_mem_nil, rfl⟩
      | cases named

/-- Thread 0 passes the check; thread 1 clears the flag and sends `Stop`; thread 0 then sends
and is told `Ok`, and the loop breaks at `Stop`. -/
def overtaken : List (Label Unit) :=
  [.call 0 (.publish .batteryLow "monitor"), .check (.client 0), .allocate (.client 0) epoch,
    .shutdown 1, .sendStop 1, .send (.client 0), .receive, .dropReceiver, .join 1]

theorem accepted_event_lost_at_shutdown :
    (run step (new 4 2 8) overtaken).dispatch = .ended ∧
      (run step (new 4 2 8) overtaken).accepted =
        [⟨2, 1, ⟨0, zero_lt_byte⟩, "monitor", epoch, .batteryLow⟩] ∧
      (run step (new 4 2 8) overtaken).dispatched = [] :=
  ⟨rfl, rfl, rfl⟩

/-- A send between the break and the drop of the receiver is lost as well. -/
example :
    let between : List (Label Unit) :=
      [.call 0 (.publish .batteryLow "monitor"), .check (.client 0), .allocate (.client 0) epoch,
        .shutdown 1, .sendStop 1, .receive, .send (.client 0), .dropReceiver]
    (run step (new 4 2 8) between).accepted.length = 1 ∧
      (run step (new 4 2 8) between).dispatched = [] :=
  ⟨rfl, rfl⟩

end Apcos.Guarantees.BusShutdown
