import Mathlib.Algebra.Order.Ring.Int
import Mathlib.Logic.Function.Basic
import Apcos.Lib.Channel
import Apcos.Lib.Runs

/-!
# Event bus

os/src/event_bus.rs. Every operation is cut at the points where other threads
can act: a publish takes its trace id, checks the flag, takes its id and sends
as four steps; a shutdown clears the flag, sends `Stop` and joins as three; the
dispatch thread receives, enters one handler after another and makes the calls
of a handler through the same steps. At `Stop` the loop breaks; the receiver it
owns is dropped by a later step, when `dispatch_loop` returns. A label names the
thread that moves; a thread that cannot move stays where it is, so a run is any
list of labels.

`EventBus::new` also sets up what the steps share: `max(capacity, 1)` slots,
`max(max_hops, 1)` hops, `max(trace_capacity, 1)` traces. Handlers are values
of a type parameter; which calls a handler makes is chosen by the label and
restricted, where a result needs it, along the run. `outcomes` and `dispatched`
are logs that no step reads. A panicking handler, a handler that shuts the bus
down and poisoned locks are not modeled; `subscribe` and `unsubscribe` are one
step each.
-/
namespace Apcos.Source.Supervisor

open Apcos.Lib (Channel)

/-- `event_bus::Event`. -/
inductive Event where
  | intentParsed | lifecycleValidated | taskCreated | taskCompleted | taskArchived | batteryLow
  | thermalHigh | sleepEntered | sleepExited | identityChanged | modelDowngrade | modelUnload
  deriving DecidableEq, Repr

def Event.all : List Event :=
  [.intentParsed, .lifecycleValidated, .taskCreated, .taskCompleted, .taskArchived, .batteryLow,
    .thermalHigh, .sleepEntered, .sleepExited, .identityChanged, .modelDowngrade, .modelUnload]

theorem zero_lt_byte : 0 < 256 := Nat.zero_lt_succ 255

theorem zero_lt_clock : 0 < 2 ^ 128 := Nat.two_pow_pos 128

/-- `u8::saturating_add(1)`. -/
def saturatingSucc (n : Fin 256) : Fin 256 := if h : n.val + 1 < 256 then ⟨n.val + 1, h⟩ else n

theorem saturatingSucc_val {n : Fin 256} (below : n.val < 255) :
    (saturatingSucc n).val = n.val + 1 := by
  have small : n.val + 1 < 256 := by omega
  rw [saturatingSucc, dif_pos small]

/-- `value.max(1)` of a byte. -/
def atLeastOne (n : Fin 256) : Fin 256 :=
  ⟨max n.val 1, Nat.max_lt.mpr ⟨n.isLt, Nat.succ_lt_succ (Nat.zero_lt_succ 254)⟩⟩

structure EventEnvelope where
  id : UInt64
  traceId : UInt64
  hopCount : Fin 256
  source : String
  timestampMs : Fin (2 ^ 128)
  event : Event
  deriving DecidableEq

/-- A trace entry has the fields of the envelope it was made from. -/
abbrev EventTrace := EventEnvelope

inductive EventBusError where
  | channelDisconnected | recursionLimitExceeded | alreadyShutdown
  deriving DecidableEq, Repr

structure Subscriber (η : Type) where
  id : UInt64
  handler : η

inductive BusCommand where
  | publish (envelope : EventEnvelope)
  | stop
  deriving DecidableEq

/-- A call of one of the three publishing methods. -/
inductive BusCall where
  | publish (event : Event) (source : String)
  | publishWithTrace (event : Event) (source : String) (traceId : UInt64) (hopCount : Fin 256)
  | continueTrace (parent : EventEnvelope) (event : Event) (source : String)
  deriving DecidableEq

namespace BusCall

def event : BusCall → Event
  | publish event _ | publishWithTrace event _ _ _ | continueTrace _ event _ => event

def source : BusCall → String
  | publish _ source | publishWithTrace _ source _ _ | continueTrace _ _ source => source

/-- The hop count handed to `publish_with_trace`. -/
def hopCount : BusCall → Fin 256
  | publish .. => ⟨0, zero_lt_byte⟩
  | publishWithTrace _ _ _ hopCount => hopCount
  | continueTrace parent _ _ => saturatingSucc parent.hopCount

end BusCall

/-- Where a thread stands in a call on the bus. -/
inductive Phase where
  | idle
  | entered (call : BusCall) (traceId : UInt64)
  | checked (call : BusCall) (traceId : UInt64)
  | sending (call : BusCall) (envelope : EventEnvelope)
  | stopping
  | joining
  deriving DecidableEq

/-- The dispatch thread: waiting for a command, running the handlers of an
envelope (those not entered yet, the calls left in the one it is in, and where
it stands in the current call), past the break with the receiver still alive, or
at its end. -/
inductive Dispatch (η : Type) where
  | receiving
  | handling (envelope : EventEnvelope) (handlers : List η) (script : List BusCall) (phase : Phase)
  | leaving
  | ended

inductive Caller where
  | client (thread : Nat)
  | dispatcher
  deriving DecidableEq

/-- A call that returned: the envelope whose handling made it, if any, the call
and its result, with the envelope that was sent in place of the returned id. -/
structure Outcome where
  cause : Option EventEnvelope
  call : BusCall
  result : Except EventBusError EventEnvelope

/-- `EventBusInner` with the threads that use it. -/
structure EventBus (η : Type) where
  channel : Channel BusCommand
  subscribers : Event → List (Subscriber η)
  traces : List EventTrace
  traceCapacity : Nat
  maxHops : Fin 256
  nextId : UInt64
  active : Bool
  dispatch : Dispatch η
  clients : Nat → Phase
  outcomes : List Outcome
  dispatched : List EventEnvelope

namespace EventBus

variable {η : Type}

def new (queueCapacity : Nat) (maxHops : Fin 256) (traceCapacity : Nat) : EventBus η where
  channel := .empty (max queueCapacity 1) (Nat.lt_of_lt_of_le Nat.zero_lt_one (Nat.le_max_right _ _))
  subscribers _ := []
  traces := []
  traceCapacity := max traceCapacity 1
  maxHops := atLeastOne maxHops
  nextId := 1
  active := true
  dispatch := .receiving
  clients _ := .idle
  outcomes := []
  dispatched := []

def phaseOf (s : EventBus η) : Caller → Phase
  | .client thread => s.clients thread
  | .dispatcher =>
    match s.dispatch with
    | .handling _ _ _ phase => phase
    | .receiving | .leaving | .ended => .idle

def setPhase (s : EventBus η) (caller : Caller) (phase : Phase) : EventBus η :=
  match caller with
  | .client thread => { s with clients := Function.update s.clients thread phase }
  | .dispatcher =>
    match s.dispatch with
    | .handling envelope handlers script _ =>
      { s with dispatch := .handling envelope handlers script phase }
    | .receiving | .leaving | .ended => s

/-- The envelope being handled when the dispatch thread makes a call. -/
def causeOf (s : EventBus η) : Caller → Option EventEnvelope
  | .client _ => none
  | .dispatcher =>
    match s.dispatch with
    | .handling envelope _ _ _ => some envelope
    | .receiving | .leaving | .ended => none

/-- Return from a call. -/
def finishCall (s : EventBus η) (caller : Caller) (call : BusCall)
    (result : Except EventBusError EventEnvelope) : EventBus η :=
  { s with outcomes := s.outcomes ++ [Outcome.mk (s.causeOf caller) call result] }.setPhase caller .idle

/-! ## Subscriptions -/

def subscribe (s : EventBus η) (event : Event) (handler : η) :
    Except EventBusError UInt64 × EventBus η :=
  if !s.active then (.error .alreadyShutdown, s)
  else
    (.ok s.nextId,
      { s with
        nextId := s.nextId + 1
        subscribers := Function.update s.subscribers event
          (s.subscribers event ++ [Subscriber.mk s.nextId handler]) })

/-- An id belongs to one event, so the order in which the map is searched does not matter. -/
def unsubscribe (s : EventBus η) (id : UInt64) : Bool × EventBus η :=
  match Event.all.find? fun event => (s.subscribers event).any (·.id == id) with
  | none => (false, s)
  | some event =>
    (true, { s with
      subscribers := Function.update s.subscribers event
        ((s.subscribers event).eraseP (·.id == id)) })

/-! ## Publishing -/

/-- Enter a publishing method; `publish` takes a fresh trace id first. -/
def enter (s : EventBus η) (caller : Caller) (call : BusCall) : EventBus η :=
  match call with
  | .publish .. => { s with nextId := s.nextId + 1 }.setPhase caller (.entered call s.nextId)
  | .publishWithTrace _ _ traceId _ => s.setPhase caller (.entered call traceId)
  | .continueTrace parent _ _ => s.setPhase caller (.entered call parent.traceId)

def check (s : EventBus η) (caller : Caller) : EventBus η :=
  match s.phaseOf caller with
  | .entered call traceId =>
    if !s.active then s.finishCall caller call (.error .alreadyShutdown)
    else if s.maxHops < call.hopCount then
      s.finishCall caller call (.error .recursionLimitExceeded)
    else s.setPhase caller (.checked call traceId)
  | _ => s

def allocate (s : EventBus η) (caller : Caller) (now : Fin (2 ^ 128)) : EventBus η :=
  match s.phaseOf caller with
  | .checked call traceId =>
    { s with nextId := s.nextId + 1 }.setPhase caller
      (.sending call ⟨s.nextId, traceId, call.hopCount, call.source, now, call.event⟩)
  | _ => s

def send (s : EventBus η) (caller : Caller) : EventBus η :=
  match s.phaseOf caller with
  | .sending call envelope =>
    match s.channel.trySend (.publish envelope) with
    | .accepted channel => { s with channel }.finishCall caller call (.ok envelope)
    | .waiting => s
    | .disconnected => s.finishCall caller call (.error .channelDisconnected)
  | _ => s

/-! ## Shutdown -/

/-- `mark_inactive`; a second shutdown returns at once. -/
def shutdown (s : EventBus η) (thread : Nat) : EventBus η :=
  match s.clients thread with
  | .idle => if s.active then { s with active := false }.setPhase (.client thread) .stopping else s
  | _ => s

def sendStop (s : EventBus η) (thread : Nat) : EventBus η :=
  match s.clients thread with
  | .stopping =>
    match s.channel.trySend .stop with
    | .accepted channel => { s with channel }.setPhase (.client thread) .joining
    | .waiting => s
    | .disconnected => s.setPhase (.client thread) .idle
  | _ => s

def join (s : EventBus η) (thread : Nat) : EventBus η :=
  match s.clients thread, s.dispatch with
  | .joining, .ended => s.setPhase (.client thread) .idle
  | _, _ => s

/-! ## Dispatch thread -/

/-- `traces` keeps the last `traceCapacity` entries. -/
def recordTrace (s : EventBus η) (envelope : EventEnvelope) : EventBus η :=
  let traces := s.traces ++ [envelope]
  { s with traces := traces.drop (traces.length - s.traceCapacity) }

def matchingHandlers (s : EventBus η) (event : Event) : List η :=
  (s.subscribers event).map Subscriber.handler

/-- One turn of the loop up to the first handler; an empty channel times out. -/
def receive (s : EventBus η) : EventBus η :=
  match s.dispatch with
  | .receiving =>
    match s.channel.receive with
    | none => s
    | some (.stop, channel) => { s with channel, dispatch := .leaving }
    | some (.publish envelope, channel) =>
      if s.maxHops < envelope.hopCount then { s with channel }
      else
        { s.recordTrace envelope with
          channel
          dispatch := .handling envelope (s.matchingHandlers envelope.event) [] .idle
          dispatched := s.dispatched ++ [envelope] }
  | _ => s

/-- Enter the next handler, which will make these calls. -/
def invoke (s : EventBus η) (script : List BusCall) : EventBus η :=
  match s.dispatch with
  | .handling envelope (_ :: handlers) [] .idle =>
    { s with dispatch := .handling envelope handlers script .idle }
  | _ => s

/-- Make the next call of the current handler. -/
def proceed (s : EventBus η) : EventBus η :=
  match s.dispatch with
  | .handling envelope handlers (call :: script) .idle =>
    { s with dispatch := .handling envelope handlers script .idle }.enter .dispatcher call
  | _ => s

/-- Back to the head of the loop when all handlers have returned. -/
def finishHandling (s : EventBus η) : EventBus η :=
  match s.dispatch with
  | .handling _ [] [] .idle => { s with dispatch := .receiving }
  | _ => s

/-- Return from `dispatch_loop`, which drops `rx` with what is queued and the clone of the inner
state; the thread is over. -/
def dropReceiver (s : EventBus η) : EventBus η :=
  match s.dispatch with
  | .leaving => { s with channel := s.channel.disconnect, dispatch := .ended }
  | _ => s

/-! ## Steps -/

inductive Label (η : Type) where
  | subscribe (event : Event) (handler : η)
  | unsubscribe (id : UInt64)
  | call (thread : Nat) (call : BusCall)
  | check (caller : Caller)
  | allocate (caller : Caller) (now : Fin (2 ^ 128))
  | send (caller : Caller)
  | shutdown (thread : Nat)
  | sendStop (thread : Nat)
  | join (thread : Nat)
  | receive
  | invoke (script : List BusCall)
  | proceed
  | finishHandling
  | dropReceiver

def step (s : EventBus η) : Label η → EventBus η
  | .subscribe event handler => (s.subscribe event handler).2
  | .unsubscribe id => (s.unsubscribe id).2
  | .call thread call => if s.clients thread = .idle then s.enter (.client thread) call else s
  | .check caller => s.check caller
  | .allocate caller now => s.allocate caller now
  | .send caller => s.send caller
  | .shutdown thread => s.shutdown thread
  | .sendStop thread => s.sendStop thread
  | .join thread => s.join thread
  | .receive => s.receive
  | .invoke script => s.invoke script
  | .proceed => s.proceed
  | .finishHandling => s.finishHandling
  | .dropReceiver => s.dropReceiver

/-- Envelopes whose publishing call returned `Ok`, in the order of the returns. -/
def accepted (s : EventBus η) : List EventEnvelope :=
  s.outcomes.filterMap fun outcome => outcome.result.toOption

end EventBus

/-- The envelopes among the commands. -/
def envelopesOf (commands : List BusCommand) : List EventEnvelope :=
  commands.filterMap fun
    | .publish envelope => some envelope
    | .stop => none

end Apcos.Source.Supervisor
