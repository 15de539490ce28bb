import Apcos.Source.Supervisor.BusEffects

/-!
# The dispatch thread and its own queue

os/src/event_bus.rs:158-197 and 261-292. The dispatch thread is the only
consumer of the bounded channel and runs the handlers itself. A handler whose
call passes the hop check sends on the same channel; other threads can fill it
first, and then the thread waits for room that only it could make. It never
waits exactly when no handler makes a call within the hop limit.
-/
namespace Apcos.Guarantees.BusBlocking

open Apcos.Lib
open Apcos.Source.Supervisor
open Apcos.Source.Supervisor.EventBus

variable {η : Type} {may : η → EventEnvelope → List BusCall → Prop}

/-- A handler that is entered makes calls it may make. -/
def Conforms (may : η → EventEnvelope → List BusCall → Prop) (s : EventBus η) (label : Label η) :
    Prop :=
  ∀ script envelope handler handlers, label = .invoke script →
    s.dispatch = .handling envelope (handler :: handlers) [] .idle → may handler envelope script

/-- The dispatch thread waits inside a handler's send on a full channel. -/
def Blocked (s : EventBus η) : Prop :=
  ∃ envelope handlers script call made,
    s.dispatch = .handling envelope handlers script (.sending call made) ∧ s.channel.Full

/-- No handler that receives an envelope within the limit makes a call within it. -/
def NeverRepublishes (may : η → EventEnvelope → List BusCall → Prop) (limit : Fin 256) : Prop :=
  ∀ handler envelope script, envelope.hopCount ≤ limit → may handler envelope script →
    ∀ call ∈ script, limit < call.hopCount

/-! ## Without such a call the thread never sends -/

def PhaseRefused (limit : Fin 256) : Phase → Prop
  | .entered call _ => limit < call.hopCount
  | .checked .. | .sending .. => False
  | _ => True

def DispatchRefused (limit : Fin 256) : Dispatch η → Prop
  | .handling envelope _ script phase =>
    envelope.hopCount ≤ limit ∧ (∀ call ∈ script, limit < call.hopCount) ∧ PhaseRefused limit phase
  | _ => True

/-- The dispatch thread has nothing within the limit to send. -/
structure Refused (limit : Fin 256) (s : EventBus η) : Prop where
  limited : s.maxHops = limit
  dispatch : DispatchRefused limit s.dispatch

/-- Where no handler may republish, the dispatch thread only makes calls that are refused. -/
theorem step_dispatchRefused {s : EventBus η} {label : Label η}
    (never : NeverRepublishes may s.maxHops) (conforms : Conforms may s label)
    (before : DispatchRefused s.maxHops s.dispatch) :
    DispatchRefused s.maxHops (s.step label).dispatch := by
  cases s.step_dispatch label with
  | same unmoved =>
    rw [unmoved]
    exact before
  | outside beyond =>
    rcases beyond with receiving | leaving | ended
    · rw [receiving]
      trivial
    · rw [leaving]
      trivial
    · rw [ended]
      trivial
  | opened envelope within fresh =>
    rw [fresh]
    exact ⟨Fin.not_lt.mp within, by simp, trivial⟩
  | invoked envelope handler handlers script named running entered =>
    have made := conforms script envelope handler handlers named running
    rw [running] at before
    rw [entered]
    exact ⟨before.1, never handler envelope script before.1 made, trivial⟩
  | proceeded envelope handlers call script traceId running entered =>
    rw [running] at before
    rw [entered]
    exact ⟨before.1, fun c member => before.2.1 c (List.mem_cons_of_mem call member),
      before.2.1 call List.mem_cons_self⟩
  | returned envelope handlers script phase running idle =>
    rw [running] at before
    rw [idle]
    exact ⟨before.1, before.2.1, trivial⟩
  | checked envelope handlers script call traceId within running passed =>
    rw [running] at before
    exact absurd before.2.2 within
  | allocated envelope handlers script call traceId made running holds =>
    rw [running] at before
    exact before.2.2.elim

theorem step_refused {limit : Fin 256} (never : NeverRepublishes may limit) (s : EventBus η)
    (label : Label η) (before : Refused limit s) (conforms : Conforms may s label) :
    Refused limit (s.step label) := by
  obtain ⟨rfl, refused⟩ := before
  exact ⟨s.step_maxHops label, step_dispatchRefused never conforms refused⟩

/-! ## With one, publishers can fill the channel first -/

/-- The bus is open and client 0 is not in a call. -/
structure Ready (s : EventBus η) : Prop where
  active : s.active = true
  connected : s.channel.connected = true
  client : s.clients 0 = .idle

theorem conforms_other {s : EventBus η} {label : Label η} (other : ∀ script, label ≠ .invoke script) :
    Conforms may s label := by
  intro script envelope handler handlers named
  exact absurd named (other script)

/-- Client 0 publishes through all four steps. -/
def publication (call : BusCall) (now : Fin (2 ^ 128)) : List (Label η) :=
  [.call 0 call, .check (.client 0), .allocate (.client 0) now, .send (.client 0)]

theorem publication_conforms (s : EventBus η) (call : BusCall) (now : Fin (2 ^ 128)) :
    Along step (Conforms may) s (publication call now) :=
  ⟨conforms_other nofun, conforms_other nofun, conforms_other nofun, conforms_other nofun, trivial⟩

/-- A publication within the limit reaches a state that differs in the channel and the logs. -/
theorem publication_reaches {s : EventBus η} (ready : Ready s) (event : Event) (source : String)
    (traceId : UInt64) {hopCount : Fin 256} (within : ¬s.maxHops < hopCount) (now : Fin (2 ^ 128))
    (room : s.channel.items.length < s.channel.capacity) :
    ∃ s', Reaches step (Conforms may) s s' ∧ Ready s' ∧ s'.dispatch = s.dispatch ∧
      s'.subscribers = s.subscribers ∧ s'.maxHops = s.maxHops ∧
      s'.channel = s.channel.push
        (.publish ⟨s.nextId, traceId, hopCount, source, now, event⟩) room := by
  let envelope : EventEnvelope := ⟨s.nextId, traceId, hopCount, source, now, event⟩
  let call : BusCall := .publishWithTrace event source traceId hopCount
  have returned : Function.update s.clients 0 .idle = s.clients := by
    rw [← ready.client]
    exact Function.update_eq_self 0 s.clients
  have state : run step s (publication call now) =
      { s with
        channel := s.channel.push (.publish envelope) room
        nextId := s.nextId + 1
        outcomes := s.outcomes ++ [⟨none, call, .ok envelope⟩] } := by
    simp [publication, step, ready.client, enter, setPhase, check, phaseOf, ready.active, within,
      BusCall.hopCount, BusCall.source, BusCall.event, allocate, send,
      Channel.trySend_of_room _ ready.connected room, finishCall, causeOf, returned, call, envelope]
  refine ⟨_, ⟨publication call now, publication_conforms s call now, state⟩, ?_, rfl, rfl, rfl, rfl⟩
  exact ⟨ready.active, ready.connected, ready.client⟩

def firstHop : Fin 256 := ⟨0, zero_lt_byte⟩

def epoch : Fin (2 ^ 128) := ⟨0, zero_lt_clock⟩

theorem not_lt_firstHop (limit : Fin 256) : ¬limit < firstHop := Nat.not_lt_zero limit.val

/-- Publishing until there is no room left, whatever the dispatch thread is doing. -/
theorem channel_fills {s : EventBus η} (ready : Ready s) :
    ∃ s', Reaches step (Conforms may) s s' ∧ s'.dispatch = s.dispatch ∧ s'.channel.Full := by
  generalize left : s.channel.capacity - s.channel.items.length = n
  induction n generalizing s with
  | zero =>
    have fits := s.channel.fits
    have full : s.channel.Full := by
      unfold Channel.Full
      omega
    exact ⟨s, .refl s, rfl, full⟩
  | succ n ih =>
    have room : s.channel.items.length < s.channel.capacity := by omega
    obtain ⟨s', reached, ready', same, -, -, channel⟩ := publication_reaches ready .batteryLow
      "monitor" 0 (not_lt_firstHop s.maxHops) epoch room
    have fewer : s'.channel.capacity - s'.channel.items.length = n := by
      rw [channel, Channel.push_items, Channel.push_capacity, List.length_append,
        List.length_singleton]
      omega
    obtain ⟨s'', further, same', full⟩ := ih ready' fewer
    exact ⟨s'', reached.trans further, same'.trans same, full⟩

/-! ### To the first call that passes the check -/

/-- A call beyond the limit returns at the check. -/
theorem refused_call {s : EventBus η} (ready : Ready s) {envelope : EventEnvelope}
    {handlers : List η} {call : BusCall} {script : List BusCall}
    (running : s.dispatch = .handling envelope handlers (call :: script) .idle)
    (beyond : s.maxHops < call.hopCount) :
    ∃ s', Reaches step (Conforms may) s s' ∧ Ready s' ∧ s'.maxHops = s.maxHops ∧
      s'.dispatch = .handling envelope handlers script .idle := by
  have conforming : Along step (Conforms may) s [.proceed, .check .dispatcher] :=
    ⟨conforms_other nofun, conforms_other nofun, trivial⟩
  have state : ∃ nextId, run step s [.proceed, .check .dispatcher] =
      { s with
        nextId
        dispatch := .handling envelope handlers script .idle
        outcomes := s.outcomes ++ [⟨some envelope, call, .error .recursionLimitExceeded⟩] } := by
    cases call <;>
      simp [step, proceed, running, enter, setPhase, check, phaseOf, ready.active, beyond, finishCall,
        causeOf]
  obtain ⟨nextId, state⟩ := state
  exact ⟨_, ⟨_, conforming, state⟩, ⟨ready.active, ready.connected, ready.client⟩, rfl, rfl⟩

/-- A call within the limit gets as far as its send. -/
theorem passed_call {s : EventBus η} (ready : Ready s) {envelope : EventEnvelope}
    {handlers : List η} {call : BusCall} {script : List BusCall}
    (running : s.dispatch = .handling envelope handlers (call :: script) .idle)
    (within : ¬s.maxHops < call.hopCount) :
    ∃ s' made, Reaches step (Conforms may) s s' ∧ Ready s' ∧
      s'.dispatch = .handling envelope handlers script (.sending call made) := by
  let labels : List (Label η) := [.proceed, .check .dispatcher, .allocate .dispatcher epoch]
  have conforming : Along step (Conforms may) s labels :=
    ⟨conforms_other nofun, conforms_other nofun, conforms_other nofun, trivial⟩
  have state : ∃ nextId made, run step s labels =
      { s with
        nextId
        dispatch := .handling envelope handlers script (.sending call made) } := by
    cases call <;>
      simp [labels, step, proceed, running, enter, setPhase, check, phaseOf, ready.active, within,
        allocate]
  obtain ⟨nextId, made, state⟩ := state
  exact ⟨_, made, ⟨labels, conforming, state⟩, ⟨ready.active, ready.connected, ready.client⟩, rfl⟩

/-- A handler with a call within the limit comes to a send. -/
theorem script_sends {s : EventBus η} (ready : Ready s) {envelope : EventEnvelope}
    {handlers : List η} {script : List BusCall}
    (running : s.dispatch = .handling envelope handlers script .idle)
    (within : ∃ call ∈ script, ¬s.maxHops < call.hopCount) :
    ∃ s' rest call made, Reaches step (Conforms may) s s' ∧ Ready s' ∧
      s'.dispatch = .handling envelope handlers rest (.sending call made) := by
  induction script generalizing s with
  | nil =>
    obtain ⟨call, member, -⟩ := within
    exact absurd member List.not_mem_nil
  | cons call rest ih =>
    by_cases beyond : s.maxHops < call.hopCount
    · obtain ⟨s', reached, ready', limit, running'⟩ := refused_call ready running beyond
      have within' : ∃ call ∈ rest, ¬s'.maxHops < call.hopCount := by
        obtain ⟨other, member, passes⟩ := within
        rw [limit]
        refine ⟨other, (List.mem_cons.mp member).resolve_left ?_, passes⟩
        intro same
        exact passes (same ▸ beyond)
      obtain ⟨s'', later, call', made, further, rest⟩ := ih ready' running' within'
      exact ⟨s'', later, call', made, reached.trans further, rest⟩
    · obtain ⟨s', made, reached, rest'⟩ := passed_call ready running beyond
      exact ⟨s', rest, call, made, reached, rest'⟩

/-! ### To the handler and its envelope -/

variable (may) in
/-- Subscriptions to another event bring the id counter anywhere. -/
theorem counter_advances {s : EventBus η} (ready : Ready s) {event other : Event}
    (different : event ≠ other) (handler : η) (count : Nat) :
    ∃ s', Reaches step (Conforms may) s s' ∧ Ready s' ∧ s'.maxHops = s.maxHops ∧
      s'.dispatch = s.dispatch ∧ s'.channel = s.channel ∧
      s'.subscribers event = s.subscribers event ∧
      s'.nextId = s.nextId + UInt64.ofNat count := by
  induction count with
  | zero => exact ⟨s, .refl s, ready, rfl, rfl, rfl, rfl, (UInt64.add_zero s.nextId).symm⟩
  | succ count ih =>
    obtain ⟨s', reached, ready', limit, same, channel, subscribers, counted⟩ := ih
    have state : run step s' [.subscribe other handler] =
        { s' with
          nextId := s'.nextId + 1
          subscribers := Function.update s'.subscribers other
            (s'.subscribers other ++ [Subscriber.mk s'.nextId handler]) } := by
      simp [step, subscribe, ready'.active]
    have conforming : Along step (Conforms may) s' [.subscribe other handler] :=
      ⟨conforms_other (by simp), trivial⟩
    refine ⟨_, reached.trans ⟨_, conforming, state⟩,
      ⟨ready'.active, ready'.connected, ready'.client⟩, limit, same, channel, ?_, ?_⟩
    · exact (Function.update_of_ne different ..).trans subscribers
    · show s'.nextId + 1 = _
      rw [counted, UInt64.ofNat_add, UInt64.add_assoc]
      rfl

theorem exists_other (event : Event) : ∃ other, event ≠ other := by
  cases event with
  | batteryLow => exact ⟨.thermalHigh, nofun⟩
  | _ => exact ⟨.batteryLow, nofun⟩

variable (may) in
/-- The first subscription of a fresh bus. -/
theorem subscription_reaches (queueCapacity : Nat) (maxHops : Fin 256) (traceCapacity : Nat)
    (event : Event) (handler : η) :
    ∃ s', Reaches step (Conforms may) (new queueCapacity maxHops traceCapacity) s' ∧ Ready s' ∧
      s'.maxHops = atLeastOne maxHops ∧ s'.dispatch = .receiving ∧ s'.channel.items = [] ∧
      s'.matchingHandlers event = [handler] := by
  have conforming : Along step (Conforms may) (new queueCapacity maxHops traceCapacity)
      [.subscribe event handler] :=
    ⟨conforms_other nofun, trivial⟩
  refine ⟨_, .of_along conforming, ⟨rfl, rfl, rfl⟩, rfl, rfl, rfl, ?_⟩
  simp [step, subscribe, new, matchingHandlers]

/-- The dispatch thread takes the only envelope of the channel to its only handler. -/
theorem delivery_reaches {s : EventBus η} (ready : Ready s) (receiving : s.dispatch = .receiving)
    {envelope : EventEnvelope} (queued : s.channel.items = [.publish envelope]) {handler : η}
    (subscribed : s.matchingHandlers envelope.event = [handler])
    (within : ¬s.maxHops < envelope.hopCount) {script : List BusCall}
    (made : may handler envelope script) :
    ∃ s', Reaches step (Conforms may) s s' ∧ Ready s' ∧ s'.maxHops = s.maxHops ∧
      s'.dispatch = .handling envelope [] script .idle := by
  let opened : EventBus η :=
    { s.recordTrace envelope with
      channel := s.channel.rest
      dispatch := .handling envelope [handler] [] .idle
      dispatched := s.dispatched ++ [envelope] }
  have received : s.step .receive = opened := by
    simp [step, receive, receiving, Channel.receive_cons queued, within, subscribed, opened]
  have entering : Conforms may opened (.invoke script) := by
    intro script' envelope' handler' handlers named running
    cases named
    cases running
    exact made
  rw [← received] at entering
  have conforming : Along step (Conforms may) s [.receive, .invoke script] :=
    ⟨conforms_other (by simp), entering, trivial⟩
  have state : run step s [.receive, .invoke script] =
      { opened with dispatch := .handling envelope [] script .idle } := by
    rw [run_cons, received]
    rfl
  exact ⟨_, ⟨_, conforming, state⟩, ⟨ready.active, ready.connected, ready.client⟩, rfl, rfl⟩

/-- Any handler comes to handle any envelope within the limit. -/
theorem handler_entered (queueCapacity : Nat) (maxHops : Fin 256) (traceCapacity : Nat) {handler : η}
    {envelope : EventEnvelope} {script : List BusCall} (within : envelope.hopCount ≤ atLeastOne maxHops)
    (made : may handler envelope script) :
    ∃ s', Reaches step (Conforms may) (new queueCapacity maxHops traceCapacity) s' ∧ Ready s' ∧
      s'.maxHops = atLeastOne maxHops ∧ s'.dispatch = .handling envelope [] script .idle := by
  obtain ⟨other, different⟩ := exists_other envelope.event
  obtain ⟨s₁, first, ready₁, limit₁, receiving₁, empty₁, subscribed₁⟩ :=
    subscription_reaches may queueCapacity maxHops traceCapacity envelope.event handler
  obtain ⟨s₂, second, ready₂, limit₂, receiving₂, channel₂, subscribed₂, counted⟩ :=
    counter_advances may ready₁ different handler (envelope.id - s₁.nextId).toNat
  have next : s₂.nextId = envelope.id := by
    rw [counted, UInt64.ofNat_toNat, UInt64.add_comm, UInt64.sub_add_cancel]
  have within₂ : ¬s₂.maxHops < envelope.hopCount := by
    rw [limit₂, limit₁]
    exact Fin.not_lt.mpr within
  have empty₂ : s₂.channel.items = [] := by
    rw [channel₂, empty₁]
  have room : s₂.channel.items.length < s₂.channel.capacity := by
    rw [empty₂]
    exact s₂.channel.positive
  obtain ⟨s₃, third, ready₃, dispatch₃, subscribed₃, limit₃, channel₃⟩ :=
    publication_reaches ready₂ envelope.event envelope.source envelope.traceId within₂
      envelope.timestampMs room
  have queued : s₃.channel.items = [.publish envelope] := by
    rw [channel₃, Channel.push_items, empty₂, next]
    rfl
  have handlers : s₃.matchingHandlers envelope.event = [handler] := by
    rw [matchingHandlers, subscribed₃, subscribed₂]
    exact subscribed₁
  rw [← limit₃] at within₂
  obtain ⟨s₄, fourth, ready₄, limit₄, running⟩ := delivery_reaches ready₃
    (dispatch₃.trans (receiving₂.trans receiving₁)) queued handlers within₂ made
  have limit : s₄.maxHops = atLeastOne maxHops := limit₄.trans (limit₃.trans (limit₂.trans limit₁))
  exact ⟨s₄, ((first.trans second).trans third).trans fourth, ready₄, limit, running⟩

/-- Whatever the capacities, the dispatch thread of a bus with hop limit `maxHops` never waits in
a handler's send exactly when no handler makes a call within the limit. -/
theorem never_blocked_iff (queueCapacity : Nat) (maxHops : Fin 256) (traceCapacity : Nat)
    (may : η → EventEnvelope → List BusCall → Prop) :
    (∀ labels, Along step (Conforms may) (new queueCapacity maxHops traceCapacity) labels →
        ¬Blocked (run step (new queueCapacity maxHops traceCapacity) labels)) ↔
      NeverRepublishes may (atLeastOne maxHops) := by
  constructor
  · intro never handler envelope script within made call member
    by_contra passes
    obtain ⟨s₁, first, ready₁, limit, running⟩ :=
      handler_entered queueCapacity maxHops traceCapacity within made
    rw [← limit] at passes
    obtain ⟨s₂, rest, call', made', second, ready₂, sending⟩ :=
      script_sends ready₁ running ⟨call, member, passes⟩
    obtain ⟨s₃, third, same, full⟩ := channel_fills ready₂
    obtain ⟨labels, conforming, state⟩ := (first.trans second).trans third
    rw [← state] at same full
    exact never labels conforming ⟨envelope, [], rest, call', made', same.trans sending, full⟩
  · intro never labels conforming blocked
    have refused := run_invariant_along (step_refused never)
      (new queueCapacity maxHops traceCapacity) ⟨rfl, trivial⟩ labels conforming
    obtain ⟨envelope, handlers, script, call, made, sending, -⟩ := blocked
    have none := refused.dispatch
    rw [sending] at none
    exact none.2.2

/-- A handler that continues the trace of every envelope once. -/
def echoes (_ : Unit) (envelope : EventEnvelope) (script : List BusCall) : Prop :=
  script = [.continueTrace envelope .thermalHigh "echo"]

def firstReading : EventEnvelope := ⟨2, 7, firstHop, "power", epoch, .batteryLow⟩

/-- The handler of the first reading is about to send when the second one takes the only slot. -/
def readingDuringEcho : List (Label Unit) :=
  [.subscribe .batteryLow ()] ++ publication (.publishWithTrace .batteryLow "power" 7 firstHop) epoch ++
    [.receive, .invoke [.continueTrace firstReading .thermalHigh "echo"], .proceed,
      .check .dispatcher, .allocate .dispatcher epoch] ++
    publication (.publishWithTrace .batteryLow "power" 7 firstHop) epoch

theorem echo_blocks_dispatch :
    Along step (Conforms echoes) (new 1 2 16) readingDuringEcho ∧
      Blocked (run step (new 1 2 16) readingDuringEcho) := by
  constructor
  · refine ⟨conforms_other nofun, conforms_other nofun, conforms_other nofun, conforms_other nofun,
      conforms_other nofun, conforms_other nofun, ?_, conforms_other nofun, conforms_other nofun,
      conforms_other nofun, publication_conforms _ _ _⟩
    intro script envelope handler handlers named running
    cases named
    cases running
    rfl
  · exact ⟨firstReading, [], [], .continueTrace firstReading .thermalHigh "echo",
      ⟨3, 7, 1, "echo", epoch, .thermalHigh⟩, rfl, rfl⟩

end Apcos.Guarantees.BusBlocking
