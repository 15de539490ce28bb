import Apcos.Source.Supervisor.BusEffects

/-!
# Recursion protection

os/src/event_bus.rs:89-112 and 158-197. Handlers re-publish through
`continue_trace` on the envelope they received, which adds one hop; a call
beyond the limit is refused. The hop count is a saturating byte and the
comparison is strict, so the limit 255 is never exceeded and a trace can be
continued for ever; below it a chain has at most one member for each hop.
-/
namespace Apcos.Guarantees.BusRecursion

open Apcos.Lib
open Apcos.Source.Supervisor
open Apcos.Source.Supervisor.EventBus

variable {η : Type}

/-- The call continues the trace of this envelope. -/
def ContinuesFrom (parent : EventEnvelope) (call : BusCall) : Prop :=
  ∃ event source, call = .continueTrace parent event source

/-- A handler that is entered re-publishes only by continuing the envelope it received. -/
def OnlyContinues (s : EventBus η) (label : Label η) : Prop :=
  ∀ script envelope handler handlers, label = .invoke script →
    s.dispatch = .handling envelope (handler :: handlers) [] .idle →
    ∀ call ∈ script, ContinuesFrom envelope call

/-- The envelope `child` was sent while `parent` was handled. -/
def Caused (s : EventBus η) (parent child : EventEnvelope) : Prop :=
  ∃ o ∈ s.outcomes, o.cause = some parent ∧ o.result = .ok child

/-- A chain of causes that starts with a `publish`, the latest envelope first. -/
inductive CausalChain (s : EventBus η) : List EventEnvelope → Prop where
  | root (o : Outcome) (envelope : EventEnvelope) (event : Event) (source : String)
      (returned : o ∈ s.outcomes) (client : o.cause = none) (call : o.call = .publish event source)
      (accepted : o.result = .ok envelope) : CausalChain s [envelope]
  | next (parent child : EventEnvelope) (earlier : List EventEnvelope)
      (chain : CausalChain s (parent :: earlier)) (link : Caused s parent child) :
      CausalChain s (child :: parent :: earlier)

/-! ## Causes are continued traces -/

def PhaseContinues (parent : EventEnvelope) : Phase → Prop
  | .entered call _ | .checked call _ | .sending call _ => ContinuesFrom parent call
  | _ => True

def DispatchContinues : Dispatch η → Prop
  | .handling envelope _ script phase =>
    (∀ call ∈ script, ContinuesFrom envelope call) ∧ PhaseContinues envelope phase
  | _ => True

structure Continuing (s : EventBus η) : Prop where
  within : WithinLimit s
  dispatch : DispatchContinues s.dispatch
  causes : ∀ o ∈ s.outcomes, ∀ parent, o.cause = some parent → ContinuesFrom parent o.call

theorem continuing_new (queueCapacity : Nat) (maxHops : Fin 256) (traceCapacity : Nat) :
    Continuing (new queueCapacity maxHops traceCapacity : EventBus η) where
  within := withinLimit_new queueCapacity maxHops traceCapacity
  dispatch := trivial
  causes o member := by cases member

/-- The dispatch thread only enters calls that continue what it handles. -/
theorem dispatch_continues (s : EventBus η) (label : Label η) (inv : Continuing s)
    (only : OnlyContinues s label) : DispatchContinues (s.step label).dispatch := by
  have before := inv.dispatch
  cases s.step_dispatch label with
  | same unmoved =>
    rw [unmoved]
    exact before
  | outside beyond =>
    rcases beyond with receiving | leaving | ended
    · rw [receiving]
      trivial
    · rw [leaving]
      trivial
    · rw [ended]
      trivial
  | opened envelope within fresh =>
    rw [fresh]
    exact ⟨by simp, trivial⟩
  | invoked envelope handler handlers script named running entered =>
    rw [entered]
    exact ⟨only script envelope handler handlers named running, trivial⟩
  | proceeded envelope handlers call script traceId running entered =>
    rw [running] at before
    rw [entered]
    exact ⟨fun c member => before.1 c (List.mem_cons_of_mem call member),
      before.1 call List.mem_cons_self⟩
  | returned envelope handlers script phase running idle =>
    rw [running] at before
    rw [idle]
    exact ⟨before.1, trivial⟩
  | checked envelope handlers script call traceId within running passed =>
    rw [running] at before
    rw [passed]
    exact before
  | allocated envelope handlers script call traceId made running holds =>
    rw [running] at before
    rw [holds]
    exact before

/-- A call in which the dispatch thread is continues the envelope it handles. -/
theorem cause_continues {s : EventBus η} (inv : Continuing s) {caller : Caller} {call : BusCall}
    (inCall : (∃ traceId, s.phaseOf caller = .entered call traceId) ∨
      ∃ envelope, s.phaseOf caller = .sending call envelope)
    (parent : EventEnvelope) (cause : s.causeOf caller = some parent) : ContinuesFrom parent call := by
  cases caller with
  | client thread => cases cause
  | dispatcher =>
    have continues := inv.dispatch
    unfold causeOf at cause
    unfold phaseOf at inCall
    cases running : s.dispatch with
    | receiving => simp [running] at cause
    | leaving => simp [running] at cause
    | ended => simp [running] at cause
    | handling envelope handlers script phase =>
      simp only [running, Option.some.injEq] at cause inCall continues
      subst cause
      rcases inCall with ⟨traceId, entered⟩ | ⟨made, sending⟩
      · rw [entered] at continues
        exact continues.2
      · rw [sending] at continues
        exact continues.2

theorem step_continuing (s : EventBus η) (label : Label η) (inv : Continuing s)
    (only : OnlyContinues s label) : Continuing (s.step label) := by
  refine ⟨inv.within.step label, dispatch_continues s label inv only, ?_⟩
  cases s.step_returns label with
  | none unchanged =>
    rw [unchanged]
    exact inv.causes
  | one caller call result inCall appended =>
    rw [appended]
    intro o member parent cause
    rcases List.mem_append.mp member with earlier | here
    · exact inv.causes o earlier parent cause
    · rw [List.mem_singleton] at here
      subst here
      exact cause_continues inv inCall parent cause

/-! ## The bound below 255 -/

theorem chain_members_within {s : EventBus η} (inv : Continuing s) {chain : List EventEnvelope}
    (causal : CausalChain s chain) : ∀ e ∈ chain, e.hopCount ≤ s.maxHops := by
  induction causal with
  | root o envelope event source returned client call accepted =>
    intro e member
    rw [List.mem_singleton] at member
    rw [member]
    exact (inv.within.outcomes o returned envelope accepted).2
  | next parent child earlier chain link ih =>
    intro e member
    rcases List.mem_cons.mp member with here | before
    · obtain ⟨o, returned, -, accepted⟩ := link
      rw [here]
      exact (inv.within.outcomes o returned child accepted).2
    · exact ih e before

/-- Below 255 each member of a chain is one hop beyond the one before it. -/
theorem chain_hops {s : EventBus η} (inv : Continuing s) (below : s.maxHops.val < 255)
    {chain : List EventEnvelope} (causal : CausalChain s chain) :
    ∀ latest earlier, chain = latest :: earlier → earlier.length ≤ latest.hopCount.val := by
  induction causal with
  | root o envelope event source returned client call accepted =>
    intro latest earlier shape
    cases shape
    exact Nat.zero_le _
  | next parent child earlier chain link ih =>
    intro latest rest shape
    cases shape
    have hops := ih parent earlier rfl
    have within : parent.hopCount.val ≤ s.maxHops.val :=
      chain_members_within inv chain parent List.mem_cons_self
    obtain ⟨o, returned, cause, accepted⟩ := link
    obtain ⟨event, source, call⟩ := inv.causes o returned parent cause
    have hop := (inv.within.outcomes o returned child accepted).1
    rw [call, BusCall.hopCount] at hop
    have next : child.hopCount.val = parent.hopCount.val + 1 := by
      rw [hop]
      exact saturatingSucc_val (by omega)
    rw [List.length_cons]
    omega

theorem chain_length_le {s : EventBus η} (inv : Continuing s) (below : s.maxHops.val < 255)
    {chain : List EventEnvelope} (causal : CausalChain s chain) :
    chain.length ≤ s.maxHops.val + 1 := by
  have members := chain_members_within inv causal
  cases chain with
  | nil => exact Nat.zero_le _
  | cons latest earlier =>
    have hops := chain_hops inv below causal latest earlier rfl
    have limit : latest.hopCount.val ≤ s.maxHops.val := members latest List.mem_cons_self
    rw [List.length_cons]
    omega

/-! ## An endless trace at 255 -/

def epoch : Fin (2 ^ 128) := ⟨0, zero_lt_clock⟩

/-- The answer of a handler that continues every trace. -/
def reply (last : EventEnvelope) : BusCall := .continueTrace last .batteryLow "echo"

/-- One turn of the dispatch loop with such a handler. -/
def turn (last : EventEnvelope) : List (Label Unit) :=
  [.receive, .invoke [reply last], .proceed, .check .dispatcher, .allocate .dispatcher epoch,
    .send .dispatcher, .finishHandling]

/-- The loop is about to take the only queued envelope, to which one handler is subscribed. -/
structure Looping (s : EventBus Unit) (last : EventEnvelope) : Prop where
  receiving : s.dispatch = .receiving
  items : s.channel.items = [.publish last]
  connected : s.channel.connected = true
  active : s.active = true
  limit : s.maxHops.val = 255
  event : last.event = .batteryLow
  subscribed : s.matchingHandlers .batteryLow = [()]

/-- The envelope the handler sends on. -/
def echo (s : EventBus Unit) (last : EventEnvelope) : EventEnvelope :=
  ⟨s.nextId, last.traceId, saturatingSucc last.hopCount, "echo", epoch, .batteryLow⟩

/-- One turn of the loop leaves the bus as it was, with the next envelope in the channel and one
trace more. -/
theorem turn_state {s : EventBus Unit} {last : EventEnvelope} (loop : Looping s last) :
    run step s (turn last) =
      { s.recordTrace last with
        channel := s.channel.rest.push (.publish (echo s last)) (by
          rw [Channel.rest_items, loop.items]
          exact s.channel.positive)
        nextId := s.nextId + 1
        dispatch := .receiving
        outcomes := s.outcomes ++ [⟨some last, reply last, .ok (echo s last)⟩]
        dispatched := s.dispatched ++ [last] } := by
  have inLimit : ∀ n : Fin 256, ¬s.maxHops < n := by
    intro n beyond
    have top : s.maxHops.val < n.val := beyond
    have := loop.limit
    omega
  have room : s.channel.rest.items.length < s.channel.rest.capacity := by
    rw [Channel.rest_items, loop.items]
    exact s.channel.positive
  have attached : s.channel.rest.connected = true := loop.connected
  simp [turn, step, receive, loop.receiving, Channel.receive_cons loop.items, inLimit, loop.event,
    loop.subscribed, recordTrace, invoke, proceed, reply, enter, setPhase, check, phaseOf,
    loop.active, allocate, send, Channel.trySend_of_room _ attached room, finishCall, causeOf,
    finishHandling, echo, BusCall.hopCount, BusCall.source, BusCall.event]

theorem turn_looping {s : EventBus Unit} {last : EventEnvelope} (loop : Looping s last) :
    Looping (run step s (turn last)) (echo s last) := by
  rw [turn_state loop]
  refine ⟨rfl, ?_, loop.connected, loop.active, loop.limit, rfl, loop.subscribed⟩
  rw [Channel.push_items, Channel.rest_items, loop.items]
  rfl

theorem onlyContinues_other {s : EventBus η} {label : Label η}
    (other : ∀ script, label ≠ .invoke script) : OnlyContinues s label := by
  intro script envelope handler handlers named
  exact absurd named (other script)

theorem turn_continues {s : EventBus Unit} {last : EventEnvelope} (loop : Looping s last) :
    Along step OnlyContinues s (turn last) := by
  have opened : (s.step .receive).dispatch = .handling last [()] [] .idle := by
    have inLimit : ¬s.maxHops < last.hopCount := by
      intro beyond
      have top : s.maxHops.val < last.hopCount.val := beyond
      have := loop.limit
      omega
    simp [step, receive, loop.receiving, Channel.receive_cons loop.items, inLimit, loop.event,
      loop.subscribed]
  refine ⟨onlyContinues_other (by simp), ?_, onlyContinues_other (by simp), onlyContinues_other (by simp),
    onlyContinues_other (by simp), onlyContinues_other (by simp), onlyContinues_other (by simp), trivial⟩
  intro script envelope handler handlers named running call member
  cases named
  rw [opened] at running
  cases running
  rw [List.mem_singleton] at member
  exact ⟨.batteryLow, "echo", member⟩

theorem causalChain_mono {s s' : EventBus η} {more : List Outcome}
    (grown : s'.outcomes = s.outcomes ++ more) {chain : List EventEnvelope}
    (causal : CausalChain s chain) : CausalChain s' chain := by
  induction causal with
  | root o envelope event source returned client call accepted =>
    refine .root o envelope event source ?_ client call accepted
    rw [grown]
    exact List.mem_append_left more returned
  | next parent child earlier chain link ih =>
    obtain ⟨o, returned, cause, accepted⟩ := link
    refine .next parent child earlier ih ⟨o, ?_, cause, accepted⟩
    rw [grown]
    exact List.mem_append_left more returned

/-- A handler subscribes and a client publishes once. -/
def opening : List (Label Unit) :=
  [.subscribe .batteryLow (), .call 0 (.publish .batteryLow "monitor"), .check (.client 0),
    .allocate (.client 0) epoch, .send (.client 0)]

/-- At the limit 255 one `publish` is continued any number of times. -/
theorem trace_continues (n : Nat) :
    ∃ labels last earlier, Along step OnlyContinues (new 1 255 1) labels ∧
      Looping (run step (new 1 255 1) labels) last ∧
      CausalChain (run step (new 1 255 1) labels) (last :: earlier) ∧ earlier.length = n := by
  induction n with
  | zero =>
    refine ⟨opening, ⟨3, 2, 0, "monitor", epoch, .batteryLow⟩, [], ?_, ?_, ?_, rfl⟩
    · exact ⟨onlyContinues_other nofun, onlyContinues_other nofun, onlyContinues_other nofun,
        onlyContinues_other nofun, onlyContinues_other nofun, trivial⟩
    · exact ⟨rfl, rfl, rfl, rfl, rfl, rfl, rfl⟩
    · exact .root ⟨none, .publish .batteryLow "monitor", .ok _⟩ _ .batteryLow "monitor"
        List.mem_cons_self rfl rfl rfl
  | succ n ih =>
    obtain ⟨labels, last, earlier, only, loop, causal, length⟩ := ih
    have grown : (run step (new 1 255 1) (labels ++ turn last)).outcomes =
        (run step (new 1 255 1) labels).outcomes ++
          [⟨some last, reply last, .ok (echo (run step (new 1 255 1) labels) last)⟩] := by
      rw [run_append, turn_state loop]
    refine ⟨labels ++ turn last, echo (run step (new 1 255 1) labels) last, last :: earlier,
      ?_, ?_, ?_, ?_⟩
    · exact (along_append_iff _ _ _).mpr ⟨only, turn_continues loop⟩
    · rw [run_append]
      exact turn_looping loop
    · refine .next last _ earlier (causalChain_mono grown causal)
        ⟨⟨some last, reply last, .ok (echo (run step (new 1 255 1) labels) last)⟩, ?_, rfl, rfl⟩
      rw [grown]
      exact List.mem_append_right _ List.mem_cons_self
    · rw [List.length_cons, length]

/-- Recursion protection holds for exactly the hop limits below 255: with handlers that only
continue the trace they received, every chain that starts with a `publish` has at most
`max(max_hops, 1) + 1` members. -/
theorem chains_bounded_iff (maxHops : Fin 256) :
    (∀ (η : Type) (queueCapacity traceCapacity : Nat) (labels : List (Label η)),
      Along step OnlyContinues (new queueCapacity maxHops traceCapacity) labels →
      ∀ chain, CausalChain (run step (new queueCapacity maxHops traceCapacity) labels) chain →
        chain.length ≤ max maxHops.val 1 + 1) ↔ maxHops.val < 255 := by
  constructor
  · intro bounded
    by_contra top
    have limit : maxHops = 255 := Fin.ext (by have := maxHops.isLt; omega)
    subst limit
    obtain ⟨labels, last, earlier, only, -, causal, length⟩ := trace_continues 256
    have short := bounded Unit 1 1 labels only _ causal
    rw [List.length_cons, length] at short
    exact absurd short (by decide)
  · intro below η queueCapacity traceCapacity labels only chain causal
    have inv := run_invariant_along step_continuing (new queueCapacity maxHops traceCapacity)
      (continuing_new queueCapacity maxHops traceCapacity) labels only
    have value : (run step (new queueCapacity maxHops traceCapacity) labels).maxHops.val =
        max maxHops.val 1 := by
      rw [run_maxHops]
      rfl
    have bound := chain_length_le inv (by rw [value]; omega) causal
    rwa [value] at bound

/-- With the limit 255 a chain reaches 257 members, one more than the limit allows. -/
theorem chain_beyond_top_limit :
    ∃ (labels : List (Label Unit)) (chain : List EventEnvelope),
      Along step OnlyContinues (new 1 255 1) labels ∧
      CausalChain (run step (new 1 255 1) labels) chain ∧ chain.length = 257 := by
  obtain ⟨labels, last, earlier, only, -, causal, length⟩ := trace_continues 256
  exact ⟨labels, last :: earlier, only, causal, by rw [List.length_cons, length]⟩

end Apcos.Guarantees.BusRecursion
