import Apcos.Source.Bridge.Approval

/-!
# Gates run their callback exactly on a valid approval

services/ipc/rust_bridge.py:484-886. The five gates are one family: a call
names the gate and its arguments. What the transport chosen for the call
returned decides the outcome; the callback's runs are counted beside the state
it works on.
-/
namespace Apcos.Guarantees.BridgeGates

open Apcos.Lib
open Apcos.Source.Python (Value Dict Exc)
open Apcos.Source.Supervisor (MessageType optionalText)
open Apcos.Source.Bridge

variable {ω σ α δ : Type}

/-- A call of one of the five gates, without its correlation id and callback. -/
inductive GateCall where
  | authorization (userId tier action : String) (authenticated : Bool)
  | transition (currentState requestedState : String)
  | energy (batteryPercent : Int) (executionType : String)
  | storage (request : StorageRequest)
  | memory (request : MemoryRequest)

namespace GateCall

def gate (os : HostApi ω) (wire : Lens σ (Wire ω)) (bridge : RustBridge ω) (id : String)
    (callback : Comp Exc σ α) : GateCall → Comp Exc σ (Gate α)
  | authorization userId tier action authenticated =>
    authorizeAndMaybeRoute os wire bridge userId tier action authenticated id callback
  | transition currentState requestedState =>
    validateTransitionAndMaybeRoute os wire bridge currentState requestedState id callback
  | energy batteryPercent executionType =>
    validateEnergyAndMaybeExecute os wire bridge batteryPercent executionType id callback
  | storage request => validateStorageAndMaybeExecute os wire bridge request id callback
  | memory request => validateMemoryAndMaybeTransition os wire bridge request id callback

/-- The transport the call's request goes to. -/
def transport (bridge : RustBridge ω) : GateCall → Option (Transport ω)
  | authorization .. => bridge.authTransport
  | transition .. => bridge.transitionTransport <|> bridge.authTransport
  | energy .. => bridge.energyTransport <|> bridge.authTransport
  | storage _ => bridge.storageTransport <|> bridge.authTransport
  | memory _ => bridge.memoryTransport <|> bridge.authTransport

def request (id : String) : GateCall → Int → Dict
  | authorization userId tier action authenticated =>
    fun now => buildAuthRequest now id userId tier action authenticated
  | transition currentState requestedState =>
    fun now => buildTransitionValidate now id currentState requestedState
  | energy batteryPercent executionType =>
    fun now => buildEnergyValidate now id batteryPercent executionType
  | storage request => request.build id
  | memory request => request.build id

def resultType : GateCall → MessageType
  | authorization .. => .authResult
  | transition .. => .transitionResult
  | energy .. => .energyResult
  | storage _ => .storageResult
  | memory _ => .memoryResult

/-- The fields a gate reads beyond `allowed` and `reason` have their types. -/
def FieldsTyped (payload : Dict) : GateCall → Prop
  | authorization .. | transition .. | energy .. => True
  | storage _ =>
    (∃ b, Dict.get payload "retention_applied" = .bool b) ∧
      ∃ b, Dict.get payload "encryption_verified" = .bool b
  | memory _ =>
    (∃ target, Dict.get payload "target_state" = optionalText target) ∧
      (∃ b, Dict.get payload "retention_applied" = .bool b) ∧
      ∃ b, Dict.get payload "tier_changed" = .bool b

/-- A valid approval of the call: result type, the request's correlation id, `allowed`
exactly `True`, a reason that is absent, `None` or a string, and typed fields. -/
def Approves (call : GateCall) (id : String) (response : Value) : Prop :=
  ∃ payload, CarriesResult call.resultType id response payload ∧
    Dict.get payload "allowed" = .bool true ∧ ReasonWellFormed payload ∧ call.FieldsTyped payload

/-- What the chosen transport, if there is one, gives for the request. -/
def answer (call : GateCall) (os : HostApi ω) (bridge : RustBridge ω) (id : String) (w : Wire ω) :
    Option (Except Exc Value) :=
  (call.transport bridge).map fun t => (answerTo os t (call.request id) w).1

end GateCall

/-! ## One gate, decided by its answer -/

theorem reasonOr_ne_empty (reason : Option String) {denied : String} (named : denied ≠ "") :
    reasonOr reason denied ≠ "" := by
  cases reason with
  | none => exact named
  | some text =>
    by_cases empty : text = ""
    · rw [reasonOr, if_pos empty]
      exact named
    · rw [reasonOr, if_neg empty]
      exact empty

/-- The gate refused with a reason and left the callback's state alone. -/
def RefusedWithReason (outcome : Except Exc (Gate α) × σ) (s : σ) : Prop :=
  ∃ reason, reason ≠ "" ∧ outcome = (.ok (.refused reason), s)

/-- A gate decides on what the transport answers, and moves only the wire before the
callback; the wire moves alike for every callback. -/
def Decides (os : HostApi ω) (wire : Lens σ (Wire ω)) (transport : Option (Transport ω))
    (request : Int → Dict) (approves : Value → Prop) (s : σ) (w' : Wire ω)
    (gate : Comp Exc σ α → Comp Exc σ (Gate α)) : Prop :=
  ∀ callback,
    (transport = none → RefusedWithReason (gate callback s) (wire.set w' s)) ∧
    ∀ t, transport = some t →
      (∀ exc, (answerTo os t request (wire.get s)).1 = .error exc →
        gate callback s = (.error exc, wire.set w' s)) ∧
      ∀ response, (answerTo os t request (wire.get s)).1 = .ok response →
        (approves response →
          gate callback s = (callback >>= fun value => pure (.passed value)) (wire.set w' s)) ∧
        (¬approves response → RefusedWithReason (gate callback s) (wire.set w' s))

section Decided

variable (os : HostApi ω) (wire : Lens σ (Wire ω)) (endpoint : Nat)
  (transport : Option (Transport ω)) (request : Int → Dict) (parse : Dict → Option δ)
  (build : Int → δ → Dict) (unavailable invalid : δ)
  (verdict : Dict → Option (Bool × Option String)) (outcome : δ → Bool × Option String)
  (invalidText denied : String) (approves : Value → Prop) (s : σ)

/-- The shared gate body decides. -/
theorem maybeExecute_decides (reads : ∀ now d, verdict (build now d) = some (outcome d))
    (unavailable_denies : (outcome unavailable).1 = false)
    (invalid_denies : (outcome invalid).1 = false) (named : denied ≠ "")
    (accepts : ∀ response,
      (∃ d, response.asDict.bind parse = some d ∧ (outcome d).1 = true) ↔ approves response) :
    ∃ w', Decides os wire transport request approves s w'
      (maybeExecute wire
        (requestDecision os endpoint transport request parse build unavailable invalid)
        verdict invalidText denied : Comp Exc σ α → Comp Exc σ (Gate α)) := by
  have refusal : ∀ (execute : Comp Exc σ α) now d w',
      requestDecision os endpoint transport request parse build unavailable invalid (wire.get s) =
        (.ok (build now d), w') →
      (outcome d).1 = false →
      RefusedWithReason (maybeExecute wire
        (requestDecision os endpoint transport request parse build unavailable invalid)
        verdict invalidText denied execute s) (wire.set w' s) := by
    intro execute now d w' returned denies
    refine ⟨reasonOr (outcome d).2 denied, reasonOr_ne_empty _ named, ?_⟩
    rw [maybeExecute_of_ok returned (reads now d) invalidText denied execute, denies]
    rfl
  cases transport with
  | none =>
    refine ⟨_, fun execute => ⟨fun _ => refusal execute _ unavailable _ rfl unavailable_denies, ?_⟩⟩
    intro t chosen
    cases chosen
  | some t =>
    rcases answered : answerTo os t request (wire.get s) with ⟨reply, env⟩
    cases reply with
    | error exc =>
      have raised := requestDecision_of_error os endpoint request parse build unavailable invalid
        (wire.get s) answered
      refine ⟨(wire.get s).exchanged os endpoint request (.error exc) env,
        fun execute => ⟨nofun, fun t' chosen => ?_⟩⟩
      cases chosen
      rw [answered]
      refine ⟨fun exc' same => ?_, nofun⟩
      cases same
      exact Comp.bind_of_error (Comp.zoom_of_eq raised)
    | ok response =>
      have returned := requestDecision_of_ok os endpoint request parse build unavailable invalid
        (wire.get s) answered
      refine ⟨(wire.get s).exchanged os endpoint request (.ok response) (os.timestampMs env).2,
        fun execute => ⟨nofun, fun t' chosen => ?_⟩⟩
      cases chosen
      rw [answered]
      refine ⟨nofun, fun response' replied => ?_⟩
      cases replied
      constructor
      · intro approved
        obtain ⟨d, parsed, allows⟩ := (accepts response).mpr approved
        rw [parsed, Option.getD_some] at returned
        rw [maybeExecute_of_ok returned (reads _ d) invalidText denied execute, allows]
        rfl
      · intro denies
        apply refusal execute _ _ _ returned
        cases parsed : response.asDict.bind parse with
        | none => rw [Option.getD_none, invalid_denies]
        | some d =>
          rw [Option.getD_some, Bool.eq_false_iff]
          exact fun allows => denies ((accepts response).mp ⟨d, parsed, allows⟩)

end Decided

/-! ## What the parsers accept -/

theorem decision_approves_iff (messageType : MessageType) (id : String) (response : Value) :
    (∃ d, response.asDict.bind
        (fun reply => (resultPayload messageType (some id) reply).bind decisionFields) = some d ∧
        d.1 = true) ↔
      ∃ payload, CarriesResult messageType id response payload ∧
        Dict.get payload "allowed" = .bool true ∧ ReasonWellFormed payload ∧ True := by
  simp only [parsed_iff]
  constructor
  · rintro ⟨⟨allowed, reason⟩, ⟨payload, carried, read⟩, rfl⟩
    obtain ⟨isAllowed, isReason⟩ := (decisionFields_iff _ _ _).mp read
    exact ⟨payload, carried, isAllowed, (reasonWellFormed_iff _).mpr ⟨reason, isReason⟩, trivial⟩
  · rintro ⟨payload, carried, isAllowed, isReason, -⟩
    obtain ⟨reason, isReason⟩ := (reasonWellFormed_iff _).mp isReason
    exact ⟨(true, reason), ⟨payload, carried, (decisionFields_iff _ _ _).mpr ⟨isAllowed, isReason⟩⟩,
      rfl⟩

theorem storage_approves_iff (r : StorageRequest) (id : String) (response : Value) :
    (∃ d, response.asDict.bind (fun reply => parseStorageResult reply (some id)) = some d ∧
        d.allowed = true) ↔ (GateCall.storage r).Approves id response := by
  simp only [parseStorageResult, parsed_iff, storageFields_iff]
  constructor
  · rintro ⟨d, ⟨payload, carried, isAllowed, isReason, isRetention, isVerified⟩, allowed⟩
    rw [allowed] at isAllowed
    exact ⟨payload, carried, isAllowed, (reasonWellFormed_iff _).mpr ⟨_, isReason⟩,
      ⟨_, isRetention⟩, ⟨_, isVerified⟩⟩
  · rintro ⟨payload, carried, isAllowed, isReason, ⟨retention, isRetention⟩,
      ⟨verified, isVerified⟩⟩
    obtain ⟨reason, isReason⟩ := (reasonWellFormed_iff _).mp isReason
    exact ⟨⟨true, reason, retention, verified⟩,
      ⟨payload, carried, isAllowed, isReason, isRetention, isVerified⟩, rfl⟩

theorem memory_approves_iff (r : MemoryRequest) (id : String) (response : Value) :
    (∃ d, response.asDict.bind (fun reply => parseMemoryResult reply (some id)) = some d ∧
        d.allowed = true) ↔ (GateCall.memory r).Approves id response := by
  simp only [parseMemoryResult, parsed_iff, memoryFields_iff]
  constructor
  · rintro ⟨d, ⟨payload, carried, isAllowed, isReason, isTarget, isRetention, isChanged⟩, allowed⟩
    rw [allowed] at isAllowed
    exact ⟨payload, carried, isAllowed, (reasonWellFormed_iff _).mpr ⟨_, isReason⟩,
      ⟨_, isTarget⟩, ⟨_, isRetention⟩, ⟨_, isChanged⟩⟩
  · rintro ⟨payload, carried, isAllowed, isReason, ⟨target, isTarget⟩, ⟨retention, isRetention⟩,
      ⟨changed, isChanged⟩⟩
    obtain ⟨reason, isReason⟩ := (reasonWellFormed_iff _).mp isReason
    exact ⟨⟨true, reason, target, retention, changed⟩,
      ⟨payload, carried, isAllowed, isReason, isTarget, isRetention, isChanged⟩, rfl⟩

/-! ## The five gates -/

theorem parse_build_decision (messageType : MessageType) (now : Int) (id : String)
    (decision : Bool × Option String) :
    (resultPayload messageType (some id)
      (envelope messageType now id (decisionPayload decision))).bind decisionFields =
        some decision := by
  rw [resultPayload_envelope]
  exact decisionFields_decisionPayload decision

/-- Every gate decides by the one answer to its one request. -/
theorem gate_decides (call : GateCall) (os : HostApi ω) (wire : Lens σ (Wire ω))
    (bridge : RustBridge ω) (id : String) (s : σ) :
    ∃ w', Decides os wire (call.transport bridge) (call.request id) (call.Approves id) s w'
      (fun callback : Comp Exc σ α => call.gate os wire bridge id callback) := by
  cases call with
  | authorization userId tier action authenticated =>
    exact maybeExecute_decides os wire bridge.endpoint _ _ _ _ _ _ _ (fun d => d) _ _ _ s
      (fun now d => parse_build_decision .authResult now id d) rfl rfl (by decide)
      (decision_approves_iff .authResult id)
  | transition currentState requestedState =>
    exact maybeExecute_decides os wire bridge.endpoint _ _ _ _ _ _ _ (fun d => d) _ _ _ s
      (fun now d => parse_build_decision .transitionResult now id d) rfl rfl (by decide)
      (decision_approves_iff .transitionResult id)
  | energy batteryPercent executionType =>
    exact maybeExecute_decides os wire bridge.endpoint _ _ _ _ _ _ _ (fun d => d) _ _ _ s
      (fun now d => parse_build_decision .energyResult now id d) rfl rfl (by decide)
      (decision_approves_iff .energyResult id)
  | storage request =>
    exact maybeExecute_decides os wire bridge.endpoint _ _ _ _ _ _ _
      (fun fields => (fields.allowed, fields.reason)) _ _ _ s
      (fun now d => by rw [parseStorageResult_build]; rfl) rfl rfl (by decide)
      (storage_approves_iff request id)
  | memory request =>
    exact maybeExecute_decides os wire bridge.endpoint _ _ _ _ _ _ _
      (fun fields => (fields.allowed, fields.reason)) _ _ _ s
      (fun now d => by rw [parseMemoryResult_build]; rfl) rfl rfl (by decide)
      (memory_approves_iff request id)

/-! ## Counting the runs of the callback -/

def counted (callback : Comp Exc σ α) : Comp Exc (σ × Nat) α := fun s =>
  ((callback s.1).1, ((callback s.1).2, s.2 + 1))

/-- The wire inside a state that also counts. -/
def beside (wire : Lens σ (Wire ω)) : Lens (σ × Nat) (Wire ω) where
  get s := wire.get s.1
  set w s := (wire.set w s.1, s.2)
  get_set w s := wire.get_set w s.1
  set_get s := Prod.ext (wire.set_get s.1) rfl
  set_set w w' s := Prod.ext (wire.set_set w w' s.1) rfl

theorem counted_passed (callback : Comp Exc σ α) (s : σ) (n : Nat) :
    (counted callback >>= fun value => pure (.passed value) : Comp Exc (σ × Nat) (Gate α)) (s, n) =
      ((callback s).1.map .passed, ((callback s).2, n + 1)) := by
  rcases ran : callback s with ⟨result, after⟩
  have counts : counted callback (s, n) = (result, (after, n + 1)) := by
    simp only [counted, ran]
  cases result with
  | ok value => exact Comp.bind_of_ok counts
  | error exc => exact Comp.bind_of_error counts

/-- Over every configuration of transports and every answer, the callback runs exactly once
and its result is returned when the answer is a valid approval of the call; otherwise it does
not run, and the gate refuses with a reason or raises what the transport raised. -/
theorem gate_runs_callback_iff_approved (call : GateCall) (os : HostApi ω)
    (wire : Lens σ (Wire ω)) (bridge : RustBridge ω) (id : String) (callback : Comp Exc σ α) (s : σ)
    (n : Nat) :
    let answer := call.answer os bridge id (wire.get s)
    let approved := ∃ response, answer = some (.ok response) ∧ call.Approves id response
    let outcome := call.gate os (beside wire) bridge id (counted callback) (s, n)
    (outcome.2.2 = n + 1 ↔ approved) ∧
    ∃ w',
      (approved →
        outcome = ((callback (wire.set w' s)).1.map .passed,
          ((callback (wire.set w' s)).2, n + 1))) ∧
      (¬approved → outcome.2 = (wire.set w' s, n) ∧
        ((∃ exc, answer = some (.error exc) ∧ outcome.1 = .error exc) ∨
          (∀ exc, answer ≠ some (.error exc)) ∧
            ∃ reason, reason ≠ "" ∧ outcome.1 = .ok (.refused reason))) := by
  intro answer approved outcome
  obtain ⟨w', decides⟩ := gate_decides call os (beside wire) bridge id (s, n)
  obtain ⟨absent, chosen⟩ := decides (counted callback)
  have runs : approved →
      outcome = ((callback (wire.set w' s)).1.map .passed,
        ((callback (wire.set w' s)).2, n + 1)) := by
    rintro ⟨response, answered, approves⟩
    obtain ⟨t, isTransport, replied⟩ := Option.map_eq_some_iff.mp answered
    have passed := ((chosen t isTransport).2 response replied).1 approves
    exact passed.trans (counted_passed callback (wire.set w' s) n)
  have stays : ¬approved → outcome.2 = (wire.set w' s, n) ∧
      ((∃ exc, answer = some (.error exc) ∧ outcome.1 = .error exc) ∨
        (∀ exc, answer ≠ some (.error exc)) ∧
          ∃ reason, reason ≠ "" ∧ outcome.1 = .ok (.refused reason)) := by
    intro refused
    cases isTransport : call.transport bridge with
    | none =>
      obtain ⟨reason, named, result⟩ := absent isTransport
      have silent : answer = none := by
        simp only [answer, GateCall.answer, isTransport, Option.map_none]
      refine ⟨congrArg Prod.snd result, Or.inr ⟨?_, reason, named, congrArg Prod.fst result⟩⟩
      intro exc raised
      rw [silent] at raised
      cases raised
    | some t =>
      have answers : answer = some (answerTo os t (call.request id) (wire.get s)).1 := by
        simp only [answer, GateCall.answer, isTransport, Option.map_some]
      cases reply : (answerTo os t (call.request id) (wire.get s)).1 with
      | error exc =>
        have raised := (chosen t isTransport).1 exc reply
        exact ⟨congrArg Prod.snd raised,
          Or.inl ⟨exc, answers.trans (congrArg some reply), congrArg Prod.fst raised⟩⟩
      | ok response =>
        have replied : answer = some (.ok response) := answers.trans (congrArg some reply)
        have denied : ¬call.Approves id response := fun approves =>
          refused ⟨response, replied, approves⟩
        obtain ⟨reason, named, result⟩ := ((chosen t isTransport).2 response reply).2 denied
        refine ⟨congrArg Prod.snd result, Or.inr ⟨?_, reason, named, congrArg Prod.fst result⟩⟩
        intro exc raised
        rw [replied] at raised
        cases raised
  refine ⟨⟨fun count => ?_, fun allowed => ?_⟩, w', runs, stays⟩
  · by_contra refused
    rw [(stays refused).1] at count
    exact absurd count (Nat.ne_of_lt (Nat.lt_succ_self n))
  · rw [runs allowed]

end Apcos.Guarantees.BridgeGates
