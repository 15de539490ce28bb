import Apcos.Source.Bridge.Gates

/-!
# Approvals on the wire

What an exchange must look like for a gate to run its callback, and what a gate
leaves behind otherwise. The parsers of rust_bridge.py decide an approval; the
predicates below state it in terms of the request and the reply alone.
-/
namespace Apcos.Source.Bridge

open Apcos.Lib
open Apcos.Source.Python (Value Dict Exc DateTime)
open Apcos.Source.Supervisor (MessageType optionalText)

variable {ω σ α δ : Type}

/-- The reply of an exchange is a dict of the result type that carries the
correlation id of its request, with this payload. -/
def RepliesWith (resultType : MessageType) (e : Exchange) (payload : Dict) : Prop :=
  ∃ reply id, e.reply = .ok (.dict reply) ∧
    Dict.get reply "message_type" = .str resultType.wire ∧
    Dict.get e.request "correlation_id" = .str id ∧
    Dict.get reply "correlation_id" = .str id ∧
    Dict.get reply "payload" = .dict payload

/-- The reason of a result is absent, `None` or a string. -/
def ReasonWellFormed (payload : Dict) : Prop :=
  Dict.get payload "reason" = .null ∨ ∃ s, Dict.get payload "reason" = .str s

/-- A storage request answered by a well-formed, correlation-matched result
whose `allowed` is exactly `True`. -/
structure StorageApproval (e : Exchange) : Prop where
  request : Dict.get e.request "message_type" = .str MessageType.storageValidate.wire
  reply : ∃ payload, RepliesWith .storageResult e payload ∧
    Dict.get payload "allowed" = .bool true ∧ ReasonWellFormed payload ∧
    (∃ b, Dict.get payload "retention_applied" = .bool b) ∧
    (∃ b, Dict.get payload "encryption_verified" = .bool b)

/-- A memory request answered by an approval that names this target state. -/
structure MemoryApproval (e : Exchange) (target : Option String) : Prop where
  request : Dict.get e.request "message_type" = .str MessageType.memoryValidate.wire
  reply : ∃ payload, RepliesWith .memoryResult e payload ∧
    Dict.get payload "allowed" = .bool true ∧ ReasonWellFormed payload ∧
    Dict.get payload "target_state" = optionalText target ∧
    (∃ b, Dict.get payload "retention_applied" = .bool b) ∧
    (∃ b, Dict.get payload "tier_changed" = .bool b)

theorem isText_iff (v : Value) (text : String) : v.isText text = true ↔ v = .str text := by
  cases v <;> simp [Value.isText]

theorem asBool_iff (v : Value) (b : Bool) : v.asBool = some b ↔ v = .bool b := by
  cases v <;> simp [Value.asBool]

theorem asDict_iff (v : Value) (d : Dict) : v.asDict = some d ↔ v = .dict d := by
  cases v <;> simp [Value.asDict]

theorem asOptionalText_iff (v : Value) (s : Option String) :
    v.asOptionalText = some s ↔ v = optionalText s := by
  cases v <;> cases s <;> simp [Value.asOptionalText, optionalText]

theorem resultPayload_iff (messageType : MessageType) (id : String) (reply payload : Dict) :
    resultPayload messageType (some id) reply = some payload ↔
      Dict.get reply "message_type" = .str messageType.wire ∧
      Dict.get reply "correlation_id" = .str id ∧ Dict.get reply "payload" = .dict payload := by
  unfold resultPayload
  rw [← isText_iff, ← isText_iff, ← asDict_iff]
  by_cases ht : (Dict.get reply "message_type").isText messageType.wire = true
  · by_cases hc : (Dict.get reply "correlation_id").isText id = true
    · simp [ht, hc]
    · simp [ht, hc]
  · simp [ht]

theorem reasonWellFormed_iff (payload : Dict) :
    ReasonWellFormed payload ↔ ∃ reason, Dict.get payload "reason" = optionalText reason := by
  constructor
  · rintro (h | ⟨s, h⟩)
    · exact ⟨none, h⟩
    · exact ⟨some s, h⟩
  · rintro ⟨reason, h⟩
    cases reason with
    | none => exact Or.inl h
    | some s => exact Or.inr ⟨s, h⟩

theorem decisionFields_iff (payload : Dict) (allowed : Bool) (reason : Option String) :
    decisionFields payload = some (allowed, reason) ↔
      Dict.get payload "allowed" = .bool allowed ∧
      Dict.get payload "reason" = optionalText reason := by
  simp only [decisionFields, Option.bind_eq_bind, Option.bind_eq_some_iff, Option.pure_def,
    Option.some.injEq, Prod.mk.injEq, asBool_iff, asOptionalText_iff]
  constructor
  · rintro ⟨a, ha, r, hr, rfl, rfl⟩
    exact ⟨ha, hr⟩
  · rintro ⟨ha, hr⟩
    exact ⟨allowed, ha, reason, hr, rfl, rfl⟩

/-- The fields of a result are read as they stand in its payload; a missing one reads as `None`. -/
theorem storageFields_iff (payload : Dict) (fields : StorageFields) :
    storageFields payload = some fields ↔
      Dict.get payload "allowed" = .bool fields.allowed ∧
      Dict.get payload "reason" = optionalText fields.reason ∧
      Dict.get payload "retention_applied" = .bool fields.retentionApplied ∧
      Dict.get payload "encryption_verified" = .bool fields.encryptionVerified := by
  simp only [storageFields, Option.bind_eq_bind, Option.bind_eq_some_iff, Option.pure_def,
    Option.some.injEq, asBool_iff, Prod.exists]
  constructor
  · rintro ⟨allowed, reason, decision, retention, isRetention, verified, isVerified, rfl⟩
    obtain ⟨isAllowed, isReason⟩ := (decisionFields_iff _ _ _).mp decision
    exact ⟨isAllowed, isReason, isRetention, isVerified⟩
  · rintro ⟨isAllowed, isReason, isRetention, isVerified⟩
    exact ⟨_, _, (decisionFields_iff _ _ _).mpr ⟨isAllowed, isReason⟩, _, isRetention, _, isVerified,
      rfl⟩

theorem memoryFields_iff (payload : Dict) (fields : MemoryFields) :
    memoryFields payload = some fields ↔
      Dict.get payload "allowed" = .bool fields.allowed ∧
      Dict.get payload "reason" = optionalText fields.reason ∧
      Dict.get payload "target_state" = optionalText fields.targetState ∧
      Dict.get payload "retention_applied" = .bool fields.retentionApplied ∧
      Dict.get payload "tier_changed" = .bool fields.tierChanged := by
  simp only [memoryFields, Option.bind_eq_bind, Option.bind_eq_some_iff, Option.pure_def,
    Option.some.injEq, asBool_iff, asOptionalText_iff, Prod.exists]
  constructor
  · rintro ⟨allowed, reason, decision, target, isTarget, retention, isRetention, changed, isChanged,
      rfl⟩
    obtain ⟨isAllowed, isReason⟩ := (decisionFields_iff _ _ _).mp decision
    exact ⟨isAllowed, isReason, isTarget, isRetention, isChanged⟩
  · rintro ⟨isAllowed, isReason, isTarget, isRetention, isChanged⟩
    exact ⟨_, _, (decisionFields_iff _ _ _).mpr ⟨isAllowed, isReason⟩, _, isTarget, _, isRetention, _,
      isChanged, rfl⟩

/-- The value is a dict of this message type and correlation id, with this payload. -/
def CarriesResult (messageType : MessageType) (id : String) (response : Value) (payload : Dict) :
    Prop :=
  ∃ reply, response = .dict reply ∧ Dict.get reply "message_type" = .str messageType.wire ∧
    Dict.get reply "correlation_id" = .str id ∧ Dict.get reply "payload" = .dict payload

/-- The parsers share their envelope checks: what they read is the payload of a result. -/
theorem parsed_iff (messageType : MessageType) (id : String) (fields : Dict → Option δ)
    (response : Value) (d : δ) :
    response.asDict.bind (fun reply => (resultPayload messageType (some id) reply).bind fields) =
        some d ↔
      ∃ payload, CarriesResult messageType id response payload ∧ fields payload = some d := by
  simp only [Option.bind_eq_some_iff, asDict_iff, resultPayload_iff]
  constructor
  · rintro ⟨reply, isReply, payload, ⟨isType, isId, isPayload⟩, read⟩
    exact ⟨payload, ⟨reply, isReply, isType, isId, isPayload⟩, read⟩
  · rintro ⟨payload, ⟨reply, isReply, isType, isId, isPayload⟩, read⟩
    exact ⟨reply, isReply, payload, ⟨isType, isId, isPayload⟩, read⟩

theorem carriesResult_iff (messageType : MessageType) (e : Exchange) (id : String) (response : Value)
    (payload : Dict) (correlation : Dict.get e.request "correlation_id" = .str id)
    (reply : e.reply = .ok response) :
    CarriesResult messageType id response payload ↔ RepliesWith messageType e payload := by
  constructor
  · rintro ⟨d, rfl, isType, isId, isPayload⟩
    exact ⟨d, id, reply, isType, correlation, isId, isPayload⟩
  · rintro ⟨d, id', replied, isType, requested, isId, isPayload⟩
    rw [reply] at replied
    rw [correlation] at requested
    cases requested
    exact ⟨d, Except.ok.inj replied, isType, isId, isPayload⟩

/-- The parser accepts an allowed storage result exactly when the exchange is an approval. -/
theorem storageApproval_iff (e : Exchange) (id : String) (response : Value)
    (request : Dict.get e.request "message_type" = .str MessageType.storageValidate.wire)
    (correlation : Dict.get e.request "correlation_id" = .str id) (reply : e.reply = .ok response) :
    StorageApproval e ↔
      ∃ fields, response.asDict.bind (fun d => parseStorageResult d (some id)) = some fields ∧
        fields.allowed = true := by
  unfold parseStorageResult
  constructor
  · rintro ⟨-, payload, replied, isAllowed, isReason, ⟨retention, isRetention⟩,
      ⟨verified, isVerified⟩⟩
    obtain ⟨reason, isReason⟩ := (reasonWellFormed_iff payload).mp isReason
    refine ⟨⟨true, reason, retention, verified⟩, ?_, rfl⟩
    exact (parsed_iff _ _ _ _ _).mpr ⟨payload,
      (carriesResult_iff _ e id response payload correlation reply).mpr replied,
      (storageFields_iff _ _).mpr ⟨isAllowed, isReason, isRetention, isVerified⟩⟩
  · rintro ⟨fields, parsed, allowed⟩
    obtain ⟨payload, carried, read⟩ := (parsed_iff _ _ _ _ _).mp parsed
    obtain ⟨isAllowed, isReason, isRetention, isVerified⟩ := (storageFields_iff _ _).mp read
    rw [allowed] at isAllowed
    exact ⟨request, payload,
      (carriesResult_iff _ e id response payload correlation reply).mp carried, isAllowed,
      (reasonWellFormed_iff payload).mpr ⟨_, isReason⟩, ⟨_, isRetention⟩, ⟨_, isVerified⟩⟩

/-- Python acts on a memory answer exactly when `parse_memory_result` reads a permission for this
target from it. -/
theorem memoryApproval_iff (e : Exchange) (id : String) (response : Value) (target : Option String)
    (request : Dict.get e.request "message_type" = .str MessageType.memoryValidate.wire)
    (correlation : Dict.get e.request "correlation_id" = .str id) (reply : e.reply = .ok response) :
    MemoryApproval e target ↔
      ∃ fields, response.asDict.bind (fun d => parseMemoryResult d (some id)) = some fields ∧
        fields.allowed = true ∧ fields.targetState = target := by
  unfold parseMemoryResult
  constructor
  · rintro ⟨-, payload, replied, isAllowed, isReason, isTarget, ⟨retention, isRetention⟩,
      ⟨changed, isChanged⟩⟩
    obtain ⟨reason, isReason⟩ := (reasonWellFormed_iff payload).mp isReason
    refine ⟨⟨true, reason, target, retention, changed⟩, ?_, rfl, rfl⟩
    exact (parsed_iff _ _ _ _ _).mpr ⟨payload,
      (carriesResult_iff _ e id response payload correlation reply).mpr replied,
      (memoryFields_iff _ _).mpr ⟨isAllowed, isReason, isTarget, isRetention, isChanged⟩⟩
  · rintro ⟨fields, parsed, allowed, rfl⟩
    obtain ⟨payload, carried, read⟩ := (parsed_iff _ _ _ _ _).mp parsed
    obtain ⟨isAllowed, isReason, isTarget, isRetention, isChanged⟩ :=
      (memoryFields_iff _ _).mp read
    rw [allowed] at isAllowed
    exact ⟨request, payload,
      (carriesResult_iff _ e id response payload correlation reply).mp carried, isAllowed,
      (reasonWellFormed_iff payload).mpr ⟨_, isReason⟩, isTarget, ⟨_, isRetention⟩, ⟨_, isChanged⟩⟩

/-- No exchange is an approval of both kinds. -/
theorem StorageApproval.not_memory {e : Exchange} (storage : StorageApproval e)
    (target : Option String) : ¬MemoryApproval e target := by
  intro memory
  have clash : Value.str MessageType.storageValidate.wire = .str MessageType.memoryValidate.wire :=
    storage.request.symm.trans memory.request
  injection clash with names
  exact absurd names (by decide)

/-- The reply fixes the target state of a memory approval. -/
theorem MemoryApproval.target_unique {e : Exchange} {target target' : Option String}
    (first : MemoryApproval e target) (second : MemoryApproval e target') : target = target' := by
  obtain ⟨payload, ⟨reply, id, replied, -, -, -, isPayload⟩, -, -, named, -⟩ := first.reply
  obtain ⟨payload', ⟨reply', id', replied', -, -, -, isPayload'⟩, -, -, named', -⟩ := second.reply
  rw [replied] at replied'
  cases replied'
  rw [isPayload] at isPayload'
  cases isPayload'
  have back := congrArg Value.asOptionalText (named.symm.trans named')
  rw [optionalText_asOptionalText, optionalText_asOptionalText] at back
  exact Option.some.inj back

/-! ## What a request and a gate leave behind -/

/-- The exchange was made by this bridge object: its transport gave this reply. -/
structure AnsweredBy (endpoint : Nat) (transport : Option (Transport ω)) (request : Int → Dict)
    (e : Exchange) : Prop where
  endpoint : e.endpoint = endpoint
  reply : ∃ answer env sent, transport = some answer ∧ e.request = request sent ∧
    e.reply = (answer e.request env).1

/-- What the transport answers to the request built now, and the world after it. -/
def answerTo (os : HostApi ω) (answer : Transport ω) (request : Int → Dict) (w : Wire ω) :
    Except Exc Value × ω :=
  answer (request (os.timestampMs w.env).1) (os.timestampMs w.env).2

section RequestDecision

variable (os : HostApi ω) (endpoint : Nat) (request : Int → Dict) (parse : Dict → Option δ)
  (build : Int → δ → Dict) (unavailable invalid : δ) (w : Wire ω)

/-- The wire after an exchange: one more record, in the world the transport left. -/
def Wire.exchanged (reply : Except Exc Value) (env : ω) : Wire ω :=
  ⟨env, w.exchanges ++ [⟨endpoint, request (os.timestampMs w.env).1, reply⟩]⟩

theorem send_of_answer {answer : Transport ω} {reply : Except Exc Value} {env : ω}
    (answered : answerTo os answer request w = (reply, env)) :
    send endpoint answer (request (os.timestampMs w.env).1)
        ⟨(os.timestampMs w.env).2, w.exchanges⟩ =
      (reply, w.exchanged os endpoint request reply env) := by
  rw [answerTo] at answered
  simp only [send, answered]
  rfl

theorem requestDecision_of_error {answer : Transport ω} {exc : Exc} {env : ω}
    (answered : answerTo os answer request w = (.error exc, env)) :
    requestDecision os endpoint (some answer) request parse build unavailable invalid w =
      (.error exc, w.exchanged os endpoint request (.error exc) env) := by
  have clock : timestampMs os w =
      (.ok (os.timestampMs w.env).1, ⟨(os.timestampMs w.env).2, w.exchanges⟩) := rfl
  unfold requestDecision
  rw [Comp.bind_of_ok clock]
  exact Comp.bind_of_error (send_of_answer os endpoint request w answered)

/-- A reply is parsed and stamped with the next reading of the clock; one that does not parse is the
refusal. -/
theorem requestDecision_of_ok {answer : Transport ω} {response : Value} {env : ω}
    (answered : answerTo os answer request w = (.ok response, env)) :
    requestDecision os endpoint (some answer) request parse build unavailable invalid w =
      (.ok (build (os.timestampMs env).1 ((response.asDict.bind parse).getD invalid)),
        w.exchanged os endpoint request (.ok response) (os.timestampMs env).2) := by
  have clock : timestampMs os w =
      (.ok (os.timestampMs w.env).1, ⟨(os.timestampMs w.env).2, w.exchanges⟩) := rfl
  have again : timestampMs os (w.exchanged os endpoint request (.ok response) env) =
      (.ok (os.timestampMs env).1,
        w.exchanged os endpoint request (.ok response) (os.timestampMs env).2) := rfl
  unfold requestDecision
  rw [Comp.bind_of_ok clock]
  simp only
  rw [Comp.bind_of_ok (send_of_answer os endpoint request w answered), Comp.bind_of_ok again]
  cases response <;> rfl

/-- A request makes at most one exchange, raises what the transport raised and
otherwise returns a result built by this side. -/
theorem requestDecision_cases (transport : Option (Transport ω)) :
    (∃ now w', requestDecision os endpoint transport request parse build unavailable invalid w =
        (.ok (build now unavailable), w') ∧ w'.exchanges = w.exchanges ∧ transport = none) ∨
    ∃ e w', AnsweredBy endpoint transport request e ∧ w'.exchanges = w.exchanges ++ [e] ∧
      ((∃ exc, e.reply = .error exc ∧
          requestDecision os endpoint transport request parse build unavailable invalid w =
            (.error exc, w')) ∨
        ∃ response now, e.reply = .ok response ∧
          requestDecision os endpoint transport request parse build unavailable invalid w =
            (.ok (build now ((response.asDict.bind parse).getD invalid)), w')) := by
  cases transport with
  | none => exact Or.inl ⟨_, _, rfl, rfl, rfl⟩
  | some answer =>
    right
    rcases answered : answerTo os answer request w with ⟨reply, env⟩
    have made : AnsweredBy endpoint (some answer) request
        ⟨endpoint, request (os.timestampMs w.env).1, reply⟩ :=
      ⟨rfl, answer, (os.timestampMs w.env).2, _, rfl, rfl, congrArg Prod.fst answered.symm⟩
    cases reply with
    | error exc =>
      exact ⟨_, _, made, rfl, Or.inl ⟨exc, rfl,
        requestDecision_of_error os endpoint request parse build unavailable invalid w answered⟩⟩
    | ok response =>
      exact ⟨_, _, made, rfl, Or.inr ⟨response, _, rfl,
        requestDecision_of_ok os endpoint request parse build unavailable invalid w answered⟩⟩

end RequestDecision

/-- The gate raised or answered `(False, None, reason)`, in this state. -/
def Refused (outcome : Except Exc (Gate α) × σ) (s : σ) : Prop :=
  (∃ exc, outcome = (.error exc, s)) ∨ ∃ reason, outcome = (.ok (.refused reason), s)

/-- A gate whose request returned decides on what it reads there. -/
theorem maybeExecute_of_ok {wire : Lens σ (Wire ω)} {asked : Comp Exc (Wire ω) Dict} {s : σ}
    {verdict : Dict → Option (Bool × Option String)} {result : Dict} {w' : Wire ω}
    {decision : Bool × Option String} (returned : asked (wire.get s) = (.ok result, w'))
    (read : verdict result = some decision) (invalidText denied : String)
    (execute : Comp Exc σ α) :
    maybeExecute wire asked verdict invalidText denied execute s =
      (if !decision.1 then pure (.refused (reasonOr decision.2 denied))
        else execute >>= fun value => pure (.passed value) : Comp Exc σ (Gate α))
        (wire.set w' s) := by
  have zoomed : Comp.zoom wire asked s = (.ok result, wire.set w' s) := Comp.zoom_of_eq returned
  unfold maybeExecute
  rw [Comp.bind_of_ok zoomed]
  simp only [read]

section MaybeExecute

variable (os : HostApi ω) (wire : Lens σ (Wire ω)) (endpoint : Nat)
  (transport : Option (Transport ω)) (request : Int → Dict) (parse : Dict → Option δ)
  (build : Int → δ → Dict) (unavailable invalid : δ) (outcome : δ → Bool × Option String)
  (invalidText denied : String) (execute : Comp Exc σ α) (s : σ)

/-- Shared inversion of the gates. The callback runs in exactly one case: the
one exchange made carries a reply that parses to an approval. -/
theorem maybeExecute_cases (roundtrip : ∀ now d, parse (build now d) = some d)
    (unavailable_denies : (outcome unavailable).1 = false)
    (invalid_denies : (outcome invalid).1 = false) :
    let gate := maybeExecute wire
      (requestDecision os endpoint transport request parse build unavailable invalid)
      (fun result => (parse result).map outcome) invalidText denied execute
    ∃ w',
      (Refused (gate s) (wire.set w' s) ∧
        (w'.exchanges = (wire.get s).exchanges ∨
          ∃ e, AnsweredBy endpoint transport request e ∧
            w'.exchanges = (wire.get s).exchanges ++ [e] ∧
            ∀ response d, e.reply = .ok response → response.asDict.bind parse = some d →
              (outcome d).1 = false)) ∨
      ∃ e response d, AnsweredBy endpoint transport request e ∧
        w'.exchanges = (wire.get s).exchanges ++ [e] ∧ e.reply = .ok response ∧
        response.asDict.bind parse = some d ∧ (outcome d).1 = true ∧
        gate s = (execute >>= fun value => pure (.passed value)) (wire.set w' s) := by
  intro gate
  have decided : ∀ now d w',
      requestDecision os endpoint transport request parse build unavailable invalid (wire.get s) =
        (.ok (build now d), w') →
      gate s = (if !(outcome d).1 then pure (.refused (reasonOr (outcome d).2 denied))
        else execute >>= fun value => pure (.passed value) : Comp Exc σ (Gate α)) (wire.set w' s) :=
    fun now d w' returned => maybeExecute_of_ok returned (by rw [roundtrip, Option.map_some])
      invalidText denied execute
  rcases requestDecision_cases os endpoint request parse build unavailable invalid (wire.get s)
    transport with ⟨now, w', returned, same, -⟩ | ⟨e, w', made, grown, answered⟩
  · refine ⟨w', Or.inl ⟨Or.inr ⟨reasonOr (outcome unavailable).2 denied, ?_⟩, Or.inl same⟩⟩
    rw [decided now _ w' returned, unavailable_denies]
    rfl
  · rcases answered with ⟨exc, raised, outcomeEq⟩ | ⟨response, now, replied, returned⟩
    · refine ⟨w', Or.inl ⟨Or.inl ⟨exc, ?_⟩, Or.inr ⟨e, made, grown, ?_⟩⟩⟩
      · have zoomed : Comp.zoom wire
            (requestDecision os endpoint transport request parse build unavailable invalid) s =
              (.error exc, wire.set w' s) :=
          Comp.zoom_of_eq outcomeEq
        exact Comp.bind_of_error zoomed
      · intro response d replied
        rw [raised] at replied
        cases replied
    · have run := decided now _ w' returned
      cases approved : (outcome ((response.asDict.bind parse).getD invalid)).1 with
      | false =>
        refine ⟨w', Or.inl ⟨Or.inr
          ⟨reasonOr (outcome ((response.asDict.bind parse).getD invalid)).2 denied, ?_⟩,
          Or.inr ⟨e, made, grown, ?_⟩⟩⟩
        · rw [run, approved]
          rfl
        · intro response' d replied' parsed
          rw [replied] at replied'
          cases replied'
          rw [parsed, Option.getD_some] at approved
          exact approved
      | true =>
        cases parsed : response.asDict.bind parse with
        | none =>
          rw [parsed, Option.getD_none, invalid_denies] at approved
          cases approved
        | some d =>
          rw [parsed, Option.getD_some] at approved run
          refine ⟨w', Or.inr ⟨e, response, d, made, grown, replied, parsed, approved, ?_⟩⟩
          rw [run, approved]
          rfl

end MaybeExecute

/-- The transport a storage request goes to. -/
def RustBridge.storageRoute (bridge : RustBridge ω) : Option (Transport ω) :=
  bridge.storageTransport <|> bridge.authTransport

def RustBridge.memoryRoute (bridge : RustBridge ω) : Option (Transport ω) :=
  bridge.memoryTransport <|> bridge.authTransport

theorem StorageRequest.build_type (r : StorageRequest) (id : String) (now : Int) :
    Dict.get (r.build id now) "message_type" = .str MessageType.storageValidate.wire := rfl

theorem StorageRequest.build_correlation (r : StorageRequest) (id : String) (now : Int) :
    Dict.get (r.build id now) "correlation_id" = .str id := rfl

theorem MemoryRequest.build_type (r : MemoryRequest) (id : String) (now : Int) :
    Dict.get (r.build id now) "message_type" = .str MessageType.memoryValidate.wire := rfl

theorem MemoryRequest.build_correlation (r : MemoryRequest) (id : String) (now : Int) :
    Dict.get (r.build id now) "correlation_id" = .str id := rfl

/-- The exchange is a storage approval that this bridge obtained for this request. -/
structure StoragePermit (bridge : RustBridge ω) (r : StorageRequest) (e : Exchange) : Prop where
  approval : StorageApproval e
  answered : ∃ id, AnsweredBy bridge.endpoint bridge.storageRoute (r.build id) e

/-- The exchange is a memory approval that this bridge obtained for this request. -/
structure MemoryPermit (bridge : RustBridge ω) (r : MemoryRequest) (target : Option String)
    (e : Exchange) : Prop where
  approval : MemoryApproval e target
  answered : ∃ id, AnsweredBy bridge.endpoint bridge.memoryRoute (r.build id) e

/-- A storage request returns a result that allows only after an approval. -/
theorem requestStorageValidation_cases (os : HostApi ω) (bridge : RustBridge ω) (r : StorageRequest)
    (id : String) (w : Wire ω) :
    ∃ w' made, w'.exchanges = w.exchanges ++ made ∧
      ((∃ exc, requestStorageValidation os bridge r id w = (.error exc, w')) ∨
        ∃ now fields, requestStorageValidation os bridge r id w =
            (.ok (buildStorageResult now id fields), w') ∧
          (fields.allowed = true → ∃ e, made = [e] ∧ StoragePermit bridge r e)) := by
  rcases requestDecision_cases os bridge.endpoint (r.build id)
    (fun reply => parseStorageResult reply (some id)) (fun now => buildStorageResult now id)
    ⟨false, some "STORAGE_AUTH_UNAVAILABLE", false, false⟩
    ⟨false, some "STORAGE_INVALID_RESPONSE", false, false⟩ w
    (bridge.storageTransport <|> bridge.authTransport) with
    ⟨now, w', returned, same, -⟩ | ⟨e, w', answered, grown, outcome⟩
  · exact ⟨w', [], by simp [same], Or.inr ⟨now, _, returned, by simp⟩⟩
  · refine ⟨w', [e], grown, ?_⟩
    rcases outcome with ⟨exc, -, raised⟩ | ⟨response, now, replied, returned⟩
    · exact Or.inl ⟨exc, raised⟩
    · refine Or.inr ⟨now, _, returned, ?_⟩
      intro allowed
      obtain ⟨answer, env, sent, -, requested, -⟩ := answered.reply
      cases parsed : response.asDict.bind fun reply => parseStorageResult reply (some id) with
      | none =>
        rw [parsed] at allowed
        cases allowed
      | some fields =>
        rw [parsed] at allowed
        refine ⟨e, rfl, ?_, id, answered⟩
        exact (storageApproval_iff e id response
          (by rw [requested]; exact r.build_type id sent)
          (by rw [requested]; exact r.build_correlation id sent) replied).mpr
          ⟨fields, parsed, allowed⟩

/-- The storage gate: nothing but the wire moves before an approval. -/
theorem validateStorageAndMaybeExecute_cases (os : HostApi ω) (wire : Lens σ (Wire ω))
    (bridge : RustBridge ω) (r : StorageRequest) (id : String) (execute : Comp Exc σ α) (s : σ) :
    ∃ w' made, w'.exchanges = (wire.get s).exchanges ++ made ∧
      ((Refused (validateStorageAndMaybeExecute os wire bridge r id execute s) (wire.set w' s) ∧
          ∀ e ∈ made, ¬StorageApproval e) ∨
        ∃ e, made = [e] ∧ StoragePermit bridge r e ∧
          validateStorageAndMaybeExecute os wire bridge r id execute s =
            (execute >>= fun value => pure (.passed value)) (wire.set w' s)) := by
  obtain ⟨w', refused | passed⟩ := maybeExecute_cases os wire bridge.endpoint
    (bridge.storageTransport <|> bridge.authTransport) (r.build id)
    (fun reply => parseStorageResult reply (some id)) (fun now => buildStorageResult now id)
    ⟨false, some "STORAGE_AUTH_UNAVAILABLE", false, false⟩
    ⟨false, some "STORAGE_INVALID_RESPONSE", false, false⟩
    (fun fields => (fields.allowed, fields.reason)) "STORAGE_INVALID_RESPONSE" "STORAGE_DENIED"
    execute s (fun now d => parseStorageResult_build now id d) rfl rfl
  · obtain ⟨refusal, same | ⟨e, answered, grown, denied⟩⟩ := refused
    · exact ⟨w', [], by simp [same], Or.inl ⟨refusal, by simp⟩⟩
    · refine ⟨w', [e], grown, Or.inl ⟨refusal, ?_⟩⟩
      intro e' member approval
      rw [List.mem_singleton] at member
      subst member
      obtain ⟨answer, env, sent, -, requested, -⟩ := answered.reply
      obtain ⟨payload, ⟨reply, id', replied, -⟩, -⟩ := approval.reply
      obtain ⟨fields, parsed, allowed⟩ := (storageApproval_iff e' id (.dict reply)
        (by rw [requested]; exact r.build_type id sent)
        (by rw [requested]; exact r.build_correlation id sent) replied).mp approval
      exact absurd allowed (Bool.eq_false_iff.mp (denied (.dict reply) fields replied parsed))
  · obtain ⟨e, response, d, answered, grown, replied, parsed, allowed, run⟩ := passed
    obtain ⟨answer, env, sent, -, requested, -⟩ := answered.reply
    refine ⟨w', [e], grown, Or.inr ⟨e, rfl, ⟨?_, id, answered⟩, run⟩⟩
    exact (storageApproval_iff e id response
      (by rw [requested]; exact r.build_type id sent)
      (by rw [requested]; exact r.build_correlation id sent) replied).mpr ⟨d, parsed, allowed⟩

/-- The memory gate, with the target state named by the approval. -/
theorem validateMemoryAndMaybeTransition_cases (os : HostApi ω) (wire : Lens σ (Wire ω))
    (bridge : RustBridge ω) (r : MemoryRequest) (id : String) (transition : Comp Exc σ α) (s : σ) :
    ∃ w' made, w'.exchanges = (wire.get s).exchanges ++ made ∧
      (Refused (validateMemoryAndMaybeTransition os wire bridge r id transition s)
          (wire.set w' s) ∨
        ∃ e target, made = [e] ∧ MemoryPermit bridge r target e ∧
          validateMemoryAndMaybeTransition os wire bridge r id transition s =
            (transition >>= fun value => pure (.passed value)) (wire.set w' s)) := by
  obtain ⟨w', refused | passed⟩ := maybeExecute_cases os wire bridge.endpoint
    (bridge.memoryTransport <|> bridge.authTransport) (r.build id)
    (fun reply => parseMemoryResult reply (some id)) (fun now => buildMemoryResult now id)
    ⟨false, some "MEMORY_AUTH_UNAVAILABLE", none, false, false⟩
    ⟨false, some "MEMORY_INVALID_RESPONSE", none, false, false⟩
    (fun fields => (fields.allowed, fields.reason)) "MEMORY_INVALID_RESPONSE" "MEMORY_DENIED"
    transition s (fun now d => parseMemoryResult_build now id d) rfl rfl
  · obtain ⟨refusal, same | ⟨e, -, grown, -⟩⟩ := refused
    · exact ⟨w', [], by simp [same], Or.inl refusal⟩
    · exact ⟨w', [e], grown, Or.inl refusal⟩
  · obtain ⟨e, response, d, answered, grown, replied, parsed, allowed, run⟩ := passed
    obtain ⟨answer, env, sent, -, requested, -⟩ := answered.reply
    refine ⟨w', [e], grown, Or.inr ⟨e, d.targetState, rfl, ⟨?_, id, answered⟩, run⟩⟩
    exact (memoryApproval_iff e id response d.targetState
      (by rw [requested]; exact r.build_type id sent)
      (by rw [requested]; exact r.build_correlation id sent) replied).mpr
      ⟨d, parsed, allowed, rfl⟩

end Apcos.Source.Bridge
