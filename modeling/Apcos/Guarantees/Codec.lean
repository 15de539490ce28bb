import Apcos.Source.Bridge.Lines

/-!
# The two IPC codecs agree

A request written by a Python builder (rust_bridge.py:108-330), sent as one
line, read and dispatched by the supervisor (ipc.rs:212-580), answered and read
back by `parse_envelope` and the matching result parser. The two JSON libraries
are assumed inverse on the two messages of the exchange; everything between
them is evaluated, including both whitespace rules and the size of the answer.
-/
namespace Apcos.Guarantees.Codec

open Apcos.Source
open Apcos.Source.Python (Value Dict PyFloat)
open Apcos.Source.JsonText
open Apcos.Source.Supervisor
open Apcos.Source.Bridge hiding decisionPayload

/-- Arguments of the five request builders. -/
inductive Request where
  | auth (userId tier action : String) (authenticated : Bool)
  | transition (currentState requestedState : String)
  | energy (batteryPercent : Int) (executionType : String)
  | storage (r : StorageRequest)
  | memory (r : MemoryRequest)

/-- Fields a result parser returns. -/
inductive Decision where
  | plain (allowed : Bool) (reason : Option String)
  | storage (fields : StorageFields)
  | memory (fields : MemoryFields)
  deriving DecidableEq, Repr

def Request.build : Request → String → Int → Dict
  | .auth userId tier action authenticated, id, sent =>
    buildAuthRequest sent id userId tier action authenticated
  | .transition currentState requestedState, id, sent =>
    buildTransitionValidate sent id currentState requestedState
  | .energy batteryPercent executionType, id, sent =>
    buildEnergyValidate sent id batteryPercent executionType
  | .storage r, id, sent => r.build id sent
  | .memory r, id, sent => r.build id sent

/-- The parser that belongs to the request. -/
def Request.parseResult : Request → Dict → Option String → Option Decision
  | .auth .., reply, expected =>
    (parseAuthResult reply expected).map fun decision => .plain decision.1 decision.2
  | .transition .., reply, expected =>
    (parseTransitionResult reply expected).map fun decision => .plain decision.1 decision.2
  | .energy .., reply, expected =>
    (parseEnergyResult reply expected).map fun decision => .plain decision.1 decision.2
  | .storage _, reply, expected => (parseStorageResult reply expected).map .storage
  | .memory _, reply, expected => (parseMemoryResult reply expected).map .memory

/-- `EnergyManager` on an unsigned byte; another integer is no energy request. -/
def energyAuthority (batteryPercent : Int) (executionType : String) : EnergyDecision :=
  if h : 0 ≤ batteryPercent ∧ batteryPercent < 256 then
    match parseExecutionType executionType with
    | none => ⟨false, some "UNKNOWN_EXECUTION_TYPE"⟩
    | some execution =>
      authorizeExecution (determineMode ⟨batteryPercent.toNat, toNat_lt_byte h⟩) execution
  else ⟨false, some "INVALID_ENERGY_REQUEST"⟩

/-- The decision of the authority function on the arguments themselves. -/
def Request.authority : Request → Decision
  | .auth userId tier action authenticated =>
    let result := authorizeWithTierString userId tier authenticated action
    .plain result.allowed result.reason
  | .transition currentState requestedState =>
    let result := validateTransitionFromStr currentState requestedState
    .plain result.allowed result.reason
  | .energy batteryPercent executionType =>
    let decision := energyAuthority batteryPercent executionType
    .plain decision.allowed decision.reason
  | .storage r =>
    let decision := storageAuthority r.payload
    .storage ⟨decision.allowed, nonEmpty decision.reason, decision.retentionApplied,
      decision.encryptionVerified⟩
  | .memory r =>
    let decision := memoryAuthority r.payload
    .memory ⟨decision.allowed, nonEmpty decision.reason, decision.targetState,
      decision.retentionApplied, decision.tierChanged⟩

/-- One exchange, from the request text to the parsed result. -/
def exchange (json : JsonReaders) (now : Fin (2 ^ 128)) (tracker : CorrelationTracker)
    (request : Request) (id text : String) : Option Decision :=
  match parseEnvelopeLine json (asLine text) defaultMaxMessageBytes with
  | .ok (some envelope) =>
    match (dispatchIncoming now envelope tracker).result.response with
    | some response =>
      match serializeEnvelope json response with
      | .ok answer =>
        match parseEnvelope json (asLine answer) maxMessageBytes with
        | .ok (some reply) => request.parseResult reply (some id)
        | _ => none
      | .error _ => none
    | none => none
  | _ => none

/-- serde_json and Python's json read each other's text of the value. -/
structure Inverse (json : JsonReaders) (v : Value) : Prop where
  fromStr_dumps : ∀ text, dumps json v = some text → json.fromStr text = some v
  loads_toJsonString : ∀ text, toJsonString json v = some text → json.loads text = some v

/-! ## Envelope texts -/

theorem decodeU128_clock {sent : Int} (clock : 0 ≤ sent ∧ sent < 2 ^ 128) :
    ∃ stamp, decodeU128 (.int sent) = some stamp := by
  simp only [decodeU128, dif_pos clock]
  exact ⟨_, rfl⟩

/-- The supervisor accepts the line of a Python request. -/
theorem parseEnvelopeLine_request {json : JsonReaders} {messageType : MessageType} {sent : Int}
    {id text : String} {payload : Dict} (clock : 0 ≤ sent ∧ sent < 2 ^ 128)
    (visible : Python.blank id = false) (short : id.utf8ByteSize ≤ 128)
    (written : dumps json (.dict (envelope messageType sent id payload)) = some text)
    (fits : text.utf8ByteSize ≤ defaultMaxMessageBytes)
    (read : json.fromStr text = some (.dict (envelope messageType sent id payload))) :
    ∃ stamp, parseEnvelopeLine json (asLine text) defaultMaxMessageBytes =
      .ok (some ⟨messageType, stamp, id, .dict payload⟩) := by
  obtain ⟨stamp, decoded⟩ := decodeU128_clock clock
  have small : text.utf8ByteSize ≤ max defaultMaxMessageBytes 1 :=
    fits.trans (Nat.le_max_left defaultMaxMessageBytes 1)
  refine ⟨stamp, ?_⟩
  rw [parseEnvelopeLine_asLine (framed_dumps written) read visible]
  exact ⟨small, short, stamp, decoded, rfl⟩

/-- Python accepts the line of a response. -/
theorem parseEnvelope_response {json : JsonReaders} {response : IpcEnvelope} {payload : Dict}
    {text : String} (isDict : response.payload = .dict payload)
    (visible : Python.blank response.correlationId = false)
    (written : toJsonString json response.toValue = some text)
    (fits : text.utf8ByteSize ≤ maxMessageBytes)
    (read : json.loads text = some response.toValue) :
    parseEnvelope json (asLine text) maxMessageBytes =
      .ok (some (envelope response.messageType response.timestamp.val response.correlationId
        payload)) := by
  rw [response.toValue_eq isDict] at written read
  rw [parseEnvelope_asLine (framed_toJsonString written) read, if_pos ⟨fits, visible⟩]

/-! ## Answers -/

def Request.messageType : Request → MessageType
  | .auth .. => .authRequest
  | .transition .. => .transitionValidate
  | .energy .. => .energyValidate
  | .storage _ => .storageValidate
  | .memory _ => .memoryValidate

/-- The payload object the builder writes. -/
def Request.body (request : Request) : Dict :=
  match Dict.get (request.build "" 0) "payload" with
  | .dict payload => payload
  | _ => []

theorem Request.build_eq (request : Request) (id : String) (sent : Int) :
    request.build id sent = envelope request.messageType sent id request.body := by
  cases request <;> rfl

/-- The envelope the supervisor answers with. -/
def Request.response (request : Request) (id : String) (now : Fin (2 ^ 128)) : IpcEnvelope :=
  match request with
  | .auth userId tier action authenticated =>
    buildAuthResultEnvelope now id (authorizeWithTierString userId tier authenticated action)
  | .transition currentState requestedState =>
    let result := validateTransitionFromStr currentState requestedState
    buildTransitionResultEnvelope now id result.allowed result.reason
  | .energy batteryPercent executionType =>
    let decision := energyAuthority batteryPercent executionType
    buildEnergyResultEnvelope now id decision.allowed decision.reason
  | .storage r =>
    let decision := storageAuthority r.payload
    buildStorageResultEnvelope now id decision.allowed (nonEmpty decision.reason)
      decision.retentionApplied decision.encryptionVerified
  | .memory r => buildMemoryResultEnvelope now id (memoryAuthority r.payload)

theorem answerAuth_body (userId tier action : String) (authenticated : Bool) :
    answerAuth (.dict (Request.auth userId tier action authenticated).body) =
      authorizeWithTierString userId tier authenticated action := rfl

theorem answerTransition_body (currentState requestedState : String) :
    answerTransition (.dict (Request.transition currentState requestedState).body) =
      validateTransitionFromStr currentState requestedState := rfl

theorem answerEnergy_body (batteryPercent : Int) (executionType : String) :
    answerEnergy (.dict (Request.energy batteryPercent executionType).body) =
      energyAuthority batteryPercent executionType := by
  have read : parseEnergyValidateRequest (.dict (Request.energy batteryPercent executionType).body) =
      (decodeU8 (.int batteryPercent)).map fun level => ⟨level, executionType⟩ := by
    have fields : parseEnergyValidateRequest
        (.dict (Request.energy batteryPercent executionType).body) =
        (decodeU8 (.int batteryPercent)).bind fun level => some ⟨level, executionType⟩ := rfl
    rw [fields]
    cases decodeU8 (.int batteryPercent) <;> rfl
  rw [answerEnergy, read, energyAuthority]
  by_cases byte : 0 ≤ batteryPercent ∧ batteryPercent < 256
  · cases parsed : parseExecutionType executionType with
    | none => simp only [decodeU8, dif_pos byte, Option.map_some, parsed]
    | some execution => simp only [decodeU8, dif_pos byte, Option.map_some, parsed]
  · simp only [decodeU8, dif_neg byte, Option.map_none]

theorem answerStorage_body (r : StorageRequest) :
    answerStorage (.dict (Request.storage r).body) = storageAuthority r.payload :=
  r.answer_build "" 0

theorem answerMemory_body (r : MemoryRequest) :
    answerMemory (.dict (Request.memory r).body) = memoryAuthority r.payload :=
  r.answer_build "" 0

/-- A fresh request is answered with its authority's decision. -/
theorem Request.dispatched (request : Request) {id : String} {tracker : CorrelationTracker}
    (fresh : id ∉ tracker.set) (now stamp : Fin (2 ^ 128)) :
    (dispatchIncoming now ⟨request.messageType, stamp, id, .dict request.body⟩ tracker).result.response
      = some (request.response id now) := by
  obtain ⟨tracker', marked⟩ := CorrelationTracker.markSeen_fresh fresh
  unfold dispatchIncoming
  rw [marked]
  cases request with
  | auth userId tier action authenticated =>
    simp only [Request.messageType, answerAuth_body]
    rfl
  | transition currentState requestedState =>
    simp only [Request.messageType, answerTransition_body]
    rfl
  | energy batteryPercent executionType =>
    simp only [Request.messageType, answerEnergy_body]
    rfl
  | storage r =>
    simp only [Request.messageType, answerStorage_body]
    rfl
  | memory r =>
    simp only [Request.messageType, answerMemory_body]
    rfl

theorem Request.response_payload (request : Request) (id : String) (now : Fin (2 ^ 128)) :
    ∃ payload, (request.response id now).payload = .dict payload := by
  cases request <;> exact ⟨_, rfl⟩

theorem Request.response_correlationId (request : Request) (id : String) (now : Fin (2 ^ 128)) :
    (request.response id now).correlationId = id := by
  cases request <;> rfl

theorem decisionFields_read (allowed : Bool) (reason : Option String) :
    decisionFields [("allowed", .bool allowed), ("reason", optionalText reason)] =
      some (allowed, reason) :=
  decisionFields_decisionPayload (allowed, reason)

/-- The matching parser reads the decision back from the answer. The decision is
a variable in each case: which policy computed it does not matter here. -/
theorem Request.parseResult_response (request : Request) (id : String) (now : Fin (2 ^ 128))
    {payload : Dict} (isDict : (request.response id now).payload = .dict payload) :
    request.parseResult (envelope (request.response id now).messageType now.val id payload)
      (some id) = some request.authority := by
  cases request with
  | auth userId tier action authenticated =>
    simp only [Request.response, Request.authority, Request.parseResult] at isDict ⊢
    generalize authorizeWithTierString userId tier authenticated action = result at isDict ⊢
    injection isDict with fields
    subst fields
    rw [parseAuthResult, buildAuthResultEnvelope, resultPayload_envelope, Option.bind_some,
      decisionFields_read, Option.map_some]
  | transition currentState requestedState =>
    simp only [Request.response, Request.authority, Request.parseResult] at isDict ⊢
    generalize validateTransitionFromStr currentState requestedState = result at isDict ⊢
    injection isDict with fields
    subst fields
    rw [parseTransitionResult, buildTransitionResultEnvelope, resultPayload_envelope,
      Option.bind_some, decisionFields_read, Option.map_some]
  | energy batteryPercent executionType =>
    simp only [Request.response, Request.authority, Request.parseResult] at isDict ⊢
    generalize energyAuthority batteryPercent executionType = decision at isDict ⊢
    injection isDict with fields
    subst fields
    rw [parseEnergyResult, buildEnergyResultEnvelope, resultPayload_envelope, Option.bind_some,
      decisionFields_read, Option.map_some]
  | storage r =>
    simp only [Request.response, Request.authority, Request.parseResult] at isDict ⊢
    generalize storageAuthority r.payload = decision at isDict ⊢
    injection isDict with fields
    subst fields
    rw [parseStorageResult, buildStorageResultEnvelope, resultPayload_envelope, Option.bind_some]
    simp [storageFields, decisionFields, Python.Dict.get, Python.Dict.getD, List.lookup_cons,
      Value.asBool]
  | memory r =>
    simp only [Request.response, Request.authority, Request.parseResult] at isDict ⊢
    generalize memoryAuthority r.payload = decision at isDict ⊢
    injection isDict with fields
    subst fields
    rw [parseMemoryResult, buildMemoryResultEnvelope, resultPayload_envelope, Option.bind_some]
    simp [memoryFields, decisionFields, Python.Dict.get, Python.Dict.getD, List.lookup_cons,
      Value.asBool]

/-! ## Size of an answer -/

/-- Reasons and target states are constants of the policies. -/
def ShortText (text : Option String) : Prop := ∀ s, text = some s → s.utf8ByteSize ≤ 64

theorem shortText_none : ShortText none := by
  intro s impossible
  cases impossible

theorem shortText_some {s : String} (short : s.utf8ByteSize ≤ 64) : ShortText (some s) := by
  intro t same
  cases same
  exact short

theorem shortText_nonEmpty {s : String} (short : s.utf8ByteSize ≤ 64) : ShortText (nonEmpty s) := by
  unfold nonEmpty
  split
  · exact shortText_none
  · exact shortText_some short

theorem authorizeWithTierString_short (userId tier : String) (authenticated : Bool)
    (action : String) : ShortText (authorizeWithTierString userId tier authenticated action).reason := by
  unfold authorizeWithTierString
  cases parseTier tier with
  | none => exact shortText_some (by decide)
  | some tier =>
    simp only [authorize]
    split_ifs
    all_goals first
      | exact shortText_none
      | exact shortText_some (by decide)

theorem validateTransitionFromStr_short (currentState requestedState : String) :
    ShortText (validateTransitionFromStr currentState requestedState).reason := by
  unfold validateTransitionFromStr
  cases parseTaskState currentState with
  | none => exact shortText_some (by decide)
  | some source =>
    cases parseTaskState requestedState with
    | none => exact shortText_some (by decide)
    | some target =>
      simp only [validateTransition]
      split_ifs
      all_goals first
        | exact shortText_none
        | exact shortText_some (by decide)

theorem energyAuthority_short (batteryPercent : Int) (executionType : String) :
    ShortText (energyAuthority batteryPercent executionType).reason := by
  unfold energyAuthority
  split
  · cases parseExecutionType executionType with
    | none => exact shortText_some (by decide)
    | some execution =>
      simp only [authorizeExecution]
      cases determineMode _ <;> cases execution
      all_goals first
        | exact shortText_none
        | exact shortText_some (by decide)
  · exact shortText_some (by decide)

theorem StorageDecision.deny_short {reason : String} (short : reason.utf8ByteSize ≤ 64)
    (retentionApplied encryptionVerified : Bool) :
    (StorageDecision.deny reason retentionApplied encryptionVerified).reason.utf8ByteSize ≤ 64 :=
  short

/-- The reasons of the storage authority are short. -/
theorem storageAuthority_short (request : StorageValidatePayload) :
    (storageAuthority request).reason.utf8ByteSize ≤ 64 := by
  unfold storageAuthority
  cases parseStorageOperation request.operation with
  | none => exact StorageDecision.deny_short (by decide) false false
  | some operation =>
    cases parseEnergyMode request.energyMode with
    | none => exact StorageDecision.deny_short (by decide) false false
    | some energyMode =>
      cases parseExecutionType request.executionType with
      | none => exact StorageDecision.deny_short (by decide) false false
      | some executionType =>
        simp only [authorizeStorage, determineStoragePolicy]
        split_ifs
        · exact StorageDecision.deny_short (by decide) false false
        · exact StorageDecision.deny_short (by decide) true true
        · exact StorageDecision.deny_short (by decide) true true
        · exact StorageDecision.deny_short (by decide) false true
        · exact Nat.zero_le 64

/-- Reason and target state of a memory decision are short. -/
def ShortDecision (decision : MemoryDecision) : Prop :=
  decision.reason.utf8ByteSize ≤ 64 ∧ ShortText decision.targetState

theorem allow_short {target : String} (short : target.utf8ByteSize ≤ 64)
    (retentionApplied tierChanged : Bool) :
    ShortDecision (.allow (some target) retentionApplied tierChanged) :=
  ⟨Nat.zero_le 64, shortText_some short⟩

theorem deny_short {reason : String} {target : Option String} (short : reason.utf8ByteSize ≤ 64)
    (named : ShortText target) (retentionApplied tierChanged : Bool) :
    ShortDecision (.deny reason target retentionApplied tierChanged) :=
  ⟨short, named⟩

theorem memoryAuthority_short (request : MemoryValidatePayload) :
    ShortDecision (memoryAuthority request) := by
  unfold memoryAuthority
  cases parseMemoryOperation request.operation with
  | none => exact deny_short (by decide) shortText_none false false
  | some operation =>
    cases parseEnergyMode request.energyMode with
    | none => exact deny_short (by decide) shortText_none false false
    | some energyMode =>
      simp only [determineMemoryTransition]
      cases operation <;> split_ifs
      all_goals first
        | exact allow_short (by decide) _ _
        | exact deny_short (by decide) shortText_none _ _
        | exact deny_short (by decide) (shortText_some (by decide)) _ _

theorem textBound_optionalText (floatText : PyFloat → List Char) {text : Option String}
    (short : ShortText text) : textBound floatText (optionalText text) ≤ 386 := by
  cases text with
  | none => exact (by decide : 4 ≤ 386)
  | some s =>
    have bound := short s rfl
    simp only [optionalText, textBound]
    omega

theorem textBound_decisionPayload (floatText : PyFloat → List Char) (allowed : Bool)
    {reason : Option String} (short : ShortText reason) :
    textBound floatText (decisionPayload allowed reason) ≤ 2000 := by
  have keys : "allowed".utf8ByteSize = 7 ∧ "reason".utf8ByteSize = 6 := by decide
  have text := textBound_optionalText floatText short
  simp only [decisionPayload, textBound, entriesBound]
  omega

/-- A response is far below the limit of a line. -/
theorem Request.response_payload_bound (request : Request) (id : String) (now : Fin (2 ^ 128))
    (floatText : PyFloat → List Char) :
    textBound floatText (request.response id now).payload ≤ 2000 := by
  have keys : "allowed".utf8ByteSize = 7 ∧ "reason".utf8ByteSize = 6 ∧
      "retention_applied".utf8ByteSize = 17 ∧ "encryption_verified".utf8ByteSize = 19 ∧
      "target_state".utf8ByteSize = 12 ∧ "tier_changed".utf8ByteSize = 12 := by decide
  cases request with
  | auth userId tier action authenticated =>
    exact textBound_decisionPayload floatText _
      (authorizeWithTierString_short userId tier authenticated action)
  | transition currentState requestedState =>
    exact textBound_decisionPayload floatText _
      (validateTransitionFromStr_short currentState requestedState)
  | energy batteryPercent executionType =>
    exact textBound_decisionPayload floatText _ (energyAuthority_short batteryPercent executionType)
  | storage r =>
    have reason := textBound_optionalText floatText
      (shortText_nonEmpty (storageAuthority_short r.payload))
    simp only [Request.response, buildStorageResultEnvelope, textBound, entriesBound]
    omega
  | memory r =>
    obtain ⟨reasonShort, targetShort⟩ := memoryAuthority_short r.payload
    have reason := textBound_optionalText floatText (shortText_nonEmpty reasonShort)
    have target := textBound_optionalText floatText targetShort
    simp only [Request.response, buildMemoryResultEnvelope, textBound, entriesBound]
    omega

theorem wire_short (messageType : MessageType) : messageType.wire.utf8ByteSize ≤ 19 := by
  cases messageType <;> decide

/-- A 128-bit clock reading has at most 39 digits. -/
theorem byteCount_clock (now : Fin (2 ^ 128)) :
    byteCount (toString (now.val : Int)).toList ≤ 156 := by
  have digits : now.val.repr.length ≤ 39 := by
    rw [Nat.length_repr_le_iff (by decide)]
    have := now.isLt
    omega
  have width := byteCount_le (toString (now.val : Int)).toList
  have same : (toString (now.val : Int)).toList.length = now.val.repr.length := rfl
  omega

/-- The answer to an accepted request fits into one message. -/
theorem Request.response_fits (request : Request) {id : String} (short : id.utf8ByteSize ≤ 128)
    (now : Fin (2 ^ 128)) {json : JsonReaders} {line : String}
    (written : toJsonString json (request.response id now).toValue = some line) :
    line.utf8ByteSize ≤ maxMessageBytes := by
  have bound := toJsonString_bound written
  have payload := request.response_payload_bound id now json.floatText
  have clock := byteCount_clock (request.response id now).timestamp
  have kind := wire_short (request.response id now).messageType
  have keys : "message_type".utf8ByteSize = 12 ∧ "timestamp".utf8ByteSize = 9 ∧
      "correlation_id".utf8ByteSize = 14 ∧ "payload".utf8ByteSize = 7 := by decide
  have limit : maxMessageBytes = 65536 := rfl
  simp only [IpcEnvelope.toValue, textBound, entriesBound, request.response_correlationId] at bound
  omega

theorem isData_optionalText (text : Option String) : isData (optionalText text) = true := by
  cases text <;> rfl

/-- An answer always has a text. -/
theorem Request.response_written (request : Request) (id : String) (now : Fin (2 ^ 128))
    (json : JsonReaders) :
    ∃ text, toJsonString json (request.response id now).toValue = some text := by
  have payload : isData (request.response id now).payload = true := by
    cases request <;>
      simp only [Request.response, buildAuthResultEnvelope, buildTransitionResultEnvelope,
        buildEnergyResultEnvelope, buildStorageResultEnvelope, buildMemoryResultEnvelope,
        decisionPayload, isData, entriesData, isData_optionalText, Bool.and_true]
  exact toJsonString_written json (IpcEnvelope.isData_toValue payload)

/-! ## The exchange -/

/-- Every request under a fresh, visible correlation id of at most 128 bytes is
answered with the decision of its authority. -/
theorem codecs_agree (json : JsonReaders) (request : Request) (id text : String) (sent : Int)
    (now : Fin (2 ^ 128)) (tracker : CorrelationTracker)
    (clock : 0 ≤ sent ∧ sent < 2 ^ 128)
    (visible : Python.blank id = false) (short : id.utf8ByteSize ≤ 128) (fresh : id ∉ tracker.set)
    (written : dumps json (.dict (request.build id sent)) = some text)
    (fits : text.utf8ByteSize ≤ maxMessageBytes)
    (requestInverse : Inverse json (.dict (request.build id sent)))
    (responseInverse : Inverse json (request.response id now).toValue) :
    exchange json now tracker request id text = some request.authority ∧
      ∀ batteryPercent executionType, request = .energy batteryPercent executionType →
        ¬(0 ≤ batteryPercent ∧ batteryPercent ≤ 255) →
        exchange json now tracker request id text =
          some (.plain false (some "INVALID_ENERGY_REQUEST")) := by
  have agreed : exchange json now tracker request id text = some request.authority := by
    have read := requestInverse.fromStr_dumps text written
    rw [request.build_eq] at written read
    obtain ⟨stamp, parsed⟩ := parseEnvelopeLine_request clock visible short written fits read
    obtain ⟨answer, serialized⟩ := request.response_written id now json
    obtain ⟨payload, isDict⟩ := request.response_payload id now
    have visibleAnswer : Python.blank (request.response id now).correlationId = false := by
      rw [request.response_correlationId]
      exact visible
    have returned := parseEnvelope_response isDict visibleAnswer serialized
      (request.response_fits short now serialized)
      (responseInverse.loads_toJsonString answer serialized)
    have stampEq : (request.response id now).timestamp = now := by
      cases request <;> rfl
    rw [request.response_correlationId, stampEq] at returned
    simp only [exchange, parsed, request.dispatched fresh, serializeEnvelope, serialized, returned]
    exact request.parseResult_response id now isDict
  refine ⟨agreed, ?_⟩
  rintro batteryPercent executionType rfl outside
  have noByte : ¬(0 ≤ batteryPercent ∧ batteryPercent < 256) := by omega
  rw [agreed, Request.authority, energyAuthority, dif_neg noByte]

/-! An energy request at 15 percent and the two texts it gives rise to. -/

def energyRequest : Request := .energy 15 "LLM"

def energyText : String :=
  "\x7b\"message_type\":\"ENERGY_VALIDATE\",\"timestamp\":1700,\"correlation_id\":\"e7\"," ++
  "\"payload\":\x7b\"battery_percent\":15,\"execution_type\":\"LLM\"\x7d\x7d"

def energyAnswer : String :=
  "\x7b\"message_type\":\"ENERGY_RESULT\",\"timestamp\":1702,\"correlation_id\":\"e7\"," ++
  "\"payload\":\x7b\"allowed\":false,\"reason\":\"LLM_BLOCKED_SILENT\"\x7d\x7d"

/-- The two texts of the exchange, read as both libraries read them. -/
def energyRead (text : String) : Option Value :=
  if text = energyText then some (.dict (energyRequest.build "e7" 1700))
  else if text = energyAnswer then some (energyRequest.response "e7" 1702).toValue
  else none

def energyReaders : JsonReaders := ⟨energyRead, energyRead, fun _ => []⟩

theorem inverse_of_text {read : String → Option Value} {floatText : PyFloat → List Char} {v : Value}
    {text : String} (python : dumps ⟨read, read, floatText⟩ v = some text)
    (rust : toJsonString ⟨read, read, floatText⟩ v = some text) (known : read text = some v) :
    Inverse ⟨read, read, floatText⟩ v where
  fromStr_dumps := by
    intro written same
    rw [python] at same
    cases same
    exact known
  loads_toJsonString := by
    intro written same
    rw [rust] at same
    cases same
    exact known

theorem codecs_agree_energy :
    exchange energyReaders 1702 (CorrelationTracker.new defaultMaxTrackedCorrelations)
        energyRequest "e7" energyText = some (.plain false (some "LLM_BLOCKED_SILENT")) := by
  have written : dumps energyReaders (.dict (energyRequest.build "e7" 1700)) = some energyText ∧
      toJsonString energyReaders (.dict (energyRequest.build "e7" 1700)) = some energyText := by
    decide +kernel
  have answered : dumps energyReaders (energyRequest.response "e7" 1702).toValue =
        some energyAnswer ∧
      toJsonString energyReaders (energyRequest.response "e7" 1702).toValue = some energyAnswer := by
    decide +kernel
  have sizes : energyAnswer ≠ energyText ∧ energyText.utf8ByteSize ≤ maxMessageBytes ∧
      Python.blank "e7" = false ∧ "e7".utf8ByteSize ≤ 128 := by decide +kernel
  have requestInverse : Inverse energyReaders (.dict (energyRequest.build "e7" 1700)) :=
    inverse_of_text written.1 written.2 (if_pos rfl)
  have responseInverse : Inverse energyReaders (energyRequest.response "e7" 1702).toValue :=
    inverse_of_text answered.1 answered.2 (by rw [energyRead, if_neg sizes.1, if_pos rfl])
  have agreed := (codecs_agree energyReaders energyRequest "e7" energyText 1700 1702
    (CorrelationTracker.new defaultMaxTrackedCorrelations) (by omega) sizes.2.2.1 sizes.2.2.2
    List.not_mem_nil written.1 sizes.2.1 requestInverse responseInverse).1
  have decision : energyRequest.authority = .plain false (some "LLM_BLOCKED_SILENT") := by
    decide +kernel
  rw [agreed, decision]

end Apcos.Guarantees.Codec
