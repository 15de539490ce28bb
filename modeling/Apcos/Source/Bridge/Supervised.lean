import Apcos.Source.Bridge.Approval

/-!
# Bridges answered by the supervisor

A transport that hands the request to the supervisor's dispatcher and returns
the response it generates (`None` when it generates none). Envelope and payload
decoders of ipc.rs are evaluated on what the Python builders write, so that an
approval on the wire is an approval of the Rust policy on the arguments of the
request.
-/
namespace Apcos.Source.Bridge

open Apcos.Lib
open Apcos.Source.Python (Value Dict Exc)
open Apcos.Source.Supervisor

variable {ω : Type}

/-- The supervisor process: its tracker is a part of the world, its clock reads the world. -/
structure Supervisor (ω : Type) where
  tracker : Lens ω CorrelationTracker
  clock : ω → Fin (2 ^ 128) × ω

/-- `parse_envelope_line`'s checks after the JSON read. -/
def acceptedEnvelope (request : Value) : Option IpcEnvelope :=
  match decodeEnvelope request with
  | none => none
  | some envelope =>
    match validateEnvelope envelope with
    | .ok _ => some envelope
    | .error _ => none

def Supervisor.transport (supervisor : Supervisor ω) : Transport ω := fun request env =>
  match acceptedEnvelope (.dict request) with
  | none => (.ok .null, env)
  | some envelope =>
    let now := supervisor.clock env
    let dispatched := dispatchIncoming now.1 envelope (supervisor.tracker.get now.2)
    (.ok ((dispatched.result.response.map IpcEnvelope.toValue).getD .null),
      supervisor.tracker.set dispatched.tracker now.2)

/-! ## Decoding what Python builds -/

theorem ofWire_wire (messageType : MessageType) :
    MessageType.ofWire messageType.wire = some messageType := by
  cases messageType <;> decide

/-- The typed read of an envelope built in Python. -/
theorem decodeEnvelope_envelope (messageType : MessageType) (now : Int) (id : String)
    (payload : Dict) :
    decodeEnvelope (.dict (envelope messageType now id payload)) =
      (decodeU128 (.int now)).map fun timestamp =>
        { messageType, timestamp, correlationId := id, payload := .dict payload } := by
  have read : decodeEnvelope (.dict (envelope messageType now id payload)) =
      envelopeOfFields (.str messageType.wire) (.int now) (.str id) (.dict payload) := rfl
  rw [read, envelopeOfFields, decodeMessageType, ofWire_wire]
  cases decodeU128 (.int now) <;> rfl

/-- The fields serde reads from a storage request. -/
def StorageRequest.payload (r : StorageRequest) : StorageValidatePayload :=
  ⟨r.operation, r.lifecycleState, r.energyMode, r.executionType, r.encryptionMetadataPresent,
    r.encryptionKeyId⟩

/-- Absent flags are false; other names are not read. -/
def flagOf (flags : List (String × Bool)) (name : String) : Bool := (flags.lookup name).getD false

def MemoryRequest.payload (r : MemoryRequest) : MemoryValidatePayload :=
  ⟨r.currentLifecycleState, r.operation, r.energyMode, r.storagePermissionFlag,
    ⟨flagOf (r.metadataFlags.getD []) "critical_reminder",
      flagOf (r.metadataFlags.getD []) "allow_archived_reactivation",
      flagOf (r.metadataFlags.getD []) "retention_due"⟩⟩

theorem StorageRequest.answer_build (r : StorageRequest) (id : String) (now : Int) :
    answerStorage (Dict.get (r.build id now) "payload") = storageAuthority r.payload := by
  obtain ⟨operation, lifecycleState, energyMode, executionType, present, keyId⟩ := r
  cases keyId <;> rfl

theorem lookup_flags (flags : List (String × Bool)) (name : String) :
    (flags.map fun flag => (flag.1, Value.bool flag.2)).lookup name =
      (flags.lookup name).map Value.bool := by
  induction flags with
  | nil => rfl
  | cons flag rest ih =>
    rw [List.map_cons, List.lookup_cons, List.lookup_cons]
    cases name == flag.1 with
    | true => rfl
    | false => exact ih

theorem fieldOr_flag (flags : List (String × Bool)) (name : String) :
    fieldOr (flags.map fun flag => (flag.1, Value.bool flag.2)) name Value.asBool false =
      some (flagOf flags name) := by
  unfold fieldOr flagOf
  rw [lookup_flags]
  cases flags.lookup name <;> rfl

theorem decodeMetadata_flags (flags : List (String × Bool)) :
    decodeMetadata (.dict (flags.map fun flag => (flag.1, Value.bool flag.2))) =
      some ⟨flagOf flags "critical_reminder", flagOf flags "allow_archived_reactivation",
        flagOf flags "retention_due"⟩ := by
  simp only [decodeMetadata, fieldOr_flag]
  rfl

theorem MemoryRequest.parse_build (r : MemoryRequest) (id : String) (now : Int) :
    parseMemoryValidateRequest (Dict.get (r.build id now) "payload") = some r.payload := by
  have read : parseMemoryValidateRequest (Dict.get (r.build id now) "payload") =
      (decodeMetadata (.dict ((r.metadataFlags.getD []).map
        fun flag => (flag.1, Value.bool flag.2)))).bind
        fun flags => some ⟨r.currentLifecycleState, r.operation, r.energyMode,
          r.storagePermissionFlag, flags⟩ := rfl
  rw [read, decodeMetadata_flags]
  rfl

theorem MemoryRequest.answer_build (r : MemoryRequest) (id : String) (now : Int) :
    answerMemory (Dict.get (r.build id now) "payload") = memoryAuthority r.payload := by
  rw [answerMemory, r.parse_build id now]

/-! ## Approvals of the supervisor -/

/-- A reply of the supervisor that is a dict is the response to the accepted envelope. -/
theorem Supervisor.transport_reply (supervisor : Supervisor ω) (request : Dict) (env : ω)
    (reply : Dict) (answered : (supervisor.transport request env).1 = .ok (.dict reply)) :
    ∃ envelope now tracker response, acceptedEnvelope (.dict request) = some envelope ∧
      (dispatchIncoming now envelope tracker).result.response = some response ∧
      Value.dict reply = response.toValue := by
  unfold Supervisor.transport at answered
  cases accepted : acceptedEnvelope (.dict request) with
  | none =>
    rw [accepted] at answered
    cases answered
  | some envelope =>
    rw [accepted] at answered
    cases dispatched : (dispatchIncoming (supervisor.clock env).1 envelope
        (supervisor.tracker.get (supervisor.clock env).2)).result.response with
    | none =>
      simp only [dispatched] at answered
      cases answered
    | some response =>
      simp only [dispatched] at answered
      refine ⟨envelope, _, _, response, rfl, dispatched, ?_⟩
      injection answered with same
      exact same.symm

/-- What the supervisor accepts of a Python envelope has its type, its id and its payload. -/
theorem acceptedEnvelope_envelope {messageType : MessageType} {now : Int} {id : String}
    {payload : Dict} {accepted : IpcEnvelope}
    (read : acceptedEnvelope (.dict (envelope messageType now id payload)) = some accepted) :
    accepted.messageType = messageType ∧ accepted.correlationId = id ∧
      accepted.payload = .dict payload := by
  unfold acceptedEnvelope at read
  rw [decodeEnvelope_envelope] at read
  cases stamp : decodeU128 (.int now) with
  | none =>
    rw [stamp] at read
    cases read
  | some timestamp =>
    rw [stamp] at read
    simp only [Option.map_some] at read
    split at read
    · cases read
      exact ⟨rfl, rfl, rfl⟩
    · cases read

/-- Only a fresh message is answered. -/
theorem markSeen_of_answered {now : Fin (2 ^ 128)} {e : IpcEnvelope} {tracker : CorrelationTracker}
    {response : IpcEnvelope}
    (answered : (dispatchIncoming now e tracker).result.response = some response) :
    ∃ tracker', tracker.markSeen e.correlationId = (true, tracker') := by
  unfold dispatchIncoming at answered
  rcases seen : tracker.markSeen e.correlationId with ⟨fresh, tracker'⟩
  rw [seen] at answered
  cases fresh with
  | false => cases answered
  | true => exact ⟨tracker', rfl⟩

theorem dispatch_storage {now : Fin (2 ^ 128)} {e : IpcEnvelope} {tracker : CorrelationTracker}
    {response : IpcEnvelope} (kind : e.messageType = .storageValidate)
    (answered : (dispatchIncoming now e tracker).result.response = some response) :
    response = buildStorageResultEnvelope now e.correlationId (answerStorage e.payload).allowed
      (nonEmpty (answerStorage e.payload).reason) (answerStorage e.payload).retentionApplied
      (answerStorage e.payload).encryptionVerified := by
  obtain ⟨tracker', fresh⟩ := markSeen_of_answered answered
  simp only [dispatchIncoming, fresh, kind] at answered
  exact (Option.some.inj answered).symm

theorem dispatch_memory {now : Fin (2 ^ 128)} {e : IpcEnvelope} {tracker : CorrelationTracker}
    {response : IpcEnvelope} (kind : e.messageType = .memoryValidate)
    (answered : (dispatchIncoming now e tracker).result.response = some response) :
    response = buildMemoryResultEnvelope now e.correlationId (answerMemory e.payload) := by
  obtain ⟨tracker', fresh⟩ := markSeen_of_answered answered
  simp only [dispatchIncoming, fresh, kind] at answered
  exact (Option.some.inj answered).symm

theorem storageResult_fields {now : Fin (2 ^ 128)} {id : String} {allowed : Bool}
    {reason : Option String} {retentionApplied encryptionVerified : Bool} {reply payload : Dict}
    (shape : Value.dict reply =
      (buildStorageResultEnvelope now id allowed reason retentionApplied encryptionVerified).toValue)
    (isPayload : Dict.get reply "payload" = .dict payload) :
    Dict.get payload "allowed" = .bool allowed := by
  injection shape with entries
  subst entries
  injection isPayload with fields
  subst fields
  rfl

theorem memoryResult_fields {now : Fin (2 ^ 128)} {id : String} {decision : MemoryDecision}
    {reply payload : Dict} (shape : Value.dict reply =
      (buildMemoryResultEnvelope now id decision).toValue)
    (isPayload : Dict.get reply "payload" = .dict payload) :
    Dict.get payload "allowed" = .bool decision.allowed ∧
      Dict.get payload "target_state" = optionalText decision.targetState := by
  injection shape with entries
  subst entries
  injection isPayload with fields
  subst fields
  exact ⟨rfl, rfl⟩

/-- An approval obtained from the supervisor is an approval of its storage policy. -/
theorem storagePermit_allowed {bridge : RustBridge ω} {r : StorageRequest} {e : Exchange}
    (supervisor : Supervisor ω) (route : bridge.storageRoute = some supervisor.transport)
    (permit : StoragePermit bridge r e) : (storageAuthority r.payload).allowed = true := by
  obtain ⟨approval, id, -, answer, env, sent, routed, requested, replied⟩ := permit
  rw [route] at routed
  cases routed
  obtain ⟨payload, ⟨reply, replyId, isReply, -, -, -, isPayload⟩, allowed, -⟩ := approval.reply
  obtain ⟨accepted, now, tracker, response, read, dispatched, shape⟩ :=
    supervisor.transport_reply e.request env reply (replied.symm.trans isReply)
  rw [requested] at read
  obtain ⟨kind, -, body⟩ := acceptedEnvelope_envelope read
  have answer_eq : answerStorage accepted.payload = storageAuthority r.payload := by
    rw [body]
    exact r.answer_build id sent
  rw [dispatch_storage kind dispatched, answer_eq] at shape
  rw [storageResult_fields shape isPayload] at allowed
  injection allowed

/-- An approval obtained from the supervisor carries its memory policy's target state. -/
theorem memoryPermit_allowed {bridge : RustBridge ω} {r : MemoryRequest} {target : Option String}
    {e : Exchange} (supervisor : Supervisor ω)
    (route : bridge.memoryRoute = some supervisor.transport)
    (permit : MemoryPermit bridge r target e) :
    (memoryAuthority r.payload).allowed = true ∧
      (memoryAuthority r.payload).targetState = target := by
  obtain ⟨approval, id, -, answer, env, sent, routed, requested, replied⟩ := permit
  rw [route] at routed
  cases routed
  obtain ⟨payload, ⟨reply, replyId, isReply, -, -, -, isPayload⟩, allowed, -, named, -⟩ :=
    approval.reply
  obtain ⟨accepted, now, tracker, response, read, dispatched, shape⟩ :=
    supervisor.transport_reply e.request env reply (replied.symm.trans isReply)
  rw [requested] at read
  obtain ⟨kind, -, body⟩ := acceptedEnvelope_envelope read
  have answer_eq : answerMemory accepted.payload = memoryAuthority r.payload := by
    rw [body]
    exact r.answer_build id sent
  rw [dispatch_memory kind dispatched, answer_eq] at shape
  obtain ⟨allowedEq, targetEq⟩ := memoryResult_fields shape isPayload
  rw [allowedEq] at allowed
  rw [targetEq] at named
  have back := congrArg Value.asOptionalText named
  rw [optionalText_asOptionalText, optionalText_asOptionalText] at back
  refine ⟨?_, Option.some.inj back⟩
  injection allowed

end Apcos.Source.Bridge
