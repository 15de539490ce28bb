import Apcos.Source.Supervisor.Ipc

/-!
# Python messages of the IPC boundary

services/ipc/rust_bridge.py:35-408: `parse_envelope`, the builders and the
result parsers. The clock reading of a builder is an argument. The five parsers
share one body: message type, correlation id, payload, `(allowed, reason)`; the
storage and memory parsers read further fields. All checks answer `None`, so
their order is not observable.
-/
namespace Apcos.Source.Bridge

open Apcos.Source.Python (Value Dict Exc)
open Apcos.Source.Supervisor (MessageType optionalText)
open Apcos.Source.JsonText (JsonReaders)

def maxMessageBytes : Nat := 64 * 1024

/-- The four-field dict every builder returns. -/
def envelope (messageType : MessageType) (timestamp : Int) (correlationId : String)
    (payload : Dict) : Dict :=
  [("message_type", .str messageType.wire), ("timestamp", .int timestamp),
    ("correlation_id", .str correlationId), ("payload", .dict payload)]

/-- `message_type not in {...}`: membership hashes the value, so a list or a
dict raises `TypeError`. -/
def knownMessageType (v : Value) : Except Exc Bool :=
  match v with
  | .str s => .ok ((MessageType.ofWire s).isSome)
  | .list _ => .error ⟨.typeError, "unhashable type: 'list'"⟩
  | .dict _ => .error ⟨.typeError, "unhashable type: 'dict'"⟩
  | _ => .ok false

def parseEnvelope (json : JsonReaders) (line : String) (maxMessageBytes : Nat) :
    Except Exc (Option Dict) :=
  let trimmed := Python.strip line
  if trimmed = "" then .ok none
  else if maxMessageBytes < trimmed.utf8ByteSize then .ok none
  else
    match json.loads trimmed with
    | some (.dict payload) => do
      let messageType := Dict.get payload "message_type"
      let timestamp := Dict.get payload "timestamp"
      let correlationId := Dict.get payload "correlation_id"
      let body := Dict.get payload "payload"
      if !(← knownMessageType messageType) then return none
      else if timestamp.asInt.isNone then return none
      else
        match correlationId, body with
        | .str id, .dict _ =>
          if Python.blank id then return none
          else
            return some [("message_type", messageType), ("timestamp", timestamp),
              ("correlation_id", correlationId), ("payload", body)]
        | _, _ => return none
    | _ => .ok none

/-! ## Builders -/

def buildAuthRequest (now : Int) (correlationId userId tier action : String)
    (authenticated : Bool) : Dict :=
  envelope .authRequest now correlationId
    [("user_id", .str userId), ("tier", .str tier), ("action", .str action),
      ("authenticated", .bool authenticated)]

/-- Payload of the results that carry `(allowed, reason)` only. -/
def decisionPayload (decision : Bool × Option String) : Dict :=
  [("allowed", .bool decision.1), ("reason", optionalText decision.2)]

def buildAuthResult (now : Int) (correlationId : String) (decision : Bool × Option String) : Dict :=
  envelope .authResult now correlationId (decisionPayload decision)

def buildTransitionValidate (now : Int) (correlationId currentState requestedState : String) :
    Dict :=
  envelope .transitionValidate now correlationId
    [("current_state", .str currentState), ("requested_state", .str requestedState)]

def buildTransitionResult (now : Int) (correlationId : String)
    (decision : Bool × Option String) : Dict :=
  envelope .transitionResult now correlationId (decisionPayload decision)

def buildEnergyValidate (now : Int) (correlationId : String) (batteryPercent : Int)
    (executionType : String) : Dict :=
  envelope .energyValidate now correlationId
    [("battery_percent", .int batteryPercent), ("execution_type", .str executionType)]

def buildEnergyResult (now : Int) (correlationId : String) (decision : Bool × Option String) :
    Dict :=
  envelope .energyResult now correlationId (decisionPayload decision)

def buildStorageValidate (now : Int) (correlationId operation lifecycleState energyMode
    executionType : String) (encryptionMetadataPresent : Bool) (encryptionKeyId : Option String) :
    Dict :=
  envelope .storageValidate now correlationId
    [("operation", .str operation), ("lifecycle_state", .str lifecycleState),
      ("energy_mode", .str energyMode), ("execution_type", .str executionType),
      ("encryption_metadata_present", .bool encryptionMetadataPresent),
      ("encryption_key_id", optionalText encryptionKeyId)]

/-- Fields of a `STORAGE_RESULT`. -/
structure StorageFields where
  allowed : Bool
  reason : Option String
  retentionApplied : Bool
  encryptionVerified : Bool
  deriving DecidableEq, Repr

def buildStorageResult (now : Int) (correlationId : String) (fields : StorageFields) : Dict :=
  envelope .storageResult now correlationId
    [("allowed", .bool fields.allowed), ("reason", optionalText fields.reason),
      ("retention_applied", .bool fields.retentionApplied),
      ("encryption_verified", .bool fields.encryptionVerified)]

/-- `metadata_flags` is a dict of booleans or `None`; `dict(metadata_flags or {})`. -/
def buildMemoryValidate (now : Int) (correlationId currentLifecycleState operation
    energyMode : String) (storagePermissionFlag : Bool)
    (metadataFlags : Option (List (String × Bool))) : Dict :=
  envelope .memoryValidate now correlationId
    [("current_lifecycle_state", .str currentLifecycleState), ("operation", .str operation),
      ("energy_mode", .str energyMode), ("storage_permission_flag", .bool storagePermissionFlag),
      ("metadata_flags", .dict ((metadataFlags.getD []).map fun flag => (flag.1, .bool flag.2)))]

/-- Fields of a `MEMORY_RESULT`. -/
structure MemoryFields where
  allowed : Bool
  reason : Option String
  targetState : Option String
  retentionApplied : Bool
  tierChanged : Bool
  deriving DecidableEq, Repr

def buildMemoryResult (now : Int) (correlationId : String) (fields : MemoryFields) : Dict :=
  envelope .memoryResult now correlationId
    [("allowed", .bool fields.allowed), ("reason", optionalText fields.reason),
      ("target_state", optionalText fields.targetState),
      ("retention_applied", .bool fields.retentionApplied),
      ("tier_changed", .bool fields.tierChanged)]

/-! ## Result parsers -/

/-- Message type, expected correlation id and payload object of a result. -/
def resultPayload (messageType : MessageType) (expectedCorrelationId : Option String)
    (envelope : Dict) : Option Dict :=
  if !(Dict.get envelope "message_type").isText messageType.wire then none
  else if !(expectedCorrelationId.all fun id => (Dict.get envelope "correlation_id").isText id) then
    none
  else (Dict.get envelope "payload").asDict

def decisionFields (payload : Dict) : Option (Bool × Option String) := do
  let allowed ← (Dict.get payload "allowed").asBool
  let reason ← (Dict.get payload "reason").asOptionalText
  return (allowed, reason)

def parseAuthResult (envelope : Dict) (expectedCorrelationId : Option String) :
    Option (Bool × Option String) :=
  (resultPayload .authResult expectedCorrelationId envelope).bind decisionFields

def parseTransitionResult (envelope : Dict) (expectedCorrelationId : Option String) :
    Option (Bool × Option String) :=
  (resultPayload .transitionResult expectedCorrelationId envelope).bind decisionFields

def parseEnergyResult (envelope : Dict) (expectedCorrelationId : Option String) :
    Option (Bool × Option String) :=
  (resultPayload .energyResult expectedCorrelationId envelope).bind decisionFields

def storageFields (payload : Dict) : Option StorageFields := do
  let (allowed, reason) ← decisionFields payload
  let retentionApplied ← (Dict.get payload "retention_applied").asBool
  let encryptionVerified ← (Dict.get payload "encryption_verified").asBool
  return { allowed, reason, retentionApplied, encryptionVerified }

def parseStorageResult (envelope : Dict) (expectedCorrelationId : Option String) :
    Option StorageFields :=
  (resultPayload .storageResult expectedCorrelationId envelope).bind storageFields

def memoryFields (payload : Dict) : Option MemoryFields := do
  let (allowed, reason) ← decisionFields payload
  let targetState ← (Dict.get payload "target_state").asOptionalText
  let retentionApplied ← (Dict.get payload "retention_applied").asBool
  let tierChanged ← (Dict.get payload "tier_changed").asBool
  return { allowed, reason, targetState, retentionApplied, tierChanged }

def parseMemoryResult (envelope : Dict) (expectedCorrelationId : Option String) :
    Option MemoryFields :=
  (resultPayload .memoryResult expectedCorrelationId envelope).bind memoryFields

/-! ## A result built by this side parses back -/

@[simp] theorem optionalText_asOptionalText (s : Option String) :
    (optionalText s).asOptionalText = some s := by
  cases s <;> rfl

theorem resultPayload_envelope (messageType : MessageType) (now : Int) (correlationId : String)
    (payload : Dict) :
    resultPayload messageType (some correlationId) (envelope messageType now correlationId payload) =
      some payload := by
  simp [resultPayload, envelope, Python.Dict.get, Python.Dict.getD, List.lookup_cons, Value.isText,
    Value.asDict]

theorem decisionFields_decisionPayload (decision : Bool × Option String) :
    decisionFields (decisionPayload decision) = some decision := by
  simp [decisionFields, decisionPayload, Python.Dict.get, Python.Dict.getD, List.lookup_cons,
    Value.asBool]

theorem parseStorageResult_build (now : Int) (correlationId : String) (fields : StorageFields) :
    parseStorageResult (buildStorageResult now correlationId fields) (some correlationId) =
      some fields := by
  rw [parseStorageResult, buildStorageResult, resultPayload_envelope]
  simp [storageFields, decisionFields, Python.Dict.get, Python.Dict.getD, List.lookup_cons, Value.asBool]

theorem parseMemoryResult_build (now : Int) (correlationId : String) (fields : MemoryFields) :
    parseMemoryResult (buildMemoryResult now correlationId fields) (some correlationId) =
      some fields := by
  rw [parseMemoryResult, buildMemoryResult, resultPayload_envelope]
  simp [memoryFields, decisionFields, Python.Dict.get, Python.Dict.getD, List.lookup_cons, Value.asBool]

end Apcos.Source.Bridge
