import Apcos.Source.Supervisor.Authorities
import Apcos.Source.Supervisor.EventBus
import Apcos.Source.JsonText

/-!
# Rust side of the IPC boundary

os/src/ipc.rs. The typed reads of serde (`IpcEnvelope` and the five request
payloads) are decoders of a `Value`: missing fields, defaults, unknown fields
and the positional form of a derived struct follow serde's derive. A JSON
object is written with its keys in serde_json's order (sorted). Log lines are
not modeled; the event an `EVENT` envelope asks the bus to publish is an output
of the dispatcher.
-/
namespace Apcos.Source.Supervisor

open Apcos.Source.Python (Value Dict)
open Apcos.Source.JsonText (JsonReaders toJsonString)

def defaultMaxMessageBytes : Nat := 64 * 1024

def defaultMaxTrackedCorrelations : Nat := 2048

inductive MessageType where
  | event | stateUpdate | authRequest | authResult | transitionValidate | transitionResult
  | energyValidate | energyResult | storageValidate | storageResult | memoryValidate | memoryResult
  deriving DecidableEq, Repr

/-- `#[serde(rename_all = "SCREAMING_SNAKE_CASE")]`; the Python constants
`MESSAGE_*` (rust_bridge.py:15-26) are the same twelve names. -/
def MessageType.wire : MessageType → String
  | .event => "EVENT"
  | .stateUpdate => "STATE_UPDATE"
  | .authRequest => "AUTH_REQUEST"
  | .authResult => "AUTH_RESULT"
  | .transitionValidate => "TRANSITION_VALIDATE"
  | .transitionResult => "TRANSITION_RESULT"
  | .energyValidate => "ENERGY_VALIDATE"
  | .energyResult => "ENERGY_RESULT"
  | .storageValidate => "STORAGE_VALIDATE"
  | .storageResult => "STORAGE_RESULT"
  | .memoryValidate => "MEMORY_VALIDATE"
  | .memoryResult => "MEMORY_RESULT"

def MessageType.all : List MessageType :=
  [.event, .stateUpdate, .authRequest, .authResult, .transitionValidate, .transitionResult,
    .energyValidate, .energyResult, .storageValidate, .storageResult, .memoryValidate,
    .memoryResult]

def MessageType.ofWire (name : String) : Option MessageType :=
  MessageType.all.find? fun t => t.wire == name

structure IpcEnvelope where
  messageType : MessageType
  timestamp : Fin (2 ^ 128)
  correlationId : String
  payload : Value

inductive IpcError where
  | messageTooLarge | invalidJson | invalidSchema
  deriving DecidableEq, Repr

inductive DispatchResult where
  | ignored
  | duplicateIgnored
  | eventForwarded (event : Event)
  | stateUpdateAccepted
  | authResultGenerated (response : IpcEnvelope)
  | transitionResultGenerated (response : IpcEnvelope)
  | energyResultGenerated (response : IpcEnvelope)
  | storageResultGenerated (response : IpcEnvelope)
  | memoryResultGenerated (response : IpcEnvelope)

/-! ## Correlation tracker -/

structure CorrelationTracker where
  set : List String
  queue : List String
  maxEntries : Nat
  deriving DecidableEq, Repr

def CorrelationTracker.new (maxEntries : Nat) : CorrelationTracker :=
  ⟨[], [], max maxEntries 1⟩

/-- `while queue.len() > max_entries { pop_front; set.remove }`. -/
def evictOldest (maxEntries : Nat) : List String → List String → List String × List String
  | set, [] => (set, [])
  | set, oldest :: queue =>
    if maxEntries < (oldest :: queue).length then
      evictOldest maxEntries (set.filter (· != oldest)) queue
    else (set, oldest :: queue)

/-- Returns `true` when the id was not held. -/
def CorrelationTracker.markSeen (tracker : CorrelationTracker) (correlationId : String) :
    Bool × CorrelationTracker :=
  if tracker.set.contains correlationId then (false, tracker)
  else
    let kept := evictOldest tracker.maxEntries (correlationId :: tracker.set)
      (tracker.queue ++ [correlationId])
    (true, { tracker with set := kept.1, queue := kept.2 })

theorem CorrelationTracker.markSeen_of_mem {tracker : CorrelationTracker} {id : String}
    (held : id ∈ tracker.set) : tracker.markSeen id = (false, tracker) := by
  simp [CorrelationTracker.markSeen, held]

theorem CorrelationTracker.markSeen_fresh {tracker : CorrelationTracker} {id : String}
    (fresh : id ∉ tracker.set) : ∃ tracker', tracker.markSeen id = (true, tracker') := by
  simp [CorrelationTracker.markSeen, fresh]

/-! ## Result envelopes -/

def optionalText : Option String → Value
  | none => .null
  | some s => .str s

/-- Shared by the three results that carry a decision and a reason only. -/
def decisionPayload (allowed : Bool) (reason : Option String) : Value :=
  .dict [("allowed", .bool allowed), ("reason", optionalText reason)]

def buildAuthResultEnvelope (now : Fin (2 ^ 128)) (correlationId : String) (result : AuthResult) :
    IpcEnvelope :=
  ⟨.authResult, now, correlationId, decisionPayload result.allowed result.reason⟩

def buildTransitionResultEnvelope (now : Fin (2 ^ 128)) (correlationId : String) (allowed : Bool)
    (reason : Option String) : IpcEnvelope :=
  ⟨.transitionResult, now, correlationId, decisionPayload allowed reason⟩

def buildEnergyResultEnvelope (now : Fin (2 ^ 128)) (correlationId : String) (allowed : Bool)
    (reason : Option String) : IpcEnvelope :=
  ⟨.energyResult, now, correlationId, decisionPayload allowed reason⟩

def buildStorageResultEnvelope (now : Fin (2 ^ 128)) (correlationId : String) (allowed : Bool)
    (reason : Option String) (retentionApplied encryptionVerified : Bool) : IpcEnvelope :=
  ⟨.storageResult, now, correlationId, .dict
    [("allowed", .bool allowed), ("encryption_verified", .bool encryptionVerified),
      ("reason", optionalText reason), ("retention_applied", .bool retentionApplied)]⟩

def nonEmpty (reason : String) : Option String := if reason = "" then none else some reason

def buildMemoryResultEnvelope (now : Fin (2 ^ 128)) (correlationId : String)
    (decision : MemoryDecision) : IpcEnvelope :=
  ⟨.memoryResult, now, correlationId, .dict
    [("allowed", .bool decision.allowed), ("reason", optionalText (nonEmpty decision.reason)),
      ("retention_applied", .bool decision.retentionApplied),
      ("target_state", optionalText decision.targetState),
      ("tier_changed", .bool decision.tierChanged)]⟩

/-! ## Envelope text -/

def IpcEnvelope.toValue (envelope : IpcEnvelope) : Value :=
  .dict [("message_type", .str envelope.messageType.wire), ("timestamp", .int envelope.timestamp.val),
    ("correlation_id", .str envelope.correlationId), ("payload", envelope.payload)]

theorem IpcEnvelope.isData_toValue {envelope : IpcEnvelope}
    (payload : JsonText.isData envelope.payload = true) : JsonText.isData envelope.toValue = true := by
  simp only [IpcEnvelope.toValue, JsonText.isData, JsonText.entriesData, payload, Bool.and_true]

def serializeEnvelope (json : JsonReaders) (envelope : IpcEnvelope) : Except IpcError String :=
  match toJsonString json envelope.toValue with
  | some text => .ok text
  | none => .error .invalidJson

/-- A unit variant is its name, or an object whose only key is the name with a null. -/
def decodeMessageType : Value → Option MessageType
  | .str name => MessageType.ofWire name
  | .dict [(name, .null)] => MessageType.ofWire name
  | _ => none

theorem toNat_lt_clock {n : Int} (h : 0 ≤ n ∧ n < 2 ^ 128) : n.toNat < 2 ^ 128 := by omega

def decodeU128 : Value → Option (Fin (2 ^ 128))
  | .int n => if h : 0 ≤ n ∧ n < 2 ^ 128 then some ⟨n.toNat, toNat_lt_clock h⟩ else none
  | _ => none

def envelopeOfFields (messageType timestamp correlationId payload : Value) : Option IpcEnvelope := do
  let messageType ← decodeMessageType messageType
  let timestamp ← decodeU128 timestamp
  let correlationId ← correlationId.asText
  return { messageType, timestamp, correlationId, payload }

/-- A field of a derived struct: a missing one and a repeated one are errors. -/
def fieldOnce (entries : Dict) (key : String) : Option Value :=
  match entries.filter fun entry => entry.1 == key with
  | [entry] => some entry.2
  | _ => none

/-- serde's read of the derived struct: an object with each of the four fields
once, or an array of them in declaration order. -/
def decodeEnvelope : Value → Option IpcEnvelope
  | .dict entries => do
    let messageType ← fieldOnce entries "message_type"
    let timestamp ← fieldOnce entries "timestamp"
    let correlationId ← fieldOnce entries "correlation_id"
    let payload ← fieldOnce entries "payload"
    envelopeOfFields messageType timestamp correlationId payload
  | .list [messageType, timestamp, correlationId, payload] =>
    envelopeOfFields messageType timestamp correlationId payload
  | _ => none

def validateEnvelope (envelope : IpcEnvelope) : Except IpcError Unit :=
  if trim envelope.correlationId = "" ∨ 128 < envelope.correlationId.utf8ByteSize then
    .error .invalidSchema
  else
    match envelope.payload with
    | .dict _ => .ok ()
    | _ => .error .invalidSchema

def parseEnvelopeLine (json : JsonReaders) (line : String) (maxBytes : Nat) :
    Except IpcError (Option IpcEnvelope) :=
  let trimmed := trim line
  if trimmed = "" then .ok none
  else if max maxBytes 1 < trimmed.utf8ByteSize then .error .messageTooLarge
  else
    match (json.fromStr trimmed).bind decodeEnvelope with
    | none => .error .invalidJson
    | some envelope => (validateEnvelope envelope).map fun _ => some envelope

/-! ## Request payloads -/

/-- A field with `#[serde(default)]`: absent reads as the default, a present one must decode.
The five requests may also come as arrays of their fields in declaration order, of which
only defaulted fields at the end may be left out. -/
def fieldOr {α : Type} (entries : Dict) (key : String) (decode : Value → Option α) (default : α) :
    Option α :=
  match entries.lookup key with
  | none => some default
  | some v => decode v

def textField (entries : Dict) (key : String) : Option String :=
  (entries.lookup key).bind Value.asText

structure AuthRequestPayload where
  userId : String
  tier : String
  action : String
  authenticated : Bool

def parseAuthRequest : Value → Option AuthRequestPayload
  | .dict entries => do
    let userId ← textField entries "user_id"
    let tier ← textField entries "tier"
    let action ← textField entries "action"
    let authenticated ← fieldOr entries "authenticated" Value.asBool false
    return { userId, tier, action, authenticated }
  | .list [.str userId, .str tier, .str action] => some ⟨userId, tier, action, false⟩
  | .list [.str userId, .str tier, .str action, .bool authenticated] =>
    some { userId, tier, action, authenticated }
  | _ => none

structure TransitionRequestPayload where
  currentState : String
  requestedState : String

def parseTransitionRequest : Value → Option TransitionRequestPayload
  | .dict entries => do
    let currentState ← textField entries "current_state"
    let requestedState ← textField entries "requested_state"
    return { currentState, requestedState }
  | .list [.str currentState, .str requestedState] => some { currentState, requestedState }
  | _ => none

theorem toNat_lt_byte {n : Int} (h : 0 ≤ n ∧ n < 256) : n.toNat < 256 := by omega

def decodeU8 : Value → Option (Fin 256)
  | .int n => if h : 0 ≤ n ∧ n < 256 then some ⟨n.toNat, toNat_lt_byte h⟩ else none
  | _ => none

structure EnergyValidatePayload where
  batteryPercent : Fin 256
  executionType : String

def parseEnergyValidateRequest : Value → Option EnergyValidatePayload
  | .dict entries => do
    let batteryPercent ← (entries.lookup "battery_percent").bind decodeU8
    let executionType ← textField entries "execution_type"
    return { batteryPercent, executionType }
  | .list [batteryPercent, .str executionType] => do
    let batteryPercent ← decodeU8 batteryPercent
    return { batteryPercent, executionType }
  | _ => none

structure StorageValidatePayload where
  operation : String
  lifecycleState : String
  energyMode : String
  executionType : String
  encryptionMetadataPresent : Bool
  encryptionKeyId : Option String

/-- By position the key id has to be there, if only as a null: it has no default. -/
def parseStorageValidateRequest : Value → Option StorageValidatePayload
  | .dict entries => do
    let operation ← textField entries "operation"
    let lifecycleState ← textField entries "lifecycle_state"
    let energyMode ← textField entries "energy_mode"
    let executionType ← textField entries "execution_type"
    let encryptionMetadataPresent ←
      fieldOr entries "encryption_metadata_present" Value.asBool false
    let encryptionKeyId ← fieldOr entries "encryption_key_id" Value.asOptionalText none
    return { operation, lifecycleState, energyMode, executionType, encryptionMetadataPresent,
             encryptionKeyId }
  | .list [.str operation, .str lifecycleState, .str energyMode, .str executionType,
      .bool encryptionMetadataPresent, keyId] => do
    let encryptionKeyId ← keyId.asOptionalText
    return { operation, lifecycleState, energyMode, executionType, encryptionMetadataPresent,
             encryptionKeyId }
  | _ => none

/-- Every flag defaults to `false`; the struct may also come as an array of at
most three flags in declaration order. -/
def decodeMetadata : Value → Option MemoryMetadataFlags
  | .dict entries => do
    let criticalReminder ← fieldOr entries "critical_reminder" Value.asBool false
    let allowArchivedReactivation ←
      fieldOr entries "allow_archived_reactivation" Value.asBool false
    let retentionDue ← fieldOr entries "retention_due" Value.asBool false
    return { criticalReminder, allowArchivedReactivation, retentionDue }
  | .list [] => some {}
  | .list [.bool a] => some { criticalReminder := a }
  | .list [.bool a, .bool b] => some { criticalReminder := a, allowArchivedReactivation := b }
  | .list [.bool a, .bool b, .bool c] => some ⟨a, b, c⟩
  | _ => none

structure MemoryValidatePayload where
  currentLifecycleState : String
  operation : String
  energyMode : String
  storagePermissionFlag : Bool
  metadataFlags : MemoryMetadataFlags

def parseMemoryValidateRequest : Value → Option MemoryValidatePayload
  | .dict entries => do
    let currentLifecycleState ← textField entries "current_lifecycle_state"
    let operation ← textField entries "operation"
    let energyMode ← textField entries "energy_mode"
    let storagePermissionFlag ← fieldOr entries "storage_permission_flag" Value.asBool false
    let metadataFlags ← fieldOr entries "metadata_flags" decodeMetadata {}
    return { currentLifecycleState, operation, energyMode, storagePermissionFlag, metadataFlags }
  | .list [.str currentLifecycleState, .str operation, .str energyMode] =>
    some ⟨currentLifecycleState, operation, energyMode, false, {}⟩
  | .list [.str currentLifecycleState, .str operation, .str energyMode,
      .bool storagePermissionFlag] =>
    some ⟨currentLifecycleState, operation, energyMode, storagePermissionFlag, {}⟩
  | .list [.str currentLifecycleState, .str operation, .str energyMode,
      .bool storagePermissionFlag, flags] => do
    let metadataFlags ← decodeMetadata flags
    return { currentLifecycleState, operation, energyMode, storagePermissionFlag, metadataFlags }
  | _ => none

/-! ## Dispatch -/

def mapEventName : String → Option Event
  | "IntentParsed" => some .intentParsed
  | "LifecycleValidated" => some .lifecycleValidated
  | "TaskCreated" => some .taskCreated
  | "TaskCompleted" => some .taskCompleted
  | "TaskArchived" => some .taskArchived
  | "BatteryLow" => some .batteryLow
  | "ThermalHigh" => some .thermalHigh
  | "SleepEntered" => some .sleepEntered
  | "SleepExited" => some .sleepExited
  | "IdentityChanged" => some .identityChanged
  | "ModelDowngrade" => some .modelDowngrade
  | "ModelUnload" => some .modelUnload
  | _ => none

def extractEvent (payload : Value) : Option Event := do
  let entries ← payload.asDict
  let name ← textField entries "event"
  mapEventName name

/-- The answer to an `AUTH_REQUEST` payload. -/
def answerAuth (payload : Value) : AuthResult :=
  match parseAuthRequest payload with
  | none => ⟨false, some "INVALID_AUTH_REQUEST"⟩
  | some request =>
    authorizeWithTierString request.userId request.tier request.authenticated request.action

def answerTransition (payload : Value) : LifecycleResult :=
  match parseTransitionRequest payload with
  | none => ⟨false, some "INVALID_TRANSITION_REQUEST"⟩
  | some request => validateTransitionFromStr request.currentState request.requestedState

def answerEnergy (payload : Value) : EnergyDecision :=
  match parseEnergyValidateRequest payload with
  | none => ⟨false, some "INVALID_ENERGY_REQUEST"⟩
  | some request =>
    match parseExecutionType request.executionType with
    | none => ⟨false, some "UNKNOWN_EXECUTION_TYPE"⟩
    | some execution => authorizeExecution (determineMode request.batteryPercent) execution

/-- Parse order of the dispatcher: operation, energy mode, execution type. -/
def storageAuthority (request : StorageValidatePayload) : StorageDecision :=
  match parseStorageOperation request.operation with
  | none => .deny "UNKNOWN_STORAGE_OPERATION" false false
  | some operation =>
    match parseEnergyMode request.energyMode with
    | none => .deny "UNKNOWN_ENERGY_MODE" false false
    | some energyMode =>
      match parseExecutionType request.executionType with
      | none => .deny "UNKNOWN_EXECUTION_TYPE" false false
      | some executionType =>
        authorizeStorage operation request.lifecycleState energyMode executionType
          request.encryptionMetadataPresent request.encryptionKeyId

def answerStorage (payload : Value) : StorageDecision :=
  match parseStorageValidateRequest payload with
  | none => .deny "INVALID_STORAGE_REQUEST" false false
  | some request => storageAuthority request

def memoryAuthority (request : MemoryValidatePayload) : MemoryDecision :=
  match parseMemoryOperation request.operation with
  | none => .deny "UNKNOWN_MEMORY_OPERATION" none false false
  | some operation =>
    match parseEnergyMode request.energyMode with
    | none => .deny "UNKNOWN_ENERGY_MODE" none false false
    | some energyMode =>
      determineMemoryTransition request.currentLifecycleState energyMode
        request.storagePermissionFlag operation request.metadataFlags

def answerMemory (payload : Value) : MemoryDecision :=
  match parseMemoryValidateRequest payload with
  | none => .deny "INVALID_MEMORY_REQUEST" none false false
  | some request => memoryAuthority request

/-- Outcome of a dispatch: the result, the tracker and the event handed to the bus. -/
structure Dispatched where
  result : DispatchResult
  tracker : CorrelationTracker
  published : Option Event

def dispatchIncoming (now : Fin (2 ^ 128)) (envelope : IpcEnvelope) (tracker : CorrelationTracker) :
    Dispatched :=
  match tracker.markSeen envelope.correlationId with
  | (false, tracker) => ⟨.duplicateIgnored, tracker, none⟩
  | (true, tracker) =>
    let id := envelope.correlationId
    match envelope.messageType with
    | .stateUpdate => ⟨.stateUpdateAccepted, tracker, none⟩
    | .event =>
      match extractEvent envelope.payload with
      | some event => ⟨.eventForwarded event, tracker, some event⟩
      | none => ⟨.ignored, tracker, none⟩
    | .authRequest =>
      ⟨.authResultGenerated (buildAuthResultEnvelope now id (answerAuth envelope.payload)),
        tracker, none⟩
    | .transitionValidate =>
      let decision := answerTransition envelope.payload
      ⟨.transitionResultGenerated
        (buildTransitionResultEnvelope now id decision.allowed decision.reason), tracker, none⟩
    | .energyValidate =>
      let decision := answerEnergy envelope.payload
      ⟨.energyResultGenerated (buildEnergyResultEnvelope now id decision.allowed decision.reason),
        tracker, none⟩
    | .storageValidate =>
      let decision := answerStorage envelope.payload
      ⟨.storageResultGenerated
        (buildStorageResultEnvelope now id decision.allowed (nonEmpty decision.reason)
          decision.retentionApplied decision.encryptionVerified), tracker, none⟩
    | .memoryValidate =>
      ⟨.memoryResultGenerated (buildMemoryResultEnvelope now id (answerMemory envelope.payload)),
        tracker, none⟩
    | .authResult | .transitionResult | .energyResult | .storageResult | .memoryResult =>
      ⟨.ignored, tracker, none⟩

/-- The envelope written back to Python, when the dispatch generated one. -/
def DispatchResult.response : DispatchResult → Option IpcEnvelope
  | .authResultGenerated response | .transitionResultGenerated response
  | .energyResultGenerated response | .storageResultGenerated response
  | .memoryResultGenerated response => some response
  | .ignored | .duplicateIgnored | .eventForwarded _ | .stateUpdateAccepted => none

end Apcos.Source.Supervisor
