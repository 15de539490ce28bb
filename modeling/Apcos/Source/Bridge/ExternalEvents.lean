import Apcos.Source.Bridge.Lines

/-!
# Adapters for external events

services/sync_daemon.py and core/connectors/mobile_connector.py. Both check a
payload, normalise it and hand one `EVENT` message to the IPC bridge; the checks they
share have one definition each. The clock reading, `uuid4` and what the bridge's
method does with a message are arguments of a call.
-/
namespace Apcos.Source.Bridge

open Apcos.Source.Python (Value Dict Exc Runtime strip blank)

/-! ## Checks -/

def valueError {α : Type} (message : String) : Except Exc α := .error ⟨.valueError, message⟩

def forbiddenPayloadKeys : List String := ["__class__", "__dict__", "__globals__"]

def unsafeKeys (body : Dict) : List String :=
  (body.map (·.1)).filter fun key =>
    ['_', '_'].isPrefixOf key.toList || forbiddenPayloadKeys.contains key

/-- The payload, with all required keys. -/
def requiredEntries (payload : Value) (keys : List String) (shape : String) : Except Exc Dict :=
  match payload with
  | .dict entries =>
    if keys.all fun key => (entries.lookup key).isSome then .ok entries
    else valueError "MISSING_REQUIRED_FIELDS"
  | _ => valueError shape

def visibleText (v : Value) (refusal : String) : Except Exc String :=
  match v with
  | .str s => if blank s then valueError refusal else .ok s
  | _ => valueError refusal

/-- A mapping without unsafe keys. -/
def safeMapping (v : Value) (shape refusal : String) : Except Exc Dict :=
  match v with
  | .dict entries => if unsafeKeys entries = [] then .ok entries else valueError refusal
  | _ => valueError shape

def checkCorrelationId (v : Value) : Except Exc Unit :=
  match v with
  | .null => .ok ()
  | v => (visibleText v "INVALID_CORRELATION_ID").map fun _ => ()

/-- The trimmed id of a payload, or a new one. -/
def correlationOf (v : Value) (fresh : String) : String :=
  match v with
  | .str s => if blank s then strip fresh else strip s
  | _ => strip fresh

/-- `isinstance(value, (int, float))`. -/
def isNumber : Value → Bool
  | .int _ => true
  | .bool _ => true
  | .float _ => true
  | _ => false

/-- The integer of a given number, or the clock reading. -/
def stampOf (py : Runtime) (now : Int) (timestamp : Value) : Except Exc Int :=
  if isNumber timestamp then Python.int py timestamp else .ok now

/-! ## Bridge -/

/-- The methods that `callable` finds, and what they do with a message. -/
structure IpcBridge where
  publishEvent : Option (Dict → Except Exc Unit)
  sendMessage : Option (Dict → Except Exc Unit)

/-- The method that `_publish` calls. -/
def IpcBridge.method (bridge : IpcBridge) : Option (Dict → Except Exc Unit) :=
  bridge.publishEvent.or bridge.sendMessage

/-- The outcome of a call and the messages that a method of the bridge was called with. -/
abbrev Handed := Except Exc Dict × List Dict

def publish (bridge : IpcBridge) (message : Dict) : Except Exc Unit × List Dict :=
  match bridge.method with
  | some method => (method message, [message])
  | none => (.error ⟨.runtimeError, "IPC_BRIDGE_UNAVAILABLE"⟩, [])

/-- A call hands over the message it built, and returns it. -/
def forward (bridge : IpcBridge) (built : Except Exc Dict) : Handed :=
  match built with
  | .error exc => (.error exc, [])
  | .ok message =>
    let (published, handed) := publish bridge message
    (published.map fun _ => message, handed)

def eventMessage (timestamp : Int) (correlationId event : String) (data : Dict) : Dict :=
  envelope .event timestamp correlationId [("event", .str event), ("data", .dict data)]

/-! ## Sync daemon -/

namespace SyncDaemon

def syncEventMap : List (String × String) :=
  [("TASK_SNAPSHOT", "LifecycleValidated"), ("TASK_UPDATE", "TaskCreated"),
    ("VECTOR_UPDATE", "ModelDowngrade"), ("ARCHIVAL_HINT", "TaskArchived"),
    ("STATE_RECONCILE", "IdentityChanged")]

def requiredKeys : List String := ["source_id", "sync_type", "payload"]

structure Validated where
  sourceId : String
  syncType : String
  payload : Dict
  mergeHint : Dict
  timestamp : Value
  correlationId : Value

def validatePayload (py : Runtime) (payload : Value) : Except Exc Validated := do
  let entries ← requiredEntries payload requiredKeys "INVALID_SYNC_PAYLOAD_SHAPE"
  let sourceId ← visibleText (Dict.get entries "source_id") "INVALID_SOURCE_ID"
  let syncType ← visibleText (Dict.get entries "sync_type") "INVALID_SYNC_TYPE"
  let normalizedSyncType := py.upper (strip syncType)
  if (syncEventMap.lookup normalizedSyncType).isNone then valueError "UNSUPPORTED_SYNC_TYPE"
  let body ← safeMapping (Dict.get entries "payload") "INVALID_PAYLOAD_BODY" "UNSAFE_PAYLOAD_KEY"
  let mergeHint ← safeMapping (Dict.getD entries "merge_hint" (.dict [])) "INVALID_MERGE_HINT"
    "UNSAFE_MERGE_HINT_KEY"
  let timestamp := Dict.get entries "timestamp"
  if !timestamp.isNull && !isNumber timestamp then valueError "INVALID_TIMESTAMP"
  let correlationId := Dict.get entries "correlation_id"
  checkCorrelationId correlationId
  return { sourceId, syncType := normalizedSyncType, payload := body, mergeHint, timestamp,
           correlationId }

structure SyncEnvelope where
  sourceId : String
  syncType : String
  payload : Dict
  timestamp : Int
  correlationId : String
  mergeHint : Dict

def buildMergeHint (py : Runtime) (rawHint : Dict) (externalTimestamp : Int) : Except Exc Dict := do
  let sourcePriority ← Python.str py (Dict.getD rawHint "source_priority" (.str "normal"))
  let version ← Python.str py (Dict.getD rawHint "version" (.str "v1"))
  let external ← Python.int py (Dict.getD rawHint "external_timestamp" (.int externalTimestamp))
  return [("source_priority", .str sourcePriority), ("version", .str version),
    ("external_timestamp", .int external)]

def normalizePayload (py : Runtime) (now : Int) (uuid : String) (payload : Value) :
    Except Exc SyncEnvelope := do
  let validated ← validatePayload py payload
  let timestamp ← stampOf py now validated.timestamp
  let mergeHint ← buildMergeHint py validated.mergeHint timestamp
  return {
    sourceId := strip validated.sourceId
    syncType := py.upper (strip validated.syncType)
    payload := validated.payload
    timestamp
    correlationId := correlationOf validated.correlationId ("sync-" ++ uuid)
    mergeHint }

/-- The message of `receive_sync`; the map is indexed, so a type without an entry raises. -/
def message (source : String) (e : SyncEnvelope) : Except Exc Dict :=
  match syncEventMap.lookup e.syncType with
  | none => .error ⟨.keyError, e.syncType⟩
  | some event => .ok (eventMessage e.timestamp e.correlationId event
      [("source", .str source),
        ("sync", .dict
          [("source_id", .str e.sourceId), ("sync_type", .str e.syncType),
            ("payload", .dict e.payload), ("merge_hint", .dict e.mergeHint)])])

def build (py : Runtime) (now : Int) (uuid source : String) (payload : Value) : Except Exc Dict := do
  let envelope ← normalizePayload py now uuid payload
  message source envelope

def receiveSync (py : Runtime) (now : Int) (uuid source : String) (bridge : IpcBridge)
    (payload : Value) : Handed :=
  forward bridge (build py now uuid source payload)

end SyncDaemon

/-! ## Mobile connector -/

namespace MobileConnector

def actionEventMap : List (String × String) :=
  [("create_task", "TaskCreated"), ("complete_task", "TaskCompleted"),
    ("archive_task", "TaskArchived"), ("cancel_task", "TaskArchived"),
    ("reminder_ack", "LifecycleValidated")]

def requiredKeys : List String := ["action", "payload"]

structure Validated where
  action : String
  payload : Dict
  correlationId : Value

def validatePayload (py : Runtime) (payload : Value) : Except Exc Validated := do
  let entries ← requiredEntries payload requiredKeys "INVALID_PAYLOAD_SHAPE"
  let action ← visibleText (Dict.get entries "action") "INVALID_ACTION"
  let normalizedAction := py.lower (strip action)
  if (actionEventMap.lookup normalizedAction).isNone then valueError "UNSUPPORTED_ACTION"
  let body ← safeMapping (Dict.get entries "payload") "INVALID_PAYLOAD_BODY" "UNSAFE_PAYLOAD_KEY"
  let correlationId := Dict.get entries "correlation_id"
  checkCorrelationId correlationId
  return { action := normalizedAction, payload := body, correlationId }

structure EventEnvelope where
  eventType : String
  payload : Dict
  source : String
  timestamp : Int
  correlationId : String

/-- The map is indexed, so an action without an entry raises. -/
def normalizeEvent (py : Runtime) (now : Int) (uuid source : String) (payload : Value) :
    Except Exc EventEnvelope := do
  let validated ← validatePayload py payload
  let action := py.lower (strip validated.action)
  match actionEventMap.lookup action with
  | none => .error ⟨.keyError, action⟩
  | some eventType =>
    return {
      eventType
      payload := validated.payload
      source
      timestamp := now
      correlationId := correlationOf validated.correlationId ("mobile-" ++ uuid) }

/-- The message of `receive_event`. -/
def message (e : EventEnvelope) : Dict :=
  eventMessage e.timestamp e.correlationId e.eventType
    [("source", .str e.source), ("payload", .dict e.payload)]

def build (py : Runtime) (now : Int) (uuid source : String) (payload : Value) : Except Exc Dict := do
  let envelope ← normalizeEvent py now uuid source payload
  return message envelope

def receiveEvent (py : Runtime) (now : Int) (uuid source : String) (bridge : IpcBridge)
    (payload : Value) : Handed :=
  forward bridge (build py now uuid source payload)

end MobileConnector

end Apcos.Source.Bridge
