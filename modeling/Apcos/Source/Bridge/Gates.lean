import Apcos.Lib.Comp
import Apcos.Source.Bridge.Messages

/-!
# Bridge requests and gates

services/ipc/rust_bridge.py:411-426 and 484-886. A transport is any function
of the request and of the outside world; it may raise. Every request handed to
a transport is recorded with its reply in `Wire.exchanges`, which no modeled
function reads. The request methods share one body, and so do the gates that
run a callback after an approval; a gate's result `(True, result, None)` is
`Gate.passed result` and `(False, None, reason)` is `Gate.refused reason`.
-/
namespace Apcos.Source.Bridge

open Apcos.Lib
open Apcos.Source.Python (Value Dict Exc DateTime)
open Apcos.Source.Supervisor (MessageType optionalText)

/-- Library calls that read the outside world. -/
structure HostApi (ω : Type) where
  timestampMs : ω → Int × ω
  uuid4 : ω → String × ω
  datetimeNow : ω → DateTime × ω

/-- A host whose clock stands still and whose identifiers count up. -/
def countingHost : HostApi Nat where
  timestampMs n := (0, n)
  uuid4 n := (Python.padded 1 n, n + 1)
  datetimeNow n := (⟨Python.firstInstant, some Python.utcOffset⟩, n)

/-- One use of a transport: the bridge it belongs to, the request, the reply. -/
structure Exchange where
  endpoint : Nat
  request : Dict
  reply : Except Exc Value

/-- The outside world together with the exchanges made so far. -/
structure Wire (ω : Type) where
  env : ω
  exchanges : List Exchange

def Wire.envLens (ω : Type) : Lens (Wire ω) ω where
  get w := w.env
  set env w := { w with env }
  get_set _ _ := rfl
  set_get _ := rfl
  set_set _ _ _ := rfl

abbrev Transport (ω : Type) := Dict → Comp Exc ω Value

/-- `RustBridge`; `endpoint` names the object in recorded exchanges. -/
structure RustBridge (ω : Type) where
  endpoint : Nat
  authTransport : Option (Transport ω) := none
  transitionTransport : Option (Transport ω) := none
  energyTransport : Option (Transport ω) := none
  storageTransport : Option (Transport ω) := none
  memoryTransport : Option (Transport ω) := none

variable {ω σ α δ : Type}

def timestampMs (os : HostApi ω) : Comp Exc (Wire ω) Int :=
  Comp.zoom (Wire.envLens ω) (Comp.ofState os.timestampMs)

def send (endpoint : Nat) (transport : Transport ω) (request : Dict) : Comp Exc (Wire ω) Value :=
  fun w =>
    let answered := transport request w.env
    (answered.1, ⟨answered.2, w.exchanges ++ [⟨endpoint, request, answered.1⟩]⟩)

/-- Shared body of the request methods: without a transport, or on a reply that
is no dict or does not parse, a refusal is built; a parsed reply is rebuilt. -/
def requestDecision (os : HostApi ω) (endpoint : Nat) (transport : Option (Transport ω))
    (request : Int → Dict) (parse : Dict → Option δ) (build : Int → δ → Dict)
    (unavailable invalid : δ) : Comp Exc (Wire ω) Dict := do
  let sent ← timestampMs os
  match transport with
  | none => do
    let now ← timestampMs os
    return build now unavailable
  | some transport => do
    let response ← send endpoint transport (request sent)
    let now ← timestampMs os
    match response.asDict with
    | none => return build now invalid
    | some reply => return build now ((parse reply).getD invalid)

def requestAuthorization (os : HostApi ω) (bridge : RustBridge ω) (userId tier action : String)
    (authenticated : Bool) (correlationId : String) : Comp Exc (Wire ω) Dict :=
  requestDecision os bridge.endpoint bridge.authTransport
    (fun now => buildAuthRequest now correlationId userId tier action authenticated)
    (fun reply => parseAuthResult reply (some correlationId))
    (fun now => buildAuthResult now correlationId)
    (false, some "AUTH_UNAVAILABLE") (false, some "AUTH_INVALID_RESPONSE")

def requestTransitionValidation (os : HostApi ω) (bridge : RustBridge ω)
    (currentState requestedState correlationId : String) : Comp Exc (Wire ω) Dict :=
  requestDecision os bridge.endpoint (bridge.transitionTransport <|> bridge.authTransport)
    (fun now => buildTransitionValidate now correlationId currentState requestedState)
    (fun reply => parseTransitionResult reply (some correlationId))
    (fun now => buildTransitionResult now correlationId)
    (false, some "TRANSITION_AUTH_UNAVAILABLE") (false, some "TRANSITION_INVALID_RESPONSE")

def requestEnergyValidation (os : HostApi ω) (bridge : RustBridge ω) (batteryPercent : Int)
    (executionType correlationId : String) : Comp Exc (Wire ω) Dict :=
  requestDecision os bridge.endpoint (bridge.energyTransport <|> bridge.authTransport)
    (fun now => buildEnergyValidate now correlationId batteryPercent executionType)
    (fun reply => parseEnergyResult reply (some correlationId))
    (fun now => buildEnergyResult now correlationId)
    (false, some "ENERGY_AUTH_UNAVAILABLE") (false, some "ENERGY_INVALID_RESPONSE")

/-- Arguments of a storage request. -/
structure StorageRequest where
  operation : String
  lifecycleState : String
  energyMode : String
  executionType : String
  encryptionMetadataPresent : Bool
  encryptionKeyId : Option String
  deriving DecidableEq, Repr

def StorageRequest.build (r : StorageRequest) (correlationId : String) (now : Int) : Dict :=
  buildStorageValidate now correlationId r.operation r.lifecycleState r.energyMode r.executionType
    r.encryptionMetadataPresent r.encryptionKeyId

def requestStorageValidation (os : HostApi ω) (bridge : RustBridge ω) (r : StorageRequest)
    (correlationId : String) : Comp Exc (Wire ω) Dict :=
  requestDecision os bridge.endpoint (bridge.storageTransport <|> bridge.authTransport)
    (r.build correlationId) (fun reply => parseStorageResult reply (some correlationId))
    (fun now => buildStorageResult now correlationId)
    ⟨false, some "STORAGE_AUTH_UNAVAILABLE", false, false⟩
    ⟨false, some "STORAGE_INVALID_RESPONSE", false, false⟩

/-- Arguments of a memory request. -/
structure MemoryRequest where
  currentLifecycleState : String
  operation : String
  energyMode : String
  storagePermissionFlag : Bool
  metadataFlags : Option (List (String × Bool))
  deriving DecidableEq, Repr

def MemoryRequest.build (r : MemoryRequest) (correlationId : String) (now : Int) : Dict :=
  buildMemoryValidate now correlationId r.currentLifecycleState r.operation r.energyMode
    r.storagePermissionFlag r.metadataFlags

def requestMemoryValidation (os : HostApi ω) (bridge : RustBridge ω) (r : MemoryRequest)
    (correlationId : String) : Comp Exc (Wire ω) Dict :=
  requestDecision os bridge.endpoint (bridge.memoryTransport <|> bridge.authTransport)
    (r.build correlationId) (fun reply => parseMemoryResult reply (some correlationId))
    (fun now => buildMemoryResult now correlationId)
    ⟨false, some "MEMORY_AUTH_UNAVAILABLE", none, false, false⟩
    ⟨false, some "MEMORY_INVALID_RESPONSE", none, false, false⟩

/-! ## Gates -/

inductive Gate (α : Type) where
  | passed (result : α)
  | refused (reason : String)
  deriving DecidableEq, Repr

/-- `reason or default`. -/
def reasonOr (reason : Option String) (default : String) : String :=
  match reason with
  | none => default
  | some s => if s = "" then default else s

/-- Shared body of the gates: the callback runs only on a parsed approval. -/
def maybeExecute (wire : Lens σ (Wire ω)) (request : Comp Exc (Wire ω) Dict)
    (parse : Dict → Option (Bool × Option String)) (invalid denied : String)
    (execute : Comp Exc σ α) : Comp Exc σ (Gate α) := do
  let result ← Comp.zoom wire request
  match parse result with
  | none => return .refused invalid
  | some (allowed, reason) =>
    if !allowed then return .refused (reasonOr reason denied)
    else do
      let value ← execute
      return .passed value

def authorizeAndMaybeRoute (os : HostApi ω) (wire : Lens σ (Wire ω)) (bridge : RustBridge ω)
    (userId tier action : String) (authenticated : Bool) (correlationId : String)
    (routeCallable : Comp Exc σ α) : Comp Exc σ (Gate α) :=
  maybeExecute wire (requestAuthorization os bridge userId tier action authenticated correlationId)
    (fun result => parseAuthResult result (some correlationId))
    "AUTH_INVALID_RESPONSE" "ACCESS_DENIED" routeCallable

def validateTransitionAndMaybeRoute (os : HostApi ω) (wire : Lens σ (Wire ω))
    (bridge : RustBridge ω) (currentState requestedState correlationId : String)
    (routeCallable : Comp Exc σ α) : Comp Exc σ (Gate α) :=
  maybeExecute wire
    (requestTransitionValidation os bridge currentState requestedState correlationId)
    (fun result => parseTransitionResult result (some correlationId))
    "TRANSITION_INVALID_RESPONSE" "INVALID_TRANSITION" routeCallable

def validateEnergyAndMaybeExecute (os : HostApi ω) (wire : Lens σ (Wire ω)) (bridge : RustBridge ω)
    (batteryPercent : Int) (executionType correlationId : String)
    (executeCallable : Comp Exc σ α) : Comp Exc σ (Gate α) :=
  maybeExecute wire (requestEnergyValidation os bridge batteryPercent executionType correlationId)
    (fun result => parseEnergyResult result (some correlationId))
    "ENERGY_INVALID_RESPONSE" "ENERGY_DENIED" executeCallable

def validateStorageAndMaybeExecute (os : HostApi ω) (wire : Lens σ (Wire ω))
    (bridge : RustBridge ω) (r : StorageRequest) (correlationId : String)
    (executeCallable : Comp Exc σ α) : Comp Exc σ (Gate α) :=
  maybeExecute wire (requestStorageValidation os bridge r correlationId)
    (fun result => (parseStorageResult result (some correlationId)).map
      fun fields => (fields.allowed, fields.reason))
    "STORAGE_INVALID_RESPONSE" "STORAGE_DENIED" executeCallable

def validateMemoryAndMaybeTransition (os : HostApi ω) (wire : Lens σ (Wire ω))
    (bridge : RustBridge ω) (r : MemoryRequest) (correlationId : String)
    (transitionCallable : Comp Exc σ α) : Comp Exc σ (Gate α) :=
  maybeExecute wire (requestMemoryValidation os bridge r correlationId)
    (fun result => (parseMemoryResult result (some correlationId)).map
      fun fields => (fields.allowed, fields.reason))
    "MEMORY_INVALID_RESPONSE" "MEMORY_DENIED" transitionCallable

end Apcos.Source.Bridge
