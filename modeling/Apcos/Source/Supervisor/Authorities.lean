import Apcos.Source.Python.Text

/-!
# Rust authority policies

os/src/energy_manager.rs:31-121, os/src/secure_storage.rs:11-162,
os/src/runtime/memory_authority.rs:10-144, os/src/runtime/lifecycle.rs:5-103,
os/src/identity/tier_policy.rs:3-45, os/src/identity/access_control.rs:5-86.
The five decision functions are pure; each is preceded by the parsers the IPC
dispatcher applies to its string arguments. `is_mutating_operation` holds of
every storage operation and is kept as such.
-/
namespace Apcos.Source.Supervisor

open Apcos.Source.Python (trimChars asciiUpper asciiLower)

/-- `char::is_whitespace`: the Unicode White_Space property. -/
def isWhitespace (c : Char) : Bool :=
  let n := c.toNat
  (9 ≤ n && n ≤ 13) || n == 32 || n == 0x85 || n == 0xa0 || n == 0x1680 ||
    (0x2000 ≤ n && n ≤ 0x200a) || n == 0x2028 || n == 0x2029 || n == 0x202f || n == 0x205f ||
    n == 0x3000

/-- `str::trim`. -/
def trim (s : String) : String := String.ofList (trimChars isWhitespace s.toList)

theorem isSpace_of_isWhitespace {c : Char} (white : isWhitespace c = true) :
    Python.isSpace c = true := by
  simp only [isWhitespace, Python.isSpace, Bool.or_eq_true, Bool.and_eq_true, decide_eq_true_eq,
    beq_iff_eq] at white ⊢
  omega

/-- Python's blank test is the stricter one: it also counts U+001C to U+001F. -/
theorem blank_of_trim_eq_empty {s : String} (empty : trim s = "") : Python.blank s = true := by
  rw [trim, String.ofList_eq_empty_iff, Python.trimChars_eq_nil] at empty
  rw [Python.blank_iff]
  intro c member
  exact isSpace_of_isWhitespace (empty c member)

def toAsciiUppercase (s : String) : String := String.ofList (s.toList.map asciiUpper)

def toAsciiLowercase (s : String) : String := String.ofList (s.toList.map asciiLower)

def eqIgnoreAsciiCase (a b : String) : Bool := toAsciiLowercase a == toAsciiLowercase b

/-! ## Energy -/

inductive EnergyMode where
  | strategic | reduced | silent
  deriving DecidableEq, Repr

inductive ExecutionType where
  | llm | proactive | backgroundTask | criticalReminder | voice
  deriving DecidableEq, Repr

structure EnergyDecision where
  allowed : Bool
  reason : Option String
  deriving DecidableEq, Repr

def determineMode (batteryPercent : Fin 256) : EnergyMode :=
  if 50 ≤ batteryPercent.val then .strategic
  else if 20 ≤ batteryPercent.val then .reduced
  else .silent

def parseExecutionType (value : String) : Option ExecutionType :=
  match toAsciiUppercase (trim value) with
  | "LLM" => some .llm
  | "PROACTIVE" => some .proactive
  | "BACKGROUND_TASK" => some .backgroundTask
  | "CRITICAL_REMINDER" => some .criticalReminder
  | "VOICE" => some .voice
  | _ => none

def authorizeExecution (mode : EnergyMode) (execution : ExecutionType) : EnergyDecision :=
  match mode with
  | .strategic => ⟨true, none⟩
  | .reduced =>
    match execution with
    | .backgroundTask => ⟨false, some "BACKGROUND_BLOCKED_REDUCED"⟩
    | .llm => ⟨true, some "LLM_DOWNGRADED_REDUCED"⟩
    | .proactive | .criticalReminder | .voice => ⟨true, none⟩
  | .silent =>
    match execution with
    | .criticalReminder | .voice => ⟨true, none⟩
    | .llm => ⟨false, some "LLM_BLOCKED_SILENT"⟩
    | .proactive => ⟨false, some "PROACTIVE_BLOCKED_SILENT"⟩
    | .backgroundTask => ⟨false, some "BACKGROUND_BLOCKED_SILENT"⟩

/-! ## Storage -/

inductive StorageOperation where
  | writeTask | updateTask | archiveTask | deleteTask | vectorWrite | vectorDelete
  deriving DecidableEq, Repr

structure StorageDecision where
  allowed : Bool
  reason : String
  retentionApplied : Bool
  encryptionVerified : Bool
  deriving DecidableEq, Repr

def StorageDecision.allow (retentionApplied encryptionVerified : Bool) : StorageDecision :=
  ⟨true, "", retentionApplied, encryptionVerified⟩

def StorageDecision.deny (reason : String) (retentionApplied encryptionVerified : Bool) :
    StorageDecision :=
  ⟨false, reason, retentionApplied, encryptionVerified⟩

structure StoragePolicyInput where
  operation : StorageOperation
  lifecycleState : String
  energyMode : EnergyMode
  executionType : ExecutionType
  encryptionMetadataPresent : Bool
  encryptionKeyId : Option String

def parseStorageOperation (value : String) : Option StorageOperation :=
  match toAsciiUppercase (trim value) with
  | "WRITE_TASK" => some .writeTask
  | "UPDATE_TASK" => some .updateTask
  | "ARCHIVE_TASK" => some .archiveTask
  | "DELETE_TASK" => some .deleteTask
  | "VECTOR_WRITE" => some .vectorWrite
  | "VECTOR_DELETE" => some .vectorDelete
  | _ => none

def parseEnergyMode (value : String) : Option EnergyMode :=
  match toAsciiUppercase (trim value) with
  | "STRATEGIC" => some .strategic
  | "REDUCED" => some .reduced
  | "SILENT" => some .silent
  | _ => none

def isArchivedState (state : String) : Bool := eqIgnoreAsciiCase (trim state) "ARCHIVED"

def isMutatingOperation : StorageOperation → Bool
  | .writeTask | .updateTask | .archiveTask | .deleteTask | .vectorWrite | .vectorDelete => true

/-- Archived rows accept `ARCHIVE_TASK` only. -/
def isUpdateStyle : StorageOperation → Bool
  | .writeTask | .updateTask | .vectorWrite | .vectorDelete => true
  | .archiveTask | .deleteTask => false

def determineStoragePolicy (input : StoragePolicyInput) : StorageDecision :=
  let keyPresent := input.encryptionKeyId.any fun value => trim value != ""
  let encryptionVerified := input.encryptionMetadataPresent && keyPresent
  if !encryptionVerified then .deny "ENCRYPTION_METADATA_MISSING" false false
  else if input.operation = .deleteTask then .deny "RETENTION_DELETE_DENIED" true true
  else if isArchivedState input.lifecycleState && isUpdateStyle input.operation then
    .deny "ARCHIVED_STATE_IMMUTABLE" true true
  else if (input.energyMode = .reduced ∨ input.energyMode = .silent) ∧
      input.executionType = .llm ∧ isMutatingOperation input.operation then
    .deny "LLM_STORAGE_BLOCKED_RESTRICTED_ENERGY" false true
  else .allow (input.operation = .archiveTask) true

def authorizeStorage (operation : StorageOperation) (lifecycleState : String)
    (energyMode : EnergyMode) (executionType : ExecutionType) (encryptionMetadataPresent : Bool)
    (encryptionKeyId : Option String) : StorageDecision :=
  determineStoragePolicy
    { operation, lifecycleState, energyMode, executionType, encryptionMetadataPresent,
      encryptionKeyId }

/-! ## Memory -/

inductive MemoryOperation where
  | promoteToActive | demoteToDormant | archiveItem | finalizeArchive | retentionTrigger
  | vectorTierShift
  deriving DecidableEq, Repr

structure MemoryMetadataFlags where
  criticalReminder : Bool := false
  allowArchivedReactivation : Bool := false
  retentionDue : Bool := false
  deriving DecidableEq, Repr

structure MemoryDecision where
  allowed : Bool
  reason : String
  targetState : Option String
  retentionApplied : Bool
  tierChanged : Bool
  deriving DecidableEq, Repr

def MemoryDecision.allow (targetState : Option String) (retentionApplied tierChanged : Bool) :
    MemoryDecision :=
  ⟨true, "", targetState, retentionApplied, tierChanged⟩

def MemoryDecision.deny (reason : String) (targetState : Option String)
    (retentionApplied tierChanged : Bool) : MemoryDecision :=
  ⟨false, reason, targetState, retentionApplied, tierChanged⟩

def parseMemoryOperation (value : String) : Option MemoryOperation :=
  match toAsciiUppercase (trim value) with
  | "PROMOTE_TO_ACTIVE" => some .promoteToActive
  | "DEMOTE_TO_DORMANT" => some .demoteToDormant
  | "ARCHIVE_ITEM" => some .archiveItem
  | "FINALIZE_ARCHIVE" => some .finalizeArchive
  | "RETENTION_TRIGGER" => some .retentionTrigger
  | "VECTOR_TIER_SHIFT" => some .vectorTierShift
  | _ => none

/-- The policy looks at the operation; the current state only separates
archived items from all others. -/
def determineMemoryTransition (currentLifecycleState : String) (energyMode : EnergyMode)
    (storagePermissionFlag : Bool) (operationType : MemoryOperation)
    (metadataFlags : MemoryMetadataFlags) : MemoryDecision :=
  let isArchived := eqIgnoreAsciiCase (trim currentLifecycleState) "ARCHIVED"
  if !storagePermissionFlag then .deny "STORAGE_PERMISSION_REQUIRED" none false false
  else if energyMode = .silent ∧ !metadataFlags.criticalReminder then
    .deny "SILENT_MODE_MEMORY_RESTRICTED" none false false
  else if isArchived ∧ operationType = .promoteToActive ∧
      !metadataFlags.allowArchivedReactivation then
    .deny "ARCHIVED_REACTIVATION_DENIED" none true false
  else
    match operationType with
    | .promoteToActive => .allow (some "ACTIVE") false true
    | .demoteToDormant => .allow (some "COMPLETED") false true
    | .archiveItem =>
      if isArchived then .allow (some "ARCHIVED") true false
      else .allow (some "ARCHIVED") true true
    | .finalizeArchive =>
      if !isArchived then .deny "FINALIZE_REQUIRES_ARCHIVED_STATE" (some "ARCHIVED") true false
      else .allow (some "ARCHIVED") true false
    | .retentionTrigger =>
      if metadataFlags.retentionDue then .allow (some "ARCHIVED") true true
      else .deny "RETENTION_WINDOW_NOT_REACHED" (some "ARCHIVED") false false
    | .vectorTierShift => .allow (some "DORMANT") false true

/-! ## Lifecycle -/

/-- Canonical lifecycle states of the supervisor (`runtime::lifecycle::TaskState`). -/
inductive LifecycleState where
  | pending | completed | archived
  deriving DecidableEq, Repr

structure LifecycleResult where
  allowed : Bool
  reason : Option String
  deriving DecidableEq, Repr

inductive LifecycleError where
  | invalidTransition (source target : LifecycleState)
  deriving DecidableEq, Repr

def parseTaskState (value : String) : Option LifecycleState :=
  match toAsciiLowercase (trim value) with
  | "pending" => some .pending
  | "completed" => some .completed
  | "archived" => some .archived
  | _ => none

def isValidTransition : LifecycleState → LifecycleState → Bool
  | .pending, .completed => true
  | .pending, .archived => true
  | .completed, .archived => true
  | _, _ => false

def validateTransition (currentState requestedState : LifecycleState) : LifecycleResult :=
  if currentState = .archived then ⟨false, some "ARCHIVED_TERMINAL"⟩
  else if isValidTransition currentState requestedState then ⟨true, none⟩
  else ⟨false, some "INVALID_TRANSITION"⟩

def validateTransitionFromStr (currentState requestedState : String) : LifecycleResult :=
  match parseTaskState currentState, parseTaskState requestedState with
  | some src, some dst => validateTransition src dst
  | _, _ => ⟨false, some "UNKNOWN_STATE"⟩

/-- `LifecycleValidator::apply_transition`. -/
def applyTransition (source target : LifecycleState) : Except LifecycleError LifecycleState :=
  if (validateTransition source target).allowed then .ok target
  else .error (.invalidTransition source target)

/-! ## Identity -/

/-- `identity::tier_policy::Tier`. -/
inductive Tier where
  | owner | family | guest
  deriving DecidableEq, Repr

structure AuthResult where
  allowed : Bool
  reason : Option String
  deriving DecidableEq, Repr

def parseTier (value : String) : Option Tier :=
  match toAsciiLowercase (trim value) with
  | "owner" => some .owner
  | "family" => some .family
  | "guest" => some .guest
  | _ => none

def normalizeAction (value : String) : String := toAsciiUppercase (trim value)

def isAllowed (tier : Tier) (action : String) : Bool :=
  let actionName := normalizeAction action
  match tier with
  | .owner => ["CREATE_TASK", "COMPLETE_TASK", "CANCEL_TASK", "STRATEGY"].contains actionName
  | .family => ["CREATE_TASK", "COMPLETE_TASK", "STRATEGY"].contains actionName
  | .guest => false

/-- `AccessControl::authorize` on `IdentityContext { user_id, tier, authenticated }`. -/
def authorize (userId : String) (tier : Tier) (authenticated : Bool) (action : String) :
    AuthResult :=
  if !authenticated then ⟨false, some "UNAUTHENTICATED"⟩
  else if trim userId = "" then ⟨false, some "INVALID_USER"⟩
  else if trim action = "" then ⟨false, some "INVALID_ACTION"⟩
  else if isAllowed tier action then ⟨true, none⟩
  else ⟨false, some "ACCESS_DENIED"⟩

def authorizeWithTierString (userId tierValue : String) (authenticated : Bool) (action : String) :
    AuthResult :=
  match parseTier tierValue with
  | some tier => authorize userId tier authenticated action
  | none => ⟨false, some "INVALID_TIER"⟩

end Apcos.Source.Supervisor
