import Apcos.Source.Bridge.Lines
import Apcos.Source.Supervisor.BridgeProcess

/-!
# The dispatcher answers every authority request once

Whatever object the payload is, a fresh request of one of the five types gets a
result of its own type under its own id, and the result allows exactly when the
payload states a request that the policy allows: a payload that does not decode,
and a name that does not parse, are denied like a refusal of the policy.
-/
namespace Apcos.Guarantees.AuthorityAnswers

open Apcos.Source.Python (Value Dict blank)
open Apcos.Source.JsonText (JsonReaders asLine)
open Apcos.Source.Bridge (Framed parseEnvelopeLine_asLine parseEnvelopeLine_iff
  validateEnvelope_iff)
open Apcos.Source.Supervisor
open Apcos.Source.Supervisor.CorrelationTracker (markSeen_of_mem markSeen_fresh)

/-- The payload states a request that the policy of this message type allows. Only
the fields with a serde default may be missing. -/
inductive Granted (entries : Dict) : MessageType → Prop where
  | auth {userId tierName action : String} {tier : Tier} {authenticated : Bool}
      (user : entries.lookup "user_id" = some (.str userId))
      (named : entries.lookup "tier" = some (.str tierName))
      (acts : entries.lookup "action" = some (.str action))
      (flag : fieldOr entries "authenticated" Value.asBool false = some authenticated)
      (parsed : parseTier tierName = some tier)
      (policy : (authorize userId tier authenticated action).allowed = true) :
      Granted entries .authRequest
  | transition {current requested : String} {source target : LifecycleState}
      (now : entries.lookup "current_state" = some (.str current))
      (next : entries.lookup "requested_state" = some (.str requested))
      (parsed : parseTaskState current = some source ∧ parseTaskState requested = some target)
      (policy : (validateTransition source target).allowed = true) :
      Granted entries .transitionValidate
  | energy {battery : Value} {percent : Fin 256} {execution : String} {type : ExecutionType}
      (level : entries.lookup "battery_percent" = some battery)
      (byte : decodeU8 battery = some percent)
      (named : entries.lookup "execution_type" = some (.str execution))
      (parsed : parseExecutionType execution = some type)
      (policy : (authorizeExecution (determineMode percent) type).allowed = true) :
      Granted entries .energyValidate
  | storage {operation state mode execution : String} {op : StorageOperation} {energy : EnergyMode}
      {type : ExecutionType} {encrypted : Bool} {keyId : Option String}
      (named : entries.lookup "operation" = some (.str operation))
      (lifecycle : entries.lookup "lifecycle_state" = some (.str state))
      (powered : entries.lookup "energy_mode" = some (.str mode))
      (run : entries.lookup "execution_type" = some (.str execution))
      (flag : fieldOr entries "encryption_metadata_present" Value.asBool false = some encrypted)
      (key : fieldOr entries "encryption_key_id" Value.asOptionalText none = some keyId)
      (parsed : parseStorageOperation operation = some op ∧ parseEnergyMode mode = some energy ∧
        parseExecutionType execution = some type)
      (policy : (authorizeStorage op state energy type encrypted keyId).allowed = true) :
      Granted entries .storageValidate
  | memory {operation state mode : String} {op : MemoryOperation} {energy : EnergyMode}
      {permitted : Bool} {flags : MemoryMetadataFlags}
      (lifecycle : entries.lookup "current_lifecycle_state" = some (.str state))
      (named : entries.lookup "operation" = some (.str operation))
      (powered : entries.lookup "energy_mode" = some (.str mode))
      (flag : fieldOr entries "storage_permission_flag" Value.asBool false = some permitted)
      (metadata : fieldOr entries "metadata_flags" decodeMetadata {} = some flags)
      (parsed : parseMemoryOperation operation = some op ∧ parseEnergyMode mode = some energy)
      (policy : (determineMemoryTransition state energy permitted op flags).allowed = true) :
      Granted entries .memoryValidate

/-- The result that answers a request of the type carries this envelope, of the
result type that belongs to it. -/
inductive Answers : MessageType → DispatchResult → IpcEnvelope → Prop where
  | auth {e : IpcEnvelope} : e.messageType = .authResult →
      Answers .authRequest (.authResultGenerated e) e
  | transition {e : IpcEnvelope} : e.messageType = .transitionResult →
      Answers .transitionValidate (.transitionResultGenerated e) e
  | energy {e : IpcEnvelope} : e.messageType = .energyResult →
      Answers .energyValidate (.energyResultGenerated e) e
  | storage {e : IpcEnvelope} : e.messageType = .storageResult →
      Answers .storageValidate (.storageResultGenerated e) e
  | memory {e : IpcEnvelope} : e.messageType = .memoryResult →
      Answers .memoryValidate (.memoryResultGenerated e) e

def requestTypes : List MessageType :=
  [.authRequest, .transitionValidate, .energyValidate, .storageValidate, .memoryValidate]

/-! ## Each authority allows what its policy allows -/

theorem textField_iff {entries : Dict} {key text : String} :
    textField entries key = some text ↔ entries.lookup key = some (.str text) := by
  unfold textField
  cases found : entries.lookup key with
  | none => simp
  | some v => cases v <;> simp [Value.asText]

theorem answerAuth_allowed (entries : Dict) :
    (answerAuth (.dict entries)).allowed = true ↔ Granted entries .authRequest := by
  constructor
  · intro allowed
    unfold answerAuth at allowed
    split at allowed
    · cases allowed
    · rename_i request parsed
      unfold authorizeWithTierString at allowed
      split at allowed
      · rename_i tier recognized
        simp only [parseAuthRequest, Option.bind_eq_bind,
          Option.bind_eq_some_iff, textField_iff] at parsed
        obtain ⟨userId, user, tierName, named, action, acts, authenticated, flag, same⟩ := parsed
        cases same
        exact .auth user named acts flag recognized allowed
      · cases allowed
  · intro granted
    cases granted with
    | auth user named acts flag parsed policy =>
      simp [answerAuth, parseAuthRequest, textField_iff.mpr user,
        textField_iff.mpr named, textField_iff.mpr acts, flag, authorizeWithTierString, parsed,
        policy]

/-- The transition authority grants exactly the transitions of its table. -/
theorem answerTransition_allowed (entries : Dict) :
    (answerTransition (.dict entries)).allowed = true ↔ Granted entries .transitionValidate := by
  constructor
  · intro allowed
    unfold answerTransition at allowed
    split at allowed
    · cases allowed
    · rename_i request parsed
      unfold validateTransitionFromStr at allowed
      split at allowed
      · rename_i source target from_name to_name
        simp only [parseTransitionRequest, Option.bind_eq_bind,
          Option.bind_eq_some_iff, textField_iff] at parsed
        obtain ⟨current, now, requested, next, same⟩ := parsed
        cases same
        exact .transition now next ⟨from_name, to_name⟩ allowed
      · cases allowed
  · intro granted
    cases granted with
    | transition now next parsed policy =>
      simp [answerTransition, parseTransitionRequest, textField_iff.mpr now,
        textField_iff.mpr next, validateTransitionFromStr, parsed.1, parsed.2, policy]

theorem answerEnergy_allowed (entries : Dict) :
    (answerEnergy (.dict entries)).allowed = true ↔ Granted entries .energyValidate := by
  constructor
  · intro allowed
    unfold answerEnergy at allowed
    split at allowed
    · cases allowed
    · rename_i request parsed
      split at allowed
      · cases allowed
      · rename_i type recognized
        simp only [parseEnergyValidateRequest, Option.bind_eq_bind,
          Option.bind_eq_some_iff, textField_iff] at parsed
        obtain ⟨percent, ⟨battery, level, byte⟩, execution, named, same⟩ := parsed
        cases same
        exact .energy level byte named recognized allowed
  · intro granted
    cases granted with
    | energy level byte named parsed policy =>
      simp [answerEnergy, parseEnergyValidateRequest, level, byte,
        textField_iff.mpr named, parsed, policy]

/-- The storage authority grants exactly what its policy lists. -/
theorem answerStorage_allowed (entries : Dict) :
    (answerStorage (.dict entries)).allowed = true ↔ Granted entries .storageValidate := by
  constructor
  · intro allowed
    unfold answerStorage at allowed
    split at allowed
    · cases allowed
    · rename_i request parsed
      unfold storageAuthority at allowed
      split at allowed
      · cases allowed
      · rename_i op known_operation
        split at allowed
        · cases allowed
        · rename_i energy known_mode
          split at allowed
          · cases allowed
          · rename_i type known_type
            simp only [parseStorageValidateRequest, Option.bind_eq_bind,
              Option.bind_eq_some_iff, textField_iff] at parsed
            obtain ⟨operation, named, state, lifecycle, mode, powered, execution, run, encrypted,
              flag, keyId, key, same⟩ := parsed
            cases same
            exact .storage named lifecycle powered run flag key
              ⟨known_operation, known_mode, known_type⟩ allowed
  · intro granted
    cases granted with
    | storage named lifecycle powered run flag key parsed policy =>
      simp [answerStorage, parseStorageValidateRequest, textField_iff.mpr named,
        textField_iff.mpr lifecycle, textField_iff.mpr powered, textField_iff.mpr run, flag, key,
        storageAuthority, parsed.1, parsed.2.1, parsed.2.2, policy]

/-- The memory authority grants exactly what its policy lists. -/
theorem answerMemory_allowed (entries : Dict) :
    (answerMemory (.dict entries)).allowed = true ↔ Granted entries .memoryValidate := by
  constructor
  · intro allowed
    unfold answerMemory at allowed
    split at allowed
    · cases allowed
    · rename_i request parsed
      unfold memoryAuthority at allowed
      split at allowed
      · cases allowed
      · rename_i op known_operation
        split at allowed
        · cases allowed
        · rename_i energy known_mode
          simp only [parseMemoryValidateRequest, Option.bind_eq_bind,
            Option.bind_eq_some_iff, textField_iff] at parsed
          obtain ⟨state, lifecycle, operation, named, mode, powered, permitted, flag, flags,
            metadata, same⟩ := parsed
          cases same
          exact .memory lifecycle named powered flag metadata ⟨known_operation, known_mode⟩ allowed
  · intro granted
    cases granted with
    | memory lifecycle named powered flag metadata parsed policy =>
      simp [answerMemory, parseMemoryValidateRequest, textField_iff.mpr lifecycle,
        textField_iff.mpr named, textField_iff.mpr powered, flag, metadata, memoryAuthority,
        parsed.1, parsed.2, policy]

/-! ## The dispatcher -/

theorem payload_object {json : JsonReaders} {line : String} {maxBytes : Nat} {e : IpcEnvelope}
    (accepted : parseEnvelopeLine json line maxBytes = .ok (some e)) :
    ∃ entries, e.payload = .dict entries := by
  obtain ⟨-, -, -, valid⟩ := (parseEnvelopeLine_iff json line maxBytes e).mp accepted
  exact ((validateEnvelope_iff e).mp valid).2.2

/-- A fresh request is answered once, by a result of its type under its id that
allows exactly what the policy grants, and the event bus is left alone; a repeated
id and every other type generate no result. -/
theorem requests_answered_fail_closed (json : JsonReaders) (line : String) (maxBytes : Nat)
    (envelope : IpcEnvelope)
    (accepted : parseEnvelopeLine json line maxBytes = .ok (some envelope))
    (tracker : CorrelationTracker) (now : Fin (2 ^ 128)) :
    let d := dispatchIncoming now envelope tracker
    (envelope.correlationId ∉ tracker.set → envelope.messageType ∈ requestTypes →
      d.published = none ∧ ∃ response entries reply allowed,
        Answers envelope.messageType d.result response ∧
          response.correlationId = envelope.correlationId ∧
          response.payload = .dict reply ∧ reply.lookup "allowed" = some (.bool allowed) ∧
          envelope.payload = .dict entries ∧
          (allowed = true ↔ Granted entries envelope.messageType)) ∧
      (envelope.correlationId ∈ tracker.set ∨ envelope.messageType ∉ requestTypes →
        d.result.response = none) := by
  obtain ⟨entries, object⟩ := payload_object accepted
  obtain ⟨messageType, timestamp, id, payload⟩ := envelope
  dsimp only at object
  subst object
  refine ⟨fun fresh request => ?_, fun unanswered => ?_⟩
  · obtain ⟨tracker', marked⟩ := markSeen_fresh fresh
    simp only [dispatchIncoming, marked]
    simp only [requestTypes, List.mem_cons, List.not_mem_nil, or_false] at request
    rcases request with rfl | rfl | rfl | rfl | rfl
    · exact ⟨rfl, _, entries, _, _, .auth rfl, rfl, rfl, rfl, rfl, answerAuth_allowed entries⟩
    · exact ⟨rfl, _, entries, _, _, .transition rfl, rfl, rfl, rfl, rfl,
        answerTransition_allowed entries⟩
    · exact ⟨rfl, _, entries, _, _, .energy rfl, rfl, rfl, rfl, rfl, answerEnergy_allowed entries⟩
    · exact ⟨rfl, _, entries, _, _, .storage rfl, rfl, rfl, rfl, rfl, answerStorage_allowed entries⟩
    · exact ⟨rfl, _, entries, _, _, .memory rfl, rfl, rfl, rfl, rfl, answerMemory_allowed entries⟩
  · by_cases held : id ∈ tracker.set
    · simp only [dispatchIncoming, markSeen_of_mem held, DispatchResult.response]
    · obtain ⟨tracker', marked⟩ := markSeen_fresh held
      have other : messageType ∉ requestTypes := unanswered.resolve_left held
      simp only [dispatchIncoming, marked]
      cases messageType with
      | event => cases extractEvent (.dict entries) <;> rfl
      | stateUpdate => rfl
      | authResult => rfl
      | transitionResult => rfl
      | energyResult => rfl
      | storageResult => rfl
      | memoryResult => rfl
      | authRequest => exact absurd (by decide) other
      | transitionValidate => exact absurd (by decide) other
      | energyValidate => exact absurd (by decide) other
      | storageValidate => exact absurd (by decide) other
      | memoryValidate => exact absurd (by decide) other

/-! A request that names an unknown execution type. -/

def unknownType : IpcEnvelope :=
  ⟨.energyValidate, ⟨1, one_lt_clock⟩, "e1",
    .dict [("battery_percent", .int 90), ("execution_type", .str "DREAM")]⟩

def unknownTypeText : String :=
  "\x7b\"message_type\":\"ENERGY_VALIDATE\",\"timestamp\":1,\"correlation_id\":\"e1\"," ++
  "\"payload\":\x7b\"battery_percent\":90,\"execution_type\":\"DREAM\"\x7d\x7d"

def unknownTypeReaders : JsonReaders where
  loads text := if text = unknownTypeText then some unknownType.toValue else none
  fromStr text := if text = unknownTypeText then some unknownType.toValue else none
  floatText _ := []

theorem unknownType_accepted :
    parseEnvelopeLine unknownTypeReaders (asLine unknownTypeText) defaultMaxMessageBytes =
      .ok (some unknownType) := by
  have sizes : unknownTypeText.utf8ByteSize ≤ max defaultMaxMessageBytes 1 ∧
      "e1".utf8ByteSize ≤ 128 ∧ blank "e1" = false := by decide +kernel
  have framed : Framed unknownTypeText :=
    ⟨unknownTypeText.toList.tail.dropLast, by decide +kernel⟩
  have read : unknownTypeReaders.fromStr unknownTypeText = some unknownType.toValue := by
    simp only [unknownTypeReaders, if_true]
  rw [IpcEnvelope.toValue_eq unknownType rfl] at read
  apply (parseEnvelopeLine_asLine framed read sizes.2.2 _ _).mpr
  exact ⟨sizes.1, sizes.2.1, ⟨1, one_lt_clock⟩, by decide +kernel, rfl⟩

/-- An unknown execution type is denied, with a result. -/
theorem unknown_type_denied :
    ∃ response reply,
      (dispatchIncoming unknownType.timestamp unknownType
        (.new defaultMaxTrackedCorrelations)).result = .energyResultGenerated response ∧
        response.payload = .dict reply ∧ reply.lookup "allowed" = some (.bool false) := by
  obtain ⟨answered, -⟩ := requests_answered_fail_closed unknownTypeReaders (asLine unknownTypeText)
    defaultMaxMessageBytes unknownType unknownType_accepted (.new defaultMaxTrackedCorrelations)
    unknownType.timestamp
  obtain ⟨-, response, entries, reply, allowed, answers, -, written, decision, object, granted⟩ :=
    answered List.not_mem_nil (by decide)
  have refused : allowed ≠ true := by
    intro permitted
    cases object
    cases granted.mp permitted with
    | energy level byte named parsed policy =>
      cases named
      have unknown : parseExecutionType "DREAM" = none := by decide
      rw [unknown] at parsed
      cases parsed
  generalize result : (dispatchIncoming unknownType.timestamp unknownType
    (.new defaultMaxTrackedCorrelations)).result = generated at answers
  rw [Bool.eq_false_iff.mpr refused] at decision
  cases answers
  exact ⟨response, reply, rfl, written, decision⟩

end Apcos.Guarantees.AuthorityAnswers
