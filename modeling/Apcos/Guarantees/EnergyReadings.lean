import Apcos.Guarantees.AuthorityAnswers

/-!
# Energy readings

os/src/ipc.rs:402-433 and 624-632. The contract of the handshake
(deployment/energy_handshake_contract.md:8-14) bounds a battery level by 100, the dispatcher only
by its byte: every level from 101 on counts as a full battery. serde also takes the two fields by
position, a form that the line parser keeps out and the dispatcher does not.
-/
namespace Apcos.Guarantees.EnergyReadings

open Apcos.Source.Python (Value Dict)
open Apcos.Source.Supervisor
open Apcos.Guarantees.AuthorityAnswers (Granted answerEnergy_allowed)

def executionName : ExecutionType → String
  | .llm => "LLM"
  | .proactive => "PROACTIVE"
  | .backgroundTask => "BACKGROUND_TASK"
  | .criticalReminder => "CRITICAL_REMINDER"
  | .voice => "VOICE"

/-- Trimmed and in ASCII upper case. -/
def Names (execution : String) (type : ExecutionType) : Prop :=
  toAsciiUppercase (trim execution) = executionName type

def Allows (level : Fin 256) (type : ExecutionType) : Prop :=
  (authorizeExecution (determineMode level) type).allowed = true

/-- An object with a level from 0 to 100 and a type that the policy allows at it. -/
def InContract (payload : Value) : Prop :=
  ∃ entries level execution type, payload = .dict entries ∧
    entries.lookup "battery_percent" = some (.int level.val) ∧ level.val ≤ 100 ∧
    entries.lookup "execution_type" = some (.str execution) ∧ Names execution type ∧
    Allows level type

/-- What the byte and the positional form add to the contract. -/
inductive Overread : Value → Prop where
  | overfull {entries : Dict} {level : Fin 256} {execution : String} {type : ExecutionType}
      (battery : entries.lookup "battery_percent" = some (.int level.val)) (above : 100 < level.val)
      (named : entries.lookup "execution_type" = some (.str execution))
      (known : Names execution type) : Overread (.dict entries)
  | positional {level : Fin 256} {execution : String} {type : ExecutionType}
      (known : Names execution type) (policy : Allows level type) :
      Overread (.list [.int level.val, .str execution])

/-- The generated result allows exactly the readings of the contract. -/
def AnswersContract (now stamp : Fin (2 ^ 128)) (id : String) (payload : Value)
    (tracker : CorrelationTracker) : Prop :=
  ∃ response reply allowed,
    (dispatchIncoming now ⟨.energyValidate, stamp, id, payload⟩ tracker).result =
      .energyResultGenerated response ∧
    response.payload = .dict reply ∧ reply.lookup "allowed" = some (.bool allowed) ∧
    (allowed = true ↔ InContract payload)

/-! ## What the request reads -/

theorem decodeU8_iff (v : Value) (level : Fin 256) :
    decodeU8 v = some level ↔ v = .int level.val := by
  cases v with
  | int n =>
    rw [decodeU8, Value.int.injEq]
    by_cases byte : 0 ≤ n ∧ n < 256
    · rw [dif_pos byte, Option.some.injEq, Fin.ext_iff]
      change n.toNat = level.val ↔ n = level.val
      omega
    · rw [dif_neg byte]
      simp only [reduceCtorEq, false_iff]
      omega
  | _ => simp [decodeU8]

theorem parseExecutionType_iff (execution : String) (type : ExecutionType) :
    parseExecutionType execution = some type ↔ Names execution type := by
  unfold parseExecutionType Names
  constructor
  · intro parsed
    split at parsed <;> cases parsed <;> assumption
  · intro named
    rw [named]
    cases type <;> rfl

theorem allows_above {level : Fin 256} (above : 100 < level.val) (type : ExecutionType) :
    Allows level type := by
  have full : 50 ≤ level.val := by omega
  simp only [Allows, determineMode, if_pos full, authorizeExecution]

/-- What the supervisor grants is in the contract or read beyond it. -/
theorem granted_energy_iff (entries : Dict) :
    Granted entries .energyValidate ↔
      InContract (.dict entries) ∨ Overread (.dict entries) := by
  constructor
  · intro granted
    cases granted with
    | energy battery byte named parsed policy =>
      rename_i level execution type
      rw [(decodeU8_iff _ _).mp byte] at battery
      have known : Names execution type := (parseExecutionType_iff _ _).mp parsed
      by_cases within : level.val ≤ 100
      · exact .inl ⟨entries, level, execution, type, rfl, battery, within, named, known, policy⟩
      · exact .inr (.overfull battery (by omega) named known)
  · intro read
    rcases read with ⟨_, level, execution, type, same, battery, within, named, known, policy⟩ | read
    · cases same
      exact .energy battery ((decodeU8_iff _ _).mpr rfl) named
        ((parseExecutionType_iff _ _).mpr known) policy
    · cases read with
      | overfull battery above named known =>
        exact .energy battery ((decodeU8_iff _ _).mpr rfl) named
          ((parseExecutionType_iff _ _).mpr known) (allows_above above _)

theorem parseEnergy_array {items : List Value} {request : EnergyValidatePayload}
    (parsed : parseEnergyValidateRequest (.list items) = some request) :
    items = [.int request.batteryPercent.val, .str request.executionType] := by
  unfold parseEnergyValidateRequest at parsed
  split at parsed
  · rename_i same
    cases same
  · rename_i battery execution same
    cases same
    obtain ⟨level, read, same⟩ := Option.bind_eq_some_iff.mp parsed
    cases same
    rw [(decodeU8_iff _ _).mp read]
  · cases parsed

/-- An array is read by position, which the contract does not know. -/
theorem answerEnergy_array (items : List Value) :
    (answerEnergy (.list items)).allowed = true ↔ Overread (.list items) := by
  constructor
  · intro allowed
    unfold answerEnergy at allowed
    split at allowed
    · cases allowed
    · rename_i request parsed
      split at allowed
      · cases allowed
      · rename_i type recognized
        rw [parseEnergy_array parsed]
        exact .positional ((parseExecutionType_iff _ _).mp recognized) allowed
  · intro read
    cases read with
    | positional known policy =>
      simp only [answerEnergy, parseEnergyValidateRequest, (decodeU8_iff _ _).mpr rfl,
        Option.bind_eq_bind, Option.bind_some, Option.pure_def,
        (parseExecutionType_iff _ _).mpr known]
      exact policy

theorem answerEnergy_allowed_iff (payload : Value) :
    (answerEnergy payload).allowed = true ↔ InContract payload ∨ Overread payload := by
  cases payload with
  | dict entries => rw [answerEnergy_allowed, granted_energy_iff]
  | list items =>
    rw [answerEnergy_array]
    simp [InContract]
  | _ =>
    constructor
    · intro allowed
      cases allowed
    · intro read
      rcases read with ⟨_, _, _, _, same, -⟩ | read
      · cases same
      · cases read

theorem Overread.outside {payload : Value} (read : Overread payload) : ¬InContract payload := by
  rintro ⟨entries, level, execution, type, object, battery, within, -, -, -⟩
  cases read with
  | overfull known above named types =>
    cases object
    have same := known.symm.trans battery
    simp only [Option.some.injEq, Value.int.injEq, Nat.cast_inj] at same
    omega
  | positional known policy => cases object

/-! ## The result -/

theorem energy_dispatched (now stamp : Fin (2 ^ 128)) {id : String} (payload : Value)
    {tracker : CorrelationTracker} (fresh : id ∉ tracker.set) :
    (dispatchIncoming now ⟨.energyValidate, stamp, id, payload⟩ tracker).result =
      .energyResultGenerated (buildEnergyResultEnvelope now id (answerEnergy payload).allowed
        (answerEnergy payload).reason) := by
  obtain ⟨tracker', marked⟩ := CorrelationTracker.markSeen_fresh fresh
  simp only [dispatchIncoming, marked]

/-- The readings of the contract are the allowed ones exactly off the levels from 101 to 255 of
an object and the readings by position that the policy allows. -/
theorem energy_allowed_iff (now stamp : Fin (2 ^ 128)) (id : String) (payload : Value)
    (tracker : CorrelationTracker) (fresh : id ∉ tracker.set) :
    AnswersContract now stamp id payload tracker ↔ ¬Overread payload := by
  have answers := answerEnergy_allowed_iff payload
  have result := energy_dispatched now stamp payload fresh
  constructor
  · intro property read
    obtain ⟨response, reply, allowed, generated, body, field, exact_contract⟩ := property
    rw [result] at generated
    cases generated
    cases body
    cases field
    exact read.outside (exact_contract.mp (answers.mpr (.inr read)))
  · intro clear
    refine ⟨_, _, _, result, rfl, rfl, ?_⟩
    rw [answers]
    exact ⟨fun read => read.resolve_right clear, .inl⟩

/-! A background task, which only a charged battery allows. -/

def backgroundReading (level : Int) : Value :=
  .dict [("battery_percent", .int level), ("execution_type", .str "BACKGROUND_TASK")]

theorem level_150_overread : Overread (backgroundReading 150) :=
  @Overread.overfull _ 150 "BACKGROUND_TASK" .backgroundTask rfl (by decide) rfl rfl

/-- The contract has no level of 150, and the result allows it. -/
theorem level_150_allowed :
    ¬AnswersContract 0 0 "e1" (backgroundReading 150) (CorrelationTracker.new 8) := by
  intro property
  have fresh : "e1" ∉ (CorrelationTracker.new 8).set := List.not_mem_nil
  obtain ⟨response, reply, allowed, generated, body, field, exact_contract⟩ := property
  rw [energy_dispatched 0 0 (backgroundReading 150) fresh] at generated
  cases generated
  cases body
  cases field
  exact level_150_overread.outside (exact_contract.mp rfl)

theorem energy_allowed_iff_level_80 :
    "e1" ∉ (CorrelationTracker.new 8).set ∧
      (AnswersContract 0 0 "e1" (backgroundReading 80) (CorrelationTracker.new 8) ↔
        ¬Overread (backgroundReading 80)) :=
  ⟨List.not_mem_nil, energy_allowed_iff 0 0 "e1" (backgroundReading 80) _ List.not_mem_nil⟩

end Apcos.Guarantees.EnergyReadings
