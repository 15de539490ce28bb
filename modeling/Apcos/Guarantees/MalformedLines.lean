import Apcos.Source.Bridge.RawLines

/-!
# Malformed lines

services/ipc/rust_bridge.py:39-87, 428-437 and 895-900. Membership of a set hashes the message
type, so an array or an object in its place raises where every other malformed line is answered
with `None`; so does a surrogate, at the encoding. The exception ends the loop over the lines.
-/
namespace Apcos.Guarantees.MalformedLines

open Apcos.Source
open Apcos.Source.Python (Value Dict Exc)
open Apcos.Source.JsonText (JsonReaders)
open Apcos.Source.Supervisor (MessageType)
open Apcos.Source.Bridge

/-- An `int` to Python, a `bool` included. -/
def IsInstanceInt (stamp : Value) : Prop := stamp.asInt.isSome = true

/-- An integer in JSON. -/
def IsInteger (stamp : Value) : Prop := ∃ n, stamp = .int n

/-- The four keys: a known type, an integer, a non-blank string and an object. -/
def WellFormed (integer : Value → Prop) (env : Dict) : Prop :=
  ∃ messageType stamp id payload, env = returned messageType stamp id payload ∧ integer stamp ∧
    Python.blank id = false

/-- The line is answered with `None` or a well-formed envelope, and one that is no envelope has
no effect on the bridge or the loop. -/
structure Tolerates (json : JsonReaders) (integer : Value → Prop) (line : List CodePoint)
    (maxMessageBytes : Nat) : Prop where
  answers : parseRawEnvelope json line maxMessageBytes = .ok none ∨
    ∃ env, parseRawEnvelope json line maxMessageBytes = .ok (some env) ∧ WellFormed integer env
  continues : (∀ env, parseRawEnvelope json line maxMessageBytes ≠ .ok (some env)) →
    ∀ repr (bridge : EventBridge) now rest, bridge.maxMessageBytes = maxMessageBytes →
      bridge.processRawLine json repr now line = (.ok none, bridge) ∧
        bridge.runForeverRaw json repr ((now, line) :: rest) = bridge.runForeverRaw json repr rest

def Unhashable (v : Value) : Prop := (∃ items, v = .list items) ∨ ∃ entries, v = .dict entries

/-- The object of a line that is neither empty nor too large. -/
def ReadsAs (json : JsonReaders) (text : String) (maxMessageBytes : Nat) (read : Dict) : Prop :=
  Python.strip text ≠ "" ∧ (Python.strip text).utf8ByteSize ≤ maxMessageBytes ∧
    json.loads (Python.strip text) = some (.dict read)

/-- No surrogate, and no array or object for a message type. -/
def Hashable (json : JsonReaders) (line : List CodePoint) (maxMessageBytes : Nat) : Prop :=
  ∃ text, encodable line = some text ∧ ∀ read, ReadsAs json text maxMessageBytes read →
    ¬Unhashable (Dict.get read "message_type")

/-- The line is no envelope in all but its time stamp, a `true` or `false`. -/
def NumericStamp (json : JsonReaders) (line : List CodePoint) (maxMessageBytes : Nat) : Prop :=
  ∀ text, encodable line = some text → ∀ read, ReadsAs json text maxMessageBytes read →
    ∀ messageType b id payload,
      ¬TakenByPython (fun key => read.lookup key) messageType (.bool b) id payload

/-! ## What raises -/

theorem knownMessageType_error_iff (v : Value) :
    (∃ exc, knownMessageType v = .error exc) ↔ Unhashable v := by
  cases v <;> simp [knownMessageType, Unhashable]

/-- Reading raises exactly on an object whose type cannot be hashed. -/
theorem parseEnvelope_raises_iff (json : JsonReaders) (text : String) (maxMessageBytes : Nat) :
    (∃ exc, parseEnvelope json text maxMessageBytes = .error exc) ↔
      ∃ read, ReadsAs json text maxMessageBytes read ∧
        Unhashable (Dict.get read "message_type") := by
  unfold ReadsAs parseEnvelope
  by_cases empty : Python.strip text = ""
  · simp [empty]
  · by_cases large : maxMessageBytes < (Python.strip text).utf8ByteSize
    · simp [empty, large, Nat.not_le.mpr large]
    · simp only [if_neg empty, if_neg large]
      cases loaded : json.loads (Python.strip text) with
      | none => simp
      | some v =>
        cases v with
        | dict read =>
          cases typed : knownMessageType (Dict.get read "message_type") with
          | error exc =>
            refine iff_of_true ⟨exc, ?_⟩ ⟨read, ⟨empty, Nat.not_lt.mp large, rfl⟩, ?_⟩
            · simp only [typed]
              rfl
            · exact (knownMessageType_error_iff _).mp ⟨exc, typed⟩
          | ok known =>
            refine iff_of_false ?_ ?_
            · rintro ⟨exc, raised⟩
              simp only [typed, bind, Except.bind, pure, Except.pure] at raised
              split at raised
              · cases raised
              split at raised
              · cases raised
              split at raised
              · split at raised <;> cases raised
              · cases raised
            · rintro ⟨_, ⟨-, -, same⟩, unhashable⟩
              cases same
              obtain ⟨exc, raised⟩ := (knownMessageType_error_iff _).mpr unhashable
              rw [typed] at raised
              cases raised
        | _ => simp

variable {json : JsonReaders} {line : List CodePoint} {maxMessageBytes : Nat}

theorem hashable_iff :
    Hashable json line maxMessageBytes ↔
      ∀ exc, parseRawEnvelope json line maxMessageBytes ≠ .error exc := by
  unfold Hashable parseRawEnvelope
  cases encodable line with
  | none => simp
  | some text =>
    have raises := parseEnvelope_raises_iff json text maxMessageBytes
    constructor
    · rintro ⟨_, ⟨⟩, hashable⟩ exc raised
      obtain ⟨read, reads, unhashable⟩ := raises.mp ⟨exc, raised⟩
      exact hashable read reads unhashable
    · intro quiet
      refine ⟨text, rfl, fun read reads unhashable => ?_⟩
      obtain ⟨exc, raised⟩ := raises.mpr ⟨read, reads, unhashable⟩
      exact quiet exc raised

/-- What is returned has passed all checks. -/
theorem parseRawEnvelope_some_iff {env : Dict} :
    parseRawEnvelope json line maxMessageBytes = .ok (some env) ↔
      ∃ text read messageType stamp id payload, encodable line = some text ∧
        ReadsAs json text maxMessageBytes read ∧
        TakenByPython (fun key => read.lookup key) messageType stamp id payload ∧
        env = returned messageType stamp id payload := by
  unfold parseRawEnvelope
  cases encodable line with
  | none => simp
  | some text =>
    simp only [parseEnvelope_iff, ReadsAs, Option.some.injEq]
    constructor
    · rintro ⟨nonempty, small, read, messageType, stamp, id, payload, loaded, taken, rfl⟩
      exact ⟨text, read, messageType, stamp, id, payload, rfl, ⟨nonempty, small, loaded⟩, taken,
        rfl⟩
    · rintro ⟨_, read, messageType, stamp, id, payload, rfl, ⟨nonempty, small, loaded⟩, taken,
        rfl⟩
      exact ⟨nonempty, small, read, messageType, stamp, id, payload, loaded, taken, rfl⟩

/-! ## What goes on -/

/-- A line answered with `None` is passed over. -/
theorem continues_of_none (dropped : parseRawEnvelope json line maxMessageBytes = .ok none)
    (repr : Value → String) (bridge : EventBridge) (now : Int) (rest : List (Int × List CodePoint))
    (limit : bridge.maxMessageBytes = maxMessageBytes) :
    bridge.processRawLine json repr now line = (.ok none, bridge) ∧
      bridge.runForeverRaw json repr ((now, line) :: rest) =
        bridge.runForeverRaw json repr rest := by
  subst limit
  unfold parseRawEnvelope at dropped
  cases encoded : encodable line with
  | none =>
    rw [encoded] at dropped
    cases dropped
  | some text =>
    rw [encoded] at dropped
    constructor
    · simp only [EventBridge.processRawLine, encoded, EventBridge.processLine, dropped]
    · have turn : bridge.rawTurn json repr now line = ⟨none, true, bridge⟩ := by
        simp only [EventBridge.rawTurn, encoded, EventBridge.turn_dropped dropped]
      rw [EventBridge.runForeverRaw, turn]
      rfl

theorem wellFormed_of_returned {env : Dict}
    (parsed : parseRawEnvelope json line maxMessageBytes = .ok (some env)) :
    WellFormed IsInstanceInt env := by
  obtain ⟨_, _, messageType, stamp, id, payload, -, -, taken, rfl⟩ :=
    parseRawEnvelope_some_iff.mp parsed
  exact ⟨messageType, stamp, id, payload, rfl, taken.integer, taken.visible⟩

/-- A time stamp that passes is an integer in JSON unless it is `true` or `false`. -/
theorem numericStamp_iff :
    NumericStamp json line maxMessageBytes ↔
      ∀ env, parseRawEnvelope json line maxMessageBytes = .ok (some env) →
        WellFormed IsInteger env := by
  constructor
  · intro numeric env parsed
    obtain ⟨text, read, messageType, stamp, id, payload, encoded, reads, taken, rfl⟩ :=
      parseRawEnvelope_some_iff.mp parsed
    refine ⟨messageType, stamp, id, payload, rfl, ?_, taken.visible⟩
    have integer := taken.integer
    cases stamp with
    | int n => exact ⟨n, rfl⟩
    | bool b => exact absurd taken (numeric text encoded read reads messageType b id payload)
    | _ => cases integer
  · intro formed text encoded read reads messageType b id payload taken
    obtain ⟨_, _, _, _, same, ⟨n, rfl⟩, -⟩ := formed _ (parseRawEnvelope_some_iff.mpr
      ⟨text, read, messageType, .bool b, id, payload, encoded, reads, taken, rfl⟩)
    simp [returned] at same

theorem tolerates_of {integer : Value → Prop}
    (quiet : ∀ exc, parseRawEnvelope json line maxMessageBytes ≠ .error exc)
    (formed : ∀ env, parseRawEnvelope json line maxMessageBytes = .ok (some env) →
      WellFormed integer env) : Tolerates json integer line maxMessageBytes := by
  cases parsed : parseRawEnvelope json line maxMessageBytes with
  | error exc => exact absurd parsed (quiet exc)
  | ok answer =>
    cases answer with
    | none => exact ⟨Or.inl parsed, fun _ => continues_of_none parsed⟩
    | some env =>
      refine ⟨Or.inr ⟨env, parsed, formed env parsed⟩, fun rejected => ?_⟩
      exact absurd parsed (rejected env)

theorem Tolerates.quiet {integer : Value → Prop}
    (tolerates : Tolerates json integer line maxMessageBytes) :
    ∀ exc, parseRawEnvelope json line maxMessageBytes ≠ .error exc := by
  intro exc raised
  rcases tolerates.answers with dropped | ⟨env, parsed, -⟩
  · rw [raised] at dropped
    cases dropped
  · rw [raised] at parsed
    cases parsed

theorem Tolerates.formed {integer : Value → Prop}
    (tolerates : Tolerates json integer line maxMessageBytes) {env : Dict}
    (parsed : parseRawEnvelope json line maxMessageBytes = .ok (some env)) :
    WellFormed integer env := by
  rcases tolerates.answers with dropped | ⟨env', parsed', formed⟩
  · rw [parsed] at dropped
    cases dropped
  · rw [parsed] at parsed'
    cases parsed'
    exact formed

/-- For every line and size limit: a line is tolerated exactly if it has no surrogate and no
array or object for a message type. If `true` and `false` are no integers, it must not use one
as the time stamp of an envelope either. -/
theorem tolerates_iff (json : JsonReaders) (line : List CodePoint) (maxMessageBytes : Nat) :
    (Tolerates json IsInstanceInt line maxMessageBytes ↔ Hashable json line maxMessageBytes) ∧
      (Tolerates json IsInteger line maxMessageBytes ↔
        Hashable json line maxMessageBytes ∧ NumericStamp json line maxMessageBytes) := by
  constructor
  · rw [hashable_iff]
    constructor
    · exact Tolerates.quiet
    · intro quiet
      exact tolerates_of quiet fun _ => wellFormed_of_returned
  · rw [hashable_iff, numericStamp_iff]
    constructor
    · intro tolerates
      exact ⟨tolerates.quiet, fun _ => tolerates.formed⟩
    · rintro ⟨quiet, formed⟩
      exact tolerates_of quiet formed

def arrayLine : List CodePoint := "\x7b\"message_type\":[]\x7d".toList.map .scalar

/-- Reads the one line, as `json.loads` does. -/
def arrayReaders : JsonReaders where
  loads text :=
    if text = "\x7b\"message_type\":[]\x7d" then some (.dict [("message_type", .list [])]) else none
  fromStr _ := none
  floatText _ := []

/-- `TypeError: unhashable type: 'list'`, and the loop is over. -/
theorem array_not_tolerated : ¬Tolerates arrayReaders IsInstanceInt arrayLine Bridge.maxMessageBytes := by
  intro tolerates
  exact tolerates.quiet ⟨.typeError, "unhashable type: 'list'"⟩ (by rfl)

end Apcos.Guarantees.MalformedLines
