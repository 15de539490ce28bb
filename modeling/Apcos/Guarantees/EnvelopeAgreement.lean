import Apcos.Source.Bridge.Lines

/-!
# Which lines the two envelope parsers take

services/ipc/rust_bridge.py:39-87 against os/src/ipc.rs:28-53, 309-321 and
582-590. The two JSON readers see the same texts; the validators differ. Python
alone takes a repeated field, a boolean, negative or oversized timestamp, an id
above 128 bytes and a text between U+001C to U+001F characters. Rust alone takes
the four fields as an array, the message type as an object and an id that is
blank to Python only. On every other line they agree.
-/
namespace Apcos.Guarantees.EnvelopeAgreement

open Apcos.Source
open Apcos.Source.Python (Value Dict)
open Apcos.Source.JsonText
open Apcos.Source.Supervisor
open Apcos.Source.Bridge

/-! ## The two readers -/

/-- The last member of a name, which is the one a Python dict keeps. -/
def lastMember (entries : Dict) (key : String) : Option Value :=
  ((entries.filter fun entry => entry.1 == key).getLast?).map Prod.snd

/-- The dict Python reads where a typed read sees these members. An object in the
place of the message type keeps repeated members in a typed read, so only a text
is compared there. -/
structure SameMembers (entries read : Dict) : Prop where
  values : ∀ key, key ≠ "message_type" → read.lookup key = lastMember entries key
  messageType : ∀ name, read.lookup "message_type" = some (.str name) ↔
    lastMember entries "message_type" = some (.str name)

/-- Both libraries read the same texts to the same values. -/
structure ReadAlike (json : JsonReaders) : Prop where
  rejected : ∀ text, json.fromStr text = none → json.loads text = none
  object : ∀ text entries, json.fromStr text = some (.dict entries) →
    ∃ read, json.loads text = some (.dict read) ∧ SameMembers entries read
  other : ∀ text v, json.fromStr text = some v → v.asDict = none →
    ∃ w, json.loads text = some w ∧ w.asDict = none
  /-- No JSON text starts or ends with one of U+001C to U+001F. -/
  edges : ∀ text v, json.fromStr text = some v → ∀ c,
    text.toList.head? = some c ∨ text.toList.getLast? = some c → ¬(28 ≤ c.toNat ∧ c.toNat ≤ 31)
  /-- An object has two braces, an array two brackets. -/
  enclosed : ∀ text v, json.fromStr text = some v →
    (v.asDict.isSome ∨ ∃ items, v = .list items) → 2 ≤ text.utf8ByteSize

theorem lastMember_of_fieldOnce {entries : Dict} {key : String} {v : Value}
    (once : fieldOnce entries key = some v) : lastMember entries key = some v := by
  unfold fieldOnce at once
  unfold lastMember
  split at once
  · rename_i entry alone
    rw [alone]
    exact once
  · cases once

/-- One of the four names stands more than once. -/
def Repeats (entries : Dict) : Prop :=
  ∃ key ∈ ["message_type", "timestamp", "correlation_id", "payload"],
    2 ≤ (entries.filter fun entry => entry.1 == key).length

theorem fieldOnce_of_lastMember {entries : Dict} {key : String} {v : Value}
    (single : ¬2 ≤ (entries.filter fun entry => entry.1 == key).length)
    (last : lastMember entries key = some v) : fieldOnce entries key = some v := by
  unfold lastMember at last
  unfold fieldOnce
  match shape : entries.filter fun entry => entry.1 == key with
  | [] =>
    rw [shape] at last
    cases last
  | [entry] =>
    rw [shape] at last ⊢
    exact last
  | first :: second :: rest =>
    rw [shape] at single
    simp at single

/-- Fields that are read once are not repeated. -/
theorem not_repeats_of_fieldOnce {entries : Dict} {messageType timestamp correlationId payload : Value}
    (type : fieldOnce entries "message_type" = some messageType)
    (time : fieldOnce entries "timestamp" = some timestamp)
    (id : fieldOnce entries "correlation_id" = some correlationId)
    (body : fieldOnce entries "payload" = some payload) : ¬Repeats entries := by
  have short {key : String} {v : Value} (once : fieldOnce entries key = some v) :
      ¬2 ≤ (entries.filter fun entry => entry.1 == key).length := by
    unfold fieldOnce at once
    split at once
    · rename_i entry alone
      rw [alone]
      simp
    · cases once
  rintro ⟨key, member, twice⟩
  simp only [List.mem_cons, List.not_mem_nil, or_false] at member
  rcases member with rfl | rfl | rfl | rfl
  · exact short type twice
  · exact short time twice
  · exact short id twice
  · exact short body twice

/-! ## Lines only one side takes -/

/-- A timestamp that is an integer to Python and no `u128`. -/
def OddStamp (stamp : Value) : Prop :=
  (∃ b, stamp = .bool b) ∨ ∃ n : Int, stamp = .int n ∧ (n < 0 ∨ 2 ^ 128 ≤ n)

/-- The members pass Python's checks, and the text stands between U+001C to
U+001F characters, a field is repeated, the timestamp is no `u128` or the id is
longer than 128 bytes. -/
def PythonOnly (json : JsonReaders) (line : String) (maxBytes : Nat) : Prop :=
  (Python.strip line).utf8ByteSize ≤ maxBytes ∧
    ∃ entries messageType stamp id payload,
      json.fromStr (Python.strip line) = some (.dict entries) ∧
      TakenByPython (lastMember entries) messageType stamp id payload ∧
      (trim line ≠ Python.strip line ∨ Repeats entries ∨ OddStamp stamp ∨ 128 < id.utf8ByteSize)

/-- Values that pass Rust's typed read and its validator. -/
def TakenByRust (messageType timestamp correlationId payload : Value) : Prop :=
  ∃ e, envelopeOfFields messageType timestamp correlationId payload = some e ∧
    validateEnvelope e = .ok ()

/-- The values pass Rust's checks, and they stand in an array, the message type is
an object or the id has no other characters than spaces and U+001C to U+001F. -/
def RustOnly (json : JsonReaders) (line : String) (maxBytes : Nat) : Prop :=
  (trim line).utf8ByteSize ≤ maxBytes ∧
    ∃ messageType timestamp correlationId payload,
      TakenByRust messageType timestamp correlationId payload ∧
      (json.fromStr (trim line) = some (.list [messageType, timestamp, correlationId, payload]) ∨
        ∃ entries, json.fromStr (trim line) = some (.dict entries) ∧
          fieldOnce entries "message_type" = some messageType ∧
          fieldOnce entries "timestamp" = some timestamp ∧
          fieldOnce entries "correlation_id" = some correlationId ∧
          fieldOnce entries "payload" = some payload ∧
          (messageType.asDict.isSome ∨ ∃ id, correlationId = .str id ∧ Python.blank id = true))

/-- Both sides take the line, with the same four values, or neither does. -/
def Agree (json : JsonReaders) (line : String) (maxBytes : Nat) : Prop :=
  ((∃ env, parseEnvelope json line maxBytes = .ok (some env)) ↔
      ∃ e, parseEnvelopeLine json line maxBytes = .ok (some e)) ∧
    ∀ env e, parseEnvelope json line maxBytes = .ok (some env) →
      parseEnvelopeLine json line maxBytes = .ok (some e) → Value.dict env = e.toValue

theorem SameMembers.taken_iff {entries read : Dict} (same : SameMembers entries read)
    (messageType : MessageType) (stamp : Value) (id : String) (payload : Dict) :
    TakenByPython (fun key => read.lookup key) messageType stamp id payload ↔
      TakenByPython (lastMember entries) messageType stamp id payload := by
  have stamps := same.values "timestamp" (by decide)
  have ids := same.values "correlation_id" (by decide)
  have bodies := same.values "payload" (by decide)
  constructor
  · rintro ⟨type, time, integer, name, visible, body⟩
    exact ⟨(same.messageType _).mp type, stamps ▸ time, integer, ids ▸ name, visible, bodies ▸ body⟩
  · rintro ⟨type, time, integer, name, visible, body⟩
    exact ⟨(same.messageType _).mpr type, stamps.trans time, integer, ids.trans name, visible,
      bodies.trans body⟩

theorem ne_empty_of_size {text : String} (size : 2 ≤ text.utf8ByteSize) : text ≠ "" := by
  rintro rfl
  exact absurd size (by decide)

section

variable {json : JsonReaders} (alike : ReadAlike json) {line : String} {maxBytes : Nat}

include alike

theorem ReadAlike.of_loads {text : String} {read : Dict} (loaded : json.loads text = some (.dict read)) :
    ∃ entries, json.fromStr text = some (.dict entries) ∧ SameMembers entries read := by
  cases raw : json.fromStr text with
  | none =>
    rw [alike.rejected text raw] at loaded
    cases loaded
  | some v =>
    cases v with
    | dict entries =>
      obtain ⟨read', loaded', same⟩ := alike.object text entries raw
      rw [loaded] at loaded'
      cases loaded'
      exact ⟨entries, rfl, same⟩
    | _ =>
      obtain ⟨w, loaded', noObject⟩ := alike.other text _ raw rfl
      rw [loaded] at loaded'
      cases loaded'
      cases noObject

/-- A text Rust reads is the text Python reads. -/
theorem ReadAlike.strip_eq_trim {v : Value} (read : json.fromStr (trim line) = some v) :
    Python.strip line = trim line := by
  have plain := alike.edges (trim line) v read
  rw [trim, String.toList_ofList] at plain
  rw [Python.strip, trim, Python.trimChars_widen (fun c => isSpace_of_isWhitespace)]
  intro c atEnd
  have kept := Python.trimChars_ends isWhitespace line.toList c atEnd
  have separate := plain c atEnd
  simp only [isWhitespace, Python.isSpace, Bool.or_eq_false_iff, Bool.and_eq_false_iff,
    decide_eq_false_iff_not, beq_eq_false_iff_ne] at kept ⊢
  omega

/-- `parse_envelope` in terms of the members a typed read sees. -/
theorem ReadAlike.parseEnvelope_iff (env : Dict) :
    parseEnvelope json line maxBytes = .ok (some env) ↔
      (Python.strip line).utf8ByteSize ≤ maxBytes ∧
        ∃ entries messageType stamp id payload,
          json.fromStr (Python.strip line) = some (.dict entries) ∧
          TakenByPython (lastMember entries) messageType stamp id payload ∧
          env = returned messageType stamp id payload := by
  rw [Bridge.parseEnvelope_iff]
  constructor
  · rintro ⟨-, small, read, messageType, stamp, id, payload, loaded, taken, shape⟩
    obtain ⟨entries, raw, same⟩ := alike.of_loads loaded
    exact ⟨small, entries, messageType, stamp, id, payload, raw,
      (same.taken_iff messageType stamp id payload).mp taken, shape⟩
  · rintro ⟨small, entries, messageType, stamp, id, payload, raw, taken, shape⟩
    obtain ⟨read, loaded, same⟩ := alike.object _ entries raw
    have nonempty := ne_empty_of_size (alike.enclosed _ _ raw (Or.inl rfl))
    exact ⟨nonempty, small, read, messageType, stamp, id, payload, loaded,
      (same.taken_iff messageType stamp id payload).mpr taken, shape⟩

end

/-- The two shapes the derived struct is read from. -/
theorem decodeEnvelope_iff (v : Value) (e : IpcEnvelope) :
    decodeEnvelope v = some e ↔
      ∃ messageType timestamp correlationId payload,
        envelopeOfFields messageType timestamp correlationId payload = some e ∧
        (v = .list [messageType, timestamp, correlationId, payload] ∨
          ∃ entries, v = .dict entries ∧
            fieldOnce entries "message_type" = some messageType ∧
            fieldOnce entries "timestamp" = some timestamp ∧
            fieldOnce entries "correlation_id" = some correlationId ∧
            fieldOnce entries "payload" = some payload) := by
  constructor
  · intro decoded
    unfold decodeEnvelope at decoded
    split at decoded
    · rename_i entries
      simp only [Option.bind_eq_bind, Option.bind_eq_some_iff] at decoded
      obtain ⟨messageType, type, timestamp, time, correlationId, id, payload, body, fields⟩ := decoded
      exact ⟨messageType, timestamp, correlationId, payload, fields,
        Or.inr ⟨entries, rfl, type, time, id, body⟩⟩
    · exact ⟨_, _, _, _, decoded, Or.inl rfl⟩
    · cases decoded
  · rintro ⟨messageType, timestamp, correlationId, payload, fields, rfl | ⟨entries, rfl, type, time, id,
      body⟩⟩
    · exact fields
    · simp only [decodeEnvelope, type, time, id, body, Option.bind_eq_bind, Option.bind_some, fields]

theorem envelopeOfFields_iff (messageType timestamp correlationId payload : Value) (e : IpcEnvelope) :
    envelopeOfFields messageType timestamp correlationId payload = some e ↔
      decodeMessageType messageType = some e.messageType ∧
        decodeU128 timestamp = some e.timestamp ∧ correlationId = .str e.correlationId ∧
        payload = e.payload := by
  unfold envelopeOfFields
  simp only [Option.bind_eq_bind, Option.bind_eq_some_iff, Option.pure_def, Option.some.injEq]
  constructor
  · rintro ⟨type, decoded, stamp, time, id, text, rfl⟩
    refine ⟨decoded, time, ?_, rfl⟩
    cases correlationId <;> cases text
    rfl
  · rintro ⟨decoded, time, rfl, rfl⟩
    exact ⟨_, decoded, _, time, _, rfl, rfl⟩

/-- A variant that decodes is a text or an object. -/
theorem decodeMessageType_shape {v : Value} {messageType : MessageType}
    (decoded : decodeMessageType v = some messageType) :
    v = .str messageType.wire ∨ v.asDict.isSome := by
  unfold decodeMessageType at decoded
  split at decoded
  · rename_i name
    exact Or.inl (congrArg Value.str ((ofWire_eq_some_iff name messageType).mp decoded))
  · exact Or.inr rfl
  · cases decoded

theorem decodeU128_eq_some {stamp : Value} {n : Fin (2 ^ 128)} (decoded : decodeU128 stamp = some n) :
    stamp = .int n.val := by
  unfold decodeU128 at decoded
  split at decoded
  · rename_i k
    split at decoded
    · rename_i range
      cases decoded
      have back : ((k.toNat : Nat) : Int) = k := Int.toNat_of_nonneg range.1
      rw [back]
    · cases decoded
  · cases decoded

theorem decodeU128_of_not_odd {stamp : Value} (integer : stamp.asInt.isSome = true)
    (plain : ¬OddStamp stamp) : ∃ n, decodeU128 stamp = some n := by
  cases stamp with
  | bool b => exact absurd (Or.inl ⟨b, rfl⟩) plain
  | int n =>
    have range : 0 ≤ n ∧ n < 2 ^ 128 := by
      by_contra outside
      apply plain
      exact Or.inr ⟨n, rfl, by omega⟩
    exact ⟨_, dif_pos range⟩
  | _ => cases integer

theorem not_odd_of_decodeU128 {n : Fin (2 ^ 128)} : ¬OddStamp (.int n.val) := by
  rintro (⟨b, impossible⟩ | ⟨k, same, outside⟩)
  · cases impossible
  · cases same
    have bound := n.isLt
    omega

section

variable {json : JsonReaders} (alike : ReadAlike json) {line : String} {maxBytes : Nat}

include alike

/-- `parse_envelope_line` in terms of the four values; no text it takes is of one byte. -/
theorem ReadAlike.parseEnvelopeLine_iff (e : IpcEnvelope) :
    parseEnvelopeLine json line maxBytes = .ok (some e) ↔
      (trim line).utf8ByteSize ≤ maxBytes ∧ validateEnvelope e = .ok () ∧
        ∃ messageType timestamp correlationId payload,
          envelopeOfFields messageType timestamp correlationId payload = some e ∧
          (json.fromStr (trim line) = some (.list [messageType, timestamp, correlationId, payload]) ∨
            ∃ entries, json.fromStr (trim line) = some (.dict entries) ∧
              fieldOnce entries "message_type" = some messageType ∧
              fieldOnce entries "timestamp" = some timestamp ∧
              fieldOnce entries "correlation_id" = some correlationId ∧
              fieldOnce entries "payload" = some payload) := by
  rw [Bridge.parseEnvelopeLine_iff]
  constructor
  · rintro ⟨-, small, read, valid⟩
    obtain ⟨v, raw, decoded⟩ := Option.bind_eq_some_iff.mp read
    obtain ⟨messageType, timestamp, correlationId, payload, fields, shape⟩ :=
      (decodeEnvelope_iff v e).mp decoded
    have size : 2 ≤ (trim line).utf8ByteSize := by
      apply alike.enclosed _ v raw
      rcases shape with rfl | ⟨entries, rfl, -⟩
      · exact Or.inr ⟨_, rfl⟩
      · exact Or.inl rfl
    refine ⟨by omega, valid, messageType, timestamp, correlationId, payload, fields, ?_⟩
    rcases shape with rfl | ⟨entries, rfl, once⟩
    · exact Or.inl raw
    · exact Or.inr ⟨entries, raw, once⟩
  · rintro ⟨small, valid, messageType, timestamp, correlationId, payload, fields, shape⟩
    have read : ∃ v, json.fromStr (trim line) = some v ∧ decodeEnvelope v = some e ∧
        (v.asDict.isSome ∨ ∃ items, v = .list items) := by
      rcases shape with raw | ⟨entries, raw, once⟩
      · exact ⟨_, raw, (decodeEnvelope_iff _ e).mpr ⟨_, _, _, _, fields, Or.inl rfl⟩,
          Or.inr ⟨_, rfl⟩⟩
      · exact ⟨_, raw, (decodeEnvelope_iff _ e).mpr ⟨_, _, _, _, fields, Or.inr ⟨entries, rfl, once⟩⟩,
          Or.inl rfl⟩
    obtain ⟨v, raw, decoded, shape⟩ := read
    have size := alike.enclosed _ v raw shape
    refine ⟨ne_empty_of_size size, by omega, ?_, valid⟩
    rw [raw, Option.bind_some, decoded]

/-- Where both read the same object, their four values are the same. -/
theorem ReadAlike.same_values {env : Dict} {e : IpcEnvelope}
    (python : parseEnvelope json line maxBytes = .ok (some env))
    (rust : parseEnvelopeLine json line maxBytes = .ok (some e)) : Value.dict env = e.toValue := by
  obtain ⟨-, entries, messageType, stamp, id, payload, raw, taken, rfl⟩ :=
    alike.parseEnvelope_iff env |>.mp python
  obtain ⟨-, -, type, timestamp, correlationId, body, fields, shape⟩ :=
    alike.parseEnvelopeLine_iff e |>.mp rust
  obtain ⟨decoded, time, text, whole⟩ := (envelopeOfFields_iff _ _ _ _ e).mp fields
  rcases shape with raw' | ⟨entries', raw', once⟩
  · rw [alike.strip_eq_trim raw', raw'] at raw
    cases raw
  · rw [alike.strip_eq_trim raw', raw'] at raw
    cases raw
    obtain ⟨typeOnce, timeOnce, idOnce, bodyOnce⟩ := once
    have types := (lastMember_of_fieldOnce typeOnce).symm.trans taken.messageType
    have times := (lastMember_of_fieldOnce timeOnce).symm.trans taken.timestamp
    have ids := (lastMember_of_fieldOnce idOnce).symm.trans taken.correlationId
    have bodies := (lastMember_of_fieldOnce bodyOnce).symm.trans taken.payload
    cases types
    cases times
    cases ids
    cases bodies
    have kind := (ofWire_eq_some_iff _ _).mp decoded
    rw [decodeU128_eq_some time, IpcEnvelope.toValue, ← whole, ← kind]
    cases text
    rfl

/-- The table of lines that Python alone accepts is exact. -/
theorem ReadAlike.pythonOnly_iff :
    PythonOnly json line maxBytes ↔
      (∃ env, parseEnvelope json line maxBytes = .ok (some env)) ∧
        ¬∃ e, parseEnvelopeLine json line maxBytes = .ok (some e) := by
  constructor
  · rintro ⟨small, entries, messageType, stamp, id, payload, raw, taken, odd⟩
    refine ⟨⟨_, alike.parseEnvelope_iff _ |>.mpr
      ⟨small, entries, messageType, stamp, id, payload, raw, taken, rfl⟩⟩, ?_⟩
    rintro ⟨e, rust⟩
    obtain ⟨-, valid, type, timestamp, correlationId, body, fields, shape⟩ :=
      alike.parseEnvelopeLine_iff e |>.mp rust
    obtain ⟨decoded, time, text, whole⟩ := (envelopeOfFields_iff _ _ _ _ e).mp fields
    rcases shape with raw' | ⟨entries', raw', typeOnce, timeOnce, idOnce, bodyOnce⟩
    · rw [alike.strip_eq_trim raw', raw'] at raw
      cases raw
    · have same := alike.strip_eq_trim raw'
      rw [same, raw'] at raw
      cases raw
      rcases odd with framed | repeated | stamped | long
      · exact framed same.symm
      · exact not_repeats_of_fieldOnce typeOnce timeOnce idOnce bodyOnce repeated
      · have times := (lastMember_of_fieldOnce timeOnce).symm.trans taken.timestamp
        cases times
        rw [decodeU128_eq_some time] at stamped
        exact not_odd_of_decodeU128 stamped
      · have ids := (lastMember_of_fieldOnce idOnce).symm.trans taken.correlationId
        cases ids
        cases text
        have short := ((validateEnvelope_iff e).mp valid).2.1
        omega
  · rintro ⟨⟨env, python⟩, rejected⟩
    obtain ⟨small, entries, messageType, stamp, id, payload, raw, taken, rfl⟩ :=
      alike.parseEnvelope_iff env |>.mp python
    refine ⟨small, entries, messageType, stamp, id, payload, raw, taken, ?_⟩
    by_contra ordinary
    obtain ⟨same, ordinary⟩ := not_or.mp ordinary
    obtain ⟨single, ordinary⟩ := not_or.mp ordinary
    obtain ⟨plain, short⟩ := not_or.mp ordinary
    obtain ⟨n, time⟩ := decodeU128_of_not_odd taken.integer plain
    have once {key : String} {v : Value}
        (field : key ∈ ["message_type", "timestamp", "correlation_id", "payload"])
        (last : lastMember entries key = some v) : fieldOnce entries key = some v :=
      fieldOnce_of_lastMember (fun twice => single ⟨key, field, twice⟩) last
    apply rejected
    refine ⟨⟨messageType, n, id, .dict payload⟩, alike.parseEnvelopeLine_iff _ |>.mpr ⟨?_, ?_,
      .str messageType.wire, stamp, .str id, .dict payload, ?_, Or.inr ⟨entries, ?_,
        once (by simp) taken.messageType, once (by simp) taken.timestamp,
        once (by simp) taken.correlationId, once (by simp) taken.payload⟩⟩⟩
    · rw [not_not.mp same]
      exact small
    · exact (validateEnvelope_iff _).mpr
        ⟨trim_ne_empty taken.visible, Nat.not_lt.mp short, payload, rfl⟩
    · exact (envelopeOfFields_iff _ _ _ _ _).mpr ⟨ofWire_wire messageType, time, rfl, rfl⟩
    · rw [not_not.mp same]
      exact raw

/-- The table of lines that the supervisor alone accepts is exact. -/
theorem ReadAlike.rustOnly_iff :
    RustOnly json line maxBytes ↔
      (∃ e, parseEnvelopeLine json line maxBytes = .ok (some e)) ∧
        ¬∃ env, parseEnvelope json line maxBytes = .ok (some env) := by
  constructor
  · rintro ⟨small, messageType, timestamp, correlationId, body, ⟨e, fields, valid⟩, shape⟩
    constructor
    · refine ⟨e, alike.parseEnvelopeLine_iff e |>.mpr
        ⟨small, valid, messageType, timestamp, correlationId, body, fields, ?_⟩⟩
      rcases shape with raw | ⟨entries, raw, typeOnce, timeOnce, idOnce, bodyOnce, -⟩
      · exact Or.inl raw
      · exact Or.inr ⟨entries, raw, typeOnce, timeOnce, idOnce, bodyOnce⟩
    · rintro ⟨env, python⟩
      obtain ⟨-, entries', type, stamp, id, payload, raw', taken, -⟩ :=
        alike.parseEnvelope_iff env |>.mp python
      rcases shape with raw | ⟨entries, raw, typeOnce, timeOnce, idOnce, bodyOnce, odd⟩
      · rw [alike.strip_eq_trim raw, raw] at raw'
        cases raw'
      · rw [alike.strip_eq_trim raw, raw] at raw'
        cases raw'
        have types := (lastMember_of_fieldOnce typeOnce).symm.trans taken.messageType
        have ids := (lastMember_of_fieldOnce idOnce).symm.trans taken.correlationId
        cases types
        cases ids
        rcases odd with isObject | ⟨id', same, empty⟩
        · cases isObject
        · cases same
          rw [taken.visible] at empty
          cases empty
  · rintro ⟨⟨e, rust⟩, rejected⟩
    obtain ⟨small, valid, messageType, timestamp, correlationId, body, fields, shape⟩ :=
      alike.parseEnvelopeLine_iff e |>.mp rust
    refine ⟨small, messageType, timestamp, correlationId, body, ⟨e, fields, valid⟩, ?_⟩
    rcases shape with raw | ⟨entries, raw, typeOnce, timeOnce, idOnce, bodyOnce⟩
    · exact Or.inl raw
    · refine Or.inr ⟨entries, raw, typeOnce, timeOnce, idOnce, bodyOnce, ?_⟩
      by_contra ordinary
      obtain ⟨noObject, noBlank⟩ := not_or.mp ordinary
      obtain ⟨decoded, time, rfl, rfl⟩ := (envelopeOfFields_iff _ _ _ _ e).mp fields
      obtain ⟨-, -, payload, isDict⟩ := (validateEnvelope_iff e).mp valid
      have type := (decodeMessageType_shape decoded).resolve_right noObject
      have visible : Python.blank e.correlationId = false := by
        by_contra empty
        exact noBlank ⟨_, rfl, (Bool.not_eq_false _).mp empty⟩
      have same := alike.strip_eq_trim raw
      apply rejected
      refine ⟨_, alike.parseEnvelope_iff _ |>.mpr ⟨?_, entries, e.messageType, timestamp,
        e.correlationId, payload, ?_, ?_, rfl⟩⟩
      · rw [same]
        exact small
      · rw [same]
        exact raw
      · exact
          { messageType := type ▸ lastMember_of_fieldOnce typeOnce
            timestamp := lastMember_of_fieldOnce timeOnce
            integer := by rw [decodeU128_eq_some time]; rfl
            correlationId := lastMember_of_fieldOnce idOnce
            visible := visible
            payload := isDict ▸ lastMember_of_fieldOnce bodyOnce }

end

/-- The two parsers part on the lines named above and on no others. -/
theorem parsers_agree_iff {json : JsonReaders} (alike : ReadAlike json) (line : String)
    (maxBytes : Nat) :
    Agree json line maxBytes ↔
      ¬PythonOnly json line maxBytes ∧ ¬RustOnly json line maxBytes := by
  rw [alike.pythonOnly_iff, alike.rustOnly_iff]
  constructor
  · rintro ⟨both, -⟩
    constructor
    · rintro ⟨python, noRust⟩
      exact noRust (both.mp python)
    · rintro ⟨rust, noPython⟩
      exact noPython (both.mpr rust)
  · rintro ⟨noPythonOnly, noRustOnly⟩
    refine ⟨⟨?_, ?_⟩, ?_⟩
    · intro python
      by_contra noRust
      exact noPythonOnly ⟨python, noRust⟩
    · intro rust
      by_contra noPython
      exact noRustOnly ⟨rust, noPython⟩
    · intro env e python rust
      exact alike.same_values python rust

/-! ### An envelope with a boolean timestamp -/

/-- Without repeated keys the first entry of a key is the last one. -/
theorem lookup_eq_lastMember {entries : Dict} (distinct : (entries.map Prod.fst).Nodup) (key : String) :
    entries.lookup key = lastMember entries key := by
  induction entries with
  | nil => rfl
  | cons entry rest ih =>
    obtain ⟨absent, distinct'⟩ := List.nodup_cons.mp distinct
    have later := ih distinct'
    unfold lastMember at later ⊢
    rw [List.lookup_cons]
    by_cases same : entry.1 = key
    · have none_left : rest.filter (fun entry => entry.1 == key) = [] := by
        rw [List.filter_eq_nil_iff]
        intro other member again
        apply absent
        rw [same, ← beq_iff_eq.mp again]
        exact List.mem_map_of_mem member
      simp [same, none_left]
    · have other : (key == entry.1) = false := beq_eq_false_iff_ne.mpr (Ne.symm same)
      simp [other, same, later]

/-- Both readers know one text, of an object without repeated members. -/
def singleReader (text : String) (entries : Dict) : JsonReaders where
  loads asked := if asked = text then some (.dict entries) else none
  fromStr asked := if asked = text then some (.dict entries) else none
  floatText _ := []

theorem singleReader_alike {text : String} {entries : Dict}
    (distinct : (entries.map Prod.fst).Nodup) (framed : Framed text) :
    ReadAlike (singleReader text entries) := by
  have known {asked : String} {v : Value}
      (read : (singleReader text entries).fromStr asked = some v) :
      asked = text ∧ v = .dict entries := by
    simp only [singleReader] at read
    split at read
    · rename_i same
      cases read
      exact ⟨same, rfl⟩
    · cases read
  obtain ⟨inner, rfl⟩ := framed
  constructor
  · intro asked unread
    exact unread
  · intro asked entries' read
    obtain ⟨rfl, same⟩ := known read
    cases same
    exact ⟨entries, read, fun key _ => lookup_eq_lastMember distinct key, fun name => by
      rw [lookup_eq_lastMember distinct]⟩
  · intro asked v read noObject
    obtain ⟨rfl, rfl⟩ := known read
    cases noObject
  · intro asked v read c atEnd
    obtain ⟨rfl, rfl⟩ := known read
    rw [String.toList_ofList] at atEnd
    rcases atEnd with first | last
    · cases first
      decide
    · rw [List.getLast?_append] at last
      cases last
      decide
  · intro asked v read _
    obtain ⟨rfl, rfl⟩ := known read
    rw [utf8ByteSize_ofList]
    have braces : ('\x7b' : Char).utf8Size = 1 ∧ ('\x7d' : Char).utf8Size = 1 := by decide
    simp only [byteCount_cons, byteCount_append, byteCount_nil, List.cons_append]
    omega

def booleanEntries : Dict :=
  [("message_type", .str "EVENT"), ("timestamp", .bool true), ("correlation_id", .str "a"),
    ("payload", .dict [])]

def booleanText : String :=
  "\x7b\"message_type\":\"EVENT\",\"timestamp\":true,\"correlation_id\":\"a\",\"payload\":\x7b\x7d\x7d"

theorem boolean_alike : ReadAlike (singleReader booleanText booleanEntries) :=
  singleReader_alike (by decide) ⟨booleanText.toList.tail.dropLast, by decide +kernel⟩

theorem parsers_agree_iff_boolean :
    Agree (singleReader booleanText booleanEntries) booleanText defaultMaxMessageBytes ↔
      ¬PythonOnly (singleReader booleanText booleanEntries) booleanText defaultMaxMessageBytes ∧
        ¬RustOnly (singleReader booleanText booleanEntries) booleanText defaultMaxMessageBytes :=
  parsers_agree_iff boolean_alike booleanText defaultMaxMessageBytes

/-- Python takes the boolean for an integer, serde does not. -/
theorem boolean_timestamp_parts :
    ReadAlike (singleReader booleanText booleanEntries) ∧
      ¬Agree (singleReader booleanText booleanEntries) booleanText defaultMaxMessageBytes := by
  refine ⟨boolean_alike, ?_⟩
  have stripped : Python.strip booleanText = booleanText := by decide +kernel
  have only : PythonOnly (singleReader booleanText booleanEntries) booleanText
      defaultMaxMessageBytes := by
    refine ⟨by decide +kernel, booleanEntries, .event, .bool true, "a", [], ?_, ?_,
      Or.inr (Or.inr (Or.inl (Or.inl ⟨true, rfl⟩)))⟩
    · simp [stripped, singleReader]
    · exact ⟨rfl, rfl, rfl, rfl, by decide +kernel, rfl⟩
  obtain ⟨python, noRust⟩ := boolean_alike.pythonOnly_iff.mp only
  rintro ⟨both, -⟩
  exact noRust (both.mp python)

end Apcos.Guarantees.EnvelopeAgreement
