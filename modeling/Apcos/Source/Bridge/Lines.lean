import Apcos.Source.Bridge.Supervised

/-!
# Lines on the wire

What the two parsers make of a line that the other side wrote. An object's text
is framed by its braces, so neither whitespace rule touches it, and an envelope
that is read back as it was written passes or fails on its size, its clock
reading and its correlation id only.
-/
namespace Apcos.Source.Bridge

open Apcos.Source.Python (Value Dict PyFloat Exc)
open Apcos.Source.JsonText
open Apcos.Source.Supervisor

/-! ## What the parsers take -/

/-- The members that pass `parse_envelope`. -/
structure TakenByPython (member : String → Option Value) (messageType : MessageType)
    (stamp : Value) (id : String) (payload : Dict) : Prop where
  messageType : member "message_type" = some (.str messageType.wire)
  timestamp : member "timestamp" = some stamp
  integer : stamp.asInt.isSome = true
  correlationId : member "correlation_id" = some (.str id)
  visible : Python.blank id = false
  payload : member "payload" = some (.dict payload)

/-- The dict `parse_envelope` returns. -/
def returned (messageType : MessageType) (stamp : Value) (id : String) (payload : Dict) : Dict :=
  [("message_type", .str messageType.wire), ("timestamp", stamp), ("correlation_id", .str id),
    ("payload", .dict payload)]

theorem get_of_lookup {d : Dict} {key : String} {v : Value} (found : d.lookup key = some v) :
    Dict.get d key = v := by
  rw [Dict.get, Dict.getD, found]
  rfl

theorem lookup_of_get {d : Dict} {key : String} {v : Value} (got : Dict.get d key = v)
    (present : v ≠ .null) : d.lookup key = some v := by
  unfold Dict.get Dict.getD at got
  cases found : d.lookup key with
  | none =>
    rw [found] at got
    exact absurd got.symm present
  | some w =>
    rw [found] at got
    exact congrArg some got

theorem ofWire_eq_some_iff (name : String) (messageType : MessageType) :
    MessageType.ofWire name = some messageType ↔ name = messageType.wire := by
  constructor
  · intro found
    have named := List.find?_some found
    exact (beq_iff_eq.mp named).symm
  · rintro rfl
    exact ofWire_wire messageType

/-- A line within the size whose entries Python takes is returned in the shape of `parse_envelope`.
-/
theorem parseEnvelope_of_taken {json : JsonReaders} {line : String} {maxMessageBytes : Nat}
    {read : Dict} {messageType : MessageType} {stamp : Value} {id : String} {payload : Dict}
    (nonempty : Python.strip line ≠ "")
    (small : (Python.strip line).utf8ByteSize ≤ maxMessageBytes)
    (text : json.loads (Python.strip line) = some (.dict read))
    (taken : TakenByPython (fun key => read.lookup key) messageType stamp id payload) :
    parseEnvelope json line maxMessageBytes =
      .ok (some (returned messageType stamp id payload)) := by
  have type := get_of_lookup taken.messageType
  have time := get_of_lookup taken.timestamp
  have name := get_of_lookup taken.correlationId
  have body := get_of_lookup taken.payload
  have known : knownMessageType (.str messageType.wire) = .ok true := by
    rw [knownMessageType, ofWire_wire]
    rfl
  have integer : stamp.asInt.isNone = false := by
    simp [taken.integer]
  simp only [parseEnvelope, if_neg nonempty, if_neg (Nat.not_lt.mpr small), text, type, time, name,
    body, known, integer]
  simp [taken.visible, returned]
  rfl

/-- The checks after the JSON read, as the body of `parse_envelope` makes them. -/
theorem taken_of_parseEnvelope {json : JsonReaders} {line : String} {maxMessageBytes : Nat}
    {read env : Dict} (text : json.loads (Python.strip line) = some (.dict read))
    (parsed : parseEnvelope json line maxMessageBytes = .ok (some env)) :
    ∃ messageType stamp id payload,
      TakenByPython (fun key => read.lookup key) messageType stamp id payload ∧
        env = returned messageType stamp id payload := by
  simp only [parseEnvelope] at parsed
  split_ifs at parsed
  · cases parsed
  · cases parsed
  simp only [text, bind, Except.bind, pure, Except.pure] at parsed
  cases type : Dict.get read "message_type" with
  | str text =>
    cases kind : MessageType.ofWire text with
    | none => simp [type, knownMessageType, kind] at parsed
    | some messageType =>
      cases integer : (Dict.get read "timestamp").asInt with
      | none => simp [type, knownMessageType, kind, integer] at parsed
      | some stamp =>
        cases name : Dict.get read "correlation_id" with
        | str id =>
          cases body : Dict.get read "payload" with
          | dict payload =>
            cases visible : Python.blank id with
            | true => simp [type, knownMessageType, kind, integer, name, body, visible] at parsed
            | false =>
              simp [type, knownMessageType, kind, integer, name, body, visible] at parsed
              rw [ofWire_eq_some_iff] at kind
              subst kind parsed
              have present : Dict.get read "timestamp" ≠ .null := by
                intro absent
                rw [absent] at integer
                cases integer
              refine ⟨messageType, Dict.get read "timestamp", id, payload, ?_, rfl⟩
              exact
                { messageType := lookup_of_get type nofun
                  timestamp := lookup_of_get rfl present
                  integer := by rw [integer]; rfl
                  correlationId := lookup_of_get name nofun
                  visible := visible
                  payload := lookup_of_get body nofun }
          | _ => simp [type, knownMessageType, kind, integer, name, body] at parsed
        | _ => simp [type, knownMessageType, kind, integer, name] at parsed
  | _ => simp [type, knownMessageType] at parsed

/-- The lines that `parse_envelope` returns an envelope for, and the envelope. -/
theorem parseEnvelope_iff (json : JsonReaders) (line : String) (maxMessageBytes : Nat) (env : Dict) :
    parseEnvelope json line maxMessageBytes = .ok (some env) ↔
      Python.strip line ≠ "" ∧ (Python.strip line).utf8ByteSize ≤ maxMessageBytes ∧
        ∃ read messageType stamp id payload, json.loads (Python.strip line) = some (.dict read) ∧
          TakenByPython (fun key => read.lookup key) messageType stamp id payload ∧
          env = returned messageType stamp id payload := by
  constructor
  · intro parsed
    have sized : Python.strip line ≠ "" ∧
        (Python.strip line).utf8ByteSize ≤ maxMessageBytes ∧
        ∃ read, json.loads (Python.strip line) = some (.dict read) := by
      simp only [parseEnvelope] at parsed
      split_ifs at parsed with empty large
      · cases parsed
      · cases parsed
      · refine ⟨empty, Nat.not_lt.mp large, ?_⟩
        split at parsed
        · exact ⟨_, ‹_›⟩
        · cases parsed
    obtain ⟨nonempty, small, read, text⟩ := sized
    obtain ⟨messageType, stamp, id, payload, taken, shape⟩ := taken_of_parseEnvelope text parsed
    exact ⟨nonempty, small, read, messageType, stamp, id, payload, text, taken, shape⟩
  · rintro ⟨nonempty, small, read, messageType, stamp, id, payload, text, taken, rfl⟩
    exact parseEnvelope_of_taken nonempty small text taken

/-- An id that Python accepts is visible. -/
theorem visible_of_parseEnvelope {json : JsonReaders} {line : String} {maxMessageBytes : Nat}
    {messageType : MessageType} {stamp : Value} {id : String} {payload : Dict}
    (parsed : parseEnvelope json line maxMessageBytes =
      .ok (some (returned messageType stamp id payload))) : Python.blank id = false := by
  obtain ⟨-, -, read, messageType', stamp', id', payload', -, taken, same⟩ :=
    (parseEnvelope_iff json line maxMessageBytes _).mp parsed
  simp only [returned, List.cons.injEq, Prod.mk.injEq, Value.str.injEq, true_and] at same
  obtain ⟨-, -, text, -⟩ := same
  rw [text]
  exact taken.visible

/-- The envelopes that the supervisor validates. -/
theorem validateEnvelope_iff (e : IpcEnvelope) :
    validateEnvelope e = .ok () ↔
      trim e.correlationId ≠ "" ∧ e.correlationId.utf8ByteSize ≤ 128 ∧
        ∃ payload, e.payload = .dict payload := by
  unfold validateEnvelope
  by_cases bad : trim e.correlationId = "" ∨ 128 < e.correlationId.utf8ByteSize
  · rw [if_pos bad]
    constructor
    · intro impossible
      cases impossible
    · rintro ⟨visible, short, -⟩
      rcases bad with empty | long
      · exact absurd empty visible
      · omega
  · rw [if_neg bad]
    obtain ⟨visible, short⟩ := not_or.mp bad
    cases shape : e.payload <;> simp [visible, Nat.not_lt.mp short]

/-- The lines that the supervisor accepts, and the envelope it reads from each. -/
theorem parseEnvelopeLine_iff (json : JsonReaders) (line : String) (maxBytes : Nat)
    (e : IpcEnvelope) :
    parseEnvelopeLine json line maxBytes = .ok (some e) ↔
      trim line ≠ "" ∧ (trim line).utf8ByteSize ≤ max maxBytes 1 ∧
        (json.fromStr (trim line)).bind decodeEnvelope = some e ∧ validateEnvelope e = .ok () := by
  unfold parseEnvelopeLine
  by_cases empty : trim line = ""
  · simp [empty]
  · by_cases large : max maxBytes 1 < (trim line).utf8ByteSize
    · simp only [if_neg empty, if_pos large]
      simp [Nat.not_le.mpr large]
    · simp only [if_neg empty, if_neg large]
      cases (json.fromStr (trim line)).bind decodeEnvelope with
      | none => simp
      | some read =>
        dsimp only
        constructor
        · intro parsed
          cases valid : validateEnvelope read with
          | error rejected =>
            rw [valid] at parsed
            cases parsed
          | ok done =>
            rw [valid] at parsed
            cases parsed
            exact ⟨empty, Nat.not_lt.mp large, rfl, valid⟩
        · rintro ⟨-, -, same, valid⟩
          cases same
          rw [valid]
          rfl

/-! ## Lines the other side wrote -/

/-- The text of an object. -/
def Framed (text : String) : Prop := ∃ inner, text = String.ofList ('\x7b' :: inner ++ ['\x7d'])

theorem framed_compact {escape : Char → List Char} {floatText : PyFloat → List Char} {entries : Dict}
    {text : List Char} (written : compact escape floatText (.dict entries) = some text) :
    Framed (String.ofList text) := by
  rw [compact, Option.map_eq_some_iff] at written
  obtain ⟨inner, -, rfl⟩ := written
  exact ⟨inner, rfl⟩

theorem framed_dumps {json : JsonReaders} {entries : Dict} {text : String}
    (written : dumps json (.dict entries) = some text) : Framed text := by
  unfold dumps at written
  split at written
  · rw [Option.map_eq_some_iff] at written
    obtain ⟨cs, body, rfl⟩ := written
    exact framed_compact body
  · cases written

theorem framed_toJsonString {json : JsonReaders} {entries : Dict} {text : String}
    (written : toJsonString json (.dict entries) = some text) : Framed text := by
  rw [toJsonString, Option.map_eq_some_iff] at written
  obtain ⟨cs, body, rfl⟩ := written
  exact framed_compact body

namespace Framed

variable {text : String}

theorem ne_empty (framed : Framed text) : text ≠ "" := by
  obtain ⟨inner, rfl⟩ := framed
  intro empty
  rw [String.ofList_eq_empty_iff] at empty
  cases empty

theorem trimChars_asLine {p : Char → Bool} (framed : Framed text) (opens : p '\x7b' = false)
    (closes : p '\x7d' = false) (newline : p '\n' = true) :
    String.ofList (Python.trimChars p (asLine text).toList) = text := by
  obtain ⟨inner, rfl⟩ := framed
  have line : (asLine (String.ofList ('\x7b' :: inner ++ ['\x7d']))).toList =
      '\x7b' :: inner ++ ['\x7d', '\n'] := by
    simp [asLine]
  rw [line, Python.trimChars_framed inner opens closes newline]

theorem strip_asLine (framed : Framed text) : Python.strip (asLine text) = text :=
  framed.trimChars_asLine (by decide) (by decide) (by decide)

theorem trim_asLine (framed : Framed text) : trim (asLine text) = text :=
  framed.trimChars_asLine (by decide) (by decide) (by decide)

end Framed

/-- Python's parser on the line of an envelope that reads back. -/
theorem parseEnvelope_asLine {json : JsonReaders} {text : String} {messageType : MessageType}
    {sent : Int} {id : String} {payload : Dict} (framed : Framed text)
    (read : json.loads text = some (.dict (envelope messageType sent id payload)))
    (maxMessageBytes : Nat) :
    parseEnvelope json (asLine text) maxMessageBytes =
      .ok (if text.utf8ByteSize ≤ maxMessageBytes ∧ Python.blank id = false then
        some (envelope messageType sent id payload) else none) := by
  have known : knownMessageType (.str messageType.wire) = .ok true := by
    rw [knownMessageType, ofWire_wire]
    rfl
  by_cases small : text.utf8ByteSize ≤ maxMessageBytes
  · simp only [parseEnvelope, framed.strip_asLine, if_neg framed.ne_empty,
      if_neg (Nat.not_lt.mpr small), read]
    cases visible : Python.blank id with
    | false =>
      simp [envelope, Python.Dict.get, Python.Dict.getD, List.lookup_cons, known, visible, small,
        Value.asInt]
      rfl
    | true =>
      simp [envelope, Python.Dict.get, Python.Dict.getD, List.lookup_cons, known, visible,
        Value.asInt]
  · simp only [parseEnvelope, framed.strip_asLine, if_neg framed.ne_empty,
      if_pos (Nat.not_le.mp small)]
    rw [if_neg (fun both => small both.1)]

/-- Python's stricter blank test rules Rust's out. -/
theorem trim_ne_empty {id : String} (visible : Python.blank id = false) : trim id ≠ "" := by
  intro empty
  rw [blank_of_trim_eq_empty empty] at visible
  cases visible

/-- The supervisor's parser on the line of an envelope that reads back. -/
theorem parseEnvelopeLine_asLine {json : JsonReaders} {text : String} {messageType : MessageType}
    {sent : Int} {id : String} {payload : Dict} (framed : Framed text)
    (read : json.fromStr text = some (.dict (envelope messageType sent id payload)))
    (visible : Python.blank id = false) (maxBytes : Nat) (accepted : IpcEnvelope) :
    parseEnvelopeLine json (asLine text) maxBytes = .ok (some accepted) ↔
      text.utf8ByteSize ≤ max maxBytes 1 ∧ id.utf8ByteSize ≤ 128 ∧
        ∃ stamp, decodeU128 (.int sent) = some stamp ∧
          accepted = ⟨messageType, stamp, id, .dict payload⟩ := by
  rw [parseEnvelopeLine_iff, framed.trim_asLine, read, Option.bind_some, decodeEnvelope_envelope,
    validateEnvelope_iff]
  constructor
  · rintro ⟨-, small, decoded, -, short, -⟩
    obtain ⟨stamp, clock, rfl⟩ := Option.map_eq_some_iff.mp decoded
    exact ⟨small, short, stamp, clock, rfl⟩
  · rintro ⟨small, short, stamp, clock, rfl⟩
    refine ⟨framed.ne_empty, small, ?_, trim_ne_empty visible, short, payload, rfl⟩
    rw [clock]
    rfl

end Apcos.Source.Bridge

namespace Apcos.Source.Supervisor

open Apcos.Source.Python (Dict)

/-- What the supervisor writes has the shape of a Python envelope. -/
theorem IpcEnvelope.toValue_eq (e : IpcEnvelope) {payload : Dict} (isDict : e.payload = .dict payload) :
    e.toValue = .dict (Bridge.envelope e.messageType e.timestamp.val e.correlationId payload) := by
  rw [IpcEnvelope.toValue, isDict]
  rfl

end Apcos.Source.Supervisor
