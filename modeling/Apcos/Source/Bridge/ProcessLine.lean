import Apcos.Source.Bridge.Lines

/-!
# Lines read by the Python bridge

services/ipc/rust_bridge.py:90-105, 425-482 and 888-900: `process_line`, the
`STATE_UPDATE` it answers with, and the loop over standard input. An exception
leaves the loop. The handler's invocations are logged with the id they ran under.
-/
namespace Apcos.Source.Bridge

open Apcos.Source.Python (Value Dict Exc)
open Apcos.Source.JsonText (JsonReaders dumps asLine)
open Apcos.Source.Supervisor (MessageType)

/-- `d[key] = value`: an existing key keeps its place. -/
def assign (d : Dict) (key : String) (value : Value) : Dict :=
  if d.any fun entry => entry.1 == key then
    d.map fun entry => if entry.1 == key then (key, value) else entry
  else d ++ [(key, value)]

/-- `d.update(other)`. -/
def update (d other : Dict) : Dict := other.foldl (fun d entry => assign d entry.1 entry.2) d

def buildStateUpdate (now : Int) (correlationId component : String) (details : Dict) : Dict :=
  envelope .stateUpdate now correlationId (update [("component", .str component)] details)

/-- `str(value)`; the `repr` of a float, a list or a dict is a parameter. -/
def textOf (repr : Value → String) : Value → String
  | .str s => s
  | .null => "None"
  | .bool true => "True"
  | .bool false => "False"
  | .int n => toString n
  | v => repr v

/-- `RustBridge` as far as `process_line` uses it. -/
structure EventBridge where
  maxMessageBytes : Nat
  eventHandler : Option (Dict → Except Exc Unit)
  seenCorrelationIds : List String
  /-- Invocations of the handler, in order; no step reads this log. -/
  invoked : List (String × Dict)

/-- The types `process_line` returns `None` for, in the order of its tests. -/
def notAnswered : List MessageType :=
  [.stateUpdate, .authResult, .transitionResult, .energyResult, .storageResult, .memoryResult,
    .authRequest, .transitionValidate, .energyValidate, .storageValidate, .memoryValidate]

namespace EventBridge

/-- `__init__` and `__post_init__`. -/
def new (eventHandler : Option (Dict → Except Exc Unit)) : EventBridge :=
  ⟨Bridge.maxMessageBytes, eventHandler, [], []⟩

/-- `if self.event_handler is not None: self.event_handler(event_payload)`. -/
def handle (bridge : EventBridge) (correlationId : String) (eventPayload : Dict) :
    Except Exc Unit × EventBridge :=
  match bridge.eventHandler with
  | none => (.ok (), bridge)
  | some handler =>
    (handler eventPayload,
      { bridge with invoked := bridge.invoked ++ [(correlationId, eventPayload)] })

/-- The acknowledgement of an event. -/
def acknowledgement (repr : Value → String) (now : Int) (correlationId : String)
    (eventPayload : Dict) : Dict :=
  let eventName := textOf repr (Dict.getD eventPayload "event" (.str "Unknown"))
  buildStateUpdate now correlationId "RustBridge"
    [("received_event", .str eventName), ("status", .str "accepted")]

def processLine (json : JsonReaders) (repr : Value → String) (now : Int) (bridge : EventBridge)
    (line : String) : Except Exc (Option Dict) × EventBridge :=
  match parseEnvelope json line bridge.maxMessageBytes with
  | .error e => (.error e, bridge)
  | .ok none => (.ok none, bridge)
  | .ok (some envelope) =>
    let correlationId := textOf repr (Dict.get envelope "correlation_id")
    if bridge.seenCorrelationIds.contains correlationId then (.ok none, bridge)
    else
      let bridge : EventBridge :=
        { bridge with seenCorrelationIds := correlationId :: bridge.seenCorrelationIds }
      if notAnswered.any fun t => (Dict.get envelope "message_type").isText t.wire then
        (.ok none, bridge)
      else
        match Dict.get envelope "payload" with
        | .dict eventPayload =>
          match bridge.handle correlationId eventPayload with
          | (.error e, bridge) => (.error e, bridge)
          | (.ok _, bridge) =>
            (.ok (some (acknowledgement repr now correlationId eventPayload)), bridge)
        -- `parse_envelope` has checked the payload
        | _ => (.ok none, bridge)

/-- One turn of `run_forever`: the message and the text written, whether the loop
goes on, and the bridge after it. -/
structure Turn where
  written : Option (Dict × String)
  running : Bool
  bridge : EventBridge

def turn (json : JsonReaders) (repr : Value → String) (now : Int) (bridge : EventBridge)
    (line : String) : Turn :=
  match bridge.processLine json repr now line with
  | (.error _, bridge) => ⟨none, false, bridge⟩
  | (.ok none, bridge) => ⟨none, true, bridge⟩
  | (.ok (some outgoing), bridge) =>
    match dumps json (.dict outgoing) with
    | none => ⟨none, false, bridge⟩
    | some encoded => ⟨some (outgoing, encoded), true, bridge⟩

/-- `run_forever` over the lines of the stream, each with a reading of the clock. -/
def runForever (json : JsonReaders) (repr : Value → String) :
    EventBridge → List (Int × String) → EventBridge
  | bridge, [] => bridge
  | bridge, (now, line) :: rest =>
    let turn := bridge.turn json repr now line
    if turn.running then runForever json repr turn.bridge rest else turn.bridge

/-! ## What a line does -/

variable {json : JsonReaders} {repr : Value → String} {now : Int} {bridge : EventBridge}
  {line : String}

/-- The bridge once the id is in `_seen_correlation_ids`. -/
def remember (bridge : EventBridge) (correlationId : String) : EventBridge :=
  { bridge with seenCorrelationIds := correlationId :: bridge.seenCorrelationIds }

@[simp] theorem handle_seen (id : String) (payload : Dict) :
    (bridge.handle id payload).2.seenCorrelationIds = bridge.seenCorrelationIds := by
  unfold handle
  cases bridge.eventHandler <;> rfl

theorem handle_invoked (id : String) (payload : Dict) :
    (bridge.handle id payload).2.invoked = bridge.invoked ∨
      (bridge.handle id payload).2.invoked = bridge.invoked ++ [(id, payload)] := by
  unfold handle
  cases bridge.eventHandler with
  | none => exact Or.inl rfl
  | some handler => exact Or.inr rfl

/-- Every type but `EVENT` is dropped. -/
theorem notAnswered_iff (t : MessageType) :
    (notAnswered.any fun other => (Value.str t.wire).isText other.wire) = true ↔ t ≠ .event := by
  cases t <;> decide

theorem processLine_seen {t : MessageType} {stamp : Value} {id : String} {payload : Dict}
    (parsed : parseEnvelope json line bridge.maxMessageBytes =
      .ok (some (returned t stamp id payload)))
    (seen : id ∈ bridge.seenCorrelationIds) :
    bridge.processLine json repr now line = (.ok none, bridge) := by
  have name : textOf repr (Dict.get (returned t stamp id payload) "correlation_id") = id := rfl
  simp only [processLine, parsed, name]
  rw [if_pos (List.contains_iff_mem.mpr seen)]

theorem processLine_other {t : MessageType} {stamp : Value} {id : String} {payload : Dict}
    (parsed : parseEnvelope json line bridge.maxMessageBytes =
      .ok (some (returned t stamp id payload)))
    (fresh : id ∉ bridge.seenCorrelationIds) (other : t ≠ .event) :
    bridge.processLine json repr now line = (.ok none, bridge.remember id) := by
  have name : textOf repr (Dict.get (returned t stamp id payload) "correlation_id") = id := rfl
  have type : Dict.get (returned t stamp id payload) "message_type" = .str t.wire := rfl
  simp only [processLine, parsed, name, type]
  rw [if_neg (fun seen => fresh (List.contains_iff_mem.mp seen)),
    if_pos ((notAnswered_iff t).mpr other)]
  rfl

/-- An event with a new id is handled, and acknowledged unless the handler raises. -/
theorem processLine_event {stamp : Value} {id : String} {payload : Dict}
    (parsed : parseEnvelope json line bridge.maxMessageBytes =
      .ok (some (returned .event stamp id payload)))
    (fresh : id ∉ bridge.seenCorrelationIds) :
    bridge.processLine json repr now line =
      (((bridge.remember id).handle id payload).1.map fun _ =>
          some (acknowledgement repr now id payload),
        ((bridge.remember id).handle id payload).2) := by
  have name : textOf repr (Dict.get (returned .event stamp id payload) "correlation_id") = id := rfl
  have type : Dict.get (returned .event stamp id payload) "message_type" =
      .str MessageType.event.wire := rfl
  have body : Dict.get (returned .event stamp id payload) "payload" = .dict payload := rfl
  have answered : ¬(notAnswered.any fun t => (Value.str MessageType.event.wire).isText t.wire) = true :=
    by decide
  simp only [processLine, parsed, name, type, body]
  rw [if_neg (fun seen => fresh (List.contains_iff_mem.mp seen)), if_neg answered]
  rcases handled : (bridge.remember id).handle id payload with ⟨e | done, after⟩
  all_goals
    rw [remember] at handled
    rw [handled]
    rfl

/-- An acknowledgement has a text unless the clock's number is too long for one. -/
theorem acknowledgement_written (json : JsonReaders) (repr : Value → String) {now : Int}
    (bounded : now.natAbs < 10 ^ Python.maxStrDigits) (id : String) (payload : Dict) :
    ∃ text, dumps json (.dict (acknowledgement repr now id payload)) = some text := by
  have shape : acknowledgement repr now id payload = envelope .stateUpdate now id
      [("component", .str "RustBridge"),
        ("received_event", .str (textOf repr (Dict.getD payload "event" (.str "Unknown")))),
        ("status", .str "accepted")] := rfl
  have data : JsonText.isData (.dict (acknowledgement repr now id payload)) = true := by
    rw [shape]
    rfl
  have printable : (Value.dict (acknowledgement repr now id payload)).printable = true := by
    rw [shape]
    simp [envelope, Value.printable, Python.printableEntries, bounded]
  exact JsonText.dumps_written json data printable

/-- An event under a new id is acknowledged when its handler returns. -/
theorem turn_event {stamp : Value} {id : String} {payload : Dict} {after : EventBridge}
    {encoded : String}
    (parsed : parseEnvelope json line bridge.maxMessageBytes =
      .ok (some (returned .event stamp id payload)))
    (fresh : id ∉ bridge.seenCorrelationIds)
    (handled : (bridge.remember id).handle id payload = (.ok (), after))
    (written : dumps json (.dict (acknowledgement repr now id payload)) = some encoded) :
    bridge.turn json repr now line =
      ⟨some (acknowledgement repr now id payload, encoded), true, after⟩ := by
  rw [turn, processLine_event parsed fresh, handled]
  simp only [Except.map, written]

theorem turn_raised {stamp : Value} {id : String} {payload : Dict} {after : EventBridge} {e : Exc}
    (parsed : parseEnvelope json line bridge.maxMessageBytes =
      .ok (some (returned .event stamp id payload)))
    (fresh : id ∉ bridge.seenCorrelationIds)
    (handled : (bridge.remember id).handle id payload = (.error e, after)) :
    bridge.turn json repr now line = ⟨none, false, after⟩ := by
  rw [turn, processLine_event parsed fresh, handled]
  rfl

theorem turn_seen {t : MessageType} {stamp : Value} {id : String} {payload : Dict}
    (parsed : parseEnvelope json line bridge.maxMessageBytes =
      .ok (some (returned t stamp id payload)))
    (seen : id ∈ bridge.seenCorrelationIds) :
    bridge.turn json repr now line = ⟨none, true, bridge⟩ := by
  rw [turn, processLine_seen parsed seen]

theorem turn_dropped (parsed : parseEnvelope json line bridge.maxMessageBytes = .ok none) :
    bridge.turn json repr now line = ⟨none, true, bridge⟩ := by
  simp only [turn, processLine, parsed]

theorem runForever_onward {rest : List (Int × String)} {written : Option (Dict × String)}
    {after : EventBridge} (took : bridge.turn json repr now line = ⟨written, true, after⟩) :
    bridge.runForever json repr ((now, line) :: rest) = after.runForever json repr rest := by
  rw [runForever, took]
  rfl

theorem runForever_left {rest : List (Int × String)} {written : Option (Dict × String)}
    {after : EventBridge} (took : bridge.turn json repr now line = ⟨written, false, after⟩) :
    bridge.runForever json repr ((now, line) :: rest) = after := by
  rw [runForever, took]
  rfl

/-- Every line is one of these. -/
inductive Effect (json : JsonReaders) (repr : Value → String) (now : Int) (bridge : EventBridge)
    (line : String) : Except Exc (Option Dict) × EventBridge → Prop
  | dropped (result : Except Exc (Option Dict)) (silent : ∀ message, result ≠ .ok (some message)) :
    Effect json repr now bridge line (result, bridge)
  | remembered (id : String) (fresh : id ∉ bridge.seenCorrelationIds) :
    Effect json repr now bridge line (.ok none, bridge.remember id)
  | answered (stamp : Value) (id : String) (payload : Dict) (fresh : id ∉ bridge.seenCorrelationIds)
    (parsed : parseEnvelope json line bridge.maxMessageBytes =
      .ok (some (returned .event stamp id payload))) :
    Effect json repr now bridge line
      (((bridge.remember id).handle id payload).1.map fun _ =>
          some (acknowledgement repr now id payload),
        ((bridge.remember id).handle id payload).2)

/-- Everything one line can lead to. -/
theorem processLine_effect (json : JsonReaders) (repr : Value → String) (now : Int)
    (bridge : EventBridge) (line : String) :
    Effect json repr now bridge line (bridge.processLine json repr now line) := by
  cases parsed : parseEnvelope json line bridge.maxMessageBytes with
  | error e =>
    have shape : bridge.processLine json repr now line = (.error e, bridge) := by
      simp only [processLine, parsed]
    rw [shape]
    exact .dropped _ nofun
  | ok found =>
    cases found with
    | none =>
      have shape : bridge.processLine json repr now line = (.ok none, bridge) := by
        simp only [processLine, parsed]
      rw [shape]
      exact .dropped _ nofun
    | some env =>
      obtain ⟨-, -, read, t, stamp, id, payload, -, taken, rfl⟩ :=
        (parseEnvelope_iff json line bridge.maxMessageBytes env).mp parsed
      by_cases seen : id ∈ bridge.seenCorrelationIds
      · rw [processLine_seen parsed seen]
        exact .dropped _ nofun
      · by_cases event : t = .event
        · subst event
          rw [processLine_event parsed seen]
          exact .answered stamp id payload seen parsed
        · rw [processLine_other parsed seen event]
          exact .remembered id seen

/-- What a turn writes acknowledges an event under an id not seen before. -/
theorem turn_written {message : Dict} {text : String}
    (wrote : (bridge.turn json repr now line).written = some (message, text)) :
    dumps json (.dict message) = some text ∧
      ∃ stamp id payload, id ∉ bridge.seenCorrelationIds ∧
        parseEnvelope json line bridge.maxMessageBytes =
          .ok (some (returned .event stamp id payload)) ∧
        message = acknowledgement repr now id payload ∧
        (bridge.turn json repr now line).bridge = ((bridge.remember id).handle id payload).2 := by
  have effect := processLine_effect json repr now bridge line
  unfold turn at wrote ⊢
  generalize bridge.processLine json repr now line = outcome at effect wrote ⊢
  cases effect with
  | dropped result silent =>
    rcases result with e | found | message
    · cases wrote
    · cases wrote
    · exact absurd rfl (silent message)
  | remembered id fresh => cases wrote
  | answered stamp id payload fresh parsed =>
    rcases handled : (bridge.remember id).handle id payload with ⟨e | done, after⟩
    · simp only [handled, Except.map] at wrote
      cases wrote
    · simp only [handled, Except.map] at wrote ⊢
      cases written : dumps json (.dict (acknowledgement repr now id payload)) with
      | none =>
        rw [written] at wrote
        cases wrote
      | some encoded =>
        rw [written] at wrote
        cases wrote
        exact ⟨written, stamp, id, payload, fresh, parsed, rfl, by simp [handled]⟩

/-- An envelope of another type is not answered and not handled. -/
theorem turn_other {t : MessageType} {stamp : Value} {id : String} {payload : Dict}
    (parsed : parseEnvelope json line bridge.maxMessageBytes =
      .ok (some (returned t stamp id payload)))
    (other : t ≠ .event) :
    (bridge.turn json repr now line).written = none ∧
      (bridge.turn json repr now line).bridge.invoked = bridge.invoked := by
  unfold turn
  by_cases seen : id ∈ bridge.seenCorrelationIds
  · rw [processLine_seen parsed seen]
    exact ⟨rfl, rfl⟩
  · rw [processLine_other parsed seen other]
    exact ⟨rfl, rfl⟩

/-- A turn handles at most one event, under an id that was not seen before. -/
theorem turn_invoked (json : JsonReaders) (repr : Value → String) (now : Int) (bridge : EventBridge)
    (line : String) :
    ((bridge.turn json repr now line).bridge.invoked = bridge.invoked ∧
        bridge.seenCorrelationIds ⊆
          (bridge.turn json repr now line).bridge.seenCorrelationIds) ∨
      ∃ id payload, id ∉ bridge.seenCorrelationIds ∧
        (bridge.turn json repr now line).bridge.invoked = bridge.invoked ++ [(id, payload)] ∧
        (bridge.turn json repr now line).bridge.seenCorrelationIds =
          id :: bridge.seenCorrelationIds := by
  have effect := processLine_effect json repr now bridge line
  have kept : (bridge.turn json repr now line).bridge =
      (bridge.processLine json repr now line).2 := by
    unfold turn
    rcases bridge.processLine json repr now line with ⟨e | found | message, after⟩
    · rfl
    · rfl
    · simp only
      cases dumps json (.dict message) <;> rfl
  rw [kept]
  generalize bridge.processLine json repr now line = outcome at effect
  cases effect with
  | dropped result silent => exact Or.inl ⟨rfl, fun id member => member⟩
  | remembered id fresh => exact Or.inl ⟨rfl, fun id member => List.mem_cons_of_mem _ member⟩
  | answered stamp id payload fresh parsed =>
    rcases (bridge.remember id).handle_invoked id payload with same | added
    · refine Or.inl ⟨same, fun other member => ?_⟩
      rw [handle_seen]
      exact List.mem_cons_of_mem id member
    · exact Or.inr ⟨id, payload, fresh, added, handle_seen id payload⟩

end EventBridge

end Apcos.Source.Bridge
