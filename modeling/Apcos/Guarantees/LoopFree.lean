import Apcos.Lib.Runs
import Apcos.Source.Bridge.ProcessLine
import Apcos.Source.Supervisor.BridgeProcess

/-!
# No message loop between the two ends

os/src/ipc.rs:161-184 and 324-580 against services/ipc/rust_bridge.py:428-482.
The supervisor writes results only, which Python drops; Python writes
`STATE_UPDATE`s only, which the supervisor accepts or drops. So nothing that
either end produces is answered, whatever the channels do with it, and the two
sets of seen ids are not needed for that. Python's set, which forgets nothing,
is what keeps the handler to one invocation for an id.
-/
namespace Apcos.Guarantees.LoopFree

open Apcos.Lib
open Apcos.Source
open Apcos.Source.Python (Value Dict Exc)
open Apcos.Source.JsonText
open Apcos.Source.Supervisor
open Apcos.Source.Bridge

/-- The two ends and every line that was ever put on the way to either of them. A
line stays there: it may be delivered late, out of order, again or never. -/
structure Net where
  process : PythonBridgeProcess
  bridge : EventBridge
  toRust : List String
  toPython : List String
  /-- What each end produced, with its text. -/
  fromRust : List (IpcEnvelope × String)
  fromPython : List (Dict × String)

def Net.start (eventHandler : Option (Dict → Except Exc Unit)) (toRust toPython : List String) : Net :=
  ⟨.spawn, .new eventHandler, toRust, toPython, [], []⟩

/-- The delivery of one line, at a reading of the receiver's clock. -/
inductive Delivery where
  | rust (line : String) (now : Fin (2 ^ 128))
  | python (line : String) (now : Int)

def deliver (json : JsonReaders) (repr : Value → String) (s : Net) : Delivery → Net
  | .rust line now =>
    if line ∈ s.toRust then
      let reading := s.process.readAndDispatchOnce json now (some line)
      { s with
        process := reading.process
        toPython := s.toPython ++ reading.written.toList.map fun sent => asLine sent.2
        fromRust := s.fromRust ++ reading.written.toList }
    else s
  | .python line now =>
    if line ∈ s.toPython then
      let turn := s.bridge.turn json repr now line
      { s with
        bridge := turn.bridge
        toRust := s.toRust ++ turn.written.toList.map fun sent => asLine sent.2
        fromPython := s.fromPython ++ turn.written.toList }
    else s

/-! ## What is produced -/

/-- A result of the supervisor, and its text. -/
def IsResult (json : JsonReaders) (sent : IpcEnvelope × String) : Prop :=
  sent.1.messageType.isResult = true ∧ (∃ payload, sent.1.payload = .dict payload) ∧
    toJsonString json sent.1.toValue = some sent.2

/-- A `STATE_UPDATE` of the Python side, and its text. -/
def IsUpdate (json : JsonReaders) (sent : Dict × String) : Prop :=
  (∃ now id payload, sent.1 = envelope .stateUpdate now id payload) ∧
    dumps json (.dict sent.1) = some sent.2

theorem isUpdate_of_turn {json : JsonReaders} {repr : Value → String} {now : Int}
    {bridge : EventBridge} {line : String} {sent : Dict × String}
    (wrote : (bridge.turn json repr now line).written = some sent) : IsUpdate json sent := by
  obtain ⟨written, stamp, id, payload, -, -, shape, -⟩ := EventBridge.turn_written wrote
  exact ⟨⟨now, id, _, shape⟩, written⟩

/-! ## What a net keeps -/

/-- Only results and updates were produced, and the handler ran once for an id. -/
structure Quiet (json : JsonReaders) (s : Net) : Prop where
  results : ∀ sent ∈ s.fromRust, IsResult json sent
  updates : ∀ sent ∈ s.fromPython, IsUpdate json sent
  once : (s.bridge.invoked.map Prod.fst).Nodup
  seen : ∀ entry ∈ s.bridge.invoked, entry.1 ∈ s.bridge.seenCorrelationIds

theorem mem_append_toList {α : Type} {items : List α} {new : Option α} {a : α}
    (member : a ∈ items ++ new.toList) : a ∈ items ∨ new = some a := by
  rw [List.mem_append, Option.mem_toList] at member
  exact member

/-- A turn handles an id only when it is new, and remembers it. -/
theorem once_turn {bridge after : EventBridge} {json : JsonReaders} {repr : Value → String}
    {now : Int} {line : String} (turned : (bridge.turn json repr now line).bridge = after)
    (once : (bridge.invoked.map Prod.fst).Nodup)
    (seen : ∀ entry ∈ bridge.invoked, entry.1 ∈ bridge.seenCorrelationIds) :
    (after.invoked.map Prod.fst).Nodup ∧
      ∀ entry ∈ after.invoked, entry.1 ∈ after.seenCorrelationIds := by
  have effect := EventBridge.turn_invoked json repr now bridge line
  rw [turned] at effect
  rcases effect with ⟨same, more⟩ | ⟨id, payload, fresh, added, remembered⟩
  · rw [same]
    exact ⟨once, fun entry member => more (seen entry member)⟩
  · rw [added, remembered]
    constructor
    · rw [List.map_append, List.map_singleton]
      refine List.nodup_append.mpr ⟨once, List.nodup_singleton id, ?_⟩
      rintro other member last single rfl
      rw [List.mem_singleton.mp single] at member
      obtain ⟨entry, handled, same⟩ := List.mem_map.mp member
      have held := seen entry handled
      rw [same] at held
      exact fresh held
    · intro entry member
      rcases List.mem_append.mp member with earlier | last
      · exact List.mem_cons_of_mem id (seen entry earlier)
      · rw [List.mem_singleton.mp last]
        exact List.mem_cons_self

/-- A delivery produces results at one end and updates at the other. -/
theorem deliver_quiet {json : JsonReaders} {repr : Value → String} (s : Net) (delivery : Delivery)
    (before : Quiet json s) : Quiet json (deliver json repr s delivery) := by
  cases delivery with
  | rust line now =>
    simp only [deliver]
    split
    · refine ⟨?_, before.updates, before.once, before.seen⟩
      intro sent member
      rcases mem_append_toList member with earlier | new
      · exact before.results sent earlier
      · exact PythonBridgeProcess.readAndDispatchOnce_written new
    · exact before
  | python line now =>
    simp only [deliver]
    split
    · generalize turned : s.bridge.turn json repr now line = turn
      obtain ⟨once, seen⟩ := once_turn (congrArg (·.bridge) turned) before.once before.seen
      refine ⟨before.results, ?_, once, seen⟩
      intro sent member
      rcases mem_append_toList member with earlier | new
      · exact before.updates sent earlier
      · rw [← turned] at new
        exact isUpdate_of_turn new
    · exact before

/-! ## What is not answered -/

/-- Python answers no result of the supervisor, and does not handle it. -/
theorem result_dropped {json : JsonReaders} {sent : IpcEnvelope × String}
    (produced : IsResult json sent) (read : json.loads sent.2 = some sent.1.toValue)
    (repr : Value → String) (now : Int) (bridge : EventBridge) :
    (bridge.turn json repr now (asLine sent.2)).written = none ∧
      (bridge.turn json repr now (asLine sent.2)).bridge.invoked = bridge.invoked := by
  obtain ⟨isResult, ⟨payload, isDict⟩, written⟩ := produced
  rw [sent.1.toValue_eq isDict] at written read
  have parsed := parseEnvelope_asLine (framed_toJsonString written) read bridge.maxMessageBytes
  split at parsed
  · apply EventBridge.turn_other parsed
    intro event
    rw [event] at isResult
    cases isResult
  · have shape : bridge.processLine json repr now (asLine sent.2) = (.ok none, bridge) := by
      simp only [EventBridge.processLine, parsed]
    constructor <;> simp only [EventBridge.turn, shape]

/-- The supervisor answers no `STATE_UPDATE`, and publishes nothing for it. -/
theorem update_dropped {json : JsonReaders} {sent : Dict × String} (produced : IsUpdate json sent)
    (read : json.fromStr sent.2 = some (.dict sent.1)) (now : Fin (2 ^ 128))
    (p : PythonBridgeProcess) :
    (p.readAndDispatchOnce json now (some (asLine sent.2))).written = none ∧
      (p.readAndDispatchOnce json now (some (asLine sent.2))).published = none := by
  obtain ⟨⟨sentAt, id, payload, shape⟩, written⟩ := produced
  rw [shape] at written read
  cases parsed : parseEnvelopeLine json (asLine sent.2) p.maxMessageBytes with
  | error e =>
    constructor <;> simp only [PythonBridgeProcess.readAndDispatchOnce, parsed]
  | ok found =>
    cases found with
    | none =>
      constructor <;> simp only [PythonBridgeProcess.readAndDispatchOnce, parsed]
    | some e =>
      obtain ⟨-, -, decoded, -⟩ := (parseEnvelopeLine_iff json _ _ e).mp parsed
      rw [(framed_dumps written).trim_asLine, read, Option.bind_some, decodeEnvelope_envelope,
        Option.map_eq_some_iff] at decoded
      obtain ⟨stamp, -, rfl⟩ := decoded
      rw [PythonBridgeProcess.readAndDispatchOnce_stateUpdate rfl parsed]
      exact ⟨rfl, rfl⟩

/-- From any initial lines, after any deliveries: a line that an end produced and that reads back
as it was written is not answered by the other end in any state, and the handler has run at most
once for each id. -/
theorem no_reply_is_answered (json : JsonReaders) (repr : Value → String)
    (eventHandler : Option (Dict → Except Exc Unit)) (toRust toPython : List String)
    (deliveries : List Delivery) :
    (∀ sent ∈ (run (deliver json repr) (.start eventHandler toRust toPython) deliveries).fromRust,
        json.loads sent.2 = some sent.1.toValue → ∀ now (bridge : EventBridge),
          (bridge.turn json repr now (asLine sent.2)).written = none ∧
            (bridge.turn json repr now (asLine sent.2)).bridge.invoked = bridge.invoked) ∧
      (∀ sent ∈
          (run (deliver json repr) (.start eventHandler toRust toPython) deliveries).fromPython,
        json.fromStr sent.2 = some (.dict sent.1) → ∀ now (p : PythonBridgeProcess),
          (p.readAndDispatchOnce json now (some (asLine sent.2))).written = none ∧
            (p.readAndDispatchOnce json now (some (asLine sent.2))).published = none) ∧
      ((run (deliver json repr) (.start eventHandler toRust toPython) deliveries).bridge.invoked.map
        Prod.fst).Nodup := by
  have quiet : Quiet json
      (run (deliver json repr) (.start eventHandler toRust toPython) deliveries) :=
    run_invariant deliver_quiet (.start eventHandler toRust toPython)
      ⟨nofun, nofun, List.nodup_nil, nofun⟩ deliveries
  refine ⟨?_, ?_, quiet.once⟩
  · intro sent member read now bridge
    exact result_dropped (quiet.results sent member) read repr now bridge
  · intro sent member read now p
    exact update_dropped (quiet.updates sent member) read now p

/-! ## One request and one event -/

def tick : Fin (2 ^ 128) := ⟨1, one_lt_clock⟩

def malformedRequest : IpcEnvelope := ⟨.transitionValidate, tick, "t1", .dict []⟩

def requestText : String :=
  "\x7b\"message_type\":\"TRANSITION_VALIDATE\",\"timestamp\":1,\"correlation_id\":\"t1\"," ++
  "\"payload\":\x7b\x7d\x7d"

def denial : IpcEnvelope :=
  buildTransitionResultEnvelope tick "t1" false (some "INVALID_TRANSITION_REQUEST")

def denialText : String :=
  "\x7b\"message_type\":\"TRANSITION_RESULT\",\"timestamp\":1,\"correlation_id\":\"t1\"," ++
  "\"payload\":\x7b\"allowed\":false,\"reason\":\"INVALID_TRANSITION_REQUEST\"\x7d\x7d"

def batteryPayload : Dict := [("event", .str "BatteryLow")]

def batteryText : String :=
  "\x7b\"message_type\":\"EVENT\",\"timestamp\":1,\"correlation_id\":\"supervisor-1\"," ++
  "\"payload\":\x7b\"event\":\"BatteryLow\"\x7d\x7d"

def receipt : Dict := EventBridge.acknowledgement (fun _ => "") 2 "supervisor-1" batteryPayload

def receiptText : String :=
  "\x7b\"message_type\":\"STATE_UPDATE\",\"timestamp\":2,\"correlation_id\":\"supervisor-1\"," ++
  "\"payload\":\x7b\"component\":\"RustBridge\",\"received_event\":\"BatteryLow\"," ++
  "\"status\":\"accepted\"\x7d\x7d"

/-- What Python reads of the four texts. -/
def pythonReads (text : String) : Option Value :=
  if text = batteryText then some (.dict (envelope .event 1 "supervisor-1" batteryPayload))
  else if text = denialText then some denial.toValue
  else none

/-- What the supervisor reads of them. -/
def rustReads (text : String) : Option Value :=
  if text = requestText then some malformedRequest.toValue
  else if text = receiptText then some (.dict receipt)
  else none

def fourTexts : JsonReaders := ⟨pythonReads, rustReads, fun _ => []⟩

theorem fourTexts_written :
    toJsonString fourTexts denial.toValue = some denialText ∧
      dumps fourTexts (.dict receipt) = some receiptText := by
  decide +kernel

theorem fourTexts_framed : Framed requestText ∧ Framed batteryText :=
  ⟨⟨requestText.toList.tail.dropLast, by decide +kernel⟩,
    ⟨batteryText.toList.tail.dropLast, by decide +kernel⟩⟩

theorem request_denied : ∃ p, PythonBridgeProcess.spawn.readAndDispatchOnce fourTexts tick
    (some (asLine requestText)) =
      ⟨.ok (.transitionResultGenerated denial), some (denial, denialText), none, p⟩ := by
  have sizes : requestText.utf8ByteSize ≤ max defaultMaxMessageBytes 1 ∧
      "t1".utf8ByteSize ≤ 128 ∧ Python.blank "t1" = false := by decide +kernel
  have read : rustReads requestText = some malformedRequest.toValue := if_pos rfl
  rw [IpcEnvelope.toValue_eq malformedRequest rfl] at read
  have parsed : parseEnvelopeLine fourTexts (asLine requestText)
      PythonBridgeProcess.spawn.maxMessageBytes = .ok (some malformedRequest) :=
    (parseEnvelopeLine_asLine fourTexts_framed.1 read sizes.2.2 _ _).mpr
      ⟨sizes.1, sizes.2.1, tick, by decide +kernel, rfl⟩
  have sent : serializeEnvelope fourTexts denial = .ok denialText := by
    rw [serializeEnvelope, fourTexts_written.1]
  have dispatched : dispatchIncoming tick malformedRequest PythonBridgeProcess.spawn.tracker =
      ⟨.transitionResultGenerated denial, (PythonBridgeProcess.spawn.tracker.markSeen "t1").2, none⟩ := by
    rfl
  simp only [PythonBridgeProcess.readAndDispatchOnce, parsed, dispatched, DispatchResult.response,
    PythonBridgeProcess.sendEnvelope, sent]
  exact ⟨_, rfl⟩

theorem event_receipted : ∃ bridge, (EventBridge.new none).turn fourTexts (fun _ => "") 2
    (asLine batteryText) = ⟨some (receipt, receiptText), true, bridge⟩ := by
  have small : batteryText.utf8ByteSize ≤ Bridge.maxMessageBytes ∧
      Python.blank "supervisor-1" = false := by decide +kernel
  have read : fourTexts.loads batteryText =
      some (.dict (envelope .event 1 "supervisor-1" batteryPayload)) := by
    rw [show fourTexts.loads = pythonReads from rfl, pythonReads, if_pos rfl]
  have parsed := parseEnvelope_asLine fourTexts_framed.2 read Bridge.maxMessageBytes
  rw [if_pos small] at parsed
  exact ⟨_, EventBridge.turn_event parsed List.not_mem_nil rfl fourTexts_written.2⟩

def bothAnswered : List Delivery :=
  [.rust (asLine requestText) tick, .python (asLine batteryText) 2]

theorem no_reply_is_answered_once :
    (∃ sent ∈ (run (deliver fourTexts fun _ => "")
        (.start none [asLine requestText] [asLine batteryText]) bothAnswered).fromRust,
      ∀ now (bridge : EventBridge),
        (bridge.turn fourTexts (fun _ => "") now (asLine sent.2)).written = none) ∧
      ∃ sent ∈ (run (deliver fourTexts fun _ => "")
          (.start none [asLine requestText] [asLine batteryText]) bothAnswered).fromPython,
        ∀ now (p : PythonBridgeProcess),
          (p.readAndDispatchOnce fourTexts now (some (asLine sent.2))).written = none := by
  obtain ⟨p, denied⟩ := request_denied
  obtain ⟨bridge, receipted⟩ := event_receipted
  have produced : (denial, denialText) ∈ (run (deliver fourTexts fun _ => "")
        (.start none [asLine requestText] [asLine batteryText]) bothAnswered).fromRust ∧
      (receipt, receiptText) ∈ (run (deliver fourTexts fun _ => "")
        (.start none [asLine requestText] [asLine batteryText]) bothAnswered).fromPython := by
    simp [run, bothAnswered, deliver, Net.start, denied, receipted]
  have different : denialText ≠ batteryText ∧ receiptText ≠ requestText := by decide +kernel
  obtain ⟨results, updates, -⟩ := no_reply_is_answered fourTexts (fun _ => "") none
    [asLine requestText] [asLine batteryText] bothAnswered
  have loaded : fourTexts.loads denialText = some denial.toValue := by
    rw [show fourTexts.loads = pythonReads from rfl, pythonReads, if_neg different.1, if_pos rfl]
  have read : fourTexts.fromStr receiptText = some (.dict receipt) := by
    rw [show fourTexts.fromStr = rustReads from rfl, rustReads, if_neg different.2, if_pos rfl]
  exact ⟨⟨_, produced.1, fun now bridge => (results (denial, denialText) produced.1 loaded now bridge).1⟩,
    ⟨_, produced.2, fun now p => (updates (receipt, receiptText) produced.2 read now p).1⟩⟩

end Apcos.Guarantees.LoopFree
