import Apcos.Lib.Receiver
import Apcos.Source.Bridge.ProcessLine
import Apcos.Source.Supervisor.BridgeProcess

/-!
# Delivery of supervisor events

os/src/ipc.rs:151-159 and 691-703 against services/ipc/rust_bridge.py:428-482
and 888-900. The id of an event is a prefix and a millisecond reading, and the
bridge remembers every id it has read. The handler sees the first event of each
reading; each event is handled once exactly when no reading repeats, every text
is within the bridge's limit and no handler but the last raises.
-/
namespace Apcos.Guarantees.EventDelivery

open Apcos.Lib
open Apcos.Source
open Apcos.Source.Python (Value Dict Exc)
open Apcos.Source.JsonText
open Apcos.Source.Supervisor
open Apcos.Source.Bridge

/-- `int(time.time() * 1000)`: the product is a finite double. -/
abbrev PythonClock := { now : Int // now.natAbs < 2 ^ 1024 }

/-- An event the supervisor sends, with the readings of the clocks on its way. -/
structure SentEvent where
  generated : Fin (2 ^ 128)
  built : Fin (2 ^ 128)
  answered : PythonClock
  name : String
  data : Value
  plain : isData data = true

namespace SentEvent

def correlationId (idPrefix : String) (e : SentEvent) : String :=
  generateCorrelationId e.generated idPrefix

def envelope (idPrefix : String) (e : SentEvent) : IpcEnvelope :=
  buildEventEnvelope e.built e.name e.data (e.correlationId idPrefix)

/-- What the handler is given. -/
def payload (e : SentEvent) : Dict := [("data", e.data), ("event", .str e.name)]

end SentEvent

section Delivery

variable (json : JsonReaders) (repr : Value → String) (idPrefix : String)
  (handler : Dict → Except Exc Unit)

/-- The lines the supervisor writes, each with Python's reading of the clock. -/
def stream : PythonBridgeProcess → List SentEvent → List (Int × String)
  | _, [] => []
  | p, e :: rest =>
    match p.sendEnvelope json (e.envelope idPrefix) with
    | (.ok text, p) => (e.answered.val, asLine text) :: stream p rest
    | (.error _, p) => stream p rest

/-- The bridge when its loop has taken what the supervisor sent. -/
def delivered (events : List SentEvent) : EventBridge :=
  (EventBridge.new (some handler)).runForever json repr (stream json idPrefix .spawn events)

/-- The handler is invoked exactly once for each event. -/
def HandledOnce (events : List SentEvent) : Prop :=
  ((delivered json repr idPrefix handler events).invoked.map Prod.snd).Perm
    (events.map SentEvent.payload)

/-- json reads back what serde_json wrote of the events. -/
def ReadBack (events : List SentEvent) : Prop :=
  ∀ e ∈ events, ∀ text, toJsonString json (e.envelope idPrefix).toValue = some text →
    json.loads text = some (e.envelope idPrefix).toValue

/-- The text is within the bridge's limit. -/
def fits (e : SentEvent) : Bool :=
  (toJsonString json (e.envelope idPrefix).toValue).all fun text =>
    text.utf8ByteSize ≤ Bridge.maxMessageBytes

/-- The handler does not raise. -/
def returns (e : SentEvent) : Bool := (handler e.payload).isOk

structure Deliverable (events : List SentEvent) : Prop where
  distinct : (events.map SentEvent.generated).Nodup
  fits : ∀ e ∈ events, fits json idPrefix e = true
  returns : ∀ e ∈ events.dropLast, returns handler e = true

end Delivery

/-! ## Ids -/

theorem generateCorrelationId_inj {a b : Fin (2 ^ 128)} {idPrefix : String} :
    generateCorrelationId a idPrefix = generateCorrelationId b idPrefix ↔ a = b := by
  constructor
  · intro same
    rw [generateCorrelationId, generateCorrelationId, String.append_right_inj] at same
    have digits : Nat.toDigits 10 a.val = Nat.toDigits 10 b.val := String.ofList_injective same
    have values := congrArg (fun digits => Nat.ofDigitChars 10 digits 0) digits
    rw [Nat.ofDigitChars_ten_toDigits, Nat.ofDigitChars_ten_toDigits] at values
    exact Fin.ext values
  · rintro rfl
    rfl

theorem distinct_ids {idPrefix : String} {events : List SentEvent} :
    (events.map (SentEvent.correlationId idPrefix)).Nodup ↔
      (events.map SentEvent.generated).Nodup := by
  have split : SentEvent.correlationId idPrefix =
      (fun now => generateCorrelationId now idPrefix) ∘ SentEvent.generated := rfl
  rw [split, ← List.map_map]
  exact List.nodup_map_iff fun _ _ same => generateCorrelationId_inj.mp same

/-- The hyphen of an id is visible. -/
theorem generated_visible (now : Fin (2 ^ 128)) (idPrefix : String) :
    Python.blank (generateCorrelationId now idPrefix) = false := by
  rw [← Bool.not_eq_true, Python.blank_iff]
  intro all
  have hyphen : '-' ∈ (generateCorrelationId now idPrefix).toList := by
    simp [generateCorrelationId]
  exact absurd (all '-' hyphen) (by decide)

/-! ## The line of an event -/

theorem clock_printable (now : PythonClock) : now.val.natAbs < 10 ^ Python.maxStrDigits := by
  have wider (n : Nat) : 2 ^ n ≤ 10 ^ n := Nat.pow_le_pow_left (by decide) n
  have longer {m n : Nat} (more : m ≤ n) : 10 ^ m ≤ 10 ^ n := Nat.pow_le_pow_right (by decide) more
  have digits : 1024 ≤ Python.maxStrDigits := by decide
  exact Nat.lt_of_lt_of_le now.property (Nat.le_trans (wider 1024) (longer digits))

theorem envelope_toValue (idPrefix : String) (e : SentEvent) :
    (e.envelope idPrefix).toValue =
      .dict (Bridge.envelope .event e.built.val (e.correlationId idPrefix) e.payload) :=
  (e.envelope idPrefix).toValue_eq rfl

theorem envelope_written (json : JsonReaders) (idPrefix : String) (e : SentEvent) :
    ∃ text, toJsonString json (e.envelope idPrefix).toValue = some text := by
  have payload : isData (e.envelope idPrefix).payload = true := by
    simp [SentEvent.envelope, buildEventEnvelope, isData, entriesData, e.plain]
  exact toJsonString_written json (IpcEnvelope.isData_toValue payload)

theorem parseEnvelope_sent {json : JsonReaders} {idPrefix text : String} {e : SentEvent}
    (written : toJsonString json (e.envelope idPrefix).toValue = some text)
    (read : json.loads text = some (e.envelope idPrefix).toValue) :
    parseEnvelope json (asLine text) Bridge.maxMessageBytes =
      .ok (if fits json idPrefix e = true then
        some (returned .event (.int e.built.val) (e.correlationId idPrefix) e.payload)
      else none) := by
  have size : fits json idPrefix e = true ↔ text.utf8ByteSize ≤ Bridge.maxMessageBytes ∧
      Python.blank (e.correlationId idPrefix) = false := by
    rw [fits, written, Option.all_some, decide_eq_true_iff]
    exact (and_iff_left (generated_visible e.generated idPrefix)).symm
  rw [envelope_toValue] at written read
  rw [parseEnvelope_asLine (framed_toJsonString written) read]
  simp only [size]
  rfl

/-- The bridge once its handler was given the event. -/
def notified (bridge : EventBridge) (idPrefix : String) (e : SentEvent) : EventBridge :=
  { bridge.remember (e.correlationId idPrefix) with
    invoked := bridge.invoked ++ [(e.correlationId idPrefix, e.payload)] }

section Line

variable {json : JsonReaders} (repr : Value → String) {idPrefix : String}
  {handler : Dict → Except Exc Unit} {bridge : EventBridge} {e : SentEvent} {text : String}

theorem turn_skipped (limit : bridge.maxMessageBytes = Bridge.maxMessageBytes)
    (written : toJsonString json (e.envelope idPrefix).toValue = some text)
    (read : json.loads text = some (e.envelope idPrefix).toValue)
    (skips : ¬(fits json idPrefix e = true ∧
      e.correlationId idPrefix ∉ bridge.seenCorrelationIds)) :
    bridge.turn json repr e.answered.val (asLine text) = ⟨none, true, bridge⟩ := by
  have parsed := parseEnvelope_sent written read
  rw [← limit] at parsed
  by_cases small : fits json idPrefix e = true
  · rw [if_pos small] at parsed
    have seen : e.correlationId idPrefix ∈ bridge.seenCorrelationIds := by
      by_contra fresh
      exact skips ⟨small, fresh⟩
    exact EventBridge.turn_seen parsed seen
  · rw [if_neg small] at parsed
    exact EventBridge.turn_dropped parsed

/-- A line that Python takes is handled once and acknowledged. -/
theorem turn_notified (limit : bridge.maxMessageBytes = Bridge.maxMessageBytes)
    (given : bridge.eventHandler = some handler)
    (written : toJsonString json (e.envelope idPrefix).toValue = some text)
    (read : json.loads text = some (e.envelope idPrefix).toValue)
    (takes : fits json idPrefix e = true ∧
      e.correlationId idPrefix ∉ bridge.seenCorrelationIds) :
    ∃ answer, bridge.turn json repr e.answered.val (asLine text) =
      ⟨answer, returns handler e, notified bridge idPrefix e⟩ := by
  have parsed := parseEnvelope_sent written read
  rw [← limit, if_pos takes.1] at parsed
  have handled : (bridge.remember (e.correlationId idPrefix)).handle (e.correlationId idPrefix)
      e.payload = (handler e.payload, notified bridge idPrefix e) := by
    simp only [EventBridge.handle, EventBridge.remember, given, notified]
  cases outcome : handler e.payload with
  | error raised =>
    have stops : returns handler e = false := by
      rw [returns, outcome]
      rfl
    rw [outcome] at handled
    rw [stops]
    exact ⟨none, EventBridge.turn_raised parsed takes.2 handled⟩
  | ok done =>
    have goes : returns handler e = true := by
      rw [returns, outcome]
      rfl
    rw [outcome] at handled
    obtain ⟨answer, printed⟩ := EventBridge.acknowledgement_written json repr
      (clock_printable e.answered) (e.correlationId idPrefix) e.payload
    rw [goes]
    exact ⟨_, EventBridge.turn_event parsed takes.2 handled printed⟩

end Line

/-- The handler is given the first event of each id that fits, until it raises. -/
theorem runForever_stream (json : JsonReaders) (repr : Value → String) (idPrefix : String)
    (handler : Dict → Except Exc Unit) (events : List SentEvent)
    (readBack : ReadBack json idPrefix events) (p : PythonBridgeProcess) (bridge : EventBridge)
    (limit : bridge.maxMessageBytes = Bridge.maxMessageBytes)
    (given : bridge.eventHandler = some handler) :
    (bridge.runForever json repr (stream json idPrefix p events)).invoked =
      bridge.invoked ++
        (received (SentEvent.correlationId idPrefix) (fits json idPrefix) (returns handler)
          bridge.seenCorrelationIds events).map fun e => (e.correlationId idPrefix, e.payload) := by
  induction events generalizing p bridge with
  | nil => simp [stream, EventBridge.runForever, received]
  | cons e rest ih =>
    obtain ⟨text, written⟩ := envelope_written json idPrefix e
    have read := readBack e List.mem_cons_self text written
    have later : ReadBack json idPrefix rest :=
      fun other member => readBack other (List.mem_cons_of_mem e member)
    obtain ⟨sender, sent⟩ : ∃ sender, stream json idPrefix p (e :: rest) =
        (e.answered.val, asLine text) :: stream json idPrefix sender rest := by
      simp only [stream, PythonBridgeProcess.sendEnvelope, serializeEnvelope, written]
      exact ⟨_, rfl⟩
    rw [sent]
    unfold received
    by_cases takes : fits json idPrefix e = true ∧
        e.correlationId idPrefix ∉ bridge.seenCorrelationIds
    · obtain ⟨answer, took⟩ := turn_notified repr limit given written read takes
      rw [if_pos takes]
      cases going : returns handler e with
      | false =>
        rw [going] at took
        rw [EventBridge.runForever_left took]
        rfl
      | true =>
        rw [going] at took
        have onward := ih later sender (notified bridge idPrefix e) limit given
        rw [EventBridge.runForever_onward took, onward]
        simp [notified, EventBridge.remember]
    · rw [if_neg takes, EventBridge.runForever_onward (turn_skipped repr limit written read takes)]
      exact ih later sender bridge limit given

theorem delivered_invoked (json : JsonReaders) (repr : Value → String) (idPrefix : String)
    (handler : Dict → Except Exc Unit) (events : List SentEvent)
    (readBack : ReadBack json idPrefix events) :
    (delivered json repr idPrefix handler events).invoked.map Prod.snd =
      (received (SentEvent.correlationId idPrefix) (fits json idPrefix) (returns handler) []
        events).map SentEvent.payload := by
  rw [delivered, runForever_stream json repr idPrefix handler events readBack .spawn
    (.new (some handler)) rfl rfl, EventBridge.new, List.nil_append, List.map_map]
  rfl

theorem deliverable_iff {json : JsonReaders} {idPrefix : String}
    {handler : Dict → Except Exc Unit} {events : List SentEvent} :
    Deliverable json idPrefix handler events ↔
      Receivable (SentEvent.correlationId idPrefix) (fits json idPrefix) (returns handler) []
        events := by
  constructor
  · intro deliverable
    exact ⟨deliverable.fits, distinct_ids.mpr deliverable.distinct, fun _ _ => List.not_mem_nil,
      deliverable.returns⟩
  · intro receivable
    exact ⟨distinct_ids.mp receivable.distinct, receivable.fits, receivable.goesOn⟩

theorem deliverable_of_handledOnce {json : JsonReaders} {repr : Value → String} {idPrefix : String}
    {handler : Dict → Except Exc Unit} {events : List SentEvent}
    (readBack : ReadBack json idPrefix events)
    (once : HandledOnce json repr idPrefix handler events) :
    Deliverable json idPrefix handler events := by
  have same := once.length_eq
  rw [delivered_invoked json repr idPrefix handler events readBack, List.length_map,
    List.length_map] at same
  rw [deliverable_iff, ← received_eq_iff]
  exact received_eq_of_length same

/-- Deliverable events are handled in the order they were sent. -/
theorem handled_in_order {json : JsonReaders} {idPrefix : String}
    {handler : Dict → Except Exc Unit} {events : List SentEvent}
    (readBack : ReadBack json idPrefix events)
    (deliverable : Deliverable json idPrefix handler events) (repr : Value → String) :
    (delivered json repr idPrefix handler events).invoked.map Prod.snd =
      events.map SentEvent.payload := by
  rw [deliverable_iff, ← received_eq_iff] at deliverable
  rw [delivered_invoked json repr idPrefix handler events readBack, deliverable]

/-- Each event is handled exactly once if and only if no two ids were generated in the same
millisecond, every text fits and the handler raises on no event but the last. -/
theorem handled_once_iff (json : JsonReaders) (repr : Value → String) (idPrefix : String)
    (handler : Dict → Except Exc Unit) (events : List SentEvent)
    (readBack : ReadBack json idPrefix events) :
    HandledOnce json repr idPrefix handler events ↔
      Deliverable json idPrefix handler events := by
  constructor
  · exact deliverable_of_handledOnce readBack
  · intro deliverable
    rw [HandledOnce, handled_in_order readBack deliverable repr]

/-! ## Two events -/

def firstMillisecond : Fin (2 ^ 128) := ⟨1, one_lt_clock⟩

def clockZero : PythonClock where
  val := 0
  property := by
    have positive (n : Nat) : 0 < 2 ^ n := Nat.two_pow_pos n
    exact positive 1024

def firstEvent (name : String) : SentEvent :=
  ⟨firstMillisecond, firstMillisecond, clockZero, name, .null, rfl⟩

def batteryLow : SentEvent := firstEvent "BatteryLow"

def identityChanged : SentEvent := firstEvent "IdentityChanged"

/-- The writers alone. -/
def writers : JsonReaders := ⟨fun _ => none, fun _ => none, fun _ => []⟩

/-- The texts of the two events, read as Python reads them. -/
def sampleRead (text : String) : Option Value :=
  if toJsonString writers (batteryLow.envelope "rust-event").toValue = some text then
    some (batteryLow.envelope "rust-event").toValue
  else if toJsonString writers (identityChanged.envelope "rust-event").toValue = some text then
    some (identityChanged.envelope "rust-event").toValue
  else none

def sampleReaders : JsonReaders := ⟨sampleRead, sampleRead, writers.floatText⟩

theorem texts_differ : toJsonString writers (batteryLow.envelope "rust-event").toValue ≠
    toJsonString writers (identityChanged.envelope "rust-event").toValue := by
  intro same
  have injective := Option.map_injective (f := String.ofList) fun _ _ => String.ofList_injective
  have chars := injective same
  exact absurd chars (by decide +kernel)

theorem samples_readBack : ReadBack sampleReaders "rust-event" [batteryLow, identityChanged] := by
  intro e member text written
  have same : toJsonString writers (e.envelope "rust-event").toValue = some text := written
  rw [List.mem_pair] at member
  rcases member with rfl | rfl
  · simp only [sampleReaders, sampleRead, same, if_true]
  · have other : toJsonString writers (batteryLow.envelope "rust-event").toValue ≠ some text := by
      rw [← same]
      exact texts_differ
    simp only [sampleReaders, sampleRead]
    rw [if_neg other, if_pos same]

theorem batteryLow_readBack : ReadBack sampleReaders "rust-event" [batteryLow] := by
  intro e member
  rw [List.mem_singleton] at member
  subst member
  have first : batteryLow ∈ [batteryLow, identityChanged] := List.mem_pair.mpr (Or.inl rfl)
  exact samples_readBack batteryLow first

theorem batteryLow_deliverable :
    Deliverable sampleReaders "rust-event" (fun _ => .ok ()) [batteryLow] := by
  refine ⟨List.nodup_singleton _, ?_, fun _ _ => rfl⟩
  intro e member
  rw [List.mem_singleton] at member
  subst member
  obtain ⟨text, written⟩ := envelope_written sampleReaders "rust-event" batteryLow
  have size : textBound sampleReaders.floatText (batteryLow.envelope "rust-event").toValue ≤
      Bridge.maxMessageBytes := by decide +kernel
  rw [fits, written, Option.all_some, decide_eq_true_iff]
  exact Nat.le_trans (toJsonString_bound written) size

/-- An event on its own is handled. -/
theorem handled_once_alone :
    HandledOnce sampleReaders (fun _ => "") "rust-event" (fun _ => .ok ()) [batteryLow] :=
  (handled_once_iff sampleReaders (fun _ => "") "rust-event" (fun _ => .ok ()) [batteryLow]
    batteryLow_readBack).mpr batteryLow_deliverable

/-- Of two events generated in the same millisecond one is not handled. -/
theorem same_millisecond_lost :
    ([batteryLow, identityChanged].map SentEvent.generated).Pairwise (· ≤ ·) ∧
      ReadBack sampleReaders "rust-event" [batteryLow, identityChanged] ∧
      ¬HandledOnce sampleReaders (fun _ => "") "rust-event" (fun _ => .ok ())
        [batteryLow, identityChanged] := by
  refine ⟨by decide, samples_readBack, ?_⟩
  intro once
  have repeated := (deliverable_of_handledOnce samples_readBack once).distinct
  exact absurd repeated (by decide)

end Apcos.Guarantees.EventDelivery
