import Apcos.Lib.Comp
import Apcos.Source.Bridge.ExternalEvents

/-!
# Forwarded external events

services/sync_daemon.py and core/connectors/mobile_connector.py against
`parse_envelope_line` and `dispatch_incoming` of os/src/ipc.rs. The adapters check
that an id is visible and a timestamp a number; the supervisor also bounds both, the
length of a line, and what its JSON reader takes. Within these bounds an accepted
payload is one message that the supervisor forwards under the name of its type.
-/
namespace Apcos.Guarantees.ExternalEvents

open Apcos.Lib (bind_ok)
open Apcos.Source
open Apcos.Source.Python (Value Dict Exc Runtime strip blank)
open Apcos.Source.Bridge
open Apcos.Source.JsonText (JsonReaders dumps asLine)
open Apcos.Source.Supervisor

/-! ## What forwarding is to do -/

/-- The line of the message is accepted, and its dispatch under a fresh id forwards the
event of that name. -/
def Dispatchable (json : JsonReaders) (message : Dict) (name : String) : Prop :=
  ∃ text e event, dumps json (.dict message) = some text ∧
    parseEnvelopeLine json (asLine text) defaultMaxMessageBytes = .ok (some e) ∧
    mapEventName name = some event ∧
    ∀ now tracker, e.correlationId ∉ tracker.set →
      (dispatchIncoming now e tracker).result = .eventForwarded event

/-- An accepted payload is one message, returned and handed over, of the event that the
type map names; a refused one hands over nothing. -/
structure ForwardsValid (json : JsonReaders) (name : Option String) (outcome : Handed) : Prop where
  accepted : ∀ message, outcome.1 = .ok message →
    outcome.2 = [message] ∧ ∃ event, name = some event ∧ Dispatchable json message event
  raised : ∀ exc, outcome.1 = .error exc → outcome.2 = []

/-- The event that the type map names for the text under a key. -/
def namedEvent (names : List (String × String)) (normalize : String → String) (key : String)
    (payload : Value) : Option String :=
  match payload with
  | .dict entries =>
    match Dict.get entries key with
    | .str text => names.lookup (normalize (strip text))
    | _ => none
  | _ => none

/-- serde_json's read of an envelope: the data of an event may be read as other numbers,
its name is not. -/
def ReadsBack (json : JsonReaders) (message : Dict) : Prop :=
  ∀ text v, dumps json (.dict message) = some text → json.fromStr text = some v →
    ∃ stamp id payload payload', message = envelope .event stamp id payload ∧
      v = .dict (envelope .event stamp id payload') ∧
      payload'.lookup "event" = payload.lookup "event"

/-- Timestamp, id and line are within the supervisor's bounds, and serde_json takes the line. -/
structure WithinBounds (json : JsonReaders) (stamp : Int) (id : String) (message : Dict) : Prop where
  clock : 0 ≤ stamp ∧ stamp < 2 ^ 128
  short : id.utf8ByteSize ≤ 128
  line : ∃ text, dumps json (.dict message) = some text ∧
    text.utf8ByteSize ≤ defaultMaxMessageBytes ∧ (json.fromStr text).isSome = true

/-- A payload that is accepted while the bridge has a method: the method takes the message,
and the message is within the bounds. -/
def Deliverable (json : JsonReaders) (bridge : IpcBridge) (payload : Value)
    (built : Except Exc Dict) (stamp : Dict → Except Exc Int) (fresh : String) : Prop :=
  ∀ entries message method, payload = .dict entries → built = .ok message →
    bridge.method = some method →
    method message = .ok () ∧ ∃ n, stamp entries = .ok n ∧
      WithinBounds json n (correlationOf (Dict.get entries "correlation_id") fresh) message

/-! ## The supervisor's side -/

theorem decodeU128_range {n : Int} {stamp : Fin (2 ^ 128)}
    (decoded : decodeU128 (.int n) = some stamp) : 0 ≤ n ∧ n < 2 ^ 128 := by
  simp only [decodeU128] at decoded
  split at decoded
  · assumption
  · cases decoded

theorem dispatch_event {e : IpcEnvelope} {payload : Dict} {name : String} {event : Event}
    (type : e.messageType = .event) (body : e.payload = .dict payload)
    (named : payload.lookup "event" = some (.str name)) (known : mapEventName name = some event)
    (now : Fin (2 ^ 128)) {tracker : CorrelationTracker} (fresh : e.correlationId ∉ tracker.set) :
    (dispatchIncoming now e tracker).result = .eventForwarded event := by
  obtain ⟨tracker', seen⟩ := CorrelationTracker.markSeen_fresh fresh
  have extracted : extractEvent e.payload = some event := by
    simp [extractEvent, body, Value.asDict, textField, named, Value.asText, known]
  rw [dispatchIncoming, seen]
  simp only [type, extracted]

/-- A message is dispatched exactly if it is within the bounds. -/
theorem dispatchable_iff {json : JsonReaders} {stamp : Int} {id name : String} {data : Dict}
    (reads : ReadsBack json (eventMessage stamp id name data)) (visible : blank id = false)
    (known : (mapEventName name).isSome = true) :
    Dispatchable json (eventMessage stamp id name data) name ↔
      WithinBounds json stamp id (eventMessage stamp id name data) := by
  have back : ∀ text v, dumps json (.dict (eventMessage stamp id name data)) = some text →
      json.fromStr text = some v → ∃ payload, v = .dict (envelope .event stamp id payload) ∧
        payload.lookup "event" = some (.str name) := by
    intro text v written read
    obtain ⟨stamp', id', payload, payload', same, rfl, events⟩ := reads text v written read
    simp only [eventMessage, envelope, List.cons.injEq, Prod.mk.injEq, Value.int.injEq,
      Value.str.injEq, Value.dict.injEq, true_and, and_true] at same
    obtain ⟨rfl, rfl, rfl⟩ := same
    exact ⟨payload', rfl, by rw [events]; rfl⟩
  constructor
  · rintro ⟨text, e, event, written, parsed, _, _⟩
    have framed := framed_dumps written
    have taken := (parseEnvelopeLine_iff json _ _ e).mp parsed
    rw [framed.trim_asLine] at taken
    obtain ⟨v, read, _⟩ := Option.bind_eq_some_iff.mp taken.2.2.1
    obtain ⟨payload, rfl, _⟩ := back text v written read
    obtain ⟨small, short, _, decoded, _⟩ :=
      (parseEnvelopeLine_asLine framed read visible defaultMaxMessageBytes e).mp parsed
    refine ⟨decodeU128_range decoded, short, text, written, ?_, by rw [read]; rfl⟩
    simpa [defaultMaxMessageBytes] using small
  · rintro ⟨clock, short, text, written, fits, taken⟩
    obtain ⟨v, read⟩ := Option.isSome_iff_exists.mp taken
    obtain ⟨event, mapped⟩ := Option.isSome_iff_exists.mp known
    obtain ⟨payload, rfl, named⟩ := back text v written read
    have decoded : decodeU128 (.int stamp) = some ⟨stamp.toNat, toNat_lt_clock clock⟩ := by
      rw [decodeU128, dif_pos clock]
    have parsed := (parseEnvelopeLine_asLine (framed_dumps written) read visible
      defaultMaxMessageBytes ⟨.event, _, id, .dict payload⟩).mpr
      ⟨fits.trans (Nat.le_max_left _ 1), short, _, decoded, rfl⟩
    exact ⟨text, _, event, written, parsed, mapped, fun now tracker fresh =>
      dispatch_event rfl rfl named mapped now fresh⟩

/-! ## The adapters' side -/

/-- Of a bridge with a method, exactly a taken message comes back. -/
theorem forwardsValid_iff (json : JsonReaders) (name : Option String) (bridge : IpcBridge)
    (built : Except Exc Dict) :
    ForwardsValid json name (forward bridge built) ↔
      ∀ message method, built = .ok message → bridge.method = some method →
        method message = .ok () ∧ ∃ event, name = some event ∧ Dispatchable json message event := by
  cases built with
  | error exc =>
    refine iff_of_true ⟨nofun, fun _ _ => rfl⟩ nofun
  | ok message =>
    cases found : bridge.method with
    | none =>
      refine iff_of_true ⟨?_, ?_⟩ nofun
      · intro sent returned
        simp [forward, publish, found, Except.map] at returned
      · intro exc _
        simp [forward, publish, found]
    | some method =>
      have outcome : forward bridge (.ok message) =
          ((method message).map fun _ => message, [message]) := by
        simp [forward, publish, found]
      rw [outcome]
      constructor
      · intro valid sent used same used_same
        cases same
        cases used_same
        cases answer : method message with
        | error exc =>
          have handed := valid.raised exc (by rw [answer]; rfl)
          cases handed
        | ok done => exact ⟨rfl, (valid.accepted message (by rw [answer]; rfl)).2⟩
      · intro delivered
        obtain ⟨taken, dispatched⟩ := delivered message method rfl rfl
        refine ⟨?_, ?_⟩
        · intro sent returned
          rw [taken] at returned
          cases returned
          exact ⟨rfl, dispatched⟩
        · intro exc raised
          rw [taken] at raised
          cases raised

/-- What an adapter builds from a payload it accepts. -/
def Builds (names : List (String × String)) (normalize : String → String) (key fresh : String)
    (stamp : Dict → Except Exc Int) (payload : Value) (message : Dict) : Prop :=
  ∃ entries n event data, payload = .dict entries ∧ stamp entries = .ok n ∧
    namedEvent names normalize key payload = some event ∧
    blank (correlationOf (Dict.get entries "correlation_id") fresh) = false ∧
    message = eventMessage n (correlationOf (Dict.get entries "correlation_id") fresh) event data

/-- An adapter forwards a valid event exactly when its payload is deliverable; the two adapters are
instances. -/
theorem forwardsValid_iff_deliverable {json : JsonReaders} {bridge : IpcBridge}
    {names : List (String × String)} {normalize : String → String} {key fresh : String}
    {stamp : Dict → Except Exc Int} {payload : Value} {built : Except Exc Dict}
    (known : ∀ entry ∈ names, (mapEventName entry.2).isSome = true)
    (spec : ∀ message, built = .ok message → Builds names normalize key fresh stamp payload message)
    (reads : ∀ message, built = .ok message → ReadsBack json message) :
    ForwardsValid json (namedEvent names normalize key payload) (forward bridge built) ↔
      Deliverable json bridge payload built stamp fresh := by
  rw [forwardsValid_iff]
  have each : ∀ message, built = .ok message → ∃ entries n event,
      payload = .dict entries ∧ stamp entries = .ok n ∧
        namedEvent names normalize key payload = some event ∧
        (Dispatchable json message event ↔
          WithinBounds json n (correlationOf (Dict.get entries "correlation_id") fresh) message) := by
    intro message accepted
    obtain ⟨entries, n, event, data, shape, stamped, named, visible, rfl⟩ :=
      spec message accepted
    refine ⟨entries, n, event, shape, stamped, named, ?_⟩
    refine dispatchable_iff (reads _ accepted) visible ?_
    have listed : ∃ text, names.lookup text = some event := by
      rw [shape, namedEvent] at named
      split at named
      · exact ⟨_, named⟩
      · cases named
    obtain ⟨text, found⟩ := listed
    obtain ⟨before, after, split, _⟩ := List.lookup_eq_some_iff.mp found
    exact known (text, event) (by rw [split]; simp)
  constructor
  · intro delivered entries message method shape accepted available
    obtain ⟨taken, event, named, dispatched⟩ := delivered message method accepted available
    obtain ⟨entries', n, event', shape', stamped, named', same⟩ := each message accepted
    rw [shape, Value.dict.injEq] at shape'
    rw [named, Option.some.injEq] at named'
    subst shape' named'
    exact ⟨taken, n, stamped, same.mp dispatched⟩
  · intro deliverable message method accepted available
    obtain ⟨entries, n, event, shape, stamped, named, same⟩ := each message accepted
    obtain ⟨taken, n', stamped', within⟩ := deliverable entries message method shape accepted available
    rw [stamped, Except.ok.injEq] at stamped'
    subst stamped'
    exact ⟨taken, event, named, same.mpr within⟩

/-! ## What the checks let through -/

theorem requiredEntries_ok {payload : Value} {keys : List String} {shape : String} {entries : Dict}
    (checked : requiredEntries payload keys shape = .ok entries) : payload = .dict entries := by
  unfold requiredEntries at checked
  split at checked
  · split at checked
    · rw [Except.ok.injEq] at checked
      rw [checked]
    · cases checked
  · cases checked

theorem visibleText_ok {v : Value} {refusal text : String}
    (checked : visibleText v refusal = .ok text) : v = .str text ∧ blank text = false := by
  unfold visibleText at checked
  split at checked
  · split at checked
    · cases checked
    · rename_i visible
      rw [Except.ok.injEq] at checked
      rw [← checked]
      exact ⟨rfl, Bool.eq_false_iff.mpr visible⟩
  · cases checked

theorem blank_strip {s : String} (visible : blank s = false) : blank (strip s) = false := by
  rw [Bool.eq_false_iff] at visible ⊢
  intro gone
  apply visible
  rw [Python.blank_iff] at gone
  rw [blank, beq_iff_eq, strip, String.ofList_eq_empty_iff]
  have ends := Python.trimChars_ends Python.isSpace s.toList
  cases shape : Python.trimChars Python.isSpace s.toList with
  | nil => rfl
  | cons first rest =>
    have kept := ends first (Or.inl (by rw [shape]; rfl))
    have spaced := gone first (by rw [strip, shape]; simp)
    rw [kept] at spaced
    cases spaced

/-- The id of a message is visible, the given one or a new one. -/
theorem visible_correlationOf {v : Value} {fresh : String} (checked : checkCorrelationId v = .ok ())
    (visible : blank fresh = false) : blank (correlationOf v fresh) = false := by
  unfold correlationOf
  split
  · split
    · exact blank_strip visible
    · rename_i shown
      exact blank_strip (Bool.eq_false_iff.mpr shown)
  · exact blank_strip visible

/-- A new id starts with a letter. -/
theorem visible_fresh (kind : Char) (rest : String) (letter : Python.isSpace kind = false) :
    blank (String.ofList [kind] ++ rest) = false := by
  rw [Bool.eq_false_iff]
  intro gone
  rw [Python.blank_iff] at gone
  rw [gone kind (by simp)] at letter
  cases letter

/-- The name a type map has for a text, normalised once or twice. -/
theorem named_twice {names : List (String × String)} {normalize : String → String} {text : String}
    (stable : ∀ entry ∈ names, normalize (strip entry.1) = entry.1)
    (listed : (names.lookup (normalize (strip text))).isSome = true) :
    normalize (strip (normalize (strip text))) = normalize (strip text) := by
  obtain ⟨event, found⟩ := Option.isSome_iff_exists.mp listed
  obtain ⟨before, after, split, _⟩ := List.lookup_eq_some_iff.mp found
  exact stable (_, event) (by rw [split]; simp)

theorem sync_names_stable (py : Runtime) :
    ∀ entry ∈ SyncDaemon.syncEventMap, py.upper (strip entry.1) = entry.1 := by
  intro entry member
  have ascii : ∀ entry ∈ SyncDaemon.syncEventMap, Python.isAscii (strip entry.1) = true ∧
      String.ofList ((strip entry.1).toList.map Python.asciiUpper) = entry.1 := by decide +kernel
  obtain ⟨plain, same⟩ := ascii entry member
  rw [py.upper_ascii _ plain, same]

theorem mobile_names_stable (py : Runtime) :
    ∀ entry ∈ MobileConnector.actionEventMap, py.lower (strip entry.1) = entry.1 := by
  intro entry member
  have ascii : ∀ entry ∈ MobileConnector.actionEventMap, Python.isAscii (strip entry.1) = true ∧
      String.ofList ((strip entry.1).toList.map Python.asciiLower) = entry.1 := by decide +kernel
  obtain ⟨plain, same⟩ := ascii entry member
  rw [py.lower_ascii _ plain, same]

/-- What a validated sync payload has. -/
theorem sync_validated {py : Runtime} {payload : Value} {v : SyncDaemon.Validated}
    (validated : SyncDaemon.validatePayload py payload = .ok v) :
    ∃ entries syncType, payload = .dict entries ∧ Dict.get entries "sync_type" = .str syncType ∧
      v.syncType = py.upper (strip syncType) ∧
      (SyncDaemon.syncEventMap.lookup v.syncType).isSome = true ∧
      v.timestamp = Dict.get entries "timestamp" ∧
      v.correlationId = Dict.get entries "correlation_id" ∧
      checkCorrelationId v.correlationId = .ok () := by
  unfold SyncDaemon.validatePayload at validated
  obtain ⟨entries, required, validated⟩ := bind_ok validated
  obtain ⟨sourceId, _, validated⟩ := bind_ok validated
  obtain ⟨syncType, typed, validated⟩ := bind_ok validated
  dsimp only at validated
  split at validated
  · cases validated
  · rename_i supported
    obtain ⟨body, _, validated⟩ := bind_ok validated
    obtain ⟨mergeHint, _, validated⟩ := bind_ok validated
    split at validated
    · cases validated
    · obtain ⟨done, checked, validated⟩ := bind_ok validated
      cases validated
      refine ⟨entries, syncType, requiredEntries_ok required, (visibleText_ok typed).1, rfl, ?_, rfl,
        rfl, checked⟩
      simpa using supported

/-- What the sync daemon builds of a payload. -/
theorem sync_builds {py : Runtime} {now : Int} {uuid source : String} {payload : Value}
    {message : Dict} (built : SyncDaemon.build py now uuid source payload = .ok message) :
    Builds SyncDaemon.syncEventMap py.upper "sync_type" ("sync-" ++ uuid)
      (fun entries => stampOf py now (Dict.get entries "timestamp")) payload message := by
  obtain ⟨e, normalized, sent⟩ := bind_ok built
  obtain ⟨v, validated, normalized⟩ := bind_ok normalized
  obtain ⟨stamp, stamped, normalized⟩ := bind_ok normalized
  obtain ⟨mergeHint, _, same⟩ := bind_ok normalized
  obtain ⟨entries, syncType, shape, typed, upper, listed, time, id, checked⟩ :=
    sync_validated validated
  cases same
  obtain ⟨event, found⟩ := Option.isSome_iff_exists.mp listed
  have twice : py.upper (strip v.syncType) = v.syncType := by
    rw [upper] at listed ⊢
    exact named_twice (sync_names_stable py) listed
  simp only [SyncDaemon.message, twice, found, Except.ok.injEq] at sent
  refine ⟨entries, stamp, event, _, shape, ?_, ?_, ?_, by rw [← id]; exact sent.symm⟩
  · dsimp only
    rw [← time]
    exact stamped
  · simp only [namedEvent, shape, typed]
    rw [← upper, found]
  · rw [← id]
    exact visible_correlationOf checked (visible_fresh 's' ("ync-" ++ uuid) (by decide))

/-- What the mobile connector has checked of a payload. -/
theorem mobile_validated {py : Runtime} {payload : Value} {v : MobileConnector.Validated}
    (validated : MobileConnector.validatePayload py payload = .ok v) :
    ∃ entries action, payload = .dict entries ∧ Dict.get entries "action" = .str action ∧
      v.action = py.lower (strip action) ∧
      (MobileConnector.actionEventMap.lookup v.action).isSome = true ∧
      v.correlationId = Dict.get entries "correlation_id" ∧
      checkCorrelationId v.correlationId = .ok () := by
  unfold MobileConnector.validatePayload at validated
  obtain ⟨entries, required, validated⟩ := bind_ok validated
  obtain ⟨action, typed, validated⟩ := bind_ok validated
  dsimp only at validated
  split at validated
  · cases validated
  · rename_i supported
    obtain ⟨body, _, validated⟩ := bind_ok validated
    obtain ⟨done, checked, validated⟩ := bind_ok validated
    cases validated
    refine ⟨entries, action, requiredEntries_ok required, (visibleText_ok typed).1, rfl, ?_, rfl,
      checked⟩
    simpa using supported

/-- What the mobile connector builds of a payload. -/
theorem mobile_builds {py : Runtime} {now : Int} {uuid source : String} {payload : Value}
    {message : Dict} (built : MobileConnector.build py now uuid source payload = .ok message) :
    Builds MobileConnector.actionEventMap py.lower "action" ("mobile-" ++ uuid)
      (fun _ => .ok now) payload message := by
  obtain ⟨e, normalized, sent⟩ := bind_ok built
  obtain ⟨v, validated, normalized⟩ := bind_ok normalized
  obtain ⟨entries, action, shape, typed, lower, listed, id, checked⟩ := mobile_validated validated
  obtain ⟨event, found⟩ := Option.isSome_iff_exists.mp listed
  have twice : py.lower (strip v.action) = v.action := by
    rw [lower] at listed ⊢
    exact named_twice (mobile_names_stable py) listed
  simp only [twice, found] at normalized
  cases normalized
  cases sent
  refine ⟨entries, now, event, _, shape, rfl, ?_, ?_, by rw [← id]; rfl⟩
  · simp only [namedEvent, shape, typed]
    rw [← lower, found]
  · rw [← id]
    exact visible_correlationOf checked (visible_fresh 'm' ("obile-" ++ uuid) (by decide))

/-! ## Both adapters -/

/-- The events of both type maps are known to the supervisor. -/
theorem names_known :
    (∀ entry ∈ SyncDaemon.syncEventMap, (mapEventName entry.2).isSome = true) ∧
      ∀ entry ∈ MobileConnector.actionEventMap, (mapEventName entry.2).isSome = true := by
  decide

/-- Forwarding does what it is to do exactly for the payloads that are refused, that find no
method of a bridge, or whose message the bridge takes within the supervisor's bounds. -/
theorem forwarded_valid_iff (json : JsonReaders) (py : Runtime) (now : Int) (uuid source : String)
    (bridge : IpcBridge) (payload : Value)
    (readsSync : ∀ message, SyncDaemon.build py now uuid source payload = .ok message →
      ReadsBack json message)
    (readsMobile : ∀ message, MobileConnector.build py now uuid source payload = .ok message →
      ReadsBack json message) :
    (ForwardsValid json (namedEvent SyncDaemon.syncEventMap py.upper "sync_type" payload)
        (SyncDaemon.receiveSync py now uuid source bridge payload) ↔
      Deliverable json bridge payload (SyncDaemon.build py now uuid source payload)
        (fun entries => stampOf py now (Dict.get entries "timestamp")) ("sync-" ++ uuid)) ∧
    (ForwardsValid json (namedEvent MobileConnector.actionEventMap py.lower "action" payload)
        (MobileConnector.receiveEvent py now uuid source bridge payload) ↔
      Deliverable json bridge payload (MobileConnector.build py now uuid source payload)
        (fun _ => .ok now) ("mobile-" ++ uuid)) :=
  ⟨forwardsValid_iff_deliverable names_known.1 (fun _ built => sync_builds built) readsSync,
    forwardsValid_iff_deliverable names_known.2 (fun _ built => mobile_builds built) readsMobile⟩

/-- Both adapters read it; the timestamp is of use to the sync daemon only. -/
def phonePayload (timestamp : Int) : Value :=
  .dict [("source_id", .str "phone"), ("sync_type", .str "task_update"),
    ("action", .str "create_task"), ("payload", .dict []), ("timestamp", .int timestamp),
    ("correlation_id", .str "e1")]

def syncData (timestamp : Int) : Dict :=
  [("source", .str "gateway"),
    ("sync", .dict
      [("source_id", .str "phone"), ("sync_type", .str "TASK_UPDATE"), ("payload", .dict []),
        ("merge_hint", .dict
          [("source_priority", .str "normal"), ("version", .str "v1"),
            ("external_timestamp", .int timestamp)])])]

def syncMessage (timestamp : Int) : Dict :=
  eventMessage timestamp "e1" "TaskCreated" (syncData timestamp)

def mobileMessage : Dict :=
  eventMessage 1700 "e1" "TaskCreated" [("source", .str "gateway"), ("payload", .dict [])]

def syncText : String :=
  "\x7b\"message_type\":\"EVENT\",\"timestamp\":17,\"correlation_id\":\"e1\",\"payload\":" ++
    "\x7b\"event\":\"TaskCreated\",\"data\":\x7b\"source\":\"gateway\",\"sync\":" ++
    "\x7b\"source_id\":\"phone\",\"sync_type\":\"TASK_UPDATE\",\"payload\":\x7b\x7d," ++
    "\"merge_hint\":\x7b\"source_priority\":\"normal\",\"version\":\"v1\"," ++
    "\"external_timestamp\":17\x7d\x7d\x7d\x7d\x7d"

def mobileText : String :=
  "\x7b\"message_type\":\"EVENT\",\"timestamp\":1700,\"correlation_id\":\"e1\",\"payload\":" ++
    "\x7b\"event\":\"TaskCreated\",\"data\":\x7b\"source\":\"gateway\",\"payload\":" ++
    "\x7b\x7d\x7d\x7d\x7d"

/-- A reader of one text for each message. -/
def eventReaders (known : List (String × Dict)) : JsonReaders where
  loads text := (known.lookup text).map .dict
  fromStr text := (known.lookup text).map .dict
  floatText _ := []

def phoneReaders : JsonReaders :=
  eventReaders [(syncText, syncMessage 17), (mobileText, mobileMessage)]

/-- A bridge that takes every message. -/
def openBridge : IpcBridge := ⟨none, some fun _ => .ok ()⟩

theorem readsBack_of_text {json : JsonReaders} {stamp : Int} {id name text : String} {data : Dict}
    (written : dumps json (.dict (eventMessage stamp id name data)) = some text)
    (read : json.fromStr text = some (.dict (eventMessage stamp id name data))) :
    ReadsBack json (eventMessage stamp id name data) := by
  intro text' v written' read'
  rw [written, Option.some.injEq] at written'
  rw [← written', read, Option.some.injEq] at read'
  exact ⟨stamp, id, _, _, rfl, read'.symm, rfl⟩

/-- What the readers read back is delivered when it is within the bounds. -/
theorem deliverable_of_text {json : JsonReaders} {payload : Value} {entries : Dict}
    {built : Except Exc Dict} {message : Dict} {stamp : Dict → Except Exc Int} {fresh text : String}
    {n : Int} (shape : payload = .dict entries) (sent : built = .ok message)
    (stamped : stamp entries = .ok n) (clock : 0 ≤ n ∧ n < 2 ^ 128)
    (short : (correlationOf (Dict.get entries "correlation_id") fresh).utf8ByteSize ≤ 128)
    (written : dumps json (.dict message) = some text)
    (fits : text.utf8ByteSize ≤ defaultMaxMessageBytes) (taken : (json.fromStr text).isSome = true) :
    Deliverable json openBridge payload built stamp fresh := by
  intro entries' message' method same built' used
  rw [shape, Value.dict.injEq] at same
  rw [sent, Except.ok.injEq] at built'
  subst same built'
  cases used
  exact ⟨rfl, n, stamped, clock, short, text, written, fits, taken⟩

theorem forwarded_valid_iff_phone :
    ForwardsValid phoneReaders (some "TaskCreated")
        (SyncDaemon.receiveSync Python.asciiRuntime 1700 "u" "gateway" openBridge
          (phonePayload 17)) ∧
      ForwardsValid phoneReaders (some "TaskCreated")
        (MobileConnector.receiveEvent Python.asciiRuntime 1700 "u" "gateway" openBridge
          (phonePayload 17)) := by
  have syncBuilt : SyncDaemon.build Python.asciiRuntime 1700 "u" "gateway" (phonePayload 17) =
      .ok (syncMessage 17) := rfl
  have mobileBuilt : MobileConnector.build Python.asciiRuntime 1700 "u" "gateway"
      (phonePayload 17) = .ok mobileMessage := rfl
  have syncWritten : dumps phoneReaders (.dict (syncMessage 17)) = some syncText := by
    decide +kernel
  have mobileWritten : dumps phoneReaders (.dict mobileMessage) = some mobileText := by
    decide +kernel
  have syncRead : phoneReaders.fromStr syncText = some (.dict (syncMessage 17)) := by
    simp [phoneReaders, eventReaders]
  have differ : (mobileText == syncText) = false := by decide +kernel
  have mobileRead : phoneReaders.fromStr mobileText = some (.dict mobileMessage) := by
    simp [phoneReaders, eventReaders, List.lookup_cons, differ]
  obtain ⟨sync, mobile⟩ := forwarded_valid_iff phoneReaders Python.asciiRuntime 1700 "u" "gateway"
    openBridge (phonePayload 17)
    (fun message built => by
      rw [syncBuilt, Except.ok.injEq] at built
      rw [← built]
      exact readsBack_of_text syncWritten syncRead)
    (fun message built => by
      rw [mobileBuilt, Except.ok.injEq] at built
      rw [← built]
      exact readsBack_of_text mobileWritten mobileRead)
  exact
    ⟨sync.mpr (deliverable_of_text rfl syncBuilt rfl (by decide) (by decide +kernel) syncWritten
      (by decide +kernel) (by rw [syncRead]; rfl)),
      mobile.mpr (deliverable_of_text rfl mobileBuilt rfl (by decide) (by decide +kernel)
        mobileWritten (by decide +kernel) (by rw [mobileRead]; rfl))⟩

def negativeText : String :=
  "\x7b\"message_type\":\"EVENT\",\"timestamp\":-1,\"correlation_id\":\"e1\",\"payload\":" ++
    "\x7b\"event\":\"TaskCreated\",\"data\":\x7b\"source\":\"gateway\",\"sync\":" ++
    "\x7b\"source_id\":\"phone\",\"sync_type\":\"TASK_UPDATE\",\"payload\":\x7b\x7d," ++
    "\"merge_hint\":\x7b\"source_priority\":\"normal\",\"version\":\"v1\"," ++
    "\"external_timestamp\":-1\x7d\x7d\x7d\x7d\x7d"

def negativeReaders : JsonReaders := eventReaders [(negativeText, syncMessage (-1))]

/-- A negative timestamp passes the sync daemon, which hands over a message that the
supervisor refuses to parse. -/
theorem negative_timestamp_forwarded :
    SyncDaemon.receiveSync Python.asciiRuntime 1700 "u" "gateway" openBridge (phonePayload (-1)) =
        (.ok (syncMessage (-1)), [syncMessage (-1)]) ∧
      dumps negativeReaders (.dict (syncMessage (-1))) = some negativeText ∧
      parseEnvelopeLine negativeReaders (asLine negativeText) defaultMaxMessageBytes =
        .error .invalidJson ∧
      ¬ ForwardsValid negativeReaders (some "TaskCreated")
        (SyncDaemon.receiveSync Python.asciiRuntime 1700 "u" "gateway" openBridge
          (phonePayload (-1))) := by
  have sent : SyncDaemon.receiveSync Python.asciiRuntime 1700 "u" "gateway" openBridge
      (phonePayload (-1)) = (.ok (syncMessage (-1)), [syncMessage (-1)]) := rfl
  have written : dumps negativeReaders (.dict (syncMessage (-1))) = some negativeText := by
    decide +kernel
  have read : negativeReaders.fromStr negativeText = some (.dict (syncMessage (-1))) := by
    simp [negativeReaders, eventReaders]
  have framed := framed_dumps written
  have parsed : parseEnvelopeLine negativeReaders (asLine negativeText) defaultMaxMessageBytes =
      .error .invalidJson := by
    have small : ¬ max defaultMaxMessageBytes 1 < negativeText.utf8ByteSize := by decide +kernel
    have refused : decodeEnvelope (.dict (syncMessage (-1))) = none := rfl
    simp only [parseEnvelopeLine, framed.trim_asLine, if_neg framed.ne_empty, if_neg small, read,
      Option.bind_some, refused]
  refine ⟨sent, written, parsed, ?_⟩
  intro valid
  rw [sent] at valid
  obtain ⟨_, name, _, text, e, event, written', parsed', _⟩ := valid.accepted _ rfl
  rw [written, Option.some.injEq] at written'
  rw [← written', parsed] at parsed'
  cases parsed'

end Apcos.Guarantees.ExternalEvents
