import Apcos.Lib.Runs
import Apcos.Source.Bridge.ProcessLine
import Apcos.Source.Supervisor.BridgeProcess

/-!
# Acknowledgements of supervisor events

os/src/ipc.rs:151-184 and 324-349 against services/ipc/rust_bridge.py:428-482.
`send_envelope` records the id of the event it sends, and Python acknowledges
the event under the same id. The acknowledgement is accepted only once the
tracker has forgotten the id again, that is when 2048 other ids were admitted
in between; in every other run it is dropped as a duplicate.
-/
namespace Apcos.Guarantees.Acknowledgements

open Apcos.Lib
open Apcos.Source
open Apcos.Source.Python (Value Dict Exc)
open Apcos.Source.JsonText
open Apcos.Source.Supervisor
open Apcos.Source.Bridge

/-- The two ends with an in-order stream in each direction. -/
structure Link where
  process : PythonBridgeProcess
  bridge : EventBridge
  /-- Python's loop has not been left. -/
  running : Bool
  toPython : List String
  toRust : List (Dict × String)
  /-- All that Python wrote, and the results of the supervisor's reads. -/
  acknowledged : List (Dict × String)
  reads : List (Except IpcError DispatchResult)

def Link.start (eventHandler : Option (Dict → Except Exc Unit)) : Link :=
  ⟨.spawn, .new eventHandler, true, [], [], [], []⟩

/-- The supervisor sends an envelope or reads a line; Python takes its next line. -/
inductive Label where
  | send (envelope : IpcEnvelope)
  | serve (now : Int)
  | read (now : Fin (2 ^ 128))

def step (json : JsonReaders) (repr : Value → String) (s : Link) : Label → Link
  | .send envelope =>
    match s.process.sendEnvelope json envelope with
    | (.ok text, process) => { s with process, toPython := s.toPython ++ [asLine text] }
    | (.error _, process) => { s with process }
  | .serve now =>
    match s.running, s.toPython with
    | true, line :: rest =>
      let turn := s.bridge.turn json repr now line
      { s with
        bridge := turn.bridge
        running := turn.running
        toPython := rest
        toRust := s.toRust ++ turn.written.toList
        acknowledged := s.acknowledged ++ turn.written.toList }
    | _, _ => s
  | .read now =>
    match s.toRust with
    | [] => s
    | sent :: rest =>
      let reading := s.process.readAndDispatchOnce json now (some (asLine sent.2))
      { s with
        process := reading.process
        toRust := rest
        toPython := s.toPython ++ reading.written.toList.map fun answer => asLine answer.2
        reads := s.reads ++ [reading.result] }

/-- Every read of the supervisor accepted what it read. -/
def AllAccepted (s : Link) : Prop := ∀ result ∈ s.reads, result = .ok .stateUpdateAccepted

/-- The supervisor can read the acknowledgement, and its id is none of the last 2048 admitted. -/
def Timely (s : Link) (sent : Dict × String) : Prop :=
  sent.2.utf8ByteSize ≤ defaultMaxMessageBytes ∧
    (decodeU128 (Dict.get sent.1 "timestamp")).isSome ∧
    ∃ id, Dict.get sent.1 "correlation_id" = .str id ∧ id.utf8ByteSize ≤ 128 ∧
      id ∉ recent defaultMaxTrackedCorrelations
        (admissions defaultMaxTrackedCorrelations s.process.marked)

/-- A read finds an acknowledgement that is timely. -/
def ReadsTimely (s : Link) (label : Label) : Prop :=
  ∀ now sent rest, label = .read now → s.toRust = sent :: rest → Timely s sent

/-- serde_json reads back what `json.dumps` wrote of the acknowledgements. -/
def ReadBack (json : JsonReaders) (s : Link) : Prop :=
  ∀ sent ∈ s.acknowledged, json.fromStr sent.2 = some (.dict sent.1)

/-! ## What a link keeps -/

/-- An acknowledgement on its way. -/
def IsAcknowledgement (json : JsonReaders) (sent : Dict × String) : Prop :=
  dumps json (.dict sent.1) = some sent.2 ∧
    ∃ now id payload, Python.blank id = false ∧ sent.1 = envelope .stateUpdate now id payload

structure Linked (json : JsonReaders) (s : Link) : Prop where
  maxMessageBytes : s.process.maxMessageBytes = defaultMaxMessageBytes
  maxEntries : s.process.tracker.maxEntries = defaultMaxTrackedCorrelations
  holds : s.process.tracker.Holds s.process.marked
  underway : ∀ sent ∈ s.toRust, sent ∈ s.acknowledged ∧ IsAcknowledgement json sent

theorem linked_start (json : JsonReaders) (eventHandler : Option (Dict → Except Exc Unit)) :
    Linked json (.start eventHandler) where
  maxMessageBytes := rfl
  maxEntries := rfl
  holds := CorrelationTracker.holds_new defaultMaxTrackedCorrelations
  underway := nofun

theorem isAcknowledgement_of_turn {json : JsonReaders} {repr : Value → String} {now : Int}
    {bridge : EventBridge} {line : String} {sent : Dict × String}
    (wrote : (bridge.turn json repr now line).written = some sent) : IsAcknowledgement json sent := by
  obtain ⟨written, stamp, id, payload, -, parsed, shape, -⟩ := EventBridge.turn_written wrote
  exact ⟨written, now, id, _, visible_of_parseEnvelope parsed, shape⟩

theorem sendEnvelope_linked {json : JsonReaders} {process : PythonBridgeProcess}
    {envelope : IpcEnvelope} {sent : Except IpcError String} {after : PythonBridgeProcess}
    (shape : process.sendEnvelope json envelope = (sent, after))
    (holds : process.tracker.Holds process.marked) :
    after.maxMessageBytes = process.maxMessageBytes ∧
      after.tracker.maxEntries = process.tracker.maxEntries ∧ after.tracker.Holds after.marked := by
  unfold PythonBridgeProcess.sendEnvelope at shape
  split at shape
  · cases shape
    exact ⟨rfl, rfl, holds⟩
  · cases shape
    exact ⟨rfl, process.tracker.markSeen_maxEntries _, holds.markSeen _⟩

/-- Reading an acknowledgement: accepted when timely, and in no case answered. -/
structure ReadsAcknowledgement (s : Link) (sent : Dict × String)
    (reading : PythonBridgeProcess.Reading) : Prop where
  accepted : reading.result = .ok .stateUpdateAccepted ↔ Timely s sent
  silent : reading.written = none
  maxMessageBytes : reading.process.maxMessageBytes = s.process.maxMessageBytes
  maxEntries : reading.process.tracker.maxEntries = s.process.tracker.maxEntries
  holds : reading.process.tracker.Holds reading.process.marked

theorem unread_acknowledgement {s : Link} {sent : Dict × String}
    {reading : PythonBridgeProcess.Reading} (holds : s.process.tracker.Holds s.process.marked)
    (untimely : ¬Timely s sent) (rejected : reading.result ≠ .ok .stateUpdateAccepted)
    (silent : reading.written = none) (unchanged : reading.process = s.process) :
    ReadsAcknowledgement s sent reading where
  accepted := iff_of_false rejected untimely
  silent := silent
  maxMessageBytes := by rw [unchanged]
  maxEntries := by rw [unchanged]
  holds := by rw [unchanged]; exact holds

/-- How the supervisor reads an acknowledgement depends on its tracker and on the size of the line
alone. -/
theorem reads_acknowledgement {json : JsonReaders} {s : Link} (linked : Linked json s)
    {sent : Dict × String} (acknowledges : IsAcknowledgement json sent)
    (read : json.fromStr sent.2 = some (.dict sent.1)) (now : Fin (2 ^ 128)) :
    ReadsAcknowledgement s sent (s.process.readAndDispatchOnce json now (some (asLine sent.2))) := by
  obtain ⟨written, sentAt, id, payload, visible, shape⟩ := acknowledges
  rw [shape] at written read
  have taken := parseEnvelopeLine_asLine (framed_dumps written) read visible
    s.process.maxMessageBytes
  rw [linked.maxMessageBytes, Nat.max_eq_left (by decide)] at taken
  have time : Dict.get sent.1 "timestamp" = .int sentAt := by
    rw [shape]
    rfl
  have name : Dict.get sent.1 "correlation_id" = .str id := by
    rw [shape]
    rfl
  have readable : Timely s sent → ∃ e, parseEnvelopeLine json (asLine sent.2)
      s.process.maxMessageBytes = .ok (some e) := by
    rintro ⟨small, clock, id', sameId, short, -⟩
    rw [name] at sameId
    cases sameId
    rw [time] at clock
    obtain ⟨stamp, clock⟩ := Option.isSome_iff_exists.mp clock
    rw [linked.maxMessageBytes]
    exact ⟨_, (taken _).mpr ⟨small, short, stamp, clock, rfl⟩⟩
  cases parsed : parseEnvelopeLine json (asLine sent.2) s.process.maxMessageBytes with
  | error e =>
    rw [parsed] at readable
    apply unread_acknowledgement linked.holds
    · intro timely
      obtain ⟨e', impossible⟩ := readable timely
      cases impossible
    all_goals simp [PythonBridgeProcess.readAndDispatchOnce, parsed]
  | ok found =>
    cases found with
    | none =>
      rw [parsed] at readable
      apply unread_acknowledgement linked.holds
      · intro timely
        obtain ⟨e', impossible⟩ := readable timely
        cases impossible
      all_goals simp [PythonBridgeProcess.readAndDispatchOnce, parsed]
    | some e =>
      have parsed' := parsed
      rw [linked.maxMessageBytes, taken] at parsed'
      obtain ⟨small, short, stamp, clock, rfl⟩ := parsed'
      have fresh := linked.holds.markSeen_fst id
      rw [linked.maxEntries] at fresh
      rw [PythonBridgeProcess.readAndDispatchOnce_stateUpdate rfl parsed]
      refine ⟨?_, rfl, rfl, s.process.tracker.markSeen_maxEntries id, linked.holds.markSeen id⟩
      have marked : (Except.ok (if (s.process.tracker.markSeen id).1 then .stateUpdateAccepted
          else .duplicateIgnored) : Except IpcError DispatchResult) = .ok .stateUpdateAccepted ↔
            (s.process.tracker.markSeen id).1 = true := by
        cases (s.process.tracker.markSeen id).1 <;> simp
      rw [marked, fresh, Timely, time, clock, name]
      constructor
      · intro forgotten
        exact ⟨small, rfl, id, rfl, short, forgotten⟩
      · rintro ⟨-, -, id', same, -, forgotten⟩
        cases same
        exact forgotten

/-! ## Runs -/

theorem step_read {json : JsonReaders} {repr : Value → String} {s : Link} {now : Fin (2 ^ 128)}
    {sent : Dict × String} {rest : List (Dict × String)} {reading : PythonBridgeProcess.Reading}
    (queued : s.toRust = sent :: rest)
    (found : s.process.readAndDispatchOnce json now (some (asLine sent.2)) = reading) :
    step json repr s (.read now) =
      { s with
        process := reading.process
        toRust := rest
        toPython := s.toPython ++ reading.written.toList.map fun answer => asLine answer.2
        reads := s.reads ++ [reading.result] } := by
  simp only [step, queued, found]

theorem step_read_acknowledged (json : JsonReaders) (repr : Value → String) (s : Link)
    (now : Fin (2 ^ 128)) : (step json repr s (.read now)).acknowledged = s.acknowledged := by
  simp only [step]
  split <;> rfl

theorem step_earlier {json : JsonReaders} {repr : Value → String} (s : Link) (label : Label)
    (readBack : ReadBack json (step json repr s label)) : ReadBack json s := by
  cases label with
  | send envelope =>
    simp only [step] at readBack
    split at readBack <;> exact readBack
  | serve now =>
    simp only [step] at readBack
    split at readBack
    · intro sent member
      exact readBack sent (List.mem_append_left _ member)
    · exact readBack
  | read now =>
    intro sent member
    rw [← step_read_acknowledged json repr s now] at member
    exact readBack sent member

/-- A step of either end keeps the two linked. -/
theorem step_linked {json : JsonReaders} {repr : Value → String} (s : Link) (label : Label)
    (readBack : ReadBack json (step json repr s label)) (linked : Linked json s) :
    Linked json (step json repr s label) := by
  cases label with
  | send envelope =>
    simp only [step] at readBack ⊢
    split
    · rename_i text process shape
      obtain ⟨size, entries, holds⟩ := sendEnvelope_linked shape linked.holds
      exact ⟨size.trans linked.maxMessageBytes, entries.trans linked.maxEntries, holds,
        linked.underway⟩
    · rename_i e process shape
      obtain ⟨size, entries, holds⟩ := sendEnvelope_linked shape linked.holds
      exact ⟨size.trans linked.maxMessageBytes, entries.trans linked.maxEntries, holds,
        linked.underway⟩
  | serve now =>
    simp only [step]
    split
    · refine ⟨linked.maxMessageBytes, linked.maxEntries, linked.holds, ?_⟩
      intro sent member
      rcases List.mem_append.mp member with earlier | new
      · obtain ⟨known, acknowledges⟩ := linked.underway sent earlier
        exact ⟨List.mem_append_left _ known, acknowledges⟩
      · exact ⟨List.mem_append_right _ new, isAcknowledgement_of_turn (Option.mem_toList.mp new)⟩
    · exact linked
  | read now =>
    have kept := step_earlier s (.read now) readBack
    cases queued : s.toRust with
    | nil =>
      simp only [step, queued]
      exact linked
    | cons sent rest =>
      obtain ⟨known, acknowledges⟩ := linked.underway sent (by rw [queued]; exact List.mem_cons_self)
      have outcome := reads_acknowledgement linked acknowledges (kept sent known) now
      generalize found : s.process.readAndDispatchOnce json now (some (asLine sent.2)) = reading
        at outcome
      rw [step_read queued found]
      refine ⟨outcome.maxMessageBytes.trans linked.maxMessageBytes,
        outcome.maxEntries.trans linked.maxEntries, outcome.holds, ?_⟩
      intro other member
      apply linked.underway other
      rw [queued]
      exact List.mem_cons_of_mem sent member

/-- A step keeps all acknowledgements accepted exactly when the one it reads, if it reads one, is
read in time. -/
theorem step_allAccepted {json : JsonReaders} {repr : Value → String} (s : Link) (label : Label)
    (readBack : ReadBack json (step json repr s label)) (linked : Linked json s) :
    AllAccepted (step json repr s label) ↔ AllAccepted s ∧ ReadsTimely s label := by
  have other (notRead : ∀ now, label ≠ .read now) : ReadsTimely s label :=
    fun now _ _ isRead => absurd isRead (notRead now)
  cases label with
  | send envelope =>
    have same : AllAccepted (step json repr s (.send envelope)) ↔ AllAccepted s := by
      simp only [step]
      split <;> exact Iff.rfl
    rw [same]
    exact (and_iff_left (other nofun)).symm
  | serve now =>
    have same : AllAccepted (step json repr s (.serve now)) ↔ AllAccepted s := by
      simp only [step, AllAccepted]
      split <;> exact Iff.rfl
    rw [same]
    exact (and_iff_left (other nofun)).symm
  | read now =>
    have kept := step_earlier s (.read now) readBack
    cases queued : s.toRust with
    | nil =>
      have unread : step json repr s (.read now) = s := by simp only [step, queued]
      have idle : ReadsTimely s (.read now) := by
        intro _ sent rest _ full
        rw [queued] at full
        cases full
      rw [unread]
      exact (and_iff_left idle).symm
    | cons sent rest =>
      obtain ⟨known, acknowledges⟩ := linked.underway sent (by rw [queued]; exact List.mem_cons_self)
      have outcome := reads_acknowledgement linked acknowledges (kept sent known) now
      have timely : ReadsTimely s (.read now) ↔ Timely s sent := by
        constructor
        · intro reads
          exact reads now sent rest rfl queued
        · rintro here now' sent' rest' - queued'
          rw [queued] at queued'
          cases queued'
          exact here
      rw [timely, ← outcome.accepted, step_read queued rfl]
      simp only [AllAccepted, List.forall_mem_append, List.forall_mem_singleton]

/-- In every run, all acknowledgements are accepted exactly when each of them, at the time it is
read, is readable and has an id the tracker has forgotten. -/
theorem acknowledgements_accepted_iff (json : JsonReaders) (repr : Value → String)
    (eventHandler : Option (Dict → Except Exc Unit)) (labels : List Label)
    (readBack : ReadBack json (run (step json repr) (.start eventHandler) labels)) :
    AllAccepted (run (step json repr) (.start eventHandler) labels) ↔
      Along (step json repr) ReadsTimely (.start eventHandler) labels := by
  have followed := run_iff_along_of (ReadBack json) step_earlier step_linked step_allAccepted
    (.start eventHandler) (linked_start json eventHandler) labels readBack
  have none_read : AllAccepted (.start eventHandler) := nofun
  rw [followed]
  exact and_iff_right none_read

/-! ## One event and its acknowledgement -/

def tick : Fin (2 ^ 128) := ⟨1, one_lt_clock⟩

def batteryEvent : IpcEnvelope := buildEventEnvelope tick "BatteryLow" .null "supervisor-1"

def batteryPayload : Dict := [("data", .null), ("event", .str "BatteryLow")]

def batteryUpdate : Dict :=
  EventBridge.acknowledgement (fun _ => "") 2 "supervisor-1" batteryPayload

/-- The writers alone. -/
def writers : JsonReaders := ⟨fun _ => none, fun _ => none, fun _ => []⟩

/-- Readers of the event and of its acknowledgement. -/
def batteryReaders : JsonReaders where
  loads text :=
    if toJsonString writers batteryEvent.toValue = some text then some batteryEvent.toValue else none
  fromStr text :=
    if dumps writers (.dict batteryUpdate) = some text then some (.dict batteryUpdate) else none
  floatText := writers.floatText

def firstEvent : List Label := [.send batteryEvent, .serve 2, .read tick]

theorem batteryEvent_toValue : batteryEvent.toValue =
    .dict (envelope .event tick.val "supervisor-1" batteryPayload) := by
  have sent : batteryEvent.payload = .dict batteryPayload := rfl
  have shape := batteryEvent.toValue_eq sent
  simp only [batteryEvent, buildEventEnvelope] at shape
  exact shape

theorem batteryEvent_sent {text : String}
    (written : toJsonString batteryReaders batteryEvent.toValue = some text) :
    PythonBridgeProcess.spawn.sendEnvelope batteryReaders batteryEvent =
      (.ok text,
        { PythonBridgeProcess.spawn with
          tracker := (PythonBridgeProcess.spawn.tracker.markSeen "supervisor-1").2
          marked := ["supervisor-1"] }) := by
  simp only [PythonBridgeProcess.sendEnvelope, serializeEnvelope, written]
  rfl

theorem batteryEvent_read {text : String}
    (written : toJsonString batteryReaders batteryEvent.toValue = some text) :
    batteryReaders.loads text =
      some (.dict (envelope .event tick.val "supervisor-1" batteryPayload)) := by
  have same : toJsonString writers batteryEvent.toValue = some text := written
  rw [← batteryEvent_toValue]
  simp only [batteryReaders, same, if_true]

theorem batteryUpdate_read {text : String}
    (written : dumps batteryReaders (.dict batteryUpdate) = some text) :
    batteryReaders.fromStr text = some (.dict batteryUpdate) := by
  have same : dumps writers (.dict batteryUpdate) = some text := written
  simp only [batteryReaders, same, if_true]

theorem supervisorId_visible : Python.blank "supervisor-1" = false := by decide

theorem batteryEvent_small {text : String}
    (written : toJsonString batteryReaders batteryEvent.toValue = some text) :
    text.utf8ByteSize ≤ Bridge.maxMessageBytes := by
  have bound := toJsonString_bound written
  have size : textBound batteryReaders.floatText batteryEvent.toValue ≤ Bridge.maxMessageBytes := by
    decide +kernel
  exact Nat.le_trans bound size

theorem batteryEvent_answered {text update : String}
    (written : toJsonString batteryReaders batteryEvent.toValue = some text)
    (updated : dumps batteryReaders (.dict batteryUpdate) = some update) :
    (EventBridge.new none).turn batteryReaders (fun _ => "") 2 (asLine text) =
      ⟨some (batteryUpdate, update), true, (EventBridge.new none).remember "supervisor-1"⟩ := by
  have parsed := parseEnvelope_asLine
    (framed_toJsonString (batteryEvent_toValue ▸ written)) (batteryEvent_read written)
    Bridge.maxMessageBytes
  rw [if_pos ⟨batteryEvent_small written, supervisorId_visible⟩] at parsed
  exact EventBridge.turn_event parsed List.not_mem_nil rfl updated

/-- An event is sent and Python takes its line. -/
theorem run_once {json : JsonReaders} {repr : Value → String}
    {eventHandler : Option (Dict → Except Exc Unit)} {envelope : IpcEnvelope} {text : String}
    {process : PythonBridgeProcess} {now : Int} {turn : EventBridge.Turn}
    (sent : PythonBridgeProcess.spawn.sendEnvelope json envelope = (.ok text, process))
    (answered : (EventBridge.new eventHandler).turn json repr now (asLine text) = turn) :
    run (step json repr) (.start eventHandler) [.send envelope, .serve now] =
      { process := process
        bridge := turn.bridge
        running := turn.running
        toPython := []
        toRust := turn.written.toList
        acknowledged := turn.written.toList
        reads := [] } := by
  simp only [run, List.foldl, step, Link.start, sent, List.nil_append, answered]

/-- The link when the acknowledgement of the first event is on its way. -/
def answeredOnce (update : String) : Link where
  process :=
    { PythonBridgeProcess.spawn with
      tracker := (PythonBridgeProcess.spawn.tracker.markSeen "supervisor-1").2
      marked := ["supervisor-1"] }
  bridge := (EventBridge.new none).remember "supervisor-1"
  running := true
  toPython := []
  toRust := [(batteryUpdate, update)]
  acknowledged := [(batteryUpdate, update)]
  reads := []

theorem two_printable : (2 : Int).natAbs < 10 ^ Python.maxStrDigits := by
  have longer {m n : Nat} (more : m ≤ n) : 10 ^ m ≤ 10 ^ n := Nat.pow_le_pow_right (by decide) more
  have digits : 1 ≤ Python.maxStrDigits := by decide
  exact Nat.lt_of_lt_of_le (by decide) (longer digits)

theorem run_firstEvent : ∃ update, dumps batteryReaders (.dict batteryUpdate) = some update ∧
    run (step batteryReaders fun _ => "") (.start none) firstEvent =
      step batteryReaders (fun _ => "") (answeredOnce update) (.read tick) := by
  obtain ⟨text, written⟩ := toJsonString_written batteryReaders
    (IpcEnvelope.isData_toValue (show isData batteryEvent.payload = true from rfl))
  obtain ⟨update, updated⟩ := EventBridge.acknowledgement_written batteryReaders (fun _ => "")
    two_printable "supervisor-1" batteryPayload
  refine ⟨update, updated, ?_⟩
  have first := run_once (batteryEvent_sent written) (batteryEvent_answered written updated)
  have split : firstEvent = [.send batteryEvent, .serve 2] ++ [.read tick] := rfl
  rw [split, run_append, first]
  rfl

section Answered

variable {update : String} (updated : dumps batteryReaders (.dict batteryUpdate) = some update)

include updated

theorem answeredOnce_readBack : ReadBack batteryReaders (answeredOnce update) := by
  intro sent member
  have only : sent = (batteryUpdate, update) := List.mem_singleton.mp member
  rw [only]
  exact batteryUpdate_read updated

theorem answeredOnce_linked : Linked batteryReaders (answeredOnce update) where
  maxMessageBytes := rfl
  maxEntries := CorrelationTracker.markSeen_maxEntries "supervisor-1"
  holds := (CorrelationTracker.holds_new defaultMaxTrackedCorrelations).markSeen "supervisor-1"
  underway := by
    intro sent member
    have only : sent = (batteryUpdate, update) := List.mem_singleton.mp member
    subst only
    exact ⟨List.mem_cons_self, updated, 2, "supervisor-1", _, supervisorId_visible, rfl⟩

end Answered

theorem firstEvent_readBack : ReadBack batteryReaders
    (run (step batteryReaders fun _ => "") (.start none) firstEvent) := by
  obtain ⟨update, updated, reached⟩ := run_firstEvent
  intro sent member
  rw [reached, step_read_acknowledged] at member
  exact answeredOnce_readBack updated sent member

/-- The characterisation at this run. -/
theorem acknowledgements_accepted_first :
    AllAccepted (run (step batteryReaders fun _ => "") (.start none) firstEvent) ↔
      Along (step batteryReaders fun _ => "") ReadsTimely (.start none) firstEvent :=
  acknowledgements_accepted_iff batteryReaders (fun _ => "") none firstEvent firstEvent_readBack

/-- The acknowledgement of the first event is dropped: sending the event recorded its id. -/
theorem first_acknowledgement_dropped :
    ReadBack batteryReaders (run (step batteryReaders fun _ => "") (.start none) firstEvent) ∧
      ¬AllAccepted (run (step batteryReaders fun _ => "") (.start none) firstEvent) := by
  refine ⟨firstEvent_readBack, ?_⟩
  intro accepted
  have readBack := firstEvent_readBack
  obtain ⟨update, updated, reached⟩ := run_firstEvent
  have linked := answeredOnce_linked updated
  rw [reached] at accepted readBack
  have reads := (step_allAccepted (answeredOnce update) (.read tick) readBack linked).mp accepted
  obtain ⟨-, -, id, named, -, forgotten⟩ := reads.2 tick _ _ rfl rfl
  have name : Dict.get batteryUpdate "correlation_id" = .str "supervisor-1" := rfl
  rw [name] at named
  cases named
  -- the id is still in the tracker, so it is no new one
  have admitted : "supervisor-1" ∈ (answeredOnce update).process.tracker.set := List.mem_cons_self
  have fresh := linked.holds.markSeen_fst "supervisor-1"
  rw [linked.maxEntries, CorrelationTracker.markSeen_of_mem admitted] at fresh
  exact Bool.false_ne_true (fresh.mpr forgotten)

end Apcos.Guarantees.Acknowledgements
