import Apcos.Lib.Window
import Apcos.Source.Supervisor.Ipc

/-!
# The supervisor's end of the bridge

os/src/ipc.rs:115-184, 199-210 and 691-703. The streams of the child process are
left to whoever connects the two ends: a send returns the line it writes, a read
is given the line it finds. Which ids were handed to the tracker is logged.
-/
namespace Apcos.Source.Supervisor

open Apcos.Lib (recent offer admissions)
open Apcos.Source.Python (Value)
open Apcos.Source.JsonText (JsonReaders toJsonString)

structure PythonBridgeProcess where
  maxMessageBytes : Nat
  tracker : CorrelationTracker
  /-- Ids handed to `mark_seen`, in order; no step reads this log. -/
  marked : List String

theorem one_lt_clock : 1 < 2 ^ 128 := Nat.one_lt_two_pow (Nat.succ_ne_zero 127)

def PythonBridgeProcess.spawn : PythonBridgeProcess where
  maxMessageBytes := defaultMaxMessageBytes
  tracker := .new defaultMaxTrackedCorrelations
  marked := []

def buildEventEnvelope (now : Fin (2 ^ 128)) (eventName : String) (payload : Value)
    (correlationId : String) : IpcEnvelope :=
  ⟨.event, now, correlationId, .dict [("data", payload), ("event", .str eventName)]⟩

def generateCorrelationId (now : Fin (2 ^ 128)) (idPrefix : String) : String :=
  idPrefix ++ "-" ++ toString now.val

namespace PythonBridgeProcess

/-- The text that is written, with a newline after it; then the id is recorded. -/
def sendEnvelope (json : JsonReaders) (p : PythonBridgeProcess) (envelope : IpcEnvelope) :
    Except IpcError String × PythonBridgeProcess :=
  match serializeEnvelope json envelope with
  | .error e => (.error e, p)
  | .ok encoded =>
    (.ok encoded,
      { p with
        tracker := (p.tracker.markSeen envelope.correlationId).2
        marked := p.marked ++ [envelope.correlationId] })

/-- What one read leads to: its result, the answer and its text, the event handed
to the bus and the process after it. -/
structure Reading where
  result : Except IpcError DispatchResult
  written : Option (IpcEnvelope × String)
  published : Option Event
  process : PythonBridgeProcess

/-- `none` is the end of the child's output. -/
def readAndDispatchOnce (json : JsonReaders) (now : Fin (2 ^ 128)) (p : PythonBridgeProcess) :
    Option String → Reading
  | none => ⟨.ok .ignored, none, none, p⟩
  | some line =>
    match parseEnvelopeLine json line p.maxMessageBytes with
    | .error e => ⟨.error e, none, none, p⟩
    | .ok none => ⟨.ok .ignored, none, none, p⟩
    | .ok (some envelope) =>
      let dispatched := dispatchIncoming now envelope p.tracker
      let p : PythonBridgeProcess :=
        { p with
          tracker := dispatched.tracker
          marked := p.marked ++ [envelope.correlationId] }
      match dispatched.result.response with
      | none => ⟨.ok dispatched.result, none, dispatched.published, p⟩
      | some response =>
        match p.sendEnvelope json response with
        | (.ok text, p) =>
          ⟨.ok dispatched.result, some (response, text), dispatched.published, p⟩
        | (.error e, p) => ⟨.error e, none, dispatched.published, p⟩

end PythonBridgeProcess

/-! ## What the tracker holds -/

/-- The tracker holds the most recent admissions, in its set as in its queue. -/
structure CorrelationTracker.Holds (tracker : CorrelationTracker) (ids : List String) : Prop where
  positive : 0 < tracker.maxEntries
  queue : tracker.queue = recent tracker.maxEntries (admissions tracker.maxEntries ids)
  set : ∀ id, id ∈ tracker.set ↔ id ∈ tracker.queue

theorem CorrelationTracker.holds_new (maxEntries : Nat) : (new maxEntries).Holds [] where
  positive := Nat.lt_of_lt_of_le Nat.zero_lt_one (Nat.le_max_right maxEntries 1)
  queue := by simp [new, recent, admissions]
  set _ := Iff.rfl

/-- A queue within the bound loses nothing. -/
theorem evictOldest_of_le {maxEntries : Nat} {set queue : List String}
    (fits : queue.length ≤ maxEntries) : evictOldest maxEntries set queue = (set, queue) := by
  cases queue with
  | nil => rfl
  | cons oldest queue => rw [evictOldest, if_neg (Nat.not_lt.mpr fits)]

/-- One entry too many costs the oldest one. -/
theorem evictOldest_of_succ {maxEntries : Nat} {set queue : List String} {oldest : String}
    (beyond : queue.length = maxEntries) :
    evictOldest maxEntries set (oldest :: queue) = (set.filter (· != oldest), queue) := by
  have more : maxEntries < (oldest :: queue).length := by
    rw [List.length_cons, beyond]
    exact Nat.lt_succ_self maxEntries
  rw [evictOldest, if_pos more, evictOldest_of_le (Nat.le_of_eq beyond)]

namespace CorrelationTracker

variable {tracker : CorrelationTracker} {ids : List String}

@[simp] theorem markSeen_maxEntries (id : String) :
    (tracker.markSeen id).2.maxEntries = tracker.maxEntries := by
  unfold markSeen
  split <;> rfl

/-- An id is new to the tracker exactly when it is none of the recent admissions. -/
theorem Holds.markSeen_fst (holds : tracker.Holds ids) (id : String) :
    (tracker.markSeen id).1 = true ↔
      id ∉ recent tracker.maxEntries (admissions tracker.maxEntries ids) := by
  rw [← holds.queue, ← holds.set]
  unfold markSeen
  by_cases held : id ∈ tracker.set
  · simp [held]
  · simp [held]

theorem markSeen_of_not_mem {id : String} (fresh : id ∉ tracker.set) :
    (tracker.markSeen id).2 =
      { tracker with
        set := (evictOldest tracker.maxEntries (id :: tracker.set) (tracker.queue ++ [id])).1
        queue := (evictOldest tracker.maxEntries (id :: tracker.set) (tracker.queue ++ [id])).2 } := by
  simp [CorrelationTracker.markSeen, fresh]

theorem Holds.nodup (holds : tracker.Holds ids) : tracker.queue.Nodup := by
  rw [holds.queue]
  exact Lib.nodup_recent_admissions holds.positive ids

theorem Holds.length_queue (holds : tracker.Holds ids) :
    tracker.queue.length = min tracker.maxEntries (admissions tracker.maxEntries ids).length := by
  rw [holds.queue, Lib.length_recent]

/-- Below the bound an admitted id joins queue and set. -/
theorem Holds.joined (holds : tracker.Holds ids) {id : String} (fresh : id ∉ tracker.set)
    (room : tracker.queue.length < tracker.maxEntries) :
    (tracker.markSeen id).2.queue = tracker.queue ++ [id] ∧
      ∀ x, x ∈ (tracker.markSeen id).2.set ↔ x ∈ (tracker.markSeen id).2.queue := by
  have fits : (tracker.queue ++ [id]).length ≤ tracker.maxEntries := by
    rw [List.length_append, List.length_singleton]
    exact room
  rw [markSeen_of_not_mem fresh, evictOldest_of_le fits]
  refine ⟨rfl, fun x => ?_⟩
  simp [holds.set, or_comm]

/-- At the bound the oldest id leaves both. -/
theorem Holds.replaced (holds : tracker.Holds ids) {id : String} (fresh : id ∉ tracker.set)
    (full : tracker.queue.length = tracker.maxEntries) :
    (tracker.markSeen id).2.queue = tracker.queue.tail ++ [id] ∧
      ∀ x, x ∈ (tracker.markSeen id).2.set ↔ x ∈ (tracker.markSeen id).2.queue := by
  have distinct := holds.nodup
  have same := holds.set
  rw [markSeen_of_not_mem fresh]
  cases shape : tracker.queue with
  | nil =>
    rw [shape] at full
    exact absurd full (Nat.ne_of_lt holds.positive)
  | cons oldest queue =>
    rw [shape] at full distinct same
    have beyond : (queue ++ [id]).length = tracker.maxEntries := by
      rw [List.length_append, List.length_singleton]
      exact full
    have alone := (List.nodup_cons.mp distinct).1
    have other : id ≠ oldest := by
      rintro rfl
      exact fresh ((same id).mpr List.mem_cons_self)
    rw [List.cons_append, evictOldest_of_succ beyond]
    refine ⟨rfl, fun x => ?_⟩
    simp only [List.mem_filter, List.mem_cons, bne_iff_ne, same, List.mem_append,
      List.not_mem_nil, or_false]
    constructor
    · rintro ⟨rfl | rfl | later, left⟩
      · exact Or.inr rfl
      · exact absurd rfl left
      · exact Or.inl later
    · rintro (later | rfl)
      · refine ⟨Or.inr (Or.inr later), ?_⟩
        rintro rfl
        exact alone later
      · exact ⟨Or.inl rfl, other⟩

/-- What is held after an admission are again the most recent ones. -/
theorem Holds.admitted (holds : tracker.Holds ids) {id : String} (fresh : id ∉ tracker.set) :
    (tracker.markSeen id).2.queue =
        recent tracker.maxEntries (admissions tracker.maxEntries ids ++ [id]) ∧
      ∀ x, x ∈ (tracker.markSeen id).2.set ↔ x ∈ (tracker.markSeen id).2.queue := by
  have length := holds.length_queue
  rcases Nat.lt_or_ge (admissions tracker.maxEntries ids).length tracker.maxEntries with room | full
  · rw [Lib.recent_append_of_lt room, ← holds.queue]
    exact holds.joined fresh (by omega)
  · rw [Lib.recent_append_of_le holds.positive full, ← holds.queue]
    exact holds.replaced fresh (by omega)

/-- Marking an id keeps the tracker in step with the history of ids. -/
theorem Holds.markSeen (holds : tracker.Holds ids) (id : String) :
    (tracker.markSeen id).2.Holds (ids ++ [id]) := by
  by_cases held : id ∈ tracker.set
  · have repeated : admissions tracker.maxEntries (ids ++ [id]) =
        admissions tracker.maxEntries ids := by
      rw [Lib.admissions_append, offer, if_pos]
      rw [← holds.queue, ← holds.set]
      exact held
    rw [markSeen_of_mem held]
    exact ⟨holds.positive, by rw [repeated]; exact holds.queue, holds.set⟩
  · have added : admissions tracker.maxEntries (ids ++ [id]) =
        admissions tracker.maxEntries ids ++ [id] := by
      rw [Lib.admissions_append, offer, if_neg]
      rw [← holds.queue, ← holds.set]
      exact held
    obtain ⟨queue, set⟩ := holds.admitted held
    refine ⟨?_, ?_, set⟩
    · rw [markSeen_maxEntries]
      exact holds.positive
    · rw [markSeen_maxEntries, added]
      exact queue

end CorrelationTracker

/-! ## What a dispatch answers -/

@[simp] theorem dispatchIncoming_tracker (now : Fin (2 ^ 128)) (e : IpcEnvelope)
    (tracker : CorrelationTracker) :
    (dispatchIncoming now e tracker).tracker = (tracker.markSeen e.correlationId).2 := by
  unfold dispatchIncoming
  rcases tracker.markSeen e.correlationId with ⟨fresh, after⟩
  cases fresh with
  | false => rfl
  | true =>
    cases e.messageType with
    | event => cases extractEvent e.payload <;> rfl
    | _ => rfl

def MessageType.isResult : MessageType → Bool
  | .authResult | .transitionResult | .energyResult | .storageResult | .memoryResult => true
  | _ => false

/-- An answer is one of the five results and has an object as its payload. -/
theorem response_result {now : Fin (2 ^ 128)} {e response : IpcEnvelope}
    {tracker : CorrelationTracker}
    (answered : (dispatchIncoming now e tracker).result.response = some response) :
    response.messageType.isResult = true ∧ ∃ payload, response.payload = .dict payload := by
  unfold dispatchIncoming at answered
  rcases seen : tracker.markSeen e.correlationId with ⟨fresh, after⟩
  rw [seen] at answered
  cases fresh with
  | false => cases answered
  | true =>
    cases type : e.messageType with
    | event =>
      simp only [type] at answered
      cases named : extractEvent e.payload with
      | none =>
        rw [named] at answered
        cases answered
      | some event =>
        rw [named] at answered
        cases answered
    | authRequest | transitionValidate | energyValidate | storageValidate | memoryValidate =>
      simp only [type] at answered
      cases answered
      exact ⟨rfl, _, rfl⟩
    | stateUpdate | authResult | transitionResult | energyResult | storageResult | memoryResult =>
      simp only [type] at answered
      cases answered

/-- A `STATE_UPDATE` is accepted or dropped, and never answered. -/
theorem dispatchIncoming_stateUpdate (now : Fin (2 ^ 128)) {e : IpcEnvelope}
    (type : e.messageType = .stateUpdate) (tracker : CorrelationTracker) :
    (dispatchIncoming now e tracker).result =
        (if (tracker.markSeen e.correlationId).1 then .stateUpdateAccepted else .duplicateIgnored) ∧
      (dispatchIncoming now e tracker).published = none := by
  unfold dispatchIncoming
  rcases tracker.markSeen e.correlationId with ⟨fresh, after⟩
  cases fresh with
  | false => exact ⟨rfl, rfl⟩
  | true =>
    rw [type]
    exact ⟨rfl, rfl⟩

namespace PythonBridgeProcess

variable {json : JsonReaders} {now : Fin (2 ^ 128)} {p : PythonBridgeProcess} {line : String}

theorem sendEnvelope_ok {envelope : IpcEnvelope} {text : String} {after : PythonBridgeProcess}
    (sent : p.sendEnvelope json envelope = (.ok text, after)) :
    toJsonString json envelope.toValue = some text := by
  unfold sendEnvelope serializeEnvelope at sent
  cases written : toJsonString json envelope.toValue with
  | none =>
    rw [written] at sent
    cases sent
  | some encoded =>
    rw [written] at sent
    cases sent
    rfl

/-- What a read writes is the text of a result. -/
theorem readAndDispatchOnce_written {response : IpcEnvelope} {text : String}
    (wrote : (p.readAndDispatchOnce json now (some line)).written = some (response, text)) :
    response.messageType.isResult = true ∧ (∃ payload, response.payload = .dict payload) ∧
      toJsonString json response.toValue = some text := by
  simp only [readAndDispatchOnce] at wrote
  split at wrote
  · cases wrote
  · cases wrote
  · rename_i envelope parsed
    split at wrote
    · cases wrote
    · rename_i answer answered
      split at wrote
      · rename_i encoded after sent
        cases wrote
        obtain ⟨kind, isDict⟩ := response_result answered
        exact ⟨kind, isDict, sendEnvelope_ok sent⟩
      · cases wrote

/-- A line that is a `STATE_UPDATE` is accepted or dropped in silence. -/
theorem readAndDispatchOnce_stateUpdate {e : IpcEnvelope} (type : e.messageType = .stateUpdate)
    (parsed : parseEnvelopeLine json line p.maxMessageBytes = .ok (some e)) :
    p.readAndDispatchOnce json now (some line) =
      { result := .ok (if (p.tracker.markSeen e.correlationId).1 then .stateUpdateAccepted
          else .duplicateIgnored)
        written := none
        published := none
        process :=
          { p with
            tracker := (p.tracker.markSeen e.correlationId).2
            marked := p.marked ++ [e.correlationId] } } := by
  obtain ⟨result, published⟩ := dispatchIncoming_stateUpdate now type p.tracker
  have silent : (dispatchIncoming now e p.tracker).result.response = none := by
    rw [result]
    split <;> rfl
  simp only [readAndDispatchOnce, parsed, silent, published, dispatchIncoming_tracker]
  rw [result]

end PythonBridgeProcess

end Apcos.Source.Supervisor
