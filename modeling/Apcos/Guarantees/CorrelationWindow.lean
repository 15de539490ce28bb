import Apcos.Lib.Runs
import Apcos.Source.Bridge.ProcessLine
import Apcos.Source.Supervisor.BridgeProcess
import Mathlib.Data.List.Dedup

/-!
# The window of the correlation tracker

os/src/ipc.rs:81-112 and services/ipc/rust_bridge.py:425-437. The tracker holds its last
admissions, each once. As long as no id leaves it, it answers like the set of the bridge, which
forgets nothing.
-/
namespace Apcos.Guarantees.CorrelationWindow

open Apcos.Lib
open Apcos.Source
open Apcos.Source.Python (Value Dict)
open Apcos.Source.Bridge
open Apcos.Source.JsonText (JsonReaders)
open Apcos.Source.Supervisor

def trackerStep (tracker : CorrelationTracker) (id : String) : CorrelationTracker :=
  (tracker.markSeen id).2

def trackerAnswer (tracker : CorrelationTracker) (id : String) : Bool := (tracker.markSeen id).1

/-- The ids that are answered with `true`, oldest first. -/
def admitted : CorrelationTracker → List String → List String
  | _, [] => []
  | tracker, id :: rest =>
    if trackerAnswer tracker id then id :: admitted (trackerStep tracker id) rest
    else admitted (trackerStep tracker id) rest

/-- What `process_line` does to the ids it has seen, once a line has one. -/
def seenStep (seen : List String) (id : String) : List String :=
  if id ∈ seen then seen else id :: seen

def seenAnswer (seen : List String) (id : String) : Bool := decide (id ∉ seen)

/-! ## Set and queue -/

theorem holds_run {tracker : CorrelationTracker} {ids : List String} (holds : tracker.Holds ids)
    (later : List String) : (run trackerStep tracker later).Holds (ids ++ later) := by
  induction later generalizing tracker ids with
  | nil => simpa using holds
  | cons id rest ih =>
    rw [run_cons, List.append_cons]
    exact ih (holds.markSeen id)

theorem maxEntries_run (tracker : CorrelationTracker) (ids : List String) :
    (run trackerStep tracker ids).maxEntries = tracker.maxEntries := by
  induction ids generalizing tracker with
  | nil => rfl
  | cons id rest ih => rw [run_cons, ih, trackerStep, CorrelationTracker.markSeen_maxEntries]

theorem nodup_evictOldest {set queue : List String} (maxEntries : Nat) (nodup : set.Nodup) :
    (evictOldest maxEntries set queue).1.Nodup := by
  induction queue generalizing set with
  | nil => exact nodup
  | cons oldest queue ih =>
    unfold evictOldest
    split
    · exact ih (nodup.filter _)
    · exact nodup

theorem nodup_markSeen {tracker : CorrelationTracker} (id : String) (nodup : tracker.set.Nodup) :
    (trackerStep tracker id).set.Nodup := by
  by_cases held : id ∈ tracker.set
  · rw [trackerStep, CorrelationTracker.markSeen_of_mem held]
    exact nodup
  · rw [trackerStep, CorrelationTracker.markSeen_of_not_mem held]
    exact nodup_evictOldest _ (List.nodup_cons.mpr ⟨held, nodup⟩)

/-! ## Admissions -/

theorem trackerAnswer_iff {tracker : CorrelationTracker} {ids : List String}
    (holds : tracker.Holds ids) (id : String) :
    trackerAnswer tracker id = false ↔
      id ∈ recent tracker.maxEntries (admissions tracker.maxEntries ids) := by
  rw [← Bool.not_eq_true, trackerAnswer, holds.markSeen_fst, not_not]

/-- What the tracker admits is what the window admits. -/
theorem admissions_append_admitted {tracker : CorrelationTracker} {ids : List String}
    (holds : tracker.Holds ids) (later : List String) :
    admissions tracker.maxEntries ids ++ admitted tracker later =
      admissions tracker.maxEntries (ids ++ later) := by
  induction later generalizing tracker ids with
  | nil => simp [admitted]
  | cons id rest ih =>
    have next := ih (holds.markSeen id)
    rw [CorrelationTracker.markSeen_maxEntries, List.append_assoc, List.singleton_append,
      admissions_append, offer] at next
    rw [admitted, ← next]
    by_cases answer : trackerAnswer tracker id = true
    · rw [if_pos answer, if_neg ((holds.markSeen_fst id).mp answer), List.append_assoc]
      rfl
    · have held := (trackerAnswer_iff holds id).mp (Bool.eq_false_iff.mpr answer)
      rw [if_neg answer, if_pos held]
      rfl

/-! ## The set that forgets nothing -/

/-- The bridge drops a line with a known id and remembers a new one. -/
theorem processLine_seenStep {json : JsonReaders} {repr : Value → String} {now : Int}
    {bridge : EventBridge} {line : String} {t : MessageType} {stamp : Value} {id : String}
    {payload : Dict} (parsed : parseEnvelope json line bridge.maxMessageBytes =
      .ok (some (returned t stamp id payload))) :
    (bridge.processLine json repr now line).2.seenCorrelationIds =
        seenStep bridge.seenCorrelationIds id ∧
      (seenAnswer bridge.seenCorrelationIds id = false →
        bridge.processLine json repr now line = (.ok none, bridge)) := by
  unfold seenStep seenAnswer
  by_cases seen : id ∈ bridge.seenCorrelationIds
  · rw [EventBridge.processLine_seen parsed seen, if_pos seen]
    exact ⟨rfl, fun _ => rfl⟩
  · refine ⟨?_, fun known => absurd (of_decide_eq_false known) (not_not.mpr seen)⟩
    rw [if_neg seen]
    by_cases event : t = .event
    · subst event
      rw [EventBridge.processLine_event parsed seen, EventBridge.handle_seen]
      rfl
    · rw [EventBridge.processLine_other parsed seen event]
      rfl

theorem seenStep_mem {seen ids : List String} {id : String} (members : ∀ x, x ∈ seen ↔ x ∈ ids) :
    ∀ x, x ∈ seenStep seen id ↔ x ∈ ids ++ [id] := by
  intro x
  unfold seenStep
  split
  · rename_i known
    rw [members, List.mem_append, List.mem_singleton]
    constructor
    · exact Or.inl
    · rintro (earlier | rfl)
      · exact earlier
      · exact (members x).mp known
  · simp [members, or_comm]

/-- While all ids fit, the tracker answers like a set of all ids offered. -/
theorem observations_eq {tracker : CorrelationTracker} {ids : List String}
    (holds : tracker.Holds ids) {seen : List String} (members : ∀ x, x ∈ seen ↔ x ∈ ids)
    (later : List String) (few : (ids ++ later).dedup.length ≤ tracker.maxEntries) :
    observations trackerStep trackerAnswer tracker later =
      observations seenStep seenAnswer seen later := by
  induction later generalizing tracker ids seen with
  | nil => rfl
  | cons id rest ih =>
    have fewer : ids.dedup.length ≤ tracker.maxEntries := by
      apply Nat.le_trans _ few
      apply (List.nodup_dedup ids).length_le_of_subset
      intro x member
      exact List.mem_dedup.mpr (List.mem_append_left _ (List.mem_dedup.mp member))
    obtain ⟨nodup, admittedIds⟩ := admissions_of_few ids fewer
    have short : (admissions tracker.maxEntries ids).length ≤ tracker.maxEntries := by
      apply Nat.le_trans _ fewer
      apply nodup.length_le_of_subset
      intro x member
      exact List.mem_dedup.mpr ((admittedIds x).mp member)
    have here : trackerAnswer tracker id = seenAnswer seen id := by
      rw [seenAnswer, Bool.eq_iff_iff, trackerAnswer, holds.markSeen_fst, recent_of_short short,
        admittedIds, decide_eq_true_iff, members]
    rw [observations, observations, here]
    congr 1
    apply ih (holds.markSeen id) (seenStep_mem members)
    rw [CorrelationTracker.markSeen_maxEntries, List.append_assoc]
    exact few

/-- After any ids, set and queue hold the same ids once each, within the bound; an id is known
exactly if fewer admissions than the bound have followed its last one; and with no more
distinct ids than the bound, all answers are those of a set that forgets nothing. -/
theorem tracker_exact (maxEntries : Nat) (ids : List String) :
    ((run trackerStep (.new maxEntries) ids).set.Perm
          (run trackerStep (.new maxEntries) ids).queue ∧
        (run trackerStep (.new maxEntries) ids).queue.Nodup ∧
        (run trackerStep (.new maxEntries) ids).queue.length ≤ max maxEntries 1) ∧
      (∀ id, trackerAnswer (run trackerStep (.new maxEntries) ids) id = false ↔
        ∃ before after, admitted (.new maxEntries) ids = before ++ id :: after ∧ id ∉ after ∧
          after.length < max maxEntries 1) ∧
      (ids.dedup.length ≤ max maxEntries 1 →
        observations trackerStep trackerAnswer (.new maxEntries) ids =
          observations seenStep seenAnswer [] ids) := by
  have new := CorrelationTracker.holds_new maxEntries
  have holds : (run trackerStep (.new maxEntries) ids).Holds ids := by
    simpa using holds_run new ids
  have bound : (run trackerStep (.new maxEntries) ids).maxEntries = max maxEntries 1 :=
    maxEntries_run _ ids
  refine ⟨⟨?_, holds.nodup, ?_⟩, fun id => ?_, fun few => ?_⟩
  · have step : ∀ tracker id, tracker.set.Nodup → (trackerStep tracker id).set.Nodup :=
      fun _ id nodup => nodup_markSeen id nodup
    have nodup := run_invariant step (.new maxEntries) List.nodup_nil ids
    exact (List.perm_ext_iff_of_nodup nodup holds.nodup).mpr holds.set
  · rw [holds.length_queue, bound]
    exact Nat.min_le_left _ _
  · have same : admitted (.new maxEntries) ids = admissions (max maxEntries 1) ids :=
      admissions_append_admitted new ids
    rw [trackerAnswer_iff holds, bound, same, mem_recent_iff]
  · exact observations_eq new (fun _ => Iff.rfl) ids few

end Apcos.Guarantees.CorrelationWindow
