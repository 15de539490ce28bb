import Apcos.Guarantees.LegacyStore
import Apcos.Guarantees.SupervisedStore

/-!
# The retention timestamp

core/memory/task_store.py:189-230, 357-425. `archived_at` is written by every
transition to `ARCHIVED`. An authority that lets an archived task be archived
again, as the Rust policy does with `FINALIZE_ARCHIVE`, has it written again;
the local matrix lets no archived task move.
-/
namespace Apcos.Guarantees.RetentionStamp

open Apcos.Lib
open Apcos.Source.Python (asciiRuntime)
open Apcos.Source.Bridge
open Apcos.Source.Memory
open Apcos.Guarantees.LegacyStore (Legacy ArchivedExactly callStep_archived legacy_decision)
open Apcos.Guarantees.SupervisedStore

variable {ω : Type}

/-- `archived_at` of the task's row. -/
def stampOf (s : MemoryState ω) (taskId : Int) : Option String :=
  (s.tasks.find taskId).bind TaskRow.archivedAt

/-- The call asks for `ARCHIVED` for a task, and the configured authorities let it through. -/
structure Rearchives (modules : MemoryModules ω) (s : MemoryState ω) (call : MemoryCall)
    (taskId : Int) (row : TaskRow) : Prop where
  requested : call.transition = some (taskId, TaskState.archived.value)
  found : s.tasks.find taskId = some row
  admitted : ∃ asked, modules.store.TransitionCleared
    (modules.store.host.datetimeNow s.wire.env).2 taskId row.state .archived asked
  stored : ∃ made, StorageCleared modules.store.storageBridge modules.store.enforceStorageAuthority
    (modules.store.storageRequest "ARCHIVE_TASK" row.state.value) made

/-- The call returned, and did not raise. -/
def Returned (modules : MemoryModules ω) (s : MemoryState ω) (call : MemoryCall) : Prop :=
  (perform modules call s).1 = .ok ()

theorem ofValue_archived {newState : String} (named : TaskState.ofValue newState = some .archived) :
    newState = TaskState.archived.value := by
  have matched := List.find?_some named
  simpa using Eq.symm (beq_iff_eq.mp matched)

/-- A stamp stays through a call that does not archive its task again. -/
theorem callStep_stamp (modules : MemoryModules ω) (s : MemoryState ω) (call : MemoryCall)
    {taskId : Int} {row : TaskRow} (found : s.tasks.find taskId = some row) :
    ∃ row', (callStep modules s call).tasks.find taskId = some row' ∧
      (row'.archivedAt = row.archivedAt ∨
        (row'.archivedAt.isSome ∧ Rearchives modules s call taskId row ∧
          Returned modules s call)) := by
  obtain ⟨row', found', step⟩ := callStep_row modules s call found
  refine ⟨row', found', ?_⟩
  cases step with
  | kept state stamp => exact Or.inl stamp
  | moved newState destination now asked made requested named allowed cleared state stamp
      returned =>
    by_cases archives : destination = .archived
    · subst archives
      rw [ofValue_archived named] at requested
      exact Or.inr ⟨by rw [stamp]; rfl, ⟨requested, found, ⟨asked, allowed⟩, ⟨made, cleared⟩⟩,
        returned⟩
    · rw [stamp, TaskStore.archivedAtFor, if_neg archives]
      exact Or.inl rfl

/-- The clock reading that `transition_task` takes before it asks anyone. -/
def clockReading (modules : MemoryModules ω) (s : MemoryState ω) : String :=
  (modules.store.host.datetimeNow s.wire.env).1.isoformat

/-- A call for `ARCHIVED` that returns was let through, and it stamps the row anew,
stamped before or not. -/
theorem archive_returned_stamps (modules : MemoryModules ω) (s : MemoryState ω) (call : MemoryCall)
    {taskId : Int} (requested : call.transition = some (taskId, TaskState.archived.value))
    (returned : Returned modules s call) :
    (∃ row, Rearchives modules s call taskId row) ∧
      stampOf (callStep modules s call) taskId = some (clockReading modules s) := by
  unfold Returned at returned
  unfold callStep
  have outcome := perform_outcome modules s call
  generalize perform modules call s = out at outcome returned
  cases outcome with
  | stopped _ exc w made grown => cases returned
  | recorded _ taskId' newState row destination changedAtUtc exc w asked made grown requested'
      found named allowed blocked => cases returned
  | inserted title description dueAt goal priority row id after w made grown cleared initial
      unarchived insertion => cases requested
  | updated taskId' changes row fields now w made grown found cleared => cases requested
  | wrote _ vectorId target records w operation asked made grown shift cleared =>
    rcases target with rfl | ⟨embedding, metadata, rfl⟩
    · cases requested
    · cases requested
  | committed _ taskId' newState row destination changedAtUtc now w asked made grown requested'
      found named allowed cleared read =>
    rw [requested] at requested'
    cases requested'
    cases named
    refine ⟨⟨row, requested, found, ⟨asked, allowed⟩, ⟨made, cleared⟩⟩, ?_⟩
    have present := TaskStore.find_writeState s.tasks taskId .archived now
      (TaskStore.archivedAtFor .archived now row.archivedAt) taskId
    rw [if_pos rfl, found, Option.map_some] at present
    rw [stampOf, present, read]
    rfl

/-- Some call of the list archives the task again in the state it is made in, and returns. -/
def RearchivedIn (modules : MemoryModules ω) (s : MemoryState ω) (calls : List MemoryCall)
    (taskId : Int) : Prop :=
  ∃ earlier call later row, calls = earlier ++ call :: later ∧
    Rearchives modules (run (callStep modules) s earlier) call taskId row ∧
    Returned modules (run (callStep modules) s earlier) call

theorem RearchivedIn.cons {modules : MemoryModules ω} {s : MemoryState ω} {first : MemoryCall}
    {calls : List MemoryCall} {taskId : Int}
    (again : RearchivedIn modules (callStep modules s first) calls taskId) :
    RearchivedIn modules s (first :: calls) taskId := by
  obtain ⟨earlier, call, later, row, split, archives, returned⟩ := again
  exact ⟨first :: earlier, call, later, row, by rw [split, List.cons_append], archives, returned⟩

theorem stampOf_of_find {s : MemoryState ω} {taskId : Int} {row : TaskRow}
    (found : s.tasks.find taskId = some row) : stampOf s taskId = row.archivedAt := by
  rw [stampOf, found]
  rfl

theorem find_of_stamped {s : MemoryState ω} {taskId : Int} (stamped : (stampOf s taskId).isSome) :
    ∃ row, s.tasks.find taskId = some row ∧ row.archivedAt.isSome := by
  obtain ⟨stamp, is⟩ := Option.isSome_iff_exists.mp stamped
  obtain ⟨row, found, archived⟩ := Option.bind_eq_some_iff.mp is
  exact ⟨row, found, by rw [archived]; rfl⟩

/-- A stamp stays through a run, or some call of the run archived its task again. -/
theorem run_stamp (modules : MemoryModules ω) (s : MemoryState ω) (calls : List MemoryCall)
    {taskId : Int} (stamped : (stampOf s taskId).isSome) :
    (stampOf (run (callStep modules) s calls) taskId).isSome ∧
      (stampOf (run (callStep modules) s calls) taskId = stampOf s taskId ∨
        RearchivedIn modules s calls taskId) := by
  induction calls generalizing s with
  | nil => exact ⟨stamped, Or.inl rfl⟩
  | cons call rest ih =>
    obtain ⟨row, found, archived⟩ := find_of_stamped stamped
    obtain ⟨row', found', same | ⟨set, again⟩⟩ := callStep_stamp modules s call found
    · have kept : stampOf (callStep modules s call) taskId = stampOf s taskId := by
        rw [stampOf_of_find found', stampOf_of_find found, same]
      obtain ⟨still, later⟩ := ih (callStep modules s call) (by rw [kept]; exact stamped)
      refine ⟨still, later.imp ?_ RearchivedIn.cons⟩
      intro unchanged
      rw [run_cons, unchanged, kept]
    · have set' : (stampOf (callStep modules s call) taskId).isSome := by
        rw [stampOf_of_find found']
        exact set
      exact ⟨(ih _ set').1, Or.inr ⟨[], call, rest, row, rfl, again⟩⟩

/-! ## The configurations -/

/-- The local matrix lets no archived task move, and every stamped row is archived. -/
theorem legacy_not_rearchivedIn {modules : MemoryModules ω} (legacy : Legacy modules.store)
    {s : MemoryState ω} (exactly : ArchivedExactly s) {calls : List MemoryCall} {taskId : Int}
    (stamped : (stampOf s taskId).isSome) : ¬RearchivedIn modules s calls taskId := by
  rintro ⟨earlier, call, later, row, -, again, -⟩
  have still := (run_stamp modules s earlier stamped).1
  rw [stampOf_of_find again.found] at still
  have reached := run_invariant (callStep_archived modules legacy) s exactly earlier
  have archived := (reached taskId row again.found).mp (Option.isSome_iff_ne_none.mp still)
  obtain ⟨asked, allowed⟩ := again.admitted
  exact (legacyAllowed_ends _ _ (legacy_decision legacy allowed)).2 archived

/-- Under the Rust policies only an archived row has a stamp. -/
def StampedArchived (s : MemoryState ω) : Prop :=
  ∀ taskId row, s.tasks.find taskId = some row → row.archivedAt ≠ none → row.state = .archived

/-- Under the Rust policies no call moves a stamped row out of `ARCHIVED`. -/
theorem callStep_stampedArchived {modules : MemoryModules ω} (supervised : Supervised modules.store)
    (s : MemoryState ω) (call : MemoryCall) (before : StampedArchived s) :
    StampedArchived (callStep modules s call) := by
  refine rows_preserved ?_ ?_ s call before
  · intro s call taskId row row' _ before step
    cases step with
    | kept state stamp =>
      rw [state, stamp]
      exact before
    | moved newState destination now asked made requested named allowed cleared state stamp =>
      rw [state, stamp, TaskStore.archivedAtFor]
      by_cases archives : destination = .archived
      · exact fun _ => archives
      · rw [if_neg archives]
        intro set
        have update : TaskStore.storageOperationForDestination destination = "UPDATE_TASK" :=
          if_neg archives
        rw [update] at cleared
        exact absurd (before set) (storage_permit_live supervised cleared)
  · intro row _ unarchived set
    exact absurd unarchived set

/-- `archived_at`, once set, is set for good. Only a transition of the task to
`ARCHIVED` that the authorities let through writes it again, and each one that
returns does, with its own clock reading. Without bridges the local matrix lets
none through; the Rust policies are asked for one as `FINALIZE_ARCHIVE`. -/
theorem stamp_rewritten_by_archive_only (modules : MemoryModules ω) (env : ω)
    (before after : List MemoryCall) (taskId : Int)
    (stamped : (stampOf (run (callStep modules) (.initial env) before) taskId).isSome) :
    let s := run (callStep modules) (.initial env) before
    let s' := run (callStep modules) (.initial env) (before ++ after)
    (stampOf s' taskId).isSome ∧
      (stampOf s' taskId = stampOf s taskId ∨ RearchivedIn modules s after taskId) ∧
      (Legacy modules.store → stampOf s' taskId = stampOf s taskId) ∧
      (Supervised modules.store → ∀ call row, Rearchives modules s call taskId row →
        TaskStore.memoryOperationForTransition row.state .archived = "FINALIZE_ARCHIVE") ∧
      (∀ call, call.transition = some (taskId, TaskState.archived.value) →
        Returned modules s call → (∃ row, Rearchives modules s call taskId row) ∧
          stampOf (callStep modules s call) taskId = some (clockReading modules s)) := by
  intro s s'
  have split : s' = run (callStep modules) s after := run_append _ _ before after
  obtain ⟨still, unchanged⟩ := run_stamp modules s after stamped
  rw [split]
  refine ⟨still, unchanged, ?_, ?_, fun call => archive_returned_stamps modules s call⟩
  · intro legacy
    have start : ArchivedExactly (.initial env : MemoryState ω) := by
      intro taskId row found
      cases found
    have exactly := run_invariant (callStep_archived modules legacy) _ start before
    exact unchanged.resolve_right (legacy_not_rearchivedIn legacy exactly stamped)
  · intro supervised call row again
    have start : StampedArchived (.initial env : MemoryState ω) := by
      intro taskId row found
      cases found
    have reached := run_invariant (callStep_stampedArchived supervised) _ start before
    rw [stampOf_of_find again.found] at stamped
    have archived := reached taskId row again.found (Option.isSome_iff_ne_none.mp stamped)
    rw [archived]
    rfl

theorem stamp_rewritten_by_archive_only_local :
    let once : List MemoryCall := [.createTask "water plants" .null none .null 0, .archiveTask 1]
    (stampOf (run (callStep localModules) (.initial 0) once) 1).isSome ∧
      stampOf (run (callStep localModules) (.initial 0) (once ++ [.archiveTask 1])) 1 =
        stampOf (run (callStep localModules) (.initial 0) once) 1 := by
  intro once
  have stamped : (stampOf (run (callStep localModules) (.initial 0) once) 1).isSome := by
    decide +kernel
  have legacy : Legacy localModules.store := ⟨rfl, rfl, rfl, rfl⟩
  exact ⟨stamped,
    (stamp_rewritten_by_archive_only localModules 0 once [.archiveTask 1] 1 stamped).2.2.1 legacy⟩

/-- A world whose clock moves with every reading. -/
def tickingHost : HostApi Desk :=
  { deskHost with
    datetimeNow := fun desk =>
      (⟨⟨desk.counter % (Source.Python.maxOrdinal * Source.Python.microsPerDay),
          Nat.mod_lt _ (by decide)⟩, some Source.Python.utcOffset⟩,
        { desk with counter := desk.counter + 1 }) }

def tickingModules : MemoryModules Desk where
  store :=
    { py := asciiRuntime, host := tickingHost, encryption := zeroKey
      storageBridge := some { endpoint := 0, authTransport := some deskSupervisor.transport } }
  vectors := { py := asciiRuntime, host := tickingHost }

/-- Under the Rust policies a second `archive_task` writes the stamp again. -/
theorem second_archive_rewrites_stamp :
    Supervised tickingModules.store ∧
      (stampOf (run (callStep tickingModules) (.initial desk)
        [.createTask "water plants" .null none .null 0, .archiveTask 1]) 1).isSome ∧
      stampOf (run (callStep tickingModules) (.initial desk)
          [.createTask "water plants" .null none .null 0, .archiveTask 1, .archiveTask 1]) 1 ≠
        stampOf (run (callStep tickingModules) (.initial desk)
          [.createTask "water plants" .null none .null 0, .archiveTask 1]) 1 := by
  have supervised : Supervised tickingModules.store :=
    ⟨⟨_, deskSupervisor, rfl, rfl⟩, ⟨_, deskSupervisor, rfl, rfl⟩⟩
  exact ⟨supervised, by decide +kernel, by decide +kernel⟩

end Apcos.Guarantees.RetentionStamp
