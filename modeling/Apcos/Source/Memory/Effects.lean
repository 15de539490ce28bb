import Apcos.Source.Memory.VectorMemory

/-!
# What the memory operations can do

One inversion per operation: the outcome, the part of the state it moved and
the exchanges of the call with what they show about the authorities consulted.
All invariants below are derived from these.
-/
namespace Apcos.Source.Memory

open Apcos.Lib
open Apcos.Source.Python (Value Exc DateTime strip)
open Apcos.Source.Bridge

variable {ω : Type}

/-- The wire after a call: the exchanges made are appended. -/
def Grows (s : MemoryState ω) (w : Wire ω) (made : List Exchange) : Prop :=
  w.exchanges = s.wire.exchanges ++ made

theorem Grows.trans {s s' : MemoryState ω} {w : Wire ω} {asked made : List Exchange}
    (grown : Grows s s'.wire asked) (grown' : Grows s' w made) : Grows s w (asked ++ made) := by
  unfold Grows at grown grown' ⊢
  rw [grown', grown, List.append_assoc]

namespace TaskStore

theorem find_writeFields (store : TaskStore ω) (tasks : TaskTable) (taskId : Int)
    (fields : TaskFields) (updatedAt : String) (queried : Int) :
    (store.writeFields tasks taskId fields updatedAt).find queried =
      if queried = taskId then (tasks.find queried).map (store.setFields fields updatedAt)
      else tasks.find queried :=
  tasks.find_update taskId _ _ queried

theorem find_writeState (tasks : TaskTable) (taskId : Int) (destination : TaskState)
    (updatedAt : String) (archivedAt : Option String) (queried : Int) :
    (writeState tasks taskId destination updatedAt archivedAt).find queried =
      if queried = taskId then (tasks.find queried).map (setState destination updatedAt archivedAt)
      else tasks.find queried :=
  tasks.find_update taskId _ _ queried

/-! ## Creation -/

inductive CreateOutcome (store : TaskStore ω) (s : MemoryState ω) :
    Except Exc (Option TaskRecord) × MemoryState ω → Prop
  | stopped (exc : Exc) (w : Wire ω) (made : List Exchange) (grown : Grows s w made) :
      CreateOutcome store s (.error exc, { s with wire := w })
  | inserted (row : TaskRow) (id : Int) (after : TaskTable) (record : TaskRecord) (w : Wire ω)
      (made : List Exchange) (grown : Grows s w made)
      (cleared : StorageCleared store.storageBridge store.enforceStorageAuthority
        (store.storageRequest "WRITE_TASK" TaskState.created.value) made)
      (initial : row.state = .created) (unarchived : row.archivedAt = none)
      (insertion : s.tasks.insert row = some (id, after)) :
      CreateOutcome store s (.ok (some record), { s with tasks := after, wire := w })

theorem storageGate_cases {α : Type} (store : TaskStore ω) (operation lifecycleState : String)
    (execute : Comp Exc (MemoryState ω) α) (s : MemoryState ω) :
    ∃ w made, Grows s w made ∧
      ((StorageBlocked store.storageBridge store.enforceStorageAuthority made ∧ ∃ exc,
          store.validateStorageAndMaybeExecute operation lifecycleState execute s =
            (.error exc, { s with wire := w })) ∨
        (StorageCleared store.storageBridge store.enforceStorageAuthority
            (store.storageRequest operation lifecycleState) made ∧
          store.validateStorageAndMaybeExecute operation lifecycleState execute s =
            execute { s with wire := w })) :=
  gateStorage_cases store.host store.storageBridge store.enforceStorageAuthority
    (store.storageRequest operation lifecycleState) "storage-" execute s

theorem bindInteger_eq {n m : Int} (bound : bindInteger n = .ok m) :
    m = n ∧ -(2 ^ 63) ≤ n ∧ n < 2 ^ 63 := by
  unfold bindInteger at bound
  split at bound
  · rename_i within
    exact ⟨(Except.ok.inj bound).symm, within⟩
  · cases bound

theorem utcNowIso_eq (store : TaskStore ω) (s : MemoryState ω) :
    store.utcNowIso s = (.ok (store.host.datetimeNow s.wire.env).1.isoformat,
      { s with wire := ⟨(store.host.datetimeNow s.wire.env).2, s.wire.exchanges⟩ }) := rfl

theorem rowToRecord_of (store : TaskStore ω) (row : TaskRow) (title : String)
    (description goal : Option String) (hTitle : store.encryption.decrypt row.titleEnc = .ok title)
    (hDescription : store.encryption.decryptOption row.descriptionEnc = .ok description)
    (hGoal : store.encryption.decryptOption row.goalEnc = .ok goal) :
    store.rowToRecord row = .ok ⟨row.id, title, description, goal, row.dueAt, row.priority, row.state,
      row.createdAt, row.updatedAt, row.archivedAt⟩ := by
  unfold rowToRecord
  rw [hTitle, hDescription, hGoal]
  rfl

/-- Reading depends on the ciphertext columns only. -/
theorem rowToRecord_fields (store : TaskStore ω) (row : TaskRow) (record : TaskRecord)
    (read : store.rowToRecord row = .ok record) :
    store.encryption.decrypt row.titleEnc = .ok record.title ∧
      store.encryption.decryptOption row.descriptionEnc = .ok record.description ∧
      store.encryption.decryptOption row.goalEnc = .ok record.goal ∧
      record = ⟨row.id, record.title, record.description, record.goal, row.dueAt, row.priority,
        row.state, row.createdAt, row.updatedAt, row.archivedAt⟩ := by
  unfold rowToRecord at read
  cases hTitle : store.encryption.decrypt row.titleEnc with
  | error e => rw [hTitle] at read; cases read
  | ok title =>
    cases hDescription : store.encryption.decryptOption row.descriptionEnc with
    | error e => rw [hTitle, hDescription] at read; cases read
    | ok description =>
      cases hGoal : store.encryption.decryptOption row.goalEnc with
      | error e => rw [hTitle, hDescription, hGoal] at read; cases read
      | ok goal =>
        rw [hTitle, hDescription, hGoal] at read
        cases read
        exact ⟨rfl, rfl, rfl, rfl⟩

theorem recordOf_of_find {store : TaskStore ω} {tasks : TaskTable} {id : Int} {row : TaskRow}
    {record : TaskRecord} (bound : bindInteger id = .ok id) (found : tasks.find id = some row)
    (read : store.rowToRecord row = .ok record) : store.recordOf tasks id = .ok (some record) := by
  simp only [recordOf, bound, found, read]
  rfl

/-- A successful read names the row it comes from. -/
theorem recordOf_some {store : TaskStore ω} {tasks : TaskTable} {id : Int} {record : TaskRecord}
    (read : store.recordOf tasks id = .ok (some record)) :
    bindInteger id = .ok id ∧ ∃ row, tasks.find id = some row ∧ store.rowToRecord row = .ok record := by
  unfold recordOf at read
  cases bound : bindInteger id with
  | error e =>
    rw [bound] at read
    cases read
  | ok m =>
    obtain ⟨rfl, -⟩ := bindInteger_eq bound
    cases found : tasks.find m with
    | none =>
      simp only [bound, found] at read
      cases read
    | some row =>
      simp only [bound, found] at read
      cases decrypted : store.rowToRecord row with
      | error e =>
        rw [decrypted] at read
        cases read
      | ok r =>
        rw [decrypted] at read
        cases read
        exact ⟨rfl, row, rfl, decrypted⟩

theorem encryptStripped_readable {store : TaskStore ω} {v : Value} {enc : Option String}
    (encrypted : store.encryptStripped v = .ok enc) :
    ∃ plain, store.encryption.decryptOption enc = .ok plain := by
  unfold encryptStripped at encrypted
  split at encrypted
  · cases encrypted
    exact ⟨none, rfl⟩
  · cases v with
    | str s =>
      cases encrypted
      exact ⟨_, store.encryption.decryptOption_encryptOption (some (strip s))⟩
    | _ => cases encrypted

/-- The row a creation inserts reads back. -/
theorem createTaskRow_cases (store : TaskStore ω) (title : String) (description goal : Value)
    (dueAt : Option String) (priority : Int) (timestamp : String) (s : MemoryState ω) :
    (∃ exc, store.createTaskRow title description goal dueAt priority timestamp s =
        (.error exc, s)) ∨
      ∃ row id after record, row.state = .created ∧ row.archivedAt = none ∧
        s.tasks.insert row = some (id, after) ∧
        store.recordOf after id = .ok (some record) ∧ record.title = title ∧
        store.createTaskRow title description goal dueAt priority timestamp s =
          (.ok id, { s with tasks := after }) := by
  unfold createTaskRow
  cases hd : store.encryptStripped description with
  | error exc => exact Or.inl ⟨exc, rfl⟩
  | ok descriptionEnc =>
    cases hg : store.encryptStripped goal with
    | error exc => exact Or.inl ⟨exc, rfl⟩
    | ok goalEnc =>
      cases hp : bindInteger priority with
      | error exc => exact Or.inl ⟨exc, rfl⟩
      | ok bound =>
        let row : TaskRow :=
          { id := 0, titleEnc := store.encryption.encrypt title, descriptionEnc, goalEnc, dueAt,
            priority := bound, state := .created, createdAt := timestamp, updatedAt := timestamp,
            archivedAt := none }
        cases hi : s.tasks.insert row with
        | none =>
          refine Or.inl ⟨⟨.sqliteError, "database or disk is full"⟩, ?_⟩
          simp only [Comp.ofExcept_ok_bind, Comp.get_bind]
          rw [hi]
          rfl
        | some inserted =>
          obtain ⟨id, after⟩ := inserted
          obtain ⟨plainDescription, readDescription⟩ := encryptStripped_readable hd
          obtain ⟨plainGoal, readGoal⟩ := encryptStripped_readable hg
          have found := TaskTable.find_insert hi id
          rw [if_pos rfl] at found
          have read := store.rowToRecord_of { row with id } title plainDescription plainGoal
            (store.encryption.decrypt_encrypt title) readDescription readGoal
          refine Or.inr ⟨row, id, after, _, rfl, rfl, hi,
            recordOf_of_find (TaskTable.bindInteger_inserted hi) found read, rfl, ?_⟩
          simp only [Comp.ofExcept_ok_bind, Comp.get_bind]
          rw [hi]
          rfl

/-- A creation stops with the rows as they were, or the row it inserted is what it returns,
under the stripped title. -/
theorem createTask_cases (store : TaskStore ω) (title : String) (description : Value)
    (dueAt : Option String) (goal : Value) (priority : Int) (s : MemoryState ω) :
    (∃ exc w made, Grows s w made ∧ store.createTask title description dueAt goal priority s =
        (.error exc, { s with wire := w })) ∨
      ∃ row id after record w made, Grows s w made ∧
        StorageCleared store.storageBridge store.enforceStorageAuthority
          (store.storageRequest "WRITE_TASK" TaskState.created.value) made ∧
        row.state = .created ∧ row.archivedAt = none ∧ s.tasks.insert row = some (id, after) ∧
        store.recordOf after id = .ok (some record) ∧
        (record.title = strip title ∧ strip title ≠ "") ∧
        store.createTask title description dueAt goal priority s =
          (.ok (some record), { s with tasks := after, wire := w }) := by
  unfold createTask
  by_cases empty : strip title = ""
  · rw [if_pos empty]
    exact Or.inl ⟨_, s.wire, [], by simp [Grows], rfl⟩
  · rw [if_neg empty, Comp.bind_of_ok (store.utcNowIso_eq s)]
    obtain ⟨w, made, grown, ⟨-, exc, raised⟩ | ⟨cleared, run⟩⟩ :=
      store.storageGate_cases "WRITE_TASK" TaskState.created.value (store.createTaskRow
        (strip title) description goal dueAt priority
        (store.host.datetimeNow s.wire.env).1.isoformat)
      { s with wire := ⟨(store.host.datetimeNow s.wire.env).2, s.wire.exchanges⟩ }
    · rw [Comp.bind_of_error raised]
      exact Or.inl ⟨exc, w, made, grown, rfl⟩
    · rcases store.createTaskRow_cases (strip title) description goal dueAt priority
        (store.host.datetimeNow s.wire.env).1.isoformat { s with wire := w } with
        ⟨exc, raised⟩ |
          ⟨row, id, after, record, initial, unarchived, insertion, read, titled, inserted⟩
      · rw [Comp.bind_of_error (run.trans raised)]
        exact Or.inl ⟨exc, w, made, grown, rfl⟩
      · rw [Comp.bind_of_ok (run.trans inserted)]
        simp only [getTask, read]
        exact Or.inr ⟨row, id, after, record, w, made, grown, cleared, initial, unarchived,
          insertion, read, ⟨titled, empty⟩, rfl⟩

theorem createTask_outcome (store : TaskStore ω) (title : String) (description : Value)
    (dueAt : Option String) (goal : Value) (priority : Int) (s : MemoryState ω) :
    CreateOutcome store s (store.createTask title description dueAt goal priority s) := by
  rcases store.createTask_cases title description dueAt goal priority s with
    ⟨exc, w, made, grown, raised⟩ |
      ⟨row, id, after, record, w, made, grown, cleared, initial, unarchived, insertion, -, -, ran⟩
  · rw [raised]
    exact .stopped exc w made grown
  · rw [ran]
    exact .inserted row id after record w made grown cleared initial unarchived insertion

/-! ## Update -/

inductive UpdateOutcome (store : TaskStore ω) (taskId : Int) (s : MemoryState ω) :
    Except Exc (Option TaskRecord) × MemoryState ω → Prop
  | stopped (exc : Exc) (w : Wire ω) (made : List Exchange) (grown : Grows s w made) :
      UpdateOutcome store taskId s (.error exc, { s with wire := w })
  | updated (row : TaskRow) (fields : TaskFields) (now : String) (record : TaskRecord) (w : Wire ω)
      (made : List Exchange) (grown : Grows s w made) (found : s.tasks.find taskId = some row)
      (cleared : StorageCleared store.storageBridge store.enforceStorageAuthority
        (store.storageRequest "UPDATE_TASK" row.state.value) made) :
      UpdateOutcome store taskId s (.ok (some record),
        { s with tasks := store.writeFields s.tasks taskId fields now, wire := w })

/-- The update statement raises and writes nothing, or writes the fields. -/
theorem updateTaskRow_cases (store : TaskStore ω) (taskId : Int) (fields : TaskFields)
    (bound : bindInteger taskId = .ok taskId) (s : MemoryState ω) :
    ∃ w, w.exchanges = s.wire.exchanges ∧
      ((∃ exc, store.updateTaskRow taskId fields s = (.error exc, { s with wire := w })) ∨
        ∃ now, store.updateTaskRow taskId fields s = (.ok (), { s with
          tasks := store.writeFields s.tasks taskId fields now, wire := w })) := by
  refine ⟨⟨(store.host.datetimeNow s.wire.env).2, s.wire.exchanges⟩, rfl, ?_⟩
  unfold updateTaskRow
  rw [Comp.bind_of_ok (store.utcNowIso_eq s)]
  cases hp : bindInteger fields.priority with
  | error exc => exact Or.inl ⟨exc, rfl⟩
  | ok priority =>
    rw [bound]
    exact Or.inr ⟨_, rfl⟩

/-- The columns an update writes read back. -/
theorem setFields_readable (store : TaskStore ω) (fields : TaskFields) (now : String)
    (row : TaskRow) : ∃ record, store.rowToRecord (store.setFields fields now row) = .ok record :=
  ⟨_, store.rowToRecord_of _ fields.title fields.description fields.goal
    (store.encryption.decrypt_encrypt _) (store.encryption.decryptOption_encryptOption _)
    (store.encryption.decryptOption_encryptOption _)⟩

/-- Outcomes of the read that opens `update_task` and `transition_task`. -/
theorem getTask_cases (store : TaskStore ω) (taskId : Int) (s : MemoryState ω) :
    (∃ exc, store.getTask taskId s = (.error exc, s)) ∨
      store.getTask taskId s = (.ok none, s) ∨
      ∃ row record, bindInteger taskId = .ok taskId ∧ s.tasks.find taskId = some row ∧
        store.rowToRecord row = .ok record ∧ store.getTask taskId s = (.ok (some record), s) := by
  unfold getTask
  cases read : store.recordOf s.tasks taskId with
  | error exc => exact Or.inl ⟨exc, rfl⟩
  | ok found =>
    cases found with
    | none => exact Or.inr (Or.inl rfl)
    | some record =>
      obtain ⟨bound, row, found, decrypted⟩ := recordOf_some read
      exact Or.inr (Or.inr ⟨row, record, bound, found, decrypted, rfl⟩)

/-- Everything `update_task` can do. -/
theorem updateTask_outcome (store : TaskStore ω) (taskId : Int) (changes : TaskChanges)
    (s : MemoryState ω) : UpdateOutcome store taskId s (store.updateTask taskId changes s) := by
  unfold updateTask
  rcases store.getTask_cases taskId s with
    ⟨exc, raised⟩ | absent | ⟨row, current, bound, found, decrypted, read⟩
  · rw [Comp.bind_of_error raised]
    exact .stopped exc s.wire [] (by simp [Grows])
  · rw [Comp.bind_of_ok absent]
    exact .stopped _ s.wire [] (by simp [Grows])
  · rw [Comp.bind_of_ok read]
    obtain ⟨-, -, -, current_eq⟩ := store.rowToRecord_fields row current decrypted
    have stateEq : current.state = row.state := by rw [current_eq]
    simp only
    by_cases empty : (updatedFields changes current).title = ""
    · rw [if_pos empty]
      exact .stopped _ s.wire [] (by simp [Grows])
    · rw [if_neg empty, stateEq]
      obtain ⟨w, made, grown, ⟨-, exc, raised⟩ | ⟨cleared, run⟩⟩ :=
        store.storageGate_cases "UPDATE_TASK" row.state.value
          (store.updateTaskRow taskId (updatedFields changes current)) s
      · rw [Comp.bind_of_error raised]
        exact .stopped exc w made grown
      · obtain ⟨w', same, ⟨exc, raised⟩ | ⟨now, wrote⟩⟩ := store.updateTaskRow_cases taskId
          (updatedFields changes current) bound { s with wire := w }
        · rw [Comp.bind_of_error (run.trans raised)]
          exact .stopped exc w' made (same.trans grown)
        · rw [Comp.bind_of_ok (run.trans wrote)]
          obtain ⟨record, readable⟩ :=
            store.setFields_readable (updatedFields changes current) now row
          have present := store.find_writeFields s.tasks taskId (updatedFields changes current) now
            taskId
          rw [if_pos rfl, found, Option.map_some] at present
          simp only [getTask, recordOf_of_find bound present readable]
          exact .updated row _ now record w' made (same.trans grown) found cleared

/-! ## Transition -/

/-- The decision that lets a transition pass to the storage gate: the lifecycle
manager's, in this world, without a memory bridge; the memory authority's with one. -/
def TransitionCleared (store : TaskStore ω) (env : ω) (taskId : Int) (source target : TaskState)
    (made : List Exchange) : Prop :=
  match store.memoryBridge with
  | none => store.enforceMemoryAuthority = false ∧ made = [] ∧
      ∃ decision, (store.lifecycle.authorizeTransition taskId source target env).1 = .ok decision ∧
        decision.allowed = true
  | some bridge => ∃ flag asked e goal, made = asked ++ [e] ∧
      (flag = true → PermissionGranted store.storageBridge store.enforceStorageAuthority
        (store.storageRequest (storageOperationForDestination target) source.value) asked) ∧
      MemoryPermit bridge
        (store.memoryRequest source target (memoryOperationForTransition source target) flag) goal e

inductive TransitionOutcome (store : TaskStore ω) (taskId : Int) (newState : String)
    (s : MemoryState ω) : Except Exc (Option TaskRecord) × MemoryState ω → Prop
  | stopped (exc : Exc) (w : Wire ω) (made : List Exchange) (grown : Grows s w made) :
      TransitionOutcome store taskId newState s (.error exc, { s with wire := w })
  /-- The log has the record and the row was not written. -/
  | recorded (row : TaskRow) (destination : TaskState) (changedAtUtc : DateTime) (exc : Exc)
      (w : Wire ω) (asked made : List Exchange) (grown : Grows s w (asked ++ made))
      (found : s.tasks.find taskId = some row)
      (named : TaskState.ofValue newState = some destination)
      (allowed : store.TransitionCleared (store.host.datetimeNow s.wire.env).2 taskId row.state
        destination asked)
      (blocked : StorageBlocked store.storageBridge store.enforceStorageAuthority made) :
      TransitionOutcome store taskId newState s (.error exc, { s with
        transitionLog := s.transitionLog ++ [⟨taskId, row.state, destination, changedAtUtc⟩]
        wire := w })
  | committed (row : TaskRow) (destination : TaskState) (changedAtUtc : DateTime) (now : String)
      (record : TaskRecord) (w : Wire ω) (asked made : List Exchange)
      (grown : Grows s w (asked ++ made)) (found : s.tasks.find taskId = some row)
      (named : TaskState.ofValue newState = some destination)
      (allowed : store.TransitionCleared (store.host.datetimeNow s.wire.env).2 taskId row.state
        destination asked)
      (cleared : StorageCleared store.storageBridge store.enforceStorageAuthority
        (store.storageRequest (storageOperationForDestination destination) row.state.value) made)
      (read : now = (store.host.datetimeNow s.wire.env).1.isoformat) :
      TransitionOutcome store taskId newState s (.ok (some record), { s with
        tasks := writeState s.tasks taskId destination now
          (archivedAtFor destination now row.archivedAt)
        transitionLog := s.transitionLog ++ [⟨taskId, row.state, destination, changedAtUtc⟩]
        wire := w })

/-- The state after a transition record was appended. -/
def withRecord (s : MemoryState ω) (w : Wire ω) (record : TransitionRecord) : MemoryState ω :=
  { s with transitionLog := s.transitionLog ++ [record], wire := w }

theorem appendTransitionRecord_eq (store : TaskStore ω) (taskId : Int) (source target : TaskState)
    (s : MemoryState ω) :
    store.appendTransitionRecord taskId source target s = (.ok (), withRecord s
      ⟨(store.host.datetimeNow s.wire.env).2, s.wire.exchanges⟩
      ⟨taskId, source, target, (store.host.datetimeNow s.wire.env).1⟩) := rfl

/-- The lifecycle manager raises, or allows the transition and appends its record. -/
theorem assertTransition_cases (store : TaskStore ω) (taskId : Int) (source target : TaskState)
    (s : MemoryState ω) :
    ∃ w, w.exchanges = s.wire.exchanges ∧
      ((∃ exc, store.assertTransition taskId source target s = (.error exc, { s with wire := w })) ∨
        ∃ changedAtUtc decision,
          (store.lifecycle.authorizeTransition taskId source target s.wire.env).1 = .ok decision ∧
          decision.allowed = true ∧
          store.assertTransition taskId source target s =
            (.ok (), withRecord s w ⟨taskId, source, target, changedAtUtc⟩)) := by
  rcases asked : store.lifecycle.authorizeTransition taskId source target s.wire.env with ⟨r, env⟩
  let w : Wire ω := ⟨env, s.wire.exchanges⟩
  have zoomed : Comp.zoom (MemoryState.wireLens ω) (Comp.zoom (Wire.envLens ω)
      (store.lifecycle.authorizeTransition taskId source target)) s = (r, { s with wire := w }) :=
    Comp.zoom_of_eq (Comp.zoom_of_eq asked)
  unfold assertTransition
  cases r with
  | error exc => exact ⟨w, rfl, Or.inl ⟨exc, Comp.bind_of_error zoomed⟩⟩
  | ok decision =>
    rw [Comp.bind_of_ok zoomed]
    by_cases allowed : decision.allowed = true
    · refine ⟨⟨(store.host.datetimeNow env).2, s.wire.exchanges⟩, rfl, Or.inr
        ⟨(store.host.datetimeNow env).1, decision, rfl, allowed, ?_⟩⟩
      rw [allowed]
      exact store.appendTransitionRecord_eq taskId source target { s with wire := w }
    · rw [Bool.eq_false_iff.mpr allowed]
      exact ⟨w, rfl, Or.inl ⟨_, rfl⟩⟩

theorem transitionTaskRow_eq {taskId : Int} (bound : bindInteger taskId = .ok taskId)
    (destination : TaskState) (updatedAt : String) (archivedAt : Option String)
    (s : MemoryState ω) :
    transitionTaskRow taskId destination updatedAt archivedAt s = (.ok (), { s with
      tasks := writeState s.tasks taskId destination updatedAt archivedAt }) := by
  unfold transitionTaskRow
  rw [bound]
  rfl

/-- The transition was recorded; then the storage gate stopped it, or the callback ran. -/
def Proceeded (store : TaskStore ω) (taskId : Int) (source target : TaskState)
    (execute : Comp Exc (MemoryState ω) Unit) (s : MemoryState ω)
    (run : Except Exc Unit × MemoryState ω) : Prop :=
  ∃ changedAtUtc w asked made, Grows s w (asked ++ made) ∧
    store.TransitionCleared s.wire.env taskId source target asked ∧
    ((StorageBlocked store.storageBridge store.enforceStorageAuthority made ∧
        ∃ exc, run = (.error exc, withRecord s w ⟨taskId, source, target, changedAtUtc⟩)) ∨
      (StorageCleared store.storageBridge store.enforceStorageAuthority
          (store.storageRequest (storageOperationForDestination target) source.value) made ∧
        run = execute (withRecord s w ⟨taskId, source, target, changedAtUtc⟩)))

/-- Past the lifecycle decision the record is in the log, and the storage gate decides on the row.
-/
theorem proceeded_of_storageGate {store : TaskStore ω} {taskId : Int} {source target : TaskState}
    {execute : Comp Exc (MemoryState ω) Unit} {s : MemoryState ω} {w : Wire ω}
    {changedAtUtc : DateTime} (asked : List Exchange) (grown : Grows s w asked)
    (allowed : store.TransitionCleared s.wire.env taskId source target asked) :
    store.Proceeded taskId source target execute s
      (store.validateStorageAndMaybeExecute (storageOperationForDestination target) source.value
        execute (withRecord s w ⟨taskId, source, target, changedAtUtc⟩)) := by
  obtain ⟨w', made, grown', outcome⟩ := store.storageGate_cases
    (storageOperationForDestination target) source.value execute
    (withRecord s w ⟨taskId, source, target, changedAtUtc⟩)
  refine ⟨changedAtUtc, w', asked, made, Grows.trans grown grown', allowed, ?_⟩
  rcases outcome with ⟨blocked, exc, raised⟩ | ⟨cleared, executed⟩
  · exact Or.inl ⟨blocked, exc, raised⟩
  · exact Or.inr ⟨cleared, executed⟩

/-- A transition stops at the lifecycle decision, or proceeds to the storage gate with its record
logged. -/
theorem memoryGate_cases (store : TaskStore ω) (taskId : Int) (source target : TaskState)
    (execute : Comp Exc (MemoryState ω) Unit) (s : MemoryState ω) :
    let run := store.validateMemoryAndMaybeTransition taskId source target
      (memoryOperationForTransition source target) (storageOperationForDestination target)
      source.value execute s
    (∃ exc w made, Grows s w made ∧ run = (.error exc, { s with wire := w })) ∨
      store.Proceeded taskId source target execute s run := by
  intro run
  cases memory : store.memoryBridge with
  | none =>
    cases enforce : store.enforceMemoryAuthority with
    | true =>
      refine Or.inl ⟨⟨.invalidStateTransitionError, "Invalid transition for task " ++
        toString taskId ++ ": memory authority unavailable"⟩, s.wire, [], by simp [Grows], ?_⟩
      simp only [run, validateMemoryAndMaybeTransition, memory, enforce]
      rfl
    | false =>
      have runEq : run = (store.assertTransition taskId source target >>= fun _ =>
          store.validateStorageAndMaybeExecute (storageOperationForDestination target)
            source.value execute) s := by
        simp only [run, validateMemoryAndMaybeTransition, memory, enforce]
        rfl
      obtain ⟨w, same, ⟨exc, raised⟩ | ⟨changedAtUtc, decision, asked, allowed, appended⟩⟩ :=
        store.assertTransition_cases taskId source target s
      · exact Or.inl ⟨exc, w, [], by simp [Grows, same], runEq.trans (Comp.bind_of_error raised)⟩
      · right
        rw [runEq, Comp.bind_of_ok appended]
        refine proceeded_of_storageGate [] (by simp [Grows, same]) ?_
        simp only [TransitionCleared, memory]
        exact ⟨enforce, trivial, decision, asked, allowed⟩
  | some bridge =>
    have runEq : run = gateMemory store.host bridge
        (store.requestStoragePermission (storageOperationForDestination target) source.value)
        (store.memoryRequest source target (memoryOperationForTransition source target)) "memory-"
        (fun reason => ⟨.invalidStateTransitionError,
          "Invalid transition for task " ++ toString taskId ++ ": " ++ source.value ++ " -> " ++
            target.value ++ " (" ++ reasonOr (some reason) "MEMORY_TRANSITION_DENIED" ++ ")"⟩)
        (store.executeAuthorizedTransition taskId source target
          (storageOperationForDestination target) source.value execute) s := by
      simp only [run, validateMemoryAndMaybeTransition, memory]
    obtain ⟨w, made, grown, ⟨exc, raised⟩ | ⟨flag, asked, e, goal, split, grant, permit, ran⟩⟩ :=
      gateMemory_cases store.host bridge _ _ "memory-" _ _ s
        (fun flag asked => flag = true → PermissionGranted store.storageBridge
          store.enforceStorageAuthority
          (store.storageRequest (storageOperationForDestination target) source.value) asked)
        (storagePermission_cases store.host store.storageBridge store.enforceStorageAuthority
          (store.storageRequest (storageOperationForDestination target) source.value)
          "storage-preflight-" s)
    · exact Or.inl ⟨exc, w, made, grown, runEq.trans raised⟩
    · right
      rw [runEq.trans ran]
      have recorded := store.appendTransitionRecord_eq taskId source target { s with wire := w }
      unfold executeAuthorizedTransition recordTransition
      rw [Comp.bind_of_ok recorded]
      refine proceeded_of_storageGate made grown ?_
      simp only [TransitionCleared, memory]
      exact ⟨flag, asked, e, goal, split, grant, permit⟩

/-- Everything `transition_task` can do. -/
theorem transitionTask_outcome (store : TaskStore ω) (taskId : Int) (newState : String)
    (s : MemoryState ω) :
    TransitionOutcome store taskId newState s (store.transitionTask taskId newState s) := by
  unfold transitionTask
  rcases store.getTask_cases taskId s with
    ⟨exc, raised⟩ | absent | ⟨row, current, bound, found, decrypted, read⟩
  · rw [Comp.bind_of_error raised]
    exact .stopped exc s.wire [] (by simp [Grows])
  · rw [Comp.bind_of_ok absent]
    exact .stopped _ s.wire [] (by simp [Grows])
  · rw [Comp.bind_of_ok read]
    obtain ⟨readTitle, readDescription, readGoal, current_eq⟩ :=
      store.rowToRecord_fields row current decrypted
    have stateEq : current.state = row.state := by rw [current_eq]
    have archivedEq : current.archivedAt = row.archivedAt := by rw [current_eq]
    simp only [stateEq, archivedEq]
    cases named : TaskState.ofValue newState with
    | none =>
      have unknown : normalizeState store.py newState = .error ⟨.invalidStateTransitionError,
          "Unknown task state: " ++ store.py.repr (.str newState)⟩ := by
        simp only [normalizeState, named]
      rw [unknown]
      exact .stopped _ s.wire [] (by simp [Grows])
    | some destination =>
      have known : normalizeState store.py newState = .ok destination := by
        simp only [normalizeState, named]
      rw [known, Comp.ofExcept_ok_bind, Comp.bind_of_ok (store.utcNowIso_eq s)]
      let now := (store.host.datetimeNow s.wire.env).1.isoformat
      let s' : MemoryState ω :=
        { s with wire := ⟨(store.host.datetimeNow s.wire.env).2, s.wire.exchanges⟩ }
      rcases store.memoryGate_cases taskId row.state destination
        (transitionTaskRow taskId destination now (archivedAtFor destination now row.archivedAt)) s'
        with ⟨exc, w, made, grown, raised⟩ | ⟨changedAtUtc, w, asked, made, grown, allowed, outcome⟩
      · rw [Comp.bind_of_error raised]
        exact .stopped exc w made grown
      · rcases outcome with ⟨blocked, exc, raised⟩ | ⟨cleared, ran⟩
        · rw [Comp.bind_of_error raised]
          exact .recorded row destination changedAtUtc exc w asked made grown found named allowed
            blocked
        · rw [Comp.bind_of_ok (ran.trans (transitionTaskRow_eq bound destination now _ _))]
          have present := find_writeState s.tasks taskId destination now
            (archivedAtFor destination now row.archivedAt) taskId
          rw [if_pos rfl, found, Option.map_some] at present
          have readable := store.rowToRecord_of
            (setState destination now (archivedAtFor destination now row.archivedAt) row)
            current.title current.description current.goal readTitle readDescription readGoal
          change TransitionOutcome store taskId newState s (store.recordOf (writeState s.tasks
            taskId destination now (archivedAtFor destination now row.archivedAt)) taskId, _)
          rw [recordOf_of_find bound present readable]
          exact .committed row destination changedAtUtc now _ w asked made grown found named allowed
            cleared rfl

/-- What a transition returns is what the row reads like afterwards. -/
theorem transitionTask_reads {store : TaskStore ω} {taskId : Int} {newState : String}
    {s s' : MemoryState ω} {returned : Option TaskRecord}
    (ran : store.transitionTask taskId newState s = (.ok returned, s')) :
    store.recordOf s'.tasks taskId = .ok returned := by
  obtain ⟨found, t, -, rest⟩ := Comp.of_bind_ok ran
  cases found with
  | none => cases rest
  | some current =>
    obtain ⟨_, _, -, rest⟩ := Comp.of_bind_ok rest
    obtain ⟨_, _, -, rest⟩ := Comp.of_bind_ok rest
    obtain ⟨_, t, -, rest⟩ := Comp.of_bind_ok rest
    obtain ⟨read, same⟩ := Prod.mk.inj rest
    rw [← same]
    exact read

end TaskStore

/-! ## Vector records -/

namespace VectorMemory

/-- The decision that lets a vector call pass to the storage gate. -/
def TierShiftCleared (memory : VectorMemory ω) (made : List Exchange) : Prop :=
  match memory.memoryBridge with
  | none => memory.enforceMemoryAuthority = false ∧ made = []
  | some bridge => ∃ asked e request goal, made = asked ++ [e] ∧ MemoryPermit bridge request goal e

/-- A vector call stops with the records as they were, or runs its callback
after both gates. -/
theorem vectorGates_cases {α : Type} (memory : VectorMemory ω)
    (currentLifecycleState storageOperation : String) (execute : Comp Exc (MemoryState ω) α)
    (s : MemoryState ω) :
    let run := memory.validateMemoryAndMaybeTransition "VECTOR_TIER_SHIFT" currentLifecycleState
      storageOperation (memory.validateStorageAndMaybeExecute storageOperation "CREATED" execute) s
    (∃ exc w made, Grows s w made ∧ run = (.error exc, { s with wire := w })) ∨
      ∃ w asked made, Grows s w (asked ++ made) ∧ memory.TierShiftCleared asked ∧
        StorageCleared memory.storageBridge memory.enforceStorageAuthority
          (memory.storageRequest storageOperation "CREATED") made ∧
        run = execute { s with wire := w } := by
  intro run
  have finish : ∀ (w : Wire ω) (asked : List Exchange), Grows s w asked →
      memory.TierShiftCleared asked →
      run = memory.validateStorageAndMaybeExecute storageOperation "CREATED" execute
        { s with wire := w } →
      (∃ exc w made, Grows s w made ∧ run = (.error exc, { s with wire := w })) ∨
        ∃ w asked made, Grows s w (asked ++ made) ∧ memory.TierShiftCleared asked ∧
          StorageCleared memory.storageBridge memory.enforceStorageAuthority
            (memory.storageRequest storageOperation "CREATED") made ∧
          run = execute { s with wire := w } := by
    intro w asked grown shift runEq
    obtain ⟨w', made, grown', outcome⟩ := gateStorage_cases memory.host memory.storageBridge
      memory.enforceStorageAuthority (memory.storageRequest storageOperation "CREATED")
      "storage-vector-" execute { s with wire := w }
    have grownBoth : Grows s w' (asked ++ made) := Grows.trans grown grown'
    rcases outcome with ⟨-, exc, raised⟩ | ⟨cleared, executed⟩
    · exact Or.inl ⟨exc, w', asked ++ made, grownBoth, runEq.trans raised⟩
    · exact Or.inr ⟨w', asked, made, grownBoth, shift, cleared, runEq.trans executed⟩
  cases bridged : memory.memoryBridge with
  | none =>
    cases enforce : memory.enforceMemoryAuthority with
    | true =>
      refine Or.inl ⟨⟨.runtimeError, "Memory authority unavailable"⟩, s.wire, [],
        by simp [Grows], ?_⟩
      simp only [run, validateMemoryAndMaybeTransition, bridged, enforce]
      rfl
    | false =>
      refine finish s.wire [] (by simp [Grows]) ?_ ?_
      · simp only [TierShiftCleared, bridged]
        exact ⟨enforce, trivial⟩
      · simp only [run, validateMemoryAndMaybeTransition, bridged, enforce]
        rfl
  | some bridge =>
    have runEq : run = gateMemory memory.host bridge
        (memory.requestStoragePermission storageOperation "CREATED")
        (memory.memoryRequest "VECTOR_TIER_SHIFT" currentLifecycleState) "memory-vector-"
        (fun reason => ⟨.runtimeError,
          "Memory authority denied: " ++ reasonOr (some reason) "MEMORY_DENIED"⟩)
        (memory.validateStorageAndMaybeExecute storageOperation "CREATED" execute) s := by
      simp only [run, validateMemoryAndMaybeTransition, bridged]
    obtain ⟨w, made, grown, ⟨exc, raised⟩ | ⟨flag, asked, e, goal, split, -, permit, ran⟩⟩ :=
      gateMemory_cases memory.host bridge _ _ "memory-vector-" _ _ s
        (fun flag asked => flag = true → PermissionGranted memory.storageBridge
          memory.enforceStorageAuthority (memory.storageRequest storageOperation "CREATED") asked)
        (storagePermission_cases memory.host memory.storageBridge memory.enforceStorageAuthority
          (memory.storageRequest storageOperation "CREATED") "storage-vector-preflight-" s)
    · exact Or.inl ⟨exc, w, made, grown, runEq.trans raised⟩
    · refine finish w made grown ?_ (runEq.trans ran)
      simp only [TierShiftCleared, bridged]
      exact ⟨asked, e, _, goal, split, permit⟩

/-- Outcome of `upsert` and `delete`. -/
inductive VectorOutcome (memory : VectorMemory ω) (s : MemoryState ω) {α : Type} :
    Except Exc α × MemoryState ω → Prop
  | stopped (exc : Exc) (w : Wire ω) (made : List Exchange) (grown : Grows s w made) :
      VectorOutcome memory s (.error exc, { s with wire := w })
  | wrote (result : α) (records : List (String × VectorRecord)) (w : Wire ω)
      (operation : String) (asked made : List Exchange) (grown : Grows s w (asked ++ made))
      (shift : memory.TierShiftCleared asked)
      (cleared : StorageCleared memory.storageBridge memory.enforceStorageAuthority
        (memory.storageRequest operation "CREATED") made) :
      VectorOutcome memory s (.ok result, { s with records, wire := w })

/-- Everything an upsert can do. -/
theorem upsert_outcome (memory : VectorMemory ω) (vectorId : String) (embedding : List Value)
    (metadata : List (String × String)) (s : MemoryState ω) :
    VectorOutcome memory s (memory.upsert vectorId embedding metadata s) := by
  unfold upsert
  cases embedding.mapM (Python.float memory.py) with
  | error exc => exact .stopped exc s.wire [] (by simp [Grows])
  | ok embedding =>
    rw [Comp.ofExcept_ok_bind]
    rcases memory.vectorGates_cases "ACTIVE" "VECTOR_WRITE" (write ⟨vectorId, embedding, metadata⟩) s
      with ⟨exc, w, made, grown, raised⟩ | ⟨w, asked, made, grown, shift, cleared, ran⟩
    · rw [raised]
      exact .stopped exc w made grown
    · rw [ran]
      exact .wrote _ _ w "VECTOR_WRITE" asked made grown shift cleared

theorem delete_outcome (memory : VectorMemory ω) (vectorId : String) (s : MemoryState ω) :
    VectorOutcome memory s (memory.delete vectorId s) := by
  unfold delete
  rcases memory.vectorGates_cases "DORMANT" "VECTOR_DELETE" (remove vectorId) s
    with ⟨exc, w, made, grown, raised⟩ | ⟨w, asked, made, grown, shift, cleared, ran⟩
  · rw [raised]
    exact .stopped exc w made grown
  · rw [ran]
    exact .wrote _ _ w "VECTOR_DELETE" asked made grown shift cleared

end VectorMemory

end Apcos.Source.Memory
