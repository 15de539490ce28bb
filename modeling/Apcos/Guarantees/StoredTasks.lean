import Apcos.Lib.Traverse
import Apcos.Source.Memory.Calls

/-!
# Stored tasks

core/memory/task_store.py without bridges. Rows hold their texts encrypted, and every call
keeps them readable; so a read gives back what a creation was handed, an update replaces the
fields it names and no others, and the list is the table read from its newest row. What a
text argument becomes differs between the two writes: a creation stores nothing for an empty
description, an update stores the empty text.
-/
namespace Apcos.Guarantees.StoredTasks

open Apcos.Lib
open Apcos.Source.Python (Value Exc strip)
open Apcos.Source.Bridge (Wire)
open Apcos.Source.Memory
open Apcos.Source.Memory.TaskStore (TaskChanges TaskFields updatedFields)

variable {ω : Type} {store : TaskStore ω} {s : MemoryState ω}

/-- No bridge; with enforcement such a store refuses every write. -/
structure Bridgeless (store : TaskStore ω) : Prop where
  storageBridge : store.storageBridge = none
  memoryBridgeArgument : store.memoryBridgeArgument = none

/-- A row as the store writes it. -/
structure SoundRow (store : TaskStore ω) (row : TaskRow) : Prop where
  id : bindInteger row.id = .ok row.id
  priority : bindInteger row.priority = .ok row.priority
  title : ∃ title, row.titleEnc = store.encryption.encrypt title ∧ title ≠ ""
  description : ∃ text, row.descriptionEnc = store.encryption.encryptOption text
  goal : ∃ text, row.goalEnc = store.encryption.encryptOption text

def Sound (store : TaskStore ω) (tasks : TaskTable) : Prop :=
  ∀ row ∈ tasks.rows, SoundRow store row

theorem rowToRecord_sound {row : TaskRow} (sound : SoundRow store row) :
    ∃ record, store.rowToRecord row = .ok record ∧ record.title ≠ "" := by
  obtain ⟨title, titleEnc, visible⟩ := sound.title
  obtain ⟨description, descriptionEnc⟩ := sound.description
  obtain ⟨goal, goalEnc⟩ := sound.goal
  refine ⟨_, store.rowToRecord_of row title description goal ?_ ?_ ?_, visible⟩
  · rw [titleEnc, store.encryption.decrypt_encrypt]
  · rw [descriptionEnc, store.encryption.decryptOption_encryptOption]
  · rw [goalEnc, store.encryption.decryptOption_encryptOption]

/-! ## Creation -/

/-- An optional text as a call argument. -/
def textValue : Option String → Value
  | none => .null
  | some text => .str text

/-- What a creation stores of an optional text. -/
def kept : Option String → Option String
  | none => none
  | some text => if text = "" then none else some (strip text)

theorem encryptStripped_text (store : TaskStore ω) (text : Option String) :
    store.encryptStripped (textValue text) = .ok (store.encryption.encryptOption (kept text)) := by
  cases text with
  | none => rfl
  | some text =>
    by_cases empty : text = ""
    · subst empty
      rfl
    · have truthy : (Value.str text).truthy = true := by simp [Value.truthy, empty]
      simp [TaskStore.encryptStripped, textValue, truthy, kept, empty,
        EncryptionLayer.encryptOption]

/-- The row that a creation inserts, without its id. -/
def createdRow (store : TaskStore ω) (title : String) (descriptionEnc goalEnc dueAt : Option String)
    (priority : Int) (timestamp : String) : TaskRow where
  id := 0
  titleEnc := store.encryption.encrypt title
  descriptionEnc := descriptionEnc
  goalEnc := goalEnc
  dueAt := dueAt
  priority := priority
  state := .created
  createdAt := timestamp
  updatedAt := timestamp
  archivedAt := none

/-- Everything a creation can do: refuse for one of these reasons, or insert this row. -/
inductive Created (store : TaskStore ω) (title : String) (description goal : Value)
    (dueAt : Option String) (priority : Int) (s : MemoryState ω) :
    Except Exc (Option TaskRecord) × MemoryState ω → Prop
  | refused (exc : Exc) (w : Wire ω)
      (reason : strip title = "" ∨ store.enforceStorageAuthority = true ∨
        (∃ e, store.encryptStripped description = .error e) ∨
        (∃ e, store.encryptStripped goal = .error e) ∨ (∃ e, bindInteger priority = .error e) ∨
        maxRowId ≤ s.tasks.sequence) :
      Created store title description goal dueAt priority s (.error exc, { s with wire := w })
  | stored (descriptionEnc goalEnc : Option String) (timestamp : String) (id : Int)
      (after : TaskTable) (w : Wire ω) (visible : strip title ≠ "")
      (unenforced : store.enforceStorageAuthority = false)
      (hDescription : store.encryptStripped description = .ok descriptionEnc)
      (hGoal : store.encryptStripped goal = .ok goalEnc)
      (hPriority : bindInteger priority = .ok priority)
      (insertion : s.tasks.insert (createdRow store (strip title) descriptionEnc goalEnc dueAt
        priority timestamp) = some (id, after)) :
      Created store title description goal dueAt priority s
        (store.recordOf after id, { s with tasks := after, wire := w })

theorem gate_eq (bridgeless : Bridgeless store) {α : Type} (operation lifecycleState : String)
    (execute : Comp Exc (MemoryState ω) α) :
    store.validateStorageAndMaybeExecute operation lifecycleState execute =
      if store.enforceStorageAuthority then
        Comp.raise ⟨.runtimeError, "Storage authority unavailable"⟩
      else execute := by
  simp only [TaskStore.validateStorageAndMaybeExecute, gateStorage, bridgeless.storageBridge]

theorem storageGate_open (bridgeless : Bridgeless store)
    (optional : store.enforceStorageAuthority = false) {α : Type} (operation lifecycleState : String)
    (execute : Comp Exc (MemoryState ω) α) :
    store.validateStorageAndMaybeExecute operation lifecycleState execute = execute := by
  rw [gate_eq bridgeless, optional]
  rfl

theorem insert_full {tasks : TaskTable} {row : TaskRow} (full : tasks.insert row = none) :
    maxRowId ≤ tasks.sequence := by
  simp only [TaskTable.insert] at full
  split at full
  · cases full
  · omega

theorem insert_room {tasks after : TaskTable} {row : TaskRow} {id : Int}
    (inserted : tasks.insert row = some (id, after)) : tasks.sequence < maxRowId := by
  simp only [TaskTable.insert] at inserted
  split at inserted
  · assumption
  · cases inserted

/-- The insert raises for a value it cannot encrypt or bind or for want of an id, or stores the row.
-/
theorem createTaskRow_stored (title : String) (description goal : Value) (dueAt : Option String)
    (priority : Int) (timestamp : String) (s : MemoryState ω) :
    (∃ exc, store.createTaskRow title description goal dueAt priority timestamp s =
        (.error exc, s) ∧
      ((∃ e, store.encryptStripped description = .error e) ∨
        (∃ e, store.encryptStripped goal = .error e) ∨ (∃ e, bindInteger priority = .error e) ∨
        maxRowId ≤ s.tasks.sequence)) ∨
      ∃ descriptionEnc goalEnc id after, store.encryptStripped description = .ok descriptionEnc ∧
        store.encryptStripped goal = .ok goalEnc ∧ bindInteger priority = .ok priority ∧
        s.tasks.insert (createdRow store title descriptionEnc goalEnc dueAt priority timestamp) =
          some (id, after) ∧
        store.createTaskRow title description goal dueAt priority timestamp s =
          (.ok id, { s with tasks := after }) := by
  unfold TaskStore.createTaskRow
  cases hd : store.encryptStripped description with
  | error exc => exact Or.inl ⟨exc, rfl, Or.inl ⟨exc, rfl⟩⟩
  | ok descriptionEnc =>
    cases hg : store.encryptStripped goal with
    | error exc => exact Or.inl ⟨exc, rfl, Or.inr (Or.inl ⟨exc, rfl⟩)⟩
    | ok goalEnc =>
      cases hp : bindInteger priority with
      | error exc => exact Or.inl ⟨exc, rfl, Or.inr (Or.inr (Or.inl ⟨exc, rfl⟩))⟩
      | ok bound =>
        obtain ⟨rfl, -⟩ := TaskStore.bindInteger_eq hp
        cases hi : s.tasks.insert (createdRow store title descriptionEnc goalEnc dueAt bound
            timestamp) with
        | none =>
          refine Or.inl ⟨⟨.sqliteError, "database or disk is full"⟩, ?_,
            Or.inr (Or.inr (Or.inr (insert_full hi)))⟩
          unfold createdRow at hi
          simp only [Comp.ofExcept_ok_bind, Comp.get_bind]
          rw [hi]
          rfl
        | some inserted =>
          obtain ⟨id, after⟩ := inserted
          refine Or.inr ⟨descriptionEnc, goalEnc, id, after, rfl, rfl, rfl, hi, ?_⟩
          unfold createdRow at hi
          simp only [Comp.ofExcept_ok_bind, Comp.get_bind]
          rw [hi]
          rfl

/-- Everything `create_task` does without bridges. -/
theorem createTask_created (bridgeless : Bridgeless store) (title : String)
    (description goal : Value) (dueAt : Option String) (priority : Int) (s : MemoryState ω) :
    Created store title description goal dueAt priority s
      (store.createTask title description dueAt goal priority s) := by
  unfold TaskStore.createTask
  by_cases blank : strip title = ""
  · rw [if_pos blank]
    exact .refused _ s.wire (Or.inl blank)
  · rw [if_neg blank, Comp.bind_of_ok (store.utcNowIso_eq s), gate_eq bridgeless]
    cases enforced : store.enforceStorageAuthority with
    | true => exact .refused _ _ (Or.inr (Or.inl enforced))
    | false =>
      rw [if_neg (by simp)]
      rcases createTaskRow_stored (strip title) description goal dueAt priority
        (store.host.datetimeNow s.wire.env).1.isoformat
        { s with wire := ⟨(store.host.datetimeNow s.wire.env).2, s.wire.exchanges⟩ } with
        ⟨exc, raised, reason⟩ |
          ⟨descriptionEnc, goalEnc, id, after, hDescription, hGoal, hPriority, insertion, inserted⟩
      · rw [Comp.bind_of_error raised]
        exact .refused exc _ (Or.inr (Or.inr reason))
      · rw [Comp.bind_of_ok inserted]
        exact .stored descriptionEnc goalEnc _ id after _ blank enforced hDescription hGoal
          hPriority insertion

/-! ## Update -/

/-- What an update writes is the current record with the named fields replaced. -/
structure Replaces (changes : TaskChanges) (before after : TaskRecord) : Prop where
  title : after.title = (changes.title.map strip).getD before.title
  description : after.description =
    match changes.description with
    | some text => some (strip text)
    | none => before.description
  goal : after.goal =
    match changes.goal with
    | some text => some (strip text)
    | none => before.goal
  dueAt : after.dueAt =
    match changes.dueAt with
    | some dueAt => some dueAt
    | none => before.dueAt
  priority : after.priority = changes.priority.getD before.priority
  taskId : after.taskId = before.taskId
  state : after.state = before.state
  createdAt : after.createdAt = before.createdAt
  archivedAt : after.archivedAt = before.archivedAt

/-- Everything an update can do: refuse for one of these reasons, or write these columns. -/
inductive Updated (store : TaskStore ω) (taskId : Int) (changes : TaskChanges)
    (s : MemoryState ω) : Except Exc (Option TaskRecord) × MemoryState ω → Prop
  | refused (exc : Exc) (w : Wire ω)
      (reason : s.tasks.find taskId = none ∨
        (∃ title, changes.title = some title ∧ strip title = "") ∨
        store.enforceStorageAuthority = true ∨
        ∃ priority e, changes.priority = some priority ∧ bindInteger priority = .error e) :
      Updated store taskId changes s (.error exc, { s with wire := w })
  | stored (row : TaskRow) (before after : TaskRecord) (now : String) (w : Wire ω)
      (found : s.tasks.find taskId = some row) (read : store.rowToRecord row = .ok before)
      (visible : (updatedFields changes before).title ≠ "")
      (unenforced : store.enforceStorageAuthority = false)
      (bound : bindInteger (updatedFields changes before).priority =
        .ok (updatedFields changes before).priority)
      (replaces : Replaces changes before after)
      (readBack : store.recordOf
        (store.writeFields s.tasks taskId (updatedFields changes before) now) taskId =
          .ok (some after)) :
      Updated store taskId changes s (.ok (some after),
        { s with
          tasks := store.writeFields s.tasks taskId (updatedFields changes before) now
          wire := w })

/-- A written row reads as the written fields, over the row's other columns. -/
theorem setFields_read (fields : TaskFields) (now : String) (row : TaskRow) :
    store.rowToRecord (store.setFields fields now row) =
      .ok ⟨row.id, fields.title, fields.description, fields.goal, fields.dueAt, fields.priority,
        row.state, row.createdAt, now, row.archivedAt⟩ :=
  store.rowToRecord_of _ fields.title fields.description fields.goal
    (store.encryption.decrypt_encrypt _) (store.encryption.decryptOption_encryptOption _)
    (store.encryption.decryptOption_encryptOption _)

theorem replaces_updated (changes : TaskChanges) {row : TaskRow} {before : TaskRecord}
    (read : store.rowToRecord row = .ok before) (now : String) :
    Replaces changes before ⟨row.id, (updatedFields changes before).title,
      (updatedFields changes before).description, (updatedFields changes before).goal,
      (updatedFields changes before).dueAt, (updatedFields changes before).priority, row.state,
      row.createdAt, now, row.archivedAt⟩ := by
  obtain ⟨-, -, -, same⟩ := store.rowToRecord_fields row before read
  refine ⟨rfl, ?_, ?_, ?_, rfl, ?_, ?_, ?_, ?_⟩
  · simp only [updatedFields]
    cases changes.description <;> rfl
  · simp only [updatedFields]
    cases changes.goal <;> rfl
  · simp only [updatedFields]
    cases changes.dueAt <;> rfl
  · rw [same]
  · rw [same]
  · rw [same]
  · rw [same]

theorem updateTaskRow_error (taskId : Int) {fields : TaskFields} {e : Exc}
    (raised : bindInteger fields.priority = .error e) :
    store.updateTaskRow taskId fields s =
      (.error e, { s with
        wire := ⟨(store.host.datetimeNow s.wire.env).2, s.wire.exchanges⟩ }) := by
  unfold TaskStore.updateTaskRow
  rw [Comp.bind_of_ok (store.utcNowIso_eq s), raised]
  rfl

theorem updateTaskRow_stored {taskId : Int} {fields : TaskFields} {priority : Int}
    (bound : bindInteger taskId = .ok taskId) (fits : bindInteger fields.priority = .ok priority) :
    store.updateTaskRow taskId fields s =
      (.ok (), { s with
        tasks := store.writeFields s.tasks taskId fields
          (store.host.datetimeNow s.wire.env).1.isoformat
        wire := ⟨(store.host.datetimeNow s.wire.env).2, s.wire.exchanges⟩ }) := by
  unfold TaskStore.updateTaskRow
  rw [Comp.bind_of_ok (store.utcNowIso_eq s), fits, bound]
  rfl

/-- Everything `update_task` does without bridges. -/
theorem updateTask_updated (bridgeless : Bridgeless store) (sound : Sound store s.tasks)
    (taskId : Int) (changes : TaskChanges) :
    Updated store taskId changes s (store.updateTask taskId changes s) := by
  unfold TaskStore.updateTask
  cases found : s.tasks.find taskId with
  | none =>
    have unread : ∃ answer, store.getTask taskId s = (answer, s) ∧
        ∀ record, answer ≠ .ok (some record) := by
      refine ⟨_, rfl, ?_⟩
      intro record read
      obtain ⟨-, row, present, -⟩ := TaskStore.recordOf_some read
      cases found.symm.trans present
    obtain ⟨answer, read, none_⟩ := unread
    cases answer with
    | error exc =>
      rw [Comp.bind_of_error read]
      exact .refused exc s.wire (Or.inl found)
    | ok result =>
      cases result with
      | none =>
        rw [Comp.bind_of_ok read]
        exact .refused _ s.wire (Or.inl found)
      | some record => exact absurd rfl (none_ record)
  | some row =>
    have soundRow := sound row (TaskTable.find_mem found)
    obtain ⟨before, decrypted, named⟩ := rowToRecord_sound soundRow
    obtain ⟨-, -, -, same⟩ := store.rowToRecord_fields row before decrypted
    have bound : bindInteger taskId = .ok taskId := TaskTable.find_id found ▸ soundRow.id
    have read : store.getTask taskId s = (.ok (some before), s) := by
      rw [TaskStore.getTask, TaskStore.recordOf_of_find bound found decrypted]
    rw [Comp.bind_of_ok read]
    dsimp only
    by_cases blank : (updatedFields changes before).title = ""
    · rw [if_pos blank]
      refine .refused _ s.wire (Or.inr (Or.inl ?_))
      cases given : changes.title with
      | none =>
        simp only [updatedFields, given, Option.map_none, Option.getD_none] at blank
        exact absurd blank named
      | some title =>
        simp only [updatedFields, given, Option.map_some, Option.getD_some] at blank
        exact ⟨title, rfl, blank⟩
    · rw [if_neg blank, gate_eq bridgeless]
      cases enforced : store.enforceStorageAuthority with
      | true => exact .refused _ s.wire (Or.inr (Or.inr (Or.inl enforced)))
      | false =>
        rw [if_neg (by simp)]
        cases hp : bindInteger (updatedFields changes before).priority with
        | error e =>
          rw [Comp.bind_of_error (updateTaskRow_error taskId hp)]
          refine .refused e _ (Or.inr (Or.inr (Or.inr ?_)))
          cases given : changes.priority with
          | none =>
            rw [updatedFields, given, Option.getD_none, same] at hp
            cases soundRow.priority.symm.trans hp
          | some priority =>
            rw [updatedFields, given, Option.getD_some] at hp
            exact ⟨priority, e, rfl, hp⟩
        | ok priority =>
          obtain ⟨rfl, -⟩ := TaskStore.bindInteger_eq hp
          rw [Comp.bind_of_ok (updateTaskRow_stored bound hp)]
          have present := store.find_writeFields s.tasks taskId (updatedFields changes before)
            (store.host.datetimeNow s.wire.env).1.isoformat taskId
          rw [if_pos rfl, found, Option.map_some] at present
          have readBack := TaskStore.recordOf_of_find bound present
            (setFields_read (updatedFields changes before) _ row)
          simp only [TaskStore.getTask, readBack]
          exact .stored row before _ _ _ found decrypted blank enforced hp
            (replaces_updated changes decrypted _) readBack

/-! ## The list -/

/-- The rows that `list_tasks` reads, newest first. -/
def listedRows (tasks : TaskTable) (includeArchived : Bool) : List TaskRow :=
  (if includeArchived then tasks.rows
    else tasks.rows.filter fun row => row.state != .archived).reverse

theorem mem_listedRows {tasks : TaskTable} {includeArchived : Bool} {row : TaskRow} :
    row ∈ listedRows tasks includeArchived ↔
      row ∈ tasks.rows ∧ (includeArchived = true ∨ row.state ≠ .archived) := by
  cases includeArchived <;> simp [listedRows]

theorem listedRows_descending (tasks : TaskTable) (includeArchived : Bool) :
    (listedRows tasks includeArchived).Pairwise fun a b => b.id < a.id := by
  refine List.pairwise_reverse.mpr ?_
  split
  · exact tasks.increasing
  · exact tasks.increasing.sublist List.filter_sublist

theorem listTasks_read (sound : Sound store s.tasks) (includeArchived : Bool) :
    ∃ records, store.listTasks includeArchived s = (.ok records, s) ∧
      (listedRows s.tasks includeArchived).mapM store.rowToRecord = .ok records := by
  have each : ∀ row ∈ listedRows s.tasks includeArchived,
      ∃ record, store.rowToRecord row = .ok record := by
    intro row member
    obtain ⟨record, read, -⟩ := rowToRecord_sound (sound row (mem_listedRows.mp member).1)
    exact ⟨record, read⟩
  obtain ⟨records, scanned⟩ := mapM_ok_of_forall each
  exact ⟨records, congrArg (·, s) scanned, scanned⟩

theorem columns_of_read {row : TaskRow} {record : TaskRecord}
    (read : store.rowToRecord row = .ok record) :
    record.taskId = row.id ∧ record.state = row.state := by
  obtain ⟨-, -, -, same⟩ := store.rowToRecord_fields row record read
  rw [same]
  exact ⟨rfl, rfl⟩

theorem listed_descending {rows : List TaskRow} {records : List TaskRecord}
    (scanned : rows.mapM store.rowToRecord = .ok records)
    (descending : rows.Pairwise fun a b => b.id < a.id) :
    records.Pairwise fun a b => b.taskId < a.taskId := by
  have ids : records.map (·.taskId) = rows.map (·.id) := by
    have pointwise := mapM_ok_iff.mp scanned
    clear scanned descending
    induction pointwise with
    | nil => rfl
    | cons here later ih => rw [List.map_cons, List.map_cons, (columns_of_read here).1, ih]
  have sorted : (rows.map (·.id)).Pairwise fun a b => b < a := List.pairwise_map.mpr descending
  rw [← ids] at sorted
  exact List.pairwise_map.mp sorted

/-- What is listed is what `get_task` reads under its id. -/
theorem mem_listed {includeArchived : Bool} {records : List TaskRecord}
    (sound : Sound store s.tasks)
    (scanned : (listedRows s.tasks includeArchived).mapM store.rowToRecord = .ok records)
    (record : TaskRecord) :
    record ∈ records ↔ store.getTask record.taskId s = (.ok (some record), s) ∧
      (includeArchived = true ∨ record.state ≠ .archived) := by
  constructor
  · intro member
    obtain ⟨row, among, read⟩ := mem_of_mapM scanned member
    obtain ⟨stored, live⟩ := mem_listedRows.mp among
    obtain ⟨taskId, state⟩ := columns_of_read read
    rw [TaskStore.getTask, taskId, state, TaskStore.recordOf_of_find (sound row stored).id
      (TaskTable.find_of_mem stored) read]
    exact ⟨rfl, live⟩
  · rintro ⟨got, live⟩
    obtain ⟨-, row, found, read⟩ := TaskStore.recordOf_some (congrArg Prod.fst got)
    rw [(columns_of_read read).2] at live
    exact mem_mapM scanned (mem_listedRows.mpr ⟨TaskTable.find_mem found, live⟩) read

/-! ## What every call keeps -/

theorem encryptStripped_form {v : Value} {enc : Option String}
    (encrypted : store.encryptStripped v = .ok enc) :
    ∃ text, enc = store.encryption.encryptOption text := by
  unfold TaskStore.encryptStripped at encrypted
  split at encrypted
  · cases encrypted
    exact ⟨none, rfl⟩
  · cases v with
    | str text =>
      cases encrypted
      exact ⟨some (strip text), rfl⟩
    | _ => cases encrypted

theorem sound_insert {after : TaskTable} {row : TaskRow} {id : Int}
    (sound : Sound store s.tasks) (insertion : s.tasks.insert row = some (id, after))
    (new : bindInteger id = .ok id → SoundRow store { row with id }) : Sound store after := by
  intro other member
  obtain ⟨-, rows, -⟩ := TaskTable.insert_eq insertion
  rw [rows] at member
  rcases List.mem_append.mp member with old | last
  · exact sound other old
  · rw [List.mem_singleton.mp last]
    exact new (TaskTable.bindInteger_inserted insertion)

theorem sound_update {tasks : TaskTable} (sound : Sound store tasks) (id : Int)
    (set : TaskRow → TaskRow) (keepsId : ∀ row, (set row).id = row.id)
    (kept : ∀ row, SoundRow store row → SoundRow store (set row)) :
    Sound store (tasks.update id set keepsId) := by
  intro other member
  obtain ⟨row, old, rfl⟩ := List.mem_map.mp member
  split
  · exact kept row (sound row old)
  · exact sound row old

theorem createTask_sound (bridgeless : Bridgeless store) (sound : Sound store s.tasks)
    (title : String) (description goal : Value) (dueAt : Option String) (priority : Int) :
    Sound store (store.createTask title description dueAt goal priority s).2.tasks := by
  have outcome := createTask_created bridgeless title description goal dueAt priority s
  rcases ran : store.createTask title description dueAt goal priority s with ⟨answer, s'⟩
  rw [ran] at outcome
  cases outcome with
  | refused exc w reason => exact sound
  | stored descriptionEnc goalEnc timestamp id after w visible unenforced hDescription hGoal
      hPriority insertion =>
    refine sound_insert sound insertion fun bound => ?_
    exact ⟨bound, hPriority, ⟨strip title, rfl, visible⟩, encryptStripped_form hDescription,
      encryptStripped_form hGoal⟩

theorem updateTask_sound (bridgeless : Bridgeless store) (sound : Sound store s.tasks)
    (taskId : Int) (changes : TaskChanges) :
    Sound store (store.updateTask taskId changes s).2.tasks := by
  have outcome := updateTask_updated bridgeless sound taskId changes
  rcases ran : store.updateTask taskId changes s with ⟨answer, s'⟩
  rw [ran] at outcome
  cases outcome with
  | refused exc w reason => exact sound
  | stored row before after now w found read visible unenforced bound replaces readBack =>
    refine sound_update sound taskId (store.setFields (updatedFields changes before) now)
      (fun _ => rfl) fun row old => ?_
    exact ⟨old.id, bound, ⟨_, rfl, visible⟩, ⟨_, rfl⟩, ⟨_, rfl⟩⟩

/-- Without bridges every call keeps the rows readable. -/
theorem sound_step {modules : MemoryModules ω} (bridgeless : Bridgeless modules.store)
    (s : MemoryState ω) (call : MemoryCall) (sound : Sound modules.store s.tasks) :
    Sound modules.store (callStep modules s call).tasks := by
  have outcome := perform_outcome modules s call
  rcases ran : perform modules call s with ⟨answer, s'⟩
  rw [callStep, ran]
  rw [ran] at outcome
  cases outcome with
  | stopped exc w made grown => exact sound
  | inserted title description dueAt goal priority row id after w made grown cleared initial
      unarchived insertion =>
    have kept := createTask_sound bridgeless sound title description goal dueAt priority
    have state := congrArg Prod.snd ran
    exact (congrArg MemoryState.tasks state) ▸ kept
  | updated taskId changes row fields now w made grown found cleared =>
    have kept := updateTask_sound bridgeless sound taskId changes
    have state := congrArg Prod.snd ran
    exact (congrArg MemoryState.tasks state) ▸ kept
  | recorded call taskId newState row destination changedAtUtc exc w asked made grown requested
      found named allowed blocked => exact sound
  | committed call taskId newState row destination changedAtUtc now w asked made grown requested
      found named allowed cleared =>
    refine sound_update sound taskId (TaskStore.setState destination now _) (fun _ => rfl)
      fun row old => ?_
    exact ⟨old.id, old.priority, old.title, old.description, old.goal⟩
  | wrote call vectorId target records w operation asked made grown shift cleared => exact sound

theorem sound_run {modules : MemoryModules ω} (bridgeless : Bridgeless modules.store) (env : ω)
    (calls : List MemoryCall) :
    Sound modules.store (run (callStep modules) (.initial env) calls).tasks :=
  run_invariant (fun s call sound => sound_step bridgeless s call sound) (.initial env)
    (fun _ member => absurd member List.not_mem_nil) calls

/-! ## Reads after writes -/

/-- What a statement parameter can bind. -/
def Fits (n : Int) : Prop := -(2 ^ 63) ≤ n ∧ n < 2 ^ 63

theorem bindInteger_fits {n : Int} (fits : Fits n) : bindInteger n = .ok n := if_pos fits

/-- The record of a creation with these arguments. -/
structure Holds (title : String) (description goal dueAt : Option String) (priority : Int)
    (record : TaskRecord) : Prop where
  title : record.title = strip title
  description : record.description = kept description
  goal : record.goal = kept goal
  dueAt : record.dueAt = dueAt
  priority : record.priority = priority

/-- Creations, updates and lists of a store in a state. -/
structure ReadsBack (store : TaskStore ω) (s : MemoryState ω) : Prop where
  known : ∀ taskId, s.tasks.find taskId ≠ none →
    ∃ record, store.getTask taskId s = (.ok (some record), s)
  /-- While writes are not enforced and ids are left, a creation is read back. -/
  created : ∀ (title : String) (description goal dueAt : Option String) (priority : Int),
    Fits priority → strip title ≠ "" → store.enforceStorageAuthority = false →
    s.tasks.sequence < maxRowId →
    ∃ record s', store.createTask title (textValue description) dueAt (textValue goal) priority s =
        (.ok (some record), s') ∧
      store.getTask record.taskId s' = (.ok (some record), s') ∧
      Holds title description goal dueAt priority record ∧
      ∀ id, id ≠ record.taskId → s'.tasks.find id = s.tasks.find id
  notCreated : ∀ (title : String) (description goal dueAt : Option String) (priority : Int),
    strip title = "" ∨ store.enforceStorageAuthority = true ∨ maxRowId ≤ s.tasks.sequence →
    ∃ exc w, store.createTask title (textValue description) dueAt (textValue goal) priority s =
      (.error exc, { s with wire := w })
  /-- An update replaces the named fields of one row. -/
  updated : ∀ (taskId : Int) (changes : TaskChanges) (before : TaskRecord),
    store.getTask taskId s = (.ok (some before), s) →
    (∀ title, changes.title = some title → strip title ≠ "") →
    (∀ priority, changes.priority = some priority → Fits priority) →
    store.enforceStorageAuthority = false →
    ∃ after s', store.updateTask taskId changes s = (.ok (some after), s') ∧
      store.getTask taskId s' = (.ok (some after), s') ∧ Replaces changes before after ∧
      ∀ id, id ≠ taskId → s'.tasks.find id = s.tasks.find id
  notUpdated : ∀ (taskId : Int) (changes : TaskChanges),
    s.tasks.find taskId = none ∨ (∃ title, changes.title = some title ∧ strip title = "") ∨
      store.enforceStorageAuthority = true →
    ∃ exc w, store.updateTask taskId changes s = (.error exc, { s with wire := w })
  /-- The list has the records of the table, newest first. -/
  listed : ∀ includeArchived, ∃ records,
    store.listTasks includeArchived s = (.ok records, s) ∧
      (records.Pairwise fun a b => b.taskId < a.taskId) ∧
      ∀ record, record ∈ records ↔ store.getTask record.taskId s = (.ok (some record), s) ∧
        (includeArchived = true ∨ record.state ≠ .archived)

theorem known_read (sound : Sound store s.tasks) (taskId : Int)
    (known : s.tasks.find taskId ≠ none) :
    ∃ record, store.getTask taskId s = (.ok (some record), s) := by
  obtain ⟨row, found⟩ := Option.ne_none_iff_exists'.mp known
  have soundRow := sound row (TaskTable.find_mem found)
  obtain ⟨record, read, -⟩ := rowToRecord_sound soundRow
  have bound : bindInteger taskId = .ok taskId := TaskTable.find_id found ▸ soundRow.id
  exact ⟨record, congrArg (·, s) (TaskStore.recordOf_of_find bound found read)⟩

/-- A task that is created is read back as it was given. -/
theorem created_readBack (bridgeless : Bridgeless store) (title : String)
    (description goal dueAt : Option String) {priority : Int} (fits : Fits priority)
    (visible : strip title ≠ "") (unenforced : store.enforceStorageAuthority = false)
    (room : s.tasks.sequence < maxRowId) :
    ∃ record s', store.createTask title (textValue description) dueAt (textValue goal) priority s =
        (.ok (some record), s') ∧
      store.getTask record.taskId s' = (.ok (some record), s') ∧
      Holds title description goal dueAt priority record ∧
      ∀ id, id ≠ record.taskId → s'.tasks.find id = s.tasks.find id := by
  have outcome := createTask_created bridgeless title (textValue description) (textValue goal) dueAt
    priority s
  rcases ran : store.createTask title (textValue description) dueAt (textValue goal) priority s with
    ⟨answer, s'⟩
  rw [ran] at outcome
  cases outcome with
  | refused exc w reason =>
    rw [encryptStripped_text, encryptStripped_text, bindInteger_fits fits, unenforced] at reason
    rcases reason with blank | enforced | ⟨e, raised⟩ | ⟨e, raised⟩ | ⟨e, raised⟩ | full
    · exact absurd blank visible
    · cases enforced
    · cases raised
    · cases raised
    · cases raised
    · omega
  | stored descriptionEnc goalEnc timestamp id after w _ _ hDescription hGoal hPriority
      insertion =>
    rw [encryptStripped_text] at hDescription hGoal
    cases hDescription
    cases hGoal
    have found := TaskTable.find_insert insertion id
    rw [if_pos rfl] at found
    have decrypted := store.rowToRecord_of
      { createdRow store (strip title) (store.encryption.encryptOption (kept description))
          (store.encryption.encryptOption (kept goal)) dueAt priority timestamp with id }
      (strip title) (kept description) (kept goal) (store.encryption.decrypt_encrypt _)
      (store.encryption.decryptOption_encryptOption _)
      (store.encryption.decryptOption_encryptOption _)
    have bound := TaskTable.bindInteger_inserted insertion
    have read := TaskStore.recordOf_of_find bound found decrypted
    refine ⟨_, _, congrArg (·, _) read, congrArg (·, _) read, ⟨rfl, rfl, rfl, rfl, rfl⟩, ?_⟩
    intro other different
    exact (TaskTable.find_insert insertion other).trans (if_neg different)

theorem not_created (bridgeless : Bridgeless store) (title : String)
    (description goal dueAt : Option String) (priority : Int)
    (reason : strip title = "" ∨ store.enforceStorageAuthority = true ∨
      maxRowId ≤ s.tasks.sequence) :
    ∃ exc w, store.createTask title (textValue description) dueAt (textValue goal) priority s =
      (.error exc, { s with wire := w }) := by
  have outcome := createTask_created bridgeless title (textValue description) (textValue goal) dueAt
    priority s
  rcases ran : store.createTask title (textValue description) dueAt (textValue goal) priority s with
    ⟨answer, s'⟩
  rw [ran] at outcome
  cases outcome with
  | refused exc w _ => exact ⟨exc, w, rfl⟩
  | stored descriptionEnc goalEnc timestamp id after w visible unenforced _ _ _ insertion =>
    rcases reason with blank | enforced | full
    · exact absurd blank visible
    · cases unenforced.symm.trans enforced
    · exact absurd (insert_room insertion) (Nat.not_lt.mpr full)

/-- An update is read back, and the fields it leaves out as they were. -/
theorem updated_readBack (bridgeless : Bridgeless store) (sound : Sound store s.tasks)
    {taskId : Int} {changes : TaskChanges} {before : TaskRecord}
    (got : store.getTask taskId s = (.ok (some before), s))
    (visible : ∀ title, changes.title = some title → strip title ≠ "")
    (fits : ∀ priority, changes.priority = some priority → Fits priority)
    (unenforced : store.enforceStorageAuthority = false) :
    ∃ after s', store.updateTask taskId changes s = (.ok (some after), s') ∧
      store.getTask taskId s' = (.ok (some after), s') ∧ Replaces changes before after ∧
      ∀ id, id ≠ taskId → s'.tasks.find id = s.tasks.find id := by
  have outcome := updateTask_updated bridgeless sound taskId changes
  obtain ⟨-, row, present, decrypted⟩ := TaskStore.recordOf_some (congrArg Prod.fst got)
  rcases ran : store.updateTask taskId changes s with ⟨answer, s'⟩
  rw [ran] at outcome
  cases outcome with
  | refused exc w reason =>
    rcases reason with absent | ⟨title, given, blank⟩ | enforced | ⟨priority, e, given, raised⟩
    · cases present.symm.trans absent
    · exact absurd blank (visible title given)
    · cases unenforced.symm.trans enforced
    · rw [bindInteger_fits (fits priority given)] at raised
      cases raised
  | stored row' before' after now w found read _ _ bound replaces readBack =>
    cases present.symm.trans found
    cases decrypted.symm.trans read
    refine ⟨after, _, rfl, congrArg (·, _) readBack, replaces, ?_⟩
    intro other different
    exact (store.find_writeFields s.tasks taskId _ now other).trans (if_neg different)

theorem not_updated (bridgeless : Bridgeless store) (sound : Sound store s.tasks) (taskId : Int)
    (changes : TaskChanges)
    (reason : s.tasks.find taskId = none ∨
      (∃ title, changes.title = some title ∧ strip title = "") ∨
      store.enforceStorageAuthority = true) :
    ∃ exc w, store.updateTask taskId changes s = (.error exc, { s with wire := w }) := by
  have outcome := updateTask_updated bridgeless sound taskId changes
  rcases ran : store.updateTask taskId changes s with ⟨answer, s'⟩
  rw [ran] at outcome
  cases outcome with
  | refused exc w _ => exact ⟨exc, w, rfl⟩
  | stored row before after now w found read visible unenforced bound replaces readBack =>
    rcases reason with absent | ⟨title, given, blank⟩ | enforced
    · cases absent.symm.trans found
    · simp only [updatedFields, given, Option.map_some, Option.getD_some] at visible
      exact absurd blank visible
    · cases unenforced.symm.trans enforced

/-- In every state that calls lead to, writes are read back and leave the rest alone. -/
theorem stored_tasks_read_back (modules : MemoryModules ω) (bridgeless : Bridgeless modules.store)
    (env : ω) (calls : List MemoryCall) :
    ReadsBack modules.store (run (callStep modules) (.initial env) calls) := by
  have sound := sound_run bridgeless env calls
  refine {
    known := fun taskId known => known_read sound taskId known
    created := fun title description goal dueAt _ fits visible unenforced room =>
      created_readBack bridgeless title description goal dueAt fits visible unenforced room
    notCreated := fun title description goal dueAt priority reason =>
      not_created bridgeless title description goal dueAt priority reason
    updated := fun _ _ _ got visible fits unenforced =>
      updated_readBack bridgeless sound got visible fits unenforced
    notUpdated := fun taskId changes reason => not_updated bridgeless sound taskId changes reason
    listed := ?_ }
  intro includeArchived
  obtain ⟨records, listed, scanned⟩ := listTasks_read sound includeArchived
  exact ⟨records, listed, listed_descending scanned (listedRows_descending _ includeArchived),
    mem_listed sound scanned⟩

/-- A task with an empty description, then an update of its goal alone. -/
def plantCalls : List MemoryCall :=
  [.createTask " Water plants " (.str "") none .null 3, .updateTask 1 { goal := some " garden " }]

theorem stored_tasks_read_back_plant :
    ReadsBack localModules.store (run (callStep localModules) (.initial 0) plantCalls) ∧
      ((run (callStep localModules) (.initial 0) plantCalls).tasks.rows.map fun row =>
        (row.descriptionEnc.isSome, row.goalEnc.isSome, row.priority)) = [(false, true, 3)] :=
  ⟨stored_tasks_read_back localModules ⟨rfl, rfl⟩ 0 plantCalls, by decide +kernel⟩

end Apcos.Guarantees.StoredTasks
