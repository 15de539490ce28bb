import Mathlib.Data.List.Forall2
import Apcos.Guarantees.RoutedEffects

/-!
# Tasks referred to by name

core/cognition/command_router.py:475-532 over runs of routed intents, for a store with any
gates. `_resolve_task_reference` scans the archived rows too: a live task answers to its name
exactly as long as no archived task bears it.
-/
namespace Apcos.Guarantees.TaskNames

open Apcos.Lib
open Apcos.Source
open Apcos.Source.Python (Value Dict Exc Runtime strip blank)
open Apcos.Source.Memory
open Apcos.Source.Cognition
open Apcos.Guarantees.RouterAudit (Accepted accepted_of_validated localRouter)
open Apcos.Guarantees.RoutedIntents
open Apcos.Guarantees.RoutedEffects (newState validate_again)

variable {ω : Type}

/-! ## The rows an intent leaves -/

theorem SameLedger.tasks {s t : RouterState ω} (same : SameLedger s t) :
    t.memory.tasks = s.memory.tasks :=
  (Prod.mk.inj (show ledger t = ledger s from same)).1

theorem execute_tasks (router : CommandRouter ω) (auditId : String) (intent : NormalizedIntent)
    (definition : ActionDefinition ω) (s : RouterState ω) :
    (router.execute auditId intent definition s).2.memory.tasks =
      (definition.handler intent.entities s).2.memory.tasks := by
  unfold CommandRouter.execute Comp.handle
  rcases ran : definition.handler intent.entities s with ⟨r, t⟩
  cases r with
  | ok execution =>
    rw [Comp.bind_of_ok ran]
    rfl
  | error exc =>
    rw [Comp.bind_of_error ran]
    rfl

/-- After the lookup the table is untouched, or what the handler left. -/
theorem runDefinition_tasks (router : CommandRouter ω) (auditId : String)
    (intent : NormalizedIntent) (definition : ActionDefinition ω) (s : RouterState ω) :
    let tasks := (router.runDefinition auditId intent definition s).2.memory.tasks
    tasks = s.memory.tasks ∨ ∃ u : RouterState ω, u.memory.tasks = s.memory.tasks ∧
      tasks = (definition.handler intent.entities u).2.memory.tasks := by
  intro tasks
  simp only [tasks, CommandRouter.runDefinition]
  cases definition.validator intent.entities with
  | error exc =>
    left
    dsimp only
    split
    · exact SameLedger.tasks (sameLedger_reject router _ _ _ _ _ s)
    · rfl
  | ok passed =>
    rcases evaluated : router.evaluateChallenge intent definition s with ⟨r, u⟩
    have kept : u.memory.tasks = s.memory.tasks := by
      have step := SameLedger.tasks (sameLedger_evaluateChallenge router intent definition s)
      rwa [evaluated] at step
    cases r with
    | error exc =>
      left
      dsimp only
      rw [Comp.bind_of_error evaluated]
      exact kept
    | ok payload =>
      dsimp only
      rw [Comp.bind_of_ok evaluated]
      cases payload with
      | some payload => exact Or.inl kept
      | none => exact Or.inr ⟨u, kept, execute_tasks router auditId intent definition u⟩

/-- Whatever is routed, the table is untouched, or what the handler of an accepted intent
left. -/
theorem route_tasks (router : CommandRouter ω) (intentObject : Value) (s : RouterState ω) :
    let tasks := (router.route intentObject s).2.memory.tasks
    tasks = s.memory.tasks ∨ ∃ (fields entities : Dict) (intentType : String)
      (confidence : Python.PyFloat) (definition : ActionDefinition ω) (u : RouterState ω),
      intentObject = .dict fields ∧ Accepted router.py fields entities intentType confidence ∧
        router.registry.lookup intentType = some definition ∧ u.memory.tasks = s.memory.tasks ∧
        tasks = (definition.handler entities u).2.memory.tasks := by
  intro tasks
  obtain ⟨auditId, t, uuid, -, drawn⟩ := router.uuid4_returns s
  simp only [tasks, CommandRouter.route]
  rw [Comp.bind_of_ok uuid]
  rcases validated : router.validateAndNormalizeIntent intentObject t with ⟨r, u⟩
  have arrived : u.memory.tasks = s.memory.tasks := by
    have quiet : Settled t u := by
      have step := settled_validate router intentObject t
      rwa [validated] at step
    rw [quiet.parts.1, drawn]
  have attempted : Comp.attempt (router.validateAndNormalizeIntent intentObject) t =
      (.ok r, u) := by
    rw [Comp.attempt, validated]
  rw [Comp.bind_of_ok attempted]
  cases r with
  | error exc =>
    left
    dsimp only
    split
    · exact (SameLedger.tasks (sameLedger_rejectShape router auditId intentObject u)).trans arrived
    · exact arrived
  | ok intent =>
    obtain ⟨fields, mapping, accepted⟩ := accepted_of_validated validated
    dsimp only
    unfold CommandRouter.routeIntent
    split
    · exact Or.inl arrived
    · cases registered : router.registry.lookup intent.intentType with
      | none => exact Or.inl arrived
      | some definition =>
        dsimp only
        rcases runDefinition_tasks router auditId intent definition u with
          same | ⟨v, before, after⟩
        · exact Or.inl (same.trans arrived)
        · exact Or.inr ⟨fields, intent.entities, intent.intentType, intent.confidenceScore,
            definition, v, mapping, accepted, registered, before.trans arrived, after⟩

/-- A handler of a reference writes the state of the row the reference resolves to, or nothing. -/
theorem transition_tasks (router : CommandRouter ω) (actionType : Action) (final : TaskState)
    (entities : Dict) (s : RouterState ω) :
    let tasks := (router.handleTransition actionType final
      (fun taskId => router.taskStore.transitionTask taskId final.value) entities s).2.memory.tasks
    tasks = s.memory.tasks ∨ ∃ task destination now archivedAt,
      CommandRouter.resolve router.taskStore s.memory.tasks entities = .ok task ∧
        tasks = TaskStore.writeState s.memory.tasks task.taskId destination now archivedAt := by
  intro tasks
  simp only [tasks, CommandRouter.handleTransition]
  cases resolved : CommandRouter.resolve router.taskStore s.memory.tasks entities with
  | error exc =>
    have raised : router.resolveTaskReference entities s = (.error exc, s) := by
      rw [CommandRouter.resolveTaskReference, resolved]
    rw [Comp.bind_of_error raised]
    exact Or.inl rfl
  | ok task =>
    have read : router.resolveTaskReference entities s = (.ok task, s) := by
      rw [CommandRouter.resolveTaskReference, resolved]
    rw [Comp.bind_of_ok read]
    split
    · exact Or.inl rfl
    · rcases ran : router.taskStore.transitionTask task.taskId final.value s.memory with ⟨r, m⟩
      have zoomed : CommandRouter.onMemory
          (router.taskStore.transitionTask task.taskId final.value) s =
            (r, { s with memory := m }) := Comp.zoom_of_eq ran
      have outcome := router.taskStore.transitionTask_outcome task.taskId final.value s.memory
      rw [ran] at outcome
      cases outcome with
      | stopped exc w made grown =>
        rw [Comp.bind_of_error zoomed]
        exact Or.inl rfl
      | recorded row destination changedAtUtc exc w asked made grown found named allowed blocked =>
        rw [Comp.bind_of_error zoomed]
        exact Or.inl rfl
      | committed row destination changedAtUtc now record w asked made grown found named allowed
          cleared =>
        rw [Comp.bind_of_ok zoomed]
        exact Or.inr ⟨task, destination, now, _, rfl, rfl⟩

/-- The create handler adds a row that reads back under a stripped title, or nothing. -/
theorem create_tasks (router : CommandRouter ω) (entities : Dict) (s : RouterState ω) :
    let tasks := (router.handleCreateTask entities s).2.memory.tasks
    tasks = s.memory.tasks ∨ ∃ row id after record title,
      s.memory.tasks.insert row = some (id, after) ∧
        router.taskStore.recordOf after id = .ok (some record) ∧
        record.title = strip title ∧ strip title ≠ "" ∧ tasks = after := by
  intro tasks
  simp only [tasks, CommandRouter.handleCreateTask]
  cases Python.int router.py (Dict.getD entities "priority" (.int 0)) with
  | error exc => exact Or.inl rfl
  | ok priority =>
    rw [Comp.ofExcept_ok_bind]
    cases Dict.getD entities "task" (Dict.get entities "title") with
    | str title =>
      dsimp only
      cases CommandRouter.dueAtArgument (Dict.get entities "due_at") with
      | error exc => exact Or.inl rfl
      | ok dueAt =>
        rw [Comp.ofExcept_ok_bind]
        rcases router.taskStore.createTask_cases title (Dict.get entities "description") dueAt
            (Dict.get entities "goal") priority s.memory with
          ⟨exc, w, made, -, raised⟩ |
            ⟨row, id, after, record, w, made, -, -, initial, -, insertion, read,
              ⟨titled, visible⟩, returned⟩
        · have stopped : CommandRouter.onMemory (router.taskStore.createTask title
              (Dict.get entities "description") dueAt (Dict.get entities "goal") priority) s =
              (.error exc, { s with memory := { s.memory with wire := w } }) :=
            Comp.zoom_of_eq raised
          rw [Comp.bind_of_error stopped]
          exact Or.inl rfl
        · have created : CommandRouter.onMemory (router.taskStore.createTask title
              (Dict.get entities "description") dueAt (Dict.get entities "goal") priority) s =
              (.ok (some record),
                { s with memory := { s.memory with tasks := after, wire := w } }) :=
            Comp.zoom_of_eq returned
          rw [Comp.bind_of_ok created]
          simp only [CommandRouter.present]
          rw [Comp.ofExcept_ok_bind]
          right
          refine ⟨row, id, after, record, title, insertion, read, titled, visible, ?_⟩
          split <;> rfl
    | _ => exact Or.inl rfl

/-! ## Every title reads back -/

/-- The row can be looked up by its id and decrypts, to a stripped title that is not empty. -/
structure LegibleRow (store : TaskStore ω) (row : TaskRow) : Prop where
  bound : bindInteger row.id = .ok row.id
  readable : ∃ record, store.rowToRecord row = .ok record ∧
    strip record.title = record.title ∧ record.title ≠ ""

def Legible (store : TaskStore ω) (tasks : TaskTable) : Prop :=
  ∀ row ∈ tasks.rows, LegibleRow store row

theorem legible_insert {store : TaskStore ω} {tasks after : TaskTable} {row : TaskRow} {id : Int}
    {record : TaskRecord} {title : String} (legible : Legible store tasks)
    (insertion : tasks.insert row = some (id, after))
    (read : store.recordOf after id = .ok (some record)) (titled : record.title = strip title)
    (visible : strip title ≠ "") : Legible store after := by
  intro other member
  obtain ⟨-, rows, -⟩ := TaskTable.insert_eq insertion
  rw [rows] at member
  rcases List.mem_append.mp member with old | new
  · exact legible other old
  · obtain ⟨-, found, present, decrypted⟩ := TaskStore.recordOf_some read
    rw [TaskTable.find_insert insertion, if_pos rfl] at present
    cases present
    rw [List.mem_singleton.mp new]
    refine ⟨TaskTable.bindInteger_inserted insertion, record, decrypted, ?_, ?_⟩
    · rw [titled, Python.strip_strip]
    · rw [titled]
      exact visible

/-- A transition leaves the ciphertext columns alone. -/
theorem legible_writeState {store : TaskStore ω} {tasks : TaskTable} (legible : Legible store tasks)
    (taskId : Int) (destination : TaskState) (now : String) (archivedAt : Option String) :
    Legible store (TaskStore.writeState tasks taskId destination now archivedAt) := by
  intro other member
  obtain ⟨row, old, rfl⟩ := List.mem_map.mp member
  obtain ⟨bound, record, decrypted, stripped, visible⟩ := legible row old
  split
  · obtain ⟨title, description, goal, -⟩ := store.rowToRecord_fields row record decrypted
    exact ⟨bound, _, store.rowToRecord_of (TaskStore.setState destination now archivedAt row)
      record.title record.description record.goal title description goal, stripped, visible⟩
  · exact ⟨bound, record, decrypted, stripped, visible⟩

/-- The state after an intent was routed, answered or raised. -/
def routeStep (router : CommandRouter ω) (s : RouterState ω) (intentObject : Value) :
    RouterState ω := (router.route intentObject s).2

/-- Routing keeps the titles legible. -/
theorem legible_step (router : CommandRouter ω) (s : RouterState ω) (intentObject : Value)
    (legible : Legible router.taskStore s.memory.tasks) :
    Legible router.taskStore (routeStep router s intentObject).memory.tasks := by
  rcases route_tasks router intentObject s with
    same | ⟨fields, entities, intentType, confidence, definition, u, -, -, registered, before, after⟩
  · rw [routeStep, same]
    exact legible
  · rw [routeStep, after]
    rw [← before] at legible
    have transition (actionType : Action) (final : TaskState) : Legible router.taskStore
        (router.handleTransition actionType final
          (fun taskId => router.taskStore.transitionTask taskId final.value) entities
            u).2.memory.tasks := by
      rcases transition_tasks router actionType final entities u with
        same | ⟨task, destination, now, archivedAt, -, moved⟩
      · rw [same]
        exact legible
      · rw [moved]
        exact legible_writeState legible task.taskId destination now archivedAt
    rcases CommandRouter.registry_definitions registered with ⟨rfl, -⟩ | ⟨rfl, -⟩ | ⟨rfl, -⟩
    · rcases create_tasks router entities u with
        same | ⟨row, id, after, record, title, insertion, read, titled, visible, created⟩
      · exact same ▸ legible
      · exact created ▸ legible_insert legible insertion read titled visible
    · exact transition .completeTask .completed
    · exact transition .cancelTask .archived

theorem legible_run (router : CommandRouter ω) (env : ω) (intents : List Value) :
    Legible router.taskStore (run (routeStep router) (newState env) intents).memory.tasks :=
  run_invariant (fun s intentObject legible => legible_step router s intentObject legible)
    (newState env) (fun _ member => absurd member List.not_mem_nil) intents

/-! ## Resolution by name -/

/-- Equal up to case and outer whitespace. -/
def sameTitle (py : Runtime) (title name : String) : Bool :=
  py.lower (strip title) == py.lower (strip name)

/-- The decrypted title of the row is the name. -/
def bearsName (store : TaskStore ω) (name : String) (row : TaskRow) : Bool :=
  match store.encryption.decrypt row.titleEnc with
  | .ok title => sameTitle store.py title name
  | .error _ => false

/-- The entities refer to a task by this name. -/
structure ByName (entities : Dict) (name : String) : Prop where
  noId : Dict.get entities "task_id" = .null
  named : Dict.get entities "task" = .str name

/-- The row is the only one with that name that is not archived. -/
structure OnlyLive (store : TaskStore ω) (tasks : TaskTable) (name : String) (row : TaskRow) :
    Prop where
  stored : row ∈ tasks.rows
  live : row.state ≠ .archived
  titled : bearsName store name row = true
  only : ∀ other ∈ tasks.rows, other.state ≠ .archived → bearsName store name other = true →
    other = row

/-- No archived row bears the name. -/
def Unshadowed (store : TaskStore ω) (tasks : TaskTable) (name : String) : Prop :=
  ∀ other ∈ tasks.rows, other.state = .archived → bearsName store name other = false

/-- The scan reads every row, to a record under the row's stripped title. -/
theorem records_of_legible {store : TaskStore ω} (rows : List TaskRow)
    (legible : ∀ row ∈ rows, LegibleRow store row) :
    ∃ records, rows.mapM store.rowToRecord = .ok records ∧
      List.Forall₂ (fun row record => store.rowToRecord row = .ok record ∧
        strip record.title = record.title) rows records := by
  have each : ∀ row ∈ rows, ∃ record, store.rowToRecord row = .ok record := fun row member => by
    obtain ⟨-, record, read, -⟩ := legible row member
    exact ⟨record, read⟩
  obtain ⟨records, scanned⟩ := mapM_ok_of_forall each
  have related := (List.forall₂_and_left rows records).mpr ⟨legible, mapM_ok_iff.mp scanned⟩
  refine ⟨records, scanned, related.imp ?_⟩
  intro row record ⟨legibleRow, read⟩
  obtain ⟨-, other, also, stripped, -⟩ := legibleRow
  cases also.symm.trans read
  exact ⟨read, stripped⟩

theorem lower_empty (py : Runtime) : py.lower "" = "" := py.lower_ascii "" (by decide)

/-- A name that a task bears is not blank, provided no letter is lowered to nothing. -/
theorem name_visible {store : TaskStore ω} {tasks : TaskTable}
    (lowers : ∀ text, store.py.lower text = "" → text = "") (legible : Legible store tasks)
    {name : String} {row : TaskRow} (stored : row ∈ tasks.rows)
    (titled : bearsName store name row = true) :
    store.py.lower (strip name) ≠ "" ∧ strip name ≠ "" := by
  obtain ⟨-, record, read, stripped, visible⟩ := legible row stored
  obtain ⟨title, -⟩ := store.rowToRecord_fields row record read
  have same : store.py.lower (strip record.title) = store.py.lower (strip name) := by
    simpa [bearsName, title, sameTitle] using titled
  have shown : store.py.lower (strip name) ≠ "" := by
    intro empty
    rw [stripped, empty] at same
    exact visible (lowers _ same)
  refine ⟨shown, fun empty => shown ?_⟩
  rw [empty, lower_empty]

/-- The scan by name sees the rows that bear it, archived or not. -/
theorem resolve_by_name {store : TaskStore ω} {tasks : TaskTable} (legible : Legible store tasks)
    {entities : Dict} {name : String} (byName : ByName entities name)
    (visible : store.py.lower (strip name) ≠ "") :
    ∃ records, List.Forall₂ (fun row record => store.rowToRecord row = .ok record ∧
        strip record.title = record.title)
        (tasks.rows.reverse.filter (bearsName store name)) records ∧
      CommandRouter.resolve store tasks entities = match records with
        | [] => .error ⟨.keyError, "Task not found"⟩
        | [task] => .ok task
        | _ => .error ⟨.valueError, "Ambiguous task reference"⟩ := by
  obtain ⟨records, scanned, related⟩ := records_of_legible tasks.rows.reverse fun row member =>
    legible row (List.mem_reverse.mp member)
  have number : (Dict.get entities "task_id").asInt = none := by
    rw [byName.noId]
    rfl
  have named : Dict.getD entities "task" (.str "") = .str name := by
    have read := byName.named
    unfold Dict.get Dict.getD at read
    unfold Dict.getD
    cases found : entities.lookup "task" with
    | none =>
      rw [found] at read
      cases read
    | some v =>
      rw [found] at read
      exact read
  refine ⟨CommandRouter.titled store.py (store.py.lower (strip name)) records, ?_, ?_⟩
  · apply List.rel_filter _ related
    intro row record ⟨read, stripped⟩
    obtain ⟨title, -⟩ := store.rowToRecord_fields row record read
    simp [bearsName, title, sameTitle, stripped]
  · simp only [CommandRouter.resolve, number, named, Python.str, ok_bind, if_neg visible, scanned]
    rcases CommandRouter.titled store.py (store.py.lower (strip name)) records with
      _ | ⟨task, _ | ⟨second, others⟩⟩ <;> rfl

theorem eq_singleton_of_nodup {α : Type} {l : List α} {a : α} (distinct : l.Nodup) (member : a ∈ l)
    (only : ∀ b ∈ l, b = a) : l = [a] := by
  cases l with
  | nil => cases member
  | cons b rest =>
    obtain rfl := only b List.mem_cons_self
    cases rest with
    | nil => rfl
    | cons c others =>
      have again := only c (by simp)
      simp [again] at distinct

theorem filter_rows_nodup (tasks : TaskTable) (p : TaskRow → Bool) :
    (tasks.rows.reverse.filter p).Nodup := by
  refine List.Nodup.filter _ (List.nodup_reverse.mpr ?_)
  refine tasks.increasing.imp fun before same => ?_
  rw [same] at before
  omega

section
variable {store : TaskStore ω} {tasks : TaskTable}
  (lowers : ∀ text, store.py.lower text = "" → text = "") (legible : Legible store tasks)
  {name : String} {row : TaskRow} (only : OnlyLive store tasks name row) {entities : Dict}
  (byName : ByName entities name)
include lowers legible only byName

theorem resolve_unshadowed (unshadowed : Unshadowed store tasks name) :
    ∃ task, CommandRouter.resolve store tasks entities = .ok task ∧ task.taskId = row.id := by
  obtain ⟨visible, -⟩ := name_visible lowers legible only.stored only.titled
  obtain ⟨records, related, resolved⟩ := resolve_by_name legible byName visible
  have single : tasks.rows.reverse.filter (bearsName store name) = [row] := by
    refine eq_singleton_of_nodup (filter_rows_nodup tasks _) ?_ fun other member => ?_
    · exact List.mem_filter.mpr ⟨List.mem_reverse.mpr only.stored, only.titled⟩
    · obtain ⟨stored, bears⟩ := List.mem_filter.mp member
      refine only.only other (List.mem_reverse.mp stored) (fun archived => ?_) bears
      rw [unshadowed other (List.mem_reverse.mp stored) archived] at bears
      cases bears
  rw [single] at related
  cases related with
  | cons here rest =>
    cases rest
    obtain ⟨-, -, -, shape⟩ := store.rowToRecord_fields row _ here.1
    refine ⟨_, resolved, ?_⟩
    rw [shape]

/-- An archived row of the same name makes the reference ambiguous. -/
theorem resolve_shadowed (shadowed : ¬Unshadowed store tasks name) :
    CommandRouter.resolve store tasks entities =
      .error ⟨.valueError, "Ambiguous task reference"⟩ := by
  obtain ⟨visible, -⟩ := name_visible lowers legible only.stored only.titled
  obtain ⟨records, related, resolved⟩ := resolve_by_name legible byName visible
  have among : row ∈ tasks.rows.reverse.filter (bearsName store name) :=
    List.mem_filter.mpr ⟨List.mem_reverse.mpr only.stored, only.titled⟩
  simp only [Unshadowed, not_forall, Bool.not_eq_false] at shadowed
  obtain ⟨other, stored, archived, bears⟩ := shadowed
  have also : other ∈ tasks.rows.reverse.filter (bearsName store name) :=
    List.mem_filter.mpr ⟨List.mem_reverse.mpr stored, bears⟩
  rw [resolved]
  -- Two different rows bear the name, so two records were found.
  generalize tasks.rows.reverse.filter (bearsName store name) = bearers at related among also
  cases related with
  | nil => cases among
  | cons _ rest =>
    cases rest with
    | nil =>
      rw [List.mem_singleton] at among also
      exact absurd (also ▸ archived) (among ▸ only.live)
    | cons _ _ => rfl

/-- A reference to the only live task of a name resolves to it exactly if no archived task
bears the name. -/
theorem resolve_live_iff :
    (∃ task, CommandRouter.resolve store tasks entities = .ok task ∧ task.taskId = row.id) ↔
      Unshadowed store tasks name := by
  refine ⟨fun ⟨task, found, _⟩ => ?_, resolve_unshadowed lowers legible only byName⟩
  by_contra shadowed
  rw [resolve_shadowed lowers legible only byName shadowed] at found
  cases found

end

/-! ## What a transition raises -/

/-- The table holds a readable row under this id. -/
def Holds (store : TaskStore ω) (taskId : Int) (s : MemoryState ω) : Prop :=
  ∃ record, store.recordOf s.tasks taskId = .ok (some record)

theorem holds_writeState {store : TaskStore ω} {taskId : Int} {s : MemoryState ω}
    (holds : Holds store taskId s) (destination : TaskState) (now : String)
    (archivedAt : Option String) :
    Holds store taskId { s with
      tasks := TaskStore.writeState s.tasks taskId destination now archivedAt } := by
  obtain ⟨record, read⟩ := holds
  obtain ⟨bound, row, found, decrypted⟩ := TaskStore.recordOf_some read
  obtain ⟨title, description, goal, -⟩ := store.rowToRecord_fields row record decrypted
  have present := TaskStore.find_writeState s.tasks taskId destination now archivedAt taskId
  rw [if_pos rfl, found, Option.map_some] at present
  exact ⟨_, TaskStore.recordOf_of_find bound present (store.rowToRecord_of _ record.title
    record.description record.goal title description goal)⟩

/-- What a transition of a row that is there can raise without bridges: the refusal of the
lifecycle, and the missing authority of a store that requires one. -/
structure Allows (store : TaskStore ω) (allowed : Exc → Prop) : Prop where
  refused : ∀ message, allowed ⟨.invalidStateTransitionError, message⟩
  unauthorised : store.enforceStorageAuthority = true → ∀ message, allowed ⟨.runtimeError, message⟩

section
variable {store : TaskStore ω} {allowed : Exc → Prop}

theorem guarded_transitionTaskRow (taskId : Int) (destination : TaskState) (now : String)
    (archivedAt : Option String) :
    Comp.Guarded (Holds store taskId) allowed
      (TaskStore.transitionTaskRow taskId destination now archivedAt) :=
  Comp.guarded_returns fun s holds => by
    obtain ⟨record, read⟩ := holds
    obtain ⟨bound, -⟩ := TaskStore.recordOf_some read
    exact ⟨_, _, TaskStore.transitionTaskRow_eq bound destination now archivedAt s,
      holds_writeState ⟨record, read⟩ destination now archivedAt⟩

variable (unbridged : Unbridged store) (allows : Allows store allowed)
include unbridged allows

theorem guarded_assertTransition (taskId : Int) (source target : TaskState) :
    Comp.Guarded (Holds store taskId) allowed (store.assertTransition taskId source target) := by
  refine Comp.guarded_bind (Comp.guarded_returns fun s holds => ?_) fun decision => ?_
  · simp only [LifecycleManager.authorizeTransition, unbridged.transitionAuthorizer]
    split
    · exact ⟨_, s, rfl, holds⟩
    · exact ⟨_, s, rfl, holds⟩
  · split
    · exact Comp.guarded_raise (allows.refused _)
    · exact Comp.guarded_returns fun s holds => ⟨(), _, rfl, holds⟩

/-- Without bridges the gates raise lifecycle and runtime errors only. -/
theorem guarded_gate {taskId : Int} {source target : TaskState}
    {memoryOperation storageOperation lifecycleState : String}
    {execute : Comp Exc (MemoryState ω) Unit}
    (body : Comp.Guarded (Holds store taskId) allowed execute) :
    Comp.Guarded (Holds store taskId) allowed (store.validateMemoryAndMaybeTransition taskId
      source target memoryOperation storageOperation lifecycleState execute) := by
  have memory : store.memoryBridge = none := by
    simp [TaskStore.memoryBridge, unbridged.memoryBridgeArgument, unbridged.storageBridge]
  simp only [TaskStore.validateMemoryAndMaybeTransition, memory]
  split
  · exact Comp.guarded_raise (allows.refused _)
  · refine Comp.guarded_bind (guarded_assertTransition unbridged allows taskId source target)
      fun _ => ?_
    simp only [TaskStore.validateStorageAndMaybeExecute, gateStorage, unbridged.storageBridge]
    split
    · rename_i enforced
      exact Comp.guarded_raise (allows.unauthorised enforced _)
    · exact body

theorem guarded_transitionTask (taskId : Int) (final : TaskState) :
    Comp.Guarded (Holds store taskId) allowed (store.transitionTask taskId final.value) := by
  have reads : Comp.Guarded (Holds store taskId) allowed (store.getTask taskId) :=
    Comp.guarded_returns fun s ⟨record, read⟩ =>
      ⟨some record, s, by rw [TaskStore.getTask, read], record, read⟩
  intro s ⟨current, read⟩
  have opened : store.getTask taskId s = (.ok (some current), s) := by
    rw [TaskStore.getTask, read]
  have known : normalizeState store.py final.value = .ok final := by
    simp only [normalizeState, ofValue_value]
  unfold TaskStore.transitionTask
  rw [Comp.bind_of_ok opened, known]
  refine Comp.guarded_bind (Comp.guarded_ofExcept fun _ refused => ?_) (fun destination => ?_)
    s ⟨current, read⟩
  · cases refused
  refine Comp.guarded_bind (Comp.guarded_returns fun t holds => ⟨_, _, rfl, holds⟩) fun now => ?_
  refine Comp.guarded_bind (guarded_gate unbridged allows ?_) fun _ => reads
  exact guarded_transitionTaskRow taskId destination now _

end

/-- The handler of a reference that resolves raises what the transition raises. -/
theorem transition_error {router : CommandRouter ω} (unbridged : Unbridged router.taskStore)
    {allowed : Exc → Prop} (allows : Allows router.taskStore allowed) {actionType : Action}
    {final : TaskState} {entities : Dict} {s t : RouterState ω} {task : TaskRecord} {exc : Exc}
    (legible : Legible router.taskStore s.memory.tasks)
    (resolved : CommandRouter.resolve router.taskStore s.memory.tasks entities = .ok task)
    (raised : router.handleTransition actionType final
      (fun taskId => router.taskStore.transitionTask taskId final.value) entities s =
        (.error exc, t)) : allowed exc := by
  have read : router.resolveTaskReference entities s = (.ok task, s) := by
    rw [CommandRouter.resolveTaskReference, resolved]
  obtain ⟨row, found, decrypted⟩ := resolve_row resolved
  have holds : Holds router.taskStore task.taskId s.memory := by
    obtain ⟨bound, -⟩ := legible row (TaskTable.find_mem found)
    rw [TaskTable.find_id found] at bound
    exact ⟨task, TaskStore.recordOf_of_find bound found decrypted⟩
  have guarded := (guarded_transitionTask unbridged allows task.taskId final s.memory holds).1
  rw [CommandRouter.handleTransition, Comp.bind_of_ok read] at raised
  split at raised
  · cases raised
  · rcases ran : router.taskStore.transitionTask task.taskId final.value s.memory with ⟨r, m⟩
    have zoomed : CommandRouter.onMemory
        (router.taskStore.transitionTask task.taskId final.value) s =
          (r, { s with memory := m }) := Comp.zoom_of_eq ran
    have outcome := router.taskStore.transitionTask_outcome task.taskId final.value s.memory
    rw [ran] at outcome guarded
    cases outcome with
    | stopped other w made grown =>
      rw [Comp.bind_of_error zoomed] at raised
      cases raised
      exact guarded exc rfl
    | recorded row destination changedAtUtc other w asked made grown found named allowed blocked =>
      rw [Comp.bind_of_error zoomed] at raised
      cases raised
      exact guarded exc rfl
    | committed row destination changedAtUtc now record w asked made grown found named allowed
        cleared =>
      rw [Comp.bind_of_ok zoomed] at raised
      cases raised

/-- The exception does not read as a failed lookup. -/
def NotEntity (exc : Exc) : Prop := CommandRouter.errorCodeOf exc ≠ .invalidEntity

theorem allows_notEntity (store : TaskStore ω) : Allows store NotEntity where
  refused message := by simp [NotEntity, CommandRouter.errorCodeOf, Exc.isInvalidStateTransition]
  unauthorised _ message := by
    simp [NotEntity, CommandRouter.errorCodeOf, Exc.isInvalidStateTransition, Exc.isKeyError,
      Exc.isTypeError, Exc.isValueError]

/-! ## Routing a reference by name -/

/-- A valid complete or cancel intent that refers to a task by this name. -/
structure RefersByName (router : CommandRouter ω) (fields entities : Dict) (intentType : String)
    (confidence : Python.PyFloat) (name : String) : Prop extends ByName entities name where
  accepted : Accepted router.py fields entities intentType confidence
  asked : intentType ∈ ["complete_task", "mark_completed", "cancel_task", "archive_task"]
  aligned : checkAlignment router.py entities = .ok ()

/-- The intent reaches the row: its reference resolves to it, it writes no other row, and what
answers it is no failed lookup. An external authority may raise anything. -/
structure Addressed (router : CommandRouter ω) (s : RouterState ω) (fields entities : Dict)
    (row : TaskRow) : Prop where
  resolved : ∃ task, CommandRouter.resolve router.taskStore s.memory.tasks entities = .ok task ∧
    task.taskId = row.id
  others : ∀ id, id ≠ row.id → (routeStep router s (.dict fields)).memory.tasks.find id =
    s.memory.tasks.find id
  found : Unbridged router.taskStore → ∀ result s',
    router.route (.dict fields) s = (.ok result, s') → result.errorCode ≠ some .invalidEntity

/-- The answer to the intent is a failed lookup. -/
def NotFound (router : CommandRouter ω) (s : RouterState ω) (fields : Dict) : Prop :=
  ∃ result s', router.route (.dict fields) s = (.ok result, s') ∧
    result.errorCode = some .invalidEntity ∧ s'.memory.tasks = s.memory.tasks

/-- The two definitions of a reference. -/
theorem RefersByName.registered {router : CommandRouter ω} {fields entities : Dict}
    {intentType : String} {confidence : Python.PyFloat} {name : String}
    (refers : RefersByName router fields entities intentType confidence name) :
    ∃ actionType final, router.registry.lookup intentType = some ⟨actionType,
      router.handleTransition actionType final
        (fun taskId => router.taskStore.transitionTask taskId final.value),
      validateTaskReferenceEntities router.py, true⟩ := by
  have asked := refers.asked
  simp only [List.mem_cons, List.not_mem_nil, or_false] at asked
  rcases asked with rfl | rfl | rfl | rfl
  · exact ⟨.completeTask, .completed, rfl⟩
  · exact ⟨.completeTask, .completed, rfl⟩
  · exact ⟨.cancelTask, .archived, rfl⟩
  · exact ⟨.cancelTask, .archived, rfl⟩

theorem RefersByName.valid {router : CommandRouter ω} {fields entities : Dict}
    {intentType : String} {confidence : Python.PyFloat} {name : String}
    (refers : RefersByName router fields entities intentType confidence name)
    (visible : strip name ≠ "") : validateTaskReferenceEntities router.py entities = .ok () := by
  have shown : blank name = false := by simp [blank, visible]
  have referred : checkReference entities = .ok () := by
    simp [checkReference, refers.noId, refers.named, Value.isNull, shown]
  rw [validateTaskReferenceEntities, referred, ok_bind, refers.aligned]

/-- An accepted intent goes to `routeIntent` with its own entities. -/
theorem route_accepted {router : CommandRouter ω} {fields entities : Dict} {intentType : String}
    {confidence : Python.PyFloat}
    (accepted : Accepted router.py fields entities intentType confidence) (s : RouterState ω) :
    ∃ auditId intent u, router.route (.dict fields) s = router.routeIntent auditId intent u ∧
      Settled s u ∧ intent.entities = entities ∧ intent.intentType = intentType ∧
      intent.confidenceScore = confidence := by
  obtain ⟨auditId, t, uuid, drawn⟩ : ∃ auditId t, router.uuid4 s = (.ok auditId, t) ∧
      Settled s t := ⟨_, _, rfl, rfl⟩
  obtain ⟨intent, u, validated, quiet, same⟩ := validate_again accepted t
  have arrived : Settled s u := Eq.trans (show settled u = settled t from quiet) drawn
  exact ⟨auditId, intent, u, CommandRouter.route_validated uuid validated, arrived, same⟩

/-- An execution answers with the code of what the handler raised, or with none. -/
theorem execute_errorCode {router : CommandRouter ω} {auditId : String} {intent : NormalizedIntent}
    {definition : ActionDefinition ω} {s s' : RouterState ω} {result : CommandResult}
    (returned : router.execute auditId intent definition s = (.ok result, s')) :
    (∃ exc t, definition.handler intent.entities s = (.error exc, t) ∧
        result.errorCode = some (CommandRouter.errorCodeOf exc)) ∨ result.errorCode = none := by
  rcases ran : definition.handler intent.entities s with ⟨r, t⟩
  cases r with
  | ok execution =>
    unfold CommandRouter.execute Comp.handle at returned
    rw [Comp.bind_of_ok ran] at returned
    cases returned
    exact Or.inr rfl
  | error exc =>
    rw [execute_raised router auditId ran] at returned
    cases returned
    exact Or.inl ⟨exc, t, rfl, rfl⟩

section
variable {router : CommandRouter ω} {s : RouterState ω} {fields entities : Dict}
  {intentType name : String} {confidence : Python.PyFloat}
  (refers : RefersByName router fields entities intentType confidence name)
include refers

/-- A reference that resolves is not answered as a failed lookup. -/
theorem found_of_resolved (unbridged : Unbridged router.taskStore)
    (legible : Legible router.taskStore s.memory.tasks) (visible : strip name ≠ "")
    {task : TaskRecord}
    (resolved : CommandRouter.resolve router.taskStore s.memory.tasks entities = .ok task)
    {result : CommandResult} {s' : RouterState ω}
    (returned : router.route (.dict fields) s = (.ok result, s')) :
    result.errorCode ≠ some .invalidEntity := by
  obtain ⟨auditId, intent, u, routed, quiet, sameEntities, sameType, -⟩ :=
    route_accepted refers.accepted s
  obtain ⟨actionType, final, registered⟩ := refers.registered
  rw [routed, CommandRouter.routeIntent] at returned
  split at returned
  · cases returned
    simp
  · rw [sameType, registered] at returned
    simp only [CommandRouter.runDefinition, sameEntities, refers.valid visible] at returned
    obtain ⟨payload, v, evaluated, rest⟩ := Comp.of_bind_ok returned
    cases payload with
    | some payload =>
      cases rest
      simp
    | none =>
      have untouched := evaluateChallenge_none evaluated
      subst untouched
      rw [← quiet.parts.1, ← sameEntities] at resolved
      rw [← quiet.parts.1] at legible
      rcases execute_errorCode rest with ⟨exc, t, ran, answered⟩ | answered
      · rw [answered]
        exact fun same => transition_error unbridged (allows_notEntity _) legible
          resolved ran (Option.some.inj same)
      · rw [answered]
        simp

/-- A confident reference that is ambiguous is answered as a failed lookup. -/
theorem notFound_of_ambiguous (visible : strip name ≠ "")
    (ambiguous : CommandRouter.resolve router.taskStore s.memory.tasks entities =
      .error ⟨.valueError, "Ambiguous task reference"⟩)
    (confident : confidence.lt router.minConfidence = false) : NotFound router s fields := by
  obtain ⟨auditId, intent, u, routed, quiet, sameEntities, sameType, sameConfidence⟩ :=
    route_accepted refers.accepted s
  obtain ⟨actionType, final, registered⟩ := refers.registered
  rw [← quiet.parts.1, ← sameEntities] at ambiguous
  rw [← sameType] at registered
  rw [← sameConfidence] at confident
  have unchallenged : router.evaluateChallenge intent ⟨actionType,
      router.handleTransition actionType final
        (fun taskId => router.taskStore.transitionTask taskId final.value),
      validateTaskReferenceEntities router.py, true⟩ u = (.ok none, u) := by
    by_cases off : router.enableChallengeGate = false
    · exact RouterAudit.evaluateChallenge_skipped router intent _ u (Or.inl off)
    · rw [Bool.not_eq_false] at off
      rw [evaluateChallenge_open off rfl, ambiguous]
      rfl
  have raised : router.handleTransition actionType final
      (fun taskId => router.taskStore.transitionTask taskId final.value) intent.entities u =
        (.error ⟨.valueError, "Ambiguous task reference"⟩, u) := by
    have read : router.resolveTaskReference intent.entities u =
        (.error ⟨.valueError, "Ambiguous task reference"⟩, u) := by
      rw [CommandRouter.resolveTaskReference, ambiguous]
    rw [CommandRouter.handleTransition, Comp.bind_of_error read]
  unfold NotFound
  have valid : validateTaskReferenceEntities router.py intent.entities = .ok () := by
    rw [sameEntities, refers.valid visible]
  rw [routed, CommandRouter.routeIntent_registered confident registered,
    CommandRouter.runDefinition_unchallenged valid unchallenged,
    execute_raised router auditId raised]
  exact ⟨_, _, rfl, rfl, quiet.parts.1⟩

/-- Rows that the reference does not resolve to are left alone. -/
theorem others_kept {row : TaskRow}
    (only : ∀ task, CommandRouter.resolve router.taskStore s.memory.tasks entities = .ok task →
      task.taskId = row.id) (id : Int) (other : id ≠ row.id) :
    (routeStep router s (.dict fields)).memory.tasks.find id = s.memory.tasks.find id := by
  rcases route_tasks router (.dict fields) s with
    same | ⟨fields', entities', intentType', confidence', definition, u, mapping, accepted,
      registered, before, after⟩
  · rw [routeStep, same]
  · cases mapping
    obtain ⟨rfl, rfl, -⟩ := accepted.unique refers.accepted
    obtain ⟨actionType, final, reference⟩ := refers.registered
    rw [registered] at reference
    cases reference
    rw [routeStep, after, ← before]
    rcases transition_tasks router actionType final entities' u with
      same | ⟨task, destination, now, archivedAt, resolved, moved⟩
    · exact congrArg (fun tasks => TaskTable.find tasks id) same
    · rw [before] at resolved
      have named := only task resolved
      rw [moved, TaskStore.find_writeState, named, if_neg other]

end

/-- In every state that a run of intents reaches, an intent by name reaches the only live task
of that name exactly if no archived task bears the name; otherwise its answer is that there is
no such entity. -/
theorem live_task_addressed_iff (router : CommandRouter ω)
    (lowers : ∀ text, router.py.lower text = "" → text = "") (env : ω) (intents : List Value)
    (s : RouterState ω) (reached : run (routeStep router) (newState env) intents = s)
    (name : String) (row : TaskRow) (only : OnlyLive router.taskStore s.memory.tasks name row)
    (fields entities : Dict) (intentType : String) (confidence : Python.PyFloat)
    (refers : RefersByName router fields entities intentType confidence name) :
    (Addressed router s fields entities row ↔ Unshadowed router.taskStore s.memory.tasks name) ∧
      (¬Unshadowed router.taskStore s.memory.tasks name →
        confidence.lt router.minConfidence = false → NotFound router s fields) := by
  have legible : Legible router.taskStore s.memory.tasks := reached ▸ legible_run router env intents
  obtain ⟨-, visible⟩ := name_visible lowers legible only.stored only.titled
  have resolves := resolve_live_iff lowers legible only refers.toByName
  refine ⟨⟨fun addressed => resolves.mp addressed.resolved, fun unshadowed => ?_⟩,
    fun shadowed confident => ?_⟩
  · obtain ⟨task, resolved, named⟩ := resolves.mpr unshadowed
    refine ⟨⟨task, resolved, named⟩, ?_, fun unbridged result s' returned => ?_⟩
    · refine others_kept refers fun other same => ?_
      rw [resolved] at same
      cases same
      exact named
    · exact found_of_resolved refers unbridged legible visible resolved returned
  · exact notFound_of_ambiguous refers visible
      (resolve_shadowed lowers legible only refers.toByName shadowed) confident

/-! A router over a local store with the default settings. -/

instance (store : TaskStore ω) (tasks : TaskTable) (name : String) (row : TaskRow) :
    Decidable (OnlyLive store tasks name row) :=
  decidable_of_iff (row ∈ tasks.rows ∧ row.state ≠ .archived ∧ bearsName store name row = true ∧
      ∀ other ∈ tasks.rows, other.state ≠ .archived → bearsName store name other = true →
        other = row)
    ⟨fun ⟨stored, live, titled, only⟩ => ⟨stored, live, titled, only⟩,
      fun ⟨stored, live, titled, only⟩ => ⟨stored, live, titled, only⟩⟩

instance (store : TaskStore ω) (tasks : TaskTable) (name : String) :
    Decidable (Unshadowed store tasks name) :=
  inferInstanceAs (Decidable (∀ other ∈ tasks.rows, other.state = .archived →
    bearsName store name other = false))

def plantEntities : Dict := [("task", .str " water PLANTS ")]

def plantIntent (intentType : String) (entities : Dict) : Dict :=
  [("intent_type", .str intentType), ("entities", .dict entities),
    ("timestamp", .datetime ⟨Python.firstInstant, none⟩), ("confidence_score", .float (.finite 1))]

theorem plant_refers : RefersByName localRouter (plantIntent "complete_task" plantEntities)
    plantEntities "complete_task" (.finite 1) " water PLANTS " where
  noId := rfl
  named := rfl
  accepted := ⟨⟨by decide, by decide +kernel, rfl⟩, by decide +kernel, rfl, _, rfl⟩
  asked := by decide
  aligned := rfl

theorem localRouter_lowers (text : String) (empty : localRouter.py.lower text = "") :
    text = "" := by
  change String.ofList (text.toList.map Python.asciiLower) = "" at empty
  rw [String.ofList_eq_empty_iff, List.map_eq_nil_iff] at empty
  exact String.toList_eq_nil_iff.mp empty

/-- The row a check picks out. -/
theorem exists_of_find (tasks : TaskTable) (id : Int) {p : TaskRow → Prop} [DecidablePred p]
    (checked : (tasks.find id).any (fun row => decide (p row)) = true) : ∃ row, p row := by
  cases found : tasks.find id with
  | none =>
    rw [found] at checked
    cases checked
  | some row =>
    rw [found] at checked
    exact ⟨row, of_decide_eq_true checked⟩

def createIntent : Value := .dict (plantIntent "create_task" [("task", .str "Water plants")])

def cancelIntent : Value := .dict (plantIntent "cancel_task" plantEntities)

/-- The state after these intents. -/
def after (intents : List Value) : RouterState Nat :=
  run (routeStep localRouter) (newState 0) intents

theorem live_task_addressed_iff_created : ∃ row,
    OnlyLive localRouter.taskStore (after [createIntent]).memory.tasks " water PLANTS " row ∧
      Addressed localRouter (after [createIntent]) (plantIntent "complete_task" plantEntities)
        plantEntities row := by
  obtain ⟨row, only⟩ : ∃ row, OnlyLive localRouter.taskStore (after [createIntent]).memory.tasks
      " water PLANTS " row :=
    exists_of_find (after [createIntent]).memory.tasks 1 (by decide +kernel)
  refine ⟨row, only, (live_task_addressed_iff localRouter localRouter_lowers 0 [createIntent] _ rfl
    " water PLANTS " row only (plantIntent "complete_task" plantEntities) plantEntities
    "complete_task" (.finite 1) plant_refers).1.mpr ?_⟩
  decide +kernel

/-- A task cancelled and created again is the only live one of its name, and the intent that
completes it by that name is answered as a failed lookup. -/
theorem recreated_task_ambiguous : ∃ row result s',
    OnlyLive localRouter.taskStore (after [createIntent, cancelIntent, createIntent]).memory.tasks
      " water PLANTS " row ∧
    RefersByName localRouter (plantIntent "complete_task" plantEntities) plantEntities
      "complete_task" (.finite 1) " water PLANTS " ∧
    localRouter.route (.dict (plantIntent "complete_task" plantEntities))
      (after [createIntent, cancelIntent, createIntent]) = (.ok result, s') ∧
    result.errorCode = some .invalidEntity := by
  obtain ⟨row, only⟩ : ∃ row, OnlyLive localRouter.taskStore
      (after [createIntent, cancelIntent, createIntent]).memory.tasks " water PLANTS " row :=
    exists_of_find (after [createIntent, cancelIntent, createIntent]).memory.tasks 2
      (by decide +kernel)
  have code : (localRouter.route (.dict (plantIntent "complete_task" plantEntities))
      (after [createIntent, cancelIntent, createIntent])).1.toOption.map CommandResult.errorCode =
        some (some .invalidEntity) := by
    decide +kernel
  rcases ran : localRouter.route (.dict (plantIntent "complete_task" plantEntities))
    (after [createIntent, cancelIntent, createIntent]) with ⟨r, s'⟩
  rw [ran] at code
  cases r with
  | error exc => cases code
  | ok result => exact ⟨row, result, s', only, plant_refers, rfl, Option.some.inj code⟩

end Apcos.Guarantees.TaskNames
