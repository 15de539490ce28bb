import Apcos.Guarantees.CommandRoundTrip
import Apcos.Guarantees.StoredTasks
import Apcos.Guarantees.TaskNames

/-!
# Parsed texts are routable

core/cognition/intent_parser.py:23-130 composed with core/cognition/command_router.py:366-446 on
a router with its default settings. What the parser returns always passes the router; the one
text it does not return for is a schedule command whose clock is out of range.
-/
namespace Apcos.Guarantees.RoutableCommands

open Apcos.Lib Apcos.Lib.Words
open Apcos.Source
open Apcos.Source.Python
open Apcos.Source.Memory
open Apcos.Source.Cognition
open Apcos.Guarantees.CommandGrammar
open Apcos.Guarantees.CommandReading
open Apcos.Guarantees.CommandRoundTrip
open Apcos.Guarantees.RouterAudit
open Apcos.Guarantees.RoutedIntents
open Apcos.Guarantees.RoutedEffects (newState)
open Apcos.Guarantees.TaskNames

variable {ω : Type}

/-! ## Dates of years 2 to 9998 -/

theorem ord2ymd_year (day : Nat) : (ord2ymd day).1 =
    if day % 146097 % 36524 % 1461 / 365 = 4 ∨ day % 146097 / 36524 = 4 then
      day / 146097 * 400 + day % 146097 / 36524 * 100 + day % 146097 % 36524 / 1461 * 4 +
        day % 146097 % 36524 % 1461 / 365
    else
      day / 146097 * 400 + day % 146097 / 36524 * 100 + day % 146097 % 36524 / 1461 * 4 +
        day % 146097 % 36524 % 1461 / 365 + 1 := by
  unfold ord2ymd
  dsimp only
  split
  · omega
  · split <;> split <;> omega

theorem date_bounds {d : DateTime} (least : 2 ≤ d.year) (most : d.year ≤ 9998) :
    365 ≤ d.date ∧ d.date < 3651694 := by
  unfold DateTime.year at least most
  rw [ord2ymd_year] at least most
  constructor
  · split at least <;> omega
  · split at most <;> omega

/-- A day that is neither the first nor the last one is a day in UTC as well. -/
theorem toUtc_of_date {d : DateTime} (first : 1 ≤ d.date) (last : d.date + 1 < maxOrdinal) :
    d.toUtc ≠ none := by
  have lower : microsPerDay ≤ d.micros.val := (Nat.one_le_div_iff (by decide)).mp first
  have upper : d.micros.val < (d.date + 1) * microsPerDay :=
    (Nat.div_lt_iff_lt_mul (by decide)).mp (Nat.lt_succ_self d.date)
  have room : (d.date + 1 + 1) * microsPerDay ≤ maxOrdinal * microsPerDay :=
    Nat.mul_le_mul_right _ last
  rw [Nat.succ_mul] at room
  have inside (offset : Int) (small : offset.natAbs < microsPerDay) :
      0 ≤ (d.micros.val : Int) - offset ∧
        (d.micros.val : Int) - offset < maxOrdinal * microsPerDay := by
    have whole : ((maxOrdinal * microsPerDay : Nat) : Int) = maxOrdinal * microsPerDay :=
      Int.natCast_mul _ _
    rw [← whole]
    omega
  rcases d with ⟨micros, _ | offset⟩
  · rw [DateTime.toUtc, dif_pos (inside 0 (by decide))]
    exact nofun
  · rw [DateTime.toUtc, dif_pos (inside offset.val offset.property)]
    exact nofun

/-! ## ISO texts -/

theorem mem_padded {width n : Nat} {c : Char} (member : c ∈ (padded width n).toList) :
    c.isDigit = true := by
  rw [padded, String.toList_ofList] at member
  rcases List.mem_append.mp member with zero | digit
  · rw [(List.mem_replicate.mp zero).2]
    rfl
  · exact Nat.isDigit_of_mem_toDigits (by decide) (by decide) digit

/-- Digits and marks only. -/
def IsoText (s : String) : Prop :=
  ∀ c ∈ s.toList, c.isDigit = true ∨ c ∈ ['-', 'T', ':', '.', '+']

instance (s : String) : Decidable (IsoText s) :=
  inferInstanceAs (Decidable (∀ c ∈ s.toList, _))

theorem isoText_padded (width n : Nat) : IsoText (padded width n) :=
  fun _ member => Or.inl (mem_padded member)

theorem isoText_append {s t : String} : IsoText (s ++ t) ↔ IsoText s ∧ IsoText t := by
  unfold IsoText
  rw [String.toList_append, List.forall_mem_append]

theorem isoText_marks : IsoText "-" ∧ IsoText "T" ∧ IsoText ":" ∧ IsoText "." ∧ IsoText "+" ∧
    IsoText "" := by
  decide

theorem isoText_offsetText (offset : Int) : IsoText (offsetText offset) := by
  have marks := isoText_marks
  unfold offsetText
  dsimp only
  split_ifs <;> simp only [isoText_append, isoText_padded, marks, and_self]

theorem isoText_isoformat (d : DateTime) : IsoText d.isoformat := by
  have marks := isoText_marks
  unfold DateTime.isoformat
  dsimp only
  cases d.utcoffset <;> split_ifs <;>
    simp only [isoText_append, isoText_padded, isoText_offsetText, marks, and_self]

/-- An ISO text has no zone letter to replace. -/
theorem replace_isoformat (d : DateTime) : replaceChar 'Z' "+00:00" d.isoformat = d.isoformat := by
  have kept (c : Char) (member : c ∈ d.isoformat.toList) :
      (if c = 'Z' then "+00:00".toList else [c]) = [c] := by
    refine if_neg fun zone => ?_
    subst zone
    exact absurd (isoText_isoformat d 'Z' member) (by decide)
  rw [replaceChar, List.flatMap_congr kept, List.flatMap_singleton', String.ofList_toList]

/-- An ISO text is visible. -/
theorem blank_isoformat (d : DateTime) : blank d.isoformat = false := by
  rw [← Bool.not_eq_true, blank_iff]
  intro spaces
  have mark : 'T' ∈ d.isoformat.toList := by
    unfold DateTime.isoformat
    simp only [String.toList_append]
    simp
  exact absurd (spaces 'T' mark) (by decide)

/-- `fromisoformat` reads what `isoformat` writes, as a moment that UTC has too. -/
def ReadsIso (py : Runtime) : Prop :=
  ∀ d : DateTime, d.toUtc ≠ none → ∃ read, py.fromisoformat d.isoformat = some read ∧ read.toUtc ≠ none

theorem normalizeTimestamp_isoformat {py : Runtime} (reads : ReadsIso py) {d : DateTime}
    (utc : d.toUtc ≠ none) : ∃ text, normalizeTimestamp py (.str d.isoformat) = .ok text := by
  obtain ⟨read, parsed, within⟩ := reads d utc
  obtain ⟨shown, converted⟩ := Option.ne_none_iff_exists'.mp within
  have dated : timestampDate py (.str d.isoformat) = .ok read := by
    rw [timestampDate, replace_isoformat, parsed]
  refine ⟨shown.isoformat, ?_⟩
  rw [normalizeTimestamp, dated, ok_bind, converted]
  rfl

/-! ## The shape of a parsed intent -/

/-- The shape that the docstring of `parse_intent` gives. -/
def DocumentedShape (intent : Dict) : Prop :=
  ∃ intentType entities timestamp confidence, intent =
    [("intent_type", .str intentType), ("entities", .dict entities), ("timestamp", .str timestamp),
      ("confidence_score", .float confidence)]

theorem documented_intentDict (intentType : String) (entities : Dict) (current : DateTime)
    (confidence : Rat) : DocumentedShape (intentDict intentType entities current confidence) :=
  ⟨intentType, entities, current.isoformat, .finite confidence, rfl⟩

theorem normalize_parsedType (py : Runtime) : ∀ intentType ∈ parsedTypes,
    normalizeIntentType py (.str intentType) = .ok intentType := by
  have spelled : ∀ intentType ∈ parsedTypes, blank intentType = false ∧
      isAscii (strip intentType) = true ∧
        String.ofList ((strip intentType).toList.map asciiLower) = intentType := by
    decide
  intro intentType named
  obtain ⟨visible, ascii, lower⟩ := spelled intentType named
  simp only [normalizeIntentType, visible, py.lower_ascii _ ascii, lower]
  rfl

/-- A parsed intent passes the validation of its shape. -/
theorem accepted_intentDict {py : Runtime} (reads : ReadsIso py) {current : DateTime}
    (utc : current.toUtc ≠ none) {intentType : String} (named : intentType ∈ parsedTypes)
    (entities : Dict) {confidence : Rat} (least : 0 ≤ confidence) (most : confidence ≤ 1) :
    Accepted py (intentDict intentType entities current confidence) entities intentType
      (.finite confidence) where
  complete := by
    intro key member
    simp only [requiredIntentKeys, List.mem_cons, List.not_mem_nil, or_false] at member
    rcases member with rfl | rfl | rfl | rfl <;> exact Option.some_ne_none _
  typed := normalize_parsedType py intentType named
  mapped := rfl
  scored := by
    have given : Dict.get (intentDict intentType entities current confidence) "confidence_score" =
        .float (.finite confidence) := rfl
    have below : (PyFloat.finite confidence).lt (.finite 0) = false := by
      simp [PyFloat.lt, not_lt.mpr least]
    have above : (PyFloat.finite 1).lt (.finite confidence) = false := by
      simp [PyFloat.lt, not_lt.mpr most]
    have converted : Python.float py (.float (.finite confidence)) = .ok (.finite confidence) := rfl
    rw [given, Cognition.unitInterval, if_neg (by simp [isNumeric]), converted, ok_bind, below, above]
    rfl
  printable := rfl
  dated := normalizeTimestamp_isoformat reads utc

/-! ## Results that blame neither the intent nor the router -/

def Clean (outcome : Except Exc CommandResult × RouterState ω) : Prop :=
  ∃ result s, outcome = (.ok result, s) ∧ result.errorCode ≠ some .invalidIntentShape ∧
    result.errorCode ≠ some .internalError

/-- The router does not answer the exception with an internal error. -/
def NotInternal (exc : Exc) : Prop := CommandRouter.errorCodeOf exc ≠ .internalError

theorem errorCodeOf_shape (exc : Exc) : CommandRouter.errorCodeOf exc ≠ .invalidIntentShape := by
  unfold CommandRouter.errorCodeOf
  split
  · simp
  · split <;> simp

theorem clean_reject_iff (router : CommandRouter ω) (auditId : String) (intent : NormalizedIntent)
    (action : Action) (errorCode : ErrorCode) (metadata : Dict) (s : RouterState ω) :
    Clean (router.reject auditId intent action errorCode metadata s) ↔
      errorCode ≠ .invalidIntentShape ∧ errorCode ≠ .internalError := by
  constructor
  · rintro ⟨result, t, returned, shape, internal⟩
    cases returned
    exact ⟨fun same => shape (congrArg some same), fun same => internal (congrArg some same)⟩
  · rintro ⟨shape, internal⟩
    exact ⟨_, _, rfl, by simpa using shape, by simpa using internal⟩

/-- An execution is clean if its handler raises nothing unexpected. -/
theorem clean_execute_iff (router : CommandRouter ω) (auditId : String) (intent : NormalizedIntent)
    (definition : ActionDefinition ω) (s : RouterState ω) :
    Clean (router.execute auditId intent definition s) ↔
      ∀ exc t, definition.handler intent.entities s = (.error exc, t) → NotInternal exc := by
  rcases ran : definition.handler intent.entities s with ⟨r, t⟩
  cases r with
  | ok execution =>
    refine iff_of_true ?_ nofun
    unfold CommandRouter.execute Comp.handle
    rw [Comp.bind_of_ok ran]
    exact ⟨_, _, rfl, by simp, by simp⟩
  | error exc =>
    rw [execute_raised router auditId ran, clean_reject_iff]
    constructor
    · rintro ⟨-, internal⟩ other u same
      cases same
      exact internal
    · intro quiet
      exact ⟨errorCodeOf_shape exc, quiet exc t rfl⟩

/-! ## Creation -/

/-- The default settings, over a store without external authorities. -/
structure DefaultRouter (router : CommandRouter ω) : Prop extends Unbridged router.taskStore where
  storageOptional : router.taskStore.enforceStorageAuthority = false
  threshold : router.minConfidence = defaultMinConfidence

/-- The entities of a schedule command. -/
def scheduleEntities (title dueAt : String) : Dict := [("task", .str title), ("due_at", .str dueAt)]

/-- A row without a description, a goal and a priority is refused for want of a row id only. -/
theorem createTaskRow_plain (store : TaskStore ω) (title : String) (dueAt : Option String)
    (timestamp : String) (s : MemoryState ω) :
    (s.tasks.sequence < maxRowId → ∃ id t record,
      store.createTaskRow title .null .null dueAt 0 timestamp s = (.ok id, t) ∧
        store.getTask id t = (.ok (some record), t)) ∧
    (¬s.tasks.sequence < maxRowId → ∃ message,
      store.createTaskRow title .null .null dueAt 0 timestamp s =
        (.error ⟨.sqliteError, message⟩, s)) := by
  have plain : store.createTaskRow title .null .null dueAt 0 timestamp s =
      (s.tasks.insert
        { id := 0, titleEnc := store.encryption.encrypt title, descriptionEnc := none,
          goalEnc := none, dueAt, priority := 0, state := .created, createdAt := timestamp,
          updatedAt := timestamp, archivedAt := none }).elim
        (.error ⟨.sqliteError, "database or disk is full"⟩, s)
        fun placed => (.ok placed.1, { s with tasks := placed.2 }) := by
    have empty : store.encryptStripped .null = .ok none := rfl
    have zero : bindInteger 0 = .ok 0 := by decide
    simp only [TaskStore.createTaskRow, empty, zero, Comp.ofExcept_ok_bind, Comp.get_bind]
    generalize s.tasks.insert _ = inserted
    cases inserted with
    | none => rfl
    | some placed => rfl
  constructor
  · intro room
    rcases store.createTaskRow_cases title .null .null dueAt 0 timestamp s with
      ⟨exc, raised⟩ | ⟨row, id, after, record, -, -, insertion, read, -, inserted⟩
    · rw [plain, TaskTable.insert, if_pos room] at raised
      cases raised
    · exact ⟨id, _, record, inserted, by rw [TaskStore.getTask, read]⟩
  · intro full
    refine ⟨"database or disk is full", ?_⟩
    rw [plain, TaskTable.insert, if_neg full]
    rfl

/-- A titled task is stored unless the row ids are used up. -/
theorem createTask_plain {router : CommandRouter ω} (default : DefaultRouter router)
    {title : String} (visible : strip title ≠ "") (dueAt : Option String) (s : MemoryState ω) :
    (s.tasks.sequence < maxRowId → ∃ record t,
      router.taskStore.createTask title .null dueAt .null 0 s = (.ok (some record), t)) ∧
    (¬s.tasks.sequence < maxRowId → ∃ message t,
      router.taskStore.createTask title .null dueAt .null 0 s =
        (.error ⟨.sqliteError, message⟩, t)) := by
  obtain ⟨room, full⟩ := createTaskRow_plain router.taskStore (strip title) dueAt
    (router.taskStore.host.datetimeNow s.wire.env).1.isoformat
    { s with wire := ⟨(router.taskStore.host.datetimeNow s.wire.env).2, s.wire.exchanges⟩ }
  rw [TaskStore.createTask, if_neg visible, Comp.bind_of_ok (router.taskStore.utcNowIso_eq s)]
  simp only [StoredTasks.storageGate_open ⟨default.storageBridge, default.memoryBridgeArgument⟩
    default.storageOptional]
  constructor
  · intro free
    obtain ⟨id, t, record, inserted, read⟩ := room free
    exact ⟨record, t, (Comp.bind_of_ok inserted).trans read⟩
  · intro exhausted
    obtain ⟨message, stopped⟩ := full exhausted
    exact ⟨message, _, Comp.bind_of_error stopped⟩

/-- The create handler on what the parser made of a schedule command. -/
theorem handleCreateTask_scheduled (router : CommandRouter ω) (title dueAt : String) :
    router.handleCreateTask (scheduleEntities title dueAt) = (do
      let created ← CommandRouter.onMemory
        (router.taskStore.createTask title .null (some dueAt) .null 0)
      let record ← Comp.ofExcept (CommandRouter.present created)
      if record.state ≠ .created then
        Comp.raise ⟨.invalidStateTransitionError, "New task must begin in CREATED state"⟩
      else return ⟨.createTask, none, some record.state.value,
        [("task_id", .int record.taskId)]⟩) := rfl

/-- The create handler meets an internal error exactly on a table without a free row id. -/
theorem createTask_internal_iff {router : CommandRouter ω} (default : DefaultRouter router)
    {title dueAt : String} (visible : strip title ≠ "") (s : RouterState ω) :
    (∀ exc t, router.handleCreateTask (scheduleEntities title dueAt) s = (.error exc, t) →
        NotInternal exc) ↔ s.memory.tasks.sequence < maxRowId := by
  obtain ⟨room, full⟩ := createTask_plain default visible (some dueAt) s.memory
  rw [handleCreateTask_scheduled]
  by_cases free : s.memory.tasks.sequence < maxRowId
  · refine iff_of_true (fun exc u raised => ?_) free
    obtain ⟨record, m, returned⟩ := room free
    have created : CommandRouter.onMemory
        (router.taskStore.createTask title .null (some dueAt) .null 0) s =
          (.ok (some record), { s with memory := m }) := Comp.zoom_of_eq returned
    rw [Comp.bind_of_ok created] at raised
    simp only [CommandRouter.present, Comp.ofExcept_ok_bind] at raised
    split at raised
    · cases raised
      simp [NotInternal, CommandRouter.errorCodeOf, Exc.isInvalidStateTransition]
    · cases raised
  · refine iff_of_false (fun quiet => ?_) free
    obtain ⟨message, m, stopped⟩ := full free
    have refused : CommandRouter.onMemory
        (router.taskStore.createTask title .null (some dueAt) .null 0) s =
          (.error ⟨.sqliteError, message⟩, { s with memory := m }) := Comp.zoom_of_eq stopped
    exact quiet _ _ (Comp.bind_of_error refused) rfl

/-! ## References -/

theorem allows_notInternal {router : CommandRouter ω} (default : DefaultRouter router) :
    Allows router.taskStore NotInternal where
  refused message := by simp [NotInternal, CommandRouter.errorCodeOf, Exc.isInvalidStateTransition]
  unauthorised enforced := by
    rw [default.storageOptional] at enforced
    cases enforced

/-- A handler of a name meets no internal error. -/
theorem transition_internal {router : CommandRouter ω} (default : DefaultRouter router)
    {actionType : Action} {final : TaskState} {entities : Dict} {s t : RouterState ω} {exc : Exc}
    (legible : Legible router.taskStore s.memory.tasks)
    (named : Dict.get entities "task_id" = .null)
    (raised : router.handleTransition actionType final
      (fun taskId => router.taskStore.transitionTask taskId final.value) entities s =
        (.error exc, t)) : NotInternal exc := by
  cases resolved : CommandRouter.resolve router.taskStore s.memory.tasks entities with
  | ok task =>
    exact transition_error default.toUnbridged (allows_notInternal default) legible resolved raised
  | error other =>
    have failed : lookupFailure other = true :=
      resolve_error (fun id number => by rw [named] at number; cases number) resolved
    have read : router.resolveTaskReference entities s = (.error other, s) := by
      rw [CommandRouter.resolveTaskReference, resolved]
    rw [CommandRouter.handleTransition, Comp.bind_of_error read] at raised
    cases raised
    unfold NotInternal CommandRouter.errorCodeOf
    split
    · simp
    · rw [lookupFailure, Bool.or_eq_true] at failed
      rw [if_pos (by rcases failed with key | value <;> simp [*])]
      simp

/-- The entities of a mark or a cancel command. -/
def NameOnly (entities : Dict) : Prop :=
  entities = [] ∨ ∃ name, blank name = false ∧ entities = [("task", .str name)]

/-- A name alone passes the checks of a reference and of the challenge. -/
theorem named_checked (router : CommandRouter ω) (tasks : TaskTable) {name : String}
    (visible : blank name = false) : let entities : Dict := [("task", .str name)]
    NamesTask entities ∧ checkAlignment router.py entities = .ok () ∧
      validateTaskReferenceEntities router.py entities = .ok () ∧
      ChallengeSafe router tasks entities := by
  intro entities
  have bare : Dict.get entities "task_id" = .null := rfl
  have given : Dict.get entities "task" = .str name := rfl
  have referred : checkReference entities = .ok () := by
    simp only [checkReference, bare, given, visible]
    rfl
  refine ⟨Or.inr ⟨bare, name, given, visible⟩, rfl, ?_, fun id number => ?_, fun _ _ => ?_⟩
  · rw [validateTaskReferenceEntities, referred]
    rfl
  · rw [bare] at number
    cases number
  · exact ⟨fun null => (by cases null), rfl⟩

/-- The definition of the actions on a task that is named. -/
def referenceDefinition (router : CommandRouter ω) (actionType : Action) (final : TaskState) :
    ActionDefinition ω :=
  ⟨actionType, router.handleTransition actionType final
    (fun taskId => router.taskStore.transitionTask taskId final.value),
    validateTaskReferenceEntities router.py, true⟩

/-- A reference by name is executed or refused, and raises nothing. -/
theorem clean_reference {router : CommandRouter ω} (default : DefaultRouter router)
    (auditId : String) {intent : NormalizedIntent} (actionType : Action) (final : TaskState)
    {s : RouterState ω} (legible : Legible router.taskStore s.memory.tasks)
    (only : NameOnly intent.entities) :
    Clean (router.runDefinition auditId intent (referenceDefinition router actionType final) s) := by
  rcases only with unnamed | ⟨name, visible, named⟩
  · simp only [CommandRouter.runDefinition, unnamed]
    exact (clean_reject_iff router auditId intent _ _ _ s).mpr ⟨by simp, by simp⟩
  · obtain ⟨names, aligned, valid, safe⟩ := named_checked router s.memory.tasks visible
    rw [← named] at names aligned valid safe
    have passed : (referenceDefinition router actionType final).validator intent.entities =
        .ok () := valid
    obtain ⟨payload, u, evaluated⟩ : ∃ payload u, router.evaluateChallenge intent
        (referenceDefinition router actionType final) s = (.ok payload, u) := by
      cases gate : router.enableChallengeGate with
      | false => exact ⟨none, s, evaluateChallenge_skipped router intent _ s (Or.inl gate)⟩
      | true =>
        rcases evaluateChallenge_cases router intent (referenceDefinition router actionType final) s
          gate rfl names aligned with ⟨-, payload, u, evaluated, -⟩ | ⟨notSafe, -⟩
        · exact ⟨payload, u, evaluated⟩
        · exact absurd safe notSafe
    simp only [CommandRouter.runDefinition, passed]
    rw [Comp.bind_of_ok evaluated]
    cases payload with
    | some payload => exact ⟨_, _, rfl, by simp, by simp⟩
    | none =>
      have untouched := evaluateChallenge_none evaluated
      subst untouched
      refine (clean_execute_iff router auditId intent _ u).mpr fun exc t raised => ?_
      exact transition_internal default legible (by rw [named]; rfl) raised

/-! ## Routing a parsed intent -/

theorem scheduleEntities_valid {py : Runtime} (reads : ReadsIso py) {title : String}
    (visible : blank title = false) {due : DateTime} (utc : due.toUtc ≠ none) :
    validateCreateTaskEntities py (scheduleEntities title due.isoformat) = .ok () := by
  obtain ⟨text, normalized⟩ := normalizeTimestamp_isoformat reads utc
  have titled : checkTitle (scheduleEntities title due.isoformat) = .ok () := if_neg (by simp [visible])
  have dated : checkDueAt py (scheduleEntities title due.isoformat) = .ok () := by
    have given : Dict.get (scheduleEntities title due.isoformat) "due_at" = .str due.isoformat := rfl
    simp only [checkDueAt, given, blank_isoformat, normalized]
    rfl
  rw [validateCreateTaskEntities, titled, ok_bind, dated, ok_bind]
  rfl

theorem blank_of_strip {title : String} (visible : strip title ≠ "") : blank title = false := by
  simp [blank, visible]

section
variable {router : CommandRouter ω} (default : DefaultRouter router) (reads : ReadsIso router.py)
  {current : DateTime} (utc : current.toUtc ≠ none) (s : RouterState ω)
include default reads utc

/-- A confident intent of a registered type is run. -/
theorem clean_route_iff {intentType : String} (named : intentType ∈ parsedTypes) (entities : Dict)
    {confidence : Rat} (range : 0 ≤ confidence ∧ confidence ≤ 1)
    (confident : (PyFloat.finite confidence).lt defaultMinConfidence = false)
    {definition : ActionDefinition ω}
    (registered : router.registry.lookup intentType = some definition) :
    ∃ auditId intent u, intent.entities = entities ∧ u.memory.tasks = s.memory.tasks ∧
      (Clean (router.route (.dict (intentDict intentType entities current confidence)) s) ↔
        Clean (router.runDefinition auditId intent definition u)) := by
  have accepted := accepted_intentDict reads utc named entities range.1 range.2
  obtain ⟨auditId, intent, u, routed, quiet, same, typed, score⟩ := route_accepted accepted s
  refine ⟨auditId, intent, u, same, quiet.parts.1, ?_⟩
  rw [← typed] at registered
  rw [← score, ← default.threshold] at confident
  rw [routed, CommandRouter.routeIntent_registered confident registered]

theorem clean_schedule_iff {title : String} (visible : strip title ≠ "") {due : DateTime}
    (dueUtc : due.toUtc ≠ none) :
    Clean (router.route (.dict (intentDict "schedule_task" (scheduleEntities title due.isoformat)
      current confidence93)) s) ↔ s.memory.tasks.sequence < maxRowId := by
  obtain ⟨auditId, intent, u, entities, tasks, routed⟩ := clean_route_iff default reads utc s
    (by decide : "schedule_task" ∈ parsedTypes) (scheduleEntities title due.isoformat)
    (by decide +kernel : 0 ≤ confidence93 ∧ confidence93 ≤ 1) (by decide +kernel)
    (rfl : router.registry.lookup "schedule_task" = some router.createDefinition)
  have valid : router.createDefinition.validator intent.entities = .ok () := by
    rw [entities]
    exact scheduleEntities_valid reads (blank_of_strip visible) dueUtc
  rw [routed, CommandRouter.runDefinition, valid]
  dsimp only
  rw [Comp.bind_of_ok (evaluateChallenge_skipped router intent router.createDefinition u (Or.inr rfl)),
    clean_execute_iff, entities, ← tasks]
  exact createTask_internal_iff default visible u

theorem clean_mark {name : String} (visible : blank name = false)
    (legible : Legible router.taskStore s.memory.tasks) :
    Clean (router.route (.dict (intentDict "mark_completed" [("task", .str name)] current
      confidence96)) s) := by
  obtain ⟨auditId, intent, u, entities, tasks, routed⟩ := clean_route_iff default reads utc s
    (by decide : "mark_completed" ∈ parsedTypes) [("task", .str name)]
    (by decide +kernel : 0 ≤ confidence96 ∧ confidence96 ≤ 1) (by decide +kernel)
    (rfl : router.registry.lookup "mark_completed" =
      some (referenceDefinition router .completeTask .completed))
  rw [← tasks] at legible
  exact routed.mpr (clean_reference default auditId .completeTask .completed legible
    (Or.inr ⟨name, visible, entities⟩))

theorem clean_cancel {entities : Dict} (only : NameOnly entities)
    (legible : Legible router.taskStore s.memory.tasks) :
    Clean (router.route (.dict (intentDict "cancel_task" entities current confidence91)) s) := by
  obtain ⟨auditId, intent, u, same, tasks, routed⟩ := clean_route_iff default reads utc s
    (by decide : "cancel_task" ∈ parsedTypes) entities
    (by decide +kernel : 0 ≤ confidence91 ∧ confidence91 ≤ 1) (by decide +kernel)
    (rfl : router.registry.lookup "cancel_task" =
      some (referenceDefinition router .cancelTask .archived))
  rw [← tasks] at legible
  exact routed.mpr (clean_reference default auditId .cancelTask .archived legible (same ▸ only))

/-- An intent that nothing was read in is rejected for its confidence. -/
theorem clean_unknown (entities : Dict) {confidence : Rat} (least : 0 ≤ confidence)
    (low : confidence ≤ 1 / 4) :
    Clean (router.route (.dict (intentDict "unknown" entities current confidence)) s) := by
  have accepted := accepted_intentDict reads utc (by decide : "unknown" ∈ parsedTypes) entities
    least (le_trans low (by decide +kernel))
  obtain ⟨auditId, intent, u, routed, -, -, -, score⟩ := route_accepted accepted s
  have unsure : (PyFloat.finite confidence).lt defaultMinConfidence = true :=
    decide_eq_true (lt_of_le_of_lt low (by decide +kernel))
  rw [routed, CommandRouter.routeIntent, score, default.threshold, if_pos unsure, clean_reject_iff]
  exact ⟨by simp, by simp⟩

end

/-! ## Parsing and routing a text -/

/-- The text is parsed to an intent of the documented shape, and routing that intent gives a result
that blames neither its shape nor the router. -/
def ParsedAndRouted (router : CommandRouter ω) (text : String) (current : DateTime)
    (s : RouterState ω) : Prop :=
  ∃ intent, parseIntent router.py text current = .ok intent ∧ DocumentedShape intent ∧
    Clean (router.route (.dict intent) s)

theorem scheduled_name {py : Runtime} {words name : List (List Char)}
    {clock : Option (Clock × List Char)} (scheduled : Scheduled py words name clock) :
    name ≠ [] := by
  cases scheduled with
  | plain keyword day name opens some => exact some
  | timed keyword day preposition name told clock gap opens some => exact some

theorem marked_name {words name : List (List Char)} (marked : Marked words name) : name ≠ [] := by
  cases marked with
  | named keyword final name opens some => exact some

/-- Joined words are visible. -/
theorem joined_visible {words name : List (List Char)} (all : ∀ word ∈ words, IsWord isSpace word)
    (within : ∀ word ∈ name, word ∈ words) (some : name ≠ []) :
    strip (String.ofList (join ' ' name)) ≠ "" := by
  rw [strip_name all within]
  intro empty
  exact join_ne_nil (fun word member => all word (within word member)) some
    (String.ofList_eq_empty_iff.mp empty)

theorem selectedTime_lt {py : Runtime} {clock : Option (Clock × List Char)}
    (range : TimeInRange py clock) :
    (selectedTime py clock).hour < 24 ∧ (selectedTime py clock).minute < 60 := by
  cases clock with
  | none => exact ⟨(by decide : 9 < 24), (by decide : 0 < 60)⟩
  | some told => exact told_lt (range told rfl)

section
variable {router : CommandRouter ω} (default : DefaultRouter router)
  (uncased : DigitsUncased router.py) (reads : ReadsIso router.py) {s : RouterState ω}
  (text : String) {current : DateTime} (least : 2 ≤ current.year) (most : current.year ≤ 9998)
include default uncased reads least most

/-- A schedule command is parsed and routed if its clock is in range and a row id is free. -/
theorem scheduled_routed_iff {name : List (List Char)} {clock : Option (Clock × List Char)}
    (scheduled : Scheduled router.py (wordsOf text) name clock) :
    ParsedAndRouted router text current s ↔
      TimeInRange router.py clock ∧ s.memory.tasks.sequence < maxRowId := by
  have all := wordsOf_isWord text
  obtain ⟨first, last⟩ := date_bounds least most
  have visible : strip (String.ofList (join ' ' name)) ≠ "" := by
    obtain ⟨keyword, behind, shape, -⟩ := scheduled.ending all
    refine joined_visible all (fun word member => ?_) (scheduled_name scheduled)
    rw [shape]
    simp [member]
  have parsed := parse_scheduled router.py text current scheduled
  by_cases range : TimeInRange router.py clock
  · have next : current.date + 1 < maxOrdinal := by
      unfold maxOrdinal
      omega
    obtain ⟨hour, minute⟩ := selectedTime_lt range
    obtain ⟨due, set, after⟩ := tomorrowAt_ok next hour minute
    have dueUtc : due.toUtc ≠ none := by
      apply toUtc_of_date
      · rw [after.date]
        omega
      · rw [after.date]
        unfold maxOrdinal
        omega
    have utc : current.toUtc ≠ none := toUtc_of_date (by omega) next
    rw [tomorrowTime_ok uncased all scheduled current range, dueText, set] at parsed
    have routed := clean_schedule_iff default reads utc s visible dueUtc
    constructor
    · rintro ⟨intent, returned, -, clean⟩
      rw [parsed] at returned
      cases returned
      exact ⟨range, routed.mp clean⟩
    · rintro ⟨-, free⟩
      exact ⟨_, parsed, documented_intentDict _ _ _ _, routed.mpr free⟩
  · obtain ⟨message, raised⟩ := tomorrowTime_error uncased all scheduled current range
    rw [raised] at parsed
    refine iff_of_false ?_ fun both => range both.1
    rintro ⟨intent, returned, -⟩
    rw [parsed] at returned
    cases returned

omit uncased in
/-- Every other text is parsed and routed. -/
theorem unscheduled_routed (legible : Legible router.taskStore s.memory.tasks)
    (unscheduled : ∀ name clock, ¬Scheduled router.py (wordsOf text) name clock) :
    ParsedAndRouted router text current s := by
  have all := wordsOf_isWord text
  obtain ⟨first, last⟩ := date_bounds least most
  have utc : current.toUtc ≠ none := toUtc_of_date (by omega) (by unfold maxOrdinal; omega)
  by_cases marked : ∃ name, Marked (wordsOf text) name
  · obtain ⟨name, marked⟩ := marked
    obtain ⟨keyword, final, shape, -⟩ := marked_opens marked
    have visible := joined_visible all (fun word member => by simp [shape, member])
      (marked_name marked)
    exact ⟨_, parse_marked router.py text current marked, documented_intentDict _ _ _ _,
      clean_mark default reads utc s (blank_of_strip visible) legible⟩
  by_cases cancelled : ∃ keyword rest, wordsOf text = keyword :: rest ∧ Spelled "cancel" keyword
  · obtain ⟨keyword, rest, words, opens⟩ := cancelled
    have within := cancelName_subset text words
    have only : NameOnly (cancelEntities (cancelName rest)) := by
      unfold cancelEntities
      split
      · exact Or.inl rfl
      · rename_i some
        exact Or.inr ⟨_, blank_of_strip (joined_visible all within some), rfl⟩
    exact ⟨_, parse_cancelled router.py text current words opens, documented_intentDict _ _ _ _,
      clean_cancel default reads utc s only legible⟩
  by_cases nothing : wordsOf text = []
  · exact ⟨_, parse_none router.py text current nothing, documented_intentDict _ _ _ _,
      clean_unknown default reads utc s [] le_rfl (by decide +kernel)⟩
  · have unread : Unread router.py text := ⟨unscheduled, fun name reading => marked ⟨name, reading⟩,
      fun keyword rest words opens => cancelled ⟨keyword, rest, words, opens⟩⟩
    exact ⟨_, parse_unread router.py text current nothing unread, documented_intentDict _ _ _ _,
      clean_unknown default reads utc s _ (by decide +kernel) le_rfl⟩

end

/-- Whatever was routed before, a text is parsed to a documented intent that is routed cleanly,
unless it is a schedule command that tells a clock out of range, or one for which the table has
no row id left. -/
theorem parsed_and_routed_iff (router : CommandRouter ω) (default : DefaultRouter router)
    (uncased : DigitsUncased router.py) (reads : ReadsIso router.py) (env : ω)
    (intents : List Value) (s : RouterState ω)
    (reached : run (routeStep router) (newState env) intents = s) (text : String)
    (current : DateTime) (least : 2 ≤ current.year) (most : current.year ≤ 9998) :
    ParsedAndRouted router text current s ↔
      ∀ name clock, Scheduled router.py (wordsOf text) name clock →
        TimeInRange router.py clock ∧ s.memory.tasks.sequence < maxRowId := by
  have legible : Legible router.taskStore s.memory.tasks := reached ▸ legible_run router env intents
  constructor
  · intro routed name clock scheduled
    exact (scheduled_routed_iff default uncased reads text least most scheduled).mp routed
  · intro feasible
    by_cases scheduled : ∃ name clock, Scheduled router.py (wordsOf text) name clock
    · obtain ⟨name, clock, scheduled⟩ := scheduled
      exact (scheduled_routed_iff default uncased reads text least most scheduled).mpr
        (feasible name clock scheduled)
    · refine unscheduled_routed default reads text least most legible fun name clock reading => ?_
      exact scheduled ⟨name, clock, reading⟩

/-! A runtime that reads the ISO texts of the two moments used. -/

/-- 0003-01-02T12:00 and the day after at 09:00, in UTC. -/
def thirdYear : DateTime := ⟨⟨731 * microsPerDay + 43200 * 10 ^ 6, by decide⟩, some utcOffset⟩

def thirdYearDue : DateTime := ⟨⟨732 * microsPerDay + 32400 * 10 ^ 6, by decide⟩, some utcOffset⟩

def isoRuntime : Runtime :=
  { asciiRuntime with
    fromisoformat := fun text =>
      if text = "0003-01-03T09:00:00+00:00" then some thirdYearDue else some thirdYear }

example : thirdYear.isoformat = "0003-01-02T12:00:00+00:00" ∧
    thirdYearDue.isoformat = "0003-01-03T09:00:00+00:00" := by decide +kernel

def isoRouter : CommandRouter Nat :=
  { localRouter with taskStore := { localRouter.taskStore with py := isoRuntime } }

theorem isoRouter_default : DefaultRouter isoRouter := ⟨⟨rfl, rfl, rfl⟩, rfl, rfl⟩

theorem thirdYear_utc : thirdYear.toUtc ≠ none ∧ thirdYearDue.toUtc ≠ none := by
  constructor
  · exact toUtc_of_date (by decide +kernel) (by decide +kernel)
  · exact toUtc_of_date (by decide +kernel) (by decide +kernel)

theorem isoRuntime_reads : ReadsIso isoRuntime := by
  intro d _
  generalize d.isoformat = text
  by_cases due : text = "0003-01-03T09:00:00+00:00"
  · exact ⟨thirdYearDue, if_pos due, thirdYear_utc.2⟩
  · exact ⟨thirdYear, if_neg due, thirdYear_utc.1⟩

theorem meeting_scheduled : Scheduled isoRuntime (wordsOf "schedule meeting tomorrow")
    ["meeting".toList] none :=
  .plain "schedule".toList "tomorrow".toList ["meeting".toList] (by decide) (by simp) (by decide)

theorem parsed_and_routed_iff_meeting :
    ParsedAndRouted isoRouter "schedule meeting tomorrow" thirdYear (newState 0) := by
  refine (parsed_and_routed_iff isoRouter isoRouter_default (fun _ _ => rfl) isoRuntime_reads 0 []
    (newState 0) rfl "schedule meeting tomorrow" thirdYear (by decide +kernel)
    (by decide +kernel)).mpr fun name clock scheduled => ⟨?_, by decide⟩
  have same := scheduled_unique (wordsOf_isWord _) scheduled meeting_scheduled
  cases clock with
  | none => exact nofun
  | some told => simp [scheduleCaptures] at same

/-- The hour 25 passes the schedule pattern, and the parser raises. -/
theorem hour_25_raises : (∃ message,
    parseIntent isoRuntime "schedule meeting tomorrow at 25" thirdYear =
      .error ⟨.valueError, message⟩) ∧
    ¬ParsedAndRouted isoRouter "schedule meeting tomorrow at 25" thirdYear (newState 0) := by
  have scheduled : Scheduled isoRuntime (wordsOf "schedule meeting tomorrow at 25")
      ["meeting".toList] (some (⟨['2', '5'], none, none⟩, [])) :=
    .timed "schedule".toList "tomorrow".toList "at".toList ["meeting".toList] ["25".toList]
      ⟨['2', '5'], none, none⟩ [] (by decide) (by simp) (by decide) (by decide)
      ⟨by decide, nofun, nofun⟩ (by simp) rfl
  have outside : ¬TimeInRange isoRuntime (some (⟨['2', '5'], none, none⟩, [])) := fun range =>
    absurd (range _ rfl).1 (by decide : ¬25 ≤ 23)
  obtain ⟨message, raised⟩ := tomorrowTime_error (fun _ _ => rfl) (wordsOf_isWord _) scheduled
    thirdYear outside
  have parsed := parse_scheduled isoRuntime _ thirdYear scheduled
  rw [raised] at parsed
  refine ⟨⟨message, parsed⟩, ?_⟩
  rintro ⟨intent, returned, -⟩
  cases parsed.symm.trans returned

end Apcos.Guarantees.RoutableCommands
