import Apcos.Lib.Traverse
import Apcos.Source.Cognition.CommandRouter

/-!
# What the router's parts can do

Which exceptions the pure checks raise, stated exactly for those that the
`except ValueError` clauses of `route` let through, and that only
`emitAuditEvent` writes the audit log.
-/
namespace Apcos.Source.Cognition

open Apcos.Lib
open Apcos.Source.Python (Value Dict Exc PyFloat Runtime DateTime strip blank floatOfInt)
open Apcos.Source.Memory

/-! ## Escaping exceptions -/

/-- The computation raised something that is no `ValueError`. -/
def Escapes {α : Type} (r : Except Exc α) : Prop := ∃ exc, r = .error exc ∧ exc.isValueError = false

theorem not_escapes_ok {α : Type} (a : α) : ¬Escapes (.ok a) := by
  rintro ⟨exc, raised, -⟩
  cases raised

theorem escapes_error {α : Type} (exc : Exc) :
    Escapes (.error exc : Except Exc α) ↔ exc.isValueError = false := by
  constructor
  · rintro ⟨raised, same, other⟩
    cases same
    exact other
  · intro other
    exact ⟨exc, rfl, other⟩

theorem not_escapes_valueError {α : Type} (message : String) :
    ¬Escapes (.error ⟨.valueError, message⟩ : Except Exc α) := by
  rw [escapes_error]
  intro other
  cases other

/-- A date of the timestamp has a UTC instant within years 1 to 9999. -/
def InCalendar (py : Runtime) (v : Value) : Prop :=
  ∀ date, timestampDate py v = .ok date → date.toUtc ≠ none

/-- An integer beyond the largest double. -/
def TooLarge (v : Value) : Prop := ∃ n, v = .int n ∧ floatOfInt n = none

theorem timestampDate_error {py : Runtime} {v : Value} {exc : Exc}
    (raised : timestampDate py v = .error exc) : exc.isValueError = true := by
  unfold timestampDate at raised
  split at raised
  · cases raised
  · split at raised
    · cases raised
    · cases raised
      rfl
  · cases raised
    rfl

/-- A timestamp outside the calendar raises what the router does not catch, and no other does. -/
theorem normalizeTimestamp_escapes (py : Runtime) (v : Value) :
    Escapes (normalizeTimestamp py v) ↔ ¬InCalendar py v := by
  unfold normalizeTimestamp InCalendar
  cases read : timestampDate py v with
  | error exc =>
    have value := timestampDate_error read
    simp only [bind, Except.bind]
    rw [escapes_error, value]
    simp
  | ok date =>
    simp only [bind, Except.bind]
    cases converted : date.toUtc with
    | some utc =>
      refine iff_of_false (not_escapes_ok _) ?_
      intro outside
      apply outside
      intro other same
      cases same
      rw [converted]
      exact Option.some_ne_none utc
    | none =>
      refine iff_of_true ⟨_, rfl, rfl⟩ ?_
      intro inside
      exact inside date rfl converted

/-- Of the numbers only an integer beyond the range of floats raises what the router does not catch.
-/
theorem float_escapes_of_numeric {py : Runtime} {v : Value} (numeric : isNumeric v = true) :
    Escapes (Python.float py v) ↔ TooLarge v := by
  cases v with
  | float x =>
    refine iff_of_false (not_escapes_ok _) ?_
    rintro ⟨n, impossible, -⟩
    cases impossible
  | bool b =>
    refine iff_of_false (not_escapes_ok _) ?_
    rintro ⟨n, impossible, -⟩
    cases impossible
  | int n =>
    have large : TooLarge (.int n) ↔ floatOfInt n = none := by
      constructor
      · rintro ⟨m, same, beyond⟩
        cases same
        exact beyond
      · intro beyond
        exact ⟨n, rfl, beyond⟩
    rw [large]
    simp only [Python.float]
    split
    · rename_i x converted
      rw [converted]
      exact iff_of_false (not_escapes_ok _) (Option.some_ne_none x)
    · rename_i converted
      exact iff_of_true ⟨_, rfl, rfl⟩ converted
  | _ => cases numeric

theorem unitInterval_escapes (py : Runtime) (field : String) (v : Value) :
    Escapes (unitInterval py field v) ↔ TooLarge v := by
  unfold unitInterval
  cases numeric : isNumeric v with
  | false =>
    refine iff_of_false (not_escapes_valueError _) ?_
    rintro ⟨n, rfl, -⟩
    cases numeric
  | true =>
    rw [← float_escapes_of_numeric numeric]
    cases converted : Python.float py v with
    | error exc =>
      simp only [Bool.not_true, Bool.false_eq_true, if_false, bind, Except.bind, escapes_error]
    | ok number =>
      simp only [Bool.not_true, Bool.false_eq_true, if_false, bind, Except.bind]
      refine iff_of_false ?_ (not_escapes_ok _)
      split
      · exact not_escapes_valueError _
      · exact not_escapes_ok _

theorem not_tooLarge_of_unitInterval {py : Runtime} {field : String} {v : Value} {x : PyFloat}
    (inside : unitInterval py field v = .ok x) : ¬TooLarge v := by
  rw [← unitInterval_escapes py field v, inside]
  exact not_escapes_ok x

/-- A chain escapes at its first part, or at the second once the first returned. -/
theorem escapes_bind {α β : Type} (x : Except Exc α) (f : α → Except Exc β) :
    Escapes (x >>= f) ↔ Escapes x ∨ ∃ a, x = .ok a ∧ Escapes (f a) := by
  cases x with
  | error exc =>
    simp only [bind, Except.bind, escapes_error]
    constructor
    · exact Or.inl
    · rintro (other | ⟨a, impossible, -⟩)
      · exact other
      · cases impossible
  | ok a =>
    simp only [bind, Except.bind]
    constructor
    · intro later
      exact Or.inr ⟨a, rfl, later⟩
    · rintro (impossible | ⟨b, same, later⟩)
      · exact absurd impossible (not_escapes_ok a)
      · cases same
        exact later

theorem escapes_map {α β : Type} (x : Except Exc α) (f : α → β) :
    Escapes (x.map f) ↔ Escapes x := by
  cases x with
  | error exc => simp only [Except.map, escapes_error]
  | ok a => exact iff_of_false (not_escapes_ok _) (not_escapes_ok a)

/-! ## Validators -/

/-- A task title that passes the check. -/
def HasTitle (entities : Dict) : Prop :=
  ∃ title, Dict.getD entities "task" (Dict.get entities "title") = .str title ∧ blank title = false

/-- A positive task id, or a name and no id. -/
def NamesTask (entities : Dict) : Prop :=
  (∃ id, (Dict.get entities "task_id").asInt = some id ∧ 0 < id) ∨
    (Dict.get entities "task_id" = .null ∧
      ∃ name, Dict.get entities "task" = .str name ∧ blank name = false)

theorem isNull_iff (v : Value) : v.isNull = true ↔ v = .null := by
  cases v <;> simp [Value.isNull]

/-- The check of a title passes or raises what the router catches. -/
theorem checkTitle_cases (entities : Dict) :
    (checkTitle entities = .ok () ∧ HasTitle entities) ∨
      (¬Escapes (checkTitle entities) ∧ checkTitle entities ≠ .ok () ∧ ¬HasTitle entities) := by
  unfold checkTitle HasTitle
  split
  · rename_i title read
    rw [read]
    cases empty : blank title with
    | true =>
      refine Or.inr ⟨not_escapes_valueError _, by simp, ?_⟩
      rintro ⟨other, same, visible⟩
      cases same
      rw [empty] at visible
      cases visible
    | false => exact Or.inl ⟨rfl, title, rfl, empty⟩
  · rename_i noText
    refine Or.inr ⟨not_escapes_valueError _, by simp, ?_⟩
    rintro ⟨title, read, -⟩
    exact noText title read

/-- The check of a due time escapes on a text whose date is outside the calendar, and on no other.
-/
theorem checkDueAt_escapes (py : Runtime) (entities : Dict) :
    Escapes (checkDueAt py entities) ↔
      ∃ dueAt, Dict.get entities "due_at" = .str dueAt ∧ blank dueAt = false ∧
        ¬InCalendar py (.str dueAt) := by
  unfold checkDueAt
  split
  · rename_i read
    refine iff_of_false (not_escapes_ok _) ?_
    rintro ⟨dueAt, other, -⟩
    rw [read] at other
    cases other
  · rename_i dueAt read
    cases empty : blank dueAt with
    | true =>
      refine iff_of_false (not_escapes_valueError _) ?_
      rintro ⟨other, same, visible, -⟩
      rw [read] at same
      cases same
      rw [empty] at visible
      cases visible
    | false =>
      simp only [Bool.false_eq_true, if_false]
      rw [escapes_map, normalizeTimestamp_escapes]
      constructor
      · intro outside
        exact ⟨dueAt, read, empty, outside⟩
      · rintro ⟨other, same, -, outside⟩
        rw [read] at same
        cases same
        exact outside
  · rename_i noText
    refine iff_of_false (not_escapes_valueError _) ?_
    rintro ⟨dueAt, read, -⟩
    exact noText dueAt read

theorem checkPriority_not_escapes (entities : Dict) : ¬Escapes (checkPriority entities) := by
  unfold checkPriority
  simp only
  split
  · exact not_escapes_valueError _
  · exact not_escapes_ok _

/-- The validator of the create action lets only an overflowing due date through. -/
theorem validateCreateTaskEntities_escapes (py : Runtime) (entities : Dict) :
    Escapes (validateCreateTaskEntities py entities) ↔
      HasTitle entities ∧ ∃ dueAt, Dict.get entities "due_at" = .str dueAt ∧ blank dueAt = false ∧
        ¬InCalendar py (.str dueAt) := by
  unfold validateCreateTaskEntities
  rw [escapes_bind, ← checkDueAt_escapes]
  rcases checkTitle_cases entities with ⟨passed, titled⟩ | ⟨quiet, refused, untitled⟩
  · rw [passed]
    constructor
    · rintro (impossible | ⟨a, -, later⟩)
      · exact absurd impossible (not_escapes_ok ())
      · rw [escapes_bind] at later
        rcases later with date | ⟨b, -, priority⟩
        · exact ⟨titled, date⟩
        · exact absurd priority (checkPriority_not_escapes entities)
    · rintro ⟨-, date⟩
      refine Or.inr ⟨(), rfl, ?_⟩
      rw [escapes_bind]
      exact Or.inl date
  · refine iff_of_false ?_ fun both => untitled both.1
    rintro (impossible | ⟨a, passed, -⟩)
    · exact quiet impossible
    · exact refused passed

/-- The check of a task reference passes or raises what the router catches. -/
theorem checkReference_cases (entities : Dict) :
    (checkReference entities = .ok () ∧ NamesTask entities) ∨
      (¬Escapes (checkReference entities) ∧ checkReference entities ≠ .ok () ∧
        ¬NamesTask entities) := by
  unfold checkReference NamesTask
  simp only
  split
  · rename_i absent
    have null := (isNull_iff _).mp absent
    split
    · rename_i name read
      cases empty : blank name with
      | true =>
        refine Or.inr ⟨not_escapes_valueError _, by simp, ?_⟩
        rintro (⟨id, number, -⟩ | ⟨-, other, same, visible⟩)
        · rw [null] at number
          cases number
        · rw [read] at same
          cases same
          rw [empty] at visible
          cases visible
      | false => exact Or.inl ⟨rfl, Or.inr ⟨null, name, read, empty⟩⟩
    · rename_i noText
      refine Or.inr ⟨not_escapes_valueError _, by simp, ?_⟩
      rintro (⟨id, number, -⟩ | ⟨-, name, read, -⟩)
      · rw [null] at number
        cases number
      · exact noText name read
  · rename_i given
    have notNull : Dict.get entities "task_id" ≠ .null := fun null => given ((isNull_iff _).mpr null)
    split
    · rename_i id number
      by_cases low : id ≤ 0
      · refine Or.inr ⟨?_, ?_, ?_⟩
        · rw [if_pos low]
          exact not_escapes_valueError _
        · rw [if_pos low]
          simp
        · rintro (⟨other, same, positive⟩ | ⟨null, -⟩)
          · rw [number] at same
            cases same
            omega
          · exact notNull null
      · refine Or.inl ⟨if_neg low, Or.inl ⟨id, number, by omega⟩⟩
    · rename_i number
      refine Or.inr ⟨not_escapes_valueError _, by simp, ?_⟩
      rintro (⟨id, same, -⟩ | ⟨null, -⟩)
      · rw [number] at same
        cases same
      · exact notNull null

theorem checkAlignment_escapes (py : Runtime) (entities : Dict) :
    Escapes (checkAlignment py entities) ↔ TooLarge (Dict.get entities "alignment_score") := by
  unfold checkAlignment
  simp only
  split
  · rename_i absent
    refine iff_of_false (not_escapes_ok _) ?_
    rintro ⟨n, read, -⟩
    rw [read] at absent
    cases absent
  · rw [escapes_map, unitInterval_escapes]

/-- The validator of a task reference lets only an integer score beyond a double through. -/
theorem validateTaskReferenceEntities_escapes (py : Runtime) (entities : Dict) :
    Escapes (validateTaskReferenceEntities py entities) ↔
      NamesTask entities ∧ TooLarge (Dict.get entities "alignment_score") := by
  unfold validateTaskReferenceEntities
  rw [escapes_bind, ← checkAlignment_escapes py]
  rcases checkReference_cases entities with ⟨passed, named⟩ | ⟨quiet, refused, unnamed⟩
  · rw [passed]
    constructor
    · rintro (impossible | ⟨a, -, later⟩)
      · exact absurd impossible (not_escapes_ok ())
      · exact ⟨named, later⟩
    · rintro ⟨-, score⟩
      exact Or.inr ⟨(), rfl, score⟩
  · refine iff_of_false ?_ fun both => unnamed both.1
    rintro (impossible | ⟨a, passed, -⟩)
    · exact quiet impossible
    · exact refused passed

/-! ## Task references -/

/-- Decryption raises value errors only. -/
theorem decrypt_error {layer : EncryptionLayer} {ciphertext : String} {exc : Exc}
    (raised : layer.decrypt ciphertext = .error exc) : exc.isValueError = true := by
  unfold EncryptionLayer.decrypt at raised
  split at raised
  · cases raised
    rfl
  · split at raised
    · cases raised
      rfl
    · split at raised
      · cases raised
        rfl
      · cases raised

theorem map_error {α β : Type} {x : Except Exc α} {f : α → β} {exc : Exc}
    (raised : x.map f = .error exc) : x = .error exc := by
  cases x with
  | ok a => cases raised
  | error other =>
    cases raised
    rfl

theorem decryptOption_error {layer : EncryptionLayer} {ciphertext : Option String} {exc : Exc}
    (raised : layer.decryptOption ciphertext = .error exc) : exc.isValueError = true := by
  cases ciphertext with
  | none => cases raised
  | some text => exact decrypt_error (map_error raised)

/-- A row that cannot be decrypted raises a `ValueError`. -/
theorem rowToRecord_error {ω : Type} {store : TaskStore ω} {row : TaskRow} {exc : Exc}
    (raised : store.rowToRecord row = .error exc) : exc.isValueError = true := by
  unfold TaskStore.rowToRecord at raised
  cases title : store.encryption.decrypt row.titleEnc with
  | error other =>
    rw [title] at raised
    cases raised
    exact decrypt_error title
  | ok plain =>
    rw [title] at raised
    cases description : store.encryption.decryptOption row.descriptionEnc with
    | error other =>
      rw [description] at raised
      cases raised
      exact decryptOption_error description
    | ok text =>
      rw [description] at raised
      cases goal : store.encryption.decryptOption row.goalEnc with
      | error other =>
        rw [goal] at raised
        cases raised
        exact decryptOption_error goal
      | ok text' =>
        rw [goal] at raised
        cases raised

theorem rowsToRecords_error {ω : Type} {store : TaskStore ω} {exc : Exc} (rows : List TaskRow)
    (raised : rows.mapM store.rowToRecord = .error exc) : exc.isValueError = true := by
  obtain ⟨row, -, failed⟩ := mapM_error raised
  exact rowToRecord_error failed

theorem str_error {py : Runtime} {v : Value} {exc : Exc} (raised : Python.str py v = .error exc) :
    exc.isValueError = true := by
  unfold Python.str at raised
  split at raised
  · cases raised
  · split at raised
    · cases raised
    · cases raised
      rfl

/-- `except (KeyError, ValueError)`. -/
def lookupFailure (exc : Exc) : Bool := exc.isKeyError || exc.isValueError

theorem lookupFailure_of_value {exc : Exc} (value : exc.isValueError = true) :
    lookupFailure exc = true := by
  rw [lookupFailure, value, Bool.or_true]

theorem resolve_of_id {ω : Type} {store : TaskStore ω} {entities : Dict} {id : Int}
    (number : (Dict.get entities "task_id").asInt = some id) (tasks : TaskTable) :
    CommandRouter.resolve store tasks entities = (store.recordOf tasks id).bind fun found =>
      match found with
      | none => .error ⟨.keyError,
          "task_id " ++ store.py.repr (Dict.get entities "task_id") ++ " not found"⟩
      | some task => .ok task := by
  simp only [CommandRouter.resolve, number]
  cases store.recordOf tasks id with
  | error exc => rfl
  | ok found => cases found <;> rfl

/-- Beyond 64 bits the binding of the id raises, and nothing catches it. -/
theorem resolve_overflow {ω : Type} {store : TaskStore ω} {entities : Dict} {id : Int}
    (number : (Dict.get entities "task_id").asInt = some id) (large : 2 ^ 63 ≤ id)
    (tasks : TaskTable) : ∃ exc, CommandRouter.resolve store tasks entities = .error exc ∧
      lookupFailure exc = false := by
  have outside : ¬(-(2 ^ 63) ≤ id ∧ id < 2 ^ 63) := by omega
  have raised : store.recordOf tasks id =
      .error ⟨.overflowError, "Python int too large to convert to SQLite INTEGER"⟩ := by
    simp only [TaskStore.recordOf, bindInteger, if_neg outside]
  rw [resolve_of_id number, raised]
  exact ⟨_, rfl, rfl⟩

theorem recordOf_error {ω : Type} {store : TaskStore ω} {tasks : TaskTable} {id : Int} {exc : Exc}
    (bound : -(2 ^ 63) ≤ id ∧ id < 2 ^ 63) (raised : store.recordOf tasks id = .error exc) :
    exc.isValueError = true := by
  simp only [TaskStore.recordOf, bindInteger, if_pos bound] at raised
  cases found : tasks.find id with
  | none =>
    rw [found] at raised
    cases raised
  | some row =>
    rw [found] at raised
    exact rowToRecord_error (map_error raised)

/-- Every other failure of a reference is a lookup failure. -/
theorem resolve_error {ω : Type} {store : TaskStore ω} {tasks : TaskTable} {entities : Dict}
    {exc : Exc}
    (bounded : ∀ id, (Dict.get entities "task_id").asInt = some id → -(2 ^ 63) ≤ id ∧ id < 2 ^ 63)
    (raised : CommandRouter.resolve store tasks entities = .error exc) :
    lookupFailure exc = true := by
  cases number : (Dict.get entities "task_id").asInt with
  | some id =>
    rw [resolve_of_id number] at raised
    cases read : store.recordOf tasks id with
    | error other =>
      rw [read] at raised
      cases raised
      exact lookupFailure_of_value (recordOf_error (bounded id number) read)
    | ok found =>
      rw [read] at raised
      cases found with
      | none =>
        cases raised
        rfl
      | some task => cases raised
  | none =>
    simp only [CommandRouter.resolve, number] at raised
    cases named : Python.str store.py (Dict.getD entities "task" (.str "")) with
    | error other =>
      rw [named] at raised
      cases raised
      exact lookupFailure_of_value (str_error named)
    | ok name =>
      rw [named] at raised
      simp only [bind, Except.bind] at raised
      split at raised
      · cases raised
        rfl
      · cases records : tasks.rows.reverse.mapM store.rowToRecord with
        | error other =>
          rw [records] at raised
          cases raised
          exact lookupFailure_of_value (rowsToRecords_error _ records)
        | ok all =>
          rw [records] at raised
          simp only at raised
          split at raised
          · cases raised
            rfl
          · cases raised
          · cases raised
            rfl

/-! ## Score and goal of a challenge -/

/-- A score that is accepted is the number it reads as. -/
theorem float_of_unitInterval {py : Runtime} {field : String} {v : Value} {x : PyFloat}
    (accepted : unitInterval py field v = .ok x) : Python.float py v = .ok x := by
  unfold unitInterval at accepted
  split at accepted
  · cases accepted
  · cases converted : Python.float py v with
    | error exc =>
      rw [converted] at accepted
      cases accepted
    | ok number =>
      rw [converted] at accepted
      simp only [bind, Except.bind] at accepted
      split at accepted
      · cases accepted
      · exact accepted

/-- A score that passed its check converts, unless it is an explicit `None`. -/
theorem alignment_float {py : Runtime} {entities : Dict}
    (accepted : checkAlignment py entities = .ok ()) :
    (entities.lookup "alignment_score" = some .null ∧ ∃ exc,
        Python.float py (Dict.getD entities "alignment_score" (.float (.finite 1))) = .error exc) ∨
      (entities.lookup "alignment_score" ≠ some .null ∧ ∃ x,
        Python.float py (Dict.getD entities "alignment_score" (.float (.finite 1))) = .ok x) := by
  cases read : entities.lookup "alignment_score" with
  | none =>
    refine Or.inr ⟨by simp, .finite 1, ?_⟩
    simp only [Dict.getD, read, Option.getD_none, Python.float]
  | some v =>
    have given : Dict.get entities "alignment_score" = v := by
      simp only [Dict.get, Dict.getD, read, Option.getD_some]
    have defaulted : Dict.getD entities "alignment_score" (.float (.finite 1)) = v := by
      simp only [Dict.getD, read, Option.getD_some]
    rw [defaulted]
    cases null : v.isNull with
    | true =>
      rw [isNull_iff] at null
      subst null
      exact Or.inl ⟨rfl, _, rfl⟩
    | false =>
      have notNull : v ≠ .null := by
        rintro rfl
        cases null
      simp only [checkAlignment, given, null] at accepted
      refine Or.inr ⟨by simpa using notNull, ?_⟩
      cases checked : unitInterval py "alignment_score" v with
      | error exc =>
        rw [checked] at accepted
        cases accepted
      | ok x => exact ⟨x, float_of_unitInterval checked⟩

/-- `str` raises exactly on what is not printable. -/
theorem str_cases (py : Runtime) (v : Value) :
    (v.printable = true ∧ ∃ text, Python.str py v = .ok text) ∨
      (v.printable = false ∧ ∃ exc, Python.str py v = .error exc ∧ exc.isValueError = true) := by
  cases printable : v.printable with
  | true =>
    refine Or.inl ⟨rfl, ?_⟩
    unfold Python.str
    split
    · exact ⟨_, rfl⟩
    · rw [printable]
      exact ⟨_, rfl⟩
  | false =>
    refine Or.inr ⟨rfl, ?_⟩
    unfold Python.str
    split
    · cases printable
    · rw [printable]
      exact ⟨_, rfl, rfl⟩

/-- Printing a field with a printable default. -/
theorem str_getD_cases (py : Runtime) (fields : Dict) (key text : String) :
    ((Dict.get fields key).printable = true ∧
        ∃ printed, Python.str py (Dict.getD fields key (.str text)) = .ok printed) ∨
      ((Dict.get fields key).printable = false ∧ ∃ exc,
        Python.str py (Dict.getD fields key (.str text)) = .error exc ∧
          exc.isValueError = true) := by
  cases read : fields.lookup key with
  | none =>
    simp only [Dict.get, Dict.getD, read, Option.getD_none]
    exact Or.inl ⟨rfl, text, rfl⟩
  | some v =>
    simp only [Dict.get, Dict.getD, read, Option.getD_some]
    exact str_cases py v

/-! ## What the handlers leave alone -/

variable {ω α τ : Type}

/-- What is observed does not depend on the memory. -/
def OutsideMemory (observe : RouterState ω → τ) : Prop :=
  ∀ s memory, observe { s with memory } = observe s

/-- The computation leaves the audit log alone. -/
def KeepsAudit (m : Comp Exc (RouterState ω) α) : Prop :=
  m.Preserves (Comp.Unchanged RouterState.auditEvents)

theorem preserves_onMemory {observe : RouterState ω → τ} (outside : OutsideMemory observe)
    (m : Comp Exc (MemoryState ω) α) :
    (CommandRouter.onMemory m).Preserves (Comp.Unchanged observe) := fun s => outside s _

namespace CommandRouter

/-- Reading the clock touches neither the table nor the audit log. -/
theorem utcNowIso_returns (router : CommandRouter ω) (s : RouterState ω) :
    ∃ now s', router.utcNowIso s = (.ok now, s') ∧ s'.auditEvents = s.auditEvents ∧
      s'.memory.tasks = s.memory.tasks :=
  ⟨_, _, rfl, rfl, rfl⟩

theorem uuid4_returns (router : CommandRouter ω) (s : RouterState ω) :
    ∃ drawn s', router.uuid4 s = (.ok drawn, s') ∧ s'.auditEvents = s.auditEvents ∧
      s'.memory.tasks = s.memory.tasks :=
  ⟨_, _, rfl, rfl, rfl⟩

theorem preserves_handleCreateTask (router : CommandRouter ω) {observe : RouterState ω → τ}
    (outside : OutsideMemory observe) (entities : Dict) :
    (router.handleCreateTask entities).Preserves (Comp.Unchanged observe) := by
  refine Comp.preserves_bind (Comp.preserves_ofExcept _) fun priority => ?_
  split
  · refine Comp.preserves_bind (Comp.preserves_ofExcept _) fun dueAt => ?_
    refine Comp.preserves_bind (preserves_onMemory outside _) fun created => ?_
    refine Comp.preserves_bind (Comp.preserves_ofExcept _) fun record => ?_
    split
    · exact Comp.preserves_raise _
    · exact Comp.preserves_pure _
  · exact Comp.preserves_raise _

/-- A transition handler acts on the memory alone. -/
theorem preserves_handleTransition (router : CommandRouter ω) {observe : RouterState ω → τ}
    (outside : OutsideMemory observe) (actionType : Action) (final : TaskState)
    (transition : Int → Comp Exc (MemoryState ω) (Option TaskRecord)) (entities : Dict) :
    (router.handleTransition actionType final transition entities).Preserves
      (Comp.Unchanged observe) := by
  have reads : (router.resolveTaskReference entities).Preserves (Comp.Unchanged observe) :=
    fun _ => rfl
  refine Comp.preserves_bind reads fun task => ?_
  simp only
  split
  · exact Comp.preserves_pure _
  · refine Comp.preserves_bind (preserves_onMemory outside _) fun returned => ?_
    refine Comp.preserves_bind (Comp.preserves_ofExcept _) fun updated => ?_
    exact Comp.preserves_pure _

/-- A challenge reads the table, adds a key and reads the clock. -/
theorem preserves_evaluateChallenge {related : RouterState ω → RouterState ω → Prop}
    [Std.Refl related] [IsTrans (RouterState ω) related] (router : CommandRouter ω)
    (intent : NormalizedIntent) (definition : ActionDefinition ω)
    (adds : ∀ (s : RouterState ω) key, related s { s with challenge :=
      { s.challenge with challengedKeys := key :: s.challenge.challengedKeys } })
    (clock : router.utcNowIso.Preserves related) :
    (router.evaluateChallenge intent definition).Preserves related := by
  have reads : (router.resolveTaskReference intent.entities).Preserves related :=
    fun s => Std.Refl.refl s
  unfold evaluateChallenge
  split
  · exact Comp.preserves_pure _
  · refine Comp.preserves_bind (Comp.preserves_attempt reads) fun resolved => ?_
    cases resolved with
    | error exc =>
      simp only [evaluateResolved]
      split
      · exact Comp.preserves_pure _
      · exact Comp.preserves_raise _
    | ok task =>
      refine Comp.preserves_bind (Comp.preserves_ofExcept _) fun score => ?_
      refine Comp.preserves_bind (Comp.preserves_ofExcept _) fun goal => ?_
      unfold ChallengeLogic.evaluate
      refine Comp.preserves_bind (fun s => Std.Refl.refl s) fun state => ?_
      split
      · exact Comp.preserves_pure _
      split
      · exact Comp.preserves_pure _
      split
      · exact Comp.preserves_pure _
      split
      · exact Comp.preserves_pure _
      · refine Comp.preserves_bind (fun s => adds s _) fun _ => ?_
        exact Comp.preserves_bind clock fun timestamp => Comp.preserves_pure _

theorem keepsAudit_handleCreateTask (router : CommandRouter ω) (entities : Dict) :
    KeepsAudit (router.handleCreateTask entities) :=
  router.preserves_handleCreateTask (fun _ _ => rfl) entities

/-- The six registered intent types, two for each definition. -/
theorem registry_definitions {router : CommandRouter ω} {intentType : String}
    {definition : ActionDefinition ω}
    (registered : router.registry.lookup intentType = some definition) :
    (definition = router.createDefinition ∧
        (intentType = "create_task" ∨ intentType = "schedule_task")) ∨
      (definition = router.completeDefinition ∧
        (intentType = "complete_task" ∨ intentType = "mark_completed")) ∨
      (definition = router.cancelDefinition ∧
        (intentType = "cancel_task" ∨ intentType = "archive_task")) := by
  simp only [registry, List.lookup_cons] at registered
  split at registered
  · rename_i same
    cases registered
    exact Or.inl ⟨rfl, Or.inl (by simpa using same)⟩
  split at registered
  · rename_i same
    cases registered
    exact Or.inl ⟨rfl, Or.inr (by simpa using same)⟩
  split at registered
  · rename_i same
    cases registered
    exact Or.inr (Or.inl ⟨rfl, Or.inl (by simpa using same)⟩)
  split at registered
  · rename_i same
    cases registered
    exact Or.inr (Or.inl ⟨rfl, Or.inr (by simpa using same)⟩)
  split at registered
  · rename_i same
    cases registered
    exact Or.inr (Or.inr ⟨rfl, Or.inl (by simpa using same)⟩)
  split at registered
  · rename_i same
    cases registered
    exact Or.inr (Or.inr ⟨rfl, Or.inr (by simpa using same)⟩)
  · cases registered

/-- Creation, or one of the two actions on a task reference. -/
theorem registry_cases {router : CommandRouter ω} {intentType : String}
    {definition : ActionDefinition ω}
    (registered : router.registry.lookup intentType = some definition) :
    (definition = router.createDefinition ∧
        (intentType = "create_task" ∨ intentType = "schedule_task")) ∨
      ((definition = router.completeDefinition ∨ definition = router.cancelDefinition) ∧
        (intentType = "complete_task" ∨ intentType = "mark_completed" ∨
          intentType = "cancel_task" ∨ intentType = "archive_task")) := by
  rcases registry_definitions registered with created | ⟨complete, typed⟩ | ⟨cancel, typed⟩
  · exact Or.inl created
  · exact Or.inr ⟨Or.inl complete, typed.elim Or.inl fun marked => Or.inr (Or.inl marked)⟩
  · exact Or.inr ⟨Or.inr cancel, Or.inr (Or.inr typed)⟩

/-- The registered handlers write the memory only. -/
theorem preserves_handler {router : CommandRouter ω} {intentType : String}
    {definition : ActionDefinition ω} {observe : RouterState ω → τ}
    (outside : OutsideMemory observe)
    (registered : router.registry.lookup intentType = some definition) (entities : Dict) :
    (definition.handler entities).Preserves (Comp.Unchanged observe) := by
  rcases registry_cases registered with ⟨rfl, -⟩ | ⟨rfl | rfl, -⟩
  · exact router.preserves_handleCreateTask outside entities
  · exact router.preserves_handleTransition outside _ _ _ entities
  · exact router.preserves_handleTransition outside _ _ _ entities

theorem keepsAudit_handler {router : CommandRouter ω} {intentType : String}
    {definition : ActionDefinition ω}
    (registered : router.registry.lookup intentType = some definition) (entities : Dict) :
    KeepsAudit (definition.handler entities) :=
  preserves_handler (fun _ _ => rfl) registered entities

/-! ## A route stage by stage -/

section
variable {router : CommandRouter ω} {auditId : String} {intent : NormalizedIntent}
  {definition : ActionDefinition ω} {s t u : RouterState ω}

theorem route_validated {intentObject : Value} (drawn : router.uuid4 s = (.ok auditId, t))
    (validated : router.validateAndNormalizeIntent intentObject t = (.ok intent, u)) :
    router.route intentObject s = router.routeIntent auditId intent u := by
  have attempted : Comp.attempt (router.validateAndNormalizeIntent intentObject) t =
      (.ok (.ok intent), u) := by rw [Comp.attempt, validated]
  rw [route, Comp.bind_of_ok drawn, Comp.bind_of_ok attempted]

theorem routeIntent_registered
    (confident : intent.confidenceScore.lt router.minConfidence = false)
    (registered : router.registry.lookup intent.intentType = some definition) :
    router.routeIntent auditId intent s = router.runDefinition auditId intent definition s := by
  simp only [routeIntent, confident, Bool.false_eq_true, if_false, registered]

theorem runDefinition_unchallenged (valid : definition.validator intent.entities = .ok ())
    (unchallenged : router.evaluateChallenge intent definition s = (.ok none, t)) :
    router.runDefinition auditId intent definition s =
      router.execute auditId intent definition t := by
  simp only [runDefinition, valid]
  rw [Comp.bind_of_ok unchallenged]

end

/-! ## Answers that are no rejections -/

/-- The way of such an answer through `route`: validation, threshold, registry, entity check
and challenge, with the states in which it was validated and evaluated. -/
structure Answer (router : CommandRouter ω) (intentObject : Value) (s : RouterState ω)
    (intent : NormalizedIntent) (definition : ActionDefinition ω)
    (payload : Option ChallengePayload) (checked evaluated : RouterState ω) : Prop where
  validated : router.validateAndNormalizeIntent intentObject (router.uuid4 s).2 =
    (.ok intent, checked)
  confident : intent.confidenceScore.lt router.minConfidence = false
  registered : router.registry.lookup intent.intentType = some definition
  valid : definition.validator intent.entities = .ok ()
  challenge : router.evaluateChallenge intent definition checked = (.ok payload, evaluated)

theorem reject_rejects {router : CommandRouter ω} {auditId : String} {intent : NormalizedIntent}
    {action : Action} {errorCode : ErrorCode} {metadata : Dict} {s s' : RouterState ω}
    {result : CommandResult}
    (returned : router.reject auditId intent action errorCode metadata s = (.ok result, s')) :
    result.status = .rejected := by
  cases returned
  rfl

theorem rejectShape_rejects {router : CommandRouter ω} {auditId : String} {intentObject : Value}
    {s s' : RouterState ω} {result : CommandResult}
    (returned : router.rejectShape auditId intentObject s = (.ok result, s')) :
    result.status = .rejected := by
  unfold rejectShape at returned
  cases intentObject with
  | dict fields =>
    obtain ⟨timestamp, t, -, emitted⟩ := Comp.of_bind_ok returned
    cases emitted
    rfl
  | _ => cases returned

/-- An execution ends executed or rejected. -/
theorem execute_status {router : CommandRouter ω} {auditId : String} {intent : NormalizedIntent}
    {definition : ActionDefinition ω} {s s' : RouterState ω} {result : CommandResult}
    (returned : router.execute auditId intent definition s = (.ok result, s')) :
    result.status = .rejected ∨ result.status = .executed := by
  unfold execute Comp.handle at returned
  rcases ran : definition.handler intent.entities s with ⟨r, t⟩
  cases r with
  | ok execution =>
    rw [Comp.bind_of_ok ran] at returned
    cases returned
    exact Or.inr rfl
  | error exc =>
    rw [Comp.bind_of_error ran] at returned
    exact Or.inl (reject_rejects returned)

/-- What is not rejected has passed the validator, and was challenged or executed. -/
theorem runDefinition_answered {router : CommandRouter ω} {auditId : String}
    {intent : NormalizedIntent} {definition : ActionDefinition ω} {checked s' : RouterState ω}
    {result : CommandResult}
    (returned : router.runDefinition auditId intent definition checked = (.ok result, s'))
    (answered : result.status ≠ .rejected) :
    definition.validator intent.entities = .ok () ∧ ∃ payload evaluated,
      router.evaluateChallenge intent definition checked = (.ok payload, evaluated) ∧
        ((∃ challenge, payload = some challenge ∧ result.status = .challengeRequired ∧
            result.action = definition.actionType ∧ result.challengePayload = some challenge ∧
            s'.challenge = evaluated.challenge) ∨
          (payload = none ∧ result.status = .executed ∧
            router.execute auditId intent definition evaluated = (.ok result, s'))) := by
  unfold runDefinition at returned
  cases valid : definition.validator intent.entities with
  | error exc =>
    rw [valid] at returned
    simp only at returned
    split at returned
    · exact absurd (reject_rejects returned) answered
    · cases returned
  | ok passed =>
    rw [valid] at returned
    obtain ⟨payload, evaluated, gate, finished⟩ := Comp.of_bind_ok returned
    refine ⟨rfl, payload, evaluated, gate, ?_⟩
    cases payload with
    | some challenge =>
      cases finished
      exact Or.inl ⟨challenge, rfl, rfl, rfl, rfl, rfl⟩
    | none => exact Or.inr ⟨rfl, (execute_status finished).resolve_left answered, finished⟩

/-- An intent that is not rejected is challenged or executed, after the same checks. -/
theorem route_answered {router : CommandRouter ω} {intentObject : Value} {s s' : RouterState ω}
    {result : CommandResult} (returned : router.route intentObject s = (.ok result, s'))
    (answered : result.status ≠ .rejected) :
    ∃ auditId intent definition payload checked evaluated,
      Answer router intentObject s intent definition payload checked evaluated ∧
        ((∃ challenge, payload = some challenge ∧ result.status = .challengeRequired ∧
            result.action = definition.actionType ∧ result.challengePayload = some challenge ∧
            s'.challenge = evaluated.challenge) ∨
          (payload = none ∧ result.status = .executed ∧
            router.execute auditId intent definition evaluated = (.ok result, s'))) := by
  obtain ⟨auditId, t, drawn, routed⟩ := Comp.of_bind_ok returned
  obtain ⟨attempted, checked, validated, routed⟩ := Comp.of_bind_ok routed
  cases attempted with
  | error exc =>
    simp only at routed
    split at routed
    · exact absurd (rejectShape_rejects routed) answered
    · cases routed
  | ok intent =>
    have accepted : router.validateAndNormalizeIntent intentObject (router.uuid4 s).2 =
        (.ok intent, checked) := by
      obtain ⟨outcome, after⟩ := Prod.mk.inj validated
      rw [drawn]
      exact Prod.ext (Except.ok.inj outcome) after
    simp only [routeIntent] at routed
    split at routed
    · exact absurd (reject_rejects routed) answered
    · rename_i confident
      cases registered : router.registry.lookup intent.intentType with
      | none =>
        rw [registered] at routed
        exact absurd (reject_rejects routed) answered
      | some definition =>
        rw [registered] at routed
        obtain ⟨valid, payload, evaluated, gate, finished⟩ :=
          runDefinition_answered routed answered
        exact ⟨auditId, intent, definition, payload, checked, evaluated,
          ⟨accepted, Bool.eq_false_iff.mpr confident, registered, valid, gate⟩, finished⟩

end CommandRouter

end Apcos.Source.Cognition
