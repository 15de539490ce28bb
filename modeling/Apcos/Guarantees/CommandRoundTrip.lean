import Apcos.Source.Python.Arithmetic
import Apcos.Guarantees.CommandReading

/-!
# Commands of the help text

core/cognition/intent_parser.py:23-115 against the commands that interface/cli_shell.py:9-18
documents: every text with the words of a command is parsed to the intent of that command,
whatever words the name itself contains.
-/
namespace Apcos.Guarantees.CommandRoundTrip

open Apcos.Lib.Words
open Apcos.Source.Python
open Apcos.Source.Cognition
open Apcos.Guarantees.CommandGrammar
open Apcos.Guarantees.CommandReading

/-! ## Commands -/

/-- A name with single blanks between its words and none around them. -/
structure TaskName where
  text : String
  tidy : Tidy text

/-- A text that tells a time of the day, with any white space before am or pm. -/
structure ClockText (py : Runtime) where
  text : String
  clock : Clock
  formed : clock.WellFormed py
  range : clock.InRange py
  reads : ∃ gap, (∀ c ∈ gap, isSpace c = true) ∧ join ' ' (wordsOf text) = clock.text gap

inductive Command (py : Runtime) where
  | schedule (name : TaskName) (clock : Option (ClockText py))
  | mark (name : TaskName)
  | cancel (name : TaskName)

variable {py : Runtime}

/-- The command as the help text has it. -/
def Command.text : Command py → String
  | .schedule name none => joined ["schedule", name.text, "tomorrow"]
  | .schedule name (some clock) => joined ["schedule", name.text, "tomorrow", "at", clock.text]
  | .mark name => joined ["mark", name.text, "completed"]
  | .cancel name => joined ["cancel", "task", name.text]

/-- The words of a command, with its keywords in any case. -/
inductive Command.Phrased : Command py → List (List Char) → Prop
  | schedule (name : TaskName) (keyword day : List Char) (opens : Spelled "schedule" keyword)
      (tomorrow : Spelled "tomorrow" day) :
      Phrased (.schedule name none) (keyword :: (wordsOf name.text ++ [day]))
  | scheduleAt (name : TaskName) (clock : ClockText py) (keyword day preposition : List Char)
      (opens : Spelled "schedule" keyword) (tomorrow : Spelled "tomorrow" day)
      (spelled : Spelled "at" preposition) :
      Phrased (.schedule name (some clock))
        (keyword :: (wordsOf name.text ++ day :: preposition :: wordsOf clock.text))
  | mark (name : TaskName) (keyword final : List Char) (opens : Spelled "mark" keyword)
      (closes : Spelled "completed" final) :
      Phrased (.mark name) (keyword :: (wordsOf name.text ++ [final]))
  | cancel (name : TaskName) (keyword object : List Char) (opens : Spelled "cancel" keyword)
      (task : Spelled "task" object) :
      Phrased (.cancel name) (keyword :: object :: wordsOf name.text)

/-- A moment of the calendar day after, at the given time, on the same clock. -/
structure DayAfter (current due : DateTime) (time : ClockTime) : Prop where
  date : due.date = current.date + 1
  time : due.micros.val % microsPerDay = (time.hour * 3600 + time.minute * 60) * 10 ^ 6
  offset : due.utcoffset = some (current.utcoffset.getD utcOffset)

/-- The time a command sets: the clock's, or nine o'clock. -/
def dueTime (clock : Option (ClockText py)) : ClockTime :=
  (clock.map fun told => told.clock.told py).getD ⟨9, 0⟩

/-- The intent of a command. -/
inductive Command.Means (current : DateTime) : Command py → Dict → Prop
  | schedule (name : TaskName) (clock : Option (ClockText py)) (due : DateTime)
      (after : DayAfter current due (dueTime clock)) :
      Means current (.schedule name clock) (intentDict "schedule_task"
        [("task", .str name.text), ("due_at", .str due.isoformat)] current confidence93)
  | mark (name : TaskName) :
      Means current (.mark name) (intentDict "mark_completed" [("task", .str name.text)] current
        confidence96)
  | cancel (name : TaskName) :
      Means current (.cancel name) (intentDict "cancel_task" [("task", .str name.text)] current
        confidence91)

/-! ## The text of a command -/

/-- The text of a command has its words, whatever the spacing. -/
theorem Command.phrased_text (command : Command py) : command.Phrased (wordsOf command.text) := by
  cases command with
  | schedule name clock =>
    cases clock with
    | none =>
      have words : wordsOf (joined ["schedule", name.text, "tomorrow"]) =
          "schedule".toList :: (wordsOf name.text ++ ["tomorrow".toList]) :=
        wordsOf_joined_parts _
      rw [Command.text, words]
      exact .schedule name _ _ (by decide) (by decide)
    | some clock =>
      have words : wordsOf (joined ["schedule", name.text, "tomorrow", "at", clock.text]) =
          "schedule".toList :: (wordsOf name.text ++
            "tomorrow".toList :: "at".toList :: wordsOf clock.text) := by
        rw [wordsOf_joined_parts, ← List.append_nil (wordsOf clock.text)]
        rfl
      rw [Command.text, words]
      exact .scheduleAt name clock _ _ _ (by decide) (by decide) (by decide)
  | mark name =>
    have words : wordsOf (joined ["mark", name.text, "completed"]) =
        "mark".toList :: (wordsOf name.text ++ ["completed".toList]) := wordsOf_joined_parts _
    rw [Command.text, words]
    exact .mark name _ _ (by decide) (by decide)
  | cancel name =>
    have words : wordsOf (joined ["cancel", "task", name.text]) =
        "cancel".toList :: "task".toList :: wordsOf name.text := by
      rw [wordsOf_joined_parts, ← List.append_nil (wordsOf name.text)]
      rfl
    rw [Command.text, words]
    exact .cancel name _ _ (by decide) (by decide)

/-! ## The moment a command sets -/

theorem told_lt {clock : Clock} (range : clock.InRange py) :
    (clock.told py).hour < 24 ∧ (clock.told py).minute < 60 := by
  obtain ⟨hours, minutes⟩ := range
  refine ⟨?_, Nat.lt_succ_of_le minutes⟩
  unfold Clock.told
  cases meridiem : clock.meridiem with
  | none =>
    rw [meridiem] at hours
    exact Nat.lt_succ_of_le hours
  | some told =>
    dsimp only
    split <;> omega

theorem dueTime_lt (clock : Option (ClockText py)) :
    (dueTime clock).hour < 24 ∧ (dueTime clock).minute < 60 := by
  cases clock with
  | none => exact ⟨(by decide : 9 < 24), (by decide : 0 < 60)⟩
  | some told => exact told_lt told.range

/-- Where the next day exists it has a moment for every time of the day. -/
theorem tomorrowAt_ok {current : DateTime} (next : current.date + 1 < maxOrdinal)
    {time : ClockTime} (hour : time.hour < 24) (minute : time.minute < 60) :
    ∃ due, tomorrowAt current time = .ok due ∧ DayAfter current due time := by
  have within : (time.hour * 3600 + time.minute * 60) * 10 ^ 6 < microsPerDay := by
    unfold microsPerDay
    omega
  have exists_next : (current.micros.val / microsPerDay + 1) * microsPerDay +
      (time.hour * 3600 + time.minute * 60) * 10 ^ 6 < maxOrdinal * microsPerDay := by
    calc (current.micros.val / microsPerDay + 1) * microsPerDay +
          (time.hour * 3600 + time.minute * 60) * 10 ^ 6
        < (current.micros.val / microsPerDay + 1) * microsPerDay + microsPerDay :=
          Nat.add_lt_add_left within _
      _ = (current.micros.val / microsPerDay + 1 + 1) * microsPerDay := (Nat.succ_mul _ _).symm
      _ ≤ maxOrdinal * microsPerDay := Nat.mul_le_mul_right _ next
  refine ⟨_, dif_pos exists_next, ⟨?_, ?_, rfl⟩⟩
  · unfold DateTime.date
    dsimp only
    rw [Nat.add_comm, Nat.add_mul_div_right _ _ (by decide), Nat.div_eq_of_lt within, Nat.zero_add]
  · dsimp only
    rw [Nat.add_comm, Nat.add_mul_mod_self_right, Nat.mod_eq_of_lt within]

theorem dueText_ok {current : DateTime} (next : current.date + 1 < maxOrdinal)
    (clock : Option (ClockText py)) : ∃ due, DayAfter current due (dueTime clock) ∧
      dueText current (dueTime clock) = .ok due.isoformat := by
  obtain ⟨hour, minute⟩ := dueTime_lt clock
  obtain ⟨due, set, after⟩ := tomorrowAt_ok next hour minute
  exact ⟨due, after, by rw [dueText, set, Lib.ok_bind]; rfl⟩

/-! ## Every text of a command is parsed to its intent -/

theorem name_eq (name : TaskName) : String.ofList (join ' ' (wordsOf name.text)) = name.text := by
  rw [← name.tidy.toList_eq, String.ofList_toList]

/-- What `parse_intent` answers to a command. -/
def Command.answer (current : DateTime) : Command py → Except Exc Dict
  | .schedule name clock => do
    let dueAt ← dueText current (dueTime clock)
    return intentDict "schedule_task" [("task", .str name.text), ("due_at", .str dueAt)] current
      confidence93
  | .mark name =>
    .ok (intentDict "mark_completed" [("task", .str name.text)] current confidence96)
  | .cancel name =>
    .ok (intentDict "cancel_task" [("task", .str name.text)] current confidence91)

/-- The answer depends on the command only, not on how its words are written. -/
theorem parse_command (uncased : DigitsUncased py) {command : Command py} {text : String}
    (phrased : command.Phrased (wordsOf text)) (current : DateTime) :
    parseIntent py text current = command.answer current := by
  have all := wordsOf_isWord text
  generalize read : wordsOf text = words at phrased
  cases phrased with
  | schedule name keyword day opens tomorrow =>
    have scheduled : Scheduled py (wordsOf text) (wordsOf name.text) none :=
      read ▸ .plain keyword day _ opens name.tidy.some tomorrow
    rw [parse_scheduled py text current scheduled,
      tomorrowTime_ok uncased all scheduled current nofun, name_eq]
    rfl
  | scheduleAt name clock keyword day preposition opens tomorrow spelled =>
    obtain ⟨gap, blank, told⟩ := clock.reads
    have scheduled : Scheduled py (wordsOf text) (wordsOf name.text) (some (clock.clock, gap)) :=
      read ▸ .timed keyword day preposition _ _ clock.clock gap opens name.tidy.some tomorrow
        spelled clock.formed blank told
    rw [parse_scheduled py text current scheduled, tomorrowTime_ok uncased all scheduled current
      (fun _ same => by cases same; exact clock.range), name_eq]
    rfl
  | mark name keyword final opens closes =>
    have marked : Marked (wordsOf text) (wordsOf name.text) :=
      read ▸ .named keyword final _ opens name.tidy.some closes
    rw [parse_marked py text current marked, name_eq]
    rfl
  | cancel name keyword object opens task =>
    rw [parse_cancelled py text current read opens, cancelName, if_pos task, cancelEntities,
      if_neg name.tidy.some, name_eq]
    rfl

/-- A text with the words of a documented command, in any case and with any white space, is
parsed to the intent of that command; so is the text of the help itself. -/
theorem documented_command_parsed (uncased : DigitsUncased py) (current : DateTime)
    (next : current.date + 1 < maxOrdinal) (command : Command py) :
    command.Phrased (wordsOf command.text) ∧ ∃ intent, command.Means current intent ∧
      ∀ text, command.Phrased (wordsOf text) → parseIntent py text current = .ok intent := by
  refine ⟨command.phrased_text, ?_⟩
  cases command with
  | schedule name clock =>
    obtain ⟨due, after, told⟩ := dueText_ok next clock
    refine ⟨_, .schedule name clock due after, fun text phrased => ?_⟩
    rw [parse_command uncased phrased, Command.answer, told, Lib.ok_bind]
    rfl
  | mark name => exact ⟨_, .mark name, fun text phrased => parse_command uncased phrased current⟩
  | cancel name => exact ⟨_, .cancel name, fun text phrased => parse_command uncased phrased current⟩

def callName : TaskName := ⟨"call at 5 tomorrow", by decide, by decide⟩

def midnight : ClockText asciiRuntime where
  text := "12 AM"
  clock := ⟨['1', '2'], none, some ['A', 'M']⟩
  formed := ⟨by decide, nofun, fun _ same => by cases same; decide⟩
  range := ⟨(by decide : 1 ≤ 12 ∧ 12 ≤ 12), (by decide : 0 ≤ 59)⟩
  reads := ⟨[' '], by decide, by decide⟩

/-- 0001-01-01T12:00, without a zone. -/
def firstNoon : DateTime := ⟨⟨43200 * 10 ^ 6, by decide⟩, none⟩

/-- The name contains a clock phrase and a keyword. -/
theorem documented_command_parsed_midnight : ∃ intent,
    Command.Means firstNoon (.schedule callName (some midnight)) intent ∧
    parseIntent asciiRuntime " SCHEDULE call  at 5 tomorrow Tomorrow at 12\tAM" firstNoon =
      .ok intent := by
  obtain ⟨-, intent, means, parsed⟩ := documented_command_parsed (fun _ _ => rfl) firstNoon
    (by decide) (.schedule callName (some midnight))
  exact ⟨intent, means, parsed _ (.scheduleAt callName midnight "SCHEDULE".toList
    "Tomorrow".toList "at".toList (by decide) (by decide) (by decide))⟩

/-! ## The optional word of a cancel command -/

/-- `word + " " + name` is the two joined. -/
theorem append_joined {start word : String} (shape : start.toList = word.toList ++ [' '])
    (name : String) : start ++ name = joined [word, name] := by
  apply String.toList_injective
  rw [String.toList_append, shape, toList_joined, List.append_assoc]
  rfl

theorem wordsOf_cancel (name : String) :
    wordsOf ("cancel " ++ name) = "cancel".toList :: wordsOf name := by
  have shape : "cancel " ++ name = joined ["cancel", name] := append_joined (by decide) name
  rw [shape, wordsOf_joined_parts, ← List.append_nil (wordsOf name)]
  rfl

theorem wordsOf_cancelTask (name : String) :
    wordsOf ("cancel task " ++ name) = "cancel".toList :: "task".toList :: wordsOf name := by
  have shape : "cancel task " ++ name = joined ["cancel task", name] :=
    append_joined (by decide) name
  rw [shape, wordsOf_joined_parts, ← List.append_nil (wordsOf name)]
  rfl

theorem cancelName_eq {words : List (List Char)} (some : words ≠ []) :
    cancelName words = if Spelled "task" (words.head some) then words.tail else words := by
  cases words with
  | nil => exact absurd rfl some
  | cons first rest => rfl

/-- With the word `task` a cancel command names all that follows. Without it a name that itself
starts with this word is read without it. -/
theorem cancel_task_optional (current : DateTime) (name : TaskName) :
    parseIntent py ("cancel task " ++ name.text) current =
      .ok (intentDict "cancel_task" [("task", .str name.text)] current confidence91) ∧
    parseIntent py ("cancel " ++ name.text) current =
      .ok (intentDict "cancel_task"
        (if Spelled "task" ((wordsOf name.text).head name.tidy.some) then
          cancelEntities (wordsOf name.text).tail
        else [("task", .str name.text)]) current confidence91) := by
  have named : cancelEntities (wordsOf name.text) = [("task", .str name.text)] := by
    rw [cancelEntities, if_neg name.tidy.some, name_eq]
  constructor
  · rw [parse_cancelled py _ current (wordsOf_cancelTask name.text) (by decide), cancelName,
      if_pos (by decide), named]
  · rw [parse_cancelled py _ current (wordsOf_cancel name.text) (by decide),
      cancelName_eq name.tidy.some, ← named]
    split <;> rfl

/-- `cancel task list` is the command of two names, and the second one is read. -/
theorem cancel_task_list : Tidy "task list" ∧ Tidy "list" ∧
    "cancel " ++ "task list" = "cancel task " ++ "list" ∧
    parseIntent asciiRuntime ("cancel " ++ "task list") firstNoon =
      .ok (intentDict "cancel_task" [("task", .str "list")] firstNoon confidence91) ∧
    parseIntent asciiRuntime ("cancel task " ++ "task list") firstNoon =
      .ok (intentDict "cancel_task" [("task", .str "task list")] firstNoon confidence91) :=
  ⟨⟨by decide, by decide⟩, ⟨by decide, by decide⟩, by decide,
    parse_cancelled asciiRuntime _ firstNoon (wordsOf_cancel "task list") (by decide),
    parse_cancelled asciiRuntime _ firstNoon (wordsOf_cancelTask "task list") (by decide)⟩

end Apcos.Guarantees.CommandRoundTrip
