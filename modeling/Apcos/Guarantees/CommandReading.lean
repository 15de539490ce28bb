import Apcos.Lib.Comp
import Apcos.Guarantees.CommandGrammar

/-!
# What a command says

core/cognition/intent_parser.py:23-115: the answer of `parse_intent` for each reading of the
words. A clock that the schedule pattern takes is taken by the second pattern as well, which
leaves its range as the only check that can fail.
-/
namespace Apcos.Guarantees.CommandReading

open Apcos.Lib.Regex Apcos.Lib.Words
open Apcos.Source.Python
open Apcos.Source.Cognition
open Apcos.Guarantees.CommandGrammar

/-! ## The second clock pattern -/

/-- am or pm in lower case. -/
def period (clock : Clock) : Option String :=
  clock.meridiem.map fun meridiem => if Spelled "pm" meridiem then "pm" else "am"

/-- The clock text that `_parse_clock` is given. -/
def lowered (clock : Clock) (gap : List Char) : List Char :=
  clock.time ++ (gap ++ ((period clock).getD "").toList)

/-- The groups of its match. -/
def clockCaptures (clock : Clock) : List (String × List Char) :=
  ((period clock).map fun told => ("ampm", told.toList)).toList ++
    ((clock.minute.map fun minute => ("minute", minute)).toList ++ [("hour", clock.hour)])

def minutePart (py : Runtime) : Pattern Char :=
  chain [literal ':', .group "minute" (digits py 2 2)]

def periodPart : Pattern Char :=
  chain [spaces, .group "ampm" (.either (literalWord "am") (literalWord "pm"))]

theorem clockPattern_eq (py : Runtime) : clockPattern py =
    chain [.group "hour" (digits py 1 2), .optional (minutePart py), .optional periodPart, atEnd] :=
  rfl

theorem answers_literal (letter : Char) (captures : List (String × List Char)) (rest : List Char) :
    Answers (literal letter) ⟨captures, letter :: rest⟩ ⟨captures, rest⟩ := by
  simp [Answers, literal, search]

/-- A bounded run of digits that ends before something else. -/
theorem answers_digits {py : Runtime} {least most : Nat} {taken rest : List Char}
    (digit : ∀ c ∈ taken, (py.decimal c).isSome = true)
    (ends : ∀ c ∈ rest.head?, py.decimal c = none) (enough : least ≤ taken.length)
    (bounded : taken.length ≤ most) (name : String) (captures : List (String × List Char)) :
    Answers (.group name (digits py least most)) ⟨captures, taken ++ rest⟩
      ⟨(name, taken) :: captures, rest⟩ := by
  have run : Answers (digits py least most) ⟨captures, taken ++ rest⟩ ⟨captures, rest⟩ :=
    answers_run digit (fun c first => by rw [ends c first]; rfl) enough fun bound same => by
      cases same
      exact bounded
  exact answers_group run rfl

theorem answers_atEnd (captures : List (String × List Char)) :
    Answers (chain [atEnd]) ⟨captures, []⟩ ⟨captures, []⟩ := rfl

theorem period_cases {told : String} {clock : Clock} (named : period clock = some told) :
    told = "am" ∨ told = "pm" := by
  obtain ⟨meridiem, -, same⟩ := Option.map_eq_some_iff.mp named
  rw [← same]
  split
  · exact Or.inr rfl
  · exact Or.inl rfl

/-- The alternatives of the group exclude each other. -/
theorem answers_period {told : String} (named : told = "am" ∨ told = "pm")
    (captures : List (String × List Char)) :
    Answers (.group "ampm" (.either (literalWord "am") (literalWord "pm")))
      ⟨captures, told.toList⟩ ⟨("ampm", told.toList) :: captures, []⟩ := by
  have taken : Answers (.either (literalWord "am") (literalWord "pm")) ⟨captures, told.toList⟩
      ⟨captures, []⟩ := by
    rcases named with rfl | rfl
    · rfl
    · rfl
  exact answers_group taken (List.append_nil _).symm

/-- What follows the digits of a clock is no part of a number. -/
theorem afterDigits {clock : Clock} {gap : List Char} (gaps : ∀ c ∈ gap, c = ' ') :
    ∀ c ∈ (gap ++ ((period clock).getD "").toList).head?, c = ' ' ∨ c = 'a' ∨ c = 'p' := by
  intro c first
  cases gap with
  | cons space others =>
    cases first
    exact Or.inl (gaps c List.mem_cons_self)
  | nil =>
    cases named : period clock with
    | none =>
      rw [named] at first
      cases first
    | some told =>
      rw [named] at first
      rcases period_cases named with rfl | rfl
      · cases first
        exact Or.inr (Or.inl rfl)
      · cases first
        exact Or.inr (Or.inr rfl)

theorem decimal_afterDigits (py : Runtime) {c : Char} (after : c = ' ' ∨ c = 'a' ∨ c = 'p') :
    py.decimal c = none := by
  have ascii : c.toNat < 128 := by rcases after with rfl | rfl | rfl <;> decide
  rw [py.decimal_ascii c ascii]
  rcases after with rfl | rfl | rfl <;> decide

/-- The period of a clock is the rest of the match. -/
theorem answers_periodPart {clock : Clock} {gap : List Char} (gaps : ∀ c ∈ gap, c = ' ')
    (ends : clock.meridiem = none → gap = []) (captures : List (String × List Char)) :
    Answers (chain [.optional periodPart, atEnd])
      ⟨captures, gap ++ ((period clock).getD "").toList⟩
      ⟨((period clock).map fun told => ("ampm", told.toList)).toList ++ captures, []⟩ := by
  cases named : period clock with
  | none =>
    have nothing := ends (Option.map_eq_none_iff.mp named)
    subst nothing
    exact rfl
  | some told =>
    have visible : ∀ c ∈ told.toList.head?, isSpace c = false := by
      rintro c first
      rcases period_cases named with rfl | rfl <;> cases first <;> decide
    have blank : ∀ c ∈ gap, isSpace c = true := fun c member => by
      rw [gaps c member]
      decide
    have skipped : Answers spaces ⟨captures, gap ++ told.toList⟩ ⟨captures, told.toList⟩ :=
      answers_run blank visible (Nat.zero_le _) nofun
    refine answers_chain (answers_optional (answers_chain skipped ?_)) (answers_atEnd _)
    exact answers_chain (answers_period (period_cases named) captures) (answers_chain_nil _)

/-- The second pattern takes every clock that the first one takes. -/
theorem clock_firstMatch {py : Runtime} {clock : Clock} {gap : List Char}
    (formed : clock.WellFormed py) (gaps : ∀ c ∈ gap, c = ' ')
    (ends : clock.meridiem = none → gap = []) :
    firstMatch (clockPattern py) (lowered clock gap) = some ⟨clockCaptures clock, []⟩ := by
  obtain ⟨digit, least, most⟩ := formed.hour
  rw [clockPattern_eq, lowered, Clock.time, List.append_assoc, clockCaptures]
  refine answers_chain (answers_digits digit ?_ least most "hour" []) ?_
  · intro c first
    cases minute : clock.minute with
    | none =>
      rw [minute] at first
      exact decimal_afterDigits py (afterDigits gaps c first)
    | some digits =>
      rw [minute] at first
      cases first
      rw [py.decimal_ascii ':' (by decide)]
      decide
  · cases minute : clock.minute with
    | none =>
      refine answers_skip (fun mid matched => ?_) (answers_periodPart gaps ends [("hour", clock.hour)])
      obtain ⟨_, colon, -⟩ := mem_search_chain_cons.mp matched
      obtain ⟨rest, split, -⟩ := mem_search_literal.mp colon
      have after := @afterDigits clock gap gaps ':' (by
        have shape : gap ++ ((period clock).getD "").toList = ':' :: rest := split
        rw [shape]
        rfl)
      exact absurd after (by decide)
    | some taken =>
      obtain ⟨digit', two⟩ := formed.minute taken minute
      refine answers_chain (answers_optional (answers_chain (answers_literal ':' _ _)
        (answers_chain ?_ (answers_chain_nil _))))
          (answers_periodPart gaps ends [("minute", taken), ("hour", clock.hour)])
      exact answers_digits digit' (fun c first => decimal_afterDigits py (afterDigits gaps c first))
        (by omega) (by omega) "minute" [("hour", clock.hour)]

theorem clock_groups (clock : Clock) :
    textGroup ⟨clockCaptures clock, []⟩ "hour" = some (String.ofList clock.hour) ∧
    textGroup ⟨clockCaptures clock, []⟩ "minute" = clock.minute.map String.ofList ∧
    textGroup ⟨clockCaptures clock, []⟩ "ampm" = period clock := by
  unfold textGroup Found.group clockCaptures
  cases period clock with
  | none => cases clock.minute <;> exact ⟨rfl, rfl, rfl⟩
  | some told =>
    have same : some (String.ofList told.toList) = some told := congrArg some String.ofList_toList
    cases clock.minute <;> exact ⟨rfl, rfl, same⟩

theorem minute_value (py : Runtime) (clock : Clock) :
    decimalValue py ((clock.minute.map String.ofList).getD "0") = clock.minuteNumber py := by
  rw [Clock.minuteNumber]
  cases clock.minute with
  | some minute => rfl
  | none =>
    have zero : py.decimal '0' = some 0 := by
      rw [py.decimal_ascii '0' (by decide)]
      decide
    change decimalValue py "0" = 0
    simp [decimalValue, zero]

section
variable {py : Runtime} {clock : Clock} {gap : List Char} (formed : clock.WellFormed py)
  (gaps : ∀ c ∈ gap, c = ' ') (ends : clock.meridiem = none → gap = [])
include formed gaps ends

/-- A clock in range is read as the time it tells. -/
theorem parseClock_ok (range : clock.InRange py) :
    parseClock py (String.ofList (lowered clock gap)) = .ok (clock.told py) := by
  obtain ⟨hour, minute, ampm⟩ := clock_groups clock
  obtain ⟨hours, minutes⟩ := range
  have small : ¬59 < clock.minuteNumber py := by omega
  rw [parseClock, String.toList_ofList, clock_firstMatch formed gaps ends]
  simp only [hour, minute, ampm, minute_value, Option.getD_some, period, Clock.told]
  rw [show decimalValue py (String.ofList clock.hour) = clock.hourNumber py from rfl]
  cases meridiem : clock.meridiem with
  | none =>
    rw [meridiem] at hours
    rw [Option.map_none, if_neg (show ¬23 < clock.hourNumber py by omega)]
    simp only [pure_bind, if_neg small]
    rfl
  | some told =>
    rw [meridiem] at hours
    rw [Option.map_some]
    simp only [if_neg (show ¬(clock.hourNumber py < 1 ∨ 12 < clock.hourNumber py) by omega)]
    by_cases noon : Spelled "pm" told
    · have afternoon : (if clock.hourNumber py = 12 then 12 else clock.hourNumber py + 12) =
          clock.hourNumber py % 12 + 12 := by split <;> omega
      rw [if_pos noon, if_neg (by decide : ¬"pm" = "am"), afternoon]
      simp only [pure_bind, if_neg small, if_pos noon]
      rfl
    · have morning : (if clock.hourNumber py = 12 then 0 else clock.hourNumber py) =
          clock.hourNumber py % 12 + 0 := by split <;> omega
      rw [if_neg noon, if_pos rfl, morning]
      simp only [pure_bind, if_neg small, if_neg noon]
      rfl

/-- A clock out of range is a `ValueError`. -/
theorem parseClock_error (range : ¬clock.InRange py) : ∃ message,
    parseClock py (String.ofList (lowered clock gap)) = .error ⟨.valueError, message⟩ := by
  obtain ⟨hour, minute, ampm⟩ := clock_groups clock
  rw [parseClock, String.toList_ofList, clock_firstMatch formed gaps ends]
  simp only [hour, minute, ampm, minute_value, Option.getD_some, period]
  rw [show decimalValue py (String.ofList clock.hour) = clock.hourNumber py from rfl]
  unfold Clock.InRange at range
  cases meridiem : clock.meridiem with
  | none =>
    rw [meridiem] at range
    rw [Option.map_none]
    by_cases early : 23 < clock.hourNumber py
    · exact ⟨_, by rw [if_pos early]; rfl⟩
    · rw [if_neg early]
      have late : 59 < clock.minuteNumber py := by
        simp only at range
        omega
      exact ⟨_, by simp only [pure_bind, if_pos late]; rfl⟩
  | some told =>
    rw [meridiem] at range
    rw [Option.map_some]
    by_cases dial : clock.hourNumber py < 1 ∨ 12 < clock.hourNumber py
    · exact ⟨_, by simp only [if_pos dial]; rfl⟩
    · have late : 59 < clock.minuteNumber py := by
        simp only at range
        omega
      simp only [if_neg dial, pure_bind, if_pos late]
      split
      · exact ⟨_, rfl⟩
      · exact ⟨_, rfl⟩

end

/-! ## The time of a schedule command -/

/-- `str.lower` leaves decimal digits alone. -/
def DigitsUncased (py : Runtime) : Prop :=
  ∀ text, (∀ c ∈ text.toList, c.toNat < 128 ∨ (py.decimal c).isSome = true) →
    py.lower text = String.ofList (text.toList.map asciiLower)

theorem asciiLower_decimal {py : Runtime} {c : Char} (digit : (py.decimal c).isSome = true) :
    asciiLower c = c := by
  apply asciiLower_eq
  rw [← Bool.not_eq_true, isAsciiUpper_iff]
  intro upper
  rw [py.decimal_ascii c (by omega), if_neg] at digit
  · cases digit
  · intro ⟨_, small⟩
    have within : c.toNat ≤ 57 := small
    omega

/-- A keyword without `i`, `s` and `k` lowers to itself. -/
theorem lower_spelled {word : String} {cs : List Char} (spelled : Spelled word cs)
    (plain : ∀ letter ∈ word.toList, letter ≠ 'i' ∧ letter ≠ 's' ∧ letter ≠ 'k') :
    cs.map asciiLower = word.toList := by
  rw [← show cs.map foldLetter = word.toList from spelled]
  refine List.map_congr_left fun c member => ?_
  exact asciiLower_of_fold rfl (plain _ (spelled.mem member))

theorem ascii_spelled {word : String} {cs : List Char} (spelled : Spelled word cs)
    (plain : ∀ letter ∈ word.toList,
      (letter ≠ 'i' ∧ letter ≠ 's' ∧ letter ≠ 'k') ∧ letter.toNat < 128) :
    ∀ c ∈ cs, c.toNat < 128 := by
  intro c member
  obtain ⟨letter, ascii⟩ := plain _ (spelled.mem member)
  rcases toNat_of_asciiLower (asciiLower_of_fold rfl letter) with same | upper
  · rw [same]
    exact ascii
  · omega

theorem lower_meridiem {py : Runtime} {clock : Clock} (formed : clock.WellFormed py) :
    (clock.meridiem.getD []).map asciiLower = ((period clock).getD "").toList ∧
      ∀ c ∈ clock.meridiem.getD [], c.toNat < 128 := by
  cases meridiem : clock.meridiem with
  | none => exact ⟨by rw [period, meridiem]; rfl, nofun⟩
  | some told =>
    rw [period, meridiem]
    by_cases afternoon : Spelled "pm" told
    · refine ⟨?_, ascii_spelled afternoon (by decide)⟩
      simp only [Option.getD_some, Option.map_some, if_pos afternoon]
      exact lower_spelled afternoon (by decide)
    · have morning := (formed.meridiem told meridiem).resolve_right afternoon
      refine ⟨?_, ascii_spelled morning (by decide)⟩
      simp only [Option.getD_some, Option.map_some, if_neg afternoon]
      exact lower_spelled morning (by decide)

section
variable {py : Runtime} (uncased : DigitsUncased py) {told : List (List Char)} {clock : Clock}
  {gap : List Char} (all : ∀ word ∈ told, IsWord isSpace word) (formed : clock.WellFormed py)
  (blank : ∀ c ∈ gap, isSpace c = true) (text : join ' ' told = clock.text gap)
include all blank text

theorem gap_single : ∀ c ∈ gap, c = ' ' := fun c member =>
  blank_eq_gap all (by rw [text, Clock.text]; simp [member]) (blank c member)

theorem gap_ends (bare : clock.meridiem = none) : gap = [] := by
  rw [Clock.text, bare, Option.getD_none, List.append_nil] at text
  exact no_trailing_blanks all text blank

include uncased formed

/-- Lower-casing a clock lowers its am or pm and nothing else. -/
theorem lower_clock : py.lower (String.ofList (clock.text gap)) =
    String.ofList (lowered clock gap) := by
  obtain ⟨lower, ascii⟩ := lower_meridiem formed
  have single := gap_single all blank text
  rw [uncased, String.toList_ofList, Clock.text, lowered, List.map_append, List.map_append, lower,
    List.append_assoc]
  · congr 3
    · exact (List.map_congr_left fun c member => (mem_time formed member).elim asciiLower_decimal
        fun colon => by rw [colon]; rfl).trans (List.map_id _)
    · exact (List.map_congr_left fun c member => by rw [single c member]; rfl).trans (List.map_id _)
  · intro c member
    rw [String.toList_ofList, Clock.text] at member
    rcases List.mem_append.mp member with early | late
    · rcases List.mem_append.mp early with time | space
      · refine (mem_time formed time).elim Or.inr fun colon => Or.inl ?_
        rw [colon]
        decide
      · left
        rw [single c space]
        decide
    · exact Or.inl (ascii c late)

/-- A clock text of the schedule pattern is read by `_parse_clock` as the clock it is. -/
theorem tomorrowTime_clock (current : DateTime) :
    parseTomorrowTime py current (some (String.ofList (clock.text gap))) = do
      let selected ← parseClock py (String.ofList (lowered clock gap))
      let dueAt ← tomorrowAt current selected
      return dueAt.isoformat := by
  have some : String.ofList (clock.text gap) ≠ "" := by
    rw [← text]
    intro empty
    exact join_ne_nil all (told_ne_nil formed text) (String.ofList_eq_empty_iff.mp empty)
  have stripped : strip (String.ofList (clock.text gap)) = String.ofList (clock.text gap) := by
    rw [← text]
    exact strip_joined all
  simp only [parseTomorrowTime, if_neg some, stripped]
  rw [lower_clock uncased all formed blank text]

end

/-- Nine o'clock, unless the command tells a time. -/
def selectedTime (py : Runtime) : Option (Clock × List Char) → ClockTime
  | none => ⟨9, 0⟩
  | some told => told.1.told py

/-- A clock that is told is a time of the day. -/
def TimeInRange (py : Runtime) (clock : Option (Clock × List Char)) : Prop :=
  ∀ told ∈ clock, told.1.InRange py

/-- What `_parse_tomorrow_time` makes of a selected time. -/
def dueText (current : DateTime) (selected : ClockTime) : Except Exc String := do
  let dueAt ← tomorrowAt current selected
  return dueAt.isoformat

theorem schedule_groups (name : List (List Char)) (clock : Option (Clock × List Char)) :
    textGroup ⟨scheduleCaptures name clock, []⟩ "task" = some (String.ofList (join ' ' name)) ∧
    textGroup ⟨scheduleCaptures name clock, []⟩ "clock" =
      clock.map fun told => String.ofList (told.1.text told.2) := by
  cases clock with
  | none => exact ⟨rfl, rfl⟩
  | some told => exact ⟨rfl, rfl⟩

section
variable {py : Runtime} (uncased : DigitsUncased py) {words name : List (List Char)}
  {clock : Option (Clock × List Char)} (all : ∀ word ∈ words, IsWord isSpace word)
  (scheduled : Scheduled py words name clock) (current : DateTime)
include uncased all scheduled

theorem tomorrowTime_ok (range : TimeInRange py clock) :
    parseTomorrowTime py current (textGroup ⟨scheduleCaptures name clock, []⟩ "clock") =
      dueText current (selectedTime py clock) := by
  cases scheduled with
  | plain keyword day name =>
    rw [(schedule_groups name none).2, Option.map_none, dueText, selectedTime]
    simp only [parseTomorrowTime, pure_bind]
  | timed keyword day preposition name told clock gap opens some tomorrow spelled formed blank
      text =>
    have allTold (word : List Char) (member : word ∈ told) : IsWord isSpace word :=
      all word (by simp [member])
    have read := tomorrowTime_clock uncased allTold formed blank text current
    rw [parseClock_ok formed (gap_single allTold blank text) (gap_ends allTold blank text)
      (range (clock, gap) rfl)] at read
    rw [(schedule_groups name _).2, Option.map_some, dueText, selectedTime, read, Lib.ok_bind]

theorem tomorrowTime_error (range : ¬TimeInRange py clock) : ∃ message,
    parseTomorrowTime py current (textGroup ⟨scheduleCaptures name clock, []⟩ "clock") =
      .error ⟨.valueError, message⟩ := by
  cases scheduled with
  | plain => exact absurd nofun range
  | timed keyword day preposition name told clock gap opens some tomorrow spelled formed blank
      text =>
    have allTold (word : List Char) (member : word ∈ told) : IsWord isSpace word :=
      all word (by simp [member])
    have outside : ¬clock.InRange py := fun inside => range fun told same => by
      cases same
      exact inside
    obtain ⟨message, raised⟩ := parseClock_error formed (gap_single allTold blank text)
      (gap_ends allTold blank text) outside
    have read := tomorrowTime_clock uncased allTold formed blank text current
    rw [raised] at read
    rw [(schedule_groups name _).2, Option.map_some, read]
    exact ⟨message, rfl⟩

end

/-! ## The answer for each reading -/

theorem scheduled_opens {py : Runtime} {words name : List (List Char)}
    {clock : Option (Clock × List Char)} (scheduled : Scheduled py words name clock) :
    ∃ keyword rest, words = keyword :: rest ∧ Spelled "schedule" keyword := by
  cases scheduled with
  | plain keyword day name opens some tomorrow => exact ⟨keyword, _, rfl, opens⟩
  | timed keyword day preposition name told clock gap opens => exact ⟨keyword, _, rfl, opens⟩

theorem marked_opens {words name : List (List Char)} (marked : Marked words name) :
    ∃ keyword final, words = keyword :: (name ++ [final]) ∧ Spelled "mark" keyword := by
  cases marked with
  | named keyword final name opens some closes => exact ⟨keyword, final, rfl, opens⟩

/-- The first word is one keyword only. -/
theorem one_keyword {word other : String} {keyword keyword' : List Char}
    {rest rest' : List (List Char)} (spelled : Spelled word keyword)
    (spelled' : Spelled other keyword') (same : keyword :: rest = keyword' :: rest') :
    word = other := by
  rw [(List.cons.inj same).1] at spelled
  exact String.toList_injective (spelled.symm.trans spelled')

section
variable (py : Runtime) (text : String) (current : DateTime)

theorem parse_none (nothing : wordsOf text = []) :
    parseIntent py text current = .ok (intentDict "unknown" [] current 0) := by
  have empty : " ".intercalate (split (strip text)) = "" := by
    have shape := toList_normalized text
    rw [nothing] at shape
    exact String.toList_eq_nil_iff.mp shape
  rw [parseIntent, empty]
  rfl

theorem normalized_some (some : wordsOf text ≠ []) :
    " ".intercalate (split (strip text)) ≠ "" := by
  intro empty
  have shape : (" ".intercalate (split (strip text))).toList = _ := toList_normalized text
  rw [empty] at shape
  exact join_ne_nil (wordsOf_isWord text) some shape.symm

theorem strip_name {words name : List (List Char)} (all : ∀ word ∈ words, IsWord isSpace word)
    (within : ∀ word ∈ name, word ∈ words) :
    strip (String.ofList (join ' ' name)) = String.ofList (join ' ' name) :=
  strip_joined fun word member => all word (within word member)

/-- A schedule command is parsed to its name and the time of tomorrow. -/
theorem parse_scheduled {name : List (List Char)} {clock : Option (Clock × List Char)}
    (scheduled : Scheduled py (wordsOf text) name clock) :
    parseIntent py text current = do
      let dueAt ← parseTomorrowTime py current
        (textGroup ⟨scheduleCaptures name clock, []⟩ "clock")
      return intentDict "schedule_task"
        [("task", .str (String.ofList (join ' ' name))), ("due_at", .str dueAt)] current
        confidence93 := by
  have all := wordsOf_isWord text
  have shape : (" ".intercalate (split (strip text))).toList = _ := toList_normalized text
  obtain ⟨keyword, rest, words, -⟩ := scheduled_opens scheduled
  have stripped : strip (String.ofList (join ' ' name)) = String.ofList (join ' ' name) := by
    refine strip_name all ?_
    obtain ⟨keyword, behind, shape, -⟩ := scheduled.ending all
    intro word member
    rw [shape]
    simp [member]
  simp only [parseIntent, if_neg (normalized_some text (by simp [words])), shape,
    schedule_firstMatch all scheduled, (schedule_groups name clock).1, Option.getD_some, stripped]

/-- A text that opens with another keyword is no schedule command. -/
theorem schedule_none {word : String} {keyword : List Char} {rest : List (List Char)}
    (words : wordsOf text = keyword :: rest) (opens : Spelled word keyword)
    (other : word ≠ "schedule") :
    firstMatch (schedulePattern py) (join ' ' (wordsOf text)) = none := by
  refine firstMatch_eq_none fun found matched => ?_
  obtain ⟨name, clock, scheduled, -⟩ := scheduled_of_match (wordsOf_isWord text) matched
  obtain ⟨keyword', rest', words', opens'⟩ := scheduled_opens scheduled
  exact other (one_keyword opens opens' (words.symm.trans words'))

theorem mark_none {word : String} {keyword : List Char} {rest : List (List Char)}
    (words : wordsOf text = keyword :: rest) (opens : Spelled word keyword)
    (other : word ≠ "mark") :
    firstMatch markCompletedPattern (join ' ' (wordsOf text)) = none := by
  refine firstMatch_eq_none fun found matched => ?_
  obtain ⟨name, marked, -⟩ := marked_of_match (wordsOf_isWord text) matched
  obtain ⟨keyword', final, words', opens'⟩ := marked_opens marked
  exact other (one_keyword opens opens' (words.symm.trans words'))

theorem parse_marked {name : List (List Char)} (marked : Marked (wordsOf text) name) :
    parseIntent py text current = .ok (intentDict "mark_completed"
      [("task", .str (String.ofList (join ' ' name)))] current confidence96) := by
  have all := wordsOf_isWord text
  have shape : (" ".intercalate (split (strip text))).toList = _ := toList_normalized text
  obtain ⟨keyword, final, words, opens⟩ := marked_opens marked
  have stripped : strip (String.ofList (join ' ' name)) = String.ofList (join ' ' name) :=
    strip_name all fun word member => by simp [words, member]
  have task : textGroup ⟨[("task", join ' ' name)], []⟩ "task" =
      some (String.ofList (join ' ' name)) := rfl
  simp only [parseIntent, if_neg (normalized_some text (by simp [words])), shape,
    schedule_none py text words opens (by decide), mark_firstMatch all marked, task,
    Option.getD_some, stripped]
  rfl

/-- The entities of a cancel command. -/
def cancelEntities (name : List (List Char)) : Dict :=
  if name = [] then [] else [("task", .str (String.ofList (join ' ' name)))]

theorem cancelName_subset {keyword : List Char} {rest : List (List Char)}
    (words : wordsOf text = keyword :: rest) : ∀ word ∈ cancelName rest, word ∈ wordsOf text := by
  intro word member
  rw [words]
  cases rest with
  | nil => cases member
  | cons second others =>
    rw [cancelName] at member
    split at member
    · simp [member]
    · exact List.mem_cons_of_mem keyword member

/-- A cancel command is parsed to the name behind the keywords. -/
theorem parse_cancelled {keyword : List Char} {rest : List (List Char)}
    (words : wordsOf text = keyword :: rest) (opens : Spelled "cancel" keyword) :
    parseIntent py text current = .ok (intentDict "cancel_task" (cancelEntities (cancelName rest))
      current confidence91) := by
  have all := wordsOf_isWord text
  have shape : (" ".intercalate (split (strip text))).toList = _ := toList_normalized text
  have within := cancelName_subset text words
  have answer : firstMatch cancelPattern (join ' ' (wordsOf text)) =
      some ⟨cancelCaptures (cancelName rest), []⟩ := by
    rw [words] at all ⊢
    exact cancel_firstMatch all opens
  simp only [parseIntent, if_neg (normalized_some text (by simp [words])), shape,
    schedule_none py text words opens (by decide), mark_none text words opens (by decide), answer]
  by_cases some : cancelName rest = []
  · rw [cancelCaptures, if_pos some, cancelEntities, if_pos some]
    rfl
  · have visible : String.ofList (join ' ' (cancelName rest)) ≠ "" := by
      intro empty
      exact join_ne_nil (fun word member => all word (within word member)) some
        (String.ofList_eq_empty_iff.mp empty)
    have task : textGroup ⟨[("task", join ' ' (cancelName rest))], []⟩ "task" =
      Option.some (String.ofList (join ' ' (cancelName rest))) := rfl
    rw [cancelCaptures, if_neg some, cancelEntities, if_neg some, task]
    simp only [if_neg visible, strip_name all within]
    rfl

/-- A text that is none of the three commands. -/
structure Unread : Prop where
  scheduled : ∀ name clock, ¬Scheduled py (wordsOf text) name clock
  marked : ∀ name, ¬Marked (wordsOf text) name
  cancelled : ∀ keyword rest, wordsOf text = keyword :: rest → ¬Spelled "cancel" keyword

/-- Any other text is unknown. -/
theorem parse_unread (some : wordsOf text ≠ []) (unread : Unread py text) :
    parseIntent py text current = .ok (intentDict "unknown"
      [("raw_text", .str (joined (split (strip text))))] current (1 / 4)) := by
  have all := wordsOf_isWord text
  have shape : (" ".intercalate (split (strip text))).toList = _ := toList_normalized text
  have schedule : firstMatch (schedulePattern py) (join ' ' (wordsOf text)) = none :=
    firstMatch_eq_none fun found matched => by
      obtain ⟨name, clock, scheduled, -⟩ := scheduled_of_match all matched
      exact unread.scheduled name clock scheduled
  have mark : firstMatch markCompletedPattern (join ' ' (wordsOf text)) = none :=
    firstMatch_eq_none fun found matched => by
      obtain ⟨name, marked, -⟩ := marked_of_match all matched
      exact unread.marked name marked
  have cancel : firstMatch cancelPattern (join ' ' (wordsOf text)) = none :=
    firstMatch_eq_none fun found matched => by
      obtain ⟨keyword, rest, words, opens⟩ := cancel_of_match all matched
      exact unread.cancelled keyword rest words opens
  simp only [parseIntent, if_neg (normalized_some text some), shape, schedule, mark, cancel]
  rfl

end

/-- The types of intent that the parser names. -/
def parsedTypes : List String := ["unknown", "schedule_task", "mark_completed", "cancel_task"]

/-- The parser names no other type. -/
theorem parseIntent_type {py : Runtime} {text : String} {current : DateTime} {intent : Dict}
    (parsed : parseIntent py text current = .ok intent) :
    ∃ intentType ∈ parsedTypes, Dict.get intent "intent_type" = .str intentType := by
  unfold parseIntent at parsed
  simp only at parsed
  split at parsed
  · cases parsed
    exact ⟨"unknown", by decide, rfl⟩
  split at parsed
  · rename_i found scheduled
    cases due : parseTomorrowTime py current (textGroup found "clock") with
    | error exc =>
      rw [due] at parsed
      cases parsed
    | ok dueAt =>
      rw [due] at parsed
      cases parsed
      exact ⟨"schedule_task", by decide, rfl⟩
  split at parsed
  · cases parsed
    exact ⟨"mark_completed", by decide, rfl⟩
  split at parsed
  · cases parsed
    exact ⟨"cancel_task", by decide, rfl⟩
  · cases parsed
    exact ⟨"unknown", by decide, rfl⟩

end Apcos.Guarantees.CommandReading
