import Apcos.Source.Python.Patterns

/-!
# Intent parser

core/cognition/intent_parser.py. The time of the call is an argument; the
session reads the clock. The dict returned has the four keys of an intent.
-/
namespace Apcos.Source.Cognition

open Apcos.Lib.Regex
open Apcos.Source.Python

/-- `^\s*schedule\s+(?P<task>.+?)\s+tomorrow(?:\s+at\s+(?P<clock>...))?\s*$`. -/
def schedulePattern (py : Runtime) : Pattern Char := chain
  [spaces, caselessWord "schedule", someSpaces, .group "task" (anyText true), someSpaces,
    caselessWord "tomorrow",
    .optional (chain [someSpaces, caselessWord "at", someSpaces,
      .group "clock" (chain [digits py 1 2, .optional (chain [literal ':', digits py 2 2]), spaces,
        .optional (.either (caselessWord "am") (caselessWord "pm"))])]),
    spaces, atEnd]

/-- `^\s*mark\s+(?P<task>.+?)\s+completed\s*$`. -/
def markCompletedPattern : Pattern Char := chain
  [spaces, caselessWord "mark", someSpaces, .group "task" (anyText true), someSpaces,
    caselessWord "completed", spaces, atEnd]

/-- `^\s*cancel(?:\s+task)?(?:\s+(?P<task>.+))?\s*$`. -/
def cancelPattern : Pattern Char := chain
  [spaces, caselessWord "cancel", .optional (chain [someSpaces, caselessWord "task"]),
    .optional (chain [someSpaces, .group "task" (anyText false)]), spaces, atEnd]

/-- `^(?P<hour>\d{1,2})(?::(?P<minute>\d{2}))?(?:\s*(?P<ampm>am|pm))?$`. -/
def clockPattern (py : Runtime) : Pattern Char := chain
  [.group "hour" (digits py 1 2), .optional (chain [literal ':', .group "minute" (digits py 2 2)]),
    .optional (chain [spaces, .group "ampm" (.either (literalWord "am") (literalWord "pm"))]), atEnd]

/-- Hour and minute of a `time`. -/
structure ClockTime where
  hour : Nat
  minute : Nat
  deriving DecidableEq, Repr

def parseClock (py : Runtime) (clockText : String) : Except Exc ClockTime := do
  match firstMatch (clockPattern py) clockText.toList with
  | none => throw ⟨.valueError, "Invalid clock string: " ++ py.repr (.str clockText)⟩
  | some found =>
    let hour := decimalValue py ((textGroup found "hour").getD "")
    let minute := decimalValue py ((textGroup found "minute").getD "0")
    let hour ← match textGroup found "ampm" with
      | some ampm =>
        if hour < 1 ∨ 12 < hour then
          throw ⟨.valueError, "Invalid hour for 12h format: " ++ toString hour⟩
        else if ampm = "am" then pure (if hour = 12 then 0 else hour)
        else pure (if hour = 12 then 12 else hour + 12)
      | none =>
        if 23 < hour then throw ⟨.valueError, "Invalid hour for 24h format: " ++ toString hour⟩
        else pure hour
    if 59 < minute then throw ⟨.valueError, "Invalid minute: " ++ toString minute⟩
    else return ⟨hour, minute⟩

/-- The day after, at the given time; the last day of the calendar has none. -/
def tomorrowAt (current : DateTime) (selected : ClockTime) : Except Exc DateTime :=
  let instant := (current.micros.val / microsPerDay + 1) * microsPerDay +
    (selected.hour * 3600 + selected.minute * 60) * 10 ^ 6
  if h : instant < maxOrdinal * microsPerDay then
    .ok ⟨⟨instant, h⟩, some (current.utcoffset.getD utcOffset)⟩
  else .error ⟨.overflowError, "date value out of range"⟩

def parseTomorrowTime (py : Runtime) (current : DateTime) (clockText : Option String) :
    Except Exc String := do
  let selected ← match clockText with
    | some text => if text = "" then pure ⟨9, 0⟩ else parseClock py (py.lower (strip text))
    | none => pure ⟨9, 0⟩
  let dueAt ← tomorrowAt current selected
  return dueAt.isoformat

/-- `_intent`. -/
def intentDict (intentType : String) (entities : Dict) (current : DateTime) (confidence : Rat) :
    Dict :=
  [("intent_type", .str intentType), ("entities", .dict entities),
    ("timestamp", .str current.isoformat), ("confidence_score", .float (.finite confidence))]

/-- The doubles nearest to the parser's confidence constants. -/
def confidence93 : Rat := 8376695306909123 / 9007199254740992

def confidence96 : Rat := 1080863910568919 / 1125899906842624

def confidence91 : Rat := 8196551321814303 / 9007199254740992

def parseIntent (py : Runtime) (text : String) (current : DateTime) : Except Exc Dict := do
  let normalized := " ".intercalate (split (strip text))
  if normalized = "" then return intentDict "unknown" [] current 0
  else
    match firstMatch (schedulePattern py) normalized.toList with
    | some found => do
      let dueAt ← parseTomorrowTime py current (textGroup found "clock")
      return intentDict "schedule_task"
        [("task", .str (strip ((textGroup found "task").getD ""))), ("due_at", .str dueAt)] current
        confidence93
    | none =>
      match firstMatch markCompletedPattern normalized.toList with
      | some found =>
        return intentDict "mark_completed"
          [("task", .str (strip ((textGroup found "task").getD "")))] current confidence96
      | none =>
        match firstMatch cancelPattern normalized.toList with
        | some found =>
          let entities : Dict := match textGroup found "task" with
            | some name => if name = "" then [] else [("task", .str (strip name))]
            | none => []
          return intentDict "cancel_task" entities current confidence91
        | none =>
          return intentDict "unknown" [("raw_text", .str normalized)] current (1 / 4)

end Apcos.Source.Cognition
