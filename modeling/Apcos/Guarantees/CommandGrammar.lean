import Apcos.Source.Cognition.IntentParser
import Apcos.Source.Python.Matching
import Apcos.Source.Python.Words

/-!
# The grammar of spoken commands

core/cognition/intent_parser.py:9-20 read as a grammar of words. On words joined by single
blanks each pattern has the matches of its reading: a schedule and a mark command have one,
and of those of a cancel command the first is described. Backtracking over names that contain
keywords or clock phrases ends in no other split.
-/
namespace Apcos.Guarantees.CommandGrammar

open Apcos.Lib.Regex Apcos.Lib.Words
open Apcos.Source.Python
open Apcos.Source.Cognition

/-! ## Clock texts -/

/-- A clock as it is written. -/
structure Clock where
  hour : List Char
  minute : Option (List Char)
  meridiem : Option (List Char)

/-- The digits of a clock. -/
def Clock.time (clock : Clock) : List Char :=
  clock.hour ++ match clock.minute with
    | none => []
    | some minute => ':' :: minute

def Clock.text (clock : Clock) (gap : List Char) : List Char :=
  clock.time ++ gap ++ clock.meridiem.getD []

structure Clock.WellFormed (py : Runtime) (clock : Clock) : Prop where
  hour : (∀ c ∈ clock.hour, (py.decimal c).isSome = true) ∧ 1 ≤ clock.hour.length ∧
    clock.hour.length ≤ 2
  minute : ∀ minute, clock.minute = some minute →
    (∀ c ∈ minute, (py.decimal c).isSome = true) ∧ minute.length = 2
  meridiem : ∀ meridiem, clock.meridiem = some meridiem →
    Spelled "am" meridiem ∨ Spelled "pm" meridiem

def Clock.hourNumber (py : Runtime) (clock : Clock) : Nat :=
  decimalValue py (String.ofList clock.hour)

def Clock.minuteNumber (py : Runtime) (clock : Clock) : Nat :=
  match clock.minute with
  | none => 0
  | some minute => decimalValue py (String.ofList minute)

/-- A time of the day: on the twelve-hour dial where am or pm is told. -/
def Clock.InRange (py : Runtime) (clock : Clock) : Prop :=
  (match clock.meridiem with
    | none => clock.hourNumber py ≤ 23
    | some _ => 1 ≤ clock.hourNumber py ∧ clock.hourNumber py ≤ 12) ∧
  clock.minuteNumber py ≤ 59

/-- The time told. Twelve o'clock is hour zero of its half of the day. -/
def Clock.told (py : Runtime) (clock : Clock) : ClockTime where
  hour := match clock.meridiem with
    | none => clock.hourNumber py
    | some meridiem => clock.hourNumber py % 12 + if Spelled "pm" meridiem then 12 else 0
  minute := clock.minuteNumber py

def minuteBody (py : Runtime) : Pattern Char := chain [literal ':', digits py 2 2]

/-- The body of the clock group of the schedule pattern. -/
def clockBody (py : Runtime) : Pattern Char := chain
  [digits py 1 2, .optional (minuteBody py), spaces,
    .optional (.either (caselessWord "am") (caselessWord "pm"))]

theorem mem_search_minuteBody {py : Runtime} {found after : Found Char} :
    after ∈ search (minuteBody py) found ↔ ∃ minute rest,
      found.rest = ':' :: minute ++ rest ∧
      ((∀ c ∈ minute, (py.decimal c).isSome = true) ∧ minute.length = 2) ∧
      after = ⟨found.captures, rest⟩ := by
  simp only [minuteBody, mem_search_chain_cons, mem_search_chain_nil, mem_search_literal,
    mem_search_digits]
  constructor
  · rintro ⟨_, ⟨rest, split, rfl⟩, _, ⟨minute, rest', split', digit, least, most, rfl⟩, rfl⟩
    dsimp only at split'
    exact ⟨minute, rest', by rw [split, split']; rfl, ⟨digit, by omega⟩, rfl⟩
  · rintro ⟨minute, rest, split, ⟨digit, two⟩, rfl⟩
    exact ⟨_, ⟨minute ++ rest, split, rfl⟩, _,
      ⟨minute, rest, rfl, digit, by omega, by omega, rfl⟩, rfl⟩

theorem mem_search_meridiem {found after : Found Char} :
    after ∈ search (.either (caselessWord "am") (caselessWord "pm")) found ↔ ∃ meridiem rest,
      found.rest = meridiem ++ rest ∧ (Spelled "am" meridiem ∨ Spelled "pm" meridiem) ∧
      after = ⟨found.captures, rest⟩ := by
  rw [mem_search_either, mem_search_caselessWord (by decide), mem_search_caselessWord (by decide)]
  constructor
  · rintro (⟨taken, rest, split, spelled, rfl⟩ | ⟨taken, rest, split, spelled, rfl⟩)
    · exact ⟨taken, rest, split, Or.inl spelled, rfl⟩
    · exact ⟨taken, rest, split, Or.inr spelled, rfl⟩
  · rintro ⟨taken, rest, split, spelled | spelled, rfl⟩
    · exact Or.inl ⟨taken, rest, split, spelled, rfl⟩
    · exact Or.inr ⟨taken, rest, split, spelled, rfl⟩

/-- The clock group takes a well-formed clock, with any white space before am or pm. -/
theorem mem_search_clockBody {py : Runtime} {found after : Found Char} :
    after ∈ search (clockBody py) found ↔ ∃ (clock : Clock) (gap rest : List Char),
      clock.WellFormed py ∧ (∀ c ∈ gap, isSpace c = true) ∧
      found.rest = clock.text gap ++ rest ∧ after = ⟨found.captures, rest⟩ := by
  simp only [clockBody, mem_search_chain_cons, mem_search_chain_nil, mem_search_digits,
    mem_search_spaces, mem_search_optional, mem_search_minuteBody, mem_search_meridiem]
  constructor
  · rintro ⟨_, ⟨hour, r₁, split₁, digit, least, most, rfl⟩, mid, minutes, _,
      ⟨gap, r₂, split₂, blank, rfl⟩, last, ending, rfl⟩
    obtain ⟨minute, shape, read, same⟩ : ∃ minute : Option (List Char),
        r₁ = (match minute with | none => [] | some m => ':' :: m) ++ mid.rest ∧
        (∀ m, minute = some m → (∀ c ∈ m, (py.decimal c).isSome = true) ∧ m.length = 2) ∧
        mid.captures = found.captures := by
      rcases minutes with ⟨minute, rest, split, two, rfl⟩ | rfl
      · exact ⟨some minute, split, fun m same => by cases same; exact two, rfl⟩
      · exact ⟨none, rfl, nofun, rfl⟩
    obtain ⟨meridiem, shape', spelled, same'⟩ : ∃ meridiem : Option (List Char),
        r₂ = meridiem.getD [] ++ after.rest ∧
        (∀ m, meridiem = some m → Spelled "am" m ∨ Spelled "pm" m) ∧
        after.captures = mid.captures := by
      rcases ending with ⟨meridiem, rest, split, spelled, rfl⟩ | rfl
      · exact ⟨some meridiem, split, fun m same => by cases same; exact spelled, rfl⟩
      · exact ⟨none, rfl, nofun, rfl⟩
    refine ⟨⟨hour, minute, meridiem⟩, gap, after.rest, ⟨⟨digit, least, most⟩, read, spelled⟩,
      blank, ?_, ?_⟩
    · rw [split₁, shape, split₂, shape']
      simp [Clock.text, Clock.time, List.append_assoc]
    · rw [← same, ← same']
  · rintro ⟨clock, gap, rest, formed, blank, split, rfl⟩
    obtain ⟨digit, least, most⟩ := formed.hour
    simp only [Clock.text, Clock.time, List.append_assoc] at split
    refine ⟨_, ⟨clock.hour, _, split, digit, least, most, rfl⟩, ⟨found.captures,
      gap ++ (clock.meridiem.getD [] ++ rest)⟩, ?_, _, ⟨gap, _, rfl, blank, rfl⟩, _, ?_, rfl⟩
    · cases minute : clock.minute with
      | none => exact Or.inr rfl
      | some m =>
        exact Or.inl ⟨m, gap ++ (clock.meridiem.getD [] ++ rest), rfl, formed.minute m minute, rfl⟩
    · cases meridiem : clock.meridiem with
      | none => exact Or.inr rfl
      | some m => exact Or.inl ⟨m, rest, rfl, formed.meridiem m meridiem, rfl⟩

/-- At least one blank and nothing else. -/
def Blanks (cs : List Char) : Prop := cs ≠ [] ∧ ∀ c ∈ cs, isSpace c = true

/-- The optional end of the schedule pattern. -/
def clockTail (py : Runtime) : Pattern Char := chain
  [someSpaces, caselessWord "at", someSpaces, .group "clock" (clockBody py)]

/-- The clock phrase at the end of a schedule command. -/
theorem mem_search_clockTail {py : Runtime} {found after : Found Char} :
    after ∈ search (clockTail py) found ↔
      ∃ (before preposition between : List Char) (clock : Clock) (gap rest : List Char),
        Blanks before ∧ Spelled "at" preposition ∧ Blanks between ∧ clock.WellFormed py ∧
        (∀ c ∈ gap, isSpace c = true) ∧
        found.rest = before ++ (preposition ++ (between ++ (clock.text gap ++ rest))) ∧
        after = ⟨("clock", clock.text gap) :: found.captures, rest⟩ := by
  simp only [clockTail, mem_search_chain_cons, mem_search_chain_nil, mem_search_someSpaces,
    mem_search_caselessWord (show ∀ letter ∈ "at".toList, asciiLower letter = letter by decide),
    mem_search_group, mem_search_clockBody]
  constructor
  · rintro ⟨_, ⟨before, r₁, split₁, blank₁, some₁, rfl⟩, _, ⟨preposition, r₂, split₂, spelled, rfl⟩,
      _, ⟨between, r₃, split₃, blank₃, some₃, rfl⟩, _,
      ⟨taken, _, split₄, ⟨clock, gap, rest, formed, blank, split₅, rfl⟩, rfl⟩, rfl⟩
    dsimp only at split₂ split₃ split₄ split₅
    have captured : taken = clock.text gap := List.append_cancel_right (split₄.symm.trans split₅)
    refine ⟨before, preposition, between, clock, gap, rest, ⟨some₁, blank₁⟩, spelled,
      ⟨some₃, blank₃⟩, formed, blank, ?_, by rw [captured]⟩
    rw [split₁, split₂, split₃, split₅]
  · rintro ⟨before, preposition, between, clock, gap, rest, ⟨some₁, blank₁⟩, spelled,
      ⟨some₃, blank₃⟩, formed, blank, split, rfl⟩
    exact ⟨_, ⟨before, _, split, blank₁, some₁, rfl⟩, _, ⟨preposition, _, rfl, spelled, rfl⟩, _,
      ⟨between, _, rfl, blank₃, some₃, rfl⟩, _,
      ⟨clock.text gap, ⟨found.captures, rest⟩, rfl, ⟨clock, gap, rest, formed, blank, rfl, rfl⟩,
        rfl⟩, rfl⟩

/-! ## Schedule commands -/

/-- The words are a schedule command for this name, with this clock if they tell one. -/
inductive Scheduled (py : Runtime) :
    List (List Char) → List (List Char) → Option (Clock × List Char) → Prop
  | plain (keyword day : List Char) (name : List (List Char)) (opens : Spelled "schedule" keyword)
      (some : name ≠ []) (tomorrow : Spelled "tomorrow" day) :
      Scheduled py (keyword :: (name ++ [day])) name none
  | timed (keyword day preposition : List Char) (name told : List (List Char)) (clock : Clock)
      (gap : List Char) (opens : Spelled "schedule" keyword) (some : name ≠ [])
      (tomorrow : Spelled "tomorrow" day) (spelled : Spelled "at" preposition)
      (formed : clock.WellFormed py) (blank : ∀ c ∈ gap, isSpace c = true)
      (text : join ' ' told = clock.text gap) :
      Scheduled py (keyword :: (name ++ day :: preposition :: told)) name (Option.some (clock, gap))

/-- The groups of a schedule match. -/
def scheduleCaptures (name : List (List Char)) (clock : Option (Clock × List Char)) :
    List (String × List Char) :=
  match clock with
  | none => [("task", join ' ' name)]
  | some (clock, gap) => [("clock", clock.text gap), ("task", join ' ' name)]

/-- A text that starts with blanks or is empty. -/
def OpensBlank (cs : List Char) : Prop := ∀ c ∈ cs.head?, isSpace c = true

theorem opensBlank_append {blanks rest : List Char} (blank : Blanks blanks) :
    OpensBlank (blanks ++ rest) := by
  obtain ⟨some, spaces⟩ := blank
  cases blanks with
  | nil => exact absurd rfl some
  | cons c others =>
    intro d first
    cases first
    exact spaces c List.mem_cons_self

theorem opensBlank_of_all {cs : List Char} (spaces : ∀ c ∈ cs, isSpace c = true) :
    OpensBlank cs := fun c first => spaces c (List.mem_of_mem_head? first)

/-- What the anchor leaves after trailing white space is white space. -/
theorem blank_end {blanks rest : List Char} (spaces : ∀ c ∈ blanks, isSpace c = true)
    (ends : rest = [] ∨ rest = ['\n']) : ∀ c ∈ blanks ++ rest, isSpace c = true := by
  intro c member
  rcases List.mem_append.mp member with early | late
  · exact spaces c early
  · rcases ends with rfl | rfl
    · cases late
    · rw [List.mem_singleton.mp late]
      decide

section
variable {words : List (List Char)} (all : ∀ word ∈ words, IsWord isSpace word)
include all

/-- A keyword at the start of joined words is the first of them. -/
theorem cut_keyword {word : String} {taken rest : List Char}
    (split : join ' ' words = taken ++ rest) (spelled : Spelled word taken) (some : word ≠ "")
    (plain : ∀ letter ∈ word.toList, isSpace letter = false) (ends : OpensBlank rest) :
    ∃ others, words = taken :: others ∧ rest = following ' ' others :=
  cut_word all (by decide) split (spelled.visible some) (spelled.solid plain) ends

/-- Joined words contain no line end. -/
theorem no_newline : ∀ c ∈ join ' ' words, c ≠ '\n' := by
  rintro c member rfl
  have gap := blank_eq_gap all member (by decide)
  cases gap

end

/-! ## A name between two keywords -/

/-- The head the schedule and the mark pattern share. -/
def frame (opening closing : String) (rest : List (Pattern Char)) : Pattern Char := chain
  (spaces :: caselessWord opening :: someSpaces :: .group "task" (anyText true) :: someSpaces ::
    caselessWord closing :: rest)

/-- A keyword of a pattern: in lower case, and without white space. -/
structure Keyword (word : String) : Prop where
  lower : ∀ c ∈ word.toList, asciiLower c = c
  visible : word ≠ ""
  plain : ∀ c ∈ word.toList, isSpace c = false

/-- A keyword, a task and a closing keyword, with the rest behind them. -/
theorem mem_search_frame {opening closing : String} (opens : Keyword opening)
    (closes : Keyword closing) {rest : List (Pattern Char)} {found after : Found Char} :
    after ∈ search (frame opening closing rest) found ↔
      ∃ lead keyword gap task gap' final behind : List Char,
        (∀ c ∈ lead, isSpace c = true) ∧ Spelled opening keyword ∧ Blanks gap ∧
        ((∀ c ∈ task, c ≠ '\n') ∧ task ≠ []) ∧ Blanks gap' ∧ Spelled closing final ∧
        found.rest = lead ++ (keyword ++ (gap ++ (task ++ (gap' ++ (final ++ behind))))) ∧
        after ∈ search (chain rest) ⟨("task", task) :: found.captures, behind⟩ := by
  simp only [frame, mem_search_chain_cons, mem_search_spaces, mem_search_someSpaces,
    mem_search_group, mem_search_anyText, mem_search_caselessWord opens.lower,
    mem_search_caselessWord closes.lower]
  constructor
  · rintro ⟨_, ⟨lead, r₀, split₀, blank₀, rfl⟩, _, ⟨keyword, r₁, split₁, spelled, rfl⟩, _,
      ⟨gap, r₂, split₂, blank₂, some₂, rfl⟩, _, ⟨taken, _, split₃,
      ⟨task, r₃, split₃', line, visible, rfl⟩, rfl⟩, _, ⟨gap', r₄, split₄, blank₄, some₄, rfl⟩, _,
      ⟨final, r₅, split₅, spelled', rfl⟩, later⟩
    dsimp only at split₁ split₂ split₃ split₃' split₄ split₅
    have captured : taken = task := List.append_cancel_right (split₃.symm.trans split₃')
    subst captured
    refine ⟨lead, keyword, gap, taken, gap', final, r₅, blank₀, spelled, ⟨some₂, blank₂⟩,
      ⟨line, visible⟩, ⟨some₄, blank₄⟩, spelled', ?_, later⟩
    rw [split₀, split₁, split₂, split₃, split₄, split₅]
  · rintro ⟨lead, keyword, gap, task, gap', final, behind, blank₀, spelled, ⟨some₂, blank₂⟩,
      ⟨line, visible⟩, ⟨some₄, blank₄⟩, spelled', split, later⟩
    exact ⟨_, ⟨lead, _, split, blank₀, rfl⟩, _, ⟨keyword, _, rfl, spelled, rfl⟩, _,
      ⟨gap, _, rfl, blank₂, some₂, rfl⟩, _, ⟨task, ⟨found.captures, _⟩, rfl,
      ⟨task, _, rfl, line, visible, rfl⟩, rfl⟩, _, ⟨gap', _, rfl, blank₄, some₄, rfl⟩, _,
      ⟨final, _, rfl, spelled', rfl⟩, later⟩

section
variable {opening closing : String} (opens : Keyword opening) (closes : Keyword closing)
  {words : List (List Char)} (all : ∀ word ∈ words, IsWord isSpace word)
  {rest : List (Pattern Char)}
include opens closes all

/-- On joined words the frame cuts out whole words, if what comes after it starts blank. -/
theorem frame_of_match {found : Found Char}
    (ends : ∀ task behind, found ∈ search (chain rest) ⟨[("task", task)], behind⟩ →
      OpensBlank behind)
    (matched : found ∈ search (frame opening closing rest) ⟨[], join ' ' words⟩) :
    ∃ keyword final name others, words = keyword :: (name ++ final :: others) ∧
      Spelled opening keyword ∧ name ≠ [] ∧ Spelled closing final ∧
      found ∈ search (chain rest) ⟨[("task", join ' ' name)], following ' ' others⟩ := by
  obtain ⟨lead, keyword, gap, task, gap', final, behind, blank, spelled, ⟨some₂, blank₂⟩, -,
    ⟨some₄, blank₄⟩, spelled', split, later⟩ := (mem_search_frame opens closes).mp matched
  have noLead := no_leading_blanks all split blank
  subst noLead
  rw [List.nil_append] at split
  obtain ⟨after, rfl, follows⟩ := cut_keyword all split spelled opens.visible opens.plain
    (opensBlank_append ⟨some₂, blank₂⟩)
  have allAfter (word : List Char) (member : word ∈ after) : IsWord isSpace word :=
    all word (List.mem_cons_of_mem keyword member)
  obtain ⟨-, text⟩ := cut_blanks allAfter follows.symm some₂ blank₂
  obtain ⟨name, second, more, -, rfl, rfl, text'⟩ := cut_between allAfter text.symm some₄ blank₄
  obtain ⟨others, rfl, rfl⟩ := cut_keyword
    (fun word member => allAfter word (List.mem_append_right name member)) text'.symm spelled'
    closes.visible closes.plain (ends _ behind later)
  exact ⟨keyword, final, name, others, rfl, spelled, more, spelled', later⟩

/-- The frame matches the words it reads, with the words before the second keyword as name. -/
theorem match_of_frame {keyword final : List Char} {name others : List (List Char)}
    (shape : words = keyword :: (name ++ final :: others)) (spelled : Spelled opening keyword)
    (some : name ≠ []) (spelled' : Spelled closing final) {found : Found Char}
    (later : found ∈ search (chain rest) ⟨[("task", join ' ' name)], following ' ' others⟩) :
    found ∈ search (frame opening closing rest) ⟨[], join ' ' words⟩ := by
  have named (word : List Char) (member : word ∈ name) : IsWord isSpace word :=
    all word (by simp [shape, member])
  have gap : Blanks [' '] := ⟨by simp, by decide⟩
  refine (mem_search_frame opens closes).mpr ⟨[], keyword, [' '], join ' ' name, [' '], final,
    following ' ' others, by simp, spelled, gap, ⟨no_newline named, join_ne_nil named some⟩, gap,
    spelled', ?_, later⟩
  rw [shape, join_cons keyword (by simp), join_append some (by simp), join_cons_following]
  rfl

end

theorem schedulePattern_eq (py : Runtime) : schedulePattern py =
    frame "schedule" "tomorrow" [.optional (clockTail py), spaces, atEnd] := rfl

theorem keyword_schedule : Keyword "schedule" := ⟨by decide, by decide, by decide⟩

theorem keyword_tomorrow : Keyword "tomorrow" := ⟨by decide, by decide, by decide⟩

/-- The end of the pattern takes white space only. -/
theorem mem_search_ending {found after : Found Char} :
    after ∈ search (chain [spaces, atEnd]) found ↔ ∃ blanks rest,
      found.rest = blanks ++ rest ∧ (∀ c ∈ blanks, isSpace c = true) ∧
      (rest = [] ∨ rest = ['\n']) ∧ after = ⟨found.captures, rest⟩ := by
  simp only [mem_search_chain_cons, mem_search_chain_nil, mem_search_spaces, mem_search_atEnd]
  constructor
  · rintro ⟨_, ⟨blanks, rest, split, blank, rfl⟩, _, ⟨ends, rfl⟩, rfl⟩
    exact ⟨blanks, rest, split, blank, ends, rfl⟩
  · rintro ⟨blanks, rest, split, blank, ends, rfl⟩
    exact ⟨_, ⟨blanks, rest, split, blank, rfl⟩, _, ⟨ends, rfl⟩, rfl⟩

theorem ending_blank {found after : Found Char}
    (matched : after ∈ search (chain [spaces, atEnd]) found) :
    ∀ c ∈ found.rest, isSpace c = true := by
  obtain ⟨blanks, rest, split, blank, ends, -⟩ := mem_search_ending.mp matched
  rw [split]
  exact blank_end blank ends

/-- Where nothing is left the end of the pattern takes nothing. -/
theorem mem_search_ending_nil {captures : List (String × List Char)} {after : Found Char} :
    after ∈ search (chain [spaces, atEnd]) ⟨captures, []⟩ ↔ after = ⟨captures, []⟩ := by
  rw [mem_search_ending]
  constructor
  · rintro ⟨blanks, rest, split, -, -, rfl⟩
    rw [(List.append_eq_nil_iff.mp split.symm).2]
  · rintro rfl
    exact ⟨[], [], rfl, by simp, Or.inl rfl, rfl⟩

theorem clockTail_blank {py : Runtime} {found after : Found Char}
    (matched : after ∈ search (clockTail py) found) : OpensBlank found.rest := by
  obtain ⟨_, _, _, _, _, _, blank, -, -, -, -, split, -⟩ := mem_search_clockTail.mp matched
  rw [split]
  exact opensBlank_append blank

/-- Every match of the schedule pattern reads the words as a schedule command. -/
theorem scheduled_of_match {py : Runtime} {words : List (List Char)}
    (all : ∀ word ∈ words, IsWord isSpace word) {found : Found Char}
    (matched : found ∈ search (schedulePattern py) ⟨[], join ' ' words⟩) :
    ∃ name clock, Scheduled py words name clock ∧ found = ⟨scheduleCaptures name clock, []⟩ := by
  rw [schedulePattern_eq] at matched
  obtain ⟨keyword, day, name, others, rfl, opens, more, tomorrow, later⟩ :=
    frame_of_match keyword_schedule keyword_tomorrow all (fun task behind later => by
      obtain ⟨mid, tail, ending⟩ := mem_search_chain_cons.mp later
      rcases mem_search_optional.mp tail with told | rfl
      · exact clockTail_blank told
      · exact opensBlank_of_all (ending_blank ending)) matched
  have allOthers (word : List Char) (member : word ∈ others) : IsWord isSpace word :=
    all word (by simp [member])
  obtain ⟨mid, tail, ending⟩ := mem_search_chain_cons.mp later
  rcases mem_search_optional.mp tail with timed | rfl
  · obtain ⟨before, preposition, between, clock, gap, rest, ⟨some₁, blank₁⟩, spelled,
      ⟨some₂, blank₂⟩, formed, blank, split, rfl⟩ := mem_search_clockTail.mp timed
    obtain ⟨-, text⟩ := cut_blanks allOthers split some₁ blank₁
    obtain ⟨told, rfl, follows⟩ := cut_keyword allOthers text.symm spelled (by decide) (by decide)
      (opensBlank_append ⟨some₂, blank₂⟩)
    have allTold (word : List Char) (member : word ∈ told) : IsWord isSpace word :=
      allOthers word (List.mem_cons_of_mem preposition member)
    obtain ⟨-, text'⟩ := cut_blanks allTold follows.symm some₂ blank₂
    have nothing := no_trailing_blanks allTold text'.symm (ending_blank ending)
    subst nothing
    rw [List.append_nil] at text'
    refine ⟨name, some (clock, gap), ?_, mem_search_ending_nil.mp ending⟩
    exact .timed keyword day preposition name told clock gap opens more tomorrow spelled formed
      blank text'.symm
  · have nothing := nothing_follows allOthers rfl (ending_blank ending)
    subst nothing
    exact ⟨name, none, .plain keyword day name opens more tomorrow, mem_search_ending_nil.mp ending⟩

theorem told_ne_nil {py : Runtime} {told : List (List Char)} {clock : Clock} {gap : List Char}
    (formed : clock.WellFormed py) (text : join ' ' told = clock.text gap) : told ≠ [] := by
  rintro rfl
  have empty := text.symm
  simp only [Clock.text, Clock.time, join, List.append_eq_nil_iff] at empty
  have least := formed.hour.2.1
  rw [empty.1.1.1] at least
  cases least

/-- A schedule command is matched as it reads. -/
theorem match_of_scheduled {py : Runtime} {words name : List (List Char)}
    {clock : Option (Clock × List Char)} (all : ∀ word ∈ words, IsWord isSpace word)
    (scheduled : Scheduled py words name clock) :
    ⟨scheduleCaptures name clock, []⟩ ∈ search (schedulePattern py) ⟨[], join ' ' words⟩ := by
  rw [schedulePattern_eq]
  cases scheduled with
  | plain keyword day name opens some tomorrow =>
    refine match_of_frame keyword_schedule keyword_tomorrow all rfl opens some tomorrow ?_
    exact mem_search_chain_cons.mpr ⟨_, mem_search_optional.mpr (Or.inr rfl),
      mem_search_ending_nil.mpr rfl⟩
  | timed keyword day preposition name told clock gap opens some tomorrow spelled formed blank
      text =>
    refine match_of_frame keyword_schedule keyword_tomorrow all rfl opens some tomorrow ?_
    refine mem_search_chain_cons.mpr ⟨⟨scheduleCaptures name (Option.some (clock, gap)), []⟩,
      mem_search_optional.mpr (Or.inl ?_), mem_search_ending_nil.mpr rfl⟩
    refine mem_search_clockTail.mpr ⟨[' '], preposition, [' '], clock, gap, [],
      ⟨by simp, by decide⟩, spelled, ⟨by simp, by decide⟩, formed, blank, ?_, rfl⟩
    dsimp only
    rw [following_eq (by simp), join_cons preposition (told_ne_nil formed text), text]
    simp

theorem decimal_blank (py : Runtime) : py.decimal ' ' = none := by
  rw [py.decimal_ascii ' ' (by decide)]
  decide

theorem mem_time {py : Runtime} {clock : Clock} (formed : clock.WellFormed py) {c : Char}
    (member : c ∈ clock.time) : (py.decimal c).isSome = true ∨ c = ':' := by
  rcases List.mem_append.mp member with hour | minutes
  · exact Or.inl (formed.hour.1 c hour)
  · cases minute : clock.minute with
    | none =>
      rw [minute] at minutes
      cases minutes
    | some digits =>
      rw [minute] at minutes
      rcases List.mem_cons.mp minutes with colon | digit
      · exact Or.inr colon
      · exact Or.inl ((formed.minute digits minute).1 c digit)

/-- The digits of a clock in joined words contain no white space. -/
theorem time_solid {py : Runtime} {told : List (List Char)} {clock : Clock} {rest : List Char}
    (all : ∀ word ∈ told, IsWord isSpace word) (formed : clock.WellFormed py)
    (text : join ' ' told = clock.time ++ rest) : ∀ c ∈ clock.time, isSpace c = false := by
  intro c member
  by_contra blank
  rw [Bool.not_eq_false] at blank
  have gap := blank_eq_gap all (by rw [text]; exact List.mem_append_left rest member) blank
  subst gap
  rcases mem_time formed member with digit | colon
  · rw [decimal_blank] at digit
    cases digit
  · exact absurd colon (by decide)

theorem meridiem_solid {py : Runtime} {clock : Clock} (formed : clock.WellFormed py) :
    ∀ c ∈ clock.meridiem.getD [], isSpace c = false := by
  cases meridiem : clock.meridiem with
  | none => exact nofun
  | some m => exact (formed.meridiem m meridiem).elim (·.solid (by decide)) (·.solid (by decide))

/-- The words of a clock text: one that starts with a digit, or two of which the second is am
or pm. -/
theorem told_cases {py : Runtime} {told : List (List Char)} {clock : Clock} {gap : List Char}
    (all : ∀ word ∈ told, IsWord isSpace word) (formed : clock.WellFormed py)
    (blank : ∀ c ∈ gap, isSpace c = true) (text : join ' ' told = clock.text gap) :
    (∃ c rest, told = [c :: rest] ∧ (py.decimal c).isSome = true) ∨
      ∃ time meridiem, told = [time, meridiem] ∧
        (Spelled "am" meridiem ∨ Spelled "pm" meridiem) := by
  obtain ⟨digit, least, -⟩ := formed.hour
  have some := told_ne_nil formed text
  rw [Clock.text, List.append_assoc] at text
  have solid := time_solid all formed text
  cases gap with
  | nil =>
    have single := words_of_solid all (by decide) text some fun c member =>
      (List.mem_append.mp member).elim (solid c) (meridiem_solid formed c)
    cases hour : clock.hour with
    | nil =>
      rw [hour] at least
      cases least
    | cons c rest =>
      simp only [Clock.time, hour, List.cons_append] at single
      exact Or.inl ⟨c, _, single, digit c (by rw [hour]; exact List.mem_cons_self)⟩
  | cons c others =>
    obtain ⟨first, second, more, later, parts, left, right⟩ :=
      cut_between all text (List.cons_ne_nil c others) blank
    have among (word : List Char) (member : word ∈ first ∨ word ∈ second) :
        IsWord isSpace word := all word (by rw [parts]; exact List.mem_append.mpr member)
    have opens := words_of_solid (fun word member => among word (Or.inl member)) (by decide)
      left.symm more solid
    have closes := words_of_solid (fun word member => among word (Or.inr member)) (by decide)
      right.symm later (meridiem_solid formed)
    cases meridiem : clock.meridiem with
    | none =>
      rw [meridiem] at right
      exact absurd right.symm (join_ne_nil (fun word member => among word (Or.inr member)) later)
    | some m =>
      rw [meridiem] at closes
      exact Or.inr ⟨clock.time, m, by rw [parts, opens, closes]; rfl, formed.meridiem m meridiem⟩

/-- A word that starts with a digit is spelled as no keyword that starts with a plain letter. -/
theorem not_spelled_of_digit {py : Runtime} {word : String} {c letter : Char}
    {rest letters : List Char} (digit : (py.decimal c).isSome = true)
    (shape : word.toList = letter :: letters)
    (plain : letter ≠ 'i' ∧ letter ≠ 's' ∧ letter ≠ 'k')
    (lower : 97 ≤ letter.toNat ∧ letter.toNat ≤ 122) : ¬Spelled word (c :: rest) := by
  intro spelled
  have folded : foldLetter c = letter := by
    unfold Spelled at spelled
    rw [shape, List.map_cons] at spelled
    exact (List.cons.inj spelled).1
  rw [decimal_of_fold py folded plain lower] at digit
  cases digit

/-- How the words behind the name of a schedule command end. -/
inductive Ending (py : Runtime) : List (List Char) → Option (List Char) → Prop
  | day (day : List Char) (tomorrow : Spelled "tomorrow" day) : Ending py [day] none
  | digit (day preposition rest : List Char) (c : Char) (digit : (py.decimal c).isSome = true) :
      Ending py [day, preposition, c :: rest] (some (c :: rest))
  | meridiem (day preposition time meridiem : List Char)
      (spelled : Spelled "am" meridiem ∨ Spelled "pm" meridiem) :
      Ending py [day, preposition, time, meridiem] (some (join ' ' [time, meridiem]))

theorem Scheduled.ending {py : Runtime} {words name : List (List Char)}
    {clock : Option (Clock × List Char)} (all : ∀ word ∈ words, IsWord isSpace word)
    (scheduled : Scheduled py words name clock) :
    ∃ keyword behind, words = keyword :: (name ++ behind) ∧
      Ending py behind (clock.map fun told => told.1.text told.2) := by
  cases scheduled with
  | plain keyword day name opens some tomorrow => exact ⟨keyword, [day], rfl, .day day tomorrow⟩
  | timed keyword day preposition name told clock gap opens some tomorrow spelled formed blank
      text =>
    refine ⟨keyword, day :: preposition :: told, rfl, ?_⟩
    rcases told_cases (fun word member => all word (by simp [member])) formed blank text with
      ⟨c, rest, rfl, digit⟩ | ⟨time, meridiem, rfl, spelled'⟩
    · rw [Option.map_some, ← text]
      exact .digit day preposition rest c digit
    · rw [Option.map_some, ← text]
      exact .meridiem day preposition time meridiem spelled'

/-- Different endings have different last words, so equal texts are cut alike. -/
theorem Ending.unique {py : Runtime} {name name' behind behind' : List (List Char)}
    {text text' : Option (List Char)} (one : Ending py behind text)
    (other : Ending py behind' text') (same : name ++ behind = name' ++ behind') :
    name = name' ∧ text = text' := by
  have reversed := congrArg List.reverse same
  have notAm {c : Char} {rest : List Char} (digit : (py.decimal c).isSome = true) :
      ¬(Spelled "am" (c :: rest) ∨ Spelled "pm" (c :: rest)) := fun spelled =>
    spelled.elim (not_spelled_of_digit digit rfl (by decide) (by decide))
      (not_spelled_of_digit digit rfl (by decide) (by decide))
  have notDay {c : Char} {rest : List Char} (digit : (py.decimal c).isSome = true) :
      ¬Spelled "tomorrow" (c :: rest) :=
    not_spelled_of_digit digit rfl (by decide) (by decide)
  have short {word : List Char} (spelled : Spelled "am" word ∨ Spelled "pm" word) :
      ¬Spelled "tomorrow" word := by
    intro tomorrow
    have eight := tomorrow.length
    rcases spelled with two | two
    · exact absurd (two.length.symm.trans eight) (by decide)
    · exact absurd (two.length.symm.trans eight) (by decide)
  cases one <;> cases other <;>
    simp only [List.reverse_append, List.reverse_cons, List.reverse_nil, List.nil_append,
      List.cons_append, List.cons.injEq, List.reverse_inj] at reversed
  case day.day => exact ⟨reversed.2, rfl⟩
  case day.digit tomorrow _ _ _ _ digit => exact absurd (reversed.1 ▸ tomorrow) (notDay digit)
  case day.meridiem tomorrow _ _ _ _ spelled =>
    exact absurd (reversed.1 ▸ tomorrow) (short spelled)
  case digit.day digit _ tomorrow => exact absurd (reversed.1 ▸ tomorrow) (notDay digit)
  case digit.digit =>
    obtain ⟨⟨rfl, rfl⟩, -, -, rfl⟩ := reversed
    exact ⟨rfl, rfl⟩
  case digit.meridiem digit _ _ _ _ spelled => exact absurd (reversed.1 ▸ spelled) (notAm digit)
  case meridiem.day spelled _ tomorrow => exact absurd (reversed.1 ▸ tomorrow) (short spelled)
  case meridiem.digit spelled _ _ _ _ digit =>
    exact absurd (reversed.1 ▸ spelled) (notAm digit)
  case meridiem.meridiem =>
    obtain ⟨rfl, rfl, -, -, rfl⟩ := reversed
    exact ⟨rfl, rfl⟩

/-- The last words of two readings of one command are the same, so their clocks and names are. -/
theorem scheduled_unique {py : Runtime} {words name name' : List (List Char)}
    {clock clock' : Option (Clock × List Char)} (all : ∀ word ∈ words, IsWord isSpace word)
    (one : Scheduled py words name clock) (other : Scheduled py words name' clock') :
    scheduleCaptures name clock = scheduleCaptures name' clock' := by
  obtain ⟨keyword, behind, shape, ends⟩ := one.ending all
  obtain ⟨keyword', behind', shape', ends'⟩ := other.ending all
  obtain ⟨-, same⟩ := List.cons.inj (shape.symm.trans shape')
  obtain ⟨rfl, texts⟩ := ends.unique ends' same
  have captures (clock : Option (Clock × List Char)) : scheduleCaptures name clock =
      ((clock.map fun told => told.1.text told.2).map fun text => ("clock", text)).toList ++
        [("task", join ' ' name)] := by
    cases clock <;> rfl
  rw [captures, captures, texts]

/-- The schedule pattern answers with the reading of the words as a schedule command. -/
theorem schedule_firstMatch {py : Runtime} {words name : List (List Char)}
    {clock : Option (Clock × List Char)} (all : ∀ word ∈ words, IsWord isSpace word)
    (scheduled : Scheduled py words name clock) :
    firstMatch (schedulePattern py) (join ' ' words) = some ⟨scheduleCaptures name clock, []⟩ := by
  refine answers_of_unique (match_of_scheduled all scheduled) fun other matched => ?_
  obtain ⟨name', clock', read, rfl⟩ := scheduled_of_match all matched
  rw [scheduled_unique all read scheduled]

/-! ## Mark commands -/

/-- The words are a mark command for this name. -/
inductive Marked : List (List Char) → List (List Char) → Prop
  | named (keyword final : List Char) (name : List (List Char)) (opens : Spelled "mark" keyword)
      (some : name ≠ []) (closes : Spelled "completed" final) :
      Marked (keyword :: (name ++ [final])) name

theorem markCompletedPattern_eq :
    markCompletedPattern = frame "mark" "completed" [spaces, atEnd] := rfl

theorem keyword_mark : Keyword "mark" := ⟨by decide, by decide, by decide⟩

theorem keyword_completed : Keyword "completed" := ⟨by decide, by decide, by decide⟩

/-- Every match of the mark pattern reads the words as a mark command. -/
theorem marked_of_match {words : List (List Char)} (all : ∀ word ∈ words, IsWord isSpace word)
    {found : Found Char} (matched : found ∈ search markCompletedPattern ⟨[], join ' ' words⟩) :
    ∃ name, Marked words name ∧ found = ⟨[("task", join ' ' name)], []⟩ := by
  rw [markCompletedPattern_eq] at matched
  obtain ⟨keyword, final, name, others, rfl, opens, more, closes, later⟩ :=
    frame_of_match keyword_mark keyword_completed all
      (fun task behind later => opensBlank_of_all (ending_blank later)) matched
  have nothing := nothing_follows (fun word member => all word (by simp [member])) rfl
    (ending_blank later)
  subst nothing
  exact ⟨name, .named keyword final name opens more closes, mem_search_ending_nil.mp later⟩

/-- A mark command has one match, and it is its reading. -/
theorem mark_firstMatch {words name : List (List Char)}
    (all : ∀ word ∈ words, IsWord isSpace word) (marked : Marked words name) :
    firstMatch markCompletedPattern (join ' ' words) = some ⟨[("task", join ' ' name)], []⟩ := by
  refine answers_of_unique ?_ fun other matched => ?_
  · cases marked with
    | named keyword final name opens some closes =>
      rw [markCompletedPattern_eq]
      exact match_of_frame keyword_mark keyword_completed all rfl opens some closes
        (mem_search_ending_nil.mpr rfl)
  · obtain ⟨name', read, rfl⟩ := marked_of_match all matched
    have same : name' = name := by
      cases marked with
      | named keyword final name opens some closes =>
        generalize shape : keyword :: (name ++ [final]) = words at read
        cases read with
        | named keyword' final' name' opens' some' closes' =>
          simp only [List.cons.injEq, List.append_singleton_inj] at shape
          exact shape.2.1.symm
    rw [same]

/-! ## Cancel commands -/

/-- What a cancel command names: the words behind the keyword, without a first `task`. -/
def cancelName : List (List Char) → List (List Char)
  | [] => []
  | word :: rest => if Spelled "task" word then rest else word :: rest

/-- The groups of the first cancel match. -/
def cancelCaptures (name : List (List Char)) : List (String × List Char) :=
  if name = [] then [] else [("task", join ' ' name)]

def taskKeyword : Pattern Char := chain [someSpaces, caselessWord "task"]

def cancelGroup : Pattern Char := chain [someSpaces, .group "task" (anyText false)]

theorem cancelPattern_eq : cancelPattern = chain
    (spaces :: caselessWord "cancel" :: .optional taskKeyword :: .optional cancelGroup ::
      [spaces, atEnd]) := rfl

theorem answers_spaces {captures : List (String × List Char)} {cs : List Char}
    (visible : ∀ c ∈ cs.head?, isSpace c = false) :
    Answers spaces ⟨captures, cs⟩ ⟨captures, cs⟩ := by
  have run : Answers (.run isSpace 0 none false) ⟨captures, [] ++ cs⟩ ⟨captures, cs⟩ :=
    answers_run (by simp) visible (Nat.zero_le _) nofun
  exact run

theorem answers_gap {captures : List (String × List Char)} {cs : List Char}
    (visible : ∀ c ∈ cs.head?, isSpace c = false) :
    Answers someSpaces ⟨captures, ' ' :: cs⟩ ⟨captures, cs⟩ := by
  have run : Answers (.run isSpace 1 none false) ⟨captures, [' '] ++ cs⟩ ⟨captures, cs⟩ :=
    answers_run (by decide) visible (by simp) nofun
  exact run

theorem answers_keyword {word : String} (keyword : Keyword word) {cs rest : List Char}
    (spelled : Spelled word cs) (captures : List (String × List Char)) :
    Answers (caselessWord word) ⟨captures, cs ++ rest⟩ ⟨captures, rest⟩ := by
  refine answers_of_unique ((mem_search_caselessWord keyword.lower).mpr
    ⟨cs, rest, rfl, spelled, rfl⟩) fun other matched => ?_
  obtain ⟨taken, rest', split, spelled', rfl⟩ := (mem_search_caselessWord keyword.lower).mp matched
  have lengths := spelled.length.trans spelled'.length.symm
  rw [(List.append_inj split lengths).2]

theorem answers_ending (captures : List (String × List Char)) :
    Answers (chain [spaces, atEnd]) ⟨captures, []⟩ ⟨captures, []⟩ :=
  answers_of_unique (mem_search_ending_nil.mpr rfl) fun _ => mem_search_ending_nil.mp

theorem visible_join {words : List (List Char)} (all : ∀ word ∈ words, IsWord isSpace word) :
    ∀ c ∈ (join ' ' words).head?, isSpace c = false := by
  intro c first
  obtain ⟨rest, shape⟩ := List.head?_eq_some_iff.mp first
  exact head_join all shape

/-- The group of a cancel command takes all the words that follow. -/
theorem answers_cancelGroup {words : List (List Char)} (all : ∀ word ∈ words, IsWord isSpace word)
    (some : words ≠ []) :
    Answers cancelGroup ⟨[], following ' ' words⟩ ⟨[("task", join ' ' words)], []⟩ := by
  have whole : Answers (anyText false) ⟨[], join ' ' words⟩ ⟨[], []⟩ := by
    have taken : ∀ c ∈ join ' ' words, (c != '\n') = true := fun c member =>
      bne_iff_ne.mpr (no_newline all c member)
    have run : Answers (anyText false) ⟨[], join ' ' words ++ []⟩ ⟨[], []⟩ :=
      answers_run taken (by simp) (List.length_pos_iff.mpr (join_ne_nil all some)) nofun
    rwa [List.append_nil] at run
  rw [following_eq some]
  refine answers_chain (answers_gap (visible_join all)) (answers_chain ?_ (answers_chain_nil _))
  exact answers_group whole (by simp)

theorem keyword_cancel : Keyword "cancel" := ⟨by decide, by decide, by decide⟩

theorem keyword_task : Keyword "task" := ⟨by decide, by decide, by decide⟩

theorem mem_search_taskKeyword {found after : Found Char} :
    after ∈ search taskKeyword found ↔ ∃ gap keyword rest, Blanks gap ∧ Spelled "task" keyword ∧
      found.rest = gap ++ (keyword ++ rest) ∧ after = ⟨found.captures, rest⟩ := by
  simp only [taskKeyword, mem_search_chain_cons, mem_search_chain_nil, mem_search_someSpaces,
    mem_search_caselessWord keyword_task.lower]
  constructor
  · rintro ⟨_, ⟨gap, r, split, blank, some, rfl⟩, _, ⟨keyword, rest, split', spelled, rfl⟩, rfl⟩
    dsimp only at split'
    exact ⟨gap, keyword, rest, ⟨some, blank⟩, spelled, by rw [split, split'], rfl⟩
  · rintro ⟨gap, keyword, rest, ⟨some, blank⟩, spelled, split, rfl⟩
    exact ⟨_, ⟨gap, _, split, blank, some, rfl⟩, _, ⟨keyword, rest, rfl, spelled, rfl⟩, rfl⟩

theorem cancelGroup_blank {found after : Found Char}
    (matched : after ∈ search cancelGroup found) : ∃ gap rest, Blanks gap ∧
      found.rest = gap ++ rest := by
  obtain ⟨mid, spaced, -⟩ := mem_search_chain_cons.mp matched
  obtain ⟨gap, rest, split, blank, some, -⟩ := mem_search_someSpaces.mp spaced
  exact ⟨gap, rest, ⟨some, blank⟩, split⟩

/-- What the pattern matches behind its keywords starts blank. -/
theorem named_blank {found after : Found Char}
    (matched : after ∈ search (chain (.optional cancelGroup :: [spaces, atEnd])) found) :
    OpensBlank found.rest := by
  obtain ⟨mid, named, ending⟩ := mem_search_chain_cons.mp matched
  rcases mem_search_optional.mp named with group | rfl
  · obtain ⟨gap, rest, blank, split⟩ := cancelGroup_blank group
    rw [split]
    exact opensBlank_append blank
  · exact opensBlank_of_all (ending_blank ending)

/-- Behind the keywords the first match names all the words that follow. -/
theorem answers_named {name : List (List Char)} (all : ∀ word ∈ name, IsWord isSpace word) :
    Answers (chain (.optional cancelGroup :: [spaces, atEnd])) ⟨[], following ' ' name⟩
      ⟨cancelCaptures name, []⟩ := by
  cases name with
  | nil =>
    refine answers_skip (fun mid group => ?_) (answers_ending [])
    obtain ⟨gap, rest, ⟨some, -⟩, split⟩ := cancelGroup_blank group
    exact absurd (List.append_eq_nil_iff.mp split.symm).1 some
  | cons word others =>
    exact answers_chain (answers_optional (answers_cancelGroup all (List.cons_ne_nil word others)))
      (answers_ending _)

/-- The first match of a cancel command passes over a word `task` and names what follows. -/
theorem cancel_firstMatch {keyword : List Char} {rest : List (List Char)}
    (all : ∀ word ∈ keyword :: rest, IsWord isSpace word) (opens : Spelled "cancel" keyword) :
    firstMatch cancelPattern (join ' ' (keyword :: rest)) =
      some ⟨cancelCaptures (cancelName rest), []⟩ := by
  have allRest (word : List Char) (member : word ∈ rest) : IsWord isSpace word :=
    all word (List.mem_cons_of_mem keyword member)
  have visible := visible_join all
  rw [cancelPattern_eq]
  refine answers_chain (answers_spaces visible) ?_
  rw [join_cons_following]
  refine answers_chain (answers_keyword keyword_cancel opens []) ?_
  cases rest with
  | nil =>
    refine answers_skip (fun mid skipped => ?_) (answers_named allRest)
    obtain ⟨gap, _, _, ⟨some, -⟩, -, split, -⟩ := mem_search_taskKeyword.mp skipped
    exact absurd (List.append_eq_nil_iff.mp split.symm).1 some
  | cons word others =>
    have allOthers (w : List Char) (member : w ∈ others) : IsWord isSpace w :=
      allRest w (List.mem_cons_of_mem word member)
    by_cases spelled : Spelled "task" word
    · rw [cancelName, if_pos spelled]
      have passed : Answers taskKeyword ⟨[], following ' ' (word :: others)⟩
          ⟨[], following ' ' others⟩ := by
        rw [following_eq (by simp)]
        refine answers_chain (answers_gap (visible_join allRest)) ?_
        rw [join_cons_following]
        exact answers_chain (answers_keyword keyword_task spelled []) (answers_chain_nil _)
      exact answers_chain (answers_optional passed) (answers_named allOthers)
    · rw [cancelName, if_neg spelled]
      -- The keyword may match the start of a longer word; nothing matches behind that.
      refine answers_skip (fun mid skipped other matched => ?_) (answers_named allRest)
      obtain ⟨gap, taken, behind, ⟨some, blank⟩, spelled', split, rfl⟩ :=
        mem_search_taskKeyword.mp skipped
      obtain ⟨-, text⟩ := cut_blanks allRest split some blank
      obtain ⟨_, same, -⟩ := cut_keyword allRest text.symm spelled' keyword_task.visible
        keyword_task.plain (named_blank matched)
      rw [(List.cons.inj same).1] at spelled
      exact spelled spelled'

/-- Only a text that starts with the keyword is a cancel command. -/
theorem cancel_of_match {words : List (List Char)} (all : ∀ word ∈ words, IsWord isSpace word)
    {found : Found Char} (matched : found ∈ search cancelPattern ⟨[], join ' ' words⟩) :
    ∃ keyword rest, words = keyword :: rest ∧ Spelled "cancel" keyword := by
  rw [cancelPattern_eq] at matched
  obtain ⟨_, leading, matched⟩ := mem_search_chain_cons.mp matched
  obtain ⟨lead, r₀, split₀, blank, rfl⟩ := mem_search_spaces.mp leading
  obtain ⟨_, opening, matched⟩ := mem_search_chain_cons.mp matched
  obtain ⟨keyword, behind, split, spelled, rfl⟩ :=
    (mem_search_caselessWord keyword_cancel.lower).mp opening
  have noLead := no_leading_blanks all split₀ blank
  subst noLead
  have text : join ' ' words = keyword ++ behind := split₀.trans split
  obtain ⟨mid, skipped, matched⟩ := mem_search_chain_cons.mp matched
  have ends : OpensBlank behind := by
    rcases mem_search_optional.mp skipped with passed | rfl
    · obtain ⟨gap, _, _, blank, -, begins, -⟩ := mem_search_taskKeyword.mp passed
      have shape : behind = gap ++ _ := begins
      rw [shape]
      exact opensBlank_append blank
    · exact named_blank matched
  obtain ⟨rest, shape, -⟩ := cut_keyword all text spelled keyword_cancel.visible
    keyword_cancel.plain ends
  exact ⟨keyword, rest, shape, spelled⟩

end Apcos.Guarantees.CommandGrammar
