import Apcos.Guarantees.AnswerCuts

/-!
# Passages of an answer

core/cognition/reasoning_engine.py:193-231. What is presented of an answer has had its
white space collapsed, has been cut at a length and split at full stops. As every step
of this only drops or joins white space inside of what it keeps, each presented sentence
is the collapsed form of a passage of the answer, a stretch of it as the client wrote it.
-/
namespace Apcos.Guarantees.AnswerPassages

open Apcos.Lib.Search
open Apcos.Lib.Words
open Apcos.Source.Python
open Apcos.Source.Cognition
open Apcos.Guarantees.AnswerCuts

/-! ## Words at a cut -/

theorem visible_collapse (text : List Char) :
    (collapse text).filter (fun c => !isSpace c) = text.filter fun c => !isSpace c := by
  have none {run : List Char} (blanks : ∀ c ∈ run, isSpace c = true) :
      run.filter (fun c => !isSpace c) = [] :=
    List.filter_eq_nil_iff.mpr fun c member => by simpa using blanks c member
  obtain ⟨opening, core, closing, split, opens, closes, -, spaced⟩ := collapse_spaced text
  rw [spaced.visible_eq (by decide)]
  conv_rhs => rw [split, List.filter_append, List.filter_append, none opens, none closes]
  simp

/-- A short text is not cut. -/
theorem cutInWord_of_short {words : WordClass} {limit : Nat} {text : List Char}
    (short : text.length ≤ limit) : cutInWord words limit text = false := by
  have whole := visible_collapse (kept limit text)
  rw [collapse_kept, boundText_of_short short, visible_collapse] at whole
  have parts := congrArg (List.filter fun c => !isSpace c) (kept_append limit text)
  rw [List.filter_append, ← whole, List.self_eq_append_right, List.filter_eq_nil_iff] at parts
  rw [cutInWord]
  cases first : (text.drop (keptLength limit text)).head? with
  | none => simp [headWord, first]
  | some c =>
    have blank := parts c (List.mem_of_mem_head? first)
    simp only [Bool.not_eq_true', Bool.not_eq_false] at blank
    simp [headWord, first, words.space c blank]

/-! ## Between full stops -/

def isStop (c : Char) : Bool := c == '.'

theorem not_isStop_of_space {c : Char} (blank : isSpace c = true) : isStop c = false := by
  rw [isStop, beq_eq_false_iff_ne]
  intro same
  rw [same] at blank
  exact absurd blank (by decide)

theorem splitRuns_congr {p q : Char → Bool} {text : List Char} (same : ∀ c ∈ text, p c = q c)
    (inRun : Bool) (piece : List Char) : splitRuns p inRun piece text = splitRuns q inRun piece text := by
  induction text generalizing inRun piece with
  | nil => rfl
  | cons c rest ih =>
    have later := ih fun d member => same d (List.mem_cons_of_mem c member)
    rw [splitRuns, splitRuns, same c List.mem_cons_self, later, later]

/-- What separates nothing is read into the piece. -/
theorem splitRuns_outside {p : Char → Bool} {run : List Char} (outside : ∀ c ∈ run, p c = false)
    (inRun : Bool) (piece rest : List Char) :
    splitRuns p inRun piece (run ++ rest) =
      splitRuns p (inRun && run.isEmpty) (run.reverse ++ piece) rest := by
  induction run generalizing inRun piece with
  | nil => simp
  | cons c more ih =>
    rw [List.cons_append, splitRuns, outside c List.mem_cons_self, if_neg Bool.false_ne_true,
      ih fun d member => outside d (List.mem_cons_of_mem c member)]
    simp

/-- Whatever is read after them, two pieces have the same words. -/
def SameWords (first second : List Char) : Prop :=
  ∀ more, fields isSpace [] (first.reverse ++ more) = fields isSpace [] (second.reverse ++ more)

theorem SameWords.push {first second : List Char} (same : SameWords first second) (c : Char) :
    SameWords (c :: first) (c :: second) := by
  intro more
  simpa using same (c :: more)

theorem SameWords.gap {first second run : List Char} (same : SameWords first second)
    (nonempty : run ≠ []) (blanks : ∀ c ∈ run, isSpace c = true) :
    SameWords (run.reverse ++ first) (' ' :: second) := by
  intro more
  obtain ⟨c, others, shape⟩ := List.exists_cons_of_ne_nil nonempty
  subst shape
  have read := same ((c :: others) ++ more)
  rw [List.reverse_append, List.reverse_reverse, List.append_assoc, read, List.reverse_cons,
    List.append_assoc, List.cons_append, fields_append (blanks c List.mem_cons_self),
    List.singleton_append, fields_append (by decide),
    fields_leading fun d member => blanks d (List.mem_cons_of_mem c member)]

theorem SameWords.collapse_eq {first second : List Char} (same : SameWords first second) :
    collapse first.reverse = collapse second.reverse := by
  have whole := same []
  rw [List.append_nil, List.append_nil] at whole
  rw [collapse, collapse, splitChars_eq, splitChars_eq, whole]

/-- The pieces of a text whose gaps are written as blanks are those of the text. -/
theorem splitRuns_spaced {original text closing : List Char}
    (spaced : Spaced isSpace ' ' original text) (closes : ∀ c ∈ closing, isSpace c = true)
    (inRun : Bool) {first second : List Char} (same : SameWords first second) :
    (splitRuns isStop inRun first (original ++ closing)).map collapse =
      (splitRuns isStop inRun second text).map collapse := by
  induction spaced generalizing inRun first second with
  | nil =>
    have ending := splitRuns_outside (fun c member => not_isStop_of_space (closes c member))
      inRun first []
    rw [List.append_nil] at ending
    rw [List.nil_append, ending, splitRuns, splitRuns, List.map_singleton, List.map_singleton,
      ← same.collapse_eq, List.reverse_append, List.reverse_reverse, collapse, splitChars_eq,
      fields_trailing closes, ← splitChars_eq, ← collapse]
  | @element c original text _ _ ih =>
    rw [List.cons_append, splitRuns, splitRuns]
    split
    · have next : SameWords [] [] := fun _ => rfl
      split
      · exact ih true next
      · rw [List.map_cons, List.map_cons, ih true next, same.collapse_eq]
    · exact ih false (same.push c)
  | @gap run original text nonempty blanks _ ih =>
    have blank : isStop ' ' = false := by decide
    rw [List.append_assoc,
      splitRuns_outside (fun c member => not_isStop_of_space (blanks c member)),
      List.isEmpty_eq_false_iff.mpr nonempty, Bool.and_false, ih false (same.gap nonempty blanks),
      splitRuns, if_neg (by simp [blank])]

theorem endsSentence_collapse {text : List Char} {c : Char} (member : c ∈ collapse text) :
    endsSentence c = isStop c := by
  have line := collapse_plain member
  rw [notNewline, bne_iff_ne] at line
  simp [endsSentence, isStop, line]

/-- The pieces of a text have the words of the pieces of its collapsed form. -/
theorem collapse_pieces (text : List Char) :
    (splitRuns endsSentence false [] (collapse text)).map collapse =
      (splitRuns isStop false [] text).map collapse := by
  obtain ⟨opening, core, closing, split, opens, closes, -, spaced⟩ := collapse_spaced text
  have start : SameWords (opening.reverse ++ []) [] := by
    intro more
    rw [List.append_nil, List.reverse_reverse, fields_leading opens]
    rfl
  rw [splitRuns_congr fun c member => endsSentence_collapse member]
  conv_rhs => rw [split, List.append_assoc,
    splitRuns_outside fun c member => not_isStop_of_space (opens c member), Bool.false_and]
  exact (splitRuns_spaced spaced closes false start).symm

theorem collapse_trim (text : List Char) : collapse (trimChars isSpace text) = collapse text := by
  obtain ⟨before, after, split, opens, closes⟩ := trimChars_split isSpace text
  conv_rhs => rw [split]
  rw [collapse, collapse, splitChars_eq, splitChars_eq, List.append_assoc, fields_leading opens,
    fields_trailing closes]

theorem collapse_eq_nil_iff (text : List Char) :
    collapse text = [] ↔ trimChars isSpace text = [] := by
  constructor
  · intro empty
    obtain ⟨opening, core, closing, split, opens, closes, -, spaced⟩ := collapse_spaced text
    rw [empty] at spaced
    rw [trimChars_eq_nil, split, spaced.eq_nil_iff.mpr rfl, List.append_nil]
    exact fun c member => (List.mem_append.mp member).elim (opens c) (closes c)
  · intro empty
    rw [← collapse_trim, empty]
    rfl

/-- The first pieces between full stops, without the white space around them. -/
def pieces (text : List Char) : List (List Char) :=
  (((splitRuns isStop false [] text).map (trimChars isSpace)).filter (· ≠ [])).take 5

/-- The steps of a collapsed text are the collapsed pieces of the text. -/
theorem extractSteps_collapse (text : List Char) :
    extractSteps (collapse text) = (pieces text).map collapse := by
  have visible : (fun piece => decide (piece ≠ [])) ∘ collapse =
      (fun piece : List Char => decide (piece ≠ [])) ∘ trimChars isSpace :=
    funext fun piece => decide_eq_decide.mpr (not_congr (collapse_eq_nil_iff piece))
  have trimmed : collapse ∘ trimChars isSpace = collapse := funext collapse_trim
  rw [extractSteps, collapse_pieces, pieces, List.filter_map, List.filter_map, visible,
    List.map_take, List.map_map, trimmed]

theorem endsSentence_word {words : WordClass} {c : Char} (ends : endsSentence c = true) :
    words.word c = false := by
  simp only [endsSentence, Bool.or_eq_true, beq_iff_eq] at ends
  rcases ends with same | same
  · rw [same, words.ascii '.' (by decide)]
    decide
  · rw [same, words.ascii '\n' (by decide)]
    decide

theorem blanks_headWord {words : WordClass} {run after : List Char}
    (blanks : ∀ c ∈ run, isSpace c = true) (separate : headWord words.word after = false) :
    headWord words.word (run ++ after) = false := by
  cases run with
  | nil => exact separate
  | cons c rest => exact words.space c (blanks c List.mem_cons_self)

theorem blanks_lastWord {words : WordClass} {before run : List Char}
    (blanks : ∀ c ∈ run, isSpace c = true) (separate : lastWord words.word before = false) :
    lastWord words.word (before ++ run) = false := by
  rw [lastWord_append]
  split
  · exact separate
  · exact lastWord_blanks words.space blanks

/-- A piece stands between two places at which no word goes on. -/
theorem mem_pieces (words : WordClass) {text piece : List Char} (member : piece ∈ pieces text) :
    VisibleEnds piece ∧ ∃ before after, text = before ++ piece ++ after ∧
      lastWord words.word before = false ∧ headWord words.word after = false := by
  have stops {c : Char} (stop : isStop c = true) : words.word c = false := by
    apply endsSentence_word
    rw [endsSentence, ← isStop, stop, Bool.true_or]
  obtain ⟨chunk, found, same⟩ :=
    List.mem_map.mp (List.mem_of_mem_filter (List.mem_of_mem_take member))
  obtain ⟨before, after, split, closes, opens, -⟩ := splitRuns_piece (by simp) (by simp) found
  obtain ⟨leading, trailing, inside, leads, trails⟩ := trimChars_split isSpace chunk
  rw [same] at inside
  refine ⟨same ▸ trimChars_ends isSpace chunk, before ++ leading, trailing ++ after, ?_,
    blanks_lastWord leads ?_, blanks_headWord trails ?_⟩
  · rw [List.reverse_nil, List.nil_append] at split
    rw [split, inside]
    simp
  · cases last : before.getLast? with
    | none => simp [lastWord, last]
    | some c => simp [lastWord, last, stops (closes c last)]
  · cases first : after.head? with
    | none => simp [headWord, first]
    | some c => simp [headWord, first, stops (opens c first)]

/-! ## What is presented of an answer -/

/-- The sentences of an answer that are presented; for little energy only the first, bounded
once more. -/
def sentences (raw : List Char) (low : Bool) : List (List Char) :=
  if low then ((extractSteps (boundText maxReasoningLength raw)).take 1).map (boundText 140)
  else extractSteps (boundText maxReasoningLength raw)

/-- The passages of the answer, as the client wrote them, that the presented sentences come
from: the first pieces between full stops in front of the cut; for little energy the first of
them in front of another cut. -/
def passages (raw : List Char) (low : Bool) : List (List Char) :=
  if low then ((pieces (kept maxReasoningLength raw)).take 1).map (kept 140)
  else pieces (kept maxReasoningLength raw)

/-- One of the cuts lies inside a word. -/
def cutShort (words : WordClass) (raw : List Char) (low : Bool) : Bool :=
  cutInWord words maxReasoningLength raw ||
    (low && (pieces (kept maxReasoningLength raw)).head?.any (cutInWord words 140))

theorem boundText_collapse (limit : Nat) (text : List Char) :
    boundText limit (collapse text) = collapse (kept limit text) := by
  rw [collapse_kept, boundText, boundText, collapse_collapse]

/-- What is presented is the collapsed form of the passages. -/
theorem sentences_eq (raw : List Char) (low : Bool) :
    sentences raw low = (passages raw low).map collapse := by
  have steps : extractSteps (boundText maxReasoningLength raw) =
      (pieces (kept maxReasoningLength raw)).map collapse := by
    rw [← collapse_kept, extractSteps_collapse]
  rw [sentences, passages, steps]
  cases low with
  | false => rfl
  | true =>
    simp only [if_true, List.map_take, List.map_map]
    congr 2
    exact funext (boundText_collapse 140)

example : passages "Plan it. Archive\nall".toList false = ["Plan it".toList, "Archive\nall".toList] := by
  decide +kernel

/-- A passage stands in the answer where no word goes on, but for a cut inside a word. -/
theorem mem_passages (words : WordClass) {raw passage : List Char} {low : Bool}
    (member : passage ∈ passages raw low) :
    VisibleEnds passage ∧ ∃ before after, raw = before ++ passage ++ after ∧
      lastWord words.word before = false ∧
      (headWord words.word after = true → cutShort words raw low = true) := by
  have fromPiece {piece : List Char} (found : piece ∈ pieces (kept maxReasoningLength raw)) :
      VisibleEnds piece ∧ ∃ before after, raw = before ++ piece ++ after ∧
        lastWord words.word before = false ∧
        (headWord words.word after = true → cutInWord words maxReasoningLength raw = true) := by
    obtain ⟨ends, before, after, split, opens, closes⟩ := mem_pieces words found
    refine ⟨ends, before, after ++ raw.drop (keptLength maxReasoningLength raw), ?_, opens, ?_⟩
    · rw [← List.append_assoc, ← split]
      exact kept_append maxReasoningLength raw
    · intro goesOn
      rw [headWord_append] at goesOn
      split at goesOn
      · exact goesOn
      · rw [closes] at goesOn
        cases goesOn
  cases low with
  | false =>
    obtain ⟨ends, before, after, split, opens, closes⟩ := fromPiece member
    exact ⟨ends, before, after, split, opens, fun goesOn => by simp [cutShort, closes goesOn]⟩
  | true =>
    simp only [passages, if_true] at member
    obtain ⟨piece, first, rfl⟩ := List.mem_map.mp member
    have head : (pieces (kept maxReasoningLength raw)).head? = some piece := by
      cases found : pieces (kept maxReasoningLength raw) with
      | nil => simp [found] at first
      | cons other rest =>
        rw [found] at first
        simp only [List.take_succ_cons, List.take_zero, List.mem_singleton] at first
        rw [first]
        rfl
    obtain ⟨ends, before, after, split, opens, closes⟩ := fromPiece (List.mem_of_mem_take first)
    refine ⟨kept_ends ends, before, piece.drop (keptLength 140 piece) ++ after, ?_, opens, ?_⟩
    · rw [split]
      conv_lhs => rw [kept_append 140 piece]
      simp
    · intro goesOn
      rw [headWord_append] at goesOn
      simp only [cutShort, head, Option.any_some, Bool.true_and, Bool.or_eq_true]
      split at goesOn
      · exact Or.inl (closes goesOn)
      · exact Or.inr goesOn

theorem cutShort_of_short {words : WordClass} {raw : List Char} {low : Bool}
    (short : raw.length ≤ 140) : cutShort words raw low = false := by
  have limit : maxReasoningLength = 420 := rfl
  rw [cutShort, cutInWord_of_short (by omega), Bool.false_or, Bool.and_eq_false_iff]
  right
  cases first : (pieces (kept maxReasoningLength raw)).head? with
  | none => rfl
  | some piece =>
    obtain ⟨-, before, after, split, -⟩ := mem_pieces words (List.mem_of_mem_head? first)
    apply cutInWord_of_short
    have size := congrArg List.length split
    simp only [kept, List.length_take, List.length_append] at size
    omega

end Apcos.Guarantees.AnswerPassages
