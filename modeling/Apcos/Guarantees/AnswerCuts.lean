import Apcos.Lib.Last
import Apcos.Source.Cognition.ReasoningEngine

/-!
# Where an answer is cut

core/cognition/reasoning_engine.py:193-213. `_bound_text` cuts the text after its white
space has been collapsed. The place of the cut is stated here for the text as the client
wrote it, and what is presented is shown to be the collapsed form of what stands in front
of this place.
-/
namespace Apcos.Guarantees.AnswerCuts

open Apcos.Lib.Last
open Apcos.Lib.Search
open Apcos.Lib.Words
open Apcos.Source.Python
open Apcos.Source.Cognition

/-! ## Collapsed texts -/

theorem collapse_singleGaps (text : List Char) : SingleGaps isSpace ' ' (collapse text) := by
  rw [collapse, splitChars_eq]
  exact join_singleGaps (fields_isWord [] text (by simp))

/-- Gaps that are single are kept as they are. -/
theorem spaced_eq {core text : List Char} (spaced : Spaced isSpace ' ' core text)
    (single : SingleGaps isSpace ' ' core) : core = text := by
  induction spaced with
  | nil => rfl
  | @element c original text visible spaced ih =>
    rw [ih (single.part (List.suffix_cons c original).isInfix)]
  | @gap run original text nonempty blanks spaced ih =>
    obtain ⟨c, more, shape⟩ := List.exists_cons_of_ne_nil nonempty
    subst shape
    obtain ⟨same, next⟩ := single [] c (more ++ original) rfl (blanks c List.mem_cons_self)
    have alone : more = [] := by
      cases more with
      | nil => rfl
      | cons d others =>
        have visible := next d rfl
        rw [blanks d (by simp)] at visible
        cases visible
    subst alone
    rw [same, ih (single.part (List.suffix_append _ _).isInfix)]
    rfl

/-- Collapsing a text whose gaps are single only takes off its ends. -/
theorem collapse_of_singleGaps {text : List Char} (single : SingleGaps isSpace ' ' text) :
    ∃ opening closing, text = opening ++ collapse text ++ closing ∧
      (∀ c ∈ opening, isSpace c = true) ∧ ∀ c ∈ closing, isSpace c = true := by
  obtain ⟨opening, core, closing, split, opens, closes, -, spaced⟩ := collapse_spaced text
  have within : core <:+: text := ⟨opening, closing, split.symm⟩
  rw [spaced_eq spaced (single.part within)] at split
  exact ⟨opening, closing, split, opens, closes⟩

theorem collapse_within {text : List Char} (single : SingleGaps isSpace ' ' text) :
    collapse text <:+: text := by
  obtain ⟨opening, closing, split, -, -⟩ := collapse_of_singleGaps single
  exact ⟨opening, closing, split.symm⟩

/-- Neither end of the text is a blank. -/
def VisibleEnds (text : List Char) : Prop :=
  ∀ c, text.head? = some c ∨ text.getLast? = some c → isSpace c = false

theorem VisibleEnds.nil_of_split {text opening core closing : List Char} (ends : VisibleEnds text)
    (split : text = opening ++ core ++ closing) (opens : ∀ c ∈ opening, isSpace c = true)
    (closes : ∀ c ∈ closing, isSpace c = true) : opening = [] ∧ closing = [] := by
  constructor
  · cases opening with
    | nil => rfl
    | cons c rest =>
      have visible := ends c (Or.inl (by rw [split]; rfl))
      rw [opens c List.mem_cons_self] at visible
      cases visible
  · cases shape : closing.getLast? with
    | none => exact List.getLast?_eq_none_iff.mp shape
    | some c =>
      have visible := ends c (Or.inr (by rw [split, List.getLast?_append, shape]; rfl))
      rw [closes c (List.mem_of_getLast? shape)] at visible
      cases visible

/-- A text with single gaps and no blank at its ends is collapsed. -/
theorem collapse_eq_self {text : List Char} (single : SingleGaps isSpace ' ' text)
    (ends : VisibleEnds text) : collapse text = text := by
  obtain ⟨opening, closing, split, opens, closes⟩ := collapse_of_singleGaps single
  obtain ⟨rfl, rfl⟩ := ends.nil_of_split split opens closes
  rw [List.append_nil, List.nil_append] at split
  exact split.symm

theorem VisibleEnds.spaced {text : List Char} (ends : VisibleEnds text) :
    Spaced isSpace ' ' text (collapse text) := by
  obtain ⟨opening, core, closing, split, opens, closes, -, spaced⟩ := collapse_spaced text
  obtain ⟨rfl, rfl⟩ := ends.nil_of_split split opens closes
  rw [List.append_nil, List.nil_append] at split
  rwa [← split] at spaced

theorem collapse_ends (text : List Char) : VisibleEnds (collapse text) := by
  rintro c (first | last)
  · exact collapse_head first
  · cases visible : isSpace c with
    | false => rfl
    | true =>
      obtain ⟨rest, shape⟩ := List.getLast?_eq_some_iff.mp last
      rw [collapse, splitChars_eq] at shape
      have none_left := no_trailing_blanks (fields_isWord [] text (by simp)) shape
        (fun d member => by rw [List.mem_singleton.mp member]; exact visible)
      cases none_left

theorem boundText_ends (limit : Nat) (text : List Char) : VisibleEnds (boundText limit text) := by
  unfold boundText
  dsimp only
  split
  · exact collapse_ends text
  · exact trimChars_ends isSpace _

/-! ## Places -/

/-- The place lies just behind a visible character. -/
def isPlace (text : List Char) (n : Nat) : Bool := lastWord (fun c => !isSpace c) (text.take n)

/-- The number of characters in front of a place, with each gap counted as one. -/
def written (text : List Char) (n : Nat) : Nat := (collapse (text.take n)).length

def lastPlace (text : List Char) (p : Nat → Bool) : Option Nat :=
  lastBelow (text.length + 1) fun n => isPlace text n && p n

/-- The last place in front of the limit with a marked character before it and a gap behind it. -/
def gapPlace (limit : Nat) (text : List Char) (mark : Char → Bool) : Option Nat :=
  lastPlace text fun n => lastWord mark (text.take n) && headWord isSpace (text.drop n) &&
    decide (written text n < limit)

/-- That place, if it lies behind a bound. -/
def latePlace (bound limit : Nat) (text : List Char) (mark : Char → Bool) : Option Nat :=
  (gapPlace limit text mark).filter fun n => bound < written text n

/-- Where the text is cut: a longer one behind a sentence or else a word that ends in the second
half of the limit, or else as late as the limit allows. -/
def cutPlace (limit : Nat) (text : List Char) : Option Nat :=
  if written text text.length ≤ limit then lastPlace text fun _ => true
  else
    match ['.', '!', '?'].findSome? fun mark =>
        latePlace (limit / 2 + 1) limit text (· == mark) with
    | some n => some n
    | none =>
      match latePlace (limit / 2) limit text fun _ => true with
      | some n => some n
      | none => lastPlace text fun n => decide (written text n ≤ limit)

/-! ## Places of the collapsed text -/

theorem isPlace_iff {text : List Char} {n : Nat} :
    isPlace text n = true ↔ ∃ c, (text.take n).getLast? = some c ∧ isSpace c = false := by
  rw [isPlace, lastWord]
  cases (text.take n).getLast? with
  | none => simp
  | some c => simp

/-- A visible character is the last one of both texts or of none. -/
theorem getLast?_spaced {original text : List Char} {c : Char}
    (spaced : Spaced isSpace ' ' original text) (visible : isSpace c = false) :
    original.getLast? = some c ↔ text.getLast? = some c := by
  have separates : Separates (· == c) isSpace := by
    intro d blank
    rw [beq_eq_false_iff_ne]
    intro same
    rw [same, visible] at blank
    cases blank
  have last (run : List Char) : run.getLast? = some c ↔ lastWord (· == c) run = true := by
    rw [lastWord]
    cases run.getLast? with
    | none => simp
    | some d => simp
  rw [last, last, spaced.lastWord_eq separates (by decide)]

/-- A beginning of the collapsed text that ends visibly is collapsed. -/
theorem collapse_part {text part rest : List Char} {c : Char} (whole : collapse text = part ++ rest)
    (last : part.getLast? = some c) (visible : isSpace c = false) : collapse part = part := by
  have single := (collapse_singleGaps text).part ⟨[], rest, by rw [whole]; rfl⟩
  apply collapse_eq_self single
  rintro d (head | tail)
  · apply collapse_ends text
    left
    rw [whole, List.head?_append, head]
    rfl
  · rw [last] at tail
    cases tail
    exact visible

/-- A place lies between the blank ends of the text. -/
theorem split_at_place {text : List Char} {n : Nat} {c : Char}
    (last : (text.take n).getLast? = some c) (visible : isSpace c = false) :
    ∃ opening first second closing, text.take n = opening ++ first ∧
      text.drop n = second ++ closing ∧ (∀ d ∈ opening, isSpace d = true) ∧
      (∀ d ∈ closing, isSpace d = true) ∧ first.getLast? = some c ∧
      Spaced isSpace ' ' (first ++ second) (collapse text) := by
  obtain ⟨opening, core, closing, split, opens, closes, -, spaced⟩ := collapse_spaced text
  have shown {run : List Char} (blanks : ∀ d ∈ run, isSpace d = true) : c ∉ run := by
    intro member
    rw [blanks c member] at visible
    cases visible
  have inside {run : List Char} (ends : (opening ++ run).getLast? = some c) :
      run.getLast? = some c := by
    rw [List.getLast?_append] at ends
    cases later : run.getLast? with
    | none =>
      rw [later, Option.none_or] at ends
      exact absurd (List.mem_of_getLast? ends) (shown opens)
    | some d => rwa [later] at ends
  rw [← List.take_append_drop n text, List.append_assoc] at split
  rcases List.append_eq_append_iff.mp split with ⟨more, covers, -⟩ | ⟨first, before, behind⟩
  · have member : c ∈ opening := by
      rw [covers]
      exact List.mem_append_left more (List.mem_of_getLast? last)
    exact absurd member (shown opens)
  · rw [before] at last
    have ends := inside last
    rcases List.append_eq_append_iff.mp behind with
      ⟨more, covers, after⟩ | ⟨second, covers, after⟩
    · -- The place lies behind the whole text.
      have nothing : more = [] := by
        by_contra nonempty
        rw [covers, List.getLast?_append_of_ne_nil _ nonempty] at ends
        apply shown closes
        rw [after]
        exact List.mem_append_left _ (List.mem_of_getLast? ends)
      rw [nothing, List.append_nil] at covers
      rw [nothing, List.nil_append] at after
      refine ⟨opening, first, [], closing, before, after.symm, opens, closes, ends, ?_⟩
      rwa [List.append_nil, covers]
    · exact ⟨opening, first, second, closing, before, after, opens, closes, ends, covers ▸ spaced⟩

/-- What of the text lies in front of a place is collapsed on its own, and a gap behind the
place stays a gap. -/
theorem collapse_place {text : List Char} {n : Nat} (place : isPlace text n = true) :
    ∃ rest after closing, collapse text = collapse (text.take n) ++ rest ∧
      (collapse (text.take n)).getLast? = (text.take n).getLast? ∧
      text.drop n = after ++ closing ∧ Spaced isSpace ' ' after rest ∧
      ∀ c ∈ closing, isSpace c = true := by
  obtain ⟨c, last, visible⟩ := isPlace_iff.mp place
  obtain ⟨opening, first, second, closing, before, behind, opens, closes, ends, spaced⟩ :=
    split_at_place last visible
  have apart : Apart isSpace first second := by
    left
    intro d also
    rw [ends] at also
    cases also
    exact visible
  obtain ⟨part, rest, whole, spacedPart, spacedRest⟩ := spaced.split_original apart
  have ending : part.getLast? = some c := (getLast?_spaced spacedPart visible).mp ends
  have same : collapse (text.take n) = part := by
    rw [before, collapse, splitChars_eq, fields_leading opens, spacedPart.fields_eq (by decide),
      ← splitChars_eq, ← collapse, collapse_part whole ending visible]
  rw [same]
  exact ⟨rest, second, closing, whole, by rw [ending, last], behind, spacedRest, closes⟩

/-- Every beginning of the collapsed text that ends visibly comes from a place. -/
theorem exists_place {text part rest : List Char} {c : Char} (whole : collapse text = part ++ rest)
    (last : part.getLast? = some c) (visible : isSpace c = false) :
    ∃ n ≤ text.length, isPlace text n = true ∧ collapse (text.take n) = part := by
  obtain ⟨opening, core, closing, split, opens, -, -, spaced⟩ := collapse_spaced text
  rw [whole] at spaced
  obtain ⟨before, after, splitCore, spacedBefore, -⟩ := spaced.split _ _
  have shape : text = (opening ++ before) ++ (after ++ closing) := by
    rw [split, splitCore]
    simp
  have start : text.take (opening ++ before).length = opening ++ before := by
    conv_lhs => rw [shape]
    exact List.take_left
  refine ⟨(opening ++ before).length, ?_, ?_, ?_⟩
  · have size := congrArg List.length shape
    rw [List.length_append] at size
    omega
  · refine isPlace_iff.mpr ⟨c, ?_, visible⟩
    rw [start, List.getLast?_append, (getLast?_spaced spacedBefore visible).mpr last]
    rfl
  · rw [start, collapse, splitChars_eq, fields_leading opens, spacedBefore.fields_eq (by decide),
      ← splitChars_eq, ← collapse, collapse_part whole last visible]

/-- A later place has more in front of it. -/
theorem written_increasing {text : List Char} {m n : Nat} (earlier : m < n)
    (inside : n ≤ text.length) (first : isPlace text m = true) (second : isPlace text n = true) :
    written text m < written text n := by
  obtain ⟨c, last, visible⟩ := isPlace_iff.mp second
  have start : (text.take n).take m = text.take m := by
    rw [List.take_take, Nat.min_eq_left (by omega)]
  have place : isPlace (text.take n) m = true := by
    rw [isPlace, start]
    exact first
  obtain ⟨rest, after, closing, whole, -, behind, spaced, closes⟩ := collapse_place place
  rw [start] at whole
  have some : after ++ closing ≠ [] := by
    rw [← behind, ← List.length_pos_iff, List.length_drop, List.length_take]
    omega
  have nonempty : after ≠ [] := by
    rintro rfl
    rw [List.nil_append] at behind some
    rw [← List.take_append_drop m (text.take n), behind, List.getLast?_append_of_ne_nil _ some]
      at last
    rw [closes c (List.mem_of_getLast? last)] at visible
    cases visible
  have more : rest ≠ [] := fun empty => nonempty (spaced.eq_nil_iff.mpr empty)
  have size := congrArg List.length whole
  have grows := List.length_pos_iff.mpr more
  rw [List.length_append] at size
  rw [written, written, size]
  omega

/-- A place of the text is one of the collapsed text. -/
theorem collapse_take {text : List Char} {n : Nat} (place : isPlace text n = true) :
    (collapse text).take (written text n) = collapse (text.take n) := by
  obtain ⟨rest, -, -, whole, -⟩ := collapse_place place
  rw [whole, written]
  exact List.take_left

theorem collapse_collapse (text : List Char) : collapse (collapse text) = collapse text :=
  collapse_eq_self (collapse_singleGaps text) (collapse_ends text)

theorem lastWord_take {text : List Char} {n : Nat} (place : isPlace text n = true)
    (mark : Char → Bool) :
    lastWord mark ((collapse text).take (written text n)) = lastWord mark (text.take n) := by
  obtain ⟨-, -, -, -, last, -⟩ := collapse_place place
  rw [collapse_take place, lastWord, last, lastWord]

theorem isPlace_collapse {text : List Char} {n : Nat} (place : isPlace text n = true) :
    isPlace (collapse text) (written text n) = true := by
  rw [isPlace, lastWord_take place]
  exact place

/-- Collapsed text has no gaps to shorten. -/
theorem written_collapse {text : List Char} {i : Nat} (inside : i ≤ (collapse text).length)
    (place : isPlace (collapse text) i = true) : written (collapse text) i = i := by
  obtain ⟨c, last, visible⟩ := isPlace_iff.mp place
  rw [written, collapse_part (List.take_append_drop i (collapse text)).symm last visible,
    List.length_take, Nat.min_eq_left inside]

theorem written_le {text : List Char} {n : Nat} (place : isPlace text n = true) :
    written text n ≤ (collapse text).length := by
  obtain ⟨rest, -, -, whole, -⟩ := collapse_place place
  rw [whole, written, List.length_append]
  omega

/-- A gap follows on a place in both texts or in none. -/
theorem headWord_drop {text : List Char} {n : Nat} (place : isPlace text n = true)
    (before : written text n < (collapse text).length) :
    headWord isSpace ((collapse text).drop (written text n)) = headWord isSpace (text.drop n) := by
  obtain ⟨rest, after, closing, whole, -, behind, spaced, -⟩ := collapse_place place
  have size := congrArg List.length whole
  rw [List.length_append, ← written] at size
  have later : (collapse text).drop (written text n) = rest := by
    rw [whole, written]
    exact List.drop_left
  rw [later, behind]
  cases spaced with
  | nil =>
    rw [List.length_nil] at size
    omega
  | element visible spaced => rfl
  | @gap run original text nonempty blanks spaced =>
    obtain ⟨c, others, shape⟩ := List.exists_cons_of_ne_nil nonempty
    subst shape
    have blank : isSpace ' ' = true := by decide
    simp [headWord, blank, blanks c List.mem_cons_self]

/-- Places with a property are found in the collapsed text. -/
theorem lastPlace_collapse {text : List Char} {p q : Nat → Bool}
    (same : ∀ n ≤ text.length, isPlace text n = true → p n = q (written text n)) :
    (lastPlace text p).map (written text) = lastPlace (collapse text) q := by
  refine map_lastBelow ?_ ?_ ?_
  · intro n inside found
    simp only [Bool.and_eq_true] at found ⊢
    rw [← same n (by omega) found.1]
    exact ⟨Nat.lt_succ_of_le (written_le found.1), isPlace_collapse found.1, found.2⟩
  · intro i inside found
    simp only [Bool.and_eq_true] at found ⊢
    obtain ⟨c, last, visible⟩ := isPlace_iff.mp found.1
    obtain ⟨n, within, place, part⟩ :=
      exists_place (List.take_append_drop i (collapse text)).symm last visible
    have reached : written text n = i := by
      rw [written, part, List.length_take, Nat.min_eq_left (by omega)]
    refine ⟨n, Nat.lt_succ_of_le within, ⟨place, ?_⟩, reached⟩
    rw [same n within place, reached]
    exact found.2
  · intro m n earlier inside first second
    simp only [Bool.and_eq_true] at first second
    exact written_increasing earlier (by omega) first.1 second.1

theorem lastPlace_some {text : List Char} {p : Nat → Bool} {n : Nat}
    (found : lastPlace text p = some n) :
    n ≤ text.length ∧ isPlace text n = true ∧ p n = true := by
  obtain ⟨below, shown, -⟩ := lastBelow_eq_some.mp found
  rw [Bool.and_eq_true] at shown
  exact ⟨by omega, shown⟩

theorem latePlace_collapse {bound limit : Nat} {text : List Char}
    (long : limit < (collapse text).length) (mark : Char → Bool) :
    (latePlace bound limit text mark).map (written text) =
      latePlace bound limit (collapse text) mark := by
  have same : (gapPlace limit text mark).map (written text) =
      gapPlace limit (collapse text) mark := by
    refine lastPlace_collapse fun n inside place => ?_
    rw [lastWord_take place, written_collapse (written_le place) (isPlace_collapse place)]
    by_cases before : written text n < limit
    · rw [headWord_drop place (by omega)]
    · simp [before]
  rw [latePlace, latePlace, ← same]
  cases found : gapPlace limit text mark with
  | none => rfl
  | some n =>
    obtain ⟨-, place, -⟩ := lastPlace_some found
    rw [Option.map_some, Option.filter_some, Option.filter_some,
      written_collapse (written_le place) (isPlace_collapse place)]
    split
    · rfl
    · rfl

/-- The text is cut where its collapsed form is. -/
theorem cutPlace_collapse (limit : Nat) (text : List Char) :
    (cutPlace limit text).map (written text) = cutPlace limit (collapse text) := by
  have whole : written text text.length = (collapse text).length := by
    rw [written, List.take_length]
  have again : written (collapse text) (collapse text).length = (collapse text).length := by
    rw [written, List.take_length, collapse_collapse]
  rw [cutPlace, cutPlace, whole, again]
  split
  · exact lastPlace_collapse fun _ _ _ => rfl
  next longer =>
    have late (bound : Nat) (mark : Char → Bool) :
        (latePlace bound limit text mark).map (written text) =
          latePlace bound limit (collapse text) mark :=
      latePlace_collapse (Nat.lt_of_not_le longer) mark
    have latest : (lastPlace text fun n => decide (written text n ≤ limit)).map (written text) =
        lastPlace (collapse text) fun n => decide (written (collapse text) n ≤ limit) :=
      lastPlace_collapse fun n _ place => by
        rw [written_collapse (written_le place) (isPlace_collapse place)]
    have marks : (['.', '!', '?'].findSome? fun mark =>
          latePlace (limit / 2 + 1) limit text (· == mark)).map (written text) =
        ['.', '!', '?'].findSome? fun mark =>
          latePlace (limit / 2 + 1) limit (collapse text) (· == mark) := by
      rw [List.map_findSome?]
      congr 1
      exact funext fun mark => late _ _
    rw [← marks, ← late]
    cases ['.', '!', '?'].findSome? fun mark =>
        latePlace (limit / 2 + 1) limit text (· == mark) with
    | some n => rfl
    | none =>
      cases latePlace (limit / 2) limit text fun _ => true with
      | some n => rfl
      | none => exact latest

/-! ## The cut of a collapsed text -/

/-- No blank of a collapsed text follows on another. -/
theorem collapse_gap {text : List Char} {i : Nat} {c : Char} (at_i : (collapse text)[i]? = some c)
    (blank : isSpace c = true) :
    c = ' ' ∧ ∀ d, (collapse text)[i + 1]? = some d → isSpace d = false := by
  obtain ⟨inside, same⟩ := List.getElem?_eq_some_iff.mp at_i
  have split : collapse text =
      (collapse text).take i ++ c :: (collapse text).drop (i + 1) := by
    rw [← same, List.getElem_cons_drop, List.take_append_drop]
  obtain ⟨gap, next⟩ := collapse_singleGaps text _ _ _ split blank
  refine ⟨gap, fun d later => next d ?_⟩
  rw [List.head?_drop, later]
  rfl

/-- The property of the places that `gapPlace` looks for. -/
theorem gap_iff {limit n : Nat} {text : List Char} {mark : Char → Bool}
    (inside : n ≤ (collapse text).length) :
    (isPlace (collapse text) n && (lastWord mark ((collapse text).take n) &&
        headWord isSpace ((collapse text).drop n) &&
        decide (written (collapse text) n < limit))) = true ↔
      ∃ i c, n = i + 1 ∧ (collapse text)[i]? = some c ∧ isSpace c = false ∧ mark c = true ∧
        (collapse text)[n]? = some ' ' ∧ n < limit := by
  have last {i : Nat} {c : Char} (at_i : (collapse text)[i]? = some c) :
      ((collapse text).take (i + 1)).getLast? = some c := by
    rw [List.take_add_one, at_i, Option.toList_some, List.getLast?_concat]
  simp only [Bool.and_eq_true, decide_eq_true_eq]
  constructor
  · rintro ⟨place, ⟨marked, gap⟩, before⟩
    rw [written_collapse inside place] at before
    obtain ⟨c, ends, visible⟩ := isPlace_iff.mp place
    obtain ⟨i, rfl⟩ : ∃ i, n = i + 1 := by
      cases n with
      | zero => simp at ends
      | succ i => exact ⟨i, rfl⟩
    have at_i : (collapse text)[i]? = some c := by
      obtain ⟨d, found⟩ : ∃ d, (collapse text)[i]? = some d :=
        ⟨_, List.getElem?_eq_getElem (by omega)⟩
      rw [last found] at ends
      rw [found, ends]
    rw [lastWord, ends, Option.any_some] at marked
    rw [headWord, List.head?_drop, Option.any_eq_true] at gap
    obtain ⟨d, follows, blank⟩ := gap
    rw [(collapse_gap follows blank).1] at follows
    exact ⟨i, c, rfl, at_i, visible, marked, follows, before⟩
  · rintro ⟨i, c, rfl, at_i, visible, marked, gap, before⟩
    have place : isPlace (collapse text) (i + 1) = true := isPlace_iff.mpr ⟨c, last at_i, visible⟩
    refine ⟨place, ⟨?_, ?_⟩, ?_⟩
    · rw [lastWord, last at_i, Option.any_some, marked]
    · rw [headWord, List.head?_drop, gap]
      decide
    · rwa [written_collapse inside place]

theorem getElem?_cut {limit i : Nat} {text : List Char} {c : Char} :
    (text.take limit)[i]? = some c ↔ i < limit ∧ text[i]? = some c := by
  rw [List.getElem?_take]
  split
  next below => simp [below]
  next beyond => simp [beyond]

theorem starts_iff {text : List Char} {i : Nat} {c : Char} :
    [c].isPrefixOf (text.drop i) = true ↔ text[i]? = some c := by
  rw [← List.head?_drop]
  cases text.drop i with
  | nil => simp
  | cons d rest =>
    simp only [List.isPrefixOf, Bool.and_true, beq_iff_eq, List.head?_cons, Option.some_inj]
    exact eq_comm

theorem starts_two_iff {text : List Char} {i : Nat} {c d : Char} :
    [c, d].isPrefixOf (text.drop i) = true ↔ text[i]? = some c ∧ text[i + 1]? = some d := by
  rw [← starts_iff (i := i), ← starts_iff (i := i + 1), ← List.drop_drop]
  cases text.drop i with
  | nil => simp
  | cons e rest => simp [List.isPrefixOf]

/-- The last mark with a blank behind it. -/
theorem rfind_mark {limit : Nat} {text : List Char} {mark : Char}
    (visible : isSpace mark = false) (long : limit < (collapse text).length) :
    (rfind [mark, ' '] ((collapse text).take limit)).map (· + 1) =
      gapPlace limit (collapse text) (· == mark) := by
  have size : ((collapse text).take limit).length = limit := by
    rw [List.length_take, Nat.min_eq_left (Nat.le_of_lt long)]
  refine map_lastBelow ?_ ?_ ?_
  · intro i inside found
    obtain ⟨atMark, atGap⟩ := starts_two_iff.mp found
    obtain ⟨-, atMark⟩ := getElem?_cut.mp atMark
    obtain ⟨below, atGap⟩ := getElem?_cut.mp atGap
    refine ⟨by omega, (gap_iff (by omega)).mpr ?_⟩
    exact ⟨i, mark, rfl, atMark, visible, by simp, atGap, below⟩
  · intro n inside found
    obtain ⟨i, c, rfl, at_i, -, marked, gap, below⟩ := (gap_iff (by omega)).mp found
    rw [eq_of_beq marked] at at_i
    refine ⟨i, by omega, starts_two_iff.mpr ⟨?_, ?_⟩, rfl⟩
    · exact getElem?_cut.mpr ⟨by omega, at_i⟩
    · exact getElem?_cut.mpr ⟨below, gap⟩
  · intro i j earlier _ _ _
    omega

/-- The last blank. -/
theorem rfind_blank {limit : Nat} {text : List Char} (long : limit < (collapse text).length) :
    rfind [' '] ((collapse text).take limit) =
      gapPlace limit (collapse text) fun _ => true := by
  have size : ((collapse text).take limit).length = limit := by
    rw [List.length_take, Nat.min_eq_left (Nat.le_of_lt long)]
  rw [← Option.map_id_apply (x := rfind [' '] _)]
  refine map_lastBelow ?_ ?_ ?_
  · intro n inside found
    obtain ⟨below, atGap⟩ := getElem?_cut.mp (starts_iff.mp found)
    have blank : isSpace ' ' = true := by decide
    cases n with
    | zero =>
      have first := collapse_ends text ' ' (Or.inl (by rw [List.head?_eq_getElem?, atGap]))
      rw [blank] at first
      cases first
    | succ i =>
      obtain ⟨c, at_i⟩ : ∃ c, (collapse text)[i]? = some c :=
        ⟨_, List.getElem?_eq_getElem (by omega)⟩
      have visible : isSpace c = false := by
        rw [← Bool.not_eq_true]
        intro also
        have next := (collapse_gap at_i also).2 ' ' atGap
        rw [blank] at next
        cases next
      have shown : id (i + 1) ≤ (collapse text).length := by
        rw [id]
        omega
      refine ⟨Nat.lt_succ_of_le shown, (gap_iff shown).mpr ?_⟩
      exact ⟨i, c, rfl, at_i, visible, rfl, atGap, below⟩
  · intro n inside found
    obtain ⟨i, c, rfl, -, -, -, gap, below⟩ := (gap_iff (by omega)).mp found
    exact ⟨i + 1, by omega, starts_iff.mpr (getElem?_cut.mpr ⟨below, gap⟩), rfl⟩
  · intro i j earlier _ _ _
    exact earlier

/-- Stripping a beginning of the collapsed text only takes blanks off its end. -/
theorem trim_beginning (m : Nat) (text : List Char) :
    ∃ after, (collapse text).take m = trimChars isSpace ((collapse text).take m) ++ after ∧
      ∀ c ∈ after, isSpace c = true := by
  obtain ⟨before, after, split, opens, closes⟩ :=
    trimChars_split isSpace ((collapse text).take m)
  have flush : before = [] := by
    cases before with
    | nil => rfl
    | cons c rest =>
      have first : (collapse text).head? = some c := by
        rw [← List.take_append_drop m (collapse text), split]
        rfl
      have visible := collapse_ends text c (Or.inl first)
      rw [opens c List.mem_cons_self] at visible
      cases visible
  rw [flush, List.nil_append] at split
  exact ⟨after, split, closes⟩

/-- All places of a beginning are left when it is stripped. -/
theorem place_le_trim {m n : Nat} {text : List Char} (upper : n ≤ m)
    (inside : n ≤ (collapse text).length) (place : isPlace (collapse text) n = true) :
    n ≤ (trimChars isSpace ((collapse text).take m)).length := by
  obtain ⟨after, split, closes⟩ := trim_beginning m text
  generalize trimChars isSpace ((collapse text).take m) = trimmed at split ⊢
  by_contra later
  obtain ⟨c, last, visible⟩ := isPlace_iff.mp place
  have whole : (collapse text).take n = trimmed ++ after.take (n - trimmed.length) := by
    have within := congrArg (List.take n) split
    rwa [List.take_take, Nat.min_eq_left upper, List.take_append,
      List.take_of_length_le (l := trimmed) (by omega)] at within
  have some : after.take (n - trimmed.length) ≠ [] := by
    intro nothing
    have size := congrArg List.length whole
    rw [nothing, List.append_nil, List.length_take] at size
    omega
  rw [whole, List.getLast?_append_of_ne_nil _ some] at last
  rw [closes c (List.mem_of_mem_take (List.mem_of_getLast? last))] at visible
  cases visible

/-- Stripping a beginning of the collapsed text leads back to the last place in it. -/
theorem trim_take {m : Nat} {text : List Char} {p : Nat → Bool}
    (inside : m ≤ (collapse text).length)
    (upTo : ∀ n ≤ (collapse text).length, isPlace (collapse text) n = true →
      (p n = true ↔ n ≤ m)) :
    (trimChars isSpace ((collapse text).take m)).length =
      (lastPlace (collapse text) p).getD 0 := by
  have left {n : Nat} (below : n < (collapse text).length + 1)
      (found : (isPlace (collapse text) n && p n) = true) :
      n ≤ (trimChars isSpace ((collapse text).take m)).length ∧
        isPlace (collapse text) n = true := by
    rw [Bool.and_eq_true] at found
    have upper := (upTo n (by omega) found.1).mp found.2
    exact ⟨place_le_trim upper (by omega) found.1, found.1⟩
  have ends := trimChars_ends isSpace ((collapse text).take m)
  obtain ⟨after, split, -⟩ := trim_beginning m text
  generalize trimChars isSpace ((collapse text).take m) = trimmed at left ends split ⊢
  have short : trimmed.length ≤ m := by
    have size := congrArg List.length split
    rw [List.length_take, List.length_append] at size
    omega
  have part : (collapse text).take trimmed.length = trimmed := by
    have within := congrArg (List.take trimmed.length) split
    rwa [List.take_take, Nat.min_eq_left short, List.take_left] at within
  cases last : trimmed.getLast? with
  | none =>
    rw [List.getLast?_eq_none_iff] at last
    subst last
    have nowhere : lastPlace (collapse text) p = none := by
      refine lastBelow_eq_none.mpr fun n below => ?_
      rw [← Bool.not_eq_true]
      intro found
      obtain ⟨none, place⟩ := left below found
      rw [Nat.le_zero.mp none] at place
      cases place
    rw [nowhere]
    rfl
  | some c =>
    have place : isPlace (collapse text) trimmed.length = true :=
      isPlace_iff.mpr ⟨c, by rw [part, last], ends c (Or.inr last)⟩
    have found : lastPlace (collapse text) p = some trimmed.length := by
      refine lastBelow_eq_some.mpr ⟨by omega, ?_, fun n later below => ?_⟩
      · rw [place, (upTo _ (by omega) place).mpr short]
        rfl
      · rw [← Bool.not_eq_true]
        intro found
        have upper := (left below found).1
        omega
    rw [found, Option.getD_some]

/-- At a place nothing is stripped. -/
theorem trim_place {n : Nat} {text : List Char} (inside : n ≤ (collapse text).length)
    (place : isPlace (collapse text) n = true) :
    (trimChars isSpace ((collapse text).take n)).length = n := by
  have found : lastPlace (collapse text) (fun i => decide (i ≤ n)) = some n := by
    refine lastBelow_eq_some.mpr ⟨by omega, by simp [place], fun i later below => ?_⟩
    simp [Nat.not_le_of_lt later]
  rw [trim_take inside fun i _ _ => decide_eq_true_iff, found, Option.getD_some]

theorem lastPlace_collapsed {n : Nat} {text : List Char} {p : Nat → Bool}
    (found : lastPlace (collapse text) p = some n) : written (collapse text) n = n := by
  obtain ⟨inside, place, -⟩ := lastPlace_some found
  exact written_collapse inside place

/-- The last mark of the second half. -/
theorem lateIndex_mark {limit : Nat} {text : List Char} {mark : Char}
    (visible : isSpace mark = false) (long : limit < (collapse text).length) :
    (lateIndex limit ((collapse text).take limit) [mark, ' ']).map (· + 1) =
      latePlace (limit / 2 + 1) limit (collapse text) (· == mark) := by
  have last := rfind_mark visible long
  rw [latePlace, lateIndex]
  cases found : rfind [mark, ' '] ((collapse text).take limit) with
  | none =>
    rw [found, Option.map_none] at last
    rw [← last]
    rfl
  | some i =>
    rw [found, Option.map_some] at last
    have same : written (collapse text) (i + 1) = i + 1 := lastPlace_collapsed last.symm
    rw [← last, Option.filter_some, same]
    dsimp only
    by_cases late : limit / 2 < i
    · simp [late]
    · simp [late]

/-- The last blank of the second half. -/
theorem lateIndex_blank {limit : Nat} {text : List Char} (long : limit < (collapse text).length) :
    lateIndex limit ((collapse text).take limit) [' '] =
      latePlace (limit / 2) limit (collapse text) fun _ => true := by
  have last := rfind_blank long
  rw [latePlace, lateIndex]
  cases found : rfind [' '] ((collapse text).take limit) with
  | none =>
    rw [found] at last
    rw [← last]
    rfl
  | some i =>
    rw [found] at last
    have same : written (collapse text) i = i := lastPlace_collapsed last.symm
    rw [← last, Option.filter_some, same]
    dsimp only
    by_cases late : limit / 2 < i
    · simp [late]
    · simp [late]

theorem latePlace_some {bound limit n : Nat} {text : List Char} {mark : Char → Bool}
    (found : latePlace bound limit text mark = some n) :
    n ≤ text.length ∧ isPlace text n = true ∧ written text n < limit := by
  rw [latePlace, Option.filter_eq_some_iff] at found
  obtain ⟨inside, place, shown⟩ := lastPlace_some found.1
  simp only [Bool.and_eq_true, decide_eq_true_eq] at shown
  exact ⟨inside, place, shown.2⟩

/-- What is cut at a late place ends there. -/
theorem trim_latePlace {bound limit n : Nat} {text : List Char} {mark : Char → Bool}
    (found : latePlace bound limit (collapse text) mark = some n) :
    (trimChars isSpace (((collapse text).take limit).take n)).length = n := by
  obtain ⟨inside, place, before⟩ := latePlace_some found
  rw [written_collapse inside place] at before
  rw [List.take_take, Nat.min_eq_left (Nat.le_of_lt before), trim_place inside place]

/-- The bounded text is as long as its cut says. -/
theorem boundText_cut (limit : Nat) (text : List Char) :
    (boundText limit text).length = (cutPlace limit (collapse text)).getD 0 := by
  have whole : written (collapse text) (collapse text).length = (collapse text).length := by
    rw [written, List.take_length, collapse_collapse]
  rw [boundText, cutPlace, whole]
  dsimp only
  split
  next short =>
    have all : trimChars isSpace ((collapse text).take (collapse text).length) = collapse text := by
      have kept : trimChars isSpace ([] ++ collapse text ++ []) = collapse text :=
        trimChars_of_split (by simp) (collapse_ends text) (by simp)
      simpa using kept
    rw [← trim_take (Nat.le_refl _) fun n inside _ => by simp [inside], all]
  next longer =>
    have long := Nat.lt_of_not_le longer
    have marks : ([['.', ' '], ['!', ' '], ['?', ' ']].findSome?
          (lateIndex limit ((collapse text).take limit))).map (· + 1) =
        ['.', '!', '?'].findSome? fun mark =>
          latePlace (limit / 2 + 1) limit (collapse text) (· == mark) := by
      have late (mark : Char) (visible : isSpace mark = false) := lateIndex_mark visible long
      rw [List.map_findSome?]
      simp only [List.findSome?_cons, List.findSome?_nil, Function.comp_apply,
        late '.' (by decide), late '!' (by decide), late '?' (by decide)]
    rw [← marks, ← lateIndex_blank long, cutLength]
    cases first : [['.', ' '], ['!', ' '], ['?', ' ']].findSome?
        (lateIndex limit ((collapse text).take limit)) with
    | some i =>
      rw [first, Option.map_some] at marks
      obtain ⟨mark, -, found⟩ := List.exists_of_findSome?_eq_some marks.symm
      exact trim_latePlace found
    | none =>
      cases second : lateIndex limit ((collapse text).take limit) [' '] with
      | some i =>
        rw [lateIndex_blank long] at second
        exact trim_latePlace second
      | none =>
        dsimp only [Option.map_none]
        rw [List.take_length]
        refine trim_take (Nat.le_of_lt long) fun n inside place => ?_
        rw [decide_eq_true_iff, written_collapse inside place]

/-! ## Up to the cut -/

/-- The text is cut at one of its places. -/
theorem cutPlace_some {limit n : Nat} {text : List Char} (found : cutPlace limit text = some n) :
    n ≤ text.length ∧ isPlace text n = true := by
  have place {p : Nat → Bool} (last : lastPlace text p = some n) :
      n ≤ text.length ∧ isPlace text n = true := by
    obtain ⟨inside, shown, -⟩ := lastPlace_some last
    exact ⟨inside, shown⟩
  have late {bound : Nat} {mark : Char → Bool} (last : latePlace bound limit text mark = some n) :
      n ≤ text.length ∧ isPlace text n = true := by
    obtain ⟨inside, shown, -⟩ := latePlace_some last
    exact ⟨inside, shown⟩
  unfold cutPlace at found
  split at found
  · exact place found
  · split at found
    next marked =>
      obtain ⟨mark, -, last⟩ := List.exists_of_findSome?_eq_some marked
      cases found
      exact late last
    next =>
      split at found
      next last =>
        cases found
        exact late last
      next => exact place found

/-- The number of characters of the text in front of the cut. -/
def keptLength (limit : Nat) (text : List Char) : Nat := (cutPlace limit text).getD 0

/-- The text up to the cut. -/
def kept (limit : Nat) (text : List Char) : List Char := text.take (keptLength limit text)

/-- The text goes on behind the cut with a character of a word. -/
def cutInWord (words : WordClass) (limit : Nat) (text : List Char) : Bool :=
  headWord words.word (text.drop (keptLength limit text))

theorem kept_append (limit : Nat) (text : List Char) :
    text = kept limit text ++ text.drop (keptLength limit text) :=
  (List.take_append_drop _ text).symm

/-- A bounded text is the collapsed form of the text up to its cut. -/
theorem collapse_kept (limit : Nat) (text : List Char) :
    collapse (kept limit text) = boundText limit text := by
  obtain ⟨rest, whole⟩ := boundText_append limit text
  have beginning : (collapse text).take (boundText limit text).length = boundText limit text := by
    rw [whole]
    exact List.take_left
  rw [← beginning, boundText_cut, ← cutPlace_collapse, kept, keptLength]
  cases found : cutPlace limit text with
  | none => simp [collapse, splitChars, join]
  | some n =>
    rw [Option.map_some, Option.getD_some, Option.getD_some,
      collapse_take (cutPlace_some found).2]

example : kept 12 "One  two.\nThree".toList = "One  two.".toList := by decide +kernel

/-- The text up to the cut ends visibly. -/
theorem kept_last {limit : Nat} {text : List Char} {c : Char}
    (last : (kept limit text).getLast? = some c) : isSpace c = false := by
  rw [kept, keptLength] at last
  cases found : cutPlace limit text with
  | none => simp [found] at last
  | some n =>
    obtain ⟨d, ends, visible⟩ := isPlace_iff.mp (cutPlace_some found).2
    rw [found, Option.getD_some, ends] at last
    cases last
    exact visible

/-- The text up to the cut begins as the text does. -/
theorem kept_ends {limit : Nat} {text : List Char} (ends : VisibleEnds text) :
    VisibleEnds (kept limit text) := by
  rintro c (first | last)
  · apply ends c
    left
    rw [kept_append limit text, List.head?_append, first]
    rfl
  · exact kept_last last

end Apcos.Guarantees.AnswerCuts
