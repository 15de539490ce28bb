import Mathlib.Data.List.Basic
import Mathlib.Tactic.Common

/-!
# Words of a text

A text over any alphabet with a class of blanks. Its words are the maximal runs without a
blank; words joined by single gaps are a normal form of the text. A tidy text is cut at a
blank into two tidy texts, and at the end of its first word into that word and a tidy text.
-/
namespace Apcos.Lib.Words

variable {α : Type}

/-- A run of elements that are no blanks. -/
structure IsWord (space : α → Bool) (word : List α) : Prop where
  visible : word ≠ []
  solid : ∀ c ∈ word, space c = false

/-- Words separated by one gap each. -/
def join (gap : α) : List (List α) → List α
  | [] => []
  | [word] => word
  | word :: rest => word ++ gap :: join gap rest

/-- Words that follow another one, each after a gap. -/
def following (gap : α) (words : List (List α)) : List α := words.flatMap (gap :: ·)

/-- The words of a text; `word` is the run being read, in reverse. -/
def fields (space : α → Bool) : List α → List α → List (List α)
  | word, [] => if word.isEmpty then [] else [word.reverse]
  | word, c :: rest =>
    if space c then
      (if word.isEmpty then fields space [] rest else word.reverse :: fields space [] rest)
    else fields space (c :: word) rest

variable {space : α → Bool} {gap : α}

theorem join_cons {words : List (List α)} (word : List α) (more : words ≠ []) :
    join gap (word :: words) = word ++ gap :: join gap words := by
  cases words with
  | nil => exact absurd rfl more
  | cons second rest => rfl

theorem join_cons_following (word : List α) (words : List (List α)) :
    join gap (word :: words) = word ++ following gap words := by
  induction words generalizing word with
  | nil => simp [join, following]
  | cons next others ih =>
    rw [join_cons word (by simp), ih next]
    simp [following]

theorem following_eq {words : List (List α)} (some : words ≠ []) :
    following gap words = gap :: join gap words := by
  cases words with
  | nil => exact absurd rfl some
  | cons word rest =>
    rw [join_cons_following]
    simp [following]

theorem join_append {first second : List (List α)} (left : first ≠ []) (right : second ≠ []) :
    join gap (first ++ second) = join gap first ++ gap :: join gap second := by
  induction first with
  | nil => exact absurd rfl left
  | cons word rest ih =>
    cases rest with
    | nil => exact join_cons word right
    | cons next others =>
      have more := ih (List.cons_ne_nil next others)
      rw [List.cons_append, join_cons word (by simp), more, join_cons word (by simp),
        List.append_assoc, List.cons_append]

theorem join_eq_intercalate (words : List (List α)) : join gap words = [gap].intercalate words := by
  induction words with
  | nil => rfl
  | cons word rest ih =>
    cases rest with
    | nil => simp [join, List.intercalate]
    | cons next others =>
      rw [join_cons word (by simp), ih]
      simp [List.intercalate]

theorem fields_append_word {word : List α} (solid : ∀ c ∈ word, space c = false)
    (read rest : List α) : fields space read (word ++ rest) = fields space (word.reverse ++ read) rest := by
  induction word generalizing read with
  | nil => rfl
  | cons c others ih =>
    have kept := solid c List.mem_cons_self
    rw [List.cons_append, fields, if_neg (by simp [kept]),
      ih (fun d member => solid d (List.mem_cons_of_mem c member))]
    simp

theorem fields_last {word : List α} (isWord : IsWord space word) : fields space [] word = [word] := by
  have read := fields_append_word isWord.solid [] []
  rw [List.append_nil, List.append_nil] at read
  rw [read, fields]
  simp [isWord.visible]

/-- A blank separates the words before it from those after it. -/
theorem fields_append {c : α} (blank : space c = true) (read before after : List α) :
    fields space read (before ++ c :: after) =
      fields space read before ++ fields space [] after := by
  induction before generalizing read with
  | nil =>
    simp only [List.nil_append, fields, if_pos blank]
    cases read.isEmpty <;> rfl
  | cons d others ih =>
    rw [List.cons_append, fields, fields, ih, ih]
    split
    · split
      · rfl
      · rw [List.cons_append]
    · rfl

/-- The words of joined texts are the words of these texts. -/
theorem fields_join_flatMap (blank : space gap = true) (texts : List (List α)) :
    fields space [] (join gap texts) = texts.flatMap (fields space []) := by
  induction texts with
  | nil => rfl
  | cons text rest ih =>
    cases rest with
    | nil => simp [join]
    | cons next others =>
      rw [join_cons text (by simp), fields_append blank, ih]
      rfl

/-- The words of joined words are these words. -/
theorem fields_join (blank : space gap = true) {words : List (List α)}
    (all : ∀ word ∈ words, IsWord space word) : fields space [] (join gap words) = words := by
  rw [fields_join_flatMap blank]
  induction words with
  | nil => rfl
  | cons word rest ih =>
    rw [List.flatMap_cons, fields_last (all word List.mem_cons_self),
      ih fun w member => all w (List.mem_cons_of_mem word member), List.singleton_append]

theorem fields_isWord (read input : List α) (solid : ∀ c ∈ read, space c = false) :
    ∀ word ∈ fields space read input, IsWord space word := by
  have reversed {read : List α} (solid : ∀ c ∈ read, space c = false) (some : read ≠ []) :
      IsWord space read.reverse :=
    ⟨by simpa using some, fun c member => solid c (List.mem_reverse.mp member)⟩
  induction input generalizing read with
  | nil =>
    intro word member
    rw [fields] at member
    split at member
    · cases member
    · rename_i pending
      rw [List.mem_singleton.mp member]
      exact reversed solid (by simpa using pending)
  | cons c rest ih =>
    intro word member
    rw [fields] at member
    split at member
    · split at member
      · exact ih [] (by simp) word member
      · rename_i pending
        rcases List.mem_cons.mp member with rfl | later
        · exact reversed solid (by simpa using pending)
        · exact ih [] (by simp) word later
    · rename_i kept
      refine ih (c :: read) (fun d within => ?_) word member
      rcases List.mem_cons.mp within with rfl | within
      · simpa using kept
      · exact solid d within

/-- Blanks around a text are in no word. -/
theorem fields_leading {blanks : List α} (spaces : ∀ c ∈ blanks, space c = true) (rest : List α) :
    fields space [] (blanks ++ rest) = fields space [] rest := by
  induction blanks with
  | nil => rfl
  | cons c others ih =>
    have blank := spaces c List.mem_cons_self
    rw [List.cons_append, fields, if_pos blank, if_pos (by rfl),
      ih fun d member => spaces d (List.mem_cons_of_mem c member)]

theorem fields_trailing {blanks : List α} (spaces : ∀ c ∈ blanks, space c = true)
    (read input : List α) : fields space read (input ++ blanks) = fields space read input := by
  induction input generalizing read with
  | nil =>
    cases blanks with
    | nil => rfl
    | cons c others =>
      have rest : fields space [] others = [] := by
        have led := fields_leading (fun d member => spaces d (List.mem_cons_of_mem c member)) []
        rwa [List.append_nil] at led
      simp only [List.nil_append, fields, if_pos (spaces c List.mem_cons_self), rest]
  | cons c rest ih =>
    rw [List.cons_append, fields, fields, ih, ih]

/-- Every blank is the gap, and none follows another. -/
def SingleGaps (space : α → Bool) (gap : α) (text : List α) : Prop :=
  ∀ before c after, text = before ++ c :: after → space c = true →
    c = gap ∧ ∀ d ∈ after.head?, space d = false

theorem SingleGaps.part {text part : List α} (single : SingleGaps space gap text)
    (within : part <:+: text) : SingleGaps space gap part := by
  obtain ⟨opening, closing, whole⟩ := within
  intro before c after split blank
  have shape : text = (opening ++ before) ++ c :: (after ++ closing) := by
    rw [← whole, split]
    simp
  obtain ⟨same, next⟩ := single _ c _ shape blank
  refine ⟨same, fun d first => next d ?_⟩
  rw [List.head?_append, Option.mem_def.mp first]
  rfl

/-! ## Tidy texts -/

section
variable {words : List (List α)} (all : ∀ word ∈ words, IsWord space word)
include all

theorem head_join {c : α} {rest : List α} (begins : join gap words = c :: rest) :
    space c = false := by
  cases words with
  | nil => cases begins
  | cons word others =>
    have first := all word List.mem_cons_self
    cases word with
    | nil => exact absurd rfl first.visible
    | cons d tail =>
      have same : d = c := by
        cases others with
        | nil => exact (List.cons.inj begins).1
        | cons next more => exact (List.cons.inj begins).1
      rw [← same]
      exact first.solid d List.mem_cons_self

theorem join_ne_nil (some : words ≠ []) : join gap words ≠ [] := by
  cases words with
  | nil => exact absurd rfl some
  | cons word rest =>
    have visible := (all word List.mem_cons_self).visible
    cases rest with
    | nil => exact visible
    | cons next others =>
      rw [join_cons word (by simp)]
      simp

/-- Blanks at the start of a tidy text are none. -/
theorem no_leading_blanks {blanks rest : List α} (split : join gap words = blanks ++ rest)
    (spaces : ∀ c ∈ blanks, space c = true) : blanks = [] := by
  cases blanks with
  | nil => rfl
  | cons c others =>
    have solid := head_join all split
    rw [spaces c List.mem_cons_self] at solid
    cases solid

/-- A tidy text is cut at a blank into two tidy texts. -/
theorem cut_at_blank {before after : List α} {c : α} (split : join gap words = before ++ c :: after)
    (blank : space c = true) : c = gap ∧ ∃ first second, first ≠ [] ∧ second ≠ [] ∧
      words = first ++ second ∧ before = join gap first ∧ after = join gap second := by
  induction words generalizing before with
  | nil => simp [join] at split
  | cons word rest ih =>
    have solid := (all word List.mem_cons_self).solid
    have inside {tail : List α} (covers : word = before ++ c :: tail) : False := by
      have visible := solid c (by rw [covers]; simp)
      rw [blank] at visible
      cases visible
    cases rest with
    | nil => exact (inside split).elim
    | cons next others =>
      rw [join_cons word (by simp)] at split
      rcases List.append_eq_append_iff.mp split with ⟨middle, covers, later⟩ | ⟨middle, covers, later⟩
      · cases middle with
        | nil =>
          obtain ⟨same, rest⟩ := List.cons.inj later
          rw [List.append_nil] at covers
          exact ⟨same.symm, [word], next :: others, by simp, by simp, rfl, covers, rest.symm⟩
        | cons d middle =>
          simp only [List.cons_append, List.cons.injEq] at later
          obtain ⟨rfl, rest⟩ := later
          obtain ⟨same, first, second, some, more, parts, left, right⟩ :=
            ih (fun w member => all w (List.mem_cons_of_mem word member)) rest
          refine ⟨same, word :: first, second, by simp, more, by rw [parts, List.cons_append], ?_, right⟩
          rw [covers, left, join_cons word some]
      · cases middle with
        | nil =>
          obtain ⟨same, rest⟩ := List.cons.inj later
          rw [List.append_nil] at covers
          exact ⟨same, [word], next :: others, by simp, by simp, rfl, covers.symm, rest⟩
        | cons d middle =>
          obtain ⟨rfl, -⟩ := List.cons.inj later
          exact (inside covers).elim

/-- Blanks at the end of a tidy text are none. -/
theorem no_trailing_blanks {rest blanks : List α} (split : join gap words = rest ++ blanks)
    (spaces : ∀ c ∈ blanks, space c = true) : blanks = [] := by
  cases blanks with
  | nil => rfl
  | cons c others =>
    obtain ⟨-, first, second, -, some, parts, -, left⟩ :=
      cut_at_blank all split (spaces c List.mem_cons_self)
    have among (word : List α) (member : word ∈ second) : IsWord space word :=
      all word (by rw [parts]; exact List.mem_append_right first member)
    have whole : join gap second = others ++ [] := by rw [List.append_nil, left]
    have nothing := no_leading_blanks among whole fun d member =>
      spaces d (List.mem_cons_of_mem c member)
    exact absurd (nothing ▸ left.symm) (join_ne_nil among some)

theorem join_singleGaps : SingleGaps space gap (join gap words) := by
  intro before c after split blank
  obtain ⟨same, first, second, -, -, parts, -, left⟩ := cut_at_blank all split blank
  have among (word : List α) (member : word ∈ second) : IsWord space word :=
    all word (by rw [parts]; exact List.mem_append_right first member)
  refine ⟨same, fun d head => ?_⟩
  obtain ⟨rest, shape⟩ := List.head?_eq_some_iff.mp head
  exact head_join among (left.symm.trans shape)

/-- Every blank of a tidy text is the gap. -/
theorem blank_eq_gap {c : α} (member : c ∈ join gap words) (blank : space c = true) : c = gap := by
  obtain ⟨before, after, split⟩ := List.append_of_mem member
  exact (cut_at_blank all split blank).1

/-- A tidy text without a blank is one word. -/
theorem words_of_solid (blank : space gap = true) {word : List α} (whole : join gap words = word)
    (some : words ≠ []) (solid : ∀ c ∈ word, space c = false) : words = [word] := by
  have visible : word ≠ [] := whole ▸ join_ne_nil all some
  have read := fields_join blank all
  rw [whole, fields_last ⟨visible, solid⟩] at read
  exact read.symm

/-- Cutting off the first word. -/
theorem cut_word (blank : space gap = true) {word rest : List α}
    (split : join gap words = word ++ rest) (visible : word ≠ [])
    (solid : ∀ c ∈ word, space c = false) (ends : ∀ c ∈ rest.head?, space c = true) :
    ∃ others, words = word :: others ∧ rest = following gap others := by
  have some : words ≠ [] := by
    rintro rfl
    exact visible (List.append_eq_nil_iff.mp split.symm).1
  cases rest with
  | nil =>
    rw [List.append_nil] at split
    exact ⟨[], words_of_solid all blank split some solid, rfl⟩
  | cons c after =>
    obtain ⟨rfl, first, second, more, later, parts, left, right⟩ :=
      cut_at_blank all split (ends c rfl)
    have among (w : List α) (member : w ∈ first) : IsWord space w :=
      all w (by rw [parts]; exact List.mem_append_left second member)
    have single := words_of_solid among blank left.symm more solid
    refine ⟨second, by rw [parts, single]; rfl, ?_⟩
    rw [right, following_eq later]

/-- A tidy text is cut at blanks into two tidy texts. -/
theorem cut_between {before blanks rest : List α} (split : join gap words = before ++ (blanks ++ rest))
    (some : blanks ≠ []) (spaces : ∀ c ∈ blanks, space c = true) :
    ∃ first second, first ≠ [] ∧ second ≠ [] ∧ words = first ++ second ∧
      before = join gap first ∧ rest = join gap second := by
  cases blanks with
  | nil => exact absurd rfl some
  | cons c others =>
    obtain ⟨-, first, second, more, later, parts, left, right⟩ :=
      cut_at_blank all split (spaces c List.mem_cons_self)
    have among (word : List α) (member : word ∈ second) : IsWord space word :=
      all word (by rw [parts]; exact List.mem_append_right first member)
    have nothing := no_leading_blanks among right.symm fun d member =>
      spaces d (List.mem_cons_of_mem c member)
    subst nothing
    exact ⟨first, second, more, later, parts, left, right⟩

/-- Blanks before the words that follow are one gap. -/
theorem cut_blanks {blanks rest : List α} (split : following gap words = blanks ++ rest)
    (some : blanks ≠ []) (spaces : ∀ c ∈ blanks, space c = true) :
    words ≠ [] ∧ rest = join gap words := by
  have more : words ≠ [] := by
    rintro rfl
    exact some (List.append_eq_nil_iff.mp split.symm).1
  refine ⟨more, ?_⟩
  rw [following_eq more] at split
  cases blanks with
  | nil => exact absurd rfl some
  | cons c others =>
    obtain ⟨-, after⟩ := List.cons.inj split
    have nothing := no_leading_blanks all after fun d member =>
      spaces d (List.mem_cons_of_mem c member)
    subst nothing
    exact after.symm

/-- Only blanks follow where no word does. -/
theorem nothing_follows {blanks : List α} (split : following gap words = blanks)
    (spaces : ∀ c ∈ blanks, space c = true) : words = [] := by
  by_contra more
  rw [following_eq more] at split
  have visible : join gap words ≠ [] := join_ne_nil all more
  cases whole : join gap words with
  | nil => exact visible whole
  | cons c rest =>
    have solid := head_join all whole
    rw [spaces c (by rw [← split, whole]; simp)] at solid
    cases solid

end

end Apcos.Lib.Words
