import Mathlib.Data.List.Basic
import Mathlib.Tactic.Common
import Apcos.Lib.Words

/-!
# Searching a text for an expression

Regular expressions over elements, with word boundaries, and whether a text has a
match of one. A stretch of the text is matched in its surroundings, of which only
the neighbouring elements count. A text in which each gap, a run of blank elements,
is written as one element has the matches of the original, and no others, as far as
expressions tell no blank elements apart.
-/
namespace Apcos.Lib.Search

variable {α : Type}

inductive Rx (α : Type) where
  | one (p : α → Bool)
  /-- Any number of elements of a class. -/
  | many (p : α → Bool)
  /-- At least one element of a class. -/
  | some (p : α → Bool)
  | seq (first second : Rx α)
  | either (first second : Rx α)
  /-- Between an element of a word and one of none, or an end of the text. -/
  | boundary

variable (word : α → Bool)

def lastWord (left : List α) : Bool := left.getLast?.any word

def headWord (right : List α) : Bool := right.head?.any word

/-- The expression matches the stretch between what is left and right of it. -/
def accepts : Rx α → List α → List α → List α → Bool
  | .one p, _, stretch, _ => decide (stretch.length = 1) && stretch.all p
  | .many p, _, stretch, _ => stretch.all p
  | .some p, _, stretch, _ => !stretch.isEmpty && stretch.all p
  | .seq first second, left, stretch, right =>
    (List.range (stretch.length + 1)).any fun n =>
      accepts first left (stretch.take n) (stretch.drop n ++ right) &&
        accepts second (left ++ stretch.take n) (stretch.drop n) right
  | .either first second, left, stretch, right =>
    accepts first left stretch right || accepts second left stretch right
  | .boundary, left, stretch, right =>
    stretch.isEmpty && (lastWord word left != headWord word right)

/-- The text has a match somewhere. -/
def found (rx : Rx α) (text : List α) : Bool :=
  (List.range (text.length + 1)).any fun i =>
    (List.range (text.length + 1)).any fun n =>
      accepts word rx (text.take i) ((text.drop i).take n) ((text.drop i).drop n)

variable {word}

theorem accepts_seq_iff {first second : Rx α} {left stretch right : List α} :
    accepts word (.seq first second) left stretch right = true ↔
      ∃ before after, stretch = before ++ after ∧
        accepts word first left before (after ++ right) = true ∧
        accepts word second (left ++ before) after right = true := by
  simp only [accepts, List.any_eq_true, List.mem_range, Bool.and_eq_true]
  constructor
  · intro ⟨n, _, accepted⟩
    exact ⟨stretch.take n, stretch.drop n, (List.take_append_drop n stretch).symm, accepted⟩
  · intro ⟨before, after, split, accepted⟩
    subst split
    refine ⟨before.length, ?_, ?_⟩
    · rw [List.length_append]
      omega
    · rw [List.take_left, List.drop_left]
      exact accepted

theorem accepts_seq_assoc {first second third : Rx α} {left stretch right : List α} :
    accepts word (.seq first (.seq second third)) left stretch right = true ↔
      accepts word (.seq (.seq first second) third) left stretch right = true := by
  simp only [accepts_seq_iff]
  constructor
  · rintro ⟨a, _, rfl, atFirst, b, c, rfl, atSecond, atThird⟩
    refine ⟨a ++ b, c, (List.append_assoc a b c).symm, ⟨a, b, rfl, ?_, atSecond⟩, ?_⟩
    · rwa [← List.append_assoc]
    · rwa [← List.append_assoc]
  · rintro ⟨_, c, rfl, ⟨a, b, rfl, atFirst, atSecond⟩, atThird⟩
    refine ⟨a, b ++ c, List.append_assoc a b c, ?_, b, c, rfl, atSecond, ?_⟩
    · rwa [List.append_assoc]
    · rwa [List.append_assoc]

theorem accepts_seq_congr {first second second' : Rx α}
    (same : ∀ left stretch right, accepts word second left stretch right = true ↔
      accepts word second' left stretch right = true) {left stretch right : List α} :
    accepts word (.seq first second) left stretch right = true ↔
      accepts word (.seq first second') left stretch right = true := by
  simp only [accepts_seq_iff, same]

theorem found_iff {rx : Rx α} {text : List α} :
    found word rx text = true ↔
      ∃ left stretch right, text = left ++ stretch ++ right ∧
        accepts word rx left stretch right = true := by
  simp only [found, List.any_eq_true, List.mem_range]
  constructor
  · intro ⟨i, _, n, _, accepted⟩
    refine ⟨text.take i, (text.drop i).take n, (text.drop i).drop n, ?_, accepted⟩
    rw [List.append_assoc, List.take_append_drop, List.take_append_drop]
  · intro ⟨left, stretch, right, split, accepted⟩
    subst split
    refine ⟨left.length, ?_, stretch.length, ?_, ?_⟩
    · simp only [List.length_append]
      omega
    · simp only [List.length_append]
      omega
    · rw [List.append_assoc, List.take_left, List.drop_left, List.take_left, List.drop_left]
      exact accepted

theorem headWord_append (first second : List α) :
    headWord word (first ++ second) =
      if first = [] then headWord word second else headWord word first := by
  cases first with
  | nil => rfl
  | cons c rest => rfl

theorem lastWord_append (first second : List α) :
    lastWord word (first ++ second) =
      if second = [] then lastWord word first else lastWord word second := by
  cases second with
  | nil => simp
  | cons c rest =>
    simp only [lastWord, List.getLast?_append, reduceCtorEq, if_false]
    cases last : (c :: rest).getLast? with
    | none => simp at last
    | some d => rfl

/-- Of the surroundings only the neighbouring elements count. -/
theorem accepts_surroundings {rx : Rx α} {left left' stretch right right' : List α}
    (sameLeft : lastWord word left' = lastWord word left)
    (sameRight : headWord word right' = headWord word right)
    (accepted : accepts word rx left stretch right = true) :
    accepts word rx left' stretch right' = true := by
  induction rx generalizing left left' stretch right right' with
  | one p => exact accepted
  | many p => exact accepted
  | some p => exact accepted
  | seq first second before after =>
    obtain ⟨initial, final, split, acceptsFirst, acceptsSecond⟩ := accepts_seq_iff.mp accepted
    refine accepts_seq_iff.mpr ⟨initial, final, split, before sameLeft ?_ acceptsFirst,
      after ?_ sameRight acceptsSecond⟩
    · rw [headWord_append, headWord_append, sameRight]
    · rw [lastWord_append, lastWord_append, sameLeft]
  | either first second before after =>
    simp only [accepts, Bool.or_eq_true] at accepted ⊢
    exact accepted.imp (before sameLeft sameRight) (after sameLeft sameRight)
  | boundary =>
    simp only [accepts, Bool.and_eq_true] at accepted ⊢
    rw [sameLeft, sameRight]
    exact accepted

/-! ## Gaps -/

variable (blank : α → Bool) (gap : α)

/-- The second text is the first with each run of blank elements written as a gap. -/
inductive Spaced : List α → List α → Prop where
  | nil : Spaced [] []
  | element {c : α} {original text : List α} (visible : blank c = false)
      (spaced : Spaced original text) : Spaced (c :: original) (c :: text)
  | gap {run original text : List α} (nonempty : run ≠ []) (blanks : ∀ c ∈ run, blank c = true)
      (spaced : Spaced original text) : Spaced (run ++ original) (gap :: text)

variable {blank gap}

/-- The parts of the text come from parts of the original. -/
theorem Spaced.split {original : List α} (first second : List α)
    (spaced : Spaced blank gap original (first ++ second)) :
    ∃ before after, original = before ++ after ∧ Spaced blank gap before first ∧
      Spaced blank gap after second := by
  induction first generalizing original with
  | nil => exact ⟨[], original, rfl, .nil, spaced⟩
  | cons c rest ih =>
    rw [List.cons_append] at spaced
    cases spaced with
    | element visible spaced =>
      obtain ⟨before, after, split, left, right⟩ := ih spaced
      exact ⟨c :: before, after, by rw [split, List.cons_append], .element visible left, right⟩
    | @gap run original text nonempty blanks spaced =>
      obtain ⟨before, after, split, left, right⟩ := ih spaced
      exact ⟨run ++ before, after, by rw [split, List.append_assoc],
        .gap nonempty blanks left, right⟩

/-- Not inside a gap: one of the neighbouring elements is visible, or there is none. -/
def Apart (blank : α → Bool) (left right : List α) : Prop :=
  (∀ c ∈ left.getLast?, blank c = false) ∨ ∀ c ∈ right.head?, blank c = false

/-- The parts of the original, if it is not cut inside a gap, go over into parts of the text. -/
theorem Spaced.split_original {first second text : List α}
    (spaced : Spaced blank gap (first ++ second) text) (apart : Apart blank first second) :
    ∃ before after, text = before ++ after ∧ Spaced blank gap first before ∧
      Spaced blank gap second after := by
  generalize whole : first ++ second = original at spaced
  induction spaced generalizing first with
  | nil =>
    obtain ⟨rfl, rfl⟩ := List.append_eq_nil_iff.mp whole
    exact ⟨[], [], rfl, .nil, .nil⟩
  | @element c original text visible spaced ih =>
    cases first with
    | nil =>
      rw [List.nil_append] at whole
      subst whole
      exact ⟨[], c :: text, rfl, .nil, .element visible spaced⟩
    | cons d rest =>
      obtain ⟨rfl, more⟩ := List.cons.inj whole
      have further : Apart blank rest second := by
        refine apart.imp_left fun shown e last => shown e ?_
        rw [List.getLast?_cons, Option.mem_def.mp last]
        rfl
      obtain ⟨before, after, split, left, right⟩ := ih further more
      exact ⟨d :: before, after, by rw [split, List.cons_append], .element visible left, right⟩
  | @gap run original text nonempty blanks spaced ih =>
    rcases List.append_eq_append_iff.mp whole with ⟨middle, covers, later⟩ | ⟨middle, covers, later⟩
    · by_cases begun : first = []
      · subst begun
        rw [List.nil_append] at whole
        subst whole
        exact ⟨[], gap :: text, rfl, .nil, .gap nonempty blanks spaced⟩
      · cases middle with
        | nil =>
          rw [List.append_nil] at covers
          rw [List.nil_append] at later
          subst covers later
          exact ⟨[gap], text, rfl, by simpa using Spaced.gap nonempty blanks .nil, spaced⟩
        | cons d middle =>
          -- The cut would lie between two elements of the run.
          exfalso
          rcases apart with shown | shown
          · have last := shown _ (List.getLast?_eq_some_getLast begun)
            rw [blanks _ (by rw [covers]; simp)] at last
            cases last
          · have head := shown d (by rw [later]; rfl)
            rw [blanks d (by rw [covers]; simp)] at head
            cases head
    · have further : Apart blank middle second := by
        refine apart.imp_left fun shown e last => shown e ?_
        rw [covers, List.getLast?_append, Option.mem_def.mp last]
        rfl
      obtain ⟨before, after, split, left, right⟩ := ih further later.symm
      subst covers
      exact ⟨gap :: before, after, by rw [split, List.cons_append], .gap nonempty blanks left, right⟩

theorem Spaced.append {original original' text text' : List α}
    (first : Spaced blank gap original text) (second : Spaced blank gap original' text') :
    Spaced blank gap (original ++ original') (text ++ text') := by
  induction first with
  | nil => exact second
  | element visible _ ih => exact .element visible ih
  | gap nonempty blanks _ ih =>
    rw [List.append_assoc]
    exact .gap nonempty blanks ih

theorem spaced_of_visible {text : List α} (visible : ∀ c ∈ text, blank c = false) :
    Spaced blank gap text text := by
  induction text with
  | nil => exact .nil
  | cons c rest ih =>
    exact .element (visible c List.mem_cons_self)
      (ih fun d member => visible d (List.mem_cons_of_mem c member))

theorem Spaced.eq_nil_iff {original text : List α} (spaced : Spaced blank gap original text) :
    original = [] ↔ text = [] := by
  cases spaced with
  | nil => simp
  | element => simp
  | gap nonempty => simp [nonempty]

theorem Spaced.length_le {original text : List α} (spaced : Spaced blank gap original text) :
    text.length ≤ original.length := by
  induction spaced with
  | nil => exact Nat.le_refl 0
  | element _ _ ih =>
    simp only [List.length_cons]
    omega
  | gap nonempty _ _ ih =>
    have some := List.length_pos_iff.mpr nonempty
    simp only [List.length_cons, List.length_append]
    omega

theorem Spaced.visible_eq {original text : List α} (spaced : Spaced blank gap original text)
    (gapBlank : blank gap = true) :
    text.filter (fun c => !blank c) = original.filter fun c => !blank c := by
  induction spaced with
  | nil => rfl
  | element visible _ ih => simp [visible, ih]
  | gap _ blanks _ ih =>
    have none : List.filter (fun c => !blank c) _ = [] :=
      List.filter_eq_nil_iff.mpr fun c member => by simpa using blanks c member
    simp [gapBlank, ih, List.filter_append, none]

/-- The text has the words of the original. -/
theorem Spaced.fields_eq {original text : List α} (spaced : Spaced blank gap original text)
    (gapBlank : blank gap = true) (read : List α) :
    Words.fields blank read original = Words.fields blank read text := by
  induction spaced generalizing read with
  | nil => rfl
  | @element c original text _ _ ih => rw [Words.fields, Words.fields, ih, ih]
  | @gap run original text nonempty blanks _ ih =>
    obtain ⟨c, more, shape⟩ := List.exists_cons_of_ne_nil nonempty
    subst shape
    have first := Words.fields_append (blanks c List.mem_cons_self) read [] (more ++ original)
    have second := Words.fields_append gapBlank read [] text
    rw [Words.fields_leading fun d member => blanks d (List.mem_cons_of_mem c member), ih] at first
    exact first.trans second.symm

/-- The only blank element of the text is the gap. -/
theorem Spaced.blank_eq_gap {original text : List α} (spaced : Spaced blank gap original text)
    {c : α} (member : c ∈ text) (blanks : blank c = true) : c = gap := by
  induction spaced with
  | nil => cases member
  | element visible _ ih =>
    rcases List.mem_cons.mp member with same | later
    · rw [← same, blanks] at visible
      cases visible
    · exact ih later
  | gap _ _ _ ih =>
    rcases List.mem_cons.mp member with same | later
    · exact same
    · exact ih later

/-- No blank element belongs to a word. -/
def Separates (word blank : α → Bool) : Prop := ∀ c, blank c = true → word c = false

theorem Spaced.headWord_eq {original text : List α} (spaced : Spaced blank gap original text)
    (separates : Separates word blank) (gapBlank : blank gap = true) :
    headWord word original = headWord word text := by
  cases spaced with
  | nil => rfl
  | element => rfl
  | @gap run original text nonempty blanks spaced =>
    obtain ⟨c, rest, shape⟩ := List.exists_cons_of_ne_nil nonempty
    subst shape
    simp [headWord, separates c (blanks c List.mem_cons_self), separates gap gapBlank]

theorem lastWord_blanks {run : List α} (separates : Separates word blank)
    (blanks : ∀ c ∈ run, blank c = true) : lastWord word run = false := by
  unfold lastWord
  cases last : run.getLast? with
  | none => rfl
  | some c => exact separates c (blanks c (List.mem_of_getLast? last))

theorem Spaced.lastWord_eq {original text : List α} (spaced : Spaced blank gap original text)
    (separates : Separates word blank) (gapBlank : blank gap = true) :
    lastWord word original = lastWord word text := by
  induction spaced with
  | nil => rfl
  | @element c original text visible spaced ih =>
    rw [← List.singleton_append, ← List.singleton_append (l := text), lastWord_append,
      lastWord_append, ih]
    simp only [spaced.eq_nil_iff]
  | @gap run original text nonempty blanks spaced ih =>
    rw [← List.singleton_append, lastWord_append, lastWord_append, ih]
    simp only [spaced.eq_nil_iff]
    split
    · rw [lastWord_blanks separates blanks]
      exact (separates gap gapBlank).symm
    · rfl

/-! ## Expressions that see gaps as they are -/

variable (blank)

/-- The expression matches no blank elements. -/
def Rx.Visible : Rx α → Prop
  | .one p | .many p | .some p => ∀ c, blank c = true → p c = false
  | .seq first second | .either first second => first.Visible ∧ second.Visible
  | .boundary => True

/-- The expression tells no blank elements apart, but for a class `free` of elements
where `dotted`, and no two of its parts share a gap. -/
inductive Blind (dotted : Prop) (free : α → Bool) : Rx α → Prop where
  | one {p : α → Bool} (visible : ∀ c, blank c = true → p c = false) : Blind dotted free (.one p)
  | many {p : α → Bool} (visible : ∀ c, blank c = true → p c = false) : Blind dotted free (.many p)
  | blanks : Blind dotted free (.many blank)
  | someBlanks : Blind dotted free (.some blank)
  | dot (allowed : dotted) : Blind dotted free (.many free)
  | seq {first second : Rx α} (before : Blind dotted free first)
      (after : Blind dotted free second) (solid : first.Visible blank ∨ second.Visible blank) :
      Blind dotted free (.seq first second)
  | either {first second : Rx α} (left : Blind dotted free first)
      (right : Blind dotted free second) : Blind dotted free (.either first second)
  | boundary : Blind dotted free .boundary

variable {blank}

theorem Blind.mono {dotted dotted' : Prop} {free : α → Bool} {rx : Rx α}
    (blind : Blind blank dotted free rx) (also : dotted → dotted') :
    Blind blank dotted' free rx := by
  induction blind with
  | one visible => exact .one visible
  | many visible => exact .many visible
  | blanks => exact .blanks
  | someBlanks => exact .someBlanks
  | dot allowed => exact .dot (also allowed)
  | seq _ _ solid before after => exact .seq before after solid
  | either _ _ first second => exact .either first second
  | boundary => exact .boundary

theorem Rx.Visible.stretch {rx : Rx α} (visible : rx.Visible blank) {left stretch right : List α}
    (accepted : accepts word rx left stretch right = true) : ∀ c ∈ stretch, blank c = false := by
  -- What a class without blank elements matches is visible.
  have fromClass {p : α → Bool} {stretch : List α} (hidden : ∀ c, blank c = true → p c = false)
      (all : stretch.all p = true) : ∀ c ∈ stretch, blank c = false := by
    intro c member
    rw [← Bool.not_eq_true]
    intro blanks
    have inClass := List.all_eq_true.mp all c member
    rw [hidden c blanks] at inClass
    cases inClass
  induction rx generalizing left stretch right with
  | one p =>
    simp only [accepts, Bool.and_eq_true] at accepted
    exact fromClass visible accepted.2
  | many p => exact fromClass visible accepted
  | some p =>
    simp only [accepts, Bool.and_eq_true] at accepted
    exact fromClass visible accepted.2
  | seq first second before after =>
    obtain ⟨initial, final, split, acceptsFirst, acceptsSecond⟩ := accepts_seq_iff.mp accepted
    intro c member
    rw [split] at member
    rcases List.mem_append.mp member with early | late
    · exact before visible.1 acceptsFirst c early
    · exact after visible.2 acceptsSecond c late
  | either first second before after =>
    simp only [accepts, Bool.or_eq_true] at accepted
    exact accepted.elim (before visible.1) (after visible.2)
  | boundary =>
    simp only [accepts, Bool.and_eq_true, List.isEmpty_iff] at accepted
    rw [accepted.1]
    exact fun c member => absurd member List.not_mem_nil

/-- Two parts that match one after the other, of which one matches no blank elements. -/
theorem apart_of_visible {first second : Rx α}
    (solid : first.Visible blank ∨ second.Visible blank) {left before after right : List α}
    (acceptsFirst : accepts word first left before (after ++ right) = true)
    (acceptsSecond : accepts word second (left ++ before) after right = true) :
    Apart blank before after := by
  rcases solid with visible | visible
  · exact Or.inl fun c last => visible.stretch acceptsFirst c (List.mem_of_getLast? last)
  · exact Or.inr fun c head => visible.stretch acceptsSecond c (List.mem_of_mem_head? head)

/-- A boundary of a word does not lie inside a gap. -/
theorem apart_of_boundary {left right : List α} (separates : Separates word blank)
    (boundary : lastWord word left ≠ headWord word right) : Apart blank left right := by
  have visible {c : α} (inWord : word c = true) : blank c = false := by
    rw [← Bool.not_eq_true]
    intro blanks
    rw [separates c blanks] at inWord
    cases inWord
  cases last : lastWord word left with
  | true =>
    refine Or.inl fun c found => visible ?_
    rwa [lastWord, Option.mem_def.mp found] at last
  | false =>
    rw [last] at boundary
    refine Or.inr fun c found => visible ?_
    have head : headWord word right = true := by simpa using boundary.symm
    rwa [headWord, Option.mem_def.mp found] at head

theorem Spaced.all_blank {original text : List α} (spaced : Spaced blank gap original text)
    (blanks : text.all blank = true) : original.all blank = true := by
  induction spaced with
  | nil => rfl
  | element visible _ ih =>
    rw [List.all_cons, visible, Bool.false_and] at blanks
    cases blanks
  | gap _ run _ ih =>
    rw [List.all_cons, Bool.and_eq_true] at blanks
    rw [List.all_append, ih blanks.2, Bool.and_true, List.all_eq_true]
    exact run

/-- A text without a gap is its own original. -/
theorem Spaced.eq_of_all {original text : List α} (spaced : Spaced blank gap original text)
    {p : α → Bool} (hidden : p gap = false) (all : text.all p = true) : original = text := by
  induction spaced with
  | nil => rfl
  | element _ _ ih =>
    rw [List.all_cons, Bool.and_eq_true] at all
    rw [ih all.2]
  | gap _ _ _ ih =>
    rw [List.all_cons, hidden, Bool.false_and] at all
    cases all

theorem Spaced.blank_all {original text : List α} (spaced : Spaced blank gap original text)
    (gapBlank : blank gap = true) (blanks : original.all blank = true) : text.all blank = true := by
  induction spaced with
  | nil => rfl
  | element visible _ ih =>
    rw [List.all_cons, visible, Bool.false_and] at blanks
    cases blanks
  | gap _ _ _ ih =>
    rw [List.all_append, Bool.and_eq_true] at blanks
    rw [List.all_cons, gapBlank, ih blanks.2, Bool.true_and]

/-- An original without blank elements is its own text. -/
theorem Spaced.eq_of_visible {original text : List α} (spaced : Spaced blank gap original text)
    (visible : ∀ c ∈ original, blank c = false) : text = original := by
  induction spaced with
  | nil => rfl
  | @element c original text _ _ ih =>
    rw [ih fun d member => visible d (List.mem_cons_of_mem c member)]
  | @gap run original text nonempty blanks _ _ =>
    obtain ⟨c, rest, shape⟩ := List.exists_cons_of_ne_nil nonempty
    have shown := visible c (by rw [shape]; exact List.mem_cons_self)
    rw [blanks c (by rw [shape]; exact List.mem_cons_self)] at shown
    cases shown

theorem Spaced.all_free {original text : List α} (spaced : Spaced blank gap original text)
    {free : α → Bool} (gapFree : free gap = true) (all : original.all free = true) :
    text.all free = true := by
  induction spaced with
  | nil => rfl
  | element _ _ ih =>
    rw [List.all_cons, Bool.and_eq_true] at all ⊢
    exact ⟨all.1, ih all.2⟩
  | gap _ _ _ ih =>
    rw [List.all_append, Bool.and_eq_true] at all
    rw [List.all_cons, gapFree, ih all.2, Bool.true_and]

/-- A match in the original is one in the text, in surroundings that begin and end alike. -/
theorem accepts_spaced {dotted : Prop} {free : α → Bool} {rx : Rx α}
    (blind : Blind blank dotted free rx) (separates : Separates word blank)
    (gapBlank : blank gap = true) (gapFree : dotted → free gap = true) {original text : List α}
    (spaced : Spaced blank gap original text) {left left' right right' : List α}
    (sameLeft : lastWord word left' = lastWord word left)
    (sameRight : headWord word right' = headWord word right)
    (accepted : accepts word rx left original right = true) :
    accepts word rx left' text right' = true := by
  induction blind generalizing original text left left' right right' with
  | @one p visible =>
    have shown : (Rx.one p).Visible blank := visible
    rw [spaced.eq_of_visible (shown.stretch accepted)]
    exact accepted
  | @many p visible =>
    have shown : (Rx.many p).Visible blank := visible
    rw [spaced.eq_of_visible (shown.stretch accepted)]
    exact accepted
  | blanks => exact spaced.blank_all gapBlank accepted
  | someBlanks =>
    simp only [accepts, Bool.and_eq_true, Bool.not_eq_true', List.isEmpty_eq_false_iff] at accepted ⊢
    exact ⟨fun empty => accepted.1 (spaced.eq_nil_iff.mpr empty),
      spaced.blank_all gapBlank accepted.2⟩
  | dot allowed => exact spaced.all_free (gapFree allowed) accepted
  | seq _ _ solid before after =>
    obtain ⟨initial, final, split, acceptsFirst, acceptsSecond⟩ := accepts_seq_iff.mp accepted
    subst split
    obtain ⟨first, second, split, spacedFirst, spacedSecond⟩ :=
      spaced.split_original (apart_of_visible solid acceptsFirst acceptsSecond)
    subst split
    refine accepts_seq_iff.mpr ⟨first, second, rfl, ?_, ?_⟩
    · refine before spacedFirst sameLeft ?_ acceptsFirst
      rw [headWord_append, headWord_append, ← spacedSecond.headWord_eq separates gapBlank, sameRight]
      simp only [spacedSecond.eq_nil_iff]
    · refine after spacedSecond ?_ sameRight acceptsSecond
      rw [lastWord_append, lastWord_append, ← spacedFirst.lastWord_eq separates gapBlank, sameLeft]
      simp only [spacedFirst.eq_nil_iff]
  | either _ _ first second =>
    simp only [accepts, Bool.or_eq_true] at accepted ⊢
    rcases accepted with accepted | accepted
    · exact Or.inl (first spaced sameLeft sameRight accepted)
    · exact Or.inr (second spaced sameLeft sameRight accepted)
  | boundary =>
    simp only [accepts, Bool.and_eq_true, List.isEmpty_iff] at accepted ⊢
    rw [sameLeft, sameRight]
    exact ⟨spaced.eq_nil_iff.mp accepted.1, accepted.2⟩

/-- A match in the text is one in the original, in surroundings that begin and end alike. -/
theorem accepts_original {dotted : Prop} {free : α → Bool} {rx : Rx α}
    (blind : Blind blank dotted free rx) (separates : Separates word blank)
    (gapBlank : blank gap = true) {original text : List α}
    (spaced : Spaced blank gap original text)
    (allFree : dotted → ∀ c ∈ original, free c = true) {left left' right right' : List α}
    (sameLeft : lastWord word left' = lastWord word left)
    (sameRight : headWord word right' = headWord word right)
    (accepted : accepts word rx left text right = true) :
    accepts word rx left' original right' = true := by
  induction blind generalizing original text left left' right right' with
  | @one p visible =>
    simp only [accepts, Bool.and_eq_true, decide_eq_true_eq] at accepted ⊢
    obtain ⟨single, all⟩ := accepted
    obtain ⟨c, rfl⟩ := List.length_eq_one_iff.mp single
    cases spaced with
    | element _ rest =>
      cases rest
      exact ⟨rfl, all⟩
    | gap _ _ rest =>
      have hidden := visible gap gapBlank
      simp [hidden] at all
  | @many p visible =>
    simp only [accepts] at accepted ⊢
    rw [spaced.eq_of_all (visible gap gapBlank) accepted]
    exact accepted
  | blanks => exact spaced.all_blank accepted
  | someBlanks =>
    simp only [accepts, Bool.and_eq_true, Bool.not_eq_true', List.isEmpty_eq_false_iff] at accepted ⊢
    exact ⟨fun empty => accepted.1 (spaced.eq_nil_iff.mp empty), spaced.all_blank accepted.2⟩
  | dot allowed =>
    simp only [accepts, List.all_eq_true]
    exact allFree allowed
  | seq _ _ _ before after =>
    obtain ⟨first, second, split, acceptsFirst, acceptsSecond⟩ := accepts_seq_iff.mp accepted
    subst split
    obtain ⟨initial, final, split, spacedFirst, spacedSecond⟩ := spaced.split first second
    subst split
    refine accepts_seq_iff.mpr ⟨initial, final, rfl, ?_, ?_⟩
    · refine before spacedFirst (fun allowed c member => allFree allowed c
        (List.mem_append_left _ member)) sameLeft ?_ acceptsFirst
      rw [headWord_append, headWord_append, spacedSecond.headWord_eq separates gapBlank, sameRight]
      simp only [spacedSecond.eq_nil_iff]
    · refine after spacedSecond (fun allowed c member => allFree allowed c
        (List.mem_append_right _ member)) ?_ sameRight acceptsSecond
      rw [lastWord_append, lastWord_append, spacedFirst.lastWord_eq separates gapBlank, sameLeft]
      simp only [spacedFirst.eq_nil_iff]
  | either _ _ first second =>
    simp only [accepts, Bool.or_eq_true] at accepted ⊢
    rcases accepted with accepted | accepted
    · exact Or.inl (first spaced allFree sameLeft sameRight accepted)
    · exact Or.inr (second spaced allFree sameLeft sameRight accepted)
  | boundary =>
    simp only [accepts, Bool.and_eq_true, List.isEmpty_iff] at accepted ⊢
    rw [sameLeft, sameRight]
    exact ⟨spaced.eq_nil_iff.mpr accepted.1, accepted.2⟩

end Apcos.Lib.Search
