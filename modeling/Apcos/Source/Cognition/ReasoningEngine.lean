import Apcos.Lib.Search
import Apcos.Source.Python.Patterns
import Apcos.Source.Python.Words

/-!
# Reasoning engine

core/cognition/reasoning_engine.py. The LLM client is any function from prompts to
answers; an answer that is missing is a client that raised. `generate_strategy` is
cut at the client's answer. Texts are worked on as lists of characters.
-/
namespace Apcos.Source.Cognition

open Apcos.Lib.Search
open Apcos.Lib.Words (join join_cons)
open Apcos.Source.Python

/-! ## Patterns -/

/-- The `\w` of the interpreter's Unicode database: no white space, and of ASCII the
letters, digits and the underscore. -/
structure WordClass where
  word : Char → Bool
  ascii : ∀ c, c.toNat < 128 →
    word c = (isAsciiLower c || isAsciiUpper c || ('0' ≤ c && c ≤ '9') || c == '_')
  space : Separates word isSpace

/-- The class for texts whose characters beyond ASCII belong to no word. -/
def asciiWords : WordClass where
  word c := isAsciiLower c || isAsciiUpper c || ('0' ≤ c && c ≤ '9') || c == '_'
  ascii _ _ := rfl
  space := by
    intro c space
    cases word : isAsciiLower c || isAsciiUpper c || ('0' ≤ c && c ≤ '9') || c == '_' with
    | false => exact word
    | true =>
      simp only [isAsciiLower, isAsciiUpper, Bool.or_eq_true, Bool.and_eq_true, decide_eq_true_eq,
        Char.le_def, UInt32.le_iff_toNat_le, beq_iff_eq] at word
      simp only [isSpace, Bool.or_eq_true, Bool.and_eq_true, decide_eq_true_eq, beq_iff_eq,
        Char.toNat] at space
      have lower : 'a'.val.toNat = 97 ∧ 'z'.val.toNat = 122 := ⟨rfl, rfl⟩
      have upper : 'A'.val.toNat = 65 ∧ 'Z'.val.toNat = 90 := ⟨rfl, rfl⟩
      have digit : '0'.val.toNat = 48 ∧ '9'.val.toNat = 57 := ⟨rfl, rfl⟩
      rcases word with (letter | number) | same
      · omega
      · omega
      · subst same
        exact absurd space (by decide)

/-- A literal character under `IGNORECASE`. -/
def matchesLetter (letter c : Char) : Bool := foldLetter c == asciiLower letter

def spell : List Char → Rx Char
  | [] => .many fun _ => false
  | letter :: rest => .seq (.one (matchesLetter letter)) (spell rest)

def notNewline (c : Char) : Bool := c != '\n'

/-- A pattern that begins with a word boundary and a word; `pattern` is its text. -/
structure SafetyPattern where
  pattern : String
  lead : String
  tail : Rx Char

namespace SafetyPattern

def rx (p : SafetyPattern) : Rx Char := .seq .boundary (.seq (spell p.lead.toList) p.tail)

/-- `\bword\b`. -/
def wholeWord (lead : String) : SafetyPattern := ⟨"\\b" ++ lead ++ "\\b", lead, .boundary⟩

/-- `\bfirst\s+second\b`. -/
def twoWords (lead second : String) : SafetyPattern :=
  ⟨"\\b" ++ lead ++ "\\s+" ++ second ++ "\\b", lead,
    .seq (.some isSpace) (.seq (spell second.toList) .boundary)⟩

/-- `\bword\s*\(`. -/
def call (lead : String) : SafetyPattern :=
  ⟨"\\b" ++ lead ++ "\\s*\\(", lead, .seq (.many isSpace) (.one (matchesLetter '('))⟩

def anyOf (first : String) : List String → Rx Char
  | [] => spell first.toList
  | second :: rest => .either (spell first.toList) (anyOf second rest)

/-- `\bword\b.*\bother\b`, where `other` may be a group of alternatives. -/
def across (lead text first : String) (rest : List String) : SafetyPattern :=
  ⟨"\\b" ++ lead ++ "\\b.*\\b" ++ text ++ "\\b", lead,
    .seq .boundary (.seq (.many notNewline) (.seq .boundary (.seq (anyOf first rest) .boundary)))⟩

def matchesText (words : WordClass) (p : SafetyPattern) (text : List Char) : Bool :=
  found words.word p.rx text

end SafetyPattern

open SafetyPattern (wholeWord twoWords call across anyOf)

def archiveAcross : SafetyPattern :=
  across "archive" "(task|tasks|all|everything)" "task" ["tasks", "all", "everything"]

def modifyAcross : SafetyPattern := across "modify" "database" "database" []

def thresholdAcross : SafetyPattern := across "threshold" "zero" "zero" []

def unsafePatterns : List SafetyPattern :=
  [wholeWord "delete", wholeWord "drop", twoWords "create" "task", twoWords "complete" "task",
    twoWords "cancel" "task", twoWords "archive" "task", archiveAcross, wholeWord "lifecycle",
    wholeWord "lifecycle_manager", wholeWord "transition", wholeWord "task_store",
    wholeWord "command_router", twoWords "bypass" "router", modifyAcross, wholeWord "database",
    twoWords "reduce" "threshold", thresholdAcross]

def mutationCommandPatterns : List SafetyPattern :=
  [call "create_task", call "archive", call "update_task", call "delete"]

/-- A word and one of some others behind it, with elements of a class between them. -/
def SafetyPattern.acrossRx (dot : Char → Bool) (lead first : String) (rest : List String) :
    Rx Char :=
  .seq .boundary (.seq (spell lead.toList) (.seq .boundary (.seq (.many dot)
    (.seq .boundary (.seq (anyOf first rest) .boundary)))))

/-! ### White space in patterns -/

theorem foldLetter_space {c : Char} (space : isSpace c = true) : foldLetter c = c := by
  have upper : isAsciiUpper c = false := by
    cases letter : isAsciiUpper c with
    | false => rfl
    | true =>
      simp only [isAsciiUpper, Bool.and_eq_true, decide_eq_true_eq, Char.le_def,
        UInt32.le_iff_toNat_le] at letter
      simp only [isSpace, Bool.or_eq_true, Bool.and_eq_true, decide_eq_true_eq, beq_iff_eq,
        Char.toNat] at space
      have first : 'A'.val.toNat = 65 := rfl
      have last : 'Z'.val.toNat = 90 := rfl
      omega
  have special (d : Char) (shown : isSpace d = false) : c ≠ d := by
    intro same
    rw [same, shown] at space
    cases space
  simp [foldLetter, asciiLower, upper, special '\u0130' (by decide), special '\u0131' (by decide),
    special '\u017f' (by decide), special '\u212a' (by decide)]

theorem matchesLetter_space {letter c : Char} (visible : isSpace (asciiLower letter) = false)
    (space : isSpace c = true) : matchesLetter letter c = false := by
  rw [matchesLetter, foldLetter_space space, beq_eq_false_iff_ne]
  intro same
  rw [same, visible] at space
  cases space

/-- A word that matches no white space. -/
def Solid (word : String) : Prop := ∀ letter ∈ word.toList, isSpace (asciiLower letter) = false

instance (word : String) : Decidable (Solid word) :=
  List.decidableBAll (fun letter => isSpace (asciiLower letter) = false) word.toList

section

variable {dotted : Prop} {free : Char → Bool}

theorem spell_blind {letters : List Char}
    (solid : ∀ letter ∈ letters, isSpace (asciiLower letter) = false) :
    Blind isSpace dotted free (spell letters) := by
  induction letters with
  | nil => exact .many fun _ _ => rfl
  | cons letter rest ih =>
    have visible (c : Char) (space : isSpace c = true) : matchesLetter letter c = false :=
      matchesLetter_space (solid letter List.mem_cons_self) space
    refine .seq (.one visible) ?_ (Or.inl visible)
    exact ih fun d later => solid d (List.mem_cons_of_mem letter later)

theorem spell_visible {letters : List Char}
    (solid : ∀ letter ∈ letters, isSpace (asciiLower letter) = false) :
    (spell letters).Visible isSpace := by
  induction letters with
  | nil => exact fun _ _ => rfl
  | cons letter rest ih =>
    exact ⟨fun c space => matchesLetter_space (solid letter List.mem_cons_self) space,
      ih fun d later => solid d (List.mem_cons_of_mem letter later)⟩

namespace SafetyPattern

theorem wholeWord_blind {lead : String} (solid : Solid lead) :
    Blind isSpace dotted free (wholeWord lead).rx :=
  .seq .boundary (.seq (spell_blind solid) .boundary (Or.inr trivial)) (Or.inl trivial)

theorem twoWords_blind {lead second : String} (solid : Solid lead) (also : Solid second) :
    Blind isSpace dotted free (twoWords lead second).rx :=
  .seq .boundary (.seq (spell_blind solid)
    (.seq .someBlanks (.seq (spell_blind also) .boundary (Or.inr trivial))
      (Or.inr ⟨spell_visible also, trivial⟩))
    (Or.inl (spell_visible solid))) (Or.inl trivial)

theorem call_blind {lead : String} (solid : Solid lead) :
    Blind isSpace dotted free (call lead).rx :=
  have visible (c : Char) (space : isSpace c = true) : matchesLetter '(' c = false :=
    matchesLetter_space (by decide) space
  .seq .boundary (.seq (spell_blind solid) (.seq .blanks (.one visible) (Or.inr visible))
    (Or.inl (spell_visible solid))) (Or.inl trivial)

theorem anyOf_blind {first : String} {rest : List String} (solid : Solid first)
    (others : ∀ word ∈ rest, Solid word) : Blind isSpace dotted free (anyOf first rest) := by
  induction rest generalizing first with
  | nil => exact spell_blind solid
  | cons second rest ih =>
    exact .either (spell_blind solid) (ih (others second List.mem_cons_self) fun word later =>
      others word (List.mem_cons_of_mem second later))

theorem anyOf_visible {first : String} {rest : List String} (solid : Solid first)
    (others : ∀ word ∈ rest, Solid word) : (anyOf first rest).Visible isSpace := by
  induction rest generalizing first with
  | nil => exact spell_visible solid
  | cons second rest ih =>
    exact ⟨spell_visible solid, ih (others second List.mem_cons_self) fun word later =>
      others word (List.mem_cons_of_mem second later)⟩

theorem acrossRx_blind (allowed : dotted) {lead first : String}
    {rest : List String} (solid : Solid lead) (firstSolid : Solid first)
    (others : ∀ word ∈ rest, Solid word) :
    Blind isSpace dotted free (acrossRx free lead first rest) :=
  .seq .boundary (.seq (spell_blind solid) (.seq .boundary (.seq (.dot allowed)
    (.seq .boundary (.seq (anyOf_blind firstSolid others) .boundary (Or.inr trivial))
      (Or.inl trivial)) (Or.inr ⟨trivial, anyOf_visible firstSolid others, trivial⟩))
    (Or.inl trivial)) (Or.inl (spell_visible solid))) (Or.inl trivial)

end SafetyPattern

end

open SafetyPattern (acrossRx wholeWord_blind twoWords_blind call_blind acrossRx_blind)

def safetyPatterns : List SafetyPattern := unsafePatterns ++ mutationCommandPatterns

/-- All but the patterns with a dot see white space as it is. -/
theorem safetyPattern_blind {p : SafetyPattern} (member : p ∈ safetyPatterns) :
    Blind isSpace False notNewline p.rx ∨ p = archiveAcross ∨ p = modifyAcross ∨
      p = thresholdAcross := by
  revert p
  simp only [safetyPatterns, unsafePatterns, mutationCommandPatterns, List.cons_append,
    List.nil_append, List.forall_mem_cons]
  exact ⟨.inl (wholeWord_blind (by decide)), .inl (wholeWord_blind (by decide)),
    .inl (twoWords_blind (by decide) (by decide)), .inl (twoWords_blind (by decide) (by decide)),
    .inl (twoWords_blind (by decide) (by decide)), .inl (twoWords_blind (by decide) (by decide)),
    .inr (.inl trivial), .inl (wholeWord_blind (by decide)), .inl (wholeWord_blind (by decide)),
    .inl (wholeWord_blind (by decide)), .inl (wholeWord_blind (by decide)),
    .inl (wholeWord_blind (by decide)), .inl (twoWords_blind (by decide) (by decide)),
    .inr (.inr (.inl trivial)), .inl (wholeWord_blind (by decide)),
    .inl (twoWords_blind (by decide) (by decide)), .inr (.inr (.inr trivial)),
    .inl (call_blind (by decide)), .inl (call_blind (by decide)), .inl (call_blind (by decide)),
    .inl (call_blind (by decide)), by simp⟩

theorem safetyPattern_blind_dotted {p : SafetyPattern} (member : p ∈ safetyPatterns) :
    Blind isSpace True notNewline p.rx := by
  rcases safetyPattern_blind member with blind | same | same | same
  · exact blind.mono False.elim
  · rw [same]
    exact acrossRx_blind trivial (by decide) (by decide) (by decide)
  · rw [same]
    exact acrossRx_blind trivial (by decide) (by decide) (by decide)
  · rw [same]
    exact acrossRx_blind trivial (by decide) (by decide) (by decide)

/-! ### Where a pattern can begin -/

/-- Some text that begins so, or goes on from so, begins with the word. -/
def agrees : List Char → List Char → Bool
  | letter :: word, c :: text => matchesLetter letter c && agrees word text
  | _, _ => true

theorem agrees_append {letters first second : List Char}
    (agree : agrees letters (first ++ second) = true) : agrees letters first = true := by
  induction letters generalizing first with
  | nil => cases first <;> rfl
  | cons letter rest ih =>
    cases first with
    | nil => rfl
    | cons c text =>
      simp only [List.cons_append, agrees, Bool.and_eq_true] at agree ⊢
      exact ⟨agree.1, ih agree.2⟩

/-- A spelled word that was found at a place is spelled there, whatever follows. -/
theorem spell_agrees {word : Char → Bool} {letters left stretch right : List Char}
    (accepted : accepts word (spell letters) left stretch right = true) (after : List Char) :
    agrees letters (stretch ++ after) = true ∧ stretch.length = letters.length := by
  induction letters generalizing left stretch with
  | nil =>
    cases stretch with
    | nil => exact ⟨by cases after <;> rfl, rfl⟩
    | cons c rest => simp [spell, accepts] at accepted
  | cons letter rest ih =>
    obtain ⟨first, others, split, one, more⟩ := accepts_seq_iff.mp accepted
    simp only [accepts, Bool.and_eq_true, decide_eq_true_eq] at one
    obtain ⟨c, rfl⟩ := List.length_eq_one_iff.mp one.1
    obtain ⟨agree, size⟩ := ih more
    subst split
    refine ⟨?_, ?_⟩
    · simp only [List.cons_append, agrees, Bool.and_eq_true]
      exact ⟨by simpa using one.2, agree⟩
    · simp [size]

/-- No pattern begins in the text. -/
def silent (text : List Char) : Bool :=
  safetyPatterns.all fun p => text.tails.all fun rest => rest.isEmpty || !agrees p.lead.toList rest

/-- A match in a text that goes on from a silent one lies in what follows. -/
theorem match_after_silent {words : WordClass} {p : SafetyPattern} (member : p ∈ safetyPatterns)
    {opening rest left stretch right : List Char} (quiet : silent opening = true)
    (separate : lastWord words.word opening = false)
    (shape : opening ++ rest = left ++ stretch ++ right)
    (accepted : accepts words.word p.rx left stretch right = true) :
    ∃ left', rest = left' ++ stretch ++ right ∧
      accepts words.word p.rx left' stretch right = true := by
  rw [List.append_assoc] at shape
  rcases List.append_eq_append_iff.mp shape with ⟨left', before, after⟩ | ⟨begun, before, after⟩
  · refine ⟨left', by rw [after, List.append_assoc], accepts_surroundings ?_ rfl accepted⟩
    rw [before, lastWord_append]
    split
    next empty =>
      rw [empty, separate]
      rfl
    next => rfl
  · by_cases empty : begun = []
    · subst empty
      rw [List.append_nil] at before
      rw [List.nil_append] at after
      refine ⟨[], after.symm, accepts_surroundings ?_ rfl accepted⟩
      rw [← before, separate]
      rfl
    · exfalso
      obtain ⟨bound, others, split, atBound, spelled⟩ := accepts_seq_iff.mp accepted
      obtain ⟨lead, tail, splitOthers, word, _⟩ := accepts_seq_iff.mp spelled
      simp only [accepts, Bool.and_eq_true, List.isEmpty_iff] at atBound
      rw [atBound.1, List.nil_append] at split
      rw [split, splitOthers, List.append_assoc] at after
      have agree := (spell_agrees word (tail ++ right)).1
      rw [after] at agree
      have agree := agrees_append agree
      simp only [silent, List.all_eq_true, Bool.or_eq_true, Bool.not_eq_true', List.mem_tails,
        List.isEmpty_iff] at quiet
      have disagree := quiet p member begun ⟨left, before.symm⟩
      rw [agree] at disagree
      exact disagree.elim empty (by simp)

theorem lead_nonempty {p : SafetyPattern} (member : p ∈ safetyPatterns) : p.lead.toList ≠ [] := by
  have all : (safetyPatterns.all fun p => decide (p.lead.toList ≠ [])) = true := by decide
  exact of_decide_eq_true (List.all_eq_true.mp all p member)

/-! ### Ambiguous requests -/

/-- `\b(change|update|fix)\b.*\btask`. -/
def changeTask : Rx Char :=
  .seq .boundary (.seq (anyOf "change" ["update", "fix"]) (.seq .boundary
    (.seq (.many notNewline) (.seq .boundary (spell "task".toList)))))

def ambiguousPatterns : List (Rx Char) :=
  [.seq .boundary (.seq (spell "maybe".toList)
      (.seq .boundary (.seq (.many notNewline) changeTask))),
    changeTask,
    .seq .boundary (.seq (spell "not sure".toList) .boundary),
    .seq .boundary (.seq (spell "somehow".toList) .boundary)]

/-! ## Texts -/

/-- `" ".join(text.split())`. -/
def collapse (text : List Char) : List Char := join ' ' (splitChars [] text)

/-- A text is its words between blanks; of each gap one blank is kept. -/
theorem splitChars_spaced (word text : List Char) (visible : ∀ c ∈ word, isSpace c = false) :
    ∃ opening core closing, word.reverse ++ text = opening ++ core ++ closing ∧
      (∀ c ∈ opening, isSpace c = true) ∧ (∀ c ∈ closing, isSpace c = true) ∧
      (word ≠ [] → opening = []) ∧ (∀ c ∈ core.head?, isSpace c = false) ∧
      Spaced isSpace ' ' core (join ' ' (splitChars word text)) := by
  induction text generalizing word with
  | nil =>
    refine ⟨[], word.reverse, [], by simp, by simp, by simp, fun _ => rfl, fun c first =>
      visible c (List.mem_reverse.mp (List.mem_of_mem_head? first)), ?_⟩
    have kept : join ' ' (splitChars word []) = word.reverse := by
      cases word with
      | nil => rfl
      | cons c rest => rfl
    rw [kept]
    exact spaced_of_visible fun c member => visible c (List.mem_reverse.mp member)
  | cons c rest ih =>
    by_cases space : isSpace c = true
    · obtain ⟨opening, core, closing, split, opens, closes, _, first, spaced⟩ := ih [] (by simp)
      rw [List.reverse_nil, List.nil_append] at split
      cases word with
      | nil =>
        refine ⟨c :: opening, core, closing, ?_, ?_, closes, by simp, first, ?_⟩
        · rw [split]
          rfl
        · intro d member
          rcases List.mem_cons.mp member with same | later
          · rw [same, space]
          · exact opens d later
        · simpa only [splitChars, space, if_true, List.isEmpty_nil] using spaced
      | cons d word =>
        have kept : Spaced isSpace ' ' (d :: word).reverse (d :: word).reverse :=
          spaced_of_visible fun c member => visible c (List.mem_reverse.mp member)
        have starts (after : List Char) : ∀ c ∈ ((d :: word).reverse ++ after).head?,
            isSpace c = false := by
          intro e head
          rw [List.head?_append_of_ne_nil _ (by simp)] at head
          exact visible e (List.mem_reverse.mp (List.mem_of_mem_head? head))
        have unfolded : splitChars (d :: word) (c :: rest) =
            (d :: word).reverse :: splitChars [] rest := by
          simp only [splitChars, space, if_true, List.isEmpty_cons, if_false, Bool.false_eq_true]
        rw [unfolded]
        by_cases last : splitChars [] rest = []
        · rw [last] at spaced ⊢
          have empty := spaced.eq_nil_iff.mpr rfl
          refine ⟨[], (d :: word).reverse, c :: rest, by simp, by simp, ?_, fun _ => rfl, ?_, kept⟩
          rotate_left
          · simpa only [List.append_nil] using starts []
          intro e member
          rcases List.mem_cons.mp member with same | later
          · rw [same, space]
          · rw [split, empty, List.append_nil] at later
            rcases List.mem_append.mp later with before | after
            · exact opens e before
            · exact closes e after
        · rw [join_cons _ last]
          refine ⟨[], (d :: word).reverse ++ ((c :: opening) ++ core), closing, ?_, by simp, closes,
            fun _ => rfl, starts _, ?_⟩
          · rw [split]
            simp
          · refine kept.append (.gap (by simp) ?_ spaced)
            intro e member
            rcases List.mem_cons.mp member with same | later
            · rw [same, space]
            · exact opens e later
    · have shown : isSpace c = false := by simpa using space
      obtain ⟨opening, core, closing, split, opens, closes, flush, first, spaced⟩ :=
          ih (c :: word) (by
        intro d member
        rcases List.mem_cons.mp member with same | earlier
        · rw [same, shown]
        · exact visible d earlier)
      refine ⟨opening, core, closing, ?_, opens, closes, fun _ => flush (by simp), first, ?_⟩
      · rw [← split]
        simp
      · simpa only [splitChars, shown, if_false, Bool.false_eq_true] using spaced

theorem collapse_spaced (text : List Char) :
    ∃ opening core closing, text = opening ++ core ++ closing ∧
      (∀ c ∈ opening, isSpace c = true) ∧ (∀ c ∈ closing, isSpace c = true) ∧
      (∀ c ∈ core.head?, isSpace c = false) ∧ Spaced isSpace ' ' core (collapse text) := by
  obtain ⟨opening, core, closing, split, opens, closes, _, first, spaced⟩ :=
    splitChars_spaced [] text (by simp)
  exact ⟨opening, core, closing, split, opens, closes, first, spaced⟩

/-- A collapsed text does not begin with a blank. -/
theorem collapse_head {text : List Char} {c : Char} (first : c ∈ (collapse text).head?) :
    isSpace c = false := by
  obtain ⟨_, core, _, _, _, _, visible, spaced⟩ := collapse_spaced text
  generalize collapse text = collapsed at first spaced
  cases spaced with
  | nil => cases first
  | element shown =>
    cases first
    exact shown
  | @gap run original rest nonempty blanks =>
    obtain ⟨d, more, shape⟩ := List.exists_cons_of_ne_nil nonempty
    subst shape
    have blank := blanks d List.mem_cons_self
    rw [visible d rfl] at blank
    cases blank

theorem collapse_plain {text : List Char} {c : Char} (member : c ∈ collapse text) :
    notNewline c = true := by
  obtain ⟨_, _, _, _, _, _, _, spaced⟩ := collapse_spaced text
  rw [notNewline, bne_iff_ne]
  intro newline
  subst newline
  have gap := spaced.blank_eq_gap member (by decide)
  exact absurd gap (by decide)

theorem collapse_length (text : List Char) : (collapse text).length ≤ text.length := by
  obtain ⟨opening, core, closing, split, _, _, _, spaced⟩ := collapse_spaced text
  have shorter := spaced.length_le
  have parts := congrArg List.length split
  rw [List.length_append, List.length_append] at parts
  omega

/-- `text.rfind(part)`; `none` is -1. -/
def rfind (part text : List Char) : Option Nat :=
  ((List.range (text.length + 1)).filter fun i => part.isPrefixOf (text.drop i)).getLast?

/-- The last occurrence of `part`, if it lies in the second half. -/
def lateIndex (limit : Nat) (cut part : List Char) : Option Nat :=
  match rfind part cut with
  | none => none
  | some index => if limit / 2 < index then some index else none

def maxReasoningLength : Nat := 420

/-- Where `_bound_text` ends the first `limit` characters. -/
def cutLength (limit : Nat) (cut : List Char) : Nat :=
  match [['.', ' '], ['!', ' '], ['?', ' ']].findSome? (lateIndex limit cut) with
  | some index => index + 1
  | none =>
    match lateIndex limit cut [' '] with
    | some index => index
    | none => cut.length

def boundText (limit : Nat) (text : List Char) : List Char :=
  let compact := collapse text
  if compact.length ≤ limit then compact
  else
    let cut := compact.take limit
    trimChars isSpace (cut.take (cutLength limit cut))

/-- What is kept of a text begins its collapsed form. -/
theorem boundText_append (limit : Nat) (text : List Char) :
    ∃ rest, collapse text = boundText limit text ++ rest := by
  unfold boundText
  dsimp only
  split
  · exact ⟨[], by simp⟩
  · generalize cutLength limit ((collapse text).take limit) = size
    have visible : ∀ c ∈ (((collapse text).take limit).take size).head?, isSpace c = false := by
      intro c first
      refine collapse_head (?_ : c ∈ (collapse text).head?)
      rw [List.take_take] at first
      cases shape : collapse text with
      | nil => simp [shape] at first
      | cons d rest =>
        cases amount : min size limit with
        | zero => simp [amount] at first
        | succ n => simpa [shape, amount] using first
    obtain ⟨trimmed, split⟩ := trimChars_append_of_head visible
    refine ⟨trimmed ++ (collapse text).drop (min size limit), ?_⟩
    rw [← List.append_assoc, ← split, List.take_take, List.take_append_drop]

theorem boundText_length (limit : Nat) (text : List Char) :
    (boundText limit text).length ≤ limit := by
  unfold boundText
  dsimp only
  split
  next short => exact short
  next =>
    have shorter := trimChars_length isSpace
      (((collapse text).take limit).take (cutLength limit ((collapse text).take limit)))
    rw [List.length_take, List.length_take] at shorter
    omega

theorem boundText_of_short {limit : Nat} {text : List Char} (short : text.length ≤ limit) :
    boundText limit text = collapse text := by
  have fits := (collapse_length text).trans short
  simp [boundText, fits]

def endsSentence (c : Char) : Bool := c == '.' || c == '\n'

/-- `re.split` at runs of a class; `piece` is the piece being read, in reverse, and the
flag tells that a run is being read. -/
def splitRuns (p : Char → Bool) : Bool → List Char → List Char → List (List Char)
  | _, piece, [] => [piece.reverse]
  | inRun, piece, c :: rest =>
    if p c then
      if inRun then splitRuns p true [] rest else piece.reverse :: splitRuns p true [] rest
    else splitRuns p false (c :: piece) rest

/-- A piece lies between runs of the class, or the ends of the text. -/
theorem splitRuns_piece {p : Char → Bool} {text piece chunk : List Char} {inRun : Bool}
    (outside : ∀ c ∈ piece, p c = false) (fresh : inRun = true → piece = [])
    (member : chunk ∈ splitRuns p inRun piece text) :
    ∃ before after, piece.reverse ++ text = before ++ chunk ++ after ∧
      (∀ c ∈ before.getLast?, p c = true) ∧ (∀ c ∈ after.head?, p c = true) ∧
      ∀ c ∈ chunk, p c = false := by
  induction text generalizing piece inRun with
  | nil =>
    obtain rfl := List.mem_singleton.mp member
    exact ⟨[], [], by simp, by simp, by simp, fun c inside =>
      outside c (List.mem_reverse.mp inside)⟩
  | cons c rest ih =>
    by_cases separates : p c = true
    · -- Whatever comes later starts after a run that this character belongs to.
      have later (found : chunk ∈ splitRuns p true [] rest) :
          ∃ before after, piece.reverse ++ c :: rest = before ++ chunk ++ after ∧
            (∀ c ∈ before.getLast?, p c = true) ∧ (∀ c ∈ after.head?, p c = true) ∧
            ∀ c ∈ chunk, p c = false := by
        obtain ⟨before, after, split, closes, opens, free⟩ := ih (by simp) (by simp) found
        refine ⟨piece.reverse ++ c :: before, after, ?_, ?_, opens, free⟩
        · rw [List.reverse_nil, List.nil_append] at split
          rw [split]
          simp
        · intro d last
          cases shape : before.getLast? with
          | none =>
            rw [List.getLast?_eq_none_iff.mp shape] at last
            simp only [List.getLast?_append, List.getLast?_singleton, Option.some_or,
              Option.mem_some_iff] at last
            rw [← last, separates]
          | some e =>
            apply closes
            simpa [List.getLast?_append, List.getLast?_cons, shape] using last
      simp only [splitRuns, separates, if_true] at member
      split at member
      · exact later member
      · rcases List.mem_cons.mp member with same | found
        · subst same
          refine ⟨[], c :: rest, by simp, by simp, ?_, fun d inside =>
            outside d (List.mem_reverse.mp inside)⟩
          intro d head
          cases head
          exact separates
        · exact later found
    · have inside : p c = false := by simpa using separates
      simp only [splitRuns, inside, if_false, Bool.false_eq_true] at member
      have grown : ∀ d ∈ c :: piece, p d = false := by
        intro d among
        rcases List.mem_cons.mp among with same | earlier
        · rw [same, inside]
        · exact outside d earlier
      obtain ⟨before, after, split, closes, opens, free⟩ := ih grown (by simp) member
      refine ⟨before, after, ?_, closes, opens, free⟩
      rw [← split]
      simp

def extractSteps (text : List Char) : List (List Char) :=
  (((splitRuns endsSentence false [] text).map collapse).filter (· ≠ [])).take 5

/-- A step is a collapsed piece of the text. -/
theorem mem_extractSteps {text step : List Char} (member : step ∈ extractSteps text) :
    ∃ before piece after, text = before ++ piece ++ after ∧ step = collapse piece ∧
      (∀ c ∈ before.getLast?, endsSentence c = true) ∧
      (∀ c ∈ after.head?, endsSentence c = true) ∧ ∀ c ∈ piece, endsSentence c = false := by
  have kept := List.mem_of_mem_filter (List.mem_of_mem_take member)
  obtain ⟨piece, found, same⟩ := List.mem_map.mp kept
  obtain ⟨before, after, split, closes, opens, free⟩ :=
    splitRuns_piece (by simp) (by simp) found
  exact ⟨before, piece, after, split, same.symm, closes, opens, free⟩

/-! ## Engine -/

structure StructuredReasoningOutput where
  summary : String
  strategySteps : List String
  safeToPresent : Bool
  blockedReason : Option String
  deriving DecidableEq

def advisoryOnlyMessage : String :=
  "This is an explanation only. Actions require user confirmation."

def lowEnergySummaryPrefix : String := "Low-energy strategy:"

/-- The safe part of the context; the order of the keys is only seen in the prompt. -/
def sanitizeContext (context : Dict) : Dict :=
  ["goal", "constraints", "horizon_days", "priorities", "notes", "low_energy"].filterMap fun key =>
    (context.lookup key).map fun value => (key, value)

def requestText (py : Runtime) (context : Dict) : Except Exc String := do
  let goal ← str py (Dict.getD context "goal" (.str ""))
  let notes ← str py (Dict.getD context "notes" (.str ""))
  let constraints ← str py (Dict.getD context "constraints" (.str ""))
  return strip (goal ++ " " ++ notes ++ " " ++ constraints)

def isAmbiguousRequest (words : WordClass) (py : Runtime) (context : Dict) : Except Exc Bool := do
  let text ← requestText py context
  if text = "" then return false
  else return ambiguousPatterns.any fun rx => found words.word rx text.toList

def buildPrompt (py : Runtime) (context : Dict) : Except Exc String := do
  let shown ← str py (.dict context)
  return "Generate concise advisory strategy for the provided context only.\n" ++
    "Context: " ++ shown ++ "\n" ++
    "Do not output commands, lifecycle operations, or deletion instructions."

def findUnsafeReason (words : WordClass) (text : List Char) : Option String :=
  (unsafePatterns.find? fun p => p.matchesText words text).map fun p =>
    "UNSAFE_TOKEN:" ++ p.pattern

def hasMutationCommand (words : WordClass) (text : List Char) : Bool :=
  mutationCommandPatterns.any fun p => p.matchesText words text

def bounded (text : String) : String := String.ofList (boundText maxReasoningLength text.toList)

def compressLowEnergyOutput (steps : List (List Char)) : StructuredReasoningOutput :=
  match steps with
  | [] =>
    ⟨bounded (lowEnergySummaryPrefix ++ " Keep one priority and defer optional work."), [], true,
      none⟩
  | first :: _ =>
    let compactStep := String.ofList (boundText 140 first)
    ⟨bounded (lowEnergySummaryPrefix ++ " " ++ compactStep), [compactStep], true, none⟩

def noStrategy : String := "No strategy available."

/-- The rest of `generate_strategy`, from the client's answer on. -/
def present (words : WordClass) (raw : String) (lowEnergy : Bool) : StructuredReasoningOutput :=
  if hasMutationCommand words raw.toList then ⟨bounded advisoryOnlyMessage, [], true, none⟩
  else
    match findUnsafeReason words raw.toList with
    | some reason => ⟨bounded advisoryOnlyMessage, [], false, some reason⟩
    | none =>
      let steps := extractSteps (boundText maxReasoningLength raw.toList)
      if lowEnergy then compressLowEnergyOutput steps
      else
        ⟨((steps.head?).map String.ofList).getD noStrategy, steps.map String.ofList, true, none⟩

/-- What comes of a request before an answer is looked at. -/
inductive Consultation where
  | ambiguous
  | failed
  | answered (raw : String)

def consult (words : WordClass) (py : Runtime) (client : String → Option String)
    (context : Dict) : Except Exc Consultation := do
  if ← isAmbiguousRequest words py context then return .ambiguous
  else
    let prompt ← buildPrompt py context
    match client prompt with
    | none => return .failed
    | some raw => return .answered raw

def lowEnergy (context : Dict) : Bool := (Dict.getD context "low_energy" (.bool false)).truthy

def generateStrategy (words : WordClass) (py : Runtime) (client : String → Option String)
    (context : Dict) : Except Exc StructuredReasoningOutput := do
  let safeContext := sanitizeContext context
  match ← consult words py client safeContext with
  | .ambiguous =>
    return ⟨advisoryOnlyMessage,
      ["Clarify your exact objective before requesting strategy output."], true, none⟩
  | .failed =>
    return ⟨"Strategy generation is temporarily unavailable.", [], false, some "LLM_FAILURE"⟩
  | .answered raw => return present words raw (lowEnergy safeContext)

end Apcos.Source.Cognition
