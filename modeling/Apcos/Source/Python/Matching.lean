import Apcos.Source.Python.Patterns

/-!
# Matches of the `re` building blocks

What the keywords, classes and anchors of the `re` patterns take from a text, and which
characters a keyword letter stands for.
-/
namespace Apcos.Source.Python

open Apcos.Lib.Regex

/-! ## Letters -/

theorem isSpace_toNat {c : Char} (blank : isSpace c = true) :
    (9 ≤ c.toNat ∧ c.toNat ≤ 13) ∨ (28 ≤ c.toNat ∧ c.toNat ≤ 32) ∨ 0x85 ≤ c.toNat ∧
      c.toNat ≠ 0x130 ∧ c.toNat ≠ 0x131 ∧ c.toNat ≠ 0x17f ∧ c.toNat ≠ 0x212a := by
  simp only [isSpace, Bool.or_eq_true, Bool.and_eq_true, decide_eq_true_eq, beq_iff_eq] at blank
  omega

theorem isAsciiUpper_iff (c : Char) :
    isAsciiUpper c = true ↔ 65 ≤ c.toNat ∧ c.toNat ≤ 90 := by
  simp only [isAsciiUpper, Bool.and_eq_true, decide_eq_true_eq, Char.le_def, UInt32.le_iff_toNat_le]
  exact Iff.rfl

theorem toNat_ofNat {n : Nat} (ascii : n < 128) : (Char.ofNat n).toNat = n := by
  have valid : n.isValidChar := Or.inl (by omega)
  rw [Char.ofNat, dif_pos valid]
  rfl

theorem asciiLower_eq {c : Char} (other : isAsciiUpper c = false) : asciiLower c = c := by
  rw [asciiLower, other]
  rfl

theorem toNat_ne {c d : Char} (different : c.toNat ≠ d.toNat) : c ≠ d :=
  fun same => different (congrArg Char.toNat same)

/-- White space is the case variant of itself only. -/
theorem foldLetter_space {c : Char} (blank : isSpace c = true) : foldLetter c = c := by
  have code := isSpace_toNat blank
  have i₁ : c ≠ '\u0130' := toNat_ne (by change c.toNat ≠ 0x130; omega)
  have i₂ : c ≠ '\u0131' := toNat_ne (by change c.toNat ≠ 0x131; omega)
  have s : c ≠ '\u017f' := toNat_ne (by change c.toNat ≠ 0x17f; omega)
  have k : c ≠ '\u212a' := toNat_ne (by change c.toNat ≠ 0x212a; omega)
  have upper : isAsciiUpper c = false := by
    rw [← Bool.not_eq_true, isAsciiUpper_iff]
    omega
  simp only [foldLetter, i₁, i₂, s, k, or_self, if_false, asciiLower_eq upper]

/-- Apart from `i`, `s` and `k` a letter stands for its two ASCII cases. -/
theorem asciiLower_of_fold {c letter : Char} (folded : foldLetter c = letter)
    (plain : letter ≠ 'i' ∧ letter ≠ 's' ∧ letter ≠ 'k') : asciiLower c = letter := by
  unfold foldLetter at folded
  split at folded
  · exact absurd folded.symm plain.1
  split at folded
  · exact absurd folded.symm plain.2.1
  split at folded
  · exact absurd folded.symm plain.2.2
  · exact folded

theorem toNat_of_asciiLower {c letter : Char} (lowered : asciiLower c = letter) :
    c = letter ∨ (65 ≤ c.toNat ∧ c.toNat ≤ 90 ∧ letter.toNat = c.toNat + 32) := by
  unfold asciiLower at lowered
  split at lowered
  · rename_i upper
    rw [isAsciiUpper_iff] at upper
    right
    refine ⟨upper.1, upper.2, ?_⟩
    rw [← lowered]
    exact toNat_ofNat (by omega)
  · exact Or.inl lowered

/-- The two cases of an ASCII letter are no digits. -/
theorem decimal_of_fold (py : Runtime) {c letter : Char} (folded : foldLetter c = letter)
    (plain : letter ≠ 'i' ∧ letter ≠ 's' ∧ letter ≠ 'k')
    (lower : 97 ≤ letter.toNat ∧ letter.toNat ≤ 122) : py.decimal c = none := by
  have code : c.toNat < 128 ∧ 57 < c.toNat := by
    rcases toNat_of_asciiLower (asciiLower_of_fold folded plain) with rfl | upper
    · omega
    · omega
  rw [py.decimal_ascii c code.1, if_neg]
  intro ⟨_, small⟩
  have within : c.toNat ≤ 57 := small
  omega

/-! ## Keywords -/

/-- The characters are the word, up to case. -/
def Spelled (word : String) (cs : List Char) : Prop := cs.map foldLetter = word.toList

instance (word : String) (cs : List Char) : Decidable (Spelled word cs) :=
  inferInstanceAs (Decidable (_ = _))

theorem Spelled.mem {word : String} {cs : List Char} (spelled : Spelled word cs) {c : Char}
    (member : c ∈ cs) : foldLetter c ∈ word.toList := by
  have mapped : foldLetter c ∈ cs.map foldLetter := List.mem_map.mpr ⟨c, member, rfl⟩
  rwa [show cs.map foldLetter = word.toList from spelled] at mapped

/-- A keyword without white space is spelled without white space. -/
theorem Spelled.solid {word : String} {cs : List Char} (spelled : Spelled word cs)
    (plain : ∀ letter ∈ word.toList, isSpace letter = false) : ∀ c ∈ cs, isSpace c = false := by
  intro c member
  by_contra blank
  rw [Bool.not_eq_false] at blank
  have letter := plain (foldLetter c) (spelled.mem member)
  rw [foldLetter_space blank, blank] at letter
  cases letter

theorem Spelled.visible {word : String} {cs : List Char} (spelled : Spelled word cs)
    (some : word ≠ "") : cs ≠ [] := by
  rintro rfl
  exact some (String.toList_eq_nil_iff.mp (show word.toList = [] from spelled.symm))

theorem Spelled.length {word : String} {cs : List Char} (spelled : Spelled word cs) :
    cs.length = word.toList.length := by
  rw [← show cs.map foldLetter = word.toList from spelled, List.length_map]

/-- A text matches a word letter by letter when it is the word after folding. -/
theorem forall₂_caseless {letters taken : List Char}
    (lower : ∀ letter ∈ letters, asciiLower letter = letter) :
    List.Forall₂ (fun (p : Char → Bool) c => p c = true)
      (letters.map fun letter c => foldLetter c == asciiLower letter) taken ↔
        taken.map foldLetter = letters := by
  induction letters generalizing taken with
  | nil => simp
  | cons letter rest ih =>
    have same := lower letter List.mem_cons_self
    cases taken with
    | nil => simp
    | cons c others =>
      simp [same, ih fun l member => lower l (List.mem_cons_of_mem letter member)]

theorem mem_search_caselessWord {word : String}
    (lower : ∀ letter ∈ word.toList, asciiLower letter = letter) {found after : Found Char} :
    after ∈ search (caselessWord word) found ↔ ∃ taken rest,
      found.rest = taken ++ rest ∧ Spelled word taken ∧ after = ⟨found.captures, rest⟩ := by
  have classes : caselessWord word = chain
      ((word.toList.map fun letter c => foldLetter c == asciiLower letter).map .one) := by
    rw [caselessWord, List.map_map]
    rfl
  rw [classes, mem_search_chain_one]
  simp only [forall₂_caseless lower, Spelled]

/-! ## Classes and anchors -/

theorem mem_search_spaces {found after : Found Char} :
    after ∈ search spaces found ↔ ∃ taken rest, found.rest = taken ++ rest ∧
      (∀ c ∈ taken, isSpace c = true) ∧ after = ⟨found.captures, rest⟩ := by
  simp [spaces, mem_search_run]

theorem mem_search_someSpaces {found after : Found Char} :
    after ∈ search someSpaces found ↔ ∃ taken rest, found.rest = taken ++ rest ∧
      (∀ c ∈ taken, isSpace c = true) ∧ taken ≠ [] ∧ after = ⟨found.captures, rest⟩ := by
  simp [someSpaces, mem_search_run, Nat.one_le_iff_ne_zero]

theorem mem_search_digits {py : Runtime} {least most : Nat} {found after : Found Char} :
    after ∈ search (digits py least most) found ↔ ∃ taken rest, found.rest = taken ++ rest ∧
      (∀ c ∈ taken, (py.decimal c).isSome = true) ∧ least ≤ taken.length ∧
      taken.length ≤ most ∧ after = ⟨found.captures, rest⟩ := by
  simp [digits, mem_search_run]

theorem mem_search_anyText {reluctant : Bool} {found after : Found Char} :
    after ∈ search (anyText reluctant) found ↔ ∃ taken rest, found.rest = taken ++ rest ∧
      (∀ c ∈ taken, c ≠ '\n') ∧ taken ≠ [] ∧ after = ⟨found.captures, rest⟩ := by
  simp [anyText, mem_search_run, Nat.one_le_iff_ne_zero]

theorem mem_search_literal {letter : Char} {found after : Found Char} :
    after ∈ search (literal letter) found ↔ ∃ rest, found.rest = letter :: rest ∧
      after = ⟨found.captures, rest⟩ := by
  simp [literal, mem_search_one]

theorem mem_search_atEnd {found after : Found Char} :
    after ∈ search atEnd found ↔ (found.rest = [] ∨ found.rest = ['\n']) ∧ after = found := by
  simp [atEnd, mem_search_look]

end Apcos.Source.Python
