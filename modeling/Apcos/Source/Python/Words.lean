import Apcos.Lib.Words
import Apcos.Source.Python.Text

/-!
# Words of a string

`" ".join(text.split())` is the normal form of a text up to the white space around and
between its words.
-/
namespace Apcos.Source.Python

open Apcos.Lib.Words

/-- The words of a text as character lists. -/
def wordsOf (s : String) : List (List Char) := fields isSpace [] s.toList

theorem splitChars_eq (word cs : List Char) : splitChars word cs = fields isSpace word cs := by
  induction cs generalizing word with
  | nil => rfl
  | cons c rest ih => rw [splitChars, fields, ih, ih]

theorem split_eq (s : String) : split s = (wordsOf s).map String.ofList := by
  rw [split, splitChars_eq, wordsOf]

theorem map_toList_split (s : String) : (split s).map String.toList = wordsOf s := by
  rw [split_eq, List.map_map]
  exact (List.map_congr_left fun w _ => String.toList_ofList).trans (List.map_id _)

theorem wordsOf_isWord (s : String) : ∀ word ∈ wordsOf s, IsWord isSpace word :=
  fields_isWord [] s.toList (by simp)

/-- `" ".join(words)`. -/
def joined (words : List String) : String := " ".intercalate words

theorem toList_joined (words : List String) :
    (joined words).toList = join ' ' (words.map String.toList) := by
  rw [joined, String.toList_intercalate, join_eq_intercalate]
  rfl

theorem wordsOf_strip (s : String) : wordsOf (strip s) = wordsOf s := by
  obtain ⟨before, after, split, opening, closing⟩ := trimChars_split isSpace s.toList
  rw [wordsOf, wordsOf, strip, String.toList_ofList]
  conv_rhs => rw [split, List.append_assoc, fields_leading opening, fields_trailing closing]

/-- `" ".join(text.strip().split())`. -/
theorem toList_normalized (s : String) :
    (joined (split (strip s))).toList = join ' ' (wordsOf s) := by
  rw [toList_joined, map_toList_split, wordsOf_strip]

/-- Joined words have no white space at their ends. -/
theorem strip_joined {words : List (List Char)} (all : ∀ word ∈ words, IsWord isSpace word) :
    strip (String.ofList (join ' ' words)) = String.ofList (join ' ' words) := by
  obtain ⟨before, after, split, opening, closing⟩ := trimChars_split isSpace (join ' ' words)
  have noLead := no_leading_blanks all (split.trans (List.append_assoc _ _ _)) opening
  have noTrail := no_trailing_blanks all split closing
  rw [noLead, noTrail, List.nil_append, List.append_nil] at split
  rw [strip, String.toList_ofList, ← split]

/-- A text that is not empty and has single blanks between its words and none around them. -/
structure Tidy (t : String) : Prop where
  visible : t ≠ ""
  joins : joined (split t) = t

theorem Tidy.toList_eq {t : String} (tidy : Tidy t) : t.toList = join ' ' (wordsOf t) := by
  rw [← map_toList_split, ← toList_joined, tidy.joins]

theorem Tidy.some {t : String} (tidy : Tidy t) : wordsOf t ≠ [] := by
  intro nothing
  have empty := tidy.toList_eq
  rw [nothing] at empty
  exact tidy.visible (String.toList_eq_nil_iff.mp empty)

/-- The words of `" ".join(parts)` are the words of the parts. -/
theorem wordsOf_joined_parts (parts : List String) :
    wordsOf (joined parts) = parts.flatMap wordsOf := by
  have blank : isSpace ' ' = true := by decide
  rw [wordsOf, toList_joined, fields_join_flatMap blank, List.flatMap_map]
  rfl

end Apcos.Source.Python
