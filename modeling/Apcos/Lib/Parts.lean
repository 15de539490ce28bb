import Mathlib.Data.List.Infix

/-!
# Parts of a text in order

Contiguous parts of a text, each after the one before it. Fewer parts, smaller parts
and a longer text keep the order.
-/
namespace Apcos.Lib

variable {α : Type}

/-- The parts occur in the text one after another and do not overlap. -/
inductive InOrder : List (List α) → List α → Prop
  | nil (text : List α) : InOrder [] text
  | cons {parts : List (List α)} (before part : List α) {after : List α}
      (later : InOrder parts after) : InOrder (part :: parts) (before ++ part ++ after)

namespace InOrder

variable {parts : List (List α)} {text : List α}

theorem extend_left (before : List α) (ordered : InOrder parts text) :
    InOrder parts (before ++ text) := by
  cases ordered with
  | nil => exact .nil _
  | @cons rest gap part after later =>
    rw [← List.append_assoc, ← List.append_assoc]
    exact .cons (before ++ gap) part later

theorem extend_right (after : List α) (ordered : InOrder parts text) :
    InOrder parts (text ++ after) := by
  induction ordered with
  | nil => exact .nil _
  | cons before part later ih =>
    rw [List.append_assoc]
    exact .cons before part ih

theorem of_sublist {fewer : List (List α)} (sub : fewer.Sublist parts)
    (ordered : InOrder parts text) : InOrder fewer text := by
  induction sub generalizing text with
  | slnil => exact .nil _
  | cons part sub ih =>
    cases ordered with
    | cons before part later => exact (ih later).extend_left _
  | cons_cons part sub ih =>
    cases ordered with
    | cons before part later => exact .cons before part (ih later)

/-- Each part is replaced by a part of it. -/
theorem shrink {smaller : List (List α)}
    (within : List.Forall₂ (· <:+: ·) smaller parts) (ordered : InOrder parts text) :
    InOrder smaller text := by
  induction within generalizing text with
  | nil => exact .nil _
  | @cons small part smaller parts inside rest ih =>
    cases ordered with
    | @cons _ before _ after later =>
      obtain ⟨opening, closing, split⟩ := inside
      have shape : before ++ part ++ after =
          (before ++ opening) ++ small ++ (closing ++ after) := by
        rw [← split]
        simp
      rw [shape]
      exact .cons _ small ((ih later).extend_left closing)

theorem infix_of_mem (ordered : InOrder parts text) {part : List α} (member : part ∈ parts) :
    part <:+: text := by
  induction ordered with
  | nil => cases member
  | @cons parts before first after later ih =>
    rcases List.mem_cons.mp member with same | among
    · rw [same]
      exact ⟨before, after, rfl⟩
    · exact (ih among).trans (List.suffix_append _ _).isInfix

end InOrder

end Apcos.Lib
