import Mathlib.Data.List.Nodup
import Mathlib.Tactic.Common

/-!
# A receiver that drops repeated keys

Items arrive in order. One that fits and whose key is new is received; receiving
it may end the reception. All items are received exactly when each fits, no key
repeats and no item but the last ends the reception.
-/
namespace Apcos.Lib

variable {α κ : Type} (key : α → κ) (fits goesOn : α → Bool)

/-- What lets a receiver that has seen these keys receive every item. -/
structure Receivable (seen : List κ) (items : List α) : Prop where
  fits : ∀ a ∈ items, fits a = true
  distinct : (items.map key).Nodup
  fresh : ∀ a ∈ items, key a ∉ seen
  goesOn : ∀ a ∈ items.dropLast, goesOn a = true

variable {key fits goesOn}

theorem receivable_nil (seen : List κ) : Receivable key fits goesOn seen [] where
  fits := nofun
  distinct := List.nodup_nil
  fresh := nofun
  goesOn := nofun

theorem receivable_cons {seen : List κ} {a : α} {rest : List α} :
    Receivable key fits goesOn seen (a :: rest) ↔
      (fits a = true ∧ key a ∉ seen) ∧ (rest = [] ∨ goesOn a = true) ∧
        Receivable key fits goesOn (key a :: seen) rest := by
  constructor
  · rintro ⟨allFit, distinct, fresh, onward⟩
    rw [List.map_cons, List.nodup_cons] at distinct
    refine ⟨⟨allFit a List.mem_cons_self, fresh a List.mem_cons_self⟩, ?_, ?_⟩
    · cases rest with
      | nil => exact Or.inl rfl
      | cons b rest => exact Or.inr (onward a List.mem_cons_self)
    · refine ⟨fun b member => allFit b (List.mem_cons_of_mem a member), distinct.2, ?_, ?_⟩
      · intro b member
        rw [List.mem_cons, not_or]
        refine ⟨?_, fresh b (List.mem_cons_of_mem a member)⟩
        intro same
        exact distinct.1 (same ▸ List.mem_map_of_mem member)
      · intro b member
        cases rest with
        | nil => cases member
        | cons c rest => exact onward b (List.mem_cons_of_mem a member)
  · rintro ⟨⟨fit, new⟩, last, allFit, distinct, fresh, onward⟩
    refine ⟨List.forall_mem_cons.mpr ⟨fit, allFit⟩, ?_, ?_, ?_⟩
    · rw [List.map_cons, List.nodup_cons]
      refine ⟨?_, distinct⟩
      intro repeated
      obtain ⟨b, member, same⟩ := List.mem_map.mp repeated
      exact fresh b member (same ▸ List.mem_cons_self)
    · refine List.forall_mem_cons.mpr ⟨new, fun b member seenBefore => ?_⟩
      exact fresh b member (List.mem_cons_of_mem (key a) seenBefore)
    · cases rest with
      | nil => exact nofun
      | cons c rest =>
        have going := last.resolve_left (List.cons_ne_nil c rest)
        exact List.forall_mem_cons.mpr ⟨going, onward⟩

variable [DecidableEq κ] (key fits goesOn)

/-- The items received, given the keys seen before. -/
def received (seen : List κ) : List α → List α
  | [] => []
  | a :: rest =>
    if fits a = true ∧ key a ∉ seen then
      a :: if goesOn a then received (key a :: seen) rest else []
    else received seen rest

theorem received_sublist (seen : List κ) (items : List α) :
    (received key fits goesOn seen items).Sublist items := by
  induction items generalizing seen with
  | nil => exact List.Sublist.slnil
  | cons a rest ih =>
    unfold received
    split
    · apply List.Sublist.cons_cons
      split
      · exact ih (key a :: seen)
      · exact List.nil_sublist rest
    · exact (ih seen).cons a

variable {key fits goesOn}

/-- Nothing is lost exactly when everything is receivable. -/
theorem received_eq_iff (seen : List κ) (items : List α) :
    received key fits goesOn seen items = items ↔ Receivable key fits goesOn seen items := by
  induction items generalizing seen with
  | nil => exact iff_of_true rfl (receivable_nil seen)
  | cons a rest ih =>
    rw [receivable_cons]
    unfold received
    by_cases takes : fits a = true ∧ key a ∉ seen
    · rw [if_pos takes, and_iff_right takes]
      by_cases going : goesOn a = true
      · simp [going, ih]
      · have ended : Receivable key fits goesOn (key a :: seen) [] := receivable_nil _
        cases rest with
        | nil => simp [going, ended]
        | cons b rest => simp [going]
    · have shorter := (received_sublist key fits goesOn seen rest).length_le
      rw [if_neg takes]
      refine iff_of_false (fun same => ?_) (fun receivable => takes receivable.1)
      rw [same, List.length_cons] at shorter
      omega

/-- As many received as arrived leaves nothing lost. -/
theorem received_eq_of_length {seen : List κ} {items : List α}
    (same : (received key fits goesOn seen items).length = items.length) :
    received key fits goesOn seen items = items :=
  (received_sublist key fits goesOn seen items).eq_of_length same

end Apcos.Lib
