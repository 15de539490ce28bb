import Mathlib.Data.List.Basic
import Mathlib.Tactic.Common

/-!
# The last number with a property

The last number below a bound at which a test holds, and how it is carried over to other
numbers and another test when their order is kept.
-/
namespace Apcos.Lib.Last

/-- The last number below a bound with a property. -/
def lastBelow (bound : Nat) (p : Nat → Bool) : Option Nat :=
  ((List.range bound).filter p).getLast?

theorem lastBelow_eq_some {bound i : Nat} {p : Nat → Bool} :
    lastBelow bound p = some i ↔
      i < bound ∧ p i = true ∧ ∀ j, i < j → j < bound → p j = false := by
  induction bound with
  | zero => simp [lastBelow]
  | succ bound ih =>
    rw [lastBelow, List.range_succ, List.filter_append]
    cases shown : p bound with
    | true =>
      rw [List.filter_cons_of_pos shown, List.filter_nil, List.getLast?_concat, Option.some_inj]
      constructor
      · rintro rfl
        exact ⟨Nat.lt_succ_self _, shown, fun j later below => by omega⟩
      · rintro ⟨below, -, last⟩
        by_contra other
        have hidden := last bound (by omega) (by omega)
        rw [shown] at hidden
        cases hidden
    | false =>
      rw [List.filter_cons_of_neg (by simp [shown]), List.filter_nil, List.append_nil,
        ← lastBelow, ih]
      constructor
      · rintro ⟨below, found, last⟩
        refine ⟨by omega, found, fun j later inside => ?_⟩
        rcases Nat.lt_succ_iff_lt_or_eq.mp inside with earlier | rfl
        · exact last j later earlier
        · exact shown
      · rintro ⟨below, found, last⟩
        refine ⟨?_, found, fun j later inside => last j later (by omega)⟩
        rcases Nat.lt_succ_iff_lt_or_eq.mp below with earlier | rfl
        · exact earlier
        · rw [shown] at found
          cases found

theorem lastBelow_eq_none {bound : Nat} {p : Nat → Bool} :
    lastBelow bound p = none ↔ ∀ j < bound, p j = false := by
  rw [lastBelow, List.getLast?_eq_none_iff, List.filter_eq_nil_iff]
  simp

/-- Numbers carried over in their order have the same last one. -/
theorem map_lastBelow {bound bound' : Nat} {p q : Nat → Bool} {f : Nat → Nat}
    (into : ∀ i < bound, p i = true → f i < bound' ∧ q (f i) = true)
    (onto : ∀ j < bound', q j = true → ∃ i < bound, p i = true ∧ f i = j)
    (increasing : ∀ i j, i < j → j < bound → p i = true → p j = true → f i < f j) :
    (lastBelow bound p).map f = lastBelow bound' q := by
  cases found : lastBelow bound p with
  | none =>
    have nowhere := lastBelow_eq_none.mp found
    symm
    rw [Option.map_none, lastBelow_eq_none]
    intro j below
    rw [← Bool.not_eq_true]
    intro shown
    obtain ⟨i, inside, holds, -⟩ := onto j below shown
    rw [nowhere i inside] at holds
    cases holds
  | some i =>
    obtain ⟨inside, holds, last⟩ := lastBelow_eq_some.mp found
    obtain ⟨below, shown⟩ := into i inside holds
    symm
    rw [Option.map_some, lastBelow_eq_some]
    refine ⟨below, shown, fun j later under => ?_⟩
    rw [← Bool.not_eq_true]
    intro also
    obtain ⟨k, within, held, rfl⟩ := onto j under also
    rcases Nat.lt_trichotomy i k with after | same | before
    · rw [last k after within] at held
      cases held
    · rw [same] at later
      omega
    · have order := increasing k i before inside held holds
      omega

end Apcos.Lib.Last
