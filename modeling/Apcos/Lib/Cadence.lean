import Mathlib.Data.List.Chain
import Mathlib.Tactic.Common

/-!
# Readings at least a period apart

Something that is done again only a period after it was done last, and first a period after it
came to be. The log has for each time what was done and what the clock read.
-/
namespace Apcos.Lib

/-- Each reading is at least a period after the one before, the first after `born`. -/
def Paced (period born : Nat) (readings : List Nat) : Prop :=
  (born :: readings).IsChain fun earlier later => earlier + period ≤ later

/-- The last reading, or `born` where there is none. -/
def latest (born : Nat) (readings : List Nat) : Nat := readings.getLast?.getD born

theorem paced_nil (period born : Nat) : Paced period born [] := .singleton born

@[simp] theorem latest_concat (born now : Nat) (readings : List Nat) :
    latest born (readings ++ [now]) = now := by
  rw [latest, List.getLast?_concat, Option.getD_some]

theorem latest_le {born bound : Nat} {readings : List Nat} (first : born ≤ bound)
    (others : ∀ reading ∈ readings, reading ≤ bound) : latest born readings ≤ bound := by
  unfold latest
  cases last : readings.getLast? with
  | none => exact first
  | some reading => exact others reading (List.mem_of_getLast? last)

theorem Paced.push {period born now : Nat} {readings : List Nat}
    (paced : Paced period born readings) (due : latest born readings + period ≤ now) :
    Paced period born (readings ++ [now]) := by
  refine List.isChain_append.mpr ⟨paced, .singleton now, ?_⟩
  intro last member next single
  rw [List.getLast?_cons, Option.mem_some_iff] at member
  rw [List.head?_cons, Option.mem_some_iff] at single
  rw [← member, ← single]
  exact due

/-- There are no more readings than periods since `born`. -/
theorem Paced.count {period born : Nat} {readings : List Nat} (paced : Paced period born readings) :
    born + readings.length * period ≤ latest born readings := by
  induction readings generalizing born with
  | nil => simp [latest]
  | cons first rest ih =>
    obtain ⟨apart, later⟩ := List.isChain_cons_cons.mp paced
    have counted := ih later
    have same : latest born (first :: rest) = latest first rest := by
      rw [latest, List.getLast?_cons, Option.getD_some, latest]
    rw [same, List.length_cons, Nat.succ_mul]
    omega

variable {κ : Type} [DecidableEq κ]

/-- The readings logged for a key. -/
def readingsOf (key : κ) (log : List (κ × Nat)) : List Nat :=
  (log.filter fun entry => entry.1 = key).map Prod.snd

theorem readingsOf_concat_self (key : κ) (log : List (κ × Nat)) (now : Nat) :
    readingsOf key (log ++ [(key, now)]) = readingsOf key log ++ [now] := by
  simp [readingsOf]

theorem readingsOf_concat_other {key other : κ} (different : other ≠ key)
    (log : List (κ × Nat)) (now : Nat) :
    readingsOf key (log ++ [(other, now)]) = readingsOf key log := by
  simp [readingsOf, different]

theorem mem_readingsOf {key : κ} {log : List (κ × Nat)} {reading : Nat} :
    reading ∈ readingsOf key log ↔ (key, reading) ∈ log := by
  simp [readingsOf]

end Apcos.Lib
