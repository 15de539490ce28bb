import Mathlib.Data.List.Induction
import Apcos.Lib.Runs

/-!
# A timer that triggers restart

The timer holds for a number of inputs after a trigger, and every trigger restarts it. Its state
is a count; what it has left says how long ago the latest trigger was.
-/
namespace Apcos.Lib

variable {ε : Type}

/-- How many more inputs the timer holds for. -/
def hold (limit : Nat) (trigger : ε → Bool) (left : Nat) (e : ε) : Nat :=
  if trigger e then limit else left - 1

/-- The last position whose input meets the predicate. -/
structure LatestAt (p : ε → Prop) (inputs : List ε) (j : Nat) : Prop where
  here : ∃ e, inputs[j]? = some e ∧ p e
  after : ∀ k e, j < k → inputs[k]? = some e → ¬p e

theorem LatestAt.lt {p : ε → Prop} {inputs : List ε} {j : Nat} (latest : LatestAt p inputs j) :
    j < inputs.length := by
  obtain ⟨e, found, -⟩ := latest.here
  exact (List.getElem?_eq_some_iff.mp found).1

theorem latestAt_append_pos {p : ε → Prop} (inputs : List ε) {e : ε} (met : p e) (j : Nat) :
    LatestAt p (inputs ++ [e]) j ↔ j = inputs.length := by
  constructor
  · intro latest
    have bound := latest.lt
    rw [List.length_append, List.length_singleton] at bound
    by_contra other
    exact latest.after inputs.length e (by omega) List.getElem?_concat_length met
  · intro last
    subst last
    refine ⟨⟨e, List.getElem?_concat_length, met⟩, ?_⟩
    intro k e' above found
    have bound := (List.getElem?_eq_some_iff.mp found).1
    rw [List.length_append, List.length_singleton] at bound
    omega

theorem latestAt_append_neg {p : ε → Prop} (inputs : List ε) {e : ε} (missed : ¬p e) (j : Nat) :
    LatestAt p (inputs ++ [e]) j ↔ LatestAt p inputs j := by
  constructor
  · intro latest
    obtain ⟨e', found, met⟩ := latest.here
    have bound := latest.lt
    rw [List.length_append, List.length_singleton] at bound
    have within : j < inputs.length := by
      by_contra beyond
      have last : j = inputs.length := by omega
      subst last
      rw [List.getElem?_concat_length, Option.some.injEq] at found
      subst found
      exact missed met
    refine ⟨⟨e', ?_, met⟩, ?_⟩
    · rw [← List.getElem?_append_left within]
      exact found
    · intro k e' above found
      have inside := (List.getElem?_eq_some_iff.mp found).1
      exact latest.after k e' above (by rw [List.getElem?_append_left inside]; exact found)
  · intro latest
    obtain ⟨e', found, met⟩ := latest.here
    refine ⟨⟨e', ?_, met⟩, ?_⟩
    · rw [List.getElem?_append_left latest.lt]
      exact found
    · intro k e' above found
      by_cases inside : k < inputs.length
      · rw [List.getElem?_append_left inside] at found
        exact latest.after k e' above found
      · have bound := (List.getElem?_eq_some_iff.mp found).1
        rw [List.length_append, List.length_singleton] at bound
        have last : k = inputs.length := by omega
        subst last
        rw [List.getElem?_concat_length, Option.some.injEq] at found
        subst found
        exact missed

/-- More than `n` are left exactly when the latest trigger is at most `limit - n` inputs ago. -/
theorem lt_run_hold_iff (limit : Nat) (trigger : ε → Bool) (inputs : List ε) (n : Nat) :
    n < run (hold limit trigger) 0 inputs ↔
      ∃ j, LatestAt (fun e => trigger e = true) inputs j ∧ inputs.length - j + n ≤ limit := by
  induction inputs using List.reverseRecOn generalizing n with
  | nil =>
    constructor
    · intro less
      exact absurd less (Nat.not_lt_zero n)
    · intro latest
      obtain ⟨j, latest, -⟩ := latest
      exact absurd latest.lt (Nat.not_lt_zero j)
  | append_singleton inputs e ih =>
    rw [run_append, run_cons, run_nil, hold, List.length_append, List.length_singleton]
    by_cases met : trigger e = true
    · have last (j : Nat) := latestAt_append_pos (p := fun e => trigger e = true) inputs met j
      simp only [if_pos met, last, exists_eq_left]
      omega
    · have earlier (j : Nat) := latestAt_append_neg (p := fun e => trigger e = true) inputs met j
      simp only [if_neg met, earlier]
      rw [Nat.lt_sub_iff_add_lt, ih (n + 1)]
      constructor
      · intro held
        obtain ⟨j, latest, near⟩ := held
        have bound := latest.lt
        exact ⟨j, latest, by omega⟩
      · intro held
        obtain ⟨j, latest, near⟩ := held
        have bound := latest.lt
        exact ⟨j, latest, by omega⟩

end Apcos.Lib
