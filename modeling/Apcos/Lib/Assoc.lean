import Mathlib.Data.List.Basic
import Mathlib.Tactic.Common

/-!
# Mappings as association lists

A mapping lists its keys, distinct ones, in the order they came in. `update` keeps
the place of a key it replaces and appends the new ones; a lookup sees the newer
value first.
-/
namespace Apcos.Lib

variable {κ α : Type} [BEq κ] [LawfulBEq κ]

/-- `d.update(other)`. -/
def updateWith (d other : List (κ × α)) : List (κ × α) :=
  (d.map fun entry => (entry.1, (other.lookup entry.1).getD entry.2)) ++
    other.filter fun entry => (d.lookup entry.1).isNone

theorem lookup_map_values {β : Type} (d : List (κ × α)) (f : κ → α → β) (key : κ) :
    (d.map fun entry => (entry.1, f entry.1 entry.2)).lookup key = (d.lookup key).map (f key) := by
  induction d with
  | nil => rfl
  | cons entry rest ih =>
    rw [List.map_cons, List.lookup_cons, List.lookup_cons]
    by_cases here : key = entry.1
    · simp [here]
    · have other : (key == entry.1) = false := by simp [here]
      rw [other, ih]

/-- A filter on keys keeps or drops all that is found under a key. -/
theorem lookup_filter_keys (d : List (κ × α)) (keep : κ → Bool) (key : κ) :
    (d.filter fun entry => keep entry.1).lookup key =
      if keep key then d.lookup key else none := by
  induction d with
  | nil => simp
  | cons entry rest ih =>
    obtain ⟨first, value⟩ := entry
    rw [List.filter_cons, List.lookup_cons]
    by_cases here : key = first
    · rw [here] at ih ⊢
      cases kept : keep first <;> simp [ih, kept]
    · have other : (key == first) = false := by simp [here]
      cases kept : keep first
      · simp [ih, other]
      · simpa [other, List.lookup_cons] using ih

theorem lookup_updateWith (d other : List (κ × α)) (key : κ) :
    (updateWith d other).lookup key = (other.lookup key).or (d.lookup key) := by
  rw [updateWith, List.lookup_append,
    lookup_map_values d fun key value => (other.lookup key).getD value,
    lookup_filter_keys other fun key => (d.lookup key).isNone]
  cases d.lookup key <;> cases other.lookup key <;> simp

/-- With distinct keys an entry is what its key is looked up as. -/
theorem lookup_of_mem {d : List (κ × α)} (distinct : (d.map (·.1)).Nodup) {key : κ} {value : α}
    (member : (key, value) ∈ d) : d.lookup key = some value := by
  induction d with
  | nil => cases member
  | cons entry rest ih =>
    obtain ⟨fresh, later⟩ := List.nodup_cons.mp distinct
    rcases List.mem_cons.mp member with here | there
    · rw [← here, List.lookup_cons_self]
    · have other : (key == entry.1) = false := by
        rw [beq_eq_false_iff_ne]
        rintro rfl
        exact fresh (List.mem_map.mpr ⟨_, there, rfl⟩)
      rw [List.lookup_cons, other]
      exact ih later there

theorem mem_of_lookup {d : List (κ × α)} {key : κ} {value : α} (found : d.lookup key = some value) :
    (key, value) ∈ d := by
  obtain ⟨before, after, split, _⟩ := List.lookup_eq_some_iff.mp found
  rw [split]
  simp

end Apcos.Lib
