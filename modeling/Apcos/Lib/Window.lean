import Mathlib.Data.List.Dedup
import Mathlib.Data.List.Induction
import Mathlib.Data.List.Nodup
import Mathlib.Tactic.Common

/-!
# A window of recent admissions

A value is admitted when it is not among the last `n` admitted ones. The log of
all admissions is the history; what a bounded tracker holds is its end.
-/
namespace Apcos.Lib

variable {α : Type}

/-- The last `n` entries of a log. -/
def recent (n : Nat) (log : List α) : List α := log.drop (log.length - n)

theorem recent_of_short {n : Nat} {log : List α} (short : log.length ≤ n) : recent n log = log := by
  rw [recent, Nat.sub_eq_zero_of_le short, List.drop_zero]

theorem length_recent (n : Nat) (log : List α) : (recent n log).length = min n log.length := by
  rw [recent, List.length_drop]
  omega

/-- Below the bound the window grows, at the bound its oldest entry leaves. -/
theorem recent_append_of_lt {n : Nat} {log : List α} (room : log.length < n) (a : α) :
    recent n (log ++ [a]) = recent n log ++ [a] := by
  have short : (log ++ [a]).length ≤ n := by
    rw [List.length_append, List.length_singleton]
    exact room
  rw [recent_of_short short, recent_of_short (Nat.le_of_lt room)]

theorem recent_append_of_le {n : Nat} {log : List α} (positive : 0 < n) (full : n ≤ log.length)
    (a : α) : recent n (log ++ [a]) = (recent n log).tail ++ [a] := by
  have shift : (log ++ [a]).length - n = log.length - n + 1 := by
    rw [List.length_append, List.length_singleton]
    omega
  rw [recent, recent, shift, List.tail_drop, List.drop_append_of_le_length (by omega)]

/-- The window holds the values that fewer than `n` entries follow. -/
theorem mem_recent_iff {n : Nat} {log : List α} {a : α} :
    a ∈ recent n log ↔
      ∃ before after, log = before ++ a :: after ∧ a ∉ after ∧ after.length < n := by
  constructor
  · intro member
    -- The first occurrence from the end is the last one.
    obtain ⟨after, before, shape, absent⟩ :=
      List.eq_append_cons_of_mem (List.mem_reverse.mpr member)
    have window : recent n log = before.reverse ++ a :: after.reverse := by
      simpa using congrArg List.reverse shape
    have bound : (recent n log).length ≤ n := by
      rw [length_recent]
      exact Nat.min_le_left n log.length
    rw [window] at bound
    simp only [List.length_append, List.length_reverse, List.length_cons] at bound
    refine ⟨log.take (log.length - n) ++ before.reverse, after.reverse, ?_, ?_, ?_⟩
    · rw [List.append_assoc, ← window, recent, List.take_append_drop]
    · simpa using absent
    · rw [List.length_reverse]
      omega
  · rintro ⟨before, after, rfl, -, few⟩
    have kept : (before ++ a :: after).length - n ≤ before.length := by
      simp only [List.length_append, List.length_cons]
      omega
    rw [recent, List.drop_append_of_le_length kept]
    exact List.mem_append_right _ List.mem_cons_self

variable [DecidableEq α]

/-- One value offered to the window. -/
def offer (n : Nat) (log : List α) (a : α) : List α := if a ∈ recent n log then log else log ++ [a]

/-- The admissions among the values offered so far. -/
def admissions (n : Nat) (offered : List α) : List α := offered.foldl (offer n) []

theorem admissions_append (n : Nat) (offered : List α) (a : α) :
    admissions n (offered ++ [a]) = offer n (admissions n offered) a := by
  simp [admissions]

/-- The window never holds a value twice. -/
theorem nodup_recent_admissions {n : Nat} (positive : 0 < n) (offered : List α) :
    (recent n (admissions n offered)).Nodup := by
  induction offered using List.reverseRecOn with
  | nil => simp [admissions, recent]
  | append_singleton offered a ih =>
    rw [admissions_append, offer]
    split
    · exact ih
    · rename_i fresh
      rcases Nat.lt_or_ge (admissions n offered).length n with room | full
      · rw [recent_append_of_lt room]
        exact List.nodup_append.mpr ⟨ih, List.nodup_singleton a, by
          rintro b member c single rfl
          rw [List.mem_singleton.mp single] at member
          exact fresh member⟩
      · rw [recent_append_of_le positive full]
        exact List.nodup_append.mpr ⟨ih.tail, List.nodup_singleton a, by
          rintro b member c single rfl
          rw [List.mem_singleton.mp single] at member
          exact fresh (List.mem_of_mem_tail member)⟩

/-- No value leaves the window of so few values, so each is admitted once. -/
theorem admissions_of_few {n : Nat} (offered : List α) (few : offered.dedup.length ≤ n) :
    (admissions n offered).Nodup ∧ ∀ a, a ∈ admissions n offered ↔ a ∈ offered := by
  induction offered using List.reverseRecOn with
  | nil => simp [admissions]
  | append_singleton offered a ih =>
    have fewer : offered.dedup.length ≤ n := by
      apply Nat.le_trans _ few
      apply (List.nodup_dedup offered).length_le_of_subset
      intro b member
      exact List.mem_dedup.mpr (List.mem_append_left _ (List.mem_dedup.mp member))
    obtain ⟨nodup, members⟩ := ih fewer
    have short : (admissions n offered).length ≤ n := by
      apply Nat.le_trans _ fewer
      apply nodup.length_le_of_subset
      intro b member
      exact List.mem_dedup.mpr ((members b).mp member)
    rw [admissions_append, offer, recent_of_short short]
    split
    · rename_i known
      refine ⟨nodup, fun b => ?_⟩
      rw [members, List.mem_append, List.mem_singleton]
      constructor
      · exact Or.inl
      · rintro (earlier | rfl)
        · exact earlier
        · exact (members b).mp known
    · rename_i fresh
      refine ⟨?_, fun b => by simp [members]⟩
      rw [List.nodup_append]
      refine ⟨nodup, List.nodup_singleton a, ?_⟩
      rintro b member c single rfl
      rw [List.mem_singleton.mp single] at member
      exact fresh member

end Apcos.Lib
