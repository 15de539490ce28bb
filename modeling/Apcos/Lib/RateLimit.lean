import Mathlib.Data.List.TakeWhile
import Mathlib.Tactic.Common

/-!
# Rate limits over a log

Entries are logged with the number of the step that admitted them. A queue from
which entries are dropped once they are too old to share a window with the
present bounds every window of the log; a memory of the last step of each key
keeps equal keys apart.
-/
namespace Apcos.Lib

/-- The entries of the log among the `width` steps from `start` on. -/
def countIn (start width : Nat) (log : List Nat) : Nat :=
  log.countP fun t => decide (start ≤ t ∧ t < start + width)

/-- No window of this width holds more than `most` entries. -/
def Rated (width most : Nat) (log : List Nat) : Prop := ∀ start, countIn start width log ≤ most

/-- The queue is the log without entries that no window shares with the present. -/
def Recalls (width now : Nat) (log queue : List Nat) : Prop :=
  ∃ gone, log = gone ++ queue ∧ ∀ t ∈ gone, t + width ≤ now

theorem countIn_append (start width : Nat) (first second : List Nat) :
    countIn start width (first ++ second) = countIn start width first + countIn start width second :=
  List.countP_append

theorem recalls_nil (width now : Nat) : Recalls width now [] [] :=
  ⟨[], rfl, by simp⟩

theorem Recalls.later {width now now' : Nat} {log queue : List Nat}
    (recalls : Recalls width now log queue) (le : now ≤ now') : Recalls width now' log queue := by
  obtain ⟨gone, split, old⟩ := recalls
  refine ⟨gone, split, fun t member => ?_⟩
  have passed := old t member
  omega

theorem Recalls.evict {width now : Nat} {log queue : List Nat}
    (recalls : Recalls width now log queue) (tooOld : Nat → Bool)
    (sound : ∀ t, tooOld t = true → t + width ≤ now) :
    Recalls width now log (queue.dropWhile tooOld) := by
  obtain ⟨gone, split, old⟩ := recalls
  refine ⟨gone ++ queue.takeWhile tooOld, ?_, fun t member => ?_⟩
  · rw [List.append_assoc, List.takeWhile_append_dropWhile]
    exact split
  · rcases List.mem_append.mp member with before | taken
    · exact old t before
    · exact sound t (List.mem_takeWhile_imp taken)

theorem Recalls.push {width now : Nat} {log queue : List Nat}
    (recalls : Recalls width now log queue) (t : Nat) :
    Recalls width now (log ++ [t]) (queue ++ [t]) := by
  obtain ⟨gone, split, old⟩ := recalls
  exact ⟨gone, by rw [split, List.append_assoc], old⟩

theorem rated_nil (width most : Nat) : Rated width most [] := fun _ => Nat.zero_le most

/-- While the queue is below the bound, one more entry is within it in every window. -/
theorem Rated.push {width most now : Nat} {log queue : List Nat} (rated : Rated width most log)
    (recalls : Recalls width now log queue) (room : queue.length < most) :
    Rated width most (log ++ [now]) := by
  intro start
  rw [countIn_append]
  by_cases inside : start ≤ now ∧ now < start + width
  · obtain ⟨gone, rfl, old⟩ := recalls
    -- A window that holds the present holds nothing that has left the queue.
    have none_gone : countIn start width gone = 0 := by
      apply List.countP_eq_zero.mpr
      intro t member
      have passed := old t member
      simp only [decide_eq_true_eq]
      omega
    have queued : countIn start width queue ≤ queue.length := List.countP_le_length
    have one : countIn start width [now] = 1 := by simp [countIn, inside]
    rw [countIn_append]
    omega
  · have none : countIn start width [now] = 0 := by simp [countIn, inside]
    rw [none]
    exact rated start

variable {κ : Type}

/-- Entries with one key are more than `gap` steps apart. -/
def Spaced (gap : Nat) (log : List (κ × Nat)) : Prop :=
  log.Pairwise fun a b => a.1 = b.1 → a.2 + gap < b.2

/-- The memory holds for each key a step no earlier than its entries. -/
def Remembers (last : κ → Option Nat) (log : List (κ × Nat)) : Prop :=
  ∀ entry ∈ log, ∃ t, last entry.1 = some t ∧ entry.2 ≤ t

theorem Spaced.push {gap : Nat} {log : List (κ × Nat)} {last : κ → Option Nat}
    (spaced : Spaced gap log) (remembers : Remembers last log) (now : Nat) (key : κ)
    (apart : ∀ t, last key = some t → t + gap < now) : Spaced gap (log ++ [(key, now)]) := by
  apply List.pairwise_append.mpr
  refine ⟨spaced, List.pairwise_singleton _ _, ?_⟩
  intro entry member other single same
  rw [List.mem_singleton.mp single] at same ⊢
  obtain ⟨t, found, le⟩ := remembers entry member
  rw [same] at found
  have gap_met := apart t found
  dsimp only
  omega

theorem Remembers.push [DecidableEq κ] {log : List (κ × Nat)} {last : κ → Option Nat}
    (remembers : Remembers last log) (now : Nat) (key : κ)
    (past : ∀ entry ∈ log, entry.2 ≤ now) :
    Remembers (fun k => if k = key then some now else last k) (log ++ [(key, now)]) := by
  intro entry member
  by_cases same : entry.1 = key
  · refine ⟨now, if_pos same, ?_⟩
    rcases List.mem_append.mp member with before | single
    · exact past entry before
    · exact (congrArg Prod.snd (List.mem_singleton.mp single)).le
  · rcases List.mem_append.mp member with before | single
    · obtain ⟨t, found, le⟩ := remembers entry before
      exact ⟨t, (if_neg same).trans found, le⟩
    · rw [List.mem_singleton.mp single] at same
      exact absurd rfl same

end Apcos.Lib
