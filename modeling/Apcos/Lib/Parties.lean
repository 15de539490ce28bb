import Mathlib.Algebra.BigOperators.Group.List.Basic
import Mathlib.Algebra.Order.BigOperators.Group.List
import Mathlib.Algebra.Order.Group.Nat
import Mathlib.Algebra.GroupWithZero.Nat

/-!
# Parties

A list of parties of which one moves at a time. What the parties have together, by
any weight, changes by what the one that moves gains and loses. A place that at most one of them is in
stays so when the one that moves there is alone.
-/
namespace Apcos.Lib

variable {α : Type}

/-- What the parties have together. -/
def total (weight : α → Nat) (parties : List α) : Nat := (parties.map weight).sum

@[simp] theorem total_cons (weight : α → Nat) (party : α) (parties : List α) :
    total weight (party :: parties) = weight party + total weight parties := by
  simp [total]

theorem total_replicate (weight : α → Nat) (count : Nat) (party : α) :
    total weight (List.replicate count party) = count * weight party := by
  simp [total]

/-- One party moves. -/
theorem total_set (weight : α → Nat) {parties : List α} {i : Nat} {party : α}
    (here : parties[i]? = some party) (moved : α) :
    total weight (parties.set i moved) + weight party = total weight parties + weight moved := by
  induction parties generalizing i with
  | nil => cases here
  | cons first rest ih =>
    cases i with
    | zero =>
      cases here
      simp only [List.set_cons_zero, total_cons]
      omega
    | succ i =>
      have later := ih here
      simp only [List.set_cons_succ, total_cons]
      omega

theorem weight_le_total (weight : α → Nat) {parties : List α} {i : Nat} {party : α}
    (here : parties[i]? = some party) : weight party ≤ total weight parties :=
  List.single_le_sum (fun _ _ => Nat.zero_le _) _
    (List.mem_map_of_mem (List.mem_of_getElem? here))

/-- Parties that have something are no more than what all have. -/
theorem countP_pos_le_total (weight : α → Nat) (parties : List α) :
    parties.countP (0 < weight ·) ≤ total weight parties := by
  induction parties with
  | nil => exact Nat.zero_le _
  | cons first rest ih =>
    rw [List.countP_cons, total_cons]
    split
    · rename_i has
      have positive : 0 < weight first := by simpa using has
      omega
    · omega

theorem countP_eq_total (p : α → Bool) (parties : List α) :
    parties.countP p = total (fun party => (p party).toNat) parties := by
  induction parties with
  | nil => rfl
  | cons first rest ih =>
    rw [List.countP_cons, total_cons, ih]
    cases p first with
    | false => simp
    | true =>
      simp only [if_true, Bool.toNat_true]
      omega

/-- There are no more parties with the property than names for them. -/
theorem countP_le_length {p : α → Bool} {parties : List α} {names : List Nat}
    (named : ∀ (i : Nat) (party : α), parties[i]? = some party → p party = true → i ∈ names) :
    parties.countP p ≤ names.length := by
  have numbered : parties.countP p =
      ((parties.zipIdx.filter fun entry => p entry.1).map Prod.snd).length := by
    have first := List.zipIdx_map_fst 0 parties
    rw [List.length_map, ← List.countP_eq_length_filter]
    calc
      parties.countP p = (parties.zipIdx.map Prod.fst).countP p := by rw [first]
      _ = parties.zipIdx.countP (fun entry => p entry.1) := List.countP_map
  rw [numbered]
  refine (List.subperm_of_subset ?_ ?_).length_le
  · have distinct : (parties.zipIdx.map Prod.snd).Nodup := by
      rw [List.zipIdx_map_snd]
      exact List.nodup_range'
    exact distinct.sublist (List.filter_sublist.map _)
  · intro i member
    obtain ⟨⟨party, j⟩, inside, rfl⟩ := List.mem_map.mp member
    obtain ⟨there, has⟩ := List.mem_filter.mp inside
    exact named j party (List.mem_zipIdx_iff_getElem?.mp there) has

/-- Who is found after a move is the one that moved, or was there before. -/
theorem getElem?_set_cases {parties : List α} {i j : Nat} {moved other : α}
    (found : (parties.set i moved)[j]? = some other) :
    j = i ∧ other = moved ∨ j ≠ i ∧ parties[j]? = some other := by
  rw [List.getElem?_set] at found
  split at found
  · rename_i same
    split at found
    · exact Or.inl ⟨same.symm, (Option.some.inj found).symm⟩
    · cases found
  · rename_i different
    exact Or.inr ⟨Ne.symm different, found⟩

theorem getElem?_concat_cases {parties : List α} {j : Nat} {joined other : α}
    (found : (parties ++ [joined])[j]? = some other) :
    parties[j]? = some other ∨ j = parties.length ∧ other = joined := by
  rw [List.getElem?_append] at found
  split at found
  · exact Or.inl found
  · rename_i beyond
    rw [List.getElem?_singleton] at found
    split at found
    · exact Or.inr ⟨by omega, (Option.some.inj found).symm⟩
    · cases found

/-- A party that differs from the one that moves stays. -/
theorem mem_set_of_ne {parties : List α} {i : Nat} {party other moved : α}
    (here : parties[i]? = some party) (member : other ∈ parties) (different : other ≠ party) :
    other ∈ parties.set i moved := by
  obtain ⟨j, found⟩ := List.mem_iff_getElem?.mp member
  refine List.mem_iff_getElem?.mpr ⟨j, ?_⟩
  have elsewhere : i ≠ j := by
    rintro rfl
    exact different (Option.some.inj (found.symm.trans here))
  rw [List.getElem?_set_ne elsewhere]
  exact found

/-- No two parties have the property. -/
def AtMostOne (p : α → Bool) (parties : List α) : Prop :=
  ∀ (i j : Nat) (first second : α), parties[i]? = some first → parties[j]? = some second →
    p first = true → p second = true → i = j

theorem atMostOne_nil (p : α → Bool) : AtMostOne p [] := by
  intro i j first second here
  cases here

theorem AtMostOne.eq {p : α → Bool} {parties : List α} (sole : AtMostOne p parties)
    {first second : α} (memFirst : first ∈ parties) (memSecond : second ∈ parties)
    (hasFirst : p first = true) (hasSecond : p second = true) : first = second := by
  obtain ⟨i, foundFirst⟩ := List.mem_iff_getElem?.mp memFirst
  obtain ⟨j, foundSecond⟩ := List.mem_iff_getElem?.mp memSecond
  have same := sole i j first second foundFirst foundSecond hasFirst hasSecond
  subst same
  exact Option.some.inj (foundFirst.symm.trans foundSecond)

theorem AtMostOne.set {p : α → Bool} {parties : List α} (sole : AtMostOne p parties) {i : Nat}
    {moved : α} (alone : p moved = true → ∀ (j : Nat) (other : α), parties[j]? = some other →
      p other = true → j = i) : AtMostOne p (parties.set i moved) := by
  intro j k first second foundFirst foundSecond hasFirst hasSecond
  rcases getElem?_set_cases foundFirst with ⟨rfl, rfl⟩ | ⟨-, before⟩
  · rcases getElem?_set_cases foundSecond with ⟨rfl, -⟩ | ⟨-, before'⟩
    · rfl
    · exact (alone hasFirst k second before' hasSecond).symm
  · rcases getElem?_set_cases foundSecond with ⟨rfl, rfl⟩ | ⟨-, before'⟩
    · exact alone hasSecond j first before hasFirst
    · exact sole j k first second before before' hasFirst hasSecond

theorem AtMostOne.concat {p : α → Bool} {parties : List α} (sole : AtMostOne p parties)
    {joined : α} (alone : p joined = true → ∀ other ∈ parties, p other = false) :
    AtMostOne p (parties ++ [joined]) := by
  intro j k first second foundFirst foundSecond hasFirst hasSecond
  rcases getElem?_concat_cases foundFirst with before | ⟨rfl, rfl⟩
  · rcases getElem?_concat_cases foundSecond with before' | ⟨rfl, rfl⟩
    · exact sole j k first second before before' hasFirst hasSecond
    · have missed := alone hasSecond first (List.mem_of_getElem? before)
      cases hasFirst.symm.trans missed
  · rcases getElem?_concat_cases foundSecond with before' | ⟨rfl, rfl⟩
    · have missed := alone hasFirst second (List.mem_of_getElem? before')
      cases hasSecond.symm.trans missed
    · rfl

end Apcos.Lib
