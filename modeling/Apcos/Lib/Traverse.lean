import Mathlib.Data.List.Perm.Basic
import Mathlib.Data.List.Sort
import Apcos.Lib.Comp

/-!
# Lists through a fallible function, and sorted

A fallible function mapped over a list returns exactly when it returns on every
element, and raises what it raises on one. Sorting by a comparison that is the order of
some key on the elements gives one list for all arrangements whose keys are distinct.
-/
namespace Apcos.Lib

variable {ε α β κ : Type}

/-! ## Fallible maps -/

theorem mapM_ok_iff {f : α → Except ε β} {items : List α} {results : List β} :
    items.mapM f = .ok results ↔ List.Forall₂ (fun a b => f a = .ok b) items results := by
  induction items generalizing results with
  | nil =>
    rw [List.mapM_nil, List.forall₂_nil_left_iff]
    exact ⟨fun same => (Except.ok.inj same).symm, fun same => by rw [same]; rfl⟩
  | cons a rest ih =>
    rw [List.mapM_cons, List.forall₂_cons_left_iff]
    constructor
    · intro returned
      obtain ⟨first, here, returned⟩ := bind_ok returned
      obtain ⟨later, there, same⟩ := bind_ok returned
      cases same
      exact ⟨first, later, here, ih.mp there, rfl⟩
    · rintro ⟨first, later, here, there, rfl⟩
      rw [here, ok_bind, ih.mpr there]
      rfl

theorem mapM_ok_of_forall {f : α → Except ε β} {items : List α}
    (each : ∀ a ∈ items, ∃ b, f a = .ok b) : ∃ results, items.mapM f = .ok results := by
  induction items with
  | nil => exact ⟨[], rfl⟩
  | cons a rest ih =>
    obtain ⟨first, here⟩ := each a List.mem_cons_self
    obtain ⟨later, there⟩ := ih fun b member => each b (List.mem_cons_of_mem a member)
    exact ⟨first :: later, mapM_ok_iff.mpr (.cons here (mapM_ok_iff.mp there))⟩

/-- What is raised is raised on an element. -/
theorem mapM_error {f : α → Except ε β} {items : List α} {e : ε}
    (raised : items.mapM f = .error e) : ∃ a ∈ items, f a = .error e := by
  induction items with
  | nil => cases raised
  | cons a rest ih =>
    rw [List.mapM_cons] at raised
    cases here : f a with
    | error other =>
      rw [here] at raised
      cases raised
      exact ⟨a, List.mem_cons_self, here⟩
    | ok b =>
      rw [here, ok_bind] at raised
      cases there : rest.mapM f with
      | error other =>
        rw [there] at raised
        cases raised
        obtain ⟨c, among, at_c⟩ := ih there
        exact ⟨c, List.mem_cons_of_mem a among, at_c⟩
      | ok later =>
        rw [there] at raised
        cases raised

/-- Each result is that of an element. -/
theorem mem_of_mapM {f : α → Except ε β} {items : List α} {results : List β}
    (returned : items.mapM f = .ok results) {b : β} (member : b ∈ results) :
    ∃ a ∈ items, f a = .ok b := by
  have pointwise := mapM_ok_iff.mp returned
  induction pointwise with
  | nil => cases member
  | cons here later ih =>
    rcases List.mem_cons.mp member with same | among
    · exact ⟨_, List.mem_cons_self, same ▸ here⟩
    · obtain ⟨a, earlier, at_a⟩ := ih (mapM_ok_iff.mpr later) among
      exact ⟨a, List.mem_cons_of_mem _ earlier, at_a⟩

/-- What an element gives is among the results. -/
theorem mem_mapM {f : α → Except ε β} {items : List α} {results : List β}
    (returned : items.mapM f = .ok results) {a : α} {b : β} (member : a ∈ items)
    (given : f a = .ok b) : b ∈ results := by
  have pointwise := mapM_ok_iff.mp returned
  clear returned
  induction pointwise with
  | nil => cases member
  | cons here later ih =>
    rcases List.mem_cons.mp member with rfl | among
    · cases here.symm.trans given
      exact List.mem_cons_self
    · exact List.mem_cons_of_mem _ (ih among)

/-- Rearranged elements give rearranged results. -/
theorem mapM_perm {f : α → Except ε β} {items items' : List α} {results : List β}
    (perm : items.Perm items') (returned : items.mapM f = .ok results) :
    ∃ results', items'.mapM f = .ok results' ∧ results.Perm results' := by
  obtain ⟨results', pointwise, arranged⟩ :=
    List.perm_comp_forall₂ perm.symm (mapM_ok_iff.mp returned)
  exact ⟨results', mapM_ok_iff.mpr pointwise, arranged.symm⟩

/-! ## Sorted lists -/

section
variable [LinearOrder κ] {before : α → α → Prop} [DecidableRel before] {key : α → κ}

theorem pairwise_insertionSort_key {items : List α}
    (orders : ∀ a ∈ items, ∀ b ∈ items, before a b ↔ key a ≤ key b) :
    (items.insertionSort before).Pairwise fun a b => key a ≤ key b := by
  rw [← List.pairwise_map, List.map_insertionSort before (· ≤ ·) key items orders]
  exact List.pairwise_insertionSort (· ≤ ·) _

/-- The sorted list is the same for every arrangement, when no two elements share a key. -/
theorem insertionSort_eq_of_perm {items items' : List α} (perm : items.Perm items')
    (orders : ∀ a ∈ items, ∀ b ∈ items, before a b ↔ key a ≤ key b)
    (distinct : (items.map key).Nodup) :
    items.insertionSort before = items'.insertionSort before := by
  have inOrder := pairwise_insertionSort_key orders
  have inOrder' : (items'.insertionSort before).Pairwise fun a b => key a ≤ key b :=
    pairwise_insertionSort_key fun a member b also =>
      orders a (perm.mem_iff.mpr member) b (perm.mem_iff.mpr also)
  refine List.Perm.eq_of_pairwise ?_ inOrder inOrder' ?_
  · intro a b member also below above
    have here := (List.mem_insertionSort before).mp member
    have there := perm.mem_iff.mpr ((List.mem_insertionSort before).mp also)
    exact List.inj_on_of_nodup_map distinct here there (le_antisymm below above)
  · exact ((List.perm_insertionSort before items).trans perm).trans
      (List.perm_insertionSort before items').symm

end

end Apcos.Lib
