import Mathlib.Data.List.Basic
import Mathlib.Tactic.Common

/-!
# Breadth-first walks

A walk over a tree, level by level. The tree is a function from a node to its
children; a height that falls from node to child bounds the number of levels.
-/
namespace Apcos.Lib

variable {α : Type} (children : α → List α)

/-- At most so many levels, from a given one on. -/
def walk : Nat → List α → List α
  | 0, _ => []
  | levels + 1, level => level ++ walk levels (level.flatMap children)

/-- The first node is the second or lies below it. -/
inductive Descends : α → α → Prop where
  | here (node : α) : Descends node node
  | down {node child parent : α} (member : child ∈ children parent)
      (descends : Descends node child) : Descends node parent

variable {children}

theorem descends_iff {node root : α} :
    Descends children node root ↔
      node = root ∨ ∃ child ∈ children root, Descends children node child := by
  constructor
  · intro descends
    cases descends with
    | here => exact Or.inl rfl
    | down member descends => exact Or.inr ⟨_, member, descends⟩
  · intro either
    rcases either with same | ⟨child, member, descends⟩
    · rw [same]
      exact .here root
    · exact .down member descends

/-- With as many levels as the tree is high, exactly the nodes of the tree are met. -/
theorem mem_walk_iff {height : α → Nat}
    (lower : ∀ parent, ∀ child ∈ children parent, height child < height parent) {node : α}
    (levels : Nat) (level : List α) (enough : ∀ root ∈ level, height root < levels) :
    node ∈ walk children levels level ↔ ∃ root ∈ level, Descends children node root := by
  induction levels generalizing level with
  | zero =>
    constructor
    · intro member
      cases member
    · intro ⟨root, member, _⟩
      exact absurd (enough root member) (Nat.not_lt_zero _)
  | succ levels ih =>
    have next : ∀ child ∈ level.flatMap children, height child < levels := by
      intro child member
      obtain ⟨parent, inLevel, isChild⟩ := List.mem_flatMap.mp member
      have parentBound := enough parent inLevel
      have childBound := lower parent child isChild
      omega
    rw [walk, List.mem_append, ih _ next]
    constructor
    · intro either
      rcases either with here | ⟨child, member, descends⟩
      · exact ⟨node, here, .here node⟩
      · obtain ⟨parent, inLevel, isChild⟩ := List.mem_flatMap.mp member
        exact ⟨parent, inLevel, .down isChild descends⟩
    · intro ⟨root, member, descends⟩
      rcases descends_iff.mp descends with same | ⟨child, isChild, descends⟩
      · rw [same]
        exact Or.inl member
      · exact Or.inr ⟨child, List.mem_flatMap.mpr ⟨root, member, isChild⟩, descends⟩

end Apcos.Lib
