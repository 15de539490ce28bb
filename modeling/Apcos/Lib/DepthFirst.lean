import Mathlib.Data.List.Basic
import Mathlib.Logic.Relation

/-!
# Depth-first visits

A node is visited after its children, in order, and the visit ends at the first obstacle: a
node of the path that leads to it, an unknown node, or a faulty one. What is clear, where a
visit ends and which nodes it has passed until then is stated without running it.
-/
namespace Apcos.Lib

/-- The children of the known nodes, and what is wrong with a node itself. -/
structure VisitGraph (α ε : Type) where
  children : α → Option (List α)
  fault : α → Option ε

inductive Obstacle (α ε : Type) where
  | cycle (node : α)
  | missing (node : α)
  | fault (node : α) (reason : ε)
  deriving DecidableEq, Repr

namespace VisitGraph

variable {α ε : Type} (graph : VisitGraph α ε)

/-- A visit of the node on this path meets no obstacle. -/
inductive Clear : List α → α → Prop
  | visit {path children : List α} {node : α} (fresh : node ∉ path)
      (known : graph.children node = some children)
      (below : ∀ child ∈ children, Clear (node :: path) child)
      (sound : graph.fault node = none) : Clear path node

/-- A visit of the node on this path ends at the obstacle. -/
inductive Obstructed : List α → α → Obstacle α ε → Prop
  | cycle {path : List α} {node : α} (again : node ∈ path) : Obstructed path node (.cycle node)
  | missing {path : List α} {node : α} (fresh : node ∉ path)
      (unknown : graph.children node = none) : Obstructed path node (.missing node)
  | child {path before after : List α} {node child : α} {obstacle : Obstacle α ε}
      (fresh : node ∉ path) (known : graph.children node = some (before ++ child :: after))
      (passed : ∀ earlier ∈ before, graph.Clear (node :: path) earlier)
      (obstructed : Obstructed (node :: path) child obstacle) : Obstructed path node obstacle
  | fault {path children : List α} {node : α} {reason : ε} (fresh : node ∉ path)
      (known : graph.children node = some children)
      (below : ∀ child ∈ children, graph.Clear (node :: path) child)
      (faulty : graph.fault node = some reason) : Obstructed path node (.fault node reason)

/-- A visit of the first node on this path passes the second, after its children. -/
inductive Passed : List α → α → α → Prop
  | here {path : List α} {node : α} (clear : graph.Clear path node) : Passed path node node
  | child {path before after : List α} {node child other : α} (fresh : node ∉ path)
      (known : graph.children node = some (before ++ child :: after))
      (earlier : ∀ sibling ∈ before, graph.Clear (node :: path) sibling)
      (passed : Passed (node :: path) child other) : Passed path node other

def ClearAll (path nodes : List α) : Prop := ∀ node ∈ nodes, graph.Clear path node

/-- Visits of the nodes in turn end at the obstacle. -/
def ObstructedIn (path nodes : List α) (obstacle : Obstacle α ε) : Prop :=
  ∃ before node after, nodes = before ++ node :: after ∧ graph.ClearAll path before ∧
    graph.Obstructed path node obstacle

/-- Visits of the nodes in turn pass the other. -/
def PassedIn (path nodes : List α) (other : α) : Prop :=
  ∃ before node after, nodes = before ++ node :: after ∧ graph.ClearAll path before ∧
    graph.Passed path node other

def Edge (node child : α) : Prop :=
  ∃ children, graph.children node = some children ∧ child ∈ children

variable {graph} {path nodes children : List α} {node other : α} {obstacle : Obstacle α ε}

/-! ## Step by step -/

theorem clear_iff (fresh : node ∉ path) (known : graph.children node = some children) :
    graph.Clear path node ↔
      graph.ClearAll (node :: path) children ∧ graph.fault node = none := by
  constructor
  · intro clear
    cases clear with
    | visit _ known' below sound =>
      cases known.symm.trans known'
      exact ⟨below, sound⟩
  · intro ⟨below, sound⟩
    exact .visit fresh known below sound

theorem obstructed_iff (fresh : node ∉ path) (known : graph.children node = some children) :
    graph.Obstructed path node obstacle ↔ graph.ObstructedIn (node :: path) children obstacle ∨
      graph.ClearAll (node :: path) children ∧
        ∃ reason, graph.fault node = some reason ∧ obstacle = .fault node reason := by
  constructor
  · intro obstructed
    cases obstructed with
    | cycle again => exact absurd again fresh
    | missing _ unknown => cases known.symm.trans unknown
    | child _ known' passed obstructed =>
      cases known.symm.trans known'
      exact Or.inl ⟨_, _, _, rfl, passed, obstructed⟩
    | fault _ known' below faulty =>
      cases known.symm.trans known'
      exact Or.inr ⟨below, _, faulty, rfl⟩
  · rintro (⟨before, child, after, rfl, passed, obstructed⟩ | ⟨below, reason, faulty, rfl⟩)
    · exact .child fresh known passed obstructed
    · exact .fault fresh known below faulty

theorem passed_iff (fresh : node ∉ path) (known : graph.children node = some children) :
    graph.Passed path node other ↔ graph.PassedIn (node :: path) children other ∨
      graph.ClearAll (node :: path) children ∧ graph.fault node = none ∧ other = node := by
  constructor
  · intro passed
    cases passed with
    | here clear =>
      obtain ⟨below, sound⟩ := (clear_iff fresh known).mp clear
      exact Or.inr ⟨below, sound, rfl⟩
    | child _ known' earlier passed =>
      cases known.symm.trans known'
      exact Or.inl ⟨_, _, _, rfl, earlier, passed⟩
  · rintro (⟨before, child, after, rfl, earlier, passed⟩ | ⟨below, sound, rfl⟩)
    · exact .child fresh known earlier passed
    · exact .here (.visit fresh known below sound)

theorem clearAll_cons :
    graph.ClearAll path (node :: nodes) ↔ graph.Clear path node ∧ graph.ClearAll path nodes :=
  List.forall_mem_cons

theorem obstructedIn_cons : graph.ObstructedIn path (node :: nodes) obstacle ↔
    graph.Obstructed path node obstacle ∨
      graph.Clear path node ∧ graph.ObstructedIn path nodes obstacle := by
  constructor
  · rintro ⟨before, child, after, split, clear, obstructed⟩
    rcases List.cons_eq_append_iff.mp split with ⟨rfl, same⟩ | ⟨rest, rfl, rfl⟩
    · cases same
      exact Or.inl obstructed
    · obtain ⟨first, others⟩ := clearAll_cons.mp clear
      exact Or.inr ⟨first, rest, child, after, rfl, others, obstructed⟩
  · rintro (obstructed | ⟨clear, before, child, after, rfl, others, obstructed⟩)
    · exact ⟨[], node, nodes, rfl, nofun, obstructed⟩
    · exact ⟨node :: before, child, after, rfl, clearAll_cons.mpr ⟨clear, others⟩, obstructed⟩

theorem passedIn_cons : graph.PassedIn path (node :: nodes) other ↔
    graph.Passed path node other ∨ graph.Clear path node ∧ graph.PassedIn path nodes other := by
  constructor
  · rintro ⟨before, child, after, split, clear, passed⟩
    rcases List.cons_eq_append_iff.mp split with ⟨rfl, same⟩ | ⟨rest, rfl, rfl⟩
    · cases same
      exact Or.inl passed
    · obtain ⟨first, others⟩ := clearAll_cons.mp clear
      exact Or.inr ⟨first, rest, child, after, rfl, others, passed⟩
  · rintro (passed | ⟨clear, before, child, after, rfl, others, passed⟩)
    · exact ⟨[], node, nodes, rfl, nofun, passed⟩
    · exact ⟨node :: before, child, after, rfl, clearAll_cons.mpr ⟨clear, others⟩, passed⟩

/-! ## At most one obstacle -/

theorem Clear.unobstructed (clear : graph.Clear path node) : ¬graph.Obstructed path node obstacle := by
  induction clear with
  | visit fresh known below sound ih =>
    intro obstructed
    rcases (obstructed_iff fresh known).mp obstructed with
      ⟨before, child, after, rfl, -, later⟩ | ⟨-, reason, faulty, -⟩
    · exact ih child (by simp) later
    · cases sound.symm.trans faulty

theorem ClearAll.unobstructed (clear : graph.ClearAll path nodes) :
    ¬graph.ObstructedIn path nodes obstacle := by
  rintro ⟨before, node, after, rfl, -, obstructed⟩
  exact (clear node (by simp)).unobstructed obstructed

/-- Visits in turn that come to a node that is not clear end there. -/
theorem obstructed_of_in {before after : List α} (clear : graph.ClearAll path before)
    (blocked : ¬graph.Clear path node)
    (obstructed : graph.ObstructedIn path (before ++ node :: after) obstacle) :
    graph.Obstructed path node obstacle := by
  induction before with
  | nil =>
    rcases obstructedIn_cons.mp obstructed with here | ⟨first, -⟩
    · exact here
    · exact absurd first blocked
  | cons sibling before ih =>
    obtain ⟨first, others⟩ := clearAll_cons.mp clear
    rcases obstructedIn_cons.mp obstructed with here | ⟨-, later⟩
    · exact absurd here first.unobstructed
    · exact ih others later

theorem ClearAll.passedIn_iff (clear : graph.ClearAll path nodes) :
    graph.PassedIn path nodes other ↔ ∃ node ∈ nodes, graph.Passed path node other := by
  constructor
  · rintro ⟨before, node, after, rfl, -, passed⟩
    exact ⟨node, by simp, passed⟩
  · rintro ⟨node, member, passed⟩
    obtain ⟨before, after, rfl⟩ := List.append_of_mem member
    refine ⟨before, node, after, rfl, fun earlier among => clear earlier ?_, passed⟩
    exact List.mem_append_left _ among

/-- Nothing after a node that is not clear is passed. -/
theorem passedIn_append_iff {before after : List α} (clear : graph.ClearAll path before)
    (blocked : ¬graph.Clear path node) :
    graph.PassedIn path (before ++ node :: after) other ↔
      (∃ earlier ∈ before, graph.Passed path earlier other) ∨ graph.Passed path node other := by
  induction before with
  | nil => simp [passedIn_cons, blocked]
  | cons sibling before ih =>
    obtain ⟨first, others⟩ := clearAll_cons.mp clear
    rw [List.cons_append, passedIn_cons, ih others]
    simp [first, or_assoc]

theorem Obstructed.unique {first second : Obstacle α ε} (obstructed : graph.Obstructed path node first)
    (again : graph.Obstructed path node second) : first = second := by
  induction obstructed generalizing second with
  | cycle member =>
    cases again with
    | cycle _ => rfl
    | missing fresh _ => exact absurd member fresh
    | child fresh _ _ _ => exact absurd member fresh
    | fault fresh _ _ _ => exact absurd member fresh
  | missing fresh unknown =>
    cases again with
    | cycle member => exact absurd member fresh
    | missing _ _ => rfl
    | child _ known _ _ => cases unknown.symm.trans known
    | fault _ known _ _ => cases unknown.symm.trans known
  | child fresh known passed obstructed ih =>
    rcases (obstructed_iff fresh known).mp again with later | ⟨clear, -⟩
    · exact ih (obstructed_of_in passed (fun clear => clear.unobstructed obstructed) later)
    · exact absurd obstructed (clear _ (by simp)).unobstructed
  | fault fresh known below faulty =>
    rcases (obstructed_iff fresh known).mp again with later | ⟨-, reason, faulty', rfl⟩
    · exact absurd later (ClearAll.unobstructed below)
    · cases faulty.symm.trans faulty'
      rfl

/-! ## What a visit reaches -/

/-- Only a known node outside the path is entered. -/
theorem Passed.entered (passed : graph.Passed path node other) :
    node ∉ path ∧ graph.children node ≠ none := by
  cases passed with
  | here clear =>
    cases clear with
    | visit fresh known _ _ => exact ⟨fresh, by simp [known]⟩
  | child fresh known _ _ => exact ⟨fresh, by simp [known]⟩

/-- Nothing that a clear node reaches is unknown or on the path. -/
theorem Clear.reached (clear : graph.Clear path node)
    (reaches : Relation.ReflTransGen graph.Edge node other) :
    (∃ children, graph.children other = some children) ∧ other ∉ path := by
  induction clear with
  | visit fresh known below sound ih =>
    rcases reaches.cases_head with rfl | ⟨child, ⟨children, known', member⟩, rest⟩
    · exact ⟨⟨_, known⟩, fresh⟩
    · cases known.symm.trans known'
      obtain ⟨exists_, outside⟩ := ih child member rest
      exact ⟨exists_, fun on => outside (List.mem_cons_of_mem _ on)⟩

/-- A clear node reaches no cycle. -/
theorem Clear.acyclic (clear : graph.Clear path node)
    (reaches : Relation.ReflTransGen graph.Edge node other) :
    ¬Relation.TransGen graph.Edge other other := by
  induction clear with
  | visit fresh known below sound ih =>
    rcases reaches.cases_head with rfl | ⟨child, ⟨children, known', member⟩, rest⟩
    · intro around
      obtain ⟨child, ⟨children, known', member⟩, back⟩ := Relation.TransGen.head'_iff.mp around
      cases known.symm.trans known'
      exact ((below child member).reached back).2 List.mem_cons_self
    · cases known.symm.trans known'
      exact ih child member rest

theorem Clear.passed (clear : graph.Clear path node)
    (reaches : Relation.ReflTransGen graph.Edge node other) : graph.Passed path node other := by
  induction clear with
  | visit fresh known below sound ih =>
    rcases reaches.cases_head with rfl | ⟨child, ⟨children, known', member⟩, rest⟩
    · exact .here (.visit fresh known below sound)
    · cases known.symm.trans known'
      obtain ⟨before, after, rfl⟩ := List.append_of_mem member
      refine .child fresh known (fun sibling earlier => below sibling ?_) (ih child member rest)
      exact List.mem_append_left _ earlier

/-- A cycle that a visit ends at closes on its path or below it. -/
theorem Obstructed.around (obstructed : graph.Obstructed path node (.cycle other)) :
    Relation.ReflTransGen graph.Edge node other ∧
      (other ∈ path ∨ Relation.TransGen graph.Edge other other) := by
  generalize same : Obstacle.cycle other = obstacle at obstructed
  induction obstructed with
  | cycle again =>
    cases same
    exact ⟨.refl, Or.inl again⟩
  | missing fresh unknown => cases same
  | fault fresh known below faulty => cases same
  | child fresh known passed obstructed ih =>
    obtain ⟨reaches, closed⟩ := ih same
    have edge : graph.Edge _ _ := ⟨_, known, List.mem_append_right _ List.mem_cons_self⟩
    refine ⟨.head edge reaches, ?_⟩
    rcases closed with on | around
    · rcases List.mem_cons.mp on with rfl | above
      · exact Or.inr (Relation.TransGen.head' edge reaches)
      · exact Or.inl above
    · exact Or.inr around

theorem Obstructed.unknown (obstructed : graph.Obstructed path node (.missing other)) :
    Relation.ReflTransGen graph.Edge node other ∧ graph.children other = none := by
  generalize same : Obstacle.missing other = obstacle at obstructed
  induction obstructed with
  | cycle again => cases same
  | missing fresh unknown =>
    cases same
    exact ⟨.refl, unknown⟩
  | fault fresh known below faulty => cases same
  | child fresh known passed obstructed ih =>
    obtain ⟨reaches, unknown⟩ := ih same
    exact ⟨.head ⟨_, known, List.mem_append_right _ List.mem_cons_self⟩ reaches, unknown⟩

end VisitGraph

end Apcos.Lib
