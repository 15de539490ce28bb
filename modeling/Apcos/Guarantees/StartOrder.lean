import Apcos.Guarantees.ServiceStarts

/-!
# The order in which all services are started

os/src/runtime/service_registry.rs:31-35, 88-95 and 115-148. The loop follows the order of a
hash map and stops at the first error. What it returns and leaves running is the same for all
orders when nothing is obstructed, or when whatever is comes to the same.
-/
namespace Apcos.Guarantees.StartOrder

open Apcos.Lib
open Apcos.Source.Supervisor
open Apcos.Guarantees.ServiceDependencies
open Apcos.Guarantees.ServiceStarts

variable {S : Type} (trait : Service S)

/-- Whatever the order of the keys, the same result and the same running services. -/
def OrderIndependent (s : Supervision S) : Prop :=
  ∀ keys keys', keys.Perm s.registry.services.keys → keys'.Perm s.registry.services.keys →
    (startAll trait keys s).1 = (startAll trait keys' s).1 ∧
      ∀ name, (startAll trait keys s).2.registry.isRunning trait name =
        (startAll trait keys' s).2.registry.isRunning trait name

/-- A visit of the first service starts the second, or fails to and leaves it running. -/
def Raises (r : ServiceRegistry S) (name other : String) : Prop :=
  (startGraph trait r).Passed [] name other ∨
    ∃ reason, (startGraph trait r).Obstructed [] name (.fault other ⟨reason, true⟩)

/-- All obstructed services meet the same error, and each of them raises all that any service
does and that does not run anyway. -/
def Unanimous (r : ServiceRegistry S) : Prop :=
  ∀ name ∈ r.services.keys, ∀ obstacle, (startGraph trait r).Obstructed [] name obstacle →
    ∀ other ∈ r.services.keys,
      (∀ obstacle', (startGraph trait r).Obstructed [] other obstacle' →
        obstacleError obstacle' = obstacleError obstacle) ∧
      ∀ raised, Raises trait r other raised →
        r.isRunning trait raised = true ∨ Raises trait r name raised

variable {trait}

theorem raises_iff {r : ServiceRegistry S} {name other : String}
    {obstacle : Obstacle String StartFailure}
    (met : (startGraph trait r).Obstructed [] name obstacle) :
    Raises trait r name other ↔
      (startGraph trait r).Passed [] name other ∨ LeftRunning obstacle other := by
  unfold Raises LeftRunning
  constructor
  · rintro (passed | ⟨reason, faulty⟩)
    · exact Or.inl passed
    · exact Or.inr ⟨reason, met.unique faulty⟩
  · rintro (passed | ⟨reason, rfl⟩)
    · exact Or.inl passed
    · exact Or.inr ⟨reason, met⟩

/-- All services are started, or all before the first obstructed one. -/
theorem startAll_cases (lawful : StartsRunning trait) (keys : List String) (s : Supervision S) :
    ((startGraph trait s.registry).ClearAll [] keys ∧ (startAll trait keys s).1 = .ok () ∧
      ∀ other, (startAll trait keys s).2.registry.isRunning trait other = true ↔
        s.registry.isRunning trait other = true ∨
          ∃ name ∈ keys, (startGraph trait s.registry).Passed [] name other) ∨
    ∃ before name after obstacle, keys = before ++ name :: after ∧
      (startGraph trait s.registry).ClearAll [] before ∧
      (startGraph trait s.registry).Obstructed [] name obstacle ∧
      (startAll trait keys s).1 = .error (obstacleError obstacle) ∧
      ∀ other, (startAll trait keys s).2.registry.isRunning trait other = true ↔
        s.registry.isRunning trait other = true ∨
          (∃ earlier ∈ before, (startGraph trait s.registry).Passed [] earlier other) ∨
          Raises trait s.registry name other := by
  have outcome := forEach_outcome (fun name t seen => startService_outcome lawful t name seen)
    keys s rfl
  unfold startAll
  generalize Comp.forEach (startService trait) keys s = out at outcome
  cases outcome with
  | passed s' made isClear log succeeded same runs =>
    refine Or.inl ⟨isClear, rfl, fun other => ?_⟩
    rw [runs, isClear.passedIn_iff]
  | stopped s' made obstacle met log failed runs =>
    obtain ⟨before, name, after, rfl, isClear, obstructed⟩ := met
    refine Or.inr ⟨before, name, after, obstacle, rfl, isClear, obstructed, rfl, fun other => ?_⟩
    have blocked : ¬(startGraph trait s.registry).Clear [] name :=
      fun clear => clear.unobstructed obstructed
    rw [runs, VisitGraph.passedIn_append_iff isClear blocked, raises_iff obstructed, or_assoc]

/-- An obstructed service that comes first decides everything. -/
theorem startAll_obstructed (lawful : StartsRunning trait) {name : String} (rest : List String)
    {s : Supervision S} {obstacle : Obstacle String StartFailure}
    (met : (startGraph trait s.registry).Obstructed [] name obstacle) :
    (startAll trait (name :: rest) s).1 = .error (obstacleError obstacle) ∧
      ∀ other, (startAll trait (name :: rest) s).2.registry.isRunning trait other = true ↔
        s.registry.isRunning trait other = true ∨ Raises trait s.registry name other := by
  rcases startAll_cases lawful (name :: rest) s with
    ⟨clear, -⟩ | ⟨before, first, after, obstacle', split, clear, met', raised, runs⟩
  · exact absurd met (clear name List.mem_cons_self).unobstructed
  · rcases List.cons_eq_append_iff.mp split with ⟨rfl, same⟩ | ⟨_, rfl, -⟩
    · cases same
      refine ⟨by rw [raised, met.unique met'], fun other => ?_⟩
      rw [runs]
      simp
    · exact absurd met (clear name List.mem_cons_self).unobstructed

/-- What a service raises runs in the end if it comes first. -/
theorem startAll_raises (lawful : StartsRunning trait) {name other : String} (rest : List String)
    {s : Supervision S} (raises : Raises trait s.registry name other) :
    (startAll trait (name :: rest) s).2.registry.isRunning trait other = true := by
  rcases raises with passed | ⟨reason, faulty⟩
  · rcases startAll_cases lawful (name :: rest) s with
      ⟨-, -, runs⟩ | ⟨before, first, after, obstacle, split, -, -, -, runs⟩
    · exact (runs other).mpr (Or.inr ⟨name, List.mem_cons_self, passed⟩)
    · refine (runs other).mpr (Or.inr ?_)
      rcases List.cons_eq_append_iff.mp split with ⟨rfl, same⟩ | ⟨_, rfl, -⟩
      · cases same
        exact Or.inr (Or.inl passed)
      · exact Or.inl ⟨name, List.mem_cons_self, passed⟩
  · exact ((startAll_obstructed lawful rest faulty).2 other).mpr (Or.inr (Or.inr ⟨reason, faulty⟩))

theorem unanimous_of_independent (lawful : StartsRunning trait) {s : Supervision S}
    (independent : OrderIndependent trait s) : Unanimous trait s.registry := by
  intro name registered obstacle met other registered'
  obtain ⟨result, running⟩ := independent _ _ (List.perm_cons_erase registered).symm
    (List.perm_cons_erase registered').symm
  obtain ⟨raised, runs⟩ := startAll_obstructed lawful (s.registry.services.keys.erase name) met
  refine ⟨fun obstacle' met' => ?_, fun started raises => ?_⟩
  · rw [raised, (startAll_obstructed lawful _ met').1] at result
    exact (Except.error.inj result).symm
  · apply (runs started).mp
    rw [running]
    exact startAll_raises lawful _ raises

/-- Under a unanimous registry the obstructed service that ends the loop raises everything. -/
theorem startAll_unanimous (lawful : StartsRunning trait) {s : Supervision S}
    (unanimous : Unanimous trait s.registry) {keys : List String}
    (order : keys.Perm s.registry.services.keys) :
    ((startGraph trait s.registry).ClearAll [] s.registry.services.keys ∧
      (startAll trait keys s).1 = .ok () ∧
      ∀ other, (startAll trait keys s).2.registry.isRunning trait other = true ↔
        s.registry.isRunning trait other = true ∨
          ∃ name ∈ s.registry.services.keys,
            (startGraph trait s.registry).Passed [] name other) ∨
    ∃ name ∈ s.registry.services.keys, ∃ obstacle,
      (startGraph trait s.registry).Obstructed [] name obstacle ∧
      (startAll trait keys s).1 = .error (obstacleError obstacle) ∧
      ∀ other, (startAll trait keys s).2.registry.isRunning trait other = true ↔
        s.registry.isRunning trait other = true ∨ Raises trait s.registry name other := by
  rcases startAll_cases lawful keys s with
    ⟨clear, returned, runs⟩ | ⟨before, name, after, obstacle, rfl, -, met, raised, runs⟩
  · refine Or.inl ⟨fun name registered => clear name (order.mem_iff.mpr registered), returned, ?_⟩
    intro other
    simp only [runs, order.mem_iff]
  · have registered : name ∈ s.registry.services.keys := order.mem_iff.mp (by simp)
    refine Or.inr ⟨name, registered, obstacle, met, raised, fun other => ?_⟩
    rw [runs]
    constructor
    · rintro (running | ⟨earlier, among, passed⟩ | raises)
      · exact Or.inl running
      · have listed : earlier ∈ s.registry.services.keys := order.mem_iff.mp (by simp [among])
        exact (unanimous name registered obstacle met earlier listed).2 other (Or.inl passed)
      · exact Or.inr raises
    · rintro (running | raises)
      · exact Or.inl running
      · exact Or.inr (Or.inr raises)

/-- Where all obstructed services meet the same error, the order does not show. -/
theorem independent_of_unanimous (lawful : StartsRunning trait) {s : Supervision S}
    (unanimous : Unanimous trait s.registry) : OrderIndependent trait s := by
  intro keys keys' order order'
  rcases startAll_unanimous lawful unanimous order with
    ⟨clear, returned, runs⟩ | ⟨name, registered, obstacle, met, raised, runs⟩
  · rcases startAll_unanimous lawful unanimous order' with
      ⟨-, returned', runs'⟩ | ⟨name', registered', obstacle', met', -⟩
    · refine ⟨by rw [returned, returned'], fun other => ?_⟩
      rw [Bool.eq_iff_iff, runs, runs']
    · exact absurd met' (clear name' registered').unobstructed
  · rcases startAll_unanimous lawful unanimous order' with
      ⟨clear, -⟩ | ⟨name', registered', obstacle', met', raised', runs'⟩
    · exact absurd met (clear name registered).unobstructed
    · obtain ⟨sameError, among⟩ := unanimous name registered obstacle met name' registered'
      obtain ⟨-, among'⟩ := unanimous name' registered' obstacle' met' name registered
      refine ⟨by rw [raised, raised', sameError obstacle' met'], fun other => ?_⟩
      rw [Bool.eq_iff_iff, runs, runs']
      constructor
      · rintro (running | raises)
        · exact Or.inl running
        · exact among' other raises
      · rintro (running | raises)
        · exact Or.inl running
        · exact among other raises

/-- Starting all services comes to the same in every order exactly if the registry is
unanimous: with no obstructed service, or only with such as come to the same. -/
theorem order_independent_iff (trait : Service S) (lawful : StartsRunning trait)
    (s : Supervision S) : OrderIndependent trait s ↔ Unanimous trait s.registry :=
  ⟨unanimous_of_independent lawful, independent_of_unanimous lawful⟩

theorem order_independent_iff_diamond :
    OrderIndependent stubService diamond ↔ Unanimous stubService diamond.registry :=
  order_independent_iff stubService (fun _ _ => rfl) diamond

/-- A stub whose start fails under one name. -/
def fragileService : Service (String × Bool) where
  name := Prod.fst
  start s := if s.1 = "broken" then (.error "cannot start", s) else (.ok (), (s.1, true))
  stop s := (.ok (), (s.1, false))
  isRunning := Prod.snd

def brokenAndSound : Supervision (String × Bool) :=
  run (requestStep fragileService) .default
    [.register ("broken", false) [], .register ("sound", false) []]

/-- The service that starts runs afterwards only if its turn comes first. -/
theorem start_order_matters : ¬OrderIndependent fragileService brokenAndSound := by
  intro independent
  obtain ⟨-, running⟩ :=
    independent ["sound", "broken"] ["broken", "sound"] (by decide) (by decide)
  have different := running "sound"
  revert different
  decide

end Apcos.Guarantees.StartOrder
