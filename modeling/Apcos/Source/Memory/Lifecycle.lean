import Apcos.Source.Bridge.Gates

/-!
# Task lifecycle

core/memory/lifecycle_manager.py. The external authorizer is any computation on
the outside world; it may answer with a decision, a bool or anything else, and
it may raise. The transition log is a list to which the manager appends.
-/
namespace Apcos.Source.Memory

open Apcos.Lib
open Apcos.Source.Python (Exc DateTime Runtime Value)
open Apcos.Source.Bridge (HostApi Wire)

inductive TaskState where
  | created | active | completed | archived
  deriving DecidableEq, Repr

def TaskState.value : TaskState → String
  | .created => "CREATED"
  | .active => "ACTIVE"
  | .completed => "COMPLETED"
  | .archived => "ARCHIVED"

/-- `TaskState(value)`; `none` is its `ValueError`. -/
def TaskState.ofValue (value : String) : Option TaskState :=
  [TaskState.created, .active, .completed, .archived].find? fun state => state.value == value

/-- `LEGACY_ALLOWED_TRANSITIONS`. -/
def legacyAllowedTransitions : TaskState → List TaskState
  | .created => [.active, .archived]
  | .active => [.completed, .archived]
  | .completed => [.archived]
  | .archived => []

def legacyAllowed (source target : TaskState) : Bool :=
  (legacyAllowedTransitions source).contains target

structure TransitionRecord where
  taskId : Int
  fromState : TaskState
  toState : TaskState
  changedAtUtc : DateTime
  deriving DecidableEq

structure LifecycleDecision where
  allowed : Bool
  reason : Option String
  deriving DecidableEq, Repr

/-- What an external authorizer may return. -/
inductive AuthorizerResult where
  | decision (d : LifecycleDecision)
  | bool (b : Bool)
  | other
  deriving DecidableEq, Repr

/-- `LifecycleManager`; its log is part of the state. -/
structure LifecycleManager (ω : Type) where
  transitionAuthorizer : Option (Int → TaskState → TaskState → Comp Exc ω AuthorizerResult) := none
  allowLegacyFallback : Bool := true

/-- An enum member is the string of its value, so one argument type serves both. -/
def normalizeState (py : Runtime) (state : String) : Except Exc TaskState :=
  match TaskState.ofValue state with
  | some member => .ok member
  | none =>
    .error ⟨.invalidStateTransitionError, "Unknown task state: " ++ py.repr (.str state)⟩

variable {ω : Type}

def LifecycleManager.authorizeTransition (manager : LifecycleManager ω) (taskId : Int)
    (fromState toState : TaskState) : Comp Exc ω LifecycleDecision :=
  match manager.transitionAuthorizer with
  | some authorizer => do
    let rawResult ← authorizer taskId fromState toState
    match rawResult with
    | .decision d => return d
    | .bool b => return ⟨b, if b then none else some "EXTERNAL_DENIED"⟩
    | .other => return ⟨false, some "EXTERNAL_INVALID_RESULT"⟩
  | none =>
    if manager.allowLegacyFallback then
      let allowed := legacyAllowed fromState toState
      return ⟨allowed, if allowed then none else some "LEGACY_INVALID_TRANSITION"⟩
    else return ⟨false, some "LIFECYCLE_AUTH_UNAVAILABLE"⟩

/-- ` (reason)` when there is a non-empty reason. -/
def reasonSuffix (reason : Option String) : String :=
  match reason with
  | none => ""
  | some s => if s = "" then "" else " (" ++ s ++ ")"

/-- No state of the matrix leads to `CREATED`, and none leads out of `ARCHIVED`. -/
theorem legacyAllowed_ends (source target : TaskState) (allowed : legacyAllowed source target = true) :
    target ≠ .created ∧ source ≠ .archived := by
  cases source <;> cases target <;> first | decide | exact absurd allowed (by decide)

end Apcos.Source.Memory
