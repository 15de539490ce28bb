import Apcos.Source.Python.Patterns

/-!
# Session identity and access control

core/identity/identity_context.py, identity_resolver.py, tier_policy.py and
access_control.py. An identity context cannot be built without a user id; its
tier is one of the three valid ones.
-/
namespace Apcos.Source.Session

open Apcos.Lib.Regex
open Apcos.Source.Python

inductive IdentityTier where
  | owner | family | guest
  deriving DecidableEq, Repr

def IdentityTier.value : IdentityTier → String
  | .owner => "OWNER"
  | .family => "FAMILY"
  | .guest => "GUEST"

def IdentityTier.ofValue (value : String) : Option IdentityTier :=
  [IdentityTier.owner, .family, .guest].find? fun tier => tier.value == value

structure IdentityContext where
  userId : String
  tier : IdentityTier
  authenticated : Bool
  identified : userId ≠ ""

/-- `IdentityContext(user_id, tier, authenticated)` with its `__post_init__`. -/
def IdentityContext.create (py : Runtime) (userId tier : String) (authenticated : Bool) :
    Except Exc IdentityContext :=
  if identified : strip userId = "" then .error ⟨.valueError, "user_id must not be empty"⟩
  else
    match IdentityTier.ofValue (py.upper (strip tier)) with
    | none => .error ⟨.valueError, "Unsupported identity tier: " ++ tier⟩
    | some valid => .ok ⟨strip userId, valid, authenticated, identified⟩

/-! ## Resolver -/

/-- `[A-Za-z0-9_.-]` under `IGNORECASE`. -/
def isUserIdChar (c : Char) : Bool :=
  isAsciiLower (foldLetter c) || ('0' ≤ c && c ≤ '9') || c == '_' || c == '.' || c == '-'

/-- `^\s*login\s+(?P<tier>owner|family|guest)(?:\s+(?P<user_id>[A-Za-z0-9_.-]+))?\s*$`. -/
def loginPattern : Pattern Char := chain
  [spaces, caselessWord "login", someSpaces,
    .group "tier" (.either (caselessWord "owner")
      (.either (caselessWord "family") (caselessWord "guest"))),
    .optional (chain [someSpaces, .group "user_id" (.run isUserIdChar 1 none false)]),
    spaces, atEnd]

def loginMatch (input : String) : Option (Found Char) :=
  firstMatch loginPattern (strip input).toList

/-- The resolver's pattern matches the input. -/
def isLoginCommand (input : String) : Bool := (loginMatch input).isSome

def defaultIdentity : IdentityContext := ⟨"owner_session", .owner, true, by decide⟩

/-- `none` is no login command; a matched tier that upper-cases to no valid one raises. -/
def resolveIdentity (py : Runtime) (input : String) : Except Exc (Option IdentityContext) :=
  match loginMatch input with
  | none => .ok none
  | some found =>
    let tier := py.upper ((textGroup found "tier").getD "")
    let userId := (textGroup found "user_id").getD (py.lower tier ++ "_session")
    (IdentityContext.create py userId tier true).map some

/-! ## Access control -/

inductive Permission where
  | create | complete | archive | strategy
  deriving DecidableEq, Repr

/-- `PERMISSIONS`. -/
def permissions : IdentityTier → List Permission
  | .owner => [.create, .complete, .archive, .strategy]
  | .family => [.complete, .strategy]
  | .guest => [.strategy]

/-- `INTENT_TO_ACTION`. -/
def intentToAction : List (String × Permission) :=
  [("create_task", .create), ("schedule_task", .create), ("complete_task", .complete),
    ("mark_completed", .complete), ("archive_task", .archive), ("cancel_task", .archive),
    ("strategy", .strategy)]

/-- The action of an intent type, after normalization. -/
def actionOf (py : Runtime) (intentType : String) : Option Permission :=
  intentToAction.lookup (py.lower (strip intentType))

def isAllowed (py : Runtime) (intentType : String) (identity : IdentityContext) : Bool :=
  if !identity.authenticated then false
  else
    match actionOf py intentType with
    | none => false
    | some action => (permissions identity.tier).contains action

theorem isAllowed_iff (py : Runtime) (intentType : String) (identity : IdentityContext) :
    isAllowed py intentType identity = true ↔
      identity.authenticated = true ∧
        ∃ action, actionOf py intentType = some action ∧ action ∈ permissions identity.tier := by
  unfold isAllowed
  cases identity.authenticated with
  | false => simp
  | true =>
    cases actionOf py intentType with
    | none => simp
    | some action => simp

end Apcos.Source.Session
