import Apcos.Source.Cognition.CommandRouter
import Apcos.Source.Cognition.IntentParser
import Apcos.Source.Memory.Calls
import Apcos.Source.Session.Identity

/-!
# Interaction controller

interface/interaction_controller.py with the default parser, router, identity
resolver and access control, and core/cognition/explanation_engine.py. The
proactive controller and the reasoning engine hold neither the store nor the
router; they are computations on the outside world here, and any of them may
raise.
-/
namespace Apcos.Source.Session

open Apcos.Lib
open Apcos.Source.Python (Value Dict Exc DateTime Runtime strip startsWith controlsToBlank)
open Apcos.Source.Bridge (Wire)
open Apcos.Source.Memory
open Apcos.Source.Cognition

/-! ## Explanation engine -/

def errorTemplate : ErrorCode → String
  | .lowConfidence => "I could not execute that because command confidence was too low."
  | .invalidEntity => "I could not execute that because details were invalid."
  | .invalidIntentShape => "I could not execute that because the command format was invalid."
  | .invalidTransition =>
    "I could not execute that because the lifecycle transition is not allowed."
  | .unsupportedIntent => "I could not execute that because the intent is unsupported."
  | .accessDenied => "Access denied for your current identity tier."
  | .internalError => "I could not execute that due to an internal system error."

def actionTemplate : CommandStatus → Action → Option String
  | .executed, .createTask => some "Your task has been scheduled successfully."
  | .executed, .completeTask => some "Your task has been marked as completed."
  | .executed, .cancelTask => some "Your task has been archived."
  | .challengeRequired, .completeTask =>
    some "Before proceeding, please confirm this action aligns with your goal."
  | .challengeRequired, .cancelTask =>
    some "Before archiving, please confirm this action aligns with your goal."
  | _, _ => none

def generateResponse (result : CommandResult) : String :=
  match result.errorCode with
  | some code => errorTemplate code
  | none => (actionTemplate result.status result.action).getD (errorTemplate .internalError)

/-! ## Controller -/

structure SessionState (ω : Type) where
  router : RouterState ω
  identity : IdentityContext

def SessionState.routerLens (ω : Type) : Lens (SessionState ω) (RouterState ω) where
  get s := s.router
  set router s := { s with router }
  get_set _ _ := rfl
  set_get _ := rfl
  set_set _ _ _ := rfl

/-- The dict `_build_proactive_context` makes; three of its entries are constants. -/
structure ProactiveContext where
  lastAction : String
  taskId : Value

structure StrategyOutput where
  safeToPresent : Bool
  summary : String
  strategySteps : List String

/-- A suggestion is its message. -/
structure InteractionController (ω : Type) where
  router : CommandRouter ω
  evaluateProactive : ProactiveContext → Comp Exc ω (List String)
  recalibrateThreshold : Comp Exc ω Unit
  generateStrategy : String → Comp Exc ω StrategyOutput

def isStrategyMode (py : Runtime) (text : String) : Bool :=
  startsWith (py.lower text) "/strategy" || startsWith (py.lower text) "strategy:"

def sanitizeForReasoning (text : String) : String :=
  String.ofList ((strip (controlsToBlank text)).toList.take 500)

/-- `_parse_strategy_request(text).sanitized_query`. -/
def sanitizedQuery (py : Runtime) (text : String) : String :=
  let cleaned := strip text
  let rawQuery :=
    if startsWith (py.lower cleaned) "/strategy" then strip (String.ofList (cleaned.toList.drop 9))
    else strip (String.ofList ((cleaned.toList.dropWhile (· != ':')).drop 1))
  sanitizeForReasoning rawQuery

def stepLines (steps : List String) : List String :=
  (steps.take 5).zipIdx.filterMap fun (step, index) =>
    let cleaned := strip step
    if cleaned = "" then none else some (toString (index + 1) ++ ". " ++ cleaned)

def renderStrategy (output : StrategyOutput) : String :=
  let summary := strip output.summary
  if summary = "" ∧ output.strategySteps = [] then "No strategy available."
  else "\n".intercalate
    ((if summary = "" then "Strategy:" else "Strategy: " ++ summary) ::
      stepLines output.strategySteps)

/-- The dicts handed to the explanation engine by the two error responses. -/
def refusal (auditId : String) (errorCode : ErrorCode) (metadata : Dict) : CommandResult :=
  ⟨.rejected, .unknown, auditId, .commandRejected, metadata, some errorCode, none⟩

def safeInternalError : String :=
  generateResponse (refusal "interaction-error" .internalError [])

def accessDeniedResponse (intentType : String) (identity : IdentityContext) : String :=
  generateResponse (refusal "access-denied" .accessDenied
    [("intent_type", .str intentType), ("identity_tier", .str identity.tier.value)])

namespace InteractionController

variable {ω α : Type}

def py (controller : InteractionController ω) : Runtime := controller.router.py

def onRouter (m : Comp Exc (RouterState ω) α) : Comp Exc (SessionState ω) α :=
  Comp.zoom (SessionState.routerLens ω) m

/-- A collaborator acts on the outside world. -/
def onOutside (m : Comp Exc ω α) : Comp Exc (SessionState ω) α :=
  onRouter (CommandRouter.onMemory (Comp.zoom (MemoryState.wireLens ω) (Comp.zoom (Wire.envLens ω) m)))

def currentIdentity : Comp Exc (SessionState ω) IdentityContext := fun s => (.ok s.identity, s)

def routerAuditCount : Comp Exc (SessionState ω) Nat := fun s =>
  (.ok s.router.auditEvents.length, s)

def handleStrategyInput (controller : InteractionController ω) (rawText : String) :
    Comp Exc (SessionState ω) String := do
  let query := sanitizedQuery controller.py rawText
  if query = "" then return "Provide a strategy request after /strategy."
  else do
    let beforeAudit ← routerAuditCount
    match ← Comp.attempt (onOutside (controller.generateStrategy query)) with
    | .error _ => return safeInternalError
    | .ok output => do
      let afterAudit ← routerAuditCount
      if afterAudit ≠ beforeAudit then return safeInternalError
      else if !output.safeToPresent then return safeInternalError
      else return renderStrategy output

/-- Only an executed command is followed by suggestions; recalibration never raises. -/
def processPostAction (controller : InteractionController ω) (result : CommandResult) :
    Comp Exc (SessionState ω) String := do
  if result.status ≠ .executed then return ""
  else do
    let messages ← onOutside (controller.evaluateProactive
      ⟨result.action.value, Dict.get result.metadata "task_id"⟩)
    let _ ← Comp.attempt (onOutside controller.recalibrateThreshold)
    return "\n".intercalate ((messages.map strip).filterMap fun message =>
      if message = "" then none else some ("Proactive: " ++ message))

/-- The body of the `try`: `.error` is the refused intent type. -/
def parseAndRoute (controller : InteractionController ω) (text : String) :
    Comp Exc (SessionState ω) (Except String CommandResult) := do
  let current ← onOutside (Comp.ofState controller.router.taskStore.host.datetimeNow)
  let intent ← Comp.ofExcept (parseIntent controller.py text current)
  let intentType ← Comp.ofExcept
    (Python.str controller.py (Dict.getD intent "intent_type" (.str "")))
  let identity ← currentIdentity
  if !isAllowed controller.py intentType identity then return .error intentType
  else do
    let result ← onRouter (controller.router.route (.dict intent))
    return .ok result

def handleCommand (controller : InteractionController ω) (text : String) :
    Comp Exc (SessionState ω) String := do
  match ← Comp.attempt (controller.parseAndRoute text) with
  | .error _ => return safeInternalError
  | .ok (.error intentType) => do
    let identity ← currentIdentity
    return accessDeniedResponse intentType identity
  | .ok (.ok result) => do
    let proactiveSuffix ← controller.processPostAction result
    if proactiveSuffix = "" then return generateResponse result
    else return generateResponse result ++ "\n" ++ proactiveSuffix

def handleStrategy (controller : InteractionController ω) (text : String) :
    Comp Exc (SessionState ω) String := do
  let identity ← currentIdentity
  if !isAllowed controller.py "strategy" identity then
    return accessDeniedResponse "strategy" identity
  else controller.handleStrategyInput text

/-- `handle_input` after the resolver. -/
def handleResolved (controller : InteractionController ω) (text : String) :
    Option IdentityContext → Comp Exc (SessionState ω) String
  | some identity => do
    Comp.modify fun s => { s with identity }
    return "Logged in as " ++ identity.tier.value ++ "."
  | none =>
    if isStrategyMode controller.py text then controller.handleStrategy text
    else controller.handleCommand text

def handleInput (controller : InteractionController ω) (userText : String) :
    Comp Exc (SessionState ω) String :=
  let text := strip userText
  if text = "" then return "Please enter a command."
  else do
    let resolved ← Comp.ofExcept (resolveIdentity controller.py text)
    controller.handleResolved text resolved

def setIdentity (identity : IdentityContext) (s : SessionState ω) : SessionState ω :=
  { s with identity }

/-- A controller starts with the default identity. -/
def initialState (router : RouterState ω) : SessionState ω := ⟨router, defaultIdentity⟩

end InteractionController

/-- Calls on a controller. -/
inductive SessionCall where
  | handleInput (text : String)
  | setIdentity (identity : IdentityContext)

/-- The state after a call, returned or raised. -/
def sessionStep {ω : Type} (controller : InteractionController ω) (s : SessionState ω) :
    SessionCall → SessionState ω
  | .handleInput text => (controller.handleInput text s).2
  | .setIdentity identity => InteractionController.setIdentity identity s

/-! ## A controller on the first day of the calendar, with silent collaborators -/

/-- Reads the two dates the session writes. -/
def firstDayRuntime : Runtime :=
  { Python.asciiRuntime with
    fromisoformat := fun text =>
      if text = "0001-01-01T00:00:00+00:00" then some ⟨Python.firstInstant, some Python.utcOffset⟩
      else if text = "0001-01-02T09:00:00+00:00" then
        some ⟨⟨33 * 3600 * 10 ^ 6, by decide⟩, some Python.utcOffset⟩
      else none }

def firstDayController : InteractionController Nat where
  router :=
    { taskStore := { localModules.store with py := firstDayRuntime }
      challengeLogic := ⟨.finite (1 / 2), fun _ => ""⟩
      minConfidence := defaultMinConfidence
      enableChallengeGate := true }
  evaluateProactive _ := pure []
  recalibrateThreshold := pure ()
  generateStrategy _ := pure ⟨true, "", []⟩

def emptyRouterState : RouterState Nat := ⟨.initial 0, ⟨[], []⟩, []⟩

end Apcos.Source.Session
