import Apcos.Source.Cognition.ProactiveController
import Apcos.Source.Cognition.ReasoningEngine
import Apcos.Source.Session.InteractionController

/-!
# Container

apcos/bootstrap/container.py:40-109 and core/cognition/command_router.py:596-622: the
interaction controller as the application builds it. The router and the calibration
engine read the configuration file each for itself; what they find there is given, and
the `proactive` section comes from the configuration already loaded. The proactive
controller is a part of the outside world of the session.
-/
namespace Apcos.Source.Bootstrap

open Apcos.Lib
open Apcos.Source.Python
open Apcos.Source.Bridge (HostApi)
open Apcos.Source.Memory (EncryptionLayer MemoryState)
open Apcos.Source.Cognition
open Apcos.Source.Session

variable {ω : Type}

/-! ## Settings of the router -/

structure RouterSettings where
  minConfidence : PyFloat
  enableChallengeGate : Bool

def RouterSettings.defaults : RouterSettings := ⟨defaultMinConfidence, true⟩

/-- `_load_settings` and the conversions of its result: `parsed` is what the YAML file holds,
`none` when there is no file or no parser. -/
def loadSettings (py : Runtime) (parsed : Option Value) : Except Exc RouterSettings :=
  match parsed with
  | none => .ok .defaults
  | some value =>
    match if value.truthy then value else .dict [] with
    | .dict loaded =>
      match Dict.getD loaded "command_router" (.dict []) with
      | .dict part => do
        let minConfidence ← float py
          (Dict.getD part "min_confidence" (.float RouterSettings.defaults.minConfidence))
        return ⟨minConfidence, (Dict.getD part "enable_challenge_gate"
          (.bool RouterSettings.defaults.enableChallengeGate)).truthy⟩
      | _ => .ok .defaults
    | _ => .error ⟨.attributeError, "object has no attribute 'get'"⟩

/-! ## The scan after a command -/

/-- `_build_proactive_context`. -/
def contextDict (context : ProactiveContext) : Dict :=
  [("last_action", .str context.lastAction), ("task_id", context.taskId),
    ("overdue_tasks", .int 0), ("scheduled_tasks_today", .int 0),
    ("goal_alignment_score", .float (.finite 1))]

section
variable (py : Runtime) (fp : Arithmetic)

/-- The constants of the context meet no pattern. -/
theorem detect_context (context : ProactiveContext) :
    detect py fp .default (contextDict context) = .ok [] := by
  have aligned : (PyFloat.finite 1).lt (hundredths 60) = false := by decide +kernel
  have missed : detectMissed py fp (contextDict context) = .ok [] := rfl
  have overload : detectOverload py fp .default (contextDict context) = .ok [] := rfl
  have deviation : detectDeviation py fp .default (contextDict context) = .ok [] := by
    have score : float py (Dict.getD (contextDict context) "goal_alignment_score"
        (.float (.finite 1))) = .ok (.finite 1) := rfl
    rw [detectDeviation, score, ok_bind, PatternDetector.default, aligned]
    rfl
  rw [detect, missed, overload, deviation]
  rfl

/-- A scan finds nothing, or fails to print the id of the task; the settings stay. -/
theorem evaluate_context {c : ProactiveController}
    (detector : c.config.patternDetector = .default) (context : ProactiveContext)
    (current : DateTime) :
    ((c.evaluate py fp (contextDict context) current false).1 = .ok [] ∨
        ∃ exc, extractTaskId py (contextDict context) = .error exc ∧
          (c.evaluate py fp (contextDict context) current false).1 = .error exc) ∧
      (c.evaluate py fp (contextDict context) current false).2.config = c.config := by
  unfold ProactiveController.evaluate
  dsimp only
  rw [detector, detect_context]
  split
  · exact ⟨Or.inl rfl, rfl⟩
  · split
    · exact ⟨Or.inl rfl, rfl⟩
    · cases printed : extractTaskId py (contextDict context) with
      | error exc =>
        simp only [Except.bind, rank, printed]
        exact ⟨Or.inr ⟨exc, rfl, rfl⟩, rfl⟩
      | ok taskId =>
        simp only [Except.bind, rank, printed]
        exact ⟨Or.inl rfl, rfl⟩

end

/-! ## Wiring -/

/-- `StubLLMClient.generate`. -/
def stubClient (_prompt : String) : Option String :=
  some ("Focus on your highest-priority goal first. " ++
    "Break work into small time-boxed actions. " ++ "Review progress at the end of the day.")

/-- What the application takes from the interpreter and its libraries. -/
structure Platform (ω : Type) where
  py : Runtime
  fp : Arithmetic
  words : WordClass
  host : HostApi ω
  sha1Hexdigest : String → String
  encryption : EncryptionLayer

/-- The outside world of a session, with the proactive controller in it. -/
structure AppOutside (ω : Type) where
  outside : ω
  proactive : ProactiveController
  detector : proactive.config.patternDetector = .default

/-- The host, beside the proactive controller. -/
def besideProactive (host : HostApi ω) : HostApi (AppOutside ω) where
  timestampMs s := ((host.timestampMs s.outside).1, { s with outside := (host.timestampMs s.outside).2 })
  uuid4 s := ((host.uuid4 s.outside).1, { s with outside := (host.uuid4 s.outside).2 })
  datetimeNow s :=
    ((host.datetimeNow s.outside).1, { s with outside := (host.datetimeNow s.outside).2 })

/-- `AppContainer`, after its `__post_init__`. -/
structure AppContainer (ω : Type) where
  platform : Platform ω
  router : RouterSettings
  proactive : ProactiveController
  detector : proactive.config.patternDetector = .default

/-- `_get_mapping`. -/
def getMapping : Value → Dict
  | .dict entries => entries
  | _ => []

theorem create_config {config : ProactiveConfig} {c : ProactiveController}
    (created : ProactiveController.create config = .ok c) : c.config = config := by
  unfold ProactiveController.create at created
  split_ifs at created
  cases created
  rfl

/-- `routerFile` and `calibrationFile` are what the two reads of the configuration file give. -/
def AppContainer.create (platform : Platform ω) (config : Dict)
    (routerFile : Except Exc (Option Value)) (calibrationFile : Option Value) :
    Except Exc (AppContainer ω) := do
  let proactiveCfg := getMapping (Dict.getD config "proactive" (.dict []))
  let confidenceThreshold ← float platform.py
    (Dict.getD proactiveCfg "confidence_threshold" (.float (hundredths 70)))
  let dailyLimit ← int platform.py (Dict.getD proactiveCfg "daily_limit" (.int 3))
  let router ← routerFile.bind (loadSettings platform.py)
  let calibration ← CalibrationConfig.load platform.py hundredths calibrationFile
  let proactiveConfig : ProactiveConfig := { confidenceThreshold, dailyLimit, calibration }
  match created : ProactiveController.create proactiveConfig with
  | .error exc => throw exc
  | .ok proactive =>
    return { platform, router, proactive, detector := by rw [create_config created] }

namespace AppContainer

def evaluateProactive (app : AppContainer ω) (context : ProactiveContext) :
    Comp Exc (AppOutside ω) (List String) := fun s =>
  let current := app.platform.host.datetimeNow s.outside
  let evaluated :=
    s.proactive.evaluate app.platform.py app.platform.fp (contextDict context) current.1 false
  (evaluated.1.map fun suggestions => suggestions.map (·.message),
    { outside := current.2
      proactive := evaluated.2
      detector := by
        rw [(evaluate_context app.platform.py app.platform.fp s.detector context current.1).2]
        exact s.detector })

def recalibrateThreshold (app : AppContainer ω) : Comp Exc (AppOutside ω) Unit := fun s =>
  (.ok (), { s with proactive := s.proactive.recalibrateThreshold app.platform.fp })

/-- The reasoning engine with its stub client, on the context of a strategy request. -/
def generateStrategy (app : AppContainer ω) (query : String) :
    Comp Exc (AppOutside ω) StrategyOutput :=
  Comp.ofExcept ((Cognition.generateStrategy app.platform.words app.platform.py stubClient
    [("goal", .str query), ("notes", .str query)]).map fun output =>
      ⟨output.safeToPresent, output.summary, output.strategySteps⟩)

def commandRouter (app : AppContainer ω) : CommandRouter (AppOutside ω) where
  taskStore :=
    { py := app.platform.py
      host := besideProactive app.platform.host
      encryption := app.platform.encryption }
  challengeLogic := ⟨.finite (1 / 2), app.platform.sha1Hexdigest⟩
  minConfidence := app.router.minConfidence
  enableChallengeGate := app.router.enableChallengeGate

/-- `controller`. -/
def controller (app : AppContainer ω) : InteractionController (AppOutside ω) where
  router := app.commandRouter
  evaluateProactive := app.evaluateProactive
  recalibrateThreshold := app.recalibrateThreshold
  generateStrategy := app.generateStrategy

/-- The state after construction: an empty table in memory and the default identity. -/
def initialState (app : AppContainer ω) (outside : ω) : SessionState (AppOutside ω) :=
  InteractionController.initialState
    ⟨.initial ⟨outside, app.proactive, app.detector⟩, ⟨[], []⟩, []⟩

end AppContainer

/-- `build_app`, once the configuration is loaded. -/
def buildApp (platform : Platform ω) (config : Dict) (routerFile : Except Exc (Option Value))
    (calibrationFile : Option Value) : Except Exc (InteractionController (AppOutside ω)) :=
  (AppContainer.create platform config routerFile calibrationFile).map AppContainer.controller

end Apcos.Source.Bootstrap
