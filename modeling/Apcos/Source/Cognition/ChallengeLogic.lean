import Apcos.Lib.Comp
import Apcos.Source.Python.Text

/-!
# Challenge logic

core/cognition/challenge_logic.py. The two key sets are the state of the
component; the digest of a challenge id is a parameter.
-/
namespace Apcos.Source.Cognition

open Apcos.Lib
open Apcos.Source.Python (Exc PyFloat Runtime strip split)

structure ChallengeLogic where
  challengeThreshold : PyFloat
  sha1Hexdigest : String → String

structure ChallengeState where
  challengedKeys : List (Int × String)
  rejectedKeys : List (Int × String)
  deriving DecidableEq, Repr

structure ChallengePayload where
  challengeId : String
  taskId : Int
  action : String
  goal : String
  alignmentScore : PyFloat
  message : String
  timestamp : String
  deriving DecidableEq

def normalizeAction (py : Runtime) (action : String) : String :=
  " ".intercalate (split (strip (py.lower action)))

namespace ChallengeLogic

def challengeId (logic : ChallengeLogic) (taskId : Int) (actionKey : String) : String :=
  "challenge-" ++ String.ofList
    ((logic.sha1Hexdigest (toString taskId ++ ":" ++ actionKey)).toList.take 12)

/-- `none` unless the action is new to the key sets and scores below the threshold. -/
def evaluate {σ : Type} (logic : ChallengeLogic) (py : Runtime) (keys : Lens σ ChallengeState)
    (utcNowIso : Comp Exc σ String) (taskId : Int) (proposedAction declaredGoal : String)
    (alignmentScore : PyFloat) (userOverrode : Bool) : Comp Exc σ (Option ChallengePayload) := do
  let cacheKey := (taskId, normalizeAction py proposedAction)
  let state ← Comp.zoom keys Comp.get
  if userOverrode then return none
  else if state.rejectedKeys.contains cacheKey then return none
  else if state.challengedKeys.contains cacheKey then return none
  else if logic.challengeThreshold.le alignmentScore then return none
  else do
    Comp.zoom keys (Comp.modify fun state =>
      { state with challengedKeys := cacheKey :: state.challengedKeys })
    let timestamp ← utcNowIso
    return some
      { challengeId := logic.challengeId taskId cacheKey.2, taskId, action := proposedAction,
        goal := declaredGoal, alignmentScore,
        message := "This action appears misaligned with your stated goal. Continue anyway?",
        timestamp }

/-- `record_response`. -/
def recordResponse (py : Runtime) (taskId : Int) (proposedAction : String) (accepted : Bool)
    (state : ChallengeState) : ChallengeState :=
  if accepted then state
  else { state with
    rejectedKeys := (taskId, normalizeAction py proposedAction) :: state.rejectedKeys }

end ChallengeLogic

end Apcos.Source.Cognition
