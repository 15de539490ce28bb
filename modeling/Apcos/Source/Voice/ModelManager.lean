import Apcos.Lib.Comp
import Apcos.Source.Behavior.ResourceGovernor

/-!
# Model manager

voice/model_manager.py. A model object is a value of a type parameter; the loader runs on a
state of its own and may answer `None`. `now` is what the monotonic clock answers to a call.
Every method holds the lock from its first access to its last, so a call is one step. What
is logged is left out.
-/
namespace Apcos.Source.Voice

open Apcos.Lib
open Apcos.Source.Python
open Apcos.Source.Behavior (ModelSize)

structure FallbackASRModel where
  modelSize : ModelSize
  deriving DecidableEq

def FallbackASRModel.estimatedBytes (model : FallbackASRModel) : Int :=
  if model.modelSize = .small then 32 else 16

/-- A callable: how many parameters `inspect.signature` finds, and a call with a size or
without an argument. -/
structure ModelLoader (ω α : Type) where
  parameters : Except Exc Nat
  call : Option ModelSize → Comp Exc ω (Option α)

def defaultModelLoader : ModelLoader Unit FallbackASRModel where
  parameters := .ok 1
  call modelSize := pure (some ⟨modelSize.getD .small⟩)

/-- What `int(getattr(model, "estimated_bytes"))` and `int(model.__sizeof__())` answer. -/
structure ObjectSizes (α : Type) where
  estimatedBytes : Option α → Except Exc Int
  sizeof : Option α → Except Exc Int

def estimateModelSize {α : Type} (sizes : ObjectSizes α) (model : Option α) : Int :=
  match sizes.estimatedBytes model with
  | .ok bytes => bytes
  | .error _ =>
    match sizes.sizeof model with
    | .ok bytes => bytes
    | .error _ => 0

/-- The loader is called with the size when it takes a parameter. Whatever that raises, it is
called again without an argument. -/
def callLoader {ω α : Type} (loader : ModelLoader ω α) (modelSize : ModelSize) :
    Comp Exc ω (Option α) :=
  Comp.handle
    (match loader.parameters with
      | .ok parameters => if 1 ≤ parameters then loader.call (some modelSize) else loader.call none
      | .error e => Comp.raise e)
    fun _ => loader.call none

theorem callLoader_of_optional {ω α : Type} {loader : ModelLoader ω α} {parameters : Nat}
    (signature : loader.parameters = .ok parameters) (positive : 1 ≤ parameters)
    (modelSize : ModelSize) :
    callLoader loader modelSize =
      Comp.handle (loader.call (some modelSize)) fun _ => loader.call none := by
  simp only [callLoader, signature, positive, if_true]

structure ModelManager (α : Type) where
  model : Option α
  loadCount : Nat
  estimatedModelBytes : Int
  lastUsedAt : PyFloat
  modelSize : ModelSize
  activeTranscriptions : Nat

namespace ModelManager

variable {ω α : Type}

def create : ModelManager α where
  model := none
  loadCount := 0
  estimatedModelBytes := 0
  lastUsedAt := .finite 0
  modelSize := .small
  activeTranscriptions := 0

/-- A loader that raises twice leaves the manager as it was. -/
def loadAsrModel (loader : ModelLoader ω α) (sizes : ObjectSizes α) (now : PyFloat) :
    Comp Exc (ModelManager α × ω) (Option α) := fun (m, w) =>
  match m.model with
  | some model => (.ok (some model), { m with lastUsedAt := now }, w)
  | none =>
    match callLoader loader m.modelSize w with
    | (.error e, w) => (.error e, m, w)
    | (.ok model, w) =>
      (.ok model, { m with
        model
        loadCount := m.loadCount + 1
        estimatedModelBytes := estimateModelSize sizes model
        lastUsedAt := now }, w)

def unloadAsrModel (m : ModelManager α) : ModelManager α :=
  { m with model := none, estimatedModelBytes := 0 }

def markTranscriptionStart (m : ModelManager α) (now : PyFloat) : ModelManager α :=
  { m with activeTranscriptions := m.activeTranscriptions + 1, lastUsedAt := now }

def markTranscriptionEnd (m : ModelManager α) (now : PyFloat) : ModelManager α :=
  { m with activeTranscriptions := m.activeTranscriptions - 1, lastUsedAt := now }

def unloadIfIdle (fp : Arithmetic) (m : ModelManager α) (idleSeconds : PyFloat) (force : Bool)
    (now : PyFloat) : Bool × ModelManager α :=
  if idleSeconds.le (.finite 0) && !force then (false, m)
  else if m.model.isNone then (false, m)
  else if 0 < m.activeTranscriptions then (false, m)
  else if !force && (fp.sub now m.lastUsedAt).lt idleSeconds then (false, m)
  else (true, { m with model := none, estimatedModelBytes := 0 })

def downgradeModel (m : ModelManager α) : Bool × ModelManager α :=
  if m.modelSize = .tiny then (false, m)
  else (true, { m with modelSize := .tiny, model := none, estimatedModelBytes := 0 })

def upgradeModel (m : ModelManager α) : Bool × ModelManager α :=
  if m.modelSize = .small then (false, m)
  else (true, { m with modelSize := .small, model := none, estimatedModelBytes := 0 })

/-! ## The manager as the resource governor sees it -/

/-- Whether a model is cached, without the model. -/
def outline (m : ModelManager α) : Behavior.ModelManager :=
  ⟨m.modelSize, m.model.isSome, m.activeTranscriptions⟩

/-- The outline of an unload depends on the clock through one comparison. -/
theorem outline_unloadIfIdle (fp : Arithmetic) (m : ModelManager α) (idleSeconds : PyFloat)
    (force : Bool) (now : PyFloat) :
    ((m.unloadIfIdle fp idleSeconds force now).1,
        (m.unloadIfIdle fp idleSeconds force now).2.outline) =
      m.outline.unloadIfIdle idleSeconds force (!(fp.sub now m.lastUsedAt).lt idleSeconds) := by
  unfold unloadIfIdle Behavior.ModelManager.unloadIfIdle outline
  simp only [Option.not_isSome, Bool.not_not]
  split
  · rfl
  · split
    · rfl
    · split
      · rfl
      · split <;> rfl

theorem outline_downgradeModel (m : ModelManager α) :
    (m.downgradeModel.1, m.downgradeModel.2.outline) = m.outline.downgradeModel := by
  unfold downgradeModel Behavior.ModelManager.downgradeModel outline
  split <;> rfl

theorem outline_upgradeModel (m : ModelManager α) :
    (m.upgradeModel.1, m.upgradeModel.2.outline) = m.outline.upgradeModel := by
  unfold upgradeModel Behavior.ModelManager.upgradeModel outline
  split <;> rfl

end ModelManager

end Apcos.Source.Voice
