import Apcos.Lib.Runs
import Apcos.Source.Voice.ModelManager

/-!
# The cached model and the selected size

voice/model_manager.py. A run records what its loader answered for which size and how often
a model was stored. The retry without an argument catches whatever the loader raises, and
works with the default size: after a downgrade it caches a model of the size that was given
up. Any loader, on any state of its own, keeps the cache in step with the size exactly as
long as this retry does not answer for another size and no answer is `None`.
-/
namespace Apcos.Guarantees.CachedModel

open Apcos.Lib
open Apcos.Source.Python
open Apcos.Source.Voice
open Apcos.Source.Behavior (ModelSize)

variable {ω α : Type}

/-- The loader takes the size as an optional argument whose default is SMALL. -/
structure TakesSize (loader : ModelLoader ω α) : Prop where
  optional : ∃ parameters, loader.parameters = .ok parameters ∧ 1 ≤ parameters
  default : loader.call none = loader.call (some .small)

/-- A call of the loader: the size it was for and what it answered. -/
abbrev Answer (α : Type) := ModelSize × Except Exc (Option α)

/-- The loader, with a record of its answers. -/
def recording (loader : ModelLoader ω α) : ModelLoader (ω × List (Answer α)) α where
  parameters := loader.parameters
  call modelSize := fun (w, answers) =>
    let answer := loader.call modelSize w
    (answer.1, answer.2, answers ++ [(modelSize.getD .small, answer.1)])

inductive ModelCall where
  | loadAsrModel (now : PyFloat)
  | unloadAsrModel
  | unloadIfIdle (idleSeconds : PyFloat) (force : Bool) (now : PyFloat)
  | downgradeModel
  | upgradeModel
  | markTranscriptionStart (now : PyFloat)
  | markTranscriptionEnd (now : PyFloat)

/-- A manager, the state of its loader, the answers so far, and how often a model was stored. -/
structure Run (ω α : Type) where
  manager : ModelManager α
  world : ω
  answers : List (Answer α)
  stored : Nat

def Run.start (world : ω) : Run ω α := ⟨.create, world, [], 0⟩

/-- A model is stored when a manager without one has one after the call. -/
def Run.after (r : Run ω α) (manager : ModelManager α) (loaded : ω × List (Answer α)) :
    Run ω α where
  manager := manager
  world := loaded.1
  answers := loaded.2
  stored := if r.manager.model.isNone && manager.model.isSome then r.stored + 1 else r.stored

variable (fp : Arithmetic) (loader : ModelLoader ω α) (sizes : ObjectSizes α)

def step (r : Run ω α) : ModelCall → Run ω α
  | .loadAsrModel now =>
    let loaded := ((ModelManager.loadAsrModel (recording loader) sizes now)
      (r.manager, r.world, r.answers)).2
    r.after loaded.1 loaded.2
  | .unloadAsrModel => r.after r.manager.unloadAsrModel (r.world, r.answers)
  | .unloadIfIdle idleSeconds force now =>
    r.after (r.manager.unloadIfIdle fp idleSeconds force now).2 (r.world, r.answers)
  | .downgradeModel => r.after r.manager.downgradeModel.2 (r.world, r.answers)
  | .upgradeModel => r.after r.manager.upgradeModel.2 (r.world, r.answers)
  | .markTranscriptionStart now =>
    r.after (r.manager.markTranscriptionStart now) (r.world, r.answers)
  | .markTranscriptionEnd now => r.after (r.manager.markTranscriptionEnd now) (r.world, r.answers)

/-- The cached model is the loader's last answer, and that was for the current size. -/
structure Matches (r : Run ω α) : Prop where
  cached : ∀ model, r.manager.model = some model →
    r.answers.getLast? = some (r.manager.modelSize, .ok (some model))
  empty : r.manager.model = none → r.manager.estimatedModelBytes = 0
  counted : r.manager.loadCount = r.stored

/-- Asked for a size, the loader answers with a model, or raises and the retry for the default
size raises too, unless SMALL was asked for: then the retry may answer with a model. -/
def Answers (loader : ModelLoader ω α) (modelSize : ModelSize) (w : ω) : Prop :=
  match loader.call (some modelSize) w with
  | (.ok model, _) => model.isSome = true
  | (.error _, w') =>
    match loader.call (some .small) w' with
    | (.ok model, _) => model.isSome = true ∧ modelSize = .small
    | (.error _, _) => True

/-- A load that finds no model meets a loader that answers for the current size. -/
def Answered (r : Run ω α) : ModelCall → Prop
  | .loadAsrModel _ => r.manager.model = none → Answers loader r.manager.modelSize r.world
  | _ => True

/-! ## One call -/

/-- A call that keeps the cached model, its size and the books. -/
theorem matches_of_same {r : Run ω α} (holds : Matches r) {m : ModelManager α}
    (model : m.model = r.manager.model) (modelSize : m.modelSize = r.manager.modelSize)
    (bytes : m.estimatedModelBytes = r.manager.estimatedModelBytes)
    (count : m.loadCount = r.manager.loadCount) : Matches (r.after m (r.world, r.answers)) where
  cached cached same := by
    rw [Run.after, modelSize]
    exact holds.cached cached (model.symm.trans same)
  empty none_ := bytes.trans (holds.empty (model.symm.trans none_))
  counted := by
    rw [Run.after, model]
    cases cached : r.manager.model <;> exact count.trans holds.counted

/-- A call that clears the cache with its estimate. -/
theorem matches_of_cleared {r : Run ω α} (holds : Matches r) {m : ModelManager α}
    (model : m.model = none) (bytes : m.estimatedModelBytes = 0)
    (count : m.loadCount = r.manager.loadCount) : Matches (r.after m (r.world, r.answers)) where
  cached cached same := by
    rw [Run.after, model] at same
    cases same
  empty _ := bytes
  counted := by
    rw [Run.after, model, Option.isSome_none, Bool.and_false]
    exact count.trans holds.counted

theorem unloadIfIdle_matches {r : Run ω α} (holds : Matches r) (idleSeconds : PyFloat)
    (force : Bool) (now : PyFloat) :
    Matches (step fp loader sizes r (.unloadIfIdle idleSeconds force now)) := by
  simp only [step, ModelManager.unloadIfIdle]
  split
  · exact matches_of_same holds rfl rfl rfl rfl
  · split
    · exact matches_of_same holds rfl rfl rfl rfl
    · split
      · exact matches_of_same holds rfl rfl rfl rfl
      · split
        · exact matches_of_same holds rfl rfl rfl rfl
        · exact matches_of_cleared holds rfl rfl rfl

theorem resize_matches {r : Run ω α} (holds : Matches r) :
    Matches (step fp loader sizes r .downgradeModel) ∧
      Matches (step fp loader sizes r .upgradeModel) := by
  simp only [step, ModelManager.downgradeModel, ModelManager.upgradeModel]
  constructor
  · split
    · exact matches_of_same holds rfl rfl rfl rfl
    · exact matches_of_cleared holds rfl rfl rfl
  · split
    · exact matches_of_same holds rfl rfl rfl rfl
    · exact matches_of_cleared holds rfl rfl rfl

/-! ## A load -/

variable {loader}

theorem callLoader_recording (takes : TakesSize loader) (modelSize : ModelSize) (w : ω)
    (answers : List (Answer α)) :
    callLoader (recording loader) modelSize (w, answers) =
      match loader.call (some modelSize) w with
      | (.ok model, w') => (.ok model, w', answers ++ [(modelSize, .ok model)])
      | (.error e, w') =>
        ((loader.call (some .small) w').1, (loader.call (some .small) w').2,
          answers ++ [(modelSize, .error e)] ++ [(.small, (loader.call (some .small) w').1)]) := by
  obtain ⟨parameters, signature, positive⟩ := takes.optional
  have signature : (recording loader).parameters = .ok parameters := signature
  rw [callLoader_of_optional signature positive, Comp.handle]
  simp only [recording, takes.default, Option.getD_some, Option.getD_none]
  rcases loader.call (some modelSize) w with ⟨answer, w'⟩
  cases answer with
  | ok model => rfl
  | error e => rfl

/-- A load that finds no model stores what the loader answered last, if that is a model. -/
theorem after_load_iff {r : Run ω α} (holds : Matches r) (none_ : r.manager.model = none)
    (model : Option α) (w : ω) (answers : List (Answer α)) (modelSize : ModelSize) (now : PyFloat) :
    Matches (r.after
        { r.manager with
          model
          loadCount := r.manager.loadCount + 1
          estimatedModelBytes := estimateModelSize sizes model
          lastUsedAt := now }
        (w, answers ++ [(modelSize, .ok model)])) ↔
      model.isSome = true ∧ modelSize = r.manager.modelSize := by
  constructor
  · intro matched
    cases model with
    | none =>
      have count := matched.counted
      simp only [Run.after, none_, Option.isNone_none, Option.isSome_none, Bool.and_false,
        Bool.false_eq_true, if_false] at count
      have before := holds.counted
      omega
    | some cached =>
      have last := matched.cached cached rfl
      rw [Run.after, List.getLast?_concat] at last
      exact ⟨rfl, congrArg Prod.fst (Option.some.inj last)⟩
  · rintro ⟨some_, rfl⟩
    obtain ⟨cached, rfl⟩ := Option.isSome_iff_exists.mp some_
    exact {
      cached := by
        rintro other same
        cases same
        exact List.getLast?_concat
      empty := nofun
      counted := by
        simp only [Run.after, none_, Option.isNone_none, Option.isSome_some, Bool.and_true, if_true]
        exact congrArg (· + 1) holds.counted }

/-- A load that raises leaves everything but the answers as it was. -/
theorem after_raise {r : Run ω α} (holds : Matches r) (none_ : r.manager.model = none)
    (loaded : ω × List (Answer α)) : Matches (r.after r.manager loaded) where
  cached cached same := by
    cases none_.symm.trans same
  empty := holds.empty
  counted := by
    rw [Run.after, none_, Option.isSome_none, Bool.and_false]
    exact holds.counted

/-- A load ends with a matching model exactly when the loader answered it. -/
theorem load_iff (takes : TakesSize loader) {r : Run ω α} (holds : Matches r) (now : PyFloat) :
    Matches (step fp loader sizes r (.loadAsrModel now)) ↔
      Answered loader r (.loadAsrModel now) := by
  cases cached : r.manager.model with
  | some model =>
    refine iff_of_true ?_ (fun none_ => absurd (cached.symm.trans none_) nofun)
    simp only [step, ModelManager.loadAsrModel, cached]
    exact matches_of_same holds cached.symm rfl rfl rfl
  | none =>
    have answers := callLoader_recording takes r.manager.modelSize r.world r.answers
    simp only [step, ModelManager.loadAsrModel, cached, Answered, forall_const, Answers, answers]
    rcases loader.call (some r.manager.modelSize) r.world with ⟨answer, w⟩
    cases answer with
    | ok model =>
      refine (after_load_iff sizes holds cached model w r.answers r.manager.modelSize now).trans ?_
      exact and_iff_left rfl
    | error e =>
      dsimp only
      rcases loader.call (some .small) w with ⟨again, w'⟩
      cases again with
      | ok model =>
        refine (after_load_iff sizes holds cached model w' _ .small now).trans ?_
        exact and_congr_right fun _ => eq_comm
      | error e' => exact iff_of_true (after_raise holds cached _) trivial

theorem step_iff (takes : TakesSize loader) {r : Run ω α} (call : ModelCall) (holds : Matches r) :
    Matches (step fp loader sizes r call) ↔ Answered loader r call := by
  cases call with
  | loadAsrModel now => exact load_iff fp sizes takes holds now
  | unloadAsrModel => exact iff_of_true (matches_of_cleared holds rfl rfl rfl) trivial
  | unloadIfIdle idleSeconds force now =>
    exact iff_of_true (unloadIfIdle_matches fp loader sizes holds idleSeconds force now) trivial
  | downgradeModel => exact iff_of_true (resize_matches fp loader sizes holds).1 trivial
  | upgradeModel => exact iff_of_true (resize_matches fp loader sizes holds).2 trivial
  | markTranscriptionStart now => exact iff_of_true (matches_of_same holds rfl rfl rfl rfl) trivial
  | markTranscriptionEnd now => exact iff_of_true (matches_of_same holds rfl rfl rfl rfl) trivial

/-! ## Whole runs -/

theorem matches_start (world : ω) : Matches (Run.start world : Run ω α) where
  cached _ same := by cases same
  empty _ := rfl
  counted := rfl

/-- The cached model is the loader's answer for the current size in every state of a run,
exactly if every load that finds none meets a loader that answers for the current size. -/
theorem cached_model_matches_iff (takes : TakesSize loader) (world : ω) (calls : List ModelCall) :
    (∀ before after, calls = before ++ after →
        Matches (run (step fp loader sizes) (.start world) before)) ↔
      Along (step fp loader sizes) (Answered loader) (.start world) calls :=
  forall_reached_iff_along (fun _ call holds => step_iff fp sizes takes call holds) _
    (matches_start world) calls

/-- The sizes of the fallback models; `None` has 16 bytes. -/
def fallbackSizes : ObjectSizes FallbackASRModel where
  estimatedBytes
    | some model => .ok model.estimatedBytes
    | none => .error ⟨.attributeError, "'NoneType' object has no attribute 'estimated_bytes'"⟩
  sizeof _ := .ok 16

theorem defaultModelLoader_takesSize : TakesSize defaultModelLoader where
  optional := ⟨1, rfl, Nat.le_refl 1⟩
  default := rfl

/-- The default loader answers for either size, so its models always match. -/
theorem cached_model_matches_iff_default :
    Along (step exact defaultModelLoader fallbackSizes) (Answered defaultModelLoader) (.start ())
        [.downgradeModel, .loadAsrModel (.finite 1)] ∧
      ∀ before after, [ModelCall.downgradeModel, .loadAsrModel (.finite 1)] = before ++ after →
        Matches (run (step exact defaultModelLoader fallbackSizes) (.start ()) before) := by
  have answered : Along (step exact defaultModelLoader fallbackSizes)
      (Answered defaultModelLoader) (.start ()) [.downgradeModel, .loadAsrModel (.finite 1)] :=
    ⟨trivial, fun _ => rfl, trivial⟩
  exact ⟨answered,
    (cached_model_matches_iff exact fallbackSizes defaultModelLoader_takesSize () _).mpr answered⟩

/-! ## A loader that raises for one size -/

/-- A loader of small models only: for TINY it raises. -/
def smallOnlyLoader : ModelLoader Unit FallbackASRModel where
  parameters := .ok 1
  call modelSize :=
    match modelSize with
    | some .tiny => Comp.raise ⟨.runtimeError, "no tiny model"⟩
    | _ => pure (some ⟨.small⟩)

/-- After a downgrade a load caches the small model while the selected size is TINY. -/
theorem downgraded_load_caches_small :
    TakesSize smallOnlyLoader ∧
      let r := run (step exact smallOnlyLoader fallbackSizes) (.start ())
        [.downgradeModel, .loadAsrModel (.finite 1)]
      r.manager.model = some ⟨.small⟩ ∧ r.manager.modelSize = .tiny ∧ ¬Matches r := by
  refine ⟨⟨⟨1, rfl, Nat.le_refl 1⟩, rfl⟩, rfl, rfl, ?_⟩
  intro matched
  cases matched.cached ⟨.small⟩ rfl

end Apcos.Guarantees.CachedModel
