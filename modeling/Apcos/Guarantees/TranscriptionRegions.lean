import Apcos.Lib.Parties
import Apcos.Lib.Runs
import Apcos.Source.Voice.AsrEngine

/-!
# Transcriptions hold the model

voice/asr_engine_real.py:24-47 and voice/model_manager.py:66-158. Transcriptions of any number of
callers run at once, some of them after their callers gave up, while others load, resize and unload
the model. The manager counts the transcriptions under way exactly, so an idle unloading waits
for all of them; and no call returns the text of another.
-/
namespace Apcos.Guarantees.TranscriptionRegions

open Apcos.Lib
open Apcos.Source.Python
open Apcos.Source.Voice

variable {ω α : Type}

def active (call : TranscribeCall α) : Bool := call.region.isActive

/-- What the call returned is what `transcribe` makes of no answer, or of its own thread's. -/
structure Honest (call : TranscribeCall α) : Prop where
  speech : call.caller = .joining → call.audio ≠ []
  own : ∀ text, call.caller = .returned text → ∃ answer, text = transcribe call.audio answer ∧
    ∀ given, answer = some given → call.region = .ended given

theorem transcribe_none (audio : List UInt8) : transcribe audio none = "" := by
  unfold transcribe
  split
  · rfl
  · decide

theorem transcribe_some {audio : List UInt8} (speech : audio ≠ []) (text : String) :
    transcribe audio (some text) = normalizeText text := if_neg speech

theorem honest_raised (audio : List UInt8) (e : Exc) :
    Honest (⟨audio, .raised e, .unstarted⟩ : TranscribeCall α) := by
  refine ⟨fun joining => ?_, fun text returned => ?_⟩
  · cases joining
  · cases returned

theorem honest_silent (region : RegionPoint α) : Honest ⟨[], .returned "", region⟩ := by
  refine ⟨fun joining => ?_, fun text returned => ⟨none, ?_, fun given some => ?_⟩⟩
  · cases joining
  · cases returned
    rw [transcribe_none]
  · cases some

theorem honest_joining {audio : List UInt8} (speech : audio ≠ []) (region : RegionPoint α) :
    Honest ⟨audio, .joining, region⟩ :=
  ⟨fun _ => speech, fun text returned => by cases returned⟩

/-- A thread that has not ended moves on. -/
theorem Honest.moved {call : TranscribeCall α} (honest : Honest call)
    (running : ∀ given, call.region ≠ .ended given) (region : RegionPoint α) :
    Honest { call with region } := by
  refine ⟨honest.speech, fun text returned => ?_⟩
  obtain ⟨answer, made, from_thread⟩ := honest.own text returned
  exact ⟨answer, made, fun given some => absurd (from_thread given some) (running given)⟩

theorem Honest.given_up {call : TranscribeCall α} :
    Honest { call with caller := .returned "" } := by
  refine ⟨fun joining => ?_, fun text returned => ⟨none, ?_, fun given some => ?_⟩⟩
  · cases joining
  · cases returned
    rw [transcribe_none]
  · cases some

theorem Honest.answered {call : TranscribeCall α} (honest : Honest call) {text : String}
    (joining : call.caller = .joining) (ended : call.region = .ended text) :
    Honest { call with caller := .returned (normalizeText text) } := by
  refine ⟨fun joining => ?_, fun result returned => ⟨some text, ?_, fun given some => ?_⟩⟩
  · cases joining
  · rw [← CallerPoint.returned.inj returned]
    exact (transcribe_some (honest.speech joining) text).symm
  · rw [← Option.some.inj some]
    exact ended

/-! ## One step -/

/-- Everything a step can do. -/
inductive Moved (s : AsrEngine ω α) : AsrEngine ω α → Prop
  | managed (manager : ModelManager α)
      (same : manager.activeTranscriptions = s.manager.activeTranscriptions) :
      Moved s { s with manager }
  | called (manager : ModelManager α) (world : ω) (call : TranscribeCall α)
      (same : manager.activeTranscriptions = s.manager.activeTranscriptions)
      (outside : active call = false) (honest : Honest call) :
      Moved s ⟨manager, world, s.calls ++ [call]⟩
  | turned (manager : ModelManager α) (i : Nat) (call next : TranscribeCall α)
      (here : s.calls[i]? = some call)
      (counted : manager.activeTranscriptions =
        s.manager.activeTranscriptions + (active next).toNat - (active call).toNat)
      (honest : Honest call → Honest next) :
      Moved s { s with manager, calls := s.calls.set i next }

theorem Moved.stayed (s : AsrEngine ω α) : Moved s s := .managed s.manager rfl

/-- A thread that has not ended goes on to another point. -/
theorem Moved.advanced {s : AsrEngine ω α} {i : Nat} {call : TranscribeCall α}
    (here : s.calls[i]? = some call) (running : ∀ given, call.region ≠ .ended given)
    (manager : ModelManager α) (region : RegionPoint α)
    (counted : manager.activeTranscriptions =
      s.manager.activeTranscriptions + region.isActive.toNat - (active call).toNat) :
    Moved s ({ s with manager }.setRegion i call region) :=
  .turned manager i call { call with region } here counted fun honest =>
    honest.moved running region

theorem loadAsrModel_active (loader : ModelLoader ω α) (sizes : ObjectSizes α) (now : PyFloat)
    (m : ModelManager α) (w : ω) :
    (ModelManager.loadAsrModel loader sizes now (m, w)).2.1.activeTranscriptions =
      m.activeTranscriptions := by
  unfold ModelManager.loadAsrModel
  dsimp only
  split
  · rfl
  · split <;> rfl

theorem unloadIfIdle_active (fp : Arithmetic) (m : ModelManager α) (idleSeconds : PyFloat)
    (force : Bool) (now : PyFloat) :
    (m.unloadIfIdle fp idleSeconds force now).2.activeTranscriptions = m.activeTranscriptions := by
  unfold ModelManager.unloadIfIdle
  split_ifs <;> rfl

theorem transcribe_moved (loader : ModelLoader ω α) (sizes : ObjectSizes α) (audio : List UInt8)
    (now : PyFloat) (s : AsrEngine ω α) : Moved s (s.transcribe loader sizes audio now) := by
  have same := loadAsrModel_active loader sizes now s.manager s.world
  unfold AsrEngine.transcribe
  split
  · rename_i empty
    rw [empty]
    exact .called s.manager s.world _ rfl rfl (honest_silent _)
  · rename_i speech
    split
    · rename_i e manager world raised
      rw [raised] at same
      exact .called manager world _ same rfl (honest_raised audio e)
    · rename_i model manager world loaded
      rw [loaded] at same
      exact .called manager world _ same rfl (honest_joining speech _)

theorem markStart_moved (i : Nat) (now : PyFloat) (s : AsrEngine ω α) :
    Moved s (s.markStart i now) := by
  unfold AsrEngine.markStart
  cases here : s.calls[i]? with
  | none => exact .stayed s
  | some call =>
    dsimp only
    split
    · rename_i model at_
      refine .advanced here (by simp [at_]) (s.manager.markTranscriptionStart now) _ ?_
      simp [active, at_, RegionPoint.isActive, ModelManager.markTranscriptionStart]
    all_goals exact .stayed s

theorem answer_moved (i : Nat) (text : Except Exc String) (s : AsrEngine ω α) :
    Moved s (s.answer i text) := by
  unfold AsrEngine.answer
  cases here : s.calls[i]? with
  | none => exact .stayed s
  | some call =>
    dsimp only
    split
    · rename_i model at_
      have stored (given : String) : Moved s (s.setRegion i call (.answered given)) := by
        refine .advanced here (by simp [at_]) s.manager _ ?_
        simp [active, at_, RegionPoint.isActive]
      cases text with
      | ok text => exact stored text
      | error e => exact stored ""
    all_goals exact .stayed s

theorem markEnd_moved (i : Nat) (now : PyFloat) (s : AsrEngine ω α) :
    Moved s (s.markEnd i now) := by
  unfold AsrEngine.markEnd
  cases here : s.calls[i]? with
  | none => exact .stayed s
  | some call =>
    dsimp only
    split
    · rename_i text at_
      refine .advanced here (by simp [at_]) (s.manager.markTranscriptionEnd now) _ ?_
      simp [active, at_, RegionPoint.isActive, ModelManager.markTranscriptionEnd]
    all_goals exact .stayed s

theorem join_moved (i : Nat) (timedOut : Bool) (s : AsrEngine ω α) :
    Moved s (s.join i timedOut) := by
  unfold AsrEngine.join
  cases here : s.calls[i]? with
  | none => exact .stayed s
  | some call =>
    dsimp only
    split
    · rename_i text joining ended
      exact .turned s.manager i call _ here (by simp [active])
        fun honest => honest.answered joining ended
    · split
      · exact .turned s.manager i call _ here (by simp [active]) fun _ => Honest.given_up
      · exact .stayed s
    · exact .stayed s
    · exact .stayed s

variable (fp : Arithmetic) (loader : ModelLoader ω α) (sizes : ObjectSizes α)

theorem step_moved (s : AsrEngine ω α) (label : EngineLabel) :
    Moved s (s.step fp loader sizes label) := by
  cases label with
  | transcribe audio now => exact transcribe_moved loader sizes audio now s
  | markStart call now => exact markStart_moved call now s
  | answer call text => exact answer_moved call text s
  | markEnd call now => exact markEnd_moved call now s
  | join call timedOut => exact join_moved call timedOut s
  | unloadAsrModel => exact .managed _ rfl
  | unloadIfIdle idleSeconds force now =>
    exact .managed _ (unloadIfIdle_active fp s.manager idleSeconds force now)
  | downgradeModel => exact .managed _ (by unfold ModelManager.downgradeModel; split <;> rfl)
  | upgradeModel => exact .managed _ (by unfold ModelManager.upgradeModel; split <;> rfl)

/-! ## Runs -/

/-- The manager counts the transcriptions under way. -/
structure Counted (s : AsrEngine ω α) : Prop where
  active : s.manager.activeTranscriptions = s.calls.countP active
  honest : ∀ call ∈ s.calls, Honest call

theorem counted_create (world : ω) : Counted (AsrEngine.create world : AsrEngine ω α) :=
  ⟨rfl, fun _ member => absurd member List.not_mem_nil⟩

/-- Each step keeps the count of the transcriptions under way. -/
theorem step_counted (s : AsrEngine ω α) (label : EngineLabel) (inv : Counted s) :
    Counted (s.step fp loader sizes label) := by
  have moved := step_moved fp loader sizes s label
  generalize s.step fp loader sizes label = s' at moved ⊢
  cases moved with
  | managed manager same => exact ⟨same.trans inv.active, inv.honest⟩
  | called manager world call same outside honest =>
    refine ⟨?_, fun other member => ?_⟩
    · rw [same, inv.active, List.countP_append, List.countP_singleton, outside]
      rfl
    · rcases List.mem_append.mp member with old | new
      · exact inv.honest other old
      · rw [List.mem_singleton.mp new]
        exact honest
  | turned manager i call next here counted honest =>
    refine ⟨?_, fun other member => ?_⟩
    · have set := total_set (fun call => (active call).toNat) here next
      change manager.activeTranscriptions = (s.calls.set i next).countP active
      rw [counted, inv.active, countP_eq_total, countP_eq_total]
      omega
    · rcases List.mem_or_eq_of_mem_set member with old | new
      · exact inv.honest other old
      · rw [new]
        exact honest (inv.honest call (List.mem_of_getElem? here))

theorem unloadIfIdle_iff (m : ModelManager α) (idleSeconds : PyFloat) (force : Bool)
    (now : PyFloat) :
    (m.unloadIfIdle fp idleSeconds force now).1 = true ↔
      m.activeTranscriptions = 0 ∧ m.model.isSome = true ∧
        (force = true ∨ idleSeconds.le (.finite 0) = false ∧
          (fp.sub now m.lastUsedAt).lt idleSeconds = false) := by
  unfold ModelManager.unloadIfIdle
  by_cases busy : 0 < m.activeTranscriptions
  · have counted : m.activeTranscriptions ≠ 0 := Nat.ne_of_gt busy
    split_ifs <;> simp [counted]
  · have free : m.activeTranscriptions = 0 := by omega
    cases m.model <;> cases force <;> cases idleSeconds.le (.finite 0) <;>
      cases (fp.sub now m.lastUsedAt).lt idleSeconds <;> simp [free]

theorem unloadIfIdle_refused {m : ModelManager α} {idleSeconds : PyFloat} {force : Bool}
    {now : PyFloat} (refused : (m.unloadIfIdle fp idleSeconds force now).1 = false) :
    (m.unloadIfIdle fp idleSeconds force now).2 = m := by
  unfold ModelManager.unloadIfIdle at refused ⊢
  split_ifs at refused ⊢ <;> rfl

/-- What is taken away is the model and the estimate of its size. -/
theorem unloadIfIdle_taken {m : ModelManager α} {idleSeconds : PyFloat} {force : Bool}
    {now : PyFloat} (taken : (m.unloadIfIdle fp idleSeconds force now).1 = true) :
    (m.unloadIfIdle fp idleSeconds force now).2 = m.unloadAsrModel := by
  unfold ModelManager.unloadIfIdle at taken ⊢
  split_ifs at taken ⊢
  rfl

/-- However transcriptions and the other users of the manager interleave: the manager counts
exactly the transcriptions under way, those whose callers gave up included; an unloading, forced or
not, succeeds only when there is none and then takes away the model, and one that is refused
changes nothing; and what a call returns is what its own thread answered, normalized, or nothing. -/
theorem transcriptions_hold_the_model (world : ω) (labels : List EngineLabel) :
    let s := run (AsrEngine.step fp loader sizes) (AsrEngine.create world) labels
    s.manager.activeTranscriptions = s.calls.countP active ∧
      (∀ (idleSeconds : PyFloat) (force : Bool) (now : PyFloat),
        let unloaded := s.manager.unloadIfIdle fp idleSeconds force now
        (unloaded.1 = true ↔ (∀ call ∈ s.calls, active call = false) ∧
          s.manager.model.isSome = true ∧ (force = true ∨ idleSeconds.le (.finite 0) = false ∧
            (fp.sub now s.manager.lastUsedAt).lt idleSeconds = false)) ∧
          (unloaded.1 = true → unloaded.2 =
            { s.manager with model := none, estimatedModelBytes := 0 }) ∧
          (unloaded.1 = false → unloaded.2 = s.manager)) ∧
      ∀ call ∈ s.calls, ∀ text, call.caller = .returned text →
        ∃ answer, text = transcribe call.audio answer ∧
          ∀ given, answer = some given → call.region = .ended given := by
  intro s
  have inv : Counted s := run_invariant (step_counted fp loader sizes) (AsrEngine.create world)
    (counted_create world) labels
  refine ⟨inv.active, fun idleSeconds force now =>
    ⟨?_, unloadIfIdle_taken fp, unloadIfIdle_refused fp⟩, ?_⟩
  · have none_active : s.manager.activeTranscriptions = 0 ↔ ∀ call ∈ s.calls, active call = false := by
      rw [inv.active, List.countP_eq_zero]
      simp only [Bool.not_eq_true]
    rw [unloadIfIdle_iff, none_active]
  · exact fun call member => (inv.honest call member).own

end Apcos.Guarantees.TranscriptionRegions
