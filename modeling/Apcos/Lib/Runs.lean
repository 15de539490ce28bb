import Mathlib.Data.List.Destutter
import Mathlib.Tactic.Common

/-!
# Runs of a deterministic system

A system is a step function on states and events. What one step preserves, a
run preserves; `Along` restricts a run to steps that meet a condition on the
state they start from. A trace lists the states of a run; what is observed of
them, with repetitions dropped, follows the relation of the steps.
-/
namespace Apcos.Lib

variable {σ ε : Type}

/-- The state after a list of events. -/
def run (step : σ → ε → σ) (s : σ) (events : List ε) : σ := events.foldl step s

/-- Every step of the run meets the condition. -/
def Along (step : σ → ε → σ) (condition : σ → ε → Prop) : σ → List ε → Prop
  | _, [] => True
  | s, e :: rest => condition s e ∧ Along step condition (step s e) rest

@[simp] theorem run_nil (step : σ → ε → σ) (s : σ) : run step s [] = s := rfl

@[simp] theorem run_cons (step : σ → ε → σ) (s : σ) (e : ε) (rest : List ε) :
    run step s (e :: rest) = run step (step s e) rest := rfl

theorem run_append (step : σ → ε → σ) (s : σ) (first second : List ε) :
    run step s (first ++ second) = run step (run step s first) second :=
  List.foldl_append

theorem along_append_iff {step : σ → ε → σ} {condition : σ → ε → Prop} (s : σ)
    (first second : List ε) :
    Along step condition s (first ++ second) ↔
      Along step condition s first ∧ Along step condition (run step s first) second := by
  induction first generalizing s with
  | nil => simp [Along]
  | cons e rest ih => rw [List.cons_append, Along, Along, ih, run_cons, and_assoc]

theorem along_append {step : σ → ε → σ} {condition : σ → ε → Prop} (s : σ)
    (first second : List ε) (met : Along step condition s (first ++ second)) :
    Along step condition s first :=
  ((along_append_iff s first second).mp met).1

theorem along_and {step : σ → ε → σ} {first second : σ → ε → Prop} (s : σ) (events : List ε)
    (metFirst : Along step first s events) (metSecond : Along step second s events) :
    Along step (fun s e => first s e ∧ second s e) s events := by
  induction events generalizing s with
  | nil => trivial
  | cons e rest ih =>
    exact ⟨⟨metFirst.1, metSecond.1⟩, ih (step s e) metFirst.2 metSecond.2⟩

/-- An invariant of the steps that meet the condition holds after a run of such steps. -/
theorem run_invariant_along {step : σ → ε → σ} {condition : σ → ε → Prop} {invariant : σ → Prop}
    (preserved : ∀ s e, invariant s → condition s e → invariant (step s e)) (s : σ)
    (start : invariant s) (events : List ε) (met : Along step condition s events) :
    invariant (run step s events) := by
  induction events generalizing s with
  | nil => exact start
  | cons e rest ih => exact ih (step s e) (preserved s e start met.1) met.2

theorem along_of_forall {step : σ → ε → σ} {condition : σ → ε → Prop}
    (always : ∀ s e, condition s e) (s : σ) (events : List ε) : Along step condition s events := by
  induction events generalizing s with
  | nil => trivial
  | cons e rest ih => exact ⟨always s e, ih (step s e)⟩

theorem along_of_mem {step : σ → ε → σ} {condition : ε → Prop} {events : List ε}
    (always : ∀ e ∈ events, condition e) (s : σ) :
    Along step (fun _ e => condition e) s events := by
  induction events generalizing s with
  | nil => trivial
  | cons e rest ih =>
    obtain ⟨first, others⟩ := List.forall_mem_cons.mp always
    exact ⟨first, ih others (step s e)⟩

theorem run_invariant {step : σ → ε → σ} {invariant : σ → Prop}
    (preserved : ∀ s e, invariant s → invariant (step s e)) (s : σ) (start : invariant s)
    (events : List ε) : invariant (run step s events) :=
  run_invariant_along (fun s e holds _ => preserved s e holds) s start events
    (along_of_forall (fun _ _ => trivial) s events)

/-- Runs are simulated by those of a system that each step is simulated by. -/
theorem run_simulates {τ : Type} {step : σ → ε → σ} {step' : τ → ε → τ} {invariant : σ → Prop}
    {abstract : σ → τ} (preserved : ∀ s e, invariant s → invariant (step s e))
    (simulated : ∀ s e, invariant s → abstract (step s e) = step' (abstract s) e) (s : σ)
    (start : invariant s) (events : List ε) :
    abstract (run step s events) = run step' (abstract s) events := by
  induction events generalizing s with
  | nil => rfl
  | cons e rest ih =>
    rw [run_cons, run_cons, ← simulated s e start]
    exact ih (step s e) (preserved s e start)

theorem given_of_run {step : σ → ε → σ} {given : σ → Prop}
    (earlier : ∀ s e, given (step s e) → given s) (s : σ) (events : List ε)
    (final : given (run step s events)) : given s := by
  induction events generalizing s with
  | nil => exact final
  | cons e rest ih => exact earlier s e (ih (step s e) final)

/-- What is given of the last state is given of every state a step starts from. -/
theorem along_of_given {step : σ → ε → σ} {given : σ → Prop}
    (earlier : ∀ s e, given (step s e) → given s) (s : σ) (events : List ε)
    (final : given (run step s events)) : Along step (fun s _ => given s) s events := by
  induction events generalizing s with
  | nil => trivial
  | cons e rest ih => exact ⟨given_of_run earlier s (e :: rest) final, ih (step s e) final⟩

theorem along_of_invariant {step : σ → ε → σ} {condition : σ → ε → Prop} {invariant : σ → Prop}
    (preserved : ∀ s e, invariant s → condition s e → invariant (step s e)) (s : σ)
    (start : invariant s) (events : List ε) (met : Along step condition s events) :
    Along step (fun s _ => invariant s) s events := by
  induction events generalizing s with
  | nil => trivial
  | cons e rest ih => exact ⟨start, ih (step s e) (preserved s e start met.1) met.2⟩

/-- A property that a step keeps exactly when it meets the condition holds after a run
exactly when every step met it. What is given of the last state was so all along. -/
theorem run_iff_along_of {step : σ → ε → σ} {condition : σ → ε → Prop}
    {invariant good : σ → Prop} (given : σ → Prop) (earlier : ∀ s e, given (step s e) → given s)
    (preserved : ∀ s e, given (step s e) → invariant s → invariant (step s e))
    (kept : ∀ s e, given (step s e) → invariant s → (good (step s e) ↔ good s ∧ condition s e))
    (s : σ) (start : invariant s) (events : List ε) (final : given (run step s events)) :
    good (run step s events) ↔ good s ∧ Along step condition s events := by
  induction events generalizing s with
  | nil => simp [Along]
  | cons e rest ih =>
    have now : given (step s e) := given_of_run earlier (step s e) rest final
    rw [run_cons, ih (step s e) (preserved s e now start) final, kept s e now start, Along,
      and_assoc]

theorem run_iff_along {step : σ → ε → σ} {condition : σ → ε → Prop} {invariant good : σ → Prop}
    (preserved : ∀ s e, invariant s → invariant (step s e))
    (kept : ∀ s e, invariant s → (good (step s e) ↔ good s ∧ condition s e)) (s : σ)
    (start : invariant s) (events : List ε) :
    good (run step s events) ↔ good s ∧ Along step condition s events :=
  run_iff_along_of (fun _ => True) (fun _ _ _ => trivial) (fun s e _ => preserved s e)
    (fun s e _ => kept s e) s start events trivial

/-- When a step from a good state leads to a good one exactly if it meets the condition,
all states reached are good exactly if every step met it. -/
theorem forall_reached_iff_along {step : σ → ε → σ} {condition : σ → ε → Prop}
    {good : σ → Prop} (kept : ∀ s e, good s → (good (step s e) ↔ condition s e)) (s : σ)
    (start : good s) (events : List ε) :
    (∀ before after, events = before ++ after → good (run step s before)) ↔
      Along step condition s events := by
  induction events generalizing s with
  | nil =>
    constructor
    · exact fun _ => trivial
    · intro _ before after split
      rw [(List.append_eq_nil_iff.mp split.symm).1]
      exact start
  | cons e rest ih =>
    constructor
    · intro reached
      have next : good (step s e) := reached [e] rest rfl
      refine ⟨(kept s e start).mp next, (ih (step s e) next).mp ?_⟩
      intro before after split
      exact reached (e :: before) after (by rw [split, List.cons_append])
    · intro met before after split
      have next : good (step s e) := (kept s e start).mpr met.1
      cases before with
      | nil => exact start
      | cons first before =>
        obtain ⟨same, remaining⟩ := List.cons_eq_cons.mp split
        subst same
        exact (ih (step s e) next).mpr met.2 before after remaining

/-- Some run of steps that meet the condition leads from one state to the other. -/
def Reaches (step : σ → ε → σ) (condition : σ → ε → Prop) (s s' : σ) : Prop :=
  ∃ events, Along step condition s events ∧ run step s events = s'

theorem Reaches.refl {step : σ → ε → σ} {condition : σ → ε → Prop} (s : σ) :
    Reaches step condition s s :=
  ⟨[], trivial, rfl⟩

theorem Reaches.of_along {step : σ → ε → σ} {condition : σ → ε → Prop} {s : σ} {events : List ε}
    (met : Along step condition s events) : Reaches step condition s (run step s events) :=
  ⟨events, met, rfl⟩

theorem Reaches.trans {step : σ → ε → σ} {condition : σ → ε → Prop} {s s' s'' : σ}
    (first : Reaches step condition s s') (second : Reaches step condition s' s'') :
    Reaches step condition s s'' := by
  obtain ⟨events, met, rfl⟩ := first
  obtain ⟨later, met', rfl⟩ := second
  exact ⟨events ++ later, (along_append_iff s events later).mpr ⟨met, met'⟩, run_append step s _ _⟩

/-- All states of a run, the initial one first. -/
def trace (step : σ → ε → σ) : σ → List ε → List σ
  | s, [] => [s]
  | s, e :: rest => s :: trace step (step s e) rest

theorem trace_cons (step : σ → ε → σ) (s : σ) (events : List ε) :
    ∃ rest, trace step s events = s :: rest := by
  cases events with
  | nil => exact ⟨[], rfl⟩
  | cons e rest => exact ⟨trace step (step s e) rest, rfl⟩

theorem forall_mem_trace {step : σ → ε → σ} {invariant : σ → Prop}
    (preserved : ∀ s e, invariant s → invariant (step s e)) (s : σ) (start : invariant s)
    (events : List ε) : ∀ reached ∈ trace step s events, invariant reached := by
  induction events generalizing s with
  | nil =>
    intro reached member
    rw [List.mem_singleton.mp member]
    exact start
  | cons e rest ih =>
    intro reached member
    rcases List.mem_cons.mp member with here | later
    · rw [here]
      exact start
    · exact ih (step s e) (preserved s e start) reached later

/-- Consecutive states of a trace are related as each step relates them. -/
theorem isChain_trace {step : σ → ε → σ} {invariant : σ → Prop} {related : σ → σ → Prop}
    (preserved : ∀ s e, invariant s → invariant (step s e))
    (steps : ∀ s e, invariant s → related s (step s e)) (s : σ) (start : invariant s)
    (events : List ε) : (trace step s events).IsChain related := by
  induction events generalizing s with
  | nil => exact .singleton s
  | cons e rest ih =>
    have tail := ih (step s e) (preserved s e start)
    obtain ⟨later, shape⟩ := trace_cons step (step s e) rest
    simp only [trace]
    rw [shape] at tail ⊢
    exact List.isChain_cons_cons.mpr ⟨steps s e start, tail⟩

/-- What is observed at each step of a run. -/
def observations {ω : Type} (step : σ → ε → σ) (observe : σ → ε → ω) : σ → List ε → List ω
  | _, [] => []
  | s, e :: rest => observe s e :: observations step observe (step s e) rest

theorem getElem?_observations {ω : Type} (step : σ → ε → σ) (observe : σ → ε → ω) (s : σ)
    (events : List ε) (i : Nat) :
    (observations step observe s events)[i]? =
      events[i]?.map (observe (run step s (events.take i))) := by
  induction events generalizing s i with
  | nil => rfl
  | cons e rest ih =>
    cases i with
    | zero => rfl
    | succ i => exact ih (step s e) i

theorem observations_append {ω : Type} (step : σ → ε → σ) (observe : σ → ε → ω) (s : σ)
    (first second : List ε) :
    observations step observe s (first ++ second) =
      observations step observe s first ++ observations step observe (run step s first) second := by
  induction first generalizing s with
  | nil => rfl
  | cons e rest ih => rw [List.cons_append, observations, ih (step s e), observations, run_cons,
      List.cons_append]

/-- What holds of an observation in every state of the invariant holds of all of a run. -/
theorem forall_mem_observations {ω : Type} {step : σ → ε → σ} {observe : σ → ε → ω}
    {invariant : σ → Prop} {good : ω → Prop}
    (preserved : ∀ s e, invariant s → invariant (step s e))
    (observed : ∀ s e, invariant s → good (observe s e)) (s : σ) (start : invariant s)
    (events : List ε) : ∀ seen ∈ observations step observe s events, good seen := by
  induction events generalizing s with
  | nil => exact fun _ member => absurd member List.not_mem_nil
  | cons e rest ih =>
    intro seen member
    rcases List.mem_cons.mp member with here | later
    · rw [here]
      exact observed s e start
    · exact ih (step s e) (preserved s e start) seen later

/-- What is added at each step of a run is what was added in all. -/
theorem run_appends {ω : Type} {step : σ → ε → σ} {invariant : σ → Prop} (content : σ → List ω)
    {added : σ → ε → Option ω} (preserved : ∀ s e, invariant s → invariant (step s e))
    (appended : ∀ s e, invariant s → content (step s e) = content s ++ (added s e).toList) (s : σ)
    (start : invariant s) (events : List ε) :
    content (run step s events) = content s ++ (observations step added s events).reduceOption := by
  induction events generalizing s with
  | nil => exact (List.append_nil _).symm
  | cons e rest ih =>
    rw [run_cons, ih (step s e) (preserved s e start), appended s e start, observations,
      List.append_assoc]
    cases added s e <;> rfl

/-- Observations that are counted are those with which something is added. -/
theorem countP_observations {ω α : Type} {step : σ → ε → σ} {invariant : σ → Prop}
    {observe : σ → ε → ω} {counted : ω → Bool} {added : σ → ε → Option α}
    (preserved : ∀ s e, invariant s → invariant (step s e))
    (adds : ∀ s e, invariant s → counted (observe s e) = (added s e).isSome) (s : σ)
    (start : invariant s) (events : List ε) :
    (observations step observe s events).countP counted =
      (observations step added s events).reduceOption.length := by
  induction events generalizing s with
  | nil => rfl
  | cons e rest ih =>
    have here := adds s e start
    rw [observations, observations, List.countP_cons, ih (step s e) (preserved s e start), here]
    cases added s e <;> rfl

/-- Counted steps use up a measure that no step adds to. -/
theorem countP_observations_add_le {step : σ → ε → σ} {condition : σ → ε → Prop}
    {measure : σ → Nat} {counted : σ → ε → Bool}
    (falls : ∀ s e, condition s e → (counted s e).toNat + measure (step s e) ≤ measure s) (s : σ)
    (events : List ε) (met : Along step condition s events) :
    (observations step counted s events).countP id + measure (run step s events) ≤ measure s := by
  induction events generalizing s with
  | nil => simp [observations]
  | cons e rest ih =>
    have here := falls s e met.1
    have later := ih (step s e) met.2
    rw [observations, List.countP_cons, run_cons]
    cases counted : counted s e <;> simp [counted] at here ⊢ <;> omega

section
variable {τ ε' ω : Type} {step : σ → ε → σ} {step' : τ → ε' → τ} {invariant : σ → Prop}
  {abstract : σ → τ} {translate : σ → ε → ε'}

/-- Runs are simulated by those of a system that takes each event as the state it comes in
has it. -/
theorem run_translated (preserved : ∀ s e, invariant s → invariant (step s e))
    (simulated : ∀ s e, invariant s → abstract (step s e) = step' (abstract s) (translate s e))
    (s : σ) (start : invariant s) (events : List ε) :
    abstract (run step s events) =
      run step' (abstract s) (observations step translate s events) := by
  induction events generalizing s with
  | nil => rfl
  | cons e rest ih =>
    rw [run_cons, observations, run_cons, ← simulated s e start]
    exact ih (step s e) (preserved s e start)

theorem observations_translated {observe : σ → ε → ω} {observe' : τ → ε' → ω}
    (preserved : ∀ s e, invariant s → invariant (step s e))
    (simulated : ∀ s e, invariant s → abstract (step s e) = step' (abstract s) (translate s e))
    (observed : ∀ s e, invariant s → observe s e = observe' (abstract s) (translate s e)) (s : σ)
    (start : invariant s) (events : List ε) :
    observations step observe s events =
      observations step' observe' (abstract s) (observations step translate s events) := by
  induction events generalizing s with
  | nil => rfl
  | cons e rest ih =>
    simp only [observations]
    rw [observed s e start, ih (step s e) (preserved s e start), simulated s e start]

end

/-- Two runs whose states stay related observe related values, step by step. -/
theorem forall₂_observations {ω : Type} {step : σ → ε → σ} {observe : σ → ε → ω}
    {related : σ → σ → Prop} {inputs : ε → ε → Prop} {outputs : ω → ω → Prop}
    (observed : ∀ s s' e e', related s s' → inputs e e' → outputs (observe s e) (observe s' e'))
    (kept : ∀ s s' e e', related s s' → inputs e e' → related (step s e) (step s' e'))
    {events events' : List ε} (pointwise : List.Forall₂ inputs events events') (s s' : σ)
    (start : related s s') :
    List.Forall₂ outputs (observations step observe s events)
      (observations step observe s' events') := by
  induction pointwise generalizing s s' with
  | nil => exact .nil
  | @cons e e' rest rest' here later ih =>
    exact .cons (observed s s' e e' start here)
      (ih (step s e) (step s' e') (kept s s' e e' start here))

variable {α : Type}

/-- An observation that, once made, is made in every later state. -/
theorem isChain_filterMap {related : σ → σ → Prop} {observe : σ → Option α} {follows : α → α → Prop}
    (kept : ∀ s s' a, related s s' → observe s = some a → ∃ b, observe s' = some b ∧ follows a b)
    (states : List σ) (chain : states.IsChain related) :
    (states.filterMap observe).IsChain follows := by
  induction states with
  | nil => exact .nil
  | cons s rest ih =>
    have tail := ih chain.tail
    cases seen : observe s with
    | none =>
      rw [List.filterMap_cons_none seen]
      exact tail
    | some a =>
      rw [List.filterMap_cons_some seen]
      cases rest with
      | nil => exact .singleton a
      | cons s' later =>
        obtain ⟨b, next, step⟩ := kept s s' a (List.isChain_cons_cons.mp chain).1 seen
        rw [List.filterMap_cons_some next] at tail ⊢
        exact List.isChain_cons_cons.mpr ⟨step, tail⟩

variable [DecidableEq α]

theorem destutter'_cons_form (a : α) (values : List α) :
    ∃ rest, values.destutter' (· ≠ ·) a = a :: rest := by
  induction values with
  | nil => exact ⟨[], rfl⟩
  | cons b later ih =>
    rw [List.destutter'_cons]
    by_cases different : a ≠ b
    · exact ⟨_, if_pos different⟩
    · rw [if_neg different]
      exact ih

/-- Dropping the repetitions of a chain that may repeat leaves a strict chain. -/
theorem isChain_destutter_of_stutter {follows : α → α → Prop} (values : List α)
    (chain : values.IsChain fun a b => a = b ∨ follows a b) :
    (values.destutter (· ≠ ·)).IsChain follows := by
  cases values with
  | nil => exact .nil
  | cons a later =>
    rw [List.destutter_cons']
    induction later generalizing a with
    | nil => exact .singleton a
    | cons b rest ih =>
      obtain ⟨first, tail⟩ := List.isChain_cons_cons.mp chain
      rw [List.destutter'_cons]
      by_cases different : a ≠ b
      · rw [if_pos different]
        have rest_chain := ih b tail
        obtain ⟨more, shape⟩ := destutter'_cons_form b rest
        rw [shape] at rest_chain ⊢
        exact List.isChain_cons_cons.mpr ⟨first.resolve_left different, rest_chain⟩
      · have same : a = b := not_not.mp different
        rw [if_neg different]
        rw [← same] at tail
        exact ih a tail

end Apcos.Lib
