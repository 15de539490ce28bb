import Apcos.Lib.Runs

/-!
# Loops that answer until they are left

A loop takes one event after the other. What it receives with an event is a request that it
answers, or a farewell with which it returns and leaves the later events to others.
-/
namespace Apcos.Lib

variable {σ ε τ ω : Type}

/-- `remaining` are the events after the one that left the loop; `none` while it waits. -/
structure Served (σ ε ω : Type) where
  outputs : List ω
  state : σ
  remaining : Option (List ε)

def serve (receive : ε → Except ω τ) (step : σ → τ → σ) (outputs : σ → τ → List ω) :
    σ → List ε → Served σ ε ω
  | s, [] => ⟨[], s, none⟩
  | s, e :: rest =>
    match receive e with
    | .error farewell => ⟨[farewell], s, some rest⟩
    | .ok request =>
      let served := serve receive step outputs (step s request) rest
      { served with outputs := outputs s request ++ served.outputs }

/-- The requests before the loop is left. -/
def requests (receive : ε → Except ω τ) : List ε → List τ
  | [] => []
  | e :: rest =>
    match receive e with
    | .error _ => []
    | .ok request => request :: requests receive rest

/-- The farewell, and the events after it. -/
def farewell (receive : ε → Except ω τ) : List ε → Option (ω × List ε)
  | [] => none
  | e :: rest =>
    match receive e with
    | .error last => some (last, rest)
    | .ok _ => farewell receive rest

/-- A loop answers its requests in a run, says its farewell and takes nothing after it. -/
theorem serve_eq (receive : ε → Except ω τ) (step : σ → τ → σ) (outputs : σ → τ → List ω) (s : σ)
    (events : List ε) :
    serve receive step outputs s events =
      ⟨(observations step outputs s (requests receive events)).flatten ++
          ((farewell receive events).map Prod.fst).toList,
        run step s (requests receive events), (farewell receive events).map Prod.snd⟩ := by
  induction events generalizing s with
  | nil => rfl
  | cons e rest ih =>
    unfold serve requests farewell
    cases receive e with
    | error last => rfl
    | ok request =>
      dsimp only
      rw [ih (step s request), observations, run_cons, List.flatten_cons, List.append_assoc]

/-- A loop that simulates another, request by request, does and says what that one would. -/
theorem serve_translated {σ' τ' : Type} (receive : ε → Except ω τ) {step : σ → τ → σ}
    {step' : σ' → τ' → σ'} {outputs : σ → τ → List ω} (outputs' : σ' → τ' → List ω)
    {invariant : σ → Prop} {abstract : σ → σ'} {translate : σ → τ → τ'}
    (preserved : ∀ s request, invariant s → invariant (step s request))
    (simulated : ∀ s request, invariant s →
      abstract (step s request) = step' (abstract s) (translate s request))
    (answered : ∀ s request, invariant s →
      outputs s request = outputs' (abstract s) (translate s request))
    (s : σ) (start : invariant s) (events : List ε) :
    (serve receive step outputs s events).outputs =
        (observations step' outputs' (abstract s)
          (observations step translate s (requests receive events))).flatten ++
            ((farewell receive events).map Prod.fst).toList ∧
      abstract (serve receive step outputs s events).state =
        run step' (abstract s) (observations step translate s (requests receive events)) := by
  rw [serve_eq, ← observations_translated preserved simulated answered s start]
  exact ⟨rfl, run_translated preserved simulated s start _⟩

theorem flatten_observations_singleton (step : σ → τ → σ) (output : σ → τ → ω) (s : σ)
    (events : List τ) :
    (observations step (fun s request => [output s request]) s events).flatten =
      observations step output s events := by
  induction events generalizing s with
  | nil => rfl
  | cons request rest ih => rw [observations, observations, List.flatten_cons, ih, List.singleton_append]

end Apcos.Lib
