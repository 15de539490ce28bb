import Apcos.Source.Supervisor.EnergyManager

/-!
# Energy supervision

`evaluate_and_publish` of os/src/energy_manager.rs:256-268. The manager belongs to one thread
(`&mut self`), a client of the bus. A call evaluates a sample and publishes the events one by
one; `?` ends it with the first error. The other threads of the bus step in between, and outside
the method the thread may use the bus as any other does.
-/
namespace Apcos.Source.Supervisor

/-- `remaining` is what is left of the loop while the method runs; the event it is at is in a
call of the thread on the bus. `samples` and `results` are logs that no step reads. -/
structure EnergySupervision (η : Type) where
  bus : EventBus η
  manager : EnergyManager
  remaining : Option (List Event)
  samples : List EnergySample
  results : List (Except EventBusError EnergyPolicy)

inductive SupervisionLabel (η : Type) where
  | evaluate (sample : EnergySample)
  /-- The head of the loop: the next event, or the return after the last. -/
  | iterate
  | bus (label : EventBus.Label η)

namespace EnergySupervision

variable {η : Type} (thread : Nat) (source : String)

def new (bus : EventBus η) (config : EnergyConfig) : EnergySupervision η :=
  ⟨bus, .new config, none, [], []⟩

/-- The thread enters a method of the bus other than through the loop. -/
def entersCall : EventBus.Label η → Bool
  | .call other _ | .shutdown other => other == thread
  | _ => false

/-- The error with which the call of the thread returned in this step. -/
def failure (before after : EventBus η) : Option EventBusError :=
  if before.clients thread ≠ .idle ∧ after.clients thread = .idle then
    match after.outcomes.getLast? with
    | some ⟨_, _, .error error⟩ => some error
    | _ => none
  else none

def evaluate (sample : EnergySample) (s : EnergySupervision η) : EnergySupervision η :=
  match s.remaining with
  | some _ => s
  | none =>
    if s.bus.clients thread = .idle then
      let ((events, _), manager) := s.manager.evaluate sample
      { s with manager, remaining := some events, samples := s.samples ++ [sample] }
    else s

def iterate (s : EnergySupervision η) : EnergySupervision η :=
  match s.remaining with
  | none => s
  | some remaining =>
    if s.bus.clients thread = .idle then
      match remaining with
      | [] => { s with remaining := none, results := s.results ++ [.ok s.manager.policy] }
      | event :: rest =>
        { s with
          bus := s.bus.enter (.client thread) (.publish event source)
          remaining := some rest }
    else s

def busStep (label : EventBus.Label η) (s : EnergySupervision η) : EnergySupervision η :=
  match s.remaining with
  | none => { s with bus := s.bus.step label }
  | some remaining =>
    if entersCall thread label then s
    else
      let bus := s.bus.step label
      match failure thread s.bus bus with
      | none => { s with bus, remaining := some remaining }
      | some error => { s with bus, remaining := none, results := s.results ++ [.error error] }

def step (s : EnergySupervision η) : SupervisionLabel η → EnergySupervision η
  | .evaluate sample => s.evaluate thread sample
  | .iterate => s.iterate thread source
  | .bus label => s.busStep thread label

end EnergySupervision

end Apcos.Source.Supervisor
