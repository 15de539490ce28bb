import Apcos.Lib.Comp
import Apcos.Lib.Runs
import Mathlib.Data.List.AList

/-!
# The service registry

os/src/runtime/service_registry.rs. A service is a value of any type with the
methods of the trait; a call changes that value only. The order in which the
hash map yields its keys is given with the requests that iterate over it.
Every individual start and stop is logged with the registry it leaves behind.
-/
namespace Apcos.Source.Supervisor

open Apcos.Lib (Comp)

/-- The methods of a service; `name` is the one it reports when it is registered. -/
structure Service (S : Type) where
  name : S → String
  start : S → Except String Unit × S
  stop : S → Except String Unit × S
  isRunning : S → Bool

inductive ServiceRegistryError where
  | duplicateService (name : String)
  | serviceNotFound (name : String)
  | dependencyCycle (name : String)
  | serviceFailure (reason : String)
  deriving DecidableEq, Repr

def ServiceRegistryError.message : ServiceRegistryError → String
  | .duplicateService name => "service already registered: " ++ name
  | .serviceNotFound name => "service not found: " ++ name
  | .dependencyCycle name => "dependency cycle detected at service: " ++ name
  | .serviceFailure reason => "service operation failed: " ++ reason

structure ServiceEntry (S : Type) where
  dependencies : List String
  service : S

structure ServiceRegistry (S : Type) where
  services : AList fun _ : String => ServiceEntry S

inductive ServiceMethod where
  | start | stop
  deriving DecidableEq, Repr

variable {S : Type} (trait : Service S)

def Service.invoke : ServiceMethod → S → Except String Unit × S
  | .start => trait.start
  | .stop => trait.stop

def ServiceRegistry.isRunning (r : ServiceRegistry S) (name : String) : Bool :=
  (r.services.lookup name).any fun entry => trait.isRunning entry.service

/-- One start or stop of a service: the registry after it, and whom the registry
has started until then. -/
structure ServiceCall (S : Type) where
  method : ServiceMethod
  name : String
  registry : ServiceRegistry S
  started : List String

/-- The registry with two records that no operation reads: the names whose `start`
it has called, and all its calls, oldest first. -/
structure Supervision (S : Type) where
  registry : ServiceRegistry S
  started : List String
  calls : List (ServiceCall S)

def Supervision.default : Supervision S := ⟨⟨∅⟩, [], []⟩

abbrev Supervising (S α : Type) := Comp ServiceRegistryError (Supervision S) α

/-- Call a method of a registered service and keep the service it leaves. -/
def callService (method : ServiceMethod) (name : String) (entry : ServiceEntry S) :
    Supervising S Unit := fun s =>
  let called := trait.invoke method entry.service
  let registry := ⟨s.registry.services.insert name { entry with service := called.2 }⟩
  let started := if method = .start then name :: s.started else s.started
  (called.1.mapError .serviceFailure,
    ⟨registry, started, s.calls ++ [⟨method, name, registry, started⟩]⟩)

def getEntry (name : String) : Supervising S (ServiceEntry S) := do
  match (← Comp.get).registry.services.lookup name with
  | none => Comp.raise (.serviceNotFound name)
  | some entry => pure entry

def registerService (service : S) (dependencies : List String) : Supervising S Unit := do
  let name := trait.name service
  let s ← Comp.get
  if name ∈ s.registry.services then Comp.raise (.duplicateService name)
  else if name ∈ dependencies then Comp.raise (.dependencyCycle name)
  else Comp.modify fun s =>
    { s with registry := ⟨s.registry.services.insert name ⟨dependencies, service⟩⟩ }

/-- `if !entry.service.is_running()`: the second half of `start_recursive`. -/
def startEntry (name : String) : Supervising S Unit := do
  let entry ← getEntry name
  if trait.isRunning entry.service then pure ()
  else callService trait .start name entry

/-- The visited names grow by one registered name per level, so as many levels as
there are services, and one, are enough: `startService_terminates`. -/
def startRecursive : Nat → List String → String → Supervising S Unit
  | 0, _, name => Comp.raise (.dependencyCycle name)
  | depth + 1, visiting, name =>
    if name ∈ visiting then Comp.raise (.dependencyCycle name)
    else do
      let entry ← getEntry name
      Comp.forEach (startRecursive depth (name :: visiting)) entry.dependencies
      startEntry trait name

def startService (name : String) : Supervising S Unit := fun s =>
  startRecursive trait (s.registry.services.keys.length + 1) [] name s

def stopService (name : String) : Supervising S Unit := do
  let entry ← getEntry name
  if trait.isRunning entry.service then callService trait .stop name entry
  else pure ()

def restartService (name : String) : Supervising S Unit := do
  stopService trait name
  startService trait name

def startAll (keys : List String) : Supervising S Unit := Comp.forEach (startService trait) keys

def stopAll (keys : List String) : Supervising S Unit :=
  Comp.forEach (stopService trait) keys.reverse

inductive ServiceRequest (S : Type) where
  | register (service : S) (dependencies : List String)
  | start (name : String)
  | stop (name : String)
  | restart (name : String)
  /-- The keys in the order in which the map yields them. -/
  | startAll (keys : List String)
  | stopAll (keys : List String)

def performRequest : ServiceRequest S → Supervising S Unit
  | .register service dependencies => registerService trait service dependencies
  | .start name => startService trait name
  | .stop name => stopService trait name
  | .restart name => restartService trait name
  | .startAll keys => startAll trait keys
  | .stopAll keys => stopAll trait keys

/-- One request of a run; what it returns is the caller's business. -/
def requestStep (s : Supervision S) (request : ServiceRequest S) : Supervision S :=
  (performRequest trait request s).2

end Apcos.Source.Supervisor
