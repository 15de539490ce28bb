import Apcos.Source.Bridge.Approval
import Apcos.Source.Memory.TaskTable

/-!
# Authority gates of the memory modules

core/memory/task_store.py:373-490 and core/memory/vector_memory.py:100-181 gate
their writes in the same way; the two copies differ in the correlation stem, in
the exceptions and in what happens without a memory bridge. The shared bodies
are here, over the state both modules keep, with one inversion each.
-/
namespace Apcos.Source.Memory

open Apcos.Lib
open Apcos.Source.Python (Value Dict Exc DateTime PyFloat)
open Apcos.Source.Bridge

structure VectorRecord where
  vectorId : String
  embedding : List PyFloat
  metadata : List (String × String)
  deriving DecidableEq

/-- What the store, the lifecycle manager and the vector memory keep. -/
structure MemoryState (ω : Type) where
  tasks : TaskTable
  transitionLog : List TransitionRecord
  records : List (String × VectorRecord)
  wire : Wire ω

def MemoryState.wireLens (ω : Type) : Lens (MemoryState ω) (Wire ω) where
  get s := s.wire
  set wire s := { s with wire }
  get_set _ _ := rfl
  set_get _ := rfl
  set_set _ _ _ := rfl

/-- A fresh database, log and vector cache. -/
def MemoryState.initial {ω : Type} (env : ω) : MemoryState ω := ⟨.empty, [], [], ⟨env, []⟩⟩

variable {ω α : Type}

/-- A library call that reads the outside world. -/
def onWorld (f : ω → α × ω) : Comp Exc (MemoryState ω) α :=
  Comp.zoom (MemoryState.wireLens ω) (Comp.zoom (Wire.envLens ω) (Comp.ofState f))

/-- `if not allowed: raise ...` and `return result` after a gate. -/
def release (denied : String → Exc) (gate : Gate α) : Comp Exc (MemoryState ω) α :=
  match gate with
  | .passed result => return result
  | .refused reason => Comp.raise (denied reason)

/-- `_validate_storage_and_maybe_execute`. -/
def gateStorage (host : HostApi ω) (storageBridge : Option (RustBridge ω)) (enforce : Bool)
    (request : StorageRequest) (stem : String) (executeCallable : Comp Exc (MemoryState ω) α) :
    Comp Exc (MemoryState ω) α :=
  match storageBridge with
  | none =>
    if enforce then Comp.raise ⟨.runtimeError, "Storage authority unavailable"⟩
    else executeCallable
  | some bridge => do
    let id ← onWorld host.uuid4
    let gate ← validateStorageAndMaybeExecute host (MemoryState.wireLens ω) bridge request
      (stem ++ id) executeCallable
    release (fun reason => ⟨.runtimeError,
      "Storage authority denied: " ++ reasonOr (some reason) "STORAGE_DENIED"⟩) gate

/-- `_request_storage_permission`. -/
def storagePermission (host : HostApi ω) (storageBridge : Option (RustBridge ω)) (enforce : Bool)
    (request : StorageRequest) (stem : String) : Comp Exc (MemoryState ω) Bool :=
  match storageBridge with
  | none => return !enforce
  | some bridge => do
    let id ← onWorld host.uuid4
    let response ← Comp.zoom (MemoryState.wireLens ω)
      (requestStorageValidation host bridge request (stem ++ id))
    let payload := (Dict.getD response "payload" (.dict [])).asDict.getD []
    return (Dict.getD payload "allowed" (.bool false)).truthy

/-- `_validate_memory_and_maybe_transition` with a memory bridge. -/
def gateMemory (host : HostApi ω) (bridge : RustBridge ω) (permission : Comp Exc (MemoryState ω) Bool)
    (request : Bool → MemoryRequest) (stem : String) (denied : String → Exc)
    (transitionCallable : Comp Exc (MemoryState ω) α) : Comp Exc (MemoryState ω) α := do
  let storagePermissionFlag ← permission
  let id ← onWorld host.uuid4
  let gate ← validateMemoryAndMaybeTransition host (MemoryState.wireLens ω) bridge
    (request storagePermissionFlag) (stem ++ id) transitionCallable
  release denied gate

/-! ## Inversions -/

/-- The storage gate let the callback run after these exchanges. -/
def StorageCleared (storageBridge : Option (RustBridge ω)) (enforce : Bool)
    (request : StorageRequest) (made : List Exchange) : Prop :=
  match storageBridge with
  | none => enforce = false ∧ made = []
  | some bridge => ∃ e, made = [e] ∧ StoragePermit bridge request e

/-- The storage gate did not let the callback run. -/
def StorageBlocked (storageBridge : Option (RustBridge ω)) (enforce : Bool)
    (made : List Exchange) : Prop :=
  match storageBridge with
  | none => enforce = true ∧ made = []
  | some _ => ∀ e ∈ made, ¬StorageApproval e

theorem release_refused {gate : Comp Exc (MemoryState ω) (Gate α)} {s s' : MemoryState ω}
    (denied : String → Exc) (refused : Refused (gate s) s') :
    ∃ exc, (gate >>= release denied) s = (.error exc, s') := by
  rcases refused with ⟨exc, raised⟩ | ⟨reason, answered⟩
  · exact ⟨exc, Comp.bind_of_error raised⟩
  · exact ⟨denied reason, Comp.bind_of_ok answered⟩

/-- The outcome of a gate whose callback ran is the callback's. -/
theorem release_passed {gate : Comp Exc (MemoryState ω) (Gate α)} {execute : Comp Exc (MemoryState ω) α}
    {s s' : MemoryState ω} (denied : String → Exc)
    (run : gate s = (execute >>= fun value => pure (.passed value)) s') :
    (gate >>= release denied) s = execute s' := by
  rcases executed : execute s' with ⟨r, final⟩
  cases r with
  | ok value =>
    have inner : gate s = (.ok (.passed value), final) := run.trans (Comp.bind_of_ok executed)
    exact Comp.bind_of_ok inner
  | error exc =>
    have inner : gate s = (.error exc, final) := run.trans (Comp.bind_of_error executed)
    exact Comp.bind_of_error inner

theorem onWorld_eq (f : ω → α × ω) (s : MemoryState ω) :
    onWorld f s = (.ok (f s.wire.env).1,
      { s with wire := ⟨(f s.wire.env).2, s.wire.exchanges⟩ }) := rfl

/-- The storage gate blocks with an exception, or is cleared and runs the callback; its exchanges
are appended to the log either way. -/
theorem gateStorage_cases (host : HostApi ω) (storageBridge : Option (RustBridge ω)) (enforce : Bool)
    (request : StorageRequest) (stem : String) (execute : Comp Exc (MemoryState ω) α)
    (s : MemoryState ω) :
    ∃ w made, w.exchanges = s.wire.exchanges ++ made ∧
      ((StorageBlocked storageBridge enforce made ∧ ∃ exc,
          gateStorage host storageBridge enforce request stem execute s =
            (.error exc, { s with wire := w })) ∨
        (StorageCleared storageBridge enforce request made ∧
          gateStorage host storageBridge enforce request stem execute s =
            execute { s with wire := w })) := by
  cases storageBridge with
  | none =>
    refine ⟨s.wire, [], by simp, ?_⟩
    cases enforce with
    | true => exact Or.inl ⟨⟨rfl, rfl⟩, _, rfl⟩
    | false => exact Or.inr ⟨⟨rfl, rfl⟩, rfl⟩
  | some bridge =>
    let s' : MemoryState ω := { s with wire := ⟨(host.uuid4 s.wire.env).2, s.wire.exchanges⟩ }
    obtain ⟨w, made, grown, refused | passed⟩ := validateStorageAndMaybeExecute_cases host
      (MemoryState.wireLens ω) bridge request (stem ++ (host.uuid4 s.wire.env).1) execute s'
    · obtain ⟨refusal, denied⟩ := refused
      refine ⟨w, made, grown, Or.inl ⟨denied, ?_⟩⟩
      rw [gateStorage, Comp.bind_of_ok (onWorld_eq host.uuid4 s)]
      exact release_refused _ refusal
    · obtain ⟨e, single, permit, run⟩ := passed
      refine ⟨w, made, grown, Or.inr ⟨⟨e, single, permit⟩, ?_⟩⟩
      rw [gateStorage, Comp.bind_of_ok (onWorld_eq host.uuid4 s)]
      exact release_passed _ run

/-- A granted preflight rests on an approval of the same storage request. -/
def PermissionGranted (storageBridge : Option (RustBridge ω)) (enforce : Bool)
    (request : StorageRequest) (made : List Exchange) : Prop :=
  match storageBridge with
  | none => enforce = false
  | some bridge => ∃ e, made = [e] ∧ StoragePermit bridge request e

/-- The preflight raises, or returns a flag that is true only where the storage authority granted
the request. -/
theorem storagePermission_cases (host : HostApi ω) (storageBridge : Option (RustBridge ω))
    (enforce : Bool) (request : StorageRequest) (stem : String) (s : MemoryState ω) :
    ∃ w made, w.exchanges = s.wire.exchanges ++ made ∧
      ((∃ exc, storagePermission host storageBridge enforce request stem s =
          (.error exc, { s with wire := w })) ∨
        ∃ flag, storagePermission host storageBridge enforce request stem s =
            (.ok flag, { s with wire := w }) ∧
          (flag = true → PermissionGranted storageBridge enforce request made)) := by
  cases storageBridge with
  | none => exact ⟨s.wire, [], by simp, Or.inr ⟨!enforce, rfl, by simp [PermissionGranted]⟩⟩
  | some bridge =>
    let s' : MemoryState ω := { s with wire := ⟨(host.uuid4 s.wire.env).2, s.wire.exchanges⟩ }
    let id := stem ++ (host.uuid4 s.wire.env).1
    obtain ⟨w, made, grown, ⟨exc, raised⟩ | ⟨now, fields, returned, approved⟩⟩ :=
      requestStorageValidation_cases host bridge request id s'.wire
    · have zoomed : Comp.zoom (MemoryState.wireLens ω)
          (requestStorageValidation host bridge request id) s' = (.error exc, { s with wire := w }) :=
        Comp.zoom_of_eq raised
      refine ⟨w, made, grown, Or.inl ⟨exc, ?_⟩⟩
      rw [storagePermission, Comp.bind_of_ok (onWorld_eq host.uuid4 s)]
      exact Comp.bind_of_error zoomed
    · have zoomed : Comp.zoom (MemoryState.wireLens ω)
          (requestStorageValidation host bridge request id) s' =
            (.ok (buildStorageResult now id fields), { s with wire := w }) :=
        Comp.zoom_of_eq returned
      refine ⟨w, made, grown, Or.inr ⟨fields.allowed, ?_, approved⟩⟩
      rw [storagePermission, Comp.bind_of_ok (onWorld_eq host.uuid4 s), Comp.bind_of_ok zoomed]
      rfl

/-- With a memory bridge: the callback runs after the preflight and an approval
of the request that carries the preflight's flag. -/
theorem gateMemory_cases (host : HostApi ω) (bridge : RustBridge ω)
    (permission : Comp Exc (MemoryState ω) Bool) (request : Bool → MemoryRequest) (stem : String)
    (denied : String → Exc) (transition : Comp Exc (MemoryState ω) α) (s : MemoryState ω)
    (granted : Bool → List Exchange → Prop)
    (preflight : ∃ w made, w.exchanges = s.wire.exchanges ++ made ∧
      ((∃ exc, permission s = (.error exc, { s with wire := w })) ∨
        ∃ flag, permission s = (.ok flag, { s with wire := w }) ∧ granted flag made)) :
    ∃ w made, w.exchanges = s.wire.exchanges ++ made ∧
      ((∃ exc, gateMemory host bridge permission request stem denied transition s =
          (.error exc, { s with wire := w })) ∨
        ∃ flag asked e target, made = asked ++ [e] ∧ granted flag asked ∧
          MemoryPermit bridge (request flag) target e ∧
          gateMemory host bridge permission request stem denied transition s =
            transition { s with wire := w }) := by
  obtain ⟨w, asked, grown, ⟨exc, raised⟩ | ⟨flag, answered, grant⟩⟩ := preflight
  · exact ⟨w, asked, grown, Or.inl ⟨exc, Comp.bind_of_error raised⟩⟩
  · let s' : MemoryState ω := { s with wire := w }
    let s'' : MemoryState ω := { s with wire := ⟨(host.uuid4 w.env).2, w.exchanges⟩ }
    obtain ⟨w', made, grown', refused | passed⟩ := validateMemoryAndMaybeTransition_cases host
      (MemoryState.wireLens ω) bridge (request flag) (stem ++ (host.uuid4 w.env).1) transition s''
    · refine ⟨w', asked ++ made, ?_, Or.inl ?_⟩
      · rw [grown', ← List.append_assoc, ← grown]
        rfl
      · rw [gateMemory, Comp.bind_of_ok answered, Comp.bind_of_ok (onWorld_eq host.uuid4 s')]
        exact release_refused _ refused
    · obtain ⟨e, target, single, permit, run⟩ := passed
      refine ⟨w', asked ++ [e], ?_, Or.inr ⟨flag, asked, e, target, rfl, grant, permit, ?_⟩⟩
      · rw [grown', single, ← List.append_assoc, ← grown]
        rfl
      · rw [gateMemory, Comp.bind_of_ok answered, Comp.bind_of_ok (onWorld_eq host.uuid4 s')]
        exact release_passed _ run

end Apcos.Source.Memory
