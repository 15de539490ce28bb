import Apcos.Source.Supervisor.ServiceRegistry

/-!
# Running services have running dependencies

Starting goes depth first through the dependencies and never stops anything, so
it keeps every running service the registry started on running dependencies,
between any two calls. Stopping one service leaves its dependents alone; the
invariant survives it when no such dependent runs.
-/
namespace Apcos.Guarantees.ServiceDependencies

open Apcos.Lib (Comp run Along run_invariant_along)
open Apcos.Source.Supervisor

variable {S : Type} (trait : Service S)

/-- What is assumed of every service. -/
structure Lawful : Prop where
  start_ok : ∀ s, (trait.start s).1 = .ok () → trait.isRunning (trait.start s).2 = true
  stop_ok : ∀ s, (trait.stop s).1 = .ok () → trait.isRunning (trait.stop s).2 = false

/-- Every running service among those started has all its declared dependencies running. -/
def Supported (r : ServiceRegistry S) (started : List String) : Prop :=
  ∀ name ∈ started, ∀ entry, r.services.lookup name = some entry →
    trait.isRunning entry.service = true →
      ∀ dependency ∈ entry.dependencies, r.isRunning trait dependency = true

/-- A running service that the registry started declares the name as a dependency. -/
def DependedOn (s : Supervision S) (name : String) : Prop :=
  ∃ other ∈ s.started, ∃ entry, s.registry.services.lookup other = some entry ∧
    trait.isRunning entry.service = true ∧ name ∈ entry.dependencies

instance (r : ServiceRegistry S) (started : List String) : Decidable (Supported trait r started) :=
  inferInstanceAs (Decidable (∀ name ∈ started, ∀ entry ∈ r.services.lookup name,
    trait.isRunning entry.service = true →
      ∀ dependency ∈ entry.dependencies, r.isRunning trait dependency = true))

instance (s : Supervision S) (name : String) : Decidable (DependedOn trait s name) :=
  inferInstanceAs (Decidable (∃ other ∈ s.started, ∃ entry ∈ s.registry.services.lookup other,
    trait.isRunning entry.service = true ∧ name ∈ entry.dependencies))

/-- Single services are stopped only when nothing running depends on them. -/
def LeavesDependents (s : Supervision S) : ServiceRequest S → Prop
  | .register _ _ => True
  | .start _ => True
  | .stop name => ¬DependedOn trait s name
  | .restart name => ¬DependedOn trait s name
  | .startAll _ => True
  | .stopAll _ => False

/-- The registry is supported now and was so after each individual call. -/
structure AlwaysSupported (s : Supervision S) : Prop where
  registered : ∀ name ∈ s.started, name ∈ s.registry.services
  now : Supported trait s.registry s.started
  calls : ∀ call ∈ s.calls, Supported trait call.registry call.started

/-! ## Looking entries up -/

theorem getEntry_some {s : Supervision S} {name : String} {entry : ServiceEntry S}
    (found : s.registry.services.lookup name = some entry) :
    getEntry name s = (.ok entry, s) := by
  unfold getEntry
  rw [Comp.get_bind, found]
  rfl

theorem getEntry_none {s : Supervision S} {name : String}
    (missing : s.registry.services.lookup name = none) :
    getEntry name s = (.error (.serviceNotFound name), s) := by
  unfold getEntry
  rw [Comp.get_bind, missing]
  rfl

variable {trait}

theorem isRunning_iff {r : ServiceRegistry S} {name : String} :
    r.isRunning trait name = true ↔
      ∃ entry, r.services.lookup name = some entry ∧ trait.isRunning entry.service = true := by
  unfold ServiceRegistry.isRunning
  cases r.services.lookup name <;> simp

/-! ## Starting only adds running services -/

/-- Every entry keeps its dependencies, and no running service stops. -/
def Grows (trait : Service S) (r r' : ServiceRegistry S) : Prop :=
  ∀ name entry, r.services.lookup name = some entry → ∃ entry',
    r'.services.lookup name = some entry' ∧ entry'.dependencies = entry.dependencies ∧
      (trait.isRunning entry.service = true → trait.isRunning entry'.service = true)

theorem Grows.refl (r : ServiceRegistry S) : Grows trait r r :=
  fun _ entry found => ⟨entry, found, rfl, id⟩

theorem Grows.trans {r r' r'' : ServiceRegistry S} (first : Grows trait r r')
    (second : Grows trait r' r'') : Grows trait r r'' := by
  intro name entry found
  obtain ⟨entry', found', declared, runs⟩ := first name entry found
  obtain ⟨entry'', found'', declared', runs'⟩ := second name entry' found'
  exact ⟨entry'', found'', declared'.trans declared, fun running => runs' (runs running)⟩

theorem Grows.isRunning {r r' : ServiceRegistry S} (grows : Grows trait r r') {name : String}
    (running : r.isRunning trait name = true) : r'.isRunning trait name = true := by
  obtain ⟨entry, found, runs⟩ := isRunning_iff.mp running
  obtain ⟨entry', found', _, kept⟩ := grows name entry found
  exact isRunning_iff.mpr ⟨entry', found', kept runs⟩

/-- A service that was not running may become anything. -/
theorem grows_insert {r : ServiceRegistry S} {name : String} {entry : ServiceEntry S}
    (found : r.services.lookup name = some entry) (service : S)
    (idle : ¬trait.isRunning entry.service = true) :
    Grows trait r ⟨r.services.insert name { entry with service := service }⟩ := by
  intro other entry' found'
  by_cases same : other = name
  · subst same
    obtain rfl : entry = entry' := Option.some.inj (found.symm.trans found')
    exact ⟨_, AList.lookup_insert r.services, rfl, fun runs => absurd runs idle⟩
  · refine ⟨entry', ?_, rfl, id⟩
    rw [AList.lookup_insert_ne same]
    exact found'

/-- What a start of `name` achieves: nothing is lost, and on return it runs. -/
def StartsSafely (trait : Service S) (m : Supervising S Unit) (s : Supervision S)
    (name : String) : Prop :=
  AlwaysSupported trait (m s).2 ∧ Grows trait s.registry (m s).2.registry ∧
    ((m s).1 = .ok () → (m s).2.registry.isRunning trait name = true)

/-- A service starts behind its running dependencies. -/
theorem startEntry_safe (lawful : Lawful trait) {s : Supervision S} {name : String}
    {entry : ServiceEntry S} (found : s.registry.services.lookup name = some entry)
    (ready : ∀ dependency ∈ entry.dependencies, s.registry.isRunning trait dependency = true)
    (sound : AlwaysSupported trait s) : StartsSafely trait (startEntry trait name) s name := by
  have unfolded : startEntry trait name s =
      (if trait.isRunning entry.service then pure ()
        else callService trait .start name entry : Supervising S Unit) s :=
    Comp.bind_of_ok (getEntry_some found)
  by_cases running : trait.isRunning entry.service = true
  · have settled : startEntry trait name s = (.ok (), s) := by rw [unfolded, if_pos running]; rfl
    rw [StartsSafely, settled]
    exact ⟨sound, Grows.refl s.registry, fun _ => isRunning_iff.mpr ⟨entry, found, running⟩⟩
  · rw [if_neg running] at unfolded
    have grows := grows_insert found (trait.start entry.service).2 running
    have supported : Supported trait
        ⟨s.registry.services.insert name { entry with service := (trait.start entry.service).2 }⟩
        (name :: s.started) := by
      intro other member entry' found' runs dependency declared
      apply grows.isRunning
      by_cases same : other = name
      · subst same
        rw [AList.lookup_insert] at found'
        obtain rfl := Option.some.inj found'
        exact ready dependency declared
      · rw [AList.lookup_insert_ne same] at found'
        have started : other ∈ s.started := (List.mem_cons.mp member).resolve_left same
        exact sound.now other started entry' found' runs dependency declared
    rw [StartsSafely, unfolded]
    refine ⟨⟨?_, supported, ?_⟩, grows, fun returned => ?_⟩
    · intro other member
      apply (AList.mem_insert s.registry.services).mpr
      exact (List.mem_cons.mp member).imp id (sound.registered other)
    · intro call member
      rcases List.mem_append.mp member with earlier | last
      · exact sound.calls call earlier
      · rw [List.mem_singleton.mp last]
        exact supported
    · have started : (trait.start entry.service).1 = .ok () := by
        cases outcome : (trait.start entry.service).1 with
        | ok u => rfl
        | error reason => simp [callService, Service.invoke, outcome, Except.mapError] at returned
      exact isRunning_iff.mpr
        ⟨_, AList.lookup_insert s.registry.services, lawful.start_ok entry.service started⟩

/-- So do all the services that the recursion starts, by induction on its depth. -/
theorem startRecursive_safe (lawful : Lawful trait) (depth : Nat) (visiting : List String)
    (name : String) (s : Supervision S) (sound : AlwaysSupported trait s) :
    StartsSafely trait (startRecursive trait depth visiting name) s name := by
  induction depth generalizing visiting name s with
  | zero => exact ⟨sound, Grows.refl s.registry, nofun⟩
  | succ depth ih =>
    unfold startRecursive
    split
    · exact ⟨sound, Grows.refl s.registry, nofun⟩
    · cases found : s.registry.services.lookup name with
      | none =>
        rw [StartsSafely, Comp.bind_of_error (getEntry_none found)]
        exact ⟨sound, Grows.refl s.registry, nofun⟩
      | some entry =>
        rw [StartsSafely, Comp.bind_of_ok (getEntry_some found)]
        -- The dependencies first; what runs after one of them still runs after the others.
        obtain ⟨sound', grows, ready⟩ := Comp.forEach_spec
          (fun t t' => Grows trait t.registry t'.registry)
          (fun dependency t => t.registry.isRunning trait dependency = true)
          (fun t => Grows.refl t.registry) Grows.trans
          (fun _ _ _ grown running => grown.isRunning running)
          (ih (name :: visiting)) entry.dependencies s sound
        rcases ran : Comp.forEach (startRecursive trait depth (name :: visiting))
          entry.dependencies s with ⟨result, mid⟩
        rw [ran] at sound' grows ready
        cases result with
        | error e =>
          rw [Comp.bind_of_error ran]
          exact ⟨sound', grows, nofun⟩
        | ok u =>
          rw [Comp.bind_of_ok ran]
          obtain ⟨entry', found', declared, _⟩ := grows name entry found
          obtain ⟨sound'', grows', running⟩ :=
            startEntry_safe lawful found' (declared ▸ ready rfl) sound'
          exact ⟨sound'', grows.trans grows', running⟩

theorem startService_safe (lawful : Lawful trait) (name : String) (s : Supervision S)
    (sound : AlwaysSupported trait s) : StartsSafely trait (startService trait name) s name :=
  startRecursive_safe lawful _ [] name s sound

/-! ## Stopping one service, and registering another -/

/-- Stopping a service that no running one depends on leaves all of them supported. -/
theorem stopService_sound {s : Supervision S} {name : String}
    (free : ¬DependedOn trait s name) (sound : AlwaysSupported trait s) :
    AlwaysSupported trait (stopService trait name s).2 := by
  cases found : s.registry.services.lookup name with
  | none =>
    have missing : stopService trait name s = (.error (.serviceNotFound name), s) :=
      Comp.bind_of_error (getEntry_none found)
    rw [missing]
    exact sound
  | some entry =>
    have unfolded : stopService trait name s =
        (if trait.isRunning entry.service then callService trait .stop name entry
          else pure () : Supervising S Unit) s :=
      Comp.bind_of_ok (getEntry_some found)
    by_cases running : trait.isRunning entry.service = true
    · rw [if_pos running] at unfolded
      have supported : Supported trait
          ⟨s.registry.services.insert name { entry with service := (trait.stop entry.service).2 }⟩
          s.started := by
        intro other started entry' found' runs dependency declared
        -- A started service that runs after the stop ran before it on the same dependencies.
        obtain ⟨before, found_before, runs_before, declared_before⟩ :
            ∃ before, s.registry.services.lookup other = some before ∧
              trait.isRunning before.service = true ∧ dependency ∈ before.dependencies := by
          by_cases same : other = name
          · subst same
            rw [AList.lookup_insert] at found'
            obtain rfl := Option.some.inj found'
            exact ⟨entry, found, running, declared⟩
          · rw [AList.lookup_insert_ne same] at found'
            exact ⟨entry', found', runs, declared⟩
        have different : dependency ≠ name := by
          intro same
          subst same
          exact free ⟨other, started, before, found_before, runs_before, declared_before⟩
        obtain ⟨target, found_target, runs_target⟩ := isRunning_iff.mp
          (sound.now other started before found_before runs_before dependency declared_before)
        refine isRunning_iff.mpr ⟨target, ?_, runs_target⟩
        rw [AList.lookup_insert_ne different]
        exact found_target
      rw [unfolded]
      refine ⟨?_, supported, ?_⟩
      · intro other member
        exact (AList.mem_insert s.registry.services).mpr (Or.inr (sound.registered other member))
      · intro call member
        rcases List.mem_append.mp member with earlier | last
        · exact sound.calls call earlier
        · rw [List.mem_singleton.mp last]
          exact supported
    · rw [unfolded, if_neg running]
      exact sound

/-- The new service was never started, and what runs is still registered as it was. -/
theorem registerService_sound {s : Supervision S} {service : S} {dependencies : List String}
    (sound : AlwaysSupported trait s) :
    AlwaysSupported trait (registerService trait service dependencies s).2 := by
  unfold registerService
  rw [Comp.get_bind]
  split
  · exact sound
  · rename_i fresh
    split
    · exact sound
    · refine ⟨?_, ?_, sound.calls⟩
      · intro other member
        exact (AList.mem_insert s.registry.services).mpr (Or.inr (sound.registered other member))
      · intro other started entry found runs dependency declared
        have different : other ≠ trait.name service := by
          intro same
          subst same
          exact fresh (sound.registered _ started)
        have kept : s.registry.services.lookup other = some entry :=
          (AList.lookup_insert_ne different).symm.trans found
        obtain ⟨target, found_target, runs_target⟩ :=
          isRunning_iff.mp (sound.now other started entry kept runs dependency declared)
        have other_name : dependency ≠ trait.name service := by
          intro same
          subst same
          apply fresh
          rw [← AList.lookup_isSome, found_target]
          rfl
        exact isRunning_iff.mpr
          ⟨target, (AList.lookup_insert_ne other_name).trans found_target, runs_target⟩

/-! ## Every run -/

theorem startAll_sound (lawful : Lawful trait) (keys : List String) (s : Supervision S)
    (sound : AlwaysSupported trait s) : AlwaysSupported trait (startAll trait keys s).2 := by
  apply Comp.forEach_invariant _ keys s sound
  intro name t holds
  exact (startService_safe lawful name t holds).1

theorem restartService_sound (lawful : Lawful trait) {s : Supervision S} {name : String}
    (free : ¬DependedOn trait s name) (sound : AlwaysSupported trait s) :
    AlwaysSupported trait (restartService trait name s).2 := by
  apply Comp.bind_invariant (stopService_sound free sound)
  intro _ t holds
  exact (startService_safe lawful name t holds).1

theorem requestStep_sound (lawful : Lawful trait) (s : Supervision S)
    (request : ServiceRequest S) (sound : AlwaysSupported trait s)
    (leaves : LeavesDependents trait s request) :
    AlwaysSupported trait (requestStep trait s request) := by
  cases request with
  | register service dependencies => exact registerService_sound sound
  | start name => exact (startService_safe lawful name s sound).1
  | stop name => exact stopService_sound leaves sound
  | restart name => exact restartService_sound lawful leaves sound
  | startAll keys => exact startAll_sound lawful keys s sound
  | stopAll keys => exact absurd leaves id

/-- In every state of a run that stops single services only when nothing running
depends on them, between any two calls to services too, every running service that
the registry started has all its declared dependencies running. -/
theorem running_on_running_dependencies (lawful : Lawful trait)
    (requests : List (ServiceRequest S))
    (leaves : Along (requestStep trait) (LeavesDependents trait) .default requests) :
    let s := run (requestStep trait) .default requests
    Supported trait s.registry s.started ∧
      ∀ call ∈ s.calls, Supported trait call.registry call.started := by
  have start : AlwaysSupported trait Supervision.default := ⟨nofun, nofun, nofun⟩
  have sound := run_invariant_along (requestStep_sound lawful) Supervision.default start
    requests leaves
  exact ⟨sound.now, sound.calls⟩

/-! ## The services of the tests -/

/-- `StubService`: its name, and whether it runs. -/
def stubService : Service (String × Bool) where
  name := Prod.fst
  start s := (.ok (), (s.1, true))
  stop s := (.ok (), (s.1, false))
  isRunning := Prod.snd

theorem stubService_lawful : Lawful stubService := ⟨fun _ _ => rfl, fun _ _ => rfl⟩

def mainOnDep : List (ServiceRequest (String × Bool)) :=
  [.register ("dep", false) [], .register ("main", false) ["dep"], .start "main"]

theorem running_on_running_dependencies_stub :
    let s := run (requestStep stubService) .default (mainOnDep ++ [.stop "main", .stop "dep"])
    Supported stubService s.registry s.started ∧
      ∀ call ∈ s.calls, Supported stubService call.registry call.started := by
  apply running_on_running_dependencies stubService_lawful
  refine ⟨trivial, trivial, trivial, ?_, ?_, trivial⟩
  · change ¬DependedOn stubService _ "main"
    decide
  · change ¬DependedOn stubService _ "dep"
    decide

/-- Stopping a dependency leaves the service that runs on it running. -/
theorem dependency_stopped_alone :
    let s := run (requestStep stubService) .default (mainOnDep ++ [.stop "dep"])
    "main" ∈ s.started ∧ s.registry.isRunning stubService "main" = true ∧
      ¬Supported stubService s.registry s.started := by
  decide

/-! ## Depth -/

/-- All registered names are among these. -/
def Within (names : List String) (s : Supervision S) : Prop :=
  ∀ name ∈ s.registry.services, name ∈ names

/-- A start registers no service. -/
theorem startEntry_within {names : List String} {name : String} {s : Supervision S}
    (within : Within names s) : Within names (startEntry trait name s).2 := by
  cases found : s.registry.services.lookup name with
  | none =>
    have missing : startEntry trait name s = (.error (.serviceNotFound name), s) :=
      Comp.bind_of_error (getEntry_none found)
    rw [missing]
    exact within
  | some entry =>
    have unfolded : startEntry trait name s =
        (if trait.isRunning entry.service then pure ()
          else callService trait .start name entry : Supervising S Unit) s :=
      Comp.bind_of_ok (getEntry_some found)
    rw [unfolded]
    split
    · exact within
    · intro n member
      rcases (AList.mem_insert s.registry.services).mp member with rfl | older
      · apply within n
        rw [← AList.lookup_isSome, found]
        rfl
      · exact within n older

/-- Nor does the recursion, by induction on its depth. -/
theorem startRecursive_within {names : List String} (depth : Nat) (visiting : List String)
    (name : String) (s : Supervision S) (within : Within names s) :
    Within names (startRecursive trait depth visiting name s).2 := by
  induction depth generalizing visiting name s with
  | zero => exact within
  | succ depth ih =>
    unfold startRecursive
    split
    · exact within
    · cases found : s.registry.services.lookup name with
      | none =>
        rw [Comp.bind_of_error (getEntry_none found)]
        exact within
      | some entry =>
        rw [Comp.bind_of_ok (getEntry_some found)]
        have visited :=
          Comp.forEach_invariant (ih (name :: visiting)) entry.dependencies s within
        apply Comp.bind_invariant visited
        intro _ t holds
        exact startEntry_within holds

theorem unvisited_lt {names visiting : List String} {name : String} (known : name ∈ names)
    (fresh : name ∉ visiting) : (names.filter (· ∉ name :: visiting)).length <
      (names.filter (· ∉ visiting)).length := by
  rw [show (fun n => decide (n ∉ name :: visiting)) =
    fun n => decide (n ≠ name) && decide (n ∉ visiting) by simp [not_or]]
  rw [← List.filter_filter]
  apply List.length_filter_lt_length_iff_exists.mpr
  exact ⟨name, by simp [known, fresh], by simp⟩

variable (trait) in
/-- `startRecursive`, with anything at all where its levels are used up. -/
def startWithin (exhausted : String → Supervising S Unit) :
    Nat → List String → String → Supervising S Unit
  | 0, _, name => exhausted name
  | depth + 1, visiting, name =>
    if name ∈ visiting then Comp.raise (.dependencyCycle name)
    else do
      let entry ← getEntry name
      Comp.forEach (startWithin exhausted depth (name :: visiting)) entry.dependencies
      startEntry trait name

/-- With more levels than unvisited names the end of the levels is never met. -/
theorem startWithin_eq {names : List String} (exhausted : String → Supervising S Unit)
    (depth levels : Nat) (visiting : List String) (name : String) (s : Supervision S)
    (within : Within names s) (enough : (names.filter (· ∉ visiting)).length < depth)
    (ample : (names.filter (· ∉ visiting)).length < levels) :
    startRecursive trait levels visiting name s =
      startWithin trait exhausted depth visiting name s := by
  induction depth generalizing levels visiting name s with
  | zero => omega
  | succ depth ih =>
    obtain ⟨levels, rfl⟩ : ∃ fewer, levels = fewer + 1 := ⟨levels - 1, by omega⟩
    unfold startRecursive startWithin
    split
    · rfl
    · rename_i fresh
      cases found : s.registry.services.lookup name with
      | none => rw [Comp.bind_of_error (getEntry_none found), Comp.bind_of_error (getEntry_none found)]
      | some entry =>
        have registered : name ∈ s.registry.services := by
          rw [← AList.lookup_isSome, found]
          rfl
        have fewer := unvisited_lt (within name registered) fresh
        have loops : Comp.forEach (startRecursive trait levels (name :: visiting))
            entry.dependencies s =
            Comp.forEach (startWithin trait exhausted depth (name :: visiting))
              entry.dependencies s :=
          Comp.forEach_congr
            (fun other t holds => ih levels (name :: visiting) other t holds (by omega) (by omega))
            (startRecursive_within levels (name :: visiting)) entry.dependencies s within
        rw [Comp.bind_of_ok (getEntry_some found), Comp.bind_of_ok (getEntry_some found)]
        rcases ran : Comp.forEach (startRecursive trait levels (name :: visiting))
          entry.dependencies s with ⟨result, mid⟩
        rw [ran] at loops
        cases result with
        | ok u => rw [Comp.bind_of_ok ran, Comp.bind_of_ok loops.symm]
        | error e => rw [Comp.bind_of_error ran, Comp.bind_of_error loops.symm]

/-- The levels `startService` allows are never used up: whatever happened there, and however
many levels there were, it would do the same. -/
theorem startService_terminates (exhausted : String → Supervising S Unit) (name : String)
    (s : Supervision S) (depth : Nat) (enough : s.registry.services.keys.length < depth) :
    startWithin trait exhausted depth [] name s = startService trait name s := by
  unfold startService
  symm
  apply startWithin_eq exhausted depth _ [] name s (fun n member => AList.mem_keys.mp member)
  · simpa using enough
  · simp

end Apcos.Guarantees.ServiceDependencies
