import Apcos.Guarantees.ServiceDependencies
import Apcos.Lib.DepthFirst

/-!
# Starting a service

os/src/runtime/service_registry.rs:61-65 and 115-148. Starts that succeed change neither the
declared dependencies nor what any start would answer, so a start goes through a graph that
stays the same: its result is the first obstacle of a depth-first visit, and it starts what
the visit passes.
-/
namespace Apcos.Guarantees.ServiceStarts

open Apcos.Lib
open Apcos.Source.Supervisor
open Apcos.Guarantees.ServiceDependencies

variable {S : Type} (trait : Service S)

/-- A start that succeeds leaves the service running. -/
def StartsRunning : Prop :=
  ∀ service, (trait.start service).1 = .ok () → trait.isRunning (trait.start service).2 = true

def DependsOn (r : ServiceRegistry S) (name dependency : String) : Prop :=
  ∃ entry, r.services.lookup name = some entry ∧ dependency ∈ entry.dependencies

/-- Why a start fails, and whether it leaves the service running all the same. -/
structure StartFailure where
  reason : String
  leftRunning : Bool
  deriving DecidableEq, Repr

/-- What the start of the service would fail with, were it needed now. -/
def startFailure (r : ServiceRegistry S) (name : String) : Option StartFailure :=
  (r.services.lookup name).bind fun entry =>
    if trait.isRunning entry.service then none
    else
      match (trait.start entry.service).1 with
      | .ok _ => none
      | .error reason => some ⟨reason, trait.isRunning (trait.start entry.service).2⟩

def startGraph (r : ServiceRegistry S) : VisitGraph String StartFailure where
  children name := (r.services.lookup name).map ServiceEntry.dependencies
  fault := startFailure trait r

def obstacleError : Obstacle String StartFailure → ServiceRegistryError
  | .cycle name => .dependencyCycle name
  | .missing name => .serviceNotFound name
  | .fault _ failure => .serviceFailure failure.reason

/-- The service failed to start and runs. -/
def LeftRunning (obstacle : Obstacle String StartFailure) (name : String) : Prop :=
  ∃ reason, obstacle = .fault name ⟨reason, true⟩

/-! ## Calls -/

/-- The call starts a service of the registry that is not running, while all its dependencies
are. -/
def Ordered (r : ServiceRegistry S) (call : ServiceCall S) : Prop :=
  ∃ entry, r.services.lookup call.name = some entry ∧ trait.isRunning entry.service = false ∧
    call.method = .start ∧
    call.registry =
      ⟨r.services.insert call.name { entry with service := (trait.start entry.service).2 }⟩ ∧
    ∀ dependency ∈ entry.dependencies, r.isRunning trait dependency = true

/-- The start of the service, as the registry holds it, is answered with `Ok`. -/
def Succeeds (r : ServiceRegistry S) (call : ServiceCall S) : Prop :=
  ∃ entry, r.services.lookup call.name = some entry ∧ (trait.start entry.service).1 = .ok ()

def afterCall (_ : ServiceRegistry S) (call : ServiceCall S) : ServiceRegistry S := call.registry

/-- The calls made between two states, each a start in order. -/
structure Log (s s' : Supervision S) (made : List (ServiceCall S)) : Prop where
  calls : s'.calls = s.calls ++ made
  registry : run afterCall s.registry made = s'.registry
  ordered : Along afterCall (Ordered trait) s.registry made

variable {trait}

theorem Log.refl (s : Supervision S) : Log trait s s [] := ⟨by simp, rfl, trivial⟩

theorem Log.append {s t u : Supervision S} {made later : List (ServiceCall S)}
    (first : Log trait s t made) (second : Log trait t u later) :
    Log trait s u (made ++ later) := by
  refine ⟨?_, ?_, ?_⟩
  · rw [second.calls, first.calls, List.append_assoc]
  · rw [run_append, first.registry, second.registry]
  · rw [along_append_iff, first.registry]
    exact ⟨first.ordered, second.ordered⟩

theorem succeeds_append {s t : Supervision S} {made later : List (ServiceCall S)}
    (log : Log trait s t made) :
    Along afterCall (Succeeds trait) s.registry (made ++ later) ↔
      Along afterCall (Succeeds trait) s.registry made ∧
        Along afterCall (Succeeds trait) t.registry later := by
  rw [along_append_iff, log.registry]

theorem isRunning_insert (r : ServiceRegistry S) (name other : String) (entry : ServiceEntry S) :
    (⟨r.services.insert name entry⟩ : ServiceRegistry S).isRunning trait other =
      if other = name then trait.isRunning entry.service else r.isRunning trait other := by
  unfold ServiceRegistry.isRunning
  by_cases same : other = name
  · subst same
    simp
  · rw [AList.lookup_insert_ne same, if_neg same]

/-- No service that the calls have started ran before, and none is started again. -/
theorem nodup_of_succeeds (lawful : StartsRunning trait) (r : ServiceRegistry S)
    (made : List (ServiceCall S)) (ordered : Along afterCall (Ordered trait) r made)
    (succeeded : Along afterCall (Succeeds trait) r made) :
    (made.map ServiceCall.name).Nodup ∧
      ∀ call ∈ made, r.isRunning trait call.name = false := by
  induction made generalizing r with
  | nil => exact ⟨List.nodup_nil, nofun⟩
  | cons call rest ih =>
    obtain ⟨⟨entry, found, idle, -, after, -⟩, later⟩ := ordered
    obtain ⟨⟨_, found', returned⟩, succeeded⟩ := succeeded
    cases found.symm.trans found'
    obtain ⟨nodup, fresh⟩ := ih (afterCall r call) later succeeded
    have runs (other : String) : (afterCall r call).isRunning trait other =
        if other = call.name then true else r.isRunning trait other := by
      rw [afterCall, after, isRunning_insert, lawful entry.service returned]
    have others : ∀ next ∈ rest, next.name ≠ call.name := by
      intro next member same
      have stopped := fresh next member
      rw [runs, if_pos same] at stopped
      cases stopped
    refine ⟨?_, ?_⟩
    · rw [List.map_cons, List.nodup_cons]
      refine ⟨fun again => ?_, nodup⟩
      obtain ⟨next, member, same⟩ := List.mem_map.mp again
      exact others next member same
    · refine List.forall_mem_cons.mpr ⟨?_, fun next member => ?_⟩
      · unfold ServiceRegistry.isRunning
        simp [found, idle]
      · have stopped := fresh next member
        rwa [runs, if_neg (others next member)] at stopped

/-! ## Outcomes -/

variable (trait) in
/-- What a start of several services in a row comes to: all is clear, and what has been passed
runs, or the obstacle that was met is the error. -/
inductive Outcome (s : Supervision S) (clear : Prop)
    (obstructed : Obstacle String StartFailure → Prop) (passed : String → Prop) :
    Except ServiceRegistryError Unit × Supervision S → Prop
  | passed (s' : Supervision S) (made : List (ServiceCall S)) (isClear : clear)
      (log : Log trait s s' made) (succeeded : Along afterCall (Succeeds trait) s.registry made)
      (same : startGraph trait s'.registry = startGraph trait s.registry)
      (runs : ∀ name, s'.registry.isRunning trait name = true ↔
        s.registry.isRunning trait name = true ∨ passed name) :
      Outcome s clear obstructed passed (.ok (), s')
  | stopped (s' : Supervision S) (made : List (ServiceCall S))
      (obstacle : Obstacle String StartFailure) (met : obstructed obstacle)
      (log : Log trait s s' made)
      (failed : ∀ name failure, obstacle = .fault name failure →
        ¬Along afterCall (Succeeds trait) s.registry made)
      (runs : ∀ name, s'.registry.isRunning trait name = true ↔
        s.registry.isRunning trait name = true ∨ passed name ∨ LeftRunning obstacle name) :
      Outcome s clear obstructed passed (.error (obstacleError obstacle), s')

variable {s : Supervision S} {clear clear' : Prop}
  {obstructed obstructed' : Obstacle String StartFailure → Prop} {passed passed' : String → Prop}

theorem Outcome.congr {out : Except ServiceRegistryError Unit × Supervision S}
    (outcome : Outcome trait s clear obstructed passed out) (sameClear : clear' ↔ clear)
    (sameObstacles : ∀ obstacle, obstructed' obstacle ↔ obstructed obstacle)
    (samePassed : ∀ name, passed' name ↔ passed name) :
    Outcome trait s clear' obstructed' passed' out := by
  obtain rfl : clear' = clear := propext sameClear
  obtain rfl : obstructed' = obstructed := funext fun obstacle => propext (sameObstacles obstacle)
  obtain rfl : passed' = passed := funext fun name => propext (samePassed name)
  exact outcome

/-- One start after another. -/
theorem Outcome.andThen {m k : Supervising S Unit}
    (exclusive : ∀ obstacle, obstructed obstacle → ¬clear)
    (first : Outcome trait s clear obstructed passed (m s))
    (second : ∀ t, clear → startGraph trait t.registry = startGraph trait s.registry →
      (∀ name, t.registry.isRunning trait name = true ↔
        s.registry.isRunning trait name = true ∨ passed name) →
      Outcome trait t clear' obstructed' passed' (k t)) :
    Outcome trait s (clear ∧ clear')
      (fun obstacle => obstructed obstacle ∨ clear ∧ obstructed' obstacle)
      (fun name => passed name ∨ clear ∧ passed' name) ((m >>= fun _ => k) s) := by
  generalize ran : m s = out at first
  cases first with
  | passed t made isClear log succeeded same runs =>
    rw [Comp.bind_of_ok ran]
    have next := second t isClear same runs
    generalize k t = final at next
    cases next with
    | passed u later isClear' log' succeeded' same' runs' =>
      refine .passed u (made ++ later) ⟨isClear, isClear'⟩ (log.append log')
        ((succeeds_append log).mpr ⟨succeeded, succeeded'⟩) (same'.trans same) fun name => ?_
      rw [runs', runs, or_assoc, and_iff_right isClear]
    | stopped u later obstacle met log' failed runs' =>
      refine .stopped u (made ++ later) obstacle (Or.inr ⟨isClear, met⟩) (log.append log') ?_ ?_
      · intro name failure faulty both
        exact failed name failure faulty ((succeeds_append log).mp both).2
      · intro name
        rw [runs', runs, or_assoc, or_assoc, and_iff_right isClear]
  | stopped t made obstacle met log failed runs =>
    rw [Comp.bind_of_error ran]
    refine .stopped t made obstacle (Or.inl met) log failed fun name => ?_
    have blocked := exclusive obstacle met
    rw [runs]
    constructor
    · rintro (before | now | left)
      · exact Or.inl before
      · exact Or.inr (Or.inl (Or.inl now))
      · exact Or.inr (Or.inr left)
    · rintro (before | (now | ⟨isClear, -⟩) | left)
      · exact Or.inl before
      · exact Or.inr (Or.inl now)
      · exact absurd isClear blocked
      · exact Or.inr (Or.inr left)

/-! ## One service -/

theorem leftRunning_fault {name other reason : String} {running : Bool} :
    LeftRunning (.fault name ⟨reason, running⟩) other ↔ other = name ∧ running = true := by
  constructor
  · rintro ⟨_, same⟩
    cases same
    exact ⟨rfl, rfl⟩
  · rintro ⟨rfl, rfl⟩
    exact ⟨reason, rfl⟩

theorem startFailure_running {r : ServiceRegistry S} {name : String} {entry : ServiceEntry S}
    (found : r.services.lookup name = some entry) (running : trait.isRunning entry.service = true) :
    startFailure trait r name = none := by
  simp [startFailure, found, running]

/-- A service that runs after its start has nothing left to fail with. -/
theorem startGraph_started {r : ServiceRegistry S} {name : String} {entry : ServiceEntry S}
    (found : r.services.lookup name = some entry) (sound : startFailure trait r name = none)
    {service : S} (runs : trait.isRunning service = true) :
    startGraph trait ⟨r.services.insert name { entry with service := service }⟩ =
      startGraph trait r := by
  have kept (other : String) (different : other ≠ name) :
      (r.services.insert name { entry with service := service }).lookup other =
        r.services.lookup other := AList.lookup_insert_ne different
  unfold startGraph
  congr 1
  · funext other
    by_cases same : other = name
    · subst same
      simp [found]
    · rw [kept other same]
  · funext other
    by_cases same : other = name
    · subst same
      rw [sound]
      exact startFailure_running (AList.lookup_insert r.services) runs
    · rw [startFailure, kept other same, startFailure]

/-- What a call of `start` leaves behind. -/
theorem callService_start {s : Supervision S} {name : String} {entry : ServiceEntry S}
    (found : s.registry.services.lookup name = some entry)
    (idle : trait.isRunning entry.service = false)
    (ready : ∀ dependency ∈ entry.dependencies, s.registry.isRunning trait dependency = true) :
    ∃ s' call, callService trait .start name entry s =
        ((trait.start entry.service).1.mapError .serviceFailure, s') ∧ call.name = name ∧
      Log trait s s' [call] ∧ s'.registry =
        ⟨s.registry.services.insert name { entry with service := (trait.start entry.service).2 }⟩ :=
  ⟨_, _, rfl, rfl, ⟨rfl, rfl, ⟨entry, found, idle, rfl, rfl, ready⟩, trivial⟩, rfl⟩

/-- One service with running dependencies starts, or fails by itself. -/
theorem startEntry_outcome (lawful : StartsRunning trait) {s : Supervision S} {name : String}
    {entry : ServiceEntry S} (found : s.registry.services.lookup name = some entry)
    (ready : ∀ dependency ∈ entry.dependencies, s.registry.isRunning trait dependency = true) :
    Outcome trait s (startFailure trait s.registry name = none)
      (fun obstacle => ∃ failure, startFailure trait s.registry name = some failure ∧
        obstacle = .fault name failure)
      (fun other => startFailure trait s.registry name = none ∧ other = name)
      (startEntry trait name s) := by
  have unfolded : startEntry trait name s =
      (if trait.isRunning entry.service then pure ()
        else callService trait .start name entry : Supervising S Unit) s :=
    Comp.bind_of_ok (getEntry_some found)
  rw [unfolded]
  by_cases running : trait.isRunning entry.service = true
  · rw [if_pos running]
    refine .passed s [] (startFailure_running found running) (Log.refl s) trivial rfl ?_
    intro other
    constructor
    · exact Or.inl
    · rintro (before | ⟨-, rfl⟩)
      · exact before
      · exact isRunning_iff.mpr ⟨entry, found, running⟩
  · have idle := Bool.eq_false_iff.mpr running
    obtain ⟨s', call, called, rfl, log, left⟩ := callService_start found idle ready
    rw [if_neg running, called]
    have asked : startFailure trait s.registry call.name = match (trait.start entry.service).1 with
        | .ok _ => none
        | .error reason => some ⟨reason, trait.isRunning (trait.start entry.service).2⟩ := by
      simp [startFailure, found, idle]
    have runs (other : String) : s'.registry.isRunning trait other =
        if other = call.name then trait.isRunning (trait.start entry.service).2
        else s.registry.isRunning trait other := by
      rw [left, isRunning_insert]
    cases answered : (trait.start entry.service).1 with
    | ok u =>
      rw [answered] at asked
      refine .passed s' [call] asked log ⟨⟨entry, found, answered⟩, trivial⟩ ?_ fun other => ?_
      · rw [left]
        exact startGraph_started found asked (lawful entry.service answered)
      · rw [runs, lawful entry.service answered]
        by_cases same : other = call.name
        · simp [same, asked]
        · simp [same]
    | error reason =>
      rw [answered] at asked
      have raised : (Except.error reason : Except String Unit).mapError .serviceFailure =
          .error (obstacleError (.fault call.name
            ⟨reason, trait.isRunning (trait.start entry.service).2⟩)) := rfl
      rw [raised]
      refine .stopped s' [call] _ ?_ log ?_ fun other => ?_
      · exact ⟨_, asked, rfl⟩
      · rintro _ _ - ⟨⟨_, found', returned⟩, -⟩
        cases found.symm.trans found'
        cases answered.symm.trans returned
      · rw [runs]
        by_cases same : other = call.name
        · have before : s.registry.isRunning trait call.name = false := by
            simp [ServiceRegistry.isRunning, found, idle]
          simp [leftRunning_fault, same, asked, before]
        · simp [leftRunning_fault, same, asked]

/-! ## The whole visit -/

theorem forEach_outcome {graph : VisitGraph String StartFailure} {path : List String}
    {f : String → Supervising S Unit}
    (body : ∀ name t, startGraph trait t.registry = graph → Outcome trait t
      (graph.Clear path name) (graph.Obstructed path name) (graph.Passed path name) (f name t))
    (names : List String) (s : Supervision S) (seen : startGraph trait s.registry = graph) :
    Outcome trait s (graph.ClearAll path names) (graph.ObstructedIn path names)
      (graph.PassedIn path names) (Comp.forEach f names s) := by
  induction names generalizing s with
  | nil =>
    refine .passed s [] nofun (Log.refl s) trivial rfl fun name => ?_
    simp [VisitGraph.PassedIn]
  | cons name rest ih =>
    have outcome := Outcome.andThen (k := Comp.forEach f rest)
      (fun obstacle obstructed clear => VisitGraph.Clear.unobstructed clear obstructed)
      (body name s seen) fun t _ same _ => ih t (same.trans seen)
    exact outcome.congr VisitGraph.clearAll_cons (fun _ => VisitGraph.obstructedIn_cons)
      fun _ => VisitGraph.passedIn_cons

/-- Where a service is not entered nothing is called. -/
theorem outcome_unentered {graph : VisitGraph String StartFailure} {path : List String}
    {name : String} (s : Supervision S) {obstacle : Obstacle String StartFailure}
    (met : graph.Obstructed path name obstacle)
    (unentered : ¬(name ∉ path ∧ graph.children name ≠ none))
    (sound : ∀ other failure, obstacle ≠ .fault other failure) :
    Outcome trait s (graph.Clear path name) (graph.Obstructed path name) (graph.Passed path name)
      (.error (obstacleError obstacle), s) := by
  refine .stopped s [] obstacle met (Log.refl s)
    (fun other failure faulty => absurd faulty (sound other failure)) fun other => ?_
  constructor
  · exact Or.inl
  · rintro (before | passed | ⟨reason, faulty⟩)
    · exact before
    · exact absurd passed.entered unentered
    · exact absurd faulty (sound _ _)

/-- Enough levels given, a start is a visit of the graph. -/
theorem startRecursive_outcome (lawful : StartsRunning trait) {names : List String} (depth : Nat)
    (path : List String) (name : String) (s : Supervision S)
    {graph : VisitGraph String StartFailure} (seen : startGraph trait s.registry = graph)
    (known : ∀ other, graph.children other ≠ none → other ∈ names)
    (enough : (names.filter (· ∉ path)).length < depth) :
    Outcome trait s (graph.Clear path name) (graph.Obstructed path name) (graph.Passed path name)
      (startRecursive trait depth path name s) := by
  induction depth generalizing path name s with
  | zero => omega
  | succ depth ih =>
    unfold startRecursive
    split
    · rename_i again
      exact outcome_unentered s (.cycle again) (fun entered => entered.1 again) (by simp)
    · rename_i fresh
      cases found : s.registry.services.lookup name with
      | none =>
        rw [Comp.bind_of_error (getEntry_none found)]
        have unknown : graph.children name = none := by
          rw [← seen]
          simp [startGraph, found]
        exact outcome_unentered s (.missing fresh unknown) (fun entered => entered.2 unknown) (by simp)
      | some entry =>
        rw [Comp.bind_of_ok (getEntry_some found)]
        have children : graph.children name = some entry.dependencies := by
          rw [← seen]
          simp [startGraph, found]
        have fewer := unvisited_lt (known name (by simp [children])) fresh
        have deeper (other : String) (t : Supervision S)
            (same : startGraph trait t.registry = graph) :=
          ih (name :: path) other t same (by omega)
        have visits := forEach_outcome deeper entry.dependencies s seen
        refine (Outcome.andThen (fun _ met clear => VisitGraph.ClearAll.unobstructed clear met)
          visits fun t clear same runs => ?_).congr
          (VisitGraph.clear_iff fresh children)
          (fun _ => VisitGraph.obstructed_iff fresh children)
          (fun _ => VisitGraph.passed_iff fresh children)
        -- Another service may be registered under the name now, with the same dependencies.
        have declared : (startGraph trait t.registry).children name = some entry.dependencies := by
          rw [same, seen, children]
        obtain ⟨entry', found', dependencies⟩ := Option.map_eq_some_iff.mp declared
        have ready : ∀ dependency ∈ entry'.dependencies,
            t.registry.isRunning trait dependency = true := by
          rw [dependencies]
          intro dependency member
          obtain ⟨before, after, split⟩ := List.append_of_mem member
          refine (runs dependency).mpr (Or.inr ⟨before, dependency, after, split, ?_, ?_⟩)
          · intro earlier among
            exact clear earlier (by simp [split, among])
          · exact .here (clear dependency member)
        have failure : startFailure trait t.registry name = graph.fault name := by
          rw [← seen, ← same]
          rfl
        have last := startEntry_outcome lawful found' ready
        rw [failure] at last
        exact last

theorem startService_outcome (lawful : StartsRunning trait) (s : Supervision S) (name : String)
    {graph : VisitGraph String StartFailure} (seen : startGraph trait s.registry = graph) :
    Outcome trait s (graph.Clear [] name) (graph.Obstructed [] name) (graph.Passed [] name)
      (startService trait name s) := by
  have known : ∀ other, graph.children other ≠ none → other ∈ s.registry.services.keys := by
    intro other declared
    rw [← seen] at declared
    apply AList.mem_keys.mp
    rw [← AList.lookup_isSome]
    simpa [startGraph, Option.isSome_iff_ne_none] using declared
  exact startRecursive_outcome lawful _ [] name s seen known (by simp)

/-! ## Starting a service -/

theorem edge_iff {r : ServiceRegistry S} {name dependency : String} :
    (startGraph trait r).Edge name dependency ↔ DependsOn r name dependency := by
  unfold VisitGraph.Edge DependsOn startGraph
  simp

/-- A start terminates. It succeeds exactly if everything it reaches is registered and on no
cycle and every call of `start` it makes succeeds; then everything reached runs, and no service
was started twice, or before its dependencies. A cycle is reported only where there is one. -/
theorem start_service_correct (trait : Service S) (lawful : StartsRunning trait)
    (s : Supervision S) (name : String) :
    (∀ exhausted depth, s.registry.services.keys.length < depth →
      startWithin trait exhausted depth [] name s = startService trait name s) ∧
    ∃ made, Log trait s (startService trait name s).2 made ∧
      ((startService trait name s).1 = .ok () ↔
        (∀ other, Relation.ReflTransGen (DependsOn s.registry) name other →
          other ∈ s.registry.services ∧ ¬Relation.TransGen (DependsOn s.registry) other other) ∧
        Along afterCall (Succeeds trait) s.registry made) ∧
      ((startService trait name s).1 = .ok () →
        (∀ other, Relation.ReflTransGen (DependsOn s.registry) name other →
          (startService trait name s).2.registry.isRunning trait other = true) ∧
        (made.map ServiceCall.name).Nodup) ∧
      ∀ other, (startService trait name s).1 = .error (.dependencyCycle other) →
        Relation.ReflTransGen (DependsOn s.registry) name other ∧
          Relation.TransGen (DependsOn s.registry) other other := by
  refine ⟨fun exhausted depth enough => startService_terminates exhausted name s depth enough, ?_⟩
  have edges : (startGraph trait s.registry).Edge = DependsOn s.registry :=
    funext fun parent => funext fun child => propext edge_iff
  have outcome := startService_outcome lawful s name rfl
  generalize startService trait name s = out at outcome
  cases outcome with
  | passed s' made isClear log succeeded same runs =>
    refine ⟨made, log, ⟨fun _ => ⟨fun other reaches => ?_, succeeded⟩, fun _ => rfl⟩,
      fun _ => ⟨fun other reaches => ?_, ?_⟩, nofun⟩
    · rw [← edges] at reaches ⊢
      obtain ⟨⟨children, known⟩, -⟩ := isClear.reached reaches
      obtain ⟨entry, found, -⟩ := Option.map_eq_some_iff.mp known
      refine ⟨?_, isClear.acyclic reaches⟩
      rw [← AList.lookup_isSome, found]
      rfl
    · rw [← edges] at reaches
      exact (runs other).mpr (Or.inr (isClear.passed reaches))
    · exact (nodup_of_succeeds lawful s.registry made log.ordered succeeded).1
  | stopped s' made obstacle met log failed runs =>
    refine ⟨made, log, ⟨nofun, fun ⟨sound, succeeded⟩ => ?_⟩, nofun, fun other raised => ?_⟩
    · exfalso
      cases obstacle with
      | cycle other =>
        obtain ⟨reaches, closed⟩ := met.around
        rw [edges] at reaches closed
        exact (sound other reaches).2 (closed.resolve_left List.not_mem_nil)
      | missing other =>
        obtain ⟨reaches, unknown⟩ := met.unknown
        rw [edges] at reaches
        have registered := (sound other reaches).1
        rw [← AList.lookup_isSome, Option.map_eq_none_iff.mp unknown] at registered
        cases registered
      | fault other failure => exact failed other failure rfl succeeded
    · cases obstacle with
      | cycle node =>
        cases raised
        obtain ⟨reaches, closed⟩ := met.around
        rw [edges] at reaches closed
        exact ⟨reaches, closed.resolve_left List.not_mem_nil⟩
      | missing node => cases raised
      | fault node failure => cases raised

/-- A service over two that share a dependency. -/
def diamond : Supervision (String × Bool) :=
  run (requestStep stubService) .default
    [.register ("base", false) [], .register ("left", false) ["base"],
      .register ("right", false) ["base"], .register ("main", false) ["left", "right"]]

theorem start_service_correct_diamond : ∃ made,
    Log stubService diamond (startService stubService "main" diamond).2 made ∧
      made.map ServiceCall.name = ["base", "left", "right", "main"] ∧
      (made.map ServiceCall.name).Nodup ∧
      ∀ other, Relation.ReflTransGen (DependsOn diamond.registry) "main" other →
        (startService stubService "main" diamond).2.registry.isRunning stubService other = true := by
  obtain ⟨-, made, log, -, started, -⟩ :=
    start_service_correct stubService (fun _ _ => rfl) diamond "main"
  have returned : (startService stubService "main" diamond).1 = .ok () := by decide
  have names : (startService stubService "main" diamond).2.calls.map ServiceCall.name =
      ["base", "left", "right", "main"] := by decide
  have before : diamond.calls = [] := by decide
  rw [log.calls, before, List.nil_append] at names
  obtain ⟨runs, nodup⟩ := started returned
  exact ⟨made, log, names, nodup, runs⟩

end Apcos.Guarantees.ServiceStarts
