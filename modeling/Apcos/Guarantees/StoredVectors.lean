import Mathlib.Logic.Function.Basic
import Apcos.Lib.Assoc
import Apcos.Source.Memory.Calls

/-!
# Stored vectors

core/memory/vector_memory.py beside a task store that shares its bridges. Whatever the
authorities answer, the records are a finite map that successful upserts and deletions change at
their own id, and that nothing else changes.
-/
namespace Apcos.Guarantees.StoredVectors

open Apcos.Lib
open Apcos.Source.Python (Value Exc Runtime float)
open Apcos.Source.Bridge (Wire)
open Apcos.Source.Memory
open Apcos.Source.Memory.VectorMemory

variable {ω : Type} {s : MemoryState ω}

/-! ## The map -/

/-- The records by their ids. -/
def index (s : MemoryState ω) : String → Option VectorRecord := fun id => s.records.lookup id

/-- A call as the map takes it; a call that raises leaves it alone. -/
inductive Change where
  | unchanged
  | stored (id : String) (embedding : List Value) (metadata : List (String × String))
  | removed (id : String)

def change (py : Runtime) (map : String → Option VectorRecord) :
    Change → String → Option VectorRecord
  | .unchanged => map
  | .stored id embedding metadata =>
    match embedding.mapM (float py) with
    | .ok embedding => Function.update map id (some ⟨id, embedding, metadata⟩)
    | .error _ => map
  | .removed id => Function.update map id none

/-- What a call does to the map, in the state it is made in. -/
def changeOf (modules : MemoryModules ω) (s : MemoryState ω) : MemoryCall → Change
  | .upsert id embedding metadata =>
    match (modules.vectors.upsert id embedding metadata s).1 with
    | .ok _ => .stored id embedding metadata
    | .error _ => .unchanged
  | .delete id =>
    match (modules.vectors.delete id s).1 with
    | .ok _ => .removed id
    | .error _ => .unchanged
  | .createTask .. | .updateTask .. | .transitionTask .. | .activateTask _ | .completeTask _
  | .archiveTask _ | .deleteTask _ => .unchanged

/-! ## Records -/

/-- A record is found under its id, the others where they were. -/
theorem lookup_setRecord (record : VectorRecord) (records : List (String × VectorRecord))
    (id : String) :
    (setRecord record records).lookup id =
      if id = record.vectorId then some record else records.lookup id := by
  have unequal {first second : String} (different : first ≠ second) : (first == second) = false := by
    simp [different]
  induction records with
  | nil =>
    rw [setRecord, List.lookup_cons]
    by_cases same : id = record.vectorId
    · simp [same]
    · rw [unequal same, if_neg same]
  | cons entry rest ih =>
    rw [setRecord, List.lookup_cons]
    by_cases here : entry.1 = record.vectorId
    · rw [if_pos here, List.lookup_cons, here]
      by_cases same : id = record.vectorId
      · simp [same]
      · rw [unequal same, if_neg same]
    · rw [if_neg here, List.lookup_cons, ih]
      by_cases same : id = entry.1
      · rw [same, beq_self_eq_true, if_neg here, if_neg here]
      · rw [unequal same]

theorem mem_setRecord {record : VectorRecord} {records : List (String × VectorRecord)}
    {entry : String × VectorRecord} (member : entry ∈ setRecord record records) :
    entry = (record.vectorId, record) ∨ entry ∈ records := by
  induction records with
  | nil => exact Or.inl (List.mem_singleton.mp member)
  | cons first rest ih =>
    rw [setRecord] at member
    split at member
    · rename_i here
      rcases List.mem_cons.mp member with same | later
      · exact Or.inl (same.trans (by rw [here]))
      · exact Or.inr (List.mem_cons_of_mem _ later)
    · rcases List.mem_cons.mp member with same | later
      · exact Or.inr (same ▸ List.mem_cons_self)
      · exact (ih later).imp id (List.mem_cons_of_mem _)

/-- The records of a dict: one for each id, under its own. -/
structure Keyed (records : List (String × VectorRecord)) : Prop where
  distinct : (records.map Prod.fst).Nodup
  named : ∀ entry ∈ records, entry.2.vectorId = entry.1

/-- Setting a record keeps the ids distinct. -/
theorem keyed_setRecord {records : List (String × VectorRecord)} (keyed : Keyed records)
    (record : VectorRecord) : Keyed (setRecord record records) := by
  refine ⟨?_, fun entry member => ?_⟩
  · induction records with
    | nil => exact List.nodup_singleton _
    | cons entry rest ih =>
      obtain ⟨fresh, later⟩ := List.nodup_cons.mp keyed.distinct
      rw [setRecord]
      split
      · exact List.nodup_cons.mpr ⟨fresh, later⟩
      · rename_i different
        have tail := ih ⟨later, fun other member =>
          keyed.named other (List.mem_cons_of_mem _ member)⟩
        refine List.nodup_cons.mpr ⟨fun member => ?_, tail⟩
        obtain ⟨other, there, same⟩ := List.mem_map.mp member
        rcases mem_setRecord there with rfl | before
        · exact different same.symm
        · exact fresh (List.mem_map.mpr ⟨other, before, same⟩)
  · rcases mem_setRecord member with rfl | before
    · rfl
    · exact keyed.named entry before

/-! ## Upserts and deletions -/

/-- An upsert raises and leaves the records, or stores its record. -/
theorem upsert_stores (memory : VectorMemory ω) (id : String) (embedding : List Value)
    (metadata : List (String × String)) (s : MemoryState ω) :
    (∃ exc w, memory.upsert id embedding metadata s = (.error exc, { s with wire := w })) ∨
      ∃ components w, embedding.mapM (float memory.py) = .ok components ∧
        memory.upsert id embedding metadata s = (.ok ⟨id, components, metadata⟩,
          { s with records := setRecord ⟨id, components, metadata⟩ s.records, wire := w }) := by
  unfold upsert
  cases read : embedding.mapM (float memory.py) with
  | error exc => exact Or.inl ⟨exc, s.wire, rfl⟩
  | ok components =>
    rw [Comp.ofExcept_ok_bind]
    rcases memory.vectorGates_cases "ACTIVE" "VECTOR_WRITE" (write ⟨id, components, metadata⟩) s
      with ⟨exc, w, -, -, raised⟩ | ⟨w, -, -, -, -, -, ran⟩
    · exact Or.inl ⟨exc, w, raised⟩
    · exact Or.inr ⟨components, w, rfl, ran⟩

theorem delete_removes (memory : VectorMemory ω) (id : String) (s : MemoryState ω) :
    (∃ exc w, memory.delete id s = (.error exc, { s with wire := w })) ∨
      ∃ w, memory.delete id s = (.ok (index s id).isSome,
        { s with records := s.records.filter fun entry => entry.1 != id, wire := w }) := by
  rcases memory.vectorGates_cases "DORMANT" "VECTOR_DELETE" (remove id) s
    with ⟨exc, w, -, -, raised⟩ | ⟨w, -, -, -, -, -, ran⟩
  · exact Or.inl ⟨exc, w, raised⟩
  · exact Or.inr ⟨w, ran⟩

theorem index_setRecord (record : VectorRecord) (w : Wire ω) (s : MemoryState ω) :
    index { s with records := setRecord record s.records, wire := w } =
      Function.update (index s) record.vectorId (some record) := by
  funext id
  rw [Function.update_apply]
  exact lookup_setRecord record s.records id

theorem index_filter (id : String) (w : Wire ω) (s : MemoryState ω) :
    index { s with records := s.records.filter fun entry => entry.1 != id, wire := w } =
      Function.update (index s) id none := by
  funext other
  rw [Function.update_apply]
  refine (lookup_filter_keys s.records (fun key => key != id) other).trans ?_
  by_cases same : other = id
  · simp [same]
  · simp [same, index]

theorem keyed_filter {records : List (String × VectorRecord)} (keyed : Keyed records)
    (keep : String × VectorRecord → Bool) : Keyed (records.filter keep) :=
  ⟨keyed.distinct.sublist (List.filter_sublist.map _),
    fun entry member => keyed.named entry (List.mem_of_mem_filter member)⟩

/-! ## Steps -/

/-- A call on the vector memory. -/
def OnVectors (call : MemoryCall) : Prop :=
  ∃ id, call = .delete id ∨ ∃ embedding metadata, call = .upsert id embedding metadata

/-- Calls on the task store leave the records alone. -/
theorem records_kept (modules : MemoryModules ω) (s : MemoryState ω) (call : MemoryCall) :
    (callStep modules s call).records = s.records ∨ OnVectors call := by
  unfold callStep
  have outcome := perform_outcome modules s call
  generalize perform modules call s = out at outcome
  cases outcome with
  | wrote call vectorId target => exact Or.inr ⟨vectorId, target⟩
  | _ => exact Or.inl rfl

/-- Vector calls leave tasks and transition log alone. -/
theorem tasks_kept (modules : MemoryModules ω) (s : MemoryState ω) (call : MemoryCall)
    (vector : OnVectors call) :
    (callStep modules s call).tasks = s.tasks ∧
      (callStep modules s call).transitionLog = s.transitionLog := by
  obtain ⟨id, rfl | ⟨embedding, metadata, rfl⟩⟩ := vector
  · rcases delete_removes modules.vectors id s with ⟨exc, w, ran⟩ | ⟨w, ran⟩ <;>
      exact ⟨congrArg (·.2.tasks) ran, congrArg (·.2.transitionLog) ran⟩
  · rcases upsert_stores modules.vectors id embedding metadata s with
      ⟨exc, w, ran⟩ | ⟨components, w, -, ran⟩ <;>
      exact ⟨congrArg (·.2.tasks) ran, congrArg (·.2.transitionLog) ran⟩

/-- A call changes the index as its change says. -/
theorem callStep_change (modules : MemoryModules ω) (s : MemoryState ω) (call : MemoryCall) :
    index (callStep modules s call) =
      change modules.vectors.py (index s) (changeOf modules s call) := by
  have kept := records_kept modules s call
  cases call with
  | upsert id embedding metadata =>
    rcases upsert_stores modules.vectors id embedding metadata s with
      ⟨exc, w, ran⟩ | ⟨components, w, read, ran⟩
    · have after : callStep modules s (.upsert id embedding metadata) = { s with wire := w } :=
        congrArg Prod.snd ran
      rw [after, changeOf, ran]
      rfl
    · have after : callStep modules s (.upsert id embedding metadata) =
          { s with records := setRecord ⟨id, components, metadata⟩ s.records, wire := w } :=
        congrArg Prod.snd ran
      rw [after, changeOf, ran, index_setRecord]
      simp only [change, read]
  | delete id =>
    rcases delete_removes modules.vectors id s with ⟨exc, w, ran⟩ | ⟨w, ran⟩
    · have after : callStep modules s (.delete id) = { s with wire := w } := congrArg Prod.snd ran
      rw [after, changeOf, ran]
      rfl
    · have after : callStep modules s (.delete id) =
          { s with records := s.records.filter fun entry => entry.1 != id, wire := w } :=
        congrArg Prod.snd ran
      rw [after, changeOf, ran, index_filter]
      rfl
  | _ =>
    rcases kept with same | ⟨id, same | ⟨embedding, metadata, same⟩⟩
    · exact congrArg (fun records id => List.lookup id records) same
    · cases same
    · cases same

/-- No call stores two records under one id. -/
theorem keyed_step (modules : MemoryModules ω) (s : MemoryState ω) (call : MemoryCall)
    (keyed : Keyed s.records) : Keyed (callStep modules s call).records := by
  rcases records_kept modules s call with same | ⟨id, rfl | ⟨embedding, metadata, rfl⟩⟩
  · rw [same]
    exact keyed
  · rcases delete_removes modules.vectors id s with ⟨exc, w, ran⟩ | ⟨w, ran⟩
    · have after : callStep modules s (.delete id) = { s with wire := w } := congrArg Prod.snd ran
      rw [after]
      exact keyed
    · have after : callStep modules s (.delete id) =
          { s with records := s.records.filter fun entry => entry.1 != id, wire := w } :=
        congrArg Prod.snd ran
      rw [after]
      exact keyed_filter keyed _
  · rcases upsert_stores modules.vectors id embedding metadata s with
      ⟨exc, w, ran⟩ | ⟨components, w, -, ran⟩
    · have after : callStep modules s (.upsert id embedding metadata) = { s with wire := w } :=
        congrArg Prod.snd ran
      rw [after]
      exact keyed
    · have after : callStep modules s (.upsert id embedding metadata) =
          { s with records := setRecord ⟨id, components, metadata⟩ s.records, wire := w } :=
        congrArg Prod.snd ran
      rw [after]
      exact keyed_setRecord keyed _

/-! ## Runs -/

/-- What vector calls return in a state, and what they leave. -/
structure Answers (memory : VectorMemory ω) (s : MemoryState ω) : Prop where
  stored : ∀ (id : String) (embedding : List Value) (metadata : List (String × String))
    (record : VectorRecord) (s' : MemoryState ω),
    memory.upsert id embedding metadata s = (.ok record, s') →
    record.vectorId = id ∧ record.metadata = metadata ∧
      embedding.mapM (float memory.py) = .ok record.embedding ∧
      VectorMemory.get id s' = (.ok (some record), s')
  removed : ∀ (id : String) (present : Bool) (s' : MemoryState ω),
    memory.delete id s = (.ok present, s') →
    VectorMemory.get id s = (.ok (index s id), s) ∧ present = (index s id).isSome ∧
      VectorMemory.get id s' = (.ok none, s')

/-- The answers of the memory are those of its index. -/
theorem answers (memory : VectorMemory ω) (s : MemoryState ω) : Answers memory s where
  stored := by
    intro id embedding metadata record s' returned
    rcases upsert_stores memory id embedding metadata s with
      ⟨exc, w, ran⟩ | ⟨components, w, read, ran⟩
    · cases ran.symm.trans returned
    · cases ran.symm.trans returned
      refine ⟨rfl, rfl, read, ?_⟩
      have found := congrFun (index_setRecord ⟨id, components, metadata⟩ w s) id
      rw [Function.update_self] at found
      exact congrArg (fun result => (Except.ok result, _)) found
  removed := by
    intro id present s' returned
    rcases delete_removes memory id s with ⟨exc, w, ran⟩ | ⟨w, ran⟩
    · cases ran.symm.trans returned
    · cases ran.symm.trans returned
      refine ⟨rfl, rfl, ?_⟩
      have found := congrFun (index_filter id w s) id
      rw [Function.update_self] at found
      exact congrArg (fun result => (Except.ok result, _)) found

/-- After any calls on both modules the records are the map that the vector calls which
returned lead to; these return what the map has, and leave tasks and transition log alone. -/
theorem vector_memory_refines_map (modules : MemoryModules ω) (env : ω)
    (calls : List MemoryCall) :
    let s := run (callStep modules) (.initial env) calls
    index s = run (change modules.vectors.py) (fun _ => none)
        (observations (callStep modules) (changeOf modules) (.initial env) calls) ∧
      Keyed s.records ∧ Answers modules.vectors s ∧
      ∀ call, OnVectors call → (callStep modules s call).tasks = s.tasks ∧
        (callStep modules s call).transitionLog = s.transitionLog := by
  intro s
  have mapped : index s = run (change modules.vectors.py) (index (.initial env))
      (observations (callStep modules) (changeOf modules) (.initial env) calls) :=
    run_translated (fun _ _ (_ : True) => trivial) (fun s call _ => callStep_change modules s call) _
      trivial calls
  have start : Keyed (MemoryState.initial env).records :=
    ⟨List.nodup_nil, fun _ member => absurd member List.not_mem_nil⟩
  have keyed : Keyed s.records :=
    run_invariant (fun s call keyed => keyed_step modules s call keyed) _ start calls
  exact ⟨mapped, keyed, answers modules.vectors s, fun call vector =>
    tasks_kept modules s call vector⟩

/-- A record is replaced, and another one taken out; the task call leaves both alone. -/
def vectorCalls : List MemoryCall :=
  [.upsert "a" [.int 1] [], .upsert "b" [] [], .createTask "Water plants" .null none .null 3,
    .upsert "a" [.str "x"] [], .upsert "a" [.int 2] [("kind", "plant")], .delete "b"]

theorem vector_memory_refines_map_local :
    let s := run (callStep localModules) (.initial 0) vectorCalls
    (s.records.map fun entry => (entry.1, entry.2.metadata)) = [("a", [("kind", "plant")])] ∧
      index s = run (change localModules.vectors.py) (fun _ => none)
        (observations (callStep localModules) (changeOf localModules) (.initial 0) vectorCalls) ∧
      Keyed s.records ∧ Answers localModules.vectors s ∧
      ∀ call, OnVectors call → (callStep localModules s call).tasks = s.tasks ∧
        (callStep localModules s call).transitionLog = s.transitionLog :=
  ⟨by decide +kernel, vector_memory_refines_map localModules 0 vectorCalls⟩

end Apcos.Guarantees.StoredVectors
