import Mathlib.Data.List.Chain
import Mathlib.Logic.Function.Basic
import Apcos.Source.Memory.Calls

/-!
# Overlapping transitions on one database

A `transition_task` call reads and validates the row first and writes it later
(task_store.py:189-218, 335-351); the write is keyed on the id only. Clients
with stores of their own share the database file, and their halves interleave
in any order. Bridges are absent and the legacy matrix decides.
-/
namespace Apcos.Guarantees.Interleaving

open Apcos.Lib
open Apcos.Source.Python (Exc)
open Apcos.Source.Bridge
open Apcos.Source.Memory

variable {ω : Type}

/-! ## The two halves of a call -/

/-- What a call carries from its read to its write. -/
structure PendingWrite where
  taskId : Int
  source : TaskState
  destination : TaskState
  updatedAt : String
  archivedAt : Option String
  deriving DecidableEq, Repr

/-- `get_task`, the normalisation and the validation against the state read. -/
def readHalf (store : TaskStore ω) (taskId : Int) (newState : String) :
    Comp Exc (MemoryState ω) PendingWrite := do
  match ← store.getTask taskId with
  | none => Comp.raise (TaskStore.taskNotFound taskId)
  | some current => do
    let destination ← Comp.ofExcept (normalizeState store.py newState)
    let now ← store.utcNowIso
    store.assertTransition taskId current.state destination
    return ⟨taskId, current.state, destination, now,
      TaskStore.archivedAtFor destination now current.archivedAt⟩

/-- `_transition_task_row` and the read of the result. -/
def writeHalf (store : TaskStore ω) (pending : PendingWrite) :
    Comp Exc (MemoryState ω) (Option TaskRecord) := do
  TaskStore.transitionTaskRow pending.taskId pending.destination pending.updatedAt pending.archivedAt
  store.getTask pending.taskId

/-- No bridges, no enforcement, the legacy matrix. -/
structure Unguarded (store : TaskStore ω) : Prop where
  storageBridge : store.storageBridge = none
  memoryBridgeArgument : store.memoryBridgeArgument = none
  enforceStorage : store.enforceStorageAuthority = false
  enforceMemory : store.enforceMemoryAuthority = false
  transitionAuthorizer : store.lifecycle.transitionAuthorizer = none
  allowLegacyFallback : store.lifecycle.allowLegacyFallback = true

/-- A call that is not interrupted is its two halves in a row. -/
theorem transitionTask_halves {store : TaskStore ω} (unguarded : Unguarded store) (taskId : Int)
    (newState : String) :
    store.transitionTask taskId newState =
      readHalf store taskId newState >>= writeHalf store := by
  have memory : store.memoryBridge = none := by
    simp [TaskStore.memoryBridge, unguarded.memoryBridgeArgument, unguarded.storageBridge]
  have storageGate : ∀ operation lifecycleState (execute : Comp Exc (MemoryState ω) Unit),
      store.validateStorageAndMaybeExecute operation lifecycleState execute = execute := by
    intro operation lifecycleState execute
    simp only [TaskStore.validateStorageAndMaybeExecute, gateStorage, unguarded.storageBridge,
      unguarded.enforceStorage]
    rfl
  have memoryGate : ∀ source target memoryOperation storageOperation lifecycleState
      (execute : Comp Exc (MemoryState ω) Unit),
      store.validateMemoryAndMaybeTransition taskId source target memoryOperation storageOperation
        lifecycleState execute = store.assertTransition taskId source target >>= fun _ => execute := by
    intro source target memoryOperation storageOperation lifecycleState execute
    simp only [TaskStore.validateMemoryAndMaybeTransition, memory, unguarded.enforceMemory,
      storageGate]
    rfl
  unfold TaskStore.transitionTask readHalf
  rw [Comp.bind_assoc]
  congr 1
  funext found
  cases found with
  | none => rfl
  | some current =>
    simp only [memoryGate, Comp.bind_assoc]
    rfl

/-- The first half leaves the table alone and passes on a transition that the matrix allows from the
state it read. -/
theorem readHalf_cases {store : TaskStore ω} (unguarded : Unguarded store) (taskId : Int)
    (newState : String) (s : MemoryState ω) :
    (readHalf store taskId newState s).2.tasks = s.tasks ∧
      ∀ pending, (readHalf store taskId newState s).1 = .ok pending →
        pending.taskId = taskId ∧ bindInteger taskId = .ok taskId ∧
        legacyAllowed pending.source pending.destination = true ∧
        ∃ row, s.tasks.find taskId = some row ∧ row.state = pending.source := by
  unfold readHalf
  rcases store.getTask_cases taskId s with
    ⟨exc, raised⟩ | absent | ⟨row, current, bound, found, decrypted, read⟩
  · rw [Comp.bind_of_error raised]
    exact ⟨rfl, fun pending ok => (by cases ok)⟩
  · rw [Comp.bind_of_ok absent]
    exact ⟨rfl, fun pending ok => (by cases ok)⟩
  · rw [Comp.bind_of_ok read]
    obtain ⟨-, -, -, current_eq⟩ := store.rowToRecord_fields row current decrypted
    have stateEq : row.state = current.state := by rw [current_eq]
    dsimp only
    cases normalizeState store.py newState with
    | error exc => exact ⟨rfl, fun pending ok => (by cases ok)⟩
    | ok destination =>
      rw [Comp.ofExcept_ok_bind, Comp.bind_of_ok (store.utcNowIso_eq s)]
      obtain ⟨w, -, ⟨exc, raised⟩ | ⟨changedAtUtc, decision, decided, allowed, appended⟩⟩ :=
        store.assertTransition_cases taskId current.state destination
          { s with wire := ⟨(store.host.datetimeNow s.wire.env).2, s.wire.exchanges⟩ }
      · rw [Comp.bind_of_error raised]
        exact ⟨rfl, fun pending ok => (by cases ok)⟩
      · rw [Comp.bind_of_ok appended]
        refine ⟨rfl, ?_⟩
        intro pending ok
        cases ok
        refine ⟨rfl, bound, ?_, row, found, stateEq⟩
        simp only [LifecycleManager.authorizeTransition, unguarded.transitionAuthorizer,
          unguarded.allowLegacyFallback, if_true] at decided
        cases decided
        exact allowed

theorem writeHalf_tasks (store : TaskStore ω) (pending : PendingWrite)
    (bound : bindInteger pending.taskId = .ok pending.taskId) (s : MemoryState ω) :
    (writeHalf store pending s).2.tasks = TaskStore.writeState s.tasks pending.taskId
      pending.destination pending.updatedAt pending.archivedAt := by
  unfold writeHalf
  rw [Comp.bind_of_ok (TaskStore.transitionTaskRow_eq bound pending.destination pending.updatedAt
    pending.archivedAt s)]
  rfl

/-! ## The interleaved system -/

/-- What a client keeps to itself: its store's log, its outside world and the
write it has validated but not made. -/
structure Client (ω : Type) where
  transitionLog : List TransitionRecord
  wire : Wire ω
  pending : Option PendingWrite

/-- The shared table, the clients, and the writes committed so far in order. -/
structure System (κ ω : Type) where
  tasks : TaskTable
  clients : κ → Client ω
  committed : List (Int × TaskState)

inductive Half (κ : Type) where
  | read (client : κ) (taskId : Int) (newState : String)
  | write (client : κ)

def Client.view (client : Client ω) (tasks : TaskTable) : MemoryState ω :=
  ⟨tasks, client.transitionLog, [], client.wire⟩

variable {κ : Type} [DecidableEq κ]

/-- A client makes one call at a time: a read is taken up when nothing is
pending, a write when something is. -/
def systemStep (stores : κ → TaskStore ω) (s : System κ ω) : Half κ → System κ ω
  | .read client taskId newState =>
    match (s.clients client).pending with
    | some _ => s
    | none =>
      let out := readHalf (stores client) taskId newState ((s.clients client).view s.tasks)
      { tasks := out.2.tasks
        clients := Function.update s.clients client
          ⟨out.2.transitionLog, out.2.wire, out.1.toOption⟩
        committed := s.committed }
  | .write client =>
    match (s.clients client).pending with
    | none => s
    | some pending =>
      let out := writeHalf (stores client) pending ((s.clients client).view s.tasks)
      { tasks := out.2.tasks
        clients := Function.update s.clients client ⟨out.2.transitionLog, out.2.wire, none⟩
        committed := s.committed ++ [(pending.taskId, pending.destination)] }

/-- The states committed to a task, in order. -/
def committedTo (s : System κ ω) (taskId : Int) : List TaskState :=
  (s.committed.filter fun write => write.1 == taskId).map Prod.snd

/-- From the state a row had at the start, the committed states are a path of the matrix. -/
def PathLegal (start s : System κ ω) : Prop :=
  ∀ taskId row, start.tasks.find taskId = some row →
    (row.state :: committedTo s taskId).IsChain fun source target => legacyAllowed source target = true

/-- Nobody is in the middle of a call and nothing is committed yet. -/
structure Idle (s : System κ ω) : Prop where
  clients : ∀ client, (s.clients client).pending = none
  committed : s.committed = []

/-- The condition on a write: the row is still in the state the client read, or
the write archives a row that is not archived. -/
def WriteFresh (s : System κ ω) : Half κ → Prop
  | .read .. => True
  | .write client => ∀ pending row, (s.clients client).pending = some pending →
      s.tasks.find pending.taskId = some row →
      row.state = pending.source ∨ (pending.destination = .archived ∧ row.state ≠ .archived)

/-- The matrix has one way into `ACTIVE` and one into `COMPLETED`, and archives
every row that is not archived. -/
theorem legacyAllowed_iff_fresh (source current target : TaskState)
    (validated : legacyAllowed source target = true) :
    legacyAllowed current target = true ↔
      current = source ∨ (target = .archived ∧ current ≠ .archived) := by
  revert validated
  cases source <;> cases current <;> cases target <;> decide

/-- What holds between the start and every state reached. -/
structure Tracks (start s : System κ ω) : Prop where
  pending : ∀ client pending, (s.clients client).pending = some pending →
    legacyAllowed pending.source pending.destination = true ∧
    bindInteger pending.taskId = .ok pending.taskId ∧
    ∃ row, start.tasks.find pending.taskId = some row
  absent : ∀ taskId, start.tasks.find taskId = none → s.tasks.find taskId = none
  present : ∀ taskId row, start.tasks.find taskId = some row → ∃ row', s.tasks.find taskId = some row' ∧
    (row.state :: committedTo s taskId).getLast? = some row'.state

omit [DecidableEq κ] in
theorem committedTo_append (s s' : System κ ω) (taskId : Int) (state : TaskState)
    (appended : s'.committed = s.committed ++ [(taskId, state)]) (queried : Int) :
    committedTo s' queried =
      if taskId = queried then committedTo s queried ++ [state] else committedTo s queried := by
  unfold committedTo
  rw [appended, List.filter_append]
  by_cases same : taskId = queried
  · simp [same]
  · simp [same]

/-- What holds of all pending writes still does when one client's is replaced. -/
theorem forall_pending_update {P : PendingWrite → Prop} {clients : κ → Client ω} {client : κ}
    {replaced : Client ω} (others : ∀ other pending, (clients other).pending = some pending → P pending)
    (own : ∀ pending, replaced.pending = some pending → P pending) :
    ∀ other pending, (Function.update clients client replaced other).pending = some pending →
      P pending := by
  intro other pending isPending
  by_cases same : other = client
  · subst same
    rw [Function.update_self] at isPending
    exact own pending isPending
  · rw [Function.update_of_ne same] at isPending
    exact others other pending isPending

/-- A read leaves the table alone and validates what it makes pending. -/
theorem read_tracks {stores : κ → TaskStore ω} (unguarded : ∀ client, Unguarded (stores client))
    (start s : System κ ω) (client : κ) (taskId : Int) (newState : String)
    (tracks : Tracks start s) (idle : (s.clients client).pending = none) :
    Tracks start (systemStep stores s (.read client taskId newState)) := by
  simp only [systemStep, idle]
  obtain ⟨same, validated⟩ := readHalf_cases (unguarded client) taskId newState
    ((s.clients client).view s.tasks)
  generalize readHalf (stores client) taskId newState ((s.clients client).view s.tasks) = out
    at same validated ⊢
  refine ⟨forall_pending_update tracks.pending ?_, ?_, ?_⟩
  · intro pending made
    cases outcome : out.1 with
    | error exc =>
      rw [outcome] at made
      cases made
    | ok returned =>
      rw [outcome] at made
      cases made
      obtain ⟨idEq, bound, allowed, row, found, -⟩ := validated pending outcome
      rw [idEq]
      refine ⟨allowed, bound, ?_⟩
      cases known : start.tasks.find taskId with
      | some first => exact ⟨first, rfl⟩
      | none =>
        have absent : ((s.clients client).view s.tasks).tasks.find taskId = none :=
          tracks.absent taskId known
        rw [absent] at found
        cases found
  · intro queried unknown
    dsimp only
    rw [same]
    exact tracks.absent queried unknown
  · intro queried row known
    dsimp only
    rw [same]
    exact tracks.present queried row known

/-- A write moves the row to the last state committed to it. -/
theorem write_tracks {stores : κ → TaskStore ω} (start s : System κ ω) (client : κ)
    (pending : PendingWrite) (tracks : Tracks start s)
    (isPending : (s.clients client).pending = some pending) :
    Tracks start (systemStep stores s (.write client)) := by
  simp only [systemStep, isPending]
  obtain ⟨-, bound, -⟩ := tracks.pending client pending isPending
  have wrote := writeHalf_tasks (stores client) pending bound ((s.clients client).view s.tasks)
  generalize writeHalf (stores client) pending ((s.clients client).view s.tasks) = out at wrote ⊢
  have found_after : ∀ queried, out.2.tasks.find queried =
      if queried = pending.taskId then (s.tasks.find queried).map
        (TaskStore.setState pending.destination pending.updatedAt pending.archivedAt)
      else s.tasks.find queried := by
    intro queried
    rw [wrote, TaskStore.find_writeState]
    rfl
  refine ⟨forall_pending_update tracks.pending fun _ none_left => (by cases none_left), ?_, ?_⟩
  · intro queried unknown
    dsimp only
    rw [found_after, tracks.absent queried unknown]
    split <;> rfl
  · intro queried row found
    obtain ⟨row', found', last⟩ := tracks.present queried row found
    dsimp only
    rw [committedTo_append s _ pending.taskId pending.destination rfl, found_after, found']
    by_cases same : queried = pending.taskId
    · refine ⟨TaskStore.setState pending.destination pending.updatedAt pending.archivedAt row',
        by rw [if_pos same]; rfl, ?_⟩
      rw [if_pos same.symm, ← List.cons_append, List.getLast?_append]
      rfl
    · refine ⟨row', by rw [if_neg same], ?_⟩
      rw [if_neg fun h => same h.symm]
      exact last

theorem systemStep_tracks {stores : κ → TaskStore ω} (unguarded : ∀ client, Unguarded (stores client))
    (start s : System κ ω) (half : Half κ) (tracks : Tracks start s) :
    Tracks start (systemStep stores s half) := by
  cases half with
  | read client taskId newState =>
    cases idle : (s.clients client).pending with
    | some pending =>
      simp only [systemStep, idle]
      exact tracks
    | none => exact read_tracks unguarded start s client taskId newState tracks idle
  | write client =>
    cases isPending : (s.clients client).pending with
    | none =>
      simp only [systemStep, isPending]
      exact tracks
    | some pending => exact write_tracks start s client pending tracks isPending

omit [DecidableEq κ] in
/-- A committed write keeps the path legal exactly when it follows from the row as it is. -/
theorem pathLegal_append {start s s' : System κ ω} {pending : PendingWrite} {first row : TaskRow}
    (appended : s'.committed = s.committed ++ [(pending.taskId, pending.destination)])
    (known : start.tasks.find pending.taskId = some first)
    (last : (first.state :: committedTo s pending.taskId).getLast? = some row.state) :
    PathLegal start s' ↔
      PathLegal start s ∧ legacyAllowed row.state pending.destination = true := by
  have extended : (first.state :: (committedTo s pending.taskId ++ [pending.destination])).IsChain
        (fun source target => legacyAllowed source target = true) ↔
      (first.state :: committedTo s pending.taskId).IsChain
        (fun source target => legacyAllowed source target = true) ∧
      legacyAllowed row.state pending.destination = true := by
    rw [← List.cons_append, List.isChain_append, last]
    simp
  constructor
  · intro legal
    have here := legal pending.taskId first known
    rw [committedTo_append s _ _ _ appended, if_pos rfl, extended] at here
    refine ⟨?_, here.2⟩
    intro queried row' known'
    by_cases same : pending.taskId = queried
    · subst same
      rw [known] at known'
      cases known'
      exact here.1
    · have there := legal queried row' known'
      rw [committedTo_append s _ _ _ appended, if_neg same] at there
      exact there
  · rintro ⟨legal, allowed⟩ queried row' known'
    rw [committedTo_append s _ _ _ appended]
    by_cases same : pending.taskId = queried
    · subst same
      rw [known] at known'
      cases known'
      rw [if_pos rfl, extended]
      exact ⟨legal pending.taskId first known, allowed⟩
    · rw [if_neg same]
      exact legal queried row' known'

omit [DecidableEq κ] in
/-- The condition on a validated write, in terms of the matrix. -/
theorem writeFresh_iff {s : System κ ω} {client : κ} {pending : PendingWrite} {row : TaskRow}
    (isPending : (s.clients client).pending = some pending)
    (found : s.tasks.find pending.taskId = some row)
    (validated : legacyAllowed pending.source pending.destination = true) :
    WriteFresh s (.write client) ↔ legacyAllowed row.state pending.destination = true := by
  rw [legacyAllowed_iff_fresh pending.source row.state pending.destination validated]
  constructor
  · intro holds
    exact holds pending row isPending found
  · intro holds pending' row' isPending' found'
    rw [isPending] at isPending'
    cases isPending'
    rw [found] at found'
    cases found'
    exact holds

/-- One half keeps the path legal exactly when it meets the condition. -/
theorem pathLegal_step {stores : κ → TaskStore ω} (start s : System κ ω) (half : Half κ)
    (tracks : Tracks start s) :
    PathLegal start (systemStep stores s half) ↔ PathLegal start s ∧ WriteFresh s half := by
  cases half with
  | read client taskId newState =>
    have same : (systemStep stores s (.read client taskId newState)).committed = s.committed := by
      simp only [systemStep]
      cases (s.clients client).pending <;> rfl
    simp only [PathLegal, committedTo, same, WriteFresh, and_true]
  | write client =>
    cases isPending : (s.clients client).pending with
    | none =>
      have same : systemStep stores s (.write client) = s := by
        simp only [systemStep, isPending]
      rw [same]
      refine ⟨fun legal => ⟨legal, ?_⟩, fun both => both.1⟩
      intro pending row isPending'
      rw [isPending] at isPending'
      cases isPending'
    | some pending =>
      obtain ⟨validated, -, first, known⟩ := tracks.pending client pending isPending
      obtain ⟨row, found, last⟩ := tracks.present pending.taskId first known
      have appended : (systemStep stores s (.write client)).committed =
          s.committed ++ [(pending.taskId, pending.destination)] := by
        simp only [systemStep, isPending]
      rw [pathLegal_append appended known last, writeFresh_iff isPending found validated]

theorem pathLegal_run {stores : κ → TaskStore ω} (unguarded : ∀ client, Unguarded (stores client))
    (start s : System κ ω) (halves : List (Half κ)) (tracks : Tracks start s) :
    PathLegal start (run (systemStep stores) s halves) ↔
      PathLegal start s ∧ Along (systemStep stores) WriteFresh s halves := by
  induction halves generalizing s with
  | nil => simp [Along]
  | cons half rest ih =>
    rw [run_cons, ih (systemStep stores s half) (systemStep_tracks unguarded start s half tracks),
      pathLegal_step start s half tracks, and_assoc]
    rfl

omit [DecidableEq κ] in
theorem idle_tracks (start : System κ ω) (idle : Idle start) : Tracks start start := by
  refine ⟨?_, fun _ absent => absent, ?_⟩
  · intro client pending isPending
    rw [idle.clients client] at isPending
    cases isPending
  · intro taskId row found
    refine ⟨row, found, ?_⟩
    simp [committedTo, idle.committed]

/-- For every interleaving of the halves of any number of clients, the states
committed to each row are a path of the matrix if and only if every write finds
the row as it was read, or archives a row that is not archived. -/
theorem interleaved_path_iff {stores : κ → TaskStore ω}
    (unguarded : ∀ client, Unguarded (stores client)) (start : System κ ω) (idle : Idle start)
    (halves : List (Half κ)) :
    PathLegal start (run (systemStep stores) start halves) ↔
      Along (systemStep stores) WriteFresh start halves := by
  rw [pathLegal_run unguarded start start halves (idle_tracks start idle)]
  refine and_iff_right ?_
  intro taskId row found
  simp [committedTo, idle.committed]

/-- One task in state `CREATED` and two idle clients, numbered 0 and 1. -/
def twoClients : System (Fin 2) Nat where
  tasks := (run (callStep localModules) (.initial 0)
    [.createTask "water plants" .null none .null 0]).tasks
  clients _ := ⟨[], ⟨0, []⟩, none⟩
  committed := []

theorem twoClients_idle : Idle twoClients := ⟨fun _ => rfl, rfl⟩

theorem local_unguarded (_ : Fin 2) : Unguarded localModules.store := ⟨rfl, rfl, rfl, rfl, rfl, rfl⟩

/-- Both clients read `CREATED`; one archives the task, then the other activates it. -/
def overtakenHalves : List (Half (Fin 2)) :=
  [.read 0 1 "ACTIVE", .read 1 1 "ARCHIVED", .write 1, .write 0]

/-- An archived row becomes active: the late write does not look at the row again. -/
theorem archived_row_reactivated :
    ¬PathLegal twoClients
      (run (systemStep fun _ => localModules.store) twoClients overtakenHalves) := by
  intro legal
  have committed : committedTo (run (systemStep fun _ => localModules.store) twoClients
      overtakenHalves) 1 = [.archived, .active] := by decide +kernel
  have present : ((twoClients.tasks.find 1).map TaskRow.state) = some .created := by decide +kernel
  obtain ⟨row, found, state⟩ := Option.map_eq_some_iff.mp present
  have chain := legal 1 row found
  rw [committed, state] at chain
  simp [legacyAllowed, legacyAllowedTransitions] at chain

/-- The same two calls one after the other. -/
theorem interleaved_path_sequential :
    PathLegal twoClients (run (systemStep fun _ => localModules.store) twoClients
        [.read 0 1 "ACTIVE", .write 0, .read 1 1 "ARCHIVED", .write 1]) ∧
      Along (systemStep fun _ => localModules.store) WriteFresh twoClients
        [.read 0 1 "ACTIVE", .write 0, .read 1 1 "ARCHIVED", .write 1] := by
  have committed : committedTo (run (systemStep fun _ => localModules.store) twoClients
      [.read 0 1 "ACTIVE", .write 0, .read 1 1 "ARCHIVED", .write 1]) 1 = [.active, .archived] := by
    decide +kernel
  have only : ∀ row ∈ twoClients.tasks.rows, row.id = 1 ∧ row.state = .created := by decide +kernel
  have legal : PathLegal twoClients (run (systemStep fun _ => localModules.store) twoClients
      [.read 0 1 "ACTIVE", .write 0, .read 1 1 "ARCHIVED", .write 1]) := by
    intro taskId row found
    obtain ⟨idEq, state⟩ := only row (TaskTable.find_mem found)
    have taskEq : taskId = 1 := (TaskTable.find_id found).symm.trans idEq
    rw [taskEq, committed, state]
    simp [legacyAllowed, legacyAllowedTransitions]
  exact ⟨legal, (interleaved_path_iff local_unguarded twoClients twoClients_idle _).mp legal⟩

end Apcos.Guarantees.Interleaving
