import Mathlib.Data.List.DropRight
import Mathlib.Data.List.Nodup
import Apcos.Source.Supervisor.BusObservations

/-!
# Subscriptions, calls and traces of the event bus

os/src/event_bus.rs. Beside a run of the bus a history is kept of what is seen of it: the
ids it took from the counter, the subscriptions in force in the order in which they were
made, the dispatched envelopes, the handler calls each of them is owed, and the calls made.
The bus agrees with its history in every reached state, whatever the threads do in between,
while fewer than 2^64 ids were taken.
-/
namespace Apcos.Guarantees.Subscriptions

open Apcos.Lib
open Apcos.Source.Supervisor

variable {η : Type}

structure Registration (η : Type) where
  id : UInt64
  event : Event
  handler : η

/-- What was seen of a run. -/
structure History (η : Type) where
  ids : List UInt64 := []
  registry : List (Registration η) := []
  dispatched : List EventEnvelope := []
  due : List (EventEnvelope × η) := []
  called : List (EventEnvelope × η) := []

/-- The subscriptions to an event, in subscription order. -/
def subscribedTo (registry : List (Registration η)) (event : Event) : List (Registration η) :=
  registry.filter fun r => r.event = event

/-- A dispatch owes one call to each handler subscribed at that point. -/
def History.note (h : History η) : Observation η → History η
  | .nothing => h
  | .subscribed id event handler => { h with registry := h.registry ++ [⟨id, event, handler⟩] }
  | .unsubscribed id => { h with registry := h.registry.filter (·.id != id) }
  | .dispatched envelope =>
    { h with
      dispatched := h.dispatched ++ [envelope]
      due := h.due ++ (subscribedTo h.registry envelope.event).map fun r => (envelope, r.handler) }
  | .called envelope handler => { h with called := h.called ++ [(envelope, handler)] }

/-- A step of the bus with its history; an id is taken when the counter moves. -/
def observed (s : EventBus η × History η) (label : EventBus.Label η) : EventBus η × History η :=
  let next := s.1.step label
  let ids := if next.nextId = s.1.nextId then s.2.ids else s.2.ids ++ [s.1.nextId]
  (next, { s.2.note (s.1.observe label) with ids })

/-- The subscribers that the registry asks for. -/
def subscribersOf (registry : List (Registration η)) (event : Event) : List (Subscriber η) :=
  (subscribedTo registry event).map fun r => ⟨r.id, r.handler⟩

/-- The bus is what its history says. -/
structure Exact (traceCapacity : Nat) (s : EventBus η) (h : History η) : Prop where
  /-- No id is handed out twice, and `subscribe` returns the one it took. -/
  distinct : h.ids.Nodup
  handed : ∀ event handler id, (s.subscribe event handler).1 = .ok id →
    (observed (s, h) (.subscribe event handler)).2.ids = h.ids ++ [id]
  /-- `unsubscribe` finds exactly the ids in force and removes nothing else. -/
  registered : ∀ event, s.subscribers event = subscribersOf h.registry event
  once : (h.registry.map (·.id)).Nodup
  found : ∀ id, (s.unsubscribe id).1 = true ↔ ∃ r ∈ h.registry, r.id = id
  removed : ∀ id event,
    (s.unsubscribe id).2.subscribers event = (s.subscribers event).filter (·.id != id)
  /-- The calls made and those still to be made are the calls owed, in order. -/
  calls : h.called ++ s.remaining = h.due
  traces : s.traces = h.dispatched.rtake (min h.dispatched.length (max traceCapacity 1))

/-! ## Removing a subscription -/

theorem Event.mem_all (event : Event) : event ∈ Event.all := by
  cases event <;> decide

theorem eraseP_eq_filter {l : List (Subscriber η)} (nodup : (l.map (·.id)).Nodup) (id : UInt64) :
    l.eraseP (·.id == id) = l.filter (·.id != id) := by
  induction l with
  | nil => rfl
  | cons entry rest ih =>
    rw [List.map_cons, List.nodup_cons] at nodup
    obtain ⟨fresh, nodup⟩ := nodup
    by_cases same : entry.id = id
    · have absent : ∀ other ∈ rest, (other.id != id) = true := by
        intro other member
        refine bne_iff_ne.mpr ?_
        rintro rfl
        exact fresh (same ▸ List.mem_map_of_mem member)
      rw [List.eraseP_cons_of_pos (by simpa using same),
        List.filter_cons_of_neg (by simpa using same), List.filter_eq_self.mpr absent]
    · rw [List.eraseP_cons_of_neg (by simpa using same),
        List.filter_cons_of_pos (by simpa using same), ih nodup]

section
variable {s : EventBus η} {registry : List (Registration η)}

theorem ids_subscribersOf (registry : List (Registration η)) (event : Event) :
    ((subscribersOf registry event).map (·.id)).Sublist (registry.map (·.id)) := by
  rw [subscribersOf, List.map_map]
  exact List.filter_sublist.map _

theorem any_subscribersOf {event : Event} {id : UInt64} :
    (subscribersOf registry event).any (·.id == id) = true ↔
      ∃ r ∈ registry, r.event = event ∧ r.id = id := by
  simp [subscribersOf, subscribedTo]

theorem subscribersOf_filter (registry : List (Registration η)) (id : UInt64) (event : Event) :
    subscribersOf (registry.filter (·.id != id)) event =
      (subscribersOf registry event).filter (·.id != id) := by
  rw [subscribersOf, subscribedTo, List.filter_comm, subscribersOf, List.filter_map]
  rfl

theorem unsubscribe_found (registered : ∀ event, s.subscribers event = subscribersOf registry event)
    (id : UInt64) : (s.unsubscribe id).1 = true ↔ ∃ r ∈ registry, r.id = id := by
  unfold EventBus.unsubscribe
  cases found : Event.all.find? fun event => (s.subscribers event).any (·.id == id) with
  | none =>
    simp only [Bool.false_eq_true, false_iff]
    rintro ⟨r, member, same⟩
    have absent := List.find?_eq_none.mp found r.event (Event.mem_all r.event)
    rw [registered, any_subscribersOf] at absent
    exact absent ⟨r, member, rfl, same⟩
  | some event =>
    have present := List.find?_some found
    rw [registered, any_subscribersOf] at present
    obtain ⟨r, member, -, same⟩ := present
    simp only [true_iff]
    exact ⟨r, member, same⟩

/-- An unsubscribe removes the subscription with the id and no other. -/
theorem unsubscribe_removed
    (registered : ∀ event, s.subscribers event = subscribersOf registry event)
    (once : (registry.map (·.id)).Nodup) (id : UInt64) (event : Event) :
    (s.unsubscribe id).2.subscribers event = (s.subscribers event).filter (·.id != id) := by
  have unmatched {event : Event} (absent : ¬(s.subscribers event).any (·.id == id) = true) :
      (s.subscribers event).filter (·.id != id) = s.subscribers event := by
    refine List.filter_eq_self.mpr ?_
    intro entry member
    refine bne_iff_ne.mpr ?_
    intro same
    exact absent (List.any_eq_true.mpr ⟨entry, member, beq_iff_eq.mpr same⟩)
  unfold EventBus.unsubscribe
  cases found : Event.all.find? fun event => (s.subscribers event).any (·.id == id) with
  | none => exact (unmatched (List.find?_eq_none.mp found event (Event.mem_all event))).symm
  | some other =>
    have present := List.find?_some found
    by_cases same : event = other
    · subst same
      have nodup : ((s.subscribers event).map (·.id)).Nodup := by
        rw [registered]
        exact once.sublist (ids_subscribersOf registry event)
      simp only [Function.update_self]
      exact eraseP_eq_filter nodup id
    · simp only [Function.update_of_ne same]
      refine (unmatched ?_).symm
      rw [registered, any_subscribersOf] at present ⊢
      rintro ⟨r, member, here, number⟩
      obtain ⟨r', member', there, number'⟩ := present
      have equal := List.inj_on_of_nodup_map once member member' (number.trans number'.symm)
      exact same (here.symm.trans (equal ▸ there))

end

/-! ## Ids -/

theorem add_one_ne (id : UInt64) : id + 1 ≠ id := by
  intro same
  exact absurd (UInt64.add_eq_left.mp same) (by decide)

/-- The first ids of the counter. -/
def firstIds (n : Nat) : List UInt64 := (List.range n).map fun i => UInt64.ofNat (i + 1)

theorem firstIds_succ (n : Nat) : firstIds (n + 1) = firstIds n ++ [UInt64.ofNat (n + 1)] := by
  rw [firstIds, List.range_succ, List.map_append, List.map_singleton]
  rfl

theorem firstIds_nodup {n : Nat} (below : n < 2 ^ 64) : (firstIds n).Nodup := by
  refine (List.nodup_map_iff_inj_on List.nodup_range).mpr ?_
  intro i inside j inside' same
  rw [List.mem_range] at inside inside'
  have number {k : Nat} (small : k < n) : (UInt64.ofNat (k + 1)).toNat = k + 1 :=
    UInt64.toNat_ofNat_of_lt' (Nat.lt_of_le_of_lt small below)
  have equal := congrArg UInt64.toNat same
  rw [number inside, number inside'] at equal
  exact Nat.succ.inj equal

/-! ## Traces -/

theorem rtake_min {α : Type} (l : List α) (n : Nat) : l.rtake (min l.length n) = l.rtake n := by
  have same : l.length - min l.length n = l.length - n := by omega
  rw [List.rtake, List.rtake, same]

/-- Appending and dropping from the front keeps the last entries. -/
theorem rtake_push {α : Type} (l : List α) (n : Nat) (a : α) :
    (l.rtake n ++ [a]).drop ((l.rtake n ++ [a]).length - n) = (l ++ [a]).rtake n := by
  have within : l.length - n ≤ l.length := Nat.sub_le _ _
  rw [List.rtake, ← List.drop_append_of_le_length within, List.drop_drop, List.rtake]
  congr 1
  simp only [List.length_drop, List.length_append, List.length_singleton]
  omega

/-! ## Runs -/

/-- The invariant of all runs; the counter wraps, so the subscriptions are told apart only
while it has not. -/
structure Kept (traceCapacity : Nat) (s : EventBus η × History η) : Prop where
  counted : s.2.ids = firstIds s.2.ids.length
  next : s.1.nextId = UInt64.ofNat (s.2.ids.length + 1)
  numbered : (s.2.registry.map (·.id)).Sublist s.2.ids
  capacity : s.1.traceCapacity = max traceCapacity 1
  traces : s.1.traces = s.2.dispatched.rtake (max traceCapacity 1)
  registered : s.2.ids.length < 2 ^ 64 →
    ∀ event, s.1.subscribers event = subscribersOf s.2.registry event
  calls : s.2.ids.length < 2 ^ 64 → s.2.called ++ s.1.remaining = s.2.due

theorem kept_new (queueCapacity : Nat) (maxHops : Fin 256) (traceCapacity : Nat) :
    Kept traceCapacity ((EventBus.new queueCapacity maxHops traceCapacity : EventBus η), {}) where
  counted := rfl
  next := rfl
  numbered := .slnil
  capacity := rfl
  traces := (List.rtake_nil _).symm
  registered _ _ := rfl
  calls _ := rfl

/-- The ids of a step: none, or the one the counter held. -/
theorem observed_ids (s : EventBus η × History η) (label : EventBus.Label η) :
    ((s.1.step label).nextId = s.1.nextId ∧ (observed s label).2.ids = s.2.ids) ∨
      ((s.1.step label).nextId = s.1.nextId + 1 ∧
        (observed s label).2.ids = s.2.ids ++ [s.1.nextId]) := by
  rcases s.1.step_nextId label with stayed | advanced
  · exact Or.inl ⟨stayed, if_pos stayed⟩
  · refine Or.inr ⟨advanced, if_neg ?_⟩
    rw [advanced]
    exact add_one_ne _

theorem observed_ids_sublist (s : EventBus η × History η) (label : EventBus.Label η) :
    s.2.ids.Sublist (observed s label).2.ids := by
  rcases observed_ids s label with ⟨-, same⟩ | ⟨-, more⟩
  · rw [same]
  · rw [more]
    exact List.sublist_append_left _ _

theorem subscribersOf_append (registry : List (Registration η)) (id : UInt64) (event : Event)
    (handler : η) (other : Event) :
    subscribersOf (registry ++ [⟨id, event, handler⟩]) other =
      Function.update (subscribersOf registry) event
        (subscribersOf registry event ++ [⟨id, handler⟩]) other := by
  by_cases same : other = event
  · subst same
    simp [subscribersOf, subscribedTo, List.filter_append]
  · have different : ¬event = other := fun equal => same equal.symm
    simp [subscribersOf, subscribedTo, List.filter_append, Function.update_of_ne same, different]

theorem unsubscribe_books (s : EventBus η) (id : UInt64) :
    (s.unsubscribe id).2.remaining = s.remaining ∧ (s.unsubscribe id).2.traces = s.traces ∧
      (s.unsubscribe id).2.traceCapacity = s.traceCapacity := by
  unfold EventBus.unsubscribe
  split <;> exact ⟨rfl, rfl, rfl⟩

theorem observed_counted {traceCapacity : Nat} {s : EventBus η × History η}
    (kept : Kept traceCapacity s) (label : EventBus.Label η) :
    (observed s label).2.ids = firstIds (observed s label).2.ids.length ∧
      (observed s label).1.nextId = UInt64.ofNat ((observed s label).2.ids.length + 1) := by
  rcases observed_ids s label with ⟨stayed, same⟩ | ⟨advanced, more⟩
  · rw [same]
    exact ⟨kept.counted, stayed.trans kept.next⟩
  · rw [more, List.length_append, List.length_singleton]
    constructor
    · rw [firstIds_succ, ← kept.counted, ← kept.next]
    · refine advanced.trans ?_
      rw [kept.next, UInt64.ofNat_add (s.2.ids.length + 1) 1]
      rfl

section
variable {bus bus' : EventBus η} {observation : Observation η} {h : History η}

theorem note_traces {capacity : Nat} (seen : bus.Observes bus' observation)
    (size : bus.traceCapacity = capacity) (traces : bus.traces = h.dispatched.rtake capacity) :
    bus'.traceCapacity = capacity ∧
      bus'.traces = (h.note observation).dispatched.rtake capacity := by
  cases seen with
  | nothing same => exact ⟨same.traceCapacity.trans size, same.traces.trans traces⟩
  | subscribed event handler result =>
    subst result
    exact ⟨size, traces⟩
  | unsubscribed id result =>
    subst result
    obtain ⟨-, same, sameSize⟩ := unsubscribe_books bus id
    exact ⟨sameSize.trans size, same.trans traces⟩
  | dispatched envelope _ sameSize recorded _ _ =>
    refine ⟨sameSize.trans size, ?_⟩
    rw [recorded, EventBus.recordTrace, size, traces]
    exact rtake_push h.dispatched capacity envelope
  | called envelope handler _ same sameSize _ => exact ⟨sameSize.trans size, same.trans traces⟩

theorem note_registered (seen : bus.Observes bus' observation)
    (once : (h.registry.map (·.id)).Nodup)
    (registered : ∀ event, bus.subscribers event = subscribersOf h.registry event) (event : Event) :
    bus'.subscribers event = subscribersOf (h.note observation).registry event := by
  cases seen with
  | nothing same => exact (congrFun same.subscribers event).trans (registered event)
  | subscribed other handler result =>
    have all : bus.subscribers = subscribersOf h.registry := funext registered
    subst result
    exact (congrFun (by rw [all]) event).trans
      (subscribersOf_append h.registry bus.nextId other handler event).symm
  | unsubscribed id result =>
    subst result
    rw [unsubscribe_removed registered once, registered]
    exact (subscribersOf_filter h.registry id event).symm
  | dispatched envelope same _ _ _ _ => exact (congrFun same event).trans (registered event)
  | called envelope handler same _ _ _ => exact (congrFun same event).trans (registered event)

/-- What was called and what remains to be called is what is due. -/
theorem note_calls (seen : bus.Observes bus' observation)
    (registered : ∀ event, bus.subscribers event = subscribersOf h.registry event)
    (calls : h.called ++ bus.remaining = h.due) :
    (h.note observation).called ++ bus'.remaining = (h.note observation).due := by
  cases seen with
  | nothing same =>
    rw [same.remaining]
    exact calls
  | subscribed event handler result =>
    subst result
    exact calls
  | unsubscribed id result =>
    subst result
    rw [(unsubscribe_books bus id).1]
    exact calls
  | dispatched envelope _ _ _ idle remaining =>
    rw [idle, List.append_nil] at calls
    rw [remaining, EventBus.matchingHandlers, registered, subscribersOf, List.map_map, List.map_map]
    exact congrArg (· ++ _) calls
  | called envelope handler _ _ _ remaining =>
    rw [remaining] at calls
    exact (List.append_assoc h.called [(envelope, handler)] bus'.remaining).trans calls

end

/-- The subscriptions in force are among those handed out. -/
theorem observed_numbered (s : EventBus η × History η) (label : EventBus.Label η)
    (numbered : (s.2.registry.map (·.id)).Sublist s.2.ids) :
    ((observed s label).2.registry.map (·.id)).Sublist (observed s label).2.ids := by
  have grown := observed_ids_sublist s label
  have seen := s.1.step_observes label
  change ((s.2.note (s.1.observe label)).registry.map (·.id)).Sublist _
  generalize s.1.observe label = observation at seen
  cases seen with
  | nothing same => exact numbered.trans grown
  | subscribed event handler result =>
    have taken : (observed s label).2.ids = s.2.ids ++ [s.1.nextId] := by
      rcases observed_ids s label with ⟨stayed, -⟩ | ⟨-, more⟩
      · rw [result] at stayed
        exact absurd stayed (add_one_ne _)
      · exact more
    rw [taken]
    simp only [History.note, List.map_append, List.map_singleton]
    exact numbered.append (List.Sublist.refl _)
  | unsubscribed id result => exact ((List.filter_sublist.map _).trans numbered).trans grown
  | dispatched envelope _ _ _ _ _ => exact numbered.trans grown
  | called envelope handler _ _ _ _ => exact numbered.trans grown

theorem Kept.once {traceCapacity : Nat} {s : EventBus η × History η} (kept : Kept traceCapacity s)
    (below : s.2.ids.length < 2 ^ 64) : (s.2.registry.map (·.id)).Nodup := by
  refine kept.numbered.nodup ?_
  rw [kept.counted]
  exact firstIds_nodup below

theorem observed_kept {traceCapacity : Nat} (s : EventBus η × History η)
    (label : EventBus.Label η) (kept : Kept traceCapacity s) :
    Kept traceCapacity (observed s label) := by
  obtain ⟨counted, next⟩ := observed_counted kept label
  have earlier (below : (observed s label).2.ids.length < 2 ^ 64) : s.2.ids.length < 2 ^ 64 :=
    Nat.lt_of_le_of_lt (observed_ids_sublist s label).length_le below
  have seen := s.1.step_observes label
  obtain ⟨capacity, traces⟩ := note_traces seen kept.capacity kept.traces
  exact {
    counted
    next
    numbered := observed_numbered s label kept.numbered
    capacity
    traces
    registered := fun below =>
      note_registered seen (kept.once (earlier below)) (kept.registered (earlier below))
    calls := fun below =>
      note_calls seen (kept.registered (earlier below)) (kept.calls (earlier below)) }

theorem subscribe_handed (s : EventBus η) (h : History η) (event : Event) (handler : η)
    {id : UInt64} (returned : (s.subscribe event handler).1 = .ok id) :
    (observed (s, h) (.subscribe event handler)).2.ids = h.ids ++ [id] := by
  have taken : id = s.nextId ∧ (s.subscribe event handler).2.nextId = s.nextId + 1 := by
    unfold EventBus.subscribe at returned ⊢
    split at returned
    · cases returned
    · rename_i active
      rw [if_neg active]
      cases returned
      exact ⟨rfl, rfl⟩
  obtain ⟨rfl, advanced⟩ := taken
  rcases observed_ids (s, h) (.subscribe event handler) with ⟨stayed, -⟩ | ⟨-, more⟩
  · exact absurd (advanced.symm.trans stayed) (add_one_ne _)
  · exact more

/-- In every state reached with fewer than 2^64 ids taken, the bus is what its history says. -/
theorem subscriptions_exact (queueCapacity : Nat) (maxHops : Fin 256) (traceCapacity : Nat)
    (labels : List (EventBus.Label η))
    (below : (run observed
      (EventBus.new queueCapacity maxHops traceCapacity, {}) labels).2.ids.length < 2 ^ 64) :
    Exact traceCapacity
      (run observed (EventBus.new queueCapacity maxHops traceCapacity, {}) labels).1
      (run observed (EventBus.new queueCapacity maxHops traceCapacity, {}) labels).2 := by
  have kept := run_invariant (fun s label => observed_kept s label) _
    (kept_new (η := η) queueCapacity maxHops traceCapacity) labels
  generalize run observed _ labels = s at below kept
  have registered := kept.registered below
  have once := kept.once below
  refine {
    distinct := ?_
    handed := fun event handler _ returned => subscribe_handed s.1 s.2 event handler returned
    registered
    once
    found := unsubscribe_found registered
    removed := unsubscribe_removed registered once
    calls := kept.calls below
    traces := kept.traces.trans (rtake_min _ _).symm }
  rw [kept.counted]
  exact firstIds_nodup below

/-- Two handlers of one event, another subscription that is taken back, and one publish. -/
def deliveryLabels : List (EventBus.Label Nat) :=
  [.subscribe .taskCreated 10, .subscribe .taskCreated 20, .subscribe .taskCreated 30,
    .unsubscribe 2, .call 0 (.publish .taskCreated "store"), .check (.client 0),
    .allocate (.client 0) ⟨7, by decide⟩, .send (.client 0), .receive, .invoke []]

/-- The first handler is entered, the third is still owed its call. -/
theorem subscriptions_exact_delivery :
    Exact 1 (run observed (EventBus.new 4 ⟨4, by decide⟩ 1, {}) deliveryLabels).1
        (run observed (EventBus.new 4 ⟨4, by decide⟩ 1, {}) deliveryLabels).2 ∧
      (run observed (EventBus.new 4 ⟨4, by decide⟩ 1, {}) deliveryLabels).2.due.map (·.2) =
        [10, 30] ∧
      (run observed (EventBus.new 4 ⟨4, by decide⟩ 1, {}) deliveryLabels).2.called.map (·.2) =
        [10] :=
  ⟨subscriptions_exact 4 ⟨4, by decide⟩ 1 deliveryLabels (by decide +kernel), by decide +kernel,
    by decide +kernel⟩

end Apcos.Guarantees.Subscriptions
