import Apcos.Guarantees.BusPublishers
import Apcos.Guarantees.BusShutdown
import Apcos.Guarantees.SleepEvents
import Apcos.Source.Supervisor.EnergySupervision

/-!
# Energy signals on the bus

os/src/energy_manager.rs:255-267 over os/src/event_bus.rs. Other threads publish, subscribe and
shut the bus down while the manager publishes the events of its samples one by one. The bus
takes a first part of what the manager emits, in its order: a call that fails does so because
the bus was shut down, and then all later ones fail too. So the sleep events that subscribers
see alternate.
-/
namespace Apcos.Guarantees.EnergySignals

open Apcos.Lib
open Apcos.Source.Supervisor
open Apcos.Source.Supervisor.EnergyManager (new)
open Apcos.Guarantees.BusHandles (Attended attended_new setPhase_active)
open Apcos.Guarantees.BusPublishers
open Apcos.Guarantees.BusShutdown (Balanced balanced_new step_balanced)
open Apcos.Guarantees.EnergyMonotone (advance)
open Apcos.Guarantees.ForwardedEvents (InCall clientOf step_clients)
open Apcos.Guarantees.SleepEvents

variable {η : Type} {thread : Nat} {source : String}

/-- The events that envelopes of the source carry. -/
def signed (source : String) (envelopes : List EventEnvelope) : List Event :=
  (envelopes.filter fun envelope => envelope.source = source).map (·.event)

/-- What a manager emits for these samples. -/
def emitted (config : EnergyConfig) (samples : List EnergySample) : List Event :=
  (observations advance outcome (new config) samples).flatMap Prod.fst

/-- Nobody but the manager starts a call that names its source. -/
def Unsigned (source : String) : SupervisionLabel η → Prop
  | .bus (.call _ call) => call.source ≠ source
  | .bus (.invoke script) => ∀ call ∈ script, call.source ≠ source
  | _ => True

def supervise (thread : Nat) (source : String) (config : EnergyConfig) (queueCapacity : Nat)
    (maxHops : Fin 256) (traceCapacity : Nat) (labels : List (SupervisionLabel η)) :
    EnergySupervision η :=
  run (EnergySupervision.step thread source)
    (.new (.new queueCapacity maxHops traceCapacity) config) labels

/-! ## The bus -/

theorem signed_other {envelope : EventEnvelope} (other : envelope.source ≠ source)
    (envelopes : List EventEnvelope) :
    signed source (envelopes ++ [envelope]) = signed source envelopes := by
  simp [signed, other]

theorem signed_own {envelope : EventEnvelope} (own : envelope.source = source)
    (envelopes : List EventEnvelope) :
    signed source (envelopes ++ [envelope]) = signed source envelopes ++ [envelope.event] := by
  simp [signed, own]

/-- A bus that was shut down stays so. -/
theorem step_inactive (s : EventBus η) (label : EventBus.Label η) (inactive : s.active = false) :
    (s.step label).active = false := by
  have enters (caller : Caller) (call : BusCall) (s : EventBus η) (inactive : s.active = false) :
      (s.enter caller call).active = false := by
    cases call <;> exact (setPhase_active _ _ _).trans inactive
  cases label with
  | subscribe event handler =>
    simp only [EventBus.step, EventBus.subscribe]
    split_ifs <;> exact inactive
  | unsubscribe id =>
    simp only [EventBus.step, EventBus.unsubscribe]
    split <;> exact inactive
  | call mover call =>
    simp only [EventBus.step]
    split_ifs
    · exact enters _ call s inactive
    · exact inactive
  | check caller =>
    simp only [EventBus.step, EventBus.check]
    split
    · split_ifs
      · exact (setPhase_active _ _ _).trans inactive
      · exact (setPhase_active _ _ _).trans inactive
      · exact (setPhase_active _ _ _).trans inactive
    · exact inactive
  | allocate caller now =>
    simp only [EventBus.step, EventBus.allocate]
    split
    · exact (setPhase_active _ _ _).trans inactive
    · exact inactive
  | send caller =>
    simp only [EventBus.step, EventBus.send]
    split
    · split
      · exact (setPhase_active _ _ _).trans inactive
      · exact inactive
      · exact (setPhase_active _ _ _).trans inactive
    · exact inactive
  | shutdown mover =>
    simp only [EventBus.step, EventBus.shutdown]
    split
    · split_ifs
      · exact (setPhase_active _ _ _).trans rfl
      · exact inactive
    · exact inactive
  | sendStop mover =>
    simp only [EventBus.step, EventBus.sendStop]
    split
    · split <;> exact inactive
    · exact inactive
  | join mover =>
    simp only [EventBus.step, EventBus.join]
    split <;> exact inactive
  | receive =>
    simp only [EventBus.step, EventBus.receive]
    split
    · split
      · exact inactive
      · exact inactive
      · split_ifs <;> exact inactive
    · exact inactive
  | invoke script =>
    simp only [EventBus.step, EventBus.invoke]
    split <;> exact inactive
  | proceed =>
    simp only [EventBus.step, EventBus.proceed]
    split
    · exact enters _ _ _ inactive
    · exact inactive
  | finishHandling =>
    simp only [EventBus.step, EventBus.finishHandling]
    split <;> exact inactive
  | dropReceiver =>
    simp only [EventBus.step, EventBus.dropReceiver]
    split <;> exact inactive

/-- What is dispatched stays a prefix of what is accepted. -/
theorem step_dispatched (s : EventBus η) (label : EventBus.Label η) (balanced : Balanced s)
    (started : s.dispatched <+: s.accepted) : (s.step label).dispatched <+: (s.step label).accepted := by
  cases s.step_moves label with
  | quiet same =>
    rw [same.dispatched, same.accepted]
    exact started
  | sent caller call envelope named phase connected room channel accepted dispatched stage =>
    rw [dispatched, accepted]
    exact started.trans (List.prefix_append _ _)
  | stopped thread named phase connected room channel accepted dispatched stage =>
    rw [dispatched, accepted]
    exact started
  | taken envelope running items channel accepted within stage =>
    rw [(step_balanced s label balanced).books (by rw [stage]; simp)]
    exact List.prefix_append _ _
  | halted running items channel accepted dispatched stage =>
    rw [dispatched, accepted]
    exact started
  | dropped running channel accepted dispatched stage =>
    rw [dispatched, accepted]
    exact started

/-! ## The method -/

/-- The event of the call that a thread is in. -/
def underway : Phase → List Event
  | .entered call _ | .checked call _ | .sending call _ => [call.event]
  | .idle | .stopping | .joining => []

/-- What the method has still to get accepted. -/
def pending (thread : Nat) (s : EnergySupervision η) : List Event :=
  match s.remaining with
  | none => []
  | some rest => underway (s.bus.clients thread) ++ rest

/-- Inside the method the thread is idle, or in a call of the loop. -/
def Publishing (source : String) (phase : Phase) : Prop :=
  phase = .idle ∨ ∃ event, InCall (.publish event source) phase

/-- The thread has not passed the check of a call. -/
def Unchecked : Phase → Prop
  | .checked _ _ | .sending _ _ => False
  | _ => True

/-- Every thread but the manager's calls under other names. -/
def mayCall (thread : Nat) (source : String) (caller : Caller) (call : BusCall) : Prop :=
  caller ≠ .client thread → call.source ≠ source

/-- The bus has everything that was emitted but what is pending, or the method was refused when
the bus had a first part of it, and the bus is shut down. -/
def Books (thread : Nat) (source : String) (config : EnergyConfig) (s : EnergySupervision η) :
    Prop :=
  (signed source s.bus.accepted ++ pending thread s = emitted config s.samples ∧
      ∀ result ∈ s.results, ∃ policy, result = .ok policy) ∨
    ((s.bus.active = false ∧ ∃ error, .error error ∈ s.results) ∧
      (s.remaining ≠ none → Unchecked (s.bus.clients thread)) ∧
      signed source s.bus.accepted <+: emitted config s.samples)

structure Accounts (thread : Nat) (source : String) (config : EnergyConfig)
    (s : EnergySupervision η) : Prop where
  attributed : Attributed (mayCall thread source) s.bus
  balanced : Balanced s.bus
  attended : Attended s.bus
  started : s.bus.dispatched <+: s.bus.accepted
  manager : s.manager = run advance (new config) s.samples
  outside : s.remaining = none → Keeps (fun call => call.source ≠ source) (s.bus.clients thread)
  inside : s.remaining ≠ none → Publishing source (s.bus.clients thread)
  books : Books thread source config s

theorem accounts_new (config : EnergyConfig) (queueCapacity : Nat) (maxHops : Fin 256)
    (traceCapacity : Nat) :
    Accounts thread source config (EnergySupervision.new
      (.new queueCapacity maxHops traceCapacity : EventBus η) config) where
  attributed := attributed_new queueCapacity maxHops traceCapacity
  balanced := balanced_new queueCapacity maxHops traceCapacity
  attended := attended_new queueCapacity maxHops traceCapacity
  started := List.prefix_rfl
  manager := rfl
  outside _ := trivial
  inside inMethod := absurd rfl inMethod
  books := Or.inl ⟨rfl, fun _ member => absurd member List.not_mem_nil⟩

theorem emitted_append (config : EnergyConfig) (samples : List EnergySample)
    (sample : EnergySample) :
    emitted config (samples ++ [sample]) =
      emitted config samples ++ (outcome (run advance (new config) samples) sample).1 := by
  rw [emitted, observations_append, List.flatMap_append]
  exact congrArg (emitted config samples ++ ·) (List.append_nil _)

/-- An evaluation enters its signals as calls to come. -/
theorem evaluate_accounts {config : EnergyConfig} {s : EnergySupervision η}
    (accounts : Accounts thread source config s) (sample : EnergySample) :
    Accounts thread source config (s.evaluate thread sample) := by
  unfold EnergySupervision.evaluate
  split
  · exact accounts
  · rename_i outside
    split_ifs with idle
    · have grown := emitted_append config s.samples sample
      rw [← accounts.manager] at grown
      refine ⟨accounts.attributed, accounts.balanced, accounts.attended, accounts.started, ?_, nofun,
        fun _ => Or.inl idle, ?_⟩
      · rw [run_append, ← accounts.manager]
        rfl
      · rcases accounts.books with ⟨all, fine⟩ | ⟨inactive, -, part⟩
        · refine Or.inl ⟨?_, fine⟩
          rw [pending, outside, List.append_nil] at all
          change signed source s.bus.accepted ++ (underway (s.bus.clients thread) ++ _) =
            emitted config (s.samples ++ [sample])
          rw [idle, grown, ← all]
          rfl
        · refine Or.inr ⟨inactive, fun _ => ?_, ?_⟩
          · change Unchecked (s.bus.clients thread)
            rw [idle]
            trivial
          · change signed source s.bus.accepted <+: emitted config (s.samples ++ [sample])
            rw [grown]
            exact part.trans (List.prefix_append _ _)
    · exact accounts

/-! ## A step of the bus -/

open EnergySupervision (entersCall)

theorem failure_of_same {before after : EventBus η}
    (same : after.clients thread = before.clients thread) : EnergySupervision.failure thread before after = none := by
  rw [EnergySupervision.failure, same]
  exact if_neg fun both => both.1 both.2

theorem failure_of_busy {before after : EventBus η} (busy : after.clients thread ≠ .idle) :
    EnergySupervision.failure thread before after = none := by
  rw [EnergySupervision.failure]
  exact if_neg fun both => busy both.2

theorem failure_of_ok {before after : EventBus η} {envelope : EventEnvelope}
    (logged : after.outcomes.getLast?.map Outcome.result = some (.ok envelope)) :
    EnergySupervision.failure thread before after = none := by
  obtain ⟨⟨cause, call, result⟩, last, rfl⟩ := Option.map_eq_some_iff.mp logged
  rw [EnergySupervision.failure, last]
  split <;> rfl

theorem failure_of_error {before after : EventBus η} {error : EventBusError}
    (busy : before.clients thread ≠ .idle) (idle : after.clients thread = .idle)
    (logged : after.outcomes.getLast?.map Outcome.result = some (.error error)) :
    EnergySupervision.failure thread before after = some error := by
  obtain ⟨⟨cause, call, result⟩, last, rfl⟩ := Option.map_eq_some_iff.mp logged
  rw [EnergySupervision.failure, last, if_pos ⟨busy, idle⟩]

/-- Steps of others keep what is signed. -/
theorem signed_of_other {s : EventBus η} (attributed : Attributed (mayCall thread source) s)
    {label : EventBus.Label η} (other : clientOf label ≠ some thread) :
    signed source (s.step label).accepted = signed source s.accepted := by
  rcases accepted_of_other other with same | ⟨caller, call, envelope, stranger, sending, appended⟩
  · rw [same]
  · have keeps := attributed.phases caller
    rw [sending] at keeps
    rw [appended]
    exact signed_other (keeps.2.1 ▸ keeps.1 stranger) _

/-- A call of the loop is refused by a bus that was shut down, and by no other. -/
theorem inactive_of_refused {s : EventBus η} (balanced : Balanced s) (attended : Attended s)
    {event : Event} (refused : (∃ traceId,
        s.clients thread = .entered (.publish event source) traceId ∧
          (s.active = false ∨ s.maxHops < (BusCall.publish event source).hopCount)) ∨
      ∃ envelope, s.clients thread = .sending (.publish event source) envelope ∧
        s.channel.connected = false) : s.active = false := by
  rcases refused with ⟨traceId, -, inactive | beyond⟩ | ⟨envelope, -, disconnected⟩
  · exact inactive
  · exact absurd beyond (Nat.not_lt_zero _)
  · by_contra active
    have looping := attended.runs (by simpa using active)
    have connected := balanced.connected.mpr (by rw [looping]; simp)
    rw [disconnected] at connected
    cases connected

/-- Outside the method the thread gets nothing signed. -/
theorem signed_outside {s : EventBus η} {label : EventBus.Label η}
    (attributed : Attributed (mayCall thread source) s)
    (outside : Keeps (fun call => call.source ≠ source) (s.clients thread)) :
    signed source (s.step label).accepted = signed source s.accepted := by
  by_cases own : clientOf label = some thread
  · cases client_moves s own with
    | sent call envelope before phase logged accepted =>
      rw [before] at outside
      rw [accepted]
      exact signed_other (outside.2.1 ▸ outside.1) _
    | stays phase accepted => rw [accepted]
    | entered call traceId named before phase accepted => rw [accepted]
    | checked call traceId before active phase accepted => rw [accepted]
    | allocated call traceId envelope before phase accepted => rw [accepted]
    | refused call error before phase logged accepted => rw [accepted]
    | stopping named phase accepted => rw [accepted]
  · exact signed_of_other attributed own

theorem allowed_of_unsigned {label : EventBus.Label η}
    (unsigned : Unsigned source (.bus label : SupervisionLabel η)) :
    Allowed (mayCall thread source) label := by
  cases label with
  | call mover call => exact fun _ => unsigned
  | invoke script => exact fun call member _ => unsigned call member
  | _ => trivial

/-- Where a step of the bus inside the method leads. -/
inductive MethodMoves (thread : Nat) (source : String) (s : EventBus η) (s' : EventBus η) : Prop
  | onward (unfailed : EnergySupervision.failure thread s s' = none)
      (publishing : Publishing source (s'.clients thread))
      (booked : signed source s'.accepted ++ underway (s'.clients thread) =
        signed source s.accepted ++ underway (s.clients thread))
      (barred : s.active = false → Unchecked (s.clients thread) →
        Unchecked (s'.clients thread) ∧ signed source s'.accepted = signed source s.accepted)
  | failed (error : EventBusError) (failed : EnergySupervision.failure thread s s' = some error)
      (idle : s'.clients thread = .idle) (inactive : s.active = false)
      (signed_eq : signed source s'.accepted = signed source s.accepted)

/-- Inside the method its thread only moves through the calls it was given. -/
theorem method_moves {s : EventBus η} {label : EventBus.Label η}
    (attributed : Attributed (mayCall thread source) s) (balanced : Balanced s)
    (attended : Attended s) (inside : Publishing source (s.clients thread))
    (inCall : entersCall thread label = false) : MethodMoves thread source s (s.step label) := by
  by_cases own : clientOf label = some thread
  · cases client_moves s own with
    | stays phase accepted =>
      refine .onward (failure_of_same phase) ?_ ?_ ?_
      · rw [phase]
        exact inside
      · rw [phase, accepted]
      · rw [phase, accepted]
        exact fun _ unchecked => ⟨unchecked, rfl⟩
    | entered call traceId named before phase accepted =>
      rw [named, entersCall, beq_self_eq_true] at inCall
      cases inCall
    | checked call traceId before active phase accepted =>
      refine .onward (failure_of_busy (by rw [phase]; nofun)) ?_ ?_ ?_
      · rw [before] at inside
        rw [phase]
        obtain idle | ⟨event, inCall⟩ := inside
        · cases idle
        · cases inCall
          exact Or.inr ⟨event, .checked traceId⟩
      · rw [phase, before, accepted]
        rfl
      · intro inactive
        rw [active] at inactive
        cases inactive
    | allocated call traceId envelope before phase accepted =>
      refine .onward (failure_of_busy (by rw [phase]; nofun)) ?_ ?_ ?_
      · rw [before] at inside
        rw [phase]
        obtain idle | ⟨event, inCall⟩ := inside
        · cases idle
        · cases inCall
          exact Or.inr ⟨event, .sending envelope⟩
      · rw [phase, before, accepted]
        rfl
      · intro _ unchecked
        rw [before] at unchecked
        exact unchecked.elim
    | sent call envelope before phase logged accepted =>
      have keeps := attributed.phases (.client thread)
      rw [show s.phaseOf (.client thread) = s.clients thread from rfl, before] at keeps
      obtain ⟨-, signs, carries⟩ := keeps
      refine .onward (failure_of_ok logged) (Or.inl phase) ?_ ?_
      · rw [before] at inside
        obtain idle | ⟨event, inCall⟩ := inside
        · cases idle
        · cases inCall
          have own : signed source (s.accepted ++ [envelope]) =
            signed source s.accepted ++ [envelope.event] := signed_own signs _
          rw [accepted, own, carries, phase, before, List.append_assoc]
          rfl
      · intro _ unchecked
        rw [before] at unchecked
        exact unchecked.elim
    | refused call error before phase logged accepted =>
      have busy : s.clients thread ≠ .idle := by
        rcases before with ⟨traceId, entered, -⟩ | ⟨envelope, sending, -⟩
        · rw [entered]
          nofun
        · rw [sending]
          nofun
      obtain ⟨event, rfl⟩ : ∃ event, call = .publish event source := by
        obtain idle | ⟨event, inCall⟩ := inside
        · exact absurd idle busy
        · refine ⟨event, ?_⟩
          rcases before with ⟨traceId, entered, -⟩ | ⟨envelope, sending, -⟩
          · rw [entered] at inCall
            cases inCall
            rfl
          · rw [sending] at inCall
            cases inCall
            rfl
      exact .failed error (failure_of_error busy phase logged) phase
        (inactive_of_refused balanced attended before) (by rw [accepted])
    | stopping named phase accepted =>
      obtain shutdown | stopping | joining := named
      · rw [shutdown, entersCall, beq_self_eq_true] at inCall
        cases inCall
      · rw [stopping] at inside
        obtain idle | ⟨event, inCall⟩ := inside
        · cases idle
        · cases inCall
      · rw [joining] at inside
        obtain idle | ⟨event, inCall⟩ := inside
        · cases idle
        · cases inCall
  · have same := step_clients s own
    refine .onward (failure_of_same same) ?_ ?_ ?_
    · rw [same]
      exact inside
    · rw [same, signed_of_other attributed own]
    · rw [same, signed_of_other attributed own]
      exact fun _ unchecked => ⟨unchecked, rfl⟩

/-! ## Runs -/

section
variable {config : EnergyConfig} {s : EnergySupervision η}

/-- A step of the bus keeps the books of the method. -/
theorem bus_accounts (accounts : Accounts thread source config s) {label : EventBus.Label η}
    (unsigned : Unsigned source (.bus label : SupervisionLabel η)) :
    Accounts thread source config (s.busStep thread label) := by
  obtain ⟨attributed, balanced, attended, started, manager, outside, inside, books⟩ := accounts
  have allowed : Allowed (mayCall thread source) label := allowed_of_unsigned unsigned
  have attributed' := attributed_step attributed allowed
  have balanced' := step_balanced s.bus label balanced
  have attended' := attended.step label
  have started' := step_dispatched s.bus label balanced started
  unfold EnergySupervision.busStep
  cases remaining : s.remaining with
  | none =>
    have foreign : ∀ call, label = .call thread call → call.source ≠ source := by
      rintro call rfl
      exact unsigned
    have same : signed source (s.bus.step label).accepted = signed source s.bus.accepted :=
      signed_outside attributed (outside remaining)
    refine ⟨attributed', balanced', attended', started', manager,
      fun _ => keeps_step attributed (outside remaining) foreign, fun inMethod => absurd rfl inMethod, ?_⟩
    rcases books with ⟨all, fine⟩ | ⟨inactive, -, part⟩
    · refine Or.inl ⟨?_, fine⟩
      simp only [pending, remaining] at all ⊢
      rw [same]
      exact all
    · refine Or.inr ⟨inactive.imp (step_inactive s.bus label) id,
        fun inMethod => absurd rfl inMethod, ?_⟩
      dsimp only
      rw [same]
      exact part
  | some rest =>
    dsimp only
    split_ifs with entering
    · exact ⟨attributed, balanced, attended, started, manager, outside, inside, books⟩
    have inMethod : s.remaining ≠ none := by
      rw [remaining]
      nofun
    cases method_moves attributed balanced attended (inside inMethod)
      (Bool.eq_false_of_not_eq_true entering) with
    | onward unfailed publishing booked barred =>
      rw [unfailed]
      refine ⟨attributed', balanced', attended', started', manager, nofun, fun _ => publishing, ?_⟩
      rcases books with ⟨all, fine⟩ | ⟨inactive, unchecked, part⟩
      · refine Or.inl ⟨?_, fine⟩
        simp only [pending, remaining] at all ⊢
        rw [← List.append_assoc, booked, List.append_assoc]
        exact all
      · obtain ⟨still, same⟩ := barred inactive.1 (unchecked inMethod)
        refine Or.inr ⟨inactive.imp (step_inactive s.bus label) id, fun _ => still, ?_⟩
        dsimp only
        rw [same]
        exact part
    | failed error failed idle inactive same =>
      rw [failed]
      refine ⟨attributed', balanced', attended', started', manager, fun _ => ?_,
        fun inMethod => absurd rfl inMethod, ?_⟩
      · dsimp only
        rw [idle]
        trivial
      · refine Or.inr ⟨⟨step_inactive s.bus label inactive, error, List.mem_append_right _
          (List.mem_singleton_self _)⟩, fun inMethod => absurd rfl inMethod, ?_⟩
        dsimp only
        rw [same]
        rcases books with ⟨all, -⟩ | ⟨-, -, part⟩
        · rw [← all]
          exact List.prefix_append _ _
        · exact part

/-- An iteration of the loop keeps its books. -/
theorem iterate_accounts (accounts : Accounts thread source config s) :
    Accounts thread source config (s.iterate thread source) := by
  obtain ⟨attributed, balanced, attended, started, manager, outside, inside, books⟩ := accounts
  unfold EnergySupervision.iterate
  cases remaining : s.remaining with
  | none => exact ⟨attributed, balanced, attended, started, manager, outside, inside, books⟩
  | some rest =>
    dsimp only
    split_ifs with idle
    · cases rest with
      | nil =>
        refine ⟨attributed, balanced, attended, started, manager, fun _ => ?_,
          fun inMethod => absurd rfl inMethod, ?_⟩
        · dsimp only
          rw [idle]
          trivial
        · rcases books with ⟨all, fine⟩ | ⟨inactive, -, part⟩
          · refine Or.inl ⟨?_, fun result member => ?_⟩
            · simp only [pending, remaining, idle] at all ⊢
              exact all
            · rcases List.mem_append.mp member with earlier | here
              · exact fine result earlier
              · exact ⟨s.manager.policy, List.mem_singleton.mp here⟩
          · obtain ⟨inactive, error, refused⟩ := inactive
            exact Or.inr ⟨⟨inactive, error, List.mem_append_left _ refused⟩,
              fun inMethod => absurd rfl inMethod, part⟩
      | cons event rest =>
        have entering : s.bus.enter (.client thread) (.publish event source) =
            s.bus.step (.call thread (.publish event source)) := (if_pos idle).symm
        have allowed : Allowed (mayCall thread source)
            (.call thread (.publish event source) : EventBus.Label η) := fun stranger => absurd rfl stranger
        obtain ⟨traceId, phase⟩ := enter_client s.bus thread (.publish event source)
        have same := enter_accepted s.bus (.client thread) (.publish event source)
        have inactive' := step_inactive s.bus (.call thread (.publish event source))
        have attributed' := attributed_step attributed allowed
        have balanced' := step_balanced s.bus (.call thread (.publish event source)) balanced
        have attended' := attended.step (.call thread (.publish event source))
        have started' :=
          step_dispatched s.bus (.call thread (.publish event source)) balanced started
        rw [← entering] at attributed' balanced' attended' started' inactive'
        refine ⟨attributed', balanced', attended', started', manager, nofun, fun _ => ?_, ?_⟩
        · dsimp only
          rw [phase]
          exact Or.inr ⟨event, .entered traceId⟩
        · rcases books with ⟨all, fine⟩ | ⟨inactive, -, part⟩
          · refine Or.inl ⟨?_, fine⟩
            simp only [pending, remaining, idle] at all
            simp only [pending, same, phase]
            exact all
          · refine Or.inr ⟨inactive.imp inactive' id, fun _ => ?_, ?_⟩
            · dsimp only
              rw [phase]
              trivial
            · dsimp only
              rw [same]
              exact part
    · exact ⟨attributed, balanced, attended, started, manager, outside, inside, books⟩

theorem step_accounts (s : EnergySupervision η) (label : SupervisionLabel η)
    (accounts : Accounts thread source config s) (unsigned : Unsigned source label) :
    Accounts thread source config (s.step thread source label) := by
  cases label with
  | evaluate sample => exact evaluate_accounts accounts sample
  | iterate => exact iterate_accounts accounts
  | bus label => exact bus_accounts accounts unsigned

end

theorem isChain_of_prefix {events all : List Event} (part : events <+: all)
    (chain : (Event.sleepExited :: sleepEvents all).IsChain (· ≠ ·)) :
    (Event.sleepExited :: sleepEvents events).IsChain (· ≠ ·) := by
  obtain ⟨rest, rfl⟩ := part
  rw [sleepEvents_append, ← List.cons_append] at chain
  exact chain.left_of_append

/-- While only the manager signs with its source, the bus dispatches of what it signs a first part
of what it emits, in its order, so that the sleep events alternate. The method is refused only by
a bus that is shut down; where it never was, and has returned, the bus has accepted all of it. -/
theorem energy_signals_in_order (config : EnergyConfig) (queueCapacity : Nat) (maxHops : Fin 256)
    (traceCapacity : Nat) (labels : List (SupervisionLabel η))
    (unsigned : ∀ label ∈ labels, Unsigned source label) :
    let s := supervise thread source config queueCapacity maxHops traceCapacity labels
    signed source s.bus.dispatched <+: emitted config s.samples ∧
      (Event.sleepExited :: sleepEvents (signed source s.bus.dispatched)).IsChain (· ≠ ·) ∧
      (∀ error, .error error ∈ s.results → s.bus.active = false) ∧
      (s.remaining = none → (∀ result ∈ s.results, ∃ policy, result = .ok policy) →
        signed source s.bus.accepted = emitted config s.samples) := by
  intro s
  have accounts : Accounts thread source config s := by
    refine run_invariant_along (fun s label accounts => step_accounts s label accounts) _
      (accounts_new config queueCapacity maxHops traceCapacity) labels ?_
    exact along_of_mem unsigned _
  have part : signed source s.bus.dispatched <+: emitted config s.samples := by
    have queued : signed source s.bus.dispatched <+: signed source s.bus.accepted :=
      (accounts.started.filter _).map _
    rcases accounts.books with ⟨all, -⟩ | ⟨-, -, part⟩
    · rw [← all]
      exact queued.trans (List.prefix_append _ _)
    · exact queued.trans part
  refine ⟨part, isChain_of_prefix part (isChain_sleepEvents (new config) s.samples), ?_, ?_⟩
  · intro error refused
    rcases accounts.books with ⟨-, fine⟩ | ⟨⟨inactive, -⟩, -, -⟩
    · obtain ⟨policy, same⟩ := fine _ refused
      cases same
    · exact inactive
  · intro returned fine
    rcases accounts.books with ⟨all, -⟩ | ⟨⟨-, error, refused⟩, -, -⟩
    · rw [pending, returned, List.append_nil] at all
      exact all
    · obtain ⟨policy, same⟩ := fine _ refused
      cases same

/-! A drained battery puts the device to sleep; another thread shuts the bus down in the middle. -/

def drained : EnergySample := ⟨.finite 10, .finite 5, .finite 35, false⟩

def publication : List (SupervisionLabel Unit) :=
  [.iterate, .bus (.check (.client 0)), .bus (.allocate (.client 0) ⟨0, zero_lt_clock⟩),
    .bus (.send (.client 0)), .bus .receive, .bus .finishHandling]

def interruptedSignals : List (SupervisionLabel Unit) :=
  .evaluate drained :: publication ++ publication ++ [.bus (.shutdown 1)] ++ publication

theorem interrupted_unsigned : ∀ label ∈ interruptedSignals, Unsigned "energy-manager" label := by
  simp [interruptedSignals, publication, Unsigned]

theorem energy_signals_in_order_interrupted :
    let s := supervise 0 "energy-manager" .default 128 ⟨8, by decide⟩ 256 interruptedSignals
    signed "energy-manager" s.bus.dispatched <+: emitted .default s.samples ∧
      (Event.sleepExited :: sleepEvents (signed "energy-manager" s.bus.dispatched)).IsChain
        (· ≠ ·) ∧
      (∀ error, .error error ∈ s.results → s.bus.active = false) ∧
      (s.remaining = none → (∀ result ∈ s.results, ∃ policy, result = .ok policy) →
        signed "energy-manager" s.bus.accepted = emitted .default s.samples) :=
  energy_signals_in_order .default 128 ⟨8, by decide⟩ 256 interruptedSignals interrupted_unsigned

end Apcos.Guarantees.EnergySignals
