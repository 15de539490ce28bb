import Apcos.Lib.Runs
import Apcos.Guarantees.CommandReading
import Apcos.Source.Session.InteractionController

/-!
# Tier enforcement over sessions

A call on the controller changes the task table, the transition log or the
audit log only through the router, and the router is reached only by a command
whose parsed intent the identity in force may perform. A guest may perform none
of the intents the parser produces, so a session that starts as a guest and
stays one leaves all three as they are.
-/
namespace Apcos.Guarantees.TierEnforcement

open Apcos.Lib
open Apcos.Source
open Apcos.Source.Python (Value Dict Exc Runtime strip)
open Apcos.Source.Memory
open Apcos.Source.Cognition
open Apcos.Source.Session
open Apcos.Guarantees.CommandReading (parsedTypes parseIntent_type)

variable {ω α : Type}

/-- Task table, transition log and audit log are the same. -/
structure SameLedgers (s s' : SessionState ω) : Prop where
  tasks : s'.router.memory.tasks = s.router.memory.tasks
  transitionLog : s'.router.memory.transitionLog = s.router.memory.transitionLog
  auditEvents : s'.router.auditEvents = s.router.auditEvents

/-- The intent the parser reads from a text at the time of the call. -/
def parsedIntent (controller : InteractionController ω) (s : SessionState ω) (text : String) :
    Except Exc Dict :=
  parseIntent controller.py text
    (controller.router.taskStore.host.datetimeNow s.router.memory.wire.env).1

/-- The identity in force is authenticated and may perform the action of the parsed intent. -/
structure MayPerform (controller : InteractionController ω) (s : SessionState ω) (text : String) :
    Prop where
  authenticated : s.identity.authenticated = true
  allowed : ∃ intent intentType action, parsedIntent controller s text = .ok intent ∧
    Dict.get intent "intent_type" = .str intentType ∧
      actionOf controller.py intentType = some action ∧ action ∈ permissions s.identity.tier

/-- A text that is neither a login nor a strategy command, from an identity that may perform it. -/
structure Permitted (controller : InteractionController ω) (s : SessionState ω) (text : String) :
    Prop where
  noLogin : isLoginCommand (strip text) = false
  noStrategy : isStrategyMode controller.py (strip text) = false
  mayPerform : MayPerform controller s (strip text)

/-! ## Computations that reach neither the router nor the identity -/

structure Untouched (s s' : SessionState ω) : Prop extends SameLedgers s s' where
  identity : s'.identity = s.identity

theorem Untouched.refl (s : SessionState ω) : Untouched s s := ⟨⟨rfl, rfl, rfl⟩, rfl⟩

theorem SameLedgers.trans {s s' s'' : SessionState ω} (first : SameLedgers s s')
    (second : SameLedgers s' s'') : SameLedgers s s'' :=
  ⟨second.tasks.trans first.tasks, second.transitionLog.trans first.transitionLog,
    second.auditEvents.trans first.auditEvents⟩

theorem Untouched.trans {s s' s'' : SessionState ω} (first : Untouched s s')
    (second : Untouched s' s'') : Untouched s s'' :=
  ⟨first.toSameLedgers.trans second.toSameLedgers, second.identity.trans first.identity⟩

instance : Std.Refl (@Untouched ω) := ⟨Untouched.refl⟩

instance : IsTrans (SessionState ω) Untouched := ⟨fun _ _ _ => Untouched.trans⟩

def Harmless (m : Comp Exc (SessionState ω) α) : Prop := m.Preserves Untouched

theorem harmless_onOutside (m : Comp Exc ω α) : Harmless (InteractionController.onOutside m) :=
  fun _ => ⟨⟨rfl, rfl, rfl⟩, rfl⟩

theorem harmless_currentIdentity :
    Harmless (InteractionController.currentIdentity : Comp Exc (SessionState ω) IdentityContext) :=
  fun s => Untouched.refl s

theorem harmless_routerAuditCount :
    Harmless (InteractionController.routerAuditCount : Comp Exc (SessionState ω) Nat) :=
  fun s => Untouched.refl s

theorem harmless_handleStrategyInput (controller : InteractionController ω) (text : String) :
    Harmless (controller.handleStrategyInput text) := by
  unfold InteractionController.handleStrategyInput
  simp only
  split
  · exact Comp.preserves_pure _
  · refine Comp.preserves_bind harmless_routerAuditCount fun beforeAudit => ?_
    refine Comp.preserves_bind (Comp.preserves_attempt (harmless_onOutside _)) fun answer => ?_
    split
    · exact Comp.preserves_pure _
    · refine Comp.preserves_bind harmless_routerAuditCount fun afterAudit => ?_
      split
      · exact Comp.preserves_pure _
      · split
        · exact Comp.preserves_pure _
        · exact Comp.preserves_pure _

/-! ## Commands -/

/-- A command that is not allowed reaches neither the router nor the identity. -/
theorem parseAndRoute_cases (controller : InteractionController ω) (text : String)
    (s : SessionState ω) :
    (∃ r s', controller.parseAndRoute text s = (r, s') ∧ Untouched s s' ∧
        ∀ result, r ≠ .ok (.ok result)) ∨ MayPerform controller s text := by
  let clock := controller.router.taskStore.host.datetimeNow
  obtain ⟨s', read, same⟩ : ∃ s', InteractionController.onOutside (Comp.ofState clock) s =
      (.ok (clock s.router.memory.wire.env).1, s') ∧ Untouched s s' :=
    ⟨_, rfl, ⟨⟨rfl, rfl, rfl⟩, rfl⟩⟩
  rw [InteractionController.parseAndRoute, Comp.bind_of_ok read]
  cases parsed : parseIntent controller.py text (clock s.router.memory.wire.env).1 with
  | error exc => exact Or.inl ⟨.error exc, s', rfl, same, by simp⟩
  | ok intent =>
    obtain ⟨intentType, -, typed⟩ := parseIntent_type parsed
    have printed : Python.str controller.py (Dict.getD intent "intent_type" (.str "")) =
        .ok intentType := by
      have present : Dict.getD intent "intent_type" (.str "") = .str intentType := by
        simp only [Dict.get, Dict.getD] at typed ⊢
        cases found : intent.lookup "intent_type" with
        | none =>
          rw [found] at typed
          cases typed
        | some v =>
          rw [found] at typed
          exact typed
      rw [present]
      rfl
    simp only [Comp.ofExcept_ok_bind, printed]
    cases allowed : isAllowed controller.py intentType s.identity with
    | true =>
      obtain ⟨authenticated, action, named, member⟩ := (isAllowed_iff _ _ _).mp allowed
      exact Or.inr ⟨authenticated, intent, intentType, action, parsed, typed, named, member⟩
    | false =>
      have identity : InteractionController.currentIdentity s' = (.ok s.identity, s') := by
        rw [← same.identity]
        rfl
      refine Or.inl ⟨.ok (.error intentType), s', ?_, same, by simp⟩
      rw [Comp.bind_of_ok identity, allowed]
      rfl

/-- A command reaches the ledgers only if the identity may perform it. -/
theorem handleCommand_cases (controller : InteractionController ω) (text : String)
    (s : SessionState ω) :
    Untouched s (controller.handleCommand text s).2 ∨ MayPerform controller s text := by
  rcases parseAndRoute_cases controller text s with ⟨r, s', ran, same, unrouted⟩ | may
  · refine Or.inl ?_
    have attempted : Comp.attempt (controller.parseAndRoute text) s = (.ok r, s') := by
      rw [Comp.attempt, ran]
    rw [InteractionController.handleCommand, Comp.bind_of_ok attempted]
    cases r with
    | error exc => exact same
    | ok answer =>
      cases answer with
      | error intentType =>
        have kept : Harmless (InteractionController.currentIdentity >>= fun identity =>
            (pure (accessDeniedResponse intentType identity) : Comp Exc (SessionState ω) String)) :=
          Comp.preserves_bind harmless_currentIdentity fun identity => Comp.preserves_pure _
        exact same.trans (kept s')
      | ok result => exact absurd rfl (unrouted result)
  · exact Or.inr may

theorem resolveIdentity_of_match {py : Runtime} {input : String} {found : Regex.Found Char}
    (login : loginMatch input = some found) :
    (∃ exc, resolveIdentity py input = .error exc) ∨
      ∃ identity, resolveIdentity py input = .ok (some identity) := by
  simp only [resolveIdentity, login]
  generalize IdentityContext.create py _ _ true = created
  cases created with
  | error exc => exact Or.inl ⟨exc, rfl⟩
  | ok identity => exact Or.inr ⟨identity, rfl⟩

/-- A strategy command, refused or answered. -/
theorem harmless_handleStrategy (controller : InteractionController ω) (text : String) :
    Harmless (controller.handleStrategy text) := by
  refine Comp.preserves_bind harmless_currentIdentity fun identity => ?_
  split
  · exact Comp.preserves_pure _
  · exact harmless_handleStrategyInput controller text

/-- A text the resolver does not take for a login. -/
theorem unresolved_cases (controller : InteractionController ω) (text : String) (s : SessionState ω) :
    Untouched s (controller.handleResolved text none s).2 ∨
      (isStrategyMode controller.py text = false ∧ MayPerform controller s text) := by
  cases strategy : isStrategyMode controller.py text with
  | true =>
    have taken : controller.handleResolved text none = controller.handleStrategy text :=
      if_pos strategy
    rw [taken]
    exact Or.inl (harmless_handleStrategy controller text s)
  | false =>
    have taken : controller.handleResolved text none = controller.handleCommand text := by
      rw [InteractionController.handleResolved, strategy]
      rfl
    rw [taken]
    rcases handleCommand_cases controller text s with same | may
    · exact Or.inl same
    · exact Or.inr ⟨rfl, may⟩

/-- One input: a login command, an input without effect on identity and ledgers,
or a permitted command. -/
theorem handleInput_cases (controller : InteractionController ω) (text : String)
    (s : SessionState ω) :
    (isLoginCommand (strip text) = true ∧ SameLedgers s (controller.handleInput text s).2) ∨
      Untouched s (controller.handleInput text s).2 ∨ Permitted controller s text := by
  by_cases empty : strip text = ""
  · have answered : controller.handleInput text s = (.ok "Please enter a command.", s) :=
      congrFun (if_pos empty) s
    rw [answered]
    exact Or.inr (Or.inl (Untouched.refl s))
  · have resolving : controller.handleInput text s =
        (Comp.ofExcept (resolveIdentity controller.py (strip text)) >>=
          controller.handleResolved (strip text)) s :=
      congrFun (if_neg empty) s
    rw [resolving]
    cases login : loginMatch (strip text) with
    | some found =>
      have isLogin : isLoginCommand (strip text) = true := by
        rw [isLoginCommand, login]
        rfl
      refine Or.inl ⟨isLogin, ?_⟩
      rcases resolveIdentity_of_match login with ⟨exc, raised⟩ | ⟨identity, resolved⟩
      · rw [raised, Comp.ofExcept_error_bind]
        exact ⟨rfl, rfl, rfl⟩
      · rw [resolved, Comp.ofExcept_ok_bind]
        exact ⟨rfl, rfl, rfl⟩
    | none =>
      have noLogin : isLoginCommand (strip text) = false := by
        rw [isLoginCommand, login]
        rfl
      have unresolved : resolveIdentity controller.py (strip text) = .ok none := by
        simp only [resolveIdentity, login]
      rw [unresolved, Comp.ofExcept_ok_bind]
      rcases unresolved_cases controller (strip text) s with same | ⟨noStrategy, may⟩
      · exact Or.inr (Or.inl same)
      · exact Or.inr (Or.inr ⟨noLogin, noStrategy, may⟩)

/-! ## Sessions -/

theorem parsedTypes_no_strategy : ∀ intentType ∈ parsedTypes,
    Python.isAscii (strip intentType) = true ∧
      intentToAction.lookup (String.ofList ((strip intentType).toList.map Python.asciiLower)) ≠
        some .strategy := by
  decide +kernel

/-- A guest may only ask for a strategy, which no parsed intent does. -/
theorem guest_may_not {controller : InteractionController ω} {s : SessionState ω} {text : String}
    (guest : s.identity.tier = .guest) : ¬MayPerform controller s text := by
  rintro ⟨-, intent, intentType, action, parsed, typed, named, member⟩
  obtain ⟨produced, known, same⟩ := parseIntent_type parsed
  have equal : intentType = produced := by
    rw [typed] at same
    injection same
  subst equal
  rw [guest, permissions, List.mem_singleton] at member
  subst member
  obtain ⟨ascii, noStrategy⟩ := parsedTypes_no_strategy intentType known
  rw [actionOf, controller.py.lower_ascii _ ascii] at named
  exact noStrategy named

/-- The call keeps a guest a guest: no login command, and only guest identities are set. -/
def GuestCall : SessionCall → Prop
  | .handleInput text => isLoginCommand (strip text) = false
  | .setIdentity identity => identity.tier = .guest

theorem guest_step {controller : InteractionController ω} {s : SessionState ω} {call : SessionCall}
    (guest : s.identity.tier = .guest) (stays : GuestCall call) :
    SameLedgers s (sessionStep controller s call) ∧
      (sessionStep controller s call).identity.tier = .guest := by
  cases call with
  | setIdentity identity => exact ⟨⟨rfl, rfl, rfl⟩, stays⟩
  | handleInput text =>
    rcases handleInput_cases controller text s with ⟨login, -⟩ | same | permitted
    · rw [GuestCall, login] at stays
      cases stays
    · refine ⟨same.toSameLedgers, ?_⟩
      rw [sessionStep, same.identity]
      exact guest
    · exact absurd permitted.mayPerform (guest_may_not guest)

theorem guest_run {controller : InteractionController ω} (calls : List SessionCall)
    (s : SessionState ω) (guest : s.identity.tier = .guest) (stays : ∀ call ∈ calls, GuestCall call) :
    SameLedgers s (run (sessionStep controller) s calls) := by
  induction calls generalizing s with
  | nil => exact ⟨rfl, rfl, rfl⟩
  | cons call rest ih =>
    obtain ⟨same, still⟩ := guest_step guest (stays call List.mem_cons_self)
    exact same.trans (ih _ still fun later member => stays later (List.mem_cons_of_mem call member))

/-- In every session a step changes a ledger only by a permitted command; a session
of guest calls from a state with a guest identity changes none. -/
theorem tier_enforcement (controller : InteractionController ω) (start : SessionState ω)
    (calls : List SessionCall) :
    (∀ before call after, calls = before ++ call :: after →
      ¬SameLedgers (run (sessionStep controller) start before)
        (sessionStep controller (run (sessionStep controller) start before) call) →
      ∃ text, call = .handleInput text ∧
        Permitted controller (run (sessionStep controller) start before) text) ∧
      (start.identity.tier = .guest → (∀ call ∈ calls, GuestCall call) →
        ∀ before after, calls = before ++ after →
          SameLedgers start (run (sessionStep controller) start before)) := by
  refine ⟨?_, ?_⟩
  · intro before call after _ changed
    generalize run (sessionStep controller) start before = s at changed ⊢
    cases call with
    | setIdentity identity => exact absurd ⟨rfl, rfl, rfl⟩ changed
    | handleInput text =>
      refine ⟨text, rfl, ?_⟩
      rcases handleInput_cases controller text s with ⟨-, same⟩ | same | permitted
      · exact absurd same changed
      · exact absurd same.toSameLedgers changed
      · exact permitted
  · intro guest stays before after split
    subst split
    exact guest_run before start guest fun call member => stays call (List.mem_append_left after member)

def guestIdentity : IdentityContext := ⟨"guest_session", .guest, true, by decide⟩

def standupCalls : List SessionCall := [.handleInput "Schedule standup tomorrow"]

theorem standupCalls_guest : ∀ call ∈ standupCalls, GuestCall call := by
  intro call member
  rw [standupCalls, List.mem_singleton] at member
  subst member
  exact (by decide +kernel : isLoginCommand (strip "Schedule standup tomorrow") = false)

/-- The default identity is an owner: without any identity set, the call creates a task. -/
theorem default_standup_changes :
    ¬SameLedgers (InteractionController.initialState emptyRouterState)
      (run (sessionStep firstDayController) (InteractionController.initialState emptyRouterState)
        standupCalls) := by
  intro same
  have created : (run (sessionStep firstDayController)
      (InteractionController.initialState emptyRouterState)
      standupCalls).router.memory.tasks.rows.length = 1 := by
    decide +kernel
  rw [same.tasks] at created
  cases created

theorem tier_enforcement_guest_session :
    SameLedgers (⟨emptyRouterState, guestIdentity⟩ : SessionState Nat)
        (run (sessionStep firstDayController) ⟨emptyRouterState, guestIdentity⟩ standupCalls) ∧
      ∃ text, SessionCall.handleInput "Schedule standup tomorrow" = .handleInput text ∧
        Permitted firstDayController (InteractionController.initialState emptyRouterState) text :=
  ⟨(tier_enforcement firstDayController ⟨emptyRouterState, guestIdentity⟩ standupCalls).2 rfl
      standupCalls_guest standupCalls [] (List.append_nil _).symm,
    (tier_enforcement firstDayController (InteractionController.initialState emptyRouterState)
      standupCalls).1 [] (.handleInput "Schedule standup tomorrow") [] rfl default_standup_changes⟩

theorem default_session_not_guest :
    (∀ call ∈ standupCalls, GuestCall call) ∧
      ¬SameLedgers (InteractionController.initialState emptyRouterState)
        (run (sessionStep firstDayController) (InteractionController.initialState emptyRouterState)
          standupCalls) :=
  ⟨standupCalls_guest, default_standup_changes⟩

end Apcos.Guarantees.TierEnforcement
