import Apcos.Guarantees.RoutedCommands
import Apcos.Source.Bootstrap.Container

/-!
# The application refines the assistant

apcos/bootstrap/container.py:40-89 over interface/interaction_controller.py: every session on
the controller that the container builds replies, and keeps its tasks, as the assistant does
that hears the same. The scan after a command finds nothing to suggest, so the replies are
the sentences of the explanation engine alone.
-/
namespace Apcos.Guarantees.SessionRefinement

open Apcos.Lib Apcos.Lib.Words
open Apcos.Source
open Apcos.Source.Python
open Apcos.Source.Memory
open Apcos.Source.Cognition
open Apcos.Source.Session
open Apcos.Source.Bootstrap
open Apcos.Guarantees.AssistantBoard
open Apcos.Guarantees.CommandGrammar
open Apcos.Guarantees.CommandReading
open Apcos.Guarantees.CommandRoundTrip
open Apcos.Guarantees.RoutableCommands
open Apcos.Guarantees.RoutedCommands
open Apcos.Guarantees.TaskNames

variable {ω : Type}

/-- What the application relies on: dates are read as they are written, lower-casing leaves
digits alone and no text empty, and the clock shows a year that has neighbours. -/
structure Documented (platform : Platform ω) : Prop where
  uncased : DigitsUncased platform.py
  reads : ReadsIso platform.py
  lowers : ∀ text, platform.py.lower text = "" → text = ""
  clock : ∀ outside, 2 ≤ (platform.host.datetimeNow outside).1.year ∧
    (platform.host.datetimeNow outside).1.year ≤ 9998

/-! ## Commands in texts -/

/-- What a parsed intent asks for. -/
def commandOf (intent : Dict) : Command :=
  match Dict.get intent "entities" with
  | .dict entities =>
    let name := (Dict.get entities "task").asText
    let intentType := Dict.get intent "intent_type"
    if intentType.isText "schedule_task" then
      .schedule (name.getD "") ((Dict.get entities "due_at").asText.getD "")
    else if intentType.isText "mark_completed" then .complete (name.getD "")
    else if intentType.isText "cancel_task" then .cancel name
    else .unrecognised
  | _ => .unrecognised

theorem commandOf_reads {py : Runtime} {current : DateTime} {intent : Dict} {command : Command}
    (read : Reads py current intent command) : commandOf intent = command := by
  cases read <;> rfl

theorem name_of_words {py : Runtime} (lowers : ∀ text, py.lower text = "" → text = "")
    {words name : List (List Char)} (all : ∀ word ∈ words, IsWord isSpace word)
    (within : ∀ word ∈ name, word ∈ words) (some : name ≠ []) :
    Name py (String.ofList (join ' ' name)) := by
  have stripped := strip_name all within
  have visible := joined_visible all within some
  rw [stripped] at visible
  exact ⟨stripped, visible, fun empty => visible (lowers _ empty)⟩

/-- Every text is refused, or read as a command. -/
theorem parse_reads {py : Runtime} (uncased : DigitsUncased py)
    (lowers : ∀ text, py.lower text = "" → text = "") (text : String) {current : DateTime}
    (least : 2 ≤ current.year) (most : current.year ≤ 9998) :
    (∃ exc, parseIntent py text current = .error exc) ∨
      ∃ intent command, parseIntent py text current = .ok intent ∧
        Reads py current intent command := by
  have all := wordsOf_isWord text
  by_cases scheduled : ∃ name clock, Scheduled py (wordsOf text) name clock
  · obtain ⟨name, clock, scheduled⟩ := scheduled
    have parsed := parse_scheduled py text current scheduled
    by_cases range : TimeInRange py clock
    · obtain ⟨first, last⟩ := date_bounds least most
      have next : current.date + 1 < maxOrdinal := by
        unfold maxOrdinal
        omega
      obtain ⟨hour, minute⟩ := selectedTime_lt range
      obtain ⟨due, set, after⟩ := tomorrowAt_ok next hour minute
      rw [tomorrowTime_ok uncased all scheduled current range, dueText, set] at parsed
      obtain ⟨keyword, behind, shape, -⟩ := scheduled.ending all
      have proper := name_of_words lowers all (fun word member => by rw [shape]; simp [member])
        (scheduled_name scheduled)
      refine Or.inr ⟨_, _, parsed, .schedule _ due proper (toUtc_of_date ?_ ?_)⟩
      · rw [after.date]
        omega
      · rw [after.date]
        unfold maxOrdinal
        omega
    · obtain ⟨message, raised⟩ := tomorrowTime_error uncased all scheduled current range
      rw [raised] at parsed
      exact Or.inl ⟨_, parsed⟩
  right
  by_cases marked : ∃ name, Marked (wordsOf text) name
  · obtain ⟨name, marked⟩ := marked
    obtain ⟨keyword, final, shape, -⟩ := marked_opens marked
    exact ⟨_, _, parse_marked py text current marked, .complete _ (name_of_words lowers all
      (fun word member => by simp [shape, member]) (marked_name marked))⟩
  by_cases cancelled : ∃ keyword rest, wordsOf text = keyword :: rest ∧ Spelled "cancel" keyword
  · obtain ⟨keyword, rest, words, opens⟩ := cancelled
    have parsed := parse_cancelled py text current words opens
    by_cases nothing : cancelName rest = []
    · rw [cancelEntities, if_pos nothing] at parsed
      exact ⟨_, _, parsed, .cancelNothing⟩
    · rw [cancelEntities, if_neg nothing] at parsed
      exact ⟨_, _, parsed, .cancel _ (name_of_words lowers all (cancelName_subset text words)
        nothing)⟩
  by_cases nothing : wordsOf text = []
  · exact ⟨_, _, parse_none py text current nothing, .unrecognised _ _⟩
  · have unread : Unread py text := ⟨fun name clock reading => scheduled ⟨name, clock, reading⟩,
      fun name reading => marked ⟨name, reading⟩,
      fun keyword rest words opens => cancelled ⟨keyword, rest, words, opens⟩⟩
    exact ⟨_, _, parse_unread py text current nothing unread, .unrecognised _ _⟩

/-! ## What is heard, and what is shown -/

section
variable (app : AppContainer ω)

/-- The reading of the clock with which a command is parsed. -/
def clockAt (s : SessionState (AppOutside ω)) : DateTime :=
  (app.platform.host.datetimeNow s.router.memory.wire.env.outside).1

/-- The answer to a strategy request, which depends on its text only. -/
def adviceOn (text : String) : String :=
  let query := sanitizedQuery app.platform.py text
  if query = "" then "Provide a strategy request after /strategy."
  else
    match Cognition.generateStrategy app.platform.words app.platform.py stubClient
      [("goal", .str query), ("notes", .str query)] with
    | .error _ => safeInternalError
    | .ok output =>
      if output.safeToPresent then
        renderStrategy ⟨output.safeToPresent, output.summary, output.strategySteps⟩
      else safeInternalError

def heardCommand (current : DateTime) (text : String) : Heard :=
  match parseIntent app.platform.py text current with
  | .error _ => .unreadable
  | .ok intent => .command (commandOf intent)

def heardText (current : DateTime) (text : String) : Heard :=
  if text = "" then .silence
  else
    match resolveIdentity app.platform.py text with
    | .error exc => .spoiltLogin exc
    | .ok (some identity) => .login identity
    | .ok none =>
      if isStrategyMode app.platform.py text then .strategy (adviceOn app text)
      else heardCommand app current text

def heard (s : SessionState (AppOutside ω)) : SessionCall → Heard
  | .handleInput userText => heardText app (clockAt app s) (strip userText)
  | .setIdentity identity => .assigned identity

/-- What a call returns or raises. -/
def replyOf (s : SessionState (AppOutside ω)) : SessionCall → Option (Except Exc String)
  | .handleInput userText => some (app.controller.handleInput userText s).1
  | .setIdentity _ => none

/-- The identity in force, and the tasks that the table holds. -/
def view (s : SessionState (AppOutside ω)) : Assistant :=
  ⟨s.identity, boardOf app.commandRouter.taskStore s.router.memory.tasks⟩

def manner : Manner :=
  ⟨app.platform.py.lower, fun command => !doubted app.commandRouter command⟩

theorem local_router : LocalRouter app.commandRouter where
  storageBridge := rfl
  memoryBridgeArgument := rfl
  transitionAuthorizer := rfl
  allowLegacyFallback := rfl
  storageOptional := rfl
  memoryOptional := rfl
  lenient := by
    change (PyFloat.finite (1 / 2)).le (.finite 1) = true
    decide +kernel

end

variable {app : AppContainer ω}

/-- A call replies, and leaves the application, as the assistant does. -/
structure Simulated (app : AppContainer ω) (s : SessionState (AppOutside ω)) (heard : Heard)
    (out : Except Exc String × SessionState (AppOutside ω)) : Prop where
  replied : ((view app s).reply (manner app) heard).text = some out.1
  shown : view app out.2 = (view app s).step (manner app) heard
  legible : Legible app.commandRouter.taskStore out.2.router.memory.tasks

/-- The tasks and the identity are where they were. -/
structure Still (s s' : SessionState (AppOutside ω)) : Prop where
  tasks : s'.router.memory.tasks = s.router.memory.tasks
  identity : s'.identity = s.identity

theorem Still.view {s s' : SessionState (AppOutside ω)} (still : Still s s') :
    view app s' = view app s := by
  rw [SessionRefinement.view, still.tasks, still.identity]
  rfl

/-- A reply of the assistant that changes nothing. -/
theorem simulated_still {s s' : SessionState (AppOutside ω)} {heard : Heard} {reply : Reply}
    {r : Except Exc String} (legible : Legible app.commandRouter.taskStore s.router.memory.tasks)
    (still : Still s s') (heard_eq : (view app s).hear (manner app) heard = (reply, view app s))
    (text : reply.text = some r) : Simulated app s heard (r, s') where
  replied := by rw [Assistant.reply, heard_eq, text]
  shown := by rw [still.view, Assistant.step, heard_eq]
  legible := by
    rw [still.tasks]
    exact legible

/-! ## Permission -/

/-- The access control decides on the parsed type as the assistant does on the command. -/
theorem isAllowed_reads {py : Runtime} {current : DateTime} {intent : Dict} {command : Command}
    (read : Reads py current intent command) (s : SessionState (AppOutside ω)) :
    ∃ intentType, Python.str py (Dict.getD intent "intent_type" (.str "")) = .ok intentType ∧
      isAllowed py intentType s.identity = (view app s).mayPerform command := by
  have acts : ∀ intentType ∈ parsedTypes,
      actionOf py intentType = intentToAction.lookup intentType := by
    have spelled : ∀ intentType ∈ parsedTypes,
        isAscii (strip intentType) = true ∧
          String.ofList ((strip intentType).toList.map asciiLower) = intentType := by decide
    intro intentType named
    obtain ⟨ascii, lower⟩ := spelled intentType named
    rw [Session.actionOf, py.lower_ascii _ ascii, lower]
  have allowed (intentType : String) (named : intentType ∈ parsedTypes)
      (same : intentToAction.lookup intentType = command.permission) :
      isAllowed py intentType s.identity = (view app s).mayPerform command := by
    rw [isAllowed, acts intentType named, same, Assistant.mayPerform]
    cases authenticated : s.identity.authenticated <;> cases command.permission <;>
      simp [Assistant.may, view, authenticated]
  cases read with
  | schedule => exact ⟨"schedule_task", rfl, allowed _ (by decide) rfl⟩
  | complete => exact ⟨"mark_completed", rfl, allowed _ (by decide) rfl⟩
  | cancel => exact ⟨"cancel_task", rfl, allowed _ (by decide) rfl⟩
  | cancelNothing => exact ⟨"cancel_task", rfl, allowed _ (by decide) rfl⟩
  | unrecognised => exact ⟨"unknown", rfl, allowed _ (by decide) rfl⟩

theorem isAllowed_strategy (py : Runtime) (s : SessionState (AppOutside ω)) :
    isAllowed py "strategy" s.identity = (view app s).may .strategy := by
  have action : Session.actionOf py "strategy" = some .strategy := by
    rw [Session.actionOf, py.lower_ascii _ (by decide)]
    decide
  rw [isAllowed, action]
  cases authenticated : s.identity.authenticated <;> simp [Assistant.may, view, authenticated]

/-! ## One input -/

/-- A strategy request is answered without a trace. -/
theorem handleStrategyInput_advice (text : String) (s : SessionState (AppOutside ω)) :
    app.controller.handleStrategyInput text s = (.ok (adviceOn app text), s) := by
  have counted : (InteractionController.routerAuditCount : Comp Exc (SessionState (AppOutside ω))
      Nat) s = (.ok s.router.auditEvents.length, s) := rfl
  have py_eq : app.controller.py = app.platform.py := rfl
  simp only [InteractionController.handleStrategyInput, adviceOn, py_eq]
  by_cases empty : sanitizedQuery app.platform.py text = ""
  · rw [if_pos empty, if_pos empty]
    rfl
  · rw [if_neg empty, if_neg empty, Comp.bind_of_ok counted]
    cases generated : Cognition.generateStrategy app.platform.words app.platform.py stubClient
        [("goal", .str (sanitizedQuery app.platform.py text)),
          ("notes", .str (sanitizedQuery app.platform.py text))] with
    | error exc =>
      have attempted : Comp.attempt (InteractionController.onOutside
          (app.generateStrategy (sanitizedQuery app.platform.py text))) s =
            (.ok (.error exc), s) := by
        rw [Comp.attempt, AppContainer.generateStrategy, generated]
        rfl
      exact Comp.bind_of_ok attempted
    | ok output =>
      have attempted : Comp.attempt (InteractionController.onOutside
          (app.generateStrategy (sanitizedQuery app.platform.py text))) s =
            (.ok (.ok ⟨output.safeToPresent, output.summary, output.strategySteps⟩), s) := by
        rw [Comp.attempt, AppContainer.generateStrategy, generated]
        rfl
      refine (Comp.bind_of_ok attempted).trans ?_
      dsimp only
      rw [Comp.bind_of_ok counted]
      cases safe : output.safeToPresent <;> simp <;> rfl

/-- The scan after a command that names its task says nothing. -/
theorem processPostAction_silent {result : CommandResult}
    (named : result.status = .executed → NamesRow result.metadata)
    (s : SessionState (AppOutside ω)) :
    ∃ s', app.controller.processPostAction result s = (.ok "", s') ∧ Still s s' := by
  unfold InteractionController.processPostAction
  by_cases executed : result.status = .executed
  · obtain ⟨id, metadata, bound⟩ := named executed
    obtain ⟨-, least, most⟩ := TaskStore.bindInteger_eq bound
    rw [if_neg (not_not_intro executed)]
    have printable : (Value.int id).printable = true := by
      have short (digits : Nat) (enough : 19 ≤ digits) : id.natAbs < 10 ^ digits :=
        calc id.natAbs ≤ 2 ^ 63 := by omega
          _ < 10 ^ 19 := by decide
          _ ≤ 10 ^ digits := Nat.pow_le_pow_right (by decide) enough
      simp only [Value.printable]
      exact decide_eq_true (short maxStrDigits (by decide))
    have printed : extractTaskId app.platform.py (contextDict
        ⟨result.action.value, Dict.get result.metadata "task_id"⟩) =
          .ok (app.platform.py.repr (.int id)) := by
      rw [metadata]
      have given : Dict.get (contextDict ⟨result.action.value, .int id⟩) "task_id" = .int id := rfl
      simp only [extractTaskId, given, Python.str, printable, if_true]
    obtain ⟨nothing | ⟨exc, unprinted, -⟩, -⟩ := evaluate_context app.platform.py app.platform.fp
      s.router.memory.wire.env.detector
      ⟨result.action.value, Dict.get result.metadata "task_id"⟩ (clockAt app s)
    · have scanned : (InteractionController.onOutside (app.controller.evaluateProactive
          ⟨result.action.value, Dict.get result.metadata "task_id"⟩) s).1 = .ok [] := by
        exact congrArg (Except.map fun suggestions => suggestions.map (·.message)) nothing
      refine ⟨_, (Comp.bind_of_ok (Prod.ext scanned rfl)).trans rfl, ⟨rfl, rfl⟩⟩
    · rw [printed] at unprinted
      cases unprinted
  · rw [if_pos executed]
    exact ⟨s, rfl, ⟨rfl, rfl⟩⟩

theorem generateResponse_refused {result : CommandResult} {code : ErrorCode}
    (blamed : result.errorCode = some code) : generateResponse result = errorTemplate code := by
  rw [generateResponse, blamed]

theorem generateResponse_executed {result : CommandResult} {command : Command}
    (unblamed : result.errorCode = none) (status : result.status = .executed)
    (action : result.action = RoutedCommands.actionOf command) :
    generateResponse result = command.success := by
  rw [generateResponse, unblamed, status, action]
  cases command <;> rfl

variable (documented : Documented app.platform) {s : SessionState (AppOutside ω)}
  (legible : Legible app.commandRouter.taskStore s.router.memory.tasks)
include documented legible

/-- A command that is routed. -/
theorem routed_simulated {current : DateTime} (utc : current.toUtc ≠ none) {intent : Dict}
    {command : Command} (read : Reads app.platform.py current intent command)
    (permitted : (view app s).mayPerform command = true) :
    ∃ result s', InteractionController.onRouter (app.commandRouter.route (.dict intent)) s =
        (.ok result, s') ∧ ∃ s'', app.controller.processPostAction result s' = (.ok "", s'') ∧
          Simulated app s (.command command) (.ok (generateResponse result), s'') := by
  have known : command ≠ .unrecognised := by
    rintro rfl
    cases permitted
  obtain ⟨result, router', routed, answered⟩ := route_reads (local_router app) documented.reads utc
    legible read known
  have zoomed : InteractionController.onRouter (app.commandRouter.route (.dict intent)) s =
      (.ok result, { s with router := router' }) := Comp.zoom_of_eq routed
  have kept := legible_step app.commandRouter s.router (.dict intent) legible
  rw [routeStep, routed] at kept
  obtain ⟨s'', silent, still⟩ : ∃ s'', app.controller.processPostAction result
      { s with router := router' } = (.ok "", s'') ∧ Still { s with router := router' } s'' := by
    refine processPostAction_silent (fun executed => ?_) _
    generalize (if doubted app.commandRouter command then _ else _) = outcome at answered
    cases outcome with
    | error code =>
      rw [answered.1] at executed
      cases executed
    | ok board => exact answered.2.2.2.1
  refine ⟨result, _, zoomed, s'', silent, ?_⟩
  have decided : (view app s).hear (manner app) (.command command) =
      (view app s).conclude command (if doubted app.commandRouter command then
        .error .lowConfidence else (view app s).board.perform app.platform.py.lower command) := by
    simp only [Assistant.hear, Assistant.obey, permitted, manner, Bool.not_true, Bool.false_eq_true,
      if_false, Bool.not_not]
    cases doubted app.commandRouter command <;> rfl
  have board : boardOf app.commandRouter.taskStore s.router.memory.tasks = (view app s).board := rfl
  rw [board, show app.commandRouter.py = app.platform.py from rfl] at answered
  generalize (if doubted app.commandRouter command then _ else _) = outcome at answered decided
  cases outcome with
  | error code =>
    obtain ⟨-, blamed, same⟩ := answered
    rw [generateResponse_refused blamed]
    exact simulated_still legible ⟨still.tasks.trans same, still.identity⟩ decided rfl
  | ok board =>
    obtain ⟨status, unblamed, action, -, shown⟩ := answered
    rw [generateResponse_executed unblamed status action]
    refine ⟨?_, ?_, ?_⟩
    · rw [Assistant.reply, decided]
      rfl
    · rw [still.view, Assistant.step, decided, ← shown]
      rfl
    · rw [still.tasks]
      exact kept

/-- A command is answered as the assistant answers it. -/
theorem handleCommand_simulated (text : String) :
    Simulated app s (heardCommand app (clockAt app s) text)
      (app.controller.handleCommand text s) := by
  obtain ⟨least, most⟩ := documented.clock s.router.memory.wire.env.outside
  obtain ⟨first, last⟩ := date_bounds least most
  have utc : (clockAt app s).toUtc ≠ none :=
    toUtc_of_date (by unfold clockAt; omega) (by unfold clockAt maxOrdinal; omega)
  obtain ⟨s', told, still⟩ : ∃ s', InteractionController.onOutside (Comp.ofState
      app.controller.router.taskStore.host.datetimeNow) s = (.ok (clockAt app s), s') ∧
        Still s s' := ⟨_, rfl, rfl, rfl⟩
  have legible' : Legible app.commandRouter.taskStore s'.router.memory.tasks := by
    rw [still.tasks]
    exact legible
  have py_eq : app.controller.py = app.platform.py := rfl
  unfold InteractionController.handleCommand heardCommand
  rcases parse_reads documented.uncased documented.lowers text least most with
    ⟨exc, refused⟩ | ⟨intent, command, parsed, read⟩
  · have attempted : Comp.attempt (app.controller.parseAndRoute text) s =
        (.ok (.error exc), s') := by
      rw [Comp.attempt, InteractionController.parseAndRoute, Comp.bind_of_ok told, py_eq, clockAt,
        refused]
      rfl
    rw [Comp.bind_of_ok attempted, clockAt, refused]
    exact simulated_still legible still rfl rfl
  · rw [clockAt, parsed]
    dsimp only
    rw [commandOf_reads read]
    obtain ⟨intentType, printed, decided⟩ := isAllowed_reads read s'
    have identity : (InteractionController.currentIdentity : Comp Exc (SessionState (AppOutside ω))
        IdentityContext) s' = (.ok s'.identity, s') := rfl
    have reached : app.controller.parseAndRoute text s =
        (if !isAllowed app.platform.py intentType s'.identity then return .error intentType
        else do
          let result ← InteractionController.onRouter (app.commandRouter.route (.dict intent))
          return .ok result : Comp Exc (SessionState (AppOutside ω))
            (Except String CommandResult)) s' := by
      rw [InteractionController.parseAndRoute, Comp.bind_of_ok told, py_eq, clockAt, parsed,
        Comp.ofExcept_ok_bind, printed, Comp.ofExcept_ok_bind, Comp.bind_of_ok identity]
      rfl
    rw [decided, still.view] at reached
    cases permitted : (view app s).mayPerform command with
    | false =>
      rw [permitted, Bool.not_false, if_pos rfl] at reached
      have attempted : Comp.attempt (app.controller.parseAndRoute text) s =
          (.ok (.ok (.error intentType)), s') := by
        rw [Comp.attempt, reached]
        rfl
      rw [Comp.bind_of_ok attempted]
      dsimp only
      rw [Comp.bind_of_ok identity]
      refine simulated_still legible still ?_ (rfl : (Reply.refused .accessDenied).text = some _)
      simp [Assistant.hear, Assistant.obey, permitted]
    | true =>
      rw [permitted] at reached
      rw [← still.view] at permitted
      obtain ⟨result, s₂, routed, s₃, silent, simulated⟩ :=
        routed_simulated documented legible' utc read permitted
      have attempted : Comp.attempt (app.controller.parseAndRoute text) s =
          (.ok (.ok (.ok result)), s₂) := by
        rw [Comp.attempt, reached]
        simp only [Bool.not_true, Bool.false_eq_true, if_false]
        rw [Comp.bind_of_ok routed]
        rfl
      rw [Comp.bind_of_ok attempted]
      dsimp only
      rw [Comp.bind_of_ok silent, if_pos rfl]
      obtain ⟨replied, shown, legible⟩ := simulated
      rw [still.view] at replied shown
      exact ⟨replied, shown, legible⟩

/-- An input is answered as the assistant answers it; cases as in `handle_input`. -/
theorem handleInput_simulated (userText : String) :
    Simulated app s (heardText app (clockAt app s) (strip userText))
      (app.controller.handleInput userText s) := by
  have py_eq : app.controller.py = app.platform.py := rfl
  unfold InteractionController.handleInput heardText
  by_cases empty : strip userText = ""
  · rw [if_pos empty, if_pos empty]
    exact simulated_still legible ⟨rfl, rfl⟩ rfl rfl
  rw [if_neg empty, if_neg empty, py_eq]
  cases resolved : resolveIdentity app.platform.py (strip userText) with
  | error exc => exact simulated_still legible ⟨rfl, rfl⟩ rfl rfl
  | ok identity =>
    rw [Comp.ofExcept_ok_bind]
    cases identity with
    | some identity =>
      refine ⟨?_, rfl, legible⟩
      rfl
    | none =>
      unfold InteractionController.handleResolved
      dsimp only
      rw [py_eq]
      cases strategic : isStrategyMode app.platform.py (strip userText) with
      | false =>
        rw [if_neg Bool.false_ne_true, if_neg Bool.false_ne_true]
        exact handleCommand_simulated documented legible (strip userText)
      | true =>
        have identity : (InteractionController.currentIdentity :
            Comp Exc (SessionState (AppOutside ω)) IdentityContext) s = (.ok s.identity, s) := rfl
        rw [if_pos rfl, if_pos rfl, InteractionController.handleStrategy, Comp.bind_of_ok identity,
          py_eq, isAllowed_strategy]
        cases permitted : (view app s).may .strategy with
        | false =>
          refine simulated_still legible ⟨rfl, rfl⟩ ?_
            (rfl : (Reply.refused .accessDenied).text = some _)
          simp [Assistant.hear, permitted]
        | true =>
          rw [Bool.not_true, if_neg Bool.false_ne_true, handleStrategyInput_advice]
          refine simulated_still legible ⟨rfl, rfl⟩ ?_ (rfl : (Reply.advice _).text = some _)
          simp [Assistant.hear, permitted]

end Apcos.Guarantees.SessionRefinement
