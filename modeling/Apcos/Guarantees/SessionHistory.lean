import Apcos.Guarantees.SessionRefinement
import Apcos.Guarantees.TierEnforcement

/-!
# Histories of the application

apcos/bootstrap/container.py:40-89 over interface/interaction_controller.py: whole sessions
on the controller that the container builds. The replies and the tasks are those of the
assistant that hears the same; from what holds of every board it follows which tasks a
session leaves behind, and what it can have said about them.
-/
namespace Apcos.Guarantees.SessionHistory

open Apcos.Lib
open Apcos.Source
open Apcos.Source.Python
open Apcos.Source.Cognition
open Apcos.Source.Memory
open Apcos.Source.Session
open Apcos.Source.Bootstrap
open Apcos.Guarantees.AssistantBoard
open Apcos.Guarantees.RoutableCommands
open Apcos.Guarantees.RoutedCommands
open Apcos.Guarantees.SessionRefinement
open Apcos.Guarantees.RoutedIntents (Unbridged Executed Grounded SameLedger ledger route_outcome)
open Apcos.Guarantees.TaskNames
open Apcos.Guarantees.TierEnforcement

variable {ω α : Type}

section
variable (app : AppContainer ω) (outside : ω) (calls : List SessionCall)

/-- The application after a session. -/
def sessionAfter : SessionState (AppOutside ω) :=
  run (sessionStep app.controller) (app.initialState outside) calls

/-- What the calls of a session return or raise. -/
def replies : List (Option (Except Exc String)) :=
  observations (sessionStep app.controller) (replyOf app) (app.initialState outside) calls

/-- What the assistant hears in a session. -/
def hearings : List Heard :=
  observations (sessionStep app.controller) (heard app) (app.initialState outside) calls

end

/-- The assistant a session meets. -/
def newcomer : Assistant := ⟨defaultIdentity, .empty⟩

/-! ## What a session says -/

/-- The first letter of a text; the sentences about a task that was handled open with `Y`. -/
def opening (text : String) : Option Char := text.toList.head?

theorem opening_append {first : String} (rest : String) (visible : first ≠ "") :
    opening (first ++ rest) = opening first := by
  rw [opening, opening, String.toList_append]
  exact List.head?_append_of_ne_nil _ (mt String.toList_eq_nil_iff.mp visible)

theorem opening_intercalate {first : String} (rest : List String) (visible : first ≠ "") :
    opening ("\n".intercalate (first :: rest)) = opening first := by
  rw [opening, String.toList_intercalate, List.map_cons]
  cases rest with
  | nil => simp [List.intercalate, opening]
  | cons second rest =>
    rw [List.map_cons, List.intercalate_cons_cons, List.append_assoc]
    exact List.head?_append_of_ne_nil _ (mt String.toList_eq_nil_iff.mp visible)

theorem opening_renderStrategy (output : StrategyOutput) :
    opening (renderStrategy output) = some 'N' ∨ opening (renderStrategy output) = some 'S' := by
  unfold renderStrategy
  dsimp only
  split
  · exact Or.inl rfl
  · right
    rw [opening_intercalate]
    · split
      · rfl
      · exact opening_append _ (by decide)
    · split
      · decide
      · intro nothing
        have shorter := congrArg String.length nothing
        rw [String.length_append, show "Strategy: ".length = 10 from rfl] at shorter
        exact absurd shorter (by simp)

theorem opening_adviceOn (app : AppContainer ω) (text : String) :
    opening (adviceOn app text) ≠ some 'Y' := by
  unfold adviceOn
  dsimp only
  split
  · decide
  · split
    · decide
    · split
      · rename_i output _ _
        rcases opening_renderStrategy ⟨output.safeToPresent, output.summary, output.strategySteps⟩
          with opens | opens <;> rw [opens] <;> decide
      · decide

def scheduledSentence : String := "Your task has been scheduled successfully."

theorem command_of_scheduled {command : Command} (success : command.success = scheduledSentence) :
    ∃ title dueAt, command = .schedule title dueAt := by
  cases command with
  | schedule title dueAt => exact ⟨title, dueAt, rfl⟩
  | _ => simp [Command.success, scheduledSentence, errorTemplate] at success

theorem command_of_completed {command : Command}
    (success : command.success = "Your task has been marked as completed.") :
    ∃ name, command = .complete name := by
  cases command with
  | complete name => exact ⟨name, rfl⟩
  | _ => simp [Command.success, errorTemplate] at success

/-- Advice is not taken for a confirmation. -/
def Plain : Heard → Prop
  | .strategy advice => opening advice ≠ some 'Y'
  | _ => True

theorem heard_plain (app : AppContainer ω) (s : SessionState (AppOutside ω)) (call : SessionCall) :
    Plain (heard app s call) := by
  cases call with
  | setIdentity identity => trivial
  | handleInput userText =>
    rw [heard, heardText]
    split
    · trivial
    · split
      · trivial
      · trivial
      · split
        · exact opening_adviceOn app _
        · unfold heardCommand
          split <;> trivial

theorem opening_errorTemplate (code : ErrorCode) : opening (errorTemplate code) ≠ some 'Y' := by
  cases code <;> decide

/-- A text that opens as a confirmation confirms a command. -/
theorem done_of_text {m : Manner} {a : Assistant} {heard : Heard} {text : String}
    (plain : Plain heard) (told : (a.reply m heard).text = some (.ok text))
    (opens : opening text = some 'Y') :
    ∃ command, a.reply m heard = .done command ∧ command.success = text := by
  have spoken : ∀ {reply : Reply} {other : String}, reply.text = some (.ok other) →
      a.reply m heard = reply → opening other ≠ some 'Y' → False := by
    intro reply other reads same differs
    rw [same, reads, Option.some_inj, Except.ok.injEq] at told
    rw [told] at differs
    exact differs opens
  cases replied : a.reply m heard with
  | done command =>
    rw [replied] at told
    exact ⟨command, rfl, Except.ok.inj (Option.some.inj told)⟩
  | prompt => exact (spoken rfl replied (by decide)).elim
  | loggedIn tier => exact (spoken rfl replied (by cases tier <;> decide)).elim
  | refused code => exact (spoken rfl replied (opening_errorTemplate code)).elim
  | raised exc =>
    rw [replied] at told
    cases told
  | nothing =>
    rw [replied] at told
    cases told
  | advice other =>
    have said : opening other ≠ some 'Y' := by
      cases heard with
      | strategy advice =>
        simp only [Assistant.reply, Assistant.hear] at replied
        split at replied
        · cases replied
          exact plain
        · cases replied
      | command command =>
        simp only [Assistant.reply, Assistant.hear, Assistant.obey] at replied
        split_ifs at replied
        cases performed : a.board.perform m.fold command <;> rw [performed] at replied <;>
          cases replied
      | silence => cases replied
      | login identity => cases replied
      | spoiltLogin exc => cases replied
      | unreadable => cases replied
      | assigned identity => cases replied
    exact (spoken rfl replied said).elim

def told (sentence : String) : Option (Except Exc String) → Bool
  | some (.ok text) => text == sentence
  | _ => false

theorem told_iff {sentence : String} {reply : Option (Except Exc String)} :
    told sentence reply = true ↔ reply = some (.ok sentence) := by
  unfold told
  split
  · simp
  · rename_i other
    exact ⟨nofun, fun same => absurd same (other sentence)⟩

/-- What a call enters in the table: the title and the due time of a schedule command, when the
user is told that it was scheduled. -/
def entered (app : AppContainer ω) (s : SessionState (AppOutside ω)) (call : SessionCall) :
    Option (String × Option String) :=
  match heard app s call with
  | .command command => if told scheduledSentence (replyOf app s call) then command.entry else none
  | _ => none

/-! ## Archived rows -/

/-- Each archived row of the table is still there, as it was. -/
def ArchivedKept (s s' : SessionState ω) : Prop :=
  ∀ row ∈ s.router.memory.tasks.rows, row.state = .archived → row ∈ s'.router.memory.tasks.rows

instance : Std.Refl (@ArchivedKept ω) := ⟨fun _ _ member _ => member⟩

instance : IsTrans (SessionState ω) ArchivedKept :=
  ⟨fun _ _ _ first second row member archived => second row (first row member archived) archived⟩

/-- An executed intent keeps the archived rows: the matrix lets none of them move. -/
theorem executed_keeps_archived {intentType : String} {s s' : RouterState ω} {metadata : Dict}
    {lifecycleBefore lifecycleAfter : Option String}
    (effect : Executed intentType s s' metadata lifecycleBefore lifecycleAfter) {row : TaskRow}
    (member : row ∈ s.memory.tasks.rows) (archived : row.state = .archived) :
    row ∈ s'.memory.tasks.rows := by
  cases effect with
  | created added asked fresh initial rows log named =>
    rw [rows]
    exact List.mem_append_left [added] member
  | moved moved moved' changedAtUtc final found permitted kept rows log named =>
    have other : row.id ≠ moved.id := by
      intro same
      have here := TaskTable.eq_of_id member (TaskTable.find_mem found) same
      rw [← here, archived] at permitted
      cases moved'.state <;> cases permitted
    rw [rows]
    exact List.mem_map.mpr ⟨row, member, if_neg other⟩
  | unchanged found final present same named =>
    rw [(Prod.mk.inj (show ledger s' = ledger s from same)).1]
    exact member

theorem archivedKept_route {router : CommandRouter ω} (unbridged : Unbridged router.taskStore)
    (optional : router.taskStore.enforceStorageAuthority = false) (intentObject : Value) :
    (InteractionController.onRouter (router.route intentObject)).Preserves ArchivedKept := by
  intro s row member archived
  have grounded : Grounded router s.router := by
    intro enforced
    rw [optional] at enforced
    cases enforced
  have outcome := route_outcome unbridged intentObject grounded
  change row ∈ (router.route intentObject s.router).2.memory.tasks.rows
  generalize router.route intentObject s.router = out at outcome ⊢
  cases outcome with
  | refused outcome s' same refused =>
    rw [(Prod.mk.inj (show ledger s' = ledger s.router from same)).1]
    exact member
  | executed fields result s' intent definition checked cleared handled execution event mapping
      steps => exact executed_keeps_archived (steps.effect unbridged grounded).1 member archived

theorem archivedKept_of_harmless {m : Comp Exc (SessionState ω) α} (harmless : Harmless m) :
    m.Preserves ArchivedKept := by
  intro s row member _
  rw [(harmless s).tasks]
  exact member

theorem archivedKept_processPostAction (controller : InteractionController ω)
    (result : CommandResult) : (controller.processPostAction result).Preserves ArchivedKept := by
  unfold InteractionController.processPostAction
  split
  · exact Comp.preserves_pure _
  · refine Comp.preserves_bind (archivedKept_of_harmless (harmless_onOutside _)) fun messages => ?_
    refine Comp.preserves_bind
      (Comp.preserves_attempt (archivedKept_of_harmless (harmless_onOutside _))) fun _ => ?_
    exact Comp.preserves_pure _

section
variable {controller : InteractionController ω} (unbridged : Unbridged controller.router.taskStore)
  (optional : controller.router.taskStore.enforceStorageAuthority = false)
include unbridged optional

/-- Of a command only the router touches the table. -/
theorem archivedKept_handleCommand (text : String) :
    (controller.handleCommand text).Preserves ArchivedKept := by
  have identified : (InteractionController.currentIdentity :
      Comp Exc (SessionState ω) IdentityContext).Preserves ArchivedKept :=
    archivedKept_of_harmless harmless_currentIdentity
  have routed : (controller.parseAndRoute text).Preserves ArchivedKept := by
    refine Comp.preserves_bind (archivedKept_of_harmless (harmless_onOutside _)) fun current => ?_
    refine Comp.preserves_bind (Comp.preserves_ofExcept _) fun intent => ?_
    refine Comp.preserves_bind (Comp.preserves_ofExcept _) fun intentType => ?_
    refine Comp.preserves_bind identified fun identity => ?_
    split
    · exact Comp.preserves_pure _
    · refine Comp.preserves_bind (archivedKept_route unbridged optional _) fun result => ?_
      exact Comp.preserves_pure _
  refine Comp.preserves_bind (Comp.preserves_attempt routed) fun answer => ?_
  split
  · exact Comp.preserves_pure _
  · exact Comp.preserves_bind identified fun identity => Comp.preserves_pure _
  · refine Comp.preserves_bind (archivedKept_processPostAction controller _) fun suffix => ?_
    split
    · exact Comp.preserves_pure _
    · exact Comp.preserves_pure _

/-- No call on a controller over a local store touches an archived row. -/
theorem archivedKept_step (s : SessionState ω) (call : SessionCall) :
    ArchivedKept s (sessionStep controller s call) := by
  cases call with
  | setIdentity identity => exact fun row member _ => member
  | handleInput text =>
    have kept : (controller.handleInput text).Preserves ArchivedKept := by
      unfold InteractionController.handleInput
      dsimp only
      split
      · exact Comp.preserves_pure _
      · refine Comp.preserves_bind (Comp.preserves_ofExcept _) fun resolved => ?_
        unfold InteractionController.handleResolved
        split
        · exact fun s row member _ => member
        · split
          · exact archivedKept_of_harmless (harmless_handleStrategy controller _)
          · exact archivedKept_handleCommand unbridged optional _
    exact kept s

end

/-! ## Runs -/

section
variable {app : AppContainer ω} (documented : Documented app.platform)
include documented

theorem call_simulated {s : SessionState (AppOutside ω)}
    (legible : Legible app.commandRouter.taskStore s.router.memory.tasks) (call : SessionCall) :
    replyOf app s call = ((view app s).reply (manner app) (heard app s call)).text ∧
      view app (sessionStep app.controller s call) =
        (view app s).step (manner app) (heard app s call) ∧
      Legible app.commandRouter.taskStore
        (sessionStep app.controller s call).router.memory.tasks := by
  cases call with
  | handleInput userText =>
    obtain ⟨replied, shown, kept⟩ := handleInput_simulated documented legible userText
    exact ⟨replied.symm, shown, kept⟩
  | setIdentity identity => exact ⟨rfl, rfl, legible⟩

/-- The invariant of a session: every task is read back, and the board is an ordered one. -/
structure Kept (app : AppContainer ω) (s : SessionState (AppOutside ω)) : Prop where
  legible : Legible app.commandRouter.taskStore s.router.memory.tasks
  ordered : (view app s).board.Ordered

omit documented in
theorem kept_start (outside : ω) : Kept app (app.initialState outside) := ⟨nofun, ordered_empty⟩

theorem kept_step (s : SessionState (AppOutside ω)) (call : SessionCall) (kept : Kept app s) :
    Kept app (sessionStep app.controller s call) := by
  obtain ⟨-, shown, legible⟩ := call_simulated documented kept.legible call
  refine ⟨legible, ?_⟩
  rw [shown]
  exact step_ordered (manner app) (view app s) _ kept.ordered

/-- A text that opens as a confirmation confirms a command that is carried out. -/
theorem confirmation {s : SessionState (AppOutside ω)} (kept : Kept app s) {call : SessionCall}
    {text : String} (told : replyOf app s call = some (.ok text))
    (opens : opening text = some 'Y') :
    ∃ command, heard app s call = .command command ∧ command.success = text ∧
      (view app s).reply (manner app) (heard app s call) = .done command := by
  rw [(call_simulated documented kept.legible call).1] at told
  obtain ⟨command, done, success⟩ := done_of_text (heard_plain app s call) told opens
  rcases hear_cases (manner app) (view app s) (heard app s call) with
    ⟨-, undone⟩ | ⟨other, hears, -, same, -⟩
  · exact absurd done (undone command)
  · cases done.symm.trans same
    exact ⟨command, hears, success, done⟩

/-- A session replies as the assistant does to what it hears, and leaves the identity and the
tasks that the assistant is left with. What is heard depends on the texts and the clock only. -/
theorem session_refines_assistant (outside : ω) (calls : List SessionCall) :
    replies app outside calls =
        observations (Assistant.step (manner app)) (fun a heard => (a.reply (manner app) heard).text)
          newcomer (hearings app outside calls) ∧
      view app (sessionAfter app outside calls) =
        run (Assistant.step (manner app)) newcomer (hearings app outside calls) := by
  have preserved := kept_step documented
  have simulated (s : SessionState (AppOutside ω)) (call : SessionCall) (kept : Kept app s) :=
    (call_simulated documented kept.legible call).2.1
  have replied (s : SessionState (AppOutside ω)) (call : SessionCall) (kept : Kept app s) :=
    (call_simulated documented kept.legible call).1
  exact ⟨observations_translated preserved simulated replied _ (kept_start outside) calls,
    run_translated preserved simulated _ (kept_start outside) calls⟩

/-- No task is ever completed: the tasks of a session wait or are archived, the row of an
archived task stays as it is, and nobody is told of a completed task. -/
theorem no_task_completed (outside : ω) (calls : List SessionCall) :
    (∀ row ∈ (sessionAfter app outside calls).router.memory.tasks.rows,
        row.state = .created ∨ row.state = .archived) ∧
      (∀ before after, calls = before ++ after →
        ∀ row ∈ (sessionAfter app outside before).router.memory.tasks.rows, row.state = .archived →
          row ∈ (sessionAfter app outside calls).router.memory.tasks.rows) ∧
      ∀ reply ∈ replies app outside calls,
        reply ≠ some (.ok "Your task has been marked as completed.") := by
  have kept (calls : List SessionCall) : Kept app (sessionAfter app outside calls) :=
    run_invariant (kept_step documented) _ (kept_start outside) calls
  refine ⟨?_, ?_, ?_⟩
  · intro row member
    exact (kept calls).ordered.states (itemOf app.commandRouter.taskStore row)
      (List.mem_map_of_mem member)
  · rintro before after rfl row member archived
    have isLocal := local_router app
    have stays (s : SessionState (AppOutside ω)) (call : SessionCall)
        (stored : row ∈ s.router.memory.tasks.rows) :
        row ∈ (sessionStep app.controller s call).router.memory.tasks.rows :=
      archivedKept_step isLocal.toUnbridged isLocal.storageOptional s
        call row stored archived
    rw [sessionAfter, run_append]
    exact run_invariant stays (sessionAfter app outside before) member after
  · refine forall_mem_observations (kept_step documented) ?_ _ (kept_start outside) calls
    intro s call kept told
    obtain ⟨command, hears, success, done⟩ := confirmation documented kept told (by decide)
    obtain ⟨name, rfl⟩ := command_of_completed success
    exact reply_not_complete (manner app) (view app s) _ kept.ordered name done

/-- What a call enters is what the assistant enters, and the user is told of nothing else. -/
theorem entered_eq {s : SessionState (AppOutside ω)} (kept : Kept app s) (call : SessionCall) :
    entered app s call = (view app s).entered (manner app) (heard app s call) ∧
      told scheduledSentence (replyOf app s call) = (entered app s call).isSome := by
  have replied := (call_simulated documented kept.legible call).1
  cases confirmed : told scheduledSentence (replyOf app s call) with
  | true =>
    obtain ⟨command, hears, success, done⟩ :=
      confirmation documented kept (told_iff.mp confirmed) rfl
    obtain ⟨title, dueAt, rfl⟩ := command_of_scheduled success
    have here : entered app s call = some (title, some dueAt) := by
      rw [entered, hears, confirmed]
      rfl
    rw [here, Assistant.entered, done]
    exact ⟨rfl, rfl⟩
  | false =>
    have here : entered app s call = none := by
      unfold entered
      rw [confirmed]
      split <;> rfl
    have nothing : (view app s).entered (manner app) (heard app s call) = none := by
      cases done : (view app s).reply (manner app) (heard app s call) with
      | done command =>
        cases command with
        | schedule title dueAt =>
          rw [done] at replied
          exact absurd (confirmed.symm.trans (told_iff.mpr replied)) Bool.false_ne_true
        | _ => rw [Assistant.entered, done]; rfl
      | _ => rw [Assistant.entered, done]
    rw [here, nothing]
    exact ⟨rfl, rfl⟩

/-- The tasks of a session are those the user was told of: they carry the titles and due times
of the confirmed schedule commands, in their order and under the ids from 1 on, and there are
as many as confirmations. -/
theorem tasks_are_confirmed_schedules (outside : ω) (calls : List SessionCall) :
    (sessionAfter app outside calls).router.memory.tasks.rows.map (·.id) =
        (List.range ((replies app outside calls).countP (told scheduledSentence))).map
          (fun n : Nat => (n : Int) + 1) ∧
      (view app (sessionAfter app outside calls)).board.entries =
        (observations (sessionStep app.controller) (entered app)
          (app.initialState outside) calls).reduceOption := by
  have kept : Kept app (sessionAfter app outside calls) :=
    run_invariant (kept_step documented) _ (kept_start outside) calls
  have entries : (view app (sessionAfter app outside calls)).board.entries =
      (observations (sessionStep app.controller) (entered app)
        (app.initialState outside) calls).reduceOption := by
    refine run_appends (fun s => (view app s).board.entries) (kept_step documented)
      (fun s call kept => ?_) _ (kept_start outside) calls
    rw [(call_simulated documented kept.legible call).2.1, (entered_eq documented kept call).1]
    exact step_entries (manner app) (view app s) _
  refine ⟨?_, entries⟩
  have ids := kept.ordered.ids
  rw [replies, countP_observations (kept_step documented)
    (fun s call kept => (entered_eq documented kept call).2) _ (kept_start outside) calls,
    ← entries, Board.entries, List.length_map]
  have issued : (view app (sessionAfter app outside calls)).board.issued =
      (view app (sessionAfter app outside calls)).board.items.length := by
    have same := congrArg List.length ids
    rw [List.length_map, List.length_map, List.length_range] at same
    exact same.symm
  rw [issued] at ids
  rw [← ids]
  simp [view, boardOf, itemOf]

end

/-! ## An application whose clock stands still in the third year -/

def thirdYearPlatform : Platform Nat where
  py := isoRuntime
  fp := exact
  words := asciiWords
  host := { Bridge.countingHost with datetimeNow := fun n => (thirdYear, n) }
  sha1Hexdigest _ := ""
  encryption := zeroKey

def thirdYearApp : AppContainer Nat where
  platform := thirdYearPlatform
  router := .defaults
  proactive :=
    { config := {}
      confidenceThreshold := hundredths 70
      acceptanceTracker := ⟨∅⟩
      silentMode := false
      dailySuggestionCount := fun _ => 0
      evaluationSequence := 0
      recentSuggestionSteps := []
      lastSuggestionStepByKey := fun _ => none }
  detector := rfl

theorem thirdYear_documented : Documented thirdYearApp.platform where
  uncased _ _ := rfl
  reads := isoRuntime_reads
  lowers := localRouter_lowers
  clock _ := (by decide +kernel : 2 ≤ thirdYear.year ∧ thirdYear.year ≤ 9998)

/-- A meeting is scheduled, and cannot be completed. -/
def meetingCalls : List SessionCall :=
  [.handleInput "schedule meeting tomorrow", .handleInput "mark meeting completed"]

theorem session_refines_assistant_meeting :
    replies thirdYearApp 0 meetingCalls =
        observations (Assistant.step (manner thirdYearApp))
          (fun a heard => (a.reply (manner thirdYearApp) heard).text) newcomer
          (hearings thirdYearApp 0 meetingCalls) ∧
      view thirdYearApp (sessionAfter thirdYearApp 0 meetingCalls) =
        run (Assistant.step (manner thirdYearApp)) newcomer (hearings thirdYearApp 0 meetingCalls) :=
  session_refines_assistant thirdYear_documented 0 meetingCalls

theorem no_task_completed_meeting :
    (∀ row ∈ (sessionAfter thirdYearApp 0 meetingCalls).router.memory.tasks.rows,
        row.state = .created ∨ row.state = .archived) ∧
      (∀ before after, meetingCalls = before ++ after →
        ∀ row ∈ (sessionAfter thirdYearApp 0 before).router.memory.tasks.rows,
          row.state = .archived →
            row ∈ (sessionAfter thirdYearApp 0 meetingCalls).router.memory.tasks.rows) ∧
      ∀ reply ∈ replies thirdYearApp 0 meetingCalls,
        reply ≠ some (.ok "Your task has been marked as completed.") :=
  no_task_completed thirdYear_documented 0 meetingCalls

theorem tasks_are_confirmed_schedules_meeting :
    (sessionAfter thirdYearApp 0 meetingCalls).router.memory.tasks.rows.map (·.id) =
        (List.range ((replies thirdYearApp 0 meetingCalls).countP (told scheduledSentence))).map
          (fun n : Nat => (n : Int) + 1) ∧
      (view thirdYearApp (sessionAfter thirdYearApp 0 meetingCalls)).board.entries =
        (observations (sessionStep thirdYearApp.controller) (entered thirdYearApp)
          (thirdYearApp.initialState 0) meetingCalls).reduceOption :=
  tasks_are_confirmed_schedules thirdYear_documented 0 meetingCalls

end Apcos.Guarantees.SessionHistory
