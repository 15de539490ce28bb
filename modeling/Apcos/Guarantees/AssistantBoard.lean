import Apcos.Lib.Runs
import Apcos.Source.Session.InteractionController

/-!
# The assistant a user talks to

What the application is for, without its machinery: an identity, a board of tasks, and
one reply to everything that is heard. A task is known by its title up to case; ids are
issued in order and never again; tasks are scheduled open, and a command moves the one
task of its name along the lifecycle matrix or is refused.
-/
namespace Apcos.Guarantees.AssistantBoard

open Apcos.Lib
open Apcos.Source.Python (Exc)
open Apcos.Source.Memory (TaskState legacyAllowed maxRowId)
open Apcos.Source.Cognition (ErrorCode)
open Apcos.Source.Session

/-! ## Board -/

structure Item where
  id : Int
  title : String
  dueAt : Option String
  state : TaskState
  deriving DecidableEq, Repr

structure Board where
  items : List Item
  issued : Nat
  deriving DecidableEq, Repr

def Board.empty : Board := ⟨[], 0⟩

inductive Command where
  | schedule (title dueAt : String)
  | complete (name : String)
  | cancel (name : Option String)
  | unrecognised
  deriving DecidableEq, Repr

def Command.permission : Command → Option Permission
  | .schedule _ _ => some .create
  | .complete _ => some .complete
  | .cancel _ => some .archive
  | .unrecognised => none

namespace Board

def schedule (b : Board) (title dueAt : String) : Except ErrorCode Board :=
  if b.issued < maxRowId then
    .ok ⟨b.items ++ [⟨b.issued + 1, title, some dueAt, .created⟩], b.issued + 1⟩
  else .error .internalError

/-- The tasks of a name, archived ones too. -/
def named (fold : String → String) (b : Board) (name : String) : List Item :=
  b.items.filter fun item => fold item.title == fold name

def setState (b : Board) (id : Int) (state : TaskState) : Board :=
  { b with items := b.items.map fun item => if item.id = id then { item with state } else item }

def move (fold : String → String) (b : Board) (name : String) (final : TaskState) :
    Except ErrorCode Board :=
  match b.named fold name with
  | [item] =>
    if item.state = final then .ok b
    else if legacyAllowed item.state final then .ok (b.setState item.id final)
    else .error .invalidTransition
  | _ => .error .invalidEntity

def perform (fold : String → String) (b : Board) : Command → Except ErrorCode Board
  | .schedule title dueAt => b.schedule title dueAt
  | .complete name => b.move fold name .completed
  | .cancel (some name) => b.move fold name .archived
  | .cancel none => .error .invalidEntity
  | .unrecognised => .error .unsupportedIntent

end Board

/-! ## Assistant -/

inductive Heard where
  | silence
  | login (identity : IdentityContext)
  | spoiltLogin (exc : Exc)
  | strategy (advice : String)
  | unreadable
  | command (command : Command)
  | assigned (identity : IdentityContext)

inductive Reply where
  | prompt
  | loggedIn (tier : IdentityTier)
  | advice (text : String)
  | refused (code : ErrorCode)
  | done (command : Command)
  | raised (exc : Exc)
  | nothing

structure Assistant where
  identity : IdentityContext
  board : Board

/-- What is fixed for a session: how titles are compared, and which commands are read with
enough confidence. -/
structure Manner where
  fold : String → String
  confident : Command → Bool

namespace Assistant

def may (a : Assistant) (permission : Permission) : Bool :=
  a.identity.authenticated && (permissions a.identity.tier).contains permission

def mayPerform (a : Assistant) (command : Command) : Bool := command.permission.any a.may

/-- A command is refused for a reason, or done with the board it leads to. -/
def conclude (a : Assistant) (command : Command) : Except ErrorCode Board → Reply × Assistant
  | .error code => (.refused code, a)
  | .ok board => (.done command, { a with board })

def obey (m : Manner) (a : Assistant) (command : Command) : Reply × Assistant :=
  if !a.mayPerform command then (.refused .accessDenied, a)
  else if !m.confident command then (.refused .lowConfidence, a)
  else a.conclude command (a.board.perform m.fold command)

def hear (m : Manner) (a : Assistant) : Heard → Reply × Assistant
  | .silence => (.prompt, a)
  | .login identity => (.loggedIn identity.tier, { a with identity })
  | .spoiltLogin exc => (.raised exc, a)
  | .strategy advice => (if a.may .strategy then .advice advice else .refused .accessDenied, a)
  | .unreadable => (.refused .internalError, a)
  | .command command => a.obey m command
  | .assigned identity => (.nothing, { a with identity })

def step (m : Manner) (a : Assistant) (heard : Heard) : Assistant := (a.hear m heard).2

def reply (m : Manner) (a : Assistant) (heard : Heard) : Reply := (a.hear m heard).1

end Assistant

/-- The sentences of the user interface. -/
def Command.success : Command → String
  | .schedule _ _ => "Your task has been scheduled successfully."
  | .complete _ => "Your task has been marked as completed."
  | .cancel _ => "Your task has been archived."
  | .unrecognised => errorTemplate .internalError

/-- What a reply reads; the assignment of an identity is not replied to. -/
def Reply.text : Reply → Option (Except Exc String)
  | .prompt => some (.ok "Please enter a command.")
  | .loggedIn tier => some (.ok ("Logged in as " ++ tier.value ++ "."))
  | .advice text => some (.ok text)
  | .refused code => some (.ok (errorTemplate code))
  | .done command => some (.ok command.success)
  | .raised exc => some (.error exc)
  | .nothing => none

/-! ## What can happen to a board -/

/-- A command that is carried out adds a task, moves one, or finds it where it should be. -/
inductive Carried (b : Board) : Command → Board → Prop
  | scheduled (title dueAt : String) (free : b.issued < maxRowId) :
      Carried b (.schedule title dueAt)
        ⟨b.items ++ [⟨b.issued + 1, title, some dueAt, .created⟩], b.issued + 1⟩
  | moved (command : Command) (final : TaskState) (item : Item) (member : item ∈ b.items)
      (asked : (command.permission = some .complete ∧ final = .completed) ∨
        (command.permission = some .archive ∧ final = .archived))
      (allowed : legacyAllowed item.state final = true) :
      Carried b command (b.setState item.id final)
  | unchanged (command : Command) (final : TaskState) (item : Item) (member : item ∈ b.items)
      (asked : (command.permission = some .complete ∧ final = .completed) ∨
        (command.permission = some .archive ∧ final = .archived))
      (already : item.state = final) :
      Carried b command b

theorem move_carried {fold : String → String} {b b' : Board} {name : String} {final : TaskState}
    (moved : b.move fold name final = .ok b') : ∃ item ∈ b.items,
      (item.state = final ∧ b' = b) ∨
        (legacyAllowed item.state final = true ∧ b' = b.setState item.id final) := by
  unfold Board.move at moved
  split at moved
  · rename_i item only
    have member : item ∈ b.items := by
      have among : item ∈ b.named fold name := by rw [only]; exact List.mem_singleton_self item
      exact List.mem_of_mem_filter among
    split_ifs at moved with already allowed
    · cases moved
      exact ⟨item, member, Or.inl ⟨already, rfl⟩⟩
    · cases moved
      exact ⟨item, member, Or.inr ⟨allowed, rfl⟩⟩
  · cases moved

/-- A command that is performed schedules, moves or finds one item in place. -/
theorem perform_carried {fold : String → String} {b b' : Board} {command : Command}
    (performed : b.perform fold command = .ok b') : Carried b command b' := by
  cases command with
  | schedule title dueAt =>
    simp only [Board.perform, Board.schedule] at performed
    split_ifs at performed with free
    cases performed
    exact .scheduled title dueAt free
  | complete name =>
    obtain ⟨item, member, ⟨already, rfl⟩ | ⟨allowed, rfl⟩⟩ := move_carried performed
    · exact .unchanged _ _ item member (Or.inl ⟨rfl, rfl⟩) already
    · exact .moved _ _ item member (Or.inl ⟨rfl, rfl⟩) allowed
  | cancel name =>
    cases name with
    | none => cases performed
    | some name =>
      obtain ⟨item, member, ⟨already, rfl⟩ | ⟨allowed, rfl⟩⟩ := move_carried performed
      · exact .unchanged _ _ item member (Or.inr ⟨rfl, rfl⟩) already
      · exact .moved _ _ item member (Or.inr ⟨rfl, rfl⟩) allowed
  | unrecognised => cases performed

/-- What is heard leaves the board alone, or is a permitted command that is carried out. -/
theorem hear_cases (m : Manner) (a : Assistant) (heard : Heard) :
    ((a.step m heard).board = a.board ∧ ∀ command, a.reply m heard ≠ .done command) ∨
      ∃ command, heard = .command command ∧ a.mayPerform command = true ∧
        a.reply m heard = .done command ∧ Carried a.board command (a.step m heard).board ∧
          (a.step m heard).identity = a.identity := by
  unfold Assistant.step Assistant.reply
  cases heard with
  | command command =>
    simp only [Assistant.hear, Assistant.obey]
    split_ifs with denied unsure
    · exact Or.inl ⟨rfl, nofun⟩
    · exact Or.inl ⟨rfl, nofun⟩
    · cases performed : a.board.perform m.fold command with
      | error code => exact Or.inl ⟨rfl, nofun⟩
      | ok board =>
        rw [Bool.not_eq_true', Bool.not_eq_false] at denied
        exact Or.inr ⟨command, rfl, denied, rfl, perform_carried performed, rfl⟩
  | strategy advice =>
    dsimp only [Assistant.hear]
    refine Or.inl ⟨rfl, fun command => ?_⟩
    split <;> exact nofun
  | silence => exact Or.inl ⟨rfl, nofun⟩
  | login identity => exact Or.inl ⟨rfl, nofun⟩
  | spoiltLogin exc => exact Or.inl ⟨rfl, nofun⟩
  | unreadable => exact Or.inl ⟨rfl, nofun⟩
  | assigned identity => exact Or.inl ⟨rfl, nofun⟩

/-! ## What holds of every board -/

/-- The tasks have the ids issued so far, in order, and wait or are archived: nothing ever
makes a task active, and only active tasks may be completed. -/
structure Board.Ordered (b : Board) : Prop where
  ids : b.items.map (·.id) = (List.range b.issued).map fun n : Nat => (n : Int) + 1
  bound : b.issued ≤ maxRowId
  states : ∀ item ∈ b.items, item.state = .created ∨ item.state = .archived

/-- What a board says of its tasks apart from their states. -/
def Board.entries (b : Board) : List (String × Option String) :=
  b.items.map fun item => (item.title, item.dueAt)

/-- The entry a command asks for. -/
def Command.entry : Command → Option (String × Option String)
  | .schedule title dueAt => some (title, some dueAt)
  | _ => none

theorem ordered_empty : Board.empty.Ordered := ⟨rfl, by decide, nofun⟩

theorem entry_of_permission {command : Command} {final : TaskState}
    (asked : (command.permission = some .complete ∧ final = .completed) ∨
      (command.permission = some .archive ∧ final = .archived)) : command.entry = none := by
  cases command with
  | schedule title dueAt => rcases asked with ⟨permission, -⟩ | ⟨permission, -⟩ <;> cases permission
  | complete name => rfl
  | cancel name => rfl
  | unrecognised => rfl

theorem setState_entries (b : Board) (id : Int) (state : TaskState) :
    (b.setState id state).entries = b.entries := by
  simp only [Board.setState, Board.entries, List.map_map]
  refine List.map_congr_left fun item _ => ?_
  simp only [Function.comp_apply]
  split <;> rfl

theorem setState_ids (b : Board) (id : Int) (state : TaskState) :
    (b.setState id state).items.map (·.id) = b.items.map (·.id) := by
  simp only [Board.setState, List.map_map]
  refine List.map_congr_left fun item _ => ?_
  simp only [Function.comp_apply]
  split <;> rfl

/-- A command that is carried out writes its entry after the others, and no other. -/
theorem carried_entries {b b' : Board} {command : Command} (carried : Carried b command b') :
    b'.entries = b.entries ++ command.entry.toList := by
  cases carried with
  | scheduled title dueAt free => simp [Board.entries, Command.entry]
  | moved command final item member asked allowed =>
    rw [setState_entries, entry_of_permission asked, Option.toList_none, List.append_nil]
  | unchanged command final item member asked already =>
    rw [entry_of_permission asked, Option.toList_none, List.append_nil]

/-- The lifecycle matrix leads from the two states only to the second. -/
theorem allowed_archives {state final : TaskState} (waits : state = .created ∨ state = .archived)
    (asked : final = .completed ∨ final = .archived)
    (allowed : legacyAllowed state final = true) : final = .archived := by
  rcases waits with rfl | rfl <;> rcases asked with rfl | rfl
  · exact absurd allowed (by decide)
  · rfl
  · exact absurd allowed (by decide)
  · rfl

/-- A command keeps the ids in order and the items waiting or archived. -/
theorem carried_ordered {b b' : Board} {command : Command} (ordered : b.Ordered)
    (carried : Carried b command b') : b'.Ordered := by
  obtain ⟨ids, bound, states⟩ := ordered
  cases carried with
  | scheduled title dueAt free =>
    refine ⟨?_, free, ?_⟩
    · simp [ids, List.range_succ]
    · intro item member
      rcases List.mem_append.mp member with before | new
      · exact states item before
      · exact Or.inl (by rw [List.mem_singleton.mp new])
  | moved command final item member asked allowed =>
    have archives : final = .archived := allowed_archives (states item member)
      (asked.imp And.right And.right) allowed
    refine ⟨(setState_ids b item.id final).trans ids, bound, ?_⟩
    intro other changed
    obtain ⟨before, stored, rfl⟩ := List.mem_map.mp changed
    split
    · exact Or.inr archives
    · exact states before stored
  | unchanged command final item member asked already => exact ⟨ids, bound, states⟩

/-- On such a board no task is completed. -/
theorem carried_not_complete {b b' : Board} {name : String} (ordered : b.Ordered)
    (carried : Carried b (.complete name) b') : False := by
  cases carried with
  | moved _ final item member asked allowed =>
    have archives := allowed_archives (ordered.states item member)
      (asked.imp And.right And.right) allowed
    rcases asked with ⟨-, rfl⟩ | ⟨permission, -⟩
    · cases archives
    · cases permission
  | unchanged _ final item member asked already =>
    rcases asked with ⟨-, rfl⟩ | ⟨permission, -⟩
    · rcases ordered.states item member with waits | archived
      · cases waits.symm.trans already
      · cases archived.symm.trans already
    · cases permission

/-- The entry of a command that is done when it is heard. -/
def Assistant.entered (m : Manner) (a : Assistant) (heard : Heard) :
    Option (String × Option String) :=
  match a.reply m heard with
  | .done command => command.entry
  | _ => none

theorem step_ordered (m : Manner) (a : Assistant) (heard : Heard) (ordered : a.board.Ordered) :
    (a.step m heard).board.Ordered := by
  rcases hear_cases m a heard with ⟨same, -⟩ | ⟨command, -, -, -, carried, -⟩
  · rw [same]
    exact ordered
  · exact carried_ordered ordered carried

theorem step_entries (m : Manner) (a : Assistant) (heard : Heard) :
    (a.step m heard).board.entries = a.board.entries ++ (a.entered m heard).toList := by
  rcases hear_cases m a heard with ⟨same, undone⟩ | ⟨command, -, -, done, carried, -⟩
  · have nothing : a.entered m heard = none := by
      unfold Assistant.entered
      split
      · rename_i command done
        exact absurd done (undone command)
      · rfl
    rw [same, nothing, Option.toList_none, List.append_nil]
  · rw [carried_entries carried, Assistant.entered, done]

theorem reply_not_complete (m : Manner) (a : Assistant) (heard : Heard)
    (ordered : a.board.Ordered) (name : String) : a.reply m heard ≠ .done (.complete name) := by
  intro completed
  rcases hear_cases m a heard with ⟨-, undone⟩ | ⟨command, -, -, done, carried, -⟩
  · exact undone _ completed
  · cases completed.symm.trans done
    exact carried_not_complete ordered carried

end Apcos.Guarantees.AssistantBoard
