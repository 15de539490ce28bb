import Apcos.Lib.Loop
import Apcos.Source.Session.InteractionController

/-!
# CLI shell

interface/cli_shell.py: the loop reads a line, answers it and prints the answer. What
`input_func` returns or raises is the input of an iteration; only the two exceptions that the
loop catches are modelled, and the output function does not raise.
-/
namespace Apcos.Source.Session

open Apcos.Lib
open Apcos.Source.Python

def helpText : String :=
  "Commands:\n" ++ "  login owner|family|guest [user_id]\n" ++
    "  schedule meeting tomorrow at 10\n" ++ "  mark <task> completed\n" ++
    "  cancel task <task>\n" ++ "  /strategy <question>\n" ++ "  help\n" ++ "  exit"

inductive ShellInput where
  | line (userInput : String)
  | keyboardInterrupt
  | endOfFile
  deriving DecidableEq, Repr

/-- A command, or the sentence with which the loop returns. -/
def receiveLine (py : Runtime) : ShellInput → Except String String
  | .keyboardInterrupt => .error "\nSession interrupted. Exiting APCOS CLI."
  | .endOfFile => .error "\nSession ended. Exiting APCOS CLI."
  | .line userInput =>
    let command := strip userInput
    if py.lower command = "exit" ∨ py.lower command = "quit" then .error "Exiting APCOS CLI."
    else .ok command

variable {ω : Type}

/-- What is printed for a command, and the state after it. -/
def answerCommand (controller : InteractionController ω) (s : SessionState ω) (command : String) :
    String × SessionState ω :=
  if controller.py.lower command = "help" then (helpText, s)
  else if command = "" then ("Please enter a command.", s)
  else
    match controller.handleInput command s with
    | (.ok response, s') => (response, s')
    | (.error _, s') => ("I could not execute that due to an internal system error.", s')

/-- `run_shell`. -/
def runShell (controller : InteractionController ω) (inputs : List ShellInput)
    (s : SessionState ω) : Served (SessionState ω) ShellInput String :=
  let served := serve (receiveLine controller.py) (fun s command => (answerCommand controller s command).2)
    (fun s command => [(answerCommand controller s command).1]) s inputs
  { served with outputs := "APCOS CLI ready. Type 'help' for commands." :: served.outputs }

end Apcos.Source.Session
