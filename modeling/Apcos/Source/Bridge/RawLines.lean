import Apcos.Source.Bridge.ProcessLine

/-!
# Lines as code points

services/ipc/rust_bridge.py:39-87, 428-437 and 895-900. A Python string may hold a surrogate on
its own. It is no blank, so it survives `strip`, and `trimmed.encode("utf-8")` raises on it.
On a line without one the functions do what they do on its text.
-/
namespace Apcos.Source.Bridge

open Apcos.Source.Python (Value Dict Exc)
open Apcos.Source.JsonText (JsonReaders)

inductive CodePoint where
  | scalar (c : Char)
  | surrogate (n : Fin 2048)
  deriving DecidableEq

def CodePoint.char : CodePoint → Option Char
  | .scalar c => some c
  | .surrogate _ => none

/-- The text of a line that UTF-8 can encode. -/
def encodable (line : List CodePoint) : Option String :=
  (line.mapM CodePoint.char).map String.ofList

def unicodeEncodeError : Exc :=
  ⟨.unicodeError, "'utf-8' codec can't encode character: surrogates not allowed"⟩

def parseRawEnvelope (json : JsonReaders) (line : List CodePoint) (maxMessageBytes : Nat) :
    Except Exc (Option Dict) :=
  match encodable line with
  | some text => parseEnvelope json text maxMessageBytes
  | none => .error unicodeEncodeError

namespace EventBridge

def processRawLine (json : JsonReaders) (repr : Value → String) (now : Int) (bridge : EventBridge)
    (line : List CodePoint) : Except Exc (Option Dict) × EventBridge :=
  match encodable line with
  | some text => bridge.processLine json repr now text
  | none => (.error unicodeEncodeError, bridge)

def rawTurn (json : JsonReaders) (repr : Value → String) (now : Int) (bridge : EventBridge)
    (line : List CodePoint) : Turn :=
  match encodable line with
  | some text => bridge.turn json repr now text
  | none => ⟨none, false, bridge⟩

def runForeverRaw (json : JsonReaders) (repr : Value → String) :
    EventBridge → List (Int × List CodePoint) → EventBridge
  | bridge, [] => bridge
  | bridge, (now, line) :: rest =>
    let turn := bridge.rawTurn json repr now line
    if turn.running then runForeverRaw json repr turn.bridge rest else turn.bridge

end EventBridge

end Apcos.Source.Bridge
