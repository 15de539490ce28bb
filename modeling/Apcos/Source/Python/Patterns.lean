import Apcos.Lib.Regex
import Apcos.Source.Python.Text

/-!
# The `re` module

Character classes, anchors and `IGNORECASE` of Python's `re` on `str` patterns.
Ignoring case compares simple lower-case mappings and the equivalents the
module adds for the letters `i` and `s`; among the letters of an ASCII pattern
the non-ASCII characters concerned are U+0130, U+0131, U+017F and U+212A.
-/
namespace Apcos.Source.Python

open Apcos.Lib.Regex

/-- The letter `c` may stand for under `IGNORECASE`, for ASCII letters. -/
def foldLetter (c : Char) : Char :=
  if c = '\u0130' ∨ c = '\u0131' then 'i'
  else if c = '\u017f' then 's'
  else if c = '\u212a' then 'k'
  else asciiLower c

/-- A literal character of a pattern compiled with `IGNORECASE`. -/
def caseless (letter : Char) : Pattern Char := .one fun c => foldLetter c == asciiLower letter

def caselessWord (word : String) : Pattern Char := chain (word.toList.map caseless)

def literal (letter : Char) : Pattern Char := .one fun c => c == letter

def literalWord (word : String) : Pattern Char := chain (word.toList.map literal)

/-- `\s*`. -/
def spaces : Pattern Char := .run isSpace 0 none false

/-- `\s+`. -/
def someSpaces : Pattern Char := .run isSpace 1 none false

/-- `\d{least,most}`. -/
def digits (py : Runtime) (least most : Nat) : Pattern Char :=
  .run (fun c => (py.decimal c).isSome) least (some most) false

/-- `.+` and `.+?`: anything but a newline. -/
def anyText (reluctant : Bool) : Pattern Char := .run (fun c => c != '\n') 1 none reluctant

/-- `$`: the end, or before a final newline. -/
def atEnd : Pattern Char := .look fun rest => rest.isEmpty || rest == ['\n']

def textGroup (found : Found Char) (name : String) : Option String :=
  (found.group name).map String.ofList

/-- `int(digits)` for a run of decimal digits. -/
def decimalValue (py : Runtime) (text : String) : Nat :=
  text.toList.foldl (fun acc c => 10 * acc + (py.decimal c).getD 0) 0

/-- `string.startswith(prefix)`. -/
def startsWith (s start : String) : Bool := start.toList.isPrefixOf s.toList

/-- Replace each run of characters of a class by a blank; the flag tells that a run is
being replaced. -/
def collapseRuns (p : Char → Bool) : Bool → List Char → List Char
  | _, [] => []
  | inRun, c :: rest =>
    if p c then
      if inRun then collapseRuns p true rest else ' ' :: collapseRuns p true rest
    else c :: collapseRuns p false rest

/-- `[\x00-\x1f\x7f]`. -/
def isControl (c : Char) : Bool := c.toNat < 32 || c.toNat == 127

/-- `re.sub(r"[\x00-\x1f\x7f]+", " ", text)`. -/
def controlsToBlank (text : String) : String :=
  String.ofList (collapseRuns isControl false text.toList)

/-- `re.sub(r"\s+", " ", text)`. -/
def spacesToBlank (text : String) : String :=
  String.ofList (collapseRuns isSpace false text.toList)

end Apcos.Source.Python
