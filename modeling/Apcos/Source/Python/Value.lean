import Mathlib.Algebra.Order.Ring.Int
import Mathlib.Algebra.Order.Ring.Rat

/-!
# Python values and exceptions

The values that reach the audited code: JSON-shaped data, `datetime` objects
and, for arguments that are neither, an anonymous object. The same type stands
for serde_json's `Value` on the Rust side; no JSON text denotes the last two
kinds. Mappings have string keys. Strings are sequences of Unicode scalar
values; lone surrogates are not represented. A float is its exact value, a
signed infinity or a NaN: the code only compares floats.

Exceptions are the subclasses of `Exception` with their message; recursion and
memory limits of the interpreter are not modeled.
-/
namespace Apcos.Source.Python

/-- Classes of the exceptions the audited code raises or catches; `other` is
any other subclass of `Exception` (a transport may raise it). -/
inductive ExcClass where
  | valueError | keyError | typeError | attributeError | overflowError | runtimeError
  | unicodeError | binasciiError | sqliteError | invalidStateTransitionError
  | other (name : String)
  deriving DecidableEq, Repr

structure Exc where
  cls : ExcClass
  message : String
  deriving DecidableEq, Repr

/-- `isinstance(exc, ValueError)`: codec errors and the lifecycle error derive from it. -/
def Exc.isValueError (e : Exc) : Bool :=
  match e.cls with
  | .valueError | .unicodeError | .binasciiError | .invalidStateTransitionError => true
  | _ => false

def Exc.isKeyError (e : Exc) : Bool := e.cls == .keyError

def Exc.isTypeError (e : Exc) : Bool := e.cls == .typeError

def Exc.isInvalidStateTransition (e : Exc) : Bool := e.cls == .invalidStateTransitionError

/-- A double: the exact value of a finite one, an infinity or a NaN. -/
inductive PyFloat where
  | nan
  | infinity (negative : Bool)
  | finite (value : Rat)
  deriving DecidableEq, Repr

/-- `x < y`; every comparison with a NaN is false. -/
def PyFloat.lt : PyFloat → PyFloat → Bool
  | .nan, _ => false
  | _, .nan => false
  | .finite x, .finite y => decide (x < y)
  | .finite _, .infinity negative => !negative
  | .infinity negative, .finite _ => negative
  | .infinity negative, .infinity negative' => negative && !negative'

/-- `x <= y`. -/
def PyFloat.le : PyFloat → PyFloat → Bool
  | .nan, _ => false
  | _, .nan => false
  | .finite x, .finite y => decide (x ≤ y)
  | .finite _, .infinity negative => !negative
  | .infinity negative, .finite _ => negative
  | .infinity negative, .infinity negative' => negative || !negative'

/-- Nearest double of a natural number, ties to even, before the range check. -/
def roundToDouble (n : Nat) : Nat :=
  if n < 2 ^ 53 then n
  else
    let shift := n.log2 - 52
    let quotient := n / 2 ^ shift
    let remainder := n % 2 ^ shift
    let half := 2 ^ (shift - 1)
    let up := half < remainder ∨ (remainder = half ∧ quotient % 2 = 1)
    (if up then quotient + 1 else quotient) * 2 ^ shift

/-- `float(n)`; `none` is the `OverflowError` of an integer beyond the largest double. -/
@[irreducible] def floatOfInt (n : Int) : Option PyFloat :=
  let magnitude := roundToDouble n.natAbs
  if magnitude < 2 ^ 1024 then
    some (.finite (if n < 0 then -(magnitude : Rat) else (magnitude : Rat)))
  else none

def microsPerDay : Nat := 86400 * 10 ^ 6

/-- 0001-01-01 to 9999-12-31: the days a `datetime` can hold. -/
def maxOrdinal : Nat := 3652059

/-- A `datetime`: microseconds since 0001-01-01T00:00 on its own clock, and its
UTC offset in microseconds when it is aware (strictly within a day). -/
structure DateTime where
  micros : Fin (maxOrdinal * microsPerDay)
  utcoffset : Option { offset : Int // offset.natAbs < microsPerDay }
  deriving DecidableEq

/-- 0001-01-01T00:00. -/
def firstInstant : Fin (maxOrdinal * microsPerDay) := ⟨0, by decide⟩

inductive Value where
  | null
  | bool (b : Bool)
  | int (n : Int)
  | float (x : PyFloat)
  | str (s : String)
  | list (items : List Value)
  | dict (entries : List (String × Value))
  | datetime (d : DateTime)
  | object (label : Nat)

abbrev Dict := List (String × Value)

/-- `d.get(key, default)`. -/
def Dict.getD (d : Dict) (key : String) (default : Value) : Value := (d.lookup key).getD default

/-- `d.get(key)`: an absent key reads as `None`. -/
def Dict.get (d : Dict) (key : String) : Value := Dict.getD d key .null

namespace Value

/-- `value == text` for a string `text`. -/
def isText (v : Value) (text : String) : Bool :=
  match v with
  | .str s => s == text
  | _ => false

def asText : Value → Option String
  | .str s => some s
  | _ => none

def asBool : Value → Option Bool
  | .bool b => some b
  | _ => none

def asDict : Value → Option Dict
  | .dict d => some d
  | _ => none

/-- `isinstance(value, int)` and its number: a `bool` is an `int`. -/
def asInt : Value → Option Int
  | .int n => some n
  | .bool b => some (if b then 1 else 0)
  | _ => none

def isNull : Value → Bool
  | .null => true
  | _ => false

/-- A string or `None`; `none` is the failing type check. -/
def asOptionalText : Value → Option (Option String)
  | .null => some none
  | .str s => some (some s)
  | _ => none

/-- `bool(value)`. -/
def truthy : Value → Bool
  | .null => false
  | .bool b => b
  | .int n => n != 0
  | .float (.finite q) => q != 0
  | .float _ => true
  | .str s => s != ""
  | .list items => !items.isEmpty
  | .dict entries => !entries.isEmpty
  | .datetime _ => true
  | .object _ => true

end Value

/-- `sys.int_info.default_max_str_digits`: `str` of a longer integer raises `ValueError`. -/
def maxStrDigits : Nat := 4300

mutual
/-- Every integer inside the value has at most `maxStrDigits` decimal digits. -/
def Value.printable : Value → Bool
  | .int n => decide (n.natAbs < 10 ^ maxStrDigits)
  | .list items => printableItems items
  | .dict entries => printableEntries entries
  | _ => true

def printableItems : List Value → Bool
  | [] => true
  | v :: rest => v.printable && printableItems rest

def printableEntries : List (String × Value) → Bool
  | [] => true
  | (_, v) :: rest => v.printable && printableEntries rest
end

end Apcos.Source.Python
