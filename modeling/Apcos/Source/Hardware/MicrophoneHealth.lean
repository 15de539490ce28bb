import Apcos.Source.Python.Value

/-!
# Microphone health

services/hardware/microphone_health.py. What the probe and the reader answer in a check is its
input; an answer of the reader without bytes is the empty chunk.
-/
namespace Apcos.Source.Hardware

open Apcos.Source.Python (Exc)

/-- `probe` is the truth value of what the probe returns. -/
structure MicrophoneCheck where
  probe : Except Exc Bool
  reading : Except Exc (List UInt8)

structure MicrophoneHealth where
  hasReader : Bool
  hasProbe : Bool
  maxNoInputChecks : Nat
  positive : 1 ≤ maxNoInputChecks
  consecutiveNoInput : Nat
  lastError : Option String

namespace MicrophoneHealth

theorem toNat_positive {checks : Int} (positive : 1 ≤ checks) : 1 ≤ checks.toNat := by
  omega

def create (hasReader hasProbe : Bool) (maxNoInputChecks : Int) : Except Exc MicrophoneHealth :=
  if positive : 1 ≤ maxNoInputChecks then
    .ok ⟨hasReader, hasProbe, maxNoInputChecks.toNat, toNat_positive positive, 0, none⟩
  else .error ⟨.valueError, "max_no_input_checks must be >= 1"⟩

/-- `self._last_error = error` and the answer that goes with it. -/
def report (m : MicrophoneHealth) (error : Option String) : Bool × MicrophoneHealth :=
  (error.isNone, { m with lastError := error })

/-- The reader's half of a check. -/
def readChunk (m : MicrophoneHealth) (reading : Except Exc (List UInt8)) :
    Bool × MicrophoneHealth :=
  match reading with
  | .error _ => m.report (some "MICROPHONE_READ_FAILURE")
  | .ok (_ :: _) => { m with consecutiveNoInput := 0 }.report none
  | .ok [] =>
    let m := { m with consecutiveNoInput := m.consecutiveNoInput + 1 }
    if m.maxNoInputChecks ≤ m.consecutiveNoInput then m.report (some "MICROPHONE_NO_INPUT")
    else m.report none

def isOperational (m : MicrophoneHealth) (check : MicrophoneCheck) : Bool × MicrophoneHealth :=
  match if m.hasProbe then check.probe else .ok true with
  | .error _ => m.report (some "MICROPHONE_PROBE_FAILURE")
  | .ok false => m.report (some "MICROPHONE_UNAVAILABLE")
  | .ok true => if m.hasReader then m.readChunk check.reading else m.report none

end MicrophoneHealth

end Apcos.Source.Hardware
