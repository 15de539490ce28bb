import Apcos.Source.Hardware.DeviceState

/-!
# Temperature payloads

The payloads of a temperature reader and `_extract_samples` of
services/hardware/thermal_monitor.py, down to the list of samples that a
temperature reading is made of. What `psutil.sensors_temperatures` answers, or
raises, is a parameter.
-/
namespace Apcos.Source.Hardware

open Apcos.Source.Python

/-- `current` is the attribute of that name as `float` converts it, where there is one and
it does; `text` stands for a `str`, `bytes` or `bytearray`. -/
inductive Payload where
  | none
  | bool (b : Bool)
  | int (n : Int)
  | float (x : PyFloat)
  | text
  | sequence (items : List Payload) (current : Option PyFloat)
  | mapping (entries : List (String × Payload))
  | object (current : Option PyFloat)

/-- `float(payload)` of an integer. -/
def floatOfPayload (n : Int) : Except Exc PyFloat :=
  match floatOfInt n with
  | some x => .ok x
  | none => .error ⟨.overflowError, "int too large to convert to float"⟩

mutual
/-- A named tuple is a sequence before it is an object with attributes. -/
def extractSamples : Payload → Except Exc (List PyFloat)
  | .none => .ok []
  | .bool b => .ok [.finite (if b then 1 else 0)]
  | .int n => do
    let x ← floatOfPayload n
    return [x]
  | .float x => .ok [x]
  | .sequence items _ => extractItems items
  | .text => .ok []
  | .mapping _ => .ok []
  | .object current => .ok current.toList

def extractItems : List Payload → Except Exc (List PyFloat)
  | [] => .ok []
  | item :: rest => do
    let first ← extractSamples item
    let later ← extractItems rest
    return first ++ later
end

/-- The samples of a whole payload; a mapping gives those of its values. -/
def payloadSamples : Payload → Except Exc (List PyFloat)
  | .mapping entries => extractItems (entries.map (·.2))
  | payload => extractSamples payload

namespace ThermalMonitor

def temperatureOf (payload : Payload) : Except Exc PyFloat :=
  (payloadSamples payload).map temperatureCelsius

def isOverLimitOf (m : ThermalMonitor) (payload : Payload) : Except Exc Bool :=
  (payloadSamples payload).map m.isOverLimit

end ThermalMonitor

/-! ## Entries of psutil -/

/-- A number: an integer, or a float that is not a NaN. -/
inductive Number where
  | int (n : Int)
  | float (x : PyFloat) (number : x ≠ .nan)

namespace Number

def payload : Number → Payload
  | .int n => .int n
  | .float x _ => .float x

def double : Number → Option PyFloat
  | .int n => floatOfInt n
  | .float x _ => some x

end Number

/-- The named tuple of one sensor. -/
structure SensorEntry where
  label : String
  current : Number
  high : Option Number
  critical : Option Number

namespace SensorEntry

/-- The thresholds the sensor states. -/
def limits (e : SensorEntry) : List Number := e.high.toList ++ e.critical.toList

def payload (e : SensorEntry) : Payload :=
  .sequence
    [.text, e.current.payload, (e.high.map Number.payload).getD .none,
      (e.critical.map Number.payload).getD .none]
    e.current.double

end SensorEntry

/-- Lists of entries under chip names. -/
abbrev Sensors := List (String × List SensorEntry)

def Sensors.entries (sensors : Sensors) : List SensorEntry := sensors.flatMap (·.2)

def Sensors.payload (sensors : Sensors) : Payload :=
  .mapping (sensors.map fun chip => (chip.1, .sequence (chip.2.map SensorEntry.payload) none))

/-- `psutil` is absent, or its function raises or answers; no entries at all read as `{}`. -/
def defaultTemperatureReader (psutil : Option (Except Exc Sensors)) : Payload :=
  match psutil with
  | some (.ok sensors) => sensors.payload
  | _ => .mapping []

end Apcos.Source.Hardware
