import Apcos.Lib.Assoc
import Apcos.Source.Python.Arithmetic

/-!
# Configuration loader

apcos/bootstrap/config_loader.py. What `yaml.safe_load` makes of the file is a
parameter: scalars, sequences, mappings with scalar keys, the sets of `!!set`, and
the tuples that `!!omap` and `!!pairs` put into their lists. A document that refers
to itself through an alias has no finite value and is left out.
-/
namespace Apcos.Source.Bootstrap

open Apcos.Lib
open Apcos.Source.Python

/-! ## Values -/

inductive Scalar where
  | null
  | bool (b : Bool)
  | int (n : Int)
  | float (x : PyFloat)
  | str (s : String)
  | bytes (data : List UInt8)
  | date (ordinal : Nat)
  | datetime (d : DateTime)
  deriving DecidableEq

/-- What YAML denotes: `list`, `dict`, `set` and a tuple of two. -/
inductive Yaml where
  | scalar (s : Scalar)
  | sequence (items : List Yaml)
  | mapping (entries : List (Scalar × Yaml))
  | set (members : List Scalar)
  | pair (key value : Yaml)

/-- What the loader returns: `tuple` and `MappingProxyType` for lists and mappings; a tuple
of the document stays what it was. -/
inductive Frozen where
  | scalar (s : Scalar)
  | tuple (items : List Frozen)
  | proxy (entries : List (Scalar × Frozen))
  | set (members : List Scalar)
  | pair (key value : Yaml)

/-- `bool(value)`. -/
def Yaml.truthy : Yaml → Bool
  | .scalar s =>
    match s with
    | .null => false
    | .bool b => b
    | .int n => n != 0
    | .float (.finite q) => q != 0
    | .float _ => true
    | .str s => s != ""
    | .bytes data => !data.isEmpty
    | .date _ => true
    | .datetime _ => true
  | .sequence items => !items.isEmpty
  | .mapping entries => !entries.isEmpty
  | .set members => !members.isEmpty
  | .pair _ _ => true

mutual
/-- The keys of every mapping are distinct. -/
def Yaml.distinct : Yaml → Bool
  | .scalar _ => true
  | .sequence items => distinctItems items
  | .mapping entries => decide (entries.map (·.1)).Nodup && distinctEntries entries
  | .set members => decide members.Nodup
  | .pair key value => key.distinct && value.distinct

def distinctItems : List Yaml → Bool
  | [] => true
  | item :: rest => item.distinct && distinctItems rest

def distinctEntries : List (Scalar × Yaml) → Bool
  | [] => true
  | (_, value) :: rest => value.distinct && distinctEntries rest
end

/-! ## Loading -/

def configError (message : String) : Exc := ⟨.other "ConfigError", message⟩

def requiredSections : List String :=
  ["command_router", "calibration", "proactive", "runtime", "hardware"]

def defaults : List (String × List (String × Scalar)) :=
  [("command_router",
      [("min_confidence", .float (hundredths 65)), ("enable_challenge_gate", .bool true)]),
    ("calibration",
      [("enabled", .bool true), ("min_threshold", .float (hundredths 50)),
        ("max_threshold", .float (hundredths 90)), ("step_size", .float (hundredths 5))]),
    ("proactive",
      [("confidence_threshold", .float (hundredths 70)), ("daily_limit", .int 3),
        ("silent_mode", .bool false)]),
    ("runtime",
      [("cpu_threshold_percent", .int 75), ("memory_threshold_mb", .int 500),
        ("max_threads", .int 4), ("power_mode", .str "NORMAL"),
        ("model_downgrade_enabled", .bool true), ("idle_unload_seconds", .int 300)]),
    ("hardware",
      [("battery_low_percent", .int 20), ("battery_critical_percent", .int 10),
        ("thermal_limit_celsius", .int 75), ("sleep_idle_seconds", .int 300)])]

abbrev Section := List (Scalar × Yaml)

def defaultSection (defaults : List (String × Scalar)) : Section :=
  defaults.map fun entry => (.str entry.1, .scalar entry.2)

/-- A section that is no mapping is passed over. -/
def mergedSection (loaded : Section) (section_ : String × List (String × Scalar)) : Section :=
  match (loaded.lookup (.str section_.1)).getD (.mapping []) with
  | .mapping existing => updateWith (defaultSection section_.2) existing
  | _ => defaultSection section_.2

def mergeDefaults (loaded : Section) : Section :=
  let merged := defaults.map fun section_ =>
    (Scalar.str section_.1, Yaml.mapping (mergedSection loaded section_))
  merged ++ loaded.filter fun entry => (merged.lookup entry.1).isNone

def validateRequiredSections (config : Section) : Except Exc Unit :=
  let missing := requiredSections.filter fun section_ => (config.lookup (.str section_)).isNone
  if missing = [] then .ok ()
  else .error (configError
    ("Configuration missing required sections: " ++ ", ".intercalate missing))

def validateSectionShapes (config : Section) : Except Exc Unit :=
  requiredSections.forM fun section_ =>
    match config.lookup (.str section_) with
    | some (.mapping _) => .ok ()
    | _ => .error (configError
        ("Configuration section '" ++ section_ ++ "' must be a mapping/object."))

mutual
def deepFreeze : Yaml → Frozen
  | .scalar s => .scalar s
  | .sequence items => .tuple (freezeItems items)
  | .mapping entries => .proxy (freezeEntries entries)
  | .set members => .set members
  | .pair key value => .pair key value

def freezeItems : List Yaml → List Frozen
  | [] => []
  | item :: rest => deepFreeze item :: freezeItems rest

def freezeEntries : List (Scalar × Yaml) → List (Scalar × Frozen)
  | [] => []
  | (key, value) :: rest => (key, deepFreeze value) :: freezeEntries rest
end

/-- The file: absent, refused by the parser, unreadable, raising anything else, or read. -/
inductive ConfigFile where
  | absent
  | yamlError
  | osError
  | raises (exc : Exc)
  | read (value : Yaml)

def loadConfig (path : String) (file : ConfigFile) : Except Exc Frozen :=
  match file with
  | .absent => .error (configError ("Configuration file not found: " ++ path))
  | .yamlError => .error (configError ("Configuration file is invalid YAML: " ++ path))
  | .osError => .error (configError ("Unable to read configuration file: " ++ path))
  | .raises exc => .error exc
  | .read value =>
    match if value.truthy then value else .mapping [] with
    | .mapping loaded => do
      validateRequiredSections loaded
      let merged := mergeDefaults loaded
      validateSectionShapes merged
      return deepFreeze (.mapping merged)
    | _ => .error (configError "Configuration root must be a mapping/object.")

end Apcos.Source.Bootstrap
