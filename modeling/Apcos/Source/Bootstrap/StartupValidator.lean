import Apcos.Lib.Walk
import Apcos.Source.Python.Patterns

/-!
# Startup validator

`_validate_import_integrity` and `_is_forbidden_import` of
apcos/bootstrap/startup_validator.py, and the modules that a statement may load. Of a
syntax tree only the import statements are told apart. A file carries its path from
the project's root, its text and what `ast.parse` makes of it; the order of `rglob`
is that of the list of files.
-/
namespace Apcos.Source.Bootstrap

open Apcos.Lib
open Apcos.Source.Python

/-! ## Syntax trees -/

structure Alias where
  name : String
  asname : Option String

inductive Node where
  | imports (lineno : Nat) (names : List Alias)
  | importFrom (lineno : Nat) (module : Option String) (names : List Alias) (level : Nat)
  | other (children : List Node)

namespace Node

/-- `ast.iter_child_nodes`, without the aliases. -/
def children : Node → List Node
  | .imports _ _ => []
  | .importFrom _ _ _ _ => []
  | .other children => children

mutual

def height : Node → Nat
  | .imports _ _ => 0
  | .importFrom _ _ _ _ => 0
  | .other children => heights children + 1

def heights : List Node → Nat
  | [] => 0
  | node :: rest => max node.height (heights rest)

end

theorem height_le_heights {node : Node} {nodes : List Node} (member : node ∈ nodes) :
    node.height ≤ heights nodes := by
  induction nodes with
  | nil => cases member
  | cons first rest ih =>
    rw [heights]
    rcases List.mem_cons.mp member with here | later
    · rw [here]
      exact Nat.le_max_left _ _
    · exact (ih later).trans (Nat.le_max_right _ _)

theorem height_children (parent : Node) :
    ∀ child ∈ parent.children, child.height < parent.height := by
  intro child member
  cases parent with
  | imports lineno names => cases member
  | importFrom lineno module names level => cases member
  | other children =>
    rw [height]
    exact Nat.lt_succ_of_le (height_le_heights member)

/-- `ast.walk`. -/
def walk (tree : Node) : List Node := Lib.walk children (tree.height + 1) [tree]

theorem mem_walk_iff {node tree : Node} :
    node ∈ tree.walk ↔ Descends children node tree := by
  rw [walk, Lib.mem_walk_iff height_children]
  · simp
  · intro root member
    rw [List.mem_singleton.mp member]
    exact Nat.lt_succ_self _

end Node

/-! ## The scan -/

def mutationScanDirs : List String := ["core", "interface", "voice", "services", "apcos"]

def forbiddenImportModules : List String :=
  ["core.memory.lifecycle_manager", "core.memory.task_store"]

def allowedImportFiles : List (List String) :=
  [["core", "cognition", "command_router.py"], ["core", "memory", "task_store.py"]]

structure SourceFile where
  path : List String
  source : String
  parsed : Except Exc Node

def isForbiddenImport (moduleName : String) : Bool :=
  forbiddenImportModules.any fun forbidden =>
    moduleName == forbidden || startsWith moduleName (forbidden ++ ".")

/-- The text names one of the modules. -/
def mentionsForbidden (source : String) : Bool :=
  contains source "core.memory.lifecycle_manager" || contains source "core.memory.task_store"

def relPath (file : SourceFile) : String := "/".intercalate file.path

/-- The violations found at one node. -/
def nodeViolations (file : SourceFile) : Node → List String
  | .imports lineno names =>
    (names.filter fun item => isForbiddenImport item.name).map fun item =>
      relPath file ++ ":" ++ toString lineno ++ " unauthorized import " ++ item.name
  | .importFrom lineno module _ _ =>
    let module := module.getD ""
    if isForbiddenImport module then
      [relPath file ++ ":" ++ toString lineno ++ " unauthorized import from " ++ module]
    else []
  | .other _ => []

/-- What the loop body appends for one file; a file that does not parse ends the scan. -/
def fileViolations (file : SourceFile) : Except Exc (List String) :=
  if allowedImportFiles.contains file.path then .ok []
  else if !mentionsForbidden file.source then .ok []
  else
    match file.parsed with
    | .error e => .error e
    | .ok tree => .ok (tree.walk.flatMap (nodeViolations file))

/-- The files of the scanned directories, directory by directory. -/
def scannedFiles (project : List SourceFile) : List SourceFile :=
  mutationScanDirs.flatMap fun folder => project.filter fun file => file.path.head? == some folder

def collectViolations : List SourceFile → Except Exc (List String)
  | [] => .ok []
  | file :: rest =>
    match fileViolations file with
    | .error e => .error e
    | .ok found =>
      match collectViolations rest with
      | .error e => .error e
      | .ok later => .ok (found ++ later)

/-- The exception raised: the scan's own, or that of a file which does not parse. -/
inductive ScanError where
  | startupValidation (text : String)
  | parse (e : Exc)

def validateImportIntegrity (project : List SourceFile) : Except ScanError Unit :=
  match collectViolations (scannedFiles project) with
  | .error e => .error (.parse e)
  | .ok [] => .ok ()
  | .ok violations =>
    .error (.startupValidation
      ("Startup mutation integrity check failed:\n" ++ "\n".intercalate violations))

/-! ## What an import loads -/

/-- The package a file belongs to. -/
def SourceFile.package (file : SourceFile) : List String := file.path.dropLast

/-- The absolute name of the module of a `from` import; none if the levels lead out of
the top-level package. -/
def resolveName (package : List String) (module : Option String) (level : Nat) : Option String :=
  if level = 0 then module
  else if package.length < level then none
  else
    let base := ".".intercalate (package.take (package.length + 1 - level))
    let name := module.getD ""
    some (if name = "" then base else base ++ "." ++ name)

/-- The names of the modules that an import statement may load, parents apart. -/
def loadedNames (package : List String) : Node → List String
  | .imports _ names => names.map (·.name)
  | .importFrom _ module names level =>
    match resolveName package module level with
    | none => []
    | some base => base :: names.map fun item => base ++ "." ++ item.name
  | .other _ => []

end Apcos.Source.Bootstrap
