import Apcos.Source.Bootstrap.StartupValidator

/-!
# The mutation-integrity scan

The scan looks for the dotted names of the guarded modules, first in the text of a
file and then in the module field of each import statement. A submodule imported
from its package, a relative import and a name spelled with blanks load a guarded
module without its dotted name; a relative import may carry the dotted name and load
another module. On all other files the scan reports exactly what is loaded.
-/
namespace Apcos.Guarantees.ImportScan

open Apcos.Lib (Descends)
open Apcos.Source.Python
open Apcos.Source.Bootstrap

/-- Some node of the tree, at any depth, has the property. -/
def Has (P : Node → Prop) (tree : Node) : Prop :=
  ∃ node, Descends Node.children node tree ∧ P node

/-- The module or one below it in its package. -/
def Within (module name : String) : Prop := name = module ∨ ∃ below, name = module ++ "." ++ below

/-- The task store, the lifecycle manager or a submodule of one of them. -/
def Guarded (name : String) : Prop :=
  Within "core.memory.task_store" name ∨ Within "core.memory.lifecycle_manager" name

/-- The statement may load a guarded module. -/
def Loads (package : List String) (node : Node) : Prop :=
  ∃ name ∈ loadedNames package node, Guarded name

theorem startsWith_iff (text start : String) :
    startsWith text start = true ↔ ∃ rest, text = start ++ rest := by
  rw [startsWith, List.isPrefixOf_iff_prefix]
  constructor
  · rintro ⟨rest, split⟩
    refine ⟨String.ofList rest, ?_⟩
    rw [← String.toList_inj, String.toList_append, String.toList_ofList, split]
  · rintro ⟨rest, rfl⟩
    exact ⟨rest.toList, String.toList_append.symm⟩

/-- The names that the scan looks for are those of the guarded modules. -/
theorem isForbiddenImport_iff (name : String) : isForbiddenImport name = true ↔ Guarded name := by
  simp only [isForbiddenImport, forbiddenImportModules, List.any_cons, List.any_nil, Bool.or_false,
    Bool.or_eq_true, beq_iff_eq, startsWith_iff, Guarded, Within]
  exact or_comm

/-! ## Kinds of statements -/

/-- An absolute import whose module field names a guarded module. -/
def NamedImport : Node → Prop
  | .imports _ names => ∃ item ∈ names, isForbiddenImport item.name = true
  | .importFrom _ module _ level => level = 0 ∧ isForbiddenImport (module.getD "") = true
  | .other _ => False

/-- A relative import whose module field reads like a guarded module. -/
def Lookalike : Node → Prop
  | .importFrom _ module _ level => level ≠ 0 ∧ isForbiddenImport (module.getD "") = true
  | _ => False

/-- A guarded module loaded by a relative import, or as a submodule of the module
that the statement names. -/
def IndirectImport (package : List String) : Node → Prop
  | .importFrom _ module names level => ∃ base, resolveName package module level = some base ∧
      ((level ≠ 0 ∧ isForbiddenImport base = true) ∨
        ∃ item ∈ names, isForbiddenImport (base ++ "." ++ item.name) = true)
  | _ => False

/-- The files on which the scan and the imports part. -/
inductive Exceptional (file : SourceFile) (tree : Node) : Prop where
  /-- A guarded module is loaded, but the text does not spell a dotted name. -/
  | unspelled (text : mentionsForbidden file.source = false)
      (loads : Has NamedImport tree ∨ Has (IndirectImport file.package) tree)
  /-- Guarded modules are only loaded indirectly, and no module field reads like one. -/
  | indirect (loads : Has (IndirectImport file.package) tree) (named : ¬Has NamedImport tree)
      (looks : ¬Has Lookalike tree)
  /-- A relative import reads like a guarded module, and none is loaded. -/
  | lookalike (text : mentionsForbidden file.source = true) (looks : Has Lookalike tree)
      (named : ¬Has NamedImport tree) (indirect : ¬Has (IndirectImport file.package) tree)

theorem isForbiddenImport_empty : isForbiddenImport "" = false := by
  decide

/-- What is loaded is named or loaded indirectly. -/
theorem loads_iff (package : List String) (node : Node) :
    Loads package node ↔ NamedImport node ∨ IndirectImport package node := by
  simp only [Loads, ← isForbiddenImport_iff]
  cases node with
  | imports lineno names => simp [loadedNames, NamedImport, IndirectImport]
  | other children => simp [loadedNames, NamedImport, IndirectImport]
  | importFrom lineno module names level =>
    simp only [loadedNames, NamedImport, IndirectImport]
    cases resolved : resolveName package module level with
    | none =>
      simp only [List.not_mem_nil, false_and, exists_false, reduceCtorEq, or_false, false_iff,
        not_and]
      intro absolute
      subst absolute
      cases module with
      | none => simp [isForbiddenImport_empty]
      | some name => cases resolved
    | some base =>
      have absolute : level = 0 → module.getD "" = base := by
        intro absolute
        subst absolute
        cases module with
        | none => cases resolved
        | some name => exact Option.some.inj resolved
      simp only [List.mem_cons, List.mem_map, exists_eq_or_imp, Option.some.injEq,
        exists_eq_left']
      by_cases relative : level = 0
      · simp [relative, absolute relative]
      · simp [relative]

/-- What is reported is named or looks like it. -/
theorem nodeViolations_iff (file : SourceFile) (node : Node) :
    nodeViolations file node ≠ [] ↔ NamedImport node ∨ Lookalike node := by
  cases node with
  | imports lineno names => simp [nodeViolations, NamedImport, Lookalike]
  | other children => simp [nodeViolations, NamedImport, Lookalike]
  | importFrom lineno module names level =>
    simp only [nodeViolations, NamedImport, Lookalike]
    by_cases relative : level = 0
    · simp [relative]
    · simp [relative]

theorem has_or (P Q : Node → Prop) (tree : Node) :
    Has (fun node => P node ∨ Q node) tree ↔ Has P tree ∨ Has Q tree := by
  simp only [Has, and_or_left, exists_or]

/-! ## One file -/

theorem walk_violations_iff (file : SourceFile) (tree : Node) :
    tree.walk.flatMap (nodeViolations file) ≠ [] ↔ Has NamedImport tree ∨ Has Lookalike tree := by
  rw [← has_or]
  simp only [Has, ne_eq, List.flatMap_eq_nil_iff, not_forall, Node.mem_walk_iff, exists_prop]
  exact exists_congr fun node => and_congr_right fun _ => nodeViolations_iff file node

theorem has_loads_iff (file : SourceFile) (tree : Node) :
    Has (Loads file.package) tree ↔ Has NamedImport tree ∨ Has (IndirectImport file.package) tree := by
  rw [← has_or]
  exact exists_congr fun node => and_congr_right fun _ => loads_iff file.package node

/-- A file outside the exemptions is reported when its text and its tree call for it. -/
theorem fileViolations_spec {file : SourceFile} {tree : Node}
    (outside : allowedImportFiles.contains file.path = false) (parsed : file.parsed = .ok tree) :
    ∃ found, fileViolations file = .ok found ∧
      (found ≠ [] ↔ mentionsForbidden file.source = true ∧
        (Has NamedImport tree ∨ Has Lookalike tree)) := by
  unfold fileViolations
  rw [outside, parsed]
  cases text : mentionsForbidden file.source with
  | true =>
    exact ⟨_, rfl, by simp only [walk_violations_iff, true_and]⟩
  | false => exact ⟨[], rfl, by simp⟩

/-- Scan and imports agree on a file exactly when it is not exceptional. -/
theorem agree_iff (file : SourceFile) (tree : Node) :
    ((mentionsForbidden file.source = true ∧ (Has NamedImport tree ∨ Has Lookalike tree)) ↔
        Has (Loads file.package) tree) ↔ ¬Exceptional file tree := by
  rw [has_loads_iff]
  constructor
  · intro agree exceptional
    cases exceptional with
    | unspelled text loads =>
      have spelled := (agree.mpr loads).1
      rw [text] at spelled
      cases spelled
    | indirect loads named looks =>
      rcases (agree.mpr (Or.inr loads)).2 with here | here
      · exact named here
      · exact looks here
    | lookalike text looks named indirect =>
      rcases agree.mp ⟨text, Or.inr looks⟩ with here | here
      · exact named here
      · exact indirect here
  · intro ordinary
    constructor
    · intro ⟨text, reported⟩
      by_contra silent
      obtain ⟨named, indirect⟩ := not_or.mp silent
      exact ordinary (.lookalike text (reported.resolve_left named) named indirect)
    · intro loads
      have text : mentionsForbidden file.source = true := by
        by_contra unspelled
        exact ordinary (.unspelled (by simpa using unspelled) loads)
      refine ⟨text, ?_⟩
      by_contra silent
      obtain ⟨named, looks⟩ := not_or.mp silent
      exact ordinary (.indirect (loads.resolve_left named) named looks)

/-! ## A project -/

theorem collectViolations_ok (files : List SourceFile) (found : SourceFile → List String)
    (each : ∀ file ∈ files, fileViolations file = .ok (found file)) :
    collectViolations files = .ok (files.flatMap found) := by
  induction files with
  | nil => rfl
  | cons file rest ih =>
    have later := ih fun other member => each other (List.mem_cons_of_mem file member)
    rw [collectViolations, each file List.mem_cons_self]
    dsimp only
    rw [later]
    rfl

/-- The validation fails with its own error. -/
def Reports (project : List SourceFile) : Prop :=
  ∃ text, validateImportIntegrity project = .error (.startupValidation text)

theorem reports_iff {project : List SourceFile} {violations : List String}
    (collected : collectViolations (scannedFiles project) = .ok violations) :
    Reports project ↔ violations ≠ [] := by
  unfold Reports validateImportIntegrity
  rw [collected]
  cases violations with
  | nil => simp
  | cons first rest => simp

/-- In a project whose other files give no violation, the validation reports one exactly
when the file loads a guarded module, if and only if the file is not exceptional. -/
theorem scan_exact_iff (project : List SourceFile) (file : SourceFile) (tree : Node)
    (scanned : file ∈ scannedFiles project)
    (outside : allowedImportFiles.contains file.path = false) (parsed : file.parsed = .ok tree)
    (others : ∀ other ∈ scannedFiles project, other = file ∨ fileViolations other = .ok []) :
    (Reports project ↔ Has (Loads file.package) tree) ↔ ¬Exceptional file tree := by
  obtain ⟨found, reported, found_iff⟩ := fileViolations_spec outside parsed
  have collected := collectViolations_ok (scannedFiles project)
    (fun other => ((fileViolations other).toOption).getD []) (by
      intro other member
      rcases others other member with same | silent
      · rw [same, reported]
        rfl
      · rw [silent]
        rfl)
  rw [reports_iff collected, ← agree_iff, ← found_iff]
  refine iff_congr ?_ Iff.rfl
  constructor
  · intro nonempty nothing
    apply nonempty
    rw [List.flatMap_eq_nil_iff]
    intro other member
    rcases others other member with same | silent
    · rw [same, reported, nothing]
      rfl
    · rw [silent]
      rfl
  · intro nonempty nothing
    have here := List.flatMap_eq_nil_iff.mp nothing file scanned
    rw [reported] at here
    exact nonempty here

/-- A tool that imports the task store by its dotted name. -/
def plainTree : Node := .other [.imports 1 [⟨"core.memory.task_store", none⟩]]

def plainFile : SourceFile :=
  ⟨["services", "tool.py"], "import core.memory.task_store", .ok plainTree⟩

theorem scan_exact_plain :
    (Reports [plainFile] ↔ Has (Loads ["services"]) plainTree) ↔
      ¬Exceptional plainFile plainTree :=
  scan_exact_iff [plainFile] plainFile plainTree (by simp [scannedFiles, mutationScanDirs, plainFile])
    (by decide) rfl (by
      intro other member
      left
      simpa [scannedFiles, mutationScanDirs, plainFile] using member)

/-- A tool that imports the task store from its package. -/
def packageTree : Node :=
  .other [.importFrom 1 (some "core.memory") [⟨"task_store", none⟩] 0]

def packageFile : SourceFile :=
  ⟨["services", "tool.py"], "from core.memory import task_store", .ok packageTree⟩

theorem package_import_unreported :
    ¬∀ (project : List SourceFile) (file : SourceFile) (tree : Node),
      file ∈ scannedFiles project → allowedImportFiles.contains file.path = false →
      file.parsed = .ok tree →
      (∀ other ∈ scannedFiles project, other = file ∨ fileViolations other = .ok []) →
      (Reports project ↔ Has (Loads file.package) tree) := by
  intro always
  have agree := always [packageFile] packageFile packageTree
    (by simp [scannedFiles, mutationScanDirs, packageFile]) (by decide) rfl (by
      intro other member
      left
      simpa [scannedFiles, mutationScanDirs, packageFile] using member)
  have loads : Has (Loads packageFile.package) packageTree := by
    refine ⟨.importFrom 1 (some "core.memory") [⟨"task_store", none⟩] 0,
      .down List.mem_cons_self (.here _), "core.memory.task_store", ?_, Or.inl (Or.inl rfl)⟩
    simp [loadedNames, resolveName]
  have unspelled : mentionsForbidden packageFile.source = false := by
    decide +kernel
  have silent : fileViolations packageFile = .ok [] := by
    rw [fileViolations, unspelled]
    rfl
  have collected : collectViolations (scannedFiles [packageFile]) = .ok [] := by
    change collectViolations [packageFile] = .ok []
    rw [collectViolations, silent]
    rfl
  exact (reports_iff collected).mp (agree.mpr loads) rfl

end Apcos.Guarantees.ImportScan
