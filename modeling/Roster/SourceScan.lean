import Roster.FileTree
import Roster.Ignore
import Roster.Text.Utf8

/-! # Scanning for modules

The modules below a root, a directory's own files before its subdirectories and both sorted by
name. Some directories are never entered; others, and single files, are left out by the rules of an
ignore file at the root and by further rules. What lies below an ignored directory never comes back.

* `moduleName` turns a relative path into the dotted name of a module.
-/

namespace Roster

/-- A module found below a root: where it is, its path from the root, and its dotted name. -/
structure SourceFile where
  place : Place
  relativePath : String
  module : String
  deriving DecidableEq, Repr

/-- The path of a module's file. -/
def SourceFile.path (f : SourceFile) : Path := ⟨.slash, f.place⟩

/-- The name of the file that stands for its directory. -/
def packageFile : String := "__init__"

/-- The dotted name of the module at a relative path; a package file stands for its directory. -/
def moduleName (relativePath : String) : String :=
  let stem := String.ofList (relativePath.toList.take (relativePath.length - 3))
  let parts := splitText '/' stem
  let parts := if parts.getLast? = some packageFile then parts.dropLast else parts
  String.intercalate "." parts

/-- Directories that are never entered. -/
def skippedDirectories : List String :=
  [".git", ".hg", ".svn", ".venv", "venv", "node_modules", "__pycache__", ".pytest_cache",
    ".mypy_cache", ".tox", ".idea", "build", "dist"]

/-- Why a root cannot be scanned, or its modules cannot be read. -/
inductive ScanFault where
  | unknownHome
  | missing (root : String)
  | notDirectory (root : String)
  | file (fault : FileFault)
  | ignoreFile (fault : Text.Utf8Fault)
  | exhausted (how : Exhaustion)
  deriving DecidableEq, Repr

/-- The wording of a fault. -/
def ScanFault.message : ScanFault → String
  | .unknownHome => Path.unknownHome
  | .missing root => "Source path not found: " ++ root
  | .notDirectory root => "Source path is not a directory: " ++ root
  | .file fault => fault.message
  | .ignoreFile fault => fault.message
  | .exhausted how => how.message

/-- Names sorted by code points. -/
def sortedNames (names : List String) : List String := names.mergeSort fun a b => decide (a ≤ b)

/-- The path of an entry of a directory whose own path is `directory`, empty for the root. -/
def entryPath (directory name : String) : String :=
  if directory = "" then name else directory ++ "/" ++ name

/-- The modules below a directory; `depth` bounds how deep it goes. How long a path becomes on the way
down is not asked, unlike in `FileTree.placeOf`. -/
def modulesBelow (t : FileTree) (rules : List IgnoreRule) :
    Nat → Place → String → List (Place × String)
  | 0, _, _ => []
  | depth + 1, place, directory =>
    let entries := t.namesIn place
    let files := entries.filter fun (_, e) => e ≠ .directory
    let folders := entries.filter fun (_, e) => e = .directory
    let kept := (sortedNames (files.map (·.1))).filter fun name =>
      name.endsWith ".py" && !ignored rules (entryPath directory name) false
    let entered := (sortedNames (folders.map (·.1))).filter fun name =>
      !skippedDirectories.contains name && !ignored rules (entryPath directory name) true
    kept.map (fun name => (place ++ [name], entryPath directory name))
      ++ entered.flatMap fun name =>
        modulesBelow t rules depth (place ++ [name]) (entryPath directory name)

/-- The text of a file as text files are read: UTF-8, with every end of line a line feed. -/
def FileTree.readText (t : FileTree) (p : Path) : Except (FileFault ⊕ Text.Utf8Fault) String :=
  match t.read p with
  | .error fault => .error (.inl fault)
  | .ok bytes =>
    match Text.decodeUtf8 bytes with
    | .error fault => .error (.inr fault)
    | .ok text => .ok (String.ofList (Text.unifyLineEnds text.toList))

/-- The rules of an ignore file, none if there is no file. -/
def ignoreFileRules (t : FileTree) (p : Path) : Except ScanFault (List IgnoreRule) := do
  match t.exists? p with
  | .error fault => .error (.file fault)
  | .ok false => .ok []
  | .ok true =>
    match t.readText p with
    | .error (.inl fault) => .error (.file fault)
    | .error (.inr fault) => .error (.ignoreFile fault)
    | .ok text => .ok (IgnoreRule.ofText text)

/-- The modules below a root, under the rules of its ignore file and then `extra`. -/
def scan (t : FileTree) (extra : List IgnoreRule) (root : Path) :
    Except ScanFault (List SourceFile) := do
  let some expanded := root.expandHome t.home | .error .unknownHome
  let resolved ← (t.resolve expanded).mapError .file
  unless ← (t.exists? resolved).mapError .file do
    .error (.missing root.text)
  unless ← (t.isDirectory? resolved).mapError .file do
    .error (.notDirectory root.text)
  let rules ← ignoreFileRules t (resolved / Path.parse ".gitignore")
  let found := modulesBelow t (rules ++ extra) (t.entries.length + 1) resolved.parts ""
  .ok (found.map fun (place, relative) => ⟨place, relative, moduleName relative⟩)

/-- The rules of a list of patterns that leave paths out. -/
def excludeRules (patterns : List String) : List IgnoreRule :=
  patterns.filterMap fun pattern => IgnoreRule.ofPattern? pattern false

end Roster
