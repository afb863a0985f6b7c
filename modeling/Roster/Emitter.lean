import Roster.Failure
import Roster.FileTree
import Roster.Rendering

/-! # Emission

A companion is written below an output directory, at a place made from its package and its name.

* `relativePath`: the directories of the package, then the file.
* `writeCompanion` makes missing directories first and leaves them when writing fails.
* `writeLaidOut` writes in any layout. A text that cannot be encoded leaves an empty file.
* `Emitter`: anything that takes companions, with a state of its own. `sourceEmitter` writes source
  files, and `fileEmitter` is what it comes to for texts that can be encoded.
-/

namespace Roster

/-- The path of a companion below the output directory; empty package parts are left out. -/
def relativePath (language : Language) (a : Artifact) : Path :=
  Path.ofTexts
    ((splitText '.' a.package).filter (· ≠ "") ++ [a.name ++ language.extension])

/-- What became of a companion that was handed to an emitter. -/
inductive WriteOutcome where
  | written (path : Path)
  /-- The emitter reports a failure. -/
  | refused (failure : Failure)
  /-- The emitter breaks down, with a message. -/
  | crashed (message : String)

/-- What becomes of a companion whose file is there and whose text cannot be put into it. -/
def WriteOutcome.spoiledBy (outcome : WriteOutcome) (message : String) : WriteOutcome :=
  match outcome with
  | .written _ => .crashed message
  | other => other

/-- Writes a text below the output directory that can be encoded. -/
def writeText (tree : FileTree) (a : Artifact) (target : Path) (text : String) :
    FileTree × WriteOutcome :=
  let fail (tree : FileTree) : FileFault → FileTree × WriteOutcome
    | .unfit fault => (tree, .crashed fault.message)
    | fault => (tree, .refused (.write a.qualifiedName fault.message (some a.sourceType)))
  match tree.makeDirectories target.parent with
  | (tree, .error fault) => fail tree fault
  | (tree, .ok ()) =>
    match tree.write target text.toUTF8 with
    | .ok tree => (tree, .written target)
    | .error fault => fail tree fault

/-- Writes a text below the output directory. The file is opened, and so emptied, before the text is
encoded. -/
def writeEncoded (tree : FileTree) (a : Artifact) (target : Path) (text : String) :
    FileTree × WriteOutcome :=
  match Text.fileFault? text with
  | none => writeText tree a target text
  | some fault =>
    let (tree, outcome) := writeText tree a target ""
    (tree, outcome.spoiledBy fault.message)

theorem writeEncoded_of_none {tree : FileTree} {a : Artifact} {target : Path} {text : String}
    (h : Text.fileFault? text = none) :
    writeEncoded tree a target text = writeText tree a target text := by
  rw [writeEncoded, h]

theorem writeEncoded_of_some {tree : FileTree} {a : Artifact} {target : Path} {text : String}
    {fault : Text.EncodeFault} (h : Text.fileFault? text = some fault) :
    writeEncoded tree a target text =
      ((writeText tree a target "").1, (writeText tree a target "").2.spoiledBy fault.message) := by
  rw [writeEncoded, h]

/-- Renders a companion and writes it below the output directory, if its text can be encoded. -/
def writeCompanion (language : Language) (tree : FileTree) (a : Artifact) (output : Path) :
    FileTree × WriteOutcome :=
  writeText tree a (output / relativePath language a) (Rendering.render language a)

/-- Lays a companion out and writes it below the output directory. If its layout cannot be filled, the
files are not touched. -/
def writeLaidOut (layout : Layout) (language : Language) (tree : FileTree) (a : Artifact)
    (output : Path) : FileTree × WriteOutcome :=
  match layout.render language a with
  | .error fault => (tree, .crashed fault.message)
  | .ok text => writeEncoded tree a (output / relativePath language a) text

/-! ## Emitters -/

/-- The state after a companion was handed over, what became of it, and whether the emitter asks
for its round to be cancelled. -/
structure Handover (σ : Type) where
  state : σ
  outcome : WriteOutcome
  cancels : Bool

/-- Something that takes companions. `files` are the files as it leaves them. -/
structure Emitter (σ : Type) where
  relativePath : Artifact → Path
  write : σ → Artifact → Path → Handover σ
  files : σ → FileTree

/-- A way to write a companion below an output directory. -/
abbrev Writing := FileTree → Artifact → Path → FileTree × WriteOutcome

/-- The emitter that writes into a tree in some way. -/
def treeEmitter (language : Language) (write : Writing) : Emitter FileTree where
  relativePath := Roster.relativePath language
  write tree a output :=
    let (tree, outcome) := write tree a output
    ⟨tree, outcome, false⟩
  files tree := tree

/-- The emitter that writes source files into a tree. -/
def sourceEmitter (language : Language) : Emitter FileTree :=
  treeEmitter language (writeLaidOut .standard language)

/-- The emitter that writes source files into a tree, for texts that can be encoded. -/
def fileEmitter (language : Language) : Emitter FileTree :=
  treeEmitter language (writeCompanion language)

/-! ## An emitter with planned failures -/

/-- What an emitter does beside writing: the types whose companions it refuses and why, those at
which it breaks down and with which message, and the number of written companions after which it
asks for cancellation. -/
structure WritePlan where
  refused : List String
  reason : String
  crashing : List String
  complaint : String
  cancelAfter : Option Nat

/-- A tree, and how many companions were written into it. -/
structure PlannedState where
  tree : FileTree
  count : Nat

/-- The emitter that writes in some way but keeps to a plan. -/
def plannedBy (language : Language) (write : Writing) (plan : WritePlan) : Emitter PlannedState where
  relativePath := Roster.relativePath language
  write s a output :=
    if plan.refused.contains a.sourceType then
      ⟨s, .refused (.write a.qualifiedName plan.reason (some a.sourceType)), false⟩
    else if plan.crashing.contains a.sourceType then ⟨s, .crashed plan.complaint, false⟩
    else
      match write s.tree a output with
      | (tree, .written path) =>
        ⟨⟨tree, s.count + 1⟩, .written path, plan.cancelAfter = some (s.count + 1)⟩
      | (tree, outcome) => ⟨{ s with tree }, outcome, false⟩
  files s := s.tree

/-- The emitter that writes source files but keeps to a plan, for texts that can be encoded. -/
def plannedEmitter (language : Language) (plan : WritePlan) : Emitter PlannedState :=
  plannedBy language (writeCompanion language) plan

end Roster
