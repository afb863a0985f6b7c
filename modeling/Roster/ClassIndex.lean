import Roster.Manifest
import Roster.Source.Declarations

/-! # Classes of a source tree

All classes of the modules below some roots, known by their full names. The first definition of a
class is kept. A class's ancestor is the first of its bases that leads to another class of the tree,
if need be through imports that pass a name on; any other base ends the chain.

* `ClassIndex.lookup?` follows such imports, at most `hopBound` times.
* `discoverClasses` gives every class a place in a graph and lists the marked ones.
-/

namespace Roster

open Source

/-- The classes by their keys, and the imports of each module by its name. -/
structure ClassIndex where
  classes : OrderedMap String ClassDeclaration
  imports : OrderedMap String ImportTable

namespace ClassIndex

/-- The index of no module. -/
def empty : ClassIndex := ⟨.empty, .empty⟩

/-! ## Adding modules -/

/-- Adds a class, unless one with its key is there. -/
def addClass (index : ClassIndex) (c : ClassDeclaration) : ClassIndex × Log :=
  if index.classes.contains c.key then
    (index, [⟨.warning, .sourceCode, "Duplicate class " ++ c.key ++ " at " ++ c.origin
      ++ "; keeping the first definition"⟩])
  else ({ index with classes := index.classes.insert c.key c }, [])

/-- Adds classes in order. -/
def addClasses (index : ClassIndex) : List ClassDeclaration → ClassIndex × Log
  | [] => (index, [])
  | c :: rest =>
    let (index, log) := index.addClass c
    let (index, more) := index.addClasses rest
    (index, log ++ more)

/-- Adds what a module declares; of two modules of one name the imports of the first are kept. -/
def addModule (index : ClassIndex) (module : String) (d : Declarations) : ClassIndex × Log :=
  { index with imports := index.imports.insertNew module d.imports }.addClasses d.classes

/-- What stands for the reason why a module cannot be read, which is not told. -/
def untoldReason : String := "<reason>"

/-- What is reported of a module that cannot be read. -/
def skipped (file : SourceFile) : LogRecord :=
  ⟨.warning, .sourceCode, "Skipping " ++ file.relativePath ++ ": " ++ untoldReason⟩

/-- What a file declares, `none` if it holds no module. -/
def declarationsIn? (t : FileTree) (file : SourceFile) : Option Declarations :=
  match t.readText file.path with
  | .error _ => none
  | .ok text => declarations? file text

/-- Adds the modules of files in order, and reports those that cannot be read. -/
def addFiles (t : FileTree) (index : ClassIndex) : List SourceFile → ClassIndex × Log
  | [] => (index, [])
  | file :: rest =>
    let (index, log) := match declarationsIn? t file with
      | none => (index, [skipped file])
      | some d => index.addModule file.module d
    let (index, more) := index.addFiles t rest
    (index, log ++ more)

/-- How the machine gives out at a file, if it does: it reads as a text, but the text is too much. A
text with a NUL is turned down before it is read any further. -/
def exhaustion? (t : FileTree) (file : SourceFile) : Option Exhaustion :=
  match t.readText file.path with
  | .error _ => none
  | .ok text => if text.toList.contains '\x00' then none else t.limits.modules text

/-- The files in front of the first one at which the machine gives out. -/
def readable (t : FileTree) (files : List SourceFile) : List SourceFile :=
  files.takeWhile fun file => (exhaustion? t file).isNone

/-- Adds the modules below roots in order, up to a root that cannot be scanned or a file at which the
machine gives out. -/
def addRoots (t : FileTree) (rules : List IgnoreRule) (index : ClassIndex) :
    List Path → ClassIndex × Log × Option ScanFault
  | [] => (index, [], none)
  | root :: rest =>
    match scan t rules root with
    | .error fault => (index, [], some fault)
    | .ok files =>
      match files.findSome? (exhaustion? t) with
      | some how =>
        let (index, log) := index.addFiles t (readable t files)
        (index, log, some (.exhausted how))
      | none =>
        let (index, log) := index.addFiles t files
        let (index, more, fault) := index.addRoots t rules rest
        (index, log ++ more, fault)

/-! ## Ancestors -/

/-- How many imports a name is followed through. -/
def hopBound : Nat := 8

/-- The imports of a module. -/
def importsOf (index : ClassIndex) (module : String) : ImportTable :=
  (index.imports.get? module).getD .empty

/-- What the imports of a module make of the name at place `i` of a dotted name whose parts in front
of it are the module's name. -/
def redirectAt? (index : ClassIndex) (parts : List String) (i : Nat) : Option String := do
  let name ← parts[i]?
  let target ← (index.importsOf (String.intercalate "." (parts.take i))).get? name
  if target = "" then none
  else some (String.intercalate "." (target :: parts.drop (i + 1)))

/-- What a dotted name is passed on to by the imports of the longest module in front of it. -/
def redirect? (index : ClassIndex) (dotted : String) : Option String :=
  let parts := splitText '.' dotted
  ((List.range parts.length).drop 1).reverse.findSome? (index.redirectAt? parts)

/-- The class that a dotted name leads to in at most `hops` steps. -/
def lookup? (index : ClassIndex) : (hops : Nat) → String → Option ClassDeclaration
  | 0, _ => none
  | hops + 1, dotted =>
    match index.classes.get? dotted with
    | some c => some c
    | none =>
      match index.redirect? dotted with
      | none => none
      | some next => if next = dotted then none else index.lookup? hops next

/-- The dotted names that a base of a class may stand for, the likeliest first. -/
def candidates (index : ClassIndex) (c : ClassDeclaration) (base : String) : List String :=
  [qualify c.module base, (index.importsOf c.module).resolve base, base]

/-- The ancestor of a class. -/
def ancestor? (index : ClassIndex) (c : ClassDeclaration) : Option ClassDeclaration :=
  (c.bases.flatMap (index.candidates c)).findSome? fun dotted =>
    (index.lookup? hopBound dotted).filter fun found => found.key ≠ c.key

/-! ## The graph -/

/-- The place of a class. -/
def placeOf? (index : ClassIndex) (key : String) : Option TypeId :=
  index.classes.keys.findIdx? (· = key)

/-- The type of a class. -/
def descriptor (index : ClassIndex) (c : ClassDeclaration) : TypeDescriptor where
  qualifiedName := c.key
  simpleName := c.name
  package := c.module
  declaredFields := c.fields.map some
  ancestor := (index.ancestor? c).bind fun a => index.placeOf? a.key
  kind := if c.interface then interfaceKind else classKind
  origin := some c.origin

/-- What is reported of the ancestor of a class. -/
def ancestorRecord (index : ClassIndex) (c : ClassDeclaration) : LogRecord :=
  match index.ancestor? c with
  | none => ⟨.debug, .sourceCode, "No superclass in source tree for " ++ c.key⟩
  | some a => ⟨.debug, .sourceCode, "Found superclass " ++ a.key ++ " for " ++ c.key⟩

/-- The places of the marked classes. -/
def markedPlaces (index : ClassIndex) : List TypeId :=
  (index.classes.values.zipIdx.filter fun e => e.1.marked).map (·.2)

/-- All classes as a graph, and the marked ones. -/
def toDiscovery (index : ClassIndex) : Discovery :=
  let found := index.markedPlaces
  { graph := .ofList (index.classes.values.map index.descriptor)
    found
    log := index.classes.values.map index.ancestorRecord
      ++ [⟨.debug, .sourceCode, "Discovered " ++ toString found.length ++ " @" ++ markName
        ++ " classes out of " ++ toString index.classes.size⟩] }

end ClassIndex

/-- A discovery that was given up: what was reported before, and why. -/
structure BrokenScan where
  log : Log
  fault : ScanFault

/-- Discovers the classes of the modules below roots. -/
def discoverClasses (t : FileTree) (rules : List IgnoreRule) (roots : List Path) :
    Except BrokenScan Discovery :=
  match ClassIndex.empty.addRoots t rules roots with
  | (_, log, some fault) => .error ⟨log, fault⟩
  | (index, log, none) =>
    let d := index.toDiscovery
    .ok { d with log := log ++ d.log }

end Roster
