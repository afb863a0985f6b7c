import Roster.InputFault
import Roster.OrderedMap
import Roster.Text.Numeral

/-! # Settings

The settings of a project, read from a file at its root. What the file leaves out has a usual value; a
project without the file has all of them. Options are texts: words such as `no` keep their spelling.

* `Settings.ofValue` reads what the file holds.
* `loadSettings` finds and reads the file.
-/

namespace Roster

open Document (Value)

/-- The settings of a project. -/
structure Settings where
  root : Path
  sources : List String
  excludePaths : List String
  output : Option Path
  language : String
  workers : Nat
  discovery : List String
  manifest : Option Path
  options : OrderedMap String String

/-! ## Options -/

/-- The option that says whether companions are debuggable. -/
def debuggableOption : String := "fielder.debuggable"

/-- Only one word turns debugging off. -/
def isDebuggable (value : Option String) : Bool := value ≠ some "false"

/-- The key of a pair, and its value if it has an equal sign. -/
def splitPair (pair : String) : String × Option String :=
  let cs := pair.toList
  let key := cs.takeWhile (· ≠ '=')
  match cs.drop key.length with
  | _ :: value => (String.ofList key, some (String.ofList value))
  | [] => (String.ofList key, none)

/-- Adds pairs of keys and values; a pair without an equal sign has the value `true`. -/
def addOptions (options : OrderedMap String String) :
    List String → Except ConfigFault (OrderedMap String String)
  | [] => .ok options
  | pair :: rest =>
    let (key, value) := splitPair pair
    let key := Text.trimmed key
    if key = "" then .error (.optionWithoutKey pair)
    else addOptions (options.insert key (value.getD "true")) rest

/-- The options of a list of pairs. -/
def parseOptions (pairs : List String) : Except ConfigFault (OrderedMap String String) :=
  addOptions OrderedMap.empty pairs

namespace Settings

/-! ## Values of the file -/

/-- A whole number as a text. -/
def numberText (n : Int) : Except InputFault String :=
  if Text.isWritable n then .ok (toString n) else .error (.document .longNumber)

/-- A text or a number as a text; truth values have none. -/
def scalarText? : Value → Option (Except InputFault String)
  | .text s => some (.ok s)
  | .int n => some (numberText n)
  | .float x => some (.ok x.text)
  | _ => none

/-- A text or a number that is not empty, as a text. -/
def nonemptyText (v : Option Value) : Except InputFault (Option String) :=
  match v.bind scalarText? with
  | none => .ok none
  | some text => text.map fun s => if s = "" then none else some s

/-- A whole number, or a text that writes one. -/
def wholeNumber? : Value → Option Int
  | .int n => some n
  | .text s => Text.integer? s
  | _ => none

/-- The texts of a list of texts and numbers. What is neither is shown, if it can be written where
collections can be nested `nesting` deep. -/
def textsOf (nesting : Nat) (key : String) : List Value → Except InputFault (List String)
  | [] => .ok []
  | v :: rest => do
    match scalarText? v with
    | some text =>
      let s ← text
      .ok (s :: (← textsOf nesting key rest))
    | none =>
      let shown ← (v.shown? nesting).mapError .document
      .error (.config (.entryNotText key shown))

/-- A single text, or a list of texts and numbers; nothing is the empty list. -/
def textList (nesting : Nat) (key : String) : Option Value → Except InputFault (List String)
  | none => .ok []
  | some .null => .ok []
  | some (.text s) => .ok [s]
  | some v =>
    match v.items? with
    | some items => textsOf nesting key items
    | none => .error (.config (.notTexts key))

/-- An option's value as a text. -/
def optionText? : Value → Option (Except InputFault String)
  | .bool b => some (.ok (Value.bool b).shown)
  | v => scalarText? v

/-- The options of a map's entries; an option without value is left out. -/
def optionsOf (nesting : Nat) : OrderedMap String String → List (Value × Value) →
    Except InputFault (OrderedMap String String)
  | options, [] => .ok options
  | options, (_, .null) :: rest => optionsOf nesting options rest
  | options, (key, v) :: rest => do
    match optionText? v with
    | some text =>
      let s ← text
      let name ← (key.plainText? nesting).mapError .document
      optionsOf nesting (options.insert name s) rest
    | none =>
      let name ← (key.plainText? nesting).mapError .document
      .error (.config (.optionNotScalar name))

/-- The options of the file. -/
def optionMap (nesting : Nat) : Option Value → Except InputFault (OrderedMap String String)
  | none => .ok OrderedMap.empty
  | some .null => .ok OrderedMap.empty
  | some v =>
    match v.entries? with
    | some entries => optionsOf nesting OrderedMap.empty entries
    | none => .error (.config .optionsNotMapping)

/-- How many workers there are; nothing is one. -/
def workerCount : Option Value → Except InputFault Nat
  | none => .ok 1
  | some v =>
    match wholeNumber? v with
    | some n => if n < 1 then .error (.config .workersNotPositive) else .ok n.toNat
    | none => .error (.config .workersNotPositive)

/-! ## The settings -/

/-- The language when none is given. -/
def usualLanguage : String := "python"

/-- The settings of a project without a file. -/
def usual (root : Path) : Settings :=
  ⟨root, ["."], [], none, usualLanguage, 1, ["python"], none, OrderedMap.empty⟩

/-- A list, or another one if it is empty. -/
def orElse (list other : List String) : List String := if list.isEmpty then other else list

/-- The settings that a file's value gives to the project at `root`. Values can be written where they
are nested `nesting` deep. -/
def ofValue (nesting : Nat) (root : Path) (v : Value) : Except InputFault Settings := do
  match v with
  | .map _ =>
    let sources ← textList nesting "sources" (v.field? "sources")
    let excludePaths ← textList nesting "exclude_paths" (v.field? "exclude_paths")
    let output ← nonemptyText (v.field? "output")
    let language ← nonemptyText (v.field? "language")
    let workers ← workerCount (v.field? "workers")
    let discovery ← textList nesting "discovery" (v.field? "discovery")
    let manifest ← nonemptyText (v.field? "manifest")
    let options ← optionMap nesting (v.field? "options")
    .ok {
      root
      sources := orElse sources ["."]
      excludePaths
      output := output.map fun s => root / Path.parse s
      language := (language.map Text.lowercase).getD usualLanguage
      workers
      discovery := orElse (discovery.map Text.lowercase)
        [if manifest.isSome then "manifest" else "python"]
      manifest := manifest.map fun s => root / Path.parse s
      options }
  | _ => .error (.config .settingsNotMapping)

/-- The directory that companions are written to. -/
def outputRoot (s : Settings) : Path := s.output.getD (s.root / Path.parse "generated")

/-- Whether the options leave companions debuggable. -/
def debuggable (s : Settings) : Bool := isDebuggable (s.options.get? debuggableOption)

end Settings

/-! ## The settings file -/

/-- The settings file for a path: in it if it is a directory, itself if it has the ending of a
settings file, else beside it. -/
def settingsPath (t : FileTree) (path : Path) : Except InputFault Path := do
  let some path := path.expandHome t.home | .error .unknownHome
  let file := Path.parse ConfigFault.settingsFile
  let found :=
    if ← (t.isDirectory? path).mapError .file then path / file
    else if path.suffix = ".yml" || path.suffix = ".yaml" then path
    else path.parent / file
  (t.resolve found).mapError .file

/-- What the settings file holds; a blank one holds an empty map. -/
def readSettingsFile (t : FileTree) (path : Path) : Except InputFault Value := do
  let text ← (t.readText path).mapError .ofRead
  if Text.trimmed text = "" then .ok (.map [])
  else
    match ← t.readDocument false path.name text with
    | .null => .ok (.map [])
    | v => .ok v

/-- The settings of the project at a path. -/
def loadSettings (t : FileTree) (path : Path) : Except InputFault Settings := do
  let file ← settingsPath t path
  let root := file.parent
  if ← (t.exists? file).mapError .file then
    Settings.ofValue t.limits.nesting root (← readSettingsFile t file)
  else .ok (Settings.usual root)

end Roster
