import Roster.ClassIndex
import Roster.Settings

/-! # Discovery sources

Where the types of a round come from: a host's list, a manifest, or the modules of source trees. A
project names its sources; a name stands for a source of the library or for a plugin.

* `TypeSource.discover` adds what a source finds to the types that are known already.
* `chooseSources` gives each name its source, the first request deciding the order.
-/

namespace Roster

/-- A source of types. A host's own types are in the graph from the start. -/
inductive TypeSource where
  | host (name : String) (outcome : Except InputFault (List (Option TypeId)))
  | manifest (path : Path)
  | modules (roots : List Path) (exclude : List String)

/-- What a source adds: a larger graph, and the types that it finds in order. -/
structure Findings where
  graph : TypeGraph
  found : List (Option TypeId)

namespace TypeSource

/-- The name of the source that reads modules. -/
def modulesName : String := "python"

/-- The name of the source that reads a manifest. -/
def manifestName : String := "manifest"

/-- The name of a source. -/
def name : TypeSource → String
  | .host name _ => name
  | .manifest _ => manifestName
  | .modules _ _ => modulesName

/-- Adds what was discovered to the types of a graph. -/
def addDiscovery (g : TypeGraph) (d : Discovery) : Findings :=
  ⟨g.append d.graph, d.found.map fun i => some (g.size + i)⟩

/-- What a source finds, after the types of a graph, and what it reports. -/
def discover (t : FileTree) (g : TypeGraph) : TypeSource → Except InputFault Findings × Log
  | .host _ outcome => (outcome.map fun found => ⟨g, found⟩, [])
  | .manifest path =>
    match discoverManifest t path with
    | .ok d => (.ok (addDiscovery g d), d.log)
    | .error fault => (.error fault, [])
  | .modules roots exclude =>
    match discoverClasses t (excludeRules exclude) roots with
    | .ok d => (.ok (addDiscovery g d), d.log)
    | .error broken => (.error (.scan broken.fault), broken.log)

end TypeSource

/-! ## Choosing sources -/

/-- What loading a plugin gives. A factory makes a source from the settings, or something else. -/
inductive PluginLoad where
  | source (s : TypeSource)
  | factory (make : Settings → Option TypeSource)
  | other
  | broken (detail : String)

/-- A plugin under its name. -/
structure Plugin where
  name : String
  load : PluginLoad

/-- The rule that leaves the output directory out of a source tree that it lies strictly inside. -/
def outputRule? (t : FileTree) (output root : Path) : Option String :=
  match t.resolve root with
  | .error _ => none
  | .ok root =>
    match output.relativeTo? root with
    | none => none
    | some [] => none
    | some parts => some ("/" ++ String.intercalate "/" parts ++ "/")

/-- The source of a project's modules. What was written by an earlier round is no module. -/
def modulesSource (t : FileTree) (s : Settings) : Except InputFault TypeSource := do
  let roots := s.sources.map fun source => s.root / Path.parse source
  let output ← (t.resolve s.outputRoot).mapError .file
  .ok (.modules roots (s.excludePaths ++ roots.filterMap (outputRule? t output)))

/-- The source of a project's manifest. -/
def manifestSource (s : Settings) : Except InputFault TypeSource :=
  match s.manifest with
  | some path => .ok (.manifest path)
  | none => .error (.config .manifestPathMissing)

/-- The plugin of a name, the last one if several have it. -/
def pluginNamed? (plugins : List Plugin) (name : String) : Option Plugin :=
  plugins.reverse.find? fun p => Text.lowercase p.name = name

/-- The source of a plugin. -/
def pluginSource (s : Settings) (name : String) : PluginLoad → Except InputFault TypeSource
  | .source source => .ok source
  | .factory make =>
    match make s with
    | some source => .ok source
    | none => .error (.config .notASource)
  | .other => .error (.config .notASource)
  | .broken detail => .error (.config (.brokenPlugin name detail))

/-- The source of a name in lower case; a plugin never takes the name of a source of the library. -/
def sourceNamed (t : FileTree) (s : Settings) (plugins : List Plugin) (name : String) :
    Except InputFault TypeSource :=
  if name = TypeSource.modulesName then modulesSource t s
  else if name = TypeSource.manifestName then manifestSource s
  else
    match pluginNamed? plugins name with
    | some plugin => pluginSource s name plugin.load
    | none => .error (.config (.unknownSource name))

/-- The sources of names in any case, one for each name. -/
def chooseSources (t : FileTree) (s : Settings) (plugins : List Plugin) (names : List String) :
    Except InputFault (List TypeSource) :=
  (names.map Text.lowercase).eraseDups.mapM (sourceNamed t s plugins)

end Roster
