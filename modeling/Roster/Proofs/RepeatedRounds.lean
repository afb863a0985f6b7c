import Mathlib.Data.List.Infix
import Roster.CommandLine
import Roster.Proofs.Completeness
import Roster.Proofs.DiscoveredCompanions
import Roster.Proofs.EncodedCompanions
import Roster.Proofs.RepeatedDelivery
import Roster.Proofs.SettingsFile
import Roster.Proofs.WorkerOrder

/-! # Rounds that are repeated

A round that writes companions changes the tree that the next round reads. If the output directory
stays out of the scans and can be made whole, the next round reads the same settings, discovers the
same classes, makes the same companions and meets the same fate with each of them. So it reports the
same and changes nothing.

* `Round.run_twice`: a round whose sources discover the same once more.
* `ModuleProject`: a project whose output directory stays out of the scans of its modules.
* `projectRound_twice`: the round of a project, from its settings to its files.
* `projectRound_unsteady`: projects whose second round differs from the first one.
-/

namespace Roster

/-! ## Rounds with the same types -/

namespace Round

open FileTree

variable {t t' : FileTree} {g : TypeGraph} {setup : RoundSetup} {output : Path}

/-- A round after which the same is discovered, and whose companions fit below an output directory
that is ready, leaves nothing to do for the same round. -/
theorem run_twice (schedule schedule' : List Nat) (hready : OutputReady t output)
    (hfits : ∀ a ∈ (inspect setup schedule t g).1.artifacts.values, a.Fits)
    (hdiscover : discoverFrom (run setup filesOf schedule g t (filesTo output)).2.1.state []
        g setup.sources = discoverFrom t [] g setup.sources) :
    let first := run setup filesOf schedule g t (filesTo output)
    let second := run setup filesOf schedule' g first.2.1.state (filesTo output)
    second.1 = first.1 ∧ second.2.1.state = first.2.1.state := by
  intro first second
  have hinspect : (inspect setup schedule' first.2.1.state g).1 = (inspect setup schedule t g).1 :=
    inspect_again hdiscover schedule schedule'
  have hnames := nodup_names_run setup filesOf schedule g t (filesTo output)
  rw [artifacts_run] at hnames
  obtain ⟨hwritten, hdiagnostics⟩ := reports_twice t hready hfits hnames
  have hstate := (emit_twice t hready hfits).1
  constructor
  · change withEmission (inspect setup schedule' first.2.1.state g).1 (emit filesOf (filesTo output)
      (.start first.2.1.state false)
      (inspect setup schedule' first.2.1.state g).1.artifacts.values) = _
    rw [hinspect, withEmission]
    change _ = withEmission (inspect setup schedule t g).1 _
    rw [withEmission]
    exact congrArg₂ (fun written diagnostics => RoundResult.mk _ _ written diagnostics) hwritten
      (congrArg _ hdiagnostics)
  · change (emit filesOf (filesTo output) (.start first.2.1.state false)
      (inspect setup schedule' first.2.1.state g).1.artifacts.values).state = _
    rw [hinspect]
    exact hstate

/-! ## Rounds that read modules -/

section Modules

variable {roots : List Path} {patterns : List String} {bound : WalkBound} {debuggable : Bool}
  {workers : Nat}

/-- The set-up of a round that reads modules. -/
abbrev readingModules (roots : List Path) (patterns : List String) (bound : WalkBound)
    (debuggable : Bool) (workers : Nat) : RoundSetup :=
  ⟨[.modules roots patterns], bound, debuggable, workers⟩

/-- A round that cannot read its modules makes no companion. -/
theorem artifacts_inspect_of_error (schedule : List Nat) {broken : BrokenScan}
    (h : discoverClasses t (excludeRules patterns) roots = .error broken) :
    (inspect (readingModules roots patterns bound debuggable workers) schedule t g).1.artifacts
      = .empty := by
  refine (inspect_of_unreadable _ schedule g fun hread => ?_).1
  obtain ⟨findings, hfindings⟩ := hread _ List.mem_cons_self
  simp [TypeSource.discover, h] at hfindings

/-- The companions of the classes that a round discovers in a sound tree fit below an output
directory. -/
theorem fits_of_mem_inspect (ht : t.Sound) (schedule : List Nat) {a : Artifact}
    (ha : a ∈ (inspect (readingModules roots patterns bound debuggable workers) schedule t
      .empty).1.artifacts.values) : a.Fits := by
  cases hdiscover : discoverClasses t (excludeRules patterns) roots with
  | error broken =>
    rw [artifacts_inspect_of_error schedule hdiscover] at ha
    contradiction
  | ok d =>
    have hfinds : Finds t .empty (readingModules roots patterns bound debuggable workers).sources
        (TypeSource.addDiscovery .empty d).graph ((TypeSource.addDiscovery .empty d).found ++ []) :=
      .more (by rw [TypeSource.discover, hdiscover]) .nothing
    rw [(inspect_of_finds _ schedule .empty hfinds).2.1] at ha
    obtain ⟨⟨i, a'⟩, hentry, rfl⟩ := List.mem_map.mp ha
    have hown := get?_process schedule (nodup_eraseDups _) (OrderedMap.get?_of_mem hentry)
    obtain ⟨type, names, htype, -, rfl⟩ := ownCompanion?_eq_some_iff.mp hown
    -- without types before them, those of the discovery keep their places
    have happend := TypeGraph.get?_append_right .empty d.graph i
    rw [show TypeGraph.empty.size + i = i from Nat.zero_add i] at happend
    rw [Option.bind_some, TypeSource.addDiscovery, happend, Option.map_eq_some_iff] at htype
    obtain ⟨found, hfound, rfl⟩ := htype
    exact fits_of_discoverClasses ht hdiscover hfound names debuggable

end Modules

end Round

/-! ## Projects that read modules -/

open FileTree

variable {t t' : FileTree} {s : Settings} {path expanded output top : Path}

theorem resolve_congr (h : t'.current = t.current) (p : Path) : t'.resolve p = t.resolve p := by
  rw [FileTree.resolve, FileTree.resolve, h]

theorem outputRule?_congr (h : t'.current = t.current) : outputRule? t' = outputRule? t := by
  funext output root
  rw [outputRule?, outputRule?, resolve_congr h]

theorem modulesSource_congr (h : t'.current = t.current) (s : Settings) :
    modulesSource t' s = modulesSource t s := by
  rw [modulesSource, modulesSource, resolve_congr h, outputRule?_congr h]

/-- The round of a project that reads modules, and nothing else. -/
theorem jobOf_modules {source : TypeSource}
    (hdiscovery : (s.discovery.map Text.lowercase).eraseDups = [TypeSource.modulesName])
    (hlanguage : Language.ofName? s.language = some .python)
    (hsource : modulesSource t s = .ok source) :
    CommandLine.jobOf t s = .ok ⟨s, ⟨[source], .standard, s.debuggable, s.workers⟩, .python⟩ := by
  have hnamed : sourceNamed t s [] TypeSource.modulesName = .ok source := by
    rw [sourceNamed, if_pos rfl, hsource]
  simp only [CommandLine.jobOf, chooseSources, hdiscovery, List.mapM_cons, List.mapM_nil, hnamed,
    hlanguage, bind, Except.bind, pure, Except.pure]

/-- The source roots of a project. -/
def Settings.roots (s : Settings) : List Path :=
  s.sources.map fun source => s.root / Path.parse source

/-- A project that reads modules and nothing else, and writes companions as source files into an
output directory that is neither a source root nor above one. The output path below a source root has
no opening bracket, which would make its rule a wildcard. -/
structure ModuleProject (t : FileTree) (path : Path) (s : Settings) (output : Path) : Prop where
  sound : t.Sound
  there : ∃ expanded, path.expandHome t.home = some expanded ∧ t.exists? expanded = .ok true
  settings : loadSettings t path = .ok s
  discovery : (s.discovery.map Text.lowercase).eraseDups = [TypeSource.modulesName]
  language : Language.ofName? s.language = some .python
  resolved : t.resolve s.outputRoot = .ok output
  outside : ∀ root ∈ s.roots, ∀ top, t.resolve root = .ok top → ¬ output.parts <+: top.parts
  plain : ∀ root ∈ s.roots, ∀ names, OutputBelow t output root names →
    '[' ∉ (Path.joined names).toList

/-- No directory on the way to the output directory takes the place of a source root's ignore file
that is missing. -/
def Settings.SparesIgnoreFiles (s : Settings) (t : FileTree) : Prop :=
  ∀ root ∈ s.roots, ∀ top, t.resolve root = .ok top →
    t.OnWay s.outputRoot (top.parts ++ [".gitignore"]) → t.get? (top.parts ++ [".gitignore"]) ≠ none

theorem parts_of_resolve (h : t.resolve path = .ok output) :
    output = ⟨.slash, t.destination path⟩ := by
  unfold FileTree.resolve at h
  split at h
  · contradiction
  · exact (Except.ok.inj h).symm

theorem expandHome_of_isAbsolute (h : path.isAbsolute = true) (home : Place) :
    path.expandHome home = some path := by
  unfold Path.expandHome
  split
  · rename_i hroot hparts
    rw [Path.isAbsolute, hroot] at h
    contradiction
  · rfl

namespace ModuleProject

section Project

variable (h : ModuleProject t path s output)

include h

theorem isAbsolute : s.root.isAbsolute = true ∧ s.outputRoot.isAbsolute = true := by
  obtain ⟨expanded, hhome, hexists⟩ := h.there
  obtain ⟨hroot, houtput, -⟩ := outputRoot_of_loadSettings h.sound hhome hexists h.settings
  exact ⟨hroot, houtput⟩

theorem outputReady (hopens : t.Opens s.outputRoot) : OutputReady t s.outputRoot := by
  obtain ⟨expanded, hhome, hexists⟩ := h.there
  obtain ⟨-, houtput, hnames⟩ := outputRoot_of_loadSettings h.sound hhome hexists h.settings
  exact ⟨h.sound, houtput, hnames, hopens⟩

theorem parts_output : output.parts = t.destination s.outputRoot := by
  rw [parts_of_resolve h.resolved]

theorem isName {name : String} (hname : name ∈ t.destination s.outputRoot) : Path.IsName name := by
  obtain ⟨expanded, hhome, hexists⟩ := h.there
  obtain ⟨-, houtput, hnames⟩ := outputRoot_of_loadSettings h.sound hhome hexists h.settings
  rcases Path.mem_normalise hname with hstart | ⟨hpart, -⟩
  · rw [if_pos houtput] at hstart
    contradiction
  · exact hnames name hpart

/-- The scan of a source root starts at the directory that the root's path names. -/
theorem resolve_root (hcurrent : t'.current = t.current) {root : Path} (hroot : root ∈ s.roots)
    {rules : List IgnoreRule} (hscans : ScansFrom t' root top rules) : t.resolve root = .ok top := by
  obtain ⟨source, -, rfl⟩ := List.mem_map.mp hroot
  obtain ⟨expanded, hexpanded, htop⟩ := hscans.resolved
  rw [expandHome_of_isAbsolute ((Path.isAbsolute_join ..).mpr (.inl h.isAbsolute.1))] at hexpanded
  rwa [← Option.some.inj hexpanded, resolve_congr hcurrent] at htop

/-- The output directory is kept apart from the scan of each source root. -/
theorem keptApart (hspares : s.SparesIgnoreFiles t) {root : Path} (hroot : root ∈ s.roots)
    (htop : t.resolve root = .ok top) :
    KeptApart t s.outputRoot (excludeRules (s.roots.filterMap (outputRule? t output))) top.parts := by
  have houtside := h.outside root hroot top htop
  rw [h.parts_output] at houtside
  refine ⟨houtside, fun names hnames => ?_, hspares root hroot top htop⟩
  have hbelow : OutputBelow t output root names := by
    refine ⟨?_, top, htop, (relativeTo?_eq_some_iff ..).mpr ⟨?_, h.parts_output.trans hnames⟩⟩
    · rintro rfl
      rw [List.append_nil] at hnames
      exact houtside (hnames ▸ List.prefix_refl _)
    · rw [parts_of_resolve htop, parts_of_resolve h.resolved]
  exact ⟨(mem_outputRules_iff ..).mpr ⟨root, hroot, names, hbelow, rfl⟩,
    h.plain root hroot names hbelow⟩

/-- The same classes are discovered after companions were written. -/
theorem discoverClasses_again (hspares : s.SparesIgnoreFiles t) (ht' : t'.Sound)
    (hgrows : GrowsFor s.outputRoot t t') {roots : List Path} {patterns : List String}
    (hsource : modulesSource t s = .ok (.modules roots patterns)) {d : Discovery}
    (hdiscover : discoverClasses t (excludeRules patterns) roots = .ok d) :
    discoverClasses t' (excludeRules patterns) roots = .ok d := by
  obtain ⟨rfl, hpatterns⟩ := excludeRules_of_modulesSource hsource h.resolved
  rw [hpatterns] at hdiscover ⊢
  refine discoverClasses_kept h.sound ht' hgrows (fun name => h.isName)
    (shutsFolders_outputRules t output _) (fun root hroot top rules hscans => ?_) hdiscover
  exact h.keptApart hspares hroot (h.resolve_root rfl hroot hscans)

/-- No module that is scanned lies below the output directory, whatever is there by now. -/
theorem not_below (hspares : s.SparesIgnoreFiles t) (hcurrent : t'.current = t.current)
    {roots : List Path} {patterns : List String}
    (hsource : modulesSource t' s = .ok (.modules roots patterns)) {root : Path} (hroot : root ∈ roots)
    {files : List SourceFile} (hfiles : scan t' (excludeRules patterns) root = .ok files)
    {f : SourceFile} (hf : f ∈ files) : ¬ (output.parts <+: f.place ∧ output.parts ≠ f.place) := by
  rw [modulesSource_congr hcurrent] at hsource
  obtain ⟨rfl, hpatterns⟩ := excludeRules_of_modulesSource hsource h.resolved
  obtain ⟨top, rules, hscans⟩ := exists_scansFrom hfiles
  have hapart := h.keptApart hspares hroot (h.resolve_root hcurrent hroot hscans)
  obtain ⟨names, -, hreaches, rfl⟩ := (hscans.mem_iff hfiles f).mp hf
  rw [hpatterns] at hreaches
  rw [h.parts_output]
  rintro ⟨⟨more, hmore⟩, hne⟩
  refine hapart.not_below (fun name => h.isName) (shutsFolders_outputRules t _ _) hreaches more ?_
    hmore.symm
  rintro rfl
  rw [List.append_nil] at hmore
  exact hne hmore

end Project

end ModuleProject

/-! ## The round of a project -/

/-- The round that writes the companions of the project at a path: the tree after it, and what came of
it. -/
def projectRound (t : FileTree) (path : Path) (schedule : List Nat) :
    Except InputFault (FileTree × RoundResult) := do
  let settings ← loadSettings t path
  let job ← CommandLine.jobOf t settings
  let (after, result, _, _) :=
    CommandLine.perform t job schedule (.generate ⟨none, none, none, []⟩ false)
  .ok (after, result)

/-- The round of a project that reads modules, once its settings are known. -/
theorem projectRound_eq (hload : loadSettings t path = .ok s)
    (hdiscovery : (s.discovery.map Text.lowercase).eraseDups = [TypeSource.modulesName])
    (hlanguage : Language.ofName? s.language = some .python) {roots : List Path}
    {patterns : List String} (hsource : modulesSource t s = .ok (.modules roots patterns))
    (schedule : List Nat) :
    projectRound t path schedule =
      let round := Round.run (Round.readingModules roots patterns .standard s.debuggable s.workers)
        Round.filesOf schedule .empty t (Round.filesTo s.outputRoot)
      .ok (round.2.1.state, round.1) := by
  rw [projectRound, hload]
  simp only [bind, Except.bind, jobOf_modules hdiscovery hlanguage hsource, CommandLine.perform]
  rfl

/-- What a round leaves is sound, has nothing new but what was made for the output directory, and has
the same classes to discover. -/
theorem ModuleProject.after_run (h : ModuleProject t path s output)
    (hspares : s.SparesIgnoreFiles t) (hopens : t.Opens s.outputRoot) {roots : List Path}
    {patterns : List String} (hsource : modulesSource t s = .ok (.modules roots patterns))
    (schedule : List Nat) :
    let setup := Round.readingModules roots patterns .standard s.debuggable s.workers
    let after :=
      (Round.run setup Round.filesOf schedule .empty t (Round.filesTo s.outputRoot)).2.1.state
    GrowsFor s.outputRoot t after ∧ after.Sound ∧
      Round.discoverFrom after [] .empty setup.sources
        = Round.discoverFrom t [] .empty setup.sources := by
  intro setup after
  obtain ⟨hgrows, hafter⟩ : GrowsFor s.outputRoot t after ∧ OutputReady after s.outputRoot :=
    Round.emit_ready (s := .start t false) rfl (h.outputReady hopens) fun a ha =>
      Round.fits_of_mem_inspect h.sound schedule ha
  refine ⟨hgrows, hafter.sound, ?_⟩
  cases hclasses : discoverClasses t (excludeRules patterns) roots with
  | error broken =>
    -- without companions nothing was written
    have hsame : after = t := by
      change (Round.emit _ _ _ (Round.inspect setup schedule t .empty).1.artifacts.values).state = t
      rw [Round.artifacts_inspect_of_error schedule hclasses]
      rfl
    rw [hsame]
  | ok d =>
    have hagain := h.discoverClasses_again hspares hafter.sound hgrows hsource hclasses
    simp only [setup, Round.discoverFrom, TypeSource.discover, hclasses, hagain]

/-- The round of a project is the same once more and leaves all files as they are, however its workers
report: if no directory on the way to the output directory takes the place of an ignore file, and if
making the output directory leaves nothing behind where it fails. No module that is scanned by then
lies below the output directory. -/
theorem projectRound_twice (h : ModuleProject t path s output) (hspares : s.SparesIgnoreFiles t)
    (hopens : t.Opens s.outputRoot) (schedule schedule' : List Nat) :
    ∃ after result, projectRound t path schedule = .ok (after, result) ∧
      projectRound after path schedule' = .ok (after, result) ∧
      ∀ roots patterns, modulesSource after s = .ok (.modules roots patterns) →
        ∀ root ∈ roots, ∀ files, scan after (excludeRules patterns) root = .ok files →
          ∀ f ∈ files, ¬ (output.parts <+: f.place ∧ output.parts ≠ f.place) := by
  obtain ⟨roots, patterns, hsource⟩ : ∃ roots patterns,
      modulesSource t s = .ok (.modules roots patterns) := by
    rw [modulesSource, h.resolved]
    exact ⟨_, _, rfl⟩
  have hfits : ∀ a ∈ (Round.inspect (Round.readingModules roots patterns .standard s.debuggable
      s.workers) schedule t .empty).1.artifacts.values, a.Fits :=
    fun a ha => Round.fits_of_mem_inspect h.sound schedule ha
  -- the first round leaves the settings and the classes as they were, so the second is the same round
  obtain ⟨hgrows, hafter, hdiscover⟩ := h.after_run hspares hopens hsource schedule
  obtain ⟨hresult, hstate⟩ :=
    Round.run_twice schedule schedule' (h.outputReady hopens) hfits hdiscover
  refine ⟨_, _, projectRound_eq h.settings h.discovery h.language hsource schedule, ?_,
    fun roots' patterns' hsource' root hroot files hfiles f hf =>
      h.not_below hspares hgrows.current hsource' hroot hfiles hf⟩
  obtain ⟨expanded, hhome, hexists⟩ := h.there
  have hload := loadSettings_kept h.sound hhome hexists h.settings hgrows hafter
  have hsource' := (modulesSource_congr hgrows.current s).trans hsource
  rw [projectRound_eq hload h.discovery h.language hsource' schedule']
  exact congrArg Except.ok (Prod.ext hstate hresult)

/-! ## A project with one class -/

section Sample

open Round

variable {settings : String} {others : List (Place × FileEntry)} {out : List String}

/-- A tree with a settings file, a class in a package, and others beside them. -/
def sample (settings : String) (others : List (Place × FileEntry)) : FileTree where
  entries := [(["p"], .directory), (["p", ".fielder.yml"], .file settings.toUTF8),
    (["p", "src"], .directory), (["p", "src", "a"], .directory),
    (["p", "src", "a", "b.py"], .file "@fieldable\nclass X:\n    c: int\n".toUTF8)] ++ others
  current := ["p"]
  home := []

/-- Where the project is. -/
def samplePath : Path := ⟨.slash, ["p"]⟩

/-- Its source root. -/
def sampleRoot : Path := ⟨.slash, ["p", "src"]⟩

/-- Its module. -/
def sampleModule : SourceFile := ⟨["p", "src", "a", "b.py"], "a/b.py", "a.b"⟩

/-- The types of its class. -/
def sampleGraph : TypeGraph :=
  .ofList [⟨"a.b.X", "X", "a.b", [some "c"], none, classKind, some "a/b.py:2"⟩]

/-- The settings of the project, with an output directory. -/
structure SampleSettings (out : List String) (s : Settings) : Prop where
  root : s.root = samplePath
  sources : s.sources = ["src"]
  excludePaths : s.excludePaths = []
  outputRoot : s.outputRoot = ⟨.slash, "p" :: out⟩
  language : s.language = "python"
  discovery : s.discovery = ["python"]
  workers : s.workers = 1
  debuggable : s.debuggable = true

instance (out : List String) : DecidablePred (SampleSettings out) := fun s =>
  decidable_of_iff (s.root = samplePath ∧ s.sources = ["src"] ∧ s.excludePaths = [] ∧
      s.outputRoot = ⟨.slash, "p" :: out⟩ ∧ s.language = "python" ∧ s.discovery = ["python"] ∧
      s.workers = 1 ∧ s.debuggable = true)
    ⟨fun ⟨h₁, h₂, h₃, h₄, h₅, h₆, h₇, h₈⟩ => ⟨h₁, h₂, h₃, h₄, h₅, h₆, h₇, h₈⟩,
      fun ⟨h₁, h₂, h₃, h₄, h₅, h₆, h₇, h₈⟩ => ⟨h₁, h₂, h₃, h₄, h₅, h₆, h₇, h₈⟩⟩

/-- Whether a tree has settings of the project, with an output directory. -/
def hasSettings (out : List String) (t : FileTree) : Bool :=
  match loadSettings t samplePath with
  | .ok s => SampleSettings out s
  | .error _ => false

theorem exists_settings {t : FileTree} (h : hasSettings out t = true) :
    ∃ s, loadSettings t samplePath = .ok s ∧ SampleSettings out s := by
  unfold hasSettings at h
  split at h
  · rename_i s hload
    exact ⟨s, hload, of_decide_eq_true h⟩
  · contradiction

theorem SampleSettings.roots {s : Settings} (h : SampleSettings out s) : s.roots = [sampleRoot] := by
  rw [Settings.roots, h.root, h.sources]
  decide

/-- The project reads modules only, if its output directory is kept out. -/
theorem moduleProject_sample {s : Settings} {output : Path} (ht : (sample settings others).Sound)
    (hload : loadSettings (sample settings others) samplePath = .ok s) (hs : SampleSettings out s)
    (hresolve : (sample settings others).resolve ⟨.slash, "p" :: out⟩ = .ok output)
    (houtside : ¬ output.parts <+: ["p", "src"])
    (hplain : (output.relativeTo? sampleRoot).all (fun names => '[' ∉ (Path.joined names).toList)) :
    ModuleProject (sample settings others) samplePath s output where
  sound := ht
  there := ⟨samplePath, rfl, rfl⟩
  settings := hload
  discovery := by
    rw [hs.discovery]
    decide
  language := by
    rw [hs.language]
    decide
  resolved := by rwa [hs.outputRoot]
  outside := by
    rw [hs.roots]
    intro root hroot top htop
    obtain rfl := List.mem_singleton.mp hroot
    obtain rfl := Except.ok.inj htop
    exact houtside
  plain := by
    rw [hs.roots]
    rintro root hroot names ⟨-, base, hbase, hrelative⟩
    obtain rfl := List.mem_singleton.mp hroot
    obtain rfl := Except.ok.inj hbase
    have hnames : output.relativeTo? sampleRoot = some names := hrelative
    rw [hnames] at hplain
    simpa using hplain

theorem sparesIgnoreFiles_sample {s : Settings} (hs : SampleSettings out s)
    (h : ∀ above ∈ ("p" :: out).inits, Path.normalise [] above ≠ ["p", "src", ".gitignore"]) :
    s.SparesIgnoreFiles (sample settings others) := by
  rw [Settings.SparesIgnoreFiles, hs.roots, hs.outputRoot]
  intro root hroot top htop
  obtain rfl := List.mem_singleton.mp hroot
  obtain rfl := Except.ok.inj htop
  rintro ⟨above, habove, hplace⟩
  exact absurd hplace.symm (h above ((List.mem_inits above _).mpr habove))

/-- A project whose output directory lies below its source root. -/
theorem projectRound_twice_inside :
    let t := sample "sources: [src]\noutput: src/gen\n" []
    ∃ s output, ModuleProject t samplePath s output ∧ s.SparesIgnoreFiles t ∧ t.Opens s.outputRoot ∧
      ∃ after result, projectRound t samplePath [] = .ok (after, result) ∧
        projectRound after samplePath [] = .ok (after, result) ∧
        ∀ roots patterns, modulesSource after s = .ok (.modules roots patterns) →
          ∀ root ∈ roots, ∀ files, scan after (excludeRules patterns) root = .ok files →
            ∀ f ∈ files, ¬ (output.parts <+: f.place ∧ output.parts ≠ f.place) := by
  intro t
  obtain ⟨s, hload, hs⟩ : ∃ s, loadSettings t samplePath = .ok s ∧ SampleSettings ["src", "gen"] s :=
    exists_settings (by decide +kernel)
  have hproject : ModuleProject t samplePath s ⟨.slash, ["p", "src", "gen"]⟩ :=
    moduleProject_sample (by decide) hload hs rfl (by decide) (by decide)
  have hspares : s.SparesIgnoreFiles t := sparesIgnoreFiles_sample hs (by decide)
  have hopens : t.Opens s.outputRoot := by
    rw [hs.outputRoot]
    exact opens_of_makeDirectoryIfNew rfl
  exact ⟨s, _, hproject, hspares, hopens, projectRound_twice hproject hspares hopens [] []⟩

/-- The companion of the class. -/
def sampleCompanions : List Artifact :=
  (process ⟨[], .standard, true, 1⟩ [] sampleGraph [some 0]).1.values

/-- It can be encoded. -/
theorem encodes_sampleCompanions : ∀ a ∈ sampleCompanions, a.Encodes := by
  have hall : sampleCompanions.all (fun a => Text.encodes a.package && Text.encodes a.name &&
      Text.encodes a.sourceType) = true := by
    decide +kernel
  intro a ha
  have hencodes := List.all_eq_true.mp hall a ha
  simp only [Bool.and_eq_true] at hencodes
  exact ⟨hencodes.1.1, hencodes.1.2, hencodes.2⟩

/-- What is left and reported when the companion is delivered. -/
def delivered (out : List String) (t : FileTree) : Emission FileTree :=
  emit (fileEmitter .python) (filesTo ⟨.slash, "p" :: out⟩) (.start t false) sampleCompanions

/-- What is processed does not depend on the sources of a round. -/
theorem process_sources (sources sources' : List TypeSource) (bound : WalkBound) (debuggable : Bool)
    (workers : Nat) (schedule : List Nat) (g : TypeGraph) (types : List (Option TypeId)) :
    process ⟨sources, bound, debuggable, workers⟩ schedule g types
      = process ⟨sources', bound, debuggable, workers⟩ schedule g types := rfl

/-- A tree has the module of the project, on a machine that takes it in. -/
structure HasModule (t : FileTree) : Prop where
  find : t.find sampleModule.path = (sample "" []).find sampleModule.path
  limits : t.limits = .ample

/-- The class of the project is found wherever its module is. -/
theorem finds_sample {t : FileTree} {patterns : List String}
    (hscan : scan t (excludeRules patterns) sampleRoot = .ok [sampleModule])
    (hmodule : HasModule t) :
    Finds t .empty [.modules [sampleRoot] patterns] sampleGraph [some 0] := by
  have hfiles : ClassIndex.scannedFiles? t (excludeRules patterns) [sampleRoot]
      = .ok [sampleModule] := by
    rw [ClassIndex.scannedFiles?, hscan]
    rfl
  -- the index depends on the text of the one module only, which is the same
  have hindex : ClassIndex.indexOf t [sampleModule]
      = ClassIndex.indexOf (sample "" []) [sampleModule] := by
    have hread : ∀ f ∈ [sampleModule],
        ClassIndex.declarationsIn? t f = ClassIndex.declarationsIn? (sample "" []) f := by
      intro f hf
      rw [List.mem_singleton.mp hf, ClassIndex.declarationsIn?, ClassIndex.declarationsIn?,
        readText_congr hmodule.find]
    rw [ClassIndex.indexOf, ClassIndex.indexOf, addFiles_congr hread]
  have htaken : ClassIndex.TakesIn t [sampleModule] :=
    ClassIndex.takesIn_of_unlimited (fun _ => by rw [hmodule.limits]; rfl) _
  have hgraph : TypeGraph.empty.append
      (ClassIndex.indexOf (sample "" []) [sampleModule]).toDiscovery.graph = sampleGraph :=
    congrArg TypeGraph.mk (by decide +kernel)
  have hfound : (ClassIndex.indexOf (sample "" []) [sampleModule]).toDiscovery.found.map
      (fun i => some (TypeGraph.empty.size + i)) = [some 0] := by
    decide +kernel
  have hdiscover : (TypeSource.discover t .empty (.modules [sampleRoot] patterns)).1
      = .ok ⟨sampleGraph, [some 0]⟩ := by
    simp only [TypeSource.discover, discoverClasses, ClassIndex.addRoots_empty hfiles htaken,
      hindex, TypeSource.addDiscovery, hgraph, hfound]
  exact .more hdiscover .nothing

/-- The round of the project, once its settings are known. -/
theorem projectRound_sample {t : FileTree} {s : Settings} {output : Path}
    (hload : loadSettings t samplePath = .ok s) (hs : SampleSettings out s)
    (hresolve : t.resolve ⟨.slash, "p" :: out⟩ = .ok output) :
    projectRound t samplePath [] =
      let patterns := [sampleRoot].filterMap (outputRule? t output)
      let round := run (readingModules [sampleRoot] patterns .standard true 1) filesOf [] .empty t
        (filesTo ⟨.slash, "p" :: out⟩)
      .ok (round.2.1.state, round.1) := by
  have hsource : modulesSource t s
      = .ok (.modules [sampleRoot] ([sampleRoot].filterMap (outputRule? t output))) := by
    have hroots : s.sources.map (fun source => s.root / Path.parse source) = [sampleRoot] := hs.roots
    rw [modulesSource, hs.outputRoot, hresolve, hroots, hs.excludePaths]
    rfl
  have hround := projectRound_eq hload (by rw [hs.discovery]; decide)
    (by rw [hs.language]; decide) hsource []
  rwa [hs.debuggable, hs.workers, hs.outputRoot] at hround

/-- What comes of the round of the project if its module is found. -/
theorem run_sample {t : FileTree} {patterns : List String}
    (hscan : scan t (excludeRules patterns) sampleRoot = .ok [sampleModule])
    (hmodule : HasModule t) (out : List String) :
    let round := run (readingModules [sampleRoot] patterns .standard true 1) filesOf [] .empty t
      (filesTo ⟨.slash, "p" :: out⟩)
    round.2.1.state = (delivered out t).state ∧ round.1.artifacts.values = sampleCompanions ∧
      errorsOf round.1.diagnostics = errorsOf (delivered out t).report.diagnostics := by
  intro round
  obtain ⟨-, hartifacts, herrors⟩ := inspect_of_finds
    (readingModules [sampleRoot] patterns .standard true 1) [] .empty (finds_sample hscan hmodule)
  have hone : [some 0].eraseDups = [some (0 : TypeId)] := rfl
  rw [hone, process_sources _ []] at hartifacts herrors
  have hvalues := congrArg OrderedMap.values hartifacts
  rw [← sampleCompanions] at hvalues
  have hclean :
      errorsOf (process ⟨[], .standard, true, 1⟩ [] sampleGraph [some 0]).2.diagnostics = [] := by
    rfl
  have hround : round = run (readingModules [sampleRoot] patterns .standard true 1)
      (fileEmitter .python) [] .empty t (filesTo ⟨.slash, "p" :: out⟩) := by
    refine run_sourceEmitter _ _ _ _ _ ?_
    rw [hvalues]
    exact encodes_sampleCompanions
  have hfiles : (fileEmitter .python).files t = t := rfl
  rw [hround]
  refine ⟨?_, ?_, ?_⟩
  · rw [delivered, ← hvalues]
    rfl
  · rw [artifacts_run, hfiles, hvalues]
  · rw [diagnostics_run, errorsOf_append, hfiles, herrors, hclean, List.nil_append, delivered,
      ← hvalues]

/-- The module is found below the source root. -/
theorem scan_sample (hsrc : (sample settings others).namesIn ["p", "src"] = [("a", .directory)])
    {code : ByteArray}
    (ha : (sample settings others).namesIn ["p", "src", "a"] = [("b.py", .file code)])
    (hignore : (sample settings others).get? ["p", "src", ".gitignore"] = none)
    {rules : List IgnoreRule} (hfolder : ignored rules "a" true = false)
    (hfile : ignored rules "a/b.py" false = false) :
    scan (sample settings others) rules sampleRoot = .ok [sampleModule] := by
  have hrules : ignoreFileRules (sample settings others) (sampleRoot / Path.parse ".gitignore")
      = .ok [] := by
    have hplace : (sample settings others).placeOf (sampleRoot / Path.parse ".gitignore")
        = .ok ["p", "src", ".gitignore"] := rfl
    have hmissing : (sample settings others).exists? (sampleRoot / Path.parse ".gitignore")
        = .ok false := by
      simp [exists?, find, hplace, hignore, bind, Except.bind]
    rw [ignoreFileRules, hmissing]
  have hending : "b.py".endsWith ".py" = true := by decide +kernel
  have hinner : (sample settings others).entries.length = others.length + 4 + 1 := rfl
  -- one file is below the root, and the rules keep neither it nor its directory back
  have hbelow : modulesBelow (sample settings others) rules
      ((sample settings others).entries.length + 1) ["p", "src"] ""
        = [(["p", "src", "a", "b.py"], "a/b.py")] := by
    have hfile' : ignored rules (entryPath "a" "b.py") false = false := hfile
    have hfolder' : ignored rules (entryPath "" "a") true = false := hfolder
    rw [ClassIndex.modulesBelow_of_pairwise [] ["a"] (by rw [hsrc]; rfl) (by rw [hsrc]; rfl) .nil
      (by decide), hinner]
    have hskipped : skippedDirectories.contains "a" = false := by decide
    simp only [List.filter_cons, List.filter_nil, hskipped, hfolder', Bool.not_false, Bool.and_self,
      if_true, List.map_nil, List.nil_append, List.flatMap_singleton]
    change modulesBelow _ rules _ ["p", "src", "a"] "a" = _
    rw [ClassIndex.modulesBelow_of_pairwise ["b.py"] [] (by rw [ha]; rfl) (by rw [ha]; rfl) (by decide)
      .nil]
    simp only [List.filter_cons, List.filter_nil, hending, hfile', Bool.not_false, Bool.and_self,
      if_true]
    rfl
  rw [ClassIndex.scan_of_directory rfl rfl rfl rfl hrules]
  change Except.ok ((modulesBelow (sample settings others) rules _ ["p", "src"] "").map _) = _
  have hmodule : moduleName "a/b.py" = "a.b" := by decide
  simp only [hbelow, List.map_cons, List.map_nil, hmodule]
  rfl

/-- The round of the project if its module is found. -/
theorem exists_round_sample {t : FileTree} {output : Path} (hsettings : hasSettings out t = true)
    (hresolve : t.resolve ⟨.slash, "p" :: out⟩ = .ok output)
    (hscan : scan t (excludeRules ([sampleRoot].filterMap (outputRule? t output))) sampleRoot
      = .ok [sampleModule])
    (hmodule : HasModule t) :
    ∃ result, projectRound t samplePath [] = .ok ((delivered out t).state, result) ∧
      result.artifacts.values = sampleCompanions ∧
      errorsOf result.diagnostics = errorsOf (delivered out t).report.diagnostics := by
  obtain ⟨s, hload, hs⟩ := exists_settings hsettings
  obtain ⟨hstate, hvalues, herrors⟩ := run_sample hscan hmodule out
  refine ⟨_, ?_, hvalues, herrors⟩
  rw [projectRound_sample hload hs hresolve, ← hstate]

/-- The round of the project, repeated, makes other companions, writes or reports something else, or
changes the tree. -/
def Unsteady (t : FileTree) : Prop :=
  ∃ after result after' result', projectRound t samplePath [] = .ok (after, result) ∧
    projectRound after samplePath [] = .ok (after', result') ∧
    ¬ (result'.artifacts = result.artifacts ∧ result'.written = result.written ∧
      result'.diagnostics = result.diagnostics ∧ after' = after)

/-- The output directory is to be made where the ignore file of the source root is missing. -/
def ignoreFileSample : FileTree := sample "sources: [src]\noutput: src/.gitignore\n" []

/-- The tree of a project whose output directory is to be made below a file, which a way up leads to. -/
def fileOnWaySample (others : List (Place × FileEntry)) : FileTree :=
  sample "sources: [src]\noutput: new/../taken/x\n" ((["p", "taken"], .file "".toUTF8) :: others)

/-- The tree of a project whose output directory is there, but a way up from a missing directory leads
to it, and a file is in the way of a companion. -/
def wayUpSample (others : List (Place × FileEntry)) : FileTree :=
  sample "sources: [src]\noutput: new/../gen\n"
    ((["p", "gen"], .directory) :: (["p", "gen", "a"], .file "".toUTF8) :: others)

/-- What the first round of the last two projects makes. -/
def newDirectory : Place × FileEntry := (["p", "new"], .directory)

/-- These projects have their settings before their first round and after it. -/
theorem settings_unsteady :
    hasSettings ["src", ".gitignore"] ignoreFileSample = true ∧
      hasSettings ["src", ".gitignore"]
        (delivered ["src", ".gitignore"] ignoreFileSample).state = true ∧
      ∀ others ∈ [[], [newDirectory]],
        hasSettings ["new", "..", "taken", "x"] (fileOnWaySample others) = true ∧
          hasSettings ["new", "..", "gen"] (wayUpSample others) = true := by
  decide +kernel

/-- Once the output directory is there, the modules cannot be read. -/
theorem unsteady_ignoreFileSample : Unsteady ignoreFileSample := by
  obtain ⟨result, hround, hvalues, -⟩ :=
    exists_round_sample settings_unsteady.1 rfl
      (scan_sample rfl rfl rfl (by decide) (by decide)) ⟨rfl, rfl⟩
  generalize hafter : (delivered ["src", ".gitignore"] ignoreFileSample).state = after at hround
  obtain ⟨s, hload, hs⟩ : ∃ s, loadSettings after samplePath = .ok s ∧
      SampleSettings ["src", ".gitignore"] s := exists_settings (hafter ▸ settings_unsteady.2.1)
  have hresolve : after.resolve ⟨.slash, ["p", "src", ".gitignore"]⟩
      = .ok ⟨.slash, ["p", "src", ".gitignore"]⟩ := by
    have hcurrent : after.current = ["p"] := by
      rw [← hafter]
      decide +kernel
    rw [FileTree.resolve, hcurrent]
    rfl
  have hscan : (scan after (excludeRules ["/.gitignore/"]) sampleRoot).toOption = none := by
    rw [← hafter]
    decide +kernel
  have hpatterns : [sampleRoot].filterMap (outputRule? after ⟨.slash, ["p", "src", ".gitignore"]⟩)
      = ["/.gitignore/"] := by
    rw [← hafter]
    decide +kernel
  obtain ⟨broken, hbroken⟩ : ∃ broken,
      discoverClasses after (excludeRules ["/.gitignore/"]) [sampleRoot] = .error broken := by
    cases hfiles : scan after (excludeRules ["/.gitignore/"]) sampleRoot with
    | ok files =>
      rw [hfiles] at hscan
      exact absurd hscan (Option.some_ne_none files)
    | error fault =>
      rw [discoverClasses, ClassIndex.addRoots, hfiles]
      exact ⟨_, rfl⟩
  -- no companion is made, but one was
  have hnone : (inspect (readingModules [sampleRoot] ["/.gitignore/"] .standard true 1) [] after
      .empty).1.artifacts = .empty := artifacts_inspect_of_error [] hbroken
  refine ⟨after, result, _, _, hround, projectRound_sample hload hs hresolve, fun hsame => ?_⟩
  have hartifacts := hsame.1
  rw [hpatterns, artifacts_run] at hartifacts
  have hlength : sampleCompanions.length = 1 := by rfl
  rw [← hvalues, ← hartifacts, show filesOf.files after = after from rfl, hnone] at hlength
  exact absurd hlength (by decide)

/-- A project has another round once its own round has left a directory, if the errors differ. -/
theorem unsteady_of_errors {t t' : FileTree} {output : Path}
    (hsettings : hasSettings out t = true) (hsettings' : hasSettings out t' = true)
    (hcurrent : t'.current = t.current) (hresolve : t.resolve ⟨.slash, "p" :: out⟩ = .ok output)
    (hpatterns : [sampleRoot].filterMap (outputRule? t output) = [])
    (hscan : scan t [] sampleRoot = .ok [sampleModule])
    (hscan' : scan t' [] sampleRoot = .ok [sampleModule])
    (hmodule : HasModule t) (hmodule' : HasModule t')
    (hstate : (delivered out t).state = t')
    (herrors : errorsOf (delivered out t').report.diagnostics
      ≠ errorsOf (delivered out t).report.diagnostics) : Unsteady t := by
  have hresolve' : t'.resolve ⟨.slash, "p" :: out⟩ = .ok output := by
    rwa [resolve_congr hcurrent]
  have hpatterns' : [sampleRoot].filterMap (outputRule? t' output) = [] := by
    rwa [outputRule?_congr hcurrent]
  obtain ⟨result, hround, -, hfirst⟩ :=
    exists_round_sample hsettings hresolve (by rwa [hpatterns]) hmodule
  obtain ⟨result', hround', -, hsecond⟩ :=
    exists_round_sample hsettings' hresolve' (by rwa [hpatterns']) hmodule'
  rw [hstate] at hround
  refine ⟨t', result, _, result', hround, hround', fun hsame => herrors ?_⟩
  rw [← hsecond, ← hfirst, hsame.2.2.1]

theorem settings_fileOnWaySample {others : List (Place × FileEntry)}
    (h : others ∈ [[], [newDirectory]]) :
    hasSettings ["new", "..", "taken", "x"] (fileOnWaySample others) = true :=
  (settings_unsteady.2.2 others h).1

theorem settings_wayUpSample {others : List (Place × FileEntry)}
    (h : others ∈ [[], [newDirectory]]) :
    hasSettings ["new", "..", "gen"] (wayUpSample others) = true :=
  (settings_unsteady.2.2 others h).2

theorem unsteady_fileOnWaySample : Unsteady (fileOnWaySample []) :=
  @unsteady_of_errors _ _ (fileOnWaySample [newDirectory]) _
    (settings_fileOnWaySample (by simp)) (settings_fileOnWaySample (by simp)) rfl rfl rfl
    (scan_sample rfl rfl rfl (by decide) (by decide)) (scan_sample rfl rfl rfl (by decide) (by decide))
    ⟨rfl, rfl⟩ ⟨rfl, rfl⟩
    (FileTree.ext (by decide +kernel) (by decide +kernel) (by decide +kernel) rfl)
    (by decide +kernel)

theorem unsteady_wayUpSample : Unsteady (wayUpSample []) :=
  @unsteady_of_errors _ _ (wayUpSample [newDirectory]) _ (settings_wayUpSample (by simp))
    (settings_wayUpSample (by simp)) rfl rfl rfl
    (scan_sample rfl rfl rfl (by decide) (by decide)) (scan_sample rfl rfl rfl (by decide) (by decide))
    ⟨rfl, rfl⟩ ⟨rfl, rfl⟩
    (FileTree.ext (by decide +kernel) (by decide +kernel) (by decide +kernel) rfl)
    (by decide +kernel)

/-- The condition on ignore files, and both conditions on making the output directory, are needed:
each of these projects fails one of them only, and has another round once its own round has run. -/
theorem projectRound_unsteady :
    (∃ s output, ModuleProject ignoreFileSample samplePath s output ∧
      ignoreFileSample.Opens s.outputRoot ∧ Unsteady ignoreFileSample) ∧
    (∃ s output, ModuleProject (fileOnWaySample []) samplePath s output ∧
      s.SparesIgnoreFiles (fileOnWaySample []) ∧
      (fileOnWaySample []).get? ((fileOnWaySample []).destination s.outputRoot) = none ∧
      Unsteady (fileOnWaySample [])) ∧
    ∃ s output, ModuleProject (wayUpSample []) samplePath s output ∧
      s.SparesIgnoreFiles (wayUpSample []) ∧
      (∃ after, (wayUpSample []).makeDirectories s.outputRoot = (after, .ok ())) ∧
      Unsteady (wayUpSample []) := by
  refine ⟨?_, ?_, ?_⟩
  · obtain ⟨s, hload, hs⟩ := exists_settings settings_unsteady.1
    refine ⟨s, _, moduleProject_sample (by decide) hload hs rfl (by decide) (by decide), ?_,
      unsteady_ignoreFileSample⟩
    rw [hs.outputRoot]
    exact opens_of_makeDirectoryIfNew rfl
  · obtain ⟨s, hload, hs⟩ := exists_settings (settings_fileOnWaySample List.mem_cons_self)
    refine ⟨s, _, moduleProject_sample (by decide) hload hs rfl (by decide) (by decide),
      sparesIgnoreFiles_sample hs (by decide), ?_, unsteady_fileOnWaySample⟩
    rw [hs.outputRoot]
    rfl
  · obtain ⟨s, hload, hs⟩ := exists_settings (settings_wayUpSample List.mem_cons_self)
    refine ⟨s, _, moduleProject_sample (by decide) hload hs rfl (by decide) (by decide),
      sparesIgnoreFiles_sample hs (by decide), ?_, unsteady_wayUpSample⟩
    rw [hs.outputRoot]
    exact ⟨_, rfl⟩

end Sample

end Roster
