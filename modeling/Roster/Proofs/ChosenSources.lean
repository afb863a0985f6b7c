import Mathlib.Data.List.Forall2
import Roster.Proofs.ListedNames
import Roster.Proofs.ManifestEntries

/-! # Sources are chosen as requested

A project asks for sources by name, in any case and any order, some of them more than once. The two
names of the library stand for its own sources, whatever plugins there are; any other name stands for
the last plugin that has it. The choice succeeds exactly when every name stands for a source, and gives
one source for each name, the first request deciding the order. Otherwise the configuration is at fault,
or the modules were asked for and the path of the output directory, which they leave out, does not fit.

* `Available`: which names stand for a source; `Serves`: which source that is.
* `sourceNamed_eq_ok_iff`, `exists_serves_iff`: one name.
* `mapM_eq_ok_iff`: all of them, one after the other.
* `sources_chosen_as_requested`: when the choice succeeds, and what it gives.
-/

namespace Roster

open FileTree

/-! ## Names and what they stand for -/

/-- What a loaded plugin gives: itself, if it is a source, or the source that it makes. -/
inductive PluginLoad.Gives (s : Settings) : PluginLoad → TypeSource → Prop
  | itself (source : TypeSource) : Gives s (.source source) source
  | made {make : Settings → Option TypeSource} {source : TypeSource} (h : make s = some source) :
    Gives s (.factory make) source

/-- The last of some plugins that has a name in lower case. -/
def LastNamed (plugins : List Plugin) (name : String) (p : Plugin) : Prop :=
  ∃ earlier later, plugins = earlier ++ p :: later ∧ Text.lowercase p.name = name ∧
    ∀ q ∈ later, Text.lowercase q.name ≠ name

/-- The names that stand for the library's own sources. -/
def IsLibraryName (name : String) : Prop :=
  name = TypeSource.modulesName ∨ name = TypeSource.manifestName

/-- No part of the output directory's path keeps it from being used. -/
def OutputFits (s : Settings) : Prop := ∀ part ∈ s.outputRoot.parts, Path.isUnfit part = false

/-- A name in lower case stands for a source. -/
inductive Available (s : Settings) (plugins : List Plugin) (name : String) : Prop
  | modules (h : name = TypeSource.modulesName) (output : OutputFits s)
  | manifest (h : name = TypeSource.manifestName) (path : s.manifest ≠ none)
  | plugin {p : Plugin} {source : TypeSource} (h : ¬ IsLibraryName name)
    (last : LastNamed plugins name p) (gives : p.load.Gives s source)

/-- The source that a name in lower case stands for. -/
inductive Serves (t : FileTree) (s : Settings) (plugins : List Plugin) : String → TypeSource → Prop
  | modules {source : TypeSource} (h : modulesSource t s = .ok source) :
    Serves t s plugins TypeSource.modulesName source
  | manifest {path : Path} (h : s.manifest = some path) :
    Serves t s plugins TypeSource.manifestName (.manifest path)
  | plugin {name : String} {p : Plugin} {source : TypeSource} (h : ¬ IsLibraryName name)
    (last : LastNamed plugins name p) (gives : p.load.Gives s source) :
    Serves t s plugins name source

/-- A fault of the configuration. -/
def InputFault.IsConfig (fault : InputFault) : Prop := ∃ c, fault = .config c

/-! ## One name -/

section Names

variable {t : FileTree} {s : Settings} {plugins : List Plugin} {name : String}

theorem pluginNamed?_eq_some_iff (p : Plugin) :
    pluginNamed? plugins name = some p ↔ LastNamed plugins name p := by
  rw [pluginNamed?, List.find?_eq_some_iff_append, decide_eq_true_eq]
  constructor
  · -- the search goes backwards: what it passes over stands behind the plugin
    rintro ⟨hname, before, after, hreverse, hbefore⟩
    refine ⟨after.reverse, before.reverse, ?_, hname, fun q hq => ?_⟩
    · rw [← List.reverse_reverse plugins, hreverse]
      simp
    · simpa using hbefore q (List.mem_reverse.mp hq)
  · rintro ⟨earlier, later, rfl, hname, hlater⟩
    refine ⟨hname, later.reverse, earlier.reverse, by simp, fun q hq => ?_⟩
    simpa using hlater q (List.mem_reverse.mp hq)

theorem pluginSource_eq_ok_iff (load : PluginLoad) (source : TypeSource) :
    pluginSource s name load = .ok source ↔ load.Gives s source := by
  constructor
  · intro h
    cases load with
    | source own =>
      obtain rfl := Except.ok.inj h
      exact .itself own
    | factory make =>
      rw [pluginSource] at h
      split at h
      · rename_i made hmade
        obtain rfl := Except.ok.inj h
        exact .made hmade
      · contradiction
    | other => contradiction
    | broken detail => contradiction
  · rintro (_ | hmade)
    · rfl
    · simp [pluginSource, hmade]

theorem manifestSource_eq_ok_iff (source : TypeSource) :
    manifestSource s = .ok source ↔ ∃ path, s.manifest = some path ∧ source = .manifest path := by
  unfold manifestSource
  cases s.manifest <;> simp [eq_comm]

theorem not_isLibraryName (hmodules : name ≠ TypeSource.modulesName)
    (hmanifest : name ≠ TypeSource.manifestName) : ¬ IsLibraryName name :=
  fun h => h.elim hmodules hmanifest

/-- Looking a name up gives the source that it stands for. -/
theorem sourceNamed_eq_ok_iff (source : TypeSource) :
    sourceNamed t s plugins name = .ok source ↔ Serves t s plugins name source := by
  unfold sourceNamed
  constructor
  · intro h
    split at h
    · rename_i hmodules
      rw [hmodules]
      exact .modules h
    · rename_i hmodules
      split at h
      · rename_i hmanifest
        obtain ⟨path, hpath, rfl⟩ := (manifestSource_eq_ok_iff source).mp h
        rw [hmanifest]
        exact .manifest hpath
      · rename_i hmanifest
        split at h
        · rename_i p hp
          exact .plugin (not_isLibraryName hmodules hmanifest) ((pluginNamed?_eq_some_iff p).mp hp)
            ((pluginSource_eq_ok_iff p.load source).mp h)
        · contradiction
  · intro h
    cases h with
    | modules h => rw [if_pos rfl, h]
    | @manifest path h =>
      rw [if_neg (by decide), if_pos rfl]
      exact (manifestSource_eq_ok_iff _).mpr ⟨path, h, rfl⟩
    | @plugin _ p _ hname last gives =>
      rw [if_neg fun h => hname (.inl h), if_neg fun h => hname (.inr h),
        (pluginNamed?_eq_some_iff p).mpr last]
      exact (pluginSource_eq_ok_iff p.load source).mpr gives

theorem outputFits_iff : OutputFits s ↔ s.outputRoot.parts.any Path.isUnfit = false := by
  simp [OutputFits]

theorem resolve_of_outputFits (h : OutputFits s) :
    t.resolve s.outputRoot = .ok (s.outputRoot.resolved t.current) := by
  rw [FileTree.resolve, outputFits_iff.mp h]
  rfl

theorem resolve_of_not_outputFits (h : ¬ OutputFits s) :
    t.resolve s.outputRoot = .error (.unfit (Path.faultOf s.outputRoot.untilUnfit.text)) := by
  rw [outputFits_iff, Bool.not_eq_false] at h
  rw [FileTree.resolve, h]
  rfl

theorem modulesSource_of_outputFits (h : OutputFits s) : ∃ source, modulesSource t s = .ok source := by
  rw [modulesSource, resolve_of_outputFits h]
  exact ⟨_, rfl⟩

theorem modulesSource_of_not_outputFits (h : ¬ OutputFits s) :
    modulesSource t s = .error (.file (.unfit (Path.faultOf s.outputRoot.untilUnfit.text))) := by
  rw [modulesSource, resolve_of_not_outputFits h]
  rfl

/-- The modules of a project can be read as long as the path of the output directory fits. -/
theorem exists_modulesSource_iff : (∃ source, modulesSource t s = .ok source) ↔ OutputFits s := by
  constructor
  · rintro ⟨source, hsource⟩
    by_contra hunfit
    rw [modulesSource_of_not_outputFits hunfit] at hsource
    contradiction
  · exact modulesSource_of_outputFits

/-- The names that stand for a source are those that are available. -/
theorem exists_serves_iff : (∃ source, Serves t s plugins name source) ↔ Available s plugins name := by
  constructor
  · rintro ⟨source, h⟩
    cases h with
    | modules h => exact .modules rfl (exists_modulesSource_iff.mp ⟨source, h⟩)
    | manifest h => exact .manifest rfl (by simp [h])
    | plugin hname last gives => exact .plugin hname last gives
  · intro h
    cases h with
    | modules h output =>
      -- the only source that has to look at a path
      obtain ⟨source, hsource⟩ := modulesSource_of_outputFits (t := t) output
      rw [h]
      exact ⟨source, .modules hsource⟩
    | manifest h hpath =>
      obtain ⟨path, hpath⟩ := Option.ne_none_iff_exists'.mp hpath
      rw [h]
      exact ⟨_, .manifest hpath⟩
    | plugin hname last gives => exact ⟨_, .plugin hname last gives⟩

/-- The modules cannot be read for the path of the output directory. -/
def OutputFault (s : Settings) (fault : InputFault) : Prop :=
  ¬ OutputFits s ∧ fault = .file (.unfit (Path.faultOf s.outputRoot.untilUnfit.text))

/-- Looking a name up fails for want of a configuration that fits, apart from the modules. -/
theorem faultsAre_sourceNamed_of_settings :
    FaultsAre (fun fault => fault.IsConfig ∨ name = TypeSource.modulesName ∧ OutputFault s fault)
      (sourceNamed t s plugins name) := by
  have hconfig : ∀ {α : Type} (c : ConfigFault), FaultsAre (fun fault => fault.IsConfig ∨
      name = TypeSource.modulesName ∧ OutputFault s fault) (.error (.config c) : Except InputFault α) :=
    fun c => .error (.inl ⟨c, rfl⟩)
  unfold sourceNamed manifestSource
  split
  · rename_i hmodules
    by_cases hfits : OutputFits s
    · obtain ⟨source, hsource⟩ := modulesSource_of_outputFits (t := t) hfits
      rw [hsource]
      exact .ok source
    · rw [modulesSource_of_not_outputFits hfits]
      exact .error (.inr ⟨hmodules, hfits, rfl⟩)
  · split
    · split
      · exact .ok _
      · exact hconfig _
    · split
      · unfold pluginSource
        split
        · exact .ok _
        · split
          · exact .ok _
          · exact hconfig _
        · exact hconfig _
        · exact hconfig _
      · exact hconfig _

end Names

/-! ## All names -/

/-- Steps that are taken one after the other succeed exactly when each of them does. -/
theorem mapM_eq_ok_iff {ε α β : Type} {f : α → Except ε β} {as : List α} {bs : List β} :
    as.mapM f = .ok bs ↔ List.Forall₂ (fun a b => f a = .ok b) as bs := by
  induction as generalizing bs with
  | nil =>
    rw [List.mapM_nil, List.forall₂_nil_left_iff]
    exact ⟨fun h => (Except.ok.inj h).symm, fun h => congrArg Except.ok h.symm⟩
  | cons a as ih =>
    rw [List.mapM_cons, bind_eq_ok_iff, List.forall₂_cons_left_iff]
    constructor
    · rintro ⟨b, hb, hrest⟩
      obtain ⟨rest, hrest, hbs⟩ := bind_eq_ok_iff.mp hrest
      exact ⟨b, rest, hb, ih.mp hrest, (Except.ok.inj hbs).symm⟩
    · rintro ⟨b, rest, hb, hrest, rfl⟩
      exact ⟨b, hb, bind_eq_ok_iff.mpr ⟨rest, ih.mpr hrest, rfl⟩⟩

theorem exists_forall₂_iff {α β : Type} {R : α → β → Prop} {as : List α} :
    (∃ bs, List.Forall₂ R as bs) ↔ ∀ a ∈ as, ∃ b, R a b := by
  induction as with
  | nil => exact iff_of_true ⟨[], .nil⟩ fun a ha => absurd ha List.not_mem_nil
  | cons a as ih =>
    rw [List.forall_mem_cons, ← ih]
    constructor
    · rintro ⟨bs, hall⟩
      cases hall with
      | cons hfirst hrest => exact ⟨⟨_, hfirst⟩, _, hrest⟩
    · rintro ⟨⟨b, hfirst⟩, bs, hrest⟩
      exact ⟨b :: bs, .cons hfirst hrest⟩

/-- For any settings, any plugins and any requests, in any case and with repetitions: sources are chosen
exactly when every name in lower case is that of the modules, and the path of the output directory fits,
that of the manifest, and there is one, or another one, and the last plugin of that name gives a source.
Otherwise the configuration is at fault; only where the modules are asked for it may be that path. What
is chosen is one source for each name, in the order of first requests, and no plugin takes the name of a
source of the library. -/
theorem sources_chosen_as_requested (t : FileTree) (s : Settings) (plugins : List Plugin)
    (names : List String) :
    ((∃ sources, chooseSources t s plugins names = .ok sources) ↔
      ∀ name ∈ names, Available s plugins (Text.lowercase name)) ∧
    ((∃ name ∈ names, ¬ Available s plugins (Text.lowercase name)) →
      ∃ fault, chooseSources t s plugins names = .error fault ∧ (fault.IsConfig ∨
        TypeSource.modulesName ∈ names.map Text.lowercase ∧ OutputFault s fault)) ∧
    ∀ sources, chooseSources t s plugins names = .ok sources →
      List.Forall₂ (Serves t s plugins) (names.map Text.lowercase).eraseDups sources := by
  have hserves : ∀ sources, chooseSources t s plugins names = .ok sources ↔
      List.Forall₂ (Serves t s plugins) (names.map Text.lowercase).eraseDups sources := by
    intro sources
    rw [chooseSources, mapM_eq_ok_iff]
    simp only [sourceNamed_eq_ok_iff]
  have hok : (∃ sources, chooseSources t s plugins names = .ok sources) ↔
      ∀ name ∈ names, Available s plugins (Text.lowercase name) := by
    simp only [hserves, exists_forall₂_iff, exists_serves_iff, List.mem_eraseDups, List.forall_mem_map]
  have hfaults : FaultsAre (fun fault => fault.IsConfig ∨
      TypeSource.modulesName ∈ names.map Text.lowercase ∧ OutputFault s fault)
      (chooseSources t s plugins names) := by
    refine FaultsAre.mapM fun name hname fault hfault => ?_
    rcases faultsAre_sourceNamed_of_settings fault hfault with hconfig | ⟨rfl, houtput⟩
    · exact .inl hconfig
    · exact .inr ⟨List.mem_eraseDups.mp hname, houtput⟩
  refine ⟨hok, ?_, fun sources => (hserves sources).mp⟩
  rintro ⟨name, hname, hmissing⟩
  cases hchosen : chooseSources t s plugins names with
  | ok sources => exact absurd (hok.mp ⟨sources, hchosen⟩ name hname) hmissing
  | error fault => exact ⟨fault, rfl, hfaults fault hchosen⟩

/-- A project with a manifest below the root. -/
def manifestSettings : Settings :=
  { Settings.usual ⟨.slash, []⟩ with manifest := some ⟨.slash, ["types.yml"]⟩ }

/-- A source that finds nothing. -/
def idleSource (name : String) : TypeSource := .host name (.ok [])

/-- Two plugins of one name, the second a factory, and one that has the name of the modules. -/
def rivalPlugins : List Plugin := [⟨"Ready", .other⟩,
  ⟨"READY", .factory fun _ => some (idleSource "made")⟩, ⟨"Python", .broken "no such plugin"⟩]

/-- The later plugin counts, and the modules keep their name. -/
theorem sources_chosen_despite_rivals :
    ∃ sources, chooseSources ⟨[], [], [], .ample⟩ manifestSettings rivalPlugins
        ["ready", "Manifest", "PYTHON", "Ready"] = .ok sources ∧
      List.Forall₂ (Serves ⟨[], [], [], .ample⟩ manifestSettings rivalPlugins)
        ["ready", "manifest", "python"] sources := by
  obtain ⟨hiff, -, hserves⟩ :=
    sources_chosen_as_requested ⟨[], [], [], .ample⟩ manifestSettings rivalPlugins
    ["ready", "Manifest", "PYTHON", "Ready"]
  have hready : Available manifestSettings rivalPlugins "ready" :=
    .plugin (not_isLibraryName (by decide) (by decide))
      ⟨[⟨"Ready", .other⟩], [⟨"Python", .broken "no such plugin"⟩], rfl, by decide, by decide⟩
      (.made rfl)
  have hlower : ["ready", "Manifest", "PYTHON", "Ready"].map Text.lowercase
      = ["ready", "manifest", "python", "ready"] := by decide
  have hfits : OutputFits manifestSettings := by
    unfold OutputFits
    decide
  obtain ⟨sources, hchosen⟩ := hiff.mpr (by
    rw [← List.forall_mem_map (P := Available manifestSettings rivalPlugins), hlower]
    simp only [List.forall_mem_cons]
    exact ⟨hready, .manifest rfl (by decide), .modules rfl hfits, hready, by simp⟩)
  have hall := hserves sources hchosen
  rw [hlower] at hall
  exact ⟨sources, hchosen, hall⟩

/-- A project whose output directory is named after one half of a surrogate pair. -/
def unpairedSettings : Settings :=
  { Settings.usual ⟨.slash, []⟩ with
    output := some ⟨.slash, [String.singleton (Text.ofCodePoint 0xD800)]⟩ }

/-- The modules are no source of that project, and yet its configuration is not at fault. There is no NUL
in any of its paths. -/
theorem modules_unpaired :
    (∀ part ∈ unpairedSettings.root.parts ++ unpairedSettings.outputRoot.parts, '\x00' ∉ part.toList) ∧
      chooseSources ⟨[], [], [], .ample⟩ unpairedSettings [] ["python"]
        = .error (.file (.unfit (.unencodable ⟨0xD800, 1, 1⟩))) := by
  have hname : Text.lowercase "python" = TypeSource.modulesName := by decide
  have hunfit : ¬ OutputFits unpairedSettings := by
    unfold OutputFits
    decide
  refine ⟨by decide, ?_⟩
  have hsource := modulesSource_of_not_outputFits (t := ⟨[], [], [], .ample⟩) hunfit
  have hfault : Path.faultOf unpairedSettings.outputRoot.untilUnfit.text
      = .unencodable ⟨0xD800, 1, 1⟩ := by
    decide +kernel
  rw [hfault] at hsource
  simp [chooseSources, List.eraseDups_cons, sourceNamed, hname, hsource, bind, Except.bind]

end Roster
