import Mathlib.Data.List.Induction
import Roster.Proofs.ScannedModules
import Roster.Proofs.Splitting

/-! # What a scan reaches

A scan goes from directory to directory. A module is found when a chain of names leads to its file:
every directory on the way is open under the rules, and so is the file. Which modules are found is
thus said without the order of the scan and without its bound.

* `Reaches`: a chain of names that a scan follows.
* `mem_modulesBelow_iff`: the modules below a directory are what is reached from it.
* `reaches_append_iff`: rules that only leave directories out shut the chains through them.
* `ScansFrom.mem_iff`: the modules below a root are what is reached from its directory.
-/

namespace Roster

/-- The path to a name below a directory, name by name. -/
def namedPath (directory : String) (names : List String) : String := names.foldl entryPath directory

/-- Names that lead from a directory to a module's file, past everything that rules leave out. -/
inductive Reaches (t : FileTree) (rules : List IgnoreRule) : Place → String → List String → Prop
  | file {place : Place} {directory name : String} {e : FileEntry}
      (hentry : (name, e) ∈ t.namesIn place) (hfile : e ≠ .directory)
      (hending : name.endsWith ".py" = true)
      (hkept : ignored rules (entryPath directory name) false = false) :
      Reaches t rules place directory [name]
  | folder {place : Place} {directory name : String} {names : List String}
      (hentry : (name, .directory) ∈ t.namesIn place) (hopen : name ∉ skippedDirectories)
      (hkept : ignored rules (entryPath directory name) true = false)
      (rest : Reaches t rules (place ++ [name]) (entryPath directory name) names) :
      Reaches t rules place directory (name :: names)

theorem Reaches.ne_nil {t : FileTree} {rules : List IgnoreRule} {place : Place}
    {directory : String} {names : List String} (h : Reaches t rules place directory names) :
    names ≠ [] := by
  cases h <;> exact List.cons_ne_nil _ _

theorem mem_sortedNames_iff {name : String} {names : List String} :
    name ∈ sortedNames names ↔ name ∈ names := by
  rw [sortedNames, List.mem_mergeSort]

/-- The names of the files in a directory that are modules under the rules. -/
theorem mem_kept_iff (t : FileTree) (rules : List IgnoreRule) (place : Place)
    (directory name : String) :
    name ∈ (sortedNames (((t.namesIn place).filter fun (_, e) => e ≠ .directory).map (·.1))).filter
        (fun name => name.endsWith ".py" && !ignored rules (entryPath directory name) false) ↔
      (∃ e, (name, e) ∈ t.namesIn place ∧ e ≠ .directory) ∧ name.endsWith ".py" = true ∧
        ignored rules (entryPath directory name) false = false := by
  simp [mem_sortedNames_iff]

/-- The names of the directories in a directory that are entered under the rules. -/
theorem mem_entered_iff (t : FileTree) (rules : List IgnoreRule) (place : Place)
    (directory name : String) :
    name ∈ (sortedNames (((t.namesIn place).filter fun (_, e) => e = .directory).map (·.1))).filter
        (fun name => !skippedDirectories.contains name &&
          !ignored rules (entryPath directory name) true) ↔
      (name, .directory) ∈ t.namesIn place ∧ name ∉ skippedDirectories ∧
        ignored rules (entryPath directory name) true = false := by
  simp [mem_sortedNames_iff]

/-- The modules below a directory are what is reached from it, as deep as the scan goes. -/
theorem mem_modulesBelow_iff (t : FileTree) (rules : List IgnoreRule) (depth : Nat) (place : Place)
    (directory : String) (found : Place × String) :
    found ∈ modulesBelow t rules depth place directory ↔
      ∃ names, names.length ≤ depth ∧ Reaches t rules place directory names ∧
        found = (place ++ names, namedPath directory names) := by
  -- on the depth; a name leads to a file here or into a directory
  induction depth generalizing place directory with
  | zero =>
    simp only [modulesBelow, List.not_mem_nil, false_iff]
    rintro ⟨names, hlength, hreaches, -⟩
    exact hreaches.ne_nil (List.length_eq_zero_iff.mp (Nat.le_zero.mp hlength))
  | succ depth ih =>
    rw [modulesBelow, List.mem_append, List.mem_map, List.mem_flatMap]
    constructor
    · rintro (⟨name, hname, rfl⟩ | ⟨name, hname, hbelow⟩)
      · obtain ⟨⟨e, hentry, hfile⟩, hending, hkept⟩ := (mem_kept_iff ..).mp hname
        exact ⟨[name], by simp, .file hentry hfile hending hkept, rfl⟩
      · obtain ⟨hentry, hopen, hkept⟩ := (mem_entered_iff ..).mp hname
        obtain ⟨names, hlength, hreaches, rfl⟩ := (ih _ _).mp hbelow
        refine ⟨name :: names, Nat.succ_le_succ hlength, .folder hentry hopen hkept hreaches, ?_⟩
        rw [List.append_assoc, List.singleton_append]
        rfl
    · rintro ⟨names, hlength, hreaches, rfl⟩
      cases hreaches with
      | file hentry hfile hending hkept =>
        exact .inl ⟨_, (mem_kept_iff ..).mpr ⟨⟨_, hentry, hfile⟩, hending, hkept⟩, rfl⟩
      | @folder _ _ name names hentry hopen hkept rest =>
        refine .inr ⟨name, (mem_entered_iff ..).mpr ⟨hentry, hopen, hkept⟩, (ih _ _).mpr ?_⟩
        refine ⟨names, Nat.le_of_succ_le_succ hlength, rest, ?_⟩
        rw [List.append_assoc, List.singleton_append]
        rfl

/-! ## Rules that shut directories -/

theorem ignored_append {extra : List IgnoreRule} (h : ∀ rule ∈ extra, rule.negated = false)
    (rules : List IgnoreRule) (path : String) (isDirectory : Bool) :
    ignored (rules ++ extra) path isDirectory
      = (ignored rules path isDirectory || extra.any (·.matchesPath path isDirectory)) := by
  have hfold : ∀ sofar, extra.foldl
      (fun sofar rule => if rule.matchesPath path isDirectory then !rule.negated else sofar) sofar
        = (sofar || extra.any (·.matchesPath path isDirectory)) := by
    induction extra with
    | nil => simp
    | cons rule extra ih =>
      intro sofar
      rw [List.foldl_cons, ih fun other hother => h other (List.mem_cons_of_mem rule hother),
        h rule List.mem_cons_self, List.any_cons]
      cases rule.matchesPath path isDirectory <;> simp
  rw [ignored, List.foldl_append, hfold]
  rfl

/-- Something holds of every directory on the way to the last of the names. -/
def AllAbove (P : List String → Prop) (names : List String) : Prop :=
  ∀ above, above ≠ [] → above <+: names → above ≠ names → P above

theorem allAbove_singleton (P : List String → Prop) (name : String) : AllAbove P [name] := by
  intro above hne hstart hshorter
  have hshort : above.length < [name].length :=
    Nat.lt_of_le_of_ne hstart.length_le fun hlength => hshorter (hstart.eq_of_length hlength)
  exact absurd (List.length_eq_zero_iff.mp (Nat.lt_one_iff.mp hshort)) hne

theorem allAbove_cons_iff (P : List String → Prop) (name : String) {names : List String}
    (h : names ≠ []) :
    AllAbove P (name :: names) ↔ P [name] ∧ AllAbove (fun above => P (name :: above)) names := by
  constructor
  · intro hall
    constructor
    · exact hall [name] (by simp) (by simp) (by simpa using h.symm)
    · intro above hne hstart hshorter
      exact hall (name :: above) (by simp) ((List.prefix_cons_inj name).mpr hstart)
        (by simpa using hshorter)
  · rintro ⟨hhere, hbelow⟩ above hne hstart hshorter
    obtain ⟨above, rfl, habove⟩ : ∃ rest, above = name :: rest ∧ rest <+: names := by
      cases above with
      | nil => contradiction
      | cons first rest =>
        obtain ⟨rfl, hrest⟩ := List.cons_prefix_cons.mp hstart
        exact ⟨rest, rfl, hrest⟩
    by_cases hrest : above = []
    · subst hrest
      exact hhere
    · exact hbelow above hrest habove (by simpa using hshorter)

/-- No directory on the way to the last of the names is shut by one of the rules. -/
def Passes (extra : List IgnoreRule) (directory : String) (names : List String) : Prop :=
  ∀ above, above ≠ [] → above <+: names → above ≠ names →
    ∀ rule ∈ extra, rule.matchesPath (namedPath directory above) true = false

theorem passes_singleton (extra : List IgnoreRule) (directory name : String) :
    Passes extra directory [name] := allAbove_singleton _ name

theorem passes_cons_iff (extra : List IgnoreRule) (directory name : String) {names : List String}
    (h : names ≠ []) :
    Passes extra directory (name :: names) ↔
      (∀ rule ∈ extra, rule.matchesPath (entryPath directory name) true = false) ∧
        Passes extra (entryPath directory name) names :=
  allAbove_cons_iff
    (fun above => ∀ rule ∈ extra, rule.matchesPath (namedPath directory above) true = false) name h

/-- Rules that only leave directories out shut the chains of names through those directories. -/
theorem reaches_append_iff {extra : List IgnoreRule}
    (h : ∀ rule ∈ extra, rule.negated = false ∧ rule.directoryOnly = true) (t : FileTree)
    (rules : List IgnoreRule) (place : Place) (directory : String) (names : List String) :
    Reaches t (rules ++ extra) place directory names ↔
      Reaches t rules place directory names ∧ Passes extra directory names := by
  have hadds := ignored_append (fun rule hrule => (h rule hrule).1) rules
  -- the new rules are for directories only: they say nothing about files
  have hfiles : ∀ path, ignored (rules ++ extra) path false = ignored rules path false := by
    intro path
    have hnone : extra.any (·.matchesPath path false) = false := by
      rw [List.any_eq_false]
      intro rule hrule
      simp [IgnoreRule.matchesPath, (h rule hrule).2]
    rw [hadds, hnone, Bool.or_false]
  have hfolders : ∀ path, ignored (rules ++ extra) path true = false ↔
      ignored rules path true = false ∧
        ∀ rule ∈ extra, rule.matchesPath path true = false := by
    intro path
    rw [hadds, Bool.or_eq_false_iff, List.any_eq_false]
    simp
  constructor
  · intro hreaches
    induction hreaches with
    | file hentry hfile hending hkept =>
      rw [hfiles] at hkept
      exact ⟨.file hentry hfile hending hkept, passes_singleton _ _ _⟩
    | folder hentry hopen hkept rest ih =>
      rw [hfolders] at hkept
      exact ⟨.folder hentry hopen hkept.1 ih.1,
        (passes_cons_iff _ _ _ rest.ne_nil).mpr ⟨hkept.2, ih.2⟩⟩
  · rintro ⟨hreaches, hpasses⟩
    induction hreaches with
    | file hentry hfile hending hkept =>
      exact .file hentry hfile hending ((hfiles _).trans hkept)
    | folder hentry hopen hkept rest ih =>
      obtain ⟨hhere, hbelow⟩ := (passes_cons_iff _ _ _ rest.ne_nil).mp hpasses
      exact .folder hentry hopen ((hfolders _).mpr ⟨hkept, hhere⟩) (ih hbelow)

/-! ## Trees of proper names -/

/-- Every name in the tree can stand in a path. -/
def FileTree.Named (t : FileTree) : Prop := ∀ e ∈ t.entries, ∀ name ∈ e.1, Path.IsName name

instance (t : FileTree) : Decidable t.Named :=
  inferInstanceAs (Decidable (∀ e ∈ t.entries, ∀ name ∈ e.1, Path.IsName name))

theorem FileTree.Named.isName_of_mem_namesIn {t : FileTree} (h : t.Named) {place : Place}
    {name : String} {e : FileEntry} (hentry : (name, e) ∈ t.namesIn place) : Path.IsName name := by
  obtain ⟨⟨p, e'⟩, hp, hlast⟩ := List.mem_filterMap.mp hentry
  dsimp only at hlast
  split at hlast
  · rename_i last hname
    split at hlast
    · obtain ⟨rfl, -⟩ := Prod.mk.inj (Option.some.inj hlast)
      exact h _ hp _ (List.mem_of_getLast? hname)
    · contradiction
  · contradiction

theorem Reaches.isName {t : FileTree} {rules : List IgnoreRule} {place : Place}
    {directory : String} {names : List String} (h : Reaches t rules place directory names)
    (ht : t.Named) : ∀ name ∈ names, Path.IsName name := by
  induction h with
  | file hentry _ _ _ =>
    intro name hname
    rw [List.mem_singleton.mp hname]
    exact ht.isName_of_mem_namesIn hentry
  | folder hentry _ _ _ ih =>
    intro name hname
    rcases List.mem_cons.mp hname with rfl | hname
    · exact ht.isName_of_mem_namesIn hentry
    · exact ih name hname

/-- Proper names are joined by slashes. -/
theorem namedPath_eq_joined {names : List String} (h : ∀ name ∈ names, Path.IsName name) :
    namedPath "" names = Path.joined names := by
  induction names using List.reverseRecOn with
  | nil => rfl
  | append_singleton names name ih =>
    have hnames : ∀ name ∈ names, Path.IsName name := fun n hn => h n (List.mem_append_left _ hn)
    have hsingle : Path.joined [name] = name := rfl
    rw [namedPath, List.foldl_append, List.foldl_cons, List.foldl_nil, ← namedPath, ih hnames]
    by_cases hnil : names = []
    · subst hnil
      rfl
    · rw [entryPath, if_neg (Path.joined_ne_empty hnil hnames),
        Path.joined_append hnil (by simp) hnames fun n hn => h n (List.mem_append_right _ hn), hsingle]

/-! ## The modules below a root -/

/-- A root's scan starts at a directory, with the rules of its ignore file. -/
structure ScansFrom (t : FileTree) (root top : Path) (rules : List IgnoreRule) : Prop where
  resolved : ∃ expanded, root.expandHome t.home = some expanded ∧ t.resolve expanded = .ok top
  there : t.exists? top = .ok true
  directory : t.isDirectory? top = .ok true
  ignoreFile : ignoreFileRules t (top / Path.parse ".gitignore") = .ok rules

/-- The module at the end of names below a directory. -/
def moduleAt (top : Place) (names : List String) : SourceFile :=
  ⟨top ++ names, namedPath "" names, moduleName (namedPath "" names)⟩

theorem ScansFrom.scan_eq {t : FileTree} {root top : Path} {rules : List IgnoreRule}
    (h : ScansFrom t root top rules) (extra : List IgnoreRule) :
    scan t extra root
      = .ok ((modulesBelow t (rules ++ extra) (t.entries.length + 1) top.parts "").map
          fun (place, relative) => ⟨place, relative, moduleName relative⟩) := by
  obtain ⟨expanded, hhome, hresolve⟩ := h.resolved
  exact ClassIndex.scan_of_directory hhome hresolve h.there h.directory h.ignoreFile

/-- A scan that gives modules starts at a directory. -/
theorem exists_scansFrom {t : FileTree} {extra : List IgnoreRule} {root : Path}
    {files : List SourceFile} (h : scan t extra root = .ok files) :
    ∃ top rules, ScansFrom t root top rules := by
  unfold scan at h
  split at h
  · rename_i expanded hhome
    simp only [bind, Except.bind] at h
    cases hresolve : t.resolve expanded with
    | error fault => simp [hresolve, Except.mapError] at h
    | ok top =>
      cases hexists : t.exists? top with
      | error fault => simp [hresolve, hexists, Except.mapError] at h
      | ok there =>
        cases hdirectory : t.isDirectory? top with
        | error fault => cases there <;> simp [hresolve, hexists, hdirectory, Except.mapError] at h
        | ok directory =>
          cases hrules : ignoreFileRules t (top / Path.parse ".gitignore") with
          | error fault =>
            cases there <;> cases directory <;>
              simp [hresolve, hexists, hdirectory, hrules, Except.mapError] at h
          | ok rules =>
            cases there <;> cases directory <;>
              simp [hresolve, hexists, hdirectory, hrules, Except.mapError] at h
            exact ⟨top, rules, ⟨expanded, hhome, hresolve⟩, hexists, hdirectory, hrules⟩
  · contradiction

/-- The modules below a root are what is reached from its directory. -/
theorem ScansFrom.mem_iff {t : FileTree} {root top : Path} {rules extra : List IgnoreRule}
    {files : List SourceFile} (h : ScansFrom t root top rules)
    (hscan : scan t extra root = .ok files) (f : SourceFile) :
    f ∈ files ↔ ∃ names, names.length ≤ t.entries.length + 1 ∧
      Reaches t (rules ++ extra) top.parts "" names ∧ f = moduleAt top.parts names := by
  obtain rfl : _ = files := Except.ok.inj ((h.scan_eq extra).symm.trans hscan)
  constructor
  · intro hf
    obtain ⟨found, hfound, rfl⟩ := List.mem_map.mp hf
    obtain ⟨names, hlength, hreaches, rfl⟩ := (mem_modulesBelow_iff ..).mp hfound
    exact ⟨names, hlength, hreaches, rfl⟩
  · rintro ⟨names, hlength, hreaches, rfl⟩
    exact List.mem_map.mpr
      ⟨_, (mem_modulesBelow_iff ..).mpr ⟨names, hlength, hreaches, rfl⟩, rfl⟩

theorem ScansFrom.mem_moduleAt_iff {t : FileTree} {root top : Path} {rules extra : List IgnoreRule}
    {files : List SourceFile} (h : ScansFrom t root top rules)
    (hscan : scan t extra root = .ok files) (names : List String) :
    moduleAt top.parts names ∈ files ↔ names.length ≤ t.entries.length + 1 ∧
      Reaches t (rules ++ extra) top.parts "" names := by
  rw [h.mem_iff hscan]
  constructor
  · rintro ⟨others, hlength, hreaches, heq⟩
    have hplace := congrArg SourceFile.place heq
    obtain rfl : names = others := List.append_cancel_left hplace
    exact ⟨hlength, hreaches⟩
  · rintro ⟨hlength, hreaches⟩
    exact ⟨names, hlength, hreaches, rfl⟩

end Roster
