import Roster.Proofs.OutputExclusion
import Roster.Proofs.OutputGrowth
import Roster.Proofs.ScanOrder
import Roster.Proofs.ScannedModules

/-! # Scans beside an output directory

What is made for an output directory leaves the scan of a source root as it is, if the output
directory is neither the root nor above it, if its path below the root is no wildcard, and if no
directory on the way to it takes the place of the root's ignore file. New directories hold no module,
and companions lie below the output directory, which is left out.

* `find_eq_of_get?_eq`: an entry is found alike in two trees that have it in the same directory.
* `GrowsFor.get?_eq`: which entries are as they were.
* `KeptApart`: an output directory stays out of the scan of a root.
* `discoverClasses_kept`: the same classes are discovered again.
-/

namespace Roster
namespace FileTree

variable {t t' : FileTree} {p output : Path} {above place : Place} {name : String}

/-! ## Finding an entry -/

theorem exists?_eq_true_iff (t : FileTree) (p : Path) :
    t.exists? p = .ok true ↔ ∃ place e, t.placeOf p = .ok place ∧ t.get? place = some e := by
  unfold exists? find
  cases hplace : t.placeOf p with
  | error fault =>
    cases fault with
    | unfit _ => simp [bind, Except.bind]
    | system cause path => cases cause <;> simp [bind, Except.bind]
  | ok place =>
    cases hentry : t.get? place with
    | none => simp [bind, Except.bind, hentry]
    | some e => simp [bind, Except.bind, hentry]

theorem isDirectory?_eq_true_iff (t : FileTree) (p : Path) :
    t.isDirectory? p = .ok true ↔ t.LeadsToDirectory p := by
  unfold isDirectory? find LeadsToDirectory
  cases hplace : t.placeOf p with
  | error fault =>
    cases fault with
    | unfit _ => simp [bind, Except.bind]
    | system cause path => cases cause <;> simp [bind, Except.bind]
  | ok place =>
    cases hentry : t.get? place with
    | none => simp [bind, Except.bind, hentry]
    | some e => simp [bind, Except.bind, hentry]

/-- An entry is found alike in two trees that have it in the same directory. -/
theorem find_eq_of_get?_eq (ht : t.Sound) (ht' : t'.Sound) (hup : name ≠ "..")
    (hparent : t.get? above = some .directory) (hparent' : t'.get? above = some .directory)
    (hsame : t'.get? (above ++ [name]) = t.get? (above ++ [name])) :
    t'.find ⟨.slash, above ++ [name]⟩ = t.find ⟨.slash, above ++ [name]⟩ := by
  -- in a directory that is there only the last name is looked up
  have hdescend : ∀ {s : FileTree}, s.Sound → s.get? above = some .directory →
      s.descend (s.startOf ⟨.slash, above ++ [name]⟩) (above ++ [name])
        = if name.utf8ByteSize > 255 then .error .nameTooLong else .ok (above ++ [name]) := by
    intro s hs hdirectory
    have hfront : s.descend [] above = .ok above := @Sound.descend s [] above _ hs hdirectory
    change s.descend [] (above ++ [name]) = _
    rw [descend_append, hfront]
    change s.descend above [name] = _
    rw [descend, hdirectory]
    simp only [if_neg hup, descend]
  have hplace : t'.placeOf ⟨.slash, above ++ [name]⟩ = t.placeOf ⟨.slash, above ++ [name]⟩ := by
    unfold placeOf
    rw [hdescend ht hparent, hdescend ht' hparent']
  unfold find
  rw [hplace]
  cases hfound : t.placeOf ⟨.slash, above ++ [name]⟩ with
  | error fault => rfl
  | ok place =>
    have hlast := ((placeOf_eq_ok_iff ..).mp hfound).2.2
    rw [hdescend ht hparent] at hlast
    split at hlast
    · contradiction
    · obtain rfl := Except.ok.inj hlast
      simp only [bind, Except.bind, hsame]

theorem read_congr (h : t'.find p = t.find p) : t'.read p = t.read p := by
  rw [read, read, h]

theorem readText_congr (h : t'.find p = t.find p) : t'.readText p = t.readText p := by
  rw [readText, readText, read_congr h]

theorem exists?_congr (h : t'.find p = t.find p) : t'.exists? p = t.exists? p := by
  rw [exists?, exists?, h]

/-! ## What is as it was -/

/-- An entry that does not lie below the output directory is as it was, unless it is a new directory
on the way. -/
theorem GrowsFor.get?_eq (h : GrowsFor output t t')
    (hbelow : ∀ names, names ≠ [] → place ≠ t.destination output ++ names)
    (hway : t.OnWay output place → t.get? place ≠ none) : t'.get? place = t.get? place := by
  have hnew : ∀ e, t.MadeFor output place e → e = .directory ∧ t.OnWay output place := by
    rintro e (hon | hne | ⟨names, a, content⟩)
    · exact ⟨rfl, hon⟩
    · exact absurd rfl (hbelow _ hne)
    · exact absurd rfl (hbelow _ (by simp))
  cases hold : t.get? place with
  | none =>
    by_contra hentry
    obtain ⟨e, he⟩ := Option.ne_none_iff_exists'.mp hentry
    rcases h.entry place e he with hsame | hmade
    · rw [hold] at hsame
      contradiction
    · exact hway (hnew e hmade).2 hold
  | some e =>
    cases e with
    | directory => exact h.directory place hold
    | file content =>
      obtain ⟨content', hfile⟩ := h.file place content hold
      rcases h.entry place _ hfile with hsame | hmade
      · rw [hfile, ← hsame, hold]
      · exact absurd (hnew _ hmade).1 (by simp)

end FileTree

open FileTree

/-! ## Names of resolved paths -/

namespace Path

theorem mem_normalise {start parts : List String} {name : String}
    (h : name ∈ normalise start parts) : name ∈ start ∨ name ∈ parts ∧ name ≠ ".." := by
  induction parts generalizing start with
  | nil => exact .inl h
  | cons part rest ih =>
    rw [normalise, List.foldl_cons] at h
    rcases ih h with hstart | ⟨hrest, hup⟩
    · split at hstart
      · exact .inl (List.dropLast_subset _ hstart)
      · rename_i hpart
        rcases List.mem_append.mp hstart with hold | hnew
        · exact .inl hold
        · obtain rfl := List.mem_singleton.mp hnew
          exact .inr ⟨List.mem_cons_self, hpart⟩
    · exact .inr ⟨List.mem_cons_of_mem part hrest, hup⟩

end Path

/-! ## The scan of a root -/

/-- An output directory stays out of the scan of a root: it is not the root and not above it, one of
the rules leaves it out if it lies below, and it needs no new directory where the root has its ignore
file. -/
structure KeptApart (t : FileTree) (output : Path) (shut : List IgnoreRule) (top : Place) :
    Prop where
  outside : ¬ t.destination output <+: top
  left : ∀ names, t.destination output = top ++ names →
    outputPattern names ∈ shut ∧ '[' ∉ (Path.joined names).toList
  ignoreFile : t.OnWay output (top ++ [".gitignore"]) → t.get? (top ++ [".gitignore"]) ≠ none

/-- What an output path without brackets leaves out holds all that lies below it. -/
theorem Passes.not_below {shut : List IgnoreRule} {ps names : List String}
    (hpasses : Passes shut "" names) (hmem : outputPattern ps ∈ shut) (hne : ps ≠ [])
    (hps : ∀ name ∈ ps, Path.IsName name) (hplain : '[' ∉ (Path.joined ps).toList)
    (hstart : ps <+: names) : ps = names := by
  by_contra hlonger
  have hopen := hpasses ps hne hstart hlonger _ hmem
  have hmatch := (matchesPath_outputPattern_iff hne hne hps hps).mpr
    (.inl (Wildcard.matches_self hplain))
  rw [namedPath_eq_joined hps, hmatch] at hopen
  contradiction

section Kept

variable {t t' : FileTree} {output : Path} {rules others shut : List IgnoreRule} {top : Place}
  {names : List String}

/-- Modules that a scan reaches do not lie below an output directory that is kept apart. -/
theorem KeptApart.not_below (h : KeptApart t output shut top)
    (houtput : ∀ name ∈ t.destination output, Path.IsName name)
    (hshut : ∀ rule ∈ shut, rule.negated = false ∧ rule.directoryOnly = true) {s : FileTree}
    (hreaches : Reaches s (rules ++ (others ++ shut)) top "" names) :
    ∀ more, more ≠ [] → top ++ names ≠ t.destination output ++ more := by
  intro more hmore hplace
  rcases List.prefix_or_prefix_of_prefix (List.prefix_append (t.destination output) more)
    (hplace ▸ List.prefix_append top names) with habove | ⟨ps, hps⟩
  · exact h.outside habove
  · -- the output directory lies below the root, and the scan has passed its rule
    rw [← hps, List.append_assoc, List.append_cancel_left_eq] at hplace
    obtain ⟨hmem, hplain⟩ := h.left ps hps.symm
    have hne : ps ≠ [] := by
      rintro rfl
      rw [List.append_nil] at hps
      exact h.outside (hps ▸ List.prefix_refl _)
    have hproper : ∀ name ∈ ps, Path.IsName name := fun name hname =>
      houtput name (hps ▸ List.mem_append_right _ hname)
    rw [← List.append_assoc, reaches_append_iff hshut] at hreaches
    have hsame := hreaches.2.not_below hmem hne hproper hplain ⟨more, hplace.symm⟩
    rw [hsame, List.self_eq_append_right] at hplace
    exact hmore hplace

variable (ht : t.Sound) (ht' : t'.Sound) (hgrows : GrowsFor output t t')
  (houtput : ∀ name ∈ t.destination output, Path.IsName name)
  (hshut : ∀ rule ∈ shut, rule.negated = false ∧ rule.directoryOnly = true)
  (hapart : KeptApart t output shut top)

/-- Names that lead to a file lead to it in another tree that has the file, too. -/
theorem Reaches.of_file {directory : String} {place : Place} (ht : t.Sound)
    (h : Reaches t' rules place directory names) {content : ByteArray}
    (hfile : t.get? (place ++ names) = some (.file content)) :
    Reaches t rules place directory names := by
  induction h with
  | file _ _ hending hkept =>
    exact .file (ht.mem_namesIn_iff.mpr hfile) (by simp) hending hkept
  | @folder place directory name names _ hopen hkept rest ih =>
    have hplace : place ++ name :: names = place ++ [name] ++ names := by simp
    rw [hplace] at hfile
    exact .folder (ht.mem_namesIn_iff.mpr (ht.above hfile rest.ne_nil)) hopen hkept (ih hfile)

include ht ht' hgrows houtput hshut hapart

/-- A module that is reached is the same file in both trees. -/
theorem get?_of_reaches {s : FileTree} (hs : s = t ∨ s = t')
    (hreaches : Reaches s (rules ++ (others ++ shut)) top "" names) :
    ∃ content, t.get? (top ++ names) = some (.file content) ∧
      t'.get? (top ++ names) = some (.file content) := by
  have hsound : s.Sound := by
    rcases hs with rfl | rfl
    · exact ht
    · exact ht'
  have hbelow := hapart.not_below houtput hshut hreaches
  obtain ⟨content, hfile⟩ := hreaches.get? hsound
  rcases hs with rfl | rfl
  · exact ⟨content, hfile, (hgrows.get?_eq hbelow fun _ => by simp [hfile]).trans hfile⟩
  · rcases hgrows.entry _ _ hfile with hold | hmade
    · exact ⟨content, hold, hfile⟩
    · generalize top ++ names = place at hbelow hmade
      cases hmade with
      | companion more a => exact absurd rfl (hbelow _ (by simp))

/-- The same modules are reached. -/
theorem reaches_kept_iff :
    Reaches t' (rules ++ (others ++ shut)) top "" names ↔
      Reaches t (rules ++ (others ++ shut)) top "" names := by
  constructor
  · intro hreaches
    obtain ⟨content, hfile, -⟩ :=
      get?_of_reaches ht ht' hgrows houtput hshut hapart (.inr rfl) hreaches
    exact hreaches.of_file ht hfile
  · intro hreaches
    obtain ⟨content, -, hfile⟩ :=
      get?_of_reaches ht ht' hgrows houtput hshut hapart (.inl rfl) hreaches
    exact hreaches.of_file ht' hfile

end Kept

theorem ScansFrom.top_eq {t : FileTree} {root top : Path} {rules : List IgnoreRule} (ht : t.Sound)
    (h : ScansFrom t root top rules) :
    top = ⟨.slash, top.parts⟩ ∧ t.get? top.parts = some .directory := by
  obtain ⟨expanded, -, hresolve⟩ := h.resolved
  have htop : top = expanded.resolved t.current := by
    unfold FileTree.resolve at hresolve
    split at hresolve
    · contradiction
    · exact (Except.ok.inj hresolve).symm
  have hup : ".." ∉ top.parts := by
    intro hmem
    rw [htop] at hmem
    rcases Path.mem_normalise hmem with hstart | ⟨-, hne⟩
    · split at hstart
      · contradiction
      · exact (ht.isEntryName ht.current _ hstart).notUp rfl
    · exact hne rfl
  obtain ⟨place, hplace, hdirectory⟩ := (isDirectory?_eq_true_iff t top).mp h.directory
  have habsolute : top.isAbsolute = true := by
    rw [htop]
    rfl
  rw [placeOf_eq hplace, destination_of_notMem habsolute hup] at hdirectory
  exact ⟨by rw [htop]; rfl, hdirectory⟩

section Trees

variable {t t' : FileTree} (ht : t.Sound) (ht' : t'.Sound)

include ht ht'

/-- The scan of a root starts as it did in a tree that keeps directories and the root's ignore file. -/
theorem ScansFrom.of_grows {root top : Path} {rules : List IgnoreRule}
    (h : ScansFrom t root top rules) (hgrows : t.Grows t') (hhome : t'.home = t.home)
    (hsame : t'.get? (top.parts ++ [".gitignore"]) = t.get? (top.parts ++ [".gitignore"])) :
    ScansFrom t' root top rules := by
  obtain ⟨htop, hdirectory⟩ := h.top_eq ht
  obtain ⟨expanded, hexpanded, hresolve⟩ := h.resolved
  have hleads : t'.LeadsToDirectory top :=
    ((isDirectory?_eq_true_iff t top).mp h.directory).of_grows hgrows
  have hignore : top / Path.parse ".gitignore" = ⟨.slash, top.parts ++ [".gitignore"]⟩ := by
    rw [htop]
    rfl
  have hfind : t'.find (top / Path.parse ".gitignore") = t.find (top / Path.parse ".gitignore") := by
    rw [hignore]
    exact find_eq_of_get?_eq ht ht' (by decide) hdirectory (hgrows.directory _ hdirectory) hsame
  constructor
  · refine ⟨expanded, ?_, ?_⟩
    · rw [hhome]
      exact hexpanded
    · rw [FileTree.resolve, hgrows.current]
      exact hresolve
  · obtain ⟨place, hplace, hthere⟩ := hleads
    exact (exists?_eq_true_iff t' top).mpr ⟨place, _, hplace, hthere⟩
  · exact (isDirectory?_eq_true_iff t' top).mpr hleads
  · rw [ignoreFileRules, exists?_congr hfind, readText_congr hfind]
    exact h.ignoreFile

/-- A module whose file is the same in both trees has the same text. -/
theorem readText_path_congr {f : SourceFile} {content : ByteArray}
    (hfile : t.get? f.place = some (.file content)) (hfile' : t'.get? f.place = some (.file content)) :
    t'.readText f.path = t.readText f.path := by
  have hne : f.place ≠ [] := by
    intro hnil
    rw [hnil] at hfile
    cases hfile
  have hplace : f.place = f.place.dropLast ++ [f.place.getLast hne] :=
    (List.dropLast_append_getLast hne).symm
  rw [hplace] at hfile hfile'
  have hup := (ht.isEntryName hfile (f.place.getLast hne) (by simp)).notUp
  have hfind : t'.find f.path = t.find f.path := by
    rw [SourceFile.path, hplace]
    exact find_eq_of_get?_eq ht ht' hup (ht.parent hfile) (ht'.parent hfile')
      (hfile'.trans hfile.symm)
  exact readText_congr hfind

/-- It declares the same. -/
theorem declarationsIn?_congr {f : SourceFile} {content : ByteArray}
    (hfile : t.get? f.place = some (.file content)) (hfile' : t'.get? f.place = some (.file content)) :
    ClassIndex.declarationsIn? t' f = ClassIndex.declarationsIn? t f := by
  rw [ClassIndex.declarationsIn?, ClassIndex.declarationsIn?, readText_path_congr ht ht' hfile hfile']

/-- The machine takes it in as it did. -/
theorem exhaustion?_congr {f : SourceFile} {content : ByteArray} (hlimits : t'.limits = t.limits)
    (hfile : t.get? f.place = some (.file content)) (hfile' : t'.get? f.place = some (.file content)) :
    ClassIndex.exhaustion? t' f = ClassIndex.exhaustion? t f := by
  rw [ClassIndex.exhaustion?, ClassIndex.exhaustion?, readText_path_congr ht ht' hfile hfile', hlimits]

end Trees

section Scan

variable {t t' : FileTree} {output root top : Path} {rules others shut : List IgnoreRule}
  (ht : t.Sound) (ht' : t'.Sound) (hgrows : GrowsFor output t t')
  (houtput : ∀ name ∈ t.destination output, Path.IsName name)
  (hshut : ∀ rule ∈ shut, rule.negated = false ∧ rule.directoryOnly = true)

section Root

variable (hscans : ScansFrom t root top rules) (hapart : KeptApart t output shut top.parts)

include ht ht' hgrows hscans hapart

/-- The scan of a root starts once more as it did. -/
theorem ScansFrom.kept : ScansFrom t' root top rules := by
  refine hscans.of_grows ht ht' hgrows.toGrows hgrows.home ?_
  refine hgrows.get?_eq (fun more hmore hplace => ?_) hapart.ignoreFile
  -- what lies below the output directory has it above, and the root is not
  have hfront := congrArg List.dropLast hplace
  rw [List.dropLast_concat, List.dropLast_append_of_ne_nil hmore] at hfront
  exact hapart.outside (hfront ▸ List.prefix_append _ _)

include houtput hshut

/-- The scan of a root finds the same modules once more. -/
theorem scan_kept : scan t' (others ++ shut) root = scan t (others ++ shut) root := by
  have hscans' := ScansFrom.kept ht ht' hgrows hscans hapart
  rw [hscans.scan_eq, hscans'.scan_eq, modulesBelow_eq_of_reaches_iff ht ht' fun names =>
    reaches_kept_iff ht ht' hgrows houtput hshut hapart]

/-- The modules of a root declare the same once more. -/
theorem declarationsIn?_kept {files : List SourceFile}
    (hscan : scan t (others ++ shut) root = .ok files) {f : SourceFile} (hf : f ∈ files) :
    ClassIndex.declarationsIn? t' f = ClassIndex.declarationsIn? t f := by
  obtain ⟨names, -, hreaches, rfl⟩ := (hscans.mem_iff hscan f).mp hf
  obtain ⟨content, hfile, hfile'⟩ :=
    get?_of_reaches ht ht' hgrows houtput hshut hapart (.inl rfl) hreaches
  exact declarationsIn?_congr ht ht' hfile hfile'

/-- The machine takes in the modules of a root as it did. -/
theorem takesIn_kept {files : List SourceFile} (hscan : scan t (others ++ shut) root = .ok files)
    (htaken : ClassIndex.TakesIn t files) : ClassIndex.TakesIn t' files := by
  intro f hf
  obtain ⟨names, -, hreaches, rfl⟩ := (hscans.mem_iff hscan f).mp hf
  obtain ⟨content, hfile, hfile'⟩ :=
    get?_of_reaches ht ht' hgrows houtput hshut hapart (.inl rfl) hreaches
  rw [exhaustion?_congr ht ht' hgrows.limits hfile hfile']
  exact htaken _ hf

end Root

theorem addFiles_congr {files : List SourceFile}
    (h : ∀ f ∈ files, ClassIndex.declarationsIn? t' f = ClassIndex.declarationsIn? t f)
    (index : ClassIndex) : index.addFiles t' files = index.addFiles t files := by
  induction files generalizing index with
  | nil => rfl
  | cons f files ih =>
    obtain ⟨hf, hrest⟩ := List.forall_mem_cons.mp h
    simp only [ClassIndex.addFiles, hf, ih hrest]

include ht ht' hgrows houtput hshut

/-- Roots that can all be scanned give the same index once more. -/
theorem addRoots_kept {roots : List Path}
    (hapart : ∀ root ∈ roots, ∀ top rules, ScansFrom t root top rules →
      KeptApart t output shut top.parts)
    {index found : ClassIndex} {log : Log}
    (h : index.addRoots t (others ++ shut) roots = (found, log, none)) :
    index.addRoots t' (others ++ shut) roots = (found, log, none) := by
  induction roots generalizing index log with
  | nil => exact h
  | cons root roots ih =>
    obtain ⟨hfirst, hrest⟩ := List.forall_mem_cons.mp hapart
    obtain ⟨files, more, hscan, htaken, hmore, rfl⟩ := ClassIndex.addRoots_cons_eq_none_iff.mp h
    obtain ⟨top, rules, hscans⟩ := exists_scansFrom hscan
    have hkept := hfirst top rules hscans
    -- the root is scanned as before, and what its files declare is read as before
    have hsame : scan t' (others ++ shut) root = scan t (others ++ shut) root :=
      scan_kept ht ht' hgrows houtput hshut hscans hkept
    have hfiles := addFiles_congr (fun f hf =>
      declarationsIn?_kept ht ht' hgrows houtput hshut hscans hkept hscan hf) index
    refine ClassIndex.addRoots_cons_eq_none_iff.mpr ⟨files, more, hsame.trans hscan, ?_, ?_, ?_⟩
    · exact takesIn_kept ht ht' hgrows houtput hshut hscans hkept hscan htaken
    · rw [hfiles]
      exact ih hrest hmore
    · rw [hfiles]

/-- The classes below roots are discovered once more, if the output directory is kept apart from the
scan of each root. -/
theorem discoverClasses_kept {roots : List Path} {d : Discovery}
    (hapart : ∀ root ∈ roots, ∀ top rules, ScansFrom t root top rules →
      KeptApart t output shut top.parts)
    (h : discoverClasses t (others ++ shut) roots = .ok d) :
    discoverClasses t' (others ++ shut) roots = .ok d := by
  unfold discoverClasses at h ⊢
  rcases hadd : ClassIndex.empty.addRoots t (others ++ shut) roots with ⟨index, log, - | fault⟩
  · rw [hadd] at h
    rw [addRoots_kept ht ht' hgrows houtput hshut hapart hadd]
    exact h
  · rw [hadd] at h
    contradiction

end Scan

end Roster
