import Mathlib.Data.List.Basic
import Roster.Proofs.RowsOfSigns
import Roster.Proofs.ScannedModules
import Roster.Proofs.StableScan

/-! # Modules that are skipped

A file that holds no module is skipped. It leaves nothing behind: no class, no table of imports, and
no name of a module that would stand in the way of another file. So discovery finds the same in a
tree without such files, whether some of them are taken away or all. Only a file at which the machine
gives out is not skipped, though it holds no module either: with it nothing is discovered at all.

* `NoModule`: what makes the content of a file no module.
* `Sheds`: a tree that has lost nothing but files without a module, and no ignore file.
* `Sheds.scan_of_ok`, `Sheds.addFiles_fst`: its scans lack these files, and they added nothing.
* `discovered?_eq_some_iff_without`: what may be taken away, wherever it lies and however much of it.
* `discovered?_of_signedSite`: a file that spoils the discovery of the others.
-/

namespace Roster

/-! ## Contents that are no module -/

/-- Why the content of a file is no module. -/
inductive NoModule (content : ByteArray) : Prop
  | encoding {fault : Text.Utf8Fault} (hdecode : Text.decodeUtf8 content = .error fault)
  | nul {text : String} (hdecode : Text.decodeUtf8 content = .ok text) (hnul : '\x00' ∈ text.toList)
  | grammar {text : String} (hdecode : Text.decodeUtf8 content = .ok text)
      (hparse : Source.parse? (String.ofList (Text.unifyLineEnds text.toList)) = none)

theorem Text.mem_unifyLineEnds {c : Char} (hfeed : c ≠ '\n') (hreturn : c ≠ '\r') {cs : List Char} :
    c ∈ unifyLineEnds cs ↔ c ∈ cs := by
  fun_induction unifyLineEnds cs <;> simp_all

/-- A text with a NUL is no module. -/
theorem Source.parse?_of_nul {text : String} (h : '\x00' ∈ text.toList) : parse? text = none := by
  unfold parse?
  simp [h]

theorem Source.declarations?_eq_none_iff (file : SourceFile) (text : String) :
    declarations? file text = none ↔ parse? text = none := by
  unfold declarations?
  cases parse? text <;> simp

/-- The statements in the content of a file. -/
def statements? (content : ByteArray) : Option (List Source.Stmt) :=
  (Text.decodeUtf8 content).toOption.bind fun text =>
    Source.parse? (String.ofList (Text.unifyLineEnds text.toList))

theorem statements?_of_error {content : ByteArray} {fault : Text.Utf8Fault}
    (h : Text.decodeUtf8 content = .error fault) : statements? content = none := by
  simp [statements?, h, Except.toOption]

theorem statements?_of_ok {content : ByteArray} {text : String}
    (h : Text.decodeUtf8 content = .ok text) :
    statements? content = Source.parse? (String.ofList (Text.unifyLineEnds text.toList)) := by
  simp [statements?, h, Except.toOption]

theorem noModule_iff (content : ByteArray) : NoModule content ↔ statements? content = none := by
  constructor
  · rintro (hdecode | ⟨hdecode, hnul⟩ | ⟨hdecode, hparse⟩)
    · exact statements?_of_error hdecode
    · rw [statements?_of_ok hdecode]
      apply Source.parse?_of_nul
      rw [String.toList_ofList]
      exact (Text.mem_unifyLineEnds (by decide) (by decide)).mpr hnul
    · rw [statements?_of_ok hdecode, hparse]
  · intro hnone
    cases hdecode : Text.decodeUtf8 content with
    | error fault => exact .encoding hdecode
    | ok text => exact .grammar hdecode (statements?_of_ok hdecode ▸ hnone)

instance : DecidablePred NoModule := fun content =>
  decidable_of_iff ((statements? content).isNone = true)
    (by rw [Option.isNone_iff_eq_none, noModule_iff])

/-- A file that can be read is skipped exactly when its content is no module. -/
theorem declarationsIn?_eq_none_iff {t : FileTree} {f : SourceFile} {content : ByteArray}
    (hread : t.read f.path = .ok content) :
    ClassIndex.declarationsIn? t f = none ↔ NoModule content := by
  rw [noModule_iff, ClassIndex.declarationsIn?, FileTree.readText, hread]
  cases hdecode : Text.decodeUtf8 content with
  | error fault => simp [hdecode, statements?_of_error]
  | ok text => simp [hdecode, statements?_of_ok, Source.declarations?_eq_none_iff]

/-! ## Trees that have lost files -/

namespace FileTree

/-- A tree that has lost nothing but files without a module, and no ignore file. -/
structure Sheds (t t' : FileTree) : Prop where
  entries : t'.Extends t
  directory : ∀ place, t.get? place = some .directory → t'.get? place = some .directory
  home : t'.home = t.home
  limits : t'.limits = t.limits
  ignoreFile : ∀ place, t'.get? (place ++ [".gitignore"]) = t.get? (place ++ [".gitignore"])
  lost : ∀ place content, t.get? place = some (.file content) → t'.get? place = none →
    NoModule content

/-- Whether the file of a module is in a tree. -/
def has (t : FileTree) (f : SourceFile) : Bool := (t.get? f.place).isSome

variable {t t' : FileTree}

theorem Sheds.grows (h : t.Sheds t') : t.Grows t' := ⟨h.entries.current.symm, h.directory⟩

/-- A file that is still there is the file that was there. -/
theorem Sheds.get?_of_isSome (h : t.Sheds t') {place : Place} {content : ByteArray}
    (hfile : t.get? place = some (.file content)) (hsome : (t'.get? place).isSome = true) :
    t'.get? place = some (.file content) := by
  obtain ⟨e, hentry⟩ := Option.isSome_iff_exists.mp hsome
  rw [hentry, ← h.entries.entry _ _ hentry, hfile]

/-- The path of a file leads to it, unless it is too long. -/
theorem Sound.read_slash (ht : t.Sound) {place : Place} {content : ByteArray}
    (hfile : t.get? place = some (.file content)) :
    (∃ fault, t.read ⟨.slash, place⟩ = .error fault) ∨ t.read ⟨.slash, place⟩ = .ok content := by
  cases hplace : t.placeOf ⟨.slash, place⟩ with
  | error fault =>
    left
    refine ⟨fault, ?_⟩
    rw [read, find, hplace]
    rfl
  | ok found =>
    right
    -- every name on the way is there, so a path that is not refused ends where its names say
    have hfound := ((placeOf_eq_ok_iff ..).mp hplace).2.2
    have hway : t.descend [] place = .ok place := @Sound.descend t [] place _ ht hfile
    obtain rfl : place = found := Except.ok.inj (hway.symm.trans hfound)
    rw [read, find, hplace]
    simp only [bind, Except.bind, hfile]

end FileTree

open FileTree

section Trees

variable {t t' : FileTree} (ht : t.Sound) (ht' : t'.Sound) (h : t.Sheds t')

include ht in
/-- A file without a module declares nothing, whether or not it can be read. -/
theorem declarationsIn?_of_noModule {f : SourceFile} {content : ByteArray}
    (hfile : t.get? f.place = some (.file content)) (hcontent : NoModule content) :
    ClassIndex.declarationsIn? t f = none := by
  rcases ht.read_slash hfile with ⟨fault, hread⟩ | hread
  · rw [ClassIndex.declarationsIn?, readText, SourceFile.path, hread]
  · exact (declarationsIn?_eq_none_iff hread).mpr hcontent

include ht ht' h

/-! ### Scans -/

/-- Names lead to a module's file as they did, if it is still there. -/
theorem FileTree.Sheds.reaches_iff {rules : List IgnoreRule} {place : Place} {directory : String}
    {names : List String} :
    Reaches t' rules place directory names ↔
      Reaches t rules place directory names ∧ (t'.get? (place ++ names)).isSome = true := by
  constructor
  · intro hreaches
    obtain ⟨content, hfile⟩ := hreaches.get? ht'
    refine ⟨hreaches.of_file ht (h.entries.entry _ _ hfile), ?_⟩
    rw [hfile]
    rfl
  · rintro ⟨hreaches, hsome⟩
    obtain ⟨content, hfile⟩ := hreaches.get? ht
    exact hreaches.of_file ht' (h.get?_of_isSome hfile hsome)

theorem FileTree.Sheds.scansFrom_iff {root top : Path} {rules : List IgnoreRule} :
    ScansFrom t' root top rules ↔ ScansFrom t root top rules := by
  constructor
  · intro hscans
    exact hscans.of_grows ht' ht h.entries.grows h.home.symm (h.ignoreFile _).symm
  · intro hscans
    exact hscans.of_grows ht ht' h.grows h.home (h.ignoreFile _)

/-- A scan finds the files that are still there, in the same order. -/
theorem FileTree.Sheds.scan_of_ok {extra : List IgnoreRule} {root : Path} {files : List SourceFile}
    (hscan : scan t extra root = .ok files) :
    scan t' extra root = .ok (files.filter t'.has) := by
  obtain ⟨top, rules, hscans⟩ := exists_scansFrom hscan
  have hscans' := (h.scansFrom_iff ht ht').mpr hscans
  rw [hscans.scan_eq] at hscan
  rw [hscans'.scan_eq, ← Except.ok.inj hscan, List.filter_map]
  congr 2
  -- fewer entries lower the bound on the depth, but what is reached lies within either bound
  exact modulesBelow_eq_filter ht ht' _ fun names => h.reaches_iff ht ht'

/-- What could not be scanned still cannot. -/
theorem FileTree.Sheds.scan_of_error {extra : List IgnoreRule} {root : Path} {fault : ScanFault}
    (hscan : scan t extra root = .error fault) : ∃ fault', scan t' extra root = .error fault' := by
  cases hscan' : scan t' extra root with
  | error fault' => exact ⟨fault', rfl⟩
  | ok files =>
    obtain ⟨top, rules, hscans⟩ := exists_scansFrom hscan'
    rw [((h.scansFrom_iff ht ht').mp hscans).scan_eq] at hscan
    contradiction

/-! ### The index -/

/-- A file that is still there declares what it did. -/
theorem FileTree.Sheds.declarationsIn?_of_has {f : SourceFile} {content : ByteArray}
    (hfile : t.get? f.place = some (.file content)) (hhas : t'.has f = true) :
    ClassIndex.declarationsIn? t' f = ClassIndex.declarationsIn? t f :=
  declarationsIn?_congr ht ht' hfile (h.get?_of_isSome hfile hhas)

omit ht' in
/-- A file that is gone declared nothing. -/
theorem FileTree.Sheds.declarationsIn?_of_gone {f : SourceFile} {content : ByteArray}
    (hfile : t.get? f.place = some (.file content)) (hgone : t'.has f = false) :
    ClassIndex.declarationsIn? t f = none := by
  have hlost : t'.get? f.place = none := Option.isNone_iff_eq_none.mp (by simpa [has] using hgone)
  exact declarationsIn?_of_noModule ht hfile (h.lost _ _ hfile hlost)

/-- Files that are gone had added nothing to the index. -/
theorem FileTree.Sheds.addFiles_fst {files : List SourceFile}
    (hfiles : ∀ f ∈ files, ∃ content, t.get? f.place = some (.file content)) (index : ClassIndex) :
    (index.addFiles t' (files.filter t'.has)).1 = (index.addFiles t files).1 := by
  -- for any index, since the files in front of one have left theirs
  induction files generalizing index with
  | nil => rfl
  | cons f files ih =>
    obtain ⟨⟨content, hfile⟩, hrest⟩ := List.forall_mem_cons.mp hfiles
    cases hhas : t'.has f with
    | true =>
      rw [List.filter_cons_of_pos hhas, ClassIndex.addFiles, ClassIndex.addFiles,
        h.declarationsIn?_of_has ht ht' hfile hhas]
      exact ih hrest _
    | false =>
      rw [List.filter_cons_of_neg (by simp [hhas]), ClassIndex.addFiles,
        h.declarationsIn?_of_gone ht hfile hhas]
      exact ih hrest index

/-- The files below all roots are those that are still there, in the same order. -/
theorem FileTree.Sheds.scannedFiles?_of_ok {extra : List IgnoreRule} {roots : List Path}
    {files : List SourceFile} (hscan : ClassIndex.scannedFiles? t extra roots = .ok files) :
    ClassIndex.scannedFiles? t' extra roots = .ok (files.filter t'.has) := by
  induction roots generalizing files with
  | nil =>
    obtain rfl : files = [] := (Except.ok.inj hscan).symm
    rfl
  | cons root roots ih =>
    obtain ⟨first, rest, hfirst, hrest, rfl⟩ := ClassIndex.scannedFiles?_cons_eq_ok_iff.mp hscan
    rw [List.filter_append]
    exact ClassIndex.scannedFiles?_cons_eq_ok_iff.mpr
      ⟨_, _, h.scan_of_ok ht ht' hfirst, ih hrest, rfl⟩

/-- Roots that can all be scanned now could all be scanned before. -/
theorem FileTree.Sheds.exists_scannedFiles {extra : List IgnoreRule} {roots : List Path}
    {files : List SourceFile} (hscan : ClassIndex.scannedFiles? t' extra roots = .ok files) :
    ∃ before, ClassIndex.scannedFiles? t extra roots = .ok before := by
  induction roots generalizing files with
  | nil => exact ⟨[], rfl⟩
  | cons root roots ih =>
    obtain ⟨first, rest, hfirst, hrest, -⟩ := ClassIndex.scannedFiles?_cons_eq_ok_iff.mp hscan
    obtain ⟨others, hothers⟩ := ih hrest
    cases hroot : scan t extra root with
    | error fault =>
      obtain ⟨fault', hfault⟩ := h.scan_of_error ht ht' hroot
      rw [hfirst] at hfault
      contradiction
    | ok found => exact ⟨_, ClassIndex.scannedFiles?_cons_eq_ok_iff.mpr ⟨_, _, hroot, hothers, rfl⟩⟩

end Trees

/-! ## What is discovered -/

/-- All that discovery finds, and where what is marked lies in it; `none` if it is given up. What is
reported on the way is left out. -/
def discovered? (t : FileTree) (rules : List IgnoreRule) (roots : List Path) :
    Option (TypeGraph × List TypeId) :=
  (discoverClasses t rules roots).toOption.map fun d => (d.graph, d.found)

theorem discovered?_eq_some_iff {t : FileTree} {rules : List IgnoreRule} {roots : List Path}
    {found : TypeGraph × List TypeId} :
    discovered? t rules roots = some found ↔
      ∃ files, ClassIndex.scannedFiles? t rules roots = .ok files ∧ ClassIndex.TakesIn t files ∧
        found = ((ClassIndex.indexOf t files).toDiscovery.graph,
          (ClassIndex.indexOf t files).toDiscovery.found) := by
  rw [discovered?, Option.map_eq_some_iff]
  constructor
  · rintro ⟨d, hd, rfl⟩
    cases hfound : discoverClasses t rules roots with
    | error broken =>
      rw [hfound] at hd
      contradiction
    | ok d' =>
      rw [hfound] at hd
      obtain rfl := Option.some.inj hd
      obtain ⟨files, hfiles, htaken, rfl⟩ := ClassIndex.discoverClasses_eq_ok_iff.mp hfound
      exact ⟨files, hfiles, htaken, rfl⟩
  · rintro ⟨files, hfiles, htaken, rfl⟩
    rw [ClassIndex.discoverClasses_eq_ok_iff.mpr ⟨files, hfiles, htaken, rfl⟩]
    exact ⟨_, rfl, rfl⟩

/-- A file that the scan of a root gives. -/
def IsScanned (t : FileTree) (rules : List IgnoreRule) (roots : List Path) (f : SourceFile) : Prop :=
  ∃ root ∈ roots, ∃ files, scan t rules root = .ok files ∧ f ∈ files

theorem mem_scannedFiles_iff {t : FileTree} {rules : List IgnoreRule} {roots : List Path}
    {files : List SourceFile} (h : ClassIndex.scannedFiles? t rules roots = .ok files)
    (f : SourceFile) : f ∈ files ↔ IsScanned t rules roots f := by
  induction roots generalizing files with
  | nil =>
    obtain rfl : files = [] := (Except.ok.inj h).symm
    simp [IsScanned]
  | cons root roots ih =>
    obtain ⟨first, rest, hfirst, hrest, rfl⟩ := ClassIndex.scannedFiles?_cons_eq_ok_iff.mp h
    simp [IsScanned, List.mem_append, ih hrest, hfirst]

theorem IsScanned.get? {t : FileTree} (ht : t.Sound) {rules : List IgnoreRule} {roots : List Path}
    {f : SourceFile} (h : IsScanned t rules roots f) :
    ∃ content, t.get? f.place = some (.file content) := by
  obtain ⟨root, -, files, hscan, hf⟩ := h
  obtain ⟨top, rules, hscans⟩ := exists_scansFrom hscan
  obtain ⟨names, -, hreaches, rfl⟩ := (hscans.mem_iff hscan f).mp hf
  exact hreaches.get? ht

/-- Something is discovered exactly if the same is discovered without the files that are gone, and the
machine takes these in. -/
theorem FileTree.Sheds.discovered?_eq_some_iff {t t' : FileTree} (ht : t.Sound) (ht' : t'.Sound)
    (h : t.Sheds t') (rules : List IgnoreRule) (roots : List Path) (found : TypeGraph × List TypeId) :
    Roster.discovered? t rules roots = some found ↔
      Roster.discovered? t' rules roots = some found ∧
        ∀ f, IsScanned t rules roots f → t'.has f = false → ClassIndex.exhaustion? t f = none := by
  -- the files below the roots, with those that are gone and without them, give one index
  have hindex : ∀ {files}, ClassIndex.scannedFiles? t rules roots = .ok files →
      ClassIndex.indexOf t' (files.filter t'.has) = ClassIndex.indexOf t files := by
    intro files hfiles
    exact h.addFiles_fst ht ht'
      (fun f hf => ((mem_scannedFiles_iff hfiles f).mp hf).get? ht) ClassIndex.empty
  have hkept : ∀ {f}, IsScanned t rules roots f → t'.has f = true →
      ClassIndex.exhaustion? t' f = ClassIndex.exhaustion? t f := by
    intro f hscanned hhas
    obtain ⟨content, hfile⟩ := hscanned.get? ht
    exact exhaustion?_congr ht ht' h.limits hfile (h.get?_of_isSome hfile hhas)
  constructor
  · intro hfound
    obtain ⟨files, hfiles, htaken, rfl⟩ := Roster.discovered?_eq_some_iff.mp hfound
    have hmem := mem_scannedFiles_iff hfiles
    refine ⟨Roster.discovered?_eq_some_iff.mpr
      ⟨_, h.scannedFiles?_of_ok ht ht' hfiles, ?_, by rw [hindex hfiles]⟩,
      fun f hscanned _ => htaken f ((hmem f).mpr hscanned)⟩
    intro f hf
    obtain ⟨hf, hhas⟩ := List.mem_filter.mp hf
    rw [hkept ((hmem f).mp hf) hhas]
    exact htaken f hf
  · rintro ⟨hfound, hgone⟩
    obtain ⟨left, hleft, htaken, rfl⟩ := Roster.discovered?_eq_some_iff.mp hfound
    obtain ⟨files, hfiles⟩ := h.exists_scannedFiles ht ht' hleft
    obtain rfl : files.filter t'.has = left :=
      Except.ok.inj ((h.scannedFiles?_of_ok ht ht' hfiles).symm.trans hleft)
    refine Roster.discovered?_eq_some_iff.mpr ⟨files, hfiles, fun f hf => ?_, by rw [hindex hfiles]⟩
    have hscanned := (mem_scannedFiles_iff hfiles f).mp hf
    cases hhas : t'.has f with
    | false => exact hgone f hscanned hhas
    | true =>
      rw [← hkept hscanned hhas]
      exact htaken f (List.mem_filter.mpr ⟨hf, hhas⟩)

/-! ## Taking files away -/

namespace FileTree

/-- The tree without some of its entries. -/
def without (t : FileTree) (gone : Place × FileEntry → Prop) [DecidablePred gone] : FileTree :=
  { t with entries := t.entries.filter fun e => ¬ gone e }

/-- What a file holds. -/
def contentOf? : FileEntry → Option ByteArray
  | .file content => some content
  | .directory => none

/-- An entry is a file named as a module is, and its content is no module. -/
structure IsSkipped (e : Place × FileEntry) : Prop where
  ending : ∃ name ∈ e.1.getLast?, name.endsWith ".py" = true
  content : ∃ content ∈ contentOf? e.2, NoModule content

instance : DecidablePred IsSkipped := fun e =>
  decidable_of_iff ((∃ name ∈ e.1.getLast?, name.endsWith ".py" = true) ∧
      ∃ content ∈ contentOf? e.2, NoModule content)
    ⟨fun ⟨hending, hcontent⟩ => ⟨hending, hcontent⟩, fun h => ⟨h.ending, h.content⟩⟩

theorem not_isSkipped_directory (place : Place) : ¬ IsSkipped (place, .directory) := by
  rintro ⟨-, content, hcontent, -⟩
  contradiction

variable {t : FileTree} {gone : Place × FileEntry → Prop} [DecidablePred gone] {place : Place}
  {e : FileEntry} (ht : t.Sound) (hgone : ∀ e ∈ t.entries, gone e → IsSkipped e)

include ht

theorem Sound.get?_without (hne : place ≠ []) :
    (t.without gone).get? place = some e ↔ t.get? place = some e ∧ ¬ gone (place, e) := by
  have hkeys : ((t.without gone).entries.map (·.1)).Nodup :=
    ht.keys.sublist (List.filter_sublist.map _)
  rw [get?_eq_some_iff_mem hkeys hne, ht.get?_eq_some_iff hne, without, List.mem_filter,
    decide_eq_true_iff]

/-- Nothing is there that was not there before. -/
theorem Sound.without_extends : (t.without gone).Extends t := by
  refine ⟨rfl, fun place e hentry => ?_⟩
  by_cases hne : place = []
  · rw [hne] at hentry ⊢
    exact hentry
  · exact ((ht.get?_without hne).mp hentry).1

include hgone

/-- What may not be skipped stays. -/
theorem Sound.get?_without_of_not (hkept : ¬ IsSkipped (place, e))
    (hentry : t.get? place = some e) : (t.without gone).get? place = some e := by
  by_cases hne : place = []
  · rw [hne] at hentry ⊢
    exact hentry
  · refine (ht.get?_without hne).mpr ⟨hentry, fun hgoes => hkept ?_⟩
    exact hgone _ ((ht.get?_eq_some_iff hne).mp hentry) hgoes

/-- A tree stays sound without skipped files, since nothing lies in a file. -/
theorem Sound.without : (t.without gone).Sound where
  keys := ht.keys.sublist (List.filter_sublist.map _)
  rooted := fun e he => ht.rooted e (List.mem_of_mem_filter he)
  names := fun e he => ht.names e (List.mem_of_mem_filter he)
  parents := by
    intro e he
    have hparent := ht.parents e (List.mem_of_mem_filter he)
    exact ht.get?_without_of_not hgone (not_isSkipped_directory _) hparent
  current := ht.get?_without_of_not hgone (not_isSkipped_directory _) ht.current
  home := ht.home

theorem Sound.sheds_without : t.Sheds (t.without gone) where
  entries := ht.without_extends
  directory := fun place => ht.get?_without_of_not hgone (not_isSkipped_directory _)
  home := rfl
  limits := rfl
  ignoreFile := by
    intro place
    -- a file of rules is no module, so it is not among those that are gone
    have hname : (".gitignore".endsWith ".py") = false := by decide +kernel
    cases hentry : t.get? (place ++ [".gitignore"]) with
    | none =>
      rw [Option.eq_none_iff_forall_ne_some]
      intro e he
      rw [ht.without_extends.entry _ _ he] at hentry
      contradiction
    | some e =>
      refine ht.get?_without_of_not hgone ?_ hentry
      rintro ⟨⟨name, hlast, hending⟩, -⟩
      rw [List.getLast?_concat] at hlast
      rw [← Option.some.inj hlast, hname] at hending
      contradiction
  lost := by
    intro place content hfile hlost
    by_contra hmodule
    have hstays : (t.without gone).get? place = some (.file content) := by
      refine ht.get?_without_of_not hgone ?_ hfile
      rintro ⟨-, held, hheld, hcontent⟩
      obtain rfl := Option.some.inj hheld
      exact hmodule hcontent
    rw [hlost] at hstays
    contradiction

end FileTree

/-- Discovery finds what it finds without files that hold no module, some of them or all: the same
classes, with their fields, kinds, origins and ancestors, in the same order. Only if the machine gives
out at one of those files that is scanned, discovery finds nothing with them, whatever it finds
without. -/
theorem discovered?_eq_some_iff_without {t : FileTree} (ht : t.Sound)
    (gone : Place × FileEntry → Prop) [DecidablePred gone]
    (hgone : ∀ e ∈ t.entries, gone e → IsSkipped e) (rules : List IgnoreRule) (roots : List Path)
    (found : TypeGraph × List TypeId) :
    discovered? t rules roots = some found ↔
      discovered? (t.without gone) rules roots = some found ∧
        ∀ f, IsScanned t rules roots f → (t.without gone).has f = false →
          ClassIndex.exhaustion? t f = none :=
  (ht.sheds_without hgone).discovered?_eq_some_iff ht (ht.without hgone) rules roots found

/-- A package beside a file of the same name that is not UTF-8, a file with a NUL, and a file that
is cut off. -/
def brokenSite : FileTree where
  entries := [(["src"], .directory), (["src", "m.py"], .file ⟨#[0xFF]⟩), (["src", "m"], .directory),
    (["src", "m", "__init__.py"], .file "@fieldable\nclass A:\n    x: int\n".toUTF8),
    (["src", "nul.py"], .file "x = 1\x00\n".toUTF8), (["src", "short.py"], .file "class A(".toUTF8)]
  current := []
  home := []

/-- Of its four files only the package is left, and its class is found as before. -/
theorem discovered?_of_brokenSite :
    brokenSite.Sound ∧
      (brokenSite.without IsSkipped).entries.map (·.1)
        = [["src"], ["src", "m"], ["src", "m", "__init__.py"]] ∧
      ∃ found, discovered? (brokenSite.without IsSkipped) [] [⟨.slash, ["src"]⟩] = some found ∧
        discovered? brokenSite [] [⟨.slash, ["src"]⟩] = some found ∧ found.2 = [0] := by
  have hsound : brokenSite.Sound := by decide +kernel
  -- the names of a directory with several files are sorted, which only runs where few are left
  have hleft : (discovered? (brokenSite.without IsSkipped) [] [⟨.slash, ["src"]⟩]).map (·.2)
      = some [0] := by decide +kernel
  obtain ⟨found, hfound, hplaces⟩ := Option.map_eq_some_iff.mp hleft
  have hsame := discovered?_eq_some_iff_without hsound IsSkipped (fun _ _ hskipped => hskipped) []
    [⟨.slash, ["src"]⟩] found
  refine ⟨hsound, by decide +kernel, found, hfound, hsame.mpr ⟨hfound, fun f _ _ => ?_⟩, hplaces⟩
  exact ClassIndex.takesIn_of_unlimited (fun _ => rfl) [f] f List.mem_cons_self

/-! ## A file that spoils the others -/

/-- A row of signs beside a module with a class. -/
def signedSite (n : Nat) : FileTree where
  entries := [(["src"], .directory), (["src", "a.py"], .file (Source.rowOfSigns n).toUTF8),
    (["src", "b.py"], .file "@fieldable\nclass B:\n    f: int\n".toUTF8)]
  current := []
  home := []
  limits := { Limits.ample with modules := Source.signExhaustion? }

/-- The file with the row of signs. -/
def signedFile : SourceFile := ⟨["src", "a.py"], "a.py", "a"⟩

theorem sound_signedSite (n : Nat) : (signedSite n).Sound where
  keys := by simp [signedSite]
  rooted := by simp [signedSite]
  names := by
    have hall : ∀ name ∈ ["src", "a.py", "b.py"], Path.IsEntryName name := by decide
    intro e he name hname
    simp only [signedSite, List.mem_cons, List.not_mem_nil, or_false] at he
    rcases he with rfl | rfl | rfl <;>
      exact hall name (by simp only [List.mem_cons, List.not_mem_nil, or_false] at hname ⊢; tauto)
  parents := by
    intro e he
    simp only [signedSite, List.mem_cons, List.not_mem_nil, or_false] at he
    rcases he with rfl | rfl | rfl <;> rfl
  current := rfl
  home := by simp [signedSite]

theorem readText_signedFile (n : Nat) :
    (signedSite n).readText signedFile.path = .ok (Source.rowOfSigns n) := by
  have hread : (signedSite n).read signedFile.path = .ok (Source.rowOfSigns n).toUTF8 := rfl
  have hreturn := Source.notMem_rowOfSigns (c := '\r') (by decide) (by decide) n
  rw [readText, hread]
  simp only [Text.decodeUtf8_toUTF8, Text.unifyLineEnds_of_notMem hreturn, String.ofList_toList]

/-- It holds no module. -/
theorem isSkipped_signedFile (n : Nat) :
    IsSkipped (["src", "a.py"], .file (Source.rowOfSigns (n + 1)).toUTF8) := by
  have hreturn := Source.notMem_rowOfSigns (c := '\r') (by decide) (by decide) (n + 1)
  refine ⟨⟨"a.py", rfl, by decide +kernel⟩, _, rfl, .grammar (Text.decodeUtf8_toUTF8 _) ?_⟩
  rw [Text.unifyLineEnds_of_notMem hreturn, String.ofList_toList]
  exact Source.parse?_rowOfSigns n

theorem exhaustion?_signedFile {n : Nat} (h : Source.signBound < n + 1) :
    ClassIndex.exhaustion? (signedSite (n + 1)) signedFile = some .memory := by
  have hnul : (Source.rowOfSigns (n + 1)).toList.contains '\x00' = false := by
    simpa using Source.notMem_rowOfSigns (by decide) (by decide) (n + 1)
  rw [ClassIndex.exhaustion?, readText_signedFile]
  simp only [hnul, Bool.false_eq_true, if_false]
  exact (Source.signExhaustion?_rowOfSigns n).trans (if_pos h)

theorem isScanned_signedFile (n : Nat) :
    IsScanned (signedSite n) [] [⟨.slash, ["src"]⟩] signedFile := by
  have hkept : ["a.py", "b.py"].filter (fun name =>
      name.endsWith ".py" && !ignored [] (entryPath "" name) false) = ["a.py", "b.py"] := by
    decide +kernel
  have hbelow := @ClassIndex.modulesBelow_of_pairwise (signedSite n) ["src"]
    ["a.py", "b.py"] [] rfl rfl (by decide) .nil [] 3 ""
  rw [hkept] at hbelow
  have hresolve : (signedSite n).resolve ⟨.slash, ["src"]⟩ = .ok ⟨.slash, ["src"]⟩ := rfl
  refine ⟨_, List.mem_cons_self, _, ClassIndex.scan_of_directory rfl hresolve rfl rfl rfl, ?_⟩
  rw [List.append_nil, show (signedSite n).entries.length + 1 = 3 + 1 from rfl, hbelow]
  exact List.mem_cons_self

/-- Without the file with the row the class beside it is left. -/
theorem without_signedSite (n : Nat) :
    (signedSite (n + 1)).without IsSkipped = { signedSite 0 with
      entries := [(["src"], .directory),
        (["src", "b.py"], .file "@fieldable\nclass B:\n    f: int\n".toUTF8)] } := by
  have hclass : ¬ IsSkipped (["src", "b.py"], .file "@fieldable\nclass B:\n    f: int\n".toUTF8) := by
    decide +kernel
  rw [FileTree.without, signedSite, List.filter_cons_of_pos (by simp [not_isSkipped_directory]),
    List.filter_cons_of_neg (by simpa using isSkipped_signedFile n),
    List.filter_cons_of_pos (by simpa using hclass), List.filter_nil]
  rfl

/-- The file holds no module, and without it the class beside it is found. With it nothing is. -/
theorem discovered?_of_signedSite :
    (∃ e ∈ (signedSite 10000).entries, e.1 = ["src", "a.py"] ∧ IsSkipped e) ∧
      (discovered? ((signedSite 10000).without IsSkipped) [] [⟨.slash, ["src"]⟩]).map (·.2)
        = some [0] ∧
      discovered? (signedSite 10000) [] [⟨.slash, ["src"]⟩] = none := by
  have hwithout := without_signedSite 9999
  refine ⟨⟨_, List.mem_cons_of_mem _ List.mem_cons_self, rfl, isSkipped_signedFile 9999⟩, ?_, ?_⟩
  · rw [hwithout]
    decide +kernel
  · rw [Option.eq_none_iff_forall_ne_some]
    intro found hfound
    have hsound := sound_signedSite 10000
    have hgone : ∀ e ∈ (signedSite 10000).entries, IsSkipped e → IsSkipped e := fun _ _ h => h
    have htaken := ((hsound.sheds_without hgone).discovered?_eq_some_iff hsound
      (hsound.without hgone) [] _ found).mp hfound |>.2 signedFile (isScanned_signedFile _)
    rw [exhaustion?_signedFile (n := 9999) (by decide)] at htaken
    rw [hwithout] at htaken
    exact absurd (htaken rfl) (by simp)

end Roster
