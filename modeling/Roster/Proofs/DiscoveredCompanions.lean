import Roster.Proofs.OutputGrowth
import Roster.Proofs.ScanOrder

/-! # The companions of discovered classes

A class that is discovered in a sound tree has an identifier as its name, and a package whose parts
are pieces of names of the tree. So its companion has a path of single names, and these are as short
as the names of the tree; only a companion of a module without a name has a package of its own, of
one directory.

* `noSlash_moduleName`, `size_le_of_mem_moduleName`: the parts of the name of a module.
* `Artifact.Fits.of_flat`, `Artifact.Fits.of_moduleName`: the two kinds of packages.
* `exists_module_of_mem_values`: where a class of an index comes from.
* `fits_of_discoverClasses`: the companion of a discovered class fits below an output directory.
-/

namespace Roster

/-! ## The names of modules -/

/-- The parts that the name of a module is joined from. -/
theorem exists_parts_moduleName (relativePath : String) :
    ∃ parts, moduleName relativePath = String.intercalate "." parts ∧ parts ⊆ splitText '/'
      (String.ofList (relativePath.toList.take (relativePath.length - 3))) := by
  refine ⟨_, rfl, ?_⟩
  split
  · exact List.dropLast_subset _
  · exact List.Subset.refl _

theorem noSlash_moduleName (relativePath : String) : '/' ∉ (moduleName relativePath).toList := by
  obtain ⟨parts, hname, hparts⟩ := exists_parts_moduleName relativePath
  rw [hname]
  refine notMem_intercalate (by decide) fun part hpart hslash => ?_
  exact (mem_of_mem_splitText (hparts hpart) hslash).2 rfl

/-- A piece of the start of a path is no longer than one of its names. -/
theorem exists_name_of_mem_start {names : List String} (hne : names ≠ [])
    (hnames : ∀ name ∈ names, Path.IsName name) (n : Nat) {piece : String}
    (h : piece ∈ splitText '/' (String.ofList ((Path.joined names).toList.take n))) :
    ∃ name ∈ names, piece.utf8ByteSize ≤ name.utf8ByteSize := by
  obtain ⟨tail, rest, hrest⟩ : ∃ tail rest,
      splitChars '/' ((Path.joined names).toList.drop n) = tail :: rest := by
    rw [splitChars_eq_splitOn]
    exact List.exists_cons_of_ne_nil (List.splitOn_ne_nil _ _)
  obtain ⟨front, last, hstart, hall⟩ :=
    splitChars_append hrest ((Path.joined names).toList.take n)
  rw [List.take_append_drop] at hall
  have hnames' := Path.splitText_joined hne hnames
  rw [splitText, hall] at hnames'
  obtain ⟨cs, hcs, rfl⟩ := List.mem_map.mp h
  rw [String.toList_ofList, hstart] at hcs
  rcases List.mem_append.mp hcs with hfront | hlast
  · exact ⟨String.ofList cs, hnames' ▸ List.mem_map_of_mem (List.mem_append_left _ hfront),
      Nat.le_refl _⟩
  · -- the last piece may have been cut off
    obtain rfl := List.mem_singleton.mp hlast
    exact ⟨String.ofList (cs ++ tail), hnames' ▸ List.mem_map_of_mem (by simp),
      size_le_of_sublist (List.sublist_append_left _ _)⟩

/-- The parts of the name of a module are no longer than the names on its path. -/
theorem size_le_of_mem_moduleName {names : List String} (hne : names ≠ [])
    (hnames : ∀ name ∈ names, Path.IsEntryName name) {piece : String}
    (h : piece ∈ splitText '.' (moduleName (Path.joined names))) : piece.utf8ByteSize ≤ 255 := by
  obtain ⟨parts, hname, hparts⟩ := exists_parts_moduleName (Path.joined names)
  rw [hname] at h
  rcases mem_splitText_intercalate h with rfl | ⟨part, hpart, hpiece⟩
  · decide
  · obtain ⟨name, hmem, hsize⟩ := exists_name_of_mem_start hne
      (fun name hname => (hnames name hname).toIsName) _ (hparts hpart)
    exact Nat.le_trans (size_le_of_mem_splitText hpiece)
      (Nat.le_trans hsize (hnames name hmem).short)

/-! ## Companions that fit -/

/-- A package without dots and slashes is one directory, which may be of any length. -/
theorem Artifact.Fits.of_flat {a : Artifact} (hpackage : ∀ ch ∈ a.package.toList, ch ≠ '.' ∧ ch ≠ '/')
    (hname : '/' ∉ a.name.toList) : a.Fits where
  package hslash := (hpackage _ hslash).2 rfl
  name := hname
  short s hs := by
    have hone : a.directories.length ≤ 1 := by
      rw [Artifact.directories, splitText_of_notMem fun hdot => (hpackage _ hdot).1 rfl]
      exact List.length_filter_le _ _
    have hlength := List.length_pos_of_mem hs
    rw [List.length_dropLast] at hlength
    omega

/-- The package of a named module is the name of the module. -/
theorem Artifact.Fits.of_moduleName {a : Artifact} {path : List String} (hne : path ≠ [])
    (hpath : ∀ name ∈ path, Path.IsEntryName name)
    (hpackage : a.package = moduleName (Path.joined path)) (hname : '/' ∉ a.name.toList) : a.Fits where
  package := by
    rw [hpackage]
    exact noSlash_moduleName _
  name := hname
  short s hs := by
    have hpiece := (List.mem_filter.mp (List.dropLast_subset _ hs)).1
    rw [hpackage] at hpiece
    exact size_le_of_mem_moduleName hne hpath hpiece

/-! ## The classes of an index -/

namespace ClassIndex

open Source

/-- A file below scanned roots is at the end of names of the tree. -/
theorem exists_names_of_mem_scannedFiles {t : FileTree} (ht : t.Sound) {rules : List IgnoreRule}
    {roots : List Path} {files : List SourceFile} (h : scannedFiles? t rules roots = .ok files)
    {f : SourceFile} (hf : f ∈ files) :
    ∃ top names, names ≠ [] ∧ (∀ name ∈ names, Path.IsEntryName name) ∧ f = moduleAt top names := by
  induction roots generalizing files with
  | nil =>
    obtain rfl : files = [] := (Except.ok.inj h).symm
    contradiction
  | cons root roots ih =>
    obtain ⟨first, rest, hscan, hrest, rfl⟩ := scannedFiles?_cons_eq_ok_iff.mp h
    rcases List.mem_append.mp hf with hfirst | hlater
    · exact exists_names_of_mem_scan ht hscan hfirst
    · exact ih hrest hlater

/-- A class of an index is declared by a file. -/
theorem exists_module_of_mem_values {t : FileTree} {files : List SourceFile} {c : ClassDeclaration}
    (h : c ∈ (indexOf t files).classes.values) :
    ∃ file ∈ files, ∃ d, (file, d) ∈ readModules t files ∧ c ∈ d.classes := by
  obtain ⟨e, he, rfl⟩ := List.mem_map.mp h
  have hget := OrderedMap.get?_of_mem he
  rw [get?_classes_indexOf] at hget
  obtain ⟨⟨file, d⟩, hread, hc⟩ := List.mem_flatMap.mp (List.mem_of_find?_eq_some hget)
  obtain ⟨f, hf, hdeclared⟩ := List.mem_filterMap.mp hread
  obtain ⟨declared, -, heq⟩ := Option.map_eq_some_iff.mp hdeclared
  obtain ⟨rfl, rfl⟩ := Prod.mk.inj heq
  exact ⟨f, hf, declared, hread, hc⟩

/-- The companion of a class of a sound tree fits below an output directory. -/
theorem fits_of_mem_values {t : FileTree} (ht : t.Sound) {rules : List IgnoreRule}
    {roots : List Path} {files : List SourceFile} (hfiles : scannedFiles? t rules roots = .ok files)
    {c : ClassDeclaration} (hc : c ∈ (indexOf t files).classes.values) (index : ClassIndex)
    (names : FieldNames) (debuggable : Bool) :
    (Artifact.build (index.descriptor c) names debuggable).Fits := by
  obtain ⟨file, hfile, d, hread, hmem⟩ := exists_module_of_mem_values hc
  obtain ⟨top, path, hne, hpath, rfl⟩ := exists_names_of_mem_scannedFiles ht hfiles hfile
  obtain ⟨front, id, hclass, hname, hfront⟩ := path_of_mem_classes hread hmem
  have hmodule : c.module = moduleName (Path.joined path) := by
    rw [module_eq_of_mem_classes hread hmem, moduleAt,
      namedPath_eq_joined fun name hname => (hpath name hname).toIsName]
  have hpackage : (Artifact.build (index.descriptor c) names debuggable).package
      = if c.module ≠ "" then c.module
        else String.ofList (c.key.toList.map fun ch => if ch = '.' then '_' else ch) := rfl
  have hplain : '/' ∉ (Artifact.build (index.descriptor c) names debuggable).name.toList := by
    change '/' ∉ (c.name ++ Artifact.nameEnding).toList
    rw [hname, String.toList_append, List.mem_append, not_or]
    exact ⟨id.noSlash, by decide⟩
  by_cases hempty : c.module = ""
  · -- a module without a name: the package is one directory, made from the name of the class
    rw [if_neg (by simpa using hempty)] at hpackage
    have hkey : '/' ∉ c.key.toList := by
      rw [ClassDeclaration.key, qualify, if_pos hempty, hclass, String.toList_append, List.mem_append,
        not_or]
      exact ⟨hfront, id.noSlash⟩
    refine .of_flat (fun ch hch => ?_) hplain
    rw [hpackage, String.toList_ofList] at hch
    obtain ⟨old, hold, rfl⟩ := List.mem_map.mp hch
    split
    · decide
    · rename_i hdot
      exact ⟨hdot, fun hslash => hkey (hslash ▸ hold)⟩
  · rw [if_pos hempty, hmodule] at hpackage
    exact .of_moduleName hne hpath hpackage hplain

end ClassIndex

/-- The companion of every class that is discovered in a sound tree fits below an output directory. -/
theorem fits_of_discoverClasses {t : FileTree} (ht : t.Sound) {rules : List IgnoreRule}
    {roots : List Path} {d : Discovery} (h : discoverClasses t rules roots = .ok d) {i : TypeId}
    {type : TypeDescriptor} (hget : d.graph.get? i = some type) (names : FieldNames)
    (debuggable : Bool) : (Artifact.build type names debuggable).Fits := by
  obtain ⟨files, hfiles, -, rfl⟩ := ClassIndex.discoverClasses_eq_ok_iff.mp h
  have hmem : type ∈ (ClassIndex.indexOf t files).classes.values.map
      (ClassIndex.indexOf t files).descriptor := by
    simp only [ClassIndex.toDiscovery, TypeGraph.ofList, TypeGraph.get?, List.getElem?_toArray]
      at hget
    exact List.mem_of_getElem? hget
  obtain ⟨c, hc, rfl⟩ := List.mem_map.mp hmem
  exact ClassIndex.fits_of_mem_values ht hfiles hc _ names debuggable

end Roster
