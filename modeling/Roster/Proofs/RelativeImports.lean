import Roster.Proofs.NamedTrees
import Roster.Proofs.ScanOrder

/-! # Relative imports

A relative import names a module by the package of its file: one dot is the package itself, which is the
directory of the file, and every further dot is one package up. The table of a module's imports is made
from the module's dotted name instead, and from whether the file stands for its directory. The two agree
for every file but those whose names only end as that of a package file does.

* `DotsMean`: the package that leading dots stand for.
* `packageParts_eq`: the package that the table goes by.
* `get?_importsOf`: the last import that binds a name counts.
* `relative_import_bound_iff`: for which files a relative import is bound to what it means.
-/

namespace Roster

namespace Source

/-! ## What leading dots mean -/

/-- The package that leading dots stand for in a file of a directory: one dot is the package of the
file, and every further dot is the package around. -/
inductive DotsMean (directory : List String) : Nat → List String → Prop
  | one : DotsMean directory 1 directory
  | further {level : Nat} {package : List String} {last : String}
      (h : DotsMean directory level (package ++ [last])) : DotsMean directory (level + 1) package

/-- Dots after the first take names off the end of the directory. -/
theorem dotsMean_take {directory : List String} {level : Nat} (h : level ≤ directory.length) :
    DotsMean directory (level + 1) (directory.take (directory.length - level)) := by
  induction level with
  | zero =>
    have hone : DotsMean directory 1 directory := .one
    simpa using hone
  | succ level ih =>
    have hlonger := ih (by omega)
    rw [show directory.length - level = directory.length - (level + 1) + 1 by omega,
      List.take_succ_eq_append_getElem (by omega)] at hlonger
    exact .further hlonger

/-- Every dot after the first has taken one name off. -/
theorem DotsMean.start_and_length {directory package : List String} {level : Nat}
    (h : DotsMean directory level package) :
    package <+: directory ∧ package.length + level = directory.length + 1 := by
  induction h with
  | one => exact ⟨List.prefix_refl _, rfl⟩
  | further _ ih =>
    obtain ⟨hstart, hlength⟩ := ih
    rw [List.length_append, List.length_singleton] at hlength
    exact ⟨(List.prefix_append _ _).trans hstart, by omega⟩

theorem dotsMean_iff {directory package : List String} {level : Nat} (hlevel : 1 ≤ level)
    (hup : level - 1 ≤ directory.length) :
    DotsMean directory level package ↔
      package = directory.take (directory.length - (level - 1)) := by
  constructor
  · intro h
    obtain ⟨hstart, hlength⟩ := h.start_and_length
    rw [List.prefix_iff_eq_take.mp hstart]
    congr 1
    omega
  · rintro rfl
    have hmean := dotsMean_take hup
    rwa [Nat.sub_add_cancel hlevel] at hmean

/-! ## Names of modules -/

section Module

variable {path stem : String} {directory : List String}

/-- A file below a directory, under the name of its module. -/
theorem splitText_stem (h : splitText '/' path = directory ++ [stem ++ ".py"]) :
    path = String.intercalate "/" (directory ++ [stem]) ++ ".py" ∧
      splitText '/' (String.intercalate "/" (directory ++ [stem])) = directory ++ [stem] := by
  constructor
  · rw [← intercalate_last_append, ← h]
    exact (intercalate_splitText '/' path).symm
  · refine splitText_intercalate (by simp) fun piece hpiece hslash => ?_
    rcases List.mem_append.mp hpiece with hfront | hlast
    · have hpart : piece ∈ splitText '/' path := by simp [h, hfront]
      exact (mem_of_mem_splitText hpart hslash).2 rfl
    · obtain rfl := List.mem_singleton.mp hlast
      have hpart : piece ++ ".py" ∈ splitText '/' path := by simp [h]
      exact (mem_of_mem_splitText hpart (by simp [hslash])).2 rfl

/-- A module is named by its directory and its stem, a package file by its directory alone. -/
theorem moduleName_eq (h : splitText '/' path = directory ++ [stem ++ ".py"]) :
    moduleName path = String.intercalate "."
      (if stem = packageFile then directory else directory ++ [stem]) := by
  obtain ⟨hpath, hsplit⟩ := splitText_stem h
  have hfront : String.ofList (path.toList.take (path.length - 3))
      = String.intercalate "/" (directory ++ [stem]) := by
    apply String.toList_injective
    have hlength : path.length - 3 = (String.intercalate "/" (directory ++ [stem])).toList.length := by
      rw [hpath, String.length_append, String.length_toList]
      rfl
    rw [String.toList_ofList, hlength, hpath, String.toList_append, List.take_left]
  rw [moduleName, hfront, hsplit]
  simp

/-- A module is taken for a package when its stem ends as that of a package file. -/
theorem endsWith_packageFile_iff (h : splitText '/' path = directory ++ [stem ++ ".py"]) :
    path.endsWith (packageFile ++ ".py") = true ↔ packageFile.toList <:+ stem.toList := by
  rw [← String.endsWith_toSlice, String.Slice.endsWith_string_iff, String.copy_toSlice,
    (splitText_stem h).1, String.toList_append, String.toList_append, List.suffix_append_self_iff]
  by_cases hfront : directory = []
  · simp [hfront]
  · have hslash : '/' ∉ packageFile.toList := by decide
    rw [String.intercalate_append_of_ne_nil hfront (by simp), String.intercalate_singleton]
    simpa using suffix_append_cons_iff hslash (String.intercalate "/" directory).toList stem.toList

/-- A stem that ends as that of a package file and is another. -/
structure IsNamesake (stem : String) : Prop where
  ending : packageFile.toList <:+ stem.toList
  other : stem ≠ packageFile

theorem IsNamesake.ne_empty (h : IsNamesake stem) : stem ≠ "" := by
  rintro rfl
  exact absurd h.ending (by decide)

/-! ## The package of a module -/

/-- The parts of a dotted name, of which the empty name has none. -/
theorem parts_intercalate {parts : List String} (hdots : ∀ part ∈ parts, '.' ∉ part.toList)
    (h : parts ≠ [""]) :
    (if String.intercalate "." parts = "" then []
      else splitText '.' (String.intercalate "." parts)) = parts := by
  by_cases hnil : parts = []
  · simp [hnil]
  · have hsplit : splitText '.' (String.intercalate "." parts) = parts :=
      splitText_intercalate hnil hdots
    rw [if_neg, hsplit]
    intro hempty
    rw [hempty] at hsplit
    exact h hsplit.symm

/-- Without the last of its parts a dotted name is read back in any case. -/
theorem dropLast_parts_intercalate {parts : List String}
    (hdots : ∀ part ∈ parts, '.' ∉ part.toList) :
    (if String.intercalate "." parts = "" then []
      else splitText '.' (String.intercalate "." parts)).dropLast = parts.dropLast := by
  by_cases h : parts = [""]
  · -- the one name without characters is read back as no part at all
    subst h
    rfl
  · rw [parts_intercalate hdots h]

section Package

variable (h : splitText '/' path = directory ++ [stem ++ ".py"])
  (hdots : ∀ name ∈ directory ++ [stem], '.' ∉ name.toList)

include h hdots

/-- A module goes by its directory. -/
theorem packageParts_eq (hnames : "" ∉ directory) (hother : ¬ IsNamesake stem)
    (level : Nat) :
    packageParts level (moduleName path) (path.endsWith (packageFile ++ ".py"))
      = directory.take (directory.length - (level - 1)) := by
  rw [packageParts, moduleName_eq h]
  by_cases hpackage : stem = packageFile
  · have hends : path.endsWith (packageFile ++ ".py") = true :=
      (endsWith_packageFile_iff h).mpr (hpackage ▸ List.suffix_refl _)
    have hdirectory : ∀ name ∈ directory, '.' ∉ name.toList := fun name hname =>
      hdots name (List.mem_append_left _ hname)
    have hparts : directory ≠ [""] := by
      rintro rfl
      exact hnames (List.mem_singleton_self "")
    simp only [if_pos hpackage, hends, if_true, parts_intercalate hdirectory hparts]
  · have hends : path.endsWith (packageFile ++ ".py") = false := by
      rw [← Bool.not_eq_true, endsWith_packageFile_iff h]
      exact fun hending => hother ⟨hending, hpackage⟩
    simp only [if_neg hpackage, hends, Bool.false_eq_true, if_false, dropLast_parts_intercalate hdots,
      List.dropLast_concat]

/-- A namesake of a package file goes by itself as if it were a directory, and so by one name more. -/
theorem packageParts_namesake (hnamesake : IsNamesake stem) {level : Nat}
    (hup : level - 1 ≤ directory.length) :
    ∃ further ∈ directory ++ [stem],
      packageParts level (moduleName path) (path.endsWith (packageFile ++ ".py"))
        = directory.take (directory.length - (level - 1)) ++ [further] := by
  have hparts : directory ++ [stem] ≠ [""] := by
    intro hsame
    have hlast : stem ∈ [""] := hsame ▸ List.mem_append_right directory (List.mem_singleton_self stem)
    exact hnamesake.ne_empty (List.mem_singleton.mp hlast)
  have hends : path.endsWith (packageFile ++ ".py") = true :=
    (endsWith_packageFile_iff h).mpr hnamesake.ending
  have hlength : (directory ++ [stem]).length - (level - 1) = directory.length - (level - 1) + 1 := by
    rw [List.length_append, List.length_singleton]
    omega
  rw [packageParts, moduleName_eq h]
  simp only [if_neg hnamesake.other, hends, if_true, parts_intercalate hdots hparts, hlength]
  refine ⟨(directory ++ [stem])[directory.length - (level - 1)], List.getElem_mem _, ?_⟩
  rw [List.take_succ_eq_append_getElem, List.take_append_of_le_length (Nat.sub_le _ _)]

end Package

end Module

/-! ## What a relative import binds -/

/-- A name of a package with parts of its own. -/
theorem qualify_intercalate {parts : List String} (h : "" ∉ parts) (name : String) :
    qualify (String.intercalate "." parts) name = String.intercalate "." (parts ++ [name]) := by
  by_cases hnil : parts = []
  · simp [hnil, qualify]
  · rw [qualify, if_neg (intercalate_ne_empty hnil h),
      String.intercalate_append_of_ne_nil hnil (by simp), String.intercalate_singleton]

/-- What a relative import binds a name to, told by the package that it starts from. -/
theorem nameBinding_eq {level : Nat} {source : Option String} {module : String} {package : Bool}
    {parts : List String} (hlevel : 1 ≤ level) (hparts : packageParts level module package = parts)
    (hne : "" ∉ parts) (hsource : ∀ m ∈ source, m ≠ "") (x : ImportedName) :
    nameBinding (importBase level source module package) x
      = (x.newName.getD x.name, String.intercalate "." (parts ++ source.toList ++ [x.name])) := by
  have hall : "" ∉ parts ++ source.toList := by
    rw [List.mem_append, not_or]
    exact ⟨hne, fun hempty => hsource "" (Option.mem_toList.mp hempty) rfl⟩
  rw [nameBinding, importBase, if_neg (by omega), hparts, qualify_intercalate hall]

/-- The table that a module's statements make binds a name as its last import does. -/
theorem get?_importsOf {module : String} {package : Bool} {level : Nat} {source : Option String}
    {before after : List Stmt} {first rest : List ImportedName} {x : ImportedName}
    (hname : x.name ≠ allNames)
    (hlast : ∀ binding ∈ importBindings module package (.importFrom level source rest)
      ++ after.flatMap (importBindings module package), binding.1 ≠ x.newName.getD x.name) :
    (importsOf module package (before ++ .importFrom level source (first ++ x :: rest) :: after)).get?
        (x.newName.getD x.name)
      = some (nameBinding (importBase level source module package) x).2 := by
  have hbindings : (before ++ Stmt.importFrom level source (first ++ x :: rest) :: after).flatMap
      (importBindings module package)
      = before.flatMap (importBindings module package)
        ++ importBindings module package (.importFrom level source first)
        ++ nameBinding (importBase level source module package) x
        :: (importBindings module package (.importFrom level source rest)
          ++ after.flatMap (importBindings module package)) := by
    simp [importBindings, hname]
  rw [importsOf, hbindings]
  exact OrderedMap.get?_ofList_last hlast _ _

/-- A scanned module is named by its path, of which no part is empty. -/
theorem mem_scan_names {t : FileTree} {extra : List IgnoreRule} {root : Path} {files : List SourceFile}
    (ht : t.Sound) (hscan : scan t extra root = .ok files) {f : SourceFile} (hf : f ∈ files) :
    f.module = moduleName f.relativePath ∧ "" ∉ splitText '/' f.relativePath := by
  obtain ⟨top, names, hne, hentries, rfl⟩ := exists_names_of_mem_scan ht hscan hf
  have hnames : ∀ name ∈ names, Path.IsName name := fun name hname => (hentries name hname).toIsName
  rw [moduleAt, namedPath_eq_joined hnames]
  dsimp only
  rw [Path.splitText_joined hne hnames]
  exact ⟨rfl, fun hempty => (hnames "" hempty).ne_empty rfl⟩

end Source

open Source

/-- The last import of a module that binds a name binds it to what a relative import means, the package
that its dots stand for and the names that follow, unless the file's name only ends as that of a package
file does. Such a file is told apart from package files when its module is named, but not when its
imports are. -/
theorem relative_import_bound_iff {t : FileTree} {extra : List IgnoreRule} {root : Path}
    {files : List SourceFile} {f : SourceFile} {directory : List String} {stem text : String}
    {before after : List Stmt} {level : Nat} {source : Option String}
    {first rest : List ImportedName} {x : ImportedName} (ht : t.Sound)
    (hscan : scan t extra root = .ok files) (hf : f ∈ files)
    (hpath : splitText '/' f.relativePath = directory ++ [stem ++ ".py"])
    (hdots : ∀ name ∈ directory ++ [stem], '.' ∉ name.toList) (hread : t.readText f.path = .ok text)
    (hparse : parse? text = some (before ++ .importFrom level source (first ++ x :: rest) :: after))
    (hname : x.name ≠ Source.allNames) (hlevel : 1 ≤ level) (hup : level - 1 ≤ directory.length)
    (hlast : ∀ binding ∈ importBindings f.module (isPackage f) (.importFrom level source rest)
      ++ after.flatMap (importBindings f.module (isPackage f)),
      binding.1 ≠ x.newName.getD x.name) :
    (∀ package, DotsMean directory level package ↔
        package = directory.take (directory.length - (level - 1))) ∧
      ∃ declarations, ClassIndex.declarationsIn? t f = some declarations ∧
        (declarations.imports.get? (x.newName.getD x.name)
            = some (String.intercalate "."
              (directory.take (directory.length - (level - 1)) ++ source.toList ++ [x.name])) ↔
          ¬ IsNamesake stem) := by
  obtain ⟨hmodule, hpieces⟩ := mem_scan_names ht hscan hf
  have hnames : "" ∉ directory := fun hempty => hpieces (hpath ▸ List.mem_append_left _ hempty)
  have hsource : ∀ m ∈ source, m ≠ "" := by
    have hnamed := named_of_parse? hparse _ (List.mem_append_right before List.mem_cons_self)
    cases hnamed with
    | importFrom hmodule => exact hmodule
  refine ⟨fun package => dotsMean_iff hlevel hup, _,
    ClassIndex.declarationsIn?_eq_some_iff.mpr ⟨text, _, hread, hparse, rfl⟩, ?_⟩
  dsimp only
  rw [get?_importsOf hname hlast, Option.some_inj, isPackage, hmodule]
  constructor
  · -- from a namesake the table starts one name too far down
    intro hsame hnamesake
    obtain ⟨further, hfurther, hparts⟩ := packageParts_namesake hpath hdots hnamesake hup
    have hne : "" ∉ directory.take (directory.length - (level - 1)) ++ [further] := by
      rw [List.mem_append, List.mem_singleton, not_or]
      refine ⟨fun hempty => hnames (List.mem_of_mem_take hempty), ?_⟩
      rintro rfl
      rcases List.mem_append.mp hfurther with hdirectory | hstem
      · exact hnames hdirectory
      · exact hnamesake.ne_empty (List.mem_singleton.mp hstem).symm
    rw [nameBinding_eq hlevel hparts hne hsource, List.append_assoc, List.append_assoc,
      List.singleton_append, List.append_assoc] at hsame
    exact intercalate_insert_ne (by decide) _ further (by simp) hsame
  · intro hother
    have hparts := packageParts_eq hpath hdots hnames hother level
    rw [nameBinding_eq hlevel hparts (fun hempty => hnames (List.mem_of_mem_take hempty)) hsource]

/-! ## A module that takes a class from the one beside -/

/-- What an import from a module says. -/
def Source.Stmt.importFrom? : Stmt → Option (Nat × Option String × List ImportedName)
  | .importFrom level source names => some (level, source, names)
  | _ => none

theorem importFrom?_eq_some_iff {s : Stmt} {level : Nat} {source : Option String}
    {names : List ImportedName} :
    s.importFrom? = some (level, source, names) ↔ s = .importFrom level source names := by
  cases s <;> simp [Source.Stmt.importFrom?]

/-- The text of a module that takes a class from the module beside it. -/
def boxImport : String := "from .shapes import Box\n"

theorem parse?_boxImport :
    parse? boxImport = some [.importFrom 1 (some "shapes") [⟨"Box", none⟩]] := by
  have hsays : (parse? boxImport).map (List.map Source.Stmt.importFrom?)
      = some [some (1, some "shapes", [⟨"Box", none⟩])] := by decide +kernel
  obtain ⟨body, hparse, hbody⟩ := Option.map_eq_some_iff.mp hsays
  obtain ⟨s, rfl, hs⟩ := List.map_eq_singleton_iff.mp hbody
  rw [hparse, importFrom?_eq_some_iff.mp hs]

/-- A package with one such module, of the given name. -/
def packageWith (stem : String) : FileTree where
  entries := [(["pkg"], .directory), (["pkg", stem ++ ".py"], .file boxImport.toUTF8)]
  current := []
  home := []

/-- The module in the package. -/
def moduleIn (stem : String) : SourceFile :=
  ⟨["pkg", stem ++ ".py"], "pkg/" ++ stem ++ ".py", "pkg." ++ stem⟩

/-- A module takes the class from the module beside it. -/
theorem import_bound_beside :
    ∃ declarations, ClassIndex.declarationsIn? (packageWith "crate") (moduleIn "crate")
        = some declarations ∧
      declarations.imports.get? "Box" = some "pkg.shapes.Box" := by
  have hscan : scan (packageWith "crate") [] (Path.parse "/") = .ok [moduleIn "crate"] := by
    decide +kernel
  have hpath : splitText '/' (moduleIn "crate").relativePath = ["pkg"] ++ ["crate" ++ ".py"] := by
    decide +kernel
  have hread : (packageWith "crate").readText (moduleIn "crate").path = .ok boxImport := by
    decide +kernel
  have hparse : parse? boxImport
      = some ([] ++ .importFrom 1 (some "shapes") ([] ++ ⟨"Box", none⟩ :: []) :: []) :=
    parse?_boxImport
  obtain ⟨-, declarations, hdeclares, hbound⟩ := relative_import_bound_iff
    (by decide +kernel) hscan List.mem_cons_self hpath (by decide +kernel) hread hparse (by decide)
    (by decide) (by decide) (by simp [importBindings])
  exact ⟨declarations, hdeclares, hbound.mpr fun h => absurd h.ending (by decide)⟩

/-- A module whose name ends as that of a package file takes the class from a module inside itself, where
none can be. -/
theorem import_bound_inside :
    scan (packageWith "my__init__") [] (Path.parse "/") = .ok [moduleIn "my__init__"] ∧
      splitText '/' (moduleIn "my__init__").relativePath = ["pkg"] ++ ["my__init__" ++ ".py"] ∧
      (packageWith "my__init__").readText (moduleIn "my__init__").path = .ok boxImport ∧
      parse? boxImport = some [.importFrom 1 (some "shapes") [⟨"Box", none⟩]] ∧
      DotsMean ["pkg"] 1 ["pkg"] ∧
      ∃ declarations, ClassIndex.declarationsIn? (packageWith "my__init__") (moduleIn "my__init__")
          = some declarations ∧
        declarations.imports.get? "Box" = some "pkg.my__init__.shapes.Box" ∧
        declarations.imports.get? "Box" ≠ some "pkg.shapes.Box" := by
  have hread : (packageWith "my__init__").readText (moduleIn "my__init__").path = .ok boxImport := by
    decide +kernel
  have hbound : (importsOf (moduleIn "my__init__").module (isPackage (moduleIn "my__init__"))
      [.importFrom 1 (some "shapes") [⟨"Box", none⟩]]).get? "Box"
        = some "pkg.my__init__.shapes.Box" := by
    decide +kernel
  refine ⟨by decide +kernel, by decide +kernel, hread, parse?_boxImport, .one, _,
    ClassIndex.declarationsIn?_eq_some_iff.mpr ⟨_, _, hread, parse?_boxImport, rfl⟩, hbound, ?_⟩
  dsimp only
  rw [hbound]
  decide

end Roster
