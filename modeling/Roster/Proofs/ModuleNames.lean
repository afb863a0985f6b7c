import Roster.Proofs.RelativeImports

/-! # Modules of one name

A module is named by its path with dots for slashes, but a package file leaves its own stem out and so has
the name of its directory. Where the names on a path hold no dots this is the only way for two files to
have one name: one is a module, the other the package file of a directory beside it.

* `ModulePath`: the relative path of a module's file, with its directories and its stem.
* `ModulePath.parts_moduleName`: the parts of a name are read off it.
* `ModulePath.besidePackage_iff`: a module beside a package, by directories and stems.
* `moduleName_eq_iff`: which files have one name.
-/

namespace Roster

open Source

/-! ## Paths of single names -/

/-- A name that is one piece between slashes and between dots. -/
structure IsSingleName (name : String) : Prop where
  ne_empty : name ≠ ""
  noDot : '.' ∉ name.toList
  noSlash : '/' ∉ name.toList

instance : DecidablePred IsSingleName := fun name =>
  decidable_of_iff (name ≠ "" ∧ '.' ∉ name.toList ∧ '/' ∉ name.toList)
    ⟨fun h => ⟨h.1, h.2.1, h.2.2⟩, fun h => ⟨h.ne_empty, h.noDot, h.noSlash⟩⟩

/-- The relative path of a module's file, with its directories and its stem. -/
structure ModulePath (path : String) (directory : List String) (stem : String) : Prop where
  text : path = Path.joined (directory ++ [stem]) ++ ".py"
  single : ∀ name ∈ directory ++ [stem], IsSingleName name

/-- The relative path of a module's file, all of whose names are single. -/
def IsModulePath (path : String) : Prop := ∃ directory stem, ModulePath path directory stem

/-- A module beside a package: one path is a name with the ending, the other is that of the package file
in the directory of the same name. The name is not a package file's, which stands for a directory
itself. -/
def BesidePackage (file package : String) : Prop :=
  ∃ name, (splitText '/' name).getLast? ≠ some packageFile ∧
    file = name ++ ".py" ∧ package = name ++ "/" ++ packageFile ++ ".py"

/-- The parts of a module's name; a package file stands for its directory. -/
def moduleParts (directory : List String) (stem : String) : List String :=
  if stem = packageFile then directory else directory ++ [stem]

namespace ModulePath

variable {p q : String} {directory other : List String} {stem last : String}

/-- The names of a path without its ending. -/
theorem splitText_joined (h : ModulePath p directory stem) :
    splitText '/' (Path.joined (directory ++ [stem])) = directory ++ [stem] := by
  apply splitText_intercalate (by simp)
  intro name hname
  exact (h.single name hname).noSlash

theorem pieces (h : ModulePath p directory stem) :
    splitText '/' p = directory ++ [stem ++ ".py"] := by
  rw [h.text, Path.joined, ← intercalate_last_append]
  apply splitText_intercalate (by simp)
  intro piece hpiece
  rcases List.mem_append.mp hpiece with hfront | hlast
  · exact (h.single piece (List.mem_append_left _ hfront)).noSlash
  · obtain rfl := List.mem_singleton.mp hlast
    have hstem : '/' ∉ stem.toList := (h.single stem (by simp)).noSlash
    simpa using hstem

/-- A path has one directory and one stem. -/
theorem unique (h : ModulePath p directory stem) (h' : ModulePath p other last) :
    directory = other ∧ stem = last := by
  have hnames : directory ++ [stem] = other ++ [last] := by
    rw [← h.splitText_joined, ← h'.splitText_joined]
    congr 1
    exact String.append_left_inj ".py" |>.mp (h.text.symm.trans h'.text)
  exact List.append_singleton_inj.mp hnames

theorem eq_iff (hp : ModulePath p directory stem) (hq : ModulePath q other last) :
    p = q ↔ directory = other ∧ stem = last := by
  constructor
  · intro hsame
    exact hp.unique (hsame ▸ hq)
  · intro hsame
    rw [hp.text, hq.text, hsame.1, hsame.2]

/-! ## Names -/

theorem moduleName_eq_parts (h : ModulePath p directory stem) :
    moduleName p = String.intercalate "." (moduleParts directory stem) :=
  moduleName_eq h.pieces

theorem single_of_mem_moduleParts (h : ModulePath p directory stem) {name : String}
    (hname : name ∈ moduleParts directory stem) : IsSingleName name := by
  rw [moduleParts] at hname
  split at hname
  · exact h.single name (List.mem_append_left _ hname)
  · exact h.single name hname

/-- The parts of a name are read off it. -/
theorem parts_moduleName (h : ModulePath p directory stem) :
    (if moduleName p = "" then [] else splitText '.' (moduleName p)) = moduleParts directory stem := by
  rw [h.moduleName_eq_parts]
  apply parts_intercalate
  · intro part hpart
    exact (h.single_of_mem_moduleParts hpart).noDot
  · -- the one list of parts that is not read back from its name has an empty part
    intro hempty
    have hpart : "" ∈ moduleParts directory stem := hempty ▸ List.mem_singleton_self ""
    exact (h.single_of_mem_moduleParts hpart).ne_empty rfl

theorem moduleName_eq_iff_parts (hp : ModulePath p directory stem) (hq : ModulePath q other last) :
    moduleName p = moduleName q ↔ moduleParts directory stem = moduleParts other last := by
  constructor
  · intro hname
    rw [← hp.parts_moduleName, ← hq.parts_moduleName, hname]
  · intro hparts
    rw [hp.moduleName_eq_parts, hq.moduleName_eq_parts, hparts]

/-! ## Packages beside modules -/

/-- The package file in the directory that has a module's name. -/
theorem package (h : ModulePath p directory stem) :
    ModulePath (Path.joined (directory ++ [stem]) ++ "/" ++ packageFile ++ ".py")
      (directory ++ [stem]) packageFile where
  text := by
    have hlonger : Path.joined (directory ++ [stem] ++ [packageFile])
        = Path.joined (directory ++ [stem]) ++ "/" ++ packageFile := by
      rw [Path.joined, String.intercalate_append_of_ne_nil (by simp) (by simp),
        String.intercalate_singleton]
      rfl
    rw [hlonger]
  single := by
    intro name hname
    rcases List.mem_append.mp hname with hfront | hlast
    · exact h.single name hfront
    · obtain rfl := List.mem_singleton.mp hlast
      decide

/-- A module is beside the package whose directory has the names of the module's path. -/
theorem besidePackage_iff (hp : ModulePath p directory stem) (hq : ModulePath q other last) :
    BesidePackage p q ↔ stem ≠ packageFile ∧ last = packageFile ∧ other = directory ++ [stem] := by
  constructor
  · intro h
    rcases h with ⟨name, hname, hfile, hpackage⟩
    -- the name that both share is the module's path, so the package has the path of `package`
    have hjoined : name = Path.joined (directory ++ [stem]) :=
      (String.append_left_inj ".py").mp (hfile.symm.trans hp.text)
    rw [hjoined, hp.splitText_joined, List.getLast?_concat, ne_eq, Option.some.injEq] at hname
    rw [hjoined] at hpackage
    obtain ⟨hother, hlast⟩ := hq.unique (hpackage ▸ hp.package)
    exact ⟨hname, hlast, hother⟩
  · intro h
    rcases h with ⟨hstem, rfl, rfl⟩
    refine ⟨Path.joined (directory ++ [stem]), ?_, hp.text, ?_⟩
    · rw [hp.splitText_joined, List.getLast?_concat, ne_eq, Option.some.injEq]
      exact hstem
    · exact hq.text.trans hp.package.text.symm

end ModulePath

/-! ## Files of one name -/

/-- Two files whose paths are made of single names have one module name exactly when they are the same or
one is a module and the other the package file of a directory beside it. -/
theorem moduleName_eq_iff {p q : String} (hp : IsModulePath p) (hq : IsModulePath q) :
    moduleName p = moduleName q ↔ p = q ∨ BesidePackage p q ∨ BesidePackage q p := by
  obtain ⟨directory, stem, hp⟩ := hp
  obtain ⟨other, last, hq⟩ := hq
  rw [hp.moduleName_eq_iff_parts hq, hp.eq_iff hq, hp.besidePackage_iff hq, hq.besidePackage_iff hp,
    moduleParts, moduleParts]
  -- each of the two files is a module or stands for its directory
  by_cases hstem : stem = packageFile
  · by_cases hlast : last = packageFile
    · simp [hstem, hlast]
    · simp [hstem, hlast, Ne.symm hlast]
  · by_cases hlast : last = packageFile
    · simp [hstem, hlast, eq_comm]
    · simp [hstem, hlast]

/-- In a directory that is itself called as package files are, a module has the name of the package beside
it. -/
theorem moduleName_beside_package :
    IsModulePath "a/__init__/b.py" ∧ IsModulePath "a/__init__/b/__init__.py" ∧
      moduleName "a/__init__/b.py" = moduleName "a/__init__/b/__init__.py" := by
  have hfile : IsModulePath "a/__init__/b.py" := ⟨["a", "__init__"], "b", by decide, by decide⟩
  have hpackage : IsModulePath "a/__init__/b/__init__.py" :=
    ⟨["a", "__init__", "b"], "__init__", by decide, by decide⟩
  refine ⟨hfile, hpackage, (moduleName_eq_iff hfile hpackage).mpr (.inr (.inl ?_))⟩
  exact ⟨"a/__init__/b", by decide, by decide, by decide⟩

end Roster
