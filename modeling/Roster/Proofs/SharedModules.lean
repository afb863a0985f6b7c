import Roster.Proofs.BaseLinks

/-! # Files that share a name of a module

Two files bear one name of a module when they lie below different roots, or beside each other as a
file and as the package file of a directory. Their classes all count, but the imports of the first
file stand for the module. So a base of a class is looked up with imports that may be those of
another file.

* `link?_of_binds`: a simple base leads to the class that the kept imports bind it to.
* `link?_of_not_binds`: a base that they do not bind leads nowhere if the tree has nothing of its name.
* `linked_through_first_file`: the ancestor of a class whose own file imports its base.
-/

namespace Roster
namespace ClassIndex

open Source

variable {index : ClassIndex} {c a : ClassDeclaration} {base target : String}

/-! ## Simple bases -/

theorem lookup?_of_class (h : index.classes.get? target = some a) (hops : Nat) :
    index.lookup? (hops + 1) target = some a := by
  rw [lookup?, h]

theorem splitHead_simple (hbase : '.' ∉ base.toList) : splitHead base = (base, "") :=
  splitHead_eq (splitText_of_notMem hbase)

/-- A simple base stands for what it is bound to. -/
theorem resolve_simple (hbase : '.' ∉ base.toList) (imports : ImportTable) :
    imports.resolve base = (imports.get? base).getD base := by
  rw [ImportTable.resolve, splitHead_simple hbase]
  rfl

/-- At the end of its module a simple name is passed on to what the imports there bind it to. -/
theorem redirect?_simple {module : String} (hmodule : module ≠ "") (hbase : '.' ∉ base.toList)
    (hbound : (index.importsOf module).get? base = some target) (htarget : target ≠ "") :
    index.redirect? (qualify module base) = some target := by
  have hpos : 0 < (splitText '.' module).length :=
    List.length_pos_of_ne_nil (splitText_ne_nil '.' module)
  have hmod : String.intercalate "." (splitText '.' module) = module :=
    intercalate_splitText '.' module
  rw [redirect?, splitText_qualify hmodule, splitText_of_notMem hbase, List.length_append,
    List.length_singleton]
  refine findSome?_downwards hpos (Nat.lt_succ_self _) ?_ fun i hi hin => by omega
  have hlast : (splitText '.' module ++ [base])[(splitText '.' module).length]? = some base := by
    rw [List.getElem?_append_right (Nat.le_refl _), Nat.sub_self, List.getElem?_cons_zero]
  rw [redirectAt?, hlast, List.take_left, hmod]
  simp only [Option.bind_eq_bind, Option.bind_some, hbound, if_neg htarget, List.drop_length_add_append]
  rfl

/-- A simple name without module is not passed on. -/
theorem redirect?_bare (hbase : '.' ∉ base.toList) : index.redirect? base = none := by
  rw [redirect?, splitText_of_notMem hbase]
  rfl

/-- A simple base that the imports of its module bind to another class links to that class, unless
the module has a class of its name. -/
theorem link?_of_binds (hbase : '.' ∉ base.toList)
    (hown : index.classes.get? (qualify c.module base) = none)
    (hbound : (index.importsOf c.module).get? base = some target) (htarget : target ≠ "")
    (hclass : index.classes.get? target = some a) (hother : a.key ≠ c.key) :
    index.link? c base = some a := by
  have hsecond : index.other? c ((index.importsOf c.module).resolve base) = some a := by
    rw [resolve_simple hbase, hbound, Option.getD_some, other?_eq_some_iff]
    exact ⟨lookup?_of_class hclass _, hother⟩
  -- inside the module the name leads to the same class, or nowhere if the module has no name
  have hfirst : ∀ b, index.other? c (qualify c.module base) = some b → b = a := by
    intro b hb
    have hlookup := (other?_eq_some_iff.mp hb).1
    rw [hopBound, lookup?, hown] at hlookup
    by_cases hmodule : c.module = ""
    · rw [hmodule, qualify, if_pos rfl, redirect?_bare hbase] at hlookup
      contradiction
    · rw [redirect?_simple hmodule hbase hbound htarget] at hlookup
      simp only at hlookup
      split at hlookup
      · contradiction
      · rw [lookup?_of_class hclass] at hlookup
        exact (Option.some.inj hlookup).symm
  rw [link?, candidates, List.findSome?_cons]
  cases hname : index.other? c (qualify c.module base) with
  | some b => rw [hfirst b hname]
  | none => simp only [List.findSome?_cons, hsecond]

/-- A simple base that the imports of its module do not bind links to nothing if the tree has nothing
of its name, inside the module and by itself. -/
theorem link?_of_not_binds (hbase : '.' ∉ base.toList)
    (hfree : (index.importsOf c.module).get? base = none)
    (hinside : ¬ index.Covers "" (qualify c.module base)) (hbare : ¬ index.Covers "" base) :
    index.link? c base = none := by
  have hresolve : (index.importsOf c.module).resolve base = base := by
    rw [resolve_simple hbase, hfree]
    rfl
  rw [link?, candidates, hresolve]
  simp only [List.findSome?_cons, List.findSome?_nil, other?_of_not_covers hinside,
    other?_of_not_covers hbare]

/-! ## The first file of a name -/

/-- Of the files below scanned roots, take one with a class whose first base is a simple name, bound
by the file's own imports to another class of the tree. What counts are the imports of the first file
that bears the same name of a module. If they have the same binding, the class that the file's own
imports mean is the ancestor. If they bind the base to a class, that one is the ancestor, and so no
other than it. If they do not bind the base, the base is passed over unless the tree has something
else of its name. -/
theorem linked_through_first_file {t : FileTree} {rules : List IgnoreRule} {roots : List Path}
    {files : List SourceFile} {index : ClassIndex} {log : Log}
    (hscan : empty.addRoots t rules roots = (index, log, none))
    (hfiles : scannedFiles? t rules roots = .ok files)
    {file : SourceFile} {d : Declarations} (hread : (file, d) ∈ readModules t files)
    {c : ClassDeclaration} (hc : c ∈ d.classes) {base : String} {others : List String}
    (hbases : c.bases = base :: others) (hbase : '.' ∉ base.toList)
    (hown : index.classes.get? (qualify c.module base) = none) {target : String}
    (hbound : d.imports.get? base = some target) {a : ClassDeclaration}
    (hclass : index.classes.get? target = some a) (hother : a.key ≠ c.key) :
    ∃ first d₀, (readModules t files).find? (fun e => e.1.module = file.module) = some (first, d₀) ∧
      (d₀.imports.get? base = d.imports.get? base → index.ancestor? c = some a) ∧
      (∀ target₀ a₀, d₀.imports.get? base = some target₀ → index.classes.get? target₀ = some a₀ →
        a₀.key ≠ c.key →
        index.ancestor? c = some a₀ ∧ (index.ancestor? c = some a ↔ target₀ = target)) ∧
      (d₀.imports.get? base = none → ¬ index.Covers "" (qualify c.module base) →
        ¬ index.Covers "" base → index.ancestor? c = others.findSome? (index.link? c)) := by
  obtain rfl : indexOf t files = index := by
    rw [addRoots_empty hfiles (takesIn_of_addRoots hscan hfiles)] at hscan
    exact (Prod.mk.inj hscan).1
  have hmodule : c.module = file.module := module_eq_of_mem_classes hread hc
  obtain ⟨⟨first, d₀⟩, hfirst⟩ : ∃ e, (readModules t files).find? (fun e => e.1.module = file.module)
      = some e := Option.isSome_iff_exists.mp (List.find?_isSome.mpr ⟨_, hread, by simp⟩)
  have himports : (indexOf t files).importsOf c.module = d₀.imports := by
    rw [importsOf, get?_imports_indexOf, hmodule, hfirst]
    rfl
  -- the first file's binding decides, whichever it is
  have hancestor : ∀ target₀ a₀, d₀.imports.get? base = some target₀ →
      (indexOf t files).classes.get? target₀ = some a₀ → a₀.key ≠ c.key →
      (indexOf t files).ancestor? c = some a₀ := by
    intro target₀ a₀ hbound₀ hclass₀ hother₀
    have hlink := link?_of_binds hbase hown (himports ▸ hbound₀)
      (ne_empty_of_get?_classes hclass₀) hclass₀ hother₀
    rw [ancestor?_eq, hbases, List.findSome?_cons, hlink]
  refine ⟨first, d₀, hfirst, fun hsame => ?_, ?_, ?_⟩
  · exact hancestor target a (hsame.trans hbound) hclass hother
  · intro target₀ a₀ hbound₀ hclass₀ hother₀
    have hlinked := hancestor target₀ a₀ hbound₀ hclass₀ hother₀
    refine ⟨hlinked, ?_⟩
    rw [hlinked, Option.some_inj]
    constructor
    · rintro rfl
      rw [← key_of_get?_classes hclass₀, key_of_get?_classes hclass]
    · rintro rfl
      exact Option.some.inj (hclass₀.symm.trans hclass)
  · intro hfree hinside hbare
    rw [ancestor?_eq, hbases, List.findSome?_cons,
      link?_of_not_binds hbase (himports ▸ hfree) hinside hbare]

/-! ## A file beside its package -/

/-- A tree of a file, the package file of a directory of the same name, and a module with a class. -/
def besidePackage (beside : String) : FileTree where
  entries := [(["src"], .directory), (["src", "m.py"], .file beside.toUTF8),
    (["src", "m"], .directory),
    (["src", "m", "__init__.py"],
      .file "from shapes import Box\n@fieldable\nclass Crate(Box): pass\n".toUTF8),
    (["src", "shapes.py"], .file "class Box:\n    b: int\n".toUTF8)]
  current := []
  home := []

def besideFile : SourceFile := ⟨["src", "m.py"], "m.py", "m"⟩

def packageSource : SourceFile := ⟨["src", "m", "__init__.py"], "m/__init__.py", "m"⟩

/-- The class in the package file. -/
def packedCrate : ClassDeclaration :=
  ⟨"m", "Crate", "Crate", ["Box"], [], true, false, "m/__init__.py:3"⟩

theorem scannedFiles?_besidePackage (beside : String) :
    scannedFiles? (besidePackage beside) [] [Path.parse "/src"]
      = .ok [besideFile, shapesFile, packageSource] := by
  have hroot : (Path.parse "/src").expandHome (besidePackage beside).home = some ⟨.slash, ["src"]⟩ :=
    rfl
  have hresolve : (besidePackage beside).resolve ⟨.slash, ["src"]⟩ = .ok ⟨.slash, ["src"]⟩ := rfl
  have hexists : (besidePackage beside).exists? ⟨.slash, ["src"]⟩ = .ok true := rfl
  have hdirectory : (besidePackage beside).isDirectory? ⟨.slash, ["src"]⟩ = .ok true := rfl
  have hrules : ignoreFileRules (besidePackage beside) (⟨.slash, ["src"]⟩ / Path.parse ".gitignore")
      = .ok [] := rfl
  -- the files of a directory come before those of the directories in it
  have hbelow : modulesBelow (besidePackage beside) [] 6 ["src"] ""
      = [(["src", "m.py"], "m.py"), (["src", "shapes.py"], "shapes.py"),
        (["src", "m", "__init__.py"], "m/__init__.py")] := by
    have hkept : ["m.py", "shapes.py"].filter (fun name =>
        name.endsWith ".py" && !ignored [] (entryPath "" name) false) = ["m.py", "shapes.py"] := by
      decide +kernel
    have hinner : ["__init__.py"].filter (fun name =>
        name.endsWith ".py" && !ignored [] (entryPath "m" name) false) = ["__init__.py"] := by
      decide +kernel
    have hfolder : ["m"].filter (fun name => !skippedDirectories.contains name &&
        !ignored [] (entryPath "" name) true) = ["m"] := by
      decide
    rw [modulesBelow_of_pairwise ["m.py", "shapes.py"] ["m"] rfl rfl (by decide) (by decide), hkept,
      hfolder, List.flatMap_singleton]
    change _ ++ modulesBelow _ _ 5 ["src", "m"] "m" = _
    rw [modulesBelow_of_pairwise ["__init__.py"] [] rfl rfl (by decide) .nil, hinner]
    rfl
  rw [scannedFiles?, scannedFiles?, scan_of_directory hroot hresolve hexists hdirectory hrules]
  simp only [List.append_nil]
  rw [show (besidePackage beside).entries.length + 1 = 6 from rfl, hbelow]
  rfl

/-- The file beside has the same import. -/
def besideImporting : FileTree := besidePackage "from shapes import Box\n"

theorem readModules_besideImporting :
    readModules besideImporting [besideFile, shapesFile, packageSource]
      = [(besideFile, ⟨boxImports, []⟩), (shapesFile, ⟨.empty, [box]⟩),
        (packageSource, ⟨boxImports, [packedCrate]⟩)] := by
  decide +kernel

/-- The base is linked to the class that both files import. -/
theorem linked_beside_package :
    (indexOf besideImporting [besideFile, shapesFile, packageSource]).ancestor? packedCrate
      = some box := by
  have hscanned : scannedFiles? besideImporting [] [Path.parse "/src"]
      = .ok [besideFile, shapesFile, packageSource] := scannedFiles?_besidePackage _
  have hread : (packageSource, ⟨boxImports, [packedCrate]⟩)
      ∈ readModules besideImporting [besideFile, shapesFile, packageSource] := by
    rw [readModules_besideImporting]
    simp
  have hclasses : (indexOf besideImporting [besideFile, shapesFile, packageSource]).classes.get?
      (qualify "m" "Box") = none ∧
      (indexOf besideImporting [besideFile, shapesFile, packageSource]).classes.get? "shapes.Box"
        = some box := by
    rw [indexOf, addFiles_fst, readModules_besideImporting]
    exact ⟨by decide, by decide⟩
  have htaken : TakesIn besideImporting [besideFile, shapesFile, packageSource] :=
    takesIn_of_unlimited (fun _ => rfl) _
  obtain ⟨first, d₀, hfirst, hsame, -⟩ := linked_through_first_file (addRoots_empty hscanned htaken)
    hscanned hread List.mem_cons_self (c := packedCrate) rfl (by decide) hclasses.1
    (d := ⟨boxImports, _⟩) rfl
    hclasses.2 (by decide)
  rw [readModules_besideImporting] at hfirst
  obtain ⟨-, rfl⟩ := Prod.mk.inj (Option.some.inj hfirst)
  exact hsame rfl

/-- The file beside is empty. -/
def besideEmpty : FileTree := besidePackage ""

theorem readModules_besideEmpty :
    readModules besideEmpty [besideFile, shapesFile, packageSource]
      = [(besideFile, ⟨.empty, []⟩), (shapesFile, ⟨.empty, [box]⟩),
        (packageSource, ⟨boxImports, [packedCrate]⟩)] := by
  decide +kernel

/-- The class in the package file is known, its base is imported there from the class of a module,
and its own module has no class of that name; yet it has no ancestor. -/
theorem passed_over_beside_package :
    scannedFiles? besideEmpty [] [Path.parse "/src"]
        = .ok [besideFile, shapesFile, packageSource] ∧
      (packageSource, ⟨boxImports, [packedCrate]⟩)
        ∈ readModules besideEmpty [besideFile, shapesFile, packageSource] ∧
      (indexOf besideEmpty [besideFile, shapesFile, packageSource]).classes.get? "m.Crate"
        = some packedCrate ∧
      packedCrate.bases = ["Box"] ∧
      (indexOf besideEmpty [besideFile, shapesFile, packageSource]).classes.get? (qualify "m" "Box")
        = none ∧
      boxImports.get? "Box" = some "shapes.Box" ∧
      (indexOf besideEmpty [besideFile, shapesFile, packageSource]).classes.get? "shapes.Box"
        = some box ∧
      (indexOf besideEmpty [besideFile, shapesFile, packageSource]).ancestor? packedCrate = none := by
  refine ⟨scannedFiles?_besidePackage _, ?_, ?_⟩
  · rw [readModules_besideEmpty]
    simp
  · rw [indexOf, addFiles_fst, readModules_besideEmpty]
    exact ⟨by decide, rfl, by decide, rfl, by decide, by decide⟩

end ClassIndex
end Roster
