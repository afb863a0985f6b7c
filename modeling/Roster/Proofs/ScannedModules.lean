import Mathlib.Data.List.Basic
import Roster.ClassIndex

/-! # What an index of classes knows

An index is filled file by file, over all roots. A name of a module stands for the first file of that
name that can be read, and a key for the first class with that key.

* `scannedFiles?`, `readModules`: the files below all roots, and what those declare that can be read.
* `addRoots_eq_none_iff`: several roots are one list of files, if the machine takes them in.
* `get?_imports_indexOf`, `get?_classes_indexOf`: the first of several wins, in both tables.
* `module_eq_of_mem_classes`: a class bears its file's name of a module.
* `path_of_mem_classes`: the name of a class ends in an identifier, so that its key is never empty.
-/

namespace Roster
namespace ClassIndex

open Source

/-! ## Files and roots -/

/-- The files below roots in order, unless a root cannot be scanned. -/
def scannedFiles? (t : FileTree) (rules : List IgnoreRule) :
    List Path → Except ScanFault (List SourceFile)
  | [] => .ok []
  | root :: rest =>
    match scan t rules root with
    | .error fault => .error fault
    | .ok files => (scannedFiles? t rules rest).map (files ++ ·)

/-- Several roots can be scanned if the first one and the others can. -/
theorem scannedFiles?_cons_eq_ok_iff {t : FileTree} {rules : List IgnoreRule} {root : Path}
    {roots : List Path} {files : List SourceFile} :
    scannedFiles? t rules (root :: roots) = .ok files ↔
      ∃ first rest, scan t rules root = .ok first ∧ scannedFiles? t rules roots = .ok rest ∧
        first ++ rest = files := by
  rw [scannedFiles?]
  cases scan t rules root with
  | error fault => simp
  | ok first =>
    cases scannedFiles? t rules roots with
    | error fault => simp [Except.map]
    | ok rest => simp [Except.map]

/-- Below a directory that is there, the modules are those under its own rules and the others. -/
theorem scan_of_directory {t : FileTree} {rules extra : List IgnoreRule}
    {root expanded resolved : Path} (hhome : root.expandHome t.home = some expanded)
    (hresolve : t.resolve expanded = .ok resolved) (hexists : t.exists? resolved = .ok true)
    (hdirectory : t.isDirectory? resolved = .ok true)
    (hrules : ignoreFileRules t (resolved / Path.parse ".gitignore") = .ok rules) :
    scan t extra root
      = .ok ((modulesBelow t (rules ++ extra) (t.entries.length + 1) resolved.parts "").map
          fun (place, relative) => ⟨place, relative, moduleName relative⟩) := by
  unfold scan
  rw [hhome]
  simp only [hresolve, Except.mapError, bind, Except.bind, hexists, hdirectory, hrules, if_true]

/-- Names in order stay as they are. -/
theorem sortedNames_of_pairwise {names : List String} (h : names.Pairwise (· ≤ ·)) :
    sortedNames names = names :=
  List.mergeSort_of_pairwise (h.imp fun hle => decide_eq_true hle)

/-- In a directory whose names are in order, its own modules come first and then those of its
subdirectories. -/
theorem modulesBelow_of_pairwise {t : FileTree} {place : Place} (files folders : List String)
    (hfiles : ((t.namesIn place).filter fun (_, e) => e ≠ .directory).map (·.1) = files)
    (hfolders : ((t.namesIn place).filter fun (_, e) => e = .directory).map (·.1) = folders)
    (hfirst : files.Pairwise (· ≤ ·)) (hsecond : folders.Pairwise (· ≤ ·))
    (rules : List IgnoreRule) (depth : Nat) (directory : String) :
    modulesBelow t rules (depth + 1) place directory
      = ((files.filter fun name =>
          name.endsWith ".py" && !ignored rules (entryPath directory name) false).map
            fun name => (place ++ [name], entryPath directory name))
        ++ (folders.filter fun name =>
          !skippedDirectories.contains name && !ignored rules (entryPath directory name) true).flatMap
            fun name => modulesBelow t rules depth (place ++ [name]) (entryPath directory name) := by
  rw [modulesBelow, hfiles, hfolders, sortedNames_of_pairwise hfirst, sortedNames_of_pairwise hsecond]

/-- The files that can be read, with what they declare. -/
def readModules (t : FileTree) (files : List SourceFile) : List (SourceFile × Declarations) :=
  files.filterMap fun file => (declarationsIn? t file).map (file, ·)

theorem addFiles_append (t : FileTree) (index : ClassIndex) (xs ys : List SourceFile) :
    index.addFiles t (xs ++ ys)
      = (((index.addFiles t xs).1.addFiles t ys).1,
        (index.addFiles t xs).2 ++ ((index.addFiles t xs).1.addFiles t ys).2) := by
  induction xs generalizing index with
  | nil => rfl
  | cons file xs ih => simp only [List.cons_append, addFiles, ih, List.append_assoc]

/-- The machine takes in the texts of files. -/
def TakesIn (t : FileTree) (files : List SourceFile) : Prop := ∀ file ∈ files, exhaustion? t file = none

theorem takesIn_iff {t : FileTree} {files : List SourceFile} :
    TakesIn t files ↔ files.findSome? (exhaustion? t) = none := by
  rw [List.findSome?_eq_none_iff]
  rfl

/-- A machine without a limit on modules takes in the texts of all files. -/
theorem takesIn_of_unlimited {t : FileTree} (h : ∀ text, t.limits.modules text = none)
    (files : List SourceFile) : TakesIn t files := by
  intro file _
  unfold exhaustion?
  split
  · rfl
  · rw [h, ite_self]

/-- Several roots are added if the first one is, and the others then are. -/
theorem addRoots_cons_eq_none_iff {t : FileTree} {rules : List IgnoreRule}
    {index found : ClassIndex} {root : Path} {roots : List Path} {log : Log} :
    index.addRoots t rules (root :: roots) = (found, log, none) ↔
      ∃ files more, scan t rules root = .ok files ∧ TakesIn t files ∧
        (index.addFiles t files).1.addRoots t rules roots = (found, more, none) ∧
        (index.addFiles t files).2 ++ more = log := by
  rw [addRoots]
  cases scan t rules root with
  | error fault => simp
  | ok files =>
    simp only [takesIn_iff, Except.ok.injEq]
    cases htaken : files.findSome? (exhaustion? t) with
    | some how => simp [htaken]
    | none =>
      rcases hmore : (index.addFiles t files).1.addRoots t rules roots with ⟨last, more, fault⟩
      simp only [Prod.mk.injEq]
      constructor
      · rintro ⟨rfl, rfl, rfl⟩
        exact ⟨files, more, rfl, htaken, by rw [hmore], rfl⟩
      · rintro ⟨_, more', rfl, -, hrest, rfl⟩
        rw [hmore] at hrest
        obtain ⟨rfl, rfl, rfl⟩ : last = found ∧ more = more' ∧ fault = none := by simpa using hrest
        exact ⟨rfl, rfl, rfl⟩

/-- Roots are added exactly if they can be scanned and the machine takes in their files, and then as
one list of files. -/
theorem addRoots_eq_none_iff {t : FileTree} {rules : List IgnoreRule} {roots : List Path}
    {index found : ClassIndex} {log : Log} :
    index.addRoots t rules roots = (found, log, none) ↔
      ∃ files, scannedFiles? t rules roots = .ok files ∧ TakesIn t files ∧
        index.addFiles t files = (found, log) := by
  induction roots generalizing index log with
  | nil => simp [addRoots, scannedFiles?, TakesIn, addFiles]
  | cons root roots ih =>
    simp only [addRoots_cons_eq_none_iff, ih, scannedFiles?_cons_eq_ok_iff]
    constructor
    · rintro ⟨first, more, hscan, htaken, ⟨rest, hrest, hothers, hadd⟩, rfl⟩
      refine ⟨first ++ rest, ⟨first, rest, hscan, hrest, rfl⟩, ?_, ?_⟩
      · exact List.forall_mem_append.mpr ⟨htaken, hothers⟩
      · rw [addFiles_append, hadd]
    · rintro ⟨_, ⟨first, rest, hscan, hrest, rfl⟩, htaken, hadd⟩
      obtain ⟨hfirst, hothers⟩ := List.forall_mem_append.mp htaken
      rw [addFiles_append] at hadd
      obtain ⟨rfl, rfl⟩ := Prod.mk.inj hadd
      exact ⟨first, _, hscan, hfirst, ⟨rest, hrest, hothers, rfl⟩, rfl⟩

/-! ## The tables -/

theorem addClass_fst (index : ClassIndex) (c : ClassDeclaration) :
    (index.addClass c).1 = ⟨index.classes.insertNew c.key c, index.imports⟩ := by
  unfold addClass OrderedMap.insertNew
  split <;> rfl

theorem addClasses_fst (index : ClassIndex) (cs : List ClassDeclaration) :
    (index.addClasses cs).1
      = ⟨cs.foldl (fun m c => m.insertNew c.key c) index.classes, index.imports⟩ := by
  induction cs generalizing index with
  | nil => rfl
  | cons c cs ih =>
    rw [addClasses]
    simp only [ih, addClass_fst, List.foldl_cons]

/-- Files fill the two tables independently of each other. -/
theorem addFiles_fst (t : FileTree) (index : ClassIndex) (files : List SourceFile) :
    (index.addFiles t files).1
      = ⟨((readModules t files).flatMap (·.2.classes)).foldl (fun m c => m.insertNew c.key c)
          index.classes,
        (readModules t files).foldl (fun m e => m.insertNew e.1.module e.2.imports)
          index.imports⟩ := by
  induction files generalizing index with
  | nil => rfl
  | cons file files ih =>
    rw [addFiles]
    cases hd : declarationsIn? t file with
    | none =>
      have hread : readModules t (file :: files) = readModules t files := by
        rw [readModules, List.filterMap_cons, hd]
        rfl
      rw [hread]
      exact ih index
    | some d =>
      have hread : readModules t (file :: files) = (file, d) :: readModules t files := by
        rw [readModules, List.filterMap_cons, hd]
        rfl
      simp only [ih, hread, addModule, addClasses_fst, List.flatMap_cons, List.foldl_append,
        List.foldl_cons]

/-- The index of the modules of files. -/
def indexOf (t : FileTree) (files : List SourceFile) : ClassIndex := (empty.addFiles t files).1

/-- Roots that are added give the index of all their files. -/
theorem addRoots_empty {t : FileTree} {rules : List IgnoreRule} {roots : List Path}
    {files : List SourceFile} (h : scannedFiles? t rules roots = .ok files) (htaken : TakesIn t files) :
    empty.addRoots t rules roots = (indexOf t files, (empty.addFiles t files).2, none) :=
  addRoots_eq_none_iff.mpr ⟨files, h, htaken, rfl⟩

/-- Where roots were added, the machine took in all their files. -/
theorem takesIn_of_addRoots {t : FileTree} {rules : List IgnoreRule} {roots : List Path}
    {files : List SourceFile} {index found : ClassIndex} {log : Log}
    (h : index.addRoots t rules roots = (found, log, none))
    (hfiles : scannedFiles? t rules roots = .ok files) : TakesIn t files := by
  obtain ⟨_, hscanned, htaken, -⟩ := addRoots_eq_none_iff.mp h
  rw [hfiles] at hscanned
  exact Except.ok.inj hscanned ▸ htaken

/-- Discovery adds the files below all roots, if these can be scanned and the machine takes the files
in, and reports of the files and then of ancestors. -/
theorem discoverClasses_eq_ok_iff {t : FileTree} {rules : List IgnoreRule} {roots : List Path}
    {d : Discovery} :
    discoverClasses t rules roots = .ok d ↔
      ∃ files, scannedFiles? t rules roots = .ok files ∧ TakesIn t files ∧
        d = { (indexOf t files).toDiscovery with
          log := (empty.addFiles t files).2 ++ (indexOf t files).toDiscovery.log } := by
  rw [discoverClasses]
  constructor
  · intro h
    rcases hadd : empty.addRoots t rules roots with ⟨index, log, - | fault⟩
    · obtain ⟨files, hfiles, htaken, hindex⟩ := addRoots_eq_none_iff.mp hadd
      rw [addRoots_empty hfiles htaken] at h
      exact ⟨files, hfiles, htaken, (Except.ok.inj h).symm⟩
    · rw [hadd] at h
      contradiction
  · rintro ⟨files, hfiles, htaken, rfl⟩
    rw [addRoots_empty hfiles htaken]

/-- A key stands for the first class with that key. -/
theorem get?_classes_indexOf (t : FileTree) (files : List SourceFile) (key : String) :
    (indexOf t files).classes.get? key
      = ((readModules t files).flatMap (·.2.classes)).find? fun c => c.key = key := by
  have hfill := OrderedMap.get?_foldl_insertNew ClassDeclaration.key (fun c => c)
    ((readModules t files).flatMap (·.2.classes)) .empty key
  rw [OrderedMap.get?_empty, Option.none_or, Option.map_id_fun', id] at hfill
  rw [indexOf, addFiles_fst]
  exact hfill

/-- A name of a module stands for the first file of that name. -/
theorem get?_imports_indexOf (t : FileTree) (files : List SourceFile) (module : String) :
    (indexOf t files).imports.get? module
      = ((readModules t files).find? fun e => e.1.module = module).map (·.2.imports) := by
  have hfill := OrderedMap.get?_foldl_insertNew (fun e => e.1.module) (fun e => e.2.imports)
    (readModules t files) .empty module
  rw [OrderedMap.get?_empty, Option.none_or] at hfill
  rw [indexOf, addFiles_fst]
  exact hfill

/-- A class is known by its own key. -/
theorem key_of_get?_classes {t : FileTree} {files : List SourceFile} {key : String}
    {c : ClassDeclaration} (h : (indexOf t files).classes.get? key = some c) : c.key = key := by
  rw [get?_classes_indexOf] at h
  simpa using List.find?_some h

end ClassIndex

/-! ## The classes of a file -/

namespace Source

/-- A character that stands in no identifier stands in no name. -/
theorem Identifier.notMem_text (id : Identifier) {c : Char}
    (hstart : Text.isIdentifierStart c = false) (hcontinue : Text.isIdentifierContinue c = false) :
    c ∉ id.text.toList := by
  intro hmem
  have hproper := id.proper
  cases htext : id.text.toList with
  | nil =>
    rw [htext] at hmem
    contradiction
  | cons first rest =>
    rw [htext, Text.isIdentifier, Bool.and_eq_true, List.all_eq_true] at hproper
    rw [htext] at hmem
    rcases List.mem_cons.mp hmem with rfl | hrest
    · exact absurd hproper.1 (by simp [hstart])
    · exact absurd (hproper.2 c hrest) (by simp [hcontinue])

theorem Identifier.noSlash (id : Identifier) : '/' ∉ id.text.toList :=
  id.notMem_text (by decide) (by decide)

theorem Identifier.text_ne_empty (id : Identifier) : id.text ≠ "" := by
  intro hempty
  have hproper := id.proper
  rw [hempty] at hproper
  contradiction

/-- The name of a class is an identifier, and its path ends in it. -/
def NamedIn (outer : String) (c : ClassDeclaration) : Prop :=
  ∃ (front : String) (id : Identifier), c.path = outer ++ front ++ id.text ∧ c.name = id.text ∧
    '/' ∉ front.toList

theorem NamedIn.of_inner {outer inner : String} {c : ClassDeclaration}
    (h : NamedIn (outer ++ inner) c) (hinner : '/' ∉ inner.toList) : NamedIn outer c := by
  obtain ⟨front, id, hpath, hname, hfront⟩ := h
  refine ⟨inner ++ front, id, ?_, hname, ?_⟩
  · rw [hpath, String.append_assoc, String.append_assoc, String.append_assoc, String.append_assoc]
  · rw [String.toList_append, List.mem_append, not_or]
    exact ⟨hinner, hfront⟩

mutual

theorem namedIn_of_mem_classesOf {file : SourceFile} {imports : ImportTable} {outer : String}
    {s : Stmt} {c : ClassDeclaration} (h : c ∈ classesOf file imports outer s) :
    NamedIn outer c := by
  cases s with
  | classDef line name bases decorators body =>
    rw [classesOf, List.mem_cons] at h
    rcases h with rfl | h
    · exact ⟨"", name, by simp, rfl, by simp⟩
    · rw [String.append_assoc] at h
      refine (namedIn_of_mem_classesOfAll h).of_inner ?_
      rw [String.toList_append, List.mem_append, not_or]
      exact ⟨name.noSlash, by decide⟩
  | _ => simp [classesOf] at h

theorem namedIn_of_mem_classesOfAll {file : SourceFile} {imports : ImportTable} {outer : String}
    {body : List Stmt} {c : ClassDeclaration} (h : c ∈ classesOfAll file imports outer body) :
    NamedIn outer c := by
  cases body with
  | nil => simp [classesOfAll] at h
  | cons s rest =>
    rw [classesOfAll, List.mem_append] at h
    rcases h with h | h
    · exact namedIn_of_mem_classesOf h
    · exact namedIn_of_mem_classesOfAll h

end

mutual

theorem module_eq_of_mem_classesOf {file : SourceFile} {imports : ImportTable} {outer : String}
    {s : Stmt} {c : ClassDeclaration} (h : c ∈ classesOf file imports outer s) :
    c.module = file.module := by
  cases s with
  | classDef line name bases decorators body =>
    rw [classesOf, List.mem_cons] at h
    rcases h with rfl | h
    · rfl
    · exact module_eq_of_mem_classesOfAll h
  | _ => simp [classesOf] at h

theorem module_eq_of_mem_classesOfAll {file : SourceFile} {imports : ImportTable} {outer : String}
    {body : List Stmt} {c : ClassDeclaration} (h : c ∈ classesOfAll file imports outer body) :
    c.module = file.module := by
  cases body with
  | nil => simp [classesOfAll] at h
  | cons s rest =>
    rw [classesOfAll, List.mem_append] at h
    rcases h with h | h
    · exact module_eq_of_mem_classesOf h
    · exact module_eq_of_mem_classesOfAll h

end

end Source

namespace ClassIndex

open Source

/-- A file declares what its statements do, if its text is a module. -/
theorem declarationsIn?_eq_some_iff {t : FileTree} {file : SourceFile} {d : Declarations} :
    declarationsIn? t file = some d ↔
      ∃ text body, t.readText file.path = .ok text ∧ parse? text = some body ∧
        d = ⟨Source.importsOf file.module (isPackage file) body,
          classesOfAll file (Source.importsOf file.module (isPackage file) body) "" body⟩ := by
  constructor
  · intro h
    rw [declarationsIn?] at h
    split at h
    · contradiction
    · rename_i text hread
      rw [declarations?] at h
      obtain ⟨body, hbody, hd⟩ := Option.bind_eq_some_iff.mp h
      exact ⟨text, body, hread, hbody, (Option.some.inj hd).symm⟩
  · rintro ⟨text, body, hread, hbody, rfl⟩
    rw [declarationsIn?, hread]
    simp only [declarations?, hbody, Option.bind_eq_bind, Option.bind_some]

/-- What a file declares that can be read. -/
theorem declarationsIn?_of_mem_readModules {t : FileTree} {files : List SourceFile}
    {file : SourceFile} {d : Declarations} (hread : (file, d) ∈ readModules t files) :
    declarationsIn? t file = some d := by
  obtain ⟨source, -, hsource⟩ := List.mem_filterMap.mp hread
  obtain ⟨declared, hdeclared, heq⟩ := Option.map_eq_some_iff.mp hsource
  obtain ⟨rfl, rfl⟩ := Prod.mk.inj heq
  exact hdeclared

/-- What a file declares are the classes in its statements. -/
theorem classes_of_mem_readModules {t : FileTree} {files : List SourceFile} {file : SourceFile}
    {d : Declarations} (hread : (file, d) ∈ readModules t files) :
    ∃ body, d.classes = classesOfAll file d.imports "" body := by
  obtain ⟨text, body, -, -, rfl⟩ :=
    declarationsIn?_eq_some_iff.mp (declarationsIn?_of_mem_readModules hread)
  exact ⟨body, rfl⟩

/-- A class bears its file's name of a module. -/
theorem module_eq_of_mem_classes {t : FileTree} {files : List SourceFile} {file : SourceFile}
    {d : Declarations} (hread : (file, d) ∈ readModules t files) {c : ClassDeclaration}
    (hc : c ∈ d.classes) : c.module = file.module := by
  obtain ⟨body, hbody⟩ := classes_of_mem_readModules hread
  rw [hbody] at hc
  exact module_eq_of_mem_classesOfAll hc

/-- The path of a class ends in its name, which is an identifier. -/
theorem path_of_mem_classes {t : FileTree} {files : List SourceFile} {file : SourceFile}
    {d : Declarations} (hread : (file, d) ∈ readModules t files) {c : ClassDeclaration}
    (hc : c ∈ d.classes) :
    ∃ (front : String) (id : Identifier), c.path = front ++ id.text ∧ c.name = id.text ∧
      '/' ∉ front.toList := by
  obtain ⟨body, hbody⟩ := classes_of_mem_readModules hread
  rw [hbody] at hc
  obtain ⟨front, id, hpath, hname, hfront⟩ := namedIn_of_mem_classesOfAll hc
  rw [String.empty_append] at hpath
  exact ⟨front, id, hpath, hname, hfront⟩

theorem key_ne_empty {t : FileTree} {files : List SourceFile} {file : SourceFile}
    {d : Declarations} (hread : (file, d) ∈ readModules t files) {c : ClassDeclaration}
    (hc : c ∈ d.classes) : c.key ≠ "" := by
  obtain ⟨front, id, hpath, -, -⟩ := path_of_mem_classes hread hc
  intro hempty
  have hid : id.text = "" := by
    rw [ClassDeclaration.key, qualify, hpath] at hempty
    split at hempty
    · exact (String.append_eq_empty_iff.mp hempty).2
    · exact (String.append_eq_empty_iff.mp (String.append_eq_empty_iff.mp hempty).2).2
  exact id.text_ne_empty hid

/-- A class that is known has a key. -/
theorem ne_empty_of_get?_classes {t : FileTree} {files : List SourceFile} {key : String}
    {c : ClassDeclaration} (h : (indexOf t files).classes.get? key = some c) : key ≠ "" := by
  have hkey := key_of_get?_classes h
  rw [get?_classes_indexOf] at h
  obtain ⟨⟨file, d⟩, hread, hc⟩ := List.mem_flatMap.mp (List.mem_of_find?_eq_some h)
  rw [← hkey]
  exact key_ne_empty hread hc

end ClassIndex
end Roster
